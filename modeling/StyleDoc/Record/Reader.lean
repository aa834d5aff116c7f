import StyleDoc.Annotation.Registry
import StyleDoc.Comment.Basic
import StyleDoc.Record.Basic
import StyleDoc.Warning

/-!
# Reading a record

Each line of a comment is part of the description, or it gives a value to an annotation, or it is
refused with a warning. `Registry.readLine` decides which of these it is, and a record is built from
what its lines have been found to be.
-/

namespace StyleDoc

/-! ## Tags -/

/-- The characters of tags: letters and digits of ASCII, and the underscore. -/
def isTagChar (c : Char) : Bool := c.isAlphanum || c == '_'

/-- The tag that the line begins with, behind an at sign, and what follows the tag. -/
def splitTag? : List Char → Option (List Char × List Char)
  | '@' :: rest =>
    match rest.takeWhile isTagChar with
    | [] => none
    | tag => some (tag, rest.dropWhile isTagChar)
  | _ => none

/-! ## Lines -/

/-- What a line of a comment is found to be. -/
inductive Reading where
  | plain (line : List Char)
  | refused (warning : Warning)
  | entry (name : String) (value : Option Json)
deriving DecidableEq, Repr

namespace Registry

/-- Reads the text behind a tag, on a declaration of this kind. -/
def readTag (registry : Registry) (kind : Kind) (tag : String) (behind : List Char) : Reading :=
  let name := registry.resolve tag
  match registry.find? name with
  | none => .refused (.unknownTag tag)
  | some meaning =>
    if meaning.allowedOn kind then .entry name (meaning.read (Text.trimBy Text.isBlank behind))
    else .refused (.notAllowed name kind)

def readLine (registry : Registry) (kind : Kind) (line : List Char) : Reading :=
  match splitTag? line with
  | none => .plain line
  | some (tag, behind) => registry.readTag kind (String.ofList tag) behind

def readLines (registry : Registry) (kind : Kind) (lines : List (List Char)) : List Reading :=
  lines.map (registry.readLine kind)

end Registry

/-! ## Records -/

namespace Reading

/-- The part of the description that the line gives, with a line feed behind it. -/
def description : Reading → List Char
  | plain line => line ++ ['\n']
  | _ => []

def warning? : Reading → Option Warning
  | refused warning => some warning
  | _ => none

/-- The slots after the line. A slot is there from the first line with its name on, also when that
line gives no value. -/
def fill (slots : NameMap Slot) : Reading → NameMap Slot
  | entry name value =>
    let slot := (slots.find? name).getD (.values [])
    slots.insert name (value.elim slot slot.add)
  | _ => slots

end Reading

/-- The slots that the lines fill, one line after the other. -/
def slotsOf (readings : List Reading) : NameMap Slot := readings.foldl Reading.fill .empty

def warningsOf (readings : List Reading) : List Warning := readings.filterMap Reading.warning?

/-- The record of a declaration and the lines of its comment. -/
def Record.ofReadings (declaration : Declaration) (readings : List Reading) : Record where
  description := String.ofList (readings.flatMap Reading.description)
  declaration := declaration
  annotations := slotsOf readings

end StyleDoc
