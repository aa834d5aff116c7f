import StyleDoc.Text.Basic
import StyleDoc.Text.Utf8

/-!
# Paths

A path is any bytes, and so are the names in it: they need not encode a text. It is kept as it is
spelled, since that is how it is shown and written. What it names is its list of components:
repeated and trailing slashes and inner single dots add nothing to it, while a single dot at the
beginning does. Paths are sorted by components.
-/

namespace StyleDoc

/-- The name of a file or of a directory. -/
abbrev FileName := List UInt8

structure Path where
  bytes : List UInt8
deriving DecidableEq, Repr

namespace Path

open Text

/-- The path that a text spells. -/
def ofText (text : String) : Path := ⟨Text.bytes text⟩

/-- The text by which a path is shown. Paths that are not the same can have the same text, since
what does not encode any character is replaced. -/
def text (path : Path) : String := lossy path.bytes

/-- The byte between two names. -/
def slash : UInt8 := 0x2F

def dot : UInt8 := 0x2E

/-- The name that stands for a directory inside of it. -/
def hereName : FileName := [dot]

/-- The name that stands for the directory above. -/
def aboveName : FileName := [dot, dot]

inductive Component where
  | root
  | here
  | parent
  | named (name : FileName)
deriving DecidableEq, Repr

/-- Lists in the order of a dictionary, by the order of their items. -/
def listAtMost {α : Type} [DecidableEq α] (atMost : α → α → Bool) : List α → List α → Bool
  | [], _ => true
  | _ :: _, [] => false
  | first :: firsts, second :: seconds =>
    if first = second then listAtMost atMost firsts seconds else atMost first second

namespace Component

/-- The component that a piece between two slashes spells, if it spells one. -/
def ofPiece? (piece : FileName) : Option Component :=
  if piece = [] ∨ piece = hereName then none
  else if piece = aboveName then some parent
  else some (named piece)

def rank : Component → Nat
  | root => 0
  | here => 1
  | parent => 2
  | named _ => 3

def name : Component → FileName
  | root => [slash]
  | here => hereName
  | parent => aboveName
  | named name => name

/-- Components are sorted by kind, and names among each other by their bytes. -/
def atMost (first second : Component) : Bool :=
  first.rank < second.rank ||
    first.rank == second.rank && listAtMost (fun byte other => byte.toNat ≤ other.toNat)
      first.name second.name

end Component

/-- What stands in front of the pieces: a slash for the root, or a single dot. -/
def start (pieces : List FileName) : List Component :=
  match pieces with
  | [] :: _ :: _ => [.root]
  | first :: _ => if first = hereName then [.here] else []
  | [] => []

def components (path : Path) : List Component :=
  let pieces := split slash path.bytes
  start pieces ++ pieces.filterMap Component.ofPiece?

def atMost (first second : Path) : Bool :=
  listAtMost Component.atMost (components first) (components second)

/-- The paths with only the first of any that follow each other with the same components. -/
def dropRepeats : List Path → List Path
  | [] => []
  | path :: rest =>
    match dropRepeats rest with
    | [] => [path]
    | next :: others =>
      if components path = components next then path :: others else path :: next :: others

/-- The sorted paths with one more, in front of all that it is at most equal to. -/
def insertSorted (path : Path) : List Path → List Path
  | [] => [path]
  | next :: rest =>
    if atMost path next then path :: next :: rest else next :: insertSorted path rest

/-- The paths in order; those with the same components stay as they were among each other. -/
def sort (paths : List Path) : List Path := paths.foldr insertSorted []

/-- The paths sorted, each of them once, in the spelling that came first. -/
def normalize (paths : List Path) : List Path := dropRepeats (sort paths)

/-- The path of `name` inside the directory `path`. -/
def join (path : Path) (name : FileName) : Path :=
  if path.bytes = [] then ⟨name⟩
  else if path.bytes.getLast? = some slash then ⟨path.bytes ++ name⟩
  else ⟨path.bytes ++ slash :: name⟩

/-- The path of these components, spelled without anything else. -/
def ofComponents (components : List Component) : Path :=
  components.foldl (fun path component => join path component.name) ⟨[]⟩

/-- The path and the directories above it, the longest first. -/
def ancestors (path : Path) : List Path :=
  let all := components path
  (List.range all.length).map fun dropped => ofComponents (all.take (all.length - dropped))

/-- Whether the path is the working directory itself. -/
def isHere (path : Path) : Bool := components path = [.here]

/-- The path of `name` inside `path`, without a dot for the working directory. -/
def joinPlain (path : Path) (name : FileName) : Path :=
  if isHere path then ⟨name⟩ else join path name

/-- The part of a file name behind its last dot, unless nothing stands before that dot. -/
def extension? (name : FileName) : Option (List UInt8) :=
  match cut? dot name.reverse with
  | some (extension, _ :: _) => some extension.reverse
  | _ => none

/-- Whether a file of this name is a style sheet. -/
def isStyleSheet (name : FileName) : Bool :=
  extension? name = some (Text.bytes "scss") || extension? name = some (Text.bytes "sass")

def isSeparator (c : Char) : Bool := c == '/' || c == '\\'

/-- The text without `ending`, if it ends so. -/
def dropEnding? (ending text : List Char) : Option (List Char) :=
  if ending.isSuffixOf text then some (text.take (text.length - ending.length)) else none

/-- The name under which the documentation of a source is written: what follows the last slash of
either kind in its text, without the extension of a style sheet. -/
def outputName (source : Path) : String :=
  let name := (source.text.toList.reverse.takeWhile fun c => !isSeparator c).reverse
  String.ofList
    ((dropEnding? ".scss".toList name <|> dropEnding? ".sass".toList name).getD name)

/-- The file for the documentation of a source in an output directory. -/
def outputFile (directory source : Path) : Path :=
  join directory (Text.bytes (outputName source ++ ".json"))

end Path

end StyleDoc
