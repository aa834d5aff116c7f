import StyleDoc.Json.Basic
import StyleDoc.Text.Line
import StyleDoc.Text.Lowercase
import StyleDoc.Text.Word

/-!
# Fields of annotation texts

The text behind a tag is read into a string or into named fields. Each reader takes its fields one
after the other from the beginning of the text; white space may stand between any two of them.

* `parameter` reads a type in braces, a name, a default in brackets and a description,
* `returned` a type in braces and a description,
* `requirement` a type in braces and a name,
* `version` a version and a description,
* `link` an address and a caption,
* `sample` a language and a description on the first line, and code below it.
-/

namespace StyleDoc.Annotation

open Text

/-! ## Parts of a text -/

/-- What stands between an opening mark at the beginning of the text and the closing one, and what
follows. -/
def enclosed? (opening closing : Char) : List Char → Option (List Char × List Char)
  | [] => none
  | c :: rest => if c = opening then cut? closing rest else none

/-- Takes an enclosed part off the text when it begins with one. White space around it goes too. -/
def takeEnclosed (opening closing : Char) (text : List Char) : Option (List Char) × List Char :=
  let text := trimStart text
  match enclosed? opening closing text with
  | some (inside, rest) => (some inside, trimStart rest)
  | none => (none, text)

/-- The text without a dash at its beginning and the white space behind that. -/
def dropDash : List Char → List Char
  | '-' :: rest => trimStart rest
  | text => text

/-- The text without a dollar sign at its beginning. -/
def dropDollar : List Char → List Char
  | '$' :: rest => rest
  | text => text

/-- The longest beginning in the class `p`, if it is not empty, and what follows. -/
def spanSome (p : Char → Bool) (text : List Char) : Option (List Char × List Char) :=
  match text.takeWhile p with
  | [] => none
  | c :: rest => some (c :: rest, text.dropWhile p)

/-- A field with its text, as far as it is there. -/
abbrev Fields := List (String × Option (List Char))

/-- The object of the fields that are there and not white space alone, each without white space
around it. -/
def Fields.toJson (fields : Fields) : Json :=
  .obj (fields.foldl (fun done field =>
    match (field.2.map trim).getD [] with
    | [] => done
    | text => insertEntry field.1 (.str (String.ofList text)) done) [])

/-! ## Plain texts -/

def plain (text : List Char) : Option Json := some (.str (String.ofList (trim text)))

def lowered (text : List Char) : Option Json :=
  some (.str (String.ofList (lowercase (trim text))))

/-- The first word, if there is any. -/
def word (text : List Char) : Option Json :=
  (spanSome (fun c => !isSpace c) (trimStart text)).map fun found =>
    .str (String.ofList found.1)

def nothing (_ : List Char) : Option Json := none

/-! ## Texts with fields -/

def isParameterChar (c : Char) : Bool := isWord c || c == '.' || c == '-'

def parameter (text : List Char) : Option Json :=
  let (type, text) := takeEnclosed '{' '}' text
  (spanSome isParameterChar (dropDollar text)).map fun (name, text) =>
    let (default, text) := takeEnclosed '[' ']' text
    Fields.toJson [("type", type), ("name", some name), ("default", default),
      ("description", some (dropDash text))]

def returned (text : List Char) : Option Json :=
  let (type, description) := takeEnclosed '{' '}' text
  some (Fields.toJson [("type", type), ("description", some description)])

/-- Takes a word in braces off the text when it begins with one. -/
def takeWordInBraces (text : List Char) : Option (List Char) × List Char :=
  let text := trimStart text
  match enclosed? '{' '}' text with
  | some (inside, rest) =>
    if inside ≠ [] ∧ inside.all isWord then (some inside, trimStart rest) else (none, text)
  | none => (none, text)

/-- What is required is a variable behind a dollar sign and otherwise a function, unless a type says
what it is. -/
def requirement (text : List Char) : Option Json :=
  let (type, text) := takeWordInBraces text
  let kind := type.getD (if text.head? = some '$' then "variable".toList else "function".toList)
  (spanSome isNameChar (dropDollar text)).map fun (name, _) =>
    Fields.toJson [("type", some kind), ("name", some name)]

def version (text : List Char) : Option Json :=
  (spanSome (fun c => !isSpace c) (trimStart text)).map fun (version, text) =>
    Fields.toJson [("version", some version), ("description", some (dropDash (trimStart text)))]

def link (text : List Char) : Option Json :=
  (spanSome (fun c => !isSpace c) (trimStart text)).map fun (url, caption) =>
    Fields.toJson [("url", some url), ("caption", some caption)]

/-! ## Examples -/

/-- The text before the last dash, and what follows that dash. -/
def cutLastDash? (text : List Char) : Option (List Char × List Char) :=
  (cut? '-' text.reverse).map fun (behind, before) => (before.reverse, behind.reverse)

/-- Language and description in the first line of an example. The language is a name, and a dash
stands between the two. When something else than a dash follows the longest name that the line
begins with, the last dash inside that name is the one between them. -/
def sampleHead (head : List Char) : Option (List Char) × Option (List Char) :=
  let name := head.takeWhile isNameChar
  match trimStart (head.dropWhile isNameChar) with
  | [] => (some name, none)
  | '-' :: description => (some name, some description)
  | _ =>
    match cutLastDash? name with
    | some (language, inside) => (some language, some (inside ++ head.dropWhile isNameChar))
    | none => (none, none)

def isLineFeed (c : Char) : Bool := c == '\n'

/-- The language of an example is SCSS when its first line names no other. -/
def sample (text : List Char) : Option Json :=
  let (head, body) := (cut? '\n' text).getD (text, [])
  let (language, description) := sampleHead (trim head)
  let language := (language.filter (· ≠ [])).getD "scss".toList
  let code := trimBy isLineFeed (joinLines (dedent (splitLines body)))
  some (Fields.toJson [("type", some language), ("description", description),
    ("code", some code)])

end StyleDoc.Annotation
