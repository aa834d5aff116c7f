import StyleDoc.Declaration.Basic
import StyleDoc.Declaration.Block
import StyleDoc.Text.Line
import StyleDoc.Text.Word

/-!
# Reading a declaration

The declaration at the beginning of a piece of code, leading white space aside. Its first character
and the name behind it say what it can be:

* `@function` and `@mixin` need a name of their own behind white space,
* `%` begins the name of a placeholder,
* `$` begins the name of a variable, whose value stands between a colon and a semicolon.

Everything else is unknown.
-/

namespace StyleDoc.Declaration

open Text

/-- The longest name at the beginning of the text, and what follows it. -/
def spanName (text : List Char) : List Char × List Char :=
  (text.takeWhile isNameChar, text.dropWhile isNameChar)

/-! ## Headers -/

/-- What follows the first name of a header, as far as the header goes. -/
inductive Tail where
  /-- White space and a second name. -/
  | second (space name : List Char)
  /-- Some text up to a colon, and from there the text up to a semicolon. -/
  | assignment (before assigned : List Char)
  | nothing
deriving DecidableEq, Repr

/-- The characters of the tail. -/
def Tail.text : Tail → List Char
  | .second space name => space ++ name
  | .assignment before assigned => before ++ ':' :: assigned ++ [';']
  | .nothing => []

/-- The text around the first colon that has a semicolon behind it. -/
def assignment? (text : List Char) : Option (List Char × List Char) :=
  match cut? ':' text with
  | none => none
  | some (before, behind) => (cut? ';' behind).map fun found => (before, found.1)

/-- A second name is preferred to an assignment. -/
def Tail.ofText (text : List Char) : Tail :=
  let space := text.takeWhile isSpace
  let name := (spanName (text.dropWhile isSpace)).1
  if space ≠ [] ∧ name ≠ [] then .second space name
  else
    match assignment? text with
    | some (before, assigned) => .assignment before assigned
    | none => .nothing

/-- The characters that a declaration can begin with. -/
inductive Sigil where
  | atSign
  | percent
  | dollar
deriving DecidableEq, Repr

def Sigil.char : Sigil → Char
  | .atSign => '@'
  | .percent => '%'
  | .dollar => '$'

def Sigil.ofChar? : Char → Option Sigil
  | '@' => some .atSign
  | '%' => some .percent
  | '$' => some .dollar
  | _ => none

/-- The beginning of a declaration: sigil, name and tail. -/
structure Header where
  sigil : Sigil
  name : List Char
  tail : Tail
deriving DecidableEq, Repr

def Header.ofText? : List Char → Option Header
  | [] => none
  | c :: rest =>
    match Sigil.ofChar? c with
    | none => none
    | some sigil =>
      let (name, behind) := spanName rest
      if name = [] then none else some ⟨sigil, name, Tail.ofText behind⟩

/-- The characters of the header. -/
def Header.text (header : Header) : List Char :=
  header.sigil.char :: header.name ++ header.tail.text

/-- Line feeds in the text of the header, which never ends with one. -/
def Header.lineFeeds (header : Header) : Nat := Text.lineFeeds header.tail.text

/-! ## Values -/

/-- Whether a piece behind an exclamation mark is a flag: a word, and at most white space after
it. -/
def isFlag (piece : List Char) : Bool :=
  let word := dropEndWhile isSpace piece
  !word.isEmpty && word.all isWord

/-- An assigned text in two parts: the value, and the flags at its end without their exclamation
marks. The flags are as many as there are. -/
def splitFlags (assigned : List Char) : List Char × List (List Char) :=
  match split '!' assigned with
  | [] => ([], [])
  | first :: pieces =>
    let flags := (pieces.reverse.takeWhile isFlag).reverse
    let kept := (pieces.reverse.dropWhile isFlag).reverse
    (trim (join '!' (first :: kept)), flags.map (dropEndWhile isSpace))

def scopeOfFlags (flags : List (List Char)) : Scope :=
  if "global".toList ∈ flags then .globally else .locally

/-! ## Declarations -/

/-- The lines of a declaration that begins on the line `start` and has `feeds` line feeds inside,
where lines are counted at all. -/
def lineRange (start : Option Nat) (feeds : Nat) : Option LineRange :=
  start.map fun line => ⟨line, line + feeds⟩

/-- A declaration with a body. It ends with the brace that closes the body, or with its header
when no block follows. -/
def blockOf (form : BlockForm) (name : List Char) (header : Header) (text : List Char)
    (start : Option Nat) : Declaration :=
  match Block.first? text with
  | some (before, body) =>
    .block form (String.ofList name) (String.ofList body)
      (lineRange start (Text.lineFeeds before + Text.lineFeeds body))
  | none => .block form (String.ofList name) "" (lineRange start header.lineFeeds)

/-- The declaration that the text begins with, on the line `start`. -/
def ofText (text : List Char) (start : Option Nat) : Declaration :=
  match Header.ofText? text with
  | none => .unknown
  | some header =>
    match header.sigil, header.tail with
    | .atSign, .second _ name =>
      if header.name = "function".toList then blockOf .function name header text start
      else if header.name = "mixin".toList then blockOf .mixin name header text start
      else .unknown
    | .percent, _ => blockOf .placeholder header.name header text start
    | .dollar, .assignment _ assigned =>
      let (value, flags) := splitFlags assigned
      .var (String.ofList header.name) (String.ofList value) (scopeOfFlags flags)
        (lineRange start header.lineFeeds)
    | _, _ => .unknown

/-- The declaration at the beginning of the code, behind white space. With `line` the number of the
line on which the code begins, the declaration gets its lines. -/
def read (code : List Char) (line : Option Nat) : Declaration :=
  let lead := code.takeWhile isSpace
  ofText (trimStart code) (line.map (· + Text.lineFeeds lead))

/-! ## Looking lines up -/

/-- The byte offset at which the declaration ends that the text begins with. This is the offset of
the brace that closes the first block or, for a variable and where no block follows, of the last
byte of the header. -/
def lastByte (header : Header) (text : List Char) : Nat :=
  match if header.sigil = .dollar then none else Block.first? text with
  | some (before, body) => byteLength before + 1 + byteLength body
  | none => byteLength header.text - 1

/-- The declaration at the beginning of the code, behind white space, with the lines on which its
first and its last byte stand when `lineOf` finds the line of every offset in the code. -/
def readIn (lineOf : Nat → Nat) (code : List Char) : Declaration :=
  let lead := byteLength (code.takeWhile isSpace)
  let text := trimStart code
  let lines := (Header.ofText? text).map fun header =>
    ⟨lineOf lead, lineOf (lead + lastByte header text)⟩
  (ofText text none).mapLines fun _ => lines

end StyleDoc.Declaration
