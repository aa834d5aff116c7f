import StyleDoc.Text.Basic

/-!
# Blocks

The body of a block runs from an opening brace to the brace that closes it. Braces count as such
only in code: those inside a quoted string, a line comment or a block comment are passed over. The
reader goes through the text one character at a time and remembers in a `Mode` where it stands.
-/

namespace StyleDoc.Block

/-- Where in a style sheet a character stands. The modes in which two characters can act together
hold the character before, or a space when that one has already acted. -/
inductive Mode where
  | code (last : Char)
  | lineComment
  | blockComment (last : Char)
  | quoted (quote last : Char)
deriving DecidableEq, Repr

def isQuote (c : Char) : Bool := c == '"' || c == '\''

/-- The mode after one more character. A comment mark needs both its characters for itself, so
after one the text goes on as after a space. A quote behind a backslash neither opens nor closes a
string. -/
def Mode.step : Mode → Char → Mode
  | .code last, c =>
    if last = '/' ∧ c = '/' then .lineComment
    else if last = '/' ∧ c = '*' then .blockComment ' '
    else if last = '*' ∧ c = '/' then .code ' '
    else if isQuote c ∧ last ≠ '\\' then .quoted c c
    else .code c
  | .lineComment, c => if c = '\n' then .code c else .lineComment
  | .blockComment last, c =>
    if last = '/' ∧ c = '*' then .blockComment ' '
    else if last = '*' ∧ c = '/' then .code ' '
    else .blockComment c
  | .quoted quote last, c =>
    if c = quote ∧ last ≠ '\\' then .code c else .quoted quote c

/-- Whether a brace in this mode opens or closes a block. -/
def Mode.isCode : Mode → Bool
  | .code _ => true
  | _ => false

/-- The text up to the brace that closes the block around it, and what stands behind that brace,
where `inner` blocks opened inside are still to be closed before. -/
def bodyFrom? (mode : Mode) (inner : Nat) : List Char → Option (List Char × List Char)
  | [] => none
  | c :: rest =>
    if mode.isCode ∧ c = '}' then
      match inner with
      | 0 => some ([], rest)
      | inner + 1 => (bodyFrom? (mode.step c) inner rest).map fun found => (c :: found.1, found.2)
    else
      let inner := if mode.isCode ∧ c = '{' then inner + 1 else inner
      (bodyFrom? (mode.step c) inner rest).map fun found => (c :: found.1, found.2)

/-- The body of a block whose opening brace stands just before the text. -/
def body? (text : List Char) : Option (List Char) :=
  (bodyFrom? (.code '{') 0 text).map (·.1)

/-- The text before the first opening brace, and the body of the block that it opens. -/
def first? (text : List Char) : Option (List Char × List Char) :=
  match Text.cut? '{' text with
  | none => none
  | some (before, behind) => (body? behind).map fun body => (before, body)

/-- The byte offsets at which the body of the first block at or behind `offset` begins and ends. -/
def span? (text : List Char) (offset : Nat) : Option (Nat × Nat) :=
  match (Text.fromByte? text offset).bind first? with
  | none => none
  | some (before, body) =>
    let start := offset + Text.byteLength before + 1
    some (start, start + Text.byteLength body)

/-- The body of the first block at or behind the byte `offset`, empty when there is none. -/
def bodyAt (text : List Char) (offset : Nat) : List Char :=
  (((Text.fromByte? text offset).bind first?).map (·.2)).getD []

end StyleDoc.Block
