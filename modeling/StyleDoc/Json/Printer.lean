import StyleDoc.Json.Basic

/-!
# JSON text

A value is written in one of two layouts. The compact one has no space at all; the pretty one puts
every item and every field on a line of its own, two spaces deeper than the brackets around it.
-/

namespace StyleDoc.Json

inductive Layout where
  | compact
  | pretty
deriving DecidableEq, Repr

/-- What stands before an item at this depth. -/
def Layout.lineBreak : Layout → Nat → List Char
  | compact, _ => []
  | pretty, depth => '\n' :: List.replicate (2 * depth) ' '

/-- What stands between a key and its value. -/
def Layout.colon : Layout → List Char
  | compact => [':']
  | pretty => [':', ' ']

/-! ## Strings and numbers -/

/-- A digit of the hexadecimal system, for a number below sixteen. -/
def hexDigit (n : Nat) : Char := Char.ofNat (if n < 10 then 48 + n else 87 + n)

/-- One character inside a string: only quotes, backslashes and control characters change. -/
def escape (c : Char) : List Char :=
  if c = '"' then ['\\', '"']
  else if c = '\\' then ['\\', '\\']
  else if c = '\n' then ['\\', 'n']
  else if c = '\r' then ['\\', 'r']
  else if c = '\t' then ['\\', 't']
  else if c = '\x08' then ['\\', 'b']
  else if c = '\x0c' then ['\\', 'f']
  else if c.toNat < 32 then ['\\', 'u', '0', '0', hexDigit (c.toNat / 16), hexDigit (c.toNat % 16)]
  else [c]

def writeString (text : String) : List Char := '"' :: text.toList.flatMap escape ++ ['"']

def writeInt : Int → List Char
  | .ofNat n => Nat.toDigits 10 n
  | .negSucc n => '-' :: Nat.toDigits 10 (n + 1)

/-! ## Values -/

mutual

/-- The text of the value inside `depth` brackets. -/
def write (layout : Layout) (depth : Nat) : Json → List Char
  | null => ['n', 'u', 'l', 'l']
  | bool true => ['t', 'r', 'u', 'e']
  | bool false => ['f', 'a', 'l', 's', 'e']
  | int value => writeInt value
  | str value => writeString value
  | arr [] => ['[', ']']
  | arr (item :: items) =>
    '[' :: layout.lineBreak (depth + 1) ++ write layout (depth + 1) item ++
      writeItems layout (depth + 1) items ++ layout.lineBreak depth ++ [']']
  | obj [] => ['{', '}']
  | obj ((key, value) :: fields) =>
    '{' :: layout.lineBreak (depth + 1) ++ writeString key ++ layout.colon ++
      write layout (depth + 1) value ++ writeFields layout (depth + 1) fields ++
      layout.lineBreak depth ++ ['}']

/-- Further items of a list, each behind a comma. -/
def writeItems (layout : Layout) (depth : Nat) : List Json → List Char
  | [] => []
  | item :: items =>
    ',' :: layout.lineBreak depth ++ write layout depth item ++ writeItems layout depth items

/-- Further fields of an object, each behind a comma. -/
def writeFields (layout : Layout) (depth : Nat) : List (String × Json) → List Char
  | [] => []
  | (key, value) :: fields =>
    ',' :: layout.lineBreak depth ++ writeString key ++ layout.colon ++ write layout depth value ++
      writeFields layout depth fields

end

/-- The JSON text of the value. -/
def render (layout : Layout) (value : Json) : String := String.ofList (write layout 0 value)

end StyleDoc.Json
