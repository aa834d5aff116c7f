import StyleDoc.Json.Printer

/-!
# Reading JSON text

What a JSON text denotes, among the values with whole numbers only. The reader goes by the format
and not by the printer: gaps may stand between any two parts, and a string may be written with any
of the escapes. It knows no fractions, exponents and surrogate pairs, and it does not mind zeros at
the beginning of a number.
-/

namespace StyleDoc.Json

/-! ## Gaps and marks -/

/-- The characters that may stand between the parts of a text. -/
def isGap (c : Char) : Bool := c == ' ' || c == '\n' || c == '\r' || c == '\t'

def skipGap (text : List Char) : List Char := text.dropWhile isGap

/-- What follows the mark, which comes next. -/
def expect? (mark : Char) (text : List Char) : Option (List Char) :=
  match skipGap text with
  | [] => none
  | c :: rest => if c = mark then some rest else none

/-! ## Strings -/

def hexValue? (c : Char) : Option Nat :=
  if c.isDigit then some (c.toNat - 48)
  else if 'a' ≤ c ∧ c ≤ 'f' then some (c.toNat - 87)
  else if 'A' ≤ c ∧ c ≤ 'F' then some (c.toNat - 55)
  else none

/-- The character with this code point in hexadecimal digits. -/
def charOfHex? (digits : List Char) : Option Char := do
  let values ← digits.mapM hexValue?
  let code := values.foldl (fun code value => 16 * code + value) 0
  if code.isValidChar then some (Char.ofNat code) else none

/-- The character of an escape of one letter or mark. -/
def unescape? : Char → Option Char
  | '"' => some '"'
  | '\\' => some '\\'
  | '/' => some '/'
  | 'b' => some '\x08'
  | 'f' => some '\x0c'
  | 'n' => some '\n'
  | 'r' => some '\r'
  | 't' => some '\t'
  | _ => none

/-- The characters of a string up to the quote that ends it, and what follows that quote. -/
def readChars? : List Char → Option (List Char × List Char)
  | [] => none
  | '"' :: rest => some ([], rest)
  | '\\' :: 'u' :: first :: second :: third :: fourth :: rest => do
    let c ← charOfHex? [first, second, third, fourth]
    (readChars? rest).map fun found => (c :: found.1, found.2)
  | '\\' :: mark :: rest => do
    let c ← unescape? mark
    (readChars? rest).map fun found => (c :: found.1, found.2)
  | c :: rest =>
    if c = '\\' ∨ c.toNat < 32 then none
    else (readChars? rest).map fun found => (c :: found.1, found.2)

def readString? (text : List Char) : Option (String × List Char) :=
  match skipGap text with
  | '"' :: rest => (readChars? rest).map fun found => (String.ofList found.1, found.2)
  | _ => none

/-! ## Values -/

def readDigits? (text : List Char) : Option (Nat × List Char) :=
  match text.takeWhile Char.isDigit with
  | [] => none
  | digits => some (Nat.ofDigitChars 10 digits 0, text.dropWhile Char.isDigit)

/-- A value without brackets at the beginning of the text. -/
def readScalar? : List Char → Option (Json × List Char)
  | 'n' :: 'u' :: 'l' :: 'l' :: rest => some (null, rest)
  | 't' :: 'r' :: 'u' :: 'e' :: rest => some (bool true, rest)
  | 'f' :: 'a' :: 'l' :: 's' :: 'e' :: rest => some (bool false, rest)
  | '"' :: rest => (readChars? rest).map fun found => (str (String.ofList found.1), found.2)
  | '-' :: rest => (readDigits? rest).map fun found => (int (-found.1), found.2)
  | text => (readDigits? text).map fun found => (int found.1, found.2)

section Parts

variable {α : Type} (mark : Char) (part? : List Char → Option (α × List Char))

/-- Further parts up to the mark that ends them, each behind a comma. -/
def readMore? : Nat → List Char → Option (List α × List Char)
  | 0, _ => none
  | fuel + 1, text =>
    match expect? mark text with
    | some rest => some ([], rest)
    | none => do
      let rest ← expect? ',' text
      let (part, rest) ← part? rest
      let (parts, rest) ← readMore? fuel rest
      return (part :: parts, rest)

/-- All parts up to the mark that ends them. -/
def readParts? (fuel : Nat) (text : List Char) : Option (List α × List Char) :=
  match expect? mark text with
  | some rest => some ([], rest)
  | none => do
    let (part, rest) ← part? text
    let (parts, rest) ← readMore? mark part? fuel rest
    return (part :: parts, rest)

end Parts

/-- A key and the value behind its colon. -/
def readField? (value? : List Char → Option (Json × List Char)) (text : List Char) :
    Option ((String × Json) × List Char) := do
  let (key, rest) ← readString? text
  let rest ← expect? ':' rest
  let (value, rest) ← value? rest
  return ((key, value), rest)

/-- The value that comes next, and what follows it. The fuel bounds the depth of the value and the
number of parts at each depth, and both of them are less than the number of characters. -/
def read? : Nat → List Char → Option (Json × List Char)
  | 0, _ => none
  | fuel + 1, text =>
    match skipGap text with
    | '[' :: rest =>
      (readParts? ']' (read? fuel) fuel rest).map fun found => (arr found.1, found.2)
    | '{' :: rest =>
      (readParts? '}' (readField? (read? fuel)) fuel rest).map fun found =>
        (obj found.1, found.2)
    | rest => readScalar? rest

/-- The value that a whole text denotes. -/
def denoted? (text : String) : Option Json :=
  match read? text.toList.length text.toList with
  | some (value, rest) => if (skipGap rest).isEmpty then some value else none
  | none => none

end StyleDoc.Json
