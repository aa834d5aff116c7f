/-!
# Texts as lists of characters

Everything that reads a text works on its list of characters. This module holds the cuts used all
over the library: trimming by a class of characters, splitting at a separator and joining again.
Offsets are counted in bytes of the UTF-8 encoding.
-/

namespace StyleDoc.Text

/-- Space or tab, the only characters that count as indentation. -/
def isBlank (c : Char) : Bool := c == ' ' || c == '\t'

/-- The text without the characters of the class `p` at its end. -/
def dropEndWhile (p : Char → Bool) (text : List Char) : List Char :=
  (text.reverse.dropWhile p).reverse

/-- The text without the characters of the class `p` at either end. -/
def trimBy (p : Char → Bool) (text : List Char) : List Char :=
  dropEndWhile p (text.dropWhile p)

/-- The pieces between the occurrences of `separator`; a text has one piece more than separators. -/
def split {α : Type} [DecidableEq α] (separator : α) : List α → List (List α)
  | [] => [[]]
  | c :: rest =>
    if c = separator then [] :: split separator rest
    else (split separator rest).modifyHead (c :: ·)

/-- The pieces in one text, `separator` between any two. -/
def join {α : Type} (separator : α) (pieces : List (List α)) : List α :=
  [separator].intercalate pieces

/-- What stands before the first `c` and what stands behind it, when there is one. -/
def cut? {α : Type} [DecidableEq α] (c : α) (text : List α) : Option (List α × List α) :=
  match text.dropWhile (· != c) with
  | [] => none
  | _ :: behind => some (text.takeWhile (· != c), behind)

/-- Size of the text in bytes. -/
def byteLength : List Char → Nat
  | [] => 0
  | c :: rest => c.utf8Size + byteLength rest

/-- The text from a byte offset on; there is none past the end or inside a character. -/
def fromByte? : List Char → Nat → Option (List Char)
  | text, 0 => some text
  | [], _ + 1 => none
  | c :: rest, offset + 1 =>
    if c.utf8Size ≤ offset + 1 then fromByte? rest (offset + 1 - c.utf8Size) else none

end StyleDoc.Text
