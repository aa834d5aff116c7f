import StyleDoc.Text.Basic

/-!
# White space

The characters with the Unicode property `White_Space`, and trimming by them.
-/

namespace StyleDoc.Text

/-- Whether the character lies in one of the ranges, both ends included. -/
def inRanges (ranges : List (Nat × Nat)) (c : Char) : Bool :=
  ranges.any fun range => range.1 ≤ c.toNat && c.toNat ≤ range.2

/-- The property `White_Space`. -/
def spaceRanges : List (Nat × Nat) :=
  [(0x9, 0xD), (0x20, 0x20), (0x85, 0x85), (0xA0, 0xA0), (0x1680, 0x1680), (0x2000, 0x200A),
   (0x2028, 0x2029), (0x202F, 0x202F), (0x205F, 0x205F), (0x3000, 0x3000)]

def isSpace (c : Char) : Bool := inRanges spaceRanges c

def trimStart (text : List Char) : List Char := text.dropWhile isSpace

/-- The text without white space at either end. -/
def trim (text : List Char) : List Char := trimBy isSpace text

end StyleDoc.Text
