/-!
# UTF-8

The bytes of a text, and the text of bytes. Not all bytes encode a text; to be shown, they are read
with a replacement character for each part of them that is ill-formed.
-/

namespace StyleDoc.Text

/-- The bytes of a text in UTF-8. -/
def bytes (text : String) : List UInt8 := text.toUTF8.data.toList

/-- The text that the bytes encode, if they encode one. -/
def ofBytes? (bytes : List UInt8) : Option String := String.fromUTF8? ⟨bytes.toArray⟩

def isContinuation (byte : UInt8) : Bool := 0x80 ≤ byte && byte ≤ 0xBF

/-- Whether a character of three or four bytes can begin with these two. -/
def beginsCharacter (lead second : UInt8) : Bool :=
  if lead = 0xE0 then 0xA0 ≤ second && second ≤ 0xBF
  else if lead = 0xED then 0x80 ≤ second && second ≤ 0x9F
  else if lead = 0xF0 then 0x90 ≤ second && second ≤ 0xBF
  else if lead = 0xF4 then 0x80 ≤ second && second ≤ 0x8F
  else 0xE0 ≤ lead && lead ≤ 0xF4 && isContinuation second

/-- The number of bytes behind `lead` that are in one ill-formed part with it. These are the ones up
to which it could have been a character. -/
def brokenTail (lead : UInt8) : List UInt8 → Nat
  | second :: rest =>
    if beginsCharacter lead second then
      if 0xF0 ≤ lead ∧ rest.head?.any isContinuation then 2 else 1
    else 0
  | [] => 0

/-- The characters of the bytes behind the first `skipped` ones. A character has four bytes at
most. -/
def lossyFrom : (skipped : Nat) → List UInt8 → List Char
  | _, [] => []
  | skipped + 1, _ :: rest => lossyFrom skipped rest
  | 0, lead :: rest =>
    match ((lead :: rest).take 4).toByteArray.utf8DecodeChar? 0 with
    | some c => c :: lossyFrom (c.utf8Size - 1) rest
    | none => '\uFFFD' :: lossyFrom (brokenTail lead rest) rest

/-- The text that is shown for bytes. -/
def lossy (bytes : List UInt8) : String := String.ofList (lossyFrom 0 bytes)

end StyleDoc.Text
