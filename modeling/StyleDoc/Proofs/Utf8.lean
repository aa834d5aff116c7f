import Mathlib.Tactic.SplitIfs
import StyleDoc.Text.Utf8

/-!
# Bytes of texts

A text is found again from its bytes, whether they are read strictly or with replacements. The
characters below 128 are bytes of their own, and no other character has such a byte in its encoding.
-/

namespace StyleDoc.Text

theorem bytes_eq_flatMap (text : String) :
    bytes text = text.toList.flatMap String.utf8EncodeChar := by
  conv => lhs; rw [← String.ofList_toList (s := text)]
  rw [bytes, String.toUTF8_eq_toByteArray, String.toByteArray_ofList, List.utf8Encode,
    List.data_toByteArray]

theorem bytes_append (first second : String) :
    bytes (first ++ second) = bytes first ++ bytes second := by
  rw [bytes_eq_flatMap, bytes_eq_flatMap, bytes_eq_flatMap, String.toList_append,
    List.flatMap_append]

/-! ## Small bytes -/

theorem toNat_eq_of_mem_utf8EncodeChar {byte : UInt8} {c : Char} (small : byte.toNat < 128)
    (member : byte ∈ String.utf8EncodeChar c) : c.val.toNat = byte.toNat := by
  unfold String.utf8EncodeChar at member
  dsimp only at member
  generalize c.val.toNat = n at *
  split_ifs at member <;>
    simp only [List.mem_cons, List.not_mem_nil, or_false, ← UInt8.toNat_inj,
      UInt8.toNat_ofNat'] at member <;>
    omega

/-- A character with the number of a byte is in the text if the byte is among those of the text. -/
theorem mem_of_mem_bytes {text : String} {byte : UInt8} {c : Char} (small : byte.toNat < 128)
    (number : c.val.toNat = byte.toNat) (member : byte ∈ bytes text) : c ∈ text.toList := by
  rw [bytes_eq_flatMap] at member
  obtain ⟨d, listed, inside⟩ := List.mem_flatMap.1 member
  have same : d = c := Char.ext (UInt32.toNat_inj.1
    ((toNat_eq_of_mem_utf8EncodeChar small inside).trans number.symm))
  exact same ▸ listed

/-! ## Reading bytes -/

theorem fromUTF8?_toUTF8 (text : String) : String.fromUTF8? text.toUTF8 = some text := by
  have valid : text.toUTF8.IsValidUTF8 := text.isValidUTF8
  exact dif_pos valid

theorem ofBytes?_bytes (text : String) : ofBytes? (bytes text) = some text := by
  rw [ofBytes?, bytes, Array.toArray_toList]
  exact fromUTF8?_toUTF8 text

theorem bytes_inj {first second : String} : bytes first = bytes second ↔ first = second := by
  refine ⟨fun same => ?_, congrArg bytes⟩
  have read := congrArg ofBytes? same
  rw [ofBytes?_bytes, ofBytes?_bytes] at read
  exact Option.some.inj read

theorem lossyFrom_append (skipped rest : List UInt8) :
    lossyFrom skipped.length (skipped ++ rest) = lossyFrom 0 rest := by
  induction skipped with
  | nil => rfl
  | cons byte skipped inductionHypothesis => exact inductionHypothesis

/-- An encoded character is read, whatever stands behind it. -/
theorem lossyFrom_utf8EncodeChar (c : Char) (rest : List UInt8) :
    lossyFrom 0 (String.utf8EncodeChar c ++ rest) = c :: lossyFrom 0 rest := by
  have size := String.length_utf8EncodeChar c
  have decoded :
      ((String.utf8EncodeChar c ++ rest).take 4).toByteArray.utf8DecodeChar? 0 = some c := by
    rw [List.take_append, List.take_of_length_le (size ▸ c.utf8Size_le_four),
      List.toByteArray_append]
    exact ByteArray.utf8DecodeChar?_utf8EncodeChar_append
  obtain ⟨lead, more, encoded⟩ := List.exists_cons_of_ne_nil (String.utf8EncodeChar_ne_nil (c := c))
  rw [encoded] at decoded size ⊢
  have behind : more.length = c.utf8Size - 1 := by rw [← size]; rfl
  rw [List.cons_append] at decoded ⊢
  rw [lossyFrom, decoded]
  dsimp only
  rw [← behind, lossyFrom_append]

/-- What is shown for the bytes of a text is the text. -/
@[simp]
theorem lossy_bytes (text : String) : lossy (bytes text) = text := by
  have read : ∀ characters : List Char,
      lossyFrom 0 (characters.flatMap String.utf8EncodeChar) = characters := by
    intro characters
    induction characters with
    | nil => rfl
    | cons c rest inductionHypothesis =>
      rw [List.flatMap_cons, lossyFrom_utf8EncodeChar, inductionHypothesis]
  rw [lossy, bytes_eq_flatMap, read, String.ofList_toList]

end StyleDoc.Text
