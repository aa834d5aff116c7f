import Mathlib.Tactic.SplitIfs
import StyleDoc.NameMap
import StyleDoc.Proofs.Utf8

/-!
# The order of bytes

Names are ordered by the code points of their characters. In UTF-8 this is the order of their bytes:
where the encodings of two characters first differ, the greater character has the greater byte, and
no encoding is the beginning of another one.
-/

namespace StyleDoc.Text

/-- The first text has the smaller bytes: a smaller one at the first difference, or none left. -/
def BytesBefore (first second : String) : Prop := List.Lex (· < ·) (bytes first) (bytes second)

/-- Two characters differ in their encodings already, whatever comes behind these. -/
theorem lex_utf8EncodeChar {c d : Char} (below : c < d) (first second : List UInt8) :
    List.Lex (· < ·) (String.utf8EncodeChar c ++ first) (String.utf8EncodeChar d ++ second) := by
  have values : c.val.toNat < d.val.toNat := below
  have bound : d.val.toNat < 0x110000 := by
    rcases d.valid with low | ⟨_, high⟩
    · have low : d.val.toNat < 0xd800 := low
      omega
    · exact high
  -- Bytes are digits to base 64, below a mark for their number.
  have digits : ∀ k : Nat, k / 4096 = k / 64 / 64 ∧ k / 262144 = k / 64 / 64 / 64 := by
    intro k
    simp [Nat.div_div_eq_div_mul]
  unfold String.utf8EncodeChar
  simp only [digits]
  generalize c.val.toNat = m at *
  generalize d.val.toNat = n at *
  split_ifs <;>
    simp only [List.cons_append, List.nil_append, List.cons_lex_cons_iff, UInt8.lt_iff_toNat_lt,
      ← UInt8.toNat_inj, UInt8.toNat_ofNat'] <;>
    omega

theorem lex_flatMap_utf8EncodeChar {first second : List Char}
    (below : List.Lex (· < ·) first second) :
    List.Lex (· < ·) (first.flatMap String.utf8EncodeChar)
      (second.flatMap String.utf8EncodeChar) := by
  induction below with
  | nil =>
    rename_i c rest
    obtain ⟨byte, more, encoded⟩ :=
      List.exists_cons_of_ne_nil (String.utf8EncodeChar_ne_nil (c := c))
    rw [List.flatMap_cons, encoded]
    exact .nil
  | cons below inductionHypothesis => exact List.append_left_lt inductionHypothesis
  | rel below => exact lex_utf8EncodeChar below _ _

theorem bytesBefore_of_lt {first second : String} (below : first < second) :
    BytesBefore first second := by
  rw [BytesBefore, bytes_eq_flatMap, bytes_eq_flatMap]
  exact lex_flatMap_utf8EncodeChar below

end StyleDoc.Text
