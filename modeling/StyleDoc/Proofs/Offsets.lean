import StyleDoc.Proofs.Lines

/-!
# Byte offsets

An offset counts the bytes in front of a place in a text. From it both the line of that place and
the text behind it are found again, and two offsets cut a slice out of the text.
-/

namespace StyleDoc.Text

theorem byteLength_append (first second : List Char) :
    byteLength (first ++ second) = byteLength first + byteLength second := by
  induction first with
  | nil => simp [byteLength]
  | cons c rest inductionHypothesis => simp [byteLength, inductionHypothesis, Nat.add_assoc]

theorem byteLength_pos {text : List Char} (nonempty : text ≠ []) : 0 < byteLength text := by
  obtain ⟨c, rest, rfl⟩ := List.exists_cons_of_ne_nil nonempty
  exact Nat.add_pos_left c.utf8Size_pos _

/-- The offset behind a first character, in the form in which it is counted down. -/
theorem exists_byteLength_cons (c : Char) (front : List Char) :
    ∃ offset, byteLength (c :: front) = offset + 1 ∧ c.utf8Size ≤ offset + 1 ∧
      offset + 1 - c.utf8Size = byteLength front := by
  obtain ⟨offset, counted⟩ : ∃ offset, byteLength (c :: front) = offset + 1 :=
    Nat.exists_eq_succ_of_ne_zero (Nat.ne_of_gt (byteLength_pos (List.cons_ne_nil c front)))
  refine ⟨offset, counted, ?_, ?_⟩
  · rw [← counted, byteLength]
    exact Nat.le_add_right _ _
  · rw [← counted, byteLength, Nat.add_sub_cancel_left]

/-- The line of a character, counted from the bytes in front of it. -/
theorem lineAt_byteLength (front rest : List Char) :
    lineAt (front ++ rest) (byteLength front) = lineCount front := by
  induction front with
  | nil => cases rest <;> rfl
  | cons c front inductionHypothesis =>
    obtain ⟨offset, counted, _, left⟩ := exists_byteLength_cons c front
    rw [List.cons_append, counted, lineAt, left, inductionHypothesis]
    by_cases lineFeed : c = '\n'
    · simp [lineFeed, lineCount, Nat.add_assoc]
    · simp [lineFeed, lineCount, lineFeeds_cons lineFeed]

/-- The line of a character, counted from one of its bytes. -/
theorem lineAt_byteLength_add (front rest : List Char) {c : Char} {byte : Nat}
    (inside : byte < c.utf8Size) :
    lineAt (front ++ c :: rest) (byteLength front + byte) = lineCount front := by
  induction front with
  | nil =>
    cases byte with
    | zero => rfl
    | succ byte =>
      have noLineFeed : c ≠ '\n' := by
        rintro rfl
        exact absurd inside (Nat.not_lt.2 (Nat.le_add_left 1 byte))
      have last : lineAt rest 0 = 1 := by cases rest <;> rfl
      rw [List.nil_append, byteLength, Nat.zero_add, lineAt,
        Nat.sub_eq_zero_of_le (Nat.le_of_lt inside), last, if_neg noLineFeed]
      rfl
  | cons d front inductionHypothesis =>
    obtain ⟨offset, counted, fits, left⟩ := exists_byteLength_cons d front
    have further : offset + byte + 1 - d.utf8Size = byteLength front + byte := by omega
    rw [List.cons_append, counted, Nat.add_right_comm, lineAt, further, inductionHypothesis]
    by_cases lineFeed : d = '\n'
    · simp [lineFeed, lineCount, Nat.add_assoc]
    · simp [lineFeed, lineCount, lineFeeds_cons lineFeed]

/-- The text behind the bytes in front of it. -/
theorem fromByte?_byteLength (front rest : List Char) :
    fromByte? (front ++ rest) (byteLength front) = some rest := by
  induction front with
  | nil => cases rest <;> rfl
  | cons c front inductionHypothesis =>
    obtain ⟨offset, counted, fits, left⟩ := exists_byteLength_cons c front
    rw [List.cons_append, counted, fromByte?, if_pos fits, left, inductionHypothesis]

theorem fromByte?_eq_some {text rest : List Char} {offset : Nat}
    (found : fromByte? text offset = some rest) :
    ∃ front, front ++ rest = text ∧ byteLength front = offset := by
  fun_induction fromByte? text offset with
  | case1 text =>
    cases found
    exact ⟨[], rfl, rfl⟩
  | case2 => cases found
  | case3 c tail offset fits inductionHypothesis =>
    obtain ⟨front, parts, counted⟩ := inductionHypothesis found
    refine ⟨c :: front, by rw [List.cons_append, parts], ?_⟩
    rw [byteLength, counted]
    omega
  | case4 => cases found

/-! ## Slices -/

/-- The text up to a byte offset; there is none past the end or inside a character. -/
def uptoByte? : List Char → Nat → Option (List Char)
  | _, 0 => some []
  | [], _ + 1 => none
  | c :: rest, offset + 1 =>
    if c.utf8Size ≤ offset + 1 then (uptoByte? rest (offset + 1 - c.utf8Size)).map (c :: ·)
    else none

/-- The text between two byte offsets. There is none when one of them is past the end or inside a
character, or when they are in the wrong order. -/
def slice? (text : List Char) (start stop : Nat) : Option (List Char) :=
  if start ≤ stop then (fromByte? text start).bind fun rest => uptoByte? rest (stop - start)
  else none

theorem uptoByte?_byteLength (front rest : List Char) :
    uptoByte? (front ++ rest) (byteLength front) = some front := by
  induction front with
  | nil => cases rest <;> rfl
  | cons c front inductionHypothesis =>
    obtain ⟨offset, counted, fits, left⟩ := exists_byteLength_cons c front
    rw [List.cons_append, counted, uptoByte?, if_pos fits, left, inductionHypothesis]
    rfl

/-- The slice between two places of a text, each given by what stands before it. -/
theorem slice?_of_parts {text front inside rest : List Char} {start stop : Nat}
    (parts : front ++ inside ++ rest = text) (begins : byteLength front = start)
    (ends : start + byteLength inside = stop) : slice? text start stop = some inside := by
  subst parts begins ends
  rw [slice?, if_pos (Nat.le_add_right _ _), List.append_assoc, fromByte?_byteLength,
    Option.bind_some, Nat.add_sub_cancel_left, uptoByte?_byteLength]

end StyleDoc.Text
