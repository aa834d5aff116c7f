import Mathlib.Data.List.TakeWhile
import StyleDoc.Proofs.Lines
import StyleDoc.Text.Word

/-!
# Trimmed texts

Trimming leaves a text that begins and ends with something else than white space, or nothing at all.
A text made of such characters alone, as every name is, stays as it is. The run of a class of
characters at the beginning of a text goes as far as there are characters of the class.
-/

namespace StyleDoc.Text

/-- The text is there, and no white space stands at its ends. -/
structure Trimmed (text : List Char) : Prop where
  nonempty : text ≠ []
  first : ∀ c, text.head? = some c → isSpace c = false
  last : ∀ c, text.getLast? = some c → isSpace c = false

instance (text : List Char) : Decidable (Trimmed text) :=
  decidable_of_iff (text ≠ [] ∧ (text.head?.all fun c => !isSpace c) ∧
      text.getLast?.all fun c => !isSpace c) <| by
    simp only [Option.all_eq_true, Bool.not_eq_true']
    exact ⟨fun ⟨nonempty, first, last⟩ => ⟨nonempty, first, last⟩,
      fun trimmed => ⟨trimmed.nonempty, trimmed.first, trimmed.last⟩⟩

/-- No character of the text is white space. -/
def Solid (text : List Char) : Prop := ∀ c ∈ text, isSpace c = false

variable {text : List Char}

theorem dropEndWhile_prefix (p : Char → Bool) (text : List Char) :
    dropEndWhile p text <+: text := by
  unfold dropEndWhile
  rw [← List.reverse_suffix, List.reverse_reverse]
  exact List.dropWhile_suffix p

theorem getLast?_dropEndWhile {p : Char → Bool} {text : List Char} {c : Char}
    (ends : (dropEndWhile p text).getLast? = some c) : p c = false := by
  have outside := List.head?_dropWhile_not p text.reverse
  rw [dropEndWhile, List.getLast?_reverse] at ends
  rw [ends] at outside
  exact outside

theorem exists_dropEndWhile_append (p : Char → Bool) (text : List Char) :
    ∃ ended, dropEndWhile p text ++ ended = text ∧ ∀ c ∈ ended, p c = true := by
  refine ⟨(text.reverse.takeWhile p).reverse, ?_, fun c member => ?_⟩
  · rw [dropEndWhile, ← List.reverse_append, List.takeWhile_append_dropWhile, List.reverse_reverse]
  · exact List.all_eq_true.1 List.all_takeWhile c (List.mem_reverse.1 member)

theorem dropEndWhile_append {p : Char → Bool} {ended : List Char}
    (inside : ∀ c ∈ ended, p c = true) (text : List Char) :
    dropEndWhile p (text ++ ended) = dropEndWhile p text := by
  have reversed : ∀ c ∈ ended.reverse, p c = true := fun c member =>
    inside c (List.mem_reverse.1 member)
  rw [dropEndWhile, List.reverse_append, List.dropWhile_append_of_pos reversed]
  rfl

theorem trimBy_append_of_pos {p : Char → Bool} {front : List Char}
    (inside : ∀ c ∈ front, p c = true) (text : List Char) :
    trimBy p (front ++ text) = trimBy p text := by
  rw [trimBy, List.dropWhile_append_of_pos inside, trimBy]

/-- White space behind a text is trimmed with the text. -/
theorem trim_append {space : List Char} (allSpace : ∀ c ∈ space, isSpace c = true)
    (text : List Char) : trim (text ++ space) = trim text := by
  unfold trim trimBy
  rw [List.dropWhile_append]
  split
  case isTrue nothing =>
    rw [List.isEmpty_iff.1 nothing, List.dropWhile_eq_nil_iff.2 allSpace]
  case isFalse => exact dropEndWhile_append allSpace _

/-- Trimming takes nothing but white space away. -/
theorem mem_trim_iff {c : Char} (solid : isSpace c = false) : c ∈ trim text ↔ c ∈ text := by
  obtain ⟨behind, parts, allSpace⟩ := exists_dropEndWhile_append isSpace (text.dropWhile isSpace)
  have whole : text.takeWhile isSpace ++ (trim text ++ behind) = text := by
    rw [trim, trimBy, parts, List.takeWhile_append_dropWhile]
  conv => rhs; rw [← whole]
  simp [not_mem_of_forall solid allSpace, not_mem_takeWhile solid]

theorem trimmed_trim (nonempty : trim text ≠ []) : Trimmed (trim text) where
  nonempty := nonempty
  first c found := by
    obtain ⟨rest, parts⟩ := dropEndWhile_prefix isSpace (text.dropWhile isSpace)
    have begins : (text.dropWhile isSpace).head? = some c := by
      rw [← parts, List.head?_append]
      exact Option.or_eq_some_iff.2 (.inl found)
    have solid := List.head?_dropWhile_not isSpace text
    rw [begins] at solid
    exact solid
  last _ found := getLast?_dropEndWhile found

theorem trimStart_eq (first : ∀ c, text.head? = some c → isSpace c = false) :
    trimStart text = text := by
  cases text with
  | nil => rfl
  | cons c rest => exact List.dropWhile_cons_of_neg (by simp [first c rfl])

theorem trimStart_cons {c : Char} (solid : isSpace c = false) (rest : List Char) :
    trimStart (c :: rest) = c :: rest :=
  List.dropWhile_cons_of_neg (by simp [solid])

@[simp]
theorem trimStart_space (text : List Char) : trimStart (' ' :: text) = trimStart text :=
  List.dropWhile_cons_of_pos (by decide)

theorem dropEndWhile_eq {p : Char → Bool} (last : ∀ c, text.getLast? = some c → p c = false) :
    dropEndWhile p text = text := by
  cases ends : text.reverse with
  | nil => rw [List.reverse_eq_nil_iff.1 ends]; rfl
  | cons c rest =>
    have outside : p c = false := last c (by rw [← List.head?_reverse, ends]; rfl)
    rw [dropEndWhile, ends, List.dropWhile_cons_of_neg (by simp [outside]), ← ends,
      List.reverse_reverse]

/-- Where no white space stands at the end, trimming is from the start. -/
theorem trim_eq_trimStart (last : ∀ c, text.getLast? = some c → isSpace c = false) :
    trim text = trimStart text := by
  refine dropEndWhile_eq fun c ends => last c ?_
  obtain ⟨before, parts⟩ := List.dropWhile_suffix isSpace (l := text)
  rw [← parts, List.getLast?_append, ends, Option.some_or]

/-- Trimming changes nothing where there is no white space at the ends. -/
theorem Trimmed.trim_eq (trimmed : Trimmed text) : trim text = text := by
  rw [trim_eq_trimStart trimmed.last, trimStart_eq trimmed.first]

theorem Solid.dropWhile_eq (solid : Solid text) : text.dropWhile isSpace = text :=
  trimStart_eq fun c begins => solid c (List.mem_of_head? begins)

theorem Solid.dropEndWhile_eq (solid : Solid text) : dropEndWhile isSpace text = text :=
  Text.dropEndWhile_eq fun c ends => solid c (List.mem_of_getLast? ends)

theorem Solid.trim_eq (solid : Solid text) : trim text = text := by
  rw [trim, trimBy, solid.dropWhile_eq, solid.dropEndWhile_eq]

/-! ## Runs -/

/-- The run is all that the text begins with of the class `p`, and the rest follows it. -/
structure LeadingRun (p : Char → Bool) (text run rest : List Char) : Prop where
  parts : text = run ++ rest
  inside : ∀ c ∈ run, p c = true
  ends : ∀ c, rest.head? = some c → p c = false

section LeadingRun

variable {p : Char → Bool} {run rest : List Char}

theorem leadingRun (p : Char → Bool) (text : List Char) :
    LeadingRun p text (text.takeWhile p) (text.dropWhile p) where
  parts := List.takeWhile_append_dropWhile.symm
  inside := List.all_eq_true.1 List.all_takeWhile
  ends c begins := by
    have outside := List.head?_dropWhile_not p text
    rw [begins] at outside
    exact outside

theorem LeadingRun.dropWhile_eq (leading : LeadingRun p text run rest) :
    text.dropWhile p = rest := by
  rw [leading.parts, List.dropWhile_append_of_pos leading.inside]
  cases begins : rest with
  | nil => rfl
  | cons c tail =>
    have outside := leading.ends c (by rw [begins]; rfl)
    simp [outside]

theorem LeadingRun.takeWhile_eq (leading : LeadingRun p text run rest) :
    text.takeWhile p = run := by
  have whole : text.takeWhile p ++ rest = run ++ rest := by
    rw [← leading.parts, ← leading.dropWhile_eq, List.takeWhile_append_dropWhile]
  exact List.append_cancel_right whole

end LeadingRun

/-! ## Words -/

/-- The text is there, and it has no white space in it. -/
structure SingleWord (text : List Char) : Prop where
  nonempty : text ≠ []
  solid : Solid text

instance (text : List Char) : Decidable (Solid text) :=
  decidable_of_iff (text.all fun c => !isSpace c) (by simp [Solid])

instance (text : List Char) : Decidable (SingleWord text) :=
  decidable_of_iff (text ≠ [] ∧ Solid text)
    ⟨fun both => ⟨both.1, both.2⟩, fun word => ⟨word.nonempty, word.solid⟩⟩

theorem SingleWord.getD {found? : Option (List Char)} {other : List Char}
    (found : ∀ word, found? = some word → SingleWord word) (otherwise : SingleWord other) :
    SingleWord (found?.getD other) := by
  cases found? with
  | none => exact otherwise
  | some word => exact found word rfl

theorem SingleWord.trimmed (word : SingleWord text) : Trimmed text where
  nonempty := word.nonempty
  first c begins := word.solid c (List.mem_of_head? begins)
  last c ends := word.solid c (List.mem_of_getLast? ends)

theorem SingleWord.trim_ne_nil (word : SingleWord text) : trim text ≠ [] := by
  rw [word.solid.trim_eq]
  exact word.nonempty

/-- The code points of white space. -/
def spaceCodes : List Nat :=
  spaceRanges.flatMap fun range => List.range' range.1 (range.2 + 1 - range.1)

theorem mem_spaceCodes {c : Char} (space : isSpace c = true) : c.toNat ∈ spaceCodes := by
  obtain ⟨range, listed, inside⟩ := List.any_eq_true.1 space
  refine List.mem_flatMap.2 ⟨range, listed, List.mem_range'_1.2 ?_⟩
  simp only [Bool.and_eq_true, decide_eq_true_eq] at inside
  omega

/-- White space is no part of a word. -/
theorem isSpace_of_isWord {c : Char} (word : isWord c = true) : isSpace c = false := by
  have outside : ∀ code ∈ spaceCodes, isWord (Char.ofNat code) = false := by decide +kernel
  cases space : isSpace c with
  | false => rfl
  | true =>
    have noWord := outside c.toNat (mem_spaceCodes space)
    rw [Char.ofNat_toNat, word] at noWord
    cases noWord

theorem isSpace_of_isNameChar {c : Char} (name : isNameChar c = true) : isSpace c = false := by
  rcases Bool.or_eq_true_iff.1 name with word | hyphen
  · exact isSpace_of_isWord word
  · obtain rfl := beq_iff_eq.1 hyphen
    decide

end StyleDoc.Text
