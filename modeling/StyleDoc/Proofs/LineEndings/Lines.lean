import StyleDoc.Proofs.LineEndings.Text
import StyleDoc.Proofs.Wording

/-!
# Lines with carriage returns

A line of a text with carriage returns is the line of the original, with or without a carriage
return behind it. Marks and indentation are removed at the front of a line, so each step of the
cleaning keeps this relation, and the last step takes the carriage return away.
-/

namespace StyleDoc

open Text

/-- The second line is the first one, maybe with a carriage return behind it. -/
structure SameLine (line other : List Char) : Prop where
  whole : '\n' ∉ line
  clean : '\r' ∉ line
  ending : other = line ∨ other = line ++ ['\r']

namespace SameLine

variable {line other : List Char} (same : SameLine line other)
include same

theorem dropCarriageReturn_eq : dropCarriageReturn other = line := by
  rcases same.ending with rfl | rfl
  · exact dropCarriageReturn_of_not_mem same.clean
  · simp [dropCarriageReturn]

theorem not_mem : '\n' ∉ other := by
  rcases same.ending with rfl | rfl
  · exact same.whole
  · simp [same.whole]

theorem refl : SameLine line line := ⟨same.whole, same.clean, .inl rfl⟩

theorem of_suffix {rest more : List Char} (suffix : rest <:+ line)
    (ending : more = rest ∨ more = rest ++ ['\r']) : SameLine rest more :=
  ⟨fun member => same.whole (suffix.subset member),
    fun member => same.clean (suffix.subset member), ending⟩

/-! ## Fronts of lines -/

theorem drop {width : Nat} (within : width ≤ line.length) :
    SameLine (line.drop width) (other.drop width) := by
  refine same.of_suffix (List.drop_suffix _ _) ?_
  rcases same.ending with rfl | rfl
  · exact .inl rfl
  · exact .inr (List.drop_append_of_le_length within)

theorem dropWhile {p : Char → Bool} (stops : p '\r' = false) :
    SameLine (line.dropWhile p) (other.dropWhile p) := by
  refine same.of_suffix (List.dropWhile_suffix _) ?_
  rcases same.ending with rfl | rfl
  · exact .inl rfl
  · right
    rw [List.dropWhile_append]
    cases rest : line.dropWhile p <;> simp [stops]

theorem dropSlashes : SameLine (dropSlashes line) (dropSlashes other) :=
  (same.dropWhile (by decide)).dropWhile (by decide)

theorem dropStar : SameLine (dropStar line) (dropStar other) := by
  have unblanked := same.dropWhile (p := isBlank) (by decide)
  unfold StyleDoc.dropStar
  cases front : line.dropWhile isBlank with
  | nil =>
    rw [front] at unblanked
    rcases unblanked.ending with plain | returned
    · simpa [plain] using same
    · simpa [returned] using same
  | cons c rest =>
    rw [front] at unblanked
    by_cases star : c = '*'
    · subst star
      rcases unblanked.ending with plain | returned
      · rw [plain]
        exact unblanked.of_suffix (List.suffix_cons _ _) (.inl rfl)
      · rw [returned]
        exact unblanked.of_suffix (List.suffix_cons _ _) (.inr rfl)
    · rcases unblanked.ending with plain | returned
      · simpa [plain, star] using same
      · simpa [returned, star] using same

/-! ## Indentation -/

theorem indentation_eq : indentation other = indentation line := by
  have stops : isBlank '\r' = false := by decide
  unfold indentation
  rcases same.ending with rfl | rfl
  · rfl
  · rw [List.takeWhile_append]
    split
    case isTrue blank => simp [stops, blank]
    case isFalse => rfl

theorem hasText_eq : hasText other = hasText line := by
  have stops : isBlank '\r' = false := by decide
  have space : isSpace '\r' = true := by decide
  unfold hasText
  rcases same.ending with rfl | rfl
  · rfl
  · rw [List.dropWhile_append]
    cases line.dropWhile isBlank <;> simp [stops, space]

end SameLine

section Lines

variable {lines others : List (List Char)}

/-! ## Cleaned lines -/

section Same

variable (same : List.Forall₂ SameLine lines others)
include same

theorem map_dropCarriageReturn_eq : others.map dropCarriageReturn = lines := by
  induction same with
  | nil => rfl
  | cons first _ inductionHypothesis =>
    rw [List.map_cons, first.dropCarriageReturn_eq, inductionHypothesis]

theorem commonIndentation_eq : commonIndentation others = commonIndentation lines := by
  have widths :
      (others.filter hasText).map indentation = (lines.filter hasText).map indentation := by
    induction same with
    | nil => rfl
    | cons first _ inductionHypothesis =>
      rw [List.filter_cons, List.filter_cons, first.hasText_eq]
      split
      · rw [List.map_cons, List.map_cons, first.indentation_eq, inductionHypothesis]
      · exact inductionHypothesis
  rw [commonIndentation, commonIndentation, widths]

theorem forall₂_sameLine_dedent : List.Forall₂ SameLine (dedent lines) (dedent others) := by
  unfold dedent
  rw [commonIndentation_eq same, List.forall₂_map_left_iff, List.forall₂_map_right_iff]
  refine same.imp fun line other first => ?_
  rw [first.indentation_eq]
  split
  case isTrue wide =>
    have within : indentation line ≤ line.length := (List.takeWhile_sublist _).length_le
    exact first.drop (Nat.le_trans wide within)
  case isFalse => exact first

/-- Indentation and carriage returns gone, nothing tells the lines apart. -/
theorem dedent_map_dropCarriageReturn_eq :
    (dedent others).map dropCarriageReturn = (dedent lines).map dropCarriageReturn := by
  have unchanged : List.Forall₂ SameLine lines lines := by
    induction same with
    | nil => exact .nil
    | cons first _ inductionHypothesis => exact .cons first.refl inductionHypothesis
  rw [map_dropCarriageReturn_eq (forall₂_sameLine_dedent same),
    map_dropCarriageReturn_eq (forall₂_sameLine_dedent unchanged)]

/-- No lines at all are split like one empty line. -/
theorem forall₂_sameLine_splitLines :
    List.Forall₂ SameLine (splitLines (joinLines lines)) (splitLines (joinLines others)) := by
  have empty : SameLine [] [] := ⟨List.not_mem_nil, List.not_mem_nil, .inl rfl⟩
  have whole : (∀ line ∈ lines, '\n' ∉ line) ∧ ∀ other ∈ others, '\n' ∉ other := by
    induction same with
    | nil => simp
    | cons first _ inductionHypothesis =>
      simp only [List.forall_mem_cons]
      exact ⟨⟨first.whole, inductionHypothesis.1⟩, first.not_mem, inductionHypothesis.2⟩
  unfold splitLines joinLines
  cases same with
  | nil => exact .cons empty .nil
  | cons first rest =>
    rw [split_join (List.cons_ne_nil _ _) whole.1, split_join (List.cons_ne_nil _ _) whole.2]
    exact .cons first rest

end Same

end Lines

/-! ## Splitting -/

theorem exists_splitLines_crlf (text : List Char) {ending : List Char} (whole : '\n' ∉ ending) :
    ∃ front last, splitLines text = front ++ [last] ∧
      splitLines (crlf text ++ ending) = front.map (· ++ ['\r']) ++ [last ++ ending] := by
  unfold splitLines
  induction text with
  | nil => exact ⟨[], [], rfl, split_of_not_mem whole⟩
  | cons c tail inductionHypothesis =>
    obtain ⟨front, last, pieces, returned⟩ := inductionHypothesis
    by_cases lineFeed : c = '\n'
    · refine ⟨[] :: front, last, ?_, ?_⟩
      · simp [lineFeed, split, pieces]
      · simp [lineFeed, split, returned]
    · cases front with
      | nil => exact ⟨[], c :: last, by simp_all [split], by simp_all [split, crlf_cons lineFeed]⟩
      | cons first front =>
        refine ⟨(c :: first) :: front, last, ?_, ?_⟩
        · simp_all [split]
        · simp_all [split, crlf_cons lineFeed]

theorem sameLine_of_mem_splitLines {text line other : List Char} (clean : '\r' ∉ text)
    (member : line ∈ splitLines text) (ending : other = line ∨ other = line ++ ['\r']) :
    SameLine line other := by
  obtain ⟨whole, inside⟩ := of_mem_split member
  exact ⟨whole, fun carriage => clean (inside carriage), ending⟩

/-- The lines of a text with carriage returns are the lines of the text, with a carriage return
behind each but the last one, which has the ending of the text. -/
theorem forall₂_sameLine_crlf {text ending : List Char} (clean : '\r' ∉ text)
    (ends : ending = [] ∨ ending = ['\r']) :
    List.Forall₂ SameLine (splitLines text) (splitLines (crlf text ++ ending)) := by
  have whole : '\n' ∉ ending := by rcases ends with rfl | rfl <;> simp
  obtain ⟨front, last, pieces, returned⟩ := exists_splitLines_crlf text whole
  have lastEnding : last ++ ending = last ∨ last ++ ending = last ++ ['\r'] := by
    rcases ends with rfl | rfl <;> simp
  have listed : ∀ line ∈ front ++ [last], line ∈ splitLines text := fun line => pieces ▸ id
  rw [returned]
  have parts : List.Forall₂ SameLine (front ++ [last])
      (front.map (· ++ ['\r']) ++ [last ++ ending]) := by
    refine List.rel_append ?_ (.cons ?_ .nil)
    · rw [List.forall₂_map_right_iff, List.forall₂_same]
      exact fun line member =>
        sameLine_of_mem_splitLines clean (listed line (List.mem_append_left _ member)) (.inr rfl)
    · exact sameLine_of_mem_splitLines clean (listed last (by simp)) lastEnding
  rwa [← pieces] at parts

/-! ## Blocks -/

theorem exists_dropLast_crlf (text : List Char) :
    ∃ ending, (ending = [] ∨ ending = ['\r']) ∧
      (crlf text).dropLast = crlf text.dropLast ++ ending := by
  induction text using List.reverseRecOn with
  | nil => exact ⟨[], .inl rfl, rfl⟩
  | append_singleton front c =>
    by_cases lineFeed : c = '\n'
    · exact ⟨['\r'], .inr rfl, by simp [lineFeed, List.dropLast_append_of_ne_nil]⟩
    · exact ⟨[], .inl rfl, by simp [crlf_cons lineFeed]⟩

/-- Only the last line break is cut in two: its carriage return stays with the line before. -/
theorem exists_blockInterior_crlf (body : List Char) :
    ∃ ending, (ending = [] ∨ ending = ['\r']) ∧
      blockInterior (crlf body) = crlf (blockInterior body) ++ ending := by
  have breaks : isLineBreak '\r' = isLineBreak '\n' := by decide
  have others : (!isLineBreak '\r') = !isLineBreak '\n' := by decide
  unfold blockInterior
  rw [any_crlf body breaks]
  split
  case isFalse => exact ⟨[], .inl rfl, (List.append_nil _).symm⟩
  case isTrue =>
    dsimp only
    rw [dropWhile_crlf body others, dropWhile_crlf _ breaks, any_crlf _ breaks]
    split
    case isFalse => exact ⟨[], .inl rfl, (List.append_nil _).symm⟩
    case isTrue =>
      rw [dropEndWhile_crlf _ others]
      exact exists_dropLast_crlf _

theorem blockInterior_subset (body : List Char) : blockInterior body ⊆ body := by
  by_cases broken : ∃ c ∈ body, isLineBreak c = true
  · exact (interior_blockInterior broken).subset
  · have whole : ¬ body.any isLineBreak = true := fun found => broken (List.any_eq_true.1 found)
    rw [blockInterior, if_neg whole]
    exact List.Subset.refl _

theorem blockLines_crlf {body : List Char} (clean : '\r' ∉ body) :
    blockLines (crlf body) = blockLines body := by
  obtain ⟨ending, ends, interior⟩ := exists_blockInterior_crlf body
  have interiorClean : '\r' ∉ blockInterior body := fun carriage =>
    clean (blockInterior_subset body carriage)
  unfold blockLines
  rw [interior]
  exact dedent_map_dropCarriageReturn_eq
    (List.rel_map (fun _ _ line => line.dropStar) (forall₂_sameLine_crlf interiorClean ends))

/-! ## Runs -/

theorem runLines_eq {run last : List Char} {front : List (List Char)}
    (pieces : splitLines run = front ++ [last]) :
    runLines run = front.map dropCarriageReturn ++ if last = [] then [] else [last] := by
  by_cases empty : last = [] <;> simp [runLines, pieces, empty]

theorem forall₂_sameLine_tail {lines others : List (List Char)}
    (same : List.Forall₂ SameLine lines others) : List.Forall₂ SameLine lines.tail others.tail := by
  cases same with
  | nil => exact .nil
  | cons _ rest => exact rest

/-- The lines of a run depend on the lines without their carriage returns. -/
theorem slashedLines_eq {run other : List Char}
    (same : List.Forall₂ SameLine (runLines run) (runLines other))
    (sameRole : runRole other = runRole run) : slashedLines other = slashedLines run := by
  have unslashed : List.Forall₂ SameLine ((runLines run).map dropSlashes)
      ((runLines other).map dropSlashes) := List.rel_map (fun _ _ line => line.dropSlashes) same
  unfold slashedLines
  dsimp only
  rw [sameRole]
  apply dedent_map_dropCarriageReturn_eq
  apply forall₂_sameLine_splitLines
  split
  case isFalse => exact unslashed
  case isTrue => exact forall₂_sameLine_tail unslashed

theorem runRole_crlf (run : List Char) : runRole (crlf run) = runRole run := by
  unfold runRole
  rw [trimStart_crlf, isPrefixOf_crlf (by decide) (by decide)]

/-- White space at its end does not make a run a poster. -/
theorem runRole_concat {c : Char} (space : isSpace c = true) (run : List Char) :
    runRole (run ++ [c]) = runRole run := by
  have noSlash : c ∉ ['/', '/', '/', '/'] := by
    intro slash
    obtain rfl : c = '/' := by simpa using slash
    exact absurd space (by decide)
  unfold runRole trimStart
  rw [List.dropWhile_append]
  split
  case isTrue blank => simp [List.isEmpty_iff.1 blank, space]
  case isFalse =>
    have same : ['/', '/', '/', '/'] <+: run.dropWhile isSpace ++ [c] ↔
        ['/', '/', '/', '/'] <+: run.dropWhile isSpace := by
      rw [List.prefix_concat_iff, or_iff_right]
      intro whole
      exact noSlash (by rw [whole]; simp)
    simp only [List.isPrefixOf_iff_prefix, same]

theorem runLines_crlf_append {text ending last : List Char} {front : List (List Char)}
    (returned : splitLines (crlf text ++ ending) = front.map (· ++ ['\r']) ++ [last ++ ending]) :
    runLines (crlf text ++ ending) =
      front ++ if last ++ ending = [] then [] else [last ++ ending] := by
  rw [runLines_eq returned]
  simp [dropCarriageReturn, Function.comp_def]

section Run

variable {text : List Char} (clean : '\r' ∉ text)
include clean

theorem runLines_of_clean {front : List (List Char)} {last : List Char}
    (pieces : splitLines text = front ++ [last]) :
    runLines text = front ++ if last = [] then [] else [last] := by
  rw [runLines_eq pieces, map_dropCarriageReturn]
  intro line member carriage
  have listed : line ∈ splitLines text := by simp [pieces, member]
  exact clean ((of_mem_split listed).2 carriage)

theorem runLines_lineFeed : runLines (text ++ ['\n']) = splitLines text := by
  have ended : splitLines (text ++ ['\n']) = splitLines text ++ [[]] := split_append '\n' text []
  have stillClean : '\r' ∉ text ++ ['\n'] := by simp [clean]
  rw [runLines_of_clean stillClean ended, if_pos rfl, List.append_nil]

theorem slashedLines_crlf : slashedLines (crlf text) = slashedLines text := by
  obtain ⟨front, last, pieces, returned⟩ :=
    exists_splitLines_crlf text (List.not_mem_nil (a := '\n'))
  have sameLines : runLines (crlf text) = runLines text := by
    have lines := runLines_crlf_append returned
    rwa [List.append_nil, List.append_nil, ← runLines_of_clean clean pieces] at lines
  unfold slashedLines
  rw [sameLines, runRole_crlf]

/-- A run that ends with a carriage return says the same as one that ends with a line feed. -/
theorem slashedLines_crlf_concat :
    slashedLines (crlf text ++ ['\r']) = slashedLines (text ++ ['\n']) := by
  have noFeed : '\n' ∉ ['\r'] := by decide
  obtain ⟨front, last, pieces, returned⟩ := exists_splitLines_crlf text noFeed
  have nonempty : last ++ ['\r'] ≠ [] := List.append_ne_nil_of_right_ne_nil _ (by decide)
  have listed : ∀ line ∈ front ++ [last], line ∈ splitLines text := fun line => pieces ▸ id
  apply slashedLines_eq
  · rw [runLines_lineFeed clean, runLines_crlf_append returned, if_neg nonempty, pieces]
    refine List.rel_append (List.forall₂_same.2 fun line member => ?_) (.cons ?_ .nil)
    · have inFront := listed line (List.mem_append_left _ member)
      exact sameLine_of_mem_splitLines clean inFront (.inl rfl)
    · exact sameLine_of_mem_splitLines clean (listed last (by simp)) (.inr rfl)
  · rw [runRole_concat (by decide), runRole_crlf, runRole_concat (by decide)]

/-- The line feed behind its last line adds nothing to a run. -/
theorem slashedLines_concat_lineFeed (nonempty : text ≠ []) (ended : text.getLast? ≠ some '\n') :
    slashedLines (text ++ ['\n']) = slashedLines text := by
  obtain ⟨front, last, pieces, _⟩ := exists_splitLines_crlf text (List.not_mem_nil (a := '\n'))
  have visible : last ≠ [] := by
    rintro rfl
    exact ended (getLast?_of_split_eq_concat_nil nonempty pieces)
  unfold slashedLines
  rw [runLines_lineFeed clean, runLines_of_clean clean pieces, if_neg visible, pieces,
    runRole_concat (by decide)]

end Run

end StyleDoc
