import StyleDoc.Comment.Layout
import StyleDoc.Proofs.Lines
import StyleDoc.Proofs.Trimming

/-!
# The wording of a block

Cleaning a block removes marks and indentation and leaves what its lines say. The first line is that
of the opening mark and does not count. Neither does the last one, that of the closing mark, unless
nothing but line breaks stands between the two.
-/

namespace StyleDoc

open Text

/-! ## Lines of a block -/

/-- What a text says as a line: no blanks at its ends, and no carriage return behind it. -/
def words (text : List Char) : List Char := trimBy isBlank (dropCarriageReturn text)

/-- What a line of a block says: its text behind the blanks and the one star that it may begin
with. -/
def wording (line : List Char) : List Char :=
  let text := line.dropWhile isBlank
  words (if text.head? = some '*' then text.tail else text)

theorem words_append {blanks : List Char} (allBlank : ∀ c ∈ blanks, isBlank c = true)
    (text : List Char) : words (blanks ++ text) = words text := by
  rw [words, dropCarriageReturn_append allBlank, trimBy_append_of_pos allBlank, words]

/-- The blanks that a line begins with do not belong to its words. -/
theorem words_dropWhile (line : List Char) : words (line.dropWhile isBlank) = words line := by
  conv => rhs; rw [← List.takeWhile_append_dropWhile (p := isBlank) (l := line)]
  rw [words_append (List.all_eq_true.1 List.all_takeWhile)]

theorem words_drop {line : List Char} {width : Nat} (within : width ≤ indentation line) :
    words (line.drop width) = words line := by
  conv => rhs; rw [← List.take_append_drop width line]
  rw [words_append (isBlank_of_mem_take within)]

theorem words_dropStar (line : List Char) : words (dropStar line) = wording line := by
  unfold wording
  rw [dropStar]
  split
  case h_1 rest starred => simp [starred]
  case h_2 bare =>
    have noStar : (line.dropWhile isBlank).head? ≠ some '*' := by
      intro starred
      obtain ⟨rest, parts⟩ := List.head?_eq_some_iff.1 starred
      exact bare rest parts
    simp [noStar, words_dropWhile]

/-- Indentation is made of blanks, whatever its width. -/
theorem map_words_dedent (lines : List (List Char)) :
    (dedent lines).map words = lines.map words := by
  unfold dedent
  rw [List.map_map]
  refine List.map_congr_left fun line _ => ?_
  rw [Function.comp_apply]
  split
  case isTrue within => exact words_drop within
  case isFalse => rfl

/-- Line by line, the cleaned block says what its interior says. -/
theorem map_trimBy_blockLines (body : List Char) :
    (blockLines body).map (trimBy isBlank) = (splitLines (blockInterior body)).map wording := by
  have cleaned : (blockLines body).map (trimBy isBlank) =
      (dedent ((splitLines (blockInterior body)).map dropStar)).map words := by
    simp [blockLines, words, Function.comp_def]
  rw [cleaned, map_words_dedent, List.map_map]
  exact List.map_congr_left fun line _ => words_dropStar line

/-! ## The interior of a block -/

/-- The first line of a block, with the line breaks that end it, and what follows them. -/
structure FirstLine (opening breaks inside : List Char) : Prop where
  opened : ∀ c ∈ opening, isLineBreak c = false
  ended : breaks ≠ []
  allBreaks : ∀ c ∈ breaks, isLineBreak c = true
  begins : ∀ c, inside.head? = some c → isLineBreak c = false

/-- What a body says between its first and its last line. The last line begins behind the last line
break. When this one also ends the first line, the last line is all that follows it, and it counts
itself. -/
inductive Interior : List Char → List Char → Prop where
  | between {opening breaks kept closing : List Char} {last : Char}
      (first : FirstLine opening breaks (kept ++ last :: closing))
      (breaksLast : isLineBreak last = true) (closed : ∀ c ∈ closing, isLineBreak c = false) :
      Interior (opening ++ breaks ++ (kept ++ last :: closing)) kept
  | onlyLine {opening breaks closing : List Char} (first : FirstLine opening breaks closing)
      (closed : ∀ c ∈ closing, isLineBreak c = false) :
      Interior (opening ++ breaks ++ closing) closing

theorem FirstLine.blockInterior_eq {opening breaks inside : List Char}
    (first : FirstLine opening breaks inside) :
    blockInterior (opening ++ breaks ++ inside) =
      if inside.any isLineBreak then (dropEndWhile (fun c => !isLineBreak c) inside).dropLast
      else inside := by
  obtain ⟨b, more, rfl⟩ := List.exists_cons_of_ne_nil first.ended
  have breaksFirst : isLineBreak b = true := first.allBreaks b List.mem_cons_self
  have line : LeadingRun (fun c => !isLineBreak c) (opening ++ b :: more ++ inside) opening
      (b :: more ++ inside) :=
    ⟨by simp, by simpa using first.opened, by simp [breaksFirst]⟩
  have run : LeadingRun isLineBreak (b :: more ++ inside) (b :: more) inside :=
    ⟨rfl, first.allBreaks, first.begins⟩
  have broken : (opening ++ b :: more ++ inside).any isLineBreak = true := by
    simp [breaksFirst]
  rw [blockInterior, if_pos broken, line.dropWhile_eq, run.dropWhile_eq]

theorem exists_firstLine {body : List Char} (broken : ∃ c ∈ body, isLineBreak c = true) :
    ∃ opening breaks inside, opening ++ breaks ++ inside = body ∧
      FirstLine opening breaks inside := by
  obtain ⟨b, member, isBreak⟩ := broken
  have line := leadingRun (fun c => !isLineBreak c) body
  have run := leadingRun isLineBreak (body.dropWhile fun c => !isLineBreak c)
  have opened : ∀ c ∈ body.takeWhile fun c => !isLineBreak c, isLineBreak c = false := by
    simpa using line.inside
  refine ⟨_, _, _, ?_, opened, ?_, run.inside, run.ends⟩
  · rw [List.append_assoc, ← run.parts, ← line.parts]
  · -- The first line is not all there is, and a line break follows it.
    intro nothing
    cases behind : body.dropWhile fun c => !isLineBreak c with
    | nil =>
      have whole := line.parts
      rw [behind, List.append_nil] at whole
      rw [whole] at member
      rw [opened b member] at isBreak
      cases isBreak
    | cons c rest =>
      have breaks : isLineBreak c = true := by simpa using line.ends c (by rw [behind]; rfl)
      simp [behind, breaks] at nothing

theorem Interior.blockInterior_eq {body kept : List Char} (interior : Interior body kept) :
    blockInterior body = kept := by
  cases interior with
  | @between _ _ _ closing last first breaksLast closed =>
    -- Nothing behind the last line break is one, so all of it goes and the line break with it.
    have broken : (kept ++ last :: closing).any isLineBreak = true := by simp [breaksLast]
    have parts : kept ++ last :: closing = kept ++ [last] ++ closing := by simp
    have ends : dropEndWhile (fun c => !isLineBreak c) (kept ++ [last]) = kept ++ [last] := by
      simp [dropEndWhile, breaksLast]
    rw [first.blockInterior_eq, if_pos broken, parts,
      dropEndWhile_append (by simpa using closed), ends, List.dropLast_concat]
  | onlyLine first closed =>
    have whole : kept.any isLineBreak = false := by simpa using closed
    rw [first.blockInterior_eq, whole]
    rfl

theorem interior_blockInterior {body : List Char} (broken : ∃ c ∈ body, isLineBreak c = true) :
    Interior body (blockInterior body) := by
  obtain ⟨opening, breaks, inside, rfl, first⟩ := exists_firstLine broken
  have interior : ∃ kept, Interior (opening ++ breaks ++ inside) kept := by
    -- The last line is what stands at the end without a line break.
    obtain ⟨closing, parts, closed⟩ :=
      exists_dropEndWhile_append (fun c => !isLineBreak c) inside
    have noBreak : ∀ c ∈ closing, isLineBreak c = false := by simpa using closed
    cases ends : (dropEndWhile (fun c => !isLineBreak c) inside).getLast? with
    | none =>
      rw [List.getLast?_eq_none_iff.1 ends, List.nil_append] at parts
      exact ⟨inside, .onlyLine first (parts ▸ noBreak)⟩
    | some last =>
      obtain ⟨kept, same⟩ := List.getLast?_eq_some_iff.1 ends
      have breaksLast : isLineBreak last = true := by simpa using getLast?_dropEndWhile ends
      rw [same, List.append_assoc, List.singleton_append] at parts
      subst parts
      exact ⟨kept, .between first breaksLast noBreak⟩
  obtain ⟨kept, interior⟩ := interior
  rwa [interior.blockInterior_eq]

theorem Interior.subset {body kept : List Char} (interior : Interior body kept) : kept ⊆ body := by
  cases interior with
  | between => exact fun c member => by simp [member]
  | onlyLine => exact List.subset_append_right _ _

/-- Every line of the interior says the same in the cleaned block, whatever stands on it and however
many lines there are, and no other line says anything. -/
theorem blockLines_wording {body : List Char} (broken : ∃ c ∈ body, isLineBreak c = true) :
    ∃ kept, (∀ other, Interior body other ↔ other = kept) ∧
      (blockLines body).map (trimBy isBlank) = (splitLines kept).map wording := by
  have interior := interior_blockInterior broken
  refine ⟨blockInterior body, fun other => ⟨fun given => given.blockInterior_eq.symm, ?_⟩, ?_⟩
  · rintro rfl
    exact interior
  · exact map_trimBy_blockLines body

/-- Text on the line of the closing mark, which does not count. -/
theorem blockLines_wording_closing :
    let body := " x\r\n\t** a *\r\nb\r\n * c".toList
    (∃ c ∈ body, isLineBreak c = true) ∧ Interior body "\t** a *\r\nb\r".toList ∧
      (blockLines body).map (trimBy isBlank) = ["* a *".toList, "b".toList] := by
  intro body
  have broken : ∃ c ∈ body, isLineBreak c = true := ⟨'\n', by decide, by decide⟩
  obtain ⟨kept, interior, said⟩ := blockLines_wording broken
  have within : Interior body kept := (interior kept).2 rfl
  have same : kept = "\t** a *\r\nb\r".toList := within.blockInterior_eq.symm.trans (by decide)
  rw [same] at within said
  exact ⟨broken, within, said.trans (by decide)⟩

/-- The text on the line of the closing mark is lost. -/
theorem not_forall_wordsKept : ¬ ∀ opening behind : List Char,
    (∀ c ∈ opening, isLineBreak c = false) →
      ((blockLines (opening ++ '\n' :: behind)).map (trimBy isBlank)).filter (· ≠ []) =
        ((splitLines behind).map wording).filter (· ≠ []) := by
  intro claim
  have found := claim [] " * a\n * b ".toList (by simp)
  exact absurd found (by decide)

end StyleDoc
