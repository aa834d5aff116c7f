import Mathlib.Data.List.Forall2
import StyleDoc.Proofs.Trimming

/-!
# Common indentation

A text loses the indentation that its lines of text share. What a line loses are blanks that it
begins with, as many as every other line of text loses, so that these lines keep their places to
each other. One of them is left without indentation, and then there is nothing more to lose.
-/

namespace StyleDoc.Text

/-! ## Outdented lines -/

/-- The line with `width` less blanks before it, if it has that many. -/
def outdent (width : Nat) (line : List Char) : List Char :=
  if width ≤ indentation line then line.drop width else line

theorem dedent_eq (lines : List (List Char)) :
    dedent lines = lines.map (outdent (commonIndentation lines)) := rfl

theorem indentation_outdent (width : Nat) (line : List Char) :
    indentation (outdent width line) =
      if width ≤ indentation line then indentation line - width else indentation line := by
  unfold outdent
  split
  case isTrue within => exact indentation_drop within
  case isFalse => rfl

theorem outdent_subset (width : Nat) (line : List Char) : outdent width line ⊆ line := by
  unfold outdent
  split
  · exact List.drop_subset _ _
  · exact List.Subset.refl _

/-- The line has lost `width` blanks, or it does not begin with that many and is the same. -/
inductive Outdented (width : Nat) : List Char → List Char → Prop where
  | cut {blanks rest : List Char} (wide : blanks.length = width)
      (allBlank : ∀ c ∈ blanks, isBlank c = true) : Outdented width (blanks ++ rest) rest
  | kept {line : List Char}
      (narrow : ∀ blanks rest, blanks ++ rest = line → (∀ c ∈ blanks, isBlank c = true) →
        blanks.length < width) : Outdented width line line

theorem length_le_indentation {blanks : List Char} (allBlank : ∀ c ∈ blanks, isBlank c = true)
    (rest : List Char) : blanks.length ≤ indentation (blanks ++ rest) := by
  rw [indentation, List.takeWhile_append_of_pos allBlank, List.length_append]
  exact Nat.le_add_right _ _

theorem outdented_outdent (width : Nat) (line : List Char) :
    Outdented width line (outdent width line) := by
  unfold outdent
  split
  case isTrue within =>
    have long : width ≤ line.length :=
      Nat.le_trans within (List.takeWhile_sublist isBlank).length_le
    have cut : Outdented width (line.take width ++ line.drop width) (line.drop width) :=
      .cut (List.length_take_of_le long) (isBlank_of_mem_take within)
    rwa [List.take_append_drop] at cut
  case isFalse short =>
    refine .kept fun blanks rest parts allBlank => Nat.lt_of_not_le fun wide => short ?_
    rw [← parts]
    exact Nat.le_trans wide (length_le_indentation allBlank rest)

/-- The second text is what is left of the first one without some of its blanks. -/
inductive LosesBlanks : List Char → List Char → Prop where
  | nil : LosesBlanks [] []
  | kept {text cut : List Char} (c : Char) (rest : LosesBlanks text cut) :
      LosesBlanks (c :: text) (c :: cut)
  | lost {text cut : List Char} {c : Char} (blank : isBlank c = true)
      (rest : LosesBlanks text cut) : LosesBlanks (c :: text) cut

namespace LosesBlanks

theorem refl (text : List Char) : LosesBlanks text text := by
  induction text with
  | nil => exact .nil
  | cons c rest inductionHypothesis => exact .kept c inductionHypothesis

theorem append {first firstCut second secondCut : List Char} (front : LosesBlanks first firstCut)
    (behind : LosesBlanks second secondCut) :
    LosesBlanks (first ++ second) (firstCut ++ secondCut) := by
  induction front with
  | nil => exact behind
  | kept c _ inductionHypothesis => exact .kept c inductionHypothesis
  | lost blank _ inductionHypothesis => exact .lost blank inductionHypothesis

theorem blanks {blanks : List Char} (allBlank : ∀ c ∈ blanks, isBlank c = true)
    (rest : List Char) : LosesBlanks (blanks ++ rest) rest := by
  induction blanks with
  | nil => exact refl rest
  | cons c more inductionHypothesis =>
    obtain ⟨blank, others⟩ := List.forall_mem_cons.1 allBlank
    exact .lost blank (inductionHypothesis others)

/-- What the lines lose one by one is all that the text loses. -/
theorem joinLines {lines cuts : List (List Char)} (each : List.Forall₂ LosesBlanks lines cuts) :
    LosesBlanks (joinLines lines) (joinLines cuts) := by
  have behind : ∀ {lines cuts : List (List Char)}, List.Forall₂ LosesBlanks lines cuts →
      LosesBlanks (lines.flatMap ('\n' :: ·)) (cuts.flatMap ('\n' :: ·)) := by
    intro lines cuts each
    induction each with
    | nil => exact .nil
    | cons first _ inductionHypothesis => exact (kept '\n' first).append inductionHypothesis
  cases each with
  | nil => exact refl _
  | cons first others =>
    unfold Text.joinLines
    rw [join_cons, join_cons]
    exact first.append (behind others)

end LosesBlanks

theorem Outdented.losesBlanks {width : Nat} {line cut : List Char}
    (outdented : Outdented width line cut) : LosesBlanks line cut := by
  cases outdented with
  | cut _ allBlank => exact .blanks allBlank cut
  | kept => exact .refl line

/-! ## Places of text -/

/-- Text begins at this place of the line: nothing but blanks stands before it, and it is not white
space. -/
inductive HasTextAt : Nat → List Char → Prop where
  | behind {blanks rest : List Char} {c : Char} (allBlank : ∀ b ∈ blanks, isBlank b = true)
      (visible : isSpace c = false) : HasTextAt blanks.length (blanks ++ c :: rest)

theorem hasTextAt_iff {place : Nat} {line : List Char} :
    HasTextAt place line ↔ hasText line = true ∧ indentation line = place := by
  constructor
  · rintro ⟨allBlank, visible⟩
    rename_i blanks rest c
    have run : LeadingRun isBlank (blanks ++ c :: rest) blanks (c :: rest) := by
      refine ⟨rfl, allBlank, fun d first => ?_⟩
      obtain rfl := Option.some.inj first
      cases blank : isBlank c with
      | false => rfl
      | true => exact (isSpace_of_isBlank blank).symm.trans visible
    exact ⟨by simp [hasText, run.dropWhile_eq, visible], by rw [indentation, run.takeWhile_eq]⟩
  · rintro ⟨text, rfl⟩
    have run := leadingRun isBlank line
    unfold hasText at text
    cases behind : line.dropWhile isBlank with
    | nil => simp [behind] at text
    | cons c rest =>
      have visible : isSpace c = false := by simpa [behind] using text
      have place : HasTextAt (indentation line) (line.takeWhile isBlank ++ c :: rest) :=
        .behind run.inside visible
      rwa [← behind, ← run.parts] at place

/-- The blanks that a line loses are missing before its text. -/
theorem HasTextAt.outdent {width place : Nat} {line : List Char} (text : HasTextAt place line)
    (within : width ≤ place) : HasTextAt (place - width) (outdent width line) := by
  obtain ⟨allBlank, visible⟩ := text
  rename_i blanks rest c
  have wide : width ≤ indentation (blanks ++ c :: rest) :=
    Nat.le_trans within (length_le_indentation allBlank _)
  rw [Text.outdent, if_pos wide, List.drop_append_of_le_length within, ← List.length_drop]
  exact .behind (fun b member => allBlank b (List.drop_subset _ _ member)) visible

/-! ## Shared indentation -/

/-- The width is the least place of a text on one of the lines, and zero where there is no text. -/
structure SharedIndentation (lines : List (List Char)) (width : Nat) : Prop where
  within : ∀ line ∈ lines, ∀ place, HasTextAt place line → width ≤ place
  reached : (∃ line ∈ lines, ∃ place, HasTextAt place line) → ∃ line ∈ lines, HasTextAt width line
  nothing : (∀ line ∈ lines, ∀ place, ¬ HasTextAt place line) → width = 0

theorem sharedIndentation_commonIndentation (lines : List (List Char)) :
    SharedIndentation lines (commonIndentation lines) := by
  unfold commonIndentation
  cases least : ((lines.filter hasText).map indentation).min? with
  | none =>
    have unseen : ∀ line ∈ lines, ∀ place, ¬ HasTextAt place line := by
      intro line listed place text
      have nothing := List.map_eq_nil_iff.1 (List.min?_eq_none_iff.1 least)
      exact List.filter_eq_nil_iff.1 nothing line listed (hasTextAt_iff.1 text).1
    refine ⟨fun _ _ _ _ => Nat.zero_le _, ?_, fun _ => rfl⟩
    rintro ⟨line, listed, place, text⟩
    exact absurd text (unseen line listed place)
  | some width =>
    obtain ⟨member, below⟩ := List.min?_eq_some_iff.1 least
    obtain ⟨line, kept, same⟩ := List.mem_map.1 member
    obtain ⟨listed, text⟩ := List.mem_filter.1 kept
    have reached : HasTextAt width line := hasTextAt_iff.2 ⟨text, same⟩
    refine ⟨fun other otherListed place otherText => ?_, fun _ => ⟨line, listed, reached⟩,
      fun unseen => absurd reached (unseen line listed width)⟩
    obtain ⟨visible, rfl⟩ := hasTextAt_iff.1 otherText
    exact below _ (List.mem_map_of_mem (List.mem_filter.2 ⟨otherListed, visible⟩))

/-- Of lines with text, one is left without indentation. -/
theorem exists_hasTextAt_zero {lines : List (List Char)}
    (visible : ∃ line ∈ lines, ∃ place, HasTextAt place line) :
    ∃ line ∈ dedent lines, HasTextAt 0 line := by
  obtain ⟨line, listed, text⟩ := (sharedIndentation_commonIndentation lines).reached visible
  have flush := text.outdent (Nat.le_refl _)
  rw [Nat.sub_self] at flush
  exact ⟨_, List.mem_map_of_mem listed, flush⟩

theorem dedent_eq_self {lines : List (List Char)} (flush : commonIndentation lines = 0) :
    dedent lines = lines := by
  rw [dedent_eq, flush]
  conv => rhs; rw [← List.map_id lines]
  exact List.map_congr_left fun line _ => by simp [outdent]

theorem dedent_dedent (lines : List (List Char)) : dedent (dedent lines) = dedent lines := by
  rcases Nat.eq_zero_or_pos (commonIndentation lines) with flush | indented
  · rw [dedent_eq_self flush, dedent_eq_self flush]
  · -- Some line has text, and one such line has lost all its indentation.
    obtain ⟨line, listed, text, -⟩ := exists_of_commonIndentation_pos indented
    obtain ⟨cut, cutListed, atStart⟩ :=
      exists_hasTextAt_zero ⟨line, listed, _, hasTextAt_iff.2 ⟨text, rfl⟩⟩
    have least :=
      (sharedIndentation_commonIndentation (dedent lines)).within cut cutListed 0 atStart
    exact dedent_eq_self (Nat.le_zero.1 least)

/-! ## Texts -/

theorem length_splitLines (text : List Char) : (splitLines text).length = lineCount text := by
  unfold splitLines lineCount
  induction text with
  | nil => rfl
  | cons c rest inductionHypothesis =>
    rw [split]
    split
    case isTrue lineFeed =>
      rw [List.length_cons, inductionHypothesis, lineFeed, lineFeeds_lineFeed, Nat.add_assoc]
    case isFalse other => rw [List.length_modifyHead, inductionHypothesis, lineFeeds_cons other]

/-- The lines that have been dedented are those of the text that they make. -/
theorem splitLines_dedent (text : List Char) :
    splitLines (joinLines (dedent (splitLines text))) = dedent (splitLines text) := by
  refine split_join (fun nothing => ?_) fun cut member => ?_
  · exact split_ne_nil '\n' text (List.map_eq_nil_iff.1 nothing)
  · obtain ⟨line, listed, rfl⟩ := List.mem_map.1 member
    exact fun inside => (of_mem_split listed).1 (outdent_subset _ _ inside)

theorem forall₂_outdent (lines : List (List Char)) :
    List.Forall₂ (fun line cut => cut = outdent (commonIndentation lines) line) lines
      (dedent lines) := by
  rw [dedent_eq, List.forall₂_map_right_iff]
  exact List.forall₂_same.2 fun _ _ => rfl

/-- What is left of a text without the indentation that its lines share. -/
structure Dedented (text cut : List Char) : Prop where
  lineCount : lineCount cut = lineCount text
  /-- All lines that have the shared indentation lose it, and no line loses anything else. -/
  lines : ∃ width, SharedIndentation (splitLines text) width ∧
    List.Forall₂ (Outdented width) (splitLines text) (splitLines cut)
  losesBlanks : LosesBlanks text cut
  /-- The texts of any two lines are as far from each other as they were. -/
  placed : ∀ first ∈ (splitLines text).zip (splitLines cut),
    ∀ second ∈ (splitLines text).zip (splitLines cut), ∀ firstPlace secondPlace,
      HasTextAt firstPlace first.1 → HasTextAt secondPlace second.1 →
        ∃ firstLeft secondLeft, HasTextAt firstLeft first.2 ∧ HasTextAt secondLeft second.2 ∧
          (firstLeft : Int) - secondLeft = firstPlace - secondPlace
  /-- One of the texts begins its line. -/
  flush : (∃ line ∈ splitLines text, ∃ place, HasTextAt place line) →
    ∃ line ∈ splitLines cut, HasTextAt 0 line
  /-- There is nothing more to lose. -/
  settled : joinLines (dedent (splitLines cut)) = cut

theorem dedented_dedent (text : List Char) :
    Dedented text (joinLines (dedent (splitLines text))) := by
  have outdented := forall₂_outdent (splitLines text)
  have shared := sharedIndentation_commonIndentation (splitLines text)
  have lines : List.Forall₂ (Outdented (commonIndentation (splitLines text))) (splitLines text)
      (dedent (splitLines text)) :=
    outdented.imp fun line cut same => same ▸ outdented_outdent _ line
  refine ⟨?_, ⟨_, shared, ?_⟩, ?_, ?_, ?_, ?_⟩
  · rw [← length_splitLines, ← length_splitLines, splitLines_dedent, outdented.length_eq]
  · rwa [splitLines_dedent]
  · have whole := LosesBlanks.joinLines (lines.imp fun _ _ => Outdented.losesBlanks)
    rwa [joinLines, splitLines, join_split] at whole
  · intro first firstPaired second secondPaired firstPlace secondPlace firstText secondText
    rw [splitLines_dedent] at firstPaired secondPaired
    -- Both have lost the shared indentation, which is not more than either of them had.
    have left : ∀ pair ∈ (splitLines text).zip (dedent (splitLines text)), ∀ place,
        HasTextAt place pair.1 → commonIndentation (splitLines text) ≤ place ∧
          HasTextAt (place - commonIndentation (splitLines text)) pair.2 := by
      intro pair paired place found
      have within := shared.within _ (List.of_mem_zip paired).1 place found
      rw [List.forall₂_zip outdented paired]
      exact ⟨within, found.outdent within⟩
    obtain ⟨firstWithin, firstLeft⟩ := left first firstPaired firstPlace firstText
    obtain ⟨secondWithin, secondLeft⟩ := left second secondPaired secondPlace secondText
    exact ⟨_, _, firstLeft, secondLeft, by omega⟩
  · rw [splitLines_dedent]
    exact exists_hasTextAt_zero
  · rw [splitLines_dedent, dedent_dedent]

/-- Lines without text do not count, and lose what they have. -/
example : dedent (["    a", "   ", "\t b", " \r"].map String.toList) =
    ["  a", " ", "b", " \r"].map String.toList := by decide

end StyleDoc.Text
