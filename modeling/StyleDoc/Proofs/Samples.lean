import Mathlib.Data.List.DropRight
import StyleDoc.Proofs.FieldTexts
import StyleDoc.Proofs.Indentation

/-!
# The layout of examples

The code of an example stands below its first line. Its common indentation is removed, and so are
the blank lines at its ends. All fields of an object are trimmed, the code with them, and this takes
the indentation of its first line away as well. So the lines keep their places to each other just
when the first one is not indented more than the others.
-/

namespace StyleDoc.Annotation

open Text

/-! ## Blank lines -/

def isBlankLine (line : List Char) : Bool := line.all isSpace

theorem isBlankLine_iff {line : List Char} : isBlankLine line = true ↔ Blank line :=
  List.all_eq_true

/-- The lines without the blank ones at either end. -/
def shownLines (lines : List (List Char)) : List (List Char) :=
  (lines.dropWhile isBlankLine).rdropWhile isBlankLine

theorem exists_shownLines (lines : List (List Char)) :
    ∃ above below, above ++ (shownLines lines ++ below) = lines ∧
      (∀ line ∈ above, Blank line) ∧ ∀ line ∈ below, Blank line := by
  refine ⟨lines.takeWhile isBlankLine, (lines.dropWhile isBlankLine).rtakeWhile isBlankLine,
    ?_, fun line member => ?_, fun line member => ?_⟩
  · rw [shownLines, List.rdropWhile_append_rtakeWhile, List.takeWhile_append_dropWhile]
  · exact isBlankLine_iff.1 (List.mem_takeWhile_imp member)
  · exact isBlankLine_iff.1 (List.mem_rtakeWhile_imp member)

theorem not_blank_head_shownLines {lines : List (List Char)} {line : List Char}
    (first : (shownLines lines).head? = some line) : ¬ Blank line := by
  have begins : (lines.dropWhile isBlankLine).head? = some line := by
    obtain ⟨below, parts⟩ := List.rdropWhile_prefix isBlankLine (l := lines.dropWhile isBlankLine)
    rw [← parts, List.head?_append]
    exact Option.or_eq_some_iff.2 (.inl first)
  have seen := List.head?_dropWhile_not isBlankLine lines
  rw [begins] at seen
  rw [← isBlankLine_iff, Bool.not_eq_true]
  exact seen

theorem not_blank_getLast_shownLines {lines : List (List Char)}
    (nonempty : shownLines lines ≠ []) : ¬ Blank ((shownLines lines).getLast nonempty) :=
  fun blank => List.rdropWhile_last_not _ _ nonempty (isBlankLine_iff.2 blank)

theorem blank_joinLines {lines : List (List Char)} (blank : ∀ line ∈ lines, Blank line) :
    Blank (joinLines lines) := by
  cases lines with
  | nil => exact fun c member => nomatch member
  | cons first others =>
    intro c member
    rw [joinLines, join_cons, List.mem_append, List.mem_flatMap] at member
    rcases member with inFirst | ⟨line, listed, inLine⟩
    · exact blank first List.mem_cons_self c inFirst
    · rcases List.mem_cons.1 inLine with rfl | inLine
      · decide
      · exact blank line (List.mem_cons_of_mem _ listed) c inLine

/-- A text that is not white space alone shows a line. -/
theorem shownLines_splitLines_ne_nil {text : List Char} (visible : ¬ Blank text) :
    shownLines (splitLines text) ≠ [] := by
  intro nothing
  obtain ⟨above, below, parts, blankAbove, blankBelow⟩ := exists_shownLines (splitLines text)
  -- Where no line is shown, those above and below are all there is.
  have blank : Blank (joinLines (splitLines text)) := by
    rw [← parts, nothing]
    refine blank_joinLines fun line member => ?_
    exact (List.mem_append.1 member).elim (blankAbove line) (blankBelow line)
  rw [joinLines, splitLines, join_split] at blank
  exact visible blank

/-! ## Outdented lines -/

theorem blank_outdent_iff {width : Nat} {line : List Char} :
    Blank (outdent width line) ↔ Blank line := by
  unfold outdent
  split
  case isTrue within =>
    have before : Blank (line.take width) := fun c member =>
      isSpace_of_isBlank (isBlank_of_mem_take within c member)
    conv => rhs; rw [← List.take_append_drop width line]
    unfold Blank
    simp only [List.forall_mem_append]
    exact ⟨fun behind => ⟨before, behind⟩, fun both => both.2⟩
  case isFalse => rfl

theorem not_blank_of_hasText {line : List Char} (text : hasText line = true) : ¬ Blank line := by
  intro blank
  unfold hasText at text
  cases begins : line.dropWhile isBlank with
  | nil => simp [begins] at text
  | cons c rest =>
    have inside : c ∈ line := (List.dropWhile_sublist isBlank).subset (begins ▸ List.mem_cons_self)
    simp [begins, blank c inside] at text

theorem commonIndentation_shownLines (lines : List (List Char)) :
    commonIndentation (shownLines lines) = commonIndentation lines := by
  obtain ⟨above, below, parts, blankAbove, blankBelow⟩ := exists_shownLines lines
  -- Blank lines have no text, so they do not count.
  have unseen : ∀ {blank : List (List Char)}, (∀ line ∈ blank, Blank line) →
      blank.filter hasText = [] := fun blank =>
    List.filter_eq_nil_iff.2 fun line member text => not_blank_of_hasText text (blank line member)
  conv => rhs; rw [← parts]
  rw [commonIndentation, commonIndentation, List.filter_append, List.filter_append,
    unseen blankAbove, unseen blankBelow, List.nil_append, List.append_nil]

/-! ## Trimming lines -/

section Trim

variable {front rest : List Char}

theorem trimStart_append (visible : ¬ Blank front) :
    trimStart (front ++ rest) = trimStart front ++ rest := by
  have there : ¬ (front.dropWhile isSpace).isEmpty = true := fun nothing =>
    visible (List.dropWhile_eq_nil_iff.1 (List.isEmpty_iff.1 nothing))
  rw [trimStart, List.dropWhile_append, if_neg there, trimStart]

theorem dropEndWhile_append_of_visible (visible : ¬ Blank rest) (front : List Char) :
    dropEndWhile isSpace (front ++ rest) = front ++ dropEndWhile isSpace rest := by
  -- Read backwards, this is a trim at the start.
  have there : ¬ Blank rest.reverse := fun blank =>
    visible fun c member => blank c (List.mem_reverse.2 member)
  have dropped : (rest.reverse ++ front.reverse).dropWhile isSpace =
      rest.reverse.dropWhile isSpace ++ front.reverse := trimStart_append there
  rw [dropEndWhile, List.reverse_append, dropped, List.reverse_append, List.reverse_reverse]
  rfl

theorem indentation_append (visible : ¬ Blank front) :
    indentation (front ++ rest) = indentation front := by
  have stops : (front.takeWhile isBlank).length ≠ front.length := by
    intro all
    have blank := List.takeWhile_eq_self_iff.1 ((List.takeWhile_prefix isBlank).eq_of_length all)
    exact visible fun c member => isSpace_of_isBlank (blank c member)
  rw [indentation, List.takeWhile_append, if_neg stops, indentation]

theorem isFlush_trimStart {line : List Char} (visible : ¬ Blank line) :
    isFlush (trimStart line) = true := by
  have outside := List.head?_dropWhile_not isSpace line
  unfold trimStart
  cases begins : line.dropWhile isSpace with
  | nil => exact absurd (List.dropWhile_eq_nil_iff.1 begins) visible
  | cons c rest => simpa [begins, isFlush] using outside

/-- Line feeds are white space, so they need not be trimmed before it. -/
theorem trim_trimBy_isLineFeed (text : List Char) : trim (trimBy isLineFeed text) = trim text := by
  have space : ∀ c, isLineFeed c = true → isSpace c = true := by
    intro c lineFeed
    obtain rfl := beq_iff_eq.1 lineFeed
    decide
  obtain ⟨ended, parts, lineFeeds⟩ :=
    exists_dropEndWhile_append isLineFeed (text.dropWhile isLineFeed)
  have before : ∀ c ∈ text.takeWhile isLineFeed, isSpace c = true := fun c member =>
    space c (List.mem_takeWhile_imp member)
  calc trim (trimBy isLineFeed text)
      = trim (trimBy isLineFeed text ++ ended) :=
        (trim_append (fun c member => space c (lineFeeds c member)) _).symm
    _ = trim (text.dropWhile isLineFeed) := by rw [trimBy, parts]
    _ = trim (text.takeWhile isLineFeed ++ text.dropWhile isLineFeed) :=
        (trimBy_append_of_pos before _).symm
    _ = trim text := by rw [List.takeWhile_append_dropWhile]

theorem trimStart_joinLines {first : List Char} (visible : ¬ Blank first)
    (others : List (List Char)) :
    trimStart (joinLines (first :: others)) = joinLines (trimStart first :: others) := by
  rw [joinLines, join_cons, trimStart_append visible, joinLines, join_cons]

/-- Lines of white space around others are trimmed with the text. -/
theorem trim_joinLines {above lines below : List (List Char)} (nonempty : lines ≠ [])
    (blankAbove : ∀ line ∈ above, Blank line) (blankBelow : ∀ line ∈ below, Blank line) :
    trim (joinLines (above ++ (lines ++ below))) = trim (joinLines lines) := by
  have nonemptyBelow : lines ++ below ≠ [] := List.append_ne_nil_of_left_ne_nil nonempty below
  have spaceAbove : ∀ c ∈ above.flatMap (· ++ ['\n']), isSpace c = true := by
    intro c member
    obtain ⟨line, listed, inLine⟩ := List.mem_flatMap.1 member
    rcases List.mem_append.1 inLine with inLine | feed
    · exact blankAbove line listed c inLine
    · obtain rfl := List.mem_singleton.1 feed
      decide
  have spaceBelow : ∀ c ∈ below.flatMap ('\n' :: ·), isSpace c = true := by
    intro c member
    obtain ⟨line, listed, inLine⟩ := List.mem_flatMap.1 member
    rcases List.mem_cons.1 inLine with rfl | inLine
    · decide
    · exact blankBelow line listed c inLine
  rw [joinLines, join_append_of_ne_nil nonemptyBelow, trim, trimBy_append_of_pos spaceAbove,
    join_append nonempty]
  exact trim_append spaceBelow _

end Trim

/-- The line without some of what it ends with, which is white space. -/
structure CutLine (line cut : List Char) : Prop where
  part : cut <+: line
  visible : ¬ Blank line → ¬ Blank cut

theorem CutLine.indentation_eq {line cut : List Char} (cutLine : CutLine line cut)
    (visible : ¬ Blank line) : indentation cut = indentation line := by
  obtain ⟨ended, parts⟩ := cutLine.part
  rw [← parts, indentation_append (cutLine.visible visible)]

theorem cutLine_dropEndWhile (line : List Char) : CutLine line (dropEndWhile isSpace line) where
  part := dropEndWhile_prefix isSpace line
  visible visible blank := by
    obtain ⟨ended, parts, space⟩ := exists_dropEndWhile_append isSpace line
    refine visible fun c member => ?_
    rw [← parts] at member
    exact (List.mem_append.1 member).elim (blank c) (space c)

theorem not_mem_of_forall₂_cutLine {c : Char} {lines cuts : List (List Char)}
    (each : List.Forall₂ CutLine lines cuts) (whole : ∀ line ∈ lines, c ∉ line) :
    ∀ cut ∈ cuts, c ∉ cut := by
  induction each with
  | nil => exact fun cut member => nomatch member
  | cons cutLine each inductionHypothesis =>
    rw [List.forall_mem_cons] at whole ⊢
    exact ⟨fun inside => whole.1 (cutLine.part.subset inside), inductionHypothesis whole.2⟩

/-- White space at the end of lines is that of the last line, when there is text in it. -/
theorem exists_dropEndWhile_joinLines {lines : List (List Char)} (nonempty : lines ≠ [])
    (visible : ¬ Blank (lines.getLast nonempty)) :
    ∃ cuts, dropEndWhile isSpace (joinLines lines) = joinLines cuts ∧
      List.Forall₂ CutLine lines cuts := by
  have whole : ∀ line, CutLine line line := fun line => ⟨List.prefix_rfl, id⟩
  -- The last line alone is cut, and the others stay whole.
  refine ⟨lines.dropLast ++ [dropEndWhile isSpace (lines.getLast nonempty)], ?_, ?_⟩
  · conv => lhs; rw [← List.dropLast_concat_getLast nonempty]
    rw [joinLines, joinLines, join_append_of_ne_nil (List.cons_ne_nil _ _),
      join_append_of_ne_nil (List.cons_ne_nil _ _), join_singleton, join_singleton,
      dropEndWhile_append_of_visible visible]
  · conv => lhs; rw [← List.dropLast_concat_getLast nonempty]
    exact List.rel_append (List.forall₂_same.2 fun line _ => whole line)
      (.cons (cutLine_dropEndWhile _) .nil)

/-! ## The code of an example -/

/-- What is to be shown of the text: its lines but for the blank ones at the ends, without the
indentation they share and without white space behind the last one. -/
def laidOut (body : List Char) : List Char :=
  dropEndWhile isSpace (joinLines (dedent (shownLines (splitLines body))))

/-- The code that the standard annotation for examples reads from the text. -/
def codeOf? (text : List Char) : Option Json :=
  match standardValue? "example" text with
  | some (.obj fields) => fields.lookup "code"
  | _ => none

theorem trim_dedent {body : List Char} (visible : ¬ Blank body) :
    trim (joinLines (dedent (splitLines body))) =
      trim (joinLines (dedent (shownLines (splitLines body)))) := by
  obtain ⟨above, below, parts, blankAbove, blankBelow⟩ := exists_shownLines (splitLines body)
  let width := commonIndentation (splitLines body)
  have nonempty : (shownLines (splitLines body)).map (outdent width) ≠ [] := fun nothing =>
    shownLines_splitLines_ne_nil visible (List.map_eq_nil_iff.1 nothing)
  have blankMap : ∀ {lines : List (List Char)}, (∀ line ∈ lines, Blank line) →
      ∀ line ∈ lines.map (outdent width), Blank line := by
    intro lines blank line member
    obtain ⟨whole, listed, rfl⟩ := List.mem_map.1 member
    exact blank_outdent_iff.2 (blank whole listed)
  have outdented : dedent (splitLines body) = above.map (outdent width) ++
      ((shownLines (splitLines body)).map (outdent width) ++ below.map (outdent width)) := by
    rw [dedent_eq, ← List.map_append, ← List.map_append, parts]
  rw [outdented, trim_joinLines nonempty (blankMap blankAbove) (blankMap blankBelow), dedent_eq,
    commonIndentation_shownLines]

/-- All that is trimmed off the text that is to be shown is what it begins with. -/
theorem trimStart_laidOut (body : List Char) :
    trimStart (laidOut body) = trim (joinLines (dedent (shownLines (splitLines body)))) := by
  obtain ⟨ended, parts, space⟩ :=
    exists_dropEndWhile_append isSpace (joinLines (dedent (shownLines (splitLines body))))
  rw [laidOut, ← trim_eq_trimStart fun _ => getLast?_dropEndWhile, ← trim_append space, parts]

/-- The lines that a text shows, and those of the code that is read from it. The first of these
begins with text, and the others have the indentation that is left to them. -/
structure CodeLines (body first : List Char) (others : List (List Char)) (start : List Char)
    (cuts : List (List Char)) : Prop where
  shown : shownLines (splitLines body) = first :: others
  visible : ¬ Blank first
  code : splitLines (trimStart (laidOut body)) = start :: cuts
  flush : isFlush start = true
  outdented : List.Forall₂ (fun line cut => ¬ Blank line → indentation cut =
    indentation (outdent (commonIndentation (first :: others)) line)) others cuts

theorem not_mem_outdent_of_mem_shownLines {body line : List Char}
    (member : line ∈ shownLines (splitLines body)) (width : Nat) : '\n' ∉ outdent width line := by
  obtain ⟨above, below, parts, -⟩ := exists_shownLines (splitLines body)
  have listed : line ∈ splitLines body := by
    rw [← parts]
    exact List.mem_append_right _ (List.mem_append_left _ member)
  exact fun inside => (of_mem_split listed).1 (outdent_subset width line inside)

theorem exists_codeLines {body : List Char} (visible : ¬ Blank body) :
    ∃ first others start cuts, CodeLines body first others start cuts := by
  have nonempty := shownLines_splitLines_ne_nil visible
  have lastVisible := not_blank_getLast_shownLines nonempty
  obtain ⟨first, others, shown⟩ := List.exists_cons_of_ne_nil nonempty
  have firstVisible : ¬ Blank first := not_blank_head_shownLines (by rw [shown]; rfl)
  -- Without their common indentation the lines still end with text.
  have ends : ∀ nonempty : dedent (shownLines (splitLines body)) ≠ [],
      ¬ Blank ((dedent (shownLines (splitLines body))).getLast nonempty) := by
    intro nonempty
    simp only [dedent_eq, List.getLast_map, blank_outdent_iff]
    exact lastVisible
  have whole : ∀ line ∈ dedent (shownLines (splitLines body)), '\n' ∉ line := by
    intro line member
    obtain ⟨before, listed, rfl⟩ := List.mem_map.1 member
    exact not_mem_outdent_of_mem_shownLines listed _
  obtain ⟨cuts, parts, each⟩ := exists_dropEndWhile_joinLines
    (by rw [shown]; exact List.cons_ne_nil _ _) (ends _)
  have wholeCuts := not_mem_of_forall₂_cutLine each whole
  rw [shown] at each
  cases each with
  | @cons _ cut _ cuts firstCut otherCuts =>
    -- The first line is not blank, so trimming the text stops in it.
    have cutVisible : ¬ Blank cut :=
      firstCut.visible fun blank => firstVisible (blank_outdent_iff.1 blank)
    refine ⟨first, others, trimStart cut, cuts, shown, firstVisible, ?_,
      isFlush_trimStart cutVisible, ?_⟩
    · rw [List.forall_mem_cons] at wholeCuts
      have wholeStart : '\n' ∉ trimStart cut := fun inside =>
        wholeCuts.1 ((List.dropWhile_suffix isSpace).subset inside)
      rw [laidOut, parts, trimStart_joinLines cutVisible]
      exact split_join (List.cons_ne_nil _ _)
        (List.forall_mem_cons.2 ⟨wholeStart, wholeCuts.2⟩)
    · refine (List.forall₂_map_left_iff.1 otherCuts).imp fun line cut cutLine lineVisible => ?_
      exact cutLine.indentation_eq fun blank => lineVisible (blank_outdent_iff.1 blank)

/-! ## Layout -/

/-- Two texts have their lines at the same places to each other: between any two lines that are not
blank, the difference in indentation is the same in both. -/
def SameLayout (lines others : List (List Char)) : Prop :=
  lines.length = others.length ∧
    ∀ first ∈ lines.zip others, ∀ second ∈ lines.zip others, ¬ Blank first.1 → ¬ Blank second.1 →
      indentation first.1 + indentation second.2 = indentation second.1 + indentation first.2

theorem exists_mem_zip {α β : Type} {first : List α} {second : List β} {a : α}
    (same : first.length = second.length) (member : a ∈ first) :
    ∃ b, (a, b) ∈ first.zip second := by
  rw [← List.map_fst_zip (Nat.le_of_eq same)] at member
  obtain ⟨⟨a, b⟩, paired, rfl⟩ := List.mem_map.1 member
  exact ⟨b, paired⟩

section CodeLines

variable {body first start : List Char} {others cuts : List (List Char)}

/-- A line of the code has the common indentation less than in the text, if it had that much. -/
theorem CodeLines.indentation_eq (lines : CodeLines body first others start cuts)
    {pair : List Char × List Char} (paired : pair ∈ others.zip cuts) (visible : ¬ Blank pair.1) :
    indentation pair.2 =
      if commonIndentation (first :: others) ≤ indentation pair.1 then
        indentation pair.1 - commonIndentation (first :: others)
      else indentation pair.1 := by
  rw [← indentation_outdent]
  exact List.forall₂_zip lines.outdented paired visible

theorem CodeLines.sameLayout_of_least (lines : CodeLines body first others start cuts)
    (least : ∀ other ∈ others, ¬ Blank other →
      indentation first = commonIndentation (first :: others) ∧
        commonIndentation (first :: others) ≤ indentation other) :
    SameLayout (first :: others) (start :: cuts) := by
  have flush := indentation_of_isFlush lines.flush
  have moved : ∀ pair ∈ others.zip cuts, ¬ Blank pair.1 →
      indentation pair.2 + indentation first = indentation pair.1 := by
    intro pair paired visible
    obtain ⟨same, within⟩ := least pair.1 (List.of_mem_zip paired).1 visible
    have place := lines.indentation_eq paired visible
    rw [if_pos within] at place
    omega
  refine ⟨congrArg (· + 1) lines.outdented.length_eq, ?_⟩
  simp only [List.zip_cons_cons, List.forall_mem_cons]
  -- The first line stands beside itself, before or behind a later one, or two later ones are there.
  refine ⟨⟨fun _ _ => trivial, fun other paired _ visible => ?_⟩, fun pair paired =>
    ⟨fun visible _ => ?_, fun other behind visible otherVisible => ?_⟩⟩
  · have place := moved other paired visible
    omega
  · have place := moved pair paired visible
    omega
  · have place := moved pair paired visible
    have otherPlace := moved other behind otherVisible
    omega

theorem CodeLines.least_of_sameLayout (lines : CodeLines body first others start cuts)
    (layout : SameLayout (first :: others) (start :: cuts)) {other : List Char}
    (member : other ∈ others) (visible : ¬ Blank other) :
    indentation first = commonIndentation (first :: others) ∧
      commonIndentation (first :: others) ≤ indentation other := by
  have moved : ∀ line ∈ others, ¬ Blank line → indentation first +
      (if commonIndentation (first :: others) ≤ indentation line then
        indentation line - commonIndentation (first :: others)
      else indentation line) = indentation line := by
    intro line member visible
    obtain ⟨cut, paired⟩ := exists_mem_zip lines.outdented.length_eq member
    have place := layout.2 (first, start) List.mem_cons_self (line, cut)
      (List.mem_cons_of_mem _ paired) lines.visible visible
    rwa [lines.indentation_eq paired visible, indentation_of_isFlush lines.flush] at place
  have here := moved other member visible
  have least : indentation first = commonIndentation (first :: others) := by
    rcases Nat.eq_zero_or_pos (commonIndentation (first :: others)) with zero | indented
    · simp only [zero, Nat.zero_le, if_true] at here
      omega
    · -- Some line has the common indentation. Where it is not the first, that one has the same.
      obtain ⟨line, listed, text, reached⟩ := exists_of_commonIndentation_pos indented
      rcases List.mem_cons.1 listed with rfl | later
      · exact reached
      · have there := moved line later (not_blank_of_hasText text)
        rw [reached, if_pos (Nat.le_refl _)] at there
        omega
  refine ⟨least, ?_⟩
  split at here <;> omega

end CodeLines

/-! ## Reading -/

theorem CodeLines.code_ne_nil {body first start : List Char} {others cuts : List (List Char)}
    (lines : CodeLines body first others start cuts) : trimStart (laidOut body) ≠ [] := by
  intro nothing
  have empty : [[]] = start :: cuts := by
    rw [← lines.code, nothing]
    rfl
  have flush := lines.flush
  rw [← (List.cons.inj empty).1] at flush
  cases flush

theorem codeOf?_eq {head body : List Char} (whole : '\n' ∉ head) (visible : ¬ Blank body) :
    codeOf? (head ++ '\n' :: body) = some (.str (String.ofList (trimStart (laidOut body)))) := by
  have read : standardValue? "example" = sample := rfl
  have trimmed : trim (trimBy isLineFeed (joinLines (dedent (splitLines body)))) =
      trimStart (laidOut body) := by
    rw [trim_trimBy_isLineFeed, trim_dedent visible, trimStart_laidOut]
  have there : trim (trimBy isLineFeed (joinLines (dedent (splitLines body)))) ≠ [] := by
    obtain ⟨first, others, start, cuts, lines⟩ := exists_codeLines visible
    rw [trimmed]
    exact lines.code_ne_nil
  -- The code is the last of the fields, and it is there since the body is not blank.
  obtain ⟨entries, object, found⟩ := Fields.lookup_toJson_concat
    [("type", some (((sampleHead (trim head)).1.filter (· ≠ [])).getD "scss".toList)),
      ("description", (sampleHead (trim head)).2)] "code" there
  have value : sample (head ++ '\n' :: body) = some (.obj entries) := by
    rw [sample, cut?_append_cons whole, ← object]
    rfl
  rw [codeOf?, read, value, ← trimmed]
  exact found

/-- The code is read as it is to be shown, but for the white space that its first line begins with.
So its lines keep their places to each other just when the first line is among those that are
indented least, and no other line that is not blank is without the indentation they share. -/
theorem codeOf?_layout {head body : List Char} (whole : '\n' ∉ head) (visible : ¬ Blank body) :
    codeOf? (head ++ '\n' :: body) = some (.str (String.ofList (trimStart (laidOut body)))) ∧
      ∃ first others, shownLines (splitLines body) = first :: others ∧ ¬ Blank first ∧
        (SameLayout (first :: others) (splitLines (trimStart (laidOut body))) ↔
          ∀ other ∈ others, ¬ Blank other →
            indentation first = commonIndentation (first :: others) ∧
              commonIndentation (first :: others) ≤ indentation other) := by
  obtain ⟨first, others, start, cuts, lines⟩ := exists_codeLines visible
  refine ⟨codeOf?_eq whole visible, first, others, lines.shown, lines.visible, ?_⟩
  rw [lines.code]
  exact ⟨fun layout _ => lines.least_of_sameLayout layout, lines.sameLayout_of_least⟩

/-- The first line has the common indentation, so the lines keep their places. -/
theorem codeOf?_layout_flush_first :
    '\n' ∉ "scss - Usage".toList ∧ ¬ Blank "\n  @if a\n\n    b: c;\n  @else\n \n".toList ∧
      codeOf? "scss - Usage\n\n  @if a\n\n    b: c;\n  @else\n \n".toList =
        some (.str "@if a\n\n  b: c;\n@else") ∧
      SameLayout ["  @if a".toList, [], "    b: c;".toList, "  @else".toList]
        (splitLines "@if a\n\n  b: c;\n@else".toList) := by
  have whole : '\n' ∉ "scss - Usage".toList := by decide
  have visible : ¬ Blank "\n  @if a\n\n    b: c;\n  @else\n \n".toList := fun blank =>
    absurd (blank 'a' (by decide)) (by decide)
  have shown : shownLines (splitLines "\n  @if a\n\n    b: c;\n  @else\n \n".toList) =
      ["  @if a".toList, [], "    b: c;".toList, "  @else".toList] := rfl
  obtain ⟨read, first, others, lines, -, layout⟩ := codeOf?_layout whole visible
  obtain ⟨rfl, rfl⟩ := List.cons.inj (lines.symm.trans shown)
  have indented : ∀ other ∈ [[], "    b: c;".toList, "  @else".toList],
      other = [] ∨ 2 ≤ indentation other := by decide
  refine ⟨whole, visible, read, layout.2 fun other member visible => ?_⟩
  rcases indented other member with rfl | within
  · exact absurd (fun c member => nomatch member) visible
  · exact ⟨rfl, within⟩

/-- An example does not always keep its layout. -/
theorem not_forall_layoutKept : ¬ ∀ head body : List Char, '\n' ∉ head → ¬ Blank body →
    ∃ code, codeOf? (head ++ '\n' :: body) = some (.str (String.ofList code)) ∧
      SameLayout (shownLines (splitLines body)) (splitLines code) := by
  intro kept
  have visible : ¬ Blank "    a\n  b".toList := fun blank =>
    absurd (blank 'a' (by decide)) (by decide)
  obtain ⟨code, read, -, same⟩ := kept "scss".toList "    a\n  b".toList (by decide) visible
  have found : codeOf? "scss\n    a\n  b".toList = some (.str "a\nb") := rfl
  have shown : "a\nb" = String.ofList code := by simpa using found.symm.trans read
  obtain rfl : "a\nb".toList = code := by rw [shown, String.toList_ofList]
  have place := same ("    a".toList, "a".toList) (by decide) ("  b".toList, "b".toList) (by decide)
    (fun blank => absurd (blank 'a' (by decide)) (by decide))
    (fun blank => absurd (blank 'b' (by decide)) (by decide))
  exact absurd place (by decide)

end StyleDoc.Annotation
