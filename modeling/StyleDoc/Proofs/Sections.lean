import StyleDoc.Comment.Layout
import StyleDoc.Proofs.Lines

/-!
# Sections of a comment

The lines of a comment fall into plain lines and the sections behind them, each with a tag line at
its head and no other tag line in it. There is one way only to cut lines into such parts. Grouping
drops the separators, cuts the other lines into these parts and writes every section as one text. So
the kept lines can be read off the result, in their order, and a second grouping finds nothing left
to do.
-/

namespace StyleDoc

open Text

variable {lines plain : List (List Char)} {tagged : List (List (List Char))}

/-- A tag line, and behind it lines that are none. -/
inductive IsSection : List (List Char) → Prop where
  | headed {head : List Char} {followers : List (List Char)} (tag : head.head? = some '@')
      (noTags : ∀ line ∈ followers, line.head? ≠ some '@') : IsSection (head :: followers)

/-- The lines begin with plain ones, and all others are in sections. -/
structure Sectioned (lines plain : List (List Char)) (tagged : List (List (List Char))) : Prop where
  parts : plain ++ tagged.flatten = lines
  noTags : ∀ line ∈ plain, line.head? ≠ some '@'
  isSection : ∀ part ∈ tagged, IsSection part

/-! ## Cutting lines into sections -/

theorem sections_cons_of_tag {line : List Char} (tag : line.head? = some '@')
    (rest : List (List Char)) :
    sections (line :: rest) = ([], (line :: (sections rest).1) :: (sections rest).2) := by
  simp [sections, isTagLine, tag]

theorem sections_cons_of_not_tag {line : List Char} (noTag : line.head? ≠ some '@')
    (rest : List (List Char)) :
    sections (line :: rest) = (line :: (sections rest).1, (sections rest).2) := by
  simp [sections, isTagLine, noTag]

theorem sectioned_sections (lines : List (List Char)) :
    Sectioned lines (sections lines).1 (sections lines).2 := by
  induction lines with
  | nil => exact ⟨rfl, by simp [sections], by simp [sections]⟩
  | cons line rest inductionHypothesis =>
    obtain ⟨parts, noTags, isSection⟩ := inductionHypothesis
    by_cases tag : line.head? = some '@'
    · -- The plain lines in front of the later sections now follow this tag line.
      rw [sections_cons_of_tag tag]
      refine ⟨by simp [parts], by simp, ?_⟩
      rw [List.forall_mem_cons]
      exact ⟨.headed tag noTags, isSection⟩
    · rw [sections_cons_of_not_tag tag]
      refine ⟨by simp [parts], ?_, isSection⟩
      rw [List.forall_mem_cons]
      exact ⟨tag, noTags⟩

theorem sections_append (noTags : ∀ line ∈ plain, line.head? ≠ some '@')
    (rest : List (List Char)) :
    sections (plain ++ rest) = (plain ++ (sections rest).1, (sections rest).2) := by
  induction plain with
  | nil => rfl
  | cons line plain inductionHypothesis =>
    rw [List.forall_mem_cons] at noTags
    rw [List.cons_append, sections_cons_of_not_tag noTags.1, inductionHypothesis noTags.2]
    rfl

theorem sections_flatten (isSection : ∀ part ∈ tagged, IsSection part) :
    sections tagged.flatten = ([], tagged) := by
  induction tagged with
  | nil => rfl
  | cons part tagged inductionHypothesis =>
    rw [List.forall_mem_cons] at isSection
    obtain ⟨tag, noTags⟩ := isSection.1
    rw [List.flatten_cons, List.cons_append, sections_cons_of_tag tag, sections_append noTags,
      inductionHypothesis isSection.2, List.append_nil]

/-- Lines can be cut into sections in one way only. -/
theorem Sectioned.sections_eq (sectioned : Sectioned lines plain tagged) :
    sections lines = (plain, tagged) := by
  rw [← sectioned.parts, sections_append sectioned.noTags, sections_flatten sectioned.isSection,
    List.append_nil]

/-- The tag lines of sections are their heads. -/
theorem map_head?_of_isSection (isSection : ∀ part ∈ tagged, IsSection part) :
    tagged.map List.head? =
      (tagged.flatten.filter fun line => line.head? = some '@').map some := by
  induction tagged with
  | nil => rfl
  | cons part tagged inductionHypothesis =>
    rw [List.forall_mem_cons] at isSection
    obtain ⟨tag, noTags⟩ := isSection.1
    have others : List.filter (fun line : List Char => line.head? = some '@') _ = [] :=
      List.filter_eq_nil_iff.2 fun line member => by simpa using noTags line member
    rw [List.map_cons, inductionHypothesis isSection.2, List.flatten_cons, List.filter_append,
      List.filter_cons_of_pos (by simpa using tag), others]
    rfl

/-- Every tag line is the head of a section, in the order of the lines. -/
theorem Sectioned.map_head?_eq (sectioned : Sectioned lines plain tagged) :
    tagged.map List.head? = (lines.filter fun line => line.head? = some '@').map some := by
  have others : plain.filter (fun line => line.head? = some '@') = [] :=
    List.filter_eq_nil_iff.2 fun line member => by simpa using sectioned.noTags line member
  rw [← sectioned.parts, List.filter_append, others, List.nil_append]
  exact map_head?_of_isSection sectioned.isSection

/-! ## Grouping -/

theorem not_isSeparator_of_tag {line : List Char} (tag : line.head? = some '@') :
    isSeparator line = false := by
  obtain ⟨rest, rfl⟩ := List.head?_eq_some_iff.1 tag
  have solid : isSpace '@' = false := by decide
  simp [isSeparator, trimStart, solid, List.isPrefixOf]

/-- The text of a section begins as its tag line does. -/
theorem Sectioned.head?_joinLines (sectioned : Sectioned lines plain tagged) :
    ∀ text ∈ tagged.map joinLines, text.head? = some '@' := by
  intro text member
  obtain ⟨part, listed, rfl⟩ := List.mem_map.1 member
  obtain ⟨tag, _⟩ := sectioned.isSection part listed
  obtain ⟨rest, rfl⟩ := List.head?_eq_some_iff.1 tag
  rw [joinLines, join_cons, List.cons_append, List.head?_cons]

/-- A text that begins with an at sign makes a section by itself, also with line feeds in it. -/
theorem isSection_singleton {text : List Char} (tag : text.head? = some '@') :
    IsSection [text] :=
  .headed tag (by simp)

/-- The parts decide about the result of grouping. -/
theorem Sectioned.groupLines_eq (sectioned : Sectioned
    (lines.filter fun line => !isSeparator line) plain tagged) :
    groupLines lines = plain ++ tagged.map joinLines := by
  simp [groupLines, sectioned.sections_eq]

/-- The texts of sections, behind lines that are kept, are left as they are. -/
theorem Sectioned.groupLines_groupLines (sectioned : Sectioned
    (lines.filter fun line => !isSeparator line) plain tagged) :
    groupLines (plain ++ tagged.map joinLines) = plain ++ tagged.map joinLines := by
  have tags := sectioned.head?_joinLines
  have kept : (plain ++ tagged.map joinLines).filter (fun line => !isSeparator line) =
      plain ++ tagged.map joinLines := by
    rw [List.filter_eq_self]
    intro text member
    rcases List.mem_append.1 member with isPlain | isText
    · have listed : text ∈ lines.filter fun line => !isSeparator line := by
        rw [← sectioned.parts]
        exact List.mem_append_left _ isPlain
      exact (List.mem_filter.1 listed).2
    · simp [not_isSeparator_of_tag (tags text isText)]
  -- Every text is now a section of one line.
  have again : Sectioned (plain ++ tagged.map joinLines) plain
      ((tagged.map joinLines).map fun text => [text]) := by
    refine ⟨?_, sectioned.noTags, fun part member => ?_⟩
    · rw [← List.flatMap_def, List.flatMap_singleton']
    · obtain ⟨text, listed, rfl⟩ := List.mem_map.1 member
      exact isSection_singleton (tags text listed)
  rw [← kept] at again
  rw [again.groupLines_eq]
  simp [Function.comp_def, joinLines]

/-- The lines of a group split again where they have been joined. -/
theorem Sectioned.flatMap_splitLines (sectioned : Sectioned lines plain tagged)
    (whole : ∀ line ∈ lines, '\n' ∉ line) :
    (plain ++ tagged.map joinLines).flatMap splitLines = lines := by
  rw [← sectioned.parts] at whole ⊢
  rw [List.forall_mem_append] at whole
  have plainLines : plain.flatMap splitLines = plain := by
    have single : plain.map splitLines = plain.map fun line => [line] :=
      List.map_congr_left fun line member => split_of_not_mem (whole.1 line member)
    rw [List.flatMap_def, single, ← List.flatMap_def, List.flatMap_singleton']
  have sectionLines : (tagged.map joinLines).map splitLines = tagged := by
    rw [List.map_map]
    refine (List.map_congr_left fun part member => ?_).trans (List.map_id tagged)
    obtain ⟨_, _⟩ := sectioned.isSection part member
    exact split_join (List.cons_ne_nil _ _) fun line listed =>
      whole.2 line (List.mem_flatten_of_mem member listed)
  rw [List.flatMap_append, plainLines, List.flatMap_def, sectionLines]

/-- Grouping keeps every line but the separators, in order. Behind the plain lines it leaves one
text for each tag line, which holds the lines up to the next one, and grouping again changes
nothing. -/
theorem groupLines_sectioned (whole : ∀ line ∈ lines, '\n' ∉ line) :
    let kept := lines.filter fun line => !(['-', '-', '-'].isPrefixOf (trimStart line))
    (∃ plain tagged, Sectioned kept plain tagged ∧
        groupLines lines = plain ++ tagged.map joinLines ∧
        (∀ text ∈ tagged.map joinLines, text.head? = some '@') ∧
        tagged.map List.head? = (lines.filter fun line => line.head? = some '@').map some) ∧
      (groupLines lines).flatMap splitLines = kept ∧
      groupLines (groupLines lines) = groupLines lines := by
  intro kept
  have sectioned : Sectioned kept (sections kept).1 (sections kept).2 := sectioned_sections kept
  have grouped : groupLines lines = _ := sectioned.groupLines_eq
  have keptWhole : ∀ line ∈ kept, '\n' ∉ line := fun line member =>
    whole line (List.mem_filter.1 member).1
  have tags : (kept.filter fun line => line.head? = some '@') =
      lines.filter fun line => line.head? = some '@' := by
    rw [List.filter_filter]
    refine List.filter_congr fun line member => ?_
    by_cases tag : line.head? = some '@'
    · have keeps : isSeparator line = false := not_isSeparator_of_tag tag
      unfold isSeparator at keeps
      simp [tag, keeps]
    · simp [tag]
  refine ⟨⟨_, _, sectioned, grouped, sectioned.head?_joinLines, ?_⟩, ?_, ?_⟩
  · rw [sectioned.map_head?_eq, tags]
  · rw [grouped, sectioned.flatMap_splitLines keptWhole]
  · rw [grouped, sectioned.groupLines_groupLines]

/-- A separator between the lines of a section, which still are one text. -/
theorem groupLines_sectioned_separator :
    let lines := ["a".toList, "@b".toList, " --- c".toList, "d".toList, "@e".toList]
    (∀ line ∈ lines, '\n' ∉ line) ∧
      groupLines lines = ["a".toList, "@b\nd".toList, "@e".toList] ∧
      (groupLines lines).flatMap splitLines = ["a".toList, "@b".toList, "d".toList, "@e".toList] ∧
      groupLines (groupLines lines) = groupLines lines := by
  intro lines
  have whole : ∀ line ∈ lines, '\n' ∉ line := by decide
  obtain ⟨_, split, again⟩ := groupLines_sectioned whole
  exact ⟨whole, by decide, split.trans (by decide), again⟩

end StyleDoc
