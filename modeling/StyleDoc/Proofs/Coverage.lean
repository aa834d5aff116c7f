import StyleDoc.Proofs.Occurrences

/-!
# Every comment once

The regions of a source stand in it one behind the other. Every place of the source lies in one of
them or has no region to begin there, so nothing that is written as a comment is lost: slashes and
blocks lie in exactly one region each, and a run is never split between two.
-/

namespace StyleDoc

open Text

/-! ## Where regions stand -/

namespace Occurrence

/-- Whether the character at this position of the source lies in the region. -/
def covers (occurrence : Occurrence) (position : Nat) : Bool :=
  occurrence.before.length ≤ position && position < occurrence.through.length

theorem covers_iff {occurrence : Occurrence} {position : Nat} : occurrence.covers position = true ↔
    occurrence.before.length ≤ position ∧ position < occurrence.through.length := by
  simp [covers]

end Occurrence

/-! ## Along the search -/

theorem pairwise_occurrencesFrom (before rest : List Char) :
    (occurrencesFrom before rest).Pairwise fun first second => first.through <+: second.before := by
  refine occurrencesFrom_induction
    (motive := fun before rest all =>
      (all.Pairwise fun first second => first.through <+: second.before) ∧
        ∀ occurrence ∈ all, before <+: occurrence.before) ?missing ?found before rest |>.1
  case missing =>
    intro before rest _
    exact ⟨.nil, by simp⟩
  case found =>
    intro before rest gap region behind others next inductionHypothesis
    obtain ⟨ordered, afterRegion⟩ := inductionHypothesis
    refine ⟨List.pairwise_cons.2 ⟨afterRegion, ordered⟩, ?_⟩
    intro occurrence member
    rcases List.mem_cons.1 member with rfl | later
    · exact List.prefix_append _ _
    · refine List.IsPrefix.trans ?_ (afterRegion occurrence later)
      rw [List.append_assoc]
      exact List.prefix_append _ _

/-- Every place of the text lies in a region, or no region begins there. -/
theorem covers_or_here?_eq_none (before rest : List Char) :
    ∀ front more, front ++ more = rest →
      (∃ occurrence ∈ occurrencesFrom before rest,
        occurrence.covers (before ++ front).length = true) ∨
      Region.here? (endsLine (before ++ front)) more = none := by
  refine occurrencesFrom_induction (motive := fun before rest all =>
    ∀ front more, front ++ more = rest →
      (∃ occurrence ∈ all, occurrence.covers (before ++ front).length = true) ∨
      Region.here? (endsLine (before ++ front)) more = none) ?missing ?found before rest
  case missing =>
    intro before rest next front more parts
    exact .inr (Region.here?_eq_none_of_next?_eq_none next parts)
  case found =>
    intro before rest gap region behind others next inductionHypothesis front more parts
    have whole : gap ++ (region.text ++ behind) = front ++ more := by
      rw [parts, ← Region.next?_eq next, List.append_assoc]
    have nonempty := List.length_pos_iff.2 (Region.next?_ne_nil next)
    rcases List.append_eq_append_iff.1 whole with ⟨inside, rfl, tail⟩ | ⟨passed, rfl, rfl⟩
    · -- The place is in the region, or it lies behind that and the search goes on to it.
      by_cases short : inside.length < region.text.length
      · refine .inl ⟨_, List.mem_cons_self, ?_⟩
        simp [Occurrence.covers, Occurrence.through]
        omega
      · obtain ⟨further, rfl⟩ : region.text <+: inside :=
          List.prefix_of_prefix_length_le ⟨behind, tail⟩ (List.prefix_append _ _) (by omega)
        rw [List.append_assoc, List.append_cancel_left_eq] at tail
        have later := inductionHypothesis further more tail.symm
        simp only [List.append_assoc] at later ⊢
        exact later.imp (fun ⟨occurrence, member, inside⟩ =>
          ⟨occurrence, List.mem_cons_of_mem _ member, inside⟩) id
    · -- The place is in front of the region, where the search has passed it, or at its beginning.
      cases passed with
      | nil =>
        refine .inl ⟨_, List.mem_cons_self, ?_⟩
        simp [Occurrence.covers, Occurrence.through]
        omega
      | cons c passed =>
        have nothing := Region.here?_eq_none_of_gap next rfl (List.cons_ne_nil c passed)
        rw [List.append_assoc] at nothing
        exact .inr nothing

theorem countP_covers_of_pairwise {all : List Occurrence} {occurrence : Occurrence} {position : Nat}
    (ordered : all.Pairwise fun first second => first.through <+: second.before)
    (member : occurrence ∈ all) (inside : occurrence.covers position = true) :
    all.countP (·.covers position) = 1 := by
  induction all with
  | nil => cases member
  | cons head others inductionHypothesis =>
    obtain ⟨headFirst, othersOrdered⟩ := List.pairwise_cons.1 ordered
    have within := Occurrence.covers_iff.1 inside
    rw [List.countP_cons]
    rcases List.mem_cons.1 member with rfl | later
    · have none : others.countP (·.covers position) = 0 := by
        rw [List.countP_eq_zero]
        intro other listed covered
        have passed := (headFirst other listed).length_le
        rw [Occurrence.covers_iff] at covered
        omega
      rw [none, if_pos inside]
    · have passed := (headFirst occurrence later).length_le
      have outside : ¬ head.covers position = true := by
        rw [Occurrence.covers_iff]
        omega
      rw [inductionHypothesis othersOrdered later, if_neg outside]

section occurrences

variable {source : List Char}

/-- A place where a region begins, if nothing else covers it, lies in some region. -/
theorem exists_covers_of_here? {front more : List Char} {found : Region × List Char}
    (parts : front ++ more = source) (here : Region.here? (endsLine front) more = some found) :
    ∃ occurrence ∈ occurrences source, occurrence.covers front.length = true := by
  rcases covers_or_here?_eq_none [] source front more parts with covered | nothing
  · exact covered
  · rw [List.nil_append, here] at nothing
    cases nothing

theorem countP_covers {occurrence : Occurrence} {position : Nat}
    (found : occurrence ∈ occurrences source) (inside : occurrence.covers position = true) :
    (occurrences source).countP (·.covers position) = 1 :=
  countP_covers_of_pairwise (pairwise_occurrencesFrom [] source) found inside

/-- Two regions of a source that cover the same place are one. -/
theorem eq_of_covers {first second : Occurrence} {position : Nat}
    (found : first ∈ occurrences source) (again : second ∈ occurrences source)
    (inside : first.covers position = true) (insideAgain : second.covers position = true) :
    first = second := by
  have one := countP_covers found inside
  rw [List.countP_eq_length_filter, List.length_eq_one_iff] at one
  obtain ⟨only, same⟩ := one
  have firstOnly : first ∈ [only] := same ▸ List.mem_filter.2 ⟨found, inside⟩
  have secondOnly : second ∈ [only] := same ▸ List.mem_filter.2 ⟨again, insideAgain⟩
  rw [List.mem_singleton.1 firstOnly, List.mem_singleton.1 secondOnly]

end occurrences

/-! ## Where a region ends -/

namespace Occurrence

variable {occurrence : Occurrence} {source text : List Char}

theorem StandsIn.getLast?_through (stands : occurrence.StandsIn source) :
    occurrence.through.getLast? = occurrence.region.text.getLast? :=
  getLast?_append_of_ne_nil stands.ne_nil

/-- What the region covers behind a place at which it has begun. -/
theorem StandsIn.exists_covered (stands : occurrence.StandsIn source) {front rest : List Char}
    (parts : front ++ rest = source) (begun : front.length < occurrence.through.length) :
    ∃ covered, occurrence.through = front ++ covered ∧ covered ++ occurrence.behind = rest ∧
      occurrence.through.getLast? = covered.getLast? := by
  have split := stands.through_append
  obtain ⟨covered, same⟩ : front <+: occurrence.through :=
    List.prefix_of_prefix_length_le ⟨rest, parts⟩ ⟨occurrence.behind, split⟩ (Nat.le_of_lt begun)
  have nonempty : covered ≠ [] := by
    rintro rfl
    rw [← same, List.append_nil] at begun
    exact Nat.lt_irrefl _ begun
  rw [← same, ← parts, List.append_assoc] at split
  refine ⟨covered, same.symm, List.append_cancel_left split, ?_⟩
  rw [← same, getLast?_append_of_ne_nil nonempty]

/-- A region goes on to the end of its last line, or it ends with the slash of a block. -/
theorem StandsIn.ends (stands : occurrence.StandsIn source) :
    occurrence.behind.head?.all (· == '\n') = true ∨ occurrence.through.getLast? = some '/' := by
  rcases Region.here?_cases stands.here with
    ⟨text, isRun, _, cut⟩ | ⟨indent, body, stars, _, isBlock, _⟩
  · left
    have ended := Region.head?_cutRun (occurrence.region.text ++ occurrence.behind)
    rwa [cut] at ended
  · right
    rw [stands.getLast?_through, isBlock, Region.text, List.getLast?_concat]

/-- No region ends among blanks, unless they are the last ones of their line. -/
theorem StandsIn.covers_behind_blanks (stands : occurrence.StandsIn source)
    {front blanks behind : List Char} {c : Char} (parts : front ++ blanks ++ c :: behind = source)
    (allBlank : ∀ b ∈ blanks, isBlank b = true) (inLine : c ≠ '\n')
    (inside : occurrence.covers front.length = true) :
    occurrence.covers (front ++ blanks).length = true := by
  rw [covers_iff] at inside ⊢
  rw [List.append_assoc] at parts
  obtain ⟨covered, same, rest, last⟩ := stands.exists_covered parts inside.2
  suffices longer : blanks.length < covered.length by
    rw [same, List.length_append, List.length_append]
    omega
  rcases stands.ends with lineEnds | slash
  · have whole := not_mem_blanks_append allBlank [c] (by simpa using inLine.symm)
    have longer := (prefix_of_lineEnds lineEnds whole (by simpa using rest)).length_le
    rw [List.length_append] at longer
    exact longer
  · refine Nat.lt_of_not_ge fun short => ?_
    have among : covered <+: blanks :=
      List.prefix_of_prefix_length_le ⟨_, rest⟩ (List.prefix_append _ _) short
    rw [last] at slash
    exact absurd (allBlank _ (among.subset (List.mem_of_getLast? slash))) (by decide)

theorem StandsIn.cutRun_eq (stands : occurrence.StandsIn source)
    (isRun : occurrence.region = .run text) :
    (Region.cutRun (text ++ occurrence.behind)).1 = text ∧
      (Region.cutRun (text ++ occurrence.behind)).2 = occurrence.behind := by
  rcases Region.here?_cases stands.here with ⟨_, same, _, cut⟩ | ⟨_, _, _, _, same, _⟩
  · rw [isRun] at same cut
    cases same
    exact Prod.mk.inj cut
  · rw [isRun] at same
    cases same

theorem StandsIn.head?_behind (stands : occurrence.StandsIn source)
    (isRun : occurrence.region = .run text) : occurrence.behind.head?.all (· == '\n') = true := by
  rw [← (stands.cutRun_eq isRun).2]
  exact Region.head?_cutRun _

/-- A run that leaves a line feed before a slashed line has taken another one along. -/
theorem StandsIn.getLast?_of_behind_eq (stands : occurrence.StandsIn source)
    (isRun : occurrence.region = .run text) {more : List Char}
    (stopped : occurrence.behind = '\n' :: more) (opens : Region.opensRun more = true) :
    occurrence.through.getLast? = some '\n' := by
  obtain ⟨taken, left⟩ := stands.cutRun_eq isRun
  rw [← left] at stopped
  rw [stands.getLast?_through, isRun, Region.text, ← taken]
  exact Region.getLast?_of_cutRun_eq_lineFeed stopped opens

/-- A run that covers a place on a line goes on through the slashes of the next line. -/
theorem StandsIn.prefix_through (stands : occurrence.StandsIn source)
    (isRun : occurrence.region = .run text) {front line blanks behind : List Char}
    (parts : front ++ (line ++ '\n' :: (blanks ++ ['/', '/', '/'] ++ behind)) = source)
    (whole : '\n' ∉ line) (allBlank : ∀ b ∈ blanks, isBlank b = true)
    (begun : front.length < occurrence.through.length) :
    front ++ (line ++ '\n' :: (blanks ++ ['/', '/', '/'])) <+: occurrence.through := by
  have opens : Region.opensRun (blanks ++ ['/', '/', '/'] ++ behind) = true := by
    rw [List.append_assoc, Region.opensRun_of_append_blanks allBlank]
    rfl
  have slashesWhole := not_mem_blanks_append allBlank ['/', '/', '/'] (by decide)
  have lineEnds := stands.head?_behind isRun
  obtain ⟨covered, same, rest, last⟩ := stands.exists_covered parts begun
  obtain ⟨further, rfl⟩ := prefix_of_lineEnds lineEnds whole rest
  rw [List.append_assoc] at rest
  have later := List.append_cancel_left rest
  cases further with
  | nil =>
    -- At the end of the line the run would have to leave the line feed for an empty line.
    have lineFeed := stands.getLast?_of_behind_eq isRun later opens
    rw [last, List.append_nil] at lineFeed
    exact absurd (List.mem_of_getLast? lineFeed) whole
  | cons c further =>
    obtain ⟨rfl, slashes⟩ := List.cons.inj later
    obtain ⟨more, rfl⟩ := prefix_of_lineEnds lineEnds slashesWhole slashes
    exact ⟨more, by simp [same]⟩

end Occurrence

/-! ## The comments of a source -/

/-- The comments of a source are its regions, which stand in it one behind the other, and no place
where a comment is written is left out or counted twice. -/
structure EachCommentOnce (source : List Char) : Prop where
  oneEach : Comment.extract source = (occurrences source).map Comment.ofOccurrence
  pieces : ∀ occurrence ∈ occurrences source,
    occurrence.before ++ occurrence.region.text ++ occurrence.behind = source ∧
      occurrence.region.text ≠ []
  ordered : (occurrences source).Pairwise fun first second => first.through <+: second.before
  slashes : ∀ front behind, front ++ (['/', '/', '/'] ++ behind) = source →
    (occurrences source).countP (·.covers front.length) = 1
  blocks : ∀ front blanks inside, front ++ blanks ++ (['/', '*', '*'] ++ inside) = source →
    endsLine front = true → (∀ b ∈ blanks, isBlank b = true) → ['*', '/'] <:+: inside →
      (occurrences source).countP (·.covers (front ++ blanks).length) = 1
  runs : ∀ occurrence ∈ occurrences source, ∀ text, occurrence.region = .run text →
    ∀ front line blanks behind,
      front ++ (line ++ '\n' :: (blanks ++ ['/', '/', '/'] ++ behind)) = source →
      '\n' ∉ line → (∀ b ∈ blanks, isBlank b = true) →
      ∀ position, front.length ≤ position → position ≤ (front ++ line).length →
        occurrence.covers position = true →
          ∀ slash < 3, occurrence.covers ((front ++ line ++ '\n' :: blanks).length + slash) = true

theorem eachCommentOnce (source : List Char) : EachCommentOnce source where
  oneEach := Comment.extract_eq source
  pieces occurrence found := ⟨(standsIn_of_mem found).whole, (standsIn_of_mem found).ne_nil⟩
  ordered := pairwise_occurrencesFrom [] source
  slashes front behind parts := by
    obtain ⟨found, here⟩ := Region.exists_here?_slashes (endsLine front) behind
    obtain ⟨occurrence, member, inside⟩ := exists_covers_of_here? parts here
    exact countP_covers member inside
  blocks front blanks inside parts atLineStart allBlank closes := by
    obtain ⟨found, here⟩ := Region.exists_here?_block allBlank closes
    rw [← atLineStart] at here
    rw [List.append_assoc] at parts
    obtain ⟨occurrence, member, covered⟩ := exists_covers_of_here? parts here
    rw [← List.append_assoc] at parts
    have further := (standsIn_of_mem member).covers_behind_blanks parts allBlank (by decide) covered
    exact countP_covers member further
  runs occurrence found text isRun front line blanks behind parts whole allBlank position atFront
      onLine inside slash third := by
    rw [Occurrence.covers_iff] at inside ⊢
    have longer := ((standsIn_of_mem found).prefix_through isRun parts whole allBlank
      (by omega)).length_le
    simp only [List.length_append, List.length_cons, List.length_nil] at longer onLine ⊢
    omega

end StyleDoc
