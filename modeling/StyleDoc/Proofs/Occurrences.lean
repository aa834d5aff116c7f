import StyleDoc.Comment.Basic
import StyleDoc.Proofs.Declaration
import StyleDoc.Proofs.LineTable
import StyleDoc.Proofs.Region

/-!
# Regions and their comments

Each region that is found stands in the source, with the source on either side of it. So what is
looked up in the table of the source is no more than what is counted from the text up to the region,
and a comment does not depend on the source around it in any other way.
-/

namespace StyleDoc

open Text

/-! ## Where regions stand -/

namespace Occurrence

variable {occurrence : Occurrence} {source : List Char}

/-- The region stands in the source where it is found, and it is what begins there. -/
structure StandsIn (occurrence : Occurrence) (source : List Char) : Prop where
  whole : occurrence.before ++ occurrence.region.text ++ occurrence.behind = source
  here : Region.here? (endsLine occurrence.before) (occurrence.region.text ++ occurrence.behind) =
    some (occurrence.region, occurrence.behind)

theorem StandsIn.ne_nil (stands : occurrence.StandsIn source) : occurrence.region.text ≠ [] :=
  Region.here?_ne_nil stands.here

theorem StandsIn.through_append (stands : occurrence.StandsIn source) :
    occurrence.through ++ occurrence.behind = source := stands.whole

end Occurrence

/-! ## Along the search -/

/-- An induction along the search: nothing is left to find, or a region is found and the search goes
on behind it. -/
theorem occurrencesFrom_induction {motive : List Char → List Char → List Occurrence → Prop}
    (missing : ∀ before rest, Region.next? (endsLine before) rest = none → motive before rest [])
    (found : ∀ before rest gap region behind others,
      Region.next? (endsLine before) rest = some (gap, region, behind) →
      motive (before ++ gap ++ region.text) behind others →
      motive before rest (⟨before ++ gap, region, behind⟩ :: others))
    (before rest : List Char) : motive before rest (occurrencesFrom before rest) := by
  cases next : Region.next? (endsLine before) rest with
  | none =>
    rw [occurrencesFrom_of_none next]
    exact missing before rest next
  | some parts =>
    obtain ⟨gap, region, behind⟩ := parts
    rw [occurrencesFrom_of_some next]
    exact found before rest gap region behind _ next
      (occurrencesFrom_induction missing found _ behind)
termination_by rest.length
decreasing_by exact Region.next?_length_lt next

theorem standsIn_of_mem_occurrencesFrom (before rest : List Char) :
    ∀ occurrence ∈ occurrencesFrom before rest,
      occurrence.StandsIn (before ++ rest) ∧ before <+: occurrence.before := by
  refine occurrencesFrom_induction (motive := fun before rest all => ∀ occurrence ∈ all,
    occurrence.StandsIn (before ++ rest) ∧ before <+: occurrence.before) ?missing ?found before rest
  case missing =>
    intro before rest _ occurrence member
    cases member
  case found =>
    intro before rest gap region behind others next inductionHypothesis occurrence member
    have whole : before ++ gap ++ region.text ++ behind = before ++ rest := by
      rw [← Region.next?_eq next]
      simp
    rcases List.mem_cons.1 member with rfl | later
    · exact ⟨⟨whole, Region.here?_of_next? next⟩, List.prefix_append _ _⟩
    · obtain ⟨stands, behindFirst⟩ := inductionHypothesis occurrence later
      rw [whole] at stands
      refine ⟨stands, List.IsPrefix.trans ?_ behindFirst⟩
      rw [List.append_assoc]
      exact List.prefix_append _ _

theorem standsIn_of_mem {occurrence : Occurrence} (found : occurrence ∈ occurrences source) :
    occurrence.StandsIn source :=
  (standsIn_of_mem_occurrencesFrom [] source occurrence found).1

/-! ## Comments of regions -/

namespace Comment

/-- The comment of one region by itself, with the lines of its declaration counted from the region
on. -/
def ofOccurrence (occurrence : Occurrence) : Comment where
  lines := groupLines occurrence.region.lines
  role := occurrence.region.role
  declaration := Declaration.read occurrence.behind (some (lineCount occurrence.through))

theorem ofOccurrenceIn_eq {occurrence : Occurrence} {source : List Char}
    (stands : occurrence.StandsIn source) :
    ofOccurrenceIn (.ofText source) occurrence = ofOccurrence occurrence := by
  unfold ofOccurrenceIn ofOccurrence
  simp only [LineTable.lineOf_ofText, ← stands.through_append, Declaration.readIn_lineAt]

theorem extract_eq (source : List Char) : extract source = (occurrences source).map ofOccurrence :=
  List.map_congr_left fun _ found => ofOccurrenceIn_eq (standsIn_of_mem found)

end Comment

end StyleDoc
