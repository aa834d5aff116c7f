import Mathlib.Data.List.Nodup
import StyleDoc.Json.Basic
import StyleDoc.Proofs.NameMap

/-!
# Values up to the order of fields

The fields of an object have no order in what its text says, only in how it says it. Values are
alike when they differ in that order at most. Where no object has a key twice, sorting a value makes
it no different: a key that came twice would lose its first field.
-/

namespace StyleDoc.Json

/-- No object in the value has a key twice. -/
inductive DistinctKeys : Json → Prop where
  | null : DistinctKeys null
  | bool (value : Bool) : DistinctKeys (bool value)
  | int (value : Int) : DistinctKeys (int value)
  | str (value : String) : DistinctKeys (str value)
  | arr {items : List Json} (each : ∀ item ∈ items, DistinctKeys item) : DistinctKeys (arr items)
  | obj {fields : List (String × Json)} (keys : (fields.map (·.1)).Nodup)
      (each : ∀ field ∈ fields, DistinctKeys field.2) : DistinctKeys (obj fields)

/-- The values are the same but for the order of fields. -/
inductive Alike : Json → Json → Prop where
  | same (value : Json) : Alike value value
  | arr {items others : List Json} (length : items.length = others.length)
      (each : ∀ pair ∈ items.zip others, Alike pair.1 pair.2) : Alike (arr items) (arr others)
  | obj {fields others : List (String × Json)}
      (keys : (fields.map (·.1)).Perm (others.map (·.1)))
      (each : ∀ key value other, (key, value) ∈ fields → (key, other) ∈ others →
        Alike value other) : Alike (obj fields) (obj others)

/-! ## Sorting -/

theorem sortedItems_eq (items : List Json) : sortedItems items = items.map sorted := by
  induction items with
  | nil => rfl
  | cons item rest inductionHypothesis => rw [sortedItems, inductionHypothesis, List.map_cons]

/-- Fields under new keys are all kept. -/
theorem perm_sortedFields {done fields : List (String × Json)}
    (keys : ((done ++ fields).map (·.1)).Nodup) :
    (sortedFields done fields).Perm
      (done ++ fields.map fun field => (field.1, field.2.sorted)) := by
  induction fields generalizing done with
  | nil => simp [sortedFields]
  | cons field rest inductionHypothesis =>
    obtain ⟨key, value⟩ := field
    -- The key is new to the sorted fields, and the keys to come are new to it.
    have moved : ((key, value) :: (done ++ rest)).Perm (done ++ (key, value) :: rest) :=
      List.perm_middle.symm
    have distinct := (moved.map (·.1)).nodup_iff.2 keys
    rw [List.map_cons, List.map_append, List.nodup_cons] at distinct
    have fresh : key ∉ done.map (·.1) := fun member =>
      distinct.1 (List.mem_append_left _ member)
    have inserted := perm_insertEntry_of_not_mem value.sorted fresh
    have continued : ((insertEntry key value.sorted done ++ rest).map (·.1)).Nodup := by
      rw [List.map_append, ((inserted.map (·.1)).append_right _).nodup_iff, List.map_cons,
        List.cons_append, List.nodup_cons]
      exact distinct
    rw [sortedFields]
    refine (inductionHypothesis continued).trans ?_
    exact (inserted.append_right _).trans List.perm_middle.symm

theorem lookup_sortedFields (done fields : List (String × Json)) (key : String) :
    (sortedFields done fields).lookup key =
      ((fields.reverse.lookup key).map sorted).or (done.lookup key) := by
  induction fields generalizing done with
  | nil => simp [sortedFields]
  | cons field rest inductionHypothesis =>
    obtain ⟨name, value⟩ := field
    -- Of fields with one key the last one counts, which is the first in reverse.
    rw [sortedFields, inductionHypothesis, List.reverse_cons, List.lookup_append, Option.map_or,
      Option.or_assoc]
    congr 1
    by_cases same : key = name
    · simp [same, lookup_insertEntry_self]
    · rw [lookup_insertEntry_of_ne same, lookup_cons_of_ne same]
      simp

theorem pairwise_sortedFields {done : List (String × Json)} (ordered : done.Pairwise (·.1 < ·.1))
    (fields : List (String × Json)) : (sortedFields done fields).Pairwise (·.1 < ·.1) := by
  induction fields generalizing done with
  | nil => exact ordered
  | cons field rest inductionHypothesis => exact inductionHypothesis (pairwise_insertEntry ordered)

theorem mem_keys_sortedFields (fields : List (String × Json)) (key : String) :
    key ∈ (sortedFields [] fields).map (·.1) ↔ key ∈ fields.map (·.1) := by
  rw [mem_keys_iff, lookup_sortedFields, List.lookup_nil, Option.or_none, Option.isSome_map,
    ← mem_keys_iff, List.map_reverse, List.mem_reverse]

theorem mem_of_mem_sortedFields {done fields : List (String × Json)} {entry : String × Json}
    (member : entry ∈ sortedFields done fields) :
    entry ∈ done ∨ ∃ field ∈ fields, entry = (field.1, field.2.sorted) := by
  induction fields generalizing done with
  | nil => exact .inl member
  | cons field rest inductionHypothesis =>
    rcases inductionHypothesis member with inserted | ⟨later, listed, same⟩
    · rcases eq_or_mem_of_mem_insertEntry inserted with same | earlier
      · exact .inr ⟨field, List.mem_cons_self, same⟩
      · exact .inl earlier
    · exact .inr ⟨later, List.mem_cons_of_mem field listed, same⟩

/-- A value without repeated keys is sorted into one that says the same. -/
theorem DistinctKeys.alike_sorted {value : Json} (distinct : value.DistinctKeys) :
    Alike value value.sorted := by
  induction distinct with
  | null => exact .same _
  | bool value => exact .same _
  | int value => exact .same _
  | str value => exact .same _
  | @arr items each inductionHypothesis =>
    rw [sorted, sortedItems_eq]
    refine .arr (List.length_map _).symm ?_
    rw [← List.map_prod_left_eq_zip]
    intro pair member
    obtain ⟨item, listed, rfl⟩ := List.mem_map.1 member
    exact inductionHypothesis item listed
  | @obj fields keys each inductionHypothesis =>
    have kept : (sortedFields [] fields).Perm (fields.map fun field => (field.1, field.2.sorted)) :=
      perm_sortedFields keys
    have sortedKeys := (kept.map (·.1)).symm
    rw [List.map_map] at sortedKeys
    rw [sorted]
    refine .obj sortedKeys ?_
    intro key value other member otherMember
    obtain ⟨field, listed, same⟩ := List.mem_map.1 (kept.mem_iff.1 otherMember)
    obtain ⟨sameKey, rfl⟩ := Prod.mk.inj same
    -- The key stands for one field only.
    have sameField := List.inj_on_of_nodup_map keys member listed sameKey.symm
    rw [← sameField]
    exact inductionHypothesis _ member

end StyleDoc.Json
