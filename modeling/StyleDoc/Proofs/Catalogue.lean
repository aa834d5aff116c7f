import Mathlib.Data.List.Induction
import StyleDoc.Catalogue
import StyleDoc.Proofs.NameMap

/-!
# Records in a catalogue

What a catalogue holds after any number of records has been added: a group for each kind that has
come up, in the order in which the kinds first did, and in it exactly the records of that kind, in
the order in which they came. No record is lost or kept more than once.
-/

namespace StyleDoc.Catalogue

/-- The records of a kind, none where the catalogue has no such group. -/
def recordsOf (catalogue : Catalogue) (kind : Kind) : List Record := (catalogue.get? kind).getD []

/-! ## First occurrences -/

section

variable {α β : Type} [DecidableEq α]

theorem eraseDups_concat (items : List α) (item : α) :
    (items ++ [item]).eraseDups = items.eraseDups ++ if item ∈ items then [] else [item] := by
  rw [List.eraseDups_append]
  by_cases earlier : item ∈ items <;> simp [List.removeAll, earlier, List.eraseDups_cons]

theorem nodup_eraseDups (items : List α) : items.eraseDups.Nodup := by
  induction items using List.reverseRecOn with
  | nil => exact .nil
  | append_singleton items item inductionHypothesis =>
    rw [eraseDups_concat]
    split
    case isTrue => rwa [List.append_nil]
    case isFalse fresh =>
      have fresh : item ∉ items.eraseDups := mt List.mem_eraseDups.1 fresh
      exact (List.perm_append_singleton _ _).nodup_iff.2
        (List.nodup_cons.2 ⟨fresh, inductionHypothesis⟩)

theorem lookup_map_of_mem {keys : List α} {key : α} (member : key ∈ keys) (value : α → β) :
    (keys.map fun key => (key, value key)).lookup key = some (value key) := by
  induction keys with
  | nil => cases member
  | cons first rest inductionHypothesis =>
    by_cases here : key = first
    · simp [here]
    · rw [List.map_cons, lookup_cons_of_ne here]
      exact inductionHypothesis ((List.mem_cons.1 member).resolve_left here)

theorem lookup_map_of_not_mem {keys : List α} {key : α} (missing : key ∉ keys) (value : α → β) :
    (keys.map fun key => (key, value key)).lookup key = none := by
  rw [List.lookup_eq_none_iff]
  intro entry member
  obtain ⟨other, listed, rfl⟩ := List.mem_map.1 member
  have different : key ≠ other := fun same => missing (same ▸ listed)
  simpa using different

end

/-! ## One more record -/

/-- One record more goes to the end of the group of its kind, or behind all groups. -/
theorem addToGroup_map {kinds : List Kind} (distinct : kinds.Nodup) (held : Kind → List Record)
    (kind : Kind) (record : Record) :
    addToGroup kind record (kinds.map fun other => (other, held other)) =
      (kinds.map fun other => (other, held other ++ if kind = other then [record] else [])) ++
        if kind ∈ kinds then [] else [(kind, [record])] := by
  induction kinds with
  | nil => rfl
  | cons first rest inductionHypothesis =>
    obtain ⟨absent, distinct⟩ := List.nodup_cons.1 distinct
    rw [List.map_cons, addToGroup]
    by_cases here : first = kind
    · subst here
      -- No later group has the kind, so all of these stay as they are.
      have others : ∀ other ∈ rest,
          (other, held other) = (other, held other ++ if first = other then [record] else []) := by
        intro other listed
        have different : first ≠ other := fun same => absent (same ▸ listed)
        rw [if_neg different, List.append_nil]
      simp [List.map_congr_left others]
    · rw [if_neg here, inductionHypothesis distinct]
      simp [Ne.symm here]

theorem perm_flatMap_addToGroup (kind : Kind) (record : Record)
    (groups : List (Kind × List Record)) :
    ((addToGroup kind record groups).flatMap (·.2)).Perm (record :: groups.flatMap (·.2)) := by
  induction groups with
  | nil => simp [addToGroup]
  | cons group rest inductionHypothesis =>
    rw [addToGroup]
    split
    · simp
    · rw [List.flatMap_cons, List.flatMap_cons]
      exact (inductionHypothesis.append_left group.2).trans List.perm_middle

/-! ## Any number of records -/

variable {records : List Record}

theorem ofRecords_concat (records : List Record) (record : Record) :
    ofRecords (records ++ [record]) = (ofRecords records).push record :=
  List.foldl_append

/-- The groups that records leave behind, one for each kind in the order of first occurrence. -/
theorem groups_ofRecords (records : List Record) :
    (ofRecords records).groups = (records.map Record.kind).eraseDups.map fun kind =>
      (kind, records.filter (·.kind = kind)) := by
  induction records using List.reverseRecOn with
  | nil => rfl
  | append_singleton records record inductionHypothesis =>
    rw [ofRecords_concat, push, inductionHypothesis, addToGroup_map (nodup_eraseDups _),
      List.map_append, List.map_singleton, eraseDups_concat, List.map_append]
    have grown : ∀ kind, (records ++ [record]).filter (·.kind = kind) =
        records.filter (·.kind = kind) ++ if record.kind = kind then [record] else [] := by
      intro kind
      rw [List.filter_append]
      by_cases same : record.kind = kind <;> simp [same]
    simp only [grown, List.mem_eraseDups]
    split
    case isTrue => rfl
    case isFalse fresh =>
      -- A kind that has not come up has no records yet.
      have empty : records.filter (·.kind = record.kind) = [] := by
        rw [List.filter_eq_nil_iff]
        intro other member
        have different : other.kind ≠ record.kind := fun same =>
          fresh (same ▸ List.mem_map_of_mem member)
        simpa using different
      simp [empty]

theorem kinds_ofRecords (records : List Record) :
    (ofRecords records).kinds = (records.map Record.kind).eraseDups := by
  rw [kinds, groups_ofRecords, List.map_map]
  exact List.map_id' _

theorem nodup_kinds_ofRecords (records : List Record) : (ofRecords records).kinds.Nodup := by
  rw [kinds_ofRecords]
  exact nodup_eraseDups _

/-- The kinds that have come up are those with records. -/
theorem mem_kinds_iff {kind : Kind} :
    kind ∈ (records.map Record.kind).eraseDups ↔
      ¬ (records.filter (·.kind = kind)).isEmpty = true := by
  simp [List.mem_eraseDups]

theorem get?_ofRecords (records : List Record) (kind : Kind) :
    (ofRecords records).get? kind =
      if (records.filter (·.kind = kind)).isEmpty then none
      else some (records.filter (·.kind = kind)) := by
  rw [get?, groups_ofRecords]
  split
  case isTrue empty =>
    exact lookup_map_of_not_mem (fun listed => mem_kinds_iff.1 listed empty) _
  case isFalse found => exact lookup_map_of_mem (mem_kinds_iff.2 found) _

theorem recordsOf_ofRecords (records : List Record) (kind : Kind) :
    (ofRecords records).recordsOf kind = records.filter (·.kind = kind) := by
  rw [recordsOf, get?_ofRecords]
  split
  case isTrue empty => exact (List.isEmpty_iff.1 empty).symm
  case isFalse => rfl

theorem perm_ofRecords (records : List Record) :
    ((ofRecords records).groups.flatMap (·.2)).Perm records := by
  induction records using List.reverseRecOn with
  | nil => exact .nil
  | append_singleton records record inductionHypothesis =>
    rw [ofRecords_concat]
    exact ((perm_flatMap_addToGroup _ record _).trans (inductionHypothesis.cons record)).trans
      (List.perm_append_singleton record records).symm

theorem size_ofRecords (records : List Record) : (ofRecords records).size = records.length :=
  (perm_ofRecords records).length_eq

theorem mem_of_mem_groups {group : Kind × List Record} {record : Record}
    (listed : group ∈ (ofRecords records).groups) (member : record ∈ group.2) :
    record ∈ records :=
  (perm_ofRecords records).mem_iff.1 (List.mem_flatMap.2 ⟨group, listed, member⟩)

/-- The catalogue divides the records by kind and keeps their order. -/
structure Partitions (records : List Record) (catalogue : Catalogue) : Prop where
  distinct : catalogue.kinds.Nodup
  /-- Kinds come in the order in which they first did. -/
  kinds : catalogue.kinds = (records.map Record.kind).eraseDups
  get? : ∀ kind, catalogue.get? kind =
    if (records.filter (·.kind = kind)).isEmpty then none
    else some (records.filter (·.kind = kind))
  /-- What is listed is what is found under each kind. -/
  groups : catalogue.groups.map (fun group => (group.1, some group.2)) =
    catalogue.kinds.map fun kind => (kind, catalogue.get? kind)
  size : catalogue.size = records.length
  isEmpty : catalogue.isEmpty = true ↔ records = []
  own : ∀ group ∈ catalogue.groups, ∀ record ∈ group.2, record.kind = group.1

theorem partitions_ofRecords (records : List Record) : Partitions records (ofRecords records) where
  distinct := nodup_kinds_ofRecords records
  kinds := kinds_ofRecords records
  get? := get?_ofRecords records
  groups := by
    rw [kinds_ofRecords, groups_ofRecords, List.map_map]
    apply List.map_congr_left
    intro kind listed
    rw [get?_ofRecords, if_neg (mem_kinds_iff.1 listed)]
    rfl
  size := size_ofRecords records
  isEmpty := by
    constructor
    · intro empty
      have none : (ofRecords records).size = 0 := by simp [size, List.isEmpty_iff.1 empty]
      exact List.length_eq_zero_iff.1 (size_ofRecords records ▸ none)
    · rintro rfl
      rfl
  own group listed record member := by
    rw [groups_ofRecords] at listed
    obtain ⟨kind, _, rfl⟩ := List.mem_map.1 listed
    simpa using (List.mem_filter.1 member).2

/-- A kind that comes up again keeps its place. -/
example :
    (ofRecords [⟨"", .unknown, .empty⟩, ⟨"", .block .placeholder "a" "" none, .empty⟩,
      ⟨"", .unknown, .empty⟩]).kinds = [.unknown, .placeholder] := rfl

end StyleDoc.Catalogue
