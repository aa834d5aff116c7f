import StyleDoc.NameMap

/-!
# Look-ups in name maps

What a map holds under a name after entries have been added where nothing stood before. Adding a
whole list of entries that way lets the map's own values come first and then the first entry of each
name.
-/

namespace StyleDoc

/-- An entry under another key does not count. -/
theorem lookup_cons_of_ne {α β : Type} [BEq α] [LawfulBEq α] {key other : α}
    (different : other ≠ key) (value : β) (rest : List (α × β)) :
    ((key, value) :: rest).lookup other = rest.lookup other := by
  have skipped : (other == key) = false := by simpa using different
  rw [List.lookup_cons, skipped]

theorem mem_keys_iff {α β : Type} [BEq α] [LawfulBEq α] {key : α} {entries : List (α × β)} :
    key ∈ entries.map (·.1) ↔ (entries.lookup key).isSome = true := by
  induction entries with
  | nil => simp
  | cons entry rest inductionHypothesis =>
    obtain ⟨name, value⟩ := entry
    by_cases same : key = name
    · simp [same]
    · rw [List.map_cons, List.mem_cons, lookup_cons_of_ne same, ← inductionHypothesis]
      simp [same]

/-- An entry under a new name is only added. -/
theorem perm_insertEntry_of_not_mem {α : Type} {name : String} {entries : List (String × α)}
    (value : α) (fresh : name ∉ entries.map (·.1)) :
    (insertEntry name value entries).Perm ((name, value) :: entries) := by
  induction entries with
  | nil => simp [insertEntry]
  | cons head rest inductionHypothesis =>
    rw [List.map_cons, List.mem_cons, not_or] at fresh
    rw [insertEntry, if_neg fresh.1]
    split
    · exact .refl _
    · exact ((inductionHypothesis fresh.2).cons head).trans (.swap _ _ _)

section Entries

variable {α β : Type} {name : String} {entries : List (String × α)}

theorem lookup_eq_none_of_forall_lt (above : ∀ entry ∈ entries, name < entry.1) :
    entries.lookup name = none := by
  rw [List.lookup_eq_none_iff]
  intro entry member
  have different : name ≠ entry.1 := by
    intro same
    exact String.lt_irrefl name (same ▸ above entry member)
  simpa using different

/-- Ordered entries show each of their own. -/
theorem lookup_of_mem_of_ordered {entry : String × α} (ordered : entries.Pairwise (·.1 < ·.1))
    (member : entry ∈ entries) : entries.lookup entry.1 = some entry.2 := by
  induction entries with
  | nil => cases member
  | cons head rest inductionHypothesis =>
    obtain ⟨key, value⟩ := head
    obtain ⟨headFirst, restOrdered⟩ := List.pairwise_cons.1 ordered
    rcases List.mem_cons.1 member with rfl | later
    · simp
    · have different : entry.1 ≠ key := fun same =>
        String.lt_irrefl key (same ▸ headFirst entry later)
      rw [lookup_cons_of_ne different]
      exact inductionHypothesis restOrdered later

/-- In ordered entries a name that loses its entry has no later one to show. -/
theorem lookup_filterMap_of_ordered (ordered : entries.Pairwise (·.1 < ·.1))
    (change : α → Option β) :
    (entries.filterMap fun entry => (change entry.2).map (entry.1, ·)).lookup name =
      (entries.lookup name).bind change := by
  induction entries with
  | nil => rfl
  | cons head rest inductionHypothesis =>
    obtain ⟨key, value⟩ := head
    obtain ⟨headFirst, restOrdered⟩ := List.pairwise_cons.1 ordered
    have later := inductionHypothesis restOrdered
    by_cases same : name = key
    · subst same
      -- When the change takes the value away, no later entry has the name.
      have gone : rest.lookup name = none := lookup_eq_none_of_forall_lt headFirst
      rw [gone] at later
      cases changed : change value with
      | none => simpa [changed] using later
      | some result => simp [changed]
    · rw [lookup_cons_of_ne same, ← later]
      cases changed : change value with
      | none => simp [changed]
      | some result => simp [changed, lookup_cons_of_ne same]

theorem not_lt_of_lookup_eq_some {head : String × α} {value : α}
    (ordered : (head :: entries).Pairwise (·.1 < ·.1))
    (found : (head :: entries).lookup name = some value) : ¬ name < head.1 := by
  intro below
  have missing : (head :: entries).lookup name = none := by
    apply lookup_eq_none_of_forall_lt
    intro entry member
    rcases List.mem_cons.1 member with rfl | later
    · exact below
    · exact String.lt_trans below ((List.pairwise_cons.1 ordered).1 entry later)
  rw [missing] at found
  cases found

/-- Ordered entries are determined by their look-ups: the least name comes first on both sides. -/
theorem eq_of_lookup_eq {first second : List (String × α)} (ordered : first.Pairwise (·.1 < ·.1))
    (otherOrdered : second.Pairwise (·.1 < ·.1))
    (same : ∀ name, first.lookup name = second.lookup name) : first = second := by
  induction first generalizing second with
  | nil =>
    cases second with
    | nil => rfl
    | cons head rest =>
      obtain ⟨key, value⟩ := head
      simpa using same key
  | cons head rest inductionHypothesis =>
    obtain ⟨key, value⟩ := head
    cases second with
    | nil => simpa using same key
    | cons otherHead otherRest =>
      obtain ⟨otherKey, otherValue⟩ := otherHead
      have found : ((otherKey, otherValue) :: otherRest).lookup key = some value := by
        rw [← same key]
        simp
      have otherFound : ((key, value) :: rest).lookup otherKey = some otherValue := by
        rw [same otherKey]
        simp
      -- A name that is smaller than the first one of a list is not in the list.
      have notAbove : ¬ key < otherKey := not_lt_of_lookup_eq_some otherOrdered found
      have notBelow : ¬ otherKey < key := not_lt_of_lookup_eq_some ordered otherFound
      have keys : key = otherKey := String.le_antisymm notBelow notAbove
      subst keys
      obtain ⟨headFirst, restOrdered⟩ := List.pairwise_cons.1 ordered
      obtain ⟨otherFirst, otherRestOrdered⟩ := List.pairwise_cons.1 otherOrdered
      have values : value = otherValue := by simpa using same key
      have rests : rest = otherRest := by
        apply inductionHypothesis restOrdered otherRestOrdered
        intro name
        by_cases here : name = key
        · rw [here, lookup_eq_none_of_forall_lt headFirst, lookup_eq_none_of_forall_lt otherFirst]
        · have shown := same name
          rwa [lookup_cons_of_ne here, lookup_cons_of_ne here] at shown
      rw [values, rests]

end Entries

namespace NameMap

variable {α : Type}

theorem contains_eq_isSome (map : NameMap α) (name : String) :
    map.contains name = (map.find? name).isSome := rfl

theorem find?_of_mem_entries {map : NameMap α} {entry : String × α}
    (member : entry ∈ map.entries) : map.find? entry.1 = some entry.2 :=
  lookup_of_mem_of_ordered map.ordered member

theorem nodup_names (map : NameMap α) : map.names.Nodup :=
  List.pairwise_map.2 (map.ordered.imp String.ne_of_lt)

theorem find?_insert (map : NameMap α) (name other : String) (value : α) :
    (map.insert name value).find? other = if other = name then some value else map.find? other := by
  split
  case isTrue same => rw [same, find?_insert_self]
  case isFalse different => exact find?_insert_of_ne map value different

theorem find?_insertNew (map : NameMap α) (name other : String) (value : α) :
    (map.insertNew name value).find? other =
      (map.find? other).or (if other = name then some value else none) := by
  unfold insertNew
  split
  case isTrue present =>
    rw [contains_eq_isSome] at present
    by_cases same : other = name
    · obtain ⟨kept, found⟩ := Option.isSome_iff_exists.1 present
      simp [same, found]
    · simp [same]
  case isFalse absent =>
    rw [contains_eq_isSome, Bool.not_eq_true, Option.isSome_eq_false_iff,
      Option.isNone_iff_eq_none] at absent
    rw [find?_insert]
    by_cases same : other = name
    · simp [same, absent]
    · simp [same]

/-- Entries that only fill gaps leave what is there, and the first of each name fills its gap. -/
theorem find?_foldl_insertNew (map : NameMap α) (entries : List (String × α)) (name : String) :
    (entries.foldl (fun filled entry => filled.insertNew entry.1 entry.2) map).find? name =
      (map.find? name).or (entries.lookup name) := by
  induction entries generalizing map with
  | nil => simp
  | cons head rest inductionHypothesis =>
    obtain ⟨key, value⟩ := head
    rw [List.foldl_cons, inductionHypothesis, find?_insertNew, Option.or_assoc]
    congr 1
    by_cases same : name = key
    · simp [same]
    · simp [same, lookup_cons_of_ne same]

theorem ext_find? {first second : NameMap α} (same : ∀ name, first.find? name = second.find? name) :
    first = second :=
  ext (eq_of_lookup_eq first.ordered second.ordered same)

end NameMap

end StyleDoc
