/-!
# Maps from names

A finite map from names to values, kept as its entries in strictly increasing order of name. Names
are ordered by their characters' code points. The order leaves each map one list of entries, so maps
with the same entries are equal.
-/

namespace StyleDoc

/-- The entries with `value` under `name`, in place of an earlier one of that name or, in entries
sorted by name, where it keeps them sorted. -/
def insertEntry {α : Type} (name : String) (value : α) :
    List (String × α) → List (String × α)
  | [] => [(name, value)]
  | entry :: rest =>
    if name < entry.1 then (name, value) :: entry :: rest
    else if name = entry.1 then (name, value) :: rest
    else entry :: insertEntry name value rest

section insertEntry

variable {α : Type} {name other : String} {value : α} {entries : List (String × α)}

theorem eq_or_mem_of_mem_insertEntry {entry : String × α}
    (member : entry ∈ insertEntry name value entries) :
    entry = (name, value) ∨ entry ∈ entries := by
  induction entries with
  | nil => simpa [insertEntry] using member
  | cons head rest inductionHypothesis =>
    rw [insertEntry] at member
    grind

theorem lookup_insertEntry_self : (insertEntry name value entries).lookup name = some value := by
  induction entries with
  | nil => simp [insertEntry]
  | cons head rest inductionHypothesis =>
    obtain ⟨key, kept⟩ := head
    rw [insertEntry]
    split
    · simp
    · split
      · simp
      case isFalse different =>
        have skipped : (name == key) = false := by simpa using different
        simp [List.lookup_cons, skipped, inductionHypothesis]

theorem lookup_insertEntry_of_ne (different : other ≠ name) :
    (insertEntry name value entries).lookup other = entries.lookup other := by
  have skipped : (other == name) = false := by simpa using different
  induction entries with
  | nil => simp [insertEntry, List.lookup_cons, skipped]
  | cons head rest inductionHypothesis =>
    obtain ⟨key, kept⟩ := head
    rw [insertEntry]
    split
    · simp [List.lookup_cons, skipped]
    · split
      case isTrue same =>
        cases (same : name = key)
        simp [List.lookup_cons, skipped]
      · simp [List.lookup_cons, inductionHypothesis]

theorem pairwise_insertEntry (ordered : entries.Pairwise (·.1 < ·.1)) :
    (insertEntry name value entries).Pairwise (·.1 < ·.1) := by
  induction entries with
  | nil => simp [insertEntry]
  | cons head rest inductionHypothesis =>
    rw [List.pairwise_cons] at ordered
    obtain ⟨headFirst, restOrdered⟩ := ordered
    rw [insertEntry]
    split
    case isTrue before =>
      refine List.pairwise_cons.2
        ⟨fun entry member => ?_, List.pairwise_cons.2 ⟨headFirst, restOrdered⟩⟩
      rcases List.mem_cons.1 member with rfl | later
      · exact before
      · exact String.lt_trans before (headFirst entry later)
    case isFalse notBefore =>
      split
      case isTrue same =>
        refine List.pairwise_cons.2 ⟨fun entry member => ?_, restOrdered⟩
        simpa [same] using headFirst entry member
      case isFalse different =>
        refine List.pairwise_cons.2 ⟨fun entry member => ?_, inductionHypothesis restOrdered⟩
        rcases eq_or_mem_of_mem_insertEntry member with rfl | later
        · rcases String.le_total name head.1 with below | above
          · exact absurd (String.le_antisymm below (String.not_lt.1 notBefore)) different
          · exact String.not_le.1 fun above' =>
              different (String.le_antisymm above' above)
        · exact headFirst entry later

end insertEntry

structure NameMap (α : Type) where
  entries : List (String × α)
  ordered : entries.Pairwise (·.1 < ·.1)
deriving DecidableEq, Repr

namespace NameMap

variable {α : Type}

theorem ext {first second : NameMap α} (same : first.entries = second.entries) :
    first = second := by
  cases first
  cases second
  cases same
  rfl

def empty : NameMap α := ⟨[], .nil⟩

instance : Inhabited (NameMap α) := ⟨empty⟩

def find? (map : NameMap α) (name : String) : Option α := map.entries.lookup name

def contains (map : NameMap α) (name : String) : Bool := (map.find? name).isSome

def names (map : NameMap α) : List String := map.entries.map (·.1)

def size (map : NameMap α) : Nat := map.entries.length

/-- The map with `value` under `name`, in place of what was there. -/
def insert (map : NameMap α) (name : String) (value : α) : NameMap α :=
  ⟨insertEntry name value map.entries, pairwise_insertEntry map.ordered⟩

/-- The map with `value` under `name`, unless there is something already. -/
def insertNew (map : NameMap α) (name : String) (value : α) : NameMap α :=
  if map.contains name then map else map.insert name value

def ofList (entries : List (String × α)) : NameMap α :=
  entries.foldl (fun map entry => map.insert entry.1 entry.2) empty

@[simp]
theorem find?_empty (name : String) : (empty : NameMap α).find? name = none := rfl

@[simp]
theorem find?_insert_self (map : NameMap α) (name : String) (value : α) :
    (map.insert name value).find? name = some value :=
  lookup_insertEntry_self

theorem find?_insert_of_ne (map : NameMap α) {name other : String} (value : α)
    (different : other ≠ name) : (map.insert name value).find? other = map.find? other :=
  lookup_insertEntry_of_ne different

end NameMap

end StyleDoc
