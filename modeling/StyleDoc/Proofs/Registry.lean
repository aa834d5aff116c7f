import Mathlib.Data.List.Induction
import StyleDoc.Annotation.Registry
import StyleDoc.Proofs.NameMap

/-!
# Registries after any history

What holds of a registry however it came about, by induction over the annotations that have been
registered. An entry of either table is that of the last annotation that has written it. The tables
are written independently of each other: an annotation that takes the place of another one takes
over its name alone, and the aliases that only the other one had are left to the name.
-/

namespace StyleDoc

/-- The name is not one of the fixed fields, so the annotation can be registered. -/
def Annotation.Free (meaning : Annotation) : Prop := meaning.name ∉ Registry.reservedNames

instance (meaning : Annotation) : Decidable meaning.Free := inferInstanceAs (Decidable (¬ _ ∈ _))

namespace Registry

variable {registry : Registry} {annotations : List Annotation}

/-! ## Entries -/

theorem find?_register (registry : Registry) (meaning : Annotation) (name : String) :
    (registry.register meaning).find? name =
      if name = meaning.name ∧ name ∉ reservedNames then some meaning else registry.find? name := by
  unfold register find?
  split
  case isTrue reserved =>
    rw [if_neg]
    rintro ⟨rfl, free⟩
    exact free reserved
  case isFalse free =>
    dsimp only
    rw [NameMap.find?_insert]
    by_cases same : name = meaning.name
    · rw [if_pos same, if_pos ⟨same, same ▸ free⟩]
    · rw [if_neg same, if_neg fun both => same both.1]

/-- The annotation that has been registered last under a name that is not reserved. -/
def last? (annotations : List Annotation) (name : String) : Option Annotation :=
  if name ∈ reservedNames then none else annotations.reverse.find? (·.name = name)

theorem find?_foldl_register (registry : Registry) (annotations : List Annotation) (name : String) :
    (annotations.foldl register registry).find? name =
      (last? annotations name).or (registry.find? name) := by
  induction annotations generalizing registry with
  | nil => simp [last?]
  | cons meaning rest inductionHypothesis =>
    rw [List.foldl_cons, inductionHypothesis, find?_register]
    unfold last?
    by_cases reserved : name ∈ reservedNames
    · simp [reserved]
    · rw [if_neg reserved, if_neg reserved, List.reverse_cons, List.find?_append, Option.or_assoc]
      by_cases same : name = meaning.name
      · simp [same, same ▸ reserved]
      · simp [same, Ne.symm same]

/-- A later annotation takes the place of an earlier one of its name, and no other has an influence
on what is found under it. -/
theorem find?_ofList (annotations : List Annotation) (name : String) :
    (ofList annotations).find? name = last? annotations name := by
  have run := find?_foldl_register empty annotations name
  have fresh : empty.find? name = none := rfl
  rwa [fresh, Option.or_none] at run

theorem mem_toList_iff {meaning : Annotation} :
    meaning ∈ registry.toList ↔ ∃ name, registry.find? name = some meaning := by
  constructor
  · intro listed
    obtain ⟨entry, member, rfl⟩ := List.mem_map.1 listed
    exact ⟨entry.1, NameMap.find?_of_mem_entries member⟩
  · rintro ⟨name, found⟩
    obtain ⟨front, behind, parts, -⟩ := List.lookup_eq_some_iff.1 found
    exact List.mem_map.2 ⟨(name, meaning), by simp [parts], rfl⟩

/-! ## Last annotations -/

/-- The annotation has the property, and no later one does. -/
def IsLast (p : Annotation → Prop) (annotations : List Annotation) (meaning : Annotation) : Prop :=
  ∃ earlier later, annotations = earlier ++ meaning :: later ∧ p meaning ∧
    ∀ other ∈ later, ¬ p other

theorem find?_reverse_eq_some_iff {p : Annotation → Prop} [DecidablePred p]
    {meaning : Annotation} :
    annotations.reverse.find? (fun other => decide (p other)) = some meaning ↔
      IsLast p annotations meaning := by
  rw [List.find?_eq_some_iff_append]
  constructor
  · rintro ⟨holds, later, earlier, parts, none⟩
    refine ⟨earlier.reverse, later.reverse, ?_, by simpa using holds, by simpa using none⟩
    rw [← List.reverse_reverse annotations, parts]
    simp
  · rintro ⟨earlier, later, rfl, holds, none⟩
    exact ⟨by simpa using holds, later.reverse, earlier.reverse, by simp, by simpa using none⟩

theorem exists_isLast {p : Annotation → Prop} [DecidablePred p] {meaning : Annotation}
    (member : meaning ∈ annotations) (holds : p meaning) : ∃ last, IsLast p annotations last := by
  have some : (annotations.reverse.find? fun other => decide (p other)).isSome := by
    rw [List.find?_isSome]
    exact ⟨meaning, List.mem_reverse.2 member, by simpa using holds⟩
  obtain ⟨last, found⟩ := Option.isSome_iff_exists.1 some
  exact ⟨last, find?_reverse_eq_some_iff.1 found⟩

theorem IsLast.mem {p : Annotation → Prop} {meaning : Annotation}
    (last : IsLast p annotations meaning) : meaning ∈ annotations := by
  obtain ⟨earlier, later, rfl, -, -⟩ := last
  simp

theorem IsLast.holds {p : Annotation → Prop} {meaning : Annotation}
    (last : IsLast p annotations meaning) : p meaning := by
  obtain ⟨_, _, _, holds, -⟩ := last
  exact holds

theorem IsLast.append_left {p : Annotation → Prop} {meaning : Annotation}
    (last : IsLast p annotations meaning) (front : List Annotation) :
    IsLast p (front ++ annotations) meaning := by
  obtain ⟨earlier, later, rfl, holds, none⟩ := last
  exact ⟨front ++ earlier, later, (List.append_assoc ..).symm, holds, none⟩

/-- The annotation is registered under the name. -/
def Bears (name : String) (meaning : Annotation) : Prop := meaning.Free ∧ meaning.name = name

instance (name : String) : DecidablePred (Bears name) := fun _ =>
  inferInstanceAs (Decidable (_ ∧ _))

theorem find?_ofList_eq_some_iff {name : String} {meaning : Annotation} :
    (ofList annotations).find? name = some meaning ↔ IsLast (Bears name) annotations meaning := by
  rw [find?_ofList, last?, ← find?_reverse_eq_some_iff]
  split
  case isTrue reserved =>
    refine iff_of_false nofun fun found => ?_
    obtain ⟨free, rfl⟩ : Bears name meaning := by simpa using List.find?_some found
    exact free reserved
  case isFalse free =>
    -- Annotations of this name are free already.
    have same : ∀ other : Annotation, decide (other.name = name) = decide (Bears name other) := by
      intro other
      by_cases named : other.name = name
      · simp [Bears, named, Annotation.Free, free]
      · simp [Bears, named]
    simp only [same]

/-- What is found under a name has been registered, and the name is not that of a fixed field. -/
theorem mem_of_find?_ofList {name : String} {meaning : Annotation}
    (found : (ofList annotations).find? name = some meaning) :
    meaning ∈ annotations ∧ name ∉ reservedNames := by
  have last := find?_ofList_eq_some_iff.1 found
  obtain ⟨free, rfl⟩ := last.holds
  exact ⟨last.mem, free⟩

theorem name_eq_of_find?_ofList {name : String} {meaning : Annotation}
    (found : (ofList annotations).find? name = some meaning) : meaning.name = name :=
  (find?_ofList_eq_some_iff.1 found).holds.2

/-- Every annotation is kept under its own name. -/
def Named (registry : Registry) : Prop :=
  ∀ entry ∈ registry.annotations.entries, entry.1 = entry.2.name

theorem named_ofList (annotations : List Annotation) : (ofList annotations).Named :=
  fun _ member => (name_eq_of_find?_ofList (NameMap.find?_of_mem_entries member)).symm

theorem exists_find?_of_mem {meaning : Annotation} (member : meaning ∈ annotations)
    (free : meaning.Free) : ∃ kept, (ofList annotations).find? meaning.name = some kept := by
  have bears : Bears meaning.name meaning := ⟨free, rfl⟩
  obtain ⟨kept, last⟩ := exists_isLast member bears
  exact ⟨kept, find?_ofList_eq_some_iff.2 last⟩

/-! ## Aliases -/

theorem find?_addAliases (table : NameMap String) (name : String) (tags : List String)
    (tag : String) :
    (addAliases table name tags).find? tag =
      if tag ∈ tags then some name else table.find? tag := by
  unfold addAliases
  induction tags generalizing table with
  | nil => simp
  | cons first rest inductionHypothesis =>
    rw [List.foldl_cons, inductionHypothesis, NameMap.find?_insert]
    by_cases later : tag ∈ rest <;> by_cases here : tag = first <;> simp [later, here]

/-- The annotation is registered with the tag for an alias. -/
def Lists (tag : String) (meaning : Annotation) : Prop := meaning.Free ∧ tag ∈ meaning.aliases

instance (tag : String) : DecidablePred (Lists tag) := fun _ => inferInstanceAs (Decidable (_ ∧ _))

/-- Registering an annotation changes what its own aliases stand for, and nothing else. -/
theorem find?_aliases_register (registry : Registry) (meaning : Annotation) (tag : String) :
    (registry.register meaning).aliases.find? tag =
      if Lists tag meaning then some meaning.name else registry.aliases.find? tag := by
  unfold register
  split
  case isTrue reserved => rw [if_neg fun lists => lists.1 reserved]
  case isFalse free =>
    have free : meaning.Free := free
    simp [find?_addAliases, Lists, free]

theorem find?_aliases_ofList_eq_some_iff {tag name : String} :
    (ofList annotations).aliases.find? tag = some name ↔
      ∃ meaning, IsLast (Lists tag) annotations meaning ∧ meaning.name = name := by
  simp only [← find?_reverse_eq_some_iff, ← Option.map_eq_some_iff]
  suffices run : (ofList annotations).aliases.find? tag =
      (annotations.reverse.find? fun other => decide (Lists tag other)).map Annotation.name by
    rw [run]
  induction annotations using List.reverseRecOn with
  | nil => rfl
  | append_singleton annotations added inductionHypothesis =>
    have step : ofList (annotations ++ [added]) = (ofList annotations).register added :=
      List.foldl_append
    rw [step, find?_aliases_register, List.reverse_concat, List.find?_cons, inductionHypothesis]
    by_cases lists : Lists tag added <;> simp [lists]

/-- A tag stands for the annotation that has listed it last. -/
theorem resolve_ofList_of_isLast {tag : String} {meaning : Annotation}
    (last : IsLast (Lists tag) annotations meaning) :
    (ofList annotations).resolve tag = meaning.name := by
  rw [resolve, find?_aliases_ofList_eq_some_iff.2 ⟨meaning, last, rfl⟩, Option.getD_some]

theorem resolve_ofList_of_forall {tag : String}
    (unlisted : ∀ meaning ∈ annotations, ¬ Lists tag meaning) :
    (ofList annotations).resolve tag = tag := by
  cases found : (ofList annotations).aliases.find? tag with
  | none => rw [resolve, found, Option.getD_none]
  | some name =>
    obtain ⟨meaning, last, -⟩ := find?_aliases_ofList_eq_some_iff.1 found
    exact absurd last.holds (unlisted meaning last.mem)

theorem exists_isLast_of_resolve_ne {tag : String}
    (renamed : (ofList annotations).resolve tag ≠ tag) :
    ∃ meaning, IsLast (Lists tag) annotations meaning ∧
      (ofList annotations).resolve tag = meaning.name := by
  cases found : (ofList annotations).aliases.find? tag with
  | none => exact absurd (by rw [resolve, found, Option.getD_none]) renamed
  | some name =>
    obtain ⟨meaning, last, -⟩ := find?_aliases_ofList_eq_some_iff.1 found
    exact ⟨meaning, last, resolve_ofList_of_isLast last⟩

/-- Whatever annotation has listed the tag, there still is one of its name. -/
theorem exists_find?_of_resolve_ne {tag : String}
    (renamed : (ofList annotations).resolve tag ≠ tag) :
    ∃ meaning, (ofList annotations).find? ((ofList annotations).resolve tag) = some meaning := by
  obtain ⟨meaning, last, resolved⟩ := exists_isLast_of_resolve_ne renamed
  rw [resolved]
  exact exists_find?_of_mem last.mem last.holds.1

end Registry

end StyleDoc
