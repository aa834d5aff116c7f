import StyleDoc.Catalogue
import StyleDoc.Proofs.Json.RoundTrip

/-!
# Written catalogues

Nothing of a catalogue is lost when it is written. The labels of kinds and scopes are all different,
the fields of a declaration and of a record have fixed places, and a flag is not written like a
list; so a catalogue can be told from its JSON value, and that value from its text.
-/

namespace StyleDoc

/-! ## Declarations -/

theorem Kind.label_injective : Function.Injective Kind.label := by
  intro first second same
  cases first <;> cases second <;> first | rfl | exact absurd same (by decide)

theorem BlockForm.kind_injective : Function.Injective BlockForm.kind := by
  intro first second same
  cases first <;> cases second <;> first | rfl | cases same

theorem Scope.label_injective : Function.Injective Scope.label := by
  intro first second same
  cases first <;> cases second <;> first | rfl | exact absurd same (by decide)

theorem LineRange.toJson_injective : Function.Injective LineRange.toJson := by
  intro first second same
  obtain ⟨first, last⟩ := first
  obtain ⟨otherFirst, otherLast⟩ := second
  simp only [toJson, Json.obj.injEq, List.cons.injEq, Prod.mk.injEq, Json.int.injEq] at same
  obtain ⟨⟨_, firsts⟩, ⟨_, lasts⟩, _⟩ := same
  rw [Int.ofNat.inj firsts, Int.ofNat.inj lasts]

theorem lineField_injective : Function.Injective lineField := by
  intro first second same
  cases first with
  | none =>
    cases second with
    | none => rfl
    | some _ => cases same
  | some range =>
    cases second with
    | none => cases same
    | some other =>
      simp only [lineField, Option.toList_some, List.map_cons, List.map_nil, List.cons.injEq,
        Prod.mk.injEq] at same
      rw [LineRange.toJson_injective same.1.2]

/-- The kind of a declaration is the first field that is written. -/
theorem Declaration.kind_eq_of_toJson_eq {first second : Declaration}
    (same : first.toJson = second.toJson) : first.kind = second.kind := by
  unfold toJson at same
  simp only [Json.obj.injEq, List.cons.injEq, Prod.mk.injEq, Json.str.injEq] at same
  exact Kind.label_injective same.1.2

theorem Declaration.toJson_injective : Function.Injective Declaration.toJson := by
  intro first second same
  -- Declarations of different forms are of different kinds already.
  have kinds := kind_eq_of_toJson_eq same
  cases first with
  | block form name body lines =>
    cases second with
    | block otherForm otherName otherBody otherLines =>
      simp only [toJson, Json.obj.injEq, List.cons.injEq, Prod.mk.injEq, Json.str.injEq] at same
      obtain ⟨_, ⟨_, names⟩, ⟨_, bodies⟩, fields⟩ := same
      rw [BlockForm.kind_injective kinds, names, bodies, lineField_injective fields]
    | var _ _ _ _ => cases form <;> cases kinds
    | unknown => cases form <;> cases kinds
  | var name value scope lines =>
    cases second with
    | block form _ _ _ => cases form <;> cases kinds
    | var otherName otherValue otherScope otherLines =>
      simp only [toJson, Json.obj.injEq, List.cons.injEq, Prod.mk.injEq, Json.str.injEq] at same
      obtain ⟨_, ⟨_, names⟩, ⟨_, values⟩, ⟨_, scopes⟩, fields⟩ := same
      rw [names, values, Scope.label_injective scopes, lineField_injective fields]
    | unknown => cases kinds
  | unknown =>
    cases second with
    | block form _ _ _ => cases form <;> cases kinds
    | var _ _ _ _ => cases kinds
    | unknown => rfl

/-! ## Records and catalogues -/

theorem Slot.toJson_injective : Function.Injective Slot.toJson := by
  intro first second same
  cases first with
  | flag value =>
    cases second with
    | flag other =>
      cases same
      rfl
    | values _ => cases same
  | values items =>
    cases second with
    | flag _ => cases same
    | values others =>
      cases same
      rfl

theorem Record.toJson_injective : Function.Injective Record.toJson := by
  intro first second same
  obtain ⟨description, declaration, annotations⟩ := first
  obtain ⟨otherDescription, otherDeclaration, otherAnnotations⟩ := second
  simp only [toJson, Json.obj.injEq, List.cons.injEq, Prod.mk.injEq, Json.str.injEq] at same
  obtain ⟨⟨_, descriptions⟩, ⟨_, declarations⟩, entries⟩ := same
  have perEntry : Function.Injective fun entry : String × Slot => (entry.1, entry.2.toJson) := by
    intro entry other equal
    obtain ⟨names, slots⟩ := Prod.mk.inj equal
    exact Prod.ext names (Slot.toJson_injective slots)
  rw [descriptions, Declaration.toJson_injective declarations,
    NameMap.ext ((List.map_inj_right fun _ _ equal => perEntry equal).1 entries)]

theorem Catalogue.toJson_injective : Function.Injective Catalogue.toJson := by
  intro first second same
  have perGroup : Function.Injective fun group : Kind × List Record =>
      (group.1.label, Json.arr (group.2.map Record.toJson)) := by
    intro group other equal
    obtain ⟨labels, records⟩ := Prod.mk.inj equal
    exact Prod.ext (Kind.label_injective labels)
      ((List.map_inj_right fun _ _ each => Record.toJson_injective each).1 (Json.arr.inj records))
  have groups : first.groups = second.groups :=
    (List.map_inj_right fun _ _ equal => perGroup equal).1 (Json.obj.inj same)
  exact congrArg Catalogue.mk groups

/-- In either layout, catalogues with the same text are the same. -/
theorem Catalogue.render_toJson_injective (layout : Json.Layout) :
    Function.Injective fun catalogue : Catalogue => catalogue.toJson.render layout :=
  (Json.render_injective layout).comp toJson_injective

end StyleDoc
