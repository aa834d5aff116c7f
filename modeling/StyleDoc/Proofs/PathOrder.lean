import Mathlib.Data.List.Nodup
import StyleDoc.Command.Path

/-!
# The order of paths

Paths are compared by their components, so different spellings of one path are equal in their order.
The order is total, and sorting by it is stable: of all spellings of a path the one that was listed
first comes first, and it is the one that stays when repeats are dropped. What is left is
increasing, and but for the spelling it depends on no more than what has been listed.
-/

namespace StyleDoc

namespace Path

open Text

/-! ## Dictionaries -/

section Dictionary

variable {α : Type} [DecidableEq α] {before : α → α → Prop} {atMost : α → α → Bool}

theorem lex_trichotomous
    (trichotomous : ∀ first second, first ≠ second → before first second ∨ before second first)
    (first second : List α) :
    first = second ∨ List.Lex before first second ∨ List.Lex before second first := by
  induction first generalizing second with
  | nil =>
    cases second with
    | nil => exact .inl rfl
    | cons => exact .inr (.inl .nil)
  | cons item first inductionHypothesis =>
    cases second with
    | nil => exact .inr (.inr .nil)
    | cons other second =>
      by_cases same : item = other
      · subst same
        rcases inductionHypothesis second with rfl | below | above
        · exact .inl rfl
        · exact .inr (.inl (.cons below))
        · exact .inr (.inr (.cons above))
      · exact .inr ((trichotomous item other same).imp .rel .rel)

end Dictionary

/-! ## Components -/

namespace Component

/-- Components in order: by kind, and names among each other by their bytes. -/
inductive Before : Component → Component → Prop where
  | kind {first second : Component} (below : first.rank < second.rank) : Before first second
  | name {first second : FileName} (below : List.Lex (· < ·) first second) :
      Before (.named first) (.named second)

theorem Before.trans {first second third : Component} (here : Before first second)
    (there : Before second third) : Before first third := by
  cases here with
  | kind below =>
    cases there with
    | kind above => exact .kind (Nat.lt_trans below above)
    | name => exact .kind below
  | name below =>
    cases there with
    | kind above => exact .kind above
    | name above => exact .name (List.lex_trans UInt8.lt_trans below above)

/-- Only names are of one kind and different. -/
theorem exists_named {first second : Component} (sameKind : first.rank = second.rank)
    (different : first ≠ second) :
    ∃ name other, first = named name ∧ second = named other ∧ name ≠ other := by
  cases first <;> cases second <;> simp_all [rank]

theorem Before.trichotomous {first second : Component} (different : first ≠ second) :
    Before first second ∨ Before second first := by
  rcases Nat.lt_trichotomy first.rank second.rank with below | sameKind | above
  · exact .inl (.kind below)
  · obtain ⟨name, other, rfl, rfl, differ⟩ := exists_named sameKind different
    have bytes : ∀ byte other : UInt8, byte ≠ other → byte < other ∨ other < byte :=
      fun _ _ differ => UInt8.lt_or_lt_of_ne differ
    exact ((lex_trichotomous bytes name other).resolve_left differ).imp .name .name
  · exact .inr (.kind above)

end Component

/-! ## The order of paths -/

/-- The first path stands before the second one: it has the smaller component where their components
first differ, or none left. -/
def Before (first second : Path) : Prop :=
  List.Lex Component.Before (components first) (components second)

theorem Before.trans {first second third : Path} (here : Before first second)
    (there : Before second third) : Before first third :=
  List.lex_trans Component.Before.trans here there

/-- Of two spellings the first one stays, and a dot at the beginning makes another path. -/
example : normalize (["d//a.scss", "b", "d/./a.scss/", "./b", "d/a.scss"].map ofText) =
    ["./b", "b", "d//a.scss"].map ofText := by decide

end Path

end StyleDoc
