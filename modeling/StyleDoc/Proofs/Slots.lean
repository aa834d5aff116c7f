import Mathlib.Data.List.DropRight
import Mathlib.Data.List.ReduceOption
import StyleDoc.Record.Reader
import StyleDoc.Proofs.NameMap
import StyleDoc.Proofs.Trimming

/-!
# Slots and the lines that fill them

The slots of a comment come from its lines alone. A line gives a result to one annotation at most:
to that which its tag stands for, where the annotation may stand on the kind of the declaration. The
slot of a name is what the results for this name leave behind, whatever other lines stand between.
Booleans switch it to a flag and every other value back to a list, so the results behind the last
boolean are those that can be seen in it.
-/

namespace StyleDoc

open Text

variable {registry : Registry} {kind : Kind} {name : String}

/-! ## What a line gives -/

theorem splitTag?_eq_some_iff {line tag behind : List Char} :
    splitTag? line = some (tag, behind) ↔
      ∃ text, line = '@' :: text ∧ tag ≠ [] ∧ LeadingRun isTagChar text tag behind := by
  constructor
  · intro found
    unfold splitTag? at found
    split at found
    case h_1 text =>
      split at found
      case h_1 => cases found
      case h_2 nonempty =>
        cases found
        exact ⟨text, rfl, nonempty, leadingRun isTagChar text⟩
    case h_2 => cases found
  · rintro ⟨text, rfl, nonempty, leading⟩
    obtain ⟨c, rest, rfl⟩ := List.exists_cons_of_ne_nil nonempty
    simp [splitTag?, leading.takeWhile_eq, leading.dropWhile_eq]

/-- The line gives the result to the annotation of a name: behind an at sign it begins with a tag
that stands for the name, as long as the tag can be, and the annotation reads the text behind the
tag, spaces and tabs at the ends aside. -/
inductive Gives (registry : Registry) (kind : Kind) (name : String) :
    List Char → Option Json → Prop where
  | tagged {text tag behind : List Char} {meaning : Annotation} {result : Option Json}
      (leading : LeadingRun isTagChar text tag behind) (nonempty : tag ≠ [])
      (resolved : registry.resolve (String.ofList tag) = name)
      (found : registry.find? name = some meaning) (allowed : meaning.allowedOn kind = true)
      (given : meaning.read (trimBy isBlank behind) = result) :
      Gives registry kind name ('@' :: text) result

theorem Registry.readLine_eq_entry_iff {line : List Char} {result : Option Json} :
    registry.readLine kind line = .entry name result ↔ Gives registry kind name line result := by
  constructor
  · intro read
    unfold readLine at read
    split at read
    case h_1 => cases read
    case h_2 tag behind tagged =>
      obtain ⟨text, rfl, nonempty, leading⟩ := splitTag?_eq_some_iff.1 tagged
      simp only [readTag] at read
      split at read
      case h_1 => cases read
      case h_2 meaning found =>
        split at read
        case isTrue allowed =>
          injection read with same given
          subst same
          exact .tagged leading nonempty rfl found allowed given
        case isFalse => cases read
  · rintro ⟨leading, nonempty, resolved, found, allowed, given⟩
    have tagged := splitTag?_eq_some_iff.2 ⟨_, rfl, nonempty, leading⟩
    simp [readLine, tagged, readTag, resolved, found, allowed, given]

/-! ## What results leave behind -/

def Json.isBool : Json → Bool
  | .bool _ => true
  | _ => false

/-- The values behind the last boolean. -/
def behindLastBool (values : List Json) : List Json := values.rtakeWhile fun value => !value.isBool

/-- The slot that a list of results leaves behind. Without a result there is none. The last defined
result makes it a flag if it is a boolean, and else the slot has all that has been defined behind
the last boolean. -/
def slotAfter? (results : List (Option Json)) : Option Slot :=
  if results = [] then none
  else
    match results.reduceOption.getLast? with
    | some (.bool value) => some (.flag value)
    | _ => some (.values (behindLastBool results.reduceOption))

theorem behindLastBool_concat_bool (values : List Json) (value : Bool) :
    behindLastBool (values ++ [.bool value]) = [] :=
  List.rtakeWhile_concat_neg _ _ _ (by simp [Json.isBool])

theorem behindLastBool_concat {value : Json} (noBool : value.isBool = false) (values : List Json) :
    behindLastBool (values ++ [value]) = behindLastBool values ++ [value] :=
  List.rtakeWhile_concat_pos _ _ _ (by simp [noBool])

theorem Slot.add_of_not_bool {value : Json} (noBool : value.isBool = false) (slot : Slot) :
    slot.add value = .values (slot.items ++ [value]) := by
  cases value <;> cases slot <;> simp_all [add, items, Json.isBool]

/-- The slot that is there before another result comes, empty without an earlier one. -/
def slotBefore (results : List (Option Json)) : Slot := (slotAfter? results).getD (.values [])

theorem items_slotBefore (results : List (Option Json)) :
    (slotBefore results).items = behindLastBool results.reduceOption := by
  unfold slotBefore slotAfter?
  split
  case isTrue empty =>
    subst empty
    rfl
  case isFalse =>
    split
    case h_1 value last =>
      -- A flag shows no values, and none stand behind the boolean that made it one.
      obtain ⟨front, parts⟩ := List.getLast?_eq_some_iff.1 last
      rw [parts, behindLastBool_concat_bool]
      rfl
    case h_2 => rfl

/-- One more result adds what it has to the slot. -/
theorem slotAfter?_concat (results : List (Option Json)) (result : Option Json) :
    slotAfter? (results ++ [result]) =
      some (result.elim (slotBefore results) (slotBefore results).add) := by
  cases result with
  | none =>
    have same : (results ++ [none]).reduceOption = results.reduceOption := by
      rw [List.reduceOption_append, List.reduceOption_singleton, Option.toList_none,
        List.append_nil]
    unfold slotBefore slotAfter?
    rw [same, if_neg (List.append_ne_nil_of_right_ne_nil _ (List.cons_ne_nil _ _))]
    by_cases empty : results = []
    · subst empty
      rfl
    · rw [if_neg empty]
      split <;> rfl
  | some value =>
    have last : (results ++ [some value]).reduceOption = results.reduceOption ++ [value] := by
      rw [List.reduceOption_append, List.reduceOption_singleton, Option.toList_some]
    unfold slotAfter?
    rw [last, if_neg (List.append_ne_nil_of_right_ne_nil _ (List.cons_ne_nil _ _)),
      List.getLast?_concat]
    -- A boolean starts over, and any other value joins those behind the last boolean.
    cases noBool : value.isBool with
    | true =>
      cases value <;> simp_all [Json.isBool, Slot.add]
    | false =>
      rw [behindLastBool_concat noBool, Option.elim_some, Slot.add_of_not_bool noBool,
        items_slotBefore]
      cases value <;> simp_all [Json.isBool]

/-- A boolean ends the list before it, and a later value ends the flag. -/
example :
    slotAfter? [some (.str "a"), some (.bool true), none, some (.str "b")] =
      some (.values [.str "b"]) := rfl

/-! ## Filling slots -/

/-- The result of the line, where it is one for the annotation of this name. -/
def Reading.resultFor? (name : String) : Reading → Option (Option Json)
  | entry other result => if other = name then some result else none
  | _ => none

theorem Reading.resultFor?_eq_some_iff {reading : Reading} {result : Option Json} :
    reading.resultFor? name = some result ↔ reading = .entry name result := by
  cases reading with
  | entry other given => by_cases same : other = name <;> simp [resultFor?, same]
  | _ => simp [resultFor?]

/-- A line changes the slot of the name that it is an entry for, and no other slot. -/
theorem Reading.find?_fill (slots : NameMap Slot) (reading : Reading) (name : String) :
    (reading.fill slots).find? name =
      match reading.resultFor? name with
      | none => slots.find? name
      | some result =>
        some (result.elim ((slots.find? name).getD (.values []))
          ((slots.find? name).getD (.values [])).add) := by
  cases reading with
  | plain line => rfl
  | refused warning => rfl
  | entry other result =>
    unfold fill resultFor?
    by_cases same : other = name
    · subst same
      simp
    · simp [same, NameMap.find?_insert_of_ne _ _ (Ne.symm same)]

/-- Line after line, a slot follows the results for its name. -/
theorem find?_slotsOf (readings : List Reading) (name : String) :
    (slotsOf readings).find? name = slotAfter? (readings.filterMap (·.resultFor? name)) := by
  induction readings using List.reverseRecOn with
  | nil => rfl
  | append_singleton readings reading inductionHypothesis =>
    -- Only an entry for this name adds a result, and only it changes the slot.
    unfold slotsOf at inductionHypothesis ⊢
    rw [List.foldl_append, List.foldl_cons, List.foldl_nil, Reading.find?_fill,
      inductionHypothesis, List.filterMap_append]
    cases given : reading.resultFor? name with
    | none => simp [given]
    | some result => simp [given, slotAfter?_concat, slotBefore]

/-! ## Where the contents of a slot come from -/

/-- All that the slot says: its values, or the boolean of a flag. -/
def Slot.contents : Slot → List Json
  | .flag value => [.bool value]
  | .values items => items

theorem Slot.items_subset_contents (slot : Slot) : slot.items ⊆ slot.contents := by
  cases slot with
  | flag value => exact List.nil_subset _
  | values items => exact List.Subset.refl _

theorem mem_of_mem_contents {results : List (Option Json)} {slot : Slot} {value : Json}
    (left : slotAfter? results = some slot) (member : value ∈ slot.contents) :
    some value ∈ results := by
  unfold slotAfter? at left
  split at left
  case isTrue => cases left
  case isFalse =>
    split at left
    case h_1 last =>
      cases left
      rw [List.mem_singleton.1 member]
      exact List.reduceOption_mem_iff.1 (List.mem_of_getLast? last)
    case h_2 =>
      cases left
      exact List.reduceOption_mem_iff.1 ((List.rtakeWhile_suffix _ _).subset member)

section Lines

variable {lines : List (List Char)}

theorem exists_gives_of_mem {result : Option Json}
    (member : result ∈ (registry.readLines kind lines).filterMap (·.resultFor? name)) :
    ∃ line ∈ lines, Gives registry kind name line result := by
  obtain ⟨reading, read, given⟩ := List.mem_filterMap.1 member
  obtain ⟨line, listed, rfl⟩ := List.mem_map.1 read
  exact ⟨line, listed,
    Registry.readLine_eq_entry_iff.1 (Reading.resultFor?_eq_some_iff.1 given)⟩

theorem exists_gives_of_slotsOf
    (set : ((slotsOf (registry.readLines kind lines)).find? name).isSome) :
    ∃ line ∈ lines, ∃ result, Gives registry kind name line result := by
  rw [find?_slotsOf] at set
  cases results : (registry.readLines kind lines).filterMap (·.resultFor? name) with
  | nil => simp [results, slotAfter?] at set
  | cons result rest =>
    obtain ⟨line, listed, gives⟩ := exists_gives_of_mem (results ▸ List.mem_cons_self)
    exact ⟨line, listed, result, gives⟩

/-- A slot that lines set belongs to an annotation that may stand on their declaration. -/
theorem find?_of_slotsOf_readLines
    (set : ((slotsOf (registry.readLines kind lines)).find? name).isSome) :
    ∃ meaning, registry.find? name = some meaning ∧ meaning.allowedOn kind = true := by
  obtain ⟨_, _, _, _, _, _, found, allowed, _⟩ := exists_gives_of_slotsOf set
  exact ⟨_, found, allowed⟩

/-- A slot is set under the name that the tag of a line stands for. -/
theorem exists_tag_of_slotsOf_readLines
    (set : ((slotsOf (registry.readLines kind lines)).find? name).isSome) :
    ∃ line ∈ lines, ∃ tag behind,
      splitTag? line = some (tag, behind) ∧ registry.resolve (String.ofList tag) = name := by
  obtain ⟨_, listed, _, leading, nonempty, resolved, _, _, _⟩ := exists_gives_of_slotsOf set
  exact ⟨_, listed, _, _, splitTag?_eq_some_iff.2 ⟨_, rfl, nonempty, leading⟩, resolved⟩

/-- Every value of a slot has been read by the annotation of its name. -/
theorem read_of_mem_contents {slot : Slot} {value : Json}
    (found : (slotsOf (registry.readLines kind lines)).find? name = some slot)
    (member : value ∈ slot.contents) :
    ∃ meaning, registry.find? name = some meaning ∧ ∃ text, meaning.read text = some value := by
  rw [find?_slotsOf] at found
  obtain ⟨_, _, _, _, _, registered, _, given⟩ :=
    exists_gives_of_mem (mem_of_mem_contents found member)
  exact ⟨_, registered, _, given⟩

/-! ## The slot of a comment -/

/-- The results that the lines give to the annotation of a name, one for each of its lines, in
order. -/
inductive Results (registry : Registry) (kind : Kind) (name : String) :
    List (List Char) → List (Option Json) → Prop where
  | nil : Results registry kind name [] []
  | given {line : List Char} {result : Option Json} {lines : List (List Char)}
      {results : List (Option Json)} (gives : Gives registry kind name line result)
      (others : Results registry kind name lines results) :
      Results registry kind name (line :: lines) (result :: results)
  | passed {line : List Char} {lines : List (List Char)} {results : List (Option Json)}
      (nothing : ∀ result, ¬ Gives registry kind name line result)
      (others : Results registry kind name lines results) :
      Results registry kind name (line :: lines) results

theorem results_readLines (registry : Registry) (kind : Kind) (name : String)
    (lines : List (List Char)) :
    Results registry kind name lines
      ((registry.readLines kind lines).filterMap (·.resultFor? name)) := by
  induction lines with
  | nil => exact .nil
  | cons line lines inductionHypothesis =>
    have reads : ∀ result, (registry.readLine kind line).resultFor? name = some result ↔
        Gives registry kind name line result := fun result =>
      Reading.resultFor?_eq_some_iff.trans Registry.readLine_eq_entry_iff
    rw [Registry.readLines, List.map_cons]
    cases here : (registry.readLine kind line).resultFor? name with
    | none =>
      rw [List.filterMap_cons_none here]
      refine .passed (fun result gives => ?_) inductionHypothesis
      cases here.symm.trans ((reads result).2 gives)
    | some result =>
      rw [List.filterMap_cons_some here]
      exact .given ((reads result).1 here) inductionHypothesis

theorem Gives.unique {line : List Char} {first second : Option Json}
    (gives : Gives registry kind name line first) (other : Gives registry kind name line second) :
    first = second := by
  have same := (Registry.readLine_eq_entry_iff.2 gives).symm.trans
    (Registry.readLine_eq_entry_iff.2 other)
  injection same

theorem Results.unique {first second : List (Option Json)}
    (results : Results registry kind name lines first)
    (others : Results registry kind name lines second) : first = second := by
  induction results generalizing second with
  | nil =>
    cases others
    rfl
  | given gives _ inductionHypothesis =>
    cases others with
    | given other more => rw [gives.unique other, inductionHypothesis more]
    | passed nothing _ => exact absurd gives (nothing _)
  | passed nothing _ inductionHypothesis =>
    cases others with
    | given gives _ => exact absurd gives (nothing _)
    | passed _ more => exact inductionHypothesis more

theorem not_isBool_of_slotAfter? {results : List (Option Json)} {items : List Json}
    (left : slotAfter? results = some (.values items)) :
    ∀ value ∈ items, value.isBool = false := by
  unfold slotAfter? at left
  split at left
  case isTrue => cases left
  case isFalse =>
    split at left
    case h_1 => cases left
    case h_2 =>
      cases left
      intro value member
      simpa using List.mem_rtakeWhile_imp member

/-- The slot of every name is what the results for the name leave behind, and the lines give no
others. A list in a slot has no boolean in it. -/
theorem find?_annotations_ofReadings (registry : Registry) (declaration : Declaration)
    (lines : List (List Char)) (name : String) :
    let record := Record.ofReadings declaration (registry.readLines declaration.kind lines)
    ∃ results, (∀ others, Results registry declaration.kind name lines others ↔
        others = results) ∧
      record.annotations.find? name = slotAfter? results ∧
      ∀ items, record.annotations.find? name = some (.values items) →
        ∀ value ∈ items, value.isBool = false := by
  intro record
  have listed := results_readLines registry declaration.kind name lines
  have left : record.annotations.find? name = slotAfter? _ := find?_slotsOf _ name
  refine ⟨_, fun others => ⟨fun given => given.unique listed, ?_⟩, left, fun items set => ?_⟩
  · rintro rfl
    exact listed
  · exact not_isBool_of_slotAfter? (left.symm.trans set)

end Lines

end StyleDoc
