import StyleDoc.NameMap

/-!
# JSON values

Values with whole numbers only. The fields of an object are a list: records are written with their
fields in a fixed order, other objects in the order of their keys, into which `Json.sorted` brings
the fields of a value and of all values inside it.
-/

namespace StyleDoc

inductive Json where
  | null
  | bool (value : Bool)
  | int (value : Int)
  | str (value : String)
  | arr (items : List Json)
  | obj (fields : List (String × Json))
deriving Inhabited, Repr

namespace Json

/-! ## Equality -/

mutual

/-- Equality of values as a test. -/
def same : Json → Json → Bool
  | null, null => true
  | bool first, bool second => first == second
  | int first, int second => first == second
  | str first, str second => first == second
  | arr first, arr second => sameItems first second
  | obj first, obj second => sameFields first second
  | _, _ => false

def sameItems : List Json → List Json → Bool
  | [], [] => true
  | first :: firsts, second :: seconds => same first second && sameItems firsts seconds
  | _, _ => false

def sameFields : List (String × Json) → List (String × Json) → Bool
  | [], [] => true
  | (key, first) :: firsts, (other, second) :: seconds =>
    key == other && same first second && sameFields firsts seconds
  | _, _ => false

end

mutual

theorem same_iff : ∀ first second : Json, same first second = true ↔ first = second
  | null, second => by cases second <;> simp [same]
  | bool _, second => by cases second <;> simp [same]
  | int _, second => by cases second <;> simp [same]
  | str _, second => by cases second <;> simp [same]
  | arr items, second => by cases second <;> simp [same, sameItems_iff items]
  | obj fields, second => by cases second <;> simp [same, sameFields_iff fields]

theorem sameItems_iff :
    ∀ first second : List Json, sameItems first second = true ↔ first = second
  | [], second => by cases second <;> simp [sameItems]
  | item :: items, second => by
    cases second <;> simp [sameItems, same_iff item, sameItems_iff items]

theorem sameFields_iff :
    ∀ first second : List (String × Json), sameFields first second = true ↔ first = second
  | [], second => by cases second <;> simp [sameFields]
  | (key, value) :: fields, second => by
    cases second <;> simp [sameFields, same_iff value, sameFields_iff fields, Prod.ext_iff]

end

instance : DecidableEq Json := fun first second => decidable_of_iff _ (same_iff first second)

/-! ## Sorted keys -/

mutual

/-- The value with the fields of every object sorted by key. Of two fields with the same key the
later one stays. -/
def sorted : Json → Json
  | arr items => arr (sortedItems items)
  | obj fields => obj (sortedFields [] fields)
  | value => value

def sortedItems : List Json → List Json
  | [] => []
  | item :: rest => item.sorted :: sortedItems rest

/-- The sorted fields `done` with more fields sorted in. -/
def sortedFields (done : List (String × Json)) : List (String × Json) → List (String × Json)
  | [] => done
  | (key, value) :: rest => sortedFields (insertEntry key value.sorted done) rest

end

end Json

end StyleDoc
