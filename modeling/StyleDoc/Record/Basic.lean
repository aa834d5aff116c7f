import StyleDoc.Declaration.Basic
import StyleDoc.Json.Basic

/-!
# Records

The documentation of one declaration: a description and, for each annotation, a slot with what has
been said about it.
-/

namespace StyleDoc

/-- A slot is a flag, or the list of all values that have been given. -/
inductive Slot where
  | flag (value : Bool)
  | values (items : List Json)
deriving DecidableEq, Repr

namespace Slot

/-- The slot after one more value. A boolean makes it a flag, which any other value ends again. -/
def add : Slot → Json → Slot
  | _, .bool value => flag value
  | values items, value => values (items ++ [value])
  | flag _, value => values [value]

/-- The values of the slot, of which a flag has none. -/
def items : Slot → List Json
  | flag _ => []
  | values items => items

def flag? : Slot → Option Bool
  | flag value => some value
  | values _ => none

def toJson : Slot → Json
  | flag value => .bool value
  | values items => .arr items

end Slot

structure Record where
  description : String
  declaration : Declaration
  annotations : NameMap Slot
deriving DecidableEq, Repr

def Record.kind (record : Record) : Kind := record.declaration.kind

/-! ## Written form -/

def LineRange.toJson (lines : LineRange) : Json :=
  .obj [("start", .int lines.first), ("end", .int lines.last)]

/-- The field for the lines of a declaration, which is left out where they are not known. -/
def lineField (lines : Option LineRange) : List (String × Json) :=
  lines.toList.map fun range => ("line", range.toJson)

def Declaration.toJson (declaration : Declaration) : Json :=
  .obj (("type", .str declaration.kind.label) ::
    match declaration with
    | .block _ name body lines => ("name", .str name) :: ("code", .str body) :: lineField lines
    | .var name value scope lines =>
      ("name", .str name) :: ("value", .str value) :: ("scope", .str scope.label) :: lineField lines
    | .unknown => [])

/-- The description and the declaration, and behind them every annotation as a field of its own. -/
def Record.toJson (record : Record) : Json :=
  .obj (("description", .str record.description) :: ("context", record.declaration.toJson) ::
    record.annotations.entries.map fun entry => (entry.1, entry.2.toJson))

end StyleDoc
