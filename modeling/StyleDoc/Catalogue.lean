import StyleDoc.Json.Printer
import StyleDoc.Record.Basic

/-!
# Catalogues

Records grouped by the kind of their declarations. Kinds stand in the order in which they first came
up, and the records of a kind in the order in which they were added.
-/

namespace StyleDoc

structure Catalogue where
  groups : List (Kind × List Record)
deriving DecidableEq, Repr

namespace Catalogue

def empty : Catalogue := ⟨[]⟩

instance : Inhabited Catalogue := ⟨empty⟩

/-- The groups with a record of this kind at the end of its group, or in a group of its own behind
all others. -/
def addToGroup (kind : Kind) (record : Record) :
    List (Kind × List Record) → List (Kind × List Record)
  | [] => [(kind, [record])]
  | group :: rest =>
    if group.1 = kind then (group.1, group.2 ++ [record]) :: rest
    else group :: addToGroup kind record rest

def push (catalogue : Catalogue) (record : Record) : Catalogue :=
  ⟨addToGroup record.kind record catalogue.groups⟩

def ofRecords (records : List Record) : Catalogue := records.foldl push empty

/-- The records of a kind, if there are any. -/
def get? (catalogue : Catalogue) (kind : Kind) : Option (List Record) :=
  catalogue.groups.lookup kind

def kinds (catalogue : Catalogue) : List Kind := catalogue.groups.map (·.1)

/-- Number of records of all kinds. -/
def size (catalogue : Catalogue) : Nat := (catalogue.groups.flatMap (·.2)).length

def isEmpty (catalogue : Catalogue) : Bool := catalogue.groups.isEmpty

def toJson (catalogue : Catalogue) : Json :=
  .obj (catalogue.groups.map fun group => (group.1.label, .arr (group.2.map Record.toJson)))

end Catalogue

end StyleDoc
