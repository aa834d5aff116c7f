import StyleDoc.Annotation.Basic

/-!
# The registry of annotations

A registry holds annotations by name and, beside them, the names that aliases stand for. It grows by
`register` alone. The names of the fixed fields of a record are reserved, so that an annotation
never meets one of them in a written record.
-/

namespace StyleDoc

structure Registry where
  annotations : NameMap Annotation
  /-- The name behind every alias. -/
  aliases : NameMap String

namespace Registry

def empty : Registry := ⟨.empty, .empty⟩

/-- The fixed fields of a record. -/
def reservedNames : List String := ["description", "context"]

/-- The alias table with each of `tags` standing for `name`. -/
def addAliases (table : NameMap String) (name : String) (tags : List String) : NameMap String :=
  tags.foldl (fun table tag => table.insert tag name) table

/-- The registry with one more annotation, which replaces an earlier one of its name. Its aliases
now stand for it, whatever they stood for before. A reserved name changes nothing. -/
def register (registry : Registry) (meaning : Annotation) : Registry :=
  if meaning.name ∈ reservedNames then registry
  else
    ⟨registry.annotations.insert meaning.name meaning,
      addAliases registry.aliases meaning.name meaning.aliases⟩

def ofList (annotations : List Annotation) : Registry := annotations.foldl register empty

/-- The name that a tag stands for: that of its alias, or the tag itself. -/
def resolve (registry : Registry) (tag : String) : String := (registry.aliases.find? tag).getD tag

/-- The annotation of this name; aliases are not looked at. -/
def find? (registry : Registry) (name : String) : Option Annotation :=
  registry.annotations.find? name

/-- The annotations in the order of their names. -/
def toList (registry : Registry) : List Annotation := registry.annotations.entries.map (·.2)

def size (registry : Registry) : Nat := registry.annotations.size

end Registry

end StyleDoc
