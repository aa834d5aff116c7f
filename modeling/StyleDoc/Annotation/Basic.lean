import StyleDoc.Declaration.Basic
import StyleDoc.Json.Basic
import StyleDoc.Text.Quoted

/-!
# Annotations

An annotation gives a tag its meaning: how the text behind the tag is read, which value stands in
for it where no comment has set it, and on which kinds of declaration it may stand.
-/

namespace StyleDoc

structure Annotation where
  name : String
  /-- Other tags with the same meaning. -/
  aliases : List String
  /-- The value of the text behind the tag, if it has any. A boolean is a flag. -/
  read : List Char → Option Json
  /-- The value of a record that does not set the annotation, if there is one. -/
  fallback : Option Json
  /-- The kinds it may stand on; without a list these are all kinds. -/
  allowed : Option (List Kind)

namespace Annotation

/-- An annotation without aliases and fallback that may stand on every kind. -/
def ofReader (name : String) (read : List Char → Option Json) : Annotation :=
  ⟨name, [], read, none, none⟩

def withAliases (meaning : Annotation) (aliases : List String) : Annotation :=
  { meaning with aliases := aliases }

def withFallback (meaning : Annotation) (value : Json) : Annotation :=
  { meaning with fallback := some value }

def onlyOn (meaning : Annotation) (kinds : List Kind) : Annotation :=
  { meaning with allowed := some kinds }

def allowedOn (meaning : Annotation) (kind : Kind) : Bool :=
  meaning.allowed.all (·.contains kind)

/-! ## Description for programmers -/

def kindWord : Kind → List Char
  | .function => "Function".toList
  | .mixin => "Mixin".toList
  | .placeholder => "Placeholder".toList
  | .var => "Variable".toList
  | .unknown => "Unknown".toList

/-- The items between brackets, a comma and a space between any two. -/
def bracketed (items : List (List Char)) : List Char :=
  '[' :: (", ".toList.intercalate items) ++ [']']

/-- Everything about the annotation that can be shown, in one line. -/
def describe (meaning : Annotation) : List Char :=
  let name := Text.quoted meaning.name.toList
  let aliases := bracketed (meaning.aliases.map fun tag => Text.quoted tag.toList)
  let hasDefault := if meaning.fallback.isSome then "true".toList else "false".toList
  let allowed :=
    match meaning.allowed with
    | none => "None".toList
    | some kinds => "Some(".toList ++ bracketed (kinds.map kindWord) ++ [')']
  "Annotation \x7b name: ".toList ++ name ++ ", aliases: ".toList ++ aliases ++
    ", has_default: ".toList ++ hasDefault ++ ", allowed_on: ".toList ++ allowed ++ " \x7d".toList

end Annotation

end StyleDoc
