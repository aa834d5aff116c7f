import StyleDoc.Declaration.Basic

/-!
# Warnings

What can be wrong with a comment. No warning keeps a comment from being read.
-/

namespace StyleDoc

inductive Warning where
  /-- A tag, as it is written, that stands for no annotation. -/
  | unknownTag (tag : String)
  /-- An annotation that may not stand on this kind of declaration. -/
  | notAllowed (name : String) (kind : Kind)
  | duplicatePoster
deriving DecidableEq, Repr

def Warning.message : Warning → String
  | unknownTag tag => "Parser for annotation `" ++ tag ++ "` not found."
  | notAllowed name kind =>
    "Annotation \"" ++ name ++ "\" is not allowed on comment from type \"" ++ kind.label ++ "\""
  | duplicatePoster => "You can't have more than one poster comment."

end StyleDoc
