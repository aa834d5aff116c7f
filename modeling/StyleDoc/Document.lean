import StyleDoc.Catalogue
import StyleDoc.Record.Reader

/-!
# Documents

The documentation of a whole source: the catalogue of its records, and the warnings that came up.
The first poster of a source lends its slots to the records of all comments that follow it; it has
no record itself. Where neither a comment nor the poster has set an annotation, its fallback stands
in the record.
-/

namespace StyleDoc

structure Document where
  catalogue : Catalogue
  warnings : List Warning
deriving DecidableEq, Repr

namespace Document

/-- The slots, and those of the poster where a name has none. -/
def inherit (poster slots : NameMap Slot) : NameMap Slot :=
  poster.entries.foldl (fun slots entry => slots.insertNew entry.1 entry.2) slots

/-- The slots, and the fallback of every annotation that has none. -/
def fillFallbacks (registry : Registry) (slots : NameMap Slot) : NameMap Slot :=
  registry.toList.foldl (fun slots meaning =>
    match meaning.fallback with
    | none => slots
    | some value => slots.insertNew meaning.name (.values [value])) slots

/-- A document in the making: what the first poster has set so far, and the finished part. -/
structure Draft where
  poster : Option (NameMap Slot)
  catalogue : Catalogue
  warnings : List Warning

def Draft.start : Draft := ⟨none, .empty, []⟩

/-- The record of a comment that is not a poster. -/
def finish (registry : Registry) (poster : Option (NameMap Slot)) (record : Record) : Record :=
  { record with
    annotations :=
      fillFallbacks registry (inherit (poster.getD .empty) record.annotations) }

/-- The draft after one more comment. -/
def Draft.add (registry : Registry) (draft : Draft) (comment : Comment) : Draft :=
  let readings := registry.readLines comment.declaration.kind comment.lines
  let record := Record.ofReadings comment.declaration readings
  let warnings := draft.warnings ++ warningsOf readings
  match comment.role, draft.poster with
  | .poster, none => { draft with poster := some record.annotations, warnings := warnings }
  | .poster, some _ => { draft with warnings := warnings ++ [.duplicatePoster] }
  | .ordinary, poster =>
    { draft with
      catalogue := draft.catalogue.push (finish registry poster record), warnings := warnings }

/-- The document of a list of comments. -/
def ofComments (registry : Registry) (comments : List Comment) : Document :=
  let draft := comments.foldl (Draft.add registry) .start
  ⟨draft.catalogue, draft.warnings⟩

/-- The document of a source text. -/
def ofSource (registry : Registry) (source : List Char) : Document :=
  ofComments registry (Comment.extract source)

end Document

end StyleDoc
