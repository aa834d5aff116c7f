import StyleDoc.Comment.Layout
import StyleDoc.Declaration.Reader
import StyleDoc.Text.LineTable

/-!
# Comments

A documentation comment with its text in grouped lines and the declaration that follows it, and the
comments of a whole source.
-/

namespace StyleDoc

structure Comment where
  lines : List (List Char)
  role : Role
  declaration : Declaration
deriving DecidableEq, Repr

namespace Comment

/-- The comment of one region. Its declaration is read from what stands behind the region, and the
lines of the declaration are looked up in the table of the whole source. -/
def ofOccurrenceIn (table : Text.LineTable) (occurrence : Occurrence) : Comment where
  lines := groupLines occurrence.region.lines
  role := occurrence.region.role
  declaration := Declaration.readIn
    (fun offset => table.lineOf (Text.byteLength occurrence.through + offset)) occurrence.behind

/-- The documentation comments of a source, in order. -/
def extract (source : List Char) : List Comment :=
  let table := Text.LineTable.ofText source
  (occurrences source).map (ofOccurrenceIn table)

end Comment

end StyleDoc
