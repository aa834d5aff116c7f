import StyleDoc.Comment.Region

/-!
# The lines of a comment

A region becomes lines of text in two steps. First the comment marks and the common indentation are
removed, in a way of its own for each form of region. Then separator lines are dropped, and the
lines that continue a tag are joined to the line of the tag.
-/

namespace StyleDoc

open Text

/-- An ordinary comment documents the declaration behind it; a poster stands for the whole file. -/
inductive Role where
  | ordinary
  | poster
deriving DecidableEq, Repr

/-! ## Comment marks -/

def isLineBreak (c : Char) : Bool := c == '\r' || c == '\n'

/-- What stands between the first and the last line of a block. A block on one line is all of it
interior, and the line that follows the first one is never dropped. -/
def blockInterior (body : List Char) : List Char :=
  if body.any isLineBreak then
    let inside := (body.dropWhile fun c => !isLineBreak c).dropWhile isLineBreak
    if inside.any isLineBreak then (dropEndWhile (fun c => !isLineBreak c) inside).dropLast
    else inside
  else body

/-- The line without blanks and a star at its beginning. -/
def dropStar (line : List Char) : List Char :=
  match line.dropWhile isBlank with
  | '*' :: rest => rest
  | _ => line

def blockLines (body : List Char) : List (List Char) :=
  (dedent ((splitLines (blockInterior body)).map dropStar)).map dropCarriageReturn

/-- The lines of a run. A line feed ends a line and takes a carriage return before it along. -/
def runLines (run : List Char) : List (List Char) :=
  let pieces := splitLines run
  pieces.dropLast.map dropCarriageReturn ++ pieces.getLast?.toList.filter (· ≠ [])

/-- The line without the blanks and all the slashes that it begins with. -/
def dropSlashes (line : List Char) : List Char :=
  (line.dropWhile isBlank).dropWhile (· == '/')

/-- A fourth slash in its first line makes a run a poster. -/
def runRole (run : List Char) : Role :=
  if ['/', '/', '/', '/'].isPrefixOf (trimStart run) then .poster else .ordinary

/-- The lines of the text in a run. The first line of a poster is left out, and a poster without
any other line has an empty one. -/
def slashedLines (run : List Char) : List (List Char) :=
  let lines := (runLines run).map dropSlashes
  let lines := if runRole run = .poster then lines.tail else lines
  (dedent (splitLines (joinLines lines))).map dropCarriageReturn

namespace Region

/-- The lines of the comment without its marks. -/
def lines : Region → List (List Char)
  | run text => slashedLines text
  | block _ body _ => blockLines body

/-- A block is a poster when more than one star closes it. -/
def role : Region → Role
  | run text => runRole text
  | block _ _ stars => if 1 < stars.length then .poster else .ordinary

end Region

/-! ## Tag lines -/

def isTagLine (line : List Char) : Bool := line.head? = some '@'

/-- A line of dashes, whatever it goes on with. -/
def isSeparator (line : List Char) : Bool := ['-', '-', '-'].isPrefixOf (trimStart line)

/-- The lines before the first tag line, and the others in sections that each begin with a tag
line. -/
def sections : List (List Char) → List (List Char) × List (List (List Char))
  | [] => ([], [])
  | line :: rest =>
    let (plain, tagged) := sections rest
    if isTagLine line then ([], (line :: plain) :: tagged) else (line :: plain, tagged)

/-- The lines without separators, each section in one. -/
def groupLines (lines : List (List Char)) : List (List Char) :=
  let (plain, tagged) := sections (lines.filter fun line => !isSeparator line)
  plain ++ tagged.map joinLines

end StyleDoc
