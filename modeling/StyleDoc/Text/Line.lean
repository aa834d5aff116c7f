import StyleDoc.Text.Space

/-!
# Lines

A line ends at a line feed. Lines are numbered from one, and the number of a line is one more than
the count of line feeds in front of it. `dedent` removes the indentation that all lines share.
-/

namespace StyleDoc.Text

/-- Number of line feeds in the text. -/
def lineFeeds (text : List Char) : Nat := text.count '\n'

/-- Number of lines of the text. -/
def lineCount (text : List Char) : Nat := 1 + lineFeeds text

/-- The line that holds the byte at `offset`: a line feed belongs to the line that it ends, and
every offset past the end lies on the last line. -/
def lineAt : List Char → Nat → Nat
  | [], _ => 1
  | _ :: _, 0 => 1
  | c :: rest, offset + 1 =>
    lineAt rest (offset + 1 - c.utf8Size) + if c = '\n' then 1 else 0

/-- The lines of the text without their line feeds. -/
def splitLines (text : List Char) : List (List Char) := split '\n' text

def joinLines (lines : List (List Char)) : List Char := join '\n' lines

/-- The line without the carriage return that may stand at its end. -/
def dropCarriageReturn (line : List Char) : List Char :=
  if line.getLast? = some '\r' then line.dropLast else line

/-! ## Indentation -/

/-- Number of spaces and tabs that the line begins with. -/
def indentation (line : List Char) : Nat := (line.takeWhile isBlank).length

/-- Whether the line has text: what follows its indentation is there and is not white space. -/
def hasText (line : List Char) : Bool :=
  (line.dropWhile isBlank).head?.any fun c => !isSpace c

/-- The least indentation of the lines that have text. -/
def commonIndentation (lines : List (List Char)) : Nat :=
  ((lines.filter hasText).map indentation).min?.getD 0

/-- The lines without their common indentation. A line that has no text and less indentation than
that is left as it is. -/
def dedent (lines : List (List Char)) : List (List Char) :=
  lines.map fun line =>
    if commonIndentation lines ≤ indentation line then line.drop (commonIndentation lines)
    else line

end StyleDoc.Text
