import StyleDoc.Annotation.Standard
import StyleDoc.Proofs.Coverage
import StyleDoc.Proofs.Declaration
import StyleDoc.Proofs.MapDeclaration

/-!
# Code in front of a source

Whole lines without a mark of a comment can be put in front of a source, whatever else they hold:
the source keeps its comments, and their declarations move down by the number of these lines.
-/

namespace StyleDoc

open Text

/-! ## Declarations further down -/

def LineRange.moveDown (lines : Nat) (range : LineRange) : LineRange :=
  ⟨range.first + lines, range.last + lines⟩

def Declaration.moveDown (lines : Nat) : Declaration → Declaration :=
  mapLines (Option.map (LineRange.moveDown lines))

theorem Declaration.kind_moveDown (lines : Nat) (declaration : Declaration) :
    (declaration.moveDown lines).kind = declaration.kind := by
  cases declaration <;> rfl

theorem Declaration.read_moveDown (code : List Char) (line lines : Nat) :
    (read code (some line)).moveDown lines = read code (some (line + lines)) := by
  apply mapLines_ofText
  intro feeds
  simp only [lineRange, LineRange.moveDown, Option.map_some, Option.some.injEq, LineRange.mk.injEq]
  omega

/-! ## Lines without marks -/

/-- Whole lines in which no slashes and no block begin. -/
structure Unmarked (front : List Char) : Prop where
  whole : endsLine front = true
  noSlashes : ¬ ['/', '/', '/'] <:+: front
  noBlock : ¬ ['/', '*', '*'] <:+: front

theorem mem_of_endsLine {front : List Char} (whole : endsLine front = true)
    (nonempty : front ≠ []) : '\n' ∈ front := by
  unfold endsLine at whole
  rw [List.getLast?_eq_some_getLast nonempty, Option.all_some, beq_iff_eq] at whole
  rw [← whole]
  exact List.getLast_mem nonempty

theorem endsLine_append {front : List Char} (whole : endsLine front = true) (before : List Char) :
    endsLine (front ++ before) = endsLine before := by
  cases before with
  | nil => rwa [List.append_nil]
  | cons c rest => rw [endsLine, getLast?_append_of_ne_nil (List.cons_ne_nil c rest), endsLine]

theorem Unmarked.tail {c : Char} {front : List Char} (unmarked : Unmarked (c :: front)) :
    Unmarked front where
  whole := by
    cases front with
    | nil => rfl
    | cons d rest => simpa [endsLine, List.getLast?_cons_cons] using unmarked.whole
  noSlashes inside := unmarked.noSlashes (inside.trans (List.suffix_cons c front).isInfix)
  noBlock inside := unmarked.noBlock (inside.trans (List.suffix_cons c front).isInfix)

/-- A mark that stands on one line does not begin before a line feed and end behind it. -/
theorem not_prefix_dropWhile_append {mark front : List Char} (inLine : '\n' ∉ mark)
    (lineFeed : '\n' ∈ front) (absent : ¬ mark <:+: front) (rest : List Char) :
    ¬ mark <+: (front ++ rest).dropWhile isBlank := by
  have solid : '\n' ∈ front.dropWhile isBlank := by
    rw [← List.takeWhile_append_dropWhile (p := isBlank) (l := front), List.mem_append] at lineFeed
    exact lineFeed.resolve_left (not_mem_takeWhile (by decide) front)
  have nonempty : (front.dropWhile isBlank).isEmpty = false := by
    simpa using List.ne_nil_of_mem solid
  intro begins
  rw [List.dropWhile_append, nonempty, if_neg Bool.false_ne_true] at begins
  -- The mark ends before the line feed, or the line feed would be one of its characters.
  rcases List.prefix_or_prefix_of_prefix begins (List.prefix_append _ rest) with inside | across
  · exact absent (inside.isInfix.trans (List.dropWhile_suffix _).isInfix)
  · exact inLine (across.subset solid)

theorem Unmarked.here?_eq_none {front : List Char} (unmarked : Unmarked front)
    (nonempty : front ≠ []) (atLineStart : Bool) (rest : List Char) :
    Region.here? atLineStart (front ++ rest) = none := by
  have lineFeed := mem_of_endsLine unmarked.whole nonempty
  apply Region.here?_eq_none
  · have noRun := not_prefix_dropWhile_append (by decide) lineFeed unmarked.noSlashes rest
    rwa [← List.isPrefixOf_iff_prefix, Bool.not_eq_true] at noRun
  · exact not_prefix_dropWhile_append (by decide) lineFeed unmarked.noBlock rest

/-! ## The search for regions -/

/-- The search passes the lines, and no region begins in them and ends behind them. -/
theorem Unmarked.occurrencesFrom_append {front : List Char} (unmarked : Unmarked front)
    (before rest : List Char) :
    occurrencesFrom before (front ++ rest) = occurrencesFrom (before ++ front) rest := by
  -- What is left of whole lines without marks is of that kind again.
  induction front generalizing before with
  | nil => rw [List.nil_append, List.append_nil]
  | cons c front inductionHypothesis =>
    have absent := unmarked.here?_eq_none (List.cons_ne_nil c front) (endsLine before) rest
    rw [List.cons_append] at absent ⊢
    rw [occurrencesFrom_cons absent, inductionHypothesis unmarked.tail, List.append_assoc]
    rfl

/-- The region with more text in front of the source. -/
def Occurrence.prepend (front : List Char) (occurrence : Occurrence) : Occurrence :=
  { occurrence with before := front ++ occurrence.before }

/-- A block that begins a line of the source begins a line as well behind other lines. -/
theorem occurrencesFrom_prepend {front : List Char} (whole : endsLine front = true)
    (before rest : List Char) :
    occurrencesFrom (front ++ before) rest =
      (occurrencesFrom before rest).map (Occurrence.prepend front) := by
  refine occurrencesFrom_induction (motive := fun before rest all =>
    occurrencesFrom (front ++ before) rest = all.map (Occurrence.prepend front))
    ?missing ?found before rest
  case missing =>
    intro before rest next
    rw [← endsLine_append whole] at next
    rw [occurrencesFrom_of_none next]
    rfl
  case found =>
    intro before rest gap region behind others next inductionHypothesis
    rw [← endsLine_append whole] at next
    rw [occurrencesFrom_of_some next, List.map_cons, ← inductionHypothesis]
    simp [Occurrence.prepend]

/-! ## Comments and documents -/

namespace Comment

theorem ofOccurrence_prepend (front : List Char) (occurrence : Occurrence) :
    ofOccurrence (occurrence.prepend front) =
      (ofOccurrence occurrence).mapDeclaration (Declaration.moveDown (lineFeeds front)) := by
  have line : lineCount (occurrence.prepend front).through =
      lineCount occurrence.through + lineFeeds front := by
    simp only [Occurrence.through, Occurrence.prepend, lineCount, lineFeeds_append]
    omega
  unfold ofOccurrence mapDeclaration
  rw [line, Declaration.read_moveDown]
  rfl

theorem extract_append {front : List Char} (unmarked : Unmarked front) (source : List Char) :
    extract (front ++ source) =
      (extract source).map (mapDeclaration (Declaration.moveDown (lineFeeds front))) := by
  have found := unmarked.occurrencesFrom_append [] source
  have moved := occurrencesFrom_prepend unmarked.whole [] source
  rw [List.append_nil] at moved
  rw [extract_eq, extract_eq, occurrences, found, List.nil_append, moved, List.map_map,
    List.map_map]
  exact List.map_congr_left fun occurrence _ => ofOccurrence_prepend front occurrence

end Comment

/-- Whole lines without marks in front of a source only move down what is documented in it. -/
theorem Document.ofSource_append {front : List Char} (unmarked : Unmarked front)
    (source : List Char) :
    Comment.extract (front ++ source) = (Comment.extract source).map
      (Comment.mapDeclaration (Declaration.moveDown (lineFeeds front))) ∧
    ∀ registry, ofSource registry (front ++ source) =
      (ofSource registry source).mapDeclarations (Declaration.moveDown (lineFeeds front)) := by
  refine ⟨Comment.extract_append unmarked source, fun registry => ?_⟩
  unfold ofSource
  rw [Comment.extract_append unmarked,
    ofComments_mapDeclaration (Declaration.kind_moveDown (lineFeeds front))]

/-- A brace, a string and a comment that are never closed. -/
def openedFront : List Char := "a \x7b content: \"x\n /* // 'y\n".toList

/-- A block at the very beginning, and a function over two lines. -/
def halvingSource : List Char := "/** Halves. */\n@function half($n) \x7b\n\x7d".toList

theorem Document.ofSource_append_opened :
    Unmarked openedFront ∧
      Comment.extract (openedFront ++ halvingSource) = (Comment.extract halvingSource).map
        (Comment.mapDeclaration (Declaration.moveDown 2)) ∧
      (Comment.extract halvingSource).map (·.declaration.lines?) = [some ⟨2, 3⟩] ∧
      ofSource .standard (openedFront ++ halvingSource) =
        (ofSource .standard halvingSource).mapDeclarations (Declaration.moveDown 2) := by
  have unmarked : Unmarked openedFront :=
    ⟨by decide, by decide +kernel, by decide +kernel⟩
  have feeds : lineFeeds openedFront = 2 := by decide
  have moved := ofSource_append unmarked halvingSource
  rw [feeds] at moved
  exact ⟨unmarked, moved.1, by decide +kernel, moved.2 .standard⟩

end StyleDoc
