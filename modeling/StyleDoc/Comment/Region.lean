import StyleDoc.Text.Line

/-!
# Documentation regions

The stretches of a style sheet that are documentation comments. A region has one of two forms:

* a run of lines that each begin with three slashes behind blanks,
* a block from a slash and two stars at the beginning of a line up to the first run of stars with a
  slash behind it.

`Region.next?` finds the first region of a text and `occurrences` all of them, one behind the other.
Nothing is lost on the way: `next?_eq` says that the text is what stands before the region, the
region and the rest.
-/

namespace StyleDoc

/-- A documentation comment as it is written. -/
inductive Region where
  | run (text : List Char)
  | block (indent body stars : List Char)
deriving DecidableEq, Repr

namespace Region

open Text

/-- The characters of the region. -/
def text : Region → List Char
  | run text => text
  | block indent body stars => indent ++ ['/', '*', '*'] ++ body ++ stars ++ ['/']

/-! ## Runs of lines -/

/-- Whether the text begins with three slashes behind blanks. -/
def opensRun (text : List Char) : Bool := ['/', '/', '/'].isPrefixOf (text.dropWhile isBlank)

/-- Cuts a run of slashed lines off a text that begins inside its first line. The line feed at the
end of the run belongs to the run only when an empty line or nothing follows. -/
def cutRun : List Char → List Char × List Char
  | [] => ([], [])
  | c :: rest =>
    if c = '\n' ∧ ¬ opensRun rest then
      if rest.head?.all (· == '\n') then ([c], rest) else ([], c :: rest)
    else (c :: (cutRun rest).1, (cutRun rest).2)

theorem cutRun_append (text : List Char) : (cutRun text).1 ++ (cutRun text).2 = text := by
  induction text with
  | nil => rfl
  | cons c rest inductionHypothesis =>
    rw [cutRun]
    split
    · split <;> rfl
    · simp [inductionHypothesis]

theorem cutRun_ne_nil {c : Char} (rest : List Char) (inLine : c ≠ '\n') :
    (cutRun (c :: rest)).1 ≠ [] := by
  simp [cutRun, inLine]

/-! ## Blocks -/

/-- A run of stars with a slash behind it at the beginning of the text, and what follows. -/
def closeStars? (text : List Char) : Option (List Char × List Char) :=
  match text.takeWhile (· == '*'), text.dropWhile (· == '*') with
  | star :: stars, '/' :: rest => some (star :: stars, rest)
  | _, _ => none

theorem closeStars?_eq {text stars rest : List Char}
    (closed : closeStars? text = some (stars, rest)) : stars ++ '/' :: rest = text := by
  unfold closeStars? at closed
  split at closed
  case h_1 star stars' rest' taken dropped =>
    simp only [Option.some.injEq, Prod.mk.injEq] at closed
    obtain ⟨rfl, rfl⟩ := closed
    rw [← taken, ← dropped, List.takeWhile_append_dropWhile]
  case h_2 => cases closed

/-- The text before the first run of stars with a slash behind it, those stars, and what stands
behind the slash. -/
def untilClose? : List Char → Option (List Char × List Char × List Char)
  | [] => none
  | c :: rest =>
    match closeStars? (c :: rest) with
    | some (stars, behind) => some ([], stars, behind)
    | none => (untilClose? rest).map fun found => (c :: found.1, found.2)

theorem untilClose?_eq {text body stars rest : List Char}
    (closed : untilClose? text = some (body, stars, rest)) :
    body ++ stars ++ '/' :: rest = text := by
  induction text generalizing body with
  | nil => cases closed
  | cons c tail inductionHypothesis =>
    rw [untilClose?] at closed
    split at closed
    case h_1 stars' behind here =>
      simp only [Option.some.injEq, Prod.mk.injEq] at closed
      obtain ⟨rfl, rfl, rfl⟩ := closed
      exact closeStars?_eq here
    case h_2 =>
      obtain ⟨found, later, same⟩ := Option.map_eq_some_iff.1 closed
      obtain ⟨body', stars', rest'⟩ := found
      simp only [Prod.mk.injEq] at same
      obtain ⟨rfl, rfl, rfl⟩ := same
      simp [← inductionHypothesis later]

/-- A block at the beginning of a line, and what follows it. -/
def block? (line : List Char) : Option (Region × List Char) :=
  match line.dropWhile isBlank with
  | '/' :: '*' :: '*' :: inside =>
    (untilClose? inside).map fun found =>
      (block (line.takeWhile isBlank) found.1 found.2.1, found.2.2)
  | _ => none

theorem block?_eq {line rest : List Char} {region : Region}
    (found : block? line = some (region, rest)) : region.text ++ rest = line := by
  unfold block? at found
  split at found
  case h_1 inside opened =>
    obtain ⟨⟨body, stars, behind⟩, closed, same⟩ := Option.map_eq_some_iff.1 found
    simp only [Prod.mk.injEq] at same
    obtain ⟨rfl, rfl⟩ := same
    conv => rhs; rw [← List.takeWhile_append_dropWhile (p := isBlank) (l := line), opened,
      ← untilClose?_eq closed]
    simp [text]
  case h_2 => cases found

theorem block?_ne_nil {line rest : List Char} {region : Region}
    (found : block? line = some (region, rest)) : region.text ≠ [] := by
  unfold block? at found
  split at found
  case h_1 =>
    obtain ⟨_, _, same⟩ := Option.map_eq_some_iff.1 found
    simp only [Prod.mk.injEq] at same
    obtain ⟨rfl, rfl⟩ := same
    simp [text]
  case h_2 => cases found

/-! ## The first region -/

/-- The region at the beginning of the text, and what follows it. A block must begin a line. -/
def here? (atLineStart : Bool) (source : List Char) : Option (Region × List Char) :=
  if opensRun source then some (run (cutRun source).1, (cutRun source).2)
  else if atLineStart then block? source
  else none

theorem here?_eq {atLineStart : Bool} {source rest : List Char} {region : Region}
    (found : here? atLineStart source = some (region, rest)) : region.text ++ rest = source := by
  unfold here? at found
  split at found
  · simp only [Option.some.injEq, Prod.mk.injEq] at found
    obtain ⟨rfl, rfl⟩ := found
    exact cutRun_append source
  · split at found
    · exact block?_eq found
    · cases found

theorem here?_ne_nil {atLineStart : Bool} {source rest : List Char} {region : Region}
    (found : here? atLineStart source = some (region, rest)) : region.text ≠ [] := by
  unfold here? at found
  split at found
  case isTrue opened =>
    simp only [Option.some.injEq, Prod.mk.injEq] at found
    obtain ⟨rfl, rfl⟩ := found
    cases source with
    | nil => simp [opensRun] at opened
    | cons c tail =>
      apply cutRun_ne_nil
      rintro rfl
      simp [opensRun, isBlank] at opened
  case isFalse =>
    split at found
    · exact block?_ne_nil found
    · cases found

/-- The text before the first region, the region and the text behind it. -/
def next? : Bool → List Char → Option (List Char × Region × List Char)
  | _, [] => none
  | atLineStart, c :: rest =>
    match here? atLineStart (c :: rest) with
    | some (region, behind) => some ([], region, behind)
    | none => (next? (c == '\n') rest).map fun found => (c :: found.1, found.2)

theorem next?_eq {atLineStart : Bool} {source gap rest : List Char} {region : Region}
    (found : next? atLineStart source = some (gap, region, rest)) :
    gap ++ region.text ++ rest = source := by
  induction source generalizing atLineStart gap with
  | nil => cases found
  | cons c tail inductionHypothesis =>
    rw [next?] at found
    split at found
    case h_1 here =>
      simp only [Option.some.injEq, Prod.mk.injEq] at found
      obtain ⟨rfl, rfl, rfl⟩ := found
      exact here?_eq here
    case h_2 =>
      obtain ⟨⟨gap', region', rest'⟩, later, same⟩ := Option.map_eq_some_iff.1 found
      simp only [Prod.mk.injEq] at same
      obtain ⟨rfl, rfl, rfl⟩ := same
      simp [← inductionHypothesis later]

theorem next?_ne_nil {atLineStart : Bool} {source gap rest : List Char} {region : Region}
    (found : next? atLineStart source = some (gap, region, rest)) : region.text ≠ [] := by
  induction source generalizing atLineStart gap with
  | nil => cases found
  | cons c tail inductionHypothesis =>
    rw [next?] at found
    split at found
    case h_1 here =>
      simp only [Option.some.injEq, Prod.mk.injEq] at found
      obtain ⟨rfl, rfl, rfl⟩ := found
      exact here?_ne_nil here
    case h_2 =>
      obtain ⟨⟨gap', region', rest'⟩, later, same⟩ := Option.map_eq_some_iff.1 found
      simp only [Prod.mk.injEq] at same
      obtain ⟨rfl, rfl, rfl⟩ := same
      exact inductionHypothesis later

theorem next?_length_lt {atLineStart : Bool} {source gap rest : List Char} {region : Region}
    (found : next? atLineStart source = some (gap, region, rest)) :
    rest.length < source.length := by
  have nonempty := List.length_pos_iff.2 (next?_ne_nil found)
  rw [← next?_eq found]
  simp only [List.length_append]
  omega

end Region

/-! ## All regions -/

/-- A region of a source, with the text of the source on either side of it. -/
structure Occurrence where
  before : List Char
  region : Region
  behind : List Char
deriving DecidableEq, Repr

/-- The source up to the end of the region. -/
def Occurrence.through (occurrence : Occurrence) : List Char :=
  occurrence.before ++ occurrence.region.text

/-- Whether the text that follows begins a line. -/
def endsLine (before : List Char) : Bool := before.getLast?.all (· == '\n')

/-- The regions of `rest`, where `before` is the source up to there. -/
def occurrencesFrom (before rest : List Char) : List Occurrence :=
  match _found : Region.next? (endsLine before) rest with
  | none => []
  | some (gap, region, behind) =>
    let occurrence : Occurrence := ⟨before ++ gap, region, behind⟩
    occurrence :: occurrencesFrom occurrence.through behind
termination_by rest.length
decreasing_by exact Region.next?_length_lt (by assumption)

/-- Every documentation region of the source, in order. -/
def occurrences (source : List Char) : List Occurrence := occurrencesFrom [] source

end StyleDoc
