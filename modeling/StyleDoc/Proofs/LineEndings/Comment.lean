import StyleDoc.Proofs.Coverage
import StyleDoc.Proofs.LineEndings.Declaration
import StyleDoc.Proofs.LineEndings.Lines
import StyleDoc.Proofs.MapDeclaration

/-!
# Comments in texts with carriage returns

A source with carriage returns has the comments of the source without them. Its regions are the same
but for the line break at their ends, of which a run takes both characters, one of them or none.
-/

namespace StyleDoc

open Text

namespace Region

/-! ## Runs -/

theorem opensRun_crlf (text : List Char) : opensRun (crlf text) = opensRun text := by
  unfold opensRun
  rw [dropWhile_crlf text (by decide), isPrefixOf_crlf (by decide) (by decide)]

/-- How a run is cut off a text, and off the text with carriage returns. -/
inductive RunCut : List Char × List Char → List Char × List Char → Prop where
  | atEnd (text : List Char) : RunCut (text, []) (crlf text, [])
  | feedLeft (text more : List Char) (inLine : text.getLast? ≠ some '\n') :
      RunCut (text, '\n' :: more) (crlf text ++ ['\r'], '\n' :: crlf more)
  | feedTaken (text more : List Char) :
      RunCut (text ++ ['\n'], more) (crlf text ++ ['\r'], '\n' :: crlf more)

theorem RunCut.cons {first second : List Char × List Char} (cut : RunCut first second) {c : Char}
    (inLine : c ≠ '\n') : RunCut (c :: first.1, first.2) (c :: second.1, second.2) := by
  cases cut with
  | atEnd text =>
    have longer := RunCut.atEnd (c :: text)
    rwa [crlf_cons inLine] at longer
  | feedLeft text more ended =>
    have stillEnded : (c :: text).getLast? ≠ some '\n' := by
      rw [List.getLast?_cons]
      cases last : text.getLast? <;> simp_all
    have longer := RunCut.feedLeft (c :: text) more stillEnded
    rwa [crlf_cons inLine] at longer
  | feedTaken text more =>
    have longer := RunCut.feedTaken (c :: text) more
    rwa [crlf_cons inLine] at longer

theorem RunCut.lineFeed {first second : List Char × List Char} (cut : RunCut first second)
    (nonempty : first.1 ≠ []) :
    RunCut ('\n' :: first.1, first.2) ('\r' :: '\n' :: second.1, second.2) := by
  cases cut with
  | atEnd text => exact .atEnd ('\n' :: text)
  | feedLeft text more ended =>
    obtain ⟨d, rest, rfl⟩ := List.exists_cons_of_ne_nil nonempty
    exact .feedLeft ('\n' :: d :: rest) more (by rwa [List.getLast?_cons_cons])
  | feedTaken text more => exact .feedTaken ('\n' :: text) more

theorem runCut_cutRun (source : List Char) : RunCut (cutRun source) (cutRun (crlf source)) := by
  induction source with
  | nil => exact .atEnd []
  | cons c rest inductionHypothesis =>
    by_cases lineFeed : c = '\n'
    · subst lineFeed
      have carriageReturn : '\r' ≠ '\n' := by decide
      rw [crlf_lineFeed, cutRun_cons carriageReturn]
      -- The line feed stands inside the run, or the run ends before or behind it.
      cases opens : opensRun rest with
      | true =>
        obtain ⟨d, more, rfl, visible⟩ := exists_eq_cons_of_opensRun opens
        rw [cutRun_lineFeed_of_opensRun opens, cutRun_lineFeed_of_opensRun (by rwa [opensRun_crlf])]
        exact inductionHypothesis.lineFeed (cutRun_ne_nil more visible)
      | false =>
        rw [cutRun_lineFeed opens, cutRun_lineFeed (by rwa [opensRun_crlf])]
        cases rest with
        | nil => exact .atEnd ['\n']
        | cons d more =>
          by_cases empty : d = '\n'
          · subst empty
            exact .feedTaken [] ('\n' :: more)
          · have visible : (d == '\n') = false := by simpa using empty
            simpa [crlf_cons empty, visible] using RunCut.feedLeft [] (d :: more) (by simp)
    · rw [crlf_cons lineFeed, cutRun_cons lineFeed, cutRun_cons lineFeed]
      exact inductionHypothesis.cons lineFeed

/-- A run says the same wherever its last line break is cut. -/
theorem RunCut.slashedLines_eq {text behind other otherBehind : List Char}
    (cut : RunCut (text, behind) (other, otherBehind)) (nonempty : text ≠ [])
    (clean : '\r' ∉ text) : slashedLines other = slashedLines text := by
  cases cut with
  | atEnd => exact slashedLines_crlf clean
  | feedLeft _ _ ended =>
    rw [slashedLines_crlf_concat clean, slashedLines_concat_lineFeed clean nonempty ended]
  | feedTaken text _ =>
    have textClean : '\r' ∉ text := fun carriage => clean (List.mem_append_left _ carriage)
    exact slashedLines_crlf_concat textClean

theorem RunCut.runRole_eq {text behind other otherBehind : List Char}
    (cut : RunCut (text, behind) (other, otherBehind)) : runRole other = runRole text := by
  cases cut with
  | atEnd => exact runRole_crlf text
  | feedLeft => rw [runRole_concat (by decide), runRole_crlf]
  | feedTaken text => rw [runRole_concat (by decide), runRole_crlf, runRole_concat (by decide)]

end Region

/-! ## Cuts beside a line break -/

/-- Two cuts of a text in the same place, or on either side of a character of a line break. -/
inductive Beside : List Char × List Char → List Char × List Char → Prop where
  | same (cut : List Char × List Char) : Beside cut cut
  | later (front rest : List Char) {c : Char} (lineBreak : isLineBreak c = true) :
      Beside (front, c :: rest) (front ++ [c], rest)
  | earlier (front rest : List Char) {c : Char} (lineBreak : isLineBreak c = true) :
      Beside (front ++ [c], rest) (front, c :: rest)

theorem Region.RunCut.beside {text behind other otherBehind : List Char}
    (cut : RunCut (text, behind) (other, otherBehind)) :
    Beside (crlf text, crlf behind) (other, otherBehind) := by
  cases cut with
  | atEnd => exact .same _
  | feedLeft _ more => exact .later (crlf text) ('\n' :: crlf more) (by decide)
  | feedTaken text =>
    have parts : crlf (text ++ ['\n']) = crlf text ++ ['\r'] ++ ['\n'] := by simp
    rw [parts]
    exact .earlier (crlf text ++ ['\r']) (crlf behind) (by decide)

namespace Beside

theorem eq_or_eq_of_isLineBreak {c : Char} (lineBreak : isLineBreak c = true) :
    c = '\r' ∨ c = '\n' := by simpa [isLineBreak] using lineBreak

theorem occurrencesFrom_lineBreak {c : Char} (lineBreak : isLineBreak c = true)
    (before rest : List Char) :
    occurrencesFrom before (c :: rest) = occurrencesFrom (before ++ [c]) rest := by
  apply occurrencesFrom_cons
  rcases eq_or_eq_of_isLineBreak lineBreak with rfl | rfl
  · exact Region.here?_cons_eq_none (by decide) (by decide) _ _
  · exact Region.here?_cons_eq_none (by decide) (by decide) _ _

theorem read_lineBreak {c : Char} (lineBreak : isLineBreak c = true) (before rest : List Char) :
    Declaration.read (c :: rest) (some (lineCount before)) =
      Declaration.read rest (some (lineCount (before ++ [c]))) := by
  have space : isSpace c = true := by
    rcases eq_or_eq_of_isLineBreak lineBreak with rfl | rfl <;> decide
  have moved :=
    Declaration.read_append (List.forall_mem_singleton.2 space) rest (some (lineCount before))
  simpa [lineCount, lineFeeds, Nat.add_assoc] using moved

variable {front rest other otherRest : List Char}
  (beside : Beside (front, rest) (other, otherRest)) (before : List Char)
include beside

/-- The search for regions finds the same behind either cut. -/
theorem occurrencesFrom_eq :
    occurrencesFrom (before ++ other) otherRest = occurrencesFrom (before ++ front) rest := by
  cases beside with
  | same => rfl
  | later _ _ lineBreak => rw [occurrencesFrom_lineBreak lineBreak, List.append_assoc]
  | earlier _ _ lineBreak => rw [occurrencesFrom_lineBreak lineBreak, List.append_assoc]

/-- The same declaration follows either cut, on the same lines. -/
theorem read_eq :
    Declaration.read otherRest (some (lineCount (before ++ other))) =
      Declaration.read rest (some (lineCount (before ++ front))) := by
  cases beside with
  | same => rfl
  | later _ _ lineBreak => rw [read_lineBreak lineBreak, List.append_assoc]
  | earlier _ _ lineBreak => rw [read_lineBreak lineBreak, List.append_assoc]

end Beside

namespace Region

/-! ## Blocks -/

theorem closeStars?_crlf (text : List Char) :
    closeStars? (crlf text) = (closeStars? text).map fun found => (found.1, crlf found.2) := by
  have whole : '\n' ∉ text.takeWhile (· == '*') := not_mem_takeWhile (by decide) text
  unfold closeStars?
  rw [takeWhile_crlf text (by decide), dropWhile_crlf text (by decide), crlf_of_not_mem whole]
  cases text.takeWhile (· == '*') with
  | nil => rfl
  | cons star stars =>
    cases text.dropWhile (· == '*') with
    | nil => rfl
    | cons d rest =>
      by_cases slash : d = '/'
      · subst slash
        rfl
      · by_cases lineFeed : d = '\n'
        · simp [lineFeed]
        · simp [crlf_cons lineFeed, slash]

theorem untilClose?_crlf (text : List Char) :
    untilClose? (crlf text) =
      (untilClose? text).map fun found => (crlf found.1, found.2.1, crlf found.2.2) := by
  induction text with
  | nil => rfl
  | cons c rest inductionHypothesis =>
    by_cases lineFeed : c = '\n'
    · subst lineFeed
      rw [crlf_lineFeed, untilClose?_cons (by decide), untilClose?_cons (by decide),
        untilClose?_cons (by decide), inductionHypothesis]
      simp [Function.comp_def]
    · have stars := closeStars?_crlf (c :: rest)
      rw [crlf_cons lineFeed] at stars ⊢
      rw [untilClose?, untilClose?, stars]
      cases closeStars? (c :: rest) with
      | some found => rfl
      | none =>
        dsimp only [Option.map_none]
        rw [inductionHypothesis]
        simp [Function.comp_def, crlf_cons lineFeed]

/-! ## Regions -/

/-- A region with the text behind it, as it is found in a text and in the text with carriage
returns. -/
structure Returned (found other : Region × List Char) : Prop where
  lines : other.1.lines = found.1.lines
  role : other.1.role = found.1.role
  beside : Beside (crlf found.1.text, crlf found.2) (other.1.text, other.2)

theorem returned_block? {line : List Char} (clean : '\r' ∉ line) :
    Option.Rel Returned (block? line) (block? (crlf line)) := by
  have dropped : (crlf line).dropWhile isBlank = crlf (line.dropWhile isBlank) :=
    dropWhile_crlf line (by decide)
  by_cases opened : ['/', '*', '*'] <+: line.dropWhile isBlank
  · obtain ⟨inside, parts⟩ := opened
    have otherParts : ['/', '*', '*'] ++ crlf inside = (crlf line).dropWhile isBlank := by
      rw [dropped, ← parts]
      simp [crlf]
    have found := block?_of_opened parts
    have otherFound := block?_of_opened otherParts
    rw [untilClose?_crlf] at otherFound
    cases closed : untilClose? inside with
    | none =>
      rw [closed, Option.map_none] at found
      rw [closed, Option.map_none, Option.map_none] at otherFound
      rw [found, otherFound]
      exact .none
    | some close =>
      obtain ⟨body, stars, behind⟩ := close
      rw [closed, Option.map_some] at found
      rw [closed, Option.map_some, Option.map_some] at otherFound
      have bodyClean : '\r' ∉ body := by
        intro carriage
        apply clean
        rw [← block?_eq found]
        simp [Region.text, carriage]
      -- The texts behind the blocks correspond, so what stands before them does as well.
      have whole := block?_eq otherFound
      have parts := congrArg crlf (block?_eq found)
      rw [crlf_append] at parts
      have text := List.append_cancel_right (whole.trans parts.symm)
      rw [found, otherFound]
      refine .some ⟨blockLines_crlf bodyClean, rfl, ?_⟩
      dsimp only at text ⊢
      rw [text]
      exact .same _
  · have otherUnopened : ¬ ['/', '*', '*'] <+: (crlf line).dropWhile isBlank := by
      rw [dropped]
      rwa [← List.isPrefixOf_iff_prefix, isPrefixOf_crlf (by decide) (by decide),
        List.isPrefixOf_iff_prefix]
    rw [block?_of_unopened opened, block?_of_unopened otherUnopened]
    exact .none

theorem returned_here? {source : List Char} (clean : '\r' ∉ source) (atLineStart : Bool) :
    Option.Rel Returned (here? atLineStart source) (here? atLineStart (crlf source)) := by
  unfold here?
  rw [opensRun_crlf]
  split
  case isTrue opens =>
    obtain ⟨c, rest, rfl, inLine⟩ := exists_eq_cons_of_opensRun opens
    have cut := runCut_cutRun (c :: rest)
    have runClean : '\r' ∉ (cutRun (c :: rest)).1 := fun carriage =>
      clean (by rw [← cutRun_append (c :: rest)]; exact List.mem_append_left _ carriage)
    have nonempty := cutRun_ne_nil rest inLine
    exact .some ⟨cut.slashedLines_eq nonempty runClean, cut.runRole_eq, cut.beside⟩
  case isFalse =>
    split
    case isTrue => exact returned_block? clean
    case isFalse => exact .none

/-- The same for a region with the text in front of it. -/
structure ReturnedBehind (found other : List Char × Region × List Char) : Prop where
  gap : other.1 = crlf found.1
  returned : Returned found.2 other.2

theorem returnedBehind_cons {c : Char} (inLine : c ≠ '\n')
    {found other : Option (List Char × Region × List Char)}
    (related : Option.Rel ReturnedBehind found other) :
    Option.Rel ReturnedBehind (found.map fun found => (c :: found.1, found.2))
      (other.map fun found => (c :: found.1, found.2)) := by
  cases related with
  | none => exact .none
  | some behind => exact .some ⟨by simp [behind.gap, crlf_cons inLine], behind.returned⟩

theorem returnedBehind_lineFeed {found other : Option (List Char × Region × List Char)}
    (related : Option.Rel ReturnedBehind found other) :
    Option.Rel ReturnedBehind (found.map fun found => ('\n' :: found.1, found.2))
      (other.map fun found => ('\r' :: '\n' :: found.1, found.2)) := by
  cases related with
  | none => exact .none
  | some behind => exact .some ⟨by simp [behind.gap], behind.returned⟩

theorem returned_next? {source : List Char} (clean : '\r' ∉ source) (atLineStart : Bool) :
    Option.Rel ReturnedBehind (next? atLineStart source) (next? atLineStart (crlf source)) := by
  induction source generalizing atLineStart with
  | nil => exact .none
  | cons c rest inductionHypothesis =>
    have restClean : '\r' ∉ rest := fun carriage => clean (List.mem_cons_of_mem _ carriage)
    by_cases lineFeed : c = '\n'
    · subst lineFeed
      -- No region begins at either character of the line break, and a line begins behind them.
      have noReturn : ∀ rest, here? atLineStart ('\r' :: rest) = none :=
        here?_cons_eq_none (by decide) (by decide) atLineStart
      have noFeed : ∀ atLineStart rest, here? atLineStart ('\n' :: rest) = none :=
        here?_cons_eq_none (by decide) (by decide)
      rw [crlf_lineFeed, next?_cons_of_none (noFeed _ _), next?_cons_of_none (noReturn _),
        next?_cons_of_none (noFeed _ _), Option.map_map]
      exact returnedBehind_lineFeed (inductionHypothesis restClean true)
    · have here := returned_here? clean atLineStart
      rw [crlf_cons lineFeed] at here ⊢
      rw [next?, next?]
      cases first : here? atLineStart (c :: rest) with
      | none =>
        cases second : here? atLineStart (c :: crlf rest) with
        | none => exact returnedBehind_cons lineFeed (inductionHypothesis restClean (c == '\n'))
        | some => rw [first, second] at here; cases here
      | some =>
        cases second : here? atLineStart (c :: crlf rest) with
        | none => rw [first, second] at here; cases here
        | some =>
          rw [first, second] at here
          cases here with
          | some returned => exact .some ⟨rfl, returned⟩

end Region

/-! ## Comments -/

theorem endsLine_crlf (before : List Char) : endsLine (crlf before) = endsLine before := by
  rw [endsLine, getLast?_crlf, endsLine]

theorem lineCount_crlf (text : List Char) : lineCount (crlf text) = lineCount text := by
  rw [lineCount, lineFeeds_crlf, lineCount]

namespace Comment

/-- The comment of a region that is found in the text with carriage returns. -/
theorem ofOccurrence_crlf {before gap behind otherBehind : List Char} {region other : Region}
    (returned : Region.Returned (region, behind) (other, otherBehind)) :
    ofOccurrence ⟨crlf before ++ crlf gap, other, otherBehind⟩ =
      (ofOccurrence ⟨before ++ gap, region, behind⟩).mapDeclaration Declaration.crlf := by
  have declared := returned.beside.read_eq (crlf (before ++ gap))
  rw [← crlf_append, lineCount_crlf, Declaration.read_crlf, crlf_append] at declared
  unfold ofOccurrence mapDeclaration Occurrence.through
  rw [returned.lines, returned.role, declared]

theorem map_occurrencesFrom_crlf (before rest : List Char) : '\r' ∉ rest →
    (occurrencesFrom (crlf before) (crlf rest)).map ofOccurrence =
      ((occurrencesFrom before rest).map ofOccurrence).map (mapDeclaration Declaration.crlf) := by
  refine occurrencesFrom_induction (motive := fun before rest all => '\r' ∉ rest →
    (occurrencesFrom (crlf before) (crlf rest)).map ofOccurrence =
      (all.map ofOccurrence).map (mapDeclaration Declaration.crlf)) ?missing ?found before rest
  case missing =>
    intro before rest next clean
    have related := Region.returned_next? clean (endsLine before)
    rw [next] at related
    cases otherNext : Region.next? (endsLine before) (crlf rest) with
    | none =>
      rw [← endsLine_crlf] at otherNext
      rw [occurrencesFrom_of_none otherNext]
      rfl
    | some => rw [otherNext] at related; cases related
  case found =>
    intro before rest gap region behind others next inductionHypothesis clean
    have behindClean : '\r' ∉ behind := by
      intro carriage
      apply clean
      rw [← Region.next?_eq next]
      exact List.mem_append_right _ carriage
    have related := Region.returned_next? clean (endsLine before)
    rw [next] at related
    cases otherNext : Region.next? (endsLine before) (crlf rest) with
    | none => rw [otherNext] at related; cases related
    | some found =>
      obtain ⟨otherGap, other, otherBehind⟩ := found
      rw [otherNext] at related
      cases related with
      | some behindGap =>
        obtain ⟨rfl, returned⟩ := behindGap
        -- Behind the region the search goes on from either side of the line break alike.
        have resumed := returned.beside.occurrencesFrom_eq (crlf (before ++ gap))
        rw [← crlf_append, crlf_append before gap] at resumed
        rw [← endsLine_crlf] at otherNext
        rw [occurrencesFrom_of_some otherNext, List.map_cons, List.map_cons, List.map_cons, resumed,
          inductionHypothesis behindClean, ofOccurrence_crlf returned]

/-- A source with carriage returns has the same comments, but for the carriage returns in the code
of their declarations. -/
theorem extract_crlf {source : List Char} (clean : '\r' ∉ source) :
    extract (crlf source) = (extract source).map (mapDeclaration Declaration.crlf) := by
  rw [extract_eq, extract_eq]
  exact map_occurrencesFrom_crlf [] source clean

/-- A poster and a function, each behind a run, and a variable on the line of a block. The body and
the value go over several lines, and a brace stands in a string with a line feed. -/
def mixedSource : List Char :=
  joinLines (["//// Sizes", "/// @group math", "", "  /// Halves.", "///",
    "@function half($n) \x7b", "  @return \"\x7d", "\";", "\x7d", "  /** Wide",
    "  * screens. **/ $wide: 1", "  2 !global;", ""].map String.toList)

theorem extract_crlf_mixed :
    '\r' ∉ mixedSource ∧
      extract (crlf mixedSource) = (extract mixedSource).map (mapDeclaration Declaration.crlf) ∧
      (extract mixedSource).map (·.declaration.kind) = [.unknown, .function, .var] := by
  have clean : '\r' ∉ mixedSource := by decide +kernel
  exact ⟨clean, extract_crlf clean, by decide +kernel⟩

end Comment

end StyleDoc
