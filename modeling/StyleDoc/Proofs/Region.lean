import StyleDoc.Comment.Region
import StyleDoc.Proofs.Lines

/-!
# Where regions end

A run goes on through every line that opens with slashes, and a block through every text without a
star and a slash in a row. Both are told line by line. The search for a region passes a place only
when no region begins there.
-/

namespace StyleDoc

open Text

namespace Region

/-! ## Runs -/

theorem opensRun_append {line : List Char} (opens : opensRun line = true) (rest : List Char) :
    opensRun (line ++ rest) = true := by
  unfold opensRun at opens ⊢
  rw [List.isPrefixOf_iff_prefix] at opens ⊢
  rw [List.dropWhile_append]
  split
  case isTrue blank =>
    rw [List.isEmpty_iff.1 blank] at opens
    exact absurd opens (by decide)
  case isFalse => exact opens.trans (List.prefix_append _ _)

theorem opensRun_of_append_blanks {blanks : List Char} (allBlank : ∀ c ∈ blanks, isBlank c = true)
    (rest : List Char) : opensRun (blanks ++ rest) = opensRun rest := by
  unfold opensRun
  rw [List.dropWhile_append_of_pos allBlank]

theorem exists_eq_cons_of_opensRun {text : List Char} (opens : opensRun text = true) :
    ∃ c rest, text = c :: rest ∧ c ≠ '\n' := by
  cases text with
  | nil => simp [opensRun] at opens
  | cons c rest =>
    refine ⟨c, rest, rfl, ?_⟩
    rintro rfl
    simp [opensRun, isBlank] at opens

theorem opensRun_joinLines {first : List Char} (opens : opensRun first = true)
    (lines : List (List Char)) (rest : List Char) :
    opensRun (joinLines (first :: lines) ++ rest) = true := by
  obtain ⟨tail, same⟩ := prefix_join '\n' first lines
  unfold joinLines
  rw [← same, List.append_assoc]
  exact opensRun_append opens _

theorem cutRun_cons {c : Char} (inLine : c ≠ '\n') (rest : List Char) :
    cutRun (c :: rest) = (c :: (cutRun rest).1, (cutRun rest).2) := by
  rw [cutRun, if_neg fun ended => inLine ended.1]

theorem cutRun_line_append {line : List Char} (whole : '\n' ∉ line) (rest : List Char) :
    cutRun (line ++ rest) = (line ++ (cutRun rest).1, (cutRun rest).2) := by
  induction line with
  | nil => rfl
  | cons c tail inductionHypothesis =>
    rw [List.mem_cons, not_or] at whole
    rw [List.cons_append, cutRun_cons (Ne.symm whole.1), inductionHypothesis whole.2]
    rfl

theorem cutRun_lineFeed_of_opensRun {rest : List Char} (opens : opensRun rest = true) :
    cutRun ('\n' :: rest) = ('\n' :: (cutRun rest).1, (cutRun rest).2) := by
  rw [cutRun, if_neg fun ended => ended.2 opens]

/-- The run ends before a line that does not open with slashes, or behind the line feed when that
line is empty. -/
theorem cutRun_lineFeed {rest : List Char} (ends : opensRun rest = false) :
    cutRun ('\n' :: rest) =
      if rest.head?.all (· == '\n') then (['\n'], rest) else ([], '\n' :: rest) := by
  rw [cutRun, if_pos ⟨rfl, by simp [ends]⟩]

theorem cutRun_joinLines {first : List Char} {lines : List (List Char)} (firstWhole : '\n' ∉ first)
    (whole : ∀ line ∈ lines, '\n' ∉ line) (opens : ∀ line ∈ lines, opensRun line = true)
    (rest : List Char) :
    cutRun (joinLines (first :: lines) ++ rest) =
      (joinLines (first :: lines) ++ (cutRun rest).1, (cutRun rest).2) := by
  unfold joinLines
  induction lines generalizing first with
  | nil => rw [join_singleton, cutRun_line_append firstWhole]
  | cons next lines inductionHypothesis =>
    have later := inductionHypothesis (whole next List.mem_cons_self)
      (fun line member => whole line (List.mem_cons_of_mem _ member))
      (fun line member => opens line (List.mem_cons_of_mem _ member))
    have nextOpens : opensRun (join '\n' (next :: lines) ++ rest) = true :=
      opensRun_joinLines (opens next List.mem_cons_self) lines rest
    rw [join_cons_cons, List.append_assoc, cutRun_line_append firstWhole, List.cons_append,
      cutRun_lineFeed_of_opensRun nextOpens, later]
    simp

/-- A run ends at the end of a line. -/
theorem head?_cutRun (text : List Char) : (cutRun text).2.head?.all (· == '\n') = true := by
  induction text with
  | nil => rfl
  | cons c rest inductionHypothesis =>
    rw [cutRun]
    split
    case isTrue ended =>
      split
      case isTrue empty => exact empty
      case isFalse => simp [ended.1]
    case isFalse => exact inductionHypothesis

/-- A run stops before a line feed when no line of the run follows, or when it has taken along
the line feed before that one. -/
theorem getLast?_of_cutRun_eq_lineFeed {text more : List Char}
    (stopped : (cutRun text).2 = '\n' :: more) (opens : opensRun more = true) :
    (cutRun text).1.getLast? = some '\n' := by
  induction text with
  | nil => cases stopped
  | cons c rest inductionHypothesis =>
    rw [cutRun] at stopped ⊢
    split at stopped
    case isTrue ended =>
      rw [if_pos ended]
      split
      case isTrue => simp [ended.1]
      case isFalse occupied =>
        rw [if_neg occupied] at stopped
        cases stopped
        exact absurd opens ended.2
    case isFalse goesOn =>
      rw [if_neg goesOn]
      rw [List.getLast?_cons, inductionHypothesis stopped]
      rfl

/-- Every line feed inside a run is followed by a line of the run. -/
theorem opensRun_of_cutRun_eq {text front more : List Char}
    (taken : (cutRun text).1 = front ++ '\n' :: more) (nonempty : more ≠ []) :
    opensRun (more ++ (cutRun text).2) = true := by
  induction text generalizing front with
  | nil => simp [cutRun] at taken
  | cons c rest inductionHypothesis =>
    rw [cutRun] at taken ⊢
    split at taken
    case isTrue ended =>
      split at taken
      · cases front <;> simp_all
      · simp at taken
    case isFalse goesOn =>
      rw [if_neg goesOn]
      cases front with
      | nil =>
        obtain ⟨rfl, rfl⟩ := List.cons.inj taken
        rw [cutRun_append]
        simpa using goesOn
      | cons d front =>
        exact inductionHypothesis (List.cons.inj taken).2

/-! ## Blocks -/

theorem closeStars?_stars {text stars rest : List Char}
    (closed : closeStars? text = some (stars, rest)) : ∀ c ∈ stars, c = '*' := by
  unfold closeStars? at closed
  split at closed
  case h_1 star stars' rest' taken _ =>
    cases closed
    have all : (text.takeWhile (· == '*')).all (· == '*') = true := List.all_takeWhile
    rw [taken] at all
    simpa using all
  case h_2 => cases closed

theorem closeStars?_ne_nil {text stars rest : List Char}
    (closed : closeStars? text = some (stars, rest)) : stars ≠ [] := by
  unfold closeStars? at closed
  split at closed
  case h_1 => cases closed; exact List.cons_ne_nil _ _
  case h_2 => cases closed

/-- Stars and a slash do not close a block across a character that is neither. -/
theorem closeStars?_append_cons {piece : List Char} (clean : ¬ ['*', '/'] <:+: piece) {c : Char}
    (noStar : c ≠ '*') (noSlash : c ≠ '/') (rest : List Char) :
    closeStars? (piece ++ c :: rest) = none := by
  cases closed : closeStars? (piece ++ c :: rest) with
  | none => rfl
  | some found =>
    obtain ⟨stars, behind⟩ := found
    exfalso
    -- The stars end inside the piece, with their slash next, or they reach the other character.
    rcases List.append_eq_append_iff.1 (closeStars?_eq closed) with
      ⟨more, parts, tail⟩ | ⟨more, parts, tail⟩
    · cases more with
      | nil => exact noSlash (List.cons.inj tail).1.symm
      | cons slash more =>
        obtain ⟨rfl, _⟩ := List.cons.inj tail
        obtain ⟨front, star, same⟩ := List.eq_nil_or_concat stars |>.resolve_left
          (closeStars?_ne_nil closed)
        have last : star = '*' := closeStars?_stars closed star (by simp [same])
        exact clean ⟨front, more, by simp [parts, same, last]⟩
    · cases more with
      | nil => exact noSlash (List.cons.inj tail).1
      | cons other more =>
        obtain ⟨rfl, _⟩ := List.cons.inj tail
        exact noStar (closeStars?_stars closed _ (by simp [parts]))

theorem untilClose?_cons {c : Char} (noStar : c ≠ '*') (rest : List Char) :
    untilClose? (c :: rest) = (untilClose? rest).map fun found => (c :: found.1, found.2) := by
  have unclosed : closeStars? (c :: rest) = none := by
    unfold closeStars?
    rw [List.takeWhile_cons_of_neg (by simpa using noStar)]
  rw [untilClose?, unclosed]

theorem untilClose?_append_cons {piece : List Char} (clean : ¬ ['*', '/'] <:+: piece) {c : Char}
    (noStar : c ≠ '*') (noSlash : c ≠ '/') (rest : List Char) :
    untilClose? (piece ++ c :: rest) =
      (untilClose? rest).map fun found => (piece ++ c :: found.1, found.2) := by
  induction piece with
  | nil => exact untilClose?_cons noStar rest
  | cons x tail inductionHypothesis =>
    have tailClean : ¬ ['*', '/'] <:+: tail := fun inside =>
      clean (inside.trans (List.suffix_cons x tail).isInfix)
    have unclosed := closeStars?_append_cons clean noStar noSlash rest
    rw [List.cons_append] at unclosed ⊢
    rw [untilClose?, unclosed, inductionHypothesis tailClean]
    dsimp only
    rw [Option.map_map]
    rfl

theorem untilClose?_joinLines {first : List Char} {lines : List (List Char)}
    (clean : ∀ line ∈ first :: lines, ¬ ['*', '/'] <:+: line) (rest : List Char) :
    untilClose? (joinLines (first :: lines) ++ '\n' :: rest) =
      (untilClose? rest).map fun found =>
        (joinLines (first :: lines) ++ '\n' :: found.1, found.2) := by
  unfold joinLines
  induction lines generalizing first with
  | nil =>
    rw [join_singleton]
    exact untilClose?_append_cons (clean first List.mem_cons_self) (by decide) (by decide) rest
  | cons next lines inductionHypothesis =>
    have later := inductionHypothesis fun line member => clean line (List.mem_cons_of_mem _ member)
    rw [join_cons_cons, List.append_assoc, List.cons_append,
      untilClose?_append_cons (clean first List.mem_cons_self) (by decide) (by decide), later,
      Option.map_map]
    simp [Function.comp_def]

/-- The first star with a slash behind it closes a block. -/
theorem untilClose?_first {text body stars rest : List Char}
    (closed : untilClose? text = some (body, stars, rest)) : ¬ ['*', '/'] <:+: body ++ stars := by
  induction text generalizing body with
  | nil => cases closed
  | cons c tail inductionHypothesis =>
    rw [untilClose?] at closed
    split at closed
    case h_1 stars' behind here =>
      cases closed
      intro inside
      have slash : '/' ∈ stars := inside.subset (by simp)
      exact absurd (closeStars?_stars here '/' slash) (by decide)
    case h_2 unclosed =>
      obtain ⟨⟨body', stars', rest'⟩, later, same⟩ := Option.map_eq_some_iff.1 closed
      simp only [Prod.mk.injEq] at same
      obtain ⟨rfl, rfl, rfl⟩ := same
      rw [List.cons_append]
      intro inside
      rcases List.infix_cons_iff.1 inside with atFront | behind
      · -- The slash would follow the star in the text as well and close the block there.
        obtain ⟨star, more, same⟩ := List.cons_prefix_cons.1 atFront
        rw [← star, ← untilClose?_eq later, ← same] at unclosed
        cases unclosed
      · exact inductionHypothesis later behind

theorem exists_star_of_untilClose? {text body stars rest : List Char}
    (closed : untilClose? text = some (body, stars, rest)) : ∃ more, stars = more ++ ['*'] := by
  induction text generalizing body with
  | nil => cases closed
  | cons c tail inductionHypothesis =>
    rw [untilClose?] at closed
    split at closed
    case h_1 stars' behind here =>
      cases closed
      obtain ⟨more, star, same⟩ := List.eq_nil_or_concat stars |>.resolve_left
        (closeStars?_ne_nil here)
      rw [List.concat_eq_append] at same
      have last : star = '*' := closeStars?_stars here star (by simp [same])
      exact ⟨more, by rw [same, last]⟩
    case h_2 =>
      obtain ⟨⟨body', stars', rest'⟩, later, same⟩ := Option.map_eq_some_iff.1 closed
      simp only [Prod.mk.injEq] at same
      obtain ⟨rfl, rfl, rfl⟩ := same
      exact inductionHypothesis later

theorem exists_untilClose? {text : List Char} (closes : ['*', '/'] <:+: text) :
    ∃ found, untilClose? text = some found := by
  induction text with
  | nil => simp at closes
  | cons c tail inductionHypothesis =>
    rw [untilClose?]
    split
    case h_1 => exact ⟨_, rfl⟩
    case h_2 unclosed =>
      rcases List.infix_cons_iff.1 closes with atFront | later
      · obtain ⟨star, more, same⟩ := List.cons_prefix_cons.1 atFront
        rw [← star, ← same] at unclosed
        cases unclosed
      · obtain ⟨found, same⟩ := inductionHypothesis later
        exact ⟨_, by rw [same]; rfl⟩

/-! ## The beginning of a region -/

theorem block?_of_opened {line inside : List Char}
    (opened : ['/', '*', '*'] ++ inside = line.dropWhile isBlank) :
    block? line = (untilClose? inside).map fun found =>
      (block (line.takeWhile isBlank) found.1 found.2.1, found.2.2) := by
  simp [block?, ← opened]

theorem block?_of_unopened {line : List Char}
    (unopened : ¬ ['/', '*', '*'] <+: line.dropWhile isBlank) : block? line = none := by
  unfold block?
  split
  case h_1 opened => exact absurd ⟨_, opened.symm⟩ unopened
  case h_2 => rfl

/-- What a region found at the beginning of a text can be: a run, cut behind its last line, or a
block up to the first stars that close it. -/
theorem here?_cases {atLineStart : Bool} {source rest : List Char} {region : Region}
    (found : here? atLineStart source = some (region, rest)) :
    (∃ text, region = run text ∧ opensRun source = true ∧ cutRun source = (text, rest)) ∨
    (∃ indent body stars inside, region = block indent body stars ∧ atLineStart = true ∧
      source = indent ++ '/' :: '*' :: '*' :: inside ∧ (∀ c ∈ indent, isBlank c = true) ∧
      untilClose? inside = some (body, stars, rest)) := by
  unfold here? at found
  split at found
  case isTrue opens =>
    cases found
    exact .inl ⟨_, rfl, opens, rfl⟩
  case isFalse =>
    split at found
    case isFalse => cases found
    case isTrue atStart =>
      unfold block? at found
      split at found
      case h_2 => cases found
      case h_1 inside opened =>
        obtain ⟨⟨body, stars, behind⟩, closed, same⟩ := Option.map_eq_some_iff.1 found
        cases same
        refine .inr ⟨_, body, stars, inside, rfl, atStart, ?_, ?_, closed⟩
        · rw [← opened, List.takeWhile_append_dropWhile]
        · exact List.all_eq_true.1 List.all_takeWhile

theorem exists_here?_slashes (atLineStart : Bool) (rest : List Char) :
    ∃ found, here? atLineStart (['/', '/', '/'] ++ rest) = some found :=
  ⟨_, if_pos rfl⟩

theorem exists_here?_block {blanks inside : List Char}
    (allBlank : ∀ b ∈ blanks, isBlank b = true) (closes : ['*', '/'] <:+: inside) :
    ∃ found, here? true (blanks ++ (['/', '*', '*'] ++ inside)) = some found := by
  obtain ⟨⟨body, stars, behind⟩, closed⟩ := exists_untilClose? closes
  have noRun : opensRun (blanks ++ (['/', '*', '*'] ++ inside)) = false := by
    rw [opensRun_of_append_blanks allBlank]
    rfl
  have opened : (blanks ++ (['/', '*', '*'] ++ inside)).dropWhile isBlank =
      '/' :: '*' :: '*' :: inside := by
    rw [List.dropWhile_append_of_pos allBlank]
    rfl
  unfold here? block?
  rw [noRun, opened]
  simp [closed]

theorem here?_eq_none {source : List Char} (noRun : opensRun source = false)
    (unopened : ¬ ['/', '*', '*'] <+: source.dropWhile isBlank) (atLineStart : Bool) :
    here? atLineStart source = none := by
  simp [here?, noRun, block?_of_unopened unopened]

/-- A region begins with a blank or a slash. -/
theorem here?_cons_eq_none {c : Char} (solid : isBlank c = false) (noSlash : c ≠ '/')
    (atLineStart : Bool) (rest : List Char) : here? atLineStart (c :: rest) = none := by
  have visible : (c :: rest).dropWhile isBlank = c :: rest :=
    List.dropWhile_cons_of_neg (by simp [solid])
  apply here?_eq_none
  · have different : ('/' == c) = false := by simpa using Ne.symm noSlash
    simp [opensRun, visible, List.isPrefixOf, different]
  · rw [visible, List.cons_prefix_cons]
    exact fun opened => noSlash opened.1.symm

end Region

/-! ## The search for the next region -/

theorem Region.next?_cons_of_none {atLineStart : Bool} {c : Char} {rest : List Char}
    (absent : Region.here? atLineStart (c :: rest) = none) :
    Region.next? atLineStart (c :: rest) =
      (Region.next? (c == '\n') rest).map fun found => (c :: found.1, found.2) := by
  rw [Region.next?, absent]

theorem endsLine_concat (before : List Char) (c : Char) :
    endsLine (before ++ [c]) = (c == '\n') := by
  simp [endsLine]

namespace Region

section Search

variable {before source gap front rest : List Char} {region : Region}

/-- The search passes a place only when no region begins there. -/
theorem here?_eq_none_of_next?_eq_none (missing : next? (endsLine before) source = none)
    (parts : front ++ rest = source) : here? (endsLine (before ++ front)) rest = none := by
  induction source generalizing before front with
  | nil =>
    obtain ⟨rfl, rfl⟩ := List.append_eq_nil_iff.1 parts
    simp [here?, opensRun, block?]
  | cons c tail inductionHypothesis =>
    rw [next?] at missing
    split at missing
    case h_1 => cases missing
    case h_2 absent =>
      cases front with
      | nil =>
        rw [List.append_nil, ← absent]
        exact congrArg _ parts
      | cons d front =>
        obtain ⟨rfl, tailParts⟩ := List.cons.inj parts
        rw [← endsLine_concat before] at missing
        have later := inductionHypothesis (Option.map_eq_none_iff.1 missing) tailParts
        rwa [List.append_assoc] at later

theorem here?_of_next? (found : next? (endsLine before) source = some (gap, region, rest)) :
    here? (endsLine (before ++ gap)) (region.text ++ rest) = some (region, rest) := by
  induction source generalizing before gap with
  | nil => cases found
  | cons c tail inductionHypothesis =>
    rw [next?] at found
    split at found
    case h_1 region' rest' here =>
      simp only [Option.some.injEq, Prod.mk.injEq] at found
      obtain ⟨rfl, rfl, rfl⟩ := found
      rw [List.append_nil, here?_eq here, here]
    case h_2 =>
      obtain ⟨⟨gap', region', rest'⟩, later, same⟩ := Option.map_eq_some_iff.1 found
      simp only [Prod.mk.injEq] at same
      obtain ⟨rfl, rfl, rfl⟩ := same
      rw [← endsLine_concat before] at later
      have here := inductionHypothesis later
      rwa [List.append_assoc] at here

theorem here?_eq_none_of_gap (found : next? (endsLine before) source = some (gap, region, rest))
    {more : List Char} (parts : front ++ more = gap) (nonempty : more ≠ []) :
    here? (endsLine (before ++ front)) (more ++ region.text ++ rest) = none := by
  induction source generalizing before gap front with
  | nil => cases found
  | cons c tail inductionHypothesis =>
    have whole := next?_eq found
    rw [next?] at found
    split at found
    case h_1 =>
      cases found
      exact absurd (List.append_eq_nil_iff.1 parts).2 nonempty
    case h_2 absent =>
      obtain ⟨⟨gap', region', rest'⟩, later, same⟩ := Option.map_eq_some_iff.1 found
      simp only [Prod.mk.injEq] at same
      obtain ⟨rfl, rfl, rfl⟩ := same
      cases front with
      | nil =>
        rw [List.nil_append] at parts
        rw [parts, whole, List.append_nil, absent]
      | cons d front =>
        obtain ⟨rfl, tailParts⟩ := List.cons.inj parts
        rw [← endsLine_concat before] at later
        have passed := inductionHypothesis later tailParts
        rwa [List.append_assoc] at passed

end Search

end Region

/-! ## The regions of a source -/

section occurrencesFrom

variable {before rest gap behind : List Char} {region : Region}

theorem occurrencesFrom_of_none (missing : Region.next? (endsLine before) rest = none) :
    occurrencesFrom before rest = [] := by
  rw [occurrencesFrom]
  split
  case h_1 => rfl
  case h_2 found => rw [missing] at found; cases found

theorem occurrencesFrom_of_some
    (found : Region.next? (endsLine before) rest = some (gap, region, behind)) :
    occurrencesFrom before rest =
      ⟨before ++ gap, region, behind⟩ :: occurrencesFrom (before ++ gap ++ region.text) behind := by
  rw [occurrencesFrom]
  split
  case h_1 missing => rw [found] at missing; cases missing
  case h_2 again =>
    rw [found] at again
    cases again
    rfl

/-- The search goes on behind a character at which no region begins. -/
theorem occurrencesFrom_cons {c : Char}
    (absent : Region.here? (endsLine before) (c :: rest) = none) :
    occurrencesFrom before (c :: rest) = occurrencesFrom (before ++ [c]) rest := by
  have passed : Region.next? (endsLine before) (c :: rest) =
      (Region.next? (endsLine (before ++ [c])) rest).map fun found => (c :: found.1, found.2) := by
    rw [Region.next?_cons_of_none absent, endsLine_concat]
  cases next : Region.next? (endsLine (before ++ [c])) rest with
  | none =>
    rw [next] at passed
    rw [occurrencesFrom_of_none passed, occurrencesFrom_of_none next]
  | some found =>
    rw [next] at passed
    rw [occurrencesFrom_of_some passed, occurrencesFrom_of_some next]
    simp

end occurrencesFrom

/-- A region at the very beginning of a source is the first one. -/
theorem occurrences_of_here? {source behind : List Char} {region : Region}
    (here : Region.here? true source = some (region, behind)) :
    ∃ others, occurrences source = ⟨[], region, behind⟩ :: others := by
  have first : Region.next? (endsLine []) source = some ([], region, behind) := by
    cases source with
    | nil => cases here
    | cons c rest =>
      change Region.next? true (c :: rest) = _
      rw [Region.next?, here]
  exact ⟨_, occurrencesFrom_of_some first⟩

end StyleDoc
