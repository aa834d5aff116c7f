import StyleDoc.Text.Line

/-!
# Splitting, joining and indenting lines

Splitting undoes joining, since a text splits at each of its separators. Lines that have been
indented by one space come back when they are dedented, as long as one of them begins with text.
-/

namespace StyleDoc.Text

/-! ## Splitting and joining -/

section Split

variable {α : Type} {separator : α} {piece : List α} {pieces : List (List α)}

@[simp]
theorem join_singleton (separator : α) (piece : List α) : join separator [piece] = piece := by
  simp [join]

theorem join_cons_cons (separator : α) (piece next : List α) (pieces : List (List α)) :
    join separator (piece :: next :: pieces) =
      piece ++ separator :: join separator (next :: pieces) := by
  simp [join, List.intercalate_cons_cons]

theorem join_cons (separator : α) (piece : List α) (pieces : List (List α)) :
    join separator (piece :: pieces) = piece ++ pieces.flatMap (separator :: ·) := by
  induction pieces generalizing piece with
  | nil => simp
  | cons next pieces inductionHypothesis =>
    rw [join_cons_cons, inductionHypothesis, List.flatMap_cons, List.cons_append]

/-- The pieces that come last stand behind those before them, each after a separator. -/
theorem join_append (nonempty : pieces ≠ []) (more : List (List α)) :
    join separator (pieces ++ more) = join separator pieces ++ more.flatMap (separator :: ·) := by
  obtain ⟨piece, others, rfl⟩ := List.exists_cons_of_ne_nil nonempty
  rw [List.cons_append, join_cons, join_cons, List.flatMap_append, List.append_assoc]

/-- The pieces that come first stand before the others, each with a separator behind it. -/
theorem join_append_of_ne_nil (nonempty : pieces ≠ []) (before : List (List α)) :
    join separator (before ++ pieces) =
      before.flatMap (· ++ [separator]) ++ join separator pieces := by
  induction before with
  | nil => rfl
  | cons piece before inductionHypothesis =>
    obtain ⟨next, others, parts⟩ :=
      List.exists_cons_of_ne_nil (List.append_ne_nil_of_right_ne_nil before nonempty)
    rw [parts] at inductionHypothesis
    rw [List.cons_append, parts, join_cons_cons, inductionHypothesis, List.flatMap_cons]
    simp

theorem prefix_join (separator : α) (piece : List α) (pieces : List (List α)) :
    piece <+: join separator (piece :: pieces) := by
  cases pieces with
  | nil => exact ⟨[], by rw [join_singleton, List.append_nil]⟩
  | cons next pieces =>
    rw [join_cons_cons]
    exact List.prefix_append _ _

variable [DecidableEq α]

theorem split_of_not_mem (whole : separator ∉ piece) : split separator piece = [piece] := by
  induction piece with
  | nil => rfl
  | cons c rest inductionHypothesis =>
    rw [List.mem_cons, not_or] at whole
    rw [split, if_neg (Ne.symm whole.1), inductionHypothesis whole.2]
    rfl

theorem split_ne_nil (separator : α) (text : List α) : split separator text ≠ [] := by
  induction text with
  | nil => exact List.cons_ne_nil _ _
  | cons c rest inductionHypothesis =>
    rw [split]
    split
    · exact List.cons_ne_nil _ _
    · intro none
      exact inductionHypothesis (List.modifyHead_eq_nil_iff.1 none)

/-- A text splits at each of its separators. -/
theorem split_append (separator : α) (text rest : List α) :
    split separator (text ++ separator :: rest) = split separator text ++ split separator rest := by
  induction text with
  | nil => simp [split]
  | cons c tail inductionHypothesis =>
    rw [List.cons_append, split, split, inductionHypothesis]
    split
    · rfl
    · obtain ⟨first, others, pieces⟩ := List.exists_cons_of_ne_nil (split_ne_nil separator tail)
      rw [pieces]
      rfl

theorem split_append_cons (whole : separator ∉ piece) (rest : List α) :
    split separator (piece ++ separator :: rest) = piece :: split separator rest := by
  rw [split_append, split_of_not_mem whole]
  rfl

/-- A piece has no separator, and its characters come from the text. -/
theorem of_mem_split {text : List α} (member : piece ∈ split separator text) :
    separator ∉ piece ∧ piece ⊆ text := by
  induction text generalizing piece with
  | nil =>
    obtain rfl := List.mem_singleton.1 member
    exact ⟨List.not_mem_nil, List.nil_subset _⟩
  | cons c rest inductionHypothesis =>
    have later : ∀ {piece}, piece ∈ split separator rest → separator ∉ piece ∧ piece ⊆ c :: rest :=
      fun member => (inductionHypothesis member).imp_right (List.subset_cons_of_subset c)
    rw [split] at member
    split at member
    case isTrue =>
      rcases List.mem_cons.1 member with rfl | behind
      · exact ⟨List.not_mem_nil, List.nil_subset _⟩
      · exact later behind
    case isFalse other =>
      obtain ⟨first, others, pieces⟩ := List.exists_cons_of_ne_nil (split_ne_nil separator rest)
      rw [pieces] at member later
      rcases List.mem_cons.1 member with rfl | behind
      · obtain ⟨whole, inside⟩ := later List.mem_cons_self
        exact ⟨by simp [Ne.symm other, whole], by simp [inside]⟩
      · exact later (List.mem_cons_of_mem _ behind)

/-- Only behind a separator the last piece is empty. -/
theorem getLast?_of_split_eq_concat_nil {text : List α} (nonempty : text ≠ [])
    (last : split separator text = pieces ++ [[]]) : text.getLast? = some separator := by
  induction text generalizing pieces with
  | nil => exact absurd rfl nonempty
  | cons c rest inductionHypothesis =>
    rw [split] at last
    cases rest with
    | nil =>
      by_cases here : c = separator
      · simp [here]
      · cases pieces <;> simp [split, here] at last
    | cons d rest =>
      rw [List.getLast?_cons_cons]
      split at last
      case isTrue =>
        cases pieces with
        | nil => exact absurd (List.cons.inj last).2 (split_ne_nil _ _)
        | cons piece pieces =>
          exact inductionHypothesis (List.cons_ne_nil _ _) (List.cons.inj last).2
      case isFalse =>
        obtain ⟨first, others, same⟩ :=
          List.exists_cons_of_ne_nil (split_ne_nil separator (d :: rest))
        rw [same, List.modifyHead_cons] at last
        cases pieces with
        | nil => simp at last
        | cons piece pieces =>
          have later : split separator (d :: rest) = first :: pieces ++ [[]] := by
            rw [same, (List.cons.inj last).2]
            rfl
          exact inductionHypothesis (List.cons_ne_nil _ _) later

theorem join_split (separator : α) (text : List α) :
    join separator (split separator text) = text := by
  induction text with
  | nil => rfl
  | cons c rest inductionHypothesis =>
    obtain ⟨first, others, pieces⟩ := List.exists_cons_of_ne_nil (split_ne_nil separator rest)
    rw [pieces, join_cons] at inductionHypothesis
    rw [split, pieces]
    split
    case isTrue same => rw [join_cons, same, List.flatMap_cons, List.cons_append,
      inductionHypothesis, List.nil_append]
    case isFalse => rw [List.modifyHead_cons, join_cons, List.cons_append, inductionHypothesis]

/-- Pieces that are put behind a text come back behind the pieces of the text. -/
theorem split_append_flatMap (whole : ∀ piece ∈ pieces, separator ∉ piece) (text : List α) :
    split separator (text ++ pieces.flatMap (separator :: ·)) = split separator text ++ pieces := by
  induction pieces generalizing text with
  | nil => simp
  | cons piece pieces inductionHypothesis =>
    rw [List.forall_mem_cons] at whole
    rw [List.flatMap_cons, List.cons_append, split_append, inductionHypothesis whole.2,
      split_of_not_mem whole.1, List.singleton_append]

theorem split_join (nonempty : pieces ≠ []) (whole : ∀ piece ∈ pieces, separator ∉ piece) :
    split separator (join separator pieces) = pieces := by
  induction pieces with
  | nil => exact absurd rfl nonempty
  | cons first pieces inductionHypothesis =>
    have firstWhole := whole first List.mem_cons_self
    cases pieces with
    | nil => rw [join_singleton, split_of_not_mem firstWhole]
    | cons next pieces =>
      have restWhole : ∀ piece ∈ next :: pieces, separator ∉ piece := fun piece member =>
        whole piece (List.mem_cons_of_mem _ member)
      rw [join_cons_cons, split_append_cons firstWhole,
        inductionHypothesis (List.cons_ne_nil _ _) restWhole]

/-- A separator at the very end leaves an empty last piece. -/
theorem split_join_concat (nonempty : pieces ≠ []) (whole : ∀ piece ∈ pieces, separator ∉ piece) :
    split separator (join separator pieces ++ [separator]) = pieces ++ [[]] := by
  induction pieces with
  | nil => exact absurd rfl nonempty
  | cons first pieces inductionHypothesis =>
    have firstWhole := whole first List.mem_cons_self
    cases pieces with
    | nil =>
      rw [join_singleton, split_append_cons firstWhole]
      rfl
    | cons next pieces =>
      have restWhole : ∀ piece ∈ next :: pieces, separator ∉ piece := fun piece member =>
        whole piece (List.mem_cons_of_mem _ member)
      rw [join_cons_cons, List.append_assoc, List.cons_append, split_append_cons firstWhole,
        inductionHypothesis (List.cons_ne_nil _ _) restWhole]
      rfl

end Split

/-- A run of one class of characters has none of the others in it. -/
theorem not_mem_of_forall {p : Char → Bool} {c : Char} {run : List Char} (outside : p c = false)
    (inside : ∀ d ∈ run, p d = true) : c ∉ run := by
  intro member
  rw [inside c member] at outside
  cases outside

theorem not_mem_takeWhile {p : Char → Bool} {c : Char} (outside : p c = false) (text : List Char) :
    c ∉ text.takeWhile p :=
  not_mem_of_forall outside (List.all_eq_true.1 List.all_takeWhile)

theorem cut?_eq {c : Char} {text before behind : List Char}
    (found : cut? c text = some (before, behind)) :
    before ++ c :: behind = text ∧ c ∉ before := by
  unfold cut? at found
  split at found
  case h_1 => cases found
  case h_2 d rest dropped =>
    cases found
    have first := List.head?_dropWhile_not (· != c) text
    rw [dropped] at first
    obtain rfl : d = c := by simpa using first
    exact ⟨by rw [← dropped, List.takeWhile_append_dropWhile], not_mem_takeWhile (by simp) text⟩

theorem cut?_append_cons {c : Char} {before : List Char} (first : c ∉ before)
    (behind : List Char) : cut? c (before ++ c :: behind) = some (before, behind) := by
  have others : ∀ d ∈ before, (d != c) = true := by
    intro d member
    exact bne_iff_ne.2 fun same => first (same ▸ member)
  unfold cut?
  rw [List.dropWhile_append_of_pos others, List.takeWhile_append_of_pos others]
  simp

/-! ## Counting lines -/

@[simp]
theorem lineFeeds_nil : lineFeeds [] = 0 := rfl

@[simp]
theorem lineFeeds_lineFeed (text : List Char) : lineFeeds ('\n' :: text) = lineFeeds text + 1 :=
  List.count_cons_self

@[simp]
theorem lineFeeds_append (first second : List Char) :
    lineFeeds (first ++ second) = lineFeeds first + lineFeeds second := List.count_append

theorem lineFeeds_cons {c : Char} (inLine : c ≠ '\n') (text : List Char) :
    lineFeeds (c :: text) = lineFeeds text := List.count_cons_of_ne inLine

theorem lineFeeds_of_not_mem {text : List Char} (whole : '\n' ∉ text) : lineFeeds text = 0 :=
  List.count_eq_zero.2 whole

/-! ## Carriage returns -/

theorem dropCarriageReturn_of_not_mem {line : List Char} (none : '\r' ∉ line) :
    dropCarriageReturn line = line := by
  unfold dropCarriageReturn
  rw [if_neg]
  intro last
  exact none (List.mem_of_getLast? last)

theorem map_dropCarriageReturn {lines : List (List Char)}
    (clean : ∀ line ∈ lines, '\r' ∉ line) : lines.map dropCarriageReturn = lines := by
  conv => rhs; rw [← List.map_id lines]
  apply List.map_congr_left
  intro line member
  exact dropCarriageReturn_of_not_mem (clean line member)

/-! ## Indentation -/

theorem isSpace_of_isBlank {c : Char} (blank : isBlank c = true) : isSpace c = true := by
  have either : c = ' ' ∨ c = '\t' := by simpa [isBlank] using blank
  rcases either with rfl | rfl <;> decide

theorem indentation_cons {c : Char} (blank : isBlank c = true) (rest : List Char) :
    indentation (c :: rest) = indentation rest + 1 := by
  simp [indentation, blank]

theorem indentation_cons_space (line : List Char) :
    indentation (' ' :: line) = indentation line + 1 :=
  indentation_cons (by decide) line

/-- Blanks that are cut off the indentation are all that a line loses. -/
theorem indentation_drop {line : List Char} {width : Nat} (within : width ≤ indentation line) :
    indentation (line.drop width) = indentation line - width := by
  induction line generalizing width with
  | nil => simp [indentation]
  | cons c rest inductionHypothesis =>
    cases width with
    | zero => rfl
    | succ width =>
      have blank : isBlank c = true := by
        cases blank : isBlank c with
        | true => rfl
        | false => simp [indentation, blank] at within
      rw [indentation_cons blank] at within ⊢
      rw [List.drop_succ_cons, inductionHypothesis (by omega)]
      omega

theorem isBlank_of_mem_take {line : List Char} {width : Nat} (within : width ≤ indentation line) :
    ∀ c ∈ line.take width, isBlank c = true := by
  have inside : line.take width <+: line.takeWhile isBlank :=
    List.prefix_of_prefix_length_le (List.take_prefix _ _) (List.takeWhile_prefix _)
      (Nat.le_trans (List.length_take_le _ _) within)
  exact fun c member => List.all_eq_true.1 List.all_takeWhile c (inside.subset member)

/-- Where lines share some indentation, one of them has no more than that. -/
theorem exists_of_commonIndentation_pos {lines : List (List Char)}
    (indented : 0 < commonIndentation lines) :
    ∃ line ∈ lines, hasText line = true ∧ indentation line = commonIndentation lines := by
  unfold commonIndentation at indented ⊢
  cases least : ((lines.filter hasText).map indentation).min? with
  | none => simp [least] at indented
  | some width =>
    obtain ⟨line, kept, same⟩ := List.mem_map.1 (List.min?_eq_some_iff.1 least).1
    obtain ⟨member, text⟩ := List.mem_filter.1 kept
    exact ⟨line, member, text, same⟩

/-- A line that begins with something else than white space. -/
def isFlush (line : List Char) : Bool := line.head?.any fun c => !isSpace c

theorem isFlush_cons {c : Char} {rest : List Char} (flush : isFlush (c :: rest) = true) :
    isBlank c = false := by
  cases blank : isBlank c with
  | false => rfl
  | true =>
    have hidden := isSpace_of_isBlank blank
    simp [isFlush, hidden] at flush

theorem hasText_indented_of_isFlush {line : List Char} (flush : isFlush line = true) :
    hasText (' ' :: line) = true := by
  cases line with
  | nil => cases flush
  | cons c rest =>
    have solid := isFlush_cons flush
    rw [hasText, List.dropWhile_cons_of_pos (by decide),
      List.dropWhile_cons_of_neg (by simp [solid])]
    exact flush

theorem indentation_of_isFlush {line : List Char} (flush : isFlush line = true) :
    indentation line = 0 := by
  cases line with
  | nil => cases flush
  | cons c rest => simp [indentation, isFlush_cons flush]

theorem commonIndentation_indented {lines : List (List Char)}
    (flush : ∃ line ∈ lines, isFlush line = true) :
    commonIndentation (lines.map (' ' :: ·)) = 1 := by
  obtain ⟨line, member, visible⟩ := flush
  -- The line that begins with text has the width one, and no indented line has less.
  have least : (((lines.map (' ' :: ·)).filter hasText).map indentation).min? = some 1 := by
    rw [List.min?_eq_some_iff]
    constructor
    · have width : indentation (' ' :: line) = 1 := by
        rw [indentation_cons_space, indentation_of_isFlush visible]
      have indented : ' ' :: line ∈ lines.map (' ' :: ·) := List.mem_map.2 ⟨line, member, rfl⟩
      have kept := List.mem_filter.2 ⟨indented, hasText_indented_of_isFlush visible⟩
      exact List.mem_map.2 ⟨' ' :: line, kept, width⟩
    · intro width listed
      obtain ⟨indented, kept, rfl⟩ := List.mem_map.1 listed
      obtain ⟨other, _, rfl⟩ := List.mem_map.1 (List.mem_filter.1 kept).1
      rw [indentation_cons_space]
      omega
  rw [commonIndentation, least]
  rfl

/-- One space before every line is what `dedent` removes. -/
theorem dedent_indented {lines : List (List Char)} (flush : ∃ line ∈ lines, isFlush line = true) :
    dedent (lines.map (' ' :: ·)) = lines := by
  unfold dedent
  rw [commonIndentation_indented flush, List.map_map]
  conv => rhs; rw [← List.map_id lines]
  apply List.map_congr_left
  intro line _
  have wide : 1 ≤ indentation (' ' :: line) := by
    rw [indentation_cons_space]
    omega
  simp [wide]

/-! ## Ends of lines -/

theorem getLast?_append_of_ne_nil {first second : List Char} (nonempty : second ≠ []) :
    (first ++ second).getLast? = second.getLast? := by
  rw [List.getLast?_append, List.getLast?_eq_some_getLast nonempty, Option.some_or]

/-- A text that ends inside a line has no line feed for its last character. -/
theorem exists_concat_of_not_mem (front : List Char) {tail : List Char} (nonempty : tail ≠ [])
    (whole : '\n' ∉ tail) :
    ∃ inside last, front ++ tail = inside ++ [last] ∧ lineFeeds inside = lineFeeds front := by
  refine ⟨front ++ tail.dropLast, tail.getLast nonempty, ?_, ?_⟩
  · rw [List.append_assoc, List.dropLast_concat_getLast nonempty]
  · have none := lineFeeds_of_not_mem fun member => whole (List.dropLast_subset tail member)
    rw [lineFeeds_append, none, Nat.add_zero]

/-- Blanks are no carriage returns, so those in front of a text stay in front of it. -/
theorem dropCarriageReturn_append {blanks : List Char} (allBlank : ∀ c ∈ blanks, isBlank c = true)
    (text : List Char) :
    dropCarriageReturn (blanks ++ text) = blanks ++ dropCarriageReturn text := by
  cases text with
  | nil =>
    have noReturn : '\r' ∉ blanks := not_mem_of_forall (by decide) allBlank
    have empty : dropCarriageReturn [] = [] := rfl
    rw [List.append_nil, dropCarriageReturn_of_not_mem noReturn, empty, List.append_nil]
  | cons c rest =>
    have nonempty : c :: rest ≠ [] := List.cons_ne_nil _ _
    unfold dropCarriageReturn
    rw [getLast?_append_of_ne_nil nonempty, List.dropLast_append_of_ne_nil nonempty]
    split <;> rfl

theorem not_mem_blanks_append {blanks : List Char} (allBlank : ∀ b ∈ blanks, isBlank b = true)
    (more : List Char) (whole : '\n' ∉ more) : '\n' ∉ blanks ++ more := by
  intro member
  rcases List.mem_append.1 member with blank | later
  · exact not_mem_of_forall (by decide) allBlank blank
  · exact whole later

/-- A text that ends with its line cannot end inside a piece of a line. -/
theorem prefix_of_lineEnds {covered behind piece more : List Char}
    (ends : behind.head?.all (· == '\n') = true) (whole : '\n' ∉ piece)
    (parts : covered ++ behind = piece ++ more) : piece <+: covered := by
  rcases List.append_eq_append_iff.1 parts with ⟨left, rfl, rest⟩ | ⟨further, rfl, _⟩
  · cases left with
    | nil => simp
    | cons c left =>
      rw [rest] at ends
      have lineFeed : c = '\n' := by simpa using ends
      exact absurd (by simp [lineFeed]) whole
  · exact List.prefix_append _ _

end StyleDoc.Text
