import StyleDoc.Proofs.Coverage

/-!
# The extent of a region

A block ends with the first star and slash behind the stars that open it, which is where the comment
of the style sheet ends unless a slash stands right behind these stars. A run is made of whole lines
unless other text stands before it on its first line.
-/

namespace StyleDoc

open Text

/-! ## Lines -/

namespace Text

/-- What the text has on its last line. -/
def lastLine (text : List Char) : List Char :=
  (text.reverse.takeWhile (· != '\n')).reverse

theorem not_mem_lastLine (text : List Char) : '\n' ∉ lastLine text := by
  intro member
  have taken := List.all_eq_true.1 (List.all_takeWhile (p := (· != '\n')) (l := text.reverse)) _
    (List.mem_reverse.1 member)
  exact absurd taken (by decide)

/-- The last line of a text begins where a line ends, or at the beginning of the text. -/
theorem exists_append_lastLine (text : List Char) :
    ∃ start, start ++ lastLine text = text ∧ endsLine start = true := by
  refine ⟨(text.reverse.dropWhile (· != '\n')).reverse, ?_, ?_⟩
  · rw [lastLine, ← List.reverse_append, List.takeWhile_append_dropWhile, List.reverse_reverse]
  · have stop := List.head?_dropWhile_not (· != '\n') text.reverse
    rw [endsLine, List.getLast?_reverse]
    split at stop
    case h_1 c first => simpa [first] using stop
    case h_2 first => rw [first]; rfl

theorem lastLine_append_of_mem {more : List Char} (within : '\n' ∈ more) (text : List Char) :
    lastLine (text ++ more) = lastLine more := by
  unfold lastLine
  rw [List.reverse_append, List.takeWhile_append, if_neg]
  intro all
  have taken : more.reverse.takeWhile (· != '\n') = more.reverse :=
    (List.takeWhile_prefix _).eq_of_length all
  have whole := not_mem_lastLine more
  rw [lastLine, taken, List.reverse_reverse] at whole
  exact whole within

theorem lastLine_append_of_not_mem {more : List Char} (whole : '\n' ∉ more) (text : List Char) :
    lastLine (text ++ more) = lastLine text ++ more := by
  unfold lastLine
  rw [List.reverse_append, List.takeWhile_append_of_pos, List.reverse_append, List.reverse_reverse]
  intro c member
  simpa using fun lineFeed : c = '\n' => whole (lineFeed ▸ List.mem_reverse.1 member)

theorem endsLine_iff {text : List Char} : endsLine text = true ↔ lastLine text = [] := by
  rw [endsLine, lastLine, ← List.head?_reverse]
  cases text.reverse with
  | nil => simp
  | cons c rest =>
    by_cases lineFeed : c = '\n'
    · simp [lineFeed]
    · simp [lineFeed]

end Text

/-! ## Runs -/

/-- An address in a text, with slashes behind other characters of its line. -/
def slashedAddress : Occurrence where
  before := ['$', 'a', ':', '"', 'f', ':']
  region := .run ['/', '/', '/', 'x', '"', ';']
  behind := ['\n', '$', 'b', ':', '1', ';', '\n']

def slashedAddressSource : List Char :=
  ['$', 'a', ':', '"', 'f', ':', '/', '/', '/', 'x', '"', ';', '\n', '$', 'b', ':', '1', ';', '\n']

theorem mem_occurrences_of_next? {source gap behind : List Char} {region : Region}
    (found : Region.next? true source = some (gap, region, behind)) :
    ⟨gap, region, behind⟩ ∈ occurrences source := by
  have first : occurrences source = ⟨gap, region, behind⟩ :: occurrencesFrom _ behind :=
    occurrencesFrom_of_some found
  rw [first]
  exact List.mem_cons_self

theorem slashedAddress_mem : slashedAddress ∈ occurrences slashedAddressSource :=
  mem_occurrences_of_next? rfl

namespace Occurrence

variable {occurrence : Occurrence} {source text : List Char}

/-- The region begins a line, and every line on which it covers a place opens with slashes behind
blanks. -/
def WholeLines (source : List Char) (occurrence : Occurrence) : Prop :=
  endsLine occurrence.before = true ∧
    ∀ front rest, front ++ rest = source → occurrence.covers front.length = true →
      Region.opensRun (lastLine front ++ rest) = true

theorem StandsIn.opensRun (stands : occurrence.StandsIn source)
    (isRun : occurrence.region = .run text) :
    Region.opensRun (text ++ occurrence.behind) = true := by
  rcases Region.here?_cases stands.here with ⟨_, _, opens, _⟩ | ⟨_, _, _, _, same, _⟩
  · rwa [isRun] at opens
  · rw [isRun] at same
    cases same

/-- The slashes that open a run belong to the run. -/
theorem StandsIn.opensRun_text (stands : occurrence.StandsIn source)
    (isRun : occurrence.region = .run text) : Region.opensRun text = true := by
  have opens := stands.opensRun isRun
  rw [Region.opensRun, List.isPrefixOf_iff_prefix] at opens
  obtain ⟨more, slashes⟩ := opens
  have allBlank : ∀ b ∈ (text ++ occurrence.behind).takeWhile isBlank, isBlank b = true :=
    List.all_eq_true.1 List.all_takeWhile
  have whole := not_mem_blanks_append allBlank ['/', '/', '/'] (by decide)
  have parts : text ++ occurrence.behind =
      (text ++ occurrence.behind).takeWhile isBlank ++ ['/', '/', '/'] ++ more := by
    rw [List.append_assoc, slashes, List.takeWhile_append_dropWhile]
  obtain ⟨further, same⟩ := prefix_of_lineEnds (stands.head?_behind isRun) whole parts
  rw [← same, List.append_assoc, Region.opensRun_of_append_blanks allBlank]
  rfl

/-- Behind a line feed of the run, every line that it touches opens with slashes. -/
theorem StandsIn.opensRun_lastLine (stands : occurrence.StandsIn source)
    (isRun : occurrence.region = .run text) {covered rest : List Char}
    (parts : covered ++ rest = text ++ occurrence.behind) (short : covered.length < text.length)
    (within : '\n' ∈ covered) : Region.opensRun (lastLine covered ++ rest) = true := by
  obtain ⟨remaining, rfl⟩ : covered <+: text :=
    List.prefix_of_prefix_length_le ⟨rest, parts⟩ (List.prefix_append _ _) (Nat.le_of_lt short)
  rw [List.append_assoc, List.append_cancel_left_eq] at parts
  have nonempty : remaining ≠ [] := by
    rintro rfl
    simp at short
  obtain ⟨start, same, startEnds⟩ := exists_append_lastLine covered
  rcases List.eq_nil_or_concat start with rfl | ⟨earlier, c, rfl⟩
  · -- The line feed would stand on the last line itself.
    rw [← same, List.nil_append] at within
    exact absurd within (not_mem_lastLine covered)
  · rw [List.concat_eq_append] at same startEnds
    rw [endsLine_concat, beq_iff_eq] at startEnds
    obtain ⟨taken, left⟩ := stands.cutRun_eq isRun
    have lines : covered ++ remaining = earlier ++ '\n' :: (lastLine covered ++ remaining) := by
      conv => lhs; rw [← same, startEnds]
      simp
    have opens := Region.opensRun_of_cutRun_eq (taken.trans lines)
      (List.append_ne_nil_of_right_ne_nil _ nonempty)
    rw [left] at opens
    rwa [parts, ← List.append_assoc]

/-- A run behind nothing but blanks on its line begins with these blanks. -/
theorem endsLine_before (found : occurrence ∈ occurrences source)
    (isRun : occurrence.region = .run text)
    (blank : ∀ c ∈ lastLine occurrence.before, isBlank c = true) :
    endsLine occurrence.before = true := by
  have stands := standsIn_of_mem found
  obtain ⟨start, same, startEnds⟩ := exists_append_lastLine occurrence.before
  -- At the beginning of the line a region can begin, so some region covers that place.
  have opens :
      Region.opensRun (lastLine occurrence.before ++ (text ++ occurrence.behind)) = true := by
    rw [Region.opensRun_of_append_blanks blank]
    exact stands.opensRun isRun
  have parts : start ++ (lastLine occurrence.before ++ (text ++ occurrence.behind)) = source := by
    rw [← List.append_assoc, same, ← stands.whole, isRun, Region.text, List.append_assoc]
  obtain ⟨other, member, covered⟩ := exists_covers_of_here? parts (if_pos opens)
  -- It goes on through the blanks to this region, and so it is this one.
  have reaches : other.covers occurrence.before.length = true := by
    obtain ⟨c, more, begun, inLine⟩ := Region.exists_eq_cons_of_opensRun (stands.opensRun isRun)
    rw [begun, ← List.append_assoc] at parts
    rw [← same]
    exact (standsIn_of_mem member).covers_behind_blanks parts blank inLine covered
  have begins : occurrence.covers occurrence.before.length = true := by
    have nonempty := List.length_pos_iff.2 stands.ne_nil
    rw [covers_iff, through, List.length_append]
    omega
  have equal := eq_of_covers found member begins reaches
  rw [← equal, covers_iff] at covered
  have short : occurrence.before.length ≤ start.length := covered.1
  rw [← same, List.length_append] at short
  rw [endsLine_iff]
  exact List.length_eq_zero_iff.1 (by omega)

/-- On a line behind its first one every place that a run covers has slashes at the beginning of
the line. -/
theorem StandsIn.opensRun_of_lineFeed (stands : occurrence.StandsIn source)
    (isRun : occurrence.region = .run text) {covered rest : List Char}
    (parts : occurrence.before ++ covered ++ rest = source)
    (inside : occurrence.covers (occurrence.before ++ covered).length = true)
    (within : '\n' ∈ covered) :
    Region.opensRun (lastLine (occurrence.before ++ covered) ++ rest) = true := by
  rw [lastLine_append_of_mem within]
  rw [covers_iff, through, isRun, Region.text, List.length_append, List.length_append] at inside
  refine stands.opensRun_lastLine isRun ?_ (by omega) within
  rw [← stands.whole, isRun, Region.text, List.append_assoc, List.append_assoc] at parts
  exact List.append_cancel_left parts

theorem StandsIn.wholeLines (stands : occurrence.StandsIn source)
    (isRun : occurrence.region = .run text) (atLineStart : endsLine occurrence.before = true) :
    WholeLines source occurrence := by
  refine ⟨atLineStart, ?_⟩
  intro front rest parts inside
  obtain ⟨covered, rfl⟩ : occurrence.before <+: front := by
    rw [covers_iff] at inside
    refine List.prefix_of_prefix_length_le ?_ ⟨rest, parts⟩ inside.1
    exact ⟨occurrence.region.text ++ occurrence.behind, by rw [← stands.whole, List.append_assoc]⟩
  by_cases within : '\n' ∈ covered
  · exact stands.opensRun_of_lineFeed isRun parts inside within
  · rw [lastLine_append_of_not_mem within, endsLine_iff.1 atLineStart, List.nil_append]
    rw [← stands.whole, isRun, Region.text, List.append_assoc, List.append_assoc] at parts
    rw [List.append_cancel_left parts]
    exact stands.opensRun isRun

end Occurrence

/-- A run begins with slashes behind blanks, and so does each of its further lines; the run is made
of whole lines unless other text stands before it on its first one. -/
theorem run_wholeLines {source text : List Char} {occurrence : Occurrence}
    (found : occurrence ∈ occurrences source) (isRun : occurrence.region = .run text) :
    Region.opensRun text = true ∧
    (∀ covered rest, occurrence.before ++ covered ++ rest = source →
      occurrence.covers (occurrence.before ++ covered).length = true → '\n' ∈ covered →
        Region.opensRun (lastLine (occurrence.before ++ covered) ++ rest) = true) ∧
    (occurrence.WholeLines source ↔ ∀ c ∈ lastLine occurrence.before, isBlank c = true) := by
  have stands := standsIn_of_mem found
  refine ⟨stands.opensRun_text isRun, ?_, ?_, ?_⟩
  · intro covered rest parts inside within
    exact stands.opensRun_of_lineFeed isRun parts inside within
  · intro whole
    simp [endsLine_iff.1 whole.1]
  · intro blank
    exact stands.wholeLines isRun (Occurrence.endsLine_before found isRun blank)

theorem run_wholeLines_behind_code :
    slashedAddress ∈ occurrences slashedAddressSource ∧
    (slashedAddress.WholeLines slashedAddressSource ↔
      ∀ c ∈ lastLine slashedAddress.before, isBlank c = true) :=
  ⟨slashedAddress_mem, (run_wholeLines slashedAddress_mem rfl).2.2⟩

/-- Slashes behind other text make a run as well. -/
theorem not_forall_wholeLines : ¬ ∀ source, ∀ occurrence ∈ occurrences source, ∀ text,
    occurrence.region = .run text → occurrence.WholeLines source := by
  intro all
  have whole := all _ slashedAddress slashedAddress_mem _ rfl
  exact absurd whole.1 (by decide)

/-! ## Blocks -/

/-- The text ends with a star and a slash and has none before. -/
def ClosesOnce (text : List Char) : Prop :=
  ∃ inner, text = inner ++ ['*', '/'] ∧ ¬ ['*', '/'] <:+: inner ++ ['*']

/-- One more star in front closes the text at once if a slash follows, and never otherwise. -/
theorem closesOnce_star_cons {text : List Char} (once : ClosesOnce text) :
    ClosesOnce ('*' :: text) ↔ text.head? ≠ some '/' := by
  obtain ⟨inner, rfl, clean⟩ := once
  constructor
  · rintro ⟨other, same, otherClean⟩ slash
    apply otherClean
    have sameInner : other = '*' :: inner := by
      rw [← List.cons_append] at same
      exact (List.append_cancel_right same).symm
    rw [sameInner]
    cases inner with
    | nil => cases slash
    | cons c inner =>
      have first : c = '/' := by simpa using slash
      subst first
      exact ⟨[], inner ++ ['*'], by simp⟩
  · intro noSlash
    refine ⟨'*' :: inner, rfl, fun inside => ?_⟩
    rcases List.infix_cons_iff.1 inside with atFront | later
    · obtain ⟨_, more, same⟩ := List.cons_prefix_cons.1 atFront
      cases inner with
      | nil => cases same
      | cons c inner => exact noSlash (by simp [(List.cons.inj same).1.symm])
    · exact clean later

theorem closesOnce_of_untilClose? {text body stars rest : List Char}
    (closed : Region.untilClose? text = some (body, stars, rest)) :
    ClosesOnce (body ++ stars ++ ['/']) := by
  have clean := Region.untilClose?_first closed
  obtain ⟨more, rfl⟩ := Region.exists_star_of_untilClose? closed
  exact ⟨body ++ more, by simp, by simpa using clean⟩

/-- A block begins a line, behind blanks, and ends with the first star and slash behind the two
stars that open it. Counted from the first of these stars it is the first one too, unless a slash
follows the second star. -/
theorem block_closesOnce {source indent body stars : List Char} {occurrence : Occurrence}
    (found : occurrence ∈ occurrences source)
    (isBlock : occurrence.region = .block indent body stars) :
    endsLine occurrence.before = true ∧ (∀ c ∈ indent, isBlank c = true) ∧
    ∃ inside, occurrence.region.text = indent ++ ['/', '*', '*'] ++ inside ∧ ClosesOnce inside ∧
      (ClosesOnce ('*' :: inside) ↔ inside.head? ≠ some '/') := by
  rcases Region.here?_cases (standsIn_of_mem found).here with
    ⟨_, isRun, _⟩ | ⟨_, _, _, inside, same, atLineStart, _, allBlank, closed⟩
  · rw [isBlock] at isRun
    cases isRun
  · rw [isBlock] at same
    cases same
    have once := closesOnce_of_untilClose? closed
    refine ⟨atLineStart, allBlank, body ++ stars ++ ['/'], ?_, once, closesOnce_star_cons once⟩
    rw [isBlock, Region.text]
    simp

theorem block_closesOnce_stars :
    (⟨['a', '\n'], .block [' '] ['*', ' ', 'b', '/'] ['*', '*'], ['c', '*', '/']⟩ : Occurrence) ∈
      occurrences
        ['a', '\n', ' ', '/', '*', '*', '*', ' ', 'b', '/', '*', '*', '/', 'c', '*', '/'] ∧
    ∃ inside, [' ', '/', '*', '*', '*', ' ', 'b', '/', '*', '*', '/'] =
        [' '] ++ ['/', '*', '*'] ++ inside ∧
      ClosesOnce inside ∧ (ClosesOnce ('*' :: inside) ↔ inside.head? ≠ some '/') :=
  have found := mem_occurrences_of_next? rfl
  ⟨found, (block_closesOnce found rfl).2.2⟩

/-- An empty comment of the style sheet is not closed by its own star and slash. -/
theorem not_forall_closesOnce : ¬ ∀ source, ∀ occurrence ∈ occurrences source,
    ∀ indent body stars, occurrence.region = .block indent body stars →
      ∃ inside, occurrence.region.text = indent ++ ['/', '*'] ++ inside ∧ ClosesOnce inside := by
  intro all
  obtain ⟨inside, same, inner, rfl, clean⟩ := all
    ['/', '*', '*', '/', 'a', '{', '}', '\n', '/', '*', 'b', '*', '/']
    ⟨[], .block [] ['/', 'a', '{', '}', '\n', '/', '*', 'b'] ['*'], []⟩
    (mem_occurrences_of_next? rfl) _ _ _ rfl
  have taken : ['*', '/', 'a', '{', '}', '\n', '/', '*', 'b'] ++ ['*', '/'] = inner ++ ['*', '/'] :=
    (List.cons.inj (List.cons.inj same).2).2
  rw [← List.append_cancel_right taken] at clean
  exact clean ⟨[], ['a', '{', '}', '\n', '/', '*', 'b', '*'], rfl⟩

end StyleDoc
