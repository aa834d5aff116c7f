import StyleDoc.Proofs.Occurrences
import StyleDoc.Proofs.Wording

/-!
# Reading comments that have been written

A list of lines can be written as a comment in two forms, each of which can make an ordinary comment
or a poster. Whatever the lines say, as long as they do not end a block, reading gives them back.
-/

namespace StyleDoc

open Text

/-! ## Writing -/

/-- The two forms of comments. -/
inductive CommentForm where
  | run
  | block
deriving DecidableEq, Repr

namespace CommentForm

/-- The line in front of a run that makes it a poster. -/
def posterLine : Role → List (List Char)
  | .ordinary => []
  | .poster => [['/', '/', '/', '/']]

def slashed (line : List Char) : List Char := '/' :: '/' :: '/' :: ' ' :: line

def starred (line : List Char) : List Char := ' ' :: '*' :: ' ' :: line

/-- The stars in front of the slash that ends a block. -/
def closingStars : Role → List Char
  | .ordinary => ['*']
  | .poster => ['*', '*']

/-- The lines of a run with their slashes. -/
def marked (role : Role) (lines : List (List Char)) : List (List Char) :=
  posterLine role ++ lines.map slashed

/-- The text between the stars that open a block and the stars that close it. -/
def blockBody (lines : List (List Char)) : List Char :=
  '\n' :: joinLines (lines.map starred) ++ ['\n', ' ']

/-- The comment of these lines. A run goes to the end of its last line, a block to its slash. -/
def write (form : CommentForm) (role : Role) (lines : List (List Char)) : List Char :=
  match form with
  | run => joinLines (marked role lines) ++ ['\n']
  | block => ['/', '*', '*'] ++ blockBody lines ++ closingStars role ++ ['/']

end CommentForm

/-- Lines that can be written: none of them breaks or ends a comment, and one begins with text, so
that the others keep their indentation. -/
structure Writable (lines : List (List Char)) : Prop where
  whole : ∀ line ∈ lines, '\n' ∉ line
  clean : ∀ line ∈ lines, '\r' ∉ line
  continued : ∀ line ∈ lines, ¬ ['*', '/'] <:+: line
  flush : ∃ line ∈ lines, isFlush line = true

theorem Writable.ne_nil {lines : List (List Char)} (writable : Writable lines) : lines ≠ [] := by
  obtain ⟨line, listed, _⟩ := writable.flush
  exact List.ne_nil_of_mem listed

/-- The declaration without its line numbers. -/
def Declaration.forgetLines : Declaration → Declaration
  | block form name body _ => block form name body none
  | var name value scope _ => var name value scope none
  | unknown => unknown

/-! ## Declarations behind comments -/

namespace Declaration

theorem forgetLines_eq (declaration : Declaration) :
    declaration.forgetLines = declaration.mapLines fun _ => none := by
  cases declaration <;> rfl

theorem forgetLines_ofText (text : List Char) (start : Option Nat) :
    (ofText text start).forgetLines = ofText text none := by
  rw [forgetLines_eq]
  exact mapLines_ofText (fun _ => rfl) text

/-- What the code declares does not depend on the line on which it begins. -/
theorem forgetLines_read (code : List Char) (line : Option Nat) :
    (read code line).forgetLines = read code none :=
  forgetLines_ofText (trimStart code) _

/-- A line feed in front of the code moves the declaration to the next line. -/
theorem read_lineFeed (code : List Char) (line : Nat) :
    read ('\n' :: code) (some line) = read code (some (line + 1)) := by
  have space : isSpace '\n' = true := by decide
  exact read_append (List.forall_mem_singleton.2 space) code (some line)

end Declaration

/-! ## The lines of a run -/

section Run

variable {lines : List (List Char)}

/-- A last line that has characters counts as well as the others. -/
theorem runLines_joinLines (nonempty : lines ≠ []) (whole : ∀ line ∈ lines, '\n' ∉ line)
    (clean : ∀ line ∈ lines, '\r' ∉ line) (visible : ∀ line ∈ lines, line ≠ []) :
    runLines (joinLines lines) = lines := by
  have lastVisible : lines.getLast nonempty ≠ [] := visible _ (List.getLast_mem nonempty)
  have frontClean : ∀ line ∈ lines.dropLast, '\r' ∉ line := fun line member =>
    clean line (List.dropLast_subset lines member)
  unfold runLines splitLines joinLines
  rw [split_join nonempty whole]
  dsimp only
  rw [List.getLast?_eq_some_getLast nonempty, map_dropCarriageReturn frontClean]
  simp [lastVisible, List.dropLast_concat_getLast nonempty]

/-- The empty piece behind the last line feed is no line. -/
theorem runLines_joinLines_lineFeed (nonempty : lines ≠ []) (whole : ∀ line ∈ lines, '\n' ∉ line)
    (clean : ∀ line ∈ lines, '\r' ∉ line) : runLines (joinLines lines ++ ['\n']) = lines := by
  unfold runLines splitLines joinLines
  rw [split_join_concat nonempty whole]
  simp [map_dropCarriageReturn clean]

end Run

/-! ## The region that has been written -/

namespace CommentForm

variable {lines : List (List Char)}

/-! ### Runs -/

/-- What holds of the line of four slashes and of each slashed line. -/
theorem forall_mem_marked {property : List Char → Prop} (role : Role)
    (four : property ['/', '/', '/', '/']) (each : ∀ line ∈ lines, property (slashed line)) :
    ∀ line ∈ marked role lines, property line := by
  intro line member
  rcases List.mem_append.1 member with inFront | slashedLine
  · cases role with
    | ordinary => cases inFront
    | poster => rwa [List.mem_singleton.1 inFront]
  · obtain ⟨plain, listed, rfl⟩ := List.mem_map.1 slashedLine
    exact each plain listed

theorem not_mem_marked (role : Role) {c : Char} (noSlash : c ≠ '/') (noSpace : c ≠ ' ')
    (absent : ∀ line ∈ lines, c ∉ line) : ∀ line ∈ marked role lines, c ∉ line :=
  forall_mem_marked role (by simp [noSlash]) fun line listed => by
    simp [slashed, noSlash, noSpace, absent line listed]

theorem opensRun_of_mem_marked (role : Role) (lines : List (List Char)) :
    ∀ line ∈ marked role lines, Region.opensRun line = true :=
  forall_mem_marked role rfl fun _ _ => rfl

theorem marked_eq_cons (role : Role) (nonempty : lines ≠ []) :
    ∃ first others, marked role lines = first :: others :=
  List.exists_cons_of_ne_nil (List.append_ne_nil_of_right_ne_nil _ (by simpa using nonempty))

theorem opensRun_write (role : Role) (nonempty : lines ≠ []) (following : List Char) :
    Region.opensRun (run.write role lines ++ following) = true := by
  have opens := opensRun_of_mem_marked role lines
  obtain ⟨first, others, same⟩ := marked_eq_cons role nonempty
  rw [same] at opens
  rw [write, same, List.append_assoc]
  exact Region.opensRun_joinLines (opens first List.mem_cons_self) others _

/-- The run takes the last line feed along or leaves it to the code. -/
theorem cutRun_write (role : Role) (nonempty : lines ≠ []) (whole : ∀ line ∈ lines, '\n' ∉ line)
    {following : List Char} (ends : Region.opensRun following = false) :
    Region.cutRun (run.write role lines ++ following) = (run.write role lines, following) ∨
      Region.cutRun (run.write role lines ++ following) =
        (joinLines (marked role lines), '\n' :: following) := by
  have markedWhole := not_mem_marked role (by decide) (by decide) whole
  have opens := opensRun_of_mem_marked role lines
  have cut : Region.cutRun (joinLines (marked role lines) ++ '\n' :: following) =
      (joinLines (marked role lines) ++ (Region.cutRun ('\n' :: following)).1,
        (Region.cutRun ('\n' :: following)).2) := by
    obtain ⟨first, others, same⟩ := marked_eq_cons role nonempty
    rw [same] at markedWhole opens ⊢
    exact Region.cutRun_joinLines (markedWhole first List.mem_cons_self)
      (fun line member => markedWhole line (List.mem_cons_of_mem _ member))
      (fun line member => opens line (List.mem_cons_of_mem _ member)) _
  rw [write, List.append_assoc, List.singleton_append, cut, Region.cutRun_lineFeed ends]
  split
  case isTrue => exact .inl rfl
  case isFalse => exact .inr (by rw [List.append_nil])

/-- A run begins with its first slash, since a slash is not white space. -/
theorem runRole_marked (role : Role) (nonempty : lines ≠ []) (tail : List Char) :
    runRole (joinLines (marked role lines) ++ tail) = role := by
  have slash : isSpace '/' = false := by decide
  have begins : ∀ (opening : List Char) (others : List (List Char)),
      ∃ more, joinLines (opening :: others) ++ tail = opening ++ more := by
    intro opening others
    obtain ⟨rest, same⟩ := prefix_join '\n' opening others
    exact ⟨rest ++ tail, by rw [joinLines, ← same, List.append_assoc]⟩
  unfold runRole marked
  cases role with
  | ordinary =>
    obtain ⟨first, others, rfl⟩ := List.exists_cons_of_ne_nil nonempty
    obtain ⟨more, same⟩ := begins (slashed first) (others.map slashed)
    rw [posterLine, List.nil_append, List.map_cons, same]
    simp [slashed, trimStart, slash]
  | poster =>
    obtain ⟨more, same⟩ := begins ['/', '/', '/', '/'] (lines.map slashed)
    rw [posterLine, List.singleton_append, same]
    simp [trimStart, slash]

/-- A run gives its lines back whatever it ends with. -/
theorem slashedLines_of_runLines {run : List Char} {role : Role} (writable : Writable lines)
    (sameLines : runLines run = marked role lines) (sameRole : runRole run = role) :
    slashedLines run = lines := by
  -- The line of four slashes is left out, and each other line keeps the space behind its slashes.
  have unmarked : (if runRole run = .poster then ((runLines run).map dropSlashes).tail
      else (runLines run).map dropSlashes) = lines.map (' ' :: ·) := by
    rw [sameLines, sameRole, marked, List.map_append, List.map_map]
    cases role with
    | ordinary => rfl
    | poster => rfl
  have indentedWhole : ∀ line ∈ lines.map (' ' :: ·), '\n' ∉ line := by
    intro indented member
    obtain ⟨line, listed, rfl⟩ := List.mem_map.1 member
    simp [writable.whole line listed]
  unfold slashedLines splitLines joinLines
  dsimp only
  rw [unmarked, split_join (by simpa using writable.ne_nil) indentedWhole,
    dedent_indented writable.flush, map_dropCarriageReturn writable.clean]

/-! ### Blocks -/

theorem blockInterior_blockBody (nonempty : lines ≠ []) :
    blockInterior (blockBody lines) = joinLines (lines.map starred) := by
  obtain ⟨first, others, rfl⟩ := List.exists_cons_of_ne_nil nonempty
  obtain ⟨rest, same⟩ := prefix_join '\n' (starred first) (others.map starred)
  obtain ⟨more, begins⟩ : ∃ more, joinLines ((first :: others).map starred) = ' ' :: more :=
    ⟨'*' :: ' ' :: first ++ rest, by rw [List.map_cons, joinLines, ← same]; rfl⟩
  have noBreak : isLineBreak ' ' = false := by decide
  have lineFeed : isLineBreak '\n' = true := by decide
  have firstLine : FirstLine [] ['\n'] (joinLines ((first :: others).map starred) ++ ['\n', ' ']) :=
    ⟨by simp, by simp, by simp [lineFeed], by rw [begins]; simp [noBreak]⟩
  exact (Interior.between firstLine lineFeed (by simp [noBreak])).blockInterior_eq

theorem blockLines_blockBody (writable : Writable lines) :
    blockLines (blockBody lines) = lines := by
  have starredWhole : ∀ line ∈ lines.map starred, '\n' ∉ line := by
    intro indented member
    obtain ⟨line, listed, rfl⟩ := List.mem_map.1 member
    simp [starred, writable.whole line listed]
  have unstarred : (splitLines (joinLines (lines.map starred))).map dropStar =
      lines.map (' ' :: ·) := by
    unfold splitLines joinLines
    rw [split_join (by simpa using writable.ne_nil) starredWhole, List.map_map]
    rfl
  unfold blockLines
  rw [blockInterior_blockBody writable.ne_nil, unstarred, dedent_indented writable.flush,
    map_dropCarriageReturn writable.clean]

theorem untilClose?_closingStars (role : Role) (following : List Char) :
    Region.untilClose? (closingStars role ++ '/' :: following) =
      some ([], closingStars role, following) := by
  cases role with
  | ordinary => rfl
  | poster => rfl

theorem untilClose?_blockBody (role : Role) (writable : Writable lines) (following : List Char) :
    Region.untilClose? (blockBody lines ++ (closingStars role ++ '/' :: following)) =
      some (blockBody lines, closingStars role, following) := by
  -- The star in front of a line has a space behind it, so it cannot end the block with the line.
  have continued : ∀ line ∈ lines.map starred, ¬ ['*', '/'] <:+: line := by
    intro indented member inside
    obtain ⟨line, listed, rfl⟩ := List.mem_map.1 member
    apply writable.continued line listed
    simpa [starred, List.infix_cons_iff, List.cons_prefix_cons] using inside
  obtain ⟨first, others, same⟩ : ∃ first others, lines.map starred = first :: others :=
    List.exists_cons_of_ne_nil (by simpa using writable.ne_nil)
  unfold blockBody
  rw [same] at continued ⊢
  simp only [List.cons_append, List.append_assoc, List.nil_append]
  rw [Region.untilClose?_cons (by decide), Region.untilClose?_joinLines continued,
    Region.untilClose?_cons (by decide), untilClose?_closingStars]
  simp

theorem block?_write (role : Role) (writable : Writable lines) (following : List Char) :
    Region.block? (block.write role lines ++ following) =
      some (.block [] (blockBody lines) (closingStars role), following) := by
  have written : block.write role lines ++ following =
      '/' :: '*' :: '*' :: (blockBody lines ++ (closingStars role ++ '/' :: following)) := by
    simp [write]
  have solid : isBlank '/' = false := by decide
  unfold Region.block?
  rw [written, List.dropWhile_cons_of_neg (by simp [solid]),
    List.takeWhile_cons_of_neg (by simp [solid])]
  show (Region.untilClose? (blockBody lines ++ (closingStars role ++ '/' :: following))).map _ = _
  rw [untilClose?_blockBody role writable]
  rfl

/-! ### Both forms -/

/-- The text begins with a region that has these lines and this role, and the code behind the region
is read as the code that follows the comment. -/
structure BeginsWith (form : CommentForm) (role : Role) (lines : List (List Char))
    (following : List Char) (region : Region) (behind : List Char) : Prop where
  here : Region.here? true (form.write role lines ++ following) = some (region, behind)
  sameLines : region.lines = lines
  sameRole : region.role = role
  sameDeclaration : Declaration.read behind (some (lineCount region.text)) =
    Declaration.read following (some (lineCount (form.write role lines)))

theorem exists_beginsWith_run (role : Role) (writable : Writable lines) {following : List Char}
    (ends : Region.opensRun following = false) :
    ∃ region behind, BeginsWith run role lines following region behind := by
  have opened := opensRun_write role writable.ne_nil following
  have nonempty : marked role lines ≠ [] := by
    obtain ⟨first, others, same⟩ := marked_eq_cons role writable.ne_nil
    exact same ▸ List.cons_ne_nil first others
  have whole := not_mem_marked role (by decide) (by decide) writable.whole
  have clean := not_mem_marked role (by decide) (by decide) writable.clean
  rcases cutRun_write role writable.ne_nil writable.whole ends with cut | cut
  · have sameRole := runRole_marked role writable.ne_nil ['\n']
    refine ⟨.run (run.write role lines), following, ?_, ?_, sameRole, rfl⟩
    · rw [Region.here?, if_pos opened, cut]
    · exact slashedLines_of_runLines writable (runLines_joinLines_lineFeed nonempty whole clean)
        sameRole
  · have sameRole := runRole_marked role writable.ne_nil []
    rw [List.append_nil] at sameRole
    have visible : ∀ line ∈ marked role lines, line ≠ [] :=
      forall_mem_marked role (by decide) fun _ _ => List.cons_ne_nil _ _
    refine ⟨.run (joinLines (marked role lines)), '\n' :: following, ?_, ?_, sameRole, ?_⟩
    · rw [Region.here?, if_pos opened, cut]
    · exact slashedLines_of_runLines writable (runLines_joinLines nonempty whole clean visible)
        sameRole
    · have counted : lineCount (run.write role lines) =
          lineCount (joinLines (marked role lines)) + 1 := by
        simp [write, lineCount, lineFeeds, Nat.add_assoc]
      rw [counted]
      exact Declaration.read_lineFeed following _

theorem beginsWith_block (role : Role) (writable : Writable lines) (following : List Char) :
    BeginsWith block role lines following (.block [] (blockBody lines) (closingStars role))
      following where
  here := by
    have noRun : Region.opensRun (block.write role lines ++ following) = false := rfl
    rw [Region.here?, if_neg (by simp [noRun]), if_pos rfl, block?_write role writable]
  sameLines := blockLines_blockBody writable
  sameRole := by
    cases role with
    | ordinary => rfl
    | poster => rfl
  sameDeclaration := rfl

end CommentForm

/-! ## Reading back -/

namespace Comment

/-- The first comment of a source that begins with a written comment says what has been written and
documents the code behind it. A line with slashes behind a run would belong to the run. -/
theorem extract_write (form : CommentForm) (role : Role) {lines : List (List Char)}
    (writable : Writable lines) (following : List Char)
    (ends : form = .run → Region.opensRun following = false) :
    ∃ comment others, extract (form.write role lines ++ following) = comment :: others ∧
      comment.lines = groupLines lines ∧ comment.role = role ∧
      comment.declaration =
        Declaration.read following (some (lineCount (form.write role lines))) ∧
      comment.declaration.forgetLines = Declaration.read following none := by
  obtain ⟨region, behind, begins⟩ :
      ∃ region behind, CommentForm.BeginsWith form role lines following region behind := by
    cases form with
    | run => exact CommentForm.exists_beginsWith_run role writable (ends rfl)
    | block => exact ⟨_, _, CommentForm.beginsWith_block role writable following⟩
  obtain ⟨others, found⟩ := occurrences_of_here? begins.here
  have declared : (ofOccurrence ⟨[], region, behind⟩).declaration =
      Declaration.read following (some (lineCount (form.write role lines))) :=
    begins.sameDeclaration
  refine ⟨ofOccurrence ⟨[], region, behind⟩, others.map ofOccurrence, ?_, ?_, begins.sameRole,
    declared, ?_⟩
  · rw [extract_eq, found, List.map_cons]
  · exact congrArg groupLines begins.sameLines
  · rw [declared, Declaration.forgetLines_read]

/-- Marks of comments in the lines of a poster are text. -/
theorem extract_write_marks :
    ∃ comment others,
      extract "////\n///   /** Pads.\n/// \n/// * /// n\n/// @return 2\n@function f() {}".toList =
        comment :: others ∧
      comment.lines = ["  /** Pads.", "", "* /// n", "@return 2"].map String.toList ∧
      comment.role = .poster ∧ comment.declaration.forgetLines = .block .function "f" "" none := by
  have writable : Writable (["  /** Pads.", "", "* /// n", "@return 2"].map String.toList) :=
    ⟨by decide, by decide, by simp [List.infix_cons_iff], by decide⟩
  obtain ⟨comment, others, found, sameLines, sameRole, _, declared⟩ :=
    extract_write .run .poster writable "@function f() {}".toList fun _ => rfl
  have written : CommentForm.run.write .poster
        (["  /** Pads.", "", "* /// n", "@return 2"].map String.toList) ++
          "@function f() {}".toList =
      "////\n///   /** Pads.\n/// \n/// * /// n\n/// @return 2\n@function f() {}".toList := by
    decide
  rw [written] at found
  refine ⟨comment, others, found, ?_, sameRole, ?_⟩
  · rw [sameLines]
    decide
  · rw [declared]
    rfl

end Comment

end StyleDoc
