import StyleDoc.Proofs.Coverage
import StyleDoc.Proofs.Declaration
import StyleDoc.Proofs.Offsets

/-!
# Lines of declarations

The lines of a declaration are those of its first and its last character in the source. No comment
begins between another comment and the declaration behind it, so the declarations of a source stand
in the order of their comments.
-/

namespace StyleDoc

open Text

/-! ## Declarations in a source -/

namespace Occurrence

variable {occurrence : Occurrence} {source : List Char}

/-- The source up to the first character behind the region that is not white space. -/
def front (occurrence : Occurrence) : List Char :=
  occurrence.through ++ occurrence.behind.takeWhile isSpace

/-- The source from that character on. -/
def code (occurrence : Occurrence) : List Char := trimStart occurrence.behind

/-- The declaration of the comment. -/
def declaration (occurrence : Occurrence) : Declaration :=
  (Comment.ofOccurrence occurrence).declaration

theorem declaration_eq (occurrence : Occurrence) :
    occurrence.declaration = .ofText occurrence.code (some (lineCount occurrence.front)) := by
  unfold declaration Comment.ofOccurrence Declaration.read
  simp only [front, code, lineCount, lineFeeds_append, Option.map_some, Nat.add_assoc]

theorem StandsIn.front_append_code (stands : occurrence.StandsIn source) :
    occurrence.front ++ occurrence.code = source := by
  rw [front, code, trimStart, List.append_assoc, List.takeWhile_append_dropWhile]
  exact stands.through_append

/-- What is declared begins with a sigil. -/
theorem exists_code_eq (declared : occurrence.declaration ≠ .unknown) :
    ∃ (sigil : Declaration.Sigil) (rest : List Char), occurrence.code = sigil.char :: rest := by
  rw [declaration_eq] at declared
  rcases Declaration.ofText_cases occurrence.code with none | ⟨header, found, _⟩
  · exact absurd (none _) declared
  · obtain ⟨rest, begun, _⟩ := Declaration.Header.ofText?_eq_some found
    exact ⟨header.sigil, rest, begun⟩

end Occurrence

/-! ## Order of declarations -/

/-- A region begins with a slash behind blanks. -/
theorem Region.exists_slash {atLineStart : Bool} {source rest : List Char} {region : Region}
    (found : here? atLineStart source = some (region, rest)) :
    ∃ blanks more, source = blanks ++ '/' :: more ∧ ∀ b ∈ blanks, isBlank b = true := by
  rcases here?_cases found with ⟨_, _, opens, _⟩ | ⟨indent, _, _, _, _, _, parts, allBlank, _⟩
  · unfold opensRun at opens
    obtain ⟨more, begun⟩ := List.isPrefixOf_iff_prefix.1 opens
    refine ⟨source.takeWhile isBlank, '/' :: '/' :: more, ?_, List.all_eq_true.1 List.all_takeWhile⟩
    conv => lhs; rw [← List.takeWhile_append_dropWhile (p := isBlank) (l := source), ← begun]
    rfl
  · exact ⟨indent, _, parts, allBlank⟩

namespace Occurrence

variable {first second : Occurrence} {source : List Char}

/-- The next comment begins behind the first character of what has been declared, since white space
and a sigil do not make a comment. -/
theorem StandsIn.exists_front_eq (stands : first.StandsIn source)
    (standsBehind : second.StandsIn source) (ordered : first.through <+: second.before)
    (declared : first.declaration ≠ .unknown) :
    ∃ more, more ≠ [] ∧ second.front = first.front ++ more := by
  obtain ⟨gap, before⟩ := ordered
  have parts : first.behind.takeWhile isSpace ++ first.code =
      gap ++ (second.region.text ++ second.behind) := by
    have whole := standsBehind.whole
    rw [← before, ← stands.front_append_code, front, List.append_assoc, List.append_assoc,
      List.append_assoc] at whole
    exact (List.append_cancel_left whole).symm
  -- The region begins at the declaration or behind, or still in the white space before it.
  rcases List.append_eq_append_iff.1 parts with ⟨passed, rfl, _⟩ | ⟨space, lead, region⟩
  · refine ⟨passed ++ second.region.text ++ second.behind.takeWhile isSpace, ?_, ?_⟩
    · simp [standsBehind.ne_nil]
    · simp [front, through, ← before]
  · exfalso
    obtain ⟨sigil, rest, begun⟩ := exists_code_eq declared
    obtain ⟨blanks, more, slashed, allBlank⟩ := Region.exists_slash standsBehind.here
    have allSpace : ∀ c ∈ space, isSpace c = true := by
      intro c member
      refine List.all_eq_true.1 (List.all_takeWhile (p := isSpace) (l := first.behind)) c ?_
      rw [lead]
      exact List.mem_append_right _ member
    -- Behind the same white space stand the sigil and the slash of the region.
    have sigilSolid : isSpace sigil.char = false := by cases sigil <;> decide
    have slashSolid : isSpace '/' = false := by decide
    have same : space ++ sigil.char :: rest = blanks ++ '/' :: more := by
      rw [← begun, ← region, slashed]
    have trimmed := congrArg trimStart same
    unfold trimStart at trimmed
    rw [List.dropWhile_append_of_pos allSpace,
      List.dropWhile_append_of_pos fun b member => isSpace_of_isBlank (allBlank b member),
      List.dropWhile_cons_of_neg (by simp [sigilSolid]),
      List.dropWhile_cons_of_neg (by simp [slashSolid])] at trimmed
    have noSlash : sigil.char ≠ '/' := by cases sigil <;> decide
    exact noSlash (List.cons.inj trimmed).1

end Occurrence

/-! ## Lines of a source -/

/-- The lines of the declaration behind a comment: they go from the sigil to the character with
which the declaration ends, and they are lines of the source. -/
structure LinesOf (source : List Char) (occurrence : Occurrence) (range : LineRange) : Prop where
  whole : occurrence.front ++ occurrence.code = source
  begins : ∃ sigil : Declaration.Sigil,
    occurrence.code.head? = some sigil.char ∧ isSpace sigil.char = false
  first : range.first = 1 + lineFeeds occurrence.front ∧
    range.first = lineAt source (byteLength occurrence.front)
  last : ∃ inside, occurrence.declaration.Inside occurrence.code inside ∧
    range.last = 1 + lineFeeds (occurrence.front ++ inside) ∧
    range.last = lineAt source (byteLength (occurrence.front ++ inside))
  within : 1 ≤ range.first ∧ range.first ≤ range.last ∧ range.last ≤ lineCount source

/-- Every declaration of a source that is known has its lines, and they come in the order of the
comments. -/
structure SoundLines (source : List Char) : Prop where
  oneEach : Comment.extract source = (occurrences source).map Comment.ofOccurrence
  each : ∀ occurrence ∈ occurrences source, occurrence.declaration ≠ .unknown →
    ∃ range, occurrence.declaration.lines? = some range ∧ LinesOf source occurrence range
  ordered : ((occurrences source).filter (·.declaration ≠ .unknown)).Pairwise fun first second =>
    byteLength first.front < byteLength second.front ∧
      ∀ range other, first.declaration.lines? = some range →
        second.declaration.lines? = some other → range.first ≤ other.first

theorem exists_linesOf {occurrence : Occurrence} {source : List Char}
    (stands : occurrence.StandsIn source) (declared : occurrence.declaration ≠ .unknown) :
    ∃ range, occurrence.declaration.lines? = some range ∧ LinesOf source occurrence range := by
  have whole := stands.front_append_code
  obtain ⟨sigil, rest, begun⟩ := Occurrence.exists_code_eq declared
  have read := occurrence.declaration_eq
  rw [read] at declared
  obtain ⟨inside, ends, lines⟩ := Declaration.exists_inside declared
  rw [← read] at ends lines
  obtain ⟨last, behind, parts⟩ := ends.exists_eq
  have split : occurrence.front ++ inside ++ last :: behind = source := by
    rw [List.append_assoc, parts, whole]
  have counted : lineCount occurrence.front + lineFeeds inside =
      lineCount (occurrence.front ++ inside) := by
    rw [lineCount, lineCount, lineFeeds_append, Nat.add_assoc]
  refine ⟨_, lines, ?_⟩
  constructor
  case whole => exact whole
  case begins => exact ⟨sigil, by rw [begun]; rfl, by cases sigil <;> decide⟩
  case first => exact ⟨rfl, by rw [← whole, lineAt_byteLength]⟩
  case last =>
    refine ⟨inside, ends, counted, ?_⟩
    rw [← split, lineAt_byteLength]
    exact counted
  case within =>
    refine ⟨Nat.le_add_right 1 _, Nat.le_add_right _ _, ?_⟩
    rw [← split]
    simp only [lineCount, lineFeeds_append]
    omega

theorem soundLines (source : List Char) : SoundLines source where
  oneEach := Comment.extract_eq source
  each _ found := exists_linesOf (standsIn_of_mem found)
  ordered := by
    rw [List.pairwise_filter]
    refine List.Pairwise.imp_of_mem ?_ (pairwise_occurrencesFrom [] source)
    intro first second found foundBehind inOrder declared declaredBehind
    have stands := standsIn_of_mem found
    have standsBehind := standsIn_of_mem foundBehind
    rw [decide_eq_true_eq] at declared declaredBehind
    obtain ⟨more, nonempty, further⟩ := stands.exists_front_eq standsBehind inOrder declared
    constructor
    · rw [further, byteLength_append]
      exact Nat.lt_add_of_pos_right (byteLength_pos nonempty)
    · intro range other lines otherLines
      obtain ⟨_, same, firstLines⟩ := exists_linesOf stands declared
      obtain ⟨_, otherSame, secondLines⟩ := exists_linesOf standsBehind declaredBehind
      obtain rfl := Option.some.inj (lines.symm.trans same)
      obtain rfl := Option.some.inj (otherLines.symm.trans otherSame)
      rw [firstLines.first.1, secondLines.first.1, further, lineFeeds_append]
      omega

/-- A body that is closed on the next line, and a value that ends on the line after its variable. -/
example :
    (Comment.extract "/** Pads. */ %pad \x7b\n\x7d\n/// Wide.\n\n$wide:\n1;".toList).map
        (·.declaration.lines?) =
      [some ⟨1, 2⟩, some ⟨5, 6⟩] := by decide +kernel

end StyleDoc
