import StyleDoc.Proofs.Declaration
import StyleDoc.Proofs.Offsets
import StyleDoc.Proofs.Trimming

/-!
# Headers of blocks

A name in a header goes as far as there are characters of a name. The characters at the beginning of
the code decide alone whether it declares a function, a mixin or a placeholder, and under which
name; the body is that of the first block behind them, however far away it stands.
-/

namespace StyleDoc

open Text

namespace Declaration

/-- The text begins with white space and a name, both as long as they can be. -/
structure SecondName (text space name : List Char) : Prop where
  spaced : space ≠ []
  named : name ≠ []
  runs : ∃ more behind, LeadingRun isSpace text space more ∧ LeadingRun isNameChar more name behind

theorem Tail.ofText_eq_second_iff {text space name : List Char} :
    Tail.ofText text = .second space name ↔ SecondName text space name := by
  constructor
  · intro found
    unfold Tail.ofText at found
    dsimp only at found
    split at found
    case isTrue both =>
      cases found
      exact ⟨both.1, both.2, _, _, leadingRun isSpace text, leadingRun isNameChar _⟩
    case isFalse => split at found <;> cases found
  · intro second
    obtain ⟨more, behind, spaces, names⟩ := second.runs
    have both : space ≠ [] ∧ name ≠ [] := ⟨second.spaced, second.named⟩
    have taken : (spanName (text.dropWhile isSpace)).1 = name := by
      rw [spaces.dropWhile_eq]
      exact names.takeWhile_eq
    unfold Tail.ofText
    dsimp only
    rw [spaces.takeWhile_eq, taken, if_pos both]

/-- Without a second name the first assignment counts, however far away it stands. -/
theorem Tail.ofText_of_no_second {text : List Char}
    (noSecond : ¬ ∃ space name, SecondName text space name) :
    (∀ before assigned, Assignment text before assigned →
        Tail.ofText text = .assignment before assigned) ∧
      ((¬ ∃ before assigned, Assignment text before assigned) → Tail.ofText text = .nothing) := by
  have unspaced : ¬ (text.takeWhile isSpace ≠ [] ∧ (spanName (text.dropWhile isSpace)).1 ≠ []) :=
    fun both => noSecond
      ⟨_, _, both.1, both.2, _, _, leadingRun isSpace text, leadingRun isNameChar _⟩
  unfold Tail.ofText
  dsimp only
  rw [if_neg unspaced]
  constructor
  · intro before assigned assignment
    rw [assignment?_eq_some_iff.2 assignment]
  · intro unassigned
    cases found : assignment? text with
    | none => rfl
    | some parts => exact absurd ⟨_, _, assignment?_eq_some_iff.1 found⟩ unassigned

theorem Header.ofText?_of_leadingRun {text name rest : List Char}
    (leading : LeadingRun isNameChar text name rest) (named : name ≠ []) (sigil : Sigil) :
    Header.ofText? (sigil.char :: text) = some ⟨sigil, name, Tail.ofText rest⟩ := by
  have begins : Sigil.ofChar? sigil.char = some sigil := by cases sigil <;> rfl
  have span : spanName text = (name, rest) :=
    Prod.ext leading.takeWhile_eq leading.dropWhile_eq
  rw [Header.ofText?_cons, begins, Option.bind_some, span, if_neg named]

theorem Header.leadingRun_of_ofText? {text : List Char} {header : Header}
    (found : Header.ofText? text = some header) :
    ∃ more rest, text = header.sigil.char :: more ∧ LeadingRun isNameChar more header.name rest ∧
      header.name ≠ [] ∧ header.tail = Tail.ofText rest := by
  obtain ⟨more, begun, named, nonempty, tail⟩ := Header.ofText?_eq_some found
  refine ⟨more, (spanName more).2, begun, ?_, nonempty, tail⟩
  rw [named]
  exact leadingRun isNameChar more

/-! ## Blocks -/

/-- How the declaration of a block begins, with the name of the block. -/
inductive BlockHeader : BlockForm → List Char → List Char → Prop where
  | callable {form : BlockForm} {keyword text rest space name : List Char}
      (isKeyword : Keyword form keyword) (leading : LeadingRun isNameChar text keyword rest)
      (second : SecondName rest space name) : BlockHeader form name ('@' :: text)
  | placeholder {text name rest : List Char} (leading : LeadingRun isNameChar text name rest)
      (named : name ≠ []) : BlockHeader .placeholder name ('%' :: text)

theorem Header.Opens.blockHeader {text name : List Char} {header : Header} {form : BlockForm}
    (found : Header.ofText? text = some header) (opens : header.Opens form name) :
    BlockHeader form name text := by
  obtain ⟨more, rest, rfl, leading, nonempty, tail⟩ := Header.leadingRun_of_ofText? found
  cases opens with
  | callable keyword => exact .callable keyword leading (Tail.ofText_eq_second_iff.1 tail.symm)
  | placeholder => exact .placeholder leading nonempty

theorem BlockHeader.exists_opens {text name : List Char} {form : BlockForm}
    (begins : BlockHeader form name text) :
    ∃ header, Header.ofText? text = some header ∧ header.Opens form name := by
  cases begins with
  | callable isKeyword leading second =>
    refine ⟨_, Header.ofText?_of_leadingRun leading isKeyword.ne_nil .atSign, ?_⟩
    rw [Tail.ofText_eq_second_iff.2 second]
    exact .callable isKeyword
  | placeholder leading named =>
    exact ⟨_, Header.ofText?_of_leadingRun leading named .percent, .placeholder⟩

theorem exists_blockOf_eq (form : BlockForm) (name : List Char) (header : Header) (text : List Char)
    (start : Option Nat) :
    ∃ lines, blockOf form name header text start =
      .block form (String.ofList name) (String.ofList (Block.bodyAt text 0)) lines := by
  have atOnce : fromByte? text 0 = some text := by cases text <;> rfl
  unfold blockOf Block.bodyAt
  rw [atOnce, Option.bind_some]
  cases Block.first? text with
  | none => exact ⟨_, rfl⟩
  | some parts => exact ⟨_, rfl⟩

theorem ofText_eq_block_iff {text : List Char} {start : Option Nat} {form : BlockForm}
    {name body : String} :
    (∃ lines, ofText text start = .block form name body lines) ↔
      BlockHeader form name.toList text ∧ body = String.ofList (Block.bodyAt text 0) := by
  constructor
  · rintro ⟨lines, read⟩
    rcases ofText_cases text with none | ⟨header, found, isBlock | isVar⟩
    · cases (none start).symm.trans read
    · obtain ⟨form', name', opens, same⟩ := isBlock
      obtain ⟨lines', block⟩ := exists_blockOf_eq form' name' header text start
      cases block.symm.trans ((same start).symm.trans read)
      rw [String.toList_ofList]
      exact ⟨opens.blockHeader found, rfl⟩
    · obtain ⟨_, _, _, _, same⟩ := isVar
      cases (same start).symm.trans read
  · rintro ⟨begins, rfl⟩
    obtain ⟨header, found, opens⟩ := begins.exists_opens
    rw [ofText_of_opens found opens]
    simpa using exists_blockOf_eq form name.toList header text start

/-! ## Declarations -/

/-- The body behind the white space of the code, counted from the beginning of the code. -/
theorem bodyAt_trimStart (code : List Char) :
    Block.bodyAt code (byteLength (code.takeWhile isSpace)) = Block.bodyAt (trimStart code) 0 := by
  have atOnce : fromByte? (trimStart code) 0 = some (trimStart code) := by
    cases trimStart code <;> rfl
  have behind := fromByte?_byteLength (code.takeWhile isSpace) (trimStart code)
  rw [trimStart, List.takeWhile_append_dropWhile] at behind
  unfold Block.bodyAt
  rw [behind, atOnce]
  rfl

/-- What the beginning of the code tells about its declaration: which block it is and whether it is
known at all. The lines of the declaration aside, white space in front of the code tells nothing. -/
structure ReadByHeader (code : List Char) (line : Option Nat) : Prop where
  block : ∀ form name body, (∃ lines, read code line = .block form name body lines) ↔
    BlockHeader form name.toList (trimStart code) ∧
      body = String.ofList (Block.bodyAt code (byteLength (code.takeWhile isSpace)))
  unknown : (trimStart code).head? ∉ [some '@', some '%', some '$'] → read code line = .unknown
  moved : ∀ space, (∀ c ∈ space, isSpace c = true) →
    read (space ++ code) line = read code (line.map (· + Text.lineFeeds space)) ∧
      (read (space ++ code) line).mapLines (fun _ => none) =
        (read code line).mapLines fun _ => none

theorem readByHeader (code : List Char) (line : Option Nat) : ReadByHeader code line where
  block form name body := by
    rw [bodyAt_trimStart]
    exact ofText_eq_block_iff
  unknown noSigil := by
    rcases ofText_cases (trimStart code) with none | ⟨header, found, _⟩
    · exact none _
    · exfalso
      obtain ⟨more, _, begun, _⟩ := Header.leadingRun_of_ofText? found
      have sigils : ∀ sigil : Sigil, some sigil.char ∈ [some '@', some '%', some '$'] := by
        intro sigil
        cases sigil <;> decide
      rw [begun] at noSigil
      exact noSigil (sigils header.sigil)
  moved space allSpace := by
    have later := read_append allSpace code line
    refine ⟨later, ?_⟩
    rw [later]
    have forgotten : ∀ start, (ofText (trimStart code) start).mapLines (fun _ => none) =
        ofText (trimStart code) none := fun start => mapLines_ofText (fun _ => rfl) _
    exact (forgotten _).trans (forgotten _).symm

/-- The first block behind the header is the body, here the one in the parameters. -/
example :
    read "\n@mixin\tpad-y($x: #\x7b$z\x7d) \x7b a \x7d".toList none =
      .block .mixin "pad-y" "$z" none := by decide +kernel

end Declaration

end StyleDoc
