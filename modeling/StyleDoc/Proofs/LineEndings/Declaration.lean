import StyleDoc.Proofs.Declaration
import StyleDoc.Proofs.LineEndings.Text

/-!
# Declarations in texts with carriage returns

A declaration reads the same from a text with carriage returns, but for its code: a body or a value
has the carriage returns of the lines inside it. To the reader of a body a carriage return is a
character like any other, and the line feed behind it makes up for the difference.
-/

namespace StyleDoc

open Text

/-! ## Bodies -/

namespace Block

/-- A string waits for a quote. -/
def Mode.Proper : Mode → Prop
  | .quoted quote _ => isQuote quote = true
  | _ => True

theorem Mode.Proper.step {mode : Mode} (proper : mode.Proper) (c : Char) :
    (mode.step c).Proper := by
  cases mode with
  | code last =>
    simp only [Mode.step]
    split_ifs with _ _ _ opens
    · trivial
    · trivial
    · trivial
    · exact opens.1
    · trivial
  | lineComment =>
    simp only [Mode.step]
    split <;> trivial
  | blockComment last =>
    simp only [Mode.step]
    split_ifs <;> trivial
  | quoted quote last =>
    simp only [Mode.step]
    split
    · trivial
    · exact proper

/-- A carriage return does not act together with the character before it, and not with the line
feed behind it. -/
theorem Mode.Proper.step_lineEnd {mode : Mode} (proper : mode.Proper) :
    (mode.step '\r').step '\n' = mode.step '\n' := by
  cases mode with
  | code last => simp [Mode.step, isQuote]
  | lineComment => simp [Mode.step]
  | blockComment last => simp [Mode.step]
  | quoted quote last =>
    have noReturn : '\r' ≠ quote := by rintro rfl; cases proper
    have noFeed : '\n' ≠ quote := by rintro rfl; cases proper
    simp [Mode.step, noReturn, noFeed]

theorem bodyFrom?_crlf {mode : Mode} (proper : mode.Proper) (inner : Nat) (text : List Char) :
    bodyFrom? mode inner (crlf text) =
      (bodyFrom? mode inner text).map fun found => (crlf found.1, crlf found.2) := by
  induction text generalizing mode inner with
  | nil => rfl
  | cons c rest inductionHypothesis =>
    by_cases lineFeed : c = '\n'
    · subst lineFeed
      rw [crlf_lineFeed, bodyFrom?_cons (by decide) (by decide),
        bodyFrom?_cons (by decide) (by decide), bodyFrom?_cons (by decide) (by decide),
        proper.step_lineEnd,
        inductionHypothesis (proper.step '\n')]
      simp [Function.comp_def]
    · rw [crlf_cons lineFeed]
      cases open? : mode.inner? inner c with
      | none =>
        rw [bodyFrom?_of_closes open?, bodyFrom?_of_closes open?]
        rfl
      | some next =>
        rw [bodyFrom?_of_goesOn open?, bodyFrom?_of_goesOn open?,
          inductionHypothesis (proper.step c)]
        simp [Function.comp_def, crlf_cons lineFeed]

theorem first?_crlf (text : List Char) :
    first? (crlf text) = (first? text).map fun parts => (crlf parts.1, crlf parts.2) := by
  unfold first?
  rw [cut?_crlf (by decide) (by decide)]
  cases cut? '{' text with
  | none => rfl
  | some parts =>
    obtain ⟨before, behind⟩ := parts
    have body : body? (crlf behind) = (body? behind).map crlf := by
      have proper : (Mode.code '{').Proper := trivial
      unfold body?
      rw [bodyFrom?_crlf proper]
      simp [Function.comp_def]
    dsimp only [Option.map_some]
    rw [body]
    simp [Function.comp_def]

end Block

namespace Declaration

/-! ## Headers -/

theorem spanName_crlf (text : List Char) :
    spanName (crlf text) = ((spanName text).1, crlf (spanName text).2) := by
  have alike : isNameChar '\r' = isNameChar '\n' := by decide
  have whole : '\n' ∉ text.takeWhile isNameChar := not_mem_spanName text
  unfold spanName
  rw [takeWhile_crlf text alike, dropWhile_crlf text alike, crlf_of_not_mem whole]

theorem assignment?_crlf (text : List Char) :
    assignment? (crlf text) = (assignment? text).map fun parts => (crlf parts.1, crlf parts.2) := by
  unfold assignment?
  rw [cut?_crlf (by decide) (by decide)]
  cases cut? ':' text with
  | none => rfl
  | some parts =>
    dsimp only [Option.map_some]
    rw [cut?_crlf (by decide) (by decide)]
    simp [Function.comp_def]

def Tail.crlf : Tail → Tail
  | .second space name => .second (Text.crlf space) name
  | .assignment before assigned => .assignment (Text.crlf before) (Text.crlf assigned)
  | .nothing => .nothing

theorem Tail.ofText_crlf (text : List Char) :
    Tail.ofText (Text.crlf text) = (Tail.ofText text).crlf := by
  have spaces : isSpace '\r' = isSpace '\n' := by decide
  unfold Tail.ofText
  rw [takeWhile_crlf text spaces, dropWhile_crlf text spaces, spanName_crlf, assignment?_crlf]
  simp only [ne_eq, crlf_eq_nil_iff]
  split
  case isTrue => rfl
  case isFalse => cases assignment? text <;> rfl

def Header.crlf (header : Header) : Header := { header with tail := header.tail.crlf }

theorem Header.ofText?_crlf (text : List Char) :
    Header.ofText? (Text.crlf text) = (Header.ofText? text).map Header.crlf := by
  cases text with
  | nil => rfl
  | cons c rest =>
    by_cases lineFeed : c = '\n'
    · subst lineFeed
      rfl
    · rw [crlf_cons lineFeed, Header.ofText?_cons, Header.ofText?_cons, spanName_crlf]
      cases Sigil.ofChar? c with
      | none => rfl
      | some sigil =>
        by_cases unnamed : (spanName rest).1 = []
        · simp [unnamed]
        · simp [unnamed, Header.crlf, Tail.ofText_crlf]

theorem Header.lineFeeds_crlf (header : Header) : header.crlf.lineFeeds = header.lineFeeds := by
  unfold Header.lineFeeds Header.crlf
  cases header.tail with
  | second space name => simp [Tail.crlf, Tail.text]
  | assignment before assigned => simp [Tail.crlf, Tail.text, lineFeeds_cons]
  | nothing => rfl

/-! ## Values -/

theorem isFlag_crlf (piece : List Char) : isFlag (Text.crlf piece) = isFlag piece := by
  have spaces : isSpace '\r' = isSpace '\n' := by decide
  have words : isWord '\r' = isWord '\n' := by decide
  have empties : ∀ text, (Text.crlf text).isEmpty = text.isEmpty := by
    intro text
    rw [Bool.eq_iff_iff, List.isEmpty_iff, List.isEmpty_iff, crlf_eq_nil_iff]
  unfold isFlag
  dsimp only
  rw [dropEndWhile_crlf piece spaces, all_crlf _ words, empties]

/-- The word of a flag is on one line. -/
theorem dropEndWhile_crlf_of_isFlag {piece : List Char} (flag : isFlag piece = true) :
    dropEndWhile isSpace (Text.crlf piece) = dropEndWhile isSpace piece := by
  unfold isFlag at flag
  simp only [Bool.and_eq_true] at flag
  rw [dropEndWhile_crlf piece (by decide), crlf_of_not_mem]
  intro member
  exact absurd (List.all_eq_true.1 flag.2 _ member) (by decide)

theorem splitFlags_crlf (assigned : List Char) :
    splitFlags (Text.crlf assigned) =
      (Text.crlf (splitFlags assigned).1, (splitFlags assigned).2) := by
  have flagOfCrlf : isFlag ∘ Text.crlf = isFlag := funext isFlag_crlf
  unfold splitFlags
  rw [split_crlf (by decide) (by decide)]
  cases split '!' assigned with
  | nil => rfl
  | cons first pieces =>
    have flags : ((pieces.map Text.crlf).reverse.takeWhile isFlag).reverse =
        (pieces.reverse.takeWhile isFlag).reverse.map Text.crlf := by
      rw [← List.map_reverse, List.takeWhile_map, flagOfCrlf, List.map_reverse]
    have kept : ((pieces.map Text.crlf).reverse.dropWhile isFlag).reverse =
        (pieces.reverse.dropWhile isFlag).reverse.map Text.crlf := by
      rw [← List.map_reverse, List.dropWhile_map, flagOfCrlf, List.map_reverse]
    rw [List.map_cons]
    dsimp only
    rw [flags, kept, ← List.map_cons, join_crlf (by decide), trim_crlf, List.map_map]
    refine Prod.ext rfl (List.map_congr_left fun piece member => ?_)
    rw [List.mem_reverse] at member
    exact dropEndWhile_crlf_of_isFlag (List.all_eq_true.1 List.all_takeWhile _ member)

/-! ## Declarations -/

/-- The declaration with carriage returns in its code. -/
def crlf : Declaration → Declaration
  | block form name body lines =>
    block form name (String.ofList (Text.crlf body.toList)) lines
  | var name value scope lines =>
    var name (String.ofList (Text.crlf value.toList)) scope lines
  | unknown => unknown

theorem blockOf_crlf (form : BlockForm) (name : List Char) (header : Header) (text : List Char)
    (start : Option Nat) :
    blockOf form name header.crlf (Text.crlf text) start =
      (blockOf form name header text start).crlf := by
  unfold blockOf
  rw [Block.first?_crlf]
  cases Block.first? text with
  | none => simp [crlf, Header.lineFeeds_crlf]
  | some parts => simp [crlf]

theorem ofText_crlf (text : List Char) (start : Option Nat) :
    ofText (Text.crlf text) start = (ofText text start).crlf := by
  unfold ofText
  rw [Header.ofText?_crlf]
  cases Header.ofText? text with
  | none => rfl
  | some header =>
    have feeds := header.lineFeeds_crlf
    obtain ⟨sigil, name, tail⟩ := header
    cases sigil with
    | atSign =>
      cases tail with
      | second space other =>
        dsimp only [Option.map_some, Header.crlf, Tail.crlf]
        split
        case isTrue =>
          exact blockOf_crlf .function other ⟨.atSign, name, .second space other⟩ text start
        case isFalse =>
          split
          case isTrue =>
            exact blockOf_crlf .mixin other ⟨.atSign, name, .second space other⟩ text start
          case isFalse => rfl
      | assignment before assigned => rfl
      | nothing => rfl
    | percent => exact blockOf_crlf .placeholder name _ text start
    | dollar =>
      cases tail with
      | second space other => rfl
      | assignment before assigned =>
        dsimp only [Option.map_some, Header.crlf, Tail.crlf] at feeds ⊢
        rw [splitFlags_crlf, feeds]
        simp [crlf]
      | nothing => rfl

/-- Carriage returns change nothing of a declaration but its code. -/
theorem read_crlf (code : List Char) (line : Option Nat) :
    read (Text.crlf code) line = (read code line).crlf := by
  unfold read
  rw [takeWhile_crlf code (by decide), trimStart_crlf, ofText_crlf, Text.lineFeeds_crlf]

end Declaration

end StyleDoc
