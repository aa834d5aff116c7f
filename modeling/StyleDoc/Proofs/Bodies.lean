import StyleDoc.Proofs.Declaration
import StyleDoc.Proofs.Offsets

/-!
# Bodies of blocks

What may stand between the braces of a block. The reader passes over a text when it comes out of it
with the same blocks open as before, whatever follows. Characters without a meaning of their own,
strings, line comments and whole blocks are passed over, and with them every body that is written
from these parts: the reader finds it again, wherever the block stands.

A block comment is passed over as well, unless its text ends with a slash. That slash and the star
behind it are taken for the beginning of a comment, so the comment does not end where it is closed.
-/

namespace StyleDoc.Block

open Text

/-! ## Passing over a text -/

/-- Reading the text leads from one mode to the other, and the blocks that are open behind it are
those that have been open before it. -/
def Passes (mode : Mode) (text : List Char) (after : Mode) : Prop :=
  ∀ inner rest, bodyFrom? mode inner (text ++ rest) =
    (bodyFrom? after inner rest).map fun found => (text ++ found.1, found.2)

namespace Passes

variable {mode between after : Mode} {text more : List Char} {c : Char}

theorem nil (mode : Mode) : Passes mode [] mode := by
  intro inner rest
  simp

theorem append (first : Passes mode text between) (second : Passes between more after) :
    Passes mode (text ++ more) after := by
  intro inner rest
  rw [List.append_assoc, first, second, Option.map_map]
  simp [Function.comp_def]

theorem cons (first : Passes mode [c] between) (others : Passes between text after) :
    Passes mode (c :: text) after := first.append others

theorem char (opens : c ≠ '{') (closes : c ≠ '}') (mode : Mode) : Passes mode [c] (mode.step c) :=
  fun inner rest => bodyFrom?_cons opens closes mode inner rest

/-- Outside of code every character is passed over, braces too. -/
theorem hidden (hides : mode.isCode = false) (c : Char) : Passes mode [c] (mode.step c) := by
  intro inner rest
  simp [bodyFrom?, hides]

end Passes

/-! ## Characters -/

/-- A character that does not act together with the one behind it. -/
def Inert (c : Char) : Prop := c ≠ '/' ∧ c ≠ '*' ∧ c ≠ '\\'

/-- A character without a meaning of its own in code. -/
def Plain (c : Char) : Prop := c ∉ ['{', '}', '"', '\'', '/', '*', '\\']

instance (c : Char) : Decidable (Plain c) := inferInstanceAs (Decidable (c ∉ _))

theorem Plain.inert {c : Char} (plain : Plain c) : Inert c := by
  simp only [Plain, List.mem_cons, not_or] at plain
  exact ⟨plain.2.2.2.2.1, plain.2.2.2.2.2.1, plain.2.2.2.2.2.2.1⟩

theorem Plain.isQuote_eq_false {c : Char} (plain : Plain c) : isQuote c = false := by
  simp only [Plain, List.mem_cons, not_or] at plain
  simp [isQuote, plain.2.2.1, plain.2.2.2.1]

theorem eq_or_eq_of_isQuote {quote : Char} (isQuote : isQuote quote = true) :
    quote = '"' ∨ quote = '\'' := by
  simpa [Block.isQuote] using isQuote

theorem step_code_of_inert {last : Char} (inert : Inert last) (c : Char) :
    (Mode.code last).step c = if isQuote c then .quoted c c else .code c := by
  simp [Mode.step, inert.1, inert.2.1, inert.2.2]

section Parts

variable {last quote : Char} {text content : List Char}

theorem Passes.plain {c : Char} (plain : Plain c) (inert : Inert last) :
    Passes (.code last) [c] (.code c) := by
  have opens : c ≠ '{' := by rintro rfl; simp [Plain] at plain
  have closes : c ≠ '}' := by rintro rfl; simp [Plain] at plain
  have passes := Passes.char opens closes (.code last)
  rwa [step_code_of_inert inert, plain.isQuote_eq_false] at passes

theorem exists_passes_plains (plain : ∀ c ∈ text, Plain c) (inert : Inert last) :
    ∃ next, Inert next ∧ Passes (.code last) text (.code next) := by
  induction text generalizing last with
  | nil => exact ⟨last, inert, .nil _⟩
  | cons c text inductionHypothesis =>
    rw [List.forall_mem_cons] at plain
    obtain ⟨next, nextInert, others⟩ := inductionHypothesis plain.2 plain.1.inert
    exact ⟨next, nextInert, .cons (.plain plain.1 inert) others⟩

/-! ## Strings -/

/-- What may stand between two quotes of one kind: every such quote inside stands directly behind a
backslash, and the last character is not a backslash. -/
structure IsQuotable (quote : Char) (content : List Char) : Prop where
  escaped : ∀ before behind, content = before ++ quote :: behind → before.getLast? = some '\\'
  closes : content.getLast? ≠ some '\\'

/-- The reader stays in a string as long as quotes of its kind are escaped. -/
theorem Passes.inString (escaped : ∀ before behind, content = before ++ quote :: behind →
      before.getLastD last = '\\') :
    Passes (.quoted quote last) content (.quoted quote (content.getLastD last)) := by
  induction content generalizing last with
  | nil => exact .nil _
  | cons c content inductionHypothesis =>
    have stays : (Mode.quoted quote last).step c = .quoted quote c := by
      refine if_neg fun closes => ?_
      obtain ⟨rfl, unescaped⟩ := closes
      exact unescaped (escaped [] content rfl)
    have first : Passes (.quoted quote last) [c] _ := .hidden rfl c
    rw [stays] at first
    rw [List.getLastD_cons]
    refine first.cons (inductionHypothesis fun before behind parts => ?_)
    have whole := escaped (c :: before) behind (by rw [parts, List.cons_append])
    rwa [List.getLastD_cons] at whole

/-- A quote in code begins a string. -/
theorem Passes.openString (isQuote : isQuote quote = true) (inert : Inert last) :
    Passes (.code last) [quote] (.quoted quote quote) := by
  have noBrace : quote ≠ '{' ∧ quote ≠ '}' := by
    rcases eq_or_eq_of_isQuote isQuote with rfl | rfl <;> decide
  have passes := Passes.char noBrace.1 noBrace.2 (.code last)
  rwa [step_code_of_inert inert, if_pos isQuote] at passes

theorem Passes.string (isQuote : isQuote quote = true) (quotable : IsQuotable quote content)
    (inert : Inert last) : Passes (.code last) (quote :: content ++ [quote]) (.code quote) := by
  -- The opening quote is no backslash, so it does not escape a quote right behind it.
  have noBackslash : quote ≠ '\\' := by rintro rfl; cases isQuote
  have inside : Passes (.quoted quote quote) content (.quoted quote (content.getLastD quote)) := by
    refine .inString fun before behind parts => ?_
    rw [List.getLastD_eq_getLast?, quotable.escaped before behind parts]
    rfl
  have closes : Passes (.quoted quote (content.getLastD quote)) [quote] (.code quote) := by
    have unescaped : content.getLastD quote ≠ '\\' := by
      rw [List.getLastD_eq_getLast?]
      cases ends : content.getLast? with
      | none => exact noBackslash
      | some c => exact fun same => quotable.closes (ends.trans (congrArg some same))
    have passes : Passes (.quoted quote (content.getLastD quote)) [quote] _ := .hidden rfl quote
    rwa [Mode.step, if_pos ⟨rfl, unescaped⟩] at passes
  exact ((openString isQuote inert).cons inside).append closes

/-! ## Line comments -/

theorem Passes.inLine (whole : '\n' ∉ text) : Passes .lineComment text .lineComment := by
  induction text with
  | nil => exact .nil _
  | cons c text inductionHypothesis =>
    rw [List.mem_cons, not_or] at whole
    have first : Passes .lineComment [c] _ := .hidden rfl c
    rw [Mode.step, if_neg (Ne.symm whole.1)] at first
    exact first.cons (inductionHypothesis whole.2)

/-- The first character of a comment. -/
theorem Passes.slash (inert : Inert last) : Passes (.code last) ['/'] (.code '/') := by
  have passes := Passes.char (c := '/') (by decide) (by decide) (.code last)
  rwa [step_code_of_inert inert] at passes

theorem Passes.lineComment (whole : '\n' ∉ text) (inert : Inert last) :
    Passes (.code last) ('/' :: '/' :: text ++ ['\n']) (.code '\n') := by
  have opens : Passes (.code '/') ['/'] .lineComment := .char (by decide) (by decide) (.code '/')
  have ends : Passes .lineComment ['\n'] (.code '\n') := .hidden rfl '\n'
  exact ((slash inert).cons (opens.cons (.inLine whole))).append ends

/-! ## Blocks -/

theorem step_code_brace {c : Char} (brace : c = '{' ∨ c = '}') (last : Char) :
    (Mode.code last).step c = .code c := by
  rcases brace with rfl | rfl <;> simp [Mode.step, isQuote]

theorem Passes.block (body : Passes (.code '{') text (.code quote)) :
    Passes (.code last) ('{' :: text ++ ['}']) (.code '}') := by
  intro inner rest
  -- The body is read with one more block open, which its brace closes again.
  have opens : bodyFrom? (.code last) inner ('{' :: text ++ ['}'] ++ rest) =
      (bodyFrom? (.code '{') (inner + 1) (text ++ '}' :: rest)).map fun found =>
        ('{' :: found.1, found.2) := by
    simp [bodyFrom?, Mode.isCode, step_code_brace]
  have closes : bodyFrom? (.code quote) (inner + 1) ('}' :: rest) =
      (bodyFrom? (.code '}') inner rest).map fun found => ('}' :: found.1, found.2) := by
    simp [bodyFrom?, Mode.isCode, step_code_brace]
  rw [opens, body, closes]
  simp [Function.comp_def]

end Parts

/-- The bodies of blocks as they are written. -/
inductive IsBody : List Char → Prop where
  | empty : IsBody []
  | char {c : Char} {rest : List Char} (plain : Plain c) (others : IsBody rest) :
      IsBody (c :: rest)
  | string {quote : Char} {content rest : List Char} (isQuote : isQuote quote = true)
      (quotable : IsQuotable quote content) (others : IsBody rest) :
      IsBody (quote :: content ++ [quote] ++ rest)
  | lineComment {text rest : List Char} (whole : '\n' ∉ text) (others : IsBody rest) :
      IsBody ('/' :: '/' :: text ++ ['\n'] ++ rest)
  | block {body rest : List Char} (inside : IsBody body) (others : IsBody rest) :
      IsBody ('{' :: body ++ ['}'] ++ rest)

/-- A body is passed over, and nothing at its end acts together with what follows. -/
theorem IsBody.exists_passes {body : List Char} (isBody : IsBody body) {last : Char}
    (inert : Inert last) : ∃ next, Inert next ∧ Passes (.code last) body (.code next) := by
  -- Every part begins and ends in code behind an inert character, so the parts can be put together.
  induction isBody generalizing last with
  | empty => exact ⟨last, inert, .nil _⟩
  | char plain _ others =>
    obtain ⟨next, nextInert, passes⟩ := others plain.inert
    exact ⟨next, nextInert, .cons (.plain plain inert) passes⟩
  | @string quote _ _ isQuote quotable _ others =>
    have quoteInert : Inert quote := by
      rcases eq_or_eq_of_isQuote isQuote with rfl | rfl <;> simp [Inert]
    obtain ⟨next, nextInert, passes⟩ := others quoteInert
    exact ⟨next, nextInert, (Passes.string isQuote quotable inert).append passes⟩
  | lineComment whole _ others =>
    have feedInert : Inert '\n' := by simp [Inert]
    obtain ⟨next, nextInert, passes⟩ := others feedInert
    exact ⟨next, nextInert, (Passes.lineComment whole inert).append passes⟩
  | block _ _ inside others =>
    have openInert : Inert '{' := by simp [Inert]
    have closeInert : Inert '}' := by simp [Inert]
    obtain ⟨_, _, body⟩ := inside openInert
    obtain ⟨next, nextInert, passes⟩ := others closeInert
    exact ⟨next, nextInert, body.block.append passes⟩

/-! ## Finding a body -/

section Found

variable {between body : List Char} {last : Char}

theorem Passes.body?_eq (passes : Passes (.code '{') body (.code last)) (behind : List Char) :
    body? (body ++ '}' :: behind) = some body := by
  have closes : bodyFrom? (.code last) 0 ('}' :: behind) = some ([], behind) := by
    simp [bodyFrom?, Mode.isCode]
  unfold body?
  rw [passes, closes]
  simp

theorem first?_behind (front : List Char) {between : List Char} (first : '{' ∉ between)
    (rest : List Char) :
    (fromByte? (front ++ between ++ '{' :: rest) (byteLength front)).bind first? =
      (body? rest).map fun body => (between, body) := by
  rw [List.append_assoc, fromByte?_byteLength, Option.bind_some, first?, cut?_append_cons first]

theorem Passes.first?_eq (passes : Passes (.code '{') body (.code last)) (front : List Char)
    (first : '{' ∉ between) (behind : List Char) :
    (fromByte? (front ++ between ++ '{' :: body ++ '}' :: behind) (byteLength front)).bind first? =
      some (between, body) := by
  rw [List.append_assoc _ ('{' :: body), List.cons_append, first?_behind front first,
    passes.body?_eq]
  rfl

end Found

/-- A body is found between its braces from every place in front of them, as long as no other brace
opens a block in between. -/
theorem span?_of_isBody {body : List Char} (isBody : IsBody body) {front between : List Char}
    (first : '{' ∉ front ++ between) (behind : List Char) :
    let text := front ++ between ++ '{' :: body ++ '}' :: behind
    let start := byteLength (front ++ between) + 1
    span? text (byteLength front) = some (start, start + byteLength body) ∧
      bodyAt text (byteLength front) = body := by
  have openInert : Inert '{' := by simp [Inert]
  obtain ⟨last, _, passes⟩ := isBody.exists_passes openInert
  have unopened : '{' ∉ between := fun member => first (List.mem_append_right _ member)
  have found := passes.first?_eq front unopened behind
  intro text start
  constructor
  · have counted : start = byteLength front + byteLength between + 1 := by
      rw [← byteLength_append]
    unfold span?
    rw [found, counted]
  · unfold bodyAt
    rw [found]
    rfl

/-- A block with a string in it that holds a brace and a quote, and a brace in a line comment. -/
def nestedBody : List Char :=
  ['a', '{', '"', '}', '\\', '"', '"', '}', '/', '/', '{', '\n', 'b']

theorem span?_of_isBody_nested :
    IsBody nestedBody ∧ '{' ∉ ['ä', ' '] ∧
      span? ('ä' :: ' ' :: '{' :: nestedBody ++ ['}', '}']) 2 = some (4, 17) ∧
      bodyAt ('ä' :: ' ' :: '{' :: nestedBody ++ ['}', '}']) 2 = nestedBody := by
  have quotable : IsQuotable '"' ['}', '\\', '"'] := by
    refine ⟨fun before behind parts => ?_, by decide⟩
    rcases before with _ | ⟨c, _ | ⟨d, _ | ⟨e, before⟩⟩⟩
    · simp at parts
    · simp at parts
    · obtain ⟨-, rfl, -⟩ : '}' = c ∧ '\\' = d ∧ behind = [] := by simpa using parts
      rfl
    · simp at parts
  have isBody : IsBody nestedBody :=
    .char (by decide) <| @IsBody.block ['"', '}', '\\', '"', '"'] _
      (@IsBody.string '"' _ [] rfl quotable .empty) <|
        @IsBody.lineComment ['{'] ['b'] (by decide) <| .char (by decide) .empty
  have first : '{' ∉ ['ä'] ++ [' '] := by decide
  exact ⟨isBody, first, span?_of_isBody isBody first ['}']⟩

/-! ## Block comments -/

/-- What marks the end of a block comment. -/
def commentEnd : List Char := ['*', '/']

theorem infix_of_infix_cons {c : Char} {text : List Char} (unclosed : ¬ commentEnd <:+: c :: text) :
    ¬ commentEnd <:+: text :=
  fun inside => unclosed (inside.trans (List.suffix_cons c text).isInfix)

/-- In a block comment the reader remembers the last character or a space, so it sees a slash just
where the text ends with one. -/
theorem exists_passes_comment {text : List Char} {last : Char}
    (unclosed : ¬ commentEnd <:+: last :: text) :
    ∃ next, Passes (.blockComment last) text (.blockComment next) ∧
      (next = '/' ↔ (last :: text).getLast? = some '/') := by
  induction text generalizing last with
  | nil => exact ⟨last, .nil _, by simp⟩
  | cons c text inductionHypothesis =>
    have later := infix_of_infix_cons unclosed
    have first : Passes (.blockComment last) [c] _ := .hidden rfl c
    by_cases opens : last = '/' ∧ c = '*'
    · -- The two characters have acted together, and none of them acts with the next one.
      have fresh : ¬ commentEnd <:+: ' ' :: text := by
        have inside := infix_of_infix_cons later
        simpa [commentEnd, List.infix_cons_iff] using inside
      obtain ⟨next, passes, slash⟩ := inductionHypothesis fresh
      rw [Mode.step, if_pos opens] at first
      refine ⟨next, first.cons passes, slash.trans ?_⟩
      obtain ⟨-, rfl⟩ := opens
      cases text <;> simp
    · have closes : ¬ (last = '*' ∧ c = '/') := by
        rintro ⟨rfl, rfl⟩
        exact unclosed (List.prefix_append commentEnd text).isInfix
      obtain ⟨next, passes, slash⟩ := inductionHypothesis later
      rw [Mode.step, if_neg opens, if_neg closes] at first
      refine ⟨next, first.cons passes, slash.trans ?_⟩
      rw [List.getLast?_cons_cons]

/-- A block comment is not closed without another slash. -/
theorem bodyFrom?_comment {text : List Char} (noSlash : '/' ∉ text) (last : Char) (inner : Nat) :
    bodyFrom? (.blockComment last) inner text = none := by
  induction text generalizing last with
  | nil => rfl
  | cons c text inductionHypothesis =>
    rw [List.mem_cons, not_or] at noSlash
    have goesOn : ∃ next, (Mode.blockComment last).step c = .blockComment next := by
      simp only [Mode.step, Ne.symm noSlash.1, and_false, if_false]
      split
      · exact ⟨_, rfl⟩
      · exact ⟨_, rfl⟩
    obtain ⟨next, goesOn⟩ := goesOn
    have first : Passes (.blockComment last) [c] _ := .hidden rfl c
    rw [goesOn] at first
    have read := first inner text
    rwa [inductionHypothesis noSlash.2 next] at read

section Comment

variable {before text behind : List Char}

/-- The mode behind a block comment: the comment is over, or else the slash at the end of its text
has made the star behind it the beginning of another comment. -/
theorem Passes.comment {last : Char} (inert : Inert last) (unclosed : ¬ commentEnd <:+: text) :
    Passes (.code last) ('/' :: '*' :: text ++ commentEnd)
      (if text.getLast? = some '/' then .blockComment '/' else .code ' ') := by
  have opens : Passes (.code '/') ['*'] (.blockComment ' ') :=
    .char (by decide) (by decide) (.code '/')
  have fresh : ¬ commentEnd <:+: ' ' :: text := by
    simpa [commentEnd, List.infix_cons_iff] using unclosed
  obtain ⟨next, inside, ends⟩ := exists_passes_comment fresh
  have slashed : next = '/' ↔ text.getLast? = some '/' := by
    rw [ends]
    cases text <;> simp
  have star : Passes (.blockComment next) ['*'] _ := .hidden rfl '*'
  refine ((slash inert).cons (opens.cons inside)).append ?_
  by_cases last : next = '/'
  · rw [if_pos (slashed.1 last)]
    rw [Mode.step, if_pos ⟨last, rfl⟩] at star
    exact star.cons (.hidden rfl '/')
  · rw [if_neg fun same => last (slashed.2 same)]
    have starred : (Mode.blockComment next).step '*' = .blockComment '*' := by
      simp [Mode.step, last]
    rw [starred] at star
    exact star.cons (.hidden rfl '/')

theorem bodyAt_zero (text : List Char) : bodyAt ('{' :: text) 0 = (body? text).getD [] := by
  have found : (fromByte? ('{' :: text) 0).bind first? =
      (body? text).map fun body => ([], body) := first?_behind [] List.not_mem_nil text
  unfold bodyAt
  rw [found]
  cases body? text <;> rfl

/-- A block comment in a body is passed over whatever it holds, except for a slash at its end: with
that the block has no body at all. -/
theorem bodyAt_comment (plainBefore : ∀ c ∈ before, Plain c) (plainBehind : ∀ c ∈ behind, Plain c)
    (unclosed : ¬ commentEnd <:+: text) :
    bodyAt ('{' :: (before ++ ('/' :: '*' :: text ++ commentEnd) ++ behind ++ ['}'])) 0 =
      if text.getLast? = some '/' then []
      else before ++ ('/' :: '*' :: text ++ commentEnd) ++ behind := by
  have openInert : Inert '{' := by simp [Inert]
  obtain ⟨last, inert, first⟩ := exists_passes_plains plainBefore openInert
  have comment := first.append (.comment inert unclosed)
  rw [bodyAt_zero]
  split
  case isTrue ends =>
    rw [if_pos ends] at comment
    have noSlash : '/' ∉ behind ++ ['}'] := by
      intro member
      rcases List.mem_append.1 member with inside | brace
      · exact (plainBehind _ inside).inert.1 rfl
      · exact absurd brace (by decide)
    unfold body?
    rw [List.append_assoc, comment, bodyFrom?_comment noSlash]
    rfl
  case isFalse ends =>
    rw [if_neg ends] at comment
    have spaceInert : Inert ' ' := by simp [Inert]
    obtain ⟨next, _, others⟩ := exists_passes_plains plainBehind spaceInert
    rw [(comment.append others).body?_eq]
    rfl

/-- A comment with all the characters that have a meaning in code. -/
theorem bodyAt_comment_braces :
    bodyAt ('{' :: (['a'] ++ ('/' :: '*' :: ['}', '"', '/', '*', 'x'] ++ commentEnd) ++ [';'] ++
      ['}'])) 0 = ['a', '/', '*', '}', '"', '/', '*', 'x', '*', '/', ';'] := by
  have plainBefore : ∀ c ∈ ['a'], Plain c := List.forall_mem_singleton.2 (by decide)
  have plainBehind : ∀ c ∈ [';'], Plain c := List.forall_mem_singleton.2 (by decide)
  have unclosed : ¬ commentEnd <:+: ['}', '"', '/', '*', 'x'] := by
    simp [commentEnd, List.infix_cons_iff]
  exact bodyAt_comment plainBefore plainBehind unclosed

/-- The text of a block comment is not passed over for every text. -/
theorem not_forall_commentPassed : ¬ ∀ before text behind : List Char,
    (∀ c ∈ before, Plain c) → (∀ c ∈ behind, Plain c) → ¬ commentEnd <:+: text →
      bodyAt ('{' :: (before ++ ('/' :: '*' :: text ++ commentEnd) ++ behind ++ ['}'])) 0 =
        before ++ ('/' :: '*' :: text ++ commentEnd) ++ behind := by
  intro claim
  have unclosed : ¬ commentEnd <:+: ['/'] := by simp [commentEnd, List.infix_cons_iff]
  have nothing : ∀ c ∈ [], Plain c := fun _ member => nomatch member
  have found := claim [] ['/'] [] nothing nothing unclosed
  exact absurd found (by decide)

end Comment

end StyleDoc.Block
