import StyleDoc.Proofs.Bodies

/-!
# Strings in a body

In a style sheet a backslash takes the meaning from the character behind it, and that can be a
quote or another backslash. A string ends at the first quote of its kind that keeps its meaning.

The reader of a body looks back by one character. A string comes back whole from between two braces,
whatever it holds, as long as its last character is not a backslash. An escaped backslash at the end
makes the reader miss the closing quote: it goes on inside the string, and the brace behind does not
close the block.
-/

namespace StyleDoc.Block

open Text

/-- What may stand between two quotes of one kind: characters without a meaning in a string, and
backslashes with any character behind each. -/
inductive IsLiteral (quote : Char) : List Char → Prop where
  | empty : IsLiteral quote []
  | char {c : Char} {rest : List Char} (noQuote : c ≠ quote) (noBackslash : c ≠ '\\')
      (inLine : c ≠ '\n') (others : IsLiteral quote rest) : IsLiteral quote (c :: rest)
  | escape (c : Char) {rest : List Char} (others : IsLiteral quote rest) :
      IsLiteral quote ('\\' :: c :: rest)

section Literal

variable {quote : Char} {content : List Char}

/-- A quote of the kind of the literal stands directly behind a backslash. -/
theorem IsLiteral.escaped (literal : IsLiteral quote content) (noBackslash : quote ≠ '\\')
    {before behind : List Char} (parts : content = before ++ quote :: behind) :
    before.getLast? = some '\\' := by
  induction literal generalizing before with
  | empty => simp at parts
  | char noQuote _ _ _ inductionHypothesis =>
    cases before with
    | nil => exact absurd (List.cons.inj parts).1 noQuote
    | cons first before =>
      have later := inductionHypothesis (List.cons.inj parts).2
      simp [List.getLast?_cons, later]
  | escape c _ inductionHypothesis =>
    -- The quote is the character behind this backslash, or it belongs to a later part.
    rcases before with _ | ⟨backslash, _ | ⟨escaped, before⟩⟩
    · exact absurd (List.cons.inj parts).1.symm noBackslash
    · exact congrArg some (List.cons.inj parts).1.symm
    · have tails := (List.cons.inj (List.cons.inj parts).2).2
      have later := inductionHypothesis tails
      simp [List.getLast?_cons, later]

/-- The reader comes to the end of a literal still inside the string. -/
theorem IsLiteral.passes (literal : IsLiteral quote content) (noBackslash : quote ≠ '\\')
    (last : Char) :
    Passes (.quoted quote last) content (.quoted quote (content.getLastD last)) := by
  refine .inString fun before behind parts => ?_
  rw [List.getLastD_eq_getLast?, literal.escaped noBackslash parts]
  rfl

theorem IsLiteral.isQuotable (literal : IsLiteral quote content) (noBackslash : quote ≠ '\\')
    (closes : content.getLast? ≠ some '\\') : IsQuotable quote content where
  escaped _ _ parts := literal.escaped noBackslash parts
  closes := closes

/-- Without another quote a string has no end. -/
theorem bodyFrom?_quoted {text : List Char} (unquoted : quote ∉ text) (last : Char) (inner : Nat) :
    bodyFrom? (.quoted quote last) inner text = none := by
  have escaped : ∀ before behind, text = before ++ quote :: behind →
      before.getLastD last = '\\' := by
    rintro before behind rfl
    simp at unquoted
  have passes := Passes.inString escaped inner []
  rwa [List.append_nil] at passes

/-! ## Literals between braces -/

/-- The reader is still inside the string behind a closing quote that follows a backslash, and so
it passes over the brace behind that quote. -/
theorem IsLiteral.passes_unclosed (literal : IsLiteral quote content)
    (isQuote : isQuote quote = true) (ends : content.getLast? = some '\\') :
    Passes (.code '{') (quote :: content ++ [quote, '}']) (.quoted quote '}') := by
  have noBackslash : quote ≠ '\\' := by rintro rfl; cases isQuote
  have noBrace : '}' ≠ quote := by rintro rfl; cases isQuote
  have openInert : Inert '{' := by simp [Inert]
  have inside := literal.passes noBackslash quote
  rw [List.getLastD_eq_getLast?, ends, Option.getD_some] at inside
  have missed : Passes (.quoted quote '\\') [quote] _ := .hidden rfl quote
  rw [Mode.step, if_neg fun both => both.2 rfl] at missed
  -- Now the closing quote is the character before, which takes nothing from the brace in a string.
  have brace : Passes (.quoted quote quote) ['}'] _ := .hidden rfl '}'
  rw [Mode.step, if_neg fun both => noBrace both.1] at brace
  exact ((Passes.openString isQuote openInert).cons inside).append (missed.cons brace)

/-- A literal comes back whole from between two braces just when it does not end with an escaped
backslash. With one at its end the body goes on behind the brace, or there is none at all, as always
when no quote of that kind follows. -/
theorem bodyAt_literal (isQuote : isQuote quote = true) (literal : IsLiteral quote content)
    (behind : List Char) :
    let block := '{' :: (quote :: content ++ [quote]) ++ '}' :: behind
    (bodyAt block 0 = quote :: content ++ [quote] ↔ content.getLast? ≠ some '\\') ∧
      (content.getLast? = some '\\' →
        (quote ∉ behind → bodyAt block 0 = []) ∧
        (bodyAt block 0 = [] ∨ quote :: content ++ [quote, '}'] <+: bodyAt block 0)) := by
  intro block
  have openInert : Inert '{' := by simp [Inert]
  have noBackslash : quote ≠ '\\' := by rintro rfl; cases isQuote
  have read : bodyAt block 0 = (body? (quote :: content ++ [quote] ++ '}' :: behind)).getD [] :=
    bodyAt_zero _
  have closed : content.getLast? ≠ some '\\' → bodyAt block 0 = quote :: content ++ [quote] := by
    intro closes
    have passes := Passes.string isQuote (literal.isQuotable noBackslash closes) openInert
    rw [read, passes.body?_eq, Option.getD_some]
  have unclosed : content.getLast? = some '\\' →
      bodyAt block 0 = ((bodyFrom? (.quoted quote '}') 0 behind).map fun found =>
        quote :: content ++ [quote, '}'] ++ found.1).getD [] := by
    intro ends
    have passes := literal.passes_unclosed isQuote ends 0 behind
    have parts : quote :: content ++ [quote] ++ '}' :: behind =
        quote :: content ++ [quote, '}'] ++ behind := by simp
    rw [read, body?, parts, passes, Option.map_map]
    rfl
  have longer : content.getLast? = some '\\' →
      bodyAt block 0 = [] ∨ quote :: content ++ [quote, '}'] <+: bodyAt block 0 := by
    intro ends
    rw [unclosed ends]
    cases bodyFrom? (.quoted quote '}') 0 behind with
    | none => exact .inl rfl
    | some found => exact .inr (List.prefix_append _ _)
  refine ⟨⟨?_, closed⟩, fun ends => ⟨?_, longer ends⟩⟩
  · intro whole ends
    rcases longer ends with nothing | further
    · simp [whole] at nothing
    · have shorter := further.length_le
      rw [whole] at shorter
      simp at shorter
  · intro unquoted
    rw [unclosed ends, bodyFrom?_quoted unquoted]
    rfl

/-- A brace, an escaped quote and an escaped backslash inside, and another string behind. -/
theorem bodyAt_literal_escapes :
    IsLiteral '"' ['}', '\\', '"', '\\', '\\', '{'] ∧
      bodyAt ['{', '"', '}', '\\', '"', '\\', '\\', '{', '"', '}', '"', '}'] 0 =
        ['"', '}', '\\', '"', '\\', '\\', '{', '"'] := by
  have last : IsLiteral '"' ['{'] := .char (by decide) (by decide) (by decide) .empty
  have literal : IsLiteral '"' ['}', '\\', '"', '\\', '\\', '{'] :=
    .char (by decide) (by decide) (by decide) (.escape '"' (.escape '\\' last))
  exact ⟨literal, (bodyAt_literal rfl literal ['"', '}']).1.2 (by decide)⟩

/-- Not every literal comes back. -/
theorem not_forall_literalPassed : ¬ ∀ (quote : Char) (content behind : List Char),
    isQuote quote = true → IsLiteral quote content →
      bodyAt ('{' :: (quote :: content ++ [quote]) ++ '}' :: behind) 0 =
        quote :: content ++ [quote] := by
  intro claim
  have literal : IsLiteral '"' ['\\', '\\'] := .escape '\\' .empty
  have found := claim '"' ['\\', '\\'] [] rfl literal
  exact absurd found (by decide)

end Literal

end StyleDoc.Block
