import StyleDoc.Proofs.Bodies
import StyleDoc.Proofs.Variables

/-!
# Where a value ends

A semicolon ends the declaration of a variable, but not in a style sheet when it stands inside a
string. The reader of a declaration does not know strings and takes the first semicolon there is. So
a value is read as a whole just when no string in it has a semicolon. Otherwise the value stops
inside the string, and what looks like flags there is taken for flags.
-/

namespace StyleDoc.Declaration

open Text

/-! ## Values with strings -/

/-- An assigned value as it is written: strings, and between them characters that neither end the
value nor begin a string, an escape or a flag. -/
inductive IsValue : List Char → Prop where
  | empty : IsValue []
  | char {c : Char} {rest : List Char} (plain : c ∉ [';', '"', '\'', '\\', '!'])
      (others : IsValue rest) : IsValue (c :: rest)
  | string {quote : Char} {content rest : List Char} (isQuote : Block.isQuote quote = true)
      (unquoted : quote ∉ content) (noBackslash : '\\' ∉ content) (others : IsValue rest) :
      IsValue (quote :: content ++ quote :: rest)

/-- The text ends inside a string, which begins behind a value. -/
structure EndsInString (text front : List Char) (quote : Char) (content : List Char) : Prop where
  parts : front ++ quote :: content = text
  isValue : IsValue front
  isQuote : Block.isQuote quote = true
  unclosed : quote ∉ content

/-- A semicolon in a value stands inside a string. -/
theorem IsValue.exists_endsInString {value before behind : List Char} (isValue : IsValue value)
    (parts : value = before ++ ';' :: behind) :
    ∃ front quote content, EndsInString before front quote content := by
  induction isValue generalizing before with
  | empty => simp at parts
  | @char c rest plain _ inductionHypothesis =>
    cases before with
    | nil =>
      obtain ⟨rfl, -⟩ := List.cons.inj parts
      simp at plain
    | cons first before =>
      obtain ⟨rfl, tails⟩ := List.cons.inj parts
      obtain ⟨front, quote, content, inside⟩ := inductionHypothesis tails
      exact ⟨c :: front, quote, content, by simp [inside.parts], .char plain inside.isValue,
        inside.isQuote, inside.unclosed⟩
  | @string quote content rest isQuote unquoted noBackslash _ inductionHypothesis =>
    have noSemicolon : quote ≠ ';' := by rintro rfl; cases isQuote
    cases before with
    | nil => exact absurd (List.cons.inj parts).1 noSemicolon
    | cons first before =>
      obtain ⟨rfl, tails⟩ := List.cons.inj parts
      rcases List.append_eq_append_iff.1 tails with ⟨more, rfl, later⟩ | ⟨more, rfl, -⟩
      · -- The string ends before the semicolon, which belongs to the rest of the value.
        cases more with
        | nil => exact absurd (List.cons.inj later).1 noSemicolon
        | cons closing more =>
          obtain ⟨rfl, behindString⟩ := List.cons.inj later
          obtain ⟨front, other, inner, inside⟩ := inductionHypothesis behindString
          refine ⟨quote :: content ++ quote :: front, other, inner, ?_, ?_, inside.isQuote,
            inside.unclosed⟩
          · simp [← inside.parts]
          · exact .string isQuote unquoted noBackslash inside.isValue
      · -- The semicolon stands in this string, and what is before it has no quote to close it.
        rw [List.mem_append, not_or] at unquoted
        exact ⟨[], quote, before, rfl, .empty, isQuote, unquoted.1⟩

/-- The last string of a value stands behind its last exclamation mark. -/
theorem IsValue.exists_lastString {value : List Char} (isValue : IsValue value) :
    '!' ∉ value ∨ ∃ front quote rest, front ++ quote :: rest = value ∧
      Block.isQuote quote = true ∧ '!' ∉ rest := by
  induction isValue with
  | empty => exact .inl List.not_mem_nil
  | @char c rest plain _ inductionHypothesis =>
    rcases inductionHypothesis with none | ⟨front, quote, behind, rfl, isQuote, noMark⟩
    · refine .inl (List.not_mem_cons_of_ne_of_not_mem ?_ none)
      rintro rfl
      simp at plain
    · exact .inr ⟨c :: front, quote, behind, rfl, isQuote, noMark⟩
  | @string quote content rest isQuote _ _ _ inductionHypothesis =>
    rcases inductionHypothesis with none | ⟨front, other, behind, rfl, isOther, noMark⟩
    · exact .inr ⟨quote :: content, quote, rest, rfl, isQuote, none⟩
    · exact .inr ⟨quote :: content ++ quote :: front, other, behind, by simp, isOther, noMark⟩

/-! ## Flags behind strings -/

/-- A quote is no part of flags. -/
theorem IsFlags.not_mem_of_isQuote {flags : List (List Char)} {text : List Char} {quote : Char}
    (isFlags : IsFlags flags text) (isQuote : Block.isQuote quote = true) : quote ∉ text := by
  have noSpace : isSpace quote = false := by
    rcases Block.eq_or_eq_of_isQuote isQuote with rfl | rfl <;> decide
  have noWord : isWord quote = false := by
    rcases Block.eq_or_eq_of_isQuote isQuote with rfl | rfl <;> decide
  have noMark : quote ≠ '!' := by rintro rfl; cases isQuote
  induction isFlags with
  | none allSpace => exact not_mem_of_forall noSpace allSpace
  | flag allSpace _ allWord _ inductionHypothesis =>
    simp [not_mem_of_forall noSpace allSpace, not_mem_of_forall noWord allWord, noMark,
      inductionHypothesis]

/-- The flags at the end of a text stand behind its last quote. -/
theorem LongestFlags.behind_quote {content kept suffix : List Char} {flags : List (List Char)}
    (longest : LongestFlags content kept suffix flags) {quote : Char}
    (isQuote : Block.isQuote quote = true) (front : List Char) :
    LongestFlags (front ++ quote :: content) (front ++ quote :: kept) suffix flags where
  parts := by simp [← longest.parts]
  isFlags := longest.isFlags
  longest other flags' ends isFlags := by
    have unquoted := isFlags.not_mem_of_isQuote isQuote
    -- An end of the text that reaches back to the quote would have the quote in it.
    rcases List.suffix_or_suffix_of_suffix ends (List.suffix_append front _) with shorter | longer
    · rcases List.suffix_cons_iff.1 shorter with rfl | inside
      · exact absurd List.mem_cons_self unquoted
      · exact longest.longest other flags' inside isFlags
    · exact absurd (longer.subset List.mem_cons_self) unquoted

/-- Without an exclamation mark nothing but white space can be taken from the end. -/
theorem exists_longestFlags_of_not_mem {text : List Char} (noMark : '!' ∉ text) :
    ∃ kept space, LongestFlags text kept space [] ∧ ∀ c ∈ space, isSpace c = true := by
  obtain ⟨kept, suffix, flags, longest, -⟩ := exists_longestFlags text
  have ends : suffix <:+ text := ⟨kept, longest.parts⟩
  cases isFlags : longest.isFlags with
  | none allSpace => exact ⟨kept, suffix, longest, allSpace⟩
  | flag => exact absurd (ends.subset (by simp)) noMark

/-- A value has no flags of its own, whatever its strings look like. -/
theorem IsValue.exists_longestFlags {value : List Char} (isValue : IsValue value) :
    ∃ kept space, LongestFlags value kept space [] ∧ ∀ c ∈ space, isSpace c = true := by
  rcases isValue.exists_lastString with noMark | ⟨front, quote, rest, rfl, isQuote, noMark⟩
  · exact exists_longestFlags_of_not_mem noMark
  · obtain ⟨kept, space, longest, allSpace⟩ := exists_longestFlags_of_not_mem noMark
    exact ⟨_, space, longest.behind_quote isQuote front, allSpace⟩

/-! ## Reading a value -/

section Assigned

variable {name : List Char} (named : name ≠ []) (allName : ∀ c ∈ name, isNameChar c = true)
include named allName

/-- What is assigned directly behind the name ends at the first semicolon. -/
theorem read_assigned {assigned kept suffix : List Char} {flags : List (List Char)}
    (noSemicolon : ';' ∉ assigned) (longest : LongestFlags assigned kept suffix flags)
    (behind : List Char) (line : Option Nat) :
    read ('$' :: name ++ ':' :: assigned ++ ';' :: behind) line =
      .var (String.ofList name) (String.ofList (trim kept)) (scopeOfFlags flags)
        (lineRange line (Text.lineFeeds assigned)) := by
  have noSpace : isSpace ':' = false := by decide
  have dollar : isSpace '$' = false := by decide
  have colon : isNameChar ':' = false := by decide
  have leading : LeadingRun isNameChar (name ++ ':' :: assigned ++ ';' :: behind) name
      (':' :: assigned ++ ';' :: behind) :=
    ⟨by simp, allName, by simp [colon]⟩
  -- The colon follows the name at once, so there is no white space for a second name.
  have noSecond :
      ¬ ∃ space other, SecondName (':' :: assigned ++ ';' :: behind) space other := by
    rintro ⟨space, other, second⟩
    obtain ⟨more, _, spaces, _⟩ := second.runs
    have taken := spaces.takeWhile_eq
    simp [noSpace] at taken
    exact second.spaced taken
  have assignment : Assignment (':' :: assigned ++ ';' :: behind) [] assigned :=
    ⟨List.not_mem_nil, noSemicolon, behind, rfl⟩
  have tail := (Tail.ofText_of_no_second noSecond).1 _ _ assignment
  have feeds : Text.lineFeeds (':' :: assigned) = Text.lineFeeds assigned :=
    lineFeeds_cons (by decide) assigned
  have declared := ofText_assigned leading named line tail longest
  rw [List.nil_append, feeds] at declared
  simpa [read, trimStart, dollar] using declared

/-- How a value between a colon and a semicolon is read. Without another semicolon it is read as a
whole. With one in a string it ends there, without what looks like flags behind the quote, and these
decide about the scope. -/
inductive ValueReading (name value : List Char) (line : Option Nat) : Declaration → Prop where
  | whole (noSemicolon : ';' ∉ value) :
      ValueReading name value line
        (.var (String.ofList name) (String.ofList (trim value)) .locally
          (lineRange line (Text.lineFeeds value)))
  | cut {before inside front content kept suffix : List Char} {quote : Char}
      {flags : List (List Char)} {scope : Scope} (parts : before ++ ';' :: inside = value)
      (first : ';' ∉ before) (inString : EndsInString before front quote content)
      (longest : LongestFlags content kept suffix flags)
      (isGlobal : scope = .globally ↔ "global".toList ∈ flags) :
      ValueReading name value line
        (.var (String.ofList name) (String.ofList (trim (front ++ quote :: kept))) scope
          (lineRange line (Text.lineFeeds before)))

theorem valueReading_read {value : List Char} (isValue : IsValue value) (behind : List Char)
    (line : Option Nat) :
    ValueReading name value line (read ('$' :: name ++ ':' :: value ++ ';' :: behind) line) := by
  by_cases semicolon : ';' ∈ value
  · -- The semicolon behind the value is out of reach, because one inside comes first.
    obtain ⟨before, inside, rfl, first⟩ := List.eq_append_cons_of_mem semicolon
    obtain ⟨front, quote, content, inString⟩ := isValue.exists_endsInString rfl
    obtain ⟨kept, suffix, flags, longest, -⟩ := exists_longestFlags content
    have longestBefore := longest.behind_quote inString.isQuote front
    rw [inString.parts] at longestBefore
    have found := read_assigned named allName first longestBefore (inside ++ ';' :: behind) line
    have same : '$' :: name ++ ':' :: (before ++ ';' :: inside) ++ ';' :: behind =
        '$' :: name ++ ':' :: before ++ ';' :: (inside ++ ';' :: behind) := by simp
    rw [same, found]
    exact .cut rfl first inString longest (scopeOfFlags_eq_iff.1 rfl)
  · obtain ⟨kept, space, longest, allSpace⟩ := isValue.exists_longestFlags
    have trimmed : trim kept = trim value := by
      rw [← longest.parts, trim_append allSpace]
    rw [read_assigned named allName semicolon longest, trimmed]
    exact .whole semicolon

/-- A value is read as a whole just when no string in it has a semicolon. -/
theorem read_value {value : List Char} (isValue : IsValue value) (behind : List Char)
    (line : Option Nat) :
    let declaration := read ('$' :: name ++ ':' :: value ++ ';' :: behind) line
    ValueReading name value line declaration ∧
      ((∃ lines, declaration =
        .var (String.ofList name) (String.ofList (trim value)) .locally lines) ↔ ';' ∉ value) := by
  intro declaration
  have reading : ValueReading name value line declaration :=
    valueReading_read named allName isValue behind line
  refine ⟨reading, ?_⟩
  generalize declaration = found at reading
  cases reading with
  | whole noSemicolon => simp [noSemicolon]
  | @cut before inside front content kept suffix quote flags scope parts first inString longest =>
    have semicolon : ';' ∈ value := by simp [← parts]
    have solid : isSpace ';' = false := by decide
    -- What is read comes from before the semicolon, and trimming would not have taken it away.
    have stopsBefore : ';' ∉ trim (front ++ quote :: kept) := by
      rw [mem_trim_iff solid]
      rw [← inString.parts, ← longest.parts] at first
      simp_all
    simp only [semicolon, not_true_eq_false, iff_false]
    rintro ⟨lines, same⟩
    injection same with _ sameText
    rw [String.ofList_injective sameText, mem_trim_iff solid] at stopsBefore
    exact stopsBefore semicolon

end Assigned

/-- A semicolon in a string, and in front of it a flag that is none. -/
theorem read_value_flag_in_string :
    let value := '"' :: "a !global;b".toList ++ ['"']
    ['x'] ≠ [] ∧ (∀ c ∈ ['x'], isNameChar c = true) ∧ IsValue value ∧
      ValueReading ['x'] value none (.var "x" "\"a" .globally none) ∧ ';' ∈ value := by
  intro value
  have named : ['x'] ≠ [] := List.cons_ne_nil _ _
  have allName : ∀ c ∈ ['x'], isNameChar c = true := List.forall_mem_singleton.2 (by decide)
  have isValue : IsValue value := .string rfl (by decide) (by decide) .empty
  have found : read ('$' :: ['x'] ++ ':' :: value ++ ';' :: "c;".toList) none =
      .var "x" "\"a" .globally none := by decide +kernel
  have reading := read_value named allName isValue "c;".toList none
  rw [found] at reading
  exact ⟨named, allName, isValue, reading.1, by decide⟩

/-- A semicolon in a string can cut a value. -/
theorem not_forall_valueWhole : ¬ ∀ (name value behind : List Char) (line : Option Nat),
    name ≠ [] → (∀ c ∈ name, isNameChar c = true) → IsValue value →
      ∃ lines, read ('$' :: name ++ ':' :: value ++ ';' :: behind) line =
        .var (String.ofList name) (String.ofList (trim value)) .locally lines := by
  intro claim
  have isValue : IsValue ('"' :: [';'] ++ '"' :: []) := .string rfl (by decide) (by decide) .empty
  have allName : ∀ c ∈ ['a'], isNameChar c = true := List.forall_mem_singleton.2 (by decide)
  obtain ⟨lines, whole⟩ := claim ['a'] _ [] none (List.cons_ne_nil _ _) allName isValue
  have cut : read ['$', 'a', ':', '"', ';', '"', ';'] none = .var "a" "\"" .locally none := by
    decide +kernel
  injection cut.symm.trans whole with _ sameText
  exact absurd sameText (by decide)

end StyleDoc.Declaration
