import Mathlib.Data.List.DropRight
import Mathlib.Data.List.Forall2
import StyleDoc.Comment.Layout
import StyleDoc.Proofs.Lines

/-!
# Texts with carriage returns

`crlf` puts a carriage return before every line feed. Cuts at other characters fall on the same
places of the new text, and its lines are the old ones with a carriage return behind them, which
neither changes their indentation nor survives `dropCarriageReturn`.
-/

namespace StyleDoc.Text

/-- The text with a carriage return before every line feed. -/
def crlf : List Char → List Char
  | [] => []
  | c :: rest => if c = '\n' then '\r' :: '\n' :: crlf rest else c :: crlf rest

section crlf

variable {text : List Char} {c : Char}

@[simp]
theorem crlf_nil : crlf [] = [] := rfl

@[simp]
theorem crlf_lineFeed (rest : List Char) : crlf ('\n' :: rest) = '\r' :: '\n' :: crlf rest := rfl

theorem crlf_cons (inLine : c ≠ '\n') (rest : List Char) : crlf (c :: rest) = c :: crlf rest :=
  if_neg inLine

@[simp]
theorem crlf_append (text rest : List Char) : crlf (text ++ rest) = crlf text ++ crlf rest := by
  induction text with
  | nil => rfl
  | cons c tail inductionHypothesis =>
    by_cases lineFeed : c = '\n'
    · simp [lineFeed, inductionHypothesis]
    · simp [crlf_cons lineFeed, inductionHypothesis]

theorem crlf_of_not_mem (whole : '\n' ∉ text) : crlf text = text := by
  induction text with
  | nil => rfl
  | cons c tail inductionHypothesis =>
    rw [List.mem_cons, not_or] at whole
    rw [crlf_cons (Ne.symm whole.1), inductionHypothesis whole.2]

@[simp]
theorem lineFeeds_crlf (text : List Char) : lineFeeds (crlf text) = lineFeeds text := by
  induction text with
  | nil => rfl
  | cons c tail inductionHypothesis =>
    by_cases lineFeed : c = '\n'
    · simp [lineFeed, lineFeeds_cons, inductionHypothesis]
    · rw [crlf_cons lineFeed, lineFeeds_cons lineFeed, lineFeeds_cons lineFeed, inductionHypothesis]

theorem crlf_eq_nil_iff : crlf text = [] ↔ text = [] := by
  cases text with
  | nil => simp
  | cons c tail => by_cases lineFeed : c = '\n' <;> simp [crlf, lineFeed]

theorem getLast?_crlf (text : List Char) : (crlf text).getLast? = text.getLast? := by
  induction text using List.reverseRecOn with
  | nil => rfl
  | append_singleton front c => by_cases lineFeed : c = '\n' <;> simp [crlf, lineFeed]

/-! ## Classes of characters -/

section Class

variable {p : Char → Bool}

/-! A class that has both characters or neither of them does not cut between the two. -/

variable (alike : p '\r' = p '\n') (text)
include alike

theorem takeWhile_crlf : (crlf text).takeWhile p = crlf (text.takeWhile p) := by
  induction text with
  | nil => rfl
  | cons c tail inductionHypothesis =>
    by_cases lineFeed : c = '\n'
    · cases inside : p '\n' <;> simp [lineFeed, alike, inside, inductionHypothesis]
    · cases inside : p c <;> simp [crlf_cons lineFeed, inside, inductionHypothesis]

theorem dropWhile_crlf : (crlf text).dropWhile p = crlf (text.dropWhile p) := by
  induction text with
  | nil => rfl
  | cons c tail inductionHypothesis =>
    by_cases lineFeed : c = '\n'
    · cases inside : p '\n' <;> simp [lineFeed, alike, inside, inductionHypothesis]
    · cases inside : p c <;> simp [crlf_cons lineFeed, inside, inductionHypothesis]

theorem any_crlf : (crlf text).any p = text.any p := by
  induction text with
  | nil => rfl
  | cons c tail inductionHypothesis =>
    by_cases lineFeed : c = '\n'
    · cases inside : p '\n' <;> simp [lineFeed, alike, inside, inductionHypothesis]
    · simp [crlf_cons lineFeed, inductionHypothesis]

theorem all_crlf : (crlf text).all p = text.all p := by
  rw [List.all_eq_not_any_not, any_crlf text (congrArg not alike), ← List.all_eq_not_any_not]

theorem dropEndWhile_crlf : dropEndWhile p (crlf text) = crlf (dropEndWhile p text) := by
  have concat : ∀ (front : List Char) (c : Char), dropEndWhile p (front ++ [c]) =
      if p c = true then dropEndWhile p front else front ++ [c] := List.rdropWhile_concat p
  induction text using List.reverseRecOn with
  | nil => rfl
  | append_singleton front c inductionHypothesis =>
    by_cases lineFeed : c = '\n'
    · have parts : crlf (front ++ ['\n']) = crlf front ++ ['\r'] ++ ['\n'] := by simp
      rw [lineFeed, parts, concat, concat, concat, alike]
      cases inside : p '\n' <;> simp [inductionHypothesis]
    · have parts : crlf (front ++ [c]) = crlf front ++ [c] := by simp [crlf_cons lineFeed]
      rw [parts, concat, concat]
      cases inside : p c <;> simp [inductionHypothesis, parts]

end Class

theorem trimStart_crlf (text : List Char) : trimStart (crlf text) = crlf (trimStart text) :=
  dropWhile_crlf text (by decide)

theorem trim_crlf (text : List Char) : trim (crlf text) = crlf (trim text) := by
  unfold trim trimBy
  rw [dropWhile_crlf text (by decide), dropEndWhile_crlf _ (by decide)]

/-! ## Marks and separators -/

theorem isPrefixOf_crlf {mark : List Char} (clean : '\r' ∉ mark) (whole : '\n' ∉ mark)
    (text : List Char) : mark.isPrefixOf (crlf text) = mark.isPrefixOf text := by
  induction mark generalizing text with
  | nil => simp
  | cons m mark inductionHypothesis =>
    simp only [List.mem_cons, not_or] at clean whole
    cases text with
    | nil => rfl
    | cons c tail =>
      by_cases lineFeed : c = '\n'
      · have noReturn : (m == '\r') = false := by simpa using Ne.symm clean.1
        have noFeed : (m == '\n') = false := by simpa using Ne.symm whole.1
        simp [lineFeed, List.isPrefixOf, noReturn, noFeed]
      · simp [crlf_cons lineFeed, List.isPrefixOf, inductionHypothesis clean.2 whole.2]

section Separator

variable {separator : Char} (noReturn : separator ≠ '\r') (noFeed : separator ≠ '\n')
include noReturn noFeed

theorem cut?_crlf (text : List Char) :
    cut? separator (crlf text) =
      (cut? separator text).map fun parts => (crlf parts.1, crlf parts.2) := by
  have alike : ('\r' != separator) = ('\n' != separator) := by
    rw [bne_iff_ne.2 noReturn.symm, bne_iff_ne.2 noFeed.symm]
  unfold cut?
  rw [takeWhile_crlf text alike, dropWhile_crlf text alike]
  have first := List.head?_dropWhile_not (· != separator) text
  cases behind : text.dropWhile (· != separator) with
  | nil => rfl
  | cons c rest =>
    rw [behind] at first
    obtain rfl : c = separator := by simpa using first
    rw [crlf_cons noFeed]
    rfl

theorem split_crlf (text : List Char) :
    split separator (crlf text) = (split separator text).map crlf := by
  induction text with
  | nil => rfl
  | cons c tail inductionHypothesis =>
    obtain ⟨first, others, pieces⟩ := List.exists_cons_of_ne_nil (split_ne_nil separator tail)
    by_cases lineFeed : c = '\n'
    · simp [split, lineFeed, inductionHypothesis, pieces, noReturn.symm, noFeed.symm]
    · rw [crlf_cons lineFeed]
      by_cases here : c = separator
      · simp [split, here, inductionHypothesis]
      · simp [split, here, inductionHypothesis, pieces, crlf_cons lineFeed]

omit noReturn in
theorem join_crlf (pieces : List (List Char)) :
    join separator (pieces.map crlf) = crlf (join separator pieces) := by
  induction pieces with
  | nil => rfl
  | cons piece pieces inductionHypothesis =>
    cases pieces with
    | nil => simp
    | cons next pieces =>
      rw [List.map_cons, List.map_cons, join_cons_cons, ← List.map_cons, inductionHypothesis,
        join_cons_cons, crlf_append, crlf_cons noFeed]

end Separator

end crlf

end StyleDoc.Text
