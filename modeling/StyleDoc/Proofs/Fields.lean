import Mathlib.Data.List.TakeWhile
import StyleDoc.Annotation.Field
import StyleDoc.Proofs.Json.Alike
import StyleDoc.Proofs.Lines
import StyleDoc.Proofs.Trimming

/-!
# Words and fields of annotation texts

The first field of a text is a word in most annotations, and then it has no white space in it. An
object has the fields that are there and not white space alone, each without white space around it,
in the order of their keys.
-/

namespace StyleDoc.Annotation

open Text

/-! ## Words at the beginning of a text -/

section Words

variable {p : Char → Bool} {text found behind : List Char}

theorem spanSome_cons {c : Char} {rest : List Char} (first : p c = true) :
    spanSome p (c :: rest) = some (c :: rest.takeWhile p, rest.dropWhile p) := by
  simp [spanSome, first]

theorem spanSome_eq_some (read : spanSome p text = some (found, behind)) :
    found ≠ [] ∧ ∀ c ∈ found, p c = true := by
  unfold spanSome at read
  split at read
  case h_1 => cases read
  case h_2 c rest taken =>
    cases read
    refine ⟨List.cons_ne_nil c rest, fun d member => ?_⟩
    rw [← taken] at member
    exact List.all_eq_true.1 List.all_takeWhile d member

theorem singleWord_of_spanSome (solid : ∀ c, p c = true → isSpace c = false)
    (read : spanSome p text = some (found, behind)) : SingleWord found where
  nonempty := (spanSome_eq_some read).1
  solid c member := solid c ((spanSome_eq_some read).2 c member)

theorem isSpace_of_isParameterChar {c : Char} (name : isParameterChar c = true) :
    isSpace c = false := by
  rcases Bool.or_eq_true_iff.1 name with word | hyphen
  · rcases Bool.or_eq_true_iff.1 word with word | dot
    · exact isSpace_of_isWord word
    · obtain rfl := beq_iff_eq.1 dot
      decide
  · obtain rfl := beq_iff_eq.1 hyphen
    decide

/-- The text is white space alone. -/
def Blank (text : List Char) : Prop := ∀ c ∈ text, isSpace c = true

/-- Only a text of white space alone does not begin with a word behind its white space. -/
theorem spanSome_trimStart_eq_none_iff (text : List Char) :
    spanSome (fun c => !isSpace c) (trimStart text) = none ↔ Blank text := by
  have dropped : trimStart text = [] ↔ Blank text := List.dropWhile_eq_nil_iff
  cases begins : trimStart text with
  | nil => exact iff_of_true rfl (dropped.1 begins)
  | cons c rest =>
    -- What is left begins with a character that is kept, and so with a word.
    have solid := List.head?_dropWhile_not isSpace text
    rw [← trimStart, begins] at solid
    have first : (!isSpace c) = true := by simpa using solid
    rw [spanSome_cons first, ← dropped, begins]
    simp

theorem singleWord_of_takeWordInBraces (read : (takeWordInBraces text).1 = some found) :
    SingleWord found := by
  unfold takeWordInBraces at read
  dsimp only at read
  split at read
  case h_1 inside rest enclosed =>
    split at read
    case isTrue word =>
      cases read
      exact ⟨word.1, fun c member => isSpace_of_isWord (List.all_eq_true.1 word.2 c member)⟩
    case isFalse => cases read
  case h_2 => cases read

/-- What a requirement is, a word in braces or one that is put in its place. -/
theorem singleWord_kind (text : List Char) :
    SingleWord ((takeWordInBraces text).1.getD
      (if (takeWordInBraces text).2.head? = some '$' then "variable".toList
        else "function".toList)) := by
  have given : ∀ word, (takeWordInBraces text).1 = some word → SingleWord word :=
    fun _ => singleWord_of_takeWordInBraces
  refine SingleWord.getD given ?_
  split
  · decide
  · decide

/-- The language of an example is part of a name, so it has no white space in it. -/
theorem solid_of_sampleHead (read : (sampleHead text).1 = some found) : Solid found := by
  have name : Solid (text.takeWhile isNameChar) := fun c member =>
    isSpace_of_isNameChar (List.all_eq_true.1 List.all_takeWhile c member)
  unfold sampleHead at read
  dsimp only at read
  split at read
  case h_1 =>
    cases read
    exact name
  case h_2 =>
    cases read
    exact name
  case h_3 =>
    -- The language stops at a dash inside the name.
    split at read
    case h_1 language inside cut =>
      cases read
      obtain ⟨pieces, found, same⟩ := Option.map_eq_some_iff.1 cut
      obtain ⟨parts, _⟩ := cut?_eq found
      cases same
      intro c member
      refine name c (List.mem_reverse.1 ?_)
      rw [← parts]
      exact List.mem_append_right _ (List.mem_cons_of_mem _ (List.mem_reverse.1 member))
    case h_2 => cases read

theorem singleWord_language (head : List Char) :
    SingleWord (((sampleHead head).1.filter (· ≠ [])).getD "scss".toList) := by
  have scss : SingleWord "scss".toList := by decide
  refine SingleWord.getD (fun word kept => ?_) scss
  obtain ⟨read, there⟩ := Option.filter_eq_some_iff.1 kept
  exact ⟨by simpa using there, solid_of_sampleHead read⟩

end Words

/-! ## Objects of fields -/

namespace Fields

/-- A field as it is written. A field that is not there or white space alone is not. -/
def written? (field : String × Option (List Char)) : Option (String × Json) :=
  match (field.2.map trim).getD [] with
  | [] => none
  | text => some (field.1, .str (String.ofList text))

section Written

variable {field : String × Option (List Char)}

theorem written?_eq_none (nothing : (field.2.map trim).getD [] = []) : written? field = none := by
  unfold written?
  rw [nothing]

theorem written?_eq_some (there : (field.2.map trim).getD [] ≠ []) :
    written? field = some (field.1, .str (String.ofList ((field.2.map trim).getD []))) := by
  unfold written?
  split
  case h_1 nothing => exact absurd nothing there
  case h_2 => rfl

theorem trimmed_of_written? {entry : String × Json} (written : written? field = some entry) :
    entry.1 = field.1 ∧ ∃ text, Trimmed text ∧ entry.2 = .str (String.ofList text) := by
  by_cases nothing : (field.2.map trim).getD [] = []
  · rw [written?_eq_none nothing] at written
    cases written
  · rw [written?_eq_some nothing] at written
    cases written
    refine ⟨rfl, _, ?_, rfl⟩
    cases content : field.2 with
    | none => exact absurd (by rw [content]; rfl) nothing
    | some text =>
      rw [content] at nothing
      exact trimmed_trim nothing

end Written

/-- The object is that of the written fields, sorted by key. -/
theorem toJson_eq (fields : Fields) :
    fields.toJson = .obj (Json.sortedFields [] (fields.filterMap written?)) := by
  unfold toJson
  congr 1
  generalize ([] : List (String × Json)) = done
  induction fields generalizing done with
  | nil => rfl
  | cons field rest inductionHypothesis =>
    rw [List.foldl_cons, inductionHypothesis]
    split
    case h_1 nothing => rw [List.filterMap_cons_none (written?_eq_none nothing)]
    case h_2 there =>
      rw [List.filterMap_cons_some (written?_eq_some there)]
      rfl

/-- The field that comes last is found under its key, whatever stands before it. -/
theorem lookup_toJson_concat (fields : Fields) (key : String) {text : List Char}
    (there : trim text ≠ []) :
    ∃ entries, toJson (fields ++ [(key, some text)]) = .obj entries ∧
      entries.lookup key = some (.str (String.ofList (trim text))) := by
  have written : written? (key, some text) = some (key, .str (String.ofList (trim text))) :=
    written?_eq_some there
  refine ⟨_, toJson_eq _, ?_⟩
  rw [Json.lookup_sortedFields, List.filterMap_append, List.reverse_append,
    List.filterMap_cons_some written]
  simp [Json.sorted]

end Fields

end StyleDoc.Annotation
