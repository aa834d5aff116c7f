import StyleDoc.Proofs.Accounts
import StyleDoc.Proofs.ByteOrder

/-!
# Registries after any history

A registry is determined by the annotations that have been registered, in order: under each name the
last annotation of that name, and for each alias the name of the last annotation that has listed it.
A tag is unknown exactly when it is neither a name nor an alias of any of them.
-/

namespace StyleDoc

/-- The tag that the line begins with. -/
def tagOf? (line : List Char) : Option String :=
  (splitTag? line).map fun parts => String.ofList parts.1

namespace Registry

open Annotation (ofReader plain)

variable {registry : Registry} {annotations : List Annotation} {tag : String}

/-! ## Unknown tags -/

theorem readLine_eq_unknownTag_iff {kind : Kind} {line : List Char} :
    registry.readLine kind line = .refused (.unknownTag tag) ↔
      tagOf? line = some tag ∧ registry.find? (registry.resolve tag) = none := by
  unfold readLine tagOf?
  cases splitTag? line with
  | none => simp
  | some parts =>
    obtain ⟨found, behind⟩ := parts
    dsimp only [readTag, Option.map_some]
    split
    case h_1 missing =>
      constructor
      · intro same
        cases same
        exact ⟨rfl, missing⟩
      · rintro ⟨same, -⟩
        cases same
        rfl
    case h_2 meaning known =>
      refine iff_of_false ?_ ?_
      · split <;> simp
      · rintro ⟨same, missing⟩
        cases same
        rw [known] at missing
        cases missing

theorem unknownTag_mem_warningsOf_iff {comment : Comment} :
    .unknownTag tag ∈ warningsOf (comment.readings registry) ↔
      (∃ line ∈ comment.lines, tagOf? line = some tag) ∧
        registry.find? (registry.resolve tag) = none := by
  have only : ∀ reading : Reading, reading.warning? = some (.unknownTag tag) ↔
      reading = .refused (.unknownTag tag) := by
    intro reading
    cases reading <;> simp [Reading.warning?]
  simp [warningsOf, Comment.readings, readLines, only, readLine_eq_unknownTag_iff,
    ← and_assoc, exists_and_right]

theorem unknownTag_mem_warnings_iff {comments : List Comment} :
    .unknownTag tag ∈ (Document.ofComments registry comments).warnings ↔
      (∃ comment ∈ comments, ∃ line ∈ comment.lines, tagOf? line = some tag) ∧
        registry.find? (registry.resolve tag) = none := by
  have own : ∀ placed, .unknownTag tag ∈ Document.warningsAt registry comments placed ↔
      .unknownTag tag ∈ warningsOf (placed.1.readings registry) := by
    intro placed
    unfold Document.warningsAt
    split <;> simp
  have placed : ∀ comment, (∃ position, (comment, position) ∈ comments.zipIdx) ↔
      comment ∈ comments := by
    intro comment
    conv => rhs; rw [← List.zipIdx_map_fst 0 comments, List.mem_map]
    simp
  rw [Document.warnings_ofComments, List.mem_flatMap]
  simp only [own, Prod.exists, exists_and_right, placed, unknownTag_mem_warningsOf_iff,
    ← and_assoc]

/-- The tag is the name or an alias of an annotation that has been registered. -/
def Mentions (annotations : List Annotation) (tag : String) : Prop :=
  ∃ meaning ∈ annotations, Bears tag meaning ∨ Lists tag meaning

theorem find?_resolve_eq_none_iff :
    (ofList annotations).find? ((ofList annotations).resolve tag) = none ↔
      ¬ Mentions annotations tag := by
  rw [Option.eq_none_iff_forall_ne_some, ← not_exists]
  refine not_congr ⟨?_, ?_⟩
  · rintro ⟨meaning, found⟩
    by_cases renamed : (ofList annotations).resolve tag = tag
    · have last := find?_ofList_eq_some_iff.1 found
      exact ⟨meaning, last.mem, .inl (renamed ▸ last.holds)⟩
    · obtain ⟨lister, last, -⟩ := exists_isLast_of_resolve_ne renamed
      exact ⟨lister, last.mem, .inr last.holds⟩
  · rintro ⟨meaning, member, ⟨free, rfl⟩ | lists⟩
    · by_cases renamed : (ofList annotations).resolve meaning.name = meaning.name
      · rw [renamed]
        exact exists_find?_of_mem member free
      · exact exists_find?_of_resolve_ne renamed
    · obtain ⟨lister, last⟩ := exists_isLast member lists
      rw [resolve_ofList_of_isLast last]
      exact exists_find?_of_mem last.mem last.holds.1

/-! ## Histories -/

/-- What a registry is after these annotations have been registered, one after the other. -/
structure LeftBy (annotations : List Annotation) (registry : Registry) : Prop where
  /-- Under a name stands the last annotation of this name. -/
  found : ∀ name meaning, registry.find? name = some meaning ↔
    IsLast (Bears name) annotations meaning
  /-- Exactly the annotations that are found under some name are listed. -/
  listed : ∀ meaning, meaning ∈ registry.toList ↔ ∃ name, registry.find? name = some meaning
  /-- Each is listed once, in the order of the bytes of their names. -/
  ordered : registry.toList.Pairwise fun first second => Text.BytesBefore first.name second.name
  /-- An alias stands for the last annotation that has listed it. -/
  resolved : ∀ tag meaning, IsLast (Lists tag) annotations meaning →
    registry.resolve tag = meaning.name
  /-- Any other tag stands for itself. -/
  unlisted : ∀ tag, (∀ meaning ∈ annotations, ¬ Lists tag meaning) → registry.resolve tag = tag
  /-- There is an annotation behind every alias. -/
  landed : ∀ tag, registry.resolve tag ≠ tag →
    ∃ meaning, registry.find? (registry.resolve tag) = some meaning
  /-- The tag of a line is reported when no annotation has mentioned it. -/
  reported : ∀ comments tag,
    .unknownTag tag ∈ (Document.ofComments registry comments).warnings ↔
      (∃ comment ∈ comments, ∃ line ∈ comment.lines, tagOf? line = some tag) ∧
        ¬ Mentions annotations tag
  /-- A reserved name changes neither table. -/
  refused : ∀ meaning, ¬ meaning.Free → registry.register meaning = registry

theorem leftBy_ofList (annotations : List Annotation) :
    LeftBy annotations (ofList annotations) where
  found _ _ := find?_ofList_eq_some_iff
  listed _ := mem_toList_iff
  ordered := by
    refine List.pairwise_map.2 ((ofList annotations).annotations.ordered.imp_of_mem ?_)
    intro first second firstListed secondListed below
    have named := named_ofList annotations
    rw [named first firstListed, named second secondListed] at below
    exact Text.bytesBefore_of_lt below
  resolved _ _ := resolve_ofList_of_isLast
  unlisted _ := resolve_ofList_of_forall
  landed _ := exists_find?_of_resolve_ne
  reported comments tag := by rw [unknownTag_mem_warnings_iff, find?_resolve_eq_none_iff]
  refused meaning reserved := if_pos (Decidable.not_not.1 reserved)

/-- The second annotation takes an alias over, and the third one is refused with its own. -/
example :
    ["n", "m", "note"].map (ofList [(ofReader "note" plain).withAliases ["n", "m"],
      (ofReader "memo" plain).withAliases ["m"],
      (ofReader "context" plain).withAliases ["n"]]).resolve = ["note", "memo", "note"] := by
  decide

end Registry

end StyleDoc
