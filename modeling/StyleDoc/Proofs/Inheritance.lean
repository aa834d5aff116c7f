import Mathlib.Data.List.Forall2
import StyleDoc.Annotation.Field
import StyleDoc.Document
import StyleDoc.Proofs.Catalogue
import StyleDoc.Proofs.Registry
import StyleDoc.Proofs.Slots

/-!
# Where the slots of a record come from

A document is read comment by comment, and the poster is carried along. The record of a comment is
described here without that state: by the comment itself, by the first poster of the document where
it stands before the comment, and by the fallbacks of the registry, in this order of precedence.

Annotations are checked against the kind of a declaration where a line gives them, and nowhere else.
So a record can get, from the poster or as a fallback, an annotation that may not stand on its own
kind.
-/

namespace StyleDoc

namespace Comment

def isPoster (comment : Comment) : Bool := comment.role = .poster

/-- The record that the lines of the comment make by themselves. -/
def ownRecord (registry : Registry) (comment : Comment) : Record :=
  .ofReadings comment.declaration (registry.readLines comment.declaration.kind comment.lines)

/-- The slot that the lines of the comment set by themselves. -/
def ownSlot? (registry : Registry) (comment : Comment) (name : String) : Option Slot :=
  (comment.ownRecord registry).annotations.find? name

/-- The lines without a tag, each with a line feed behind it. -/
def plainText (comment : Comment) : List Char :=
  (comment.lines.filter fun line => (splitTag? line).isNone).flatMap (· ++ ['\n'])

/-- What a line adds to the description when it is read. -/
theorem description_readLine (registry : Registry) (kind : Kind) (line : List Char) :
    (registry.readLine kind line).description =
      if (splitTag? line).isNone then line ++ ['\n'] else [] := by
  unfold Registry.readLine
  cases splitTag? line with
  | none => rfl
  | some found =>
    unfold Registry.readTag
    dsimp only
    split
    · rfl
    · split <;> rfl

theorem ownRecord_description (registry : Registry) (comment : Comment) :
    (comment.ownRecord registry).description = String.ofList comment.plainText := by
  have read : ∀ lines : List (List Char),
      (registry.readLines comment.declaration.kind lines).flatMap Reading.description =
        (lines.filter fun line => (splitTag? line).isNone).flatMap (· ++ ['\n']) := by
    intro lines
    induction lines with
    | nil => rfl
    | cons line rest inductionHypothesis =>
      unfold Registry.readLines at inductionHypothesis ⊢
      rw [List.map_cons, List.flatMap_cons, inductionHypothesis, description_readLine]
      cases untagged : (splitTag? line).isNone <;> simp [untagged]
  exact congrArg String.ofList (read comment.lines)

/-- A comment sets a slot only where the annotation may stand on what it documents. -/
theorem find?_of_ownSlot? {registry : Registry} {comment : Comment} {name : String} {slot : Slot}
    (set : comment.ownSlot? registry name = some slot) :
    ∃ meaning, registry.find? name = some meaning ∧
      meaning.allowedOn comment.declaration.kind = true :=
  find?_of_slotsOf_readLines (Option.isSome_of_eq_some set)

end Comment

namespace Document

open Annotation (ofReader plain)

variable {registry : Registry} {comments : List Comment}

/-! ## Filling slots -/

theorem find?_inherit (poster slots : NameMap Slot) (name : String) :
    (inherit poster slots).find? name = (slots.find? name).or (poster.find? name) :=
  NameMap.find?_foldl_insertNew slots poster.entries name

/-- The fallbacks of a registry as the slots that they fill. -/
def fallbackSlots (registry : Registry) : List (String × Slot) :=
  registry.toList.filterMap fun meaning =>
    meaning.fallback.map fun value => (meaning.name, .values [value])

/-- The slot of a fallback. -/
def fallbackSlot? (registry : Registry) (name : String) : Option Slot :=
  ((registry.find? name).bind Annotation.fallback).map fun value => .values [value]

theorem fillFallbacks_eq (registry : Registry) (slots : NameMap Slot) :
    fillFallbacks registry slots =
      (fallbackSlots registry).foldl (fun filled entry => filled.insertNew entry.1 entry.2)
        slots := by
  unfold fillFallbacks fallbackSlots
  rw [List.foldl_filterMap]
  congr 1
  funext filled meaning
  cases meaning.fallback <;> rfl

theorem lookup_fallbackSlots (named : registry.Named) (name : String) :
    (fallbackSlots registry).lookup name = fallbackSlot? registry name := by
  -- Every annotation is kept under its own name, so the map can be read by its keys.
  have keyed : fallbackSlots registry = registry.annotations.entries.filterMap fun entry =>
      (entry.2.fallback.map fun value => Slot.values [value]).map (entry.1, ·) := by
    unfold fallbackSlots Registry.toList
    rw [List.filterMap_map]
    apply List.filterMap_congr
    intro entry member
    rw [named entry member, Option.map_map]
    rfl
  rw [keyed, lookup_filterMap_of_ordered registry.annotations.ordered
    fun meaning => meaning.fallback.map fun value => Slot.values [value]]
  unfold fallbackSlot? Registry.find? NameMap.find?
  rw [Option.map_bind]
  rfl

theorem find?_fillFallbacks (named : registry.Named) (slots : NameMap Slot) (name : String) :
    (fillFallbacks registry slots).find? name =
      (slots.find? name).or (fallbackSlot? registry name) := by
  rw [fillFallbacks_eq, NameMap.find?_foldl_insertNew, lookup_fallbackSlots named]

/-! ## The comments that have records -/

/-- The comments that are not posters, each with its position. -/
def ordinaries (comments : List Comment) : List (Comment × Nat) :=
  comments.zipIdx.filter fun placed => !placed.1.isPoster

/-- The first poster of the comments, where it stands before this position. -/
def posterBefore? (comments : List Comment) (position : Nat) : Option Comment :=
  (comments.take position).find? Comment.isPoster

/-- The record of the comment at a position. -/
def recordAt (registry : Registry) (comments : List Comment) (placed : Comment × Nat) : Record :=
  finish registry
    ((posterBefore? comments placed.2).map fun poster => (poster.ownRecord registry).annotations)
    (placed.1.ownRecord registry)

theorem lt_length_of_mem_ordinaries {placed : Comment × Nat}
    (member : placed ∈ ordinaries comments) : placed.2 < comments.length := by
  have listed := (List.mem_filter.1 member).1
  simpa using List.snd_lt_of_mem_zipIdx listed

theorem fst_mem_of_mem_ordinaries {placed : Comment × Nat}
    (member : placed ∈ ordinaries comments) : placed.1 ∈ comments :=
  List.fst_mem_of_mem_zipIdx (List.mem_filter.1 member).1

theorem ordinaries_concat (comments : List Comment) (comment : Comment) :
    ordinaries (comments ++ [comment]) =
      ordinaries comments ++ if comment.isPoster then [] else [(comment, comments.length)] := by
  unfold ordinaries
  rw [List.zipIdx_append, List.filter_append]
  cases poster : comment.isPoster <;> simp [poster]

/-- What stands before a position inside the comments does not change with what comes behind. -/
theorem posterBefore?_concat {position : Nat} (inside : position ≤ comments.length)
    (comment : Comment) :
    posterBefore? (comments ++ [comment]) position = posterBefore? comments position := by
  unfold posterBefore?
  rw [List.take_append_of_le_length inside]

theorem recordAt_concat (registry : Registry) (comment : Comment) {placed : Comment × Nat}
    (member : placed ∈ ordinaries comments) :
    recordAt registry (comments ++ [comment]) placed = recordAt registry comments placed := by
  have inside : placed.2 ≤ comments.length := Nat.le_of_lt (lt_length_of_mem_ordinaries member)
  unfold recordAt
  rw [posterBefore?_concat inside]

theorem recordAt_length (registry : Registry) (comments : List Comment) (comment : Comment) :
    recordAt registry (comments ++ [comment]) (comment, comments.length) =
      finish registry ((comments.find? Comment.isPoster).map fun poster =>
        (poster.ownRecord registry).annotations) (comment.ownRecord registry) := by
  unfold recordAt posterBefore?
  rw [List.take_left]

/-! ## Drafts -/

/-- What one more comment does to a draft. -/
theorem Draft.add_cases (registry : Registry) (draft : Draft) (comment : Comment) :
    (comment.isPoster = true ∧ (draft.add registry comment).catalogue = draft.catalogue ∧
      (draft.add registry comment).poster =
        draft.poster.or (some (comment.ownRecord registry).annotations)) ∨
    (comment.isPoster = false ∧ (draft.add registry comment).poster = draft.poster ∧
      (draft.add registry comment).catalogue =
        draft.catalogue.push (finish registry draft.poster (comment.ownRecord registry))) := by
  unfold Draft.add Comment.isPoster Comment.ownRecord
  cases role : comment.role <;> cases poster : draft.poster <;> simp

/-- The draft is what these comments leave behind. -/
structure Draft.LeftBy (registry : Registry) (comments : List Comment) (draft : Draft) : Prop where
  poster : draft.poster = (comments.find? Comment.isPoster).map fun poster =>
    (poster.ownRecord registry).annotations
  catalogue : draft.catalogue = .ofRecords ((ordinaries comments).map (recordAt registry comments))

theorem Draft.LeftBy.start (registry : Registry) : Draft.LeftBy registry [] .start := ⟨rfl, rfl⟩

theorem Draft.LeftBy.add {draft : Draft} (left : draft.LeftBy registry comments)
    (comment : Comment) : (draft.add registry comment).LeftBy registry (comments ++ [comment]) := by
  -- What stands before a comment stays the same when another one comes behind it.
  have earlier : (ordinaries comments).map (recordAt registry (comments ++ [comment])) =
      (ordinaries comments).map (recordAt registry comments) :=
    List.map_congr_left fun placed member => recordAt_concat registry comment member
  rcases draft.add_cases registry comment with ⟨role, catalogue, poster⟩ | ⟨role, poster, catalogue⟩
  · constructor
    · rw [poster, left.poster, List.find?_append]
      cases comments.find? Comment.isPoster <;> simp [role]
    · rw [catalogue, left.catalogue, ordinaries_concat, if_pos role, List.append_nil, earlier]
  · constructor
    · rw [poster, left.poster, List.find?_append]
      simp [role]
    · rw [catalogue, left.catalogue, ordinaries_concat, role, List.map_append, earlier,
        left.poster]
      simp [Catalogue.ofRecords, recordAt_length]

theorem Draft.LeftBy.foldl {draft : Draft} (left : draft.LeftBy registry comments)
    (more : List Comment) :
    (more.foldl (Draft.add registry) draft).LeftBy registry (comments ++ more) := by
  induction more generalizing comments draft with
  | nil => simpa using left
  | cons comment rest inductionHypothesis =>
    have continued := inductionHypothesis (left.add comment)
    rwa [List.append_assoc] at continued

/-- The catalogue of a document holds the records of its ordinary comments, in order. -/
theorem catalogue_ofComments (registry : Registry) (comments : List Comment) :
    (ofComments registry comments).catalogue =
      .ofRecords ((ordinaries comments).map (recordAt registry comments)) :=
  ((Draft.LeftBy.start registry).foldl comments).catalogue

/-! ## Precedence -/

/-- The slot of a comment: the one that it sets itself, or else the one of the poster, or else a
fallback. -/
def mergedSlot? (registry : Registry) (poster : Option Comment) (comment : Comment)
    (name : String) : Option Slot :=
  (comment.ownSlot? registry name).or <|
    (poster.bind fun poster => poster.ownSlot? registry name).or (fallbackSlot? registry name)

/-- The record keeps what its comment says, and takes from elsewhere only what is missing. -/
structure Merges (registry : Registry) (comments : List Comment) (placed : Comment × Nat)
    (record : Record) : Prop where
  description : record.description = String.ofList placed.1.plainText
  declaration : record.declaration = placed.1.declaration
  slots : ∀ name, record.annotations.find? name =
    mergedSlot? registry (posterBefore? comments placed.2) placed.1 name

theorem merges_recordAt (named : registry.Named) (comments : List Comment)
    (placed : Comment × Nat) :
    Merges registry comments placed (recordAt registry comments placed) where
  description := placed.1.ownRecord_description registry
  declaration := rfl
  slots name := by
    unfold recordAt finish
    rw [find?_fillFallbacks named, find?_inherit, Option.or_assoc]
    unfold mergedSlot? Comment.ownSlot?
    cases posterBefore? comments placed.2 <;> simp

/-- Nothing but the comment and the poster before it has an influence on the record. -/
theorem Merges.unique {others : List Comment} {placed otherPlaced : Comment × Nat}
    {record other : Record} (merges : Merges registry comments placed record)
    (otherMerges : Merges registry others otherPlaced other) (same : placed.1 = otherPlaced.1)
    (poster : posterBefore? comments placed.2 = posterBefore? others otherPlaced.2) :
    record = other := by
  obtain ⟨description, declaration, annotations⟩ := record
  obtain ⟨otherDescription, otherDeclaration, otherAnnotations⟩ := other
  have descriptions : description = otherDescription := by
    have first : description = String.ofList placed.1.plainText := merges.description
    have second : otherDescription = String.ofList otherPlaced.1.plainText :=
      otherMerges.description
    rw [first, second, same]
  have declarations : declaration = otherDeclaration := by
    have first : declaration = placed.1.declaration := merges.declaration
    have second : otherDeclaration = otherPlaced.1.declaration := otherMerges.declaration
    rw [first, second, same]
  have slots : annotations = otherAnnotations := by
    apply NameMap.ext_find?
    intro name
    have first := merges.slots name
    have second := otherMerges.slots name
    rw [← same, ← poster] at second
    exact first.trans second.symm
  rw [descriptions, declarations, slots]

/-- Each kind has the records of its ordinary comments, in order, every record merged from its
comment, the first poster if that stands before, and the fallbacks; and there are no others. -/
theorem ofComments_merges (annotations : List Annotation) (comments : List Comment) :
    (∀ kind, List.Forall₂ (Merges (.ofList annotations) comments)
      ((ordinaries comments).filter fun placed => placed.1.declaration.kind = kind)
      ((ofComments (.ofList annotations) comments).catalogue.recordsOf kind)) ∧
    (ofComments (.ofList annotations) comments).catalogue.size = (ordinaries comments).length ∧
    ∀ (others : List Comment) (placed otherPlaced : Comment × Nat) (record other : Record),
      Merges (.ofList annotations) comments placed record →
      Merges (.ofList annotations) others otherPlaced other → placed.1 = otherPlaced.1 →
      posterBefore? comments placed.2 = posterBefore? others otherPlaced.2 → record = other := by
  refine ⟨fun kind => ?_, ?_, fun _ _ _ _ _ merges => merges.unique⟩
  · rw [catalogue_ofComments, Catalogue.recordsOf_ofRecords, List.filter_map,
      List.forall₂_map_right_iff]
    exact List.forall₂_same.2 fun placed _ =>
      merges_recordAt (Registry.named_ofList annotations) comments placed
  · rw [catalogue_ofComments, Catalogue.size_ofRecords, List.length_map]

/-- A poster behind a comment, or a second one, changes nothing in the record. -/
theorem ofComments_merges_two_posters :
    let group := (ofReader "group" plain).withFallback .null
    let first : Comment := ⟨["@group math".toList], .poster, .unknown⟩
    let comment : Comment := ⟨["Doubles.".toList], .ordinary, .unknown⟩
    let second : Comment := ⟨["@group text".toList], .poster, .unknown⟩
    let comments := [first, second, comment, second]
    posterBefore? comments 2 = posterBefore? [first, comment] 1 ∧
      recordAt (.ofList [group]) comments (comment, 2) =
        recordAt (.ofList [group]) [first, comment] (comment, 1) := by
  intro group first comment second comments
  have named := Registry.named_ofList [group]
  have poster : posterBefore? comments 2 = posterBefore? [first, comment] 1 := by decide
  exact ⟨poster, (ofComments_merges [group] comments).2.2 [first, comment] (comment, 2) (comment, 1)
    _ _ (merges_recordAt named _ _) (merges_recordAt named _ _) rfl poster⟩

/-! ## Kinds that annotations may stand on -/

/-- Why an annotation may be in the record of a comment: each way for a slot to get there, with the
declaration on which the annotation was checked on that way. -/
inductive Warrant (registry : Registry) (poster : Option Comment) (comment : Comment)
    (meaning : Annotation) (name : String) (slot : Slot) : Prop where
  | own (set : comment.ownSlot? registry name = some slot)
      (allowed : meaning.allowedOn comment.declaration.kind = true)
  | inherited (unset : comment.ownSlot? registry name = none) (lender : Comment)
      (before : poster = some lender) (set : lender.ownSlot? registry name = some slot)
      (allowed : meaning.allowedOn lender.declaration.kind = true)
  | fallback (unset : comment.ownSlot? registry name = none)
      (missing : (poster.bind fun poster => poster.ownSlot? registry name) = none)
      (value : Json) (given : meaning.fallback = some value) (set : slot = .values [value])

theorem Merges.warrant {placed : Comment × Nat} {record : Record} {name : String} {slot : Slot}
    (merges : Merges registry comments placed record)
    (set : record.annotations.find? name = some slot) :
    ∃ meaning, registry.find? name = some meaning ∧
      Warrant registry (posterBefore? comments placed.2) placed.1 meaning name slot := by
  -- The three ways come in the order of precedence, each with the earlier ones failing.
  rw [merges.slots, mergedSlot?, Option.or_eq_some_iff] at set
  rcases set with own | ⟨unset, elsewhere⟩
  · obtain ⟨meaning, found, allowed⟩ := Comment.find?_of_ownSlot? own
    exact ⟨meaning, found, .own own allowed⟩
  · rcases Option.or_eq_some_iff.1 elsewhere with inherited | ⟨missing, fallback⟩
    · obtain ⟨lender, before, lent⟩ := Option.bind_eq_some_iff.1 inherited
      obtain ⟨meaning, found, allowed⟩ := Comment.find?_of_ownSlot? lent
      exact ⟨meaning, found, .inherited unset lender before lent allowed⟩
    · obtain ⟨value, given, rfl⟩ := Option.map_eq_some_iff.1 fallback
      obtain ⟨meaning, found, kept⟩ := Option.bind_eq_some_iff.1 given
      exact ⟨meaning, found, .fallback unset missing value kept rfl⟩

/-- Every annotation of a record is registered, and it may stand on the declaration of the comment
whose lines have set it, unless it is a fallback. -/
theorem ofComments_warrant (annotations : List Annotation) (comments : List Comment)
    {group : Kind × List Record} {record : Record}
    (listed : group ∈ (ofComments (.ofList annotations) comments).catalogue.groups)
    (member : record ∈ group.2) :
    ∃ placed ∈ ordinaries comments, Merges (.ofList annotations) comments placed record ∧
      ∀ name slot, record.annotations.find? name = some slot →
        ∃ meaning, (Registry.ofList annotations).find? name = some meaning ∧
          Warrant (.ofList annotations) (posterBefore? comments placed.2) placed.1 meaning name
            slot := by
  rw [catalogue_ofComments] at listed
  obtain ⟨placed, ordinary, rfl⟩ := List.mem_map.1 (Catalogue.mem_of_mem_groups listed member)
  have merges := merges_recordAt (Registry.named_ofList annotations) comments placed
  exact ⟨placed, ordinary, merges, fun _ _ => merges.warrant⟩

/-- An annotation for functions that has no fallback, and one that has. -/
def functionAnnotations : List Annotation :=
  [(ofReader "cost" plain).onlyOn [.function],
    ((ofReader "purity" plain).onlyOn [.function]).withFallback (.str "pure")]

/-- A poster that stands before a function, and the comment of a mixin. -/
def posterOfFunction : List Comment :=
  [⟨["@cost low".toList], .poster, .block .function "f" "" none⟩,
    ⟨["Pads.".toList], .ordinary, .block .mixin "m" "" none⟩]

theorem ofComments_warrant_mixin :
    ∃ record, (Kind.mixin, [record]) ∈
        (ofComments (.ofList functionAnnotations) posterOfFunction).catalogue.groups ∧
      record.annotations.find? "cost" = some (.values [.str "low"]) ∧
      ∃ placed ∈ ordinaries posterOfFunction, ∃ meaning,
        Warrant (.ofList functionAnnotations) (posterBefore? posterOfFunction placed.2) placed.1
          meaning "cost" (.values [.str "low"]) := by
  let record := recordAt (.ofList functionAnnotations) posterOfFunction (posterOfFunction[1], 1)
  have groups : (ofComments (.ofList functionAnnotations) posterOfFunction).catalogue.groups =
      [(Kind.mixin, [record])] := rfl
  have listed : (Kind.mixin, [record]) ∈
      (ofComments (.ofList functionAnnotations) posterOfFunction).catalogue.groups := by
    rw [groups]
    exact List.mem_cons_self
  have set : record.annotations.find? "cost" = some (.values [.str "low"]) := rfl
  obtain ⟨placed, ordinary, _, warrants⟩ :=
    ofComments_warrant functionAnnotations posterOfFunction listed List.mem_cons_self
  obtain ⟨meaning, _, warrant⟩ := warrants "cost" _ set
  exact ⟨record, listed, set, placed, ordinary, meaning, warrant⟩

/-- What a poster lends is not checked again, and neither is a fallback. -/
theorem not_forall_allowed : ¬ ∀ (annotations : List Annotation) (comments : List Comment),
    ∀ group ∈ (ofComments (.ofList annotations) comments).catalogue.groups,
      ∀ record ∈ group.2, ∀ name ∈ record.annotations.names,
        ((Registry.ofList annotations).find? name).any (·.allowedOn record.kind) = true := by
  intro claim
  exact absurd (claim functionAnnotations posterOfFunction) (by decide)

end Document

end StyleDoc
