import StyleDoc.Annotation.Standard
import StyleDoc.Proofs.Accounts

/-!
# Aliases

A tag that stands for a name can be written for the name and the name for the tag, wherever every
name stands for itself: nothing but the name has an influence on the document.

The annotation that a tag stands for need not list it. When an annotation takes the place of another
one of its name, the aliases of the other one stay in the table until an annotation lists them
again.
-/

namespace StyleDoc

/-! ## Stale aliases -/

namespace Registry

open Annotation (ofReader plain)

variable {annotations : List Annotation} {tag name : String}

/-- The tag stands for another name, and no annotation of this name lists it. -/
structure Stale (registry : Registry) (tag name : String) : Prop where
  different : name ≠ tag
  resolved : registry.resolve tag = name
  unlisted : ¬ ∃ meaning, registry.find? name = some meaning ∧ tag ∈ meaning.aliases

/-- The last annotation that lists the tag has this name, and later another one of the name has been
registered. -/
def Outlived (annotations : List Annotation) (tag name : String) : Prop :=
  ∃ earlier meaning later, annotations = earlier ++ meaning :: later ∧
    (Lists tag meaning ∧ ∀ other ∈ later, ¬ Lists tag other) ∧
    meaning.name = name ∧ ∃ other ∈ later, other.name = name

theorem Stale.outlived (stale : (ofList annotations).Stale tag name) :
    Outlived annotations tag name := by
  have renamed : (ofList annotations).resolve tag ≠ tag := stale.resolved ▸ stale.different
  obtain ⟨meaning, ⟨earlier, later, parts, lists, none⟩, resolved⟩ :=
    exists_isLast_of_resolve_ne renamed
  have named : meaning.name = name := resolved.symm.trans stale.resolved
  refine ⟨earlier, meaning, later, parts, ⟨lists, none⟩, named, ?_⟩
  -- If the name had not been registered again, it would still have the annotation with the alias.
  by_contra last
  have found : (ofList annotations).find? name = some meaning := by
    refine find?_ofList_eq_some_iff.2 ⟨earlier, later, parts, ⟨lists.1, named⟩, ?_⟩
    intro other member bears
    exact last ⟨other, member, bears.2⟩
  exact stale.unlisted ⟨meaning, found, lists.2⟩

theorem Outlived.stale (outlived : Outlived annotations tag name) (different : name ≠ tag) :
    (ofList annotations).Stale tag name := by
  obtain ⟨earlier, meaning, later, parts, ⟨lists, none⟩, named, again, member, same⟩ := outlived
  have last : IsLast (Lists tag) annotations meaning := ⟨earlier, later, parts, lists, none⟩
  have bears : Bears name again := by
    refine ⟨?_, same⟩
    unfold Annotation.Free
    rw [same, ← named]
    exact lists.1
  constructor
  case different => exact different
  case resolved => rw [resolve_ofList_of_isLast last, named]
  case unlisted =>
    rintro ⟨kept, found, listed⟩
    -- The annotation that is kept is one of the later ones, which do not list the tag.
    obtain ⟨newest, newestLater⟩ := exists_isLast member bears
    have newestFound : (ofList annotations).find? name = some newest := by
      rw [find?_ofList_eq_some_iff, parts, List.append_cons]
      exact newestLater.append_left _
    obtain rfl := Option.some.inj (found.symm.trans newestFound)
    exact none kept newestLater.mem ⟨newestLater.holds.1, listed⟩

/-- After any history, a tag stands for an annotation that does not list it exactly when the last
annotation that did has been replaced. -/
theorem stale_ofList_iff (annotations : List Annotation) (tag name : String) :
    (ofList annotations).Stale tag name ↔ name ≠ tag ∧ Outlived annotations tag name := by
  constructor
  · intro stale
    exact ⟨stale.different, stale.outlived⟩
  · rintro ⟨different, outlived⟩
    exact outlived.stale different

/-- Where no name is registered twice, every alias is listed by the annotation that it stands
for. -/
theorem not_stale_of_nodup (distinct : (annotations.map (·.name)).Nodup) (tag name : String) :
    ¬ (ofList annotations).Stale tag name := by
  intro stale
  obtain ⟨earlier, meaning, later, rfl, -, named, again, member, same⟩ := stale.outlived
  rw [List.map_append, List.map_cons] at distinct
  have once := (List.nodup_cons.1 (List.nodup_append.1 distinct).2.1).1
  exact once (List.mem_map.2 ⟨again, member, same.trans named.symm⟩)

example (tag name : String) : ¬ standard.Stale tag name := not_stale_of_nodup (by decide) tag name

/-- An annotation, and a second one of its name without its alias. -/
def replacedNote : List Annotation :=
  [(ofReader "note" plain).withAliases ["n"], ofReader "note" plain]

theorem not_forall_listed : ¬ ∀ (annotations : List Annotation) (tag : String),
    (ofList annotations).resolve tag ≠ tag →
      ∃ meaning, (ofList annotations).find? ((ofList annotations).resolve tag) = some meaning ∧
        tag ∈ meaning.aliases := by
  intro claim
  have resolved : (ofList replacedNote).resolve "n" = "note" := by decide
  obtain ⟨meaning, found, listed⟩ := claim replacedNote "n" (by decide)
  rw [resolved] at found
  have kept : (ofList replacedNote).find? "note" = some replacedNote[1] := rfl
  cases found.symm.trans kept
  exact absurd listed (by decide)

end Registry

/-! ## Tags that stand for one name -/

/-- A line can begin with the tag, behind an at sign: it has at least one character. -/
structure IsTag (tag : String) : Prop where
  nonempty : tag.toList ≠ []
  chars : ∀ c ∈ tag.toList, isTagChar c = true

/-- The line with the tag, and what follows the tag. -/
def tagged (tag : String) (behind : List Char) : List Char := '@' :: (tag.toList ++ behind)

theorem IsTag.splitTag? {tag : String} (isTag : IsTag tag) {behind : List Char}
    (ends : ∀ c, behind.head? = some c → isTagChar c = false) :
    StyleDoc.splitTag? (tagged tag behind) = some (tag.toList, behind) :=
  splitTag?_eq_some_iff.2 ⟨_, rfl, isTag.nonempty, rfl, isTag.chars, ends⟩

/-- The lines are the same but for the tag, in whose place the name may stand. -/
inductive Renamed (tag name : String) : List Char → List Char → Prop where
  | same (line : List Char) : Renamed tag name line line
  | renamed {behind : List Char} (ends : ∀ c, behind.head? = some c → isTagChar c = false) :
      Renamed tag name (tagged tag behind) (tagged name behind)

/-- The comments are the same but for the tag in any of their lines. -/
structure Comment.Renamed (tag name : String) (comment other : Comment) : Prop where
  lines : List.Forall₂ (StyleDoc.Renamed tag name) comment.lines other.lines
  role : other.role = comment.role
  declaration : other.declaration = comment.declaration

namespace Registry

variable {annotations : List Annotation} {tag : String}

/-- Every name stands for itself. -/
def Settled (registry : Registry) : Prop :=
  ∀ meaning ∈ registry.toList, registry.resolve meaning.name = meaning.name

theorem settled_ofList (unlisted : ∀ meaning ∈ annotations, ∀ other ∈ annotations,
    meaning.name ∉ other.aliases) : (ofList annotations).Settled := by
  intro meaning listed
  obtain ⟨name, found⟩ := mem_toList_iff.1 listed
  have member := (mem_of_find?_ofList found).1
  exact resolve_ofList_of_forall fun other registered lists =>
    unlisted meaning member other registered lists.2

theorem Settled.resolve_resolve (settled : (ofList annotations).Settled) (tag : String) :
    (ofList annotations).resolve ((ofList annotations).resolve tag) =
      (ofList annotations).resolve tag := by
  by_cases renamed : (ofList annotations).resolve tag = tag
  · rw [renamed, renamed]
  · obtain ⟨meaning, found⟩ := exists_find?_of_resolve_ne renamed
    have own := settled meaning (mem_toList_iff.2 ⟨_, found⟩)
    rwa [name_eq_of_find?_ofList found] at own

/-- The tag itself is seen in a warning only, and there it stands for no other name. -/
theorem readTag_resolve (settled : (ofList annotations).Settled) (kind : Kind) (tag : String)
    (behind : List Char) :
    (ofList annotations).readTag kind ((ofList annotations).resolve tag) behind =
      (ofList annotations).readTag kind tag behind := by
  by_cases renamed : (ofList annotations).resolve tag = tag
  · rw [renamed]
  · obtain ⟨meaning, found⟩ := exists_find?_of_resolve_ne renamed
    simp only [readTag, settled.resolve_resolve, found]

theorem readLine_renamed (settled : (ofList annotations).Settled) (isTag : IsTag tag)
    (isName : IsTag ((ofList annotations).resolve tag)) (kind : Kind) {line other : List Char}
    (renamed : Renamed tag ((ofList annotations).resolve tag) line other) :
    (ofList annotations).readLine kind other = (ofList annotations).readLine kind line := by
  cases renamed with
  | same => rfl
  | renamed ends =>
    simp only [readLine, isTag.splitTag? ends, isName.splitTag? ends, String.ofList_toList]
    exact readTag_resolve settled kind tag _

end Registry

namespace Document

/-- Comments that differ in their lines alone, and whose lines are found to be the same. -/
structure ReadAlike (registry : Registry) (comment other : Comment) : Prop where
  role : other.role = comment.role
  declaration : other.declaration = comment.declaration
  readings : other.readings registry = comment.readings registry

theorem Draft.add_of_readAlike {registry : Registry} {comment other : Comment}
    (alike : ReadAlike registry comment other) (draft : Draft) :
    draft.add registry other = draft.add registry comment := by
  obtain ⟨role, declaration, readings⟩ := alike
  unfold Comment.readings at readings
  unfold Draft.add
  rw [readings, declaration, role]

/-- A document depends on lines through what they are found to be. -/
theorem ofComments_of_readAlike {registry : Registry} {comments others : List Comment}
    (alike : List.Forall₂ (ReadAlike registry) comments others) :
    ofComments registry others = ofComments registry comments := by
  have run : ∀ draft : Draft, others.foldl (Draft.add registry) draft =
      comments.foldl (Draft.add registry) draft := by
    induction alike with
    | nil => exact fun _ => rfl
    | cons first _ inductionHypothesis =>
      intro draft
      rw [List.foldl_cons, List.foldl_cons, Draft.add_of_readAlike first, inductionHypothesis]
  unfold ofComments
  rw [run]

end Document

namespace Registry

variable {annotations : List Annotation} {tag : String}

theorem readAlike_of_renamed (settled : (ofList annotations).Settled) (isTag : IsTag tag)
    (isName : IsTag ((ofList annotations).resolve tag)) {comment other : Comment}
    (renamed : comment.Renamed tag ((ofList annotations).resolve tag) other) :
    Document.ReadAlike (ofList annotations) comment other where
  role := renamed.role
  declaration := renamed.declaration
  readings := by
    unfold Comment.readings readLines
    rw [renamed.declaration, ← List.forall₂_eq_eq_eq, List.forall₂_map_left_iff,
      List.forall₂_map_right_iff]
    exact renamed.lines.flip.imp fun line other => readLine_renamed settled isTag isName _

/-- Writing its name for a tag changes nothing in a document. -/
def Interchangeable (registry : Registry) : Prop :=
  ∀ tag, IsTag tag → IsTag (registry.resolve tag) → ∀ comments others,
    List.Forall₂ (Comment.Renamed tag (registry.resolve tag)) comments others →
    Document.ofComments registry others = Document.ofComments registry comments

theorem Settled.interchangeable (settled : (ofList annotations).Settled) :
    (ofList annotations).Interchangeable := by
  intro tag isTag isName comments others renamed
  apply Document.ofComments_of_readAlike
  exact renamed.imp fun comment other => readAlike_of_renamed settled isTag isName

/-- No name of a standard annotation is an alias of another one. -/
theorem settled_standard : standard.Settled := by
  apply settled_ofList
  decide

instance (tag : String) : Decidable (IsTag tag) :=
  decidable_of_iff (tag.toList ≠ [] ∧ tag.toList.all isTagChar = true)
    ⟨fun both => ⟨both.1, List.all_eq_true.1 both.2⟩,
      fun isTag => ⟨isTag.nonempty, List.all_eq_true.2 isTag.chars⟩⟩

theorem isTag_resolve_standard (isTag : IsTag tag) : IsTag (standard.resolve tag) := by
  have names : ∀ meaning ∈ Annotation.standard, IsTag meaning.name := by decide
  by_cases renamed : standard.resolve tag = tag
  · rwa [renamed]
  · obtain ⟨meaning, last, resolved⟩ := exists_isLast_of_resolve_ne renamed
    have named : standard.resolve tag = meaning.name := resolved
    rw [named]
    exact names meaning last.mem

/-- Where every name stands for itself, tags and the names that they stand for are interchangeable,
and the standard annotations are a case of this. -/
theorem tags_interchangeable :
    (∀ annotations, (ofList annotations).Settled → (ofList annotations).Interchangeable) ∧
      standard.Settled ∧ ∀ tag, IsTag tag → IsTag (standard.resolve tag) :=
  ⟨fun _ settled => settled.interchangeable, settled_standard, fun _ => isTag_resolve_standard⟩

/-- A poster that lends a parameter, and a variable that may have none. -/
def parameterComments (tag : String) : List Comment :=
  [⟨[tagged tag " $n".toList], .poster, .block .function "f" "" none⟩,
    ⟨["Width".toList, tagged tag " $m".toList], .ordinary, .var "w" "1" .locally none⟩]

theorem tags_interchangeable_poster :
    standard.Settled ∧ IsTag "param" ∧ IsTag (standard.resolve "param") ∧
      standard.resolve "param" = "parameter" ∧
      List.Forall₂ (Comment.Renamed "param" (standard.resolve "param"))
        (parameterComments "param") (parameterComments "parameter") ∧
      Document.ofComments standard (parameterComments "parameter") =
        Document.ofComments standard (parameterComments "param") := by
  have resolved : standard.resolve "param" = "parameter" := by decide
  have renamed : List.Forall₂ (Comment.Renamed "param" (standard.resolve "param"))
      (parameterComments "param") (parameterComments "parameter") := by
    rw [resolved]
    have ends : ∀ rest c, (' ' :: rest).head? = some c → isTagChar c = false := by
      rintro rest c ⟨⟩
      rfl
    have poster : List.Forall₂ (Renamed "param" "parameter") [tagged "param" " $n".toList]
        [tagged "parameter" " $n".toList] := .cons (.renamed (ends _)) .nil
    have ordinary : List.Forall₂ (Renamed "param" "parameter")
        ["Width".toList, tagged "param" " $m".toList]
        ["Width".toList, tagged "parameter" " $m".toList] :=
      .cons (.same _) (.cons (.renamed (ends _)) .nil)
    exact .cons ⟨poster, rfl, rfl⟩ (.cons ⟨ordinary, rfl, rfl⟩ .nil)
  have isTag : IsTag "param" := by decide
  have isName := isTag_resolve_standard isTag
  exact ⟨settled_standard, isTag, isName, resolved, renamed,
    tags_interchangeable.1 Annotation.standard settled_standard "param" isTag isName _ _ renamed⟩

end Registry

end StyleDoc
