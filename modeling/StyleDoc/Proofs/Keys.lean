import StyleDoc.Annotation.Standard
import StyleDoc.Proofs.Inheritance
import StyleDoc.Proofs.Json.Alike
import StyleDoc.Proofs.Serialization

/-!
# Keys of written catalogues

No object of a written catalogue has a key twice. The labels of kinds are all different, the fields
of a declaration are fixed, an annotation never has the name of a fixed field, and the names of
annotations are different from each other; so what is left are the values that annotations give.
-/

namespace StyleDoc

open Json (DistinctKeys)

/-! ## Values of annotations -/

namespace Annotation

/-- The ways for an annotation to give a value to a record. -/
inductive Gives (meaning : Annotation) (value : Json) : Prop where
  | read (text : List Char) (given : meaning.read text = some value)
  | fallback (given : meaning.fallback = some value)

/-- No value that is read has a key twice. -/
def ReadsDistinct (read : List Char → Option Json) : Prop :=
  ∀ text value, read text = some value → value.DistinctKeys

/-- The fields are sorted by key, and no value has a key twice. -/
structure SortedFields (fields : List (String × Json)) : Prop where
  ordered : fields.Pairwise (·.1 < ·.1)
  each : ∀ field ∈ fields, field.2.DistinctKeys

theorem SortedFields.nil : SortedFields [] := ⟨.nil, fun _ member => nomatch member⟩

theorem SortedFields.insertEntry {fields : List (String × Json)} (sorted : SortedFields fields)
    (key : String) {value : Json} (distinct : value.DistinctKeys) :
    SortedFields (insertEntry key value fields) where
  ordered := pairwise_insertEntry sorted.ordered
  each field member := by
    rcases eq_or_mem_of_mem_insertEntry member with rfl | earlier
    · exact distinct
    · exact sorted.each field earlier

theorem SortedFields.distinctKeys {fields : List (String × Json)} (sorted : SortedFields fields) :
    (Json.obj fields).DistinctKeys :=
  .obj (List.pairwise_map.2 (sorted.ordered.imp String.ne_of_lt)) sorted.each

theorem Fields.distinctKeys_toJson (fields : Fields) : fields.toJson.DistinctKeys := by
  unfold toJson
  apply SortedFields.distinctKeys
  -- Each step leaves the fields as they are, or sorts a string in.
  refine List.foldlRecOn fields _ .nil fun done sorted field _ => ?_
  split
  case h_1 => exact sorted
  case h_2 => exact sorted.insertEntry _ (.str _)

/-! Every reader makes its value from what it has found in the text, if it has found anything. -/

section Readers

variable {α : Type} {make : α → Json} {found? : Option α} {made value : Json}

theorem distinctKeys_of_some (distinct : made.DistinctKeys) (read : some made = some value) :
    value.DistinctKeys := by
  obtain rfl := Option.some.inj read
  exact distinct

theorem distinctKeys_of_map (each : ∀ found, (make found).DistinctKeys)
    (read : found?.map make = some value) : value.DistinctKeys := by
  obtain ⟨found, _, rfl⟩ := Option.map_eq_some_iff.1 read
  exact each found

theorem readsDistinct_plain : ReadsDistinct plain :=
  fun _ _ => distinctKeys_of_some (.str _)

theorem readsDistinct_lowered : ReadsDistinct lowered :=
  fun _ _ => distinctKeys_of_some (.str _)

theorem readsDistinct_word : ReadsDistinct word :=
  fun _ _ => distinctKeys_of_map fun _ => .str _

theorem readsDistinct_nothing : ReadsDistinct nothing :=
  fun _ _ read => nomatch read

theorem readsDistinct_parameter : ReadsDistinct parameter :=
  fun _ _ => distinctKeys_of_map fun _ => Fields.distinctKeys_toJson _

theorem readsDistinct_returned : ReadsDistinct returned :=
  fun _ _ => distinctKeys_of_some (Fields.distinctKeys_toJson _)

theorem readsDistinct_requirement : ReadsDistinct requirement :=
  fun _ _ => distinctKeys_of_map fun _ => Fields.distinctKeys_toJson _

theorem readsDistinct_version : ReadsDistinct version :=
  fun _ _ => distinctKeys_of_map fun _ => Fields.distinctKeys_toJson _

theorem readsDistinct_link : ReadsDistinct link :=
  fun _ _ => distinctKeys_of_map fun _ => Fields.distinctKeys_toJson _

theorem readsDistinct_sample : ReadsDistinct sample :=
  fun _ _ => distinctKeys_of_some (Fields.distinctKeys_toJson _)

end Readers

theorem distinctKeys_of_mem_standard {meaning : Annotation} (listed : meaning ∈ standard)
    {value : Json} (given : meaning.Gives value) : value.DistinctKeys := by
  have all : ∀ meaning ∈ standard, ReadsDistinct meaning.read ∧
      ∀ value, meaning.fallback = some value → value.DistinctKeys := by
    simp [standard, ofReader, withAliases, withFallback, onlyOn, readsDistinct_plain,
      readsDistinct_lowered, readsDistinct_word, readsDistinct_nothing, readsDistinct_parameter,
      readsDistinct_returned, readsDistinct_requirement, readsDistinct_version,
      readsDistinct_link, readsDistinct_sample, DistinctKeys.str]
  cases given with
  | read text given => exact (all meaning listed).1 text value given
  | fallback given => exact (all meaning listed).2 value given

end Annotation

/-! ## Records -/

theorem Slot.distinctKeys_toJson {slot : Slot} (each : ∀ value ∈ slot.items, value.DistinctKeys) :
    slot.toJson.DistinctKeys := by
  cases slot with
  | flag value => exact .bool value
  | values items => exact .arr each

theorem distinctKeys_of_mem_lineField {lines : Option LineRange} {field : String × Json}
    (member : field ∈ lineField lines) : field.2.DistinctKeys := by
  obtain ⟨range, _, rfl⟩ := List.mem_map.1 member
  have keys : ["start", "end"].Nodup := by decide
  refine .obj keys ?_
  intro inner listed
  rcases List.mem_pair.1 listed with rfl | rfl
  · exact .int _
  · exact .int _

theorem Declaration.distinctKeys_toJson (declaration : Declaration) :
    declaration.toJson.DistinctKeys := by
  cases declaration with
  | block form name body lines =>
    unfold toJson
    refine .obj ?_ ?_
    · cases lines <;> simp [lineField]
    · intro field member
      simp only [List.mem_cons] at member
      rcases member with rfl | rfl | rfl | line
      · exact .str _
      · exact .str _
      · exact .str _
      · exact distinctKeys_of_mem_lineField line
  | var name value scope lines =>
    unfold toJson
    refine .obj ?_ ?_
    · cases lines <;> simp [lineField]
    · intro field member
      simp only [List.mem_cons] at member
      rcases member with rfl | rfl | rfl | rfl | line
      · exact .str _
      · exact .str _
      · exact .str _
      · exact .str _
      · exact distinctKeys_of_mem_lineField line
  | unknown =>
    unfold toJson
    refine .obj (by simp) ?_
    intro field member
    obtain rfl := List.mem_singleton.1 member
    exact .str _

theorem Record.exists_fields (record : Record) : ∃ fields, record.toJson = .obj fields ∧
    fields.map (·.1) = "description" :: "context" :: record.annotations.names :=
  ⟨_, rfl, by simp [NameMap.names]⟩

/-- The names of the two fixed fields are reserved, so no annotation has them. -/
theorem Record.nodup_keys {record : Record}
    (free : ∀ name ∈ record.annotations.names, name ∉ Registry.reservedNames) :
    ("description" :: "context" :: record.annotations.names).Nodup := by
  have description : "description" ∈ Registry.reservedNames := by decide
  have context : "context" ∈ Registry.reservedNames := by decide
  have different : "description" ≠ "context" := by decide
  rw [List.nodup_cons, List.nodup_cons, List.mem_cons, not_or]
  exact ⟨⟨different, fun member => free _ member description⟩, fun member => free _ member context,
    record.annotations.nodup_names⟩

theorem Record.distinctKeys_toJson {record : Record}
    (free : ∀ name ∈ record.annotations.names, name ∉ Registry.reservedNames)
    (each : ∀ entry ∈ record.annotations.entries, ∀ value ∈ entry.2.items, value.DistinctKeys) :
    record.toJson.DistinctKeys := by
  unfold toJson
  refine .obj ?_ ?_
  · rw [List.map_cons, List.map_cons, List.map_map]
    exact nodup_keys free
  · intro field member
    rw [List.mem_cons, List.mem_cons, List.mem_map] at member
    rcases member with rfl | rfl | ⟨entry, listed, rfl⟩
    · exact .str _
    · exact record.declaration.distinctKeys_toJson
    · exact Slot.distinctKeys_toJson (each entry listed)

theorem Catalogue.distinctKeys_toJson {records : List Record}
    (each : ∀ record ∈ records, record.toJson.DistinctKeys) :
    (ofRecords records).toJson.DistinctKeys := by
  have kinds := nodup_kinds_ofRecords records
  unfold toJson
  refine .obj ?_ ?_
  · have labels := kinds.map Kind.label_injective
    rw [Catalogue.kinds, List.map_map] at labels
    rwa [List.map_map]
  · intro field member
    obtain ⟨group, listed, rfl⟩ := List.mem_map.1 member
    refine .arr ?_
    intro item written
    obtain ⟨record, inside, rfl⟩ := List.mem_map.1 written
    exact each record (mem_of_mem_groups listed inside)

/-! ## Documents -/

namespace Document

open Annotation (ofReader plain)

/-- Every value in a record comes from an annotation that is registered under its name. -/
theorem Warrant.gives {registry : Registry} {poster : Option Comment} {comment : Comment}
    {meaning : Annotation} {name : String} {slot : Slot} {value : Json}
    (warrant : Warrant registry poster comment meaning name slot)
    (found : registry.find? name = some meaning) (member : value ∈ slot.contents) :
    ∃ giver, registry.find? name = some giver ∧ giver.Gives value := by
  cases warrant with
  | own set _ =>
    obtain ⟨giver, registered, text, given⟩ := read_of_mem_contents set member
    exact ⟨giver, registered, .read text given⟩
  | inherited _ lender _ set _ =>
    obtain ⟨giver, registered, text, given⟩ := read_of_mem_contents set member
    exact ⟨giver, registered, .read text given⟩
  | fallback _ _ kept given set =>
    subst set
    obtain rfl := List.mem_singleton.1 member
    exact ⟨meaning, found, .fallback given⟩

/-- What stands under a name in a record has been put there by an annotation. -/
theorem Merges.exists_warrant {registry : Registry} {comments : List Comment}
    {placed : Comment × Nat} {record : Record} (merges : Merges registry comments placed record)
    {name : String} (key : name ∈ record.annotations.names) :
    ∃ meaning slot, registry.find? name = some meaning ∧
      Warrant registry (posterBefore? comments placed.2) placed.1 meaning name slot := by
  obtain ⟨entry, listed, rfl⟩ := List.mem_map.1 key
  obtain ⟨meaning, found, warrant⟩ := merges.warrant (NameMap.find?_of_mem_entries listed)
  exact ⟨meaning, entry.2, found, warrant⟩

/-- A catalogue has no key twice unless an annotation gives a value that has. -/
theorem distinctKeys_toJson {annotations : List Annotation}
    (given : ∀ meaning ∈ annotations, ∀ value, meaning.Gives value → value.DistinctKeys)
    (comments : List Comment) :
    (ofComments (.ofList annotations) comments).catalogue.toJson.DistinctKeys := by
  rw [catalogue_ofComments]
  apply Catalogue.distinctKeys_toJson
  intro record member
  obtain ⟨placed, _, rfl⟩ := List.mem_map.1 member
  have merges := merges_recordAt (Registry.named_ofList annotations) comments placed
  apply Record.distinctKeys_toJson
  · intro name key
    obtain ⟨meaning, _, found, _⟩ := merges.exists_warrant key
    exact (Registry.mem_of_find?_ofList found).2
  · intro entry listed value member
    obtain ⟨meaning, found, warrant⟩ := merges.warrant (NameMap.find?_of_mem_entries listed)
    have said := entry.2.items_subset_contents member
    obtain ⟨giver, registered, gives⟩ := warrant.gives found said
    exact given giver (Registry.mem_of_find?_ofList registered).1 value gives

/-! ## Keys of records -/

/-- A line of one of the comments begins with a tag that stands for the name. -/
def Tagged (registry : Registry) (comments : List Comment) (name : String) : Prop :=
  ∃ comment ∈ comments, ∃ line ∈ comment.lines, ∃ tag behind,
    splitTag? line = some (tag, behind) ∧ registry.resolve (String.ofList tag) = name

theorem Tagged.of_ownSlot? {registry : Registry} {comments : List Comment} {comment : Comment}
    (member : comment ∈ comments) {name : String} {slot : Slot}
    (set : comment.ownSlot? registry name = some slot) : Tagged registry comments name :=
  ⟨comment, member, exists_tag_of_slotsOf_readLines (Option.isSome_of_eq_some set)⟩

/-- The keys of a record after these annotations have been registered, one after the other. Each key
is the name of an annotation, the last one of its name. It stands there for a tag or as a fallback,
and it never meets a fixed field. -/
structure KeysOf (annotations : List Annotation) (comments : List Comment) (record : Record) :
    Prop where
  registered : ∀ name ∈ record.annotations.names, name ∉ Registry.reservedNames ∧
    ∃ meaning, (Registry.ofList annotations).find? name = some meaning ∧ meaning.name = name ∧
      annotations.reverse.find? (·.name = name) = some meaning
  resolved : ∀ tag, (Registry.ofList annotations).find? tag = none →
    tag ∉ record.annotations.names
  offered : ∀ name ∈ record.annotations.names, Tagged (.ofList annotations) comments name ∨
    ∃ meaning, (Registry.ofList annotations).find? name = some meaning ∧
      meaning.fallback.isSome = true
  distinct : ∃ fields, record.toJson = .obj fields ∧ (fields.map (·.1)).Nodup

theorem Warrant.offered {registry : Registry} {comments : List Comment} {placed : Comment × Nat}
    (ordinary : placed ∈ ordinaries comments) {meaning : Annotation} {name : String} {slot : Slot}
    (warrant : Warrant registry (posterBefore? comments placed.2) placed.1 meaning name slot) :
    Tagged registry comments name ∨ meaning.fallback.isSome = true := by
  cases warrant with
  | own set _ => exact .inl (.of_ownSlot? (fst_mem_of_mem_ordinaries ordinary) set)
  | inherited _ lender before set _ =>
    have listed : lender ∈ comments := List.mem_of_mem_take (List.mem_of_find?_eq_some before)
    exact .inl (.of_ownSlot? listed set)
  | fallback _ _ value given _ => exact .inr (Option.isSome_of_eq_some given)

theorem Merges.keysOf {annotations : List Annotation} {comments : List Comment}
    {placed : Comment × Nat} {record : Record}
    (merges : Merges (.ofList annotations) comments placed record)
    (ordinary : placed ∈ ordinaries comments) : KeysOf annotations comments record := by
  have registered : ∀ name ∈ record.annotations.names, name ∉ Registry.reservedNames ∧
      ∃ meaning, (Registry.ofList annotations).find? name = some meaning ∧ meaning.name = name ∧
        annotations.reverse.find? (·.name = name) = some meaning := by
    intro name key
    obtain ⟨meaning, _, found, _⟩ := merges.exists_warrant key
    have free := (Registry.mem_of_find?_ofList found).2
    have last := found
    rw [Registry.find?_ofList, Registry.last?, if_neg free] at last
    exact ⟨free, meaning, found, by simpa using List.find?_some last, last⟩
  constructor
  case registered => exact registered
  case resolved =>
    intro tag unknown key
    obtain ⟨_, _, found, _⟩ := registered tag key
    rw [unknown] at found
    cases found
  case offered =>
    intro name key
    obtain ⟨meaning, _, found, warrant⟩ := merges.exists_warrant key
    exact (warrant.offered ordinary).imp_right fun given => ⟨meaning, found, given⟩
  case distinct =>
    obtain ⟨fields, written, keys⟩ := record.exists_fields
    refine ⟨fields, written, ?_⟩
    rw [keys]
    exact Record.nodup_keys fun name key => (registered name key).1

/-- Whatever has been registered before and whatever the comments say, the keys of a record are
names of annotations, and they differ from each other and from the fixed fields. -/
theorem keysOf_of_mem_groups (annotations : List Annotation) (comments : List Comment)
    {group : Kind × List Record} {record : Record}
    (listed : group ∈ (ofComments (.ofList annotations) comments).catalogue.groups)
    (member : record ∈ group.2) : KeysOf annotations comments record := by
  rw [catalogue_ofComments] at listed
  obtain ⟨placed, ordinary, rfl⟩ := List.mem_map.1 (Catalogue.mem_of_mem_groups listed member)
  exact (merges_recordAt (Registry.named_ofList annotations) comments placed).keysOf ordinary

/-- The first annotation is refused together with its alias. The second one has the name of a fixed
field for an alias, and another alias that hides the third annotation. -/
def shadowedAnnotations : List Annotation :=
  [(ofReader "description" plain).withAliases ["about"],
    (ofReader "group" plain).withAliases ["context", "part"],
    (ofReader "part" plain).withFallback (.str "whole")]

def shadowedComments : List Comment :=
  [⟨["@context Sums".toList], .poster, .unknown⟩,
    ⟨["@about x".toList, "@part y".toList], .ordinary, .block .function "f" "" none⟩]

theorem keysOf_of_mem_groups_shadowed :
    ∃ record, (Kind.function, [record]) ∈
        (ofComments (.ofList shadowedAnnotations) shadowedComments).catalogue.groups ∧
      record.annotations.names = ["group", "part"] ∧
      KeysOf shadowedAnnotations shadowedComments record := by
  let record := recordAt (.ofList shadowedAnnotations) shadowedComments (shadowedComments[1], 1)
  have groups : (ofComments (.ofList shadowedAnnotations) shadowedComments).catalogue.groups =
      [(Kind.function, [record])] := rfl
  have listed : (Kind.function, [record]) ∈
      (ofComments (.ofList shadowedAnnotations) shadowedComments).catalogue.groups := by
    rw [groups]
    exact List.mem_cons_self
  exact ⟨record, listed, rfl,
    keysOf_of_mem_groups shadowedAnnotations shadowedComments listed List.mem_cons_self⟩

end Document

end StyleDoc
