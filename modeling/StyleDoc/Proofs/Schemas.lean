import StyleDoc.Proofs.Fields
import StyleDoc.Proofs.Keys

/-!
# Schemas of standard annotations

What the value of a standard annotation looks like: a text, a word, or an object with certain keys,
some of which are always there. No text leads to anything else, so no slot of a record is ever a
flag. A table gives the schema of each annotation, and every reader is shown to keep to its own.
-/

namespace StyleDoc.Annotation

open Text

/-! ## Schemas -/

/-- What a value looks like. -/
inductive Shape where
  | text
  | word
  | object (required optional : List String)

/-- The value looks like that. Every field of an object is a text without white space around it. -/
inductive Shape.Fits : Shape → Json → Prop where
  | text (value : String) : Fits .text (.str value)
  | word {value : List Char} (single : SingleWord value) : Fits .word (.str (String.ofList value))
  | object {required optional : List String} {fields : List (String × Json)}
      (ordered : fields.Pairwise (·.1 < ·.1))
      (documented : ∀ field ∈ fields, field.1 ∈ required ++ optional)
      (present : ∀ key ∈ required, key ∈ fields.map (·.1))
      (trimmed : ∀ field ∈ fields, ∃ text, Trimmed text ∧ field.2 = .str (String.ofList text)) :
      Fits (.object required optional) (.obj fields)

/-- The texts that have a value. -/
inductive Presence where
  | never
  | always
  | unlessBlank
  | sometimes

def Presence.Holds : Presence → (List Char → Option Json) → Prop
  | never, read => ∀ text, read text = none
  | always, read => ∀ text, (read text).isSome = true
  | unlessBlank, read => ∀ text, read text = none ↔ Blank text
  | sometimes, _ => True

structure Schema where
  presence : Presence
  shape : Shape

/-- The schema says of every text whether it has a value and what that looks like. -/
structure Schema.Describes (schema : Schema) (read : List Char → Option Json) : Prop where
  presence : schema.presence.Holds read
  shape : ∀ text value, read text = some value → schema.shape.Fits value

namespace Schema

def anyText : Schema := ⟨.always, .text⟩

def aWord : Schema := ⟨.unlessBlank, .word⟩

def noValue : Schema := ⟨.never, .text⟩

def parameter : Schema := ⟨.sometimes, .object ["name"] ["type", "default", "description"]⟩

def returned : Schema := ⟨.always, .object [] ["type", "description"]⟩

def requirement : Schema := ⟨.sometimes, .object ["type", "name"] []⟩

def version : Schema := ⟨.unlessBlank, .object ["version"] ["description"]⟩

def link : Schema := ⟨.unlessBlank, .object ["url"] ["caption"]⟩

def sample : Schema := ⟨.always, .object ["type"] ["description", "code"]⟩

end Schema

/-- The schemas of the standard annotations. -/
def schemas : List (String × Schema) :=
  [("access", .aWord),
   ("alias", .anyText),
   ("author", .anyText),
   ("content", .anyText),
   ("deprecated", .anyText),
   ("example", .sample),
   ("group", .anyText),
   ("ignore", .noValue),
   ("link", .link),
   ("output", .anyText),
   ("parameter", .parameter),
   ("prop", .parameter),
   ("requires", .requirement),
   ("returns", .returned),
   ("see", .anyText),
   ("since", .version),
   ("throws", .anyText),
   ("todo", .anyText),
   ("type", .anyText)]

/-! ## Fitting a shape -/

/-- A value of any shape is a text or an object, so it does not make a slot a flag. -/
theorem Shape.Fits.ne_bool {shape : Shape} {value : Json} (fits : shape.Fits value) (flag : Bool) :
    value ≠ .bool flag := by
  cases fits with
  | text value => simp
  | word single => simp
  | object ordered documented present trimmed => simp

/-- An object fits when its fields are documented and the required ones are not empty. -/
theorem Fields.fits_toJson {required optional : List String} {fields : Fields}
    (documented : ∀ field ∈ fields, field.1 ∈ required ++ optional)
    (given : ∀ key ∈ required, ∃ text, (key, some text) ∈ fields ∧ trim text ≠ []) :
    (Shape.object required optional).Fits fields.toJson := by
  have origin : ∀ entry ∈ Json.sortedFields [] (fields.filterMap written?),
      ∃ field ∈ fields, entry.1 = field.1 ∧
        ∃ text, Trimmed text ∧ entry.2 = .str (String.ofList text) := by
    intro entry member
    rcases Json.mem_of_mem_sortedFields member with impossible | ⟨kept, listed, same⟩
    · cases impossible
    · obtain ⟨field, inside, written⟩ := List.mem_filterMap.1 listed
      obtain ⟨key, text, trimmed, value⟩ := trimmed_of_written? written
      rw [same, value]
      exact ⟨field, inside, key, text, trimmed, rfl⟩
  rw [toJson_eq]
  -- Nothing is in the object but fields that have been given, and all required ones have been kept.
  refine .object (Json.pairwise_sortedFields .nil _) ?_ ?_ ?_
  · intro entry member
    obtain ⟨field, inside, key, _⟩ := origin entry member
    rw [key]
    exact documented field inside
  · intro key listed
    obtain ⟨text, inside, there⟩ := given key listed
    have written : written? (key, some text) = some _ := written?_eq_some there
    rw [Json.mem_keys_sortedFields]
    exact List.mem_map.2 ⟨_, List.mem_filterMap.2 ⟨_, inside, written⟩, rfl⟩
  · intro entry member
    obtain ⟨_, _, _, text⟩ := origin entry member
    exact text

/-! ## Readers -/

section Readers

variable {p : Char → Bool} {text : List Char} {shape : Shape} {value : Json}

theorem fits_of_spanSome {make : List Char × List Char → Json}
    (solid : ∀ c, p c = true → isSpace c = false)
    (each : ∀ found behind, SingleWord found → shape.Fits (make (found, behind)))
    (read : (spanSome p text).map make = some value) : shape.Fits value := by
  obtain ⟨⟨found, behind⟩, spanned, rfl⟩ := Option.map_eq_some_iff.1 read
  exact each found behind (singleWord_of_spanSome solid spanned)

theorem isSpace_of_not {c : Char} (solid : (!isSpace c) = true) : isSpace c = false := by
  simpa using solid

theorem describes_plain : Schema.anyText.Describes plain where
  presence _ := rfl
  shape _ _ read := by
    cases read
    exact .text _

theorem describes_lowered : Schema.anyText.Describes lowered where
  presence _ := rfl
  shape _ _ read := by
    cases read
    exact .text _

theorem describes_nothing : Schema.noValue.Describes nothing where
  presence _ := rfl
  shape _ _ read := nomatch read

theorem describes_word : Schema.aWord.Describes word where
  presence text := Option.map_eq_none_iff.trans (spanSome_trimStart_eq_none_iff text)
  shape _ _ := fits_of_spanSome (fun _ => isSpace_of_not) fun _ _ single => .word single

theorem describes_parameter : Schema.parameter.Describes parameter where
  presence := trivial
  shape _ _ := by
    refine fits_of_spanSome (fun _ => isSpace_of_isParameterChar) fun name behind single => ?_
    apply Fields.fits_toJson
    · simp
    · simpa using single.trim_ne_nil

theorem describes_returned : Schema.returned.Describes returned where
  presence _ := rfl
  shape _ _ read := by
    cases read
    apply Fields.fits_toJson
    · simp
    · simp

theorem describes_version : Schema.version.Describes version where
  presence text := Option.map_eq_none_iff.trans (spanSome_trimStart_eq_none_iff text)
  shape _ _ := by
    refine fits_of_spanSome (fun _ => isSpace_of_not) fun version behind single => ?_
    apply Fields.fits_toJson
    · simp
    · simpa using single.trim_ne_nil

theorem describes_link : Schema.link.Describes link where
  presence text := Option.map_eq_none_iff.trans (spanSome_trimStart_eq_none_iff text)
  shape _ _ := by
    refine fits_of_spanSome (fun _ => isSpace_of_not) fun url behind single => ?_
    apply Fields.fits_toJson
    · simp
    · simpa using single.trim_ne_nil

theorem describes_requirement : Schema.requirement.Describes requirement where
  presence := trivial
  shape text _ read := by
    have word := singleWord_kind text
    unfold requirement at read
    cases taken : takeWordInBraces text with
    | mk type behind =>
      rw [taken] at read word
      dsimp only at read word
      -- All that counts about the kind is that it is a word.
      generalize type.getD _ = kind at read word
      refine fits_of_spanSome (fun _ => isSpace_of_isNameChar) (fun name behind single => ?_) read
      apply Fields.fits_toJson
      · simp
      · simpa using ⟨word.trim_ne_nil, single.trim_ne_nil⟩

theorem describes_sample : Schema.sample.Describes sample where
  presence _ := rfl
  shape text _ read := by
    unfold sample at read
    generalize (cut? '\n' text).getD (text, []) = parts at read
    obtain ⟨head, body⟩ := parts
    have word := singleWord_language (trim head)
    cases heading : sampleHead (trim head) with
    | mk language description =>
      dsimp only at read
      rw [heading] at read word
      dsimp only at read word
      generalize (language.filter _).getD _ = language at read word
      cases read
      apply Fields.fits_toJson
      · simp
      · simpa using word.trim_ne_nil

end Readers

/-! ## The standard annotations -/

/-- The annotation keeps to the schema of its name, and so does its fallback. -/
structure Follows (meaning : Annotation) (schema : Schema) : Prop where
  listed : schemas.lookup meaning.name = some schema
  describes : schema.Describes meaning.read
  fallback : ∀ value, meaning.fallback = some value → schema.shape.Fits value

theorem exists_follows_of_mem_standard {meaning : Annotation} (listed : meaning ∈ standard) :
    ∃ schema, meaning.Follows schema := by
  have access : Schema.aWord.shape.Fits (.str "public") := by
    have spelled : String.ofList "public".toList = "public" := String.ofList_toList
    rw [← spelled]
    exact .word (by decide)
  have group : Schema.anyText.shape.Fits (.str "undefined") := .text _
  have all : ∀ meaning ∈ standard, ∃ schema, schemas.lookup meaning.name = some schema ∧
      schema.Describes meaning.read ∧
      ∀ value, meaning.fallback = some value → schema.shape.Fits value := by
    simp [standard, schemas, List.lookup_cons, ofReader, withAliases, withFallback, onlyOn,
      describes_plain, describes_lowered, describes_nothing, describes_word, describes_parameter,
      describes_returned, describes_version, describes_link, describes_requirement,
      describes_sample, access, group]
  obtain ⟨schema, known, describes, fallback⟩ := all meaning listed
  exact ⟨schema, known, describes, fallback⟩

theorem exists_follows_of_find?_standard {name : String} {meaning : Annotation}
    (found : Registry.standard.find? name = some meaning) :
    ∃ schema, schemas.lookup name = some schema ∧ meaning.Follows schema := by
  obtain ⟨schema, follows⟩ :=
    exists_follows_of_mem_standard (Registry.mem_of_find?_ofList found).1
  have known := follows.listed
  rw [Registry.name_eq_of_find?_ofList found] at known
  exact ⟨schema, known, follows⟩

theorem Follows.fits {meaning : Annotation} {schema : Schema} (follows : meaning.Follows schema)
    {value : Json} (given : meaning.Gives value) : schema.shape.Fits value := by
  cases given with
  | read text given => exact follows.describes.shape text value given
  | fallback given => exact follows.fallback value given

/-- A slot whose contents all fit some shape holds values. -/
theorem Shape.Fits.exists_values {shape : Shape} {slot : Slot}
    (fits : ∀ value ∈ slot.contents, shape.Fits value) :
    ∃ items, slot = .values items ∧ ∀ item ∈ items, shape.Fits item := by
  cases slot with
  | flag value => exact absurd rfl ((fits _ List.mem_cons_self).ne_bool value)
  | values items => exact ⟨items, rfl, fits⟩

end StyleDoc.Annotation

namespace StyleDoc.Document

open Annotation (schemas)

/-- Every slot of a record holds values alone, and they have the shape of its annotation. -/
theorem exists_values_of_find? (comments : List Comment) {group : Kind × List Record}
    (listed : group ∈ (ofComments .standard comments).catalogue.groups) {record : Record}
    (member : record ∈ group.2) {name : String} {slot : Slot}
    (set : record.annotations.find? name = some slot) :
    ∃ schema items, schemas.lookup name = some schema ∧ slot = .values items ∧
      ∀ item ∈ items, schema.shape.Fits item := by
  rw [catalogue_ofComments] at listed
  obtain ⟨placed, _, rfl⟩ := List.mem_map.1 (Catalogue.mem_of_mem_groups listed member)
  have merges := merges_recordAt (Registry.named_ofList Annotation.standard) comments placed
  obtain ⟨meaning, found, warrant⟩ := merges.warrant set
  obtain ⟨schema, known, _⟩ := Annotation.exists_follows_of_find?_standard found
  -- Whichever comment the slot comes from, what it says was read by the annotation of its name.
  have fits : ∀ value ∈ slot.contents, schema.shape.Fits value := by
    intro value said
    obtain ⟨giver, registered, gives⟩ := warrant.gives found said
    obtain ⟨other, alsoKnown, follows⟩ := Annotation.exists_follows_of_find?_standard registered
    obtain rfl := Option.some.inj (known.symm.trans alsoKnown)
    exact follows.fits gives
  obtain ⟨items, same, each⟩ := Annotation.Shape.Fits.exists_values fits
  exact ⟨schema, items, known, same, each⟩

/-- The standard annotations are those of the table, each reads what its schema says, and no slot of
a record is a flag. -/
theorem standard_keepsSchemas :
    Registry.standard.annotations.names = schemas.map (·.1) ∧
    (∀ name meaning, Registry.standard.find? name = some meaning →
      ∃ schema, schemas.lookup name = some schema ∧ schema.Describes meaning.read) ∧
    ∀ source, ∀ group ∈ (ofSource .standard source).catalogue.groups, ∀ record ∈ group.2,
      ∀ name slot, record.annotations.find? name = some slot →
        ∃ schema items, schemas.lookup name = some schema ∧ slot = .values items ∧
          ∀ item ∈ items, schema.shape.Fits item := by
  refine ⟨?_, ?_, ?_⟩
  · rfl
  · intro name meaning found
    obtain ⟨schema, known, follows⟩ := Annotation.exists_follows_of_find?_standard found
    exact ⟨schema, known, follows.describes⟩
  · intro source group listed record member name slot set
    exact exists_values_of_find? (Comment.extract source) listed member set

end StyleDoc.Document
