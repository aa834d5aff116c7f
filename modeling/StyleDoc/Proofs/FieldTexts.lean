import StyleDoc.Annotation.Standard
import StyleDoc.Proofs.Fields

/-!
# Texts written from fields

Fields that are written in the documented notation come back when the text is read, each with all of
its characters and none of another field, whichever of them are there. The notations are those of
parameters, of what a function returns, of requirements, of versions and of links.
-/

namespace StyleDoc.Annotation

open Text

/-- The value that the standard annotation of this name reads from the text. -/
def standardValue? (name : String) (text : List Char) : Option Json :=
  (Registry.standard.find? name).bind fun meaning => meaning.read text

/-! ## Parts of a written text -/

/-- A field that stands between two marks: no white space at its ends, no closing mark in it. -/
structure Enclosed (closing : Char) where
  text : List Char
  trimmed : Trimmed text
  unclosed : closing ∉ text

/-- A field that takes what is left of the text. -/
structure Prose where
  text : List Char
  trimmed : Trimmed text

/-- A field of characters of one class alone. -/
structure RunOf (p : Char → Bool) where
  text : List Char
  nonempty : text ≠ []
  inside : ∀ c ∈ text, p c = true

theorem RunOf.trimmed {p : Char → Bool} (run : RunOf p)
    (solid : ∀ c, p c = true → isSpace c = false) : Trimmed run.text :=
  SingleWord.trimmed ⟨run.nonempty, fun c member => solid c (run.inside c member)⟩

def Enclosed.write {closing : Char} (opening : Char) (enclosed : Enclosed closing) : List Char :=
  opening :: (enclosed.text ++ [closing])

/-- A dollar sign, or nothing. -/
def dollarIf (dollar : Bool) : List Char := if dollar then ['$'] else []

/-- A text with a space in front of it, if there is one. -/
def spaced (prose : Option Prose) : List Char := prose.elim [] fun prose => ' ' :: prose.text

/-- A text with a dash in front of it, if there is one. -/
def dashed (prose : Option Prose) : List Char :=
  prose.elim [] fun prose => ' ' :: '-' :: ' ' :: prose.text

/-! ## Reading the parts -/

section Enclosed

variable {opening closing : Char}

theorem enclosed?_write (enclosed : Enclosed closing) (behind : List Char) :
    enclosed? opening closing (enclosed.write opening ++ behind) =
      some (enclosed.text, behind) := by
  have parts : enclosed.write opening ++ behind =
      opening :: (enclosed.text ++ closing :: behind) := by
    simp [Enclosed.write]
  rw [parts, enclosed?, if_pos rfl, cut?_append_cons enclosed.unclosed]

theorem enclosed?_eq_none {text : List Char} (other : text.head? ≠ some opening) :
    enclosed? opening closing text = none := by
  cases text with
  | nil => rfl
  | cons c rest =>
    have different : c ≠ opening := by simpa using other
    rw [enclosed?, if_neg different]

theorem trimStart_write (solid : isSpace opening = false) (enclosed : Enclosed closing)
    (behind : List Char) :
    trimStart (enclosed.write opening ++ behind) = enclosed.write opening ++ behind :=
  trimStart_cons solid _

theorem takeEnclosed_write (solid : isSpace opening = false) (enclosed : Enclosed closing)
    (behind : List Char) :
    takeEnclosed opening closing (enclosed.write opening ++ behind) =
      (some enclosed.text, trimStart behind) := by
  rw [takeEnclosed, trimStart_write solid]
  simp only [enclosed?_write]

theorem takeEnclosed_of_not_opened {text : List Char}
    (other : (trimStart text).head? ≠ some opening) :
    takeEnclosed opening closing text = (none, trimStart text) := by
  rw [takeEnclosed]
  simp only [enclosed?_eq_none other]

theorem takeEnclosed_space (text : List Char) :
    takeEnclosed opening closing (' ' :: text) = takeEnclosed opening closing text := by
  rw [takeEnclosed, trimStart_space, takeEnclosed]

end Enclosed

section RunOf

variable {p : Char → Bool}

theorem RunOf.exists_cons (run : RunOf p) : ∃ c rest, run.text = c :: rest ∧ p c = true := by
  obtain ⟨c, rest, parts⟩ := List.exists_cons_of_ne_nil run.nonempty
  exact ⟨c, rest, parts, run.inside c (parts ▸ List.mem_cons_self)⟩

theorem RunOf.spanSome_append (run : RunOf p) (rest : List Char)
    (ends : ∀ c, rest.head? = some c → p c = false) :
    spanSome p (run.text ++ rest) = some (run.text, rest) := by
  have leading : LeadingRun p (run.text ++ rest) run.text rest := ⟨rfl, run.inside, ends⟩
  obtain ⟨c, tail, parts, -⟩ := run.exists_cons
  unfold spanSome
  rw [leading.takeWhile_eq, leading.dropWhile_eq, parts]

/-- What begins with a name or with a dollar sign does not begin as a type. -/
theorem RunOf.first_dollarIf (run : RunOf p) (solid : ∀ c, p c = true → isSpace c = false)
    (unopened : p '{' = false) (dollar : Bool) (rest : List Char) :
    ∀ c, (dollarIf dollar ++ (run.text ++ rest)).head? = some c → isSpace c = false ∧ c ≠ '{' := by
  intro c begins
  obtain ⟨d, tail, parts, inside⟩ := run.exists_cons
  have either : c = '$' ∨ p c = true := by
    cases dollar with
    | true => exact .inl (by simpa [dollarIf, eq_comm] using begins)
    | false =>
      have same : d = c := by simpa [dollarIf, parts] using begins
      exact .inr (same ▸ inside)
  rcases either with rfl | named
  · decide
  · exact ⟨solid c named, ne_of_apply_ne p (by simp [named, unopened])⟩

theorem RunOf.head?_eq_dollar_iff (run : RunOf p) (noDollar : p '$' = false) (dollar : Bool)
    (rest : List Char) :
    (dollarIf dollar ++ (run.text ++ rest)).head? = some '$' ↔ dollar = true := by
  obtain ⟨first, tail, parts, inside⟩ := run.exists_cons
  cases dollar with
  | true => simp [dollarIf]
  | false =>
    have other : first ≠ '$' := ne_of_apply_ne p (by simp [inside, noDollar])
    simp [dollarIf, parts, other]

theorem dropDollar_dollarIf (noDollar : p '$' = false) (run : RunOf p) (dollar : Bool)
    (rest : List Char) :
    dropDollar (dollarIf dollar ++ (run.text ++ rest)) = run.text ++ rest := by
  cases dollar with
  | true => rfl
  | false =>
    obtain ⟨c, tail, parts, inside⟩ := run.exists_cons
    have other : c ≠ '$' := ne_of_apply_ne p (by simp [inside, noDollar])
    rw [parts]
    simp [dollarIf, dropDollar, other]

end RunOf

section Prose

variable {prose : Option Prose} {c : Char}

theorem eq_space_of_head?_spaced (begins : (spaced prose).head? = some c) : c = ' ' := by
  cases prose <;> cases begins
  rfl

theorem eq_space_of_head?_dashed (begins : (dashed prose).head? = some c) : c = ' ' := by
  cases prose <;> cases begins
  rfl

end Prose

theorem trimStart_spaced (prose : Option Prose) :
    trimStart (spaced prose) = (prose.map Prose.text).getD [] := by
  cases prose with
  | none => rfl
  | some prose => exact (trimStart_space _).trans (trimStart_eq prose.trimmed.first)

theorem trimStart_dashed (prose : Option Prose) :
    trimStart (dashed prose) = prose.elim [] fun prose => '-' :: ' ' :: prose.text := by
  cases prose with
  | none => rfl
  | some prose => exact (trimStart_space _).trans (trimStart_cons (by decide) _)

theorem dropDash_dashed (prose : Option Prose) :
    dropDash (trimStart (dashed prose)) = (prose.map Prose.text).getD [] := by
  rw [trimStart_dashed]
  cases prose with
  | none => rfl
  | some prose => exact trimStart_spaced (some prose)

/-! ## Objects -/

/-- The field with its key, as it stands in an object, if it is there. -/
def fieldIf (key : String) (text? : Option (List Char)) : List (String × Json) :=
  (text?.map fun text => (key, .str (String.ofList text))).toList

theorem Enclosed.trimmed_of_mem {closing : Char} {enclosed? : Option (Enclosed closing)} :
    ∀ text ∈ enclosed?.map Enclosed.text, Trimmed text := by
  intro text member
  obtain ⟨enclosed, -, rfl⟩ := Option.map_eq_some_iff.1 member
  exact enclosed.trimmed

theorem Prose.trimmed_of_mem {prose : Option Prose} :
    ∀ text ∈ prose.map Prose.text, Trimmed text := by
  intro text member
  obtain ⟨prose, -, rfl⟩ := Option.map_eq_some_iff.1 member
  exact prose.trimmed

theorem trimmed_of_mem_some {text : List Char} (trimmed : Trimmed text) :
    ∀ other ∈ some text, Trimmed other := by
  intro other member
  cases member
  exact trimmed

namespace Fields

variable {text? : Option (List Char)}

theorem toList_written? (trimmed : ∀ text ∈ text?, Trimmed text) (key : String) :
    (written? (key, text?)).toList = fieldIf key text? := by
  cases text? with
  | none => rfl
  | some text =>
    have kept : ((some text).map trim).getD [] = text := (trimmed text rfl).trim_eq
    have there : ((some text).map trim).getD [] ≠ [] := by
      rw [kept]
      exact (trimmed text rfl).nonempty
    rw [written?_eq_some there]
    simp only [kept]
    rfl

/-- An empty text is no field. -/
theorem written?_getD (key : String) (text? : Option (List Char)) :
    written? (key, some (text?.getD [])) = written? (key, text?) := by
  cases text? with
  | none => rfl
  | some text => rfl

theorem written?_spaced (key : String) (prose : Option Prose) :
    written? (key, some (spaced prose)) = written? (key, prose.map Prose.text) := by
  cases prose with
  | none => rfl
  | some prose =>
    have trimmed : trim (' ' :: prose.text) = trim prose.text :=
      trimBy_append_of_pos (List.forall_mem_singleton.2 (by decide)) prose.text
    simp [written?, spaced, trimmed]

/-- Two fields, the one with the smaller key read last. -/
theorem sortedFields_pair {low high : String} (order : low < high)
    (first second : Option (List Char)) :
    Json.sortedFields [] (fieldIf high first ++ fieldIf low second) =
      fieldIf low second ++ fieldIf high first := by
  cases first <;> cases second <;>
    simp [fieldIf, Json.sortedFields, Json.sorted, insertEntry, order]

/-- Two trimmed fields make an object of those that are there. The one with the smaller key may be
given with more white space around it. -/
theorem toJson_pair {low high : String} (order : low < high)
    {first second given : Option (List Char)} (firstTrimmed : ∀ text ∈ first, Trimmed text)
    (secondTrimmed : ∀ text ∈ second, Trimmed text)
    (same : written? (low, given) = written? (low, second)) :
    toJson [(high, first), (low, given)] = .obj (fieldIf low second ++ fieldIf high first) := by
  rw [toJson_eq, List.filterMap_eq_flatMap_toList, ← sortedFields_pair order]
  simp only [List.flatMap_cons, List.flatMap_nil, List.append_nil, same,
    toList_written? firstTrimmed, toList_written? secondTrimmed]

end Fields

/-! ## Parameters -/

/-- The fields of a parameter. The sign in front of its name can be left out. -/
structure ParameterText where
  type : Option (Enclosed '}')
  dollar : Bool
  name : RunOf isParameterChar
  default : Option (Enclosed ']')
  description : Option Prose

namespace ParameterText

def writeType (type : Option (Enclosed '}')) : List Char :=
  type.elim [] fun type => type.write '{' ++ [' ']

def writeDefault (default : Option (Enclosed ']')) : List Char :=
  default.elim [] fun default => ' ' :: default.write '['

def write (parts : ParameterText) : List Char :=
  writeType parts.type ++ (dollarIf parts.dollar ++ (parts.name.text ++
    (writeDefault parts.default ++ dashed parts.description)))

/-- The fields that are there, in the order of their keys. -/
def fields (parts : ParameterText) : List (String × Json) :=
  fieldIf "default" (parts.default.map Enclosed.text) ++
    fieldIf "description" (parts.description.map Prose.text) ++
    fieldIf "name" (some parts.name.text) ++ fieldIf "type" (parts.type.map Enclosed.text)

theorem takeEnclosed_writeType (type : Option (Enclosed '}')) {behind : List Char}
    (first : ∀ c, behind.head? = some c → isSpace c = false ∧ c ≠ '{') :
    takeEnclosed '{' '}' (writeType type ++ behind) = (type.map Enclosed.text, behind) := by
  have kept : trimStart behind = behind := trimStart_eq fun c begins => (first c begins).1
  cases type with
  | none =>
    -- Where no type stands, the sign or the name does, and it is no brace.
    have other : (trimStart behind).head? ≠ some '{' := by
      rw [kept]
      exact fun begins => (first '{' begins).2 rfl
    exact (takeEnclosed_of_not_opened other).trans (by rw [kept]; rfl)
  | some type =>
    have solid : isSpace '{' = false := by decide
    have taken := takeEnclosed_write solid type (' ' :: behind)
    rw [trimStart_space, kept] at taken
    simpa [writeType] using taken

theorem takeEnclosed_writeDefault (default : Option (Enclosed ']')) (description : Option Prose) :
    takeEnclosed '[' ']' (writeDefault default ++ dashed description) =
      (default.map Enclosed.text, trimStart (dashed description)) := by
  cases default with
  | none =>
    -- Where no default stands, the dash of a description does, and it is no bracket.
    refine takeEnclosed_of_not_opened ?_
    rw [writeDefault, Option.elim_none, List.nil_append, trimStart_dashed]
    cases description <;> simp
  | some default =>
    rw [writeDefault, Option.elim_some, List.cons_append, takeEnclosed_space]
    exact takeEnclosed_write (by decide) default _

/-- The name ends where the default, the description or the text does. -/
theorem spanSome_name (parts : ParameterText) :
    spanSome isParameterChar
      (parts.name.text ++ (writeDefault parts.default ++ dashed parts.description)) =
      some (parts.name.text, writeDefault parts.default ++ dashed parts.description) := by
  refine parts.name.spanSome_append _ fun c begins => ?_
  -- Each of these parts is written with a space in front of it.
  have space : c = ' ' := by
    cases default : parts.default with
    | none =>
      rw [default] at begins
      exact eq_space_of_head?_dashed begins
    | some default =>
      rw [default] at begins
      cases begins
      rfl
  rw [space]
  decide

theorem toJson_fields (parts : ParameterText) :
    Fields.toJson [("type", parts.type.map Enclosed.text), ("name", some parts.name.text),
      ("default", parts.default.map Enclosed.text),
      ("description", some ((parts.description.map Prose.text).getD []))] =
      .obj parts.fields := by
  have name := trimmed_of_mem_some
    (parts.name.trimmed fun _ => isSpace_of_isParameterChar)
  rw [Fields.toJson_eq, List.filterMap_eq_flatMap_toList]
  simp only [List.flatMap_cons, List.flatMap_nil, Fields.written?_getD,
    Fields.toList_written? Enclosed.trimmed_of_mem, Fields.toList_written? Prose.trimmed_of_mem,
    Fields.toList_written? name]
  -- Reading goes by another order than the keys: the type comes first, the default after the name.
  have typeLast : "name" < "type" := by decide
  have defaultFirst : "default" < "name" ∧ "default" < "type" := by decide
  have between : ¬ "description" < "default" ∧ "description" < "name" ∧ "description" < "type" := by
    decide
  unfold fields
  cases parts.type <;> cases parts.default <;> cases parts.description <;>
    simp [fieldIf, Json.sortedFields, Json.sorted, insertEntry, typeLast, defaultFirst, between]

theorem parameter_write (parts : ParameterText) :
    parameter parts.write = some (.obj parts.fields) := by
  have first := parts.name.first_dollarIf (fun _ => isSpace_of_isParameterChar) (by decide)
    parts.dollar (writeDefault parts.default ++ dashed parts.description)
  have noDollar : isParameterChar '$' = false := by decide
  rw [parameter, write, takeEnclosed_writeType parts.type first]
  simp only [dropDollar_dollarIf noDollar, spanSome_name, Option.map_some,
    takeEnclosed_writeDefault, dropDash_dashed, toJson_fields]

end ParameterText

/-! ## What a function returns -/

/-- The fields of what a function returns. Without a type the description does not begin as one. -/
inductive ReturnedText where
  | typed (type : Enclosed '}') (description : Option Prose)
  | untyped (description : Prose) (unopened : description.text.head? ≠ some '{')

namespace ReturnedText

def write : ReturnedText → List Char
  | typed type description => type.write '{' ++ spaced description
  | untyped description _ => description.text

def fields : ReturnedText → List (String × Json)
  | typed type description =>
    fieldIf "description" (description.map Prose.text) ++ fieldIf "type" (some type.text)
  | untyped description _ => fieldIf "description" (some description.text)

theorem returned_write (parts : ReturnedText) :
    returned parts.write = some (.obj parts.fields) := by
  have order : "description" < "type" := by decide
  cases parts with
  | typed type description =>
    have solid : isSpace '{' = false := by decide
    rw [write, returned, takeEnclosed_write solid, trimStart_spaced]
    exact congrArg some (Fields.toJson_pair order (trimmed_of_mem_some type.trimmed)
      Prose.trimmed_of_mem (Fields.written?_getD _ _))
  | untyped description unopened =>
    have kept : trimStart description.text = description.text :=
      trimStart_eq description.trimmed.first
    have object : Fields.toJson [("type", none), ("description", some description.text)] =
        .obj (fieldIf "description" (some description.text) ++ fieldIf "type" none) :=
      Fields.toJson_pair order nofun (trimmed_of_mem_some description.trimmed) rfl
    rw [write, returned, takeEnclosed_of_not_opened (by rwa [kept]), kept]
    exact congrArg some (object.trans (by rw [fieldIf]; rfl))

end ReturnedText

/-! ## Requirements -/

/-- The fields of a requirement. Without a type the dollar sign says whether it is a variable. -/
inductive RequirementText where
  | typed (type : RunOf isWord) (dollar : Bool) (name : RunOf isNameChar)
  | untyped (dollar : Bool) (name : RunOf isNameChar)

namespace RequirementText

/-- What is required where no type says it. -/
def kindIf (dollar : Bool) : List Char := if dollar then "variable".toList else "function".toList

def enclosedType (type : RunOf isWord) : Enclosed '}' where
  text := type.text
  trimmed := type.trimmed fun _ => isSpace_of_isWord
  unclosed := not_mem_of_forall (by decide) type.inside

def write : RequirementText → List Char
  | typed type dollar name =>
    (enclosedType type).write '{' ++ ' ' :: (dollarIf dollar ++ name.text)
  | untyped dollar name => dollarIf dollar ++ name.text

def fields : RequirementText → List (String × Json)
  | typed type _ name => fieldIf "name" (some name.text) ++ fieldIf "type" (some type.text)
  | untyped dollar name =>
    fieldIf "name" (some name.text) ++
      fieldIf "type" (some (kindIf dollar))

theorem takeWordInBraces_write (type : RunOf isWord) (behind : List Char) :
    takeWordInBraces ((enclosedType type).write '{' ++ behind) =
      (some type.text, trimStart behind) := by
  have word : type.text ≠ [] ∧ type.text.all isWord = true :=
    ⟨type.nonempty, List.all_eq_true.2 type.inside⟩
  rw [takeWordInBraces, trimStart_write (by decide)]
  simp only [enclosed?_write]
  exact if_pos word

theorem takeWordInBraces_of_not_opened {text : List Char}
    (first : ∀ c, text.head? = some c → isSpace c = false ∧ c ≠ '{') :
    takeWordInBraces text = (none, text) := by
  have other : text.head? ≠ some '{' := fun begins => (first '{' begins).2 rfl
  rw [takeWordInBraces, trimStart_eq fun c begins => (first c begins).1]
  simp only [enclosed?_eq_none other]

theorem trimmed_kindIf (dollar : Bool) : Trimmed (kindIf dollar) := by
  have word : SingleWord (kindIf dollar) := by cases dollar <;> decide
  exact word.trimmed

theorem requirement_of_takeWordInBraces {text : List Char} {type : Option (List Char)}
    {dollar : Bool} {name : RunOf isNameChar}
    (taken : takeWordInBraces text = (type, dollarIf dollar ++ (name.text ++ [])))
    (trimmed : Trimmed (type.getD (kindIf dollar))) :
    requirement text = some (.obj (fieldIf "name" (some name.text) ++
      fieldIf "type" (some (type.getD (kindIf dollar))))) := by
  have noDollar : isNameChar '$' = false := by decide
  have order : "name" < "type" := by decide
  -- The text ends with the name.
  have span := name.spanSome_append [] nofun
  rw [requirement, taken]
  simp only [name.head?_eq_dollar_iff noDollar, dropDollar_dollarIf noDollar, span, Option.map_some]
  exact congrArg some (Fields.toJson_pair order (trimmed_of_mem_some trimmed)
    (trimmed_of_mem_some (name.trimmed fun _ => isSpace_of_isNameChar)) rfl)

theorem requirement_write (parts : RequirementText) :
    requirement parts.write = some (.obj parts.fields) := by
  have unopened : isNameChar '{' = false := by decide
  cases parts with
  | typed type dollar name =>
    have first := name.first_dollarIf (fun _ => isSpace_of_isNameChar) unopened dollar []
    have kept := trimStart_eq fun c begins => (first c begins).1
    have taken := takeWordInBraces_write type (' ' :: (dollarIf dollar ++ (name.text ++ [])))
    rw [trimStart_space, kept] at taken
    have read := requirement_of_takeWordInBraces taken (type.trimmed fun _ => isSpace_of_isWord)
    rwa [List.append_nil] at read
  | untyped dollar name =>
    have first := name.first_dollarIf (fun _ => isSpace_of_isNameChar) unopened dollar []
    have read := requirement_of_takeWordInBraces (takeWordInBraces_of_not_opened first)
      (trimmed_kindIf dollar)
    rwa [List.append_nil] at read

end RequirementText

/-! ## Versions and links -/

/-- The fields of a text that begins with a word and may go on with anything. -/
structure WordText where
  word : RunOf fun c => !isSpace c
  behind : Option Prose

namespace WordText

def writeVersion (parts : WordText) : List Char := parts.word.text ++ dashed parts.behind

def versionFields (parts : WordText) : List (String × Json) :=
  fieldIf "description" (parts.behind.map Prose.text) ++ fieldIf "version" (some parts.word.text)

def writeLink (parts : WordText) : List Char := parts.word.text ++ spaced parts.behind

def linkFields (parts : WordText) : List (String × Json) :=
  fieldIf "caption" (parts.behind.map Prose.text) ++ fieldIf "url" (some parts.word.text)

theorem spanSome_word (parts : WordText) {behind : List Char}
    (space : ∀ c, behind.head? = some c → c = ' ') :
    spanSome (fun c => !isSpace c) (trimStart (parts.word.text ++ behind)) =
      some (parts.word.text, behind) := by
  obtain ⟨c, tail, begins, inside⟩ := parts.word.exists_cons
  have solid : isSpace c = false := by simpa using inside
  have kept : trimStart (parts.word.text ++ behind) = parts.word.text ++ behind := by
    rw [begins]
    exact trimStart_cons solid _
  rw [kept]
  refine parts.word.spanSome_append behind fun d begins => ?_
  rw [space d begins]
  decide

theorem trimmed_word (parts : WordText) : ∀ text ∈ some parts.word.text, Trimmed text :=
  trimmed_of_mem_some (parts.word.trimmed fun _ solid => by simpa using solid)

theorem version_write (parts : WordText) :
    version parts.writeVersion = some (.obj parts.versionFields) := by
  have order : "description" < "version" := by decide
  rw [version, writeVersion, parts.spanSome_word fun _ => eq_space_of_head?_dashed,
    Option.map_some]
  simp only [dropDash_dashed]
  exact congrArg some (Fields.toJson_pair order parts.trimmed_word Prose.trimmed_of_mem
    (Fields.written?_getD _ _))

theorem link_write (parts : WordText) : link parts.writeLink = some (.obj parts.linkFields) := by
  have order : "caption" < "url" := by decide
  rw [link, writeLink, parts.spanSome_word fun _ => eq_space_of_head?_spaced, Option.map_some]
  exact congrArg some (Fields.toJson_pair order parts.trimmed_word Prose.trimmed_of_mem
    (Fields.written?_spaced _ _))

end WordText

/-! ## Standard annotations -/

/-- A parameter comes back with the fields that have been written and no others. -/
theorem standardValue?_parameterText (parts : ParameterText) :
    standardValue? "parameter" parts.write = some (.obj parts.fields) ∧
      standardValue? "prop" parts.write = some (.obj parts.fields) := by
  have parameterRead : standardValue? "parameter" = parameter := rfl
  have propRead : standardValue? "prop" = parameter := rfl
  rw [parameterRead, propRead]
  exact ⟨parts.parameter_write, parts.parameter_write⟩

/-- Every field is there, and the marks of one stand in another. -/
def markedParameter : ParameterText where
  type := some ⟨"a [b]".toList, by decide, by decide⟩
  dollar := true
  name := ⟨"x.y-z".toList, by decide, List.all_eq_true.1 (by decide)⟩
  default := some ⟨"(c: {d})".toList, by decide, by decide⟩
  description := some ⟨"- [e]".toList, by decide⟩

theorem standardValue?_markedParameter :
    standardValue? "parameter" "{a [b]} $x.y-z [(c: {d})] - - [e]".toList =
        some (.obj [("default", .str "(c: {d})"), ("description", .str "- [e]"),
          ("name", .str "x.y-z"), ("type", .str "a [b]")]) ∧
      standardValue? "prop" "{a [b]} $x.y-z [(c: {d})] - - [e]".toList =
        some (.obj [("default", .str "(c: {d})"), ("description", .str "- [e]"),
          ("name", .str "x.y-z"), ("type", .str "a [b]")]) :=
  standardValue?_parameterText markedParameter

/-- What a function returns, a requirement, a version and a link come back in the same way. -/
theorem standardValue?_fieldTexts :
    (∀ parts : ReturnedText,
      standardValue? "returns" parts.write = some (.obj parts.fields)) ∧
    (∀ parts : RequirementText,
      standardValue? "requires" parts.write = some (.obj parts.fields)) ∧
    (∀ parts : WordText,
      standardValue? "since" parts.writeVersion = some (.obj parts.versionFields)) ∧
    ∀ parts : WordText,
      standardValue? "link" parts.writeLink = some (.obj parts.linkFields) := by
  have returnedRead : standardValue? "returns" = returned := rfl
  have requirementRead : standardValue? "requires" = requirement := rfl
  have versionRead : standardValue? "since" = version := rfl
  have linkRead : standardValue? "link" = link := rfl
  rw [returnedRead, requirementRead, versionRead, linkRead]
  exact ⟨ReturnedText.returned_write, RequirementText.requirement_write,
    WordText.version_write, WordText.link_write⟩

def markedReturned : ReturnedText :=
  .typed ⟨"a (b)".toList, by decide, by decide⟩ (some ⟨"- {c}".toList, by decide⟩)

def plainReturned : ReturnedText := .untyped ⟨"- {c}".toList, by decide⟩ (by decide)

def markedRequirement : RequirementText :=
  .typed ⟨"mixin".toList, by decide, List.all_eq_true.1 (by decide)⟩ true
    ⟨"d-e".toList, by decide, List.all_eq_true.1 (by decide)⟩

def plainRequirement : RequirementText :=
  .untyped true ⟨"d-e".toList, by decide, List.all_eq_true.1 (by decide)⟩

def markedWord : WordText where
  word := ⟨"1.2-{b}".toList, by decide, List.all_eq_true.1 (by decide)⟩
  behind := some ⟨"- f".toList, by decide⟩

/-- The marks of one field may stand in another here too. -/
theorem standardValue?_marked :
    standardValue? "returns" "{a (b)} - {c}".toList =
        some (.obj [("description", .str "- {c}"), ("type", .str "a (b)")]) ∧
      standardValue? "returns" "- {c}".toList = some (.obj [("description", .str "- {c}")]) ∧
      standardValue? "requires" "{mixin} $d-e".toList =
        some (.obj [("name", .str "d-e"), ("type", .str "mixin")]) ∧
      standardValue? "requires" "$d-e".toList =
        some (.obj [("name", .str "d-e"), ("type", .str "variable")]) ∧
      standardValue? "since" "1.2-{b} - - f".toList =
        some (.obj [("description", .str "- f"), ("version", .str "1.2-{b}")]) ∧
      standardValue? "link" "1.2-{b} - f".toList =
        some (.obj [("caption", .str "- f"), ("url", .str "1.2-{b}")]) := by
  obtain ⟨returned, required, version, link⟩ := standardValue?_fieldTexts
  exact ⟨returned markedReturned, returned plainReturned, required markedRequirement,
    required plainRequirement, version markedWord, link markedWord⟩

end StyleDoc.Annotation
