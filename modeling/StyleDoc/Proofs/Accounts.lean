import StyleDoc.Proofs.Inheritance

/-!
# What becomes of every line and comment

A line belongs to the description, or it gives a result to an annotation, or it leads to a warning,
and it never does two of these. The warnings of a document are those of its lines, in order, and
behind the lines of every poster but the first comes one for the poster itself. Every comment is a
poster or has a record.
-/

namespace StyleDoc

open Text

variable {annotations : List Annotation} {kind : Kind}

/-! ## Lines -/

/-- The line begins with an at sign and at least one character of tags. -/
def hasTag : List Char → Bool
  | '@' :: c :: _ => isTagChar c
  | _ => false

theorem isNone_splitTag? (line : List Char) : (splitTag? line).isNone = !hasTag line := by
  cases line with
  | nil => rfl
  | cons first rest =>
    by_cases marked : first = '@'
    · subst marked
      cases rest with
      | nil => rfl
      | cons c rest => cases tagged : isTagChar c <;> simp [splitTag?, hasTag, tagged]
    · simp [splitTag?, hasTag, marked]

/-- What becomes of a line on this kind of declaration. -/
inductive Account (registry : Registry) (kind : Kind) : List Char → Reading → Prop where
  | described {line : List Char} (untagged : hasTag line = false) :
      Account registry kind line (.plain line)
  | unknown {text tag behind : List Char} (leading : LeadingRun isTagChar text tag behind)
      (nonempty : tag ≠ [])
      (missing : registry.find? (registry.resolve (String.ofList tag)) = none) :
      Account registry kind ('@' :: text) (.refused (.unknownTag (String.ofList tag)))
  | misplaced {text tag behind : List Char} {meaning : Annotation}
      (leading : LeadingRun isTagChar text tag behind) (nonempty : tag ≠ [])
      (found : registry.find? (registry.resolve (String.ofList tag)) = some meaning)
      (forbidden : meaning.allowedOn kind = false) :
      Account registry kind ('@' :: text) (.refused (.notAllowed meaning.name kind))
  | given {name : String} {line : List Char} {result : Option Json}
      (gives : Gives registry kind name line result) :
      Account registry kind line (.entry name result)

theorem account_readLine (annotations : List Annotation) (kind : Kind) (line : List Char) :
    Account (.ofList annotations) kind line ((Registry.ofList annotations).readLine kind line) := by
  have untagged := isNone_splitTag? line
  unfold Registry.readLine
  cases split : splitTag? line with
  | none => exact .described (by simpa [split] using untagged)
  | some parts =>
    obtain ⟨tag, behind⟩ := parts
    obtain ⟨text, rfl, nonempty, leading⟩ := splitTag?_eq_some_iff.1 split
    simp only [Registry.readTag]
    split
    case h_1 missing => exact .unknown leading nonempty missing
    case h_2 meaning found =>
      split
      case isTrue allowed =>
        exact .given (.tagged leading nonempty rfl found allowed rfl)
      case isFalse forbidden =>
        -- The name that the tag stands for is that of the annotation itself.
        rw [← Registry.name_eq_of_find?_ofList found]
        exact .misplaced leading nonempty found (by simpa using forbidden)

theorem Account.readLine_eq {line : List Char} {reading : Reading}
    (account : Account (.ofList annotations) kind line reading) :
    (Registry.ofList annotations).readLine kind line = reading := by
  cases account with
  | described untagged =>
    have none := isNone_splitTag? line
    rw [untagged, Bool.not_false, Option.isNone_iff_eq_none] at none
    simp [Registry.readLine, none]
  | unknown leading nonempty missing =>
    have split := splitTag?_eq_some_iff.2 ⟨_, rfl, nonempty, leading⟩
    simp [Registry.readLine, split, Registry.readTag, missing]
  | misplaced leading nonempty found forbidden =>
    have split := splitTag?_eq_some_iff.2 ⟨_, rfl, nonempty, leading⟩
    have name := Registry.name_eq_of_find?_ofList found
    simp [Registry.readLine, split, Registry.readTag, found, forbidden, name]
  | given gives => exact Registry.readLine_eq_entry_iff.2 gives

/-- Exactly one thing becomes of a line. -/
theorem account_iff {line : List Char} {reading : Reading} :
    Account (.ofList annotations) kind line reading ↔
      (Registry.ofList annotations).readLine kind line = reading := by
  constructor
  · exact Account.readLine_eq
  · rintro rfl
    exact account_readLine annotations kind line

/-- The warnings that a line leads to by what becomes of it. -/
inductive Reading.Warns : Reading → List Warning → Prop where
  | plain (line : List Char) : Warns (.plain line) []
  | entry (name : String) (result : Option Json) : Warns (.entry name result) []
  | refused (warning : Warning) : Warns (.refused warning) [warning]

theorem Reading.warns (reading : Reading) : reading.Warns reading.warning?.toList := by
  cases reading with
  | plain line => exact .plain line
  | refused warning => exact .refused warning
  | entry name result => exact .entry name result

/-! ## Comments -/

namespace Comment

/-- What the lines of the comment are found to be. -/
def readings (registry : Registry) (comment : Comment) : List Reading :=
  registry.readLines comment.declaration.kind comment.lines

theorem forall₂_account_iff {comment : Comment} {readings : List Reading} :
    List.Forall₂ (Account (.ofList annotations) comment.declaration.kind) comment.lines readings ↔
      readings = comment.readings (.ofList annotations) := by
  have same : Account (.ofList annotations) comment.declaration.kind =
      fun line reading =>
        (Registry.ofList annotations).readLine comment.declaration.kind line = reading := by
    funext line reading
    exact propext account_iff
  rw [same, ← List.forall₂_map_left_iff, List.forall₂_eq_eq_eq, eq_comm]
  rfl

/-- The lines without a tag, in order, with a line feed behind each. -/
def describedText (comment : Comment) : List Char :=
  (comment.lines.filter fun line => !hasTag line).flatMap (· ++ ['\n'])

theorem plainText_eq (comment : Comment) : comment.plainText = comment.describedText := by
  simp only [plainText, describedText, isNone_splitTag?]

end Comment

/-! ## Documents -/

namespace Document

variable {comments : List Comment}

/-- The warnings that the comment at a position leads to by itself: none, unless it is a poster and
not the first. -/
inductive RoleWarnings (comments : List Comment) : Comment × Nat → List Warning → Prop where
  | ordinary {comment : Comment} {position : Nat} (ordinary : comment.role = .ordinary) :
      RoleWarnings comments (comment, position) []
  | firstPoster {comment : Comment} {position : Nat} (poster : comment.role = .poster)
      (first : ∀ earlier ∈ comments.take position, earlier.role = .ordinary) :
      RoleWarnings comments (comment, position) []
  | laterPoster {comment : Comment} {position : Nat} (poster : comment.role = .poster)
      (later : ∃ earlier ∈ comments.take position, earlier.role = .poster) :
      RoleWarnings comments (comment, position) [.duplicatePoster]

/-- The warnings that the comment at a position leads to: those of its lines, in order, and behind
them the one for itself. -/
inductive CommentWarnings (registry : Registry) (comments : List Comment) :
    Comment × Nat → List Warning → Prop where
  | intro {comment : Comment} {position : Nat} {readings : List Reading}
      {each : List (List Warning)} {own : List Warning}
      (accounts :
        List.Forall₂ (Account registry comment.declaration.kind) comment.lines readings)
      (warns : List.Forall₂ Reading.Warns readings each)
      (role : RoleWarnings comments (comment, position) own) :
      CommentWarnings registry comments (comment, position) (each.flatten ++ own)

/-- The warnings of the comment at a position, as they are collected. -/
def warningsAt (registry : Registry) (comments : List Comment) (placed : Comment × Nat) :
    List Warning :=
  warningsOf (placed.1.readings registry) ++
    if placed.1.isPoster ∧ (posterBefore? comments placed.2).isSome then [.duplicatePoster] else []

theorem warningsAt_concat (registry : Registry) (comment : Comment) {placed : Comment × Nat}
    (member : placed ∈ comments.zipIdx) :
    warningsAt registry (comments ++ [comment]) placed = warningsAt registry comments placed := by
  have inside : placed.2 < comments.length := by simpa using List.snd_lt_of_mem_zipIdx member
  unfold warningsAt
  rw [posterBefore?_concat (Nat.le_of_lt inside)]

theorem Draft.warnings_add (registry : Registry) (draft : Draft) (comment : Comment) :
    (draft.add registry comment).warnings =
      draft.warnings ++ (warningsOf (comment.readings registry) ++
        if comment.isPoster ∧ draft.poster.isSome then [.duplicatePoster] else []) := by
  unfold Draft.add Comment.isPoster Comment.readings
  cases role : comment.role <;> cases poster : draft.poster <;> simp

theorem warnings_ofComments (registry : Registry) (comments : List Comment) :
    (ofComments registry comments).warnings =
      comments.zipIdx.flatMap (warningsAt registry comments) := by
  induction comments using List.reverseRecOn with
  | nil => rfl
  | append_singleton comments comment inductionHypothesis =>
    let draft := comments.foldl (Draft.add registry) .start
    have earlier : draft.warnings = comments.zipIdx.flatMap (warningsAt registry comments) :=
      inductionHypothesis
    -- The draft carries a poster just when one of the earlier comments is a poster.
    have left : draft.LeftBy registry comments := (Draft.LeftBy.start registry).foldl comments
    have lender : draft.poster.isSome =
        (posterBefore? (comments ++ [comment]) comments.length).isSome := by
      rw [left.poster, Option.isSome_map, posterBefore?, List.take_left]
    have kept : comments.zipIdx.flatMap (warningsAt registry (comments ++ [comment])) =
        comments.zipIdx.flatMap (warningsAt registry comments) :=
      List.flatMap_congr fun placed member => warningsAt_concat registry comment member
    calc (ofComments registry (comments ++ [comment])).warnings
        = (draft.add registry comment).warnings := by
          unfold ofComments
          rw [List.foldl_append]
          rfl
      _ = draft.warnings ++ warningsAt registry (comments ++ [comment])
            (comment, comments.length) := by
          rw [Draft.warnings_add, lender]
          rfl
      _ = (comments ++ [comment]).zipIdx.flatMap
            (warningsAt registry (comments ++ [comment])) := by
          rw [List.zipIdx_append, List.flatMap_append, kept, earlier]
          simp

theorem roleWarnings (comments : List Comment) (comment : Comment) (position : Nat) :
    RoleWarnings comments (comment, position)
      (if comment.isPoster ∧ (posterBefore? comments position).isSome then [.duplicatePoster]
        else []) := by
  have earlier : (posterBefore? comments position).isSome = true ↔
      ∃ other ∈ comments.take position, other.role = .poster := by
    simp [posterBefore?, Comment.isPoster]
  cases role : comment.role with
  | ordinary =>
    rw [if_neg (by simp [Comment.isPoster, role])]
    exact .ordinary role
  | poster =>
    split
    case isTrue later => exact .laterPoster role (earlier.1 later.2)
    case isFalse first =>
      refine .firstPoster role fun other listed => ?_
      cases otherRole : other.role with
      | ordinary => rfl
      | poster =>
        have isPoster : comment.isPoster = true := by simp [Comment.isPoster, role]
        exact absurd ⟨isPoster, earlier.2 ⟨other, listed, otherRole⟩⟩ first

theorem commentWarnings (annotations : List Annotation) (comments : List Comment)
    (placed : Comment × Nat) :
    CommentWarnings (.ofList annotations) comments placed
      (warningsAt (.ofList annotations) comments placed) := by
  obtain ⟨comment, position⟩ := placed
  let readings := comment.readings (.ofList annotations)
  have collected : warningsOf readings = (readings.map (·.warning?.toList)).flatten := by
    rw [warningsOf, List.filterMap_eq_flatMap_toList, List.flatMap_def]
  have warns : List.Forall₂ Reading.Warns readings (readings.map (·.warning?.toList)) :=
    List.forall₂_map_right_iff.2 (List.forall₂_same.2 fun reading _ => reading.warns)
  rw [warningsAt, collected]
  exact .intro (Comment.forall₂_account_iff.2 rfl) warns (roleWarnings comments comment position)

theorem exists_warnings_ofComments (annotations : List Annotation) (comments : List Comment) :
    ∃ each, List.Forall₂ (CommentWarnings (.ofList annotations) comments) comments.zipIdx each ∧
      (ofComments (.ofList annotations) comments).warnings = each.flatten := by
  refine ⟨comments.zipIdx.map (warningsAt (.ofList annotations) comments), ?_, ?_⟩
  · exact List.forall₂_map_right_iff.2 (List.forall₂_same.2 fun placed _ =>
      commentWarnings annotations comments placed)
  · rw [warnings_ofComments, List.flatMap_def]

/-- The warning for a second poster comes behind those of its lines. -/
example :
    (ofComments .empty [⟨["@a".toList], .poster, .unknown⟩, ⟨["@b".toList], .poster, .unknown⟩,
      ⟨["@c".toList], .ordinary, .unknown⟩]).warnings =
      [.unknownTag "a", .unknownTag "b", .duplicatePoster, .unknownTag "c"] := by
  decide

/-! ### Records -/

theorem map_fst_ordinaries (comments : List Comment) :
    (ordinaries comments).map (·.1) = comments.filter fun comment => !comment.isPoster := by
  have unplaced : comments.zipIdx.map (·.1) = comments := List.zipIdx_map_fst 0 comments
  conv => rhs; rw [← unplaced, List.filter_map]
  rfl

theorem length_ordinaries_add_countP (comments : List Comment) :
    (ordinaries comments).length + comments.countP Comment.isPoster = comments.length := by
  have either : comments.length =
      comments.countP Comment.isPoster + comments.countP fun comment => !comment.isPoster := by
    simpa using List.length_eq_countP_add_countP Comment.isPoster
  have others : (ordinaries comments).length =
      comments.countP fun comment => !comment.isPoster := by
    rw [List.countP_eq_length_filter, ← map_fst_ordinaries, List.length_map]
  omega

theorem description_recordAt (registry : Registry) (comments : List Comment)
    (placed : Comment × Nat) :
    (recordAt registry comments placed).description = String.ofList placed.1.describedText := by
  rw [← placed.1.plainText_eq, ← placed.1.ownRecord_description registry]
  rfl

theorem map_description_recordsOf (registry : Registry) (comments : List Comment) (kind : Kind) :
    ((ofComments registry comments).catalogue.recordsOf kind).map Record.description =
      (comments.filter fun comment => comment.declaration.kind = kind && !comment.isPoster).map
        fun comment => String.ofList comment.describedText := by
  rw [catalogue_ofComments, Catalogue.recordsOf_ofRecords, ← List.filter_filter,
    ← map_fst_ordinaries, List.filter_map, List.filter_map, List.map_map, List.map_map]
  exact List.map_congr_left fun placed _ => description_recordAt registry comments placed

/-- Every line of the comments and every comment is accounted for in the document. -/
structure Accounted (registry : Registry) (comments : List Comment) (document : Document) :
    Prop where
  /-- Exactly one thing becomes of each line. -/
  lines : ∀ comment ∈ comments, ∀ readings,
    List.Forall₂ (Account registry comment.declaration.kind) comment.lines readings ↔
      readings = comment.readings registry
  /-- The lines without a tag make the description. -/
  description : ∀ comment ∈ comments,
    (comment.ownRecord registry).description = String.ofList comment.describedText
  /-- The lines that give results make the slots. -/
  slots : ∀ comment ∈ comments, ∀ name, comment.ownSlot? registry name =
    slotAfter? ((comment.readings registry).filterMap (·.resultFor? name))
  /-- All other lines make warnings, and so does every poster but the first. The warnings come in
  the order of the comments and their lines. -/
  warnings : ∃ each, List.Forall₂ (CommentWarnings registry comments) comments.zipIdx each ∧
    document.warnings = each.flatten
  /-- The comments that are no posters have records with their descriptions. -/
  records : ∀ kind, (document.catalogue.recordsOf kind).map Record.description =
    (comments.filter fun comment => comment.declaration.kind = kind && !comment.isPoster).map
      fun comment => String.ofList comment.describedText
  size : document.catalogue.size + comments.countP Comment.isPoster = comments.length

theorem accounted_ofComments (annotations : List Annotation) (comments : List Comment) :
    Accounted (.ofList annotations) comments (ofComments (.ofList annotations) comments) where
  lines _ _ _ := Comment.forall₂_account_iff
  description comment _ := by rw [comment.ownRecord_description, comment.plainText_eq]
  slots _ _ := find?_slotsOf _
  warnings := exists_warnings_ofComments annotations comments
  records := map_description_recordsOf _ comments
  size := by rw [catalogue_ofComments, Catalogue.size_ofRecords, List.length_map,
    length_ordinaries_add_countP]

end Document

end StyleDoc
