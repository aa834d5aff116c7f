import StyleDoc.Command.FileTree
import StyleDoc.Command.Path
import StyleDoc.Proofs.Lines
import StyleDoc.Proofs.NameMap
import StyleDoc.Proofs.Utf8

/-!
# Writing and reading files

A file that has been written is read back under the same path, and files at other places are read as
before. For this the directories must be the same before and after: a path that leads anywhere goes
through directories only, so the file that it leads to lies in one that is already there.
-/

namespace StyleDoc

open Text

theorem lookup_filter_of_ne {α β : Type} [BEq α] [LawfulBEq α] [DecidableEq α] {key other : α}
    (different : other ≠ key) (entries : List (α × β)) :
    (entries.filter (·.1 ≠ key)).lookup other = entries.lookup other := by
  induction entries with
  | nil => rfl
  | cons entry rest inductionHypothesis =>
    obtain ⟨name, value⟩ := entry
    by_cases here : name = key
    · subst here
      rw [lookup_cons_of_ne different, ← inductionHypothesis]
      simp
    · by_cases same : other = name
      · simp [here, same]
      · rw [lookup_cons_of_ne same, ← inductionHypothesis]
        simp [here, lookup_cons_of_ne same]

namespace FileTree

variable {tree after : FileTree FileName} {location found : List FileName}
  {pieces : List FileName} {path other : Path}

/-! ## Directories -/

theorem hasDirectory_iff : tree.hasDirectory location = true ↔
    location <+: tree.home ∨ (∃ directory ∈ tree.directories, location <+: directory) ∨
      ∃ file ∈ tree.files, location <+: file.1.dropLast := by
  simp [hasDirectory, or_assoc]

/-- Whatever leads to a directory is one. -/
theorem hasDirectory_above {above : List FileName} (leads : above <+: location)
    (there : tree.hasDirectory location = true) : tree.hasDirectory above = true := by
  rw [hasDirectory_iff] at there ⊢
  rcases there with home | ⟨directory, listed, within⟩ | ⟨file, listed, within⟩
  · exact .inl (leads.trans home)
  · exact .inr (.inl ⟨directory, listed, leads.trans within⟩)
  · exact .inr (.inr ⟨file, listed, leads.trans within⟩)

/-- Every step of a walk goes on from a directory. -/
theorem hasDirectory_dropLast_of_walk (start : tree.hasDirectory location.dropLast = true)
    (walked : tree.walk location pieces = .ok found) :
    tree.hasDirectory found.dropLast = true := by
  -- The walk is inside a directory all the time: going up leads to an outer one, and a name that is
  -- gone down by has just been looked up in one.
  induction pieces generalizing location with
  | nil =>
    obtain rfl := Except.ok.inj walked
    exact start
  | cons piece pieces inductionHypothesis =>
    rw [walk] at walked
    split at walked
    case isFalse => cases walked
    case isTrue there =>
      split at walked
      · exact inductionHypothesis start walked
      · split at walked
        · exact inductionHypothesis (hasDirectory_above (List.dropLast_prefix _) start) walked
        · refine inductionHypothesis ?_ walked
          rwa [List.dropLast_concat]

theorem hasDirectory_dropLast_of_locate (led : tree.locate path = .ok location) :
    tree.hasDirectory location.dropLast = true := by
  have root : tree.hasDirectory ([] : List FileName).dropLast = true :=
    hasDirectory_iff.2 (.inl List.nil_prefix)
  have home : tree.hasDirectory tree.home.dropLast = true :=
    hasDirectory_iff.2 (.inl (List.dropLast_prefix _))
  unfold locate at led
  split at led
  case h_1 => cases led
  case h_2 =>
    split at led
    · exact hasDirectory_dropLast_of_walk root led
    · exact hasDirectory_dropLast_of_walk home led

/-! ## More directories -/

/-- A walk still leads to the same place when there are more directories. -/
theorem walk_of_hasDirectory
    (kept : ∀ place, tree.hasDirectory place = true → after.hasDirectory place = true)
    (walked : tree.walk location pieces = .ok found) : after.walk location pieces = .ok found := by
  induction pieces generalizing location with
  | nil => exact walked
  | cons piece pieces inductionHypothesis =>
    rw [walk] at walked ⊢
    split at walked
    case isFalse => cases walked
    case isTrue there =>
      rw [if_pos (kept location there)]
      split at walked
      case isTrue nothing => rw [if_pos nothing]; exact inductionHypothesis walked
      case isFalse something =>
        rw [if_neg something]
        split at walked
        case isTrue up => rw [if_pos up]; exact inductionHypothesis walked
        case isFalse down => rw [if_neg down]; exact inductionHypothesis walked

theorem locate_of_hasDirectory (home : after.home = tree.home)
    (kept : ∀ place, tree.hasDirectory place = true → after.hasDirectory place = true)
    (led : tree.locate path = .ok location) : after.locate path = .ok location := by
  unfold locate at led ⊢
  rw [home]
  split at led
  case h_1 => cases led
  case h_2 =>
    split at led
    case isTrue rooted => rw [if_pos rooted]; exact walk_of_hasDirectory kept led
    case isFalse relative => rw [if_neg relative]; exact walk_of_hasDirectory kept led

theorem read_eq_ok_iff {content : String} : tree.read path = .ok content ↔
    ∃ location bytes, tree.locate path = .ok location ∧ tree.file? location = some bytes ∧
      String.fromUTF8? bytes = some content := by
  unfold read
  cases led : tree.locate path with
  | error cause => simp [bind, Except.bind]
  | ok location =>
    cases there : tree.file? location with
    | none => simp [bind, Except.bind, there]
    | some bytes =>
      cases decoded : String.fromUTF8? bytes <;> simp [bind, Except.bind, there, decoded]

/-- The tree has the same files, and possibly more directories. -/
structure AddsDirectories (tree after : FileTree FileName) : Prop where
  home : after.home = tree.home
  files : after.files = tree.files
  kept : ∀ place, tree.hasDirectory place = true → after.hasDirectory place = true

namespace AddsDirectories

theorem refl (tree : FileTree FileName) : tree.AddsDirectories tree :=
  ⟨rfl, rfl, fun _ there => there⟩

theorem trans {between : FileTree FileName} (first : tree.AddsDirectories between)
    (second : between.AddsDirectories after) : tree.AddsDirectories after where
  home := second.home.trans first.home
  files := second.files.trans first.files
  kept place there := second.kept place (first.kept place there)

theorem of_makeDirectory (made : tree.makeDirectory path = .ok after) :
    tree.AddsDirectories after := by
  unfold makeDirectory at made
  cases led : tree.locate path with
  | error cause => rw [led] at made; cases made
  | ok location =>
    rw [led] at made
    simp only [bind, Except.bind] at made
    split at made
    case isTrue => cases made
    case isFalse =>
      obtain rfl := Except.ok.inj made
      refine ⟨rfl, rfl, fun place there => ?_⟩
      rcases hasDirectory_iff.1 there with home | ⟨directory, listed, within⟩ | file
      · exact hasDirectory_iff.2 (.inl home)
      · exact hasDirectory_iff.2 (.inr (.inl ⟨directory, List.mem_cons_of_mem _ listed, within⟩))
      · exact hasDirectory_iff.2 (.inr (.inr file))

theorem read {content : String} (adds : tree.AddsDirectories after)
    (given : tree.read path = .ok content) : after.read path = .ok content := by
  obtain ⟨location, bytes, led, there, decoded⟩ := read_eq_ok_iff.1 given
  have still := locate_of_hasDirectory adds.home adds.kept led
  refine read_eq_ok_iff.2 ⟨location, bytes, still, ?_, decoded⟩
  rwa [file?, adds.files]

end AddsDirectories

/-! ## Writing -/

theorem hasDirectory_putFile (parent : tree.hasDirectory location.dropLast = true)
    (content : ByteArray) (place : List FileName) :
    (tree.putFile location content).hasDirectory place = tree.hasDirectory place := by
  rw [Bool.eq_iff_iff]
  constructor
  · intro there
    rcases hasDirectory_iff.1 there with home | directory | ⟨file, listed, within⟩
    · exact hasDirectory_iff.2 (.inl home)
    · exact hasDirectory_iff.2 (.inr (.inl directory))
    · rcases List.mem_cons.1 listed with rfl | kept
      · exact hasDirectory_above within parent
      · exact hasDirectory_iff.2 (.inr (.inr ⟨file, (List.mem_filter.1 kept).1, within⟩))
  · intro there
    rcases hasDirectory_iff.1 there with home | directory | ⟨file, listed, within⟩
    · exact hasDirectory_iff.2 (.inl home)
    · exact hasDirectory_iff.2 (.inr (.inl directory))
    · -- The old file may be the one that is replaced.
      by_cases same : file.1 = location
      · exact hasDirectory_iff.2 (.inr (.inr ⟨_, List.mem_cons_self, same ▸ within⟩))
      · have kept : file ∈ tree.files.filter (·.1 ≠ location) :=
          List.mem_filter.2 ⟨listed, by simpa using same⟩
        exact hasDirectory_iff.2 (.inr (.inr ⟨file, List.mem_cons_of_mem _ kept, within⟩))

theorem file?_putFile (tree : FileTree FileName) (location place : List FileName)
    (content : ByteArray) :
    (tree.putFile location content).file? place =
      if place = location then some content else tree.file? place := by
  show ((location, content) :: tree.files.filter (·.1 ≠ location)).lookup place = _
  split
  case isTrue same => simp [same]
  case isFalse different =>
    rw [lookup_cons_of_ne different, lookup_filter_of_ne different]
    rfl

/-- What a successful attempt to write a file does. -/
theorem write_cases {text : String} (written : tree.write path text = .ok after) :
    ∃ location, tree.locate path = .ok location ∧ after = tree.putFile location text.toUTF8 ∧
      ∀ place, after.hasDirectory place = tree.hasDirectory place := by
  unfold write at written
  cases led : tree.locate path with
  | error cause => rw [led] at written; cases written
  | ok location =>
    rw [led] at written
    simp only [bind, Except.bind] at written
    split at written
    case isTrue => cases written
    case isFalse =>
      obtain rfl := Except.ok.inj written
      exact ⟨location, rfl, rfl,
        hasDirectory_putFile (hasDirectory_dropLast_of_locate led) text.toUTF8⟩

/-- Writing does not change where a path leads. -/
theorem locate_of_write {text : String} (written : tree.write path text = .ok after) :
    after.locate other = .ok location ↔ tree.locate other = .ok location := by
  obtain ⟨_, _, rfl, same⟩ := write_cases written
  constructor
  · exact locate_of_hasDirectory rfl fun place there => by rwa [← same place]
  · exact locate_of_hasDirectory rfl fun place there => by rwa [same place]

/-- A file that has been written is read back. -/
theorem read_of_write {text : String} (written : tree.write path text = .ok after) :
    after.read path = .ok text := by
  obtain ⟨location, led, rfl, _⟩ := write_cases written
  refine read_eq_ok_iff.2 ⟨location, text.toUTF8, (locate_of_write written).2 led, ?_, ?_⟩
  · rw [file?_putFile, if_pos rfl]
  · exact fromUTF8?_toUTF8 text

/-- A file at another place stays as it is. -/
theorem read_of_write_of_ne {text content : String} (written : tree.write path text = .ok after)
    (apart : tree.locate other ≠ tree.locate path) (read : tree.read other = .ok content) :
    after.read other = .ok content := by
  obtain ⟨location, led, rfl, _⟩ := write_cases written
  obtain ⟨place, bytes, otherLed, there, decoded⟩ := read_eq_ok_iff.1 read
  have different : place ≠ location := by
    rintro rfl
    exact apart (otherLed.trans led.symm)
  refine read_eq_ok_iff.2 ⟨place, bytes, (locate_of_write written).2 otherLed, ?_, decoded⟩
  rwa [file?_putFile, if_neg different]

/-! ## Names in a directory -/

theorem walk_append (tree : FileTree FileName) (location first second : List FileName) :
    tree.walk location (first ++ second) =
      (tree.walk location first).bind fun place => tree.walk place second := by
  induction first generalizing location with
  | nil => rfl
  | cons piece first inductionHypothesis =>
    rw [List.cons_append, walk, walk]
    split
    · split
      · exact inductionHypothesis location
      · split
        · exact inductionHypothesis location.dropLast
        · exact inductionHypothesis (location ++ [piece])
    · rfl

/-- A name of a file, which leads from a directory to something inside. -/
structure IsName (name : FileName) : Prop where
  whole : Path.slash ∉ name
  notEmpty : name ≠ []
  notHere : name ≠ Path.hereName
  notAbove : name ≠ Path.aboveName

theorem IsName.walk_eq {name : FileName} (isName : IsName name)
    (walked : tree.walk location [name] = .ok found) : found = location ++ [name] := by
  rw [walk] at walked
  split at walked
  case isFalse => cases walked
  case isTrue =>
    have down : ¬ (name = [] ∨ name = Path.hereName) :=
      not_or.2 ⟨isName.notEmpty, isName.notHere⟩
    rw [if_neg down, if_neg isName.notAbove] at walked
    exact (Except.ok.inj walked).symm

theorem locate_of_slash (tree : FileTree FileName) (rest : List UInt8) :
    tree.locate ⟨Path.slash :: rest⟩ = tree.walk [] (split Path.slash rest) := rfl

theorem locate_of_ne_slash (tree : FileTree FileName) {first : UInt8} (rest : List UInt8)
    (relative : first ≠ Path.slash) :
    tree.locate ⟨first :: rest⟩ = tree.walk tree.home (split Path.slash (first :: rest)) :=
  if_neg relative

/-- What is behind the last slash of a path is looked up from where the rest leads to. -/
theorem locate_append_name (tree : FileTree FileName) (front : List UInt8) :
    ∃ place? : Except FileError (List FileName), ∀ name, IsName name →
      tree.locate ⟨front ++ Path.slash :: name⟩ =
        place?.bind fun place => tree.walk place [name] := by
  have pieces (text : List UInt8) {name : FileName} (isName : IsName name) :
      split Path.slash (text ++ Path.slash :: name) = split Path.slash text ++ [name] := by
    rw [split_append, split_of_not_mem isName.whole]
  cases front with
  | nil =>
    refine ⟨.ok [], fun name isName => ?_⟩
    rw [List.nil_append, locate_of_slash, split_of_not_mem isName.whole]
    rfl
  | cons first text =>
    by_cases rooted : first = Path.slash
    · subst rooted
      refine ⟨tree.walk [] (split Path.slash text), fun name isName => ?_⟩
      rw [List.cons_append, locate_of_slash, pieces text isName, walk_append]
    · refine ⟨tree.walk tree.home (split Path.slash (first :: text)), fun name isName => ?_⟩
      rw [List.cons_append, locate_of_ne_slash tree _ rooted, ← List.cons_append,
        pieces (first :: text) isName, walk_append]

/-- The names in a directory are all looked up from the same place. -/
theorem locate_join (tree : FileTree FileName) (directory : Path) :
    ∃ place? : Except FileError (List FileName), ∀ name, IsName name →
      tree.locate (Path.join directory name) = place?.bind fun place => tree.walk place [name] := by
  by_cases here : directory.bytes = []
  · refine ⟨.ok tree.home, fun name isName => ?_⟩
    rw [Path.join, if_pos here]
    obtain ⟨first, rest, rfl⟩ := List.exists_cons_of_ne_nil isName.notEmpty
    have relative : first ≠ Path.slash := by
      rintro rfl
      exact isName.whole List.mem_cons_self
    rw [locate_of_ne_slash tree rest relative, split_of_not_mem isName.whole]
    rfl
  · by_cases ends : directory.bytes.getLast? = some Path.slash
    · obtain ⟨front, spelled⟩ := List.getLast?_eq_some_iff.1 ends
      obtain ⟨place?, located⟩ := tree.locate_append_name front
      refine ⟨place?, fun name isName => ?_⟩
      rw [Path.join, if_neg here, if_pos ends, spelled, List.append_assoc, ← located name isName]
      rfl
    · obtain ⟨place?, located⟩ := tree.locate_append_name directory.bytes
      refine ⟨place?, fun name isName => ?_⟩
      rw [Path.join, if_neg here, if_neg ends, located name isName]

/-- Different names in a directory are different places. -/
theorem eq_of_locate_join {directory : Path} {name second : FileName} (isName : IsName name)
    (secondIsName : IsName second) (led : tree.locate (Path.join directory name) = .ok location)
    (secondLed : tree.locate (Path.join directory second) = .ok location) : name = second := by
  obtain ⟨place?, located⟩ := tree.locate_join directory
  rw [located name isName] at led
  rw [located second secondIsName] at secondLed
  cases place? with
  | error cause => cases led
  | ok place =>
    have same := (isName.walk_eq led).symm.trans (secondIsName.walk_eq secondLed)
    exact List.singleton_inj.1 (List.append_cancel_left same)

end FileTree

/-! ## Names of output files -/

namespace Path

@[simp]
theorem text_ofText (text : String) : (ofText text).text = text := lossy_bytes text

theorem mem_of_dropEnding? {ending text result : List Char} {c : Char}
    (dropped : dropEnding? ending text = some result) (member : c ∈ result) : c ∈ text := by
  unfold dropEnding? at dropped
  split at dropped
  · obtain rfl := Option.some.inj dropped
    exact List.mem_of_mem_take member
  · cases dropped

theorem not_mem_outputName (source : Path) : '/' ∉ (outputName source).toList := by
  unfold outputName
  rw [String.toList_ofList]
  intro member
  generalize part : (source.text.toList.reverse.takeWhile fun c => !isSeparator c).reverse = name
    at member
  have plain : ∀ c ∈ name, c ≠ '/' := by
    rintro c inside rfl
    rw [← part, List.mem_reverse] at inside
    exact absurd (List.all_eq_true.1 List.all_takeWhile _ inside) (by decide)
  cases first : dropEnding? ".scss".toList name with
  | some result =>
    rw [first] at member
    exact plain _ (mem_of_dropEnding? first member) rfl
  | none =>
    rw [first] at member
    cases second : dropEnding? ".sass".toList name with
    | some result =>
      rw [second] at member
      exact plain _ (mem_of_dropEnding? second member) rfl
    | none =>
      rw [second] at member
      exact plain _ member rfl

/-- What a source is called in an output directory is the name of a file. -/
theorem isName_outputName (source : Path) :
    FileTree.IsName (Text.bytes (outputName source ++ ".json")) := by
  have ends : Text.bytes ".json" = [0x2E, 0x6A, 0x73, 0x6F, 0x6E] := by decide
  have long : 5 ≤ (Text.bytes (outputName source ++ ".json")).length := by
    rw [bytes_append, List.length_append, ends]
    exact Nat.le_add_left 5 _
  refine ⟨?_, ?_, ?_, ?_⟩
  · intro inside
    have member : '/' ∈ (outputName source ++ ".json").toList :=
      mem_of_mem_bytes (by decide) rfl inside
    rw [String.toList_append, List.mem_append] at member
    exact member.elim (not_mem_outputName source) (by decide)
  · intro same
    rw [same] at long
    exact absurd long (by decide)
  · intro same
    rw [same] at long
    exact absurd long (by decide)
  · intro same
    rw [same] at long
    exact absurd long (by decide)

end Path

end StyleDoc
