import StyleDoc.Proofs.FileTree
import StyleDoc.Proofs.Json.RoundTrip
import StyleDoc.Proofs.Keys
import StyleDoc.Proofs.Simulation

/-!
# The ways to put out a catalogue

A catalogue is printed for the input, written to a file of its own, or put into one object with
those of other files, and each of these in one of two layouts. What is printed for the input is
taken here as the measure: a file of its own holds the same text, and the object holds, under the
text of the path of every file, the value that this text denotes, up to the order of fields. Where
paths have the same text, this is the last of them.
-/

namespace StyleDoc

open Json (Alike DistinctKeys denoted?)
open Simulation (outcome)
open Text (fromUTF8?_toUTF8 bytes_inj)

namespace Options

variable {options : Options} {content : String}

/-! ## Printing the input -/

/-- How a run in memory ends, and what it leaves behind. -/
def runIn (options : Options) (simulation : Simulation) : Except Failure Unit × Simulation :=
  outcome (options.run Simulation.workspace) simulation

/-- What the command prints when this is the content of its input. -/
def printedFor? (options : Options) (content : String) : Option String :=
  match { options with sources := [] }.runIn (.start ⟨[], [], []⟩ content.toUTF8) with
  | (.ok _, after) => some after.printed
  | (.error _, _) => none

/-- What is printed for the input depends on nothing else. -/
theorem runIn_input (options : Options) {simulation : Simulation}
    (given : String.fromUTF8? simulation.input = some content) :
    ∃ lines, { options with sources := [] }.runIn simulation =
      (.ok (), { simulation with
        printed := simulation.printed ++ options.textOf content }.reporting lines) := by
  let inputOptions := { options with sources := [] }
  obtain ⟨lines, ran⟩ := Simulation.run_readText inputOptions "<stdin>" content simulation
  refine ⟨lines, ?_⟩
  show outcome (inputOptions.runInput Simulation.workspace) simulation = _
  unfold runInput
  rw [Simulation.outcome_bind_of_ok (Simulation.outcome_input given)]
  exact Simulation.outcome_bind_of_ok (Simulation.outcome_lift ran)

theorem printedFor?_eq (options : Options) (content : String) :
    options.printedFor? content = some (options.textOf content) := by
  let start := Simulation.start ⟨[], [], []⟩ content.toUTF8
  have given : String.fromUTF8? start.input = some content := fromUTF8?_toUTF8 content
  obtain ⟨lines, ran⟩ := options.runIn_input given
  unfold printedFor?
  rw [ran]
  exact congrArg some String.empty_append

theorem denoted?_textOf (options : Options) (content : String) :
    denoted? (options.textOf content) = some (options.catalogueOf content).toJson :=
  Json.denoted?_render_lineFeed _ _

theorem exists_registry_eq (options : Options) :
    ∃ annotations, options.registry = .ofList annotations ∧
      ∀ meaning ∈ annotations, meaning ∈ Annotation.standard := by
  unfold registry
  split
  · exact ⟨[], rfl, fun _ listed => nomatch listed⟩
  · exact ⟨_, rfl, fun _ listed => listed⟩

theorem distinctKeys_catalogueOf (options : Options) (content : String) :
    (options.catalogueOf content).toJson.DistinctKeys := by
  obtain ⟨annotations, same, known⟩ := options.exists_registry_eq
  rw [catalogueOf, same]
  apply Document.distinctKeys_toJson
  intro meaning listed value given
  exact Annotation.distinctKeys_of_mem_standard (known meaning listed) given

/-! ## Files in a directory -/

/-- One source after the other is read, and what is printed for its content is written to its file
in the directory. -/
inductive WritesEach (options : Options) (directory : Path) :
    FileTree FileName → List Path → FileTree FileName → Prop where
  | none (tree : FileTree FileName) : WritesEach options directory tree [] tree
  | one {tree next after : FileTree FileName} {source : Path} {content text : String}
      {rest : List Path}
      (read : tree.read source = .ok content)
      (printed : options.printedFor? content = some text)
      (written : tree.write (Path.outputFile directory source) text = .ok next)
      (others : WritesEach options directory next rest after) :
      WritesEach options directory tree (source :: rest) after

/-- The sources that are left are none, or the first of them is to blame. -/
inductive StopsAt (options : Options) (directory : Path) (tree : FileTree FileName) :
    List Path → Except Failure Unit → Prop where
  | done : StopsAt options directory tree [] (.ok ())
  | unreadable {source : Path} {rest : List Path} {cause : FileError}
      (read : tree.read source = .error cause) :
      StopsAt options directory tree (source :: rest) (.error (.source source cause))
  | unwritable {source : Path} {content text : String} {rest : List Path} {cause : FileError}
      (read : tree.read source = .ok content)
      (printed : options.printedFor? content = some text)
      (refused : tree.write (Path.outputFile directory source) text = .error cause) :
      StopsAt options directory tree (source :: rest)
        (.error (.result (Path.outputFile directory source) cause))

theorem writesEach_of_forM (options : Options) (directory : Path) (sources : List Path)
    (simulation : Simulation) :
    ∃ done rest result after,
      outcome (sources.forM (options.writeSource Simulation.workspace directory)) simulation =
        (result, after) ∧
      sources = done ++ rest ∧ options.WritesEach directory simulation.tree done after.tree ∧
      options.StopsAt directory after.tree rest result := by
  -- Each source is read from the tree that the files of the sources before it have left behind.
  induction sources generalizing simulation with
  | nil => exact ⟨[], [], .ok (), simulation, rfl, rfl, .none _, .done⟩
  | cons source others inductionHypothesis =>
    have unfolded : (source :: others).forM (options.writeSource Simulation.workspace directory) =
        (options.writeSource Simulation.workspace directory source >>= fun _ =>
          others.forM (options.writeSource Simulation.workspace directory)) := rfl
    rw [unfolded]
    cases read : simulation.tree.read source with
    | error cause =>
      have failed := Simulation.outcome_writeSource_of_unreadable options directory read
      exact ⟨[], source :: others, _, simulation, Simulation.outcome_bind_of_error failed, rfl,
        .none _, .unreadable read⟩
    | ok content =>
      have printed := options.printedFor?_eq content
      cases wrote : simulation.tree.write (Path.outputFile directory source)
          (options.textOf content) with
      | error cause =>
        obtain ⟨lines, failed⟩ := Simulation.outcome_writeSource_of_unwritable read wrote
        exact ⟨[], source :: others, _, _, Simulation.outcome_bind_of_error failed, rfl,
          .none _, .unwritable read printed wrote⟩
      | ok tree =>
        obtain ⟨lines, ran⟩ := Simulation.outcome_writeSource_of_ok read wrote
        obtain ⟨done, rest, result, after, ranOthers, same, writes, stops⟩ :=
          inductionHypothesis ({ simulation with tree := tree }.reporting lines)
        refine ⟨source :: done, rest, result, after, ?_, by rw [same, List.cons_append],
          .one read printed wrote writes, stops⟩
        rw [Simulation.outcome_bind_of_ok ran, ranOthers]

/-- A file that is not the file of any source stays as it is. -/
theorem WritesEach.read_kept {directory path : Path} {text : String}
    {tree after : FileTree FileName} {others : List Path}
    (writes : options.WritesEach directory tree others after)
    (apart : ∀ other ∈ others, tree.locate path ≠ tree.locate (Path.outputFile directory other))
    (read : tree.read path = .ok text) : after.read path = .ok text := by
  induction writes with
  | none => exact read
  | @one tree next _ other _ _ rest _ _ written _ inductionHypothesis =>
    have kept := FileTree.read_of_write_of_ne written (apart other List.mem_cons_self) read
    refine inductionHypothesis (fun another member same => ?_) kept
    -- A place that two paths share after the write has been shared before.
    obtain ⟨location, _, led, _⟩ := FileTree.read_eq_ok_iff.1 kept
    have before := (FileTree.locate_of_write written).1 led
    have alsoBefore := (FileTree.locate_of_write written).1 (same.symm.trans led)
    exact apart another (List.mem_cons_of_mem _ member) (before.trans alsoBefore.symm)

theorem WritesEach.exists_between {directory : Path} {tree after : FileTree FileName}
    {earlier later : List Path}
    (writes : options.WritesEach directory tree (earlier ++ later) after) :
    ∃ between, options.WritesEach directory tree earlier between ∧
      options.WritesEach directory between later after := by
  induction earlier generalizing tree with
  | nil => exact ⟨tree, .none tree, writes⟩
  | cons source earlier inductionHypothesis =>
    cases writes with
    | one read printed written others =>
      obtain ⟨between, before, behind⟩ := inductionHypothesis others
      exact ⟨between, .one read printed written before, behind⟩

/-- In the end the file of a source holds what is printed for the content of the source, unless an
earlier file has replaced the source or a later one its file. -/
theorem WritesEach.read_output {directory source : Path} {content : String}
    {tree after : FileTree FileName} {earlier later : List Path}
    (writes : options.WritesEach directory tree (earlier ++ source :: later) after)
    (given : tree.read source = .ok content)
    (apart : ∀ other ∈ earlier, tree.locate source ≠ tree.locate (Path.outputFile directory other))
    (last : ∀ other ∈ later, Path.outputName other ≠ Path.outputName source) :
    ∃ text, options.printedFor? content = some text ∧
      after.read (Path.outputFile directory source) = .ok text := by
  obtain ⟨between, before, writesRest⟩ := writes.exists_between
  have unchanged := before.read_kept apart given
  cases writesRest with
  | @one _ next _ _ _ text _ read printed written others =>
    obtain rfl := Except.ok.inj (unchanged.symm.trans read)
    have output := FileTree.read_of_write written
    refine ⟨text, printed, others.read_kept (fun other member same => ?_) output⟩
    obtain ⟨location, _, led, _⟩ := FileTree.read_eq_ok_iff.1 output
    have names := FileTree.eq_of_locate_join (Path.isName_outputName other)
      (Path.isName_outputName source) (same.symm.trans led) led
    exact last other member ((String.append_left_inj _).1 (bytes_inj.1 names))

/-! ## One object -/

/-- The catalogue of a source that can be read. -/
def catalogueAt (options : Options) (tree : FileTree FileName) (source : Path) : Catalogue :=
  options.catalogueOf ((tree.read source).toOption.getD "")

theorem catalogueAt_eq (options : Options) {tree : FileTree FileName} {source : Path}
    (read : tree.read source = .ok content) :
    options.catalogueAt tree source = options.catalogueOf content := by
  rw [catalogueAt, read]
  rfl

theorem outcome_catalogues (options : Options) {simulation : Simulation} {sources : List Path}
    (readable : ∀ source ∈ sources, ∃ content, simulation.tree.read source = .ok content) :
    ∃ lines, outcome (sources.mapM fun source => do
        return (source.text, ← options.readSource Simulation.workspace source)) simulation =
      (.ok (sources.map fun source => (source.text, options.catalogueAt simulation.tree source)),
        simulation.reporting lines) := by
  apply Simulation.outcome_mapM
  intro source member between same
  obtain ⟨content, read⟩ := readable source member
  have readBetween : between.tree.read source = .ok content := same ▸ read
  obtain ⟨lines, ran⟩ := Simulation.outcome_readSource_of_ok options readBetween
  rw [← options.catalogueAt_eq read] at ran
  exact ⟨lines, Simulation.outcome_bind_of_ok ran⟩

/-- The fields of an object hold, under the text of every source, what is printed for the content of
the last source of this text. There are no other fields, and they are sorted. -/
structure Stores (options : Options) (tree : FileTree FileName) (sources : List Path)
    (fields : List (String × Json)) : Prop where
  keys : ∀ key, key ∈ fields.map (·.1) ↔ ∃ source ∈ sources, source.text = key
  ordered : fields.Pairwise (·.1 < ·.1)
  values : ∀ earlier source later, sources = earlier ++ source :: later →
    (∀ other ∈ later, other.text ≠ source.text) →
    ∃ content text value stored, tree.read source = .ok content ∧
      options.printedFor? content = some text ∧ denoted? text = some value ∧
      fields.lookup source.text = some stored ∧ Alike value stored

/-- The fields of the object for many sources. -/
def fieldsFor (options : Options) (tree : FileTree FileName) (sources : List Path) :
    List (String × Json) :=
  Json.sortedFields [] (sources.map fun source =>
    (source.text, (options.catalogueAt tree source).toJson))

theorem combined_eq (options : Options) (tree : FileTree FileName) (sources : List Path) :
    combined (sources.map fun source => (source.text, options.catalogueAt tree source)) =
      .obj (options.fieldsFor tree sources) := by
  unfold combined fieldsFor
  rw [List.map_map, Json.sorted]
  rfl

theorem lookup_fieldsFor (options : Options) (tree : FileTree FileName) {source : Path}
    {earlier later : List Path} (last : ∀ other ∈ later, other.text ≠ source.text) :
    (options.fieldsFor tree (earlier ++ source :: later)).lookup source.text =
      some (options.catalogueAt tree source).toJson.sorted := by
  let field (source : Path) := (source.text, (options.catalogueAt tree source).toJson)
  have behind : (later.map field).reverse.lookup source.text = none := by
    rw [List.lookup_eq_none_iff]
    intro entry listed
    obtain ⟨other, member, rfl⟩ := List.mem_map.1 (List.mem_reverse.1 listed)
    exact bne_iff_ne.2 (Ne.symm (last other member))
  show (Json.sortedFields [] ((earlier ++ source :: later).map field)).lookup source.text = _
  rw [Json.lookup_sortedFields, List.map_append, List.map_cons, List.reverse_append,
    List.reverse_cons, List.lookup_append, List.lookup_append, behind]
  simp [field]

theorem stores_fieldsFor (options : Options) {tree : FileTree FileName} {sources : List Path}
    (readable : ∀ source ∈ sources, ∃ content, tree.read source = .ok content) :
    options.Stores tree sources (options.fieldsFor tree sources) where
  keys key := by
    unfold fieldsFor
    rw [Json.mem_keys_sortedFields, List.map_map]
    simp
  ordered := Json.pairwise_sortedFields .nil _
  values := by
    rintro earlier source later rfl last
    obtain ⟨content, read⟩ :=
      readable source (List.mem_append_right _ List.mem_cons_self)
    refine ⟨content, _, _, _, read, options.printedFor?_eq content, options.denoted?_textOf content,
      options.lookup_fieldsFor tree last, ?_⟩
    rw [options.catalogueAt_eq read]
    exact (options.distinctKeys_catalogueOf content).alike_sorted

/-! ## Agreement -/

theorem runIn_files (options : Options) {simulation found : Simulation} {sources : List Path}
    (named : options.sources ≠ [])
    (looked : outcome (options.inputFiles Simulation.workspace) simulation = (.ok sources, found)) :
    options.runIn simulation =
      match options.output with
      | some directory => outcome (orFail (.output directory)
          (Simulation.workspace.makeDirectories (Path.ancestors directory)) >>= fun _ =>
            sources.forM (options.writeSource Simulation.workspace directory)) found
      | none => outcome ((sources.mapM fun source => do
          return (source.text, ← options.readSource Simulation.workspace source)) >>=
            fun catalogues =>
              liftM (Simulation.workspace.print
                (options.renderLine (combined catalogues)))) found := by
  unfold runIn run
  rw [if_neg named]
  unfold runFiles
  rw [Simulation.outcome_bind_of_ok looked]
  cases options.output <;> rfl

/-- Where all sources can be read, one object is printed for them. -/
theorem runIn_object (options : Options) {simulation found : Simulation} {sources : List Path}
    (named : options.sources ≠ []) (output : options.output = none)
    (looked : outcome (options.inputFiles Simulation.workspace) simulation = (.ok sources, found))
    (readable : ∀ source ∈ sources, ∃ content, simulation.tree.read source = .ok content) :
    ∃ text after, options.runIn simulation = (.ok (), after) ∧
      after.printed = simulation.printed ++ text ∧
      denoted? text = some (.obj (options.fieldsFor simulation.tree sources)) := by
  -- Looking for the sources has left the tree as it is.
  obtain ⟨lines, rfl⟩ := Simulation.exists_reporting_of_inputFiles looked
  have stillReadable : ∀ source ∈ sources, ∃ content,
      (simulation.reporting lines).tree.read source = .ok content := readable
  obtain ⟨more, ran⟩ := options.outcome_catalogues stillReadable
  have ended := options.runIn_files named looked
  rw [output] at ended
  dsimp only at ended
  rw [Simulation.outcome_bind_of_ok ran] at ended
  refine ⟨_, _, ended, rfl, ?_⟩
  rw [Simulation.tree_reporting, options.combined_eq]
  exact Json.denoted?_render_lineFeed _ _

/-- All ways to put out the catalogue of a content agree with what is printed for it. -/
structure OutputsAgree (options : Options) : Prop where
  /-- The compact and the pretty text denote the same value, that of the catalogue. -/
  printed : ∀ content compact, ∃ text,
    { options with compact := compact }.printedFor? content = some text ∧
      denoted? text = some (options.catalogueOf content).toJson
  /-- No field of this value hides another one. -/
  distinct : ∀ content, (options.catalogueOf content).toJson.DistinctKeys
  /-- With a directory, what is printed for the content of a source is written to its file, for one
  source after the other up to the first that cannot be read or written. It is what the file holds
  in the end, unless the source or its file has been replaced by the file of another source. -/
  written : ∀ (directory : Path) (simulation found ready : Simulation) (sources : List Path),
    options.sources ≠ [] → options.output = some directory →
    outcome (options.inputFiles Simulation.workspace) simulation = (.ok sources, found) →
    (Simulation.workspace.makeDirectories (Path.ancestors directory)).run found = (.ok (), ready) →
    ∃ done rest result after, options.runIn simulation = (result, after) ∧
      sources = done ++ rest ∧ options.WritesEach directory ready.tree done after.tree ∧
      options.StopsAt directory after.tree rest result ∧
      ∀ earlier source later content, done = earlier ++ source :: later →
        simulation.tree.read source = .ok content →
        (∀ other ∈ earlier,
          ready.tree.locate source ≠ ready.tree.locate (Path.outputFile directory other)) →
        (∀ other ∈ later, Path.outputName other ≠ Path.outputName source) →
        ∃ text, options.printedFor? content = some text ∧
          after.tree.read (Path.outputFile directory source) = .ok text
  /-- Without a directory, one object is printed that holds what is printed for each content. -/
  stored : ∀ (simulation found : Simulation) (sources : List Path),
    options.sources ≠ [] → options.output = none →
    outcome (options.inputFiles Simulation.workspace) simulation = (.ok sources, found) →
    (∀ source ∈ sources, ∃ content, simulation.tree.read source = .ok content) →
    ∃ fields, options.Stores simulation.tree sources fields ∧ ∀ compact, ∃ text after,
      { options with compact := compact }.runIn simulation = (.ok (), after) ∧
      after.printed = simulation.printed ++ text ∧ denoted? text = some (.obj fields)

theorem outputsAgree (options : Options) : options.OutputsAgree where
  printed content compact :=
    ⟨_, printedFor?_eq { options with compact := compact } content, denoted?_textOf _ content⟩
  distinct := options.distinctKeys_catalogueOf
  written := by
    intro directory simulation found ready sources named output looked made
    obtain ⟨done, rest, result, after, ran, same, writes, stops⟩ :=
      options.writesEach_of_forM directory sources ready
    have madeAll : outcome (orFail (.output directory)
        (Simulation.workspace.makeDirectories (Path.ancestors directory))) found =
          (.ok (), ready) := by
      rw [Simulation.outcome_orFail, made]
      rfl
    refine ⟨done, rest, result, after, ?_, same, writes, stops, ?_⟩
    · rw [options.runIn_files named looked, output]
      dsimp only
      rw [Simulation.outcome_bind_of_ok madeAll, ran]
    · rintro earlier source later content rfl given apart last
      -- Neither looking for sources nor making directories has changed a file.
      obtain ⟨lines, rfl⟩ := Simulation.exists_reporting_of_inputFiles looked
      have added := Simulation.onlyAddsDirectories_makeDirectories (Path.ancestors directory)
        (simulation.reporting lines)
      rw [made] at added
      exact writes.read_output (added.read given) apart last
  stored := by
    intro simulation found sources named output looked readable
    refine ⟨_, options.stores_fieldsFor readable, fun compact => ?_⟩
    exact runIn_object { options with compact := compact } named output looked readable

/-- A style sheet with one comment. -/
def sheet : String := "/// A.\n$a: 1;\n"

/-- A tree with this style sheet in one file. -/
def oneSheet : Simulation := .start ⟨[], [], [(["a.scss"], sheet.toUTF8)]⟩ .empty

/-- Options that name this file. -/
def forSheet (output : Option Path) : Options :=
  { Options.default with sources := ["a.scss"], output := output }

/-- The file and the field of one style sheet hold what is printed for it. -/
theorem outputsAgree_one_sheet :
    (∃ text after, (forSheet (some (.ofText "out"))).runIn oneSheet = (.ok (), after) ∧
      (forSheet (some (.ofText "out"))).printedFor? sheet = some text ∧
      after.tree.read (.ofText "out/a.json") = .ok text) ∧
    ∃ fields text after, (forSheet none).runIn oneSheet = (.ok (), after) ∧
      after.printed = text ∧ denoted? text = some (.obj fields) ∧
      ∃ own value stored, (forSheet none).printedFor? sheet = some own ∧
        denoted? own = some value ∧ fields.lookup "a.scss" = some stored ∧ Alike value stored := by
  let source := Path.ofText "a.scss"
  constructor
  · let directory := Path.ofText "out"
    let ready := ((Simulation.workspace.makeDirectories (Path.ancestors directory)).run oneSheet).2
    have readable : ready.tree.read source = .ok sheet := rfl
    have file : Path.outputFile directory source = .ofText "out/a.json" := by decide
    have writable : ∀ text, ∃ tree,
        ready.tree.write (Path.outputFile directory source) text = .ok tree := by
      rw [file]
      exact fun text => ⟨_, rfl⟩
    obtain ⟨done, rest, result, after, ran, same, writes, stops, outputs⟩ :=
      (outputsAgree (forSheet (some directory))).written directory oneSheet oneSheet ready [source]
        (by decide) rfl rfl rfl
    cases done with
    | nil =>
      -- The only source can be read and written, so the run does not stop in front of it.
      obtain rfl : rest = [source] := same.symm
      generalize after.tree = tree at writes stops
      cases writes
      cases stops with
      | unreadable unread => cases readable.symm.trans unread
      | unwritable _ _ refused =>
        obtain ⟨tree, written⟩ := writable _
        cases written.symm.trans refused
    | cons first others =>
      obtain ⟨rfl, none⟩ := List.cons.inj same
      obtain ⟨rfl, rfl⟩ := List.append_eq_nil_iff.1 none.symm
      cases stops
      obtain ⟨text, printed, output⟩ := outputs [] source [] sheet rfl rfl
        (fun _ listed => nomatch listed) (fun _ listed => nomatch listed)
      rw [file] at output
      exact ⟨text, after, ran, printed, output⟩
  · have readable : ∀ other ∈ [source], ∃ content, oneSheet.tree.read other = .ok content := by
      intro other listed
      obtain rfl := List.mem_singleton.1 listed
      exact ⟨sheet, rfl⟩
    obtain ⟨fields, stores, prints⟩ := (outputsAgree (forSheet none)).stored oneSheet oneSheet
      [source] (by decide) rfl rfl readable
    obtain ⟨text, after, ran, printed, denoted⟩ := prints false
    obtain ⟨content, own, value, stored, read, ownPrinted, ownDenoted, found, alike⟩ :=
      stores.values [] source [] rfl fun _ listed => nomatch listed
    have given : oneSheet.tree.read source = .ok sheet := rfl
    obtain rfl := Except.ok.inj (given.symm.trans read)
    rw [show source.text = "a.scss" from Path.text_ofText "a.scss"] at found
    rw [show oneSheet.printed = "" from rfl, String.empty_append] at printed
    exact ⟨fields, text, after, ran, printed, denoted, own, value, stored, ownPrinted, ownDenoted,
      found, alike⟩

end Options

end StyleDoc
