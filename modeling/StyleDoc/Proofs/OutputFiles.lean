import Mathlib.Data.List.Pairwise
import StyleDoc.Proofs.Outputs

/-!
# Files of the sources

In an output directory a source has the file of its name, and the name of a source is what its path
says behind the last slash, without the ending of a style sheet. So the files of several sources are
as different as their names. Sources of one name share a file, and it keeps what is printed for the
last of them.
-/

namespace StyleDoc

open Simulation (outcome)

/-- Two functions that have the same values for the same items repeat a value just together. -/
theorem nodup_map_iff_of_inj {α β γ : Type} {f : α → β} {g : α → γ} {items : List α}
    (same : ∀ first ∈ items, ∀ second, f first = f second ↔ g first = g second) :
    (items.map f).Nodup ↔ (items.map g).Nodup := by
  unfold List.Nodup
  rw [List.pairwise_map, List.pairwise_map]
  exact List.Pairwise.iff_of_mem fun listed _ => not_congr (same _ listed _)

namespace Path

theorem join_inj {directory : Path} {name other : FileName} :
    join directory name = join directory other ↔ name = other := by
  refine ⟨fun same => ?_, congrArg (join directory)⟩
  unfold join at same
  split at same
  · exact Path.mk.inj same
  · split at same
    · exact List.append_cancel_left (Path.mk.inj same)
    · exact (List.cons.inj (List.append_cancel_left (Path.mk.inj same))).2

theorem outputFile_inj {directory first second : Path} :
    outputFile directory first = outputFile directory second ↔
      outputName first = outputName second :=
  join_inj.trans (Text.bytes_inj.trans (String.append_left_inj _))

end Path

namespace Options

variable {options : Options} {directory : Path} {tree after : FileTree FileName}

/-! ## Places of files -/

/-- A path leads to the same place before and after the files have been written. -/
theorem WritesEach.locate_iff {sources : List Path} {path : Path} {location : List FileName}
    (writes : options.WritesEach directory tree sources after) :
    after.locate path = .ok location ↔ tree.locate path = .ok location := by
  induction writes with
  | none => exact Iff.rfl
  | one _ _ written _ inductionHypothesis =>
    exact inductionHypothesis.trans (FileTree.locate_of_write written)

/-- A source that has been written to its file has a place for it. -/
theorem WritesEach.exists_location {sources : List Path} {source : Path}
    (writes : options.WritesEach directory tree sources after) (listed : source ∈ sources) :
    ∃ location, after.locate (Path.outputFile directory source) = .ok location := by
  obtain ⟨earlier, later, rfl⟩ := List.append_of_mem listed
  -- Where the file of the source was written, its path led to a place, and it still leads there.
  obtain ⟨between, _, writesRest⟩ := writes.exists_between
  have whole := writesRest
  cases writesRest with
  | one read printed written others =>
    obtain ⟨location, led, _⟩ := FileTree.write_cases written
    exact ⟨location, whole.locate_iff.2 led⟩

/-- Two written sources have one place for their files just when they have one name. -/
theorem WritesEach.locate_outputFile_inj {sources : List Path} {first second : Path}
    (writes : options.WritesEach directory tree sources after)
    (firstListed : first ∈ sources) :
    after.locate (Path.outputFile directory first) =
        after.locate (Path.outputFile directory second) ↔
      Path.outputName first = Path.outputName second := by
  constructor
  · intro same
    obtain ⟨location, led⟩ := writes.exists_location firstListed
    have names := FileTree.eq_of_locate_join (Path.isName_outputName first)
      (Path.isName_outputName second) led (same.symm.trans led)
    exact (String.append_left_inj _).1 (Text.bytes_inj.1 names)
  · intro same
    rw [Path.outputFile_inj.2 same]

theorem WritesEach.nodup_places_iff {sources : List Path}
    (writes : options.WritesEach directory tree sources after) :
    (sources.map fun source => after.locate (Path.outputFile directory source)).Nodup ↔
      (sources.map Path.outputName).Nodup :=
  nodup_map_iff_of_inj fun _ listed _ => writes.locate_outputFile_inj listed

/-! ## Runs -/

/-- A run with an output directory writes the files of its sources, up to the first that it cannot
read or write. -/
theorem runIn_writesEach (options : Options) {simulation found ready : Simulation}
    {sources : List Path} (named : options.sources ≠ [])
    (output : options.output = some directory)
    (looked : outcome (options.inputFiles Simulation.workspace) simulation = (.ok sources, found))
    (made : (Simulation.workspace.makeDirectories (Path.ancestors directory)).run found =
      (.ok (), ready)) :
    simulation.tree.AddsDirectories ready.tree ∧
      ∃ done rest result after, options.runIn simulation = (result, after) ∧
        sources = done ++ rest ∧ options.WritesEach directory ready.tree done after.tree ∧
        options.StopsAt directory after.tree rest result := by
  constructor
  · obtain ⟨lines, rfl⟩ := Simulation.exists_reporting_of_inputFiles looked
    have added := Simulation.onlyAddsDirectories_makeDirectories (Path.ancestors directory)
      (simulation.reporting lines)
    rwa [made] at added
  · obtain ⟨done, rest, result, after, ran, same, writes, stops⟩ :=
      options.writesEach_of_forM directory sources ready
    have madeAll : outcome (orFail (.output directory)
        (Simulation.workspace.makeDirectories (Path.ancestors directory))) found =
          (.ok (), ready) := by
      rw [Simulation.outcome_orFail, made]
      rfl
    refine ⟨done, rest, result, after, ?_, same, writes, stops⟩
    rw [options.runIn_files named looked, output]
    dsimp only
    rw [Simulation.outcome_bind_of_ok madeAll, ran]

/-- The files of the sources that a run finds differ just when the names of the sources do, and so
do the places of the files that it writes. The one file of all sources of a name holds in the end
what is printed for the last of them. -/
theorem runIn_outputFiles (options : Options) {simulation found ready : Simulation}
    {sources : List Path} (named : options.sources ≠ [])
    (output : options.output = some directory)
    (looked : outcome (options.inputFiles Simulation.workspace) simulation = (.ok sources, found))
    (made : (Simulation.workspace.makeDirectories (Path.ancestors directory)).run found =
      (.ok (), ready)) :
    ((sources.map (Path.outputFile directory)).Nodup ↔ (sources.map Path.outputName).Nodup) ∧
    ∃ done rest result after, options.runIn simulation = (result, after) ∧
      sources = done ++ rest ∧ options.StopsAt directory after.tree rest result ∧
      ((done.map fun source => after.tree.locate (Path.outputFile directory source)).Nodup ↔
        (done.map Path.outputName).Nodup) ∧
      ∀ earlier last later content, done = earlier ++ last :: later →
        simulation.tree.read last = .ok content →
        (∀ other ∈ earlier,
          ready.tree.locate last ≠ ready.tree.locate (Path.outputFile directory other)) →
        (∀ other ∈ later, Path.outputName other ≠ Path.outputName last) →
        ∃ text, options.printedFor? content = some text ∧
          ∀ source ∈ done, Path.outputName source = Path.outputName last →
            after.tree.read (Path.outputFile directory source) = .ok text := by
  obtain ⟨added, done, rest, result, after, ran, same, writes, stops⟩ :=
    options.runIn_writesEach named output looked made
  refine ⟨?_, done, rest, result, after, ran, same, stops, writes.nodup_places_iff, ?_⟩
  · exact nodup_map_iff_of_inj fun _ _ _ => Path.outputFile_inj
  · rintro earlier last later content rfl given apart latest
    obtain ⟨text, printed, read⟩ := writes.read_output (added.read given) apart latest
    refine ⟨text, printed, fun source _ sameName => ?_⟩
    rwa [Path.outputFile_inj.2 sameName]

/-- Another style sheet with one comment. -/
def otherSheet : String := "/// B.\n$b: 2;\n"

/-- A tree with both style sheets, in different directories and with different endings. -/
def twoSheets : Simulation :=
  .start ⟨[], [], [(["x", "a.scss"], sheet.toUTF8), (["y", "a.sass"], otherSheet.toUTF8)]⟩ .empty

def firstSheet : Path := .ofText "x/a.scss"

def secondSheet : Path := .ofText "y/a.sass"

/-- Options that name the files of both. -/
def forSheets : Options :=
  { Options.default with
    sources := ["x/a.scss", "y/a.sass"]
    output := some (.ofText "out") }

theorem inputFiles_forSheets : outcome (forSheets.inputFiles Simulation.workspace) twoSheets =
    (.ok [firstSheet, secondSheet], twoSheets) := rfl

/-- The file of both sheets holds what is printed for the second one. -/
theorem runIn_outputFiles_two_sheets :
    ∃ text after, forSheets.runIn twoSheets = (.ok (), after) ∧
      forSheets.printedFor? otherSheet = some text ∧
      after.tree.read (Path.outputFile (.ofText "out") firstSheet) = .ok text ∧
      after.tree.read (Path.outputFile (.ofText "out") secondSheet) = .ok text := by
  let directory := Path.ofText "out"
  let ready := ((Simulation.workspace.makeDirectories (Path.ancestors directory)).run twoSheets).2
  have output : forSheets.output = some directory := rfl
  have made : (Simulation.workspace.makeDirectories (Path.ancestors directory)).run twoSheets =
      (.ok (), ready) := rfl
  have whole : (forSheets.runIn twoSheets).1.isOk = true := by decide +kernel
  obtain ⟨_, done, rest, result, after, ran, same, stops, _, files⟩ :=
    forSheets.runIn_outputFiles (by decide) output inputFiles_forSheets made
  rw [ran] at whole
  -- The run has not failed, so no source is left.
  cases stops with
  | unreadable read => cases whole
  | unwritable read printed refused => cases whole
  | done =>
    rw [List.append_nil] at same
    have given : twoSheets.tree.read secondSheet = .ok otherSheet := rfl
    have apart : ∀ other ∈ [firstSheet],
        ready.tree.locate secondSheet ≠ ready.tree.locate (Path.outputFile directory other) := by
      intro other listed
      obtain rfl := List.mem_singleton.1 listed
      decide
    have sameName : Path.outputName firstSheet = Path.outputName secondSheet := by decide
    obtain ⟨text, printed, read⟩ := files [firstSheet] secondSheet [] otherSheet same.symm given
      apart fun _ listed => nomatch listed
    rw [← same] at read
    have first := read firstSheet List.mem_cons_self sameName
    have second := read secondSheet (List.mem_cons_of_mem _ List.mem_cons_self) rfl
    exact ⟨text, after, ran, printed, first, second⟩

/-- Different sources do not always have different files. -/
theorem not_forall_nodup_outputFiles : ¬ ∀ (options : Options) (directory : Path)
    (simulation found : Simulation) (sources : List Path), options.sources ≠ [] →
    options.output = some directory →
    outcome (options.inputFiles Simulation.workspace) simulation = (.ok sources, found) →
    (sources.map Path.components).Nodup →
    (sources.map (Path.outputFile directory)).Nodup := by
  intro claim
  have different : ([firstSheet, secondSheet].map Path.components).Nodup := by decide
  have files := claim forSheets (.ofText "out") twoSheets twoSheets [firstSheet, secondSheet]
    (by decide) rfl inputFiles_forSheets different
  have sameFile : Path.outputFile (.ofText "out") firstSheet =
      Path.outputFile (.ofText "out") secondSheet := Path.outputFile_inj.2 (by decide)
  exact (List.nodup_cons.1 files).1 (List.mem_singleton.2 sameFile)

end Options

end StyleDoc
