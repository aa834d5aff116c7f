import StyleDoc.Proofs.FileTree
import StyleDoc.Proofs.Related

/-!
# Runs in memory

What the parts of a run do to a simulation. Looking for files changes nothing, except that something
may be reported; reading a source does the same; so the tree changes only where a directory is made
or a file is written.
-/

namespace StyleDoc

/-! ## Properties of actions -/

/-- A property of actions that all actions have which are put together from such actions. -/
structure ClosedUnderBind (m : Type → Type) [Monad m] (p : ∀ α : Type, m α → Prop) : Prop where
  pure : ∀ {α : Type} (value : α), p α (Pure.pure value)
  bind : ∀ {α β : Type} {action : m α} {next : α → m β}, p α action →
    (∀ value, p β (next value)) → p β (action >>= next)

namespace ClosedUnderBind

variable {m : Type → Type} [Monad m] {p : ∀ α : Type, m α → Prop} {α : Type}

theorem kept (closed : ClosedUnderBind m p) :
    KeptByBind m m fun α action other => action = other ∧ p α action where
  pure value := ⟨rfl, closed.pure value⟩
  bind := by
    rintro α β action _ next onward ⟨rfl, first⟩ others
    obtain rfl : next = onward := funext fun value => (others value).1
    exact ⟨rfl, closed.bind first fun value => (others value).2⟩

theorem forM (closed : ClosedUnderBind m p) {f : α → m PUnit} (each : ∀ item, p PUnit (f item))
    (items : List α) : p PUnit (items.forM f) :=
  (closed.kept.forM (fun item => ⟨rfl, each item⟩) items).2

end ClosedUnderBind

namespace Options

/-- The catalogue of a content. -/
def catalogueOf (options : Options) (content : String) : Catalogue :=
  (Document.ofSource options.registry content.toList).catalogue

/-- The text that the options ask for when this is the content of a source. -/
def textOf (options : Options) (content : String) : String :=
  options.renderLine (options.catalogueOf content).toJson

end Options

namespace Simulation

/-- The simulation after more lines have been reported. -/
def reporting (simulation : Simulation) (lines : List String) : Simulation :=
  { simulation with reports := simulation.reports ++ lines }

@[simp]
theorem tree_reporting (simulation : Simulation) (lines : List String) :
    (simulation.reporting lines).tree = simulation.tree := rfl

theorem reporting_nil (simulation : Simulation) : simulation.reporting [] = simulation := by
  simp [reporting]

theorem reporting_reporting (simulation : Simulation) (first second : List String) :
    (simulation.reporting first).reporting second = simulation.reporting (first ++ second) := by
  simp [reporting]

/-- What an action results in, and the simulation after it. -/
def outcome {α : Type} (action : ExceptT Failure (StateM Simulation) α) (simulation : Simulation) :
    Except Failure α × Simulation := action.run.run simulation

section Outcome

variable {α β : Type} {action : ExceptT Failure (StateM Simulation) α}
  {next : α → ExceptT Failure (StateM Simulation) β} {simulation after : Simulation}

theorem outcome_bind_of_ok {value : α} (ran : outcome action simulation = (.ok value, after)) :
    outcome (action >>= next) simulation = outcome (next value) after := by
  unfold outcome at ran ⊢
  rw [ExceptT.run_bind, StateT.run_bind, ran]
  rfl

theorem outcome_bind_of_error {failure : Failure}
    (ran : outcome action simulation = (.error failure, after)) :
    outcome (action >>= next) simulation = (.error failure, after) := by
  unfold outcome at ran ⊢
  rw [ExceptT.run_bind, StateT.run_bind, ran]
  rfl

theorem outcome_lift {silent : StateM Simulation α} {value : α}
    (ran : silent.run simulation = (value, after)) :
    outcome (liftM silent) simulation = (.ok value, after) := by
  show ((Except.ok <$> silent : StateM Simulation (Except Failure α))).run simulation = _
  rw [StateT.run_map, ran]
  rfl

theorem outcome_orFail (failure : FileError → Failure)
    (action : StateM Simulation (Except FileError α)) (simulation : Simulation) :
    outcome (Options.orFail failure action) simulation =
      ((action.run simulation).1.mapError failure, (action.run simulation).2) := rfl

/-- A loop of steps that only report gives the results of all of them. -/
theorem outcome_mapM {step : α → ExceptT Failure (StateM Simulation) β} {value : α → β}
    {items : List α} {simulation : Simulation}
    (each : ∀ item ∈ items, ∀ between : Simulation, between.tree = simulation.tree →
      ∃ lines, outcome (step item) between = (.ok (value item), between.reporting lines)) :
    ∃ lines, outcome (items.mapM step) simulation =
      (.ok (items.map value), simulation.reporting lines) := by
  induction items generalizing simulation with
  | nil => exact ⟨[], by rw [reporting_nil]; rfl⟩
  | cons item rest inductionHypothesis =>
    obtain ⟨lines, ran⟩ := each item List.mem_cons_self simulation rfl
    have eachOther : ∀ other ∈ rest, ∀ between : Simulation,
        between.tree = (simulation.reporting lines).tree →
        ∃ lines, outcome (step other) between = (.ok (value other), between.reporting lines) :=
      fun other member => each other (List.mem_cons_of_mem _ member)
    obtain ⟨more, ranRest⟩ := inductionHypothesis eachOther
    refine ⟨lines ++ more, ?_⟩
    rw [List.mapM_cons, outcome_bind_of_ok ran, outcome_bind_of_ok ranRest, reporting_reporting]
    rfl

end Outcome

section Change

variable {action : FileTree FileName → Except FileError (FileTree FileName)}
  {simulation : Simulation}

theorem run_change_of_ok {tree : FileTree FileName} (changed : action simulation.tree = .ok tree) :
    (change action).run simulation = (.ok (), { simulation with tree := tree }) := by
  unfold change
  rw [StateT.run_bind, StateT.run_get]
  simp only [pure_bind, changed]
  rfl

theorem run_change_of_error {cause : FileError} (refused : action simulation.tree = .error cause) :
    (change action).run simulation = (.error cause, simulation) := by
  unfold change
  rw [StateT.run_bind, StateT.run_get]
  simp only [pure_bind, refused]
  rfl

end Change

/-! ## Actions that only report -/

/-- The action changes nothing but the reports, and nothing but the tree decides how it ends and
what it reports. -/
def OnlyReports {α : Type} (action : StateM Simulation α) : Prop :=
  ∀ tree, ∃ value lines, ∀ simulation : Simulation, simulation.tree = tree →
    action.run simulation = (value, simulation.reporting lines)

theorem closed_onlyReports : ClosedUnderBind (StateM Simulation) fun _ => OnlyReports where
  pure value tree := ⟨value, [], fun simulation _ => by rw [reporting_nil]; rfl⟩
  bind := by
    intro α β action next first others tree
    obtain ⟨value, lines, ran⟩ := first tree
    obtain ⟨result, more, ranNext⟩ := others value tree
    refine ⟨result, lines ++ more, fun simulation same => ?_⟩
    rw [StateT.run_bind, ran simulation same]
    exact (ranNext (simulation.reporting lines) same).trans (by rw [reporting_reporting])

theorem onlyReports_query {α : Type} (query : FileTree FileName → α) :
    OnlyReports (do return query (← get).tree) := by
  refine fun tree => ⟨query tree, [], fun simulation same => ?_⟩
  rw [reporting_nil, ← same]
  rfl

theorem onlyReports_line (line : String) : OnlyReports (workspace.report line) :=
  fun _ => ⟨(), [line], fun _ _ => rfl⟩

theorem onlyReports_report (options : Options) (event : Event) :
    OnlyReports (options.report workspace event) :=
  (options.related_report closed_onlyReports.kept
    (fun line => ⟨rfl, onlyReports_line line⟩) event).2

/-! ## Finding files -/

theorem sameLooks_onlyReports : Workspace.SameLooks
    (fun _ action other => action = other ∧ OnlyReports action) workspace workspace where
  isFile path := ⟨rfl, onlyReports_query (·.isFile path)⟩
  isDirectory path := ⟨rfl, onlyReports_query (·.isDirectory path)⟩
  entries path := ⟨rfl, onlyReports_query (·.entries path)⟩
  descendants path := ⟨rfl, onlyReports_query (·.descendants path)⟩
  report line := ⟨rfl, onlyReports_line line⟩

/-- Looking for the files of all sources leaves everything but the reports as it is. -/
theorem onlyReports_inputFiles (options : Options) :
    OnlyReports (options.inputFiles workspace).run :=
  (sameLooks_onlyReports.inputFiles closed_onlyReports.kept options).2

theorem exists_reporting_of_inputFiles {options : Options} {simulation found : Simulation}
    {result : Except Failure (List Path)}
    (looked : outcome (options.inputFiles workspace) simulation = (result, found)) :
    ∃ lines, found = simulation.reporting lines := by
  obtain ⟨_, lines, ran⟩ := onlyReports_inputFiles options simulation.tree
  exact ⟨lines, (Prod.mk.inj (looked.symm.trans (ran simulation rfl))).2⟩

/-! ## Making directories -/

/-- The action leaves the files as they are, and all directories. -/
def OnlyAddsDirectories {α : Type} (action : StateM Simulation α) : Prop :=
  ∀ simulation : Simulation, simulation.tree.AddsDirectories (action.run simulation).2.tree

theorem closed_onlyAddsDirectories :
    ClosedUnderBind (StateM Simulation) fun _ => OnlyAddsDirectories where
  pure _ simulation := .refl simulation.tree
  bind := by
    intro α β action next first others simulation
    rw [StateT.run_bind]
    exact (first simulation).trans (others _ _)

theorem onlyAddsDirectories_isDirectory (path : Path) :
    OnlyAddsDirectories (workspace.isDirectory path) :=
  fun simulation => .refl simulation.tree

theorem onlyAddsDirectories_makeDirectory (path : Path) :
    OnlyAddsDirectories (workspace.makeDirectory path) := by
  intro simulation
  have changes : workspace.makeDirectory path = change (·.makeDirectory path) := rfl
  rw [changes]
  cases made : simulation.tree.makeDirectory path with
  | error cause =>
    rw [run_change_of_error made]
    exact .refl simulation.tree
  | ok tree =>
    rw [run_change_of_ok made]
    exact .of_makeDirectory made

theorem onlyAddsDirectories_makeDirectories (paths : List Path) :
    OnlyAddsDirectories (workspace.makeDirectories paths) :=
  (Workspace.related_makeDirectories closed_onlyAddsDirectories.kept
    (fun path => ⟨rfl, onlyAddsDirectories_isDirectory path⟩)
    (fun path => ⟨rfl, onlyAddsDirectories_makeDirectory path⟩) paths).2

/-! ## Reading and writing -/

variable {options : Options} {simulation : Simulation} {directory source : Path}
  {content : String} {cause : FileError}

theorem run_readText (options : Options) (source content : String) (simulation : Simulation) :
    ∃ lines, (options.readText workspace source content).run simulation =
      (options.catalogueOf content, simulation.reporting lines) := by
  have warned := closed_onlyReports.forM
    (fun warning => onlyReports_report options (.warned warning source))
    (Document.ofSource options.registry content.toList).warnings
  obtain ⟨_, lines, ran⟩ := warned simulation.tree
  refine ⟨lines, ?_⟩
  unfold Options.readText
  dsimp only
  rw [StateT.run_bind, ran simulation rfl]
  rfl

theorem outcome_input (given : String.fromUTF8? simulation.input = some content) :
    outcome (Options.orFail .input workspace.input) simulation = (.ok content, simulation) := by
  have ran : workspace.input.run simulation =
      ((String.fromUTF8? simulation.input).elim (Except.error FileError.notText) Except.ok,
        simulation) := rfl
  rw [outcome_orFail, ran, given]
  rfl

theorem outcome_read (failure : FileError → Failure) (source : Path) (simulation : Simulation) :
    outcome (Options.orFail failure (workspace.read source)) simulation =
      ((simulation.tree.read source).mapError failure, simulation) := rfl

theorem outcome_readSource_of_ok (options : Options)
    (read : simulation.tree.read source = .ok content) :
    ∃ lines, outcome (options.readSource workspace source) simulation =
      (.ok (options.catalogueOf content), simulation.reporting lines) := by
  obtain ⟨lines, ran⟩ := run_readText options source.text content simulation
  have given := outcome_read (.source source) source simulation
  rw [read] at given
  refine ⟨lines, ?_⟩
  unfold Options.readSource
  rw [outcome_bind_of_ok given]
  exact outcome_lift ran

theorem outcome_readSource_of_error (options : Options)
    (read : simulation.tree.read source = .error cause) :
    outcome (options.readSource workspace source) simulation =
      (.error (.source source cause), simulation) := by
  have failed := outcome_read (.source source) source simulation
  rw [read] at failed
  exact outcome_bind_of_error failed

theorem outcome_write_of_ok {tree : FileTree FileName} {path : Path} {text : String}
    (written : simulation.tree.write path text = .ok tree) (failure : FileError → Failure) :
    outcome (Options.orFail failure (workspace.write path text)) simulation =
      (.ok (), { simulation with tree := tree }) := by
  have changes : workspace.write path text = change (·.write path text) := rfl
  rw [outcome_orFail, changes, run_change_of_ok written]
  rfl

theorem outcome_write_of_error {path : Path} {text : String}
    (refused : simulation.tree.write path text = .error cause) (failure : FileError → Failure) :
    outcome (Options.orFail failure (workspace.write path text)) simulation =
      (.error (failure cause), simulation) := by
  have changes : workspace.write path text = change (·.write path text) := rfl
  rw [outcome_orFail, changes, run_change_of_error refused]
  rfl

/-- A source that can be read and a file that can be written to. -/
theorem outcome_writeSource_of_ok {tree : FileTree FileName}
    (read : simulation.tree.read source = .ok content)
    (written : simulation.tree.write (Path.outputFile directory source) (options.textOf content) =
      .ok tree) :
    ∃ lines, outcome (options.writeSource workspace directory source) simulation =
      (.ok (), { simulation with tree := tree }.reporting lines) := by
  obtain ⟨lines, ran⟩ := outcome_readSource_of_ok options read
  rw [← tree_reporting simulation lines] at written
  have wrote := outcome_write_of_ok written (.result (Path.outputFile directory source))
  obtain ⟨_, more, reported⟩ := onlyReports_report options
    (.wrote source.text (Path.outputFile directory source).text
      (options.catalogueOf content).size) tree
  refine ⟨lines ++ more, ?_⟩
  unfold Options.writeSource
  rw [outcome_bind_of_ok ran]
  dsimp only
  unfold Options.textOf at wrote
  rw [outcome_bind_of_ok wrote, outcome_lift (reported _ rfl)]
  simp [reporting]

theorem outcome_writeSource_of_unreadable (options : Options) (directory : Path)
    (read : simulation.tree.read source = .error cause) :
    outcome (options.writeSource workspace directory source) simulation =
      (.error (.source source cause), simulation) :=
  outcome_bind_of_error (outcome_readSource_of_error options read)

theorem outcome_writeSource_of_unwritable (read : simulation.tree.read source = .ok content)
    (refused : simulation.tree.write (Path.outputFile directory source) (options.textOf content) =
      .error cause) :
    ∃ lines, outcome (options.writeSource workspace directory source) simulation =
      (.error (.result (Path.outputFile directory source) cause), simulation.reporting lines) := by
  obtain ⟨lines, ran⟩ := outcome_readSource_of_ok options read
  rw [← tree_reporting simulation lines] at refused
  have failed := outcome_write_of_error refused (.result (Path.outputFile directory source))
  refine ⟨lines, ?_⟩
  unfold Options.writeSource
  rw [outcome_bind_of_ok ran]
  exact outcome_bind_of_error failed

end Simulation

end StyleDoc
