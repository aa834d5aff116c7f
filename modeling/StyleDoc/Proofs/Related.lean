import StyleDoc.Command.Run

/-!
# Runs in related workspaces

The command can be run in any monad. Where the actions of two workspaces are related, so are the
parts of runs that are put together from them, for each relation that is kept when actions follow
each other. So what is to be said about such a part, in one workspace or in two, has to be shown for
the actions of the workspaces only.
-/

namespace StyleDoc

/-- A relation between the actions of two monads that is kept when actions follow each other. -/
structure KeptByBind (m n : Type → Type) [Monad m] [Monad n] (r : ∀ α : Type, m α → n α → Prop) :
    Prop where
  pure : ∀ {α : Type} (value : α), r α (Pure.pure value) (Pure.pure value)
  bind : ∀ {α β : Type} {action : m α} {other : n α} {next : α → m β} {onward : α → n β},
    r α action other → (∀ value, r β (next value) (onward value)) →
      r β (action >>= next) (other >>= onward)

namespace KeptByBind

variable {m n : Type → Type} [Monad m] [Monad n] {r : ∀ α : Type, m α → n α → Prop} {α β : Type}

/-! ## Loops -/

theorem mapM [LawfulMonad m] [LawfulMonad n] (kept : KeptByBind m n r) {f : α → m β} {g : α → n β}
    (each : ∀ item, r β (f item) (g item)) (items : List α) :
    r (List β) (items.mapM f) (items.mapM g) := by
  induction items with
  | nil =>
    rw [List.mapM_nil, List.mapM_nil]
    exact kept.pure []
  | cons item rest inductionHypothesis =>
    rw [List.mapM_cons, List.mapM_cons]
    exact kept.bind (each item) fun result => kept.bind inductionHypothesis fun results =>
      kept.pure (result :: results)

theorem forM (kept : KeptByBind m n r) {f : α → m PUnit} {g : α → n PUnit}
    (each : ∀ item, r PUnit (f item) (g item)) (items : List α) :
    r PUnit (items.forM f) (items.forM g) := by
  induction items with
  | nil => exact kept.pure _
  | cons item rest inductionHypothesis => exact kept.bind (each item) fun _ => inductionHypothesis

theorem filterM (kept : KeptByBind m n r) {f : α → m Bool} {g : α → n Bool}
    (each : ∀ item, r Bool (f item) (g item)) (items : List α) :
    r (List α) (items.filterM f) (items.filterM g) := by
  -- The filter goes on with what it has kept so far, in reverse.
  have run : ∀ passed : List α,
      r (List α) (List.filterAuxM f items passed) (List.filterAuxM g items passed) := by
    induction items with
    | nil => exact fun passed => kept.pure passed
    | cons item rest inductionHypothesis =>
      exact fun passed => kept.bind (each item) fun keep => inductionHypothesis _
  exact kept.bind (run []) fun passed => kept.pure passed.reverse

/-! ## Actions that can fail -/

theorem run (kept : KeptByBind m n r) :
    KeptByBind (ExceptT Failure m) (ExceptT Failure n) fun α action other =>
      r (Except Failure α) action.run other.run where
  pure value := kept.pure (Except.ok value)
  bind := by
    intro α β action other next onward first others
    rw [ExceptT.run_bind, ExceptT.run_bind]
    refine kept.bind first fun result => ?_
    cases result with
    | ok value => exact others value
    | error failure => exact kept.pure (Except.error failure)

theorem lift [LawfulMonad m] [LawfulMonad n] (kept : KeptByBind m n r) {action : m α} {other : n α}
    (related : r α action other) :
    r (Except Failure α) (liftM action : ExceptT Failure m α).run
      (liftM other : ExceptT Failure n α).run := by
  show r (Except Failure α) (Except.ok <$> action) (Except.ok <$> other)
  rw [← bind_pure_comp, ← bind_pure_comp]
  exact kept.bind related fun value => kept.pure (Except.ok value)

theorem orFail (kept : KeptByBind m n r) {action : m (Except FileError α)}
    {other : n (Except FileError α)} (failure : FileError → Failure)
    (related : r (Except FileError α) action other) :
    r (Except Failure α) (Options.orFail failure action).run (Options.orFail failure other).run :=
  kept.bind related fun result => kept.pure (result.mapError failure)

end KeptByBind

section Runs

variable {m n : Type → Type} [Monad m] [Monad n] {r : ∀ α : Type, m α → n α → Prop}
  {workspace : Workspace m} {other : Workspace n}

/-! ## Reading texts -/

theorem Options.related_report (kept : KeptByBind m n r)
    (reports : ∀ line, r Unit (workspace.report line) (other.report line)) (options : Options)
    (event : Event) : r Unit (options.report workspace event) (options.report other event) := by
  unfold Options.report
  split
  · exact kept.pure ()
  · exact reports event.message

theorem Workspace.related_makeDirectories (kept : KeptByBind m n r)
    (isDirectory : ∀ path, r Bool (workspace.isDirectory path) (other.isDirectory path))
    (makeDirectory : ∀ path,
      r (Except FileError Unit) (workspace.makeDirectory path) (other.makeDirectory path))
    (paths : List Path) :
    r (Except FileError Unit) (workspace.makeDirectories paths) (other.makeDirectories paths) := by
  induction paths with
  | nil => exact kept.pure _
  | cons path above inductionHypothesis =>
    have settled (error : FileError) : r (Except FileError Unit)
        (do return if ← workspace.isDirectory path then Except.ok () else .error error)
        (do return if ← other.isDirectory path then Except.ok () else .error error) :=
      kept.bind (isDirectory path) fun there =>
        kept.pure (if there then Except.ok () else .error error)
    unfold Workspace.makeDirectories
    refine kept.bind (makeDirectory path) fun made => ?_
    split
    case h_1 => exact kept.pure _
    case h_2 =>
      refine kept.bind inductionHypothesis fun reached => ?_
      split
      case h_1 => exact kept.pure _
      case h_2 =>
        refine kept.bind (makeDirectory path) fun again => ?_
        split
        case h_1 => exact kept.pure _
        case h_2 error => exact settled error
    case h_3 error _ => exact settled error

/-! ## Finding files -/

/-- The actions by which two workspaces look for files are related. -/
structure Workspace.SameLooks {m n : Type → Type} (r : ∀ α : Type, m α → n α → Prop)
    (workspace : Workspace m) (other : Workspace n) : Prop where
  isFile : ∀ path, r Bool (workspace.isFile path) (other.isFile path)
  isDirectory : ∀ path, r Bool (workspace.isDirectory path) (other.isDirectory path)
  entries : ∀ path,
    r (Except FileError (List FileName)) (workspace.entries path) (other.entries path)
  descendants : ∀ path,
    r (List (List FileName)) (workspace.descendants path) (other.descendants path)
  report : ∀ line, r Unit (workspace.report line) (other.report line)

namespace Workspace

theorem SameLooks.isPresent (looks : SameLooks r workspace other) (kept : KeptByBind m n r)
    (path : Path) : r Bool (workspace.isPresent path) (other.isPresent path) :=
  kept.bind (looks.isFile path) fun isFile =>
    kept.bind (looks.isDirectory path) fun isDirectory => kept.pure (isFile || isDirectory)

variable [LawfulMonad m] [LawfulMonad n]

theorem SameLooks.follow (looks : SameLooks r workspace other) (kept : KeptByBind m n r) :
    ∀ (steps : List PatternStep) (start : Path),
      r (List Path) (workspace.follow start steps) (other.follow start steps)
  | [], start => kept.pure [start]
  | .literal name :: steps, start => by
    have onward (found : Bool) : r (List Path)
        (if found = true then workspace.follow (Path.joinPlain start (Text.bytes name)) steps
          else pure [])
        (if found = true then other.follow (Path.joinPlain start (Text.bytes name)) steps
          else pure []) := by
      split
      · exact looks.follow kept steps _
      · exact kept.pure []
    unfold Workspace.follow
    dsimp only
    split
    · exact kept.bind (looks.isDirectory start) onward
    · exact kept.bind (looks.isPresent kept _) onward
  | .anyPath :: step :: steps, start => by
    unfold Workspace.follow
    refine kept.bind (looks.descendants start) fun below => ?_
    refine kept.bind ?_ fun found => kept.pure found.flatten
    exact kept.mapM (fun names => looks.follow kept steps _) _
  | [.anyPath], start => kept.pure []
  | .wild tokens :: steps, start => by
    unfold Workspace.follow
    refine kept.bind (looks.isDirectory start) fun isDirectory => ?_
    split
    · refine kept.bind (looks.entries start) fun entries => ?_
      refine kept.bind ?_ fun found => kept.pure found.flatten
      exact kept.mapM (fun next => looks.follow kept steps next) _
    · exact kept.pure []

theorem SameLooks.filesMatching (looks : SameLooks r workspace other) (kept : KeptByBind m n r)
    (pattern : PathPattern) :
    r (List Path) (workspace.filesMatching pattern) (other.filesMatching pattern) := by
  unfold Workspace.filesMatching
  split
  · exact kept.pure []
  · exact kept.bind (looks.follow kept _ _) fun found => kept.filterM looks.isFile found

theorem SameLooks.filesOf (looks : SameLooks r workspace other) (kept : KeptByBind m n r)
    (options : Options) (source : String) :
    r (Except Failure (List Path)) (options.filesOf workspace source).run
      (options.filesOf other source).run := by
  have keptRun := kept.run
  unfold Options.filesOf
  refine keptRun.bind (kept.lift (looks.isFile _)) fun isFile => ?_
  split
  case isTrue => exact keptRun.pure [Path.ofText source]
  refine keptRun.bind (kept.lift (looks.isDirectory _)) fun isDirectory => ?_
  split
  case isTrue =>
    refine keptRun.bind (kept.orFail _ (looks.entries _)) fun entries => ?_
    exact keptRun.filterM (fun path => kept.lift (looks.isFile path)) _
  split
  case h_1 error _ => exact kept.pure (Except.error (Failure.pattern source error))
  case h_2 pattern _ =>
    refine keptRun.bind (kept.lift (looks.filesMatching kept pattern)) fun files => ?_
    dsimp only
    split
    · have reported := options.related_report kept looks.report (.nothingMatched source)
      exact keptRun.bind (kept.lift reported) fun _ => keptRun.pure files
    · exact keptRun.pure files

theorem SameLooks.inputFiles (looks : SameLooks r workspace other) (kept : KeptByBind m n r)
    (options : Options) :
    r (Except Failure (List Path)) (options.inputFiles workspace).run
      (options.inputFiles other).run := by
  have keptRun := kept.run
  exact keptRun.bind (keptRun.mapM (looks.filesOf kept options) options.sources) fun files =>
    keptRun.pure (Path.normalize files.flatten)

end Workspace

end Runs

end StyleDoc
