import StyleDoc.Proofs.Simulation

/-!
# What a run reads

A workspace can record the paths of the files that are read in it. A run in it ends as without the
record; looking for files adds nothing to the record, and each source that is handled adds its path.
-/

namespace StyleDoc

namespace Simulation

variable {α β : Type} {sources more : List Path}

/-! ## Actions that record nothing -/

/-- The second action does what the first one does and leaves the record as it is. -/
def Unrecorded {α : Type} (action : StateM Simulation α)
    (recorded : StateT (List Path) (StateM Simulation) α) : Prop :=
  ∀ record simulation, (recorded.run record).run simulation =
    (((action.run simulation).1, record), (action.run simulation).2)

theorem kept_unrecorded : KeptByBind (StateM Simulation)
    (StateT (List Path) (StateM Simulation)) fun _ => Unrecorded where
  pure _ _ _ := rfl
  bind := by
    intro α β action recorded next onward first others record simulation
    rw [StateT.run_bind, StateT.run_bind, first record simulation, StateT.run_bind]
    exact others _ record _

/-- The second action does what the first one does, and it records paths from the beginning of
`sources`, all of them unless it fails. -/
def ReadsEach {α : Type} (sources : List Path) (action : ExceptT Failure (StateM Simulation) α)
    (recorded : ExceptT Failure (StateT (List Path) (StateM Simulation)) α) : Prop :=
  ∀ record simulation, ∃ reads,
    (recorded.run.run record).run simulation =
      (((outcome action simulation).1, record ++ reads), (outcome action simulation).2) ∧
    reads <+: sources ∧ ((outcome action simulation).1.isOk = true → reads = sources)

theorem Unrecorded.readsEach {action : ExceptT Failure (StateM Simulation) α}
    {recorded : ExceptT Failure (StateT (List Path) (StateM Simulation)) α}
    (unrecorded : Unrecorded action.run recorded.run) : ReadsEach [] action recorded := by
  intro record simulation
  refine ⟨[], ?_, List.prefix_refl _, fun _ => rfl⟩
  rw [List.append_nil]
  exact unrecorded record simulation

theorem readsEach_pure (value : α) : ReadsEach [] (pure value) (pure value) :=
  Unrecorded.readsEach (kept_unrecorded.pure (Except.ok value))

theorem ReadsEach.bind {action : ExceptT Failure (StateM Simulation) α}
    {recorded : ExceptT Failure (StateT (List Path) (StateM Simulation)) α}
    {next : α → ExceptT Failure (StateM Simulation) β}
    {onward : α → ExceptT Failure (StateT (List Path) (StateM Simulation)) β}
    (first : ReadsEach sources action recorded)
    (others : ∀ value, ReadsEach more (next value) (onward value)) :
    ReadsEach (sources ++ more) (action >>= next) (recorded >>= onward) := by
  intro record simulation
  obtain ⟨reads, ran, begins, whole⟩ := first record simulation
  cases ended : outcome action simulation with
  | mk result between =>
    rw [ended] at ran whole
    rw [ExceptT.run_bind, StateT.run_bind, StateT.run_bind, ran]
    cases result with
    | error failure =>
      -- What comes behind a failure is not run, so nothing more is read.
      rw [outcome_bind_of_error ended]
      exact ⟨reads, rfl, begins.trans (List.prefix_append _ _), fun ok => nomatch ok⟩
    | ok value =>
      obtain rfl := whole rfl
      obtain ⟨later, ranLater, beginsLater, wholeLater⟩ := others value (record ++ reads) between
      rw [outcome_bind_of_ok ended]
      refine ⟨reads ++ later, ?_, (List.prefix_append_right_inj reads).2 beginsLater,
        fun ok => congrArg (reads ++ ·) (wholeLater ok)⟩
      rw [← List.append_assoc]
      exact ranLater

theorem ReadsEach.mapM {f : Path → ExceptT Failure (StateM Simulation) β}
    {g : Path → ExceptT Failure (StateT (List Path) (StateM Simulation)) β}
    (each : ∀ source, ReadsEach [source] (f source) (g source)) (sources : List Path) :
    ReadsEach sources (sources.mapM f) (sources.mapM g) := by
  induction sources with
  | nil =>
    rw [List.mapM_nil, List.mapM_nil]
    exact readsEach_pure []
  | cons source rest inductionHypothesis =>
    rw [List.mapM_cons, List.mapM_cons]
    have behind (result : β) := inductionHypothesis.bind fun results =>
      readsEach_pure (result :: results)
    simp only [List.append_nil] at behind
    exact (each source).bind behind

theorem ReadsEach.forM {f : Path → ExceptT Failure (StateM Simulation) PUnit}
    {g : Path → ExceptT Failure (StateT (List Path) (StateM Simulation)) PUnit}
    (each : ∀ source, ReadsEach [source] (f source) (g source)) (sources : List Path) :
    ReadsEach sources (sources.forM f) (sources.forM g) := by
  induction sources with
  | nil => exact readsEach_pure _
  | cons source rest inductionHypothesis => exact (each source).bind fun _ => inductionHypothesis

variable (options : Options)

end Simulation

end StyleDoc
