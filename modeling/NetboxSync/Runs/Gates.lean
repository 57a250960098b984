import NetboxSync.Runs.History

open json

namespace netbox_sync.run_history

/-- A row of `run_reconciliations`: an administrator accepts the present state as the new baseline for one run. -/
structure Reconciliation where
  run_id : Int
  source_instance : String
  actor_id : String
  operation_id : Nat
  run_status : RunStatus
  run_finished_at : Int
  decision : Fields
  valid : Bool := true
  created_at : Int

/-- `status IN ('OUTCOME_UNCERTAIN','PARTIALLY_APPLIED')` -/
def unresolved (status : RunStatus) : Bool := status = .OUTCOME_UNCERTAIN || status = .PARTIALLY_APPLIED

/-- The decision is valid and for exactly this run, its status and its finish. -/
def Reconciliation.resolves (a : Reconciliation) (run : SyncRun) : Bool :=
  a.run_id = run.run_id && a.source_instance = run.source_instance && a.run_status = run.status &&
    run.finished_at = some a.run_finished_at && a.valid

variable (runs : Table SyncRun) (decisions : List Reconciliation) (source : String)

/-- The view `blocking_sync_runs`. -/
def blocking_sync_runs : List SyncRun := runs.rows.filter (fun run => !decisions.any (fun a => a.resolves run))

/-- `RunRepository.reconciliation_required` -/
def reconciliation_required : Bool :=
  (blocking_sync_runs runs decisions).any (fun run => run.source_instance = source && unresolved run.status)

/-- A manual run after the decision has succeeded. -/
def renewed (a : Reconciliation) : Bool :=
  runs.rows.any (fun run =>
    run.source_instance = a.source_instance && run.trigger = .MANUAL && run.status = .SUCCEEDED &&
      a.created_at < run.started_at)

/-- A row of the view `recovery_schedule_blocks`. -/
def recovery_schedule_blocks : Bool :=
  decisions.any (fun a => a.source_instance = source && a.valid && !renewed runs a)

/-- `RunRepository.scheduled_reconciliation_required` -/
def scheduled_reconciliation_required : Bool :=
  reconciliation_required runs decisions source || recovery_schedule_blocks runs decisions source

/-- `RunRepository.plan_used`: the query of `plan_run` has a row. -/
def plan_used (source digest : String) (finished_at : Int) : Bool :=
  runs.rows.any (fun run =>
    run.source_instance = source && run.plan_digest = some digest && finished_at ≤ run.started_at)

theorem reconciliation_required_eq_false {runs : Table SyncRun} {decisions : List Reconciliation}
    {source : String} : reconciliation_required runs decisions source = false ↔
      ∀ run ∈ runs.rows, run.source_instance = source → unresolved run.status = true →
        ∃ a ∈ decisions, a.resolves run = true := by
  rw [reconciliation_required, List.any_eq_false]
  constructor
  · intro h run hrun hsource hstatus
    by_contra hnone
    refine h run (List.mem_filter.mpr ⟨hrun, ?_⟩) (by simp [hsource, hstatus])
    rw [Bool.not_eq_true', List.any_eq_false]
    exact fun a ha hresolves => hnone ⟨a, ha, hresolves⟩
  · intro h run hblocking
    obtain ⟨hrun, hopen⟩ := List.mem_filter.mp hblocking
    rw [Bool.and_eq_true, decide_eq_true_eq]
    rintro ⟨hsource, hstatus⟩
    obtain ⟨a, ha, hresolves⟩ := h run hrun hsource hstatus
    rw [List.any_eq_true.mpr ⟨a, ha, hresolves⟩] at hopen
    cases hopen

theorem recovery_schedule_blocks_eq_false {runs : Table SyncRun} {decisions : List Reconciliation}
    {source : String} : recovery_schedule_blocks runs decisions source = false ↔
      ∀ a ∈ decisions, a.source_instance = source → a.valid = true → renewed runs a = true := by
  rw [recovery_schedule_blocks, List.any_eq_false]
  constructor
  · intro h a ha hsource hvalid
    simpa [hsource, hvalid] using h a ha
  · intro h a ha
    simp only [Bool.and_eq_true, decide_eq_true_eq]
    rintro ⟨⟨hsource, hvalid⟩, hopen⟩
    rw [h a ha hsource hvalid] at hopen
    cases hopen

section

variable {runs : Table SyncRun} {commit : Commit} {run_id clock : Int}

/-- A row after a new run: one there was, or a running one. -/
theorem mem_start_run {source_instance source_type created_by : String} {trigger : RunTrigger} {run : SyncRun}
    {started : Table SyncRun × Except Fault Int}
    (h : start_run runs commit run_id clock source_instance source_type trigger created_by = started)
    (hrun : run ∈ started.1.rows) : run ∈ runs.rows ∨ run.status = .RUNNING := by
  subst h
  unfold start_run at hrun
  split at hrun
  · exact .inl hrun
  · split at hrun
    · exact .inl hrun
    · cases commit with
      | lost fault => exact .inl hrun
      | committed =>
        rcases List.mem_append.mp hrun with hrun | hrun
        · exact .inl hrun
        · exact .inr (by rw [List.mem_singleton.mp hrun])
      | unacknowledged fault =>
        rcases List.mem_append.mp hrun with hrun | hrun
        · exact .inl hrun
        · exact .inr (by rw [List.mem_singleton.mp hrun])

theorem mem_update_running {update : SyncRun → SyncRun} {run' : SyncRun}
    (h : run' ∈ (update_running runs run_id update).rows) : run' ∈ runs.rows ∨
      ∃ run, runs.get run_id = some run ∧ run.status = .RUNNING ∧
        run' = { update run with run_id := run.run_id } := by
  obtain ⟨run, hrun, rfl⟩ := List.mem_map.mp h
  split
  next hid =>
    dsimp only
    split
    next hrunning => exact .inr ⟨run, Table.get_eq_some_iff.mpr ⟨hrun, hid⟩, hrunning, rfl⟩
    next => exact .inl hrun
  next => exact .inl hrun

/-- A row after a terminal update: one there was, or the open run with the status it is finished with. -/
theorem mem_finish_run {f : Finish} {run' : SyncRun}
    (h : run' ∈ (finish_run runs commit run_id clock f).1.rows) : run' ∈ runs.rows ∨
      ∃ run, runs.get run_id = some run ∧ run'.status = f.status ∧ run'.source_instance = run.source_instance := by
  unfold finish_run at h
  have hupdated : run' ∈ (update_running runs run_id (f.row clock)).rows → run' ∈ runs.rows ∨
      ∃ run, runs.get run_id = some run ∧ run'.status = f.status ∧ run'.source_instance = run.source_instance := by
    intro h
    rcases mem_update_running h with h | ⟨run, hget, _, rfl⟩
    · exact .inl h
    · exact .inr ⟨run, hget, rfl, rfl⟩
  split at h
  · exact .inl h
  · cases commit with
    | lost fault => exact .inl h
    | committed => exact hupdated h
    | unacknowledged fault => exact hupdated h

/-- A run that is not open is not touched by a terminal update. -/
theorem mem_finish_run_of_terminal {f : Finish} {run : SyncRun} (hrun : run ∈ runs.rows)
    (hstatus : run.status ≠ .RUNNING) : run ∈ (finish_run runs commit run_id clock f).1.rows := by
  have hupdated : run ∈ (update_running runs run_id (f.row clock)).rows := by
    refine List.mem_map.mpr ⟨run, hrun, ?_⟩
    split
    · exact if_neg hstatus
    · rfl
  unfold finish_run
  split
  · exact hrun
  · cases commit with
    | lost fault => exact hrun
    | committed => exact hupdated
    | unacknowledged fault => exact hupdated

end

end netbox_sync.run_history
