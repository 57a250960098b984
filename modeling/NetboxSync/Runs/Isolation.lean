import NetboxSync.Runs.Orchestrator

open sorting

namespace netbox_sync.orchestrator

open source_config run_history scheduled_failure

/-- A status that does not claim that nothing was written. -/
def admits_writes (status : RunStatus) : Bool :=
  status = .OUTCOME_UNCERTAIN || status = .PARTIALLY_APPLIED || status = .RUNNING

/-- The public codes of failures before the first write. -/
def PRE_WRITE_CODES : List String :=
  ["APPLY_LOCKED", "PLAN_BLOCKED", "SOURCE_RECONCILIATION_REQUIRED", "PLAN_STALE",
    "CONFIRMATION_EXPIRED", "CONFIRMATION_INVALID", "CONFIRMATION_SOURCE_MISMATCH",
    "FAILED_BEFORE_WRITE"]

/-- A transaction whose failure is no `Exception` and ends the process. -/
def ends_process : Commit → Bool
  | .lost (.exits _) | .unacknowledged (.exits _) => true
  | _ => false

/-- The scheduler can open a run for the source. -/
def startable (source : SourceConfig) : Bool :=
  valid_start source.source_instance source.source_type "system/scheduler"

/-- The terminal update an execution leads to, where it gets that far. -/
def closing (executed : ExecutionEvidence × Except Raised Returned) : Option Finish :=
  match executed.2 with
  | .ok returned => returned.counts.map (success returned)
  | .error exc =>
    (safe_error_code exc.code).map (fun code => failure executed.1 (failure_code executed.1 code))

/-- The execution raises something the handler itself trips over. -/
def unreportable (executed : ExecutionEvidence × Except Raised Returned) : Bool :=
  match executed.2 with
  | .ok _ => false
  | .error exc => !emits exc

/-- The source's outcome leaves `_run_source` as an exception. -/
def escapes (repository : Bool) (source : SourceConfig) (o : Outcome) : Bool :=
  let executed := execute repository o
  if repository then
    startable source &&
      match o.start with
      | .committed =>
        unreportable executed || ((closing executed).any Finish.valid && ends_process o.finish)
      | start => ends_process start
  else unreportable executed

/-- The executor crossed the write boundary and raised an exception with a public code for a failure before it, and
    the history took the update. -/
def misfiled (repository : Bool) (source : SourceConfig) (o : Outcome) : Bool :=
  let evidence := o.marks.foldl mark {}
  repository && startable source && o.start = .committed && evidence.writes_possible &&
    o.finish.landed &&
    match o.reconciliation, o.ending with
    | .ok false, .error exc =>
      match exc.code with
      | .str code => code ∈ PRE_WRITE_CODES && exc.describable && (failure evidence code).valid
      | _ => false
    | _, _ => false

/-- If the execution reached the `apply` mark and then failed, its run does not say that nothing was written. -/
def Truthful (runs : Table SyncRun) (attempt : Attempt) : Prop :=
  attempt.evidence.writes_possible = true → attempt.failed = true →
    ∀ run_id run, attempt.run_id = some run_id → runs.get run_id = some run → admits_writes run.status = true

section conclusion

variable {runs : Table SyncRun} {source : SourceConfig} {o : Outcome} {run_id : Option Int}
  {executed : ExecutionEvidence × Except Raised Returned}

/-- How an execution is written to the history. -/
def close (runs : Table SyncRun) (run_id : Option Int) (o : Outcome)
    (executed : ExecutionEvidence × Except Raised Returned) : Table SyncRun × Option HistoryStatus :=
  if unreportable executed then (runs, none) else finalize runs run_id o (closing executed)

/-- The attempt an execution makes, beside its result. -/
structure Concluded (runs : Table SyncRun) (source : SourceConfig) (o : Outcome) (run_id : Option Int)
    (executed : ExecutionEvidence × Except Raised Returned) : Prop where
  runs_eq : (conclude runs source o run_id executed).1 = (close runs run_id o executed).1
  source_eq : (conclude runs source o run_id executed).2.source = source
  run_id_eq : (conclude runs source o run_id executed).2.run_id = run_id
  evidence_eq : (conclude runs source o run_id executed).2.evidence = executed.1
  failed_iff : (conclude runs source o run_id executed).2.failed = true ↔ ∃ exc, executed.2 = .error exc
  returns : (conclude runs source o run_id executed).2.result.isSome = (close runs run_id o executed).2.isSome

theorem concluded : Concluded runs source o run_id executed := by
  obtain ⟨evidence, ending⟩ := executed
  cases ending with
  | ok returned => constructor <;> simp [conclude, close, unreportable, closing]
  | error exc =>
    cases hemits : emits exc with
    | false => constructor <;> simp [conclude, close, unreportable, hemits]
    | true =>
      cases hcode : safe_error_code exc.code with
      | none =>
        -- Only a code without a hash is refused, and `emit` has raised for it already.
        cases hexc : exc.code with
        | unhashable => simp [emits, hexc] at hemits
        | str code => simp [safe_error_code, hexc] at hcode
        | other => simp [safe_error_code, hexc] at hcode
      | some code =>
        constructor <;> simp [conclude, close, unreportable, closing, hemits, hcode]

theorem finalize_isSome {id : Int} {f : Option Finish} {run : SyncRun} (hget : runs.get id = some run)
    (hrunning : run.status = .RUNNING) :
    (finalize runs (some id) o f).2.isSome = !(f.any Finish.valid && ends_process o.finish) := by
  cases f with
  | none => simp [finalize]
  | some f =>
    cases hvalid : f.valid with
    | false => simp [finalize, finish_run, hvalid]
    | true =>
      have hrun : is_running runs id = true := by simp [is_running, hget, hrunning]
      cases hfinish : o.finish with
      | committed => simp [finalize, finish_run, hvalid, hfinish, ends_process, hrun]
      | lost fault => cases fault <;> simp [finalize, finish_run, hvalid, hfinish, ends_process]
      | unacknowledged fault =>
        cases fault <;> simp [finalize, finish_run, hvalid, hfinish, ends_process]

theorem finalize_runs {id : Int} {f : Finish} :
    (finalize runs (some id) o (some f)).1 = (finish_run runs o.finish id o.run_finished f).1 := by
  unfold finalize
  dsimp only
  split <;> simp_all

theorem close_get_of_ne {id : Int} (h : run_id ≠ some id) : (close runs run_id o executed).1.get id = runs.get id := by
  unfold close
  split
  · rfl
  · cases run_id with
    | none => rfl
    | some own =>
      cases closing executed with
      | none => rfl
      | some f =>
        rw [finalize_runs]
        apply finish_run_get_of_ne
        rintro rfl
        exact h rfl

end conclusion

section step

variable (fresh : Table.Fresh) (repository : Bool) (runs : Table SyncRun) (source : SourceConfig) (o : Outcome)

/-- The row a scheduled run starts with. -/
def opened : SyncRun where
  run_id := fresh.next runs.ids
  source_instance := source.source_instance
  source_type := source.source_type
  trigger := .SCHEDULED
  started_at := o.run_started
  created_by := "system/scheduler"

def with_opened : Table SyncRun := runs.insert (opened fresh runs source o) (fresh.notMem runs.ids)

/-- The ways a source is attempted: its run is opened and it is executed, or the run cannot be opened, or no history
    was asked for. -/
inductive Attempted : Table SyncRun × Attempt → Prop where
  | executed (hrepository : repository = true) (hstartable : startable source = true)
      (hstart : o.start = .committed) :
      Attempted (conclude (with_opened fresh runs source o) source o (some (fresh.next runs.ids))
        (execute repository o))
  | unopened (hrepository : repository = true)
      (hstart : startable source = true → o.start ≠ .committed) (result : Option SourceRunResult)
      (hresult : result.isSome = !(startable source && ends_process o.start)) (runs' : Table SyncRun)
      (hruns : runs' = runs ∨ runs' = with_opened fresh runs source o) :
      Attempted (runs', { source, result })
  | unrecorded (hrepository : repository = false) : Attempted (conclude runs source o none (execute repository o))

theorem run_source_attempted :
    Attempted fresh repository runs source o (run_source fresh repository runs source o) := by
  cases repository with
  | false =>
    rw [run_source, if_neg (by simp)]
    exact .unrecorded rfl
  | true =>
    rw [run_source, if_pos rfl]
    cases hstartable : startable source with
    | false =>
      rw [start_run_of_invalid hstartable]
      exact .unopened rfl (by simp [hstartable]) _ (by simp [hstartable]) _ (.inl rfl)
    | true =>
      rw [start_run_of_valid hstartable (fresh.notMem runs.ids)]
      cases hstart : o.start with
      | committed => exact .executed rfl hstartable hstart
      | lost fault =>
        cases fault <;>
          exact .unopened rfl (by simp [hstart]) _ (by simp [hstart, ends_process, hstartable]) _ (.inl rfl)
      | unacknowledged fault =>
        cases fault <;>
          exact .unopened rfl (by simp [hstart]) _ (by simp [hstart, ends_process, hstartable]) _ (.inr rfl)

variable {fresh repository runs source o}

theorem get_with_opened {id : Int} (h : id ∈ runs.ids) : (with_opened fresh runs source o).get id = runs.get id := by
  have hne : id ≠ Row.id (opened fresh runs source o) := by
    rintro rfl
    exact fresh.notMem runs.ids h
  exact (Table.get_insert _ _ _ _).trans (if_neg hne)

theorem get_with_opened_self :
    (with_opened fresh runs source o).get (fresh.next runs.ids) = some (opened fresh runs source o) :=
  (Table.get_insert _ _ _ _).trans (if_pos rfl)

theorem run_source_source : (run_source fresh repository runs source o).2.source = source := by
  have hstep := run_source_attempted fresh repository runs source o
  generalize run_source fresh repository runs source o = step at hstep ⊢
  cases hstep with
  | executed => exact concluded.source_eq
  | unopened => rfl
  | unrecorded => exact concluded.source_eq

/-- An attempt leaves the runs of the history alone. -/
theorem run_source_get {id : Int} (h : id ∈ runs.ids) :
    (run_source fresh repository runs source o).1.get id = runs.get id := by
  have hstep := run_source_attempted fresh repository runs source o
  generalize run_source fresh repository runs source o = step at hstep ⊢
  cases hstep with
  | executed =>
    have hne : some (fresh.next runs.ids) ≠ some id := by
      rintro ⟨⟩
      exact fresh.notMem runs.ids h
    rw [concluded.runs_eq, close_get_of_ne hne, get_with_opened h]
  | unopened _ _ _ _ runs' hruns =>
    rcases hruns with rfl | rfl
    · rfl
    · exact get_with_opened h
  | unrecorded => rw [concluded.runs_eq, close_get_of_ne (by simp)]

theorem run_source_returns :
    (run_source fresh repository runs source o).2.result.isSome = !escapes repository source o := by
  have hstep := run_source_attempted fresh repository runs source o
  generalize run_source fresh repository runs source o = step at hstep ⊢
  cases hstep with
  | executed hrepository hstartable hstart =>
    subst hrepository
    rw [concluded.returns, close]
    cases hreport : unreportable (execute true o) with
    | true => simp [escapes, hstartable, hstart, hreport]
    | false =>
      rw [if_neg (by simp), finalize_isSome get_with_opened_self rfl]
      simp [escapes, hstartable, hstart, hreport]
  | unopened hrepository hstart result hresult =>
    subst hrepository
    rw [hresult]
    cases hstartable : startable source with
    | false => simp [escapes, hstartable]
    | true =>
      have hne := hstart hstartable
      cases hcommit : o.start with
      | committed => exact absurd hcommit hne
      | lost fault => simp [escapes, hstartable, hcommit]
      | unacknowledged fault => simp [escapes, hstartable, hcommit]
  | unrecorded hrepository =>
    subst hrepository
    rw [concluded.returns, close]
    cases hreport : unreportable (execute false o) <;> simp [escapes, hreport, finalize]

/-- Past the write boundary, the codes filed under a status that denies any write are the public ones for a failure
    before it. -/
theorem admits_writes_failure {evidence : ExecutionEvidence} (h : evidence.writes_possible = true) (code : String) :
    admits_writes (terminal_status (failure_code evidence
        (if code ∈ dict.keys SAFE_ERROR_MESSAGES then code else "APPLY_FAILED"))) = false ↔
      code ∈ PRE_WRITE_CODES := by
  by_cases hsafe : code ∈ dict.keys SAFE_ERROR_MESSAGES
  · rw [if_pos hsafe]
    simp only [dict.keys, SAFE_ERROR_MESSAGES, List.map_cons, List.map_nil, List.mem_cons,
      List.not_mem_nil, or_false] at hsafe
    rcases hsafe with rfl | rfl | rfl | rfl | rfl | rfl | rfl | rfl | rfl | rfl | rfl <;>
      simp only [failure_code, h, String.reduceEq, false_and, true_and, if_false, if_true] <;> decide
  · rw [if_neg hsafe]
    have hnot : code ∉ PRE_WRITE_CODES := by
      intro hmem
      apply hsafe
      revert hmem
      simp only [PRE_WRITE_CODES, dict.keys, SAFE_ERROR_MESSAGES, List.map_cons, List.map_nil,
        List.mem_cons, List.not_mem_nil, or_false]
      tauto
    simp only [failure_code, h, true_and, if_true, hnot, iff_false]
    decide

/-- The row of a run whose execution raised past the write boundary. -/
theorem closed_status {evidence : ExecutionEvidence} (hwrites : evidence.writes_possible = true)
    {exc : Raised} {run : SyncRun}
    (hget : (close (with_opened fresh runs source o) (some (fresh.next runs.ids)) o
      (evidence, .error exc)).1.get (fresh.next runs.ids) = some run) :
    admits_writes run.status = false ↔
      o.finish.landed = true ∧ ∃ code, exc.code = .str code ∧ code ∈ PRE_WRITE_CODES ∧
        exc.describable = true ∧ (failure evidence code).valid = true := by
  have hopened : admits_writes (opened fresh runs source o).status = true := by rfl
  cases hemits : emits exc with
  | false =>
    rw [close, if_pos (by simp [unreportable, hemits]), get_with_opened_self] at hget
    cases hget
    rw [hopened]
    simp only [Bool.true_eq_false, false_iff]
    rintro ⟨_, code, hcode, _, hdescribable, _⟩
    simp [emits, hcode, hdescribable] at hemits
  | true =>
    obtain ⟨hhash, hdescribable⟩ : exc.code ≠ .unhashable ∧ exc.describable = true := by
      simpa [emits] using hemits
    rw [close, if_neg (by simp [unreportable, hemits])] at hget
    cases hcode : exc.code with
    | unhashable => exact absurd hcode hhash
    | other =>
      -- The code is collapsed, and the evidence turns it into an uncertain outcome.
      simp only [closing, hcode, safe_error_code, Option.map_some, finalize_runs,
        finish_run_get get_with_opened_self rfl] at hget
      simp only [reduceCtorEq, false_and, exists_false, and_false, iff_false, Bool.not_eq_false]
      split at hget
      · cases hget
        simp [Finish.row, failure, failure_code, hwrites]
        decide
      · cases hget
        exact hopened
    | str code =>
      simp only [closing, hcode, safe_error_code, Option.map_some, finalize_runs,
        finish_run_get get_with_opened_self rfl] at hget
      have hfiled := admits_writes_failure hwrites code
      have hself : code ∈ PRE_WRITE_CODES → failure_code evidence
          (if code ∈ dict.keys SAFE_ERROR_MESSAGES then code else "APPLY_FAILED") = code := by
        intro hmem
        simp only [PRE_WRITE_CODES, List.mem_cons, List.not_mem_nil, or_false] at hmem
        rcases hmem with rfl | rfl | rfl | rfl | rfl | rfl | rfl | rfl <;> rfl
      generalize failure_code evidence
        (if code ∈ dict.keys SAFE_ERROR_MESSAGES then code else "APPLY_FAILED") = filed at *
      split at hget
      · next hwritten =>
        cases hget
        rw [Bool.and_eq_true] at hwritten
        dsimp only [Finish.row, failure]
        rw [hfiled]
        constructor
        · intro hmem
          refine ⟨hwritten.2, code, rfl, hmem, hdescribable, ?_⟩
          rw [hself hmem] at hwritten
          exact hwritten.1
        · rintro ⟨_, _, ⟨⟩, hmem, _⟩
          exact hmem
      · next hwritten =>
        cases hget
        rw [hopened]
        simp only [Bool.true_eq_false, false_iff]
        rintro ⟨hlanded, _, ⟨⟩, hmem, _, hvalid⟩
        rw [hself hmem, hvalid, hlanded] at hwritten
        exact hwritten rfl

theorem closed_mem {executed : ExecutionEvidence × Except Raised Returned} :
    fresh.next runs.ids ∈
      (close (with_opened fresh runs source o) (some (fresh.next runs.ids)) o executed).1.ids := by
  rw [close]
  split
  · exact Table.mem_ids_iff.mpr ⟨_, get_with_opened_self⟩
  · cases closing executed with
    | none => exact Table.mem_ids_iff.mpr ⟨_, get_with_opened_self⟩
    | some f =>
      rw [finalize_runs, Table.mem_ids_iff, finish_run_get get_with_opened_self rfl]
      split <;> exact ⟨_, rfl⟩

/-- The run of an attempt is in the history. -/
theorem run_source_run_id {id : Int} (h : (run_source fresh repository runs source o).2.run_id = some id) :
    id ∈ (run_source fresh repository runs source o).1.ids := by
  have hstep := run_source_attempted fresh repository runs source o
  generalize run_source fresh repository runs source o = step at hstep h ⊢
  cases hstep with
  | executed =>
    rw [concluded.run_id_eq, Option.some.injEq] at h
    subst h
    rw [concluded.runs_eq]
    exact closed_mem
  | unopened => cases h
  | unrecorded =>
    rw [concluded.run_id_eq] at h
    cases h

theorem misfiled_of_raised (hstartable : startable source = true) (hstart : o.start = .committed)
    (hreconciled : o.reconciliation = .ok false) {exc : Raised} (hending : o.ending = .error exc) :
    misfiled true source o = true ↔
      (o.marks.foldl mark {}).writes_possible = true ∧ o.finish.landed = true ∧
        ∃ code, exc.code = .str code ∧ code ∈ PRE_WRITE_CODES ∧ exc.describable = true ∧
          (failure (o.marks.foldl mark {}) code).valid = true := by
  cases hcode : exc.code <;>
    simp [misfiled, hstartable, hstart, hreconciled, hending, hcode, and_assoc]

/-- An executed source is recorded truthfully unless it is misfiled. -/
theorem conclude_truthful_iff (hstartable : startable source = true) (hstart : o.start = .committed) :
    Truthful
        (conclude (with_opened fresh runs source o) source o (some (fresh.next runs.ids)) (execute true o)).1
        (conclude (with_opened fresh runs source o) source o (some (fresh.next runs.ids)) (execute true o)).2 ↔
      misfiled true source o = false := by
  unfold Truthful
  rw [concluded.evidence_eq, concluded.failed_iff, concluded.run_id_eq, concluded.runs_eq]
  cases hreconciliation : o.reconciliation with
  | error exc => simp [execute, misfiled, hreconciliation]
  | ok required =>
    cases required with
    | true => simp [execute, misfiled, hreconciliation]
    | false =>
      have hexecute : execute true o = (o.marks.foldl mark {}, o.ending) := by
        simp [execute, hreconciliation]
      rw [hexecute]
      cases hending : o.ending with
      | ok returned => simp [misfiled, hending]
      | error exc =>
        rw [← Bool.not_eq_true, misfiled_of_raised hstartable hstart hreconciliation hending]
        constructor
        · rintro htruthful ⟨hwrites, hfiled⟩
          -- The row is there: it was opened, and a terminal update keeps it.
          have hmem : fresh.next runs.ids ∈ (close (with_opened fresh runs source o)
              (some (fresh.next runs.ids)) o (o.marks.foldl mark {}, .error exc)).1.ids := closed_mem
          obtain ⟨run, hrun⟩ := Table.mem_ids_iff.mp hmem
          have hadmits := htruthful hwrites ⟨exc, rfl⟩ _ run rfl hrun
          rw [(closed_status hwrites hrun).mpr hfiled] at hadmits
          cases hadmits
        · rintro hnot hwrites _ _ run ⟨⟩ hrun
          rw [← Bool.not_eq_false, closed_status hwrites hrun]
          exact fun hfiled => hnot ⟨hwrites, hfiled⟩

theorem run_source_truthful_iff :
    Truthful (run_source fresh repository runs source o).1 (run_source fresh repository runs source o).2 ↔
      misfiled repository source o = false := by
  have hstep := run_source_attempted fresh repository runs source o
  generalize run_source fresh repository runs source o = step at hstep ⊢
  cases hstep with
  | executed hrepository hstartable hstart =>
    subst hrepository
    exact conclude_truthful_iff hstartable hstart
  | unopened hrepository hstart =>
    have hmisfiled : misfiled repository source o = false := by
      cases hstartable : startable source with
      | false => simp [misfiled, hstartable]
      | true => simp [misfiled, hstart hstartable]
    simp [Truthful, hmisfiled]
  | unrecorded hrepository =>
    simp [Truthful, misfiled, hrepository, concluded.run_id_eq]

end step

section loop

variable {fresh : Table.Fresh} {repository : Bool} {runs : Table SyncRun}
  {entries : List (SourceConfig × Outcome)}

theorem run_loop_get {id : Int} (h : id ∈ runs.ids) :
    (run_loop fresh repository runs entries).1.get id = runs.get id := by
  induction entries generalizing runs with
  | nil => rfl
  | cons entry entries ih =>
    obtain ⟨source, o⟩ := entry
    have hstep : (run_source fresh repository runs source o).1.get id = runs.get id := run_source_get h
    have hmem : id ∈ (run_source fresh repository runs source o).1.ids := by
      rw [Table.mem_ids_iff, hstep]
      exact Table.mem_ids_iff.mp h
    unfold run_loop
    dsimp only
    split
    · dsimp only
      rw [ih hmem, hstep]
    · exact hstep

/-- Later attempts do not touch the run of an earlier one. -/
theorem truthful_run_loop_iff {source : SourceConfig} {o : Outcome} :
    Truthful (run_loop fresh repository (run_source fresh repository runs source o).1 entries).1
        (run_source fresh repository runs source o).2 ↔
      misfiled repository source o = false := by
  have hown : Truthful (run_source fresh repository runs source o).1
      (run_source fresh repository runs source o).2 ↔ misfiled repository source o = false :=
    run_source_truthful_iff
  rw [← hown]
  unfold Truthful
  constructor
  · intro h hwrites hfailed id run hid hget
    exact h hwrites hfailed id run hid (by rw [run_loop_get (run_source_run_id hid), hget])
  · intro h hwrites hfailed id run hid hget
    rw [run_loop_get (run_source_run_id hid)] at hget
    exact h hwrites hfailed id run hid hget

/-- The loop goes through its list unless an attempt before the last escapes. -/
theorem run_loop_sound_iff :
    ((run_loop fresh repository runs entries).2.map Attempt.source = entries.map Prod.fst ∧
      ∀ attempt ∈ (run_loop fresh repository runs entries).2,
        Truthful (run_loop fresh repository runs entries).1 attempt) ↔
      (∀ entry ∈ entries.dropLast, escapes repository entry.1 entry.2 = false) ∧
        ∀ entry ∈ entries, misfiled repository entry.1 entry.2 = false := by
  induction entries generalizing runs with
  | nil => simp [run_loop]
  | cons entry entries ih =>
    obtain ⟨source, o⟩ := entry
    have hsource : (run_source fresh repository runs source o).2.source = source := run_source_source
    have hreturns : (run_source fresh repository runs source o).2.result.isSome =
      !escapes repository source o := run_source_returns
    unfold run_loop
    dsimp only
    rw [hreturns]
    cases hescapes : escapes repository source o with
    | false =>
      simp only [Bool.not_false, if_true, List.map_cons, hsource, List.cons.injEq, true_and,
        List.forall_mem_cons, truthful_run_loop_iff]
      rw [and_left_comm, ih]
      cases entries with
      | nil => simp
      | cons next entries =>
        simp only [List.dropLast_cons_cons, List.forall_mem_cons, hescapes, true_and]
        tauto
    | true =>
      simp only [Bool.not_true, Bool.false_eq_true, if_false, List.map_cons, List.map_nil, hsource,
        List.cons.injEq, true_and, List.forall_mem_cons, List.not_mem_nil, false_imp_iff, implies_true,
        and_true, run_source_truthful_iff]
      cases entries with
      | nil => simp
      | cons next entries => simp [hescapes]

end loop

/-- Every source is attempted once, in the order of the ids, and is recorded truthfully, exactly when no source before
    the last escapes and none is misfiled. -/
theorem run_sources_sound_iff (fresh : Table.Fresh) (repository : Bool) (runs : Table SyncRun)
    (sources : List (SourceConfig × Outcome)) :
    ((run_sources fresh repository runs sources).2.map Attempt.source = (by_id sources).map Prod.fst ∧
      ∀ attempt ∈ (run_sources fresh repository runs sources).2,
        Truthful (run_sources fresh repository runs sources).1 attempt) ↔
      (∀ entry ∈ (by_id sources).dropLast, escapes repository entry.1 entry.2 = false) ∧
        ∀ entry ∈ sources, misfiled repository entry.1 entry.2 = false := by
  have hmem : (∀ entry ∈ by_id sources, misfiled repository entry.1 entry.2 = false) ↔
      ∀ entry ∈ sources, misfiled repository entry.1 entry.2 = false := by
    simp only [by_id, mem_sorted]
  rw [← hmem]
  exact run_loop_sound_iff

/-- A source whose executor passed the write boundary and then raised. -/
def raisedAfterWrite (name : String) (code : Code) : SourceConfig × Outcome :=
  (⟨name, name, "proxmox"⟩,
    { marks := [(.planning, none), (.apply, none)], ending := .error { name := "RuntimeError", code } })

def noRuns : Table SyncRun := ⟨[], by simp⟩

/-- A code for a failure before the first write is believed after it, and a code without a hash keeps the next source
    from being attempted. -/
theorem raised_code_is_believed :
    let believed := [raisedAfterWrite "pve-a" (.str "PLAN_BLOCKED")]
    let stopped := [raisedAfterWrite "pve-a" .unhashable, raisedAfterWrite "pve-b" .other]
    (run_sources .after true noRuns believed).1.rows.map SyncRun.status = [.BLOCKED] ∧
      (run_sources .after true noRuns stopped).2.map (fun attempt => attempt.source.id) = ["pve-a"] ∧
      ∀ sources ∈ [believed, stopped],
        ¬ ((run_sources .after true noRuns sources).2.map Attempt.source = (by_id sources).map Prod.fst ∧
          ∀ attempt ∈ (run_sources .after true noRuns sources).2,
            Truthful (run_sources .after true noRuns sources).1 attempt) := by
  refine ⟨by decide +kernel, by decide +kernel, ?_⟩
  unfold run_sources
  simp only [run_loop_sound_iff]
  decide +kernel

end netbox_sync.orchestrator
