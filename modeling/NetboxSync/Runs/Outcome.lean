import NetboxSync.Runs.Classification

open json

namespace netbox_sync.apply_worker

open source_config run_history sync_plan

/-- The row of a run is there and not final. -/
def Open (runs : Table SyncRun) (run_id : Int) : Prop := ∃ run, runs.get run_id = some run ∧ run.status = .RUNNING

section recording

variable {sup : Supervision} {progress : Progress} {runs : Table SyncRun} {raised : Raised}

/-- A handler leaves the run as it was, or files it under a code. -/
theorem handle_get (h : Open runs sup.run_id) :
    ∃ run, (handle sup progress runs raised).get sup.run_id = some run ∧
      run.status =
        match filed progress.apply_started raised with
        | none => .RUNNING
        | some code =>
          if (failed progress.claims code).valid && sup.finish_error.landed then terminal_status code
          else .RUNNING := by
  obtain ⟨run, hget, hrunning⟩ := h
  unfold handle
  cases hfiled : filed progress.apply_started raised with
  | none => exact ⟨run, hget, hrunning⟩
  | some code =>
    dsimp only
    rw [finish_run_get hget hrunning]
    split
    · exact ⟨_, rfl, rfl⟩
    · exact ⟨run, rfl, hrunning⟩

variable {run : SyncRun}

/-- A final run stays as it is. -/
theorem handle_get_of_final (hget : runs.get sup.run_id = some run) (hfinal : run.status ≠ .RUNNING) :
    (handle sup progress runs raised).get sup.run_id = some run := by
  unfold handle
  split
  · unfold finish_run
    split
    · exact hget
    · cases sup.finish_error <;> simp [get_update_running, hget, hfinal]
  · exact hget

/-- How a call is recorded: its run stays open, its success is recorded, a handler files what was raised, or the
    success could not be recorded and a handler files that. -/
inductive Recorded (progress : Progress) : RunStatus → Prop where
  | unfinished : Recorded progress .RUNNING
  | success {result : Fields} (houtcome : progress.outcome = .ok result) : Recorded progress .SUCCEEDED
  | raised {raised : Raised} {code : String} (houtcome : progress.outcome = .error raised)
      (hfiled : filed progress.apply_started raised = some code) :
      Recorded progress (terminal_status code)
  | unrecorded {fault : Fault} {code : String} {result : Fields}
      (houtcome : progress.outcome = .ok result)
      (hfiled : filed progress.apply_started (.fault fault) = some code) :
      Recorded progress (terminal_status code)

theorem handle_recorded (h : Open runs sup.run_id)
    (hfiled : ∀ code, filed progress.apply_started raised = some code → Recorded progress (terminal_status code)) :
    ∃ run, (handle sup progress runs raised).get sup.run_id = some run ∧ Recorded progress run.status := by
  obtain ⟨run, hget, hstatus⟩ : ∃ run, (handle sup progress runs raised).get sup.run_id = some run ∧ _ := handle_get h
  refine ⟨run, hget, ?_⟩
  rw [hstatus]
  split
  · exact .unfinished
  · next code hcode =>
    split
    · exact hfiled code hcode
    · exact .unfinished

theorem conclude_recorded (h : Open progress.runs sup.run_id) :
    ∃ run, (conclude sup progress).get sup.run_id = some run ∧ Recorded progress run.status := by
  unfold conclude
  cases houtcome : progress.outcome with
  | error raised => exact handle_recorded h (fun code hcode => .raised houtcome hcode)
  | ok result =>
    dsimp only
    cases hcounts : action_counts result with
    | none => exact handle_recorded h (fun code hcode => .unrecorded houtcome hcode)
    | some counts =>
      obtain ⟨run, hget, hrunning⟩ := h
      have hfinished : (finish_run progress.runs sup.finish sup.run_id sup.run_finished
          (succeeded counts result)).1.get sup.run_id = _ := finish_run_get hget hrunning
      dsimp only
      generalize finish_run progress.runs sup.finish sup.run_id sup.run_finished
        (succeeded counts result) = finished at hfinished ⊢
      obtain ⟨runs, ending⟩ := finished
      dsimp only at hfinished ⊢
      split at hfinished
      · -- The success is in the database, whatever the call returned.
        refine ⟨(succeeded counts result).row sup.run_finished run, ?_, .success houtcome⟩
        cases ending with
        | ok => exact hfinished
        | error fault => exact handle_get_of_final hfinished (by simp [Finish.row, succeeded])
      · cases ending with
        | ok => exact ⟨run, hfinished, hrunning ▸ .unfinished⟩
        | error fault =>
          exact handle_recorded ⟨run, hfinished, hrunning⟩ (fun code hcode => .unrecorded houtcome hcode)

end recording

section progress

variable {sha256 : String → String} {runs : Table SyncRun} {sup : Supervision}
  {claims : ConfirmationClaims}

/-- The steps up to the child all succeed. -/
structure Started (sup : Supervision) (claims : ConfirmationClaims) : Prop where
  consumed : sup.consume = .ok claims
  same_actor : claims.actor_id = sup.actor_id
  lock_opened : sup.open_lock = .done
  flocked : sup.flock = .done
  entered : sup.enter = .ok ()
  rechecked : recheck sup claims = .ok ()
  digest : is_digest claims.plan_digest = true
  bound : sup.bind = .committed
  prepared : sup.payload = .ok ()
  spawned : sup.popen = .ok ()

/-- A stretch that ends before the child is started. -/
structure Stopped (run_id : Int) (progress : Progress) : Prop where
  unwritten : progress.before_write = false
  still_open : Open progress.runs run_id
  failed : ∃ raised, progress.outcome = .error raised

/-- The stretch in which the child runs. -/
structure Ran (sha256 : String → String) (sup : Supervision) (claims : ConfirmationClaims)
    (progress : Progress) : Prop where
  started : Started sup claims
  apply_started : progress.apply_started = true
  claims_eq : progress.claims = some claims
  before_write : progress.before_write = (execute_apply sha256 claims.plan_digest sup.child).1
  still_open : Open progress.runs sup.run_id
  outcome : progress.outcome = leaving sup.close (converted (leaving sup.leave
    (confirmed claims (child_result sup (run_apply sha256 claims.plan_digest sup.child)))))

theorem under_guard_cases (sha256 : String → String) (claims : ConfirmationClaims)
    (hget : runs.get sup.run_id = some run) (hrunning : run.status = .RUNNING) (hunbound : run.plan_digest = none) :
    Stopped sup.run_id (under_guard sha256 runs sup claims) ∨
      (recheck sup claims = .ok () ∧ is_digest claims.plan_digest = true ∧ sup.bind = .committed ∧
        sup.payload = .ok () ∧ sup.popen = .ok () ∧
        Open (under_guard sha256 runs sup claims).runs sup.run_id ∧
        (under_guard sha256 runs sup claims).apply_started = true ∧
        (under_guard sha256 runs sup claims).before_write = (execute_apply sha256 claims.plan_digest sup.child).1 ∧
        (under_guard sha256 runs sup claims).outcome =
          confirmed claims (child_result sup (run_apply sha256 claims.plan_digest sup.child))) := by
  have hopen : Open (bind_plan runs sup.bind sup.run_id claims.plan_digest claims.planner_version).1
      sup.run_id := bind_plan_open hget hrunning
  have hbind : (bind_plan runs sup.bind sup.run_id claims.plan_digest claims.planner_version).2 = .ok () ↔
      _ := bind_plan_eq_ok_iff hget hrunning hunbound
  unfold under_guard
  cases hrecheck : recheck sup claims with
  | error raised => exact .inl ⟨rfl, ⟨run, hget, hrunning⟩, raised, rfl⟩
  | ok =>
    dsimp only
    generalize bind_plan runs sup.bind sup.run_id claims.plan_digest claims.planner_version = bound
      at hopen hbind ⊢
    obtain ⟨bound, ending⟩ := bound
    cases ending with
    | error fault => exact .inl ⟨rfl, hopen, _, rfl⟩
    | ok =>
      obtain ⟨hdigest, hcommitted⟩ := hbind.mp rfl
      cases hpayload : sup.payload with
      | error raised => exact .inl ⟨rfl, hopen, _, rfl⟩
      | ok =>
        cases hpopen : sup.popen with
        | error fault => exact .inl ⟨rfl, hopen, _, rfl⟩
        | ok => exact .inr ⟨rfl, hdigest, hcommitted, rfl, rfl, hopen, rfl, rfl, rfl⟩

theorem leaving_error (exit : Except Fault Unit) (raised : Raised) :
    ∃ raised', leaving exit (.error raised) = .error raised' := by
  cases exit with
  | ok => exact ⟨raised, rfl⟩
  | error fault => exact ⟨.fault fault, rfl⟩

theorem converted_error (raised : Raised) : ∃ raised', converted (.error raised) = .error raised' := by
  cases raised <;> exact ⟨_, rfl⟩

/-- The child is run, or the call has failed before. -/
theorem attempt_apply_cases (sha256 : String → String) (hget : runs.get sup.run_id = some run)
    (hrunning : run.status = .RUNNING) (hunbound : run.plan_digest = none) :
    Stopped sup.run_id (attempt_apply sha256 runs sup) ∨
      ∃ claims, Ran sha256 sup claims (attempt_apply sha256 runs sup) := by
  have hopen : Open runs sup.run_id := ⟨run, hget, hrunning⟩
  unfold attempt_apply
  cases hconsume : sup.consume with
  | error raised => cases raised <;> exact .inl ⟨rfl, hopen, _, rfl⟩
  | ok claims =>
    dsimp only
    split
    · exact .inl ⟨rfl, hopen, _, rfl⟩
    · next hactor =>
      unfold locked
      cases hlock : sup.open_lock with
      | os_error => exact .inl ⟨rfl, hopen, _, rfl⟩
      | raised fault => exact .inl ⟨rfl, hopen, _, rfl⟩
      | done =>
        dsimp only
        cases hflock : sup.flock with
        | os_error => exact .inl ⟨rfl, hopen, leaving_error _ _⟩
        | raised fault => exact .inl ⟨rfl, hopen, leaving_error _ _⟩
        | done =>
          dsimp only
          cases henter : sup.enter with
          | error raised =>
            obtain ⟨converted', hconverted⟩ := converted_error raised
            refine .inl ⟨rfl, hopen, ?_⟩
            dsimp only
            rw [hconverted]
            exact leaving_error _ _
          | ok =>
            dsimp only
            rcases under_guard_cases sha256 claims hget hrunning hunbound with
              hstopped | ⟨hrecheck, hdigest, hbound, hpayload, hpopen, hrow, hstarted, hwrote, houtcome⟩
            · obtain ⟨raised, hraised⟩ := hstopped.failed
              obtain ⟨left, hleft⟩ := leaving_error sup.leave raised
              obtain ⟨converted', hconverted⟩ := converted_error left
              refine .inl ⟨hstopped.unwritten, hstopped.still_open, ?_⟩
              dsimp only
              rw [hraised, hleft, hconverted]
              exact leaving_error _ _
            · refine .inr ⟨claims, ?_⟩
              constructor
              · exact ⟨hconsume, not_not.mp hactor, hlock, hflock, henter, hrecheck, hdigest, hbound,
                  hpayload, hpopen⟩
              · exact hstarted
              · rfl
              · exact hwrote
              · exact hrow
              · dsimp only
                rw [houtcome]

/-- A child that was started is asked for what it did. -/
theorem Started.before_write (h : Started sup claims) (hget : runs.get sup.run_id = some run)
    (hrunning : run.status = .RUNNING) (hunbound : run.plan_digest = none) :
    (attempt_apply sha256 runs sup).before_write = (execute_apply sha256 claims.plan_digest sup.child).1 := by
  have hbind : (bind_plan runs sup.bind sup.run_id claims.plan_digest claims.planner_version).2 = .ok () :=
    (bind_plan_eq_ok_iff hget hrunning hunbound).mpr ⟨h.digest, h.bound⟩
  have hguarded : (under_guard sha256 runs sup claims).before_write =
      (execute_apply sha256 claims.plan_digest sup.child).1 := by
    unfold under_guard
    rw [h.rechecked]
    dsimp only
    generalize bind_plan runs sup.bind sup.run_id claims.plan_digest claims.planner_version = bound
      at hbind ⊢
    obtain ⟨bound, ending⟩ := bound
    cases hbind
    simp [h.prepared, h.spawned]
  simpa [attempt_apply, h.consumed, h.same_actor, locked, h.lock_opened, h.flocked, h.entered]
    using hguarded

end progress

section status

variable {sha256 : String → String} {runs : Table SyncRun} {sup : Supervision}
  {claims : ConfirmationClaims} {progress : Progress} {status : RunStatus}

theorem terminal_status_ne_succeeded (code : String) : terminal_status code ≠ .SUCCEEDED := by
  unfold terminal_status
  cases hget : dict.get ERROR_STATUS code with
  | none => decide
  | some status =>
    have hmem := dict.mem_of_get hget
    simp only [ERROR_STATUS, List.mem_cons, Prod.mk.injEq, List.not_mem_nil, or_false] at hmem
    rcases hmem with ⟨_, rfl⟩ | ⟨_, rfl⟩ | ⟨_, rfl⟩ | ⟨_, rfl⟩ | ⟨_, rfl⟩ | ⟨_, rfl⟩ <;> decide

theorem Recorded.ok_of_succeeded (h : Recorded progress status) (hstatus : status = .SUCCEEDED) :
    ∃ result, progress.outcome = .ok result := by
  cases h with
  | unfinished => cases hstatus
  | success houtcome => exact ⟨_, houtcome⟩
  | raised => exact absurd hstatus (terminal_status_ne_succeeded _)
  | unrecorded houtcome => exact ⟨_, houtcome⟩

/-- Once the apply has started, a harmless outcome is never filed under a status that denies a write. -/
theorem Harmless.admits_writes (h : Harmless progress.outcome) (hstarted : progress.apply_started = true)
    (hrecorded : Recorded progress status) : admits_writes status = true := by
  have hfault : ∀ fault code, filed progress.apply_started (.fault fault) = some code →
      apply_worker.admits_writes (terminal_status code) = true := by
    intro fault code hfiled
    cases fault with
    | exits returncode => cases hfiled
    | exception =>
      rw [hstarted] at hfiled
      cases hfiled
      decide
  cases hrecorded with
  | unfinished => rfl
  | success => rfl
  | unrecorded houtcome hfiled => exact hfault _ _ hfiled
  | raised houtcome hfiled =>
    rw [houtcome] at h
    cases h with
    | fault fault => exact hfault _ _ hfiled
    | uncertain =>
      have hcode : filed progress.apply_started (error "OUTCOME_UNCERTAIN") = some "OUTCOME_UNCERTAIN" := by
        rfl
      rw [hcode] at hfiled
      cases hfiled
      decide

variable {outcome : Except Raised Fields}

theorem Harmless.leaving (h : Harmless outcome) (exit : Except Fault Unit) : Harmless (leaving exit outcome) := by
  cases exit with
  | ok => exact h
  | error fault => exact .fault fault

theorem Harmless.converted (h : Harmless outcome) : Harmless (converted outcome) := by
  cases h with
  | uncertain => exact .uncertain
  | fault fault => exact .fault fault
  | result fields => exact .result fields

theorem Harmless.confirmed (h : Harmless outcome) : Harmless (confirmed claims outcome) := by
  cases h with
  | uncertain => exact .uncertain
  | fault fault => exact .fault fault
  | result fields =>
    unfold apply_worker.confirmed
    dsimp only
    split
    · exact .result fields
    · exact .uncertain

/-- The record of a confirmed plan passes the checks of `finish_run` unless its version is too long. -/
theorem failed_valid (hdigest : is_digest claims.plan_digest = true) {code : String}
    (hcode : code ∈ dict.keys SAFE_ERROR_MESSAGES) (hstatus : terminal_status code ≠ .RUNNING) :
    (failed (some claims) code).valid = decide (claims.planner_version.length ≤ 128) := by
  simp [Finish.valid, failed, hstatus, hcode, ActionCounts.values, valid_count, valid_digest, hdigest,
    valid_version, json.optional]

/-- A leaked exception is recorded as a failure before the first write. -/
structure Misfiled (sup : Supervision) (claims : ConfirmationClaims) : Prop where
  leaks : leaks sup.child = true
  told : Told sup
  left : sup.leave = .ok ()
  closed : sup.close = .ok ()
  version : claims.planner_version.length ≤ 128
  landed : sup.finish_error.landed = true

theorem Ran.admits_writes_of_harmless (h : Ran sha256 sup claims progress) (hharmless : Harmless progress.outcome) :
    ∃ run, (conclude sup progress).get sup.run_id = some run ∧ admits_writes run.status = true := by
  obtain ⟨run, hget, hrecorded⟩ := conclude_recorded h.still_open
  exact ⟨run, hget, hharmless.admits_writes h.apply_started hrecorded⟩

theorem Ran.admits_writes_iff (h : Ran sha256 sup claims progress) (hwrote : progress.before_write = true) :
    ∃ run, (conclude sup progress).get sup.run_id = some run ∧
      (admits_writes run.status = false ↔ Misfiled sup claims) := by
  rw [h.before_write] at hwrote
  obtain ⟨hleaks, htold, hresult⟩ | ⟨hnot, hharmless⟩ := child_result_past_boundary hwrote
  · by_cases hexits : sup.leave = .ok () ∧ sup.close = .ok ()
    · obtain ⟨hleave, hclose⟩ := hexits
      have houtcome : progress.outcome = .error (error "FAILED_BEFORE_WRITE") := by
        rw [h.outcome, hresult, hleave, hclose]
        rfl
      obtain ⟨run, hget, hstatus⟩ : ∃ run, (handle sup progress progress.runs
          (error "FAILED_BEFORE_WRITE")).get sup.run_id = some run ∧ _ := handle_get h.still_open
      have hfiled : filed progress.apply_started (error "FAILED_BEFORE_WRITE") = some "FAILED_BEFORE_WRITE" := by rfl
      rw [hfiled, h.claims_eq] at hstatus
      dsimp only at hstatus
      rw [failed_valid h.started.digest (by decide) (by decide)] at hstatus
      refine ⟨run, by simpa [conclude, houtcome] using hget, ?_⟩
      constructor
      · intro hdenied
        by_cases hrecorded : claims.planner_version.length ≤ 128 ∧ sup.finish_error.landed = true
        · exact ⟨hleaks, htold, hleave, hclose, hrecorded.1, hrecorded.2⟩
        · rw [if_neg (by simpa using hrecorded)] at hstatus
          rw [hstatus] at hdenied
          cases hdenied
      · intro hmisfiled
        rw [hstatus, if_pos (by simp [hmisfiled.version, hmisfiled.landed])]
        decide
    · -- A fault on the way out takes the report's place.
      have hharmless : Harmless progress.outcome := by
        rw [h.outcome, hresult]
        cases hleave : sup.leave with
        | error fault => exact (Harmless.fault fault).leaving sup.close
        | ok =>
          cases hclose : sup.close with
          | error fault => exact .fault fault
          | ok => exact absurd ⟨hleave, hclose⟩ hexits
      obtain ⟨run, hget, hadmits⟩ := h.admits_writes_of_harmless hharmless
      refine ⟨run, hget, ?_⟩
      rw [hadmits]
      simp only [Bool.true_eq_false, false_iff]
      exact fun hmisfiled => hexits ⟨hmisfiled.left, hmisfiled.closed⟩
  · have hoverall : Harmless progress.outcome := by
      rw [h.outcome]
      exact ((hharmless.confirmed.leaving _).converted).leaving _
    obtain ⟨run, hget, hadmits⟩ := h.admits_writes_of_harmless hoverall
    refine ⟨run, hget, ?_⟩
    rw [hadmits]
    simp only [Bool.true_eq_false, false_iff]
    exact fun hmisfiled => hnot ⟨hmisfiled.leaks, hmisfiled.told⟩

/-- A success is recorded for an executor that returned. -/
theorem Ran.returned (h : Ran sha256 sup claims progress) {result : Fields}
    (houtcome : progress.outcome = .ok result) :
    ∃ plan, sup.child.plan = .ok plan ∧ plan.digest sha256 = claims.plan_digest ∧
      sup.child.executor.ending = .ok () := by
  rw [h.outcome] at houtcome
  cases hresult : child_result sup (run_apply sha256 claims.plan_digest sup.child) with
  | error raised =>
    rw [hresult, confirmed] at houtcome
    obtain ⟨left, hleft⟩ := leaving_error sup.leave raised
    obtain ⟨converted', hconverted⟩ := converted_error left
    obtain ⟨closed, hclosed⟩ := leaving_error sup.close converted'
    rw [hleft, hconverted, hclosed] at houtcome
    cases houtcome
  | ok value =>
    obtain ⟨plan, hplan, hending⟩ := child_result_eq_ok hresult
    obtain ⟨hchild, hdigest⟩ := recompute_digest hplan
    exact ⟨plan, hchild, hdigest, hending⟩

end status

/-- The run is opened. -/
structure Opened (runs : Table SyncRun) (sup : Supervision) (config : SourceConfig) : Prop where
  source : sup.source = .ok config
  valid : valid_start config.source_instance config.source_type (created_by sup.actor_id) = true
  started : sup.start = .committed
  unused : sup.run_id ∉ runs.ids

theorem apply_of_opened (sha256 : String → String) {runs : Table SyncRun} {sup : Supervision}
    {config : SourceConfig} (h : Opened runs sup config) :
    ∃ opened run, opened.get sup.run_id = some run ∧ run.status = .RUNNING ∧ run.plan_digest = none ∧
      apply sha256 runs sup =
        { runs := conclude sup (attempt_apply sha256 opened sup)
          run_id := some sup.run_id
          before_write := (attempt_apply sha256 opened sup).before_write } := by
  let row : SyncRun :=
    { run_id := sup.run_id, source_instance := config.source_instance, source_type := config.source_type,
      trigger := .MANUAL, started_at := sup.run_started, created_by := created_by sup.actor_id }
  refine ⟨runs.insert row h.unused, row, (Table.get_insert _ _ _ _).trans (if_pos rfl), rfl, rfl, ?_⟩
  rw [apply, h.source]
  dsimp only
  rw [start_run_of_valid h.valid h.unused, h.started]
  rfl

/-- A call that names its run has opened it. -/
theorem opened_of_apply {sha256 : String → String} {runs : Table SyncRun} {sup : Supervision} {run_id : Int}
    (h : (apply sha256 runs sup).run_id = some run_id) : ∃ config, Opened runs sup config := by
  unfold apply at h
  cases hsource : sup.source with
  | error raised =>
    rw [hsource] at h
    cases h
  | ok config =>
    rw [hsource] at h
    dsimp only at h
    cases hvalid : valid_start config.source_instance config.source_type (created_by sup.actor_id) with
    | false =>
      rw [start_run_of_invalid hvalid] at h
      cases h
    | true =>
      by_cases hfresh : sup.run_id ∈ runs.ids
      · simp [start_run, hvalid, hfresh] at h
      · rw [start_run_of_valid hvalid hfresh] at h
        cases hstart : sup.start with
        | committed => exact ⟨config, hsource, hvalid, hstart, hfresh⟩
        | lost fault =>
          rw [hstart] at h
          cases h
        | unacknowledged fault =>
          rw [hstart] at h
          cases h

/-- A digest, for a hash that yields nothing else. -/
def someDigest : String := String.ofList (List.replicate 64 'a')

/-- One VM that is to be created on Proxmox source pve. -/
def createPlan : SyncPlan where
  source_instance := "pve"
  source_id := "pve"
  source_type := "proxmox"
  source_fingerprint := ""
  target_fingerprint := ""
  provider_fingerprint := ""
  netbox_fingerprint := ""
  items := [⟨"vm", "qemu:pve:100", "web", .CREATE, "MISSING", "", none, [], []⟩]

/-- The child writes everything, and then has no memory left for its result. -/
def outOfMemory : Supervision where
  run_id := 1
  source := .ok ⟨"pve", "pve", "proxmox"⟩
  consume := .ok ⟨"pve", "pve", someDigest, "web-5a-19", none, none⟩
  reload := .ok ⟨"pve", "pve", "proxmox"⟩
  child :=
    { plan := .ok createPlan
      executor := ⟨true, .ok ()⟩
      result := .error .exception }

end netbox_sync.apply_worker
