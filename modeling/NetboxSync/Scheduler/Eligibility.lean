import NetboxSync.Lib.Except
import NetboxSync.Runs.Orchestrator
import NetboxSync.Scheduler.Calendar

open sorting

namespace netbox_sync

namespace run_history

/-- The order of `started_at DESC, run_id DESC`. -/
def newer (a b : SyncRun) : Bool :=
  b.started_at < a.started_at || (a.started_at = b.started_at && b.run_id < a.run_id)

def newest : List SyncRun → Option SyncRun
  | [] => none
  | run :: runs =>
    match newest runs with
    | none => some run
    | some best => if newer run best then some run else some best

/-- `RunRepository.latest_by_source`: the newest row of each source among those that pass the filter. -/
def latest_by_source (runs : Table SyncRun) (trigger : Option RunTrigger) (status : Option RunStatus) : List SyncRun :=
  let rows := runs.rows.filter (fun run => trigger.all (run.trigger = ·) && status.all (run.status = ·))
  (rows.map SyncRun.source_instance).eraseDups.filterMap (fun source_instance =>
    newest (rows.filter (fun run => run.source_instance = source_instance)))

theorem newest_eq_none_iff {runs : List SyncRun} : newest runs = none ↔ runs = [] := by
  cases runs with
  | nil => simp [newest]
  | cons run runs =>
    simp only [newest, reduceCtorEq, iff_false]
    split
    · simp
    · split <;> simp

/-- The newest run is one of them, and none started after it. -/
theorem newest_eq_some {runs : List SyncRun} {best : SyncRun} (h : newest runs = some best) :
    best ∈ runs ∧ ∀ run ∈ runs, run.started_at ≤ best.started_at := by
  induction runs generalizing best with
  | nil => cases h
  | cons run runs ih =>
    unfold newest at h
    cases hrest : newest runs with
    | none =>
      rw [hrest] at h
      cases h
      rw [newest_eq_none_iff.mp hrest]
      simp
    | some other =>
      rw [hrest] at h
      obtain ⟨hmem, hle⟩ := ih hrest
      dsimp only at h
      split at h
      · next hnewer =>
        cases h
        simp only [newer, Bool.or_eq_true, Bool.and_eq_true, decide_eq_true_eq] at hnewer
        refine ⟨List.mem_cons_self, fun run' hrun' => ?_⟩
        rcases List.mem_cons.mp hrun' with rfl | hrun'
        · exact Int.le_refl _
        · have hle' := hle run' hrun'
          omega
      · next hnewer =>
        cases h
        simp only [newer, Bool.or_eq_true, Bool.and_eq_true, decide_eq_true_eq, not_or] at hnewer
        refine ⟨List.mem_cons_of_mem _ hmem, fun run' hrun' => ?_⟩
        rcases List.mem_cons.mp hrun' with rfl | hrun'
        · omega
        · exact hle run' hrun'

/-- The rows that pass the filter of `latest_by_source`. -/
def filtered (runs : Table SyncRun) (trigger : Option RunTrigger) (status : Option RunStatus) : List SyncRun :=
  runs.rows.filter (fun run => trigger.all (run.trigger = ·) && status.all (run.status = ·))

end run_history

namespace scheduling

open source_config run_history calendar_schedule

inductive SchedulerState where
  | DISABLED
  | WAITING
  | DUE
  | RUNNING
  | DELAYED
deriving DecidableEq, Repr

inductive ScheduleEvaluationStatus where
  | OK
  | FAILED
deriving DecidableEq, Repr

structure ScheduleDecision where
  source_instance : Option String
  state : Option SchedulerState
  last_scheduled_run_at : Option Int
  next_expected_at : Option Int
  evaluation_status : ScheduleEvaluationStatus := .OK
  error_code : Option String := none
deriving DecidableEq, Repr

def ScheduleDecision.eligible (decision : ScheduleDecision) : Bool :=
  decision.evaluation_status = .OK && (decision.state = some .DUE || decision.state = some .DELAYED)

/-- `ScheduleDecision.failed(source_instance)` -/
def ScheduleDecision.failed (source_instance : Option String) : ScheduleDecision where
  source_instance := source_instance
  state := none
  last_scheduled_run_at := none
  next_expected_at := none
  evaluation_status := .FAILED
  error_code := some "SCHEDULE_EVALUATION_FAILED"

/-- Microseconds of a number of seconds. -/
def seconds (n : Int) : Int := n * 1000000

/-- When the source is expected to run next: by its calendar, from the later of its last scheduled start and the last
    change of the schedule, or an interval after the last scheduled start. -/
def next_expected (source : CompleteSourceConfig) (reference : Option Int) (now : Nat) : Except String Int :=
  match source.sync_calendar with
  | some calendar => do
    let anchor := source.schedule_changed_at.getD now
    let after := match reference with
      | some reference => max reference anchor
      | none => anchor
    let slot ← next_slot calendar after.toNat
    .ok slot
  | none =>
    match reference with
    | some reference => .ok (reference + seconds source.sync_interval_seconds)
    | none => .ok now

/-- The latest running run is not older than the stale threshold. -/
def fresh_run (latest_running : Option SyncRun) (now : Nat) (stale_seconds : Int) : Bool :=
  latest_running.any (fun run => now - run.started_at ≤ seconds stale_seconds)

def evaluate_schedule (source : CompleteSourceConfig) (latest_scheduled latest_running : Option SyncRun)
    (now : Nat) (stale_seconds : Int) : Except String ScheduleDecision :=
  let reference := latest_scheduled.map SyncRun.started_at
  let decision (state : SchedulerState) (next_expected_at : Option Int) : ScheduleDecision :=
    { source_instance := source.source_instance, state := state, last_scheduled_run_at := reference,
      next_expected_at := next_expected_at }
  if !source.enabled || !source.sync_enabled then .ok (decision .DISABLED none)
  else do
    let next_expected ← next_expected source reference now
    if fresh_run latest_running now stale_seconds then .ok (decision .RUNNING next_expected)
    else if now < next_expected then .ok (decision .WAITING next_expected)
    else
      match reference with
      | none => .ok (decision .DUE next_expected)
      | some reference =>
        if now = next_expected then .ok (decision .DUE next_expected)
        else
          let delayed_after := max (source.sync_interval_seconds * 2) 1800
          .ok (decision (if now - reference > seconds delayed_after then .DELAYED else .DUE) next_expected)

end scheduling

namespace scheduler_runtime

open source_config run_history scheduling orchestrator calendar_schedule

/-- The body of the loop of `_evaluate_sources`. -/
def evaluate_source (latest running : String → Option SyncRun) (now : Nat) (stale_seconds : Int)
    (source : CompleteSourceConfig) : ScheduleDecision :=
  match evaluate_schedule source (latest source.source_instance) (running source.source_instance) now
      stale_seconds with
  | .ok decision => decision
  | .error _ => .failed source.source_instance

/-- `_evaluate_sources`: the decisions, and the eligible sources in order. -/
def evaluate_sources (latest running : String → Option SyncRun) (now : Nat) (stale_seconds : Int) :
    List CompleteSourceConfig → List ScheduleDecision × List CompleteSourceConfig
  | [] => ([], [])
  | source :: configs =>
    let decision := evaluate_source latest running now stale_seconds source
    let (decisions, eligible) := evaluate_sources latest running now stale_seconds configs
    (decision :: decisions, if decision.eligible then source :: eligible else eligible)

/-- `{run.source_instance: run for run in rows}.get(source_instance)` -/
def run_of (rows : List SyncRun) (source_instance : String) : Option SyncRun :=
  dict.get (rows.map (fun run => (run.source_instance, run))) source_instance

/-- The configurations that could be read, by id. -/
def tick_configs (entries : List (Option CompleteSourceConfig)) : List CompleteSourceConfig :=
  sorted (fun config => config.id) (entries.filterMap id)

/-- What a tick decides from the history. An entry without a configuration is a decision of its own. -/
def tick_decisions (entries : List (Option CompleteSourceConfig)) (runs : Table SyncRun) (now : Nat)
    (stale_seconds : Int) : List ScheduleDecision × List CompleteSourceConfig :=
  let latest := run_of (latest_by_source runs (some .SCHEDULED) none)
  let running := run_of (latest_by_source runs (some .SCHEDULED) (some .RUNNING))
  let (evaluated, eligible) := evaluate_sources latest running now stale_seconds (tick_configs entries)
  ((entries.filter Option.isNone).map (fun _ => .failed none) ++ evaluated, eligible)

/-- `run_scheduler_tick`: the decisions, and the history and the attempts of the sources it executes. -/
def run_scheduler_tick (fresh : Table.Fresh) (entries : List (Option CompleteSourceConfig))
    (outcome : CompleteSourceConfig → Outcome) (runs : Table SyncRun) (now : Nat) (stale_seconds : Int)
    (execute_due : Bool) : List ScheduleDecision × Table SyncRun × List Attempt :=
  let (decisions, eligible) := tick_decisions entries runs now stale_seconds
  let due := if execute_due then eligible else []
  (decisions, run_sources fresh execute_due runs (due.map (fun source => (source.toSourceConfig, outcome source))))

/-- The entry of a source is its newest row. -/
theorem run_of_latest_by_source (runs : Table SyncRun) (trigger : Option RunTrigger)
    (status : Option RunStatus) (source_instance : String) :
    run_of (latest_by_source runs trigger status) source_instance =
      newest ((filtered runs trigger status).filter (fun run => run.source_instance = source_instance)) := by
  let rows := filtered runs trigger status
  have hgroups : ∀ instances : List String, (∀ name ∈ instances, name ∈ rows.map SyncRun.source_instance) →
      run_of (instances.filterMap (fun name =>
          newest (rows.filter (fun run => run.source_instance = name)))) source_instance =
        if source_instance ∈ instances then
          newest (rows.filter (fun run => run.source_instance = source_instance))
        else none := by
    intro instances hinstances
    induction instances with
    | nil => rfl
    | cons name instances ih =>
      have hrest := ih (fun other hother => hinstances other (List.mem_cons_of_mem _ hother))
      obtain ⟨run, hrun, hname⟩ := List.mem_map.mp (hinstances name List.mem_cons_self)
      cases hnewest : newest (rows.filter (fun run => run.source_instance = name)) with
      | none =>
        rw [newest_eq_none_iff, List.filter_eq_nil_iff] at hnewest
        exact absurd (decide_eq_true hname) (hnewest run hrun)
      | some best =>
        have hbest : best.source_instance = name := by
          have hmem := (newest_eq_some hnewest).1
          exact of_decide_eq_true (List.mem_filter.mp hmem).2
        unfold run_of at hrest ⊢
        simp only [List.filterMap_cons, hnewest]
        rw [List.map_cons, dict.get_cons, hrest, hbest]
        by_cases heq : name = source_instance
        · subst heq
          simp [hnewest]
        · simp [heq, Ne.symm heq]
  have hall := hgroups (rows.map SyncRun.source_instance).eraseDups (fun name hname => List.mem_eraseDups.mp hname)
  refine Eq.trans hall ?_
  by_cases hmem : source_instance ∈ (rows.map SyncRun.source_instance).eraseDups
  · rw [if_pos hmem]
  · rw [if_neg hmem, eq_comm, newest_eq_none_iff, List.filter_eq_nil_iff]
    intro run hrun heq
    rw [List.mem_eraseDups] at hmem
    exact hmem (List.mem_map.mpr ⟨run, hrun, of_decide_eq_true heq⟩)

/-- A scheduled run of the source. -/
def Scheduled (source_instance : String) (run : SyncRun) : Prop :=
  run.trigger = .SCHEDULED ∧ run.source_instance = source_instance

/-- The last scheduled start of a source. -/
def last_start (runs : Table SyncRun) (source_instance : String) : Option Int :=
  (run_of (latest_by_source runs (some .SCHEDULED) none) source_instance).map SyncRun.started_at

/-- The last scheduled run of a source that is still running. -/
def last_running (runs : Table SyncRun) (source_instance : String) : Option SyncRun :=
  run_of (latest_by_source runs (some .SCHEDULED) (some .RUNNING)) source_instance

section

variable {runs : Table SyncRun} {source_instance : String}

theorem mem_filtered_scheduled {run : SyncRun} :
    run ∈ (filtered runs (some .SCHEDULED) none).filter (fun run => run.source_instance = source_instance) ↔
      run ∈ runs.rows ∧ Scheduled source_instance run := by
  simp only [filtered, List.mem_filter, Option.all_some, Option.all_none, Bool.and_true, decide_eq_true_eq,
    Scheduled, and_assoc]

theorem mem_filtered_running {run : SyncRun} :
    run ∈ (filtered runs (some .SCHEDULED) (some .RUNNING)).filter
        (fun run => run.source_instance = source_instance) ↔
      run ∈ runs.rows ∧ Scheduled source_instance run ∧ run.status = .RUNNING := by
  simp only [filtered, List.mem_filter, Option.all_some, Bool.and_eq_true, decide_eq_true_eq, Scheduled]
  constructor
  · rintro ⟨⟨hmem, htrigger, hstatus⟩, hsource⟩
    exact ⟨hmem, ⟨htrigger, hsource⟩, hstatus⟩
  · rintro ⟨hmem, ⟨htrigger, hsource⟩, hstatus⟩
    exact ⟨⟨hmem, htrigger, hstatus⟩, hsource⟩

theorem last_start_eq_none (h : last_start runs source_instance = none) :
    ∀ run ∈ runs.rows, ¬ Scheduled source_instance run := by
  rw [last_start, Option.map_eq_none_iff, run_of_latest_by_source, newest_eq_none_iff] at h
  intro run hrun hscheduled
  have hmem := mem_filtered_scheduled.mpr ⟨hrun, hscheduled⟩
  rw [h] at hmem
  exact List.not_mem_nil hmem

theorem last_start_eq_some {started : Int} (h : last_start runs source_instance = some started) :
    (∃ run ∈ runs.rows, Scheduled source_instance run ∧ run.started_at = started) ∧
      ∀ run ∈ runs.rows, Scheduled source_instance run → run.started_at ≤ started := by
  obtain ⟨best, hbest, rfl⟩ := Option.map_eq_some_iff.mp h
  rw [run_of_latest_by_source] at hbest
  obtain ⟨hmem, hle⟩ := newest_eq_some hbest
  obtain ⟨hrow, hscheduled⟩ := mem_filtered_scheduled.mp hmem
  exact ⟨⟨best, hrow, hscheduled, rfl⟩, fun run hrun hrun' => hle run (mem_filtered_scheduled.mpr ⟨hrun, hrun'⟩)⟩

/-- No run is fresh where every running run is older than the threshold, and only there. -/
theorem fresh_run_eq_false_iff {now : Nat} {stale_seconds : Int} :
    fresh_run (last_running runs source_instance) now stale_seconds = false ↔
      ∀ run ∈ runs.rows, Scheduled source_instance run → run.status = .RUNNING →
        seconds stale_seconds < now - run.started_at := by
  unfold last_running fresh_run
  rw [run_of_latest_by_source]
  cases hnewest : newest ((filtered runs (some .SCHEDULED) (some .RUNNING)).filter
      (fun run => run.source_instance = source_instance)) with
  | none =>
    rw [newest_eq_none_iff] at hnewest
    simp only [Option.any_none, true_iff]
    intro run hrun hscheduled hrunning
    have hmem := mem_filtered_running.mpr ⟨hrun, hscheduled, hrunning⟩
    rw [hnewest] at hmem
    exact absurd hmem List.not_mem_nil
  | some best =>
    obtain ⟨hmem, hle⟩ := newest_eq_some hnewest
    obtain ⟨hrow, hscheduled, hrunning⟩ := mem_filtered_running.mp hmem
    rw [Option.any_some, decide_eq_false_iff_not, Int.not_le]
    constructor
    · intro hstale run hrun hrun' hstatus
      have hbefore := hle run (mem_filtered_running.mpr ⟨hrun, hrun', hstatus⟩)
      omega
    · intro hall
      exact hall best hrow hscheduled hrunning

end

/-- Between a start and a later time an occurrence of the source's calendar, after the last change of its schedule, or
    a full interval has passed. -/
def SlotPassed (source : CompleteSourceConfig) (started : Int) (time : Nat) : Prop :=
  match source.sync_calendar with
  | none => started + seconds source.sync_interval_seconds ≤ time
  | some value => ∃ calendar slot, validate_calendar value = .ok calendar ∧ calendar.IsSlot slot ∧
      started < slot ∧ (∀ changed, source.schedule_changed_at = some changed → changed < slot) ∧ slot ≤ time

/-- A slot of the source after its last scheduled start and the last change of its schedule is not later than the
    time. -/
def SlotDue (source : CompleteSourceConfig) (runs : Table SyncRun) (time : Nat) : Prop :=
  match source.sync_calendar with
  | none => ∀ run ∈ runs.rows, Scheduled source.source_instance run →
      run.started_at + seconds source.sync_interval_seconds ≤ time
  | some value => ∃ calendar slot changed, validate_calendar value = .ok calendar ∧ calendar.IsSlot slot ∧
      source.schedule_changed_at = some changed ∧ changed < slot ∧
      (∀ run ∈ runs.rows, Scheduled source.source_instance run → run.started_at < slot) ∧ slot ≤ time

/-- No scheduled run of the source is running that is younger than the stale threshold. -/
def NoneFresh (source_instance : String) (runs : Table SyncRun) (time : Nat) (stale_seconds : Int) : Prop :=
  ∀ run ∈ runs.rows, Scheduled source_instance run → run.status = .RUNNING →
    seconds stale_seconds < time - run.started_at

section

variable {source : CompleteSourceConfig} {runs : Table SyncRun} {now : Nat} {stale_seconds : Int}

theorem SlotPassed.mono {started : Int} {time later : Nat} (h : SlotPassed source started time)
    (hle : time ≤ later) : SlotPassed source started later := by
  unfold SlotPassed at h ⊢
  split at h
  · omega
  · obtain ⟨calendar, slot, hvalid, hslot, hafter, hchanged, htime⟩ := h
    exact ⟨calendar, slot, hvalid, hslot, hafter, hchanged, by omega⟩

theorem NoneFresh.mono {source_instance : String} {time later : Nat}
    (h : NoneFresh source_instance runs time stale_seconds) (hle : time ≤ later) :
    NoneFresh source_instance runs later stale_seconds := by
  intro run hrun hscheduled hrunning
  have hstale := h run hrun hscheduled hrunning
  omega

/-- A source is eligible where it is enabled, its time has come and no run of it is fresh. -/
theorem evaluate_schedule_eligible_iff {latest_scheduled latest_running : Option SyncRun} :
    (∃ decision, evaluate_schedule source latest_scheduled latest_running now stale_seconds = .ok decision ∧
        decision.eligible = true) ↔
      source.enabled = true ∧ source.sync_enabled = true ∧
      (∃ expected, next_expected source (latest_scheduled.map SyncRun.started_at) now = .ok expected ∧
        expected ≤ now) ∧
      fresh_run latest_running now stale_seconds = false := by
  unfold evaluate_schedule
  by_cases hdisabled : (!source.enabled || !source.sync_enabled) = true
  · rw [if_pos hdisabled]
    simp only [Except.ok.injEq, exists_eq_left']
    simp only [Bool.or_eq_true, Bool.not_eq_true'] at hdisabled
    constructor
    · intro h
      simp [ScheduleDecision.eligible] at h
    · rintro ⟨henabled, hsync, _⟩
      rw [henabled, hsync] at hdisabled
      simp at hdisabled
  · rw [if_neg hdisabled]
    simp only [Bool.or_eq_true, Bool.not_eq_true', not_or, Bool.not_eq_false] at hdisabled
    simp only [hdisabled, true_and]
    cases hexpected : next_expected source (latest_scheduled.map SyncRun.started_at) now with
    | error error => simp [bind, Except.bind]
    | ok expected =>
      simp only [Except.ok_bind, Except.ok.injEq, exists_eq_left']
      cases hfresh : fresh_run latest_running now stale_seconds with
      | true => simp [ScheduleDecision.eligible]
      | false =>
        simp only [Bool.false_eq_true, if_false, and_true]
        by_cases hwaiting : (now : Int) < expected
        · rw [if_pos hwaiting]
          simp [ScheduleDecision.eligible, hwaiting]
        · rw [if_neg hwaiting]
          simp only [not_lt] at hwaiting
          simp only [hwaiting, iff_true]
          split
          · exact ⟨_, rfl, rfl⟩
          · split
            · exact ⟨_, rfl, rfl⟩
            · refine ⟨_, rfl, ?_⟩
              split <;> rfl

/-- Where the time has come, a slot has passed since every scheduled start. -/
theorem slotPassed_of_expected {expected : Int}
    (h : next_expected source (last_start runs source.source_instance) now = .ok expected)
    (hle : expected ≤ now) {run : SyncRun} (hrun : run ∈ runs.rows)
    (hscheduled : Scheduled source.source_instance run) : SlotPassed source run.started_at now := by
  cases hlast : last_start runs source.source_instance with
  | none => exact absurd hscheduled (last_start_eq_none hlast run hrun)
  | some started =>
    have hstarted := (last_start_eq_some hlast).2 run hrun hscheduled
    rw [hlast] at h
    unfold next_expected at h
    unfold SlotPassed
    cases hcalendar : source.sync_calendar with
    | none =>
      simp only [hcalendar, Except.ok.injEq] at h
      dsimp only
      omega
    | some value =>
      simp only [hcalendar] at h
      obtain ⟨slot, hslot, h⟩ := Except.bind_eq_ok_iff.mp h
      rw [Except.ok.injEq] at h
      have hvalid : ∃ calendar, validate_calendar value = .ok calendar := by
        obtain ⟨calendar, hvalid, _⟩ := Except.bind_eq_ok_iff.mp hslot
        exact ⟨calendar, hvalid⟩
      obtain ⟨calendar, hvalid⟩ := hvalid
      obtain ⟨found, hfound, hisslot, hafter, _⟩ := next_slot_spec hvalid
        (max started ((source.schedule_changed_at.getD now : Nat) : Int)).toNat
      rw [hslot, Except.ok.injEq] at hfound
      subst hfound
      refine ⟨calendar, slot, hvalid, hisslot, by omega, fun changed hchanged => ?_, by omega⟩
      rw [hchanged, Option.getD_some] at hafter
      omega

/-- Where a slot is due, the time has come. -/
theorem expected_of_slotDue (h : SlotDue source runs now) :
    ∃ expected, next_expected source (last_start runs source.source_instance) now = .ok expected ∧
      expected ≤ now := by
  unfold SlotDue at h
  unfold next_expected
  cases hcalendar : source.sync_calendar with
  | none =>
    rw [hcalendar] at h
    cases hlast : last_start runs source.source_instance with
    | none => exact ⟨now, rfl, Int.le_refl _⟩
    | some started =>
      obtain ⟨⟨run, hrun, hscheduled, rfl⟩, _⟩ := last_start_eq_some hlast
      exact ⟨_, rfl, h run hrun hscheduled⟩
  | some value =>
    rw [hcalendar] at h
    obtain ⟨calendar, slot, changed, hvalid, hslot, hchanged, hlater, hall, hle⟩ := h
    -- the code looks for the first slot after the later of the two times
    have hnext : ∀ after : Int, after < slot → ∃ expected : Int,
        (next_slot value after.toNat >>= fun found => Except.ok (found : Int)) = .ok expected ∧ expected ≤ now := by
      intro after hafter
      obtain ⟨found, hfound, _, _, hfirst⟩ := next_slot_spec hvalid after.toNat
      have hle' := hfirst slot hslot (by omega)
      exact ⟨found, by rw [hfound, Except.ok_bind], by omega⟩
    simp only [hchanged, Option.getD_some]
    cases hlast : last_start runs source.source_instance with
    | none => exact hnext changed (by omega)
    | some started =>
      obtain ⟨⟨run, hrun, hscheduled, rfl⟩, _⟩ := last_start_eq_some hlast
      have hstarted := hall run hrun hscheduled
      exact hnext (max run.started_at changed) (by omega)

theorem evaluate_sources_eligible (latest running : String → Option SyncRun) (now : Nat)
    (stale_seconds : Int) (configs : List CompleteSourceConfig) :
    (evaluate_sources latest running now stale_seconds configs).2 =
      configs.filter (fun source => (evaluate_source latest running now stale_seconds source).eligible) := by
  induction configs with
  | nil => rfl
  | cons source configs ih =>
    rw [List.filter_cons, ← ih]
    rfl

theorem evaluate_source_eligible_iff {latest running : String → Option SyncRun} :
    (evaluate_source latest running now stale_seconds source).eligible = true ↔
      ∃ decision, evaluate_schedule source (latest source.source_instance) (running source.source_instance)
        now stale_seconds = .ok decision ∧ decision.eligible = true := by
  unfold evaluate_source
  cases evaluate_schedule source (latest source.source_instance) (running source.source_instance) now
      stale_seconds with
  | error error => simp [ScheduleDecision.failed, ScheduleDecision.eligible]
  | ok decision => simp

/-- Whether a source is executed depends on its own configuration and its own scheduled runs. -/
theorem mem_tick_eligible_iff {entries : List (Option CompleteSourceConfig)} :
    source ∈ (tick_decisions entries runs now stale_seconds).2 ↔
      some source ∈ entries ∧ source.enabled = true ∧ source.sync_enabled = true ∧
      (∃ expected, next_expected source (last_start runs source.source_instance) now = .ok expected ∧
        expected ≤ now) ∧
      NoneFresh source.source_instance runs now stale_seconds := by
  have hconfig : source ∈ tick_configs entries ↔ some source ∈ entries := by
    simp [tick_configs]
  have heligible : (tick_decisions entries runs now stale_seconds).2 =
      (evaluate_sources (run_of (latest_by_source runs (some .SCHEDULED) none))
        (run_of (latest_by_source runs (some .SCHEDULED) (some .RUNNING))) now stale_seconds
        (tick_configs entries)).2 := rfl
  rw [heligible, evaluate_sources_eligible, List.mem_filter, hconfig, evaluate_source_eligible_iff,
    evaluate_schedule_eligible_iff]
  exact and_congr_right (fun _ => and_congr_right (fun _ => and_congr_right (fun _ =>
    and_congr_right (fun _ => fresh_run_eq_false_iff))))

end

end scheduler_runtime

end netbox_sync
