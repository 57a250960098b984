import NetboxSync.Lib.Machine
import NetboxSync.Scheduler.Eligibility

open json sorting

namespace netbox_sync.scheduler_runtime

open source_config run_history calendar_schedule orchestrator

/-- A row of `sources`. Whether it can be read depends on more columns than the schedule; `readable` says what they
    amount to. -/
structure SourceRow where
  config : CompleteSourceConfig
  schedule_changed_at : Nat
  readable : Bool := true

namespace SourceRow

def source_instance (row : SourceRow) : String := row.config.source_instance

/-- What `SourceConfig` and the registry check of a row that the scheduler depends on. -/
def accepted (row : SourceRow) : Bool :=
  row.readable && valid_start row.config.source_instance row.config.source_type "system/scheduler" &&
    0 < row.config.sync_interval_seconds &&
    row.config.sync_calendar.all (fun calendar => (validate_calendar calendar).toBool)

/-- `_row_to_record(row)`, where the row is valid. -/
def to_config (row : SourceRow) : Option CompleteSourceConfig :=
  if row.accepted then
    some { row.config with
      schedule_changed_at := if row.config.sync_calendar.isSome then some row.schedule_changed_at else none }
  else none

end SourceRow

/-- The registry, where `source_instance` is unique. -/
structure Registry where
  rows : List SourceRow
  unique : (rows.map SourceRow.source_instance).Nodup

namespace Registry

def register (registry : Registry) (row : SourceRow) : Registry :=
  if h : row.source_instance ∈ registry.rows.map SourceRow.source_instance then registry
  else
    { rows := registry.rows ++ [row]
      unique := by
        rw [List.map_append, List.map_singleton, List.nodup_append]
        refine ⟨registry.unique, List.nodup_singleton _, fun a ha b hb => ?_⟩
        rw [List.mem_singleton.mp hb]
        rintro rfl
        exact h ha }

def remove (registry : Registry) (source_instance : String) : Registry where
  rows := registry.rows.filter (fun row => row.source_instance ≠ source_instance)
  unique := registry.unique.sublist (List.filter_sublist.map SourceRow.source_instance)

/-- `UPDATE sources SET … WHERE`, of columns other than the keys. -/
def update (registry : Registry) (condition : SourceRow → Bool) (f : SourceRow → SourceRow)
    (hf : ∀ row, (f row).source_instance = row.source_instance) : Registry where
  rows := registry.rows.map (fun row => if condition row then f row else row)
  unique := by
    have hkeys : (SourceRow.source_instance ∘ fun row => if condition row then f row else row) =
        SourceRow.source_instance := by
      funext row
      simp only [Function.comp]
      split <;> simp [hf]
    rw [List.map_map, hkeys]
    exact registry.unique

/-- `load_scheduler_source_configs` -/
def entries (registry : Registry) : List (Option CompleteSourceConfig) := registry.rows.map SourceRow.to_config

end Registry

/-- A request to the schedule worker. -/
structure ScheduleRequest where
  source_instance : String
  sync_enabled : Bool
  sync_interval_seconds : Int
  sync_calendar : Option Value
  expected_sync_enabled : Bool
  expected_sync_interval_seconds : Int
  expected_sync_calendar : Option Value

/-- `validate_calendar` and `validate_interval` in `_receive`. -/
def ScheduleRequest.valid (request : ScheduleRequest) : Bool :=
  request.sync_calendar.all (fun calendar => (validate_calendar calendar).toBool) &&
    60 ≤ request.sync_interval_seconds && request.sync_interval_seconds ≤ 86400

/-- `ScheduleStore.update`: the schedule changes now, where it is as expected. -/
def update_schedule (registry : Registry) (now : Nat) (request : ScheduleRequest) : Registry :=
  registry.update
    (fun row => row.source_instance = request.source_instance &&
      row.config.sync_enabled = request.expected_sync_enabled &&
      row.config.sync_interval_seconds = request.expected_sync_interval_seconds &&
      row.config.sync_calendar = request.expected_sync_calendar)
    (fun row => { row with
      config := { row.config with
        sync_enabled := request.sync_enabled
        sync_interval_seconds := request.sync_interval_seconds
        sync_calendar := request.sync_calendar }
      schedule_changed_at := now })
    (fun _ => rfl)

/-- Where the scheduler process is. -/
inductive Tick where
  | idle
  | loaded (entries : List (Option CompleteSourceConfig))
  | running (now : Nat) (queue : List CompleteSourceConfig)

structure World where
  clock : Nat
  sources : Registry
  runs : Table SyncRun
  tick : Tick

inductive Event where
  | wait (microseconds : Nat)
  | register (row : SourceRow)
  | remove (source_instance : String)
  | purge (source_instance : String)
  | set_enabled (source_instance : String) (enabled sync_enabled : Bool)
  | update_schedule (request : ScheduleRequest)
  | start_manual (source_instance source_type created_by : String) (commit : Commit)
  | finish (run_id : Int) (finished : Finish) (commit : Commit)
  | load
  | evaluate
  | start (commit : Commit)
  | stop

/-- One step of the system. A tick loads the sources, decides about them and then opens a run for one eligible source
    after the other; it ends when it is through, or wherever its process crashes. Ticks do not overlap. Anything else
    may happen between two steps of a tick. -/
def step (fresh : Table.Fresh) (stale_seconds : Int) (w : World) : Event → Option World
  | .wait microseconds => some { w with clock := w.clock + microseconds }
  | .register row => some { w with sources := w.sources.register { row with schedule_changed_at := w.clock } }
  | .remove source_instance => some { w with sources := w.sources.remove source_instance }
  | .purge source_instance =>
    let runs := w.runs.deleteWhere (fun run => run.source_instance = source_instance)
    some { w with sources := w.sources.remove source_instance, runs := runs }
  | .set_enabled source_instance enabled sync_enabled =>
    let sources := w.sources.update (fun row => row.source_instance = source_instance)
      (fun row => { row with config := { row.config with enabled := enabled, sync_enabled := sync_enabled } })
      (fun _ => rfl)
    some { w with sources := sources }
  | .update_schedule request =>
    if request.valid then some { w with sources := update_schedule w.sources w.clock request } else none
  | .start_manual source_instance source_type created_by commit =>
    let (runs, _) := start_run w.runs commit (fresh.next w.runs.ids) w.clock source_instance source_type
      .MANUAL created_by
    some { w with runs := runs }
  | .finish run_id finished commit =>
    let (runs, _) := finish_run w.runs commit run_id w.clock finished
    some { w with runs := runs }
  | .load =>
    match w.tick with
    | .idle => some { w with tick := .loaded w.sources.entries }
    | _ => none
  | .evaluate =>
    match w.tick with
    | .loaded entries =>
      some { w with tick := .running w.clock (tick_decisions entries w.runs w.clock stale_seconds).2 }
    | _ => none
  | .start commit =>
    match w.tick with
    | .running now (source :: queue) =>
      let (runs, _) := start_run w.runs commit (fresh.next w.runs.ids) w.clock source.source_instance
        source.source_type .SCHEDULED "system/scheduler"
      some { w with runs := runs, tick := .running now queue }
    | _ => none
  | .stop =>
    match w.tick with
    | .idle => none
    | _ => some { w with tick := .idle }

/-- An empty registry and an empty history, at any time. -/
def Initial (w : World) : Prop := w.sources.rows = [] ∧ w.runs.rows = [] ∧ w.tick = .idle

def machine (fresh : Table.Fresh) (stale_seconds : Int) : Machine World Event := ⟨Initial, step fresh stale_seconds⟩

/-- The run is the same one at a later time. It was running before if it is now. -/
structure SameRun (run run' : SyncRun) : Prop where
  run_id : run.run_id = run'.run_id
  trigger : run.trigger = run'.trigger
  source_instance : run.source_instance = run'.source_instance
  started_at : run.started_at = run'.started_at
  running : run'.status = .RUNNING → run.status = .RUNNING

/-- Every scheduled run of the later history is one of the earlier history. -/
def Follows (runs runs' : Table SyncRun) : Prop :=
  ∀ run' ∈ runs'.rows, run'.trigger = .SCHEDULED → ∃ run ∈ runs.rows, SameRun run run'

/-- The runs of the source are still there. -/
def Retains (source_instance : String) (runs runs' : Table SyncRun) : Prop :=
  ∀ run ∈ runs.rows, run.source_instance = source_instance → ∃ run' ∈ runs'.rows, SameRun run run'

/-- The source may be run: since each of its scheduled starts a slot has passed, and none of its runs is fresh. -/
structure Ready (runs : Table SyncRun) (stale_seconds : Int) (now : Nat) (source : CompleteSourceConfig) : Prop where
  passed : ∀ run ∈ runs.rows, Scheduled source.source_instance run → SlotPassed source run.started_at now
  none_fresh : NoneFresh source.source_instance runs now stale_seconds

/-- Sources of a tick are different ones, and a run can be opened for each. -/
structure Distinct (sources : List CompleteSourceConfig) : Prop where
  unique : (sources.map (fun source => source.source_instance)).Nodup
  startable : ∀ source ∈ sources, valid_start source.source_instance source.source_type "system/scheduler" = true

/-- What holds of the tick in progress. -/
def TickSound (stale_seconds : Int) (w : World) : Prop :=
  match w.tick with
  | .idle => True
  | .loaded entries => Distinct (entries.filterMap id)
  | .running now queue => now ≤ w.clock ∧ Distinct queue ∧ ∀ source ∈ queue, Ready w.runs stale_seconds now source

section

variable {runs runs' : Table SyncRun} {stale_seconds : Int} {now : Nat} {source : CompleteSourceConfig}
  {w w' : World}

theorem SameRun.refl (run : SyncRun) : SameRun run run := ⟨rfl, rfl, rfl, rfl, fun h => h⟩

theorem SameRun.scheduled {run run' : SyncRun} (h : SameRun run run') {source_instance : String} :
    Scheduled source_instance run ↔ Scheduled source_instance run' := by
  unfold Scheduled
  rw [h.trigger, h.source_instance]

theorem Follows.refl (runs : Table SyncRun) : Follows runs runs := fun run hrun _ => ⟨run, hrun, SameRun.refl run⟩

theorem Retains.refl (source_instance : String) (runs : Table SyncRun) : Retains source_instance runs runs :=
  fun run hrun _ => ⟨run, hrun, SameRun.refl run⟩

theorem Ready.follows (h : Ready runs stale_seconds now source) (hfollows : Follows runs runs') :
    Ready runs' stale_seconds now source := by
  refine ⟨fun run' hrun' hscheduled => ?_, fun run' hrun' hscheduled hrunning => ?_⟩
  · obtain ⟨run, hrun, hsame⟩ := hfollows run' hrun' hscheduled.1
    rw [← hsame.started_at]
    exact h.passed run hrun (hsame.scheduled.mpr hscheduled)
  · obtain ⟨run, hrun, hsame⟩ := hfollows run' hrun' hscheduled.1
    rw [← hsame.started_at]
    exact h.none_fresh run hrun (hsame.scheduled.mpr hscheduled) (hsame.running hrunning)

section

variable (runs) (commit : Commit) (run_id clock : Int)

/-- A new run is the last row, or there is none. -/
theorem start_run_rows (source_instance source_type : String) (trigger : RunTrigger) (created_by : String) :
    (start_run runs commit run_id clock source_instance source_type trigger created_by).1.rows = runs.rows ∨
      (run_id ∉ runs.ids ∧
        (start_run runs commit run_id clock source_instance source_type trigger created_by).1.rows =
          runs.rows ++ [{ run_id, source_instance, source_type, trigger, started_at := clock, created_by }]) := by
  unfold start_run
  split
  · exact .inl rfl
  · split
    · exact .inl rfl
    · next hfresh =>
      cases commit with
      | committed => exact .inr ⟨hfresh, rfl⟩
      | lost fault => exact .inl rfl
      | unacknowledged fault => exact .inr ⟨hfresh, rfl⟩

theorem retains_start_run (source_instance source_type : String) (trigger : RunTrigger) (created_by name : String) :
    Retains name runs (start_run runs commit run_id clock source_instance source_type trigger created_by).1 := by
  intro run hrun _
  refine ⟨run, ?_, SameRun.refl run⟩
  rcases start_run_rows runs commit run_id clock source_instance source_type trigger created_by with
    hrows | ⟨_, hrows⟩
  · rwa [hrows]
  · rw [hrows]
    exact List.mem_append_left _ hrun

theorem follows_start_manual (source_instance source_type created_by : String) :
    Follows runs (start_run runs commit run_id clock source_instance source_type .MANUAL created_by).1 := by
  intro run hrun htrigger
  rcases start_run_rows runs commit run_id clock source_instance source_type .MANUAL created_by with
    hrows | ⟨_, hrows⟩
  · rw [hrows] at hrun
    exact Follows.refl runs run hrun htrigger
  · rw [hrows, List.mem_append, List.mem_singleton] at hrun
    rcases hrun with hrun | rfl
    · exact Follows.refl runs run hrun htrigger
    · cases htrigger

/-- A terminal update keeps the runs and only ends them. -/
theorem finish_run_rows (finished : Finish) :
    ∃ f : SyncRun → SyncRun, (∀ run, SameRun run (f run)) ∧
      (finish_run runs commit run_id clock finished).1.rows = runs.rows.map f := by
  have hupdated : ∃ f : SyncRun → SyncRun, (∀ run, SameRun run (f run)) ∧
      (update_running runs run_id (finished.row clock)).rows = runs.rows.map f := by
    refine ⟨_, fun run => ?_, rfl⟩
    dsimp only
    split
    · split
      · next hrunning => exact ⟨rfl, rfl, rfl, rfl, fun _ => hrunning⟩
      · exact SameRun.refl run
    · exact SameRun.refl run
  have hsame : ∃ f : SyncRun → SyncRun, (∀ run, SameRun run (f run)) ∧ runs.rows = runs.rows.map f :=
    ⟨id, SameRun.refl, (List.map_id _).symm⟩
  unfold finish_run
  split
  · exact hsame
  · cases commit with
    | committed => exact hupdated
    | lost fault => exact hsame
    | unacknowledged fault => exact hupdated

theorem follows_finish_run (finished : Finish) : Follows runs (finish_run runs commit run_id clock finished).1 := by
  obtain ⟨f, hf, hrows⟩ := finish_run_rows runs commit run_id clock finished
  intro run' hrun' _
  rw [hrows] at hrun'
  obtain ⟨run, hrun, rfl⟩ := List.mem_map.mp hrun'
  exact ⟨run, hrun, hf run⟩

theorem retains_finish_run (finished : Finish) (name : String) :
    Retains name runs (finish_run runs commit run_id clock finished).1 := by
  obtain ⟨f, hf, hrows⟩ := finish_run_rows runs commit run_id clock finished
  intro run hrun _
  refine ⟨f run, ?_, hf run⟩
  rw [hrows]
  exact List.mem_map_of_mem hrun

end

/-- What the registry holds can be loaded: the sources are different ones. -/
theorem Registry.distinct_entries (registry : Registry) : Distinct (registry.entries.filterMap id) := by
  have hinstance : ∀ row config, SourceRow.to_config row = some config →
      config.source_instance = row.source_instance ∧
        valid_start config.source_instance config.source_type "system/scheduler" = true := by
    intro row config hconfig
    unfold SourceRow.to_config at hconfig
    split at hconfig
    · next haccepted =>
      cases hconfig
      simp only [SourceRow.accepted, Bool.and_eq_true] at haccepted
      exact ⟨rfl, haccepted.1.1.2⟩
    · cases hconfig
  rw [Registry.entries, List.filterMap_map]
  refine ⟨?_, fun source hsource => ?_⟩
  · have hpair := List.pairwise_map.mp registry.unique
    rw [List.Nodup, List.pairwise_map, List.pairwise_filterMap]
    apply hpair.imp
    intro row row' hne config hconfig config' hconfig'
    rw [(hinstance row config hconfig).1, (hinstance row' config' hconfig').1]
    exact hne
  · obtain ⟨row, _, hconfig⟩ := List.mem_filterMap.mp hsource
    exact (hinstance row source hconfig).2

theorem distinct_eligible {entries : List (Option CompleteSourceConfig)} (h : Distinct (entries.filterMap id)) :
    Distinct (tick_decisions entries runs now stale_seconds).2 := by
  have heligible : (tick_decisions entries runs now stale_seconds).2.Sublist (tick_configs entries) := by
    have heq : (tick_decisions entries runs now stale_seconds).2 = (evaluate_sources
        (run_of (latest_by_source runs (some .SCHEDULED) none))
        (run_of (latest_by_source runs (some .SCHEDULED) (some .RUNNING))) now stale_seconds
        (tick_configs entries)).2 := rfl
    rw [heq, evaluate_sources_eligible]
    exact List.filter_sublist
  have hperm : (tick_configs entries).Perm (entries.filterMap id) := sorted_perm _ _
  refine ⟨?_, fun source hsource => h.startable source (hperm.mem_iff.mp (heligible.subset hsource))⟩
  exact ((hperm.map _).nodup_iff.mpr h.unique).sublist (heligible.map _)

/-- An eligible source is ready. -/
theorem ready_of_eligible {entries : List (Option CompleteSourceConfig)}
    (h : source ∈ (tick_decisions entries runs now stale_seconds).2) : Ready runs stale_seconds now source := by
  obtain ⟨_, _, _, ⟨expected, hexpected, hle⟩, hfresh⟩ := mem_tick_eligible_iff.mp h
  exact ⟨fun run hrun hscheduled => slotPassed_of_expected hexpected hle hrun hscheduled, hfresh⟩

/-- A step that leaves the tick alone and adds no scheduled run. -/
theorem TickSound.follows (h : TickSound stale_seconds w) (htick : w'.tick = w.tick)
    (hclock : w.clock ≤ w'.clock) (hfollows : Follows w.runs w'.runs) : TickSound stale_seconds w' := by
  unfold TickSound at h ⊢
  rw [htick]
  split
  · trivial
  · next entries heq =>
    rw [heq] at h
    exact h
  · next now queue heq =>
    rw [heq] at h
    obtain ⟨hnow, hdistinct, hready⟩ := h
    exact ⟨Nat.le_trans hnow hclock, hdistinct, fun source hsource => (hready source hsource).follows hfollows⟩

/-- A run that is opened for one source leaves the others ready. -/
theorem Ready.start (h : Ready runs stale_seconds now source) {other : CompleteSourceConfig}
    (hne : other.source_instance ≠ source.source_instance) (commit : Commit) (run_id clock : Int) :
    Ready (start_run runs commit run_id clock other.source_instance other.source_type .SCHEDULED
      "system/scheduler").1 stale_seconds now source := by
  have hold : ∀ run ∈ (start_run runs commit run_id clock other.source_instance other.source_type .SCHEDULED
      "system/scheduler").1.rows, Scheduled source.source_instance run → run ∈ runs.rows := by
    intro run hrun hscheduled
    rcases start_run_rows runs commit run_id clock other.source_instance other.source_type .SCHEDULED
      "system/scheduler" with hrows | ⟨_, hrows⟩
    · rwa [hrows] at hrun
    · rw [hrows, List.mem_append, List.mem_singleton] at hrun
      rcases hrun with hrun | rfl
      · exact hrun
      · exact absurd hscheduled.2 hne
  exact ⟨fun run hrun hscheduled => h.passed run (hold run hrun hscheduled) hscheduled,
    fun run hrun hscheduled => h.none_fresh run (hold run hrun hscheduled) hscheduled⟩

variable {fresh : Table.Fresh} {event : Event}

/-- What a step can do. Only a tick that goes on opens scheduled runs; every other step leaves the tick where it is,
    and the scheduled runs too, which it may end or purge. -/
inductive Move (fresh : Table.Fresh) (stale_seconds : Int) (w : World) : Event → World → Prop
  | aside {event : Event} {w' : World} (tick : w'.tick = w.tick) (clock : w.clock ≤ w'.clock)
      (follows : Follows w.runs w'.runs)
      (retains : ∀ name, event ≠ .purge name → Retains name w.runs w'.runs) : Move fresh stale_seconds w event w'
  | load (idle : w.tick = .idle) : Move fresh stale_seconds w .load { w with tick := .loaded w.sources.entries }
  | evaluate {entries : List (Option CompleteSourceConfig)} (loaded : w.tick = .loaded entries) :
      Move fresh stale_seconds w .evaluate
        { w with tick := .running w.clock (tick_decisions entries w.runs w.clock stale_seconds).2 }
  | start {now : Nat} {source : CompleteSourceConfig} {queue : List CompleteSourceConfig}
      (running : w.tick = .running now (source :: queue)) (commit : Commit) :
      Move fresh stale_seconds w (.start commit)
        { w with
          runs := (start_run w.runs commit (fresh.next w.runs.ids) w.clock source.source_instance
            source.source_type .SCHEDULED "system/scheduler").1
          tick := .running now queue }
  | stop : Move fresh stale_seconds w .stop { w with tick := .idle }

theorem move_of_step (hstep : step fresh stale_seconds w event = some w') : Move fresh stale_seconds w event w' := by
  have hquiet : ∀ {event : Event} {sources : Registry},
      Move fresh stale_seconds w event { w with sources := sources } :=
    .aside rfl (Nat.le_refl _) (Follows.refl _) (fun name _ => Retains.refl name _)
  cases event with
  | wait microseconds =>
    cases hstep
    exact .aside rfl (Nat.le_add_right _ _) (Follows.refl _) (fun name _ => Retains.refl name _)
  | register row =>
    cases hstep
    exact hquiet
  | remove source_instance =>
    cases hstep
    exact hquiet
  | purge source_instance =>
    cases hstep
    refine .aside rfl (Nat.le_refl _) (fun run hrun _ => ?_) (fun name hname run hrun hsource => ?_)
    · exact ⟨run, (List.mem_filter.mp hrun).1, SameRun.refl run⟩
    · have hne : name ≠ source_instance := by
        rintro rfl
        exact hname rfl
      exact ⟨run, List.mem_filter.mpr ⟨hrun, by simp [hsource, hne]⟩, SameRun.refl run⟩
  | set_enabled source_instance enabled sync_enabled =>
    cases hstep
    exact hquiet
  | update_schedule request =>
    simp only [step] at hstep
    split at hstep
    · cases hstep
      exact hquiet
    · cases hstep
  | start_manual source_instance source_type created_by commit =>
    cases hstep
    exact .aside rfl (Nat.le_refl _) (follows_start_manual _ _ _ _ _ _ _)
      (fun name _ => retains_start_run _ _ _ _ _ _ _ _ name)
  | finish run_id finished commit =>
    cases hstep
    exact .aside rfl (Nat.le_refl _) (follows_finish_run _ _ _ _ _) (fun name _ => retains_finish_run _ _ _ _ _ name)
  | load =>
    simp only [step] at hstep
    split at hstep
    · next hidle =>
      cases hstep
      exact .load hidle
    · cases hstep
  | evaluate =>
    simp only [step] at hstep
    split at hstep
    · next entries hloaded =>
      cases hstep
      exact .evaluate hloaded
    · cases hstep
  | start commit =>
    simp only [step] at hstep
    split at hstep
    · next now source queue hrunning =>
      cases hstep
      exact .start hrunning commit
    · cases hstep
  | stop =>
    simp only [step] at hstep
    split at hstep
    · cases hstep
    · cases hstep
      exact .stop

/-- One step keeps what holds of the tick. -/
theorem tickSound_step (h : TickSound stale_seconds w) (hmove : Move fresh stale_seconds w event w') :
    TickSound stale_seconds w' := by
  cases hmove with
  | aside htick hclock hfollows _ => exact h.follows htick hclock hfollows
  | load _ => exact w.sources.distinct_entries
  | evaluate hloaded =>
    rw [TickSound, hloaded] at h
    exact ⟨Nat.le_refl _, distinct_eligible h, fun source hsource => ready_of_eligible hsource⟩
  | start hrunning commit =>
    rw [TickSound, hrunning] at h
    obtain ⟨hnow, hdistinct, hready⟩ := h
    obtain ⟨hnew, hunique⟩ := List.nodup_cons.mp hdistinct.unique
    refine ⟨hnow, ⟨hunique, fun other hother => hdistinct.startable other (List.mem_cons_of_mem _ hother)⟩,
      fun other hother => (hready other (List.mem_cons_of_mem _ hother)).start ?_ _ _ _⟩
    intro heq
    exact hnew (List.mem_map.mpr ⟨other, hother, heq.symm⟩)
  | stop => trivial

theorem tickSound_of_reachable (h : (machine fresh stale_seconds).Reachable w) : TickSound stale_seconds w := by
  refine Machine.Reachable.invariant (fun w hinit => ?_) (fun w event w' _ hsound hstep => ?_) h
  · rw [TickSound, hinit.2.2]
    trivial
  · exact tickSound_step hsound (move_of_step hstep)

/-- A step that adds a scheduled run opens it for the next source of the tick. -/
theorem scheduled_run_of_move (hmove : Move fresh stale_seconds w event w') {run : SyncRun}
    (hrun : run ∈ w'.runs.rows) (htrigger : run.trigger = .SCHEDULED) (hnew : run.run_id ∉ w.runs.ids) :
    ∃ now source queue, w.tick = .running now (source :: queue) ∧
      run.source_instance = source.source_instance ∧ run.started_at = w.clock ∧ run.status = .RUNNING := by
  have hold : run ∉ w.runs.rows := fun hmem => hnew (List.mem_map_of_mem hmem)
  cases hmove with
  | aside _ _ hfollows _ =>
    obtain ⟨before, hbefore, hsame⟩ := hfollows run hrun htrigger
    rw [← hsame.run_id] at hnew
    exact absurd (List.mem_map_of_mem hbefore) hnew
  | load _ => exact absurd hrun hold
  | evaluate _ => exact absurd hrun hold
  | @start now source queue hrunning commit =>
    rcases start_run_rows w.runs commit (fresh.next w.runs.ids) w.clock source.source_instance
      source.source_type .SCHEDULED "system/scheduler" with hrows | ⟨_, hrows⟩
    · exact absurd (hrows ▸ hrun) hold
    · rcases List.mem_append.mp (hrows ▸ hrun) with hmem | hlast
      · exact absurd hmem hold
      · refine ⟨now, source, queue, hrunning, ?_⟩
        rw [List.mem_singleton.mp hlast]
        exact ⟨rfl, rfl, rfl⟩
  | stop => exact absurd hrun hold

/-- Steps of a tick that is not cut short: its process does not crash, the history takes every new run, and the source
    is not purged meanwhile. -/
def Undisturbed (source_instance : String) : Event → Prop
  | .stop => False
  | .purge name => name ≠ source_instance
  | .start commit => commit.landed = true
  | _ => True

/-- A scheduled run of the source that started at the time or later. -/
def StartedSince (source_instance : String) (time : Nat) (w : World) : Prop :=
  ∃ run ∈ w.runs.rows, Scheduled source_instance run ∧ time ≤ run.started_at

theorem startedSince_step {source_instance : String} {time : Nat} (h : StartedSince source_instance time w)
    (hmove : Move fresh stale_seconds w event w') (hundisturbed : Undisturbed source_instance event) :
    StartedSince source_instance time w' := by
  obtain ⟨run, hrun, hscheduled, htime⟩ := h
  have hretained : ∀ runs', Retains source_instance w.runs runs' →
      ∃ run' ∈ runs'.rows, Scheduled source_instance run' ∧ (time : Int) ≤ run'.started_at := by
    intro runs' hretains
    obtain ⟨run', hrun', hsame⟩ := hretains run hrun hscheduled.2
    refine ⟨run', hrun', hsame.scheduled.mp hscheduled, ?_⟩
    rw [← hsame.started_at]
    exact htime
  cases hmove with
  | aside _ _ _ hretains =>
    apply hretained _ (hretains source_instance _)
    rintro rfl
    exact hundisturbed rfl
  | load _ => exact ⟨run, hrun, hscheduled, htime⟩
  | evaluate _ => exact ⟨run, hrun, hscheduled, htime⟩
  | start _ commit => exact hretained _ (retains_start_run _ _ _ _ _ _ _ _ _)
  | stop => exact ⟨run, hrun, hscheduled, htime⟩

/-- The source waits for its turn in the tick. -/
def Waits (source : CompleteSourceConfig) (w : World) : Prop :=
  ∃ now queue, w.tick = .running now queue ∧ source ∈ queue

/-- The turn of a source: its run is on record. -/
theorem startedSince_start {time : Nat} {commit : Commit} (hnow : time ≤ w.clock)
    (hstart : valid_start source.source_instance source.source_type "system/scheduler" = true)
    (hlanded : commit.landed = true) (tick : Tick) :
    StartedSince source.source_instance time
      { w with
        runs := (start_run w.runs commit (fresh.next w.runs.ids) w.clock source.source_instance
          source.source_type .SCHEDULED "system/scheduler").1
        tick := tick } := by
  rw [start_run_of_valid hstart (fresh.notMem _), if_pos hlanded]
  exact ⟨_, List.mem_append_right _ (List.mem_singleton_self _), ⟨rfl, rfl⟩, Int.ofNat_le.mpr hnow⟩

/-- Along an undisturbed tick, a source that waits for its turn gets a run. -/
theorem startedSince_run {events : List Event} {time : Nat}
    (hrun : (machine fresh stale_seconds).run w events = some w')
    (hundisturbed : ∀ event ∈ events, Undisturbed source.source_instance event)
    (hend : ∃ now, w'.tick = .running now [])
    (hstart : valid_start source.source_instance source.source_type "system/scheduler" = true)
    (hnow : time ≤ w.clock) (h : StartedSince source.source_instance time w ∨ Waits source w) :
    StartedSince source.source_instance time w' := by
  induction events generalizing w with
  | nil =>
    cases hrun
    rcases h with hstarted | ⟨now, queue, htick, hmem⟩
    · exact hstarted
    · obtain ⟨now', hend⟩ := hend
      rw [htick, Tick.running.injEq] at hend
      rw [hend.2] at hmem
      exact absurd hmem List.not_mem_nil
  | cons event events ih =>
    obtain ⟨next, hstep, hrun⟩ := Option.bind_eq_some_iff.mp hrun
    have hmove := move_of_step hstep
    have hfirst := hundisturbed event List.mem_cons_self
    have hclock : time ≤ next.clock := by
      cases hmove with
      | aside _ hclock _ _ => exact Nat.le_trans hnow hclock
      | load | evaluate | start | stop => exact hnow
    refine ih hrun (fun other hother => hundisturbed other (List.mem_cons_of_mem _ hother)) hclock ?_
    rcases h with hstarted | ⟨now, queue, htick, hmem⟩
    · exact .inl (startedSince_step hstarted hmove hfirst)
    · cases hmove with
      | aside htick' _ _ _ => exact .inr ⟨now, queue, htick'.trans htick, hmem⟩
      | load hidle =>
        rw [htick] at hidle
        cases hidle
      | evaluate hloaded =>
        rw [htick] at hloaded
        cases hloaded
      | stop => exact absurd hfirst id
      | @start now' head rest hrunning commit =>
        rw [htick, Tick.running.injEq] at hrunning
        obtain ⟨rfl, rfl⟩ := hrunning
        rcases List.mem_cons.mp hmem with rfl | hmem
        · exact .inl (startedSince_start hnow hstart hfirst _)
        · exact .inr ⟨_, rest, rfl, hmem⟩

/-- What a tick decides is the same for two histories with the same scheduled runs. -/
theorem tick_decisions_of_scheduled (entries : List (Option CompleteSourceConfig)) (now : Nat)
    (h : runs.rows.filter (fun run => run.trigger = .SCHEDULED) =
      runs'.rows.filter (fun run => run.trigger = .SCHEDULED)) :
    tick_decisions entries runs now stale_seconds = tick_decisions entries runs' now stale_seconds := by
  have hlatest : ∀ status, latest_by_source runs (some .SCHEDULED) status =
      latest_by_source runs' (some .SCHEDULED) status := by
    intro status
    have hrows : ∀ table : Table SyncRun,
        table.rows.filter (fun run => (some RunTrigger.SCHEDULED).all (run.trigger = ·) &&
          status.all (run.status = ·)) =
        (table.rows.filter (fun run => run.trigger = .SCHEDULED)).filter
          (fun run => status.all (run.status = ·)) := by
      intro table
      rw [List.filter_filter]
      apply List.filter_congr
      intro run _
      simp [Bool.and_comm]
    simp only [latest_by_source, hrows, h]
  simp only [tick_decisions, hlatest]

end

end netbox_sync.scheduler_runtime
