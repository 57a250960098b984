import NetboxSync.Scheduler.Ticks

open sorting

namespace netbox_sync.scheduler_runtime

open source_config run_history orchestrator

/-! ## The policy -/

/-- A scheduled run that a step adds is opened by the tick for its next source. Since every scheduled run of that
    source in the history a slot has passed, and those that are running are older than the stale threshold. -/
def StartsInTime (stale_seconds : Int) (w w' : World) : Prop :=
  ∀ run ∈ w'.runs.rows, run.trigger = .SCHEDULED → run.run_id ∉ w.runs.ids →
    ∃ now source queue, w.tick = .running now (source :: queue) ∧
      run.source_instance = source.source_instance ∧ run.started_at = w.clock ∧
      (∀ earlier ∈ w.runs.rows, Scheduled source.source_instance earlier →
        SlotPassed source earlier.started_at w.clock) ∧
      NoneFresh source.source_instance w.runs w.clock stale_seconds

/-- A tick that is not cut short starts a run for every enabled source that is due and has no fresh run. -/
def StartsWhatIsDue (fresh : Table.Fresh) (stale_seconds : Int) (w : World) : Prop :=
  ∀ entries, w.tick = .loaded entries → ∀ source, some source ∈ entries →
    source.enabled = true → source.sync_enabled = true → SlotDue source w.runs w.clock →
    NoneFresh source.source_instance w.runs w.clock stale_seconds →
    ∀ events w', (machine fresh stale_seconds).run w (.evaluate :: events) = some w' →
      (∀ event ∈ events, Undisturbed source.source_instance event) →
      (∃ now, w'.tick = .running now []) → StartedSince source.source_instance w.clock w'

/-- In every state the system reaches: scheduled runs start in time, what is due is started, what a tick decides does
    not depend on manual runs, and what it decides about a source does not depend on the other sources. -/
theorem schedule_policy {fresh : Table.Fresh} {stale_seconds : Int} {w : World}
    (h : (machine fresh stale_seconds).Reachable w) :
    (∀ event w', step fresh stale_seconds w event = some w' → StartsInTime stale_seconds w w') ∧
    StartsWhatIsDue fresh stale_seconds w ∧
    (∀ entries (runs : Table SyncRun) now, w.runs.rows.filter (fun run => run.trigger = .SCHEDULED) =
        runs.rows.filter (fun run => run.trigger = .SCHEDULED) →
      tick_decisions entries w.runs now stale_seconds = tick_decisions entries runs now stale_seconds) ∧
    ∀ entries others source now, some source ∈ entries → some source ∈ others →
      (source ∈ (tick_decisions entries w.runs now stale_seconds).2 ↔
        source ∈ (tick_decisions others w.runs now stale_seconds).2) := by
  have hsound := tickSound_of_reachable h
  refine ⟨?_, ?_, fun entries runs now heq => tick_decisions_of_scheduled entries now heq, ?_⟩
  · intro event w' hstep run hrun htrigger hnew
    obtain ⟨now, source, queue, htick, hsource, hstarted, _⟩ :=
      scheduled_run_of_move (move_of_step hstep) hrun htrigger hnew
    rw [TickSound, htick] at hsound
    obtain ⟨hnow, _, hready⟩ := hsound
    have hhead := hready source List.mem_cons_self
    exact ⟨now, source, queue, htick, hsource, hstarted,
      fun earlier hearlier hscheduled => (hhead.passed earlier hearlier hscheduled).mono hnow,
      hhead.none_fresh.mono hnow⟩
  · intro entries htick source hsource henabled hsync hdue hfresh events w' hrun hundisturbed hend
    obtain ⟨next, hstep, hrun⟩ := Option.bind_eq_some_iff.mp hrun
    rw [TickSound, htick] at hsound
    have hstart := hsound.startable source (List.mem_filterMap.mpr ⟨_, hsource, rfl⟩)
    have heligible : source ∈ (tick_decisions entries w.runs w.clock stale_seconds).2 :=
      mem_tick_eligible_iff.mpr ⟨hsource, henabled, hsync, expected_of_slotDue hdue, hfresh⟩
    simp only [machine, step, htick, Option.some.injEq] at hstep
    subst hstep
    exact startedSince_run hrun hundisturbed hend hstart (Nat.le_refl _) (.inr ⟨_, _, rfl, heligible⟩)
  · intro entries others source now hentry hother
    rw [mem_tick_eligible_iff, mem_tick_eligible_iff]
    simp only [hentry, hother]

/-- A Proxmox source whose scheduling is still switched off. -/
def pveSource : SourceRow where
  config :=
    { id := "pve-1", source_instance := "pve-1", source_type := "proxmox", name := "PVE", address := "10.0.0.1",
      enabled := true, sync_enabled := false, sync_interval_seconds := 3600, verify_ssl := true,
      target := ⟨"dc", "server", "proxmox", "generic", "proxmox", "pve", []⟩,
      credentials := ⟨"sync@pve", ⟨"file", "pve-id"⟩, ⟨"file", "pve-secret"⟩⟩ }
  schedule_changed_at := 0

/-- The source is to run every day at six in the evening. -/
def everyEvening : ScheduleRequest where
  source_instance := "pve-1"
  sync_enabled := true
  sync_interval_seconds := 3600
  sync_calendar := some (.obj [("mode", .str "daily"), ("time", .str "18:00"), ("timezone", .str "Europe/Moscow")])
  expected_sync_enabled := false
  expected_sync_interval_seconds := 3600
  expected_sync_calendar := none

def emptyWorld : World where
  clock := 0
  sources := ⟨[], List.nodup_nil⟩
  runs := ⟨[], List.nodup_nil⟩
  tick := .idle

/-- The first evening's run, three days of downtime, and a tick after them. -/
def twoTicks : List Event :=
  [.register pveSource, .update_schedule everyEvening, .wait (19 * 3600000000), .load, .evaluate,
    .start .committed, .finish 1 { status := .SUCCEEDED } .committed, .stop, .wait (3 * 86400000000), .load,
    .evaluate]

theorem schedule_policy_after_downtime :
    ∃ w w', (machine .after 7200).Reachable w ∧ step .after 7200 w (.start .committed) = some w' ∧
      w'.runs.rows.length = 2 ∧ StartsInTime 7200 w w' := by
  have hstates : (((machine .after 7200).run emptyWorld twoTicks).bind
      (fun w => step .after 7200 w (.start .committed))).any (fun w' => w'.runs.rows.length = 2) = true := by
    decide +kernel
  rw [Option.any_eq_true] at hstates
  obtain ⟨w', hbind, hlength⟩ := hstates
  obtain ⟨w, hrun, hstep⟩ := Option.bind_eq_some_iff.mp hbind
  have hinit : Initial emptyWorld := ⟨rfl, rfl, rfl⟩
  have hreachable : (machine .after 7200).Reachable w := (Machine.Reachable.init hinit).run hrun
  exact ⟨w, w', hreachable, hstep, of_decide_eq_true hlength, (schedule_policy hreachable).1 _ w' hstep⟩

/-! ## A tick of the code is a run of the system -/

/-- The run history reads its clock in the order of its calls. -/
def Timed : Nat → List (SourceConfig × Outcome) → Prop
  | _, [] => True
  | clock, (_, o) :: rest => ∃ started finished : Nat, o.run_started = started ∧ o.run_finished = finished ∧
      clock ≤ started ∧ started ≤ finished ∧ Timed finished rest

section

variable {fresh : Table.Fresh} {stale_seconds : Int} {w : World}

/-- The end of an attempt writes to its run at most once. -/
theorem conclude_runs (runs : Table SyncRun) (source : SourceConfig) (o : Outcome) (run_id : Int)
    (executed : scheduled_failure.ExecutionEvidence × Except Raised Returned) :
    (conclude runs source o (some run_id) executed).1 = runs ∨
      ∃ f, (conclude runs source o (some run_id) executed).1 =
        (finish_run runs o.finish run_id o.run_finished f).1 := by
  have hfinalize : ∀ f, (finalize runs (some run_id) o f).1 = runs ∨
      ∃ finished, (finalize runs (some run_id) o f).1 =
        (finish_run runs o.finish run_id o.run_finished finished).1 := by
    intro f
    cases f with
    | none => exact .inl rfl
    | some f =>
      right
      refine ⟨f, ?_⟩
      unfold finalize
      dsimp only
      rcases finish_run runs o.finish run_id o.run_finished f with ⟨finished, _ | ⟨⟩⟩
      · next fault => cases fault <;> rfl
      · rfl
  unfold conclude
  dsimp only
  split
  · exact hfinalize _
  · split
    · exact hfinalize _
    · exact .inl rfl

/-- One `_run_source` opens the run of the next source and may finish it. -/
theorem run_source_reaches {now : Nat} {source : CompleteSourceConfig} {queue : List CompleteSourceConfig}
    (htick : w.tick = .running now (source :: queue)) {o : Outcome} {started finished : Nat}
    (hstarted : o.run_started = started) (hfinished : o.run_finished = finished) (hclock : w.clock ≤ started)
    (hle : started ≤ finished) :
    ∃ events, (machine fresh stale_seconds).run w events = some
      { w with
        clock := finished
        runs := (run_source fresh true w.runs source.toSourceConfig o).1
        tick := .running now queue } := by
  let opened := (start_run w.runs o.start (fresh.next w.runs.ids) started source.source_instance
    source.source_type .SCHEDULED "system/scheduler").1
  have hopen : (machine fresh stale_seconds).run w [.wait (started - w.clock), .start o.start] =
      some { w with clock := started, runs := opened, tick := .running now queue } := by
    simp only [Machine.run, machine, step, htick, Option.bind_some, Nat.add_sub_cancel' hclock]
    rfl
  have hwait : ∀ runs : Table SyncRun, (machine fresh stale_seconds).run
      { w with clock := started, runs := runs, tick := .running now queue } [.wait (finished - started)] =
      some { w with clock := finished, runs := runs, tick := .running now queue } := by
    intro runs
    simp only [Machine.run, machine, step, Option.bind_some, Nat.add_sub_cancel' hle]
  have hruns : (run_source fresh true w.runs source.toSourceConfig o).1 = opened ∨
      ∃ run_id f, (run_source fresh true w.runs source.toSourceConfig o).1 =
        (finish_run opened o.finish run_id finished f).1 := by
    simp only [run_source, if_true, opened]
    rw [hstarted]
    rcases start_run w.runs o.start (fresh.next w.runs.ids) started source.source_instance
      source.source_type .SCHEDULED "system/scheduler" with ⟨runs, ⟨_ | _⟩ | run_id⟩
    · exact .inl rfl
    · exact .inl rfl
    · rcases conclude_runs runs source.toSourceConfig o run_id (execute true o) with hsame | ⟨f, hfinish⟩
      · exact .inl hsame
      · rw [hfinished] at hfinish
        exact .inr ⟨run_id, f, hfinish⟩
  rcases hruns with hsame | ⟨run_id, f, hfinish⟩
  · rw [hsame]
    exact ⟨_, Machine.run_append hopen (hwait opened)⟩
  · have hlast : (machine fresh stale_seconds).run
        { w with clock := finished, runs := opened, tick := .running now queue }
        [.finish run_id f o.finish] =
        some { w with clock := finished, runs := (run_source fresh true w.runs source.toSourceConfig o).1,
                      tick := .running now queue } := by
      rw [hfinish]
      rfl
    exact ⟨_, Machine.run_append hopen (Machine.run_append (hwait opened) hlast)⟩

theorem run_loop_reaches (outcome : CompleteSourceConfig → Outcome) {now : Nat}
    {queue : List CompleteSourceConfig} (htick : w.tick = .running now queue)
    (htimed : Timed w.clock (queue.map (fun source => (source.toSourceConfig, outcome source)))) :
    ∃ events w', (machine fresh stale_seconds).run w events = some w' ∧
      w'.runs = (run_loop fresh true w.runs
        (queue.map (fun source => (source.toSourceConfig, outcome source)))).1 := by
  induction queue generalizing w with
  | nil => exact ⟨[], w, rfl, rfl⟩
  | cons source queue ih =>
    obtain ⟨started, finished, hstarted, hfinished, hclock, hle, hrest⟩ := htimed
    obtain ⟨events, hrun⟩ := run_source_reaches htick hstarted hfinished hclock hle
    rw [List.map_cons, run_loop]
    cases hattempt : run_source fresh true w.runs source.toSourceConfig (outcome source) with
    | mk runs attempt =>
      rw [hattempt] at hrun
      dsimp only
      split
      · obtain ⟨more, w', hmore, hruns⟩ := @ih { w with
          clock := finished
          runs := runs
          tick := .running now queue } rfl hrest
        exact ⟨_, w', Machine.run_append hrun hmore, hruns⟩
      · exact ⟨events, _, hrun, rfl⟩

/-- What `run_scheduler_tick` leaves in the history is reached by the steps of a tick. -/
theorem run_scheduler_tick_reaches (outcome : CompleteSourceConfig → Outcome) (hidle : w.tick = .idle)
    (htimed : Timed w.clock ((tick_decisions w.sources.entries w.runs w.clock stale_seconds).2.map
      (fun source => (source.toSourceConfig, outcome source)))) :
    ∃ events w', (machine fresh stale_seconds).run w (.load :: .evaluate :: events) = some w' ∧
      w'.runs = (run_scheduler_tick fresh w.sources.entries outcome w.runs w.clock stale_seconds true).2.1 := by
  let queue := (tick_decisions w.sources.entries w.runs w.clock stale_seconds).2
  have hsorted : by_id (queue.map (fun source => (source.toSourceConfig, outcome source))) =
      queue.map (fun source => (source.toSourceConfig, outcome source)) := by
    apply sorted_eq_self
    rw [List.pairwise_map]
    have heq : queue = (evaluate_sources (run_of (latest_by_source w.runs (some .SCHEDULED) none))
        (run_of (latest_by_source w.runs (some .SCHEDULED) (some .RUNNING))) w.clock stale_seconds
        (tick_configs w.sources.entries)).2 := rfl
    rw [heq, evaluate_sources_eligible]
    exact (sorted_pairwise _ _).sublist List.filter_sublist
  obtain ⟨events, w', hrun, hruns⟩ := @run_loop_reaches fresh stale_seconds
    { w with tick := .running w.clock queue } outcome w.clock queue rfl htimed
  refine ⟨events, w', ?_, ?_⟩
  · simp only [Machine.run, machine, step, hidle, Option.bind_some]
    exact hrun
  · rw [hruns]
    simp only [run_scheduler_tick, run_sources, if_true, queue, hsorted]

end

/-- The first evening of the source. -/
def firstEvening : World :=
  { emptyWorld with
    clock := 19 * 3600000000
    sources := update_schedule (emptyWorld.sources.register pveSource) 0 everyEvening }

theorem run_scheduler_tick_reaches_evening : firstEvening.tick = .idle ∧ ∃ events w',
    (machine .after 7200).run firstEvening (.load :: .evaluate :: events) = some w' ∧
      w'.runs.rows.map SyncRun.status = [.SUCCEEDED] := by
  let outcome : Outcome := { run_started := firstEvening.clock, run_finished := firstEvening.clock }
  have htimed : ∀ queue : List CompleteSourceConfig, Timed firstEvening.clock
      (queue.map (fun source => (source.toSourceConfig, outcome))) := by
    intro queue
    induction queue with
    | nil => trivial
    | cons source queue ih => exact ⟨_, _, rfl, rfl, Nat.le_refl _, Nat.le_refl _, ih⟩
  obtain ⟨events, w', hrun, hruns⟩ := @run_scheduler_tick_reaches .after 7200 firstEvening (fun _ => outcome) rfl
    (htimed _)
  refine ⟨rfl, events, w', hrun, ?_⟩
  rw [hruns]
  decide +kernel

end netbox_sync.scheduler_runtime
