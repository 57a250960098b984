import NetboxSync.Runs.Reconciliation

open json

namespace netbox_sync.run_reconciliation

open run_history source_operations

variable {sha256 : String → String} {isoformat : Int → String}

/-- The facts about one task that hold while it has passed a check. -/
structure Task.Sound (sha256 : String → String) (isoformat : Int → String) (s : State) (task : Task) : Prop where
  unblocked : task.alive = true → task.point = .checked →
    reconciliation_required s.runs s.decisions task.source = false
  unscheduled : task.alive = true → task.point = .checked → task.kind = .writer .SCHEDULED →
    recovery_schedule_blocks s.runs s.decisions task.source = false
  accepted : ∀ operation_id actor_id digest, task.kind = .confirm operation_id actor_id digest →
    task.point = .accepted ∨ task.point = .opened →
      fingerprint sha256 task.fields = digest ∧ dict.get task.fields "runs" = some (listing isoformat task.runs)

structure Inv (sha256 : String → String) (isoformat : Int → String) (s : State) : Prop where
  sound : ∀ task ∈ s.tasks, task.Sound sha256 isoformat s
  exclusive : ∀ (i j : Nat) (a b : Task), i ≠ j → s.tasks[i]? = some a → s.tasks[j]? = some b →
    a.holds_flock = true → b.holds_flock = false

/-- A point that asks nothing of its task. -/
def Point.plain (point : Point) : Bool := point ≠ .checked && point ≠ .accepted && point ≠ .opened

variable {s s' : State} {i : Nat} {a : Task} {runs : Table SyncRun} {source : String} {action : Action} {run : SyncRun}

theorem Task.sound_plain {task : Task} (h : task.point.plain = true) : task.Sound sha256 isoformat s := by
  simp only [Point.plain, Bool.and_eq_true, decide_eq_true_eq] at h
  obtain ⟨⟨hchecked, haccepted⟩, hopened⟩ := h
  exact {
    unblocked := fun _ hpoint => absurd hpoint hchecked
    unscheduled := fun _ hpoint => absurd hpoint hchecked
    accepted := fun _ _ _ _ hpoint => absurd hpoint (not_or.mpr ⟨haccepted, hopened⟩) }

theorem Inv.put (h : Inv sha256 isoformat s) {b : Task} (hget : s.tasks[i]? = some a)
    (hsound : b.Sound sha256 isoformat s) (hflock : b.holds_flock = true → a.holds_flock = true ∨ s.flock_free = true) :
    Inv sha256 isoformat (s.put i b) := by
  have hexclusive : ∀ j x, j ≠ i → s.tasks[j]? = some x → b.holds_flock = true → x.holds_flock = false := by
    intro j x hji hx hb
    rcases hflock hb with ha | hfree
    · exact h.exclusive i j a x (Ne.symm hji) hget hx ha
    · simpa using List.all_eq_true.mp hfree x (List.mem_of_getElem? hx)
  constructor
  · intro task htask
    rcases List.mem_or_eq_of_mem_set htask with htask | rfl
    · exact { h.sound task htask with }
    · exact { hsound with }
  · intro j k x y hjk hx hy hxlock
    have hi : i < s.tasks.length := (List.getElem?_eq_some_iff.mp hget).1
    simp only [State.put, List.getElem?_set, hi, if_true] at hx hy
    split at hx
    next hj =>
      cases hx
      rw [if_neg (hj ▸ hjk)] at hy
      exact hexclusive k y (hj ▸ Ne.symm hjk) hy hxlock
    next hj =>
      split at hy
      next hk =>
        cases hy
        by_contra hylock
        rw [Bool.not_eq_false] at hylock
        rw [hexclusive j x (Ne.symm hj) hx hylock] at hxlock
        cases hxlock
      next => exact h.exclusive j k x y hjk hx hy hxlock

/-- A change of the history that blocks no task past its check. -/
theorem Inv.history (h : Inv sha256 isoformat s)
    (hrequired : ∀ task ∈ s.tasks, task.alive = true → task.point = .checked →
      ∀ run ∈ runs.rows, run.source_instance = task.source → unresolved run.status = true → run ∈ s.runs.rows)
    (hterminal : ∀ run ∈ s.runs.rows, run.status ≠ .RUNNING → run ∈ runs.rows) :
    Inv sha256 isoformat { s with runs } := by
  refine ⟨fun task htask => ?_, h.exclusive⟩
  have hsound := h.sound task htask
  refine { hsound with unblocked := ?_, unscheduled := ?_ }
  · intro halive hpoint
    have hfalse := hsound.unblocked halive hpoint
    rw [reconciliation_required_eq_false] at hfalse ⊢
    intro run hrun hsource hstatus
    exact hfalse run (hrequired task htask halive hpoint run hrun hsource hstatus) hsource hstatus
  · intro halive hpoint hkind
    have hfalse := hsound.unscheduled halive hpoint hkind
    rw [recovery_schedule_blocks_eq_false] at hfalse ⊢
    intro a ha hsource hvalid
    obtain ⟨run, hrun, hmatch⟩ := List.any_eq_true.mp (hfalse a ha hsource hvalid)
    refine List.any_eq_true.mpr ⟨run, hterminal run hrun ?_, hmatch⟩
    simp only [Bool.and_eq_true, decide_eq_true_eq] at hmatch
    simp [hmatch.1.2]

theorem inv_init (h : (machine sha256 isoformat).init s) : Inv sha256 isoformat s := by
  constructor <;> simp [show s.tasks = [] from h]

/-- No outcome is recorded as uncertain while another writer of the source stands between its check and its write
    phase. -/
def prompt (s : State) : Action → Prop
  | .finish i _ f => ∀ task run_id run, s.tasks[i]? = some task → task.run_id = some run_id →
    s.runs.get run_id = some run → unresolved f.status = true →
      ∀ other ∈ s.tasks, other.alive = true → other.point = .checked → other.source ≠ run.source_instance
  | _ => True

section

variable (h : Inv sha256 isoformat s)
include h

theorem inv_new (kind : Kind) (source : String) :
    Inv sha256 isoformat { s with tasks := s.tasks ++ [{ kind, source }] } := by
  constructor
  · intro task htask
    rcases List.mem_append.mp htask with htask | htask
    · exact { h.sound task htask with }
    · cases List.mem_singleton.mp htask
      exact Task.sound_plain rfl
  · intro i j a b hij ha hb
    rcases List.getElem?_concat_eq_some ha with ha | ⟨_, rfl⟩
    · rcases List.getElem?_concat_eq_some hb with hb | ⟨_, rfl⟩
      · exact h.exclusive i j a b hij ha hb
      · exact fun _ => rfl
    · intro hlock
      cases hlock

/-- A task goes to a point that asks nothing of it and takes no lock. -/
theorem Inv.move {b : Task} (hget : s.tasks[i]? = some a) (hplain : b.point.plain = true)
    (hflock : b.holds_flock = true → a.holds_flock = true) : Inv sha256 isoformat (s.put i b) :=
  h.put hget (Task.sound_plain hplain) (fun hb => .inl (hflock hb))

/-- A new run blocks nobody. -/
theorem Inv.start_run {commit : Commit} {run_id started : Int} {source_type created_by : String} {trigger : RunTrigger}
    {outcome : Except Fault Int}
    (hstart : run_history.start_run s.runs commit run_id started source source_type trigger
      created_by = (runs, outcome)) : Inv sha256 isoformat { s with runs } := by
  refine h.history ?_ ?_
  · intro task _ _ _ run hrun _ hstatus
    rcases mem_start_run hstart hrun with hrun | hrunning
    · exact hrun
    · rw [hrunning] at hstatus
      cases hstatus
  · intro run hrun _
    have hget := start_run_keeps hstart (Table.get_of_mem hrun)
    exact (Table.mem_of_get hget).1

/-- An outcome that is recorded promptly blocks nobody past its check. -/
theorem Inv.finish_run {commit : Commit} {run_id : Int} {f : Finish}
    (hprompt : ∀ run, s.runs.get run_id = some run → unresolved f.status = true →
      ∀ other ∈ s.tasks, other.alive = true → other.point = .checked → other.source ≠ run.source_instance) :
    Inv sha256 isoformat { s with runs := (run_history.finish_run s.runs commit run_id s.clock f).1 } := by
  refine h.history ?_ (fun run hrun hstatus => mem_finish_run_of_terminal hrun hstatus)
  intro task htask halive hpoint run hrun hsource hstatus
  rcases mem_finish_run hrun with hrun | ⟨before, hget, hfinal, hsame⟩
  · exact hrun
  · rw [hfinal] at hstatus
    exact absurd (by rw [← hsource, hsame]) (hprompt before hget hstatus task htask halive hpoint)

end

/-- A writer that passes its check: for a tick, the blocks of the schedule are part of it. -/
theorem sound_check {required : Bool}
    (hruns : required = false → reconciliation_required s.runs s.decisions a.source = false)
    (hschedule : required = false → a.kind = .writer .SCHEDULED →
      recovery_schedule_blocks s.runs s.decisions a.source = false) :
    ({ a with point := if required = true then .leaving else .checked } : Task).Sound sha256 isoformat s := by
  cases required with
  | true => exact Task.sound_plain rfl
  | false => exact ⟨fun _ _ => hruns rfl, fun _ _ hkind => hschedule rfl hkind, by simp⟩

theorem inv_writer (h : Inv sha256 isoformat s) {trigger : RunTrigger} (hget : s.tasks[i]? = some a)
    (halive : a.alive = true) (hkind : a.kind = .writer trigger)
    (hprompt : ∀ commit f, action = .finish i commit f → prompt s action) (hi : action.task = some i)
    (hstep : step_writer s i a trigger action = some s') : Inv sha256 isoformat s' := by
  cases action with
  | start_run j source source_type created_by run_id started commit =>
    simp only [step_writer, Option.ite_none_right_eq_some] at hstep
    obtain ⟨⟨hpoint, _⟩, hstep⟩ := hstep
    have hplain : a.point.plain = true := by
      rw [hpoint]
      split <;> rfl
    split at hstep
    next runs id hstart =>
      cases hstep
      exact (h.start_run hstart).move hget hplain (fun hlock => hlock)
    next runs fault hstart =>
      cases hstep
      refine (h.start_run hstart).move hget ?_ ?_
      · split <;> rfl
      · intro hlock
        cases trigger with
        | MANUAL => simp [Task.holds_flock] at hlock
        | SCHEDULED => simpa [Task.holds_flock, hpoint] using hlock
  | flock j =>
    simp only [step_writer, Option.ite_none_right_eq_some] at hstep
    obtain ⟨_, hstep⟩ := hstep
    cases hstep
    split
    next hfree => exact h.put hget (Task.sound_plain rfl) (fun _ => .inr hfree)
    next =>
      refine h.move hget ?_ ?_
      · split <;> rfl
      · intro hlock
        split at hlock <;> simp [Task.holds_flock] at hlock
  | check j =>
    simp only [step_writer, Option.ite_none_right_eq_some] at hstep
    obtain ⟨⟨hpoint, _⟩, hstep⟩ := hstep
    cases hstep
    have hlock : a.holds_flock = true := by simp [Task.holds_flock, halive, hpoint]
    refine h.put hget ?_ (fun _ => .inl hlock)
    apply sound_check
    · intro hpass
      cases trigger with
      | MANUAL => exact hpass
      | SCHEDULED => exact (Bool.or_eq_false_iff.mp hpass).1
    · intro hpass hscheduled
      rw [hkind] at hscheduled
      cases hscheduled
      exact (Bool.or_eq_false_iff.mp hpass).2
  | write j =>
    simp only [step_writer, Option.ite_none_right_eq_some] at hstep
    obtain ⟨hpoint, hstep⟩ := hstep
    cases hstep
    exact h.move hget rfl (fun _ => by simp [Task.holds_flock, halive, hpoint])
  | stop j =>
    simp only [step_writer, Option.ite_none_right_eq_some] at hstep
    obtain ⟨_, hstep⟩ := hstep
    split at hstep
    next =>
      cases hstep
      exact h.move hget rfl (by simp [Task.holds_flock])
    next hpoint =>
      cases hstep
      exact h.move hget rfl (fun _ => by simp [Task.holds_flock, halive, hpoint])
    next hpoint =>
      cases hstep
      exact h.move hget rfl (fun _ => by simp [Task.holds_flock, halive, hpoint])
    next hpoint =>
      cases hstep
      exact h.move hget rfl (fun _ => by simp [Task.holds_flock, halive, hpoint])
    next => cases hstep
  | unlock j =>
    cases trigger with
    | MANUAL =>
      simp only [step_writer, Option.ite_none_right_eq_some] at hstep
      obtain ⟨_, hstep⟩ := hstep
      cases hstep
      exact h.move hget rfl (by simp [Task.holds_flock])
    | SCHEDULED =>
      simp only [step_writer, Option.ite_none_right_eq_some] at hstep
      obtain ⟨_, hstep⟩ := hstep
      cases hstep
      exact h.move hget rfl (by simp [Task.holds_flock])
  | finish j commit f =>
    cases hi
    simp only [step_writer] at hstep
    split at hstep
    next => cases hstep
    next run_id hrun =>
      rw [Option.ite_none_right_eq_some] at hstep
      obtain ⟨hpoint, hstep⟩ := hstep
      cases hstep
      have hfinished : Inv sha256 isoformat
          { s with runs := (run_history.finish_run s.runs commit run_id s.clock f).1 } :=
        h.finish_run (fun run hget' hstatus => hprompt commit f rfl a run_id run hget hrun hget' hstatus)
      refine hfinished.move hget ?_ ?_
      · split <;> rfl
      · intro hlock
        cases trigger with
        | MANUAL => simp [Task.holds_flock] at hlock
        | SCHEDULED => simp [Task.holds_flock, halive, hpoint]
  | _ => cases hstep

theorem dict_get_review_runs {revision : String} {runs : List SyncRun} {decisions guard_instance inventory : Value} :
    dict.get (review_fields isoformat source revision runs decisions guard_instance inventory) "runs" =
      some (listing isoformat runs) := rfl

section

variable (h : Inv sha256 isoformat s)
include h

/-- New decisions block no task but one that has the apply lock to itself. -/
theorem Inv.decide (hget : s.tasks[i]? = some a) (hlock : a.holds_flock = true) (hpoint : a.point ≠ .checked)
    {sources : String → Option Fields} {slots : Slots} {decisions : List Reconciliation} :
    Inv sha256 isoformat { s with sources, slots, decisions := s.decisions ++ decisions } := by
  refine ⟨fun task htask => ?_, h.exclusive⟩
  have hsound := h.sound task htask
  refine { hsound with unblocked := ?_, unscheduled := ?_ }
  · intro halive hchecked
    have hfalse := hsound.unblocked halive hchecked
    rw [reconciliation_required_eq_false] at hfalse ⊢
    intro run hrun hsource hstatus
    obtain ⟨d, hd, hresolves⟩ := hfalse run hrun hsource hstatus
    exact ⟨d, List.mem_append_left _ hd, hresolves⟩
  · intro halive hchecked _
    obtain ⟨j, hj⟩ := List.mem_iff_getElem?.mp htask
    -- A tick past its check would hold the apply lock, too.
    have hother : task.holds_flock = true := by simp [Task.holds_flock, halive, hchecked]
    by_cases hij : i = j
    · subst hij
      rw [hget] at hj
      cases hj
      exact absurd hchecked hpoint
    · rw [h.exclusive i j a task hij hget hj hlock] at hother
      cases hother

theorem inv_confirm {operation_id : Nat} {actor_id digest : String} (hget : s.tasks[i]? = some a)
    (halive : a.alive = true) (hkind : a.kind = .confirm operation_id actor_id digest)
    (hstep : step_confirm sha256 isoformat s i a operation_id actor_id digest action = some s') :
    Inv sha256 isoformat s' := by
  cases action <;> simp only [step_confirm, Option.ite_none_right_eq_some, reduceCtorEq] at hstep
  case flock j =>
    obtain ⟨⟨_, hfree⟩, hstep⟩ := hstep
    cases hstep
    exact h.put hget (Task.sound_plain rfl) (fun _ => .inr hfree)
  case lookup j =>
    obtain ⟨hpoint, hstep⟩ := hstep
    cases hstep
    refine h.move hget ?_ (fun _ => by simp [Task.holds_flock, halive, hpoint])
    split <;> rfl
  case review j decisions =>
    obtain ⟨hpoint, hstep⟩ := hstep
    split at hstep
    · cases hstep
      exact h.move hget rfl (fun _ => by simp [Task.holds_flock, halive, hpoint])
    · cases hstep
      exact h.move hget rfl (fun _ => by simp [Task.holds_flock, halive, hpoint])
  case audit j guard_instance inventory =>
    obtain ⟨hpoint, hstep⟩ := hstep
    cases hstep
    refine h.put hget ?_ (fun _ => .inl (by simp [Task.holds_flock, halive, hpoint]))
    split
    next haccepted =>
      refine ⟨by simp, by simp, ?_⟩
      intro operation_id' actor_id' digest' hkind' _
      rw [show a.kind = .confirm operation_id' actor_id' digest' from hkind'] at hkind
      cases hkind
      exact ⟨haccepted.1, dict_get_review_runs⟩
    next => exact Task.sound_plain rfl
  case begin j =>
    obtain ⟨hpoint, hstep⟩ := hstep
    cases hstep
    refine h.put hget ?_ (fun _ => .inl (by simp [Task.holds_flock, halive, hpoint]))
    have hsound := h.sound a (List.mem_of_getElem? hget)
    exact ⟨by simp, by simp, fun operation_id' actor_id' digest' hkind' _ =>
      hsound.accepted operation_id' actor_id' digest' hkind' (.inl hpoint)⟩
  case commit j =>
    obtain ⟨hpoint, hstep⟩ := hstep
    have hlock : a.holds_flock = true := by simp [Task.holds_flock, halive, hpoint]
    split at hstep
    · cases hstep
      exact h.move hget rfl (fun _ => hlock)
    · split at hstep
      · cases hstep
        exact (h.decide hget hlock (by simp [hpoint])).move hget rfl (fun _ => hlock)
      · cases hstep
        exact h.move hget rfl (fun _ => hlock)
  case stop j =>
    obtain ⟨hlock, hstep⟩ := hstep
    cases hstep
    exact h.move hget rfl (fun _ => hlock)
  case unlock j =>
    obtain ⟨hpoint, hstep⟩ := hstep
    cases hstep
    exact h.move hget rfl (by simp [Task.holds_flock])

theorem Inv.edit {clock : Int} {sources : String → Option Fields} {slots : Slots} :
    Inv sha256 isoformat { s with clock, sources, slots } :=
  ⟨fun task htask => { h.sound task htask with }, h.exclusive⟩

/-- A process that ends holds no lock and writes nothing. -/
theorem inv_crash (hget : s.tasks[i]? = some a) : Inv sha256 isoformat (s.put i { a with alive := false }) := by
  have hsound := h.sound a (List.mem_of_getElem? hget)
  refine h.put hget ⟨nofun, nofun, hsound.accepted⟩ ?_
  intro hlock
  simp [Task.holds_flock] at hlock

theorem inv_step (hprompt : prompt s action) (hstep : step sha256 isoformat s action = some s') :
    Inv sha256 isoformat s' := by
  cases action with
  | tick elapsed =>
    cases hstep
    exact h.edit
  | edit source row =>
    cases hstep
    exact h.edit
  | operate slots =>
    cases hstep
    exact h.edit
  | writer trigger source =>
    cases hstep
    exact inv_new h (.writer trigger) source
  | confirm source operation_id actor_id digest =>
    cases hstep
    exact inv_new h (.confirm operation_id actor_id digest) source
  | crash i =>
    obtain ⟨a, hget, rfl⟩ := Option.map_eq_some_iff.mp hstep
    exact inv_crash h hget
  | start_run i | flock i | check i | write i | stop i | unlock i
  | finish i | lookup i | review i | audit i | begin i | commit i =>
    -- The actions of a task are those of its kind.
    obtain ⟨a, hget, hstep⟩ := Option.bind_eq_some_iff.mp hstep
    rw [Option.ite_none_right_eq_some] at hstep
    obtain ⟨halive, hstep⟩ := hstep
    split at hstep
    next trigger hkind => exact inv_writer h hget halive hkind (fun _ _ _ => hprompt) rfl hstep
    next operation_id actor_id digest hkind => exact inv_confirm h hget halive hkind hstep

end

theorem inv_reachable (h : (machine sha256 isoformat).ReachableIf prompt s) : Inv sha256 isoformat s :=
  h.invariant (fun _ => inv_init) (fun _ _ _ hinv hprompt hstep => inv_step hinv hprompt hstep)

/-- The dictionary lists the run, up to the order of the entry's keys. -/
def Listed (isoformat : Int → String) (fields : Fields) (run : SyncRun) : Prop :=
  ∃ items, dict.get fields "runs" = some (.arr items) ∧
    ∃ item ∈ items, item.sort_keys = (Value.obj (summary isoformat run)).sort_keys

/-- The digest of a dictionary settles which runs the dictionary lists. -/
theorem Listed.of_fingerprint (hsha : Function.Injective sha256) {fields reviewed : Fields}
    (h : Listed isoformat fields run) (hdigest : fingerprint sha256 reviewed = fingerprint sha256 fields) :
    Listed isoformat reviewed run := by
  obtain ⟨items, hruns, item, hitem, hentry⟩ := h
  have hsame := get_of_sort_keys_eq ((dumps_sorted_inj .compact).mp (hsha hdigest)) "runs"
  rw [hruns] at hsame
  obtain ⟨value, hget, hvalue⟩ := Option.map_eq_some_iff.mp hsame
  rw [Value.sort_keys_arr] at hvalue
  cases value with
  | arr reviewed_items =>
    rw [Value.sort_keys_arr, Value.arr.injEq] at hvalue
    have hmem := List.mem_map_of_mem (f := Value.sort_keys) hitem
    rw [← hvalue] at hmem
    obtain ⟨reviewed_item, hreviewed, hsorted⟩ := List.mem_map.mp hmem
    exact ⟨reviewed_items, hget, reviewed_item, hreviewed, hsorted.trans hentry⟩
  | obj fields =>
    rw [Value.sort_keys_obj] at hvalue
    cases hvalue
  | _ => cases hvalue

/-- A run that no longer blocks was accepted by one of the new decisions. -/
theorem mem_of_cleared {before : List Reconciliation} {accepted : List SyncRun} {task : Task} {operation_id : Nat}
    {actor_id digest : String} (haccepted : ∀ r ∈ accepted, r ∈ runs.rows) (hrun : run ∈ blocking_sync_runs runs before)
    (hcleared : run ∉ blocking_sync_runs runs (before ++ accepted.filterMap
      (accepted_run task operation_id actor_id digest))) : run ∈ accepted := by
  obtain ⟨hmem, hopen⟩ := List.mem_filter.mp hrun
  rw [blocking_sync_runs, List.mem_filter, not_and, Bool.not_eq_true, Bool.not_eq_false',
    List.any_append, Bool.or_eq_true] at hcleared
  rcases hcleared hmem with hold | hnew
  · rw [hold] at hopen
    cases hopen
  · obtain ⟨d, hd, hresolves⟩ := List.any_eq_true.mp hnew
    obtain ⟨other, hother, hd⟩ := List.mem_filterMap.mp hd
    obtain ⟨finished_at, _, rfl⟩ := Option.map_eq_some_iff.mp hd
    simp only [Reconciliation.resolves, Bool.and_eq_true, decide_eq_true_eq] at hresolves
    -- A run of the history is told by its id.
    have hsame : other = run := Table.eq_of_id (haccepted other hother) hmem hresolves.1.1.1.1
    rwa [← hsame]

theorem mem_local {row : Fields} {runs : List SyncRun} (h : _local s source = some (row, runs))
    (hrun : run ∈ runs) : run ∈ s.runs.rows := by
  unfold _local at h
  split at h
  · cases h
  · dsimp only at h
    split at h
    · cases h
    · split at h
      · cases h
      · split at h
        · cases h
        · cases h
          have hfiltered := sorting.mem_sorted.mp (List.mem_of_mem_take hrun)
          exact List.mem_of_mem_filter (List.mem_of_mem_filter hfiltered)

/-- A write phase starts under the invariant of its check. -/
theorem Inv.write (h : Inv sha256 isoformat s) (hstep : step sha256 isoformat s (.write i) = some s') :
    ∃ task, s.tasks[i]? = some task ∧
      reconciliation_required s.runs s.decisions task.source = false ∧
      (task.kind = .writer .SCHEDULED → recovery_schedule_blocks s.runs s.decisions task.source = false) := by
  obtain ⟨task, hget, hstep⟩ := Option.bind_eq_some_iff.mp hstep
  rw [Option.ite_none_right_eq_some] at hstep
  obtain ⟨halive, hstep⟩ := hstep
  have hsound := h.sound task (List.mem_of_getElem? hget)
  split at hstep
  · simp only [step_writer, Option.ite_none_right_eq_some] at hstep
    exact ⟨task, hget, hsound.unblocked halive hstep.1, hsound.unscheduled halive hstep.1⟩
  · cases hstep

/-- A confirmation clears runs of the dictionary whose digest it was given. -/
theorem Inv.commit (h : Inv sha256 isoformat s) (hstep : step sha256 isoformat s (.commit i) = some s') :
    ∃ task operation_id actor_id digest, s.tasks[i]? = some task ∧
      task.kind = .confirm operation_id actor_id digest ∧ fingerprint sha256 task.fields = digest ∧
      ∀ run ∈ blocking_sync_runs s.runs s.decisions, run ∉ blocking_sync_runs s'.runs s'.decisions →
        Listed isoformat task.fields run := by
  obtain ⟨task, hget, hstep⟩ := Option.bind_eq_some_iff.mp hstep
  rw [Option.ite_none_right_eq_some] at hstep
  obtain ⟨_, hstep⟩ := hstep
  split at hstep
  · cases hstep
  next operation_id actor_id digest hkind =>
    simp only [step_confirm, Option.ite_none_right_eq_some] at hstep
    obtain ⟨hpoint, hstep⟩ := hstep
    obtain ⟨hdigest, hruns⟩ := (h.sound task (List.mem_of_getElem? hget)).accepted _ _ _ hkind (.inr hpoint)
    refine ⟨task, operation_id, actor_id, digest, hget, hkind, hdigest, fun run hrun hcleared => ?_⟩
    split at hstep
    · cases hstep
      exact absurd hrun hcleared
    next row runs hlocal =>
      split at hstep
      next hsame =>
        cases hstep
        have hmem := mem_of_cleared (fun r => mem_local hlocal) hrun hcleared
        have hlisting := hsame.2.1
        rw [listing, listing, Value.arr.injEq] at hlisting
        exact ⟨_, hruns, _, hlisting ▸ List.mem_map_of_mem hmem, rfl⟩
      next =>
        cases hstep
        exact absurd hrun hcleared

/-- An uncertain run of the past. -/
def uncertain_history : Table SyncRun :=
  ⟨[{ run_id := 1, source_instance := "esxi-a", source_type := "esxi", trigger := .MANUAL, started_at := 0,
      finished_at := some 5, status := .OUTCOME_UNCERTAIN, created_by := "admin" }], by decide⟩

/-- The baseline is confirmed, a manual run follows and succeeds, and a tick passes its check. Every text has the same
    digest here. -/
def baseline_run : List Action :=
  [.tick 10, .edit "esxi-a" (some [("sync_enabled", .bool true)]), .confirm "esxi-a" 7 "admin" "", .flock 0,
    .lookup 0, .review 0 (.arr []), .audit 0 .null .null, .begin 0, .commit 0, .unlock 0, .tick 1,
    .writer .MANUAL "esxi-a", .start_run 1 "esxi-a" "esxi" "admin" 2 11 .committed, .flock 1, .check 1, .write 1,
    .stop 1, .unlock 1,
    .finish 1 .committed { status := .SUCCEEDED }, .tick 1,
    .writer .SCHEDULED "esxi-a", .flock 2, .start_run 2 "esxi-a" "esxi" "scheduler" 3 12 .committed, .check 2]

theorem prompt_of_resolved (h : ∀ i commit f, action = .finish i commit f → unresolved f.status = false) (s : State) :
    prompt s action := by
  cases action with
  | finish i commit f =>
    intro task run_id run _ _ _ hstatus
    rw [h i commit f rfl] at hstatus
    cases hstatus
  | _ => trivial

/-- A manual apply that writes, gives the lock back and then records that its outcome is uncertain, after a tick has
    passed its check. -/
def late_outcome : List Action :=
  [.writer .MANUAL "esxi-a", .start_run 0 "esxi-a" "esxi" "admin" 1 0 .committed, .flock 0, .check 0, .write 0,
    .tick 1, .stop 0, .unlock 0, .writer .SCHEDULED "esxi-a", .flock 1,
    .start_run 1 "esxi-a" "esxi" "scheduler" 2 1 .committed, .check 1,
    .finish 0 .committed
      { status := .OUTCOME_UNCERTAIN, error_code := some "OUTCOME_UNCERTAIN",
        error_message_safe := some "The final NetBox state may be uncertain." }]

/-- No outcome and no decision is lost. -/
def Keeps (s s' : State) : Prop :=
  (∀ run ∈ s.runs.rows, run.status ≠ .RUNNING → run ∈ s'.runs.rows) ∧ s.decisions <+: s'.decisions

theorem keeps_writer {trigger : RunTrigger} (hstep : step_writer s i a trigger action = some s') : Keeps s s' := by
  unfold step_writer at hstep
  split at hstep
  case h_1 =>
    rw [Option.ite_none_right_eq_some] at hstep
    obtain ⟨_, hstep⟩ := hstep
    split at hstep
    all_goals
      next hstart =>
        cases hstep
        exact ⟨fun run hrun _ => (Table.mem_of_get (start_run_keeps hstart (Table.get_of_mem hrun))).1, List.prefix_rfl⟩
  case h_7 =>
    split at hstep
    · cases hstep
    · rw [Option.ite_none_right_eq_some] at hstep
      obtain ⟨_, hstep⟩ := hstep
      cases hstep
      exact ⟨fun run hrun hstatus => mem_finish_run_of_terminal hrun hstatus, List.prefix_rfl⟩
  all_goals
    repeat' split at hstep
    all_goals first
      | cases hstep; exact ⟨fun _ hrun _ => hrun, List.prefix_rfl⟩
      | cases hstep

theorem keeps_confirm {operation_id : Nat} {actor_id digest : String}
    (hstep : step_confirm sha256 isoformat s i a operation_id actor_id digest action = some s') : Keeps s s' := by
  unfold step_confirm at hstep
  repeat' split at hstep
  all_goals first
    | cases hstep; exact ⟨fun _ hrun _ => hrun, List.prefix_append _ _⟩
    | cases hstep; exact ⟨fun _ hrun _ => hrun, List.prefix_rfl⟩
    | cases hstep

theorem keeps_step (hstep : step sha256 isoformat s action = some s') : Keeps s s' := by
  unfold step at hstep
  split at hstep
  case h_6 =>
    obtain ⟨_, _, rfl⟩ := Option.map_eq_some_iff.mp hstep
    exact ⟨fun _ hrun _ => hrun, List.prefix_rfl⟩
  case h_7 =>
    obtain ⟨a, _, hstep⟩ := Option.bind_eq_some_iff.mp hstep
    rw [Option.ite_none_right_eq_some] at hstep
    obtain ⟨_, hstep⟩ := hstep
    split at hstep
    · exact keeps_writer hstep
    · exact keeps_confirm hstep
  all_goals
    cases hstep
    exact ⟨fun _ hrun _ => hrun, List.prefix_rfl⟩

end netbox_sync.run_reconciliation
