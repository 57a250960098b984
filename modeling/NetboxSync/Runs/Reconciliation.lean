import NetboxSync.Operations.Store
import NetboxSync.Runs.Gates

open json

namespace netbox_sync.run_reconciliation

open run_history source_operations

variable (sha256 : String → String)

/-- `netbox_catalog.fingerprint`, and `LifecycleStore.revision` of a row. -/
def fingerprint (fields : Fields) : String := sha256 (dumps_sorted .compact (.obj fields))

def status_text : RunStatus → String
  | .RUNNING => "RUNNING"
  | .SUCCEEDED => "SUCCEEDED"
  | .FAILED_BEFORE_WRITE => "FAILED_BEFORE_WRITE"
  | .PARTIALLY_APPLIED => "PARTIALLY_APPLIED"
  | .OUTCOME_UNCERTAIN => "OUTCOME_UNCERTAIN"
  | .BLOCKED => "BLOCKED"
  | .LOCKED => "LOCKED"
  | .FAILED => "FAILED"

variable (isoformat : Int → String)

/-- A run as the review lists it. -/
def summary (run : SyncRun) : Fields :=
  [("run_id", .str (toString run.run_id)), ("status", .str (status_text run.status)),
    ("finished_at", optional (fun time => .str (isoformat time)) run.finished_at),
    ("plan_digest", optional .str run.plan_digest),
    ("planner_version", optional .str run.planner_version),
    ("error_code", optional .str run.error_code)]

def listing (runs : List SyncRun) : Value := .arr (runs.map (fun run => .obj (summary isoformat run)))

/-- Who takes the apply lock: a manual apply or a scheduler tick, which write, or an administrator who confirms a
    baseline. -/
inductive Kind where
  | writer (trigger : RunTrigger)
  | confirm (operation_id : Nat) (actor_id digest : String)
deriving DecidableEq, Repr

/-- Where a task stands. `checked` is past the gate and before the write phase; the points from `unclaimed` to
    `opened` are those of `confirm`. -/
inductive Point where
  | waiting
  | locked
  | checked
  | writing
  | unclaimed
  | reviewed
  | accepted
  | opened
  | leaving
  | unlocked
  | closed
deriving DecidableEq, Repr

structure Task where
  kind : Kind
  source : String
  point : Point := .waiting
  alive : Bool := true
  /-- The run of a writer that is on record and not finished. -/
  run_id : Option Int := none
  /-- What `_review` has put together. -/
  revision : String := ""
  runs : List SyncRun := []
  decisions : Value := .null
  fields : Fields := []
  created_at : Int := 0

def Task.holds_flock (task : Task) : Bool :=
  task.alive && (task.point = .locked || task.point = .checked || task.point = .writing ||
    task.point = .unclaimed || task.point = .reviewed || task.point = .accepted ||
    task.point = .opened || task.point = .leaving)

structure State where
  clock : Int := 0
  /-- The rows of `sources`, as dictionaries. -/
  sources : String → Option Fields := fun _ => none
  slots : Slots := fun _ _ => none
  runs : Table SyncRun
  decisions : List Reconciliation := []
  tasks : List Task := []

variable (s : State)

def State.flock_free : Bool := s.tasks.all (fun task => !task.holds_flock)

/-- The runs `_local` selects, `ORDER BY run_id LIMIT 101`. -/
def uncertain_runs (source : String) : List SyncRun :=
  (sorting.sorted SyncRun.run_id ((blocking_sync_runs s.runs s.decisions).filter
    (fun run => run.source_instance = source && unresolved run.status))).take 101

/-- `RunReconciliation._local`: the source's row and its unresolved runs, where nothing of the source is running. -/
def _local (source : String) : Option (Fields × List SyncRun) :=
  match s.sources source with
  | none => none
  | some row =>
    let running (kind : OperationKind) := (s.slots source kind).any (fun slot => slot.status = .RUNNING)
    if s.runs.rows.any (fun run => run.source_instance = source && run.status = .RUNNING) then none
    else if running .PLAN || running .DISCOVERY then none
    else
      let runs := uncertain_runs s source
      if 100 < runs.length || runs.any (fun run => run.finished_at = none) then none
      else some (row, runs)

/-- The dictionary `_review` takes the digest of. -/
def review_fields (source revision : String) (runs : List SyncRun) (decisions guard_instance inventory : Value) :
    Fields :=
  [("source_instance", .str source), ("revision", .str revision), ("runs", listing isoformat runs),
    ("decisions", decisions), ("guard_instance", guard_instance), ("inventory", inventory),
    ("decision", .str "ACCEPT_CURRENT_BASELINE"), ("historical_outcome", .str "UNPROVED"),
    ("schedule_after", .bool false)]

def ACKNOWLEDGEMENTS : Value :=
  .obj [("old_writes_stopped", .bool true), ("outcome_stays_unknown", .bool true),
    ("fresh_plan_required", .bool true)]

/-- The row `confirm` inserts for one run. -/
def accepted_run (task : Task) (operation_id : Nat) (actor_id digest : String) (run : SyncRun) :
    Option Reconciliation :=
  run.finished_at.map (fun finished_at =>
    { run_id := run.run_id
      source_instance := task.source
      actor_id
      operation_id
      run_status := run.status
      run_finished_at := finished_at
      decision := task.fields ++ [("digest", .str digest), ("acknowledgements", ACKNOWLEDGEMENTS)]
      created_at := task.created_at })

/-- The unique indexes of `run_reconciliations`. -/
def insertable (decisions : List Reconciliation) (operation_id : Nat) (runs : List SyncRun) : Bool :=
  runs.all (fun run => !decisions.any (fun a =>
    a.run_id = run.run_id && (a.valid || a.operation_id = operation_id)))

/-- A plan that is `READY` is not current after a new baseline. -/
def stale_plan (source : String) : Slots :=
  update_where s.slots
    (fun source' kind slot => source' = source && kind = .PLAN && slot.status = .READY)
    (fun slot =>
      { slot with
        status := .STALE
        result := none
        safe_error_code := some "PLAN_STALE"
        updated_at := s.clock })

inductive Action where
  | tick (elapsed : Nat)
  /-- A source is registered, edited, scheduled, unscheduled or removed. -/
  | edit (source : String) (row : Option Fields)
  | operate (slots : Slots)
  | writer (trigger : RunTrigger) (source : String)
  | confirm (source : String) (operation_id : Nat) (actor_id digest : String)
  | start_run (i : Nat) (source source_type created_by : String) (run_id started : Int) (commit : Commit)
  | flock (i : Nat)
  | check (i : Nat)
  | write (i : Nat)
  | stop (i : Nat)
  | unlock (i : Nat)
  | finish (i : Nat) (commit : Commit) (f : Finish)
  | lookup (i : Nat)
  | review (i : Nat) (decisions : Value)
  | audit (i : Nat) (guard_instance inventory : Value)
  | begin (i : Nat)
  | commit (i : Nat)
  | crash (i : Nat)

variable (i : Nat)

def State.put (task : Task) : State := { s with tasks := s.tasks.set i task }

/-- `apply` opens its run before it takes the lock, and finishes it after it has given the lock back; a tick does both
    under the lock. -/
def step_writer (task : Task) (trigger : RunTrigger) : Action → Option State
  | .start_run _ source source_type created_by run_id started commit =>
    if task.point = (if trigger = .MANUAL then .waiting else .locked) ∧ task.run_id = none ∧
        (trigger = .MANUAL → source = task.source) ∧ started ≤ s.clock then
      match start_run s.runs commit run_id started source source_type trigger created_by with
      | (runs, .ok run_id) => some { s.put i { task with source, run_id := some run_id } with runs }
      | (runs, .error _) =>
        some { s.put i { task with point := if trigger = .MANUAL then .closed else .locked } with runs }
    else none
  | .flock _ =>
    if task.point = .waiting ∧ (task.run_id.isSome ↔ trigger = .MANUAL) then
      some (s.put i { task with point := if s.flock_free then .locked
        else if trigger = .MANUAL then .unlocked else .closed })
    else none
  | .check _ =>
    if task.point = .locked ∧ task.run_id.isSome then
      let required :=
        match trigger with
        | .MANUAL => reconciliation_required s.runs s.decisions task.source
        | .SCHEDULED => scheduled_reconciliation_required s.runs s.decisions task.source
      some (s.put i { task with point := if required then .leaving else .checked })
    else none
  | .write _ => if task.point = .checked then some (s.put i { task with point := .writing }) else none
  | .stop _ =>
    -- The write phase is over, or an exception ends the attempt before it.
    if task.run_id.isSome then
      match task.point with
      | .waiting => some (s.put i { task with point := .unlocked })
      | .locked | .checked | .writing => some (s.put i { task with point := .leaving })
      | _ => none
    else none
  | .unlock _ =>
    match trigger with
    | .MANUAL => if task.point = .leaving then some (s.put i { task with point := .unlocked }) else none
    | .SCHEDULED =>
      if task.point = .locked ∧ task.run_id = none then some (s.put i { task with point := .closed })
      else none
  | .finish _ commit f =>
    match task.run_id with
    | none => none
    | some run_id =>
      if task.point = (if trigger = .MANUAL then .unlocked else .leaving) then
        let runs := (finish_run s.runs commit run_id s.clock f).1
        some { s.put i { task with
          run_id := none, point := if trigger = .MANUAL then .closed else .locked } with runs }
      else none
  | _ => none

/-- `RunReconciliation.confirm`; what raises, and what returns early, leaves. -/
def step_confirm (task : Task) (operation_id : Nat) (actor_id digest : String) : Action → Option State
  | .flock _ =>
    if task.point = .waiting ∧ s.flock_free then some (s.put i { task with point := .locked }) else none
  | .lookup _ =>
    if task.point = .locked then
      let previous := s.decisions.any (fun a => a.operation_id = operation_id)
      some (s.put i { task with point := if previous then .leaving else .unclaimed })
    else none
  | .review _ decisions =>
    if task.point = .unclaimed then
      match _local s task.source with
      | none => some (s.put i { task with point := .leaving })
      | some (row, runs) =>
        some (s.put i { task with point := .reviewed, revision := fingerprint sha256 row, runs, decisions })
    else none
  | .audit _ guard_instance inventory =>
    if task.point = .reviewed then
      let fields :=
        review_fields isoformat task.source task.revision task.runs task.decisions guard_instance inventory
      some (s.put i { task with
        fields
        point := if fingerprint sha256 fields = digest ∧ task.runs ≠ [] then .accepted else .leaving })
    else none
  | .begin _ =>
    if task.point = .accepted then some (s.put i { task with point := .opened, created_at := s.clock })
    else none
  | .commit _ =>
    if task.point = .opened then
      match _local s task.source with
      | none => some (s.put i { task with point := .leaving })
      | some (row, runs) =>
        if fingerprint sha256 row = task.revision ∧ listing isoformat runs = listing isoformat task.runs ∧
            insertable s.decisions operation_id runs then
          some { s.put i { task with point := .leaving } with
            decisions := s.decisions ++ runs.filterMap (accepted_run task operation_id actor_id digest)
            sources := fun source =>
              if source = task.source then some (dict.set row "sync_enabled" (.bool false))
              else s.sources source
            slots := stale_plan s task.source }
        else some (s.put i { task with point := .leaving })
    else none
  | .stop _ => if task.holds_flock then some (s.put i { task with point := .leaving }) else none
  | .unlock _ =>
    if task.point = .leaving then some (s.put i { task with point := .closed }) else none
  | _ => none

/-- The task an action belongs to. -/
def Action.task : Action → Option Nat
  | .tick _ | .edit _ _ | .operate _ | .writer _ _ | .confirm _ _ _ _ => none
  | .start_run i .. | .flock i | .check i | .write i | .stop i | .unlock i | .finish i .. | .lookup i
  | .review i _ | .audit i .. | .begin i | .commit i | .crash i => some i

def step (action : Action) : Option State :=
  match action with
  | .tick elapsed => some { s with clock := s.clock + elapsed }
  | .edit source row =>
    some { s with sources := fun source' => if source' = source then row else s.sources source' }
  | .operate slots => some { s with slots }
  | .writer trigger source => some { s with tasks := s.tasks ++ [{ kind := .writer trigger, source }] }
  | .confirm source operation_id actor_id digest =>
    some { s with tasks := s.tasks ++ [{ kind := .confirm operation_id actor_id digest, source }] }
  | .crash i => (s.tasks[i]?).map (fun task => s.put i { task with alive := false })
  | action =>
    (action.task.bind (fun i => s.tasks[i]?)).bind (fun task =>
      if task.alive then
        match task.kind with
        | .writer trigger => step_writer s (action.task.getD 0) task trigger action
        | .confirm operation_id actor_id digest =>
          step_confirm sha256 isoformat s (action.task.getD 0) task operation_id actor_id digest action
      else none)

/-- The writers and administrators of all sources, over any history. -/
def machine : Machine State Action where
  init s := s.tasks = []
  step := step sha256 isoformat

end netbox_sync.run_reconciliation
