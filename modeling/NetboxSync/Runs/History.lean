import NetboxSync.Lib.Table
import NetboxSync.Sources.Config
import NetboxSync.SyncPlan.Model

open json

namespace netbox_sync

namespace run_history

inductive RunStatus where
  | RUNNING
  | SUCCEEDED
  | FAILED_BEFORE_WRITE
  | PARTIALLY_APPLIED
  | OUTCOME_UNCERTAIN
  | BLOCKED
  | LOCKED
  | FAILED
deriving DecidableEq, Repr

inductive RunTrigger where
  | MANUAL
  | SCHEDULED
deriving DecidableEq, Repr

def ERROR_STATUS : List (String × RunStatus) :=
  [("APPLY_LOCKED", .LOCKED), ("PLAN_BLOCKED", .BLOCKED),
    ("SOURCE_RECONCILIATION_REQUIRED", .BLOCKED), ("FAILED_BEFORE_WRITE", .FAILED_BEFORE_WRITE),
    ("PARTIALLY_APPLIED", .PARTIALLY_APPLIED), ("OUTCOME_UNCERTAIN", .OUTCOME_UNCERTAIN)]

def SAFE_ERROR_MESSAGES : List (String × String) :=
  [("APPLY_LOCKED", "Another synchronization is already running."),
    ("PLAN_BLOCKED", "The synchronization plan contains blocking conditions."),
    ("SOURCE_RECONCILIATION_REQUIRED",
      "Scheduled synchronization is blocked by unresolved previous writes or a pending manual sync " ++
      "after baseline acceptance. Review source recovery. No new plan was built and no writes were " ++
      "started."),
    ("PLAN_STALE", "The synchronization plan is no longer current."),
    ("CONFIRMATION_EXPIRED", "The synchronization confirmation expired."),
    ("CONFIRMATION_INVALID", "The synchronization confirmation is invalid."),
    ("CONFIRMATION_SOURCE_MISMATCH", "The confirmation does not match this source."),
    ("FAILED_BEFORE_WRITE", "Synchronization failed before any changes were written."),
    ("PARTIALLY_APPLIED", "Synchronization stopped after some changes were written."),
    ("OUTCOME_UNCERTAIN", "The final NetBox state may be uncertain."),
    ("APPLY_FAILED", "Synchronization failed.")]

/-- Canonical plan action totals. The constructor takes what it is given, so a total read from a child's answer may be
    any value. -/
structure ActionCounts where
  create : Value := .int 0
  update : Value := .int 0
  no_change : Value := .int 0
  review_required : Value := .int 0
  blocked : Value := .int 0
  ignored : Value := .int 0
  unsupported : Value := .int 0
  retain_only : Value := .int 0
deriving DecidableEq, Repr

def ActionCounts.values (counts : ActionCounts) : List Value :=
  [counts.create, counts.update, counts.no_change, counts.review_required, counts.blocked,
    counts.ignored, counts.unsupported, counts.retain_only]

def ActionCounts.from_items (items : List sync_plan.SyncPlanItem) : ActionCounts :=
  let total (action : sync_plan.SyncAction) : Value := .int (items.countP (fun item => item.action = action))
  { create := total .CREATE
    update := total .UPDATE
    no_change := total .NO_CHANGE
    review_required := total .REVIEW_REQUIRED
    blocked := total .BLOCKED
    ignored := total .IGNORED
    unsupported := total .UNSUPPORTED
    retain_only := total .RETAIN_ONLY }

/-- A row of `sync_runs`, with times in microseconds. -/
structure SyncRun where
  run_id : Int
  source_instance : String
  source_type : String
  trigger : RunTrigger
  started_at : Int
  finished_at : Option Int := none
  duration_ms : Option Int := none
  status : RunStatus := .RUNNING
  plan_digest : Option String := none
  planner_version : Option String := none
  counts : ActionCounts := {}
  error_code : Option String := none
  error_message_safe : Option String := none
  created_by : String
deriving DecidableEq, Repr

instance : Row SyncRun := ⟨SyncRun.run_id⟩

def terminal_status (error_code : String) : RunStatus := (dict.get ERROR_STATUS error_code).getD .FAILED

/-- What `getattr(exc, "code", None)` yields, as far as a dictionary lookup tells it apart: a text, something else
    that has a hash, or a value (a list, say) whose lookup raises `TypeError`. -/
inductive Code where
  | str (code : String)
  | other
  | unhashable
deriving DecidableEq, Repr

def safe_error_code : Code → Option String
  | .str code => some (if code ∈ dict.keys SAFE_ERROR_MESSAGES then code else "APPLY_FAILED")
  | .other => some "APPLY_FAILED"
  | .unhashable => none

def safe_error_message (error_code : String) : String :=
  (dict.get SAFE_ERROR_MESSAGES error_code).getD "Synchronization failed."

/-- How a statement of the worker can fail: with an exception that `except Exception` catches, or by ending the
    process. -/
inductive Fault where
  | exception
  | exits (returncode : Int)
deriving DecidableEq, Repr

/-- The fate of one database transaction: it is committed, it fails and leaves nothing, or it is committed and the
    reply is lost. -/
inductive Commit where
  | committed
  | lost (fault : Fault)
  | unacknowledged (fault : Fault)
deriving DecidableEq, Repr

/-- The transaction reached the database. -/
def Commit.landed : Commit → Bool
  | .committed | .unacknowledged _ => true
  | .lost _ => false

/-- `re.fullmatch(r"[a-f0-9]{64}", text)` -/
def is_digest (text : String) : Bool :=
  text.toList.length = 64 && text.toList.all (fun c => ('a' ≤ c && c ≤ 'f') || ('0' ≤ c && c ≤ '9'))

def valid_digest : Value → Bool
  | .null => true
  | .str text => is_digest text
  | _ => false

def valid_version : Value → Bool
  | .null => true
  | .str text => text.length ≤ 128
  | _ => false

def valid_count : Value → Bool
  | .int n => 0 ≤ n
  | _ => false

def text? : Value → Option String
  | .str text => some text
  | _ => none

/-- `SOURCE_INSTANCE_PATTERN`, `^[a-z0-9][a-z0-9._-]{1,62}$` -/
def is_source_instance (text : String) : Bool :=
  let plain (c : Char) : Bool := ('a' ≤ c && c ≤ 'z') || ('0' ≤ c && c ≤ '9')
  match text.toList with
  | [] => false
  | first :: rest =>
    plain first && 1 ≤ rest.length && rest.length ≤ 62 &&
      rest.all (fun c => plain c || c = '.' || c = '_' || c = '-')

/-- The arguments `start_run` accepts. -/
def valid_start (source_instance source_type created_by : String) : Bool :=
  is_source_instance source_instance && (source_type = "proxmox" || source_type = "esxi") &&
    created_by ≠ "" && created_by.length ≤ 128

/-- `RunRepository.start_run`: a row that is `RUNNING` before an execution boundary is crossed. A run has an id of its
    own: `uuid4`, or one the caller made up, which the primary key refuses when it is taken. -/
def start_run (runs : Table SyncRun) (commit : Commit) (run_id clock : Int)
    (source_instance source_type : String) (trigger : RunTrigger) (created_by : String) :
    Table SyncRun × Except Fault Int :=
  if !valid_start source_instance source_type created_by then (runs, .error .exception)
  else if h : run_id ∈ runs.ids then (runs, .error .exception)
  else
    let row : SyncRun := { run_id, source_instance, source_type, trigger, started_at := clock, created_by }
    match commit with
    | .committed => (runs.insert row h, .ok run_id)
    | .lost fault => (runs, .error fault)
    | .unacknowledged fault => (runs.insert row h, .error fault)

/-- The arguments of `finish_run`. -/
structure Finish where
  status : RunStatus
  counts : ActionCounts := {}
  plan_digest : Value := .null
  planner_version : Value := .null
  error_code : Option String := none
  error_message_safe : Option String := none

/-- The checks `finish_run` makes before it opens a connection. -/
def Finish.valid (f : Finish) : Bool :=
  f.status ≠ .RUNNING && f.counts.values.all valid_count && valid_digest f.plan_digest &&
    valid_version f.planner_version &&
    match f.error_code with
    | some code =>
      code ∈ dict.keys SAFE_ERROR_MESSAGES && f.error_message_safe = some (safe_error_message code)
    | none => f.error_message_safe = none

/-- The row a terminal update leaves. -/
def Finish.row (f : Finish) (clock : Int) (run : SyncRun) : SyncRun :=
  { run with
    finished_at := some clock
    duration_ms := some (max 0 ((clock - run.started_at) / 1000))
    status := f.status
    plan_digest := (text? f.plan_digest).or run.plan_digest
    planner_version := (text? f.planner_version).or run.planner_version
    counts := f.counts
    error_code := f.error_code
    error_message_safe := f.error_message_safe }

/-- `UPDATE … WHERE run_id=%s AND status='RUNNING'`, which leaves the key. -/
def update_running (runs : Table SyncRun) (run_id : Int) (update : SyncRun → SyncRun) : Table SyncRun :=
  runs.modify run_id
    (fun run => if run.status = .RUNNING then { update run with run_id := run.run_id } else run) (by
      intro run
      dsimp only [Row.id]
      split <;> rfl)

def is_running (runs : Table SyncRun) (run_id : Int) : Bool :=
  (runs.get run_id).any (fun run => run.status = .RUNNING)

/-- `RunRepository.finish_run`: exactly one `RUNNING` record is finalized. A record that is missing or terminal makes
    the call raise after its transaction, which changed nothing. -/
def finish_run (runs : Table SyncRun) (commit : Commit) (run_id clock : Int) (f : Finish) :
    Table SyncRun × Except Fault Unit :=
  if !f.valid then (runs, .error .exception)
  else
    let updated := update_running runs run_id (f.row clock)
    match commit with
    | .committed => (updated, if is_running runs run_id then .ok () else .error .exception)
    | .lost fault => (runs, .error fault)
    | .unacknowledged fault => (updated, .error fault)

/-- `RunRepository.bind_plan`: the consumed plan is fenced before any child can write. A row that is terminal or bound
    already rolls the update back. -/
def bind_plan (runs : Table SyncRun) (commit : Commit) (run_id : Int) (digest version : String) :
    Table SyncRun × Except Fault Unit :=
  if !is_digest digest then (runs, .error .exception)
  else if (runs.get run_id).any (fun run => run.status = .RUNNING && run.plan_digest = none) then
    let bound := update_running runs run_id
      (fun run => { run with plan_digest := some digest, planner_version := some version })
    match commit with
    | .committed => (bound, .ok ())
    | .lost fault => (runs, .error fault)
    | .unacknowledged fault => (bound, .error fault)
  else (runs, .error .exception)

section

variable {runs : Table SyncRun} {commit : Commit} {run_id clock : Int} {f : Finish}

section

variable {source_instance source_type created_by : String} {trigger : RunTrigger}

theorem start_run_of_valid (hvalid : valid_start source_instance source_type created_by = true)
    (hfresh : run_id ∉ runs.ids) :
    start_run runs commit run_id clock source_instance source_type trigger created_by =
      (if commit.landed then
        runs.insert
          { run_id, source_instance, source_type, trigger, started_at := clock, created_by } hfresh
        else runs,
        match commit with
        | .committed => .ok run_id
        | .lost fault | .unacknowledged fault => .error fault) := by
  cases commit <;> simp [start_run, hvalid, hfresh, Commit.landed]

variable {run : SyncRun}

/-- A new run leaves the rows there are. -/
theorem start_run_keeps {id : Int} {started : Table SyncRun × Except Fault Int}
    (h : start_run runs commit run_id clock source_instance source_type trigger created_by = started)
    (hget : runs.get id = some run) : started.1.get id = some run := by
  subst h
  unfold start_run
  split
  · exact hget
  · split
    · exact hget
    next hfresh =>
      have hne : id ≠ run_id := by
        rintro rfl
        exact hfresh (Table.mem_ids_iff.mpr ⟨run, hget⟩)
      cases commit with
      | lost fault => exact hget
      | committed => simp only [Table.get_insert, Row.id, if_neg hne, hget]
      | unacknowledged fault => simp only [Table.get_insert, Row.id, if_neg hne, hget]

/-- A run that was started is on record, under an id no run had. -/
theorem start_run_ok {id : Int} {started : Table SyncRun}
    (h : start_run runs commit run_id clock source_instance source_type trigger created_by = (started, .ok id)) :
    run_id ∉ runs.ids ∧ ∃ run, started.get run_id = some run ∧ run.source_instance = source_instance ∧
      run.started_at = clock := by
  by_cases hvalid : valid_start source_instance source_type created_by = true
  · by_cases hfresh : run_id ∈ runs.ids
    · simp [start_run, hvalid, hfresh] at h
    · rw [start_run_of_valid hvalid hfresh] at h
      cases commit with
      | lost fault => cases h
      | unacknowledged fault => cases h
      | committed =>
        cases h
        refine ⟨hfresh,
          { run_id, source_instance, source_type, trigger, started_at := clock, created_by }, ?_, rfl, rfl⟩
        rw [Commit.landed, if_pos rfl, Table.get_insert]
        exact if_pos rfl
  · simp [start_run, hvalid] at h

theorem start_run_of_invalid (hvalid : valid_start source_instance source_type created_by = false) :
    start_run runs commit run_id clock source_instance source_type trigger created_by =
      (runs, .error .exception) := by
  simp [start_run, hvalid]

end

theorem get_update_running (update : SyncRun → SyncRun) (other : Int) :
    (update_running runs run_id update).get other =
      if other = run_id then
        (runs.get other).map (fun run =>
          if run.status = .RUNNING then { update run with run_id := run.run_id } else run)
      else runs.get other :=
  Table.get_modify ..

/-- Finishing a run leaves the other rows alone. -/
theorem finish_run_get_of_ne {other : Int} (h : other ≠ run_id) :
    (finish_run runs commit run_id clock f).1.get other = runs.get other := by
  unfold finish_run
  split
  · rfl
  · cases commit with
    | lost fault => rfl
    | committed => simp only [get_update_running, if_neg h]
    | unacknowledged fault => simp only [get_update_running, if_neg h]

/-- What a terminal update makes of a `RUNNING` row. -/
theorem finish_run_get (hget : runs.get run_id = some run) (hrunning : run.status = .RUNNING) :
    (finish_run runs commit run_id clock f).1.get run_id =
      if f.valid && commit.landed then some (f.row clock run) else some run := by
  unfold finish_run
  cases hvalid : f.valid with
  | false => simp [hget]
  | true =>
    cases commit with
    | lost fault => simp [hget, Commit.landed]
    | committed => simp [get_update_running, hget, hrunning, Commit.landed, Finish.row]
    | unacknowledged fault => simp [get_update_running, hget, hrunning, Commit.landed, Finish.row]

/-- What a terminal update keeps of its row. -/
theorem finish_run_own (hget : runs.get run_id = some run) :
    ∃ run', (finish_run runs commit run_id clock f).1.get run_id = some run' ∧
      run'.source_instance = run.source_instance ∧ run'.started_at = run.started_at ∧
      (run'.plan_digest = run.plan_digest ∨ run'.plan_digest = (text? f.plan_digest).or run.plan_digest) := by
  have hupdated : ∃ run', (update_running runs run_id (f.row clock)).get run_id = some run' ∧
      run'.source_instance = run.source_instance ∧ run'.started_at = run.started_at ∧
      (run'.plan_digest = run.plan_digest ∨ run'.plan_digest = (text? f.plan_digest).or run.plan_digest) := by
    refine ⟨_, by rw [get_update_running, if_pos rfl, hget, Option.map_some], ?_⟩
    split
    · exact ⟨rfl, rfl, .inr rfl⟩
    · exact ⟨rfl, rfl, .inl rfl⟩
  unfold finish_run
  split
  · exact ⟨run, hget, rfl, rfl, .inl rfl⟩
  · cases commit with
    | committed => exact hupdated
    | lost fault => exact ⟨run, hget, rfl, rfl, .inl rfl⟩
    | unacknowledged fault => exact hupdated

variable {digest version : String}

theorem bind_plan_get_of_ne {other : Int} (h : other ≠ run_id) :
    (bind_plan runs commit run_id digest version).1.get other = runs.get other := by
  unfold bind_plan
  split
  · rfl
  · split
    · cases commit with
      | lost fault => rfl
      | committed => simp only [get_update_running, if_neg h]
      | unacknowledged fault => simp only [get_update_running, if_neg h]
    · rfl

/-- What binding a plan keeps of its row, and that it binds it. -/
theorem bind_plan_own {bound : Table SyncRun × Except Fault Unit}
    (h : bind_plan runs commit run_id digest version = bound) (hget : runs.get run_id = some run) :
    ∃ run', bound.1.get run_id = some run' ∧ run'.source_instance = run.source_instance ∧
      run'.started_at = run.started_at ∧
      (run'.plan_digest = run.plan_digest ∨ run'.plan_digest = some digest) ∧
      (bound.2 = .ok () → run'.plan_digest = some digest) := by
  subst h
  unfold bind_plan
  split
  · exact ⟨run, hget, rfl, rfl, .inl rfl, by simp⟩
  · split
    next hopen =>
      rw [hget, Option.any_some, Bool.and_eq_true, decide_eq_true_eq] at hopen
      cases commit with
      | lost fault => exact ⟨run, hget, rfl, rfl, .inl rfl, by simp⟩
      | committed => simp [get_update_running, hget, hopen.1]
      | unacknowledged fault => simp [get_update_running, hget, hopen.1]
    next => exact ⟨run, hget, rfl, rfl, .inl rfl, by simp⟩

/-- Binding a plan keeps a run open. -/
theorem bind_plan_open (hget : runs.get run_id = some run) (hrunning : run.status = .RUNNING) :
    ∃ bound, (bind_plan runs commit run_id digest version).1.get run_id = some bound ∧ bound.status = .RUNNING := by
  unfold bind_plan
  split
  · exact ⟨run, hget, hrunning⟩
  · split
    · cases commit with
      | lost fault => exact ⟨run, hget, hrunning⟩
      | committed => simp [get_update_running, hget, hrunning]
      | unacknowledged fault => simp [get_update_running, hget, hrunning]
    · exact ⟨run, hget, hrunning⟩

theorem bind_plan_eq_ok_iff (hget : runs.get run_id = some run) (hrunning : run.status = .RUNNING)
    (hunbound : run.plan_digest = none) :
    (bind_plan runs commit run_id digest version).2 = .ok () ↔ is_digest digest = true ∧ commit = .committed := by
  unfold bind_plan
  cases is_digest digest with
  | false => simp
  | true => cases commit <;> simp [hget, hrunning, hunbound]

end

end run_history

end netbox_sync
