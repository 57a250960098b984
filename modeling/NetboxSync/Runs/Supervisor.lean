import NetboxSync.Lib.Json.Truncated
import NetboxSync.Runs.History
import NetboxSync.SyncPlan.Transport

open json

namespace netbox_sync.apply_worker

open sync_plan run_history

/-- `ApplyWorkerError`. The diagnostic is a dictionary of bounded metadata. -/
structure ApplyWorkerError where
  code : String
  reason : Option String := none
  categories : List String := []
  diagnostic : Value := .null
  wellFormed : diagnostic.WellFormed := by exact Value.wellFormed_null

/-- What leaves a function of the worker instead of a result. -/
inductive Raised where
  | apply_worker_error (error : ApplyWorkerError)
  | operation_error (code : String)
  | confirmation_error (code : String)
  | fault (fault : Fault)

/-- A statement that can fail only with a fault. -/
def attempt {α : Type} (x : Except Fault α) : Except Raised α :=
  match x with
  | .ok value => .ok value
  | .error fault => .error (.fault fault)

/-- A dictionary `_failure` made. -/
structure Diagnostic where
  value : Value
  wellFormed : value.WellFormed

/-- One call of `apply_full_sync` or `execute_esxi_runtime`: whether it signalled the write boundary, and how it
    ended. -/
structure Executor where
  before_write : Bool
  ending : Except Fault Unit

/-- Everything that can go one way or another in a child, in its order: reading the request, discovery, the NetBox
    session, planning, describing a changed plan, the guard, the executor, describing its failure, building the
    result, describing any other failure, and printing the answer. -/
structure Child where
  payload : Except Fault Unit := .ok ()
  discover : Except Fault Unit := .ok ()
  session : Except Fault Unit := .ok ()
  plan : Except Fault SyncPlan
  differences : Except Fault (List String) := .ok []
  for_run : Except Fault Unit := .ok ()
  executor : Executor
  failure : Except Fault Diagnostic := .ok ⟨.null, Value.wellFormed_null⟩
  result : Except Fault Unit := .ok ()
  main_failure : Except Fault Diagnostic := .ok ⟨.null, Value.wellFormed_null⟩
  print : Except Fault Unit := .ok ()
  /-- The exit status of the interpreter once `child_main` has returned. -/
  shutdown : Int := 0

variable (sha256 : String → String) (child : Child) (plan : SyncPlan)

/-- The checks of a recomputed plan against the confirmed one. -/
def check_plan (expected_digest : String) (child : Child) (plan : SyncPlan) : Except Raised Unit :=
  if !plan.apply_allowed then
    .error (.apply_worker_error { code := "PLAN_STALE", reason := some "PLAN_FORBIDDEN" })
  else if plan.digest sha256 ≠ expected_digest then
    match child.differences with
    | .ok categories =>
      .error (.apply_worker_error { code := "PLAN_STALE", reason := some "PLAN_DIGEST", categories })
    | .error fault => .error (.fault fault)
  else if !plan.items.any (fun item => item.action = .CREATE || item.action = .UPDATE) then
    .error (.apply_worker_error { code := "PLAN_BLOCKED", reason := some "PLAN_FORBIDDEN" })
  else .ok ()

/-- `execute_child` up to the executor. -/
def recompute (expected_digest : String) (child : Child) : Except Raised SyncPlan := do
  attempt child.payload
  attempt child.discover
  attempt child.session
  let plan ← attempt child.plan
  check_plan sha256 expected_digest child plan
  attempt child.for_run
  return plan

/-- `ActionCounts.__dict__` -/
def asdict (counts : ActionCounts) : Fields :=
  [("create", counts.create), ("update", counts.update), ("no_change", counts.no_change),
    ("review_required", counts.review_required), ("blocked", counts.blocked),
    ("ignored", counts.ignored), ("unsupported", counts.unsupported),
    ("retain_only", counts.retain_only)]

/-- The dictionary `execute_child` returns after a write. -/
def applied : Fields :=
  [("status", .str "SUCCEEDED"), ("plan_digest", .str (plan.digest sha256)),
    ("network_complete", .bool (!plan.items.any (fun item =>
      item.reason_code = "IP_OBSERVATION_ONLY" || item.reason_code = "MAC_OBSERVATION_ONLY"))),
    ("ipam_complete", .bool (!plan.items.any (fun item => item.reason_code = "IP_OBSERVATION_ONLY"))),
    ("planner_version", .str plan.planner_version),
    ("action_counts", .obj (asdict (.from_items plan.items)))]

/-- `execute_child` for the operation `apply`: whether `before_write` was called, and the outcome. -/
def execute_apply (expected_digest : String) (child : Child) : Bool × Except Raised Fields :=
  match recompute sha256 expected_digest child with
  | .error raised => (false, .error raised)
  | .ok plan =>
    let write_started := child.executor.before_write
    (write_started,
      match child.executor.ending with
      | .ok () =>
        match child.result with
        | .ok () => .ok (applied sha256 plan)
        | .error fault => .error (.fault fault)
      | .error .exception =>
        -- The handler describes the exception before it raises its own.
        match child.failure with
        | .ok diagnostic =>
          .error (.apply_worker_error
            { code := if write_started then "OUTCOME_UNCERTAIN" else "FAILED_BEFORE_WRITE"
              diagnostic := diagnostic.value
              wellFormed := diagnostic.wellFormed })
        | .error fault => .error (.fault fault)
      | .error (.exits returncode) => .error (.fault (.exits returncode)))

/-- The exit status of an interpreter that a fault ends. -/
def crash : Fault → Int
  | .exception => 1
  | .exits returncode => returncode

/-- The answer of `child_main`, or the fault that no clause of it handles. -/
def answer : Except Raised Fields → Except Fault Fields
  | .ok value => .ok [("result", .obj value)]
  | .error (.apply_worker_error error) =>
    .ok [("error", .str error.code), ("reason", optional .str error.reason),
      ("categories", .arr (error.categories.map Value.str)), ("diagnostic", error.diagnostic)]
  | .error (.fault (.exits returncode)) => .error (.exits returncode)
  | .error _ =>
    match child.main_failure with
    | .ok diagnostic => .ok [("error", .str "FAILED_BEFORE_WRITE"), ("diagnostic", diagnostic.value)]
    | .error fault => .error fault

/-- How a process ended: its exit status, and what it printed. -/
structure Ended where
  returncode : Int
  output : List Char

/-- `child_main` for the operation `apply`. -/
def run_apply (expected_digest : String) (child : Child) : Ended :=
  match answer child (execute_apply sha256 expected_digest child).2 with
  | .error fault => ⟨crash fault, []⟩
  | .ok fields =>
    match child.print with
    | .ok () => ⟨child.shutdown, (Value.obj fields).dump .spaced⟩
    | .error fault => ⟨crash fault, []⟩

open source_config

def MAX_RESPONSE : Nat := 8 * 1024 * 1024

structure ConfirmationClaims where
  source_instance : String
  source_id : String
  plan_digest : String
  planner_version : String
  operation_id : Option String := none
  actor_id : Option String := none

/-- An answer `_child` can take: a dictionary with known keys that reports an error or carries a result. -/
def is_response (text : String) : Prop :=
  ∃ fields, loads text = some (.obj fields) ∧ (∀ key ∈ dict.keys fields, key ∈ RESPONSE_KEYS) ∧
    (((dict.get fields "error").getD .null).truthy = true ∨ ∃ result, dict.get fields "result" = some (.obj result))

/-- What the pipe yields of a child's output: all of it, a part from which at least the last character is missing, or
    something that is no answer. -/
inductive Delivery where
  | complete
  | truncated (n : Nat)
  | malformed (text : String) (h : ¬ is_response text)

def Delivery.output (printed : List Char) : Delivery → String
  | .complete => String.ofList printed
  | .truncated n => String.ofList (printed.dropLast.take n)
  | .malformed text _ => text

/-- `process.communicate` with its timeout. -/
inductive Communication where
  | returned
  | timed_out
  | raised (fault : Fault)

/-- A call of the operating system, whose `OSError` is told apart. -/
inductive LockCall where
  | done
  | os_error
  | raised (fault : Fault)

/-- Everything that can go one way or another around one call of `apply`: the source and its run, the confirmation,
    both locks, the checks under them, the child and what arrives of its answer, and the way back. -/
structure Supervision where
  actor_id : Option String := none
  run_id : Int
  source : Except Raised SourceConfig
  start : Commit := .committed
  run_started : Int := 0
  consume : Except Raised ConfirmationClaims
  open_lock : LockCall := .done
  flock : LockCall := .done
  enter : Except Raised Unit := .ok ()
  unused : Except Raised Unit := .ok ()
  reload : Except Raised SourceConfig
  bind : Commit := .committed
  payload : Except Raised Unit := .ok ()
  popen : Except Fault Unit := .ok ()
  child : Child
  communication : Communication := .returned
  delivery : Delivery := .complete
  /-- What `_child` does beside reading the answer: progress, logging, and the description of an error. -/
  report : Except Fault Unit := .ok ()
  leave : Except Fault Unit := .ok ()
  close : Except Fault Unit := .ok ()
  finish : Commit := .committed
  finish_error : Commit := .committed
  run_finished : Int := 0

def error (code : String) (reason : Option String := none) : Raised := .apply_worker_error { code, reason }

/-- The error raised for an answer. Looking up a list or a dictionary among the allowed codes is a fault of its own.
    -/
def relayed : Except String Fields → Except Raised Fields
  | .ok result => .ok result
  | .error code => .error (if code = "TypeError" then .fault .exception else error code)

variable (sha256 : String → String) (runs : Table SyncRun) (sup : Supervision) (progress : Progress)
  (claims : ConfirmationClaims)

/-- `ApplySupervisor._child` for the operation `apply`, once the process runs. -/
def child_result (ended : Ended) : Except Raised Fields :=
  match sup.communication, sup.report with
  | .raised fault, _ => .error (.fault fault)
  | _, .error fault => .error (.fault fault)
  | .timed_out, .ok () => .error (error "OUTCOME_UNCERTAIN")
  | .returned, .ok () =>
    let output := sup.delivery.output ended.output
    if ended.returncode ≠ 0 ∨ MAX_RESPONSE < output.utf8ByteSize then
      .error (error "OUTCOME_UNCERTAIN")
    else relayed (read_response "apply" output)

/-- A stretch of `apply`: the history after it, what its handlers will know, and the outcome. -/
structure Progress where
  runs : Table SyncRun
  claims : Option ConfirmationClaims := none
  apply_started : Bool := false
  before_write : Bool := false
  outcome : Except Raised Fields

/-- The checks under both locks. -/
def recheck : Except Raised Unit := do
  sup.unused
  let config ← sup.reload
  if config.id ≠ claims.source_id then
    throw (error "PLAN_STALE" (some "SOURCE_IDENTITY"))

/-- The child's result, if it is for the confirmed plan. -/
def confirmed : Except Raised Fields → Except Raised Fields
  | .ok result =>
    if dict.get result "plan_digest" = some (.str claims.plan_digest) then .ok result
    else .error (error "OUTCOME_UNCERTAIN")
  | .error raised => .error raised

/-- The body of `with guard`. -/
def under_guard : Progress :=
  match recheck sup claims with
  | .error raised => { runs, outcome := .error raised }
  | .ok () =>
    match bind_plan runs sup.bind sup.run_id claims.plan_digest claims.planner_version with
    | (runs, .error fault) => { runs, outcome := .error (.fault fault) }
    | (runs, .ok ()) =>
      match sup.payload, sup.popen with
      | .error raised, _ => { runs, apply_started := true, outcome := .error raised }
      | .ok (), .error fault => { runs, apply_started := true, outcome := .error (.fault fault) }
      | .ok (), .ok () =>
        { runs
          apply_started := true
          before_write := (execute_apply sha256 claims.plan_digest sup.child).1
          outcome := confirmed claims (child_result sup (run_apply sha256 claims.plan_digest sup.child)) }

/-- `except OperationError as exc: raise ApplyWorkerError(exc.code, …)` -/
def converted : Except Raised Fields → Except Raised Fields
  | .error (.operation_error code) => .error (error code)
  | outcome => outcome

/-- The outcome of a block after its exit: a fault there takes its place. -/
def leaving (exit : Except Fault Unit) (outcome : Except Raised Fields) : Except Raised Fields :=
  match exit with
  | .ok () => outcome
  | .error fault => .error (.fault fault)

/-- From the lock file to its closing. -/
def locked : Progress :=
  match sup.open_lock with
  | .os_error => { runs, outcome := .error (error "FAILED_BEFORE_WRITE") }
  | .raised fault => { runs, outcome := .error (.fault fault) }
  | .done =>
    let progress : Progress :=
      match sup.flock with
      | .os_error => { runs, outcome := .error (error "APPLY_LOCKED") }
      | .raised fault => { runs, outcome := .error (.fault fault) }
      | .done =>
        match sup.enter with
        | .error raised => { runs, outcome := converted (.error raised) }
        | .ok () =>
          let progress := under_guard sha256 runs sup claims
          { progress with outcome := converted (leaving sup.leave progress.outcome) }
    { progress with outcome := leaving sup.close progress.outcome }

/-- The body of `apply` up to the recording of its success. -/
def attempt_apply : Progress :=
  match sup.consume with
  | .error (.confirmation_error code) => { runs, outcome := .error (error code) }
  | .error raised => { runs, outcome := .error raised }
  | .ok claims =>
    if claims.actor_id ≠ sup.actor_id then
      { runs, claims := some claims, outcome := .error (error "CONFIRMATION_INVALID") }
    else { locked sha256 runs sup claims with claims := some claims }

/-- `ActionCounts(**result.pop("action_counts", {}))` -/
def action_counts (result : Fields) : Option ActionCounts :=
  match dict.get result "action_counts" with
  | none => some {}
  | some (.obj fields) =>
    if (dict.keys fields).all (· ∈ dict.keys (asdict {})) then
      let total (name : String) := (dict.get fields name).getD (.int 0)
      some
        { create := total "create", update := total "update", no_change := total "no_change",
          review_required := total "review_required", blocked := total "blocked",
          ignored := total "ignored", unsupported := total "unsupported",
          retain_only := total "retain_only" }
    else none
  | some _ => none

def succeeded (counts : ActionCounts) (result : Fields) : Finish where
  status := .SUCCEEDED
  counts := counts
  plan_digest := (dict.get result "plan_digest").getD .null
  planner_version := (dict.get result "planner_version").getD .null

/-- The terminal update both handlers make. -/
def failed (claims : Option ConfirmationClaims) (code : String) : Finish where
  status := terminal_status code
  plan_digest := optional .str (claims.map ConfirmationClaims.plan_digest)
  planner_version := optional .str (claims.map ConfirmationClaims.planner_version)
  error_code := some code
  error_message_safe := some (safe_error_message code)

/-- The `except` clauses of `apply`: the code a failure is filed under. What is no exception passes both of them. -/
def filed (apply_started : Bool) : Raised → Option String
  | .apply_worker_error e => safe_error_code (.str e.code)
  | .fault (.exits _) => none
  | _ => some (if apply_started then "OUTCOME_UNCERTAIN" else "APPLY_FAILED")

def handle (runs : Table SyncRun) (raised : Raised) : Table SyncRun :=
  match filed progress.apply_started raised with
  | some code =>
    (finish_run runs sup.finish_error sup.run_id sup.run_finished (failed progress.claims code)).1
  | none => runs

/-- What is left of the call: the success is recorded, or a handler runs. -/
def conclude : Table SyncRun :=
  match progress.outcome with
  | .error raised => handle sup progress progress.runs raised
  | .ok result =>
    match action_counts result with
    | none => handle sup progress progress.runs (.fault .exception)
    | some counts =>
      match finish_run progress.runs sup.finish sup.run_id sup.run_finished (succeeded counts result) with
      | (runs, .ok ()) => runs
      | (runs, .error fault) => handle sup progress runs (.fault fault)

/-- What a call of `apply` leaves behind: the history, the run it opened, and whether its child crossed the write
    boundary. -/
structure Applied where
  runs : Table SyncRun
  run_id : Option Int := none
  before_write : Bool := false

/-- `actor_id or "web/manual"` -/
def created_by (actor_id : Option String) : String :=
  match actor_id with
  | none | some "" => "web/manual"
  | some actor => actor

/-- `ApplySupervisor.apply` with a run history. -/
def apply : Applied :=
  match sup.source with
  | .error _ => { runs }
  | .ok config =>
    match start_run runs sup.start sup.run_id sup.run_started config.source_instance
        config.source_type .MANUAL (created_by sup.actor_id) with
    | (runs, .error _) => { runs }
    | (runs, .ok run_id) =>
      let progress := attempt_apply sha256 runs sup
      { runs := conclude sup progress, run_id := some run_id, before_write := progress.before_write }

end netbox_sync.apply_worker
