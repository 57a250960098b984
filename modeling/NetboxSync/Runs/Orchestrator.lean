import NetboxSync.Runs.History

open json sorting

namespace netbox_sync

namespace scheduled_failure

inductive Stage where
  | dispatch
  | credentials
  | provider
  | netbox
  | legacy_read
  | planning
  | apply
deriving DecidableEq, Repr

/-- The attributes of a plan that the history keeps. -/
structure PlanReference where
  digest : Value := .null
  planner_version : Value := .null

structure ExecutionEvidence where
  stage : Stage := .dispatch
  plan : Option PlanReference := none
  writes_possible : Bool := false

/-- `mark(stage, plan)`, with the evidence of the running context. -/
def mark (evidence : ExecutionEvidence) (entry : Stage × Option PlanReference) : ExecutionEvidence :=
  { stage := entry.1
    plan := entry.2.or evidence.plan
    writes_possible := evidence.writes_possible || entry.1 = .apply }

end scheduled_failure

namespace orchestrator

open source_config run_history scheduled_failure

inductive HistoryStatus where
  | NOT_REQUESTED
  | RECORDED
  | START_FAILED
  | FINALIZE_FAILED
deriving DecidableEq, Repr

def HISTORY_UNAVAILABLE : String := "RUN_HISTORY_UNAVAILABLE"

/-- An `Exception` or a `SystemExit`. Besides its code, `emit` looks at the traceback, the response and the causes,
    and prints to standard error; `describable` says whether all of that works. -/
structure Raised where
  name : String
  code : Code
  describable : Bool := true

def SourceReconciliationRequired : Raised where
  name := "SourceReconciliationRequired"
  code := .str "SOURCE_RECONCILIATION_REQUIRED"

/-- What the history reads off the value an executor returns. Counting the actions raises where `items` cannot be gone
    through. -/
structure Returned where
  counts : Option ActionCounts := some {}
  plan : PlanReference := {}

structure SourceRunResult where
  source_id : String
  source_instance : String
  source_type : String
  success : Bool
  started_at : Int
  finished_at : Int
  error_type : Option String := none
  error_summary : Option String := none
  history_status : HistoryStatus := .NOT_REQUESTED
  history_error_code : Option String := none

/-- Everything that can go one way or another while a source is run: the readings of both clocks, the three calls of
    the run history, and the executor, which marks stages and then returns or raises. -/
structure Outcome where
  started_at : Int := 0
  finished_at : Int := 0
  run_started : Int := 0
  run_finished : Int := 0
  start : Commit := .committed
  reconciliation : Except Raised Bool := .ok false
  marks : List (Stage × Option PlanReference) := []
  ending : Except Raised Returned := .ok {}
  finish : Commit := .committed

/-- One call of `_run_source`: the run it opened, what the execution left behind, and the result, if the call returned
    at all. -/
structure Attempt where
  source : SourceConfig
  run_id : Option Int := none
  evidence : ExecutionEvidence := {}
  failed : Bool := false
  result : Option SourceRunResult := none

/-- `emit` looks the code up in the table of public errors, which raises for a code without a hash. -/
def emits (exc : Raised) : Bool := exc.code ≠ .unhashable && exc.describable

variable (fresh : Table.Fresh) (repository : Bool) (runs : Table SyncRun) (source : SourceConfig) (o : Outcome)

/-- The body of the `try` statement. -/
def execute : ExecutionEvidence × Except Raised Returned :=
  let executed := (o.marks.foldl mark {}, o.ending)
  if repository then
    match o.reconciliation with
    | .error exc => ({}, .error exc)
    | .ok true => ({}, .error SourceReconciliationRequired)
    | .ok false => executed
  else executed

/-- The code a failed execution is recorded under. -/
def failure_code (evidence : ExecutionEvidence) (code : String) : String :=
  if code = "APPLY_FAILED" ∧ evidence.writes_possible then "OUTCOME_UNCERTAIN"
  else if code = "APPLY_FAILED" ∧ evidence.stage = .planning then "FAILED_BEFORE_WRITE"
  else code

def failure (evidence : ExecutionEvidence) (code : String) : Finish where
  status := terminal_status code
  error_code := some code
  error_message_safe := some (safe_error_message code)
  plan_digest := (evidence.plan.map PlanReference.digest).getD .null
  planner_version := (evidence.plan.map PlanReference.planner_version).getD .null

def success (returned : Returned) (counts : ActionCounts) : Finish where
  status := .SUCCEEDED
  counts := counts
  plan_digest := returned.plan.digest
  planner_version := returned.plan.planner_version

/-- A terminal update inside its own `try` statement: an exception becomes a history status, and anything else leaves
    the function. -/
def finalize (run_id : Option Int) (o : Outcome) (f : Option Finish) : Table SyncRun × Option HistoryStatus :=
  match run_id with
  | none => (runs, some .NOT_REQUESTED)
  | some run_id =>
    match f with
    | none => (runs, some .FINALIZE_FAILED)
    | some f =>
      match finish_run runs o.finish run_id o.run_finished f with
      | (runs, .ok ()) => (runs, some .RECORDED)
      | (runs, .error .exception) => (runs, some .FINALIZE_FAILED)
      | (runs, .error (.exits _)) => (runs, none)

/-- The tail of `_run_source`, with the run open or not requested. -/
def conclude (run_id : Option Int) (executed : ExecutionEvidence × Except Raised Returned) : Table SyncRun × Attempt :=
  let evidence := executed.1
  let result (success : Bool) (error_type error_summary : Option String)
      (history_status : HistoryStatus) : SourceRunResult :=
    { source_id := source.id, source_instance := source.source_instance,
      source_type := source.source_type, success, started_at := o.started_at,
      finished_at := o.finished_at, error_type, error_summary, history_status,
      history_error_code := if history_status = .FINALIZE_FAILED then some HISTORY_UNAVAILABLE else none }
  match executed.2 with
  | .ok returned =>
    let (runs, history_status) := finalize runs run_id o (returned.counts.map (success returned))
    (runs, { source, run_id, evidence, result := history_status.map (result true none none) })
  | .error exc =>
    match emits exc, safe_error_code exc.code with
    | true, some code =>
      let (runs, history_status) := finalize runs run_id o (some (failure evidence (failure_code evidence code)))
      (runs, { source, run_id, evidence, failed := true,
               result := history_status.map (result false (some exc.name) (some "source execution failed")) })
    | _, _ => (runs, { source, run_id, evidence, failed := true })

/-- The result of a source that is skipped because its run could not be opened. -/
def start_failed : SourceRunResult where
  source_id := source.id
  source_instance := source.source_instance
  source_type := source.source_type
  success := false
  started_at := o.started_at
  finished_at := o.finished_at
  error_type := some "HistoryPersistenceError"
  error_summary := some "source execution skipped because run history is unavailable"
  history_status := .START_FAILED
  history_error_code := some HISTORY_UNAVAILABLE

/-- `_run_source(source, execute_source, now, run_repository)` -/
def run_source : Table SyncRun × Attempt :=
  if repository then
    match start_run runs o.start (fresh.next runs.ids) o.run_started source.source_instance
        source.source_type .SCHEDULED "system/scheduler" with
    | (runs, .ok run_id) => conclude runs source o (some run_id) (execute repository o)
    | (runs, .error .exception) =>
      (runs, { source, result := some (start_failed source o) })
    | (runs, .error (.exits _)) => (runs, { source })
  else conclude runs source o none (execute repository o)

/-- The loop of `run_sources`. An attempt that raises ends it. -/
def run_loop (fresh : Table.Fresh) (repository : Bool) (runs : Table SyncRun) :
    List (SourceConfig × Outcome) → Table SyncRun × List Attempt
  | [] => (runs, [])
  | (source, o) :: sources =>
    let (runs, attempt) := run_source fresh repository runs source o
    if attempt.result.isSome then
      let (runs, attempts) := run_loop fresh repository runs sources
      (runs, attempt :: attempts)
    else (runs, [attempt])

def by_id (sources : List (SourceConfig × Outcome)) : List (SourceConfig × Outcome) :=
  sorted (fun entry => entry.1.id) sources

/-- `run_sources(sources, execute_source, run_repository)`: the history after it and the attempts that were made. -/
def run_sources (sources : List (SourceConfig × Outcome)) : Table SyncRun × List Attempt :=
  run_loop fresh repository runs (by_id sources)

end orchestrator

end netbox_sync
