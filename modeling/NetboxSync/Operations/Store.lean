import NetboxSync.Lib.Machine
import NetboxSync.Runs.History
import NetboxSync.SyncPlan.Transport

open json

namespace netbox_sync.source_operations

open run_history

inductive OperationKind where
  | PLAN
  | DISCOVERY
deriving DecidableEq, Repr

inductive OperationStatus where
  | RUNNING
  | READY
  | SUCCEEDED
  | FAILED
  | STALE
deriving DecidableEq, Repr

/-- Times are in microseconds. -/
def seconds (n : Int) : Int := n * 1000000

def ACTIVE_SECONDS : Int := 180

def RESULT_SECONDS : Int := 86400

/-- The row `start` hands out, as far as `execute` reads it. -/
structure Operation where
  source_instance : String
  operation_kind : OperationKind
  operation_id : Nat
deriving DecidableEq, Repr

/-- A row of `source_operations` without its primary key. -/
structure Slot where
  operation_id : Nat
  status : OperationStatus
  result : Option Fields := none
  safe_error_code : Option String := none
  started_at : Int
  updated_at : Int
  finished_at : Option Int := none

/-- The table, by its primary key `(source_instance, operation_kind)`. -/
abbrev Slots := String → OperationKind → Option Slot

/-- The keys of `public_errors.json`. -/
def ERRORS : List String :=
  ["SOURCE_DNS_FAILED", "SOURCE_CONNECTION_FAILED", "SOURCE_TIMEOUT", "SOURCE_TLS_FAILED",
    "SOURCE_DESTINATION_DENIED", "SOURCE_AUTH_FAILED", "SOURCE_PERMISSION_DENIED",
    "NETBOX_PERMISSION_DENIED", "NETBOX_AUTH_FAILED", "NETBOX_TLS_FAILED", "NETBOX_UNAVAILABLE",
    "MAPPING_INVALID", "PLANNER_FAILED", "DISCOVERY_FAILED", "PROVIDER_UNAVAILABLE",
    "DISCOVERY_TIMEOUT", "ONBOARDING_TOKEN_INVALID", "PROBE_RECEIPT_INVALID", "CATALOG_CHANGED",
    "REGISTRATION_UNCERTAIN", "OUTCOME_UNCERTAIN", "OPERATION_FAILED",
    "REGISTRATION_CLUSTER_RETAINED", "NETBOX_PLACEMENT_MISSING", "HOST_IDENTITY_INCONSISTENT",
    "HOST_IDENTITY_CHANGED", "RETIREMENT_AUTH_FAILED", "RETIREMENT_TOKEN_WRITE_REQUIRED",
    "RETIREMENT_AUDIT_PERMISSION_REQUIRED", "RETIREMENT_SOURCE_SCOPE_DENIED",
    "RETIREMENT_OBJECT_VIEW_DENIED", "SOURCE_ARCHIVED", "SOURCE_ARCHIVE_REVIEW_REQUIRED",
    "SOURCE_CREDENTIAL_CLEANUP_PENDING", "SOURCE_LIFECYCLE_REVIEW_LIMIT", "HOST_PRIMARY_IP_CONFLICT"]

/-- The codes a failed operation is recorded under. -/
def OPERATION_CODES : List String :=
  ERRORS ++ ["SOURCE_NOT_FOUND", "SOURCE_DISABLED", "CREDENTIAL_UNAVAILABLE", "REGISTRY_UNAVAILABLE",
    "DISCOVERY_TIMEOUT", "PROVIDER_UNAVAILABLE", "NETBOX_UNAVAILABLE", "DISCOVERY_FAILED",
    "RESULT_TOO_LARGE", "RESULT_INVALID"]

/-- How a callback ends: it returns a value (`none` if JSON cannot write it), it raises an exception, or it raises
    something that is none. `evidence` is what `validate` accepts of the evidence an exception carries, and
    `describable` says whether the diagnostic of it can be made and logged. -/
inductive CallbackOutcome where
  | returned (value : Option Value)
  | raised (code : Code) (evidence : Option Fields) (describable : Bool)
  | escaped

/-- The arguments of the completion update. -/
structure Completion where
  status : OperationStatus
  result : Option Fields := none
  code : Option String := none

section outcome

variable (sha256 : String → String) (from_worker : OperationKind → Fields → Bool)

/-- The `result_validation` phase of `execute`. -/
def validate (operation : Operation) (result : Fields) : Except String Unit :=
  match operation.operation_kind with
  | .PLAN => validate_plan sha256 (from_worker .PLAN) operation.source_instance result
  | .DISCOVERY =>
    if (dumps_sorted .compact (.obj result)).utf8ByteSize > MAX_RESULT_BYTES then
      .error "RESULT_TOO_LARGE"
    else if dict.get result "source_instance" ≠ some (.str operation.source_instance) then
      .error "RESULT_INVALID"
    else if from_worker .DISCOVERY result then .ok () else .error "RESULT_INVALID"

/-- The completion a failure leads to. A code without a hash makes the handler itself raise. -/
def failed (operation : Operation) (code : Code) (evidence : Option Fields) : Option Completion :=
  match code with
  | .unhashable => none
  | .other => some { status := .FAILED, code := some "OPERATION_FAILED" }
  | .str code =>
    let code := if code ∈ OPERATION_CODES then code else "OPERATION_FAILED"
    let result := if operation.operation_kind = .DISCOVERY ∧ code = "NETBOX_PLACEMENT_MISSING" then evidence else none
    some { status := .FAILED, result, code := some code }

/-- What `execute` makes of the end of its callback; `none` where an exception leaves the function. -/
def completion (operation : Operation) : CallbackOutcome → Option Completion
  | .escaped => none
  | .raised code evidence describable => if describable then failed operation code evidence else none
  | .returned (some (.obj result)) =>
    match validate sha256 from_worker operation result with
    | .ok () =>
      some { status := if operation.operation_kind = .PLAN then .READY else .SUCCEEDED, result := some result }
    | .error code => failed operation (.str code) none
  | .returned _ => failed operation .other none

end outcome

/-- Where a call of `execute` stands: the lock is taken, the callback runs, its answer is there, the `finally` clause
    is next, or the lock is given back. -/
inductive Phase where
  | locked
  | calling
  | answered
  | leaving
  | closed
deriving DecidableEq, Repr

/-- A call of `execute` that got its lock, with the database session that holds it. A session that dies gives up its
    lock, and the callback may go on. -/
structure Session where
  operation : Operation
  phase : Phase := .locked
  alive : Bool := true
  called : Bool := false
  answer : Option Completion := none
  completed : Bool := false
  raised : Bool := false

/-- The session holds the lock of the operation's source and kind. -/
def Session.holds (session : Session) : Bool := session.alive && session.phase ≠ .closed

def Session.key (session : Session) : String × OperationKind :=
  (session.operation.source_instance, session.operation.operation_kind)

structure State where
  clock : Int := 0
  slots : Slots := fun _ _ => none
  /-- The rows `start` has handed out. -/
  issued : List Operation := []
  /-- The calls of `execute`, in the order in which they got their locks. -/
  sessions : List Session := []

variable (sha256 : String → String) (from_worker : OperationKind → Fields → Bool) (s : State) (i : Nat)
  (source : String) (kind : OperationKind)

/-- `pg_try_advisory_lock` on the key of a source and a kind. -/
def State.lock_free : Bool := s.sessions.all (fun session => !(session.holds && session.key = (source, kind)))

/-- What `latest` makes of one row. -/
def refresh (slot : Slot) : Slot :=
  if slot.status = .RUNNING then
    if slot.updated_at < s.clock - seconds ACTIVE_SECONDS ∧ s.lock_free source kind then
      { slot with
        status := .FAILED
        safe_error_code := some "OPERATION_INTERRUPTED"
        result := none
        updated_at := s.clock
        finished_at := some s.clock }
    else slot
  else if slot.result.isSome ∧
      slot.finished_at.any (fun finished_at => finished_at < s.clock - seconds RESULT_SECONDS) then
    { slot with
      result := none
      status := if kind = .PLAN then .STALE else .FAILED
      safe_error_code := some "RESULT_EXPIRED"
      updated_at := s.clock }
  else slot

/-- The rows with one operation id that satisfy a condition are updated. -/
def update_where (slots : Slots) (p : String → OperationKind → Slot → Bool) (f : Slot → Slot) : Slots :=
  fun source kind => (slots source kind).map (fun slot => if p source kind slot then f slot else slot)

/-- `OperationStore.latest` -/
def latest : State :=
  { s with slots := fun source' kind =>
      if source' = source then (s.slots source' kind).map (refresh s source' kind) else s.slots source' kind }

/-- The second transaction of `OperationStore.start`, for a source the gate and the registry let pass; the first is
    `latest`. It returns the running row, or makes a new one. -/
def start (operation_id : Nat) : State :=
  if (s.slots source kind).any (fun slot => slot.status = .RUNNING) || !s.lock_free source kind then s
  else
    let slot : Slot := { operation_id, status := .RUNNING, started_at := s.clock, updated_at := s.clock }
    { s with
      slots := fun source' kind' =>
        if source' = source ∧ kind' = kind then some slot else s.slots source' kind'
      issued := s.issued ++ [⟨source, kind, operation_id⟩] }

/-- `execute` up to its lock: it returns at once when the lock is taken. -/
def execute (operation : Operation) : State :=
  if s.lock_free operation.source_instance operation.operation_kind then
    { s with sessions := s.sessions ++ [{ operation }] }
  else s

/-- `SELECT status … WHERE operation_id=%s`. Ids are not used twice, so the row is the one under the operation's own
    key or none. -/
def is_running (slots : Slots) (operation : Operation) : Bool :=
  (slots operation.source_instance operation.operation_kind).any
    (fun slot => slot.operation_id = operation.operation_id && slot.status = .RUNNING)

/-- The completion update. -/
def complete (operation : Operation) (c : Completion) : Slots :=
  update_where s.slots
    (fun _ _ slot => slot.operation_id = operation.operation_id && slot.status = .RUNNING)
    (fun slot =>
      { slot with
        status := c.status
        result := c.result
        safe_error_code := c.code
        updated_at := s.clock
        finished_at := some s.clock })

/-- `OperationStore.invalidate_plan` -/
def invalidate_plan (operation_id : Nat) : State :=
  let slots := update_where s.slots
    (fun source' kind slot =>
      source' = source && kind = .PLAN && slot.operation_id = operation_id && slot.status = .READY)
    (fun slot =>
      { slot with
        status := .STALE
        result := none
        safe_error_code := some "PLAN_STALE"
        updated_at := s.clock })
  { s with slots }

/-- The steps of the workers, of the clock and of the sessions. -/
inductive Action where
  | tick (elapsed : Nat)
  | latest (source : String)
  | start (source : String) (kind : OperationKind) (operation_id : Nat)
  | invalidate_plan (source : String) (operation_id : Nat)
  | execute (operation : Operation)
  | check (i : Nat)
  | answer (i : Nat) (outcome : CallbackOutcome)
  | complete (i : Nat)
  | abort (i : Nat)
  | unlock (i : Nat)
  | die (i : Nat)

/-- One call of `execute` goes on. -/
def State.advance (session : Session) : State := { s with sessions := s.sessions.set i session }

/-- The next state of a step of session `i`, as far as the step is possible. -/
def step_session (session : Session) : Action → Option State
  | .check _ =>
    if session.phase = .locked ∧ session.alive then
      some (s.advance i
        (if is_running s.slots session.operation then { session with phase := .calling, called := true }
        else { session with phase := .leaving }))
    else none
  | .answer _ outcome =>
    if session.phase = .calling then
      some (s.advance i
        (match completion sha256 from_worker session.operation outcome with
        | some c => { session with phase := .answered, answer := some c }
        | none => { session with phase := .leaving, raised := true }))
    else none
  | .complete _ =>
    match session.answer with
    | some c =>
      if session.phase = .answered ∧ session.alive then
        some { s.advance i { session with phase := .leaving, completed := true } with
          slots := complete s session.operation c }
      else none
    | none => none
  | .abort _ =>
    -- A statement of the session raises: the connection is lost, or the
    -- database refuses the result.
    if session.phase = .locked ∨ session.phase = .answered then
      some (s.advance i { session with phase := .leaving, raised := true })
    else none
  | .unlock _ =>
    if session.phase = .leaving then some (s.advance i { session with phase := .closed }) else none
  | .die _ => some (s.advance i { session with alive := false })
  | _ => none

def step (action : Action) : Option State :=
  match action with
  | .tick elapsed => some { s with clock := s.clock + elapsed }
  | .latest source => some (latest s source)
  | .start source kind operation_id =>
    -- `uuid4` does not repeat itself.
    if operation_id ∈ s.issued.map Operation.operation_id then none
    else some (start s source kind operation_id)
  | .invalidate_plan source operation_id => some (invalidate_plan s source operation_id)
  | .execute operation => if operation ∈ s.issued then some (execute s operation) else none
  | .check i | .answer i _ | .complete i | .abort i | .unlock i | .die i =>
    (s.sessions[i]?).bind (fun session => step_session sha256 from_worker s i session action)

/-- The operation store with any number of workers. -/
def machine : Machine State Action where
  init s := s.slots = (fun _ _ => none) ∧ s.issued = [] ∧ s.sessions = []
  step := step sha256 from_worker

end netbox_sync.source_operations
