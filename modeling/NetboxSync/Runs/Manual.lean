import NetboxSync.Operations.Review
import NetboxSync.Runs.Gates
import NetboxSync.Runs.Supervisor

open json

namespace netbox_sync.apply_worker

open run_history source_operations

/-- An entry of `ConfirmationStore`. It is kept under the hash of its token. -/
structure Entry where
  token : String
  claims : ConfirmationClaims
  expires : Int

def TTL_SECONDS : Int := 300

def MAXIMUM : Nat := 256

/-- `ConfirmationStore.issue`; `none` for `CONFIRMATION_CAPACITY_EXCEEDED`. -/
def issue (entries : List Entry) (clock : Int) (token : String) (claims : ConfirmationClaims) : Option (List Entry) :=
  let entries := entries.filter (fun entry => clock < entry.expires)
  if MAXIMUM ≤ entries.length then none
  else some (entries ++ [{ token, claims, expires := clock + seconds TTL_SECONDS }])

/-- `ConfirmationStore.consume` once it has popped an entry. -/
def validate_entry (entry : Entry) (clock : Int) (source : String) : Except String ConfirmationClaims :=
  if entry.expires ≤ clock then .error "CONFIRMATION_EXPIRED"
  else if entry.claims.source_instance ≠ source then .error "CONFIRMATION_SOURCE_MISMATCH"
  else .ok entry.claims

inductive Request where
  | prepare (digest : String) (operation_id : Option String)
  | apply (token : String) (run_id : Int)

/-- Where a call of `prepare` or `apply` stands. Both share the points from `gated` to `unused`, the review under the
    gate of the source. -/
inductive Point where
  | called
  | started
  | consumed
  | locked
  | gated
  | current
  | unblocked
  | unused
  | planned
  | reloaded
  | bound
  | applying
  | leaving
  | ungated
  | unlocked
  | closed
deriving DecidableEq, Repr

/-- A call of `prepare` or `apply`, with what its variables hold. -/
structure Call where
  source : String
  actor_id : Option String
  request : Request
  began : Int
  point : Point := .called
  /-- The worker that runs the call is alive. -/
  alive : Bool := true
  reviewed : Fields := []
  claims : Option ConfirmationClaims := none
  consumed_at : Option Int := none
  recorded : Bool := false
  child_started : Bool := false
  result : Option Fields := none

variable (sha256 : String → String) (from_worker : OperationKind → Fields → Bool) (s : State) (i : Nat) (call : Call)

def Call.is_apply : Bool :=
  match call.request with
  | .apply _ _ => true
  | .prepare _ _ => false

/-- The token a call of `apply` presents. -/
def Call.token : Option String :=
  match call.request with
  | .apply token _ => some token
  | .prepare _ _ => none

/-- The digest and the operation a call has reviewed. -/
def Call.review : Option (String × Option String) :=
  match call.request with
  | .prepare digest operation_id => some (digest, operation_id)
  | .apply _ _ => call.claims.map (fun claims => (claims.plan_digest, claims.operation_id))

/-- The transaction of `review_guard` is open. -/
def Call.holds_gate : Bool :=
  call.alive && (call.point = .gated || call.point = .current || call.point = .unblocked ||
    call.point = .unused || call.point = .planned || call.point = .reloaded || call.point = .bound ||
    call.point = .applying || call.point = .leaving)

/-- The lock file is locked. The child inherits the descriptor, so that the lock outlives a worker whose child still
    runs. -/
def Call.holds_flock : Bool :=
  call.is_apply && (call.point = .applying || call.alive && (call.point = .locked || call.point = .gated ||
    call.point = .current || call.point = .unblocked || call.point = .unused || call.point = .reloaded ||
    call.point = .bound || call.point = .leaving || call.point = .ungated))

/-- A token that `prepare` handed out. -/
structure Issue where
  token : String
  source : String
  actor_id : Option String
  claims : ConfirmationClaims
  time : Int

structure State where
  operations : source_operations.State := {}
  runs : Table SyncRun
  decisions : List Reconciliation := []
  entries : List Entry := []
  issues : List Issue := []
  calls : List Call := []

def State.clock : Int := s.operations.clock

def State.gate_free (source : String) : Bool := s.calls.all (fun call => !(call.holds_gate && call.source = source))

def State.flock_free : Bool := s.calls.all (fun call => !call.holds_flock)

/-- What `prepare` asks of the plan its child has recomputed. -/
def plan_allowed (reviewed plan : Fields) (digest : String) : Bool :=
  ((dict.get plan "apply_allowed").getD .null).truthy &&
    dict.get reviewed "planner_version" = dict.get plan "planner_version" &&
    dict.get plan "digest" = some (.str digest) &&
    match dict.get plan "items" with
    | some (.arr items) => items.any (fun item =>
        match item with
        | .obj fields => dict.get fields "action" = some (.str "CREATE") ||
            dict.get fields "action" = some (.str "UPDATE")
        | _ => false)
    | _ => false

/-- The statements of one call. -/
inductive Statement where
  | start_run (source_type : String) (commit : Commit)
  | consume
  | flock
  | gate
  | review
  | reconcile
  | unused
  | plan (source_id : String) (plan : Fields)
  | issue (token : String)
  | reload (source_id : String)
  | bind_plan (commit : Commit)
  | child
  | answer (outcome : Except Raised Fields)
  | fail
  | leave
  | close
  | succeed (commit : Commit)
  | file (commit : Commit) (code : String)

/-- Where a call goes on when the statement at hand raises. -/
def Point.raised : Point → Point
  | .called => .closed
  | .started | .consumed | .unlocked => .unlocked
  | .locked | .ungated => .ungated
  | .closed => .closed
  | _ => .leaving

def State.put : State := { s with calls := s.calls.set i call }

/-- `_unused` for the reviewed plan, after the check of the history. -/
def plan_unused : Bool :=
  match call.review with
  | some (digest, some operation_id) =>
    match plan_time s.operations call.source operation_id with
    | .ok finished_at => !plan_used s.runs call.source digest finished_at
    | .error _ => false
  | _ => false

/-- The statements of `prepare` and `apply` under the gate, which they share. -/
def step_review : Statement → Option State
  | .gate =>
    if call.point = (if call.is_apply then .locked else .called) ∧ s.gate_free call.source then
      some (s.put i { call with point := .gated })
    else none
  | .review =>
    if call.point = .gated then
      match call.review with
      | some (digest, operation_id) =>
        match review_guard s.operations call.source digest operation_id with
        | .ok reviewed => some (s.put i { call with point := .current, reviewed })
        | .error _ => some (s.put i { call with point := .leaving })
      | none => none
    else none
  | .reconcile =>
    if call.point = .current then
      some (s.put i { call with
        point := if reconciliation_required s.runs s.decisions call.source then .leaving else .unblocked })
    else none
  | .unused =>
    if call.point = .unblocked then
      some (s.put i { call with point := if plan_unused s call then .unused else .leaving })
    else none
  | .fail => some (s.put i { call with point := call.point.raised })
  | .leave =>
    if call.point = .leaving then
      some (s.put i { call with point := if call.is_apply then .ungated else .closed })
    else none
  | _ => none

/-- The other statements of `prepare`. -/
def step_prepare (digest : String) (operation_id : Option String) : Statement → Option State
  | .plan source_id plan =>
    if call.point = .unused then
      match dict.get plan "planner_version" with
      | some (.str planner_version) =>
        if plan_allowed call.reviewed plan digest then
          let claims : ConfirmationClaims :=
            { source_instance := call.source, source_id, plan_digest := digest, planner_version,
              operation_id, actor_id := call.actor_id }
          some (s.put i { call with point := .planned, claims := some claims })
        else some (s.put i { call with point := .leaving })
      | _ => some (s.put i { call with point := .leaving })
    else none
  | .issue token =>
    -- A token is 256 random bits: nobody has seen or made it up before.
    if call.point = .planned ∧ (∀ issue ∈ s.issues, issue.token ≠ token) ∧
        (∀ other ∈ s.calls, other.token ≠ some token) then
      match call.claims with
      | some claims =>
        match issue s.entries s.clock token claims with
        | some entries =>
          some { s.put i { call with point := .leaving } with
            entries
            issues := s.issues ++
              [{ token, source := call.source, actor_id := call.actor_id, claims, time := s.clock }] }
        | none => some (s.put i { call with point := .leaving })
      | none => none
    else none
  | statement => step_review s i call statement

/-- The other statements of `apply`. -/
def step_apply (token : String) (run_id : Int) : Statement → Option State
  | .start_run source_type commit =>
    -- The trigger on `sync_runs` takes the gate of the source, too.
    if call.point = .called ∧ s.gate_free call.source then
      match start_run s.runs commit run_id call.began call.source source_type .MANUAL (created_by call.actor_id) with
      | (runs, .ok _) => some { s.put i { call with point := .started, recorded := true } with runs }
      | (runs, .error _) => some { s.put i { call with point := .closed } with runs }
    else none
  | .consume =>
    if call.point = .started then
      match s.entries.find? (fun entry => entry.token = token) with
      | none => some (s.put i { call with point := .unlocked })
      | some entry =>
        let popped := { s with entries := s.entries.filter (fun entry => entry.token ≠ token) }
        match validate_entry entry s.clock call.source with
        | .error _ =>
          some (popped.put i { call with point := .unlocked, claims := none, consumed_at := some s.clock })
        | .ok claims =>
          let point := if claims.actor_id = call.actor_id then .consumed else .unlocked
          some (popped.put i { call with point, claims := some claims, consumed_at := some s.clock })
    else none
  | .flock =>
    if call.point = .consumed then
      some (s.put i { call with point := if s.flock_free then .locked else .unlocked })
    else none
  | .reload source_id =>
    if call.point = .unused then
      some (s.put i { call with
        point := if call.claims.any (fun claims => claims.source_id = source_id) then .reloaded
          else .leaving })
    else none
  | .bind_plan commit =>
    match call.claims with
    | some claims =>
      if call.point = .reloaded then
        match bind_plan s.runs commit run_id claims.plan_digest claims.planner_version with
        | (runs, .ok ()) => some { s.put i { call with point := .bound } with runs }
        | (runs, .error _) => some { s.put i { call with point := .leaving } with runs }
      else none
    | none => none
  | .child =>
    if call.point = .bound then some (s.put i { call with point := .applying, child_started := true })
    else none
  | .answer outcome =>
    match call.claims with
    | some claims =>
      if call.point = .applying then
        some (s.put i { call with point := .leaving, result := (confirmed claims outcome).toOption })
      else none
    | none => none
  | .close => if call.point = .ungated then some (s.put i { call with point := .unlocked }) else none
  | .succeed commit =>
    if call.point = .unlocked then
      match call.result with
      | none => none
      | some result =>
        match action_counts result with
        | none => none
        | some counts =>
          match finish_run s.runs commit run_id s.clock (succeeded counts result) with
          | (runs, .ok ()) => some { s.put i { call with point := .closed } with runs }
          | (runs, .error _) => some { s.put i { call with result := none } with runs }
    else none
  | .file commit code =>
    if call.point = .unlocked then
      let runs := (finish_run s.runs commit run_id s.clock (apply_worker.failed call.claims code)).1
      some { s.put i { call with point := .closed } with runs }
    else none
  | statement => step_review s i call statement

/-- The steps of the callers, the operations, the administrators and the clock. -/
inductive Action where
  | operation (action : source_operations.Action)
  | decide (decision : Reconciliation)
  | prepare (source digest : String) (operation_id actor_id : Option String)
  | apply (source : String) (actor_id : Option String) (token : String) (run_id : Int)
  | statement (i : Nat) (statement : Statement)
  | crash
  | child_exit (i : Nat)

def step : Action → Option State
  | .operation action =>
    if s.calls.any (fun call => call.holds_gate && gated call.source action) then none
    else (source_operations.step sha256 from_worker s.operations action).map (fun operations => { s with operations })
  | .decide decision => some { s with decisions := s.decisions ++ [decision] }
  | .prepare source digest operation_id actor_id =>
    let call : Call := { source, actor_id, request := .prepare digest operation_id, began := s.clock }
    some { s with calls := s.calls ++ [call] }
  | .apply source actor_id token run_id =>
    let call : Call := { source, actor_id, request := .apply token run_id, began := s.clock }
    some { s with calls := s.calls ++ [call] }
  | .statement i statement =>
    (s.calls[i]?).bind (fun call =>
      if call.alive then
        match call.request with
        | .prepare digest operation_id => step_prepare s i call digest operation_id statement
        | .apply token run_id => step_apply s i call token run_id statement
      else none)
  | .crash =>
    -- The tokens are lost with the worker; its sessions and its locks go, too.
    some { s with entries := [], calls := s.calls.map (fun call => { call with alive := false }) }
  | .child_exit i =>
    (s.calls[i]?).bind (fun call =>
      if !call.alive ∧ call.point = .applying then some (s.put i { call with point := .closed }) else none)

/-- The manual apply protocol with any number of calls, over any history. -/
def machine : Machine State Action where
  init s := (source_operations.machine sha256 from_worker).init s.operations ∧ s.entries = [] ∧
    s.issues = [] ∧ s.calls = []
  step := step sha256 from_worker

end netbox_sync.apply_worker
