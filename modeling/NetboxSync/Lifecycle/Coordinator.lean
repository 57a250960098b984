import NetboxSync.Lifecycle.Exclusion
import NetboxSync.Lifecycle.Removal

open json

namespace netbox_sync.retirement_coordinator

open run_history source_operations source_lifecycle retirement_journal

/-- How a remote call ends: with the guard's answer, with the code of a `ControlError`, or with anything else that
    leaves `execute`. -/
inductive Answer where
  | envelope (guard_instance : String) (result : Fields)
  | control (code : String)
  | exception

def is_status (result : Fields) (status : String) : Bool := (get result "status").eq (.str status)

variable (rt : Runtime) (s : State) (call : Call) (record : Retirement)

/-- `record["plan"]["remote"]["manifest"].get("format") == format`, of a record whose manifest `begin` has read. -/
def is_format (format : Int) : Bool :=
  match dict.get record.plan.remote "manifest" with
  | some (.obj manifest) => has_format manifest format
  | _ => false

/-- The answer to the request of a receipt shows the reviewed intent unexecuted on the installation that was reviewed.
    -/
def verified_intent (guard_instance : String) (result : Fields) : Bool :=
  is_status result "REVIEWED" && record.guard_instance = guard_instance &&
    (Value.obj result).eq (.obj record.plan.remote)

/-- `RetirementCoordinator._finish_exclusive_credentials` -/
def _finish_exclusive_credentials (db : Database) (source : String) (cleanup : List String → Option Bool) :
    Except Refusal Unit := do
  let row ← _row db source
  match db.removed source with
  | none => .error conflict
  | some removed =>
    if removed.credential_state = .REMOVED then return ()
    else
      let shared := db.shared_references source
      let exclusive := row.references.filter (fun ref => ref.provider = "file" && ref ∉ shared)
      Except.require (exclusive.all (fun ref => is_credential_key ref.key)) SOURCE_CREDENTIAL_CLEANUP_PENDING
      if exclusive = [] then return ()
      else
        match cleanup (credential_keys exclusive) with
        | some cleaned => Except.require cleaned SOURCE_CREDENTIAL_CLEANUP_PENDING
        | none => .error .exception

/-- What is known of a request that was sent: nothing, that the guard refused it, or that a receipt of its operation
    is stored. -/
inductive Outcome where
  | unknown
  | refused
  | settled
deriving DecidableEq, Repr

/-- A request to execute an operation, `archive_execute` for an archive. -/
structure Request where
  operation : Nat
  digest : String
  archive : Bool
  outcome : Outcome := .unknown
deriving DecidableEq, Repr

/-- Where a call of `execute` stands. -/
inductive Point where
  | entered
  | resuming
  | beginning
  /-- About to send, after `begin` or with the intent that was just read back. -/
  | dispatching (record : Retirement) (intent : Option (String × Fields))
  | awaiting (record : Retirement) (request : Nat)
  | reading (record : Retirement)
  | rereading
  | resolving (guard_instance : String) (receipt : Fields)
  | unsettled (code : String) (refused : Bool)
  | checking (record : Retirement)
  | removing (record : Retirement) (revision : String)
  /-- The cleanup at the end of `_remove_locked`. -/
  | clearing (record : Retirement)
  | cleaning (record : Retirement)
  | finishing (record : Retirement)
  | purging (record : Retirement)
  | verifying (record : Retirement)
  | finalizing (record : Retirement)
  | pending

/-- A call of `execute`, which holds the apply lock. `moved` remembers that its own `begin` took the operation from
    `READY` to `SENDING`. -/
structure Call where
  source : String
  operation : Nat
  actor : String
  digest : String
  confirmed_source : String
  remove_credentials : Bool
  resume : Bool
  point : Point := .entered
  moved : Bool := false

/-- The tables, the call that holds the apply lock and the requests sent so far. -/
structure State where
  db : Database
  active : Option Call := none
  requests : List Request := []

inductive Action where
  /-- What happens elsewhere, without one of the calls only `execute` makes. -/
  | other (action : source_lifecycle.Action)
  | execute (source : String) (operation : Nat) (actor digest confirmed_source : String)
    (remove_credentials resume : Bool)
  /-- The call ends where it stands: its process dies or a statement raises. -/
  | crash
  | lookup
  | resume (commit : Commit)
  | begin (commit : Commit)
  | send
  | reply (answer : Answer)
  | read (answer : Answer)
  | note (commit : Commit)
  | resolve (commit : Commit)
  | check
  | remove (commit : Commit)
  | clean (cleanup : List String → Option Bool)
  | finish (cleanup : List String → Option Bool)
  | purge_local (answer : Answer)
  | verify (commit : Commit)
  | finalize (admitted : Bool) (commit : Commit)

/-- The calls of the journal that `execute` alone makes. -/
def of_execute : source_lifecycle.Action → Bool
  | .begin .. | .resume_legacy_busy .. | .uncertain .. | .blocked .. | .resolve .. | .finalized .. => true
  | _ => false

/-- The call moves on. -/
def State.goto (point : Point) : State := { s with active := some { call with point } }

/-- The call returns or raises, and the lock is free. -/
def State.leave : State := { s with active := none }

/-- A transaction of the call. One that raises leaves the tables, and the call ends with it; so it does when the reply
    to its commit is lost. -/
def State.transact {α : Type} (commit : Commit) (result : Except Refusal (Database × α)) (next : State → α → State) :
    State :=
  match result, commit with
  | .ok (db, value), .committed => next { s with db } value
  | .ok (db, _), .unacknowledged _ => { s with db }.leave
  | _, _ => s.leave

/-- A stored receipt settles the requests of its operation. -/
def settle (requests : List Request) (operation : Nat) : List Request :=
  requests.map (fun request => if request.operation = operation then { request with outcome := .settled } else request)

/-- Without a record of the operation it is completed or unknown, and nothing is written either way. -/
def looked_up : State :=
  match _record s.db call.source call.operation call.actor with
  | .error _ => s.leave
  | .ok prior =>
    if call.resume && prior.state = .BLOCKED && prior.safe_code = some "SOURCE_OPERATION_ACTIVE" then
      s.goto call .resuming
    else if prior.state = .FINALIZED then s.leave
    else s.goto call .beginning

/-- The request leaves the process. -/
def State.sent : State :=
  let request : Request := { operation := call.operation, digest := call.digest, archive := is_format record 4 }
  { s with requests := s.requests ++ [request] }.goto call (.awaiting record s.requests.length)

def begun (dispatch : Bool) : State :=
  if record.state = .BLOCKED then s.leave
  else if record.state = .SUCCEEDED then s.goto call .rereading
  else if dispatch then s.goto { call with moved := true } (.dispatching record none)
  else s.goto call (.reading record)

/-- A `ControlError` of a request that was not sent or has no definite refusal. -/
def uncertain_code (code : String) : String :=
  if code = "RETIREMENT_SERVER_BUSY" then code else "RETIREMENT_UNCERTAIN"

/-- What follows from the answer about an operation. -/
def classified (guard_instance : String) (result : Fields) : State :=
  if is_status result "SUCCEEDED" then s.goto call (.resolving guard_instance result)
  else s.goto call (.unsettled "RETIREMENT_UNCERTAIN" false)

/-- The answer to the request that was sent. -/
def replied (request : Nat) : Answer → State
  | .envelope guard_instance result => classified s call guard_instance result
  | .control code =>
    if code ∈ DEFINITE_REFUSALS then
      { s with requests := s.requests.modify request (fun request => { request with outcome := .refused }) }.goto call
        (.unsettled code true)
    else s.goto call (.unsettled (uncertain_code code) false)
  | .exception => s.leave

/-- The answer to a request for the receipt. A client that comes back does not send again by that alone; a resumed
    consent does, for an intent that is still there unchanged. -/
def was_read : Answer → State
  | .envelope guard_instance result =>
    if call.resume && is_status result "REVIEWED" then
      if verified_intent record guard_instance result then
        s.goto call (.dispatching record (some (guard_instance, result)))
      else s.leave
    else classified s call guard_instance result
  | .control code => s.goto call (.unsettled (uncertain_code code) false)
  | .exception => s.leave

/-- The journal of a stored receipt is closed only with its generation. -/
def resolved : State := if record.receipt.any generation_closed then s.goto call (.checking record) else s.leave

/-- With the consent on record the credentials are cleaned up; an older consent to keep them is not read as one to
    erase them. -/
def removed : State := s.goto call (if record.remove_credentials = some true then .cleaning record else .pending)

/-- The source is checked again before anything local is removed. -/
def checked : State :=
  match _guard rt s.db call.source record.revision (some record.plan.source_flags) (is_format record 4) with
  | .error _ => s.leave
  | .ok (row, _, generation) =>
    if generation ≠ record.plan.removal_generation then
      -- A crash after the tombstone can be finished only if nothing was restored.
      if (s.db.removed call.source).isSome then removed s call record else s.leave
    else if generation.any (fun generation => generation.restored_at = none) then removed s call record
    else s.goto call (.removing record (revision rt row))

def cleaned_up (state : CredentialState) : State :=
  s.goto call
    (if state = .CLEANUP_FAILED then .pending
      else if is_format record 2 then .finishing record else .finalizing record)

/-- `UPDATE source_retirements SET … WHERE operation_id=%s` of the coordinator. -/
def annotate (db : Database) (operation : Nat) (f : Retirement → Retirement) : Database :=
  { db with retirements := update_record db operation f }

def verified : Retirement := { record with local_cleanup_verified := true }

def cleanup_pending : Retirement := { record with safe_code := some "SOURCE_CREDENTIAL_CLEANUP_PENDING" }

/-- What a call does next, from the point where it stands. -/
def call_step : Action → Option State
  | .crash => some s.leave
  | .lookup =>
    match call.point with
    | .entered => some (looked_up s call)
    | _ => none
  | .resume commit =>
    match call.point with
    | .resuming =>
      some (s.transact commit ((resume_legacy_busy rt s.db call.source call.operation call.actor).map (·, ()))
        (fun s _ => s.goto call .beginning))
    | _ => none
  | .begin commit =>
    match call.point with
    | .beginning =>
      some (s.transact commit
        (retirement_journal.begin rt s.db call.source call.operation call.actor call.digest call.confirmed_source
          call.remove_credentials) (fun s result => begun s call result.1 result.2))
    | _ => none
  | .send =>
    match call.point with
    | .dispatching record _ =>
      some (s.sent call record)
    | _ => none
  | .reply answer =>
    match call.point with
    | .awaiting _ request => some (replied s call request answer)
    | _ => none
  | .read answer =>
    match call.point, answer with
    | .reading record, _ => some (was_read s call record answer)
    | .rereading, .envelope guard_instance receipt => some (s.goto call (.resolving guard_instance receipt))
    | .rereading, _ => some s.leave
    | _, _ => none
  | .note commit =>
    match call.point with
    | .unsettled code refused =>
      some (s.transact commit
        ((if refused then blocked s.db call.source call.operation call.actor code
          else uncertain s.db call.source call.operation call.actor code).map (·, ())) (fun s _ => s.leave))
    | .pending =>
      some (s.transact commit (.ok (annotate s.db call.operation cleanup_pending, ())) (fun s _ => s.leave))
    | _ => none
  | .resolve commit =>
    match call.point with
    | .resolving guard_instance receipt =>
      let result := retirement_journal.resolve s.db call.source call.operation call.actor guard_instance receipt
      let stored : State :=
        if commit.landed && result.isOk then { s with requests := settle s.requests call.operation } else s
      some (stored.transact commit result (fun s record => resolved s call record))
    | _ => none
  | .check =>
    match call.point with
    | .checking record => some (checked rt s call record)
    | _ => none
  | .remove commit =>
    match call.point with
    | .removing record revision =>
      some (s.transact commit
        ((_remove_locked rt s.db call.source revision call.confirmed_source call.remove_credentials
          (some call.operation)).map (·, ()))
        (fun s _ => if call.remove_credentials then s.goto call (.clearing record) else removed s call record))
    | _ => none
  | .clean cleanup =>
    match call.point with
    | .clearing record =>
      some (s.transact .committed (cleanup_credentials s.db call.source cleanup) (fun s _ => removed s call record))
    | .cleaning record =>
      some (s.transact .committed (cleanup_credentials s.db call.source cleanup)
        (fun s state => cleaned_up s call record state))
    | _ => none
  | .finish cleanup =>
    match call.point with
    | .finishing record =>
      some (s.goto call
        (if (_finish_exclusive_credentials s.db call.source cleanup).isOk then .purging record else .pending))
    | _ => none
  | .purge_local answer =>
    match call.point, answer with
    | .purging record, .envelope guard_instance result =>
      if guard_instance = record.guard_instance &&
          (Value.obj result).eq (.obj [("local_cleanup_verified", .bool true)]) then
        some (s.goto call (.verifying record))
      else some s.leave
    | .purging _, _ => some s.leave
    | _, _ => none
  | .verify commit =>
    match call.point with
    | .verifying record =>
      some (s.transact commit (.ok (annotate s.db call.operation verified, ()))
        (fun s _ => s.goto call (.finalizing record)))
    | _ => none
  | .finalize admitted commit =>
    match call.point with
    | .finalizing _ =>
      match finalized s.db call.source call.operation call.actor admitted with
      | .error (.LifecycleError code) =>
        if code = "SOURCE_CREDENTIAL_CLEANUP_PENDING" then some (s.goto call .pending) else some s.leave
      | result => some (s.transact commit (result.map (·, ())) (fun s _ => s.leave))
    | _ => none
  | .other _ | .execute .. => none

/-- `execute` runs under the apply lock, so one call at a time; the rest of the system goes on between its statements.
    -/
def step : Action → Option State
  | .other action =>
    if of_execute action then none else (source_lifecycle.step rt s.db action).map (fun db => { s with db })
  | .execute source operation actor digest confirmed_source remove_credentials resume =>
    match s.active with
    | none =>
      some { s with
        active := some { source, operation, actor, digest, confirmed_source, remove_credentials, resume } }
    | some _ => none
  | action => s.active.bind (fun call => call_step rt s call action)

/-- All sequences of calls from empty journals. -/
def machine : Machine State Action where
  init s := (source_lifecycle.machine rt).init s.db ∧ s.active = none ∧ s.requests = []
  step := step rt

end netbox_sync.retirement_coordinator
