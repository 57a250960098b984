import NetboxSync.Lifecycle.Store
import NetboxSync.Operations.Review

open json

namespace netbox_sync.retirement_journal

open run_history source_operations host_registration source_lifecycle

def DEFINITE_REFUSALS : List String :=
  ["RETIREMENT_SOURCE_OBJECTS_REMAIN", "RETIREMENT_DEPENDENCIES_CHANGED", "SOURCE_ARCHIVED",
    "RETIREMENT_BUDGET_EXCEEDED", "RETIREMENT_DATABASE_REFUSAL", "RETIREMENT_PERMISSION_DENIED",
    "RETIREMENT_AUTH_FAILED", "RETIREMENT_TOKEN_WRITE_REQUIRED", "RETIREMENT_AUDIT_PERMISSION_REQUIRED",
    "RETIREMENT_SOURCE_SCOPE_DENIED", "RETIREMENT_OBJECT_VIEW_DENIED", "RETIREMENT_OWNERSHIP_UNPROVEN",
    "RETIREMENT_OWNERSHIP_CONFLICT", "RETIREMENT_MANUAL_CHANGE", "RETIREMENT_PROTECTED_DEPENDENCY",
    "RETIREMENT_GUARD_CHANGED", "RETIREMENT_BLOCKED"]

def conflict : Refusal := .LifecycleError "RETIREMENT_CONFLICT"

/-- The placement of a row, which the settings may be too malformed for. -/
def placement (row : SourceRow) : Except Refusal (Value × Value) :=
  match identity_placement row.settings with
  | some placement => .ok placement
  | none => .error .exception

def positive : Value → Bool
  | .int n => 0 < n
  | _ => false

/-- The row whose revision a journal compares: the one under review, or for a retirement that has disabled it, the row
    with its reviewed flags. -/
def checked_row (row : SourceRow) : Option SourceFlags → Except Refusal SourceRow
  | none => .ok row
  | some flags => do
    Except.require (!(row.enabled || row.sync_enabled)) (.LifecycleError "SOURCE_LIFECYCLE_CONFLICT")
    return { row with enabled := flags.enabled, sync_enabled := flags.sync_enabled }

variable (rt : Runtime) (db : Database) (record : Retirement) (receipt : Fields) (source : String)
  (operation : Nat) (actor : String)

/-- `RetirementJournal._guard` -/
def _guard (source revision : String) (pending_flags : Option SourceFlags) (archive : Bool) :
    Except Refusal (SourceRow × Value × Option Generation) := do
  let row ← _row db source
  let checked ← checked_row row pending_flags
  Except.require (source_lifecycle.revision rt checked = revision) (.LifecycleError "SOURCE_LIFECYCLE_CONFLICT")
  Except.require (!db.operation_active source) (.LifecycleError "SOURCE_OPERATION_ACTIVE")
  Except.require (!db.apply_unconfirmed source) (.LifecycleError "SOURCE_APPLY_UNCONFIRMED")
  Except.require (!db.recovery_in source (· = .CREDENTIALS_PENDING))
    (.LifecycleError "SOURCE_RECOVERY_OUTCOME_UNCERTAIN")
  let (_, cluster) ← placement row
  Except.require (archive || positive cluster) (.LifecycleError "RETIREMENT_BLOCKED")
  let peers := (db.peers source).take 10001
  Except.require (peers.length ≤ 10000) (.LifecycleError "RETIREMENT_BLOCKED")
  peers.forM (fun peer => do
    let (_, other_cluster) ← placement peer
    Except.require (archive || !other_cluster.eq cluster) (.LifecycleError "RETIREMENT_BLOCKED"))
  return (row, cluster, (db.tombstones source).map (·.generation rt))

/-- `RetirementJournal._record` -/
def _record : Except Refusal Retirement :=
  match db.retirements.get operation with
  | some record => if record.source_instance = source && record.actor_id = actor then .ok record else .error conflict
  | none => .error conflict

/-- `UPDATE source_retirements … WHERE operation_id=%s` -/
def update_record (f : Retirement → Retirement) : Table Retirement :=
  db.retirements.modify operation (fun record => { f record with operation_id := record.operation_id }) (fun _ => rfl)

/-- `remote.get("manifest", {})` -/
def manifest (remote : Fields) : Except Refusal Fields := fields ((dict.get remote "manifest").getD (.obj []))

def has_format (manifest : Fields) (format : Int) : Bool := (get manifest "format").eq (.int format)

/-- `RetirementJournal.prepare` -/
def prepare (actor revision guard_instance : String) (remote : Fields) : Except Refusal (Database × Retirement) := do
  Except.require (actor ≠ "" && actor.length ≤ 200) (.LifecycleError "REQUEST_INVALID")
  Except.require ((dumps .spaced (.obj remote)).length ≤ 2 * 1024 * 1024) (.LifecycleError "RETIREMENT_BLOCKED")
  let manifest ← manifest remote
  let (row, cluster, generation) ← _guard rt db source revision none (has_format manifest 4)
  Except.require
    ((get remote "nonce").eq (.str (id_text operation)) && (get remote "source_instance").eq (.str source) &&
      (get remote "status").eq (.str "REVIEWED") && (has_format manifest 2 || has_format manifest 4) &&
      (!has_format manifest 2 || (get manifest "cluster_id").eq cluster)) conflict
  let plan : RetirementPlan := ⟨remote, generation, ⟨row.enabled, row.sync_enabled⟩⟩
  match hprevious : db.retirements.get operation with
  | some previous =>
    Except.require
      (previous.source_instance = source && previous.actor_id = actor && previous.revision = revision &&
        previous.guard_instance = guard_instance && (Value.obj previous.plan.remote).eq (.obj plan.remote) &&
        previous.plan.removal_generation = plan.removal_generation &&
        previous.plan.source_flags = plan.source_flags) conflict
    return (db, previous)
  | none =>
    let record : Retirement :=
      { operation_id := operation, source_instance := source, actor_id := actor, revision, guard_instance, plan }
    return ({ db with retirements := db.retirements.insert record (Table.get_eq_none_iff.mp hprevious) }, record)

/-- A receipt that says its generation is closed; Python tests for `True`. -/
def generation_closed : Bool :=
  match dict.get receipt "generation_closed" with
  | some (.bool true) => true
  | _ => false

/-- A committed outcome that an archive of the present inventory may close. -/
def supersedable : Bool :=
  record.state = .SUCCEEDED && record.receipt.any (fun receipt =>
    receipt ≠ [] && (get receipt "status").eq (.str "SUCCEEDED") && !generation_closed receipt)

/-- `UPDATE … SET superseded_by` for the unclosed outcomes of a source, as the database tells them. -/
def supersede : Table Retirement :=
  db.retirements.updateWhere
    (fun record => record.source_instance = source && record.state = .SUCCEEDED &&
      (record.receipt.bind (fun receipt => arrow_text (.obj receipt) "generation_closed")).getD "false" ≠ "true" &&
      record.superseded_by = none)
    (fun record => { record with superseded_by := some operation }) (fun _ => rfl)

/-- The unique index `retirement_inflight_source` lets the operation's row go in flight. -/
def retirement_inflight_source (retirements : Table Retirement) (source : String) (operation : Nat) : Bool :=
  retirements.rows.all (fun record => !(record.operation_id ≠ operation && record.source_instance = source &&
    record.state.in_flight && record.superseded_by = none))

/-- Attempts that have not dispatched credentials are cancelled. -/
def cancel_prepared : Table RecoveryAttempt :=
  db.recoveries.updateWhere
    (fun attempt => attempt.source_instance = source && attempt.state = RecoveryState.PREPARED)
    (fun attempt => { attempt with state := .ABANDONED, finished_at := some db.clock }) (fun _ => rfl)

/-- What `begin` does besides its own record: an archive supersedes unclosed outcomes, prepared recoveries end and the
    source is disabled. -/
def fence (archive : Bool) : Database :=
  { db with
    retirements := if archive then supersede db source operation else db.retirements
    recoveries := cancel_prepared db source
    sources := db.update_source source (fun row => { row with enabled := false, sync_enabled := false }) }

def granted : Retirement := { record with remove_credentials := some true }

def sending (remove_credentials : Bool) (record : Retirement) : Retirement :=
  { record with state := .SENDING, remove_credentials := some remove_credentials }

/-- `RetirementJournal.begin`, with whether the operation is dispatched. -/
def begin (actor digest confirmed_source : String) (remove_credentials : Bool) :
    Except Refusal (Database × Retirement × Bool) := do
  let record ← _record db source operation actor
  Except.require (record.superseded_by = none) (.LifecycleError "SOURCE_ARCHIVE_REVIEW_REQUIRED")
  let manifest ← fields (← item record.plan.remote "manifest")
  let pending := record.state.in_flight || record.state = .BLOCKED
  let (row, _, generation) ←
    _guard rt db source record.revision (if pending then some record.plan.source_flags else none)
      (has_format manifest 4)
  let reviewed ← item record.plan.remote "digest"
  Except.require
    (reviewed.eq (.str digest) &&
      (record.state = .SUCCEEDED || generation = record.plan.removal_generation) &&
      confirmed_source = row.name) conflict
  if record.state ≠ .READY then
    if record.remove_credentials ≠ some remove_credentials then
      -- Consent to remove credentials may be added later, never taken back.
      Except.require (record.remove_credentials = some false && remove_credentials && record.state.in_flight) conflict
      return ({ db with retirements := update_record db operation granted }, granted record, false)
    else return (db, record, false)
  else
    let older := db.retirements.rows.filter (fun previous =>
      previous.source_instance = source && previous.state.in_flight)
    Except.require (older.all (fun previous => has_format manifest 4 && supersedable previous))
      (.LifecycleError "SOURCE_RETIREMENT_PENDING")
    let db := fence db source operation (has_format manifest 4)
    Except.require (retirement_inflight_source db.retirements source operation) .exception
    return ({ db with retirements := update_record db operation (sending remove_credentials) },
      sending remove_credentials record, true)

/-- `RetirementJournal.resume_legacy_busy` -/
def resume_legacy_busy : Except Refusal Database := do
  let record ← _record db source operation actor
  let manifest ← fields (← item record.plan.remote "manifest")
  Except.require
    (record.state = .BLOCKED && record.safe_code = some "SOURCE_OPERATION_ACTIVE" &&
      record.remove_credentials = some true && record.receipt.isNone && record.superseded_by = none &&
      has_format manifest 2) conflict
  let _ ← _guard rt db source record.revision (some record.plan.source_flags) false
  Except.require
    (!db.retirements.rows.any (fun other =>
      other.source_instance = source && other.operation_id ≠ operation && other.state.in_flight))
    (.LifecycleError "SOURCE_RETIREMENT_PENDING")
  return { db with retirements := update_record db operation (fun record =>
    { record with state := .UNCERTAIN, safe_code := some "RETIREMENT_SERVER_BUSY" }) }

/-- `RetirementJournal.uncertain` and `blocked` differ in the codes they take and the state they leave. -/
def unsettled (actor code : String) (codes : List String) (state : RetirementState) : Except Refusal Database := do
  Except.require (code ∈ codes) (.LifecycleError "REQUEST_INVALID")
  let record ← _record db source operation actor
  Except.require (record.state = .SENDING || record.state = .UNCERTAIN) conflict
  return { db with retirements := update_record db operation (fun record =>
    { record with state, safe_code := some code }) }

def uncertain (actor code : String) : Except Refusal Database :=
  unsettled db source operation actor code ["RETIREMENT_UNCERTAIN", "RETIREMENT_SERVER_BUSY"] .UNCERTAIN

def blocked (actor code : String) : Except Refusal Database :=
  unsettled db source operation actor code DEFINITE_REFUSALS .BLOCKED

/-- The entries of a list as texts, which `sorted` orders. A list with another entry is no list of objects: it raises
    or differs from every reviewed one. -/
def texts (items : List Value) : Except Refusal (List String) :=
  items.mapM (fun item =>
    match item with
    | .str text => .ok text
    | _ => .error .exception)

/-- `item[0]` for the rows of a reviewed manifest. -/
def object_keys (manifest : Fields) : Except Refusal (List Value) := do
  match ← item manifest "objects" with
  | .arr rows =>
    rows.mapM (fun row =>
      match row with
      | .arr (key :: _) => .ok key
      | _ => .error .exception)
  | _ => .error .exception

/-- The objects a receipt of the given manifest has to account for. -/
def expected_objects (manifest : Fields) : Except Refusal (List Value) :=
  if has_format manifest 2 then object_keys manifest else .ok []

/-- A list member of a receipt, and its default. -/
def objects (key : String) (default : Value) : Except Refusal (List Value) :=
  match (dict.get receipt key).getD default with
  | .arr items => .ok items
  | _ => .error conflict

def succeeded (clock : Int) (record : Retirement) : Retirement :=
  { record with state := .SUCCEEDED, receipt := some receipt, safe_code := none, finished_at := some clock }

/-- `RetirementJournal.resolve` -/
def resolve (actor guard_instance : String) (receipt : Fields) : Except Refusal (Database × Retirement) := do
  let record ← _record db source operation actor
  let expected := record.plan.remote
  let digest ← item expected "digest"
  let reviewed ← item expected "manifest"
  Except.require
    (record.guard_instance = guard_instance && (get receipt "nonce").eq (.str (id_text operation)) &&
      (get receipt "source_instance").eq (.str source) && (get receipt "digest").eq digest &&
      (get receipt "manifest").eq reviewed && (get receipt "status").eq (.str "SUCCEEDED")) conflict
  let deleted ← objects receipt "deleted" .null
  let already_absent ← objects receipt "already_absent" (.arr [])
  Except.require (already_absent = [] || deleted = []) conflict
  let removed ← texts (deleted ++ already_absent)
  let objects ← texts (← expected_objects (← fields reviewed))
  Except.require (sorting.sorted id removed = sorting.sorted id objects) conflict
  if record.state = .SUCCEEDED || record.state = .FINALIZED then
    Except.require (record.receipt.any (fun stored => (Value.obj stored).eq (.obj receipt))) conflict
    return (db, record)
  else
    Except.require (record.state = .SENDING || record.state = .UNCERTAIN) conflict
    return ({ db with retirements := update_record db operation (succeeded receipt db.clock) },
      succeeded receipt db.clock record)

def SOURCE_CREDENTIAL_CLEANUP_PENDING : Refusal := .LifecycleError "SOURCE_CREDENTIAL_CLEANUP_PENDING"

/-- The credentials of a removed source are gone, or known to be kept. -/
def cleaned (removed : Tombstone) : Bool :=
  removed.credential_state = .REMOVED || removed.credential_state = .RETAINED_SHARED_OR_LEGACY

/-- `close_generation`, but for the reservations of hosts, which no journal of the lifecycle reads. -/
def close_generation : Except Refusal Database := do
  let source := record.source_instance
  match record.receipt with
  | none => .error conflict
  | some receipt =>
    Except.require
      ((record.state = .SUCCEEDED || record.state = .FINALIZED) && receipt ≠ [] &&
        (get receipt "status").eq (.str "SUCCEEDED") && generation_closed receipt) conflict
    Except.require ((db.removed source).any cleaned) SOURCE_CREDENTIAL_CLEANUP_PENDING
    let manifest ← fields (← item receipt "manifest")
    let archive : Archive :=
      { operation_id := record.operation_id
        actor_id := record.actor_id
        mode := if has_format manifest 4 then .LEGACY_RETAIN else .FULL_DELETE
        guard_instance := record.guard_instance
        receipt }
    -- `ON CONFLICT DO NOTHING`, and then the row that is there must be this one.
    let previous := (db.archives source).getD archive
    Except.require
      (previous.operation_id = record.operation_id && previous.guard_instance = record.guard_instance &&
        (Value.obj previous.receipt).eq (.obj receipt)) conflict
    return { db with
      archives := fun source' => if source' = source then some previous else db.archives source'
      operations := update_where db.operations (fun source' _ slot => source' = source && slot.status = .READY)
        (fun slot =>
          { slot with
            status := .STALE
            result := none
            safe_error_code := some "PLAN_STALE"
            updated_at := db.clock }) }

/-- The receipt a purge asks for, as the database reads it. -/
def purgeable : Bool :=
  let receipt : Value := .obj receipt
  let manifest := (arrow receipt "manifest").getD .null
  let remote : Value := .obj record.plan.remote
  arrow_text receipt "status" = some "SUCCEEDED" && arrow_text receipt "generation_closed" = some "true" &&
    arrow_text manifest "format" = some "2" &&
    arrow_text receipt "source_instance" = some record.source_instance &&
    arrow_text receipt "nonce" = some (id_text record.operation_id) &&
    arrow_text receipt "digest" = arrow_text remote "digest" &&
    match arrow receipt "manifest", arrow remote "manifest" with
    | some manifest, some reviewed => jsonb_eq manifest reviewed
    | none, none => true
    | _, _ => false

/-- Nothing of a source stays in the tables of the lifecycle. -/
def erased : Database :=
  { db with
    sources := db.sources.filter (fun row => row.source_instance ≠ source)
    tombstones := fun source' => if source' = source then none else db.tombstones source'
    archives := fun source' => if source' = source then none else db.archives source'
    retirements := db.retirements.deleteWhere (fun record => record.source_instance = source)
    recoveries := db.recoveries.deleteWhere (fun attempt => attempt.source_instance = source)
    operations := fun source' kind => if source' = source then none else db.operations source' kind
    runs := db.runs.deleteWhere (fun run => run.source_instance = source)
    decisions := db.decisions.filter (fun decision => decision.source_instance ≠ source)
    removal_requests := db.removal_requests.filter (· ≠ source) }

/-- The database function `purge_retired_source` -/
def purge_retired_source : Except Refusal Database := do
  match db.retirements.get operation with
  | none => .error .exception
  | some record =>
    Except.require
      (record.source_instance = source && record.actor_id = actor && record.state = .SUCCEEDED &&
        record.remove_credentials = some true && record.local_cleanup_verified && record.superseded_by = none &&
        record.receipt.any (purgeable record) && (db.removed source).any cleaned &&
        db.sources.any (fun row => row.source_instance = source && !row.enabled && !row.sync_enabled) &&
        !db.operation_active source && !db.apply_unconfirmed source &&
        !db.recovery_in source (· = .CREDENTIALS_PENDING)) .exception
    return erased db source

def closed : Retirement := { record with state := .FINALIZED, safe_code := none }

/-- `RetirementJournal.finalized`; `admitted` is whether the transaction gets the admission lock. -/
def finalized (admitted : Bool) : Except Refusal Database := do
  let record ← _record db source operation actor
  Except.require (record.state = .SUCCEEDED || record.state = .FINALIZED) conflict
  Except.require (db.removed source).isSome conflict
  Except.require admitted (.LifecycleError "SOURCE_LIFECYCLE_CONFLICT")
  let manifest ← fields (← item record.plan.remote "manifest")
  if has_format manifest 2 then
    Except.require record.local_cleanup_verified SOURCE_CREDENTIAL_CLEANUP_PENDING
    purge_retired_source db source operation actor
  else
    let db ← close_generation db record
    return { db with retirements := update_record db operation closed }

/-- The deleted and the absent objects of the receipt are the objects of the reviewed manifest. -/
def Accounts : Prop :=
  ∃ reviewed keys deleted already_absent removed expected,
    dict.get record.plan.remote "manifest" = some (.obj reviewed) ∧ object_keys reviewed = .ok keys ∧
    objects receipt "deleted" .null = .ok deleted ∧
    objects receipt "already_absent" (.arr []) = .ok already_absent ∧
    texts (deleted ++ already_absent) = .ok removed ∧ texts keys = .ok expected ∧ removed.Perm expected

/-- The receipt is about the reviewed intent. -/
structure Matches (remote receipt : Fields) : Prop where
  digest : ∃ digest, dict.get remote "digest" = some digest ∧ (get receipt "digest").eq digest = true
  manifest : ∃ manifest, dict.get remote "manifest" = some manifest ∧ (get receipt "manifest").eq manifest = true
  status : (get receipt "status").eq (.str "SUCCEEDED") = true

/-- A review as the guard answers it: that of an archive lists no objects. -/
def from_guard (remote : Fields) : Bool :=
  match dict.get remote "manifest" with
  | some (.obj manifest) => !has_format manifest 4 || dict.get manifest "objects" = some (.arr [])
  | _ => true

/-- A review of the guard that `prepare` takes. -/
def Reviewed (remote : Fields) : Prop :=
  ∃ manifest, dict.get remote "manifest" = some (.obj manifest) ∧
    (has_format manifest 2 = true ∨ object_keys manifest = .ok [])

section

variable {rt : Runtime} {db db' : Database} {source actor : String} {operation : Nat}

theorem record_ok {record : Retirement} (h : _record db source operation actor = .ok record) :
    db.retirements.get operation = some record ∧ record.source_instance = source := by
  unfold _record at h
  split at h
  next found hget =>
    split at h
    next hmatch =>
      cases h
      simp only [Bool.and_eq_true, decide_eq_true_eq] at hmatch
      exact ⟨hget, hmatch.1⟩
    next => cases h
  next => cases h

theorem guard_ok {revision : String} {pending_flags : Option SourceFlags} {archive : Bool}
    {result : SourceRow × Value × Option Generation}
    (h : _guard rt db source revision pending_flags archive = .ok result) :
    db.row source = some result.1 ∧ (pending_flags.isSome → result.1.enabled = false) ∧
      db.recovery_in source (· = .CREDENTIALS_PENDING) = false := by
  simp only [_guard, Except.bind_eq_ok_iff, Except.require_eq_ok_iff, Bool.not_eq_true'] at h
  obtain ⟨row, hrow, checked, hchecked, _, _, _, _, _, _, _, hsettled, placed, _, _, _, _, _, _, _, hresult⟩ := h
  cases hresult
  refine ⟨row_ok hrow, fun hsome => ?_, hsettled⟩
  cases pending_flags with
  | none => cases hsome
  | some flags =>
    simp only [checked_row, Except.bind_eq_ok_iff, Except.require_eq_ok_iff, Bool.not_eq_true',
      Bool.or_eq_false_iff] at hchecked
    obtain ⟨_, hflags, _⟩ := hchecked
    exact hflags.1

theorem begin_ok {digest confirmed_source : String} {remove_credentials dispatch : Bool} {record' : Retirement}
    (h : begin rt db source operation actor digest confirmed_source remove_credentials =
      .ok (db', record', dispatch)) :
    ∃ record, db.retirements.get operation = some record ∧ record.source_instance = source ∧
      record.superseded_by = none ∧
      ((record.state ≠ .READY ∧ dispatch = false ∧
          ((db' = db ∧ record' = record) ∨
            (record.remove_credentials = some false ∧
              db' = { db with retirements := update_record db operation granted } ∧ record' = granted record))) ∨
        (record.state = .READY ∧ dispatch = true ∧ (db.row source).isSome ∧
          db.recovery_in source (· = .CREDENTIALS_PENDING) = false ∧
          ∃ archive, retirement_inflight_source (fence db source operation archive).retirements source operation =
              true ∧
            db' = { fence db source operation archive with
              retirements := update_record (fence db source operation archive) operation
                (sending remove_credentials) } ∧
            record' = sending remove_credentials record)) := by
  simp only [begin, Except.bind_eq_ok_iff, Except.require_eq_ok_iff] at h
  obtain ⟨record, hrecord, _, hcurrent, _, _, manifest, _, _, hguard, _, _, _, _, h⟩ := h
  obtain ⟨hget, hsource⟩ := record_ok hrecord
  obtain ⟨hrow, _, hsettled⟩ := guard_ok hguard
  refine ⟨record, hget, hsource, of_decide_eq_true hcurrent, ?_⟩
  split at h
  next hstate =>
    left
    split at h
    next hchange =>
      simp only [Except.bind_eq_ok_iff, Except.require_eq_ok_iff, Bool.and_eq_true, decide_eq_true_eq] at h
      obtain ⟨_, ⟨⟨hretained, _⟩, _⟩, h⟩ := h
      cases h
      exact ⟨hstate, rfl, .inr ⟨hretained, rfl, rfl⟩⟩
    next =>
      cases h
      exact ⟨hstate, rfl, .inl ⟨rfl, rfl⟩⟩
  next hstate =>
    right
    simp only [Except.bind_eq_ok_iff, Except.require_eq_ok_iff] at h
    obtain ⟨_, _, _, hindex, h⟩ := h
    cases h
    exact ⟨not_not.mp hstate, rfl, by simp [hrow], hsettled, has_format manifest 4, hindex, rfl, rfl⟩

theorem resume_legacy_busy_ok (h : resume_legacy_busy rt db source operation actor = .ok db') :
    ∃ record row, db.retirements.get operation = some record ∧ record.source_instance = source ∧
      record.state = .BLOCKED ∧ record.receipt = none ∧ record.superseded_by = none ∧
      db.row source = some row ∧ row.enabled = false ∧
      db.recovery_in source (· = .CREDENTIALS_PENDING) = false ∧
      (∀ other ∈ db.retirements.rows, other.source_instance = source → other.operation_id ≠ operation →
        other.state.in_flight = false) ∧
      db' = { db with retirements := update_record db operation (fun record =>
        { record with state := .UNCERTAIN, safe_code := some "RETIREMENT_SERVER_BUSY" }) } := by
  simp only [resume_legacy_busy, Except.bind_eq_ok_iff, Except.require_eq_ok_iff, Bool.and_eq_true,
    decide_eq_true_eq, Bool.not_eq_true'] at h
  obtain ⟨record, hrecord, _, _, _, _, _, ⟨⟨⟨⟨⟨hblocked, _⟩, _⟩, hreceipt⟩, hcurrent⟩, _⟩, guarded, hguard, _, halone,
    h⟩ := h
  cases h
  obtain ⟨hget, hsource⟩ := record_ok hrecord
  obtain ⟨hrow, henabled, hsettled⟩ := guard_ok hguard
  refine ⟨record, guarded.1, hget, hsource, hblocked, by simpa using hreceipt, hcurrent, hrow, henabled rfl,
    hsettled, ?_, rfl⟩
  intro other hother hown hne
  have hfree := List.any_eq_false.mp halone other hother
  simpa [hown, hne] using hfree

theorem unsettled_ok {code : String} {codes : List String} {state : RetirementState}
    (h : unsettled db source operation actor code codes state = .ok db') :
    ∃ record, db.retirements.get operation = some record ∧ record.source_instance = source ∧
      (record.state = .SENDING ∨ record.state = .UNCERTAIN) ∧
      db' = { db with retirements := update_record db operation (fun record =>
        { record with state, safe_code := some code }) } := by
  simp only [unsettled, Except.bind_eq_ok_iff, Except.require_eq_ok_iff, Bool.or_eq_true, decide_eq_true_eq] at h
  obtain ⟨_, _, record, hrecord, _, hstate, h⟩ := h
  cases h
  obtain ⟨hget, hsource⟩ := record_ok hrecord
  exact ⟨record, hget, hsource, hstate, rfl⟩

theorem item_ok {d : Fields} {key : String} {value : Value} (h : item d key = .ok value) :
    dict.get d key = some value := by
  unfold item at h
  split at h
  next hget =>
    cases h
    exact hget
  next => cases h

theorem fields_ok {value : Value} {d : Fields} (h : fields value = .ok d) : value = .obj d := by
  cases value <;> cases h
  rfl

theorem reviewed_of_formats {remote manifest : Fields} (hmanifest : retirement_journal.manifest remote = .ok manifest)
    (hformats : has_format manifest 2 = true ∨ has_format manifest 4 = true) (hguard : from_guard remote = true) :
    Reviewed remote := by
  have hfields := fields_ok hmanifest
  cases hget : dict.get remote "manifest" with
  | none =>
    -- Without a manifest there is no format.
    rw [hget] at hfields
    cases hfields
    rcases hformats with hformat | hformat <;> cases hformat
  | some value =>
    rw [hget, Option.getD_some] at hfields
    subst hfields
    refine ⟨manifest, hget, hformats.imp_right fun hformat => ?_⟩
    simp only [from_guard, hget, hformat, Bool.not_true, Bool.false_or, decide_eq_true_eq] at hguard
    simp only [object_keys, item, hguard]
    rfl

theorem prepare_ok {revision guard_instance : String} {remote : Fields} {record : Retirement}
    (h : prepare rt db source operation actor revision guard_instance remote = .ok (db', record)) :
    db' = db ∨ ∃ hnew, record.operation_id = operation ∧ record.state = .READY ∧ record.receipt = none ∧
      record.remove_credentials = none ∧ (from_guard remote = true → Reviewed record.plan.remote) ∧
      db' = { db with retirements := db.retirements.insert record hnew } := by
  simp only [prepare, Except.bind_eq_ok_iff, Except.require_eq_ok_iff, Bool.and_eq_true, Bool.or_eq_true] at h
  obtain ⟨_, _, _, _, manifest, hmanifest, guarded, _, _, ⟨⟨_, hformats⟩, _⟩, h⟩ := h
  split at h
  next =>
    simp only [Except.bind_eq_ok_iff] at h
    obtain ⟨_, _, h⟩ := h
    cases h
    exact .inl rfl
  next hprevious =>
    cases h
    exact .inr ⟨_, rfl, rfl, rfl, rfl, reviewed_of_formats hmanifest hformats, rfl⟩

theorem resolve_ok {guard_instance : String} {receipt : Fields} {record' : Retirement}
    (h : resolve db source operation actor guard_instance receipt = .ok (db', record')) :
    ∃ record, db.retirements.get operation = some record ∧ record.source_instance = source ∧
      ((db' = db ∧ record' = record ∧ (record.state = .SUCCEEDED ∨ record.state = .FINALIZED)) ∨
        ((record.state = .SENDING ∨ record.state = .UNCERTAIN) ∧
          (Reviewed record.plan.remote → Accounts record receipt) ∧ Matches record.plan.remote receipt ∧
          db' = { db with retirements := update_record db operation (succeeded receipt db.clock) } ∧
          record' = succeeded receipt db.clock record)) := by
  simp only [resolve, Except.bind_eq_ok_iff, Except.require_eq_ok_iff, Bool.and_eq_true] at h
  obtain ⟨record, hrecord, digest, hdigest, value, hvalue, _, ⟨⟨⟨_, hsame_digest⟩, hsame⟩, hstatus⟩, deleted,
    hdeleted, absent, habsent, _, _, removed, hremoved, manifest, hmanifest, keys, hkeys, expected, hexpected, _,
    hsorted, h⟩ := h
  obtain ⟨hget, hsource⟩ := record_ok hrecord
  refine ⟨record, hget, hsource, ?_⟩
  split at h
  next hstate =>
    simp only [Except.bind_eq_ok_iff] at h
    obtain ⟨_, _, h⟩ := h
    cases h
    exact .inl ⟨rfl, rfl, by simpa using hstate⟩
  next =>
    simp only [Except.bind_eq_ok_iff, Except.require_eq_ok_iff, Bool.or_eq_true, decide_eq_true_eq] at h
    obtain ⟨_, hstate, h⟩ := h
    cases h
    refine .inr ⟨hstate, ?_, ⟨⟨digest, item_ok hdigest, hsame_digest⟩, ⟨value, item_ok hvalue, hsame⟩, hstatus⟩,
      rfl, rfl⟩
    rintro ⟨reviewed, hreviewed, hformat⟩
    rw [item_ok hvalue, fields_ok hmanifest] at hreviewed
    cases hreviewed
    rw [fields_ok hmanifest] at hvalue
    refine ⟨manifest, keys, deleted, absent, removed, expected, item_ok hvalue, ?_, hdeleted, habsent, hremoved,
      hexpected, ?_⟩
    · unfold expected_objects at hkeys
      split at hkeys
      next => exact hkeys
      next hother =>
        cases hkeys
        exact hformat.resolve_left hother
    · have hperm := sorting.sorted_perm id removed
      rw [of_decide_eq_true hsorted] at hperm
      exact hperm.symm.trans (sorting.sorted_perm id expected)

theorem purge_retired_source_ok (h : purge_retired_source db source operation actor = .ok db') :
    db' = erased db source ∧ ∃ record, db.retirements.get operation = some record ∧
      record.source_instance = source ∧ record.state = .SUCCEEDED ∧ record.superseded_by = none := by
  unfold purge_retired_source at h
  split at h
  next => cases h
  next record hget =>
    simp only [Except.bind_eq_ok_iff, Except.require_eq_ok_iff, Bool.and_eq_true, decide_eq_true_eq] at h
    obtain ⟨_, ⟨⟨⟨⟨⟨⟨⟨⟨⟨⟨⟨hsource, _⟩, hstate⟩, _⟩, _⟩, hcurrent⟩, _⟩, _⟩, _⟩, _⟩, _⟩, _⟩, h⟩ := h
    cases h
    exact ⟨rfl, record, hget, hsource, hstate, hcurrent⟩

theorem close_generation_ok {record : Retirement} (h : close_generation db record = .ok db') :
    (db'.sources = db.sources ∧ db'.retirements = db.retirements ∧ db'.recoveries = db.recoveries) ∧
      ∃ receipt, record.receipt = some receipt ∧ generation_closed receipt = true := by
  unfold close_generation at h
  dsimp only at h
  split at h
  next => cases h
  next receipt hreceipt =>
    simp only [Except.bind_eq_ok_iff, Except.require_eq_ok_iff, Bool.and_eq_true] at h
    obtain ⟨_, ⟨_, hclosed⟩, _, _, _, _, _, _, _, _, h⟩ := h
    cases h
    exact ⟨⟨rfl, rfl, rfl⟩, receipt, hreceipt, hclosed⟩

theorem finalized_ok {admitted : Bool} (h : finalized db source operation actor admitted = .ok db') :
    ∃ record, db.retirements.get operation = some record ∧ record.source_instance = source ∧
      (record.state = .SUCCEEDED ∨ record.state = .FINALIZED) ∧
      ((db' = erased db source ∧ record.state = .SUCCEEDED ∧ record.superseded_by = none) ∨
        ((db'.sources = db.sources ∧ db'.recoveries = db.recoveries ∧
          db'.retirements = update_record db operation closed) ∧
          ∃ receipt, record.receipt = some receipt ∧ generation_closed receipt = true)) := by
  simp only [finalized, Except.bind_eq_ok_iff, Except.require_eq_ok_iff, Bool.or_eq_true, decide_eq_true_eq] at h
  obtain ⟨record, hrecord, _, hstate, _, _, _, _, _, _, manifest, _, h⟩ := h
  obtain ⟨hget, hsource⟩ := record_ok hrecord
  refine ⟨record, hget, hsource, hstate, ?_⟩
  split at h
  next =>
    simp only [Except.bind_eq_ok_iff] at h
    obtain ⟨_, _, h⟩ := h
    obtain ⟨herased, found, hfound, _, hsucceeded, hcurrent⟩ := purge_retired_source_ok h
    rw [hget] at hfound
    cases hfound
    exact .inl ⟨herased, hsucceeded, hcurrent⟩
  next =>
    simp only [Except.bind_eq_ok_iff] at h
    obtain ⟨archived, harchived, h⟩ := h
    cases h
    obtain ⟨⟨hsources, hretirements, hrecoveries⟩, hclosed⟩ := close_generation_ok harchived
    exact .inr ⟨⟨hsources, hrecoveries, by rw [update_record, update_record, hretirements]⟩, hclosed⟩

end

end netbox_sync.retirement_journal
