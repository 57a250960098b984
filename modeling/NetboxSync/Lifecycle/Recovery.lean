import NetboxSync.Lifecycle.Journal

open json

namespace netbox_sync.source_recovery

open run_history source_operations host_registration source_lifecycle

variable (rt : Runtime) (db : Database) (source : String) (operation : Nat) (actor : String)

/-- `Recovery._retired`: the latest finalized retirement that no completed recovery supersedes. -/
def _retired : Option Retirement :=
  let restored (time : Int) : Bool := db.recoveries.rows.any (fun attempt =>
    attempt.source_instance = source && attempt.state = .RESTORED && attempt.finished_at.any (time ≤ ·))
  let retired := db.retirements.rows.filter (fun record =>
    record.source_instance = source && record.state = .FINALIZED && (db.removed source).isSome &&
      record.finished_at.any (fun time => !restored time))
  (sorting.sorted (fun record : Retirement => -(record.finished_at.getD 0)) retired).head?

def identity_review : Refusal := .LifecycleError "SOURCE_RECOVERY_IDENTITY_REVIEW"

/-- `Recovery._guard` -/
def _guard (row : SourceRow) (revision : String) (proof : Value) : Except Refusal Tombstone := do
  let source := row.source_instance
  Except.require (source_lifecycle.revision rt row = revision) (.LifecycleError "SOURCE_LIFECYCLE_CONFLICT")
  let removed ←
    match db.removed source with
    | some removed => if row.enabled then .error (.LifecycleError "SOURCE_RECOVERY_NOT_REMOVED") else .ok removed
    | none => .error (.LifecycleError "SOURCE_RECOVERY_NOT_REMOVED")
  Except.require (!db.operation_active source) (.LifecycleError "SOURCE_OPERATION_ACTIVE")
  Except.require (!db.apply_unconfirmed source) (.LifecycleError "SOURCE_APPLY_UNCONFIRMED")
  let (site, cluster) ← retirement_journal.placement row
  match proof, legacy_anchor rt.is_uuid row.settings with
  | .obj proof, some anchor =>
    Except.require
      (row.source_type = "esxi" && (get proof "source_instance").eq (.str source) &&
        (get proof "host_uuid").eq (.str anchor) && (get proof "blockers").eq (.arr []))
      identity_review
    let digest ←
      match (dict.get proof "digest").getD (.str "") with
      | .str digest => .ok digest
      | _ => .error .exception
    Except.require
      (is_digest digest && (get proof "site_id").eq site && (get proof "cluster_id").eq cluster) identity_review
    if (get proof "mode").eq (.str "RETIRED_EMPTY") then
      Except.require
        ((_retired db source).any (fun retired =>
          (get proof "retirement_id").eq (.str (id_text retired.operation_id)) &&
            (get proof "guard_instance").eq (.str retired.guard_instance) &&
            (get proof "owned").eq (.arr []) && (get proof "retained_manual").eq (.arr [])))
        (.LifecycleError "SOURCE_RECOVERY_EVIDENCE_CHANGED")
    let others := (db.peers source).filter (fun other => other.source_type = "esxi")
    Except.require
      (others.all (fun other => (legacy_anchor rt.is_uuid other.settings).any (· ≠ anchor)))
      (.LifecycleError "SOURCE_RECOVERY_IDENTITY_CONFLICT")
    return removed
  | _, _ => .error identity_review

/-- `operation.hex` names the credentials of an attempt. -/
def credential_key (hex : String) : String := "src-recovery-" ++ hex

/-- `Recovery.prepare`; the result is the record. `hex` is the operation's own. -/
def prepare (hex actor revision : String) (proof : Value) : Except Refusal (Database × RecoveryAttempt) := do
  Except.require (actor ≠ "" && actor.length ≤ 200) (.LifecycleError "REQUEST_INVALID")
  source_gate db source false
  match hprevious : db.recoveries.get operation with
  | some previous =>
    Except.require
      (previous.source_instance = source && previous.actor_id = actor && previous.revision = revision &&
        previous.plan.proof.eq proof) (.LifecycleError "SOURCE_LIFECYCLE_CONFLICT")
    return (db, previous)
  | none =>
    let row ← _row db source
    let removal ← _guard rt db row revision proof
    Except.require (!db.recovery_in source RecoveryState.active) (.LifecycleError "SOURCE_RECOVERY_ACTIVE")
    let record : RecoveryAttempt :=
      { operation_id := operation, source_instance := source, actor_id := actor, revision
        plan :=
          { proof, removal, credential_key := credential_key hex, broker_operation := hex
            previous_credentials := (row.token_id, row.token_secret) } }
    return ({ db with recoveries := db.recoveries.insert record (Table.get_eq_none_iff.mp hprevious) }, record)

/-- `Recovery._attempt` -/
def _attempt : Except Refusal RecoveryAttempt :=
  match db.recoveries.get operation with
  | some record =>
    if record.source_instance = source && record.actor_id = actor then .ok record
    else .error (.LifecycleError "SOURCE_RECOVERY_NOT_FOUND")
  | none => .error (.LifecycleError "SOURCE_RECOVERY_NOT_FOUND")

/-- `UPDATE source_recoveries … WHERE operation_id=%s` -/
def update_attempt (f : RecoveryAttempt → RecoveryAttempt) : Table RecoveryAttempt :=
  db.recoveries.modify operation (fun record => { f record with operation_id := record.operation_id }) (fun _ => rfl)

/-- `Recovery.begin_credentials` -/
def begin_credentials : Except Refusal Database := do
  source_gate db source false
  let record ← _attempt db source operation actor
  if record.state = .RESTORED then return db
  else
    Except.require record.state.active (.LifecycleError "SOURCE_LIFECYCLE_CONFLICT")
    let row ← _row db source
    let _ ← _guard rt db row record.revision record.plan.proof
    return { db with recoveries := update_attempt db operation (fun record =>
      { record with state := .CREDENTIALS_PENDING }) }

/-- The probe's receipt, `metadata`. -/
structure Metadata where
  username : String
  address : Value
  verify_ssl : Bool
  port : Option Int

/-- The check of `metadata`, and of its port. -/
def read_metadata (metadata : Value) : Except Refusal Metadata := do
  match metadata with
  | .obj metadata =>
    match dict.get metadata "username", dict.get metadata "address", dict.get metadata "verify_ssl",
        dict.get metadata "port" with
    | some (.str username), some address, some (.bool verify_ssl), some port =>
      Except.require (username ≠ "" && metadata.length = 4) (.LifecycleError "REQUEST_INVALID")
      match port with
      | .null => return ⟨username, address, verify_ssl, none⟩
      | .int port =>
        Except.require (1 ≤ port && port ≤ 65535) .exception
        return ⟨username, address, verify_ssl, some port⟩
      | _ => .error .exception
    | _, _, _, _ => .error (.LifecycleError "REQUEST_INVALID")
  | _ => .error (.LifecycleError "REQUEST_INVALID")

/-- The source row of a completed recovery. -/
def restored_row (metadata : Metadata) (key : String) (row : SourceRow) : SourceRow :=
  { row with
    enabled := true
    sync_enabled := false
    address := metadata.address
    verify_ssl := metadata.verify_ssl
    username := metadata.username
    token_id := ⟨"file", key⟩
    token_secret := ⟨"file", key⟩
    settings := dict.set row.settings "api_port" (.int (metadata.port.getD 443)) }

/-- The trigger `source_credential_refs_guard`: a row may not take a reference that a source with a tombstone has. -/
def reserved (row : SourceRow) (key : String) : Bool :=
  let reference : SecretReference := ⟨"file", key⟩
  !(row.token_id = reference && row.token_secret = reference) &&
    db.sources.any (fun other => (db.tombstones other.source_instance).isSome &&
      (other.token_id = reference || other.token_secret = reference))

/-- `Recovery.complete`; `owned` is what `verify_owned` answers. -/
def complete (proof metadata : Value) (owned : Bool) : Except Refusal Database := do
  let metadata ← read_metadata metadata
  source_gate db source false
  let record ← _attempt db source operation actor
  if record.state = .RESTORED then return db
  else
    Except.require (record.state = .CREDENTIALS_PENDING) (.LifecycleError "SOURCE_LIFECYCLE_CONFLICT")
    Except.require (proof.eq record.plan.proof) (.LifecycleError "SOURCE_RECOVERY_EVIDENCE_CHANGED")
    let row ← _row db source
    let _ ← _guard rt db row record.revision proof
    let key := record.plan.credential_key
    Except.require owned (.LifecycleError "SOURCE_RECOVERY_CREDENTIALS_UNCONFIRMED")
    Except.require (rt.valid_config (restored_row metadata key row).dict) .exception
    Except.require (!reserved db row key) .exception
    return { db with
      sources := db.update_source source (restored_row metadata key)
      tombstones := fun source' =>
        if source' = source then
          (db.tombstones source').map (fun removed =>
            { removed with restored_at := removed.restored_at.or (some db.clock) })
        else db.tombstones source'
      operations := update_where db.operations
        (fun source' kind slot => source' = source && kind = .PLAN && slot.status = .READY)
        (fun slot =>
          { slot with
            status := .STALE
            result := none
            safe_error_code := some "PLAN_STALE"
            updated_at := db.clock })
      recoveries := update_attempt db operation (fun record =>
        { record with state := .RESTORED, finished_at := some db.clock }) }

/-- `Recovery.abandon_prepared` -/
def abandon_prepared : Except Refusal Database := do
  source_gate db source false
  let record ← _attempt db source operation actor
  if record.state = .ABANDONED then return db
  else
    Except.require (record.state = .PREPARED) (.LifecycleError "SOURCE_RECOVERY_OUTCOME_UNCERTAIN")
    return { db with recoveries := update_attempt db operation (fun record =>
      { record with state := .ABANDONED, finished_at := some db.clock }) }

section

variable {rt : Runtime} {db db' : Database} {source actor : String} {operation : Nat}

theorem attempt_ok {record : RecoveryAttempt} (h : _attempt db source operation actor = .ok record) :
    db.recoveries.get operation = some record ∧ record.source_instance = source := by
  unfold _attempt at h
  split at h
  next found hget =>
    split at h
    next hmatch =>
      cases h
      simp only [Bool.and_eq_true, decide_eq_true_eq] at hmatch
      exact ⟨hget, hmatch.1⟩
    next => cases h
  next => cases h

theorem prepare_ok {hex revision : String} {proof : Value} {record : RecoveryAttempt}
    (h : prepare rt db source operation hex actor revision proof = .ok (db', record)) :
    db' = db ∨ ∃ hnew, record.source_instance = source ∧ record.state = .PREPARED ∧
      db.recovery_in source RecoveryState.active = false ∧
      db' = { db with recoveries := db.recoveries.insert record hnew } := by
  simp only [prepare, Except.bind_eq_ok_iff] at h
  obtain ⟨_, _, _, _, h⟩ := h
  split at h
  next =>
    simp only [Except.bind_eq_ok_iff] at h
    obtain ⟨_, _, h⟩ := h
    cases h
    exact .inl rfl
  next hprevious =>
    simp only [Except.bind_eq_ok_iff, Except.require_eq_ok_iff, Bool.not_eq_true'] at h
    obtain ⟨_, _, _, _, _, hfree, h⟩ := h
    cases h
    exact .inr ⟨_, rfl, rfl, hfree, rfl⟩

theorem begin_credentials_ok (h : begin_credentials rt db source operation actor = .ok db') :
    db' = db ∨ ∃ record, db.recoveries.get operation = some record ∧ record.source_instance = source ∧
      record.state.active = true ∧ db.retirement_in_flight source = false ∧
      db' = { db with recoveries := update_attempt db operation (fun record =>
        { record with state := .CREDENTIALS_PENDING }) } := by
  simp only [begin_credentials, Except.bind_eq_ok_iff] at h
  obtain ⟨_, hgate, record, hattempt, h⟩ := h
  obtain ⟨hget, hsource⟩ := attempt_ok hattempt
  split at h
  next =>
    cases h
    exact .inl rfl
  next =>
    simp only [Except.bind_eq_ok_iff, Except.require_eq_ok_iff] at h
    obtain ⟨_, hactive, _, _, _, _, h⟩ := h
    cases h
    exact .inr ⟨record, hget, hsource, hactive, source_gate_ok hgate, rfl⟩

theorem complete_ok {proof metadata : Value} {owned : Bool}
    (h : complete rt db source operation actor proof metadata owned = .ok db') :
    db' = db ∨ ∃ record metadata key, db.recoveries.get operation = some record ∧ record.source_instance = source ∧
      db.retirement_in_flight source = false ∧ db'.retirements = db.retirements ∧
      db'.sources = db.update_source source (restored_row metadata key) ∧
      db'.recoveries = update_attempt db operation (fun record =>
        { record with state := .RESTORED, finished_at := some db.clock }) := by
  simp only [complete, Except.bind_eq_ok_iff] at h
  obtain ⟨metadata, _, _, hgate, record, hattempt, h⟩ := h
  obtain ⟨hget, hsource⟩ := attempt_ok hattempt
  split at h
  next =>
    cases h
    exact .inl rfl
  next =>
    simp only [Except.bind_eq_ok_iff] at h
    obtain ⟨_, _, _, _, _, _, _, _, _, _, _, _, _, _, h⟩ := h
    cases h
    exact .inr ⟨record, metadata, _, hget, hsource, source_gate_ok hgate, rfl, rfl, rfl⟩

theorem abandon_prepared_ok (h : abandon_prepared db source operation actor = .ok db') :
    db' = db ∨ ∃ record, db.recoveries.get operation = some record ∧ record.source_instance = source ∧
      db' = { db with recoveries := update_attempt db operation (fun record =>
        { record with state := .ABANDONED, finished_at := some db.clock }) } := by
  simp only [abandon_prepared, Except.bind_eq_ok_iff] at h
  obtain ⟨_, _, record, hattempt, h⟩ := h
  obtain ⟨hget, hsource⟩ := attempt_ok hattempt
  split at h
  next =>
    cases h
    exact .inl rfl
  next =>
    simp only [Except.bind_eq_ok_iff] at h
    obtain ⟨_, _, h⟩ := h
    cases h
    exact .inr ⟨record, hget, hsource, rfl⟩

end

end netbox_sync.source_recovery
