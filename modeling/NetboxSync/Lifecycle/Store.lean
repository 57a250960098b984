import NetboxSync.Lib.Except
import NetboxSync.Lib.Python
import NetboxSync.Runs.Reconciliation

open json

namespace netbox_sync

namespace esxi_discovery

/-- Canonical text of a UUID that is given with or without braces, hyphens and blanks; not of the nil UUID. -/
def _normalized_uuid (value : Value) : Option String :=
  let candidate : Option String :=
    match value with
    | .str text => some (python.strip text)
    | .int n => some (toString n)
    | _ => none
  candidate.bind (fun candidate =>
    let chars := candidate.toList
    let chars := if chars.head? = some '\x7b' && chars.getLast? = some '\x7d' then chars.tail.dropLast else chars
    let compact := chars.filter (fun c => c ≠ '-' && c ≠ ' ')
    let hex (c : Char) : Bool := c.isDigit || ('a' ≤ c && c ≤ 'f') || ('A' ≤ c && c ≤ 'F')
    if compact.length ≠ 32 || !compact.all hex then none
    else if compact.all (· = '0') then none
    else
      let digits := compact.map Char.toLower
      some (String.ofList (digits.take 8 ++ '-' :: ((digits.drop 8).take 4 ++ '-' :: ((digits.drop 12).take 4 ++
        '-' :: ((digits.drop 16).take 4 ++ '-' :: digits.drop 20))))))

def _HOST_UUID_SENTINELS : List String :=
  ["00000000-0000-0000-0000-000000000001", "ffffffff-ffff-ffff-ffff-ffffffffffff"]

def _validated_host_hardware_uuid (value : Value) : Option String :=
  (_normalized_uuid value).filter (· ∉ _HOST_UUID_SENTINELS)

end esxi_discovery

namespace host_registration

open esxi_discovery

/-- `esxi_anchor` of a preview that is known to be of an ESXi host. -/
def esxi_anchor (hosts : Value) : Option String :=
  match hosts with
  | .arr [.obj host] => _validated_host_hardware_uuid ((dict.get host "id").getD .null)
  | _ => none

/-- The provider host UUID on record, never a name or an address. `is_uuid` is what `UUID(str(value))` takes. -/
def legacy_anchor (is_uuid : Value → Bool) (settings : Fields) : Option String :=
  let mapping := (dict.get settings "onboarding_mapping").getD .null
  match (dict.get settings "provider_identity").getD .null with
  | .null =>
    match mapping with
    | .obj mapping => esxi_anchor ((dict.get mapping "hosts").getD .null)
    | _ => none
  | .obj proof =>
    if !((dict.get proof "provider").getD .null).eq (.str "esxi") ||
        !((dict.get proof "version").getD .null).eq (.int 1) then none
    else
      match _validated_host_hardware_uuid ((dict.get proof "hardware_uuid").getD .null),
          dict.get proof "verification_id" with
      | some anchor, some verification_id =>
        if !is_uuid verification_id then none
        else
          let hosts :=
            match mapping with
            | .obj mapping => (dict.get mapping "hosts").getD (.arr [])
            | _ => .arr []
          -- Verification must not hide a different recorded hardware UUID.
          match hosts with
          | .arr hosts =>
            if hosts.all (fun host =>
                match host with
                | .obj host =>
                  match _validated_host_hardware_uuid ((dict.get host "id").getD .null) with
                  | some recorded => recorded = anchor
                  | none => true
                | _ => false) then some anchor
            else none
          | _ => none
      | _, _ => none
  | _ => none

/-- `value.get(key)`, which only a dictionary has. -/
def member (value : Value) (key : String) : Option Value :=
  match value with
  | .obj fields => some ((dict.get fields key).getD .null)
  | _ => none

/-- The ids of the site and the cluster of the current mapping, otherwise of the verified legacy scope; `none` where a
    part of the settings is no dictionary. -/
def identity_placement (settings : Fields) : Option (Value × Value) := do
  let refs ←
    match (dict.get settings "onboarding_mapping").getD (.obj []) with
    | .obj mapping => some ((dict.get mapping "references").getD (.obj []))
    | _ => some (.obj [])
  let site ← member refs "site"
  let cluster ← if site.truthy then member refs "cluster" else some .null
  if cluster.truthy then
    return (← member site "id", ← member cluster "id")
  else
    let proof := (dict.get settings "provider_identity").getD (.obj [])
    return (← member proof "site_id", ← member proof "cluster_id")

end host_registration

namespace source_lifecycle

open run_history source_operations host_registration

/-- What the journals read from the runtime. `valid_config` is what `SourceRegistry` takes for a configuration. -/
structure Runtime where
  sha256 : String → String
  isoformat : Int → String
  is_uuid : Value → Bool
  valid_config : Fields → Bool

/-- How a call ends without a result: with an allowlisted code, or with another exception. Either way its transaction
    is rolled back. -/
inductive Refusal where
  | LifecycleError (code : String)
  | OperationError (code : String)
  | exception
deriving DecidableEq, Repr

structure SecretReference where
  provider : String
  key : String
deriving DecidableEq, Repr

/-- A row of `sources`; `columns` are those that no lifecycle journal reads by name. -/
structure SourceRow where
  source_instance : String
  name : String
  source_type : String
  address : Value
  enabled : Bool
  sync_enabled : Bool
  verify_ssl : Bool
  username : String
  token_id : SecretReference
  token_secret : SecretReference
  settings : Fields
  columns : Fields := []

def SourceRow.dict (row : SourceRow) : Fields :=
  [("source_instance", .str row.source_instance), ("name", .str row.name),
    ("source_type", .str row.source_type), ("address", row.address), ("enabled", .bool row.enabled),
    ("sync_enabled", .bool row.sync_enabled), ("verify_ssl", .bool row.verify_ssl),
    ("username", .str row.username), ("token_id_provider", .str row.token_id.provider),
    ("token_id_key", .str row.token_id.key), ("token_secret_provider", .str row.token_secret.provider),
    ("token_secret_key", .str row.token_secret.key), ("settings", .obj row.settings)] ++ row.columns

variable (rt : Runtime) (db : Database) (source : String)

/-- `LifecycleStore.revision` -/
def revision (row : SourceRow) : String := run_reconciliation.fingerprint rt.sha256 row.dict

inductive CredentialState where
  | RETAINED_BY_REQUEST
  | REMOVED
  | RETAINED_SHARED_OR_LEGACY
  | CLEANUP_FAILED
deriving DecidableEq, Repr

/-- A row of `source_tombstones` without its key. -/
structure Tombstone where
  display_name : String
  removed_at : Int
  restored_at : Option Int := none
  credential_state : CredentialState
deriving DecidableEq, Repr

/-- A removal as a journal compares it. -/
structure Generation where
  removed_at : Option String
  restored_at : Option String
deriving DecidableEq, Repr

def Tombstone.generation (removed : Tombstone) : Generation :=
  ⟨some (rt.isoformat removed.removed_at), removed.restored_at.map rt.isoformat⟩

inductive RetirementState where
  | READY
  | SENDING
  | UNCERTAIN
  | SUCCEEDED
  | FINALIZED
  | BLOCKED
deriving DecidableEq, Repr

/-- `state IN ('SENDING','UNCERTAIN','SUCCEEDED')` -/
def RetirementState.in_flight : RetirementState → Bool
  | .SENDING | .UNCERTAIN | .SUCCEEDED => true
  | _ => false

structure SourceFlags where
  enabled : Bool
  sync_enabled : Bool
deriving DecidableEq, Repr

/-- `source_retirements.plan` -/
structure RetirementPlan where
  remote : Fields
  removal_generation : Option Generation
  source_flags : SourceFlags

/-- A row of `source_retirements`. -/
structure Retirement where
  operation_id : Nat
  source_instance : String
  actor_id : String
  revision : String
  guard_instance : String
  plan : RetirementPlan
  state : RetirementState := .READY
  receipt : Option Fields := none
  safe_code : Option String := none
  remove_credentials : Option Bool := none
  finished_at : Option Int := none
  superseded_by : Option Nat := none
  local_cleanup_verified : Bool := false

instance : Row Retirement := ⟨fun row => row.operation_id⟩

inductive RecoveryState where
  | PREPARED
  | CREDENTIALS_PENDING
  | RESTORED
  | ABANDONED
deriving DecidableEq, Repr

/-- `state IN ('PREPARED','CREDENTIALS_PENDING')` -/
def RecoveryState.active : RecoveryState → Bool
  | .PREPARED | .CREDENTIALS_PENDING => true
  | _ => false

/-- `source_recoveries.plan` -/
structure RecoveryPlan where
  proof : Value
  removal : Tombstone
  credential_key : String
  broker_operation : String
  previous_credentials : SecretReference × SecretReference

/-- A row of `source_recoveries`. -/
structure RecoveryAttempt where
  operation_id : Nat
  source_instance : String
  actor_id : String
  revision : String
  plan : RecoveryPlan
  state : RecoveryState := .PREPARED
  finished_at : Option Int := none

instance : Row RecoveryAttempt := ⟨fun row => row.operation_id⟩

inductive ArchiveMode where
  | FULL_DELETE
  | LEGACY_RETAIN
deriving DecidableEq, Repr

/-- A row of `source_archives` without its key. -/
structure Archive where
  operation_id : Nat
  actor_id : String
  mode : ArchiveMode
  guard_instance : String
  receipt : Fields

/-- The tables of the lifecycle, those without a list by their primary key. -/
structure Database where
  clock : Int := 0
  sources : List SourceRow := []
  tombstones : String → Option Tombstone := fun _ => none
  archives : String → Option Archive := fun _ => none
  retirements : Table Retirement
  recoveries : Table RecoveryAttempt
  operations : Slots := fun _ _ => none
  runs : Table SyncRun
  decisions : List Reconciliation := []
  /-- The sources with a row of `source_removal_requests`. -/
  removal_requests : List String := []

def Database.row : Option SourceRow := db.sources.find? (fun row => row.source_instance = source)

/-- The source is removed and not restored. -/
def Database.removed : Option Tombstone := (db.tombstones source).filter (fun removed => removed.restored_at = none)

def Database.operation_active : Bool :=
  let running (kind : OperationKind) := (db.operations source kind).any (fun slot => slot.status = .RUNNING)
  running .PLAN || running .DISCOVERY

/-- A run of the source is open, or its outcome is not confirmed. -/
def Database.apply_unconfirmed : Bool :=
  (blocking_sync_runs db.runs db.decisions).any (fun run =>
    run.source_instance = source && (run.status = .RUNNING || unresolved run.status))

def Database.recovery_in (p : RecoveryState → Bool) : Bool :=
  db.recoveries.rows.any (fun attempt => attempt.source_instance = source && p attempt.state)

def Database.retirement_in_flight : Bool :=
  db.retirements.rows.any (fun record => record.source_instance = source && record.state.in_flight)

/-- The registered sources other than the given one. -/
def Database.peers : List SourceRow :=
  db.sources.filter (fun row => row.source_instance ≠ source && (db.removed row.source_instance).isNone)

def Database.update_source (f : SourceRow → SourceRow) : List SourceRow :=
  db.sources.map (fun row => if row.source_instance = source then f row else row)

/-- `source_gate`; the advisory lock makes the transactions of one source take turns. -/
def source_gate (allow_retirement : Bool) : Except Refusal Unit :=
  if allow_retirement then .ok ()
  else do
    Except.require (db.archives source).isNone (.OperationError "SOURCE_ARCHIVED")
    Except.require (!db.retirement_in_flight source) (.OperationError "SOURCE_RETIREMENT_PENDING")
    Except.require (source ∉ db.removal_requests) (.OperationError "SOURCE_RETIREMENT_PENDING")

def _row : Except Refusal SourceRow :=
  match db.row source with
  | some row => .ok row
  | none => .error (.LifecycleError "SOURCE_NOT_FOUND")

/-- `d[key]`, which raises `KeyError`. -/
def item (d : Fields) (key : String) : Except Refusal Value :=
  match dict.get d key with
  | some value => .ok value
  | none => .error .exception

/-- `d.get(key)` -/
def get (d : Fields) (key : String) : Value := (dict.get d key).getD .null

/-- A value that is used as a dictionary, which raises `AttributeError`. -/
def fields : Value → Except Refusal Fields
  | .obj fields => .ok fields
  | _ => .error .exception

theorem source_instance_of_row {db : Database} {source : String} {row : SourceRow} (h : db.row source = some row) :
    row.source_instance = source := by
  simpa using List.find?_some h

theorem row_ok {db : Database} {source : String} {row : SourceRow} (h : _row db source = .ok row) :
    db.row source = some row := by
  unfold _row at h
  split at h
  next hrow =>
    cases h
    exact hrow
  next => cases h

/-- An update of one source leaves the rows of the others. -/
theorem row_update_source {f : SourceRow → SourceRow} (hf : ∀ row, (f row).source_instance = row.source_instance)
    (source' : String) :
    (db.update_source source f).find? (fun row => row.source_instance = source') =
      if source' = source then (db.row source').map f else db.row source' := by
  have hname : ((fun row : SourceRow => decide (row.source_instance = source')) ∘
      fun row => if row.source_instance = source then f row else row) =
      fun row => decide (row.source_instance = source') := by
    funext row
    simp only [Function.comp]
    split <;> simp [hf]
  rw [Database.update_source, List.find?_map, hname, ← Database.row]
  cases hrow : db.row source' with
  | none => simp
  | some row =>
    rw [Option.map_some, Option.map_some, source_instance_of_row hrow]
    split <;> rfl

theorem source_gate_ok {db : Database} {source : String} {result : Unit}
    (h : source_gate db source false = .ok result) : db.retirement_in_flight source = false := by
  simp only [source_gate, Bool.false_eq_true, if_false, Except.bind_eq_ok_iff, Except.require_eq_ok_iff,
    Bool.not_eq_true'] at h
  obtain ⟨_, _, _, hflight, _⟩ := h
  exact hflight

end source_lifecycle

end netbox_sync
