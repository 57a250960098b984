import NetboxSync.Lifecycle.Journal

namespace netbox_sync.source_lifecycle

/-- `re.fullmatch(r"[A-Za-z0-9][A-Za-z0-9_-]{15,127}", key)` -/
def is_credential_key (key : String) : Bool :=
  match key.toList with
  | [] => false
  | first :: rest =>
    first.isAlphanum && 15 ≤ rest.length && rest.length ≤ 127 &&
      rest.all (fun c => c.isAlphanum || c = '_' || c = '-')

def SourceRow.references (row : SourceRow) : List SecretReference := [row.token_id, row.token_secret]

/-- The references of the other sources, removed ones among them. -/
def Database.shared_references (db : Database) (source : String) : List SecretReference :=
  (db.sources.filter (fun row => row.source_instance ≠ source)).flatMap SourceRow.references

/-- The keys of a set of references, in order. -/
def credential_keys (references : List SecretReference) : List String :=
  sorting.sorted id (references.map (·.key)).eraseDups

def Database.set_tombstone (db : Database) (source : String) (tombstone : Tombstone) : Database :=
  { db with tombstones := fun source' => if source' = source then some tombstone else db.tombstones source' }

/-- The transaction of `LifecycleStore._remove_locked`; the caller holds the apply lock and cleans the credentials up
    when it is done. -/
def _remove_locked (rt : Runtime) (db : Database) (source expected_revision confirmed_source : String)
    (remove_credentials : Bool) (retirement_operation : Option Nat) : Except Refusal Database := do
  source_gate db source retirement_operation.isSome
  Except.require
    (retirement_operation.all (fun operation => (db.retirements.get operation).any (fun record =>
      record.source_instance = source && record.state = .SUCCEEDED && record.receipt.isSome)))
    (.LifecycleError "RETIREMENT_CONFLICT")
  let row ← _row db source
  Except.require (db.removed source).isNone (.LifecycleError "SOURCE_ALREADY_REMOVED")
  Except.require (revision rt row = expected_revision) (.LifecycleError "SOURCE_LIFECYCLE_CONFLICT")
  Except.require (confirmed_source = row.name) (.LifecycleError "SOURCE_CONFIRMATION_INVALID")
  Except.require (!db.operation_active source) (.LifecycleError "SOURCE_OPERATION_ACTIVE")
  Except.require (!db.apply_unconfirmed source) (.LifecycleError "SOURCE_APPLY_UNCONFIRMED")
  let removed : Tombstone :=
    { display_name := row.name
      removed_at := db.clock
      credential_state := if remove_credentials then .CLEANUP_FAILED else .RETAINED_BY_REQUEST }
  let sources := db.update_source source (fun row => { row with enabled := false, sync_enabled := false })
  return { db with sources }.set_tombstone source removed

/-- `LifecycleStore.cleanup_credentials`; `cleanup` takes the keys of files and tells whether they are gone, or
    raises. -/
def cleanup_credentials (db : Database) (source : String) (cleanup : List String → Option Bool) :
    Except Refusal (Database × CredentialState) :=
  match db.row source, db.removed source with
  | some row, some removed =>
    if removed.credential_state = .REMOVED || removed.credential_state = .RETAINED_SHARED_OR_LEGACY then
      .ok (db, removed.credential_state)
    else
      let ends (state : CredentialState) : Except Refusal (Database × CredentialState) :=
        .ok (db.set_tombstone source { removed with credential_state := state }, state)
      let shared := db.shared_references source
      -- The whole pair is kept if one reference is ambiguous or shared.
      if row.references.all (fun ref => ref.provider = "file" && is_credential_key ref.key && ref ∉ shared) then
        match cleanup (credential_keys row.references) with
        | some true => ends .REMOVED
        | some false => ends .RETAINED_SHARED_OR_LEGACY
        | none => ends .CLEANUP_FAILED
      else ends .RETAINED_SHARED_OR_LEGACY
  | _, _ => .error (.LifecycleError "SOURCE_NOT_FOUND")

theorem remove_locked_ok {rt : Runtime} {db db' : Database} {source expected_revision confirmed_source : String}
    {remove_credentials : Bool} {retirement_operation : Option Nat}
    (h : _remove_locked rt db source expected_revision confirmed_source remove_credentials retirement_operation =
      .ok db') :
    db'.retirements = db.retirements ∧ db'.recoveries = db.recoveries ∧
      db'.sources = db.update_source source (fun row => { row with enabled := false, sync_enabled := false }) := by
  simp only [_remove_locked, Except.bind_eq_ok_iff] at h
  obtain ⟨_, _, _, _, _, _, _, _, _, _, _, _, _, _, _, _, h⟩ := h
  cases h
  exact ⟨rfl, rfl, rfl⟩

/-- A cleanup ends with another state of the tombstone, or none. -/
theorem cleanup_credentials_ok {db db' : Database} {source : String} {cleanup : List String → Option Bool}
    {state : CredentialState} (h : cleanup_credentials db source cleanup = .ok (db', state)) :
    db' = db ∨ ∃ tombstone, db' = db.set_tombstone source tombstone := by
  unfold cleanup_credentials at h
  split at h
  next row removed _ _ =>
    dsimp only at h
    split at h
    · cases h
      exact .inl rfl
    · right
      split at h
      · split at h <;> cases h <;> exact ⟨_, rfl⟩
      · cases h
        exact ⟨_, rfl⟩
  next => cases h

end netbox_sync.source_lifecycle
