import Mathlib.Data.List.Dedup
import Mathlib.Data.List.Infix
import NetboxSync.Auth.Session
import NetboxSync.Lib.Python

open json

namespace netbox_sync.auth_policy

open Auth Transaction egress

/-- `tuple(sorted(set(values)))` -/
def sorted_set (values : List String) : List String := sorting.sorted id values.dedup

@[simp]
theorem mem_sorted_set {values : List String} {value : String} : value ∈ sorted_set values ↔ value ∈ values := by
  unfold sorted_set
  rw [sorting.mem_sorted, List.mem_dedup]

/-- The networks that are allowed when none is configured. -/
def PRIVATE_CIDRS : List String := ["10.0.0.0/8", "172.16.0.0/12", "192.168.0.0/16"]

/-- `EgressPolicy(...)`, or nothing where it raises `ValueError`. -/
def EgressPolicy.build (policy : EgressPolicy) : Option EgressPolicy := if policy.valid then some policy else none

section

variable (baseline : EgressPolicy) (state : Document)

/-- The policy under the ceiling `existing`. -/
def existing_policy : EgressPolicy :=
  { baseline with denied_cidrs := sorted_set (baseline.denied_cidrs ++ state.denied_cidrs) }

/-- The policy under the ceiling `public-ipv4`. -/
def public_policy : EgressPolicy where
  allowed_cidrs := if baseline.allowed_cidrs = [] then PRIVATE_CIDRS else baseline.allowed_cidrs
  denied_cidrs := sorted_set (baseline.denied_cidrs ++ state.denied_cidrs)
  allowed_hosts := sorted_set (baseline.allowed_hosts ++ state.allowed_hosts)
  allowed_suffixes := baseline.allowed_suffixes

/-- `effective()` -/
def effective : Option EgressPolicy :=
  match state.mode, state.ceiling with
  | .legacy, _ => some baseline
  | .managed, some .existing => EgressPolicy.build (existing_policy baseline state)
  | .managed, _ => EgressPolicy.build (public_policy baseline state)

end

def texts (values : List String) : Value := .arr (values.map .str)

def Mode.value : Mode → Value
  | .legacy => .str "legacy"
  | .managed => .str "managed"

def Ceiling.value : Ceiling → Value
  | .existing => .str "existing"
  | .public_ipv4 => .str "public-ipv4"

/-- `asdict(policy)` -/
def EgressPolicy.asdict (policy : EgressPolicy) : Value :=
  .obj [("allowed_cidrs", texts policy.allowed_cidrs), ("denied_cidrs", texts policy.denied_cidrs),
    ("allowed_hosts", texts policy.allowed_hosts), ("allowed_suffixes", texts policy.allowed_suffixes)]

/-- `policy()` -/
def policy_fields (baseline : EgressPolicy) (state : Document) : Option Fields :=
  (effective baseline state).map (fun policy =>
    [("revision", .int state.revision), ("mode", state.mode.value), ("ceiling", optional Ceiling.value state.ceiling),
      ("allowed_hosts", texts state.allowed_hosts), ("denied_cidrs", texts state.denied_cidrs),
      ("effective", EgressPolicy.asdict policy)])

def policy : Auth Fields := do
  let service ← get
  match policy_fields service.baseline service.state with
  | some fields => return fields
  | none => fault

/-- The host a policy change may name, or nothing. -/
def policy_host (host : String) : Option String :=
  (validate_host host).filter (fun host =>
    !LOCAL_NAMES.contains host && host.toList.contains '.' &&
      (literal host).all (fun octets => (ipaddress.Address.v4 octets).is_global))

def operation_of : Option Value → Option Operation
  | none => some .allow
  | some (.str "allow") => some .allow
  | some (.str "revoke") => some .revoke
  | _ => none

/-- The hosts after a change. -/
def changed_hosts (hosts : List String) (operation : Operation) (host : String) : List String :=
  match operation with
  | .allow => sorted_set (hosts ++ [host])
  | .revoke => hosts.filter (fun value => value ≠ host)

def Operation.text : Operation → String
  | .allow => "allow"
  | .revoke => "revoke"

/-- `request == other`, numbers compared as Python compares them. -/
def ChangeRequest.same (request other : ChangeRequest) : Bool :=
  request.host = other.host && request.expected_revision.eq other.expected_revision &&
    request.operation = other.operation

def revision_reply (revision : Nat) : Value := .obj [("revision", .int revision)]

section

variable (rt : Runtime)

/-- The part of `_update_policy` that makes a new change. -/
def change_policy (actor key : String) (request : ChangeRequest) : Auth Value := do
  let service ← get
  let state := service.state
  check (request.expected_revision = .int state.revision) .POLICY_CONFLICT
  let hosts := changed_hosts state.allowed_hosts request.operation request.host
  check (hosts.length ≤ 256 && (dumps .spaced (texts hosts)).length ≤ 8192) .POLICY_INVALID
  match policy_fields service.baseline { state with allowed_hosts := hosts } with
  | none => fault
  | some fields =>
    check ((dumps .spaced (.obj fields)).utf8ByteSize ≤ 24576) .POLICY_INVALID
    let revision := state.revision + 1
    update (fun state => { state with
      allowed_hosts := hosts
      revision := revision
      receipts := []
      changes := dict.set (evict 4096 Change.revision state.changes) key ⟨actor, request, revision⟩ })
    event ("policy." ++ request.operation.text) actor
      [("host", .str request.host), ("previous_revision", request.expected_revision), ("revision", .int revision),
        ("request_id", .str key)]
    return revision_reply revision

def _update_policy (payload : Fields) (token : Option Value) (actor : String) : Auth Value := do
  let _ ← permitted rt token "policy.write"
  recent rt token
  let state ← state
  check (state.mode = .managed && state.ceiling = some .public_ipv4) .POLICY_HOST_MANAGED
  let host ← lift (bounded (dict.get payload "host") 253)
  match policy_host host with
  | none => refuse .POLICY_INVALID
  | some host =>
    let key ← lift (bounded (dict.get payload "request_id") 64)
    match operation_of (dict.get payload "operation") with
    | none => refuse .POLICY_INVALID
    | some operation =>
      let request : ChangeRequest := ⟨host, (dict.get payload "expected_revision").getD .null, operation⟩
      match dict.get state.changes key with
      | some previous =>
        check (previous.actor = actor && previous.request.same request) .POLICY_CONFLICT
        return revision_reply previous.revision
      | none => change_policy actor key request

def _issue_receipt (payload : Fields) (token : Option Value) (actor : String) : Auth Value := do
  let _ ← permitted rt token "source.probe"
  let service ← get
  let state := service.state
  check (((dict.get payload "revision").getD .null).eq (.int state.revision)) .POLICY_CONFLICT
  let receipts := state.receipts.filter (fun entry => service.now < entry.2.expires)
  check (receipts.length < 128) .AUTH_UNAVAILABLE
  let key ← lift (bounded (dict.get payload "receipt"))
  let destination ← lift (bounded (dict.get payload "destination") 253)
  let provider ← lift (bounded (dict.get payload "provider") 16)
  let receipt : Receipt := ⟨actor, state.revision, destination, provider, service.now + 600, false⟩
  update (fun state => { state with receipts := dict.set receipts (rt.digest key) receipt })
  return .obj [("issued", .bool true)]

inductive ReceiptAction where
  | consume
  | cancel
  | check
deriving DecidableEq, Repr

/-- A receipt that stands for its actor, now and under the current revision. -/
def Receipt.current (value : Receipt) (actor : String) (now revision : Nat) : Bool :=
  value.actor = actor && now < value.expires && value.revision = revision

def consumed_reply : Value := .obj [("consumed", .bool true)]

/-- `value["consumed"] = True` -/
def mark_consumed (key : String) (value : Receipt) : Auth Value := do
  update (fun state => { state with receipts := dict.set state.receipts key { value with consumed := true } })
  return consumed_reply

def _use_receipt (payload : Fields) (action : ReceiptAction) (token : Option Value) (actor : String) :
    Auth Value := do
  let _ ← permitted rt token "source.register"
  let key := rt.digest (← lift (bounded (dict.get payload "receipt")))
  let service ← get
  match action, dict.get service.state.receipts key with
  | .cancel, none => return consumed_reply
  | .cancel, some value =>
    check (value.actor = actor) .PROBE_RECEIPT_INVALID
    mark_consumed key value
  | _, none => refuse .PROBE_RECEIPT_INVALID
  | .check, some value =>
    check (value.current actor service.now service.state.revision && !value.consumed) .PROBE_RECEIPT_INVALID
    return .obj [("valid", .bool true)]
  | .consume, some value =>
    check (value.current actor service.now service.state.revision) .PROBE_RECEIPT_INVALID
    check (dict.get payload "destination" = some (.str value.destination) &&
      dict.get payload "provider" = some (.str value.provider)) .PROBE_RECEIPT_INVALID
    check (!value.consumed) .PROBE_RECEIPT_INVALID
    mark_consumed key value

end

def SYNC_SECONDS : Nat := 300

/-- `DEFAULT` -/
def DEFAULT : Fields :=
  [("enabled", .bool false), ("host", .str ""), ("port", .int 636), ("bind_dn", .str ""), ("user_base", .str ""),
    ("group_base", .str ""), ("user_attribute", .str "sAMAccountName"), ("user_object_class", .str "user"),
    ("group_object_class", .str "group"), ("member_attribute", .str "member"),
    ("identity_attribute", .str "objectGUID"), ("account_control_attribute", .str "userAccountControl"),
    ("ca_pem", .str ""), ("group_dn", .str "")]

/-- The setting is a text that passes the check. -/
def setting (config : Fields) (key : String) (valid : String → Bool) : Bool :=
  match dict.get config key with
  | some (.str text) => valid text
  | _ => false

/-- A text of the settings: bounded and without NUL. -/
def clean (limit : Nat) (text : String) : Bool := text.length ≤ limit && !text.toList.contains '\x00'

/-- `re.fullmatch(r"(?=.{1,253}$)[A-Za-z0-9](?:[A-Za-z0-9.-]*[A-Za-z0-9])?", host)` -/
def is_directory_host (host : String) : Bool :=
  host.toList.head?.any Char.isAlphanum && host.toList.getLast?.any Char.isAlphanum &&
    host.toList.all (fun c => c.isAlphanum || c = '.' || c = '-') && host.length ≤ 253

/-- `re.fullmatch(r"[A-Za-z][A-Za-z0-9-]{0,63}", name)` -/
def is_attribute (name : String) : Bool :=
  name.toList.head?.any Char.isAlpha && name.toList.all (fun c => c.isAlphanum || c = '-') && name.length ≤ 64

/-- `part in text` -/
def contains (text part : String) : Bool := decide (part.toList <:+: text.toList)

/-- The settings with one group: an ambiguous mapping turns the directory off. -/
def migrated_config (config : Fields) : Option Fields :=
  let others := dict.pop config "mappings"
  if (dict.get others "group_dn").isSome then some others
  else
    match (dict.get config "mappings").getD (.arr []) with
    | .arr [.obj mapping] => (dict.get mapping "dn").map (dict.set others "group_dn")
    | .arr [_] => none
    | .arr _ => some (dict.set (dict.set others "group_dn" (.str "")) "enabled" (.bool false))
    | _ => none

def migrate_directory : Auth Unit := do
  match (← state).ldap with
  | none => pure ()
  | some saved =>
    if saved.user_model ≠ some 2 then
      match migrated_config saved.config with
      | none => fault
      | some config =>
        update (fun state => { state with
          ldap := some { saved with config, user_model := some 2, revision := saved.revision + 1 }
          ldap_users := []
          ldap_sessions := []
          ldap_test := none
          ldap_user_revision := 0 })
        event "ldap.individual_roles.migrated" none [("enabled", (dict.get config "enabled").getD .null)]

section

variable (rt : Runtime)

/-- `validate(value)` -/
def validate (value : Option Value) : Except Code Fields :=
  match value with
  | some (.obj config) =>
    if (dict.keys config).all (dict.keys DEFAULT).contains && (dict.keys DEFAULT).all (dict.keys config).contains &&
        (dumps .spaced (.obj config)).utf8ByteSize ≤ 10000 &&
        (match dict.get config "enabled", dict.get config "port" with
          | some (.bool _), some (.int port) => decide (1 ≤ port ∧ port ≤ 65535)
          | _, _ => false) &&
        [("host", 253), ("bind_dn", 1024), ("user_base", 1024), ("group_base", 1024), ("ca_pem", 8192)].all
          (fun limit => setting config limit.1 (clean limit.2)) &&
        setting config "host" is_directory_host &&
        ["bind_dn", "user_base", "group_base"].all (fun key => setting config key (fun text => !blank text)) &&
        ["user_attribute", "user_object_class", "group_object_class", "member_attribute", "identity_attribute",
          "account_control_attribute"].all (fun key => setting config key is_attribute) &&
        setting config "group_dn" (fun text => clean 1024 text && !blank text) &&
        setting config "ca_pem" (fun text => rt.trusts text && !contains text "PRIVATE KEY") then
      .ok config
    else .error .LDAP_INVALID
  | _ => .error .LDAP_INVALID

/-- The loop over the rows of a snapshot. -/
def snapshot_users (state : Document) : List Value → List (String × LdapUser) → Except Code (List (String × LdapUser))
  | [], users => .ok users
  | value :: values, users => do
    let row ← directory_user rt state value
    if (dict.get users row.identity).isSome then .error .LDAP_UNAVAILABLE
    else snapshot_users state values (dict.set users row.identity row)

/-- The user is in no snapshot any more. -/
def LdapUser.departed (user : LdapUser) : LdapUser := { user with active := false, access_state := .not_member }

/-- The users after a snapshot, and how many it had. -/
def next_users (state : Document) (answer : DirectoryAnswer) : Except Code (List (String × LdapUser) × Nat) :=
  match answer with
  | .value (.obj fields) =>
    match dict.get fields "complete", dict.get fields "users" with
    | some (.bool true), some (.arr rows) => do
      if rows.length > 5000 then .error .LDAP_UNAVAILABLE
      else
        let found ← snapshot_users rt state rows []
        let absent := state.ldap_users.filter (fun entry => (dict.get found entry.1).isNone)
        let users := dict.update found (absent.map (fun entry => (entry.1, entry.2.departed)))
        if users.length > 10000 then .error .LDAP_UNAVAILABLE
        else .ok (users, rows.length)
    | _, _ => .error .LDAP_UNAVAILABLE
  | .error code => .error code
  | _ => .error .LDAP_UNAVAILABLE

/-- The sessions of the users that are active. -/
def active_sessions (users : List (String × LdapUser)) (sessions : List (String × LdapSession)) :
    List (String × LdapSession) :=
  sessions.filter (fun entry => (dict.get users entry.2.principal.identity).any LdapUser.active)

def synced_reply (count : Nat) : Value := .obj [("synced", .bool true), ("count", .int count)]

def skipped_reply : Value := .obj [("skipped", .bool true)]

def sync_directory (due : Bool) : Auth Value := do
  let service ← get
  let now := service.now
  if !service.state.ldap.any Ldap.enabled ||
      (due && now < service.state.ldap_sync.attempted_at.getD 0 + SYNC_SECONDS) then
    return skipped_reply
  else
    update (fun state => { state with ldap_sync := { state.ldap_sync with attempted_at := some now } })
    match next_users rt service.state (← ask) with
    | .error code =>
      update (fun state => { state with ldap_sync := { state.ldap_sync with error := some (some code) } })
      event "ldap.users.sync_failed" none [("code", .str code.text)]
      refuse code
    | .ok (users, count) =>
      update (fun state => { state with
        ldap_users := users
        ldap_user_revision := state.ldap_user_revision + 1
        ldap_sync := { state.ldap_sync with success_at := some now, error := some none }
        ldap_sessions := active_sessions users state.ldap_sessions })
      event "ldap.users.synced" none [("count", .int count)]
      return synced_reply count

def role_of : Option Value → Option Role
  | some (.str "viewer") => some .viewer
  | some (.str "operator") => some .operator
  | some (.str "admin") => some .admin
  | _ => none

/-- The local administrator is there and not disabled. -/
def local_enabled (state : Document) : Bool := state.principal.any (fun principal => !principal.disabled)

/-- The user a role change names. -/
def named_user (payload : Fields) (users : List (String × LdapUser)) : Option (String × LdapUser) :=
  users.find? (fun entry => dict.get payload "id" = some (.str entry.2.id))

/-- The sessions of everyone else. -/
def other_sessions (identity : String) (sessions : List (String × LdapSession)) : List (String × LdapSession) :=
  sessions.filter (fun entry => entry.2.principal.identity ≠ identity)

/-- `users_action("ldap.users.role", ...)` -/
def change_role (payload : Fields) (actor : String) : Auth Value := do
  let state ← state
  check (local_enabled state) .AUTH_DENIED
  check (dict.get payload "revision" = some (.int state.ldap_user_revision)) .LDAP_CONFLICT
  match named_user payload state.ldap_users, role_of (dict.get payload "role") with
  | some (key, row), some role =>
    update (fun state => { state with
      ldap_users := dict.set state.ldap_users key { row with role }
      ldap_user_revision := state.ldap_user_revision + 1
      ldap_sessions := other_sessions row.identity state.ldap_sessions })
    event "ldap.user.role_changed" actor
      [("user_id", .str row.id), ("previous_role", .str row.role.text), ("role", .str role.text)]
    return .obj [("updated", .bool true)]
  | _, _ => refuse .LDAP_INVALID

def AccessState.text : AccessState → String
  | .allowed => "allowed"
  | .disabled => "disabled"
  | .not_member => "not_member"

/-- A user without the identity. -/
def LdapUser.listed (user : LdapUser) : Value :=
  .obj [("id", .str user.id), ("username", .str user.username), ("display_name", .str user.display_name),
    ("role", .str user.role.text), ("active", .bool user.active), ("access_state", .str user.access_state.text)]

def LdapSync.value (sync : LdapSync) : Value :=
  .obj ((sync.attempted_at.map (fun time => ("attempted_at", Value.int time))).toList ++
    (sync.success_at.map (fun time => ("success_at", Value.int time))).toList ++
    (sync.error.map (fun code => ("error", optional (fun code => .str (Code.text code)) code))).toList)

/-- The listing of `users_action`. -/
def list_users (payload : Fields) : Auth Value := do
  let state ← state
  match (dict.get payload "q").getD (.str ""), (dict.get payload "offset").getD (.int 0) with
  | .str query, .int offset =>
    check (query.length ≤ 128 && 0 ≤ offset && offset ≤ 10000) .LDAP_INVALID
    let rows := sorting.sorted (fun user => toLex (rt.casefold user.username, user.id))
      ((state.ldap_users.map Prod.snd).filter (fun user =>
        contains (rt.casefold (user.username ++ " " ++ user.display_name)) (rt.casefold query)))
    return .obj [("users", .arr (((rows.drop offset.toNat).take 10).map LdapUser.listed)), ("total", .int rows.length),
      ("offset", .int offset), ("revision", .int state.ldap_user_revision), ("sync", state.ldap_sync.value),
      ("sync_interval_seconds", .int SYNC_SECONDS), ("enabled", .bool (state.ldap.any Ldap.enabled))]
  | _, _ => refuse .LDAP_INVALID

inductive UsersAction where
  | list
  | sync
  | role
deriving DecidableEq, Repr

def users_action (action : UsersAction) (payload : Fields) (actor : String) : Auth Value := do
  let token := dict.get payload "session"
  let _ ← permitted rt token "identity.manage"
  match action with
  | .sync =>
    recent rt token
    sync_directory rt false
  | .role =>
    recent rt token
    change_role payload actor
  | .list => list_users rt payload

/-- The members of two settings are the same. -/
def same_settings (keys : List String) (config previous : Fields) : Bool :=
  keys.all (fun key => dict.get config key = dict.get previous key)

/-- `matrix()` -/
def matrix : Value :=
  .obj [("viewer", texts (sorted_set READ)), ("operator", texts (sorted_set OPERATE)),
    ("admin", texts (sorted_set ADMIN))]

/-- `settings()`: the bind secret is not part of them -/
def settings (state : Document) : Value :=
  .obj [("revision", .int ((state.ldap.map Ldap.revision).getD 0)),
    ("config", .obj ((state.ldap.map Ldap.config).getD DEFAULT)),
    ("bind_secret_present", .bool (state.ldap.any (fun saved => saved.secret_key ≠ ""))),
    ("direct_groups_only", .bool true), ("read_revalidation_seconds", .int 30), ("roles", matrix)]

/-- `_bind_password`: the stored secret goes to the endpoint it was stored for only -/
def _bind_password (payload config : Fields) : Auth String := do
  let service ← get
  match (dict.get payload "bind_password").getD (.str "") with
  | .str password =>
    check (clean 4096 password) .LDAP_INVALID
    if password ≠ "" then return password
    else
      check (service.state.ldap.any (fun previous => previous.secret_key ≠ "" &&
        same_settings ["host", "port", "bind_dn", "ca_pem"] config previous.config)) .LDAP_INVALID
      match service.secret with
      | some password => return password
      | none => refuse .AUTH_UNAVAILABLE
  | _ => refuse .LDAP_INVALID

/-- The reference of the bind secret: a new one if the payload has a password. -/
def bind_key (payload : Fields) (service : Service) : Option String :=
  if ((dict.get payload "bind_password").getD .null).truthy then service.secret
  else service.state.ldap.map Ldap.secret_key

/-- The entries of the new settings are others. -/
def replaces (config : Fields) (state : Document) : Bool :=
  state.ldap.any (fun previous =>
    !same_settings ["host", "port", "user_base", "identity_attribute"] config previous.config)

def config_updated (actor : String) : Auth Value := do
  let state ← state
  event "ldap.config.updated" actor
    [("revision", .int ((state.ldap.map Ldap.revision).getD 0)), ("enabled", .bool (state.ldap.any Ldap.enabled))]
  return settings state

/-- `_save_directory` -/
def _save_directory (payload config : Fields) (actor proof : String) : Auth Value := do
  let service ← get
  check (!enabled config || service.state.ldap_test.any (fun checked =>
    checked.actor = actor && checked.digest = proof && service.now < checked.expires)) .LDAP_INVALID
  match bind_key payload service with
  | none => refuse .AUTH_UNAVAILABLE
  | some secret_key =>
    let known := (service.state.ldap.map Ldap.directory_id).getD ""
    let replaced := replaces config service.state
    let saved : Ldap := {
      config, secret_key
      revision := (service.state.ldap.map Ldap.revision).getD 0 + 1
      directory_id := if replaced || known = "" then service.uuid else known }
    update (fun state => { state with
      ldap := some saved
      ldap_users := if replaced then [] else state.ldap_users
      ldap_sync := {}
      ldap_user_revision := state.ldap_user_revision + 1
      ldap_sessions := []
      ldap_test := none })
    config_updated actor

/-- The saved settings, turned off. -/
def Ldap.disabled (saved : Ldap) : Ldap :=
  { saved with config := dict.set saved.config "enabled" (.bool false), revision := saved.revision + 1 }

inductive DirectoryAction where
  | settings
  | test
  | save
  | revoke
  | roles
deriving DecidableEq, Repr

/-- The part of `directory_action` that checks new settings and saves them. -/
def change_settings (save : Bool) (payload : Fields) (actor : String) : Auth Value := do
  let service ← get
  check (local_enabled service.state) .AUTH_DENIED
  check (dict.get payload "expected_revision" = some (.int ((service.state.ldap.map Ldap.revision).getD 0)))
    .LDAP_CONFLICT
  let config ← lift (validate rt (dict.get payload "config"))
  match service.state.ldap.filter (fun _ => save && !enabled config) with
  | some previous =>
    update (fun state => { state with ldap := some previous.disabled, ldap_sessions := [], ldap_test := none })
    config_updated actor
  | none =>
    let password ← _bind_password payload config
    let proof := rt.digest (dumps_sorted .spaced (.obj config) ++ rt.digest password)
    if save then _save_directory payload config actor proof
    else
      match ← ask with
      | .value _ =>
        update (fun state => { state with ldap_test := some ⟨proof, actor, service.now + 300⟩ })
        event "ldap.test" actor
        return .obj [("ok", .bool true), ("expires_in", .int 300), ("direct_groups_only", .bool true)]
      | .error code => refuse code
      | .fault => fault

def directory_action (action : DirectoryAction) (payload : Fields) (actor : String) : Auth Value := do
  let token := dict.get payload "session"
  let _ ← permitted rt token "identity.manage"
  match action with
  | .settings => return settings (← state)
  | .roles => return .obj [("roles", matrix)]
  | .revoke =>
    recent rt token
    update (fun state => { state with ldap_sessions := [] })
    event "ldap.sessions.revoked" actor
    return .obj [("revoked", .bool true)]
  | .test =>
    recent rt token
    change_settings rt false payload actor
  | .save =>
    recent rt token
    change_settings rt true payload actor

end

end netbox_sync.auth_policy
