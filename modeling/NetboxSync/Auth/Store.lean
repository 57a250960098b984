import NetboxSync.Auth.Directory
import NetboxSync.Auth.Teams
import NetboxSync.Lib.Machine
import NetboxSync.Lib.Past

open json

namespace netbox_sync.auth_policy

open Auth Transaction egress source_teams

/-- The commands of the local root. -/
inductive RootAction where
  | pfsense_policy
  | ldap_sync_due
  | status
  | invite
  | recover
  | managed
  | revoke
  | other
deriving DecidableEq, Repr

def root_action : Option Value → RootAction
  | some (.str "pfsense.policy") => .pfsense_policy
  | some (.str "ldap.sync.due") => .ldap_sync_due
  | some (.str "status") => .status
  | some (.str "invite") => .invite
  | some (.str "recover") => .recover
  | some (.str "managed") => .managed
  | some (.str "revoke") => .revoke
  | _ => .other

inductive Action where
  | login_status
  | enroll
  | login
  | users (action : UsersAction)
  | directory (action : DirectoryAction)
  | teams (action : TeamsAction)
  | reauthenticate
  | authorize
  | logout
  | probe_policy
  | policy
  | policy_update
  | probe_authorize
  | receipt_issue
  | receipt (action : ReceiptAction)
  | other
deriving DecidableEq, Repr

def action_of : Option Value → Action
  | some (.str "login.status") => .login_status
  | some (.str "enroll") => .enroll
  | some (.str "login") => .login
  | some (.str "ldap.users") => .users .list
  | some (.str "ldap.users.sync") => .users .sync
  | some (.str "ldap.users.role") => .users .role
  | some (.str "ldap.settings") => .directory .settings
  | some (.str "ldap.test") => .directory .test
  | some (.str "ldap.save") => .directory .save
  | some (.str "ldap.revoke") => .directory .revoke
  | some (.str "roles") => .directory .roles
  | some (.str "teams") => .teams .read
  | some (.str "teams.create") => .teams .create
  | some (.str "teams.rename") => .teams .rename
  | some (.str "teams.assign") => .teams .assign
  | some (.str "reauthenticate") => .reauthenticate
  | some (.str "authorize") => .authorize
  | some (.str "logout") => .logout
  | some (.str "probe.policy") => .probe_policy
  | some (.str "policy") => .policy
  | some (.str "policy.update") => .policy_update
  | some (.str "probe.authorize") => .probe_authorize
  | some (.str "receipt.issue") => .receipt_issue
  | some (.str "receipt.consume") => .receipt .consume
  | some (.str "receipt.cancel") => .receipt .cancel
  | some (.str "receipt.check") => .receipt .check
  | _ => .other

def ceiling_of : Option Value → Option Ceiling
  | some (.str "existing") => some .existing
  | some (.str "public-ipv4") => some .public_ipv4
  | _ => none

section

variable (rt : Runtime)

/-- A new invitation, for a quarter of an hour. -/
def invite (action : String) (cleared : Document → Document) : Auth Value := do
  let service ← get
  let invitation : Invitation := ⟨rt.digest service.token, service.now + 900⟩
  update (fun state => cleared { state with invitation := some invitation })
  event ("root." ++ action)
  return .obj [("invitation", .str service.token), ("expires_in", .int 900)]

/-- What `recover` takes away. -/
def recovered (principal : Principal) (state : Document) : Document :=
  { state with
    attempts := []
    sessions := []
    ldap_sessions := []
    receipts := []
    principal := some { principal with disabled := true } }

/-- `root(action, payload)` -/
def root (action : RootAction) (payload : Fields) : Auth Value := do
  let state ← state
  match action with
  | .pfsense_policy => return .obj (← policy)
  | .ldap_sync_due => sync_directory rt true
  | .status => return .obj [("ready", .bool true), ("enrolled", .bool state.principal.isSome)]
  | .invite =>
    check state.principal.isNone .ENROLLMENT_INVALID
    invite rt "invite" id
  | .recover =>
    match state.principal with
    | none => refuse .ENROLLMENT_INVALID
    | some principal => invite rt "recover" (recovered principal)
  | .managed =>
    match ceiling_of (dict.get payload "ceiling") with
    | none => refuse .POLICY_INVALID
    | some ceiling =>
      let revision := state.revision + 1
      update (fun state => { state with
        mode := .managed
        ceiling := some ceiling
        revision := revision
        receipts := [] })
      event "root.managed" none [("ceiling", ceiling.value), ("revision", .int revision)]
      return revision_reply revision
  | .revoke =>
    update (fun state => { state with sessions := [], ldap_sessions := [], receipts := [] })
    event "root.revoke"
    return .obj [("revoked", .bool true)]
  | .other => refuse .AUTH_INVALID

def Caller.provider (caller : Caller) : String := if caller.identity.isSome then "ldap" else "local"

/-- `authorize`, when the permission is there -/
def authorize (payload : Fields) (caller : Caller) : Auth Value := do
  if dict.get payload "audit" = some (.bool true) then
    event "permission.checked" caller.id
      [("permission", (dict.get payload "permission").getD .null), ("role", .str caller.role.text)]
  return .obj [("principal_id", .str caller.id), ("username", .str caller.username), ("role", .str caller.role.text),
    ("provider", .str caller.provider), ("permissions", texts (sorted_set caller.role.permissions))]

def logout (token : Option Value) (actor : String) : Auth Value := do
  match token with
  | some (.str token) =>
    update (fun state => { state with
      sessions := dict.pop state.sessions (rt.digest token)
      ldap_sessions := dict.pop state.ldap_sessions (rt.digest token) })
    event "logout" actor
    return .obj [("logged_out", .bool true)]
  | _ => fault

/-- `_authenticated_call`, with the routes that follow it -/
def _authenticated_call (action : Action) (payload : Fields) (token : Option Value) (caller : Caller) :
    Auth Value := do
  let actor := caller.id
  match action with
  | .users action => users_action rt action payload actor
  | .directory action => directory_action rt action payload actor
  | .teams action => teams_action rt action payload actor
  | .reauthenticate =>
    match token with
    | some (.str token) => reauthenticate rt token caller (dict.get payload "password")
    | _ => fault
  | .authorize => authorize payload caller
  | .logout => logout rt token actor
  | .probe_policy =>
    let _ ← permitted rt token "source.probe"
    return revision_reply (← state).revision
  | .policy =>
    let _ ← permitted rt token "policy.read"
    return .obj (← policy)
  | .policy_update => _update_policy rt payload token actor
  | .probe_authorize =>
    let _ ← permitted rt token "source.probe"
    check (((dict.get payload "revision").getD .null).eq (.int (← state).revision)) .POLICY_CONFLICT
    return .obj (("principal_id", .str actor) :: (← policy))
  | .receipt_issue => _issue_receipt rt payload token actor
  | .receipt action => _use_receipt rt payload action token actor
  | .login_status | .enroll | .login | .other => refuse .AUTH_DENIED

/-- The permission that the first look at the session asks for. -/
def first_permission (action : Action) (payload : Fields) : Option Value :=
  if action = .authorize then asked (dict.get payload "permission") else none

def call (action : Action) (payload : Fields) : Auth Value := do
  match action with
  | .login_status => return .obj [("enrollment_available", .bool (← state).principal.isNone)]
  | .enroll => _enroll rt payload
  | .login => _login rt payload
  | action =>
    let token := dict.get payload "session"
    let caller ← session rt token (first_permission action payload)
    _authenticated_call rt action payload token caller

end

end netbox_sync.auth_policy

namespace netbox_sync.auth_store

open auth_policy egress

/-- One call of the store: the payload, the baseline of the environment, and what the transaction will read and draw
    while it runs. -/
structure Request where
  root : Bool
  payload : Fields
  baseline : EgressPolicy := {}
  now : Nat
  directory : List DirectoryAnswer := []
  token : String := ""
  uuid : String := ""
  salt : String := ""
  secret : Option String := none
  /-- `source_assignment_allowed(source)` -/
  assignment_allowed : Bool := true

namespace Request

def action (request : Request) : Action := action_of (dict.get request.payload "action")

def root_action (request : Request) : RootAction := auth_policy.root_action (dict.get request.payload "action")

/-- The token the call is made with. -/
def session (request : Request) : Option Value := dict.get request.payload "session"

def service (request : Request) (state : Document) : Service where
  state
  baseline := request.baseline
  now := request.now
  directory := request.directory
  token := request.token
  uuid := request.uuid
  salt := request.salt
  secret := request.secret

/-- A source that may not be assigned is refused before the document is read. -/
def admissible (request : Request) : Bool :=
  dict.get request.payload "action" ≠ some (.str "teams.assign") ||
    (match dict.get request.payload "source_instance" with
      | some (.str _) => request.assignment_allowed
      | _ => false)

end Request

/-- The transaction of one call: the service is made, which migrates the document, and then asked. -/
def transact (rt : Runtime) (request : Request) : Auth Value := do
  migrate_directory
  if request.root then root rt request.root_action request.payload
  else call rt request.action request.payload

/-- A call with the documents before and after it, its reply, the events it wrote and the answers the directory gave
    to it. -/
structure Entry where
  request : Request
  before : Document
  reply : Except Code Value
  after : Document
  audit : List Event
  answers : List DirectoryAnswer

/-- The answers that were taken. -/
def taken (given left : List DirectoryAnswer) : List DirectoryAnswer := given.take (given.length - left.length)

/-- `AuthStore.call`: a refusal of the policy is committed, every other failure is rolled back -/
def AuthStore.call (rt : Runtime) (state : Document) (request : Request) : Entry :=
  if request.admissible then
    match transact rt request (request.service state) with
    | .done value service =>
      ⟨request, state, .ok value, service.state, service.audit, taken request.directory service.directory⟩
    | .refused code service =>
      ⟨request, state, .error code, service.state, service.audit, taken request.directory service.directory⟩
    | .fault => ⟨request, state, .error .AUTH_UNAVAILABLE, state, [], []⟩
  else ⟨request, state, .error .TEAM_INVALID, state, [], []⟩

/-- The row with the document, and the calls so far, the newest first. -/
structure Store where
  document : Document
  log : List Entry

/-- The clock of the last call. -/
def Store.clock (store : Store) : Nat := (store.log.head?.map (fun entry => entry.request.now)).getD 0

/-- The store of one schema. The row starts empty, or with directory settings from before the individual roles. -/
def machine (rt : Runtime) : Machine Store Request where
  init store := store.log = [] ∧ ∃ ldap, store.document = { initial_state with ldap }
  step store request :=
    if store.clock ≤ request.now then
      let entry := AuthStore.call rt store.document request
      some ⟨entry.after, entry :: store.log⟩
    else none

theorem init_empty (rt : Runtime) : (machine rt).init ⟨initial_state, []⟩ := ⟨rfl, none, rfl⟩

/-- The entry is the call of its request on the document before it. -/
def Entry.Made (rt : Runtime) (e : Entry) : Prop := AuthStore.call rt e.before e.request = e

/-- A step is a call on the document. -/
theorem step_made {rt : Runtime} {store store' : Store} {request : Request}
    (h : (machine rt).step store request = some store') :
    ∃ e : Entry, e.Made rt ∧ e.before = store.document ∧ store' = ⟨e.after, e :: store.log⟩ := by
  obtain ⟨hrequest, hbefore⟩ : (AuthStore.call rt store.document request).request = request ∧
      (AuthStore.call rt store.document request).before = store.document := by
    unfold AuthStore.call
    split
    · split <;> exact ⟨rfl, rfl⟩
    · exact ⟨rfl, rfl⟩
  simp only [machine] at h
  split at h
  · cases h
    refine ⟨AuthStore.call rt store.document request, ?_, hbefore, rfl⟩
    rw [Entry.Made, hbefore, hrequest]
  · cases h

end netbox_sync.auth_store
