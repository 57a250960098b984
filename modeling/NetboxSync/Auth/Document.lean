import NetboxSync.Auth.Egress
import NetboxSync.Lib.Json.Dumps
import NetboxSync.Lib.Json.Encode
import NetboxSync.Lib.Transaction

open json

namespace netbox_sync.auth_policy

open egress

inductive Code where
  | AUTH_REQUIRED
  | AUTH_REAUTH_REQUIRED
  | AUTH_DENIED
  | AUTH_INVALID
  | AUTH_RATE_LIMITED
  | AUTH_UNAVAILABLE
  | ENROLLMENT_INVALID
  | POLICY_CONFLICT
  | POLICY_INVALID
  | POLICY_HOST_MANAGED
  | PROBE_RECEIPT_INVALID
  | TEAM_INVALID
  | TEAM_CONFLICT
  | LDAP_INVALID
  | LDAP_TLS_FAILED
  | LDAP_UNAVAILABLE
  | LDAP_BIND_FAILED
  | LDAP_ACCESS_DENIED
  | LDAP_CONFLICT
deriving DecidableEq, Repr

def Code.text : Code → String
  | .AUTH_REQUIRED => "AUTH_REQUIRED"
  | .AUTH_REAUTH_REQUIRED => "AUTH_REAUTH_REQUIRED"
  | .AUTH_DENIED => "AUTH_DENIED"
  | .AUTH_INVALID => "AUTH_INVALID"
  | .AUTH_RATE_LIMITED => "AUTH_RATE_LIMITED"
  | .AUTH_UNAVAILABLE => "AUTH_UNAVAILABLE"
  | .ENROLLMENT_INVALID => "ENROLLMENT_INVALID"
  | .POLICY_CONFLICT => "POLICY_CONFLICT"
  | .POLICY_INVALID => "POLICY_INVALID"
  | .POLICY_HOST_MANAGED => "POLICY_HOST_MANAGED"
  | .PROBE_RECEIPT_INVALID => "PROBE_RECEIPT_INVALID"
  | .TEAM_INVALID => "TEAM_INVALID"
  | .TEAM_CONFLICT => "TEAM_CONFLICT"
  | .LDAP_INVALID => "LDAP_INVALID"
  | .LDAP_TLS_FAILED => "LDAP_TLS_FAILED"
  | .LDAP_UNAVAILABLE => "LDAP_UNAVAILABLE"
  | .LDAP_BIND_FAILED => "LDAP_BIND_FAILED"
  | .LDAP_ACCESS_DENIED => "LDAP_ACCESS_DENIED"
  | .LDAP_CONFLICT => "LDAP_CONFLICT"

/-- `READ` -/
def READ : List String := ["source.read", "run.read", "diagnostics.read"]

/-- `OPERATE` -/
def OPERATE : List String :=
  READ ++ ["source.plan", "source.apply", "source.probe", "source.register", "source.schedule"]

/-- `ADMIN` -/
def ADMIN : List String :=
  OPERATE ++ ["catalog.create", "policy.read", "policy.write", "source.configure", "source.remove", "bootstrap.manage",
    "identity.manage"]

inductive Role where
  | viewer
  | operator
  | admin
deriving DecidableEq, Repr

def Role.text : Role → String
  | .viewer => "viewer"
  | .operator => "operator"
  | .admin => "admin"

/-- `permissions(role)` -/
def Role.permissions : Role → List String
  | .viewer => READ
  | .operator => OPERATE
  | .admin => ADMIN

/-- The local administrator. -/
structure Principal where
  id : String
  username : String
  password_hash : String
  disabled : Bool
deriving DecidableEq, Repr

structure Invitation where
  hash : String
  expires : Nat
deriving DecidableEq, Repr

/-- A local session, under the digest of its token. -/
structure Session where
  issued : Nat
  last_seen : Nat
  expires : Nat
  confirmed_at : Option Nat := none
deriving DecidableEq, Repr

/-- What the session of a directory user says of them. -/
structure LdapPrincipal where
  id : String
  username : String
  identity : String
  role : Role
deriving DecidableEq, Repr

structure LdapSession where
  principal : LdapPrincipal
  issued : Nat
  last_seen : Nat
  expires : Nat
  checked : Nat
  confirmed_at : Option Nat := none
deriving DecidableEq, Repr

inductive AccessState where
  | allowed
  | disabled
  | not_member
deriving DecidableEq, Repr

structure LdapUser where
  id : String
  identity : String
  username : String
  display_name : String
  role : Role
  active : Bool
  access_state : AccessState
deriving DecidableEq, Repr

/-- The directory settings. A document from before the individual roles has no `user_model`. -/
structure Ldap where
  config : Fields
  secret_key : String
  revision : Nat
  directory_id : String
  user_model : Option Nat := some 2
deriving DecidableEq

/-- `config.get("enabled")` -/
def enabled (config : Fields) : Bool := ((dict.get config "enabled").getD .null).truthy

/-- `state.get("ldap", {}).get("config", {}).get("enabled")` -/
def Ldap.enabled (saved : Ldap) : Bool := auth_policy.enabled saved.config

structure LdapTest where
  digest : String
  actor : String
  expires : Nat
deriving DecidableEq, Repr

/-- When the users were last read. The members are set one after the other, and the error may be `None`. -/
structure LdapSync where
  attempted_at : Option Nat := none
  success_at : Option Nat := none
  error : Option (Option Code) := none
deriving DecidableEq, Repr

inductive Mode where
  | legacy
  | managed
deriving DecidableEq, Repr

inductive Ceiling where
  | existing
  | public_ipv4
deriving DecidableEq, Repr

inductive Operation where
  | allow
  | revoke
deriving DecidableEq, Repr

/-- The canonical request of a policy change. -/
structure ChangeRequest where
  host : String
  expected_revision : Value
  operation : Operation
deriving DecidableEq

structure Change where
  actor : String
  request : ChangeRequest
  revision : Nat
deriving DecidableEq

structure Receipt where
  actor : String
  revision : Nat
  destination : String
  provider : String
  expires : Nat
  consumed : Bool := false
deriving DecidableEq, Repr

/-- The teams by their id with their names, and the team of a source. -/
structure SourceTeams where
  version : Nat := 1
  revision : Nat := 0
  teams : List (String × String) := []
  assignments : List (String × String) := []
deriving DecidableEq, Repr

/-- The document in the `auth_state` row. -/
structure Document where
  principal : Option Principal := none
  invitation : Option Invitation := none
  sessions : List (String × Session) := []
  attempts : List Nat := []
  revision : Nat := 0
  mode : Mode := .legacy
  ceiling : Option Ceiling := none
  allowed_hosts : List String := []
  denied_cidrs : List String := []
  changes : List (String × Change) := []
  receipts : List (String × Receipt) := []
  ldap : Option Ldap := none
  ldap_sessions : List (String × LdapSession) := []
  ldap_users : List (String × LdapUser) := []
  ldap_attempts : List Nat := []
  ldap_sync : LdapSync := {}
  ldap_test : Option LdapTest := none
  ldap_user_revision : Nat := 0
  source_teams : SourceTeams := {}

def initial_state : Document := {}

/-- What `directory.call` comes back with, the reading of the bind secret included. -/
inductive DirectoryAnswer where
  | value (value : Value)
  | error (code : Code)
  | fault

structure Event where
  action : String
  actor : Option String := none
  at_time : Nat
  details : Fields := []

/-- The functions of the runtime and its libraries. Digests of different texts differ. -/
structure Runtime where
  digest : String → String
  digest_injective : Function.Injective digest
  casefold : String → String
  /-- argon2: the hash with a salt, and the check against a hash -/
  hash : String → String → String
  verify : String → String → Bool
  uuid5 : String → String → String
  /-- `ssl.create_default_context` takes the certificates. -/
  trusts : String → Bool

/-- A runtime in which texts stand for themselves. -/
def Runtime.plain : Runtime where
  digest := id
  digest_injective := Function.injective_id
  casefold := id
  hash _ password := password
  verify hash password := hash = password
  uuid5 := (· ++ ·)
  trusts _ := true

/-- The service object of one call, with what the call will draw: the answers of the directory in their order, a fresh
    token, a fresh UUID and a salt, and the bind secret as it is read or created. -/
structure Service where
  state : Document
  baseline : EgressPolicy
  now : Nat
  audit : List Event := []
  directory : List DirectoryAnswer := []
  token : String := ""
  uuid : String := ""
  salt : String := ""
  secret : Option String := none

abbrev Auth := Transaction Service Code

namespace Auth

def state : Auth Document := do return (← Transaction.get).state

def now : Auth Nat := do return (← Transaction.get).now

def update (f : Document → Document) : Auth Unit :=
  Transaction.modify (fun service => { service with state := f service.state })

/-- `event(action, actor, **details)` -/
def event (action : String) (actor : Option String := none) (details : Fields := []) : Auth Unit :=
  Transaction.modify (fun service => { service with
    audit := service.audit ++ [{ action, actor, at_time := service.now, details }] })

/-- The next answer of the directory. -/
def ask : Auth DirectoryAnswer := do
  let service ← Transaction.get
  match service.directory with
  | [] => return .fault
  | answer :: rest =>
    Transaction.modify (fun service => { service with directory := rest })
    return answer

section

variable {s : Service} {R : Code → Service → Prop}

@[simp]
theorem ends_state {Q : Document → Service → Prop} : state.Ends s Q R ↔ Q s.state s := Iff.rfl

@[simp]
theorem ends_now {Q : Nat → Service → Prop} : now.Ends s Q R ↔ Q s.now s := Iff.rfl

@[simp]
theorem ends_update {f : Document → Document} {Q : Unit → Service → Prop} :
    (update f).Ends s Q R ↔ Q () { s with state := f s.state } := Iff.rfl

@[simp]
theorem ends_event {action : String} {actor : Option String} {details : Fields}
    {Q : Unit → Service → Prop} : (event action actor details).Ends s Q R ↔
      Q () { s with audit := s.audit ++ [{ action, actor, at_time := s.now, details }] } := Iff.rfl

theorem moves_state {R : Service → Service → Prop} [Std.Refl R] : Transaction.Moves R state :=
  fun s => Std.Refl.refl s

theorem moves_now {R : Service → Service → Prop} [Std.Refl R] : Transaction.Moves R now := fun s => Std.Refl.refl s

/-- The answer is the first one that is left, or a fault when none is. -/
theorem ends_ask {Q : DirectoryAnswer → Service → Prop} (hnone : s.directory = [] → Q .fault s)
    (hnext : ∀ answer rest, s.directory = answer :: rest → Q answer { s with directory := rest }) : ask.Ends s Q R := by
  unfold ask
  rw [Transaction.ends_bind, Transaction.ends_get]
  cases hdirectory : s.directory with
  | nil => exact hnone hdirectory
  | cons answer rest => exact hnext answer rest hdirectory

end

end Auth

/-- `bounded(value, maximum)` -/
def bounded (value : Option Value) (maximum : Nat := 256) : Except Code String :=
  match value with
  | some (.str text) => if text = "" || text.length > maximum then .error .AUTH_INVALID else .ok text
  | _ => .error .AUTH_INVALID

end netbox_sync.auth_policy
