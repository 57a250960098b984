import NetboxSync.Auth.Document

open json

namespace netbox_sync.auth_policy

open Auth Transaction

/-- Who makes a call. A directory user has an identity there. -/
structure Caller where
  id : String
  username : String
  role : Role
  identity : Option String
deriving DecidableEq, Repr

/-- `{"session": token, "max_age": 28800}` -/
def session_reply (token : String) : Value := .obj [("session", .str token), ("max_age", .int 28800)]

/-- The key whose entry has the smallest value, the first of them. -/
def oldest {α : Type} (value : α → Nat) : List (String × α) → Option String
  | [] => none
  | (key, entry) :: entries =>
    match entries.find? (fun other => value other.2 < value entry) with
    | none => some key
    | some _ => oldest value entries

/-- The entries without the oldest one, if there are too many. -/
def evict {α : Type} (limit : Nat) (value : α → Nat) (entries : List (String × α)) : List (String × α) :=
  if entries.length ≥ limit then
    match oldest value entries with
    | some key => dict.pop entries key
    | none => entries
  else entries

/-- `value in names`, which raises for a value that has no hash. -/
def member (value : Value) (names : List String) : Auth Bool :=
  match value with
  | .arr _ | .obj _ => fault
  | value => return names.any (fun name => value = .str name)

/-- The permission, if one is asked for, is among the names. -/
def require (permission : Option Value) (names : List String) : Auth Unit :=
  match permission with
  | none => pure ()
  | some permission => do check (← member permission names) .AUTH_DENIED

/-- The permission of a payload: a missing one and `None` ask for nothing. -/
def asked : Option Value → Option Value
  | some .null => none
  | permission => permission

/-- `throttle`: five attempts in five minutes -/
def throttle : Auth Unit := do
  let now ← now
  update (fun state => { state with attempts := state.attempts.filter (fun at_time => now < at_time + 300) })
  check ((← state).attempts.length < 5) .AUTH_RATE_LIMITED
  update (fun state => { state with attempts := state.attempts ++ [now] })

section

variable (rt : Runtime)

/-- `directory_user(value)`: the user with the role they have here -/
def directory_user (state : Document) (value : Value) : Except Code LdapUser :=
  match value, state.ldap with
  | .obj fields, some saved =>
    match dict.get fields "identity", dict.get fields "active", dict.get fields "username",
        dict.get fields "display_name" with
    | some (.str identity), some (.bool active), some (.str username), some (.str display_name) =>
      if identity = "" || identity.length > 128 || username = "" || username.length > 128 ||
          display_name.length > 256 then .error .LDAP_UNAVAILABLE
      else .ok {
        id := rt.uuid5 saved.directory_id identity
        identity, username, display_name
        role := ((dict.get state.ldap_users identity).map LdapUser.role).getD .viewer
        active
        access_state := if active then .allowed else .disabled }
    | _, _, _, _ => .error .LDAP_UNAVAILABLE
  | _, _ => .error .LDAP_UNAVAILABLE

/-- The row the directory confirms the identity with. -/
def confirmed (identity : String) : DirectoryAnswer → Except Code Value
  | .value (.obj fields) =>
    match dict.get fields "identity" with
    | none => .error .LDAP_UNAVAILABLE
    | some found =>
      if found = .str identity && ((dict.get fields "active").getD .null).truthy then .ok (.obj fields)
      else .error .LDAP_ACCESS_DENIED
  | .error code => .error code
  | _ => .error .LDAP_UNAVAILABLE

/-- The session is stored again under its key. -/
def put_ldap_session (key : String) (value : LdapSession) : Auth Unit :=
  update (fun state => { state with ldap_sessions := dict.set state.ldap_sessions key value })

/-- The session after the directory has confirmed the user. -/
def LdapSession.confirmed_as (value : LdapSession) (user : LdapUser) (now : Nat) : LdapSession :=
  { value with
    principal := { value.principal with username := user.username, role := user.role }
    checked := now }

/-- The part of `ldap_session` that asks the directory. -/
def revalidate (key : String) (value : LdapSession) : Auth LdapSession := do
  let now ← now
  match confirmed value.principal.identity (← ask) with
  | .error code =>
    update (fun state => { state with ldap_sessions := dict.pop state.ldap_sessions key })
    event "ldap.session.revoked" value.principal.id
    refuse (if code = .LDAP_ACCESS_DENIED then .AUTH_REQUIRED else .AUTH_UNAVAILABLE)
  | .ok checked =>
    match directory_user rt (← state) checked with
    | .error _ => fault
    | .ok user =>
      update (fun state => { state with ldap_users := dict.set state.ldap_users user.identity user })
      if value.principal.role ≠ user.role then
        event "ldap.role.changed" value.principal.id
          [("previous_role", .str value.principal.role.text), ("role", .str user.role.text)]
      put_ldap_session key (value.confirmed_as user now)
      return value.confirmed_as user now

/-- The directory is asked for a permission that is not for reading, and again after 30 seconds. -/
def must_revalidate (now : Nat) (value : LdapSession) (permission : Option Value) : Auth Bool :=
  if value.checked + 30 ≤ now then return true
  else
    match permission with
    | none => return false
    | some permission => return !(← member permission READ)

def LdapSession.with_role (value : LdapSession) (role : Role) : LdapSession :=
  { value with principal := { value.principal with role } }

/-- The part of `ldap_session` that looks at the stored user. -/
def stored_user (key : String) (value : LdapSession) (permission : Option Value) : Auth Caller := do
  let now ← now
  match dict.get (← state).ldap_users value.principal.identity with
  | none => refuse .AUTH_REQUIRED
  | some user =>
    check user.active .AUTH_REQUIRED
    put_ldap_session key (value.with_role user.role)
    require permission user.role.permissions
    put_ldap_session key { value.with_role user.role with last_seen := now }
    return ⟨value.principal.id, value.principal.username, user.role, some value.principal.identity⟩

def ldap_session (token : String) (permission : Option Value) : Auth Caller := do
  let key := rt.digest token
  let now ← now
  match dict.get (← state).ldap_sessions key, (← state).ldap with
  | some value, some saved =>
    check (now < value.expires && now < value.last_seen + 1800 && saved.enabled) .AUTH_REQUIRED
    let value ← if ← must_revalidate now value permission then revalidate rt key value else pure value
    stored_user key value permission
  | _, _ => refuse .AUTH_REQUIRED

/-- The part of `session` for the local administrator. -/
def local_session (key : String) (value : Session) (permission : Option Value) : Auth Caller := do
  let now ← now
  match (← state).principal with
  | none => refuse .AUTH_REQUIRED
  | some principal =>
    check (!principal.disabled && now < value.expires && now < value.last_seen + 1800) .AUTH_REQUIRED
    require permission ADMIN
    update (fun state => { state with sessions := dict.set state.sessions key { value with last_seen := now } })
    return ⟨principal.id, principal.username, .admin, none⟩

def session (token : Option Value) (permission : Option Value) : Auth Caller := do
  match token with
  | some (.str token) =>
    match dict.get (← state).sessions (rt.digest token) with
    | some value => local_session (rt.digest token) value permission
    | none =>
      if (dict.get (← state).ldap_sessions (rt.digest token)).isSome then ldap_session rt token permission
      else refuse .AUTH_REQUIRED
  | _ => refuse .AUTH_REQUIRED

/-- `session(token, name)` -/
def permitted (token : Option Value) (name : String) : Auth Caller := session rt token (some (.str name))

/-- A session of eight hours. -/
def Session.new (now : Nat) : Session := { issued := now, last_seen := now, expires := now + 28800 }

/-- The sessions that a new one joins. -/
def live_sessions (now : Nat) (sessions : List (String × Session)) : List (String × Session) :=
  evict 32 Session.last_seen (sessions.filter (fun entry => now < entry.2.expires && now < entry.2.last_seen + 1800))

def issue_session : Auth Value := do
  let service ← get
  update (fun state => { state with
    sessions := dict.set (live_sessions service.now state.sessions) (rt.digest service.token)
      (Session.new service.now) })
  return session_reply service.token

/-- `value.get("confirmed_at", value["issued"])` of the session of a token -/
def confirmation (state : Document) (token : String) : Option Nat :=
  match dict.get state.sessions (rt.digest token) with
  | some value => some (value.confirmed_at.getD value.issued)
  | none => (dict.get state.ldap_sessions (rt.digest token)).map (fun value => value.confirmed_at.getD value.issued)

/-- `recent(token)`: the session was confirmed in the last fifteen minutes. -/
def recent (token : Option Value) : Auth Unit := do
  let now ← now
  match token with
  | some (.str token) =>
    match confirmation rt (← state) token with
    | none => refuse .AUTH_REQUIRED
    | some confirmed => check (now < confirmed + 900) .AUTH_REAUTH_REQUIRED
  | _ => fault

/-- The directory's part of `reauthenticate`. -/
def reauthenticated (identity : String) : DirectoryAnswer → Except (Option Code) Unit
  | .value (.obj fields) =>
    if (dict.get fields "identity") = some (.str identity) && ((dict.get fields "active").getD .null).truthy then .ok ()
    else .error (some .LDAP_ACCESS_DENIED)
  | .error code => .error (some code)
  | _ => .error none

/-- The code a login is refused with. -/
def login_code (code : Code) : Code := if code = .LDAP_ACCESS_DENIED then .AUTH_INVALID else code

/-- The attempts of the last five minutes, twenty at most, and this one. -/
def charge_directory : Auth Unit := do
  let now ← now
  let attempts := (← state).ldap_attempts.filter (fun at_time => now < at_time + 300)
  check (attempts.length < 20) .AUTH_RATE_LIMITED
  update (fun state => { state with ldap_attempts := attempts ++ [now] })

/-- `attempts.pop()` -/
def uncharge_directory : Auth Unit :=
  update (fun state => { state with ldap_attempts := state.ldap_attempts.dropLast })

/-- `entries[key]` is changed in place. -/
def change_entry {α : Type} (entries : List (String × α)) (key : String) (f : α → α) : List (String × α) :=
  match dict.get entries key with
  | some value => dict.set entries key (f value)
  | none => entries

/-- `value["confirmed_at"] = now` -/
def confirm_session (key : String) : Auth Unit := do
  let now ← now
  update (fun state => { state with
    sessions := change_entry state.sessions key (fun value => { value with confirmed_at := some now }) })

def confirm_ldap_session (key : String) : Auth Unit := do
  let now ← now
  update (fun state => { state with
    ldap_sessions := change_entry state.ldap_sessions key (fun value => { value with confirmed_at := some now }) })

/-- The part of `reauthenticate` for a directory user. -/
def reauthenticate_directory (key identity actor : String) : Auth Unit := do
  charge_directory
  match reauthenticated identity (← ask) with
  | .error (some code) =>
    event "reauth.denied" actor
    refuse (login_code code)
  | .error none => refuse .AUTH_UNAVAILABLE
  | .ok () =>
    uncharge_directory
    confirm_ldap_session key

/-- The part of `reauthenticate` for the local administrator. -/
def reauthenticate_local (key password actor : String) : Auth Unit := do
  throttle
  if (← state).principal.any (fun principal => rt.verify principal.password_hash password) then
    update (fun state => { state with attempts := [] })
    confirm_session key
  else
    event "reauth.denied" actor
    refuse .AUTH_INVALID

def reauthenticate (token : String) (caller : Caller) (password : Option Value) : Auth Value := do
  let password ← lift (bounded password)
  match caller.identity with
  | some identity => reauthenticate_directory (rt.digest token) identity caller.id
  | none => reauthenticate_local rt (rt.digest token) password caller.id
  event "reauth.confirmed" caller.id
  return .obj [("confirmed", .bool true)]

/-- `re.fullmatch(r"[a-zA-Z0-9][a-zA-Z0-9_.@-]{2,63}", username)` -/
def is_username (username : String) : Bool :=
  match username.toList with
  | [] => false
  | first :: rest => first.isAlphanum && 2 ≤ rest.length && rest.length ≤ 63 &&
      rest.all (fun c => c.isAlphanum || "_.@-".toList.contains c)

def _enroll (payload : Fields) : Auth Value := do
  throttle
  let token ← lift (bounded (dict.get payload "invitation"))
  let username ← lift (bounded (dict.get payload "username") 64)
  let password ← lift (bounded (dict.get payload "password"))
  let service ← get
  check (service.state.invitation.any (fun invitation =>
    service.now < invitation.expires && invitation.hash = rt.digest token)) .ENROLLMENT_INVALID
  check (is_username username && 15 ≤ password.length) .AUTH_INVALID
  let id := (service.state.principal.map Principal.id).getD service.uuid
  update (fun state => { state with
    principal := some ⟨id, username, rt.hash service.salt password, false⟩
    invitation := none
    sessions := []
    attempts := [] })
  event "enrolled" id
  issue_session rt

/-- The sessions of the directory that a new one joins. -/
def live_ldap_sessions (now : Nat) (sessions : List (String × LdapSession)) : List (String × LdapSession) :=
  evict 256 LdapSession.last_seen
    (sessions.filter (fun entry => now < entry.2.expires && now < entry.2.last_seen + 1800))

def ldap_login (payload : Fields) : Auth Value := do
  charge_directory
  let service ← get
  let now := service.now
  match service.state.ldap with
  | none => refuse .AUTH_INVALID
  | some saved =>
    check saved.enabled .AUTH_INVALID
    let _ ← lift (bounded (dict.get payload "username") 128)
    let _ ← lift (bounded (dict.get payload "password"))
    match ← ask with
    | .error code =>
      event "ldap.login.denied"
      refuse (login_code code)
    | .fault => refuse .AUTH_UNAVAILABLE
    | .value found =>
      match directory_user rt (← state) found with
      | .error _ => refuse .AUTH_UNAVAILABLE
      | .ok user =>
        check user.active .AUTH_INVALID
        update (fun state => { state with ldap_users := dict.set state.ldap_users user.identity user })
        uncharge_directory
        let principal : LdapPrincipal :=
          ⟨rt.uuid5 saved.directory_id user.identity, user.username, user.identity, user.role⟩
        let started : LdapSession :=
          { principal, issued := now, last_seen := now, expires := now + 28800, checked := now }
        update (fun state => { state with
          ldap_sessions := dict.set (live_ldap_sessions now state.ldap_sessions) (rt.digest service.token) started })
        event "ldap.login" principal.id [("role", .str principal.role.text)]
        return session_reply service.token

def _login (payload : Fields) : Auth Value := do
  let username ← lift (bounded (dict.get payload "username") 64)
  let state ← state
  match state.principal.filter (fun principal => rt.casefold username = rt.casefold principal.username) with
  | none =>
    if state.ldap.any (fun saved => saved.enabled) then ldap_login rt payload
    else
      throttle
      let _ ← lift (bounded (dict.get payload "password"))
      refuse .AUTH_INVALID
  | some principal =>
    throttle
    let password ← lift (bounded (dict.get payload "password"))
    check (!principal.disabled) .AUTH_INVALID
    if rt.verify principal.password_hash password && principal.username = username then
      update (fun state => { state with attempts := [] })
      event "login" principal.id
      issue_session rt
    else
      event "login.denied"
      refuse .AUTH_INVALID

end

end netbox_sync.auth_policy
