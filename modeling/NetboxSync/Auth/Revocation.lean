import NetboxSync.Auth.Entries

open json

namespace netbox_sync.auth_policy

open Auth Transaction

section

variable {rt : Runtime}

variable (payload : Fields) (actor : String)

/-- There is no session of either kind. -/
def Cleared (state : Document) : Prop := state.sessions = [] ∧ state.ldap_sessions = []

theorem leaves_recover : Leaves (fun _ s => Cleared s.state) (root rt .recover payload) := by
  refine .last (fun state => ?_)
  dsimp only
  split
  · exact .refuse _
  · exact .last (fun service s => ⟨rfl, rfl⟩)

theorem leaves_revoke : Leaves (fun _ s => Cleared s.state) (root rt .revoke payload) := .last (fun _ _ => ⟨rfl, rfl⟩)

/-- The session of an enrollment is the only one of the administrator. -/
theorem leaves_enroll :
    Leaves (fun _ s => s.state.sessions = [(rt.digest s.token, Session.new s.now)]) (_enroll rt payload) := by
  refine .last (fun _ => .last (fun _ => .last (fun _ => .last (fun _ => .last (fun service => .last (fun _ => ?_))))))
  exact .last (fun _ _ => rfl)

theorem leaves_logout {text : String} :
    Leaves (fun _ s => ∀ v, (rt.digest text, v) ∉ s.state.sessions) (logout rt (some (.str text)) actor) := by
  intro s v hv
  simpa using List.of_mem_filter hv

theorem leaves_logout_directory {text : String} :
    Leaves (fun _ s => ∀ v, (rt.digest text, v) ∉ s.state.ldap_sessions) (logout rt (some (.str text)) actor) := by
  intro s v hv
  simpa using List.of_mem_filter hv

theorem leaves_save : Leaves (fun _ s => s.state.ldap_sessions = []) (change_settings rt true payload actor) := by
  refine .last (fun service => .last (fun _ => .last (fun _ => .last (fun config => ?_))))
  split
  · exact fun _ => rfl
  · refine .last (fun password => .last (fun service => .last (fun _ => ?_)))
    split
    · exact .refuse _
    · exact fun _ => rfl

theorem leaves_directory_action {action : DirectoryAction} (haction : action = .save ∨ action = .revoke)
    (payload : Fields) (actor : String) :
    Leaves (fun _ s => s.state.ldap_sessions = []) (directory_action rt action payload actor) := by
  rcases haction with rfl | rfl
  · exact .last (fun _ => .last (fun _ => leaves_save payload actor))
  · exact .last (fun _ => .last (fun _ _ => rfl))

/-- The user that is named keeps their identity when the role changes. -/
theorem identity_of_named_user {payload : Fields} {users : List (String × LdapUser)} {key : String}
    {row : LdapUser} {role : Role} {found : String × LdapUser} (h : named_user payload users = some (key, row))
    (hfound : named_user payload (dict.set users key { row with role }) = some found) :
    found.2.identity = row.identity := by
  unfold named_user at h hfound
  have hrow := List.find?_some h
  induction users with
  | nil => cases h
  | cons first users ih =>
    obtain ⟨k, v⟩ := first
    rw [List.find?_cons] at h
    rw [dict.set] at hfound
    split at hfound
    · -- the row is stored under the first key
      rw [List.find?_cons, hrow] at hfound
      cases hfound
      rfl
    next hk =>
      rw [List.find?_cons] at hfound
      split at h
      · cases h
        exact absurd rfl hk
      next hfirst =>
        rw [hfirst] at hfound
        exact ih h hfound

/-- The user whose role changes has no session any more. -/
theorem leaves_change_role :
    Leaves (fun _ s => ∀ row, named_user payload s.state.ldap_users = some row →
      ∀ entry ∈ s.state.ldap_sessions, entry.2.principal.identity ≠ row.2.identity) (change_role payload actor) := by
  intro s
  unfold change_role
  rw [ends_bind, ends_state, ends_bind, ends_check]
  refine ⟨fun _ => ?_, fun _ => trivial⟩
  rw [ends_bind, ends_check]
  refine ⟨fun _ => ?_, fun _ => trivial⟩
  split
  next key row role hnamed _ =>
    intro found hfound entry hentry
    rw [identity_of_named_user hnamed hfound]
    simpa using List.of_mem_filter hentry
  · trivial

theorem active_of_mem {users : List (String × LdapUser)} {sessions : List (String × LdapSession)}
    {entry : String × LdapSession} (h : entry ∈ active_sessions users sessions) :
    (dict.get users entry.2.principal.identity).any LdapUser.active = true :=
  (List.mem_filter.mp h).2

/-- After a snapshot only active users have sessions. -/
theorem leaves_sync_directory (due : Bool) :
    Leaves (fun reply s => (∃ count, reply = synced_reply count) →
      ∀ entry ∈ s.state.ldap_sessions, stored_active s.state entry.2.principal.identity) (sync_directory rt due) := by
  refine .last (fun service => .ite (.pure ?_) ?_)
  · intro s ⟨count, hreply⟩
    simp [skipped_reply, synced_reply] at hreply
  · refine .last (fun _ => .last (fun answer => ?_))
    split
    · exact .last (fun _ => .last (fun _ => .refuse _))
    · exact fun s _ entry hentry => active_of_mem hentry

/-- A call that begins with a look at the session leaves what the rest of it leaves. -/
theorem leaves_call {Q : Value → Service → Prop} {action : Action} {payload : Fields}
    (hlogin : action ≠ .login_status ∧ action ≠ .enroll ∧ action ≠ .login)
    (h : ∀ caller, Leaves Q (_authenticated_call rt action payload (dict.get payload "session") caller)) :
    Leaves Q (call rt action payload) := by
  unfold call
  split
  · exact absurd rfl hlogin.1
  · exact absurd rfl hlogin.2.1
  · exact absurd rfl hlogin.2.2
  · exact .last h

end

end netbox_sync.auth_policy

namespace netbox_sync.auth_store

open auth_policy Transaction

namespace Entry

def done (e : Entry) : Prop := ∃ value, e.reply = .ok value

theorem done_of_isSome {e : Entry} (h : e.reply.toOption.isSome = true) : e.done := by
  unfold done
  cases hvalue : e.reply with
  | ok value => exact ⟨value, rfl⟩
  | error code =>
    rw [hvalue] at h
    cases h

/-- The entry is a call of the action that was done. -/
def does (e : Entry) (action : Action) : Prop := e.request.root = false ∧ e.request.action = action ∧ e.done

/-- The entry is a command of the root that was done. -/
def commands (e : Entry) (action : RootAction) : Prop :=
  e.request.root = true ∧ e.request.root_action = action ∧ e.done

/-- The call is made with the token. -/
def bears (e : Entry) (text : String) : Prop := e.request.session = some (.str text)

end Entry

section

variable {rt : Runtime} {request : Request} {e : Entry}

theorem leaves_root {Q : Value → Service → Prop} (hroot : request.root = true)
    (h : Leaves Q (root rt request.root_action request.payload)) : Leaves Q (transact rt request) := by
  unfold transact
  rw [hroot]
  exact .last (fun _ => h)

theorem leaves_transact {Q : Value → Service → Prop} (hroot : request.root = false)
    (h : Leaves Q (call rt request.action request.payload)) : Leaves Q (transact rt request) := by
  unfold transact
  rw [hroot]
  exact .last (fun _ => h)

section

variable (he : e.Made rt)
include he

/-- A call that is done is its transaction. -/
theorem transact_of_done {value : Value} (hdone : e.reply = .ok value) :
    ∃ service, transact rt e.request (e.request.service e.before) = .done value service ∧ e.after = service.state ∧
      e.answers = taken e.request.directory service.directory := by
  unfold Entry.Made AuthStore.call at he
  split at he
  · split at he
    next service hservice =>
      cases (congrArg Entry.reply he).trans hdone
      exact ⟨service, hservice, (congrArg Entry.after he).symm, (congrArg Entry.answers he).symm⟩
    · exact nomatch (congrArg Entry.reply he).trans hdone
    · exact nomatch (congrArg Entry.reply he).trans hdone
  · exact nomatch (congrArg Entry.reply he).trans hdone

/-- What the transaction leaves holds after a call that is done. -/
theorem after_of_leaves {Q : Value → Document → Prop}
    (h : Leaves (fun value s => Q value s.state) (transact rt e.request)) {value : Value}
    (hdone : e.reply = .ok value) : Q value e.after := by
  obtain ⟨service, hservice, hafter, -⟩ := transact_of_done he hdone
  rw [hafter]
  exact (h _).done hservice

/-- What a command of the root leaves. -/
theorem after_of_commands {Q : Value → Document → Prop} {action : RootAction} (h : e.commands action)
    (hQ : ∀ payload, Leaves (fun value s => Q value s.state) (root rt action payload)) :
    ∃ value, e.reply = .ok value ∧ Q value e.after := by
  obtain ⟨hroot, haction, value, hvalue⟩ := h
  refine ⟨value, hvalue, after_of_leaves he (leaves_root hroot ?_) hvalue⟩
  rw [haction]
  exact hQ e.request.payload

/-- What a call leaves, after the look at the session. -/
theorem after_of_does {Q : Value → Document → Prop} {action : Action} (h : e.does action)
    (hlogin : action ≠ .login_status ∧ action ≠ .enroll ∧ action ≠ .login)
    (hQ : ∀ caller, Leaves (fun value s => Q value s.state)
      (_authenticated_call rt action e.request.payload e.request.session caller)) :
    ∃ value, e.reply = .ok value ∧ Q value e.after := by
  obtain ⟨hroot, haction, value, hvalue⟩ := h
  refine ⟨value, hvalue, after_of_leaves he (leaves_transact hroot ?_) hvalue⟩
  rw [haction]
  exact leaves_call hlogin hQ

end

end

namespace Entry

variable (rt : Runtime) (e : Entry)

/-- A login or an enrollment gave out the token. -/
def starts (text : String) : Prop := (e.does .login ∨ e.does .enroll) ∧ e.reply = .ok (session_reply text)

/-- A snapshot of the directory was taken over. -/
def synced : Prop := (e.does (.users .sync) ∨ e.commands .ldap_sync_due) ∧ ∃ count, e.reply = .ok (synced_reply count)

/-- The role of the user with the identity was changed. -/
def changes_role (identity : String) : Prop :=
  e.does (.users .role) ∧
    ∃ row, named_user e.request.payload e.after.ldap_users = some row ∧ row.2.identity = identity

/-- The calls that take the session of a token of the administrator away. -/
inductive revokes_local (text : String) : Prop where
  | recover (h : e.commands .recover)
  | revoke (h : e.commands .revoke)
  | enroll (h : e.does .enroll)
  | logout (h : e.does .logout) (htext : e.bears text)

/-- The calls that take the session of a token of a directory user away. -/
inductive revokes_ldap (text identity : String) : Prop where
  | recover (h : e.commands .recover)
  | revoke (h : e.commands .revoke)
  | save (h : e.does (.directory .save))
  | sessions (h : e.does (.directory .revoke))
  | role (h : e.changes_role identity)
  | inactive (h : e.synced) (hinactive : ¬ stored_active e.after identity)
  | logout (h : e.does .logout) (htext : e.bears text)

end Entry

section

variable {rt : Runtime} {e : Entry} (he : e.Made rt)
include he

/-- A login that is done replies with the fresh token. -/
theorem starts_of_does (h : e.does .login ∨ e.does .enroll) : e.starts e.request.token := by
  refine ⟨h, ?_⟩
  have hroot : e.request.root = false := h.elim (fun h => h.1) (fun h => h.1)
  have haction : e.request.action = .login ∨ e.request.action = .enroll := h.imp (fun h => h.2.1) (fun h => h.2.1)
  obtain ⟨value, hvalue⟩ : e.done := h.elim (fun h => h.2.2) (fun h => h.2.2)
  obtain ⟨service, hservice, -⟩ := transact_of_done he hvalue
  have hstarts : Starts rt none (transact rt e.request) := by
    unfold transact
    rw [hroot]
    refine .after quiet_migrate_directory (fun _ => ?_)
    rcases haction with haction | haction
    · rw [haction]
      exact starts_login _
    · rw [haction]
      exact starts_enroll _
  rw [hvalue, ((hstarts _).done hservice).1]
  rfl

/-- The session of an enrollment is the only one of the administrator. -/
theorem sessions_of_enroll (h : e.does .enroll) :
    e.after.sessions = [(rt.digest e.request.token, Session.new e.request.now)] := by
  obtain ⟨hroot, haction, value, hvalue⟩ := h
  obtain ⟨service, hservice, hafter, -⟩ := transact_of_done he hvalue
  have hkept := kept_transact.done hservice
  have hleaves : Leaves (fun _ s => s.state.sessions = [(rt.digest s.token, Session.new s.now)])
      (transact rt e.request) := by
    refine leaves_transact hroot ?_
    rw [haction]
    exact leaves_enroll _
  rw [hafter, (hleaves _).done hservice, hkept.fresh, hkept.now]
  rfl

/-- After a call that takes the session away, there is none but one that the call itself gave out. -/
theorem sessions_of_revokes_local {text : String} (h : e.revokes_local text)
    {v : Session} (hv : (rt.digest text, v) ∈ e.after.sessions) :
    rt.digest text = rt.digest e.request.token ∧ v = Session.new e.request.now ∧
      e.starts e.request.token := by
  cases h with
  | recover h =>
    obtain ⟨_, -, hcleared⟩ := after_of_commands he (Q := fun _ d => Cleared d) h leaves_recover
    rw [hcleared.1] at hv
    cases hv
  | revoke h =>
    obtain ⟨_, -, hcleared⟩ := after_of_commands he (Q := fun _ d => Cleared d) h leaves_revoke
    rw [hcleared.1] at hv
    cases hv
  | enroll h =>
    rw [sessions_of_enroll he h, List.mem_singleton] at hv
    exact ⟨congrArg Prod.fst hv, congrArg Prod.snd hv, starts_of_does he (.inr h)⟩
  | logout h htext =>
    unfold Entry.bears at htext
    obtain ⟨_, -, hgone⟩ := after_of_does he (Q := fun _ d => ∀ v, (rt.digest text, v) ∉ d.sessions) h (by decide)
      (fun caller => htext ▸ leaves_logout caller.id)
    exact absurd hv (hgone v)

/-- After a call that takes the session of a directory user away, there is none. -/
theorem ldap_sessions_of_revokes_ldap {text identity : String}
    (h : e.revokes_ldap text identity) {v : LdapSession}
    (hv : (rt.digest text, v) ∈ e.after.ldap_sessions) : v.principal.identity ≠ identity := by
  cases h with
  | recover h =>
    obtain ⟨_, -, hcleared⟩ := after_of_commands he (Q := fun _ d => Cleared d) h leaves_recover
    rw [hcleared.2] at hv
    cases hv
  | revoke h =>
    obtain ⟨_, -, hcleared⟩ := after_of_commands he (Q := fun _ d => Cleared d) h leaves_revoke
    rw [hcleared.2] at hv
    cases hv
  | save h =>
    obtain ⟨_, -, hnone⟩ := after_of_does he (Q := fun _ d => d.ldap_sessions = []) h (by decide)
      (fun _ => leaves_directory_action (.inl rfl) _ _)
    rw [hnone] at hv
    cases hv
  | sessions h =>
    obtain ⟨_, -, hnone⟩ := after_of_does he (Q := fun _ d => d.ldap_sessions = []) h (by decide)
      (fun _ => leaves_directory_action (.inr rfl) _ _)
    rw [hnone] at hv
    cases hv
  | role h =>
    obtain ⟨h, row, hrow, hidentity⟩ := h
    obtain ⟨_, -, hothers⟩ := after_of_does he
      (Q := fun _ d => ∀ row, named_user e.request.payload d.ldap_users = some row →
        ∀ entry ∈ d.ldap_sessions, entry.2.principal.identity ≠ row.2.identity)
      h (by decide) (fun _ => .last (fun _ => .last (fun _ => leaves_change_role _ _)))
    rw [← hidentity]
    exact hothers row hrow _ hv
  | inactive h hinactive =>
    obtain ⟨h, count, hcount⟩ := h
    have hactive : ∃ value, e.reply = .ok value ∧
        ((∃ count, value = synced_reply count) → ∀ entry ∈ e.after.ldap_sessions,
          stored_active e.after entry.2.principal.identity) := by
      rcases h with h | h
      · exact after_of_does he
          (Q := fun value d => (∃ count, value = synced_reply count) →
            ∀ entry ∈ d.ldap_sessions, stored_active d entry.2.principal.identity)
          h (by decide) (fun _ => .last (fun _ => .last (fun _ => leaves_sync_directory _)))
      · exact after_of_commands he
          (Q := fun value d => (∃ count, value = synced_reply count) →
            ∀ entry ∈ d.ldap_sessions, stored_active d entry.2.principal.identity)
          h (fun _ => .last (fun _ => leaves_sync_directory _))
    obtain ⟨value, hvalue, hactive⟩ := hactive
    rw [hcount] at hvalue
    cases hvalue
    intro hidentity
    exact hinactive (hidentity ▸ hactive ⟨count, rfl⟩ _ hv)
  | logout h htext =>
    unfold Entry.bears at htext
    obtain ⟨_, -, hgone⟩ := after_of_does he (Q := fun _ d => ∀ v, (rt.digest text, v) ∉ d.ldap_sessions) h (by decide)
      (fun caller => htext ▸ leaves_logout_directory caller.id)
    exact absurd hv (hgone v)

end

end netbox_sync.auth_store
