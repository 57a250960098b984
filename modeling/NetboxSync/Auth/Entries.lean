import NetboxSync.Auth.Calls

open json

namespace netbox_sync.auth_policy

open Auth Transaction

section

variable {rt : Runtime} {token : Option Value}

theorem evict_subset {α : Type} (limit : Nat) (value : α → Nat) (entries : List (String × α)) :
    evict limit value entries ⊆ entries := by
  unfold evict
  split
  · split
    · exact dict.pop_subset _ _
    · exact List.Subset.refl _
  · exact List.Subset.refl _

theorem live_sessions_subset (now : Nat) (sessions : List (String × Session)) : live_sessions now sessions ⊆ sessions :=
  fun _ h => List.mem_of_mem_filter (evict_subset _ _ _ h)

theorem live_ldap_sessions_subset (now : Nat) (sessions : List (String × LdapSession)) :
    live_ldap_sessions now sessions ⊆ sessions :=
  fun _ h => List.mem_of_mem_filter (evict_subset _ _ _ h)

/-- A program that starts a session with the fresh token when it is done. -/
def Starts (rt : Runtime) (token : Option Value) (x : Auth Value) : Prop :=
  ∀ s, x.Ends s
    (fun reply s' => reply = session_reply s.token ∧ Framed s s' ∧ Kept rt token False True s s')
    (fun _ s' => Quiet rt token s s')

theorem Starts.after {α : Type} {x : Auth α} {f : α → Auth Value} (hx : Moves (Quiet rt token) x)
    (hf : ∀ value, Starts rt token (f value)) : Starts rt token (x >>= f) := by
  intro s
  rw [ends_bind]
  refine (hx s).imp (fun value s' h => ?_) (fun _ _ h => h)
  refine (hf value s').imp (fun reply s'' h' => ?_) (fun _ _ h' => IsTrans.trans _ _ _ h h')
  rw [h.2.fresh] at h'
  exact ⟨h'.1, IsTrans.trans _ _ _ h.1 h'.2.1, h.2.trans h'.2.2⟩

theorem Starts.framed {x : Auth Value} (h : Starts rt token x) : Moves Framed x :=
  fun s => (h s).imp (fun _ _ h => h.2.1) (fun _ _ h => h.1)

theorem Starts.refuse (code : Code) : Starts rt token (refuse code) := fun s => Quiet.refl s

theorem starts_issue_session : Starts rt token (issue_session rt) := by
  intro s
  refine ⟨rfl, ⟨rfl, rfl, rfl⟩, ⟨rfl, rfl, ⟨[], rfl⟩, fun key v' hv' => ?_, fun _ v' hv' => .inl ⟨v', hv', .refl v'⟩⟩⟩
  rcases dict.mem_set hv' with heq | hv'
  · cases heq
    exact .inr ⟨trivial, rfl, rfl⟩
  · exact .inl ⟨v', live_sessions_subset _ _ hv', ⟨rfl, rfl, .inl rfl, .inl rfl⟩⟩

theorem starts_enroll (payload : Fields) : Starts rt token (_enroll rt payload) := by
  refine .after quiet_throttle (fun _ => .after (.lift _) (fun _ => .after (.lift _) (fun _ => .after (.lift _) ?_)))
  refine fun _ => .after .get (fun service => .after (.check _ _) (fun _ => .after (.check _ _) (fun _ => ?_)))
  refine .after (quiet_update (fun _ => rfl) (fun _ => List.nil_subset _) (fun _ => List.Subset.refl _)) ?_
  exact fun _ => .after (quiet_event _ _ _) (fun _ => starts_issue_session)

/-- The answer to the login is the first confirmation of the new session. -/
theorem starts_ldap_login (payload : Fields) : Starts rt token (ldap_login rt payload) := by
  refine .after quiet_charge_directory (fun _ s => ?_)
  rw [ends_bind, ends_get]
  split
  · exact Quiet.refl s
  next saved hldap =>
    simp only [ends_bind, ends_check, ends_lift]
    refine ⟨fun _ => ⟨fun _ _ => ⟨fun _ _ => ?_, fun _ _ => Quiet.refl s⟩, fun _ _ => Quiet.refl s⟩,
      fun _ => Quiet.refl s⟩
    refine ends_ask (fun _ => Quiet.refl s) (fun answer rest hdirectory => ?_)
    have hasked : Quiet rt token s { s with directory := rest } :=
      ⟨⟨rfl, rfl, rfl⟩, kept_of_subset rfl rfl ⟨[answer], hdirectory⟩ (List.Subset.refl _) (List.Subset.refl _)⟩
    split
    · exact ⟨hasked.1, hasked.2.now, hasked.2.fresh, hasked.2.directory, hasked.2.sessions, hasked.2.ldap_sessions⟩
    · exact hasked
    next found =>
      rw [ends_bind, ends_state]
      split
      · exact hasked
      next user huser =>
        rw [ends_bind, ends_check]
        refine ⟨fun hactive => ?_, fun _ => hasked⟩
        have hconfirmed : Confirmed s.directory rest user.identity :=
          ⟨[.value found], hdirectory, _, List.mem_singleton_self _, _, confirmed_of_directory_user huser hactive⟩
        refine ⟨rfl, ⟨rfl, rfl, rfl⟩, ⟨rfl, rfl, ⟨[_], hdirectory⟩, fun _ v' hv' => ?_, fun key v' hv' => ?_⟩⟩
        · exact .inl ⟨v', hv', ⟨rfl, rfl, .inl rfl, .inl rfl⟩⟩
        rcases dict.mem_set hv' with heq | hv'
        · cases heq
          exact .inr ⟨trivial, rfl, rfl, rfl, hconfirmed⟩
        · exact .inl ⟨v', live_ldap_sessions_subset _ _ hv', .refl v'⟩

theorem starts_login (payload : Fields) : Starts rt token (_login rt payload) := by
  refine .after (.lift _) (fun username => .after moves_state (fun state => ?_))
  split
  · split
    · exact starts_ldap_login payload
    · exact .after quiet_throttle (fun _ => .after (.lift _) (fun _ => .refuse _))
  · refine .after quiet_throttle (fun _ => .after (.lift _) (fun _ => .after (.check _ _) (fun _ => ?_)))
    split
    · refine .after (quiet_update_rest (fun _ => ⟨rfl, rfl, rfl⟩)) (fun _ => ?_)
      exact .after (quiet_event _ _ _) (fun _ => starts_issue_session)
    · exact .after (quiet_event _ _ _) (fun _ => .refuse _)

/-- A program that confirms the session of the token when it is done. -/
def Confirms (rt : Runtime) (token : Option Value) {α : Type} (x : Auth α) : Prop :=
  ∀ s, x.Ends s (fun _ s' => Framed s s' ∧ Kept rt token True False s s') (fun _ s' => Quiet rt token s s')

theorem Confirms.after {α β : Type} {x : Auth α} {f : α → Auth β} (hx : Moves (Quiet rt token) x)
    (hf : ∀ value, Confirms rt token (f value)) : Confirms rt token (x >>= f) := by
  intro s
  rw [ends_bind]
  refine (hx s).imp (fun value s' h => ?_) (fun _ _ h => h)
  refine (hf value s').imp (fun _ s'' h' => ?_) (fun _ _ h' => IsTrans.trans _ _ _ h h')
  exact ⟨IsTrans.trans _ _ _ h.1 h'.1, h.2.trans h'.2⟩

theorem Confirms.framed {α : Type} {x : Auth α} (h : Confirms rt token x) : Moves Framed x :=
  fun s => (h s).imp (fun _ _ h => h.1) (fun _ _ h => h.1)

theorem Confirms.refuse {α : Type} (code : Code) : Confirms rt token (refuse code : Auth α) := fun s => Quiet.refl s

theorem mem_change_entry {α : Type} {entries : List (String × α)} {key : String} {f : α → α} {entry : String × α}
    (h : entry ∈ change_entry entries key f) :
    entry ∈ entries ∨ ∃ value, (key, value) ∈ entries ∧ entry = (key, f value) := by
  unfold change_entry at h
  split at h
  next value hvalue =>
    rcases dict.mem_set h with rfl | h
    · exact .inr ⟨value, dict.mem_of_get hvalue, rfl⟩
    · exact .inl h
  · exact .inl h

theorem confirms_session (text : String) : Confirms rt (some (.str text)) (confirm_session (rt.digest text)) := by
  intro s
  refine ⟨⟨rfl, rfl, rfl⟩, ⟨rfl, rfl, ⟨[], rfl⟩, fun key v' hv' => ?_, fun _ v' hv' => .inl ⟨v', hv', .refl v'⟩⟩⟩
  rcases mem_change_entry hv' with hv' | ⟨v, hv, heq⟩
  · exact .inl ⟨v', hv', ⟨rfl, rfl, .inl rfl, .inl rfl⟩⟩
  · cases heq
    exact .inl ⟨v, hv, ⟨rfl, rfl, .inl rfl, .inr ⟨trivial, ⟨text, rfl, rfl⟩, rfl⟩⟩⟩

theorem confirms_ldap_session (text : String) :
    Confirms rt (some (.str text)) (confirm_ldap_session (rt.digest text)) := by
  intro s
  refine ⟨⟨rfl, rfl, rfl⟩, ⟨rfl, rfl, ⟨[], rfl⟩, fun _ v' hv' => ?_, fun key v' hv' => ?_⟩⟩
  · exact .inl ⟨v', hv', ⟨rfl, rfl, .inl rfl, .inl rfl⟩⟩
  · rcases mem_change_entry hv' with hv' | ⟨v, hv, heq⟩
    · exact .inl ⟨v', hv', .refl v'⟩
    · cases heq
      exact .inl ⟨v, hv, ⟨rfl, rfl, .inl rfl, .inr ⟨trivial, ⟨text, rfl, rfl⟩, rfl⟩⟩, rfl, rfl, .inl rfl⟩

theorem confirms_reauthenticate_directory (text identity actor : String) :
    Confirms rt (some (.str text)) (reauthenticate_directory (rt.digest text) identity actor) := by
  refine .after quiet_charge_directory (fun _ => .after quiet_ask (fun answer => ?_))
  split
  · exact .after (quiet_event _ _ _) (fun _ => .refuse _)
  · exact .refuse _
  · exact .after quiet_uncharge_directory (fun _ => confirms_ldap_session text)

theorem confirms_reauthenticate_local (text password actor : String) :
    Confirms rt (some (.str text)) (reauthenticate_local rt (rt.digest text) password actor) := by
  refine .after quiet_throttle (fun _ => .after moves_state (fun state => ?_))
  split
  · refine .after (quiet_update_rest (fun _ => ⟨rfl, rfl, rfl⟩)) ?_
    exact fun _ => confirms_session text
  · exact .after (quiet_event _ _ _) (fun _ => .refuse _)

/-- What confirms a session may be followed by an event. -/
theorem Confirms.event {x : Auth Unit} (hx : Confirms rt token x) (action actor : String) (reply : Value) :
    Confirms rt token (x >>= fun _ => event action actor >>= fun _ => pure reply) := by
  intro s
  rw [ends_bind]
  refine (hx s).imp (fun _ s' h => ?_) (fun _ _ h => h)
  exact ⟨h.1, h.2.now, h.2.fresh, h.2.directory, h.2.sessions, h.2.ldap_sessions⟩

theorem confirms_reauthenticate (text : String) (caller : Caller) (password : Option Value) :
    Confirms rt (some (.str text)) (reauthenticate rt text caller password) := by
  refine .after (.lift _) (fun password => ?_)
  split
  · exact (confirms_reauthenticate_directory _ _ _).event _ _ _
  · exact (confirms_reauthenticate_local _ _ _).event _ _ _

end

section

variable {rt : Runtime} {token : Option Value}

/-- The directory of the document has no sessions any more. -/
structure Migrated (s s' : Service) : Prop where
  now : s'.now = s.now
  directory : s'.directory = s.directory
  sessions : s'.state.sessions = s.state.sessions
  principal : s'.state.principal = s.state.principal
  ldap_sessions : s'.state.ldap_sessions = []

theorem migrate_directory_ends {s : Service} :
    migrate_directory.Ends s (fun _ s' => (s' = s ∨ Migrated s s') ∧ Framed s s') (fun _ _ => False) := by
  unfold migrate_directory
  rw [ends_bind, ends_state]
  split
  · exact ⟨.inl rfl, ⟨rfl, rfl, rfl⟩⟩
  · rw [ends_ite]
    refine ⟨fun _ => ?_, fun _ => ⟨.inl rfl, ⟨rfl, rfl, rfl⟩⟩⟩
    split
    · trivial
    · exact ⟨.inr ⟨rfl, rfl, rfl, rfl, rfl⟩, ⟨rfl, rfl, rfl⟩⟩

/-- A look after the migration is one at the document before it. -/
theorem Looked.of_migrated {text : String} {permission : Option Value} {admin : Prop} {s s' middle : Service}
    (h : Migrated s s') (hlooked : Looked rt text permission admin s' middle) :
    Looked rt text permission admin s middle := by
  cases hlooked with
  | @administrator v v' hlook =>
    exact .administrator ⟨h.sessions ▸ hlook.before, hlook.after, h.now ▸ hlook.continues, h.now ▸ hlook.live,
      hlook.granted, h.now ▸ hlook.fresh⟩
  | user hlook =>
    have hbefore := hlook.before
    rw [h.ldap_sessions] at hbefore
    cases hbefore

/-- And so is who makes the call. -/
theorem caller_id_of_migrated {s s' : Service} {id : String} (h : Migrated s s')
    (hcaller : caller_id rt s'.state token = some id) : caller_id rt s.state token = some id := by
  unfold caller_id at hcaller
  split at hcaller
  next text =>
    rw [h.sessions, h.principal, h.ldap_sessions] at hcaller
    split at hcaller
    next v hv =>
      rw [caller_id, hv]
      exact hcaller
    · cases hcaller
  · cases hcaller

/-- The commands of the root that reset a part of the policy. -/
def RootAction.resets : RootAction → Bool
  | .recover | .managed | .revoke => true
  | _ => false

theorem quiet_root {action : RootAction} (haction : action.resets = false) (payload : Fields) :
    Moves (Quiet rt token) (root rt action payload) := by
  refine .bind moves_state (fun state => ?_)
  cases action with
  | pfsense_policy => exact .bind quiet_policy (fun _ => .pure _)
  | ldap_sync_due => exact quiet_sync_directory true
  | status => exact .pure _
  | invite =>
    refine .bind (.check _ _) (fun _ => .bind .get (fun service => .bind ?_ (fun _ => ?_)))
    · exact quiet_update_rest (fun _ => ⟨rfl, rfl, rfl⟩)
    · exact .bind (quiet_event _ _ _) (fun _ => .pure _)
  | recover => exact nomatch haction
  | managed => exact nomatch haction
  | revoke => exact nomatch haction
  | other => exact .refuse _

theorem kept_root (action : RootAction) (payload : Fields) :
    Moves (Kept rt token False False) (root rt action payload) := by
  cases haction : action.resets with
  | false => exact kept_of_quiet (quiet_root haction payload)
  | true =>
    refine .bind moves_state (fun state => ?_)
    cases action with
    | recover =>
      dsimp only
      split
      · exact .refuse _
      · refine .bind .get (fun service => .bind (.modify (fun s => ?_)) (fun _ => ?_))
        · exact kept_of_subset rfl rfl ⟨[], rfl⟩ (List.nil_subset _) (List.nil_subset _)
        · exact .bind (kept_event _ _ _) (fun _ => .pure _)
    | managed =>
      dsimp only
      split
      · exact .refuse _
      · refine .bind (kept_update (fun _ => rfl) (fun _ => rfl)) (fun _ => ?_)
        exact .bind (kept_event _ _ _) (fun _ => .pure _)
    | revoke =>
      refine .bind (.modify (fun s => ?_)) (fun _ => .bind (kept_event _ _ _) (fun _ => .pure _))
      exact kept_of_subset rfl rfl ⟨[], rfl⟩ (List.nil_subset _) (List.nil_subset _)
    | _ => exact nomatch haction

theorem confirms_authenticated_call (payload : Fields) (caller : Caller) :
    Confirms rt token (_authenticated_call rt .reauthenticate payload token caller) := by
  unfold _authenticated_call
  dsimp only
  split
  · exact confirms_reauthenticate _ _ _
  · exact fun _ => trivial

/-- What a call may do to the sessions: only a login starts one, and only `reauthenticate` confirms one. -/
abbrev KeptBy (rt : Runtime) (action : Action) (payload : Fields) (x : Auth Value) (s : Service) : Prop :=
  x.Ends s
    (fun reply s' => Kept rt (dict.get payload "session") (action = .reauthenticate)
      ((action = .login ∨ action = .enroll) ∧ reply = session_reply s.token) s s')
    (fun _ s' => Kept rt (dict.get payload "session") False False s s')

theorem kept_call (action : Action) (payload : Fields) (s : Service) :
    KeptBy rt action payload (call rt action payload) s := by
  have hstarts : ∀ {x : Auth Value}, Starts rt (dict.get payload "session") x →
      (action = .login ∨ action = .enroll) → KeptBy rt action payload x s := by
    intro x hx haction
    exact (hx s).imp (fun _ _ h => h.2.2.mono False.elim (fun _ => ⟨haction, h.1⟩)) (fun _ _ h => h.2)
  have hmoves : ∀ {x : Auth Value}, Moves (Kept rt (dict.get payload "session") False False) x →
      KeptBy rt action payload x s := by
    intro x hx
    exact (hx s).imp (fun _ _ h => h.mono False.elim False.elim) (fun _ _ h => h)
  cases hpermission : action.permission payload with
  | some permission => exact hmoves (guarded_call hpermission).moves
  | none =>
    cases action with
    | login_status => exact hmoves (kept_of_quiet (.bind moves_state (fun _ => .pure _)))
    | enroll => exact hstarts (starts_enroll payload) (.inr rfl)
    | login => exact hstarts (starts_login payload) (.inl rfl)
    | reauthenticate =>
      have hconfirms : Confirms rt (dict.get payload "session") (call rt .reauthenticate payload) :=
        .after (quiet_session _) (fun caller => confirms_authenticated_call payload caller)
      exact (hconfirms s).imp (fun _ _ h => h.2.mono (fun _ => rfl) False.elim) (fun _ _ h => h.2)
    | logout => exact hmoves (kept_of_quiet (.bind (quiet_session _) (fun _ => quiet_logout _)))
    | authorize => exact hmoves (kept_of_quiet (.bind (quiet_session _) (fun _ => quiet_authorize _ _)))
    | other => exact hmoves (kept_of_quiet (.bind (quiet_session _) (fun _ => .refuse _)))
    | _ => exact nomatch hpermission

/-- A call that is not about the policy leaves it alone. -/
theorem framed_call {action : Action} (hpolicy : action.of_policy = false) (payload : Fields) :
    Moves Framed (call rt action payload) := by
  have hquiet : action ≠ .reauthenticate → Moves Framed (session rt (dict.get payload "session")
      (first_permission action payload) >>= _authenticated_call rt action payload (dict.get payload "session")) := by
    intro hconfirm
    refine .bind ((quiet_session _).imp (fun _ _ h => h.1)) (fun caller => ?_)
    exact (quiet_authenticated_call hpolicy hconfirm).imp (fun _ _ h => h.1)
  unfold call
  split
  · exact .bind moves_state (fun _ => .pure _)
  · exact (@starts_enroll rt none payload).framed
  · exact (@starts_login rt none payload).framed
  · by_cases hconfirm : action = .reauthenticate
    · subst hconfirm
      exact .bind ((quiet_session _).imp (fun _ _ h => h.1)) (fun caller => (confirms_authenticated_call _ _).framed)
    · exact hquiet hconfirm

end

end netbox_sync.auth_policy

namespace netbox_sync.auth_store

open auth_policy Transaction

section

variable {rt : Runtime} {request : Request} {s : Service}

/-- The transaction of a call keeps the sessions in the way of its action. -/
theorem kept_transact : (transact rt request).Ends s
    (fun reply s' => Kept rt request.session (request.root = false ∧ request.action = .reauthenticate)
      (request.root = false ∧ (request.action = .login ∨ request.action = .enroll) ∧
        reply = session_reply s.token) s s') (fun _ s' => Kept rt request.session False False s s') := by
  unfold transact
  rw [ends_bind]
  refine (quiet_migrate_directory s).imp (fun _ s' h => ?_) (fun _ _ h => h.2)
  cases hroot : request.root with
  | true =>
    refine (kept_root request.root_action request.payload s').imp (fun _ s'' h' => ?_) (fun _ _ h' => h.2.trans h')
    exact (h.2.trans h').mono False.elim False.elim
  | false =>
    refine (kept_call request.action request.payload s').imp (fun reply s'' h' => ?_) (fun _ _ h' => h.2.trans h')
    refine (h.2.trans h').mono (fun hC => ⟨rfl, hC⟩) (fun hN => ⟨rfl, hN.1, ?_⟩)
    rw [← h.2.fresh]
    exact hN.2

/-- The call may change the policy. -/
def Request.of_policy (request : Request) : Bool :=
  if request.root then request.root_action.resets else request.action.of_policy

theorem framed_transact (h : request.of_policy = false) : Moves Framed (transact rt request) := by
  unfold transact
  refine .bind ((@quiet_migrate_directory rt none).imp (fun _ _ h => h.1)) (fun _ => ?_)
  unfold Request.of_policy at h
  split
  next hroot =>
    rw [if_pos hroot] at h
    exact (@quiet_root rt none _ h _).imp (fun _ _ h => h.1)
  next hroot =>
    rw [if_neg hroot] at h
    exact framed_call h _

/-- A call that asks for a permission is done only with it. -/
theorem guarded_transact {permission : Value} (hroot : request.root = false)
    (h' : request.action.permission request.payload = some permission) : (transact rt request).Ends s
      (fun _ s' => Allowed rt request.session (some permission) (request.action.administrative = true) s s')
      (fun _ _ => True) := by
  unfold transact
  rw [ends_bind, hroot]
  refine migrate_directory_ends.imp (fun _ s' h => ?_) (fun _ _ _ => trivial)
  refine (guarded_call h' s').imp (fun _ s'' hdone => ?_) (fun _ _ _ => trivial)
  obtain ⟨-, text, middle, htext, hlooked, hgiven, hleft⟩ := hdone
  rcases h.1 with rfl | hmigrated
  · exact ⟨text, middle, htext, hlooked, hgiven, hleft⟩
  · exact ⟨text, middle, htext, hlooked.of_migrated hmigrated, hmigrated.directory ▸ hgiven, hleft⟩

end

end netbox_sync.auth_store
