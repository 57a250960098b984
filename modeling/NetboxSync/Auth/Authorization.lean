import NetboxSync.Auth.Revocation

open json

namespace netbox_sync.auth_store

open auth_policy past

theorem taken_append (used left : List DirectoryAnswer) : taken (used ++ left) left = used := by
  unfold taken
  rw [List.length_append, Nat.add_sub_cancel, List.take_left']
  rfl

section

variable {rt : Runtime} {state : Document} {request : Request}

/-- What was confirmed in the transaction was confirmed by the answers it took. -/
theorem confirmed_taken {given left : List DirectoryAnswer} {identity : String} (h : Confirmed given left identity) :
    Confirmed (taken given left) [] identity := by
  obtain ⟨used, hused, hanswer⟩ := h
  refine ⟨used, ?_, hanswer⟩
  rw [hused, taken_append, List.append_nil]

theorem LdapSession.Continues.taken {token : Option Value} {C : Prop} {now : Nat} {given left : List DirectoryAnswer}
    {key : String} {v v' : LdapSession} (h : LdapSession.Continues rt token C now given left key v v') :
    LdapSession.Continues rt token C now (auth_store.taken given left) [] key v v' :=
  ⟨h.session, h.identity, h.id, h.checked.imp id (fun h => ⟨h.1, confirmed_taken h.2⟩)⟩

end

namespace Entry

variable (rt : Runtime) (e : Entry)

/-- The call left the session of the token as one that is seen now. -/
def sees (text : String) : Prop :=
  (e.starts text ∨ e.bears text) ∧
    ((∃ v, (rt.digest text, v) ∈ e.after.sessions ∧ v.last_seen = e.request.now) ∨
      ∃ v, (rt.digest text, v) ∈ e.after.ldap_sessions ∧ v.last_seen = e.request.now)

/-- The password of the session's identity was checked. -/
def confirms (text : String) : Prop := e.starts text ∨ e.does .reauthenticate ∧ e.bears text

/-- The directory confirmed the identity in the call. -/
def confirmed_by (identity : String) : Prop := ∃ answer ∈ e.answers, ∃ row, confirmed identity answer = .ok row

/-- What a call does to the sessions. -/
structure Keeps : Prop where
  sessions : ∀ key v', (key, v') ∈ e.after.sessions →
    (∃ v, (key, v) ∈ e.before.sessions ∧
      Session.Continues rt e.request.session (e.does .reauthenticate) e.request.now key v v') ∨
      e.starts e.request.token ∧ key = rt.digest e.request.token ∧ v' = Session.new e.request.now
  ldap_sessions : ∀ key v', (key, v') ∈ e.after.ldap_sessions →
    (∃ v, (key, v) ∈ e.before.ldap_sessions ∧
      LdapSession.Continues rt e.request.session (e.does .reauthenticate) e.request.now e.answers [] key v v') ∨
      e.starts e.request.token ∧ key = rt.digest e.request.token ∧ v'.session = Session.new e.request.now ∧
        v'.checked = e.request.now ∧ e.confirmed_by v'.principal.identity

end Entry

section

variable {rt : Runtime}

theorem confirmed_by_of_confirmed {e : Entry} {identity : String} (h : Confirmed e.answers [] identity) :
    e.confirmed_by identity := by
  obtain ⟨used, hused, hanswer⟩ := h
  rw [List.append_nil] at hused
  unfold Entry.confirmed_by
  rw [hused]
  exact hanswer

/-- A call that leaves the document as it was keeps every session. -/
theorem keeps_of_same {e : Entry} (h : e.after = e.before) : e.Keeps rt :=
  ⟨fun _ v' hv' => .inl ⟨v', h ▸ hv', ⟨rfl, rfl, .inl rfl, .inl rfl⟩⟩, fun _ v' hv' => .inl ⟨v', h ▸ hv', .refl v'⟩⟩

/-- A transaction that keeps the sessions is an entry that does. -/
theorem keeps_of_kept {e : Entry} {service : Service} {C N : Prop}
    (hkept : Kept rt e.request.session C N (e.request.service e.before) service) (hafter : e.after = service.state)
    (hanswers : e.answers = taken e.request.directory service.directory) (hC : C → e.does .reauthenticate)
    (hN : N → e.starts e.request.token) : e.Keeps rt := by
  have hkept := hkept.mono hC hN
  constructor
  · intro key v' hv'
    rw [hafter] at hv'
    exact hkept.sessions key v' hv'
  · intro key v' hv'
    rw [hafter] at hv'
    rcases hkept.ldap_sessions key v' hv' with ⟨v, hv, hcontinues⟩ | ⟨hstarts, hkey, hsession, hchecked, hconfirmed⟩
    · rw [hanswers]
      exact .inl ⟨v, hv, LdapSession.Continues.taken hcontinues⟩
    · refine .inr ⟨hstarts, hkey, hsession, hchecked, confirmed_by_of_confirmed ?_⟩
      rw [hanswers]
      exact confirmed_taken hconfirmed

theorem keeps_of_made {e : Entry} (he : e.Made rt) : e.Keeps rt := by
  unfold Entry.Made AuthStore.call at he
  rw [← he]
  split
  · split
    next value service hservice =>
      refine keeps_of_kept (kept_transact.done hservice) rfl rfl (fun h => ⟨h.1, h.2, value, rfl⟩) (fun h => ⟨?_, ?_⟩)
      · exact h.2.1.imp (fun haction => ⟨h.1, haction, value, rfl⟩) (fun haction => ⟨h.1, haction, value, rfl⟩)
      · exact congrArg Except.ok h.2.2
    next code service hservice =>
      exact keeps_of_kept (kept_transact.refused hservice) rfl rfl False.elim False.elim
    · exact keeps_of_same rfl
  · exact keeps_of_same rfl

end

/-- What the log tells of a session: when it was started, seen and confirmed, and that it was not revoked since. -/
structure Traced (rt : Runtime) (revokes : Entry → Prop) (text : String) (v : Session) (log : List Entry) : Prop where
  expires : v.expires = v.issued + 28800
  started : Since (fun e => e.starts text ∧ e.request.now = v.issued) (fun e => ¬ revokes e) log
  seen : Since (fun e => e.sees rt text ∧ e.request.now = v.last_seen) (fun e => ¬ revokes e) log
  confirmed : Since (fun e => e.confirms text ∧ e.request.now = v.confirmation) (fun e => ¬ revokes e) log

section

variable {rt : Runtime} {revokes : Entry → Prop} {text : String} {v v' : Session} {e : Entry} {log : List Entry}

theorem traced_start (hstarts : e.starts text) (hseen : e.sees rt text) :
    Traced rt revokes text (Session.new e.request.now) (e :: log) where
  expires := rfl
  started := .now ⟨hstarts, rfl⟩
  seen := .now ⟨hseen, rfl⟩
  confirmed := .now ⟨.inl hstarts, rfl⟩

/-- A session that goes on is traced through the call, unless the call revokes it. -/
theorem Traced.step (h : Traced rt revokes text v log) (hrevokes : ¬ revokes e)
    (hcontinues : Session.Continues rt e.request.session (e.does .reauthenticate) e.request.now (rt.digest text) v v')
    (hseen : e.bears text → v'.last_seen = e.request.now → e.sees rt text) : Traced rt revokes text v' (e :: log) := by
  have hbears : Bears rt e.request.session (rt.digest text) → e.bears text := by
    rintro ⟨text', htext, hdigest⟩
    rw [Entry.bears, htext, rt.digest_injective hdigest]
  constructor
  · rw [hcontinues.expires, hcontinues.issued]
    exact h.expires
  · rw [hcontinues.issued]
    exact h.started.later hrevokes
  · rcases hcontinues.seen with hsame | ⟨hkey, hnow⟩
    · rw [hsame]
      exact h.seen.later hrevokes
    · exact .now ⟨hseen (hbears hkey) hnow, hnow.symm⟩
  · rcases hcontinues.confirmed with hsame | ⟨hdoes, hkey, hnow⟩
    · unfold Session.confirmation
      rw [hsame, hcontinues.issued]
      exact h.confirmed.later hrevokes
    · refine .now ⟨.inr ⟨hdoes, hbears hkey⟩, ?_⟩
      unfold Session.confirmation
      rw [hnow]
      rfl

end

/-- What the log tells of a session of a directory user: also for whom it was started, and when the directory
    confirmed them last. -/
structure TracedUser (rt : Runtime) (text : String) (v : LdapSession) (log : List Entry) : Prop where
  session : Traced rt (fun e => e.revokes_ldap text v.principal.identity) text v.session log
  started : Since (fun e => e.starts text ∧ e.confirmed_by v.principal.identity ∧ e.request.now = v.issued)
    (fun e => ¬ e.revokes_ldap text v.principal.identity) log
  checked : Since (fun e => e.confirmed_by v.principal.identity ∧ e.request.now = v.checked)
    (fun e => ¬ e.revokes_ldap text v.principal.identity) log

/-- Every session of the document is in the log. -/
structure Backed (rt : Runtime) (store : Store) : Prop where
  sessions : ∀ key v, (key, v) ∈ store.document.sessions →
    ∃ text, key = rt.digest text ∧ Traced rt (fun e => e.revokes_local text) text v store.log
  ldap_sessions : ∀ key v, (key, v) ∈ store.document.ldap_sessions →
    ∃ text, key = rt.digest text ∧ TracedUser rt text v store.log

section

variable {rt : Runtime} {store : Store} {e : Entry}

theorem traced_call (h : Backed rt store) (he : e.Made rt) (hbefore : e.before = store.document) {key : String}
    {v' : Session} (hv' : (key, v') ∈ e.after.sessions) :
    ∃ text, key = rt.digest text ∧ Traced rt (fun e => e.revokes_local text) text v' (e :: store.log) := by
  -- a session that the call itself starts
  have hstart : e.starts e.request.token → key = rt.digest e.request.token → v' = Session.new e.request.now →
      ∃ text, key = rt.digest text ∧ Traced rt (fun e => e.revokes_local text) text v' (e :: store.log) := by
    rintro hstarts rfl rfl
    exact ⟨e.request.token, rfl, traced_start hstarts ⟨.inl hstarts, .inl ⟨_, hv', rfl⟩⟩⟩
  rcases (keeps_of_made he).sessions key v' hv' with ⟨v, hv, hcontinues⟩ | ⟨hstarts, hkey, hnew⟩
  · rw [hbefore] at hv
    obtain ⟨text, rfl, htraced⟩ := h.sessions key v hv
    by_cases hrevokes : e.revokes_local text
    · obtain ⟨hkey, hnew, hstarts⟩ := sessions_of_revokes_local he hrevokes hv'
      exact hstart hstarts hkey hnew
    · refine ⟨text, rfl, htraced.step hrevokes hcontinues ?_⟩
      exact fun hbears hnow => ⟨.inr hbears, .inl ⟨v', hv', hnow⟩⟩
  · exact hstart hstarts hkey hnew

theorem traced_user_call (h : Backed rt store) (he : e.Made rt) (hbefore : e.before = store.document) {key : String}
    {v' : LdapSession} (hv' : (key, v') ∈ e.after.ldap_sessions) :
    ∃ text, key = rt.digest text ∧ TracedUser rt text v' (e :: store.log) := by
  rcases (keeps_of_made he).ldap_sessions key v' hv' with
    ⟨v, hv, hcontinues⟩ | ⟨hstarts, hkey, hnew, hchecked, hconfirmed⟩
  · rw [hbefore] at hv
    obtain ⟨text, rfl, htraced⟩ := h.ldap_sessions key v hv
    have hidentity := hcontinues.identity
    have hrevokes : ¬ e.revokes_ldap text v.principal.identity :=
      fun hrevokes => ldap_sessions_of_revokes_ldap he hrevokes hv' hidentity
    have hissued : v'.issued = v.issued := hcontinues.session.issued
    refine ⟨text, rfl, ?_, ?_, ?_⟩
    · rw [hidentity]
      refine htraced.session.step hrevokes hcontinues.session ?_
      exact fun hbears hnow => ⟨.inr hbears, .inr ⟨v', hv', hnow⟩⟩
    · rw [hidentity, hissued]
      exact htraced.started.later hrevokes
    · rw [hidentity]
      rcases hcontinues.checked with hsame | ⟨hnow, hconfirmed⟩
      · rw [hsame]
        exact htraced.checked.later hrevokes
      · exact .now ⟨confirmed_by_of_confirmed hconfirmed, hnow.symm⟩
  · have hissued : v'.issued = e.request.now := congrArg Session.issued hnew
    have hseen : v'.last_seen = e.request.now := congrArg Session.last_seen hnew
    subst hkey
    refine ⟨e.request.token, rfl, ?_, .now ⟨hstarts, hconfirmed, hissued.symm⟩, .now ⟨hconfirmed, hchecked.symm⟩⟩
    rw [hnew]
    exact traced_start hstarts ⟨.inl hstarts, .inr ⟨v', hv', hseen⟩⟩

/-- Whatever the calls were, the log tells where every session is from. -/
theorem backed_of_reachable (h : (machine rt).Reachable store) : Backed rt store := by
  induction h with
  | init h =>
    obtain ⟨-, ldap, hdocument⟩ := h
    constructor
    · intro key v hv
      rw [hdocument] at hv
      cases hv
    · intro key v hv
      rw [hdocument] at hv
      cases hv
  | step request _ hstep ih =>
    obtain ⟨e, he, hbefore, rfl⟩ := step_made hstep
    exact ⟨fun _ _ hv => traced_call ih he hbefore hv, fun _ _ hv => traced_user_call ih he hbefore hv⟩

end

/-- Why a call with a token of the administrator may go on: by the log before it, the token was given out less than
    eight hours ago and seen less than half an hour ago, and no call since then took it away. -/
structure LocalGrant (rt : Runtime) (e : Entry) (text permission : String) (past : List Entry) : Prop where
  granted : permission ∈ ADMIN
  issued : Since (fun i => i.starts text ∧ e.request.now < i.request.now + 28800)
    (fun x => ¬ x.revokes_local text) past
  seen : Since (fun u => u.sees rt text ∧ e.request.now < u.request.now + 1800) (fun x => ¬ x.revokes_local text) past
  recent : e.request.action.administrative = true →
    Since (fun c => c.confirms text ∧ e.request.now < c.request.now + 900) (fun x => ¬ x.revokes_local text) past

/-- Why a call with a token of a directory user may go on: also, the role they have now grants the permission, and the
    directory confirmed them in this call, or half a minute before it if the call only reads. -/
structure LdapGrant (rt : Runtime) (e : Entry) (text identity permission : String) (past : List Entry) : Prop where
  granted : permission ∈ (stored_role e.before identity).permissions
  issued : Since (fun i => i.starts text ∧ i.confirmed_by identity ∧ e.request.now < i.request.now + 28800)
    (fun x => ¬ x.revokes_ldap text identity) past
  seen : Since (fun u => u.sees rt text ∧ e.request.now < u.request.now + 1800)
    (fun x => ¬ x.revokes_ldap text identity) past
  confirmed : e.confirmed_by identity ∨ permission ∈ READ ∧ stored_active e.before identity ∧
    Since (fun c => c.confirmed_by identity ∧ e.request.now < c.request.now + 30)
      (fun x => ¬ x.revokes_ldap text identity) past
  recent : e.request.action.administrative = true →
    Since (fun c => c.confirms text ∧ e.request.now < c.request.now + 900)
      (fun x => ¬ x.revokes_ldap text identity) past

section

variable {rt : Runtime} {store : Store} {e : Entry}

/-- The parts of a log that show a session to be live. -/
theorem Traced.live {revokes : Entry → Prop} {text : String} {v : Session} {log : List Entry} {now : Nat}
    (h : Traced rt revokes text v log) (hlive : v.Live now) :
    Since (fun i => i.starts text ∧ now < i.request.now + 28800) (fun e => ¬ revokes e) log ∧
      Since (fun u => u.sees rt text ∧ now < u.request.now + 1800) (fun e => ¬ revokes e) log := by
  obtain ⟨hexpires, hseen⟩ := hlive
  rw [h.expires] at hexpires
  constructor
  · refine h.started.imp (fun i _ hi => ⟨hi.1, ?_⟩) (fun _ _ hq => hq)
    rw [hi.2]
    exact hexpires
  · refine h.seen.imp (fun u _ hu => ⟨hu.1, ?_⟩) (fun _ _ hq => hq)
    rw [hu.2]
    exact hseen

theorem Traced.recent {revokes : Entry → Prop} {text : String} {v : Session} {log : List Entry} {now : Nat}
    (h : Traced rt revokes text v log) (hfresh : now < v.confirmation + 900) :
    Since (fun c => c.confirms text ∧ now < c.request.now + 900) (fun e => ¬ revokes e) log := by
  refine h.confirmed.imp (fun c _ hc => ⟨hc.1, ?_⟩) (fun _ _ hq => hq)
  rw [hc.2]
  exact hfresh

/-- The look that let the call go on is a grant by the log. -/
theorem grant_of_done (hbacked : Backed rt store) (he : e.Made rt) (hbefore : e.before = store.document)
    {permission : Value} (hroot : e.request.root = false) (hdone : e.done)
    (hpermission : e.request.action.permission e.request.payload = some permission) :
    ∃ name text, permission = .str name ∧ e.bears text ∧
      (LocalGrant rt e text name store.log ∨ ∃ identity, LdapGrant rt e text identity name store.log) := by
  obtain ⟨value, hvalue⟩ := hdone
  obtain ⟨service, hservice, -, hanswers⟩ := transact_of_done he hvalue
  rw [hbefore] at hservice
  obtain ⟨text, middle, htext, hlooked, hgiven, hleft⟩ := (guarded_transact hroot hpermission).done hservice
  have hdigest : ∀ {text'}, rt.digest text = rt.digest text' → text' = text := fun h => (rt.digest_injective h).symm
  cases hlooked with
  | @administrator v v' hlook =>
    obtain ⟨name, hname, rfl⟩ := hlook.granted permission rfl
    obtain ⟨text', hkey, htraced⟩ := hbacked.sessions _ v (dict.mem_of_get hlook.before)
    cases hdigest hkey
    obtain ⟨hissued, hseen⟩ := htraced.live hlook.live
    exact ⟨name, text, rfl, htext, .inl ⟨hname, hissued, hseen, fun hadmin => htraced.recent (hlook.fresh hadmin)⟩⟩
  | @user v v' hlook =>
    obtain ⟨name, hname, rfl⟩ := hlook.granted permission rfl
    obtain ⟨text', hkey, htraced⟩ := hbacked.ldap_sessions _ v (dict.mem_of_get hlook.before)
    cases hdigest hkey
    obtain ⟨-, hseen⟩ := htraced.session.live hlook.live
    have hexpires : e.request.now < v.issued + 28800 := htraced.session.expires ▸ hlook.live.1
    refine ⟨name, text, rfl, htext, .inr ⟨v.principal.identity, ?_, ?_, hseen, ?_, ?_⟩⟩
    · rw [hbefore]
      exact hname
    · refine htraced.started.imp (fun i _ hi => ⟨hi.1, hi.2.1, ?_⟩) (fun _ _ hq => hq)
      rw [hi.2.2]
      exact hexpires
    · rcases hlook.confirmed with hconfirmed | ⟨hread, hchecked, hactive⟩
      · left
        refine confirmed_by_of_confirmed ?_
        rw [hanswers]
        exact confirmed_taken (hconfirmed.of_left hleft)
      · right
        obtain ⟨other, hother, heq⟩ := hread _ rfl
        cases heq
        rw [hbefore]
        refine ⟨hother, hactive, htraced.checked.imp (fun c _ hc => ⟨hc.1, ?_⟩) (fun _ _ hq => hq)⟩
        rw [hc.2]
        exact hchecked
    · exact fun hadmin => htraced.session.recent (hlook.fresh hadmin)

/-- Authorization reflects the identity: in every log, a call that asks for a permission is done only with a token
    that a login or an enrollment gave out, that has not come to its end and was not taken away since, by a caller who
    has the permission now. -/
theorem authorization_reflects_identity (h : (machine rt).Reachable store) :
    Always (fun e past => ∀ permission, e.request.root = false → e.done →
      e.request.action.permission e.request.payload = some permission →
        ∃ name text, permission = .str name ∧ e.bears text ∧
          (LocalGrant rt e text name past ∨ ∃ identity, LdapGrant rt e text identity name past)) store.log := by
  induction h with
  | init h =>
    rw [h.1]
    trivial
  | @step store store' request h hstep ih =>
    obtain ⟨e, he, hbefore, rfl⟩ := step_made hstep
    refine always_cons.mpr ⟨fun permission hroot hdone hpermission => ?_, ih⟩
    exact grant_of_done (backed_of_reachable h) he hbefore hroot hdone hpermission

end

/-- The root invites, the administrator enrolls and asks for a permission. -/
def enrollment : List Request :=
  [{ root := true, now := 1, token := "invitation", payload := [("action", .str "invite")] },
    { root := false, now := 2, token := "session", uuid := "administrator",
      payload := [("action", .str "enroll"), ("invitation", .str "invitation"), ("username", .str "root"),
        ("password", .str "a long password")] },
    { root := false, now := 3,
      payload := [("action", .str "authorize"), ("session", .str "session"), ("permission", .str "source.read")] }]

/-- The newest call is done and asked for the permission. -/
def Store.granted (store : Store) (permission : String) : Bool :=
  match store.log with
  | [] => false
  | e :: _ => !e.request.root && e.reply.toOption.isSome &&
      e.request.action.permission e.request.payload = some (.str permission)

theorem authorization_reflects_identity_enrolled : ∃ store e past, store.log = e :: past ∧
    (machine .plain).Reachable store ∧ e.done ∧ ∃ name text, Value.str "source.read" = .str name ∧ e.bears text ∧
      (LocalGrant .plain e text name past ∨ ∃ identity, LdapGrant .plain e text identity name past) := by
  have hrun : ((machine .plain).run ⟨initial_state, []⟩ enrollment).any (Store.granted · "source.read") = true := by
    decide +kernel
  rw [Option.any_eq_true] at hrun
  obtain ⟨store, hstore, hgranted⟩ := hrun
  have hreachable : (machine .plain).Reachable store := (Machine.Reachable.init (init_empty _)).run hstore
  have halways := authorization_reflects_identity hreachable
  unfold Store.granted at hgranted
  split at hgranted
  · cases hgranted
  next e past hlog =>
    simp only [Bool.and_eq_true, Bool.not_eq_true', decide_eq_true_eq] at hgranted
    obtain ⟨⟨hroot, hreply⟩, hpermission⟩ := hgranted
    have hdone := Entry.done_of_isSome hreply
    rw [hlog] at halways
    exact ⟨store, e, past, hlog, hreachable, hdone, halways.1 _ hroot hdone hpermission⟩

end netbox_sync.auth_store
