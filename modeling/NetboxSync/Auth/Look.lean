import NetboxSync.Auth.Store

open json

namespace netbox_sync.auth_policy

open Auth Transaction

/-- The members of the document that the destination policy has for itself. -/
structure Destinations where
  revision : Nat
  mode : Mode
  ceiling : Option Ceiling
  allowed_hosts : List String
  denied_cidrs : List String
  changes : List (String × Change)
  receipts : List (String × Receipt)

def Document.destinations (state : Document) : Destinations :=
  ⟨state.revision, state.mode, state.ceiling, state.allowed_hosts, state.denied_cidrs, state.changes, state.receipts⟩

/-- The destination policy is left alone. -/
def Framed (s s' : Service) : Prop :=
  s'.state.destinations = s.state.destinations ∧ s'.now = s.now ∧ s'.baseline = s.baseline

/-- The key is of the token. -/
def Bears (rt : Runtime) (token : Option Value) (key : String) : Prop :=
  ∃ text, token = some (.str text) ∧ key = rt.digest text

/-- A session goes on. Only the call with its token can see it, and confirm it where `C` allows that. -/
structure Session.Continues (rt : Runtime) (token : Option Value) (C : Prop) (now : Nat) (key : String)
    (v v' : Session) : Prop where
  issued : v'.issued = v.issued
  expires : v'.expires = v.expires
  seen : v'.last_seen = v.last_seen ∨ Bears rt token key ∧ v'.last_seen = now
  confirmed : v'.confirmed_at = v.confirmed_at ∨ C ∧ Bears rt token key ∧ v'.confirmed_at = some now

def LdapSession.session (v : LdapSession) : Session := ⟨v.issued, v.last_seen, v.expires, v.confirmed_at⟩

/-- Of the answers that were given and are not left, one confirms the identity. -/
def Confirmed (given left : List DirectoryAnswer) (identity : String) : Prop :=
  ∃ used, given = used ++ left ∧ ∃ answer ∈ used, ∃ row, confirmed identity answer = .ok row

structure LdapSession.Continues (rt : Runtime) (token : Option Value) (C : Prop) (now : Nat)
    (given left : List DirectoryAnswer) (key : String) (v v' : LdapSession) : Prop where
  session : Session.Continues rt token C now key v.session v'.session
  identity : v'.principal.identity = v.principal.identity
  id : v'.principal.id = v.principal.id
  checked : v'.checked = v.checked ∨ v'.checked = now ∧ Confirmed given left v.principal.identity

/-- Every session was there before, or is the new one where `N` allows that. -/
structure Kept (rt : Runtime) (token : Option Value) (C N : Prop) (s s' : Service) : Prop where
  now : s'.now = s.now
  fresh : s'.token = s.token
  directory : ∃ used, s.directory = used ++ s'.directory
  sessions : ∀ key v', (key, v') ∈ s'.state.sessions →
    (∃ v, (key, v) ∈ s.state.sessions ∧ Session.Continues rt token C s.now key v v') ∨
      N ∧ key = rt.digest s.token ∧ v' = Session.new s.now
  ldap_sessions : ∀ key v', (key, v') ∈ s'.state.ldap_sessions →
    (∃ v, (key, v) ∈ s.state.ldap_sessions ∧ LdapSession.Continues rt token C s.now s.directory s'.directory key v v') ∨
      N ∧ key = rt.digest s.token ∧ v'.session = Session.new s.now ∧ v'.checked = s.now ∧
        Confirmed s.directory s'.directory v'.principal.identity

section

variable {rt : Runtime} {token : Option Value} {C N : Prop} {a b c : Service} {key : String}

instance : Std.Refl Framed := ⟨fun _ => ⟨rfl, rfl, rfl⟩⟩

instance : IsTrans Service Framed := ⟨fun _ _ _ h h' => ⟨h'.1.trans h.1, h'.2.1.trans h.2.1, h'.2.2.trans h.2.2⟩⟩

theorem Session.Continues.trans {now : Nat} {u v w : Session} (h : Session.Continues rt token False now key u v)
    (h' : Session.Continues rt token C now key v w) : Session.Continues rt token C now key u w where
  issued := h'.issued.trans h.issued
  expires := h'.expires.trans h.expires
  seen := by
    rcases h'.seen with h' | h'
    · rw [h']
      exact h.seen
    · exact .inr h'
  confirmed := by
    rcases h'.confirmed with h' | h'
    · rcases h.confirmed with h | h
      · exact .inl (h'.trans h)
      · exact h.1.elim
    · exact .inr h'

theorem Confirmed.of_left {identity : String} {x y z : List DirectoryAnswer} (h : Confirmed x y identity)
    (hleft : ∃ used, y = used ++ z) : Confirmed x z identity := by
  obtain ⟨used, hused, answer, hanswer, hrow⟩ := h
  obtain ⟨more, hmore⟩ := hleft
  refine ⟨used ++ more, ?_, answer, List.mem_append_left _ hanswer, hrow⟩
  rw [hused, hmore, List.append_assoc]

theorem Confirmed.of_right {identity : String} {x y z : List DirectoryAnswer} (hgiven : ∃ used, x = used ++ y)
    (h : Confirmed y z identity) : Confirmed x z identity := by
  obtain ⟨used, hused, answer, hanswer, hrow⟩ := h
  obtain ⟨more, hmore⟩ := hgiven
  refine ⟨more ++ used, ?_, answer, List.mem_append_right _ hanswer, hrow⟩
  rw [hmore, hused, List.append_assoc]

theorem LdapSession.Continues.refl {now : Nat} {given left : List DirectoryAnswer} (v : LdapSession) :
    LdapSession.Continues rt token C now given left key v v :=
  ⟨⟨rfl, rfl, .inl rfl, .inl rfl⟩, rfl, rfl, .inl rfl⟩

theorem LdapSession.Continues.trans {now : Nat} {x y z : List DirectoryAnswer} {u v w : LdapSession}
    (hxy : ∃ used, x = used ++ y) (hyz : ∃ used, y = used ++ z)
    (h : LdapSession.Continues rt token False now x y key u v) (h' : LdapSession.Continues rt token C now y z key v w) :
    LdapSession.Continues rt token C now x z key u w where
  session := h.session.trans h'.session
  identity := h'.identity.trans h.identity
  id := h'.id.trans h.id
  checked := by
    rcases h'.checked with hchecked | ⟨hchecked, hconfirmed⟩
    · rcases h.checked with hc | ⟨hc, hconfirmed⟩
      · exact .inl (hchecked.trans hc)
      · exact .inr ⟨hchecked.trans hc, hconfirmed.of_left hyz⟩
    · rw [h.identity] at hconfirmed
      exact .inr ⟨hchecked, hconfirmed.of_right hxy⟩

theorem Kept.refl (s : Service) : Kept rt token C N s s where
  now := rfl
  fresh := rfl
  directory := ⟨[], rfl⟩
  sessions _ v' hv' := .inl ⟨v', hv', ⟨rfl, rfl, .inl rfl, .inl rfl⟩⟩
  ldap_sessions _ v' hv' := .inl ⟨v', hv', .refl v'⟩

theorem Kept.trans (h : Kept rt token False False a b) (h' : Kept rt token C N b c) : Kept rt token C N a c where
  now := h'.now.trans h.now
  fresh := h'.fresh.trans h.fresh
  directory := by
    obtain ⟨used, hused⟩ := h.directory
    obtain ⟨more, hmore⟩ := h'.directory
    exact ⟨used ++ more, by rw [hused, hmore, List.append_assoc]⟩
  sessions := by
    intro key w hw
    rcases h'.sessions key w hw with ⟨v, hv, hvw⟩ | ⟨hN, hkey, hw⟩
    · rcases h.sessions key v hv with ⟨u, hu, huv⟩ | ⟨hN, -⟩
      · rw [h.now] at hvw
        exact .inl ⟨u, hu, huv.trans hvw⟩
      · exact hN.elim
    · rw [h.fresh] at hkey
      rw [h.now] at hw
      exact .inr ⟨hN, hkey, hw⟩
  ldap_sessions := by
    intro key w hw
    rcases h'.ldap_sessions key w hw with ⟨v, hv, hvw⟩ | ⟨hN, hkey, hsession, hchecked, hconfirmed⟩
    · rcases h.ldap_sessions key v hv with ⟨u, hu, huv⟩ | ⟨hN, -⟩
      · rw [h.now] at hvw
        exact .inl ⟨u, hu, .trans h.directory h'.directory huv hvw⟩
      · exact hN.elim
    · rw [h.fresh] at hkey
      rw [h.now] at hsession hchecked
      exact .inr ⟨hN, hkey, hsession, hchecked, hconfirmed.of_right h.directory⟩

theorem Kept.mono {C' N' : Prop} (h : Kept rt token C N a b) (hC : C → C') (hN : N → N') : Kept rt token C' N' a b := by
  have hmono : ∀ {now key v v'}, Session.Continues rt token C now key v v' →
      Session.Continues rt token C' now key v v' :=
    fun hv => ⟨hv.issued, hv.expires, hv.seen, hv.confirmed.imp id (fun h => ⟨hC h.1, h.2⟩)⟩
  refine ⟨h.now, h.fresh, h.directory, fun key v' hv' => ?_, fun key v' hv' => ?_⟩
  · rcases h.sessions key v' hv' with ⟨v, hv, hcontinues⟩ | ⟨hnew, hrest⟩
    · exact .inl ⟨v, hv, hmono hcontinues⟩
    · exact .inr ⟨hN hnew, hrest⟩
  · rcases h.ldap_sessions key v' hv' with ⟨v, hv, hcontinues⟩ | ⟨hnew, hrest⟩
    · exact .inl ⟨v, hv, hmono hcontinues.session, hcontinues.identity, hcontinues.id, hcontinues.checked⟩
    · exact .inr ⟨hN hnew, hrest⟩

instance : Std.Refl (Kept rt token False False) := ⟨Kept.refl⟩

instance : IsTrans Service (Kept rt token False False) := ⟨fun _ _ _ h h' => h.trans h'⟩

/-- The policy is left alone, and no session is new or confirmed. -/
def Quiet (rt : Runtime) (token : Option Value) (s s' : Service) : Prop :=
  Framed s s' ∧ Kept rt token False False s s'

theorem Quiet.refl (s : Service) : Quiet rt token s s := ⟨⟨rfl, rfl, rfl⟩, .refl s⟩

instance : Std.Refl (Quiet rt token) := ⟨Quiet.refl⟩

instance : IsTrans Service (Quiet rt token) := ⟨fun _ _ _ h h' => ⟨IsTrans.trans _ _ _ h.1 h'.1, h.2.trans h'.2⟩⟩

/-- A document in which no session is new or changed. -/
theorem kept_of_subset {s s' : Service} (hnow : s'.now = s.now) (htoken : s'.token = s.token)
    (hdirectory : ∃ used, s.directory = used ++ s'.directory) (hsessions : s'.state.sessions ⊆ s.state.sessions)
    (hldap : s'.state.ldap_sessions ⊆ s.state.ldap_sessions) : Kept rt token C N s s' where
  now := hnow
  fresh := htoken
  directory := hdirectory
  sessions _ v' hv' := .inl ⟨v', hsessions hv', ⟨rfl, rfl, .inl rfl, .inl rfl⟩⟩
  ldap_sessions _ v' hv' := .inl ⟨v', hldap hv', .refl v'⟩

/-- The document changes in other members, and sessions are at most dropped. -/
theorem quiet_update {f : Document → Document} (hdestinations : ∀ d, (f d).destinations = d.destinations)
    (hsessions : ∀ d, (f d).sessions ⊆ d.sessions) (hldap : ∀ d, (f d).ldap_sessions ⊆ d.ldap_sessions) :
    Moves (Quiet rt token) (update f) :=
  .modify (fun s => ⟨⟨hdestinations s.state, rfl, rfl⟩,
    kept_of_subset rfl rfl ⟨[], rfl⟩ (hsessions s.state) (hldap s.state)⟩)

theorem quiet_event (action : String) (actor : Option String) (details : Fields) :
    Moves (Quiet rt token) (event action actor details) :=
  .modify (fun _ => ⟨⟨rfl, rfl, rfl⟩, kept_of_subset rfl rfl ⟨[], rfl⟩ (List.Subset.refl _) (List.Subset.refl _)⟩)

theorem quiet_ask : Moves (Quiet rt token) ask := by
  intro s
  refine ends_ask (fun _ => Quiet.refl s) (fun answer rest hdirectory => ?_)
  exact ⟨⟨rfl, rfl, rfl⟩, kept_of_subset rfl rfl ⟨[answer], hdirectory⟩ (List.Subset.refl _) (List.Subset.refl _)⟩

theorem quiet_throttle : Moves (Quiet rt token) throttle := by
  refine .bind moves_now (fun now => .bind ?_ (fun _ => .bind moves_state (fun state => .bind (.check _ _) ?_)))
  · exact quiet_update (fun _ => rfl) (fun _ => List.Subset.refl _) (fun _ => List.Subset.refl _)
  · exact fun _ => quiet_update (fun _ => rfl) (fun _ => List.Subset.refl _) (fun _ => List.Subset.refl _)

end

/-- The permission, if one is asked for, is one of the names. -/
def Within (permission : Option Value) (names : List String) : Prop :=
  ∀ value, permission = some value → ∃ name ∈ names, value = .str name

/-- A session that has not come to its end. -/
def Session.Live (v : Session) (now : Nat) : Prop := now < v.expires ∧ now < v.last_seen + 1800

/-- When the session was confirmed last. -/
def Session.confirmation (v : Session) : Nat := v.confirmed_at.getD v.issued

/-- The role that is stored for an identity. A user that is not known is a viewer. -/
def stored_role (state : Document) (identity : String) : Role :=
  ((dict.get state.ldap_users identity).map LdapUser.role).getD .viewer

/-- The user is stored, and active. -/
def stored_active (state : Document) (identity : String) : Prop :=
  (dict.get state.ldap_users identity).any LdapUser.active = true

section

variable (rt : Runtime) (text : String) (permission : Option Value) (admin : Prop) (s s' : Service)

/-- The token is of the local administrator, whose session allows the permission. For administrative changes it was
    confirmed a short time ago. -/
structure LocalLook (v v' : Session) : Prop where
  before : dict.get s.state.sessions (rt.digest text) = some v
  after : dict.get s'.state.sessions (rt.digest text) = some v'
  continues : Session.Continues rt (some (.str text)) False s.now (rt.digest text) v v'
  live : v.Live s.now
  granted : Within permission ADMIN
  fresh : admin → s.now < v.confirmation + 900

/-- The token is of a directory user. -/
structure DirectoryLook (v v' : LdapSession) : Prop where
  absent : dict.get s.state.sessions (rt.digest text) = none
  absent' : dict.get s'.state.sessions (rt.digest text) = none
  before : dict.get s.state.ldap_sessions (rt.digest text) = some v
  after : dict.get s'.state.ldap_sessions (rt.digest text) = some v'
  continues : LdapSession.Continues rt (some (.str text)) False s.now s.directory s'.directory (rt.digest text) v v'
  live : v.session.Live s.now
  role : stored_role s'.state v.principal.identity = stored_role s.state v.principal.identity
  active : stored_active s'.state v.principal.identity →
    stored_active s.state v.principal.identity ∨ Confirmed s.directory s'.directory v.principal.identity
  granted : Within permission (stored_role s.state v.principal.identity).permissions
  confirmed : Confirmed s.directory s'.directory v.principal.identity ∨
    Within permission READ ∧ s.now < v.checked + 30 ∧ stored_active s.state v.principal.identity
  fresh : admin → s.now < v.session.confirmation + 900

/-- A look at the session of a token that lets the call go on. -/
inductive Looked : Prop where
  | administrator {v v' : Session} (h : LocalLook rt text permission admin s s' v v')
  | user {v v' : LdapSession} (h : DirectoryLook rt text permission admin s s' v v')

end

section

variable {rt : Runtime} {text : String} {permission : Option Value} {s : Service}

variable {value : Value} {R : Code → Service → Prop} {v : LdapSession}

theorem ends_member {names : List String} {Q : Bool → Service → Prop}
    (htrue : (∃ name ∈ names, value = .str name) → Q true s)
    (hfalse : (¬ ∃ name ∈ names, value = .str name) → Q false s) : (member value names).Ends s Q R := by
  have hany : names.any (fun name => value = .str name) = true ↔ ∃ name ∈ names, value = .str name := by simp
  unfold member
  split
  · trivial
  · trivial
  · show Q (names.any (fun name => value = .str name)) s
    cases hvalue : names.any (fun name => value = .str name) with
    | true => exact htrue (hany.mp hvalue)
    | false => exact hfalse (fun h => Bool.false_ne_true (hvalue.symm.trans (hany.mpr h)))

theorem ends_require {names : List String} {Q : Unit → Service → Prop} (hok : Within permission names → Q () s)
    (hdenied : R .AUTH_DENIED s) : (require permission names).Ends s Q R := by
  unfold require
  split
  · exact hok (fun _ h => nomatch h)
  next value =>
    rw [ends_bind]
    refine ends_member (fun h => ?_) (fun _ => ?_)
    · exact ends_check.mpr ⟨fun _ => hok (fun _ heq => by cases heq; exact h), fun h => (nomatch h)⟩
    · exact ends_check.mpr ⟨fun h => (nomatch h), fun _ => hdenied⟩

/-- The look at a local session sees it, and nothing else changes. -/
theorem local_session_ends {v : Session} (hv : dict.get s.state.sessions (rt.digest text) = some v) :
    (local_session (rt.digest text) v permission).Ends s
      (fun caller s' => Quiet rt (some (.str text)) s s' ∧ Looked rt text permission False s s' ∧
        ∃ principal, s.state.principal = some principal ∧ caller.id = principal.id)
      (fun _ s' => Quiet rt (some (.str text)) s s') := by
  unfold local_session
  rw [ends_bind, ends_now, ends_bind, ends_state]
  split
  · exact Quiet.refl s
  next principal hprincipal =>
    rw [ends_bind, ends_check]
    refine ⟨fun hlive => ?_, fun _ => Quiet.refl s⟩
    simp only [Bool.and_eq_true, decide_eq_true_eq] at hlive
    rw [ends_bind]
    refine ends_require (fun hgranted => ?_) (Quiet.refl s)
    rw [ends_bind, ends_update, ends_pure]
    have hcontinues : Session.Continues rt (some (.str text)) False s.now (rt.digest text) v
        { v with last_seen := s.now } := ⟨rfl, rfl, .inr ⟨⟨text, rfl, rfl⟩, rfl⟩, .inl rfl⟩
    refine ⟨⟨⟨rfl, rfl, rfl⟩, ⟨rfl, rfl, ⟨[], rfl⟩, fun key v' hv' => ?_, fun _ v' hv' => .inl ⟨v', hv', .refl v'⟩⟩⟩,
      .administrator ⟨hv, dict.get_set_self _ _ _, hcontinues, ⟨hlive.1.2, hlive.2⟩, hgranted, False.elim⟩,
      principal, hprincipal, rfl⟩
    rcases dict.mem_set hv' with heq | hv'
    · cases heq
      exact .inl ⟨v, dict.mem_of_get hv, hcontinues⟩
    · exact .inl ⟨v', hv', ⟨rfl, rfl, .inl rfl, .inl rfl⟩⟩

/-- The row of a user has their identity and says whether they are active. The role is the stored one. -/
theorem directory_user_ok {state : Document} {user : LdapUser} (h : directory_user rt state value = .ok user) :
    ∃ fields, value = .obj fields ∧ dict.get fields "identity" = some (.str user.identity) ∧
      dict.get fields "active" = some (.bool user.active) ∧ user.role = stored_role state user.identity := by
  unfold directory_user at h
  split at h
  next fields saved hldap =>
    split at h
    next identity active username display_name hidentity hactive husername hname =>
      split at h
      · cases h
      · cases h
        exact ⟨fields, rfl, hidentity, hactive, rfl⟩
    · cases h
  · cases h

/-- A row confirms the identity it has, of an active user. -/
theorem confirmed_ok {identity : String} {answer : DirectoryAnswer} {row : Value}
    (h : confirmed identity answer = .ok row) :
    answer = .value row ∧ ∃ fields, row = .obj fields ∧ dict.get fields "identity" = some (.str identity) ∧
      ((dict.get fields "active").getD .null).truthy = true := by
  unfold confirmed at h
  split at h
  next fields =>
    split at h
    · cases h
    next found hfound =>
      split at h
      next hsame =>
        cases h
        simp only [Bool.and_eq_true, decide_eq_true_eq] at hsame
        exact ⟨rfl, fields, rfl, hsame.1 ▸ hfound, hsame.2⟩
      · cases h
  · cases h
  · cases h

/-- The row of an active user confirms their identity. -/
theorem confirmed_of_directory_user {state : Document} {user : LdapUser} (h : directory_user rt state value = .ok user)
    (hactive : user.active = true) : confirmed user.identity (.value value) = .ok value := by
  obtain ⟨fields, rfl, hidentity, hfound, -⟩ := directory_user_ok h
  unfold confirmed
  simp only [hidentity, hfound, hactive]
  simp [Value.truthy]

/-- The session that the directory has been asked about, or need not be: it goes on, and the stored role with it. -/
structure Refreshed (rt : Runtime) (text : String) (permission : Option Value) (v v' : LdapSession) (s s' : Service) :
    Prop where
  quiet : Quiet rt (some (.str text)) s s'
  sessions : s'.state.sessions = s.state.sessions
  continues : LdapSession.Continues rt (some (.str text)) False s.now s.directory s'.directory (rt.digest text) v v'
  seen : v'.last_seen = v.last_seen
  role : stored_role s'.state v.principal.identity = stored_role s.state v.principal.identity
  active : stored_active s'.state v.principal.identity →
    stored_active s.state v.principal.identity ∨ Confirmed s.directory s'.directory v.principal.identity
  confirmed : Confirmed s.directory s'.directory v.principal.identity ∨
    Within permission READ ∧ s.now < v.checked + 30 ∧ s'.state.ldap_users = s.state.ldap_users

/-- A session that goes on may be stored again. -/
theorem Quiet.put {w : LdapSession} {s' : Service} (h : Quiet rt (some (.str text)) s s')
    (hv : dict.get s.state.ldap_sessions (rt.digest text) = some v)
    (hw : LdapSession.Continues rt (some (.str text)) False s.now s.directory s'.directory (rt.digest text) v w)
    (audit : List Event) : Quiet rt (some (.str text)) s { s' with
      audit
      state := { s'.state with ldap_sessions := dict.set s'.state.ldap_sessions (rt.digest text) w } } := by
  refine ⟨h.1, ⟨h.2.now, h.2.fresh, h.2.directory, h.2.sessions, fun key v' hv' => ?_⟩⟩
  rcases dict.mem_set hv' with heq | hv'
  · cases heq
    exact .inl ⟨v, dict.mem_of_get hv, hw⟩
  · exact h.2.ldap_sessions key v' hv'

theorem revalidate_ends (hv : dict.get s.state.ldap_sessions (rt.digest text) = some v) :
    (revalidate rt (rt.digest text) v).Ends s (fun v' s' => Refreshed rt text permission v v' s s')
      (fun _ s' => Quiet rt (some (.str text)) s s') := by
  unfold revalidate
  rw [ends_bind, ends_now, ends_bind]
  -- the directory has nothing to say, or answers
  refine ends_ask (fun _ => ?_) (fun answer rest hdirectory => ?_)
  · exact ⟨⟨rfl, rfl, rfl⟩, kept_of_subset rfl rfl ⟨[], rfl⟩ (List.Subset.refl _) (dict.pop_subset _ _)⟩
  · split
    · exact ⟨⟨rfl, rfl, rfl⟩,
        kept_of_subset rfl rfl ⟨[answer], hdirectory⟩ (List.Subset.refl _) (dict.pop_subset _ _)⟩
    next checked hchecked =>
      rw [ends_bind, ends_state]
      split
      · trivial
      next user huser =>
        obtain ⟨-, fields, rfl, hidentity, htruthy⟩ := confirmed_ok hchecked
        obtain ⟨fields', heq, hfound, hactive, hrole⟩ := directory_user_ok huser
        cases heq
        rw [hidentity] at hfound
        have hid : user.identity = v.principal.identity := (Value.str.inj (Option.some.inj hfound)).symm
        rw [hid] at hrole
        have hconfirmed : Confirmed s.directory rest v.principal.identity :=
          ⟨[answer], hdirectory, answer, List.mem_singleton_self _, _, hchecked⟩
        have hcontinues : LdapSession.Continues rt (some (.str text)) False s.now s.directory rest
            (rt.digest text) v (v.confirmed_as user s.now) :=
          ⟨⟨rfl, rfl, .inl rfl, .inl rfl⟩, rfl, rfl, .inr ⟨rfl, hconfirmed⟩⟩
        have hquiet : Quiet rt (some (.str text)) s { s with
            directory := rest
            state := { s.state with ldap_users := dict.set s.state.ldap_users user.identity user } } :=
          ⟨⟨rfl, rfl, rfl⟩, kept_of_subset rfl rfl ⟨[answer], hdirectory⟩ (List.Subset.refl _) (List.Subset.refl _)⟩
        have hstored : ((dict.get (dict.set s.state.ldap_users user.identity user) v.principal.identity).map
            LdapUser.role).getD .viewer = stored_role s.state v.principal.identity := by
          rw [hid, dict.get_set_self]
          exact hrole
        rw [ends_bind, ends_update, ends_ite]
        constructor
        · intro _
          rw [ends_bind, ends_event, ends_bind]
          exact ⟨hquiet.put hv hcontinues _, rfl, hcontinues, rfl, hstored, fun _ => .inr hconfirmed, .inl hconfirmed⟩
        · intro _
          rw [ends_bind]
          exact ⟨hquiet.put hv hcontinues _, rfl, hcontinues, rfl, hstored, fun _ => .inr hconfirmed, .inl hconfirmed⟩

/-- The session is asked about when it must be. -/
theorem refresh_ends (hv : dict.get s.state.ldap_sessions (rt.digest text) = some v) {f : LdapSession → Auth Caller}
    {Q : Caller → Service → Prop} (hok : ∀ v' s', Refreshed rt text permission v v' s s' → (f v').Ends s' Q R)
    (hrefused : ∀ code s', Quiet rt (some (.str text)) s s' → R code s') :
    (do
      let v' ← if ← must_revalidate s.now v permission then revalidate rt (rt.digest text) v else pure v
      f v').Ends s Q R := by
  have hrevalidate : (revalidate rt (rt.digest text) v >>= f).Ends s Q R := by
    rw [ends_bind]
    exact (revalidate_ends hv).imp hok hrefused
  have hcached : s.now < v.checked + 30 → Within permission READ → (f v).Ends s Q R := by
    intro hchecked hread
    exact hok v s ⟨Quiet.refl s, rfl, .refl v, rfl, rfl, .inl, .inr ⟨hread, hchecked, rfl⟩⟩
  rw [ends_bind]
  unfold must_revalidate
  split
  · exact hrevalidate
  next hchecked =>
    rw [Nat.not_le] at hchecked
    split
    · exact hcached hchecked (fun _ h => nomatch h)
    next value =>
      rw [ends_bind]
      refine ends_member (fun h => ?_) (fun _ => hrevalidate)
      exact hcached hchecked (fun _ heq => by cases heq; exact h)

/-- The stored user is active and has the role, and the session is seen. -/
theorem stored_user_ends {v' : LdapSession} {s' : Service} (habsent : dict.get s.state.sessions (rt.digest text) = none)
    (hv : dict.get s.state.ldap_sessions (rt.digest text) = some v) (hlive : v.session.Live s.now)
    (h : Refreshed rt text permission v v' s s') :
    (stored_user (rt.digest text) v' permission).Ends s'
      (fun caller s'' => Quiet rt (some (.str text)) s s'' ∧ Looked rt text permission False s s'' ∧
        caller.id = v.principal.id) (fun _ s'' => Quiet rt (some (.str text)) s s'') := by
  unfold stored_user
  rw [ends_bind, ends_now, ends_bind, ends_state, h.continues.identity]
  split
  · exact h.quiet
  next user huser =>
    rw [ends_bind, ends_check]
    refine ⟨fun hactive => ?_, fun _ => h.quiet⟩
    have hrole : user.role = stored_role s.state v.principal.identity := by
      rw [← h.role]
      unfold stored_role
      rw [huser]
      rfl
    have hstored : stored_active s'.state v.principal.identity := by
      unfold stored_active
      rw [huser]
      exact hactive
    have hconfirmed : Confirmed s.directory s'.directory v.principal.identity ∨ Within permission READ ∧
        s.now < v.checked + 30 ∧ stored_active s.state v.principal.identity := by
      rcases h.confirmed with hconfirmed | ⟨hread, hchecked, husers⟩
      · exact .inl hconfirmed
      · unfold stored_active at hstored ⊢
        rw [husers] at hstored
        exact .inr ⟨hread, hchecked, hstored⟩
    have hset : LdapSession.Continues rt (some (.str text)) False s.now s.directory s'.directory (rt.digest text) v
        (v'.with_role user.role) :=
      ⟨h.continues.session, h.continues.identity, h.continues.id, h.continues.checked⟩
    have hseen : LdapSession.Continues rt (some (.str text)) False s.now s.directory s'.directory (rt.digest text) v
        { v'.with_role user.role with last_seen := s'.now } :=
      ⟨⟨hset.session.issued, hset.session.expires, .inr ⟨⟨text, rfl, rfl⟩, h.quiet.2.now⟩, hset.session.confirmed⟩,
        hset.identity, hset.id, hset.checked⟩
    have hput := h.quiet.put hv hset s'.audit
    rw [ends_bind]
    refine ends_update.mpr (ends_bind.mpr (ends_require (fun hgranted => ?_) hput))
    rw [ends_bind]
    refine ends_update.mpr ⟨hput.put hv hseen s'.audit, ?_, h.continues.id⟩
    have habsent' : dict.get s'.state.sessions (rt.digest text) = none := by
      rw [h.sessions]
      exact habsent
    exact .user ⟨habsent, habsent', hv, dict.get_set_self _ _ _, hseen, hlive, h.role, h.active, hrole ▸ hgranted,
      hconfirmed, False.elim⟩

/-- Who makes the call, as the document says it: the administrator or the user of the session. -/
def caller_id (rt : Runtime) (state : Document) : Option Value → Option String
  | some (.str text) =>
    match dict.get state.sessions (rt.digest text) with
    | some _ => state.principal.map Principal.id
    | none => (dict.get state.ldap_sessions (rt.digest text)).map (fun v => v.principal.id)
  | _ => none

/-- What a look at the session of a call tells, when it lets the call go on. -/
theorem session_ends (token permission : Option Value) :
    (session rt token permission).Ends s
      (fun caller s' => Quiet rt token s s' ∧ caller_id rt s.state token = some caller.id ∧
        ∃ text, token = some (.str text) ∧ Looked rt text permission False s s') (fun _ s' => Quiet rt token s s') := by
  unfold session
  split
  next text =>
    rw [ends_bind, ends_state]
    split
    next v hv =>
      refine (local_session_ends hv).imp (fun caller s' h => ?_) (fun _ _ h => h)
      obtain ⟨hquiet, hlooked, principal, hprincipal, hid⟩ := h
      refine ⟨hquiet, ?_, text, rfl, hlooked⟩
      rw [caller_id, hv, hprincipal, hid]
      rfl
    next habsent =>
      rw [ends_bind, ends_state, ends_ite]
      refine ⟨fun _ => ?_, fun _ => Quiet.refl s⟩
      unfold ldap_session
      rw [ends_bind, ends_now, ends_bind, ends_state, ends_bind, ends_state]
      split
      next v saved hv hldap =>
        rw [ends_bind, ends_check]
        refine ⟨fun hlive => ?_, fun _ => Quiet.refl s⟩
        simp only [Bool.and_eq_true, decide_eq_true_eq] at hlive
        refine refresh_ends hv (fun v' s' hrefreshed => ?_) (fun _ _ h => h)
        refine (stored_user_ends habsent hv hlive.1 hrefreshed).imp (fun caller s'' h => ?_) (fun _ _ h => h)
        refine ⟨h.1, ?_, text, rfl, h.2.1⟩
        rw [caller_id, habsent, hv, h.2.2]
        rfl
      · exact Quiet.refl s
  · exact Quiet.refl s

theorem Session.Continues.confirmation {now : Nat} {key : String} {token : Option Value} {v v' : Session}
    (h : Session.Continues rt token False now key v v') : v'.confirmation = v.confirmation := by
  unfold Session.confirmation
  rcases h.confirmed with hconfirmed | hconfirmed
  · rw [hconfirmed, h.issued]
  · exact hconfirmed.1.elim

/-- A second look goes by the session of the first one. -/
theorem Looked.trans {first : Option Value} {admin : Prop} {s' s'' : Service} (hnow : s'.now = s.now)
    (hdirectory : ∃ used, s.directory = used ++ s'.directory)
    (hdirectory' : ∃ used, s'.directory = used ++ s''.directory) (h : Looked rt text first False s s')
    (h' : Looked rt text permission admin s' s'') : Looked rt text permission admin s s'' := by
  cases h with
  | administrator h =>
    cases h' with
    | administrator h' =>
      cases h.after.symm.trans h'.before
      refine .administrator ⟨h.before, h'.after, h.continues.trans (hnow ▸ h'.continues), h.live, h'.granted, ?_⟩
      intro hadmin
      rw [← h.continues.confirmation, ← hnow]
      exact h'.fresh hadmin
    | user h' => exact nomatch h.after.symm.trans h'.absent
  | user h =>
    cases h' with
    | administrator h' => exact nomatch h.absent'.symm.trans h'.before
    | @user v' v'' h' =>
      cases h.after.symm.trans h'.before
      have hidentity := h.continues.identity
      refine .user ⟨h.absent, h'.absent', h.before, h'.after, .trans hdirectory hdirectory' h.continues
        (hnow ▸ h'.continues), h.live, ?_, ?_, ?_, ?_, ?_⟩
      · rw [← h.role, ← hidentity]
        exact h'.role
      · intro hactive
        rw [← hidentity] at hactive
        rcases h'.active hactive with hactive | hconfirmed
        · rw [hidentity] at hactive
          exact (h.active hactive).imp id (fun hconfirmed => hconfirmed.of_left hdirectory')
        · rw [hidentity] at hconfirmed
          exact .inr (hconfirmed.of_right hdirectory)
      · rw [← h.role, ← hidentity]
        exact h'.granted
      · -- the second look asked the directory, or trusted an answer that is still fresh
        rcases h'.confirmed with hconfirmed | ⟨hread, hchecked, hactive⟩
        · rw [hidentity] at hconfirmed
          exact .inl (hconfirmed.of_right hdirectory)
        · rw [hidentity] at hactive
          rcases h.active hactive with hactive | hconfirmed
          · rcases h.continues.checked with heq | ⟨-, hconfirmed⟩
            · rw [heq, hnow] at hchecked
              exact .inr ⟨hread, hchecked, hactive⟩
            · exact .inl (hconfirmed.of_left hdirectory')
          · exact .inl (hconfirmed.of_left hdirectory')
      · intro hadmin
        rw [← h.continues.session.confirmation, ← hnow]
        exact h'.fresh hadmin

/-- The session that was looked at was confirmed a short time ago. -/
theorem recent_ends {s' : Service} (hnow : s'.now = s.now) (h : Looked rt text permission False s s') :
    (recent rt (some (.str text))).Ends s' (fun _ s'' => s'' = s' ∧ Looked rt text permission True s s')
      (fun _ s'' => s'' = s') := by
  unfold recent
  rw [ends_bind, ends_now, ends_bind, ends_state]
  cases h with
  | @administrator v v' h =>
    have hconfirmation : confirmation rt s'.state text = some v'.confirmation := by
      rw [confirmation, h.after]
      rfl
    rw [hconfirmation, h.continues.confirmation, hnow]
    refine ends_check.mpr ⟨fun hrecent => ⟨rfl, ?_⟩, fun _ => rfl⟩
    rw [decide_eq_true_eq] at hrecent
    exact .administrator ⟨h.before, h.after, h.continues, h.live, h.granted, fun _ => hrecent⟩
  | @user v v' h =>
    have hconfirmation : confirmation rt s'.state text = some v'.session.confirmation := by
      rw [confirmation, h.absent', h.after]
      rfl
    rw [hconfirmation, h.continues.session.confirmation, hnow]
    refine ends_check.mpr ⟨fun hrecent => ⟨rfl, ?_⟩, fun _ => rfl⟩
    rw [decide_eq_true_eq] at hrecent
    exact .user ⟨h.absent, h.absent', h.before, h.after, h.continues, h.live, h.role, h.active, h.granted, h.confirmed,
      fun _ => hrecent⟩

theorem quiet_recent {token : Option Value} : Moves (Quiet rt token) (recent rt token) := by
  refine .bind moves_now (fun now => ?_)
  split
  · refine .bind moves_state (fun state => ?_)
    split
    · exact .refuse _
    · exact .check _ _
  · exact .fault

end

end netbox_sync.auth_policy
