import NetboxSync.Auth.Look

open json

namespace netbox_sync.auth_policy

open Auth Transaction source_teams

section

variable {rt : Runtime} {token : Option Value}

variable (payload : Fields) (actor : String)

/-- An update that leaves the policy and every session as they are. -/
theorem quiet_update_rest {f : Document → Document} (h : ∀ d, (f d).destinations = d.destinations ∧
    (f d).sessions = d.sessions ∧ (f d).ldap_sessions = d.ldap_sessions) : Moves (Quiet rt token) (update f) := by
  refine quiet_update (fun d => (h d).1) (fun d => ?_) (fun d => ?_)
  · rw [(h d).2.1]
    exact List.Subset.refl _
  · rw [(h d).2.2]
    exact List.Subset.refl _

theorem quiet_session (permission : Option Value) : Moves (Quiet rt token) (session rt token permission) :=
  fun _ => (session_ends token permission).imp (fun _ _ h => h.1) (fun _ _ h => h)

theorem quiet_migrate_directory : Moves (Quiet rt token) migrate_directory := by
  refine .bind moves_state (fun state => ?_)
  split
  · exact .pure ()
  · refine .ite ?_ (.pure ())
    split
    · exact .fault
    · refine .bind (quiet_update (fun _ => rfl) (fun _ => List.Subset.refl _) (fun _ => List.nil_subset _)) ?_
      exact fun _ => quiet_event _ _ _

theorem quiet_sync_directory (due : Bool) : Moves (Quiet rt token) (sync_directory rt due) := by
  refine .bind .get (fun service => .ite (.pure _) (.bind ?_ (fun _ => .bind quiet_ask (fun answer => ?_))))
  · exact quiet_update_rest (fun _ => ⟨rfl, rfl, rfl⟩)
  · split
    · refine .bind (quiet_update_rest (fun _ => ⟨rfl, rfl, rfl⟩)) (fun _ => ?_)
      exact .bind (quiet_event _ _ _) (fun _ => .refuse _)
    · refine .bind (quiet_update (fun _ => rfl) (fun _ => List.Subset.refl _) (fun d => ?_)) (fun _ => ?_)
      · exact fun _ h => List.mem_of_mem_filter h
      · exact .bind (quiet_event _ _ _) (fun _ => .pure _)

theorem quiet_change_role : Moves (Quiet rt token) (change_role payload actor) := by
  refine .bind moves_state (fun state => .bind (.check _ _) (fun _ => .bind (.check _ _) (fun _ => ?_)))
  split
  · refine .bind (quiet_update (fun _ => rfl) (fun _ => List.Subset.refl _) (fun d => ?_)) (fun _ => ?_)
    · exact fun _ h => List.mem_of_mem_filter h
    · exact .bind (quiet_event _ _ _) (fun _ => .pure _)
  · exact .refuse _

theorem quiet_list_users : Moves (Quiet rt token) (list_users rt payload) := by
  refine .bind moves_state (fun state => ?_)
  split
  · exact .bind (.check _ _) (fun _ => .pure _)
  · exact .refuse _

theorem quiet_bind_password (payload config : Fields) : Moves (Quiet rt token) (_bind_password payload config) := by
  refine .bind .get (fun service => ?_)
  split
  · refine .bind (.check _ _) (fun _ => .ite (.pure _) (.bind (.check _ _) (fun _ => ?_)))
    split
    · exact .pure _
    · exact .refuse _
  · exact .refuse _

theorem quiet_config_updated : Moves (Quiet rt token) (config_updated actor) :=
  .bind moves_state (fun _ => .bind (quiet_event _ _ _) (fun _ => .pure _))

theorem quiet_save_directory (payload config : Fields) (actor proof : String) :
    Moves (Quiet rt token) (_save_directory payload config actor proof) := by
  refine .bind .get (fun service => .bind (.check _ _) (fun _ => ?_))
  split
  · exact .refuse _
  · refine .bind (quiet_update (fun _ => rfl) (fun _ => List.Subset.refl _) (fun _ => List.nil_subset _)) ?_
    exact fun _ => quiet_config_updated actor

theorem quiet_change_settings (save : Bool) (payload : Fields) (actor : String) :
    Moves (Quiet rt token) (change_settings rt save payload actor) := by
  refine .bind .get (fun service => .bind (.check _ _) (fun _ => .bind (.check _ _) (fun _ => .bind (.lift _) ?_)))
  intro config
  split
  · refine .bind (quiet_update (fun _ => rfl) (fun _ => List.Subset.refl _) (fun _ => List.nil_subset _)) ?_
    exact fun _ => quiet_config_updated actor
  · refine .bind (quiet_bind_password _ _) (fun password => .ite (quiet_save_directory _ _ _ _) ?_)
    refine .bind quiet_ask (fun answer => ?_)
    split
    · refine .bind (quiet_update_rest (fun _ => ⟨rfl, rfl, rfl⟩)) (fun _ => ?_)
      exact .bind (quiet_event _ _ _) (fun _ => .pure _)
    · exact .refuse _
    · exact .fault

theorem quiet_policy : Moves (Quiet rt token) policy := by
  refine .bind .get (fun service => ?_)
  split
  · exact .pure _
  · exact .fault

theorem quiet_authorize (caller : Caller) : Moves (Quiet rt token) (authorize payload caller) :=
  .ite (.bind (quiet_event _ _ _) (fun _ => .pure _)) (.pure _)

theorem quiet_logout : Moves (Quiet rt token) (logout rt token actor) := by
  unfold logout
  split
  · refine .bind (quiet_update (fun _ => rfl) (fun _ => ?_) (fun _ => ?_)) (fun _ => ?_)
    · exact dict.pop_subset _ _
    · exact dict.pop_subset _ _
    · exact .bind (quiet_event _ _ _) (fun _ => .pure _)
  · exact .fault

theorem quiet_charge_directory : Moves (Quiet rt token) charge_directory := by
  refine .bind moves_now (fun now => .bind moves_state (fun state => .bind (.check _ _) (fun _ => ?_)))
  exact quiet_update_rest (fun _ => ⟨rfl, rfl, rfl⟩)

theorem quiet_uncharge_directory : Moves (Quiet rt token) uncharge_directory :=
  quiet_update_rest (fun _ => ⟨rfl, rfl, rfl⟩)

/-- The call was let go on for the permission, by what the directory had answered up to then. -/
def Allowed (rt : Runtime) (token permission : Option Value) (admin : Prop) (s s' : Service) : Prop :=
  ∃ text middle, token = some (.str text) ∧ Looked rt text permission admin s middle ∧
    (∃ used, s.directory = used ++ middle.directory) ∧ ∃ used, middle.directory = used ++ s'.directory

/-- A relation that quiet programs are in, and that keeps the sessions. -/
structure Frames (rt : Runtime) (token : Option Value) (R : Service → Service → Prop) : Prop where
  quiet : ∀ {s s'}, Quiet rt token s s' → R s s'
  kept : ∀ {s s'}, R s s' → Kept rt token False False s s'
  trans : ∀ {a b c}, R a b → R b c → R a c

theorem frames_quiet : Frames rt token (Quiet rt token) := ⟨id, fun h => h.2, IsTrans.trans _ _ _⟩

theorem frames_kept : Frames rt token (Kept rt token False False) := ⟨fun h => h.2, id, Kept.trans⟩

/-- What a call that asks for a permission comes to: it moves the state in its way, and is allowed when it is done. -/
def Guarded (rt : Runtime) (token : Option Value) (R : Service → Service → Prop) (permission : Option Value)
    (admin : Prop) (x : Auth Value) : Prop :=
  ∀ s, x.Ends s (fun _ s' => R s s' ∧ Allowed rt token permission admin s s') (fun _ s' => R s s')

variable {admin : Prop}

theorem Looked.weaken {text : String} {permission : Option Value} {admin' : Prop} {s s' : Service}
    (h : Looked rt text permission admin s s') (hadmin : admin' → admin) : Looked rt text permission admin' s s' := by
  cases h with
  | administrator h =>
    exact .administrator ⟨h.before, h.after, h.continues, h.live, h.granted, fun h' => h.fresh (hadmin h')⟩
  | user h =>
    exact .user ⟨h.absent, h.absent', h.before, h.after, h.continues, h.live, h.role, h.active, h.granted, h.confirmed,
      fun h' => h.fresh (hadmin h')⟩

section

variable {R : Service → Service → Prop} {permission : Option Value}

variable {x : Auth Value}

theorem Guarded.weaken {admin' : Prop} (h : Guarded rt token R permission admin x) (hadmin : admin' → admin) :
    Guarded rt token R permission admin' x := by
  intro s
  refine (h s).imp (fun _ s' hdone => ⟨hdone.1, ?_⟩) (fun _ _ hrefused => hrefused)
  obtain ⟨text, middle, htext, hlooked, hused⟩ := hdone.2
  exact ⟨text, middle, htext, hlooked.weaken hadmin, hused⟩

variable {f : Caller → Auth Value} (hR : Frames rt token R)
include hR

/-- A call that asks for the permission first. -/
theorem guarded_session (hf : ∀ caller, Moves R (f caller)) :
    Guarded rt token R permission False (session rt token permission >>= f) := by
  intro s
  rw [ends_bind]
  refine (session_ends token _).imp (fun caller s' h => ?_) (fun _ _ h => hR.quiet h)
  obtain ⟨hquiet, -, text, htext, hlooked⟩ := h
  refine (hf caller s').imp (fun _ s'' hmoved => ?_) (fun _ _ hmoved => hR.trans (hR.quiet hquiet) hmoved)
  exact ⟨hR.trans (hR.quiet hquiet) hmoved, text, s', htext, hlooked, hquiet.2.directory, (hR.kept hmoved).directory⟩

/-- A call that also asks for a confirmation. -/
theorem guarded_recent (hf : ∀ caller, Moves R (f caller)) :
    Guarded rt token R permission True
      (session rt token permission >>= fun caller => recent rt token >>= fun _ => f caller) := by
  intro s
  rw [ends_bind]
  refine (session_ends token _).imp (fun caller s' h => ?_) (fun _ _ h => hR.quiet h)
  obtain ⟨hquiet, -, text, rfl, hlooked⟩ := h
  rw [ends_bind]
  refine (recent_ends hquiet.2.now hlooked).imp (fun _ s'' h => ?_) (fun _ s'' h => h ▸ hR.quiet hquiet)
  obtain ⟨rfl, hlooked⟩ := h
  refine (hf caller s'').imp (fun _ _ hmoved => ?_) (fun _ _ hmoved => hR.trans (hR.quiet hquiet) hmoved)
  exact ⟨hR.trans (hR.quiet hquiet) hmoved, text, s'', rfl, hlooked, hquiet.2.directory, (hR.kept hmoved).directory⟩

/-- A call that looks at the session before. -/
theorem Guarded.after_session {first : Option Value} (hf : ∀ caller, Guarded rt token R permission admin (f caller)) :
    Guarded rt token R permission admin (session rt token first >>= f) := by
  intro s
  rw [ends_bind]
  refine (session_ends token _).imp (fun caller s' h => ?_) (fun _ _ h => hR.quiet h)
  obtain ⟨hquiet, -, text, rfl, hlooked⟩ := h
  refine (hf caller s').imp (fun _ s'' hdone => ?_) (fun _ _ hmoved => hR.trans (hR.quiet hquiet) hmoved)
  obtain ⟨hmoved, text', middle, htext, hlooked', ⟨more, hmore⟩, hleft⟩ := hdone
  cases htext
  obtain ⟨used, hused⟩ := hquiet.2.directory
  refine ⟨hR.trans (hR.quiet hquiet) hmoved, text, middle, rfl, ?_, ⟨used ++ more, ?_⟩, hleft⟩
  · exact hlooked.trans hquiet.2.now hquiet.2.directory ⟨more, hmore⟩ hlooked'
  · rw [hused, hmore, List.append_assoc]

end

/-- A program that leaves the policy alone keeps the sessions. -/
theorem kept_of_quiet {α : Type} {x : Auth α} (h : Moves (Quiet rt token) x) : Moves (Kept rt token False False) x :=
  h.imp (fun _ _ hquiet => hquiet.2)

/-- An update that leaves every session as it is. -/
theorem kept_update {f : Document → Document} (hsessions : ∀ d, (f d).sessions = d.sessions)
    (hldap : ∀ d, (f d).ldap_sessions = d.ldap_sessions) : Moves (Kept rt token False False) (update f) :=
  .modify (fun s => kept_of_subset rfl rfl ⟨[], rfl⟩ (hsessions s.state ▸ List.Subset.refl _)
    (hldap s.state ▸ List.Subset.refl _))

theorem kept_event (action : String) (actor : Option String) (details : Fields) :
    Moves (Kept rt token False False) (event action actor details) :=
  kept_of_quiet (quiet_event _ _ _)

theorem kept_change_policy (actor key : String) (request : ChangeRequest) :
    Moves (Kept rt token False False) (change_policy actor key request) := by
  refine .bind .get (fun service => .bind (.check _ _) (fun _ => .bind (.check _ _) (fun _ => ?_)))
  split
  · exact .fault
  · refine .bind (.check _ _) (fun _ => .bind (kept_update (fun _ => rfl) (fun _ => rfl)) (fun _ => ?_))
    exact .bind (kept_event _ _ _) (fun _ => .pure _)

theorem guarded_update_policy :
    Guarded rt token (Kept rt token False False) (some (.str "policy.write")) True
      (_update_policy rt payload token actor) := by
  refine guarded_recent frames_kept (fun _ => .bind moves_state (fun state => ?_))
  refine .bind (.check _ _) (fun _ => .bind (.lift _) (fun host => ?_))
  split
  · exact .refuse _
  · refine .bind (.lift _) (fun key => ?_)
    split
    · exact .refuse _
    · split
      · exact .bind (.check _ _) (fun _ => .pure _)
      · exact kept_change_policy _ _ _

theorem guarded_issue_receipt :
    Guarded rt token (Kept rt token False False) (some (.str "source.probe")) False
      (_issue_receipt rt payload token actor) := by
  refine guarded_session frames_kept (fun _ => .bind .get (fun service => .bind (.check _ _) (fun _ => ?_)))
  refine .bind (.check _ _) (fun _ => ?_)
  refine .bind (.lift _) (fun key => .bind (.lift _) (fun destination => .bind (.lift _) (fun provider => ?_)))
  exact .bind (kept_update (fun _ => rfl) (fun _ => rfl)) (fun _ => .pure _)

theorem kept_mark_consumed (key : String) (value : Receipt) :
    Moves (Kept rt token False False) (mark_consumed key value) :=
  .bind (kept_update (fun _ => rfl) (fun _ => rfl)) (fun _ => .pure _)

theorem guarded_use_receipt (action : ReceiptAction) (actor : String) :
    Guarded rt token (Kept rt token False False) (some (.str "source.register")) False
      (_use_receipt rt payload action token actor) := by
  refine guarded_session frames_kept (fun _ => .bind (.lift _) (fun key => .bind .get (fun service => ?_)))
  split
  · exact .pure _
  · exact .bind (.check _ _) (fun _ => kept_mark_consumed _ _)
  · exact .refuse _
  · exact .bind (.check _ _) (fun _ => .pure _)
  · refine .bind (.check _ _) (fun _ => .bind (.check _ _) (fun _ => .bind (.check _ _) (fun _ => ?_)))
    exact kept_mark_consumed _ _

theorem guarded_users_action (action : UsersAction) (payload : Fields) (actor : String) :
    Guarded rt (dict.get payload "session") (Quiet rt (dict.get payload "session")) (some (.str "identity.manage"))
      (action ≠ .list) (users_action rt action payload actor) := by
  unfold users_action
  cases action with
  | list => exact (guarded_session frames_quiet (fun _ => quiet_list_users _)).weaken (fun h => h rfl)
  | sync => exact (guarded_recent frames_quiet (fun _ => quiet_sync_directory _)).weaken (fun _ => trivial)
  | role => exact (guarded_recent frames_quiet (fun _ => quiet_change_role _ _)).weaken (fun _ => trivial)

theorem guarded_directory_action (action : DirectoryAction) (payload : Fields) (actor : String) :
    Guarded rt (dict.get payload "session") (Quiet rt (dict.get payload "session")) (some (.str "identity.manage"))
      (action ≠ .settings ∧ action ≠ .roles) (directory_action rt action payload actor) := by
  unfold directory_action
  cases action with
  | settings =>
    refine (guarded_session frames_quiet (fun _ => ?_)).weaken (fun h => h.1 rfl)
    exact .bind moves_state (fun _ => .pure _)
  | roles => exact (guarded_session frames_quiet (fun _ => .pure _)).weaken (fun h => h.2 rfl)
  | revoke =>
    refine (guarded_recent frames_quiet (fun _ => .bind ?_ (fun _ => ?_))).weaken (fun _ => trivial)
    · exact quiet_update (fun _ => rfl) (fun _ => List.Subset.refl _) (fun _ => List.nil_subset _)
    · exact .bind (quiet_event _ _ _) (fun _ => .pure _)
  | test => exact (guarded_recent frames_quiet (fun _ => quiet_change_settings _ _ _)).weaken (fun _ => trivial)
  | save => exact (guarded_recent frames_quiet (fun _ => quiet_change_settings _ _ _)).weaken (fun _ => trivial)

theorem guarded_teams_action (action : TeamsAction) (payload : Fields) (actor : String) :
    Guarded rt (dict.get payload "session") (Quiet rt (dict.get payload "session")) (some
      (.str action.permission)) False
      (teams_action rt action payload actor) := by
  refine guarded_session frames_quiet (fun _ => .bind .get (fun service => .bind (.check _ _) (fun _ => ?_)))
  split
  · exact .pure _
  · refine .bind (.lift _) (fun changed => ?_)
    refine .bind (quiet_update_rest (fun _ => ⟨rfl, rfl, rfl⟩)) (fun _ => ?_)
    exact .bind (quiet_event _ _ _) (fun _ => .pure _)

/-- The permission a call asks for. -/
def Action.permission (payload : Fields) : Action → Option Value
  | .users _ | .directory _ => some (.str "identity.manage")
  | .teams action => some (.str action.permission)
  | .authorize => asked (dict.get payload "permission")
  | .probe_policy | .probe_authorize | .receipt_issue => some (.str "source.probe")
  | .policy => some (.str "policy.read")
  | .policy_update => some (.str "policy.write")
  | .receipt _ => some (.str "source.register")
  | _ => none

/-- The calls that change the directory or the policy, or test its settings. -/
def Action.administrative : Action → Bool
  | .users action => action ≠ .list
  | .directory action => action ≠ .settings && action ≠ .roles
  | .policy_update => true
  | _ => false

/-- The calls that change the policy or its receipts. -/
def Action.of_policy : Action → Bool
  | .policy_update | .receipt_issue | .receipt _ => true
  | _ => false

theorem Guarded.moves {R : Service → Service → Prop} {permission : Option Value}
    (h : Guarded rt token R permission admin x) : Moves R x :=
  fun s => (h s).imp (fun _ _ hdone => hdone.1) (fun _ _ hrefused => hrefused)

/-- A call of a caller who was looked at that leaves the policy alone. -/
theorem Guarded.called {admin' : Prop} {first permission : Option Value} {f : Caller → Auth Value}
    (h : ∀ caller, Guarded rt token (Quiet rt token) permission admin (f caller)) (hadmin : admin' → admin) :
    Guarded rt token (Kept rt token False False) permission admin' (session rt token first >>= f) := by
  have hsession : Guarded rt token (Quiet rt token) permission admin (session rt token first >>= f) :=
    .after_session frames_quiet h
  refine Guarded.weaken (fun s => ?_) hadmin
  exact (hsession s).imp (fun _ _ hdone => ⟨hdone.1.2, hdone.2⟩) (fun _ _ hrefused => hrefused.2)

theorem guarded_probe_policy :
    Guarded rt token (Quiet rt token) (some (.str "source.probe")) False
      (permitted rt token "source.probe" >>= fun _ => state >>= fun state => pure (revision_reply state.revision)) :=
  guarded_session frames_quiet (fun _ => .bind moves_state (fun _ => .pure _))

theorem guarded_policy :
    Guarded rt token (Quiet rt token) (some (.str "policy.read")) False
      (permitted rt token "policy.read" >>= fun _ => policy >>= fun fields => pure (.obj fields)) :=
  guarded_session frames_quiet (fun _ => .bind quiet_policy (fun _ => .pure _))

theorem guarded_probe_authorize :
    Guarded rt token (Quiet rt token) (some (.str "source.probe")) False
      (permitted rt token "source.probe" >>= fun _ => state >>= fun state =>
        check (((dict.get payload "revision").getD .null).eq (.int state.revision)) .POLICY_CONFLICT >>= fun _ =>
          policy >>= fun fields => pure (.obj (("principal_id", .str actor) :: fields))) :=
  guarded_session frames_quiet (fun _ => .bind moves_state (fun _ => .bind (.check _ _) (fun _ =>
    .bind quiet_policy (fun _ => .pure _))))

/-- The calls of a caller other than a confirmation leave the policy alone, unless they are about it. -/
theorem quiet_authenticated_call {action : Action} {payload : Fields} {caller : Caller}
    (hpolicy : action.of_policy = false) (hconfirm : action ≠ .reauthenticate) :
    Moves (Quiet rt (dict.get payload "session"))
      (_authenticated_call rt action payload (dict.get payload "session") caller) := by
  cases action with
  | users action => exact (guarded_users_action action payload _).moves
  | directory action => exact (guarded_directory_action action payload _).moves
  | teams action => exact (guarded_teams_action action payload _).moves
  | reauthenticate => exact absurd rfl hconfirm
  | authorize => exact quiet_authorize _ _
  | logout => exact quiet_logout _
  | probe_policy => exact guarded_probe_policy.moves
  | policy => exact guarded_policy.moves
  | probe_authorize => exact (guarded_probe_authorize _ _).moves
  | policy_update | receipt_issue | receipt => exact nomatch hpolicy
  | login_status | enroll | login | other => exact .refuse _

/-- A call that asks for a permission is done only with it. -/
theorem guarded_call {action : Action} {payload : Fields} {permission : Value}
    (h : action.permission payload = some permission) :
    Guarded rt (dict.get payload "session") (Kept rt (dict.get payload "session") False False) (some permission)
      (action.administrative = true) (call rt action payload) := by
  cases action with
  | users action =>
    cases h
    exact .called (fun _ => guarded_users_action _ _ _) of_decide_eq_true
  | directory action =>
    cases h
    refine .called (fun _ => guarded_directory_action _ _ _) (fun h => ?_)
    simpa [Action.administrative] using h
  | teams action =>
    cases h
    exact .called (fun _ => guarded_teams_action _ _ _) (fun h => nomatch h)
  | authorize =>
    have hfirst : first_permission .authorize payload = some permission := h
    rw [← hfirst]
    exact (guarded_session frames_kept (fun _ => kept_of_quiet (quiet_authorize _ _))).weaken (fun h => nomatch h)
  | probe_policy =>
    cases h
    exact .called (fun _ => guarded_probe_policy) (fun h => nomatch h)
  | policy =>
    cases h
    exact .called (fun _ => guarded_policy) (fun h => nomatch h)
  | policy_update =>
    cases h
    exact (Guarded.after_session frames_kept (fun _ => guarded_update_policy _ _)).weaken (fun _ => trivial)
  | probe_authorize =>
    cases h
    exact .called (fun _ => guarded_probe_authorize _ _) (fun h => nomatch h)
  | receipt_issue =>
    cases h
    exact (Guarded.after_session frames_kept (fun _ => guarded_issue_receipt _ _)).weaken (fun h => nomatch h)
  | receipt action =>
    cases h
    exact (Guarded.after_session frames_kept (fun _ => guarded_use_receipt _ _ _)).weaken (fun h => nomatch h)
  | reauthenticate | logout | login_status | enroll | login | other => exact nomatch h

end

end netbox_sync.auth_policy
