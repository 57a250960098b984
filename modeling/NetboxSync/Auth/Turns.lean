import NetboxSync.Auth.Revocation

open json

namespace netbox_sync.auth_policy

open Auth Transaction

/-- The canonical request of a payload, with its id. -/
def change_of (payload : Fields) : Option (String × ChangeRequest) := do
  let host ← policy_host (← (bounded (dict.get payload "host") 253).toOption)
  let key ← (bounded (dict.get payload "request_id") 64).toOption
  let operation ← operation_of (dict.get payload "operation")
  return (key, ⟨host, (dict.get payload "expected_revision").getD .null, operation⟩)

/-- The policy after a change. -/
def Destinations.edited (d : Destinations) (actor key : String) (change : ChangeRequest) : Destinations :=
  { d with
    allowed_hosts := changed_hosts d.allowed_hosts change.operation change.host
    revision := d.revision + 1
    receipts := []
    changes := dict.set (evict 4096 Change.revision d.changes) key ⟨actor, change, d.revision + 1⟩ }

/-- The policy after a receipt was issued. -/
def Destinations.issued (d : Destinations) (now : Nat) (key : String) (receipt : Receipt) : Destinations :=
  { d with receipts := dict.set (d.receipts.filter (fun entry => now < entry.2.expires)) key receipt }

/-- The policy after a receipt was consumed. -/
def Destinations.consumed (d : Destinations) (key : String) (receipt : Receipt) : Destinations :=
  { d with receipts := dict.set d.receipts key { receipt with consumed := true } }

/-- What a request for a change comes to: the same request again gets the reply of the first one. -/
def Changes (payload : Fields) (d : Destinations) (_now : Nat) (actor : String) (reply : Value) (d' : Destinations) :
    Prop :=
  ∃ key change, change_of payload = some (key, change) ∧
    ((∃ previous, dict.get d.changes key = some previous ∧ previous.actor = actor ∧
        previous.request.same change = true ∧ reply = revision_reply previous.revision ∧ d' = d) ∨
      dict.get d.changes key = none ∧ change.expected_revision = .int d.revision ∧
        reply = revision_reply (d.revision + 1) ∧ d' = d.edited actor key change)

/-- A receipt is for the caller and the revision, and for what the payload names. -/
def Issues (rt : Runtime) (payload : Fields) (d : Destinations) (now : Nat) (actor : String) (_reply : Value)
    (d' : Destinations) : Prop :=
  ∃ text receipt, dict.get payload "receipt" = some (.str text) ∧ receipt.actor = actor ∧
    receipt.revision = d.revision ∧ dict.get payload "destination" = some (.str receipt.destination) ∧
    dict.get payload "provider" = some (.str receipt.provider) ∧ receipt.expires = now + 600 ∧
    receipt.consumed = false ∧ d' = d.issued now (rt.digest text) receipt

/-- What a look at a receipt or the use of one comes to. -/
def Uses (rt : Runtime) (payload : Fields) (action : ReceiptAction) (d : Destinations) (now : Nat) (actor : String)
    (_reply : Value) (d' : Destinations) : Prop :=
  action ≠ .consume ∧ d' = d ∨
    ∃ text receipt, dict.get payload "receipt" = some (.str text) ∧
      dict.get d.receipts (rt.digest text) = some receipt ∧ receipt.actor = actor ∧
      (action = .consume → now < receipt.expires ∧ receipt.consumed = false ∧
        dict.get payload "destination" = some (.str receipt.destination) ∧
        dict.get payload "provider" = some (.str receipt.provider)) ∧
      action ≠ .check ∧ d' = d.consumed (rt.digest text) receipt

section

variable {rt : Runtime} {token : Option Value}

variable {s : Service}

variable (payload : Fields) (actor : String)

/-- A change of the policy names the current revision. -/
theorem change_policy_ends (actor key : String) (change : ChangeRequest) :
    (change_policy actor key change).Ends s
      (fun reply s' => change.expected_revision = .int s.state.revision ∧
        reply = revision_reply (s.state.revision + 1) ∧
        s'.state.destinations = s.state.destinations.edited actor key change) (fun _ s' => s' = s) := by
  unfold change_policy
  rw [ends_bind, ends_get, ends_bind, ends_check]
  refine ⟨fun hexpected => ?_, fun _ => rfl⟩
  rw [ends_bind, ends_check]
  refine ⟨fun _ => ?_, fun _ => rfl⟩
  split
  · trivial
  · rw [ends_bind, ends_check]
    exact ⟨fun _ => ⟨of_decide_eq_true hexpected, rfl, rfl⟩, fun _ => rfl⟩

theorem update_policy_ends :
    (_update_policy rt payload token actor).Ends s
      (fun reply s' => Changes payload s.state.destinations s.now actor reply s'.state.destinations)
      (fun _ s' => Framed s s') := by
  unfold _update_policy
  rw [ends_bind]
  refine (quiet_session _ s).imp (fun _ s₁ h₁ => ?_) (fun _ _ h => h.1)
  rw [ends_bind]
  refine (quiet_recent s₁).imp (fun _ s₂ h₂ => ?_) (fun _ _ h => IsTrans.trans _ _ _ h₁.1 h.1)
  have hframed : Framed s s₂ := IsTrans.trans _ _ _ h₁.1 h₂.1
  have hchanges : s₂.state.changes = s.state.destinations.changes := congrArg Destinations.changes hframed.1
  have hrevision : s₂.state.revision = s.state.revision := congrArg Destinations.revision hframed.1
  rw [ends_bind, ends_state, ends_bind, ends_check]
  refine ⟨fun _ => ?_, fun _ => hframed⟩
  rw [ends_bind, ends_lift]
  refine ⟨fun raw hraw => ?_, fun _ _ => hframed⟩
  split
  · exact hframed
  next host hhost =>
    rw [ends_bind, ends_lift]
    refine ⟨fun key hkey => ?_, fun _ _ => hframed⟩
    split
    · exact hframed
    next operation hoperation =>
      have hchange : change_of payload = some (key, ⟨host, (dict.get payload "expected_revision").getD .null,
        operation⟩) := by
        unfold change_of
        rw [hraw, hkey, hoperation]
        simp [Except.toOption, hhost]
      split
      next previous hprevious =>
        rw [ends_bind, ends_check]
        refine ⟨fun hsame => ⟨key, _, hchange, .inl ⟨previous, hchanges ▸ hprevious, ?_⟩⟩, fun _ => hframed⟩
        rw [Bool.and_eq_true, decide_eq_true_eq] at hsame
        exact ⟨hsame.1, hsame.2, rfl, hframed.1⟩
      next hnone =>
        refine (change_policy_ends actor key _).imp (fun reply s₃ h₃ => ⟨key, _, hchange, .inr ?_⟩) (fun _ s₃ h₃ => ?_)
        · rw [hrevision, hframed.1] at h₃
          exact ⟨hchanges ▸ hnone, h₃⟩
        · exact h₃ ▸ hframed

theorem bounded_eq_ok {value : Option Value} {maximum : Nat} {text : String} (h : bounded value maximum = .ok text) :
    value = some (.str text) := by
  unfold bounded at h
  split at h
  · split at h
    · cases h
    · cases h
      rfl
  · cases h

theorem issue_receipt_ends :
    (_issue_receipt rt payload token actor).Ends s
      (fun reply s' => Issues rt payload s.state.destinations s.now actor reply s'.state.destinations)
      (fun _ s' => Framed s s') := by
  unfold _issue_receipt
  rw [ends_bind]
  refine (quiet_session _ s).imp (fun _ s₁ h₁ => ?_) (fun _ _ h => h.1)
  have hframed := h₁.1
  have hreceipts : s₁.state.receipts = s.state.receipts := congrArg Destinations.receipts hframed.1
  have hrevision : s₁.state.revision = s.state.revision := congrArg Destinations.revision hframed.1
  simp only [ends_bind, ends_get, ends_check, ends_lift]
  refine ⟨fun _ => ⟨fun _ => ⟨fun text htext => ⟨fun destination hdestination => ⟨fun provider hprovider => ?_,
    fun _ _ => hframed⟩, fun _ _ => hframed⟩, fun _ _ => hframed⟩, fun _ => hframed⟩, fun _ => hframed⟩
  refine ⟨text, ⟨actor, s₁.state.revision, destination, provider, s₁.now + 600, false⟩, bounded_eq_ok htext, rfl,
    hrevision, bounded_eq_ok hdestination, bounded_eq_ok hprovider, ?_, rfl, ?_⟩
  · rw [hframed.2.1]
  · rw [← hframed.1, ← hframed.2.1]
    rfl

theorem use_receipt_ends (action : ReceiptAction) (actor : String) :
    (_use_receipt rt payload action token actor).Ends s
      (fun reply s' => Uses rt payload action s.state.destinations s.now actor reply s'.state.destinations)
      (fun _ s' => Framed s s') := by
  unfold _use_receipt
  rw [ends_bind]
  refine (quiet_session _ s).imp (fun _ s₁ h₁ => ?_) (fun _ _ h => h.1)
  have hframed := h₁.1
  have hreceipts : s₁.state.receipts = s.state.receipts := congrArg Destinations.receipts hframed.1
  have hmarked : ∀ text receipt, (mark_consumed (rt.digest text) receipt).Ends s₁
      (fun _ s' => s'.state.destinations = s.state.destinations.consumed (rt.digest text) receipt)
      (fun _ s' => Framed s s') := by
    intro text receipt
    show _ = _
    rw [← hframed.1]
    rfl
  simp only [ends_bind, ends_get, ends_lift]
  refine ⟨fun text htext => ?_, fun _ _ => hframed⟩
  have htext := bounded_eq_ok htext
  rw [hreceipts]
  split
  · exact .inl ⟨by rintro ⟨⟩, hframed.1⟩
  next receipt hreceipt =>
    rw [ends_bind, ends_check]
    refine ⟨fun hactor => (hmarked text receipt).imp (fun _ _ h => ?_) (fun _ _ h => h), fun _ => hframed⟩
    exact .inr ⟨text, receipt, htext, hreceipt, of_decide_eq_true hactor, by rintro ⟨⟩, by rintro ⟨⟩, h⟩
  · exact hframed
  next receipt hreceipt =>
    rw [ends_bind, ends_check]
    exact ⟨fun _ => .inl ⟨by rintro ⟨⟩, hframed.1⟩, fun _ => hframed⟩
  next receipt hreceipt =>
    simp only [ends_bind, ends_check]
    refine ⟨fun hcurrent => ⟨fun hpayload => ⟨fun hconsumed => ?_, fun _ => hframed⟩, fun _ => hframed⟩,
      fun _ => hframed⟩
    unfold Receipt.current at hcurrent
    simp only [Bool.and_eq_true, decide_eq_true_eq, Bool.not_eq_true'] at hcurrent hpayload hconsumed
    refine (hmarked text receipt).imp (fun _ _ h => ?_) (fun _ _ h => h)
    refine .inr ⟨text, receipt, htext, hreceipt, hcurrent.1.1, fun _ => ⟨?_, hconsumed, hpayload⟩, by rintro ⟨⟩, h⟩
    rw [← hframed.2.1]
    exact hcurrent.1.2

theorem managed_ends : (root rt .managed payload).Ends s
    (fun _ s' => ∃ ceiling, s'.state.destinations = { s.state.destinations with
      mode := .managed, ceiling := some ceiling, revision := s.state.revision + 1, receipts := [] })
    (fun _ s' => Framed s s') := by
  unfold root
  rw [ends_bind, ends_state]
  dsimp only
  split
  · exact ⟨rfl, rfl, rfl⟩
  next ceiling _ => exact ⟨ceiling, rfl⟩

theorem cleared_ends {action : RootAction} (haction : action = .recover ∨ action = .revoke)
    (payload : Fields) : (root rt action payload).Ends s
    (fun _ s' => s'.state.destinations = { s.state.destinations with receipts := [] }) (fun _ s' => Framed s s') := by
  unfold root
  rw [ends_bind, ends_state]
  rcases haction with rfl | rfl
  · dsimp only
    split
    · exact ⟨rfl, rfl, rfl⟩
    · exact rfl
  · exact rfl

end

end netbox_sync.auth_policy

namespace netbox_sync.auth_store

open auth_policy Transaction

namespace Entry

variable (rt : Runtime) (e : Entry)

/-- Who makes the call. -/
def actor : Option String := caller_id rt e.before e.request.session

/-- The change of the policy that was made, with its id. A request whose id is known is a replay. -/
def edit : Option (String × ChangeRequest) :=
  match e.request.root, e.request.action, e.reply with
  | false, .policy_update, .ok _ =>
    (change_of e.request.payload).filter (fun change => (dict.get e.before.changes change.1).isNone)
  | _, _, _ => none

/-- The policy was changed, by the root or by a caller. -/
def effective : Prop := e.commands .managed ∨ e.edit.isSome = true

/-- The calls that no receipt outlasts. -/
def fences : Prop := e.effective ∨ e.commands .recover ∨ e.commands .revoke

/-- The call names the receipt. -/
def names (text : String) : Prop := dict.get e.request.payload "receipt" = some (.str text)

/-- A receipt was issued under the text. -/
def issues (text : String) : Prop := e.does .receipt_issue ∧ e.names text

/-- The receipt of the text was consumed. -/
def consumes (text : String) : Prop := e.does (.receipt .consume) ∧ e.names text

end Entry

/-- What a call does to the policy and its receipts. -/
inductive Turn (rt : Runtime) (e : Entry) : Prop where
  | idle (hfences : ¬ e.fences) (hconsumes : ∀ text, ¬ e.consumes text)
    (hafter : e.after.destinations = e.before.destinations)
  | managed (ceiling : Ceiling) (h : e.commands .managed)
    (hafter : e.after.destinations = { e.before.destinations with
      mode := .managed, ceiling := some ceiling, revision := e.before.revision + 1, receipts := [] })
  | cleared (h : e.commands .recover ∨ e.commands .revoke)
    (hafter : e.after.destinations = { e.before.destinations with receipts := [] })
  | edited (actor key : String) (change : ChangeRequest) (hactor : e.actor rt = some actor)
    (hedit : e.edit = some (key, change)) (hexpected : change.expected_revision = .int e.before.revision)
    (hreply : e.reply = .ok (revision_reply (e.before.revision + 1)))
    (hafter : e.after.destinations = e.before.destinations.edited actor key change)
  | issued (text : String) (receipt : Receipt) (h : e.issues text) (hactor : e.actor rt = some receipt.actor)
    (hrevision : receipt.revision = e.before.revision)
    (hdestination : dict.get e.request.payload "destination" = some (.str receipt.destination))
    (hprovider : dict.get e.request.payload "provider" = some (.str receipt.provider))
    (hexpires : receipt.expires = e.request.now + 600) (hconsumed : receipt.consumed = false)
    (hafter : e.after.destinations = e.before.destinations.issued e.request.now (rt.digest text) receipt)
  | consumed (text : String) (receipt : Receipt) (h : e.consumes text) (hactor : e.actor rt = some receipt.actor)
    (hreceipt : dict.get e.before.receipts (rt.digest text) = some receipt) (hexpires : e.request.now < receipt.expires)
    (hconsumed : receipt.consumed = false)
    (hdestination : dict.get e.request.payload "destination" = some (.str receipt.destination))
    (hprovider : dict.get e.request.payload "provider" = some (.str receipt.provider))
    (hafter : e.after.destinations = e.before.destinations.consumed (rt.digest text) receipt)
  | cancelled (text : String) (receipt : Receipt) (h : e.does (.receipt .cancel))
    (hreceipt : dict.get e.before.receipts (rt.digest text) = some receipt)
    (hafter : e.after.destinations = e.before.destinations.consumed (rt.digest text) receipt)

section

variable {rt : Runtime} {e : Entry} {request : Request}

theorem edit_eq_some {key : String} {change : ChangeRequest} (h : e.edit = some (key, change)) :
    e.does .policy_update ∧ change_of e.request.payload = some (key, change) ∧
      dict.get e.before.changes key = none := by
  unfold Entry.edit at h
  split at h
  next value hroot haction hreply =>
    rw [Option.filter_eq_some_iff, Option.isNone_iff_eq_none] at h
    exact ⟨⟨hroot, haction, value, hreply⟩, h⟩
  · cases h

theorem edit_of_does {key : String} {change : ChangeRequest} (h : e.does .policy_update)
    (hchange : change_of e.request.payload = some (key, change)) :
    e.edit = if dict.get e.before.changes key = none then some (key, change) else none := by
  obtain ⟨hroot, haction, value, hreply⟩ := h
  unfold Entry.edit
  rw [hroot, haction, hreply, hchange]
  by_cases hget : dict.get e.before.changes key = none
  · simp [hget]
  · simp [hget, Option.isNone_iff_eq_none]

/-- A call is a fence when it is done, and a command of the root or a change. -/
theorem fences_cases (h : e.fences) :
    (e.commands .managed ∨ e.commands .recover ∨ e.commands .revoke) ∨ e.does .policy_update := by
  rcases h with (h | h) | h
  · exact .inl (.inl h)
  · obtain ⟨change, hchange⟩ := Option.isSome_iff_exists.mp h
    exact .inr (edit_eq_some hchange).1
  · exact .inl (.inr h)

variable {action : Action}

theorem not_commands_of_does {command : RootAction} (h : e.does action) : ¬ e.commands command := by
  intro hcommands
  have hroot := h.1
  rw [hcommands.1] at hroot
  cases hroot

/-- A call for one thing is not a call for another. -/
theorem does_unique {other : Action} (h : e.does action) (hother : e.does other) : action = other :=
  h.2.1.symm.trans hother.2.1

theorem not_fences_of_does (h : e.does action) (haction : action ≠ .policy_update) : ¬ e.fences := by
  intro hfences
  rcases fences_cases hfences with (hfences | hfences | hfences) | hfences
  · exact not_commands_of_does h hfences
  · exact not_commands_of_does h hfences
  · exact not_commands_of_does h hfences
  · exact haction (does_unique h hfences)

/-- What an action makes of the policy, the call makes of it, for the caller of the session. -/
theorem transact_ends {Q : Destinations → Nat → String → Value → Destinations → Prop} (hroot : request.root = false)
    (hlogin : request.action ≠ .login_status ∧ request.action ≠ .enroll ∧ request.action ≠ .login)
    (h : ∀ caller s, (_authenticated_call rt request.action request.payload request.session caller).Ends s
      (fun value s' => Q s.state.destinations s.now caller.id value s'.state.destinations) (fun _ s' => Framed s s')) :
    (transact rt request).Ends s
      (fun value s' => ∃ actor, caller_id rt s.state request.session = some actor ∧
        Q s.state.destinations s.now actor value s'.state.destinations) (fun _ s' => Framed s s') := by
  unfold transact
  rw [hroot, ends_bind]
  refine migrate_directory_ends.imp (fun _ s₁ h₁ => ?_) (fun _ _ h => h.elim)
  rw [if_neg Bool.false_ne_true]
  unfold call
  split
  next haction => exact absurd haction hlogin.1
  next haction => exact absurd haction hlogin.2.1
  next haction => exact absurd haction hlogin.2.2
  rw [ends_bind]
  refine (session_ends _ _).imp (fun caller s₂ h₂ => ?_) (fun _ _ h => IsTrans.trans _ _ _ h₁.2 h.1)
  have hframed : Framed s s₂ := IsTrans.trans _ _ _ h₁.2 h₂.1.1
  refine (h caller s₂).imp (fun value s₃ h₃ => ⟨caller.id, ?_, ?_⟩) (fun _ _ h => IsTrans.trans _ _ _ hframed h)
  · rcases h₁.1 with rfl | hmigrated
    · exact h₂.2.1
    · exact caller_id_of_migrated hmigrated h₂.2.1
  · rw [hframed.1, hframed.2.1] at h₃
    exact h₃

/-- What a command of the root makes of the policy. -/
theorem root_ends {Q : Destinations → Value → Destinations → Prop} (hroot : request.root = true)
    (h : ∀ s, (root rt request.root_action request.payload).Ends s
      (fun value s' => Q s.state.destinations value s'.state.destinations) (fun _ s' => Framed s s')) :
    (transact rt request).Ends s (fun value s' => Q s.state.destinations value s'.state.destinations)
      (fun _ s' => Framed s s') := by
  unfold transact
  rw [hroot, ends_bind]
  refine migrate_directory_ends.imp (fun _ s₁ h₁ => ?_) (fun _ _ h => h.elim)
  refine (h s₁).imp (fun value s₂ h₂ => ?_) (fun _ _ h => IsTrans.trans _ _ _ h₁.2 h)
  rw [h₁.2.1] at h₂
  exact h₂

/-- A call that is refused leaves the policy alone. -/
theorem refused_ends : (transact rt request).Ends s (fun _ _ => True) (fun _ s' => Framed s s') := by
  cases hpolicy : request.of_policy with
  | false => exact (framed_transact hpolicy s).imp (fun _ _ _ => trivial) (fun _ _ h => h)
  | true =>
    unfold Request.of_policy at hpolicy
    cases hroot : request.root with
    | true =>
      rw [hroot, if_pos rfl] at hpolicy
      refine root_ends (Q := fun _ _ _ => True) hroot (fun s => ?_)
      cases haction : request.root_action with
      | managed => exact (managed_ends _).imp (fun _ _ _ => trivial) (fun _ _ h => h)
      | recover => exact (cleared_ends (.inl rfl) _).imp (fun _ _ _ => trivial) (fun _ _ h => h)
      | revoke => exact (cleared_ends (.inr rfl) _).imp (fun _ _ _ => trivial) (fun _ _ h => h)
      | _ => exact nomatch haction ▸ hpolicy
    | false =>
      rw [hroot, if_neg Bool.false_ne_true] at hpolicy
      refine (transact_ends (Q := fun _ _ _ _ _ => True) hroot ?_ (fun caller s => ?_)).imp
        (fun _ _ _ => trivial) (fun _ _ h => h)
      · refine ⟨?_, ?_, ?_⟩ <;> rintro haction <;> exact nomatch haction ▸ hpolicy
      · cases haction : request.action with
        | policy_update => exact (update_policy_ends _ _).imp (fun _ _ _ => trivial) (fun _ _ h => h)
        | receipt_issue => exact (issue_receipt_ends _ _).imp (fun _ _ _ => trivial) (fun _ _ h => h)
        | receipt action => exact (use_receipt_ends _ _ _).imp (fun _ _ _ => trivial) (fun _ _ h => h)
        | _ => exact nomatch haction ▸ hpolicy

theorem destinations_of_error (he : e.Made rt) {code : Code} (h : e.reply = .error code) :
    e.after.destinations = e.before.destinations := by
  unfold Entry.Made AuthStore.call at he
  split at he
  · split at he
    · exact nomatch (congrArg Entry.reply he).trans h
    next service hservice =>
      rw [← congrArg Entry.after he]
      exact (refused_ends.refused hservice).1
    · exact (congrArg (·.after.destinations) he).symm
  · exact (congrArg (·.after.destinations) he).symm

theorem idle_of_error {code : Code} (h : e.reply = .error code)
    (hafter : e.after.destinations = e.before.destinations) : Turn rt e := by
  have hdone : ¬ e.done := by
    rintro ⟨value, hvalue⟩
    rw [h] at hvalue
    cases hvalue
  refine .idle (fun hfences => ?_) (fun _ hconsumes => hdone hconsumes.1.2.2) hafter
  rcases fences_cases hfences with (hfences | hfences | hfences) | hfences
  · exact hdone hfences.2.2
  · exact hdone hfences.2.2
  · exact hdone hfences.2.2
  · exact hdone hfences.2.2

/-- A call that is not about the policy is idle. -/
theorem idle_of_policy (h : e.request.of_policy = false) (hafter : e.after.destinations = e.before.destinations) :
    Turn rt e := by
  have hcommands : ∀ {command : RootAction}, command.resets = true → ¬ e.commands command := by
    rintro command hresets ⟨hroot, haction, -⟩
    rw [Request.of_policy, if_pos hroot, haction, hresets] at h
    cases h
  have hdoes : ∀ {action : Action}, action.of_policy = true → ¬ e.does action := by
    rintro action hpolicy ⟨hroot, haction, -⟩
    rw [Request.of_policy, hroot, if_neg Bool.false_ne_true, haction, hpolicy] at h
    cases h
  refine .idle (fun hfences => ?_) (fun _ hconsumes => hdoes rfl hconsumes.1) hafter
  rcases fences_cases hfences with (hfences | hfences | hfences) | hfences
  · exact hcommands rfl hfences
  · exact hcommands rfl hfences
  · exact hcommands rfl hfences
  · exact hdoes rfl hfences

variable {value : Value} {service : Service}

/-- The turn of a command that resets a part of the policy. -/
theorem root_turn (hroot : e.request.root = true) (hresets : e.request.root_action.resets = true)
    (hreply : e.reply = .ok value) (hservice : transact rt e.request (e.request.service e.before) = .done value service)
    (hafter : e.after = service.state) : Turn rt e := by
  have hcleared : ∀ command, e.request.root_action = command → command = .recover ∨ command = .revoke →
      e.after.destinations = { e.before.destinations with receipts := [] } := by
    intro command haction hcommand
    rw [hafter]
    refine (root_ends (Q := fun d _ d' => d' = { d with receipts := [] }) hroot (fun s => ?_)).done hservice
    rw [haction]
    exact cleared_ends hcommand _
  cases haction : e.request.root_action with
  | managed =>
    obtain ⟨ceiling, hceiling⟩ := (root_ends (Q := fun d _ d' => ∃ ceiling, d' = { d with
      mode := .managed, ceiling := some ceiling, revision := d.revision + 1, receipts := [] }) hroot
      (fun s => by rw [haction]; exact managed_ends _)).done hservice
    exact .managed ceiling ⟨hroot, haction, value, hreply⟩ (hafter ▸ hceiling)
  | recover => exact .cleared (.inl ⟨hroot, haction, value, hreply⟩) (hcleared _ haction (.inl rfl))
  | revoke => exact .cleared (.inr ⟨hroot, haction, value, hreply⟩) (hcleared _ haction (.inr rfl))
  | _ => exact nomatch haction ▸ hresets

/-- The turn of a request for a change: the change, or nothing when it is a replay. -/
theorem update_turn (h : e.does .policy_update) (hreply : e.reply = .ok value)
    (hservice : transact rt e.request (e.request.service e.before) = .done value service)
    (hafter : e.after = service.state) : Turn rt e := by
  have hconsumes : ∀ text, ¬ e.consumes text := fun _ hconsumes => nomatch does_unique h hconsumes.1
  obtain ⟨actor, hactor, key, change, hchange, hturn⟩ := (transact_ends
    (Q := Changes e.request.payload) h.1 (by rw [h.2.1]; decide)
    (fun caller s => by rw [h.2.1]; exact update_policy_ends _ _)).done hservice
  have hedit := edit_of_does h hchange
  rcases hturn with ⟨previous, hprevious, -, -, -, hsame⟩ | ⟨hnone, hexpected, hvalue, hedited⟩
  · have hprevious : dict.get e.before.changes key = some previous := hprevious
    rw [hprevious, if_neg (Option.some_ne_none previous)] at hedit
    refine .idle ?_ hconsumes (hafter ▸ hsame)
    rintro ((hfences | hfences) | hfences | hfences)
    · exact not_commands_of_does h hfences
    · rw [hedit] at hfences
      cases hfences
    · exact not_commands_of_does h hfences
    · exact not_commands_of_does h hfences
  · have hnone : dict.get e.before.changes key = none := hnone
    rw [if_pos hnone] at hedit
    exact .edited actor key change hactor hedit hexpected (hvalue ▸ hreply) (hafter ▸ hedited)

theorem issue_turn (h : e.does .receipt_issue)
    (hservice : transact rt e.request (e.request.service e.before) = .done value service)
    (hafter : e.after = service.state) : Turn rt e := by
  obtain ⟨actor, hactor, text, receipt, htext, rfl, hrevision, hdestination, hprovider, hexpires, hconsumed, hissued⟩ :=
    (transact_ends (Q := Issues rt e.request.payload) h.1 (by rw [h.2.1]; decide)
      (fun caller s => by rw [h.2.1]; exact issue_receipt_ends _ _)).done hservice
  exact .issued text receipt ⟨h, htext⟩ hactor hrevision hdestination hprovider hexpires hconsumed (hafter ▸ hissued)

theorem use_turn {action : ReceiptAction} (h : e.does (.receipt action))
    (hservice : transact rt e.request (e.request.service e.before) = .done value service)
    (hafter : e.after = service.state) : Turn rt e := by
  have hfences : ¬ e.fences := not_fences_of_does h nofun
  have hidle : action ≠ .consume → ∀ text, ¬ e.consumes text := by
    intro haction text hconsumes
    cases does_unique h hconsumes.1
    exact haction rfl
  obtain ⟨actor, hactor, hturn⟩ := (transact_ends
    (Q := Uses rt e.request.payload action) h.1 (by rw [h.2.1]; exact ⟨nofun, nofun, nofun⟩)
    (fun caller s => by rw [h.2.1]; exact use_receipt_ends _ _ _)).done hservice
  rcases hturn with ⟨haction, hsame⟩ | ⟨text, receipt, htext, hreceipt, rfl, hconsume, hcheck, hconsumed⟩
  · exact .idle hfences (hidle haction) (hafter ▸ hsame)
  · cases action with
    | consume =>
      obtain ⟨hexpires, hunused, hdestination, hprovider⟩ := hconsume rfl
      exact .consumed text receipt ⟨h, htext⟩ hactor hreceipt hexpires hunused hdestination hprovider
        (hafter ▸ hconsumed)
    | cancel => exact .cancelled text receipt h hreceipt (hafter ▸ hconsumed)
    | check => exact absurd rfl hcheck

theorem turn_of_made (he : e.Made rt) : Turn rt e := by
  cases hreply : e.reply with
  | error code => exact idle_of_error hreply (destinations_of_error he hreply)
  | ok value =>
    obtain ⟨service, hservice, hafter, -⟩ := transact_of_done he hreply
    cases hpolicy : e.request.of_policy with
    | false =>
      refine idle_of_policy hpolicy ?_
      rw [hafter]
      exact ((framed_transact hpolicy _).done hservice).1
    | true =>
      unfold Request.of_policy at hpolicy
      cases hroot : e.request.root with
      | true =>
        rw [hroot, if_pos rfl] at hpolicy
        exact root_turn hroot hpolicy hreply hservice hafter
      | false =>
        rw [hroot, if_neg Bool.false_ne_true] at hpolicy
        cases haction : e.request.action with
        | policy_update => exact update_turn ⟨hroot, haction, value, hreply⟩ hreply hservice hafter
        | receipt_issue => exact issue_turn ⟨hroot, haction, value, hreply⟩ hservice hafter
        | receipt action => exact use_turn ⟨hroot, haction, value, hreply⟩ hservice hafter
        | _ => exact nomatch haction ▸ hpolicy

end

end netbox_sync.auth_store
