import NetboxSync.Operations.Store

open json

namespace netbox_sync.source_operations

open run_history

variable {sha256 : String → String} {from_worker : OperationKind → Fields → Bool}

/-- A session that got its lock before another one for the same key has given it up, and if both ran the callback of
    one operation, it did so without completing the operation. -/
def Before (a b : Session) : Prop :=
  a.key = b.key → a.holds = false ∧
    (a.operation = b.operation → a.called = true → b.called = true → a.completed = false)

/-- What the phase of a call says about it. -/
structure Session.Sound (sha256 : String → String)
    (from_worker : OperationKind → Fields → Bool) (session : Session) : Prop where
  idle : session.phase = .locked → session.called = false
  silent : session.phase = .locked ∨ session.phase = .calling → session.answer = none
  busy : session.phase = .calling ∨ session.phase = .answered → session.called = true ∧ session.completed = false
  left : session.phase = .leaving ∨ session.phase = .closed → session.called = true →
    session.completed = true ∨ session.raised = true
  uncompleted : session.called = false → session.completed = false
  answered : ∀ c, session.answer = some c →
    ∃ outcome, completion sha256 from_worker session.operation outcome = some c

/-- A plan that may be shown: a result for the source, with its own digest. -/
def Verified (sha256 : String → String) (source : String) (result : Fields) : Prop :=
  dict.get result "source_instance" = some (.str source) ∧ recomputation_check sha256 result = .ok ()

/-- Some call of the operation had its callback answer with the result, and completed the operation. -/
def Computed (sessions : List Session) (operation : Operation) (result : Fields) : Prop :=
  ∃ session ∈ sessions, session.operation = operation ∧ session.completed = true ∧
    ∃ c, session.answer = some c ∧ c.result = some result

/-- The invariant over all workers. -/
structure Inv (sha256 : String → String) (from_worker : OperationKind → Fields → Bool) (s : State) : Prop where
  ids : (s.issued.map Operation.operation_id).Nodup
  slot_issued : ∀ source kind slot, s.slots source kind = some slot → ⟨source, kind, slot.operation_id⟩ ∈ s.issued
  session_issued : ∀ session ∈ s.sessions, session.operation ∈ s.issued
  ordered : s.sessions.Pairwise Before
  sound : ∀ session ∈ s.sessions, session.Sound sha256 from_worker
  settled : ∀ session ∈ s.sessions, session.completed = true → ∀ source kind slot,
    s.slots source kind = some slot → slot.operation_id = session.operation.operation_id → slot.status ≠ .RUNNING
  provenance : ∀ source kind slot result, s.slots source kind = some slot → slot.result = some result →
    Computed s.sessions ⟨source, kind, slot.operation_id⟩ result
  ready : ∀ source slot, s.slots source .PLAN = some slot → slot.status = .READY →
    ∃ result, slot.result = some result ∧ Verified sha256 source result

variable {s s' : State} {operation : Operation} {i j : Nat} {a b session : Session} {c : Completion}
  {outcome : CallbackOutcome} {source : String} {kind : OperationKind} {action : Action} {slot : Slot}

theorem inv_init (h : (machine sha256 from_worker).init s) : Inv sha256 from_worker s := by
  obtain ⟨hslots, hissued, hsessions⟩ := h
  constructor <;> simp [hslots, hissued, hsessions]

/-- A step of the table alone: every row is as it was, or it keeps its id and loses its result and its status. -/
structure Demotes (slots slots' : Slots) : Prop where
  kept : ∀ source kind slot, slots source kind = some slot →
    ∃ slot', slots' source kind = some slot' ∧ slot'.operation_id = slot.operation_id
  cases : ∀ source kind slot', slots' source kind = some slot' → slots source kind = some slot' ∨
    ∃ slot, slots source kind = some slot ∧ slot'.operation_id = slot.operation_id ∧
      slot'.status ≠ .RUNNING ∧ slot'.status ≠ .READY ∧ slot'.result = none

theorem Inv.demote (h : Inv sha256 from_worker s) {slots : Slots} (hdemotes : Demotes s.slots slots) :
    Inv sha256 from_worker { s with slots } := by
  constructor
  · exact h.ids
  · intro source kind slot hslot
    rcases hdemotes.cases source kind slot hslot with hold | ⟨old, hold, hid, _⟩
    · exact h.slot_issued source kind slot hold
    · rw [hid]
      exact h.slot_issued source kind old hold
  · exact h.session_issued
  · exact h.ordered
  · exact h.sound
  · intro session hsession hcompleted source kind slot hslot hid
    rcases hdemotes.cases source kind slot hslot with hold | ⟨old, _, _, hrunning, _⟩
    · exact h.settled session hsession hcompleted source kind slot hold hid
    · exact hrunning
  · intro source kind slot result hslot hresult
    rcases hdemotes.cases source kind slot hslot with hold | ⟨old, _, _, _, _, hnone⟩
    · exact h.provenance source kind slot result hold hresult
    · rw [hnone] at hresult
      cases hresult
  · intro source slot hslot hready
    rcases hdemotes.cases source .PLAN slot hslot with hold | ⟨old, _, _, _, hnot, _⟩
    · exact h.ready source slot hold hready
    · exact absurd hready hnot

theorem demotes_invalidate_plan (source : String) (operation_id : Nat) :
    Demotes s.slots (invalidate_plan s source operation_id).slots := by
  constructor
  · intro source' kind slot hslot
    refine ⟨_, congrArg (Option.map _) hslot, ?_⟩
    dsimp only
    split <;> rfl
  · intro source' kind slot' hslot'
    obtain ⟨slot, hslot, rfl⟩ := Option.map_eq_some_iff.mp hslot'
    split
    · exact .inr ⟨slot, hslot, rfl, by simp, by simp, rfl⟩
    · exact .inl hslot

theorem demotes_refresh (source : String) : Demotes s.slots (latest s source).slots := by
  have hrefresh : ∀ source kind slot, refresh s source kind slot = slot ∨
      (refresh s source kind slot).operation_id = slot.operation_id ∧
      (refresh s source kind slot).status ≠ .RUNNING ∧ (refresh s source kind slot).status ≠ .READY ∧
      (refresh s source kind slot).result = none := by
    intro source kind slot
    unfold refresh
    split
    · split
      · simp
      · exact .inl rfl
    · split
      · cases kind <;> simp
      · exact .inl rfl
  constructor
  · intro source' kind slot hslot
    by_cases hsource : source' = source
    · refine ⟨refresh s source' kind slot, by simp [latest, hsource ▸ hslot, hsource], ?_⟩
      rcases hrefresh source' kind slot with h | h
      · rw [h]
      · exact h.1
    · exact ⟨slot, by simp [latest, hsource, hslot], rfl⟩
  · intro source' kind slot' hslot'
    by_cases hsource : source' = source
    · simp only [latest, hsource, if_pos, Option.map_eq_some_iff] at hslot'
      obtain ⟨slot, hslot, rfl⟩ := hslot'
      subst hsource
      rcases hrefresh source' kind slot with h | h
      · rw [h]
        exact .inl hslot
      · exact .inr ⟨slot, hslot, h⟩
    · simp only [latest, hsource, if_false] at hslot'
      exact .inl hslot'

theorem Computed.set {sessions : List Session} {result : Fields} (h : Computed sessions operation result)
    (hget : sessions[i]? = some a) (hoperation : b.operation = a.operation)
    (hcompleted : a.completed = true → b.completed = true) (hanswer : ∀ c, a.answer = some c → b.answer = some c) :
    Computed (sessions.set i b) operation result := by
  obtain ⟨x, hx, hop, hdone, c, hc, hresult⟩ := h
  obtain ⟨j, hj⟩ := List.mem_iff_getElem?.mp hx
  by_cases hij : i = j
  · subst hij
    rw [hget] at hj
    cases hj
    refine ⟨b, List.mem_iff_getElem?.mpr ⟨i, ?_⟩, by rw [hoperation, hop], hcompleted hdone, c, hanswer c hc, hresult⟩
    exact List.getElem?_set_self (List.getElem?_eq_some_iff.mp hget).1
  · refine ⟨x, List.mem_iff_getElem?.mpr ⟨j, ?_⟩, hop, hdone, c, hc, hresult⟩
    exact (List.getElem?_set_ne hij).trans hj

/-- A call goes on without a trace in the table. It may begin its callback if no completed call of the operation came
    before. -/
theorem Inv.advance (h : Inv sha256 from_worker s) (hget : s.sessions[i]? = some a)
    (hoperation : b.operation = a.operation) (hholds : b.holds = true → a.holds = true)
    (hcompleted : b.completed = a.completed)
    (hcalled : b.called = a.called ∨ a.completed = false ∧ is_running s.slots a.operation = true)
    (hanswer : ∀ c, a.answer = some c → b.answer = some c) (hsound : b.Sound sha256 from_worker) :
    Inv sha256 from_worker (s.advance i b) := by
  have ha : a ∈ s.sessions := List.mem_of_getElem? hget
  have hkey : b.key = a.key := by rw [Session.key, Session.key, hoperation]
  have hreleased : a.holds = false → b.holds = false := by
    intro hnot
    cases hb : b.holds with
    | false => rfl
    | true => rw [hholds hb] at hnot; exact hnot
  -- Where the callback begins, the row is still RUNNING, so no call that
  -- completed the operation can have come before.
  have hopen : is_running s.slots a.operation = true → ∀ x ∈ s.sessions, x.operation = a.operation →
      x.completed = false := by
    intro hrunning x hx hsame
    rw [is_running, Option.any_eq_true] at hrunning
    obtain ⟨slot, hslot, hmatch⟩ := hrunning
    rw [Bool.and_eq_true, decide_eq_true_eq, decide_eq_true_eq] at hmatch
    cases hx' : x.completed with
    | false => rfl
    | true => exact absurd hmatch.2 (h.settled x hx hx' _ _ slot hslot (by rw [hsame, hmatch.1]))
  constructor
  · exact h.ids
  · exact h.slot_issued
  · intro session hsession
    rcases List.mem_or_eq_of_mem_set hsession with hsession | rfl
    · exact h.session_issued session hsession
    · rw [hoperation]
      exact h.session_issued a ha
  · refine h.ordered.set_of_imp hget ?_ ?_
    · intro x hx hbefore hsame
      obtain ⟨hfree, honce⟩ := hbefore (by rw [hsame, hkey])
      refine ⟨hfree, fun hop hxcalled hbcalled => ?_⟩
      rcases hcalled with hcalled | ⟨_, hrunning⟩
      · exact honce (by rw [hop, hoperation]) hxcalled (by rw [← hcalled, hbcalled])
      · exact hopen hrunning x hx (by rw [hop, hoperation])
    · intro x hx hafter hsame
      obtain ⟨hfree, honce⟩ := hafter (by rw [← hkey, hsame])
      refine ⟨hreleased hfree, fun hop hbcalled hxcalled => ?_⟩
      rw [hcompleted]
      rcases hcalled with hcalled | ⟨hnot, _⟩
      · exact honce (by rw [← hoperation, hop]) (by rw [← hcalled, hbcalled]) hxcalled
      · exact hnot
  · intro session hsession
    rcases List.mem_or_eq_of_mem_set hsession with hsession | rfl
    · exact h.sound session hsession
    · exact hsound
  · intro session hsession hdone
    rcases List.mem_or_eq_of_mem_set hsession with hsession | rfl
    · exact h.settled session hsession hdone
    · rw [hoperation]
      exact h.settled a ha (by rw [← hcompleted, hdone])
  · intro source kind slot result hslot hresult
    exact (h.provenance source kind slot result hslot hresult).set hget hoperation
      (fun hdone => by rw [hcompleted, hdone]) hanswer
  · exact h.ready

theorem failed_status {code : Code} {evidence : Option Fields}
    (h : failed operation code evidence = some c) : c.status = .FAILED := by
  unfold failed at h
  split at h <;> cases h <;> rfl

theorem completion_cases (h : completion sha256 from_worker operation outcome = some c) : c.status = .FAILED ∨
      ∃ result, validate sha256 from_worker operation result = .ok () ∧
        c.status = (if operation.operation_kind = .PLAN then .READY else .SUCCEEDED) ∧
        c.result = some result := by
  unfold completion at h
  split at h
  · cases h
  · split at h
    · exact .inl (failed_status h)
    · cases h
  · split at h
    next result hvalid =>
      cases h
      exact .inr ⟨_, hvalid, rfl, rfl⟩
    next => exact .inl (failed_status h)
  · exact .inl (failed_status h)

theorem completion_not_running (h : completion sha256 from_worker operation outcome = some c) :
    c.status ≠ .RUNNING := by
  rcases completion_cases h with hstatus | ⟨_, _, hstatus, _⟩
  · simp [hstatus]
  · rw [hstatus]
    split <;> simp

theorem completion_ready (hplan : operation.operation_kind = .PLAN) (hready : c.status = .READY)
    (h : completion sha256 from_worker operation outcome = some c) :
    ∃ result, c.result = some result ∧ Verified sha256 operation.source_instance result := by
  rcases completion_cases h with hstatus | ⟨result, hvalid, _, hresult⟩
  · rw [hready] at hstatus
    cases hstatus
  · rw [validate, hplan] at hvalid
    exact ⟨result, hresult, validate_plan_ok hvalid⟩

theorem Inv.operation_eq (h : Inv sha256 from_worker s) {a b : Operation} (ha : a ∈ s.issued) (hb : b ∈ s.issued)
    (hid : a.operation_id = b.operation_id) : a = b :=
  List.inj_on_of_nodup_map h.ids ha hb hid

/-- What the completion update leaves: a row of another generation, or the one RUNNING row of its own with the answer
    of the callback. -/
theorem complete_cases {slot' : Slot} (h : complete s operation c source kind = some slot') :
    ∃ slot, s.slots source kind = some slot ∧ slot'.operation_id = slot.operation_id ∧
      (slot' = slot ∧ (slot.operation_id ≠ operation.operation_id ∨ slot.status ≠ .RUNNING) ∨
        slot.operation_id = operation.operation_id ∧ slot.status = .RUNNING ∧
          slot'.status = c.status ∧ slot'.result = c.result) := by
  obtain ⟨slot, hslot, rfl⟩ := Option.map_eq_some_iff.mp h
  refine ⟨slot, hslot, ?_⟩
  split
  next hmatch =>
    rw [Bool.and_eq_true, decide_eq_true_eq, decide_eq_true_eq] at hmatch
    exact ⟨rfl, .inr ⟨hmatch.1, hmatch.2, rfl, rfl⟩⟩
  next hmatch =>
    rw [Bool.and_eq_true, decide_eq_true_eq, decide_eq_true_eq] at hmatch
    exact ⟨rfl, .inl ⟨rfl, not_and_or.mp hmatch⟩⟩

theorem Inv.complete (h : Inv sha256 from_worker s) (hget : s.sessions[i]? = some a) (hphase : a.phase = .answered)
    (halive : a.alive = true) (hanswer : a.answer = some c) :
    Inv sha256 from_worker { s.advance i { a with phase := .leaving, completed := true } with
      slots := source_operations.complete s a.operation c } := by
  have ha : a ∈ s.sessions := List.mem_of_getElem? hget
  have hholds : a.holds = true := by simp [Session.holds, hphase, halive]
  obtain ⟨outcome, houtcome⟩ := (h.sound a ha).answered c hanswer
  constructor
  · exact h.ids
  · intro source kind slot' hslot'
    obtain ⟨slot, hslot, hid, _⟩ := complete_cases hslot'
    rw [hid]
    exact h.slot_issued source kind slot hslot
  · intro session hsession
    rcases List.mem_or_eq_of_mem_set hsession with hsession | rfl
    · exact h.session_issued session hsession
    · exact h.session_issued a ha
  · refine h.ordered.set_of_imp hget (fun x _ hbefore => hbefore) ?_
    -- No other call for the key got the lock after this one: it is still held.
    intro x _ hafter hsame
    rw [(hafter hsame).1] at hholds
    cases hholds
  · intro session hsession
    rcases List.mem_or_eq_of_mem_set hsession with hsession | rfl
    · exact h.sound session hsession
    · have hcalled := ((h.sound a ha).busy (.inr hphase)).1
      exact {
        idle := by simp
        silent := by simp
        busy := by simp
        left := by simp
        uncompleted := by simp [hcalled]
        answered := (h.sound a ha).answered }
  · intro session hsession hdone source kind slot' hslot' hid'
    obtain ⟨slot, hslot, hid, ⟨rfl, hother⟩ | ⟨_, _, hstatus, _⟩⟩ := complete_cases hslot'
    · rcases List.mem_or_eq_of_mem_set hsession with hsession | rfl
      · exact h.settled session hsession hdone source kind slot' hslot hid'
      · exact hother.resolve_left (not_not.mpr hid')
    · rw [hstatus]
      exact completion_not_running houtcome
  · intro source kind slot' result hslot' hresult
    obtain ⟨slot, hslot, hid, ⟨rfl, _⟩ | ⟨hown, _, _, hresult'⟩⟩ := complete_cases hslot'
    · exact (h.provenance source kind slot' result hslot hresult).set hget rfl (fun _ => rfl) (fun _ => id)
    · refine ⟨{ a with phase := .leaving, completed := true }, List.mem_iff_getElem?.mpr ⟨i, ?_⟩, ?_, rfl,
        c, hanswer, by rw [← hresult', hresult]⟩
      · exact List.getElem?_set_self (List.getElem?_eq_some_iff.mp hget).1
      · rw [hid]
        exact h.operation_eq (h.session_issued a ha) (h.slot_issued source kind slot hslot) hown.symm
  · intro source slot' hslot' hready
    obtain ⟨slot, hslot, hid, ⟨rfl, _⟩ | ⟨hown, _, hstatus, hresult⟩⟩ := complete_cases hslot'
    · exact h.ready source slot' hslot hready
    · have hop : a.operation = ⟨source, .PLAN, slot.operation_id⟩ :=
        h.operation_eq (h.session_issued a ha) (h.slot_issued source .PLAN slot hslot) hown.symm
      rw [hop] at houtcome
      rw [hresult]
      exact completion_ready rfl (hstatus ▸ hready) houtcome

theorem Inv.start (h : Inv sha256 from_worker s) {operation_id : Nat}
    (hfresh : operation_id ∉ s.issued.map Operation.operation_id) :
    Inv sha256 from_worker (start s source kind operation_id) := by
  unfold source_operations.start
  split
  · exact h
  constructor
  · rw [List.map_append, List.nodup_append]
    refine ⟨h.ids, List.nodup_singleton _, ?_⟩
    intro x hx y hy hxy
    rw [hxy, List.mem_singleton.mp hy] at hx
    exact hfresh hx
  · intro source' kind' slot hslot
    dsimp only at hslot
    split at hslot
    next hsame =>
      cases hslot
      rw [hsame.1, hsame.2]
      exact List.mem_append_right _ List.mem_cons_self
    next => exact List.mem_append_left _ (h.slot_issued source' kind' slot hslot)
  · intro session hsession
    exact List.mem_append_left _ (h.session_issued session hsession)
  · exact h.ordered
  · exact h.sound
  · intro session hsession hdone source' kind' slot hslot hid
    dsimp only at hslot
    split at hslot
    next =>
      cases hslot
      exact absurd (List.mem_map.mpr ⟨_, h.session_issued session hsession, hid.symm⟩) hfresh
    next => exact h.settled session hsession hdone source' kind' slot hslot hid
  · intro source' kind' slot result hslot hresult
    dsimp only at hslot
    split at hslot
    next =>
      cases hslot
      cases hresult
    next => exact h.provenance source' kind' slot result hslot hresult
  · intro source' slot hslot hready
    dsimp only at hslot
    split at hslot
    next =>
      cases hslot
      cases hready
    next => exact h.ready source' slot hslot hready

theorem Inv.execute (h : Inv sha256 from_worker s) (hissued : operation ∈ s.issued) :
    Inv sha256 from_worker (execute s operation) := by
  unfold source_operations.execute
  split
  next hfree =>
    constructor
    · exact h.ids
    · exact h.slot_issued
    · intro session hsession
      rcases List.mem_append.mp hsession with hsession | hsession
      · exact h.session_issued session hsession
      · cases List.mem_singleton.mp hsession
        exact hissued
    · refine List.pairwise_append.mpr ⟨h.ordered, List.pairwise_singleton _ _, ?_⟩
      intro x hx y hy hsame
      cases List.mem_singleton.mp hy
      have hx := List.all_eq_true.mp hfree x hx
      refine ⟨?_, fun _ _ hcalled => nomatch hcalled⟩
      rw [hsame] at hx
      simpa [Session.key] using hx
    · intro session hsession
      rcases List.mem_append.mp hsession with hsession | hsession
      · exact h.sound session hsession
      · cases List.mem_singleton.mp hsession
        constructor <;> simp
    · intro session hsession hdone
      rcases List.mem_append.mp hsession with hsession | hsession
      · exact h.settled session hsession hdone
      · cases List.mem_singleton.mp hsession
        cases hdone
    · intro source kind slot result hslot hresult
      obtain ⟨x, hx, hcomputed⟩ := h.provenance source kind slot result hslot hresult
      exact ⟨x, List.mem_append_left _ hx, hcomputed⟩
    · exact h.ready
  next => exact h

/-- A call that leaves has not begun its callback, or an exception ends it. -/
theorem Session.Sound.leave (h : session.Sound sha256 from_worker) {raised : Bool}
    (hraised : session.called = true → raised = true) :
    ({ session with phase := .leaving, raised } : Session).Sound sha256 from_worker where
  idle := by simp
  silent := by simp
  busy := by simp
  left := fun _ hcalled => .inr (hraised hcalled)
  uncompleted := h.uncompleted
  answered := h.answered

theorem inv_step_session (h : Inv sha256 from_worker s) (hget : s.sessions[i]? = some session)
    (hstep : step_session sha256 from_worker s i session action = some s') : Inv sha256 from_worker s' := by
  have hsound := h.sound session (List.mem_of_getElem? hget)
  unfold step_session at hstep
  split at hstep
  case h_1 =>
    split at hstep
    next hphase =>
      obtain ⟨hphase, _⟩ := hphase
      cases hstep
      have hcalled := hsound.idle hphase
      have hcompleted := hsound.uncompleted hcalled
      split
      next hrunning =>
        refine h.advance hget rfl (by simp [Session.holds, hphase]) rfl (.inr ⟨hcompleted, hrunning⟩) (fun _ => id) ?_
        exact {
          idle := by simp
          silent := fun _ => hsound.silent (.inl hphase)
          busy := by simp [hcompleted]
          left := by simp
          uncompleted := by simp
          answered := hsound.answered }
      next =>
        refine h.advance hget rfl (by simp [Session.holds, hphase]) rfl (.inl rfl) (fun _ => id) ?_
        exact hsound.leave (by simp [hcalled])
    next => cases hstep
  case h_2 =>
    split at hstep
    next hphase =>
      cases hstep
      split
      next c houtcome =>
        obtain ⟨hcalled, hcompleted⟩ := hsound.busy (.inl hphase)
        have hsilent := hsound.silent (.inr hphase)
        refine h.advance hget rfl (by simp [Session.holds, hphase]) rfl (.inl rfl) (by simp [hsilent]) ?_
        exact {
          idle := by simp
          silent := by simp
          busy := fun _ => ⟨hcalled, hcompleted⟩
          left := by simp
          uncompleted := hsound.uncompleted
          answered := by
            rintro _ ⟨⟩
            exact ⟨_, houtcome⟩ }
      next =>
        refine h.advance hget rfl (by simp [Session.holds, hphase]) rfl (.inl rfl) (fun _ => id) ?_
        exact hsound.leave (fun _ => rfl)
    next => cases hstep
  case h_3 =>
    split at hstep
    next c hanswer =>
      split at hstep
      next hphase =>
        cases hstep
        exact h.complete hget hphase.1 hphase.2 hanswer
      next => cases hstep
    next => cases hstep
  case h_4 =>
    split at hstep
    next hphase =>
      cases hstep
      refine h.advance hget rfl ?_ rfl (.inl rfl) (fun _ => id) (hsound.leave (fun _ => rfl))
      rcases hphase with hphase | hphase <;> simp [Session.holds, hphase]
    next => cases hstep
  case h_5 =>
    split at hstep
    next hphase =>
      cases hstep
      refine h.advance hget rfl (by simp [Session.holds]) rfl (.inl rfl) (fun _ => id) ?_
      exact {
        idle := by simp
        silent := by simp
        busy := by simp
        left := fun _ => hsound.left (.inl hphase)
        uncompleted := hsound.uncompleted
        answered := hsound.answered }
    next => cases hstep
  case h_6 =>
    cases hstep
    exact h.advance hget rfl (by simp [Session.holds]) rfl (.inl rfl) (fun _ => id) { hsound with }
  case h_7 => cases hstep

theorem inv_step (h : Inv sha256 from_worker s) (hstep : step sha256 from_worker s action = some s') :
    Inv sha256 from_worker s' := by
  unfold step at hstep
  split at hstep
  case h_1 =>
    cases hstep
    exact { h with }
  case h_2 source =>
    cases hstep
    exact h.demote (demotes_refresh source)
  case h_3 =>
    split at hstep
    next => cases hstep
    next hfresh =>
      cases hstep
      exact h.start hfresh
  case h_4 =>
    cases hstep
    exact h.demote (demotes_invalidate_plan _ _)
  case h_5 =>
    split at hstep
    next hissued =>
      cases hstep
      exact h.execute hissued
    next => cases hstep
  all_goals
    obtain ⟨session, hget, hstep⟩ := Option.bind_eq_some_iff.mp hstep
    exact inv_step_session h hget hstep

/-- The invariant holds in every state the workers can reach. -/
theorem inv_reachable (h : (machine sha256 from_worker).Reachable s) : Inv sha256 from_worker s :=
  h.invariant (fun _ => inv_init) (fun _ _ _ _ hinv hstep => inv_step hinv hstep)

theorem complete_keeps (h : s.slots source kind = some slot) :
    ∃ slot', complete s operation c source kind = some slot' ∧ slot'.operation_id = slot.operation_id := by
  refine ⟨_, by rw [complete, update_where, h, Option.map_some], ?_⟩
  split <;> rfl

theorem start_keeps {source' : String} {kind' : OperationKind} {operation_id : Nat}
    (h : s.slots source' kind' = some slot) (hrunning : slot.status = .RUNNING) :
    (start s source kind operation_id).slots source' kind' = some slot := by
  unfold start
  split
  · exact h
  next hfree =>
    dsimp only
    split
    next hsame =>
      -- A RUNNING row under the key would have been returned.
      rw [hsame.1, hsame.2] at h
      simp [h, hrunning] at hfree
    next => exact h

/-- What a step makes of the table. -/
inductive Edits (s : State) : Action → Slots → Prop where
  | none (action : Action) : Edits s action s.slots
  | latest (source : String) : Edits s (.latest source) (latest s source).slots
  | start {operation_id : Nat} (source : String) (kind : OperationKind)
    (hfresh : operation_id ∉ s.issued.map Operation.operation_id) :
    Edits s (.start source kind operation_id) (start s source kind operation_id).slots
  | invalidate_plan (source : String) (operation_id : Nat) :
    Edits s (.invalidate_plan source operation_id) (invalidate_plan s source operation_id).slots
  | complete {i : Nat} {session : Session} (hget : s.sessions[i]? = some session) (c : Completion) :
    Edits s (.complete i) (complete s session.operation c)

theorem step_edits (hstep : step sha256 from_worker s action = some s') : Edits s action s'.slots := by
  unfold step at hstep
  split at hstep
  case h_1 =>
    cases hstep
    exact .none _
  case h_2 =>
    cases hstep
    exact .latest _
  case h_3 =>
    split at hstep
    · cases hstep
    next hfresh =>
      cases hstep
      exact .start _ _ hfresh
  case h_4 =>
    cases hstep
    exact .invalidate_plan _ _
  case h_5 =>
    split at hstep
    · cases hstep
      unfold execute
      split <;> exact .none _
    · cases hstep
  all_goals
    obtain ⟨session, hget, hstep⟩ := Option.bind_eq_some_iff.mp hstep
    simp only [step_session] at hstep
  case h_8 =>
    split at hstep
    · split at hstep
      · cases hstep
        exact .complete hget _
      · cases hstep
    · cases hstep
  case h_11 =>
    cases hstep
    exact .none _
  all_goals
    split at hstep
    · cases hstep
      exact .none _
    · cases hstep

variable {slots : Slots}

/-- A row that is RUNNING before a step carries its generation after it. -/
theorem Edits.keeps_running (hedits : Edits s action slots) (h : s.slots source kind = some slot)
    (hrunning : slot.status = .RUNNING) :
    ∃ slot', slots source kind = some slot' ∧ slot'.operation_id = slot.operation_id := by
  cases hedits with
  | none => exact ⟨slot, h, rfl⟩
  | latest source' => exact (demotes_refresh source').kept source kind slot h
  | start => exact ⟨slot, start_keeps h hrunning, rfl⟩
  | invalidate_plan source' operation_id =>
    exact (demotes_invalidate_plan source' operation_id).kept source kind slot h
  | complete => exact complete_keeps h

/-- The completion step of a call changes no row but the RUNNING one with the id of its operation. -/
theorem Edits.fenced (hedits : Edits s (.complete i) slots) (hget : s.sessions[i]? = some session) (source : String)
    (kind : OperationKind) :
    slots source kind = s.slots source kind ∨ ∃ slot, s.slots source kind = some slot ∧
      slot.operation_id = session.operation.operation_id ∧ slot.status = .RUNNING := by
  cases hedits with
  | none => exact .inl rfl
  | complete hget' c =>
    rw [hget] at hget'
    cases hget'
    cases hslot : s.slots source kind with
    | none => exact .inl (by simp [source_operations.complete, update_where, hslot])
    | some slot =>
      by_cases hown : slot.operation_id = session.operation.operation_id ∧ slot.status = .RUNNING
      · exact .inr ⟨slot, rfl, hown⟩
      · refine .inl ?_
        simp only [source_operations.complete, update_where, hslot, Option.map_some]
        rw [if_neg]
        simpa using hown

section

variable (h : Inv sha256 from_worker s)
include h

/-- Of two calls for one key, the one that got the lock first has given it up. -/
theorem Inv.before (hlt : i < j) (ha : s.sessions[i]? = some a) (hb : s.sessions[j]? = some b) : Before a b := by
  obtain ⟨hi, rfl⟩ := List.getElem?_eq_some_iff.mp ha
  obtain ⟨hj, rfl⟩ := List.getElem?_eq_some_iff.mp hb
  exact List.pairwise_iff_getElem.mp h.ordered i j hi hj hlt

/-- Two live calls for one key are not both in their callbacks. -/
theorem Inv.no_overlap (ha : s.sessions[i]? = some a) (hb : s.sessions[j]? = some b) (hkey : a.key = b.key)
    (halive : a.alive = true ∧ b.alive = true) (hcalling : a.phase = .calling ∧ b.phase = .calling) : i = j := by
  rcases Nat.lt_trichotomy i j with hlt | heq | hlt
  · have hfree := (h.before hlt ha hb hkey).1
    simp [Session.holds, halive.1, hcalling.1] at hfree
  · exact heq
  · have hfree := (h.before hlt hb ha hkey.symm).1
    simp [Session.holds, halive.2, hcalling.2] at hfree

/-- When the callback of an operation runs again, the earlier call did not complete the operation: its session is dead
    or it ended by an exception. -/
theorem Inv.called_again (hlt : i < j) (ha : s.sessions[i]? = some a) (hb : s.sessions[j]? = some b)
    (hid : a.operation.operation_id = b.operation.operation_id) (hcalled : a.called = true ∧ b.called = true) :
    a.completed = false ∧ (a.alive = false ∨ a.raised = true) := by
  have hmem := List.mem_of_getElem? ha
  have hop : a.operation = b.operation :=
    h.operation_eq (h.session_issued a hmem) (h.session_issued b (List.mem_of_getElem? hb)) hid
  obtain ⟨hfree, honce⟩ := h.before hlt ha hb (by rw [Session.key, Session.key, hop])
  have hcompleted := honce hop hcalled.1 hcalled.2
  refine ⟨hcompleted, ?_⟩
  rw [Session.holds, Bool.and_eq_false_iff, decide_eq_false_iff_not, not_not] at hfree
  rcases hfree with hdead | hclosed
  · exact .inl hdead
  · refine .inr (((h.sound a hmem).left (.inr hclosed) hcalled.1).resolve_left ?_)
    rw [hcompleted]
    exact Bool.false_ne_true

/-- An operation is completed once, so it has one result. -/
theorem Inv.computed_unique {result result' : Fields} (hresult : Computed s.sessions operation result)
    (hresult' : Computed s.sessions operation result') : result = result' := by
  obtain ⟨a, ha, hopa, hdonea, ca, hca, hra⟩ := hresult
  obtain ⟨b, hb, hopb, hdoneb, cb, hcb, hrb⟩ := hresult'
  have hcalled : ∀ session ∈ s.sessions, session.completed = true → session.called = true := by
    intro session hsession hdone
    cases hcalled : session.called with
    | true => rfl
    | false => rw [(h.sound session hsession).uncompleted hcalled] at hdone; exact hdone
  have hboth : a.called = true ∧ b.called = true := ⟨hcalled a ha hdonea, hcalled b hb hdoneb⟩
  obtain ⟨i, hi⟩ := List.mem_iff_getElem?.mp ha
  obtain ⟨j, hj⟩ := List.mem_iff_getElem?.mp hb
  rcases Nat.lt_trichotomy i j with hlt | rfl | hlt
  · have hnot := (h.called_again hlt hi hj (by rw [hopa, hopb]) hboth).1
    rw [hdonea] at hnot
    cases hnot
  · rw [hi] at hj
    cases hj
    rw [hca] at hcb
    cases hcb
    rw [hra] at hrb
    exact Option.some.inj hrb
  · have hnot := (h.called_again hlt hj hi (by rw [hopa, hopb]) hboth.symm).1
    rw [hdoneb] at hnot
    cases hnot

end

/-- In every state the workers can reach: live callbacks of one source and kind do not overlap; a callback runs again
    only after a call whose session died, or which ended by an exception, without completing the operation; a RUNNING
    row keeps its generation; a completion changes only the RUNNING row of its own operation; a result was computed
    for the generation that carries it; and a READY plan is for its source and has its own digest. -/
theorem operation_slots_are_fenced (sha256 : String → String) (from_worker : OperationKind → Fields → Bool)
    (s : State) (hs : (machine sha256 from_worker).Reachable s) :
    (∀ (i j : Nat) (a b : Session), s.sessions[i]? = some a → s.sessions[j]? = some b → a.key = b.key →
      a.alive = true ∧ b.alive = true → a.phase = .calling ∧ b.phase = .calling → i = j) ∧
    (∀ (i j : Nat) (a b : Session), i < j → s.sessions[i]? = some a → s.sessions[j]? = some b →
      a.operation.operation_id = b.operation.operation_id → a.called = true ∧ b.called = true →
        a.completed = false ∧ (a.alive = false ∨ a.raised = true)) ∧
    (∀ action s', step sha256 from_worker s action = some s' → ∀ source kind slot,
      s.slots source kind = some slot → slot.status = .RUNNING →
        ∃ slot', s'.slots source kind = some slot' ∧ slot'.operation_id = slot.operation_id) ∧
    (∀ i session s', s.sessions[i]? = some session → step sha256 from_worker s (.complete i) = some s' →
      ∀ source kind, s'.slots source kind = s.slots source kind ∨ ∃ slot, s.slots source kind = some slot ∧
        slot.operation_id = session.operation.operation_id ∧ slot.status = .RUNNING) ∧
    (∀ source kind slot result, s.slots source kind = some slot → slot.result = some result →
      Computed s.sessions ⟨source, kind, slot.operation_id⟩ result) ∧
    (∀ source slot, s.slots source .PLAN = some slot → slot.status = .READY →
      ∃ result, slot.result = some result ∧ Verified sha256 source result) := by
  have h := inv_reachable hs
  refine ⟨?_, ?_, ?_, ?_, h.provenance, h.ready⟩
  · intro i j a b ha hb hkey halive hcalling
    exact h.no_overlap ha hb hkey halive hcalling
  · intro i j a b hlt ha hb hid hcalled
    exact h.called_again hlt ha hb hid hcalled
  · intro action s' hstep source kind slot hslot hrunning
    exact (step_edits hstep).keeps_running hslot hrunning
  · intro i session s' hget hstep
    exact (step_edits hstep).fenced hget

theorem operation_slots_are_fenced_interrupted :
    ∃ s, (machine id (fun _ _ => true)).Reachable s ∧ ∃ a, s.sessions[0]? = some a ∧
      a.completed = false ∧ (a.alive = false ∨ a.raised = true) := by
  let operation : Operation := ⟨"esxi-a", .PLAN, 7⟩
  have hrun : (machine id (fun _ _ => true)).run {}
      [.start "esxi-a" .PLAN 7, .execute operation, .check 0, .die 0, .execute operation, .check 1] = some _ := rfl
  have hinit : (machine id (fun _ _ => true)).init {} := ⟨rfl, rfl, rfl⟩
  have hs := (Machine.Reachable.init hinit).run hrun
  have h := operation_slots_are_fenced id (fun _ _ => true) _ hs
  exact ⟨_, hs, _, rfl, h.2.1 0 1 _ _ (by omega) rfl rfl rfl ⟨rfl, rfl⟩⟩

/-- The callback of one operation runs twice while both sessions are alive: the completion of the first is refused,
    and it gives up the lock. -/
theorem refused_completion_runs_again :
    ∃ s, (machine id (fun _ _ => true)).Reachable s ∧ ∃ a b, s.sessions[0]? = some a ∧
      s.sessions[1]? = some b ∧ a.operation.operation_id = b.operation.operation_id ∧
      a.called = true ∧ b.called = true ∧ a.alive = true ∧ b.alive = true := by
  let operation : Operation := ⟨"esxi-a", .DISCOVERY, 0⟩
  have hrun : (machine id (fun _ _ => true)).run {}
      [.start "esxi-a" .DISCOVERY 0, .execute operation, .check 0,
        .answer 0 (.raised (.str "DISCOVERY_FAILED") none true), .abort 0, .unlock 0,
        .execute operation, .check 1] = some _ := rfl
  have hinit : (machine id (fun _ _ => true)).init {} := ⟨rfl, rfl, rfl⟩
  exact ⟨_, (Machine.Reachable.init hinit).run hrun, _, _, rfl, rfl, rfl, rfl, rfl, rfl, rfl⟩

end netbox_sync.source_operations
