import NetboxSync.Operations.Fencing

open json

namespace netbox_sync.source_operations

/-- `str(row["operation_id"])` -/
def id_text (operation_id : Nat) : String := String.ofList (Nat.toDigits 10 operation_id)

theorem id_text_injective : Function.Injective id_text := by
  intro a b h
  have hdigits := congrArg (fun text => Nat.ofDigitChars 10 text.toList 0) h
  simpa [id_text] using hdigits

def Slot.id (slot : Slot) : String := id_text slot.operation_id

/-- `OperationStore.current_plan` with `include_result`, for an operation id. An error is the reason `PLAN_STALE`
    carries. -/
def current_plan (s : State) (source digest operation_id : String) : Except String Fields :=
  match s.slots source .PLAN with
  | none => .error "OPERATION_MISSING"
  | some slot =>
    if slot.id ≠ operation_id then .error "OPERATION_VERSION"
    else if !slot.finished_at.any (fun finished_at => s.clock - seconds RESULT_SECONDS < finished_at) then
      .error "OPERATION_EXPIRED"
    else if slot.status ≠ .READY then .error "OPERATION_STATUS"
    else
      match slot.result with
      | none | some [] => .error "RESULT_MISSING"
      | some result =>
        if dict.get result "digest" = some (.str digest) then .ok result else .error "REVIEW_DIGEST"

/-- What `review_guard` checks once it has the gate of the source. -/
def review_guard (s : State) (source digest : String) (operation_id : Option String) : Except String Fields :=
  match operation_id with
  | none => .error "OPERATION_MISSING"
  | some operation_id => current_plan s source digest operation_id

/-- `OperationStore.plan_time` -/
def plan_time (s : State) (source operation_id : String) : Except String Int :=
  match s.slots source .PLAN with
  | none => .error "OPERATION_MISSING"
  | some slot =>
    if slot.id ≠ operation_id then .error "OPERATION_MISSING"
    else
      match slot.finished_at with
      | none => .error "OPERATION_MISSING"
      | some finished_at => .ok finished_at

variable {sha256 : String → String} {from_worker : OperationKind → Fields → Bool}

/-- A row of the operation, where there is one, has left `RUNNING` by a time. -/
def Settled (slots : Slots) (operation : Operation) (time : Int) : Prop :=
  ∀ slot, slots operation.source_instance operation.operation_kind = some slot →
    slot.operation_id = operation.operation_id →
      slot.status ≠ .RUNNING ∧ ∃ finished_at, slot.finished_at = some finished_at ∧ finished_at ≤ time

/-- The row of the source is the plan, `READY` with the digest, or expired since. -/
def Current (s : State) (source digest operation_id : String) : Prop :=
  ∃ slot, s.slots source .PLAN = some slot ∧ slot.id = operation_id ∧
    (slot.status = .READY ∧ (∃ result, slot.result = some result ∧ dict.get result "digest" = some (.str digest)) ∨
      slot.status = .STALE ∧ ∃ finished_at, slot.finished_at = some finished_at ∧
        finished_at < s.clock - seconds RESULT_SECONDS)

/-- What the review of a plan leaves for good: the operation was completed with a result of that digest, by a time. -/
def Reviewed (s : State) (source digest operation_id : String) (time : Int) : Prop :=
  ∃ id, id_text id = operation_id ∧ ⟨source, .PLAN, id⟩ ∈ s.issued ∧
    (∃ result, Computed s.sessions ⟨source, .PLAN, id⟩ result ∧ dict.get result "digest" = some (.str digest)) ∧
    Settled s.slots ⟨source, .PLAN, id⟩ time

variable {s s' : State} {source digest operation_id source' : String} {result : Fields}
  {kind : OperationKind} {slot slot' : Slot} {operation : Operation} {i : Nat} {action : Action} {time : Int}

theorem current_plan_ok (h : current_plan s source digest operation_id = .ok result) :
    ∃ slot, s.slots source .PLAN = some slot ∧ slot.id = operation_id ∧ slot.status = .READY ∧
      slot.result = some result ∧ dict.get result "digest" = some (.str digest) ∧
      ∃ finished_at, slot.finished_at = some finished_at := by
  unfold current_plan at h
  split at h
  · cases h
  next slot hslot =>
  split at h
  · cases h
  next hid =>
  split at h
  · cases h
  next hexpired =>
  split at h
  · cases h
  next hstatus =>
  split at h
  · cases h
  · cases h
  next result' hresult =>
  split at h
  next hdigest =>
    cases h
    rw [Bool.not_eq_true, Bool.not_eq_false', Option.any_eq_true] at hexpired
    obtain ⟨finished_at, hfinished, _⟩ := hexpired
    exact ⟨slot, hslot, not_not.mp hid, not_not.mp hstatus, hresult, hdigest, finished_at, hfinished⟩
  next => cases h

theorem plan_time_ok {finished_at : Int} (h : plan_time s source operation_id = .ok finished_at) :
    ∃ slot, s.slots source .PLAN = some slot ∧ slot.id = operation_id ∧ slot.finished_at = some finished_at := by
  unfold plan_time at h
  split at h
  · cases h
  next slot hslot =>
  split at h
  · cases h
  next hid =>
  split at h
  · cases h
  next hfinished =>
    cases h
    exact ⟨slot, hslot, not_not.mp hid, hfinished⟩

/-- Where a row after a step comes from: the row of the same operation, with its finish if it had left `RUNNING`, or a
    new operation. -/
def Evolves (s : State) (source : String) (kind : OperationKind) (slot' : Slot) : Prop :=
  (∃ slot, s.slots source kind = some slot ∧ slot'.operation_id = slot.operation_id ∧
    (slot'.finished_at = slot.finished_at ∧ (slot.status ≠ .RUNNING → slot'.status ≠ .RUNNING) ∨
      slot.status = .RUNNING ∧ slot'.finished_at = some s.clock)) ∨
  slot'.operation_id ∉ s.issued.map Operation.operation_id ∧ slot'.finished_at = none

theorem Evolves.refl (h : s.slots source kind = some slot) : Evolves s source kind slot :=
  .inl ⟨slot, h, rfl, .inl ⟨rfl, id⟩⟩

theorem latest_evolves (h : (latest s source).slots source' kind = some slot') : Evolves s source' kind slot' := by
  dsimp only [latest] at h
  split at h
  · obtain ⟨slot, hslot, rfl⟩ := Option.map_eq_some_iff.mp h
    refine .inl ⟨slot, hslot, ?_⟩
    unfold refresh
    split
    next hrunning =>
      split
      · exact ⟨rfl, .inr ⟨hrunning, rfl⟩⟩
      · exact ⟨rfl, .inl ⟨rfl, id⟩⟩
    next =>
      split
      · exact ⟨rfl, .inl ⟨rfl, fun _ => by cases kind <;> simp⟩⟩
      · exact ⟨rfl, .inl ⟨rfl, id⟩⟩
  · exact .refl h

theorem start_evolves {kind' : OperationKind} {operation_id : Nat}
    (hfresh : operation_id ∉ s.issued.map Operation.operation_id)
    (h : (start s source kind operation_id).slots source' kind' = some slot') : Evolves s source' kind' slot' := by
  unfold start at h
  split at h
  · exact .refl h
  · dsimp only at h
    split at h
    · cases h
      exact .inr ⟨hfresh, rfl⟩
    · exact .refl h

theorem invalidate_plan_evolves {operation_id : Nat}
    (h : (invalidate_plan s source operation_id).slots source' kind = some slot') : Evolves s source' kind slot' := by
  obtain ⟨slot, hslot, rfl⟩ := Option.map_eq_some_iff.mp h
  refine .inl ⟨slot, hslot, ?_⟩
  split
  · exact ⟨rfl, .inl ⟨rfl, by simp⟩⟩
  · exact ⟨rfl, .inl ⟨rfl, id⟩⟩

theorem complete_evolves {c : Completion} (h : complete s operation c source kind = some slot') :
    Evolves s source kind slot' := by
  obtain ⟨slot, hslot, rfl⟩ := Option.map_eq_some_iff.mp h
  refine .inl ⟨slot, hslot, ?_⟩
  split
  next hmatch =>
    rw [Bool.and_eq_true, decide_eq_true_eq, decide_eq_true_eq] at hmatch
    exact ⟨rfl, .inr ⟨hmatch.2, rfl⟩⟩
  next => exact ⟨rfl, .inl ⟨rfl, id⟩⟩

theorem Edits.evolves {slots : Slots} (hedits : Edits s action slots) (h : slots source kind = some slot') :
    Evolves s source kind slot' := by
  cases hedits with
  | none => exact .refl h
  | latest => exact latest_evolves h
  | start _ _ hfresh => exact start_evolves hfresh h
  | invalidate_plan => exact invalidate_plan_evolves h
  | complete => exact complete_evolves h

/-- A step of one call leaves the other calls, the clock and what was handed out; the call keeps its completion and
    its answer. -/
theorem step_session_grows {a : Session} (hsound : a.Sound sha256 from_worker)
    (hstep : step_session sha256 from_worker s i a action = some s') :
    s'.clock = s.clock ∧ s'.issued = s.issued ∧ ∃ b, s'.sessions = s.sessions.set i b ∧
      b.operation = a.operation ∧ (a.completed = true → b.completed = true) ∧
      ∀ c, a.answer = some c → b.answer = some c := by
  unfold step_session at hstep
  split at hstep
  case h_1 =>
    split at hstep
    · cases hstep
      refine ⟨rfl, rfl, _, rfl, ?_⟩
      split <;> exact ⟨rfl, id, fun _ => id⟩
    · cases hstep
  case h_2 =>
    split at hstep
    next hphase =>
      cases hstep
      refine ⟨rfl, rfl, _, rfl, ?_⟩
      have hsilent := hsound.silent (.inr hphase)
      split
      · exact ⟨rfl, id, fun c hc => by rw [hsilent] at hc; cases hc⟩
      · exact ⟨rfl, id, fun _ => id⟩
    next => cases hstep
  case h_3 =>
    split at hstep
    · split at hstep
      · cases hstep
        exact ⟨rfl, rfl, _, rfl, rfl, fun _ => rfl, fun _ => id⟩
      · cases hstep
    · cases hstep
  case h_6 =>
    cases hstep
    exact ⟨rfl, rfl, _, rfl, rfl, id, fun _ => id⟩
  case h_7 => cases hstep
  all_goals
    split at hstep
    · cases hstep
      exact ⟨rfl, rfl, _, rfl, rfl, id, fun _ => id⟩
    · cases hstep

/-- What a step leaves of the rest: the clock does not go back, and what was handed out or completed stays so. -/
theorem step_grows (hinv : Inv sha256 from_worker s) (hstep : step sha256 from_worker s action = some s') :
    s.clock ≤ s'.clock ∧ (∀ operation ∈ s.issued, operation ∈ s'.issued) ∧
      ∀ operation result, Computed s.sessions operation result → Computed s'.sessions operation result := by
  unfold step at hstep
  split at hstep
  case h_1 =>
    cases hstep
    exact ⟨Int.le_add_of_nonneg_right (Int.natCast_nonneg _), fun _ => id, fun _ _ => id⟩
  case h_2 =>
    cases hstep
    exact ⟨Int.le_refl _, fun _ => id, fun _ _ => id⟩
  case h_3 =>
    split at hstep
    · cases hstep
    · cases hstep
      unfold start
      split
      · exact ⟨Int.le_refl _, fun _ => id, fun _ _ => id⟩
      · exact ⟨Int.le_refl _, fun _ => List.mem_append_left _, fun _ _ => id⟩
  case h_4 =>
    cases hstep
    exact ⟨Int.le_refl _, fun _ => id, fun _ _ => id⟩
  case h_5 =>
    split at hstep
    · cases hstep
      unfold execute
      split
      · refine ⟨Int.le_refl _, fun _ => id, fun _ _ ⟨x, hx, hcomputed⟩ => ?_⟩
        exact ⟨x, List.mem_append_left _ hx, hcomputed⟩
      · exact ⟨Int.le_refl _, fun _ => id, fun _ _ => id⟩
    · cases hstep
  all_goals
    obtain ⟨session, hget, hstep⟩ := Option.bind_eq_some_iff.mp hstep
    obtain ⟨hclock, hissued, b, hsessions, hoperation, hcompleted, hanswer⟩ :=
      step_session_grows (hinv.sound session (List.mem_of_getElem? hget)) hstep
    rw [hclock, hissued, hsessions]
    exact ⟨Int.le_refl _, fun _ => id, fun _ _ h => h.set hget hoperation hcompleted hanswer⟩

theorem Settled.step (hstep : step sha256 from_worker s action = some s') (hissued : operation ∈ s.issued)
    (h : Settled s.slots operation time) : Settled s'.slots operation time := by
  intro slot' hslot' hid
  rcases (step_edits hstep).evolves hslot' with ⟨slot, hslot, hsame, hfinished⟩ | ⟨hfresh, _⟩
  · obtain ⟨hrunning, finished_at, hat, hle⟩ := h slot hslot (by rw [← hsame, hid])
    rcases hfinished with ⟨heq, hkept⟩ | ⟨hopen, _⟩
    · exact ⟨hkept hrunning, finished_at, by rw [heq, hat], hle⟩
    · exact absurd hopen hrunning
  · rw [hid] at hfresh
    exact absurd (List.mem_map_of_mem hissued) hfresh

theorem Reviewed.step (hinv : Inv sha256 from_worker s) (hstep : step sha256 from_worker s action = some s')
    (h : Reviewed s source digest operation_id time) : Reviewed s' source digest operation_id time := by
  obtain ⟨id, hid, hissued, ⟨result, hcomputed, hdigest⟩, hsettled⟩ := h
  obtain ⟨_, hgrows, hcomputes⟩ := step_grows hinv hstep
  exact ⟨id, hid, hgrows _ hissued, ⟨result, hcomputes _ _ hcomputed, hdigest⟩, hsettled.step hstep hissued⟩

/-- No operation is finished in the future. -/
def Timely (s : State) : Prop :=
  ∀ source kind slot finished_at, s.slots source kind = some slot →
    slot.finished_at = some finished_at → finished_at ≤ s.clock

theorem Timely.step (hinv : Inv sha256 from_worker s) (h : Timely s)
    (hstep : step sha256 from_worker s action = some s') : Timely s' := by
  intro source kind slot' finished_at hslot' hfinished
  have hclock := (step_grows hinv hstep).1
  rcases (step_edits hstep).evolves hslot' with ⟨slot, hslot, _, ⟨hsame, _⟩ | ⟨_, hnow⟩⟩ | ⟨_, hnone⟩
  · exact Int.le_trans (h source kind slot finished_at hslot (by rw [← hsame, hfinished])) hclock
  · rw [hnow] at hfinished
    cases hfinished
    exact hclock
  · rw [hnone] at hfinished
    cases hfinished

/-- A plan that passes the review has been completed by now. -/
theorem reviewed_of_current_plan (hinv : Inv sha256 from_worker s) (htimely : Timely s)
    (h : current_plan s source digest operation_id = .ok result) : Reviewed s source digest operation_id s.clock := by
  obtain ⟨slot, hslot, hid, hready, hresult, hdigest, finished_at, hfinished⟩ := current_plan_ok h
  refine ⟨slot.operation_id, hid, hinv.slot_issued source .PLAN slot hslot,
    ⟨result, hinv.provenance source .PLAN slot result hslot hresult, hdigest⟩, ?_⟩
  intro slot' hslot' _
  rw [hslot] at hslot'
  cases hslot'
  exact ⟨by simp [hready], finished_at, hfinished, htimely source .PLAN slot finished_at hslot hfinished⟩

theorem current_of_current_plan (h : current_plan s source digest operation_id = .ok result) :
    Current s source digest operation_id := by
  obtain ⟨slot, hslot, hid, hready, hresult, hdigest, _⟩ := current_plan_ok h
  exact ⟨slot, hslot, hid, .inl ⟨hready, result, hresult, hdigest⟩⟩

theorem Reviewed.mono {time' : Int} (h : Reviewed s source digest operation_id time) (hle : time ≤ time') :
    Reviewed s source digest operation_id time' := by
  obtain ⟨id, hid, hissued, hresult, hsettled⟩ := h
  refine ⟨id, hid, hissued, hresult, fun slot hslot hsame => ?_⟩
  obtain ⟨hrunning, finished_at, hfinished, hat⟩ := hsettled slot hslot hsame
  exact ⟨hrunning, finished_at, hfinished, Int.le_trans hat hle⟩

/-- Two reviews of one operation were of the same plan of the same source. -/
theorem Reviewed.same (h : Inv sha256 from_worker s) {digest' : String} {time' : Int}
    (hreviewed : Reviewed s source digest operation_id time)
    (hreviewed' : Reviewed s source' digest' operation_id time') : source = source' ∧ digest = digest' := by
  obtain ⟨id, hid, hissued, ⟨result, hcomputed, hdigest⟩, _⟩ := hreviewed
  obtain ⟨id', hid', hissued', ⟨result', hcomputed', hdigest'⟩, _⟩ := hreviewed'
  obtain rfl := id_text_injective (hid.trans hid'.symm)
  have hsame := h.operation_eq hissued hissued' rfl
  injection hsame with hsource
  subst hsource
  rw [h.computed_unique hcomputed hcomputed'] at hdigest
  rw [hdigest] at hdigest'
  exact ⟨rfl, by simpa using hdigest'⟩

/-- The steps that need the gate of a source. -/
def gated (source : String) : Action → Bool
  | .start source' _ _ | .invalidate_plan source' _ => source' = source
  | _ => false

theorem Current.latest (h : Current s source digest operation_id) (source' : String) :
    Current (latest s source') source digest operation_id := by
  obtain ⟨slot, hslot, hid, hstatus⟩ := h
  by_cases hsource : source = source'
  · refine ⟨refresh s source .PLAN slot, by simp [source_operations.latest, ← hsource, hslot], ?_⟩
    have hrunning : slot.status ≠ .RUNNING := by
      rcases hstatus with ⟨hready, _⟩ | ⟨hstale, _⟩
      · simp [hready]
      · simp [hstale]
    unfold refresh
    rw [if_neg hrunning]
    split
    next hexpired =>
      rw [Option.any_eq_true] at hexpired
      obtain ⟨_, finished_at, hfinished, hlt⟩ := hexpired
      exact ⟨hid, .inr ⟨rfl, finished_at, hfinished, of_decide_eq_true hlt⟩⟩
    next => exact ⟨hid, hstatus⟩
  · exact ⟨slot, by simp [source_operations.latest, hsource, hslot], hid, hstatus⟩

theorem Current.of_slots (h : Current s source digest operation_id)
    (hslots : s'.slots source .PLAN = s.slots source .PLAN) (hclock : s.clock ≤ s'.clock) :
    Current s' source digest operation_id := by
  obtain ⟨slot, hslot, hid, hstatus⟩ := h
  refine ⟨slot, by rw [hslots, hslot], hid, ?_⟩
  rcases hstatus with hready | ⟨hstale, finished_at, hfinished, hlt⟩
  · exact .inl hready
  · exact .inr ⟨hstale, finished_at, hfinished, by omega⟩

theorem complete_of_not_running {c : Completion} (hslot : s.slots source kind = some slot)
    (hrunning : slot.status ≠ .RUNNING) : complete s operation c source kind = some slot := by
  simp [complete, update_where, hslot, hrunning]

theorem Current.not_running (h : Current s source digest operation_id) :
    ∃ slot, s.slots source .PLAN = some slot ∧ slot.status ≠ .RUNNING := by
  obtain ⟨slot, hslot, _, ⟨hready, _⟩ | ⟨hstale, _⟩⟩ := h
  · exact ⟨slot, hslot, by simp [hready]⟩
  · exact ⟨slot, hslot, by simp [hstale]⟩

/-- While the gate of the source is taken, a plan that passed the review stays the current one. -/
theorem Current.step (hinv : Inv sha256 from_worker s) (h : Current s source digest operation_id)
    (hgate : gated source action = false) (hstep : step sha256 from_worker s action = some s') :
    Current s' source digest operation_id := by
  have hclock := (step_grows hinv hstep).1
  have hedits := step_edits hstep
  generalize hslots : s'.slots = slots at hedits
  cases hedits with
  | none => exact h.of_slots (by rw [hslots]) hclock
  | latest source' =>
    obtain ⟨slot, hslot, hcurrent⟩ := h.latest source'
    cases hstep
    exact ⟨slot, hslot, hcurrent⟩
  | start source' =>
    refine h.of_slots ?_ hclock
    have hne : source ≠ source' := Ne.symm (of_decide_eq_false hgate)
    rw [hslots]
    unfold start
    split
    · rfl
    · simp [hne]
  | invalidate_plan source' =>
    refine h.of_slots ?_ hclock
    have hne : source ≠ source' := Ne.symm (of_decide_eq_false hgate)
    rw [hslots]
    simp [invalidate_plan, update_where, hne]
  | complete =>
    obtain ⟨slot, hslot, hrunning⟩ := h.not_running
    refine h.of_slots ?_ hclock
    rw [hslots, hslot]
    exact complete_of_not_running hslot hrunning

end netbox_sync.source_operations
