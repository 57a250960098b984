import NetboxSync.Runs.Manual

open json

namespace netbox_sync.apply_worker

open run_history source_operations

variable {sha256 : String → String} {from_worker : OperationKind → Fields → Bool}

def Call.run_id (call : Call) : Option Int :=
  match call.request with
  | .apply _ run_id => some run_id
  | .prepare _ _ => none

/-- The operation whose plan the call has a confirmation for. -/
def Call.operation (call : Call) : Option String := call.claims.bind (fun claims => claims.operation_id)

/-- The call has passed `current_plan` and has not left the gate. -/
def Call.reviewing (call : Call) : Bool :=
  call.point = .current || call.point = .unblocked || call.point = .unused || call.point = .planned ||
    call.point = .reloaded || call.point = .bound

/-- The call has passed `plan_used` and its child is next. -/
def Call.fenced (call : Call) : Bool :=
  call.is_apply && call.alive && (call.point = .unused || call.point = .reloaded || call.point = .bound)

/-- The call has the confirmation of its own actor. -/
def Call.admitted (call : Call) : Bool :=
  call.point = .consumed || call.point = .locked || call.point = .gated || call.reviewing ||
    call.child_started

/-- The claims come from a token that was handed out for the source before the call began, and was young enough when
    it was consumed. -/
def Licensed (s : State) (call : Call) (claims : ConfirmationClaims) : Prop :=
  ∃ issue ∈ s.issues, call.token = some issue.token ∧ issue.claims = claims ∧
    issue.time ≤ call.began ∧ issue.source = call.source ∧
    ∃ time, call.consumed_at = some time ∧ time < issue.time + seconds TTL_SECONDS

/-- The run of the call is on record. -/
def Call.Recorded (s : State) (call : Call) (run : SyncRun) : Prop :=
  ∃ run_id, call.run_id = some run_id ∧ s.runs.get run_id = some run ∧
    run.source_instance = call.source ∧ run.started_at = call.began

/-- The points of a call on its way out. -/
def Point.out (point : Point) : Bool := point = .leaving || point = .ungated || point = .unlocked || point = .closed

structure Call.Sound (s : State) (call : Call) : Prop where
  review : call.reviewing = true → ∃ digest operation_id, call.review = some (digest, some operation_id) ∧
    Reviewed s.operations call.source digest operation_id s.clock ∧
    (call.alive = true → Current s.operations call.source digest operation_id)
  planned : call.point = .planned → call.is_apply = false ∧ ∀ claims, call.claims = some claims →
    claims.source_instance = call.source ∧ claims.actor_id = call.actor_id ∧
      call.review = some (claims.plan_digest, claims.operation_id)
  admitted : call.is_apply = true → call.admitted = true →
    ∃ claims, call.claims = some claims ∧ claims.actor_id = call.actor_id
  licensed : call.is_apply = true → ∀ claims, call.claims = some claims → Licensed s call claims
  earlier : ∀ issue ∈ s.issues, call.token = some issue.token → issue.time ≤ call.began
  opened : call.is_apply = true → call.point ≠ .called → call.point ≠ .closed → call.recorded = true
  recorded : call.recorded = true → ∃ run, call.Recorded s run ∧
    (call.point = .bound ∨ call.child_started = true →
      ∃ claims, call.claims = some claims ∧ run.plan_digest = some claims.plan_digest)
  started : call.child_started = true → call.recorded = true
  fresh : call.child_started = true → call.point = .applying ∨ call.point.out = true
  running : call.point = .applying → call.child_started = true
  confirmed : call.is_apply = true → ∀ result, call.result = some result → call.child_started = true ∧
    ∃ claims, call.claims = some claims ∧ dict.get result "plan_digest" = some (.str claims.plan_digest)

/-- What two calls cannot both do. -/
structure Apart (a b : Call) : Prop where
  gate : a.source = b.source → a.holds_gate = true → b.holds_gate = false
  flock : a.holds_flock = true → b.holds_flock = false
  token : a.consumed_at ≠ none → b.consumed_at ≠ none → a.token ≠ b.token
  run : a.recorded = true → b.recorded = true → a.run_id ≠ b.run_id
  once : a.child_started = true → b.child_started = true → a.operation ≠ b.operation
  fence : a.fenced = true → b.child_started = true → a.operation ≠ b.operation
  fence' : b.fenced = true → a.child_started = true → a.operation ≠ b.operation

variable {a b call x : Call} {s s' : State} {i : Nat} {point : Point} {reviewed : Fields}
  {source digest operation_id token : String} {statement : Statement} {claims : ConfirmationClaims} {run_id : Int}
  {runs : Table SyncRun} {commit : Commit}

theorem Apart.symm (h : Apart a b) : Apart b a where
  gate hsource hb := by
    cases ha : a.holds_gate with
    | false => rfl
    | true => rw [h.gate hsource.symm ha] at hb; cases hb
  flock hb := by
    cases ha : a.holds_flock with
    | false => rfl
    | true => rw [h.flock ha] at hb; cases hb
  token hb ha := (h.token ha hb).symm
  run hb ha := (h.run ha hb).symm
  once hb ha := (h.once ha hb).symm
  fence hb ha := (h.fence' hb ha).symm
  fence' ha hb := (h.fence ha hb).symm

/-- A token on record: `prepare` reviewed its plan before it handed it out. -/
def Issue.Sound (s : State) (issue : Issue) : Prop :=
  issue.claims.source_instance = issue.source ∧ issue.claims.actor_id = issue.actor_id ∧
    issue.time ≤ s.clock ∧ ∃ operation_id, issue.claims.operation_id = some operation_id ∧
      Reviewed s.operations issue.source issue.claims.plan_digest operation_id issue.time

def Entry.Sound (s : State) (entry : Entry) : Prop :=
  (∃ issue ∈ s.issues, issue.token = entry.token ∧ issue.claims = entry.claims ∧
    entry.expires = issue.time + seconds TTL_SECONDS) ∧
  ∀ call ∈ s.calls, call.consumed_at ≠ none → call.token ≠ some entry.token

structure Invariant (sha256 : String → String) (from_worker : OperationKind → Fields → Bool) (s : State) : Prop where
  operations : source_operations.Inv sha256 from_worker s.operations
  timely : Timely s.operations
  issues : ∀ issue ∈ s.issues, issue.Sound s
  entries : ∀ entry ∈ s.entries, entry.Sound s
  sound : ∀ call ∈ s.calls, call.Sound s
  apart : ∀ (i j : Nat) (a b : Call), i ≠ j → s.calls[i]? = some a → s.calls[j]? = some b → Apart a b

theorem inv_init (h : (machine sha256 from_worker).init s) : Invariant sha256 from_worker s := by
  obtain ⟨hoperations, hentries, hissues, hcalls⟩ := h
  refine ⟨source_operations.inv_init hoperations, ?_, ?_, ?_, ?_, ?_⟩
  · obtain ⟨hslots, _⟩ := hoperations
    simp [Timely, hslots]
  · simp [hissues]
  · simp [hentries]
  · simp [hcalls]
  · simp [hcalls]

theorem Call.holds_gate_of_reviewing (halive : call.alive = true) (h : call.reviewing = true) :
    call.holds_gate = true := by
  simp only [reviewing, Bool.or_eq_true, decide_eq_true_eq] at h
  simp only [holds_gate, halive, Bool.true_and, Bool.or_eq_true, decide_eq_true_eq]
  tauto

theorem Call.holds_flock_of_fenced (h : call.fenced = true) : call.holds_flock = true := by
  simp only [fenced, Bool.and_eq_true, Bool.or_eq_true, decide_eq_true_eq] at h
  simp only [holds_flock, Bool.and_eq_true, Bool.or_eq_true, decide_eq_true_eq]
  tauto

section

variable (h : Invariant sha256 from_worker s)
include h

theorem invariant_operation {action : source_operations.Action} {operations : source_operations.State}
    (hgate : s.calls.any (fun call => call.holds_gate && gated call.source action) = false)
    (hstep : source_operations.step sha256 from_worker s.operations action = some operations) :
    Invariant sha256 from_worker { s with operations } := by
  have hclock := (step_grows h.operations hstep).1
  constructor
  · exact inv_step h.operations hstep
  · exact h.timely.step h.operations hstep
  · intro issue hissue
    obtain ⟨hsource, hactor, htime, operation_id, hid, hreviewed⟩ := h.issues issue hissue
    exact ⟨hsource, hactor, Int.le_trans htime hclock, operation_id, hid, hreviewed.step h.operations hstep⟩
  · exact h.entries
  · intro call hcall
    have hsound := h.sound call hcall
    refine { hsound with review := ?_ }
    intro hreviewing
    obtain ⟨digest, operation_id, hreview, hreviewed, hcurrent⟩ := hsound.review hreviewing
    refine ⟨digest, operation_id, hreview, (hreviewed.step h.operations hstep).mono hclock, ?_⟩
    -- A call that is reviewing has the gate, so the step is none that needs it.
    intro halive
    have hfree := List.any_eq_false.mp hgate call hcall
    rw [Call.holds_gate_of_reviewing halive hreviewing, Bool.true_and, Bool.not_eq_true] at hfree
    exact (hcurrent halive).step h.operations hfree hstep
  · exact h.apart

/-- A call that has just begun. -/
theorem sound_new (source : String) (actor_id : Option String) (request : Request) :
    ({ source, actor_id, request, began := s.clock } : Call).Sound s := by
  constructor
  case earlier =>
    intro issue hissue _
    exact (h.issues issue hissue).2.2.1
  all_goals simp [Call.reviewing, Call.admitted]

theorem invariant_new (source : String) (actor_id : Option String) (request : Request) :
    Invariant sha256 from_worker
      { s with calls := s.calls ++ [{ source, actor_id, request, began := s.clock }] } := by
  have hnew : ∀ x, Apart { source, actor_id, request, began := s.clock } x := by
    intro x
    constructor <;> simp [Call.holds_gate, Call.holds_flock, Call.fenced]
  constructor
  · exact h.operations
  · exact h.timely
  · exact h.issues
  · intro entry hentry
    obtain ⟨hissue, hunused⟩ := h.entries entry hentry
    refine ⟨hissue, fun call hcall hconsumed => ?_⟩
    rcases List.mem_append.mp hcall with hcall | hcall
    · exact hunused call hcall hconsumed
    · cases List.mem_singleton.mp hcall
      exact absurd rfl hconsumed
  · intro call hcall
    rcases List.mem_append.mp hcall with hcall | hcall
    · exact { h.sound call hcall with }
    · cases List.mem_singleton.mp hcall
      exact { sound_new h source actor_id request with }
  · intro i j a b hij ha hb
    rcases List.getElem?_concat_eq_some ha with ha | ⟨_, rfl⟩
    · rcases List.getElem?_concat_eq_some hb with hb | ⟨_, rfl⟩
      · exact h.apart i j a b hij ha hb
      · exact (hnew a).symm
    · exact hnew b

theorem invariant_crash :
    Invariant sha256 from_worker
      { s with entries := [], calls := s.calls.map (fun call => { call with alive := false }) } := by
  constructor
  · exact h.operations
  · exact h.timely
  · exact h.issues
  · simp
  · intro call hcall
    obtain ⟨call, hbefore, rfl⟩ := List.mem_map.mp hcall
    have hsound := h.sound call hbefore
    refine { hsound with review := ?_ }
    intro hreviewing
    obtain ⟨digest, operation_id, hreview, hreviewed, _⟩ := hsound.review hreviewing
    exact ⟨digest, operation_id, hreview, hreviewed, by simp⟩
  · intro i j a b hij ha hb
    rw [List.getElem?_map, Option.map_eq_some_iff] at ha hb
    obtain ⟨a, ha, rfl⟩ := ha
    obtain ⟨b, hb, rfl⟩ := hb
    have hapart := h.apart i j a b hij ha hb
    -- A dead call holds no gate, and the lock file only through its child.
    have hflock : ∀ call : Call, ({ call with alive := false } : Call).holds_flock = true →
        call.holds_flock = true := by
      intro call
      simp only [Call.holds_flock, Bool.and_eq_true, Bool.or_eq_true, decide_eq_true_eq]
      rintro ⟨hkind, hpoint | ⟨⟨⟩, _⟩⟩
      exact ⟨hkind, .inl hpoint⟩
    refine { hapart with
      gate := by simp [Call.holds_gate]
      flock := ?_
      fence := by simp [Call.fenced]
      fence' := by simp [Call.fenced] }
    intro ha
    by_contra hb
    rw [Bool.not_eq_false] at hb
    have hnot := hapart.flock (hflock a ha)
    rw [hflock b hb] at hnot
    cases hnot

/-- One call is replaced by its next state. -/
theorem Invariant.put (hget : s.calls[i]? = some a) (hsound : b.Sound s)
    (hapart : ∀ j x, j ≠ i → s.calls[j]? = some x → Apart b x)
    (hentries : b.consumed_at ≠ none → ∀ entry ∈ s.entries, b.token ≠ some entry.token) :
    Invariant sha256 from_worker (s.put i b) := by
  constructor
  · exact h.operations
  · exact h.timely
  · exact h.issues
  · intro entry hentry
    obtain ⟨hissue, hunused⟩ := h.entries entry hentry
    refine ⟨hissue, fun call hcall hconsumed => ?_⟩
    rcases List.mem_or_eq_of_mem_set hcall with hcall | rfl
    · exact hunused call hcall hconsumed
    · exact hentries hconsumed entry hentry
  · intro call hcall
    rcases List.mem_or_eq_of_mem_set hcall with hcall | rfl
    · exact { h.sound call hcall with }
    · exact { hsound with }
  · intro j k x y hjk hx hy
    have hi : i < s.calls.length := (List.getElem?_eq_some_iff.mp hget).1
    simp only [State.put, List.getElem?_set, hi, if_true] at hx hy
    split at hx
    next hj =>
      cases hx
      rw [if_neg (hj ▸ hjk)] at hy
      exact hapart k y (hj ▸ Ne.symm hjk) hy
    next hj =>
      split at hy
      next hk =>
        cases hy
        exact (hapart j x (Ne.symm hj) hx).symm
      next => exact h.apart j k x y hjk hx hy

/-- The same where no token is consumed. -/
theorem Invariant.put_unconsumed (hget : s.calls[i]? = some a) (hsound : b.Sound s)
    (hapart : ∀ x ∈ s.calls, Apart a x → Apart b x) (hconsumed : b.consumed_at = a.consumed_at)
    (htoken : b.token = a.token) : Invariant sha256 from_worker (s.put i b) := by
  refine h.put hget hsound ?_ ?_
  · intro j x hji hx
    exact hapart x (List.mem_of_getElem? hx) (h.apart i j a x (Ne.symm hji) hget hx)
  · intro hused entry hentry
    rw [htoken]
    exact (h.entries entry hentry).2 a (List.mem_of_getElem? hget) (hconsumed ▸ hused)

theorem Invariant.at (hget : s.calls[i]? = some a) : a.Sound s := h.sound a (List.mem_of_getElem? hget)

end

/-- A step that only moves the call on: it takes no lock and passes no check. -/
structure Moves (a b : Call) : Prop where
  source : b.source = a.source
  request : b.request = a.request
  consumed_at : b.consumed_at = a.consumed_at
  recorded : b.recorded = a.recorded
  claims : b.claims = a.claims
  child_started : b.child_started = a.child_started
  gate : b.holds_gate = true → a.holds_gate = true
  flock : b.holds_flock = true → a.holds_flock = true
  fenced : b.fenced = true → a.fenced = true

theorem Moves.apart (h : Moves a b) (hapart : Apart a x) : Apart b x := by
  have htoken : b.token = a.token := by rw [Call.token, Call.token, h.request]
  have hrun : b.run_id = a.run_id := by rw [Call.run_id, Call.run_id, h.request]
  have hoperation : b.operation = a.operation := by rw [Call.operation, Call.operation, h.claims]
  constructor
  · intro hsource hgate
    exact hapart.gate (by rw [← h.source, hsource]) (h.gate hgate)
  · exact fun hflock => hapart.flock (h.flock hflock)
  · rw [h.consumed_at, htoken]
    exact hapart.token
  · rw [h.recorded, hrun]
    exact hapart.run
  · rw [h.child_started, hoperation]
    exact hapart.once
  · rw [hoperation]
    exact fun hfenced => hapart.fence (h.fenced hfenced)
  · rw [h.child_started, hoperation]
    exact hapart.fence'

theorem Invariant.move (h : Invariant sha256 from_worker s) (hget : s.calls[i]? = some a) (hmoves : Moves a b)
    (hsound : b.Sound s) : Invariant sha256 from_worker (s.put i b) := by
  have htoken : b.token = a.token := by rw [Call.token, Call.token, hmoves.request]
  exact h.put_unconsumed hget hsound (fun _ _ hapart => hmoves.apart hapart) hmoves.consumed_at htoken

/-- A call that moves on keeps its run. -/
theorem Call.Sound.keeps_run (h : call.Sound s) (hpoint : point ≠ .bound) (hrecorded : call.recorded = true) :
    ∃ run, ({ call with point, reviewed } : Call).Recorded s run ∧
      (point = .bound ∨ call.child_started = true →
        ∃ claims, call.claims = some claims ∧ run.plan_digest = some claims.plan_digest) := by
  obtain ⟨run, hrun, hplan⟩ := h.recorded hrecorded
  exact ⟨run, hrun, fun hbound => hplan (.inr (hbound.resolve_left hpoint))⟩

/-- A call that leaves keeps what is on record. -/
theorem Call.Sound.out (h : call.Sound s) (hout : point.out = true)
    (hrecorded : call.is_apply = true → point ≠ .closed → call.recorded = true) :
    ({ call with point } : Call).Sound s := by
  simp only [Point.out, Bool.or_eq_true, decide_eq_true_eq] at hout
  have hreviewing : ({ call with point } : Call).reviewing = false := by
    rcases hout with ((rfl | rfl) | rfl) | rfl <;> rfl
  refine { h with
    review := by simp [hreviewing]
    planned := ?_
    admitted := ?_
    opened := fun hkind _ hclosed => hrecorded hkind hclosed
    recorded := h.keeps_run ?_
    fresh := fun _ => .inr ?_
    running := ?_ }
  · rintro rfl
    simp at hout
  · intro hkind hadmitted
    refine h.admitted hkind ?_
    -- Only the child that was started keeps the call in.
    rw [Call.admitted, hreviewing] at hadmitted
    rcases hout with ((rfl | rfl) | rfl) | rfl <;> simpa [Call.admitted] using Or.inr hadmitted
  · rintro rfl
    simp at hout
  · rcases hout with ((rfl | rfl) | rfl) | rfl <;> rfl
  · rintro rfl
    simp at hout

/-- The run of a call is on record for `apply` only. -/
theorem Call.Sound.is_apply_of_recorded (h : call.Sound s) (hrecorded : call.recorded = true) :
    call.is_apply = true := by
  obtain ⟨run, ⟨run_id, hid, _⟩, _⟩ := h.recorded hrecorded
  rw [Call.run_id] at hid
  split at hid
  next hrequest => rw [is_apply, hrequest]
  next => cases hid

/-- A child that was started is past the checks. -/
theorem Call.Sound.unstarted (h : call.Sound s) (hpoint : call.point ≠ .applying ∧ call.point.out = false) :
    call.child_started = false := by
  cases hstarted : call.child_started with
  | false => rfl
  | true =>
    rcases h.fresh hstarted with happlying | hleft
    · exact absurd happlying hpoint.1
    · rw [hpoint.2] at hleft
      cases hleft

/-- On the way out nothing is taken that was not held. -/
theorem moves_out {result : Option Fields}
    (hgate : ({ a with point, result } : Call).holds_gate = true → a.holds_gate = true)
    (hflock : ({ a with point, result } : Call).holds_flock = true → a.holds_flock = true) (hout : point.out = true) :
    Moves a { a with point, result } where
  source := rfl
  request := rfl
  consumed_at := rfl
  recorded := rfl
  claims := rfl
  child_started := rfl
  gate := hgate
  flock := hflock
  fenced := by
    simp only [Point.out, Bool.or_eq_true, decide_eq_true_eq] at hout
    rcases hout with ((rfl | rfl) | rfl) | rfl <;> simp [Call.fenced]

/-- A call of `apply` under the gate holds the lock file, and its run is open. -/
theorem Call.Sound.locked (h : call.Sound s) (hgate : call.holds_gate = true) (hkind : call.is_apply = true) :
    call.holds_flock = true ∧ call.recorded = true := by
  simp only [holds_gate, Bool.and_eq_true, Bool.or_eq_true, decide_eq_true_eq] at hgate
  obtain ⟨halive, hpoint⟩ := hgate
  have hplanned : call.point ≠ .planned := by
    intro hpoint
    rw [(h.planned hpoint).1] at hkind
    cases hkind
  constructor
  · simp only [holds_flock, hkind, halive, Bool.true_and, Bool.or_eq_true, decide_eq_true_eq]
    tauto
  · refine h.opened hkind ?_ ?_ <;> rintro heq <;> simp [heq] at hpoint

theorem Invariant.leaving (h : Invariant sha256 from_worker s) {result : Option Fields}
    (hget : s.calls[i]? = some a) (hgate : a.holds_gate = true)
    (hresult : a.is_apply = true → ∀ value, result = some value → a.child_started = true ∧
      ∃ claims, a.claims = some claims ∧ dict.get value "plan_digest" = some (.str claims.plan_digest)) :
    Invariant sha256 from_worker (s.put i { a with point := .leaving, result }) := by
  have hsound := h.at hget
  have hflock := hsound.locked hgate
  refine h.move hget (moves_out (fun _ => hgate) ?_ rfl) ?_
  · intro hlock
    simp only [Call.holds_flock, Bool.and_eq_true] at hlock
    exact (hflock hlock.1).1
  · exact { hsound.out rfl (fun hkind _ => (hflock hkind).2) with confirmed := hresult }

theorem Point.raised_out (point : Point) : point.raised.out = true := by
  cases point <;> rfl

theorem invariant_fail (h : Invariant sha256 from_worker s) (hget : s.calls[i]? = some a) :
    Invariant sha256 from_worker (s.put i { a with point := a.point.raised }) := by
  have hsound := h.at hget
  refine h.move hget (moves_out ?_ ?_ a.point.raised_out) ?_
  · simp only [Call.holds_gate, Bool.and_eq_true]
    rintro ⟨halive, hpoint⟩
    refine ⟨halive, ?_⟩
    cases hp : a.point <;> simp [hp, Point.raised] at hpoint ⊢
  · simp only [Call.holds_flock, Bool.and_eq_true]
    rintro ⟨hkind, hpoint⟩
    refine ⟨hkind, ?_⟩
    cases hp : a.point
    case planned =>
      have hprepare := (hsound.planned hp).1
      rw [show a.is_apply = true from hkind] at hprepare
      cases hprepare
    all_goals simp_all [Point.raised]
  · refine hsound.out a.point.raised_out (fun hkind hclosed => hsound.opened hkind ?_ ?_)
    · intro hcalled
      rw [hcalled] at hclosed
      exact hclosed rfl
    · intro hpoint
      rw [hpoint] at hclosed
      exact hclosed rfl

theorem State.gate_free_holds (h : s.gate_free source = true) (hcall : call ∈ s.calls)
    (hsource : call.source = source) : call.holds_gate = false := by
  have hfree := List.all_eq_true.mp h call hcall
  simpa [hsource] using hfree

theorem State.flock_free_holds (h : s.flock_free = true) (hcall : call ∈ s.calls) : call.holds_flock = false := by
  simpa using List.all_eq_true.mp h call hcall

theorem review_guard_ok {ops : source_operations.State} {operation_id : Option String}
    (h : review_guard ops source digest operation_id = .ok reviewed) :
    ∃ id, operation_id = some id ∧ current_plan ops source digest id = .ok reviewed := by
  unfold review_guard at h
  split at h
  · cases h
  · exact ⟨_, rfl, h⟩

section

variable (h : Invariant sha256 from_worker s)
include h

/-- The plan of a child that was started is used: its run is on record, and it began after the plan was finished. -/
theorem Invariant.used (hx : x ∈ s.calls) (hstarted : x.child_started = true) {time finished_at : Int}
    (hreviewed : Reviewed s.operations source digest operation_id time)
    (htime : plan_time s.operations source operation_id = .ok finished_at)
    (hoperation : x.operation = some operation_id) : plan_used s.runs source digest finished_at = true := by
  have hsound := h.sound x hx
  have hrecorded := hsound.started hstarted
  have hkind := hsound.is_apply_of_recorded hrecorded
  obtain ⟨run, ⟨run_id, _, hrun, hsource, hbegan⟩, hplan⟩ := hsound.recorded hrecorded
  obtain ⟨claims, hclaims, hdigest⟩ := hplan (.inr hstarted)
  obtain ⟨issue, hissue, _, hissued, hearlier, hissuer, _⟩ := hsound.licensed hkind claims hclaims
  obtain ⟨_, _, _, operation_id', hid, hreview⟩ := h.issues issue hissue
  rw [hissued] at hid hreview
  rw [Call.operation, hclaims, Option.bind_some, hid] at hoperation
  cases hoperation
  obtain ⟨hsame, hdigests⟩ := hreviewed.same h.operations hreview
  -- The plan was finished before the token was handed out, and the run began later.
  obtain ⟨slot, hslot, hslotid, hfinished⟩ := plan_time_ok htime
  obtain ⟨id, hidtext, _, _, hsettled⟩ := hreview
  rw [← hsame] at hsettled
  obtain ⟨_, finished, hat, hle⟩ := hsettled slot hslot (id_text_injective (hslotid.trans hidtext.symm))
  rw [hfinished] at hat
  cases hat
  refine List.any_eq_true.mpr ⟨run, (Table.mem_of_get hrun).1, ?_⟩
  simp only [Bool.and_eq_true, decide_eq_true_eq]
  refine ⟨⟨?_, ?_⟩, ?_⟩
  · rw [hsource, ← hissuer, hsame]
  · rw [hdigest, hdigests]
  · rw [hbegan]
    exact Int.le_trans hle hearlier

/-- A token nobody has seen before goes on record. -/
theorem Invariant.issue {actor_id : Option String} {entries : List Entry}
    (hcalls : ∀ call ∈ s.calls, call.token ≠ some token)
    (hentries : apply_worker.issue s.entries s.clock token claims = some entries)
    (hsource : claims.source_instance = source) (hactor : claims.actor_id = actor_id)
    (hid : claims.operation_id = some operation_id)
    (hreviewed : Reviewed s.operations source claims.plan_digest operation_id s.clock) :
    Invariant sha256 from_worker { s with
      entries
      issues := s.issues ++ [{ token, source, actor_id, claims, time := s.clock }] } := by
  have hsub : ∀ issue ∈ s.issues, issue ∈ s.issues ++ [{ token, source, actor_id, claims, time := s.clock }] :=
    fun _ => List.mem_append_left _
  constructor
  · exact h.operations
  · exact h.timely
  · intro issue hissue
    rcases List.mem_append.mp hissue with hissue | hissue
    · exact h.issues issue hissue
    · cases List.mem_singleton.mp hissue
      exact ⟨hsource, hactor, Int.le_refl _, operation_id, hid, hreviewed⟩
  · intro entry hentry
    unfold apply_worker.issue at hentries
    dsimp only at hentries
    split at hentries
    · cases hentries
    · cases hentries
      rcases List.mem_append.mp hentry with hentry | hentry
      · obtain ⟨⟨issue, hissue, hsame⟩, hunused⟩ := h.entries entry (List.mem_of_mem_filter hentry)
        exact ⟨⟨issue, hsub issue hissue, hsame⟩, hunused⟩
      · cases List.mem_singleton.mp hentry
        refine ⟨⟨_, List.mem_append_right _ List.mem_cons_self, rfl, rfl, rfl⟩, ?_⟩
        exact fun call hcall _ => hcalls call hcall
  · intro call hcall
    have hsound := h.sound call hcall
    refine { hsound with licensed := ?_, earlier := ?_ }
    · intro hkind claims' hclaims
      obtain ⟨issue, hissue, hlicence⟩ := hsound.licensed hkind claims' hclaims
      exact ⟨issue, hsub issue hissue, hlicence⟩
    · intro issue hissue htoken
      rcases List.mem_append.mp hissue with hissue | hissue
      · exact hsound.earlier issue hissue htoken
      · cases List.mem_singleton.mp hissue
        exact absurd htoken (hcalls call hcall)
  · exact h.apart

/-- A run is opened; the rows there are stay. -/
theorem Invariant.keep_runs (hkeeps : ∀ id run, s.runs.get id = some run → runs.get id = some run) :
    Invariant sha256 from_worker { s with runs } := by
  refine { h with sound := ?_, apart := h.apart }
  intro call hcall
  have hsound := h.sound call hcall
  refine { hsound with recorded := ?_ }
  intro hopen
  obtain ⟨run, ⟨id, hid, hrun, hrest⟩, hplan⟩ := hsound.recorded hopen
  exact ⟨run, ⟨id, hid, hkeeps id run hrun, hrest⟩, hplan⟩

theorem Invariant.pop (p : Entry → Bool) : Invariant sha256 from_worker { s with entries := s.entries.filter p } :=
  { h with
    entries := fun entry hentry => h.entries entry (List.mem_of_mem_filter hentry)
    sound := fun call hcall => { h.sound call hcall with }
    apart := h.apart }

variable (hget : s.calls[i]? = some a)
include hget

/-- The gate is taken while nobody has it. -/
theorem invariant_gate (halive : a.alive = true)
    (hpoint : a.point = if a.is_apply then .locked else .called) (hfree : s.gate_free a.source = true) :
    Invariant sha256 from_worker (s.put i { a with point := .gated }) := by
  have hsound := h.at hget
  have hflock : a.is_apply = true → a.holds_flock = true ∧ a.admitted = true ∧ a.recorded = true := by
    intro hkind
    rw [hkind, if_pos rfl] at hpoint
    refine ⟨by simp [Call.holds_flock, hkind, hpoint, halive], by simp [Call.admitted, hpoint], ?_⟩
    exact hsound.opened hkind (by simp [hpoint]) (by simp [hpoint])
  refine h.put_unconsumed hget ?_ ?_ rfl rfl
  · refine { hsound with
      review := by simp [Call.reviewing]
      planned := by simp
      admitted := fun hkind _ => hsound.admitted hkind (hflock hkind).2.1
      opened := fun hkind _ _ => (hflock hkind).2.2
      recorded := hsound.keeps_run (by simp)
      fresh := ?_
      running := by simp }
    have hunstarted : a.child_started = false := by
      apply hsound.unstarted
      rw [hpoint]
      split <;> simp [Point.out]
    simp [hunstarted]
  · intro x hx hapart
    refine { hapart with gate := ?_, flock := ?_, fence := by simp [Call.fenced] }
    · intro hsource _
      exact State.gate_free_holds hfree hx hsource.symm
    · intro hlock
      simp only [Call.holds_flock, Bool.and_eq_true] at hlock
      exact hapart.flock (hflock hlock.1).1

/-- A call under the gate goes on to the next check. -/
theorem Invariant.check (hgate : a.holds_gate = true) (hadmitted : a.admitted = true)
    (hunstarted : a.child_started = false) (hpoint : point = .current ∨ point = .unblocked)
    (hreview : a.review = some (digest, some operation_id))
    (hreviewed : Reviewed s.operations a.source digest operation_id s.clock)
    (hcurrent : Current s.operations a.source digest operation_id) :
    Invariant sha256 from_worker (s.put i { a with point, reviewed }) := by
  have hsound := h.at hget
  have hflock := hsound.locked hgate
  refine h.move hget ?_ ?_
  · refine ⟨rfl, rfl, rfl, rfl, rfl, rfl, fun _ => hgate, ?_, ?_⟩
    · intro hlock
      simp only [Call.holds_flock, Bool.and_eq_true] at hlock
      exact (hflock hlock.1).1
    · rcases hpoint with rfl | rfl <;> simp [Call.fenced]
  · refine { hsound with
      review := fun _ => ⟨digest, operation_id, hreview, hreviewed, fun _ => hcurrent⟩
      planned := ?_
      admitted := fun hkind _ => hsound.admitted hkind hadmitted
      opened := fun hkind _ _ => (hflock hkind).2
      recorded := hsound.keeps_run ?_
      fresh := by simp [hunstarted]
      running := ?_ } <;> rcases hpoint with rfl | rfl <;> simp

/-- A call of `apply` that passes `plan_used` shares its operation with no child. -/
theorem Invariant.unused (hpoint : a.point = .unblocked)
    (hunused : plan_unused s a = true) (hx : x ∈ s.calls) (hkind : a.is_apply = true)
    (hstarted : x.child_started = true) : a.operation ≠ x.operation := by
  intro hsame
  obtain ⟨digest, operation_id, hreview, hreviewed, _⟩ := (h.at hget).review (by simp [Call.reviewing, hpoint])
  rw [plan_unused, hreview] at hunused
  have hoperation : a.operation = some operation_id := by
    cases hrequest : a.request with
    | prepare digest operation_id => simp [Call.is_apply, hrequest] at hkind
    | apply token run_id =>
      rw [Call.review, hrequest] at hreview
      obtain ⟨claims, hclaims, hpair⟩ := Option.map_eq_some_iff.mp hreview
      rw [Call.operation, hclaims, Option.bind_some]
      exact (Prod.mk.inj hpair).2
  dsimp only at hunused
  split at hunused
  next finished_at htime =>
    rw [h.used hx hstarted hreviewed htime (by rw [← hsame, hoperation])] at hunused
    cases hunused
  next => cases hunused

theorem invariant_unused (halive : a.alive = true) (hpoint : a.point = .unblocked)
    (hunused : plan_unused s a = true) : Invariant sha256 from_worker (s.put i { a with point := .unused }) := by
  have hsound := h.at hget
  have hgate : a.holds_gate = true := by simp [Call.holds_gate, halive, hpoint]
  have hflock := hsound.locked hgate
  refine h.put_unconsumed hget ?_ ?_ rfl rfl
  · refine { hsound with
      review := fun _ => hsound.review (by simp [Call.reviewing, hpoint])
      planned := by simp
      admitted := fun hkind _ => hsound.admitted hkind (by simp [Call.admitted, Call.reviewing, hpoint])
      opened := fun hkind _ _ => (hflock hkind).2
      recorded := hsound.keeps_run (by simp)
      fresh := ?_
      running := by simp }
    simp [hsound.unstarted (by simp [hpoint, Point.out])]
  · intro x hx hapart
    refine { hapart with
      gate := fun hsource _ => hapart.gate hsource hgate
      flock := ?_
      fence := ?_ }
    · intro hlock
      simp only [Call.holds_flock, Bool.and_eq_true] at hlock
      exact hapart.flock (hflock hlock.1).1
    · intro hfenced hstarted
      simp only [Call.fenced, Bool.and_eq_true] at hfenced
      have hother := h.unused hget hpoint hunused hx hfenced.1.1 hstarted
      exact hother

/-- A call under the gate leaves without a result of its own. -/
theorem Invariant.refused (hgate : a.holds_gate = true) :
    Invariant sha256 from_worker (s.put i { a with point := .leaving }) :=
  h.leaving hget hgate (h.at hget).confirmed

theorem invariant_review (halive : a.alive = true)
    (hstep : step_review s i a statement = some s') : Invariant sha256 from_worker s' := by
  have hsound := h.at hget
  unfold step_review at hstep
  split at hstep
  case h_1 =>
    rw [Option.ite_none_right_eq_some] at hstep
    obtain ⟨⟨hpoint, hfree⟩, hput⟩ := hstep
    cases hput
    exact invariant_gate h hget halive hpoint hfree
  case h_2 =>
    split at hstep
    next hpoint =>
      have hgate : a.holds_gate = true := by simp [Call.holds_gate, halive, hpoint]
      split at hstep
      next digest operation_id hreview =>
        split at hstep
        next reviewed hguard =>
          cases hstep
          obtain ⟨id, rfl, hplan⟩ := review_guard_ok hguard
          refine h.check hget hgate (by simp [Call.admitted, hpoint]) ?_ (.inl rfl) hreview ?_ ?_
          · exact hsound.unstarted (by simp [hpoint, Point.out])
          · exact reviewed_of_current_plan h.operations h.timely hplan
          · exact current_of_current_plan hplan
        next =>
          cases hstep
          exact h.refused hget hgate
      next => cases hstep
    next => cases hstep
  case h_3 =>
    split at hstep
    next hpoint =>
      cases hstep
      have hgate : a.holds_gate = true := by simp [Call.holds_gate, halive, hpoint]
      split
      · exact h.refused hget hgate
      · obtain ⟨digest, operation_id, hreview, hreviewed, hcurrent⟩ :=
          hsound.review (by simp [Call.reviewing, hpoint])
        refine h.check hget hgate (by simp [Call.admitted, Call.reviewing, hpoint]) ?_ (.inr rfl) hreview
          hreviewed (hcurrent halive)
        exact hsound.unstarted (by simp [hpoint, Point.out])
    next => cases hstep
  case h_4 =>
    split at hstep
    next hpoint =>
      cases hstep
      split
      next hunused => exact invariant_unused h hget halive hpoint hunused
      next => exact h.refused hget (by simp [Call.holds_gate, halive, hpoint])
    next => cases hstep
  case h_5 =>
    cases hstep
    exact invariant_fail h hget
  case h_6 =>
    split at hstep
    next hpoint =>
      cases hstep
      have hgate : a.holds_gate = true := by simp [Call.holds_gate, halive, hpoint]
      have hflock := hsound.locked hgate
      refine h.move hget (moves_out (fun _ => hgate) ?_ ?_) (hsound.out ?_ ?_)
      · intro hlock
        simp only [Call.holds_flock, Bool.and_eq_true] at hlock
        exact (hflock hlock.1).1
      · split <;> rfl
      · split <;> rfl
      · exact fun hkind _ => (hflock hkind).2
    next => cases hstep
  case h_7 => cases hstep

theorem invariant_plan (halive : a.alive = true) (hpoint : a.point = .unused)
    (hkind : a.is_apply = false) (hsource : claims.source_instance = a.source) (hactor : claims.actor_id = a.actor_id)
    (hreview : a.review = some (claims.plan_digest, claims.operation_id)) :
    Invariant sha256 from_worker (s.put i { a with point := .planned, claims := some claims }) := by
  have hsound := h.at hget
  have hgate : a.holds_gate = true := by simp [Call.holds_gate, halive, hpoint]
  have hkind' : ({ a with point := .planned, claims := some claims } : Call).is_apply = false := hkind
  have hreview' : ({ a with point := .planned, claims := some claims } : Call).review = a.review := by
    unfold Call.is_apply at hkind
    unfold Call.review
    cases hrequest : a.request with
    | prepare digest operation_id => rfl
    | apply token run_id => simp [hrequest] at hkind
  have hrecorded : a.recorded = false := by
    cases hrecorded : a.recorded with
    | false => rfl
    | true => rw [hsound.is_apply_of_recorded hrecorded] at hkind; cases hkind
  have hunstarted := hsound.unstarted (by simp [hpoint, Point.out])
  refine h.put_unconsumed hget ?_ ?_ rfl rfl
  · constructor
    · intro _
      obtain ⟨digest, operation_id, hbefore, hreviewed⟩ := hsound.review (by simp [Call.reviewing, hpoint])
      exact ⟨digest, operation_id, by rw [hreview', hbefore], hreviewed⟩
    · intro _
      refine ⟨hkind, fun claims' hclaims => ?_⟩
      cases hclaims
      exact ⟨hsource, hactor, by rw [hreview', hreview]⟩
    · simp [hkind']
    · simp [hkind']
    · exact hsound.earlier
    · simp [hkind']
    · simp [hrecorded]
    · simp [hunstarted]
    · simp [hunstarted]
    · simp
    · simp [hkind']
  · intro x hx hapart
    constructor
    · exact fun hsame _ => hapart.gate hsame hgate
    · simp [Call.holds_flock, hkind']
    · exact hapart.token
    · exact hapart.run
    · simp [hunstarted]
    · simp [Call.fenced]
    · simp [hunstarted]

theorem invariant_prepare {operation_id : Option String} (halive : a.alive = true)
    (hrequest : a.request = .prepare digest operation_id)
    (hstep : step_prepare s i a digest operation_id statement = some s') : Invariant sha256 from_worker s' := by
  have hsound := h.at hget
  unfold step_prepare at hstep
  split at hstep
  case h_1 =>
    split at hstep
    next hpoint =>
      have hgate : a.holds_gate = true := by simp [Call.holds_gate, halive, hpoint]
      split at hstep
      · split at hstep
        · cases hstep
          exact invariant_plan h hget halive hpoint (by simp [Call.is_apply, hrequest]) rfl rfl
            (by simp [Call.review, hrequest])
        · cases hstep
          exact h.refused hget hgate
      · cases hstep
        exact h.refused hget hgate
    next => cases hstep
  case h_2 token =>
    rw [Option.ite_none_right_eq_some] at hstep
    obtain ⟨⟨hpoint, _, hcalls⟩, hstep⟩ := hstep
    have hgate : a.holds_gate = true := by simp [Call.holds_gate, halive, hpoint]
    split at hstep
    next claims hclaims =>
      obtain ⟨_, hfields⟩ := hsound.planned hpoint
      obtain ⟨hsource, hactor, hreview⟩ := hfields claims hclaims
      obtain ⟨digest', id, hreview', hreviewed, _⟩ := hsound.review (by simp [Call.reviewing, hpoint])
      rw [hreview] at hreview'
      injection hreview' with hpair
      obtain ⟨rfl, hid⟩ := Prod.mk.inj hpair
      split at hstep
      next entries hentries =>
        cases hstep
        refine (h.refused hget hgate).issue ?_ hentries hsource hactor hid hreviewed
        intro call hcall
        rcases List.mem_or_eq_of_mem_set hcall with hcall | rfl
        · exact hcalls call hcall
        · simp [Call.token, hrequest]
      next =>
        cases hstep
        exact h.refused hget hgate
    next => cases hstep
  case h_3 => exact invariant_review h hget halive hstep

/-- The run of one call changes; the rows of the others stay. -/
theorem Invariant.update_runs (hid : a.run_id = some run_id)
    (hrecorded : a.recorded = true) (hother : ∀ id, id ≠ run_id → runs.get id = s.runs.get id)
    (hown : ∀ run, s.runs.get run_id = some run → ∃ run', runs.get run_id = some run' ∧
      run'.source_instance = run.source_instance ∧ run'.started_at = run.started_at ∧ ∀ claims, a.claims = some claims →
      run.plan_digest = some claims.plan_digest → run'.plan_digest = some claims.plan_digest) :
    Invariant sha256 from_worker { s with runs } := by
  refine { h with sound := ?_, apart := h.apart }
  intro call hcall
  have hsound := h.sound call hcall
  refine { hsound with recorded := ?_ }
  intro hopen
  obtain ⟨run, ⟨id, hcallid, hrun, hsource, hbegan⟩, hplan⟩ := hsound.recorded hopen
  obtain ⟨j, hj⟩ := List.mem_iff_getElem?.mp hcall
  by_cases hij : i = j
  · subst hij
    rw [hget] at hj
    cases hj
    rw [hid] at hcallid
    cases hcallid
    obtain ⟨run', hrun', hsource', hbegan', hplan'⟩ := hown run hrun
    refine ⟨run', ⟨run_id, hid, hrun', by rw [hsource', hsource], by rw [hbegan', hbegan]⟩, ?_⟩
    intro hbound
    obtain ⟨claims, hclaims, hdigest⟩ := hplan hbound
    exact ⟨claims, hclaims, hplan' claims hclaims hdigest⟩
  · have hne : id ≠ run_id := by
      rintro rfl
      exact (h.apart i j a call hij hget hj).run hrecorded hopen (by rw [hid, hcallid])
    exact ⟨run, ⟨id, hcallid, by rw [← hrun]; exact hother id hne, hsource, hbegan⟩, hplan⟩

theorem invariant_start_run {source_type : String} {id : Int}
    (hrequest : a.request = .apply token run_id) (hpoint : a.point = .called)
    (hstart : start_run s.runs commit run_id a.began a.source source_type .MANUAL
      (created_by a.actor_id) = (runs, .ok id)) :
    Invariant sha256 from_worker { s.put i { a with point := .started, recorded := true } with runs } := by
  have hsound := h.at hget
  have hid : a.run_id = some run_id := by rw [Call.run_id, hrequest]
  obtain ⟨hfresh, run, hrun, hsource, hbegan⟩ := start_run_ok hstart
  have hruns : Invariant sha256 from_worker { s with runs } :=
    h.keep_runs (fun id run hrow => start_run_keeps hstart hrow)
  have hunstarted := hsound.unstarted (by simp [hpoint, Point.out])
  refine hruns.put_unconsumed hget ?_ ?_ rfl rfl
  · have hsound' := hruns.sound a (List.mem_of_getElem? hget)
    refine { hsound' with
      review := by simp [Call.reviewing]
      planned := by simp
      admitted := by simp [Call.admitted, Call.reviewing, hunstarted]
      opened := fun _ _ _ => rfl
      recorded := ?_
      started := fun _ => rfl
      fresh := by simp [hunstarted]
      running := by simp }
    intro _
    exact ⟨run, ⟨run_id, hid, hrun, hsource, hbegan⟩, by simp [hunstarted]⟩
  · intro x hx hapart
    refine { hapart with
      gate := by simp [Call.holds_gate]
      flock := by simp [Call.holds_flock]
      run := ?_
      fence := by simp [Call.fenced] }
    -- The id was free, so it is the id of no run on record.
    intro _ hrecorded hsame
    obtain ⟨other, ⟨id, hxid, hrow, _⟩, _⟩ := (h.sound x hx).recorded hrecorded
    rw [show ({ a with point := .started, recorded := true } : Call).run_id = a.run_id from rfl, hid, hxid] at hsame
    cases hsame
    exact hfresh (Table.mem_ids_iff.mpr ⟨other, hrow⟩)

/-- A token is popped: it was never consumed before, and never is again. -/
theorem invariant_consume {entry : Entry} {claims : Option ConfirmationClaims}
    (hkind : a.is_apply = true) (hpoint : a.point = .started) (hentry : entry ∈ s.entries)
    (htoken : a.token = some entry.token)
    (hclaims : ∀ value, claims = some value → value = entry.claims ∧ value.source_instance = a.source ∧
      s.clock < entry.expires)
    (hnext : point = .unlocked ∨ point = .consumed ∧ ∃ value, claims = some value ∧ value.actor_id = a.actor_id) :
    Invariant sha256 from_worker
      (State.put { s with entries := s.entries.filter (fun other => other.token ≠ entry.token) } i
        { a with point, claims, consumed_at := some s.clock }) := by
  have hsound := h.at hget
  obtain ⟨⟨issue, hissue, hsame, hissued, hexpires⟩, hnever⟩ := h.entries entry hentry
  have hunstarted := hsound.unstarted (by simp [hpoint, Point.out])
  have hrecorded := hsound.opened hkind (by simp [hpoint]) (by simp [hpoint])
  refine (h.pop _).put hget ?_ ?_ ?_
  · constructor
    · rcases hnext with rfl | ⟨rfl, _⟩ <;> simp [Call.reviewing]
    · rcases hnext with rfl | ⟨rfl, _⟩ <;> simp
    · intro _ hadmitted
      rcases hnext with rfl | ⟨_, value, hvalue, hactor⟩
      · simp [Call.admitted, Call.reviewing, hunstarted] at hadmitted
      · exact ⟨value, hvalue, hactor⟩
    · intro _ value hvalue
      obtain ⟨rfl, hsource, hyoung⟩ := hclaims value hvalue
      obtain ⟨hissuer, _⟩ := h.issues issue hissue
      refine ⟨issue, hissue, by rw [hsame]; exact htoken, hissued, ?_, ?_, s.clock, rfl, ?_⟩
      · exact hsound.earlier issue hissue (by rw [htoken, hsame])
      · rw [← hissuer, hissued, hsource]
      · rw [← hexpires]
        exact hyoung
    · exact hsound.earlier
    · exact fun _ _ _ => hrecorded
    · intro _
      obtain ⟨run, hrun, _⟩ := hsound.recorded hrecorded
      refine ⟨run, hrun, ?_⟩
      rcases hnext with rfl | ⟨rfl, _⟩ <;> simp [hunstarted]
    · exact fun _ => hrecorded
    · simp [hunstarted]
    · rcases hnext with rfl | ⟨rfl, _⟩ <;> simp
    · intro _ result hresult
      have hanswered := (hsound.confirmed hkind result hresult).1
      rw [hunstarted] at hanswered
      cases hanswered
  · intro j x hji hx
    have hapart := h.apart i j a x (Ne.symm hji) hget hx
    constructor
    · rcases hnext with rfl | ⟨rfl, _⟩ <;> simp [Call.holds_gate]
    · rcases hnext with rfl | ⟨rfl, _⟩ <;> simp [Call.holds_flock]
    · intro _ hconsumed
      have hother := hnever x (List.mem_of_getElem? hx) hconsumed
      rw [show ({ a with point, claims, consumed_at := some s.clock } : Call).token = a.token from rfl, htoken]
      exact Ne.symm hother
    · exact hapart.run
    · simp [hunstarted]
    · rcases hnext with rfl | ⟨rfl, _⟩ <;> simp [Call.fenced]
    · simp [hunstarted]
  · intro _ other hother
    have hne := (List.mem_filter.mp hother).2
    rw [decide_eq_true_eq] at hne
    rw [show ({ a with point, claims, consumed_at := some s.clock } : Call).token = a.token from rfl, htoken]
    simpa using Ne.symm hne

theorem invariant_flock (hkind : a.is_apply = true) (hpoint : a.point = .consumed)
    (hfree : s.flock_free = true) : Invariant sha256 from_worker (s.put i { a with point := .locked }) := by
  have hsound := h.at hget
  refine h.put_unconsumed hget ?_ ?_ rfl rfl
  · refine { hsound with
      review := by simp [Call.reviewing]
      planned := by simp
      admitted := fun _ _ => hsound.admitted hkind (by simp [Call.admitted, hpoint])
      opened := fun _ _ _ => hsound.opened hkind (by simp [hpoint]) (by simp [hpoint])
      recorded := hsound.keeps_run (by simp)
      fresh := ?_
      running := by simp }
    simp [hsound.unstarted (by simp [hpoint, Point.out])]
  · intro x hx hapart
    refine { hapart with
      gate := by simp [Call.holds_gate]
      flock := fun _ => State.flock_free_holds hfree hx
      fence := by simp [Call.fenced] }

/-- A call that passed `plan_used` comes closer to its child. -/
theorem Invariant.approach (halive : a.alive = true) (hkind : a.is_apply = true)
    (hbefore : a.point = .unused ∨ a.point = .reloaded) (hpoint : point = .reloaded ∨ point = .bound)
    (hbound : point = .bound → ∃ run, a.Recorded s run ∧ ∃ claims, a.claims = some claims ∧
      run.plan_digest = some claims.plan_digest) : Invariant sha256 from_worker (s.put i { a with point }) := by
  have hsound := h.at hget
  have hreviewing : a.reviewing = true := by
    rcases hbefore with hbefore | hbefore <;> simp [Call.reviewing, hbefore]
  have hgate := Call.holds_gate_of_reviewing halive hreviewing
  have hflock := hsound.locked hgate hkind
  have hunstarted : a.child_started = false := by
    rcases hbefore with hbefore | hbefore <;>
      exact hsound.unstarted (by simp [hbefore, Point.out])
  refine h.move hget ?_ ?_
  · refine ⟨rfl, rfl, rfl, rfl, rfl, rfl, fun _ => hgate, fun _ => hflock.1, fun _ => ?_⟩
    rcases hbefore with hbefore | hbefore <;> simp [Call.fenced, hkind, halive, hbefore]
  · refine { hsound with
      review := fun _ => hsound.review hreviewing
      planned := ?_
      admitted := fun _ _ => hsound.admitted hkind (by simp [Call.admitted, hreviewing])
      opened := fun _ _ _ => hflock.2
      recorded := fun _ => ?_
      fresh := by simp [hunstarted]
      running := ?_ }
    · rcases hpoint with rfl | rfl <;> simp
    · rcases hpoint with rfl | rfl
      · exact hsound.keeps_run (by simp) hflock.2
      · obtain ⟨run, hrun, hplan⟩ := hbound rfl
        exact ⟨run, hrun, fun _ => hplan⟩
    · rcases hpoint with rfl | rfl <;> simp

theorem invariant_child (halive : a.alive = true) (hkind : a.is_apply = true)
    (hpoint : a.point = .bound) :
    Invariant sha256 from_worker (s.put i { a with point := .applying, child_started := true }) := by
  have hsound := h.at hget
  have hgate : a.holds_gate = true := by simp [Call.holds_gate, halive, hpoint]
  have hfenced : a.fenced = true := by simp [Call.fenced, hkind, halive, hpoint]
  obtain ⟨hflock, hrecorded⟩ := hsound.locked hgate hkind
  refine h.put_unconsumed hget ?_ ?_ rfl rfl
  · refine { hsound with
      review := by simp [Call.reviewing]
      planned := by simp
      admitted := fun _ _ => hsound.admitted hkind (by simp [Call.admitted, Call.reviewing, hpoint])
      opened := fun _ _ _ => hrecorded
      recorded := ?_
      started := fun _ => hrecorded
      fresh := fun _ => .inl rfl
      running := fun _ => rfl
      confirmed := fun _ result hresult => ⟨rfl, (hsound.confirmed hkind result hresult).2⟩ }
    intro _
    obtain ⟨run, hrun, hplan⟩ := hsound.recorded hrecorded
    exact ⟨run, hrun, fun _ => hplan (.inl hpoint)⟩
  · intro x hx hapart
    refine { hapart with
      gate := fun hsource _ => hapart.gate hsource hgate
      flock := fun _ => hapart.flock hflock
      once := fun _ => hapart.fence hfenced
      fence := by simp [Call.fenced]
      fence' := ?_ }
    -- Another call that is about to start a child would hold the lock file, too.
    intro hother _
    have hnot := hapart.flock hflock
    rw [Call.holds_flock_of_fenced hother] at hnot
    cases hnot

/-- The terminal update of a call carries no digest but that of its claims. -/
theorem Invariant.finish {clock : Int} {f : Finish}
    (hrequest : a.request = .apply token run_id) (hrecorded : a.recorded = true)
    (hdigest : ∀ claims, a.claims = some claims →
      (text? f.plan_digest).or (some claims.plan_digest) = some claims.plan_digest) :
    Invariant sha256 from_worker { s with runs := (finish_run s.runs commit run_id clock f).1 } := by
  refine h.update_runs hget (by rw [Call.run_id, hrequest]) hrecorded (fun id hne => finish_run_get_of_ne hne) ?_
  intro run hrun
  obtain ⟨run', hrun', hsource, hbegan, hplan⟩ := finish_run_own hrun
  refine ⟨run', hrun', hsource, hbegan, fun claims hclaims hbefore => ?_⟩
  rcases hplan with hplan | hplan
  · rw [hplan, hbefore]
  · rw [hplan, hbefore, hdigest claims hclaims]

theorem Invariant.exits (hout : point = .unlocked ∨ point = .closed)
    (hrecorded : a.is_apply = true → point ≠ .closed → a.recorded = true) :
    Invariant sha256 from_worker (s.put i { a with point }) := by
  have hout' : point.out = true := by rcases hout with rfl | rfl <;> rfl
  refine h.move hget (moves_out ?_ ?_ hout') ((h.at hget).out hout' hrecorded)
  · rcases hout with rfl | rfl <;> simp [Call.holds_gate]
  · rcases hout with rfl | rfl <;> simp [Call.holds_flock]

end

theorem confirmed_ok {outcome : Except Raised Fields} {result : Fields}
    (h : (confirmed claims outcome).toOption = some result) :
    dict.get result "plan_digest" = some (.str claims.plan_digest) := by
  unfold confirmed at h
  split at h
  · split at h
    next hdigest =>
      cases h
      exact hdigest
    next => cases h
  · cases h

theorem invariant_bind_plan (h : Invariant sha256 from_worker s) (hget : s.calls[i]? = some a)
    (hrequest : a.request = .apply token run_id) (hrecorded : a.recorded = true) (hclaims : a.claims = some claims) :
    Invariant sha256 from_worker { s with
      runs := (bind_plan s.runs commit run_id claims.plan_digest claims.planner_version).1 } := by
  refine h.update_runs hget (by rw [Call.run_id, hrequest]) hrecorded (fun id hne => bind_plan_get_of_ne hne) ?_
  intro run hrun
  obtain ⟨run', hrun', hsource, hbegan, hplan, _⟩ := bind_plan_own rfl hrun
  refine ⟨run', hrun', hsource, hbegan, fun claims' hclaims' hbefore => ?_⟩
  rw [hclaims] at hclaims'
  cases hclaims'
  rcases hplan with hplan | hplan
  · rw [hplan, hbefore]
  · exact hplan

theorem validate_entry_ok {entry : Entry} {clock : Int} (h : validate_entry entry clock source = .ok claims) :
    claims = entry.claims ∧ claims.source_instance = source ∧ clock < entry.expires := by
  unfold validate_entry at h
  split at h
  · cases h
  next hexpired =>
  split at h
  · cases h
  next hsource =>
    cases h
    exact ⟨rfl, not_not.mp hsource, Int.not_le.mp hexpired⟩

theorem invariant_apply (h : Invariant sha256 from_worker s) (hget : s.calls[i]? = some a) (halive : a.alive = true)
    (hrequest : a.request = .apply token run_id) (hstep : step_apply s i a token run_id statement = some s') :
    Invariant sha256 from_worker s' := by
  have hsound := h.at hget
  have hkind : a.is_apply = true := by rw [Call.is_apply, hrequest]
  have hrecorded : a.point ≠ .called ∧ a.point ≠ .closed → a.recorded = true :=
    fun hpoint => hsound.opened hkind hpoint.1 hpoint.2
  unfold step_apply at hstep
  split at hstep
  case h_1 source_type commit =>
    rw [Option.ite_none_right_eq_some] at hstep
    obtain ⟨⟨hpoint, _⟩, hstep⟩ := hstep
    split at hstep
    next runs id hstart =>
      cases hstep
      exact invariant_start_run h hget hrequest hpoint hstart
    next runs fault hstart =>
      cases hstep
      exact (h.keep_runs (fun id run hrow => start_run_keeps hstart hrow)).exits hget (.inr rfl) (by simp)
  case h_2 =>
    rw [Option.ite_none_right_eq_some] at hstep
    obtain ⟨hpoint, hstep⟩ := hstep
    have hopen := hrecorded (by simp [hpoint])
    split at hstep
    next =>
      cases hstep
      exact h.exits hget (.inl rfl) (fun _ _ => hopen)
    next entry hfind =>
      have htoken := List.find?_some hfind
      rw [decide_eq_true_eq] at htoken
      subst htoken
      have hentry := List.mem_of_find?_eq_some hfind
      have hpresented : a.token = some entry.token := by rw [Call.token, hrequest]
      dsimp only at hstep
      split at hstep
      · cases hstep
        exact invariant_consume h hget hkind hpoint hentry hpresented (by simp) (.inl rfl)
      next claims hvalid =>
        cases hstep
        refine invariant_consume h hget hkind hpoint hentry hpresented ?_ ?_
        · rintro _ ⟨⟩
          exact validate_entry_ok hvalid
        · split
          next hactor => exact .inr ⟨rfl, claims, rfl, hactor⟩
          next => exact .inl rfl
  case h_3 =>
    rw [Option.ite_none_right_eq_some] at hstep
    obtain ⟨hpoint, hstep⟩ := hstep
    cases hstep
    split
    next hfree => exact invariant_flock h hget hkind hpoint hfree
    next => exact h.exits hget (.inl rfl) (fun _ _ => hrecorded (by simp [hpoint]))
  case h_4 =>
    rw [Option.ite_none_right_eq_some] at hstep
    obtain ⟨hpoint, hstep⟩ := hstep
    cases hstep
    split
    · exact h.approach hget halive hkind (.inl hpoint) (.inl rfl) (by simp)
    · exact h.refused hget (by simp [Call.holds_gate, halive, hpoint])
  case h_5 commit =>
    split at hstep
    next claims hclaims =>
      rw [Option.ite_none_right_eq_some] at hstep
      obtain ⟨hpoint, hstep⟩ := hstep
      have hopen := hrecorded (by simp [hpoint])
      have hbound : Invariant sha256 from_worker { s with
          runs := (bind_plan s.runs commit run_id claims.plan_digest claims.planner_version).1 } :=
        invariant_bind_plan h hget hrequest hopen hclaims
      split at hstep
      next runs hbind =>
        cases hstep
        rw [hbind] at hbound
        refine hbound.approach hget halive hkind (.inr hpoint) (.inr rfl) (fun _ => ?_)
        obtain ⟨run, ⟨id, hid, hrun, hsource, hbegan⟩, _⟩ := hsound.recorded hopen
        rw [Call.run_id, hrequest] at hid
        cases hid
        obtain ⟨run', hrun', hsource', hbegan', _, hplan⟩ := bind_plan_own hbind hrun
        exact ⟨run', ⟨run_id, by rw [Call.run_id, hrequest], hrun', by rw [hsource', hsource],
          by rw [hbegan', hbegan]⟩, claims, hclaims, hplan rfl⟩
      next runs fault hbind =>
        cases hstep
        rw [hbind] at hbound
        exact hbound.refused hget (by simp [Call.holds_gate, halive, hpoint])
    next => cases hstep
  case h_6 =>
    rw [Option.ite_none_right_eq_some] at hstep
    obtain ⟨hpoint, hstep⟩ := hstep
    cases hstep
    exact invariant_child h hget halive hkind hpoint
  case h_7 =>
    split at hstep
    next claims hclaims =>
      rw [Option.ite_none_right_eq_some] at hstep
      obtain ⟨hpoint, hstep⟩ := hstep
      cases hstep
      refine h.leaving hget (by simp [Call.holds_gate, halive, hpoint]) (fun _ value hvalue => ?_)
      exact ⟨hsound.running hpoint, claims, hclaims, confirmed_ok hvalue⟩
    next => cases hstep
  case h_8 =>
    rw [Option.ite_none_right_eq_some] at hstep
    obtain ⟨hpoint, hstep⟩ := hstep
    cases hstep
    exact h.exits hget (.inl rfl) (fun _ _ => hrecorded (by simp [hpoint]))
  case h_9 commit =>
    rw [Option.ite_none_right_eq_some] at hstep
    obtain ⟨hpoint, hstep⟩ := hstep
    have hopen := hrecorded (by simp [hpoint])
    split at hstep
    next => cases hstep
    next result hresult =>
      split at hstep
      next => cases hstep
      next counts hcounts =>
        obtain ⟨_, claims, hclaims, hdigest⟩ := hsound.confirmed hkind result hresult
        have hfinish : Invariant sha256 from_worker { s with
            runs := (finish_run s.runs commit run_id s.clock (succeeded counts result)).1 } := by
          refine h.finish hget hrequest hopen (fun claims' hclaims' => ?_)
          rw [hclaims] at hclaims'
          cases hclaims'
          simp [succeeded, hdigest, text?]
        split at hstep
        next runs hrun =>
          cases hstep
          rw [hrun] at hfinish
          exact hfinish.exits hget (.inr rfl) (by simp)
        next runs fault hrun =>
          cases hstep
          rw [hrun] at hfinish
          refine hfinish.move hget (moves_out id id (by simp [hpoint, Point.out])) ?_
          exact { hfinish.at hget with confirmed := by simp }
  case h_10 commit code =>
    rw [Option.ite_none_right_eq_some] at hstep
    obtain ⟨hpoint, hstep⟩ := hstep
    cases hstep
    have hopen := hrecorded (by simp [hpoint])
    have hfinish : Invariant sha256 from_worker { s with
        runs := (finish_run s.runs commit run_id s.clock (apply_worker.failed a.claims code)).1 } := by
      refine h.finish hget hrequest hopen (fun claims hclaims => ?_)
      simp [apply_worker.failed, hclaims, json.optional, text?]
    exact hfinish.exits hget (.inr rfl) (by simp)
  case h_11 => exact invariant_review h hget halive hstep

theorem invariant_step {action : Action} (h : Invariant sha256 from_worker s)
    (hstep : step sha256 from_worker s action = some s') : Invariant sha256 from_worker s' := by
  cases action with
  | operation action =>
    simp only [step] at hstep
    split at hstep
    next => cases hstep
    next hgate =>
      obtain ⟨operations, hoperation, rfl⟩ := Option.map_eq_some_iff.mp hstep
      exact invariant_operation h (Bool.not_eq_true _ ▸ hgate) hoperation
  | decide decision =>
    cases hstep
    exact { h with sound := fun call hcall => { h.sound call hcall with }, apart := h.apart }
  | prepare source digest operation_id actor_id =>
    cases hstep
    exact invariant_new h source actor_id _
  | apply source actor_id token run_id =>
    cases hstep
    exact invariant_new h source actor_id _
  | statement i statement =>
    obtain ⟨call, hget, hstep⟩ := Option.bind_eq_some_iff.mp hstep
    rw [Option.ite_none_right_eq_some] at hstep
    obtain ⟨halive, hstep⟩ := hstep
    split at hstep
    next digest operation_id hrequest => exact invariant_prepare h hget halive hrequest hstep
    next token run_id hrequest => exact invariant_apply h hget halive hrequest hstep
  | crash =>
    cases hstep
    exact invariant_crash h
  | child_exit i =>
    obtain ⟨call, hget, hstep⟩ := Option.bind_eq_some_iff.mp hstep
    rw [Option.ite_none_right_eq_some] at hstep
    obtain ⟨_, hput⟩ := hstep
    cases hput
    exact h.exits hget (.inr rfl) (by simp)

theorem invariant_reachable (h : (machine sha256 from_worker).Reachable s) : Invariant sha256 from_worker s :=
  h.invariant (fun _ => inv_init) (fun _ _ _ _ hinv hstep => invariant_step hinv hstep)

/-- What holds when a call starts its child: both locks are its own alone, its token was handed out to the same actor
    for the same source, was consumed in time and by no other call, the plan is the current one, and the run is bound
    to its digest. -/
structure Confirmed (s : State) (i : Nat) (call : Call) (claims : ConfirmationClaims) : Prop where
  locks : call.holds_flock = true ∧ call.holds_gate = true
  exclusive : ∀ j other, j ≠ i → s.calls[j]? = some other → other.holds_flock = false ∧
    (other.source = call.source → other.holds_gate = false)
  token : ∃ issue ∈ s.issues, call.token = some issue.token ∧ issue.source = call.source ∧
    issue.actor_id = call.actor_id ∧ issue.claims = claims ∧
    ∃ time, call.consumed_at = some time ∧ time < issue.time + seconds 300
  single_use : ∀ j other, j ≠ i → s.calls[j]? = some other → other.consumed_at ≠ none → other.token ≠ call.token
  current : ∃ operation_id, claims.operation_id = some operation_id ∧
    Current s.operations call.source claims.plan_digest operation_id
  bound : ∃ run_id run, call.run_id = some run_id ∧ s.runs.get run_id = some run ∧
    run.source_instance = call.source ∧ run.plan_digest = some claims.plan_digest
  first : ∀ (j : Nat) (other : Call), s.calls[j]? = some other → other.child_started = true →
    other.operation ≠ call.operation

theorem Invariant.confirmed (h : Invariant sha256 from_worker s) (hget : s.calls[i]? = some a) (halive : a.alive = true)
    (hkind : a.is_apply = true) (hpoint : a.point = .bound) :
    ∃ claims, a.claims = some claims ∧ Confirmed s i a claims := by
  have hsound := h.at hget
  have hgate : a.holds_gate = true := by simp [Call.holds_gate, halive, hpoint]
  have hfenced : a.fenced = true := by simp [Call.fenced, hkind, halive, hpoint]
  obtain ⟨hflock, hrecorded⟩ := hsound.locked hgate hkind
  obtain ⟨claims, hclaims, hactor⟩ := hsound.admitted hkind (by simp [Call.admitted, Call.reviewing, hpoint])
  obtain ⟨issue, hissue, htoken, hissued, _, hsource, hconsumed⟩ := hsound.licensed hkind claims hclaims
  have hapart : ∀ j other, j ≠ i → s.calls[j]? = some other → Apart a other :=
    fun j other hji hother => h.apart i j a other (Ne.symm hji) hget hother
  refine ⟨claims, hclaims, ⟨hflock, hgate⟩, ?_, ?_, ?_, ?_, ?_, ?_⟩
  · intro j other hji hother
    have hother := hapart j other hji hother
    exact ⟨hother.flock hflock, fun hsame => hother.gate hsame.symm hgate⟩
  · obtain ⟨_, hissuer, _⟩ := h.issues issue hissue
    exact ⟨issue, hissue, htoken, hsource, by rw [← hissuer, hissued, hactor], hissued, hconsumed⟩
  · intro j other hji hother hused
    obtain ⟨_, hat, _⟩ := hconsumed
    exact ((hapart j other hji hother).token (by simp [hat]) hused).symm
  · obtain ⟨digest, operation_id, hreview, _, hcurrent⟩ := hsound.review (by simp [Call.reviewing, hpoint])
    cases hrequest : a.request with
    | prepare digest operation_id => simp [Call.is_apply, hrequest] at hkind
    | apply token run_id =>
      rw [Call.review, hrequest, hclaims] at hreview
      obtain ⟨hdigest, hid⟩ := Prod.mk.inj (Option.some.inj hreview)
      exact ⟨operation_id, hid, hdigest ▸ hcurrent halive⟩
  · obtain ⟨run, ⟨run_id, hid, hrun, hrunsource, _⟩, hplan⟩ := hsound.recorded hrecorded
    obtain ⟨claims', hclaims', hdigest⟩ := hplan (.inl hpoint)
    rw [hclaims] at hclaims'
    cases hclaims'
    exact ⟨run_id, run, hid, hrun, hrunsource, hdigest⟩
  · intro j other hother hstarted
    by_cases hji : j = i
    · subst hji
      rw [hget] at hother
      cases hother
      rw [hsound.unstarted (by simp [hpoint, Point.out])] at hstarted
      cases hstarted
    · exact ((hapart j other hji hother).fence hfenced hstarted).symm

/-- A run that satisfies a decidable condition at its end reaches such a state. -/
theorem reachable_of_run {actions : List Action} {p : State → Bool} (hinit : (machine sha256 from_worker).init s)
    (h : ((machine sha256 from_worker).run s actions).any p = true) :
    ∃ s', (machine sha256 from_worker).Reachable s' ∧ p s' = true := by
  rw [Option.any_eq_true] at h
  obtain ⟨s', hrun, hp⟩ := h
  exact ⟨s', (Machine.Reachable.init hinit).run hrun, hp⟩

/-- A plan operation that completes, a token for it, and a call of `apply` with the token up to its child, with the
    given waits between them. -/
def confirmed_run (digest : String) (ready issued bound : Nat) : List Action :=
  let operation : Operation := ⟨"esxi-a", .PLAN, 7⟩
  let reviewed : Fields :=
    [("source_instance", .str "esxi-a"), ("planner_version", .str "9"), ("digest", .str digest)]
  let plan : Fields :=
    [("apply_allowed", .bool true), ("planner_version", .str "9"), ("digest", .str digest),
      ("items", .arr [.obj [("action", .str "CREATE")]])]
  [.operation (.start "esxi-a" .PLAN 7), .operation (.execute operation), .operation (.check 0),
    .operation (.answer 0 (.returned (some (.obj reviewed)))), .operation (.complete 0),
    .operation (.tick ready), .prepare "esxi-a" digest (some "7") none, .statement 0 .gate,
    .statement 0 .review, .statement 0 .reconcile, .statement 0 .unused,
    .statement 0 (.plan "source-1" plan), .statement 0 (.issue "token"), .statement 0 .leave,
    .operation (.tick issued), .apply "esxi-a" none "token" 1,
    .statement 1 (.start_run "esxi" .committed), .statement 1 .consume, .statement 1 .flock,
    .statement 1 .gate, .statement 1 .review, .statement 1 .reconcile, .statement 1 .unused,
    .statement 1 (.reload "source-1"), .statement 1 (.bind_plan .committed), .operation (.tick bound),
    .operation (.latest "esxi-a")]

end netbox_sync.apply_worker
