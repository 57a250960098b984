import NetboxSync.Lifecycle.Coordinator

open json

namespace netbox_sync.retirement_coordinator

open run_history source_operations source_lifecycle retirement_journal

/-- The journal says that the outcome of the operation is not known. -/
def Open (db : Database) (operation : Nat) : Prop :=
  ∃ r, db.retirements.get operation = some r ∧ (r.state = .SENDING ∨ r.state = .UNCERTAIN)

/-- The operation is open, and the call has its record as it was reviewed. -/
def Reviewing (db : Database) (operation : Nat) (record : Retirement) : Prop :=
  ∃ r, db.retirements.get operation = some r ∧ (r.state = .SENDING ∨ r.state = .UNCERTAIN) ∧
    r.plan = record.plan ∧ r.guard_instance = record.guard_instance

/-- A receipt that closes the generation is stored. -/
def Closed (db : Database) (operation : Nat) : Prop :=
  ∃ r receipt, db.retirements.get operation = some r ∧ r.receipt = some receipt ∧ generation_closed receipt = true

/-- A request of the operation was definitely refused. -/
def Refused (requests : List Request) (operation : Nat) : Prop :=
  ∃ q ∈ requests, q.operation = operation ∧ q.outcome = .refused

/-- What a call knows where it stands. -/
def Call.Sound (call : Call) (db : Database) (requests : List Request) : Prop :=
  match call.point with
  | .entered | .resuming | .rereading | .resolving .. => True
  | .beginning => ∃ r, db.retirements.get call.operation = some r ∧ r.state ≠ .FINALIZED
  | .dispatching record intent =>
    Reviewing db call.operation record ∧
      match intent with
      | none => call.moved = true
      | some (guard_instance, result) => verified_intent record guard_instance result = true
  | .awaiting _ request => ∃ q, requests[request]? = some q ∧ q.operation = call.operation
  | .reading record => Reviewing db call.operation record
  | .unsettled _ refused => refused = true → Refused requests call.operation
  | .checking _ | .removing .. | .clearing _ | .cleaning _ | .finishing _ | .purging _ | .verifying _
  | .finalizing _ | .pending => Closed db call.operation

/-- The journals are sound, and an operation with a request of unknown outcome is open, unless one of its requests was
    refused. -/
structure Ledger (db : Database) (requests : List Request) : Prop where
  tables : Inv db
  unknown : ∀ q ∈ requests, q.outcome = .unknown → Refused requests q.operation ∨ Open db q.operation

structure Sound (s : State) : Prop where
  ledger : Ledger s.db s.requests
  call : ∀ call, s.active = some call → call.Sound s.db s.requests

/-- Every record keeps what the calls know of it. -/
def Untouched (db db' : Database) : Prop :=
  ∀ (operation : Nat) (r : Retirement), db.retirements.get operation = some r →
    ∃ r', db'.retirements.get operation = some r' ∧ r'.state = r.state ∧ r'.plan = r.plan ∧
      r'.guard_instance = r.guard_instance ∧ r'.receipt = r.receipt

section

variable {rt : Runtime} {s : State} {db db' : Database} {call : Call} {operation : Nat} {requests : List Request}

theorem get_update_record (f : Retirement → Retirement) (other : Nat) :
    (update_record db operation f).get other =
      if other = operation then (db.retirements.get other).map (fun r => { f r with operation_id := r.operation_id })
      else db.retirements.get other := by
  rw [update_record, Table.get_modify]
  simp only [Int.natCast_inj]

theorem untouched_of_eq (h : db'.retirements = db.retirements) : Untouched db db' :=
  fun operation r hget => ⟨r, by rw [h]; exact hget, rfl, rfl, rfl, rfl⟩

variable {f : Retirement → Retirement} {source : String} {record : Retirement} {request : Nat} {commit : Commit}
  {answer : Answer} {s' : State} {action : Action}

/-- A note on one record changes nothing the calls know. -/
theorem untouched_update
    (hf : ∀ r, (f r).state = r.state ∧ (f r).plan = r.plan ∧ (f r).guard_instance = r.guard_instance ∧
      (f r).receipt = r.receipt) (h : db'.retirements = update_record db operation f) : Untouched db db' := by
  intro other r hget
  rw [h, get_update_record, hget]
  split
  · exact ⟨_, rfl, hf r⟩
  · exact ⟨r, rfl, rfl, rfl, rfl, rfl⟩

theorem untouched_fence (archive : Bool) : Untouched db (fence db source operation archive) := by
  intro other r hget
  cases archive with
  | false => exact ⟨r, hget, rfl, rfl, rfl, rfl⟩
  | true =>
    rw [fence, if_pos rfl, supersede, Table.get_updateWhere, hget]
    refine ⟨_, rfl, ?_⟩
    dsimp only
    split <;> exact ⟨rfl, rfl, rfl, rfl⟩

/-- What happens outside of `execute` leaves the records to the calls. -/
theorem untouched_of_step {action : source_lifecycle.Action} (hother : of_execute action = false)
    (hstep : source_lifecycle.step rt db action = some db') : Untouched db db' := by
  cases action with
  | tick | environment | edit =>
    cases hstep
    exact untouched_of_eq rfl
  | register row =>
    rw [source_lifecycle.step, Option.ite_none_right_eq_some] at hstep
    obtain ⟨_, hstep⟩ := hstep
    cases hstep
    exact untouched_of_eq rfl
  | annotate operation safe_code verified =>
    cases hstep
    exact untouched_update (f := annotated safe_code verified) (fun _ => ⟨rfl, rfl, rfl, rfl⟩) rfl
  | prepare source operation actor revision guard_instance remote =>
    rw [source_lifecycle.step, Option.ite_none_right_eq_some] at hstep
    obtain ⟨_, hstep⟩ := hstep
    obtain ⟨result, hresult, rfl⟩ := Option.map_eq_some_iff.mp hstep
    rcases prepare_ok (Except.ok_of_toOption hresult) with hsame | ⟨hnew, _, _, _, _, _, hinsert⟩
    · exact untouched_of_eq (by rw [hsame])
    · intro other r hget
      refine ⟨r, ?_, rfl, rfl, rfl, rfl⟩
      -- The new operation has no record yet.
      have hne : (other : Int) ≠ Row.id result.2 := by
        intro heq
        rw [heq] at hget
        exact hnew (Table.mem_ids_iff.mpr ⟨r, hget⟩)
      rw [hinsert, Table.get_insert, if_neg hne]
      exact hget
  | recovery_prepare source operation hex actor revision proof =>
    obtain ⟨result, hresult, rfl⟩ := Option.map_eq_some_iff.mp hstep
    rcases source_recovery.prepare_ok (Except.ok_of_toOption hresult) with hsame | ⟨_, _, _, _, hinsert⟩
    · exact untouched_of_eq (by rw [hsame])
    · exact untouched_of_eq (by rw [hinsert])
  | begin_credentials source operation actor =>
    rcases source_recovery.begin_credentials_ok (Except.ok_of_toOption hstep) with rfl | ⟨_, _, _, _, _, rfl⟩ <;>
      exact untouched_of_eq rfl
  | complete source operation actor proof metadata owned =>
    rcases source_recovery.complete_ok (Except.ok_of_toOption hstep) with rfl | ⟨_, _, _, _, _, _, hretirements, _⟩
    · exact untouched_of_eq rfl
    · exact untouched_of_eq hretirements
  | abandon_prepared source operation actor =>
    rcases source_recovery.abandon_prepared_ok (Except.ok_of_toOption hstep) with rfl | ⟨_, _, _, rfl⟩ <;>
      exact untouched_of_eq rfl
  | begin | resume_legacy_busy | uncertain | blocked | resolve | finalized => cases hother

theorem Untouched.open (h : Untouched db db') (hopen : Open db operation) : Open db' operation := by
  obtain ⟨r, hget, hstate⟩ := hopen
  obtain ⟨r', hget', hstate', _⟩ := h operation r hget
  exact ⟨r', hget', by rwa [hstate']⟩

theorem Untouched.reviewing (h : Untouched db db') (hopen : Reviewing db operation record) :
    Reviewing db' operation record := by
  obtain ⟨r, hget, hstate, hplan, hguard⟩ := hopen
  obtain ⟨r', hget', hstate', hplan', hguard', _⟩ := h operation r hget
  exact ⟨r', hget', by rwa [hstate'], hplan'.trans hplan, hguard'.trans hguard⟩

theorem Untouched.closed (h : Untouched db db') (hclosed : Closed db operation) : Closed db' operation := by
  obtain ⟨r, receipt, hget, hreceipt, hgeneration⟩ := hclosed
  obtain ⟨r', hget', _, _, _, hreceipt'⟩ := h operation r hget
  exact ⟨r', receipt, hget', hreceipt'.trans hreceipt, hgeneration⟩

theorem Untouched.sound (h : Untouched db db') (hcall : call.Sound db requests) : call.Sound db' requests := by
  cases hpoint : call.point <;> simp only [Call.Sound, hpoint] at hcall ⊢
  case beginning =>
    obtain ⟨r, hget, hstate⟩ := hcall
    obtain ⟨r', hget', hstate', _⟩ := h _ r hget
    exact ⟨r', hget', by rwa [hstate']⟩
  case dispatching => exact ⟨h.reviewing hcall.1, hcall.2⟩
  case reading => exact h.reviewing hcall
  all_goals first | exact hcall | exact h.closed hcall

theorem refused_modify {q : Request} (hget : requests[request]? = some q) :
    Refused (requests.modify request (fun request => { request with outcome := .refused })) q.operation := by
  refine ⟨{ q with outcome := .refused }, List.mem_of_getElem? (i := request) ?_, rfl, rfl⟩
  simp [hget]

section

variable (h : Ledger db requests)
include h

theorem Ledger.write (htables : Inv db')
    (hopen : ∀ operation, Open db operation → Refused requests operation ∨ Open db' operation) :
    Ledger db' requests := by
  refine ⟨htables, fun q hq hunknown => ?_⟩
  rcases h.unknown q hq hunknown with hrefused | hopen'
  · exact .inl hrefused
  · exact hopen _ hopen'

theorem Ledger.untouched (htables : Inv db') (hsame : Untouched db db') : Ledger db' requests :=
  h.write htables fun _ hopen => .inr (hsame.open hopen)

/-- A request of an open operation. -/
theorem Ledger.send {request : Request} (hopen : Open db request.operation) : Ledger db (requests ++ [request]) := by
  refine ⟨h.tables, fun q hq hunknown => ?_⟩
  rcases List.mem_append.mp hq with hq | hq
  · refine (h.unknown q hq hunknown).imp_left ?_
    rintro ⟨refused, hmem, hrefused⟩
    exact ⟨refused, List.mem_append_left _ hmem, hrefused⟩
  · rw [List.mem_singleton.mp hq]
    exact .inr hopen

theorem Ledger.refuse (request : Nat) :
    Ledger db (requests.modify request (fun request => { request with outcome := .refused })) := by
  refine ⟨h.tables, fun q hq hunknown => ?_⟩
  obtain ⟨i, hi⟩ := List.mem_iff_getElem?.mp hq
  rw [List.getElem?_modify] at hi
  obtain ⟨q₀, hq₀, hq_eq⟩ := Option.map_eq_some_iff.mp hi
  split at hq_eq
  · rw [← hq_eq] at hunknown
    cases hunknown
  · obtain rfl : q₀ = q := hq_eq
    refine (h.unknown q₀ (List.mem_of_getElem? hq₀) hunknown).imp_left ?_
    rintro ⟨refused, hmem, hoperation, hrefused⟩
    -- What was refused stays refused.
    obtain ⟨j, hj⟩ := List.mem_iff_getElem?.mp hmem
    refine ⟨if request = j then { refused with outcome := .refused } else refused,
      List.mem_of_getElem? (i := j) ?_, ?_, ?_⟩
    · rw [List.getElem?_modify, hj]
      split <;> rfl
    · split <;> exact hoperation
    · split
      · rfl
      · exact hrefused

/-- The stored receipt settles its requests; the other operations are as open as before. -/
theorem Ledger.settle (htables : Inv db') (hopen : ∀ other, other ≠ operation → Open db other → Open db' other) :
    Ledger db' (settle requests operation) := by
  refine ⟨htables, fun q hq hunknown => ?_⟩
  obtain ⟨q₀, hq₀, rfl⟩ := List.mem_map.mp hq
  split at hunknown
  · cases hunknown
  next hne =>
    rw [if_neg hne]
    rcases h.unknown q₀ hq₀ hunknown with ⟨refused, hmem, hoperation, hrefused⟩ | hopen'
    · refine .inl ⟨refused, List.mem_map.mpr ⟨refused, hmem, if_neg ?_⟩, hoperation, hrefused⟩
      rwa [hoperation]
    · exact .inr (hopen _ hne hopen')

end

theorem Sound.leave (h : Ledger s.db s.requests) : Sound s.leave := by
  refine ⟨h, fun call hactive => ?_⟩
  cases hactive

theorem Sound.goto {point : Point} (h : Ledger s.db s.requests)
    (hcall : { call with point }.Sound s.db s.requests) : Sound (s.goto call point) := by
  refine ⟨h, fun call' hactive => ?_⟩
  cases hactive
  exact hcall

/-- A transaction of the call keeps the invariant if what it commits keeps it and the call may go on from there. -/
theorem Sound.transact {α : Type} {result : Except Refusal (Database × α)} {next : State → α → State}
    (h : Ledger s.db s.requests)
    (hok : ∀ db value, result = .ok (db, value) → Ledger db s.requests ∧
      (Ledger db s.requests → Sound (next { s with db } value))) : Sound (s.transact commit result next) := by
  unfold State.transact
  split
  next db value =>
    obtain ⟨hledger, hnext⟩ := hok db value rfl
    exact hnext hledger
  next db value _ => exact Sound.leave (hok db value rfl).1
  next => exact Sound.leave h

/-- An operation stays open where its record changes to an open state, or is another's. -/
theorem open_update {other : Nat} (hopen : Open db other)
    (hf : other = operation → ∀ r, (f r).state = .SENDING ∨ (f r).state = .UNCERTAIN) :
    Open { db with retirements := update_record db operation f } other := by
  obtain ⟨r, hget, hstate⟩ := hopen
  by_cases heq : other = operation
  · refine ⟨{ f r with operation_id := r.operation_id }, ?_, hf heq r⟩
    rw [get_update_record, if_pos heq, hget]
    rfl
  · refine ⟨r, ?_, hstate⟩
    rw [get_update_record, if_neg heq]
    exact hget

section

variable (h : Ledger s.db s.requests)
include h

theorem sound_looked_up : Sound (looked_up s call) := by
  unfold looked_up
  split
  next => exact .leave h
  next prior hrecord =>
    obtain ⟨hget, _⟩ := record_ok hrecord
    split
    · exact .goto h trivial
    · split
      · exact .leave h
      next hopen => exact .goto h ⟨prior, hget, hopen⟩

theorem sound_resume :
    Sound (s.transact commit ((resume_legacy_busy rt s.db call.source call.operation call.actor).map (·, ()))
      (fun s _ => s.goto call .beginning)) := by
  refine .transact h fun db value hok => ?_
  obtain ⟨db, hresume, hpair⟩ := Except.map_eq_ok_iff.mp hok
  cases hpair
  obtain ⟨record, _, hget, _, _, _, _, _, _, _, _, rfl⟩ := resume_legacy_busy_ok hresume
  refine ⟨h.write (inv_resume_legacy_busy h.tables hresume).1 fun other hopen => ?_, fun hledger => ?_⟩
  · exact .inr (open_update hopen fun _ _ => .inr rfl)
  · refine .goto hledger ⟨{ record with state := .UNCERTAIN, safe_code := some "RETIREMENT_SERVER_BUSY" }, ?_, nofun⟩
    rw [get_update_record, if_pos rfl, hget]
    rfl

theorem sound_begin (hcall : ∃ r, s.db.retirements.get call.operation = some r ∧ r.state ≠ .FINALIZED) :
    Sound (s.transact commit
      (retirement_journal.begin rt s.db call.source call.operation call.actor call.digest call.confirmed_source
        call.remove_credentials) (fun s result => begun s call result.1 result.2)) := by
  refine .transact h fun db' ⟨record', dispatch⟩ hok => ?_
  obtain ⟨r, hget_r, hfinal⟩ := hcall
  obtain ⟨record, hget, _, _, hcases⟩ := begin_ok hok
  rw [hget_r] at hget
  cases hget
  have htables := (inv_begin h.tables hok).1
  rcases hcases with ⟨hready, rfl, hcases⟩ | ⟨_, rfl, _, _, archive, _, rfl, rfl⟩
  · -- The operation was sent before; only the consent may have been added.
    have hsame : Untouched s.db db' := by
      rcases hcases with ⟨rfl, _⟩ | ⟨_, rfl, _⟩
      · exact untouched_of_eq rfl
      · exact untouched_update (f := granted) (fun _ => ⟨rfl, rfl, rfl, rfl⟩) rfl
    have hrecord : record'.state = r.state ∧ record'.plan = r.plan ∧ record'.guard_instance = r.guard_instance := by
      rcases hcases with ⟨_, rfl⟩ | ⟨_, _, rfl⟩ <;> exact ⟨rfl, rfl, rfl⟩
    refine ⟨h.untouched htables hsame, fun hledger => ?_⟩
    unfold begun
    split
    · exact .leave hledger
    next hblocked =>
      split
      · exact .goto hledger trivial
      next hsucceeded =>
        refine .goto hledger ?_
        obtain ⟨r', hget', hstate', hplan', hguard', _⟩ := hsame _ r hget_r
        refine ⟨r', hget', ?_, hplan'.trans hrecord.2.1.symm, hguard'.trans hrecord.2.2.symm⟩
        rw [hstate']
        rw [hrecord.1] at hblocked hsucceeded
        cases hstate : r.state <;> simp_all
  · have hfence : Untouched s.db (fence s.db call.source call.operation archive) := untouched_fence archive
    refine ⟨h.write htables fun other hopen => .inr ?_, fun hledger => ?_⟩
    · exact open_update (hfence.open hopen) fun _ _ => .inl rfl
    · obtain ⟨r', hget', _, hplan, hguard, _⟩ := hfence call.operation r hget_r
      refine .goto hledger ⟨⟨sending call.remove_credentials r', ?_, .inl rfl, hplan, hguard⟩, rfl⟩
      rw [get_update_record, if_pos rfl, hget']
      rfl

theorem sound_send (hreviewing : Reviewing s.db call.operation record) : Sound (s.sent call record) := by
  obtain ⟨r, hget, hstate, _⟩ := hreviewing
  exact .goto (h.send ⟨r, hget, hstate⟩)
    ⟨⟨call.operation, call.digest, is_format record 4, .unknown⟩, List.getElem?_concat_length, rfl⟩

theorem sound_classified {guard_instance : String} {result : Fields} :
    Sound (classified s call guard_instance result) := by
  unfold classified
  split
  · exact .goto h trivial
  · exact .goto h nofun

theorem sound_replied (hcall : ∃ q, s.requests[request]? = some q ∧ q.operation = call.operation) :
    Sound (replied s call request answer) := by
  unfold replied
  split
  next => exact sound_classified h
  next =>
    split
    · obtain ⟨q, hget, hoperation⟩ := hcall
      refine .goto (h.refuse request) fun _ => ?_
      rw [← hoperation]
      exact refused_modify hget
    · exact .goto h nofun
  next => exact .leave h

theorem sound_was_read (hreviewing : Reviewing s.db call.operation record) : Sound (was_read s call record answer) := by
  unfold was_read
  split
  next =>
    split
    · split
      next hverified => exact .goto h ⟨hreviewing, hverified⟩
      next => exact .leave h
    · exact sound_classified h
  next => exact .goto h nofun
  next => exact .leave h

theorem sound_unsettled {code : String} {refused : Bool} (hcall : refused = true → Refused s.requests call.operation) :
    Sound (s.transact commit
      ((if refused then blocked s.db call.source call.operation call.actor code
        else uncertain s.db call.source call.operation call.actor code).map (·, ())) (fun s _ => s.leave)) := by
  refine .transact h fun db value hok => ?_
  obtain ⟨db, hnote, hpair⟩ := Except.map_eq_ok_iff.mp hok
  cases hpair
  refine ⟨?_, fun hledger => .leave hledger⟩
  split at hnote
  next hrefused =>
    obtain ⟨record, _, _, _, rfl⟩ := unsettled_ok hnote
    refine h.write (inv_unsettled h.tables hnote (.inr rfl)).1 fun other hopen => ?_
    -- The operation that is blocked is the one whose request was refused.
    by_cases heq : other = call.operation
    · exact .inl (heq ▸ hcall hrefused)
    · exact .inr (open_update hopen fun hop => absurd hop heq)
  next =>
    obtain ⟨record, _, _, _, rfl⟩ := unsettled_ok hnote
    refine h.write (inv_unsettled h.tables hnote (.inl rfl)).1 fun other hopen => ?_
    exact .inr (open_update hopen fun _ _ => .inr rfl)

/-- A note on a record of the coordinator. -/
theorem sound_annotate {next : State → State} (htables : Inv (annotate s.db call.operation f))
    (hf : ∀ r, (f r).state = r.state ∧ (f r).plan = r.plan ∧ (f r).guard_instance = r.guard_instance ∧
      (f r).receipt = r.receipt)
    (hnext : ∀ db, Untouched s.db db → Ledger db s.requests → Sound (next { s with db })) :
    Sound (s.transact commit (.ok (annotate s.db call.operation f, ())) (fun s _ => next s)) := by
  refine .transact h fun db value hok => ?_
  cases hok
  have hsame : Untouched s.db (annotate s.db call.operation f) := untouched_update hf rfl
  exact ⟨h.untouched htables hsame, hnext _ hsame⟩

theorem sound_resolved (hget : ∃ r, s.db.retirements.get call.operation = some r ∧ r.receipt = record.receipt) :
    Sound (resolved s call record) := by
  unfold resolved
  split
  next hclosed =>
    obtain ⟨receipt, hreceipt, hgeneration⟩ := (Option.any_eq_true ..).mp hclosed
    obtain ⟨r, hget, hsame⟩ := hget
    exact .goto h ⟨r, receipt, hget, hsame.trans hreceipt, hgeneration⟩
  next => exact .leave h

theorem sound_resolve {guard_instance : String} {receipt : Fields} :
    let result := retirement_journal.resolve s.db call.source call.operation call.actor guard_instance receipt
    let stored : State :=
      if commit.landed && result.isOk then { s with requests := settle s.requests call.operation } else s
    Sound (stored.transact commit result (fun s record => resolved s call record)) := by
  dsimp only
  cases hresult : retirement_journal.resolve s.db call.source call.operation call.actor guard_instance receipt with
  | error refusal =>
    simp only [Except.isOk, Except.toBool, Bool.and_false, Bool.false_eq_true, if_false]
    exact .leave h
  | ok result =>
    obtain ⟨db', record'⟩ := result
    have htables := (inv_resolve h.tables hresult).1
    obtain ⟨record, hget, _, hcases⟩ := resolve_ok hresult
    have hstored : Ledger db' (settle s.requests call.operation) := by
      refine h.settle htables fun other hne hopen => ?_
      rcases hcases with ⟨rfl, _⟩ | ⟨_, _, _, rfl, _⟩
      · exact hopen
      · exact open_update hopen fun heq => absurd heq hne
    have hget' : ∃ r, db'.retirements.get call.operation = some r ∧ r.receipt = record'.receipt := by
      rcases hcases with ⟨rfl, rfl, _⟩ | ⟨_, _, _, rfl, rfl⟩
      · exact ⟨record', hget, rfl⟩
      · refine ⟨succeeded receipt s.db.clock record, ?_, rfl⟩
        rw [get_update_record, if_pos rfl, hget]
        rfl
    simp only [Except.isOk, Except.toBool, Bool.and_true]
    cases commit with
    | committed => exact sound_resolved hstored hget'
    | unacknowledged fault => exact .leave hstored
    | lost fault => exact .leave h

end

theorem inv_remove_locked {expected_revision confirmed_source : String} {remove_credentials : Bool}
    {retirement_operation : Option Nat} (h : Inv db)
    (hremove : _remove_locked rt db source expected_revision confirmed_source remove_credentials
      retirement_operation = .ok db') : Inv db' := by
  obtain ⟨hretirements, hrecoveries, hsources⟩ := remove_locked_ok hremove
  refine h.frame ?_ ?_ ?_
  · exact fun r hr => ⟨r, hretirements ▸ hr, rfl, rfl, rfl, id, id⟩
  · exact fun c hc => ⟨c, hrecoveries ▸ hc, rfl, rfl, id, .inl⟩
  · intro r _ _ row hrow hdisabled
    rw [Database.row, hsources]
    exact disabled_of_update_source (f := fun row => { row with enabled := false, sync_enabled := false })
      (fun _ => rfl) (fun _ _ => rfl) hrow hdisabled

section

variable (h : Ledger s.db s.requests) (hclosed : Closed s.db call.operation)
include h hclosed

theorem sound_removed : Sound (removed s call record) := by
  refine .goto h ?_
  split <;> exact hclosed

theorem sound_checked : Sound (checked rt s call record) := by
  unfold checked
  split
  next => exact .leave h
  next =>
    split
    · split
      · exact sound_removed h hclosed
      · exact .leave h
    · split
      · exact sound_removed h hclosed
      · exact .goto h hclosed

theorem sound_remove {revision : String} :
    Sound (s.transact commit
      ((_remove_locked rt s.db call.source revision call.confirmed_source call.remove_credentials
        (some call.operation)).map (·, ()))
      (fun s _ => if call.remove_credentials then s.goto call (.clearing record) else removed s call record)) := by
  refine .transact h fun db value hok => ?_
  obtain ⟨db, hremove, hpair⟩ := Except.map_eq_ok_iff.mp hok
  cases hpair
  have hsame : Untouched s.db db := untouched_of_eq (remove_locked_ok hremove).1
  refine ⟨h.untouched (inv_remove_locked h.tables hremove) hsame, fun hledger => ?_⟩
  split
  · exact .goto hledger (hsame.closed hclosed)
  · exact sound_removed hledger (hsame.closed hclosed)

theorem sound_clean {cleanup : List String → Option Bool} {next : State → CredentialState → State}
    (hnext : ∀ db state, Ledger db s.requests → Closed db call.operation → Sound (next { s with db } state)) :
    Sound (s.transact .committed (cleanup_credentials s.db call.source cleanup) next) := by
  refine .transact h fun db state hok => ?_
  rcases cleanup_credentials_ok hok with rfl | ⟨tombstone, rfl⟩
  · exact ⟨h, fun hledger => hnext _ _ hledger hclosed⟩
  · refine ⟨h.untouched (h.tables.same rfl rfl rfl) (untouched_of_eq rfl), fun hledger => ?_⟩
    exact hnext _ _ hledger hclosed

theorem sound_cleaned_up {state : CredentialState} : Sound (cleaned_up s call record state) := by
  refine .goto h ?_
  split
  · exact hclosed
  · split <;> exact hclosed

end

/-- An open operation keeps its record when another of its source is erased: it would be in flight beside it. -/
theorem open_erased {other : Nat} (h : Inv db) (hopen : Open db other)
    (hget : db.retirements.get operation = some record) (hstate : record.state = .SUCCEEDED)
    (hcurrent : record.superseded_by = none) : Open (erased db record.source_instance) other := by
  obtain ⟨r, hget_r, hr_state⟩ := hopen
  obtain ⟨hmem_r, hid_r⟩ := Table.mem_of_get hget_r
  obtain ⟨hmem, hid⟩ := Table.mem_of_get hget
  refine ⟨r, Table.get_deleteWhere hget_r ?_, hr_state⟩
  rw [decide_eq_false_iff_not]
  intro hown
  have hflight : r.state.in_flight = true := by
    rcases hr_state with hr_state | hr_state <;> rw [hr_state] <;> rfl
  have hsame := h.alone r hmem_r record hmem hown hflight (by rw [hstate]; rfl)
    ((h.sound r hmem_r).current hr_state) hcurrent
  obtain rfl := Table.eq_of_id hmem_r hmem (congrArg Int.ofNat hsame)
  simp [hstate] at hr_state

theorem ledger_finalized {actor : String} {admitted : Bool} (h : Ledger db requests)
    (hok : finalized db source operation actor admitted = .ok db') : Ledger db' requests := by
  refine h.write (inv_finalized h.tables hok).1 fun other hopen => .inr ?_
  obtain ⟨record, hget, rfl, hstate, ⟨rfl, hsucceeded, hcurrent⟩ | ⟨⟨_, _, hretirements⟩, _⟩⟩ := finalized_ok hok
  · exact open_erased h.tables hopen hget hsucceeded hcurrent
  · obtain ⟨r, hget_r, hr_state⟩ := hopen
    have hne : other ≠ operation := by
      rintro rfl
      rw [hget] at hget_r
      cases hget_r
      rcases hr_state with hr_state | hr_state <;> simp [hr_state] at hstate
    refine ⟨r, ?_, hr_state⟩
    rw [hretirements, get_update_record, if_neg hne]
    exact hget_r

theorem sound_call_step (h : Sound s) (hactive : s.active = some call) (hstep : call_step rt s call action = some s') :
    Sound s' := by
  have hledger := h.ledger
  have hcall := h.call call hactive
  unfold Call.Sound at hcall
  cases action <;> simp only [call_step] at hstep
  case other | execute => cases hstep
  case crash =>
    cases hstep
    exact .leave hledger
  case lookup =>
    split at hstep <;> cases hstep
    exact sound_looked_up hledger
  case resume commit =>
    split at hstep <;> cases hstep
    exact sound_resume hledger
  case begin commit =>
    split at hstep <;> cases hstep
    next hpoint =>
      simp only [hpoint] at hcall
      exact sound_begin hledger hcall
  case send =>
    split at hstep <;> cases hstep
    next hpoint =>
      simp only [hpoint] at hcall
      exact sound_send hledger hcall.1
  case reply answer =>
    split at hstep <;> cases hstep
    next hpoint =>
      simp only [hpoint] at hcall
      exact sound_replied hledger hcall
  case read answer =>
    split at hstep <;> cases hstep
    next hpoint =>
      simp only [hpoint] at hcall
      exact sound_was_read hledger hcall
    next => exact .goto hledger trivial
    next => exact .leave hledger
  case note commit =>
    split at hstep <;> cases hstep
    next hpoint =>
      simp only [hpoint] at hcall
      exact sound_unsettled hledger hcall
    next =>
      refine sound_annotate hledger ?_ (fun _ => ⟨rfl, rfl, rfl, rfl⟩) (fun db _ hdb => .leave hdb)
      exact inv_annotate hledger.tables fun r => ⟨rfl, rfl, rfl, fun hsound => { hsound with }⟩
  case resolve commit =>
    split at hstep <;> cases hstep
    exact sound_resolve hledger
  case check =>
    split at hstep <;> cases hstep
    next hpoint =>
      simp only [hpoint] at hcall
      exact sound_checked hledger hcall
  case remove commit =>
    split at hstep <;> cases hstep
    next hpoint =>
      simp only [hpoint] at hcall
      exact sound_remove hledger hcall
  case clean cleanup =>
    split at hstep <;> cases hstep
    next hpoint =>
      simp only [hpoint] at hcall
      exact sound_clean hledger hcall fun _ _ hdb hclosed => sound_removed hdb hclosed
    next hpoint =>
      simp only [hpoint] at hcall
      exact sound_clean hledger hcall fun _ _ hdb hclosed => sound_cleaned_up hdb hclosed
  case finish cleanup =>
    split at hstep <;> cases hstep
    next hpoint =>
      simp only [hpoint] at hcall
      refine .goto hledger ?_
      split <;> exact hcall
  case purge_local answer =>
    split at hstep
    next hpoint =>
      simp only [hpoint] at hcall
      split at hstep <;> cases hstep
      · exact .goto hledger hcall
      · exact .leave hledger
    next =>
      cases hstep
      exact .leave hledger
    next => cases hstep
  case verify commit =>
    split at hstep <;> cases hstep
    next hpoint =>
      simp only [hpoint] at hcall
      refine sound_annotate hledger ?_ (fun _ => ⟨rfl, rfl, rfl, rfl⟩) fun db hsame hdb => ?_
      · exact inv_annotate hledger.tables fun r => ⟨rfl, rfl, rfl, fun hsound => { hsound with }⟩
      · exact .goto hdb (hsame.closed hcall)
  case finalize admitted commit =>
    split at hstep
    next hpoint =>
      simp only [hpoint] at hcall
      split at hstep
      next =>
        split at hstep <;> cases hstep
        · exact .goto hledger hcall
        · exact .leave hledger
      next =>
        cases hstep
        refine .transact hledger fun db value hok => ?_
        obtain ⟨db, hfinalized, hpair⟩ := Except.map_eq_ok_iff.mp hok
        cases hpair
        exact ⟨ledger_finalized hledger hfinalized, fun hdb => .leave hdb⟩
    next => cases hstep

theorem sound_step (h : Sound s) (hstep : step rt s action = some s') : Sound s' := by
  unfold step at hstep
  split at hstep
  next action =>
    split at hstep
    next => cases hstep
    next hother =>
      obtain ⟨db, hdb, rfl⟩ := Option.map_eq_some_iff.mp hstep
      have hsame := untouched_of_step (Bool.eq_false_iff.mpr hother) hdb
      exact ⟨h.ledger.untouched (inv_step h.ledger.tables hdb).1 hsame,
        fun call hactive => hsame.sound (h.call call hactive)⟩
  next =>
    split at hstep <;> cases hstep
    refine ⟨h.ledger, fun call hactive => ?_⟩
    cases hactive
    trivial
  next =>
    obtain ⟨call, hactive, hcall⟩ := Option.bind_eq_some_iff.mp hstep
    exact sound_call_step h hactive hcall

theorem sound_reachable (h : (machine rt).Reachable s) : Sound s := by
  refine h.invariant (P := Sound) (fun s hinit => ?_) (fun _ _ _ _ hsound hstep => sound_step hsound hstep)
  obtain ⟨hdb, hactive, hrequests⟩ := hinit
  refine ⟨⟨inv_init hdb, by simp [hrequests]⟩, fun call hcall => ?_⟩
  rw [hactive] at hcall
  cases hcall

/-- The call sends nothing and is still the one it was. -/
def Continues (s s' : State) (call : Call) : Prop :=
  s'.requests.length = s.requests.length ∧
    ∀ call', s'.active = some call' → call'.operation = call.operation ∧ call'.moved = call.moved

/-- The call takes its operation from `READY` to `SENDING`. -/
def Dispatches (s s' : State) (call : Call) : Prop :=
  s'.requests.length = s.requests.length ∧
    (∀ call', s'.active = some call' → call'.operation = call.operation) ∧
    ∃ r r', s.db.retirements.get call.operation = some r ∧ r.state = .READY ∧
      s'.db.retirements.get call.operation = some r' ∧ r'.state = .SENDING

theorem continues_leave : Continues s s.leave call := by
  refine ⟨rfl, fun call' hactive => ?_⟩
  cases hactive

theorem continues_goto (point : Point) : Continues s (s.goto call point) call := by
  refine ⟨rfl, fun call' hactive => ?_⟩
  cases hactive
  exact ⟨rfl, rfl⟩

theorem continues_transact {α : Type} {result : Except Refusal (Database × α)} {next : State → α → State}
    (hnext : ∀ db value, Continues s (next { s with db } value) call) :
    Continues s (s.transact commit result next) call := by
  unfold State.transact
  split
  · exact hnext _ _
  · exact continues_leave
  · exact continues_leave

theorem continues_replied : Continues s (replied s call request answer) call := by
  unfold replied classified
  split
  · split <;> exact continues_goto _
  · split
    · refine ⟨List.length_modify .., fun call' hactive => ?_⟩
      cases hactive
      exact ⟨rfl, rfl⟩
    · exact continues_goto _
  · exact continues_leave

theorem continues_was_read : Continues s (was_read s call record answer) call := by
  unfold was_read classified
  split
  · split
    · split
      · exact continues_goto _
      · exact continues_leave
    · split <;> exact continues_goto _
  · exact continues_goto _
  · exact continues_leave

theorem continues_checked : Continues s (checked rt s call record) call := by
  unfold checked removed
  split
  · exact continues_leave
  · split
    · split
      · exact continues_goto _
      · exact continues_leave
    · split <;> exact continues_goto _

/-- `begin` dispatches only what it takes from `READY` to `SENDING`. -/
theorem begin_cases (s : State) (call : Call) (commit : Commit) :
    let s' := s.transact commit
      (retirement_journal.begin rt s.db call.source call.operation call.actor call.digest call.confirmed_source
        call.remove_credentials) (fun s result => begun s call result.1 result.2)
    Continues s s' call ∨ Dispatches s s' call := by
  intro s'
  cases hresult : retirement_journal.begin rt s.db call.source call.operation call.actor call.digest
      call.confirmed_source call.remove_credentials with
  | error refusal =>
    simp only [s', hresult]
    exact .inl continues_leave
  | ok result =>
    obtain ⟨db', record', dispatch⟩ := result
    simp only [s', hresult]
    cases commit with
    | lost fault => exact .inl continues_leave
    | unacknowledged fault => exact .inl continues_leave
    | committed =>
      obtain ⟨record, hget, _, _, ⟨_, rfl, _⟩ | ⟨hready, rfl, _, _, archive, _, rfl, rfl⟩⟩ := begin_ok hresult
      · left
        simp only [State.transact, begun]
        split
        · exact continues_leave
        · split <;> exact continues_goto _
      · right
        have hfence : Untouched s.db (fence s.db call.source call.operation archive) := untouched_fence archive
        obtain ⟨r', hget', _⟩ := hfence call.operation record hget
        have hsent : (update_record (fence s.db call.source call.operation archive) call.operation
            (sending call.remove_credentials)).get call.operation = some (sending call.remove_credentials r') := by
          rw [get_update_record, if_pos rfl, hget']
          rfl
        refine ⟨rfl, fun call' hactive => ?_, record, sending call.remove_credentials r', hget, hready, hsent, rfl⟩
        cases hactive
        rfl

/-- What the step of a call does to the requests, and to what the call remembers: nothing, unless it sends or its
    `begin` takes the operation to `SENDING`. -/
theorem call_step_cases (hstep : call_step rt s call action = some s') :
    Continues s s' call ∨
      (∃ record intent, call.point = .dispatching record intent ∧ s' = s.sent call record) ∨
      Dispatches s s' call := by
  cases action <;> simp only [call_step] at hstep
  case other | execute => cases hstep
  case crash =>
    cases hstep
    exact .inl continues_leave
  case lookup =>
    split at hstep <;> cases hstep
    left
    unfold looked_up
    split
    · exact continues_leave
    · split
      · exact continues_goto _
      · split
        · exact continues_leave
        · exact continues_goto _
  case resume commit =>
    split at hstep <;> cases hstep
    exact .inl (continues_transact fun _ _ => continues_goto _)
  case begin commit =>
    split at hstep <;> cases hstep
    exact (begin_cases s call commit).imp_right .inr
  case send =>
    split at hstep <;> cases hstep
    next record intent hpoint => exact .inr (.inl ⟨record, intent, hpoint, rfl⟩)
  case reply answer =>
    split at hstep <;> cases hstep
    exact .inl continues_replied
  case read answer =>
    split at hstep <;> cases hstep
    · exact .inl continues_was_read
    · exact .inl (continues_goto _)
    · exact .inl continues_leave
  case note commit =>
    split at hstep <;> cases hstep
    · exact .inl (continues_transact fun _ _ => continues_leave)
    · exact .inl (continues_transact fun _ _ => continues_leave)
  case resolve commit =>
    split at hstep <;> cases hstep
    next guard_instance receipt _ =>
      left
      have hnext : ∀ stored : State, Continues stored (stored.transact commit
          (retirement_journal.resolve s.db call.source call.operation call.actor guard_instance receipt)
          (fun s record => resolved s call record)) call := by
        refine fun stored => continues_transact fun db record => ?_
        unfold resolved
        split
        · exact continues_goto _
        · exact continues_leave
      split
      · exact ⟨(hnext _).1.trans (List.length_map ..), (hnext _).2⟩
      · exact hnext s
  case check =>
    split at hstep <;> cases hstep
    exact .inl continues_checked
  case remove commit =>
    split at hstep <;> cases hstep
    refine .inl (continues_transact fun _ _ => ?_)
    split
    · exact continues_goto _
    · exact continues_goto _
  case clean cleanup =>
    split at hstep <;> cases hstep
    · exact .inl (continues_transact fun _ _ => continues_goto _)
    · exact .inl (continues_transact fun _ _ => continues_goto _)
  case finish cleanup =>
    split at hstep <;> cases hstep
    exact .inl (continues_goto _)
  case purge_local answer =>
    split at hstep
    · split at hstep <;> cases hstep
      · exact .inl (continues_goto _)
      · exact .inl continues_leave
    · cases hstep
      exact .inl continues_leave
    · cases hstep
  case verify commit =>
    split at hstep <;> cases hstep
    exact .inl (continues_transact fun _ _ => continues_goto _)
  case finalize admitted commit =>
    split at hstep
    · split at hstep
      · split at hstep <;> cases hstep
        · exact .inl (continues_goto _)
        · exact .inl continues_leave
      · cases hstep
        exact .inl (continues_transact fun _ _ => continues_leave)
    · cases hstep

/-- A request leaves only at a call that is dispatching. -/
theorem sent_of_step (hstep : step rt s action = some s') (hsent : s'.requests.length ≠ s.requests.length) :
    ∃ call record intent, s.active = some call ∧ call.point = .dispatching record intent ∧
      s' = s.sent call record := by
  unfold step at hstep
  split at hstep
  next =>
    split at hstep
    next => cases hstep
    next =>
      obtain ⟨db, _, rfl⟩ := Option.map_eq_some_iff.mp hstep
      exact absurd rfl hsent
  next =>
    split at hstep <;> cases hstep
    exact absurd rfl hsent
  next =>
    obtain ⟨call, hactive, hcall⟩ := Option.bind_eq_some_iff.mp hstep
    rcases call_step_cases hcall with hcontinues | ⟨record, intent, hpoint, rfl⟩ | ⟨hquiet, _⟩
    · exact absurd hcontinues.1 hsent
    · exact ⟨call, record, intent, hactive, hpoint, rfl⟩
    · exact absurd hquiet hsent

/-- A call remembers to have moved its operation from the step that did. -/
theorem moved_of_step {call' : Call} (hstep : step rt s action = some s') (hactive' : s'.active = some call')
    (hmoved : call'.moved = true) :
    (∃ call, s.active = some call ∧ call.operation = call'.operation ∧ call.moved = true) ∨
      ∃ r r', s.db.retirements.get call'.operation = some r ∧ r.state = .READY ∧
        s'.db.retirements.get call'.operation = some r' ∧ r'.state = .SENDING := by
  unfold step at hstep
  split at hstep
  next =>
    split at hstep
    next => cases hstep
    next =>
      obtain ⟨db, _, rfl⟩ := Option.map_eq_some_iff.mp hstep
      exact .inl ⟨call', hactive', rfl, hmoved⟩
  next =>
    split at hstep <;> cases hstep
    cases hactive'
    cases hmoved
  next =>
    obtain ⟨call, hactive, hcall⟩ := Option.bind_eq_some_iff.mp hstep
    rcases call_step_cases hcall with ⟨_, hsame⟩ | ⟨record, intent, _, rfl⟩ | ⟨_, hsame, hmove⟩
    · obtain ⟨hoperation, hmoved'⟩ := hsame call' hactive'
      exact .inl ⟨call, hactive, hoperation.symm, hmoved'.symm.trans hmoved⟩
    · cases hactive'
      exact .inl ⟨call, hactive, rfl, hmoved⟩
    · rw [hsame call' hactive']
      exact .inr hmove

/-- The tombstone, the cleanup of credentials, the purge and the end. -/
def Action.is_local : Action → Bool
  | .remove _ | .clean _ | .finish _ | .purge_local _ | .verify _ | .finalize .. => true
  | _ => false

theorem closed_of_local (h : Sound s) (hlocal : action.is_local = true) (hstep : step rt s action = some s') :
    ∃ call, s.active = some call ∧ Closed s.db call.operation := by
  have hcall : ∃ call, s.active = some call ∧ call_step rt s call action = some s' := by
    cases action <;> first | exact Option.bind_eq_some_iff.mp hstep | cases hlocal
  obtain ⟨call, hactive, hstep⟩ := hcall
  have hsound := h.call call hactive
  refine ⟨call, hactive, ?_⟩
  -- Each of these actions asks for a point where the call knows it.
  cases hpoint : call.point <;> simp only [Call.Sound, hpoint] at hsound <;> first
    | exact hsound
    | cases action <;> simp [Action.is_local] at hlocal <;> simp [call_step, hpoint] at hstep

end

/-- One source, and no call yet. -/
def idle : State := { db := registered }

/-- The guard's answer about the source with one device; a generation that an older guard retired is not closed. -/
def guard_answer (status : String) (deleted : List Value) (closed : Bool) : Fields :=
  [("nonce", .str "1"), ("source_instance", .str "esxi-a"), ("status", .str status), ("digest", .str ""),
    ("manifest", .obj [("format", .int 2), ("cluster_id", .int 2),
      ("objects", .arr [.arr [.str "device:5", .str ""]])]),
    ("deleted", .arr deleted), ("generation_closed", .bool closed)]

/-- The review, and a call that sends its request. -/
def first_request : List Action :=
  [.other (.prepare "esxi-a" 1 "admin" "" "guard" (guard_answer "REVIEWED" [] false)),
    .execute "esxi-a" 1 "admin" "" "Host A" true false, .lookup, .begin .committed, .send]

/-- The answer is lost and the journal notes that. -/
def lost_answer : List Action := [.reply (.control "RETIREMENT_UNCERTAIN"), .note .committed]

end netbox_sync.retirement_coordinator
