import NetboxSync.Broker.Ownership

namespace netbox_sync.secret_broker

section

variable {s s' : State} {call : Call} {key operation_id : String} {value : Bytes}

/-- A file that a crash left without its last attribute is on the disk, and the request that is served does not touch
    it. -/
structure Stuck (s : State) (key : String) : Prop where
  entry : (s.directory key).Synced
  file : ∃ file, s.directory.get key = some file ∧ file.Unfinished
  create : ∀ call, s.active = some call → ∀ operation_id value, call.request = .create operation_id key value →
    call.point = .opening ∨ call.point = .repeating
  remove : ∀ call, s.active = some call → ∀ rest,
    call.point = .unlinking rest ∨ call.point = .unlinking_directory rest → key ∉ rest

section

variable (h : Stuck s key)
include h

/-- No receipt set is read from the file. -/
theorem Stuck.unread : ∃ file code, s.directory.get key = some file ∧ _stored_attributes file = .error code := by
  obtain ⟨file, hget, hunfinished⟩ := h.file
  cases hstored : _stored_attributes file with
  | ok result => exact absurd hstored (not_stored_of_unfinished hunfinished)
  | error code => exact ⟨file, code, hget, hstored⟩

theorem Stuck.not_verified (operation_id : String) : verify_owned s.directory operation_id key = false := by
  obtain ⟨file, code, hget, hstored⟩ := h.unread
  simp [verify_owned, hget, hstored]

theorem Stuck.not_repeated (operation_id : String) (value : Bytes) :
    ∃ code, _repeat_create s.directory operation_id key value = .error code := by
  obtain ⟨file, code, hget, hstored⟩ := h.unread
  refine ⟨code, ?_⟩
  simp only [_repeat_create, hget, hstored]
  rfl

theorem Stuck.may_not_roll_back (rollback_token : String) :
    may_roll_back s.directory operation_id key rollback_token = false := by
  obtain ⟨file, code, hget, hstored⟩ := h.unread
  simp [may_roll_back, hget, hstored]

theorem Stuck.may_not_remove : may_remove s.directory key = false := by
  obtain ⟨file, code, hget, hstored⟩ := h.unread
  simp [may_remove, hget, hstored]

/-- What leaves the file alone, and the request away from it, keeps it stuck. -/
theorem Stuck.keep (hentry : s'.directory key = s.directory key)
    (hcreate : ∀ call, s'.active = some call → ∀ operation_id value, call.request = .create operation_id key value →
      call.point = .opening ∨ call.point = .repeating)
    (hremove : ∀ call, s'.active = some call → ∀ rest, call.point = .unlinking rest ∨
      call.point = .unlinking_directory rest → key ∉ rest) : Stuck s' key := by
  refine ⟨hentry ▸ h.entry, ?_, hcreate, hremove⟩
  unfold Directory.get
  rw [hentry]
  exact h.file

theorem Stuck.reply (hentry : s'.directory key = s.directory key) (hactive : s'.active = none) : Stuck s' key := by
  refine h.keep hentry ?_ ?_ <;> intro call hcall <;> rw [hactive] at hcall <;> cases hcall

end

/-- The request is at one of the points of a create. -/
def Point.of_create : Point → Bool
  | .checking | .unlinking _ | .unlinking_directory _ => false
  | _ => true

theorem sync_entry (hsynced : (s.directory key).Synced) : s.directory.sync key = s.directory key := by
  show (s.directory key).sync = _
  unfold Cell.sync
  rw [← show (s.directory key).older = [] from hsynced]

variable {private_mode root_owned : Bool} {count : Nat} {file : File}

/-- A create leaves the other names alone. -/
theorem entry_create_succeeds {key' : String} (hne : key' ≠ key) (hsynced : (s.directory key').Synced)
    (hstep : create_succeeds s call operation_id key value private_mode root_owned count = some s') :
    s'.directory key' = s.directory key' ∧
      (s'.active = none ∨ ∃ point, s'.active = some { call with point } ∧ point.of_create = true) := by
  have hmodify (f : File → File) : s.directory.modify key f key' = s.directory key' := if_neg hne
  have hlink (file : Option File) : s.directory.link key file key' = s.directory key' := if_neg hne
  have hsync := sync_entry hsynced
  cases hpoint : call.point <;> simp only [create_succeeds, hpoint] at hstep
  case opening =>
    split at hstep <;> cases hstep
    · exact ⟨rfl, .inr ⟨_, rfl, rfl⟩⟩
    · exact ⟨hlink _, .inr ⟨_, rfl, rfl⟩⟩
  case writing rest =>
    rw [Option.ite_none_right_eq_some] at hstep
    obtain ⟨_, hstep⟩ := hstep
    cases hstep
    refine ⟨hmodify _, .inr ⟨_, rfl, ?_⟩⟩
    split <;> rfl
  case repeating =>
    split at hstep <;> cases hstep
    · exact ⟨rfl, .inr ⟨_, rfl, rfl⟩⟩
    · exact ⟨rfl, .inl rfl⟩
  case cleaning =>
    split at hstep <;> cases hstep
    · exact ⟨hlink _, .inr ⟨_, rfl, rfl⟩⟩
    · exact ⟨rfl, .inl rfl⟩
  all_goals
    cases hstep
    try first
      | exact ⟨hmodify _, .inr ⟨_, rfl, rfl⟩⟩
      | exact ⟨hsync, .inl rfl⟩

section

variable (h : Stuck s key)
include h

theorem stuck_create_succeeds {key' : String} (hactive : s.active = some call)
    (hrequest : call.request = .create operation_id key' (some value))
    (hstep : create_succeeds s call operation_id key' value private_mode root_owned count = some s') :
    Stuck s' key := by
  by_cases hkey : key = key'
  · subst hkey
    -- The open finds the file, and the replay refuses it.
    rcases h.create call hactive _ _ hrequest with hpoint | hpoint <;>
      simp only [create_succeeds, hpoint] at hstep
    · obtain ⟨file, hget, _⟩ := h.file
      rw [hget] at hstep
      cases hstep
      refine h.keep rfl (fun call' hcall => ?_) (fun call' hcall => ?_) <;> cases hcall
      · exact fun _ _ _ => .inr rfl
      · rintro _ (hrest | hrest) <;> cases hrest
    · obtain ⟨code, hrepeat⟩ := h.not_repeated operation_id value
      rw [hrepeat] at hstep
      cases hstep
      exact h.reply rfl rfl
  · obtain ⟨hentry, hnone | ⟨point, hsome, hof⟩⟩ := entry_create_succeeds hkey h.entry hstep
    · exact h.reply hentry hnone
    · refine h.keep hentry (fun call' hcall => ?_) (fun call' hcall => ?_) <;> rw [hsome] at hcall <;> cases hcall
      · intro _ _ hrequest'
        rw [show call.request = _ from hrequest] at hrequest'
        cases hrequest'
        exact absurd rfl hkey
      · rintro _ (hrest | hrest) <;> rw [show point = _ from hrest] at hof <;> cases hof

theorem stuck_create_fails (hactive : s.active = some call) (hstep : create_fails s call = some s') : Stuck s' key := by
  rcases create_fails_cases hstep with ⟨code, rfl⟩ | ⟨hcreates, rfl⟩
  · exact h.reply rfl rfl
  · refine h.keep rfl (fun call' hcall => ?_) (fun call' hcall => ?_) <;> cases hcall
    · intro operation_id value hrequest
      rcases h.create call hactive _ _ hrequest with hpoint | hpoint <;> rw [hpoint] at hcreates <;> cases hcreates
    · rintro _ (hrest | hrest) <;> cases hrest

theorem stuck_next_unlink {rest : List String} (hentry : s'.directory key = s.directory key)
    (hrequest : call.request.removes = true) (hrest : key ∉ rest) : Stuck (next_unlink s' call rest) key := by
  cases rest with
  | nil => exact h.reply hentry rfl
  | cons first rest =>
    refine h.keep hentry (fun call' hcall => ?_) (fun call' hcall => ?_) <;> cases hcall
    · intro _ _ hcreate
      rw [show call.request = _ from hcreate] at hrequest
      cases hrequest
    · rintro _ (hpoint | hpoint) <;> cases hpoint
      exact hrest

theorem stuck_remove_succeeds (hinv : Inv s) (hactive : s.active = some call)
    (hstep : remove_succeeds s call = some s') : Stuck s' key := by
  have hcall := hinv.call call hactive
  unfold remove_succeeds at hstep
  split at hstep
  next =>
    split at hstep
    next operation_id key' rollback_token hrequest =>
      split at hstep <;> cases hstep
      next hallowed =>
        have hkey : key ≠ key' := by
          rintro rfl
          rw [h.may_not_roll_back] at hallowed
          cases hallowed
        have hnext : Stuck (next_unlink s call [key']) key := by
          refine stuck_next_unlink h rfl (by rw [hrequest]; rfl) ?_
          rw [List.mem_singleton]
          exact hkey
        exact hnext
      next => exact h.reply rfl rfl
    next keys hrequest =>
      split at hstep <;> cases hstep
      next hallowed =>
        refine stuck_next_unlink h rfl (by rw [hrequest]; rfl) fun hmem => ?_
        have hremove := List.all_eq_true.mp hallowed key (List.mem_of_mem_filter hmem)
        rw [h.may_not_remove] at hremove
        cases hremove
      next => exact h.reply rfl rfl
    next =>
      cases hstep
      exact h.reply rfl rfl
    next => cases hstep
  next key' rest hpoint =>
    cases hstep
    have hrest := h.remove call hactive _ (.inl hpoint)
    rw [List.mem_cons, not_or] at hrest
    refine h.keep (if_neg hrest.1) (fun call' hcall' => ?_) (fun call' hcall' => ?_) <;> cases hcall'
    · intro _ _ hcreate
      have hremoves := (hcall.unlinking _ hpoint).1
      rw [show call.request = _ from hcreate] at hremoves
      cases hremoves
    · rintro _ (hother | hother) <;> cases hother
      exact hrest.2
  next rest hpoint =>
    cases hstep
    exact stuck_next_unlink h (sync_entry h.entry) (hcall.unlinking_directory _ hpoint).1
      (h.remove call hactive _ (.inr hpoint))
  next => cases hstep

theorem stuck_step {action : Action} (hinv : Inv s) (hstep : step s action = some s') : Stuck s' key := by
  cases action with
  | request request rollback_token =>
    simp only [step] at hstep
    split at hstep
    next => cases hstep
    next hidle =>
      split at hstep <;> cases hstep
      · refine h.keep rfl (fun call' hcall => ?_) (fun call' hcall => ?_) <;> cases hcall
        · intro _ _ hcreate
          obtain rfl : request = _ := hcreate
          exact .inl rfl
        · rintro _ (hpoint | hpoint) <;> cases request <;> cases hpoint
      · exact h.reply rfl hidle
  | succeeds private_mode root_owned count =>
    obtain ⟨call, hactive, hstep⟩ := Option.bind_eq_some_iff.mp hstep
    split at hstep
    next hrequest => exact stuck_create_succeeds h hactive hrequest hstep
    next => exact stuck_remove_succeeds h hinv hactive hstep
  | fails =>
    obtain ⟨call, hactive, hstep⟩ := Option.bind_eq_some_iff.mp hstep
    split at hstep
    next => exact stuck_create_fails h hactive hstep
    next =>
      obtain ⟨reply, rfl, _⟩ := remove_fails_cases hstep
      exact h.reply rfl rfl
  | exits =>
    cases hstep
    exact h.reply rfl rfl
  | crash choice =>
    cases hstep
    obtain ⟨file, hget, hunfinished⟩ := h.file
    refine ⟨rfl, ⟨file.crash (choice key), ?_, hunfinished.crash _⟩, by rintro _ ⟨⟩, by rintro _ ⟨⟩⟩
    unfold Directory.get at hget ⊢
    simp only [Directory.crash, h.entry.crash_eq, hget, Option.map_some]

/-- Nothing the broker is asked for helps a stuck file. -/
theorem stuck_run {actions : List Action} (hreachable : machine.Reachable s) (hrun : machine.run s actions = some s') :
    Stuck s' key := by
  induction actions generalizing s with
  | nil =>
    cases hrun
    exact h
  | cons action actions ih =>
    obtain ⟨next, hnext, hrest⟩ := Option.bind_eq_some_iff.mp hrun
    exact ih (stuck_step h (inv_reachable hreachable) hnext) (hreachable.step action hnext) hrest

end

/-- How many system calls a create has left where it stands, when a write takes all of the value. -/
def remaining (value : Bytes) : Point → Option Nat
  | .chmod => some 9
  | .chown => some 8
  | .set_operation => some 7
  | .set_receipt => some 6
  | .writing rest => if rest = value then some 5 else none
  | .syncing => some 4
  | .set_complete => some 3
  | .syncing_complete => some 2
  | .syncing_directory => some 1
  | _ => none

/-- The next create of the key, if its system calls succeed, returns a receipt and its file is verified. -/
def Recovers (s : State) (operation_id key : String) (value : Bytes) : Prop :=
  ∀ rollback_token, ∃ calls s' receipt,
    machine.run s (.request (.create operation_id key (some value)) rollback_token ::
      List.replicate calls (.succeeds true true value.length)) = some s' ∧
    s'.active = none ∧ s'.replies = s.replies ++ [(.create operation_id key (some value), .token receipt)] ∧
    verify_owned s'.directory operation_id key = true

theorem verified_of_completed (hget : s.directory.get key = some file) (h : Completed call operation_id value file) :
    verify_owned s.directory operation_id key = true := by
  simp [verify_owned, hget, h.stored, h.owned]

theorem step_request {request : Request} (hidle : s.active = none) (hvalid : validated request = .ok ())
    (rollback_token : String) :
    ∃ s' call, machine.step s (.request request rollback_token) = some s' ∧ s'.active = some call ∧
      call.request = request ∧ call.point = first_point request ∧ s'.directory = s.directory ∧
      s'.replies = s.replies := by
  simp only [machine, step, hidle]
  split
  next => exact ⟨_, _, rfl, rfl, rfl, rfl, rfl, rfl⟩
  next heq =>
    rw [hvalid] at heq
    cases heq

/-- A file that is verified, and holds the value, is found by the replay. -/
theorem repeat_create_of_verified (hverified : verify_owned s.directory operation_id key = true)
    (hget : s.directory.get key = some file) (hdata : file.data.now = value)
    (hvalue : value.length ≤ MAX_SECRET_BYTES) :
    ∃ receipt, _repeat_create s.directory operation_id key value = .ok receipt := by
  unfold verify_owned at hverified
  simp only [hget] at hverified
  split at hverified
  next stored new hstored =>
    simp only [Bool.and_eq_true, decide_eq_true_eq] at hverified
    obtain ⟨⟨howned, hoperation⟩, hcomplete⟩ := hverified
    refine ⟨stored.receipt, ?_⟩
    have htake : file.data.now.take (MAX_SECRET_BYTES + 1) = value := by
      rw [hdata]
      exact List.take_of_length_le (by omega)
    simp only [_repeat_create, hget, Except.bind_eq_ok_iff, Except.require_eq_ok_iff]
    exact ⟨_, hstored, (), by simp [howned, hoperation, hcomplete, htake], rfl⟩
  next => cases hverified

theorem verify_owned_sync (operation_id' key' : String) :
    verify_owned (s.directory.modify key File.sync) operation_id' key' =
      verify_owned s.directory operation_id' key' := by
  unfold verify_owned
  rw [get_modify]
  by_cases heq : key' = key
  · rw [if_pos heq, heq]
    cases s.directory.get key with
    | none => rfl
    | some file => rfl
  · rw [if_neg heq]

section

variable (hactive : s.active = some call) (hrequest : call.request = .create operation_id key (some value))
include hactive hrequest

theorem step_create :
    machine.step s (.succeeds private_mode root_owned count) =
      create_succeeds s call operation_id key value private_mode root_owned count := by
  simp only [machine, step, hactive, Option.bind_some, hrequest]

/-- A create that is not at its end takes one more system call. -/
theorem create_proceeds {n : Nat} (hleft : remaining value call.point = some (n + 2)) :
    ∃ s' point, machine.step s (.succeeds true true value.length) = some s' ∧ s'.active = some { call with point } ∧
      remaining value point = some (n + 1) ∧ s'.replies = s.replies := by
  have hpos := (value_length hrequest).1
  rw [step_create hactive hrequest]
  cases hpoint : call.point <;> rw [hpoint] at hleft <;> simp only [remaining] at hleft <;>
    simp only [create_succeeds, hpoint]
  case writing rest =>
    split at hleft <;> cases hleft
    next heq =>
      rw [heq, if_pos (by simpa using hpos), List.drop_length, if_pos rfl]
      exact ⟨_, .syncing, rfl, rfl, rfl, rfl⟩
  case set_receipt =>
    cases hleft
    exact ⟨_, .writing value, rfl, rfl, if_pos rfl, rfl⟩
  case chmod | chown | set_operation | syncing | set_complete | syncing_complete =>
    cases hleft
    exact ⟨_, _, rfl, rfl, rfl, rfl⟩
  all_goals cases hleft

/-- It returns its receipt when none of them fails. -/
theorem create_completes {n : Nat} (h : machine.Reachable s) (hleft : remaining value call.point = some (n + 1)) :
    ∃ s', machine.run s (List.replicate (n + 1) (.succeeds true true value.length)) = some s' ∧ s'.active = none ∧
      s'.replies = s.replies ++ [(call.request, .token call.rollback_token)] ∧
      verify_owned s'.directory operation_id key = true := by
  -- One call after the other, to the sync of the directory.
  induction n generalizing s call with
  | zero =>
    have hpoint : call.point = .syncing_directory := by
      cases hpoint : call.point <;> rw [hpoint] at hleft <;> simp [remaining] at hleft
    obtain ⟨_, _, file, hget, hcreating⟩ :=
      ((inv_reachable h).call call hactive).creating _ _ _ hrequest (by rw [hpoint]; rfl)
    simp only [Creating, hpoint] at hcreating
    have hstep : machine.step s (.succeeds true true value.length) =
        some ({ s with directory := s.directory.sync }.returned call operation_id key value call.rollback_token) := by
      rw [step_create hactive hrequest]
      simp only [create_succeeds, hpoint]
    exact ⟨_, Machine.run_cons hstep [], rfl, rfl, verified_of_completed hget hcreating.1⟩
  | succ n ih =>
    obtain ⟨next, point, hstep, hnext, hleft', hreplies⟩ := create_proceeds hactive hrequest hleft
    obtain ⟨s', hrun, hidle, hreply, hverified⟩ := ih hnext hrequest (h.step _ hstep) hleft'
    refine ⟨s', ?_, hidle, ?_, hverified⟩
    · rw [List.replicate_succ, Machine.run_cons hstep]
      exact hrun
    · rw [hreply, hreplies]

theorem create_opens (hpoint : call.point = .opening) (habsent : s.directory.get key = none) :
    ∃ next, machine.step s (.succeeds true true value.length) = some next ∧
      next.active = some { call with point := .chmod } ∧ next.replies = s.replies := by
  rw [step_create hactive hrequest]
  simp only [create_succeeds, hpoint, habsent]
  exact ⟨_, rfl, rfl, rfl⟩

/-- The replay returns the receipt that is stored, and leaves what it found. -/
theorem create_repeats {receipt : String} (hpoint : call.point = .opening) (hget : s.directory.get key = some file)
    (hrepeat : _repeat_create s.directory operation_id key value = .ok receipt) :
    ∃ s', machine.run s (List.replicate 4 (.succeeds true true value.length)) = some s' ∧ s'.active = none ∧
      s'.replies = s.replies ++ [(call.request, .token receipt)] ∧
      verify_owned s'.directory operation_id key = verify_owned s.directory operation_id key := by
  have hopening : machine.step s (.succeeds true true value.length) = some (s.goto call .repeating) := by
    rw [step_create hactive hrequest]
    simp only [create_succeeds, hpoint, hget]
  have hrepeating (s' : State) (hdirectory : s'.directory = s.directory)
      (hactive' : s'.active = some { call with point := .repeating }) :
      machine.step s' (.succeeds true true value.length) =
        some (s'.goto { call with point := .repeating } (.repeat_syncing receipt)) := by
    rw [step_create hactive' hrequest]
    simp only [create_succeeds, hdirectory, hrepeat]
  have hsyncing (s' : State) (hactive' : s'.active = some { call with point := .repeat_syncing receipt }) :
      machine.step s' (.succeeds true true value.length) =
        some ({ s' with directory := s'.directory.modify key File.sync }.goto
          { call with point := .repeat_syncing receipt } (.repeat_syncing_directory receipt)) := by
    rw [step_create hactive' hrequest]
    rfl
  have hreturning (s' : State)
      (hactive' : s'.active = some { call with point := .repeat_syncing_directory receipt }) :
      machine.step s' (.succeeds true true value.length) =
        some ({ s' with directory := s'.directory.sync }.returned
          { call with point := .repeat_syncing_directory receipt } operation_id key value receipt) := by
    rw [step_create hactive' hrequest]
    rfl
  have hrun : machine.run s (List.replicate 4 (.succeeds true true value.length)) = _ :=
    (Machine.run_cons hopening _).trans <| (Machine.run_cons (hrepeating (s.goto call .repeating) rfl rfl) _).trans <|
      (Machine.run_cons (hsyncing _ rfl) _).trans (Machine.run_cons (hreturning _ rfl) [])
  exact ⟨_, hrun, rfl, rfl, verify_owned_sync operation_id key⟩

/-- Where the process ends before the file has its last attribute, that is how it is left, and from there on it is
    complete. -/
theorem creating_left (hinv : Inv s) (hcreates : call.point.creates = true) :
    if call.point = .syncing_complete ∨ call.point = .syncing_directory then
      verify_owned s.directory operation_id key = true
    else ∃ file, s.directory.get key = some file ∧ file.Unfinished := by
  obtain ⟨_, _, file, hget, hcreating⟩ := (hinv.call call hactive).creating _ _ _ hrequest hcreates
  cases hpoint : call.point <;> simp only [Creating, hpoint] at hcreating <;> rw [hpoint] at hcreates <;>
    simp only [reduceCtorEq, or_self, or_true, true_or, if_true, if_false]
  case syncing_complete => exact verified_of_completed hget hcreating
  case syncing_directory => exact verified_of_completed hget hcreating.1
  case chmod | chown | set_operation | set_receipt => exact ⟨file, hget, hcreating.1⟩
  case writing | syncing | set_complete => exact ⟨file, hget, hcreating.1.unfinished⟩
  all_goals cases hcreates

end

/-- A key without a file is created. -/
theorem recovers_of_absent (h : machine.Reachable s) (hidle : s.active = none)
    (hvalid : validated (.create operation_id key (some value)) = .ok ()) (habsent : s.directory.get key = none) :
    Recovers s operation_id key value := by
  intro rollback_token
  obtain ⟨s₁, call, hstart, hactive, hrequest, hpoint, hdirectory, hsame⟩ := step_request hidle hvalid rollback_token
  obtain ⟨s₂, hopen, hactive₂, hsame₂⟩ := create_opens hactive hrequest hpoint (hdirectory ▸ habsent)
  obtain ⟨s', hrun, hidle', hreply, hverified⟩ :=
    create_completes hactive₂ hrequest ((h.step _ hstart).step _ hopen) rfl
  refine ⟨10, s', call.rollback_token, ?_, hidle', ?_, hverified⟩
  · rw [Machine.run_cons hstart, List.replicate_succ, Machine.run_cons hopen]
    exact hrun
  · rw [hreply, hsame₂, hsame, ← hrequest]

/-- A complete file of the same create is returned by its replay. -/
theorem recovers_of_verified (hidle : s.active = none)
    (hvalid : validated (.create operation_id key (some value)) = .ok ())
    (hverified : verify_owned s.directory operation_id key = true) (hget : s.directory.get key = some file)
    (hdata : file.data.now = value) (hvalue : value.length ≤ MAX_SECRET_BYTES) : Recovers s operation_id key value := by
  intro rollback_token
  obtain ⟨s₁, call, hstart, hactive, hrequest, hpoint, hdirectory, hsame⟩ := step_request hidle hvalid rollback_token
  rw [← hdirectory] at hverified hget
  obtain ⟨receipt, hrepeat⟩ := repeat_create_of_verified hverified hget hdata hvalue
  obtain ⟨s', hrun, hidle', hreply, hkept⟩ := create_repeats hactive hrequest hpoint hget hrepeat
  refine ⟨4, s', receipt, ?_, hidle', ?_, hkept.trans hverified⟩
  · rw [Machine.run_cons hstart]
    exact hrun
  · rw [hreply, hsame, hrequest]

/-- The broker process ends, or its machine goes down. -/
def Action.is_crash : Action → Bool
  | .exits | .crash _ => true
  | _ => false

theorem step_crash {action : Action} (hcrash : action.is_crash = true) (hstep : step s action = some s') :
    s'.active = none ∧ s'.accepted = s.accepted := by
  cases action with
  | exits | crash choice =>
    cases hstep
    exact ⟨rfl, rfl⟩
  | request | succeeds | fails => cases hcrash

/-- A file without its last attribute stays as it is. -/
theorem stuck_of_unfinished (hidle : s.active = none) (hentry : (s.directory key).Synced)
    (hget : s.directory.get key = some file) (hfile : file.Unfinished) : Stuck s key := by
  refine ⟨hentry, ⟨file, hget, hfile⟩, fun call hactive => ?_, fun call hactive => ?_⟩ <;>
    rw [hidle] at hactive <;> cases hactive

theorem Stuck.unclaimed (h : Stuck s key) (hinv : Inv s) : Unclaimed s key := by
  rintro receipt hreceipt rfl
  obtain ⟨_, file, hget, _, _, _, new, hstored⟩ := hinv.settled receipt hreceipt
  obtain ⟨file', code, hget', herror⟩ := h.unread
  rw [hget] at hget'
  cases hget'
  rw [hstored] at herror
  cases herror

end

/-- Wherever a create of the registration that owns the key is cut off: if there is no file then, or a complete one,
    creating it again returns a receipt and the file is verified. A process that ends once the last attribute is set
    leaves such a file. A file without it, on the disk, is never completed, returned or removed by anything the broker
    is asked for. -/
theorem interrupted_create_recovers (s s' : State) (action : Action) (call : Call) (operation_id key : String)
    (value : Bytes) (h : machine.Reachable s) (hactive : s.active = some call)
    (hrequest : call.request = .create operation_id key (some value))
    (howner : ∀ accepted ∈ s.accepted, accepted.key = key → accepted = ⟨operation_id, key, value⟩)
    (hcrash : action.is_crash = true) (hstep : machine.step s action = some s') :
    (s'.directory.get key = none ∨ verify_owned s'.directory operation_id key = true →
      Recovers s' operation_id key value) ∧
    (action = .exits → call.point.creates = true →
      if call.point = .syncing_complete ∨ call.point = .syncing_directory then
        verify_owned s'.directory operation_id key = true
      else ∃ file, s'.directory.get key = some file ∧ file.Unfinished) ∧
    (∀ file, (s'.directory key).Synced → s'.directory.get key = some file → file.Unfinished →
      ∀ actions t, machine.run s' actions = some t →
        (∃ file', t.directory.get key = some file' ∧ file'.Unfinished) ∧
        (∀ operation_id', verify_owned t.directory operation_id' key = false) ∧
        ∀ receipt ∈ t.live, receipt.key ≠ key) := by
  obtain ⟨hidle, haccepted⟩ := step_crash hcrash hstep
  have hreachable := h.step action hstep
  have hvalid := call.valid
  rw [hrequest] at hvalid
  refine ⟨?_, ?_, ?_⟩
  · rintro (habsent | hverified)
    · exact recovers_of_absent hreachable hidle hvalid habsent
    · -- What is verified is of an accepted create, and the key has only this one.
      obtain ⟨file, hget, hfile⟩ := accepted_of_verified (inv_reachable hreachable) hverified
      rw [haccepted] at hfile
      have hdata := congrArg Accepted.value (howner _ hfile rfl)
      exact recovers_of_verified hidle hvalid hverified hget hdata (value_length hrequest).2
  · rintro rfl hcreates
    have hleft := creating_left hactive hrequest (inv_reachable h) hcreates
    cases hstep
    exact hleft
  · intro file hentry hget hfile actions t hrun
    have hstuck := stuck_run (stuck_of_unfinished hidle hentry hget hfile) hreachable hrun
    exact ⟨hstuck.file, hstuck.not_verified, hstuck.unclaimed (inv_reachable (hreachable.run hrun))⟩

/-- The process ends between the last attribute and its sync. -/
theorem interrupted_create_recovers_completed :
    ∃ s s', machine.run empty_directory (create_a.take 10) = some s ∧ machine.step s .exits = some s' ∧
      Recovers s' operation_a key_a [102, 105] := by
  have hrun : (machine.run empty_directory (create_a.take 10)).any (fun s =>
      s.active.any (fun call => call.request = .create operation_a key_a (some [102, 105]) &&
        call.point = .syncing_complete) && s.accepted = [⟨operation_a, key_a, [102, 105]⟩]) = true := by
    decide +kernel
  rw [Option.any_eq_true] at hrun
  obtain ⟨s, hrun, hcheck⟩ := hrun
  rw [Bool.and_eq_true, Option.any_eq_true, decide_eq_true_eq] at hcheck
  obtain ⟨⟨call, hactive, hcall⟩, haccepted⟩ := hcheck
  rw [Bool.and_eq_true, decide_eq_true_eq, decide_eq_true_eq] at hcall
  have hreachable := (Machine.Reachable.init empty_directory_initial).run hrun
  have howner : ∀ accepted ∈ s.accepted, accepted.key = key_a → accepted = ⟨operation_a, key_a, [102, 105]⟩ := by
    intro accepted hmem _
    rw [haccepted] at hmem
    exact List.mem_singleton.mp hmem
  obtain ⟨hrecovers, hcompleted, _⟩ := interrupted_create_recovers s _ .exits call operation_a key_a [102, 105]
    hreachable hactive hcall.1 howner rfl rfl
  have hverified := hcompleted rfl (by rw [hcall.2]; rfl)
  rw [if_pos (.inl hcall.2)] at hverified
  exact ⟨s, _, hrun, rfl, hrecovers (.inr hverified)⟩

/-- The machine goes down right after the file was made, and its name is on the disk. Nothing that is asked for
    afterwards gets a receipt for the key. -/
theorem half_written_file_is_stuck :
    ∃ s, machine.run empty_directory (create_a.take 2 ++ [.crash (fun _ => {})]) = some s ∧
      ∀ actions t, machine.run s actions = some t →
        verify_owned t.directory operation_a key_a = false ∧ ∀ receipt ∈ t.live, receipt.key ≠ key_a := by
  have hrun : (machine.run empty_directory (create_a.take 2 ++ [.crash (fun _ => {})])).any (fun s =>
      s.active.isNone && (s.directory key_a).older.isEmpty && (s.directory.get key_a).any (fun file =>
        file.complete.now = none && file.complete.older.isEmpty && file.legacy = {})) = true := by
    decide +kernel
  rw [Option.any_eq_true] at hrun
  obtain ⟨s, hrun, hcheck⟩ := hrun
  simp only [Bool.and_eq_true, Option.any_eq_true, decide_eq_true_eq, Option.isNone_iff_eq_none,
    List.isEmpty_iff] at hcheck
  obtain ⟨⟨hidle, hentry⟩, file, hget, ⟨hcomplete, holder⟩, hlegacy⟩ := hcheck
  have hfile : file.Unfinished := by
    refine ⟨?_, hlegacy⟩
    cases hcell : file.complete
    rw [hcell] at hcomplete holder
    cases hcomplete
    cases holder
    rfl
  have hreachable := (Machine.Reachable.init empty_directory_initial).run hrun
  refine ⟨s, hrun, fun actions t hactions => ?_⟩
  have hstuck := stuck_run (stuck_of_unfinished hidle hentry hget hfile) hreachable hactions
  exact ⟨hstuck.not_verified _, hstuck.unclaimed (inv_reachable (hreachable.run hactions))⟩

end netbox_sync.secret_broker
