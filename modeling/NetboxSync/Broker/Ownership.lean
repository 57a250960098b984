import NetboxSync.Broker.Store

namespace netbox_sync.secret_broker

/-- The file was not completed and has no old attributes. -/
structure File.Unfinished (file : File) : Prop where
  complete : file.complete = ⟨none, []⟩
  legacy : file.legacy = {}

/-- Whatever a crash leaves of the last attribute, a file that is complete then holds the bytes of an accepted create.
    -/
structure File.Sealed (accepted : List Accepted) (key : String) (file : File) : Prop where
  data : file.data.Synced
  operation : file.operation.Synced
  receipt : file.receipt.Synced
  stored : ∀ complete ∈ file.complete.now :: file.complete.older, ∀ stored new,
    _stored_attributes { file with complete := ⟨complete, []⟩ } = .ok (stored, new) →
      ⟨stored.operation, key, file.data.now⟩ ∈ accepted

def File.Sound (accepted : List Accepted) (key : String) (file : File) : Prop :=
  file.Unfinished ∨ file.Sealed accepted key

/-- The file of the receipt is there, as it was created, and on the disk. -/
def Settled (directory : Directory) (receipt : Receipt) : Prop :=
  (directory receipt.key).Synced ∧ ∃ file, directory.get receipt.key = some file ∧ file.Synced ∧
    file.owned = true ∧ file.data.now = receipt.value ∧
    ∃ new, _stored_attributes file = .ok (⟨receipt.operation_id, receipt.rollback_token, "1"⟩, new)

/-- What a create has made of its file before it marks it complete. -/
structure Written (call : Call) (operation_id : String) (file : File) : Prop where
  unfinished : file.Unfinished
  owned : file.owned = true
  operation : file.operation.now = some operation_id
  receipt : file.receipt.now = some call.rollback_token

/-- The file is complete. -/
structure Completed (call : Call) (operation_id : String) (value : Bytes) (file : File) : Prop where
  owned : file.owned = true
  data : file.data.now = value
  stored : _stored_attributes file = .ok (⟨operation_id, call.rollback_token, "1"⟩, true)

/-- What a create knows of its file, point by point. -/
def Creating (call : Call) (operation_id : String) (value : Bytes) (file : File) : Prop :=
  match call.point with
  | .chmod => file.Unfinished ∧ file.data.now = []
  | .chown => file.Unfinished ∧ file.data.now = [] ∧ file.private_mode.now = true
  | .set_operation => file.Unfinished ∧ file.data.now = [] ∧ file.owned = true
  | .set_receipt => file.Unfinished ∧ file.data.now = [] ∧ file.owned = true ∧ file.operation.now = some operation_id
  | .writing rest => Written call operation_id file ∧ file.data.now ++ rest = value
  | .syncing => Written call operation_id file ∧ file.data.now = value
  | .set_complete => Written call operation_id file ∧ file.data.now = value ∧ file.Synced
  | .syncing_complete => Completed call operation_id value file
  | .syncing_directory => Completed call operation_id value file ∧ file.Synced
  | _ => True

/-- The points at which a create writes its own new file. -/
def Point.creates : Point → Bool
  | .chmod | .chown | .set_operation | .set_receipt | .writing _ | .syncing | .set_complete | .syncing_complete
  | .syncing_directory => true
  | _ => false

/-- No receipt was given for the key. -/
def Unclaimed (s : State) (key : String) : Prop := ∀ receipt ∈ s.live, receipt.key ≠ key

def Request.removes : Request → Bool
  | .rollback .. | .remove_owned _ => true
  | _ => false

/-- What a request knows where it stands. -/
structure CallSound (s : State) (call : Call) : Prop where
  creating : ∀ operation_id key value, call.request = .create operation_id key (some value) →
    call.point.creates = true → Unclaimed s key ∧ ⟨operation_id, key, value⟩ ∈ s.accepted ∧
      ∃ file, s.directory.get key = some file ∧ Creating call operation_id value file
  cleaning : ∀ operation_id key value, call.request = .create operation_id key value →
    call.point = .cleaning ∨ call.point = .cleaning_directory → Unclaimed s key
  repeating : ∀ operation_id key value receipt, call.request = .create operation_id key (some value) →
    call.point = .repeat_syncing receipt ∨ call.point = .repeat_syncing_directory receipt →
      _repeat_create s.directory operation_id key value = .ok receipt
  repeated : ∀ operation_id key value receipt, call.request = .create operation_id key (some value) →
    call.point = .repeat_syncing_directory receipt → ∀ file, s.directory.get key = some file → file.Synced
  unlinking : ∀ rest, call.point = .unlinking rest → call.request.removes = true ∧
    (∀ operation_id key rollback_token, call.request = .rollback operation_id key rollback_token →
      rest = [key] ∧ may_roll_back s.directory operation_id key rollback_token = true) ∧
    (∀ keys, call.request = .remove_owned keys → ∀ key ∈ rest, key ∈ keys)
  unlinking_directory : ∀ rest, call.point = .unlinking_directory rest → call.request.removes = true ∧
    (∀ operation_id key rollback_token, call.request = .rollback operation_id key rollback_token → rest = []) ∧
    (∀ keys, call.request = .remove_owned keys → ∀ key ∈ rest, key ∈ keys)
  checking : call.point = .checking → call.unlinked = []

structure Inv (s : State) : Prop where
  settled : ∀ receipt ∈ s.live, Settled s.directory receipt
  sound : ∀ key, ∀ entry ∈ (s.directory key).now :: (s.directory key).older, ∀ file, entry = some file →
    file.Sound s.accepted key
  call : ∀ call, s.active = some call → CallSound s call

section

variable {s s' : State} {call : Call} {file : File} {directory : Directory} {key operation_id : String}

theorem get_link (file : Option File) (key' : String) :
    (directory.link key file).get key' = if key' = key then file else directory.get key' := by
  by_cases h : key' = key <;> simp [Directory.link, Directory.get, h]

theorem get_modify (f : File → File) (key' : String) :
    (directory.modify key f).get key' = if key' = key then (directory.get key).map f else directory.get key' := by
  by_cases h : key' = key <;> simp [Directory.modify, Directory.get, h]

theorem File.sync_synced : file.sync.Synced := ⟨rfl, rfl, rfl, rfl, rfl, rfl⟩

theorem File.Synced.sync_eq (h : file.Synced) : file.sync = file := by
  obtain ⟨⟨data, _⟩, ⟨mode, _⟩, ⟨owner, _⟩, ⟨operation, _⟩, ⟨receipt, _⟩, ⟨complete, _⟩, legacy⟩ := file
  obtain ⟨rfl, rfl, rfl, rfl, rfl, rfl⟩ := h
  rfl

/-- A crash leaves what is on the disk. -/
theorem File.Synced.crash_eq (h : file.Synced) (choice : Choice) : file.crash choice = file := by
  unfold File.crash
  rw [h.data.tear_eq, h.private_mode.crash_eq, h.root_owned.crash_eq, h.operation.crash_eq, h.receipt.crash_eq,
    h.complete.crash_eq]

theorem not_stored_of_unfinished (h : file.Unfinished) {stored : Stored} {new : Bool} :
    _stored_attributes file ≠ .ok (stored, new) := by
  intro hstored
  have hread : file.attributes.read = .ok none ∨ file.attributes.read = .error .ROLLBACK_NOT_AUTHORIZED := by
    unfold File.attributes
    rw [h.complete]
    cases file.operation.now <;> cases file.receipt.now <;> simp [Attributes.read]
  unfold _stored_attributes at hstored
  rw [h.legacy] at hstored
  rcases hread with hread | hread <;> rw [hread] at hstored <;> cases hstored

variable {accepted : List Accepted} {receipt : Receipt} {value : Bytes} {key' : String} {entry : Option File}
  {private_mode root_owned : Bool} {count : Nat} {rest : List String} {action : Action}

theorem File.Sealed.crash (h : file.Sealed accepted key) (choice : Choice) :
    (file.crash choice).Sealed accepted key := by
  unfold File.crash
  rw [h.data.tear_eq, h.operation.crash_eq, h.receipt.crash_eq]
  refine ⟨h.data, h.operation, h.receipt, fun complete hcomplete stored new hstored => ?_⟩
  obtain rfl : complete = (file.complete.crash choice.complete).now := by
    simpa [Cell.crash] using hcomplete
  exact h.stored _ (Cell.crash_now_mem choice.complete) stored new hstored

theorem File.Unfinished.crash (h : file.Unfinished) (choice : Choice) : (file.crash choice).Unfinished := by
  refine ⟨?_, h.legacy⟩
  show file.complete.crash choice.complete = _
  rw [h.complete]
  have hsynced : (⟨none, []⟩ : Cell (Option String)).Synced := rfl
  exact hsynced.crash_eq _

theorem File.Sound.crash (h : file.Sound accepted key) (choice : Choice) : (file.crash choice).Sound accepted key := by
  rcases h with h | h
  · exact .inl (h.crash choice)
  · exact .inr (h.crash choice)

/-- A file that a crash may change is as sound with more creates accepted. -/
theorem File.Sound.mono {accepted' : List Accepted} (h : file.Sound accepted key) (hsub : ∀ a ∈ accepted,
    a ∈ accepted') : file.Sound accepted' key := by
  rcases h with h | h
  · exact .inl h
  · exact .inr { h with
      stored := fun complete hcomplete stored new hstored => hsub _ (h.stored complete hcomplete stored new hstored) }

theorem File.Sound.sync (h : file.Sound accepted key) : file.sync.Sound accepted key := by
  rcases h with h | h
  · exact .inl ⟨by show file.complete.sync = _; rw [h.complete]; rfl, h.legacy⟩
  · refine .inr ⟨rfl, rfl, rfl, fun complete hcomplete stored new hstored => ?_⟩
    obtain rfl : complete = file.complete.now := by simpa [File.sync, Cell.sync] using hcomplete
    exact h.stored _ List.mem_cons_self stored new hstored

theorem Settled.congr {directory' : Directory} (h : Settled directory receipt)
    (heq : directory' receipt.key = directory receipt.key) : Settled directory' receipt := by
  unfold Settled Directory.get at h ⊢
  rwa [heq]

theorem Settled.sync (h : Settled directory receipt) : Settled directory.sync receipt := ⟨rfl, h.2⟩

theorem Settled.crash (h : Settled directory receipt) (choice : String → Choice) :
    Settled (directory.crash choice) receipt := by
  refine h.congr ?_
  obtain ⟨hentry, file, hget, hfile, _⟩ := h
  unfold Directory.get at hget
  simp only [Directory.crash, hentry.crash_eq, hget, Option.map_some, hfile.crash_eq]
  rw [← hget]

/-- What a request has to know where it stands. -/
theorem CallSound.of_point (h : match call.point with
    | .opening | .repeating => True
    | .checking => call.unlinked = []
    | .cleaning | .cleaning_directory =>
      ∀ operation_id key value, call.request = .create operation_id key value → Unclaimed s key
    | .repeat_syncing receipt => ∀ operation_id key value, call.request = .create operation_id key (some value) →
      _repeat_create s.directory operation_id key value = .ok receipt
    | .repeat_syncing_directory receipt => ∀ operation_id key value,
      call.request = .create operation_id key (some value) →
        _repeat_create s.directory operation_id key value = .ok receipt ∧
          ∀ file, s.directory.get key = some file → file.Synced
    | .unlinking rest => call.request.removes = true ∧
      (∀ operation_id key rollback_token, call.request = .rollback operation_id key rollback_token →
        rest = [key] ∧ may_roll_back s.directory operation_id key rollback_token = true) ∧
      (∀ keys, call.request = .remove_owned keys → ∀ key ∈ rest, key ∈ keys)
    | .unlinking_directory rest => call.request.removes = true ∧
      (∀ operation_id key rollback_token, call.request = .rollback operation_id key rollback_token → rest = []) ∧
      (∀ keys, call.request = .remove_owned keys → ∀ key ∈ rest, key ∈ keys)
    | _ => ∀ operation_id key value, call.request = .create operation_id key (some value) → Unclaimed s key ∧
      ⟨operation_id, key, value⟩ ∈ s.accepted ∧
        ∃ file, s.directory.get key = some file ∧ Creating call operation_id value file) : CallSound s call := by
  constructor
  · intro operation_id key value hrequest hcreates
    cases hpoint : call.point <;> simp only [hpoint] at h hcreates <;> first
      | exact h _ _ _ hrequest
      | cases hcreates
  · rintro _ _ _ hrequest (hpoint | hpoint) <;> simp only [hpoint] at h <;> exact h _ _ _ hrequest
  · rintro _ _ _ _ hrequest (hpoint | hpoint) <;> simp only [hpoint] at h
    · exact h _ _ _ hrequest
    · exact (h _ _ _ hrequest).1
  · intro _ _ _ _ hrequest hpoint
    simp only [hpoint] at h
    exact (h _ _ _ hrequest).2
  · intro _ hpoint
    simpa only [hpoint] using h
  · intro _ hpoint
    simpa only [hpoint] using h
  · intro hpoint
    simpa only [hpoint] using h

/-- At the points where a create writes its file, that is all there is to know. -/
theorem CallSound.of_creating (hrequest : call.request = .create operation_id key (some value))
    (hcreates : call.point.creates = true) (hunclaimed : Unclaimed s key)
    (haccepted : ⟨operation_id, key, value⟩ ∈ s.accepted) (hget : s.directory.get key = some file)
    (hfile : Creating call operation_id value file) : CallSound s call := by
  apply CallSound.of_point
  cases hpoint : call.point <;> rw [hpoint] at hcreates <;> try cases hcreates
  all_goals
    intro _ _ _ hrequest'
    cases hrequest.symm.trans hrequest'
    exact ⟨hunclaimed, haccepted, file, hget, hfile⟩

/-- The broker is idle again. -/
theorem Inv.reply (h : Inv s) (reply : Reply) : Inv (s.reply call reply) := by
  refine ⟨h.settled, h.sound, fun call' hactive => ?_⟩
  cases hactive

theorem Inv.goto {point : Point} (h : Inv s) (hcall : CallSound s { call with point }) : Inv (s.goto call point) := by
  refine ⟨h.settled, h.sound, fun call' hactive => ?_⟩
  cases hactive
  exact { hcall with }

/-- A directory whose files are as before, or sounder. -/
theorem Inv.stopped {directory' : Directory} (hsettled : ∀ receipt ∈ s.live, Settled directory' receipt)
    (hsound : ∀ key, ∀ entry ∈ (directory' key).now :: (directory' key).older, ∀ file, entry = some file →
      file.Sound s.accepted key) : Inv { s with directory := directory', active := none } := by
  refine ⟨hsettled, hsound, fun call hactive => ?_⟩
  cases hactive

theorem sound_sync (h : Inv s) (hentry : entry ∈ (s.directory.sync key').now :: (s.directory.sync key').older)
    {file : File} (hfile : entry = some file) : file.Sound s.accepted key' := by
  obtain rfl : entry = (s.directory key').now := by simpa [Directory.sync, Cell.sync] using hentry
  exact h.sound key' _ List.mem_cons_self file hfile

theorem sound_modify (h : Inv s) {f : File → File} (hget : s.directory.get key = some file)
    (hf : (f file).Sound s.accepted key)
    (hentry : entry ∈ ((s.directory.modify key f) key').now :: ((s.directory.modify key f) key').older) {file' : File}
    (hfile : entry = some file') : file'.Sound s.accepted key' := by
  unfold Directory.modify at hentry
  split at hentry
  next heq =>
    subst heq
    rcases List.mem_cons.mp hentry with rfl | hentry
    · dsimp only at hfile
      rw [show (s.directory key').now = some file from hget] at hfile
      cases hfile
      exact hf
    · exact h.sound key' entry (List.mem_cons_of_mem _ hentry) file' hfile
  next => exact h.sound key' entry hentry file' hfile

theorem sound_link (h : Inv s) {linked : Option File} {accepted' : List Accepted}
    (hsub : ∀ a ∈ s.accepted, a ∈ accepted') (hlinked : ∀ file, linked = some file → file.Sound accepted' key)
    (hentry : entry ∈ ((s.directory.link key linked) key').now :: ((s.directory.link key linked) key').older)
    {file' : File} (hfile : entry = some file') : file'.Sound accepted' key' := by
  unfold Directory.link at hentry
  split at hentry
  next heq =>
    subst heq
    rcases List.mem_cons.mp hentry with rfl | hentry
    · exact hlinked file' hfile
    · exact (h.sound key' entry hentry file' hfile).mono hsub
  next => exact (h.sound key' entry hentry file' hfile).mono hsub

/-- A create writes its own file and goes on. -/
theorem Inv.write {f : File → File} {point : Point} (h : Inv s)
    (hrequest : call.request = .create operation_id key (some value)) (hcreates : point.creates = true)
    (hunclaimed : Unclaimed s key) (haccepted : ⟨operation_id, key, value⟩ ∈ s.accepted)
    (hget : s.directory.get key = some file) (hsound : (f file).Sound s.accepted key)
    (hfile : Creating { call with point } operation_id value (f file)) :
    Inv ({ s with directory := s.directory.modify key f }.goto call point) := by
  have hget' : (s.directory.modify key f).get key = some (f file) := by
    rw [get_modify, if_pos rfl, hget]
    rfl
  refine ⟨fun receipt hreceipt => ?_, fun key' entry hentry file' => sound_modify h hget hsound hentry,
    fun call' hactive => ?_⟩
  · refine (h.settled receipt hreceipt).congr ?_
    exact if_neg (hunclaimed receipt hreceipt)
  · cases hactive
    exact CallSound.of_creating hrequest hcreates hunclaimed haccepted hget' hfile

/-- The attribute that completes a file comes after the sync of all others. -/
theorem sealed_complete (h : Written call operation_id file) (hdata : file.data.now = value) (hsynced : file.Synced)
    (haccepted : ⟨operation_id, key, value⟩ ∈ accepted) :
    { file with complete := file.complete.write (some "1") }.Sealed accepted key := by
  refine ⟨hsynced.data, hsynced.operation, hsynced.receipt, fun complete hcomplete stored new hstored => ?_⟩
  rw [h.unfinished.complete] at hcomplete
  rcases List.mem_cons.mp hcomplete with rfl | hcomplete
  · simp only [_stored_attributes, File.attributes, h.operation, h.receipt, h.unfinished.legacy, Attributes.read]
      at hstored
    cases hstored
    exact hdata ▸ haccepted
  · obtain rfl : complete = none := by simpa [Cell.write] using hcomplete
    refine absurd hstored (not_stored_of_unfinished ?_)
    exact ⟨rfl, h.unfinished.legacy⟩

theorem completed_complete (h : Written call operation_id file) (hdata : file.data.now = value) :
    Completed { call with point := .syncing_complete } operation_id value
      { file with complete := file.complete.write (some "1") } := by
  refine ⟨h.owned, hdata, ?_⟩
  simp only [_stored_attributes, File.attributes, h.operation, h.receipt, h.unfinished.legacy, Attributes.read]
  rfl

theorem create_checked {value : Option Bytes} (hrequest : call.request = .create operation_id key value) :
    ∃ bytes, checked_value value = .ok bytes := by
  have hvalid := call.valid
  rw [hrequest] at hvalid
  simp only [validated, Except.bind_eq_ok_iff] at hvalid
  obtain ⟨_, _, _, _, bytes, hvalue, _⟩ := hvalid
  exact ⟨bytes, hvalue⟩

theorem create_ne_none : call.request ≠ .create operation_id key none := by
  intro hrequest
  obtain ⟨_, hvalue⟩ := create_checked hrequest
  cases hvalue

theorem value_length (hrequest : call.request = .create operation_id key (some value)) :
    0 < value.length ∧ value.length ≤ MAX_SECRET_BYTES := by
  obtain ⟨_, hvalue⟩ := create_checked hrequest
  simp only [checked_value] at hvalue
  split at hvalue
  next => cases hvalue
  next hbounds =>
    simp only [Bool.or_eq_true, decide_eq_true_eq, not_or] at hbounds
    exact ⟨List.length_pos_of_ne_nil hbounds.1.1, by omega⟩

/-- A replay finds the complete file of its own operation. -/
theorem repeat_create_ok {receipt : String} (hvalue : value.length ≤ MAX_SECRET_BYTES)
    (h : _repeat_create directory operation_id key value = .ok receipt) :
    ∃ file new, directory.get key = some file ∧ file.owned = true ∧ file.data.now = value ∧
      _stored_attributes file = .ok (⟨operation_id, receipt, "1"⟩, new) := by
  unfold _repeat_create at h
  split at h
  next => cases h
  next file hget =>
    simp only [Except.bind_eq_ok_iff, Except.require_eq_ok_iff, Bool.and_eq_true, decide_eq_true_eq] at h
    obtain ⟨⟨stored, new⟩, hstored, _, ⟨⟨⟨howned, rfl⟩, hcomplete⟩, hdata⟩, h⟩ := h
    cases h
    refine ⟨file, new, hget, howned, ?_, ?_⟩
    · -- The read asks for one byte more than a secret may have.
      have hlength := congrArg List.length hdata
      rw [List.length_take] at hlength
      rw [List.take_of_length_le (by omega)] at hdata
      exact hdata
    · rw [hstored]
      obtain ⟨operation, receipt, complete⟩ := stored
      obtain rfl : complete = "1" := hcomplete
      rfl

theorem repeat_create_sync {receipt : String} (h : _repeat_create directory operation_id key value = .ok receipt) :
    _repeat_create (directory.modify key File.sync) operation_id key value = .ok receipt := by
  unfold _repeat_create at h ⊢
  rw [get_modify, if_pos rfl]
  cases hget : directory.get key with
  | none =>
    rw [hget] at h
    cases h
  | some file =>
    rw [hget] at h
    exact h

/-- The sync of a file that has a receipt changes nothing. -/
theorem Settled.sync_file (h : Settled directory receipt) : Settled (directory.modify key File.sync) receipt := by
  refine h.congr ?_
  obtain ⟨_, file, hget, hfile, _⟩ := h
  unfold Directory.modify
  split
  next heq =>
    subst heq
    unfold Directory.get at hget
    rw [hget, Option.map_some, hfile.sync_eq, ← hget]
  next => rfl

/-- The directory is synced, and the broker is idle again. -/
theorem Inv.reply_synced (h : Inv s) (reply : Reply) :
    Inv ({ s with directory := s.directory.sync }.reply call reply) := by
  refine ⟨fun receipt hreceipt => (h.settled receipt hreceipt).sync, fun key' entry hentry file' =>
    sound_sync h hentry, fun call' hactive => ?_⟩
  cases hactive

/-- A file goes, and its receipts with it. -/
theorem Inv.unlink {call : Call} (h : Inv s) (hcall : CallSound (s.unlink key) call) :
    Inv { s.unlink key with active := some call } := by
  refine ⟨fun receipt hreceipt => ?_, fun key' entry hentry file' => ?_, fun call' hactive => ?_⟩
  · obtain ⟨hlive, hkey⟩ := List.mem_filter.mp hreceipt
    refine (h.settled receipt hlive).congr ?_
    exact if_neg (of_decide_eq_true hkey)
  · refine sound_link h (fun _ ha => ha) (fun file hfile => ?_) hentry
    cases hfile
  · cases hactive
    exact { hcall with }

theorem unclaimed_unlink : Unclaimed (s.unlink key) key := by
  intro receipt hreceipt
  exact of_decide_eq_true (List.mem_filter.mp hreceipt).2

section

variable (h : Inv s) (hrequest : call.request = .create operation_id key (some value))
  (hstep : create_succeeds s call operation_id key value private_mode root_owned count = some s')
include h hrequest hstep

/-- Each write of a create keeps what is known of its file. -/
theorem inv_creating (hactive : s.active = some call) (hcreates : call.point.creates = true) : Inv s' := by
  obtain ⟨hunclaimed, haccepted, file, hget, hfile⟩ := (h.call call hactive).creating _ _ _ hrequest hcreates
  have hsound := h.sound key _ List.mem_cons_self file hget
  unfold create_succeeds at hstep
  cases hpoint : call.point <;> rw [hpoint] at hcreates <;> try cases hcreates
  all_goals simp only [hpoint] at hstep; simp only [Creating, hpoint] at hfile
  case chmod =>
    cases hstep
    exact h.write hrequest rfl hunclaimed haccepted hget (.inl ⟨hfile.1.complete, hfile.1.legacy⟩)
      ⟨⟨hfile.1.complete, hfile.1.legacy⟩, hfile.2, rfl⟩
  case chown =>
    cases hstep
    obtain ⟨hunfinished, hdata, hmode⟩ := hfile
    refine h.write hrequest rfl hunclaimed haccepted hget (.inl ⟨hunfinished.complete, hunfinished.legacy⟩)
      ⟨⟨hunfinished.complete, hunfinished.legacy⟩, hdata, ?_⟩
    simp [File.owned, hmode]
  case set_operation =>
    cases hstep
    obtain ⟨hunfinished, hdata, howned⟩ := hfile
    exact h.write hrequest rfl hunclaimed haccepted hget (.inl ⟨hunfinished.complete, hunfinished.legacy⟩)
      ⟨⟨hunfinished.complete, hunfinished.legacy⟩, hdata, howned, rfl⟩
  case set_receipt =>
    cases hstep
    obtain ⟨hunfinished, hdata, howned, hoperation⟩ := hfile
    refine h.write hrequest rfl hunclaimed haccepted hget (.inl ⟨hunfinished.complete, hunfinished.legacy⟩)
      ⟨⟨⟨hunfinished.complete, hunfinished.legacy⟩, howned, hoperation, rfl⟩, ?_⟩
    show file.data.now ++ value = value
    rw [hdata, List.nil_append]
  case writing rest =>
    obtain ⟨hwritten, hdata⟩ := hfile
    rw [Option.ite_none_right_eq_some] at hstep
    obtain ⟨_, hstep⟩ := hstep
    cases hstep
    have hunfinished : ({ file with data := file.data.write (file.data.now ++ rest.take count) } : File).Unfinished :=
      ⟨hwritten.unfinished.complete, hwritten.unfinished.legacy⟩
    have hnow : file.data.now ++ rest.take count ++ rest.drop count = value := by
      rw [List.append_assoc, List.take_append_drop, hdata]
    split
    next hrest =>
      rw [hrest, List.append_nil] at hnow
      exact h.write hrequest rfl hunclaimed haccepted hget (.inl hunfinished)
        ⟨⟨hunfinished, hwritten.owned, hwritten.operation, hwritten.receipt⟩, hnow⟩
    next =>
      exact h.write hrequest rfl hunclaimed haccepted hget (.inl hunfinished)
        ⟨⟨hunfinished, hwritten.owned, hwritten.operation, hwritten.receipt⟩, hnow⟩
  case syncing =>
    cases hstep
    obtain ⟨hwritten, hdata⟩ := hfile
    have hunfinished : file.sync.Unfinished := by
      refine ⟨?_, hwritten.unfinished.legacy⟩
      show file.complete.sync = _
      rw [hwritten.unfinished.complete]
      rfl
    exact h.write hrequest rfl hunclaimed haccepted hget (.inl hunfinished)
      ⟨⟨hunfinished, hwritten.owned, hwritten.operation, hwritten.receipt⟩, hdata, File.sync_synced⟩
  case set_complete =>
    cases hstep
    obtain ⟨hwritten, hdata, hsynced⟩ := hfile
    exact h.write hrequest rfl hunclaimed haccepted hget (.inr (sealed_complete hwritten hdata hsynced haccepted))
      (completed_complete hwritten hdata)
  case syncing_complete =>
    cases hstep
    exact h.write hrequest rfl hunclaimed haccepted hget hsound.sync
      ⟨⟨hfile.owned, hfile.data, hfile.stored⟩, File.sync_synced⟩
  case syncing_directory =>
    cases hstep
    obtain ⟨hcompleted, hsynced⟩ := hfile
    refine ⟨fun receipt hreceipt => ?_, fun key' entry hentry file' => sound_sync h hentry, fun _ hnone => ?_⟩
    · rcases List.mem_cons.mp hreceipt with rfl | hreceipt
      · exact ⟨rfl, file, hget, hsynced, hcompleted.owned, hcompleted.data, true, hcompleted.stored⟩
      · exact (h.settled receipt hreceipt).sync
    · cases hnone

/-- The replay of a create changes no contents, and returns the receipt that is stored. -/
theorem inv_repeating (hactive : s.active = some call)
    (hpoint : call.point = .repeating ∨ (∃ receipt, call.point = .repeat_syncing receipt) ∨
      ∃ receipt, call.point = .repeat_syncing_directory receipt) : Inv s' := by
  have hcall := h.call call hactive
  have hvalue := (value_length hrequest).2
  unfold create_succeeds at hstep
  rcases hpoint with hpoint | ⟨receipt, hpoint⟩ | ⟨receipt, hpoint⟩ <;> simp only [hpoint] at hstep
  · split at hstep
    next receipt hrepeat =>
      cases hstep
      refine h.goto (.of_point fun _ _ _ hrequest' => ?_)
      cases hrequest.symm.trans hrequest'
      exact hrepeat
    next =>
      cases hstep
      exact h.reply _
  · cases hstep
    have hrepeat := hcall.repeating _ _ _ receipt hrequest (.inl hpoint)
    obtain ⟨file, _, hget, _⟩ := repeat_create_ok hvalue hrepeat
    refine ⟨fun receipt hreceipt => (h.settled receipt hreceipt).sync_file, fun key' entry hentry file' =>
      sound_modify h hget (h.sound key _ List.mem_cons_self file hget).sync hentry, fun call' hcall' => ?_⟩
    cases hcall'
    refine .of_point fun _ _ _ hrequest' => ?_
    cases hrequest.symm.trans hrequest'
    refine ⟨repeat_create_sync hrepeat, fun file' hget' => ?_⟩
    rw [State.goto, get_modify, if_pos rfl, hget] at hget'
    cases hget'
    exact File.sync_synced
  · cases hstep
    have hrepeat := hcall.repeating _ _ _ receipt hrequest (.inr hpoint)
    obtain ⟨file, new, hget, howned, hdata, hstored⟩ := repeat_create_ok hvalue hrepeat
    refine ⟨fun given hgiven => ?_, fun key' entry hentry file' => sound_sync h hentry, fun _ hnone => ?_⟩
    · rcases List.mem_cons.mp hgiven with rfl | hgiven
      · have hsynced := hcall.repeated _ _ _ receipt hrequest hpoint file hget
        exact ⟨rfl, file, hget, hsynced, howned, hdata, new, hstored⟩
      · exact (h.settled given hgiven).sync
    · cases hnone

theorem inv_cleaning (hpoint : call.point = .cleaning ∨ call.point = .cleaning_directory) : Inv s' := by
  unfold create_succeeds at hstep
  rcases hpoint with hpoint | hpoint <;> simp only [hpoint] at hstep
  · split at hstep <;> cases hstep
    · refine h.unlink (.of_point fun _ _ _ hrequest' => ?_)
      cases hrequest.symm.trans hrequest'
      exact unclaimed_unlink
    · exact h.reply _
  · cases hstep
    exact h.reply_synced _

theorem inv_opening (hpoint : call.point = .opening) : Inv s' := by
  unfold create_succeeds at hstep
  simp only [hpoint] at hstep
  split at hstep
  next =>
    cases hstep
    exact h.goto (.of_point trivial)
  next hnone =>
    cases hstep
    -- Without a file there is no receipt either.
    have hunclaimed : Unclaimed s key := by
      rintro receipt hreceipt rfl
      obtain ⟨_, file, hget, _⟩ := h.settled receipt hreceipt
      rw [hnone] at hget
      cases hget
    refine ⟨fun receipt hreceipt => ?_, fun key' entry hentry file' => ?_, fun call' hactive => ?_⟩
    · refine (h.settled receipt hreceipt).congr ?_
      exact if_neg (hunclaimed receipt hreceipt)
    · refine sound_link h (fun _ ha => List.mem_cons_of_mem _ ha) (fun file hfile => ?_) hentry
      cases hfile
      exact .inl ⟨rfl, rfl⟩
    · cases hactive
      exact .of_creating hrequest rfl hunclaimed List.mem_cons_self (by rw [State.goto, get_link, if_pos rfl])
        ⟨⟨rfl, rfl⟩, rfl⟩

theorem inv_create_succeeds (hactive : s.active = some call) : Inv s' := by
  cases hpoint : call.point with
  | opening => exact inv_opening h hrequest hstep hpoint
  | repeating => exact inv_repeating h hrequest hstep hactive (.inl hpoint)
  | repeat_syncing receipt => exact inv_repeating h hrequest hstep hactive (.inr (.inl ⟨receipt, hpoint⟩))
  | repeat_syncing_directory receipt => exact inv_repeating h hrequest hstep hactive (.inr (.inr ⟨receipt, hpoint⟩))
  | cleaning => exact inv_cleaning h hrequest hstep (.inl hpoint)
  | cleaning_directory => exact inv_cleaning h hrequest hstep (.inr hpoint)
  | checking | unlinking | unlinking_directory =>
    simp only [create_succeeds, hpoint] at hstep
    cases hstep
  | _ => exact inv_creating h hrequest hstep hactive (by rw [hpoint]; rfl)

end

/-- A create that fails is over, or removes the file it was writing. -/
theorem create_fails_cases (hstep : create_fails s call = some s') :
    (∃ code, s' = s.reply call (.error code)) ∨ (call.point.creates = true ∧ s' = s.goto call .cleaning) := by
  cases hpoint : call.point <;> simp only [create_fails, hpoint] at hstep <;> cases hstep <;> first
    | exact .inl ⟨_, rfl⟩
    | exact .inr ⟨rfl, rfl⟩

theorem inv_create_fails (h : Inv s) (hactive : s.active = some call)
    (hrequest : call.request = .create operation_id key (some value)) (hstep : create_fails s call = some s') :
    Inv s' := by
  rcases create_fails_cases hstep with ⟨code, rfl⟩ | ⟨hcreates, rfl⟩
  · exact h.reply _
  · obtain ⟨hunclaimed, _⟩ := (h.call call hactive).creating _ _ _ hrequest hcreates
    refine h.goto (.of_point fun _ _ _ hrequest' => ?_)
    cases hrequest.symm.trans hrequest'
    exact hunclaimed

/-- The next file of a request, or its end. -/
theorem inv_next_unlink (h : Inv s) (hremoves : call.request.removes = true)
    (hrollback : ∀ operation_id key rollback_token, call.request = .rollback operation_id key rollback_token →
      rest = [])
    (hremove : ∀ keys, call.request = .remove_owned keys → ∀ key ∈ rest, key ∈ keys) :
    Inv (next_unlink s call rest) := by
  cases rest with
  | nil => exact h.reply _
  | cons key rest =>
    refine h.goto (.of_point ⟨hremoves, fun _ _ _ hrequest => ?_, hremove⟩)
    cases hrollback _ _ _ hrequest

theorem inv_sync (h : Inv s) : Inv { s with directory := s.directory.sync, active := none } := by
  refine .stopped (fun receipt hreceipt => (h.settled receipt hreceipt).sync) ?_
  exact fun key' entry hentry file' => sound_sync h hentry

theorem inv_remove_succeeds (h : Inv s) (hactive : s.active = some call)
    (hstep : remove_succeeds s call = some s') : Inv s' := by
  have hcall := h.call call hactive
  unfold remove_succeeds at hstep
  split at hstep
  next hpoint =>
    split at hstep
    next hrequest =>
      split at hstep <;> cases hstep
      next hallowed =>
        have hremoves : call.request.removes = true := by
          rw [hrequest]
          rfl
        refine h.goto (.of_point ⟨hremoves, fun _ _ _ hrequest' => ?_, ?_⟩)
        · rw [show call.request = _ from hrequest] at hrequest'
          cases hrequest'
          exact ⟨rfl, hallowed⟩
        · intro _ hrequest'
          rw [show call.request = _ from hrequest] at hrequest'
          cases hrequest'
      next => exact h.reply _
    next hrequest =>
      split at hstep <;> cases hstep
      · refine inv_next_unlink h (by rw [hrequest]; rfl) (fun _ _ _ hrequest' => ?_) (fun _ hrequest' key hkey => ?_)
        · rw [hrequest] at hrequest'
          cases hrequest'
        · rw [hrequest] at hrequest'
          cases hrequest'
          exact List.mem_of_mem_filter hkey
      · exact h.reply _
    next =>
      cases hstep
      exact h.reply _
    next => cases hstep
  next key rest hpoint =>
    cases hstep
    obtain ⟨hremoves, hrollback, hremove⟩ := hcall.unlinking _ hpoint
    refine h.unlink (.of_point ⟨hremoves, fun _ _ _ hrequest => ?_, ?_⟩)
    · exact (List.cons.inj (hrollback _ _ _ hrequest).1).2
    · exact fun keys hrequest key' hkey => hremove keys hrequest key' (List.mem_cons_of_mem _ hkey)
  next rest hpoint =>
    cases hstep
    obtain ⟨hremoves, hrollback, hremove⟩ := hcall.unlinking_directory _ hpoint
    have hnext : Inv (next_unlink { s with directory := s.directory.sync, active := none } call rest) :=
      inv_next_unlink (inv_sync h) hremoves hrollback hremove
    cases rest <;> exact ⟨hnext.settled, hnext.sound, hnext.call⟩
  next => cases hstep

theorem remove_fails_cases (hstep : remove_fails s call = some s') :
    ∃ reply, s' = s.reply call reply ∧ reply ≠ .removed false := by
  unfold remove_fails at hstep
  split at hstep <;> cases hstep <;> exact ⟨_, rfl, nofun⟩

theorem inv_step (h : Inv s) (hstep : step s action = some s') : Inv s' := by
  cases action with
  | request request rollback_token =>
    simp only [step] at hstep
    split at hstep
    next => cases hstep
    next =>
      split at hstep <;> cases hstep
      · refine ⟨h.settled, h.sound, fun call hactive => ?_⟩
        cases hactive
        apply CallSound.of_point
        cases request <;> simp [first_point]
      · exact ⟨h.settled, h.sound, fun call hactive => { h.call call hactive with }⟩
  | succeeds private_mode root_owned count =>
    obtain ⟨call, hactive, hstep⟩ := Option.bind_eq_some_iff.mp hstep
    split at hstep
    next hrequest => exact inv_create_succeeds h hrequest hstep hactive
    next => exact inv_remove_succeeds h hactive hstep
  | fails =>
    obtain ⟨call, hactive, hstep⟩ := Option.bind_eq_some_iff.mp hstep
    split at hstep
    next operation_id key value hrequest =>
      cases value with
      | none => exact absurd hrequest create_ne_none
      | some value => exact inv_create_fails h hactive hrequest hstep
    next =>
      obtain ⟨reply, rfl, _⟩ := remove_fails_cases hstep
      exact h.reply _
  | exits =>
    cases hstep
    exact .stopped h.settled h.sound
  | crash choice =>
    cases hstep
    refine .stopped (fun receipt hreceipt => (h.settled receipt hreceipt).crash choice) ?_
    intro key entry hentry file hfile
    obtain rfl : entry = (s.directory.crash choice key).now := by simpa [Directory.crash, Cell.crash] using hentry
    obtain ⟨before, hbefore, rfl⟩ := Option.map_eq_some_iff.mp hfile
    exact (h.sound key _ (Cell.crash_now_mem _) before hbefore).crash _

theorem inv_init (h : Initial s) : Inv s := by
  refine ⟨by simp [h.live], fun key entry hentry file hfile => ?_, fun call hactive => ?_⟩
  · rw [show (s.directory key).older = [] from h.entries key] at hentry
    obtain rfl : entry = (s.directory key).now := by simpa using hentry
    obtain ⟨hsynced, hstored⟩ := h.files key file hfile
    refine .inr ⟨hsynced.data, hsynced.operation, hsynced.receipt, fun complete hcomplete stored new hread => ?_⟩
    rw [show file.complete.older = [] from hsynced.complete] at hcomplete
    obtain rfl : complete = file.complete.now := by simpa using hcomplete
    exact hstored stored new hread
  · rw [h.idle] at hactive
    cases hactive

theorem inv_reachable (h : machine.Reachable s) : Inv s :=
  h.invariant (P := Inv) (fun _ hinit => inv_init hinit) (fun _ _ _ _ hinv hstep => inv_step hinv hstep)

/-- Two receipts of one key are of one file. -/
theorem Settled.unique {receipt' : Receipt} (h : Settled directory receipt) (h' : Settled directory receipt')
    (hkey : receipt'.key = receipt.key) : receipt' = receipt := by
  obtain ⟨_, file, hget, _, _, hdata, _, hstored⟩ := h
  obtain ⟨_, file', hget', _, _, hdata', _, hstored'⟩ := h'
  rw [hkey, hget] at hget'
  cases hget'
  rw [hstored] at hstored'
  simp only [Except.ok.injEq, Prod.mk.injEq, Stored.mk.injEq] at hstored'
  obtain ⟨operation_id, key, value, rollback_token⟩ := receipt
  obtain ⟨operation_id', key', value', rollback_token'⟩ := receipt'
  simp_all

/-- A create takes no receipt away, unless it removes its own file. -/
theorem live_create_succeeds
    (hstep : create_succeeds s call operation_id key value private_mode root_owned count = some s') :
    (∀ receipt ∈ s.live, receipt ∈ s'.live) ∨
      (call.point = .cleaning ∧ s' = (s.unlink key).goto call .cleaning_directory) := by
  cases hpoint : call.point <;> simp only [create_succeeds, hpoint] at hstep
  case opening =>
    left
    split at hstep <;> cases hstep <;> exact fun _ hreceipt => hreceipt
  case writing rest =>
    rw [Option.ite_none_right_eq_some] at hstep
    obtain ⟨_, hstep⟩ := hstep
    cases hstep
    exact .inl fun _ hreceipt => hreceipt
  case repeating =>
    left
    split at hstep <;> cases hstep <;> exact fun _ hreceipt => hreceipt
  case cleaning =>
    split at hstep <;> cases hstep
    · exact .inr ⟨rfl, rfl⟩
    · exact .inl fun _ hreceipt => hreceipt
  case syncing_directory | repeat_syncing_directory =>
    cases hstep
    exact .inl fun _ hreceipt => List.mem_cons_of_mem _ hreceipt
  all_goals
    cases hstep
    try exact .inl fun _ hreceipt => hreceipt

theorem live_next_unlink : (next_unlink s call rest).live = s.live := by
  cases rest <;> rfl

theorem live_remove_succeeds (hstep : remove_succeeds s call = some s') :
    s'.live = s.live ∨ ∃ key rest, call.point = .unlinking (key :: rest) ∧
      s'.live = s.live.filter (fun receipt => receipt.key ≠ key) := by
  unfold remove_succeeds at hstep
  split at hstep
  next =>
    left
    split at hstep
    · split at hstep <;> cases hstep <;> rfl
    · split at hstep <;> cases hstep
      · exact live_next_unlink
      · rfl
    · cases hstep
      rfl
    · cases hstep
  next key rest hpoint =>
    cases hstep
    exact .inr ⟨key, rest, hpoint, rfl⟩
  next =>
    cases hstep
    exact .inl live_next_unlink
  next => cases hstep

section

variable (h : Inv s) (hactive : s.active = some call) (hreceipt : receipt ∈ s.live)
include h hactive hreceipt

/-- A request that removes a file with a receipt shows that receipt, or names the key. -/
theorem removes_claimed (hpoint : call.point = .unlinking (key :: rest)) (hkey : receipt.key = key) :
    call.request = .rollback receipt.operation_id receipt.key receipt.rollback_token ∨
      ∃ keys, call.request = .remove_owned keys ∧ receipt.key ∈ keys := by
  subst hkey
  have hcall := h.call call hactive
  obtain ⟨hremoves, hrollback, hremove⟩ := hcall.unlinking _ hpoint
  cases hrequest : call.request with
  | rollback operation_id key rollback_token =>
    left
    obtain ⟨hrest, hallowed⟩ := hrollback _ _ _ hrequest
    obtain rfl : receipt.key = key := (List.cons.inj hrest).1
    obtain ⟨_, file, hget, _, _, _, _, hstored⟩ := h.settled receipt hreceipt
    simp only [may_roll_back, hget, hstored, Bool.and_eq_true, decide_eq_true_eq] at hallowed
    obtain ⟨⟨⟨_, rfl⟩, _⟩, rfl⟩ := hallowed
    rfl
  | remove_owned keys => exact .inr ⟨keys, rfl, hremove keys hrequest _ List.mem_cons_self⟩
  | create | verify_owned =>
    rw [hrequest] at hremoves
    cases hremoves

theorem not_creates_of_claimed (hrequest : call.request = .create operation_id receipt.key (some value)) :
    call.point.creates = false ∧ call.point ≠ .cleaning ∧ call.point ≠ .cleaning_directory := by
  have hcall := h.call call hactive
  refine ⟨Bool.eq_false_iff.mpr fun hcreates => ?_, fun hpoint => ?_, fun hpoint => ?_⟩
  · exact (hcall.creating _ _ _ hrequest hcreates).1 receipt hreceipt rfl
  · exact hcall.cleaning _ _ _ hrequest (.inl hpoint) receipt hreceipt rfl
  · exact hcall.cleaning _ _ _ hrequest (.inr hpoint) receipt hreceipt rfl

theorem create_succeeds_claimed (hrequest : call.request = .create operation_id receipt.key (some value))
    (hstep : create_succeeds s call operation_id receipt.key value private_mode root_owned count = some s') :
    s'.directory.get receipt.key = s.directory.get receipt.key ∧
      (s'.replies = s.replies ∨ (∃ code, s'.replies = s.replies ++ [(call.request, .error code)]) ∨
        (s'.replies = s.replies ++ [(call.request, .token receipt.rollback_token)] ∧
          operation_id = receipt.operation_id ∧ value = receipt.value)) := by
  obtain ⟨hcreates, hcleaning, hcleaning'⟩ := not_creates_of_claimed h hactive hreceipt hrequest
  have hcall := h.call call hactive
  have hsettled := h.settled receipt hreceipt
  cases hpoint : call.point <;> simp only [hpoint, Point.creates, ne_eq, not_true_eq_false, Bool.true_eq_false]
    at hcreates hcleaning hcleaning' <;> simp only [create_succeeds, hpoint] at hstep
  case opening =>
    obtain ⟨_, file, hget, _⟩ := hsettled
    rw [hget] at hstep
    cases hstep
    exact ⟨rfl, .inl rfl⟩
  case repeating =>
    split at hstep <;> cases hstep
    · exact ⟨rfl, .inl rfl⟩
    · exact ⟨rfl, .inr (.inl ⟨_, rfl⟩)⟩
  case repeat_syncing stored =>
    cases hstep
    obtain ⟨_, file, hget, hsynced, _⟩ := hsettled
    refine ⟨?_, .inl rfl⟩
    rw [State.goto, get_modify, if_pos rfl, hget, Option.map_some, hsynced.sync_eq]
  case repeat_syncing_directory stored =>
    cases hstep
    -- The receipt that is stored is the one that was given.
    have hrepeat := hcall.repeating _ _ _ stored hrequest (.inr hpoint)
    obtain ⟨file, new, hget, howned, hdata, hstored⟩ := repeat_create_ok (value_length hrequest).2 hrepeat
    have hsynced := hcall.repeated _ _ _ stored hrequest hpoint file hget
    have hnew : Settled s.directory ⟨operation_id, receipt.key, value, stored⟩ :=
      ⟨hsettled.1, file, hget, hsynced, howned, hdata, new, hstored⟩
    have heq := hsettled.unique hnew rfl
    have htoken : stored = receipt.rollback_token := congrArg Receipt.rollback_token heq
    exact ⟨rfl, .inr (.inr ⟨by rw [← htoken]; rfl, congrArg Receipt.operation_id heq, congrArg Receipt.value heq⟩)⟩
  all_goals cases hstep

/-- A create on a key with a receipt leaves the file, and returns that receipt or none. -/
theorem create_claimed {value : Option Bytes} (hstep : step s action = some s')
    (hrequest : call.request = .create operation_id receipt.key value) :
    s'.directory.get receipt.key = s.directory.get receipt.key ∧
      ∀ reply, s'.replies = s.replies ++ [(call.request, reply)] →
        (∃ code, reply = .error code) ∨
          (reply = .token receipt.rollback_token ∧ operation_id = receipt.operation_id ∧
            value = some receipt.value) := by
  obtain ⟨value, rfl⟩ : ∃ bytes, value = some bytes := by
    cases value with
    | none => exact absurd hrequest create_ne_none
    | some bytes => exact ⟨bytes, rfl⟩
  cases action with
  | request request rollback_token =>
    simp only [step, hactive] at hstep
    cases hstep
  | succeeds private_mode root_owned count =>
    simp only [step, hactive, Option.bind_some, hrequest] at hstep
    obtain ⟨hget, hreplies⟩ := create_succeeds_claimed h hactive hreceipt hrequest hstep
    refine ⟨hget, fun reply hreply => ?_⟩
    rcases hreplies with hsame | ⟨code, herror⟩ | ⟨htoken, rfl, rfl⟩
    · simp [hsame] at hreply
    · rw [herror] at hreply
      exact .inl ⟨code, by simpa using hreply.symm⟩
    · rw [htoken] at hreply
      exact .inr ⟨by simpa using hreply.symm, rfl, rfl⟩
  | fails =>
    simp only [step, hactive, Option.bind_some, hrequest] at hstep
    rcases create_fails_cases hstep with ⟨code, rfl⟩ | ⟨_, rfl⟩
    · refine ⟨rfl, fun reply hreply => .inl ⟨code, ?_⟩⟩
      simpa [State.reply] using hreply.symm
    · refine ⟨rfl, fun reply hreply => ?_⟩
      simp [State.goto] at hreply
  | exits =>
    cases hstep
    exact ⟨rfl, fun reply hreply => by simp at hreply⟩
  | crash choice =>
    cases hstep
    refine ⟨?_, fun reply hreply => by simp at hreply⟩
    obtain ⟨hentry, file, hget, hsynced, _⟩ := h.settled receipt hreceipt
    unfold Directory.get at hget ⊢
    simp only [Directory.crash, hentry.crash_eq, hget, Option.map_some, hsynced.crash_eq]

end

/-- A receipt is lost only to a request that may remove its file. -/
theorem live_of_step (h : Inv s) (hstep : step s action = some s') (hreceipt : receipt ∈ s.live) :
    receipt ∈ s'.live ∨ ∃ call, s.active = some call ∧
      (call.request = .rollback receipt.operation_id receipt.key receipt.rollback_token ∨
        ∃ keys, call.request = .remove_owned keys ∧ receipt.key ∈ keys) := by
  cases action with
  | request request rollback_token =>
    simp only [step] at hstep
    split at hstep
    next => cases hstep
    next => split at hstep <;> cases hstep <;> exact .inl hreceipt
  | succeeds private_mode root_owned count =>
    obtain ⟨call, hactive, hstep⟩ := Option.bind_eq_some_iff.mp hstep
    split at hstep
    next hrequest =>
      rcases live_create_succeeds hstep with hlive | ⟨hpoint, rfl⟩
      · exact .inl (hlive receipt hreceipt)
      · have hunclaimed := (h.call call hactive).cleaning _ _ _ hrequest (.inl hpoint)
        exact .inl (List.mem_filter.mpr ⟨hreceipt, decide_eq_true (hunclaimed receipt hreceipt)⟩)
    next =>
      rcases live_remove_succeeds hstep with hlive | ⟨key, rest, hpoint, hlive⟩
      · exact .inl (hlive ▸ hreceipt)
      · by_cases hkey : receipt.key = key
        · exact .inr ⟨call, hactive, removes_claimed h hactive hreceipt hpoint hkey⟩
        · rw [hlive]
          exact .inl (List.mem_filter.mpr ⟨hreceipt, decide_eq_true hkey⟩)
  | fails =>
    obtain ⟨call, hactive, hstep⟩ := Option.bind_eq_some_iff.mp hstep
    split at hstep
    · rcases create_fails_cases hstep with ⟨code, rfl⟩ | ⟨_, rfl⟩ <;> exact .inl hreceipt
    · obtain ⟨reply, rfl, _⟩ := remove_fails_cases hstep
      exact .inl hreceipt
  | exits | crash choice =>
    cases hstep
    exact .inl hreceipt

/-- A file that is owned and complete is of an accepted create. -/
theorem accepted_of_verified (h : Inv s) (hverified : verify_owned s.directory operation_id key = true) :
    ∃ file, s.directory.get key = some file ∧ ⟨operation_id, key, file.data.now⟩ ∈ s.accepted := by
  unfold verify_owned at hverified
  split at hverified
  next => cases hverified
  next file hget =>
    split at hverified
    next stored new hstored =>
      simp only [Bool.and_eq_true, decide_eq_true_eq] at hverified
      obtain ⟨⟨_, rfl⟩, _⟩ := hverified
      refine ⟨file, hget, ?_⟩
      rcases h.sound key _ List.mem_cons_self file hget with hunfinished | hsealed
      · exact absurd hstored (not_stored_of_unfinished hunfinished)
      · exact hsealed.stored _ List.mem_cons_self stored new hstored
    next => cases hverified

theorem not_removed_false_next {keys : List String} (hrequest : call.request = .remove_owned keys)
    (hreply : (next_unlink s call rest).replies = s.replies ++ [(call.request, .removed false)]) : False := by
  cases rest with
  | nil => simp [next_unlink, State.reply, hrequest] at hreply
  | cons key rest => simp [next_unlink, State.goto] at hreply

/-- The answer that nothing was removed comes before any file is. -/
theorem unlinked_of_removed_false {keys : List String} (h : Inv s) (hactive : s.active = some call)
    (hrequest : call.request = .remove_owned keys) (hstep : step s action = some s')
    (hreply : s'.replies = s.replies ++ [(call.request, .removed false)]) :
    call.unlinked = [] ∧ s'.directory = s.directory := by
  cases action with
  | request request rollback_token =>
    simp only [step, hactive] at hstep
    cases hstep
  | succeeds private_mode root_owned count =>
    simp only [step, hactive, Option.bind_some, hrequest] at hstep
    unfold remove_succeeds at hstep
    split at hstep
    next hpoint =>
      simp only [hrequest] at hstep
      split at hstep <;> cases hstep
      · exact (not_removed_false_next hrequest hreply).elim
      · exact ⟨(h.call call hactive).checking hpoint, rfl⟩
    next =>
      cases hstep
      simp [State.goto, State.unlink] at hreply
    next =>
      cases hstep
      exact (not_removed_false_next hrequest hreply).elim
    next => cases hstep
  | fails =>
    simp only [step, hactive, Option.bind_some, hrequest] at hstep
    obtain ⟨reply, rfl, hne⟩ := remove_fails_cases hstep
    simp [State.reply, hne] at hreply
  | exits | crash choice =>
    cases hstep
    simp at hreply

end

/-- In every run of the broker, with crashes between any two system calls: a file with a receipt holds the value it
    was created with until it is rolled back with that receipt or removed by its key; another create on the key
    returns the same receipt, for the same operation and bytes, or fails and leaves the file; a file that is verified
    holds the bytes of an accepted create of the operation; and a removal that returns false removed nothing. -/
theorem broker_files_write_once (s : State) (h : machine.Reachable s) :
    (∀ receipt ∈ s.live, ∃ file, s.directory.get receipt.key = some file ∧ file.data.now = receipt.value) ∧
    (∀ action s', step s action = some s' → ∀ receipt ∈ s.live, receipt ∈ s'.live ∨
      ∃ call, s.active = some call ∧
        (call.request = .rollback receipt.operation_id receipt.key receipt.rollback_token ∨
          ∃ keys, call.request = .remove_owned keys ∧ receipt.key ∈ keys)) ∧
    (∀ action s' call, step s action = some s' → s.active = some call → ∀ receipt ∈ s.live, ∀ operation_id value,
      call.request = .create operation_id receipt.key value →
        s'.directory.get receipt.key = s.directory.get receipt.key ∧
        ∀ reply, s'.replies = s.replies ++ [(call.request, reply)] →
          (∃ code, reply = .error code) ∨
            (reply = .token receipt.rollback_token ∧ operation_id = receipt.operation_id ∧
              value = some receipt.value)) ∧
    (∀ operation_id key, verify_owned s.directory operation_id key = true →
      ∃ file, s.directory.get key = some file ∧ ⟨operation_id, key, file.data.now⟩ ∈ s.accepted) ∧
    (∀ action s' call keys, step s action = some s' → s.active = some call → call.request = .remove_owned keys →
      s'.replies = s.replies ++ [(call.request, .removed false)] →
        call.unlinked = [] ∧ s'.directory = s.directory) := by
  have hinv := inv_reachable h
  refine ⟨fun receipt hreceipt => ?_, fun action s' hstep receipt hreceipt => live_of_step hinv hstep hreceipt, ?_,
    fun operation_id key hverified => accepted_of_verified hinv hverified, ?_⟩
  · obtain ⟨_, file, hget, _, _, hdata, _⟩ := hinv.settled receipt hreceipt
    exact ⟨file, hget, hdata⟩
  · intro action s' call hstep hactive receipt hreceipt operation_id value hrequest
    exact create_claimed hinv hactive hreceipt hstep hrequest
  · intro action s' call keys hstep hactive hrequest hreply
    exact unlinked_of_removed_false hinv hactive hrequest hstep hreply

/-- An empty directory. -/
def empty_directory : State := { directory := fun _ => ⟨none, []⟩ }

theorem empty_directory_initial : Initial empty_directory := by
  refine ⟨rfl, rfl, fun _ => rfl, fun key file hget => ?_⟩
  cases hget

def operation_a : String := "operation-0123456789abcdef"

def key_a : String := "src-fixture-0123456789abcdef"

/-- A create without interruption. -/
def create_a : List Action :=
  .request (.create operation_a key_a (some [102, 105])) "receipt" :: List.replicate 11 (.succeeds true true 1)

theorem broker_files_write_once_created :
    ∃ s, machine.Reachable s ∧ ∃ receipt ∈ s.live,
      ∃ file, s.directory.get receipt.key = some file ∧ file.data.now = receipt.value := by
  have hrun : (machine.run empty_directory create_a).any (fun s => s.live.any (fun _ => true)) = true := by
    decide +kernel
  rw [Option.any_eq_true] at hrun
  obtain ⟨s, hrun, hcheck⟩ := hrun
  obtain ⟨receipt, hreceipt, _⟩ := List.any_eq_true.mp hcheck
  have hreachable := (Machine.Reachable.init empty_directory_initial).run hrun
  obtain ⟨hfile, _⟩ := broker_files_write_once s hreachable
  exact ⟨s, hreachable, receipt, hreceipt, hfile receipt hreceipt⟩

end netbox_sync.secret_broker
