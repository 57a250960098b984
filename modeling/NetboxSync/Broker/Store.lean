import NetboxSync.Lib.Durable
import NetboxSync.Lib.Except
import NetboxSync.Lib.Machine

namespace netbox_sync.secret_broker

abbrev Bytes := List UInt8

def word (c : Char) : Bool := c.isAlphanum || c = '_' || c = '-'

/-- `KEY_PATTERN.fullmatch(key)`, which leaves nothing for the checks after it. -/
def is_key (key : String) : Bool :=
  match key.toList with
  | [] => false
  | first :: rest => first.isAlphanum && 15 ≤ rest.length && rest.length ≤ 127 && rest.all word

/-- `OPERATION_PATTERN.fullmatch(value)` -/
def is_operation (value : String) : Bool := 20 ≤ value.length && value.length ≤ 128 && value.toList.all word

def MAX_SECRET_BYTES : Nat := 4096

/-- A set of the three attributes, as far as they are present. -/
structure Attributes where
  operation : Option String := none
  receipt : Option String := none
  complete : Option String := none
deriving DecidableEq, Repr

/-- A receipt set that is all there. -/
structure Stored where
  operation : String
  receipt : String
  complete : String
deriving DecidableEq, Repr

/-- A file of the directory. `private_mode` and `root_owned` are its metadata, the attributes stand one by one, and no
    code writes the legacy set. -/
structure File where
  data : Cell Bytes := ⟨[], []⟩
  private_mode : Cell Bool
  root_owned : Cell Bool
  operation : Cell (Option String) := ⟨none, []⟩
  receipt : Cell (Option String) := ⟨none, []⟩
  complete : Cell (Option String) := ⟨none, []⟩
  legacy : Attributes := {}

/-- `_owned_regular_file` -/
def File.owned (file : File) : Bool := file.private_mode.now && file.root_owned.now

def File.attributes (file : File) : Attributes := ⟨file.operation.now, file.receipt.now, file.complete.now⟩

/-- `fsync` of the file. -/
def File.sync (file : File) : File :=
  { file with
    data := file.data.sync
    private_mode := file.private_mode.sync
    root_owned := file.root_owned.sync
    operation := file.operation.sync
    receipt := file.receipt.sync
    complete := file.complete.sync }

inductive BrokerError where
  | SECRET_KEY_INVALID
  | OPERATION_ID_INVALID
  | SECRET_VALUE_INVALID
  | SECRET_CREATE_FAILED
  | SECRET_ALREADY_EXISTS
  | ROLLBACK_NOT_AUTHORIZED
  | REQUEST_INVALID
  | BROKER_INTERNAL_ERROR
deriving DecidableEq, Repr

/-- One receipt set: absent, all there, or refused. -/
def Attributes.read (attributes : Attributes) : Except BrokerError (Option Stored) :=
  match attributes.operation, attributes.receipt, attributes.complete with
  | none, none, none => .ok none
  | some operation, some receipt, some complete => .ok (some ⟨operation, receipt, complete⟩)
  | _, _, _ => .error .ROLLBACK_NOT_AUTHORIZED

/-- `_stored_attributes`, and whether the names are the new ones. -/
def _stored_attributes (file : File) : Except BrokerError (Stored × Bool) := do
  match ← file.attributes.read, ← file.legacy.read with
  | some stored, none => return (stored, true)
  | none, some stored => return (stored, false)
  | some stored, some legacy => if stored = legacy then return (stored, true) else .error .ROLLBACK_NOT_AUTHORIZED
  | none, none => .error .ROLLBACK_NOT_AUTHORIZED

/-- The directory: each name is written and synced like the contents are. -/
abbrev Directory := String → Cell (Option File)

variable (s : State) (call : Call) (directory : Directory) (operation_id key : String) (value : Bytes)

def Directory.get (key : String) : Option File := (directory key).now

/-- `fsync` of the directory. -/
def Directory.sync : Directory := fun key => (directory key).sync

/-- A name is created or unlinked. -/
def Directory.link (key : String) (file : Option File) : Directory :=
  fun key' => if key' = key then (directory key).write file else directory key'

/-- The file under a name is written. -/
def Directory.modify (key : String) (f : File → File) : Directory :=
  fun key' => if key' = key then { directory key with now := (directory key).now.map f } else directory key'

/-- What a crash leaves of one name and its file. -/
structure Choice where
  entry : Nat := 0
  torn : Bytes := []
  private_mode : Nat := 0
  root_owned : Nat := 0
  operation : Nat := 0
  receipt : Nat := 0
  complete : Nat := 0

def File.crash (file : File) (choice : Choice) : File :=
  { file with
    data := file.data.tear choice.torn
    private_mode := file.private_mode.crash choice.private_mode
    root_owned := file.root_owned.crash choice.root_owned
    operation := file.operation.crash choice.operation
    receipt := file.receipt.crash choice.receipt
    complete := file.complete.crash choice.complete }

def Directory.crash (choice : String → Choice) : Directory := fun key =>
  let entry := (directory key).crash (choice key).entry
  { entry with now := entry.now.map (·.crash (choice key)) }

/-- `verify_owned` of a valid operation and key. -/
def verify_owned : Bool :=
  match directory.get key with
  | none => false
  | some file =>
    match _stored_attributes file with
    | .ok (stored, _) => file.owned && stored.operation = operation_id && stored.complete = "1"
    | .error _ => false

/-- A request to the broker. The value is what `base64.b64decode` makes of it. -/
inductive Request where
  | create (operation_id key : String) (value : Option Bytes)
  | verify_owned (operation_id key : String)
  | rollback (operation_id key rollback_token : String)
  | remove_owned (keys : List String)
deriving DecidableEq, Repr

inductive Reply where
  | token (rollback_token : String)
  | verified (verified : Bool)
  | done
  | removed (removed : Bool)
  | error (code : BrokerError)
deriving DecidableEq, Repr

/-- The next system call of a request. Reads, which change nothing, are made together with the decision that follows
    from them. -/
inductive Point where
  | opening
  | chmod
  | chown
  | set_operation
  | set_receipt
  | writing (rest : Bytes)
  | syncing
  | set_complete
  | syncing_complete
  | syncing_directory
  /-- The name exists: the replay of a create. -/
  | repeating
  | repeat_syncing (receipt : String)
  | repeat_syncing_directory (receipt : String)
  /-- Cleanup of a failed create. -/
  | cleaning
  | cleaning_directory
  | checking
  | unlinking (rest : List String)
  | unlinking_directory (rest : List String)
deriving DecidableEq, Repr

/-- The value of a create, checked. -/
def checked_value : Option Bytes → Except BrokerError Bytes
  | some value =>
    if value = [] || MAX_SECRET_BYTES < value.length || value.contains 0 then .error .SECRET_VALUE_INVALID
    else .ok value
  | none => .error .SECRET_VALUE_INVALID

/-- The checks of a request before it touches the directory. -/
def validated : Request → Except BrokerError Unit
  | .create operation_id key value => do
    Except.require (is_operation operation_id) .OPERATION_ID_INVALID
    Except.require (is_key key) .SECRET_KEY_INVALID
    let _ ← checked_value value
  | .verify_owned operation_id key => do
    Except.require (is_key key) .SECRET_KEY_INVALID
    Except.require (is_operation operation_id) .OPERATION_ID_INVALID
  | .rollback operation_id key _ => do
    Except.require (is_operation operation_id) .OPERATION_ID_INVALID
    Except.require (is_key key) .SECRET_KEY_INVALID
  | .remove_owned keys =>
    Except.require (1 ≤ keys.length && keys.length ≤ 2 && keys.all is_key && keys.Nodup) .REQUEST_INVALID

/-- A request being served, which passed its checks. `rollback_token` is the fresh one of a create, and `unlinked`
    what the request has removed. -/
structure Call where
  request : Request
  valid : validated request = .ok ()
  point : Point
  rollback_token : String := ""
  unlinked : List String := []

/-- A create that returned its receipt, and whose file was not removed. -/
structure Receipt where
  operation_id : String
  key : String
  value : Bytes
  rollback_token : String
deriving DecidableEq, Repr

/-- A create that was let in. -/
structure Accepted where
  operation_id : String
  key : String
  value : Bytes
deriving DecidableEq, Repr

/-- The directory and the request that is served, with the accounts of what was accepted, what has a receipt and what
    was replied. -/
structure State where
  directory : Directory
  active : Option Call := none
  accepted : List Accepted := []
  live : List Receipt := []
  replies : List (Request × Reply) := []

inductive Action where
  /-- The broker is idle and takes a request. -/
  | request (request : Request) (rollback_token : String)
  /-- The system call succeeds. Of a new file `private_mode` and `root_owned` is what its creation made of them, and
      of a write `count` what it took. -/
  | succeeds (private_mode root_owned : Bool) (count : Nat)
  /-- The system call raises `OSError`. -/
  | fails
  /-- The process ends, and the next one finds the directory as it is. -/
  | exits
  /-- The machine goes down, and what was not synced may be lost. -/
  | crash (choice : String → Choice)

def State.goto (point : Point) : State := { s with active := some { call with point } }

def State.reply (reply : Reply) : State := { s with active := none, replies := s.replies ++ [(call.request, reply)] }

/-- The file of the key goes, and with it the receipts that were given for it. -/
def State.unlink (key : String) : State :=
  { s with directory := s.directory.link key none, live := s.live.filter (fun receipt => receipt.key ≠ key) }

/-- A create returns. -/
def State.returned (rollback_token : String) : State :=
  { s with live := ⟨operation_id, key, value, rollback_token⟩ :: s.live }.reply call (.token rollback_token)

def first_point : Request → Point
  | .create .. => .opening
  | _ => .checking

/-- `_repeat_create` up to its syncs: the receipt of the file that is there. -/
def _repeat_create : Except BrokerError String := do
  match directory.get key with
  | none => .error .SECRET_ALREADY_EXISTS
  | some file =>
    let (stored, _) ← _stored_attributes file
    Except.require
      (file.owned && stored.operation = operation_id && stored.complete = "1" &&
        file.data.now.take (MAX_SECRET_BYTES + 1) = value) .SECRET_ALREADY_EXISTS
    return stored.receipt

/-- The checks of `rollback`, and again of `_unlink_owned`. -/
def may_roll_back (operation_id key rollback_token : String) : Bool :=
  match directory.get key with
  | none => false
  | some file =>
    match _stored_attributes file with
    | .ok (stored, _) =>
      file.owned && stored.operation = operation_id && stored.complete = "1" && stored.receipt = rollback_token
    | .error _ => false

/-- The check of `remove_owned` on one key: the file may be absent, otherwise it is a complete one with the new
    attributes. -/
def may_remove (key : String) : Bool :=
  match directory.get key with
  | none => true
  | some file =>
    match _stored_attributes file with
    | .ok (stored, new) => file.owned && stored.complete = "1" && new
    | .error _ => false

/-- The keys of `remove_owned` whose files are there. -/
def present (keys : List String) : List String := keys.filter (fun key => (directory.get key).isSome)

/-- After one file is removed, the next one or the end. -/
def next_unlink : List String → State
  | [] => s.reply call (match call.request with | .remove_owned _ => .removed true | _ => .done)
  | rest => s.goto call (.unlinking rest)

/-- The system call at which a create stands succeeds. -/
def create_succeeds (private_mode root_owned : Bool) (count : Nat) : Option State :=
  let write (f : File → File) (point : Point) : Option State :=
    some ({ s with directory := s.directory.modify key f }.goto call point)
  match call.point with
  | .opening =>
    match s.directory.get key with
    | some _ => some (s.goto call .repeating)
    | none =>
      let file : File := { private_mode := ⟨private_mode, []⟩, root_owned := ⟨root_owned, []⟩ }
      some ({ s with
        directory := s.directory.link key (some file)
        accepted := ⟨operation_id, key, value⟩ :: s.accepted }.goto call .chmod)
  | .chmod => write (fun file => { file with private_mode := file.private_mode.write true }) .chown
  | .chown => write (fun file => { file with root_owned := file.root_owned.write true }) .set_operation
  | .set_operation =>
    write (fun file => { file with operation := file.operation.write (some operation_id) }) .set_receipt
  | .set_receipt =>
    write (fun file => { file with receipt := file.receipt.write (some call.rollback_token) }) (.writing value)
  | .writing rest =>
    if 0 < count && count ≤ rest.length then
      write (fun file => { file with data := file.data.write (file.data.now ++ rest.take count) })
        (if rest.drop count = [] then .syncing else .writing (rest.drop count))
    else none
  | .syncing => write File.sync .set_complete
  | .set_complete => write (fun file => { file with complete := file.complete.write (some "1") }) .syncing_complete
  | .syncing_complete => write File.sync .syncing_directory
  | .syncing_directory =>
    some ({ s with directory := s.directory.sync }.returned call operation_id key value call.rollback_token)
  | .repeating =>
    match _repeat_create s.directory operation_id key value with
    | .ok receipt => some (s.goto call (.repeat_syncing receipt))
    | .error code => some (s.reply call (.error code))
  | .repeat_syncing receipt => write File.sync (.repeat_syncing_directory receipt)
  | .repeat_syncing_directory receipt =>
    some ({ s with directory := s.directory.sync }.returned call operation_id key value receipt)
  | .cleaning =>
    -- `_unlink_owned` looks at the file once more.
    if (s.directory.get key).any File.owned then some ((s.unlink key).goto call .cleaning_directory)
    else some (s.reply call (.error .SECRET_CREATE_FAILED))
  | .cleaning_directory =>
    some ({ s with directory := s.directory.sync }.reply call (.error .SECRET_CREATE_FAILED))
  | _ => none

/-- It raises instead. Before the end of the file's last sync the create removes what it made. -/
def create_fails : Option State :=
  match call.point with
  | .opening | .cleaning | .cleaning_directory => some (s.reply call (.error .SECRET_CREATE_FAILED))
  | .chmod | .chown | .set_operation | .set_receipt | .writing _ | .syncing | .set_complete
  | .syncing_complete => some (s.goto call .cleaning)
  | .syncing_directory => some (s.reply call (.error .BROKER_INTERNAL_ERROR))
  | .repeating | .repeat_syncing _ | .repeat_syncing_directory _ =>
    some (s.reply call (.error .SECRET_ALREADY_EXISTS))
  | _ => none

/-- The requests that remove files. -/
def remove_succeeds : Option State :=
  match call.point with
  | .checking =>
    match call.request with
    | .rollback operation_id key rollback_token =>
      if may_roll_back s.directory operation_id key rollback_token then some (s.goto call (.unlinking [key]))
      else some (s.reply call (.error .ROLLBACK_NOT_AUTHORIZED))
    | .remove_owned keys =>
      if keys.all (may_remove s.directory) then some (next_unlink s call (present s.directory keys))
      else some (s.reply call (.removed false))
    | .verify_owned operation_id key => some (s.reply call (.verified (verify_owned s.directory operation_id key)))
    | .create .. => none
  | .unlinking (key :: rest) =>
    some ((s.unlink key).goto { call with unlinked := key :: call.unlinked } (.unlinking_directory rest))
  | .unlinking_directory rest => some (next_unlink { s with directory := s.directory.sync } call rest)
  | _ => none

def remove_fails : Option State :=
  match call.request, call.point with
  | .rollback .., _ => some (s.reply call (.error .ROLLBACK_NOT_AUTHORIZED))
  | .verify_owned .., .checking => some (s.reply call (.verified false))
  | .remove_owned _, _ => some (s.reply call (.error .BROKER_INTERNAL_ERROR))
  | _, _ => none

def step : Action → Option State
  | .request request rollback_token =>
    match s.active with
    | some _ => none
    | none =>
      match hvalid : validated request with
      | .ok () =>
        some { s with active := some { request, valid := hvalid, point := first_point request, rollback_token } }
      | .error code => some { s with replies := s.replies ++ [(request, .error code)] }
  | .succeeds private_mode root_owned count =>
    s.active.bind (fun call =>
      match call.request with
      | .create operation_id key (some value) =>
        create_succeeds s call operation_id key value private_mode root_owned count
      | _ => remove_succeeds s call)
  | .fails =>
    s.active.bind (fun call =>
      match call.request with
      | .create .. => create_fails s call
      | _ => remove_fails s call)
  | .exits => some { s with active := none }
  | .crash choice => some { s with directory := s.directory.crash choice, active := none }

/-- Everything about the file has reached the disk. -/
structure File.Synced (file : File) : Prop where
  data : file.data.Synced
  private_mode : file.private_mode.Synced
  root_owned : file.root_owned.Synced
  operation : file.operation.Synced
  receipt : file.receipt.Synced
  complete : file.complete.Synced

/-- The files that are there at first are on the disk, and a complete one is of a create that was accepted, by an
    older broker perhaps. -/
structure Initial (s : State) : Prop where
  idle : s.active = none
  live : s.live = []
  entries : ∀ key, (s.directory key).Synced
  files : ∀ key file, s.directory.get key = some file → file.Synced ∧
    ∀ stored new, _stored_attributes file = .ok (stored, new) → ⟨stored.operation, key, file.data.now⟩ ∈ s.accepted

def machine : Machine State Action where
  init := Initial
  step := step

end netbox_sync.secret_broker
