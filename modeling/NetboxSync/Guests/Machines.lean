import Mathlib.Data.Sum.Order
import NetboxSync.Network.Preflight

open json

/-- `owned_fields(custom_fields)`: the native fields that the Selectel inventory owns. -/
def netbox_sync.selectel_authority.owned_fields (custom_fields : Fields) : List String :=
  if ((dict.get custom_fields "selectel_refs").getD .null).truthy then
    match dict.get custom_fields "selectel_inventory" with
    | some (.obj snapshot) =>
      match dict.get snapshot "native_fields" with
      | some (.arr fields) =>
        if fields.all (fun f => match f with | .str _ => true | _ => false) then
          ["name", "serial", "site_id", "status", "vcpus", "memory", "primary_ip4_id", "primary_ip6_id"].filter
            (fun field => fields.contains (.str field))
        else []
      | _ => []
    | _ => []
  else []

namespace netbox_sync.netbox_vm_metadata

open discovery netbox source_identity

def MANAGED_VM_CUSTOM_FIELDS : List String := ["sync_identities", "sync_original_names"]

/-- `if fields.get(key) is None: fields[key] = default` -/
def with_default (fields : Fields) (key : String) (default : Value) : Fields :=
  match dict.get fields key with
  | none | some .null => dict.set fields key default
  | some _ => fields

variable (py : python.Runtime)

def build_vm_custom_fields (vm : DiscoveredVirtualMachine) (existing : Fields) : Except String Fields := do
  let normalized := with_default (with_default existing "sync_identities" (.arr [])) "sync_original_names" (.obj [])
  let desired_identity ← virtual_machine_source_identity vm
  let merged_identities ← merge_source_identities py normalized desired_identity
  let merged_original_names ← merge_original_name normalized desired_identity vm.original_name
  return dict.update existing
    [("sync_identities", .arr merged_identities), ("sync_original_names", .obj merged_original_names)]

end netbox_sync.netbox_vm_metadata

namespace netbox_sync.netbox_vm_apply

open discovery netbox source_identity netbox_vm_metadata selectel_authority

/-- A VM of NetBox as `serialize()` gives it, with its numbers as `_integer_value` reads them. -/
structure MachineRecord extends VirtualMachine where
  tenant : Option Int := none
  status : Option String := none
  vcpus : Option Int := none
  memory : Option Int := none
  disk : Option Int := none
  start_on_boot : Option String := none
  description : Option String := none
  comments : Option String := none
deriving DecidableEq

instance : Row MachineRecord := ⟨fun record => record.id⟩

/-- The VMs of a NetBox, and the parents of its virtual disks. -/
structure Machines where
  vms : Table MachineRecord
  disk_parents : List Int := []

def _desired_status (vm : DiscoveredVirtualMachine) : Except String String :=
  match vm.status with
  | "running" => .ok "active"
  | "stopped" => .ok "offline"
  | "paused" => .ok "paused"
  | status => .error ("Unsupported Proxmox VM status: '" ++ status ++ "'")

def _desired_memory (vm : DiscoveredVirtualMachine) : Int := vm.memory_bytes / 1024 ^ 2

def _desired_disk (vm : DiscoveredVirtualMachine) : Int :=
  (vm.disks.map DiscoveredVirtualDisk.size_bytes).sum / 1024 ^ 2

def _desired_start_on_boot (vm : DiscoveredVirtualMachine) : String := if vm.autostart then "on" else "off"

def _identity (vm : DiscoveredVirtualMachine) : String := vm.source ++ ":" ++ vm_identity_source_id (.machine vm)

/-- `vm.original_name[:64]` -/
def netbox_vm_name (vm : DiscoveredVirtualMachine) : String := python.take vm.original_name 64

/-- `_description_fields`: the description and the comments, where there are any. -/
def _description_fields (vm : DiscoveredVirtualMachine) : Option (String × String) :=
  vm.description.map (fun text =>
    let comments := python.strip text
    let description := " ".intercalate (python.split comments)
    (if description.length > 200 then python.take description 199 ++ "…" else description, comments))

/-- The fields of an update that are in it. -/
structure Changes where
  description : Option String := none
  comments : Option String := none
  name : Option String := none
  cluster : Option Int := none
  status : Option String := none
  vcpus : Option Int := none
  memory : Option Int := none
  disk : Option Int := none
  start_on_boot : Option String := none
  custom_fields : Option Fields := none
deriving DecidableEq

inductive Reason where
  | duplicate_sync_identity
  | identity_outside_target_cluster
  | desired_name_conflict
  | duplicate_name_candidate
  | adopt_candidate
deriving DecidableEq, Repr

/-- What preflight makes of one VM. -/
inductive Context where
  | blocked (vm : DiscoveredVirtualMachine) (reason : Reason) (candidates : List MachineRecord)
  | create (vm : DiscoveredVirtualMachine) (desired_custom_fields : Fields)
  | «match» (vm : DiscoveredVirtualMachine) (existing : MachineRecord) (changes : Changes)

namespace Context

def vm : Context → DiscoveredVirtualMachine
  | blocked vm .. | create vm _ | «match» vm .. => vm

def existing : Context → Option MachineRecord
  | «match» _ existing _ => some existing
  | _ => none

def is_blocked : Context → Bool
  | blocked .. => true
  | _ => false

end Context

/-- A field that differs from what is wanted, unless it is protected. -/
def change {α : Type} [DecidableEq α] (protected_field : Bool) (value : Option α) (desired : α) : Option α :=
  if value = some desired || protected_field then none else some desired

section

variable (py : python.Runtime)

def _name_matches (existing_vms : List MachineRecord) (name : String) (tenant_id exclude_id : Option Int) :
    List MachineRecord :=
  existing_vms.filter (fun candidate =>
    some candidate.id ≠ exclude_id && py.casefold candidate.name = py.casefold name && candidate.tenant = tenant_id)

def find_vm_sync_identity_matches (candidates : List MachineRecord) (vm : DiscoveredVirtualMachine) :
    Except String (List MachineRecord) :=
  select_best_identity_matches candidates
    (fun candidate => vm_sync_identity_match_rank py.repr candidate.custom_fields vm)

/-- The wanted custom fields, and which of the managed ones differ. -/
def _managed_metadata (vm : DiscoveredVirtualMachine) (existing : Fields) : Except String (Fields × List String) :=
  match build_vm_custom_fields py vm existing with
  | .error error => .error ("Invalid managed VM metadata for " ++ _identity vm ++ ": " ++ error)
  | .ok desired => .ok (desired, MANAGED_VM_CUSTOM_FIELDS.filter (fun field =>
      !((dict.get existing field).getD .null).eq ((dict.get desired field).getD .null)))

def _vm_changes (existing : MachineRecord) (vm : DiscoveredVirtualMachine) (cluster : Cluster)
    (desired_custom_fields : Fields) (changed_custom_fields : List String) :
    Except String Changes := do
  let protected_fields := owned_fields existing.custom_fields
  let text (value : Option String) (desired : Option String) : Option String :=
    desired.filter (fun desired => value.getD "" ≠ desired)
  let status ← _desired_status vm
  return {
    description := text existing.description ((_description_fields vm).map Prod.fst)
    comments := text existing.comments ((_description_fields vm).map Prod.snd)
    name := change ("name" ∈ protected_fields) (some existing.name) (netbox_vm_name vm)
    cluster := change false existing.cluster cluster.id
    status := change ("status" ∈ protected_fields) existing.status status
    vcpus := change ("vcpus" ∈ protected_fields) existing.vcpus vm.vcpus
    memory := change ("memory" ∈ protected_fields) existing.memory (_desired_memory vm)
    disk := change false existing.disk (_desired_disk vm)
    start_on_boot := change false existing.start_on_boot (_desired_start_on_boot vm)
    custom_fields := if changed_custom_fields = [] then none else some desired_custom_fields }

def _preflight_vm (all_vms target_vms : List MachineRecord) (vm : DiscoveredVirtualMachine) (cluster : Cluster) :
    Except String Context := do
  match ← find_vm_sync_identity_matches py all_vms vm with
  | [] =>
    match _name_matches py target_vms (netbox_vm_name vm) none none with
    | [] =>
      let (desired, _) ← _managed_metadata py vm []
      return .create vm desired
    | [candidate] => return .blocked vm .adopt_candidate [candidate]
    | candidates => return .blocked vm .duplicate_name_candidate candidates
  | [existing] =>
    if existing.cluster ≠ some cluster.id then
      return .blocked vm .identity_outside_target_cluster [existing]
    match _name_matches py target_vms (netbox_vm_name vm) existing.tenant (some existing.id) with
    | [] =>
      let (desired, changed) ← _managed_metadata py vm existing.custom_fields
      return .match vm existing (← _vm_changes existing vm cluster desired changed)
    | conflicts => return .blocked vm .desired_name_conflict conflicts
  | candidates => return .blocked vm .duplicate_sync_identity candidates

/-- `_validate_discovered_vms` -/
def _validate_discovered_vms (discovered : List DiscoveredVirtualMachine) : Except String Unit := do
  let identities := network_preflight.repeated (discovered.map _identity)
  Except.require (identities.isEmpty)
    ("Duplicate discovered VM identities: " ++ ", ".intercalate (sorting.sorted id identities))
  let names := network_preflight.repeated (discovered.map (fun vm => py.casefold (netbox_vm_name vm)))
  Except.require (names.isEmpty)
    ("Duplicate discovered VM names in target cluster: " ++ ", ".intercalate (sorting.sorted id names))

/-- The order of ids. Those of one source are all numbers or all texts. -/
def id_order : ObjectId → Lex (Int ⊕ String)
  | .int n => toLex (.inl n)
  | .str s => toLex (.inr s)

/-- A VM with disk records of its own keeps the size they add up to. -/
def without_disk (disk_parents : List Int) : Context → Context
  | .match vm existing changes =>
    .match vm existing (if existing.id ∈ disk_parents then { changes with disk := none } else changes)
  | context => context

def discovered_vms (hosts : List DiscoveredHost) : List DiscoveredVirtualMachine :=
  hosts.flatMap DiscoveredHost.virtual_machines

def prepare_vm_contexts (netbox : Machines) (hosts : List DiscoveredHost) (cluster : Cluster) :
    Except String (List Context) := do
  let discovered := discovered_vms hosts
  _validate_discovered_vms py discovered
  let all_vms := netbox.vms.rows
  let target_vms := all_vms.filter (fun record => record.cluster = some cluster.id)
  let contexts ← (sorting.sorted (fun vm => toLex (vm.node_source_id, id_order vm.vmid)) discovered).mapM
    (fun vm => _preflight_vm py all_vms target_vms vm cluster)
  return contexts.map (without_disk netbox.disk_parents)

end

/-- `report_vm_precheck`, whose report asks for the status of every VM that is not blocked. -/
def report_vm_precheck (contexts : List Context) : Except String Unit := do
  let _ ← (contexts.filter (fun context => !context.is_blocked)).mapM (fun context => _desired_status context.vm)
  Except.require (contexts.all (fun context => !context.is_blocked)) "VM apply precheck failed"

/-- The record after `existing.update(changes)`. -/
def updated (changes : Changes) (record : MachineRecord) : MachineRecord :=
  { record with
    description := changes.description.or record.description
    comments := changes.comments.or record.comments
    name := changes.name.getD record.name
    cluster := changes.cluster.or record.cluster
    status := changes.status.or record.status
    vcpus := changes.vcpus.or record.vcpus
    memory := changes.memory.or record.memory
    disk := changes.disk.or record.disk
    start_on_boot := changes.start_on_boot.or record.start_on_boot
    custom_fields := changes.custom_fields.getD record.custom_fields }

theorem updated_id (changes : Changes) (record : MachineRecord) : Row.id (updated changes record) = Row.id record :=
  rfl

/-- `build_vm_create_fields`. NetBox gives the id. -/
def build_vm_create_fields (vm : DiscoveredVirtualMachine) (cluster : Cluster)
    (desired_custom_fields : Fields) : Except String MachineRecord := do
  let status ← _desired_status vm
  return {
    id := 0
    name := netbox_vm_name vm
    cluster := some cluster.id
    status := some status
    vcpus := some vm.vcpus
    memory := some (_desired_memory vm)
    disk := some (_desired_disk vm)
    start_on_boot := some (_desired_start_on_boot vm)
    custom_fields := desired_custom_fields
    description := (_description_fields vm).map Prod.fst
    comments := (_description_fields vm).map Prod.snd }

section

variable (fresh : Table.Fresh) (cluster : Cluster)

/-- One turn of `write_virtual_machines`. -/
def write_machine (netbox : Machines) : Context → Except String Machines
  | .create vm desired_custom_fields =>
    (build_vm_create_fields vm cluster desired_custom_fields).map (fun fields =>
      { netbox with
        vms := netbox.vms.insert { fields with id := fresh.next netbox.vms.ids } (fresh.notMem _) })
  | .match _ existing changes =>
    if changes = {} then .ok netbox
    else .ok { netbox with vms := netbox.vms.modify existing.id (updated changes) (updated_id changes) }
  | .blocked .. => .ok netbox

def write_virtual_machines (netbox : Machines) (contexts : List Context) : Except String Machines :=
  contexts.foldlM (write_machine fresh cluster) netbox

/-- `apply_virtual_machines`, once the target cluster is resolved. -/
def apply_virtual_machines (py : python.Runtime) (netbox : Machines) (hosts : List DiscoveredHost)
    (confirmed : Bool) : Except String Machines := do
  let contexts ← prepare_vm_contexts py netbox hosts cluster
  report_vm_precheck contexts
  if confirmed then write_virtual_machines fresh cluster netbox contexts else return netbox

end

end netbox_sync.netbox_vm_apply
