import NetboxSync.Network.Preflight

open json

namespace netbox_sync.vm_network_preflight

open discovery netbox netbox_vm_interface_metadata interface_display network_preflight

variable (py : python.Runtime)

def interface_match (existing_interfaces : List VMInterface) (vm : Guest) (nic : DiscoveredInterface) :
    Except String (Option VMInterface) :=
  identity_owner py ("Duplicate NIC identity " ++ vm.source ++ ":" ++ nic_identity_source_id vm nic)
    ("NIC adoption candidate exists without sync identity: vm=" ++ py.repr (.str vm.original_name) ++
      " nic=" ++ py.repr (.str (interface_display_name py vm nic)))
    existing_interfaces vm nic

def check_vm_mac (existing : Option VMInterface) (_vm : Guest) (nic : DiscoveredInterface)
    (macs_by_address : String → List MACAddress) : Except String (Option MACAddress) :=
  check_mac py (fun mac _ => "MAC " ++ mac ++ " already assigned to another interface") existing nic
    macs_by_address

def side : Side where
  owner := interface_match py
  check_mac := check_vm_mac py
  duplicate_names vm duplicates :=
    "Duplicate discovered NIC names on " ++ vm.original_name ++ ": " ++ ",".intercalate duplicates

/-- `_find_vm` -/
def find_vm (target_vms : List VirtualMachine) (vm : Guest) : Except String VirtualMachine := do
  match ← find_guest_matches py.repr target_vms vm with
  | [netbox_vm] => .ok netbox_vm
  | found => .error ("Expected exactly one NetBox VM for " ++ vm.source_id ++ "; found " ++
      toString found.length)

def primary_ip_belongs_to_vm (ip_record : Option IPAddress)
    (interfaces_by_id : Int → Option VMInterface) (vm_id : Int) : Bool :=
  match ip_record with
  | none => false
  | some ip_record =>
    if ip_record.assigned_object.type ≠ some VMINTERFACE then false
    else
      match ip_record.assigned_object.id.bind interfaces_by_id with
      | none => false
      | some interface => interface.virtual_machine = some vm_id

/-- `candidate_records[0].id if len(candidate_records) == 1 else None` -/
def sole_id : List IPAddress → Option Int
  | [record] => some record.id
  | _ => none

/-- The decision about the primary address once there is one candidate. -/
def candidate_primary (vm : Guest) (netbox_vm : VirtualMachine) (candidate : String)
    (inventory : NetworkInventory) : Except String PrimaryContext :=
  match netbox_vm.primary_ip4 with
  | none => .ok { candidate := some candidate, action := some .set }
  | some current_primary =>
    if some current_primary = sole_id (inventory.ips_by_address candidate) then
      .ok { candidate := some candidate, action := some .match }
    else
      let current_record := inventory.ips_by_id current_primary
      let current_address := current_record.bind IPAddress.address
      if primary_ip_belongs_to_vm current_record inventory.interfaces_by_id netbox_vm.id then
        .ok { candidate := some candidate, action := some .preserve_manual, current := current_address }
      else
        .error ("Existing primary IPv4 conflicts on " ++ vm.original_name ++ ": current=" ++
          py.repr (optional .str current_address) ++ " discovered=" ++ py.repr (.str candidate))

def prepare_vm_primary (vm : Guest) (netbox_vm : VirtualMachine) (vm_ipv4 : List String)
    (inventory : NetworkInventory) : Except String PrimaryContext :=
  if selectel_authority.primary_owned netbox_vm.custom_fields then
    .ok { action := some .preserve_provider }
  else
    match vm_ipv4.eraseDups with
    | [candidate] => candidate_primary py vm netbox_vm candidate inventory
    | _ => .ok {}

def prepare_vm_network_context (inventory : NetworkInventory) (vm : Guest) : Except String GuestContext := do
  let netbox_vm ← find_vm py inventory.vms vm
  let prepared ← prepare_nics py (side py) vm (inventory.interfaces_by_vm netbox_vm.id) inventory
  let primary ← prepare_vm_primary py vm netbox_vm (prepared.flatMap Prod.snd) inventory
  .ok ⟨vm, netbox_vm, prepared.map Prod.fst, primary⟩

def prepare_vm_network_contexts (hosts : List DiscoveredHost) (inventory : NetworkInventory) :
    Except String (List GuestContext) := do
  let guests := (hosts.flatMap DiscoveredHost.virtual_machines).map Guest.machine
  let contexts ← guests.mapM (prepare_vm_network_context py inventory)
  check_batch (discovered_macs py guests) (discovered_ips guests)
  .ok contexts

end netbox_sync.vm_network_preflight

namespace netbox_sync.lxc_network_preflight

open discovery netbox netbox_vm_interface_metadata interface_display network_preflight

variable (py : python.Runtime)

def find_interface (interfaces : List VMInterface) (container : Guest) (nic : DiscoveredInterface) :
    Except String (Option VMInterface) :=
  let place := container.original_name ++ ":" ++ interface_display_name py container nic
  identity_owner py ("Duplicate interface identity on " ++ place)
    ("LXC NIC adoption candidate exists without identity: " ++ place) interfaces container nic

/-- `_check_lxc_mac` also refuses an interface whose primary MAC is another one. -/
def check_lxc_mac (interface : Option VMInterface) (container : Guest) (nic : DiscoveredInterface)
    (macs_by_address : String → List MACAddress) : Except String (Option MACAddress) := do
  let existing_mac ← check_mac py
    (fun mac assigned => "MAC " ++ mac ++ " already assigned to " ++ assigned_text assigned)
    interface nic macs_by_address
  let current_primary_mac := interface.bind VMInterface.primary_mac_address
  if (mac_of py nic).isSome && current_primary_mac.isSome &&
      current_primary_mac ≠ existing_mac.map MACAddress.id then
    .error ("Primary MAC conflict on " ++ container.original_name ++ ":" ++
      interface_display_name py container nic)
  .ok existing_mac

def side : Side where
  owner := find_interface py
  check_mac := check_lxc_mac py
  duplicate_names _ duplicates :=
    "Duplicate discovered LXC NIC names: " ++ ",".intercalate (sorting.sorted id duplicates)

/-- `_find_lxc_vm` -/
def find_lxc_vm (all_vms : List VirtualMachine) (container : Guest) : Except String VirtualMachine := do
  match ← find_guest_matches py.repr all_vms container with
  | [netbox_vm] => .ok netbox_vm
  | found => .error ("Expected exactly one NetBox LXC object for " ++ container.source_id ++
      "; found " ++ toString found.length)

/-- The sole IPv4 candidate, unless the provider owns the primary address. -/
def lxc_primary (netbox_vm : VirtualMachine) (ipv4_candidates : List String) : PrimaryContext :=
  if selectel_authority.primary_owned netbox_vm.custom_fields then
    { action := some .preserve_provider }
  else
    match ipv4_candidates.eraseDups with
    | [candidate] => { candidate := some candidate }
    | _ => {}

def prepare_lxc_network_context (inventory : NetworkInventory) (cluster : Cluster) (container : Guest) :
    Except String GuestContext := do
  let netbox_vm ← find_lxc_vm py inventory.vms container
  if netbox_vm.cluster ≠ some cluster.id then
    .error ("LXC " ++ container.source_id ++ " is outside target cluster")
  let prepared ← prepare_nics py (side py) container (inventory.interfaces_by_vm netbox_vm.id) inventory
  .ok ⟨container, netbox_vm, prepared.map Prod.fst, lxc_primary netbox_vm (prepared.flatMap Prod.snd)⟩

def prepare_lxc_network_contexts (hosts : List DiscoveredHost) (inventory : NetworkInventory)
    (cluster : Cluster) : Except String (List GuestContext) := do
  let guests := (hosts.flatMap DiscoveredHost.containers).map Guest.container
  let contexts ← guests.mapM (prepare_lxc_network_context py inventory cluster)
  check_batch (discovered_macs py guests) (discovered_ips guests)
  .ok contexts

end netbox_sync.lxc_network_preflight
