import NetboxSync.Network.Inventory

open json

namespace netbox_sync.network_writes

open discovery netbox interface_display network_preflight

/-- One write request to NetBox. -/
inductive Call where
  | create_interface (row : VMInterface)
  | update_interface (id : Int) (changes : InterfaceChanges)
  | set_primary_mac (id mac_id : Int)
  | create_mac (row : MACAddress)
  | assign_mac (id interface_id : Int)
  | create_ip (row : IPAddress)
  | assign_ip (id interface_id : Int)
  | set_primary_ip4 (vm_id ip_id : Int)
deriving DecidableEq

/-- The content of NetBox, and the write requests made so far. -/
structure Session where
  store : Store
  calls : List Call := []

/-- The interface after `interface.update(changes)`. -/
def changed (changes : InterfaceChanges) (row : VMInterface) : VMInterface :=
  { row with
    name := changes.name.getD row.name
    enabled := changes.enabled.getD row.enabled
    custom_fields := changes.custom_fields.getD row.custom_fields }

/-- The owner a MAC or IP address record gets. -/
def owned_by (interface_id : Int) : Assigned := ⟨some VMINTERFACE, some interface_id⟩

namespace Session

variable (fresh : Table.Fresh)

def create_interface (s : Session) (virtual_machine : Int) (name : String) (custom_fields : Fields) : Session × Int :=
  let row : VMInterface :=
    { id := fresh.next s.store.interfaces.ids, name := name, virtual_machine := some virtual_machine,
      enabled := true, custom_fields := custom_fields }
  let interfaces := s.store.interfaces.insert row (fresh.notMem _)
  (⟨{ s.store with interfaces := interfaces }, s.calls ++ [.create_interface row]⟩, row.id)

def update_interface (s : Session) (id : Int) (changes : InterfaceChanges) : Session :=
  let interfaces := s.store.interfaces.modify id (changed changes) (fun _ => rfl)
  ⟨{ s.store with interfaces := interfaces }, s.calls ++ [.update_interface id changes]⟩

def set_primary_mac (s : Session) (id mac_id : Int) : Session :=
  let interfaces := s.store.interfaces.modify id
    (fun row => { row with primary_mac_address := some mac_id }) (fun _ => rfl)
  ⟨{ s.store with interfaces := interfaces }, s.calls ++ [.set_primary_mac id mac_id]⟩

def create_mac (s : Session) (mac_address : String) (interface_id : Int) : Session × Int :=
  let row : MACAddress :=
    { id := fresh.next s.store.macs.ids, mac_address := some mac_address, assigned_object := owned_by interface_id }
  let macs := s.store.macs.insert row (fresh.notMem _)
  (⟨{ s.store with macs := macs }, s.calls ++ [.create_mac row]⟩, row.id)

def assign_mac (s : Session) (id interface_id : Int) : Session :=
  let macs := s.store.macs.modify id (fun row => { row with assigned_object := owned_by interface_id }) (fun _ => rfl)
  ⟨{ s.store with macs := macs }, s.calls ++ [.assign_mac id interface_id]⟩

def create_ip (s : Session) (address : String) (vrf : Option Int) (interface_id : Int) : Session × Int :=
  let row : IPAddress :=
    { id := fresh.next s.store.ips.ids, address := some address, vrf := vrf, status := "active",
      assigned_object := owned_by interface_id }
  let ips := s.store.ips.insert row (fresh.notMem _)
  (⟨{ s.store with ips := ips }, s.calls ++ [.create_ip row]⟩, row.id)

def assign_ip (s : Session) (id interface_id : Int) : Session :=
  let ips := s.store.ips.modify id (fun row => { row with assigned_object := owned_by interface_id }) (fun _ => rfl)
  ⟨{ s.store with ips := ips }, s.calls ++ [.assign_ip id interface_id]⟩

def set_primary_ip4 (s : Session) (vm_id ip_id : Int) : Session :=
  let vms := s.store.vms.modify vm_id (fun row => { row with primary_ip4 := some ip_id }) (fun _ => rfl)
  ⟨{ s.store with vms := vms }, s.calls ++ [.set_primary_ip4 vm_id ip_id]⟩

end Session

section

variable (py : python.Runtime) (fresh : Table.Fresh)

/-- `_write_interface`: the id is that of the interface the NIC now has. -/
def write_interface (s : Session) (guest : Guest) (netbox_vm : VirtualMachine) (context : NicContext) : Session × Int :=
  match context.existing with
  | none =>
    s.create_interface fresh netbox_vm.id (interface_display_name py guest context.source)
      context.desired_custom_fields
  | some interface =>
    if context.changes = {} then (s, interface.id)
    else (s.update_interface interface.id context.changes, interface.id)

/-- The MAC record of the NIC, created or assigned where it has to be. The record is read when it is written, not as
    preflight saw it. -/
def place_mac (s : Session) (context : NicContext) (interface_id : Int) (mac_value : String) : Session × Int :=
  match context.existing_mac with
  | none => s.create_mac fresh mac_value interface_id
  | some mac =>
    if (s.store.macs.get mac.id).any (fun row => row.assigned_object = {}) then
      (s.assign_mac mac.id interface_id, mac.id)
    else (s, mac.id)

/-- `_write_mac` -/
def write_mac (s : Session) (context : NicContext) (interface_id : Int) : Session :=
  match context.mac_value.filter (· ≠ "") with
  | none => s
  | some mac_value =>
    let (s, mac_id) := place_mac fresh s context interface_id mac_value
    if (s.store.interfaces.get interface_id).bind VMInterface.primary_mac_address ≠ some mac_id then
      s.set_primary_mac interface_id mac_id
    else s

/-- `_write_ip` -/
def write_ip (s : Session) (context : IpContext) (interface_id : Int) : Session × Int :=
  match context.existing with
  | none => s.create_ip fresh context.address context.vrf_id interface_id
  | some ip =>
    if (s.store.ips.get ip.id).any (fun row => row.assigned_object = {}) then
      (s.assign_ip ip.id interface_id, ip.id)
    else (s, ip.id)

/-- The addresses of one NIC, and `applied_ips` after them. -/
def write_ips (interface_id : Int) : Session → List (String × Int) → List IpContext → Session × List (String × Int)
  | s, applied, [] => (s, applied)
  | s, applied, context :: contexts =>
    let (s, ip_id) := write_ip fresh s context interface_id
    write_ips interface_id s (dict.set applied context.key ip_id) contexts

/-- One round of the NIC loop. -/
def write_nic (guest : Guest) (netbox_vm : VirtualMachine) (s : Session) (applied : List (String × Int))
    (context : NicContext) : Session × List (String × Int) :=
  let (s, interface_id) := write_interface py fresh s guest netbox_vm context
  let s := write_mac fresh s context interface_id
  write_ips fresh interface_id s applied context.ips

def write_nics (guest : Guest) (netbox_vm : VirtualMachine) :
    Session → List (String × Int) → List NicContext → Session × List (String × Int)
  | s, applied, [] => (s, applied)
  | s, applied, context :: contexts =>
    let (s, applied) := write_nic py fresh guest netbox_vm s applied context
    write_nics guest netbox_vm s applied contexts

/-- `_write_primary`. A container's context has no `preserve_manual`, so that one definition serves both sides. -/
def write_primary (s : Session) (netbox_vm : VirtualMachine) (primary : PrimaryContext)
    (applied : List (String × Int)) : Session :=
  if selectel_authority.primary_owned netbox_vm.custom_fields then s
  else
    match primary.candidate.bind (dict.get applied) with
    | none => s
    | some ip_id =>
      if primary.action = some .preserve_manual then s
      else if (s.store.vms.get netbox_vm.id).bind VirtualMachine.primary_ip4 ≠ some ip_id then
        s.set_primary_ip4 netbox_vm.id ip_id
      else s

/-- One guest of the loop of `write_vm_networks` and `write_lxc_networks`. -/
def write_guest (s : Session) (context : GuestContext) : Session :=
  let (s, applied) := write_nics py fresh context.guest context.netbox_vm s [] context.nics
  write_primary s context.netbox_vm context.primary applied

def write_networks (s : Session) (contexts : List GuestContext) : Session := contexts.foldl (write_guest py fresh) s

end

/-- The target of the source: its site, and its cluster by id where the onboarding review chose one, else by name. -/
structure Target where
  site_slug : String
  cluster_name : String
  cluster_id : Option Int := none

/-- `clusters.filter(**cluster_filter(config))`, in the scope of the site. -/
def target_clusters (store : Store) (target : Target) (site : Site) : List Cluster :=
  store.clusters.rows.filter (fun cluster =>
    (match target.cluster_id with
      | some id => cluster.id = id
      | none => cluster.name = target.cluster_name) &&
    cluster.scope_type = some "dcim.site" && cluster.scope_id = some site.id)

def target_cluster (store : Store) (target : Target) : Except String Cluster :=
  match store.sites.rows.find? (fun site => site.slug = target.site_slug) with
  | none => .error "Target site not found"
  | some site =>
    match target_clusters store target site with
    | [cluster] => .ok cluster
    | _ => .error "Expected exactly one target cluster"

variable (py : python.Runtime) (fresh : Table.Fresh)

def apply_vm_networks (target : Target) (hosts : List DiscoveredHost) (confirmed : Bool)
    (s : Session) : Except String Session := do
  let cluster ← target_cluster s.store target
  let inventory := network_inventory.prepare_vm_network_inventory py s.store cluster
  let contexts ← vm_network_preflight.prepare_vm_network_contexts py hosts inventory
  if confirmed then .ok (write_networks py fresh s contexts) else .ok s

def apply_lxc_networks (target : Target) (hosts : List DiscoveredHost) (confirmed : Bool)
    (s : Session) : Except String Session := do
  let cluster ← target_cluster s.store target
  let inventory := network_inventory.prepare_lxc_network_inventory py s.store
  let contexts ← lxc_network_preflight.prepare_lxc_network_contexts py hosts inventory cluster
  if confirmed then .ok (write_networks py fresh s contexts) else .ok s

end netbox_sync.network_writes
