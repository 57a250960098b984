import NetboxSync.Network.Sides

namespace netbox_sync.network_inventory

open netbox network_preflight

/-- The key an IP address record is listed under, where it has one. -/
def ip_key (ip : IPAddress) : Option String :=
  match ip.address with
  | none => none
  | some address =>
    if address = "" then none
    else (ipaddress.ip_interface address).map (fun interface => scope_key interface.str ip.vrf)

/-- The interfaces of one VM. -/
def vm_interfaces (store : Store) (vm_id : Int) : List VMInterface :=
  store.interfaces.rows.filter (fun row => row.virtual_machine = some vm_id)

variable (py : python.Runtime)

/-- The key a MAC address record is listed under, where it has one. -/
def mac_key (mac : MACAddress) : Option String := (canonical_mac py mac.mac_address).filter (· ≠ "")

/-- The lookups of both sides; a list under a key keeps the order of the records. -/
def index_records (store : Store) (vms : List VirtualMachine) : NetworkInventory where
  vms := vms
  interfaces_by_vm id := vm_interfaces store id
  interfaces_by_id id := store.interfaces.get id
  macs_by_address mac := store.macs.rows.filter (fun row => mac_key py row = some mac)
  ips_by_address key := store.ips.rows.filter (fun row => ip_key row = some key)
  ips_by_id id := store.ips.get id

def prepare_vm_network_inventory (store : Store) (cluster : Cluster) : NetworkInventory :=
  index_records py store (store.vms.rows.filter (fun vm => vm.cluster = some cluster.id))

def prepare_lxc_network_inventory (store : Store) : NetworkInventory := index_records py store store.vms.rows

/-- The lookups of the guest's side. -/
def guest_inventory (store : Store) (cluster : Cluster) (guest : Guest) : NetworkInventory :=
  match guest with
  | .machine _ => prepare_vm_network_inventory py store cluster
  | .container _ => prepare_lxc_network_inventory py store

/-- The NetBox VM of a guest, as its side finds it. -/
def find_guest_vm (store : Store) (cluster : Cluster) (guest : Guest) : Except String VirtualMachine :=
  match guest with
  | .machine _ => vm_network_preflight.find_vm py (guest_inventory py store cluster guest).vms guest
  | .container _ => lxc_network_preflight.find_lxc_vm py (guest_inventory py store cluster guest).vms guest

def guest_side (guest : Guest) : Side :=
  match guest with
  | .machine _ => vm_network_preflight.side py
  | .container _ => lxc_network_preflight.side py

/-- Only the LXC side checks the cluster of the VM it found. -/
def in_cluster (cluster : Cluster) (guest : Guest) (netbox_vm : VirtualMachine) : Bool :=
  match guest with
  | .machine _ => true
  | .container _ => netbox_vm.cluster = some cluster.id

/-- The decision about the primary address, as the guest's side makes it. -/
def guest_primary (inventory : NetworkInventory) (guest : Guest) (netbox_vm : VirtualMachine)
    (ipv4 : List String) : Except String PrimaryContext :=
  match guest with
  | .machine _ => vm_network_preflight.prepare_vm_primary py guest netbox_vm ipv4 inventory
  | .container _ => .ok (lxc_network_preflight.lxc_primary netbox_vm ipv4)

/-- The preflight of one guest against the content of a NetBox. -/
def prepare_network_context (store : Store) (cluster : Cluster) (guest : Guest) : Except String GuestContext :=
  match guest with
  | .machine _ =>
    vm_network_preflight.prepare_vm_network_context py (prepare_vm_network_inventory py store cluster)
      guest
  | .container _ =>
    lxc_network_preflight.prepare_lxc_network_context py (prepare_lxc_network_inventory py store)
      cluster guest

/-- A preflight that succeeds found the guest's VM, prepared its NICs and decided about its primary address. -/
theorem prepare_network_context_eq_ok_iff {py : python.Runtime} {store : Store} {cluster : Cluster}
    {guest : Guest} {context : GuestContext} :
    prepare_network_context py store cluster guest = .ok context ↔
      find_guest_vm py store cluster guest = .ok context.netbox_vm ∧
      in_cluster cluster guest context.netbox_vm = true ∧ context.guest = guest ∧
      ∃ prepared, prepare_nics py (guest_side py guest) guest
          (vm_interfaces store context.netbox_vm.id) (guest_inventory py store cluster guest) = .ok prepared ∧
        context.nics = prepared.map Prod.fst ∧
        guest_primary py (guest_inventory py store cluster guest) guest context.netbox_vm
          (prepared.flatMap Prod.snd) = .ok context.primary := by
  cases guest with
  | machine vm =>
    simp only [prepare_network_context, vm_network_preflight.prepare_vm_network_context]
    constructor
    · intro h
      obtain ⟨netbox_vm, hvm, h⟩ := Except.bind_eq_ok_iff.mp h
      obtain ⟨prepared, hnics, h⟩ := Except.bind_eq_ok_iff.mp h
      obtain ⟨primary, hprimary, h⟩ := Except.bind_eq_ok_iff.mp h
      cases h
      exact ⟨hvm, rfl, rfl, prepared, hnics, rfl, hprimary⟩
    · rintro ⟨hvm, _, hguest, prepared, hnics, hcontext, hprimary⟩
      refine Except.bind_eq_ok_iff.mpr ⟨_, hvm, Except.bind_eq_ok_iff.mpr ⟨_, hnics,
        Except.bind_eq_ok_iff.mpr ⟨_, hprimary, ?_⟩⟩⟩
      rw [← hguest, ← hcontext]
  | container c =>
    simp only [prepare_network_context, lxc_network_preflight.prepare_lxc_network_context]
    constructor
    · intro h
      obtain ⟨netbox_vm, hvm, h⟩ := Except.bind_eq_ok_iff.mp h
      split at h
      · cases h
      · next hcluster =>
        obtain ⟨prepared, hnics, h⟩ := Except.bind_eq_ok_iff.mp h
        cases h
        exact ⟨hvm, by simpa [in_cluster] using hcluster, rfl, prepared, hnics, rfl, rfl⟩
    · rintro ⟨hvm, hcluster, hguest, prepared, hnics, hcontext, hprimary⟩
      refine Except.bind_eq_ok_iff.mpr ⟨_, hvm, ?_⟩
      rw [if_neg (by simpa [in_cluster] using hcluster)]
      refine Except.bind_eq_ok_iff.mpr ⟨_, hnics, ?_⟩
      rw [← hguest, ← hcontext, Except.ok.inj hprimary]

end netbox_sync.network_inventory
