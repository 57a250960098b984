import Mathlib.Data.List.Dedup
import NetboxSync.Discovery
import NetboxSync.Lib.Ip.Canonical
import NetboxSync.Lib.Json.RoundTrip

open ipaddress json sorting

namespace netbox_sync.inventory_order

open discovery

/-- `key(value)`: the identity of a member, then its whole content. -/
def key (identity : String) (asdict : Value) : String ×ₗ String := toLex (identity, dumps_sorted .compact asdict)

def disk_key (disk : DiscoveredDisk) : String ×ₗ String := key disk.path disk.asdict

def storage_key (storage : DiscoveredStorage) : String ×ₗ String := key storage.name storage.asdict

def host_interface_key (interface : DiscoveredHostInterface) : String ×ₗ String := key interface.name interface.asdict

def virtual_disk_key (disk : DiscoveredVirtualDisk) : String ×ₗ String :=
  key (disk.external_id.getD disk.name) disk.asdict

def interface_key (interface : DiscoveredInterface) : String ×ₗ String :=
  key (interface.external_id.getD interface.name) interface.asdict

def virtual_machine_key (vm : DiscoveredVirtualMachine) : String ×ₗ String := key vm.source_id vm.asdict

def container_key (container : DiscoveredContainer) : String ×ₗ String := key container.source_id container.asdict

def host_key (host : DiscoveredHost) : String ×ₗ String := key host.source_id host.asdict

theorem key_injective {α : Type} {asdict : α → Value} (h : Faithful asdict) (identity : α → String) :
    Function.Injective (fun a => key (identity a) (asdict a)) :=
  fun _ _ hkey => h ((dumps_sorted_inj _).mp (Prod.ext_iff.mp (toLex.injective hkey)).2)

theorem disk_key_injective : Function.Injective disk_key :=
  key_injective DiscoveredDisk.faithful (fun disk => disk.path)

theorem storage_key_injective : Function.Injective storage_key :=
  key_injective DiscoveredStorage.faithful (fun storage => storage.name)

theorem host_interface_key_injective : Function.Injective host_interface_key :=
  key_injective DiscoveredHostInterface.faithful (fun interface => interface.name)

theorem virtual_disk_key_injective : Function.Injective virtual_disk_key :=
  key_injective DiscoveredVirtualDisk.faithful (fun disk => disk.external_id.getD disk.name)

theorem interface_key_injective : Function.Injective interface_key :=
  key_injective DiscoveredInterface.faithful (fun interface => interface.external_id.getD interface.name)

theorem virtual_machine_key_injective : Function.Injective virtual_machine_key :=
  key_injective DiscoveredVirtualMachine.faithful (fun vm => vm.source_id)

theorem container_key_injective : Function.Injective container_key :=
  key_injective DiscoveredContainer.faithful (fun container => container.source_id)

theorem host_key_injective : Function.Injective host_key :=
  key_injective DiscoveredHost.faithful (fun host => host.source_id)

/-- `str(ip_interface(address))`, or the text itself where it is no address. -/
def canonical_address (address : String) : String :=
  match ip_interface address with
  | some interface => interface.str
  | none => address

theorem canonical_address_idempotent (address : String) :
    canonical_address (canonical_address address) = canonical_address address := by
  cases h : ip_interface address with
  | none => simp [canonical_address, h]
  | some interface => simp [canonical_address, h, ip_interface_str h]

def normalize_interface (interface : DiscoveredInterface) : DiscoveredInterface :=
  { interface with
    ip_addresses := sorted id (interface.ip_addresses.map canonical_address).dedup }

def normalize_host_interface (interface : DiscoveredHostInterface) : DiscoveredHostInterface :=
  { interface with
    addresses := sorted id interface.addresses
    bridge_ports := sorted id interface.bridge_ports }

def normalize_virtual_machine (vm : DiscoveredVirtualMachine) : DiscoveredVirtualMachine :=
  { vm with
    interfaces := sorted interface_key (vm.interfaces.map normalize_interface)
    disks := sorted virtual_disk_key vm.disks }

def normalize_container (container : DiscoveredContainer) : DiscoveredContainer :=
  { container with
    interfaces := sorted interface_key (container.interfaces.map normalize_interface)
    disks := sorted virtual_disk_key container.disks }

def normalize_host (host : DiscoveredHost) : DiscoveredHost :=
  { host with
    interfaces := sorted host_interface_key (host.interfaces.map normalize_host_interface)
    virtual_machines := sorted virtual_machine_key (host.virtual_machines.map normalize_virtual_machine)
    containers := sorted container_key (host.containers.map normalize_container)
    disks := sorted disk_key host.disks
    storages := sorted storage_key host.storages }

/-- The host objects in memory, and a list that refers to some of them. -/
structure Inventory where
  memory : List DiscoveredHost
  refs : List Nat
  valid : ∀ ref ∈ refs, ref < memory.length

def Inventory.hosts (inv : Inventory) : List DiscoveredHost := inv.refs.map (fun ref => inv.memory.getD ref default)

/-- `deepcopy(list(hosts))`: the same hosts as new objects. -/
def Inventory.deepcopy (inv : Inventory) : Inventory where
  memory := inv.memory ++ inv.hosts
  refs := List.range' inv.memory.length inv.hosts.length
  valid := by
    intro ref href
    rw [List.mem_range'_1] at href
    simpa using href.2

/-- `for host in result: normalize(host)`: every list is changed in place. -/
def normalize_all (refs : List Nat) (memory : List DiscoveredHost) : List DiscoveredHost :=
  refs.foldl (fun memory ref => memory.modify ref normalize_host) memory

theorem length_normalize_all (refs : List Nat) (memory : List DiscoveredHost) :
    (normalize_all refs memory).length = memory.length := by
  induction refs generalizing memory with
  | nil => rfl
  | cons ref refs ih => exact (ih _).trans (List.length_modify ..)

def canonical_hosts (inv : Inventory) : Inventory where
  memory := normalize_all inv.deepcopy.refs inv.deepcopy.memory
  refs := sorted
    (fun ref => host_key ((normalize_all inv.deepcopy.refs inv.deepcopy.memory).getD ref default))
    inv.deepcopy.refs
  valid := by
    intro ref href
    rw [length_normalize_all]
    exact inv.deepcopy.valid ref (mem_sorted.mp href)

structure ReorderedHostInterface (a b : DiscoveredHostInterface) : Prop where
  others : { a with addresses := [], bridge_ports := [] } = { b with addresses := [], bridge_ports := [] }
  addresses : a.addresses.Perm b.addresses
  bridge_ports : a.bridge_ports.Perm b.bridge_ports

/-- The same interface up to the order, the repetition and the spelling of its IP addresses. -/
structure ReorderedInterface (a b : DiscoveredInterface) : Prop where
  others : { a with ip_addresses := [] } = { b with ip_addresses := [] }
  ip_addresses : ∀ address, address ∈ a.ip_addresses.map canonical_address ↔
    address ∈ b.ip_addresses.map canonical_address

structure ReorderedVirtualMachine (a b : DiscoveredVirtualMachine) : Prop where
  others : { a with disks := [], interfaces := [] } = { b with disks := [], interfaces := [] }
  disks : a.disks.Perm b.disks
  interfaces : Permuted ReorderedInterface a.interfaces b.interfaces

structure ReorderedContainer (a b : DiscoveredContainer) : Prop where
  others : { a with disks := [], interfaces := [] } = { b with disks := [], interfaces := [] }
  disks : a.disks.Perm b.disks
  interfaces : Permuted ReorderedInterface a.interfaces b.interfaces

/-- The same host up to the order of every list below it. -/
structure ReorderedHost (a b : DiscoveredHost) : Prop where
  others :
    { a with disks := [], storages := [], interfaces := [], virtual_machines := [], containers := [] } =
      { b with disks := [], storages := [], interfaces := [], virtual_machines := [], containers := [] }
  disks : a.disks.Perm b.disks
  storages : a.storages.Perm b.storages
  interfaces : Permuted ReorderedHostInterface a.interfaces b.interfaces
  virtual_machines : Permuted ReorderedVirtualMachine a.virtual_machines b.virtual_machines
  containers : Permuted ReorderedContainer a.containers b.containers

theorem normalize_host_interface_eq {a b : DiscoveredHostInterface} (h : ReorderedHostInterface a b) :
    normalize_host_interface a = normalize_host_interface b := by
  have haddresses := sorted_eq_of_perm_of_injective Function.injective_id h.addresses
  have hports := sorted_eq_of_perm_of_injective Function.injective_id h.bridge_ports
  have hothers := h.others
  cases a
  cases b
  simp only [DiscoveredHostInterface.mk.injEq] at hothers
  simp only [normalize_host_interface, haddresses, hports, hothers]

theorem normalize_interface_eq {a b : DiscoveredInterface} (h : ReorderedInterface a b) :
    normalize_interface a = normalize_interface b := by
  have hothers := h.others
  have hperm := (List.perm_ext_iff_of_nodup
    (List.nodup_dedup (a.ip_addresses.map canonical_address))
    (List.nodup_dedup (b.ip_addresses.map canonical_address))).mpr
      (by simpa only [List.mem_dedup] using h.ip_addresses)
  have hsorted := sorted_eq_of_perm_of_injective Function.injective_id hperm
  cases a
  cases b
  simp only [DiscoveredInterface.mk.injEq] at hothers
  simp only [normalize_interface, hsorted, hothers]

theorem normalize_virtual_machine_eq {a b : DiscoveredVirtualMachine} (h : ReorderedVirtualMachine a b) :
    normalize_virtual_machine a = normalize_virtual_machine b := by
  have hdisks := sorted_eq_of_perm_of_injective virtual_disk_key_injective h.disks
  have hinterfaces := sorted_map_eq_of_permuted interface_key_injective h.interfaces normalize_interface_eq
  have hothers := h.others
  cases a
  cases b
  simp only [DiscoveredVirtualMachine.mk.injEq] at hothers
  simp only [normalize_virtual_machine, hdisks, hinterfaces, hothers]

theorem normalize_container_eq {a b : DiscoveredContainer} (h : ReorderedContainer a b) :
    normalize_container a = normalize_container b := by
  have hdisks := sorted_eq_of_perm_of_injective virtual_disk_key_injective h.disks
  have hinterfaces := sorted_map_eq_of_permuted interface_key_injective h.interfaces normalize_interface_eq
  have hothers := h.others
  cases a
  cases b
  simp only [DiscoveredContainer.mk.injEq] at hothers
  simp only [normalize_container, hdisks, hinterfaces, hothers]

/-- Hosts that differ only in the order of their lists normalize to one host. -/
theorem normalize_host_eq {a b : DiscoveredHost} (h : ReorderedHost a b) : normalize_host a = normalize_host b := by
  have hdisks := sorted_eq_of_perm_of_injective disk_key_injective h.disks
  have hstorages := sorted_eq_of_perm_of_injective storage_key_injective h.storages
  have hinterfaces := sorted_map_eq_of_permuted host_interface_key_injective h.interfaces normalize_host_interface_eq
  have hvms := sorted_map_eq_of_permuted virtual_machine_key_injective h.virtual_machines
    normalize_virtual_machine_eq
  have hcontainers := sorted_map_eq_of_permuted container_key_injective h.containers normalize_container_eq
  have hothers := h.others
  cases a
  cases b
  simp only [DiscoveredHost.mk.injEq] at hothers
  simp only [normalize_host, hdisks, hstorages, hinterfaces, hvms, hcontainers, hothers]

theorem reordered_normalize_host_interface (a : DiscoveredHostInterface) :
    ReorderedHostInterface a (normalize_host_interface a) where
  others := rfl
  addresses := (sorted_perm id _).symm
  bridge_ports := (sorted_perm id _).symm

theorem reordered_normalize_interface (a : DiscoveredInterface) : ReorderedInterface a (normalize_interface a) where
  others := rfl
  ip_addresses := by
    intro address
    simp only [normalize_interface, List.mem_map, mem_sorted, List.mem_dedup]
    constructor
    · rintro ⟨raw, hraw, rfl⟩
      exact ⟨_, ⟨raw, hraw, rfl⟩, canonical_address_idempotent raw⟩
    · rintro ⟨_, ⟨raw, hraw, rfl⟩, rfl⟩
      exact ⟨raw, hraw, (canonical_address_idempotent raw).symm⟩

theorem reordered_normalize_virtual_machine (a : DiscoveredVirtualMachine) :
    ReorderedVirtualMachine a (normalize_virtual_machine a) where
  others := rfl
  disks := (sorted_perm _ _).symm
  interfaces := permuted_sorted_map _ (reordered_normalize_interface) _

theorem reordered_normalize_container (a : DiscoveredContainer) : ReorderedContainer a (normalize_container a) where
  others := rfl
  disks := (sorted_perm _ _).symm
  interfaces := permuted_sorted_map _ (reordered_normalize_interface) _

/-- Normalizing a host only reorders its lists and respells its addresses. -/
theorem reordered_normalize_host (a : DiscoveredHost) : ReorderedHost a (normalize_host a) where
  others := rfl
  disks := (sorted_perm _ _).symm
  storages := (sorted_perm _ _).symm
  interfaces := permuted_sorted_map _ reordered_normalize_host_interface _
  virtual_machines := permuted_sorted_map _ (reordered_normalize_virtual_machine) _
  containers := permuted_sorted_map _ (reordered_normalize_container) _

/-- Changing the copies in place leaves everything before them as it was. -/
theorem normalize_all_append (older hosts : List DiscoveredHost) :
    normalize_all (List.range' older.length hosts.length) (older ++ hosts) = older ++ hosts.map normalize_host := by
  induction hosts generalizing older with
  | nil => rfl
  | cons host hosts ih =>
    have hmodify : (older ++ host :: hosts).modify older.length normalize_host =
        (older ++ [normalize_host host]) ++ hosts := by
      simp [List.modify_eq_take_cons_drop]
    have htail := ih (older ++ [normalize_host host])
    rw [List.length_append, List.length_singleton] at htail
    rw [List.length_cons, List.range'_succ, normalize_all, List.foldl_cons, hmodify]
    simpa [normalize_all] using htail

theorem canonical_hosts_memory (inv : Inventory) :
    (canonical_hosts inv).memory = inv.memory ++ inv.hosts.map normalize_host :=
  normalize_all_append inv.memory inv.hosts

/-- Reading the result back gives the normalized hosts in key order. -/
theorem canonical_hosts_hosts (inv : Inventory) :
    (canonical_hosts inv).hosts = sorted host_key (inv.hosts.map normalize_host) := by
  have hread : (List.range' inv.memory.length inv.hosts.length).map
      (fun ref => (canonical_hosts inv).memory.getD ref default) = inv.hosts.map normalize_host := by
    rw [canonical_hosts_memory]
    refine List.ext_getElem (by simp) (fun i hi _ => ?_)
    simp at hi
    simp [List.getD_eq_getElem?_getD, hi]
  rw [← hread, sorted_map _ host_key _ (fun _ => rfl)]
  rfl

end netbox_sync.inventory_order
