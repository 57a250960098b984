import NetboxSync.Lib.Json.Encode

open json

namespace netbox_sync.discovery

structure DiscoveredDisk where
  path : String
  model : Option String
  serial : Option String
  size_bytes : Int
  disk_type : Option String
  health : Option String
deriving DecidableEq

def DiscoveredDisk.asdict (disk : DiscoveredDisk) : Value :=
  .obj [("path", .str disk.path), ("model", optional .str disk.model),
    ("serial", optional .str disk.serial), ("size_bytes", .int disk.size_bytes),
    ("disk_type", optional .str disk.disk_type), ("health", optional .str disk.health)]

structure DiscoveredStorage where
  name : String
  storage_type : Option String
  content : Option String
  total_bytes : Int
  used_bytes : Int
  available_bytes : Int
  active : Bool
deriving DecidableEq

def DiscoveredStorage.asdict (storage : DiscoveredStorage) : Value :=
  .obj [("name", .str storage.name), ("storage_type", optional .str storage.storage_type),
    ("content", optional .str storage.content), ("total_bytes", .int storage.total_bytes),
    ("used_bytes", .int storage.used_bytes), ("available_bytes", .int storage.available_bytes),
    ("active", .bool storage.active)]

structure DiscoveredCPU where
  model : Option String
  vendor : Option String
  sockets : Int
  cores : Int
  logical_cpus : Int
deriving DecidableEq, Inhabited

def DiscoveredCPU.asdict (cpu : DiscoveredCPU) : Value :=
  .obj [("model", optional .str cpu.model), ("vendor", optional .str cpu.vendor),
    ("sockets", .int cpu.sockets), ("cores", .int cpu.cores), ("logical_cpus", .int cpu.logical_cpus)]

structure DiscoveredHostInterface where
  name : String
  interface_type : Option String := none
  active : Bool := false
  autostart : Bool := false
  method : Option String := none
  addresses : List String := []
  gateway : Option String := none
  bridge_ports : List String := []
  vlan_id : Option Int := none
  vlan_aware : Bool := false
  comments : Option String := none
  mac_address : Option String := none
  management : Bool := false
deriving DecidableEq

def DiscoveredHostInterface.asdict (interface : DiscoveredHostInterface) : Value :=
  .obj [("name", .str interface.name), ("interface_type", optional .str interface.interface_type),
    ("active", .bool interface.active), ("autostart", .bool interface.autostart),
    ("method", optional .str interface.method), ("addresses", .arr (interface.addresses.map .str)),
    ("gateway", optional .str interface.gateway),
    ("bridge_ports", .arr (interface.bridge_ports.map .str)),
    ("vlan_id", optional .int interface.vlan_id), ("vlan_aware", .bool interface.vlan_aware),
    ("comments", optional .str interface.comments),
    ("mac_address", optional .str interface.mac_address), ("management", .bool interface.management)]

structure DiscoveredVirtualDisk where
  name : String
  storage : Option String
  size_bytes : Int
  external_id : Option String := none
deriving DecidableEq

def DiscoveredVirtualDisk.asdict (disk : DiscoveredVirtualDisk) : Value :=
  .obj [("name", .str disk.name), ("storage", optional .str disk.storage),
    ("size_bytes", .int disk.size_bytes), ("external_id", optional .str disk.external_id)]

structure DiscoveredInterface where
  name : String
  mac_address : Option String
  bridge : Option String
  vlan_id : Option Int
  ip_addresses : List String := []
  external_id : Option String := none
  network_observations : Option Doc := none
  ip_vrf_id : Option Int := none
  ip_scope_conflicts : List Doc := []
  mac_scope_conflicts : List Doc := []
deriving DecidableEq

def DiscoveredInterface.asdict (interface : DiscoveredInterface) : Value :=
  .obj [("name", .str interface.name), ("mac_address", optional .str interface.mac_address),
    ("bridge", optional .str interface.bridge), ("vlan_id", optional .int interface.vlan_id),
    ("ip_addresses", .arr (interface.ip_addresses.map .str)),
    ("external_id", optional .str interface.external_id),
    ("network_observations", optional Doc.value interface.network_observations),
    ("ip_vrf_id", optional .int interface.ip_vrf_id),
    ("ip_scope_conflicts", .arr (interface.ip_scope_conflicts.map Doc.value)),
    ("mac_scope_conflicts", .arr (interface.mac_scope_conflicts.map Doc.value))]

structure DiscoveredVirtualMachine where
  source : String
  source_instance : String
  legacy_identity_owner : Bool
  source_id : String
  node_source_id : String
  vmid : ObjectId
  original_name : String
  normalized_name : String
  status : String
  vcpus : Int
  memory_bytes : Int
  autostart : Bool
  disks : List DiscoveredVirtualDisk := []
  interfaces : List DiscoveredInterface := []
  external_id : Option String := none
  description : Option String := none
  provider_object_id : Option String := none
  esxi_instance_uuid : Option String := none
  esxi_bios_uuid : Option String := none
deriving DecidableEq

def DiscoveredVirtualMachine.asdict (vm : DiscoveredVirtualMachine) : Value :=
  .obj [("source", .str vm.source), ("source_instance", .str vm.source_instance),
    ("legacy_identity_owner", .bool vm.legacy_identity_owner), ("source_id", .str vm.source_id),
    ("node_source_id", .str vm.node_source_id), ("vmid", vm.vmid.value),
    ("original_name", .str vm.original_name), ("normalized_name", .str vm.normalized_name),
    ("status", .str vm.status), ("vcpus", .int vm.vcpus), ("memory_bytes", .int vm.memory_bytes),
    ("autostart", .bool vm.autostart),
    ("disks", .arr (vm.disks.map DiscoveredVirtualDisk.asdict)),
    ("interfaces", .arr (vm.interfaces.map DiscoveredInterface.asdict)),
    ("external_id", optional .str vm.external_id), ("description", optional .str vm.description),
    ("provider_object_id", optional .str vm.provider_object_id),
    ("esxi_instance_uuid", optional .str vm.esxi_instance_uuid),
    ("esxi_bios_uuid", optional .str vm.esxi_bios_uuid)]

structure DiscoveredContainer where
  source : String
  source_instance : String
  legacy_identity_owner : Bool
  source_id : String
  node_source_id : String
  vmid : Int
  original_name : String
  normalized_name : String
  status : String
  architecture : Option String
  os_type : Option String
  vcpus : Int
  memory_bytes : Int
  swap_bytes : Int
  autostart : Bool
  unprivileged : Bool
  disks : List DiscoveredVirtualDisk := []
  interfaces : List DiscoveredInterface := []
deriving DecidableEq

def DiscoveredContainer.asdict (container : DiscoveredContainer) : Value :=
  .obj [("source", .str container.source), ("source_instance", .str container.source_instance),
    ("legacy_identity_owner", .bool container.legacy_identity_owner),
    ("source_id", .str container.source_id), ("node_source_id", .str container.node_source_id),
    ("vmid", .int container.vmid), ("original_name", .str container.original_name),
    ("normalized_name", .str container.normalized_name), ("status", .str container.status),
    ("architecture", optional .str container.architecture),
    ("os_type", optional .str container.os_type), ("vcpus", .int container.vcpus),
    ("memory_bytes", .int container.memory_bytes), ("swap_bytes", .int container.swap_bytes),
    ("autostart", .bool container.autostart), ("unprivileged", .bool container.unprivileged),
    ("disks", .arr (container.disks.map DiscoveredVirtualDisk.asdict)),
    ("interfaces", .arr (container.interfaces.map DiscoveredInterface.asdict))]

structure DiscoveredHost where
  source : String
  source_instance : String
  legacy_identity_owner : Bool
  source_id : String
  original_name : String
  normalized_name : String
  management_ip : Option String
  hypervisor : String
  hypervisor_version : Option String
  cpu : DiscoveredCPU
  memory_bytes : Int
  manufacturer : Option String := none
  model : Option String := none
  disks : List DiscoveredDisk := []
  storages : List DiscoveredStorage := []
  interfaces : List DiscoveredHostInterface := []
  virtual_machines : List DiscoveredVirtualMachine := []
  containers : List DiscoveredContainer := []
  esxi_events : Option Doc := none
  esxi_host_network : Option Doc := none
  proxmox_host_network : Option Doc := none
  connection_management : Option Doc := none
  hardware_identity : Option Doc := none
deriving DecidableEq, Inhabited

def DiscoveredHost.asdict (host : DiscoveredHost) : Value :=
  .obj [("source", .str host.source), ("source_instance", .str host.source_instance),
    ("legacy_identity_owner", .bool host.legacy_identity_owner), ("source_id", .str host.source_id),
    ("original_name", .str host.original_name), ("normalized_name", .str host.normalized_name),
    ("management_ip", optional .str host.management_ip), ("hypervisor", .str host.hypervisor),
    ("hypervisor_version", optional .str host.hypervisor_version), ("cpu", host.cpu.asdict),
    ("memory_bytes", .int host.memory_bytes), ("manufacturer", optional .str host.manufacturer),
    ("model", optional .str host.model), ("disks", .arr (host.disks.map DiscoveredDisk.asdict)),
    ("storages", .arr (host.storages.map DiscoveredStorage.asdict)),
    ("interfaces", .arr (host.interfaces.map DiscoveredHostInterface.asdict)),
    ("virtual_machines", .arr (host.virtual_machines.map DiscoveredVirtualMachine.asdict)),
    ("containers", .arr (host.containers.map DiscoveredContainer.asdict)),
    ("esxi_events", optional Doc.value host.esxi_events),
    ("esxi_host_network", optional Doc.value host.esxi_host_network),
    ("proxmox_host_network", optional Doc.value host.proxmox_host_network),
    ("connection_management", optional Doc.value host.connection_management),
    ("hardware_identity", optional Doc.value host.hardware_identity)]

theorem DiscoveredDisk.faithful : Faithful DiscoveredDisk.asdict := by
  intro a b h
  replace h := (Value.record_sort_keys_inj (by rfl) (by simp [dict.keys])).mp h
  cases a
  cases b
  simpa using h

theorem DiscoveredStorage.faithful : Faithful DiscoveredStorage.asdict := by
  intro a b h
  replace h := (Value.record_sort_keys_inj (by rfl) (by simp [dict.keys])).mp h
  cases a
  cases b
  simpa using h

theorem DiscoveredCPU.faithful : Faithful DiscoveredCPU.asdict := by
  intro a b h
  replace h := (Value.record_sort_keys_inj (by rfl) (by simp [dict.keys])).mp h
  cases a
  cases b
  simpa using h

theorem DiscoveredHostInterface.faithful : Faithful DiscoveredHostInterface.asdict := by
  intro a b h
  replace h := (Value.record_sort_keys_inj (by rfl) (by simp [dict.keys])).mp h
  cases a
  cases b
  simpa [faithful_str.map_inj] using h

theorem DiscoveredVirtualDisk.faithful : Faithful DiscoveredVirtualDisk.asdict := by
  intro a b h
  replace h := (Value.record_sort_keys_inj (by rfl) (by simp [dict.keys])).mp h
  cases a
  cases b
  simpa using h

theorem DiscoveredInterface.faithful : Faithful DiscoveredInterface.asdict := by
  intro a b h
  replace h := (Value.record_sort_keys_inj (by rfl) (by simp [dict.keys])).mp h
  cases a
  cases b
  simpa [faithful_str.map_inj, Doc.faithful.map_inj] using h

theorem DiscoveredVirtualMachine.faithful : Faithful DiscoveredVirtualMachine.asdict := by
  intro a b h
  replace h := (Value.record_sort_keys_inj (by rfl) (by simp [dict.keys])).mp h
  cases a
  cases b
  simpa [DiscoveredVirtualDisk.faithful.map_inj, DiscoveredInterface.faithful.map_inj,
    ObjectId.faithful.eq_iff] using h

theorem DiscoveredContainer.faithful : Faithful DiscoveredContainer.asdict := by
  intro a b h
  replace h := (Value.record_sort_keys_inj (by rfl) (by simp [dict.keys])).mp h
  cases a
  cases b
  simpa [DiscoveredVirtualDisk.faithful.map_inj, DiscoveredInterface.faithful.map_inj] using h

theorem DiscoveredHost.faithful : Faithful DiscoveredHost.asdict := by
  intro a b h
  replace h := (Value.record_sort_keys_inj (by rfl) (by simp [dict.keys])).mp h
  cases a
  cases b
  simpa [DiscoveredCPU.faithful.eq_iff, DiscoveredDisk.faithful.map_inj,
    DiscoveredStorage.faithful.map_inj, DiscoveredHostInterface.faithful.map_inj,
    DiscoveredVirtualMachine.faithful.map_inj, DiscoveredContainer.faithful.map_inj] using h

end netbox_sync.discovery
