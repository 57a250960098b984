import NetboxSync.Lib.Ip.Interface
import NetboxSync.Netbox.Records

open json

namespace netbox_sync.netbox

structure ClusterType where
  id : Int
  slug : String
deriving DecidableEq, Repr

structure TypedCluster extends Cluster where
  type : Option Int
deriving DecidableEq, Repr

structure Device where
  id : Int
  name : Option String
  site : Option Int
  cluster : Option Int := none
  custom_fields : Fields := []
  primary_ip4 : Option Int := none
deriving DecidableEq, Repr

/-- `dcim.interfaces` -/
structure Interface where
  id : Int
  name : String
  device : Option Int
  primary_mac_address : Option Int := none
deriving DecidableEq, Repr

instance : Row Device := ⟨Device.id⟩
instance : Row Interface := ⟨Interface.id⟩

end netbox_sync.netbox

namespace netbox_sync.esxi_adoption

open discovery netbox

/-- The kinds of objects an ESXi source owns in NetBox. -/
inductive Kind where
  | host
  | vm
deriving DecidableEq, Repr

/-- What the planners read of a device or a VM. -/
structure Record where
  id : Int
  name : String
  custom_fields : Fields
  primary_ip4 : Option Int
deriving DecidableEq

/-- What the planners read of an interface of either kind. -/
structure Port where
  id : Int
  name : String
  parent : Option Int
  primary_mac_address : Option Int
deriving DecidableEq

/-- `str(record.name)` -/
def device_record (device : Device) : Record :=
  ⟨device.id, device.name.getD "None", device.custom_fields, device.primary_ip4⟩

def vm_record (vm : VirtualMachine) : Record := ⟨vm.id, vm.name, vm.custom_fields, vm.primary_ip4⟩

def device_port (interface : Interface) : Port :=
  ⟨interface.id, interface.name, interface.device, interface.primary_mac_address⟩

def vm_port (interface : VMInterface) : Port :=
  ⟨interface.id, interface.name, interface.virtual_machine, interface.primary_mac_address⟩

/-- The content of a NetBox while one plan is built. -/
structure Catalog where
  sites : List Site
  cluster_types : List ClusterType
  clusters : List TypedCluster
  devices : Table Device
  vms : Table VirtualMachine
  interfaces : Table Interface
  vm_interfaces : Table VMInterface
  ips : Table IPAddress
  macs : Table MACAddress

def Catalog.records (nb : Catalog) : Kind → List Record
  | .host => nb.devices.rows.map device_record
  | .vm => nb.vms.rows.map vm_record

def Catalog.ports (nb : Catalog) : Kind → List Port
  | .host => nb.interfaces.rows.map device_port
  | .vm => nb.vm_interfaces.rows.map vm_port

theorem Catalog.records_nodup (nb : Catalog) (kind : Kind) : ((nb.records kind).map Record.id).Nodup := by
  cases kind with
  | host =>
    rw [Catalog.records, List.map_map]
    exact nb.devices.nodup
  | vm =>
    rw [Catalog.records, List.map_map]
    exact nb.vms.nodup

theorem Catalog.ports_nodup (nb : Catalog) (kind : Kind) : ((nb.ports kind).map Port.id).Nodup := by
  cases kind with
  | host =>
    rw [Catalog.ports, List.map_map]
    exact nb.interfaces.nodup
  | vm =>
    rw [Catalog.ports, List.map_map]
    exact nb.vm_interfaces.nodup

theorem Catalog.record_of_id {nb : Catalog} {kind : Kind} {a b : Record} (ha : a ∈ nb.records kind)
    (hb : b ∈ nb.records kind) (h : a.id = b.id) : a = b :=
  List.inj_on_of_nodup_map (nb.records_nodup kind) ha hb h

theorem Catalog.port_of_id {nb : Catalog} {kind : Kind} {a b : Port} (ha : a ∈ nb.ports kind)
    (hb : b ∈ nb.ports kind) (h : a.id = b.id) : a = b :=
  List.inj_on_of_nodup_map (nb.ports_nodup kind) ha hb h

/-- `str(interface.ip)` -/
def ip_text : ipaddress.Interface → String
  | .v4 octets _ => String.ofList (ipaddress.v4_to_string octets)
  | .v6 hextets none _ => String.ofList (ipaddress.v6_to_string hextets)
  | .v6 hextets (some scope) _ => String.ofList (ipaddress.v6_to_string hextets ++ '%' :: scope)

def canonical_ip (value : Option String) : Option String :=
  match value with
  | none => none
  | some value =>
    match ipaddress.ip_interface value with
    | none => none
    | some address =>
      if address.is_loopback || address.is_link_local || address.is_multicast ||
          address.is_unspecified then none
      else some (ip_text address)

/-- `[0-9A-Fa-f]` -/
def isHex (c : Char) : Bool := c.isDigit || ('a' ≤ c && c ≤ 'f') || ('A' ≤ c && c ≤ 'F')

/-- The digits in twos, with colons between. -/
def octets : List Char → List Char
  | a :: b :: c :: rest => a :: b :: ':' :: octets (c :: rest)
  | last => last

def canonical_mac (value : Option String) : Option String :=
  match value with
  | none => none
  | some value =>
    let compact := value.toList.filter isHex
    if compact.length ≠ 12 then none else some (String.ofList (octets (compact.map Char.toUpper)))

example : canonical_mac (some "00-50.56:ab.cd-0f") = some "00:50:56:AB:CD:0F" := by decide +kernel

/-- The content type of the interfaces of a kind. -/
def assigned_type : Kind → String
  | .host => "dcim.interface"
  | .vm => "virtualization.vminterface"

/-- `_NetworkIndex.for_object`: the addresses a record and its interfaces hold. -/
def for_object (nb : Catalog) (kind : Kind) (record : Record) : List String × List String :=
  let interfaces := (nb.ports kind).filter (fun port => port.parent = some record.id)
  let primary_ip := (record.primary_ip4.bind nb.ips.get).bind (fun ip => canonical_ip ip.address)
  let primary_macs := interfaces.filterMap (fun port =>
    (port.primary_mac_address.bind nb.macs.get).bind (fun mac => canonical_mac mac.mac_address))
  let held (assigned : Assigned) : Bool :=
    interfaces.any (fun port => assigned = ⟨some (assigned_type kind), some port.id⟩)
  let ips := (nb.ips.rows.filter (fun ip => held ip.assigned_object)).filterMap (fun ip => canonical_ip ip.address)
  let macs := (nb.macs.rows.filter (fun mac => held mac.assigned_object)).filterMap
    (fun mac => canonical_mac mac.mac_address)
  ((primary_ip.toList ++ ips).dedup, (primary_macs ++ macs).dedup)

/-- A discovered host or VM. -/
inductive Discovered where
  | host (node : DiscoveredHost)
  | vm (guest : DiscoveredVirtualMachine)

def Discovered.kind : Discovered → Kind
  | .host _ => .host
  | .vm _ => .vm

def Discovered.original_name : Discovered → String
  | .host node => node.original_name
  | .vm guest => guest.original_name

/-- `_discovered_network` -/
def discovered_network : Discovered → List String × List String
  | .host host =>
    (((canonical_ip host.management_ip).toList ++ host.interfaces.flatMap (fun interface =>
      interface.addresses.filterMap (fun address => canonical_ip (some address)))).dedup, [])
  | .vm vm =>
    ((vm.interfaces.flatMap (fun interface =>
        interface.ip_addresses.filterMap (fun address => canonical_ip (some address)))).dedup,
      (vm.interfaces.filterMap (fun interface => canonical_mac interface.mac_address)).dedup)

end netbox_sync.esxi_adoption
