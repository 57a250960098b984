import NetboxSync.Lib.Ip.Canonical
import NetboxSync.Network.Metadata

open json

/-- `primary_owned(record)` for the custom fields of a VM. -/
def netbox_sync.selectel_authority.primary_owned (custom_fields : Fields) : Bool :=
  if ((dict.get custom_fields "selectel_refs").getD .null).truthy then
    match dict.get custom_fields "selectel_inventory" with
    | some (.obj snapshot) =>
      match dict.get snapshot "native_fields" with
      | some (.arr fields) =>
        fields.all (fun f => match f with | .str _ => true | _ => false) &&
          fields.contains (.str "primary_ip4_id")
      | _ => false
    | _ => false
  else false

namespace netbox_sync.network_preflight

open discovery netbox netbox_vm_interface_metadata interface_display

/-- The records both network preflights look things up in. The VM side reads the VMs of its cluster, the LXC side
    those of every cluster. -/
structure NetworkInventory where
  vms : List VirtualMachine
  interfaces_by_vm : Int → List VMInterface
  interfaces_by_id : Int → Option VMInterface
  macs_by_address : String → List MACAddress
  ips_by_address : String → List IPAddress
  ips_by_id : Int → Option IPAddress

/-- The changes one interface needs; what is missing stays as it is. -/
structure InterfaceChanges where
  name : Option String := none
  enabled : Option Bool := none
  custom_fields : Option Fields := none
deriving DecidableEq

structure IpContext where
  key : String
  vrf_id : Option Int
  address : String
  existing : Option IPAddress
deriving DecidableEq

structure NicContext where
  source : DiscoveredInterface
  existing : Option VMInterface
  changes : InterfaceChanges
  desired_custom_fields : Fields
  mac_value : Option String
  existing_mac : Option MACAddress
  ips : List IpContext
deriving DecidableEq

inductive PrimaryAction where
  | set
  | match
  | preserve_manual
  | preserve_provider
deriving DecidableEq, Repr

/-- What is decided about the primary IPv4 of one guest. -/
structure PrimaryContext where
  candidate : Option String := none
  action : Option PrimaryAction := none
  current : Option String := none
deriving DecidableEq

structure GuestContext where
  guest : Guest
  netbox_vm : VirtualMachine
  nics : List NicContext
  primary : PrimaryContext
deriving DecidableEq

def scope_key (address : String) (vrf_id : Option Int) : String :=
  match vrf_id with
  | none => address
  | some vrf_id => "vrf:" ++ toString vrf_id ++ ":" ++ address

/-- `_usable_address` and `_usable_ip`. -/
def usable_address (value : String) : Option String :=
  match ipaddress.ip_interface value with
  | none => none
  | some interface =>
    if interface.is_loopback || interface.is_link_local || interface.is_multicast ||
        interface.is_unspecified then none
    else some interface.str

def VMINTERFACE : String := "virtualization.vminterface"

/-- A record that is nobody's, or that is this interface's already. -/
def allowed (existing : Option VMInterface) (assigned : Assigned) : Bool :=
  assigned = {} || existing.any (fun interface => assigned = ⟨some VMINTERFACE, some interface.id⟩)

/-- The single record under a key, where the interface may have it. -/
def single_record {α : Type} (assigned_object : α → Assigned) (existing : Option VMInterface)
    (duplicate : String) (taken : Assigned → String) : List α → Except String (Option α)
  | [] => .ok none
  | [record] =>
    if allowed existing (assigned_object record) then .ok (some record)
    else .error (taken (assigned_object record))
  | _ :: _ :: _ => .error duplicate

/-- `f"{assigned_type}:{assigned_id}"` -/
def assigned_text (assigned : Assigned) : String :=
  assigned.type.getD "None" ++ ":" ++ (assigned.id.map toString).getD "None"

section

variable (py : python.Runtime)

def canonical_mac (value : Option String) : Option String :=
  match value with
  | none => none
  | some value => if value = "" then none else some (py.upper (python.strip value))

/-- The NIC's MAC where it has one. -/
def mac_of (nic : DiscoveredInterface) : Option String := (canonical_mac py nic.mac_address).filter (· ≠ "")

/-- `_interface_match` and `_find_interface`, up to their texts. -/
def identity_owner (duplicate adoption : String) (interfaces : List VMInterface) (guest : Guest)
    (nic : DiscoveredInterface) : Except String (Option VMInterface) := do
  match ← find_nic_sync_identity_matches py interfaces guest nic with
  | [interface] => .ok (some interface)
  | _ :: _ :: _ => .error duplicate
  | [] =>
    if interfaces.any (fun interface => py.casefold interface.name = py.casefold nic.name ||
        py.casefold interface.name = py.casefold (interface_display_name py guest nic)) then
      .error adoption
    else .ok none

/-- `_desired_interface_changes` and `_interface_changes`. -/
def interface_changes (interface : VMInterface) (guest : Guest) (nic : DiscoveredInterface) :
    Except String (InterfaceChanges × Fields) := do
  let desired ← build_nic_custom_fields py guest nic interface.custom_fields
  let name := interface_display_name py guest nic
  .ok ({ name := if interface.name ≠ name then some name else none
         enabled := if interface.enabled ≠ true then some true else none
         custom_fields :=
          if MANAGED_VM_INTERFACE_CUSTOM_FIELDS.any (fun field =>
              !((dict.get interface.custom_fields field).getD .null).eq
                ((dict.get desired field).getD .null)) then some desired
          else none }, desired)

/-- The changes and the custom fields a NIC asks for. -/
def desired_changes (guest : Guest) (nic : DiscoveredInterface) :
    Option VMInterface → Except String (InterfaceChanges × Fields)
  | none => do .ok ({}, ← build_nic_custom_fields py guest nic [])
  | some interface => interface_changes py interface guest nic

/-- The checks of one MAC, up to the text for a MAC that is taken. -/
def check_mac (taken : String → Assigned → String) (existing : Option VMInterface)
    (nic : DiscoveredInterface) (macs_by_address : String → List MACAddress) :
    Except String (Option MACAddress) :=
  match mac_of py nic with
  | none => .ok none
  | some mac =>
    single_record MACAddress.assigned_object existing ("Duplicate NetBox MAC " ++ mac) (taken mac)
      (macs_by_address mac)

end

/-- `_check_vm_ips` and `_check_lxc_ips`: the addresses of one NIC, and the keys of its IPv4 addresses. -/
def check_ips (existing : Option VMInterface) (nic : DiscoveredInterface) (ips_by_address : String → List IPAddress) :
    List String → Except String (List IpContext × List String)
  | [] => .ok ([], [])
  | raw_address :: raw_addresses =>
    match usable_address raw_address with
    | none => check_ips existing nic ips_by_address raw_addresses
    | some address => do
      let key := scope_key address nic.ip_vrf_id
      let existing_ip ← single_record IPAddress.assigned_object existing
        ("Duplicate NetBox IP " ++ address)
        (fun assigned => "IP " ++ address ++ " already assigned to " ++ assigned_text assigned)
        (ips_by_address key)
      let (contexts, ipv4) ← check_ips existing nic ips_by_address raw_addresses
      let is_v4 := (ipaddress.ip_interface address).any (fun interface => interface.version = 4)
      .ok (⟨key, nic.ip_vrf_id, address, existing_ip⟩ :: contexts, if is_v4 then key :: ipv4 else ipv4)

/-- What the VM side and the LXC side do differently for one NIC. -/
structure Side where
  owner : List VMInterface → Guest → DiscoveredInterface → Except String (Option VMInterface)
  check_mac : Option VMInterface → Guest → DiscoveredInterface → (String → List MACAddress) →
    Except String (Option MACAddress)
  duplicate_names : Guest → List String → String

section

variable (py : python.Runtime) (side : Side)

/-- One round of the NIC loop: its context, and its IPv4 keys. -/
def prepare_nic_context (guest : Guest) (existing_interfaces : List VMInterface)
    (inventory : NetworkInventory) (nic : DiscoveredInterface) :
    Except String (NicContext × List String) := do
  let existing ← side.owner existing_interfaces guest nic
  let (changes, desired) ← desired_changes py guest nic existing
  let existing_mac ← side.check_mac existing guest nic inventory.macs_by_address
  let (ips, ipv4) ← check_ips existing nic inventory.ips_by_address nic.ip_addresses
  .ok (⟨nic, existing, changes, desired, canonical_mac py nic.mac_address, existing_mac, ips⟩, ipv4)

theorem prepare_nic_context_eq_ok_iff {guest : Guest} {existing_interfaces : List VMInterface}
    {inventory : NetworkInventory} {nic : DiscoveredInterface} {context : NicContext} {ipv4 : List String} :
    prepare_nic_context py side guest existing_interfaces inventory nic = .ok (context, ipv4) ↔
      context.source = nic ∧ side.owner existing_interfaces guest nic = .ok context.existing ∧
      desired_changes py guest nic context.existing = .ok (context.changes, context.desired_custom_fields) ∧
      context.mac_value = canonical_mac py nic.mac_address ∧
      side.check_mac context.existing guest nic inventory.macs_by_address = .ok context.existing_mac ∧
      check_ips context.existing nic inventory.ips_by_address nic.ip_addresses = .ok (context.ips, ipv4) := by
  unfold prepare_nic_context
  constructor
  · intro h
    obtain ⟨existing, howner, h⟩ := Except.bind_eq_ok_iff.mp h
    obtain ⟨⟨changes, desired⟩, hchanges, h⟩ := Except.bind_eq_ok_iff.mp h
    obtain ⟨existing_mac, hmac, h⟩ := Except.bind_eq_ok_iff.mp h
    obtain ⟨⟨ips, keys⟩, hips, h⟩ := Except.bind_eq_ok_iff.mp h
    cases h
    exact ⟨rfl, howner, hchanges, rfl, hmac, hips⟩
  · rintro ⟨hsource, howner, hchanges, hvalue, hmac, hips⟩
    subst hsource
    simp only [howner, hchanges, hmac, hips, ← hvalue, Except.ok_bind]

/-- The values seen more than once, in order. -/
def repeated (values : List String) : List String := values.eraseDups.filter (fun value => 1 < values.count value)

/-- The interface part of the preflight of one guest: the names, then the NICs in order. -/
def prepare_nics (guest : Guest) (existing_interfaces : List VMInterface)
    (inventory : NetworkInventory) : Except String (List (NicContext × List String)) := do
  validate_interface_names py guest existing_interfaces side.owner [] guest.interfaces
  let duplicates := repeated (guest.interfaces.map (fun nic => py.casefold (interface_display_name py guest nic)))
  if duplicates ≠ [] then .error (side.duplicate_names guest duplicates)
  guest.interfaces.mapM (prepare_nic_context py side guest existing_interfaces inventory)

theorem prepare_nics_eq_ok_iff {guest : Guest} {existing_interfaces : List VMInterface}
    {inventory : NetworkInventory} {prepared : List (NicContext × List String)} :
    prepare_nics py side guest existing_interfaces inventory = .ok prepared ↔
      validate_interface_names py guest existing_interfaces side.owner [] guest.interfaces = .ok () ∧
      repeated (guest.interfaces.map (fun nic => py.casefold (interface_display_name py guest nic))) = [] ∧
      List.Forall₂ (fun nic p => prepare_nic_context py side guest existing_interfaces inventory nic =
        .ok p) guest.interfaces prepared := by
  unfold prepare_nics
  rw [Except.bind_eq_ok_iff]
  constructor
  · rintro ⟨⟨⟩, hvalid, h⟩
    dsimp only at h
    split at h
    · cases h
    · next hrepeated => exact ⟨hvalid, not_not.mp hrepeated, Except.mapM_eq_ok_iff.mp h⟩
  · rintro ⟨hvalid, hrepeated, hall⟩
    refine ⟨(), hvalid, ?_⟩
    dsimp only
    rw [if_neg (not_not.mpr hrepeated)]
    exact Except.mapM_eq_ok_iff.mpr hall

/-- The macs of the guests, as `discovered_macs` collects them. -/
def discovered_macs (guests : List Guest) : List String :=
  guests.flatMap (fun guest => guest.interfaces.filterMap (mac_of py))

end

/-- The scoped addresses of the guests, as `discovered_ips` collects them. -/
def discovered_ips (guests : List Guest) : List String :=
  guests.flatMap (fun guest => guest.interfaces.flatMap (fun nic =>
    nic.ip_addresses.filterMap (fun raw_address =>
      (usable_address raw_address).map (fun address => scope_key address nic.ip_vrf_id))))

/-- The checks of the whole batch, once every guest passed. -/
def check_batch (macs ips : List String) : Except String Unit := do
  if repeated macs ≠ [] then
    .error ("Duplicate discovered MACs: " ++ ",".intercalate (sorting.sorted id (repeated macs)))
  if repeated ips ≠ [] then
    .error ("Duplicate discovered IPs: " ++ ",".intercalate (sorting.sorted id (repeated ips)))
  .ok ()

end netbox_sync.network_preflight
