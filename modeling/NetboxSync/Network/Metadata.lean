import NetboxSync.Lib.Except
import NetboxSync.Lib.Python
import NetboxSync.Netbox.Records

open json

namespace netbox_sync.source_identity

/-- `f"{identity.type}/{identity.instance}/{identity.kind}"` -/
def original_name_key (identity : SourceIdentity) : String :=
  identity.type ++ "/" ++ identity.instance ++ "/" ++ identity.kind

/-- The two identities own the same v2 namespace of an object. -/
def SourceIdentity.same_namespace (parsed desired : SourceIdentity) : Bool :=
  parsed.type = desired.type && parsed.instance = desired.instance && parsed.kind = desired.kind

section

variable (py : python.Runtime)

/-- The loop of `merge_source_identities`: the records that stay. -/
def kept_identities (desired : SourceIdentity) : List Value → Except String (List Value)
  | [] => .ok []
  | .obj fields :: values => do
    let parsed ← from_record py.repr (.obj fields)
    let kept ← kept_identities desired values
    if parsed.any (fun parsed => parsed.same_namespace desired) then .ok kept
    else .ok (.obj fields :: kept)
  | _ :: _ => .error "sync_identities contains an unsupported value"

/-- `repr(sorted(value.items()))` -/
def record_key (value : Value) : String :=
  match value with
  | .obj fields => py.repr_items (sorting.sorted Prod.fst fields)
  | _ => ""

def merge_source_identities (custom_fields : Fields) (desired : SourceIdentity) : Except String (List Value) :=
  match (dict.get custom_fields "sync_identities").getD (.arr []) with
  | .arr identities => do
    let result ← kept_identities py desired identities
    .ok (sorting.sorted (record_key py) (result ++ [desired.to_record]))
  | _ => .error "sync_identities must be a JSON list"

end

def merge_original_name (custom_fields : Fields) (desired : SourceIdentity)
    (original_name : String) : Except String Fields :=
  match (dict.get custom_fields "sync_original_names").getD (.obj []) with
  | .obj values => .ok (dict.set values (original_name_key desired) (.str original_name))
  | _ => .error "sync_original_names must be a JSON object"

end netbox_sync.source_identity

namespace netbox_sync.netbox_vm_interface_metadata

open discovery netbox source_identity

def MANAGED_VM_INTERFACE_CUSTOM_FIELDS : List String :=
  ["sync_identities", "sync_original_names", "source_bridge", "source_vlan_id", "sync_network_observations"]

def nic_identity_source_id (guest : Guest) (nic : DiscoveredInterface) : String :=
  vm_identity_source_id guest ++ ":" ++ nic.name

/-- The NIC may still be known by the v2 identity made from its name. -/
def named_before (desired : SourceIdentity) (nic : DiscoveredInterface) : Bool :=
  desired.type = "proxmox" && desired.kind = "lxc-nic" && nic.external_id.getD "" ≠ "" &&
    nic.external_id.getD "" ≠ nic.name

section

variable (py : python.Runtime)

def nic_sync_identity_match_rank (custom_fields : Fields) (guest : Guest)
    (nic : DiscoveredInterface) : Except String Nat := do
  let desired ← nic_source_identity guest nic
  let rank ← source_identity_match_rank py.repr custom_fields desired
    [nic_identity_source_id guest nic] guest.legacy_identity_owner
  if rank ≠ 0 || !named_before desired nic then .ok rank
  else
    let legacy_v2 ← SourceIdentity.build desired.type desired.instance desired.kind (guest.vmid ++ ":" ++ nic.name)
    source_identity_match_rank py.repr custom_fields legacy_v2 [] false

def find_nic_sync_identity_matches (candidates : List VMInterface) (guest : Guest)
    (nic : DiscoveredInterface) : Except String (List VMInterface) :=
  select_best_identity_matches candidates
    (fun candidate => nic_sync_identity_match_rank py candidate.custom_fields guest nic)

/-- The observations of the other sources, with those of this one replaced. -/
def merge_network_observations (existing : Fields) (source_instance : String)
    (observations : Value) : Except String Value :=
  let previous := (dict.get existing "sync_network_observations").getD .null
  match if previous.truthy then previous else .obj [] with
  | .obj previous => .ok (.obj (dict.set previous source_instance observations))
  | _ => .error "Incompatible network observation field"

def build_nic_custom_fields (guest : Guest) (nic : DiscoveredInterface)
    (existing : Fields) : Except String Fields := do
  let desired_identity ← nic_source_identity guest nic
  let merged_identities ← merge_source_identities py existing desired_identity
  let merged_original_names ← merge_original_name existing desired_identity nic.name
  let result := dict.update existing
    [("sync_identities", .arr merged_identities), ("sync_original_names", .obj merged_original_names),
      ("source_bridge", optional .str nic.bridge), ("source_vlan_id", optional .int nic.vlan_id)]
  match nic.network_observations with
  | none => .ok result
  | some observations => do
    let merged ← merge_network_observations existing guest.source_instance observations.value
    .ok (dict.set result "sync_network_observations" merged)

end

end netbox_sync.netbox_vm_interface_metadata

namespace netbox_sync.interface_display

open discovery netbox

variable (py : python.Runtime)

/-- `str(nic.bridge or nic.name)` -/
def base_name (nic : DiscoveredInterface) : String := orText nic.bridge nic.name

def interface_display_name (guest : Guest) (nic : DiscoveredInterface) : String :=
  let base := base_name nic
  let peers := guest.interfaces.filter (fun item => py.casefold (base_name item) = py.casefold base)
  if peers.length > 1 || base.length > 64 then
    let key := orText nic.external_id nic.name
    let suffix := " / " ++ (if key.length ≤ 16 then key else python.take (py.sha256_hexdigest key) 10)
    python.take base (64 - suffix.length) ++ suffix
  else base

/-- `validate_interface_names`, from the NIC on whose turn it is. -/
def validate_interface_names (guest : Guest) (existing : List VMInterface)
    (owner : List VMInterface → Guest → DiscoveredInterface → Except String (Option VMInterface)) :
    List String → List DiscoveredInterface → Except String Unit
  | _, [] => .ok ()
  | names, nic :: nics => do
    let name := interface_display_name py guest nic
    if py.casefold name ∈ names then
      .error ("Duplicate desired interface name: " ++ py.repr (.str name))
    let owned ← owner existing guest nic
    if existing.any (fun row => py.casefold row.name = py.casefold name &&
        owned.all (fun owned => row.id ≠ owned.id)) then
      .error ("Interface name occupied: " ++ py.repr (.str name) ++
        "; no interfaces were renamed or adopted")
    validate_interface_names guest existing owner (py.casefold name :: names) nics

end netbox_sync.interface_display
