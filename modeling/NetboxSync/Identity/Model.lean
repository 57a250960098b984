import NetboxSync.Discovery
import NetboxSync.Lib.Json.Python

open json

namespace netbox_sync

open discovery

/-- A discovered QEMU or ESXi VM, or a discovered LXC container. -/
inductive Guest where
  | machine (vm : DiscoveredVirtualMachine)
  | container (container : DiscoveredContainer)
deriving DecidableEq

namespace Guest

def source : Guest → String
  | .machine vm => vm.source
  | .container c => c.source

def source_instance : Guest → String
  | .machine vm => vm.source_instance
  | .container c => c.source_instance

def legacy_identity_owner : Guest → Bool
  | .machine vm => vm.legacy_identity_owner
  | .container c => c.legacy_identity_owner

def source_id : Guest → String
  | .machine vm => vm.source_id
  | .container c => c.source_id

/-- `str(guest.vmid)` -/
def vmid : Guest → String
  | .machine vm => match vm.vmid with
    | .int n => toString n
    | .str s => s
  | .container c => toString c.vmid

def original_name : Guest → String
  | .machine vm => vm.original_name
  | .container c => c.original_name

def interfaces : Guest → List DiscoveredInterface
  | .machine vm => vm.interfaces
  | .container c => c.interfaces

end Guest

/-- `text or default` -/
def orText (text : Option String) (default : String) : String :=
  match text with
  | some text => if text = "" then default else text
  | none => default

namespace source_identity

def IDENTITY_SCHEMA_V2 : String := "v2"
def NO_IDENTITY_MATCH : Nat := 0
def LEGACY_IDENTITY_MATCH : Nat := 1
def V2_IDENTITY_MATCH : Nat := 2

/-- An identity that passed its own check: no part of it is blank. -/
structure SourceIdentity where
  type : String
  «instance» : String
  kind : String
  external_id : String
  required : blank type = false ∧ blank «instance» = false ∧ blank kind = false ∧ blank external_id = false
deriving DecidableEq

def SourceIdentity.build (type «instance» kind external_id : String) : Except String SourceIdentity :=
  if htype : blank type then .error "type must be a non-empty string"
  else if hinstance : blank «instance» then .error "instance must be a non-empty string"
  else if hkind : blank kind then .error "kind must be a non-empty string"
  else if hexternal : blank external_id then .error "external_id must be a non-empty string"
  else .ok ⟨type, «instance», kind, external_id, by simp_all⟩

theorem SourceIdentity.build_fields {type «instance» kind external_id : String} {id : SourceIdentity}
    (h : SourceIdentity.build type «instance» kind external_id = .ok id) :
    id.type = type ∧ id.instance = «instance» ∧ id.kind = kind ∧ id.external_id = external_id := by
  rw [SourceIdentity.build] at h
  split at h
  · cases h
  split at h
  · cases h
  split at h
  · cases h
  split at h
  · cases h
  · cases h
    exact ⟨rfl, rfl, rfl, rfl⟩

variable (id : SourceIdentity) (container : DiscoveredContainer) (vm : DiscoveredVirtualMachine)
  (nic : DiscoveredInterface)

theorem SourceIdentity.build_self : SourceIdentity.build id.type id.instance id.kind id.external_id = .ok id := by
  obtain ⟨htype, hinstance, hkind, hexternal⟩ := id.required
  simp [SourceIdentity.build, htype, hinstance, hkind, hexternal]

def SourceIdentity.record_fields : Fields :=
  [("schema", .str IDENTITY_SCHEMA_V2), ("type", .str id.type), ("instance", .str id.instance),
    ("kind", .str id.kind), ("external_id", .str id.external_id)]

def SourceIdentity.to_record : Value := .obj id.record_fields

/-- `_identity(obj, kind, external_id)` -/
def identity (guest : Guest) (kind external_id : String) : Except String SourceIdentity :=
  SourceIdentity.build guest.source guest.source_instance kind external_id

def qemu_source_identity : Except String SourceIdentity := identity (.machine vm) "qemu" (Guest.machine vm).vmid

def lxc_source_identity : Except String SourceIdentity :=
  identity (.container container) "lxc" (Guest.container container).vmid

def virtual_machine_source_identity : Except String SourceIdentity :=
  if vm.source = "esxi" then identity (.machine vm) "vm" (orText vm.external_id (Guest.machine vm).vmid)
  else qemu_source_identity vm

def nic_id : String := orText nic.external_id nic.name

def qemu_nic_source_identity : Except String SourceIdentity :=
  identity (.machine vm) "qemu-nic" ((Guest.machine vm).vmid ++ ":" ++ nic_id nic)

def virtual_machine_nic_source_identity : Except String SourceIdentity :=
  if vm.source = "esxi" then
    identity (.machine vm) "vm-nic" (orText vm.external_id (Guest.machine vm).vmid ++ ":" ++ nic_id nic)
  else qemu_nic_source_identity vm nic

def lxc_nic_source_identity : Except String SourceIdentity :=
  identity (.container container) "lxc-nic" ((Guest.container container).vmid ++ ":" ++ nic_id nic)

/-- The identity of a guest, as the review and the executor both build it. -/
def guest_source_identity : Guest → Except String SourceIdentity
  | .machine vm => virtual_machine_source_identity vm
  | .container container => lxc_source_identity container

/-- `builder(vm, nic)` in `nic_sync_identity_match_rank`. -/
def nic_source_identity : Guest → DiscoveredInterface → Except String SourceIdentity
  | .machine vm, nic => virtual_machine_nic_source_identity vm nic
  | .container container, nic => lxc_nic_source_identity container nic

section

-- `repr` of lists and dictionaries
variable (repr : Value → String)

/-- `SourceIdentity.from_record`: nothing for another schema, an error for a v2 record that is not one. -/
def from_record (value : Value) : Except String (Option SourceIdentity) :=
  match value with
  | .obj fields =>
    if dict.get fields "schema" ≠ some (.str IDENTITY_SCHEMA_V2) then .ok none
    else
      match dict.get fields "type", dict.get fields "instance", dict.get fields "kind",
          dict.get fields "external_id" with
      | some (.str type), some (.str inst), some (.str kind), some external_id =>
        match SourceIdentity.build type inst kind (external_id.pystr repr) with
        | .ok id => .ok (some id)
        | .error _ => .error "invalid source identity v2 record"
      | _, _, _, _ => .error "invalid source identity v2 record"
  | _ => .ok none

/-- The first loop of `source_identity_match_rank`: is one of the records the wanted v2 identity? -/
def has_v2_identity (desired : SourceIdentity) : List Value → Except String Bool
  | [] => .ok false
  | value :: values =>
    match from_record repr value with
    | .error error => .error error
    | .ok parsed => if parsed = some desired then .ok true else has_v2_identity desired values

/-- One record of the second loop: a record of another schema that names the source and one of the legacy ids. -/
def legacy_identity (desired : SourceIdentity) (legacy_source_ids : List String) : Value → Bool
  | .obj fields =>
    dict.get fields "schema" ≠ some (.str IDENTITY_SCHEMA_V2) &&
      dict.get fields "source" = some (.str desired.type) &&
      decide ((((dict.get fields "source_id").getD ((dict.get fields "id").getD .null)).pystr repr) ∈
        legacy_source_ids)
  | _ => false

/-- `dict(custom_fields or {}).get("sync_identities")`, where it is a list. -/
def sync_identities (custom_fields : Fields) : Option (List Value) :=
  match dict.get custom_fields "sync_identities" with
  | some (.arr identities) => some identities
  | _ => none

def source_identity_match_rank (custom_fields : Fields) (desired : SourceIdentity)
    (legacy_source_ids : List String) (legacy_identity_owner : Bool) : Except String Nat :=
  match sync_identities custom_fields with
  | none => .ok NO_IDENTITY_MATCH
  | some identities =>
    match has_v2_identity repr desired identities with
    | .error error => .error error
    | .ok true => .ok V2_IDENTITY_MATCH
    | .ok false =>
      if !legacy_identity_owner then .ok NO_IDENTITY_MATCH
      else if identities.any (legacy_identity repr desired legacy_source_ids) then
        .ok LEGACY_IDENTITY_MATCH
      else .ok NO_IDENTITY_MATCH

end

/-- The loop of `select_best_identity_matches`. -/
def select_loop {α : Type} (ranker : α → Except String Nat) (best_rank : Nat) (found : List α) :
    List α → Except String (List α)
  | [] => .ok found
  | candidate :: candidates =>
    match ranker candidate with
    | .error error => .error error
    | .ok rank =>
      if rank > best_rank then select_loop ranker rank [candidate] candidates
      else if rank ≠ 0 ∧ rank = best_rank then
        select_loop ranker best_rank (found ++ [candidate]) candidates
      else select_loop ranker best_rank found candidates

def select_best_identity_matches {α : Type} (candidates : List α) (ranker : α → Except String Nat) :
    Except String (List α) :=
  select_loop ranker NO_IDENTITY_MATCH [] candidates

end source_identity

open source_identity

/-- A source id without the mark of its own provider. -/
def strip_source (source source_id : String) : String :=
  let mark := (source ++ ":").toList
  if mark.isPrefixOf source_id.toList then String.ofList (source_id.toList.drop mark.length)
  else source_id

/-- Containers come here too, for their NICs. -/
def vm_identity_source_id (guest : Guest) : String := strip_source guest.source guest.source_id

def lxc_identity_source_id (container : DiscoveredContainer) : String :=
  strip_source container.source container.source_id

section

variable (repr : Value → String)

def vm_sync_identity_match_rank (custom_fields : Fields) (vm : DiscoveredVirtualMachine) : Except String Nat :=
  match virtual_machine_source_identity vm with
  | .error error => .error error
  | .ok desired =>
    source_identity_match_rank repr custom_fields desired
      [vm_identity_source_id (.machine vm), vm.source_id] vm.legacy_identity_owner

def lxc_sync_identity_match_rank (custom_fields : Fields) (container : DiscoveredContainer) : Except String Nat :=
  match lxc_source_identity container with
  | .error error => .error error
  | .ok desired =>
    source_identity_match_rank repr custom_fields desired [lxc_identity_source_id container]
      container.legacy_identity_owner

def guest_match_rank (custom_fields : Fields) : Guest → Except String Nat
  | .machine vm => vm_sync_identity_match_rank repr custom_fields vm
  | .container container => lxc_sync_identity_match_rank repr custom_fields container

end

/-- The legacy ids a guest is also matched by. -/
def guest_legacy_ids : Guest → List String
  | .machine vm => [vm_identity_source_id (.machine vm), vm.source_id]
  | .container container => [lxc_identity_source_id container]

theorem guest_match_rank_eq {repr : Value → String} {guest : Guest} {desired : SourceIdentity}
    (h : guest_source_identity guest = .ok desired) (custom_fields : Fields) :
    guest_match_rank repr custom_fields guest =
      source_identity_match_rank repr custom_fields desired (guest_legacy_ids guest)
        guest.legacy_identity_owner := by
  cases guest with
  | machine vm =>
    have hid : virtual_machine_source_identity vm = .ok desired := h
    simp [guest_match_rank, vm_sync_identity_match_rank, hid, guest_legacy_ids, Guest.legacy_identity_owner]
  | container c =>
    have hid : lxc_source_identity c = .ok desired := h
    simp [guest_match_rank, lxc_sync_identity_match_rank, hid, guest_legacy_ids, Guest.legacy_identity_owner]

end netbox_sync
