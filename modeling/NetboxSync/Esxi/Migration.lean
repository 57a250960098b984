import NetboxSync.Esxi.Adoption
import NetboxSync.Network.Metadata

open sorting

namespace netbox_sync.esxi_migration

open discovery netbox source_identity source_config esxi_adoption netbox_vm_interface_metadata

inductive ObjectMigrationClassification where
  | MANAGED
  | NEW
  | REVIEW_REQUIRED
  | SAFE_LEGACY_CANDIDATE
  | AMBIGUOUS
deriving DecidableEq, Repr

inductive InterfaceMigrationClassification where
  | MATCH_EXISTING
  | SAFE_RENAME_OR_REUSE_CANDIDATE
  | CREATE
  | AMBIGUOUS
  | CONFLICT
deriving DecidableEq, Repr

structure ObjectCandidate where
  object_id : Int
  object_name : String
  signals : List String
  conflicts : List String
deriving DecidableEq

structure InterfaceCandidate where
  parent_id : Option Int
  parent_name : String
  interface_id : Int
  interface_name : String
  signals : List String
  conflicts : List String
  current_ips : List String
  current_macs : List String
  current_ip_assignments : List (Int × String)
  current_mac_assignments : List (Int × String)
deriving DecidableEq

structure InterfaceMigrationItem where
  discovered_name : String
  discovered_external_id : Option String
  discovered_ips : List String
  discovered_mac : Option String
  classification : InterfaceMigrationClassification
  candidates : List InterfaceCandidate := []
  conflicts : List String := []
deriving DecidableEq

/-- `HostMigrationItem` and `VirtualMachineMigrationItem`. -/
structure ObjectMigrationItem where
  discovered_name : String
  external_id : String
  classification : ObjectMigrationClassification
  candidates : List ObjectCandidate
  interfaces : List InterfaceMigrationItem
deriving DecidableEq

structure EsxiMigrationPlan where
  source_instance : String
  site_id : Int
  cluster_id : Int
  hosts : List ObjectMigrationItem
  virtual_machines : List ObjectMigrationItem
deriving DecidableEq

/-- One assignment of an address to an object, and the record that makes it. -/
structure Assignment where
  address : String
  assigned : Assigned
  record_id : Int
deriving DecidableEq

section

variable (nb : Catalog)

def ip_assignments : List Assignment :=
  nb.ips.rows.filterMap (fun record =>
    (canonical_ip record.address).bind (fun address =>
      if record.assigned_object = {} then none else some ⟨address, record.assigned_object, record.id⟩))

def mac_assignments : List Assignment :=
  nb.macs.rows.filterMap (fun record =>
    (canonical_mac record.mac_address).bind (fun address =>
      if record.assigned_object = {} then none else some ⟨address, record.assigned_object, record.id⟩))

def owned_interfaces (kind : Kind) (parent_id : Int) : List Port :=
  (nb.ports kind).filter (fun port => port.parent = some parent_id)

/-- The assignments one interface has. -/
def assigned_to (kind : Kind) (port : Port) (assignments : List Assignment) : List Assignment :=
  assignments.filter (fun assignment => assignment.assigned = ⟨some (assigned_type kind), some port.id⟩)

/-- `_current_network`, for the assignments of one of the two kinds. -/
def current_network (kind : Kind) (port : Port) (assignments : List Assignment) : List String :=
  sorted id ((assigned_to kind port assignments).map Assignment.address).dedup

def current_assignments (kind : Kind) (port : Port) (assignments : List Assignment) : List (Int × String) :=
  sorted (fun item => toLex (toString item.1, item.2))
    ((assigned_to kind port assignments).map (fun assignment =>
      (assignment.record_id, assignment.address))).dedup

def parent_name (kind : Kind) (parent_id : Option Int) : String :=
  match parent_id.bind (fun id => (nb.records kind).find? (fun record => record.id = id)) with
  | some parent => parent.name
  | none => "id=" ++ (parent_id.map toString).getD "None"

def candidate (kind : Kind) (port : Port) (signals conflicts : List String) : InterfaceCandidate where
  parent_id := port.parent
  parent_name := parent_name nb kind port.parent
  interface_id := port.id
  interface_name := port.name
  signals := sorted id signals
  conflicts := sorted id conflicts
  current_ips := current_network kind port (ip_assignments nb)
  current_macs := current_network kind port (mac_assignments nb)
  current_ip_assignments := current_assignments kind port (ip_assignments nb)
  current_mac_assignments := current_assignments kind port (mac_assignments nb)

end

/-- A discovered interface of a host or of a VM. -/
inductive DiscoveredPort where
  | host (interface : DiscoveredHostInterface)
  | vm (interface : DiscoveredInterface)

def DiscoveredPort.name : DiscoveredPort → String
  | .host interface => interface.name
  | .vm interface => interface.name

def DiscoveredPort.external_id : DiscoveredPort → Option String
  | .host _ => none
  | .vm interface => interface.external_id

def discovered_interface_network (interface : DiscoveredPort) (extra_ips : List String) : List String × Option String :=
  let (addresses, mac_address) := match interface with
    | .host interface => (interface.addresses, interface.mac_address)
    | .vm interface => (interface.ip_addresses, interface.mac_address)
  (sorted id ((addresses ++ extra_ips).filterMap (fun value => canonical_ip (some value))).dedup,
    canonical_mac mac_address)

/-- One piece of network evidence, as a signal and an assignment that has it. -/
abbrev Found := String × Assignment

/-- The signals of a discovered interface with all their assignments. -/
def network_values (nb : Catalog) (discovered_ips : List String) (discovered_mac : Option String) : List (List Found) :=
  discovered_ips.map (fun address => ((ip_assignments nb).filter (fun assignment =>
      assignment.address = address)).map (fun assignment => ("ip:" ++ address, assignment))) ++
    discovered_mac.toList.map (fun address => ((mac_assignments nb).filter (fun assignment =>
      assignment.address = address)).map (fun assignment => ("mac:" ++ address, assignment)))

/-- The interface an assignment names, where it is one of the kind and exists. -/
def hit_port (nb : Catalog) (kind : Kind) (assigned : Assigned) : Option Port :=
  if assigned.type = some (assigned_type kind) then
    assigned.id.bind (fun id => (nb.ports kind).find? (fun port => port.id = id))
  else none

/-- Why an assignment names no interface of the kind. -/
def hit_conflict (kind : Kind) (found : Found) : String :=
  match found.2.assigned with
  | ⟨type, some id⟩ =>
    if type = some (assigned_type kind) then
      found.1 ++ " references missing interface id=" ++ toString id
    else found.1 ++ " assigned to " ++ type.getD "None" ++ ":" ++ toString id
  | ⟨type, none⟩ => found.1 ++ " assigned to " ++ type.getD "None" ++ ":None"

structure Hit where
  port : Port
  signals : List String
deriving DecidableEq

structure NetworkHits where
  hits : List Hit
  conflicts : List String
  duplicate : Bool

def network_hits (nb : Catalog) (kind : Kind) (discovered_ips : List String) (discovered_mac : Option String) :
    NetworkHits :=
  let values := network_values nb discovered_ips discovered_mac
  let ports := (values.flatten.filterMap (fun found => hit_port nb kind found.2.assigned)).eraseDups
  { hits := ports.map (fun port => ⟨port, ((values.flatten.filter (fun found =>
      hit_port nb kind found.2.assigned = some port)).map Prod.fst).dedup⟩)
    conflicts := sorted id (((values.flatten.filter (fun found =>
      hit_port nb kind found.2.assigned = none)).map (hit_conflict kind)).dedup)
    duplicate := values.any (fun assignments => 1 < assignments.length) }

section

variable (env : Environment) (nb : Catalog)

def correlate_interface (kind : Kind) (parent_id : Int) (discovered : DiscoveredPort) (extra_ips : List String)
    (identity_matches : List Port) : InterfaceMigrationItem :=
  let (discovered_ips, discovered_mac) := discovered_interface_network discovered extra_ips
  let item (classification : InterfaceMigrationClassification) (candidates : List InterfaceCandidate)
      (conflicts : List String) : InterfaceMigrationItem :=
    { discovered_name := discovered.name, discovered_external_id := discovered.external_id,
      discovered_ips := discovered_ips, discovered_mac := discovered_mac, classification := classification,
      candidates := candidates, conflicts := conflicts }
  match identity_matches with
  | _ :: _ :: _ =>
    item .AMBIGUOUS (identity_matches.map (fun port => candidate nb kind port ["source_identity_v2"] []))
      ["duplicate interface identity"]
  | [port] => item .MATCH_EXISTING [candidate nb kind port ["source_identity_v2"] []] []
  | [] =>
    let found := network_hits nb kind discovered_ips discovered_mac
    let owned := (owned_interfaces nb kind parent_id).map Port.id
    let foreign := found.hits.filter (fun hit => hit.port.id ∉ owned)
    let near := found.hits.filter (fun hit => hit.port.id ∈ owned)
    let all_candidates := near.map (fun hit => candidate nb kind hit.port hit.signals []) ++
      foreign.map (fun hit => candidate nb kind hit.port hit.signals ["foreign_parent"])
    if found.conflicts ≠ [] ∨ foreign ≠ [] then
      item .CONFLICT all_candidates
        (if found.conflicts ≠ [] then found.conflicts else ["network evidence belongs to another object"])
    else if found.duplicate then item .AMBIGUOUS all_candidates ["duplicate network evidence"]
    else
      match near with
      | _ :: _ :: _ => item .AMBIGUOUS all_candidates ["duplicate network evidence"]
      | [hit] =>
        item (if env.py.casefold hit.port.name = env.py.casefold discovered.name then .MATCH_EXISTING
          else .SAFE_RENAME_OR_REUSE_CANDIDATE) [candidate nb kind hit.port hit.signals []] []
      | [] =>
        match (owned_interfaces nb kind parent_id).filter (fun port =>
            env.py.casefold port.name = env.py.casefold discovered.name) with
        | [] => item .CREATE [] []
        | [port] => item .MATCH_EXISTING [candidate nb kind port ["exact_name"] []] []
        | exact_names =>
          item .AMBIGUOUS (exact_names.map (fun port => candidate nb kind port ["exact_name"] []))
            ["duplicate interface names"]

end

/-- The classifications that refer to an interface to be kept. -/
def InterfaceMigrationItem.refers (item : InterfaceMigrationItem) : Bool :=
  item.classification = .MATCH_EXISTING || item.classification = .SAFE_RENAME_OR_REUSE_CANDIDATE

def InterfaceMigrationItem.interface_ids (item : InterfaceMigrationItem) : List Int :=
  item.candidates.map InterfaceCandidate.interface_id

def claimed_interfaces (item : InterfaceMigrationItem) : List Int := if item.refers then item.interface_ids else []

def make_interface_ambiguous (item : InterfaceMigrationItem) : InterfaceMigrationItem :=
  { item with
    classification := .AMBIGUOUS
    conflicts := sorted id (item.conflicts ++ ["shared interface claim"]).dedup }

def mark_shared_interface_claims (items : List InterfaceMigrationItem) : List InterfaceMigrationItem :=
  claims.markShared claimed_interfaces make_interface_ambiguous items

/-- `_OBJECT_CLASSIFICATIONS` -/
def object_classification : AdoptionClassification → ObjectMigrationClassification
  | .RETAINED_NAME => .REVIEW_REQUIRED
  | .MANAGED => .MANAGED
  | .SAFE_ADOPTION_CANDIDATE => .SAFE_LEGACY_CANDIDATE
  | .REVIEW_REQUIRED => .REVIEW_REQUIRED
  | .AMBIGUOUS => .AMBIGUOUS
  | .UNMATCHED => .NEW

def object_candidates (item : EsxiAdoptionItem) : List ObjectCandidate :=
  item.candidates.map (fun candidate =>
    ⟨candidate.object_id, candidate.object_name, candidate.signals, candidate.conflicts⟩)

/-- `adoption_by_identity[identity]`, where the last item of an identity counts. -/
def adoption_by_identity (items : List EsxiAdoptionItem) (identity : SourceIdentity) :
    Except PlanError EsxiAdoptionItem :=
  match items.reverse.find? (fun item => item.identity = identity) with
  | some item => .ok item
  | none => .error .key_error

section

variable (env : Environment) (nb : Catalog)

/-- The interfaces of a managed host, each on its own. -/
def host_interfaces (host : DiscoveredHost) (selected : Option Int) : Except PlanError (List InterfaceMigrationItem) :=
  match selected.bind nb.devices.get with
  | none => if host.interfaces = [] then .ok [] else .error .attribute_error
  | some device => .ok (host.interfaces.map (fun interface =>
      let extra_ips := if interface.management then host.management_ip.toList.filter (· ≠ "") else []
      correlate_interface env nb .host device.id (.host interface) extra_ips []))

/-- The interfaces of a managed VM, each on its own. -/
def vm_interfaces (vm : DiscoveredVirtualMachine) (selected : Option Int) :
    Except PlanError (List InterfaceMigrationItem) :=
  match selected.bind nb.vms.get with
  | none => .error .attribute_error
  | some netbox_vm =>
    let existing := nb.vm_interfaces.rows.filter (fun row => row.virtual_machine = some netbox_vm.id)
    vm.interfaces.mapM (fun interface => do
      let identity_matches ← value_error (find_nic_sync_identity_matches env.py existing (.machine vm) interface)
      .ok (correlate_interface env nb .vm netbox_vm.id (.vm interface) [] (identity_matches.map vm_port)))

def managed_interfaces (discovered : Discovered) (selected : Option Int) :
    Except PlanError (List InterfaceMigrationItem) :=
  match discovered with
  | .host node => host_interfaces env nb node selected
  | .vm guest => vm_interfaces env nb guest selected

/-- Only a managed object's interfaces are looked at. -/
def object_interfaces (discovered : Discovered) (item : EsxiAdoptionItem) :
    Except PlanError (List InterfaceMigrationItem) :=
  if item.classification = .MANAGED then managed_interfaces env nb discovered item.selected_object_id
  else .ok []

def object_external_id : Discovered → String
  | .host node => node.source_id
  | .vm guest => orText guest.external_id (Guest.machine guest).vmid

def migrate_object (adoption : EsxiAdoptionPlan) (discovered : Discovered) :
    Except PlanError (Kind × ObjectMigrationItem) := do
  let identity ← value_error (object_identity discovered)
  let item ← adoption_by_identity adoption.items identity
  let interfaces ← object_interfaces env nb discovered item
  .ok (discovered.kind,
    { discovered_name := discovered.original_name
      external_id := object_external_id discovered
      classification := object_classification item.classification
      candidates := object_candidates item
      interfaces := mark_shared_interface_claims interfaces })

def of_kind (kind : Kind) (results : List (Kind × ObjectMigrationItem)) : List ObjectMigrationItem :=
  (results.filter (fun result => result.1 = kind)).map Prod.snd

def build_esxi_migration_plan (hosts : List DiscoveredHost) (config : CompleteSourceConfig) :
    Except PlanError EsxiMigrationPlan := do
  let adoption ← build_esxi_adoption_plan env nb hosts config
  let results ← (objects hosts).mapM (migrate_object env nb adoption)
  .ok { source_instance := config.source_instance, site_id := adoption.site_id,
        cluster_id := adoption.cluster_id, hosts := of_kind .host results,
        virtual_machines := of_kind .vm results }

end

end netbox_sync.esxi_migration
