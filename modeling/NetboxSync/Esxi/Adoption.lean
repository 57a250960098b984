import NetboxSync.Esxi.Catalog
import NetboxSync.Lib.Claims
import NetboxSync.Lib.Except
import NetboxSync.Lib.Python
import NetboxSync.Sources.Config

open json sorting

namespace netbox_sync.source_identity

def host_source_identity (host : discovery.DiscoveredHost) : Except String SourceIdentity :=
  SourceIdentity.build host.source host.source_instance "host" host.source_id

end netbox_sync.source_identity

namespace netbox_sync.esxi_adoption

open discovery netbox source_identity source_config

inductive AdoptionClassification where
  | MANAGED
  | SAFE_ADOPTION_CANDIDATE
  | REVIEW_REQUIRED
  | AMBIGUOUS
  | UNMATCHED
  | RETAINED_NAME
deriving DecidableEq, Repr

/-- The exceptions a plan can end with. -/
inductive PlanError where
  | value_error (message : String)
  | type_error (message : String)
  | key_error
  | attribute_error
  | adoption_error (message : String)
  | placement_missing (message : String)
  | placement_ambiguous (message : String)
  | host_identity_changed
  | selectel_match (code : String)
deriving DecidableEq, Repr

def value_error {α : Type} : Except String α → Except PlanError α
  | .ok value => .ok value
  | .error message => .error (.value_error message)

theorem value_error_eq_ok_iff {α : Type} {x : Except String α} {value : α} :
    value_error x = .ok value ↔ x = .ok value := by
  cases x <;> simp [value_error]

/-- The snapshot is the sorted dump of the custom fields, kept as the document that reading it back gives. -/
structure AdoptionEvidence where
  object_id : Int
  object_name : String
  signals : List String
  conflicts : List String
  custom_fields_snapshot : Value
deriving DecidableEq

structure EsxiAdoptionItem where
  object_kind : Kind
  source_name : String
  identity : SourceIdentity
  classification : AdoptionClassification
  candidates : List AdoptionEvidence := []
  selected_object_id : Option Int := none
deriving DecidableEq

structure EsxiAdoptionPlan where
  source_instance : String
  site_id : Int
  cluster_id : Int
  items : List EsxiAdoptionItem
deriving DecidableEq

/-- What the planner takes from its surroundings: the runtime, and the devices that the typed hardware evidence of
    `selectel_host_match.matches` names. -/
structure Environment where
  py : python.Runtime
  selectel_matches : List Record → DiscoveredHost → Except PlanError (List Record)

def contains_v2_identity (record : Record) : Bool :=
  match dict.get record.custom_fields "sync_identities" with
  | none | some .null => false
  | some (.arr identities) => identities.any (fun item =>
    match item with
    | .obj fields => dict.get fields "schema" = some (.str IDENTITY_SCHEMA_V2)
    | _ => true)
  | some _ => true

section

variable (env : Environment) (nb : Catalog)

variable (discovered : Discovered) (record : Record)

def matches_identity (identity : SourceIdentity) : Except PlanError Bool :=
  match source_identity_match_rank env.py.repr record.custom_fields identity [] false with
  | .ok rank => .ok (rank = V2_IDENTITY_MATCH)
  | .error _ => .error (.adoption_error ("Invalid identity metadata on NetBox object id=" ++ toString record.id))

/-- `[record for record in all_records if _matches_identity(record, identity)]` -/
def managed_records (identity : SourceIdentity) : List Record → Except PlanError (List Record)
  | [] => .ok []
  | record :: records => do
    let held ← matches_identity env record identity
    let rest ← managed_records identity records
    .ok (if held then record :: rest else rest)

def evidence (exact_name : Bool) (matching_ips matching_macs conflicts : List String) : AdoptionEvidence where
  object_id := record.id
  object_name := record.name
  signals := (if exact_name then ["exact_name"] else []) ++
    (sorted id matching_ips).map ("ip:" ++ ·) ++ (sorted id matching_macs).map ("mac:" ++ ·)
  conflicts := conflicts
  custom_fields_snapshot := (Value.obj record.custom_fields).sort_keys

def exact_name : Bool := env.py.casefold record.name = env.py.casefold discovered.original_name

def matching_ips : List String :=
  (discovered_network discovered).1.filter (· ∈ (for_object nb discovered.kind record).1)

def matching_macs : List String :=
  (discovered_network discovered).2.filter (· ∈ (for_object nb discovered.kind record).2)

/-- `exact_name or matching_ips or matching_macs` -/
def related : Bool :=
  exact_name env discovered record || !(matching_ips nb discovered record).isEmpty ||
    !(matching_macs nb discovered record).isEmpty

def conflicts_with : List String :=
  let (live_ips, live_macs) := discovered_network discovered
  let (record_ips, record_macs) := for_object nb discovered.kind record
  (if !live_ips.isEmpty && !record_ips.isEmpty && (matching_ips nb discovered record).isEmpty then
      ["conflicting_ip"] else []) ++
    (if !live_macs.isEmpty && !record_macs.isEmpty && (matching_macs nb discovered record).isEmpty then
      ["conflicting_mac"] else []) ++
    (if contains_v2_identity record then ["existing_managed_identity"] else [])

def related_evidence : AdoptionEvidence :=
  evidence record (exact_name env discovered record) (matching_ips nb discovered record)
    (matching_macs nb discovered record) (conflicts_with nb discovered record)

/-- `signal.startswith(("ip:", "mac:"))` -/
def network_signal (signal : String) : Bool :=
  "ip:".toList.isPrefixOf signal.toList || "mac:".toList.isPrefixOf signal.toList

/-- The item of an object that no record is known to be. -/
def classify_related (identity : SourceIdentity) (target_records : List Record) : EsxiAdoptionItem :=
  let candidates := (target_records.filter (related env nb discovered)).map (related_evidence env nb discovered)
  let item : EsxiAdoptionItem :=
    { object_kind := discovered.kind, source_name := discovered.original_name, identity := identity,
      classification := .AMBIGUOUS, candidates := candidates }
  match candidates with
  | [] => { item with classification := .UNMATCHED }
  | [candidate] =>
    if candidate.conflicts ≠ [] then item
    else
      { item with
        classification := if candidate.signals.any network_signal then .SAFE_ADOPTION_CANDIDATE else .REVIEW_REQUIRED
        selected_object_id := some candidate.object_id }
  | _ :: _ :: _ => item

/-- The item of an object that some records are known to be. -/
def classify_managed (identity : SourceIdentity) (signals : List String) (target_records managed : List Record) :
    EsxiAdoptionItem :=
  let item : EsxiAdoptionItem :=
    { object_kind := discovered.kind, source_name := discovered.original_name, identity := identity,
      classification := .AMBIGUOUS,
      candidates := managed.map (fun record => { evidence record false [] [] [] with signals := signals }) }
  match managed with
  | [record] =>
    if record.id ∈ target_records.map Record.id then
      { item with classification := .MANAGED, selected_object_id := some record.id }
    else item
  | _ => item

/-- The devices the provider's evidence names, for a host nothing else is known of. -/
def provider_records (all_records : List Record) : Except PlanError (List Record) :=
  match discovered with
  | .host node => env.selectel_matches all_records node
  | .vm _ => .ok []

def classify (identity : SourceIdentity) (all_records target_records : List Record) :
    Except PlanError EsxiAdoptionItem := do
  let managed ← managed_records env identity all_records
  if managed ≠ [] then .ok (classify_managed discovered identity [] target_records managed)
  else
    let provided ← provider_records env discovered all_records
    if provided ≠ [] then
      .ok (classify_managed discovered identity ["selectel_hardware_identity"] target_records provided)
    else .ok (classify_related env nb discovered identity target_records)

end

variable (env : Environment) (nb : Catalog) (hosts : List DiscoveredHost) (config : CompleteSourceConfig)

/-- `nb_api.virtualization.clusters.filter(**cluster_filter(config.target))` -/
def filtered_clusters (target : NetBoxTargetConfig) : Except PlanError (List TypedCluster) :=
  match target.onboarding_mapping with
  | [] => .ok (nb.clusters.filter (fun cluster => cluster.name = target.cluster_name))
  | mapping =>
    match dict.get mapping "references" with
    | some (.obj references) =>
      match dict.get references "cluster" with
      | some (.obj cluster) =>
        match dict.get cluster "id" with
        | some (.int id) => .ok (nb.clusters.filter (fun cluster => cluster.id = id))
        | some _ => .ok []
        | none => .error .key_error
      | some _ => .error (.type_error "indices must be integers or slices")
      | none => .error .key_error
    | some _ => .error (.type_error "indices must be integers or slices")
    | none => .error .key_error

def resolve_target (target : NetBoxTargetConfig) : Except PlanError (Site × TypedCluster) :=
  match nb.sites.find? (fun site => site.slug = target.site_slug),
      nb.cluster_types.find? (fun cluster_type => cluster_type.slug = target.cluster_type_slug) with
  | some site, some cluster_type => do
    let filtered ← filtered_clusters nb target
    match filtered.filter (fun cluster => cluster.type = some cluster_type.id &&
        cluster.scope_type = some "dcim.site" && cluster.scope_id = some site.id) with
    | [] => .error (.placement_missing "Configured ESXi target cluster is absent or outside its scope")
    | [cluster] => .ok (site, cluster)
    | clusters => .error (.placement_ambiguous
        ("Expected exactly one ESXi adoption target cluster; found " ++ toString clusters.length))
  | _, _ => .error (.placement_missing "ESXi adoption target is incomplete")

/-- Each host and then its VMs, as the plan goes through them. -/
def objects : List Discovered := hosts.flatMap (fun host => .host host :: host.virtual_machines.map .vm)

def object_identity : Discovered → Except String SourceIdentity
  | .host node => host_source_identity node
  | .vm guest => virtual_machine_source_identity guest

def target_devices (site cluster : Int) : List Record :=
  (nb.devices.rows.filter (fun device => device.site = some site && (device.cluster = some cluster ||
    (device.cluster = none && ((dict.get device.custom_fields "selectel_refs").getD .null).truthy)))).map
      device_record

def target_vms (cluster : Int) : List Record :=
  (nb.vms.rows.filter (fun vm => vm.cluster = some cluster)).map vm_record

def target_records (site cluster : Int) : Kind → List Record
  | .host => target_devices nb site cluster
  | .vm => target_vms nb cluster

/-- The values `for raw in identities or []` goes through; the characters of a text and the keys of a dictionary are
    no identity records. -/
def iterated (identities : Value) : Except PlanError (List Value) :=
  match identities with
  | .arr values => .ok values
  | .str text => .ok (text.toList.map (fun c => .str (String.singleton c)))
  | .obj fields => .ok (fields.map (fun field => .str field.1))
  | other => if other.truthy then .error (.type_error "object is not iterable") else .ok []

/-- The loop that keeps a new hardware id from replacing an owned one. -/
def check_host_identities (source_instance : String) (hosts : List DiscoveredHost) : List Record → Except PlanError Unit
  | [] => .ok ()
  | record :: records => do
    let values ← iterated ((dict.get record.custom_fields "sync_identities").getD .null)
    values.forM (fun raw => do
      let identity ← value_error (from_record env.py.repr raw)
      if identity.any (fun identity => identity.type = "esxi" && identity.instance = source_instance &&
          identity.kind = "host" && !(hosts.map DiscoveredHost.source_id).contains identity.external_id) then
        .error .host_identity_changed
      else .ok ())
    check_host_identities source_instance hosts records

/-- The source of a host is checked; its VMs are taken with it. -/
def in_scope : Discovered → Bool
  | .host node => node.source = "esxi" && node.source_instance = config.source_instance
  | .vm _ => true

def classify_object (site cluster : Int) (discovered : Discovered) : Except PlanError EsxiAdoptionItem := do
  Except.require (in_scope config discovered) (.adoption_error "Discovered object is outside ESXi source scope")
  let identity ← value_error (object_identity discovered)
  classify env nb discovered identity (nb.records discovered.kind) (target_records nb site cluster discovered.kind)

/-- `(item.object_kind, candidate.object_id)` for each candidate. -/
def claimed_objects (item : EsxiAdoptionItem) : List (Kind × Int) :=
  item.candidates.map (fun candidate => (item.object_kind, candidate.object_id))

def make_ambiguous (item : EsxiAdoptionItem) : EsxiAdoptionItem :=
  { item with classification := .AMBIGUOUS, selected_object_id := none }

def mark_shared_claims_ambiguous (items : List EsxiAdoptionItem) : List EsxiAdoptionItem :=
  claims.markShared claimed_objects make_ambiguous items

/-- The identities a snapshot of custom fields holds. -/
def snapshot_identities (snapshot : Value) : Except PlanError (List (Option SourceIdentity)) :=
  match snapshot with
  | .obj fields =>
    match (dict.get fields "sync_identities").getD (.arr []) with
    | .arr raw => raw.mapM (fun value => value_error (from_record env.py.repr value))
    | _ => .ok []
  | _ => .error .attribute_error

/-- The only identity is one of this source's, of a VM that is not there any more. -/
def absent_generation (live_ids : List SourceIdentity) (identity : SourceIdentity) : List (Option SourceIdentity) → Bool
  | [some owned] => owned.type = identity.type && owned.instance = identity.instance && owned.kind = "vm" &&
      !live_ids.contains owned
  | _ => false

def isolated_conflicts : List String := ["existing_managed_identity", "conflicting_ip", "conflicting_mac"]

def isolate (live_ids : List SourceIdentity) (item : EsxiAdoptionItem) : Except PlanError EsxiAdoptionItem :=
  match item.object_kind, item.classification, item.candidates with
  | .vm, .AMBIGUOUS, [candidate] => do
    let identities ← snapshot_identities env candidate.custom_fields_snapshot
    if candidate.signals = ["exact_name"] ∧ "existing_managed_identity" ∈ candidate.conflicts ∧
        candidate.conflicts ⊆ isolated_conflicts ∧ absent_generation live_ids item.identity identities then
      .ok { item with classification := .RETAINED_NAME }
    else .ok item
  | _, _, _ => .ok item

def live_vms : List DiscoveredVirtualMachine := hosts.flatMap DiscoveredHost.virtual_machines

def build_esxi_adoption_plan : Except PlanError EsxiAdoptionPlan := do
  Except.require (config.source_type = "esxi") (.value_error "ESXi adoption requires source_type=esxi")
  let (site, cluster) ← resolve_target nb config.target
  check_host_identities env config.source_instance hosts (nb.records .host)
  let items ← (objects hosts).mapM (classify_object env nb config site.id cluster.id)
  let live_ids ← (live_vms hosts).mapM (fun vm => value_error (virtual_machine_source_identity vm))
  let isolated ← (mark_shared_claims_ambiguous items).mapM (isolate env live_ids)
  .ok { source_instance := config.source_instance, site_id := site.id, cluster_id := cluster.id, items := isolated }

end netbox_sync.esxi_adoption
