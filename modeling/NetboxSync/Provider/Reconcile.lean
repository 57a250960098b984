import NetboxSync.Provider.Evidence

open json sorting

namespace netbox_guard.provider_reconcile

open netbox_sync.hardware_identity provider_policy provider_guest_evidence provider_automation

/-- A device or a VM of the NetBox. The serial is the device's, the device the one that a VM runs on; the addresses
    are its primary ones. -/
structure Target where
  resource : Resource
  pk : Int
  name : Option String
  custom_field_data : Fields := []
  serial : String := ""
  device_id : Option Int := none
  created : Int := 0
  primary_ips : List String := []
  pk_pos : 0 < pk

/-- A target by its kind and its key. -/
abbrev TargetId := Resource × Int

def Target.tid (target : Target) : TargetId := (target.resource, target.pk)

structure ProviderInventory where
  provider_key : String
  account : String
  snapshot : Value
  observed_at : Int

structure ProviderBinding where
  provider_key : String
  resource : Resource
  object_id : Int
  object_created : Int

structure VMInterface where
  pk : Int
  virtual_machine_id : Int
  mac_address : Option String

/-- An address that is assigned to an interface, with the owner of the interface. -/
structure AssignedAddress where
  ip : String
  owner : Option TargetId

structure ProviderInventoryImport where
  account : String
  result : Fields
  created_at : Int

/-- The tables a review reads. The targets are the devices and then the VMs, both in the order of their keys. -/
structure Content where
  fenced : List String
  detached : List (String × String)
  inventory : List ProviderInventory
  bindings : List ProviderBinding
  targets : List Target
  vm_interfaces : List VMInterface
  addresses : List AssignedAddress
  imports : List ProviderInventoryImport
  binding_keys : (bindings.map ProviderBinding.provider_key).Nodup
  target_ids : (targets.map Target.tid).Nodup

inductive Action where
  | blocked
  | unchanged
  | bind
  | create
  | detached
deriving DecidableEq, Repr

structure CandidateEvidence where
  stable_identity : Bool
  hardware_conflict : Bool
  same_name : Bool
  public_ips : List String
  observed_guest_wans : List GuestWan
deriving DecidableEq

structure Candidate where
  resource : Resource
  id : Int
  name : Option String
  host_device_id : Option Int
  evidence : CandidateEvidence
deriving DecidableEq

structure Facts where
  name : String
  serial : String
  hardware_identity : Value
  addresses : List String
  location : Value
deriving DecidableEq

structure GroupMember where
  resource : Resource
  id : Int
  public_ips : List String
deriving DecidableEq

structure Plan where
  key : String
  name : String
  resource : Resource
  action : Action := .blocked
  reason : String := ""
  candidates : List Candidate := []
  info : Facts
  ignored_address_matches : List (String × List TargetId) := []
  host_groups : List (Int × Option String × List GroupMember) := []
  provider_state : Value := .null
  native_status : Option String := none
  object_id : Option Int := none
  native_name : String := ""
deriving DecidableEq

def Plan.block (plan : Plan) (reason : String) : Plan := { plan with action := .blocked, reason := reason }

def VM_STATES : List (String × String) :=
  [("ACTIVE", "active"), ("SHUTOFF", "offline"), ("SHELVED", "offline"), ("SHELVED_OFFLOADED", "offline"),
    ("ERROR", "failed")]

section facts

variable (rt : Runtime) (now : Int)

/-- `obj(row, name)`, `items(row, name)`: the data of a section. -/
def data_of (sections : Value) (name : String) : Except ReadError Value := do
  let part := (← lookup sections name).getD (.obj [])
  .ok ((← lookup part "data").getD .null)

def obj (sections : Value) (name : String) : Except ReadError Fields := do
  match ← data_of sections name with
  | .obj fields => .ok fields
  | _ => .ok []

def items (sections : Value) (name : String) : Except ReadError (List Value) := do
  match ← data_of sections name with
  | .arr values => .ok values
  | _ => .ok []

/-- `str(v["ip"])`, where it is given. -/
def item_ip (item : Value) : Except ReadError (Option Value) := do
  match (← lookup item "ip").filter Value.truthy with
  | some ip => .ok (some (.str (ip.pystr rt.repr)))
  | none => .ok none

/-- `v["addr"]`, where it is given and can be a member of a set. -/
def item_addr (item : Value) : Except ReadError (Option Value) := do
  match (← lookup item "addr").filter Value.truthy with
  | some (.arr _) | some (.obj _) => .error .type_error
  | addr => .ok addr

/-- The members of a port list; a dictionary gives its keys, which have no address. -/
def port_values : Value → Except ReadError (List Value)
  | .arr values => .ok values
  | .obj [] | .str "" => .ok []
  | .obj _ | .str _ => .error .attribute_error
  | _ => .error .type_error

/-- The first of the values that is true, or the last. -/
def first_true : List (Option Value) → Value
  | [] => .null
  | [last] => last.getD .null
  | value :: values => if (value.getD .null).truthy then value.getD .null else first_true values

/-- What is read of one resource. A name that is no text fails here, before its first use does. -/
def facts (snapshot : Value) (observed_at : String) : Except ReadError Facts := do
  let sections ← index snapshot "sections"
  let ident ← index snapshot "identity"
  let resource ← obj sections "resource"
  let hardware ← selectel_observation rt sections observed_at
  let serial := (values_of .system_serial (tokens rt now hardware)).head?.getD ""
  let public_ips ← (← items sections "public_ips").mapM (item_ip rt)
  let private_ips ← (← items sections "private_ips").mapM (item_ip rt)
  let ports ← (← obj sections "addresses").mapM (fun entry => port_values entry.2)
  let addrs ← ports.flatten.mapM item_addr
  let normalized := ((public_ips ++ private_ips ++ addrs).filterMap id).filterMap (fun value =>
    (ip_interface_of value).map ip_text)
  let placement ← obj sections "placement"
  let native_id ← index ident "native_id"
  match first_true [dict.get resource "name", dict.get resource "user_desc", some native_id] with
  | .str name =>
    .ok { name := name, serial := python.strip serial, hardware_identity := hardware,
          addresses := sorted id normalized.dedup,
          location := first_true [dict.get placement "name", dict.get placement "OS-EXT-AZ:availability_zone",
            ← lookup ident "region"] }
  | _ => .error .attribute_error

end facts

section targets

variable (rt : Runtime) (content : Content) (now : Int)

def custom_field (target : Target) (key : String) : Value := (dict.get target.custom_field_data key).getD .null

def target_index (tid : TargetId) : Option Target := content.targets.find? (fun target => target.tid = tid)

/-- `guest_interfaces`: the current interfaces of a VM with their MACs. -/
def guest_interfaces (vm_id : Int) (interface_id : Int) : Option String :=
  (content.vm_interfaces.find? (fun row => row.virtual_machine_id = vm_id && row.pk = interface_id)).bind
    VMInterface.mac_address

/-- The WANs of all guests that run on a device of this NetBox. -/
def observed_wans : List GuestWan :=
  content.targets.flatMap (fun target =>
    match target.resource, target.device_id with
    | .vm, some host_id =>
      if (target_index content (.device, host_id)).isSome then
        guest_wans rt (custom_field target "pfsense_network") target.pk host_id
          (guest_interfaces content target.pk) now
      else []
    | _, _ => [])

/-- The targets that hold an address. -/
def address_targets (address : String) : List TargetId :=
  ((content.targets.filter (fun target => target.primary_ips.contains address)).map Target.tid ++
    (content.addresses.filter (fun row => row.ip = address)).filterMap AssignedAddress.owner).dedup

/-- `ipaddress.ip_address(address).is_global` -/
def address_is_global (address : String) : Bool := (ipaddress.ip_interface address).any ip_is_global

/-- The keys the latest import of the account has retained without seeing them. -/
def missing (account : String) : Except ReadError (List String) :=
  let rows := content.imports.filter (fun row =>
    row.account = account && (dict.get row.result "registry_updated").isSome)
  match (sorted (fun row => -row.created_at) rows).head? with
  | none => .ok []
  | some latest =>
    match (dict.get latest.result "missing_retained").getD (.arr []) with
    | .arr keys => .ok (keys.filterMap (fun key => match key with | .str key => some key | _ => none))
    | _ => .error .type_error

/-- What one target has to say about a resource. -/
structure TargetEvidence where
  strong : Bool
  conflict : Bool
  named : Bool

/-- The verdict of the hardware of a device on a server of the provider. -/
def hardware_verdict (provider_tokens : List Token) (target : Target) : Except ReadError Verdict := do
  let observed := custom_field target "hardware_identity"
  let observation := if observed.truthy then observed else .obj []
  let host_tokens := tokens rt now observation ++
    (((canonical rt .system_serial (.str target.serial)).filter (· ≠ "")).map (fun serial =>
      (TokenKind.system_serial, serial))).toList
  let verdict := compare provider_tokens host_tokens
  if (← lookup observation "status") = some (.str "conflict") && verdict = .match then .ok .conflict
  else .ok verdict

variable (native_kind : Resource) (provider_key : String) (info : Facts)

/-- One of the stored references names exactly this resource. -/
def referred (target : Target) : Except ReadError Bool :=
  match custom_field target "selectel_refs" with
  | .arr refs => .ok (refs.any (fun ref =>
      match ref with
      | .obj fields =>
        dict.get fields "provider" = some (.str "selectel") &&
          (match IDENTITY_FIELDS.mapM (fun key => (dict.get fields key).map (fun value => (key, value))) with
            | some parts => match identity (.obj parts) target.resource with
              | .ok key => key = provider_key
              | .error _ => false
            | none => false)
      | _ => false))
  | .obj _ | .str _ => .ok false
  | other => if other.truthy then .error .type_error else .ok false

/-- Hardware is compared between devices only. -/
def verdict_of (target : Target) : Except ReadError Verdict :=
  if target.resource = .device ∧ native_kind = .device then
    hardware_verdict rt now (tokens rt now info.hardware_identity) target
  else .ok .none

def target_evidence (target : Target) : Except ReadError TargetEvidence := do
  let verdict ← verdict_of rt now native_kind info target
  let referred ← referred provider_key target
  .ok { strong := verdict = .match || (referred && target.resource = native_kind)
        conflict := verdict = .conflict
        named := target.name.any (fun name => name ≠ "" && rt.casefold name = rt.casefold info.name) }

/-- The WANs seen at the addresses of a server. -/
def guest_evidence : List GuestWan :=
  match native_kind with
  | .device => info.addresses.flatMap (fun address =>
      (observed_wans rt content now).filter (fun wan => wan.address = address))
  | .vm => []

/-- The targets that the addresses of a resource point to. -/
def address_possible : List TargetId :=
  (guest_evidence rt content now native_kind info).flatMap (fun wan =>
    [(.vm, wan.vm_id), (.device, wan.host_device_id)]) ++
    (info.addresses.filter address_is_global).flatMap (address_targets content)

/-- What is known about a resource that has no binding yet. -/
structure Findings where
  strong : List TargetId
  possible : List TargetId
  conflicts : List TargetId

def findings : Except ReadError Findings := do
  let found ← content.targets.mapM (fun target => do
    let evidence ← target_evidence rt now native_kind provider_key info target
    .ok (target.tid, evidence))
  .ok { strong := (found.filter (fun entry => entry.2.strong)).map Prod.fst
        possible := (found.filter (fun entry => entry.2.conflict || entry.2.named)).map Prod.fst ++
          address_possible rt content now native_kind info
        conflicts := (found.filter (fun entry => entry.2.conflict)).map Prod.fst }

def public_ips (tid : TargetId) : List String :=
  info.addresses.filter (fun address => address_is_global address && (address_targets content address).contains tid)

def candidate_of (found : Findings) (target : Target) : Candidate where
  resource := target.resource
  id := target.pk
  name := target.name
  host_device_id := match target.resource with
    | .device => some target.pk
    | .vm => target.device_id
  evidence :=
    { stable_identity := found.strong.contains target.tid
      hardware_conflict := found.conflicts.contains target.tid
      same_name := rt.casefold (target.name.getD "") = rt.casefold info.name
      public_ips := public_ips content info target.tid
      observed_guest_wans := (guest_evidence rt content now native_kind info).filter (fun wan =>
        match target.resource with
        | .vm => wan.vm_id = target.pk
        | .device => wan.host_device_id = target.pk) }

/-- The candidates, in the order of the targets. -/
def candidates_of (found : Findings) : Except ReadError (List Candidate) :=
  if (found.possible ++ found.strong).all (fun tid => (target_index content tid).isSome) then
    .ok ((content.targets.filter (fun target => (found.possible ++ found.strong).contains target.tid)).map
      (candidate_of rt content now native_kind info found))
  else .error .key_error

/-- The candidates that share a physical host. -/
def host_groups (candidates : List Candidate) : List (Int × Option String × List GroupMember) :=
  let hosts := (candidates.filterMap (fun row => row.host_device_id.filter (fun id =>
    id ≠ 0 && (target_index content (.device, id)).isSome))).dedup
  (sorted id hosts).map (fun host => (host, (target_index content (.device, host)).bind Target.name,
    (candidates.filter (fun row => row.host_device_id = some host)).map (fun row =>
      ⟨row.resource, row.id, row.evidence.public_ips⟩)))

def ignored_address_matches : List (String × List TargetId) :=
  (info.addresses.filter (fun address => !address_is_global address)).filterMap (fun address =>
    match address_targets content address with
    | [] => none
    | found => some (address, content.targets.filterMap (fun target =>
        if found.contains target.tid then some target.tid else none)))

end targets

/-- `(binding.resource, binding.object_id)` of every binding. -/
def bound_targets (content : Content) : List TargetId :=
  content.bindings.map (fun binding => (binding.resource, binding.object_id))

/-- `provider_automation.candidate`: the only target of the kind, where the others are the guests on it and an address
    points to it. -/
def candidate (resource : Resource) (candidates : List Candidate) (bound : List TargetId) : Option Int :=
  match candidates.filter (fun row => row.resource = resource) with
  | [target] =>
    if bound.contains (target.resource, target.id) ||
        candidates.any (fun row => row.evidence.hardware_conflict) then none
    else if candidates.any (fun row => row ≠ target &&
        (target.resource ≠ .device || row.host_device_id ≠ some target.id)) then none
    else if target.evidence.public_ips ≠ [] || target.evidence.observed_guest_wans ≠ [] then some target.id
    else none
  | _ => none

section decisions

variable (rt : Runtime) (content : Content) (now : Int)

/-- The decision on an unbound resource before any of the rules that block it. -/
def decided (snapshot : Value) (found : Findings) (plan : Plan) : Except ReadError Plan := do
  let ident ← index snapshot "identity"
  let native_id ← index ident "native_id"
  match found.strong.dedup with
  | [tid] =>
    if found.possible.all (fun other => other = tid) && !(bound_targets content).contains tid then
      .ok { plan with action := .bind, reason := "stable_identity", object_id := some tid.2 }
    else .ok { plan with reason := "identity_needs_confirmation" }
  | _ :: _ :: _ => .ok { plan with reason := "identity_needs_confirmation" }
  | [] =>
    match candidate plan.resource plan.candidates (bound_targets content) with
    | some id => .ok { plan with action := .bind, reason := "unambiguous_network_identity", object_id := some id }
    | none =>
      if found.possible ≠ [] then .ok { plan with reason := "identity_needs_confirmation" }
      else if plan.resource = .device && plan.info.serial = "" && !canonical_uuid rt native_id then
        .ok { plan with reason := "hardware_identity_missing" }
      else
        match ← placement snapshot with
        | none => .ok { plan with reason := "placement_missing" }
        | some _ => .ok { plan with action := .create, reason := "no_existing_candidate" }

variable (record : ProviderInventory) (resource : Resource) (info : Facts)

/-- `info["hardware_identity"]["status"] == "conflict"` -/
def hardware_conflict : Bool :=
  match info.hardware_identity with
  | .obj fields => dict.get fields "status" = some (.str "conflict")
  | _ => false

/-- The record is not what the provider has reported just now. -/
def outdated (missing : List String) (record : ProviderInventory) (fresh : Bool) : Bool :=
  missing.contains record.provider_key || record.observed_at < now - hours 48 ||
    record.observed_at > now + minutes 5 || !fresh

/-- The rules that block a decision, one after the other. -/
def blocked_by (missing : List String) (record : ProviderInventory) (found : Findings) (task_state : Value)
    (fresh : Bool) (plan : Plan) : Plan :=
  let plan := if hardware_conflict plan.info || found.conflicts ≠ [] then
    plan.block "hardware_identity_conflict" else plan
  let plan := match plan.resource with
    | .device => plan
    | .vm =>
      if plan.native_status = none then plan.block "provider_state_not_ready"
      else if task_state.truthy then plan.block "provider_task_in_progress"
      else plan
  if outdated now missing record fresh then plan.block "fresh_inventory_required" else plan

/-- `VM_STATES.get(state)` -/
def native_status (state : Value) : Except ReadError (Option String) :=
  match resource, state with
  | .device, _ => .ok none
  | .vm, .str state => .ok (dict.get VM_STATES state)
  | .vm, .arr _ => .error .type_error
  | .vm, .obj _ => .error .type_error
  | .vm, _ => .ok none

/-- The binding's target is still the object that was bound. -/
def bound_plan (plan : Plan) (binding : ProviderBinding) : Plan :=
  match target_index content (binding.resource, binding.object_id) with
  | some target =>
    if target.created = binding.object_created then
      { plan with action := .unchanged, reason := "existing_binding", object_id := some binding.object_id }
    else { plan with action := .blocked, reason := "binding_target_missing", object_id := some binding.object_id }
  | none => { plan with action := .blocked, reason := "binding_target_missing", object_id := some binding.object_id }

def native_kind (snapshot : Value) : Except ReadError Resource := do
  let ident ← index snapshot "identity"
  let kind ← index ident "kind"
  .ok (if kind = .str "dedicated" then .device else .vm)

/-- What every plan starts from. -/
def initial_plan (resource_data : Fields) : Except ReadError Plan := do
  let state := (dict.get resource_data "status").getD .null
  let status ← native_status resource state
  .ok { key := record.provider_key, name := info.name, resource := resource, info := info,
        provider_state := state, native_status := status }

/-- The plan of a resource without a binding. -/
def unbound_plan (missing : List String) (record : ProviderInventory) (resource_data : Fields)
    (plan : Plan) : Except ReadError Plan := do
  let found ← findings rt content now plan.resource record.provider_key plan.info
  let candidates ← candidates_of rt content now plan.resource plan.info found
  let plan := { plan with
    candidates := candidates
    host_groups := host_groups content candidates
    ignored_address_matches := ignored_address_matches content plan.info }
  let plan ← decided rt content record.snapshot found plan
  let sections ← index record.snapshot "sections"
  let fresh ← collected ((← lookup sections "resource").getD (.obj []))
  .ok (blocked_by now missing record found ((dict.get resource_data "OS-EXT-STS:task_state").getD .null) fresh plan)

def check_key : Except ReadError Unit := do
  let ident ← index record.snapshot "identity"
  let key ← identity ident resource
  Except.require (key = record.provider_key) (.value_error "PROVIDER_IDENTITY_INVALID")

def detach (detached : List String) (resume_key : Option String) (plan : Plan) : Plan :=
  if detached.contains plan.key && some plan.key ≠ resume_key then
    { plan with action := .detached, reason := "operator_detached" }
  else plan

def binding_of (key : String) : Option ProviderBinding :=
  content.bindings.find? (fun binding => binding.provider_key = key)

def bound_or_unbound_plan (missing : List String) (record : ProviderInventory)
    (resource_data : Fields) (plan : Plan) : Except ReadError Plan :=
  match binding_of content record.provider_key with
  | some binding => .ok (bound_plan content plan binding)
  | none => unbound_plan rt content now missing record resource_data plan

def record_plan (missing detached : List String) (resume_key : Option String) (record : ProviderInventory) :
    Except ReadError Plan := do
  let resource ← native_kind record.snapshot
  check_key record resource
  let info ← facts rt now record.snapshot (rt.isoformat record.observed_at)
  let sections ← index record.snapshot "sections"
  let resource_data ← obj sections "resource"
  let plan ← initial_plan record resource info resource_data
  let plan ← bound_or_unbound_plan rt content now missing record resource_data plan
  .ok (detach detached resume_key plan)

end decisions

def Action.adopts : Action → Bool
  | .bind | .create => true
  | _ => false

section collisions

variable (rt : Runtime) (now : Int)

def plan_tokens (plan : Plan) : List Token := tokens rt now plan.info.hardware_identity

/-- Two resources would adopt one target, or are one piece of hardware. -/
def collides (plan other : Plan) : Bool :=
  (match plan.object_id with
    | some id => id ≠ 0 && other.object_id = some id && other.resource = plan.resource
    | none => false) ||
    (plan.resource = .device && other.resource = .device &&
      (plan_tokens rt now plan).any (fun token => token ∈ plan_tokens rt now other))

/-- The name of a native object that is about to be created. -/
def native_name (plans : List Plan) (plan : Plan) : String :=
  if plan.action = .create && (decide (64 < plan.name.length) ||
      decide (1 < plans.countP (fun other => rt.casefold other.name = rt.casefold plan.name))) then
    python.take plan.name 49 ++ " [" ++ python.take (digest rt (.str plan.key)) 10 ++ "]"
  else python.take plan.name 64

/-- One round of the last loop, which changes the plan at a position in place. -/
def settle (plans : List Plan) (position : Nat) : List Plan :=
  match plans[position]? with
  | none => plans
  | some plan =>
    let named := { plan with native_name := native_name rt plans plan }
    plans.set position
      (if named.action.adopts && (plans.eraseIdx position).any (collides rt now named) then
        named.block "multiple_provider_resources"
      else named)

def settle_all (plans : List Plan) : List Plan := (List.range plans.length).foldl (settle rt now) plans

end collisions

/-- The records of an account, in the order of their keys. -/
def records_of (content : Content) (account : String) : List ProviderInventory :=
  sorted ProviderInventory.provider_key (content.inventory.filter (fun record => record.account = account))

def detached_keys (content : Content) (account : String) : List String :=
  (content.detached.filter (fun row => row.2 = account)).map Prod.fst

/-- The resources of the report of `prepare`; `access` is the outcome of `_permission_all`. The fingerprint of the
    report is left out. -/
def prepare (rt : Runtime) (content : Content) (now : Int) (access : Except ReadError Unit) (account : String)
    (resume_key : Option String) : Except ReadError (List Plan) := do
  access
  Except.require (!content.fenced.contains account) (.value_error "PROVIDER_ACCOUNT_DELETED")
  Except.require (records_of content account ≠ []) (.value_error "PROVIDER_INVENTORY_REQUIRED")
  let missing ← missing content account
  let plans ← (records_of content account).mapM
    (record_plan rt content now missing (detached_keys content account) resume_key)
  .ok (settle_all rt now plans)

/-- What the last loop leaves of a plan: all that a collision is read from, and everything but the native name where
    the plan is still to be carried out. -/
structure Kept (before after : Plan) : Prop where
  resource : after.resource = before.resource
  object_id : after.object_id = before.object_id
  info : after.info = before.info
  key : after.key = before.key
  adopted : after.action.adopts = true → ∃ name, after = { before with native_name := name }

variable {rt : Runtime} {now : Int}

theorem Kept.refl (plan : Plan) : Kept plan plan := ⟨rfl, rfl, rfl, rfl, fun _ => ⟨plan.native_name, rfl⟩⟩

theorem Kept.trans {a b c : Plan} (hab : Kept a b) (hbc : Kept b c) : Kept a c := by
  refine ⟨hbc.resource.trans hab.resource, hbc.object_id.trans hab.object_id, hbc.info.trans hab.info,
    hbc.key.trans hab.key, fun hadopts => ?_⟩
  obtain ⟨name, rfl⟩ := hbc.adopted hadopts
  obtain ⟨_, rfl⟩ := hab.adopted hadopts
  exact ⟨name, rfl⟩

/-- Collisions are read from what no round changes. -/
theorem Kept.collides {a a' b b' : Plan} (ha : Kept a a') (hb : Kept b b') :
    collides rt now a' b' = collides rt now a b := by
  unfold provider_reconcile.collides plan_tokens
  rw [ha.resource, ha.object_id, ha.info, hb.resource, hb.object_id, hb.info]

/-- After the rounds before a position. -/
structure Settled (rt : Runtime) (now : Int) (before after : List Plan) (position : Nat) : Prop where
  length : after.length = before.length
  kept : ∀ (i : Nat) p q, before[i]? = some p → after[i]? = some q → Kept p q
  clear : ∀ (i : Nat) q, i < position → after[i]? = some q → q.action.adopts = true →
    ∀ (j : Nat) other, j ≠ i → after[j]? = some other → collides rt now q other = false

/-- One round keeps its plan and clears it of collisions. -/
theorem settle_spec {plans : List Plan} {position : Nat} {plan : Plan} (hplan : plans[position]? = some plan) :
    ∃ result, settle rt now plans position = plans.set position result ∧ Kept plan result ∧
      (result.action.adopts = true → ∀ (j : Nat) other, j ≠ position → plans[j]? = some other →
        collides rt now result other = false) := by
  simp only [settle, hplan]
  split
  · exact ⟨_, rfl, ⟨rfl, rfl, rfl, rfl, fun h => nomatch h⟩, fun h => nomatch h⟩
  · next hcheck =>
    refine ⟨_, rfl, ⟨rfl, rfl, rfl, rfl, fun _ => ⟨_, rfl⟩⟩, fun hadopts j other hj hother => ?_⟩
    have hnone : (plans.eraseIdx position).any (collides rt now
        { plan with native_name := native_name rt plans plan }) = false := by
      rw [Bool.and_eq_true, not_and, Bool.not_eq_true] at hcheck
      exact hcheck hadopts
    rw [List.any_eq_false] at hnone
    have hmem : other ∈ plans.eraseIdx position := List.mem_eraseIdx_iff_getElem?.mpr ⟨j, hj, hother⟩
    simpa using hnone other hmem

theorem Settled.step {before after : List Plan} {position : Nat} (h : Settled rt now before after position)
    (hposition : position < before.length) : Settled rt now before (settle rt now after position) (position + 1) := by
  have hlt : position < after.length := h.length ▸ hposition
  obtain ⟨result, hresult, hkept, hclear⟩ := settle_spec (List.getElem?_eq_getElem hlt)
  have hset : ∀ i, (after.set position result)[i]? = if i = position then some result else after[i]? := by
    intro i
    rw [List.getElem?_set]
    by_cases hi : i = position
    · subst hi
      simp [hlt]
    · simp [hi, Ne.symm hi]
  rw [hresult]
  refine ⟨by rw [List.length_set]; exact h.length, fun i p q hp hq => ?_, fun i q hi hq hadopts j other hj hother => ?_⟩
  · rw [hset] at hq
    split at hq
    · next heq =>
      subst heq
      cases hq
      exact (h.kept i p _ hp (List.getElem?_eq_getElem hlt)).trans hkept
    · exact h.kept i p q hp hq
  · rw [hset] at hq hother
    by_cases hposi : i = position
    · rw [if_pos hposi] at hq
      cases hq
      rw [if_neg (hposi ▸ hj)] at hother
      exact hclear hadopts j other (hposi ▸ hj) hother
    · rw [if_neg hposi] at hq
      have hbefore : i < position := by omega
      by_cases hposj : j = position
      · -- the changed plan collides with what it collided with before
        rw [if_pos hposj] at hother
        cases hother
        rw [(Kept.refl q).collides hkept]
        exact h.clear i q hbefore hq hadopts position _ (Ne.symm hposi) (List.getElem?_eq_getElem hlt)
      · rw [if_neg hposj] at hother
        exact h.clear i q hbefore hq hadopts j other hj hother

theorem settle_range (plans : List Plan) : ∀ n ≤ plans.length,
    Settled rt now plans ((List.range n).foldl (settle rt now) plans) n := by
  intro n
  induction n with
  | zero =>
    intro _
    refine ⟨rfl, fun i p q hp hq => ?_, fun i q hi => by omega⟩
    cases hp.symm.trans hq
    exact Kept.refl p
  | succ n ih =>
    intro hn
    rw [List.range_succ, List.foldl_append]
    exact (ih (by omega)).step (by omega)

theorem settle_all_settled (plans : List Plan) : Settled rt now plans (settle_all rt now plans) plans.length :=
  settle_range plans plans.length (Nat.le_refl _)

/-- No plan that is left to be carried out collides with any other plan. -/
theorem settle_all_pairwise (rt : Runtime) (now : Int) (plans : List Plan) :
    (settle_all rt now plans).Pairwise (fun a b =>
      (a.action.adopts = true → collides rt now a b = false) ∧
        (b.action.adopts = true → collides rt now b a = false)) := by
  have h : Settled rt now plans _ _ := settle_all_settled plans
  rw [List.pairwise_iff_getElem]
  intro i j hi hj hij
  rw [h.length] at hi hj
  refine ⟨fun hadopts => ?_, fun hadopts => ?_⟩
  · exact h.clear i _ hi (List.getElem?_eq_getElem _) hadopts j _ (by omega) (List.getElem?_eq_getElem _)
  · exact h.clear j _ hj (List.getElem?_eq_getElem _) hadopts i _ (by omega) (List.getElem?_eq_getElem _)

theorem settle_all_kept (plans : List Plan) : List.Forall₂ Kept plans (settle_all rt now plans) := by
  have h : Settled rt now plans _ _ := settle_all_settled plans
  rw [List.forall₂_iff_get]
  refine ⟨h.length.symm, fun i hi hi' => ?_⟩
  exact h.kept i _ _ (List.getElem?_eq_getElem _) (List.getElem?_eq_getElem _)

end netbox_guard.provider_reconcile
