import NetboxSync.Review.Proxmox
import NetboxSync.Sources.Config
import NetboxSync.SyncPlan.Model

open json sorting

namespace netbox_sync

namespace planning_netbox

inductive Operation where
  | create
  | update
  | replace
deriving DecidableEq, Repr

structure PlannedMutation where
  operation : Operation
  endpoint : String
  object_id : Option ObjectId
  before : Fields
  after : Fields
deriving DecidableEq, Repr

/-- The object that is written. -/
def PlannedMutation.target (mutation : PlannedMutation) : String × Option ObjectId :=
  (mutation.endpoint, mutation.object_id)

end planning_netbox

namespace sync_plan

open discovery_review planning_netbox source_config

/-- What stands for the time of a fresh read. -/
def FRESH : Value := .str "<fresh-collection-time>"

/-- The document has a clock that `planned_after` replaces. -/
def clocked (doc : Fields) : Bool :=
  ((dict.get doc "version").getD .null).eq (.int 1) &&
    (dict.get doc "source" = some (.str "esxi") || dict.get doc "source" = some (.str "proxmox")) &&
    (match dict.get doc "observed_at" with
      | some (.str _) => true
      | _ => false)

def planned_after (endpoint : String) (values : Fields) : Fields :=
  match dict.get values "custom_fields" with
  | some (.obj fields) =>
    match dict.get fields "hardware_identity" with
    | some (.obj doc) =>
      if endpoint = "dcim.devices" && clocked doc then
        dict.set values "custom_fields"
          (.obj (dict.set fields "hardware_identity" (.obj (dict.set doc "observed_at" FRESH))))
      else values
    | _ => values
  | _ => values

/-- The hardware documents that were written, by object. -/
abbrev Written := String × Option ObjectId → Option Value

/-- `before` of a mutation, with the clock of an earlier planned write taken out. -/
def canonical_before (written : Written) (mutation : PlannedMutation) : Fields :=
  match written mutation.target, dict.get mutation.before "custom_fields" with
  | some doc, some (.obj fields) =>
    if ((dict.get fields "hardware_identity").getD .null).eq doc then planned_after mutation.endpoint mutation.before
    else mutation.before
  | _, _ => mutation.before

def record_written (written : Written) (mutation : PlannedMutation) : Written :=
  match dict.get mutation.after "custom_fields" with
  | some (.obj fields) => Function.update written mutation.target (dict.get fields "hardware_identity")
  | _ => written

def canonical_mutation_baselines_from (written : Written) : List PlannedMutation → List PlannedMutation
  | [] => []
  | mutation :: mutations =>
    { mutation with before := canonical_before written mutation } ::
      canonical_mutation_baselines_from (record_written written mutation) mutations

def canonical_mutation_baselines (mutations : List PlannedMutation) : List PlannedMutation :=
  canonical_mutation_baselines_from (fun _ => none) mutations

def action_map : ReviewClassification → SyncAction
  | .MANAGED => .NO_CHANGE
  | .NO_CHANGE => .NO_CHANGE
  | .WOULD_CREATE => .CREATE
  | .REVIEW_REQUIRED => .REVIEW_REQUIRED
  | .CONFLICT => .BLOCKED
  | .IGNORED => .IGNORED
  | .UNSUPPORTED => .UNSUPPORTED

/-- The item of a plan for an item of the review. -/
def review_item (item : ReviewItem) : SyncPlanItem where
  object_kind := item.object_kind
  external_id := item.external_id
  name := item.name
  action := action_map item.classification
  reason_code := item.reason_code
  reason := item.reason
  matched_object_id := item.matched_object_id.map .int
  before :=
    (match dict.get item.properties "matching_candidates" with
      | some candidates => if candidates.truthy then [("matching_candidates", candidates)] else []
      | none => []) ++
    (match item.matched_object_id with
      | some id => [("id", .int id), ("name", optional .str item.matched_object_name)]
      | none => [])
  after := if item.future_action = "create" || item.future_action = "update" then [("name", .str item.name)] else []

def retain_item (config : CompleteSourceConfig) : SyncPlanItem where
  object_kind := "source"
  external_id := config.source_instance
  name := config.name
  action := .RETAIN_ONLY
  reason_code := "DISAPPEARANCE_RETAIN_ONLY"
  reason := "Managed objects absent from discovery are reported and retained; none are deleted."

/-- The items of `plan_from_review`. -/
def review_items (review : List ReviewItem) (config : CompleteSourceConfig) : List SyncPlanItem :=
  review.map review_item ++ [retain_item config]

section

variable (sha256 : String → String) (repr : Value → String)

def SecretReference.pair (reference : SecretReference) : Value := .arr [.str reference.provider, .str reference.key]

def safe_source_fingerprint (config : CompleteSourceConfig) : String :=
  stable_fingerprint sha256 (.obj [("id", .str config.id), ("source_instance", .str config.source_instance),
    ("name", .str config.name), ("source_type", .str config.source_type), ("address", .str config.address),
    ("enabled", .bool config.enabled), ("sync_enabled", .bool config.sync_enabled),
    ("sync_interval_seconds", .int config.sync_interval_seconds), ("verify_ssl", .bool config.verify_ssl),
    ("legacy_identity_owner", .bool config.legacy_identity_owner), ("settings", .obj config.settings),
    ("credential_binding", .obj [("username", .str config.credentials.username),
      ("token_id", SecretReference.pair config.credentials.token_id),
      ("token_secret", SecretReference.pair config.credentials.token_secret)])])

def target_fingerprint (config : CompleteSourceConfig) : String := stable_fingerprint sha256 config.target.asdict

/-- The provider's side of the items: `sorted(provider)` -/
def provider_rows (items : List SyncPlanItem) : Value :=
  .arr ((sorted (fun item => toLex (item.object_kind, toLex (item.external_id, item.name))) items).map
    (fun item => .arr [.str item.object_kind, .str item.external_id, .str item.name]))

def netbox_row (item : SyncPlanItem) : Value :=
  .arr [.str item.object_kind, optional ObjectId.value item.matched_object_id, pairs item.before]

/-- NetBox's side of the items: `sorted(netbox, key=repr)` -/
def netbox_rows (items : List SyncPlanItem) : Value :=
  .arr (sorted repr ((items.filter (fun item => item.matched_object_id.isSome)).map netbox_row))

def plan_from_review (review : List ReviewItem) (config : CompleteSourceConfig) : SyncPlan where
  source_instance := config.source_instance
  source_id := config.id
  source_type := config.source_type
  source_fingerprint := safe_source_fingerprint sha256 config
  target_fingerprint := target_fingerprint sha256 config
  provider_fingerprint := stable_fingerprint sha256 (provider_rows (review_items review config))
  netbox_fingerprint := stable_fingerprint sha256 (netbox_rows repr (review_items review config))
  items := review_items review config

end

/-- The actions that a plan takes over from the review. -/
def SyncAction.kept : SyncAction → Bool
  | .REVIEW_REQUIRED | .BLOCKED | .IGNORED | .UNSUPPORTED | .RETAIN_ONLY => true
  | _ => false

/-- `review_endpoints.get(kind)` -/
def review_endpoint (kind : String) : Option String :=
  if kind = "host" then some "dcim.devices"
  else if kind = "qemu" || kind = "lxc" || kind = "vm" then some "virtualization.virtual_machines"
  else none

/-- `str(object_id)` -/
def id_text : Option ObjectId → String
  | none => "None"
  | some (.int n) => toString n
  | some (.str s) => s

/-- `value or other` -/
def or_else (value : Option Value) (other : Option Value) : Option Value :=
  match value with
  | some value => if value.truthy then some value else other
  | none => other

/-- What the values of a mutation are iterated over for an identity; a value that has no members raises. Strings and
    dictionaries have members, but no dictionaries among them. -/
def identities (fields : Fields) : Except String (List Value) :=
  match dict.get fields "custom_fields" with
  | some (.obj fields) =>
    match (dict.get fields "sync_identities").getD (.arr []) with
    | .arr items => .ok items
    | .str _ | .obj _ => .ok []
    | .null | .bool _ | .int _ => .error "TypeError"
  | _ => .ok []

/-- `value.get("external_id") or value.get("source_id")` of a dictionary -/
def listed_id : Value → Option Value
  | .obj identity => or_else (dict.get identity "external_id") (or_else (dict.get identity "source_id") none)
  | _ => none

section

variable (repr : Value → String)

def external_id (mutation : PlannedMutation) (identities : List Value) : String :=
  match identities.findSome? listed_id with
  | some id => id.pystr repr
  | none => id_text mutation.object_id

/-- The name of an object that is created. -/
def created_name (mutation : PlannedMutation) : String :=
  match or_else (dict.get mutation.after "name") (or_else (dict.get mutation.after "address")
      (or_else (dict.get mutation.after "mac_address") none)) with
  | some value => value.pystr repr
  | none => id_text mutation.object_id

/-- `object_names`: the names by endpoint and id, where later ones count -/
def object_names (items : List SyncPlanItem) (mutations : List PlannedMutation) (target : String × Option ObjectId) :
    Option String :=
  ((mutations.filter (fun mutation => mutation.operation = .create && mutation.target = target)).getLast?.map
      (created_name repr)).or
    ((items.filter (fun item => item.matched_object_id.isSome &&
        ((review_endpoint item.object_kind).getD item.object_kind, item.matched_object_id) = target)).getLast?.map
      SyncPlanItem.name)

def mutation_name (names : String × Option ObjectId → Option String) (mutation : PlannedMutation) : String :=
  match dict.get mutation.after "name" with
  | some name => name.pystr repr
  | none => (names mutation.target).getD (id_text mutation.object_id)

def mutation_item (names : String × Option ObjectId → Option String) (mutation : PlannedMutation) :
    Except String SyncPlanItem := do
  let identities ← identities (dict.update mutation.before mutation.after)
  return {
    object_kind := mutation.endpoint
    external_id := external_id repr mutation identities
    name := mutation_name repr names mutation
    action := if mutation.operation = .create then .CREATE else .UPDATE
    reason_code := if mutation.operation = .replace then "VM_GENERATION_REPLACE" else "GUARDED_EXECUTOR_ACTION"
    reason :=
      if mutation.operation = .replace then
        "Recreated VM: reuse its creation-proven NetBox card, replace the " ++
          "old UUID and rebuild unconnected owned components."
      else "Existing guarded executor would perform this managed-field mutation."
    matched_object_id := if mutation.operation = .create then none else mutation.object_id
    before := sorted Prod.fst mutation.before
    after := sorted Prod.fst (planned_after mutation.endpoint mutation.after) }

end

/-- A create that no executor made. -/
def unsupported (item : SyncPlanItem) : SyncPlanItem :=
  { item with
    action := .UNSUPPORTED
    reason_code := "EXECUTOR_CREATE_UNSUPPORTED"
    reason := "No supported create operation was produced for this object."
    after := [] }

/-- The object of a review item was created. -/
def created (items : List SyncPlanItem) (item : SyncPlanItem) : Bool :=
  items.any (fun other => other.action = .CREATE &&
    (some other.object_kind, other.external_id) = (review_endpoint item.object_kind, item.external_id))

/-- The object of a review item was updated. -/
def mutated (items : List SyncPlanItem) (item : SyncPlanItem) : Bool :=
  items.any (fun other => other.action = .UPDATE &&
    (some other.object_kind, other.matched_object_id) = (review_endpoint item.object_kind, item.matched_object_id))

/-- The items of `plan_from_mutations` before they are sorted. -/
def stitched (review written : List SyncPlanItem) : List SyncPlanItem :=
  let items := review.filter (fun item => item.action.kept) ++ written
  items ++
    (review.filter (fun item => item.action = .CREATE && !created items item)).map unsupported ++
    review.filter (fun item => item.action = .NO_CHANGE && !mutated items item)

section

variable (sha256 : String → String) (repr : Value → String)

def mutation_rows (mutations : List PlannedMutation) : Value :=
  .arr ((sorted (fun mutation => toLex (mutation.endpoint, id_text mutation.object_id)) mutations).map
    (fun mutation =>
      .arr [.str mutation.endpoint, optional ObjectId.value mutation.object_id, .obj mutation.before]))

def plan_from_mutations (review : List ReviewItem) (config : CompleteSourceConfig) (mutations : List PlannedMutation) :
    Except String SyncPlan := do
  let mutations := canonical_mutation_baselines mutations
  let review_plan := plan_from_review sha256 repr review config
  let written ← mutations.mapM (mutation_item repr (object_names repr review_plan.items mutations))
  return { review_plan with
    netbox_fingerprint := stable_fingerprint sha256 (mutation_rows mutations)
    items := sorted item_key (stitched review_plan.items written) }

end

end sync_plan

end netbox_sync
