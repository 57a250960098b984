import NetboxSync.Esxi.Interfaces

open json

namespace netbox_sync.vm_replacement

open discovery netbox source_identity source_config esxi_adoption esxi_migration

/-- The parts of the API that a replacement goes through; the review is missing where the NetBox has no guard. -/
structure ReplacementApi where
  replacement_review : Option (Int → String → Int → Except PlanError Value)
  simulate_vm_replacement : Int → Value → Except PlanError Unit

def valid_child : Value → Bool
  | .arr [.str kind, .int id] => ["vminterface", "disk", "mac"].contains kind && decide (0 < id)
  | _ => false

/-- The evidence of the guard is complete and about the identity that was read. -/
def valid_evidence (old : Value) : Value → Bool
  | .obj expected =>
    (dict.keys expected).all (fun key => ["fingerprint", "old_identity", "children"].contains key) &&
      (match dict.get expected "old_identity", dict.get expected "fingerprint", dict.get expected "children" with
        | some identity, some (.str fingerprint), some (.arr children) =>
          identity.eq old && fingerprint.length = 64 && children.all valid_child
        | _, _, _ => false)
  | _ => false

/-- `json.loads(candidate.custom_fields_snapshot)["sync_identities"][0]` -/
def old_identity (snapshot : Value) : Except PlanError Value :=
  match snapshot with
  | .obj fields =>
    match dict.get fields "sync_identities" with
    | some (.arr (old :: _)) => .ok old
    | _ => .error .key_error
  | _ => .error .key_error

/-- `vms[identity]`, where the last VM of an identity counts. -/
def vm_of_identity (hosts : List DiscoveredHost) (identity : SourceIdentity) :
    Except PlanError DiscoveredVirtualMachine :=
  match (live_vms hosts).reverse.find? (fun vm =>
      decide (virtual_machine_source_identity vm = .ok identity)) with
  | some vm => .ok vm
  | none => .error .key_error

def replacement_body (config : CompleteSourceConfig) (cluster_id : Int) (expected : Value)
    (identity : SourceIdentity) (vm : DiscoveredVirtualMachine) : Value :=
  .obj [("source_instance", .str config.source_instance), ("cluster_id", .int cluster_id),
    ("expected", expected), ("new_identity", identity.to_record),
    ("name", .str (python.take vm.original_name 64))]

section

variable (env : Environment) (nb : Catalog) (api : ReplacementApi)

/-- One round of the loop, for an item with a retained name. -/
def stage_item (review : Int → String → Int → Except PlanError Value) (hosts : List DiscoveredHost)
    (config : CompleteSourceConfig) (cluster_id : Int) (item : EsxiAdoptionItem) :
    Except PlanError (Option (Int × Value)) :=
  match item.candidates with
  | [] => .error .key_error
  | candidate :: _ => do
    let expected ← review candidate.object_id config.source_instance cluster_id
    if expected = .null then .ok none
    else
      let old ← old_identity candidate.custom_fields_snapshot
      Except.require (valid_evidence old expected) (.value_error "Invalid replacement evidence")
      let vm ← vm_of_identity hosts item.identity
      let body := replacement_body config cluster_id expected item.identity vm
      api.simulate_vm_replacement candidate.object_id body
      .ok (some (candidate.object_id, body))

def stage (hosts : List DiscoveredHost) (config : CompleteSourceConfig) : Except PlanError (List (Int × Value)) :=
  match api.replacement_review with
  | none => .ok []
  | some review =>
    if config.source_type ≠ "esxi" then .ok []
    else do
      let plan ← build_esxi_adoption_plan env nb hosts config
      let replacements ← (plan.items.filter (fun item => item.classification = .RETAINED_NAME)).mapM
        (stage_item api review hosts config plan.cluster_id)
      .ok (replacements.filterMap id)

end

/-- The replacements are of different VMs, and of none that another item of the plan has found to be managed. -/
structure StagedApart (plan : EsxiAdoptionPlan) (replacements : List (Int × Value)) : Prop where
  distinct : (replacements.map Prod.fst).Nodup
  unmanaged : ∀ replacement ∈ replacements, ∀ item ∈ plan.items, item.object_kind = .vm →
    item.classification = .MANAGED → item.selected_object_id ≠ some replacement.1

variable {env : Environment} {nb : Catalog} {api : ReplacementApi} {hosts : List DiscoveredHost}
  {config : CompleteSourceConfig} {plan : EsxiAdoptionPlan}

theorem stage_item_ok {review : Int → String → Int → Except PlanError Value} {cluster_id : Int}
    {item : EsxiAdoptionItem} {replacement : Int × Value}
    (h : stage_item api review hosts config cluster_id item = .ok (some replacement)) :
    replacement.1 ∈ item.object_ids := by
  unfold stage_item at h
  split at h
  · cases h
  · next candidate _ hcandidates =>
    obtain ⟨expected, -, h⟩ := Except.bind_eq_ok_iff.mp h
    split at h
    · cases h
    · obtain ⟨old, -, h⟩ := Except.bind_eq_ok_iff.mp h
      obtain ⟨_, -, h⟩ := Except.bind_eq_ok_iff.mp h
      obtain ⟨vm, -, h⟩ := Except.bind_eq_ok_iff.mp h
      obtain ⟨_, -, h⟩ := Except.bind_eq_ok_iff.mp h
      cases h
      rw [EsxiAdoptionItem.object_ids, hcandidates]
      exact List.mem_cons_self

/-- A plan that is exclusive stages its replacements apart. -/
theorem stage_apart (hplan : build_esxi_adoption_plan env nb hosts config = .ok plan)
    (hexclusive : plan.Exclusive) {replacements : List (Int × Value)}
    (h : stage env nb api hosts config = .ok replacements) : StagedApart plan replacements := by
  unfold stage at h
  split at h
  · cases h
    exact ⟨List.nodup_nil, by simp⟩
  · next review _ =>
    split at h
    · cases h
      exact ⟨List.nodup_nil, by simp⟩
    · rw [hplan, Except.ok_bind] at h
      obtain ⟨staged, hstaged, h⟩ := Except.bind_eq_ok_iff.mp h
      cases h
      have hstaged := Except.mapM_eq_ok_iff.mp hstaged
      constructor
      · rw [List.Nodup, List.pairwise_map, List.pairwise_filterMap, List.pairwise_iff_forall_sublist]
        rintro a b hsub first rfl second rfl
        obtain ⟨x, y, hxy, hx, hy⟩ := pair_of_sublist hstaged hsub
        have hretained : ∀ item ∈ [x, y], item ∈ plan.items ∧ item.classification = .RETAINED_NAME := by
          intro item hitem
          obtain ⟨hmem, hclass⟩ := List.mem_filter.mp (hxy.subset hitem)
          exact ⟨hmem, of_decide_eq_true hclass⟩
        obtain ⟨hxmem, hxclass⟩ := hretained x (by simp)
        obtain ⟨hymem, hyclass⟩ := hretained y (by simp)
        have hapart : Apart x y := List.pairwise_iff_forall_sublist.mp hexclusive (hxy.trans List.filter_sublist)
        have hkind : x.object_kind = y.object_kind :=
          (retained_vm hplan hxmem hxclass).trans (retained_vm hplan hymem hyclass).symm
        intro hsame
        exact hapart (by simp [hxclass]) (by simp [hyclass]) hkind (stage_item_ok hx) (hsame ▸ stage_item_ok hy)
      · intro replacement hreplacement item hitem hkind hmanaged hselected
        obtain ⟨result, hresult, rfl⟩ := List.mem_filterMap.mp hreplacement
        obtain ⟨retained, hretained, hstage⟩ := hstaged.exists_of_mem_right hresult
        obtain ⟨hmem, hclass⟩ := List.mem_filter.mp hretained
        have hclass : retained.classification = .RETAINED_NAME := of_decide_eq_true hclass
        obtain ⟨-, -, -, -, hown⟩ := planned_of_mem hplan hitem
        obtain ⟨record, hrecord, hids⟩ := hown hmanaged
        have hid : replacement.1 = record.id := Option.some.inj (hselected.symm.trans hrecord)
        have hne : retained ≠ item := by
          rintro rfl
          rw [hmanaged] at hclass
          cases hclass
        have hapart : Apart retained item := hexclusive.forall hmem hitem hne
        refine hapart (by simp [hclass]) (by simp [hmanaged]) ((retained_vm hplan hmem hclass).trans hkind.symm)
          (stage_item_ok hstage) ?_
        rw [hids, hid]
        exact List.mem_singleton_self _

/-- What each NetBox object is decided to be, it is decided to be once. -/
structure OwnershipExclusive (env : Environment) (nb : Catalog) (api : ReplacementApi)
    (hosts : List DiscoveredHost) (config : CompleteSourceConfig) (plan : EsxiAdoptionPlan) : Prop where
  adoption : plan.Exclusive
  staged : ∀ replacements, stage env nb api hosts config = .ok replacements → StagedApart plan replacements
  interfaces : ∀ migration, build_esxi_migration_plan env nb hosts config = .ok migration → migration.Exclusive nb

section

/-- A VM of the source `lab` that is gone from the host, still in NetBox as `app`. -/
def leftover : VirtualMachine where
  id := 7
  name := "app"
  cluster := some 1
  custom_fields := [("sync_identities", .arr [.obj [("schema", .str "v2"), ("type", .str "esxi"),
    ("instance", .str "lab"), ("kind", .str "vm"), ("external_id", .str "gone")]])]

def leftover_catalog : Catalog where
  sites := [⟨1, "dc", "DC"⟩]
  cluster_types := [⟨1, "esxi"⟩]
  clusters := [{ id := 1, name := "lab", scope_type := some "dcim.site", scope_id := some 1, type := some 1 }]
  devices := ⟨[], List.nodup_nil⟩
  vms := ⟨[leftover], List.nodup_singleton _⟩
  interfaces := ⟨[], List.nodup_nil⟩
  vm_interfaces := ⟨[], List.nodup_nil⟩
  ips := ⟨[], List.nodup_nil⟩
  macs := ⟨[], List.nodup_nil⟩

def named_app (external_id : String) : DiscoveredVirtualMachine where
  source := "esxi"
  source_instance := "lab"
  legacy_identity_owner := false
  source_id := "esxi:" ++ external_id
  node_source_id := "host-1"
  vmid := .str external_id
  original_name := "app"
  normalized_name := "app"
  status := "running"
  vcpus := 1
  memory_bytes := 1024
  autostart := false
  external_id := some external_id

def lab_host (vms : List DiscoveredVirtualMachine) : DiscoveredHost where
  source := "esxi"
  source_instance := "lab"
  legacy_identity_owner := false
  source_id := "host-1"
  original_name := "esx1"
  normalized_name := "esx1"
  management_ip := none
  hypervisor := "ESXi"
  hypervisor_version := none
  cpu := default
  memory_bytes := 4096
  virtual_machines := vms

def lab_config : CompleteSourceConfig where
  id := "lab"
  source_instance := "lab"
  source_type := "esxi"
  name := "lab"
  address := "esx.example"
  enabled := true
  sync_enabled := true
  sync_interval_seconds := 600
  verify_ssl := true
  target := ⟨"dc", "server", "esxi", "generic", "esxi", "lab", []⟩
  credentials := ⟨"root", ⟨"env", "A"⟩, ⟨"env", "B"⟩⟩

def plain_environment : Environment := ⟨python.Runtime.plain, fun _ _ => .ok []⟩

/-- A guard that has evidence for the leftover VM. -/
def reviewing_api : ReplacementApi where
  replacement_review := some (fun _ _ _ => .ok (.obj [("fingerprint", .str (String.ofList (List.replicate 64 'a'))),
    ("old_identity", .obj [("schema", .str "v2"), ("type", .str "esxi"), ("instance", .str "lab"),
      ("kind", .str "vm"), ("external_id", .str "gone")]), ("children", .arr [])]))
  simulate_vm_replacement _ _ := .ok ()

end

end netbox_sync.vm_replacement
