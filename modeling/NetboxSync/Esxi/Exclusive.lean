import Mathlib.Data.List.Pairwise
import NetboxSync.Esxi.Retained

namespace netbox_sync.esxi_adoption

open discovery source_identity source_config

/-- The identities of the discovered VMs. -/
def live_identities (hosts : List DiscoveredHost) : List SourceIdentity :=
  (live_vms hosts).filterMap (fun vm => (virtual_machine_source_identity vm).toOption)

/-- The VMs of the configured cluster. -/
def placed_vms (nb : Catalog) (config : CompleteSourceConfig) : List Record :=
  match resolve_target nb config.target with
  | .ok (_, cluster) => target_vms nb cluster.id
  | .error _ => []

/-- No record of the cluster is retained by two of the discovered objects. -/
def RetainedOnce (env : Environment) (nb : Catalog) (hosts : List DiscoveredHost)
    (config : CompleteSourceConfig) : Prop :=
  (objects hosts).Pairwise (fun a b => ∀ record ∈ placed_vms nb config,
    ¬ (retains env nb (live_identities hosts) (placed_vms nb config) record a = true ∧
      retains env nb (live_identities hosts) (placed_vms nb config) record b = true))

instance (env : Environment) (nb : Catalog) (hosts : List DiscoveredHost) (config : CompleteSourceConfig) :
    Decidable (RetainedOnce env nb hosts config) := by
  unfold RetainedOnce
  infer_instance

def EsxiAdoptionItem.object_ids (item : EsxiAdoptionItem) : List Int := item.candidates.map AdoptionEvidence.object_id

/-- Two items of one kind, both of them decided, have no candidate in common. -/
def Apart (a b : EsxiAdoptionItem) : Prop :=
  a.classification ≠ .AMBIGUOUS → b.classification ≠ .AMBIGUOUS → a.object_kind = b.object_kind →
    a.object_ids.Disjoint b.object_ids

def EsxiAdoptionPlan.Exclusive (plan : EsxiAdoptionPlan) : Prop := plan.items.Pairwise Apart

instance : Std.Symm Apart where
  symm _ _ h hb ha hkind _ hidb hida := h ha hb hkind.symm hida hidb

/-- An item as the isolation pass finds it. -/
def marked (items : List EsxiAdoptionItem) (item : EsxiAdoptionItem) : EsxiAdoptionItem :=
  if claims.shared claimed_objects items item then make_ambiguous item else item

theorem marked_cases (items : List EsxiAdoptionItem) (item : EsxiAdoptionItem) :
    marked items item = item ∨ marked items item = make_ambiguous item := by
  unfold marked
  split
  · exact .inr rfl
  · exact .inl rfl

variable {env : Environment} {nb : Catalog} {hosts : List DiscoveredHost} {config : CompleteSourceConfig}
  {plan : EsxiAdoptionPlan}

/-- How the parts of a plan come about. -/
structure Built (env : Environment) (nb : Catalog) (hosts : List DiscoveredHost) (config : CompleteSourceConfig)
    (site cluster : Int) (items results : List EsxiAdoptionItem) : Prop where
  placed : placed_vms nb config = target_vms nb cluster
  classified : List.Forall₂ (fun discovered item =>
    classify_object env nb config site cluster discovered = .ok item) (objects hosts) items
  isolated : List.Forall₂ (fun item result =>
    isolate env (live_identities hosts) (marked items item) = .ok result) items results

theorem live_identities_of_mapM {vms : List DiscoveredVirtualMachine} {live_ids : List SourceIdentity}
    (h : List.Forall₂ (fun vm identity => value_error (virtual_machine_source_identity vm) = .ok identity)
      vms live_ids) : live_ids = vms.filterMap (fun vm => (virtual_machine_source_identity vm).toOption) := by
  induction h with
  | nil => rfl
  | cons hid _ ih =>
    rw [value_error_eq_ok_iff] at hid
    rw [List.filterMap_cons, hid, ih]
    rfl

theorem build_esxi_adoption_plan_built (h : build_esxi_adoption_plan env nb hosts config = .ok plan) :
    ∃ items, Built env nb hosts config plan.site_id plan.cluster_id items plan.items := by
  unfold build_esxi_adoption_plan at h
  obtain ⟨_, -, h⟩ := Except.bind_eq_ok_iff.mp h
  obtain ⟨⟨site, cluster⟩, htarget, h⟩ := Except.bind_eq_ok_iff.mp h
  obtain ⟨_, -, h⟩ := Except.bind_eq_ok_iff.mp h
  obtain ⟨items, hitems, h⟩ := Except.bind_eq_ok_iff.mp h
  obtain ⟨live_ids, hlive, h⟩ := Except.bind_eq_ok_iff.mp h
  obtain ⟨isolated, hisolated, h⟩ := Except.bind_eq_ok_iff.mp h
  cases h
  have hids : live_ids = live_identities hosts := live_identities_of_mapM (Except.mapM_eq_ok_iff.mp hlive)
  refine ⟨items, by rw [placed_vms, htarget], Except.mapM_eq_ok_iff.mp hitems, ?_⟩
  rw [← hids]
  exact List.forall₂_map_left_iff.mp (Except.mapM_eq_ok_iff.mp hisolated)

theorem classify_object_ok {site cluster : Int} {discovered : Discovered} {item : EsxiAdoptionItem}
    (h : classify_object env nb config site cluster discovered = .ok item) :
    ∃ identity, object_identity discovered = .ok identity ∧
      classify env nb discovered identity (nb.records discovered.kind)
        (target_records nb site cluster discovered.kind) = .ok item := by
  obtain ⟨_, -, h⟩ := Except.bind_eq_ok_iff.mp h
  obtain ⟨identity, hidentity, h⟩ := Except.bind_eq_ok_iff.mp h
  exact ⟨identity, value_error_eq_ok_iff.mp hidentity, h⟩

theorem target_vms_subset (nb : Catalog) (cluster : Int) : target_vms nb cluster ⊆ nb.records .vm :=
  List.map_subset _ (List.filter_subset_self _)

section

variable {live_ids : List SourceIdentity} {site cluster : Int} {discovered : Discovered}
  {items : List EsxiAdoptionItem} {item result : EsxiAdoptionItem}

/-- Isolation changes the classification only, and only to one value. -/
theorem isolate_frame (h : isolate env live_ids item = .ok result) :
    result.object_kind = item.object_kind ∧ result.identity = item.identity ∧
      result.candidates = item.candidates ∧ (result = item ∨ result.classification = .RETAINED_NAME) := by
  obtain ⟨_, -, rfl⟩ | ⟨-, rfl⟩ := isolate_eq_ok h
  · exact ⟨rfl, rfl, rfl, .inr rfl⟩
  · exact ⟨rfl, rfl, rfl, .inl rfl⟩

theorem marked_frame (items : List EsxiAdoptionItem) (item : EsxiAdoptionItem) :
    (marked items item).object_kind = item.object_kind ∧ (marked items item).identity = item.identity ∧
      (marked items item).candidates = item.candidates := by
  obtain h | h := marked_cases items item <;> rw [h] <;> exact ⟨rfl, rfl, rfl⟩

/-- An object that retains a record is isolated with it. -/
theorem isolate_of_retains (hitem : classify_object env nb config site cluster discovered = .ok item)
    (hresult : isolate env live_ids (marked items item) = .ok result) {record : Record}
    (hretains : retains env nb live_ids (target_vms nb cluster) record discovered = true) :
    result.classification = .RETAINED_NAME ∧ result.object_kind = .vm ∧ result.object_ids = [record.id] := by
  obtain ⟨identity, hidentity, hitem⟩ := classify_object_ok hitem
  cases discovered with
  | host node => cases hretains
  | vm guest =>
    have hretains := (retains_iff hidentity).mp hretains
    have hisolable := (isolable_iff hitem (marked_cases items item)).mpr ⟨record, hretains, rfl⟩
    obtain ⟨-, -, rfl⟩ | ⟨hnone, -⟩ := isolate_eq_ok hresult
    · refine ⟨rfl, hisolable.kind, ?_⟩
      rw [EsxiAdoptionItem.object_ids, hisolable.candidates]
      rfl
    · exact absurd hisolable (hnone _)

/-- An isolated object retains its only candidate. -/
theorem retains_of_isolate (hitem : classify_object env nb config site cluster discovered = .ok item)
    (hresult : isolate env live_ids (marked items item) = .ok result)
    (hretained : result.classification = .RETAINED_NAME) :
    result.object_kind = .vm ∧ ∃ record ∈ target_vms nb cluster,
      retains env nb live_ids (target_vms nb cluster) record discovered = true ∧ result.object_ids = [record.id] := by
  obtain ⟨identity, hidentity, hitem⟩ := classify_object_ok hitem
  have hclassified := classify_classified hitem
  obtain ⟨candidate, hisolable, rfl⟩ | ⟨-, rfl⟩ := isolate_eq_ok hresult
  · have hkind : discovered.kind = .vm := by
      rw [← hclassified.kind, ← (marked_frame items item).1]
      exact hisolable.kind
    cases discovered with
    | host node => cases hkind
    | vm guest =>
      obtain ⟨record, hretains, rfl⟩ := (isolable_iff hitem (marked_cases items item)).mp hisolable
      refine ⟨hisolable.kind, record, hretains.mem, (retains_iff hidentity).mpr hretains, ?_⟩
      rw [EsxiAdoptionItem.object_ids, hisolable.candidates]
      rfl
  · obtain h | h := marked_cases items item
    · rw [h] at hretained
      exact absurd hretained hclassified.unretained
    · rw [h] at hretained
      cases hretained

/-- Two items with a common candidate are both marked, so that only isolation can have decided them. -/
theorem retained_of_common {a b ra rb : EsxiAdoptionItem} (hsub : [a, b].Sublist items)
    (ha : isolate env live_ids (marked items a) = .ok ra) (hb : isolate env live_ids (marked items b) = .ok rb)
    (hkind : ra.object_kind = rb.object_kind) {id : Int} (hida : id ∈ ra.object_ids)
    (hidb : id ∈ rb.object_ids) (hdecided : ra.classification ≠ .AMBIGUOUS ∧ rb.classification ≠ .AMBIGUOUS) :
    ra.classification = .RETAINED_NAME ∧ rb.classification = .RETAINED_NAME := by
  obtain ⟨hkinda, -, hcanda, hclassa⟩ := isolate_frame ha
  obtain ⟨hkindb, -, hcandb, hclassb⟩ := isolate_frame hb
  obtain ⟨hmkinda, -, hmcanda⟩ := marked_frame items a
  obtain ⟨hmkindb, -, hmcandb⟩ := marked_frame items b
  have hkeya : (a.object_kind, id) ∈ claimed_objects a := by
    obtain ⟨candidate, hcandidate, rfl⟩ := List.mem_map.mp hida
    rw [hcanda, hmcanda] at hcandidate
    exact List.mem_map.mpr ⟨candidate, hcandidate, rfl⟩
  have hkeyb : (a.object_kind, id) ∈ claimed_objects b := by
    obtain ⟨candidate, hcandidate, rfl⟩ := List.mem_map.mp hidb
    rw [hcandb, hmcandb] at hcandidate
    rw [hkinda, hmkinda, hkindb, hmkindb] at hkind
    exact List.mem_map.mpr ⟨candidate, hcandidate, by rw [hkind]⟩
  obtain ⟨hshareda, hsharedb⟩ := claims.shared_of_sublist hsub hkeya hkeyb
  constructor
  · refine hclassa.resolve_left (fun hsame => hdecided.1 ?_)
    rw [hsame, marked, if_pos hshareda]
    rfl
  · refine hclassb.resolve_left (fun hsame => hdecided.2 ?_)
    rw [hsame, marked, if_pos hsharedb]
    rfl

end

/-- A pair of one list, as a pair of the other. -/
theorem pair_of_sublist {α β : Type} {R : α → β → Prop} {xs : List α} {ys : List β} (h : List.Forall₂ R xs ys)
    {y z : β} (hsub : [y, z].Sublist ys) : ∃ w x, [w, x].Sublist xs ∧ R w y ∧ R x z := by
  obtain ⟨ws, hws, hall⟩ := h.exists_sublist hsub
  cases hall with
  | cons hw hrest =>
    cases hrest with
    | cons hx hnil =>
      cases hnil
      exact ⟨_, _, hws, hw, hx⟩

section

variable (h : build_esxi_adoption_plan env nb hosts config = .ok plan)
include h

/-- The plan is exclusive where no record is retained twice, and only there. -/
theorem exclusive_iff : plan.Exclusive ↔ RetainedOnce env nb hosts config := by
  obtain ⟨items, hplaced, hclassified, hisolated⟩ := build_esxi_adoption_plan_built h
  rw [EsxiAdoptionPlan.Exclusive, RetainedOnce, hplaced, List.pairwise_iff_forall_sublist,
    List.pairwise_iff_forall_sublist]
  constructor
  · rintro hexclusive x y hsub record - ⟨hx, hy⟩
    obtain ⟨a, b, habsub, ha, hb⟩ := pair_of_sublist hclassified.flip hsub
    obtain ⟨ra, rb, hresults, hra, hrb⟩ := pair_of_sublist hisolated.flip habsub
    obtain ⟨hclassa, hkinda, hidsa⟩ := isolate_of_retains ha hra hx
    obtain ⟨hclassb, hkindb, hidsb⟩ := isolate_of_retains hb hrb hy
    have hapart : ra.object_ids.Disjoint rb.object_ids :=
      hexclusive hresults (by simp [hclassa]) (by simp [hclassb]) (hkinda.trans hkindb.symm)
    rw [hidsa, hidsb] at hapart
    exact hapart (List.mem_singleton_self _) (List.mem_singleton_self _)
  · intro honce ra rb hsub hdecideda hdecidedb hkind id hida hidb
    obtain ⟨a, b, habsub, hra, hrb⟩ := pair_of_sublist hisolated hsub
    obtain ⟨x, y, hxysub, hx, hy⟩ := pair_of_sublist hclassified habsub
    obtain ⟨hclassa, hclassb⟩ := retained_of_common habsub hra hrb hkind hida hidb ⟨hdecideda, hdecidedb⟩
    obtain ⟨-, record, hrecord, hretainsx, hidsa⟩ := retains_of_isolate hx hra hclassa
    obtain ⟨-, other, hother, hretainsy, hidsb⟩ := retains_of_isolate hy hrb hclassb
    rw [hidsa, List.mem_singleton] at hida
    rw [hidsb, List.mem_singleton] at hidb
    have hsame : record = other := Catalog.record_of_id (target_vms_subset nb _ hrecord)
      (target_vms_subset nb _ hother) (hida.symm.trans hidb)
    subst hsame
    exact honce hxysub record hrecord ⟨hretainsx, hretainsy⟩

theorem retained_vm {result : EsxiAdoptionItem} (hmem : result ∈ plan.items)
    (hretained : result.classification = .RETAINED_NAME) : result.object_kind = .vm := by
  obtain ⟨items, -, hclassified, hisolated⟩ := build_esxi_adoption_plan_built h
  obtain ⟨item, hitem, hresult⟩ := hisolated.exists_of_mem_right hmem
  obtain ⟨discovered, -, hobject⟩ := hclassified.exists_of_mem_right hitem
  exact (retains_of_isolate hobject hresult hretained).1

/-- Every item of a plan is that of a discovered object, and a managed one has selected its only candidate. -/
theorem planned_of_mem {result : EsxiAdoptionItem} (hmem : result ∈ plan.items) :
    ∃ discovered ∈ objects hosts, object_identity discovered = .ok result.identity ∧
      result.object_kind = discovered.kind ∧ (result.classification = .MANAGED →
        ∃ record : Record, result.selected_object_id = some record.id ∧ result.object_ids = [record.id]) := by
  obtain ⟨items, -, hclassified, hisolated⟩ := build_esxi_adoption_plan_built h
  obtain ⟨item, hitem, hresult⟩ := hisolated.exists_of_mem_right hmem
  obtain ⟨discovered, hdiscovered, hobject⟩ := hclassified.exists_of_mem_right hitem
  obtain ⟨identity, hidentity, hclassify⟩ := classify_object_ok hobject
  have hitem := classify_classified hclassify
  obtain ⟨hkind, hid, -, hframe⟩ := isolate_frame hresult
  obtain ⟨hmkind, hmid, -⟩ := marked_frame items item
  refine ⟨discovered, hdiscovered, ?_, hkind.trans (hmkind.trans hitem.kind), fun hmanaged => ?_⟩
  · rw [hid, hmid, hitem.identity]
    exact hidentity
  · obtain hsame | hretained := hframe
    · obtain hmarked | hmarked := marked_cases items item
      · rw [hsame, hmarked] at hmanaged ⊢
        obtain ⟨record, -, hselected⟩ := hitem.selected hmanaged
        exact ⟨record, hselected⟩
      · rw [hsame, hmarked] at hmanaged
        cases hmanaged
    · rw [hretained] at hmanaged
      cases hmanaged

end

end netbox_sync.esxi_adoption
