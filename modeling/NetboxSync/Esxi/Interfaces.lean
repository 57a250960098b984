import NetboxSync.Esxi.Exclusive
import NetboxSync.Esxi.Migration

namespace netbox_sync.esxi_migration

open discovery netbox source_identity source_config esxi_adoption netbox_vm_interface_metadata

variable {env : Environment} {nb : Catalog} {hosts : List DiscoveredHost} {config : CompleteSourceConfig}

/-- An item that refers to an interface has one of the parent's own, alone. -/
def RefersOwned (nb : Catalog) (kind : Kind) (parent_id : Int) (item : InterfaceMigrationItem) : Prop :=
  item.refers = true → ∃ port ∈ owned_interfaces nb kind parent_id, item.interface_ids = [port.id]

variable {kind : Kind} {parent_id : Int} {items : List InterfaceMigrationItem}

theorem mem_owned_interfaces {port : Port} :
    port ∈ owned_interfaces nb kind parent_id ↔ port ∈ nb.ports kind ∧ port.parent = some parent_id := by
  rw [owned_interfaces, List.mem_filter, decide_eq_true_eq]

theorem correlate_interface_owned (discovered : DiscoveredPort) (extra_ips : List String) {identity_matches : List Port}
    (hmatches : identity_matches ⊆ owned_interfaces nb kind parent_id) :
    RefersOwned nb kind parent_id
      (correlate_interface env nb kind parent_id discovered extra_ips identity_matches) := by
  unfold correlate_interface
  intro hrefers
  dsimp only at hrefers ⊢
  split at hrefers
  · cases hrefers
  · next port =>
    exact ⟨port, hmatches (List.mem_singleton_self port), rfl⟩
  · split at hrefers
    · cases hrefers
    · next hclear =>
      rw [if_neg hclear]
      split at hrefers
      · cases hrefers
      · next hsingle =>
        rw [if_neg hsingle]
        split at hrefers
        · cases hrefers
        · -- the only hit on the parent's own interfaces
          next hit hnear =>
          have hmem : hit ∈ (network_hits nb kind (discovered_interface_network discovered extra_ips).1
              (discovered_interface_network discovered extra_ips).2).hits.filter
                (fun hit => hit.port.id ∈ (owned_interfaces nb kind parent_id).map Port.id) := by
            rw [hnear]
            exact List.mem_singleton_self hit
          have howned := (List.mem_filter.mp hmem).2
          obtain ⟨port, hport, hid⟩ := List.mem_map.mp (of_decide_eq_true howned)
          exact ⟨port, hport, by rw [hid]; rfl⟩
        · split at hrefers
          · cases hrefers
          · next port hexact =>
            have hmem : port ∈ (owned_interfaces nb kind parent_id).filter (fun port =>
                decide (env.py.casefold port.name = env.py.casefold discovered.name)) := by
              rw [hexact]
              exact List.mem_singleton_self port
            exact ⟨port, List.mem_of_mem_filter hmem, rfl⟩
          · cases hrefers

theorem find_nic_sync_identity_matches_subset {existing found : List VMInterface} {guest : Guest}
    {nic : DiscoveredInterface} (h : find_nic_sync_identity_matches env.py existing guest nic = .ok found) :
    found ⊆ existing := by
  have hrank : ∀ row rank, nic_sync_identity_match_rank env.py row.custom_fields guest nic = .ok rank →
      rank = ((nic_sync_identity_match_rank env.py (VMInterface.custom_fields row) guest nic).toOption).getD 0 := by
    intro row rank hrank
    rw [hrank]
    rfl
  rw [select_best_identity_matches_ok hrank h]
  exact List.filter_subset_self _

theorem managed_interfaces_owned {discovered : Discovered} {record : Record}
    {interfaces : List InterfaceMigrationItem}
    (h : managed_interfaces env nb discovered (some record.id) = .ok interfaces) :
    ∀ item ∈ interfaces, RefersOwned nb discovered.kind record.id item := by
  intro item hitem
  cases discovered with
  | host node =>
    simp only [managed_interfaces, host_interfaces, Option.bind_some] at h
    split at h
    · split at h
      · cases h
        cases hitem
      · cases h
    · next device hdevice =>
      cases h
      obtain ⟨interface, -, rfl⟩ := List.mem_map.mp hitem
      have hid : device.id = record.id := (Table.mem_of_get hdevice).2
      rw [← hid]
      exact correlate_interface_owned _ _ (List.nil_subset _)
  | vm guest =>
    simp only [managed_interfaces, vm_interfaces, Option.bind_some] at h
    split at h
    · cases h
    · next netbox_vm hvm =>
      have hid : netbox_vm.id = record.id := (Table.mem_of_get hvm).2
      obtain ⟨interface, -, hinterface⟩ := (Except.mapM_eq_ok_iff.mp h).exists_of_mem_right hitem
      obtain ⟨found, hfound, hinterface⟩ := Except.bind_eq_ok_iff.mp hinterface
      cases hinterface
      rw [← hid]
      refine correlate_interface_owned _ _ (fun port hport => ?_)
      obtain ⟨row, hrow, rfl⟩ := List.mem_map.mp hport
      have hexisting := find_nic_sync_identity_matches_subset (value_error_eq_ok_iff.mp hfound) hrow
      obtain ⟨hmem, hparent⟩ := List.mem_filter.mp hexisting
      exact mem_owned_interfaces.mpr ⟨List.mem_map.mpr ⟨row, hmem, rfl⟩, of_decide_eq_true hparent⟩

/-- The interfaces a parent's items refer to. -/
def ObjectMigrationItem.interface_ids (parent : ObjectMigrationItem) : List Int :=
  (parent.interfaces.filter InterfaceMigrationItem.refers).flatMap InterfaceMigrationItem.interface_ids

/-- An item that still refers to an interface was not marked. -/
theorem marked_refers {item : InterfaceMigrationItem}
    (h : (if claims.shared claimed_interfaces items item then make_interface_ambiguous item else item).refers = true) :
    claims.shared claimed_interfaces items item = false ∧ item.refers = true := by
  cases hshared : claims.shared claimed_interfaces items item with
  | false =>
    rw [hshared] at h
    exact ⟨rfl, h⟩
  | true =>
    rw [hshared] at h
    cases h

theorem mem_mark_shared {item : InterfaceMigrationItem} (h : item ∈ mark_shared_interface_claims items)
    (hrefers : item.refers = true) : item ∈ items := by
  obtain ⟨before, hbefore, rfl⟩ := List.mem_map.mp h
  obtain ⟨hshared, -⟩ := marked_refers hrefers
  rw [hshared]
  exact hbefore

/-- After the marking no two items of a parent refer to one interface. -/
theorem mark_shared_nodup (howned : ∀ item ∈ items, RefersOwned nb kind parent_id item) :
    (((mark_shared_interface_claims items).filter InterfaceMigrationItem.refers).flatMap
      InterfaceMigrationItem.interface_ids).Nodup := by
  rw [List.nodup_flatMap, List.pairwise_filter]
  constructor
  · intro item hitem
    obtain ⟨hmem, hrefers⟩ := List.mem_filter.mp hitem
    obtain ⟨port, -, hids⟩ := howned item (mem_mark_shared hmem hrefers) hrefers
    rw [hids]
    exact List.nodup_singleton _
  · rw [mark_shared_interface_claims, claims.markShared, List.pairwise_map]
    refine (claims.pairwise_unshared claimed_interfaces items).imp (fun {a b} halone ha hb => ?_)
    obtain ⟨hshareda, hrefersa⟩ := marked_refers ha
    obtain ⟨hsharedb, hrefersb⟩ := marked_refers hb
    have hdisjoint := halone (.inl hshareda)
    rw [claimed_interfaces, claimed_interfaces, if_pos hrefersa, if_pos hrefersb] at hdisjoint
    rw [hshareda, hsharedb]
    exact hdisjoint

theorem adoption_by_identity_ok {items : List EsxiAdoptionItem} {identity : SourceIdentity}
    {item : EsxiAdoptionItem} (h : adoption_by_identity items identity = .ok item) :
    item ∈ items ∧ item.identity = identity := by
  unfold adoption_by_identity at h
  split at h
  · next found hfound =>
    cases h
    have hidentity := List.find?_some hfound
    exact ⟨List.mem_reverse.mp (List.mem_of_find?_eq_some hfound), of_decide_eq_true hidentity⟩
  · cases h

/-- The result of one object, and the item of the adoption plan behind it. -/
structure Migrated (nb : Catalog) (item : EsxiAdoptionItem) (kind : Kind) (parent : ObjectMigrationItem) : Prop where
  object_kind : item.object_kind = kind
  candidates : parent.candidates.map ObjectCandidate.object_id = item.object_ids
  managed : ∀ interface ∈ parent.interfaces, interface.refers = true →
    item.classification = .MANAGED ∧ parent.classification = .MANAGED ∧
      ∃ id, item.object_ids = [id] ∧ ∃ port ∈ owned_interfaces nb kind id, interface.interface_ids = [port.id]
  nodup : parent.interface_ids.Nodup

variable {plan : EsxiAdoptionPlan}

theorem migrate_object_ok (hdistinct : ((objects hosts).map object_identity).Nodup)
    (hplan : build_esxi_adoption_plan env nb hosts config = .ok plan) {discovered : Discovered}
    (hdiscovered : discovered ∈ objects hosts) {result : Kind × ObjectMigrationItem}
    (h : migrate_object env nb plan discovered = .ok result) :
    ∃ item ∈ plan.items, object_identity discovered = .ok item.identity ∧ Migrated nb item result.1 result.2 := by
  obtain ⟨identity, hidentity, h⟩ := Except.bind_eq_ok_iff.mp h
  obtain ⟨item, hitem, h⟩ := Except.bind_eq_ok_iff.mp h
  obtain ⟨interfaces, hinterfaces, h⟩ := Except.bind_eq_ok_iff.mp h
  cases h
  obtain ⟨hmem, rfl⟩ := adoption_by_identity_ok hitem
  have hidentity := value_error_eq_ok_iff.mp hidentity
  -- the item found under the identity is the object's own
  obtain ⟨other, hother, hsame, hkind, hselected⟩ := planned_of_mem hplan hmem
  have hown : other = discovered := List.inj_on_of_nodup_map hdistinct hother hdiscovered (hsame.trans hidentity.symm)
  subst hown
  have hcandidates : (object_candidates item).map ObjectCandidate.object_id = item.object_ids := by
    rw [object_candidates, List.map_map]
    rfl
  unfold object_interfaces at hinterfaces
  refine ⟨item, hmem, hidentity, hkind, hcandidates, ?_, ?_⟩
  all_goals
    by_cases hmanaged : item.classification = .MANAGED
  · rw [if_pos hmanaged] at hinterfaces
    obtain ⟨record, hrecord, hids⟩ := hselected hmanaged
    rw [hrecord] at hinterfaces
    intro interface hinterface hrefers
    refine ⟨hmanaged, by simp [hmanaged, object_classification], record.id, hids, ?_⟩
    exact managed_interfaces_owned hinterfaces interface (mem_mark_shared hinterface hrefers) hrefers
  · rw [if_neg hmanaged] at hinterfaces
    cases hinterfaces
    intro interface hinterface
    cases hinterface
  · rw [if_pos hmanaged] at hinterfaces
    obtain ⟨record, hrecord, hids⟩ := hselected hmanaged
    rw [hrecord] at hinterfaces
    exact mark_shared_nodup (managed_interfaces_owned hinterfaces)
  · rw [if_neg hmanaged] at hinterfaces
    cases hinterfaces
    exact List.nodup_nil

def EsxiMigrationPlan.objects (migration : EsxiMigrationPlan) : Kind → List ObjectMigrationItem
  | .host => migration.hosts
  | .vm => migration.virtual_machines

/-- No two items refer to one interface, and each refers to one interface of the managed object that its parent is. -/
structure EsxiMigrationPlan.Exclusive (nb : Catalog) (migration : EsxiMigrationPlan) : Prop where
  distinct : ∀ kind, ((migration.objects kind).flatMap ObjectMigrationItem.interface_ids).Nodup
  owned : ∀ kind, ∀ parent ∈ migration.objects kind, ∀ interface ∈ parent.interfaces,
    interface.refers = true → parent.classification = .MANAGED ∧
      ∃ id, parent.candidates.map ObjectCandidate.object_id = [id] ∧
        ∃ port ∈ nb.ports kind, port.parent = some id ∧ interface.interface_ids = [port.id]

theorem Migrated.mem_interface_ids {item : EsxiAdoptionItem} {parent : ObjectMigrationItem}
    (h : Migrated nb item kind parent) {interface_id : Int} (hid : interface_id ∈ parent.interface_ids) :
    item.classification = .MANAGED ∧ ∃ id ∈ item.object_ids,
      ∃ port ∈ nb.ports kind, port.parent = some id ∧ port.id = interface_id := by
  obtain ⟨interface, hinterface, hid⟩ := List.mem_flatMap.mp hid
  obtain ⟨hmem, hrefers⟩ := List.mem_filter.mp hinterface
  obtain ⟨hmanaged, -, id, hids, port, hport, hinterface⟩ := h.managed interface hmem hrefers
  obtain ⟨hport, hparent⟩ := mem_owned_interfaces.mp hport
  rw [hinterface, List.mem_singleton] at hid
  exact ⟨hmanaged, id, by rw [hids]; exact List.mem_singleton_self id, port, hport, hparent, hid.symm⟩

theorem build_esxi_migration_plan_exclusive (hdistinct : ((objects hosts).map object_identity).Nodup)
    (hplan : build_esxi_adoption_plan env nb hosts config = .ok plan) (hexclusive : plan.Exclusive)
    {migration : EsxiMigrationPlan} (h : build_esxi_migration_plan env nb hosts config = .ok migration) :
    migration.Exclusive nb := by
  unfold build_esxi_migration_plan at h
  rw [hplan, Except.ok_bind] at h
  obtain ⟨results, hresults, h⟩ := Except.bind_eq_ok_iff.mp h
  have hobjects : ∀ kind, migration.objects kind = of_kind kind results := by
    cases h
    intro kind
    cases kind <;> rfl
  have hresults := Except.mapM_eq_ok_iff.mp hresults
  have hmember : ∀ kind, ∀ parent ∈ of_kind kind results, ∃ item ∈ plan.items, Migrated nb item kind parent := by
    intro kind parent hparent
    obtain ⟨result, hresult, rfl⟩ := List.mem_map.mp hparent
    obtain ⟨hresult, hkind⟩ := List.mem_filter.mp hresult
    obtain ⟨discovered, hdiscovered, hmigrate⟩ := hresults.exists_of_mem_right hresult
    obtain ⟨item, hitem, -, hmigrated⟩ := migrate_object_ok hdistinct hplan hdiscovered hmigrate
    rw [of_decide_eq_true hkind] at hmigrated
    exact ⟨item, hitem, hmigrated⟩
  constructor
  · intro kind
    rw [hobjects, List.nodup_flatMap]
    refine ⟨fun parent hparent => ?_, ?_⟩
    · obtain ⟨item, -, hmigrated⟩ := hmember kind parent hparent
      exact hmigrated.nodup
    rw [of_kind, List.pairwise_map, List.pairwise_filter, List.pairwise_iff_forall_sublist]
    intro a b hsub hkinda hkindb interface_id hida hidb
    obtain ⟨x, y, hxy, hx, hy⟩ := pair_of_sublist hresults hsub
    have hxmem : x ∈ objects hosts := hxy.subset List.mem_cons_self
    have hymem : y ∈ objects hosts := hxy.subset (List.mem_cons_of_mem _ (List.mem_singleton_self y))
    obtain ⟨itemx, hitemx, hidentityx, hmigratedx⟩ := migrate_object_ok hdistinct hplan hxmem hx
    obtain ⟨itemy, hitemy, hidentityy, hmigratedy⟩ := migrate_object_ok hdistinct hplan hymem hy
    rw [of_decide_eq_true hkinda] at hmigratedx
    rw [of_decide_eq_true hkindb] at hmigratedy
    obtain ⟨hmanagedx, idx, hidx, portx, hportx, hparentx, rfl⟩ := hmigratedx.mem_interface_ids hida
    obtain ⟨hmanagedy, idy, hidy, porty, hporty, hparenty, hports⟩ := hmigratedy.mem_interface_ids hidb
    rw [Catalog.port_of_id hporty hportx hports, hparentx] at hparenty
    cases hparenty
    have hne : itemx ≠ itemy := by
      rintro rfl
      have hpair : ([x, y].map object_identity).Nodup := hdistinct.sublist (hxy.map _)
      rw [List.map_cons, List.map_singleton, hidentityx, hidentityy] at hpair
      simp at hpair
    have hapart : Apart itemx itemy := hexclusive.forall hitemx hitemy hne
    exact hapart (by simp [hmanagedx]) (by simp [hmanagedy]) (hmigratedx.object_kind.trans hmigratedy.object_kind.symm)
      hidx hidy
  · intro kind parent hparent interface hinterface hrefers
    rw [hobjects] at hparent
    obtain ⟨item, -, hmigrated⟩ := hmember kind parent hparent
    obtain ⟨-, hmanaged, id, hids, port, hport, hinterface⟩ := hmigrated.managed interface hinterface hrefers
    obtain ⟨hport, hparent⟩ := mem_owned_interfaces.mp hport
    exact ⟨hmanaged, id, hmigrated.candidates.trans hids, port, hport, hparent, hinterface⟩

end netbox_sync.esxi_migration
