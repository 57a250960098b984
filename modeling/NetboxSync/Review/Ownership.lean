import NetboxSync.Review.Proxmox

open json

namespace netbox_sync.discovery_review

open netbox source_identity

section

variable (repr : Value → String) (content : Content) (guest : Guest) (identity : SourceIdentity)

/-- The VMs with a v2 record that reads as the identity. -/
def v2Owners : List VirtualMachine := content.vms.filter (fun record => holdsV2 repr identity record.custom_fields)

/-- The VMs with the record of the identity exactly as it is written. -/
def writtenOwners : List VirtualMachine := content.vms.filter (in_identities identity)

/-- The VMs with a legacy record the guest may still claim. -/
def legacyOwners : List VirtualMachine :=
  content.vms.filter (fun record => guest.legacy_identity_owner &&
    holdsLegacy repr identity (guest_legacy_ids guest) record.custom_fields)

end

section

variable {repr : Value → String} {content : Content} {guest : Guest} {identity : SourceIdentity}

/-- The executor takes the v2 owners, and the legacy owners where there are none. -/
theorem find_guest_matches_eq (hreadable : ∀ record ∈ content.vms, Readable repr record.custom_fields)
    (hidentity : guest_source_identity guest = .ok identity) :
    find_guest_matches repr content.vms guest =
      .ok (if v2Owners repr content identity = [] then legacyOwners repr content guest identity
        else v2Owners repr content identity) := by
  have hrank : ∀ record ∈ content.vms, guest_match_rank repr record.custom_fields guest =
      .ok (identityRank repr identity (guest_legacy_ids guest) guest.legacy_identity_owner
        record.custom_fields) := by
    intro record hrecord
    rw [guest_match_rank_eq hidentity]
    exact source_identity_match_rank_eq (hreadable record hrecord) _ _ _
  rw [find_guest_matches, select_best_identity_matches_eq hrank, Except.ok.injEq]
  exact topRanked_two_levels

/-- Whoever carries the record as written also has it read as the identity. -/
theorem writtenOwners_sublist : (writtenOwners content identity).Sublist (v2Owners repr content identity) := by
  have hholds : ∀ record : VirtualMachine, in_identities identity record = true →
      holdsV2 repr identity record.custom_fields = true := by
    intro record h
    obtain ⟨value, hmem, heq⟩ := List.any_eq_true.mp h
    exact List.any_eq_true.mpr ⟨value, hmem, decide_eq_true (from_record_of_eq heq)⟩
  have hfilter : writtenOwners content identity =
      (v2Owners repr content identity).filter (in_identities identity) := by
    rw [writtenOwners, v2Owners, List.filter_filter]
    refine List.filter_congr (fun record _ => ?_)
    cases h : in_identities identity record with
    | true => simp [hholds record h]
    | false => rfl
  rw [hfilter]
  exact List.filter_sublist

end

/-- Review and executor agree on who owns a guest: it is managed with `x` exactly when the matcher returns `x` alone
    and `x` lies in the target cluster, so an object the executor would update is never reported as new or as another
    source's. -/
structure OwnershipAgrees (repr : Value → String) (casefold : String → String) (content : Content)
    (cluster_id : Int) (guest : Guest) : Prop where
  managed_iff : ∀ x ∈ content.vms,
    (∃ item, review_guest casefold content cluster_id guest = .ok item ∧
        item.classification = .MANAGED ∧ item.matched_object_id = some x.id) ↔
      find_guest_matches repr content.vms guest = .ok [x] ∧ x.cluster = some cluster_id
  not_misreported : ∀ x item, find_guest_matches repr content.vms guest = .ok [x] →
    x.cluster = some cluster_id → review_guest casefold content cluster_id guest = .ok item →
      item.classification ≠ .WOULD_CREATE ∧ item.reason_code ≠ "OTHER_SOURCE_OWNERSHIP"

/-- The kinds of content on which the two matchers part ways are absent: a guest owned by a single legacy record of
    the target, a single v2 owner of the target whose record is spelled otherwise, and several v2 owners of which a
    single one, of the target, carries the record as written. -/
structure SpelledOwnership (repr : Value → String) (content : Content) (cluster_id : Int) (guest : Guest)
    (identity : SourceIdentity) : Prop where
  no_legacy_owner : v2Owners repr content identity = [] →
    ∀ x, legacyOwners repr content guest identity = [x] → x.cluster ≠ some cluster_id
  written : ∀ x, v2Owners repr content identity = [x] → x.cluster = some cluster_id → in_identities identity x = true
  no_written_among_many : 1 < (v2Owners repr content identity).length →
    ∀ x, writtenOwners content identity = [x] → x.cluster ≠ some cluster_id

section

variable {repr : Value → String} {casefold : String → String} {content : Content} {cluster_id : Int}
  {guest : Guest} {identity : SourceIdentity}

theorem review_managed_iff (hidentity : guest_source_identity guest = .ok identity)
    {x : VirtualMachine} (hx : x ∈ content.vms) :
    (∃ item, review_guest casefold content cluster_id guest = .ok item ∧
        item.classification = .MANAGED ∧ item.matched_object_id = some x.id) ↔
      writtenOwners content identity = [x] ∧ x.cluster = some cluster_id := by
  simp only [review_guest, hidentity]
  constructor
  · rintro ⟨item, hitem, hmanaged⟩
    exact (generic_item_managed_iff casefold content cluster_id _ _ identity hx
      (Except.ok.inj hitem).symm).mp hmanaged
  · intro h
    exact ⟨_, rfl, (generic_item_managed_iff casefold content cluster_id _ _ identity hx rfl).mpr h⟩

/-- On every owner the two matchers name the same object exactly when the three kinds of content are absent. -/
theorem owners_agree_iff :
    (∀ x ∈ content.vms, (writtenOwners content identity = [x] ∧ x.cluster = some cluster_id ↔
      (if v2Owners repr content identity = [] then legacyOwners repr content guest identity
        else v2Owners repr content identity) = [x] ∧ x.cluster = some cluster_id)) ↔
      SpelledOwnership repr content cluster_id guest identity := by
  have hsublist : (writtenOwners content identity).Sublist (v2Owners repr content identity) := writtenOwners_sublist
  have hmem : ∀ {p : VirtualMachine → Bool} {x}, content.vms.filter p = [x] → x ∈ content.vms :=
    fun h => (List.mem_filter.mp (h ▸ List.mem_singleton_self _)).1
  have hwritten : ∀ x, writtenOwners content identity = [x] → in_identities identity x = true := by
    intro x h
    have hx : x ∈ writtenOwners content identity := by simp [h]
    exact (List.mem_filter.mp hx).2
  constructor
  · intro h
    refine ⟨fun hnone x hlegacy hcluster => ?_, fun x hsingle hcluster => ?_, fun hmany x hone hcluster => ?_⟩
    · rw [hnone, List.sublist_nil] at hsublist
      have howner := (h x (hmem hlegacy)).mpr (by rw [if_pos hnone]; exact ⟨hlegacy, hcluster⟩)
      rw [hsublist] at howner
      exact absurd howner.1 (by simp)
    · have howner := (h x (hmem hsingle)).mpr (by rw [if_neg (by simp [hsingle])]; exact ⟨hsingle, hcluster⟩)
      exact hwritten x howner.1
    · have howner := (h x (hmem hone)).mp ⟨hone, hcluster⟩
      rw [if_neg (by intro hnil; simp [hnil] at hmany)] at howner
      rw [howner.1] at hmany
      simp at hmany
  · rintro ⟨hlegacy, hspelled, hmany⟩ x hx
    constructor
    · rintro ⟨hone, hcluster⟩
      refine ⟨?_, hcluster⟩
      rw [hone, List.singleton_sublist] at hsublist
      have hne : v2Owners repr content identity ≠ [] := List.ne_nil_of_mem hsublist
      rw [if_neg hne]
      by_cases hlength : 1 < (v2Owners repr content identity).length
      · exact absurd hcluster (hmany hlength x hone)
      · obtain ⟨y, hy⟩ : ∃ y, v2Owners repr content identity = [y] :=
          List.length_eq_one_iff.mp (by have := List.length_pos_iff.mpr hne; omega)
        rw [hy] at hsublist ⊢
        rw [List.mem_singleton.mp hsublist]
    · rintro ⟨hone, hcluster⟩
      refine ⟨?_, hcluster⟩
      split at hone
      · next hnone => exact absurd hcluster (hlegacy hnone x hone)
      · have hin := hspelled x hone hcluster
        have hxmem : x ∈ writtenOwners content identity := List.mem_filter.mpr ⟨hx, hin⟩
        rw [hone] at hsublist
        rcases List.sublist_singleton.mp hsublist with hnil | hsame
        · simp [hnil] at hxmem
        · exact hsame

end

/-- A guest without an identity is matched with nothing. -/
theorem find_guest_matches_ne_singleton {repr : Value → String} {guest : Guest} {error : String}
    (h : guest_source_identity guest = .error error) (vms : List VirtualMachine) (x : VirtualMachine) :
    find_guest_matches repr vms guest ≠ .ok [x] := by
  have hrank : ∀ custom_fields, guest_match_rank repr custom_fields guest = .error error := by
    intro custom_fields
    cases guest with
    | machine vm =>
      have hid : source_identity.virtual_machine_source_identity vm = .error error := h
      simp [guest_match_rank, vm_sync_identity_match_rank, hid]
    | container c =>
      have hid : source_identity.lxc_source_identity c = .error error := h
      simp [guest_match_rank, lxc_sync_identity_match_rank, hid]
  cases vms <;> simp [find_guest_matches, select_best_identity_matches, select_loop, hrank]

/-- On content without malformed identity records, review and executor agree on a guest exactly when none of the three
    kinds of content is present. -/
theorem ownership_agrees_iff {repr : Value → String} (casefold : String → String) {content : Content}
    (cluster_id : Int) (guest : Guest) (hreadable : ∀ record ∈ content.vms, Readable repr record.custom_fields) :
    OwnershipAgrees repr casefold content cluster_id guest ↔
      ∀ identity, guest_source_identity guest = .ok identity →
        SpelledOwnership repr content cluster_id guest identity := by
  constructor
  · intro h identity hidentity
    rw [← owners_agree_iff]
    intro x hx
    refine (review_managed_iff hidentity hx).symm.trans ((h.managed_iff x hx).trans ?_)
    rw [find_guest_matches_eq hreadable hidentity, Except.ok.injEq]
  · intro h
    have hmanaged : ∀ x ∈ content.vms,
        ((∃ item, review_guest casefold content cluster_id guest = .ok item ∧
            item.classification = .MANAGED ∧ item.matched_object_id = some x.id) ↔
          find_guest_matches repr content.vms guest = .ok [x] ∧ x.cluster = some cluster_id) := by
      intro x hx
      cases hidentity : guest_source_identity guest with
      | error error =>
        simp [review_guest, hidentity, find_guest_matches_ne_singleton hidentity]
      | ok identity =>
        rw [review_managed_iff hidentity hx, owners_agree_iff.mpr (h identity hidentity) x hx,
          find_guest_matches_eq hreadable hidentity, Except.ok.injEq]
    refine ⟨hmanaged, fun x item hmatch hcluster hitem => ?_⟩
    have hx : x ∈ content.vms := by
      cases hidentity : guest_source_identity guest with
      | error error => exact absurd hmatch (find_guest_matches_ne_singleton hidentity _ x)
      | ok identity =>
        rw [find_guest_matches_eq hreadable hidentity, Except.ok.injEq] at hmatch
        have hmem : x ∈ [x] := List.mem_singleton_self x
        rw [← hmatch] at hmem
        split at hmem <;> exact (List.mem_filter.mp hmem).1
    obtain ⟨managed, hreview, hclass, _⟩ := (hmanaged x hx).mpr ⟨hmatch, hcluster⟩
    rw [hreview, Except.ok.injEq] at hitem
    subst hitem
    have hreason : managed.reason_code = "IDENTITY_MATCH" := by
      simp only [review_guest] at hreview
      split at hreview
      · cases hreview
      · cases hreview
        exact generic_item_reason_of_managed hclass
    exact ⟨by simp [hclass], by simp [hreason]⟩

/-- A Proxmox VM of a source that owns the legacy identities. -/
def legacyOwnedVm : discovery.DiscoveredVirtualMachine :=
  { source := "proxmox", source_instance := "proxmox-1", legacy_identity_owner := true,
    source_id := "proxmox:pve:100", node_source_id := "pve", vmid := .int 100,
    original_name := "web", normalized_name := "web", status := "running", vcpus := 1,
    memory_bytes := 0, autostart := false }

/-- A VM of the target cluster whose name is not the guest's. -/
def vmWithIdentities (identities : List Value) : VirtualMachine :=
  { id := 7, name := "db", cluster := some 1, custom_fields := [("sync_identities", .arr identities)] }

def contentOf (vm : VirtualMachine) : Content := ⟨[vm], by simp⟩

def legacyContent : Content :=
  contentOf (vmWithIdentities [.obj [("source", .str "proxmox"), ("source_id", .str "pve:100")]])

/-- The executor would update the VM with the legacy record, and the review calls the guest new. -/
theorem legacy_owner_is_reported_new :
    (∀ record ∈ legacyContent.vms, Readable (fun _ => "") record.custom_fields) ∧
      find_guest_matches (fun _ => "") legacyContent.vms (.machine legacyOwnedVm) = .ok legacyContent.vms ∧
      (review_guest id legacyContent 1 (.machine legacyOwnedVm)).map ReviewItem.classification = .ok .WOULD_CREATE ∧
      ¬ OwnershipAgrees (fun _ => "") id legacyContent 1 (.machine legacyOwnedVm) := by
  have hmatch : find_guest_matches (fun _ => "") legacyContent.vms (.machine legacyOwnedVm) =
      .ok legacyContent.vms := by decide
  have hreview : (review_guest id legacyContent 1 (.machine legacyOwnedVm)).map
      ReviewItem.classification = .ok .WOULD_CREATE := by decide
  refine ⟨?_, hmatch, hreview, fun hagree => ?_⟩
  · intro record hrecord value hvalue
    simp only [legacyContent, contentOf, List.mem_singleton] at hrecord
    subst hrecord
    simp only [vmWithIdentities, identityRecords, sync_identities, dict.get, if_true, Option.getD_some,
      List.mem_singleton] at hvalue
    exact ⟨none, by rw [hvalue]; decide⟩
  · obtain ⟨item, hitem, hmanaged, _⟩ := (hagree.managed_iff _ List.mem_cons_self).mpr ⟨hmatch, rfl⟩
    rw [hitem] at hreview
    simp [Except.map, hmanaged] at hreview

/-- The identity of the VM as the executor writes it. -/
def writtenIdentity : SourceIdentity := ⟨"proxmox", "proxmox-1", "qemu", "100", by decide⟩

def writtenContent : Content := contentOf (vmWithIdentities [writtenIdentity.to_record])

theorem written_owner_is_agreed :
    (∀ record ∈ writtenContent.vms, Readable (fun _ => "") record.custom_fields) ∧
      OwnershipAgrees (fun _ => "") id writtenContent 1 (.machine legacyOwnedVm) := by
  have hreadable : ∀ record ∈ writtenContent.vms, Readable (fun _ => "") record.custom_fields := by
    intro record hrecord value hvalue
    simp only [writtenContent, contentOf, List.mem_singleton] at hrecord
    subst hrecord
    simp only [vmWithIdentities, identityRecords, sync_identities, dict.get, if_true, Option.getD_some,
      List.mem_singleton] at hvalue
    exact ⟨some writtenIdentity, hvalue ▸ from_record_of_eq (Value.eq_refl _)⟩
  refine ⟨hreadable, (ownership_agrees_iff id 1 _ hreadable).mpr ?_⟩
  intro identity hidentity
  have hwritten : guest_source_identity (.machine legacyOwnedVm) = .ok writtenIdentity := by decide
  obtain rfl : writtenIdentity = identity := Except.ok.inj (hwritten.symm.trans hidentity)
  have howners : v2Owners (fun _ => "") writtenContent writtenIdentity = writtenContent.vms := by decide
  refine ⟨fun hnone => ?_, fun x hx _ => ?_, fun hmany => ?_⟩
  · rw [howners] at hnone
    cases hnone
  · rw [howners] at hx
    cases hx
    decide
  · rw [howners] at hmany
    exact absurd hmany (by decide)

end netbox_sync.discovery_review
