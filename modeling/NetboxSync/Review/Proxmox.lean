import NetboxSync.Netbox.Records

open json

namespace netbox_sync.discovery_review

open netbox source_identity

inductive ReviewClassification where
  | MANAGED
  | REVIEW_REQUIRED
  | WOULD_CREATE
  | IGNORED
  | UNSUPPORTED
  | CONFLICT
  | NO_CHANGE
deriving DecidableEq, Repr

structure ReviewItem where
  object_kind : String
  name : String
  external_id : String
  classification : ReviewClassification
  reason_code : String
  reason : String
  future_action : String
  matched_object_id : Option Int := none
  matched_object_name : Option String := none
  properties : Fields := []
deriving DecidableEq, Repr

/-- `identity.to_record() in _identities(record)` -/
def in_identities (identity : SourceIdentity) (record : VirtualMachine) : Bool :=
  (identityRecords record.custom_fields).any (fun value => identity.to_record.eq value)

/-- What `_generic_item` returns where no single record of the target holds the identity. -/
def unmanaged_item (original_name kind : String) (identity : SourceIdentity)
    (managed names : List VirtualMachine) : ReviewItem :=
  if managed ≠ [] then
    { object_kind := kind, name := original_name, external_id := identity.external_id,
      classification := .CONFLICT, reason_code := "IDENTITY_SCOPE_CONFLICT",
      reason := "The stable identity is duplicated or outside the configured target.",
      future_action := "review" }
  else if names.any (fun record => identityRecords record.custom_fields ≠ []) then
    { object_kind := kind, name := original_name, external_id := identity.external_id,
      classification := .CONFLICT, reason_code := "OTHER_SOURCE_OWNERSHIP",
      reason := "A matching object retains another source identity. Re-registration does not restore ownership.",
      future_action := "review" }
  else if names ≠ [] then
    { object_kind := kind, name := original_name, external_id := identity.external_id,
      classification := .REVIEW_REQUIRED, reason_code := "NAME_ONLY_CANDIDATE",
      reason := "A name match exists but names are not identity evidence.",
      future_action := "review" }
  else
    { object_kind := kind, name := original_name, external_id := identity.external_id,
      classification := .WOULD_CREATE, reason_code := "NO_IDENTITY_MATCH",
      reason := "No existing object has this stable source identity.",
      future_action := "create" }

variable (casefold : String → String) (content : Content) (cluster_id : Int)

/-- `_generic_item`; `casefold` is `str.casefold`. -/
def generic_item (original_name kind : String) (identity : SourceIdentity)
    (all_records target_records : List VirtualMachine) : ReviewItem :=
  let managed := all_records.filter (in_identities identity)
  let target_ids := target_records.map VirtualMachine.id
  let names := target_records.filter (fun record => casefold record.name = casefold original_name)
  match managed with
  | [record] =>
    if record.id ∈ target_ids then
      { object_kind := kind, name := original_name, external_id := identity.external_id,
        classification := .MANAGED, reason_code := "IDENTITY_MATCH",
        reason := "Stable source identity matches an existing NetBox object.",
        future_action := "none", matched_object_id := some record.id,
        matched_object_name := some record.name }
    else unmanaged_item original_name kind identity managed names
  | _ => unmanaged_item original_name kind identity managed names

theorem unmanaged_item_ne_managed (original_name kind : String) (identity : SourceIdentity)
    (managed names : List VirtualMachine) :
    (unmanaged_item original_name kind identity managed names).classification ≠ .MANAGED := by
  rw [unmanaged_item]
  split
  · simp
  split
  · simp
  split <;> simp

/-- The VMs of a NetBox, with distinct ids. -/
structure Content where
  vms : List VirtualMachine
  nodup : (vms.map VirtualMachine.id).Nodup

/-- `target_vms` of `build_proxmox_review`. -/
def Content.target_vms : List VirtualMachine := content.vms.filter (fun record => record.cluster = some cluster_id)

/-- The item `build_proxmox_review` makes for one guest of a host. -/
def review_guest (guest : Guest) : Except String ReviewItem :=
  match guest_source_identity guest with
  | .error error => .error error
  | .ok identity =>
    let kind := match guest with
      | .machine _ => "qemu"
      | .container _ => "lxc"
    .ok (generic_item casefold guest.original_name kind identity content.vms (content.target_vms cluster_id))

theorem Content.eq_of_id {a b : VirtualMachine} (ha : a ∈ content.vms) (hb : b ∈ content.vms) (h : a.id = b.id) :
    a = b :=
  List.inj_on_of_nodup_map content.nodup ha hb h

theorem Content.id_mem_target {record : VirtualMachine} (h : record ∈ content.vms) :
    record.id ∈ (content.target_vms cluster_id).map VirtualMachine.id ↔ record.cluster = some cluster_id := by
  constructor
  · intro hmem
    obtain ⟨other, hother, hid⟩ := List.mem_map.mp hmem
    obtain ⟨hother, hcluster⟩ := List.mem_filter.mp hother
    rw [← content.eq_of_id hother h hid]
    simpa using hcluster
  · intro hcluster
    exact List.mem_map.mpr ⟨record, List.mem_filter.mpr ⟨h, by simpa using hcluster⟩, rfl⟩

/-- A guest is managed exactly when one VM of the content carries its record as written and lies in the target
    cluster. -/
theorem generic_item_managed_iff (original_name kind : String) (identity : SourceIdentity) {x : VirtualMachine}
    (hx : x ∈ content.vms) {item : ReviewItem}
    (hitem : item = generic_item casefold original_name kind identity content.vms (content.target_vms cluster_id)) :
    item.classification = .MANAGED ∧ item.matched_object_id = some x.id ↔
      content.vms.filter (in_identities identity) = [x] ∧ x.cluster = some cluster_id := by
  have hmem : ∀ {record}, content.vms.filter (in_identities identity) = [record] → record ∈ content.vms :=
    fun h => (List.mem_filter.mp (h ▸ List.mem_singleton_self _)).1
  rw [generic_item] at hitem
  split at hitem
  · next record hmanaged =>
    split at hitem
    · next htarget =>
      have hrecord := hmem hmanaged
      rw [content.id_mem_target cluster_id hrecord] at htarget
      rw [hitem]
      simp only [true_and, Option.some.injEq, hmanaged, List.cons.injEq, and_true]
      constructor
      · intro hid
        have heq := content.eq_of_id hrecord hx hid
        exact ⟨heq, heq ▸ htarget⟩
      · exact fun h => congrArg VirtualMachine.id h.1
    · next htarget =>
      have hne := unmanaged_item_ne_managed original_name kind identity (content.vms.filter (in_identities identity))
      constructor
      · exact fun h => absurd (hitem ▸ h.1) (hne _)
      · rintro ⟨hsingle, hcluster⟩
        rw [hmanaged, List.cons.injEq] at hsingle
        rw [content.id_mem_target cluster_id (hmem hmanaged), hsingle.1] at htarget
        exact absurd hcluster htarget
  · next hmany =>
    constructor
    · exact fun h => absurd (hitem ▸ h.1) (unmanaged_item_ne_managed _ _ _ _ _)
    · exact fun h => absurd h.1 (hmany x)

theorem generic_item_reason_of_managed {casefold : String → String} {original_name kind : String}
    {identity : SourceIdentity} {all_records target_records : List VirtualMachine}
    (h : (generic_item casefold original_name kind identity all_records target_records).classification = .MANAGED) :
    (generic_item casefold original_name kind identity all_records target_records).reason_code =
      "IDENTITY_MATCH" := by
  rw [generic_item] at h ⊢
  split at h
  · next hmanaged =>
    split at h
    · next htarget => simp [htarget]
    · exact absurd h (unmanaged_item_ne_managed _ _ _ _ _)
  · exact absurd h (unmanaged_item_ne_managed _ _ _ _ _)

end netbox_sync.discovery_review
