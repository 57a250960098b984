import NetboxSync.Network.Inventory

open json

namespace netbox_sync.network_matching

open discovery netbox source_identity netbox_vm_interface_metadata network_preflight

/-- The v2 identity a NIC had while it was made from the name. -/
def former_identity (desired : SourceIdentity) (guest : Guest) (nic : DiscoveredInterface) : SourceIdentity where
  type := desired.type
  «instance» := desired.instance
  kind := desired.kind
  external_id := guest.vmid ++ ":" ++ nic.name
  required := by
    obtain ⟨htype, hinstance, hkind, _⟩ := desired.required
    refine ⟨htype, hinstance, hkind, ?_⟩
    have hcolon : isSpace ':' = false := by decide
    simp [blank, hcolon]

section

variable (py : python.Runtime) (guest : Guest) (nic : DiscoveredInterface)

/-- The v1 record of the NIC's name, where the guest's source owns those. -/
def heldBefore (custom_fields : Fields) : Bool :=
  match nic_source_identity guest nic with
  | .error _ => false
  | .ok desired => guest.legacy_identity_owner &&
      holdsLegacy py.repr desired [nic_identity_source_id guest nic] custom_fields

/-- The v2 record of the NIC's key, or that of its name where the NIC may still be known by it and no v1 record speaks
    first. -/
def heldNow (custom_fields : Fields) : Bool :=
  match nic_source_identity guest nic with
  | .error _ => false
  | .ok desired => holdsV2 py.repr desired custom_fields ||
      (named_before desired nic && !heldBefore py guest nic custom_fields &&
        holdsV2 py.repr (former_identity desired guest nic) custom_fields)

/-- The interface has the strongest record of the NIC among the interfaces. -/
def claims (interfaces : List VMInterface) (x : VMInterface) : Bool :=
  heldNow py guest nic x.custom_fields ||
    (heldBefore py guest nic x.custom_fields &&
      !interfaces.any (fun y => heldNow py guest nic y.custom_fields))

/-- The record is a v2 or permitted legacy identity of the NIC. -/
def identifies (value : Value) : Bool :=
  match nic_source_identity guest nic with
  | .error _ => false
  | .ok desired => decide (from_record py.repr value = .ok (some desired)) ||
      (named_before desired nic &&
        decide (from_record py.repr value = .ok (some (former_identity desired guest nic)))) ||
      (guest.legacy_identity_owner &&
        legacy_identity py.repr desired [nic_identity_source_id guest nic] value)

end

section

variable {py : python.Runtime} {guest : Guest} {nic : DiscoveredInterface} {desired : SourceIdentity}

theorem build_former_identity :
    SourceIdentity.build desired.type desired.instance desired.kind (guest.vmid ++ ":" ++ nic.name) =
      .ok (former_identity desired guest nic) :=
  SourceIdentity.build_self (former_identity desired guest nic)

section

variable (hdesired : nic_source_identity guest nic = .ok desired)
include hdesired

theorem nic_rank_ok {custom_fields : Fields} {rank : Nat}
    (h : nic_sync_identity_match_rank py custom_fields guest nic = .ok rank) :
    rank = if heldNow py guest nic custom_fields then V2_IDENTITY_MATCH
      else if heldBefore py guest nic custom_fields then LEGACY_IDENTITY_MATCH
      else NO_IDENTITY_MATCH := by
  unfold nic_sync_identity_match_rank at h
  rw [hdesired, Except.ok_bind] at h
  obtain ⟨first, hfirst, hrest⟩ := Except.bind_eq_ok_iff.mp h
  have hrank := source_identity_match_rank_ok hfirst
  unfold identityRank at hrank
  simp only [heldNow, heldBefore, hdesired]
  cases hv2 : holdsV2 py.repr desired custom_fields with
  | true =>
    rw [hv2, if_pos rfl] at hrank
    subst hrank
    cases hrest
    simp
  | false =>
    rw [hv2, if_neg (by simp)] at hrank
    cases hlegacy : guest.legacy_identity_owner &&
        holdsLegacy py.repr desired [nic_identity_source_id guest nic] custom_fields with
    | true =>
      rw [hlegacy, if_pos rfl] at hrank
      subst hrank
      cases hrest
      simp
    | false =>
      rw [hlegacy, if_neg (by simp)] at hrank
      subst hrank
      cases hnamed : named_before desired nic with
      | false =>
        simp only [hnamed, Bool.not_false, Bool.or_true, if_true] at hrest
        cases hrest
        simp
      | true =>
        simp only [hnamed, build_former_identity, Except.ok_bind, NO_IDENTITY_MATCH, ne_eq,
          not_true_eq_false, decide_false, Bool.not_true, Bool.or_self, Bool.false_eq_true,
          if_false] at hrest
        have hformer := source_identity_match_rank_ok hrest
        rw [hformer, identityRank]
        simp

/-- The matcher returns exactly the claimed interfaces, in order. -/
theorem find_nic_matches_ok {interfaces owners : List VMInterface}
    (h : find_nic_sync_identity_matches py interfaces guest nic = .ok owners) :
    owners = interfaces.filter (claims py guest nic interfaces) := by
  rw [select_best_identity_matches_ok (fun c value hc => nic_rank_ok hdesired hc) h, topRanked_two_levels]
  split
  · next hnone =>
    rw [List.filter_eq_nil_iff] at hnone
    apply List.filter_congr
    intro x hx
    have hno : interfaces.any (fun y => heldNow py guest nic y.custom_fields) = false := by
      rw [List.any_eq_false]
      exact hnone
    have hx := hnone x hx
    simp only [Bool.not_eq_true] at hx
    simp [claims, hno, hx]
  · next hsome =>
    have hany : interfaces.any (fun y => heldNow py guest nic y.custom_fields) = true := by
      obtain ⟨y, hy⟩ := List.exists_mem_of_ne_nil _ hsome
      obtain ⟨hmem, hheld⟩ := List.mem_filter.mp hy
      exact List.any_eq_true.mpr ⟨y, hmem, hheld⟩
    apply List.filter_congr
    intro x _
    simp [claims, hany]

/-- The owner of a NIC is its only claimed interface. -/
theorem identity_owner_ok {duplicate adoption : String} {interfaces : List VMInterface} {owner : Option VMInterface}
    (h : identity_owner py duplicate adoption interfaces guest nic = .ok owner) :
    interfaces.filter (claims py guest nic interfaces) = owner.toList := by
  unfold identity_owner at h
  obtain ⟨owners, howners, hrest⟩ := Except.bind_eq_ok_iff.mp h
  rw [← find_nic_matches_ok hdesired howners]
  split at hrest
  · cases hrest
    rfl
  · cases hrest
  · split at hrest
    · cases hrest
    · cases hrest
      rfl

end

end

/-- The part of a NIC's identity that names its guest. -/
def nic_base : Guest → String
  | .machine vm =>
    if vm.source = "esxi" then orText vm.external_id (Guest.machine vm).vmid else (Guest.machine vm).vmid
  | .container c => (Guest.container c).vmid

def nic_kind : Guest → String
  | .machine vm => if vm.source = "esxi" then "vm-nic" else "qemu-nic"
  | .container _ => "lxc-nic"

theorem nic_source_identity_eq (guest : Guest) (nic : DiscoveredInterface) :
    nic_source_identity guest nic = identity guest (nic_kind guest) (nic_base guest ++ ":" ++ nic_id nic) := by
  cases guest with
  | machine vm =>
    simp only [nic_source_identity, virtual_machine_nic_source_identity, qemu_nic_source_identity, nic_kind, nic_base]
    split <;> rfl
  | container c => rfl

/-- A Proxmox container's NIC whose name is not its key. -/
def renamed (guest : Guest) (nic : DiscoveredInterface) : Bool :=
  guest.source = "proxmox" && nic_kind guest = "lxc-nic" && nic.external_id.getD "" ≠ "" &&
    nic.external_id.getD "" ≠ nic.name

section

variable {guest : Guest} {nic other : DiscoveredInterface} {desired wanted : SourceIdentity}

theorem nic_identity_fields (h : nic_source_identity guest nic = .ok desired) :
    desired.type = guest.source ∧ desired.instance = guest.source_instance ∧
      desired.kind = nic_kind guest ∧ desired.external_id = nic_base guest ++ ":" ++ nic_id nic := by
  rw [nic_source_identity_eq] at h
  exact SourceIdentity.build_fields h

theorem named_before_eq (h : nic_source_identity guest nic = .ok desired) :
    named_before desired nic = renamed guest nic := by
  obtain ⟨htype, _, hkind, _⟩ := nic_identity_fields h
  simp only [named_before, renamed, htype, hkind]

theorem nic_base_of_renamed (h : renamed guest nic = true) : nic_base guest = guest.vmid := by
  cases guest with
  | machine vm =>
    simp only [renamed, nic_kind, Bool.and_eq_true, decide_eq_true_eq] at h
    have hkind := h.1.1.2
    split at hkind <;> simp at hkind
  | container c => rfl

theorem SourceIdentity.ext_of_external_id (htype : desired.type = wanted.type)
    (hinstance : desired.instance = wanted.instance) (hkind : desired.kind = wanted.kind)
    (hid : desired.external_id = wanted.external_id) : desired = wanted := by
  cases desired
  cases wanted
  simp_all

section

variable (h : nic_source_identity guest nic = .ok desired) (hother : nic_source_identity guest other = .ok wanted)
include h hother

theorem nic_identity_eq_iff : desired = wanted ↔ nic_id nic = nic_id other := by
  obtain ⟨htype, hinstance, hkind, hid⟩ := nic_identity_fields h
  obtain ⟨htype', hinstance', hkind', hid'⟩ := nic_identity_fields hother
  constructor
  · rintro rfl
    rw [hid'] at hid
    exact (String.append_right_inj _).mp hid.symm
  · intro hkey
    exact SourceIdentity.ext_of_external_id (htype.trans htype'.symm) (hinstance.trans hinstance'.symm)
      (hkind.trans hkind'.symm) (by rw [hid, hid', hkey])

theorem nic_identity_eq_former_iff (hrenamed : renamed guest other = true) :
    desired = former_identity wanted guest other ↔ nic_id nic = other.name := by
  obtain ⟨htype, hinstance, hkind, hid⟩ := nic_identity_fields h
  obtain ⟨htype', hinstance', hkind', _⟩ := nic_identity_fields hother
  rw [nic_base_of_renamed hrenamed] at hid
  constructor
  · intro heq
    rw [heq] at hid
    exact ((String.append_right_inj _).mp hid).symm
  · intro hkey
    exact SourceIdentity.ext_of_external_id (htype.trans htype'.symm) (hinstance.trans hinstance'.symm)
      (hkind.trans hkind'.symm) (by rw [hid, hkey]; rfl)

theorem former_identity_eq_iff :
    former_identity desired guest nic = former_identity wanted guest other ↔ nic.name = other.name := by
  obtain ⟨htype, hinstance, hkind, _⟩ := nic_identity_fields h
  obtain ⟨htype', hinstance', hkind', _⟩ := nic_identity_fields hother
  constructor
  · intro heq
    exact (String.append_right_inj _).mp (congrArg SourceIdentity.external_id heq)
  · intro hname
    exact SourceIdentity.ext_of_external_id (htype.trans htype'.symm) (hinstance.trans hinstance'.symm)
      (hkind.trans hkind'.symm) (by simp [former_identity, hname])

end

end

end netbox_sync.network_matching
