import Mathlib.Data.List.Pairwise
import NetboxSync.Network.Matching

open json

namespace netbox_sync.network_matching

open discovery netbox source_identity netbox_vm_interface_metadata network_preflight network_inventory

/-- One record of the interface is an identity of this NIC and of no other: no other NIC has the key or, where it may
    be known by it, the name that the record spells. -/
inductive OwnRecord (py : python.Runtime) (guest : Guest) (nic : DiscoveredInterface)
    (desired : SourceIdentity) (custom_fields : Fields) : Prop
  | key (held : holdsV2 py.repr desired custom_fields = true)
      (own : ∀ other ∈ guest.interfaces, other.external_id ≠ nic.external_id →
        nic_id other ≠ nic_id nic ∧ (renamed guest other → other.name ≠ nic_id nic))
  | name (renamed_nic : renamed guest nic = true)
      (held : holdsV2 py.repr (former_identity desired guest nic) custom_fields = true)
      (own : ∀ other ∈ guest.interfaces, other.external_id ≠ nic.external_id →
        nic_id other ≠ nic.name ∧ (renamed guest other → other.name ≠ nic.name))
  | legacy (owner : guest.legacy_identity_owner = true)
      (held : holdsLegacy py.repr desired [nic_identity_source_id guest nic] custom_fields = true)
      (own : ∀ other ∈ guest.interfaces, other.external_id ≠ nic.external_id → other.name ≠ nic.name)

/-- No interface has the strongest record of two NICs, and whoever has the strongest record of a NIC has a record that
    is that NIC's alone. -/
structure UnsharedNics (py : python.Runtime) (guest : Guest) (interfaces : List VMInterface) : Prop where
  one_nic : ∀ nic ∈ guest.interfaces, ∀ other ∈ guest.interfaces,
    nic.external_id ≠ other.external_id → ∀ x ∈ interfaces,
      claims py guest nic interfaces x = true → claims py guest other interfaces x = false
  own_record : ∀ nic ∈ guest.interfaces, ∀ desired, nic_source_identity guest nic = .ok desired →
    ∀ x ∈ interfaces, claims py guest nic interfaces x = true → OwnRecord py guest nic desired x.custom_fields

/-- The two contexts do not carry the same existing interface. -/
def Apart (a b : NicContext) : Prop := ∀ x y, a.existing = some x → b.existing = some y → x.id ≠ y.id

instance : Std.Symm Apart := ⟨fun _ _ h x y hx hy heq => h y x hy hx heq.symm⟩

/-- No two NICs are matched with one interface, and each matched interface holds a v2 or permitted legacy identity of
    exactly its NIC. -/
structure MatchedExactly (py : python.Runtime) (guest : Guest) (nics : List NicContext) : Prop where
  injective : nics.Pairwise Apart
  exact : ∀ context ∈ nics, ∀ x, context.existing = some x →
    ∃ value ∈ identityRecords x.custom_fields, identifies py guest context.source value = true ∧
      ∀ other ∈ guest.interfaces, other.external_id ≠ context.source.external_id →
        identifies py guest other value = false

section

variable {py : python.Runtime} {guest : Guest} {nic other : DiscoveredInterface}
  {desired wanted : SourceIdentity} {value : Value}

theorem legacy_identity_of_v2 {repr : Value → String} {parsed : SourceIdentity}
    (h : from_record repr value = .ok (some parsed)) (ids : List String) :
    legacy_identity repr desired ids value = false := by
  cases value with
  | obj fields =>
    unfold from_record at h
    dsimp only at h
    split at h
    · cases h
    · next hschema =>
      simp only [ne_eq, not_not] at hschema
      simp [legacy_identity, hschema]
  | _ => rfl

theorem from_record_of_legacy {repr : Value → String} {ids : List String}
    (h : legacy_identity repr desired ids value = true) : from_record repr value = .ok none := by
  cases value with
  | obj fields =>
    simp only [legacy_identity, Bool.and_eq_true, decide_eq_true_eq] at h
    simp [from_record, h.1.1]
  | _ => simp [legacy_identity] at h

section

variable (h : nic_source_identity guest nic = .ok desired) (hother : nic_source_identity guest other = .ok wanted)
include h hother

theorem identifies_of_key (hvalue : from_record py.repr value = .ok (some desired)) :
    identifies py guest other value = true ↔
      nic_id other = nic_id nic ∨ (renamed guest other = true ∧ other.name = nic_id nic) := by
  simp only [identifies, hother, hvalue, named_before_eq hother, legacy_identity_of_v2 hvalue,
    Bool.and_false, Bool.or_false, Bool.or_eq_true, Bool.and_eq_true, decide_eq_true_eq,
    Except.ok.injEq, Option.some.injEq]
  rw [nic_identity_eq_iff h hother, eq_comm]
  apply or_congr Iff.rfl
  apply and_congr_right
  intro hrenamed
  rw [nic_identity_eq_former_iff h hother hrenamed, eq_comm]

theorem identifies_of_name (hrenamed : renamed guest nic = true)
    (hvalue : from_record py.repr value = .ok (some (former_identity desired guest nic))) :
    identifies py guest other value = true ↔
      nic_id other = nic.name ∨ (renamed guest other = true ∧ other.name = nic.name) := by
  simp only [identifies, hother, hvalue, named_before_eq hother, legacy_identity_of_v2 hvalue,
    Bool.and_false, Bool.or_false, Bool.or_eq_true, Bool.and_eq_true, decide_eq_true_eq,
    Except.ok.injEq, Option.some.injEq]
  rw [eq_comm, nic_identity_eq_former_iff hother h hrenamed, former_identity_eq_iff h hother]
  exact or_congr Iff.rfl (and_congr_right (fun _ => eq_comm))

theorem identifies_of_legacy (howner : guest.legacy_identity_owner = true)
    (hvalue : legacy_identity py.repr desired [nic_identity_source_id guest nic] value = true) :
    identifies py guest other value = true ↔ other.name = nic.name := by
  have hschema := from_record_of_legacy hvalue
  have htype : wanted.type = desired.type := (nic_identity_fields hother).1.trans (nic_identity_fields h).1.symm
  simp only [identifies, hother, hschema, howner, Except.ok.injEq, reduceCtorEq, decide_false,
    Bool.and_false, Bool.or_false, Bool.false_or, Bool.true_and]
  cases value with
  | obj fields =>
    simp only [legacy_identity, Bool.and_eq_true, decide_eq_true_eq, List.mem_singleton] at hvalue ⊢
    rw [htype, hvalue.2, nic_identity_source_id, nic_identity_source_id, String.append_right_inj]
    constructor
    · exact fun hall => hall.2.symm
    · exact fun hname => ⟨hvalue.1, hname.symm⟩
  | _ => simp [legacy_identity] at hvalue

end

theorem not_identifies_iff {p : Prop} (h : identifies py guest other value = true ↔ p) :
    identifies py guest other value = false ↔ ¬ p := by
  rw [← h, Bool.not_eq_true]

/-- A record that is one NIC's alone, in terms of the keys and names. -/
theorem exact_record_iff (h : nic_source_identity guest nic = .ok desired)
    (hall : ∀ other ∈ guest.interfaces, ∃ wanted, nic_source_identity guest other = .ok wanted)
    {custom_fields : Fields} :
    (∃ value ∈ identityRecords custom_fields, identifies py guest nic value = true ∧
      ∀ other ∈ guest.interfaces, other.external_id ≠ nic.external_id → identifies py guest other value = false) ↔
      OwnRecord py guest nic desired custom_fields := by
  constructor
  · rintro ⟨value, hvalue, hown, hothers⟩
    have hkind := hown
    simp only [identifies, h, named_before_eq h, Bool.or_eq_true, Bool.and_eq_true, decide_eq_true_eq] at hkind
    obtain (hkey | ⟨hrenamed, hname⟩) | ⟨howner, hlegacy⟩ := hkind
    · refine .key (List.any_eq_true.mpr ⟨value, hvalue, by simpa using hkey⟩) ?_
      intro other hmem hne
      obtain ⟨wanted, hwanted⟩ := hall other hmem
      have hno := (not_identifies_iff (identifies_of_key h hwanted hkey)).mp (hothers other hmem hne)
      exact ⟨fun heq => hno (.inl heq), fun hren hname => hno (.inr ⟨hren, hname⟩)⟩
    · refine .name hrenamed (List.any_eq_true.mpr ⟨value, hvalue, by simpa using hname⟩) ?_
      intro other hmem hne
      obtain ⟨wanted, hwanted⟩ := hall other hmem
      have hno := (not_identifies_iff (identifies_of_name h hwanted hrenamed hname)).mp (hothers other hmem hne)
      exact ⟨fun heq => hno (.inl heq), fun hren hname => hno (.inr ⟨hren, hname⟩)⟩
    · refine .legacy howner (List.any_eq_true.mpr ⟨value, hvalue, hlegacy⟩) ?_
      intro other hmem hne
      obtain ⟨wanted, hwanted⟩ := hall other hmem
      exact (not_identifies_iff (identifies_of_legacy h hwanted howner hlegacy)).mp (hothers other hmem hne)
  · intro hrecord
    cases hrecord with
    | key held own =>
      obtain ⟨value, hvalue, hkey⟩ := List.any_eq_true.mp held
      rw [decide_eq_true_eq] at hkey
      refine ⟨value, hvalue, (identifies_of_key h h hkey).mpr (.inl rfl), fun other hmem hne => ?_⟩
      obtain ⟨wanted, hwanted⟩ := hall other hmem
      rw [not_identifies_iff (identifies_of_key h hwanted hkey)]
      rintro (heq | ⟨hren, hname⟩)
      · exact (own other hmem hne).1 heq
      · exact (own other hmem hne).2 hren hname
    | name hrenamed held own =>
      obtain ⟨value, hvalue, hname⟩ := List.any_eq_true.mp held
      rw [decide_eq_true_eq] at hname
      refine ⟨value, hvalue, (identifies_of_name h h hrenamed hname).mpr (.inr ⟨hrenamed, rfl⟩),
        fun other hmem hne => ?_⟩
      obtain ⟨wanted, hwanted⟩ := hall other hmem
      rw [not_identifies_iff (identifies_of_name h hwanted hrenamed hname)]
      rintro (heq | ⟨hren, hsame⟩)
      · exact (own other hmem hne).1 heq
      · exact (own other hmem hne).2 hren hsame
    | legacy howner held own =>
      obtain ⟨value, hvalue, hlegacy⟩ := List.any_eq_true.mp held
      refine ⟨value, hvalue, (identifies_of_legacy h h howner hlegacy).mpr rfl, fun other hmem hne => ?_⟩
      obtain ⟨wanted, hwanted⟩ := hall other hmem
      rw [not_identifies_iff (identifies_of_legacy h hwanted howner hlegacy)]
      exact own other hmem hne

theorem guest_side_owner (py : python.Runtime) (guest : Guest) (interfaces : List VMInterface)
    (nic : DiscoveredInterface) :
    ∃ duplicate adoption, (guest_side py guest).owner interfaces guest nic =
      identity_owner py duplicate adoption interfaces guest nic := by
  cases guest with
  | machine vm => exact ⟨_, _, rfl⟩
  | container c => exact ⟨_, _, rfl⟩

theorem desired_changes_identity {existing : Option VMInterface} {result : InterfaceChanges × Fields}
    (h : desired_changes py guest nic existing = .ok result) :
    ∃ desired, nic_source_identity guest nic = .ok desired := by
  cases existing with
  | none =>
    obtain ⟨fields, hbuild, _⟩ := Except.bind_eq_ok_iff.mp h
    obtain ⟨desired, hdesired, _⟩ := Except.bind_eq_ok_iff.mp hbuild
    exact ⟨desired, hdesired⟩
  | some interface =>
    obtain ⟨fields, hbuild, _⟩ := Except.bind_eq_ok_iff.mp h
    obtain ⟨desired, hdesired, _⟩ := Except.bind_eq_ok_iff.mp hbuild
    exact ⟨desired, hdesired⟩

/-- A prepared NIC has an identity, and its interface is the one that claims it. -/
theorem prepared_nic_existing {interfaces : List VMInterface} {inventory : NetworkInventory}
    {prepared : NicContext × List String}
    (h : prepare_nic_context py (guest_side py guest) guest interfaces inventory nic = .ok prepared) :
    prepared.1.source = nic ∧ (∃ desired, nic_source_identity guest nic = .ok desired) ∧
      ∀ x, prepared.1.existing = some x ↔ x ∈ interfaces ∧ claims py guest nic interfaces x = true := by
  obtain ⟨hsource, howner, hchanges, _⟩ := (prepare_nic_context_eq_ok_iff py _).mp h
  obtain ⟨desired, hdesired⟩ := desired_changes_identity hchanges
  obtain ⟨duplicate, adoption, hside⟩ := guest_side_owner py guest interfaces nic
  rw [hside] at howner
  have hfilter := identity_owner_ok hdesired howner
  refine ⟨hsource, ⟨desired, hdesired⟩, fun x => ?_⟩
  rw [← List.mem_filter, hfilter]
  simp

end

/-- A Proxmox container with the given NICs. -/
def webContainer (interfaces : List DiscoveredInterface) : DiscoveredContainer :=
  { source := "proxmox", source_instance := "proxmox-1", legacy_identity_owner := false,
    source_id := "proxmox:pve:200", node_source_id := "pve", vmid := 200, original_name := "web",
    normalized_name := "web", status := "running", architecture := some "amd64", os_type := none,
    vcpus := 1, memory_bytes := 0, swap_bytes := 0, autostart := false, unprivileged := true,
    interfaces := interfaces }

def containerWith (interfaces : List DiscoveredInterface) : Guest := .container (webContainer interfaces)

def lxcNic (external_id name bridge : String) : DiscoveredInterface :=
  { name := name, mac_address := none, bridge := some bridge, vlan_id := none, external_id := some external_id }

def v2Record (kind external_id : String) : Value :=
  .obj [("schema", .str "v2"), ("type", .str "proxmox"), ("instance", .str "proxmox-1"),
    ("kind", .str kind), ("external_id", .str external_id)]

/-- The container's VM in NetBox. -/
def containerVm : VirtualMachine :=
  { id := 7, name := "web", cluster := some 1, custom_fields := [("sync_identities", .arr [v2Record "lxc" "200"])] }

/-- The interface of the container's `net1`. -/
def net1Interface : VMInterface :=
  { id := 3, name := "vmbr1", virtual_machine := some 7,
    custom_fields := [("sync_identities", .arr [v2Record "lxc-nic" "200:net1"])] }

/-- A NetBox with the container's VM and that interface. -/
def containerStore : Store where
  sites := ⟨[], by simp⟩
  clusters := ⟨[], by simp⟩
  vms := ⟨[containerVm], by simp⟩
  interfaces := ⟨[net1Interface], by simp⟩
  macs := ⟨[], by simp⟩
  ips := ⟨[], by simp⟩

def proxmoxCluster : Cluster := { id := 1, name := "proxmox" }

end netbox_sync.network_matching
