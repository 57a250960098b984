import NetboxSync.Network.Fields
import NetboxSync.Network.Prepared

namespace netbox_sync.network_writes

open netbox source_identity network_preflight network_inventory network_matching

/-- No interface has the strongest record of two of the guest's NICs. -/
def Unshared (py : python.Runtime) (guest : Guest) (interfaces : List VMInterface) : Prop :=
  guest.interfaces.Pairwise (fun nic other => ∀ x ∈ interfaces,
    claims py guest nic interfaces x = true → claims py guest other interfaces x = false)

/-- What keeps a second run from finding anything to do, or from failing: the NICs have keys of their own, no
    interface is claimed twice, and where a NIC's former name is another one's key, that one's interface also has the
    NIC's v1 record. -/
structure SteadyNics (py : python.Runtime) (guest : Guest) (interfaces : List VMInterface) : Prop where
  keys : guest.interfaces.Pairwise (fun nic other => nic_id nic ≠ nic_id other)
  unshared : Unshared py guest interfaces
  names : ∀ nic ∈ guest.interfaces, ∀ other ∈ guest.interfaces, renamed guest nic = true →
    nic_id other = nic.name → ∃ x ∈ interfaces, claims py guest other interfaces x = true ∧
      heldBefore py guest nic x.custom_fields = true

/-- The VMs of the guests are different ones. -/
def VmsApart (py : python.Runtime) (store : Store) (cluster : Cluster) (guests : List Guest) : Prop :=
  guests.Pairwise (fun a b => find_guest_vm py store cluster a ≠ find_guest_vm py store cluster b)

section

variable {py : python.Runtime} {store : Store} {cluster : Cluster}

theorem disjoint_of_apart {g g' : GuestContext} (h : PreparedContext py store cluster g)
    (h' : PreparedContext py store cluster g') {a b : NicContext} (ha : a ∈ g.nics) (hb : b ∈ g'.nics)
    (hinterface : ∀ x y, a.existing = some x → b.existing = some y → x.id ≠ y.id)
    (hmac : ∀ mac, mac_of py a.source = some mac → mac_of py b.source ≠ some mac)
    (hips : ∀ i ∈ nic_ips a.source, ∀ j ∈ nic_ips b.source, i ≠ j) : Disjoint py a b := by
  refine ⟨hinterface, hmac, fun i hi j hj => ?_⟩
  apply hips
  · rw [← h.keys a ha]
    exact List.mem_map_of_mem hi
  · rw [← h'.keys b hb]
    exact List.mem_map_of_mem hj

/-- A guest's NICs share nothing where its interfaces are unshared and its MACs and addresses are all different. -/
theorem PreparedContext.guest {g : GuestContext} (h : PreparedContext py store cluster g)
    (hunshared : Unshared py g.guest (vm_interfaces store g.netbox_vm.id))
    (hmacs : (g.guest.interfaces.filterMap (mac_of py)).Nodup)
    (hips : (g.guest.interfaces.flatMap nic_ips).Nodup) : PreparedGuest py store g := by
  obtain ⟨hnodup, hips⟩ := List.pairwise_flatMap.mp hips
  have hmem : ∀ c ∈ g.nics, c.source ∈ g.guest.interfaces := by
    intro c hc
    rw [← h.sources]
    exact List.mem_map_of_mem hc
  refine ⟨find_guest_vm_mem h.vm, h.nics, ?_, ?_, h.candidate⟩
  · intro c hc
    rw [h.keys c hc]
    exact hnodup _ (hmem c hc)
  · have hmacs := List.pairwise_filterMap.mp hmacs
    unfold Unshared at hunshared
    rw [← h.sources, List.pairwise_map] at hunshared hmacs hips
    apply (hunshared.and (hmacs.and hips)).imp_of_mem
    rintro a b ha hb ⟨hclaims, hmac, hip⟩
    refine disjoint_of_apart h h ha hb ?_ ?_ hip
    · intro x y hx hy hid
      obtain ⟨hxmem, hxclaim⟩ := (h.existing a ha x).mp hx
      obtain ⟨hymem, hyclaim⟩ := (h.existing b hb y).mp hy
      have hsame : x = y := Table.eq_of_id (List.mem_filter.mp hxmem).1 (List.mem_filter.mp hymem).1 hid
      have hno := hclaims x hxmem hxclaim
      rw [hsame, hyclaim] at hno
      cases hno
    · intro mac hmaca hmacb
      exact hmac mac hmaca mac hmacb rfl

theorem vm_id_ne_of_apart {g g' : GuestContext} (h : PreparedContext py store cluster g)
    (h' : PreparedContext py store cluster g')
    (hvm : find_guest_vm py store cluster g.guest ≠ find_guest_vm py store cluster g'.guest) :
    g.netbox_vm.id ≠ g'.netbox_vm.id := by
  intro heq
  apply hvm
  rw [h.vm, h'.vm, Table.eq_of_id (find_guest_vm_mem h.vm) (find_guest_vm_mem h'.vm) heq]

theorem guestsApart_of_ne {g g' : GuestContext} (h : PreparedContext py store cluster g)
    (h' : PreparedContext py store cluster g')
    (hvm : find_guest_vm py store cluster g.guest ≠ find_guest_vm py store cluster g'.guest)
    (hmacs : ∀ mac ∈ g.guest.interfaces.filterMap (mac_of py),
      ∀ mac' ∈ g'.guest.interfaces.filterMap (mac_of py), mac ≠ mac')
    (hips : ∀ ip ∈ g.guest.interfaces.flatMap nic_ips,
      ∀ ip' ∈ g'.guest.interfaces.flatMap nic_ips, ip ≠ ip') : GuestsApart py g g' := by
  have hid := vm_id_ne_of_apart h h' hvm
  have hmem : ∀ {g : GuestContext}, PreparedContext py store cluster g → ∀ c ∈ g.nics,
      c.source ∈ g.guest.interfaces := by
    intro g h c hc
    rw [← h.sources]
    exact List.mem_map_of_mem hc
  refine ⟨hid, fun a ha b hb => disjoint_of_apart h h' ha hb ?_ ?_ ?_⟩
  · intro x y hx hy heq
    obtain ⟨hxmem, hxvm⟩ := (h.nics a ha).existing x hx
    obtain ⟨hymem, hyvm⟩ := (h'.nics b hb).existing y hy
    have hsame : x = y := Table.eq_of_id hxmem hymem heq
    rw [hsame, hyvm, Option.some.injEq] at hxvm
    exact hid hxvm.symm
  · intro mac hmaca hmacb
    exact hmacs mac (List.mem_filterMap.mpr ⟨_, hmem h a ha, hmaca⟩) mac
      (List.mem_filterMap.mpr ⟨_, hmem h' b hb, hmacb⟩) rfl
  · intro i hi j hj
    exact hips i (List.mem_flatMap.mpr ⟨_, hmem h a ha, hi⟩) j (List.mem_flatMap.mpr ⟨_, hmem h' b hb, hj⟩)

/-- A batch that passed the preflight, with VMs of their own and unshared interfaces, is ready for the writes. -/
theorem batch_prepared {guests : List Guest} {contexts : List GuestContext}
    (hall : List.Forall₂ (fun guest g => prepare_network_context py store cluster guest = .ok g) guests contexts)
    (hmacs : (discovered_macs py guests).Nodup) (hips : (discovered_ips guests).Nodup)
    (hvms : VmsApart py store cluster guests)
    (hunshared : ∀ g ∈ contexts, Unshared py g.guest (vm_interfaces store g.netbox_vm.id)) :
    (∀ g ∈ contexts, PreparedGuest py store g) ∧ contexts.Pairwise (GuestsApart py) := by
  have hguests : contexts.map GuestContext.guest = guests :=
    hall.map_eq (fun _ _ h => (prepare_network_context_prepared h).1)
  have hprepared : ∀ g ∈ contexts, PreparedContext py store cluster g := by
    intro g hg
    obtain ⟨guest, _, h⟩ := hall.exists_of_mem_right hg
    exact (prepare_network_context_prepared h).2
  obtain ⟨hmacs, hmacsApart⟩ := List.pairwise_flatMap.mp hmacs
  obtain ⟨hips, hipsApart⟩ := List.pairwise_flatMap.mp hips
  constructor
  · intro g hg
    have hmem : g.guest ∈ guests := by
      rw [← hguests]
      exact List.mem_map_of_mem hg
    exact (hprepared g hg).guest (hunshared g hg) (hmacs _ hmem) (hips _ hmem)
  · unfold VmsApart at hvms
    rw [← hguests, List.pairwise_map] at hvms hmacsApart hipsApart
    apply (hvms.and (hmacsApart.and hipsApart)).imp_of_mem
    rintro g g' hg hg' ⟨hvm, hmac, hip⟩
    exact guestsApart_of_ne (hprepared g hg) (hprepared g' hg') hvm hmac hip

end

open json

open discovery netbox source_identity netbox_vm_interface_metadata interface_display network_preflight
  network_matching

section

variable {py : python.Runtime} {guest : Guest} {nic other : DiscoveredInterface}
  {identity wanted : SourceIdentity} {custom_fields : Fields}

section

variable (h : nic_source_identity guest nic = .ok identity)
include h

theorem same_namespace_of_guest (hother : nic_source_identity guest other = .ok wanted) :
    wanted.same_namespace identity = true := by
  obtain ⟨htype, hinstance, hkind, _⟩ := nic_identity_fields h
  obtain ⟨htype', hinstance', hkind', _⟩ := nic_identity_fields hother
  simp [SourceIdentity.same_namespace, htype, hinstance, hkind, htype', hinstance', hkind']

/-- Which NICs of the guest an identified interface has a v2 record of. -/
theorem heldNow_of_identified (hother : nic_source_identity guest other = .ok wanted)
    (hfields : Identified py identity custom_fields) :
    heldNow py guest other custom_fields = true ↔
      nic_id other = nic_id nic ∨ renamed guest other = true ∧ nic_id nic = other.name ∧
        heldBefore py guest other custom_fields = false := by
  have hnamespace := same_namespace_of_guest h hother
  have hformer : (former_identity wanted guest other).same_namespace identity = true := hnamespace
  simp only [heldNow, hother, Bool.or_eq_true, Bool.and_eq_true, Bool.not_eq_true',
    hfields.holdsV2_iff hnamespace, hfields.holdsV2_iff hformer, named_before_eq hother]
  rw [nic_identity_eq_iff hother h]
  constructor
  · rintro (hkey | ⟨⟨hrenamed, hbefore⟩, hidentity⟩)
    · exact .inl hkey
    · exact .inr ⟨hrenamed, (nic_identity_eq_former_iff h hother hrenamed).mp hidentity.symm, hbefore⟩
  · rintro (hkey | ⟨hrenamed, hname, hbefore⟩)
    · exact .inl hkey
    · exact .inr ⟨⟨hrenamed, hbefore⟩, ((nic_identity_eq_former_iff h hother hrenamed).mpr hname).symm⟩

/-- The NIC's rank is known where every record is readable. -/
theorem nic_rank_of_readable (hreadable : Readable py.repr custom_fields) :
    ∃ rank, nic_sync_identity_match_rank py custom_fields guest nic = .ok rank := by
  unfold nic_sync_identity_match_rank
  rw [h, Except.ok_bind, source_identity_match_rank_eq hreadable, Except.ok_bind]
  split
  · exact ⟨_, rfl⟩
  · rw [build_former_identity, Except.ok_bind, source_identity_match_rank_eq hreadable]
    exact ⟨_, rfl⟩

end

variable {row : VMInterface}

/-- An interface that alone has a v2 record of the NIC owns it. -/
theorem identity_owner_of_sole (h : nic_source_identity guest nic = .ok identity) {duplicate adoption : String}
    {interfaces : List VMInterface} (hnodup : interfaces.Nodup)
    (hrank : ∀ x ∈ interfaces, ∃ rank, nic_sync_identity_match_rank py x.custom_fields guest nic = .ok rank)
    (hrow : row ∈ interfaces) (hheld : ∀ x ∈ interfaces, heldNow py guest nic x.custom_fields = true ↔ x = row) :
    identity_owner py duplicate adoption interfaces guest nic = .ok (some row) := by
  obtain ⟨owners, howners⟩ : ∃ owners, find_nic_sync_identity_matches py interfaces guest nic = .ok owners :=
    select_best_identity_matches_total hrank
  have hany : interfaces.any (fun y => heldNow py guest nic y.custom_fields) = true :=
    List.any_eq_true.mpr ⟨row, hrow, (hheld row hrow).mpr rfl⟩
  have hfilter : interfaces.filter (claims py guest nic interfaces) = [row] := by
    apply List.filter_eq_singleton hnodup hrow
    intro x hx
    rw [← hheld x hx]
    simp [claims, hany]
  rw [find_nic_matches_ok h howners, hfilter] at howners
  unfold identity_owner
  rw [howners, Except.ok_bind]

end

section

variable {py : python.Runtime} {guest : Guest} {context : NicContext} {identity : SourceIdentity}

variable {desired : Fields}

theorem desired_changes_none_ok {nic : DiscoveredInterface} {changes : InterfaceChanges}
    (h : desired_changes py guest nic none = .ok (changes, desired)) :
    build_nic_custom_fields py guest nic [] = .ok desired := by
  obtain ⟨fields, hbuild, h⟩ := Except.bind_eq_ok_iff.mp h
  rw [Except.ok.injEq, Prod.mk.injEq] at h
  rw [hbuild, h.2]

variable {x : VMInterface}

/-- What a NIC asks of an interface it has: the fields, and whether they differ. -/
theorem interface_changes_ok {nic : DiscoveredInterface} {changes : InterfaceChanges}
    (h : interface_changes py x guest nic = .ok (changes, desired)) :
    build_nic_custom_fields py guest nic x.custom_fields = .ok desired ∧
      (changes.custom_fields = some desired ∨ changes.custom_fields = none ∧
        ∀ field ∈ MANAGED_VM_INTERFACE_CUSTOM_FIELDS,
          ((dict.get x.custom_fields field).getD .null).eq ((dict.get desired field).getD .null) = true) := by
  obtain ⟨fields, hbuild, h⟩ := Except.bind_eq_ok_iff.mp h
  cases h
  refine ⟨hbuild, ?_⟩
  dsimp only
  split
  · exact .inl rfl
  · next hsame =>
    refine .inr ⟨rfl, fun field hfield => ?_⟩
    rw [Bool.not_eq_true, List.any_eq_false] at hsame
    simpa using hsame field hfield

theorem identified_of_no_changes {nic : DiscoveredInterface} (hidentity : nic_source_identity guest nic = .ok identity)
    (hbuild : build_nic_custom_fields py guest nic x.custom_fields = .ok desired)
    (hsame : ∀ field ∈ MANAGED_VM_INTERFACE_CUSTOM_FIELDS,
      ((dict.get x.custom_fields field).getD .null).eq ((dict.get desired field).getD .null) = true) :
    Identified py identity x.custom_fields := by
  obtain ⟨own, merged, _, hown, hmerged, _, hids, _⟩ := build_nic_custom_fields_ok hbuild
  rw [hidentity, Except.ok.injEq] at hown
  subst hown
  have hfield := hsame "sync_identities" (by decide)
  rw [hids, Option.getD_some] at hfield
  exact identified_of_unchanged hmerged hfield

theorem identified_of_built {nic : DiscoveredInterface} {existing : Fields}
    (hidentity : nic_source_identity guest nic = .ok identity)
    (hbuild : build_nic_custom_fields py guest nic existing = .ok desired) : Identified py identity desired := by
  obtain ⟨own, merged, _, hown, hmerged, _, hids, _⟩ := build_nic_custom_fields_ok hbuild
  rw [hidentity, Except.ok.injEq] at hown
  subst hown
  exact identified_of_merged hmerged hids

/-- The interface of a written NIC is known by the NIC's identity. -/
theorem final_fields_identified (hidentity : nic_source_identity guest context.source = .ok identity)
    (hchanges : desired_changes py guest context.source context.existing =
      .ok (context.changes, context.desired_custom_fields)) : Identified py identity (final_fields context) := by
  unfold final_fields
  cases hexisting : context.existing with
  | none =>
    rw [hexisting] at hchanges
    exact identified_of_built hidentity (desired_changes_none_ok hchanges)
  | some x =>
    rw [hexisting] at hchanges
    obtain ⟨hbuild, hcases⟩ := interface_changes_ok hchanges
    dsimp only
    rcases hcases with hsome | ⟨hnone, hsame⟩
    · rw [hsome]
      exact identified_of_built hidentity hbuild
    · rw [hnone]
      exact identified_of_no_changes hidentity hbuild hsame

/-- The writes leave an interface the legacy records it had. -/
theorem heldBefore_final_fields
    (hchanges : desired_changes py guest context.source context.existing =
      .ok (context.changes, context.desired_custom_fields))
    (hx : context.existing = some x) (nic : DiscoveredInterface) :
    heldBefore py guest nic (final_fields context) = heldBefore py guest nic x.custom_fields := by
  unfold final_fields
  rw [hx] at hchanges ⊢
  obtain ⟨hbuild, hcases⟩ := interface_changes_ok hchanges
  dsimp only
  rcases hcases with hsome | ⟨hnone, _⟩
  · rw [hsome]
    exact heldBefore_built hbuild nic
  · rw [hnone]
    rfl

theorem interface_changes_settled {nic : DiscoveredInterface} (hname : row.name = interface_display_name py guest nic)
    (henabled : row.enabled = true) (hbuild : build_nic_custom_fields py guest nic row.custom_fields = .ok desired)
    (hsame : ∀ field ∈ MANAGED_VM_INTERFACE_CUSTOM_FIELDS,
      ((dict.get row.custom_fields field).getD .null).eq ((dict.get desired field).getD .null) = true) :
    interface_changes py row guest nic = .ok ({}, desired) := by
  have hany : MANAGED_VM_INTERFACE_CUSTOM_FIELDS.any (fun field =>
      !((dict.get row.custom_fields field).getD .null).eq ((dict.get desired field).getD .null)) = false := by
    rw [List.any_eq_false]
    intro field hfield
    simp [hsame field hfield]
  unfold interface_changes
  rw [hbuild, Except.ok_bind]
  simp only [hany, hname, henabled, ne_eq, not_true, if_false, Bool.false_eq_true]

/-- A settled interface needs no change. -/
theorem SettledInterface.no_changes {vm_id : Int} {mac : Option Int}
    (h : SettledInterface py guest vm_id context mac row)
    (hchanges : desired_changes py guest context.source context.existing =
      .ok (context.changes, context.desired_custom_fields)) :
    ∃ desired, interface_changes py row guest context.source = .ok ({}, desired) := by
  have hbuilt : ∀ {existing desired}, build_nic_custom_fields py guest context.source existing =
      .ok desired → row.custom_fields = desired →
        interface_changes py row guest context.source = .ok ({}, desired) := by
    intro existing desired hbuild hfields
    apply interface_changes_settled h.name h.enabled
    · rw [hfields]
      exact build_nic_custom_fields_again hbuild
    · intro field _
      rw [hfields]
      exact Value.eq_refl _
  have hfields := h.custom_fields
  unfold final_fields at hfields
  cases hexisting : context.existing with
  | none =>
    rw [hexisting] at hchanges hfields
    exact ⟨_, hbuilt (desired_changes_none_ok hchanges) hfields⟩
  | some x =>
    rw [hexisting] at hchanges hfields
    obtain ⟨hbuild, hcases⟩ := interface_changes_ok hchanges
    rcases hcases with hsome | ⟨hnone, hsame⟩
    · rw [hsome] at hfields
      exact ⟨_, hbuilt hbuild hfields⟩
    · simp only [hnone, Option.getD_none] at hfields
      rw [← hfields] at hbuild hsame
      exact ⟨_, interface_changes_settled h.name h.enabled hbuild hsame⟩

end

end netbox_sync.network_writes
