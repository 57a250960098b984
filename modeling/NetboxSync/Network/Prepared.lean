import NetboxSync.Network.Injective
import NetboxSync.Network.Run

namespace netbox_sync.network_writes

open discovery netbox source_identity netbox_vm_interface_metadata interface_display network_preflight
  network_inventory network_matching

section

variable {py : python.Runtime} {store : Store} {guest : Guest} {nic : DiscoveredInterface}
  {existing : Option VMInterface}

theorem single_record_ok {α : Type} {assigned_object : α → Assigned} {duplicate : String}
    {taken : Assigned → String} {rows : List α} {under : α → Bool} {found : Option α}
    (h : single_record assigned_object existing duplicate taken (rows.filter under) = .ok found) :
    Single assigned_object (fun row => under row = true) rows existing found := by
  cases hrows : rows.filter under with
  | nil =>
    rw [hrows] at h
    cases h
    exact .absent (by simpa [List.filter_eq_nil_iff] using hrows)
  | cons row rest =>
    cases rest with
    | cons second rest =>
      rw [hrows] at h
      cases h
    | nil =>
      rw [hrows, single_record] at h
      split at h
      · next hallowed =>
        cases h
        have hmem : ∀ other, other ∈ rows ∧ under other = true ↔ other = row := by
          intro other
          rw [← List.mem_filter, hrows, List.mem_singleton]
        obtain ⟨hrow, hunder⟩ := (hmem row).mpr rfl
        exact .found row hrow hunder (fun other hother hkey => (hmem other).mp ⟨hother, hkey⟩) hallowed
      · cases h

variable {vms : List VirtualMachine} {ipv4 : List String} {cluster : Cluster} {netbox_vm : VirtualMachine}
  {inventory : NetworkInventory}

theorem check_mac_ok {taken : String → Assigned → String} {found : Option MACAddress}
    (h : check_mac py taken existing nic (index_records py store vms).macs_by_address = .ok found) {mac : String}
    (hmac : mac_of py nic = some mac) :
    Single MACAddress.assigned_object (fun row => mac_key py row = some mac) store.macs.rows existing
      found := by
  simp only [check_mac, hmac, index_records] at h
  simpa using single_record_ok h

/-- A usable address is listed under its own text again. -/
theorem ip_key_of_usable {raw_address address : String} (h : usable_address raw_address = some address)
    (id : Int) (vrf : Option Int) :
    ip_key { id := id, address := some address, vrf := vrf } = some (scope_key address vrf) := by
  unfold usable_address at h
  split at h
  · cases h
  · next interface hinterface =>
    split at h
    · cases h
    · cases h
      have hparsed := ipaddress.ip_interface_str hinterface
      have hne : interface.str ≠ "" := by
        intro hempty
        rw [hempty] at hparsed
        have hnone : ipaddress.ip_interface "" = none := by decide
        rw [hnone] at hparsed
        cases hparsed
      simp [ip_key, hne, hparsed]

/-- The key and the record of each address that is checked. -/
theorem check_ips_ok {raw_addresses : List String} {ips : List IpContext}
    (h : check_ips existing nic (index_records py store vms).ips_by_address raw_addresses = .ok (ips, ipv4)) :
    (∀ ip ∈ ips, ip_key { id := 0, address := some ip.address, vrf := ip.vrf_id } = some ip.key ∧
      Single IPAddress.assigned_object (fun row => ip_key row = some ip.key) store.ips.rows existing
        ip.existing) ∧
    ips.map IpContext.key = raw_addresses.filterMap (fun raw_address =>
      (usable_address raw_address).map (fun address => scope_key address nic.ip_vrf_id)) ∧
    ∀ key ∈ ipv4, ∃ ip ∈ ips, ip.key = key := by
  induction raw_addresses generalizing ips ipv4 with
  | nil =>
    cases h
    simp
  | cons raw_address raw_addresses ih =>
    unfold check_ips at h
    cases husable : usable_address raw_address with
    | none =>
      rw [husable] at h
      simpa [husable] using ih h
    | some address =>
      rw [husable] at h
      obtain ⟨found, hfound, h⟩ := Except.bind_eq_ok_iff.mp h
      obtain ⟨⟨rest, keys⟩, hrest, h⟩ := Except.bind_eq_ok_iff.mp h
      cases h
      obtain ⟨hall, horder, hkeys⟩ := ih hrest
      refine ⟨?_, ?_, ?_⟩
      · intro ip hip
        rcases List.mem_cons.mp hip with rfl | hip
        · exact ⟨ip_key_of_usable husable 0 nic.ip_vrf_id, by simpa [index_records] using single_record_ok hfound⟩
        · exact hall ip hip
      · simp [husable, horder]
      · intro key hkey
        split at hkey
        · rcases List.mem_cons.mp hkey with rfl | hkey
          · exact ⟨_, List.mem_cons_self, rfl⟩
          · obtain ⟨ip, hip, rfl⟩ := hkeys key hkey
            exact ⟨ip, List.mem_cons_of_mem _ hip, rfl⟩
        · obtain ⟨ip, hip, rfl⟩ := hkeys key hkey
          exact ⟨ip, List.mem_cons_of_mem _ hip, rfl⟩

theorem guest_side_check_mac {macs_by_address : String → List MACAddress} {found : Option MACAddress}
    (h : (guest_side py guest).check_mac existing guest nic macs_by_address = .ok found) :
    ∃ taken, check_mac py taken existing nic macs_by_address = .ok found := by
  cases guest with
  | machine vm => exact ⟨_, h⟩
  | container c =>
    obtain ⟨mac, hmac, h⟩ := Except.bind_eq_ok_iff.mp h
    dsimp only at h
    split at h
    · cases h
    · cases h
      exact ⟨_, hmac⟩

theorem prepare_nic_context_prepared {vm_id : Int} {context : NicContext}
    (h : prepare_nic_context py (guest_side py guest) guest (vm_interfaces store vm_id)
      (index_records py store vms) nic = .ok (context, ipv4)) : PreparedNic py store vm_id guest context := by
  obtain ⟨_, _, hexisting⟩ := prepared_nic_existing h
  obtain ⟨rfl, _, hchanges, hvalue, hmac, hips⟩ := (prepare_nic_context_eq_ok_iff py _).mp h
  have hinterface : ∀ x, context.existing = some x → ∃ desired,
      context.changes = ⟨if x.name ≠ interface_display_name py guest context.source then
          some (interface_display_name py guest context.source) else none,
        if x.enabled ≠ true then some true else none, desired⟩ := by
    intro x hx
    rw [hx] at hchanges
    obtain ⟨fields, _, hresult⟩ := Except.bind_eq_ok_iff.mp hchanges
    rw [Except.ok.injEq, Prod.mk.injEq] at hresult
    exact ⟨_, hresult.1.symm⟩
  refine ⟨?_, ?_, ?_, ?_, ?_, (check_ips_ok hips).1⟩
  · intro x hx
    have hmem := List.mem_filter.mp ((hexisting x).mp hx).1
    exact ⟨hmem.1, by simpa using hmem.2⟩
  · intro x hx
    obtain ⟨desired, hdesired⟩ := hinterface x hx
    rw [hdesired]
    by_cases hname : x.name = interface_display_name py guest context.source <;> simp [hname]
  · intro x hx
    obtain ⟨desired, hdesired⟩ := hinterface x hx
    rw [hdesired]
    cases x.enabled <;> rfl
  · rw [hvalue, mac_of]
  · intro mac hnic
    obtain ⟨taken, hcheck⟩ := guest_side_check_mac hmac
    exact check_mac_ok hcheck hnic

theorem nodup_of_repeated {values : List String} (h : repeated values = []) : values.Nodup := by
  rw [List.nodup_iff_count_le_one]
  intro value
  by_cases hmem : value ∈ values
  · rw [repeated, List.filter_eq_nil_iff] at h
    have hcount := h value (List.mem_eraseDups.mpr hmem)
    simpa using hcount
  · rw [List.count_eq_zero_of_not_mem hmem]
    exact Nat.zero_le 1

theorem check_batch_ok {macs ips : List String} (h : check_batch macs ips = .ok ()) : macs.Nodup ∧ ips.Nodup := by
  unfold check_batch at h
  dsimp only at h
  split at h
  · cases h
  · next hmacs =>
    split at h
    · cases h
    · next hips => exact ⟨nodup_of_repeated (not_not.mp hmacs), nodup_of_repeated (not_not.mp hips)⟩

/-- The MAC and the addresses a NIC is discovered with. -/
def nic_ips (nic : DiscoveredInterface) : List String :=
  nic.ip_addresses.filterMap (fun raw_address =>
    (usable_address raw_address).map (fun address => scope_key address nic.ip_vrf_id))

theorem guest_inventory_eq (py : python.Runtime) (store : Store) (cluster : Cluster) (guest : Guest) :
    ∃ vms, guest_inventory py store cluster guest = index_records py store vms ∧ ∀ vm ∈ vms, vm ∈ store.vms.rows := by
  cases guest with
  | machine vm => exact ⟨_, rfl, fun vm hvm => (List.mem_filter.mp hvm).1⟩
  | container c => exact ⟨_, rfl, fun vm hvm => hvm⟩

theorem find_guest_vm_ok (h : find_guest_vm py store cluster guest = .ok netbox_vm) :
    find_guest_matches py.repr (guest_inventory py store cluster guest).vms guest = .ok [netbox_vm] := by
  cases guest with
  | machine vm =>
    obtain ⟨owners, howners, h⟩ := Except.bind_eq_ok_iff.mp h
    rw [howners]
    split at h
    · cases h
      rfl
    · cases h
  | container c =>
    obtain ⟨owners, howners, h⟩ := Except.bind_eq_ok_iff.mp h
    rw [howners]
    split at h
    · cases h
      rfl
    · cases h

theorem find_guest_vm_mem (h : find_guest_vm py store cluster guest = .ok netbox_vm) : netbox_vm ∈ store.vms.rows := by
  obtain ⟨vms, hinventory, hvms⟩ := guest_inventory_eq py store cluster guest
  have hmem := select_best_identity_matches_subset (find_guest_vm_ok h) netbox_vm (by simp)
  rw [hinventory] at hmem
  exact hvms _ hmem

theorem candidate_primary_candidate {candidate : String} {primary : PrimaryContext}
    (h : vm_network_preflight.candidate_primary py guest netbox_vm candidate inventory = .ok primary) :
    primary.candidate = some candidate := by
  unfold vm_network_preflight.candidate_primary at h
  split at h
  · cases h
    rfl
  · split at h
    · cases h
      rfl
    · dsimp only at h
      split at h
      · cases h
        rfl
      · cases h

/-- The candidate is one of the addresses of the guest. -/
theorem guest_primary_candidate {primary : PrimaryContext}
    (h : guest_primary py inventory guest netbox_vm ipv4 = .ok primary) {candidate : String}
    (hcandidate : primary.candidate = some candidate) : candidate ∈ ipv4 := by
  have hsole : ∀ sole, ipv4.eraseDups = [sole] → sole ∈ ipv4 := by
    intro sole hsole
    rw [← List.mem_eraseDups, hsole]
    exact List.mem_singleton_self sole
  cases guest with
  | machine vm =>
    simp only [guest_primary, vm_network_preflight.prepare_vm_primary] at h
    split at h
    · cases h
      cases hcandidate
    · split at h
      · next sole hdup =>
        have hprimary := candidate_primary_candidate h
        rw [hprimary, Option.some.injEq] at hcandidate
        exact hcandidate ▸ hsole sole hdup
      · cases h
        cases hcandidate
  | container c =>
    simp only [guest_primary, lxc_network_preflight.lxc_primary, Except.ok.injEq] at h
    split at h
    · subst h
      cases hcandidate
    · split at h
      · next sole hdup =>
        subst h
        rw [Option.some.injEq] at hcandidate
        exact hcandidate ▸ hsole sole hdup
      · subst h
        cases hcandidate

/-- A NIC that was prepared has a rank on every interface. -/
theorem prepared_nic_ranks {interfaces : List VMInterface} {prepared : NicContext × List String}
    (h : prepare_nic_context py (guest_side py guest) guest interfaces inventory nic = .ok prepared) :
    ∀ x ∈ interfaces, ∃ rank, nic_sync_identity_match_rank py x.custom_fields guest nic = .ok rank := by
  obtain ⟨_, howner, _⟩ := (prepare_nic_context_eq_ok_iff py _).mp h
  obtain ⟨_, _, hside⟩ := guest_side_owner py guest interfaces nic
  rw [hside] at howner
  obtain ⟨_, howners, _⟩ := Except.bind_eq_ok_iff.mp howner
  exact select_loop_ok howners

/-- The names pass where they differ and each of them is free or on the NIC's own interface. -/
theorem validate_interface_names_eq_ok_iff {interfaces : List VMInterface}
    {owner : List VMInterface → Guest → DiscoveredInterface → Except String (Option VMInterface)}
    {names : List String} {nics : List DiscoveredInterface} :
    validate_interface_names py guest interfaces owner names nics = .ok () ↔
      (nics.map (fun nic => py.casefold (interface_display_name py guest nic))).Nodup ∧
      ∀ nic ∈ nics, py.casefold (interface_display_name py guest nic) ∉ names ∧
        ∃ owned, owner interfaces guest nic = .ok owned ∧ ∀ row ∈ interfaces,
          py.casefold row.name = py.casefold (interface_display_name py guest nic) →
            ∃ own, owned = some own ∧ row.id = own.id := by
  induction nics generalizing names with
  | nil => simp [validate_interface_names]
  | cons nic nics ih =>
    unfold validate_interface_names
    dsimp only
    have hoccupied : ∀ owned : Option VMInterface,
        interfaces.any (fun row => py.casefold row.name = py.casefold (interface_display_name py guest nic) &&
          owned.all (fun owned => row.id ≠ owned.id)) = false ↔
        ∀ row ∈ interfaces, py.casefold row.name = py.casefold (interface_display_name py guest nic) →
          ∃ own, owned = some own ∧ row.id = own.id := by
      intro owned
      rw [List.any_eq_false]
      cases owned <;> simp
    rw [List.map_cons, List.nodup_cons, List.forall_mem_cons]
    constructor
    · intro h
      split at h
      · cases h
      · next hname =>
        obtain ⟨owned, howned, h⟩ := Except.bind_eq_ok_iff.mp h
        split at h
        · cases h
        · next hfree =>
          obtain ⟨hnodup, hall⟩ := ih.mp h
          refine ⟨⟨?_, hnodup⟩, ⟨hname, owned, howned, (hoccupied owned).mp (Bool.not_eq_true _ ▸ hfree)⟩,
            fun other hother => ?_⟩
          · intro hmem
            obtain ⟨other, hother, heq⟩ := List.mem_map.mp hmem
            exact (hall other hother).1 (by simp [heq])
          · obtain ⟨hnot, hrest⟩ := hall other hother
            exact ⟨fun hmem => hnot (List.mem_cons_of_mem _ hmem), hrest⟩
    · rintro ⟨⟨hnot, hnodup⟩, ⟨hname, owned, howned, hfree⟩, hall⟩
      rw [if_neg hname, howned, Except.ok_bind, if_neg (by rw [(hoccupied owned).mpr hfree]; simp)]
      refine ih.mpr ⟨hnodup, fun other hother => ?_⟩
      obtain ⟨hother_not, hrest⟩ := hall other hother
      refine ⟨?_, hrest⟩
      rw [List.mem_cons, not_or]
      refine ⟨fun heq => hnot ?_, hother_not⟩
      exact List.mem_map.mpr ⟨other, hother, heq⟩

/-- What is known of the context of a guest that passed the preflight. -/
structure PreparedContext (py : python.Runtime) (store : Store) (cluster : Cluster) (g : GuestContext) : Prop where
  vm : find_guest_vm py store cluster g.guest = .ok g.netbox_vm
  nics : ∀ c ∈ g.nics, PreparedNic py store g.netbox_vm.id g.guest c
  sources : g.nics.map NicContext.source = g.guest.interfaces
  existing : ∀ c ∈ g.nics, ∀ x, c.existing = some x ↔ x ∈ vm_interfaces store g.netbox_vm.id ∧
    claims py g.guest c.source (vm_interfaces store g.netbox_vm.id) x = true
  keys : ∀ c ∈ g.nics, c.ips.map IpContext.key = nic_ips c.source
  changes : ∀ c ∈ g.nics, desired_changes py g.guest c.source c.existing = .ok (c.changes, c.desired_custom_fields)
  ranks : ∀ c ∈ g.nics, ∀ x ∈ vm_interfaces store g.netbox_vm.id, ∃ rank,
    nic_sync_identity_match_rank py x.custom_fields g.guest c.source = .ok rank
  displays : (g.guest.interfaces.map (fun nic => py.casefold (interface_display_name py g.guest nic))).Nodup
  occupied : ∀ c ∈ g.nics, ∀ row ∈ vm_interfaces store g.netbox_vm.id,
    py.casefold row.name = py.casefold (interface_display_name py g.guest c.source) → c.existing = some row
  candidate : ∀ candidate, g.primary.candidate = some candidate → ∃ c ∈ g.nics, ∃ ip ∈ c.ips, ip.key = candidate

theorem prepare_network_context_prepared {g : GuestContext}
    (h : prepare_network_context py store cluster guest = .ok g) :
    g.guest = guest ∧ PreparedContext py store cluster g := by
  obtain ⟨hvm, _, rfl, prepared, hnics, hcontexts, hprimary⟩ := prepare_network_context_eq_ok_iff.mp h
  obtain ⟨vms, hinventory, _⟩ := guest_inventory_eq py store cluster g.guest
  rw [hinventory] at hnics hprimary
  obtain ⟨hvalid, _, hall⟩ := (prepare_nics_eq_ok_iff py _).mp hnics
  obtain ⟨hdisplays, hnames⟩ := validate_interface_names_eq_ok_iff.mp hvalid
  have hsource : ∀ c ∈ g.nics, ∃ ipv4, (c, ipv4) ∈ prepared ∧
      prepare_nic_context py (guest_side py g.guest) g.guest (vm_interfaces store g.netbox_vm.id)
        (index_records py store vms) c.source = .ok (c, ipv4) := by
    intro c hc
    rw [hcontexts] at hc
    obtain ⟨⟨context, ipv4⟩, hp, rfl⟩ := List.mem_map.mp hc
    obtain ⟨nic, _, hprep⟩ := hall.exists_of_mem_right hp
    obtain ⟨rfl, _⟩ := prepared_nic_existing hprep
    exact ⟨ipv4, hp, hprep⟩
  refine ⟨rfl, hvm, ?_, ?_, ?_, ?_, ?_, ?_, hdisplays, ?_, ?_⟩
  · intro c hc
    obtain ⟨ipv4, _, hprep⟩ := hsource c hc
    exact prepare_nic_context_prepared hprep
  · rw [hcontexts, List.map_map]
    exact hall.map_eq (fun nic p hp => (prepared_nic_existing hp).1)
  · intro c hc
    obtain ⟨ipv4, _, hprep⟩ := hsource c hc
    exact (prepared_nic_existing hprep).2.2
  · intro c hc
    obtain ⟨ipv4, _, hprep⟩ := hsource c hc
    obtain ⟨_, _, _, _, _, hips⟩ := (prepare_nic_context_eq_ok_iff py _).mp hprep
    exact (check_ips_ok hips).2.1
  · intro c hc
    obtain ⟨ipv4, _, hprep⟩ := hsource c hc
    exact ((prepare_nic_context_eq_ok_iff py _).mp hprep).2.2.1
  · intro c hc
    obtain ⟨ipv4, _, hprep⟩ := hsource c hc
    exact prepared_nic_ranks hprep
  · intro c hc row hrow hname
    obtain ⟨ipv4, hp, hprep⟩ := hsource c hc
    obtain ⟨nic, hnic, hprep'⟩ := hall.exists_of_mem_right hp
    obtain ⟨hsame, _⟩ := prepared_nic_existing hprep'
    obtain ⟨_, howner, _⟩ := (prepare_nic_context_eq_ok_iff py _).mp hprep
    obtain ⟨_, owned, howned, hfree⟩ := hnames c.source (by rw [hsame]; exact hnic)
    rw [howner, Except.ok.injEq] at howned
    subst howned
    obtain ⟨own, hown, hid⟩ := hfree row hrow hname
    have hmem := (((prepared_nic_existing hprep).2.2 own).mp hown).1
    rw [hown, Table.eq_of_id (List.mem_filter.mp hrow).1 (List.mem_filter.mp hmem).1 hid]
  · intro candidate hcandidate
    have hmem := guest_primary_candidate hprimary hcandidate
    obtain ⟨⟨c, ipv4⟩, hp, hkey⟩ := List.mem_flatMap.mp hmem
    obtain ⟨nic, _, hprep⟩ := hall.exists_of_mem_right hp
    obtain ⟨_, _, _, _, _, hips⟩ := (prepare_nic_context_eq_ok_iff py _).mp hprep
    obtain ⟨ip, hip, rfl⟩ := (check_ips_ok hips).2.2 candidate hkey
    refine ⟨c, ?_, ip, hip, rfl⟩
    rw [hcontexts]
    exact List.mem_map.mpr ⟨(c, ipv4), hp, rfl⟩

end

end netbox_sync.network_writes
