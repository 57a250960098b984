import NetboxSync.Network.Completed

namespace netbox_sync.network_writes

open discovery netbox source_identity netbox_vm_interface_metadata interface_display network_preflight
  network_inventory network_matching

section

variable {py : python.Runtime} {store : Store} {cluster : Cluster} {done : List GuestEntry} {s : Session}
  {g : GuestEntry} {e e' : NicEntry} {row : VMInterface}

section

variable (h : Completed py store cluster done s) (hg : g ∈ done)
include h hg

theorem Completed.identity (he : e ∈ g.nics) :
    ∃ identity, nic_source_identity g.context.guest e.context.source = .ok identity :=
  desired_changes_identity ((h.prepared_context hg).changes _ (h.written.context_mem hg he))

theorem Completed.source_mem (he : e ∈ g.nics) : e.context.source ∈ g.context.guest.interfaces := by
  rw [← (h.prepared_context hg).sources]
  exact List.mem_map_of_mem (h.written.context_mem hg he)

/-- NICs of a guest with the same key are the same. -/
theorem Completed.entry_of_key
    (hkeys : g.context.guest.interfaces.Pairwise (fun nic other => nic_id nic ≠ nic_id other)) (he : e ∈ g.nics)
    (he' : e' ∈ g.nics) (hkey : nic_id e.context.source = nic_id e'.context.source) : e = e' := by
  have hsources : g.nics.map (fun e => e.context.source) = g.context.guest.interfaces.reverse := by
    rw [← (h.prepared_context hg).sources, ← List.map_reverse, ← (h.written.entries g hg).1, List.map_map]
    rfl
  have hnodup : (g.nics.map (fun e => nic_id e.context.source)).Nodup := by
    have hreverse := List.pairwise_reverse.mpr (hkeys.imp Ne.symm)
    rw [← hsources, List.pairwise_map] at hreverse
    exact List.pairwise_map.mpr hreverse
  exact List.inj_on_of_nodup_map hnodup he he' hkey

end

theorem SettledInterface.identified (hsettled : SettledInterface py g.context.guest g.context.netbox_vm.id
    e.context e.mac row) (h : Completed py store cluster done s) (hg : g ∈ done) (he : e ∈ g.nics)
    {identity : SourceIdentity}
    (hidentity : nic_source_identity g.context.guest e.context.source = .ok identity) :
    Identified py identity row.custom_fields := by
  rw [hsettled.custom_fields]
  exact final_fields_identified hidentity ((h.prepared_context hg).changes _ (h.written.context_mem hg he))

section

variable (h : Completed py store cluster done s) (hg : g ∈ done)
include h hg

/-- After the run, only the NIC's own interface has a v2 record of it. -/
theorem Completed.heldNow_iff (hsteady : SteadyNics py g.context.guest (vm_interfaces store g.context.netbox_vm.id))
    (he : e ∈ g.nics) (hrow : row ∈ vm_interfaces s.store g.context.netbox_vm.id) (hid : row.id = e.interface)
    (hsettled : SettledInterface py g.context.guest g.context.netbox_vm.id e.context e.mac row) {y : VMInterface}
    (hy : y ∈ vm_interfaces s.store g.context.netbox_vm.id) :
    heldNow py g.context.guest e.context.source y.custom_fields = true ↔ y = row := by
  obtain ⟨identity, hidentity⟩ := h.identity hg he
  have hcontext := h.prepared_context hg
  constructor
  · intro hheld
    rcases h.interface_cases hg hy with ⟨e', he', hid', hsettled'⟩ | ⟨hold, hfree⟩
    · obtain ⟨identity', hidentity'⟩ := h.identity hg he'
      have hidentified := hsettled'.identified h hg he' hidentity'
      rcases (heldNow_of_identified hidentity' hidentity hidentified).mp hheld with
        hkey | ⟨hrenamed, hkey, hbefore⟩
      · obtain rfl := h.entry_of_key hg hsteady.keys he he' hkey
        exact Table.eq_of_id (List.mem_filter.mp hy).1 (List.mem_filter.mp hrow).1 (hid'.trans hid.symm)
      · -- the other NIC's interface already had the v1 record of this one
        obtain ⟨x, hx, hclaim, hlegacy⟩ := hsteady.names _ (h.source_mem hg he) _ (h.source_mem hg he')
          hrenamed hkey
        have hmem := h.written.context_mem hg he'
        have hexisting := (hcontext.existing _ hmem x).mpr ⟨hx, hclaim⟩
        rw [hsettled'.custom_fields, heldBefore_final_fields (hcontext.changes _ hmem) hexisting, hlegacy] at hbefore
        cases hbefore
    · have hmem := h.written.context_mem hg he
      exact absurd ((hcontext.existing _ hmem y).mpr ⟨hold, by simp [claims, hheld]⟩) (hfree _ hmem)
  · rintro rfl
    exact (heldNow_of_identified hidentity hidentity (hsettled.identified h hg he hidentity)).mpr (.inl rfl)

theorem Completed.rank (he : e ∈ g.nics) {y : VMInterface} (hy : y ∈ vm_interfaces s.store g.context.netbox_vm.id) :
    ∃ rank, nic_sync_identity_match_rank py y.custom_fields g.context.guest e.context.source = .ok rank := by
  obtain ⟨identity, hidentity⟩ := h.identity hg he
  rcases h.interface_cases hg hy with ⟨e', he', _, hsettled'⟩ | ⟨hold, _⟩
  · obtain ⟨identity', hidentity'⟩ := h.identity hg he'
    exact nic_rank_of_readable hidentity (hsettled'.identified h hg he' hidentity').readable
  · exact (h.prepared_context hg).ranks _ (h.written.context_mem hg he) y hold

/-- The second preflight finds the interface the NIC was given. -/
theorem Completed.owner (hsteady : SteadyNics py g.context.guest (vm_interfaces store g.context.netbox_vm.id))
    (he : e ∈ g.nics) (hrow : row ∈ vm_interfaces s.store g.context.netbox_vm.id) (hid : row.id = e.interface)
    (hsettled : SettledInterface py g.context.guest g.context.netbox_vm.id e.context e.mac row) :
    (guest_side py g.context.guest).owner (vm_interfaces s.store g.context.netbox_vm.id)
      g.context.guest e.context.source = .ok (some row) := by
  obtain ⟨identity, hidentity⟩ := h.identity hg he
  obtain ⟨duplicate, adoption, hside⟩ := guest_side_owner py g.context.guest
    (vm_interfaces s.store g.context.netbox_vm.id) e.context.source
  rw [hside]
  apply identity_owner_of_sole hidentity ((Table.rows_nodup _).filter _) _ hrow
  · intro y hy
    exact h.heldNow_iff hg hsteady he hrow hid hsettled hy
  · intro y hy
    exact h.rank hg he hy

/-- The second preflight accepts the names the first run gave. -/
theorem Completed.names_valid (hsteady : SteadyNics py g.context.guest (vm_interfaces store g.context.netbox_vm.id)) :
    validate_interface_names py g.context.guest (vm_interfaces s.store g.context.netbox_vm.id)
      (guest_side py g.context.guest).owner [] g.context.guest.interfaces = .ok () := by
  have hcontext := h.prepared_context hg
  rw [validate_interface_names_eq_ok_iff]
  refine ⟨hcontext.displays, fun nic hnic => ⟨by simp, ?_⟩⟩
  rw [← hcontext.sources] at hnic
  obtain ⟨c, hc, rfl⟩ := List.mem_map.mp hnic
  obtain ⟨e, he, rfl⟩ := h.exists_entry hg hc
  obtain ⟨row, hrow, hid, hsettled⟩ := h.interface_of_entry hg he
  refine ⟨some row, h.owner hg hsteady he hrow hid hsettled, fun y hy hname => ⟨row, rfl, ?_⟩⟩
  rcases h.interface_cases hg hy with ⟨e', he', hid', hsettled'⟩ | ⟨hold, hfree⟩
  · rw [hsettled'.name] at hname
    have hdisplays := hcontext.displays
    rw [← hcontext.sources, List.map_map] at hdisplays
    have hsame := List.inj_on_of_nodup_map hdisplays (h.written.context_mem hg he') hc hname
    have hkey : nic_id e'.context.source = nic_id e.context.source := by rw [hsame]
    rw [hid', hid, h.entry_of_key hg hsteady.keys he' he hkey]
  · exact absurd (hcontext.occupied _ hc y hold hname) (hfree _ hc)

end

theorem allowed_owned_by {interface : Int} (hid : row.id = interface) :
    allowed (some row) (owned_by interface) = true := by
  simp [allowed, owned_by, hid]

theorem single_record_of_sole {α : Type} {assigned_object : α → Assigned} {existing : Option VMInterface}
    {duplicate : String} {taken : Assigned → String} {record : α}
    (h : allowed existing (assigned_object record) = true) :
    single_record assigned_object existing duplicate taken [record] = .ok (some record) := by
  simp only [single_record, h, if_true]

/-- The second preflight finds the MAC record of the NIC. -/
theorem Completed.check_mac (h : Completed py store cluster done s) (hg : g ∈ done) (he : e ∈ g.nics)
    (hid : row.id = e.interface)
    (hsettled : SettledInterface py g.context.guest g.context.netbox_vm.id e.context e.mac row)
    (vms : List VirtualMachine) :
    ∃ found, (guest_side py g.context.guest).check_mac (some row) g.context.guest e.context.source
        (index_records py s.store vms).macs_by_address = .ok found ∧
      ∀ mac, mac_of py e.context.source = some mac → ∃ record ∈ s.store.macs.rows,
        found = some record ∧ record.assigned_object ≠ {} ∧ row.primary_mac_address = some record.id := by
  cases hmac : mac_of py e.context.source with
  | none =>
    refine ⟨none, ?_, fun mac hmac' => by cases hmac'⟩
    cases hguest : g.context.guest with
    | machine vm => simp [guest_side, vm_network_preflight.side, vm_network_preflight.check_vm_mac,
        network_preflight.check_mac, hmac]
    | container c => simp [guest_side, lxc_network_preflight.side, lxc_network_preflight.check_lxc_mac,
        network_preflight.check_mac, hmac]
  | some mac =>
    obtain ⟨record, hrecord, hentry, hkey, howner, honly⟩ := h.mac_of_entry hg he hmac
    have hprimary := hsettled.primary_mac _ hentry
    have hfilter : (index_records py s.store vms).macs_by_address mac = [record] :=
      Table.filter_key_eq_singleton hrecord hkey honly
    have hallowed : allowed (some row) record.assigned_object = true := by
      rw [howner]
      exact allowed_owned_by hid
    have hcheck : ∀ taken, network_preflight.check_mac py taken (some row) e.context.source
        (index_records py s.store vms).macs_by_address = .ok (some record) := by
      intro taken
      simp only [network_preflight.check_mac, hmac, hfilter]
      exact single_record_of_sole hallowed
    refine ⟨some record, ?_, ?_⟩
    · cases hguest : g.context.guest with
      | machine vm => exact hcheck _
      | container c =>
        simp [guest_side, lxc_network_preflight.side, lxc_network_preflight.check_lxc_mac, hcheck, hprimary]
    · intro other _
      refine ⟨record, hrecord, rfl, ?_, hprimary⟩
      rw [howner]
      simp [owned_by]

variable {ipv4 : List String} {vm : VirtualMachine}

/-- Checking the addresses of a NIC again, where each of them has one record now. -/
theorem check_ips_again {existing : Option VMInterface} {nic : DiscoveredInterface} {before : String → List IPAddress}
    {raw_addresses : List String} {ips : List IpContext} (existing' : Option VMInterface)
    (after : String → List IPAddress) (h : check_ips existing nic before raw_addresses = .ok (ips, ipv4))
    (hsole : ∀ ip ∈ ips, ∃ record, after ip.key = [record] ∧ allowed existing' record.assigned_object = true) :
    ∃ ips', check_ips existing' nic after raw_addresses = .ok (ips', ipv4) ∧
      ∀ ip' ∈ ips', ∃ ip ∈ ips, ip'.key = ip.key ∧ ∃ record, after ip.key = [record] ∧
        ip'.existing = some record := by
  induction raw_addresses generalizing ips ipv4 with
  | nil =>
    cases h
    exact ⟨[], rfl, by simp⟩
  | cons raw_address raw_addresses ih =>
    unfold check_ips at h ⊢
    cases husable : usable_address raw_address with
    | none =>
      rw [husable] at h
      exact ih h hsole
    | some address =>
      rw [husable] at h
      obtain ⟨found, hfound, h⟩ := Except.bind_eq_ok_iff.mp h
      obtain ⟨⟨rest, keys⟩, hrest, h⟩ := Except.bind_eq_ok_iff.mp h
      cases h
      obtain ⟨record, hrecord, hallowed⟩ := hsole _ List.mem_cons_self
      obtain ⟨ips', hips', hall⟩ := ih hrest (fun ip hip => hsole ip (List.mem_cons_of_mem _ hip))
      dsimp only at hrecord ⊢
      rw [hrecord, single_record_of_sole hallowed, Except.ok_bind, hips', Except.ok_bind]
      refine ⟨_, rfl, fun ip' hip' => ?_⟩
      rcases List.mem_cons.mp hip' with rfl | hip'
      · exact ⟨_, List.mem_cons_self, rfl, record, hrecord, rfl⟩
      · obtain ⟨ip, hip, hrest⟩ := hall ip' hip'
        exact ⟨ip, List.mem_cons_of_mem _ hip, hrest⟩

section

variable (h : Completed py store cluster done s)
include h

theorem Completed.ips_by_address (hg : g ∈ done) (he : e ∈ g.nics) {ip : IpContext} (hip : ip ∈ e.context.ips)
    (vms : List VirtualMachine) :
    ∃ record ∈ s.store.ips.rows, (index_records py s.store vms).ips_by_address ip.key = [record] ∧
      ip_key record = some ip.key ∧ record.assigned_object = owned_by e.interface := by
  obtain ⟨record, hrecord, _, hkey, howner, honly⟩ := h.ip_of_entry hg he hip
  exact ⟨record, hrecord, Table.filter_key_eq_singleton hrecord hkey honly, hkey, howner⟩

/-- The second preflight of a NIC succeeds and finds everything in place. -/
theorem Completed.prepare_nic (hg : g ∈ done)
    (hsteady : SteadyNics py g.context.guest (vm_interfaces store g.context.netbox_vm.id)) (he : e ∈ g.nics)
    {before : List VirtualMachine}
    (hfirst : prepare_nic_context py (guest_side py g.context.guest) g.context.guest
      (vm_interfaces store g.context.netbox_vm.id) (index_records py store before) e.context.source = .ok
      (e.context, ipv4))
    (vms : List VirtualMachine) :
    ∃ c, prepare_nic_context py (guest_side py g.context.guest) g.context.guest
        (vm_interfaces s.store g.context.netbox_vm.id) (index_records py s.store vms) e.context.source =
          .ok (c, ipv4) ∧ IdleNic s.store c := by
  obtain ⟨row, hrow, hid, hsettled⟩ := h.interface_of_entry hg he
  have hchanges := (h.prepared_context hg).changes _ (h.written.context_mem hg he)
  obtain ⟨desired, hsame⟩ := hsettled.no_changes hchanges
  obtain ⟨found, hmac, hidleMac⟩ := h.check_mac hg he hid hsettled vms
  obtain ⟨_, _, _, _, _, hips⟩ := (prepare_nic_context_eq_ok_iff py _).mp hfirst
  have hsoleIps : ∀ ip ∈ e.context.ips, ∃ record,
      (index_records py s.store vms).ips_by_address ip.key = [record] ∧
        allowed (some row) record.assigned_object = true := by
    intro ip hip
    obtain ⟨record, _, hsole, _, howner⟩ := h.ips_by_address hg he hip vms
    refine ⟨record, hsole, ?_⟩
    rw [howner]
    exact allowed_owned_by hid
  obtain ⟨ips, hips', hidleIps⟩ := check_ips_again (some row)
    (index_records py s.store vms).ips_by_address hips hsoleIps
  refine ⟨⟨e.context.source, some row, {}, desired, canonical_mac py e.context.source.mac_address,
    found, ips⟩, ?_, ⟨row, rfl, rfl⟩, ?_, ?_, ?_⟩
  · rw [prepare_nic_context_eq_ok_iff]
    exact ⟨rfl, h.owner hg hsteady he hrow hid hsettled, hsame, rfl, hmac, hips'⟩
  · rintro _ ⟨⟩
    exact (List.mem_filter.mp hrow).1
  · intro value hfilter
    obtain ⟨record, hrecord, hfound, hassigned, hprimary⟩ := hidleMac value hfilter
    refine ⟨record, hrecord, hfound, hassigned, ?_⟩
    rintro _ ⟨⟩
    exact hprimary
  · intro ip' hip'
    obtain ⟨ip, hip, hkey, record, hsole, hexisting⟩ := hidleIps ip' hip'
    obtain ⟨record', hrecord', hsole', hkey', howner⟩ := h.ips_by_address hg he hip vms
    rw [hsole, List.singleton_inj] at hsole'
    subst hsole'
    refine ⟨record, hrecord', hexisting, ?_, hkey ▸ hkey'⟩
    rw [howner]
    simp [owned_by]

/-- An applied address is the only record under its key. -/
theorem Completed.applied_record (hg : g ∈ done) (he : e ∈ g.nics) {key : String} {id : Int} (hp : (key, id) ∈ e.ips) :
    ∃ record, record.id = id ∧
      (∀ vms, (index_records py s.store vms).ips_by_address key = [record]) ∧
      ∀ other ∈ s.store.ips.rows, ip_key other = some key → other = record := by
  have hentered := h.entered hg he
  obtain ⟨ip, hip, rfl, _⟩ := hentered.ips_placed _ hp
  obtain ⟨record, hrecord, hmem, hkey, _, honly⟩ := h.ip_of_entry hg he hip
  have hsame := List.inj_on_of_nodup_map hentered.ips_nodup hp hmem rfl
  refine ⟨record, (congrArg Prod.snd hsame).symm, fun vms => ?_, honly⟩
  exact Table.filter_key_eq_singleton hrecord hkey honly

/-- An address that had an owner keeps it. -/
theorem Completed.owner_kept {record : IPAddress} (hrecord : record ∈ store.ips.rows)
    (howned : record.assigned_object ≠ {}) :
    ∃ record', s.store.ips.get record.id = some record' ∧ record'.assigned_object = record.assigned_object := by
  have hget : store.ips.get record.id = some record := Table.get_of_mem hrecord
  by_cases htouched : record.id ∈ (touchedIps (done.flatMap GuestEntry.nics)).map Prod.fst
  · obtain ⟨entry, hentry, hid⟩ := List.mem_map.mp htouched
    obtain ⟨record', hrecord', hsettled⟩ := h.written.nics.ips.settled entry hentry
    obtain ⟨e, he, hentry⟩ := List.mem_flatMap.mp hentry
    obtain ⟨p, hp, rfl⟩ := List.mem_map.mp hentry
    have hentered := h.written.nics.entered e he
    obtain ⟨ip, hip, _, hplaced⟩ := hentered.ips_placed p hp
    refine ⟨record', hid ▸ hrecord', ?_⟩
    rw [hsettled.owner]
    have hsingle := (hentered.prepared.ip ip hip).2
    cases hexisting : ip.existing with
    | none =>
      have hnew := hplaced.new hexisting
      rw [show p.2 = Row.id record from hid] at hnew
      exact absurd (List.mem_map_of_mem hrecord) hnew
    | some x =>
      rw [hexisting] at hsingle
      cases hsingle with
      | found _ hmem _ _ hallowed =>
        have hsame : x = record := Table.eq_of_id hmem hrecord ((hplaced.old x hexisting).symm.trans hid)
        subst hsame
        rcases allowed_cases hallowed hentered.placed.old with hfree | hmine
        · exact absurd hfree howned
        · exact hmine.symm
  · exact ⟨record, (h.written.nics.ips.untouched _ htouched).trans hget, rfl⟩

/-- An interface stays with its VM. -/
theorem Completed.vm_kept {x : VMInterface} (hx : x ∈ store.interfaces.rows) :
    ∃ x', s.store.interfaces.get x.id = some x' ∧ x'.virtual_machine = x.virtual_machine := by
  have hget : store.interfaces.get x.id = some x := Table.get_of_mem hx
  by_cases htouched : x.id ∈ (touchedInterfaces py (done.flatMap GuestEntry.nics)).map Prod.fst
  · obtain ⟨entry, hentry, hid⟩ := List.mem_map.mp htouched
    obtain ⟨x', hx', hsettled⟩ := h.written.nics.interfaces.settled entry hentry
    obtain ⟨e, he, rfl⟩ := List.mem_map.mp hentry
    have hentered := h.written.nics.entered e he
    refine ⟨x', hid ▸ hx', ?_⟩
    rw [hsettled.virtual_machine]
    cases hexisting : e.context.existing with
    | none =>
      have hnew := hentered.placed.new hexisting
      rw [show e.interface = Row.id x from hid] at hnew
      exact absurd (List.mem_map_of_mem hx) hnew
    | some y =>
      obtain ⟨hmem, hvm⟩ := hentered.prepared.existing y hexisting
      have hsame : y = x := Table.eq_of_id hmem hx ((hentered.placed.old y hexisting).symm.trans hid)
      rw [← hsame, hvm]
  · exact ⟨x, (h.written.nics.interfaces.untouched _ htouched).trans hget, rfl⟩

/-- A manual primary address still belongs to the VM. -/
theorem Completed.belongs_kept {id vm_id : Int}
    (hbelongs : vm_network_preflight.primary_ip_belongs_to_vm (store.ips.get id) (fun id => store.interfaces.get id)
      vm_id = true) :
    vm_network_preflight.primary_ip_belongs_to_vm (s.store.ips.get id)
      (fun id => s.store.interfaces.get id) vm_id = true := by
  unfold vm_network_preflight.primary_ip_belongs_to_vm at hbelongs
  cases hget : store.ips.get id with
  | none => simp [hget] at hbelongs
  | some record =>
    rw [hget] at hbelongs
    dsimp only at hbelongs
    split at hbelongs
    · cases hbelongs
    · next htype =>
      split at hbelongs
      · cases hbelongs
      · next x hx =>
        obtain ⟨hmem, rfl⟩ := Table.get_eq_some_iff.mp hget
        obtain ⟨owner, howner, hxget⟩ := Option.bind_eq_some_iff.mp hx
        obtain ⟨hxmem, hxid⟩ := Table.get_eq_some_iff.mp hxget
        obtain ⟨record', hget', hassigned⟩ := h.owner_kept hmem (fun hfree => htype (by simp [hfree]))
        obtain ⟨x', hxget', hvm⟩ := h.vm_kept hxmem
        have hbound : (record'.assigned_object.id.bind fun id => s.store.interfaces.get id) = some x' := by
          rw [hassigned, howner, Option.bind_some, ← hxid]
          exact hxget'
        unfold vm_network_preflight.primary_ip_belongs_to_vm
        rw [show s.store.ips.get (Row.id record) = some record' from hget']
        dsimp only
        rw [hassigned, if_neg htype, ← hassigned, hbound]
        dsimp only
        rw [hvm]
        exact hbelongs

/-- What became of the VM of a guest. -/
theorem Completed.settled_vm (hg : g ∈ done) (hvm : vm ∈ s.store.vms.rows)
    (hbare : bare vm = bare g.context.netbox_vm) : SettledVm g vm := by
  obtain ⟨found, hfound, hsettled⟩ := h.written.vms.settled _ (List.mem_map_of_mem hg)
  obtain ⟨hmem, hid⟩ := Table.get_eq_some_iff.mp hfound
  have hsame : found = vm := Table.eq_of_id hmem hvm (hid.trans (congrArg VirtualMachine.id hbare).symm)
  exact hsame ▸ hsettled

/-- A VM whose primary address was this run's to set has the candidate. -/
theorem Completed.primary_record (hg : g ∈ done) (hsettled : SettledVm g vm)
    (hfree : selectel_authority.primary_owned g.context.netbox_vm.custom_fields = false)
    (haction : g.context.primary.action ≠ some .preserve_manual) {candidate : String}
    (hcandidate : g.context.primary.candidate = some candidate) :
    ∃ record, vm.primary_ip4 = some record.id ∧
      (∀ vms, (index_records py s.store vms).ips_by_address candidate = [record]) ∧
      ∀ other ∈ s.store.ips.rows, ip_key other = some candidate → other = record := by
  obtain ⟨e, he, id, hp, hprimary⟩ := hsettled.set hfree haction candidate hcandidate
  obtain ⟨record, rfl, hsole, honly⟩ := h.applied_record hg he hp
  exact ⟨record, hprimary, hsole, honly⟩

theorem Completed.lxc_primary_idle (hg : g ∈ done) (hsettled : SettledVm g vm)
    (hfields : vm.custom_fields = g.context.netbox_vm.custom_fields)
    (hfirst : lxc_network_preflight.lxc_primary g.context.netbox_vm ipv4 = g.context.primary) :
    IdlePrimary s.store vm (lxc_network_preflight.lxc_primary vm ipv4) := by
  have hsame : lxc_network_preflight.lxc_primary vm ipv4 = g.context.primary := by
    rw [← hfirst]
    simp only [lxc_network_preflight.lxc_primary, hfields]
  cases howned : selectel_authority.primary_owned g.context.netbox_vm.custom_fields with
  | true => exact .inl (hfields ▸ howned)
  | false =>
    have haction : g.context.primary.action ≠ some .preserve_manual := by
      rw [← hfirst]
      simp only [lxc_network_preflight.lxc_primary, howned, Bool.false_eq_true, if_false]
      split <;> simp
    refine .inr (.inr fun candidate hcandidate other hother hkey => ?_)
    rw [hsame] at hcandidate
    obtain ⟨record, hprimary, _, honly⟩ := h.primary_record hg hsettled howned haction hcandidate
    rw [hprimary, honly other hother hkey]

end

theorem SettledVm.fields (h : SettledVm g vm) :
    vm.id = g.context.netbox_vm.id ∧ vm.custom_fields = g.context.netbox_vm.custom_fields ∧
      vm.cluster = g.context.netbox_vm.cluster := by
  rw [h.same]
  exact ⟨rfl, rfl, rfl⟩

section

variable (h : Completed py store cluster done s) (hg : g ∈ done)
include h hg

/-- The second decision between one candidate and the VM's primary address leaves the VM alone. -/
theorem Completed.candidate_primary_idle (hsettled : SettledVm g vm) (before after : List VirtualMachine)
    (candidate : String) (hfree : selectel_authority.primary_owned g.context.netbox_vm.custom_fields = false)
    (hfirst : vm_network_preflight.candidate_primary py g.context.guest g.context.netbox_vm candidate
      (index_records py store before) = .ok g.context.primary) :
    ∃ primary, vm_network_preflight.candidate_primary py g.context.guest vm candidate
        (index_records py s.store after) = .ok primary ∧ IdlePrimary s.store vm primary := by
  have hcandidate := candidate_primary_candidate hfirst
  by_cases haction : g.context.primary.action = some .preserve_manual
  · -- the first run kept a primary address that belongs to the VM
    unfold vm_network_preflight.candidate_primary at hfirst
    split at hfirst
    · rw [← Except.ok.inj hfirst] at haction
      cases haction
    · next current hcurrent =>
      split at hfirst
      · rw [← Except.ok.inj hfirst] at haction
        cases haction
      · dsimp only at hfirst
        split at hfirst
        · next hbelongs =>
          have hkept := hsettled.kept (.inr (.inr haction))
          unfold vm_network_preflight.candidate_primary
          rw [hkept, hcurrent]
          dsimp only
          split
          · next hsole =>
            refine ⟨_, rfl, .inr (.inr ?_)⟩
            rintro _ ⟨⟩ other hother hkey
            have hmem : other ∈ (index_records py s.store after).ips_by_address candidate :=
              List.mem_filter.mpr ⟨hother, by simp [hkey]⟩
            unfold vm_network_preflight.sole_id at hsole
            split at hsole
            · next record hrecord =>
              rw [hrecord, List.mem_singleton] at hmem
              rw [hkept, hcurrent, hsole, hmem]
            · cases hsole
          · rw [if_pos]
            · exact ⟨_, rfl, .inr (.inl rfl)⟩
            · rw [hsettled.fields.1]
              exact h.belongs_kept hbelongs
        · cases hfirst
  · -- the first run set the candidate, or found it set
    obtain ⟨record, hprimary, hsole, honly⟩ := h.primary_record hg hsettled hfree haction hcandidate
    unfold vm_network_preflight.candidate_primary
    rw [hprimary]
    dsimp only
    rw [hsole, vm_network_preflight.sole_id, if_pos rfl]
    refine ⟨_, rfl, .inr (.inr ?_)⟩
    rintro _ ⟨⟩ other hother hkey
    rw [hprimary, honly other hother hkey]

/-- The second decision about a guest's primary address leaves it alone. -/
theorem Completed.primary_idle (hsettled : SettledVm g vm)
    (hfirst : guest_primary py (guest_inventory py store cluster g.context.guest) g.context.guest g.context.netbox_vm
      ipv4 = .ok g.context.primary) :
    ∃ primary, guest_primary py (guest_inventory py s.store cluster g.context.guest) g.context.guest vm
        ipv4 = .ok primary ∧ IdlePrimary s.store vm primary := by
  obtain ⟨_, hfields, _⟩ := hsettled.fields
  cases hguest : g.context.guest with
  | container c =>
    rw [hguest] at hfirst
    exact ⟨_, rfl, h.lxc_primary_idle hg hsettled hfields (Except.ok.inj hfirst)⟩
  | machine m =>
    rw [hguest] at hfirst
    simp only [guest_primary, vm_network_preflight.prepare_vm_primary, hfields] at hfirst ⊢
    split at hfirst
    · next howned =>
      rw [if_pos howned]
      exact ⟨_, rfl, .inl (hfields ▸ howned)⟩
    · next hfree =>
      rw [if_neg hfree]
      split
      · next candidate hdup =>
        rw [hdup] at hfirst
        rw [Bool.not_eq_true] at hfree
        have hidle := fun before after =>
          h.candidate_primary_idle hg hsettled before after candidate hfree
        rw [hguest] at hidle
        exact hidle _ _ hfirst
      · exact ⟨_, rfl, .inr (.inr fun candidate hcandidate => by cases hcandidate)⟩

/-- The second preflight of a guest succeeds and finds everything in place. -/
theorem Completed.prepare_context (hsteady : SteadyNics py g.context.guest
    (vm_interfaces store g.context.netbox_vm.id)) :
    ∃ context, prepare_network_context py s.store cluster g.context.guest = .ok context ∧
      IdleGuest s.store context := by
  obtain ⟨_, hcluster, _, prepared, hnics, hcontexts, hprimary⟩ :=
    prepare_network_context_eq_ok_iff.mp (h.prepared g hg)
  obtain ⟨vm, hvm, hbare⟩ := h.found g hg
  have hsettled := h.settled_vm hg (find_guest_vm_mem hvm) hbare
  obtain ⟨before, hbefore, _⟩ := guest_inventory_eq py store cluster g.context.guest
  obtain ⟨after, hafter, _⟩ := guest_inventory_eq py s.store cluster g.context.guest
  rw [hbefore] at hnics
  obtain ⟨_, hrepeated, hall⟩ := (prepare_nics_eq_ok_iff py _).mp hnics
  -- the contexts of the NICs, in order
  have hstep : ∀ nic ∈ g.context.guest.interfaces, ∀ p ∈ prepared,
      prepare_nic_context py (guest_side py g.context.guest) g.context.guest
        (vm_interfaces store g.context.netbox_vm.id) (index_records py store before) nic = .ok p →
      ∃ p', prepare_nic_context py (guest_side py g.context.guest) g.context.guest
        (vm_interfaces s.store g.context.netbox_vm.id) (index_records py s.store after) nic = .ok p' ∧
          p'.2 = p.2 ∧ IdleNic s.store p'.1 := by
    rintro nic _ ⟨c, ipv4⟩ hp hprep
    obtain ⟨rfl, _⟩ := prepared_nic_existing hprep
    have hc : c ∈ g.context.nics := by
      rw [hcontexts]
      exact List.mem_map_of_mem hp
    obtain ⟨e, he, rfl⟩ := h.exists_entry hg hc
    obtain ⟨c', hprep', hidle⟩ := h.prepare_nic hg hsteady he hprep after
    exact ⟨(c', ipv4), hprep', rfl, hidle⟩
  obtain ⟨prepared', hall', hsame⟩ := hall.exists_forall₂ hstep
  have hipv4 : prepared'.flatMap Prod.snd = prepared.flatMap Prod.snd := hsame.flatMap_eq (fun _ _ h => h.1)
  obtain ⟨primary, hprimary', hidle⟩ := h.primary_idle hg hsettled hprimary
  refine ⟨⟨g.context.guest, vm, prepared'.map Prod.fst, primary⟩, ?_, find_guest_vm_mem hvm, ?_, hidle⟩
  · rw [prepare_network_context_eq_ok_iff]
    refine ⟨hvm, ?_, rfl, prepared', ?_, rfl, ?_⟩
    · cases hguest : g.context.guest with
      | machine m => rfl
      | container c =>
        rw [hguest] at hcluster
        simpa [in_cluster, hsettled.fields.2.2] using hcluster
    · dsimp only
      rw [hafter, prepare_nics_eq_ok_iff, hsettled.fields.1]
      exact ⟨h.names_valid hg hsteady, hrepeated, hall'⟩
    · dsimp only
      rw [hipv4]
      exact hprimary'
  · intro c hc
    obtain ⟨p', hp', rfl⟩ := List.mem_map.mp hc
    obtain ⟨p, _, _, hidle⟩ := hsame.exists_of_mem_right hp'
    exact hidle

end

end

end netbox_sync.network_writes
