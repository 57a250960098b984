import NetboxSync.Network.Requests

namespace netbox_sync.network_writes

open discovery netbox interface_display network_preflight network_inventory

/-- A NIC for which everything is in place. -/
structure IdleNic (store : Store) (c : NicContext) : Prop where
  unchanged : Unchanged c
  interface : ∀ x, c.existing = some x → x ∈ store.interfaces.rows
  mac : ∀ value, c.mac_value.filter (· ≠ "") = some value → ∃ mac ∈ store.macs.rows,
    c.existing_mac = some mac ∧ mac.assigned_object ≠ {} ∧
      ∀ x, c.existing = some x → x.primary_mac_address = some mac.id
  ip : ∀ ip ∈ c.ips, ∃ row ∈ store.ips.rows, ip.existing = some row ∧ row.assigned_object ≠ {} ∧
    ip_key row = some ip.key

/-- The primary address is not this run's to set, or it is set already. -/
def IdlePrimary (store : Store) (vm : VirtualMachine) (primary : PrimaryContext) : Prop :=
  selectel_authority.primary_owned vm.custom_fields = true ∨
    primary.action = some .preserve_manual ∨
    ∀ candidate, primary.candidate = some candidate → ∀ row ∈ store.ips.rows,
      ip_key row = some candidate → vm.primary_ip4 = some row.id

structure IdleGuest (store : Store) (g : GuestContext) : Prop where
  vm : g.netbox_vm ∈ store.vms.rows
  nics : ∀ c ∈ g.nics, IdleNic store c
  primary : IdlePrimary store g.netbox_vm g.primary

/-- Each applied address is the record under its key. -/
def AppliedUnder (store : Store) (applied : List (String × Int)) : Prop :=
  ∀ key id, dict.get applied key = some id → ∃ row ∈ store.ips.rows, row.id = id ∧ ip_key row = some key

section

variable {py : python.Runtime} {fresh : Table.Fresh} {s : Session} {guest : Guest}
  {netbox_vm : VirtualMachine} {c : NicContext} {applied : List (String × Int)}

theorem write_interface_idle {x : VMInterface} (hx : c.existing = some x) (hchanges : c.changes = {}) :
    write_interface py fresh s guest netbox_vm c = (s, x.id) := by
  unfold write_interface
  rw [hx]
  dsimp only
  rw [if_pos hchanges]

theorem write_mac_idle (h : IdleNic s.store c) {x : VMInterface} (hx : c.existing = some x) :
    write_mac fresh s c x.id = s := by
  unfold write_mac
  split
  · rfl
  · next value hvalue =>
    obtain ⟨mac, hmem, hmac, hassigned, hprimary⟩ := h.mac value hvalue
    have hplace : place_mac fresh s c x.id value = (s, mac.id) := by
      have hget : s.store.macs.get mac.id = some mac := Table.get_of_mem hmem
      unfold place_mac
      rw [hmac]
      dsimp only
      rw [hget, if_neg (by simpa using hassigned)]
    have hget : s.store.interfaces.get x.id = some x := Table.get_of_mem (h.interface x hx)
    rw [hplace]
    dsimp only
    rw [hget, Option.bind_some, hprimary x hx, if_neg (by simp)]

theorem write_ips_idle (fresh : Table.Fresh) (interface_id : Int) {ips : List IpContext}
    (h : ∀ ip ∈ ips, ∃ row ∈ s.store.ips.rows, ip.existing = some row ∧ row.assigned_object ≠ {} ∧
      ip_key row = some ip.key) (happlied : AppliedUnder s.store applied) :
    ∃ applied', write_ips fresh interface_id s applied ips = (s, applied') ∧ AppliedUnder s.store applied' := by
  induction ips generalizing applied with
  | nil => exact ⟨applied, rfl, happlied⟩
  | cons ip ips ih =>
    obtain ⟨row, hmem, hexisting, hassigned, hkey⟩ := h ip (by simp)
    have hone : write_ip fresh s ip interface_id = (s, row.id) := by
      have hget : s.store.ips.get row.id = some row := Table.get_of_mem hmem
      unfold write_ip
      rw [hexisting]
      dsimp only
      rw [hget, if_neg (by simpa using hassigned)]
    simp only [write_ips, hone]
    apply ih (fun other hother => h other (by simp [hother]))
    intro key id hget
    rw [dict.get_set] at hget
    split at hget
    · next hsame =>
      cases hget
      exact ⟨row, hmem, rfl, hsame ▸ hkey⟩
    · exact happlied key id hget

theorem write_nics_idle (py : python.Runtime) (fresh : Table.Fresh) (guest : Guest) (netbox_vm : VirtualMachine)
    {nics : List NicContext} (h : ∀ c ∈ nics, IdleNic s.store c) (happlied : AppliedUnder s.store applied) :
    ∃ applied', write_nics py fresh guest netbox_vm s applied nics = (s, applied') ∧
      AppliedUnder s.store applied' := by
  induction nics generalizing applied with
  | nil => exact ⟨applied, rfl, happlied⟩
  | cons c nics ih =>
    have hc := h c (by simp)
    obtain ⟨x, hx, hchanges⟩ := hc.unchanged
    obtain ⟨applied₁, hips, happlied₁⟩ := write_ips_idle fresh x.id hc.ip happlied
    have hnic : write_nic py fresh guest netbox_vm s applied c = (s, applied₁) := by
      unfold write_nic
      rw [write_interface_idle hx hchanges]
      dsimp only
      rw [write_mac_idle hc hx, hips]
    simp only [write_nics, hnic]
    exact ih (fun other hother => h other (by simp [hother])) happlied₁

theorem write_primary_idle {primary : PrimaryContext} (hvm : netbox_vm ∈ s.store.vms.rows)
    (h : IdlePrimary s.store netbox_vm primary) (happlied : AppliedUnder s.store applied) :
    write_primary s netbox_vm primary applied = s := by
  have hget : s.store.vms.get netbox_vm.id = some netbox_vm := Table.get_of_mem hvm
  unfold write_primary
  split
  · rfl
  · next howned =>
    split
    · rfl
    · next id hid =>
      split
      · rfl
      · next haction =>
        obtain ⟨candidate, hcandidate, happ⟩ := Option.bind_eq_some_iff.mp hid
        obtain ⟨row, hrow, rfl, hkey⟩ := happlied candidate id happ
        rcases h with hprovider | hmanual | hset
        · exact absurd hprovider howned
        · exact absurd hmanual haction
        · rw [hget, Option.bind_some, hset candidate hcandidate row hrow hkey, if_neg (by simp)]

/-- A run over guests for which everything is in place does nothing. -/
theorem write_networks_idle {contexts : List GuestContext} (h : ∀ g ∈ contexts, IdleGuest s.store g) :
    write_networks py fresh s contexts = s := by
  unfold write_networks
  induction contexts with
  | nil => rfl
  | cons g contexts ih =>
    have hg := h g (by simp)
    have hnothing : AppliedUnder s.store [] := by
      intro key id hget
      cases hget
    obtain ⟨applied, hnics, happlied⟩ := write_nics_idle py fresh g.guest g.netbox_vm hg.nics hnothing
    have hguest : write_guest py fresh s g = s := by
      unfold write_guest
      rw [hnics]
      exact write_primary_idle hg.vm hg.primary happlied
    rw [List.foldl_cons, hguest]
    exact ih (fun other hother => h other (by simp [hother]))

end

/-- A run that is over: the guests it prepared against the old content, each with a VM and interfaces of its own, and
    the content it left. -/
structure Completed (py : python.Runtime) (store : Store) (cluster : Cluster) (done : List GuestEntry)
    (s : Session) : Prop where
  prepared : ∀ g ∈ done, prepare_network_context py store cluster g.context.guest = .ok g.context
  pair : ∀ g ∈ done, g.context.nics.Pairwise (Disjoint py)
  apart : done.Pairwise (fun g g' => GuestsApart py g.context g'.context)
  written : GuestsWritten py store s done
  found : ∀ g ∈ done, ∃ vm, find_guest_vm py s.store cluster g.context.guest = .ok vm ∧
    bare vm = bare g.context.netbox_vm

section

variable {py : python.Runtime} {store : Store} {cluster : Cluster} {done : List GuestEntry} {s : Session}
  {g g' : GuestEntry} {e e' : NicEntry}

theorem Disjoint.symm {a b : NicContext} (h : Disjoint py a b) : Disjoint py b a where
  interface x y hx hy heq := h.interface y x hy hx heq.symm
  mac m hm hm' := h.mac m hm' hm
  ips i hi j hj heq := h.ips j hj i hi heq.symm

theorem GuestsApart.symm {a b : GuestContext} (h : GuestsApart py a b) : GuestsApart py b a :=
  ⟨h.vm.symm, fun c hc c' hc' => (h.nics c' hc' c hc).symm⟩

section

variable (h : Completed py store cluster done s) (hg : g ∈ done)
include h hg

/-- Two guests are the same, or they share nothing. -/
theorem Completed.guest_eq_or_apart (hg' : g' ∈ done) : g = g' ∨ GuestsApart py g.context g'.context := by
  have hsymm : Std.Symm (fun g g' : GuestEntry => g = g' ∨ GuestsApart py g.context g'.context) := by
    constructor
    rintro a b (rfl | hab)
    · exact .inl rfl
    · exact .inr hab.symm
  exact (h.apart.imp Or.inr).forall_of_forall (fun _ _ => .inl rfl) hg hg'

theorem Completed.guest_of_vm (hg' : g' ∈ done) (hvm : g.context.netbox_vm.id = g'.context.netbox_vm.id) : g = g' :=
  (h.guest_eq_or_apart hg hg').resolve_right (fun hapart => hapart.vm hvm)

theorem Completed.entry_eq_or_disjoint (he : e ∈ g.nics) (hg' : g' ∈ done) (he' : e' ∈ g'.nics) :
    e = e' ∨ Disjoint py e.context e'.context := by
  rcases h.guest_eq_or_apart hg hg' with rfl | hapart
  · have hsymm : Std.Symm (fun e e' : NicEntry => e = e' ∨ Disjoint py e.context e'.context) := by
      constructor
      rintro a b (rfl | hab)
      · exact .inl rfl
      · exact .inr hab.symm
    have hpair : (g.nics.map NicEntry.context).Pairwise (Disjoint py) := by
      rw [(h.written.entries g hg).1, List.pairwise_reverse]
      exact (h.pair g hg).imp Disjoint.symm
    rw [List.pairwise_map] at hpair
    exact (hpair.imp Or.inr).forall_of_forall (fun _ _ => .inl rfl) he he'
  · exact .inr (hapart.nics _ (h.written.context_mem hg he) _ (h.written.context_mem hg' he'))

theorem Completed.entered (he : e ∈ g.nics) : Entered py store e :=
  h.written.nics.entered e (List.mem_flatMap.mpr ⟨g, hg, he⟩)

theorem Completed.prepared_context : PreparedContext py store cluster g.context :=
  (prepare_network_context_prepared (h.prepared g hg)).2

/-- Every NIC of a guest has an entry. -/
theorem Completed.exists_entry {c : NicContext} (hc : c ∈ g.context.nics) : ∃ e ∈ g.nics, e.context = c := by
  rw [← List.mem_reverse, ← (h.written.entries g hg).1] at hc
  exact List.mem_map.mp hc

/-- The interface of a written NIC. -/
theorem Completed.interface_of_entry (he : e ∈ g.nics) :
    ∃ row ∈ vm_interfaces s.store g.context.netbox_vm.id, row.id = e.interface ∧
      SettledInterface py g.context.guest g.context.netbox_vm.id e.context e.mac row := by
  obtain ⟨row, hrow, hsettled⟩ := h.written.nics.interfaces.settled _
    (List.mem_map_of_mem (List.mem_flatMap.mpr ⟨g, hg, he⟩))
  obtain ⟨hguest, hvm⟩ := (h.written.entries g hg).2 e he
  rw [hguest, hvm] at hsettled
  obtain ⟨hmem, hid⟩ := Table.get_eq_some_iff.mp hrow
  exact ⟨row, List.mem_filter.mpr ⟨hmem, by simp [hsettled.virtual_machine]⟩, hid, hsettled⟩

/-- An interface of the guest's VM was written for a NIC of the guest, or it is an old one that no NIC of the guest
    was given. -/
theorem Completed.interface_cases {row : VMInterface} (hrow : row ∈ vm_interfaces s.store g.context.netbox_vm.id) :
    (∃ e ∈ g.nics, row.id = e.interface ∧
      SettledInterface py g.context.guest g.context.netbox_vm.id e.context e.mac row) ∨
    (row ∈ vm_interfaces store g.context.netbox_vm.id ∧ ∀ c ∈ g.context.nics, c.existing ≠ some row) := by
  obtain ⟨hmem, hvm⟩ := List.mem_filter.mp hrow
  have hvm := of_decide_eq_true hvm
  rcases h.written.nics.interfaces.cases hmem with ⟨entry, hentry, hid, hsettled⟩ | ⟨huntouched, hold⟩
  · obtain ⟨e, he, rfl⟩ := List.mem_map.mp hentry
    obtain ⟨g', hg', he'⟩ := List.mem_flatMap.mp he
    obtain ⟨hguest, hvm'⟩ := (h.written.entries g' hg').2 e he'
    dsimp only at hid hsettled
    rw [hguest, hvm'] at hsettled
    have hsame : g' = g := by
      apply h.guest_of_vm hg' hg
      have hid := hsettled.virtual_machine
      rw [hvm, Option.some.injEq] at hid
      exact hid.symm
    subst hsame
    exact .inl ⟨e, he', hid.symm, hsettled⟩
  · refine .inr ⟨List.mem_filter.mpr ⟨hold, by simp [hvm]⟩, ?_⟩
    intro c hc hexisting
    obtain ⟨e, he, rfl⟩ := h.exists_entry hg hc
    apply huntouched
    rw [touchedInterfaces, List.map_map]
    refine List.mem_map.mpr ⟨e, List.mem_flatMap.mpr ⟨g, hg, he⟩, ?_⟩
    exact (h.entered hg he).placed.old row hexisting

end

/-- A record that was under a key before is the one that was placed. -/
theorem Single.id_of_under {α : Type} [Row α] {table : Table α} {assigned_object : α → Assigned}
    {under : α → Prop} {existing : Option VMInterface} {found : Option α} {id : Int} {row : α}
    (h : Single assigned_object under table.rows existing found) (hplaced : PlacedUnder table found id)
    (hrow : row ∈ table.rows) (hunder : under row) : Row.id row = id := by
  cases h with
  | absent no_row => exact absurd hunder (no_row row hrow)
  | found x _ _ only _ => rw [hplaced.old x rfl, only row hrow hunder]

/-- The MAC record of a written NIC, the only one under its address. -/
theorem Completed.mac_of_entry (h : Completed py store cluster done s) (hg : g ∈ done) (he : e ∈ g.nics)
    {mac : String} (hmac : mac_of py e.context.source = some mac) :
    ∃ row ∈ s.store.macs.rows, e.mac = some row.id ∧ mac_key py row = some mac ∧
      row.assigned_object = owned_by e.interface ∧
      ∀ other ∈ s.store.macs.rows, mac_key py other = some mac → other = row := by
  have hentered := h.entered hg he
  obtain ⟨id, hid⟩ : ∃ id, e.mac = some id := by
    rw [← Option.isSome_iff_exists, hentered.mac_isSome, hmac]
    rfl
  have htouched : (id, SettledMac py e.context.source e.interface) ∈
      touchedMacs py (done.flatMap GuestEntry.nics) := by
    refine List.mem_flatMap.mpr ⟨e, List.mem_flatMap.mpr ⟨g, hg, he⟩, ?_⟩
    rw [hid]
    exact List.mem_singleton_self _
  obtain ⟨row, hrow, hsettled⟩ := h.written.nics.macs.settled _ htouched
  obtain ⟨hmem, rfl⟩ := Table.get_eq_some_iff.mp hrow
  refine ⟨row, hmem, hid, hsettled.key.trans hmac, hsettled.owner, ?_⟩
  intro other hother hkey
  rcases h.written.nics.macs.cases hother with ⟨entry, hentry, hsame, hothers⟩ | ⟨huntouched, hold⟩
  · obtain ⟨e', he', hentry⟩ := List.mem_flatMap.mp hentry
    obtain ⟨g', hg', he'⟩ := List.mem_flatMap.mp he'
    obtain ⟨id', hid', rfl⟩ := List.mem_map.mp hentry
    rcases h.entry_eq_or_disjoint hg he hg' he' with rfl | hdisjoint
    · rw [hid, Option.toList_some, List.mem_singleton] at hid'
      exact Table.eq_of_id hother hmem (hsame.symm.trans hid')
    · exact absurd (hothers.key.symm.trans hkey) (hdisjoint.mac mac hmac)
  · have hid := (hentered.prepared.mac mac hmac).id_of_under (hentered.mac_placed row.id hid) hold hkey
    rw [hid] at huntouched
    exact absurd (List.mem_map_of_mem (f := Prod.fst) htouched) huntouched

/-- The record of an address of a written NIC, the only one under its key. -/
theorem Completed.ip_of_entry (h : Completed py store cluster done s) (hg : g ∈ done) (he : e ∈ g.nics)
    {ip : IpContext} (hip : ip ∈ e.context.ips) :
    ∃ row ∈ s.store.ips.rows, (ip.key, row.id) ∈ e.ips ∧ ip_key row = some ip.key ∧
      row.assigned_object = owned_by e.interface ∧
      ∀ other ∈ s.store.ips.rows, ip_key other = some ip.key → other = row := by
  have hentered := h.entered hg he
  obtain ⟨id, hid⟩ := hentered.ips_complete ip hip
  have htouched : (id, SettledIp ip.key e.interface) ∈ touchedIps (done.flatMap GuestEntry.nics) :=
    List.mem_flatMap.mpr ⟨e, List.mem_flatMap.mpr ⟨g, hg, he⟩,
      List.mem_map_of_mem (f := fun p => (p.2, SettledIp p.1 e.interface)) hid⟩
  obtain ⟨row, hrow, hsettled⟩ := h.written.nics.ips.settled _ htouched
  obtain ⟨hmem, rfl⟩ := Table.get_eq_some_iff.mp hrow
  refine ⟨row, hmem, hid, hsettled.key, hsettled.owner, ?_⟩
  intro other hother hkey
  rcases h.written.nics.ips.cases hother with ⟨entry, hentry, hsame, hothers⟩ | ⟨huntouched, hold⟩
  · obtain ⟨e', he', hentry⟩ := List.mem_flatMap.mp hentry
    obtain ⟨g', hg', he'⟩ := List.mem_flatMap.mp he'
    obtain ⟨p, hp, rfl⟩ := List.mem_map.mp hentry
    have hpkey : p.1 = ip.key := Option.some.inj (hothers.key.symm.trans hkey)
    rcases h.entry_eq_or_disjoint hg he hg' he' with rfl | hdisjoint
    · have hpair : p = (ip.key, row.id) := List.inj_on_of_nodup_map hentered.ips_nodup hp hid hpkey
      rw [hpair] at hsame
      exact Table.eq_of_id hother hmem hsame.symm
    · obtain ⟨ip', hip', hpkey', _⟩ := (h.entered hg' he').ips_placed p hp
      exact absurd (hpkey.symm.trans hpkey') (hdisjoint.ips ip hip ip' hip')
  · obtain ⟨ip', hip', hkey', hplaced⟩ := hentered.ips_placed _ hid
    have hid := (hentered.prepared.ip ip' hip').2.id_of_under hplaced hold (hkey.trans (congrArg some hkey'))
    rw [hid] at huntouched
    exact absurd (List.mem_map_of_mem (f := Prod.fst) htouched) huntouched

/-- The VM has an enabled interface under the name of the NIC. The NIC's MAC is the primary one of that interface, and
    of its MAC and of each of its addresses there is one record, which belongs to the interface. -/
def Delivered (py : python.Runtime) (store : Store) (vm_id : Int) (guest : Guest) (nic : DiscoveredInterface) : Prop :=
  ∃ row ∈ vm_interfaces store vm_id, row.name = interface_display_name py guest nic ∧ row.enabled = true ∧
    (∀ mac, mac_of py nic = some mac → ∃ record, store.macs.rows.filter (fun r => mac_key py r = some mac) = [record] ∧
      record.assigned_object = owned_by row.id ∧ row.primary_mac_address = some record.id) ∧
    ∀ key ∈ nic_ips nic, ∃ record, store.ips.rows.filter (fun r => ip_key r = some key) = [record] ∧
      record.assigned_object = owned_by row.id

theorem Completed.delivered {py : python.Runtime} {store : Store} {cluster : Cluster} {done : List GuestEntry}
    {s : Session} {g : GuestEntry} (h : Completed py store cluster done s) (hg : g ∈ done) {nic : DiscoveredInterface}
    (hnic : nic ∈ g.context.guest.interfaces) : Delivered py s.store g.context.netbox_vm.id g.context.guest nic := by
  have hcontext := h.prepared_context hg
  rw [← hcontext.sources] at hnic
  obtain ⟨c, hc, rfl⟩ := List.mem_map.mp hnic
  obtain ⟨e, he, rfl⟩ := h.exists_entry hg hc
  obtain ⟨row, hrow, hid, hsettled⟩ := h.interface_of_entry hg he
  refine ⟨row, hrow, hsettled.name, hsettled.enabled, ?_, ?_⟩
  · intro mac hmac
    obtain ⟨record, hmem, hentry, hkey, howner, honly⟩ := h.mac_of_entry hg he hmac
    refine ⟨record, Table.filter_key_eq_singleton hmem hkey honly, ?_, hsettled.primary_mac _ hentry⟩
    rw [howner, hid]
  · intro key hkey
    rw [← hcontext.keys _ hc] at hkey
    obtain ⟨ip, hip, rfl⟩ := List.mem_map.mp hkey
    obtain ⟨record, hmem, _, hkey, howner, honly⟩ := h.ip_of_entry hg he hip
    refine ⟨record, Table.filter_key_eq_singleton hmem hkey honly, ?_⟩
    rw [howner, hid]

end

end netbox_sync.network_writes
