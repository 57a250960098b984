import NetboxSync.Network.Writes

open json

namespace netbox_sync.network_writes

open discovery netbox interface_display network_preflight network_inventory

/-- The custom fields a NIC's interface ends up with. -/
def final_fields (context : NicContext) : Fields :=
  match context.existing with
  | none => context.desired_custom_fields
  | some interface => context.changes.custom_fields.getD interface.custom_fields

variable (py : python.Runtime)

structure SettledInterface (guest : Guest) (vm_id : Int) (context : NicContext) (mac : Option Int)
    (row : VMInterface) : Prop where
  virtual_machine : row.virtual_machine = some vm_id
  name : row.name = interface_display_name py guest context.source
  enabled : row.enabled = true
  custom_fields : row.custom_fields = final_fields context
  primary_mac : ∀ id, mac = some id → row.primary_mac_address = some id

structure SettledMac (nic : DiscoveredInterface) (interface : Int) (row : MACAddress) : Prop where
  key : mac_key py row = mac_of py nic
  owner : row.assigned_object = owned_by interface

structure SettledIp (key : String) (interface : Int) (row : IPAddress) : Prop where
  key : ip_key row = some key
  owner : row.assigned_object = owned_by interface

/-- The single record under a key, as `single_record` finds it. -/
inductive Single {α : Type} (assigned_object : α → Assigned) (under : α → Prop) (rows : List α)
    (existing : Option VMInterface) : Option α → Prop
  | absent (no_row : ∀ row ∈ rows, ¬ under row) : Single assigned_object under rows existing none
  | found (row : α) (mem : row ∈ rows) (here : under row)
      (only : ∀ other ∈ rows, under other → other = row)
      (allowed : allowed existing (assigned_object row) = true) :
      Single assigned_object under rows existing (some row)

/-- What the writes rely on in the context of a NIC. -/
structure PreparedNic (store : Store) (vm_id : Int) (guest : Guest) (context : NicContext) : Prop where
  existing : ∀ x, context.existing = some x → x ∈ store.interfaces.rows ∧ x.virtual_machine = some vm_id
  name : ∀ x, context.existing = some x →
    context.changes.name.getD x.name = interface_display_name py guest context.source
  enabled : ∀ x, context.existing = some x → context.changes.enabled.getD x.enabled = true
  mac_value : context.mac_value.filter (· ≠ "") = mac_of py context.source
  mac : ∀ mac, mac_of py context.source = some mac →
    Single MACAddress.assigned_object (fun row => mac_key py row = some mac) store.macs.rows
      context.existing context.existing_mac
  ip : ∀ ip ∈ context.ips, ip_key { id := 0, address := some ip.address, vrf := ip.vrf_id } = some ip.key ∧
    Single IPAddress.assigned_object (fun row => ip_key row = some ip.key) store.ips.rows
      context.existing ip.existing

section

variable {py : python.Runtime} {fresh : Table.Fresh} {store : Store} {s : Session} {guest : Guest}
  {netbox_vm : VirtualMachine} {context : NicContext}

/-- The tables that the writes for a NIC leave alone. -/
structure Aside (s s' : Session) : Prop where
  vms : s'.store.vms = s.store.vms
  sites : s'.store.sites = s.store.sites
  clusters : s'.store.clusters = s.store.clusters

theorem Aside.refl (s : Session) : Aside s s := ⟨rfl, rfl, rfl⟩

variable {s' : Session} {id interface : Int} {existing : Option VMInterface}

theorem Aside.trans {s s'' : Session} (h : Aside s s') (h' : Aside s' s'') : Aside s s'' :=
  ⟨h'.vms.trans h.vms, h'.sites.trans h.sites, h'.clusters.trans h.clusters⟩

/-- The interface of a NIC is the old one, or one that was not there. -/
structure Placed (store : Store) (context : NicContext) (interface : Int) : Prop where
  old : ∀ x, context.existing = some x → interface = x.id
  new : context.existing = none → interface ∉ store.interfaces.ids

theorem write_interface_evolves {touched : List (Int × (VMInterface → Prop))}
    (h : store.interfaces.Evolved s.store.interfaces touched) (hprep : PreparedNic py store netbox_vm.id guest context)
    (hfresh : ∀ x, context.existing = some x → x.id ∉ touched.map Prod.fst)
    (hwrite : write_interface py fresh s guest netbox_vm context = (s', id)) :
    store.interfaces.Evolved s'.store.interfaces
        ((id, SettledInterface py guest netbox_vm.id context none) :: touched) ∧
      id ∉ touched.map Prod.fst ∧ Placed store context id := by
  unfold write_interface at hwrite
  cases hexisting : context.existing with
  | none =>
    rw [hexisting] at hwrite
    cases hwrite
    have hnew := fresh.notMem s.store.interfaces.ids
    refine ⟨h.insert hnew ⟨rfl, rfl, rfl, ?_, ?_⟩, fun htouched => hnew (h.touched_mem_ids htouched),
      ⟨?_, fun _ hold => hnew (h.mem_ids hold)⟩⟩
    · simp [final_fields, hexisting]
    · intro mac hmac
      cases hmac
    · intro x hx
      rw [hexisting] at hx
      cases hx
  | some x =>
    rw [hexisting] at hwrite
    obtain ⟨hmem, hvm⟩ := hprep.existing x hexisting
    have hid := hfresh x hexisting
    have hplaced : Placed store context x.id := by
      refine ⟨fun y hy => ?_, fun hnone => ?_⟩
      · rw [hexisting, Option.some.injEq] at hy
        rw [hy]
      · rw [hexisting] at hnone
        cases hnone
    have hsettled : SettledInterface py guest netbox_vm.id context none (changed context.changes x) := by
      refine ⟨hvm, hprep.name x hexisting, hprep.enabled x hexisting, ?_, fun mac hmac => ?_⟩
      · simp [changed, final_fields, hexisting]
      · cases hmac
    dsimp only at hwrite
    split at hwrite
    · next hchanges =>
      cases hwrite
      rw [hchanges] at hsettled
      exact ⟨h.keep hid (Table.get_of_mem hmem) hsettled, hid, hplaced⟩
    · cases hwrite
      refine ⟨?_, hid, hplaced⟩
      have hkept : store.interfaces.Evolved s.store.interfaces ((x.id, fun row => row = x) :: touched) :=
        h.keep hid (Table.get_of_mem hmem) rfl
      apply hkept.modify hid (changed context.changes) (fun _ => rfl)
      rintro _ rfl
      exact hsettled

theorem write_interface_frame (hwrite : write_interface py fresh s guest netbox_vm context = (s', id)) :
    s'.store.macs = s.store.macs ∧ s'.store.ips = s.store.ips ∧ Aside s s' := by
  unfold write_interface at hwrite
  split at hwrite
  · cases hwrite
    exact ⟨rfl, rfl, rfl, rfl, rfl⟩
  · split at hwrite <;> cases hwrite <;> exact ⟨rfl, rfl, rfl, rfl, rfl⟩

/-- A record the interface may have is free or has it as owner already. -/
theorem allowed_cases {assigned : Assigned} (h : allowed existing assigned = true)
    (hold : ∀ x, existing = some x → interface = x.id) : assigned = {} ∨ assigned = owned_by interface := by
  simp only [allowed, Bool.or_eq_true, decide_eq_true_eq, Option.any_eq_true] at h
  obtain hfree | ⟨x, hx, howned⟩ := h
  · exact .inl hfree
  · exact .inr (by rw [howned, hold x hx, owned_by])

theorem canonical_mac_of {nic : DiscoveredInterface} {mac : String} (h : mac_of py nic = some mac) :
    canonical_mac py (some mac) = some mac := by
  simp only [mac_of, Option.filter_eq_some_iff, decide_eq_true_eq] at h
  obtain ⟨hcanonical, hne⟩ := h
  unfold canonical_mac at hcanonical
  split at hcanonical
  · cases hcanonical
  · split at hcanonical
    · cases hcanonical
    · next value _ _ =>
      rw [Option.some.injEq] at hcanonical
      have hstripped : python.strip mac = mac := by
        rw [← hcanonical]
        exact py.strip_upper _ (python.strip_strip value)
      simp only [canonical_mac, if_neg hne, hstripped]
      rw [← hcanonical, py.upper_upper]

/-- Where a record under a key went: to the old one, or to one that was not there. -/
structure PlacedUnder {α : Type} [Row α] (table : Table α) (existing : Option α) (id : Int) : Prop where
  old : ∀ x, existing = some x → id = Row.id x
  new : existing = none → id ∉ table.ids

theorem place_mac_evolves {touched : List (Int × (MACAddress → Prop))} {mac : String}
    (h : store.macs.Evolved s.store.macs touched) (hprep : PreparedNic py store netbox_vm.id guest context)
    (hplaced : Placed store context interface) (hmac : mac_of py context.source = some mac)
    (hfresh : ∀ x, context.existing_mac = some x → x.id ∉ touched.map Prod.fst)
    (hwrite : place_mac fresh s context interface mac = (s', id)) :
    store.macs.Evolved s'.store.macs ((id, SettledMac py context.source interface) :: touched) ∧
      PlacedUnder store.macs context.existing_mac id ∧
      s'.store.interfaces = s.store.interfaces ∧ s'.store.ips = s.store.ips ∧ Aside s s' := by
  unfold place_mac at hwrite
  have hsingle := hprep.mac mac hmac
  cases hexisting : context.existing_mac with
  | none =>
    rw [hexisting] at hwrite
    cases hwrite
    have hnew := fresh.notMem s.store.macs.ids
    refine ⟨h.insert hnew ⟨?_, rfl⟩, ⟨by simp, fun _ hold => hnew (h.mem_ids hold)⟩, rfl, rfl, rfl, rfl, rfl⟩
    rw [hmac, mac_key, canonical_mac_of hmac]
    simp only [mac_of, Option.filter_eq_some_iff, decide_eq_true_eq] at hmac
    simp [Option.filter, hmac.2]
  | some x =>
    rw [hexisting] at hwrite hsingle
    cases hsingle with | found _ hmem hhere _ hallowed
    have hunder : PlacedUnder store.macs (some x) x.id := ⟨by rintro _ ⟨⟩; rfl, fun hnone => by cases hnone⟩
    have hkey : mac_key py x = mac_of py context.source := by rw [hmac, hhere]
    have hplace : store.macs.Evolved _ ((x.id, SettledMac py context.source interface) :: touched) :=
      h.place (hfresh x hexisting) (Table.get_of_mem hmem)
        (fun row => { row with assigned_object := owned_by interface }) (fun _ => rfl)
        (fun row => row.assigned_object = {})
        (fun _ => ⟨hkey, rfl⟩)
        (fun hdone =>
          ⟨hkey, (allowed_cases hallowed hplaced.old).resolve_left (by simpa using hdone)⟩)
    dsimp only at hwrite
    split at hwrite
    · next hfree =>
      cases hwrite
      rw [if_pos hfree] at hplace
      exact ⟨hplace, hunder, rfl, rfl, rfl, rfl, rfl⟩
    · next hfree =>
      cases hwrite
      rw [if_neg hfree] at hplace
      exact ⟨hplace, hunder, rfl, rfl, rfl, rfl, rfl⟩

theorem write_mac_evolves (fresh : Table.Fresh) {touched : List (Int × (VMInterface → Prop))}
    {touchedMacs : List (Int × (MACAddress → Prop))}
    (h : store.interfaces.Evolved s.store.interfaces ((interface,
      SettledInterface py guest netbox_vm.id context none) :: touched))
    (hinterface : interface ∉ touched.map Prod.fst) (hmacs : store.macs.Evolved s.store.macs touchedMacs)
    (hprep : PreparedNic py store netbox_vm.id guest context) (hplaced : Placed store context interface)
    (hfresh : ∀ mac, mac_of py context.source = some mac → ∀ x, context.existing_mac = some x →
      x.id ∉ touchedMacs.map Prod.fst) :
    ∃ mac : Option Int,
      store.interfaces.Evolved (write_mac fresh s context interface).store.interfaces
        ((interface, SettledInterface py guest netbox_vm.id context mac) :: touched) ∧
      store.macs.Evolved (write_mac fresh s context interface).store.macs
        (mac.toList.map (fun id => (id, SettledMac py context.source interface)) ++ touchedMacs) ∧
      mac.isSome = (mac_of py context.source).isSome ∧
      (∀ id, mac = some id → PlacedUnder store.macs context.existing_mac id) ∧
      (write_mac fresh s context interface).store.ips = s.store.ips ∧
      Aside s (write_mac fresh s context interface) := by
  unfold write_mac
  rw [hprep.mac_value]
  cases hmac : mac_of py context.source with
  | none => exact ⟨none, h, hmacs, rfl, by simp, rfl, Aside.refl s⟩
  | some mac_value =>
    dsimp only
    cases hwrite : place_mac fresh s context interface mac_value with
    | mk s' id =>
      obtain ⟨hplace, hunder, hinterfaces, hips, haside⟩ :=
        place_mac_evolves hmacs hprep hplaced hmac (hfresh mac_value hmac) hwrite
      rw [← hinterfaces] at h
      refine ⟨some id, ?_⟩
      dsimp only
      split
      · refine ⟨h.modify hinterface (fun row => { row with primary_mac_address := some id })
          (fun _ => rfl) ?_, hplace, rfl, by rintro _ ⟨⟩; exact hunder, hips,
          haside.trans ⟨rfl, rfl, rfl⟩⟩
        intro row hrow
        exact ⟨hrow.virtual_machine, hrow.name, hrow.enabled, hrow.custom_fields, fun _ hid => hid⟩
      · next hprimary =>
        refine ⟨h.weaken ?_, hplace, rfl, by rintro _ ⟨⟩; exact hunder, hips, haside⟩
        intro row hget hrow
        rw [hget] at hprimary
        refine ⟨hrow.virtual_machine, hrow.name, hrow.enabled, hrow.custom_fields, ?_⟩
        rintro _ ⟨⟩
        exact not_not.mp hprimary

theorem write_ip_evolves {touched : List (Int × (IPAddress → Prop))} {ip : IpContext}
    (h : store.ips.Evolved s.store.ips touched) (hprep : PreparedNic py store netbox_vm.id guest context)
    (hplaced : Placed store context interface) (hip : ip ∈ context.ips)
    (hfresh : ∀ x, ip.existing = some x → x.id ∉ touched.map Prod.fst)
    (hwrite : write_ip fresh s ip interface = (s', id)) :
    store.ips.Evolved s'.store.ips ((id, SettledIp ip.key interface) :: touched) ∧
      PlacedUnder store.ips ip.existing id ∧
      s'.store.interfaces = s.store.interfaces ∧ s'.store.macs = s.store.macs ∧ Aside s s' := by
  unfold write_ip at hwrite
  obtain ⟨hkey, hsingle⟩ := hprep.ip ip hip
  cases hexisting : ip.existing with
  | none =>
    rw [hexisting] at hwrite
    cases hwrite
    have hnew := fresh.notMem s.store.ips.ids
    exact ⟨h.insert hnew ⟨hkey, rfl⟩, ⟨by simp, fun _ hold => hnew (h.mem_ids hold)⟩, rfl, rfl, rfl, rfl, rfl⟩
  | some x =>
    rw [hexisting] at hwrite hsingle
    cases hsingle with | found _ hmem hhere _ hallowed
    have hunder : PlacedUnder store.ips (some x) x.id := ⟨by rintro _ ⟨⟩; rfl, fun hnone => by cases hnone⟩
    have hplace : store.ips.Evolved _ ((x.id, SettledIp ip.key interface) :: touched) :=
      h.place (hfresh x hexisting) (Table.get_of_mem hmem)
        (fun row => { row with assigned_object := owned_by interface }) (fun _ => rfl)
        (fun row => row.assigned_object = {})
        (fun _ => ⟨hhere, rfl⟩)
        (fun hdone =>
          ⟨hhere, (allowed_cases hallowed hplaced.old).resolve_left (by simpa using hdone)⟩)
    dsimp only at hwrite
    split at hwrite
    · next hfree =>
      cases hwrite
      rw [if_pos hfree] at hplace
      exact ⟨hplace, hunder, rfl, rfl, rfl, rfl, rfl⟩
    · next hfree =>
      cases hwrite
      rw [if_neg hfree] at hplace
      exact ⟨hplace, hunder, rfl, rfl, rfl, rfl, rfl⟩

theorem Single.mem {α : Type} {assigned_object : α → Assigned} {under : α → Prop} {rows : List α} {found : Option α}
    (h : Single assigned_object under rows existing found) {row : α} (hrow : found = some row) :
    row ∈ rows ∧ under row := by
  cases h with
  | absent no_row => cases hrow
  | found other mem here only allowed =>
    cases hrow
    exact ⟨mem, here⟩

/-- Two records under different keys are not placed in the same row. -/
theorem PlacedUnder.ne {α : Type} [Row α] {table : Table α} {assigned_object : α → Assigned} {key : α → Option String}
    {k k' : String} {existing' : Option VMInterface} {found found' : Option α} {x : α} (h : PlacedUnder table found id)
    (hsingle : Single assigned_object (fun row => key row = some k) table.rows existing found)
    (hsingle' : Single assigned_object (fun row => key row = some k') table.rows existing' found')
    (hx : found' = some x) (hne : k ≠ k') : Row.id x ≠ id := by
  obtain ⟨hmem, hkey⟩ := hsingle'.mem hx
  intro heq
  cases hy : found with
  | none =>
    apply h.new hy
    rw [← heq]
    exact List.mem_map_of_mem hmem
  | some y =>
    obtain ⟨hmem', hkey'⟩ := hsingle.mem hy
    have hsame : x = y := Table.eq_of_id hmem hmem' (heq.trans (h.old y hy))
    rw [hsame, hkey', Option.some.injEq] at hkey
    exact hne hkey

/-- The addresses a NIC was given: each of its keys, and nothing else. -/
structure AppliedIps (store : Store) (contexts : List IpContext) (before after ids : List (String × Int)) : Prop where
  placed : ∀ p ∈ ids, ∃ ip ∈ contexts, p.1 = ip.key ∧ PlacedUnder store.ips ip.existing p.2
  complete : ∀ ip ∈ contexts, ∃ id, dict.get after ip.key = some id ∧ (ip.key, id) ∈ ids
  applied : ∀ key id, dict.get after key = some id → dict.get before key = some id ∨ (key, id) ∈ ids
  other : ∀ key, key ∉ contexts.map IpContext.key → dict.get after key = dict.get before key
  order : ids.map Prod.fst = (contexts.map IpContext.key).reverse

theorem write_ips_evolves {touched : List (Int × (IPAddress → Prop))} {ips : List IpContext}
    {applied : List (String × Int)} (h : store.ips.Evolved s.store.ips touched)
    (hprep : PreparedNic py store netbox_vm.id guest context) (hplaced : Placed store context interface)
    (hips : ∀ ip ∈ ips, ip ∈ context.ips) (hkeys : (ips.map IpContext.key).Nodup)
    (hfresh : ∀ ip ∈ ips, ∀ x, ip.existing = some x → x.id ∉ touched.map Prod.fst) {applied' : List (String × Int)}
    (hwrite : write_ips fresh interface s applied ips = (s', applied')) :
    ∃ ids, store.ips.Evolved s'.store.ips (ids.map (fun p => (p.2, SettledIp p.1 interface)) ++ touched) ∧
      AppliedIps store ips applied applied' ids ∧
      s'.store.interfaces = s.store.interfaces ∧ s'.store.macs = s.store.macs ∧ Aside s s' := by
  induction ips generalizing s applied touched with
  | nil =>
    cases hwrite
    exact ⟨[], h, ⟨by simp, by simp, fun _ _ hget => .inl hget, fun _ _ => rfl, rfl⟩, rfl, rfl, Aside.refl _⟩
  | cons ip ips ih =>
    cases hone : write_ip fresh s ip interface with
    | mk s₁ id =>
      simp only [write_ips, hone] at hwrite
      obtain ⟨hnext, hunder, hinterfaces, hmacs, haside⟩ := write_ip_evolves h hprep hplaced
        (hips ip (by simp)) (hfresh ip (by simp)) hone
      obtain ⟨hip_key, hip_notMem⟩ := List.nodup_cons.mp hkeys
      have hfresh' : ∀ other ∈ ips, ∀ x, other.existing = some x →
          x.id ∉ ((id, SettledIp ip.key interface) :: touched).map Prod.fst := by
        intro other hother x hx
        rw [List.map_cons, List.mem_cons, not_or]
        refine ⟨?_, hfresh other (by simp [hother]) x hx⟩
        apply hunder.ne (hprep.ip ip (hips ip (by simp))).2 (hprep.ip other (hips other (by simp [hother]))).2 hx
        intro heq
        exact hip_key (heq ▸ List.mem_map_of_mem hother)
      obtain ⟨ids, hevolved, happlied, hinterfaces', hmacs', haside'⟩ := ih hnext
        (fun other hother => hips other (by simp [hother])) hip_notMem hfresh' hwrite
      refine ⟨ids ++ [(ip.key, id)], ?_, ⟨?_, ?_, ?_, ?_, by simp [happlied.order]⟩,
        hinterfaces'.trans hinterfaces, hmacs'.trans hmacs, haside.trans haside'⟩
      · simpa using hevolved
      · intro p hp
        rcases List.mem_append.mp hp with hp | hp
        · obtain ⟨other, hother, hrest⟩ := happlied.placed p hp
          exact ⟨other, by simp [hother], hrest⟩
        · rw [List.mem_singleton.mp hp]
          exact ⟨ip, by simp, rfl, hunder⟩
      · intro other hother
        rcases List.mem_cons.mp hother with rfl | hother
        · refine ⟨id, ?_, by simp⟩
          rw [happlied.other _ hip_key, dict.get_set_self]
        · obtain ⟨other_id, hget, hmem⟩ := happlied.complete other hother
          exact ⟨other_id, hget, by simp [hmem]⟩
      · intro key other_id hget
        rcases happlied.applied key other_id hget with hold | hnew
        · by_cases hsame : key = ip.key
          · rw [hsame, dict.get_set_self, Option.some.injEq] at hold
            exact .inr (by simp [hsame, hold])
          · rw [dict.get_set_of_ne _ _ (Ne.symm hsame)] at hold
            exact .inl hold
        · exact .inr (by simp [hnew])
      · intro key hkey
        rw [List.map_cons, List.mem_cons, not_or] at hkey
        rw [happlied.other key hkey.2, dict.get_set_of_ne _ _ (Ne.symm hkey.1)]

end

end netbox_sync.network_writes
