import NetboxSync.Network.Requests

namespace netbox_sync.network_writes

open discovery netbox source_identity netbox_vm_interface_metadata interface_display network_preflight
  network_inventory network_matching

/-- An interface that was there before: its name and its fields are the old ones, or those of a NIC that had it. -/
structure Inherited (py : python.Runtime) (contexts : List GuestContext) (x row : VMInterface) : Prop where
  id : row.id = x.id
  virtual_machine : row.virtual_machine = x.virtual_machine
  name : row.name = x.name ∨ ∃ g ∈ contexts, ∃ c ∈ g.nics, c.existing = some x ∧
    row.name = interface_display_name py g.guest c.source
  custom_fields : row.custom_fields = x.custom_fields ∨ ∃ g ∈ contexts, ∃ c ∈ g.nics,
    c.existing = some x ∧ row.custom_fields = c.desired_custom_fields

/-- An interface that was created for a NIC. -/
structure CreatedFor (py : python.Runtime) (g : GuestContext) (c : NicContext) (row : VMInterface) : Prop where
  virtual_machine : row.virtual_machine = some g.netbox_vm.id
  name : row.name = interface_display_name py g.guest c.source
  custom_fields : row.custom_fields = c.desired_custom_fields

/-- Where each interface of the session comes from. -/
structure Traced (py : python.Runtime) (store : Store) (contexts : List GuestContext) (s : Session) : Prop where
  kept : ∀ id ∈ store.interfaces.ids, id ∈ s.store.interfaces.ids
  origin : ∀ row ∈ s.store.interfaces.rows,
    (∃ x ∈ store.interfaces.rows, Inherited py contexts x row) ∨
      row.id ∉ store.interfaces.ids ∧ ∃ g ∈ contexts, ∃ c ∈ g.nics, c.existing = none ∧ CreatedFor py g c row

section

variable {py : python.Runtime} {fresh : Table.Fresh} {store : Store} {cluster : Cluster}
  {contexts : List GuestContext} {s s' : Session}

theorem traced_refl (s : Session) : Traced py s.store contexts s :=
  ⟨fun _ hid => hid, fun row hrow => .inl ⟨row, hrow, rfl, rfl, .inl rfl, .inl rfl⟩⟩

/-- The interfaces after one of them is changed in place. -/
theorem Traced.modify (h : Traced py store contexts s) (id : Int) (f : VMInterface → VMInterface)
    (hf : ∀ row, Row.id (f row) = Row.id row)
    (hinherited : ∀ x ∈ store.interfaces.rows, ∀ row, row.id = id → Inherited py contexts x row →
      Inherited py contexts x (f row))
    (hcreated : ∀ row, row.id = id → row.id ∉ store.interfaces.ids → ∀ g c, CreatedFor py g c row →
      CreatedFor py g c (f row))
    (hs : s'.store.interfaces = s.store.interfaces.modify id f hf) : Traced py store contexts s' := by
  constructor
  · intro other hother
    rw [hs, Table.ids_modify]
    exact h.kept other hother
  · intro row hrow
    rw [hs] at hrow
    obtain ⟨old, hold, rfl⟩ := List.mem_map.mp hrow
    split
    · next hid =>
      rcases h.origin old hold with ⟨x, hx, hin⟩ | ⟨hnew, g, hg, c, hc, hnone, hfor⟩
      · exact .inl ⟨x, hx, hinherited x hx old hid hin⟩
      · have hsame : (f old).id = old.id := hf old
        exact .inr ⟨hsame ▸ hnew, g, hg, c, hc, hnone, hcreated old hid hnew g c hfor⟩
    · exact h.origin old hold

/-- A request that leaves the interfaces alone. -/
theorem Traced.of_eq (h : Traced py store contexts s)
    (hs : s'.store.interfaces = s.store.interfaces) : Traced py store contexts s' := by
  constructor
  · rw [hs]
    exact h.kept
  · rw [hs]
    exact h.origin

theorem Request.traced (hprep : ∀ g ∈ contexts, PreparedContext py store cluster g)
    (h : Traced py store contexts s) (hrequest : Request py fresh contexts s s') : Traced py store contexts s' := by
  cases hrequest with
  | @create_interface g c hg hc hnew =>
    have hfresh := fresh.notMem s.store.interfaces.ids
    constructor
    · intro id hid
      have hold := h.kept id hid
      simp only [Session.create_interface, Table.ids, Table.insert, List.map_append] at hold ⊢
      exact List.mem_append_left _ hold
    · intro row hrow
      rcases List.mem_append.mp hrow with hrow | hrow
      · exact h.origin row hrow
      · rw [List.mem_singleton.mp hrow]
        exact .inr ⟨fun hid => hfresh (h.kept _ hid), g, hg, c, hc, hnew, rfl, rfl, rfl⟩
  | @update_interface g c x hg hc hold =>
    obtain ⟨hx, _⟩ := ((hprep g hg).nics c hc).existing x hold
    have hname := ((hprep g hg).nics c hc).name x hold
    have hchanges := (hprep g hg).changes c hc
    rw [hold] at hchanges
    have hfields := (interface_changes_ok hchanges).2
    apply h.modify x.id (changed c.changes) (fun _ => rfl) _ _ rfl
    · intro x' hx' row hid hin
      have hsame : x' = x := Table.eq_of_id hx' hx (hin.id.symm.trans hid)
      subst hsame
      refine ⟨hin.id, hin.virtual_machine, ?_, ?_⟩
      · cases hsome : c.changes.name with
        | none => simpa [changed, hsome] using hin.name
        | some name =>
          rw [hsome, Option.getD_some] at hname
          exact .inr ⟨g, hg, c, hc, hold, by simp [changed, hsome, hname]⟩
      · rcases hfields with hsome | ⟨hnone, _⟩
        · exact .inr ⟨g, hg, c, hc, hold, by simp [changed, hsome]⟩
        · simpa [changed, hnone] using hin.custom_fields
    · intro row hid hnew
      rw [hid] at hnew
      exact absurd (List.mem_map_of_mem hx) hnew
  | set_primary_mac id mac_id =>
    apply h.modify id (fun row => { row with primary_mac_address := some mac_id }) (fun _ => rfl) _ _ rfl
    · intro x _ row _ hin
      exact ⟨hin.id, hin.virtual_machine, hin.name, hin.custom_fields⟩
    · intro row _ _ g c hfor
      exact ⟨hfor.virtual_machine, hfor.name, hfor.custom_fields⟩
  | _ => exact h.of_eq rfl

/-- A whole run keeps track of the interfaces. -/
theorem Requests.traced (hprep : ∀ g ∈ contexts, PreparedContext py store cluster g)
    (h : Traced py store contexts s) (hrequests : Requests py fresh contexts s s') : Traced py store contexts s' := by
  induction hrequests with
  | refl => exact h
  | tail _ hrequest ih => exact hrequest.traced hprep ih

theorem heldBefore_nil (guest : Guest) (nic : DiscoveredInterface) : heldBefore py guest nic [] = false := by
  unfold heldBefore
  split
  · rfl
  · exact Bool.and_false _

/-- NICs of one guest with the same display name are the same. -/
theorem PreparedContext.eq_of_display {g : GuestContext} (h : PreparedContext py store cluster g)
    {c c' : NicContext} (hc : c ∈ g.nics) (hc' : c' ∈ g.nics)
    (hname : interface_display_name py g.guest c.source = interface_display_name py g.guest c'.source) : c = c' := by
  have hdisplays := h.displays
  rw [← h.sources, List.map_map] at hdisplays
  exact List.inj_on_of_nodup_map hdisplays hc hc' (congrArg py.casefold hname)

/-- After a run, an interface with the display name of a NIC is the one the NIC had or got, with the v1 records of the
    old one. -/
theorem Traced.interface_of_name (h : Traced py store contexts s)
    (hprep : ∀ g ∈ contexts, PreparedContext py store cluster g)
    (hvms : ∀ g ∈ contexts, ∀ g' ∈ contexts, g.netbox_vm.id = g'.netbox_vm.id → g = g')
    {g : GuestContext} (hg : g ∈ contexts) {c : NicContext} (hc : c ∈ g.nics) {row : VMInterface}
    (hrow : row ∈ vm_interfaces s.store g.netbox_vm.id)
    (hname : row.name = interface_display_name py g.guest c.source) :
    (∃ x, c.existing = some x ∧ row.id = x.id ∧ ∀ nic,
      heldBefore py g.guest nic row.custom_fields = heldBefore py g.guest nic x.custom_fields) ∨
    (c.existing = none ∧ ∀ nic, heldBefore py g.guest nic row.custom_fields = false) := by
  obtain ⟨hmem, hvm⟩ := List.mem_filter.mp hrow
  have hvm := of_decide_eq_true hvm
  -- a NIC that had one of these interfaces is a NIC of this guest
  have hguest : ∀ g' ∈ contexts, ∀ c' ∈ g'.nics, ∀ x, c'.existing = some x →
      x.virtual_machine = some g.netbox_vm.id → g' = g := by
    intro g' hg' c' hc' x hx hxvm
    have hxvm' := (((hprep g' hg').nics c' hc').existing x hx).2
    rw [hxvm, Option.some.injEq] at hxvm'
    exact hvms g' hg' g hg hxvm'.symm
  rcases h.origin row hmem with ⟨x, hx, hin⟩ | ⟨_, g', hg', c', hc', hnone, hfor⟩
  · have hxvm : x.virtual_machine = some g.netbox_vm.id := hin.virtual_machine.symm.trans hvm
    refine .inl ⟨x, ?_, hin.id, fun nic => ?_⟩
    · rcases hin.name with hsame | ⟨g', hg', c', hc', hexisting, hdisplay⟩
      · apply (hprep g hg).occupied c hc x (List.mem_filter.mpr ⟨hx, by simp [hxvm]⟩)
        rw [← hsame, hname]
      · obtain rfl := hguest g' hg' c' hc' x hexisting hxvm
        rw [(hprep g' hg').eq_of_display hc hc' (hname.symm.trans hdisplay), hexisting]
    · rcases hin.custom_fields with hsame | ⟨g', hg', c', hc', hexisting, hfields⟩
      · rw [hsame]
      · obtain rfl := hguest g' hg' c' hc' x hexisting hxvm
        have hchanges := (hprep g' hg').changes c' hc'
        rw [hexisting] at hchanges
        rw [hfields, heldBefore_built (interface_changes_ok hchanges).1]
  · obtain rfl := hvms g' hg' g hg (Option.some.inj (hfor.virtual_machine.symm.trans hvm))
    obtain rfl := (hprep g' hg').eq_of_display hc hc' (hname.symm.trans hfor.name)
    have hchanges := (hprep g' hg').changes c hc
    rw [hnone] at hchanges
    refine .inr ⟨hnone, fun nic => ?_⟩
    rw [hfor.custom_fields, heldBefore_built (desired_changes_none_ok hchanges), heldBefore_nil]

/-- What an unchanged NIC says about its interface. -/
theorem PreparedContext.unchanged_interface {g : GuestContext} (h : PreparedContext py store cluster g)
    {c : NicContext} (hc : c ∈ g.nics) (hunchanged : Unchanged c) :
    ∃ row identity, row ∈ vm_interfaces store g.netbox_vm.id ∧
      row.name = interface_display_name py g.guest c.source ∧
      nic_source_identity g.guest c.source = .ok identity ∧ Identified py identity row.custom_fields ∧
      ∀ y ∈ vm_interfaces store g.netbox_vm.id, heldNow py g.guest c.source y.custom_fields = true → y = row := by
  obtain ⟨row, hrow, hnone⟩ := hunchanged
  have hchanges := h.changes c hc
  have hname := (h.nics c hc).name row hrow
  rw [hrow, hnone] at hchanges
  rw [hnone, Option.getD_none] at hname
  obtain ⟨hbuild, hcases⟩ := interface_changes_ok hchanges
  obtain ⟨identity, _, _, hidentity, _⟩ := build_nic_custom_fields_ok hbuild
  refine ⟨row, identity, ((h.existing c hc row).mp hrow).1, hname, hidentity, ?_, ?_⟩
  · rcases hcases with hsome | ⟨_, hsame⟩
    · cases hsome
    · exact identified_of_no_changes hidentity hbuild hsame
  · intro y hy hheld
    have hexisting := (h.existing c hc y).mpr ⟨hy, by simp [claims, hheld]⟩
    rw [hrow, Option.some.injEq] at hexisting
    exact hexisting.symm

theorem nic_id_of_renamed {guest : Guest} {nic : DiscoveredInterface} (h : renamed guest nic = true) :
    nic_id nic ≠ nic.name := by
  simp only [renamed, Bool.and_eq_true, decide_eq_true_eq] at h
  obtain ⟨⟨_, hne⟩, hname⟩ := h
  cases hid : nic.external_id with
  | none => simp [hid] at hne
  | some id =>
    rw [hid, Option.getD_some] at hne hname
    simpa [nic_id, orText, hid, hne] using hname

/-- A second preflight that finds every interface as it should be shows that the NICs were steady before the first
    run. -/
theorem Traced.steady (h : Traced py store contexts s) (hprep : ∀ g ∈ contexts, PreparedContext py store cluster g)
    (hvms : ∀ g ∈ contexts, ∀ g' ∈ contexts, g.netbox_vm.id = g'.netbox_vm.id → g = g') {g g₂ : GuestContext}
    (hg : g ∈ contexts) (h₂ : PreparedContext py s.store cluster g₂) (hguest : g₂.guest = g.guest)
    (hvm : g₂.netbox_vm.id = g.netbox_vm.id) (hunchanged : ∀ c ∈ g₂.nics, Unchanged c) :
    SteadyNics py g.guest (vm_interfaces store g.netbox_vm.id) := by
  -- the interface each NIC has now
  have hnow : ∀ nic ∈ g.guest.interfaces, ∃ row identity, row ∈ vm_interfaces s.store g.netbox_vm.id ∧
      row.name = interface_display_name py g.guest nic ∧
      nic_source_identity g.guest nic = .ok identity ∧ Identified py identity row.custom_fields ∧
      ∀ y ∈ vm_interfaces s.store g.netbox_vm.id, heldNow py g.guest nic y.custom_fields = true → y = row := by
    intro nic hnic
    rw [← hguest, ← h₂.sources] at hnic
    obtain ⟨c, hc, rfl⟩ := List.mem_map.mp hnic
    rw [← hguest, ← hvm]
    exact h₂.unchanged_interface hc (hunchanged c hc)
  have hcontext : ∀ nic ∈ g.guest.interfaces, ∃ c ∈ g.nics, c.source = nic := by
    intro nic hnic
    rw [← (hprep g hg).sources] at hnic
    exact List.mem_map.mp hnic
  have hdisplays : g.guest.interfaces.Pairwise (fun nic other =>
      interface_display_name py g.guest nic ≠ interface_display_name py g.guest other) :=
    (List.pairwise_map.mp (hprep g hg).displays).imp (fun hne heq => hne (congrArg py.casefold heq))
  refine ⟨hdisplays.imp_of_mem ?_, hdisplays.imp_of_mem ?_, ?_⟩
  · intro nic other hnic hother hne hkey
    obtain ⟨row, identity, _, hname, hidentity, hfields, honly⟩ := hnow nic hnic
    obtain ⟨row', identity', hrow', hname', hidentity', hfields', _⟩ := hnow other hother
    apply hne
    rw [← hname, ← hname', honly row' hrow' ((heldNow_of_identified hidentity' hidentity hfields').mpr (.inl hkey))]
  · intro nic other hnic hother hne x hx hclaim
    rw [Bool.eq_false_iff]
    intro hclaim'
    obtain ⟨row, _, hrow, hname, _⟩ := hnow nic hnic
    obtain ⟨row', _, hrow', hname', _⟩ := hnow other hother
    obtain ⟨c, hc, rfl⟩ := hcontext nic hnic
    obtain ⟨c', hc', rfl⟩ := hcontext other hother
    have hexisting := ((hprep g hg).existing c hc x).mpr ⟨hx, hclaim⟩
    have hexisting' := ((hprep g hg).existing c' hc' x).mpr ⟨hx, hclaim'⟩
    have hid : row.id = x.id := by
      rcases h.interface_of_name hprep hvms hg hc hrow hname with ⟨y, hy, hid, _⟩ | ⟨hnone, _⟩
      · rw [hexisting, Option.some.injEq] at hy
        rw [hid, hy]
      · rw [hexisting] at hnone
        cases hnone
    have hid' : row'.id = x.id := by
      rcases h.interface_of_name hprep hvms hg hc' hrow' hname' with ⟨y, hy, hid, _⟩ | ⟨hnone, _⟩
      · rw [hexisting', Option.some.injEq] at hy
        rw [hid, hy]
      · rw [hexisting'] at hnone
        cases hnone
    apply hne
    rw [← hname, ← hname', Table.eq_of_id (List.mem_filter.mp hrow).1 (List.mem_filter.mp hrow').1
      (hid.trans hid'.symm)]
  · intro nic hnic other hother hrenamed hkey
    obtain ⟨row, identity, _, hname, hidentity, _, honly⟩ := hnow nic hnic
    obtain ⟨row', identity', hrow', hname', hidentity', hfields', _⟩ := hnow other hother
    obtain ⟨c', hc', rfl⟩ := hcontext other hother
    have hbefore : heldBefore py g.guest nic row'.custom_fields = true := by
      rw [← Bool.not_eq_false]
      intro hfalse
      have hsame := honly row' hrow' ((heldNow_of_identified hidentity' hidentity hfields').mpr
        (.inr ⟨hrenamed, hkey, hfalse⟩))
      obtain ⟨c, hc, rfl⟩ := hcontext nic hnic
      rw [hsame, hname] at hname'
      rw [(hprep g hg).eq_of_display hc hc' hname'] at hrenamed hkey
      exact nic_id_of_renamed hrenamed hkey
    rcases h.interface_of_name hprep hvms hg hc' hrow' hname' with ⟨x, hx, _, hfields⟩ | ⟨_, hfields⟩
    · obtain ⟨hmem, hclaim⟩ := ((hprep g hg).existing c' hc' x).mp hx
      exact ⟨x, hmem, hclaim, by rw [← hfields, hbefore]⟩
    · rw [hfields] at hbefore
      cases hbefore

end

end netbox_sync.network_writes
