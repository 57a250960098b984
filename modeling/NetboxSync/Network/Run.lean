import NetboxSync.Network.Ledger

namespace netbox_sync.network_writes

open netbox network_preflight

/-- A NIC that was written, and the records it has now. -/
structure NicEntry where
  guest : Guest
  vm_id : Int
  context : NicContext
  interface : Int
  mac : Option Int
  ips : List (String × Int)

/-- What holds of the entry of a prepared NIC. -/
structure Entered (py : python.Runtime) (store : Store) (e : NicEntry) : Prop where
  prepared : PreparedNic py store e.vm_id e.guest e.context
  placed : Placed store e.context e.interface
  mac_isSome : e.mac.isSome = (mac_of py e.context.source).isSome
  mac_placed : ∀ id, e.mac = some id → PlacedUnder store.macs e.context.existing_mac id
  ips_placed : ∀ p ∈ e.ips, ∃ ip ∈ e.context.ips, p.1 = ip.key ∧ PlacedUnder store.ips ip.existing p.2
  ips_complete : ∀ ip ∈ e.context.ips, ∃ id, (ip.key, id) ∈ e.ips
  ips_nodup : (e.ips.map Prod.fst).Nodup

section

variable (py : python.Runtime) (ledger : List NicEntry)

def touchedInterfaces : List (Int × (VMInterface → Prop)) :=
  ledger.map (fun e => (e.interface, SettledInterface py e.guest e.vm_id e.context e.mac))

def touchedMacs : List (Int × (MACAddress → Prop)) :=
  ledger.flatMap (fun e => e.mac.toList.map (fun id => (id, SettledMac py e.context.source e.interface)))

def touchedIps : List (Int × (IPAddress → Prop)) :=
  ledger.flatMap (fun e => e.ips.map (fun p => (p.2, SettledIp p.1 e.interface)))

/-- The invariant of the NIC loops: the tables have evolved by the entries. -/
structure Written (store : Store) (s : Session) : Prop where
  interfaces : store.interfaces.Evolved s.store.interfaces (touchedInterfaces py ledger)
  macs : store.macs.Evolved s.store.macs (touchedMacs py ledger)
  ips : store.ips.Evolved s.store.ips (touchedIps ledger)
  entered : ∀ e ∈ ledger, Entered py store e

end

/-- Two NICs that share no interface, no MAC and no address. -/
structure Disjoint (py : python.Runtime) (a b : NicContext) : Prop where
  interface : ∀ x y, a.existing = some x → b.existing = some y → x.id ≠ y.id
  mac : ∀ mac, mac_of py a.source = some mac → mac_of py b.source ≠ some mac
  ips : ∀ i ∈ a.ips, ∀ j ∈ b.ips, i.key ≠ j.key

section

variable {py : python.Runtime} {fresh : Table.Fresh} {store : Store} {s s' : Session} {guest : Guest}
  {netbox_vm : VirtualMachine} {context : NicContext} {ledger : List NicEntry}
  {applied applied' : List (String × Int)}

section

variable (hledger : ∀ e ∈ ledger, Entered py store e) (hprep : PreparedNic py store netbox_vm.id guest context)
  (hdisjoint : ∀ e ∈ ledger, Disjoint py e.context context)
include hledger hprep hdisjoint

theorem existing_interface_untouched {x : VMInterface} (hx : context.existing = some x) :
    x.id ∉ (touchedInterfaces py ledger).map Prod.fst := by
  simp only [touchedInterfaces, List.map_map, List.mem_map, Function.comp, not_exists, not_and]
  intro e he heq
  have hplaced := (hledger e he).placed
  cases hy : e.context.existing with
  | none =>
    apply hplaced.new hy
    rw [heq]
    exact List.mem_map_of_mem (hprep.existing x hx).1
  | some y => exact (hdisjoint e he).interface y x hy hx ((hplaced.old y hy).symm.trans heq)

theorem existing_mac_untouched {mac : String} (hmac : mac_of py context.source = some mac) {x : MACAddress}
    (hx : context.existing_mac = some x) : x.id ∉ (touchedMacs py ledger).map Prod.fst := by
  simp only [touchedMacs, List.map_flatMap, List.map_map, List.mem_flatMap, List.mem_map,
    Function.comp, Option.mem_toList, not_exists, not_and]
  intro e he id hid heq
  have hentered := hledger e he
  obtain ⟨other, hother⟩ : ∃ other, mac_of py e.context.source = some other := by
    rw [← Option.isSome_iff_exists, ← hentered.mac_isSome, hid]
    rfl
  refine (hentered.mac_placed id hid).ne (hentered.prepared.mac other hother) (hprep.mac mac hmac) hx ?_
    heq.symm
  rintro rfl
  exact (hdisjoint e he).mac other hother hmac

theorem existing_ip_untouched {ip : IpContext} (hip : ip ∈ context.ips) {x : IPAddress} (hx : ip.existing = some x) :
    x.id ∉ (touchedIps ledger).map Prod.fst := by
  simp only [touchedIps, List.map_flatMap, List.map_map, List.mem_flatMap, List.mem_map,
    Function.comp, not_exists, not_and]
  intro e he p hp heq
  have hentered := hledger e he
  obtain ⟨other, hother, hkey, hunder⟩ := hentered.ips_placed p hp
  exact hunder.ne (hentered.prepared.ip other hother).2 (hprep.ip ip hip).2 hx
    ((hdisjoint e he).ips other hother ip hip) heq.symm

end

/-- One round of the NIC loop adds the NIC's entry. -/
theorem write_nic_written (h : Written py ledger store s) (hprep : PreparedNic py store netbox_vm.id guest context)
    (hdisjoint : ∀ e ∈ ledger, Disjoint py e.context context) (hkeys : (context.ips.map IpContext.key).Nodup)
    (hwrite : write_nic py fresh guest netbox_vm s applied context = (s', applied')) :
    ∃ interface mac ips,
      Written py (⟨guest, netbox_vm.id, context, interface, mac, ips⟩ :: ledger) store s' ∧
        AppliedIps store context.ips applied applied' ips ∧ Aside s s' := by
  unfold write_nic at hwrite
  cases hinterface : write_interface py fresh s guest netbox_vm context with
  | mk s₁ interface =>
    rw [hinterface] at hwrite
    dsimp only at hwrite
    obtain ⟨hevolved₁, hnew, hplaced⟩ := write_interface_evolves h.interfaces hprep
      (fun x hx => existing_interface_untouched h.entered hprep hdisjoint hx) hinterface
    obtain ⟨hmacs₁, hips₁, haside₁⟩ := write_interface_frame hinterface
    have hmacs := h.macs
    rw [← hmacs₁] at hmacs
    obtain ⟨mac, hevolved₂, hmacs₂, hisSome, hunder, hips₂, haside₂⟩ :=
      write_mac_evolves fresh hevolved₁ hnew hmacs hprep hplaced
        (fun value hmac x hx => existing_mac_untouched h.entered hprep hdisjoint hmac hx)
    have hips := h.ips
    rw [← hips₁, ← hips₂] at hips
    obtain ⟨ids, hevolved₃, happlied, hinterfaces₃, hmacs₃, haside₃⟩ := write_ips_evolves hips hprep
      hplaced (fun ip hip => hip) hkeys
      (fun ip hip x hx => existing_ip_untouched h.entered hprep hdisjoint hip hx) hwrite
    refine ⟨interface, mac, ids, ⟨?_, ?_, ?_, ?_⟩, happlied, haside₁.trans (haside₂.trans haside₃)⟩
    · rw [hinterfaces₃]
      exact hevolved₂
    · rw [hmacs₃]
      exact hmacs₂
    · exact hevolved₃
    · intro e he
      rcases List.mem_cons.mp he with rfl | he
      · refine ⟨hprep, hplaced, hisSome, hunder, happlied.placed,
          fun ip hip => (happlied.complete ip hip).imp (fun _ h => h.2), ?_⟩
        rw [happlied.order, List.nodup_reverse]
        exact hkeys
      · exact h.entered e he

/-- The entries of some NICs of a guest, last first, and `applied_ips` after them. -/
structure NicsWritten (guest : Guest) (vm_id : Int) (contexts : List NicContext)
    (before after : List (String × Int)) (entries : List NicEntry) : Prop where
  order : entries.map NicEntry.context = contexts.reverse
  of_guest : ∀ e ∈ entries, e.guest = guest ∧ e.vm_id = vm_id
  applied : ∀ key id, dict.get after key = some id → dict.get before key = some id ∨ ∃ e ∈ entries, (key, id) ∈ e.ips
  kept : ∀ key, (dict.get before key).isSome → (dict.get after key).isSome
  complete : ∀ context ∈ contexts, ∀ ip ∈ context.ips, (dict.get after ip.key).isSome

/-- The invariant through the whole NIC loop of a guest. -/
theorem write_nics_written {contexts : List NicContext} (h : Written py ledger store s)
    (hprep : ∀ c ∈ contexts, PreparedNic py store netbox_vm.id guest c)
    (hledger : ∀ e ∈ ledger, ∀ c ∈ contexts, Disjoint py e.context c) (hpair : contexts.Pairwise (Disjoint py))
    (hkeys : ∀ c ∈ contexts, (c.ips.map IpContext.key).Nodup)
    (hwrite : write_nics py fresh guest netbox_vm s applied contexts = (s', applied')) :
    ∃ entries, Written py (entries ++ ledger) store s' ∧
      NicsWritten guest netbox_vm.id contexts applied applied' entries ∧ Aside s s' := by
  induction contexts generalizing s applied ledger with
  | nil =>
    cases hwrite
    exact ⟨[], h, ⟨rfl, by simp, fun _ _ hget => .inl hget, fun _ h => h, by simp⟩, Aside.refl _⟩
  | cons context contexts ih =>
    cases hone : write_nic py fresh guest netbox_vm s applied context with
    | mk s₁ applied₁ =>
      simp only [write_nics, hone] at hwrite
      obtain ⟨hfirst, hrest⟩ := List.pairwise_cons.mp hpair
      obtain ⟨interface, mac, ips, hwritten, happlied, haside⟩ := write_nic_written h
        (hprep context (by simp)) (fun e he => hledger e he context (by simp))
        (hkeys context (by simp)) hone
      have hledger' : ∀ e ∈ ⟨guest, netbox_vm.id, context, interface, mac, ips⟩ :: ledger,
          ∀ c ∈ contexts, Disjoint py e.context c := by
        intro e he c hc
        rcases List.mem_cons.mp he with rfl | he
        · exact hfirst c hc
        · exact hledger e he c (by simp [hc])
      obtain ⟨entries, hwritten', hnics, haside'⟩ := ih hwritten (fun c hc => hprep c (by simp [hc]))
        hledger' hrest (fun c hc => hkeys c (by simp [hc])) hwrite
      refine ⟨entries ++ [⟨guest, netbox_vm.id, context, interface, mac, ips⟩], ?_, ⟨?_, ?_, ?_, ?_, ?_⟩,
        haside.trans haside'⟩
      · simpa using hwritten'
      · simp [hnics.order]
      · intro e he
        rcases List.mem_append.mp he with he | he
        · exact hnics.of_guest e he
        · rw [List.mem_singleton.mp he]
          exact ⟨rfl, rfl⟩
      · intro key id hget
        rcases hnics.applied key id hget with hget | ⟨e, he, hmem⟩
        · rcases happlied.applied key id hget with hget | hmem
          · exact .inl hget
          · exact .inr ⟨_, List.mem_append_right _ (List.mem_singleton_self _), hmem⟩
        · exact .inr ⟨e, List.mem_append_left _ he, hmem⟩
      · intro key hget
        apply hnics.kept
        by_cases hmem : key ∈ context.ips.map IpContext.key
        · obtain ⟨ip, hip, rfl⟩ := List.mem_map.mp hmem
          obtain ⟨id, hid, _⟩ := happlied.complete ip hip
          rw [hid]
          rfl
        · rw [happlied.other key hmem]
          exact hget
      · intro c hc ip hip
        rcases List.mem_cons.mp hc with rfl | hc
        · apply hnics.kept
          obtain ⟨id, hid, _⟩ := happlied.complete ip hip
          rw [hid]
          rfl
        · exact hnics.complete c hc ip hip

/-- A guest that was written, with the entries of its NICs. -/
structure GuestEntry where
  context : GuestContext
  nics : List NicEntry

/-- The guest's VM got the sole candidate as primary address, unless the provider or a manual choice keeps the old
    one. -/
structure SettledVm (g : GuestEntry) (row : VirtualMachine) : Prop where
  same : row = { g.context.netbox_vm with primary_ip4 := row.primary_ip4 }
  kept : (selectel_authority.primary_owned g.context.netbox_vm.custom_fields = true ∨
      g.context.primary.candidate = none ∨ g.context.primary.action = some .preserve_manual) →
    row.primary_ip4 = g.context.netbox_vm.primary_ip4
  set : selectel_authority.primary_owned g.context.netbox_vm.custom_fields = false →
    g.context.primary.action ≠ some .preserve_manual → ∀ candidate,
      g.context.primary.candidate = some candidate →
        ∃ e ∈ g.nics, ∃ id, (candidate, id) ∈ e.ips ∧ row.primary_ip4 = some id

/-- What the writes rely on in the context of a guest. -/
structure PreparedGuest (py : python.Runtime) (store : Store) (g : GuestContext) : Prop where
  vm : g.netbox_vm ∈ store.vms.rows
  nics : ∀ c ∈ g.nics, PreparedNic py store g.netbox_vm.id g.guest c
  keys : ∀ c ∈ g.nics, (c.ips.map IpContext.key).Nodup
  pair : g.nics.Pairwise (Disjoint py)
  candidate : ∀ candidate, g.primary.candidate = some candidate → ∃ c ∈ g.nics, ∃ ip ∈ c.ips, ip.key = candidate

/-- The invariant of the guest loop. -/
structure GuestsWritten (py : python.Runtime) (store : Store) (s : Session) (done : List GuestEntry) : Prop where
  nics : Written py (done.flatMap GuestEntry.nics) store s
  vms : store.vms.Evolved s.store.vms (done.map (fun g => (g.context.netbox_vm.id, SettledVm g)))
  entries : ∀ g ∈ done, g.nics.map NicEntry.context = g.context.nics.reverse ∧
    ∀ e ∈ g.nics, e.guest = g.context.guest ∧ e.vm_id = g.context.netbox_vm.id
  sites : s.store.sites = store.sites
  clusters : s.store.clusters = store.clusters

theorem write_primary_evolves {touched : List (Int × (VirtualMachine → Prop))} {g : GuestContext}
    {nics : List NicEntry} (h : store.vms.Evolved s.store.vms touched) (hvm : g.netbox_vm ∈ store.vms.rows)
    (hnew : g.netbox_vm.id ∉ touched.map Prod.fst)
    (happlied : ∀ key id, dict.get applied key = some id → ∃ e ∈ nics, (key, id) ∈ e.ips)
    (hcandidate : ∀ candidate, g.primary.candidate = some candidate → (dict.get applied candidate).isSome) :
    store.vms.Evolved (write_primary s g.netbox_vm g.primary applied).store.vms
      ((g.netbox_vm.id, SettledVm ⟨g, nics⟩) :: touched) := by
  have hget := Table.get_of_mem hvm
  unfold write_primary
  split
  · next howned =>
    apply h.keep hnew hget
    exact ⟨rfl, fun _ => rfl, fun hfree => by simp [howned] at hfree⟩
  · next howned =>
    cases hprimary : g.primary.candidate with
    | none =>
      apply h.keep hnew hget
      refine ⟨rfl, fun _ => rfl, fun _ _ candidate hsome => ?_⟩
      rw [hprimary] at hsome
      cases hsome
    | some candidate =>
      obtain ⟨ip_id, hip⟩ := Option.isSome_iff_exists.mp (hcandidate candidate hprimary)
      obtain ⟨e, he, hmem⟩ := happlied candidate ip_id hip
      simp only [Option.bind_some, hip]
      split
      · next haction =>
        apply h.keep hnew hget
        exact ⟨rfl, fun _ => rfl, fun _ hother => absurd haction hother⟩
      · next haction =>
        have hkept : ¬ (selectel_authority.primary_owned g.netbox_vm.custom_fields = true ∨
            g.primary.candidate = none ∨ g.primary.action = some .preserve_manual) := by
          simp [howned, hprimary, haction]
        have hset : ∀ value, g.primary.candidate = some value → (value, ip_id) ∈ e.ips := by
          intro value hvalue
          rw [hprimary, Option.some.injEq] at hvalue
          rwa [← hvalue]
        split
        · have hheld : store.vms.Evolved s.store.vms
              ((g.netbox_vm.id, fun row => row = g.netbox_vm) :: touched) := h.keep hnew hget rfl
          apply hheld.modify hnew (fun row => { row with primary_ip4 := some ip_id }) (fun _ => rfl)
          rintro _ rfl
          exact ⟨rfl, fun hno => absurd hno hkept, fun _ _ value hvalue => ⟨e, he, ip_id, hset value hvalue, rfl⟩⟩
        · next hcurrent =>
          have hnow := (h.untouched _ hnew).trans hget
          have hsame : g.netbox_vm.primary_ip4 = some ip_id := by
            simpa [hnow] using hcurrent
          apply h.keep hnew hget
          exact ⟨rfl, fun _ => rfl, fun _ _ value hvalue => ⟨e, he, ip_id, hset value hvalue, hsame⟩⟩

theorem write_primary_frame (s : Session) (netbox_vm : VirtualMachine) (primary : PrimaryContext)
    (applied : List (String × Int)) :
    (write_primary s netbox_vm primary applied).store =
      { s.store with vms := (write_primary s netbox_vm primary applied).store.vms } := by
  unfold write_primary
  split
  · rfl
  · split
    · rfl
    · split
      · rfl
      · split <;> rfl

/-- Two guests with VMs of their own, whose NICs share nothing. -/
structure GuestsApart (py : python.Runtime) (g g' : GuestContext) : Prop where
  vm : g.netbox_vm.id ≠ g'.netbox_vm.id
  nics : ∀ c ∈ g.nics, ∀ c' ∈ g'.nics, Disjoint py c c'

/-- The context of an entry is one of the contexts of its guest. -/
theorem GuestsWritten.context_mem {done : List GuestEntry} (h : GuestsWritten py store s done)
    {g : GuestEntry} (hg : g ∈ done) {e : NicEntry} (he : e ∈ g.nics) : e.context ∈ g.context.nics := by
  have hmem : e.context ∈ g.nics.map NicEntry.context := List.mem_map_of_mem he
  rw [(h.entries g hg).1] at hmem
  exact List.mem_reverse.mp hmem

theorem write_guest_written (fresh : Table.Fresh) {done : List GuestEntry} {g : GuestContext}
    (h : GuestsWritten py store s done) (hprep : PreparedGuest py store g)
    (hapart : ∀ d ∈ done, GuestsApart py d.context g) :
    ∃ nics, GuestsWritten py store (write_guest py fresh s g) (⟨g, nics⟩ :: done) := by
  unfold write_guest
  cases hwrite : write_nics py fresh g.guest g.netbox_vm s [] g.nics with
  | mk s₁ applied =>
    have hledger : ∀ e ∈ done.flatMap GuestEntry.nics, ∀ c ∈ g.nics, Disjoint py e.context c := by
      intro e he c hc
      obtain ⟨d, hd, hed⟩ := List.mem_flatMap.mp he
      exact (hapart d hd).nics _ (h.context_mem hd hed) c hc
    obtain ⟨entries, hwritten, hnics, haside⟩ :=
      write_nics_written h.nics hprep.nics hledger hprep.pair hprep.keys hwrite
    have hvms := h.vms
    rw [← haside.vms] at hvms
    have hnew : g.netbox_vm.id ∉ (done.map (fun d => (d.context.netbox_vm.id, SettledVm d))).map Prod.fst := by
      simp only [List.map_map, List.mem_map, Function.comp, not_exists, not_and]
      exact fun d hd heq => (hapart d hd).vm heq
    have happlied : ∀ key id, dict.get applied key = some id → ∃ e ∈ entries, (key, id) ∈ e.ips := by
      intro key id hget
      rcases hnics.applied key id hget with hnone | hsome
      · cases hnone
      · exact hsome
    have hcandidate : ∀ candidate, g.primary.candidate = some candidate → (dict.get applied candidate).isSome := by
      intro candidate hcandidate
      obtain ⟨c, hc, ip, hip, rfl⟩ := hprep.candidate candidate hcandidate
      exact hnics.complete c hc ip hip
    have hframe := write_primary_frame s₁ g.netbox_vm g.primary applied
    refine ⟨entries, ⟨?_, ?_, ?_, ?_, ?_⟩⟩
    · dsimp only
      refine ⟨?_, ?_, ?_, hwritten.entered⟩
      · rw [hframe]
        exact hwritten.interfaces
      · rw [hframe]
        exact hwritten.macs
      · rw [hframe]
        exact hwritten.ips
    · exact write_primary_evolves hvms hprep.vm hnew happlied hcandidate
    · intro d hd
      rcases List.mem_cons.mp hd with rfl | hd
      · exact ⟨hnics.order, hnics.of_guest⟩
      · exact h.entries d hd
    · dsimp only
      rw [hframe, ← h.sites]
      exact haside.sites
    · dsimp only
      rw [hframe, ← h.clusters]
      exact haside.clusters

/-- The writes of a whole batch: every guest has its entry, last first. -/
theorem write_networks_written (fresh : Table.Fresh) {contexts : List GuestContext} {done : List GuestEntry}
    (h : GuestsWritten py store s done) (hprep : ∀ g ∈ contexts, PreparedGuest py store g)
    (hdone : ∀ d ∈ done, ∀ g ∈ contexts, GuestsApart py d.context g) (hpair : contexts.Pairwise (GuestsApart py)) :
    ∃ entries, GuestsWritten py store (write_networks py fresh s contexts) (entries ++ done) ∧
      entries.map GuestEntry.context = contexts.reverse := by
  induction contexts generalizing s done with
  | nil => exact ⟨[], h, rfl⟩
  | cons g contexts ih =>
    obtain ⟨hfirst, hrest⟩ := List.pairwise_cons.mp hpair
    obtain ⟨nics, hwritten⟩ := write_guest_written fresh h (hprep g (by simp)) (fun d hd => hdone d hd g (by simp))
    have hdone' : ∀ d ∈ ⟨g, nics⟩ :: done, ∀ g' ∈ contexts, GuestsApart py d.context g' := by
      intro d hd g' hg'
      rcases List.mem_cons.mp hd with rfl | hd
      · exact hfirst g' hg'
      · exact hdone d hd g' (by simp [hg'])
    obtain ⟨entries, hall, horder⟩ := ih hwritten (fun g' hg' => hprep g' (by simp [hg'])) hdone' hrest
    refine ⟨entries ++ [⟨g, nics⟩], ?_, by simp [horder]⟩
    simpa [write_networks] using hall

theorem guestsWritten_nil (s : Session) : GuestsWritten py s.store s [] where
  nics := ⟨Table.Evolved.refl _, Table.Evolved.refl _, Table.Evolved.refl _, by simp⟩
  vms := Table.Evolved.refl _
  entries := by simp
  sites := rfl
  clusters := rfl

end

end netbox_sync.network_writes
