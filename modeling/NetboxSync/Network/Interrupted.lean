import NetboxSync.Network.Frame
import NetboxSync.Network.Idempotent

open json

namespace netbox_sync.network_writes

open discovery netbox source_identity network_preflight network_inventory network_matching

/-- A part of a run whose requests keep the frame, wherever it stops. -/
structure Advance (contexts : List GuestContext) (before : Store) (s s' : Session) : Prop where
  passes : ∃ calls, s'.calls = s.calls ++ calls ∧
    journal.Through Call.perform (Frame contexts before) s.store calls s'.store
  grown : Grown s.store s'.store

/-- An interface of the VM that a NIC was matched with, or that was created in the run. -/
structure OwnInterface (contexts : List GuestContext) (before store : Store) (id vm_id : Int) : Prop where
  present : ∃ row, store.interfaces.get id = some row ∧ row.virtual_machine = some vm_id
  matched : ∀ x, before.interfaces.get id = some x → Matched contexts x

/-- The records under these keys are still as they were. -/
def Waiting (before store : Store) (keys : List String) : Prop :=
  ∀ row ∈ before.ips.rows, ∀ key ∈ keys, ip_key row = some key → store.ips.get row.id = some row

/-- `applied_ips` has addresses of the VM, and an old record where there is one. -/
def AppliedOn (before store : Store) (vm_id : Int) (applied : List (String × Int)) : Prop :=
  ∀ key id, dict.get applied key = some id → AssignedOn store id vm_id ∧
    ∀ row ∈ before.ips.rows, ip_key row = some key → id = row.id

section

variable {py : python.Runtime} {fresh : Table.Fresh} {contexts : List GuestContext} {before : Store}
  {s s' s'' : Session} {g : GuestContext} {c : NicContext}

theorem Advance.refl (h : Frame contexts before s.store) : Advance contexts before s s :=
  ⟨⟨[], (List.append_nil _).symm, .nil h⟩, Grown.refl _⟩

theorem Advance.trans (h : Advance contexts before s s') (h' : Advance contexts before s' s'') :
    Advance contexts before s s'' := by
  obtain ⟨calls, hcalls, hthrough⟩ := h.passes
  obtain ⟨rest, hrest, hthrough'⟩ := h'.passes
  refine ⟨⟨calls ++ rest, ?_, hthrough.append hthrough'⟩, h.grown.trans h'.grown⟩
  rw [hrest, hcalls, List.append_assoc]

theorem Advance.frame (h : Advance contexts before s s') : Frame contexts before s'.store := by
  obtain ⟨calls, _, hthrough⟩ := h.passes
  exact hthrough.finish

theorem Advance.request (h : Request py fresh contexts s s') (hframe : Frame contexts before s.store)
    (hnext : Frame contexts before s'.store ∧ Grown s.store s'.store) : Advance contexts before s s' := by
  obtain ⟨call, hcalls, hstore⟩ := h.performed
  obtain ⟨hframe', hgrown⟩ := hnext
  refine ⟨⟨[call], hcalls, ?_⟩, hgrown⟩
  rw [hstore] at hframe' ⊢
  exact .single hframe hframe'

variable {store store' : Store} {id vm_id : Int} {applied applied' : List (String × Int)} {keys : List String}
  {cluster : Cluster}

theorem OwnInterface.mono (h : OwnInterface contexts before store id vm_id) (hgrown : Grown store store') :
    OwnInterface contexts before store' id vm_id := by
  obtain ⟨row, hrow, hvm⟩ := h.present
  obtain ⟨row', hrow', hvm'⟩ := hgrown.interfaces id row hrow
  exact ⟨⟨row', hrow', hvm'.trans hvm⟩, h.matched⟩

theorem AppliedOn.mono (h : AppliedOn before store vm_id applied) (hgrown : Grown store store') :
    AppliedOn before store' vm_id applied :=
  fun key id hget => ⟨(h key id hget).1.mono hgrown, (h key id hget).2⟩

theorem Waiting.of_ips (h : Waiting before store keys) (hips : store'.ips = store.ips) :
    Waiting before store' keys := by
  intro row hrow key hkey hunder
  rw [hips]
  exact h row hrow key hkey hunder

theorem get_assign_ip (s : Session) (id interface_id other : Int) :
    (s.assign_ip id interface_id).store.ips.get other =
      if other = id then (s.store.ips.get other).map
        (fun row => { row with assigned_object := owned_by interface_id })
      else s.store.ips.get other :=
  Table.get_modify s.store.ips id other (fun row => { row with assigned_object := owned_by interface_id })
    (fun _ => rfl)

theorem write_mac_ips (s : Session) (c : NicContext) (id : Int) : (write_mac fresh s c id).store.ips = s.store.ips := by
  have hplace : ∀ mac_value, (place_mac fresh s c id mac_value).1.store.ips = s.store.ips := by
    intro mac_value
    unfold place_mac
    split
    · rfl
    · split <;> rfl
  unfold write_mac
  split
  · rfl
  · dsimp only
    split <;> exact hplace _

/-- The decision about the primary address leaves it unset, or finds the candidate there already, unless it preserves
    a manual choice. -/
def PrimaryDecided (before : Store) (g : GuestContext) : Prop :=
  ∀ candidate, g.primary.candidate = some candidate → g.primary.action ≠ some .preserve_manual →
    g.netbox_vm.primary_ip4 = none ∨
      ∃ row ∈ before.ips.rows, ip_key row = some candidate ∧ g.netbox_vm.primary_ip4 = some row.id

theorem candidate_primary_decided {vm : Guest} {netbox_vm : VirtualMachine} {candidate : String}
    {primary : PrimaryContext} {vms : List VirtualMachine}
    (h : vm_network_preflight.candidate_primary py vm netbox_vm candidate (index_records py before vms) =
      .ok primary) (haction : primary.action ≠ some .preserve_manual) :
    netbox_vm.primary_ip4 = none ∨
      ∃ row ∈ before.ips.rows, ip_key row = some candidate ∧ netbox_vm.primary_ip4 = some row.id := by
  unfold vm_network_preflight.candidate_primary at h
  split at h
  · next hunset => exact .inl hunset
  · next current hcurrent =>
    split at h
    · next hsole =>
      rw [hcurrent]
      unfold vm_network_preflight.sole_id at hsole
      split at hsole
      · next record hrecords =>
        have hmem : record ∈ (index_records py before vms).ips_by_address candidate := by
          rw [hrecords]
          exact List.mem_singleton_self record
        obtain ⟨hrow, hkey⟩ := List.mem_filter.mp hmem
        exact .inr ⟨record, hrow, of_decide_eq_true hkey, hsole⟩
      · cases hsole
    · dsimp only at h
      split at h
      · cases h
        exact absurd rfl haction
      · cases h

/-- What the preflight of a VM decides about its primary address. -/
theorem primary_decided {vm : DiscoveredVirtualMachine}
    (h : prepare_network_context py before cluster (.machine vm) = .ok g) : PrimaryDecided before g := by
  obtain ⟨_, _, _, prepared, _, _, hprimary⟩ := prepare_network_context_eq_ok_iff.mp h
  intro candidate hcandidate haction
  simp only [guest_primary, vm_network_preflight.prepare_vm_primary] at hprimary
  split at hprimary
  · rw [← Except.ok.inj hprimary] at hcandidate
    cases hcandidate
  · split at hprimary
    · next sole _ =>
      rw [candidate_primary_candidate hprimary, Option.some.injEq] at hcandidate
      rw [← hcandidate]
      exact candidate_primary_decided hprimary haction
    · rw [← Except.ok.inj hprimary] at hcandidate
      cases hcandidate

section

variable (hframe : Frame contexts before s.store)
include hframe

theorem write_interface_advance (hg : g ∈ contexts) (hc : c ∈ g.nics)
    (hprep : PreparedNic py before g.netbox_vm.id g.guest c)
    (hwrite : write_interface py fresh s g.guest g.netbox_vm c = (s', id)) :
    Advance contexts before s s' ∧ OwnInterface contexts before s'.store id g.netbox_vm.id ∧
      ∀ x, c.existing = some x → id = x.id := by
  unfold write_interface at hwrite
  cases hexisting : c.existing with
  | none =>
    rw [hexisting] at hwrite
    cases hwrite
    refine ⟨.request (.create_interface hg hc hexisting) hframe
      (hframe.create_interface hg hc hexisting _), ⟨?_, ?_⟩, fun x hx => nomatch hx⟩
    · exact ⟨_, (Table.get_insert _ _ (fresh.notMem _) _).trans (if_pos rfl), rfl⟩
    · intro x hx
      obtain ⟨row', hrow', _⟩ := hframe.interfaces _ x hx
      exact absurd (Table.mem_ids_iff.mpr ⟨row', hrow'⟩) (fresh.notMem _)
  | some x =>
    rw [hexisting] at hwrite
    obtain ⟨hmem, hvm⟩ := hprep.existing x hexisting
    have hget : before.interfaces.get x.id = some x := Table.get_of_mem hmem
    have hmatched : ∀ y, before.interfaces.get x.id = some y → Matched contexts y := by
      intro y hy
      rw [hget, Option.some.injEq] at hy
      exact ⟨g, hg, c, hc, hexisting.trans (congrArg some hy)⟩
    have hown : OwnInterface contexts before s.store x.id g.netbox_vm.id := by
      obtain ⟨row', hrow', hkept⟩ := hframe.interfaces x.id x hget
      refine ⟨⟨row', hrow', ?_⟩, hmatched⟩
      rcases hkept with rfl | ⟨_, hvirtual⟩
      · exact hvm
      · exact hvirtual.trans hvm
    have hsame : ∀ y, some x = some y → x.id = y.id := by
      rintro _ ⟨⟩
      rfl
    dsimp only at hwrite
    split at hwrite
    · cases hwrite
      exact ⟨.refl hframe, hown, hsame⟩
    · cases hwrite
      have hnext := hframe.modify_interface (changed c.changes) (fun _ => rfl) (fun _ => rfl) hmatched
        (fun hnone => by rw [hget] at hnone; cases hnone)
      have hrequest : Request py fresh contexts s _ := .update_interface hg hc hexisting
      exact ⟨.request hrequest hframe hnext, hown.mono hnext.2, hsame⟩

theorem write_mac_advance (py : python.Runtime) (fresh : Table.Fresh)
    (hown : OwnInterface contexts before s.store id vm_id) (c : NicContext) :
    Advance contexts before s (write_mac fresh s c id) := by
  have hplace : ∀ mac_value, Advance contexts before s (place_mac fresh s c id mac_value).1 := by
    intro mac_value
    unfold place_mac
    split
    · have hrequest : Request py fresh contexts s _ := .create_mac s mac_value id
      exact .request hrequest hframe (hframe.of_macs (hframe.macs.insert (fresh.notMem _)))
    · next mac _ =>
      split
      · next hfree =>
        have hrequest : Request py fresh contexts s _ := .assign_mac s mac.id id
        exact .request hrequest hframe (hframe.assign_mac id hfree)
      · exact .refl hframe
  unfold write_mac
  split
  · exact .refl hframe
  · next mac_value _ =>
    have hadvance := hplace mac_value
    dsimp only
    split
    · have hrequest : Request py fresh contexts _ _ :=
        .set_primary_mac (place_mac fresh s c id mac_value).1 id (place_mac fresh s c id mac_value).2
      have hown' := hown.mono hadvance.grown
      have hnext := hadvance.frame.modify_interface
        (fun row => { row with primary_mac_address := some (place_mac fresh s c id mac_value).2 })
        (fun _ => rfl) (fun _ => rfl) hown'.matched (fun _ _ => rfl)
      exact hadvance.trans (.request hrequest hadvance.frame hnext)
    · exact hadvance

/-- An address is created on the interface, or its record is assigned to it. -/
theorem write_ip_advance (py : python.Runtime) {ip : IpContext}
    {existing : Option VMInterface} {interface_id ip_id : Int}
    (hown : OwnInterface contexts before s.store interface_id vm_id)
    (hold : ∀ x, existing = some x → interface_id = x.id)
    (hsingle : Single IPAddress.assigned_object (fun row => ip_key row = some ip.key) before.ips.rows existing
      ip.existing)
    (hwaiting : Waiting before s.store (ip.key :: keys)) (hkey : ip.key ∉ keys)
    (hwrite : write_ip fresh s ip interface_id = (s', ip_id)) :
    Advance contexts before s s' ∧ AssignedOn s'.store ip_id vm_id ∧
      (∀ row ∈ before.ips.rows, ip_key row = some ip.key → ip_id = row.id) ∧
      Waiting before s'.store keys := by
  obtain ⟨interface, hinterface, hvm⟩ := hown.present
  have hid : interface.id = interface_id := (Table.mem_of_get hinterface).2
  have hpresent : s.store.interfaces.get interface.id = some interface := by rw [hid, hinterface]
  unfold write_ip at hwrite
  generalize ip.existing = found at hsingle hwrite
  cases hsingle with
  | absent hno =>
    cases hwrite
    have hrequest : Request py fresh contexts s _ := .create_ip s ip.address ip.vrf_id interface_id
    have hnew := fresh.notMem s.store.ips.ids
    refine ⟨.request hrequest hframe (hframe.of_ips (hframe.ips.insert hnew)
      ((Table.Keeps.refl IpKept.refl _).insert hnew)), ?_, ?_, ?_⟩
    · refine ⟨_, interface, (Table.get_insert _ _ hnew _).trans (if_pos rfl), ?_, hpresent, hvm⟩
      rw [hid]
    · exact fun row hrow hunder => absurd hunder (hno row hrow)
    · intro row hrow key hkey hunder
      have hget := hwaiting row hrow key (List.mem_cons_of_mem _ hkey) hunder
      have hne : row.id ≠ fresh.next s.store.ips.ids := by
        intro heq
        exact hnew (heq ▸ Table.mem_ids_iff.mpr ⟨row, hget⟩)
      exact (Table.get_insert _ _ hnew _).trans ((if_neg hne).trans hget)
  | found row hmem hunder honly hallowed =>
    have hget := hwaiting row hmem ip.key List.mem_cons_self hunder
    have hrest : Waiting before s.store keys :=
      fun other hother key hkey => hwaiting other hother key (List.mem_cons_of_mem _ hkey)
    have hsame : ∀ other ∈ before.ips.rows, ip_key other = some ip.key → row.id = other.id :=
      fun other hother hkey => by rw [honly other hother hkey]
    dsimp only at hwrite
    split at hwrite
    · next hfree =>
      cases hwrite
      have hrequest : Request py fresh contexts s _ := .assign_ip s row.id interface_id
      refine ⟨.request hrequest hframe (hframe.assign_ip interface_id hfree), ?_, hsame, ?_⟩
      · refine ⟨{ row with assigned_object := owned_by interface_id }, interface, ?_, by rw [hid], hpresent, hvm⟩
        rw [get_assign_ip, if_pos rfl, hget, Option.map_some]
      · intro other hother key hmemkey hother_key
        have hne : other.id ≠ row.id := by
          intro heq
          rw [Table.eq_of_id hother hmem heq, hunder, Option.some.injEq] at hother_key
          exact hkey (hother_key ▸ hmemkey)
        rw [get_assign_ip, if_neg hne]
        exact hrest other hother key hmemkey hother_key
    · next hfree =>
      cases hwrite
      refine ⟨.refl hframe, ⟨row, interface, hget, ?_, hpresent, hvm⟩, hsame, hrest⟩
      rw [hget, Option.any_some, decide_eq_true_eq] at hfree
      rw [hid]
      exact (allowed_cases hallowed hold).resolve_left hfree

/-- The addresses of a NIC, one after the other. -/
theorem write_ips_advance (py : python.Runtime) {existing : Option VMInterface}
    {interface_id : Int} {ips : List IpContext} (hown : OwnInterface contexts before s.store interface_id vm_id)
    (hold : ∀ x, existing = some x → interface_id = x.id)
    (hsingle : ∀ ip ∈ ips, Single IPAddress.assigned_object (fun row => ip_key row = some ip.key) before.ips.rows
      existing ip.existing)
    (hwaiting : Waiting before s.store (ips.map IpContext.key ++ keys)) (hnodup : (ips.map IpContext.key ++ keys).Nodup)
    (happlied : AppliedOn before s.store vm_id applied)
    (hwrite : write_ips fresh interface_id s applied ips = (s', applied')) :
    Advance contexts before s s' ∧ AppliedOn before s'.store vm_id applied' ∧ Waiting before s'.store keys := by
  induction ips generalizing s applied with
  | nil =>
    cases hwrite
    exact ⟨.refl hframe, happlied, hwaiting⟩
  | cons ip ips ih =>
    cases hone : write_ip fresh s ip interface_id with
    | mk s₁ ip_id =>
      simp only [write_ips, hone] at hwrite
      obtain ⟨hkey, hnodup⟩ := List.nodup_cons.mp hnodup
      obtain ⟨hadvance, hassigned, hsame, hwaiting⟩ := write_ip_advance hframe py hown hold
        (hsingle ip List.mem_cons_self) hwaiting hkey hone
      have happlied₁ : AppliedOn before s₁.store vm_id (dict.set applied ip.key ip_id) := by
        intro key id hget
        rw [dict.get_set] at hget
        split at hget
        · next heq =>
          rw [Option.some.injEq] at hget
          rw [← heq, ← hget]
          exact ⟨hassigned, hsame⟩
        · exact happlied.mono hadvance.grown key id hget
      obtain ⟨hadvance', happlied', hwaiting'⟩ := ih hadvance.frame (hown.mono hadvance.grown)
        (fun other hother => hsingle other (List.mem_cons_of_mem _ hother)) hwaiting hnodup happlied₁ hwrite
      exact ⟨hadvance.trans hadvance', happlied', hwaiting'⟩

/-- One round of the NIC loop. -/
theorem write_nic_advance (hg : g ∈ contexts) (hc : c ∈ g.nics)
    (hprep : PreparedNic py before g.netbox_vm.id g.guest c)
    (hwaiting : Waiting before s.store (c.ips.map IpContext.key ++ keys))
    (hnodup : (c.ips.map IpContext.key ++ keys).Nodup) (happlied : AppliedOn before s.store g.netbox_vm.id applied)
    (hwrite : write_nic py fresh g.guest g.netbox_vm s applied c = (s', applied')) :
    Advance contexts before s s' ∧ AppliedOn before s'.store g.netbox_vm.id applied' ∧
      Waiting before s'.store keys := by
  unfold write_nic at hwrite
  cases hinterface : write_interface py fresh s g.guest g.netbox_vm c with
  | mk s₁ interface_id =>
    rw [hinterface] at hwrite
    obtain ⟨hadvance₁, hown, hold⟩ := write_interface_advance hframe hg hc hprep hinterface
    have hadvance₂ := write_mac_advance hadvance₁.frame py fresh hown c
    have hadvance := hadvance₁.trans hadvance₂
    have hips : (write_mac fresh s₁ c interface_id).store.ips = s.store.ips :=
      (write_mac_ips s₁ c interface_id).trans (write_interface_frame hinterface).2.1
    obtain ⟨hadvance₃, happlied', hwaiting'⟩ := write_ips_advance hadvance.frame py
      (hown.mono hadvance₂.grown) hold (fun ip hip => (hprep.ip ip hip).2) (hwaiting.of_ips hips) hnodup
      (happlied.mono hadvance.grown) hwrite
    exact ⟨hadvance.trans hadvance₃, happlied', hwaiting'⟩

/-- The keys of the addresses of some NICs. -/
def ip_keys (nics : List NicContext) : List String := nics.flatMap (fun c => c.ips.map IpContext.key)

theorem write_nics_advance (hg : g ∈ contexts) {nics : List NicContext}
    (hnics : ∀ c ∈ nics, c ∈ g.nics) (hprep : ∀ c ∈ g.nics, PreparedNic py before g.netbox_vm.id g.guest c)
    (hwaiting : Waiting before s.store (ip_keys nics ++ keys)) (hnodup : (ip_keys nics ++ keys).Nodup)
    (happlied : AppliedOn before s.store g.netbox_vm.id applied)
    (hwrite : write_nics py fresh g.guest g.netbox_vm s applied nics = (s', applied')) :
    Advance contexts before s s' ∧ AppliedOn before s'.store g.netbox_vm.id applied' ∧
      Waiting before s'.store keys := by
  induction nics generalizing s applied with
  | nil =>
    cases hwrite
    exact ⟨.refl hframe, happlied, hwaiting⟩
  | cons c nics ih =>
    cases hone : write_nic py fresh g.guest g.netbox_vm s applied c with
    | mk s₁ applied₁ =>
      simp only [write_nics, hone] at hwrite
      simp only [ip_keys, List.flatMap_cons, List.append_assoc] at hwaiting hnodup
      have hc := hnics c List.mem_cons_self
      obtain ⟨hadvance, happlied₁, hwaiting₁⟩ :=
        write_nic_advance hframe hg hc (hprep c hc) hwaiting hnodup happlied hone
      obtain ⟨hadvance', happlied', hwaiting'⟩ := ih hadvance.frame
        (fun other hother => hnics other (List.mem_cons_of_mem _ hother)) hwaiting₁
        (List.nodup_append.mp hnodup).2.1 happlied₁ hwrite
      exact ⟨hadvance.trans hadvance', happlied', hwaiting'⟩

theorem write_primary_advance (py : python.Runtime) (fresh : Table.Fresh) (hvm : g.netbox_vm ∈ before.vms.rows)
    (hdecided : PrimaryDecided before g) (happlied : AppliedOn before s.store g.netbox_vm.id applied) :
    Advance contexts before s (write_primary s g.netbox_vm g.primary applied) := by
  have hget : before.vms.get g.netbox_vm.id = some g.netbox_vm := Table.get_of_mem hvm
  unfold write_primary
  split
  · exact .refl hframe
  · next howned =>
    rw [Bool.not_eq_true] at howned
    split
    · exact .refl hframe
    · next ip_id hip =>
      obtain ⟨candidate, hcandidate, hip⟩ := Option.bind_eq_some_iff.mp hip
      split
      · exact .refl hframe
      · next haction =>
        split
        · next hcurrent =>
          obtain ⟨hassigned, hsame⟩ := happlied candidate ip_id hip
          rcases hdecided candidate hcandidate haction with hunset | ⟨row, hrow, hkey, hset⟩
          · have hrequest : Request py fresh contexts s _ := .set_primary_ip4 s g.netbox_vm.id ip_id
            exact .request hrequest hframe (hframe.set_primary_ip4 hget hunset howned hassigned)
          · -- the address is there already, and no guest of the batch has changed it
            obtain ⟨now, hnow, hkept⟩ := hframe.vms _ _ hget
            rcases hkept with rfl | ⟨hunset, _⟩
            · rw [hnow, Option.bind_some, hset, hsame row hrow hkey] at hcurrent
              exact absurd rfl hcurrent
            · rw [hset] at hunset
              cases hunset
        · exact .refl hframe

theorem write_guest_advance (hg : g ∈ contexts)
    (hprep : PreparedContext py before cluster g) (hdecided : PrimaryDecided before g)
    (hwaiting : Waiting before s.store (ip_keys g.nics ++ keys)) (hnodup : (ip_keys g.nics ++ keys).Nodup) :
    Advance contexts before s (write_guest py fresh s g) ∧ Waiting before (write_guest py fresh s g).store keys := by
  unfold write_guest
  cases hnics : write_nics py fresh g.guest g.netbox_vm s [] g.nics with
  | mk s₁ applied =>
    have hempty : AppliedOn before s.store g.netbox_vm.id [] := by
      intro key id hget
      cases hget
    obtain ⟨hadvance, happlied, hwaiting'⟩ := write_nics_advance hframe hg (fun _ hc => hc) hprep.nics
      hwaiting hnodup hempty hnics
    have hprimary := write_primary_advance hadvance.frame py fresh (find_guest_vm_mem hprep.vm) hdecided
      happlied
    refine ⟨hadvance.trans hprimary, hwaiting'.of_ips ?_⟩
    dsimp only
    rw [write_primary_frame]

/-- The requests of a run keep the frame, wherever the run stops. -/
theorem write_networks_advance {order : List GuestContext} (horder : ∀ g ∈ order, g ∈ contexts)
    (hprep : ∀ g ∈ order, PreparedContext py before cluster g) (hdecided : ∀ g ∈ order, PrimaryDecided before g)
    (hwaiting : Waiting before s.store (order.flatMap (fun g => ip_keys g.nics)))
    (hnodup : (order.flatMap (fun g => ip_keys g.nics)).Nodup) :
    Advance contexts before s (write_networks py fresh s order) := by
  induction order generalizing s with
  | nil => exact .refl hframe
  | cons g order ih =>
    rw [List.flatMap_cons] at hwaiting hnodup
    obtain ⟨hadvance, hwaiting'⟩ := write_guest_advance hframe (horder g List.mem_cons_self)
      (hprep g List.mem_cons_self) (hdecided g List.mem_cons_self) hwaiting hnodup
    exact hadvance.trans (ih hadvance.frame
      (fun other hother => horder other (List.mem_cons_of_mem _ hother))
      (fun other hother => hprep other (List.mem_cons_of_mem _ hother))
      (fun other hother => hdecided other (List.mem_cons_of_mem _ hother)) hwaiting'
      (List.nodup_append.mp hnodup).2.1)

end

/-- An interface that claims a NIC has a record that identifies it. -/
theorem claims_identifies {guest : Guest} {nic : DiscoveredInterface} {interfaces : List VMInterface}
    {x : VMInterface} (h : claims py guest nic interfaces x = true) :
    ∃ value ∈ identityRecords x.custom_fields, identifies py guest nic value = true := by
  simp only [claims, heldNow, heldBefore, Bool.or_eq_true, Bool.and_eq_true] at h
  cases hdesired : nic_source_identity guest nic with
  | error error => simp [hdesired] at h
  | ok desired =>
    simp only [hdesired, Bool.or_eq_true, Bool.and_eq_true, holdsV2, holdsLegacy, List.any_eq_true] at h
    simp only [identifies, hdesired, Bool.or_eq_true, Bool.and_eq_true]
    rcases h with (⟨value, hvalue, hkey⟩ | ⟨⟨hbefore, _⟩, value, hvalue, hname⟩) |
      ⟨⟨howner, value, hvalue, hlegacy⟩, _⟩
    · exact ⟨value, hvalue, .inl (.inl hkey)⟩
    · exact ⟨value, hvalue, .inl (.inr ⟨hbefore, hname⟩)⟩
    · exact ⟨value, hvalue, .inr ⟨howner, hlegacy⟩⟩

theorem identified_identifies {guest : Guest} {nic : DiscoveredInterface} {desired : SourceIdentity}
    {custom_fields : Fields} (hdesired : nic_source_identity guest nic = .ok desired)
    (h : Identified py desired custom_fields) :
    ∃ value ∈ identityRecords custom_fields, identifies py guest nic value = true := by
  obtain ⟨value, hvalue, hkey⟩ := List.any_eq_true.mp h.holds
  refine ⟨value, hvalue, ?_⟩
  simp only [identifies, hdesired, Bool.or_eq_true]
  exact .inl (.inl hkey)

end

section

variable (py : python.Runtime) (fresh : Table.Fresh) (target : Target) (hosts : List DiscoveredHost)

/-- The requests of a confirmed `apply_vm_networks`; where it raises before it writes, there are none. -/
def network_requests (s : Session) : List Call :=
  match apply_vm_networks py fresh target hosts true s with
  | .ok s' => s'.calls.drop s.calls.length
  | .error _ => []

/-- The content after the first requests of a confirmed run: when it returns, or when the request after them fails. -/
def interrupted (s : Session) (requests : Nat) : Store :=
  ((network_requests py fresh target hosts s).take requests).foldl Call.perform s.store

/-- The interface is on the VM of a discovered guest and holds a v2 or permitted legacy identity of one of the guest's
    own NICs. -/
def HoldsOwnNic (before : Store) (x : VMInterface) : Prop :=
  ∃ cluster netbox_vm, target_cluster before target = .ok cluster ∧
    ∃ vm ∈ hosts.flatMap DiscoveredHost.virtual_machines,
      find_guest_vm py before cluster (.machine vm) = .ok netbox_vm ∧
      x.virtual_machine = some netbox_vm.id ∧
      ∃ nic ∈ vm.interfaces, ∃ value ∈ identityRecords x.custom_fields, identifies py (.machine vm) nic value = true

/-- Everything is still there. Records with an owner, interfaces of no discovered NIC and primary addresses that were
    set or are the provider's are as they were; a new primary address is assigned to an interface of its VM. -/
structure StealsNothing (before after : Store) : Prop where
  sites : after.sites = before.sites
  clusters : after.clusters = before.clusters
  vms : before.vms.Keeps (PrimaryKept after) after.vms
  interfaces : before.interfaces.Keeps (fun row row' => row' = row ∨
    (HoldsOwnNic py target hosts before row ∧ row'.virtual_machine = row.virtual_machine)) after.interfaces
  created : ∀ row ∈ after.interfaces.rows, before.interfaces.get row.id = none →
    HoldsOwnNic py target hosts before row
  macs : before.macs.Keeps MacKept after.macs
  ips : before.ips.Keeps IpKept after.ips

/-- A check fails: that of the target, that of a guest, or that of the batch for a MAC or an address of two NICs. -/
inductive FailsCheck (store : Store) : Prop
  | target (error : String) (failed : target_cluster store target = .error error)
  | guest (cluster : Cluster) (vm : DiscoveredVirtualMachine) (error : String)
      (of_target : target_cluster store target = .ok cluster)
      (mem : vm ∈ hosts.flatMap DiscoveredHost.virtual_machines)
      (failed : vm_network_preflight.prepare_vm_network_context py
        (prepare_vm_network_inventory py store cluster) (.machine vm) = .error error)
  | batch (error : String)
      (failed : check_batch (discovered_macs py (GuestKind.vm.guests hosts))
        (discovered_ips (GuestKind.vm.guests hosts)) = .error error)

end

section

variable {py : python.Runtime} {fresh : Table.Fresh} {target : Target} {hosts : List DiscoveredHost}
  {s s' : Session}

/-- The run of a batch that passed its checks. -/
theorem apply_vm_networks_advance (h : apply_vm_networks py fresh target hosts true s = .ok s') :
    ∃ cluster contexts, target_cluster s.store target = .ok cluster ∧
      (∀ g ∈ contexts, PreparedContext py s.store cluster g ∧ g.guest ∈ GuestKind.vm.guests hosts) ∧
      Advance contexts s.store s s' := by
  have hstage : apply_networks py fresh .vm target hosts s = .ok s' := h
  obtain ⟨cluster, contexts, hcluster, hall, hbatch, rfl⟩ := apply_networks_eq_ok_iff.mp hstage
  have hguests : contexts.map GuestContext.guest = GuestKind.vm.guests hosts :=
    hall.map_eq (fun _ _ h => (prepare_network_context_prepared h).1)
  have hprepared : ∀ g ∈ contexts, PreparedContext py s.store cluster g := fun g hg => (contexts_guest hall hg).2.2
  have hmem : ∀ g ∈ contexts, g.guest ∈ GuestKind.vm.guests hosts := fun g hg => (contexts_guest hall hg).2.1
  have hdecided : ∀ g ∈ contexts, PrimaryDecided s.store g := by
    intro g hg
    obtain ⟨hprep, hguest, _⟩ := contexts_guest hall hg
    obtain ⟨vm, _, hvm⟩ := List.mem_map.mp hguest
    rw [← hvm] at hprep
    exact primary_decided hprep
  -- the keys of the contexts are the addresses that the batch was checked for
  have hkeys : contexts.flatMap (fun g => ip_keys g.nics) = discovered_ips (GuestKind.vm.guests hosts) := by
    rw [← hguests, discovered_ips, List.flatMap_map]
    apply List.flatMap_congr
    intro g hg
    rw [ip_keys, ← (hprepared g hg).sources, List.flatMap_map]
    exact List.flatMap_congr (fun c hc => (hprepared g hg).keys c hc)
  refine ⟨cluster, contexts, hcluster, fun g hg => ⟨hprepared g hg, hmem g hg⟩, ?_⟩
  refine write_networks_advance (frame_refl contexts s.store) (fun _ hg => hg) hprepared hdecided ?_ ?_
  · exact fun row hrow key _ _ => Table.get_of_mem hrow
  · rw [hkeys]
    exact (check_batch_ok hbatch).2

theorem apply_vm_networks_of_fails (fresh : Table.Fresh) (h : FailsCheck py target hosts s.store) :
    ∃ error, apply_vm_networks py fresh target hosts true s = .error error := by
  cases hrun : apply_vm_networks py fresh target hosts true s with
  | error error => exact ⟨error, rfl⟩
  | ok s' =>
    have hstage : apply_networks py fresh .vm target hosts s = .ok s' := hrun
    obtain ⟨cluster, contexts, hcluster, hall, hbatch, _⟩ := apply_networks_eq_ok_iff.mp hstage
    cases h with
    | target error failed =>
      rw [hcluster] at failed
      cases failed
    | guest cluster' vm error of_target mem failed =>
      rw [hcluster, Except.ok.injEq] at of_target
      subst of_target
      have hguest : Guest.machine vm ∈ GuestKind.vm.guests hosts := List.mem_map_of_mem mem
      obtain ⟨g, _, hprep⟩ := hall.exists_of_mem_left hguest
      rw [prepare_network_context, failed] at hprep
      cases hprep
    | batch error failed =>
      rw [hbatch] at failed
      cases failed

theorem stealsNothing_refl (py : python.Runtime) (target : Target) (hosts : List DiscoveredHost)
    (store : Store) : StealsNothing py target hosts store store := by
  have hframe := frame_refl [] store
  refine ⟨rfl, rfl, hframe.vms, Table.Keeps.refl (fun _ => .inl rfl) _, ?_, hframe.macs, hframe.ips⟩
  intro row hrow hnone
  have hget : store.interfaces.get row.id = some row := Table.get_of_mem hrow
  rw [hget] at hnone
  cases hnone

/-- The frame of a run, in terms of the guests that were discovered. -/
theorem Frame.stealsNothing {contexts : List GuestContext} {before after : Store}
    (hcluster : target_cluster before target = .ok cluster)
    (hprep : ∀ g ∈ contexts, PreparedContext py before cluster g ∧ g.guest ∈ GuestKind.vm.guests hosts)
    (h : Frame contexts before after) : StealsNothing py target hosts before after := by
  have hguest : ∀ g ∈ contexts, ∃ vm ∈ hosts.flatMap DiscoveredHost.virtual_machines, g.guest = .machine vm := by
    intro g hg
    obtain ⟨vm, hvm, heq⟩ := List.mem_map.mp (hprep g hg).2
    exact ⟨vm, hvm, heq.symm⟩
  have hheld : ∀ g ∈ contexts, ∀ c ∈ g.nics, ∀ x : VMInterface, x.virtual_machine = some g.netbox_vm.id →
      (∃ value ∈ identityRecords x.custom_fields, identifies py g.guest c.source value = true) →
        HoldsOwnNic py target hosts before x := by
    intro g hg c hc x hx hrecord
    obtain ⟨vm, hvm, heq⟩ := hguest g hg
    have hcontext := (hprep g hg).1
    have hfound := hcontext.vm
    have hnic : c.source ∈ g.guest.interfaces := by
      rw [← hcontext.sources]
      exact List.mem_map_of_mem hc
    rw [heq] at hrecord hfound hnic
    exact ⟨cluster, g.netbox_vm, hcluster, vm, hvm, hfound, hx, c.source, hnic, hrecord⟩
  refine ⟨h.sites, h.clusters, h.vms, h.interfaces.imp ?_, ?_, h.macs, h.ips⟩
  · intro row row' hkept
    rcases hkept with hsame | ⟨⟨g, hg, c, hc, hexisting⟩, hvirtual⟩
    · exact .inl hsame
    · obtain ⟨hmem, hclaims⟩ := ((hprep g hg).1.existing c hc row).mp hexisting
      exact .inr ⟨hheld g hg c hc row (of_decide_eq_true (List.mem_filter.mp hmem).2)
        (claims_identifies hclaims), hvirtual⟩
  · intro row hrow hnone
    obtain ⟨g, hg, c, hc, hnew, hvirtual, hfields⟩ := h.created row hrow hnone
    have hchanges := (hprep g hg).1.changes c hc
    obtain ⟨desired, hdesired⟩ := desired_changes_identity hchanges
    have hidentified := final_fields_identified hdesired hchanges
    rw [final_fields, hnew] at hidentified
    apply hheld g hg c hc row hvirtual
    rw [hfields]
    exact identified_identifies hdesired hidentified

end

/-- A confirmed `apply_vm_networks` steals nothing, whether it returns or stops at any of its requests. Where a check
    fails it makes no request, and where it returns, NetBox has seen all of them. -/
theorem apply_vm_networks_steals_nothing (py : python.Runtime) (fresh : Table.Fresh) (target : Target)
    (hosts : List DiscoveredHost) (s : Session) :
    (∀ requests, StealsNothing py target hosts s.store (interrupted py fresh target hosts s requests)) ∧
    (FailsCheck py target hosts s.store → network_requests py fresh target hosts s = []) ∧
    ∀ s', apply_vm_networks py fresh target hosts true s = .ok s' →
      s'.calls = s.calls ++ network_requests py fresh target hosts s ∧
      s'.store = interrupted py fresh target hosts s (network_requests py fresh target hosts s).length := by
  refine ⟨fun requests => ?_, fun hfails => ?_, fun s' hrun => ?_⟩
  · cases hrun : apply_vm_networks py fresh target hosts true s with
    | error error =>
      simp only [interrupted, network_requests, hrun, List.take_nil, List.foldl_nil]
      exact stealsNothing_refl py target hosts s.store
    | ok s' =>
      obtain ⟨cluster, contexts, hcluster, hprep, hadvance⟩ := apply_vm_networks_advance hrun
      obtain ⟨calls, hcalls, hthrough⟩ := hadvance.passes
      simp only [interrupted, network_requests, hrun, hcalls, List.drop_left]
      exact (hthrough.holds requests).stealsNothing hcluster hprep
  · obtain ⟨error, hrun⟩ := apply_vm_networks_of_fails fresh hfails
    simp only [network_requests, hrun]
  · obtain ⟨cluster, contexts, _, _, hadvance⟩ := apply_vm_networks_advance hrun
    obtain ⟨calls, hcalls, hthrough⟩ := hadvance.passes
    have hrequests : network_requests py fresh target hosts s = calls := by
      simp only [network_requests, hrun, hcalls, List.drop_left]
    rw [interrupted, hrequests, List.take_length]
    exact ⟨hcalls, hthrough.ends.symm⟩

end netbox_sync.network_writes
