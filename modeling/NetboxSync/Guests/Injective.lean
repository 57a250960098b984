import NetboxSync.Guests.Machines
import NetboxSync.Network.Fields

open json

namespace netbox_sync.netbox_vm_apply

open discovery netbox source_identity netbox_vm_metadata

section

variable (py : python.Runtime)

/-- The record is one the VM is matched by: it holds the VM's v2 identity, or no record does and it holds a legacy id
    the VM may use. -/
def Holds (records : List MachineRecord) (vm : DiscoveredVirtualMachine) (record : MachineRecord) : Prop :=
  ∃ identity, virtual_machine_source_identity vm = .ok identity ∧
    (holdsV2 py.repr identity record.custom_fields = true ∨
      (∀ other ∈ records, holdsV2 py.repr identity other.custom_fields = false) ∧ vm.legacy_identity_owner = true ∧
        holdsLegacy py.repr identity (guest_legacy_ids (.machine vm)) record.custom_fields = true)

/-- No record of NetBox holds identities of two discovered VMs. -/
def Unshared (records : List MachineRecord) (vms : List DiscoveredVirtualMachine) : Prop :=
  vms.Pairwise (fun a b => ∀ record ∈ records, ¬ (Holds py records a record ∧ Holds py records b record))

/-- After the batch the record of every matched VM is known by its v2 identity, and by no other one of the namespace.
    -/
def Kept (written : Machines) (contexts : List Context) : Prop :=
  ∀ context ∈ contexts, ∀ existing, context.existing = some existing →
    ∃ row identity, written.vms.get existing.id = some row ∧
      virtual_machine_source_identity context.vm = .ok identity ∧ Identified py identity row.custom_fields

end

/-- No two contexts have the same NetBox VM. -/
def Distinct (contexts : List Context) : Prop :=
  contexts.Pairwise (fun a b => ∀ x y, a.existing = some x → b.existing = some y → x.id ≠ y.id)

section

variable {py : python.Runtime} {records owners : List MachineRecord} {vm : DiscoveredVirtualMachine}
  {cluster : Cluster} {context : Context} {identity : SourceIdentity}

theorem vm_sync_identity_match_rank_ok (hidentity : virtual_machine_source_identity vm = .ok identity)
    {custom_fields : Fields} {rank : Nat} (h : vm_sync_identity_match_rank py.repr custom_fields vm = .ok rank) :
    rank = identityRank py.repr identity (guest_legacy_ids (.machine vm)) vm.legacy_identity_owner custom_fields := by
  simp only [vm_sync_identity_match_rank, hidentity] at h
  exact source_identity_match_rank_ok h

variable {record : MachineRecord} {all_vms target_vms : List MachineRecord} {disk_parents : List Int}
  {netbox : Machines} {contexts : List Context} {fresh : Table.Fresh}

/-- The records a VM is matched by are those that hold its identity. -/
theorem mem_matches_iff (hidentity : virtual_machine_source_identity vm = .ok identity)
    (h : find_vm_sync_identity_matches py records vm = .ok owners) :
    record ∈ owners ↔ record ∈ records ∧ Holds py records vm record := by
  have hrank : ∀ (record : MachineRecord) (rank : Nat),
      vm_sync_identity_match_rank py.repr record.custom_fields vm = .ok rank → rank = identityRank py.repr identity
        (guest_legacy_ids (.machine vm)) vm.legacy_identity_owner record.custom_fields :=
    fun record rank => vm_sync_identity_match_rank_ok hidentity
  have howners := select_best_identity_matches_ok hrank h
  unfold identityRank at howners
  rw [topRanked_two_levels] at howners
  unfold Holds
  simp only [hidentity, Except.ok.injEq, exists_eq_left']
  split at howners
  next hnone =>
    rw [List.filter_eq_nil_iff] at hnone
    have hnone : ∀ other ∈ records, holdsV2 py.repr identity other.custom_fields = false :=
      fun other hother => Bool.eq_false_iff.mpr (hnone other hother)
    rw [howners, List.mem_filter, Bool.and_eq_true]
    refine and_congr_right fun hrecord => ?_
    rw [hnone record hrecord]
    simp only [Bool.false_eq_true, false_or]
    exact (and_iff_right hnone).symm
  next hsome =>
    obtain ⟨holder, hholder⟩ := List.exists_mem_of_ne_nil _ hsome
    obtain ⟨hholder, hheld⟩ := List.mem_filter.mp hholder
    rw [howners, List.mem_filter]
    refine and_congr_right fun _ => ⟨.inl, ?_⟩
    rintro (hheld' | ⟨hnone, _⟩)
    · exact hheld'
    · rw [hnone holder hholder] at hheld
      cases hheld

/-- A VM that is not blocked is created, where no record holds its identity, or matched with the one that does. -/
theorem preflight_cases (h : _preflight_vm py all_vms target_vms vm cluster = .ok context)
    (hopen : context.is_blocked = false) :
    ∃ identity, virtual_machine_source_identity vm = .ok identity ∧
      ((find_vm_sync_identity_matches py all_vms vm = .ok [] ∧ ∃ desired, context = .create vm desired) ∨
        ∃ existing changes desired changed, find_vm_sync_identity_matches py all_vms vm = .ok [existing] ∧
          context = .match vm existing changes ∧
          _managed_metadata py vm existing.custom_fields = .ok (desired, changed) ∧
          changes.custom_fields = if changed = [] then none else some desired) := by
  have hidentity {existing : Fields} {desired : Fields} {changed : List String}
      (hmetadata : _managed_metadata py vm existing = .ok (desired, changed)) :
      ∃ identity, virtual_machine_source_identity vm = .ok identity := by
    unfold _managed_metadata at hmetadata
    split at hmetadata
    next => cases hmetadata
    next hbuilt =>
      obtain ⟨identity, hidentity, _⟩ := Except.bind_eq_ok_iff.mp hbuilt
      exact ⟨identity, hidentity⟩
  obtain ⟨owners, howners, h⟩ := Except.bind_eq_ok_iff.mp h
  split at h
  next =>
    split at h
    next =>
      obtain ⟨⟨desired, changed⟩, hmetadata, h⟩ := Except.bind_eq_ok_iff.mp h
      cases h
      obtain ⟨identity, hidentity⟩ := hidentity hmetadata
      exact ⟨identity, hidentity, .inl ⟨howners, desired, rfl⟩⟩
    all_goals
      cases h
      cases hopen
  next existing =>
    split at h
    next =>
      cases h
      cases hopen
    next =>
      split at h
      next =>
        obtain ⟨⟨desired, changed⟩, hmetadata, h⟩ := Except.bind_eq_ok_iff.mp h
        obtain ⟨changes, hchanges, h⟩ := Except.bind_eq_ok_iff.mp h
        cases h
        obtain ⟨status, _, hchanges⟩ := Except.bind_eq_ok_iff.mp hchanges
        cases hchanges
        obtain ⟨identity, hidentity⟩ := hidentity hmetadata
        exact ⟨identity, hidentity, .inr ⟨existing, _, desired, changed, howners, rfl, hmetadata, rfl⟩⟩
      next =>
        cases h
        cases hopen
  next =>
    cases h
    cases hopen

theorem get_with_default_of_ne {fields : Fields} {key other : String} {default : Value}
    (h : key ≠ other) : dict.get (with_default fields key default) other = dict.get fields other := by
  unfold with_default
  split
  · exact dict.get_set_of_ne _ _ h
  · exact dict.get_set_of_ne _ _ h
  · rfl

/-- A default is for fields that are missing or null. -/
theorem with_default_of_ne_null {fields : Fields} {key : String} {default : Value}
    (h : (dict.get fields key).getD .null ≠ .null) : with_default fields key default = fields := by
  unfold with_default
  split
  next hget => simp [hget] at h
  next hget => simp [hget] at h
  next => rfl

theorem Identified.congr {custom_fields other : Fields} (h : Identified py identity custom_fields)
    (heq : dict.get other "sync_identities" = dict.get custom_fields "sync_identities") :
    Identified py identity other := by
  have hrecords : identityRecords other = identityRecords custom_fields := by
    simp only [identityRecords, sync_identities, heq]
  refine ⟨?_, ?_, ?_⟩
  · rw [hrecords]
    exact h.mergeable
  · unfold holdsV2
    rw [hrecords]
    exact h.holds
  · rw [hrecords]
    exact h.only

/-- The custom fields a matched VM has after the batch. -/
def Context.custom_fields : Context → Fields
  | .match _ existing changes => changes.custom_fields.getD existing.custom_fields
  | _ => []

/-- What preflight knows of a VM that is not blocked. -/
structure Prepared (py : python.Runtime) (records : List MachineRecord) (context : Context) : Prop where
  existing_iff : ∀ record, context.existing = some record ↔ record ∈ records ∧ Holds py records context.vm record
  identified : ∀ record, context.existing = some record → ∃ identity,
    virtual_machine_source_identity context.vm = .ok identity ∧ Identified py identity context.custom_fields

/-- The wanted custom fields are those of the VM alone, and so are fields that need no change. -/
theorem identified_of_metadata {existing desired : Fields} {changed : List String}
    (hidentity : virtual_machine_source_identity vm = .ok identity)
    (h : _managed_metadata py vm existing = .ok (desired, changed)) :
    Identified py identity ((if changed = [] then none else some desired).getD existing) := by
  unfold _managed_metadata at h
  split at h
  next => cases h
  next built hbuilt =>
    cases h
    obtain ⟨identity', hidentity', hbuilt⟩ := Except.bind_eq_ok_iff.mp hbuilt
    rw [hidentity] at hidentity'
    cases hidentity'
    obtain ⟨merged, hmerged, hbuilt⟩ := Except.bind_eq_ok_iff.mp hbuilt
    obtain ⟨names, _, hbuilt⟩ := Except.bind_eq_ok_iff.mp hbuilt
    cases hbuilt
    have hget (fields : Fields) : dict.get (dict.update fields
        [("sync_identities", .arr merged), ("sync_original_names", .obj names)]) "sync_identities" =
          some (.arr merged) := by
      simp [dict.update, dict.get_set]
    split
    next hsame =>
      -- The identities are what the merge makes of them, so no default was put in.
      rw [List.filter_eq_nil_iff] at hsame
      have hsame := hsame "sync_identities" (by decide)
      rw [hget, Option.getD_some, Bool.not_eq_true', Bool.not_eq_false] at hsame
      have hne : (dict.get existing "sync_identities").getD .null ≠ .null := by
        intro hnull
        rw [hnull, Value.eq_iff, Value.normal_arr] at hsame
        cases hsame
      have hnormalized : dict.get (with_default existing "sync_original_names" (.obj [])) "sync_identities" =
          dict.get existing "sync_identities" := get_with_default_of_ne (by decide)
      rw [with_default_of_ne_null hne] at hmerged
      refine Identified.congr (identified_of_unchanged hmerged ?_) hnormalized.symm
      rw [hnormalized]
      exact hsame
    next => exact identified_of_merged hmerged (hget existing)

theorem prepared_of_preflight (h : _preflight_vm py all_vms target_vms vm cluster = .ok context)
    (hopen : context.is_blocked = false) : Prepared py all_vms context := by
  obtain ⟨identity, hidentity, ⟨hnone, desired, rfl⟩ | ⟨existing, changes, desired, changed, hone, rfl, hmetadata,
    hchanges⟩⟩ := preflight_cases h hopen
  · refine ⟨fun record => ?_, fun record hrecord => ?_⟩
    · show _ ↔ record ∈ all_vms ∧ Holds py all_vms vm record
      rw [← mem_matches_iff hidentity hnone]
      simp [Context.existing]
    · cases hrecord
  · refine ⟨fun record => ?_, fun record hrecord => ⟨identity, hidentity, ?_⟩⟩
    · show _ ↔ record ∈ all_vms ∧ Holds py all_vms vm record
      rw [← mem_matches_iff hidentity hone, List.mem_singleton]
      exact Option.some_inj.trans eq_comm
    · show Identified py identity (changes.custom_fields.getD existing.custom_fields)
      rw [hchanges]
      exact identified_of_metadata hidentity hmetadata

theorem Prepared.without_disk (h : Prepared py records context) :
    Prepared py records (without_disk disk_parents context) := by
  cases context with
  | blocked | create => exact h
  | «match» vm' existing changes =>
    refine ⟨h.existing_iff, fun record hrecord => ?_⟩
    obtain ⟨identity, hidentity, hidentified⟩ := h.identified record hrecord
    refine ⟨identity, hidentity, ?_⟩
    show Identified py identity ((if existing.id ∈ disk_parents then { changes with disk := none }
      else changes).custom_fields.getD existing.custom_fields)
    split <;> exact hidentified

theorem preflight_vm_eq (h : _preflight_vm py all_vms target_vms vm cluster = .ok context) : context.vm = vm := by
  cases hblocked : context.is_blocked with
  | false =>
    obtain ⟨_, _, ⟨_, _, rfl⟩ | ⟨_, _, _, _, _, rfl, _⟩⟩ := preflight_cases h hblocked <;> rfl
  | true =>
    obtain ⟨owners, _, h⟩ := Except.bind_eq_ok_iff.mp h
    cases context with
    | blocked vm' reason candidates =>
      split at h
      next =>
        split at h
        next =>
          obtain ⟨_, _, h⟩ := Except.bind_eq_ok_iff.mp h
          cases h
        all_goals
          cases h
          rfl
      next =>
        split at h
        next =>
          cases h
          rfl
        next =>
          split at h
          next =>
            obtain ⟨_, _, h⟩ := Except.bind_eq_ok_iff.mp h
            obtain ⟨_, _, h⟩ := Except.bind_eq_ok_iff.mp h
            cases h
          next =>
            cases h
            rfl
      next =>
        cases h
        rfl
    | create | «match» => cases hblocked

theorem without_disk_vm : (without_disk disk_parents context).vm = context.vm := by
  cases context <;> rfl

theorem without_disk_is_blocked : (without_disk disk_parents context).is_blocked = context.is_blocked := by
  cases context <;> rfl

/-- Preflight makes one context of every discovered VM. -/
theorem prepared_contexts {hosts : List DiscoveredHost} (h : prepare_vm_contexts py netbox hosts cluster = .ok contexts)
    (hopen : ∀ context ∈ contexts, context.is_blocked = false) :
    (contexts.map Context.vm).Perm (discovered_vms hosts) ∧
      ∀ context ∈ contexts, Prepared py netbox.vms.rows context := by
  obtain ⟨_, _, h⟩ := Except.bind_eq_ok_iff.mp h
  obtain ⟨preflighted, hpreflighted, h⟩ := Except.bind_eq_ok_iff.mp h
  cases h
  have hall := Except.mapM_eq_ok_iff.mp hpreflighted
  constructor
  · have hvms := hall.map_eq (f := Context.vm) (fun _ _ h => preflight_vm_eq h)
    rw [List.map_map, show Context.vm ∘ without_disk netbox.disk_parents = Context.vm from
      funext fun context => without_disk_vm, hvms]
    exact sorting.sorted_perm _ _
  · intro context hcontext
    obtain ⟨raw, hraw, rfl⟩ := List.mem_map.mp hcontext
    obtain ⟨vm, _, hvm⟩ := hall.exists_of_mem_right hraw
    have hblocked := hopen _ hcontext
    rw [without_disk_is_blocked] at hblocked
    exact (prepared_of_preflight hvm hblocked).without_disk

/-- A record that is not matched stays as it is. -/
theorem get_write_other {netbox' : Machines} (h : write_machine fresh cluster netbox context = .ok netbox')
    (hget : netbox.vms.get record.id = some record) (hother : ∀ x, context.existing = some x → record.id ≠ x.id) :
    netbox'.vms.get record.id = some record := by
  cases context with
  | blocked =>
    cases h
    exact hget
  | create vm desired =>
    obtain ⟨fields, _, rfl⟩ := Except.map_eq_ok_iff.mp h
    rw [Table.get_insert, if_neg]
    · exact hget
    · intro heq
      have hmem : record.id ∈ netbox.vms.ids := Table.mem_ids_iff.mpr ⟨record, hget⟩
      rw [heq] at hmem
      exact fresh.notMem netbox.vms.ids hmem
  | «match» vm existing changes =>
    simp only [write_machine] at h
    split at h <;> cases h
    · exact hget
    · show (netbox.vms.modify existing.id (updated changes) (updated_id changes)).get record.id = some record
      rw [Table.get_modify, if_neg (hother existing rfl)]
      exact hget

/-- The record of a matched VM gets the custom fields that preflight wants. -/
theorem get_write_self {netbox' : Machines} (h : write_machine fresh cluster netbox context = .ok netbox')
    (hget : netbox.vms.get record.id = some record) (hexisting : context.existing = some record) :
    ∃ row, netbox'.vms.get record.id = some row ∧ row.id = record.id ∧ row.custom_fields = context.custom_fields := by
  cases context with
  | blocked | create => cases hexisting
  | «match» vm existing changes =>
    cases hexisting
    simp only [write_machine] at h
    split at h <;> cases h
    next hnone =>
      refine ⟨record, hget, rfl, ?_⟩
      subst hnone
      rfl
    next =>
      refine ⟨updated changes record, ?_, rfl, rfl⟩
      show (netbox.vms.modify record.id (updated changes) (updated_id changes)).get record.id = _
      rw [Table.get_modify, if_pos rfl, hget]
      rfl

/-- In a batch whose contexts have different records every one of them gets its custom fields. -/
theorem write_kept {written : Machines} (h : write_virtual_machines fresh cluster netbox contexts = .ok written)
    (hdistinct : Distinct contexts)
    (hrows : ∀ context ∈ contexts, ∀ x, context.existing = some x → netbox.vms.get x.id = some x) :
    (∀ record : MachineRecord, netbox.vms.get record.id = some record →
      (∀ context ∈ contexts, ∀ x, context.existing = some x → record.id ≠ x.id) →
        written.vms.get record.id = some record) ∧
    ∀ context ∈ contexts, ∀ x, context.existing = some x →
      ∃ row, written.vms.get x.id = some row ∧ row.custom_fields = context.custom_fields := by
  unfold write_virtual_machines at h
  induction contexts generalizing netbox with
  | nil =>
    rw [List.foldlM_nil] at h
    cases h
    refine ⟨fun record hget _ => hget, fun context hcontext => ?_⟩
    cases hcontext
  | cons context contexts ih =>
    rw [List.foldlM_cons] at h
    obtain ⟨next, hnext, hrest⟩ := Except.bind_eq_ok_iff.mp h
    obtain ⟨hhead, htail⟩ := List.pairwise_cons.mp hdistinct
    have hrows' : ∀ other ∈ contexts, ∀ x, other.existing = some x → next.vms.get x.id = some x := by
      intro other hother x hx
      refine get_write_other hnext (hrows other (List.mem_cons_of_mem _ hother) x hx) fun y hy => ?_
      exact (hhead other hother y x hy hx).symm
    obtain ⟨hothers, hkept⟩ := ih hrest htail hrows'
    refine ⟨fun record hget hfree => ?_, fun other hother x hx => ?_⟩
    · have hget' := get_write_other hnext hget (hfree context List.mem_cons_self)
      exact hothers record hget' fun other hother => hfree other (List.mem_cons_of_mem _ hother)
    · rcases List.mem_cons.mp hother with rfl | hother
      · obtain ⟨row, hrow, hid, hfields⟩ := get_write_self hnext (hrows other List.mem_cons_self x hx) hx
        refine ⟨row, ?_, hfields⟩
        rw [← hid] at hrow ⊢
        refine hothers row hrow fun later hlater y hy => ?_
        rw [hid]
        exact hhead later hlater x y hx hy
      · exact hkept other hother x hx

/-- Contexts have different records where the records hold different VMs. -/
theorem distinct_iff_unshared {vms : List DiscoveredVirtualMachine} (hvms : (contexts.map Context.vm).Perm vms)
    (hprepared : ∀ context ∈ contexts, Prepared py netbox.vms.rows context) :
    Distinct contexts ↔ Unshared py netbox.vms.rows vms := by
  unfold Unshared
  rw [← hvms.pairwise_iff (fun h record hrecord hboth => h record hrecord hboth.symm), List.pairwise_map]
  refine List.Pairwise.iff_of_mem fun {a b} ha hb => ?_
  have ha := (hprepared a ha).existing_iff
  have hb := (hprepared b hb).existing_iff
  constructor
  · rintro hdistinct record hrecord ⟨hholds, hholds'⟩
    exact hdistinct record record ((ha record).mpr ⟨hrecord, hholds⟩) ((hb record).mpr ⟨hrecord, hholds'⟩) rfl
  · intro hunshared x y hx hy heq
    obtain ⟨hxmem, hxholds⟩ := (ha x).mp hx
    obtain ⟨hymem, hyholds⟩ := (hb y).mp hy
    obtain rfl := Table.eq_of_id hxmem hymem heq
    exact hunshared x hxmem ⟨hxholds, hyholds⟩

end

/-- Where preflight blocks no VM: no two contexts have the same NetBox VM, and each matched one is left with the v2
    identity of its VM alone, exactly when no NetBox VM holds identities of two discovered VMs. -/
theorem vm_matching_injective_iff (py : python.Runtime) (fresh : Table.Fresh) (netbox : Machines)
    (hosts : List DiscoveredHost) (cluster : Cluster) (contexts : List Context)
    (hprepared : prepare_vm_contexts py netbox hosts cluster = .ok contexts)
    (hopen : ∀ context ∈ contexts, context.is_blocked = false) :
    (Distinct contexts ∧ ∀ written, write_virtual_machines fresh cluster netbox contexts = .ok written →
      Kept py written contexts) ↔ Unshared py netbox.vms.rows (discovered_vms hosts) := by
  obtain ⟨hvms, hprepared⟩ := prepared_contexts hprepared hopen
  rw [← distinct_iff_unshared hvms hprepared]
  refine ⟨And.left, fun hdistinct => ⟨hdistinct, fun written hwritten context hcontext existing hexisting => ?_⟩⟩
  have hrows : ∀ context ∈ contexts, ∀ x, context.existing = some x → netbox.vms.get x.id = some x :=
    fun context hcontext x hx => Table.get_of_mem (((hprepared context hcontext).existing_iff x).mp hx).1
  obtain ⟨row, hrow, hfields⟩ := (write_kept hwritten hdistinct hrows).2 context hcontext existing hexisting
  obtain ⟨identity, hidentity, hidentified⟩ := (hprepared context hcontext).identified existing hexisting
  exact ⟨row, identity, hrow, hidentity, hfields ▸ hidentified⟩

def machine_100 : DiscoveredVirtualMachine :=
  { source := "proxmox", source_instance := "pve", legacy_identity_owner := true,
    source_id := "proxmox:node-a:100", node_source_id := "node-a", vmid := .int 100, original_name := "web",
    normalized_name := "web", status := "running", vcpus := 2, memory_bytes := 2147483648, autostart := true }

def machine_101 : DiscoveredVirtualMachine :=
  { machine_100 with
    source_id := "proxmox:node-a:101", vmid := .int 101, original_name := "db", normalized_name := "db" }

def node_a : DiscoveredHost := { (default : DiscoveredHost) with virtual_machines := [machine_100, machine_101] }

def cluster_a : Cluster := { id := 1, name := "pve" }

/-- A VM of the cluster with these identity records. -/
def one_machine (identities : List Value) : Machines where
  vms := ⟨[{ id := 7, name := "web", cluster := some 1, custom_fields := [("sync_identities", .arr identities)] }],
    List.nodup_singleton _⟩

def identity_100 : SourceIdentity := ⟨"proxmox", "pve", "qemu", "100", by decide⟩

def identity_101 : SourceIdentity := ⟨"proxmox", "pve", "qemu", "101", by decide⟩

/-- The record holds the v2 identity of one VM alone. -/
theorem vm_matching_injective_iff_kept :
    ∃ contexts, prepare_vm_contexts .plain (one_machine [identity_100.to_record]) [node_a] cluster_a = .ok contexts ∧
      Distinct contexts := by
  have hrun : (prepare_vm_contexts .plain (one_machine [identity_100.to_record]) [node_a] cluster_a).toOption.any
      (fun contexts => contexts.all (fun context => !context.is_blocked)) = true := by
    decide +kernel
  rw [Option.any_eq_true] at hrun
  obtain ⟨contexts, hcontexts, hopen⟩ := hrun
  have hcontexts := Except.ok_of_toOption hcontexts
  have hunshared : Unshared .plain (one_machine [identity_100.to_record]).vms.rows (discovered_vms [node_a]) := by
    refine List.pairwise_pair.mpr ?_
    rintro record hrecord ⟨_, identity, hidentity, hholds⟩
    obtain rfl := List.mem_singleton.mp hrecord
    obtain rfl : identity_101 = identity := Except.ok.inj (by rw [← hidentity]; decide +kernel)
    revert hholds
    decide +kernel
  refine ⟨contexts, hcontexts, ?_⟩
  have hopen : ∀ context ∈ contexts, context.is_blocked = false := by simpa using hopen
  exact ((vm_matching_injective_iff .plain .after _ _ _ contexts hcontexts hopen).mpr hunshared).1

/-- A record with the v2 identity of one VM and the legacy id of another. -/
def shared_machine : Machines :=
  one_machine [identity_100.to_record, .obj [("source", .str "proxmox"), ("source_id", .str "node-a:101")]]

/-- Both VMs are matched to it, and the first loses its identity. -/
theorem shared_record_is_matched_twice :
    ∃ contexts written, prepare_vm_contexts .plain shared_machine [node_a] cluster_a = .ok contexts ∧
      (∀ context ∈ contexts, context.is_blocked = false) ∧
      contexts.map (fun context => (context.vm.vmid, context.existing.map (fun x => x.id))) =
        [(.int 100, some 7), (.int 101, some 7)] ∧
      apply_virtual_machines .after cluster_a .plain shared_machine [node_a] true = .ok written ∧
      (written.vms.get 7).any (fun row => holdsV2 (fun _ => "") identity_100 row.custom_fields) = false := by
  have hrun : (prepare_vm_contexts .plain shared_machine [node_a] cluster_a).toOption.any (fun contexts =>
      (apply_virtual_machines .after cluster_a .plain shared_machine [node_a] true).toOption.any (fun written =>
        contexts.all (fun context => !context.is_blocked) &&
        contexts.map (fun context => (context.vm.vmid, context.existing.map (fun x => x.id))) =
          [(.int 100, some 7), (.int 101, some 7)] &&
        !(written.vms.get 7).any (fun row => holdsV2 (fun _ => "") identity_100 row.custom_fields))) = true := by
    decide +kernel
  rw [Option.any_eq_true] at hrun
  obtain ⟨contexts, hcontexts, hrun⟩ := hrun
  rw [Option.any_eq_true] at hrun
  obtain ⟨written, hwritten, hcheck⟩ := hrun
  simp only [Bool.and_eq_true, List.all_eq_true, Bool.not_eq_true', decide_eq_true_eq] at hcheck
  obtain ⟨⟨hopen, hmatched⟩, hlost⟩ := hcheck
  exact ⟨contexts, written, Except.ok_of_toOption hcontexts, hopen, hmatched, Except.ok_of_toOption hwritten, hlost⟩

end netbox_sync.netbox_vm_apply
