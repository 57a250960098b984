import NetboxSync.Network.Matching

open json

namespace netbox_sync.source_identity

section

variable (py : python.Runtime)

/-- The record belongs to the namespace that the identity's source owns. -/
def in_namespace (desired : SourceIdentity) (value : Value) : Bool :=
  match from_record py.repr value with
  | .ok (some parsed) => parsed.same_namespace desired
  | _ => false

/-- A record that `merge_source_identities` can read. -/
def Mergeable (value : Value) : Prop :=
  (∃ fields, value = .obj fields) ∧ ∃ parsed, from_record py.repr value = .ok parsed

end

section

variable {py : python.Runtime} {desired : SourceIdentity} {custom_fields : Fields}

theorem from_record_to_record (id : SourceIdentity) : from_record py.repr id.to_record = .ok (some id) :=
  from_record_of_eq (Value.eq_refl _)

theorem mergeable_to_record (id : SourceIdentity) : Mergeable py id.to_record :=
  ⟨⟨_, rfl⟩, _, from_record_to_record id⟩

theorem same_namespace_self (id : SourceIdentity) : id.same_namespace id = true := by
  simp [SourceIdentity.same_namespace]

theorem in_namespace_to_record (id : SourceIdentity) : in_namespace py id id.to_record = true := by
  simp only [in_namespace, from_record_to_record]
  exact same_namespace_self id

/-- A record of a namespace is a v2 record, so it is no legacy one. -/
theorem legacy_of_in_namespace {value : Value} (h : in_namespace py desired value = true)
    (wanted : SourceIdentity) (ids : List String) : legacy_identity py.repr wanted ids value = false := by
  unfold in_namespace at h
  cases value with
  | obj fields =>
    by_cases hschema : dict.get fields "schema" = some (.str IDENTITY_SCHEMA_V2)
    · simp [legacy_identity, hschema]
    · simp [from_record, hschema] at h
  | _ => rfl

theorem kept_identities_eq_ok_iff {values kept : List Value} :
    kept_identities py desired values = .ok kept ↔
      (∀ value ∈ values, Mergeable py value) ∧
        kept = values.filter (fun value => !in_namespace py desired value) := by
  induction values generalizing kept with
  | nil => simp [kept_identities, eq_comm]
  | cons value values ih =>
    cases value with
    | obj fields =>
      rw [kept_identities, Except.bind_eq_ok_iff]
      constructor
      · rintro ⟨parsed, hparsed, h⟩
        obtain ⟨rest, hrest, h⟩ := Except.bind_eq_ok_iff.mp h
        obtain ⟨hall, rfl⟩ := ih.mp hrest
        refine ⟨?_, ?_⟩
        · intro value hvalue
          rcases List.mem_cons.mp hvalue with rfl | hvalue
          · exact ⟨⟨fields, rfl⟩, parsed, hparsed⟩
          · exact hall value hvalue
        · cases parsed with
          | none =>
            cases h
            simp [in_namespace, hparsed]
          | some parsed =>
            simp only [Option.any_some] at h
            split at h <;> next hsame =>
              cases h
              simp [in_namespace, hparsed, hsame]
      · rintro ⟨hall, rfl⟩
        obtain ⟨_, parsed, hparsed⟩ := hall (.obj fields) (by simp)
        refine ⟨parsed, hparsed, Except.bind_eq_ok_iff.mpr
          ⟨_, ih.mpr ⟨fun value hvalue => hall value (by simp [hvalue]), rfl⟩, ?_⟩⟩
        cases parsed with
        | none => simp [in_namespace, hparsed]
        | some parsed => cases hsame : parsed.same_namespace desired <;> simp [in_namespace, hparsed, hsame]
    | _ =>
      simp only [kept_identities, reduceCtorEq, false_iff, not_and]
      intro hall
      obtain ⟨⟨fields, hobj⟩, _⟩ := hall _ List.mem_cons_self
      cases hobj

theorem identityRecords_of_get {values : List Value}
    (h : (dict.get custom_fields "sync_identities").getD (.arr []) = .arr values) :
    identityRecords custom_fields = values := by
  cases hget : dict.get custom_fields "sync_identities" with
  | none =>
    rw [hget, Option.getD_none, Value.arr.injEq] at h
    simp [identityRecords, sync_identities, hget, h]
  | some value =>
    rw [hget, Option.getD_some] at h
    simp [identityRecords, sync_identities, hget, h]

variable {merged : List Value} {after : Fields}

/-- A merge keeps the other records and adds the identity's own. -/
theorem merge_source_identities_eq_ok_iff :
    merge_source_identities py custom_fields desired = .ok merged ↔
      (dict.get custom_fields "sync_identities").getD (.arr []) = .arr (identityRecords custom_fields) ∧
      (∀ value ∈ identityRecords custom_fields, Mergeable py value) ∧
      merged = sorting.sorted (record_key py) ((identityRecords custom_fields).filter
        (fun value => !in_namespace py desired value) ++ [desired.to_record]) := by
  unfold merge_source_identities
  constructor
  · intro h
    split at h
    · next values hvalues =>
      obtain ⟨kept, hkept, h⟩ := Except.bind_eq_ok_iff.mp h
      obtain ⟨hall, rfl⟩ := kept_identities_eq_ok_iff.mp hkept
      cases h
      rw [identityRecords_of_get hvalues]
      exact ⟨hvalues, hall, rfl⟩
    · cases h
  · rintro ⟨hvalues, hall, rfl⟩
    rw [hvalues]
    dsimp only
    rw [kept_identities_eq_ok_iff.mpr ⟨hall, rfl⟩, Except.ok_bind]

theorem mem_merged (h : merge_source_identities py custom_fields desired = .ok merged) {value : Value} :
    value ∈ merged ↔
      value ∈ identityRecords custom_fields ∧ in_namespace py desired value = false ∨ value = desired.to_record := by
  obtain ⟨_, _, rfl⟩ := merge_source_identities_eq_ok_iff.mp h
  simp

/-- Merging into merged identities gives them back. -/
theorem merge_source_identities_again (h : merge_source_identities py custom_fields desired = .ok merged)
    (hafter : dict.get after "sync_identities" = some (.arr merged)) :
    merge_source_identities py after desired = .ok merged := by
  have hrecords : identityRecords after = merged := by simp [identityRecords, sync_identities, hafter]
  have hmem : ∀ value, value ∈ merged ↔ _ := fun value => mem_merged h
  obtain ⟨_, hall, hmerged⟩ := merge_source_identities_eq_ok_iff.mp h
  rw [merge_source_identities_eq_ok_iff, hrecords, hafter]
  refine ⟨rfl, ?_, ?_⟩
  · intro value hvalue
    rcases (hmem value).mp hvalue with ⟨hold, _⟩ | rfl
    · exact hall value hold
    · exact mergeable_to_record desired
  · rw [hmerged, sorting.sorted_filter, sorting.sorted_sorted_append, List.filter_append, List.filter_filter]
    simp [in_namespace_to_record]

/-- The object is known by the identity, and by no other one of its namespace. -/
structure Identified (py : python.Runtime) (desired : SourceIdentity) (custom_fields : Fields) : Prop where
  mergeable : ∀ value ∈ identityRecords custom_fields, Mergeable py value
  holds : holdsV2 py.repr desired custom_fields = true
  only : ∀ value ∈ identityRecords custom_fields, in_namespace py desired value = true →
    from_record py.repr value = .ok (some desired)

theorem Identified.readable (h : Identified py desired custom_fields) : Readable py.repr custom_fields :=
  fun value hvalue => (h.mergeable value hvalue).2

theorem Identified.holdsV2_iff (h : Identified py desired custom_fields) {wanted : SourceIdentity}
    (hnamespace : wanted.same_namespace desired = true) :
    holdsV2 py.repr wanted custom_fields = true ↔ wanted = desired := by
  constructor
  · intro hholds
    obtain ⟨value, hvalue, hread⟩ := List.any_eq_true.mp hholds
    have hread := of_decide_eq_true hread
    have hown := h.only value hvalue (by simpa only [in_namespace, hread] using hnamespace)
    rw [hread, Except.ok.injEq, Option.some.injEq] at hown
    exact hown
  · rintro rfl
    exact h.holds

section

variable (h : merge_source_identities py custom_fields desired = .ok merged)
include h

theorem identified_of_merged (hafter : dict.get after "sync_identities" = some (.arr merged)) :
    Identified py desired after := by
  have hrecords : identityRecords after = merged := by simp [identityRecords, sync_identities, hafter]
  refine ⟨(merge_source_identities_eq_ok_iff.mp (merge_source_identities_again h hafter)).2.1, ?_, ?_⟩
  · rw [holdsV2, hrecords, List.any_eq_true]
    exact ⟨_, (mem_merged h).mpr (.inr rfl), decide_eq_true (from_record_to_record desired)⟩
  · intro value hvalue hnamespace
    rw [hrecords] at hvalue
    rcases (mem_merged h).mp hvalue with ⟨_, hother⟩ | rfl
    · rw [hother] at hnamespace
      cases hnamespace
    · exact from_record_to_record desired

/-- Identities that a merge would leave equal already are what it asks for. -/
theorem identified_of_unchanged
    (hsame : ((dict.get custom_fields "sync_identities").getD .null).eq (.arr merged) = true) :
    Identified py desired custom_fields := by
  obtain ⟨hget, hall, hmerged⟩ := merge_source_identities_eq_ok_iff.mp h
  have hnormal : (identityRecords custom_fields).map Value.normal = merged.map Value.normal := by
    rw [Value.eq_iff, Value.normal_arr] at hsame
    cases hfield : dict.get custom_fields "sync_identities" with
    | none =>
      rw [hfield] at hsame
      cases hsame
    | some value =>
      rw [hfield, Option.getD_some] at hget hsame
      rw [hget, Value.normal_arr, Value.arr.injEq] at hsame
      exact hsame
  obtain ⟨own, hown, hread⟩ : ∃ own ∈ identityRecords custom_fields,
      from_record py.repr own = .ok (some desired) := by
    have hmem : desired.to_record.normal ∈ merged.map Value.normal :=
      List.mem_map_of_mem ((mem_merged h).mpr (.inr rfl))
    rw [← hnormal] at hmem
    obtain ⟨own, hown, heq⟩ := List.mem_map.mp hmem
    exact ⟨own, hown, from_record_of_eq (Value.eq_iff.mpr heq.symm)⟩
  refine ⟨hall, List.any_eq_true.mpr ⟨own, hown, decide_eq_true hread⟩, ?_⟩
  -- the merge replaces the records of the namespace by one, so there was one
  have hcount : ((identityRecords custom_fields).filter (in_namespace py desired)).length = 1 := by
    have hlength := congrArg List.length hnormal
    rw [List.length_map, List.length_map, hmerged, sorting.length_sorted, List.length_append,
      List.length_singleton] at hlength
    have hsplit := List.length_eq_length_filter_add (l := identityRecords custom_fields) (in_namespace py desired)
    omega
  obtain ⟨sole, hsole⟩ := List.length_eq_one_iff.mp hcount
  have hownSole : own = sole := by
    have hmem : own ∈ (identityRecords custom_fields).filter (in_namespace py desired) :=
      List.mem_filter.mpr ⟨hown, by simp only [in_namespace, hread]; exact same_namespace_self desired⟩
    rw [hsole] at hmem
    exact List.mem_singleton.mp hmem
  intro value hvalue hnamespace
  have hmem := List.mem_filter.mpr ⟨hvalue, hnamespace⟩
  rw [hsole] at hmem
  rw [List.mem_singleton.mp hmem, ← hownSole]
  exact hread

/-- A merge leaves the legacy records as they are. -/
theorem holdsLegacy_merged (hafter : dict.get after "sync_identities" = some (.arr merged)) (wanted : SourceIdentity)
    (ids : List String) : holdsLegacy py.repr wanted ids after = holdsLegacy py.repr wanted ids custom_fields := by
  have hrecords : identityRecords after = merged := by simp [identityRecords, sync_identities, hafter]
  rw [Bool.eq_iff_iff, holdsLegacy, holdsLegacy, hrecords, List.any_eq_true, List.any_eq_true]
  constructor
  · rintro ⟨value, hvalue, hlegacy⟩
    rcases (mem_merged h).mp hvalue with ⟨hold, _⟩ | rfl
    · exact ⟨value, hold, hlegacy⟩
    · rw [legacy_of_in_namespace (in_namespace_to_record desired)] at hlegacy
      cases hlegacy
  · rintro ⟨value, hvalue, hlegacy⟩
    refine ⟨value, (mem_merged h).mpr (.inl ⟨hvalue, ?_⟩), hlegacy⟩
    cases hnamespace : in_namespace py desired value with
    | false => rfl
    | true =>
      rw [legacy_of_in_namespace hnamespace] at hlegacy
      cases hlegacy

end

end

end netbox_sync.source_identity

namespace netbox_sync.netbox_vm_interface_metadata

open discovery source_identity network_matching

section

variable {py : python.Runtime} {guest : Guest} {nic : DiscoveredInterface}
  {existing desired : Fields}

/-- The steps of `build_nic_custom_fields` that succeed with it. -/
theorem build_nic_custom_fields_ok (h : build_nic_custom_fields py guest nic existing = .ok desired) :
    ∃ identity merged names, nic_source_identity guest nic = .ok identity ∧
      merge_source_identities py existing identity = .ok merged ∧
      merge_original_name existing identity nic.name = .ok names ∧
      dict.get desired "sync_identities" = some (.arr merged) ∧
      dict.get desired "sync_original_names" = some (.obj names) ∧
      dict.get desired "source_bridge" = some (optional .str nic.bridge) ∧
      dict.get desired "source_vlan_id" = some (optional .int nic.vlan_id) ∧
      ∀ observations, nic.network_observations = some observations → ∃ merged,
        merge_network_observations existing guest.source_instance observations.value = .ok merged ∧
          dict.get desired "sync_network_observations" = some merged := by
  unfold build_nic_custom_fields at h
  obtain ⟨identity, hidentity, h⟩ := Except.bind_eq_ok_iff.mp h
  obtain ⟨merged, hmerged, h⟩ := Except.bind_eq_ok_iff.mp h
  obtain ⟨names, hnames, h⟩ := Except.bind_eq_ok_iff.mp h
  refine ⟨identity, merged, names, hidentity, hmerged, hnames, ?_⟩
  dsimp only at h
  cases hobs : nic.network_observations with
  | none =>
    rw [hobs] at h
    cases h
    simp [dict.get_set]
  | some observations =>
    rw [hobs] at h
    obtain ⟨observed, hobserved, h⟩ := Except.bind_eq_ok_iff.mp h
    cases h
    refine ⟨by simp [dict.get_set], by simp [dict.get_set], by simp [dict.get_set], by simp [dict.get_set], ?_⟩
    rintro _ ⟨⟩
    exact ⟨observed, hobserved, dict.get_set_self _ _ _⟩

theorem merge_original_name_again {identity : SourceIdentity} {names : Fields}
    (h : merge_original_name existing identity nic.name = .ok names)
    (hafter : dict.get desired "sync_original_names" = some (.obj names)) :
    merge_original_name desired identity nic.name = .ok names := by
  unfold merge_original_name at h ⊢
  rw [hafter]
  split at h
  · cases h
    simp only [Option.getD_some]
    rw [dict.set_of_get (dict.get_set_self _ _ _)]
  · cases h

theorem merge_network_observations_again {source_instance : String} {observations merged : Value}
    (h : merge_network_observations existing source_instance observations = .ok merged)
    (hafter : dict.get desired "sync_network_observations" = some merged) :
    merge_network_observations desired source_instance observations = .ok merged := by
  unfold merge_network_observations at h ⊢
  rw [hafter]
  dsimp only at h ⊢
  split at h
  · next previous _ =>
    cases h
    have hne : dict.set previous source_instance observations ≠ [] := by
      intro hnil
      have hget := dict.get_set_self previous source_instance observations
      rw [hnil] at hget
      cases hget
    rw [Option.getD_some, if_pos (by simpa [Value.truthy] using hne)]
    dsimp only
    rw [dict.set_of_get (dict.get_set_self _ _ _)]
  · cases h

/-- The fields a NIC asks for ask for nothing more. -/
theorem build_nic_custom_fields_again (h : build_nic_custom_fields py guest nic existing = .ok desired) :
    build_nic_custom_fields py guest nic desired = .ok desired := by
  obtain ⟨identity, merged, names, hidentity, hmerged, hnames, hids, horiginal, hbridge, hvlan, hobs⟩ :=
    build_nic_custom_fields_ok h
  unfold build_nic_custom_fields
  rw [hidentity, Except.ok_bind, merge_source_identities_again hmerged hids, Except.ok_bind,
    merge_original_name_again hnames horiginal, Except.ok_bind]
  have hupdate : dict.update desired
      [("sync_identities", .arr merged), ("sync_original_names", .obj names),
        ("source_bridge", optional .str nic.bridge), ("source_vlan_id", optional .int nic.vlan_id)] =
      desired := by
    apply dict.update_of_get
    simp [hids, horiginal, hbridge, hvlan]
  dsimp only
  rw [hupdate]
  cases hsome : nic.network_observations with
  | none => rfl
  | some observations =>
    obtain ⟨observed, hobserved, hget⟩ := hobs observations hsome
    dsimp only
    rw [merge_network_observations_again hobserved hget, Except.ok_bind, dict.set_of_get hget]

theorem heldBefore_built (h : build_nic_custom_fields py guest nic existing = .ok desired)
    (other : DiscoveredInterface) : heldBefore py guest other desired = heldBefore py guest other existing := by
  obtain ⟨_, _, _, _, hmerged, _, hids, _⟩ := build_nic_custom_fields_ok h
  unfold heldBefore
  cases nic_source_identity guest other with
  | error _ => rfl
  | ok wanted =>
    dsimp only
    rw [holdsLegacy_merged hmerged hids]

end

end netbox_sync.netbox_vm_interface_metadata
