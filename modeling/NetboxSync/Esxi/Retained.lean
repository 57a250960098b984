import NetboxSync.Esxi.Adoption

open json sorting

namespace netbox_sync.esxi_adoption

open discovery source_identity

section

variable (env : Environment) (nb : Catalog)

/-- The record is what is left of a VM of this source that is gone, and the name is all that the discovered VM shares
    with it or with any other record. -/
def retains (live_ids : List SourceIdentity) (target : List Record) (record : Record) : Discovered → Bool
  | .host _ => false
  | .vm guest =>
    match virtual_machine_source_identity guest with
    | .error _ => false
    | .ok identity =>
      (nb.records .vm).all (fun other => decide (matches_identity env other identity = .ok false)) &&
        decide (target.filter (related env nb (.vm guest)) = [record]) &&
        exact_name env (.vm guest) record && (matching_ips nb (.vm guest) record).isEmpty &&
        (matching_macs nb (.vm guest) record).isEmpty && contains_v2_identity record &&
        match snapshot_identities env (Value.obj record.custom_fields).sort_keys with
        | .ok identities => absent_generation live_ids identity identities
        | .error _ => false

end

/-- What the isolation pass tests of one item. -/
structure Isolable (env : Environment) (live_ids : List SourceIdentity) (item : EsxiAdoptionItem)
    (candidate : AdoptionEvidence) : Prop where
  kind : item.object_kind = .vm
  ambiguous : item.classification = .AMBIGUOUS
  candidates : item.candidates = [candidate]
  signals : candidate.signals = ["exact_name"]
  managed : "existing_managed_identity" ∈ candidate.conflicts
  conflicts : candidate.conflicts ⊆ isolated_conflicts
  absent : ∃ identities, snapshot_identities env candidate.custom_fields_snapshot = .ok identities ∧
    absent_generation live_ids item.identity identities = true

variable {env : Environment} {nb : Catalog} {live_ids : List SourceIdentity}

theorem isolate_eq_ok {item result : EsxiAdoptionItem} (h : isolate env live_ids item = .ok result) :
    (∃ candidate, Isolable env live_ids item candidate ∧ result = { item with classification := .RETAINED_NAME }) ∨
    ((∀ candidate, ¬ Isolable env live_ids item candidate) ∧ result = item) := by
  unfold isolate at h
  split at h
  · next candidate hkind hambiguous hcandidates =>
    obtain ⟨identities, hidentities, h⟩ := Except.bind_eq_ok_iff.mp h
    split at h
    · next htests =>
      obtain ⟨hsignals, hmanaged, hconflicts, habsent⟩ := htests
      cases h
      exact .inl ⟨candidate, ⟨hkind, hambiguous, hcandidates, hsignals, hmanaged, hconflicts,
        identities, hidentities, habsent⟩, rfl⟩
    · next htests =>
      cases h
      refine .inr ⟨fun other hother => htests ?_, rfl⟩
      have hsame : candidate = other := List.singleton_injective (hcandidates.symm.trans hother.candidates)
      subst hsame
      obtain ⟨found, hfound, habsent⟩ := hother.absent
      rw [hidentities] at hfound
      cases hfound
      exact ⟨hother.signals, hother.managed, hother.conflicts, habsent⟩
  · next hnone =>
    cases h
    exact .inr ⟨fun candidate hc => hnone candidate hc.kind hc.ambiguous hc.candidates, rfl⟩

/-- What the list of the records known to be the object is. -/
theorem managed_records_eq_ok {identity : SourceIdentity} {records managed : List Record}
    (h : managed_records env identity records = .ok managed) :
    managed = [] ↔ ∀ record ∈ records, matches_identity env record identity = .ok false := by
  induction records generalizing managed with
  | nil =>
    cases h
    simp
  | cons record records ih =>
    obtain ⟨held, hheld, h⟩ := Except.bind_eq_ok_iff.mp h
    obtain ⟨rest, hrest, h⟩ := Except.bind_eq_ok_iff.mp h
    cases h
    rw [List.forall_mem_cons, hheld, ← ih hrest]
    cases held <;> simp

/-- What one object's item is, whichever way it was classified. -/
structure Classified (discovered : Discovered) (identity : SourceIdentity) (target : List Record)
    (item : EsxiAdoptionItem) : Prop where
  kind : item.object_kind = discovered.kind
  identity : item.identity = identity
  unretained : item.classification ≠ .RETAINED_NAME
  selected : item.classification = .MANAGED → ∃ record ∈ target, item.selected_object_id = some record.id ∧
    item.candidates.map AdoptionEvidence.object_id = [record.id]

section

variable (discovered : Discovered) (identity : SourceIdentity) (target : List Record)

theorem classify_related_candidates :
    (classify_related env nb discovered identity target).candidates =
      (target.filter (related env nb discovered)).map (related_evidence env nb discovered) := by
  simp only [classify_related]
  split
  · rfl
  · split <;> rfl
  · rfl

/-- The only related record is in conflict, so the object is ambiguous. -/
theorem classify_related_ambiguous {record : Record} (hrelated : target.filter (related env nb discovered) = [record])
    (hconflicts : conflicts_with nb discovered record ≠ []) :
    (classify_related env nb discovered identity target).classification = .AMBIGUOUS := by
  simp only [classify_related, hrelated, List.map_cons, List.map_nil]
  rw [if_pos]
  exact hconflicts

theorem classify_related_classified :
    Classified discovered identity target (classify_related env nb discovered identity target) := by
  simp only [classify_related]
  split
  · exact ⟨rfl, rfl, by simp, by simp⟩
  · split
    · exact ⟨rfl, rfl, by simp, by simp⟩
    · refine ⟨rfl, rfl, ?_, ?_⟩ <;> dsimp only <;> split <;> simp
  · exact ⟨rfl, rfl, by simp, by simp⟩

theorem classify_managed_candidates (signals : List String) (managed : List Record) :
    (classify_managed discovered identity signals target managed).candidates =
      managed.map (fun record => { evidence record false [] [] [] with signals := signals }) := by
  simp only [classify_managed]
  split
  · split <;> rfl
  · rfl

theorem classify_managed_classified (signals : List String) (managed : List Record) :
    Classified discovered identity target (classify_managed discovered identity signals target managed) := by
  simp only [classify_managed]
  split
  · next record =>
    split
    · next htarget =>
      obtain ⟨found, hfound, hid⟩ := List.mem_map.mp htarget
      exact ⟨rfl, rfl, by simp, fun _ => ⟨found, hfound, by rw [hid], by rw [hid]; rfl⟩⟩
    · exact ⟨rfl, rfl, by simp, by simp⟩
  · exact ⟨rfl, rfl, by simp, by simp⟩

end

section

variable {discovered : Discovered} {identity : SourceIdentity} {all target : List Record}
  {item : EsxiAdoptionItem}

/-- The three ways to classify an object. -/
theorem classify_cases (h : classify env nb discovered identity all target = .ok item) :
    (∃ managed, managed ≠ [] ∧ managed_records env identity all = .ok managed ∧
      item = classify_managed discovered identity [] target managed) ∨
    (managed_records env identity all = .ok [] ∧ ∃ provided, provided ≠ [] ∧
      provider_records env discovered all = .ok provided ∧
      item = classify_managed discovered identity ["selectel_hardware_identity"] target provided) ∨
    (managed_records env identity all = .ok [] ∧ item = classify_related env nb discovered identity target) := by
  obtain ⟨managed, hmanaged, h⟩ := Except.bind_eq_ok_iff.mp h
  split at h
  · next hsome =>
    cases h
    exact .inl ⟨managed, hsome, hmanaged, rfl⟩
  · next hnone =>
    rw [not_not] at hnone
    subst hnone
    obtain ⟨provided, hprovided, h⟩ := Except.bind_eq_ok_iff.mp h
    split at h
    · next hsome =>
      cases h
      exact .inr (.inl ⟨hmanaged, provided, hsome, hprovided, rfl⟩)
    · cases h
      exact .inr (.inr ⟨hmanaged, rfl⟩)

theorem classify_classified (h : classify env nb discovered identity all target = .ok item) :
    Classified discovered identity target item := by
  obtain ⟨managed, -, -, rfl⟩ | ⟨-, provided, -, -, rfl⟩ | ⟨-, rfl⟩ := classify_cases h
  · exact classify_managed_classified discovered identity target [] managed
  · exact classify_managed_classified discovered identity target _ provided
  · exact classify_related_classified discovered identity target

end

/-- Signals that are no more than the name. -/
theorem evidence_signals_eq_iff {record : Record} {exact_name : Bool} {ips macs conflicts : List String} :
    (evidence record exact_name ips macs conflicts).signals = ["exact_name"] ↔
      exact_name = true ∧ ips = [] ∧ macs = [] := by
  have hmark : ∀ mark text : String, mark.toList.head? ≠ some 'e' → mark ≠ "" → mark ++ text ≠ "exact_name" := by
    intro mark text hhead hmark heq
    have hchars := congrArg String.toList heq
    rw [String.toList_append] at hchars
    cases hlist : mark.toList with
    | nil => exact hmark (String.toList_eq_nil_iff.mp hlist)
    | cons c rest =>
      rw [hlist, List.cons_append] at hchars
      rw [hlist] at hhead
      have hc : c = 'e' := (List.cons.inj hchars).1
      exact hhead (by rw [hc]; rfl)
  have hempty : ∀ texts : List String, sorted id texts = [] ↔ texts = [] := by
    intro texts
    exact ⟨fun h => List.Perm.eq_nil (h ▸ (sorted_perm id texts).symm), fun h => by rw [h]; rfl⟩
  constructor
  · intro h
    cases exact_name with
    | true => simpa [evidence, hempty] using h
    | false =>
      have hmem : "exact_name" ∈ (sorted id ips).map ("ip:" ++ ·) ++ (sorted id macs).map ("mac:" ++ ·) := by
        simp only [evidence, Bool.false_eq_true, if_false, List.nil_append] at h
        rw [h]
        exact List.mem_singleton_self _
      rcases List.mem_append.mp hmem with hmem | hmem
      · obtain ⟨text, -, htext⟩ := List.mem_map.mp hmem
        exact absurd htext (hmark _ text (by decide) (by decide))
      · obtain ⟨text, -, htext⟩ := List.mem_map.mp hmem
        exact absurd htext (hmark _ text (by decide) (by decide))
  · rintro ⟨rfl, rfl, rfl⟩
    rfl

theorem conflicts_with_subset (nb : Catalog) (discovered : Discovered) (record : Record) :
    conflicts_with nb discovered record ⊆ isolated_conflicts := by
  intro conflict hconflict
  simp only [conflicts_with, List.mem_append, List.mem_ite_nil_right, List.mem_singleton] at hconflict
  rw [isolated_conflicts]
  rcases hconflict with (⟨-, rfl⟩ | ⟨-, rfl⟩) | ⟨-, rfl⟩ <;> simp

theorem managed_conflict_iff (nb : Catalog) (discovered : Discovered) (record : Record) :
    "existing_managed_identity" ∈ conflicts_with nb discovered record ↔ contains_v2_identity record = true := by
  simp [conflicts_with]

/-- What `retains` tests, once the identity of the VM is known. -/
structure Retains (env : Environment) (nb : Catalog) (live_ids : List SourceIdentity) (target : List Record)
    (guest : DiscoveredVirtualMachine) (identity : SourceIdentity) (record : Record) : Prop where
  unmanaged : ∀ other ∈ nb.records .vm, matches_identity env other identity = .ok false
  related : target.filter (related env nb (.vm guest)) = [record]
  signals : (related_evidence env nb (.vm guest) record).signals = ["exact_name"]
  managed : contains_v2_identity record = true
  absent : ∃ identities, snapshot_identities env (Value.obj record.custom_fields).sort_keys = .ok identities ∧
    absent_generation live_ids identity identities = true

section

variable {guest : DiscoveredVirtualMachine} {identity : SourceIdentity} {target : List Record}

theorem retains_iff (hidentity : virtual_machine_source_identity guest = .ok identity) {record : Record} :
    retains env nb live_ids target record (.vm guest) = true ↔
      Retains env nb live_ids target guest identity record := by
  have habsent : (match snapshot_identities env (Value.obj record.custom_fields).sort_keys with
      | .ok identities => absent_generation live_ids identity identities
      | .error _ => false) = true ↔
        ∃ identities, snapshot_identities env (Value.obj record.custom_fields).sort_keys = .ok identities ∧
          absent_generation live_ids identity identities = true := by
    cases snapshot_identities env (Value.obj record.custom_fields).sort_keys <;> simp
  simp only [retains, hidentity, Bool.and_eq_true, List.all_eq_true, decide_eq_true_eq, habsent, List.isEmpty_iff]
  constructor
  · rintro ⟨⟨⟨⟨⟨⟨hunmanaged, hrelated⟩, hname⟩, hips⟩, hmacs⟩, hmanaged⟩, habsent⟩
    exact ⟨hunmanaged, hrelated, evidence_signals_eq_iff.mpr ⟨hname, hips, hmacs⟩, hmanaged, habsent⟩
  · intro h
    obtain ⟨hname, hips, hmacs⟩ := evidence_signals_eq_iff.mp h.signals
    exact ⟨⟨⟨⟨⟨⟨h.unmanaged, h.related⟩, hname⟩, hips⟩, hmacs⟩, h.managed⟩, h.absent⟩

theorem Retains.mem {record : Record} (h : Retains env nb live_ids target guest identity record) : record ∈ target := by
  have hmem : record ∈ target.filter (esxi_adoption.related env nb (.vm guest)) := by
    rw [h.related]
    exact List.mem_singleton_self record
  exact List.mem_of_mem_filter hmem

variable {item marked : EsxiAdoptionItem}

theorem Retains.candidates {record : Record} (h : Retains env nb live_ids target guest identity record)
    (hitem : classify env nb (.vm guest) identity (nb.records .vm) target = .ok item) :
    item = classify_related env nb (.vm guest) identity target ∧
      item.candidates = [related_evidence env nb (.vm guest) record] := by
  obtain ⟨managed, hsome, hmanaged, -⟩ | ⟨-, provided, hsome, hprovided, -⟩ | ⟨-, rfl⟩ := classify_cases hitem
  · exact absurd ((managed_records_eq_ok hmanaged).mpr h.unmanaged) hsome
  · cases hprovided
    exact absurd rfl hsome
  · refine ⟨rfl, ?_⟩
    rw [classify_related_candidates, h.related]
    rfl

/-- An item is isolated for the record its VM retains, and for no other, whether or not its claim had been found to be
    shared. -/
theorem isolable_iff (hitem : classify env nb (.vm guest) identity (nb.records .vm) target = .ok item)
    (hmarked : marked = item ∨ marked = make_ambiguous item) {candidate : AdoptionEvidence} :
    Isolable env live_ids marked candidate ↔
      ∃ record, Retains env nb live_ids target guest identity record ∧
        candidate = related_evidence env nb (.vm guest) record := by
  have hclassified := classify_classified hitem
  have hcandidates : marked.candidates = item.candidates := by rcases hmarked with rfl | rfl <;> rfl
  have hkind : marked.object_kind = item.object_kind := by rcases hmarked with rfl | rfl <;> rfl
  have hidentity : marked.identity = item.identity := by rcases hmarked with rfl | rfl <;> rfl
  constructor
  · intro h
    have hsingle : item.candidates = [candidate] := hcandidates.symm.trans h.candidates
    obtain ⟨managed, -, -, rfl⟩ | ⟨-, provided, hsome, hprovided, -⟩ | ⟨hmanaged, rfl⟩ := classify_cases hitem
    · -- the evidence of a managed record carries no signal at all
      rw [classify_managed_candidates, List.map_eq_singleton_iff] at hsingle
      obtain ⟨record, -, rfl⟩ := hsingle
      exact absurd h.signals (by simp)
    · cases hprovided
      exact absurd rfl hsome
    · rw [classify_related_candidates, List.map_eq_singleton_iff] at hsingle
      obtain ⟨record, hrelated, rfl⟩ := hsingle
      have habsent := h.absent
      rw [hidentity, hclassified.identity] at habsent
      exact ⟨record, ⟨(managed_records_eq_ok hmanaged).mp rfl, hrelated, h.signals,
        (managed_conflict_iff nb (.vm guest) record).mp h.managed, habsent⟩, rfl⟩
  · rintro ⟨record, hretains, rfl⟩
    obtain ⟨hrelated, hsingle⟩ := hretains.candidates hitem
    have hconflict : "existing_managed_identity" ∈ conflicts_with nb (.vm guest) record :=
      (managed_conflict_iff nb (.vm guest) record).mpr hretains.managed
    have hambiguous : item.classification = .AMBIGUOUS := by
      rw [hrelated]
      exact classify_related_ambiguous _ _ _ hretains.related (List.ne_nil_of_mem hconflict)
    refine ⟨hkind.trans hclassified.kind, ?_, hcandidates.trans hsingle, hretains.signals, hconflict,
      conflicts_with_subset nb (.vm guest) record, ?_⟩
    · rcases hmarked with rfl | rfl
      · exact hambiguous
      · rfl
    · rw [hidentity, hclassified.identity]
      exact hretains.absent

end

end netbox_sync.esxi_adoption
