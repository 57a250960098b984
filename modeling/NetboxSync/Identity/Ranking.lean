import NetboxSync.Identity.Model

open json

namespace netbox_sync.source_identity

/-- The candidates no other candidate outranks, if they have a rank at all. -/
def topRanked {α : Type} (rank : α → Nat) (candidates : List α) : List α :=
  candidates.filter (fun c => rank c ≠ 0 ∧ ∀ d ∈ candidates, rank d ≤ rank c)

/-- What the selection loop knows after the candidates it has seen. -/
structure BestSoFar {α : Type} (rank : α → Nat) (seen : List α) (best_rank : Nat) (found : List α) : Prop where
  found_eq : found = topRanked rank seen
  le_best : ∀ c ∈ seen, rank c ≤ best_rank
  attained : best_rank = 0 ∨ ∃ c ∈ seen, rank c = best_rank

section

variable {α : Type} {rank : α → Nat} {seen found : List α} {best_rank : Nat}

section

variable (h : BestSoFar rank seen best_rank found)
include h

theorem BestSoFar.outranked {c : α} (hc : rank c > best_rank) : BestSoFar rank (seen ++ [c]) (rank c) [c] := by
  have hle : ∀ d ∈ seen ++ [c], rank d ≤ rank c := by
    intro d hd
    rcases List.mem_append.mp hd with hd | hd
    · exact Nat.le_of_lt (Nat.lt_of_le_of_lt (h.le_best d hd) hc)
    · rw [List.mem_singleton.mp hd]
  refine ⟨?_, hle, .inr ⟨c, by simp, rfl⟩⟩
  have hseen : seen.filter (fun d => rank d ≠ 0 ∧ ∀ e ∈ seen ++ [c], rank e ≤ rank d) = [] := by
    rw [List.filter_eq_nil_iff]
    intro d hd
    have hlt := h.le_best d hd
    simp only [decide_eq_true_eq, not_and, not_forall]
    intro _
    exact ⟨c, by simp, by omega⟩
  have hpos : rank c ≠ 0 := by omega
  have hlast : [c].filter (fun d => rank d ≠ 0 ∧ ∀ e ∈ seen ++ [c], rank e ≤ rank d) = [c] :=
    List.filter_eq_self.mpr (fun d hd => by
      rw [List.mem_singleton.mp hd]
      exact decide_eq_true ⟨hpos, hle⟩)
  rw [topRanked, List.filter_append, hseen, List.nil_append, hlast]

theorem BestSoFar.tied {c : α} (hpos : rank c ≠ 0) (hc : rank c = best_rank) :
    BestSoFar rank (seen ++ [c]) best_rank (found ++ [c]) := by
  have hle : ∀ d ∈ seen ++ [c], rank d ≤ rank c := by
    intro d hd
    rcases List.mem_append.mp hd with hd | hd
    · exact hc ▸ h.le_best d hd
    · rw [List.mem_singleton.mp hd]
  refine ⟨?_, hc ▸ hle, .inr ⟨c, by simp, hc⟩⟩
  have hlast : [c].filter (fun d => rank d ≠ 0 ∧ ∀ e ∈ seen ++ [c], rank e ≤ rank d) = [c] :=
    List.filter_eq_self.mpr (fun d hd => by
      rw [List.mem_singleton.mp hd]
      exact decide_eq_true ⟨hpos, hle⟩)
  rw [topRanked, List.filter_append, hlast, h.found_eq, topRanked]
  congr 1
  refine List.filter_congr (fun d hd => ?_)
  have hattained := h.attained
  simp only [decide_eq_decide, and_congr_right_iff]
  intro _
  constructor
  · intro hall e he
    rcases List.mem_append.mp he with he | he
    · exact hall e he
    · rcases hattained with hzero | ⟨b, hb, hbest⟩
      · omega
      · rw [List.mem_singleton.mp he, hc, ← hbest]
        exact hall b hb
  · exact fun hall e he => hall e (List.mem_append_left _ he)

theorem BestSoFar.passed {c : α} (hle : rank c ≤ best_rank) (hc : ¬ (rank c ≠ 0 ∧ rank c = best_rank)) :
    BestSoFar rank (seen ++ [c]) best_rank found := by
  refine ⟨?_, ?_, ?_⟩
  · have hlast : [c].filter (fun d => rank d ≠ 0 ∧ ∀ e ∈ seen ++ [c], rank e ≤ rank d) = [] := by
      rw [List.filter_eq_nil_iff]
      intro d hd
      rw [List.mem_singleton.mp hd]
      simp only [decide_eq_true_eq, not_and, not_forall]
      intro hpos
      rcases h.attained with hzero | ⟨b, hb, hbest⟩
      · omega
      · exact ⟨b, by simp [hb], by omega⟩
    rw [topRanked, List.filter_append, hlast, List.append_nil, h.found_eq, topRanked]
    refine List.filter_congr (fun d hd => ?_)
    simp only [decide_eq_decide, and_congr_right_iff]
    intro hpos
    constructor
    · intro hall e he
      rcases List.mem_append.mp he with he | he
      · exact hall e he
      · rw [List.mem_singleton.mp he]
        rcases h.attained with hzero | ⟨b, hb, hbest⟩
        · omega
        · exact Nat.le_trans hle (hbest ▸ hall b hb)
    · exact fun hall e he => hall e (List.mem_append_left _ he)
  · intro d hd
    rcases List.mem_append.mp hd with hd | hd
    · exact h.le_best d hd
    · rwa [List.mem_singleton.mp hd]
  · rcases h.attained with hzero | ⟨b, hb, hbest⟩
    · exact .inl hzero
    · exact .inr ⟨b, by simp [hb], hbest⟩

theorem select_loop_eq {ranker : α → Except String Nat} {candidates : List α}
    (hrank : ∀ c ∈ candidates, ranker c = .ok (rank c)) :
    select_loop ranker best_rank found candidates = .ok (topRanked rank (seen ++ candidates)) := by
  induction candidates generalizing seen best_rank found with
  | nil => rw [select_loop, h.found_eq, List.append_nil]
  | cons c candidates ih =>
    have hrest : ∀ d ∈ candidates, ranker d = .ok (rank d) := fun d hd => hrank d (by simp [hd])
    have hsplit : seen ++ c :: candidates = seen ++ [c] ++ candidates := by simp
    rw [select_loop, hrank c (by simp), hsplit]
    dsimp only
    split
    · next hgt => exact ih (h.outranked hgt) hrest
    · next hle =>
      split
      · next htie => exact ih (h.tied htie.1 htie.2) hrest
      · next hpass => exact ih (h.passed (Nat.not_lt.mp hle) hpass) hrest

end

/-- The selection returns the top-ranked candidates, in order. -/
theorem select_best_identity_matches_eq {ranker : α → Except String Nat} {candidates : List α}
    (hrank : ∀ c ∈ candidates, ranker c = .ok (rank c)) :
    select_best_identity_matches candidates ranker = .ok (topRanked rank candidates) :=
  select_loop_eq (⟨rfl, by simp, .inl rfl⟩ : BestSoFar rank [] 0 []) hrank

theorem select_loop_ok {ranker : α → Except String Nat} {candidates owners : List α}
    (h : select_loop ranker best_rank found candidates = .ok owners) :
    ∀ c ∈ candidates, ∃ value, ranker c = .ok value := by
  induction candidates generalizing best_rank found with
  | nil => simp
  | cons c candidates ih =>
    unfold select_loop at h
    cases hrank : ranker c with
    | error error =>
      rw [hrank] at h
      cases h
    | ok value =>
      rw [hrank] at h
      dsimp only at h
      intro d hd
      rcases List.mem_cons.mp hd with rfl | hd
      · exact ⟨value, hrank⟩
      · split at h
        · exact ih h d hd
        · split at h <;> exact ih h d hd

/-- A selection that succeeds returns the top-ranked candidates for every ranking that agrees with the computed ranks.
    -/
theorem select_best_identity_matches_ok {ranker : α → Except String Nat} {candidates owners : List α}
    (hrank : ∀ c value, ranker c = .ok value → value = rank c)
    (h : select_best_identity_matches candidates ranker = .ok owners) : owners = topRanked rank candidates := by
  have hranked : ∀ c ∈ candidates, ranker c = .ok (rank c) := by
    intro c hc
    obtain ⟨value, hvalue⟩ := select_loop_ok h c hc
    rw [hvalue, hrank c value hvalue]
  rw [select_best_identity_matches_eq hranked] at h
  exact (Except.ok.inj h).symm

/-- A selection succeeds where every candidate has a rank. -/
theorem select_best_identity_matches_total {ranker : α → Except String Nat} {candidates : List α}
    (h : ∀ c ∈ candidates, ∃ value, ranker c = .ok value) :
    ∃ owners, select_best_identity_matches candidates ranker = .ok owners := by
  have hrank : ∀ c ∈ candidates, ranker c = .ok ((ranker c).toOption.getD 0) := by
    intro c hc
    obtain ⟨value, hvalue⟩ := h c hc
    rw [hvalue]
    rfl
  exact ⟨_, select_best_identity_matches_eq hrank⟩

theorem select_best_identity_matches_subset {ranker : α → Except String Nat}
    {candidates owners : List α} (h : select_best_identity_matches candidates ranker = .ok owners) :
    ∀ c ∈ owners, c ∈ candidates := by
  have hrank : ∀ c value, ranker c = .ok value → value = (ranker c).toOption.getD 0 := by
    intro c value hvalue
    rw [hvalue]
    rfl
  rw [select_best_identity_matches_ok hrank h]
  exact fun c hc => (List.mem_filter.mp hc).1

theorem select_loop_map {β : Type} (f : α → β) (ranker : β → Except String Nat) (candidates : List α) :
    select_loop ranker best_rank (found.map f) (candidates.map f) =
      (select_loop (fun c => ranker (f c)) best_rank found candidates).map (List.map f) := by
  induction candidates generalizing best_rank found with
  | nil => rfl
  | cons c candidates ih =>
    rw [List.map_cons, select_loop, select_loop]
    cases ranker (f c) with
    | error error => rfl
    | ok rank =>
      dsimp only
      split
      · rw [← ih, List.map_singleton]
      · split
        · rw [← ih, List.map_append, List.map_singleton]
        · rw [← ih]

/-- A selection sees only what the ranks are computed from. -/
theorem select_best_identity_matches_map {β : Type} (f : α → β) (ranker : β → Except String Nat)
    (candidates : List α) :
    select_best_identity_matches (candidates.map f) ranker =
      (select_best_identity_matches candidates (fun c => ranker (f c))).map (List.map f) := by
  unfold select_best_identity_matches
  rw [← select_loop_map, List.map_nil]

/-- With two ranks only, the top-ranked are the higher ones, or the lower ones where no candidate is higher. -/
theorem topRanked_two_levels {candidates : List α} {high low : α → Bool} :
    topRanked (fun c => if high c then V2_IDENTITY_MATCH
        else if low c then LEGACY_IDENTITY_MATCH else NO_IDENTITY_MATCH) candidates =
      if candidates.filter high = [] then candidates.filter low else candidates.filter high := by
  rw [topRanked]
  split
  · next hnone =>
    rw [List.filter_eq_nil_iff] at hnone
    refine List.filter_congr (fun c hc => ?_)
    have hle : ∀ d ∈ candidates, (if high d then V2_IDENTITY_MATCH
        else if low d then LEGACY_IDENTITY_MATCH else NO_IDENTITY_MATCH) ≤ LEGACY_IDENTITY_MATCH := by
      intro d hd
      rw [if_neg (hnone d hd)]
      split <;> decide
    rw [if_neg (hnone c hc)]
    cases hlow : low c with
    | true => simpa [LEGACY_IDENTITY_MATCH] using hle
    | false => simp [NO_IDENTITY_MATCH]
  · next hsome =>
    obtain ⟨top, htop⟩ := List.exists_mem_of_ne_nil _ hsome
    obtain ⟨hmem, hhigh⟩ := List.mem_filter.mp htop
    refine List.filter_congr (fun c _ => ?_)
    have hle : ∀ d, (if high d then V2_IDENTITY_MATCH
        else if low d then LEGACY_IDENTITY_MATCH else NO_IDENTITY_MATCH) ≤ V2_IDENTITY_MATCH := by
      intro d
      split
      · exact Nat.le_refl _
      · split <;> decide
    cases hc : high c with
    | true => simpa [V2_IDENTITY_MATCH] using fun d _ => hle d
    | false =>
      simp only [decide_eq_false_iff_not, not_and, not_forall, Bool.false_eq_true, if_false]
      intro _
      refine ⟨top, hmem, ?_⟩
      rw [if_pos hhigh]
      split <;> decide

end

section

variable (repr : Value → String)

/-- The records of an object, none where the field is no list. -/
def identityRecords (custom_fields : Fields) : List Value := (sync_identities custom_fields).getD []

/-- The object holds a v2 record that reads as the identity. -/
def holdsV2 (desired : SourceIdentity) (custom_fields : Fields) : Bool :=
  (identityRecords custom_fields).any (fun value => decide (from_record repr value = .ok (some desired)))

/-- The object holds a legacy record of one of the ids. -/
def holdsLegacy (desired : SourceIdentity) (legacy_source_ids : List String) (custom_fields : Fields) : Bool :=
  (identityRecords custom_fields).any (legacy_identity repr desired legacy_source_ids)

/-- No v2 record of the object is malformed. -/
def Readable (custom_fields : Fields) : Prop :=
  ∀ value ∈ identityRecords custom_fields, ∃ parsed, from_record repr value = .ok parsed

/-- The rank of an object whose records are all readable. -/
def identityRank (desired : SourceIdentity) (legacy_source_ids : List String)
    (legacy_identity_owner : Bool) (custom_fields : Fields) : Nat :=
  if holdsV2 repr desired custom_fields then V2_IDENTITY_MATCH
  else if legacy_identity_owner && holdsLegacy repr desired legacy_source_ids custom_fields then
    LEGACY_IDENTITY_MATCH
  else NO_IDENTITY_MATCH

end

section

variable {repr : Value → String}

theorem has_v2_identity_eq {desired : SourceIdentity} {values : List Value}
    (h : ∀ value ∈ values, ∃ parsed, from_record repr value = .ok parsed) :
    has_v2_identity repr desired values =
      .ok (values.any (fun value => decide (from_record repr value = .ok (some desired)))) := by
  induction values with
  | nil => rfl
  | cons value values ih =>
    obtain ⟨parsed, hparsed⟩ := h value (by simp)
    rw [has_v2_identity, hparsed, List.any_cons, hparsed]
    by_cases heq : parsed = some desired
    · simp [heq]
    · simp [heq, ih (fun v hv => h v (by simp [hv]))]

/-- A scan that succeeds knows whether one of the records is the identity. -/
theorem has_v2_identity_ok {desired : SourceIdentity} {values : List Value} {held : Bool}
    (h : has_v2_identity repr desired values = .ok held) :
    held = values.any (fun value => decide (from_record repr value = .ok (some desired))) := by
  induction values with
  | nil =>
    cases h
    rfl
  | cons value values ih =>
    unfold has_v2_identity at h
    cases hparsed : from_record repr value with
    | error error =>
      rw [hparsed] at h
      cases h
    | ok parsed =>
      rw [hparsed] at h
      dsimp only at h
      rw [List.any_cons, hparsed]
      split at h
      · next hsame =>
        cases h
        simp [hsame]
      · next hother =>
        rw [ih h]
        simp [hother]

theorem source_identity_match_rank_eq {custom_fields : Fields} (h : Readable repr custom_fields)
    (desired : SourceIdentity) (legacy_source_ids : List String) (legacy_identity_owner : Bool) :
    source_identity_match_rank repr custom_fields desired legacy_source_ids legacy_identity_owner =
      .ok (identityRank repr desired legacy_source_ids legacy_identity_owner custom_fields) := by
  cases hids : sync_identities custom_fields with
  | none =>
    simp [source_identity_match_rank, hids, identityRank, holdsV2, holdsLegacy, identityRecords]
  | some identities =>
    have hrecords : identityRecords custom_fields = identities := by simp [identityRecords, hids]
    rw [Readable, hrecords] at h
    simp only [source_identity_match_rank, hids, has_v2_identity_eq h, identityRank, holdsV2, holdsLegacy, hrecords]
    cases identities.any (fun value => decide (from_record repr value = .ok (some desired))) <;>
      cases identities.any (legacy_identity repr desired legacy_source_ids) <;>
      cases legacy_identity_owner <;> rfl

theorem source_identity_match_rank_ok {custom_fields : Fields} {desired : SourceIdentity}
    {legacy_source_ids : List String} {legacy_identity_owner : Bool} {rank : Nat}
    (h : source_identity_match_rank repr custom_fields desired legacy_source_ids legacy_identity_owner = .ok rank) :
    rank = identityRank repr desired legacy_source_ids legacy_identity_owner custom_fields := by
  unfold source_identity_match_rank at h
  cases hids : sync_identities custom_fields with
  | none =>
    rw [hids] at h
    cases h
    simp [identityRank, holdsV2, holdsLegacy, identityRecords, hids]
  | some identities =>
    have hrecords : identityRecords custom_fields = identities := by simp [identityRecords, hids]
    rw [hids] at h
    dsimp only at h
    cases hheld : has_v2_identity repr desired identities with
    | error error =>
      rw [hheld] at h
      cases h
    | ok held =>
      have hany := has_v2_identity_ok hheld
      rw [hheld] at h
      simp only [identityRank, holdsV2, holdsLegacy, hrecords, ← hany]
      cases held with
      | true =>
        cases h
        rfl
      | false =>
        dsimp only at h
        cases legacy_identity_owner with
        | false =>
          cases h
          rfl
        | true =>
          simp only [Bool.not_true, Bool.false_eq_true, if_false, Bool.true_and] at h ⊢
          split at h <;> simp_all

/-- A record equal to the one an identity writes reads as that identity. -/
theorem from_record_of_eq {id : SourceIdentity} {value : Value} (h : id.to_record.eq value = true) :
    from_record repr value = .ok (some id) := by
  have hnormal := Value.eq_iff.mp h
  obtain ⟨fields, rfl⟩ := normal_eq_obj hnormal
  have hschema := get_str_of_normal_eq hnormal "schema" rfl
  have htype := get_str_of_normal_eq hnormal "type" rfl
  have hinstance := get_str_of_normal_eq hnormal "instance" rfl
  have hkind := get_str_of_normal_eq hnormal "kind" rfl
  have hexternal := get_str_of_normal_eq hnormal "external_id" rfl
  simp only [from_record, hschema, htype, hinstance, hkind, hexternal, Value.pystr, ne_eq,
    not_true, if_false, SourceIdentity.build_self]

end

end netbox_sync.source_identity
