import NetboxSync.Lib.Except
import NetboxSync.SyncPlan.Mutations

open json sorting

namespace netbox_sync.sync_plan

open discovery_review planning_netbox source_config

/-- The values are the same but for the clock of the hardware document, which is replaced. -/
def UpToClock (values planned : Fields) : Prop :=
  (∀ key, dict.get planned key = dict.get values key) ∨
    ∃ fields doc observed, dict.get values "custom_fields" = some (.obj fields) ∧
      dict.get fields "hardware_identity" = some (.obj doc) ∧ dict.get doc "observed_at" = some (.str observed) ∧
      ∀ key, dict.get planned key =
        if key = "custom_fields" then
          some (.obj (dict.set fields "hardware_identity" (.obj (dict.set doc "observed_at" FRESH))))
        else dict.get values key

/-- The item is of the mutation: its endpoint, its object and what it writes. -/
structure Records (mutation : PlannedMutation) (item : SyncPlanItem) : Prop where
  endpoint : item.object_kind = mutation.endpoint
  action : item.action = if mutation.operation = .create then .CREATE else .UPDATE
  object : item.matched_object_id = if mutation.operation = .create then none else mutation.object_id
  after : UpToClock mutation.after item.after

def SyncAction.writes : SyncAction → Bool
  | .CREATE | .UPDATE => true
  | _ => false

/-- What a review item becomes when it does not become a write. -/
def carried (item : SyncPlanItem) : SyncPlanItem := if item.action = .CREATE then unsupported item else item

/-- The plan has every mutation once, and every review item or what became of it. -/
structure LosesNothing (review : List SyncPlanItem) (mutations : List PlannedMutation) (plan : SyncPlan) : Prop where
  writes : ∃ written, written.Perm (plan.items.filter (fun item => item.action.writes)) ∧
    List.Forall₂ Records mutations written
  kept : (review.filter (fun item => item.action.kept)).Subperm plan.items
  unchanged : ∀ item ∈ review, item.action = .NO_CHANGE → item ∈ plan.items ∨
    ∃ other ∈ plan.items, other.action = .UPDATE ∧ review_endpoint item.object_kind = some other.object_kind ∧
      other.matched_object_id = item.matched_object_id
  created : ∀ item ∈ review, item.action = .CREATE → unsupported item ∈ plan.items ∨
    ∃ other ∈ plan.items, other.action = .CREATE ∧ review_endpoint item.object_kind = some other.object_kind ∧
      other.external_id = item.external_id
  /-- Every other item is of a review item, at most one of each. -/
  others : (plan.items.filter (fun item => !item.action.writes)).Subperm (review.map carried)
  apply_allowed : plan.apply_allowed = false ↔ ∃ item ∈ review, item.action = .BLOCKED

/-- The mutation lists identities that cannot be iterated over. -/
def Unlisted (mutation : PlannedMutation) : Prop :=
  ∃ fields value, dict.get (dict.update mutation.before mutation.after) "custom_fields" = some (.obj fields) ∧
    dict.get fields "sync_identities" = some value ∧ (value = .null ∨ (∃ b, value = .bool b) ∨ ∃ n, value = .int n)

section

variable {repr : Value → String} {names : String × Option ObjectId → Option String}

theorem planned_after_upToClock (endpoint : String) (values : Fields) :
    UpToClock values (planned_after endpoint values) := by
  unfold planned_after
  split
  next fields hfields =>
    split
    next doc hdoc =>
      split
      next hclocked =>
        rw [Bool.and_eq_true] at hclocked
        have hdocument := hclocked.2
        unfold clocked at hdocument
        rw [Bool.and_eq_true] at hdocument
        split at hdocument
        next observed hobserved =>
          refine .inr ⟨fields, doc, observed, hfields, hdoc, hobserved, fun key => ?_⟩
          rw [dict.get_set]
          by_cases hkey : key = "custom_fields"
          · rw [if_pos hkey.symm, if_pos hkey]
          · rw [if_neg (Ne.symm hkey), if_neg hkey]
        · exact absurd hdocument.2 Bool.false_ne_true
      · exact .inl (fun _ => rfl)
    · exact .inl (fun _ => rfl)
  · exact .inl (fun _ => rfl)

theorem UpToClock.sorted {values planned : Fields} (h : UpToClock values planned) :
    UpToClock values (sorted Prod.fst planned) := by
  unfold UpToClock at h ⊢
  simpa only [dict.get_sorted] using h

variable {mutation : PlannedMutation} {item : SyncPlanItem}

theorem mutation_item_records (h : mutation_item repr names mutation = .ok item) : Records mutation item := by
  unfold mutation_item at h
  rw [Except.bind_eq_ok_iff] at h
  obtain ⟨identities, -, hitem⟩ := h
  cases hitem
  exact ⟨rfl, rfl, rfl, (planned_after_upToClock _ _).sorted⟩

/-- A mutation as the plan takes it: only the clock in `before` may differ. -/
structure Canonical (mutation canonical : PlannedMutation) : Prop where
  operation : canonical.operation = mutation.operation
  endpoint : canonical.endpoint = mutation.endpoint
  object_id : canonical.object_id = mutation.object_id
  after : canonical.after = mutation.after
  before : canonical.before = mutation.before ∨ canonical.before = planned_after mutation.endpoint mutation.before

theorem canonical_before_cases (written : Written) (mutation : PlannedMutation) :
    canonical_before written mutation = mutation.before ∨
      canonical_before written mutation = planned_after mutation.endpoint mutation.before := by
  unfold canonical_before
  split
  · split
    · exact .inr rfl
    · exact .inl rfl
  · exact .inl rfl

theorem canonical_of_baselines (mutations : List PlannedMutation) (written : Written) :
    List.Forall₂ Canonical mutations (canonical_mutation_baselines_from written mutations) := by
  induction mutations generalizing written with
  | nil => exact .nil
  | cons mutation mutations ih =>
    exact .cons ⟨rfl, rfl, rfl, rfl, canonical_before_cases written mutation⟩ (ih _)

theorem Records.of_canonical {canonical : PlannedMutation} (hcanonical : Canonical mutation canonical)
    (h : Records canonical item) : Records mutation item := by
  obtain ⟨hendpoint, haction, hobject, hafter⟩ := h
  rw [hcanonical.endpoint] at hendpoint
  rw [hcanonical.operation] at haction hobject
  rw [hcanonical.object_id] at hobject
  rw [hcanonical.after] at hafter
  exact ⟨hendpoint, haction, hobject, hafter⟩

theorem Records.writes (h : Records mutation item) : item.action.writes = true := by
  rw [h.action]
  split <;> rfl

end

section

variable {review written : List SyncPlanItem}

theorem writes_of_kept {action : SyncAction} (h : action.kept = true) : action.writes = false := by
  cases action <;> first | rfl | cases h

/-- The writes of the stitched items are the items of the mutations. -/
theorem filter_writes_stitched (h : ∀ item ∈ written, item.action.writes = true) :
    (stitched review written).filter (fun item => item.action.writes) = written := by
  have hkept : (review.filter (fun item => item.action.kept)).filter (fun item => item.action.writes) = [] := by
    rw [List.filter_eq_nil_iff]
    intro item hitem
    rw [writes_of_kept (List.mem_filter.mp hitem).2]
    exact Bool.false_ne_true
  have hunsupported : ∀ items : List SyncPlanItem,
      (items.map unsupported).filter (fun item => item.action.writes) = [] := by
    intro items
    rw [List.filter_eq_nil_iff]
    intro item hitem
    obtain ⟨other, -, rfl⟩ := List.mem_map.mp hitem
    exact Bool.false_ne_true
  have hunchanged : ∀ p : SyncPlanItem → Bool, (review.filter (fun item =>
      decide (item.action = .NO_CHANGE) && p item)).filter (fun item => item.action.writes) = [] := by
    intro p
    rw [List.filter_eq_nil_iff]
    intro item hitem
    obtain ⟨-, hitem⟩ := List.mem_filter.mp hitem
    rw [Bool.and_eq_true, decide_eq_true_eq] at hitem
    rw [hitem.1]
    exact Bool.false_ne_true
  unfold stitched
  rw [List.filter_append, List.filter_append, List.filter_append, hkept, hunsupported, hunchanged,
    List.filter_eq_self.mpr h, List.nil_append, List.append_nil, List.append_nil]

/-- Items that are picked by predicates which exclude each other. -/
theorem filter_append_perm_of_excludes {α : Type} {p q : α → Bool} {items : List α}
    (h : ∀ a ∈ items, p a = true → q a = false) :
    (items.filter p ++ items.filter q).Perm (items.filter (fun a => p a || q a)) := by
  induction items with
  | nil => exact .refl _
  | cons a items ih =>
    have ih := ih (fun b hb => h b (List.mem_cons_of_mem _ hb))
    cases hp : p a with
    | true =>
      have hq := h a List.mem_cons_self hp
      simpa [hp, hq] using ih
    | false =>
      cases hq : q a with
      | true => simpa [hp, hq] using List.perm_middle.trans (ih.cons a)
      | false => simpa [hp, hq] using ih

/-- The review items that become something other than a write. -/
def remaining (review items : List SyncPlanItem) : List SyncPlanItem :=
  review.filter (fun item => item.action.kept) ++
    review.filter (fun item => item.action = .CREATE && !created items item) ++
    review.filter (fun item => item.action = .NO_CHANGE && !mutated items item)

theorem remaining_subperm (items : List SyncPlanItem) : (remaining review items).Subperm review := by
  unfold remaining
  have hcreate : ∀ item ∈ review, item.action.kept = true →
      (decide (item.action = .CREATE) && !created items item) = false := by
    intro item _ hkept
    rw [Bool.and_eq_false_iff, decide_eq_false_iff_not]
    left
    intro haction
    rw [haction] at hkept
    cases hkept
  have hunchanged : ∀ item ∈ review,
      (item.action.kept || (decide (item.action = .CREATE) && !created items item)) = true →
        (decide (item.action = .NO_CHANGE) && !mutated items item) = false := by
    intro item _ hitem
    rw [Bool.and_eq_false_iff, decide_eq_false_iff_not]
    left
    intro haction
    rw [haction] at hitem
    cases hitem
  have hperm := (List.Perm.append_right _ (filter_append_perm_of_excludes hcreate)).trans
    (filter_append_perm_of_excludes hunchanged)
  exact hperm.subperm.trans List.filter_sublist.subperm

/-- The other stitched items are of review items, each of them at most once. -/
theorem filter_others_stitched (h : ∀ item ∈ written, item.action.writes = true) :
    ((stitched review written).filter (fun item => !item.action.writes)).Subperm (review.map carried) := by
  have hothers : (stitched review written).filter (fun item => !item.action.writes) =
      (remaining review (review.filter (fun item => item.action.kept) ++ written)).map carried := by
    have hkept : ∀ item ∈ review.filter (fun item => item.action.kept),
        (!item.action.writes) = true ∧ carried item = item := by
      intro item hitem
      have hitem := (List.mem_filter.mp hitem).2
      rw [writes_of_kept hitem]
      refine ⟨rfl, if_neg (fun haction => ?_)⟩
      rw [haction] at hitem
      cases hitem
    have hcreate : ∀ p : SyncPlanItem → Bool, ∀ item ∈ review.filter (fun item =>
        decide (item.action = .CREATE) && p item), carried item = unsupported item := by
      intro p item hitem
      have hitem := (List.mem_filter.mp hitem).2
      rw [Bool.and_eq_true, decide_eq_true_eq] at hitem
      exact if_pos hitem.1
    have hunchanged : ∀ p : SyncPlanItem → Bool, ∀ item ∈ review.filter (fun item =>
        decide (item.action = .NO_CHANGE) && p item), (!item.action.writes) = true ∧ carried item = item := by
      intro p item hitem
      have hitem := (List.mem_filter.mp hitem).2
      rw [Bool.and_eq_true, decide_eq_true_eq] at hitem
      unfold carried
      rw [hitem.1]
      exact ⟨rfl, rfl⟩
    have hself : ∀ items : List SyncPlanItem, (∀ item ∈ items, carried item = item) → items.map carried = items := by
      intro items hitems
      rw [List.map_congr_left hitems, List.map_id']
    have hwritten : written.filter (fun item => !item.action.writes) = [] := by
      rw [List.filter_eq_nil_iff]
      intro item hitem
      rw [h item hitem]
      exact Bool.false_ne_true
    have hunsupported : ∀ items : List SyncPlanItem,
        (items.map unsupported).filter (fun item => !item.action.writes) = items.map unsupported := by
      intro items
      rw [List.filter_eq_self]
      intro item hitem
      obtain ⟨other, -, rfl⟩ := List.mem_map.mp hitem
      rfl
    unfold stitched remaining
    dsimp only
    rw [List.filter_append, List.filter_append, List.filter_append, List.map_append, List.map_append, hwritten,
      hunsupported, List.append_nil, hself _ (fun item hitem => (hkept item hitem).2),
      List.filter_eq_self.mpr (fun item hitem => (hkept item hitem).1), List.map_congr_left (hcreate _),
      hself _ (fun item hitem => (hunchanged _ item hitem).2),
      List.filter_eq_self.mpr (fun item hitem => (hunchanged _ item hitem).1)]
  rw [hothers]
  obtain ⟨items, hperm, hsub⟩ := @remaining_subperm review (review.filter (fun item => item.action.kept) ++ written)
  exact ⟨items.map carried, hperm.map carried, hsub.map carried⟩

theorem mem_stitched_of_kept (hitem : item ∈ review) (h : item.action.kept = true) : item ∈ stitched review written :=
  List.mem_append_left _ (List.mem_append_left _ (List.mem_append_left _ (List.mem_filter.mpr ⟨hitem, h⟩)))

theorem kept_subperm_stitched : (review.filter (fun item => item.action.kept)).Subperm (stitched review written) := by
  unfold stitched
  refine List.Sublist.subperm ?_
  exact (List.sublist_append_left _ _).trans ((List.sublist_append_left _ _).trans (List.sublist_append_left _ _))

end

section

variable {repr : Value → String} {names : String × Option ObjectId → Option String}

theorem identities_of_get {fields other : Fields}
    (h : dict.get fields "custom_fields" = dict.get other "custom_fields") : identities fields = identities other := by
  unfold identities
  rw [h]

/-- The clock is not among the identities. -/
theorem identities_planned_after (endpoint : String) (values after : Fields) :
    identities (dict.update (planned_after endpoint values) after) = identities (dict.update values after) := by
  rcases dict.get_update_cases after "custom_fields" with ⟨value, hvalue⟩ | hsame
  · exact identities_of_get ((hvalue _).trans (hvalue _).symm)
  · rcases planned_after_upToClock endpoint values with hget | ⟨fields, doc, observed, hfields, -, -, hget⟩
    · exact identities_of_get (by rw [hsame, hsame, hget])
    · have hget := hget "custom_fields"
      rw [if_pos rfl] at hget
      unfold identities
      rw [hsame, hsame, hget, hfields]
      dsimp only
      rw [dict.get_set_of_ne _ _ (by decide)]

theorem Canonical.identities {canonical : PlannedMutation} (h : Canonical mutation canonical) :
    sync_plan.identities (dict.update canonical.before canonical.after) =
      sync_plan.identities (dict.update mutation.before mutation.after) := by
  rw [h.after]
  rcases h.before with hbefore | hbefore
  · rw [hbefore]
  · rw [hbefore, identities_planned_after]

theorem unlisted_of_error {error : String}
    (h : identities (dict.update mutation.before mutation.after) = .error error) :
    error = "TypeError" ∧ Unlisted mutation := by
  unfold identities at h
  split at h
  next fields hfields =>
    cases hvalue : dict.get fields "sync_identities" with
    | none =>
      rw [hvalue] at h
      cases h
    | some value =>
      rw [hvalue, Option.getD_some] at h
      have hunlisted : value = .null ∨ (∃ b, value = .bool b) ∨ (∃ n, value = .int n) → Unlisted mutation :=
        fun hcases => ⟨fields, value, hfields, hvalue, hcases⟩
      cases value with
      | null => exact ⟨(Except.error.inj h).symm, hunlisted (.inl rfl)⟩
      | bool b => exact ⟨(Except.error.inj h).symm, hunlisted (.inr (.inl ⟨b, rfl⟩))⟩
      | int n => exact ⟨(Except.error.inj h).symm, hunlisted (.inr (.inr ⟨n, rfl⟩))⟩
      | str _ => cases h
      | arr _ => cases h
      | obj _ => cases h
  · cases h

/-- Every mutation has an item, unless the identities of one cannot be iterated over. -/
theorem mapM_mutation_item {mutations canonical : List PlannedMutation}
    (h : List.Forall₂ Canonical mutations canonical) :
    (∃ written, canonical.mapM (mutation_item repr names) = .ok written ∧ List.Forall₂ Records mutations written) ∨
      canonical.mapM (mutation_item repr names) = .error "TypeError" ∧ ∃ mutation ∈ mutations, Unlisted mutation := by
  induction h with
  | nil => exact .inl ⟨[], rfl, .nil⟩
  | @cons mutation canonical mutations rest hcanonical _ ih =>
    rw [List.mapM_cons]
    cases hitem : mutation_item repr names canonical with
    | error error =>
      unfold mutation_item at hitem
      cases hidentities : identities (dict.update canonical.before canonical.after) with
      | ok found =>
        rw [hidentities] at hitem
        cases hitem
      | error code =>
        rw [hidentities] at hitem
        cases hitem
        rw [hcanonical.identities] at hidentities
        obtain ⟨rfl, hunlisted⟩ := unlisted_of_error hidentities
        exact .inr ⟨rfl, mutation, List.mem_cons_self, hunlisted⟩
    | ok item =>
      have hrecords := (mutation_item_records hitem).of_canonical hcanonical
      rcases ih with ⟨written, hwritten, hall⟩ | ⟨herror, other, hother, hunlisted⟩
      · rw [hwritten]
        exact .inl ⟨item :: written, rfl, .cons hrecords hall⟩
      · rw [herror]
        exact .inr ⟨rfl, other, List.mem_cons_of_mem _ hother, hunlisted⟩

end

section

variable {review written : List SyncPlanItem}

theorem created_or_unsupported (hitem : item ∈ review) (haction : item.action = .CREATE) :
    unsupported item ∈ stitched review written ∨ ∃ other ∈ stitched review written, other.action = .CREATE ∧
      review_endpoint item.object_kind = some other.object_kind ∧ other.external_id = item.external_id := by
  cases hcreated : created (review.filter (fun item => item.action.kept) ++ written) item with
  | true =>
    right
    unfold created at hcreated
    rw [List.any_eq_true] at hcreated
    obtain ⟨other, hother, hsame⟩ := hcreated
    rw [Bool.and_eq_true, decide_eq_true_eq, decide_eq_true_eq, Prod.mk.injEq] at hsame
    exact ⟨other, List.mem_append_left _ (List.mem_append_left _ hother), hsame.1, hsame.2.1.symm, hsame.2.2⟩
  | false =>
    left
    refine List.mem_append_left _ (List.mem_append_right _ (List.mem_map_of_mem (List.mem_filter.mpr ⟨hitem, ?_⟩)))
    rw [haction, hcreated]
    rfl

theorem unchanged_or_mutated (hitem : item ∈ review) (haction : item.action = .NO_CHANGE) :
    item ∈ stitched review written ∨ ∃ other ∈ stitched review written, other.action = .UPDATE ∧
      review_endpoint item.object_kind = some other.object_kind ∧
      other.matched_object_id = item.matched_object_id := by
  cases hmutated : mutated (review.filter (fun item => item.action.kept) ++ written) item with
  | true =>
    right
    unfold mutated at hmutated
    rw [List.any_eq_true] at hmutated
    obtain ⟨other, hother, hsame⟩ := hmutated
    rw [Bool.and_eq_true, decide_eq_true_eq, decide_eq_true_eq, Prod.mk.injEq] at hsame
    exact ⟨other, List.mem_append_left _ (List.mem_append_left _ hother), hsame.1, hsame.2.1.symm, hsame.2.2⟩
  | false =>
    left
    refine List.mem_append_right _ (List.mem_filter.mpr ⟨hitem, ?_⟩)
    rw [haction, hmutated]
    rfl

/-- Only review items block a plan. -/
theorem blocked_stitched_iff (h : ∀ item ∈ written, item.action.writes = true) :
    (∃ item ∈ stitched review written, item.action = .BLOCKED) ↔ ∃ item ∈ review, item.action = .BLOCKED := by
  constructor
  · rintro ⟨item, hitem, haction⟩
    unfold stitched at hitem
    rcases List.mem_append.mp hitem with hitem | hitem
    · rcases List.mem_append.mp hitem with hitem | hitem
      · rcases List.mem_append.mp hitem with hitem | hitem
        · exact ⟨item, (List.mem_filter.mp hitem).1, haction⟩
        · have hwrites := h item hitem
          rw [haction] at hwrites
          cases hwrites
      · obtain ⟨other, -, rfl⟩ := List.mem_map.mp hitem
        cases haction
    · exact ⟨item, (List.mem_filter.mp hitem).1, haction⟩
  · rintro ⟨item, hitem, haction⟩
    exact ⟨item, mem_stitched_of_kept hitem (by rw [haction]; rfl), haction⟩

end

end netbox_sync.sync_plan
