import NetboxSync.SyncPlan.Model

open json sorting

namespace netbox_sync.sync_plan

open inventory_conflicts

/-- The same conflict with its participants in any order. -/
structure ReorderedConflict (c d : InventoryConflict) : Prop where
  kind : c.kind = d.kind
  value : c.value = d.value
  participants : c.participants.Perm d.participants

/-- The same plan with its items, its conflicts and the participants of each conflict in any order. -/
structure SyncPlan.Reordered (p q : SyncPlan) : Prop where
  header : p.SameHeader q
  items : p.items.Perm q.items
  conflicts : Permuted ReorderedConflict p.conflicts q.conflicts

/-- Items that tie on the four sort fields are the same JSON value. -/
def SyncPlan.TiesAgree (p : SyncPlan) : Prop :=
  ∀ a ∈ p.items, ∀ b ∈ p.items, item_key a = item_key b → a.content = b.content

theorem participant_key_injective : Function.Injective participant_key :=
  fun _ _ h => ConflictParticipant.faithful ((dumps_sorted_inj _).mp h)

theorem conflict_key_injective : Function.Injective conflict_key :=
  fun _ _ h => InventoryConflict.faithful ((dumps_sorted_inj _).mp h)

theorem canonical_conflict_eq {c d : InventoryConflict} (h : ReorderedConflict c d) :
    canonical_conflict c = canonical_conflict d := by
  have hsorted := sorted_eq_of_perm_of_injective participant_key_injective h.participants
  rw [canonical_conflict, canonical_conflict, hsorted, h.kind, h.value]

theorem SyncPlan.Reordered.canonical_conflicts_eq {p q : SyncPlan} (h : p.Reordered q) :
    p.canonical_conflicts = q.canonical_conflicts :=
  sorted_map_eq_of_permuted conflict_key_injective h.conflicts canonical_conflict_eq

theorem SyncPlan.Reordered.apply_allowed_eq {p q : SyncPlan} (h : p.Reordered q) :
    p.apply_allowed = q.apply_allowed := by
  rw [SyncPlan.apply_allowed, SyncPlan.apply_allowed, h.items.any_eq]

/-- Only the items can leak the order of a plan into its canonical text. -/
theorem SyncPlan.Reordered.canonical_json_eq_iff {p q : SyncPlan} (h : p.Reordered q) :
    p.canonical_json = q.canonical_json ↔
      p.canonical_items.map SyncPlanItem.content = q.canonical_items.map SyncPlanItem.content := by
  rw [SyncPlan.canonical_json_inj]
  constructor
  · exact fun hjson => hjson.2.2.1
  · exact fun hitems => ⟨h.header, h.apply_allowed_eq, hitems, h.canonical_conflicts_eq⟩

/-- The plan with its items replaced by a permutation of them. -/
theorem SyncPlan.reordered_of_items {p : SyncPlan} {items : List SyncPlanItem}
    (hperm : p.items.Perm items) : p.Reordered { p with items := items } where
  header := ⟨rfl, rfl, rfl, rfl, rfl, rfl, rfl, rfl, rfl⟩
  items := hperm
  conflicts := permuted_of_perm (fun _ => ⟨rfl, rfl, .refl _⟩) (.refl _)

/-- The contents of the items with one key come out of the sort in the order they went in. -/
theorem filter_canonical_items (p : SyncPlan) (key : String ×ₗ String ×ₗ String ×ₗ String) :
    (p.canonical_items.map SyncPlanItem.content).filter (fun item => item_key item = key) =
      (p.items.filter (fun item => item_key item = key)).map SyncPlanItem.content := by
  rw [List.filter_map, SyncPlan.canonical_items]
  exact congrArg (List.map SyncPlanItem.content) (filter_sorted item_key key p.items)

/-- If no order of the items shows, tied items are the same JSON value: put the two tied items first, once in either
    order. -/
theorem SyncPlan.tiesAgree_of_order_hidden {p : SyncPlan}
    (h : ∀ q, p.Reordered q → q.canonical_json = p.canonical_json) : p.TiesAgree := by
  intro a ha b hb hkey
  by_contra hne
  have hab : b ≠ a := fun heq => hne (by rw [heq])
  have hrest : b ∈ p.items.erase a := (List.mem_erase_of_ne hab).mpr hb
  have hperm : p.items.Perm (a :: b :: (p.items.erase a).erase b) :=
    (List.perm_cons_erase ha).trans ((List.perm_cons_erase hrest).cons a)
  have hjson := (h _ (reordered_of_items hperm)).trans
    (h _ (reordered_of_items (hperm.trans (List.Perm.swap b a _)))).symm
  have hitems := (SyncPlan.canonical_json_inj.mp hjson).2.2.1
  have hfilter := congrArg (List.filter (fun item => item_key item = item_key a)) hitems
  rw [filter_canonical_items, filter_canonical_items] at hfilter
  simp [hkey] at hfilter
  exact hne hfilter.1

/-- The order of a plan's items, conflicts and participants is hidden from its canonical text and digest exactly when
    items that tie on the sort fields are the same JSON value. -/
theorem canonical_json_hides_order_iff (sha256 : String → String) (p : SyncPlan) :
    (∀ q, p.Reordered q → q.canonical_json = p.canonical_json ∧ q.digest sha256 = p.digest sha256) ↔ p.TiesAgree := by
  constructor
  · exact fun h => SyncPlan.tiesAgree_of_order_hidden (fun q hq => (h q hq).1)
  · intro hties q hq
    have hitems := map_sorted_eq_of_perm hq.items SyncPlanItem.content hties
    have hjson := (hq.canonical_json_eq_iff.mpr hitems).symm
    exact ⟨hjson, congrArg sha256 hjson⟩

/-- Two updates of one device: equal on the sort fields, different in what they write. -/
def renameUpdate (before after : String) : SyncPlanItem :=
  { object_kind := "dcim.devices", external_id := "7", name := after, action := .UPDATE,
    reason_code := "GUARDED_EXECUTOR_ACTION",
    reason := "Existing guarded executor would perform this managed-field mutation.",
    matched_object_id := some (.int 7), before := [("name", .str before)],
    after := [("name", .str after)] }

def tiedPlan (items : List SyncPlanItem) : SyncPlan :=
  { source_instance := "proxmox-1", source_id := "1", source_type := "proxmox",
    source_fingerprint := "", target_fingerprint := "", provider_fingerprint := "",
    netbox_fingerprint := "", items := items }

/-- Swapping the two updates changes the canonical text, and the digest under any collision-free hash. -/
theorem tied_updates_leak_order :
    (tiedPlan [renameUpdate "a" "b", renameUpdate "b" "c"]).Reordered
        (tiedPlan [renameUpdate "b" "c", renameUpdate "a" "b"]) ∧
      (tiedPlan [renameUpdate "a" "b", renameUpdate "b" "c"]).canonical_json ≠
        (tiedPlan [renameUpdate "b" "c", renameUpdate "a" "b"]).canonical_json ∧
      ∀ sha256 : String → String, Function.Injective sha256 →
        (tiedPlan [renameUpdate "a" "b", renameUpdate "b" "c"]).digest sha256 ≠
          (tiedPlan [renameUpdate "b" "c", renameUpdate "a" "b"]).digest sha256 := by
  have hjson : (tiedPlan [renameUpdate "a" "b", renameUpdate "b" "c"]).canonical_json ≠
      (tiedPlan [renameUpdate "b" "c", renameUpdate "a" "b"]).canonical_json := by
    rw [ne_eq, SyncPlan.canonical_json_inj]
    exact fun h => absurd h.2.2.1 (by decide)
  refine ⟨SyncPlan.reordered_of_items (List.Perm.swap _ _ []), hjson, ?_⟩
  exact fun sha256 hsha h => hjson (hsha h)

end netbox_sync.sync_plan
