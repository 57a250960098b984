import Mathlib.Data.List.Basic

/-! Items that claim keys, and the marking of those whose claims collide. -/

namespace claims

variable {α κ : Type} [DecidableEq κ]

/-- One of the item's keys is claimed at more than one position. -/
def shared (keys : α → List κ) (items : List α) (item : α) : Bool :=
  (keys item).any (fun key => 1 < items.countP (fun other => key ∈ keys other))

def markShared (keys : α → List κ) (mark : α → α) (items : List α) : List α :=
  items.map (fun item => if shared keys items item then mark item else item)

variable {keys : α → List κ} {items : List α} {a b : α} {key : κ}

/-- Two positions that claim one key are both found out. -/
theorem shared_of_sublist (h : [a, b].Sublist items) (ha : key ∈ keys a) (hb : key ∈ keys b) :
    shared keys items a = true ∧ shared keys items b = true := by
  have hcount : 1 < items.countP (fun other => key ∈ keys other) := by
    have hle := h.countP_le (p := fun other => decide (key ∈ keys other))
    simp only [List.countP_cons, List.countP_nil, ha, hb, decide_true, if_true] at hle
    omega
  exact ⟨List.any_eq_true.mpr ⟨key, ha, decide_eq_true hcount⟩, List.any_eq_true.mpr ⟨key, hb, decide_eq_true hcount⟩⟩

/-- Among the items that are left as they were, no two claim one key. -/
theorem pairwise_unshared (keys : α → List κ) (items : List α) :
    items.Pairwise (fun a b => shared keys items a = false ∨ shared keys items b = false →
      (keys a).Disjoint (keys b)) := by
  rw [List.pairwise_iff_forall_sublist]
  intro a b h halone key ha hb
  obtain ⟨hsharedA, hsharedB⟩ := shared_of_sublist h ha hb
  rcases halone with halone | halone
  · rw [hsharedA] at halone
    cases halone
  · rw [hsharedB] at halone
    cases halone

end claims
