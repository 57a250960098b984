import Mathlib.Data.List.Forall2

namespace Except

variable {ε α β : Type}

theorem bind_eq_ok_iff {x : Except ε α} {f : α → Except ε β} {result : β} :
    (x >>= f) = .ok result ↔ ∃ value, x = .ok value ∧ f value = .ok result := by
  cases x with
  | error error => simp [bind, Except.bind]
  | ok value => simp [bind, Except.bind]

theorem map_eq_ok_iff {x : Except ε α} {f : α → β} {result : β} :
    x.map f = .ok result ↔ ∃ value, x = .ok value ∧ f value = result := by
  cases x with
  | error error => simp [Except.map]
  | ok value => simp [Except.map]

theorem ok_of_toOption {x : Except ε α} {value : α} (h : x.toOption = some value) : x = .ok value := by
  cases x with
  | error => cases h
  | ok result =>
    cases h
    rfl

@[simp]
theorem ok_bind (value : α) (f : α → Except ε β) : (Except.ok value >>= f) = f value := rfl

/-- A check that raises when it fails. -/
def require (condition : Bool) (error : ε) : Except ε Unit := if condition then .ok () else .error error

@[simp]
theorem require_eq_ok_iff {condition : Bool} {error : ε} {result : Unit} :
    require condition error = .ok result ↔ condition = true := by
  cases condition <;> simp [require]

/-- A loop that collects results succeeds where every round of it does. -/
theorem mapM_eq_ok_iff {f : α → Except ε β} {xs : List α} {ys : List β} :
    xs.mapM f = .ok ys ↔ List.Forall₂ (fun x y => f x = .ok y) xs ys := by
  induction xs generalizing ys with
  | nil =>
    rw [List.mapM_nil, List.forall₂_nil_left_iff]
    constructor
    · intro h
      cases h
      rfl
    · rintro rfl
      rfl
  | cons x xs ih =>
    rw [List.mapM_cons, bind_eq_ok_iff, List.forall₂_cons_left_iff]
    constructor
    · rintro ⟨y, hy, hrest⟩
      obtain ⟨rest, hmap, hpure⟩ := bind_eq_ok_iff.mp hrest
      cases hpure
      exact ⟨y, rest, hy, ih.mp hmap, rfl⟩
    · rintro ⟨y, rest, hy, hall, rfl⟩
      exact ⟨y, hy, bind_eq_ok_iff.mpr ⟨rest, ih.mpr hall, rfl⟩⟩

theorem exists_mapM_eq_ok {f : α → Except ε β} {xs : List α} (h : ∀ x ∈ xs, ∃ y, f x = .ok y) :
    ∃ ys, xs.mapM f = .ok ys := by
  induction xs with
  | nil => exact ⟨[], rfl⟩
  | cons x xs ih =>
    obtain ⟨y, hy⟩ := h x List.mem_cons_self
    obtain ⟨ys, hys⟩ := ih (fun other hother => h other (List.mem_cons_of_mem _ hother))
    exact ⟨y :: ys, mapM_eq_ok_iff.mpr (.cons hy (mapM_eq_ok_iff.mp hys))⟩

end Except

namespace List.Forall₂

variable {α β : Type} {R : α → β → Prop} {xs : List α} {ys : List β}

section

variable (h : List.Forall₂ R xs ys)
include h

theorem exists_of_mem_left {x : α} (hx : x ∈ xs) : ∃ y ∈ ys, R x y := by
  induction h with
  | nil => cases hx
  | cons hab _ ih =>
    rcases List.mem_cons.mp hx with rfl | hx
    · exact ⟨_, List.mem_cons_self, hab⟩
    · obtain ⟨y, hy, hxy⟩ := ih hx
      exact ⟨y, List.mem_cons_of_mem _ hy, hxy⟩

theorem exists_of_mem_right {y : β} (hy : y ∈ ys) : ∃ x ∈ xs, R x y := h.flip.exists_of_mem_left hy

theorem map_eq {f : β → α} (hf : ∀ x y, R x y → f y = x) : ys.map f = xs := by
  induction h with
  | nil => rfl
  | cons hab _ ih => rw [List.map_cons, hf _ _ hab, ih]

theorem flatMap_eq {γ : Type} {f : α → List γ} {f' : β → List γ} (hf : ∀ x y, R x y → f' y = f x) :
    ys.flatMap f' = xs.flatMap f := by
  induction h with
  | nil => rfl
  | cons hab _ ih => rw [List.flatMap_cons, List.flatMap_cons, hf _ _ hab, ih]

/-- What is picked from one list can be picked from the other. -/
theorem exists_sublist {zs : List β} (hsub : zs.Sublist ys) : ∃ ws, ws.Sublist xs ∧ List.Forall₂ R ws zs := by
  induction h generalizing zs with
  | nil =>
    rw [List.sublist_nil.mp hsub]
    exact ⟨[], .slnil, .nil⟩
  | @cons x y xs ys hxy _ ih =>
    cases hsub with
    | cons _ hsub =>
      obtain ⟨ws, hws, hall⟩ := ih hsub
      exact ⟨ws, hws.cons x, hall⟩
    | cons_cons _ hsub =>
      obtain ⟨ws, hws, hall⟩ := ih hsub
      exact ⟨x :: ws, hws.cons_cons x, .cons hxy hall⟩

/-- Each pair has a third member, and so have the lists. -/
theorem exists_forall₂ {γ : Type} {S : α → γ → Prop} {T : β → γ → Prop}
    (hstep : ∀ x ∈ xs, ∀ y ∈ ys, R x y → ∃ z, S x z ∧ T y z) : ∃ zs, List.Forall₂ S xs zs ∧ List.Forall₂ T ys zs := by
  induction h with
  | nil => exact ⟨[], .nil, .nil⟩
  | cons hab _ ih =>
    obtain ⟨z, hxz, hyz⟩ := hstep _ List.mem_cons_self _ List.mem_cons_self hab
    obtain ⟨zs, hxs, hys⟩ := ih (fun x hx y hy =>
      hstep x (List.mem_cons_of_mem _ hx) y (List.mem_cons_of_mem _ hy))
    exact ⟨z :: zs, .cons hxz hxs, .cons hyz hys⟩

end

end List.Forall₂
