import Mathlib.Data.List.Basic

/-- One member of a list changes and still stands in the relation to the members before and after it. -/
theorem List.Pairwise.set_of_imp {α : Type} {R : α → α → Prop} {xs : List α} (h : xs.Pairwise R) {i : Nat}
    {a b : α} (hget : xs[i]? = some a) (hbefore : ∀ x ∈ xs, R x a → R x b)
    (hafter : ∀ x ∈ xs, R a x → R b x) : (xs.set i b).Pairwise R := by
  induction xs generalizing i with
  | nil => exact h
  | cons x xs ih =>
    obtain ⟨hx, hxs⟩ := List.pairwise_cons.mp h
    cases i with
    | zero =>
      cases hget
      rw [List.set_cons_zero, List.pairwise_cons]
      exact ⟨fun y hy => hafter y (List.mem_cons_of_mem _ hy) (hx y hy), hxs⟩
    | succ i =>
      rw [List.getElem?_cons_succ] at hget
      rw [List.set_cons_succ, List.pairwise_cons]
      constructor
      · intro y hy
        rcases List.mem_or_eq_of_mem_set hy with hy | rfl
        · exact hx y hy
        · exact hbefore x List.mem_cons_self (hx a (List.mem_of_getElem? hget))
      · exact ih hxs hget (fun y hy => hbefore y (List.mem_cons_of_mem _ hy))
          (fun y hy => hafter y (List.mem_cons_of_mem _ hy))

theorem List.getElem?_concat_eq_some {α : Type} {xs : List α} {x y : α} {i : Nat}
    (h : (xs ++ [x])[i]? = some y) : xs[i]? = some y ∨ i = xs.length ∧ y = x := by
  rw [List.getElem?_append] at h
  split at h
  · exact .inl h
  next hle =>
    obtain ⟨hlt, hget⟩ := List.getElem?_eq_some_iff.mp h
    have hi : i = xs.length := by
      rw [List.length_singleton] at hlt
      omega
    subst hi
    exact .inr ⟨rfl, by simpa using hget.symm⟩

/-- A system that takes labelled steps. A step that is not possible in a state has no successor. -/
structure Machine (σ α : Type) where
  init : σ → Prop
  step : σ → α → Option σ

namespace Machine

variable {σ α : Type} {m : Machine σ α}

inductive Reachable (m : Machine σ α) : σ → Prop where
  | init {s : σ} (h : m.init s) : Reachable m s
  | step {s s' : σ} (action : α) (h : Reachable m s) (hstep : m.step s action = some s') : Reachable m s'

/-- The state after a list of steps. -/
def run (m : Machine σ α) (s : σ) : List α → Option σ
  | [] => some s
  | action :: actions => (m.step s action).bind (fun s' => m.run s' actions)

theorem run_cons {s s' : σ} {action : α} (hstep : m.step s action = some s') (actions : List α) :
    m.run s (action :: actions) = m.run s' actions := by
  rw [Machine.run, hstep, Option.bind_some]

theorem run_append {s s' s'' : σ} {actions more : List α} (h : m.run s actions = some s')
    (h' : m.run s' more = some s'') : m.run s (actions ++ more) = some s'' := by
  induction actions generalizing s with
  | nil =>
    cases h
    exact h'
  | cons action actions ih =>
    obtain ⟨next, hnext, hrest⟩ := Option.bind_eq_some_iff.mp h
    rw [List.cons_append, run_cons hnext]
    exact ih hrest

theorem Reachable.run {s s' : σ} (h : m.Reachable s) {actions : List α}
    (hrun : m.run s actions = some s') : m.Reachable s' := by
  induction actions generalizing s with
  | nil =>
    cases hrun
    exact h
  | cons action actions ih =>
    obtain ⟨next, hnext, hrest⟩ := Option.bind_eq_some_iff.mp hrun
    exact ih (h.step action hnext) hrest

/-- What holds at first and is kept by every step holds in every state that is reached. A step may be taken to start
    in a reachable state. -/
theorem Reachable.invariant {P : σ → Prop} (hinit : ∀ s, m.init s → P s)
    (hstep : ∀ s action s', m.Reachable s → P s → m.step s action = some s' → P s') {s : σ}
    (h : m.Reachable s) : P s := by
  induction h with
  | init h => exact hinit _ h
  | step action h hs ih => exact hstep _ action _ h ih hs

/-- The states reached by steps that all meet a condition. -/
inductive ReachableIf (m : Machine σ α) (ok : σ → α → Prop) : σ → Prop where
  | init {s : σ} (h : m.init s) : ReachableIf m ok s
  | step {s s' : σ} (action : α) (h : ReachableIf m ok s) (hok : ok s action)
    (hstep : m.step s action = some s') : ReachableIf m ok s'

theorem ReachableIf.invariant {ok : σ → α → Prop} {P : σ → Prop} (hinit : ∀ s, m.init s → P s)
    (hstep : ∀ s action s', P s → ok s action → m.step s action = some s' → P s') {s : σ}
    (h : m.ReachableIf ok s) : P s := by
  induction h with
  | init h => exact hinit _ h
  | step action h hok hs ih => exact hstep _ action _ ih hok hs

theorem ReachableIf.run {ok : σ → α → Prop} {s s' : σ} (h : m.ReachableIf ok s) {actions : List α}
    (hok : ∀ action ∈ actions, ∀ t, ok t action) (hrun : m.run s actions = some s') : m.ReachableIf ok s' := by
  induction actions generalizing s with
  | nil =>
    cases hrun
    exact h
  | cons action actions ih =>
    obtain ⟨next, hnext, hrest⟩ := Option.bind_eq_some_iff.mp hrun
    refine ih (h.step action (hok action List.mem_cons_self s) hnext) ?_ hrest
    exact fun other hother => hok other (List.mem_cons_of_mem _ hother)

end Machine
