import Mathlib.Tactic.Common

/-- How a transaction ends: with a value, with a refusal, which keeps what was written, or with a fault, which undoes
    it. -/
inductive Outcome (σ ε α : Type) where
  | done (value : α) (state : σ)
  | refused (error : ε) (state : σ)
  | fault

/-- A program on a state that is committed when it ends, refusals included. -/
def Transaction (σ ε α : Type) : Type := σ → Outcome σ ε α

namespace Transaction

variable {σ ε α β : Type}

protected def pure (value : α) : Transaction σ ε α := fun s => .done value s

protected def bind (x : Transaction σ ε α) (f : α → Transaction σ ε β) : Transaction σ ε β := fun s =>
  match x s with
  | .done value s' => f value s'
  | .refused error s' => .refused error s'
  | .fault => .fault

instance : Monad (Transaction σ ε) where
  pure := Transaction.pure
  bind := Transaction.bind

def get : Transaction σ ε σ := fun s => .done s s

def modify (f : σ → σ) : Transaction σ ε Unit := fun s => .done () (f s)

def refuse (error : ε) : Transaction σ ε α := fun s => .refused error s

def fault : Transaction σ ε α := fun _ => .fault

/-- A check that refuses when it fails. -/
def check (condition : Bool) (error : ε) : Transaction σ ε Unit := if condition then pure () else refuse error

/-- A computation without state, whose error is a refusal. -/
def lift : Except ε α → Transaction σ ε α
  | .ok value => pure value
  | .error error => refuse error

/-- However the program ends, other than by a fault, it ends like this. -/
def Ends (x : Transaction σ ε α) (s : σ) (Q : α → σ → Prop) (R : ε → σ → Prop) : Prop :=
  match x s with
  | .done value s' => Q value s'
  | .refused error s' => R error s'
  | .fault => True

section

variable {s s' : σ} {Q Q' : α → σ → Prop} {R R' : ε → σ → Prop}

@[simp]
theorem ends_pure {value : α} : (pure value : Transaction σ ε α).Ends s Q R ↔ Q value s := Iff.rfl

@[simp]
theorem ends_bind {x : Transaction σ ε β} {f : β → Transaction σ ε α} :
    (x >>= f).Ends s Q R ↔ x.Ends s (fun value s' => (f value).Ends s' Q R) R := by
  unfold Ends
  show (match Transaction.bind x f s with
    | .done value s' => Q value s'
    | .refused error s' => R error s'
    | .fault => True) ↔ _
  unfold Transaction.bind
  cases x s <;> rfl

@[simp]
theorem ends_get {Q : σ → σ → Prop} : (get : Transaction σ ε σ).Ends s Q R ↔ Q s s := Iff.rfl

@[simp]
theorem ends_refuse {error : ε} : (refuse error : Transaction σ ε α).Ends s Q R ↔ R error s := Iff.rfl

@[simp]
theorem ends_check {condition : Bool} {error : ε} {Q : Unit → σ → Prop} :
    (check condition error).Ends s Q R ↔ (condition = true → Q () s) ∧ (condition = false → R error s) := by
  cases condition <;> simp [check]

@[simp]
theorem ends_lift {x : Except ε α} :
    (lift x : Transaction σ ε α).Ends s Q R ↔
      (∀ value, x = .ok value → Q value s) ∧ (∀ error, x = .error error → R error s) := by
  cases x <;> simp [lift]

@[simp]
theorem ends_ite {condition : Prop} [Decidable condition] {x y : Transaction σ ε α} :
    (if condition then x else y).Ends s Q R ↔
      (condition → x.Ends s Q R) ∧ (¬ condition → y.Ends s Q R) := by
  split <;> simp_all

/-- A program that ends in one way ends in every weaker one. -/
theorem Ends.imp {x : Transaction σ ε α} (h : x.Ends s Q R) (hQ : ∀ value s', Q value s' → Q' value s')
    (hR : ∀ error s', R error s' → R' error s') : x.Ends s Q' R' := by
  unfold Ends at h ⊢
  cases hx : x s with
  | done value s' =>
    rw [hx] at h
    exact hQ value s' h
  | refused error s' =>
    rw [hx] at h
    exact hR error s' h
  | fault => trivial

theorem Ends.done {x : Transaction σ ε α} {value : α} (h : x.Ends s Q R) (hx : x s = .done value s') : Q value s' := by
  unfold Ends at h
  rwa [hx] at h

theorem Ends.refused {x : Transaction σ ε α} {error : ε} (h : x.Ends s Q R) (hx : x s = .refused error s') :
    R error s' := by
  unfold Ends at h
  rwa [hx] at h

end

/-- A program is done when its parts are. -/
theorem bind_eq_done {x : Transaction σ ε α} {f : α → Transaction σ ε β} {s s'' : σ} {value : β} :
    (x >>= f) s = .done value s'' ↔ ∃ a s', x s = .done a s' ∧ f a s' = .done value s'' := by
  show Transaction.bind x f s = .done value s'' ↔ _
  unfold Transaction.bind
  cases x s <;> simp

theorem check_eq_done {condition : Bool} {error : ε} {s s' : σ} :
    (check condition error : Transaction σ ε Unit) s = .done () s' ↔ condition = true ∧ s = s' := by
  cases condition
  · exact ⟨nofun, nofun⟩
  · exact ⟨fun h => ⟨rfl, (Outcome.done.inj h).2⟩, fun h => h.2 ▸ rfl⟩

/-- When the program is done, it leaves the state like this. -/
def Leaves (Q : α → σ → Prop) (x : Transaction σ ε α) : Prop := ∀ s, x.Ends s Q (fun _ _ => True)

section

variable {Q : α → σ → Prop}

theorem Leaves.pure {value : α} (h : ∀ s, Q value s) : Leaves Q (pure value : Transaction σ ε α) := h

theorem Leaves.refuse (error : ε) : Leaves Q (refuse error : Transaction σ ε α) := fun _ => trivial

theorem Leaves.ite {condition : Prop} [Decidable condition] {x y : Transaction σ ε α} (hx : Leaves Q x)
    (hy : Leaves Q y) : Leaves Q (if condition then x else y) := by
  split
  · exact hx
  · exact hy

/-- The last part of a program decides. -/
theorem Leaves.last {x : Transaction σ ε β} {f : β → Transaction σ ε α} (h : ∀ value, Leaves Q (f value)) :
    Leaves Q (x >>= f) := by
  intro s
  rw [ends_bind]
  unfold Ends
  cases x s with
  | done value s' => exact h value s'
  | refused _ _ => trivial
  | fault => trivial

end

/-- However the program ends, its state then is in the relation to the state before. -/
def Moves (R : σ → σ → Prop) (x : Transaction σ ε α) : Prop := ∀ s, x.Ends s (fun _ s' => R s s') (fun _ s' => R s s')

section

variable {R : σ → σ → Prop} [Std.Refl R] [IsTrans σ R]

omit [Std.Refl R] [IsTrans σ R] in
theorem Moves.imp {R' : σ → σ → Prop} {x : Transaction σ ε α} (h : Moves R x) (hR : ∀ s s', R s s' → R' s s') :
    Moves R' x :=
  fun s => (h s).imp (fun _ s' => hR s s') (fun _ s' => hR s s')

omit [IsTrans σ R] in
theorem Moves.pure (value : α) : Moves R (pure value : Transaction σ ε α) := fun s => Std.Refl.refl s

omit [IsTrans σ R] in
theorem Moves.get : Moves R (get : Transaction σ ε σ) := fun s => Std.Refl.refl s

omit [IsTrans σ R] in
theorem Moves.refuse (error : ε) : Moves R (refuse error : Transaction σ ε α) := fun s => Std.Refl.refl s

omit [Std.Refl R] [IsTrans σ R] in
theorem Moves.fault : Moves R (fault : Transaction σ ε α) := fun _ => trivial

omit [Std.Refl R] [IsTrans σ R] in
theorem Moves.modify {f : σ → σ} (h : ∀ s, R s (f s)) : Moves R (modify f : Transaction σ ε Unit) := h

omit [IsTrans σ R] in
theorem Moves.check (condition : Bool) (error : ε) : Moves R (check condition error : Transaction σ ε Unit) := by
  cases condition
  · exact Moves.refuse error
  · exact Moves.pure ()

omit [IsTrans σ R] in
theorem Moves.lift (x : Except ε α) : Moves R (lift x : Transaction σ ε α) := by
  cases x with
  | error error => exact Moves.refuse error
  | ok value => exact Moves.pure value

omit [Std.Refl R] [IsTrans σ R] in
theorem Moves.ite {condition : Prop} [Decidable condition] {x y : Transaction σ ε α} (hx : Moves R x)
    (hy : Moves R y) : Moves R (if condition then x else y) := by
  split
  · exact hx
  · exact hy

omit [Std.Refl R] in
theorem Moves.bind {x : Transaction σ ε α} {f : α → Transaction σ ε β} (hx : Moves R x)
    (hf : ∀ value, Moves R (f value)) : Moves R (x >>= f) := by
  intro s
  refine ends_bind.mpr ((hx s).imp (fun value s' hs => ?_) (fun _ _ hs => hs))
  exact (hf value s').imp (fun _ _ hs' => IsTrans.trans _ _ _ hs hs') (fun _ _ hs' => IsTrans.trans _ _ _ hs hs')

end

end Transaction
