import Mathlib.Tactic.Common

namespace past

variable {α : Type}

/-- In a log with the newest entry first, `P` held once, and `Q` for every entry after it. -/
def Since (P Q : α → Prop) : List α → Prop
  | [] => False
  | entry :: log => P entry ∨ Q entry ∧ Since P Q log

/-- Every entry stands in the relation to the log before it. -/
def Always (φ : α → List α → Prop) : List α → Prop
  | [] => True
  | entry :: log => φ entry log ∧ Always φ log

section

variable {P P' Q Q' : α → Prop} {φ : α → List α → Prop} {entry : α} {log : List α}

theorem always_cons : Always φ (entry :: log) ↔ φ entry log ∧ Always φ log := Iff.rfl

theorem Since.now (h : P entry) : Since P Q (entry :: log) := .inl h

theorem Since.later (h : Since P Q log) (hq : Q entry) : Since P Q (entry :: log) := .inr ⟨hq, h⟩

theorem Since.imp (h : Since P Q log) (hP : ∀ entry ∈ log, P entry → P' entry)
    (hQ : ∀ entry ∈ log, Q entry → Q' entry) : Since P' Q' log := by
  induction log with
  | nil => exact h
  | cons entry log ih =>
    rcases h with h | ⟨hq, h⟩
    · exact .inl (hP entry List.mem_cons_self h)
    · exact .inr ⟨hQ entry List.mem_cons_self hq,
        ih h (fun x hx => hP x (List.mem_cons_of_mem _ hx)) (fun x hx => hQ x (List.mem_cons_of_mem _ hx))⟩

end

end past
