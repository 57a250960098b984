import Mathlib.Data.List.Basic

/-! Requests that change a content one by one, made by a client that may stop
between any two of them. -/

namespace journal

variable {σ κ : Type}

/-- The requests lead from one content to the other, and the property holds before the first of them and after each
    one. -/
structure Through (perform : σ → κ → σ) (P : σ → Prop) (before : σ) (calls : List κ) (after : σ) : Prop where
  ends : calls.foldl perform before = after
  holds : ∀ n, P ((calls.take n).foldl perform before)

namespace Through

variable {perform : σ → κ → σ} {P : σ → Prop} {before between after : σ} {calls rest : List κ}

theorem nil (h : P before) : Through perform P before [] before := ⟨rfl, fun n => by simpa using h⟩

theorem finish (h : Through perform P before calls after) : P after := by
  have hall := h.holds calls.length
  rwa [List.take_length, h.ends] at hall

theorem single (h : P before) {call : κ} (h' : P (perform before call)) :
    Through perform P before [call] (perform before call) := by
  refine ⟨rfl, fun n => ?_⟩
  cases n with
  | zero => simpa using h
  | succ n => simpa using h'

theorem append (h : Through perform P before calls between) (h' : Through perform P between rest after) :
    Through perform P before (calls ++ rest) after := by
  refine ⟨by rw [List.foldl_append, h.ends, h'.ends], fun n => ?_⟩
  rw [List.take_append, List.foldl_append]
  by_cases hn : n ≤ calls.length
  · rw [Nat.sub_eq_zero_of_le hn]
    simpa using h.holds n
  · rw [List.take_of_length_le (by omega), h.ends]
    exact h'.holds _

end Through

end journal
