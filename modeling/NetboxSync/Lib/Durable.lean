import Mathlib.Data.List.Basic

/-- A value that reaches the disk with a sync. Until then a crash may leave one of the values it had before. -/
structure Cell (α : Type) where
  now : α
  older : List α := []

namespace Cell

variable {α : Type} {c : Cell α}

def write (c : Cell α) (x : α) : Cell α := ⟨x, c.now :: c.older⟩

def sync (c : Cell α) : Cell α := ⟨c.now, []⟩

/-- What the disk held; the choice counts back from the last write. -/
def crash (c : Cell α) (choice : Nat) : Cell α := ⟨(c.now :: c.older).getD choice c.now, []⟩

/-- A crash inside of unsynced writes may leave anything. -/
def tear (c : Cell α) (torn : α) : Cell α :=
  match c.older with
  | [] => c
  | _ => ⟨torn, []⟩

def Synced (c : Cell α) : Prop := c.older = []

@[simp]
theorem write_now (x : α) : (c.write x).now = x := rfl

/-- A crash does not change what is synced. -/
theorem Synced.crash_eq (h : c.Synced) (choice : Nat) : c.crash choice = c := by
  obtain ⟨now, older⟩ := c
  obtain rfl : older = [] := h
  cases choice <;> rfl

theorem Synced.tear_eq (h : c.Synced) (torn : α) : c.tear torn = c := by
  unfold tear
  rw [show c.older = [] from h]

/-- What a crash leaves was once written. -/
theorem crash_now_mem (choice : Nat) : (c.crash choice).now ∈ c.now :: c.older := by
  rw [crash, List.getD_eq_getElem?_getD]
  cases h : (c.now :: c.older)[choice]? with
  | none => exact List.mem_cons_self
  | some x => exact List.mem_of_getElem? h

end Cell
