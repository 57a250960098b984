import Mathlib.Data.Nat.Basic
import Mathlib.Logic.Function.Iterate

/-! The Gregorian calendar, day by day. -/

namespace civil

structure Date where
  year : Nat
  month : Nat
  day : Nat
deriving DecidableEq, Repr

def is_leap (year : Nat) : Bool := (year % 4 = 0 && year % 100 ≠ 0) || year % 400 = 0

/-- `calendar.monthrange(year, month)[1]` -/
def days_in_month (year month : Nat) : Nat :=
  if month = 2 then (if is_leap year then 29 else 28)
  else if month ∈ [4, 6, 9, 11] then 30
  else 31

def Date.last (d : Date) : Nat := days_in_month d.year d.month

/-- The first day of the month after. -/
def Date.next_month (d : Date) : Date := if d.month < 12 then ⟨d.year, d.month + 1, 1⟩ else ⟨d.year + 1, 1, 1⟩

/-- The day after. -/
def Date.next (d : Date) : Date := if d.day < d.last then { d with day := d.day + 1 } else d.next_month

/-- The date a number of days after another one. -/
def Date.after (first : Date) (days : Nat) : Date := Date.next^[days] first

/-- The number of the day of the week, Monday being the first. -/
def isoweekday (first days : Nat) : Nat := (first + days - 1) % 7 + 1

theorem days_in_month_bounds (year month : Nat) : 28 ≤ days_in_month year month ∧ days_in_month year month ≤ 31 := by
  unfold days_in_month
  split
  · split <;> omega
  · split <;> omega

/-- A day of its month. -/
def Date.Valid (d : Date) : Prop := 1 ≤ d.day ∧ d.day ≤ d.last

theorem Date.valid_next_month (d : Date) : d.next_month.Valid := by
  have hbounds := days_in_month_bounds d.next_month.year d.next_month.month
  have hday : d.next_month.day = 1 := by
    unfold Date.next_month
    split <;> rfl
  unfold Date.Valid Date.last
  omega

theorem Date.valid_next (d : Date) : d.next.Valid := by
  unfold Date.next
  split
  · next hlt => exact ⟨Nat.le_add_left 1 d.day, hlt⟩
  · exact d.valid_next_month

theorem Date.after_succ (first : Date) (days : Nat) : first.after (days + 1) = (first.after days).next :=
  Function.iterate_succ_apply' Date.next days first

theorem Date.after_add (first : Date) (days more : Nat) :
    first.after (days + more) = (first.after days).after more := by
  rw [Date.after, Nat.add_comm, Function.iterate_add_apply]
  rfl

theorem Date.valid_after {first : Date} (h : first.Valid) (days : Nat) : (first.after days).Valid := by
  cases days with
  | zero => exact h
  | succ days =>
    rw [Date.after_succ]
    exact Date.valid_next _

/-- Days of one month differ in their number only. -/
theorem Date.after_in_month {d : Date} {days : Nat} (h : d.day + days ≤ d.last) :
    d.after days = { d with day := d.day + days } := by
  induction days with
  | zero => rfl
  | succ days ih =>
    have hbefore := ih (by omega)
    rw [Date.after_succ, hbefore, Date.next, if_pos]
    · rfl
    · exact h

theorem Date.after_month {d : Date} (h : d.Valid) : d.after (d.last - d.day + 1) = d.next_month := by
  obtain ⟨_, hle⟩ := h
  rw [Date.after_succ, Date.after_in_month (by omega), Date.next, if_neg]
  · rfl
  · show ¬ d.day + (d.last - d.day) < d.last
    omega

/-- Every day of the month, or its last one where the month is too short, is met again within 61 days. -/
theorem Date.exists_day_of_month {d : Date} (h : d.Valid) {day : Nat} (hday : 1 ≤ day ∧ day ≤ 31) :
    ∃ days, 1 ≤ days ∧ days ≤ 61 ∧ (d.after days).day = min day (d.after days).last := by
  have hlast := days_in_month_bounds d.year d.month
  have hnext := days_in_month_bounds d.next_month.year d.next_month.month
  obtain ⟨hfirst, hle⟩ := h
  have hone : d.next_month.day = 1 := by
    unfold Date.next_month
    split <;> rfl
  have hmonth : (d.after (d.last - d.day + 1)).after (min day d.next_month.last - 1) =
      { d.next_month with day := min day d.next_month.last } := by
    rw [Date.after_month ⟨hfirst, hle⟩, Date.after_in_month]
    · rw [hone]
      congr 1
      unfold Date.last
      omega
    · rw [hone]
      unfold Date.last
      omega
  refine ⟨d.last - d.day + 1 + (min day d.next_month.last - 1), ?_, ?_, ?_⟩
  · omega
  · unfold Date.last at *
    omega
  · rw [Date.after_add, hmonth]
    rfl

theorem exists_isoweekday (first days : Nat) (hfirst : 1 ≤ first) {day : Nat} (hday : 1 ≤ day ∧ day ≤ 7) :
    ∃ more, 1 ≤ more ∧ more ≤ 7 ∧ isoweekday first (days + more) = day := by
  refine ⟨(day + 12 - (first + days - 1) % 7) % 7 + 1, ?_, ?_, ?_⟩
  · omega
  · omega
  · unfold isoweekday
    omega

end civil
