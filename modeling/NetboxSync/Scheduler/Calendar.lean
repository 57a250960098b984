import NetboxSync.Lib.Civil
import NetboxSync.Lib.Json.Value

open json civil

namespace netbox_sync.calendar_schedule

inductive Mode where
  | daily
  | weekly (day : Nat) (valid : 1 ≤ day ∧ day ≤ 7)
  | monthly (day : Nat) (valid : 1 ≤ day ∧ day ≤ 31)

/-- What a valid calendar envelope says. -/
structure Calendar where
  mode : Mode
  hour : Fin 24
  minute : Fin 60

/-- `(?:[01][0-9]|2[0-3]):[0-5][0-9]`, and the numbers it spells. -/
def parse_time (text : String) : Option (Fin 24 × Fin 60) :=
  match text.toList with
  | [a, b, ':', c, d] =>
    if a.isDigit && b.isDigit && c.isDigit && d.isDigit then
      let hour := (a.toNat - 48) * 10 + (b.toNat - 48)
      let minute := (c.toNat - 48) * 10 + (d.toNat - 48)
      if h : hour < 24 ∧ minute < 60 then some (⟨hour, h.1⟩, ⟨minute, h.2⟩) else none
    else none
  | _ => none

/-- `set(value) == expected` -/
def same_keys (fields : Fields) (expected : List String) : Bool :=
  (dict.keys fields).all (· ∈ expected) && expected.all (· ∈ dict.keys fields)

/-- `value["day"]` where it is an integer between 1 and the limit. -/
def calendar_day (fields : Fields) (limit : Nat) : Except String { day : Nat // 1 ≤ day ∧ day ≤ limit } :=
  match dict.get fields "day" with
  | some (.int day) =>
    if h : 1 ≤ day.toNat ∧ day.toNat ≤ limit then .ok ⟨day.toNat, h⟩ else .error "invalid calendar day"
  | _ => .error "invalid calendar day"

def envelope (fields : Fields) (expected : List String) : Except String (Fin 24 × Fin 60) :=
  if !same_keys fields expected || dict.get fields "timezone" ≠ some (.str "Europe/Moscow") then
    .error "invalid calendar schedule"
  else
    match (dict.get fields "time") with
    | some (.str text) =>
      match parse_time text with
      | some time => .ok time
      | none => .error "invalid calendar time"
    | _ => .error "invalid calendar time"

/-- `validate_calendar(value)` for a value that is not `None`. -/
def validate_calendar (value : Value) : Except String Calendar :=
  match value with
  | .obj fields =>
    match dict.get fields "mode" with
    | some (.str "daily") => do
      let (hour, minute) ← envelope fields ["mode", "time", "timezone"]
      .ok ⟨.daily, hour, minute⟩
    | some (.str "weekly") => do
      let (hour, minute) ← envelope fields ["mode", "time", "timezone", "day"]
      let day ← calendar_day fields 7
      .ok ⟨.weekly day.1 day.2, hour, minute⟩
    | some (.str "monthly") => do
      let (hour, minute) ← envelope fields ["mode", "time", "timezone", "day"]
      let day ← calendar_day fields 31
      .ok ⟨.monthly day.1 day.2, hour, minute⟩
    | _ => .error "invalid calendar schedule"
  | _ => .error "invalid calendar schedule"

/-- Microseconds of a day. Times are microseconds since the beginning of November 2014 in Moscow: from then on the
    zone is three hours ahead of UTC, so that instants and readings of its wall clock differ by a constant. -/
def DAY : Nat := 86400000000

/-- The first day, a Saturday. -/
def first_day : Date := ⟨2014, 11, 1⟩

/-- `local.date()` after a number of days. -/
def date (days : Nat) : Date := first_day.after days

/-- The day is one the calendar asks for. A missing day of the month is its last one. -/
def Mode.asks : Mode → Nat → Bool
  | .daily, _ => true
  | .weekly day _, days => isoweekday 6 days = day
  | .monthly day _, days => (date days).day = min day (date days).last

/-- `datetime(day.year, day.month, day.day, hour, minute, tzinfo=MSK)` -/
def Calendar.at_day (calendar : Calendar) (days : Nat) : Nat :=
  days * DAY + (calendar.hour.val * 60 + calendar.minute.val) * 60000000

/-- `next_slot(value, after)`: the strictly next occurrence. -/
def next_slot (value : Value) (after : Nat) : Except String Nat := do
  let calendar ← validate_calendar value
  let day (offset : Nat) : Nat := after / DAY + offset
  match (List.range 63).find? (fun offset =>
      calendar.mode.asks (day offset) && after < calendar.at_day (day offset)) with
  | some offset => .ok (calendar.at_day (day offset))
  | none => .error "calendar occurrence unavailable"

/-- The times the calendar names. -/
def Calendar.IsSlot (calendar : Calendar) (slot : Nat) : Prop :=
  ∃ days, calendar.mode.asks days = true ∧ slot = calendar.at_day days

section

variable {calendar : Calendar} {after : Nat}

theorem at_day_bounds (calendar : Calendar) (days : Nat) :
    days * DAY ≤ calendar.at_day days ∧ calendar.at_day days < (days + 1) * DAY := by
  have hhour := calendar.hour.isLt
  have hminute := calendar.minute.isLt
  unfold Calendar.at_day DAY
  omega

theorem at_day_le {days days' : Nat} (h : days ≤ days') : calendar.at_day days ≤ calendar.at_day days' := by
  unfold Calendar.at_day
  have hmul := Nat.mul_le_mul_right DAY h
  omega

/-- `Mode.asks` with the days counted from any valid date. -/
def Mode.asks_from (first : Date) (weekday : Nat) : Mode → Nat → Bool
  | .daily, _ => true
  | .weekly day _, days => isoweekday weekday days = day
  | .monthly day _, days => (first.after days).day = min day (first.after days).last

/-- A calendar asks for one of the 61 days after any day. -/
theorem exists_asks {first : Date} (hfirst : first.Valid) {weekday : Nat} (hweekday : 1 ≤ weekday) (mode : Mode)
    (days : Nat) : ∃ more, 1 ≤ more ∧ more ≤ 61 ∧ mode.asks_from first weekday (days + more) = true := by
  cases mode with
  | daily => exact ⟨1, by omega, by omega, rfl⟩
  | weekly day valid =>
    obtain ⟨more, hpos, hle, hday⟩ := exists_isoweekday weekday days hweekday valid
    exact ⟨more, hpos, by omega, by simp [Mode.asks_from, hday]⟩
  | monthly day valid =>
    obtain ⟨more, hpos, hle, hday⟩ := Date.exists_day_of_month (Date.valid_after hfirst days) valid
    refine ⟨more, hpos, hle, ?_⟩
    rw [Mode.asks_from, decide_eq_true_eq, Date.after_add]
    exact hday

/-- The first day of the window whose time is still to come has the first slot of all. -/
theorem exists_slot {first : Date} (hfirst : first.Valid) {weekday : Nat} (hweekday : 1 ≤ weekday)
    (calendar : Calendar) (after : Nat) :
    ∃ offset ≤ 61, (List.range 63).find? (fun offset =>
        calendar.mode.asks_from first weekday (after / DAY + offset) &&
          after < calendar.at_day (after / DAY + offset)) = some offset ∧
      calendar.mode.asks_from first weekday (after / DAY + offset) = true ∧
      after < calendar.at_day (after / DAY + offset) ∧
      ∀ days, calendar.mode.asks_from first weekday days = true → after < calendar.at_day days →
        calendar.at_day (after / DAY + offset) ≤ calendar.at_day days := by
  have htoday : after / DAY * DAY ≤ after ∧ after < (after / DAY + 1) * DAY := by
    unfold DAY
    omega
  obtain ⟨more, hpos, hle, hasks⟩ := exists_asks hfirst hweekday calendar.mode (after / DAY)
  have hlater : after < calendar.at_day (after / DAY + more) := by
    have hmul := Nat.mul_le_mul_right DAY (show after / DAY + 1 ≤ after / DAY + more by omega)
    have hbounds := at_day_bounds calendar (after / DAY + more)
    omega
  cases hfind : (List.range 63).find? (fun offset => calendar.mode.asks_from first weekday (after / DAY + offset) &&
      after < calendar.at_day (after / DAY + offset)) with
  | none =>
    rw [List.find?_range_eq_none] at hfind
    have hno := hfind more (by omega)
    simp [hasks, hlater] at hno
  | some offset =>
    obtain ⟨hfound, _, hbefore⟩ := List.find?_range_eq_some.mp hfind
    simp only [Bool.and_eq_true, decide_eq_true_eq] at hfound
    have hoffset : offset ≤ more := by
      by_contra hgt
      have hno := hbefore more (by omega)
      simp [hasks, hlater] at hno
    refine ⟨offset, by omega, rfl, hfound.1, hfound.2, ?_⟩
    intro days hslot hafter
    by_contra hlt
    have hless : days < after / DAY + offset := by
      by_contra hge
      exact hlt (at_day_le (by omega))
    have htoday' : after / DAY ≤ days := by
      have hbounds := at_day_bounds calendar days
      by_contra hsmall
      have hmul := Nat.mul_le_mul_right DAY (show days + 1 ≤ after / DAY by omega)
      omega
    -- an earlier day of the range would have been found first
    have hno := hbefore (days - after / DAY) (by omega)
    rw [Nat.add_sub_cancel' htoday'] at hno
    simp [hslot, hafter] at hno

theorem asks_eq (mode : Mode) (days : Nat) : mode.asks days = mode.asks_from first_day 6 days := by
  cases mode <;> rfl

/-- For a valid calendar the next slot is found, and it is the first one that comes strictly after. -/
theorem next_slot_spec {value : Value} (hvalid : validate_calendar value = .ok calendar) (after : Nat) :
    ∃ slot, next_slot value after = .ok slot ∧ calendar.IsSlot slot ∧ after < slot ∧
      ∀ other, calendar.IsSlot other → after < other → slot ≤ other := by
  obtain ⟨offset, _, hfind, hasks, hlater, hleast⟩ :=
    exists_slot (by unfold Date.Valid; decide : first_day.Valid) (by omega : 1 ≤ 6) calendar after
  simp only [← asks_eq] at hfind hasks hleast
  refine ⟨calendar.at_day (after / DAY + offset), ?_, ⟨_, hasks, rfl⟩, hlater, ?_⟩
  · simp only [next_slot, hvalid, hfind, bind, Except.bind]
  · rintro _ ⟨days, hslot, rfl⟩ hafter
    exact hleast days hslot hafter

end

/-- `date.min`, a Monday. -/
def date_min : Date := ⟨1, 1, 1⟩

/-- `next_slot` for any instant, in microseconds since the first moment of the first year in UTC, with the zone
    `ahead` of UTC. A day after `last` cannot be computed. -/
def next_slot_until (ahead last : Nat) (value : Value) (after : Nat) : Except String Nat := do
  let calendar ← validate_calendar value
  let today : Nat := (after + ahead) / DAY
  match (List.range 63).find? (fun offset => last < today + offset ||
      (calendar.mode.asks_from date_min 1 (today + offset) &&
        after + ahead < calendar.at_day (today + offset))) with
  | some offset =>
    if last < today + offset then .error "date value out of range"
    else .ok (calendar.at_day (today + offset) - ahead)
  | none => .error "calendar occurrence unavailable"

/-- The instants at which the clock of the zone shows the time of the calendar on a day that it asks for. -/
def Calendar.Occurs (calendar : Calendar) (ahead slot : Nat) : Prop :=
  ∃ days, calendar.mode.asks_from date_min 1 days = true ∧ slot + ahead = calendar.at_day days

theorem next_slot_until_spec {value : Value} {calendar : Calendar} (hvalid : validate_calendar value = .ok calendar)
    {ahead last after : Nat} (hroom : (after + ahead) / DAY + 62 ≤ last) :
    ∃ slot, next_slot_until ahead last value after = .ok slot ∧ calendar.Occurs ahead slot ∧ after < slot ∧
      ∀ other, calendar.Occurs ahead other → after < other → slot ≤ other := by
  obtain ⟨offset, hoffset, hfind, hasks, hlater, hleast⟩ :=
    exists_slot (by unfold Date.Valid; decide : date_min.Valid) (Nat.le_refl 1) calendar (after + ahead)
  have hsearch : (List.range 63).find? (fun offset => last < (after + ahead) / DAY + offset ||
      (calendar.mode.asks_from date_min 1 ((after + ahead) / DAY + offset) &&
        after + ahead < calendar.at_day ((after + ahead) / DAY + offset))) = some offset := by
    obtain ⟨hfound, hmem, hbefore⟩ := List.find?_range_eq_some.mp hfind
    rw [List.find?_range_eq_some]
    refine ⟨by rw [hfound, Bool.or_true], hmem, fun n hn => ?_⟩
    -- no day of the window is too late
    have hday : ¬ last < (after + ahead) / DAY + n := by omega
    rw [decide_eq_false hday, Bool.false_or]
    exact hbefore n hn
  refine ⟨calendar.at_day ((after + ahead) / DAY + offset) - ahead, ?_, ⟨_, hasks, by omega⟩, by omega, ?_⟩
  · simp only [next_slot_until, hvalid, bind, Except.bind, hsearch]
    rw [if_neg (by omega)]
  · rintro other ⟨days, hslot, htime⟩ hafter
    have hbound := hleast days hslot (by omega)
    omega

/-- Moscow is three hours ahead of UTC. -/
def MOSCOW : Nat := 10800000000

/-- The number of days from `date.min` to `date.max`. -/
def LAST_DAY : Nat := 3652058

def next_slot_utc (value : Value) (after : Nat) : Except String Nat := next_slot_until MOSCOW LAST_DAY value after

/-- The next slot of a valid calendar is the first one that comes strictly after, wherever the calendar goes on for 62
    days. -/
theorem next_slot_utc_least {value : Value} {calendar : Calendar} (hvalid : validate_calendar value = .ok calendar)
    {after : Nat} (hroom : (after + MOSCOW) / DAY + 62 ≤ LAST_DAY) :
    ∃ slot, next_slot_utc value after = .ok slot ∧ calendar.Occurs MOSCOW slot ∧ after < slot ∧
      ∀ other, calendar.Occurs MOSCOW other → after < other → slot ≤ other :=
  next_slot_until_spec hvalid hroom

/-- The last day of a month, from the first moment there is. -/
theorem next_slot_utc_least_last_day :
    ∃ slot, next_slot_utc (.obj [("mode", .str "monthly"), ("day", .int 31), ("time", .str "02:30"),
        ("timezone", .str "Europe/Moscow")]) 0 = .ok slot ∧
      (⟨.monthly 31 (by decide), 2, 30⟩ : Calendar).Occurs MOSCOW slot ∧ 0 < slot := by
  have hvalid : validate_calendar (.obj [("mode", .str "monthly"), ("day", .int 31), ("time", .str "02:30"),
      ("timezone", .str "Europe/Moscow")]) = .ok ⟨.monthly 31 (by decide), 2, 30⟩ := rfl
  have hroom : (0 + MOSCOW) / DAY + 62 ≤ LAST_DAY := by
    unfold MOSCOW DAY LAST_DAY
    omega
  obtain ⟨slot, hslot, hoccurs, hlater, _⟩ := next_slot_utc_least hvalid hroom
  exact ⟨slot, hslot, hoccurs, hlater⟩

end netbox_sync.calendar_schedule
