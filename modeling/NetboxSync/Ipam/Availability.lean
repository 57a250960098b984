import Mathlib.Data.Finset.Card
import Mathlib.Data.List.ReduceOption
import NetboxSync.Lib.Except
import NetboxSync.Lib.Ip.Scoped
import NetboxSync.Lib.Sweep

open ipaddress sorting sweep

namespace netbox_guard.ipam_availability

inductive State where
  | unusable
  | conflict
  | reserved
  | assigned
  | gateway
  | observed
  | dhcp
  | candidate
  | unknown
deriving DecidableEq, Repr

/-- `PRIORITY`: the states that evidence may have. -/
def PRIORITY : State → Option Nat
  | .unusable => some 9
  | .conflict => some 8
  | .reserved => some 7
  | .assigned => some 6
  | .gateway => some 5
  | .observed => some 4
  | .dhcp => some 3
  | _ => none

def LABELS : State → String
  | .unusable => "Служебный адрес"
  | .conflict => "Конфликт"
  | .reserved => "Зарезервирован"
  | .assigned => "Назначен"
  | .gateway => "Шлюз / VIP"
  | .observed => "Обнаружен"
  | .dhcp => "DHCP-пул"
  | .candidate => "Кандидат для выдачи"
  | .unknown => "Недостаточно свежих данных"

structure Row where
  start : String
  «end» : Option String := none
  state : State
  owner : Option String := none
deriving DecidableEq, Repr

/-- A row of evidence with the part of the prefix it is about. -/
structure Record where
  span : Nat × Nat
  state : State
  owner : Option String
deriving DecidableEq, Repr

structure Interval where
  start : String
  «end» : String
  last : Nat
  state : State
  label : String
  owners : List String
deriving DecidableEq, Repr

/-- The record of a row, or nothing where it is not about the prefix. -/
def clamp (network : Block) (row : Row) : Except String (Option Record) :=
  match ip_address row.start, ip_address (row.end.getD row.start) with
  | some start, some «end» =>
    let span := (max network.low start.number, min network.high «end».number)
    if start.version ≠ network.version ∨ «end».version ≠ network.version then .ok none
    else if span.2 < span.1 then .ok none
    else if PRIORITY row.state = none then .error "Unknown evidence state"
    else .ok (some ⟨span, row.state, row.owner⟩)
  | _, _ => .error "does not appear to be an IPv4 or IPv6 address"

def markers (network : Block) : List Record :=
  if network.version = 4 ∧ network.prefixlen < 31 then
    [network.low, network.high].map (fun number =>
      ⟨(number, number), .unusable, some "Подсеть / broadcast"⟩)
  else []

/-- `PRIORITY[state]` -/
def rank (state : State) : Nat := (PRIORITY state).getD 0

/-- `max` by the priority: the first of the highest. -/
def highest (default : State) : List State → State
  | [] => default
  | state :: rest => rest.foldl (fun best state => if rank best < rank state then state else best) state

/-- The state and the owners that the active records give. -/
def signature (records : List Record) (fresh : Bool) (active : List Nat) : State × List String :=
  let rows := (sorted id active).filterMap (fun index => records[index]?)
  let state := highest (if fresh then .candidate else .unknown) (rows.map Record.state)
  let owners := sorted id ((rows.filterMap Record.owner).filter (· ≠ "")).dedup
  let assignments := ((rows.filter (fun row => row.state = .assigned)).map Record.owner).dedup
  (if 1 < assignments.length then .conflict else state, owners)

def interval (version : Nat) (segment : Segment (State × List String)) : Interval where
  start := (Address.ofNat version segment.first).str
  «end» := (Address.ofNat version segment.last).str
  last := segment.last
  state := segment.value.1
  label := LABELS segment.value.1
  owners := segment.value.2

def ranges (pfx : String) (evidence : List Row) (fresh : Bool) : Except String (List Interval) :=
  match loose_network pfx with
  | none => .error "does not appear to be an IPv4 or IPv6 network"
  | some network =>
    if 10000 < evidence.length then .error "Too many address observations"
    else do
      let clamped ← evidence.mapM (clamp network)
      let records := clamped.reduceOption ++ markers network
      let found := segments (records.map Record.span) (signature records fresh) network.low
        network.high
      return found.map (interval network.version)

/-- What covers an address: a state and the owner that gives it. -/
abbrev Covering := State → Option String → Prop

def Covering.Disputed (covering : Covering) : Prop :=
  ∃ owner other, covering .assigned owner ∧ covering .assigned other ∧ owner ≠ other

/-- The state and the owners of an address that is covered so. -/
structure Describes (covering : Covering) (fresh : Bool) (value : State × List String) : Prop where
  conflict : covering.Disputed → value.1 = .conflict
  highest : ¬ covering.Disputed → (∃ state owner, covering state owner) →
    (∃ owner, covering value.1 owner) ∧ ∀ state owner, covering state owner → rank state ≤ rank value.1
  absent : (¬ ∃ state owner, covering state owner) → value.1 = if fresh then .candidate else .unknown
  ascending : value.2.Pairwise (· < ·)
  owners : ∀ owner, owner ∈ value.2 ↔ owner ≠ "" ∧ ∃ state, covering state (some owner)

theorem foldl_highest (states : List State) (state : State) :
    (states.foldl (fun best state => if rank best < rank state then state else best) state) ∈ state :: states ∧
      ∀ other ∈ state :: states,
        rank other ≤ rank (states.foldl (fun best state => if rank best < rank state then state else best) state) := by
  induction states generalizing state with
  | nil => simp
  | cons next rest ih =>
    obtain ⟨hmem, hmax⟩ := ih (if rank state < rank next then next else state)
    have hnext := hmax _ List.mem_cons_self
    rw [List.foldl_cons]
    constructor
    · rcases List.mem_cons.mp hmem with heq | hrest
      · rw [heq]
        split <;> simp
      · exact List.mem_cons_of_mem _ (List.mem_cons_of_mem _ hrest)
    · intro other hother
      rcases List.mem_cons.mp hother with rfl | hother
      · exact le_trans (by split <;> omega) hnext
      · rcases List.mem_cons.mp hother with rfl | hrest
        · exact le_trans (by split <;> omega) hnext
        · exact hmax other (List.mem_cons_of_mem _ hrest)

theorem highest_spec (default : State) {states : List State} (h : states ≠ []) :
    highest default states ∈ states ∧ ∀ other ∈ states, rank other ≤ rank (highest default states) := by
  cases states with
  | nil => exact absurd rfl h
  | cons state rest => exact foldl_highest rest state

theorem one_lt_length_dedup {α : Type*} [DecidableEq α] {items : List α} :
    1 < items.dedup.length ↔ ∃ a ∈ items, ∃ b ∈ items, a ≠ b := by
  rw [← List.card_toFinset, Finset.one_lt_card]
  simp only [List.mem_toFinset]

theorem signature_describes (records : List Record) (fresh : Bool) (active : List Nat) :
    Describes (fun state owner => ∃ index ∈ active, ∃ span, records[index]? = some ⟨span, state, owner⟩) fresh
      (signature records fresh active) := by
  generalize hrows : (sorted id active).filterMap (fun index => records[index]?) = rows
  have hmem : ∀ state owner, (∃ index ∈ active, ∃ span, records[index]? = some ⟨span, state, owner⟩) ↔
      ∃ row ∈ rows, row.state = state ∧ row.owner = owner := by
    intro state owner
    simp only [← hrows, List.mem_filterMap, mem_sorted]
    constructor
    · rintro ⟨index, hindex, span, hrecord⟩
      exact ⟨_, ⟨index, hindex, hrecord⟩, rfl, rfl⟩
    · rintro ⟨⟨span, _, _⟩, ⟨index, hindex, hrecord⟩, rfl, rfl⟩
      exact ⟨index, hindex, span, hrecord⟩
  simp only [hmem, signature, hrows]
  have hdisputed : 1 < ((rows.filter (fun row => row.state = .assigned)).map Record.owner).dedup.length ↔
      Covering.Disputed (fun state owner => ∃ row ∈ rows, row.state = state ∧ row.owner = owner) := by
    rw [one_lt_length_dedup]
    simp only [List.mem_map, List.mem_filter, decide_eq_true_eq, Covering.Disputed]
    constructor
    · rintro ⟨owner, ⟨row, ⟨hrow, hstate⟩, rfl⟩, other, ⟨row', ⟨hrow', hstate'⟩, rfl⟩, hne⟩
      exact ⟨row.owner, row'.owner, ⟨row, hrow, hstate, rfl⟩, ⟨row', hrow', hstate', rfl⟩, hne⟩
    · rintro ⟨owner, other, ⟨row, hrow, hstate, rfl⟩, ⟨row', hrow', hstate', rfl⟩, hne⟩
      exact ⟨row.owner, ⟨row, ⟨hrow, hstate⟩, rfl⟩, row'.owner, ⟨row', ⟨hrow', hstate'⟩, rfl⟩, hne⟩
  refine ⟨?_, ?_, ?_, ?_, ?_⟩
  · intro h
    rw [if_pos (hdisputed.mpr h)]
  · rintro h ⟨_, _, row, hrow, -⟩
    rw [if_neg (fun hlength => h (hdisputed.mp hlength))]
    have hne : rows.map Record.state ≠ [] := List.ne_nil_of_mem (List.mem_map_of_mem hrow)
    obtain ⟨hhighest, hmax⟩ := highest_spec (if fresh then .candidate else .unknown) hne
    obtain ⟨best, hbest, hstate⟩ := List.mem_map.mp hhighest
    refine ⟨⟨best.owner, best, hbest, hstate, rfl⟩, ?_⟩
    rintro _ _ ⟨other, hother, rfl, -⟩
    exact hmax _ (List.mem_map_of_mem hother)
  · intro habsent
    have hnil : rows = [] := List.eq_nil_iff_forall_not_mem.mpr (fun row hrow => habsent ⟨_, _, row, hrow, rfl, rfl⟩)
    simp [hnil, highest]
  · have hnodup := (sorted_perm id ((rows.filterMap Record.owner).filter (· ≠ "")).dedup).nodup_iff.mpr
      (List.nodup_dedup _)
    exact ((sorted_pairwise id _).and hnodup).imp (fun h => lt_of_le_of_ne h.1 h.2)
  · intro owner
    simp only [mem_sorted, List.mem_dedup, List.mem_filter, List.mem_filterMap, decide_eq_true_eq]
    constructor
    · rintro ⟨⟨row, hrow, howner⟩, hne⟩
      exact ⟨hne, row.state, row, hrow, rfl, howner⟩
    · rintro ⟨hne, _, row, hrow, -, howner⟩
      exact ⟨⟨row, hrow, howner⟩, hne⟩

/-- The row has two addresses and a state that evidence may have. -/
def Row.Valid (row : Row) : Prop :=
  (ip_address row.start).isSome ∧ (ip_address (row.end.getD row.start)).isSome ∧ PRIORITY row.state ≠ none

/-- The row is about the number as an address of the version. -/
def Row.On (row : Row) (version number : Nat) : Prop :=
  ∃ start «end», ip_address row.start = some start ∧ ip_address (row.end.getD row.start) = some «end» ∧
    start.version = version ∧ «end».version = version ∧ start.number ≤ number ∧ number ≤ «end».number

/-- What covers an address: the rows about it, and what marks both ends of an IPv4 network. -/
def covering (network : Block) (evidence : List Row) (number : Nat) : Covering := fun state owner =>
  (∃ row ∈ evidence, row.On network.version number ∧ row.state = state ∧ row.owner = owner) ∨
    network.version = 4 ∧ network.prefixlen < 31 ∧
      (number = network.low ∨ number = network.high) ∧ state = .unusable ∧
      owner = some "Подсеть / broadcast"

theorem clamp_spec (network : Block) {row : Row} (hrow : row.Valid) :
    ∃ clamped, clamp network row = .ok clamped ∧
      (∀ record ∈ clamped, network.low ≤ record.span.1 ∧ record.span.1 ≤ record.span.2 ∧
        record.span.2 ≤ network.high) ∧
      ∀ number, network.low ≤ number → number ≤ network.high → ∀ state owner,
        (∃ span, clamped = some ⟨span, state, owner⟩ ∧ span.1 ≤ number ∧ number ≤ span.2) ↔
          row.On network.version number ∧ row.state = state ∧ row.owner = owner := by
  obtain ⟨hstart, hend, hstate⟩ := hrow
  obtain ⟨start, hstart⟩ := Option.isSome_iff_exists.mp hstart
  obtain ⟨finish, hend⟩ := Option.isSome_iff_exists.mp hend
  have hon : ∀ number, row.On network.version number ↔
      start.version = network.version ∧ finish.version = network.version ∧
        start.number ≤ number ∧ number ≤ finish.number := by
    intro number
    simp [Row.On, hstart, hend]
  simp only [clamp, hstart, hend, hon]
  split
  next hversion =>
    refine ⟨none, rfl, by simp, ?_⟩
    intro number _ _ state owner
    simp only [reduceCtorEq, false_and, exists_false, false_iff]
    omega
  next hversion =>
    split
    next hempty =>
      refine ⟨none, rfl, by simp, ?_⟩
      intro number _ _ state owner
      simp only [reduceCtorEq, false_and, exists_false, false_iff]
      omega
    next hempty =>
      refine ⟨_, rfl, ?_, ?_⟩
      · intro record hrecord
        cases hrecord
        simp only
        omega
      · intro number hlow hhigh state owner
        simp only [Option.some.injEq, Record.mk.injEq]
        constructor
        · rintro ⟨span, ⟨rfl, hstate, howner⟩, hfirst, hlast⟩
          simp only at hfirst hlast
          exact ⟨by omega, hstate, howner⟩
        · rintro ⟨hspan, hstate, howner⟩
          exact ⟨_, ⟨rfl, hstate, howner⟩, by simp only; omega, by simp only; omega⟩

theorem mem_markers {network : Block} {span : Nat × Nat} {state : State} {owner : Option String} :
    ⟨span, state, owner⟩ ∈ markers network ↔
      network.version = 4 ∧ network.prefixlen < 31 ∧
        (span = (network.low, network.low) ∨
          span = (network.high, network.high)) ∧ state = .unusable ∧ owner = some "Подсеть / broadcast" := by
  rw [markers]
  split
  next h =>
    simp only [List.map_cons, List.map_nil, List.mem_cons, Record.mk.injEq, List.not_mem_nil, or_false, h, true_and]
    tauto
  next h =>
    simp only [List.not_mem_nil, false_iff]
    exact fun hmarker => h ⟨hmarker.1, hmarker.2.1⟩

/-- The records of valid evidence stay within the network and cover what the evidence covers. -/
theorem records_spec {network : Block} (hnetwork : network.low ≤ network.high)
    {evidence : List Row} (hvalid : ∀ row ∈ evidence, row.Valid) :
    ∃ clamped, evidence.mapM (clamp network) = .ok clamped ∧
      (∀ record ∈ clamped.reduceOption ++ markers network, network.low ≤ record.span.1 ∧
        record.span.1 ≤ record.span.2 ∧ record.span.2 ≤ network.high) ∧
      ∀ number, network.low ≤ number → number ≤ network.high → ∀ state owner,
        (∃ span, ⟨span, state, owner⟩ ∈ clamped.reduceOption ++ markers network ∧ span.1 ≤ number ∧ number ≤ span.2) ↔
          covering network evidence number state owner := by
  obtain ⟨clamped, hclamped⟩ := Except.exists_mapM_eq_ok (fun row hrow =>
    (clamp_spec network (hvalid row hrow)).imp (fun _ h => h.1))
  have hall := Except.mapM_eq_ok_iff.mp hclamped
  refine ⟨clamped, hclamped, ?_, ?_⟩
  · intro record hrecord
    rcases List.mem_append.mp hrecord with hmem | hmarker
    · obtain ⟨row, hrow, hrecord⟩ := hall.exists_of_mem_right (List.reduceOption_mem_iff.mp hmem)
      obtain ⟨clamped', hclamp, hbounds, -⟩ := clamp_spec network (hvalid row hrow)
      rw [hclamp, Except.ok.injEq] at hrecord
      exact hbounds record hrecord
    · obtain ⟨-, -, hspan, -⟩ := mem_markers.mp hmarker
      rcases hspan with hspan | hspan <;> simp [hspan, hnetwork]
  · intro number hlow hhigh state owner
    constructor
    · rintro ⟨span, hmem, hfirst, hlast⟩
      rcases List.mem_append.mp hmem with hmem | hmarker
      · obtain ⟨row, hrow, hrecord⟩ := hall.exists_of_mem_right (List.reduceOption_mem_iff.mp hmem)
        obtain ⟨clamped', hclamp, -, hcovers⟩ := clamp_spec network (hvalid row hrow)
        rw [hclamp, Except.ok.injEq] at hrecord
        exact .inl ⟨row, hrow, (hcovers number hlow hhigh state owner).mp ⟨span, hrecord, hfirst, hlast⟩⟩
      · obtain ⟨hversion, hlen, hspan, hstate, howner⟩ := mem_markers.mp hmarker
        refine .inr ⟨hversion, hlen, ?_, hstate, howner⟩
        rcases hspan with rfl | rfl
        · exact .inl (Nat.le_antisymm hlast hfirst)
        · exact .inr (Nat.le_antisymm hlast hfirst)
    · rintro (⟨row, hrow, hon⟩ | ⟨hversion, hlen, hnumber, hstate, howner⟩)
      · obtain ⟨clamped', hclamp, -, hcovers⟩ := clamp_spec network (hvalid row hrow)
        obtain ⟨span, hspan, hfirst, hlast⟩ := (hcovers number hlow hhigh state owner).mpr hon
        obtain ⟨record, hrecord, hrow⟩ := hall.exists_of_mem_left hrow
        rw [hclamp, Except.ok.injEq, hspan] at hrow
        exact ⟨span, List.mem_append_left _ (List.reduceOption_mem_iff.mpr (hrow ▸ hrecord)), hfirst, hlast⟩
      · refine ⟨(number, number), List.mem_append_right _ (mem_markers.mpr ⟨hversion, hlen, ?_, hstate, howner⟩),
          Nat.le_refl _, Nat.le_refl _⟩
        rcases hnumber with rfl | rfl
        · exact .inl rfl
        · exact .inr rfl

/-- One address with two owners, in a reserved pool. -/
def shared : List Row :=
  [{ start := "10.0.0.1", «end» := some "10.0.0.3", state := .reserved, owner := some "pool" },
    { start := "10.0.0.2", state := .assigned, owner := some "web" }, { start := "10.0.0.2", state := .assigned }]

end netbox_guard.ipam_availability
