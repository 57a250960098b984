import Mathlib.Data.List.Chain
import Mathlib.Data.List.Dedup
import Mathlib.Data.List.Pairwise
import NetboxSync.Lib.Sorted

open sorting

namespace sweep

variable {σ : Type*}

/-- Neighbouring numbers with one value. -/
structure Segment (σ : Type*) where
  first : Nat
  last : Nat
  value : σ
deriving DecidableEq, Repr

/-- Where each span starts and where it no longer is. -/
def events (spans : List (Nat × Nat)) : List (Nat × Nat × Bool) :=
  spans.zipIdx.flatMap (fun (span, index) => [(span.1, index, true), (span.2 + 1, index, false)])

def points (spans : List (Nat × Nat)) (low high : Nat) : List Nat :=
  sorted id (low :: (high + 1) :: (events spans).map Prod.fst).dedup

def enter (active : List Nat) (event : Nat × Bool) : List Nat :=
  if event.2 then active.insert event.1 else active.filter (· ≠ event.1)

def arrive (spans : List (Nat × Nat)) (point : Nat) (active : List Nat) : List Nat :=
  (((events spans).filter (fun event => event.1 = point)).map Prod.snd).foldl enter active

/-- The latest segment grows where its value goes on. -/
def extend [DecidableEq σ] (result : List (Segment σ)) (first last : Nat) (value : σ) : List (Segment σ) :=
  match result with
  | [] => [⟨first, last, value⟩]
  | segment :: older =>
    if segment.value = value ∧ segment.last + 1 = first then ⟨segment.first, last, value⟩ :: older
    else ⟨first, last, value⟩ :: segment :: older

/-- The segments between the points, the latest first. -/
def scan [DecidableEq σ] (spans : List (Nat × Nat)) (describe : List Nat → σ) :
    List Nat → List Nat → List (Segment σ) → List (Segment σ)
  | a :: b :: rest, active, result =>
    let active := arrive spans a active
    scan spans describe (b :: rest) active (extend result a (b - 1) (describe active))
  | _, _, result => result

def segments [DecidableEq σ] (spans : List (Nat × Nat)) (describe : List Nat → σ) (low high : Nat) : List (Segment σ) :=
  (scan spans describe (points spans low high) [] []).reverse

/-- The span with the index is on the number. -/
def Covers (spans : List (Nat × Nat)) (index number : Nat) : Prop :=
  ∃ span, spans[index]? = some span ∧ span.1 ≤ number ∧ number ≤ span.2

variable {spans : List (Nat × Nat)} {active : List Nat} {low stop : Nat}

theorem mem_events {point index : Nat} {starts : Bool} :
    (point, index, starts) ∈ events spans ↔
      ∃ span, spans[index]? = some span ∧ point = if starts then span.1 else span.2 + 1 := by
  simp only [events, List.mem_flatMap, Prod.exists, List.mem_zipIdx_iff_getElem?, List.mem_cons, Prod.mk.injEq,
    List.not_mem_nil, or_false]
  constructor
  · rintro ⟨first, last, position, hspan, ⟨hpoint, rfl, rfl⟩ | ⟨hpoint, rfl, rfl⟩⟩
    · exact ⟨first, last, hspan, hpoint⟩
    · exact ⟨first, last, hspan, hpoint⟩
  · rintro ⟨first, last, hspan, rfl⟩
    cases starts
    · exact ⟨first, last, index, hspan, .inr ⟨rfl, rfl, rfl⟩⟩
    · exact ⟨first, last, index, hspan, .inl ⟨rfl, rfl, rfl⟩⟩

theorem mem_foldl_enter {index : Nat} {changes : List (Nat × Bool)}
    (h : ¬ ((index, true) ∈ changes ∧ (index, false) ∈ changes)) (active : List Nat) :
    index ∈ changes.foldl enter active ↔
      (index, true) ∈ changes ∨ index ∈ active ∧ (index, false) ∉ changes := by
  induction changes generalizing active with
  | nil => simp
  | cons change rest ih =>
    obtain ⟨other, starts⟩ := change
    rw [List.foldl_cons, ih (fun hboth => h ⟨List.mem_cons_of_mem _ hboth.1, List.mem_cons_of_mem _ hboth.2⟩)]
    by_cases hsame : other = index
    · subst hsame
      cases starts
      · have hnone : (other, true) ∉ rest := fun hmem => h ⟨List.mem_cons_of_mem _ hmem, List.mem_cons_self⟩
        simp [enter, hnone]
      · have hnone : (other, false) ∉ rest := fun hmem => h ⟨List.mem_cons_self, List.mem_cons_of_mem _ hmem⟩
        simp [enter, hnone]
    · have hother : index ≠ other := Ne.symm hsame
      cases starts <;> simp [enter, hother]

/-- The active spans on arrival at a point: those that began before it and had not ended before it. -/
def Waiting (spans : List (Nat × Nat)) (point : Nat) (active : List Nat) : Prop :=
  ∀ index, index ∈ active ↔ ∃ span, spans[index]? = some span ∧ span.1 < point ∧ point ≤ span.2 + 1

theorem mem_arrive (hspans : ∀ span ∈ spans, span.1 ≤ span.2) {point : Nat} (hactive : Waiting spans point active)
    (index : Nat) : index ∈ arrive spans point active ↔ Covers spans index point := by
  have hmem : ∀ {starts : Bool}, (index, starts) ∈ ((events spans).filter (fun event => event.1 = point)).map Prod.snd ↔
      ∃ span, spans[index]? = some span ∧ point = if starts then span.1 else span.2 + 1 := by
    intro starts
    rw [← mem_events]
    simp
  have hboth : ¬ ((index, true) ∈ ((events spans).filter (fun event => event.1 = point)).map Prod.snd ∧
      (index, false) ∈ ((events spans).filter (fun event => event.1 = point)).map Prod.snd) := by
    rw [hmem, hmem]
    rintro ⟨⟨span, hspan, hfirst⟩, other, hother, hlast⟩
    rw [hspan, Option.some.injEq] at hother
    subst hother
    have hle := hspans span (List.mem_of_getElem? hspan)
    simp only [if_true, Bool.false_eq_true, if_false] at hfirst hlast
    omega
  rw [arrive, mem_foldl_enter hboth, hmem, hmem, hactive index, Covers]
  cases hspan : spans[index]? with
  | none => simp
  | some span =>
    have hle := hspans span (List.mem_of_getElem? hspan)
    simp only [Option.some.injEq, exists_eq_left', if_true, Bool.false_eq_true, if_false]
    omega

/-- Nothing starts or ends between two points. -/
theorem waiting_next {a b : Nat} (hab : a < b)
    (hbetween : ∀ span ∈ spans, (span.1 ≤ a ∨ b ≤ span.1) ∧ (span.2 < a ∨ b ≤ span.2 + 1))
    (hactive : ∀ index, index ∈ active ↔ Covers spans index a) :
    Waiting spans b active ∧ ∀ number, a ≤ number → number < b →
      ∀ index, index ∈ active ↔ Covers spans index number := by
  constructor
  · intro index
    rw [hactive, Covers]
    cases hspan : spans[index]? with
    | none => simp
    | some span =>
      have hspan := hbetween span (List.mem_of_getElem? hspan)
      simp only [Option.some.injEq, exists_eq_left']
      omega
  · intro number hlow hhigh index
    rw [hactive, Covers, Covers]
    cases hspan : spans[index]? with
    | none => simp
    | some span =>
      have hspan := hbetween span (List.mem_of_getElem? hspan)
      simp only [Option.some.injEq, exists_eq_left']
      omega

/-- The segments, the latest first, are all of the numbers from `low` up to `stop`, and neighbours have different
    values. -/
def Tiled (low : Nat) : Nat → List (Segment σ) → Prop
  | stop, [] => stop = low
  | stop, segment :: older => segment.last + 1 = stop ∧ segment.first ≤ segment.last ∧
      Tiled low segment.first older ∧ ∀ previous ∈ older.head?, previous.value ≠ segment.value

/-- Every segment has the value of each of its numbers. -/
def Valued (IsValue : Nat → σ → Prop) (result : List (Segment σ)) : Prop :=
  ∀ segment ∈ result, ∀ number, segment.first ≤ number → number ≤ segment.last → IsValue number segment.value

theorem extend_spec [DecidableEq σ] {IsValue : Nat → σ → Prop} {first last : Nat} {value : σ}
    {result : List (Segment σ)} (htiled : Tiled low first result) (hvalued : Valued IsValue result) (hle : first ≤ last)
    (hvalue : ∀ number, first ≤ number → number ≤ last → IsValue number value) :
    Tiled low (last + 1) (extend result first last value) ∧ Valued IsValue (extend result first last value) := by
  cases result with
  | nil =>
    refine ⟨⟨rfl, hle, htiled, by simp⟩, ?_⟩
    intro segment hsegment
    rw [List.mem_singleton.mp hsegment]
    exact hvalue
  | cons segment older =>
    obtain ⟨hlast, hsegment, holder, hdiffers⟩ := htiled
    rw [extend]
    split
    next hsame =>
      refine ⟨⟨rfl, by simp only; omega, holder, hsame.1 ▸ hdiffers⟩, ?_⟩
      intro other hother number hlow hhigh
      rcases List.mem_cons.mp hother with rfl | hmem
      · by_cases hnumber : number ≤ segment.last
        · exact hsame.1 ▸ hvalued segment List.mem_cons_self number hlow hnumber
        · exact hvalue number (by omega) hhigh
      · exact hvalued other (List.mem_cons_of_mem _ hmem) number hlow hhigh
    next hother =>
      have hne : segment.value ≠ value := fun hsame => hother ⟨hsame, hlast⟩
      refine ⟨⟨rfl, hle, ⟨hlast, hsegment, holder, hdiffers⟩, by simpa using hne⟩, ?_⟩
      intro other hmem
      rcases List.mem_cons.mp hmem with rfl | hmem
      · exact hvalue
      · exact hvalued other hmem

/-- The value of a number: what is described of the spans on it. -/
def IsValueOf (spans : List (Nat × Nat)) (describe : List Nat → σ) (number : Nat) (value : σ) : Prop :=
  ∃ active, (∀ index, index ∈ active ↔ Covers spans index number) ∧ value = describe active

theorem scan_spec [DecidableEq σ] {describe : List Nat → σ} (hspans : ∀ span ∈ spans, span.1 ≤ span.2) {a : Nat}
    {rest : List Nat} {result : List (Segment σ)} (hsorted : (a :: rest).Pairwise (· < ·))
    (hpoints : ∀ span ∈ spans, (span.1 ≤ a ∨ span.1 ∈ rest) ∧ (span.2 < a ∨ span.2 + 1 ∈ rest))
    (hactive : Waiting spans a active) (htiled : Tiled low a result)
    (hvalued : Valued (IsValueOf spans describe) result) :
    Tiled low ((a :: rest).getLast (List.cons_ne_nil a rest)) (scan spans describe (a :: rest) active result) ∧
      Valued (IsValueOf spans describe) (scan spans describe (a :: rest) active result) := by
  induction rest generalizing a active result with
  | nil => exact ⟨htiled, hvalued⟩
  | cons b rest ih =>
    obtain ⟨hless, hsorted⟩ := List.pairwise_cons.mp hsorted
    have hab := hless b List.mem_cons_self
    have hafter : ∀ point ∈ b :: rest, b ≤ point := by
      intro point hpoint
      rcases List.mem_cons.mp hpoint with rfl | hmem
      · exact Nat.le_refl point
      · exact Nat.le_of_lt ((List.pairwise_cons.mp hsorted).1 point hmem)
    have hbetween : ∀ span ∈ spans, (span.1 ≤ a ∨ b ≤ span.1) ∧ (span.2 < a ∨ b ≤ span.2 + 1) := by
      intro span hspan
      obtain ⟨hfirst, hlast⟩ := hpoints span hspan
      exact ⟨hfirst.imp_right (hafter _), hlast.imp_right (hafter _)⟩
    obtain ⟨hwaiting, hcovers⟩ := waiting_next hab hbetween (mem_arrive hspans hactive)
    obtain ⟨htiled', hvalued'⟩ := extend_spec htiled hvalued (by omega : a ≤ b - 1)
      (fun number hlow hhigh => ⟨arrive spans a active, hcovers number hlow (by omega), rfl⟩)
    rw [Nat.sub_add_cancel (by omega)] at htiled'
    rw [List.getLast_cons_cons, scan]
    apply ih hsorted _ hwaiting htiled' hvalued'
    intro span hspan
    obtain ⟨hfirst, hlast⟩ := hpoints span hspan
    constructor
    · rcases hfirst with hle | hmem
      · exact .inl (by omega)
      · rcases List.mem_cons.mp hmem with heq | hmem
        · exact .inl (by omega)
        · exact .inr hmem
    · rcases hlast with hlt | hmem
      · exact .inl (by omega)
      · rcases List.mem_cons.mp hmem with heq | hmem
        · exact .inl (by omega)
        · exact .inr hmem

theorem Tiled.bounds {result : List (Segment σ)} (h : Tiled low stop result) :
    low ≤ stop ∧ ∀ segment ∈ result, segment.first ≤ segment.last ∧ segment.last < stop := by
  induction result generalizing stop with
  | nil => exact ⟨Nat.le_of_eq h.symm, by simp⟩
  | cons segment older ih =>
    obtain ⟨hlast, hsegment, holder, -⟩ := h
    obtain ⟨hlow, hbounds⟩ := ih holder
    refine ⟨by omega, ?_⟩
    intro other hother
    rcases List.mem_cons.mp hother with rfl | hmem
    · omega
    · have hother := hbounds other hmem
      omega

theorem Tiled.pairwise {result : List (Segment σ)} (h : Tiled low stop result) :
    result.reverse.Pairwise (fun s t => s.last < t.first) := by
  rw [List.pairwise_reverse]
  induction result generalizing stop with
  | nil => exact List.Pairwise.nil
  | cons segment older ih =>
    obtain ⟨-, -, holder, -⟩ := h
    exact (ih holder).cons (fun other hother => (holder.bounds.2 other hother).2)

theorem Tiled.covers {result : List (Segment σ)} (h : Tiled low stop result) (number : Nat) :
    (∃ segment ∈ result, segment.first ≤ number ∧ number ≤ segment.last) ↔ low ≤ number ∧ number < stop := by
  induction result generalizing stop with
  | nil =>
    have hstop : stop = low := h
    simp only [List.not_mem_nil, false_and, exists_false, false_iff]
    omega
  | cons segment older ih =>
    obtain ⟨hlast, hsegment, holder, -⟩ := h
    have hlow := holder.bounds.1
    rw [List.exists_mem_cons_iff, ih holder]
    omega

theorem Tiled.differ {result : List (Segment σ)} (h : Tiled low stop result) :
    result.reverse.IsChain (fun s t => s.value ≠ t.value) := by
  rw [List.isChain_reverse]
  induction result generalizing stop with
  | nil => exact List.isChain_nil
  | cons segment older ih =>
    obtain ⟨-, -, holder, hdiffers⟩ := h
    exact List.isChain_cons.mpr ⟨hdiffers, ih holder⟩

/-- The points are strictly ascending, from the low end to behind the high end. -/
theorem points_spec {high : Nat} (hle : low ≤ high)
    (hspans : ∀ span ∈ spans, low ≤ span.1 ∧ span.1 ≤ span.2 ∧ span.2 ≤ high) :
    ∃ rest, points spans low high = low :: rest ∧ (low :: rest).Pairwise (· < ·) ∧
      (low :: rest).getLast (List.cons_ne_nil low rest) = high + 1 ∧
      ∀ span ∈ spans, span.1 ∈ low :: rest ∧ span.2 + 1 ∈ low :: rest := by
  have hmem : ∀ point, point ∈ points spans low high ↔
      point = low ∨ point = high + 1 ∨ ∃ change, (point, change) ∈ events spans := by
    intro point
    simp only [points, mem_sorted, List.mem_dedup, List.mem_cons, List.mem_map, Prod.exists]
    simp
  have hbounds : ∀ point ∈ points spans low high, low ≤ point ∧ point ≤ high + 1 := by
    intro point hpoint
    rcases (hmem point).mp hpoint with rfl | rfl | ⟨⟨index, starts⟩, hevent⟩
    · omega
    · omega
    · obtain ⟨span, hspan, rfl⟩ := mem_events.mp hevent
      have hspan := hspans span (List.mem_of_getElem? hspan)
      split <;> omega
  have hsorted : (points spans low high).Pairwise (· < ·) := by
    have hnodup : (points spans low high).Nodup := (sorted_perm _ _).nodup_iff.mpr (List.nodup_dedup _)
    exact ((sorted_pairwise id _).and hnodup).imp (fun h => lt_of_le_of_ne h.1 h.2)
  have hspan : ∀ span ∈ spans, span.1 ∈ points spans low high ∧ span.2 + 1 ∈ points spans low high := by
    intro span hspan
    obtain ⟨index, hindex⟩ := List.mem_iff_getElem?.mp hspan
    exact ⟨(hmem _).mpr (.inr (.inr ⟨(index, true), mem_events.mpr ⟨span, hindex, rfl⟩⟩)),
      (hmem _).mpr (.inr (.inr ⟨(index, false), mem_events.mpr ⟨span, hindex, rfl⟩⟩))⟩
  have hlow := (hmem low).mpr (.inl rfl)
  have hhigh := (hmem (high + 1)).mpr (.inr (.inl rfl))
  generalize points spans low high = found at hmem hbounds hsorted hspan hlow hhigh
  cases found with
  | nil => exact absurd hlow List.not_mem_nil
  | cons first rest =>
    have hfirst : first = low := by
      have hge := (hbounds first List.mem_cons_self).1
      rcases List.mem_cons.mp hlow with heq | hrest
      · exact heq.symm
      · have hlt := (List.pairwise_cons.mp hsorted).1 low hrest
        omega
    subst hfirst
    refine ⟨rest, rfl, hsorted, ?_, hspan⟩
    have hge := (hbounds _ (List.getLast_mem (List.cons_ne_nil first rest))).2
    have hle := (hsorted.imp Nat.le_of_lt).rel_getLast hhigh
    omega

/-- A sweep splits the numbers from `low` to `high` into segments that each have the value of all their numbers and
    cannot be joined. -/
theorem segments_spec [DecidableEq σ] (describe : List Nat → σ) {high : Nat} (hle : low ≤ high)
    (hspans : ∀ span ∈ spans, low ≤ span.1 ∧ span.1 ≤ span.2 ∧ span.2 ≤ high) :
    (segments spans describe low high).Pairwise (fun s t => s.last < t.first) ∧
      (∀ segment ∈ segments spans describe low high, segment.first ≤ segment.last) ∧
      (∀ number, (∃ segment ∈ segments spans describe low high, segment.first ≤ number ∧ number ≤ segment.last) ↔
        low ≤ number ∧ number ≤ high) ∧
      (segments spans describe low high).IsChain (fun s t => s.value ≠ t.value) ∧
      Valued (IsValueOf spans describe) (segments spans describe low high) := by
  obtain ⟨rest, hpoints, hsorted, hlast, hmem⟩ := points_spec hle hspans
  have hwaiting : Waiting spans low [] := by
    intro index
    simp only [List.not_mem_nil, false_iff]
    rintro ⟨span, hspan, hlt, -⟩
    have hspan := hspans span (List.mem_of_getElem? hspan)
    omega
  have hrest : ∀ span ∈ spans, (span.1 ≤ low ∨ span.1 ∈ rest) ∧ (span.2 < low ∨ span.2 + 1 ∈ rest) := by
    intro span hspan
    obtain ⟨hfirst, hend⟩ := hmem span hspan
    have hbounds := hspans span hspan
    refine ⟨(List.mem_cons.mp hfirst).imp_left Nat.le_of_eq, ?_⟩
    rcases List.mem_cons.mp hend with heq | hmem
    · omega
    · exact .inr hmem
  have hempty : Tiled low low ([] : List (Segment σ)) ∧ Valued (IsValueOf spans describe) [] := ⟨rfl, by simp [Valued]⟩
  obtain ⟨htiled, hvalued⟩ := scan_spec (fun span hspan => (hspans span hspan).2.1) hsorted hrest hwaiting hempty.1
    hempty.2
  rw [hlast, ← hpoints] at htiled
  rw [← hpoints] at hvalued
  refine ⟨htiled.pairwise, ?_, ?_, htiled.differ, ?_⟩
  · intro segment hsegment
    exact (htiled.bounds.2 segment (List.mem_reverse.mp hsegment)).1
  · intro number
    have hcovers := htiled.covers number
    simp only [segments, List.mem_reverse]
    rw [hcovers]
    omega
  · intro segment hsegment
    exact hvalued segment (List.mem_reverse.mp hsegment)

end sweep
