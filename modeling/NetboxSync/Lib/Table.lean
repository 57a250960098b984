import Mathlib.Data.List.Nodup

/-- A filter that only one member passes. -/
theorem List.filter_eq_singleton {α : Type} {items : List α} {p : α → Bool} {item : α}
    (hnodup : items.Nodup) (hmem : item ∈ items) (h : ∀ x ∈ items, p x = true ↔ x = item) :
    items.filter p = [item] := by
  induction items with
  | nil => cases hmem
  | cons first items ih =>
    obtain ⟨hnot, hnodup⟩ := List.nodup_cons.mp hnodup
    by_cases heq : first = item
    · subst heq
      rw [List.filter_cons_of_pos ((h first (by simp)).mpr rfl), List.cons.injEq, List.filter_eq_nil_iff]
      refine ⟨rfl, fun x hx hpass => hnot ?_⟩
      rw [← (h x (by simp [hx])).mp hpass]
      exact hx
    · rw [List.filter_cons_of_neg (fun hpass => heq ((h first (by simp)).mp hpass))]
      apply ih hnodup ((List.mem_cons.mp hmem).resolve_left (Ne.symm heq))
      exact fun x hx => h x (by simp [hx])

/-- A record that is known by a number. -/
class Row (α : Type) where
  id : α → Int

/-- The records of one endpoint, in order and under pairwise different ids. -/
structure Table (α : Type) [Row α] where
  rows : List α
  nodup : (rows.map Row.id).Nodup

namespace Table

variable {α : Type} [Row α]

variable (t : Table α) (id : Int) (f : α → α)

def ids : List Int := t.rows.map Row.id

def get : Option α := t.rows.find? (fun row => Row.id row = id)

/-- One record is changed in place and keeps its id. -/
def modify (hf : ∀ row, Row.id (f row) = Row.id row) : Table α where
  rows := t.rows.map (fun row => if Row.id row = id then f row else row)
  nodup := by
    have hids : (Row.id ∘ fun row => if Row.id row = id then f row else row) = (Row.id : α → Int) := by
      funext row
      simp only [Function.comp]
      split <;> simp [hf]
    rw [List.map_map, hids]
    exact t.nodup

def insert (row : α) (h : Row.id row ∉ t.ids) : Table α where
  rows := t.rows ++ [row]
  nodup := by
    rw [List.map_append, List.map_singleton, List.nodup_append]
    refine ⟨t.nodup, List.nodup_singleton _, fun a ha b hb => ?_⟩
    rw [List.mem_singleton.mp hb]
    rintro rfl
    exact h ha

/-- `UPDATE … WHERE`: the records that meet a condition change in place. -/
def updateWhere (p : α → Bool) (f : α → α) (hf : ∀ row, Row.id (f row) = Row.id row) : Table α where
  rows := t.rows.map (fun row => if p row then f row else row)
  nodup := by
    have hids : (Row.id ∘ fun row => if p row then f row else row) = (Row.id : α → Int) := by
      funext row
      simp only [Function.comp]
      split <;> simp [hf]
    rw [List.map_map, hids]
    exact t.nodup

/-- `DELETE … WHERE` -/
def deleteWhere (p : α → Bool) : Table α where
  rows := t.rows.filter (fun row => !p row)
  nodup := t.nodup.sublist (List.filter_sublist.map Row.id)

/-- A supply of ids no record has yet. -/
structure Fresh where
  next : List Int → Int
  notMem : ∀ ids, next ids ∉ ids

/-- Each id is one more than the largest so far. -/
def Fresh.after : Fresh where
  next ids := ids.foldr max 0 + 1
  notMem ids := by
    have hle : ∀ id ∈ ids, id ≤ ids.foldr max 0 := by
      intro id hid
      induction ids with
      | nil => cases hid
      | cons first ids ih =>
        rcases List.mem_cons.mp hid with rfl | hid
        · exact Int.le_max_left _ _
        · exact Int.le_trans (ih hid) (Int.le_max_right _ _)
    intro hmem
    have := hle _ hmem
    omega

theorem eq_of_id {t : Table α} {a b : α} (ha : a ∈ t.rows) (hb : b ∈ t.rows) (h : Row.id a = Row.id b) : a = b :=
  List.inj_on_of_nodup_map t.nodup ha hb h

theorem rows_nodup : t.rows.Nodup := t.nodup.of_map

/-- The rows under a key that only one row has. -/
theorem filter_key_eq_singleton {κ : Type} [DecidableEq κ] {t : Table α} {key_of : α → Option κ} {key : κ} {row : α}
    (hrow : row ∈ t.rows) (hkey : key_of row = some key)
    (honly : ∀ other ∈ t.rows, key_of other = some key → other = row) :
    t.rows.filter (fun row => key_of row = some key) = [row] := by
  apply List.filter_eq_singleton t.rows_nodup hrow
  intro other hother
  rw [decide_eq_true_iff]
  refine ⟨honly other hother, ?_⟩
  rintro rfl
  exact hkey

theorem mem_of_get {t : Table α} {id : Int} {row : α} (h : t.get id = some row) : row ∈ t.rows ∧ Row.id row = id := by
  have hid := List.find?_some h
  rw [decide_eq_true_eq] at hid
  exact ⟨List.mem_of_find?_eq_some h, hid⟩

theorem get_eq_some_iff {t : Table α} {id : Int} {row : α} : t.get id = some row ↔ row ∈ t.rows ∧ Row.id row = id := by
  refine ⟨mem_of_get, ?_⟩
  rintro ⟨hmem, rfl⟩
  cases hget : t.get (Row.id row) with
  | none =>
    have hno := List.find?_eq_none.mp hget row hmem
    simp at hno
  | some found =>
    obtain ⟨hfound, hid⟩ := mem_of_get hget
    rw [eq_of_id hfound hmem hid]

theorem get_of_mem {t : Table α} {row : α} (h : row ∈ t.rows) : t.get (Row.id row) = some row :=
  get_eq_some_iff.mpr ⟨h, rfl⟩

theorem mem_ids_iff {t : Table α} {id : Int} : id ∈ t.ids ↔ ∃ row, t.get id = some row := by
  constructor
  · intro h
    obtain ⟨row, hmem, hid⟩ := List.mem_map.mp h
    exact ⟨row, get_eq_some_iff.mpr ⟨hmem, hid⟩⟩
  · rintro ⟨row, hget⟩
    obtain ⟨hmem, hid⟩ := get_eq_some_iff.mp hget
    exact List.mem_map.mpr ⟨row, hmem, hid⟩

theorem get_eq_none_iff {t : Table α} {id : Int} : t.get id = none ↔ id ∉ t.ids := by
  rw [mem_ids_iff, not_exists, Option.eq_none_iff_forall_ne_some]

@[simp]
theorem ids_modify (hf : ∀ row, Row.id (f row) = Row.id row) : (t.modify id f hf).ids = t.ids := by
  simp only [ids, modify, List.map_map]
  apply List.map_congr_left
  intro row _
  simp only [Function.comp]
  split <;> simp [hf]

theorem get_modify (id other : Int) (f : α → α) (hf : ∀ row, Row.id (f row) = Row.id row) :
    (t.modify id f hf).get other = if other = id then (t.get other).map f else t.get other := by
  cases hget : t.get other with
  | none =>
    rw [get_eq_none_iff] at hget
    have hnone : (t.modify id f hf).get other = none := by
      rw [get_eq_none_iff, ids_modify]
      exact hget
    simp [hnone]
  | some row =>
    obtain ⟨hmem, rfl⟩ := get_eq_some_iff.mp hget
    have hmapped : (if Row.id row = id then f row else row) ∈ (t.modify id f hf).rows :=
      List.mem_map.mpr ⟨row, hmem, rfl⟩
    by_cases hid : Row.id row = id
    · rw [if_pos hid] at hmapped
      rw [if_pos hid, Option.map_some, get_eq_some_iff]
      exact ⟨hmapped, hf row⟩
    · rw [if_neg hid] at hmapped
      rw [if_neg hid]
      exact get_of_mem hmapped

theorem get_insert (row : α) (h : Row.id row ∉ t.ids) (id : Int) :
    (t.insert row h).get id = if id = Row.id row then some row else t.get id := by
  split
  · next hid =>
    rw [hid]
    exact get_of_mem (List.mem_append_right _ (List.mem_singleton_self row))
  · next hid =>
    have hlast : [row].find? (fun r => Row.id r = id) = none := by
      simp [Ne.symm hid]
    rw [get, insert, List.find?_append, hlast, Option.or_none, get]

/-- A record after those that meet a condition have changed. -/
theorem get_updateWhere (p : α → Bool) (f : α → α) (hf : ∀ row, Row.id (f row) = Row.id row) (id : Int) :
    (t.updateWhere p f hf).get id = (t.get id).map (fun row => if p row then f row else row) := by
  have hid : ((fun row : α => decide (Row.id row = id)) ∘ fun row => if p row then f row else row) =
      fun row => decide (Row.id row = id) := by
    funext row
    simp only [Function.comp]
    split <;> simp [hf]
  rw [get, updateWhere, List.find?_map, hid, ← get]

/-- A record that does not meet the condition stays. -/
theorem get_deleteWhere {t : Table α} {p : α → Bool} {id : Int} {row : α} (hget : t.get id = some row)
    (hp : p row = false) : (t.deleteWhere p).get id = some row := by
  obtain ⟨hmem, hid⟩ := get_eq_some_iff.mp hget
  exact get_eq_some_iff.mpr ⟨List.mem_filter.mpr ⟨hmem, by simp [hp]⟩, hid⟩

variable {α : Type} [Row α]

/-- What became of a table: the touched records are there and are as the entry says, and everything else is as it was.
    -/
structure Evolved (before after : Table α) (touched : List (Int × (α → Prop))) : Prop where
  settled : ∀ entry ∈ touched, ∃ row, after.get entry.1 = some row ∧ entry.2 row
  untouched : ∀ id, id ∉ touched.map Prod.fst → after.get id = before.get id

variable {before after : Table α} {touched : List (Int × (α → Prop))} {id : Int} {P : α → Prop}

theorem Evolved.refl (t : Table α) : Evolved t t [] := ⟨by simp, fun _ _ => rfl⟩

section

variable (h : Evolved before after touched)
include h

theorem Evolved.mem_ids (hid : id ∈ before.ids) : id ∈ after.ids := by
  by_cases htouched : id ∈ touched.map Prod.fst
  · obtain ⟨entry, hentry, rfl⟩ := List.mem_map.mp htouched
    obtain ⟨row, hrow, _⟩ := h.settled entry hentry
    exact mem_ids_iff.mpr ⟨row, hrow⟩
  · rw [mem_ids_iff, h.untouched id htouched]
    exact mem_ids_iff.mp hid

theorem Evolved.touched_mem_ids (hid : id ∈ touched.map Prod.fst) : id ∈ after.ids := by
  obtain ⟨entry, hentry, rfl⟩ := List.mem_map.mp hid
  obtain ⟨row, hrow, _⟩ := h.settled entry hentry
  exact mem_ids_iff.mpr ⟨row, hrow⟩

/-- A record of the table is a touched one, or it was there before. -/
theorem Evolved.cases {row : α} (hrow : row ∈ after.rows) :
    (∃ entry ∈ touched, entry.1 = Row.id row ∧ entry.2 row) ∨
      (Row.id row ∉ touched.map Prod.fst ∧ row ∈ before.rows) := by
  by_cases htouched : Row.id row ∈ touched.map Prod.fst
  · obtain ⟨entry, hentry, hid⟩ := List.mem_map.mp htouched
    obtain ⟨found, hfound, hsettled⟩ := h.settled entry hentry
    rw [hid, get_of_mem hrow, Option.some.injEq] at hfound
    exact .inl ⟨entry, hentry, hid, hfound ▸ hsettled⟩
  · have hbefore := h.untouched _ htouched
    rw [get_of_mem hrow] at hbefore
    exact .inr ⟨htouched, (get_eq_some_iff.mp hbefore.symm).1⟩

theorem Evolved.insert {row : α} (hfresh : Row.id row ∉ after.ids) (hP : P row) :
    Evolved before (after.insert row hfresh) ((Row.id row, P) :: touched) := by
  constructor
  · intro entry hentry
    rcases List.mem_cons.mp hentry with rfl | hentry
    · exact ⟨row, by simp [get_insert], hP⟩
    · obtain ⟨found, hfound, hsettled⟩ := h.settled entry hentry
      have hne : entry.1 ≠ Row.id row := by
        intro heq
        exact hfresh (heq ▸ mem_ids_iff.mpr ⟨found, hfound⟩)
      exact ⟨found, by rw [get_insert, if_neg hne, hfound], hsettled⟩
  · intro other hother
    simp only [List.map_cons, List.mem_cons, not_or] at hother
    rw [get_insert, if_neg hother.1, h.untouched other hother.2]

/-- A record that already is as it should be. -/
theorem Evolved.keep (hid : id ∉ touched.map Prod.fst) {row : α} (hrow : before.get id = some row) (hP : P row) :
    Evolved before after ((id, P) :: touched) := by
  constructor
  · intro entry hentry
    rcases List.mem_cons.mp hentry with rfl | hentry
    · exact ⟨row, (h.untouched id hid).trans hrow, hP⟩
    · exact h.settled entry hentry
  · intro other hother
    simp only [List.map_cons, List.mem_cons, not_or] at hother
    exact h.untouched other hother.2

end

/-- The record touched last is changed once more. -/
theorem Evolved.modify {Q : α → Prop} (h : Evolved before after ((id, P) :: touched))
    (hid : id ∉ touched.map Prod.fst) (f : α → α) (hf : ∀ row, Row.id (f row) = Row.id row)
    (hQ : ∀ row, P row → Q (f row)) : Evolved before (after.modify id f hf) ((id, Q) :: touched) := by
  constructor
  · intro entry hentry
    rcases List.mem_cons.mp hentry with rfl | hentry
    · obtain ⟨row, hrow, hP⟩ := h.settled (id, P) List.mem_cons_self
      exact ⟨f row, by simp [get_modify, hrow], hQ row hP⟩
    · obtain ⟨found, hfound, hsettled⟩ := h.settled entry (List.mem_cons_of_mem _ hentry)
      have hne : entry.1 ≠ id := by
        intro heq
        exact hid (heq ▸ List.mem_map_of_mem hentry)
      exact ⟨found, by rw [get_modify, if_neg hne, hfound], hsettled⟩
  · intro other hother
    simp only [List.map_cons, List.mem_cons, not_or] at hother
    rw [get_modify, if_neg hother.1]
    exact h.untouched other (by simp [hother])

theorem Evolved.weaken {Q : α → Prop} (h : Evolved before after ((id, P) :: touched))
    (hQ : ∀ row, after.get id = some row → P row → Q row) : Evolved before after ((id, Q) :: touched) := by
  refine ⟨?_, fun other hother => h.untouched other hother⟩
  intro entry hentry
  rcases List.mem_cons.mp hentry with rfl | hentry
  · obtain ⟨row, hrow, hP⟩ := h.settled (id, P) List.mem_cons_self
    exact ⟨row, hrow, hQ row hrow hP⟩
  · exact h.settled entry (List.mem_cons_of_mem _ hentry)

/-- An old record that is changed only where it has to be. -/
theorem Evolved.place (h : Evolved before after touched) (hid : id ∉ touched.map Prod.fst) {row : α}
    (hrow : before.get id = some row) (f : α → α) (hf : ∀ row, Row.id (f row) = Row.id row)
    (due : α → Bool) (hdue : due row = true → P (f row)) (hdone : due row = false → P row) :
    Evolved before (if (after.get id).any due then after.modify id f hf else after) ((id, P) :: touched) := by
  have hnow : after.get id = some row := (h.untouched id hid).trans hrow
  rw [hnow, Option.any_some]
  cases hrowdue : due row with
  | false => exact h.keep hid hrow (hdone hrowdue)
  | true =>
    have hkept : Evolved before after ((id, fun r => r = row) :: touched) := h.keep hid hrow rfl
    apply hkept.modify hid f hf
    rintro _ rfl
    exact hdue hrowdue

/-- Every record of the table before is still there, as the relation allows. -/
def Keeps (R : α → α → Prop) (before after : Table α) : Prop :=
  ∀ id row, before.get id = some row → ∃ row', after.get id = some row' ∧ R row row'

section

variable {R : α → α → Prop}

theorem Keeps.refl (hR : ∀ row, R row row) (t : Table α) : Keeps R t t := fun _ row hget => ⟨row, hget, hR row⟩

theorem Keeps.imp {S : α → α → Prop} (h : Keeps R before after) (himp : ∀ row row', R row row' → S row row') :
    Keeps S before after := by
  intro id row hget
  obtain ⟨row', hget', hR⟩ := h id row hget
  exact ⟨row', hget', himp row row' hR⟩

theorem Keeps.trans {later : Table α} (htrans : ∀ a b c, R a b → R b c → R a c) (h : Keeps R before after)
    (h' : Keeps R after later) : Keeps R before later := by
  intro id row hget
  obtain ⟨row', hget', hR⟩ := h id row hget
  obtain ⟨row'', hget'', hR'⟩ := h' id row' hget'
  exact ⟨row'', hget'', htrans _ _ _ hR hR'⟩

theorem Keeps.insert (h : Keeps R before after) {row : α} (hfresh : Row.id row ∉ after.ids) :
    Keeps R before (after.insert row hfresh) := by
  intro id old hget
  obtain ⟨row', hget', hR⟩ := h id old hget
  have hne : id ≠ Row.id row := by
    rintro rfl
    exact hfresh (mem_ids_iff.mpr ⟨row', hget'⟩)
  exact ⟨row', by rw [get_insert, if_neg hne, hget'], hR⟩

theorem Keeps.modify (h : Keeps R before after) (f : α → α) (hf : ∀ row, Row.id (f row) = Row.id row)
    (hR : ∀ row now, before.get id = some row → after.get id = some now → R row now → R row (f now)) :
    Keeps R before (after.modify id f hf) := by
  intro other row hget
  obtain ⟨row', hget', hrow⟩ := h other row hget
  rw [get_modify, hget', Option.map_some]
  split
  · next heq =>
    subst heq
    exact ⟨f row', rfl, hR row row' hget hget' hrow⟩
  · exact ⟨row', rfl, hrow⟩

end

end Table
