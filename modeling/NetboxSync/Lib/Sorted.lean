import Mathlib.Data.List.Sort
import Mathlib.Data.Prod.Lex
import Mathlib.Data.String.Basic

namespace sorting

variable {α κ : Type*} [LinearOrder κ]

/-- `sorted(items, key=key)`: a stable sort, so equal keys keep their order. -/
def sorted (key : α → κ) (items : List α) : List α := items.insertionSort (fun a b => key a ≤ key b)

private instance keyTotal (key : α → κ) : Std.Total (fun a b : α => key a ≤ key b) :=
  ⟨fun a b => le_total (key a) (key b)⟩

private instance keyTrans (key : α → κ) : IsTrans α (fun a b => key a ≤ key b) := ⟨fun _ _ _ => le_trans⟩

@[simp] theorem sorted_nil (key : α → κ) : sorted key [] = [] := rfl

theorem sorted_perm (key : α → κ) (items : List α) : (sorted key items).Perm items := List.perm_insertionSort _ items

theorem sorted_pairwise (key : α → κ) (items : List α) : (sorted key items).Pairwise (fun a b => key a ≤ key b) :=
  List.pairwise_insertionSort _ items

variable {key : α → κ} {xs ys : List α} {β : Type*} {R : α → α → Prop}

@[simp] theorem mem_sorted {items : List α} {a : α} : a ∈ sorted key items ↔ a ∈ items := List.mem_insertionSort _

@[simp] theorem length_sorted (key : α → κ) (items : List α) : (sorted key items).length = items.length :=
  List.length_insertionSort _ items

theorem sorted_eq_self {key : α → κ} {items : List α}
    (h : items.Pairwise (fun a b => key a ≤ key b)) : sorted key items = items :=
  h.insertionSort_eq

/-- Sorting forgets the order of its input as soon as tied members are equal. -/
theorem sorted_eq_of_perm (key : α → κ) (hperm : xs.Perm ys) (hties : ∀ a ∈ xs, ∀ b ∈ xs, key a = key b → a = b) :
    sorted key xs = sorted key ys := by
  have hsorted := ((sorted_perm key xs).trans hperm).trans (sorted_perm key ys).symm
  refine hsorted.eq_of_pairwise ?_ (sorted_pairwise key xs) (sorted_pairwise key ys)
  intro a b ha hb hab hba
  exact hties a (mem_sorted.mp ha) b (hperm.mem_iff.mpr (mem_sorted.mp hb)) (le_antisymm hab hba)

theorem sorted_eq_of_perm_of_injective (hkey : Function.Injective key) (hperm : xs.Perm ys) :
    sorted key xs = sorted key ys :=
  sorted_eq_of_perm key hperm (fun _ _ _ _ htie => hkey htie)

/-- Sorting commutes with a map that keeps the keys. -/
theorem sorted_map (key : α → κ) (key' : β → κ) (f : α → β) (hkey : ∀ a, key' (f a) = key a) (items : List α) :
    sorted key' (items.map f) = (sorted key items).map f := by
  induction items with
  | nil => rfl
  | cons a items ih =>
    have hinsert : ∀ l : List α, List.orderedInsert (fun x y => key' x ≤ key' y) (f a) (l.map f) =
        (List.orderedInsert (fun x y => key x ≤ key y) a l).map f := by
      intro l
      induction l with
      | nil => rfl
      | cons b l ihl =>
        simp only [List.map_cons, List.orderedInsert_cons, hkey, ihl]
        split <;> simp
    change List.orderedInsert _ (f a) (sorted key' (items.map f)) = _
    rw [ih, hinsert]
    rfl

/-- Sorting never reorders the members that share one key. -/
theorem filter_sorted (key : α → κ) (k : κ) (items : List α) :
    (sorted key items).filter (fun a => key a = k) = items.filter (fun a => key a = k) := by
  have hpairs : (items.filter (fun a => key a = k)).Pairwise (fun a b => key a ≤ key b) := by
    rw [List.pairwise_filter]
    exact List.pairwise_of_forall (fun a b ha hb => by simp_all)
  have hsub := (List.sublist_insertionSort hpairs List.filter_sublist).filter (fun a => key a = k)
  rw [List.filter_filter] at hsub
  simp only [Bool.and_self] at hsub
  refine (hsub.eq_of_length ?_).symm
  exact ((sorted_perm key items).filter _).length_eq.symm

/-- A sorted list is determined by the runs of its keys. -/
theorem eq_of_filter_eq (hxs : xs.Pairwise (fun a b => key a ≤ key b)) (hys : ys.Pairwise (fun a b => key a ≤ key b))
    (hruns : ∀ k, xs.filter (fun a => key a = k) = ys.filter (fun a => key a = k)) : xs = ys := by
  have hmem : ∀ a, a ∈ xs ↔ a ∈ ys := by
    intro a
    have hrun : a ∈ xs.filter (fun b => key b = key a) ↔ a ∈ ys.filter (fun b => key b = key a) := by
      rw [hruns]
    simpa using hrun
  induction xs generalizing ys with
  | nil =>
    cases ys with
    | nil => rfl
    | cons b ys => simpa using hmem b
  | cons a xs ih =>
    cases ys with
    | nil => simpa using hmem a
    | cons b ys =>
      rw [List.pairwise_cons] at hxs hys
      have hle : ∀ c ∈ b :: ys, key b ≤ key c := by
        intro c hc
        rcases List.mem_cons.mp hc with rfl | hc
        · exact le_refl _
        · exact hys.1 c hc
      have hge : ∀ c ∈ a :: xs, key a ≤ key c := by
        intro c hc
        rcases List.mem_cons.mp hc with rfl | hc
        · exact le_refl _
        · exact hxs.1 c hc
      have hkey : key a = key b := le_antisymm (hge b ((hmem b).mpr (by simp))) (hle a ((hmem a).mp (by simp)))
      have hhead := hruns (key a)
      rw [List.filter_cons_of_pos (by simp), List.filter_cons_of_pos (by simp [hkey]), List.cons.injEq] at hhead
      obtain ⟨rfl, _⟩ := hhead
      have htail : ∀ k, xs.filter (fun c => key c = k) = ys.filter (fun c => key c = k) := by
        intro k
        have hrun := hruns k
        by_cases hk : key a = k
        · simpa [List.filter_cons, hk] using hrun
        · simpa [List.filter_cons, hk] using hrun
      refine congrArg (List.cons a) (ih hxs.2 hys.2 htail (fun c => ?_))
      have hrun : c ∈ xs.filter (fun d => key d = key c) ↔ c ∈ ys.filter (fun d => key d = key c) := by
        rw [htail]
      simpa using hrun

/-- Sorting sees only the runs of its input. -/
theorem sorted_congr (key : α → κ) (h : ∀ k, xs.filter (fun a => key a = k) = ys.filter (fun a => key a = k)) :
    sorted key xs = sorted key ys :=
  eq_of_filter_eq (sorted_pairwise key xs) (sorted_pairwise key ys)
    (fun k => by rw [filter_sorted, filter_sorted, h k])

/-- Members may be taken out before or after sorting. -/
theorem sorted_filter (key : α → κ) (p : α → Bool) (items : List α) :
    (sorted key items).filter p = sorted key (items.filter p) := by
  refine eq_of_filter_eq ((sorted_pairwise key items).filter p) (sorted_pairwise key _) (fun k => ?_)
  rw [filter_sorted, List.filter_comm, filter_sorted, List.filter_comm]

theorem sorted_sorted_append (key : α → κ) (xs ys : List α) :
    sorted key (sorted key xs ++ ys) = sorted key (xs ++ ys) :=
  sorted_congr key (fun k => by rw [List.filter_append, List.filter_append, filter_sorted])

/-- Two orders of the same members sort to the same images as soon as tied members have equal images. -/
theorem map_sorted_eq_of_perm (hperm : xs.Perm ys) (f : α → β) (hties : ∀ a ∈ xs, ∀ b ∈ xs, key a = key b → f a = f b) :
    (sorted key xs).map f = (sorted key ys).map f := by
  have hpairs := sorted_eq_of_perm Prod.fst (hperm.map (fun a => (key a, f a)))
    (by
      intro x hx y hy hxy
      obtain ⟨a, ha, rfl⟩ := List.mem_map.mp hx
      obtain ⟨b, hb, rfl⟩ := List.mem_map.mp hy
      exact Prod.ext hxy (hties a ha b hb hxy))
  have hsnd := congrArg (List.map Prod.snd) hpairs
  rw [sorted_map key Prod.fst _ (fun _ => rfl), sorted_map key Prod.fst _ (fun _ => rfl)] at hsnd
  simpa only [List.map_map, Function.comp_def] using hsnd

/-- The same members in any order, each replaced by a related one. -/
def Permuted (R : α → α → Prop) (xs ys : List α) : Prop := ∃ zs, List.Forall₂ R xs zs ∧ zs.Perm ys

theorem permuted_of_perm (hR : ∀ a, R a a) (h : xs.Perm ys) : Permuted R xs ys :=
  ⟨xs, List.forall₂_same.mpr (fun a _ => hR a), h⟩

/-- Sorting by an injective key forgets the order and whatever `f` forgets. -/
theorem sorted_map_eq_of_permuted {key : β → κ} (hkey : Function.Injective key) (h : Permuted R xs ys) {f : α → β}
    (hf : ∀ {a b}, R a b → f a = f b) : sorted key (xs.map f) = sorted key (ys.map f) := by
  obtain ⟨zs, hrelated, hperm⟩ := h
  have hmap : xs.map f = zs.map f := by
    rw [← List.forall₂_eq_eq_eq, List.forall₂_map_left_iff, List.forall₂_map_right_iff]
    exact hrelated.imp (fun _ _ => hf)
  rw [hmap]
  exact sorted_eq_of_perm_of_injective hkey (hperm.map f)

theorem permuted_sorted_map (key : α → κ) {f : α → α} (hf : ∀ a, R a (f a)) (xs : List α) :
    Permuted R xs (sorted key (xs.map f)) := by
  refine ⟨xs.map f, ?_, (sorted_perm key _).symm⟩
  rw [List.forall₂_map_right_iff, List.forall₂_same]
  exact fun a _ => hf a

end sorting
