import NetboxSync.Lib.Sorted

open sorting

namespace dict

variable {α β : Type*}

/-- `d.get(key)` on a dictionary in insertion order. -/
def get : List (String × α) → String → Option α
  | [], _ => none
  | (k, v) :: d, key => if k = key then some v else get d key

/-- `d[key] = value`: an existing key keeps its place, a new one goes last. -/
def set : List (String × α) → String → α → List (String × α)
  | [], key, value => [(key, value)]
  | (k, v) :: d, key, value => if k = key then (key, value) :: d else (k, v) :: set d key value

/-- `d.update(changes)`. -/
def update (d changes : List (String × α)) : List (String × α) :=
  changes.foldl (fun d entry => set d entry.1 entry.2) d

/-- `d.pop(key)`, as far as the dictionary that remains goes. -/
def pop (d : List (String × α)) (key : String) : List (String × α) := d.filter (fun entry => entry.1 ≠ key)

def keys (d : List (String × α)) : List String := d.map Prod.fst

@[simp] theorem get_nil (key : String) : get ([] : List (String × α)) key = none := rfl

theorem get_cons (entry : String × α) (d : List (String × α)) (key : String) :
    get (entry :: d) key = if entry.1 = key then some entry.2 else get d key := rfl

theorem get_set (d : List (String × α)) (key : String) (value : α) (other : String) :
    get (set d key value) other = if key = other then some value else get d other := by
  induction d with
  | nil => rfl
  | cons entry d ih =>
    obtain ⟨k, v⟩ := entry
    simp only [set]
    split
    · next h =>
      subst h
      simp only [get_cons]
      split <;> rfl
    · next h =>
      simp only [get_cons, ih]
      split
      · next h' => rw [if_neg (fun heq => h (h'.trans heq.symm))]
      · rfl

@[simp] theorem get_set_self (d : List (String × α)) (key : String) (value : α) :
    get (set d key value) key = some value := by
  rw [get_set, if_pos rfl]

variable {key : String} {d changes : List (String × α)} {value : α}

theorem get_set_of_ne (d : List (String × α)) {other : String} (value : α) (h : key ≠ other) :
    get (set d key value) other = get d other := by
  rw [get_set, if_neg h]

/-- Setting what a key already has changes nothing. -/
theorem set_of_get (h : get d key = some value) : set d key value = d := by
  induction d with
  | nil => cases h
  | cons entry d ih =>
    rw [get_cons] at h
    unfold set
    split
    · next hkey =>
      rw [if_pos hkey, Option.some.injEq] at h
      rw [← h, ← hkey]
    · next hkey =>
      rw [if_neg hkey] at h
      rw [ih h]

@[simp] theorem update_nil (d : List (String × α)) : update d [] = d := rfl

@[simp] theorem update_cons (d : List (String × α)) (entry : String × α) (changes : List (String × α)) :
    update d (entry :: changes) = update (set d entry.1 entry.2) changes := rfl

theorem update_of_get (h : ∀ entry ∈ changes, get d entry.1 = some entry.2) : update d changes = d := by
  induction changes with
  | nil => rfl
  | cons entry changes ih =>
    rw [update_cons, set_of_get (h entry (by simp))]
    exact ih (fun entry hentry => h entry (by simp [hentry]))

theorem get_eq_none_iff (d : List (String × α)) (key : String) : get d key = none ↔ key ∉ keys d := by
  induction d with
  | nil => simp [keys]
  | cons entry d ih =>
    rw [get_cons]
    split
    · next h => simp [keys, h]
    · next h => rw [ih]; simp [keys, Ne.symm h]

theorem get_isSome_iff (d : List (String × α)) (key : String) : (get d key).isSome ↔ key ∈ keys d := by
  rw [← not_iff_not, ← get_eq_none_iff, Option.not_isSome_iff_eq_none]

theorem mem_of_get (h : get d key = some value) : (key, value) ∈ d := by
  induction d with
  | nil => cases h
  | cons entry d ih =>
    rw [get_cons] at h
    split at h
    · next hk =>
      cases h
      subst hk
      exact List.mem_cons_self
    · exact List.mem_cons_of_mem _ (ih h)

theorem mem_set {entry : String × α} (h : entry ∈ set d key value) : entry = (key, value) ∨ entry ∈ d := by
  induction d with
  | nil => exact .inl (List.mem_singleton.mp h)
  | cons first d ih =>
    obtain ⟨k, v⟩ := first
    rw [set] at h
    split at h
    · rcases List.mem_cons.mp h with h | h
      · exact .inl h
      · exact .inr (List.mem_cons_of_mem _ h)
    · rcases List.mem_cons.mp h with h | h
      · exact .inr (h ▸ List.mem_cons_self)
      · exact (ih h).imp id (List.mem_cons_of_mem _)

theorem get_pop (d : List (String × α)) (key other : String) :
    get (pop d key) other = if key = other then none else get d other := by
  unfold pop
  induction d with
  | nil => simp
  | cons entry d ih =>
    rw [List.filter_cons, get_cons]
    split
    next hentry =>
      rw [decide_eq_true_eq] at hentry
      rw [get_cons, ih]
      split
      next hother => rw [if_neg (fun h => hentry (hother.trans h.symm))]
      · rfl
    next hentry =>
      rw [decide_eq_true_eq, not_not] at hentry
      rw [ih, hentry]
      split <;> rfl

theorem pop_subset (d : List (String × α)) (key : String) : pop d key ⊆ d := fun _ h => List.mem_of_mem_filter h

theorem get_of_mem (hnodup : (keys d).Nodup) (h : (key, value) ∈ d) : get d key = some value := by
  induction d with
  | nil => cases h
  | cons entry d ih =>
    simp only [keys, List.map_cons, List.nodup_cons] at hnodup
    rcases List.mem_cons.mp h with rfl | h
    · simp [get_cons]
    · have hkey : entry.1 ≠ key := by
        rintro rfl
        exact hnodup.1 (List.mem_map.mpr ⟨_, h, rfl⟩)
      rw [get_cons, if_neg hkey]
      exact ih hnodup.2 h

/-- An update sets a key, to what does not depend on the dictionary, or leaves it. -/
theorem get_update_cases (changes : List (String × α)) (key : String) :
    (∃ value, ∀ d : List (String × α), get (update d changes) key = some value) ∨
      ∀ d : List (String × α), get (update d changes) key = get d key := by
  induction changes with
  | nil => exact .inr (fun _ => rfl)
  | cons entry changes ih =>
    rcases ih with ⟨value, hvalue⟩ | hsame
    · exact .inl ⟨value, fun d => hvalue _⟩
    · by_cases hkey : entry.1 = key
      · refine .inl ⟨entry.2, fun d => ?_⟩
        rw [update_cons, hsame, get_set, if_pos hkey]
      · refine .inr (fun d => ?_)
        rw [update_cons, hsame, get_set_of_ne _ _ hkey]

theorem keys_set (d : List (String × α)) (key : String) (value : α) :
    keys (set d key value) = if key ∈ keys d then keys d else keys d ++ [key] := by
  induction d with
  | nil => simp [set, keys]
  | cons entry d ih =>
    obtain ⟨k, v⟩ := entry
    simp only [set]
    by_cases h : k = key
    · subst h
      simp [keys]
    · have ih' : List.map Prod.fst (set d key value) =
          if key ∈ List.map Prod.fst d then List.map Prod.fst d else List.map Prod.fst d ++ [key] := ih
      by_cases hmem : key ∈ List.map Prod.fst d <;>
        simp [keys, h, Ne.symm h, hmem, ih']

theorem nodup_keys_set (h : (keys d).Nodup) (key : String) (value : α) : (keys (set d key value)).Nodup := by
  rw [keys_set]
  split
  · exact h
  · next hkey => simpa [List.nodup_append] using ⟨h, fun a ha heq => hkey (heq ▸ ha)⟩

theorem set_append_of_notMem (h : key ∉ keys d) (value : α) : set d key value = d ++ [(key, value)] := by
  induction d with
  | nil => rfl
  | cons entry d ih =>
    obtain ⟨k, v⟩ := entry
    simp only [keys, List.map_cons, List.mem_cons, not_or] at h
    rw [set, if_neg (Ne.symm h.1), ih h.2, List.cons_append]

/-- Building a dictionary from pairs with distinct keys keeps the pairs. -/
theorem update_append (h : (keys (d ++ changes)).Nodup) : update d changes = d ++ changes := by
  induction changes generalizing d with
  | nil => simp
  | cons entry changes ih =>
    have hkey : entry.1 ∉ keys d := by
      simp only [keys, List.map_append, List.map_cons, List.nodup_append] at h
      intro hmem
      exact h.2.2 _ hmem _ List.mem_cons_self rfl
    rw [update_cons, set_append_of_notMem hkey, ih (by simpa using h)]
    simp

theorem get_eq_head_filter (d : List (String × α)) (key : String) :
    get d key = ((d.filter (fun entry => entry.1 = key)).head?).map Prod.snd := by
  induction d with
  | nil => rfl
  | cons entry d ih =>
    rw [get_cons, List.filter_cons]
    by_cases h : entry.1 = key <;> simp [h, ih]

/-- Sorting is stable, so a key reads the same even where it stands twice. -/
theorem get_sorted (d : List (String × α)) (key : String) : get (sorted Prod.fst d) key = get d key := by
  rw [get_eq_head_filter, get_eq_head_filter, filter_sorted]

/-- Dictionaries with the same keys in the same order are equal as soon as every key reads the same. -/
theorem ext_of_keys {e : List (String × α)} (hkeys : keys d = keys e) (hnodup : (keys d).Nodup)
    (hget : ∀ key, get d key = get e key) : d = e := by
  induction d generalizing e with
  | nil => cases e <;> simp_all [keys]
  | cons entry d ih =>
    obtain _ | ⟨entry', e⟩ := e
    · simp [keys] at hkeys
    · simp only [keys, List.map_cons, List.cons.injEq, List.nodup_cons] at hkeys hnodup
      have hvalue : entry.2 = entry'.2 := by
        have h := hget entry.1
        rwa [get_cons, get_cons, if_pos rfl, if_pos hkeys.1.symm, Option.some.injEq] at h
      have htail : d = e := by
        refine ih hkeys.2 hnodup.2 (fun key => ?_)
        by_cases hkey : entry.1 = key
        · subst hkey
          rw [(get_eq_none_iff d entry.1).mpr hnodup.1,
            (get_eq_none_iff e entry.1).mpr (fun h => hnodup.1 (hkeys.2 ▸ h))]
        · have h := hget key
          rwa [get_cons, get_cons, if_neg hkey, if_neg (hkeys.1 ▸ hkey)] at h
      rw [htail, Prod.ext hkeys.1 hvalue]

theorem get_map (f : α → β) (d : List (String × α)) (key : String) :
    get (d.map (fun entry => (entry.1, f entry.2))) key = (get d key).map f := by
  induction d with
  | nil => rfl
  | cons entry d ih =>
    rw [List.map_cons, get_cons, get_cons]
    split
    · rfl
    · exact ih

theorem set_append_of_mem (h : key ∈ keys d) (e : List (String × α)) (value : α) :
    set (d ++ e) key value = set d key value ++ e := by
  induction d with
  | nil => simp [keys] at h
  | cons entry d ih =>
    obtain ⟨k, v⟩ := entry
    by_cases hkey : k = key
    · simp [set, hkey]
    · have hmem : key ∈ keys d := by simpa [keys, Ne.symm hkey] using h
      simp [set, hkey, ih hmem]

theorem pop_append_singleton (h : key ∉ keys d) (value : α) : pop (d ++ [(key, value)]) key = d := by
  have hfilter : d.filter (fun entry => entry.1 ≠ key) = d := by
    rw [List.filter_eq_self]
    intro entry hentry
    simp only [ne_eq, decide_eq_true_eq]
    rintro rfl
    exact h (List.mem_map.mpr ⟨entry, hentry, rfl⟩)
  simp only [pop, List.filter_append, hfilter]
  simp

end dict
