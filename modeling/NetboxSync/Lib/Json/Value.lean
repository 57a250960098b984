import NetboxSync.Lib.Dict

open sorting

namespace json

/-- JSON-native values: `None`, booleans, integers, text, lists and text-keyed dictionaries in insertion order. -/
inductive Value where
  | null
  | bool (b : Bool)
  | int (n : Int)
  | str (s : String)
  | arr (items : List Value)
  | obj (fields : List (String × Value))
deriving Repr, Inhabited

/-- The members of a dictionary. -/
abbrev Fields := List (String × Value)

/-- Induction over a value with a hypothesis for every list item and every dictionary member. -/
@[elab_as_elim]
theorem Value.induction {motive : Value → Prop} (null : motive .null) (bool : ∀ b, motive (.bool b))
    (int : ∀ n, motive (.int n)) (str : ∀ s, motive (.str s))
    (arr : ∀ items, (∀ v ∈ items, motive v) → motive (.arr items))
    (obj : ∀ fields, (∀ field ∈ fields, motive field.2) → motive (.obj fields)) (value : Value) : motive value := by
  refine @Value.rec motive (fun items => ∀ v ∈ items, motive v)
    (fun fields => ∀ field ∈ fields, motive field.2) (fun field => motive field.2)
    null bool int str arr obj ?_ ?_ ?_ ?_ ?_ value
  · simp
  · intro v items hv hitems w hw
    rcases List.mem_cons.mp hw with rfl | hw
    exacts [hv, hitems w hw]
  · simp
  · intro field fields hfield hfields g hg
    rcases List.mem_cons.mp hg with rfl | hg
    exacts [hfield, hfields g hg]
  · intro _ v hv
    exact hv

mutual

def Value.beq : Value → Value → Bool
  | .null, .null => true
  | .bool a, .bool b => a == b
  | .int a, .int b => a == b
  | .str a, .str b => a == b
  | .arr a, .arr b => beqItems a b
  | .obj a, .obj b => beqFields a b
  | _, _ => false

def beqItems : List Value → List Value → Bool
  | [], [] => true
  | a :: as, b :: bs => a.beq b && beqItems as bs
  | _, _ => false

def beqFields : Fields → Fields → Bool
  | [], [] => true
  | (j, a) :: as, (k, b) :: bs => j == k && a.beq b && beqFields as bs
  | _, _ => false

end

private theorem beqItems_eq {as : List Value} (h : ∀ a ∈ as, ∀ b, a.beq b = true ↔ a = b) :
    ∀ bs, beqItems as bs = true ↔ as = bs := by
  induction as with
  | nil => intro bs; cases bs <;> simp [beqItems]
  | cons a as ih =>
    intro bs
    cases bs with
    | nil => simp [beqItems]
    | cons b bs =>
      simp only [beqItems, Bool.and_eq_true, List.cons.injEq]
      rw [h a (by simp) b, ih (fun x hx => h x (by simp [hx])) bs]

private theorem beqFields_eq {as : Fields} (h : ∀ a ∈ as, ∀ b, a.2.beq b = true ↔ a.2 = b) :
    ∀ bs, beqFields as bs = true ↔ as = bs := by
  induction as with
  | nil => intro bs; cases bs <;> simp [beqFields]
  | cons a as ih =>
    intro bs
    cases bs with
    | nil => simp [beqFields]
    | cons b bs =>
      obtain ⟨j, v⟩ := a
      obtain ⟨k, w⟩ := b
      simp only [beqFields, Bool.and_eq_true, beq_iff_eq, List.cons.injEq, Prod.mk.injEq]
      rw [h (j, v) (by simp) w, ih (fun x hx => h x (by simp [hx])) bs]

theorem Value.beq_eq (a : Value) : ∀ b, a.beq b = true ↔ a = b := by
  induction a using Value.induction with
  | null => intro b; cases b <;> simp [Value.beq]
  | bool x => intro b; cases b <;> simp [Value.beq]
  | int x => intro b; cases b <;> simp [Value.beq]
  | str x => intro b; cases b <;> simp [Value.beq]
  | arr items ih => intro b; cases b <;> simp [Value.beq, beqItems_eq ih]
  | obj fields ih => intro b; cases b <;> simp [Value.beq, beqFields_eq ih]

instance : DecidableEq Value := fun a b => decidable_of_iff (a.beq b = true) (a.beq_eq b)

/-- Truth value testing: empty and zero values are false. -/
def Value.truthy : Value → Bool
  | .null => false
  | .bool b => b
  | .int n => n ≠ 0
  | .str s => s ≠ ""
  | .arr items => !items.isEmpty
  | .obj fields => !fields.isEmpty

mutual

/-- Every dictionary of the value, at any depth, has distinct keys. -/
def Value.WellFormed : Value → Prop
  | .arr items => WellFormedItems items
  | .obj fields => (fields.map Prod.fst).Nodup ∧ WellFormedFields fields
  | _ => True

def WellFormedItems : List Value → Prop
  | [] => True
  | v :: vs => v.WellFormed ∧ WellFormedItems vs

def WellFormedFields : Fields → Prop
  | [] => True
  | (_, v) :: fs => v.WellFormed ∧ WellFormedFields fs

end

theorem wellFormedItems_iff (items : List Value) : WellFormedItems items ↔ ∀ v ∈ items, v.WellFormed := by
  induction items with
  | nil => simp [WellFormedItems]
  | cons v vs ih => simp [WellFormedItems, ih]

theorem wellFormedFields_iff (fields : Fields) : WellFormedFields fields ↔ ∀ field ∈ fields, field.2.WellFormed := by
  induction fields with
  | nil => simp [WellFormedFields]
  | cons f fs ih =>
    obtain ⟨k, v⟩ := f
    rw [WellFormedFields, ih, List.forall_mem_cons]

@[simp] theorem Value.wellFormed_null : Value.null.WellFormed := trivial

@[simp] theorem Value.wellFormed_bool (b : Bool) : (Value.bool b).WellFormed := trivial

@[simp] theorem Value.wellFormed_int (n : Int) : (Value.int n).WellFormed := trivial

@[simp] theorem Value.wellFormed_str (s : String) : (Value.str s).WellFormed := trivial

@[simp] theorem Value.wellFormed_arr (items : List Value) : (Value.arr items).WellFormed ↔ ∀ v ∈ items, v.WellFormed :=
  wellFormedItems_iff items

@[simp] theorem Value.wellFormed_obj (fields : Fields) :
    (Value.obj fields).WellFormed ↔
      (fields.map Prod.fst).Nodup ∧ ∀ field ∈ fields, field.2.WellFormed := by
  rw [Value.WellFormed, wellFormedFields_iff]

mutual

/-- The value with the members of every dictionary in key order, as `sort_keys=True` writes them. -/
def Value.sort_keys : Value → Value
  | .arr items => .arr (sortItems items)
  | .obj fields => .obj (sorted Prod.fst (sortFields fields))
  | .null => .null
  | .bool b => .bool b
  | .int n => .int n
  | .str s => .str s

def sortItems : List Value → List Value
  | [] => []
  | v :: vs => v.sort_keys :: sortItems vs

def sortFields : Fields → Fields
  | [] => []
  | (k, v) :: fs => (k, v.sort_keys) :: sortFields fs

end

theorem sortItems_eq_map (items : List Value) : sortItems items = items.map Value.sort_keys := by
  induction items with
  | nil => rfl
  | cons v vs ih => rw [sortItems, ih, List.map_cons]

theorem sortFields_eq_map (fields : Fields) :
    sortFields fields = fields.map (fun field => (field.1, field.2.sort_keys)) := by
  induction fields with
  | nil => rfl
  | cons f fs ih =>
    obtain ⟨k, v⟩ := f
    rw [sortFields, ih, List.map_cons]

@[simp] theorem Value.sort_keys_null : Value.null.sort_keys = .null := rfl

@[simp] theorem Value.sort_keys_bool (b : Bool) : (Value.bool b).sort_keys = .bool b := rfl

@[simp] theorem Value.sort_keys_int (n : Int) : (Value.int n).sort_keys = .int n := rfl

@[simp] theorem Value.sort_keys_str (s : String) : (Value.str s).sort_keys = .str s := rfl

@[simp] theorem Value.sort_keys_arr (items : List Value) :
    (Value.arr items).sort_keys = .arr (items.map Value.sort_keys) := by
  rw [Value.sort_keys, sortItems_eq_map]

theorem Value.sort_keys_obj (fields : Fields) :
    (Value.obj fields).sort_keys =
      .obj (sorted Prod.fst (fields.map (fun field => (field.1, field.2.sort_keys)))) := by
  rw [Value.sort_keys, sortFields_eq_map]

/-- Two dictionaries with one sorted form agree on every member. -/
theorem get_of_sort_keys_eq {d e : Fields} (h : (Value.obj d).sort_keys = (Value.obj e).sort_keys) (key : String) :
    (dict.get d key).map Value.sort_keys = (dict.get e key).map Value.sort_keys := by
  rw [Value.sort_keys_obj, Value.sort_keys_obj, Value.obj.injEq] at h
  have hget := congrArg (dict.get · key) h
  simpa only [dict.get_sorted, dict.get_map] using hget

/-- Two records of one type, written as dictionaries with the same keys, have one sorted form exactly when their
    fields do. -/
theorem Value.record_sort_keys_inj {d e : Fields} (hkeys : dict.keys d = dict.keys e) (hnodup : (dict.keys d).Nodup) :
    (Value.obj d).sort_keys = (Value.obj e).sort_keys ↔
      d.map (fun field => field.2.sort_keys) = e.map (fun field => field.2.sort_keys) := by
  have hzip : ∀ f : Fields, f.map (fun field => (field.1, field.2.sort_keys)) =
      (dict.keys f).zip (f.map (fun field => field.2.sort_keys)) := by
    intro f
    simp [dict.keys, List.zip_map']
  constructor
  · intro h
    have hfields := dict.ext_of_keys (d := d.map (fun field => (field.1, field.2.sort_keys)))
      (e := e.map (fun field => (field.1, field.2.sort_keys)))
      (by simpa [dict.keys, Function.comp_def] using hkeys)
      (by simpa [dict.keys, Function.comp_def] using hnodup)
      (fun key => by
        rw [dict.get_map, dict.get_map]
        exact get_of_sort_keys_eq h key)
    simpa [Function.comp_def] using congrArg (List.map Prod.snd) hfields
  · intro h
    rw [Value.sort_keys_obj, Value.sort_keys_obj, hzip, hzip, hkeys, h]

end json
