import NetboxSync.Lib.Json.Value

namespace json

mutual

/-- The value with `True` and `False` as the integers they are equal to. -/
def Value.unbool : Value → Value
  | .bool b => .int (if b then 1 else 0)
  | .arr items => .arr (unboolItems items)
  | .obj fields => .obj (unboolFields fields)
  | .null => .null
  | .int n => .int n
  | .str s => .str s

def unboolItems : List Value → List Value
  | [] => []
  | v :: vs => v.unbool :: unboolItems vs

def unboolFields : Fields → Fields
  | [] => []
  | (k, v) :: fs => (k, v.unbool) :: unboolFields fs

end

/-- What Python's `==` compares: booleans are integers and the order of dictionary members does not count. -/
def Value.normal (value : Value) : Value := value.unbool.sort_keys

/-- `value == other` -/
def Value.eq (value other : Value) : Bool := decide (value.normal = other.normal)

theorem Value.eq_iff {value other : Value} : value.eq other = true ↔ value.normal = other.normal := decide_eq_true_iff

@[simp] theorem Value.eq_refl (value : Value) : value.eq value = true := Value.eq_iff.mpr rfl

theorem unboolFields_eq_map (fields : Fields) :
    unboolFields fields = fields.map (fun field => (field.1, field.2.unbool)) := by
  induction fields with
  | nil => rfl
  | cons field fields ih =>
    obtain ⟨k, v⟩ := field
    rw [unboolFields, ih, List.map_cons]

@[simp] theorem Value.normal_str (s : String) : (Value.str s).normal = .str s := rfl

@[simp] theorem Value.normal_null : Value.null.normal = .null := rfl

theorem Value.normal_eq_str {value : Value} {s : String} : value.normal = .str s ↔ value = .str s := by
  cases value <;> simp [Value.normal, Value.unbool, Value.sort_keys]

theorem unboolItems_eq_map (items : List Value) : unboolItems items = items.map Value.unbool := by
  induction items with
  | nil => rfl
  | cons item items ih => rw [unboolItems, ih, List.map_cons]

theorem Value.normal_arr (items : List Value) : (Value.arr items).normal = .arr (items.map Value.normal) := by
  rw [Value.normal, Value.unbool, Value.sort_keys_arr, unboolItems_eq_map, List.map_map]
  rfl

/-- Equal dictionaries agree on every member. -/
theorem get_of_normal_eq {d e : Fields} (h : (Value.obj d).normal = (Value.obj e).normal) (key : String) :
    (dict.get d key).map Value.normal = (dict.get e key).map Value.normal := by
  rw [Value.normal, Value.normal, Value.unbool, Value.unbool, unboolFields_eq_map, unboolFields_eq_map] at h
  have hget := get_of_sort_keys_eq h key
  rw [dict.get_map, dict.get_map, Option.map_map, Option.map_map] at hget
  exact hget

theorem get_str_of_normal_eq {d e : Fields} (h : (Value.obj d).normal = (Value.obj e).normal)
    (key : String) {s : String} (hkey : dict.get d key = some (.str s)) : dict.get e key = some (.str s) := by
  have hget := get_of_normal_eq h key
  rw [hkey, Option.map_some, Value.normal_str] at hget
  obtain ⟨value, hvalue, hnormal⟩ := Option.map_eq_some_iff.mp hget.symm
  rw [hvalue, Value.normal_eq_str.mp hnormal]

/-- A dictionary equals only dictionaries. -/
theorem normal_eq_obj {d : Fields} {value : Value} (h : (Value.obj d).normal = value.normal) : ∃ e, value = .obj e := by
  cases value <;> simp_all [Value.normal, Value.unbool, Value.sort_keys]

/-- `str(value)`; `repr` writes lists and dictionaries. -/
def Value.pystr (repr : Value → String) : Value → String
  | .null => "None"
  | .bool true => "True"
  | .bool false => "False"
  | .int n => toString n
  | .str s => s
  | .arr items => repr (.arr items)
  | .obj fields => repr (.obj fields)

/-- The characters `str.strip` removes. -/
def isSpace (c : Char) : Bool :=
  (9 ≤ c.toNat && c.toNat ≤ 13) || (28 ≤ c.toNat && c.toNat ≤ 32) || c.toNat == 0x85 ||
    c.toNat == 0xa0 || c.toNat == 0x1680 || (0x2000 ≤ c.toNat && c.toNat ≤ 0x200a) ||
    c.toNat == 0x2028 || c.toNat == 0x2029 || c.toNat == 0x202f || c.toNat == 0x205f ||
    c.toNat == 0x3000

/-- `not text.strip()` -/
def blank (text : String) : Bool := text.toList.all isSpace

end json
