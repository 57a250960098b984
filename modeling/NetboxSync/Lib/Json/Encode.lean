import NetboxSync.Lib.Json.Value

namespace json

/-- `None`, or the value of what is there. -/
def optional {α : Type} (f : α → Value) : Option α → Value
  | none => .null
  | some a => f a

/-- A dictionary up to the order of its members, which Python's `==` ignores: it is kept in key order at every depth.
    -/
structure Doc where
  fields : Fields
  in_order : (Value.obj fields).sort_keys = .obj fields
deriving DecidableEq

def Doc.value (doc : Doc) : Value := .obj doc.fields

/-- An identifier: `int | str`. -/
inductive ObjectId where
  | int (n : Int)
  | str (s : String)
deriving DecidableEq, Repr

def ObjectId.value : ObjectId → Value
  | .int n => .int n
  | .str s => .str s

/-- An encoding that tells its arguments apart up to the order of members. -/
def Faithful {α : Type} (f : α → Value) : Prop := Function.Injective (fun a => (f a).sort_keys)

theorem Faithful.eq_iff {α : Type} {f : α → Value} (hf : Faithful f) {a b : α} :
    (f a).sort_keys = (f b).sort_keys ↔ a = b :=
  Function.Injective.eq_iff hf

theorem Faithful.map_inj {α : Type} {f : α → Value} (hf : Faithful f) {xs ys : List α} :
    xs.map (Value.sort_keys ∘ f) = ys.map (Value.sort_keys ∘ f) ↔ xs = ys :=
  (List.map_injective_iff.mpr hf).eq_iff

theorem faithful_str : Faithful Value.str := fun _ _ h => Value.str.inj h

theorem faithful_int : Faithful Value.int := fun _ _ h => Value.int.inj h

theorem Doc.faithful : Faithful Doc.value := by
  intro a b h
  cases a with
  | mk d hd =>
    cases b with
    | mk e he =>
      have hfields : Value.obj d = .obj e := hd.symm.trans (h.trans he)
      simpa using hfields

theorem ObjectId.faithful : Faithful ObjectId.value := by
  intro a b h
  cases a <;> cases b <;> simp_all [ObjectId.value]

theorem Faithful.optional {α : Type} {f : α → Value} (hf : Faithful f)
    (hnull : ∀ a, (f a).sort_keys ≠ .null) : Faithful (optional f) := by
  intro a b h
  cases a <;> cases b
  · rfl
  · exact absurd h.symm (hnull _)
  · exact absurd h (hnull _)
  · exact congrArg some (hf h)

@[simp] theorem optional_str_inj {a b : Option String} :
    (optional Value.str a).sort_keys = (optional Value.str b).sort_keys ↔ a = b :=
  (faithful_str.optional (by simp)).eq_iff

@[simp] theorem optional_int_inj {a b : Option Int} :
    (optional Value.int a).sort_keys = (optional Value.int b).sort_keys ↔ a = b :=
  (faithful_int.optional (by simp)).eq_iff

@[simp] theorem optional_doc_inj {a b : Option Doc} :
    (optional Doc.value a).sort_keys = (optional Doc.value b).sort_keys ↔ a = b :=
  (Doc.faithful.optional (by simp [Doc.value, Value.sort_keys])).eq_iff

@[simp] theorem optional_objectId_inj {a b : Option ObjectId} :
    (optional ObjectId.value a).sort_keys = (optional ObjectId.value b).sort_keys ↔ a = b :=
  (ObjectId.faithful.optional (fun a => by cases a <;> simp [ObjectId.value])).eq_iff

theorem optional_wellFormed {α : Type} {f : α → Value} (hf : ∀ a, (f a).WellFormed) (a : Option α) :
    (optional f a).WellFormed := by
  cases a with
  | none => trivial
  | some a => exact hf a

end json
