import NetboxSync.Lib.Json.Encode
import NetboxSync.Lib.Json.RoundTrip

open json sorting

namespace netbox_sync

namespace inventory_conflicts

structure ConflictParticipant where
  name : String
  external_id : String
  provider_object_id : Option String
  host_id : String
  interface : Option String := none
  interface_id : Option String := none
  address : Option String := none
  vrf_id : Option Int := none
  netbox_id : Option Int := none
deriving DecidableEq, Repr

def ConflictParticipant.asdict (p : ConflictParticipant) : Value :=
  .obj [("name", .str p.name), ("external_id", .str p.external_id),
    ("provider_object_id", optional .str p.provider_object_id), ("host_id", .str p.host_id),
    ("interface", optional .str p.interface), ("interface_id", optional .str p.interface_id),
    ("address", optional .str p.address), ("vrf_id", optional .int p.vrf_id),
    ("netbox_id", optional .int p.netbox_id)]

structure InventoryConflict where
  kind : String
  value : String
  participants : List ConflictParticipant
deriving DecidableEq, Repr

def InventoryConflict.asdict (c : InventoryConflict) : Value :=
  .obj [("kind", .str c.kind), ("value", .str c.value),
    ("participants", .arr (c.participants.map ConflictParticipant.asdict))]

theorem ConflictParticipant.faithful : Faithful ConflictParticipant.asdict := by
  intro p q h
  replace h := (Value.record_sort_keys_inj (by rfl) (by simp [dict.keys])).mp h
  cases p
  cases q
  simpa using h

theorem InventoryConflict.faithful : Faithful InventoryConflict.asdict := by
  intro c d h
  replace h := (Value.record_sort_keys_inj (by rfl) (by simp [dict.keys])).mp h
  cases c
  cases d
  simpa [ConflictParticipant.faithful.map_inj] using h

end inventory_conflicts

namespace sync_plan

open inventory_conflicts

inductive SyncAction where
  | CREATE
  | UPDATE
  | NO_CHANGE
  | REVIEW_REQUIRED
  | BLOCKED
  | IGNORED
  | UNSUPPORTED
  | RETAIN_ONLY
deriving DecidableEq, Repr

def SyncAction.value : SyncAction → String
  | .CREATE => "CREATE"
  | .UPDATE => "UPDATE"
  | .NO_CHANGE => "NO_CHANGE"
  | .REVIEW_REQUIRED => "REVIEW_REQUIRED"
  | .BLOCKED => "BLOCKED"
  | .IGNORED => "IGNORED"
  | .UNSUPPORTED => "UNSUPPORTED"
  | .RETAIN_ONLY => "RETAIN_ONLY"

theorem SyncAction.value_injective : Function.Injective SyncAction.value := by
  intro a b h
  cases a <;> cases b <;> first | rfl | (exfalso; revert h; decide)

structure SyncPlanItem where
  object_kind : String
  external_id : String
  name : String
  action : SyncAction
  reason_code : String
  reason : String
  matched_object_id : Option ObjectId := none
  before : Fields := []
  after : Fields := []
deriving DecidableEq, Repr

/-- A tuple of name/value pairs, which JSON writes as a list of lists. -/
def pairs (entries : Fields) : Value := .arr (entries.map (fun entry => .arr [.str entry.1, entry.2]))

def SyncPlanItem.asdict (item : SyncPlanItem) : Value :=
  .obj [("object_kind", .str item.object_kind), ("external_id", .str item.external_id),
    ("name", .str item.name), ("action", .str item.action.value),
    ("reason_code", .str item.reason_code), ("reason", .str item.reason),
    ("matched_object_id", optional ObjectId.value item.matched_object_id),
    ("before", pairs item.before), ("after", pairs item.after)]

def PLAN_SCHEMA_VERSION : Int := 1

def PLANNER_VERSION : String := "web-5a-19"

structure SyncPlan where
  source_instance : String
  source_id : String
  source_type : String
  source_fingerprint : String
  target_fingerprint : String
  provider_fingerprint : String
  netbox_fingerprint : String
  items : List SyncPlanItem
  conflicts : List InventoryConflict := []
  schema_version : Int := PLAN_SCHEMA_VERSION
  planner_version : String := PLANNER_VERSION
deriving DecidableEq, Repr

def SyncPlan.apply_allowed (self : SyncPlan) : Bool := !self.items.any (fun item => item.action = .BLOCKED)

/-- The four fields `canonical_dict` and `plan_from_mutations` order items by. -/
def item_key (item : SyncPlanItem) : String ×ₗ String ×ₗ String ×ₗ String :=
  toLex (item.object_kind, toLex (item.external_id, toLex (item.action.value, item.reason_code)))

def participant_key (p : ConflictParticipant) : String := dumps_sorted .spaced p.asdict

def conflict_key (c : InventoryConflict) : String := dumps_sorted .spaced c.asdict

def canonical_conflict (c : InventoryConflict) : InventoryConflict :=
  { c with participants := sorted participant_key c.participants }

def SyncPlan.canonical_items (self : SyncPlan) : List SyncPlanItem := sorted item_key self.items

def SyncPlan.canonical_conflicts (self : SyncPlan) : List InventoryConflict :=
  sorted conflict_key (self.conflicts.map canonical_conflict)

def SyncPlan.canonical_fields (self : SyncPlan) : Fields :=
  [("source_instance", .str self.source_instance), ("source_id", .str self.source_id),
    ("source_type", .str self.source_type), ("source_fingerprint", .str self.source_fingerprint),
    ("target_fingerprint", .str self.target_fingerprint),
    ("provider_fingerprint", .str self.provider_fingerprint),
    ("netbox_fingerprint", .str self.netbox_fingerprint),
    ("items", .arr (self.canonical_items.map SyncPlanItem.asdict)),
    ("conflicts", .arr (self.canonical_conflicts.map InventoryConflict.asdict)),
    ("schema_version", .int self.schema_version), ("planner_version", .str self.planner_version),
    ("apply_allowed", .bool self.apply_allowed)]

def SyncPlan.canonical_dict (self : SyncPlan) : Value := .obj self.canonical_fields

def SyncPlan.canonical_json (self : SyncPlan) : String := dumps_sorted .compact self.canonical_dict

/-- `hashlib.sha256(text).hexdigest()` is a parameter throughout. -/
def SyncPlan.digest (sha256 : String → String) (self : SyncPlan) : String := sha256 self.canonical_json

def stable_fingerprint (sha256 : String → String) (value : Value) : String := sha256 (dumps_sorted .compact value)

/-- Named values up to the order of dictionary keys. -/
def sortEntries (entries : Fields) : Fields := entries.map (fun entry => (entry.1, entry.2.sort_keys))

/-- An item up to the order of the dictionary keys in its values: two items with one content are the same JSON value.
    -/
def SyncPlanItem.content (item : SyncPlanItem) : SyncPlanItem :=
  { item with before := sortEntries item.before, after := sortEntries item.after }

theorem pairs_sort_keys_inj {d e : Fields} :
    (pairs d).sort_keys = (pairs e).sort_keys ↔ sortEntries d = sortEntries e := by
  have hrow : ∀ l : Fields, (pairs l).sort_keys =
      .arr ((sortEntries l).map (fun entry => .arr [.str entry.1, entry.2])) := by
    intro l
    simp [pairs, sortEntries, Function.comp_def]
  have hinj : Function.Injective (fun entry : String × Value => Value.arr [.str entry.1, entry.2]) := by
    intro a b hab
    simp only [Value.arr.injEq, List.cons.injEq, Value.str.injEq, and_true] at hab
    exact Prod.ext hab.1 hab.2
  rw [hrow, hrow, Value.arr.injEq, (List.map_injective_iff.mpr hinj).eq_iff]

theorem SyncPlanItem.asdict_inj {a b : SyncPlanItem} :
    a.asdict.sort_keys = b.asdict.sort_keys ↔ a.content = b.content := by
  rw [asdict, asdict, Value.record_sort_keys_inj (by rfl) (by simp [dict.keys])]
  cases a
  cases b
  simp [pairs_sort_keys_inj, SyncAction.value_injective.eq_iff, content]

theorem SyncPlanItem.map_asdict_inj {xs ys : List SyncPlanItem} :
    (xs.map SyncPlanItem.asdict).map Value.sort_keys = (ys.map SyncPlanItem.asdict).map Value.sort_keys ↔
      xs.map SyncPlanItem.content = ys.map SyncPlanItem.content := by
  induction xs generalizing ys with
  | nil => cases ys <;> simp
  | cons x xs ih => cases ys <;> simp [SyncPlanItem.asdict_inj, ← ih]

/-- The fields of a plan that its canonical text writes as they are. -/
structure SyncPlan.SameHeader (p q : SyncPlan) : Prop where
  source_instance : p.source_instance = q.source_instance
  source_id : p.source_id = q.source_id
  source_type : p.source_type = q.source_type
  source_fingerprint : p.source_fingerprint = q.source_fingerprint
  target_fingerprint : p.target_fingerprint = q.target_fingerprint
  provider_fingerprint : p.provider_fingerprint = q.provider_fingerprint
  netbox_fingerprint : p.netbox_fingerprint = q.netbox_fingerprint
  schema_version : p.schema_version = q.schema_version
  planner_version : p.planner_version = q.planner_version

theorem SyncPlan.canonical_fields_nodup (p : SyncPlan) : (dict.keys p.canonical_fields).Nodup := by
  simp [dict.keys, canonical_fields]

/-- Two plans have one canonical text exactly when their headers agree and, in canonical order, their items and
    conflicts do. -/
theorem SyncPlan.canonical_json_inj {p q : SyncPlan} :
    p.canonical_json = q.canonical_json ↔
      p.SameHeader q ∧ p.apply_allowed = q.apply_allowed ∧
        p.canonical_items.map SyncPlanItem.content = q.canonical_items.map SyncPlanItem.content ∧
        p.canonical_conflicts = q.canonical_conflicts := by
  rw [canonical_json, canonical_json, dumps_sorted_inj, canonical_dict, canonical_dict,
    Value.record_sort_keys_inj (by rfl) p.canonical_fields_nodup]
  simp only [canonical_fields, List.map_cons, List.map_nil, Value.sort_keys_arr, Value.sort_keys_str,
    Value.sort_keys_int, Value.sort_keys_bool, List.cons.injEq, Value.str.injEq, Value.int.injEq,
    Value.bool.injEq, Value.arr.injEq, SyncPlanItem.map_asdict_inj, List.map_map (f := InventoryConflict.asdict),
    InventoryConflict.faithful.map_inj, and_true]
  constructor
  · rintro ⟨h1, h2, h3, h4, h5, h6, h7, hitems, hconflicts, h8, h9, hallowed⟩
    exact ⟨⟨h1, h2, h3, h4, h5, h6, h7, h8, h9⟩, hallowed, hitems, hconflicts⟩
  · rintro ⟨⟨h1, h2, h3, h4, h5, h6, h7, h8, h9⟩, hallowed, hitems, hconflicts⟩
    exact ⟨h1, h2, h3, h4, h5, h6, h7, hitems, hconflicts, h8, h9, hallowed⟩

end sync_plan

end netbox_sync
