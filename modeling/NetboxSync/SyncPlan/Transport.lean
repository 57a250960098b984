import NetboxSync.SyncPlan.Model

open json sorting

namespace netbox_sync

open sync_plan

namespace apply_worker

/-- What `execute_child` returns for a plan: `{**canonical_dict(), "digest": digest}`. -/
def execute_child (sha256 : String → String) (plan : SyncPlan) : Fields :=
  dict.set plan.canonical_fields "digest" (.str (plan.digest sha256))

/-- The line `child_main` prints. -/
def child_main (sha256 : String → String) (plan : SyncPlan) : String :=
  dumps .spaced (.obj [("result", .obj (execute_child sha256 plan))])

def RESPONSE_KEYS : List String := ["result", "error", "reason", "categories", "diagnostic"]

def ALLOWED_ERRORS : List String :=
  ["PLAN_STALE", "PLAN_BLOCKED", "FAILED_BEFORE_WRITE", "OUTCOME_UNCERTAIN", "APPLY_FAILED", "SOURCE_UNSUPPORTED"]

/-- The code raised for the error a child reports. A list or a dictionary cannot be looked up in the set of allowed
    codes. -/
def error_code : Value → String
  | .str error => if error ∈ ALLOWED_ERRORS then error else "APPLY_FAILED"
  | .arr _ | .obj _ => "TypeError"
  | _ => "APPLY_FAILED"

/-- How `ApplySupervisor._child` reads the output of a child that ended well. -/
def read_response (operation output : String) : Except String Fields :=
  let invalid := if operation = "plan" then "FAILED_BEFORE_WRITE" else "OUTCOME_UNCERTAIN"
  match loads output with
  | some (.obj response) =>
    if (dict.keys response).any (fun key => key ∉ RESPONSE_KEYS) then .error invalid
    else
      let error := (dict.get response "error").getD .null
      if error.truthy then .error (error_code error)
      else
        match dict.get response "result" with
        | some (.obj result) => .ok result
        | _ => .error invalid
  | _ => .error invalid

end apply_worker

namespace source_operations

/-- The digest comparison of `OperationStore.execute`. A result without a digest raises `KeyError`, which is recorded
    as `OPERATION_FAILED`. -/
def recomputation_check (sha256 : String → String) (result : Fields) : Except String Unit :=
  match dict.get result "digest" with
  | none => .error "OPERATION_FAILED"
  | some digest =>
    let canonical := dict.pop result "digest"
    let actual := sha256 (dumps_sorted .compact (.obj canonical))
    if .str actual ≠ digest then .error "RESULT_INVALID" else .ok ()

def MAX_RESULT_BYTES : Nat := 8 * 1024 * 1024

/-- The `result_validation` phase of `OperationStore.execute` for a plan; `from_worker` says whether
    `SyncPlanDTO.from_worker` accepts the result. -/
def validate_plan (sha256 : String → String) (from_worker : Fields → Bool)
    (source_instance : String) (result : Fields) : Except String Unit :=
  let raw := dumps_sorted .compact (.obj result)
  if raw.utf8ByteSize > MAX_RESULT_BYTES then .error "RESULT_TOO_LARGE"
  else if dict.get result "source_instance" ≠ some (.str source_instance) then .error "RESULT_INVALID"
  else
    match recomputation_check sha256 result with
    | .error code => .error code
    | .ok () => if from_worker result then .ok () else .error "RESULT_INVALID"

variable {sha256 : String → String}

theorem validate_plan_ok {from_worker : Fields → Bool} {source_instance : String}
    {result : Fields} (h : validate_plan sha256 from_worker source_instance result = .ok ()) :
    dict.get result "source_instance" = some (.str source_instance) ∧ recomputation_check sha256 result = .ok () := by
  simp only [validate_plan] at h
  split at h
  · cases h
  split at h
  · cases h
  next hsource =>
  split at h
  · cases h
  next hcheck => exact ⟨not_not.mp hsource, hcheck⟩

end source_operations

open apply_worker source_operations

/-- The values of a plan are JSON-native: their dictionaries have distinct keys. -/
def sync_plan.SyncPlan.JsonNative (p : SyncPlan) : Prop :=
  ∀ item ∈ p.items, ∀ entry ∈ item.before ++ item.after, entry.2.WellFormed

theorem pairs_wellFormed {entries : Fields}
    (h : ∀ entry ∈ entries, entry.2.WellFormed) : (pairs entries).WellFormed := by
  simp only [pairs, Value.wellFormed_arr, List.forall_mem_map]
  intro entry hentry
  simpa using h entry hentry

theorem asdict_wellFormed {item : SyncPlanItem}
    (h : ∀ entry ∈ item.before ++ item.after, entry.2.WellFormed) : item.asdict.WellFormed := by
  have hid := optional_wellFormed (f := ObjectId.value) (fun a => by cases a <;> trivial)
    item.matched_object_id
  have hbefore := pairs_wellFormed (fun entry he => h entry (List.mem_append_left _ he))
  have hafter := pairs_wellFormed (fun entry he => h entry (List.mem_append_right _ he))
  simp [SyncPlanItem.asdict, hid, hbefore, hafter]

theorem conflict_wellFormed (c : inventory_conflicts.InventoryConflict) : c.asdict.WellFormed := by
  have hstr := optional_wellFormed (f := Value.str) (fun _ => trivial)
  have hint := optional_wellFormed (f := Value.int) (fun _ => trivial)
  simp [inventory_conflicts.InventoryConflict.asdict, inventory_conflicts.ConflictParticipant.asdict, hstr, hint]

variable {p : SyncPlan}

theorem canonical_dict_wellFormed (h : p.JsonNative) : p.canonical_dict.WellFormed := by
  have hitems : ∀ item ∈ p.canonical_items, item.asdict.WellFormed :=
    fun item hitem => asdict_wellFormed (h item (mem_sorted.mp hitem))
  simp only [SyncPlan.canonical_dict, Value.wellFormed_obj]
  refine ⟨p.canonical_fields_nodup, ?_⟩
  simpa [SyncPlan.canonical_fields] using ⟨hitems, fun c _ => conflict_wellFormed c⟩

theorem digest_notMem_keys (p : SyncPlan) : "digest" ∉ dict.keys p.canonical_fields := by
  simp [SyncPlan.canonical_fields, dict.keys]

theorem execute_child_eq (sha256 : String → String) (p : SyncPlan) :
    execute_child sha256 p = p.canonical_fields ++ [("digest", .str (p.digest sha256))] :=
  dict.set_append_of_notMem (digest_notMem_keys p) _

/-- The supervisor reads exactly the dictionary its child returned. -/
theorem read_response_child_main (sha256 : String → String) (h : p.JsonNative) :
    read_response "plan" (child_main sha256 p) = .ok (execute_child sha256 p) := by
  have hwf : (Value.obj [("result", .obj (execute_child sha256 p))]).WellFormed := by
    have hdict := canonical_dict_wellFormed h
    have hnodup := dict.nodup_keys_set hdict.1 "digest" (.str (p.digest sha256))
    rw [SyncPlan.canonical_dict, Value.wellFormed_obj] at hdict
    simp only [Value.wellFormed_obj, List.mem_singleton, forall_eq]
    refine ⟨by simp, hnodup, ?_⟩
    rw [execute_child_eq]
    simpa [or_imp, forall_and] using hdict.2
  rw [read_response, child_main, loads_dumps _ hwf]
  simp [dict.keys, dict.get, RESPONSE_KEYS, Value.truthy]

/-- A dictionary that carries the digest of a plan passes the check exactly when the rest of it is the plan's
    canonical dictionary. -/
theorem recomputation_check_of_digest (hsha : Function.Injective sha256) (p : SyncPlan) {fields : Fields}
    (hfields : "digest" ∉ dict.keys fields) :
    recomputation_check sha256 (fields ++ [("digest", .str (p.digest sha256))]) =
      if (Value.obj fields).sort_keys = p.canonical_dict.sort_keys then .ok ()
      else .error "RESULT_INVALID" := by
  have hdigest : dict.get (fields ++ [("digest", .str (p.digest sha256))]) "digest" =
      some (.str (p.digest sha256)) := by
    rw [← dict.set_append_of_notMem hfields]
    exact dict.get_set_self _ _ _
  rw [recomputation_check, hdigest, dict.pop_append_singleton hfields]
  simp only [SyncPlan.digest, SyncPlan.canonical_json, ne_eq, Value.str.injEq, hsha.eq_iff, dumps_sorted_inj, ite_not]

theorem altered_field_sort_keys_ne {key : String} {old value : Value} (hold : (key, old) ∈ p.canonical_fields)
    (hvalue : value.sort_keys ≠ old.sort_keys) :
    (Value.obj (dict.set p.canonical_fields key value)).sort_keys ≠ p.canonical_dict.sort_keys := by
  intro h
  have hget := get_of_sort_keys_eq h key
  rw [dict.get_set_self, dict.get_of_mem p.canonical_fields_nodup hold] at hget
  exact hvalue (Option.some.inj hget)

/-- A plan with one update, whose values are nested. -/
def onlineUpdatePlan : SyncPlan :=
  { source_instance := "proxmox-1", source_id := "1", source_type := "proxmox",
    source_fingerprint := "", target_fingerprint := "", provider_fingerprint := "",
    netbox_fingerprint := "",
    items := [
      { object_kind := "dcim.devices", external_id := "7", name := "pve", action := .UPDATE,
        reason_code := "GUARDED_EXECUTOR_ACTION", reason := "", matched_object_id := some (.int 7),
        after := [("custom_fields", .obj [("online", .bool true), ("cores", .arr [.int 4, .null])])] }] }

end netbox_sync
