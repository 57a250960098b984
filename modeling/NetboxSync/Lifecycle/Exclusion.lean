import NetboxSync.Lifecycle.Recovery

open json

namespace netbox_sync.source_lifecycle

open run_history source_operations retirement_journal

/-- The calls of the two journals, and what the rest of the system writes between them. -/
inductive Action where
  | tick (elapsed : Nat)
  | environment (tombstones : String → Option Tombstone) (operations : Slots) (runs : Table SyncRun)
    (decisions : List Reconciliation) (removal_requests : List String)
  | register (row : SourceRow)
  /-- A row is edited; only the end of a recovery enables a source. -/
  | edit (row : SourceRow)
  /-- The coordinator notes a code, or that the files of the source are gone. -/
  | annotate (operation : Nat) (safe_code : Option String) (local_cleanup_verified : Bool)
  | prepare (source : String) (operation : Nat) (actor revision guard_instance : String) (remote : Fields)
  | begin (source : String) (operation : Nat) (actor digest confirmed_source : String) (remove_credentials : Bool)
  | resume_legacy_busy (source : String) (operation : Nat) (actor : String)
  | uncertain (source : String) (operation : Nat) (actor code : String)
  | blocked (source : String) (operation : Nat) (actor code : String)
  | resolve (source : String) (operation : Nat) (actor guard_instance : String) (receipt : Fields)
  | finalized (source : String) (operation : Nat) (actor : String) (admitted : Bool)
  | recovery_prepare (source : String) (operation : Nat) (hex actor revision : String) (proof : Value)
  | begin_credentials (source : String) (operation : Nat) (actor : String)
  | complete (source : String) (operation : Nat) (actor : String) (proof metadata : Value) (owned : Bool)
  | abandon_prepared (source : String) (operation : Nat) (actor : String)

def annotated (safe_code : Option String) (local_cleanup_verified : Bool) (record : Retirement) : Retirement :=
  { record with safe_code, local_cleanup_verified }

def edited (row old : SourceRow) : SourceRow :=
  { row with source_instance := old.source_instance, enabled := old.enabled && row.enabled }

/-- A call that raises leaves the tables. The reviews are those of the guard. -/
def step (rt : Runtime) (db : Database) : Action → Option Database
  | .tick elapsed => some { db with clock := db.clock + elapsed }
  | .environment tombstones operations runs decisions removal_requests =>
    some { db with tombstones, operations, runs, decisions, removal_requests }
  | .register row =>
    if (db.row row.source_instance).isNone then some { db with sources := db.sources ++ [row] } else none
  | .edit row =>
    some { db with sources := db.update_source row.source_instance (edited row) }
  | .annotate operation safe_code local_cleanup_verified =>
    some { db with
      retirements := update_record db operation (annotated safe_code local_cleanup_verified) }
  | .prepare source operation actor revision guard_instance remote =>
    if from_guard remote then
      (prepare rt db source operation actor revision guard_instance remote).toOption.map Prod.fst
    else none
  | .begin source operation actor digest confirmed_source remove_credentials =>
    (begin rt db source operation actor digest confirmed_source remove_credentials).toOption.map Prod.fst
  | .resume_legacy_busy source operation actor => (resume_legacy_busy rt db source operation actor).toOption
  | .uncertain source operation actor code => (uncertain db source operation actor code).toOption
  | .blocked source operation actor code => (blocked db source operation actor code).toOption
  | .resolve source operation actor guard_instance receipt =>
    (resolve db source operation actor guard_instance receipt).toOption.map Prod.fst
  | .finalized source operation actor admitted => (finalized db source operation actor admitted).toOption
  | .recovery_prepare source operation hex actor revision proof =>
    (source_recovery.prepare rt db source operation hex actor revision proof).toOption.map Prod.fst
  | .begin_credentials source operation actor =>
    (source_recovery.begin_credentials rt db source operation actor).toOption
  | .complete source operation actor proof metadata owned =>
    (source_recovery.complete rt db source operation actor proof metadata owned).toOption
  | .abandon_prepared source operation actor =>
    (source_recovery.abandon_prepared db source operation actor).toOption

/-- All sequences of calls from empty journals. -/
def machine (rt : Runtime) : Machine Database Action where
  init db := db.retirements.rows = [] ∧ db.recoveries.rows = []
  step := step rt

/-- What holds of a record by itself. -/
structure Retirement.Sound (record : Retirement) : Prop where
  ready : record.state = .READY → record.remove_credentials = none
  settled : record.receipt.isSome → record.state = .SUCCEEDED ∨ record.state = .FINALIZED
  accounted : record.state = .SUCCEEDED ∨ record.state = .FINALIZED →
    ∃ receipt, record.receipt = some receipt ∧ Accounts record receipt ∧ Matches record.plan.remote receipt
  sealed : record.state = .FINALIZED → ∃ receipt, record.receipt = some receipt ∧ generation_closed receipt = true
  current : record.state = .SENDING ∨ record.state = .UNCERTAIN → record.superseded_by = none
  reviewed : Reviewed record.plan.remote

structure Inv (db : Database) : Prop where
  disabled : ∀ r ∈ db.retirements.rows, r.state.in_flight = true →
    ∃ row, db.row r.source_instance = some row ∧ row.enabled = false
  apart : ∀ r ∈ db.retirements.rows, r.state.in_flight = true → ∀ c ∈ db.recoveries.rows,
    c.source_instance = r.source_instance → c.state ≠ .CREDENTIALS_PENDING
  alone : ∀ r ∈ db.retirements.rows, ∀ r' ∈ db.retirements.rows, r.source_instance = r'.source_instance →
    r.state.in_flight = true → r'.state.in_flight = true → r.superseded_by = none → r'.superseded_by = none →
      r.operation_id = r'.operation_id
  single : ∀ c ∈ db.recoveries.rows, ∀ c' ∈ db.recoveries.rows, c.source_instance = c'.source_instance →
    c.state.active = true → c'.state.active = true → c.operation_id = c'.operation_id
  sound : ∀ r ∈ db.retirements.rows, r.Sound

/-- A retirement of the source may go in flight. -/
structure Clear (db : Database) (operation : Nat) (source : String) : Prop where
  disabled : ∃ row, db.row source = some row ∧ row.enabled = false
  apart : ∀ c ∈ db.recoveries.rows, c.source_instance = source → c.state ≠ .CREDENTIALS_PENDING
  alone : ∀ r ∈ db.retirements.rows, r.operation_id ≠ operation → r.source_instance = source →
    r.state.in_flight = true → r.superseded_by ≠ none

theorem inv_init {rt : Runtime} {db : Database} (h : (machine rt).init db) : Inv db := by
  obtain ⟨hretirements, hrecoveries⟩ := h
  constructor <;> simp [hretirements, hrecoveries]

/-- What a record keeps for good. -/
structure Later (r r' : Retirement) : Prop where
  receipt : ∀ receipt, r.receipt = some receipt → r'.receipt = some receipt
  consent : r.remove_credentials = some true → r'.remove_credentials = some true
  closed : r.state = .FINALIZED → r'.state = .FINALIZED

theorem Later.refl (r : Retirement) : Later r r := ⟨fun _ => id, id, id⟩

/-- Every record is still there, and keeps what it has to keep. -/
def Kept (db db' : Database) : Prop :=
  ∀ r ∈ db.retirements.rows, ∃ r' ∈ db'.retirements.rows, r'.operation_id = r.operation_id ∧ Later r r'

section

variable {rt : Runtime} {db db' : Database} {source actor : String} {operation : Nat}

theorem kept_of_eq (h : db'.retirements = db.retirements) : Kept db db' := fun r hr => ⟨r, h ▸ hr, rfl, Later.refl r⟩

theorem Kept.trans {db'' : Database} (h : Kept db db') (h' : Kept db' db'') : Kept db db'' := by
  intro r hr
  obtain ⟨s, hs, hid, hlater⟩ := h r hr
  obtain ⟨t, ht, hid', hlater'⟩ := h' s hs
  exact ⟨t, ht, hid'.trans hid, fun receipt hreceipt => hlater'.receipt receipt (hlater.receipt receipt hreceipt),
    fun hconsent => hlater'.consent (hlater.consent hconsent), fun hclosed => hlater'.closed (hlater.closed hclosed)⟩

variable {record : Retirement} {f : Retirement → Retirement}

theorem kept_update (hget : db.retirements.get operation = some record) (hlater : Later record (f record))
    (h : db'.retirements = update_record db operation f) : Kept db db' := by
  obtain ⟨hmem, hid⟩ := Table.mem_of_get hget
  intro r hr
  rw [h]
  by_cases hop : r.operation_id = operation
  · obtain rfl := Table.eq_of_id hr hmem ((congrArg Int.ofNat hop).trans hid.symm)
    refine ⟨{ f r with operation_id := r.operation_id }, List.mem_map.mpr ⟨r, hr, if_pos hid⟩, rfl, ?_⟩
    exact { hlater with }
  · exact ⟨r, List.mem_map.mpr ⟨r, hr, if_neg (fun heq => hop (Int.ofNat.inj heq))⟩, rfl, Later.refl r⟩

theorem kept_fence (archive : Bool) : Kept db (fence db source operation archive) := by
  intro r hr
  cases archive with
  | false => exact ⟨r, hr, rfl, Later.refl r⟩
  | true =>
    refine ⟨_, List.mem_map.mpr ⟨r, hr, rfl⟩, ?_⟩
    split
    · exact ⟨rfl, fun _ => id, id, id⟩
    · exact ⟨rfl, Later.refl r⟩

theorem mem_update_record {r : Retirement} (hget : db.retirements.get operation = some record)
    (h : r ∈ (update_record db operation f).rows) :
    (r ∈ db.retirements.rows ∧ r.operation_id ≠ operation) ∨ r = { f record with operation_id := operation } := by
  obtain ⟨hmem, hid⟩ := Table.mem_of_get hget
  obtain ⟨r₀, hr₀, rfl⟩ := List.mem_map.mp h
  split
  next hop =>
    obtain rfl := Table.eq_of_id hr₀ hmem (hop.trans hid.symm)
    obtain rfl : r₀.operation_id = operation := Int.ofNat.inj hop
    exact .inr rfl
  next hop => exact .inl ⟨hr₀, fun heq => hop (congrArg Int.ofNat heq)⟩

/-- One record changes; where it goes in flight, the way is clear. -/
theorem Inv.update (h : Inv db) (hget : db.retirements.get operation = some record)
    (hsound : { f record with operation_id := operation }.Sound)
    (hsource : (f record).source_instance = record.source_instance)
    (hflight : (f record).state.in_flight = true → record.state.in_flight = true ∧
      (f record).superseded_by = record.superseded_by ∨ Clear db operation record.source_instance) :
    Inv { db with retirements := update_record db operation f } := by
  obtain ⟨hmem, hid⟩ := Table.mem_of_get hget
  have hid : record.operation_id = operation := Int.ofNat.inj hid
  have halone : ∀ r ∈ db.retirements.rows, r.operation_id ≠ operation →
      r.source_instance = record.source_instance → r.state.in_flight = true → r.superseded_by = none →
      (f record).state.in_flight = true → (f record).superseded_by = none → False := by
    intro r hr hne hown hr_flight hr_current hf_flight hf_current
    rcases hflight hf_flight with ⟨hold, hsame⟩ | hclear
    · exact hne ((h.alone r hr record hmem hown hr_flight hold hr_current (hsame ▸ hf_current)).trans hid)
    · exact hclear.alone r hr hne hown hr_flight hr_current
  refine ⟨?_, ?_, ?_, h.single, ?_⟩
  · intro r hr hr_flight
    rcases mem_update_record hget hr with ⟨hr, _⟩ | rfl
    · exact h.disabled r hr hr_flight
    · rw [show ({ f record with operation_id := operation } : Retirement).source_instance =
        record.source_instance from hsource]
      rcases hflight hr_flight with ⟨hold, _⟩ | hclear
      · exact h.disabled record hmem hold
      · exact hclear.disabled
  · intro r hr hr_flight c hc hown
    rcases mem_update_record hget hr with ⟨hr, _⟩ | rfl
    · exact h.apart r hr hr_flight c hc hown
    · rcases hflight hr_flight with ⟨hold, _⟩ | hclear
      · exact h.apart record hmem hold c hc (hown.trans hsource)
      · exact hclear.apart c hc (hown.trans hsource)
  · intro r hr r' hr' hown hr_flight hr'_flight hr_current hr'_current
    rcases mem_update_record hget hr with ⟨hr, hne⟩ | rfl
    · rcases mem_update_record hget hr' with ⟨hr', _⟩ | rfl
      · exact h.alone r hr r' hr' hown hr_flight hr'_flight hr_current hr'_current
      · exact (halone r hr hne (hown.trans hsource) hr_flight hr_current hr'_flight hr'_current).elim
    · rcases mem_update_record hget hr' with ⟨hr', hne⟩ | rfl
      · exact (halone r' hr' hne (hown.symm.trans hsource) hr'_flight hr'_current hr_flight hr_current).elim
      · rfl
  · intro r hr
    rcases mem_update_record hget hr with ⟨hr, _⟩ | rfl
    · exact h.sound r hr
    · exact hsound

theorem in_flight_eq_false (h : db.retirement_in_flight source = false) {r : Retirement}
    (hr : r ∈ db.retirements.rows) (hown : r.source_instance = source) : r.state.in_flight = false := by
  have hnone := List.any_eq_false.mp h r hr
  simpa [hown] using hnone

/-- What keeps the state of every record, starts no attempt, dispatches credentials only where no retirement is in
    flight and leaves a source with such a retirement disabled keeps the invariant. -/
theorem Inv.frame (h : Inv db)
    (hretirements : ∀ r' ∈ db'.retirements.rows, ∃ r ∈ db.retirements.rows,
      r.operation_id = r'.operation_id ∧ r.source_instance = r'.source_instance ∧ r.state = r'.state ∧
        (r'.superseded_by = none → r.superseded_by = none) ∧ (r.Sound → r'.Sound))
    (hrecoveries : ∀ c' ∈ db'.recoveries.rows, ∃ c ∈ db.recoveries.rows,
      c.operation_id = c'.operation_id ∧ c.source_instance = c'.source_instance ∧
        (c'.state.active = true → c.state.active = true) ∧ (c'.state = .CREDENTIALS_PENDING →
          c.state = .CREDENTIALS_PENDING ∨ db.retirement_in_flight c.source_instance = false))
    (hrow : ∀ r ∈ db'.retirements.rows, r.state.in_flight = true → ∀ row, db.row r.source_instance = some row →
      row.enabled = false → ∃ row', db'.row r.source_instance = some row' ∧ row'.enabled = false) : Inv db' := by
  constructor
  · intro r' hr' hflight
    obtain ⟨r, hr, _, hsource, hstate, _⟩ := hretirements r' hr'
    obtain ⟨row, hrow_get, hdisabled⟩ := h.disabled r hr (hstate ▸ hflight)
    exact hrow r' hr' hflight row (hsource ▸ hrow_get) hdisabled
  · intro r' hr' hflight c' hc' hown
    obtain ⟨r, hr, _, hsource, hstate, _⟩ := hretirements r' hr'
    obtain ⟨c, hc, _, hsource', _, hpending⟩ := hrecoveries c' hc'
    have hown : c.source_instance = r.source_instance := hsource'.trans (hown.trans hsource.symm)
    intro hdispatched
    rcases hpending hdispatched with hpending | hfree
    · exact h.apart r hr (hstate ▸ hflight) c hc hown hpending
    · rw [← hstate, in_flight_eq_false hfree hr hown.symm] at hflight
      cases hflight
  · intro r' hr' s' hs' hown hr_flight hs_flight hr_current hs_current
    obtain ⟨r, hr, hid, hsource, hstate, hcurrent, _⟩ := hretirements r' hr'
    obtain ⟨s, hs, hid', hsource', hstate', hcurrent', _⟩ := hretirements s' hs'
    rw [← hid, ← hid']
    exact h.alone r hr s hs (hsource.trans (hown.trans hsource'.symm)) (hstate ▸ hr_flight) (hstate' ▸ hs_flight)
      (hcurrent hr_current) (hcurrent' hs_current)
  · intro c' hc' d' hd' hown hc_active hd_active
    obtain ⟨c, hc, hid, hsource, hactive, _⟩ := hrecoveries c' hc'
    obtain ⟨d, hd, hid', hsource', hactive', _⟩ := hrecoveries d' hd'
    rw [← hid, ← hid']
    exact h.single c hc d hd (hsource.trans (hown.trans hsource'.symm)) (hactive hc_active) (hactive' hd_active)
  · intro r' hr'
    obtain ⟨r, hr, _, _, _, _, hsound⟩ := hretirements r' hr'
    exact hsound (h.sound r hr)

theorem Inv.same (h : Inv db) (hretirements : db'.retirements = db.retirements)
    (hrecoveries : db'.recoveries = db.recoveries) (hsources : db'.sources = db.sources) : Inv db' := by
  refine h.frame ?_ ?_ ?_
  · intro r hr
    exact ⟨r, hretirements ▸ hr, rfl, rfl, rfl, id, id⟩
  · intro c hc
    exact ⟨c, hrecoveries ▸ hc, rfl, rfl, id, .inl⟩
  · intro r _ _ row hget hdisabled
    exact ⟨row, by rw [Database.row, hsources]; exact hget, hdisabled⟩

/-- The row of a source after one source is updated. -/
theorem disabled_of_update_source {f : SourceRow → SourceRow}
    (hf : ∀ row, (f row).source_instance = row.source_instance)
    (hdisabled : ∀ row, row.enabled = false → (f row).enabled = false) {source' : String} {row : SourceRow}
    (hget : db.row source' = some row) (henabled : row.enabled = false) :
    ∃ row', (db.update_source source f).find? (fun row => row.source_instance = source') = some row' ∧
      row'.enabled = false := by
  rw [row_update_source db source hf, hget]
  split
  · exact ⟨f row, rfl, hdisabled row henabled⟩
  · exact ⟨row, rfl, henabled⟩

theorem Inv.fence (h : Inv db) (archive : Bool) : Inv (fence db source operation archive) := by
  refine h.frame ?_ ?_ ?_
  · intro r' hr'
    cases archive with
    | false => exact ⟨r', hr', rfl, rfl, rfl, id, id⟩
    | true =>
      obtain ⟨r, hr, rfl⟩ := List.mem_map.mp hr'
      refine ⟨r, hr, ?_⟩
      split
      next hmatch =>
        refine ⟨rfl, rfl, rfl, nofun, fun hsound => { hsound with current := ?_ }⟩
        -- Only a committed outcome is superseded.
        simp only [Bool.and_eq_true, decide_eq_true_eq] at hmatch
        simp [hmatch.1.1.2]
      · exact ⟨rfl, rfl, rfl, id, id⟩
  · intro c' hc'
    obtain ⟨c, hc, rfl⟩ := List.mem_map.mp hc'
    refine ⟨c, hc, ?_⟩
    split
    · exact ⟨rfl, rfl, nofun, nofun⟩
    · exact ⟨rfl, rfl, id, .inl⟩
  · intro r _ _ row hget hdisabled
    exact disabled_of_update_source (f := fun row => { row with enabled := false, sync_enabled := false })
      (fun _ => rfl) (fun _ _ => rfl) hget hdisabled

theorem Inv.erased (h : Inv db) : Inv (erased db source) := by
  refine h.frame ?_ ?_ ?_
  · intro r hr
    exact ⟨r, List.mem_of_mem_filter hr, rfl, rfl, rfl, id, id⟩
  · intro c hc
    exact ⟨c, List.mem_of_mem_filter hc, rfl, rfl, id, .inl⟩
  · intro r hr _ row hget hdisabled
    have hother : r.source_instance ≠ source := by simpa using (List.mem_filter.mp hr).2
    refine ⟨row, ?_, hdisabled⟩
    rw [Database.row, retirement_journal.erased, List.find?_filter]
    rw [Database.row] at hget
    rw [← hget]
    congr 1
    funext row
    by_cases hrow : row.source_instance = r.source_instance
    · simp [hrow, hother]
    · simp [hrow]

/-- A new record is `READY`, and the journals say nothing of it. -/
theorem Inv.prepare (h : Inv db) {hnew : Row.id record ∉ db.retirements.ids} (hstate : record.state = .READY)
    (hsound : record.Sound) : Inv { db with retirements := db.retirements.insert record hnew } := by
  have hmem : ∀ r ∈ (db.retirements.insert record hnew).rows, r.state.in_flight = true → r ∈ db.retirements.rows := by
    intro r hr hflight
    rcases List.mem_append.mp hr with hr | hr
    · exact hr
    · rw [List.mem_singleton.mp hr, hstate] at hflight
      cases hflight
  refine ⟨?_, ?_, ?_, h.single, ?_⟩
  · exact fun r hr hflight => h.disabled r (hmem r hr hflight) hflight
  · exact fun r hr hflight => h.apart r (hmem r hr hflight) hflight
  · intro r hr r' hr' hown hr_flight hr'_flight
    exact h.alone r (hmem r hr hr_flight) r' (hmem r' hr' hr'_flight) hown hr_flight hr'_flight
  · intro r hr
    rcases List.mem_append.mp hr with hr | hr
    · exact h.sound r hr
    · rw [List.mem_singleton.mp hr]
      exact hsound

theorem recovery_in_eq_false {p : RecoveryState → Bool} (h : db.recovery_in source p = false) {c : RecoveryAttempt}
    (hc : c ∈ db.recoveries.rows) (hown : c.source_instance = source) : p c.state = false := by
  have hnone := List.any_eq_false.mp h c hc
  simpa [hown] using hnone

theorem Inv.recovery_prepare (h : Inv db) {record : RecoveryAttempt} {hnew : Row.id record ∉ db.recoveries.ids}
    (hsource : record.source_instance = source) (hstate : record.state = .PREPARED)
    (hfree : db.recovery_in source RecoveryState.active = false) :
    Inv { db with recoveries := db.recoveries.insert record hnew } := by
  refine ⟨h.disabled, ?_, h.alone, ?_, h.sound⟩
  · intro r hr hflight c hc hown
    rcases List.mem_append.mp hc with hc | hc
    · exact h.apart r hr hflight c hc hown
    · rw [List.mem_singleton.mp hc, hstate]
      exact nofun
  · intro c hc d hd hown hc_active hd_active
    rcases List.mem_append.mp hc with hc | hc
    · rcases List.mem_append.mp hd with hd | hd
      · exact h.single c hc d hd hown hc_active hd_active
      · rw [List.mem_singleton.mp hd, hsource] at hown
        rw [recovery_in_eq_false hfree hc hown] at hc_active
        cases hc_active
    · rcases List.mem_append.mp hd with hd | hd
      · rw [List.mem_singleton.mp hc, hsource] at hown
        rw [recovery_in_eq_false hfree hd hown.symm] at hd_active
        cases hd_active
      · rw [List.mem_singleton.mp hc, List.mem_singleton.mp hd]

theorem mem_update_attempt {record c : RecoveryAttempt} {f : RecoveryAttempt → RecoveryAttempt}
    (hget : db.recoveries.get operation = some record)
    (h : c ∈ (source_recovery.update_attempt db operation f).rows) :
    c ∈ db.recoveries.rows ∨ c = { f record with operation_id := record.operation_id } := by
  obtain ⟨hmem, hid⟩ := Table.mem_of_get hget
  obtain ⟨c₀, hc₀, rfl⟩ := List.mem_map.mp h
  split
  next hop =>
    obtain rfl := Table.eq_of_id hc₀ hmem (hop.trans hid.symm)
    exact .inr rfl
  next => exact .inl hc₀

section

variable (h : Inv db)
include h

/-- An attempt that is active goes on to dispatch credentials while no retirement of the source is in flight. -/
theorem Inv.begin_credentials {record : RecoveryAttempt} (hget : db.recoveries.get operation = some record)
    (hsource : record.source_instance = source) (hactive : record.state.active = true)
    (hfree : db.retirement_in_flight source = false) :
    Inv { db with recoveries := source_recovery.update_attempt db operation (fun record =>
      { record with state := .CREDENTIALS_PENDING }) } := by
  refine h.frame (fun r hr => ⟨r, hr, rfl, rfl, rfl, id, id⟩) ?_ (fun _ _ _ row hget hdisabled => ⟨row, hget, hdisabled⟩)
  intro c hc
  rcases mem_update_attempt hget hc with hc | rfl
  · exact ⟨c, hc, rfl, rfl, id, .inl⟩
  · exact ⟨record, (Table.mem_of_get hget).1, rfl, rfl, fun _ => hactive, fun _ => .inr (hsource ▸ hfree)⟩

/-- An attempt ends, and with it the source may be enabled where no retirement is in flight. -/
theorem Inv.recovery_end {record : RecoveryAttempt} {f : RecoveryAttempt → RecoveryAttempt}
    (hget : db.recoveries.get operation = some record) (hsource : (f record).source_instance = record.source_instance)
    (hended : (f record).state.active = false) (hretirements : db'.retirements = db.retirements)
    (hrecoveries : db'.recoveries = source_recovery.update_attempt db operation f)
    (hsources : ∀ r ∈ db.retirements.rows, r.state.in_flight = true →
      db'.row r.source_instance = db.row r.source_instance) : Inv db' := by
  refine h.frame ?_ ?_ ?_
  · intro r hr
    exact ⟨r, hretirements ▸ hr, rfl, rfl, rfl, id, id⟩
  · intro c hc
    rw [hrecoveries] at hc
    rcases mem_update_attempt hget hc with hc | rfl
    · exact ⟨c, hc, rfl, rfl, id, .inl⟩
    · refine ⟨record, (Table.mem_of_get hget).1, rfl, hsource.symm, by simp [hended], fun hpending => ?_⟩
      rw [show (f record).state = _ from hpending] at hended
      cases hended
  · intro r hr hflight row hrow hdisabled
    exact ⟨row, (hsources r (hretirements ▸ hr) hflight).trans hrow, hdisabled⟩

theorem inv_begin {digest confirmed_source : String} {remove_credentials : Bool} {result : Database × Retirement × Bool}
    (hstep : begin rt db source operation actor digest confirmed_source remove_credentials = .ok result) :
    Inv result.1 ∧ Kept db result.1 := by
  obtain ⟨record, hget, hsource, hcurrent, hcases⟩ := begin_ok hstep
  obtain ⟨hmem, hid⟩ := Table.mem_of_get hget
  have hid : record.operation_id = operation := Int.ofNat.inj hid
  have hsound := h.sound record hmem
  rcases hcases with ⟨hstate, _, ⟨hsame, _⟩ | ⟨hretained, hgranted, _⟩⟩ | ⟨hready, _, hrow, hsettled, archive, hindex,
    hsent, _⟩
  · rw [hsame]
    exact ⟨h, kept_of_eq rfl⟩
  · rw [hgranted]
    constructor
    · refine h.update hget ?_ rfl (fun hflight => .inl ⟨hflight, rfl⟩)
      exact { hsound with ready := fun hready => absurd hready hstate }
    · exact kept_update hget ⟨fun _ => id, fun _ => rfl, id⟩ rfl
  · rw [hsent]
    -- The record is `READY`, so no archive supersedes it.
    have hget' : (fence db source operation archive).retirements.get operation = some record := by
      cases archive with
      | false => exact hget
      | true =>
        rw [Table.get_eq_some_iff]
        refine ⟨List.mem_map.mpr ⟨record, hmem, ?_⟩, congrArg Int.ofNat hid⟩
        simp [hready]
    have hclear : Clear (fence db source operation archive) operation record.source_instance := by
      constructor
      · obtain ⟨row, hrow⟩ := Option.isSome_iff_exists.mp hrow
        refine ⟨{ row with enabled := false, sync_enabled := false }, ?_, rfl⟩
        rw [Database.row, fence, row_update_source db source
          (f := fun row => { row with enabled := false, sync_enabled := false }) (fun _ => rfl)]
        simp [hsource, hrow]
      · intro c hc hown
        obtain ⟨c₀, hc₀, rfl⟩ := List.mem_map.mp hc
        split
        · rintro ⟨⟩
        next hother =>
          rw [if_neg hother] at hown
          simpa using recovery_in_eq_false hsettled hc₀ (hown.trans hsource)
      · intro r hr hne hown hflight hnone
        have hfree := List.all_eq_true.mp hindex r hr
        simp [hne, hown, hsource, hflight, hnone] at hfree
    constructor
    · refine (h.fence archive).update hget' ?_ rfl (fun _ => .inr hclear)
      exact {
        ready := by rintro ⟨⟩
        settled := fun hreceipt => by
          have := hsound.settled hreceipt
          simp [hready] at this
        accounted := by simp [sending]
        sealed := by simp [sending]
        current := fun _ => hcurrent
        reviewed := hsound.reviewed }
    · refine (kept_fence archive).trans (kept_update hget' ⟨fun _ => id, ?_, ?_⟩ rfl)
      · intro hconsent
        rw [hsound.ready hready] at hconsent
        cases hconsent
      · intro hclosed
        rw [hready] at hclosed
        cases hclosed

theorem inv_resume_legacy_busy (hstep : resume_legacy_busy rt db source operation actor = .ok db') :
    Inv db' ∧ Kept db db' := by
  obtain ⟨record, row, hget, hsource, hblocked, hreceipt, hcurrent, hrow, hdisabled, hsettled, halone, rfl⟩ :=
    resume_legacy_busy_ok hstep
  have hsound := h.sound record (Table.mem_of_get hget).1
  have hclear : Clear db operation record.source_instance := by
    constructor
    · exact ⟨row, hsource ▸ hrow, hdisabled⟩
    · intro c hc hown
      simpa using recovery_in_eq_false hsettled hc (hown.trans hsource)
    · intro r hr hne hown hflight
      rw [halone r hr (hown.trans hsource) hne] at hflight
      cases hflight
  constructor
  · refine h.update hget ?_ rfl (fun _ => .inr hclear)
    exact {
      ready := nofun
      settled := by simp [hreceipt]
      accounted := by simp
      sealed := nofun
      current := fun _ => hcurrent
      reviewed := hsound.reviewed }
  · exact kept_update hget ⟨fun _ => id, id, by simp [hblocked]⟩ rfl

theorem inv_unsettled {code : String} {codes : List String} {state : RetirementState}
    (hstep : unsettled db source operation actor code codes state = .ok db')
    (hstate : state = .UNCERTAIN ∨ state = .BLOCKED) : Inv db' ∧ Kept db db' := by
  obtain ⟨record, hget, hsource, hopen, rfl⟩ := unsettled_ok hstep
  have hsound := h.sound record (Table.mem_of_get hget).1
  have hflight : record.state.in_flight = true := by
    rcases hopen with hopen | hopen <;> rw [hopen] <;> rfl
  constructor
  · refine h.update hget ?_ rfl (fun _ => .inl ⟨hflight, rfl⟩)
    exact {
      ready := by rcases hstate with rfl | rfl <;> exact nofun
      settled := fun hreceipt => by
        have := hsound.settled hreceipt
        rcases hopen with hopen | hopen <;> simp [hopen] at this
      accounted := by rcases hstate with rfl | rfl <;> simp
      sealed := by rcases hstate with rfl | rfl <;> exact nofun
      current := fun _ => hsound.current hopen
      reviewed := hsound.reviewed }
  · refine kept_update hget ⟨fun _ => id, id, ?_⟩ rfl
    rcases hopen with hopen | hopen <;> simp [hopen]

theorem inv_resolve {guard_instance : String} {receipt : Fields} {result : Database × Retirement}
    (hstep : resolve db source operation actor guard_instance receipt = .ok result) :
    Inv result.1 ∧ Kept db result.1 := by
  obtain ⟨record, hget, hsource, ⟨hsame, _⟩ | ⟨hopen, haccounts, hmatches, hresolved, _⟩⟩ := resolve_ok hstep
  · rw [hsame]
    exact ⟨h, kept_of_eq rfl⟩
  · have hsound := h.sound record (Table.mem_of_get hget).1
    have hflight : record.state.in_flight = true := by
      rcases hopen with hopen | hopen <;> rw [hopen] <;> rfl
    have hnone : record.receipt = none := by
      by_contra hsome
      have := hsound.settled (Option.isSome_iff_ne_none.mpr hsome)
      rcases hopen with hopen | hopen <;> simp [hopen] at this
    rw [hresolved]
    constructor
    · refine h.update hget ?_ rfl (fun _ => .inl ⟨hflight, rfl⟩)
      exact {
        ready := nofun
        settled := fun _ => .inl rfl
        accounted := fun _ => ⟨receipt, rfl, haccounts hsound.reviewed, hmatches⟩
        sealed := nofun
        current := fun _ => hsound.current hopen
        reviewed := hsound.reviewed }
    · refine kept_update hget ⟨by simp [hnone], id, ?_⟩ rfl
      rcases hopen with hopen | hopen <;> simp [hopen]

theorem inv_finalized {admitted : Bool} (hstep : finalized db source operation actor admitted = .ok db') :
    Inv db' ∧ (Kept db db' ∨ db' = erased db source) := by
  obtain ⟨record, hget, hsource, hstate, ⟨rfl, _⟩ | ⟨⟨hsources, hrecoveries, hretirements⟩, hsealed⟩⟩ :=
    finalized_ok hstep
  · exact ⟨h.erased, .inr rfl⟩
  · obtain ⟨receipt, hreceipt, haccounts⟩ := (h.sound record (Table.mem_of_get hget).1).accounted hstate
    constructor
    · have hclosed : Inv { db with retirements := update_record db operation closed } := by
        refine h.update hget ?_ rfl nofun
        exact {
          ready := nofun
          settled := fun _ => .inr rfl
          accounted := fun _ => ⟨receipt, hreceipt, haccounts⟩
          sealed := fun _ => hsealed
          current := by simp [closed]
          reviewed := (h.sound record (Table.mem_of_get hget).1).reviewed }
      exact hclosed.same hretirements hrecoveries hsources
    · exact .inl (kept_update hget ⟨fun _ => id, id, fun _ => rfl⟩ hretirements)

theorem inv_complete {proof metadata : Value} {owned : Bool}
    (hstep : source_recovery.complete rt db source operation actor proof metadata owned = .ok db') :
    Inv db' ∧ Kept db db' := by
  rcases source_recovery.complete_ok hstep with
    rfl | ⟨record, metadata, key, hget, hsource, hfree, hretirements, hsources, hrecoveries⟩
  · exact ⟨h, kept_of_eq rfl⟩
  · refine ⟨h.recovery_end hget rfl rfl hretirements hrecoveries ?_, kept_of_eq hretirements⟩
    intro r hr hflight
    have hother : r.source_instance ≠ source := by
      intro hown
      rw [in_flight_eq_false hfree hr hown] at hflight
      cases hflight
    rw [Database.row, hsources, row_update_source db source (f := source_recovery.restored_row metadata key)
      (fun _ => rfl), if_neg hother]

/-- A note on a record that the journals do not read. -/
theorem inv_annotate
    (hf : ∀ r, (f r).source_instance = r.source_instance ∧ (f r).state = r.state ∧
      (f r).superseded_by = r.superseded_by ∧ (r.Sound → { f r with operation_id := r.operation_id }.Sound)) :
    Inv { db with retirements := update_record db operation f } := by
  refine h.frame ?_ (fun c hc => ⟨c, hc, rfl, rfl, id, .inl⟩) (fun r _ _ row hrow hdisabled => ⟨row, hrow, hdisabled⟩)
  intro r hr
  obtain ⟨r₀, hr₀, rfl⟩ := List.mem_map.mp hr
  refine ⟨r₀, hr₀, ?_⟩
  split
  · obtain ⟨hsource, hstate, hcurrent, hsound⟩ := hf r₀
    exact ⟨rfl, hsource.symm, hstate.symm, fun hnone => hcurrent.symm.trans hnone, hsound⟩
  · exact ⟨rfl, rfl, rfl, id, id⟩

end

theorem kept_annotate (safe_code : Option String) (verified : Bool) :
    Kept db { db with retirements := update_record db operation (annotated safe_code verified) } := by
  intro r hr
  refine ⟨_, List.mem_map.mpr ⟨r, hr, rfl⟩, ?_⟩
  split
  · exact ⟨rfl, fun _ => id, id, id⟩
  · exact ⟨rfl, Later.refl r⟩

theorem inv_register (h : Inv db) (row : SourceRow) : Inv { db with sources := db.sources ++ [row] } := by
  refine h.frame (fun r hr => ⟨r, hr, rfl, rfl, rfl, id, id⟩) (fun c hc => ⟨c, hc, rfl, rfl, id, .inl⟩) ?_
  intro r _ _ found hrow hdisabled
  refine ⟨found, ?_, hdisabled⟩
  rw [Database.row] at hrow ⊢
  rw [List.find?_append, hrow]
  rfl

theorem inv_edit (h : Inv db) (row : SourceRow) :
    Inv { db with sources := db.update_source row.source_instance (edited row) } := by
  refine h.frame (fun r hr => ⟨r, hr, rfl, rfl, rfl, id, id⟩) (fun c hc => ⟨c, hc, rfl, rfl, id, .inl⟩) ?_
  intro r _ _ found hrow hdisabled
  exact disabled_of_update_source (f := edited row) (fun _ => rfl)
    (fun old hold => by simp [edited, hold]) hrow hdisabled

theorem inv_step {action : Action} (h : Inv db) (hstep : step rt db action = some db') :
    Inv db' ∧ (Kept db db' ∨ ∃ source, db' = erased db source) := by
  cases action with
  | tick elapsed =>
    cases hstep
    exact ⟨h.same rfl rfl rfl, .inl (kept_of_eq rfl)⟩
  | environment tombstones operations runs decisions removal_requests =>
    cases hstep
    exact ⟨h.same rfl rfl rfl, .inl (kept_of_eq rfl)⟩
  | register row =>
    rw [step, Option.ite_none_right_eq_some] at hstep
    obtain ⟨_, hstep⟩ := hstep
    cases hstep
    exact ⟨inv_register h row, .inl (kept_of_eq rfl)⟩
  | edit row =>
    cases hstep
    exact ⟨inv_edit h row, .inl (kept_of_eq rfl)⟩
  | annotate operation safe_code verified =>
    cases hstep
    refine ⟨inv_annotate h (f := annotated safe_code verified) ?_, .inl (kept_annotate safe_code verified)⟩
    exact fun r => ⟨rfl, rfl, rfl, fun hsound => { hsound with }⟩
  | prepare source operation actor revision guard_instance remote =>
    rw [step, Option.ite_none_right_eq_some] at hstep
    obtain ⟨hguard, hstep⟩ := hstep
    obtain ⟨result, hresult, rfl⟩ := Option.map_eq_some_iff.mp hstep
    rcases prepare_ok (Except.ok_of_toOption hresult) with hsame | ⟨hnew, _, hready, hreceipt, hconsent, hreviewed,
      hinsert⟩
    · rw [hsame]
      exact ⟨h, .inl (kept_of_eq rfl)⟩
    · rw [hinsert]
      constructor
      · refine h.prepare hready ?_
        exact {
          ready := fun _ => hconsent
          settled := by simp [hreceipt]
          accounted := by simp [hready]
          sealed := by simp [hready]
          current := by simp [hready]
          reviewed := hreviewed hguard }
      · exact .inl fun r hr => ⟨r, List.mem_append_left _ hr, rfl, Later.refl r⟩
  | begin source operation actor digest confirmed_source remove_credentials =>
    obtain ⟨result, hresult, rfl⟩ := Option.map_eq_some_iff.mp hstep
    exact (inv_begin h (Except.ok_of_toOption hresult)).imp_right .inl
  | resume_legacy_busy source operation actor =>
    exact (inv_resume_legacy_busy h (Except.ok_of_toOption hstep)).imp_right .inl
  | uncertain source operation actor code =>
    exact (inv_unsettled h (Except.ok_of_toOption hstep) (.inl rfl)).imp_right .inl
  | blocked source operation actor code =>
    exact (inv_unsettled h (Except.ok_of_toOption hstep) (.inr rfl)).imp_right .inl
  | resolve source operation actor guard_instance receipt =>
    obtain ⟨result, hresult, rfl⟩ := Option.map_eq_some_iff.mp hstep
    exact (inv_resolve h (Except.ok_of_toOption hresult)).imp_right .inl
  | finalized source operation actor admitted =>
    exact (inv_finalized h (Except.ok_of_toOption hstep)).imp_right (Or.imp_right fun herased => ⟨source, herased⟩)
  | recovery_prepare source operation hex actor revision proof =>
    obtain ⟨result, hresult, rfl⟩ := Option.map_eq_some_iff.mp hstep
    rcases source_recovery.prepare_ok (Except.ok_of_toOption hresult) with
      hsame | ⟨hnew, hsource, hprepared, hfree, hinsert⟩
    · rw [hsame]
      exact ⟨h, .inl (kept_of_eq rfl)⟩
    · rw [hinsert]
      exact ⟨h.recovery_prepare hsource hprepared hfree, .inl (kept_of_eq rfl)⟩
  | begin_credentials source operation actor =>
    rcases source_recovery.begin_credentials_ok (Except.ok_of_toOption hstep) with
      rfl | ⟨record, hget, hsource, hactive, hfree, rfl⟩
    · exact ⟨h, .inl (kept_of_eq rfl)⟩
    · exact ⟨h.begin_credentials hget hsource hactive hfree, .inl (kept_of_eq rfl)⟩
  | complete source operation actor proof metadata owned =>
    exact (inv_complete h (Except.ok_of_toOption hstep)).imp_right .inl
  | abandon_prepared source operation actor =>
    rcases source_recovery.abandon_prepared_ok (Except.ok_of_toOption hstep) with rfl | ⟨record, hget, _, rfl⟩
    · exact ⟨h, .inl (kept_of_eq rfl)⟩
    · exact ⟨h.recovery_end hget rfl rfl rfl rfl (fun _ _ _ => rfl), .inl (kept_of_eq rfl)⟩

theorem inv_reachable (h : (machine rt).Reachable db) : Inv db :=
  h.invariant (fun _ => inv_init) (fun _ _ _ _ hinv hstep => (inv_step hinv hstep).1)

end

/-- A retirement in flight and a recovery that has dispatched credentials exclude each other, each journal has at most
    one open entry for a source, and a record keeps its receipt, its consent and its end until its source is erased.
    -/
theorem retirement_excludes_recovery (rt : Runtime) (db : Database) (h : (machine rt).Reachable db) :
    (∀ r ∈ db.retirements.rows, r.state.in_flight = true →
      (∀ c ∈ db.recoveries.rows, c.source_instance = r.source_instance → c.state ≠ .CREDENTIALS_PENDING) ∧
      (∀ row, db.row r.source_instance = some row → row.enabled = false)) ∧
    (∀ r ∈ db.retirements.rows, ∀ r' ∈ db.retirements.rows, r.source_instance = r'.source_instance →
      r.state.in_flight = true → r'.state.in_flight = true → r.superseded_by = none → r'.superseded_by = none →
        r = r') ∧
    (∀ c ∈ db.recoveries.rows, ∀ c' ∈ db.recoveries.rows, c.source_instance = c'.source_instance →
      c.state.active = true → c'.state.active = true → c = c') ∧
    (∀ r ∈ db.retirements.rows, r.state = .SUCCEEDED → ∃ receipt, r.receipt = some receipt ∧ Accounts r receipt) ∧
    (∀ action db', step rt db action = some db' → ∀ r ∈ db.retirements.rows,
      (∃ r' ∈ db'.retirements.rows, r'.operation_id = r.operation_id ∧ Later r r') ∨
        (db'.row r.source_instance = none ∧ ∀ r' ∈ db'.retirements.rows, r'.source_instance ≠ r.source_instance)) := by
  have hinv := inv_reachable h
  refine ⟨fun r hr hflight => ⟨hinv.apart r hr hflight, ?_⟩, ?_, ?_, ?_, ?_⟩
  · intro row hrow
    obtain ⟨found, hfound, hdisabled⟩ := hinv.disabled r hr hflight
    rw [hrow] at hfound
    cases hfound
    exact hdisabled
  · intro r hr r' hr' hown hr_flight hr'_flight hr_current hr'_current
    exact Table.eq_of_id hr hr'
      (congrArg Int.ofNat (hinv.alone r hr r' hr' hown hr_flight hr'_flight hr_current hr'_current))
  · intro c hc c' hc' hown hc_active hc'_active
    exact Table.eq_of_id hc hc' (congrArg Int.ofNat (hinv.single c hc c' hc' hown hc_active hc'_active))
  · intro r hr hstate
    obtain ⟨receipt, hreceipt, haccounts, _⟩ := (hinv.sound r hr).accounted (.inl hstate)
    exact ⟨receipt, hreceipt, haccounts⟩
  · intro action db' hstep r hr
    rcases (inv_step hinv hstep).2 with hkept | ⟨source, rfl⟩
    · exact .inl (hkept r hr)
    · by_cases hown : r.source_instance = source
      · right
        constructor
        · rw [Database.row, erased, List.find?_eq_none]
          intro row hrow
          simpa [hown] using (List.mem_filter.mp hrow).2
        · intro r' hr'
          simpa [hown] using (List.mem_filter.mp hr').2
      · exact .inl ⟨r, List.mem_filter.mpr ⟨hr, by simpa using hown⟩, rfl, Later.refl r⟩

def plain_runtime : Runtime := ⟨fun _ => "", fun _ => "", fun _ => true, fun _ => true⟩

/-- One source in a cluster of its own. -/
def registered : Database :=
  { sources := [
      { source_instance := "esxi-a", name := "Host A", source_type := "esxi", address := .str "10.0.0.1"
        enabled := true, sync_enabled := true, verify_ssl := true, username := "root"
        token_id := ⟨"file", "src-a"⟩, token_secret := ⟨"file", "src-a"⟩
        settings := [("onboarding_mapping", .obj [("references",
          .obj [("site", .obj [("id", .int 1)]), ("cluster", .obj [("id", .int 2)])])])] }]
    retirements := ⟨[], List.nodup_nil⟩
    recoveries := ⟨[], List.nodup_nil⟩
    runs := ⟨[], List.nodup_nil⟩ }

/-- The guard's answer about a source with one device. -/
def review_answer (status : String) (deleted : List Value) : Fields :=
  [("nonce", .str "1"), ("source_instance", .str "esxi-a"), ("status", .str status), ("digest", .str ""),
    ("manifest", .obj [("format", .int 2), ("cluster_id", .int 2),
      ("objects", .arr [.arr [.str "device:5", .str ""]])]),
    ("deleted", .arr deleted), ("generation_closed", .bool true)]

theorem retirement_excludes_recovery_deleted :
    ∃ db, (machine plain_runtime).Reachable db ∧ ∃ r ∈ db.retirements.rows, r.state = .SUCCEEDED ∧
      (∀ row, db.row r.source_instance = some row → row.enabled = false) ∧
      ∃ receipt, r.receipt = some receipt ∧ Accounts r receipt := by
  have hrun : ((machine plain_runtime).run registered
      [.prepare "esxi-a" 1 "admin" "" "guard" (review_answer "REVIEWED" []),
        .begin "esxi-a" 1 "admin" "" "Host A" true,
        .resolve "esxi-a" 1 "admin" "guard" (review_answer "SUCCEEDED" [.str "device:5"])]).any
      (fun db => db.retirements.rows.any (fun r => r.state = .SUCCEEDED)) = true := by
    decide +kernel
  rw [Option.any_eq_true] at hrun
  obtain ⟨db, hrun, hcheck⟩ := hrun
  obtain ⟨r, hr, hstate⟩ := List.any_eq_true.mp hcheck
  have hreachable := (Machine.Reachable.init (m := machine plain_runtime) (s := registered) ⟨rfl, rfl⟩).run hrun
  obtain ⟨hdisabled, _, _, haccounted, _⟩ := retirement_excludes_recovery plain_runtime db hreachable
  have hsucceeded : r.state = .SUCCEEDED := of_decide_eq_true hstate
  exact ⟨db, hreachable, r, hr, hsucceeded, (hdisabled r hr (by rw [hsucceeded]; rfl)).2, haccounted r hr hsucceeded⟩

end netbox_sync.source_lifecycle
