import NetboxSync.Lib.Except
import NetboxSync.Runs.Supervisor

open json

namespace netbox_sync.apply_worker

open run_history sync_plan

/-- A status a run may end with after its child crossed the write boundary. -/
def admits_writes (status : RunStatus) : Bool :=
  status = .SUCCEEDED || status = .OUTCOME_UNCERTAIN || status = .PARTIALLY_APPLIED ||
    status = .RUNNING

/-- Past the write boundary an exception is raised outside the executor: while the executor's own exception is
    described, or while the result is built. -/
def leaks (child : Child) : Bool :=
  child.executor.before_write &&
    match child.executor.ending, child.failure, child.result with
    | .error .exception, .error .exception, _ => true
    | .ok (), _, .error .exception => true
    | _, _, _ => false

section answers

theorem read_response_of_unreadable {text : String} (h : loads text = none) :
    read_response "apply" text = .error "OUTCOME_UNCERTAIN" := by
  simp [read_response, h]

theorem read_response_of_malformed {text : String} (h : ¬ is_response text) :
    read_response "apply" text = .error "OUTCOME_UNCERTAIN" := by
  unfold read_response
  dsimp only
  split
  · next fields hloads =>
    split
    · rfl
    · next hkeys =>
      have hknown : ∀ key ∈ dict.keys fields, key ∈ RESPONSE_KEYS := by simpa using hkeys
      split
      · next herror => exact absurd ⟨fields, hloads, hknown, .inl herror⟩ h
      · split
        · next result hresult => exact absurd ⟨fields, hloads, hknown, .inr ⟨result, hresult⟩⟩ h
        · rfl
  · rfl

theorem loads_truncated (fields : Fields) (n : Nat) :
    loads (String.ofList (((Value.obj fields).dump .spaced).dropLast.take n)) = none := by
  obtain ⟨c, cs, hcs, _⟩ := dump_opening .spaced (Value.obj fields)
  rw [List.dropLast_eq_take, List.take_take]
  apply loads_take_dumps
  rw [hcs, List.length_cons]
  omega

theorem wellFormed_applied (sha256 : String → String) (plan : SyncPlan) :
    (Value.obj [("result", .obj (applied sha256 plan))]).WellFormed := by
  simp [applied, asdict, ActionCounts.from_items]

theorem read_applied (sha256 : String → String) (plan : SyncPlan) :
    read_response "apply" (dumps .spaced (.obj [("result", .obj (applied sha256 plan))])) =
      .ok (applied sha256 plan) := by
  rw [read_response, loads_dumps .spaced (wellFormed_applied sha256 plan)]
  simp [dict.keys, RESPONSE_KEYS, dict.get, Value.truthy]

variable {fields : Fields}

theorem read_error {code : String} (hallowed : code ∈ ALLOWED_ERRORS) (hwf : (Value.obj fields).WellFormed)
    (hkeys : ∀ key ∈ dict.keys fields, key ∈ RESPONSE_KEYS) (herror : dict.get fields "error" = some (.str code)) :
    read_response "apply" (dumps .spaced (.obj fields)) = .error code := by
  have hne : code ≠ "" := by
    rintro rfl
    revert hallowed
    decide
  rw [read_response, loads_dumps .spaced hwf]
  simp only [herror, Option.getD_some, Value.truthy, hne, error_code, hallowed, ne_eq, not_false_eq_true,
    decide_true, if_true]
  rw [if_neg]
  simpa using hkeys

theorem read_response_of_missing (hwf : (Value.obj fields).WellFormed) (h : dict.get fields "result" = none)
    (result : Fields) : read_response "apply" (dumps .spaced (.obj fields)) ≠ .ok result := by
  rw [read_response, loads_dumps .spaced hwf]
  dsimp only
  split
  · simp
  · split
    · simp
    · simp [h]

end answers

section process

variable {sha256 : String → String} {expected_digest : String} {child : Child} {sup : Supervision}
  {ended : Ended}

/-- The child's answer arrives as it was printed. -/
structure Heard (sup : Supervision) (ended : Ended) : Prop where
  returned : sup.communication = .returned
  reported : sup.report = .ok ()
  complete : sup.delivery = .complete
  exited : ended.returncode = 0
  bounded : (String.ofList ended.output).utf8ByteSize ≤ MAX_RESPONSE

theorem child_result_of_heard (h : Heard sup ended) :
    child_result sup ended = relayed (read_response "apply" (String.ofList ended.output)) := by
  have hbounded := Nat.not_lt.mpr h.bounded
  simp only [child_result, h.returned, h.reported, h.complete, h.exited, Delivery.output, ne_eq,
    not_true_eq_false, false_or, hbounded, if_false]

/-- An answer that does not arrive counts as an uncertain outcome. -/
theorem child_result_of_unheard
    (hprinted : ended.output = [] ∨ ∃ fields, ended.output = (Value.obj fields).dump .spaced)
    (h : ¬ Heard sup ended) :
    child_result sup ended = .error (error "OUTCOME_UNCERTAIN") ∨
      ∃ fault, child_result sup ended = .error (.fault fault) := by
  have hempty : loads "" = none := by decide
  unfold child_result
  split
  · exact .inr ⟨_, rfl⟩
  · exact .inr ⟨_, rfl⟩
  · exact .inl rfl
  · next hreturned hreported =>
    dsimp only
    split
    · exact .inl rfl
    · next harrived =>
      rw [not_or, not_not, Nat.not_lt] at harrived
      have hread : read_response "apply" (sup.delivery.output ended.output) = .error "OUTCOME_UNCERTAIN" := by
        cases hdelivery : sup.delivery with
        | complete =>
          rw [hdelivery] at harrived
          exact absurd ⟨hreturned, hreported, hdelivery, harrived.1, harrived.2⟩ h
        | truncated n =>
          apply read_response_of_unreadable
          rcases hprinted with hprinted | ⟨fields, hprinted⟩
          · simpa [Delivery.output, hprinted] using hempty
          · rw [Delivery.output, hprinted]
            exact loads_truncated fields n
        | malformed text htext => exact read_response_of_malformed htext
      rw [hread]
      exact .inl rfl

theorem run_apply_printed : (run_apply sha256 expected_digest child).output = [] ∨
    ∃ fields, (run_apply sha256 expected_digest child).output = (Value.obj fields).dump .spaced := by
  unfold run_apply
  split
  · exact .inl rfl
  · split
    · exact .inr ⟨_, rfl⟩
    · exact .inl rfl

/-- An answer that was heard is the one the child made. -/
theorem run_apply_of_heard (h : Heard sup (run_apply sha256 expected_digest child))
    (hanswer : answer child (execute_apply sha256 expected_digest child).2 = .ok fields)
    (hprint : child.print = .ok ()) :
    child_result sup (run_apply sha256 expected_digest child) =
      relayed (read_response "apply" (dumps .spaced (.obj fields))) := by
  rw [child_result_of_heard h]
  simp only [run_apply, hanswer, hprint]
  rfl

/-- A child that ends without an answer is not believed. -/
theorem run_apply_of_crash (h : Heard sup (run_apply sha256 expected_digest child))
    (hsilent : (run_apply sha256 expected_digest child).output = []) :
    child_result sup (run_apply sha256 expected_digest child) = .error (error "OUTCOME_UNCERTAIN") := by
  have hempty : loads "" = none := by decide
  rw [child_result_of_heard h, hsilent]
  exact congrArg relayed (read_response_of_unreadable hempty)

/-- The child called `before_write` where its executor was reached and did. -/
theorem execute_apply_wrote_iff :
    (execute_apply sha256 expected_digest child).1 = true ↔
      ∃ plan, recompute sha256 expected_digest child = .ok plan ∧ child.executor.before_write = true := by
  unfold execute_apply
  cases recompute sha256 expected_digest child with
  | error raised => simp
  | ok plan => simp

/-- An outcome that is not filed as a failure before the first write. -/
inductive Harmless : Except Raised Fields → Prop where
  | uncertain : Harmless (.error (error "OUTCOME_UNCERTAIN"))
  | fault (fault : Fault) : Harmless (.error (.fault fault))
  | result (fields : Fields) : Harmless (.ok fields)

/-- The report of a leaked exception. -/
def leak_report (diagnostic : Diagnostic) : Fields :=
  [("error", .str "FAILED_BEFORE_WRITE"), ("diagnostic", diagnostic.value)]

/-- A leaked exception is described and reported, and the report arrives. -/
structure Told (sup : Supervision) : Prop where
  described : ∃ diagnostic, sup.child.main_failure = .ok diagnostic ∧
    (dumps .spaced (.obj (leak_report diagnostic))).utf8ByteSize ≤ MAX_RESPONSE
  printed : sup.child.print = .ok ()
  exited : sup.child.shutdown = 0
  returned : sup.communication = .returned
  reported : sup.report = .ok ()
  complete : sup.delivery = .complete

/-- How the executor's stretch of `execute_child` can end. -/
inductive Executed (sha256 : String → String) (plan : SyncPlan) (child : Child) : Except Raised Fields → Prop where
  | leaked (h : leaks child = true) : Executed sha256 plan child (.error (.fault .exception))
  | applied (h : leaks child = false) (hending : child.executor.ending = .ok ()) :
      Executed sha256 plan child (.ok (applied sha256 plan))
  | uncertain (h : leaks child = false) (diagnostic : Diagnostic) :
      Executed sha256 plan child (.error (.apply_worker_error
        { code := "OUTCOME_UNCERTAIN", diagnostic := diagnostic.value, wellFormed := diagnostic.wellFormed }))
  | exited (h : leaks child = false) (returncode : Int) :
      Executed sha256 plan child (.error (.fault (.exits returncode)))

theorem execute_apply_executed {plan : SyncPlan} (hplan : recompute sha256 expected_digest child = .ok plan)
    (hwrote : child.executor.before_write = true) :
    Executed sha256 plan child (execute_apply sha256 expected_digest child).2 := by
  simp only [execute_apply, hplan, hwrote, if_true]
  cases hending : child.executor.ending with
  | ok =>
    cases hresult : child.result with
    | ok => exact .applied (by simp [leaks, hending, hresult]) hending
    | error fault =>
      cases fault with
      | exception => exact .leaked (by simp [leaks, hwrote, hending, hresult])
      | exits returncode => exact .exited (by simp [leaks, hending, hresult]) returncode
  | error fault =>
    cases fault with
    | exits returncode => exact .exited (by simp [leaks, hending]) returncode
    | exception =>
      cases hfailure : child.failure with
      | ok diagnostic => exact .uncertain (by simp [leaks, hending, hfailure]) diagnostic
      | error fault =>
        cases fault with
        | exception => exact .leaked (by simp [leaks, hwrote, hending, hfailure])
        | exits returncode => exact .exited (by simp [leaks, hending, hfailure]) returncode

/-- Whether a leaked exception's report arrives is up to the steps after it. -/
theorem heard_leak_iff (houtcome : (execute_apply sha256 expected_digest sup.child).2 = .error (.fault .exception))
    {diagnostic : Diagnostic} (hmain : sup.child.main_failure = .ok diagnostic) (hprint : sup.child.print = .ok ()) :
    Heard sup (run_apply sha256 expected_digest sup.child) ↔ Told sup := by
  have hended : run_apply sha256 expected_digest sup.child =
      ⟨sup.child.shutdown, (Value.obj (leak_report diagnostic)).dump .spaced⟩ := by
    simp [run_apply, houtcome, answer, hmain, hprint, leak_report]
  rw [hended]
  constructor
  · intro h
    exact ⟨⟨diagnostic, hmain, h.bounded⟩, hprint, h.exited, h.returned, h.reported, h.complete⟩
  · intro h
    obtain ⟨described, hdescribed, hbounded⟩ := h.described
    rw [hmain, Except.ok.injEq] at hdescribed
    subst hdescribed
    exact ⟨h.returned, h.reported, h.complete, h.exited, hbounded⟩

/-- Past the write boundary, a failure before the first write is reported exactly where an exception leaked and the
    report of it arrived. -/
theorem child_result_past_boundary (hwrote : (execute_apply sha256 expected_digest sup.child).1 = true) :
    (leaks sup.child = true ∧ Told sup ∧
      child_result sup (run_apply sha256 expected_digest sup.child) = .error (error "FAILED_BEFORE_WRITE")) ∨
    (¬ (leaks sup.child = true ∧ Told sup) ∧
      Harmless (child_result sup (run_apply sha256 expected_digest sup.child))) := by
  obtain ⟨plan, hplan, hbefore⟩ := execute_apply_wrote_iff.mp hwrote
  have hexecuted := execute_apply_executed hplan hbefore
  generalize houtcome : (execute_apply sha256 expected_digest sup.child).2 = outcome at hexecuted
  by_cases hheard : Heard sup (run_apply sha256 expected_digest sup.child)
  case neg =>
    refine .inr ⟨?_, ?_⟩
    · rintro ⟨hleaks, htold⟩
      obtain ⟨diagnostic, hmain, _⟩ := htold.described
      cases hexecuted with
      | leaked => exact hheard ((heard_leak_iff houtcome hmain htold.printed).mpr htold)
      | applied h | uncertain h | exited h =>
        rw [hleaks] at h
        cases h
    · rcases child_result_of_unheard run_apply_printed hheard with h | ⟨fault, h⟩
      · rw [h]
        exact .uncertain
      · rw [h]
        exact .fault fault
  case pos =>
    -- Without an answer of its own the child counts as uncertain.
    have hsilent : (run_apply sha256 expected_digest sup.child).output = [] →
        Harmless (child_result sup (run_apply sha256 expected_digest sup.child)) := by
      intro houtput
      rw [run_apply_of_crash hheard houtput]
      exact .uncertain
    cases hprint : sup.child.print with
    | error fault =>
      refine .inr ⟨fun h => by simp [h.2.printed] at hprint, hsilent ?_⟩
      unfold run_apply
      rw [hprint]
      split <;> rfl
    | ok =>
      cases hexecuted with
      | leaked hleaks =>
        cases hmain : sup.child.main_failure with
        | error fault =>
          refine .inr ⟨fun h => by simpa [hmain] using h.2.described, hsilent ?_⟩
          simp [run_apply, houtcome, answer, hmain]
        | ok diagnostic =>
          have hanswer : answer sup.child (execute_apply sha256 expected_digest sup.child).2 =
              .ok (leak_report diagnostic) := by
            simp [houtcome, answer, hmain, leak_report]
          refine .inl ⟨hleaks, (heard_leak_iff houtcome hmain hprint).mp hheard, ?_⟩
          rw [run_apply_of_heard hheard hanswer hprint, read_error (by decide)
            (by simp [leak_report, diagnostic.wellFormed])
            (by simp [leak_report, dict.keys, RESPONSE_KEYS]) rfl]
          rfl
      | applied hleaks hending =>
        refine .inr ⟨fun h => by simp [hleaks] at h, ?_⟩
        rw [run_apply_of_heard hheard (by rw [houtcome]; rfl) hprint, read_applied]
        exact .result _
      | uncertain hleaks diagnostic =>
        have hanswer : answer sup.child (execute_apply sha256 expected_digest sup.child).2 =
            .ok [("error", .str "OUTCOME_UNCERTAIN"), ("reason", .null), ("categories", .arr []),
              ("diagnostic", diagnostic.value)] := by
          rw [houtcome]
          rfl
        refine .inr ⟨fun h => by simp [hleaks] at h, ?_⟩
        rw [run_apply_of_heard hheard hanswer hprint, read_error (by decide)
          (by simp [diagnostic.wellFormed]) (by simp [dict.keys, RESPONSE_KEYS]) rfl]
        exact .uncertain
      | exited hleaks returncode =>
        refine .inr ⟨fun h => by simp [hleaks] at h, hsilent ?_⟩
        simp [run_apply, houtcome, answer]

theorem recompute_digest {plan : SyncPlan} (h : recompute sha256 expected_digest child = .ok plan) :
    child.plan = .ok plan ∧ plan.digest sha256 = expected_digest := by
  simp only [recompute, Except.bind_eq_ok_iff] at h
  obtain ⟨_, _, _, _, _, _, planned, hplanned, _, hcheck, _, _, ⟨⟩⟩ := h
  constructor
  · cases hchild : child.plan with
    | error fault => simp [attempt, hchild] at hplanned
    | ok value =>
      rw [hchild] at hplanned
      cases hplanned
      rfl
  · by_contra hdigest
    unfold check_plan at hcheck
    split at hcheck
    · cases hcheck
    · split at hcheck <;> cases hcheck

/-- Every answer but a result lacks the key. -/
theorem answer_error {raised : Raised} (h : answer child (.error raised) = .ok fields) :
    dict.get fields "result" = none ∧ (Value.obj fields).WellFormed := by
  unfold answer at h
  split at h
  · next heq => cases heq
  · next error _ =>
    cases h
    refine ⟨rfl, ?_⟩
    cases hreason : error.reason <;> simp [json.optional, error.wellFormed]
  · cases h
  · split at h
    · next diagnostic _ =>
      cases h
      exact ⟨rfl, by simp [diagnostic.wellFormed]⟩
    · cases h

/-- A result comes from an executor that returned. -/
theorem child_result_eq_ok {result : Fields}
    (h : child_result sup (run_apply sha256 expected_digest sup.child) = .ok result) :
    ∃ plan, recompute sha256 expected_digest sup.child = .ok plan ∧ sup.child.executor.ending = .ok () := by
  have hheard : Heard sup (run_apply sha256 expected_digest sup.child) := by
    by_contra hnot
    rcases child_result_of_unheard run_apply_printed hnot with hresult | ⟨fault, hresult⟩
    · rw [hresult] at h
      cases h
    · rw [hresult] at h
      cases h
  have hprinted : (run_apply sha256 expected_digest sup.child).output ≠ [] := by
    intro hsilent
    rw [run_apply_of_crash hheard hsilent] at h
    cases h
  obtain ⟨fields, hanswer⟩ : ∃ fields,
      answer sup.child (execute_apply sha256 expected_digest sup.child).2 = .ok fields := by
    cases hanswer : answer sup.child (execute_apply sha256 expected_digest sup.child).2 with
    | ok fields => exact ⟨fields, rfl⟩
    | error fault => simp [run_apply, hanswer] at hprinted
  have hprint : sup.child.print = .ok () := by
    cases hprint : sup.child.print with
    | ok => rfl
    | error fault => simp [run_apply, hanswer, hprint] at hprinted
  rw [run_apply_of_heard hheard hanswer hprint] at h
  cases houtcome : (execute_apply sha256 expected_digest sup.child).2 with
  | ok value =>
    unfold execute_apply at houtcome
    cases hplan : recompute sha256 expected_digest sup.child with
    | error raised => simp [hplan] at houtcome
    | ok plan =>
      refine ⟨plan, rfl, ?_⟩
      rw [hplan] at houtcome
      dsimp only at houtcome
      split at houtcome
      · assumption
      · split at houtcome <;> cases houtcome
      · cases houtcome
  | error raised =>
    rw [houtcome] at hanswer
    obtain ⟨hmissing, hwf⟩ := answer_error hanswer
    cases hresponse : read_response "apply" (dumps .spaced (.obj fields)) with
    | ok value => exact absurd hresponse (read_response_of_missing hwf hmissing value)
    | error code =>
      rw [hresponse] at h
      cases h

end process

end netbox_sync.apply_worker
