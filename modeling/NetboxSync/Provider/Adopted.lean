import Mathlib.Data.List.Dedup
import NetboxSync.Lib.Table
import NetboxSync.Provider.Reconcile

open json

namespace netbox_guard.provider_reconcile

open netbox_sync.hardware_identity provider_policy provider_automation

variable {rt : Runtime} {content : Content} {now : Int}

/-- The resource section of the record was collected by the last import. -/
def freshly_collected (record : ProviderInventory) : Bool :=
  match (do
    let sections ← index record.snapshot "sections"
    collected ((← lookup sections "resource").getD (.obj []))) with
  | .ok fresh => fresh
  | .error _ => false

/-- What holds of a resource that is to be bound or created. -/
structure Fit (content : Content) (now : Int) (account : String) (resume_key : Option String)
    (record : ProviderInventory) (plan : Plan) : Prop where
  unbound : ∀ binding ∈ content.bindings, binding.provider_key ≠ record.provider_key
  seen : ∀ keys, missing content account = .ok keys → record.provider_key ∉ keys
  recent : now - hours 48 ≤ record.observed_at
  collected : freshly_collected record = true
  attached : record.provider_key ∈ detached_keys content account → resume_key = some record.provider_key
  unconflicted : hardware_conflict plan.info = false ∧ ∀ row ∈ plan.candidates, row.evidence.hardware_conflict = false

/-- What the choice of a target to bind rests on. -/
structure Chosen (content : Content) (plan : Plan) : Prop where
  target : ∃ id row, plan.object_id = some id ∧ 0 < id ∧
    plan.candidates.filter (fun row => row.resource = plan.resource) = [row] ∧ row.id = id ∧
    (plan.reason = "stable_identity" ∧ row.evidence.stable_identity = true ∨
      plan.reason = "unambiguous_network_identity" ∧
        (row.evidence.public_ips ≠ [] ∨ row.evidence.observed_guest_wans ≠ [])) ∧
    ∀ binding ∈ content.bindings, (binding.resource, binding.object_id) ≠ (plan.resource, id)

theorem mem_bound_targets {tid : TargetId} :
    tid ∈ bound_targets content ↔ ∃ binding ∈ content.bindings, (binding.resource, binding.object_id) = tid := by
  rw [bound_targets, List.mem_map]

section

variable {resource : Resource} {candidates : List Candidate}

/-- What an automatic choice has checked. -/
theorem candidate_eq_some {bound : List TargetId} {id : Int} (h : candidate resource candidates bound = some id) :
    ∃ row, candidates.filter (fun row => row.resource = resource) = [row] ∧ row.id = id ∧
      (resource, id) ∉ bound ∧ (row.evidence.public_ips ≠ [] ∨ row.evidence.observed_guest_wans ≠ []) := by
  unfold candidate at h
  split at h
  · next row hrow =>
    have hresource : row.resource = resource := by
      have hmem : row ∈ candidates.filter (fun row => decide (row.resource = resource)) := by
        rw [hrow]
        exact List.mem_singleton_self row
      exact of_decide_eq_true (List.mem_filter.mp hmem).2
    split at h
    · cases h
    · next hclear =>
      split at h
      · cases h
      · split at h
        · next hevidence =>
          cases h
          simp only [Bool.or_eq_true, not_or, List.contains_eq_mem, decide_eq_true_eq] at hclear hevidence
          subst hresource
          exact ⟨row, hrow, rfl, hclear.1, hevidence⟩
        · cases h
  · cases h

end

section

variable {info : Facts} {found : Findings} {provider_key : String} {resource : Resource}

/-- A target with a strong claim is one of the resource's own kind. -/
theorem mem_strong (h : findings rt content now resource provider_key info = .ok found) {tid : TargetId}
    (htid : tid ∈ found.strong) : ∃ target ∈ content.targets, target.tid = tid ∧ target.resource = resource := by
  obtain ⟨entries, hentries, h⟩ := Except.bind_eq_ok_iff.mp h
  cases h
  obtain ⟨entry, hentry, rfl⟩ := List.mem_map.mp htid
  obtain ⟨hentry, hstrong⟩ := List.mem_filter.mp hentry
  obtain ⟨target, htarget, hround⟩ := (Except.mapM_eq_ok_iff.mp hentries).exists_of_mem_right hentry
  obtain ⟨evidence, hevidence, hpair⟩ := Except.bind_eq_ok_iff.mp hround
  cases hpair
  refine ⟨target, htarget, rfl, ?_⟩
  obtain ⟨verdict, hverdict, hrest⟩ := Except.bind_eq_ok_iff.mp hevidence
  obtain ⟨held, -, hparts⟩ := Except.bind_eq_ok_iff.mp hrest
  cases hparts
  simp only [Bool.or_eq_true, decide_eq_true_eq, Bool.and_eq_true] at hstrong
  rcases hstrong with hmatch | ⟨-, hsame⟩
  · unfold verdict_of at hverdict
    split at hverdict
    · next hdevice => exact hdevice.1.trans hdevice.2.symm
    · rw [hmatch] at hverdict
      cases hverdict
  · exact hsame

end

section

variable {info : Facts} {found : Findings} {resource : Resource} {candidates : List Candidate}

theorem mem_candidates_of (h : candidates_of rt content now resource info found = .ok candidates)
    {row : Candidate} (hrow : row ∈ candidates) :
    ∃ target ∈ content.targets, row = candidate_of rt content now resource info found target := by
  unfold candidates_of at h
  split at h
  · cases h
    obtain ⟨target, htarget, rfl⟩ := List.mem_map.mp hrow
    exact ⟨target, List.mem_of_mem_filter htarget, rfl⟩
  · cases h

/-- Where a single target is possible at all, it is the only candidate. -/
theorem candidates_of_single (h : candidates_of rt content now resource info found = .ok candidates) {target : Target}
    (htarget : target ∈ content.targets) (honly : ∀ tid, tid ∈ found.possible ++ found.strong ↔ tid = target.tid) :
    candidates = [candidate_of rt content now resource info found target] := by
  unfold candidates_of at h
  split at h
  · cases h
    have hsingle : content.targets.filter (fun other =>
        (found.possible ++ found.strong).contains other.tid) = [target] := by
      apply List.filter_eq_singleton content.target_ids.of_map htarget
      intro other hother
      rw [List.contains_eq_mem, decide_eq_true_eq, honly]
      exact ⟨fun htid => List.inj_on_of_nodup_map content.target_ids hother htarget htid, fun heq => by rw [heq]⟩
    rw [hsingle]
    rfl
  · cases h

/-- What a decision leaves of the plan it is made on, and what it rests on. -/
structure Decision (content : Content) (plan chosen : Plan) : Prop where
  resource : chosen.resource = plan.resource
  info : chosen.info = plan.info
  key : chosen.key = plan.key
  candidates : chosen.candidates = plan.candidates
  bind : chosen.action = .bind → Chosen content chosen
  create : chosen.action = .create → chosen.object_id = plan.object_id

theorem Decision.undecided {plan : Plan} (hunset : plan.action = .blocked) (reason : String) :
    Decision content plan { plan with reason := reason } := by
  refine ⟨rfl, rfl, rfl, rfl, fun hbind => ?_, fun _ => rfl⟩
  dsimp only at hbind
  rw [hunset] at hbind
  cases hbind

/-- The choice of a target, from the evidence it was made on. -/
theorem decided_decision {plan chosen : Plan} {provider_key : String} {snapshot : Value}
    (h : decided rt content snapshot found plan = .ok chosen)
    (hfound : findings rt content now plan.resource provider_key plan.info = .ok found)
    (hcandidates : candidates_of rt content now plan.resource plan.info found = .ok plan.candidates)
    (hunset : plan.action = .blocked) : Decision content plan chosen := by
  obtain ⟨ident, -, h⟩ := Except.bind_eq_ok_iff.mp h
  obtain ⟨native_id, -, h⟩ := Except.bind_eq_ok_iff.mp h
  split at h
  · next tid hstrong =>
    split at h
    · next hclear =>
      cases h
      refine ⟨rfl, rfl, rfl, rfl, fun _ => ?_, fun hcreate => nomatch hcreate⟩
      have htid : ∀ other, other ∈ found.strong ↔ other = tid := by
        intro other
        rw [← List.mem_dedup, hstrong, List.mem_singleton]
      obtain ⟨target, htarget, hsame, hresource⟩ := mem_strong hfound ((htid tid).mpr rfl)
      simp only [Bool.and_eq_true, List.all_eq_true, decide_eq_true_eq, Bool.not_eq_true',
        List.contains_eq_mem, decide_eq_false_iff_not] at hclear
      have honly : ∀ other, other ∈ found.possible ++ found.strong ↔ other = target.tid := by
        intro other
        rw [List.mem_append, htid, hsame]
        exact ⟨fun hother => hother.elim (hclear.1 other) id, .inr⟩
      have hsingle := candidates_of_single hcandidates htarget honly
      subst hsame
      refine ⟨target.pk, candidate_of rt content now plan.resource plan.info found target, rfl, target.pk_pos,
        ?_, rfl, .inl ⟨rfl, ?_⟩, fun binding hbinding heq => ?_⟩
      · dsimp only
        rw [hsingle, List.filter_singleton]
        simp [candidate_of, hresource]
      · simpa [candidate_of] using (htid target.tid).mpr rfl
      · apply hclear.2
        rw [mem_bound_targets]
        exact ⟨binding, hbinding, heq.trans (by rw [Target.tid, hresource])⟩
    · exact Except.ok.inj h ▸ Decision.undecided hunset _
  · exact Except.ok.inj h ▸ Decision.undecided hunset _
  · split at h
    · next id hid =>
      cases h
      obtain ⟨row, hrow, rfl, hunbound, hevidence⟩ := candidate_eq_some hid
      refine ⟨rfl, rfl, rfl, rfl, fun _ => ?_, fun hcreate => nomatch hcreate⟩
      have hmem : row ∈ plan.candidates := by
        have hfilter : row ∈ plan.candidates.filter (fun row => decide (row.resource = plan.resource)) := by
          rw [hrow]
          exact List.mem_singleton_self row
        exact List.mem_of_mem_filter hfilter
      obtain ⟨target, -, rfl⟩ := mem_candidates_of hcandidates hmem
      refine ⟨target.pk, _, rfl, target.pk_pos, hrow, rfl, .inr ⟨rfl, hevidence⟩, fun binding hbinding heq => ?_⟩
      exact hunbound (mem_bound_targets.mpr ⟨binding, hbinding, heq⟩)
    · split at h
      · exact Except.ok.inj h ▸ Decision.undecided hunset _
      · split at h
        · exact Except.ok.inj h ▸ Decision.undecided hunset _
        · obtain ⟨placed, -, h⟩ := Except.bind_eq_ok_iff.mp h
          cases placed with
          | none => exact Except.ok.inj h ▸ Decision.undecided hunset _
          | some placed =>
            cases h
            exact ⟨rfl, rfl, rfl, rfl, fun hbind => (nomatch hbind), fun _ => rfl⟩

end

theorem block_ite {plan before : Plan} (hbefore : before = plan ∨ ∃ reason, before = plan.block reason)
    (condition : Prop) [Decidable condition] (reason : String) :
    (if condition then before.block reason else before) = plan ∨
      ∃ reason', (if condition then before.block reason else before) = plan.block reason' := by
  split
  · obtain rfl | ⟨earlier, rfl⟩ := hbefore
    · exact .inr ⟨reason, rfl⟩
    · exact .inr ⟨reason, rfl⟩
  · exact hbefore

/-- The rules leave a plan as it is, or block it. -/
theorem blocked_by_cases (now : Int) (missing : List String) (record : ProviderInventory) (found : Findings)
    (task_state : Value) (fresh : Bool) (plan : Plan) :
    blocked_by now missing record found task_state fresh plan = plan ∨
      ∃ reason, blocked_by now missing record found task_state fresh plan = plan.block reason := by
  simp only [blocked_by]
  apply block_ite
  have hfirst := block_ite (Or.inl (Eq.refl plan))
    ((hardware_conflict plan.info || decide (found.conflicts ≠ [])) = true) "hardware_identity_conflict"
  generalize (if (hardware_conflict plan.info || decide (found.conflicts ≠ [])) = true then
    plan.block "hardware_identity_conflict" else plan) = first at hfirst ⊢
  split
  · exact hfirst
  · split
    · obtain rfl | ⟨reason, rfl⟩ := hfirst
      · exact .inr ⟨_, rfl⟩
      · exact .inr ⟨_, rfl⟩
    · exact block_ite hfirst _ _

/-- A plan that no rule has blocked met the condition of none. -/
theorem blocked_by_adopts {missing : List String} {record : ProviderInventory} {found : Findings}
    {task_state : Value} {fresh : Bool} {plan : Plan}
    (h : (blocked_by now missing record found task_state fresh plan).action.adopts = true) :
    blocked_by now missing record found task_state fresh plan = plan ∧ hardware_conflict plan.info = false ∧
      found.conflicts = [] ∧ outdated now missing record fresh = false := by
  simp only [blocked_by] at h ⊢
  by_cases houtdated : outdated now missing record fresh = true
  · rw [if_pos houtdated] at h
    cases h
  rw [if_neg houtdated] at h ⊢
  rw [Bool.not_eq_true] at houtdated
  by_cases hconflict : (hardware_conflict plan.info || decide (found.conflicts ≠ [])) = true
  · rw [if_pos hconflict] at h
    split at h
    · cases h
    · split at h
      · cases h
      · split at h <;> cases h
  rw [if_neg hconflict] at h ⊢
  simp only [Bool.or_eq_true, decide_eq_true_eq, not_or, Bool.not_eq_true, not_not] at hconflict
  refine ⟨?_, hconflict.1, hconflict.2, houtdated⟩
  split at h
  · rfl
  · split at h
    · cases h
    · split at h
      · cases h
      · next hstatus htask => rw [if_neg hstatus, if_neg htask]

section

variable {missing : List String} {record : ProviderInventory} {resource_data : Fields}
  {plan result : Plan}

/-- A resource without a binding that is to be adopted. -/
structure Proceeds (content : Content) (now : Int) (missing : List String) (record : ProviderInventory)
    (plan result : Plan) : Prop extends Decision content plan result where
  seen : record.provider_key ∉ missing
  recent : now - hours 48 ≤ record.observed_at
  collected : freshly_collected record = true
  unconflicted : hardware_conflict result.info = false ∧
    ∀ row ∈ result.candidates, row.evidence.hardware_conflict = false

theorem unbound_plan_ok (hunset : plan.action = .blocked)
    (h : unbound_plan rt content now missing record resource_data plan = .ok result) :
    result.resource = plan.resource ∧ result.info = plan.info ∧ result.key = plan.key ∧
      (result.action.adopts = true → ∃ candidates groups ignored, Proceeds content now missing record
        { plan with candidates := candidates, host_groups := groups, ignored_address_matches := ignored } result) := by
  obtain ⟨found, hfound, h⟩ := Except.bind_eq_ok_iff.mp h
  obtain ⟨candidates, hcandidates, h⟩ := Except.bind_eq_ok_iff.mp h
  obtain ⟨chosen, hchosen, h⟩ := Except.bind_eq_ok_iff.mp h
  obtain ⟨sections, hsections, h⟩ := Except.bind_eq_ok_iff.mp h
  obtain ⟨part, hpart, h⟩ := Except.bind_eq_ok_iff.mp h
  obtain ⟨fresh, hfresh, h⟩ := Except.bind_eq_ok_iff.mp h
  cases h
  have hdecision := decided_decision hchosen hfound hcandidates hunset
  have hframe : ∀ task, (blocked_by now missing record found task fresh chosen).resource = chosen.resource ∧
      (blocked_by now missing record found task fresh chosen).info = chosen.info ∧
      (blocked_by now missing record found task fresh chosen).key = chosen.key := by
    intro task
    obtain h | ⟨reason, h⟩ := blocked_by_cases now missing record found task fresh chosen <;> rw [h]
    · exact ⟨rfl, rfl, rfl⟩
    · exact ⟨rfl, rfl, rfl⟩
  obtain ⟨hresource, hinfo, hkey⟩ := hframe _
  refine ⟨hresource.trans hdecision.resource, hinfo.trans hdecision.info, hkey.trans hdecision.key, fun hadopts => ?_⟩
  obtain ⟨hsame, hconflict, hconflicts, houtdated⟩ := blocked_by_adopts hadopts
  rw [hsame]
  simp only [outdated, Bool.or_eq_false_iff, decide_eq_false_iff_not, Bool.not_eq_false',
    List.contains_eq_mem] at houtdated
  obtain ⟨⟨⟨hseen, hrecent⟩, -⟩, hcollected⟩ := houtdated
  refine ⟨_, _, _, hdecision, hseen, by omega, ?_, hconflict, fun row hrow => ?_⟩
  · rw [freshly_collected, hsections, Except.ok_bind, hpart, Except.ok_bind, hfresh]
    exact hcollected
  · rw [hdecision.candidates] at hrow
    obtain ⟨target, -, rfl⟩ := mem_candidates_of hcandidates hrow
    simp [candidate_of, hconflicts]

end

/-- The plan of one resource is sound. -/
structure Sound (content : Content) (now : Int) (account : String) (resume_key : Option String)
    (record : ProviderInventory) (plan : Plan) : Prop where
  key : plan.key = record.provider_key
  fit : plan.action.adopts = true → Fit content now account resume_key record plan
  chosen : plan.action = .bind → Chosen content plan
  unset : plan.action = .create → plan.object_id = none

theorem bound_plan_adopts (content : Content) (plan : Plan) (binding : ProviderBinding) :
    (bound_plan content plan binding).action.adopts = false ∧ (bound_plan content plan binding).key = plan.key := by
  unfold bound_plan
  split
  · split <;> exact ⟨rfl, rfl⟩
  · exact ⟨rfl, rfl⟩

theorem binding_of_eq_none {key : String} (h : binding_of content key = none) :
    ∀ binding ∈ content.bindings, binding.provider_key ≠ key := by
  intro binding hbinding heq
  have hnone := List.find?_eq_none.mp h binding hbinding
  exact hnone (decide_eq_true heq)

theorem record_plan_sound {account : String} {resume_key : Option String} {keys : List String}
    (hmissing : missing content account = .ok keys) {record : ProviderInventory} {plan : Plan}
    (h : record_plan rt content now keys (detached_keys content account) resume_key record = .ok plan) :
    Sound content now account resume_key record plan := by
  obtain ⟨resource, -, h⟩ := Except.bind_eq_ok_iff.mp h
  obtain ⟨_, -, h⟩ := Except.bind_eq_ok_iff.mp h
  obtain ⟨info, -, h⟩ := Except.bind_eq_ok_iff.mp h
  obtain ⟨sections, -, h⟩ := Except.bind_eq_ok_iff.mp h
  obtain ⟨resource_data, -, h⟩ := Except.bind_eq_ok_iff.mp h
  obtain ⟨initial, hinitial, hrest⟩ := Except.bind_eq_ok_iff.mp h
  obtain ⟨result, hresult, hdetach⟩ := Except.bind_eq_ok_iff.mp hrest
  obtain ⟨status, -, hfields⟩ := Except.bind_eq_ok_iff.mp hinitial
  cases hfields
  cases hdetach
  unfold bound_or_unbound_plan at hresult
  unfold detach
  split at hresult
  · next binding hbinding =>
    cases hresult
    obtain ⟨hadopts, hkey⟩ := bound_plan_adopts content _ binding
    have hnever : ∀ plan' : Plan, plan'.action.adopts = false → plan'.key = record.provider_key →
        Sound content now account resume_key record plan' := by
      intro plan' hno hkey'
      refine ⟨hkey', fun h => ?_, fun h => ?_, fun h => ?_⟩
      · rw [hno] at h
        cases h
      · rw [h] at hno
        cases hno
      · rw [h] at hno
        cases hno
    split
    · exact hnever _ rfl hkey
    · exact hnever _ hadopts hkey
  · next hbinding =>
    obtain ⟨-, -, hkey, hproceeds⟩ := unbound_plan_ok rfl hresult
    split
    · exact ⟨hkey, fun h => (nomatch h), fun h => (nomatch h), fun h => (nomatch h)⟩
    · next hattached =>
      refine ⟨hkey, fun hadopts => ?_, fun hbind => ?_, fun hcreate => ?_⟩
      · obtain ⟨_, _, _, hproceeds⟩ := hproceeds hadopts
        refine ⟨binding_of_eq_none hbinding, fun found hfound => ?_, hproceeds.recent, hproceeds.collected,
          fun hdetached => ?_, hproceeds.unconflicted⟩
        · rw [hmissing] at hfound
          cases hfound
          exact hproceeds.seen
        · rw [hkey] at hattached
          simp only [Bool.and_eq_true, List.contains_eq_mem, decide_eq_true_eq, not_and, not_not] at hattached
          exact (hattached hdetached).symm
      · obtain ⟨_, _, _, hproceeds⟩ := hproceeds (by rw [hbind]; rfl)
        exact hproceeds.bind hbind
      · obtain ⟨_, _, _, hproceeds⟩ := hproceeds (by rw [hcreate]; rfl)
        exact hproceeds.create hcreate

/-- What the last loop keeps is sound as it was. -/
theorem Sound.kept {account : String} {resume_key : Option String} {record : ProviderInventory} {plan result : Plan}
    (h : Sound content now account resume_key record plan) (hkept : Kept plan result) :
    Sound content now account resume_key record result := by
  refine ⟨hkept.key.trans h.key, fun hadopts => ?_, fun hbind => ?_, fun hcreate => ?_⟩
  · obtain ⟨name, rfl⟩ := hkept.adopted hadopts
    obtain ⟨hunbound, hseen, hrecent, hcollected, hattached, hunconflicted⟩ := h.fit hadopts
    exact ⟨hunbound, hseen, hrecent, hcollected, hattached, hunconflicted⟩
  · obtain ⟨name, rfl⟩ := hkept.adopted (by rw [hbind]; rfl)
    obtain ⟨htarget⟩ := h.chosen hbind
    exact ⟨htarget⟩
  · obtain ⟨name, rfl⟩ := hkept.adopted (by rw [hcreate]; rfl)
    exact h.unset hcreate

/-- No target and no piece of hardware is given to two resources, and each resource is given one for good reasons
    only. -/
structure SharesNoTarget (rt : Runtime) (content : Content) (now : Int) (account : String)
    (resume_key : Option String) (resources : List Plan) : Prop where
  targets : resources.Pairwise (fun a b => a.action.adopts = true → b.action.adopts = true →
    a.resource = b.resource → ∀ id, ¬ (a.object_id = some id ∧ b.object_id = some id))
  hardware : resources.Pairwise (fun a b => a.action.adopts = true ∨ b.action.adopts = true →
    a.resource = .device → b.resource = .device → (plan_tokens rt now a).Disjoint (plan_tokens rt now b))
  sound : List.Forall₂ (Sound content now account resume_key) (records_of content account) resources

theorem collides_eq_false {a b : Plan} (h : collides rt now a b = false) :
    (∀ id, a.object_id = some id → 0 < id → a.resource = b.resource → b.object_id ≠ some id) ∧
      (a.resource = .device → b.resource = .device → (plan_tokens rt now a).Disjoint (plan_tokens rt now b)) := by
  simp only [collides, Bool.or_eq_false_iff] at h
  obtain ⟨htarget, htokens⟩ := h
  refine ⟨fun id hid hpos hresource hsame => ?_, fun ha hb token htoken htoken' => ?_⟩
  · rw [hid] at htarget
    have hne : id ≠ 0 := by omega
    simp [hne, hsame, hresource] at htarget
  · simp only [ha, hb, decide_true, Bool.true_and, List.any_eq_false, decide_eq_true_eq] at htokens
    exact htokens token htoken htoken'

theorem prepare_shares_no_target (rt : Runtime) (content : Content) (now : Int) (access : Except ReadError Unit)
    (account : String) (resume_key : Option String) {resources : List Plan}
    (h : prepare rt content now access account resume_key = .ok resources) :
    SharesNoTarget rt content now account resume_key resources := by
  obtain ⟨_, -, h⟩ := Except.bind_eq_ok_iff.mp h
  obtain ⟨_, -, h⟩ := Except.bind_eq_ok_iff.mp h
  obtain ⟨_, -, h⟩ := Except.bind_eq_ok_iff.mp h
  obtain ⟨keys, hmissing, h⟩ := Except.bind_eq_ok_iff.mp h
  obtain ⟨plans, hplans, h⟩ := Except.bind_eq_ok_iff.mp h
  cases h
  have hsound : List.Forall₂ (Sound content now account resume_key) (records_of content account) plans :=
    (Except.mapM_eq_ok_iff.mp hplans).imp (fun _ _ hplan => record_plan_sound hmissing hplan)
  have hkept : List.Forall₂ Kept plans (settle_all rt now plans) := settle_all_kept plans
  have hresults : List.Forall₂ (Sound content now account resume_key) (records_of content account)
      (settle_all rt now plans) := by
    obtain ⟨hlength, hget⟩ := List.forall₂_iff_get.mp hsound
    obtain ⟨hlength', hget'⟩ := List.forall₂_iff_get.mp hkept
    refine List.forall₂_iff_get.mpr ⟨hlength.trans hlength', fun i hi hi' => ?_⟩
    exact (hget i hi (hlength ▸ hi)).kept (hget' i (hlength ▸ hi) hi')
  have hpositive : ∀ plan ∈ settle_all rt now plans, plan.action.adopts = true →
      ∀ id, plan.object_id = some id → 0 < id := by
    intro plan hplan hadopts id hid
    obtain ⟨record, -, hrecord⟩ := hresults.exists_of_mem_right hplan
    cases haction : plan.action with
    | bind =>
      obtain ⟨chosen, _, hchosen, hpos, -⟩ := (hrecord.chosen haction).target
      cases hid.symm.trans hchosen
      exact hpos
    | create =>
      rw [hrecord.unset haction] at hid
      cases hid
    | blocked | unchanged | detached =>
      rw [haction] at hadopts
      cases hadopts
  have hpairs := settle_all_pairwise rt now plans
  refine ⟨?_, ?_, hresults⟩
  · refine hpairs.imp_of_mem (fun {a b} ha _ hclear hadoptsa _ hresource id hids => ?_)
    exact (collides_eq_false (hclear.1 hadoptsa)).1 id hids.1 (hpositive a ha hadoptsa id hids.1) hresource hids.2
  · refine hpairs.imp (fun {a b} hclear hadopts hdevicea hdeviceb token htokena htokenb => ?_)
    rcases hadopts with hadopts | hadopts
    · exact (collides_eq_false (hclear.1 hadopts)).2 hdevicea hdeviceb htokena htokenb
    · exact (collides_eq_false (hclear.2 hadopts)).2 hdeviceb hdevicea htokenb htokena

section

/-- A runtime in which it is always the same moment. -/
def still_runtime : Runtime where
  toRuntime := python.Runtime.plain
  isprintable _ := true
  uuid _ := none
  isoformat _ := "now"
  fromisoformat _ := some 0

/-- A dedicated server that reports a serial number. -/
def dedicated (native_id serial : String) : ProviderInventory where
  provider_key := "[\"selectel\",\"1\",\"dedicated\",\"" ++ native_id ++ "\"]"
  account := "1"
  snapshot := .obj [("identity", .obj [("account", .str "1"), ("kind", .str "dedicated"),
      ("native_id", .str native_id), ("project", .str ""), ("region", .str "")]),
    ("sections", .obj [("resource", .obj [("status", .str "collected"),
      ("data", .obj [("name", .str native_id), ("serial", .str serial)])]),
      ("placement", .obj [("status", .str "collected"),
        ("data", .obj [("uuid", .str "zone"), ("name", .str "zone")])])])]
  observed_at := 0

def one_device : Content where
  fenced := []
  detached := []
  inventory := [dedicated "s1" "abc-1", dedicated "s2" "abc-2", dedicated "s3" "abc-2"]
  bindings := []
  targets := [{ resource := .device, pk := 5, name := some "node", serial := "abc-1", pk_pos := by decide }]
  vm_interfaces := []
  addresses := []
  imports := []
  binding_keys := List.nodup_nil
  target_ids := List.nodup_singleton _

/-- A server is bound by its serial number; two with one serial number are not. -/
theorem prepare_binds_by_serial :
    ∃ resources, prepare still_runtime one_device 0 (.ok ()) "1" none = .ok resources ∧
      resources.map (fun plan => (plan.action, plan.reason)) =
        [(.bind, "stable_identity"), (.blocked, "multiple_provider_resources"),
          (.blocked, "multiple_provider_resources")] ∧
      SharesNoTarget still_runtime one_device 0 "1" none resources := by
  have hprepared : (prepare still_runtime one_device 0 (.ok ()) "1" none).toOption.map (fun resources =>
      resources.map (fun plan => (plan.action, plan.reason))) =
        some [(.bind, "stable_identity"), (.blocked, "multiple_provider_resources"),
          (.blocked, "multiple_provider_resources")] := by decide +kernel
  obtain ⟨resources, hresources, hactions⟩ := Option.map_eq_some_iff.mp hprepared
  have hprepare := Except.ok_of_toOption hresources
  exact ⟨resources, hprepare, hactions, prepare_shares_no_target _ _ _ _ _ _ hprepare⟩

end

end netbox_guard.provider_reconcile
