import Mathlib.Data.Finset.Dedup
import Mathlib.Data.Finset.Insert
import Mathlib.Data.Finset.Basic
import NetboxSync.Auth.Turns

open json

namespace netbox_sync.auth_policy

open Auth Transaction

/-- What a change is for. -/
def ChangeRequest.apply (change : ChangeRequest) (hosts : Finset String) : Finset String :=
  match change.operation with
  | .allow => insert change.host hosts
  | .revoke => hosts.erase change.host

theorem toFinset_changed_hosts (hosts : List String) (change : ChangeRequest) :
    (changed_hosts hosts change.operation change.host).toFinset = change.apply hosts.toFinset := by
  unfold changed_hosts ChangeRequest.apply
  ext host
  cases change.operation with
  | allow => simp [or_comm]
  | revoke => simp [and_comm]

theorem sorted_set_pairwise (values : List String) : (sorted_set values).Pairwise (· < ·) := by
  have hsorted := sorting.sorted_pairwise id values.dedup
  have hnodup : (sorted_set values).Nodup := (sorting.sorted_perm id values.dedup).nodup_iff.mpr values.nodup_dedup
  exact hsorted.imp₂ (fun _ _ hle hne => lt_of_le_of_ne hle hne) hnodup

theorem changed_hosts_pairwise {hosts : List String} (h : hosts.Pairwise (· < ·)) (operation : Operation)
    (host : String) : (changed_hosts hosts operation host).Pairwise (· < ·) := by
  cases operation with
  | allow => exact sorted_set_pairwise _
  | revoke => exact h.filter _

/-- What the window still has of a key, it had before. -/
theorem get_of_evict {α : Type} {limit : Nat} {value : α → Nat} {entries : List (String × α)} {key : String} {v : α}
    (h : dict.get (evict limit value entries) key = some v) : dict.get entries key = some v := by
  unfold evict at h
  split at h
  · split at h
    · rw [dict.get_pop] at h
      split at h
      · cases h
      · exact h
    · exact h
  · exact h

theorem get_of_filter {α : Type} {p : String × α → Bool} {entries : List (String × α)} {key : String} {v : α}
    (hnodup : (dict.keys entries).Nodup) (h : dict.get (entries.filter p) key = some v) :
    dict.get entries key = some v :=
  dict.get_of_mem hnodup (List.mem_of_mem_filter (dict.mem_of_get h))

/-- A request is like another one only when both name the same revision. -/
theorem revision_of_same {change other : ChangeRequest} {n m : Nat} (h : change.same other = true)
    (hn : change.expected_revision = .int n) (hm : other.expected_revision = .int m) : n = m := by
  unfold ChangeRequest.same at h
  simp only [Bool.and_eq_true] at h
  have hnormal := Value.eq_iff.mp h.1.2
  rw [hn, hm] at hnormal
  have hcast : (n : Int) = m := by simpa [Value.normal, Value.unbool, Value.sort_keys] using hnormal
  exact Int.ofNat.inj hcast

end netbox_sync.auth_policy

namespace netbox_sync.auth_store

open auth_policy Transaction past

/-- The hosts that the changes of a log leave, the oldest change first. -/
def folded (log : List Entry) : Finset String :=
  (log.filterMap Entry.edit).foldr (fun change hosts => change.2.apply hosts) ∅

section

variable {rt : Runtime} {e : Entry} {key text : String} {change : ChangeRequest}

/-- A change that was made is an edit of the policy at the revision it names. -/
theorem Turn.of_edit (h : Turn rt e) (hedit : e.edit = some (key, change)) :
    ∃ actor, e.actor rt = some actor ∧ change.expected_revision = .int e.before.revision ∧
      e.reply = .ok (revision_reply (e.before.revision + 1)) ∧
      e.after.destinations = e.before.destinations.edited actor key change := by
  have hdoes := (edit_eq_some hedit).1
  have hfences : e.fences := .inl (.inr (by rw [hedit]; rfl))
  cases h with
  | idle hidle => exact absurd hfences hidle
  | managed _ hcommands => exact absurd hcommands (not_commands_of_does hdoes)
  | cleared hcommands =>
    rcases hcommands with hcommands | hcommands
    · exact absurd hcommands (not_commands_of_does hdoes)
    · exact absurd hcommands (not_commands_of_does hdoes)
  | edited actor key' change' hactor hedit' hexpected hreply hafter =>
    cases hedit.symm.trans hedit'
    exact ⟨actor, hactor, hexpected, hreply, hafter⟩
  | issued _ _ hissues => exact nomatch does_unique hdoes hissues.1
  | consumed _ _ hconsumes => exact nomatch does_unique hdoes hconsumes.1
  | cancelled _ _ hcancels => exact nomatch does_unique hdoes hcancels

/-- The policy changes its revision by one when it changes, and only then. -/
theorem Turn.revision (h : Turn rt e) : (e.effective → e.after.revision = e.before.revision + 1) ∧
    (¬ e.effective → e.after.revision = e.before.revision) := by
  have hsame : ∀ {d : Destinations}, ¬ e.fences → d.revision = e.before.revision → e.after.destinations = d →
      (e.effective → e.after.revision = e.before.revision + 1) ∧
        (¬ e.effective → e.after.revision = e.before.revision) := by
    intro d hfences hrevision hafter
    refine ⟨fun heffective => absurd (.inl heffective) hfences, fun _ => ?_⟩
    rw [← hrevision]
    exact congrArg Destinations.revision hafter
  cases h with
  | idle hidle _ hafter => exact hsame hidle rfl hafter
  | managed ceiling hcommands hafter =>
    exact ⟨fun _ => congrArg Destinations.revision hafter, fun hnot => absurd (.inl hcommands) hnot⟩
  | cleared hcommands hafter =>
    refine ⟨fun heffective => ?_, fun _ => congrArg Destinations.revision hafter⟩
    -- the root gives one command at a time, and none of them is a change of a caller
    exfalso
    have hcommand : ∀ {command}, e.commands command → command = .managed ∨ e.edit.isSome = true := by
      intro command hcommand
      exact heffective.imp (fun hmanaged => hcommand.2.1.symm.trans hmanaged.2.1) id
    have hnone : e.edit.isSome = false := by
      rw [Option.isSome_eq_false_iff, Option.isNone_iff_eq_none]
      unfold Entry.edit
      have hroot : e.request.root = true := hcommands.elim (fun h => h.1) (fun h => h.1)
      rw [hroot]
    rcases hcommands with hcommands | hcommands
    · rcases hcommand hcommands with h | h
      · cases h
      · rw [hnone] at h
        cases h
    · rcases hcommand hcommands with h | h
      · cases h
      · rw [hnone] at h
        cases h
  | edited actor key change _ hedit _ _ hafter =>
    exact ⟨fun _ => congrArg Destinations.revision hafter, fun hnot => absurd (.inr (by rw [hedit]; rfl)) hnot⟩
  | issued _ _ hissues _ _ _ _ _ _ hafter => exact hsame (not_fences_of_does hissues.1 nofun) rfl hafter
  | consumed _ _ hconsumes _ _ _ _ _ _ hafter => exact hsame (not_fences_of_does hconsumes.1 nofun) rfl hafter
  | cancelled _ _ hcancels _ hafter => exact hsame (not_fences_of_does hcancels nofun) rfl hafter

theorem Turn.le_revision (h : Turn rt e) : e.before.revision ≤ e.after.revision := by
  by_cases heffective : e.effective
  · have := h.revision.1 heffective
    omega
  · exact (h.revision.2 heffective).ge

end

/-- The receipt is what the call issued. -/
def Entry.Issued (rt : Runtime) (e : Entry) (receipt : Receipt) : Prop :=
  e.actor rt = some receipt.actor ∧ dict.get e.request.payload "destination" = some (.str receipt.destination) ∧
    dict.get e.request.payload "provider" = some (.str receipt.provider) ∧ receipt.expires = e.request.now + 600

/-- The receipt was issued, nothing has fenced it since, and it was not consumed unless it says so. -/
def TracedReceipt (rt : Runtime) (text : String) (receipt : Receipt) : List Entry → Prop :=
  Since (fun e => e.issues text ∧ e.Issued rt receipt)
    (fun e => ¬ e.fences ∧ (receipt.consumed = false → ¬ e.consumes text))

/-- What the document has of the policy is in the log. -/
structure Fenced (rt : Runtime) (store : Store) : Prop where
  turns : ∀ e ∈ store.log, Turn rt e
  keys : (dict.keys store.document.receipts).Nodup
  receipts : ∀ key receipt, dict.get store.document.receipts key = some receipt →
    ∃ text, key = rt.digest text ∧ TracedReceipt rt text receipt store.log
  behind : ∀ e ∈ store.log, e.after.revision ≤ store.document.revision
  changes : ∀ e ∈ store.log, ∀ key change, e.edit = some (key, change) →
    ∀ record, dict.get store.document.changes key = some record → record.revision = e.after.revision →
      e.actor rt = some record.actor ∧ record.request = change
  hosts : store.document.allowed_hosts.toFinset = folded store.log
  order : store.document.allowed_hosts.Pairwise (· < ·)

section

variable {rt : Runtime} {e : Entry} {log : List Entry}

theorem Turn.keys (h : Turn rt e) (hkeys : (dict.keys e.before.receipts).Nodup) :
    (dict.keys e.after.receipts).Nodup := by
  show (dict.keys e.after.destinations.receipts).Nodup
  cases h with
  | idle _ _ hafter =>
    rw [hafter]
    exact hkeys
  | managed _ _ hafter =>
    rw [hafter]
    exact List.nodup_nil
  | cleared _ hafter =>
    rw [hafter]
    exact List.nodup_nil
  | edited _ _ _ _ _ _ _ hafter =>
    rw [hafter]
    exact List.nodup_nil
  | issued text receipt _ _ _ _ _ _ _ hafter =>
    rw [hafter]
    exact dict.nodup_keys_set (hkeys.sublist (List.filter_sublist.map _)) _ _
  | consumed text receipt _ _ _ _ _ _ _ hafter =>
    rw [hafter]
    exact dict.nodup_keys_set hkeys _ _
  | cancelled text receipt _ _ hafter =>
    rw [hafter]
    exact dict.nodup_keys_set hkeys _ _

variable {receipt : Receipt} {record : Change}

/-- A call that is neither a fence nor a use of the receipt leaves it traced. -/
theorem TracedReceipt.later {text : String} (h : TracedReceipt rt text receipt log) (hfences : ¬ e.fences)
    (hconsumes : ¬ e.consumes text) : TracedReceipt rt text receipt (e :: log) :=
  Since.later h ⟨hfences, fun _ => hconsumes⟩

/-- A receipt that is marked is traced with less. -/
theorem TracedReceipt.marked {text : String} (h : TracedReceipt rt text receipt log) (hfences : ¬ e.fences) :
    TracedReceipt rt text { receipt with consumed := true } (e :: log) :=
  Since.later (Since.imp h (fun _ _ hissued => hissued) (fun _ _ hkept => ⟨hkept.1, nofun⟩)) ⟨hfences, nofun⟩

theorem Turn.traced (h : Turn rt e) (hkeys : (dict.keys e.before.receipts).Nodup)
    (hreceipts : ∀ key receipt, dict.get e.before.receipts key = some receipt → ∃ text, key = rt.digest text ∧
      TracedReceipt rt text receipt log)
    {key : String} (hget : dict.get e.after.receipts key = some receipt) :
    ∃ text, key = rt.digest text ∧ TracedReceipt rt text receipt (e :: log) := by
  have hcleared : e.after.receipts = [] → ∃ text, key = rt.digest text ∧ TracedReceipt rt text receipt (e :: log) := by
    intro hnil
    rw [hnil] at hget
    cases hget
  -- marking the receipt of a text, for a call that does not consume another one
  have hmarked : ∀ {text marked}, ¬ e.fences → (∀ other, e.consumes other → other = text) →
      dict.get e.before.receipts (rt.digest text) = some marked →
      e.after.destinations = e.before.destinations.consumed (rt.digest text) marked →
      ∃ text, key = rt.digest text ∧ TracedReceipt rt text receipt (e :: log) := by
    intro text marked hfences hconsumes hold hafter
    have hafter : e.after.receipts = dict.set e.before.receipts (rt.digest text) { marked with consumed := true } :=
      congrArg Destinations.receipts hafter
    rw [hafter, dict.get_set] at hget
    split at hget
    next hkey =>
      cases hget
      obtain ⟨other, hother, htraced⟩ := hreceipts _ _ hold
      cases rt.digest_injective hother
      exact ⟨text, hkey.symm, htraced.marked hfences⟩
    next hkey =>
      obtain ⟨other, rfl, htraced⟩ := hreceipts _ _ hget
      refine ⟨other, rfl, htraced.later hfences (fun hother => hkey ?_)⟩
      rw [hconsumes other hother]
  cases h with
  | idle hfences hconsumes hafter =>
    have hafter : e.after.receipts = e.before.receipts := congrArg Destinations.receipts hafter
    rw [hafter] at hget
    obtain ⟨text, hkey, htraced⟩ := hreceipts _ _ hget
    exact ⟨text, hkey, htraced.later hfences (hconsumes text)⟩
  | managed _ _ hafter => exact hcleared (congrArg Destinations.receipts hafter)
  | cleared _ hafter => exact hcleared (congrArg Destinations.receipts hafter)
  | edited _ _ _ _ _ _ _ hafter => exact hcleared (congrArg Destinations.receipts hafter)
  | issued text issued hissues hactor _ hdestination hprovider hexpires _ hafter =>
    have hafter : e.after.receipts = dict.set (e.before.receipts.filter (fun entry =>
        e.request.now < entry.2.expires)) (rt.digest text) issued := congrArg Destinations.receipts hafter
    rw [hafter, dict.get_set] at hget
    split at hget
    next hkey =>
      cases hget
      exact ⟨text, hkey.symm, Since.now ⟨hissues, hactor, hdestination, hprovider, hexpires⟩⟩
    next hkey =>
      obtain ⟨other, rfl, htraced⟩ := hreceipts _ _ (get_of_filter hkeys hget)
      refine ⟨other, rfl, htraced.later (not_fences_of_does hissues.1 nofun) (fun hother => ?_)⟩
      exact nomatch does_unique hissues.1 hother.1
  | consumed text consumed hconsumes _ hold _ _ _ _ hafter =>
    refine hmarked (not_fences_of_does hconsumes.1 nofun) (fun other hother => ?_) hold hafter
    exact (Value.str.inj (Option.some.inj (hconsumes.2.symm.trans hother.2))).symm
  | cancelled text cancelled hcancels hold hafter =>
    refine hmarked (not_fences_of_does hcancels nofun) (fun other hother => ?_) hold hafter
    exact nomatch does_unique hcancels hother.1

/-- Either the call makes a change, or the hosts and the records of changes stay. -/
theorem Turn.edited_or_same (h : Turn rt e) : (∃ key change, e.edit = some (key, change)) ∨
    e.edit = none ∧ e.after.allowed_hosts = e.before.allowed_hosts ∧ e.after.changes = e.before.changes := by
  cases hedit : e.edit with
  | some change => exact .inl ⟨change.1, change.2, rfl⟩
  | none =>
    refine .inr ⟨rfl, ?_⟩
    show e.after.destinations.allowed_hosts = _ ∧ e.after.destinations.changes = _
    cases h with
    | idle _ _ hafter => exact hafter ▸ ⟨rfl, rfl⟩
    | managed _ _ hafter => exact hafter ▸ ⟨rfl, rfl⟩
    | cleared _ hafter => exact hafter ▸ ⟨rfl, rfl⟩
    | edited _ _ _ _ hedit' => exact nomatch hedit.symm.trans hedit'
    | issued _ _ _ _ _ _ _ _ _ hafter => exact hafter ▸ ⟨rfl, rfl⟩
    | consumed _ _ _ _ _ _ _ _ _ hafter => exact hafter ▸ ⟨rfl, rfl⟩
    | cancelled _ _ _ _ hafter => exact hafter ▸ ⟨rfl, rfl⟩

theorem folded_cons_none (h : e.edit = none) : folded (e :: log) = folded log := by
  unfold folded
  rw [List.filterMap_cons_none h]

theorem folded_cons_some {key : String} {change : ChangeRequest} (h : e.edit = some (key, change)) :
    folded (e :: log) = change.apply (folded log) := by
  unfold folded
  rw [List.filterMap_cons_some h, List.foldr_cons]

theorem Turn.hosts (h : Turn rt e) (hhosts : e.before.allowed_hosts.toFinset = folded log) :
    e.after.allowed_hosts.toFinset = folded (e :: log) := by
  rcases h.edited_or_same with ⟨key, change, hedit⟩ | ⟨hnone, hsame, -⟩
  · obtain ⟨actor, -, -, -, hafter⟩ := h.of_edit hedit
    have hafter : e.after.allowed_hosts = changed_hosts e.before.allowed_hosts change.operation change.host :=
      congrArg Destinations.allowed_hosts hafter
    rw [hafter, toFinset_changed_hosts, hhosts, folded_cons_some hedit]
  · rw [hsame, hhosts, folded_cons_none hnone]

theorem Turn.order (h : Turn rt e) (horder : e.before.allowed_hosts.Pairwise (· < ·)) :
    e.after.allowed_hosts.Pairwise (· < ·) := by
  rcases h.edited_or_same with ⟨key, change, hedit⟩ | ⟨-, hsame, -⟩
  · obtain ⟨actor, -, -, -, hafter⟩ := h.of_edit hedit
    have hafter : e.after.allowed_hosts = changed_hosts e.before.allowed_hosts change.operation change.host :=
      congrArg Destinations.allowed_hosts hafter
    rw [hafter]
    exact changed_hosts_pairwise horder _ _
  · rw [hsame]
    exact horder

/-- A record in the window is of this change, or it was there before. -/
theorem Turn.get_changes (h : Turn rt e) {key : String} (hget : dict.get e.after.changes key = some record) :
    (∃ actor change, e.actor rt = some actor ∧ e.edit = some (key, change) ∧
        record = ⟨actor, change, e.after.revision⟩) ∨
      dict.get e.before.changes key = some record := by
  rcases h.edited_or_same with ⟨key', change, hedit⟩ | ⟨-, -, hsame⟩
  · obtain ⟨actor, hactor, -, -, hafter⟩ := h.of_edit hedit
    have hchanges : e.after.changes = dict.set (evict 4096 Change.revision e.before.changes) key'
        ⟨actor, change, e.before.revision + 1⟩ := congrArg Destinations.changes hafter
    have hrevision : e.after.revision = e.before.revision + 1 := congrArg Destinations.revision hafter
    rw [hchanges, dict.get_set] at hget
    split at hget
    next hkey =>
      cases hget
      exact .inl ⟨actor, change, hactor, hkey ▸ hedit, by rw [hrevision]⟩
    · exact .inr (get_of_evict hget)
  · exact .inr (hsame ▸ hget)

theorem Turn.changes (h : Turn rt e) (hbehind : ∀ x ∈ log, x.after.revision ≤ e.before.revision)
    (hchanges : ∀ x ∈ log, ∀ key change, x.edit = some (key, change) →
      ∀ record, dict.get e.before.changes key = some record → record.revision = x.after.revision →
      x.actor rt = some record.actor ∧ record.request = change)
    {x : Entry} (hx : x ∈ e :: log) {key : String} {change : ChangeRequest} (hedit : x.edit = some (key, change))
    (hget : dict.get e.after.changes key = some record) (hrevision : record.revision = x.after.revision) :
    x.actor rt = some record.actor ∧ record.request = change := by
  rcases List.mem_cons.mp hx with rfl | hx
  · -- the record of the change itself replaces whatever was there
    obtain ⟨actor, hactor, -, -, hafter⟩ := h.of_edit hedit
    have hchanges : x.after.changes = dict.set (evict 4096 Change.revision x.before.changes) key
        ⟨actor, change, x.before.revision + 1⟩ := congrArg Destinations.changes hafter
    rw [hchanges, dict.get_set_self] at hget
    cases hget
    exact ⟨hactor, rfl⟩
  · rcases h.get_changes hget with ⟨actor, change', hactor, hedit', rfl⟩ | hget
    · -- the revision of a new record is ahead of every earlier one
      obtain ⟨_, -, -, -, hafter⟩ := h.of_edit hedit'
      have hnext : e.after.revision = e.before.revision + 1 := congrArg Destinations.revision hafter
      have hle := hbehind x hx
      dsimp only at hrevision
      omega
    · exact hchanges x hx key change hedit record hget hrevision

end

/-- What the document has of the policy is in the log, in every state that is reached. -/
theorem fenced_of_reachable {rt : Runtime} {store : Store} (h : (machine rt).Reachable store) : Fenced rt store := by
  refine h.invariant ?_ ?_
  · rintro ⟨document, log⟩ ⟨rfl, ldap, rfl⟩
    have hnone : ∀ {P : Entry → Prop}, ∀ e ∈ ([] : List Entry), P e := fun e he => absurd he List.not_mem_nil
    exact ⟨hnone, List.nodup_nil, fun _ _ hget => (nomatch hget), hnone, hnone, rfl, List.Pairwise.nil⟩
  · rintro store request store' - hfenced hstep
    obtain ⟨e, he, hbefore, rfl⟩ := step_made hstep
    have hturn := turn_of_made he
    obtain ⟨document, log⟩ := store
    subst hbefore
    have hbehind : ∀ x ∈ log, x.after.revision ≤ e.after.revision :=
      fun x hx => (hfenced.behind x hx).trans hturn.le_revision
    constructor
    · exact List.forall_mem_cons.mpr ⟨hturn, hfenced.turns⟩
    · exact hturn.keys hfenced.keys
    · exact fun _ _ hget => hturn.traced hfenced.keys hfenced.receipts hget
    · exact List.forall_mem_cons.mpr ⟨le_rfl, hbehind⟩
    · exact fun x hx _ _ hedit _ => hturn.changes hfenced.behind hfenced.changes hx hedit
    · exact hturn.hosts hfenced.hosts
    · exact hturn.order hfenced.order

section

variable (rt : Runtime)

/-- The checks that a request for a change passes before it is looked up: of the session, its permission and its
    recency, and of the ceiling. It ends with the caller. -/
def admission (request : Request) : Auth String := do
  migrate_directory
  let caller ← session rt request.session none
  let _ ← permitted rt request.session "policy.write"
  recent rt request.session
  let state ← Auth.state
  check (state.mode = .managed && state.ceiling = some .public_ipv4) .POLICY_HOST_MANAGED
  return caller.id

/-- The caller of a request that passes the checks. -/
def Entry.admitted (e : Entry) : Option String :=
  match admission rt e.request (e.request.service e.before) with
  | .done actor _ => some actor
  | _ => none

end

section

variable {rt : Runtime} {request : Request} {s s' : Service} {actor key : String} {change : ChangeRequest}

theorem admissible_of_update (haction : request.action = .policy_update) : request.admissible = true := by
  unfold Request.admissible
  rw [Bool.or_eq_true, decide_eq_true_eq]
  left
  intro hassign
  unfold Request.action at haction
  rw [hassign] at haction
  cases haction

/-- The program after the checks finds the record, and replies with its revision. -/
theorem replay_done {payload : Fields} {token : Option Value} {s₁ s₂ s₃ : Service} {caller : Caller}
    (hpermitted : permitted rt token "policy.write" s₁ = .done caller s₂) (hrecent : recent rt token s₂ = .done () s₃)
    (hceiling : (s₃.state.mode = .managed && s₃.state.ceiling = some .public_ipv4) = true)
    (hchange : change_of payload = some (key, change)) (hget : dict.get s₃.state.changes key = some record)
    (hactor : record.actor = actor) (hsame : record.request.same change = true) :
    _update_policy rt payload token actor s₁ = .done (revision_reply record.revision) s₃ := by
  have hbounded : ∀ {value : Option Value} {maximum : Nat} {text : String},
      (bounded value maximum).toOption = some text → bounded value maximum = .ok text := by
    intro value maximum text htext
    cases hvalue : bounded value maximum with
    | ok other =>
      rw [hvalue] at htext
      cases htext
      rfl
    | error code =>
      rw [hvalue] at htext
      cases htext
  unfold change_of at hchange
  simp only [Option.bind_eq_bind, Option.bind_eq_some_iff, Option.pure_def, Option.some.injEq] at hchange
  obtain ⟨raw, hraw, host, hhost, key', hkey, operation, hoperation, heq⟩ := hchange
  cases heq
  unfold _update_policy
  refine bind_eq_done.mpr ⟨caller, s₂, hpermitted, bind_eq_done.mpr ⟨(), s₃, hrecent, ?_⟩⟩
  refine bind_eq_done.mpr ⟨s₃.state, s₃, rfl, bind_eq_done.mpr ⟨(), s₃, check_eq_done.mpr ⟨hceiling, rfl⟩, ?_⟩⟩
  refine bind_eq_done.mpr ⟨raw, s₃, by rw [hbounded hraw]; rfl, ?_⟩
  rw [hhost]
  refine bind_eq_done.mpr ⟨key, s₃, by rw [hbounded hkey]; rfl, ?_⟩
  rw [hoperation]
  dsimp only
  rw [hget]
  refine bind_eq_done.mpr ⟨(), s₃, check_eq_done.mpr ⟨?_, rfl⟩, rfl⟩
  rw [hsame, hactor, Bool.and_true, decide_eq_true_eq]

/-- A request that passes the checks and has a record gets the reply of the record. -/
theorem replay_reply {e : Entry} (he : e.Made rt) (hroot : e.request.root = false)
    (haction : e.request.action = .policy_update) (hchange : change_of e.request.payload = some (key, change))
    (hadmitted : e.admitted rt = some actor) (hget : dict.get e.before.changes key = some record)
    (hactor : record.actor = actor) (hsame : record.request.same change = true) :
    e.reply = .ok (revision_reply record.revision) := by
  unfold Entry.admitted at hadmitted
  split at hadmitted
  next actor' s₄ hdone =>
    cases hadmitted
    unfold admission at hdone
    simp only [bind_eq_done] at hdone
    obtain ⟨_, s₁, hmigrated, caller, s₂, hsession, other, s₃, hpermitted, _, s₅, hrecent, state', s₆, hstate, _, s₇,
      hceiling, hpure⟩ := hdone
    cases hstate
    cases hpure
    obtain ⟨hmanaged, rfl⟩ := check_eq_done.mp hceiling
    have hframed : Framed (e.request.service e.before) s₅ :=
      IsTrans.trans _ _ _ (migrate_directory_ends.done hmigrated).2 (IsTrans.trans _ _ _
        ((session_ends _ _).done hsession).1.1 (IsTrans.trans _ _ _ ((quiet_session _ _).done hpermitted).1
          ((quiet_recent _).done hrecent).1))
    have hchanges : s₅.state.changes = e.before.changes := congrArg Destinations.changes hframed.1
    have htransact : transact rt e.request (e.request.service e.before) =
        .done (revision_reply record.revision) s₅ := by
      unfold transact
      refine bind_eq_done.mpr ⟨(), s₁, hmigrated, ?_⟩
      rw [hroot, if_neg Bool.false_ne_true, haction]
      refine bind_eq_done.mpr ⟨caller, s₂, hsession, ?_⟩
      exact replay_done hpermitted hrecent hmanaged hchange (hchanges ▸ hget) hactor hsame
    rw [Entry.Made, AuthStore.call, if_pos (admissible_of_update haction), htransact] at he
    exact (congrArg Entry.reply he).symm
  · cases hadmitted

end

/-- What a call does and what the log before it has together keep receipts and changes to once. -/
structure Once (rt : Runtime) (e : Entry) (past : List Entry) : Prop where
  /-- A consumed receipt was issued to its principal and for its destination in the last ten minutes, and in between
      it was not consumed and nothing fenced it. -/
  consume : ∀ text, e.consumes text → ∃ actor, e.actor rt = some actor ∧ Since
    (fun i => i.issues text ∧ i.actor rt = some actor ∧ e.request.now < i.request.now + 600 ∧
      dict.get i.request.payload "destination" = dict.get e.request.payload "destination" ∧
      dict.get i.request.payload "provider" = dict.get e.request.payload "provider")
    (fun x => ¬ x.fences ∧ ¬ x.consumes text) past
  grows : e.effective → e.after.revision = e.before.revision + 1
  stays : ¬ e.effective → e.after.revision = e.before.revision
  behind : ∀ x ∈ past, x.after.revision ≤ e.before.revision
  /-- A change that is made was not made before. -/
  once : ∀ key change, e.edit = some (key, change) →
    ∀ x ∈ past, ∀ other, x.edit = some (key, other) → other.same change = false
  /-- A request like one whose record is in the window makes no change. From the same principal and past the checks it
      gets the first reply. -/
  replay : ∀ x ∈ past, ∀ key change, x.edit = some (key, change) →
    ∀ record, dict.get e.before.changes key = some record → record.revision = x.after.revision →
    ∀ other, e.request.root = false → e.request.action = .policy_update →
      change_of e.request.payload = some (key, other) → change.same other = true →
        e.after.destinations = e.before.destinations ∧
          (e.admitted rt = x.actor rt → x.reply = .ok (revision_reply x.after.revision) ∧ e.reply = x.reply)

section

variable {rt : Runtime} {store : Store}

theorem Turn.of_consumes {e : Entry} {text : String} (h : Turn rt e) (hconsumes : e.consumes text) :
    ∃ receipt, e.actor rt = some receipt.actor ∧ dict.get e.before.receipts (rt.digest text) = some receipt ∧
      e.request.now < receipt.expires ∧ receipt.consumed = false ∧
      dict.get e.request.payload "destination" = some (.str receipt.destination) ∧
      dict.get e.request.payload "provider" = some (.str receipt.provider) := by
  cases h with
  | idle _ hidle => exact absurd hconsumes (hidle text)
  | managed _ hcommands => exact absurd hcommands (not_commands_of_does hconsumes.1)
  | cleared hcommands =>
    rcases hcommands with hcommands | hcommands
    · exact absurd hcommands (not_commands_of_does hconsumes.1)
    · exact absurd hcommands (not_commands_of_does hconsumes.1)
  | edited _ _ _ _ hedit => exact nomatch does_unique hconsumes.1 (edit_eq_some hedit).1
  | issued _ _ hissues => exact nomatch does_unique hconsumes.1 hissues.1
  | consumed other receipt hother hactor hreceipt hexpires hunused hdestination hprovider =>
    have htext : other = text := Value.str.inj (Option.some.inj (hother.2.symm.trans hconsumes.2))
    exact ⟨receipt, hactor, htext ▸ hreceipt, hexpires, hunused, hdestination, hprovider⟩
  | cancelled _ _ hcancels => exact nomatch does_unique hconsumes.1 hcancels

/-- A request whose record is in the window makes no change. -/
theorem Turn.of_record {e : Entry} {key : String} {other : ChangeRequest} (h : Turn rt e)
    (hroot : e.request.root = false) (haction : e.request.action = .policy_update)
    (hchange : change_of e.request.payload = some (key, other)) (hget : dict.get e.before.changes key = some record) :
    e.after.destinations = e.before.destinations := by
  have hdoes : ∀ {action : Action}, e.does action → action = .policy_update := fun h => h.2.1.symm.trans haction
  have hroots : ∀ {command : RootAction}, ¬ e.commands command := fun h => nomatch hroot.symm.trans h.1
  cases h with
  | idle _ _ hafter => exact hafter
  | managed _ hcommands => exact absurd hcommands hroots
  | cleared hcommands => exact absurd hcommands (not_or.mpr ⟨hroots, hroots⟩)
  | edited actor key' change _ hedit =>
    obtain ⟨-, hchange', hnone⟩ := edit_eq_some hedit
    cases hchange.symm.trans hchange'
    exact nomatch hget.symm.trans hnone
  | issued _ _ hissues => exact nomatch hdoes hissues.1
  | consumed _ _ hconsumes => exact nomatch hdoes hconsumes.1
  | cancelled _ _ hcancels => exact nomatch hdoes hcancels

theorem once_of_fenced (h : Fenced rt store) {e : Entry} (he : e.Made rt) (hbefore : e.before = store.document) :
    Once rt e store.log := by
  have hturn := turn_of_made he
  constructor
  · intro text hconsumes
    obtain ⟨receipt, hactor, hget, hexpires, hunused, hdestination, hprovider⟩ := hturn.of_consumes hconsumes
    rw [hbefore] at hget
    obtain ⟨other, hother, htraced⟩ := h.receipts _ _ hget
    cases rt.digest_injective hother
    refine ⟨receipt.actor, hactor, Since.imp htraced (fun i _ hi => ?_) (fun x _ hx => ⟨hx.1, hx.2 hunused⟩)⟩
    obtain ⟨hissues, hissuer, hdestination', hprovider', hexpires'⟩ := hi
    exact ⟨hissues, hissuer, hexpires' ▸ hexpires, hdestination'.trans hdestination.symm,
      hprovider'.trans hprovider.symm⟩
  · exact hturn.revision.1
  · exact hturn.revision.2
  · intro x hx
    rw [hbefore]
    exact h.behind x hx
  · intro key change hedit x hx other hother
    -- the two changes name the revisions they were made at, and those differ
    obtain ⟨_, -, hexpected, -, -⟩ := hturn.of_edit hedit
    obtain ⟨_, -, hexpected', -, hafter⟩ := (h.turns x hx).of_edit hother
    have hnext : x.after.revision = x.before.revision + 1 := congrArg Destinations.revision hafter
    have hle := h.behind x hx
    rw [hbefore] at hexpected
    rw [← Bool.not_eq_true]
    intro hsame
    have heq := revision_of_same hsame hexpected' hexpected
    omega
  · intro x hx key change hedit record hget hrevision other hroot haction hchange hsame
    refine ⟨hturn.of_record hroot haction hchange hget, fun hadmitted => ?_⟩
    obtain ⟨_, -, -, hreplied, hafter⟩ := (h.turns x hx).of_edit hedit
    have hnext : x.after.revision = x.before.revision + 1 := congrArg Destinations.revision hafter
    rw [← hnext] at hreplied
    obtain ⟨hactor, rfl⟩ := h.changes x hx key change hedit record (hbefore ▸ hget) hrevision
    refine ⟨hreplied, ?_⟩
    rw [hreplied, ← hrevision]
    exact replay_reply he hroot haction hchange (hadmitted.trans hactor) hget rfl hsame

/-- Receipts and changes of the policy are exactly-once, in every run. -/
theorem receipts_and_changes_are_exactly_once (h : (machine rt).Reachable store) :
    Always (Once rt) store.log ∧ store.document.allowed_hosts.toFinset = folded store.log ∧
      store.document.allowed_hosts.Pairwise (· < ·) := by
  refine ⟨?_, (fenced_of_reachable h).hosts, (fenced_of_reachable h).order⟩
  induction h with
  | init h =>
    rw [h.1]
    trivial
  | @step store store' request h hstep ih =>
    obtain ⟨e, he, hbefore, rfl⟩ := step_made hstep
    exact always_cons.mpr ⟨once_of_fenced (fenced_of_reachable h) he hbefore, ih⟩

end

section

/-- The administrator asks to allow a host, as a change of the first managed policy. -/
def allow_host (now : Nat) : Request :=
  { root := false, now, payload := [("action", .str "policy.update"), ("session", .str "session"),
      ("host", .str "api.example.org"), ("request_id", .str "first"), ("expected_revision", .int 1)] }

/-- The administrator issues or uses the receipt of a probe. -/
def with_receipt (action : String) (now : Nat) : Request :=
  { root := false, now, payload := [("action", .str action), ("session", .str "session"),
      ("receipt", .str "receipt"), ("revision", .int 2), ("destination", .str "10.1.2.3"), ("provider", .str "esxi")] }

def choose_ceiling (ceiling : String) (now : Nat) : Request :=
  { root := true, now, payload := [("action", .str "managed"), ("ceiling", .str ceiling)] }

/-- The administrator enrolls, allows a host, and sends the same request again before the receipt is consumed and
    after the root has closed the policy. -/
def replays : List Request :=
  [{ root := true, now := 1, token := "invitation", payload := [("action", .str "invite")] },
    { root := false, now := 2, token := "session", uuid := "administrator",
      payload := [("action", .str "enroll"), ("invitation", .str "invitation"), ("username", .str "root"),
        ("password", .str "a long password")] },
    choose_ceiling "public-ipv4" 3, allow_host 4, with_receipt "receipt.issue" 5, allow_host 6,
    with_receipt "receipt.consume" 7, choose_ceiling "existing" 8, allow_host 9]

def Entry.is_done (e : Entry) (request : Request) : Bool :=
  !request.root && e.request.payload = request.payload && !e.request.root && e.reply.toOption.isSome

theorem does_of_is_done {e : Entry} {request : Request} (h : e.is_done request = true) :
    e.does request.action ∧ e.request.payload = request.payload := by
  unfold Entry.is_done at h
  simp only [Bool.and_eq_true, Bool.not_eq_true', decide_eq_true_eq] at h
  obtain ⟨⟨⟨-, hpayload⟩, hroot⟩, hreply⟩ := h
  refine ⟨⟨hroot, ?_, Entry.done_of_isSome hreply⟩, hpayload⟩
  unfold Request.action
  rw [hpayload]

/-- The last replay is refused, and the calls around the first one are done. -/
def Store.replayed (store : Store) : Bool :=
  match store.log with
  | last :: _ :: consume :: replay :: issue :: first :: _ =>
    last.request.payload = first.request.payload && last.reply.toOption.isNone &&
      (dict.get last.before.changes "first").map Change.revision = some first.after.revision &&
      consume.is_done (with_receipt "receipt.consume" 7) && replay.is_done (allow_host 6) &&
      issue.is_done (with_receipt "receipt.issue" 5) && first.is_done (allow_host 4)
  | _ => false

/-- A replay comes between the issue and the use of a receipt, and it gets no revision under another ceiling. -/
theorem replay_between_issue_and_consume : ∃ store last managed consume replay issue first past,
    (machine .plain).Reachable store ∧
    store.log = last :: managed :: consume :: replay :: issue :: first :: past ∧
    issue.issues "receipt" ∧ replay.does .policy_update ∧ consume.consumes "receipt" ∧
    last.request.payload = first.request.payload ∧ first.does .policy_update ∧ ¬ last.done ∧
    (dict.get last.before.changes "first").map Change.revision = some first.after.revision := by
  have hrun : ((machine .plain).run ⟨initial_state, []⟩ replays).any Store.replayed = true := by decide +kernel
  rw [Option.any_eq_true] at hrun
  obtain ⟨store, hstore, hcheck⟩ := hrun
  unfold Store.replayed at hcheck
  split at hcheck
  next last managed consume replay issue first past hlog =>
    simp only [Bool.and_eq_true, decide_eq_true_eq] at hcheck
    obtain ⟨⟨⟨⟨⟨⟨hpayload, hrefused⟩, hrecord⟩, hconsume⟩, hreplay⟩, hissue⟩, hfirst⟩ := hcheck
    refine ⟨store, last, managed, consume, replay, issue, first, past,
      (Machine.Reachable.init (init_empty _)).run hstore, hlog, ?_, (does_of_is_done hreplay).1, ?_, hpayload,
      (does_of_is_done hfirst).1, ?_, hrecord⟩
    · obtain ⟨hdoes, hnames⟩ := does_of_is_done hissue
      refine ⟨hdoes, ?_⟩
      unfold Entry.names
      rw [hnames]
      rfl
    · obtain ⟨hdoes, hnames⟩ := does_of_is_done hconsume
      refine ⟨hdoes, ?_⟩
      unfold Entry.names
      rw [hnames]
      rfl
    · rintro ⟨value, hvalue⟩
      rw [hvalue] at hrefused
      cases hrefused
  · cases hcheck

/-- The policy after the first change has its host and is one revision ahead. -/
theorem receipts_and_changes_are_exactly_once_allowed : ∃ store, (machine .plain).Reachable store ∧
    Always (Once .plain) store.log ∧ store.document.allowed_hosts = ["api.example.org"] ∧
    store.document.revision = 2 ∧ folded store.log = {"api.example.org"} := by
  have hrun : ((machine .plain).run ⟨initial_state, []⟩ (replays.take 4)).any (fun store =>
      store.document.allowed_hosts = ["api.example.org"] && store.document.revision = 2) = true := by
    decide +kernel
  rw [Option.any_eq_true] at hrun
  obtain ⟨store, hstore, hcheck⟩ := hrun
  rw [Bool.and_eq_true, decide_eq_true_eq, decide_eq_true_eq] at hcheck
  have hreachable : (machine .plain).Reachable store := (Machine.Reachable.init (init_empty _)).run hstore
  obtain ⟨honce, hfolded, -⟩ := receipts_and_changes_are_exactly_once hreachable
  refine ⟨store, hreachable, honce, hcheck.1, hcheck.2, ?_⟩
  rw [← hfolded, hcheck.1]
  rfl

end

end netbox_sync.auth_store
