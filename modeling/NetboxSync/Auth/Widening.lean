import NetboxSync.Auth.Turns
import NetboxSync.Lib.Ip.Canonical

open json ipaddress

namespace netbox_sync.egress

theorem toLower_toLower (c : Char) : c.toLower.toLower = c.toLower := by
  unfold Char.toLower
  split
  next h =>
    rw [dif_neg]
    rintro ⟨-, hle⟩
    obtain ⟨hfirst, hlast⟩ := h
    rw [ge_iff_le, UInt32.le_iff_toNat_le] at hfirst
    rw [UInt32.le_iff_toNat_le] at hlast hle
    have ha : 'A'.val.toNat = 65 := rfl
    have hz : 'Z'.val.toNat = 90 := rfl
    have hd : ('a'.val - 'A'.val).toNat = 32 := rfl
    rw [UInt32.toNat_add] at hle
    omega
  · rfl

theorem lower_lower (text : String) : lower (lower text) = lower text := by
  unfold lower
  rw [String.toList_ofList, List.map_map]
  congr 1
  exact List.map_congr_left (fun c _ => toLower_toLower c)

/-- The digits of a number have no case. -/
theorem toLower_of_mem_toDigits (n : Nat) : ∀ c ∈ Nat.toDigits 10 n, c.toLower = c := by
  have hdigit : ∀ d < 10, d.digitChar.toLower = d.digitChar := by decide
  induction n using Nat.strongRecOn with
  | ind n ih =>
    intro c hc
    by_cases h : n < 10
    · rw [Nat.toDigits_of_lt_base h, List.mem_singleton] at hc
      rw [hc]
      exact hdigit n h
    · rw [Nat.toDigits_of_base_le (by decide) (by omega), List.mem_append, List.mem_singleton] at hc
      rcases hc with hc | hc
      · exact ih (n / 10) (by omega) c hc
      · rw [hc]
        exact hdigit (n % 10) (by omega)

theorem lower_v4 (octets : List Nat) : lower (Address.v4 octets).str = (Address.v4 octets).str := by
  have hchars : ∀ c ∈ v4_to_string octets, c.toLower = c := by
    intro c hc
    by_contra hne
    have hdot : c ≠ '.' := by
      rintro rfl
      exact hne (by decide)
    refine notMem_intercalate hdot (fun part hpart hmem => ?_) hc
    obtain ⟨octet, -, rfl⟩ := List.mem_map.mp hpart
    exact hne (toLower_of_mem_toDigits octet c hmem)
  unfold lower Address.str
  rw [String.toList_ofList, List.map_congr_left hchars, List.map_id']

/-- A host that was validated is in lower case. -/
theorem lower_of_validate_host {value host : String} (h : validate_host value = some host) : lower host = host := by
  unfold validate_host at h
  split at h
  · cases h
  · split at h
    · cases h
      exact lower_v4 _
    · split at h
      · cases h
      · cases h
        exact lower_lower value

/-- What every answer is that a policy lets through. -/
structure Safe (denied : List Network) (address : Address) : Prop where
  reach : address.is_global = true ∨ private_v4 address = true
  loopback : address.is_loopback = false
  link_local : address.is_link_local = false
  multicast : address.is_multicast = false
  reserved : address.is_reserved = false
  unspecified : address.is_unspecified = false
  denied : ∀ network ∈ denied, network.contains address = false

section

variable {policy : EgressPolicy} {allowed denied : List Network} {value host address : String} {port : Int}
  {resolver : String → Int → Option (List Answer)}

theorem safe_of_admits {target : Address} (h : policy.admits allowed denied host target = true) :
    Safe denied target := by
  unfold EgressPolicy.admits special at h
  simp only [Bool.and_eq_true, Bool.not_eq_true', Bool.or_eq_true, Bool.or_eq_false_iff] at h
  obtain ⟨⟨⟨⟨hspecial, hreach⟩, hdenied⟩, -⟩, -⟩ := h
  refine ⟨hreach, hspecial.1.1.1.1, hspecial.1.1.1.2, hspecial.1.2, hspecial.2, hspecial.1.1.2,
    fun network hnetwork => ?_⟩
  unfold within at hdenied
  rw [List.any_eq_false] at hdenied
  exact Bool.eq_false_iff.mpr (hdenied network hnetwork)

/-- An answer that passes is authorized where it has to be. -/
theorem authorized_of_admits {target : Address} (h : policy.admits allowed denied host target = true)
    (hneeds : policy.restricted = true ∨ private_v4 target = false) :
    policy.named host = true ∨ within allowed target = true := by
  unfold EgressPolicy.admits at h
  simp only [Bool.and_eq_true, Bool.not_eq_true', Bool.and_eq_false_iff, Bool.not_eq_false', Bool.or_eq_true] at h
  obtain ⟨⟨-, hrestricted⟩, hprivate⟩ := h
  rcases hneeds with hneeds | hneeds
  · rw [hneeds] at hrestricted
    simpa using hrestricted
  · rw [hneeds] at hprivate
    simpa using hprivate

/-- What a resolution says: the answers all pass, and the first of IPv4 is taken. -/
structure Resolved (policy : EgressPolicy) (value : String) (port : Int)
    (resolver : String → Int → Option (List Answer)) (host address : String) (found : List Answer)
    (allowed denied : List Network) : Prop where
  valid : validate_host value = some host
  foreign : host ∉ LOCAL_NAMES
  dotted : literal host = none → '.' ∉ host.toList → policy.exact host = true
  answered : answers resolver host port = some found
  allows : policy.allowed_cidrs.mapM ip_network = some allowed
  denies : policy.denied_cidrs.mapM ip_network = some denied
  admits : ∀ answer ∈ found, policy.admits allowed denied host answer.address = true
  first : ∃ answer, (found.filter (fun answer => answer.family = .AF_INET)).head? = some answer ∧
    address = answer.address.str

theorem resolved_of_ok (h : policy.resolve value port resolver = .ok (host, address)) :
    ∃ found allowed denied, Resolved policy value port resolver host address found allowed denied := by
  unfold EgressPolicy.resolve at h
  split at h
  · cases h
  next host' hvalid =>
    split at h
    · cases h
    next hname =>
      simp only [Bool.or_eq_true, Bool.and_eq_true, decide_eq_true_eq, Option.isNone_iff_eq_none, not_or, not_and,
        Bool.not_eq_true'] at hname
      split at h
      · cases h
      next found allowed denied hfound hallowed hdenied =>
        split at h
        · cases h
        next hadmits =>
          simp only [Bool.not_eq_true', Bool.not_eq_false, List.all_eq_true] at hadmits
          split at h
          next answer hfirst =>
            cases h
            refine ⟨found, allowed, denied, hvalid, hname.1, fun hliteral hdot => ?_, hfound, hallowed, hdenied,
              hadmits,
              answer, hfirst, rfl⟩
            have hexact := hname.2 ⟨hliteral, by simpa using hdot⟩
            simpa using hexact
          · cases h
      · cases h

theorem Resolved.ok {found : List Answer} (h : Resolved policy value port resolver host address found allowed denied) :
    policy.resolve value port resolver = .ok (host, address) := by
  obtain ⟨answer, hfirst, haddress⟩ := h.first
  have hname : (decide (host ∈ LOCAL_NAMES) ||
      ((literal host).isNone && !host.toList.contains '.' && !policy.exact host)) = false := by
    rw [Bool.or_eq_false_iff, decide_eq_false_iff_not]
    refine ⟨h.foreign, ?_⟩
    by_contra hne
    simp only [Bool.not_eq_false, Bool.and_eq_true, Option.isNone_iff_eq_none, Bool.not_eq_true'] at hne
    obtain ⟨⟨hliteral, hdot⟩, hexact⟩ := hne
    rw [h.dotted hliteral (by simpa using hdot)] at hexact
    cases hexact
  have hall : found.all (fun answer => policy.admits allowed denied host answer.address) = true :=
    List.all_eq_true.mpr h.admits
  unfold EgressPolicy.resolve
  simp only [h.valid, hname, h.answered, h.allows, h.denies, hall, hfirst, haddress, Bool.false_eq_true, if_false,
    Bool.not_true]

/-- The answers that pass one policy pass another one that denies no more and authorizes what it has to. -/
theorem Resolved.of_admits {other : EgressPolicy} {found : List Answer} {allowed' : List Network}
    (h : Resolved policy value port resolver host address found allowed denied)
    (hexact : policy.exact host = true → other.exact host = true)
    (hallowed : other.allowed_cidrs.mapM ip_network = some allowed')
    (hdenied : ∀ text ∈ other.denied_cidrs, text ∈ policy.denied_cidrs)
    (hauthorized : ∀ answer ∈ found, (other.restricted = true ∨ private_v4 answer.address = false) →
      other.named host = true ∨ within allowed' answer.address = true) :
    other.resolve value port resolver = .ok (host, address) := by
  have hread := mapM_some h.denies
  obtain ⟨denied', hdenied'⟩ : ∃ denied', other.denied_cidrs.mapM ip_network = some denied' := by
    refine mapM_of_forall (fun text htext => ?_)
    obtain ⟨network, -, hnetwork⟩ := hread.2.2 text (hdenied text htext)
    exact ⟨network, hnetwork⟩
  -- the networks of the other policy are among those of this one
  have hsubset : ∀ network ∈ denied', network ∈ denied := by
    intro network hnetwork
    obtain ⟨text, htext, hparsed⟩ := (mapM_some hdenied').2.1 network hnetwork
    obtain ⟨network', hmem, hparsed'⟩ := hread.2.2 text (hdenied text htext)
    rw [hparsed] at hparsed'
    cases hparsed'
    exact hmem
  refine Resolved.ok ⟨h.valid, h.foreign, fun hliteral hdot => hexact (h.dotted hliteral hdot), h.answered, hallowed,
    hdenied', fun answer hanswer => ?_, h.first⟩
  have hsafe := safe_of_admits (h.admits answer hanswer)
  have houtside : within denied' answer.address = false := by
    unfold within
    rw [List.any_eq_false]
    intro network hnetwork
    rw [hsafe.denied network (hsubset network hnetwork)]
    exact Bool.false_ne_true
  have hpasses := hauthorized answer hanswer
  unfold EgressPolicy.admits special
  simp only [hsafe.loopback, hsafe.link_local, hsafe.unspecified, hsafe.multicast, hsafe.reserved, houtside]
  have hreach := hsafe.reach
  revert hpasses hreach
  cases other.restricted <;> cases private_v4 answer.address <;> cases other.named host <;>
    cases within allowed' answer.address <;> cases answer.address.is_global <;> simp

end

end netbox_sync.egress

namespace netbox_sync.auth_policy

open egress

/-- A ceiling is chosen when the policy is managed, the hosts that were added are canonical, and no call denies
    networks. -/
structure Document.Canonical (state : Document) : Prop where
  ceiling : state.mode = .managed → state.ceiling.isSome = true
  hosts : ∀ host ∈ state.allowed_hosts, lower host = host
  denied : state.denied_cidrs = []

theorem Document.Canonical.of_destinations {state : Document} {d : Destinations} (h : state.destinations = d)
    (hceiling : d.mode = .managed → d.ceiling.isSome = true) (hhosts : ∀ host ∈ d.allowed_hosts, lower host = host)
    (hdenied : d.denied_cidrs = []) : state.Canonical := by
  subst h
  exact ⟨hceiling, hhosts, hdenied⟩

/-- A change names a canonical host. -/
theorem lower_of_change_of {payload : Fields} {key : String} {change : ChangeRequest}
    (h : change_of payload = some (key, change)) : lower change.host = change.host := by
  unfold change_of at h
  simp only [Option.bind_eq_bind, Option.bind_eq_some_iff] at h
  obtain ⟨_, _, host, hhost, _, _, _, _, hchange⟩ := h
  cases hchange
  exact lower_of_validate_host (Option.filter_eq_some_iff.mp hhost).1

theorem lower_of_changed_hosts {hosts : List String} {operation : Operation} {host name : String}
    (hhosts : ∀ name ∈ hosts, lower name = name) (hhost : lower host = host)
    (h : name ∈ changed_hosts hosts operation host) : lower name = name := by
  unfold changed_hosts at h
  split at h
  · rw [mem_sorted_set, List.mem_append, List.mem_singleton] at h
    rcases h with h | rfl
    · exact hhosts name h
    · exact hhost
  · exact hhosts name (List.mem_of_mem_filter h)

end netbox_sync.auth_policy

namespace netbox_sync.auth_store

open auth_policy Transaction egress

theorem Turn.canonical {rt : Runtime} {e : Entry} (h : Turn rt e) (hbefore : e.before.Canonical) :
    e.after.Canonical := by
  cases h with
  | managed _ _ hafter => exact .of_destinations hafter (fun _ => rfl) hbefore.hosts hbefore.denied
  | edited _ _ change _ hedit _ _ hafter =>
    refine .of_destinations hafter hbefore.ceiling (fun host hhost => ?_) hbefore.denied
    exact lower_of_changed_hosts hbefore.hosts (lower_of_change_of (edit_eq_some hedit).2.1) hhost
  | idle _ _ hafter => exact .of_destinations hafter hbefore.ceiling hbefore.hosts hbefore.denied
  | cleared _ hafter => exact .of_destinations hafter hbefore.ceiling hbefore.hosts hbefore.denied
  | issued _ _ _ _ _ _ _ _ _ hafter =>
    exact .of_destinations hafter hbefore.ceiling hbefore.hosts hbefore.denied
  | consumed _ _ _ _ _ _ _ _ _ hafter =>
    exact .of_destinations hafter hbefore.ceiling hbefore.hosts hbefore.denied
  | cancelled _ _ _ _ hafter => exact .of_destinations hafter hbefore.ceiling hbefore.hosts hbefore.denied

theorem canonical_of_reachable {rt : Runtime} {store : Store} (h : (machine rt).Reachable store) :
    store.document.Canonical := by
  induction h with
  | init h =>
    obtain ⟨-, ldap, hdocument⟩ := h
    rw [hdocument]
    exact ⟨nofun, nofun, rfl⟩
  | @step store store' request _ hstep ih =>
    obtain ⟨e, he, hbefore, rfl⟩ := step_made hstep
    exact (turn_of_made he).canonical (hbefore ▸ ih)

/-- The address is reachable by the fixed rules, and outside every network that the baseline or the document denies. -/
structure Permissible (baseline : EgressPolicy) (state : Document) (address : Address) : Prop where
  safe : Safe [] address
  outside : ∀ text ∈ baseline.denied_cidrs ++ state.denied_cidrs,
    ∃ network, ip_network text = some network ∧ network.contains address = false

section

variable {baseline policy : EgressPolicy} {state : Document} {value host address : String} {port : Int}
  {resolver : String → Int → Option (List Answer)} {found : List Answer} {allowed denied : List Network}

theorem build_eq_some {built : EgressPolicy} (h : EgressPolicy.build built = some policy) : policy = built := by
  unfold EgressPolicy.build at h
  split at h
  · cases h
    rfl
  · cases h

/-- The policies that are in force. -/
theorem effective_cases (h : effective baseline state = some policy) (hstate : state.Canonical) :
    state.mode = .legacy ∧ policy = baseline ∨
      state.mode = .managed ∧ state.ceiling = some .existing ∧ policy = existing_policy baseline state ∨
        state.mode = .managed ∧ state.ceiling = some .public_ipv4 ∧ policy = public_policy baseline state := by
  unfold effective at h
  split at h
  next hmode =>
    cases h
    exact .inl ⟨hmode, rfl⟩
  next hmode hceiling => exact .inr (.inl ⟨hmode, hceiling, build_eq_some h⟩)
  next hmode hceiling =>
    refine .inr (.inr ⟨hmode, ?_, build_eq_some h⟩)
    have hchosen := hstate.ceiling hmode
    cases hvalue : state.ceiling with
    | none =>
      rw [hvalue] at hchosen
      cases hchosen
    | some ceiling =>
      cases ceiling with
      | existing => exact absurd hvalue (by simpa using hceiling)
      | public_ipv4 => rfl

theorem permissible_of_resolved (h : effective baseline state = some policy) (hstate : state.Canonical)
    (hresolved : Resolved policy value port resolver host address found allowed denied) :
    ∀ answer ∈ found, Permissible baseline state answer.address := by
  intro answer hanswer
  have hsafe := safe_of_admits (hresolved.admits answer hanswer)
  refine ⟨⟨hsafe.reach, hsafe.loopback, hsafe.link_local, hsafe.multicast, hsafe.reserved, hsafe.unspecified,
    fun _ h => nomatch h⟩, fun text htext => ?_⟩
  have hmem : text ∈ policy.denied_cidrs := by
    rcases effective_cases h hstate with ⟨-, rfl⟩ | ⟨-, -, rfl⟩ | ⟨-, -, rfl⟩
    · rw [hstate.denied, List.append_nil] at htext
      exact htext
    · exact mem_sorted_set.mpr htext
    · exact mem_sorted_set.mpr htext
  obtain ⟨network, hnetwork, hparsed⟩ := (mapM_some hresolved.denies).2.2 text hmem
  exact ⟨network, hparsed, hsafe.denied network hnetwork⟩

/-- Under the ceiling `existing` the baseline decides. -/
theorem baseline_of_existing (hresolved :
    Resolved (existing_policy baseline state) value port resolver host address found allowed denied) :
    baseline.resolve value port resolver = .ok (host, address) := by
  refine hresolved.of_admits id hresolved.allows ?_ (fun answer hanswer hneeds => ?_)
  · exact fun text htext => mem_sorted_set.mpr (List.mem_append_left _ htext)
  · exact authorized_of_admits (hresolved.admits answer hanswer) hneeds

theorem exact_iff {host : String} : policy.exact host = true ↔ ∃ name ∈ policy.allowed_hosts, host = lower name := by
  unfold EgressPolicy.exact
  simp

/-- A host that was not added is exact under the ceiling `public-ipv4` only if it is in the baseline. -/
theorem exact_of_public (hstate : state.Canonical) (hadded : host ∉ state.allowed_hosts)
    (h : (public_policy baseline state).exact host = true) : baseline.exact host = true := by
  obtain ⟨name, hname, rfl⟩ := exact_iff.mp h
  rcases List.mem_append.mp (mem_sorted_set.mp hname) with hname | hname
  · exact exact_iff.mpr ⟨name, hname, rfl⟩
  · rw [hstate.hosts name hname] at hadded
    exact absurd hname hadded

theorem named_of_public (hstate : state.Canonical) (hadded : host ∉ state.allowed_hosts)
    (h : (public_policy baseline state).named host = true) : baseline.named host = true := by
  unfold EgressPolicy.named at h ⊢
  rw [Bool.or_eq_true] at h ⊢
  exact h.imp (exact_of_public hstate hadded) id

theorem mapM_private : PRIVATE_CIDRS.mapM ip_network = some PRIVATE_V4 := by decide +kernel

/-- Under the ceiling `public-ipv4` a host that was not added is one for the baseline, unless the private networks are
    allowed because the baseline has none. -/
theorem baseline_or_private_of_public (hstate : state.Canonical) (hadded : host ∉ state.allowed_hosts)
    (hresolved : Resolved (public_policy baseline state) value port resolver host address found allowed denied) :
    baseline.resolve value port resolver = .ok (host, address) ∨
      baseline.allowed_cidrs = [] ∧ ∀ answer ∈ found, private_v4 answer.address = true := by
  have hdenied : ∀ text ∈ baseline.denied_cidrs, text ∈ (public_policy baseline state).denied_cidrs :=
    fun text htext => mem_sorted_set.mpr (List.mem_append_left _ htext)
  have hrestricted : (public_policy baseline state).restricted = true := by
    unfold EgressPolicy.restricted public_policy
    simp only
    split
    · rfl
    next hsome => simp [hsome]
  have hauthorized := fun answer hanswer => authorized_of_admits (hresolved.admits answer hanswer) (.inl hrestricted)
  have hallows := hresolved.allows
  unfold public_policy at hallows
  simp only at hallows
  split at hallows
  next hnone =>
    rw [mapM_private] at hallows
    cases hallows
    by_cases hnamed : baseline.named host = true
    · left
      have hempty : baseline.allowed_cidrs.mapM ip_network = some [] := by
        rw [hnone]
        rfl
      exact hresolved.of_admits (exact_of_public hstate hadded) hempty hdenied (fun _ _ _ => .inl hnamed)
    · right
      refine ⟨hnone, fun answer hanswer => ?_⟩
      rcases hauthorized answer hanswer with hpublic | hwithin
      · exact absurd (named_of_public hstate hadded hpublic) hnamed
      · exact hwithin
  next hsome =>
    left
    refine hresolved.of_admits (exact_of_public hstate hadded) hallows hdenied (fun answer hanswer _ => ?_)
    exact (hauthorized answer hanswer).imp (named_of_public hstate hadded) id

end

/-- A baseline with one host and no networks. -/
def one_host : EgressPolicy := { allowed_hosts := ["vcenter.example.org"] }

/-- The root chooses the ceiling. -/
def choose (ceiling : String) : Request :=
  { root := true, now := 1, payload := [("action", .str "managed"), ("ceiling", .str ceiling)] }

/-- What a policy makes of a host without asking a resolver. -/
def resolves (policy : EgressPolicy) (value address : String) : Bool :=
  match policy.resolve value 443 (fun _ _ => none) with
  | .ok found => found = (value, address)
  | .error _ => false

theorem resolves_iff {policy : EgressPolicy} {value address : String} : resolves policy value address = true ↔
    policy.resolve value 443 (fun _ _ => none) = .ok (value, address) := by
  unfold resolves
  split
  next found hfound => simp [hfound]
  next code hcode => simp [hcode]

end netbox_sync.auth_store
