import NetboxSync.Lib.Dict

namespace netbox_guard.host_network_paths

/-- A row of a snapshot: the texts and lists that `row.get` reads of it. -/
structure Row where
  name : Option String := none
  type : Option String := none
  switch : Option String := none
  port_group : Option String := none
  distributed_switch_uuid : Option String := none
  vlan_parent : Option String := none
  uplinks : List String := []
  bridge_ports : List String := []
  bond_slaves : List String := []
  pending : Bool := false

structure Snapshot where
  available : Bool
  version : Option Int
  physical_nics : List Row := []
  switches : List Row := []
  port_groups : List Row := []
  vmkernel : List Row := []
  interfaces : List Row := []

inductive Provider where
  | esxi_host_network
  | proxmox_host_network
  deriving DecidableEq

/-- The custom fields of a device, where they are dictionaries. -/
abbrev Fields := Provider → Option Snapshot

inductive Status where
  | snapshot_missing_or_ambiguous
  | unsupported_snapshot
  | ambiguous_names
  | incomplete
  | configured
  deriving DecidableEq

structure Result where
  status : Status
  basis : Option Provider := none
  paths : List (List String) := []
  provider_port_confirmed : Option Bool := none
  deriving DecidableEq

structure Graph where
  children : List (String × List String) := []
  physical : List String := []
  pending : List String := []
  duplicate : Bool := false

def Graph.add (g : Graph) (key : String) (children : List String) : Graph :=
  { g with
    duplicate := g.duplicate || (dict.get g.children key).isSome
    children := dict.set g.children key children }

/-- A text that Python takes for true. -/
def present (text : Option String) : Option String := text.filter (· ≠ "")

/-- The rows that have a name, one after the other. -/
def named (rows : List Row) (g : Graph) (add : Graph → Row → String → Graph) : Graph :=
  rows.foldl (fun g row => match present row.name with
    | some name => add g row name
    | none => g) g

def esxi_graph (snapshot : Snapshot) : Graph :=
  let g := named snapshot.physical_nics {} (fun g _ name =>
    { g.add ("nic:" ++ name) [] with physical := g.physical ++ ["nic:" ++ name] })
  let g := named snapshot.switches g (fun g row name => g.add ("switch:" ++ name) (row.uplinks.map ("nic:" ++ ·)))
  let g := named snapshot.port_groups g (fun g row name =>
    g.add ("group:" ++ name) ((present row.switch).toList.map ("switch:" ++ ·)))
  named snapshot.vmkernel g (fun g row name => g.add ("kernel:" ++ name)
    (if present row.distributed_switch_uuid = none then (present row.port_group).toList.map ("group:" ++ ·) else []))

def proxmox_graph (snapshot : Snapshot) : Graph :=
  named snapshot.interfaces {} (fun g row name =>
    { g with
      physical := if row.type = some "eth" then g.physical ++ [name] else g.physical
      pending := if row.pending then g.pending ++ [name] else g.pending }.add name
      (match row.type with
      | some "bridge" => row.bridge_ports
      | some "bond" => row.bond_slaves
      | some "vlan" => (present row.vlan_parent).toList
      | _ => []))

def Provider.graph : Provider → Snapshot → Graph
  | .esxi_host_network => esxi_graph
  | .proxmox_host_network => proxmox_graph

/-- Where the walk starts; `str(None)` names no kernel interface, but is a text. -/
def Provider.start (interface bridge : Option String) : Provider → Option String
  | .esxi_host_network => match present bridge with
    | some bridge => some ("group:" ++ bridge)
    | none => some ("kernel:" ++ interface.getD "None")
  | .proxmox_host_network => (present bridge).or interface

/-- What the nested `walk` shares between its calls. -/
structure Walk where
  result : List (List String) := []
  incomplete : Bool := false
  visits : Nat := 0

/-- `walk(node, trail)`. The trail grows by one node with each call, and the first argument is what it leaves of the
    depth of 32. -/
def walk (g : Graph) : Nat → String → List String → Walk → Walk
  | 0, _, _, s => { s with visits := s.visits + 1, incomplete := true }
  | depth + 1, node, trail, s =>
    let s := { s with visits := s.visits + 1 }
    if 1024 < s.visits ∨ node ∈ trail ∨ 64 ≤ s.result.length then { s with incomplete := true }
    else
      let trail := trail ++ [node]
      match dict.get g.children node with
      | none => { s with incomplete := true }
      | some children =>
        if node ∈ g.pending then { s with incomplete := true }
        else if node ∈ g.physical then { s with result := s.result ++ [trail] }
        else
          let s := if children = [] then { s with incomplete := true } else s
          (sorting.sorted id children).foldl (fun s child => walk g depth child trail s) s

def snapshots (fields : Fields) : List (Provider × Snapshot) :=
  [Provider.esxi_host_network, .proxmox_host_network].filterMap (fun key =>
    ((fields key).filter Snapshot.available).map (key, ·))

def paths (fields : Fields) (interface bridge : Option String) : Result :=
  match snapshots fields with
  | [(provider, snapshot)] =>
    let g := provider.graph snapshot
    if snapshot.version ≠ some 1 then { status := .unsupported_snapshot }
    else if g.duplicate then { status := .ambiguous_names }
    else
      let s : Walk := match provider.start interface bridge with
        | some start => walk g 32 start [] {}
        | none => { incomplete := true, visits := 1 }
      { status := if s.incomplete then .incomplete else .configured
        basis := some provider
        paths := s.result
        provider_port_confirmed := some false }
  | _ => { status := .snapshot_missing_or_ambiguous }

/-- The branches of at most `n` steps from a node, as often as they are configured: a branch goes on to each child
    until it meets a physical NIC. -/
def branches (g : Graph) : Nat → String → List String → List (List String)
  | 0, node, trail => [trail ++ [node]]
  | n + 1, node, trail =>
    (trail ++ [node]) :: if node ∈ g.physical then []
      else (sorting.sorted id ((dict.get g.children node).getD [])).flatMap
        (fun child => branches g n child (trail ++ [node]))

/-- The branches that have met a physical NIC. -/
def uplinks (g : Graph) (trails : List (List String)) : List (List String) :=
  trails.filter (fun trail => ∃ nic ∈ g.physical, trail.getLast? = some nic)

/-- A branch without a repeated, unknown or pending node, which ends in a physical NIC or goes on. -/
structure Sound (g : Graph) (trail : List String) : Prop where
  nodup : trail.Nodup
  depth : trail.length ≤ 32
  known : ∀ node ∈ trail, (dict.get g.children node).isSome ∧ node ∉ g.pending
  continues : ∀ node, trail.getLast? = some node →
    node ∈ g.physical ∨ ∃ child children, dict.get g.children node = some (child :: children)

/-- The walk has gone through the branches without raising its flag. -/
structure Walked (g : Graph) (s s' : Walk) (trails : List (List String)) : Prop where
  visits : s'.visits = s.visits + trails.length
  result : s'.result = s.result ++ uplinks g trails
  limits : s'.visits ≤ 1024 ∧ s'.result.length ≤ 64
  sound : ∀ trail ∈ trails, Sound g trail

section

variable {g : Graph} {s s' s'' : Walk} {depth : Nat} {node : String} {trail : List String}

theorem Walked.append {trails trails' : List (List String)} (h : Walked g s s' trails)
    (h' : Walked g s' s'' trails') : Walked g s s'' (trails ++ trails') := by
  refine ⟨?_, ?_, h'.limits, List.forall_mem_append.mpr ⟨h.sound, h'.sound⟩⟩
  · rw [h'.visits, h.visits, List.length_append, Nat.add_assoc]
  · simp only [h'.result, h.result, uplinks, List.filter_append, List.append_assoc]

theorem foldl_incomplete {f : Walk → String → Walk} {children : List String}
    (hf : ∀ s child, s.incomplete = true → (f s child).incomplete = true) (h : s.incomplete = true) :
    (children.foldl f s).incomplete = true := by
  induction children generalizing s with
  | nil => exact h
  | cons child children ih => exact ih (hf s child h)

/-- A visit never takes the flag back. -/
theorem walk_incomplete (h : s.incomplete = true) : (walk g depth node trail s).incomplete = true := by
  induction depth generalizing node trail s with
  | zero => rfl
  | succ depth ih =>
    simp only [walk]
    repeat' split
    all_goals first
      | rfl
      | exact h
      | exact foldl_incomplete (fun _ _ => ih) rfl
      | exact foldl_incomplete (fun _ _ => ih) h

theorem Walked.foldl {children : List String} (hlimits : s.visits ≤ 1024 ∧ s.result.length ≤ 64)
    (hchild : ∀ child s, (walk g depth child trail s).incomplete = false →
      Walked g s (walk g depth child trail s) (branches g depth child trail))
    (h : (children.foldl (fun s child => walk g depth child trail s) s).incomplete = false) :
    Walked g s (children.foldl (fun s child => walk g depth child trail s) s)
      (children.flatMap (fun child => branches g depth child trail)) := by
  induction children generalizing s with
  | nil => exact ⟨rfl, (List.append_nil _).symm, hlimits, by simp⟩
  | cons child children ih =>
    have hfirst : (walk g depth child trail s).incomplete = false := by
      by_contra hflag
      rw [List.foldl_cons, foldl_incomplete (fun _ _ => walk_incomplete) (by simpa using hflag)] at h
      cases h
    have hwalked := hchild child s hfirst
    exact hwalked.append (ih hwalked.limits h)

/-- A call that is not cut, on a trail that is sound so far. -/
theorem walk_walked (hdepth : trail.length + depth = 32) (hnodup : trail.Nodup)
    (hknown : ∀ node ∈ trail, (dict.get g.children node).isSome ∧ node ∉ g.pending)
    (h : (walk g depth node trail s).incomplete = false) :
    Walked g s (walk g depth node trail s) (branches g depth node trail) := by
  induction depth generalizing node trail s with
  | zero => cases h
  | succ depth ih =>
    simp only [walk, branches] at h ⊢
    split at h
    · cases h
    next hcut =>
    rw [if_neg hcut]
    simp only [not_or, Nat.not_lt, Nat.not_le] at hcut
    obtain ⟨hvisits, hnew, hresult⟩ := hcut
    cases hchildren : dict.get g.children node with
    | none =>
      rw [hchildren] at h
      cases h
    | some children =>
      simp only [hchildren, Option.getD_some] at h ⊢
      split at h
      · cases h
      next hpending =>
      rw [if_neg hpending]
      have hlength : (trail ++ [node]).length + depth = 32 := by
        rw [List.length_append, List.length_singleton]
        omega
      have hsound : (node ∈ g.physical ∨ children ≠ []) → Sound g (trail ++ [node]) := by
        intro hend
        refine ⟨by simpa using hnodup.concat hnew, by omega, ?_, fun last hlast => ?_⟩
        · exact List.forall_mem_append.mpr ⟨hknown, by simpa [hchildren] using hpending⟩
        · obtain rfl : node = last := by simpa using hlast
          refine hend.imp_right (fun hne => ?_)
          obtain ⟨child, rest, rfl⟩ := List.exists_cons_of_ne_nil hne
          exact ⟨child, rest, hchildren⟩
      split at h
      next hphysical =>
        have hgood := hsound (.inl hphysical)
        simp only [if_pos hphysical]
        refine ⟨rfl, by simp [uplinks, hphysical], ⟨hvisits, ?_⟩, by simpa using hgood⟩
        rw [List.length_append, List.length_singleton]
        exact hresult
      next hphysical =>
        have hne : children ≠ [] := by
          rintro rfl
          rw [if_pos rfl, foldl_incomplete (fun _ _ => walk_incomplete) rfl] at h
          cases h
        have hgood := hsound (.inr hne)
        simp only [if_neg hne] at h
        simp only [if_neg hphysical, if_neg hne]
        have hfold := Walked.foldl (s := { s with visits := s.visits + 1 }) ⟨hvisits, hresult.le⟩
          (fun _ _ => ih hlength hgood.nodup hgood.known) h
        refine ⟨?_, ?_, hfold.limits, List.forall_mem_cons.mpr ⟨hgood, hfold.sound⟩⟩
        · rw [hfold.visits, List.length_cons, Nat.add_right_comm, Nat.add_assoc]
        · rw [hfold.result]
          simp [uplinks, hphysical]

/-- Branches that all end in time are all there are. -/
theorem branches_add (h : ∀ t ∈ branches g depth node trail, t.length ≤ trail.length + depth) (n : Nat) :
    branches g (depth + n) node trail = branches g depth node trail := by
  induction depth generalizing node trail with
  | zero =>
    have hlong := h _ List.mem_cons_self
    rw [List.length_append, List.length_singleton] at hlong
    omega
  | succ depth ih =>
    rw [Nat.add_right_comm]
    simp only [branches, List.forall_mem_cons] at h ⊢
    by_cases hphysical : node ∈ g.physical
    · rw [if_pos hphysical, if_pos hphysical]
    · rw [if_neg hphysical] at h
      rw [if_neg hphysical, if_neg hphysical, List.cons.injEq]
      refine ⟨rfl, List.flatMap_congr (fun child hchild => ih (fun t ht => ?_))⟩
      have hlength := h.2 t (List.mem_flatMap.mpr ⟨child, hchild, ht⟩)
      rw [List.length_append, List.length_singleton]
      omega

end

/-- Where the paths are called configured, they are the simple paths from the start along configured children to a
    first physical NIC, and no branch is repeated, unknown, pending, without children or beyond a limit. -/
theorem configured_paths_complete (fields : Fields) (interface bridge : Option String)
    (h : (paths fields interface bridge).status = .configured) :
    ∃ provider snapshot start, snapshots fields = [(provider, snapshot)] ∧
      provider.start interface bridge = some start ∧ ∀ n ≥ 32,
        let trails := branches (provider.graph snapshot) n start []
        (∀ path, path ∈ (paths fields interface bridge).paths ↔
          path.Nodup ∧ path ∈ uplinks (provider.graph snapshot) trails) ∧
        trails.length ≤ 1024 ∧ (uplinks (provider.graph snapshot) trails).length ≤ 64 ∧
        ∀ trail ∈ trails, Sound (provider.graph snapshot) trail := by
  unfold paths at h ⊢
  split at h
  next provider snapshot hsnapshots =>
    dsimp only at h
    split at h
    · cases h
    next hversion =>
    split at h
    · cases h
    next hnames =>
    cases hstart : provider.start interface bridge with
    | none =>
      rw [hstart] at h
      cases h
    | some start =>
      simp only [hstart] at h
      have hcomplete : (walk (provider.graph snapshot) 32 start [] {}).incomplete = false := by
        by_contra hflag
        rw [if_pos (by simpa using hflag)] at h
        cases h
      obtain ⟨hvisits, hresult, hlimits, hsound⟩ := walk_walked rfl List.nodup_nil (by simp) hcomplete
      rw [hresult, List.nil_append, hvisits, Nat.zero_add] at hlimits
      refine ⟨provider, snapshot, start, hsnapshots, hstart, fun n hn => ?_⟩
      obtain ⟨more, rfl⟩ := Nat.exists_eq_add_of_le hn
      rw [branches_add (fun t ht => by simpa using (hsound t ht).depth)]
      simp only [if_neg hversion, if_neg hnames, hresult, List.nil_append]
      refine ⟨fun path => ⟨fun hpath => ⟨?_, hpath⟩, And.right⟩, hlimits.1, hlimits.2, hsound⟩
      exact (hsound path (List.mem_of_mem_filter hpath)).nodup
  · cases h

/-- A bridge over a bond of two NICs. -/
def bonded : Fields
  | .esxi_host_network => none
  | .proxmox_host_network => some {
      available := true, version := some 1
      interfaces := [{ name := some "bond0", type := some "bond", bond_slaves := ["eno2", "eno1"] },
        { name := some "eno1", type := some "eth" }, { name := some "eno2", type := some "eth" },
        { name := some "vmbr0", type := some "bridge", bridge_ports := ["bond0"] }] }

theorem configured_paths_complete_bonded :
    (paths bonded none (some "vmbr0")).paths = [["vmbr0", "bond0", "eno1"], ["vmbr0", "bond0", "eno2"]] ∧
      ∃ provider snapshot start, snapshots bonded = [(provider, snapshot)] ∧
        ∀ trail ∈ branches (provider.graph snapshot) 32 start [], trail.Nodup := by
  obtain ⟨provider, snapshot, start, hsnapshots, _, hpaths⟩ :=
    configured_paths_complete bonded none (some "vmbr0") (by decide +kernel)
  obtain ⟨_, _, _, hsound⟩ := hpaths 32 (le_refl _)
  exact ⟨by decide +kernel, provider, snapshot, start, hsnapshots, fun trail htrail => (hsound trail htrail).nodup⟩

end netbox_guard.host_network_paths
