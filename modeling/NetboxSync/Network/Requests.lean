import Mathlib.Logic.Relation
import NetboxSync.Network.Settled

namespace netbox_sync.network_writes

open netbox source_identity interface_display network_preflight network_inventory

/-- One write request of a run with these contexts. -/
inductive Request (py : python.Runtime) (fresh : Table.Fresh) (contexts : List GuestContext) :
    Session → Session → Prop
  | create_interface {s : Session} {g : GuestContext} {c : NicContext} (hg : g ∈ contexts)
      (hc : c ∈ g.nics) (hnew : c.existing = none) :
      Request py fresh contexts s (s.create_interface fresh g.netbox_vm.id
        (interface_display_name py g.guest c.source) c.desired_custom_fields).1
  | update_interface {s : Session} {g : GuestContext} {c : NicContext} {x : VMInterface}
      (hg : g ∈ contexts) (hc : c ∈ g.nics) (hold : c.existing = some x) :
      Request py fresh contexts s (s.update_interface x.id c.changes)
  | set_primary_mac (s : Session) (id mac_id : Int) : Request py fresh contexts s (s.set_primary_mac id mac_id)
  | create_mac (s : Session) (mac_address : String) (interface_id : Int) :
      Request py fresh contexts s (s.create_mac fresh mac_address interface_id).1
  | assign_mac (s : Session) (id interface_id : Int) : Request py fresh contexts s (s.assign_mac id interface_id)
  | create_ip (s : Session) (address : String) (vrf : Option Int) (interface_id : Int) :
      Request py fresh contexts s (s.create_ip fresh address vrf interface_id).1
  | assign_ip (s : Session) (id interface_id : Int) : Request py fresh contexts s (s.assign_ip id interface_id)
  | set_primary_ip4 (s : Session) (vm_id ip_id : Int) : Request py fresh contexts s (s.set_primary_ip4 vm_id ip_id)

/-- Any number of write requests. -/
def Requests (py : python.Runtime) (fresh : Table.Fresh) (contexts : List GuestContext) : Session → Session → Prop :=
  Relation.ReflTransGen (Request py fresh contexts)

section

variable {py : python.Runtime} {fresh : Table.Fresh} {contexts : List GuestContext} {s s' : Session}
  {g : GuestContext} {c : NicContext}

theorem write_interface_requests (s : Session) (hg : g ∈ contexts) (hc : c ∈ g.nics) :
    Requests py fresh contexts s (write_interface py fresh s g.guest g.netbox_vm c).1 := by
  unfold write_interface
  split
  · next hnew => exact .single (.create_interface hg hc hnew)
  · next x hold =>
    split
    · exact .refl
    · exact .single (.update_interface hg hc hold)

theorem write_mac_requests (s : Session) (c : NicContext) (interface_id : Int) :
    Requests py fresh contexts s (write_mac fresh s c interface_id) := by
  have hplace : ∀ mac_value, Requests py fresh contexts s (place_mac fresh s c interface_id mac_value).1 := by
    intro mac_value
    unfold place_mac
    split
    · exact .single (.create_mac _ _ _)
    · split
      · exact .single (.assign_mac _ _ _)
      · exact .refl
  unfold write_mac
  split
  · exact .refl
  · dsimp only
    split
    · exact (hplace _).tail (.set_primary_mac _ _ _)
    · exact hplace _

theorem write_ips_requests (s : Session) (applied : List (String × Int)) (interface_id : Int) (ips : List IpContext) :
    Requests py fresh contexts s (write_ips fresh interface_id s applied ips).1 := by
  induction ips generalizing s applied with
  | nil => exact .refl
  | cons ip ips ih =>
    have hone : Requests py fresh contexts s (write_ip fresh s ip interface_id).1 := by
      unfold write_ip
      split
      · exact .single (.create_ip _ _ _ _)
      · split
        · exact .single (.assign_ip _ _ _)
        · exact .refl
    exact hone.trans (ih _ _)

theorem write_nics_requests (s : Session) (applied : List (String × Int)) (hg : g ∈ contexts)
    {nics : List NicContext} (hnics : ∀ c ∈ nics, c ∈ g.nics) :
    Requests py fresh contexts s (write_nics py fresh g.guest g.netbox_vm s applied nics).1 := by
  induction nics generalizing s applied with
  | nil => exact .refl
  | cons c nics ih =>
    have hnic : Requests py fresh contexts s (write_nic py fresh g.guest g.netbox_vm s applied c).1 :=
      (write_interface_requests s hg (hnics c (by simp))).trans
        ((write_mac_requests _ c _).trans (write_ips_requests _ _ _ _))
    exact hnic.trans (ih _ _ (fun other hother => hnics other (by simp [hother])))

theorem write_primary_requests (s : Session) (netbox_vm : VirtualMachine) (primary : PrimaryContext)
    (applied : List (String × Int)) : Requests py fresh contexts s (write_primary s netbox_vm primary applied) := by
  unfold write_primary
  split
  · exact .refl
  · split
    · exact .refl
    · split
      · exact .refl
      · split
        · exact .single (.set_primary_ip4 _ _ _)
        · exact .refl

theorem write_guest_requests (s : Session) (hg : g ∈ contexts) :
    Requests py fresh contexts s (write_guest py fresh s g) :=
  (write_nics_requests s [] hg (fun _ hc => hc)).trans (write_primary_requests _ _ _ _)

/-- A run is made of write requests for its contexts. -/
theorem write_networks_requests (s : Session) (order : List GuestContext) (horder : ∀ g ∈ order, g ∈ contexts) :
    Requests py fresh contexts s (write_networks py fresh s order) := by
  unfold write_networks
  induction order generalizing s with
  | nil => exact .refl
  | cons g order ih =>
    exact (write_guest_requests s (horder g (by simp))).trans
      (ih _ (fun other hother => horder other (by simp [hother])))

theorem Request.calls (h : Request py fresh contexts s s') : s'.calls.length = s.calls.length + 1 := by
  cases h <;> exact List.length_append

theorem Requests.calls_le (h : Requests py fresh contexts s s') : s.calls.length ≤ s'.calls.length := by
  induction h with
  | refl => exact Nat.le_refl _
  | tail _ hrequest ih =>
    have hone := hrequest.calls
    omega

/-- A NIC whose interface is there and needs no change. -/
def Unchanged (c : NicContext) : Prop := ∃ x, c.existing = some x ∧ c.changes = {}

theorem write_interface_unchanged {id : Int} (h : write_interface py fresh s g.guest g.netbox_vm c = (s', id))
    (hcalls : s'.calls.length ≤ s.calls.length) : Unchanged c := by
  unfold write_interface at h
  split at h
  · cases h
    simp at hcalls
  · next x hexisting =>
    split at h
    · next hchanges => exact ⟨x, hexisting, hchanges⟩
    · cases h
      simp [Session.update_interface] at hcalls

theorem write_nics_unchanged (hg : g ∈ contexts) {nics : List NicContext}
    (hnics : ∀ c ∈ nics, c ∈ g.nics) {applied applied' : List (String × Int)}
    (h : write_nics py fresh g.guest g.netbox_vm s applied nics = (s', applied'))
    (hcalls : s'.calls.length ≤ s.calls.length) : ∀ c ∈ nics, Unchanged c := by
  induction nics generalizing s applied with
  | nil => simp
  | cons c nics ih =>
    have hrest := fun other hother => hnics other (List.mem_cons_of_mem c hother)
    unfold write_nics write_nic at h
    cases hwrite : write_interface py fresh s g.guest g.netbox_vm c with
    | mk s₁ interface_id =>
      cases hips : write_ips fresh interface_id (write_mac fresh s₁ c interface_id) applied c.ips with
      | mk s₂ applied₂ =>
        simp only [hwrite, hips] at h
        -- each part of the round only adds calls
        have hinterface : Requests py fresh contexts s s₁ := by
          have hrequests : Requests py fresh contexts s _ := write_interface_requests s hg (hnics c (by simp))
          rwa [hwrite] at hrequests
        have hround : Requests py fresh contexts s₁ s₂ := by
          have hrequests : Requests py fresh contexts _ _ :=
            write_ips_requests (write_mac fresh s₁ c interface_id) applied interface_id c.ips
          rw [hips] at hrequests
          exact (write_mac_requests s₁ c interface_id).trans hrequests
        have hnext : Requests py fresh contexts s₂ s' := by
          have hrequests : Requests py fresh contexts s₂ _ := write_nics_requests s₂ applied₂ hg hrest
          rwa [h] at hrequests
        have hle₁ := hinterface.calls_le
        have hle₂ := hround.calls_le
        have hle₃ := hnext.calls_le
        intro other hother
        rcases List.mem_cons.mp hother with rfl | hother
        · exact write_interface_unchanged hwrite (by omega)
        · exact ih hrest h (by omega) other hother

/-- A run that makes no request found every interface as it should be. -/
theorem write_networks_unchanged {order : List GuestContext} (horder : ∀ g ∈ order, g ∈ contexts)
    (h : (write_networks py fresh s order).calls.length ≤ s.calls.length) : ∀ g ∈ order, ∀ c ∈ g.nics, Unchanged c := by
  induction order generalizing s with
  | nil => simp
  | cons g order ih =>
    have hg := horder g (by simp)
    have hrest := fun other hother => horder other (List.mem_cons_of_mem g hother)
    have hnext : Requests py fresh contexts (write_guest py fresh s g) (write_networks py fresh s (g :: order)) :=
      write_networks_requests (write_guest py fresh s g) order hrest
    have hle := hnext.calls_le
    intro other hother
    rcases List.mem_cons.mp hother with rfl | hother
    · cases hwrite : write_nics py fresh other.guest other.netbox_vm s [] other.nics with
      | mk s₁ applied =>
        have hprimary : Requests py fresh contexts s₁ (write_guest py fresh s other) := by
          unfold write_guest
          rw [hwrite]
          exact write_primary_requests s₁ _ _ _
        have hle' := hprimary.calls_le
        exact write_nics_unchanged hg (fun c hc => hc) hwrite (by omega)
    · have hguest : Requests py fresh contexts s _ := write_guest_requests s hg
      exact ih hrest (Nat.le_trans h hguest.calls_le) other hother

/-- A VM without its primary address. -/
def bare (vm : VirtualMachine) : VirtualMachine := { vm with primary_ip4 := none }

/-- What no run changes: sites, clusters, and VMs up to their primary address. -/
structure Kept (s s' : Session) : Prop where
  sites : s'.store.sites = s.store.sites
  clusters : s'.store.clusters = s.store.clusters
  vms : s'.store.vms.rows.map bare = s.store.vms.rows.map bare

theorem Request.kept (h : Request py fresh contexts s s') : Kept s s' := by
  cases h with
  | set_primary_ip4 vm_id ip_id =>
    refine ⟨rfl, rfl, ?_⟩
    simp only [Session.set_primary_ip4, Table.modify, List.map_map]
    apply List.map_congr_left
    intro vm _
    simp only [Function.comp]
    split <;> rfl
  | _ => exact ⟨rfl, rfl, rfl⟩

theorem Requests.kept (h : Requests py fresh contexts s s') : Kept s s' := by
  induction h with
  | refl => exact ⟨rfl, rfl, rfl⟩
  | tail _ hrequest ih =>
    have hone := hrequest.kept
    exact ⟨hone.sites.trans ih.sites, hone.clusters.trans ih.clusters, hone.vms.trans ih.vms⟩

theorem find_guest_matches_bare (vms : List VirtualMachine) (guest : Guest) :
    find_guest_matches py.repr (vms.map bare) guest = (find_guest_matches py.repr vms guest).map (List.map bare) :=
  select_best_identity_matches_map bare (fun record => guest_match_rank py.repr record.custom_fields guest) vms

/-- The VM of a guest is found among the VMs up to their primary addresses. -/
theorem find_guest_vm_bare (py : python.Runtime) (store : Store) (cluster : Cluster) (guest : Guest) :
    (find_guest_vm py store cluster guest).map bare =
      match guest with
      | .machine _ => vm_network_preflight.find_vm py
          ((store.vms.rows.map bare).filter (fun vm => vm.cluster = some cluster.id)) guest
      | .container _ => lxc_network_preflight.find_lxc_vm py (store.vms.rows.map bare) guest := by
  cases guest with
  | machine vm =>
    have hfilter : (store.vms.rows.map bare).filter (fun vm => vm.cluster = some cluster.id) =
        (store.vms.rows.filter (fun vm => vm.cluster = some cluster.id)).map bare := by
      rw [List.filter_map]
      rfl
    dsimp only
    rw [hfilter]
    simp only [find_guest_vm, vm_network_preflight.find_vm, guest_inventory,
      prepare_vm_network_inventory, index_records, find_guest_matches_bare]
    cases find_guest_matches py.repr _ _ with
    | error error => rfl
    | ok found =>
      simp only [Except.map, Except.ok_bind]
      rcases found with _ | ⟨first, _ | ⟨second, rest⟩⟩ <;> simp
  | container c =>
    simp only [find_guest_vm, lxc_network_preflight.find_lxc_vm, guest_inventory,
      prepare_lxc_network_inventory, index_records, find_guest_matches_bare]
    cases find_guest_matches py.repr _ _ with
    | error error => rfl
    | ok found =>
      simp only [Except.map, Except.ok_bind]
      rcases found with _ | ⟨first, _ | ⟨second, rest⟩⟩ <;> simp

theorem Kept.find_guest_vm_bare (h : Kept s s') (cluster : Cluster) (guest : Guest) :
    (find_guest_vm py s'.store cluster guest).map bare = (find_guest_vm py s.store cluster guest).map bare := by
  rw [network_writes.find_guest_vm_bare, network_writes.find_guest_vm_bare, h.vms]

/-- A guest keeps its VM. -/
theorem Kept.find_guest_vm_ok (h : Kept s s') {cluster : Cluster} {guest : Guest} {vm : VirtualMachine}
    (hvm : find_guest_vm py s.store cluster guest = .ok vm) :
    ∃ vm', find_guest_vm py s'.store cluster guest = .ok vm' ∧ bare vm' = bare vm := by
  have hbare : (find_guest_vm py s'.store cluster guest).map bare = _ := h.find_guest_vm_bare cluster guest
  rw [hvm] at hbare
  cases hfound : find_guest_vm py s'.store cluster guest with
  | error error =>
    rw [hfound] at hbare
    cases hbare
  | ok vm' =>
    rw [hfound] at hbare
    exact ⟨vm', rfl, Except.ok.inj hbare⟩

theorem Kept.target_cluster (h : Kept s s') (target : Target) :
    target_cluster s'.store target = target_cluster s.store target := by
  unfold network_writes.target_cluster target_clusters
  rw [h.sites, h.clusters]

end

end netbox_sync.network_writes
