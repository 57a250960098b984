import NetboxSync.Network.Second
import NetboxSync.Network.Traced

namespace netbox_sync.network_writes

open discovery netbox source_identity network_preflight network_inventory network_matching

/-- The two guest networking stages. -/
inductive GuestKind where
  | vm
  | lxc
deriving DecidableEq

/-- The guests a stage is about. -/
def GuestKind.guests (kind : GuestKind) (hosts : List DiscoveredHost) : List Guest :=
  match kind with
  | .vm => (hosts.flatMap DiscoveredHost.virtual_machines).map Guest.machine
  | .lxc => (hosts.flatMap DiscoveredHost.containers).map Guest.container

/-- A stage with `confirmed=True`. -/
def apply_networks (py : python.Runtime) (fresh : Table.Fresh) (kind : GuestKind) (target : Target)
    (hosts : List DiscoveredHost) (s : Session) : Except String Session :=
  match kind with
  | .vm => apply_vm_networks py fresh target hosts true s
  | .lxc => apply_lxc_networks py fresh target hosts true s

section

variable {py : python.Runtime} {fresh : Table.Fresh} {kind : GuestKind} {target : Target}
  {hosts : List DiscoveredHost} {s s' : Session}

/-- A stage prepares its guests one by one, checks the batch, and then writes. -/
theorem apply_networks_eq_ok_iff :
    apply_networks py fresh kind target hosts s = .ok s' ↔
      ∃ cluster contexts, target_cluster s.store target = .ok cluster ∧
        List.Forall₂ (fun guest g => prepare_network_context py s.store cluster guest = .ok g)
          (kind.guests hosts) contexts ∧
        check_batch (discovered_macs py (kind.guests hosts)) (discovered_ips (kind.guests hosts)) = .ok () ∧
        write_networks py fresh s contexts = s' := by
  cases kind
  all_goals
    simp only [apply_networks, apply_vm_networks, apply_lxc_networks,
      vm_network_preflight.prepare_vm_network_contexts, lxc_network_preflight.prepare_lxc_network_contexts,
      Except.bind_eq_ok_iff, Except.mapM_eq_ok_iff, if_true, GuestKind.guests, List.forall₂_map_left_iff]
    constructor
    · rintro ⟨cluster, hcluster, contexts, ⟨_, hall, _, hbatch, ⟨⟩⟩, hwrite⟩
      exact ⟨cluster, _, hcluster, hall, hbatch, Except.ok.inj hwrite⟩
    · rintro ⟨cluster, contexts, hcluster, hall, hbatch, rfl⟩
      exact ⟨cluster, hcluster, contexts, ⟨contexts, hall, (), hbatch, rfl⟩, rfl⟩

section

variable {cluster : Cluster} {guests : List Guest} {contexts : List GuestContext}
  (hall : List.Forall₂ (fun guest g => prepare_network_context py s.store cluster guest = .ok g)
    guests contexts)
include hall

/-- The guests of a batch that passed the preflight, in order. -/
theorem contexts_guest {g : GuestContext} (hg : g ∈ contexts) :
    prepare_network_context py s.store cluster g.guest = .ok g ∧ g.guest ∈ guests ∧
      PreparedContext py s.store cluster g := by
  obtain ⟨guest, hguest, hprep⟩ := hall.exists_of_mem_right hg
  obtain ⟨rfl, hcontext⟩ := prepare_network_context_prepared hprep
  exact ⟨hprep, hguest, hcontext⟩

theorem contexts_vm_ne (hvms : VmsApart py s.store cluster guests) :
    ∀ g ∈ contexts, ∀ g' ∈ contexts, g.netbox_vm.id = g'.netbox_vm.id → g = g' := by
  have hguests : contexts.map GuestContext.guest = guests :=
    hall.map_eq (fun _ _ h => (prepare_network_context_prepared h).1)
  unfold VmsApart at hvms
  rw [← hguests, List.pairwise_map] at hvms
  have hpair : contexts.Pairwise (fun g g' => g.netbox_vm.id ≠ g'.netbox_vm.id) :=
    hvms.imp_of_mem (fun hg hg' hne =>
      vm_id_ne_of_apart (contexts_guest hall hg).2.2 (contexts_guest hall hg').2.2 hne)
  have hnodup : (contexts.map (fun g => g.netbox_vm.id)).Nodup := List.pairwise_map.mpr hpair
  intro g hg g' hg' hid
  exact List.inj_on_of_nodup_map hnodup hg hg' hid

/-- The writes of a batch with VMs of their own and unshared interfaces. -/
theorem completed_of_batch (fresh : Table.Fresh)
    (hbatch : check_batch (discovered_macs py guests) (discovered_ips guests) = .ok ())
    (hvms : VmsApart py s.store cluster guests)
    (hunshared : ∀ g ∈ contexts, Unshared py g.guest (vm_interfaces s.store g.netbox_vm.id)) :
    ∃ done, Completed py s.store cluster done (write_networks py fresh s contexts) ∧
      ∀ g ∈ contexts, ∃ d ∈ done, d.context = g := by
  obtain ⟨hmacs, hips⟩ := check_batch_ok hbatch
  obtain ⟨hprep, hpair⟩ := batch_prepared hall hmacs hips hvms hunshared
  obtain ⟨done, hwritten, horder⟩ := write_networks_written fresh (guestsWritten_nil s) hprep (by simp) hpair
  rw [List.append_nil] at hwritten
  have hmem : ∀ d ∈ done, d.context ∈ contexts := by
    intro d hd
    rw [← List.mem_reverse, ← horder]
    exact List.mem_map_of_mem hd
  refine ⟨done, ⟨?_, ?_, ?_, hwritten, ?_⟩, ?_⟩
  · intro d hd
    exact (contexts_guest hall (hmem d hd)).1
  · intro d hd
    exact (hprep _ (hmem d hd)).pair
  · have hreverse := List.pairwise_reverse.mpr (hpair.imp GuestsApart.symm)
    rw [← horder, List.pairwise_map] at hreverse
    exact hreverse
  · intro d hd
    have hrequests : Requests py fresh contexts s _ := write_networks_requests s contexts (fun _ hg => hg)
    have hkept := hrequests.kept
    exact hkept.find_guest_vm_ok (contexts_guest hall (hmem d hd)).2.2.vm
  · intro g hg
    rw [← List.mem_reverse, ← horder] at hg
    exact List.mem_map.mp hg

/-- With steady NICs, a second run finds everything in place. -/
theorem second_run_idle (fresh : Table.Fresh)
    (hbatch : check_batch (discovered_macs py guests) (discovered_ips guests) = .ok ())
    (hvms : VmsApart py s.store cluster guests)
    (hsteady : ∀ g ∈ contexts, SteadyNics py g.guest (vm_interfaces s.store g.netbox_vm.id)) :
    ∃ contexts₂, List.Forall₂ (fun guest g => prepare_network_context py
        (write_networks py fresh s contexts).store cluster guest = .ok g) guests contexts₂ ∧
      ∀ g ∈ contexts₂, IdleGuest (write_networks py fresh s contexts).store g := by
  obtain ⟨done, hcompleted, hdone⟩ := completed_of_batch hall fresh hbatch hvms (fun g hg => (hsteady g hg).unshared)
  have hstep : ∀ guest ∈ guests, ∀ g ∈ contexts,
      prepare_network_context py s.store cluster guest = .ok g →
      ∃ g₂, prepare_network_context py (write_networks py fresh s contexts).store cluster guest = .ok g₂ ∧
        IdleGuest (write_networks py fresh s contexts).store g₂ := by
    intro guest _ g hg hprep
    obtain ⟨rfl, _⟩ := prepare_network_context_prepared hprep
    obtain ⟨d, hd, rfl⟩ := hdone g hg
    exact hcompleted.prepare_context hd (hsteady _ hg)
  obtain ⟨contexts₂, hall₂, hidle⟩ := hall.exists_forall₂ hstep
  refine ⟨contexts₂, hall₂, fun g hg => ?_⟩
  obtain ⟨_, _, hg⟩ := hidle.exists_of_mem_right hg
  exact hg

/-- A second run that succeeds without a request had steady NICs. -/
theorem steady_of_second_run (hvms : VmsApart py s.store cluster guests)
    (hs' : write_networks py fresh s contexts = s') {contexts₂ : List GuestContext}
    (hall₂ : List.Forall₂ (fun guest g => prepare_network_context py s'.store cluster guest = .ok g)
      guests contexts₂)
    (hsame : write_networks py fresh s' contexts₂ = s') :
    ∀ g ∈ contexts, SteadyNics py g.guest (vm_interfaces s.store g.netbox_vm.id) := by
  have hunchanged : ∀ g ∈ contexts₂, ∀ c ∈ g.nics, Unchanged c := by
    apply write_networks_unchanged (fun _ hg => hg)
    · exact Nat.le_of_eq (congrArg (fun s => s.calls.length) hsame)
  have hrequests : Requests py fresh contexts s s' := by
    rw [← hs']
    exact write_networks_requests s contexts (fun _ hg => hg)
  have hprep := fun g hg => (contexts_guest hall (g := g) hg).2.2
  have htraced := hrequests.traced hprep (traced_refl s)
  intro g hg
  obtain ⟨_, hguest, hcontext⟩ := contexts_guest hall hg
  obtain ⟨g₂, hg₂, hprep₂⟩ := hall₂.exists_of_mem_left hguest
  obtain ⟨hsameGuest, hcontext₂⟩ := prepare_network_context_prepared hprep₂
  -- the guest has the VM it had
  obtain ⟨vm, hvm, hbare⟩ := hrequests.kept.find_guest_vm_ok hcontext.vm
  have hvm₂ := hcontext₂.vm
  rw [hsameGuest, hvm, Except.ok.injEq] at hvm₂
  have hsameId : (bare vm).id = (bare g.netbox_vm).id := congrArg VirtualMachine.id hbare
  have hid : g₂.netbox_vm.id = g.netbox_vm.id := hvm₂ ▸ hsameId
  exact htraced.steady hprep (contexts_vm_ne hall hvms) hg hcontext₂ hsameGuest hid (hunchanged g₂ hg₂)

end

end

/-- One Proxmox node with the container and its NICs. -/
def proxmoxHosts (interfaces : List DiscoveredInterface) : List DiscoveredHost :=
  [{ source := "proxmox", source_instance := "proxmox-1", legacy_identity_owner := false,
     source_id := "proxmox:pve", original_name := "pve", normalized_name := "pve",
     management_ip := none, hypervisor := "proxmox", hypervisor_version := none,
     cpu := ⟨none, none, 1, 1, 1⟩, memory_bytes := 0, containers := [webContainer interfaces] }]

def dcSite : Site := ⟨5, "dc", "DC"⟩

def dcCluster : Cluster := { id := 1, name := "proxmox", scope_type := some "dcim.site", scope_id := some 5 }

/-- A NetBox with the container's VM and no interfaces yet. -/
def newContainer : Session where
  store := { containerStore with
    sites := ⟨[dcSite], by simp⟩
    clusters := ⟨[dcCluster], by simp⟩
    interfaces := ⟨[], List.nodup_nil⟩ }

def dcTarget : Target where
  site_slug := "dc"
  cluster_name := "proxmox"

/-- A sole NIC is steady. -/
theorem steadyNics_singleton {py : python.Runtime} {guest : Guest} {nic : DiscoveredInterface}
    (h : guest.interfaces = [nic]) (interfaces : List VMInterface) : SteadyNics py guest interfaces := by
  refine ⟨by simp [h], by simp [Unshared, h], ?_⟩
  rw [h]
  rintro _ hnic other hother hrenamed hkey
  rw [List.mem_singleton.mp hnic] at hrenamed hkey
  rw [List.mem_singleton.mp hother] at hkey
  exact absurd hkey (nic_id_of_renamed hrenamed)

end netbox_sync.network_writes
