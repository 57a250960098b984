import NetboxSync.Lib.Journal
import NetboxSync.Network.Requests

namespace netbox_sync.network_writes

open netbox network_preflight

/-- What one write request does to the content. NetBox creates a record under an id that no record has. -/
def Call.perform (store : Store) : Call → Store
  | .create_interface row =>
    if h : row.id ∈ store.interfaces.ids then store
    else { store with interfaces := store.interfaces.insert row h }
  | .update_interface id changes => (Session.update_interface ⟨store, []⟩ id changes).store
  | .set_primary_mac id mac_id => (Session.set_primary_mac ⟨store, []⟩ id mac_id).store
  | .create_mac row =>
    if h : row.id ∈ store.macs.ids then store else { store with macs := store.macs.insert row h }
  | .assign_mac id interface_id => (Session.assign_mac ⟨store, []⟩ id interface_id).store
  | .create_ip row =>
    if h : row.id ∈ store.ips.ids then store else { store with ips := store.ips.insert row h }
  | .assign_ip id interface_id => (Session.assign_ip ⟨store, []⟩ id interface_id).store
  | .set_primary_ip4 vm_id ip_id => (Session.set_primary_ip4 ⟨store, []⟩ vm_id ip_id).store

/-- The interface that a NIC of one of the contexts was matched with. -/
def Matched (contexts : List GuestContext) (x : VMInterface) : Prop :=
  ∃ g ∈ contexts, ∃ c ∈ g.nics, c.existing = some x

/-- The address is assigned to an interface of the VM. -/
def AssignedOn (store : Store) (ip_id vm_id : Int) : Prop :=
  ∃ ip interface, store.ips.get ip_id = some ip ∧ ip.assigned_object = owned_by interface.id ∧
    store.interfaces.get interface.id = some interface ∧ interface.virtual_machine = some vm_id

/-- A MAC or IP address record that had an owner is as it was; one without may have got one. -/
def OwnerKept {α : Type} (assigned_object : α → Assigned) (assign : Assigned → α → α) (row row' : α) : Prop :=
  row' = row ∨ (assigned_object row = {} ∧ ∃ interface_id, row' = assign (owned_by interface_id) row)

def MacKept : MACAddress → MACAddress → Prop :=
  OwnerKept MACAddress.assigned_object (fun owner row => { row with assigned_object := owner })

def IpKept : IPAddress → IPAddress → Prop :=
  OwnerKept IPAddress.assigned_object (fun owner row => { row with assigned_object := owner })

/-- An interface that no NIC was matched with is as it was. -/
def InterfaceKept (contexts : List GuestContext) (row row' : VMInterface) : Prop :=
  row' = row ∨ (Matched contexts row ∧ row'.virtual_machine = row.virtual_machine)

/-- A VM is as it was, or it had no primary address and now has one that is assigned to an interface of its own. -/
def PrimaryKept (store : Store) (row row' : VirtualMachine) : Prop :=
  row' = row ∨ (row.primary_ip4 = none ∧ selectel_authority.primary_owned row.custom_fields = false ∧
    ∃ ip_id, row' = { row with primary_ip4 := some ip_id } ∧ AssignedOn store ip_id row.id)

/-- An interface that was created for a NIC of one of the contexts. -/
def CreatedInterface (contexts : List GuestContext) (row : VMInterface) : Prop :=
  ∃ g ∈ contexts, ∃ c ∈ g.nics, c.existing = none ∧ row.virtual_machine = some g.netbox_vm.id ∧
    row.custom_fields = c.desired_custom_fields

/-- What a run with these contexts has kept of the content before it. -/
structure Frame (contexts : List GuestContext) (before store : Store) : Prop where
  sites : store.sites = before.sites
  clusters : store.clusters = before.clusters
  vms : before.vms.Keeps (PrimaryKept store) store.vms
  interfaces : before.interfaces.Keeps (InterfaceKept contexts) store.interfaces
  created : ∀ row ∈ store.interfaces.rows, before.interfaces.get row.id = none → CreatedInterface contexts row
  macs : before.macs.Keeps MacKept store.macs
  ips : before.ips.Keeps IpKept store.ips

/-- From one content to a later one, interfaces stay with their VMs and addresses with their owners. -/
structure Grown (store store' : Store) : Prop where
  interfaces : store.interfaces.Keeps (fun row row' => row'.virtual_machine = row.virtual_machine)
    store'.interfaces
  ips : store.ips.Keeps IpKept store'.ips

section

variable {contexts : List GuestContext} {before store store' : Store}

theorem owned_by_ne (interface_id : Int) : owned_by interface_id ≠ {} := by
  simp [owned_by]

theorem IpKept.refl (row : IPAddress) : IpKept row row := .inl rfl

theorem IpKept.trans {a b c : IPAddress} (h : IpKept a b) (h' : IpKept b c) : IpKept a c := by
  rcases h with rfl | ⟨hfree, interface_id, rfl⟩
  · exact h'
  · rcases h' with rfl | ⟨howned, _⟩
    · exact .inr ⟨hfree, interface_id, rfl⟩
    · exact absurd howned (owned_by_ne interface_id)

theorem Grown.refl (store : Store) : Grown store store :=
  ⟨fun _ row hget => ⟨row, hget, rfl⟩, Table.Keeps.refl IpKept.refl _⟩

theorem Grown.trans {later : Store} (h : Grown store store') (h' : Grown store' later) : Grown store later :=
  ⟨h.interfaces.trans (fun _ _ _ hvm hvm' => hvm'.trans hvm) h'.interfaces,
    h.ips.trans (fun _ _ _ => IpKept.trans) h'.ips⟩

theorem AssignedOn.mono {ip_id vm_id : Int} (h : AssignedOn store ip_id vm_id) (hgrown : Grown store store') :
    AssignedOn store' ip_id vm_id := by
  obtain ⟨ip, interface, hip, howner, hinterface, hvm⟩ := h
  obtain ⟨ip', hip', hkept⟩ := hgrown.ips ip_id ip hip
  obtain ⟨interface', hinterface', hvm'⟩ := hgrown.interfaces _ interface hinterface
  have hid : interface'.id = interface.id := (Table.mem_of_get hinterface').2
  rcases hkept with rfl | ⟨hfree, _⟩
  · refine ⟨ip', interface', hip', ?_, ?_, hvm'.trans hvm⟩
    · rw [hid]
      exact howner
    · rw [hid]
      exact hinterface'
  · rw [howner] at hfree
    exact absurd hfree (owned_by_ne _)

theorem PrimaryKept.mono (hgrown : Grown store store') {row row' : VirtualMachine}
    (h : PrimaryKept store row row') : PrimaryKept store' row row' := by
  rcases h with rfl | ⟨hunset, hfree, ip_id, hrow, hassigned⟩
  · exact .inl rfl
  · exact .inr ⟨hunset, hfree, ip_id, hrow, hassigned.mono hgrown⟩

theorem Frame.vms_mono (h : Frame contexts before store) (hgrown : Grown store store') :
    before.vms.Keeps (PrimaryKept store') store.vms :=
  h.vms.imp (fun _ _ => PrimaryKept.mono hgrown)

theorem frame_refl (contexts : List GuestContext) (store : Store) : Frame contexts store store where
  sites := rfl
  clusters := rfl
  vms := Table.Keeps.refl (fun _ => .inl rfl) _
  interfaces := Table.Keeps.refl (fun _ => .inl rfl) _
  created row hrow hnone := by
    have hget : store.interfaces.get row.id = some row := Table.get_of_mem hrow
    rw [hget] at hnone
    cases hnone
  macs := Table.Keeps.refl (fun _ => .inl rfl) _
  ips := Table.Keeps.refl (fun _ => .inl rfl) _

/-- A record that is unassigned now was unassigned before. -/
theorem OwnerKept.assign {α : Type} {assigned_object : α → Assigned} {assign : Assigned → α → α}
    (hassign : ∀ owner row, assigned_object (assign owner row) = owner) {row now : α}
    (h : OwnerKept assigned_object assign row now) (hfree : assigned_object now = {}) (interface_id : Int) :
    OwnerKept assigned_object assign row (assign (owned_by interface_id) now) := by
  rcases h with rfl | ⟨_, owner, rfl⟩
  · exact .inr ⟨hfree, interface_id, rfl⟩
  · rw [hassign] at hfree
    exact absurd hfree (owned_by_ne owner)

/-! ## One request -/

variable {py : python.Runtime} {fresh : Table.Fresh} {s s' : Session} {g : GuestContext} {c : NicContext}

theorem Request.performed (h : Request py fresh contexts s s') :
    ∃ call : Call, s'.calls = s.calls ++ [call] ∧ s'.store = call.perform s.store := by
  cases h with
  | create_interface => exact ⟨_, rfl, by rw [Call.perform, dif_neg (fresh.notMem _)]; rfl⟩
  | update_interface => exact ⟨_, rfl, rfl⟩
  | set_primary_mac => exact ⟨_, rfl, rfl⟩
  | create_mac => exact ⟨_, rfl, by rw [Call.perform, dif_neg (fresh.notMem _)]; rfl⟩
  | assign_mac => exact ⟨_, rfl, rfl⟩
  | create_ip => exact ⟨_, rfl, by rw [Call.perform, dif_neg (fresh.notMem _)]; rfl⟩
  | assign_ip => exact ⟨_, rfl, rfl⟩
  | set_primary_ip4 => exact ⟨_, rfl, rfl⟩

section

variable (h : Frame contexts before s.store)
include h

/-- The content after a request in which only the interfaces differ. -/
theorem Frame.of_interfaces {interfaces : Table VMInterface}
    (hkept : before.interfaces.Keeps (InterfaceKept contexts) interfaces)
    (hcreated : ∀ row ∈ interfaces.rows, before.interfaces.get row.id = none → CreatedInterface contexts row)
    (hvms : s.store.interfaces.Keeps (fun row row' => row'.virtual_machine = row.virtual_machine) interfaces) :
    Frame contexts before { s.store with interfaces := interfaces } ∧
      Grown s.store { s.store with interfaces := interfaces } := by
  have hgrown : Grown s.store { s.store with interfaces := interfaces } := ⟨hvms, Table.Keeps.refl IpKept.refl _⟩
  exact ⟨⟨h.sites, h.clusters, h.vms_mono hgrown, hkept, hcreated, h.macs, h.ips⟩, hgrown⟩

theorem Frame.create_interface (hg : g ∈ contexts) (hc : c ∈ g.nics) (hnew : c.existing = none) (name : String) :
    Frame contexts before (s.create_interface fresh g.netbox_vm.id name c.desired_custom_fields).1.store ∧
      Grown s.store (s.create_interface fresh g.netbox_vm.id name c.desired_custom_fields).1.store := by
  have hsame : s.store.interfaces.Keeps (fun row row' => row'.virtual_machine = row.virtual_machine)
      s.store.interfaces := fun _ row hget => ⟨row, hget, rfl⟩
  apply h.of_interfaces (h.interfaces.insert (fresh.notMem _)) ?_ (hsame.insert (fresh.notMem _))
  intro row hrow hnone
  rcases List.mem_append.mp hrow with hold | hlast
  · exact h.created row hold hnone
  · rw [List.mem_singleton.mp hlast]
    exact ⟨g, hg, c, hc, hnew, rfl, rfl⟩

/-- A change of one interface that a NIC was matched with, or that was created in the run. -/
theorem Frame.modify_interface {id : Int} (f : VMInterface → VMInterface) (hf : ∀ row, (f row).id = row.id)
    (hvm : ∀ row, (f row).virtual_machine = row.virtual_machine)
    (hmatched : ∀ x, before.interfaces.get id = some x → Matched contexts x)
    (hfields : before.interfaces.get id = none → ∀ row, (f row).custom_fields = row.custom_fields) :
    Frame contexts before { s.store with interfaces := s.store.interfaces.modify id f hf } ∧
      Grown s.store { s.store with interfaces := s.store.interfaces.modify id f hf } := by
  have hsame : s.store.interfaces.Keeps (fun row row' => row'.virtual_machine = row.virtual_machine)
      s.store.interfaces := fun _ row hget => ⟨row, hget, rfl⟩
  apply h.of_interfaces
  · apply h.interfaces.modify
    intro row now hrow _ hkept
    refine .inr ⟨hmatched row hrow, ?_⟩
    rcases hkept with rfl | ⟨_, hvirtual⟩
    · exact hvm now
    · exact (hvm now).trans hvirtual
  · intro row hrow hnone
    obtain ⟨old, hold, rfl⟩ := List.mem_map.mp hrow
    by_cases hid : Row.id old = id
    · rw [if_pos hid] at hnone ⊢
      rw [hf old] at hnone
      obtain ⟨g, hg, c, hc, hnew, hvirtual, hcustom⟩ := h.created old hold hnone
      rw [show old.id = id from hid] at hnone
      exact ⟨g, hg, c, hc, hnew, (hvm old).trans hvirtual, (hfields hnone old).trans hcustom⟩
    · rw [if_neg hid] at hnone ⊢
      exact h.created old hold hnone
  · apply hsame.modify
    intro row now hrow hnow hvirtual
    exact (hvm now).trans hvirtual

theorem Frame.of_macs {macs : Table MACAddress} (hkept : before.macs.Keeps MacKept macs) :
    Frame contexts before { s.store with macs := macs } ∧ Grown s.store { s.store with macs := macs } := by
  have hgrown : Grown s.store { s.store with macs := macs } :=
    ⟨fun _ row hget => ⟨row, hget, rfl⟩, Table.Keeps.refl IpKept.refl _⟩
  exact ⟨⟨h.sites, h.clusters, h.vms_mono hgrown, h.interfaces, h.created, hkept, h.ips⟩, hgrown⟩

theorem Frame.of_ips {ips : Table IPAddress} (hkept : before.ips.Keeps IpKept ips)
    (hnow : s.store.ips.Keeps IpKept ips) :
    Frame contexts before { s.store with ips := ips } ∧ Grown s.store { s.store with ips := ips } := by
  have hgrown : Grown s.store { s.store with ips := ips } := ⟨fun _ row hget => ⟨row, hget, rfl⟩, hnow⟩
  exact ⟨⟨h.sites, h.clusters, h.vms_mono hgrown, h.interfaces, h.created, h.macs, hkept⟩, hgrown⟩

end

/-- The record of the id, where it has no owner now. -/
theorem unassigned_of_any {α : Type} [Row α] {table : Table α} {assigned_object : α → Assigned} {id : Int}
    (h : (table.get id).any (fun row => assigned_object row = {}) = true) {now : α}
    (hnow : table.get id = some now) : assigned_object now = {} := by
  rw [hnow, Option.any_some, decide_eq_true_eq] at h
  exact h

theorem Frame.assign_mac (h : Frame contexts before s.store) {id : Int} (interface_id : Int)
    (hfree : (s.store.macs.get id).any (fun row => row.assigned_object = {}) = true) :
    Frame contexts before (s.assign_mac id interface_id).store ∧
      Grown s.store (s.assign_mac id interface_id).store := by
  apply h.of_macs
  apply h.macs.modify
  intro row now _ hnow hkept
  exact hkept.assign (fun _ _ => rfl) (unassigned_of_any hfree hnow) interface_id

theorem Frame.assign_ip (h : Frame contexts before s.store) {id : Int} (interface_id : Int)
    (hfree : (s.store.ips.get id).any (fun row => row.assigned_object = {}) = true) :
    Frame contexts before (s.assign_ip id interface_id).store ∧
      Grown s.store (s.assign_ip id interface_id).store := by
  apply h.of_ips
  · apply h.ips.modify
    intro row now _ hnow hkept
    exact hkept.assign (fun _ _ => rfl) (unassigned_of_any hfree hnow) interface_id
  · apply (Table.Keeps.refl IpKept.refl s.store.ips).modify
    intro row now _ hnow hkept
    exact hkept.assign (fun _ _ => rfl) (unassigned_of_any hfree hnow) interface_id

/-- The VM had no primary address and gets one of its own. -/
theorem Frame.set_primary_ip4 (h : Frame contexts before s.store) {vm : VirtualMachine} {ip_id : Int}
    (hvm : before.vms.get vm.id = some vm) (hunset : vm.primary_ip4 = none)
    (hfree : selectel_authority.primary_owned vm.custom_fields = false) (hassigned : AssignedOn s.store ip_id vm.id) :
    Frame contexts before (s.set_primary_ip4 vm.id ip_id).store ∧
      Grown s.store (s.set_primary_ip4 vm.id ip_id).store := by
  have hgrown : Grown s.store (s.set_primary_ip4 vm.id ip_id).store :=
    ⟨fun _ row hget => ⟨row, hget, rfl⟩, Table.Keeps.refl IpKept.refl _⟩
  refine ⟨⟨h.sites, h.clusters, ?_, h.interfaces, h.created, h.macs, h.ips⟩, hgrown⟩
  apply (h.vms_mono hgrown).modify (fun row => { row with primary_ip4 := some ip_id }) (fun _ => rfl)
  intro row now hrow _ hkept
  obtain rfl : vm = row := by
    rw [hvm] at hrow
    exact Option.some.inj hrow
  refine .inr ⟨hunset, hfree, ip_id, ?_, hassigned⟩
  rcases hkept with rfl | ⟨_, _, old, rfl, _⟩ <;> rfl

end

end netbox_sync.network_writes
