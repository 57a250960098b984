import NetboxSync.Esxi.Catalog
import NetboxSync.Lib.Except

open json

namespace netbox_sync.host_primary_ip

open discovery netbox source_identity

/-- `connection_management`: where a source reached its host. -/
structure Management where
  interface : String
  address : ipaddress.Interface
  dns_name : String

/-- `dcim.interfaces` -/
structure Nic where
  id : Int
  device : Option Int
  name : String
  type : String
  enabled : Bool
  mgmt_only : Bool
  custom_fields : Fields

/-- `ipam.ip_addresses` -/
structure HostIp where
  id : Int
  address : ipaddress.Interface
  vrf : Option Int
  status : String
  assigned_object : Assigned
  dns_name : String

instance : Row Nic := ⟨Nic.id⟩
instance : Row HostIp := ⟨HostIp.id⟩

/-- The content of NetBox, as far as the writer reads and writes it. -/
structure Content where
  devices : Table Device
  interfaces : Table Nic
  ip_addresses : Table HostIp

structure PrimaryTarget where
  device : Device
  nic : Option Nic
  ip : Option HostIp
  identity : SourceIdentity

/-- A record of which there may be no second one. -/
def unambiguous {α : Type} (message : String) : List α → Except String (Option α)
  | [] => .ok none
  | [row] => .ok (some row)
  | _ => .error message

/-- `interface.ip` -/
def ip_of : ipaddress.Interface → ipaddress.Interface
  | .v4 octets _ => .v4 octets 32
  | .v6 hextets scope _ => .v6 hextets scope 128

/-- What the matchers look at. -/
def evidence (device : Device) : Device := { device with primary_ip4 := none }

def Nic.owned (identity : SourceIdentity) (nic : Nic) : Bool :=
  ((dict.get nic.custom_fields "sync_identities").getD .null).eq (.arr [identity.to_record])

variable (matching : List Device → DiscoveredHost → Except String (List Device))
  (fresh : Table.Fresh) (s : Content) (host : DiscoveredHost) (wanted : Management) (target : PrimaryTarget)

def management_devices : Except String (List Device) :=
  (matching (s.devices.rows.map evidence) host).map
    (fun found => found.filterMap (fun device => s.devices.get device.id))

def management_nics (device : Int) : List Nic :=
  s.interfaces.rows.filter (fun nic => nic.device = some device && nic.name = wanted.interface)

def management_ips : List HostIp := s.ip_addresses.rows.filter (fun ip => ip_of ip.address = ip_of wanted.address)

def nic_identity : Except String SourceIdentity :=
  SourceIdentity.build "esxi" host.source_instance "host-nic" (host.source_id ++ ":" ++ wanted.interface)

def HostIp.assigned (nic : Option Nic) (ip : HostIp) : Bool :=
  ip.vrf = none && ip.address.str = wanted.address.str && nic.isSome &&
    ip.assigned_object = ⟨some "dcim.interface", nic.map Nic.id⟩

def _management_target : Except String PrimaryTarget := do
  let devices ← management_devices matching s host
  let [device] := devices | .error "Management IP requires one source-owned host"
  let identity ← nic_identity host wanted
  let nic ← unambiguous "Ambiguous management interface" (management_nics s wanted device.id)
  .require (nic.all (Nic.owned identity)) "Management interface exists without matching source ownership"
  let ip ← unambiguous "Management IP is ambiguous across NetBox scopes" (management_ips s wanted)
  .require (ip.all (HostIp.assigned wanted nic)) "Management IP already exists with a different assignment or prefix"
  .require (device.primary_ip4 = none || device.primary_ip4 = ip.map HostIp.id)
    "Existing primary IPv4 requires operator review; not overwritten"
  return ⟨device, nic, ip, identity⟩

def new_nic : Nic :=
  ⟨fresh.next s.interfaces.ids, some target.device.id, wanted.interface, "virtual", true, true,
    [("sync_identities", .arr [target.identity.to_record])]⟩

def new_ip (nic : Nic) : HostIp :=
  ⟨fresh.next s.ip_addresses.ids, wanted.address, none, "active", ⟨some "dcim.interface", some nic.id⟩, wanted.dns_name⟩

/-- The interface, which is created where it is missing. -/
def ensure_nic : Content × Nic :=
  ({ s with interfaces := match target.nic with
    | some _ => s.interfaces
    | none => s.interfaces.insert (new_nic fresh s wanted target) (fresh.notMem _) },
    target.nic.getD (new_nic fresh s wanted target))

def ensure_ip (nic : Nic) : Content × HostIp :=
  ({ s with ip_addresses := match target.ip with
    | some _ => s.ip_addresses
    | none => s.ip_addresses.insert (new_ip fresh s wanted nic) (fresh.notMem _) },
    target.ip.getD (new_ip fresh s wanted nic))

def ensure_primary (ip : HostIp) : Content :=
  if target.device.primary_ip4 = some ip.id then s
  else { s with devices := s.devices.updateWhere (fun row => row.id = target.device.id)
                  (fun row => { row with primary_ip4 := some ip.id }) (fun _ => rfl) }

/-- The content after each part of the writer, the last of them when it returns. -/
def _write_management_target : List Content :=
  let (s₁, nic) := ensure_nic fresh s wanted target
  let (s₂, ip) := ensure_ip fresh s₁ wanted target nic
  [s₁, s₂, ensure_primary s₂ target ip]

/-- The stage for a host that was reached by a known address. -/
def apply_esxi_primary : Except String (List Content) :=
  (_management_target matching s host wanted).map (_write_management_target fresh s wanted)

/-- The writer takes the target from the content. -/
structure Ready : Prop where
  device : management_devices matching s host = .ok [target.device]
  identity : nic_identity host wanted = .ok target.identity
  nic : management_nics s wanted target.device.id = target.nic.toList
  owned : target.nic.all (Nic.owned target.identity) = true
  ip : management_ips s wanted = target.ip.toList
  assigned : target.ip.all (HostIp.assigned wanted target.nic) = true
  primary : target.device.primary_ip4 = none ∨ target.device.primary_ip4 = target.ip.map HostIp.id

variable {matching fresh s host wanted target}

theorem unambiguous_eq_ok_iff {α : Type} {message : String} {rows : List α} {row : Option α} :
    unambiguous message rows = .ok row ↔ rows = row.toList := by
  unfold unambiguous
  split <;> cases row <;> simp_all

theorem management_target_ok_iff : _management_target matching s host wanted = .ok target ↔
    Ready matching s host wanted target := by
  simp only [_management_target, Except.bind_eq_ok_iff]
  constructor
  · rintro ⟨devices, hdevices, h⟩
    split at h
    · simp only [Except.bind_eq_ok_iff, unambiguous_eq_ok_iff, Except.require_eq_ok_iff] at h
      obtain ⟨identity, hidentity, nic, hnic, _, howned, ip, hip, _, hassigned, _, hprimary, hreturn⟩ := h
      cases hreturn
      exact ⟨hdevices, hidentity, hnic, howned, hip, hassigned, by simpa using hprimary⟩
    · cases h
  · rintro ⟨hdevice, hidentity, hnic, howned, hip, hassigned, hprimary⟩
    refine ⟨_, hdevice, ?_⟩
    simp only [Except.bind_eq_ok_iff, unambiguous_eq_ok_iff, Except.require_eq_ok_iff]
    exact ⟨_, hidentity, _, hnic, (), howned, _, hip, (), hassigned, (), by simpa using hprimary, rfl⟩

section

variable (h : Ready matching s host wanted target)
include h

theorem Ready.nic_ensured : Ready matching (ensure_nic fresh s wanted target).1 host wanted
    { target with nic := some (ensure_nic fresh s wanted target).2 } := by
  cases hnic : target.nic with
  | some nic =>
    simp only [ensure_nic, hnic, Option.getD_some]
    rw [← hnic]
    exact h
  | none =>
    -- An address is never assigned to a missing interface, so there is none yet.
    have hip : target.ip = none := by
      cases hip : target.ip with
      | none => rfl
      | some ip => simpa [hip, hnic, HostIp.assigned] using h.assigned
    have hnics := h.nic
    rw [hnic] at hnics
    simp only [ensure_nic, hnic]
    refine ⟨h.device, h.identity, ?_, ?_, h.ip, by simp [hip], h.primary⟩
    · simp only [management_nics, Table.insert, List.filter_append] at hnics ⊢
      rw [hnics]
      simp [new_nic]
    · simp [Nic.owned, new_nic, dict.get]

theorem Ready.ip_ensured {nic : Nic} (hnic : target.nic = some nic) :
    Ready matching (ensure_ip fresh s wanted target nic).1 host wanted
      { target with ip := some (ensure_ip fresh s wanted target nic).2 } := by
  cases hip : target.ip with
  | some ip =>
    simp only [ensure_ip, hip, Option.getD_some]
    rw [← hip]
    exact h
  | none =>
    have hips := h.ip
    rw [hip] at hips
    simp only [ensure_ip, hip]
    refine ⟨h.device, h.identity, h.nic, h.owned, ?_, ?_, ?_⟩
    · simp only [management_ips, Table.insert, List.filter_append] at hips ⊢
      rw [hips]
      simp [new_ip]
    · simp [HostIp.assigned, new_ip, hnic]
    · left
      simpa [hip] using h.primary

/-- The device is matched as before, now with its primary address. -/
theorem Ready.primary_ensured {ip : HostIp} (hip : target.ip = some ip) :
    Ready matching (ensure_primary s target ip) host wanted
      { target with device := { target.device with primary_ip4 := some ip.id } } := by
  refine ⟨?_, h.identity, ?_, h.owned, ?_, h.assigned, .inr (by simp [hip])⟩
  · unfold ensure_primary
    split
    · next hprimary =>
      rw [← hprimary]
      exact h.device
    · obtain ⟨found, hfound, hdevice⟩ := Except.map_eq_ok_iff.mp h.device
      refine Except.map_eq_ok_iff.mpr ⟨found, ?_, ?_⟩
      · rw [← hfound, Table.updateWhere, List.map_map]
        congr 2
        funext row
        simp only [Function.comp]
        split <;> rfl
      · simp only [Table.get_updateWhere]
        rw [← List.map_filterMap, hdevice]
        simp
  · rw [← h.nic]
    unfold ensure_primary
    split <;> rfl
  · rw [← h.ip]
    unfold ensure_primary
    split <;> rfl

theorem Ready.device_mem : target.device ∈ s.devices.rows := by
  obtain ⟨found, _, hdevice⟩ := Except.map_eq_ok_iff.mp h.device
  obtain ⟨device, _, hget⟩ := List.mem_filterMap.mp (hdevice ▸ List.mem_singleton_self target.device)
  exact (Table.mem_of_get hget).1

theorem Ready.applied : apply_esxi_primary matching fresh s host wanted =
    .ok (_write_management_target fresh s wanted target) :=
  Except.map_eq_ok_iff.mpr ⟨target, management_target_ok_iff.mpr h, rfl⟩

end

/-- An ESXi host without a management interface. -/
def bareHost : Content where
  devices := ⟨[{ id := 1, name := none, site := none }], by simp⟩
  interfaces := ⟨[], List.nodup_nil⟩
  ip_addresses := ⟨[], List.nodup_nil⟩

def esxiHost : DiscoveredHost := { (default : DiscoveredHost) with source_instance := "esxi-1" }

def vmk0 : Management := ⟨"vmk0", .v4 [10, 0, 0, 1] 24, ""⟩

end netbox_sync.host_primary_ip
