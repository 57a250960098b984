import NetboxSync.Identity.Ranking
import NetboxSync.Lib.Table

open json

namespace netbox_sync.netbox

structure Site where
  id : Int
  slug : String
  name : String
deriving DecidableEq, Repr

structure Cluster where
  id : Int
  name : String
  scope_type : Option String := none
  scope_id : Option Int := none
deriving DecidableEq, Repr

structure VirtualMachine where
  id : Int
  name : String
  cluster : Option Int
  custom_fields : Fields := []
  primary_ip4 : Option Int := none
deriving DecidableEq, Repr

structure VMInterface where
  id : Int
  name : String
  virtual_machine : Option Int
  enabled : Bool := true
  custom_fields : Fields := []
  primary_mac_address : Option Int := none
deriving DecidableEq, Repr

/-- `_assigned_object(record)`: the type and the id of the owner, each of them possibly missing. -/
structure Assigned where
  type : Option String := none
  id : Option Int := none
deriving DecidableEq, Repr

structure MACAddress where
  id : Int
  mac_address : Option String
  assigned_object : Assigned := {}
deriving DecidableEq, Repr

structure IPAddress where
  id : Int
  address : Option String
  vrf : Option Int := none
  status : String := "active"
  assigned_object : Assigned := {}
deriving DecidableEq, Repr

instance : Row Site := ⟨Site.id⟩
instance : Row Cluster := ⟨Cluster.id⟩
instance : Row VirtualMachine := ⟨VirtualMachine.id⟩
instance : Row VMInterface := ⟨VMInterface.id⟩
instance : Row MACAddress := ⟨MACAddress.id⟩
instance : Row IPAddress := ⟨IPAddress.id⟩

/-- The content of a NetBox, as far as guest networking reads and writes it. -/
structure Store where
  sites : Table Site
  clusters : Table Cluster
  vms : Table VirtualMachine
  interfaces : Table VMInterface
  macs : Table MACAddress
  ips : Table IPAddress

open source_identity

/-- `find_vm_sync_identity_matches` for a machine and `find_lxc_sync_identity_matches` for a container. -/
def find_guest_matches (repr : Value → String) (vms : List VirtualMachine) (guest : Guest) :
    Except String (List VirtualMachine) :=
  select_best_identity_matches vms (fun record => guest_match_rank repr record.custom_fields guest)

end netbox_sync.netbox
