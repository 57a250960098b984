import NetboxSync.Lib.Ip.Interface
import NetboxSync.Lib.Json.Dumps
import NetboxSync.Provider.Hardware

open json

namespace netbox_guard

open netbox_sync.hardware_identity

/-- The kinds of native objects a provider's server can be. -/
inductive Resource where
  | device
  | vm
deriving DecidableEq, Repr

/-- The interface an integer stands for. -/
def interface_of_int (n : Int) : Option ipaddress.Interface :=
  if n < 0 then none
  else
    let n := n.toNat
    if n < 2 ^ 32 then some (.v4 [n / 2 ^ 24 % 256, n / 2 ^ 16 % 256, n / 2 ^ 8 % 256, n % 256] 32)
    else if n < 2 ^ 128 then
      some (.v6 ((List.range 8).map (fun i => n / 2 ^ (16 * (7 - i)) % 65536)) none 128)
    else none

/-- `ipaddress.ip_interface(value)`; the text of a list or a dictionary is no address. -/
def ip_interface_of : Value → Option ipaddress.Interface
  | .str text => ipaddress.ip_interface text
  | .int n => interface_of_int n
  | .bool b => interface_of_int (if b then 1 else 0)
  | _ => none

/-- `str(interface.ip)` -/
def ip_text : ipaddress.Interface → String
  | .v4 octets _ => String.ofList (ipaddress.v4_to_string octets)
  | .v6 hextets none _ => String.ofList (ipaddress.v6_to_string hextets)
  | .v6 hextets (some scope) _ => String.ofList (ipaddress.v6_to_string hextets ++ '%' :: scope)

/-- `interface.ip.is_global` -/
def ip_is_global : ipaddress.Interface → Bool
  | .v4 octets _ => (ipaddress.Address.v4 octets).is_global
  | .v6 hextets _ _ => (ipaddress.Address.v6 hextets).is_global

namespace provider_policy

def digest (rt : Runtime) (value : Value) : String := rt.sha256_hexdigest (dumps_sorted .compact value)

def IDENTITY_FIELDS : List String := ["account", "kind", "native_id", "project", "region"]

/-- `[a-zA-Z0-9_.:-]` -/
def isIdentityChar (c : Char) : Bool := c.isAlphanum || ['_', '.', ':', '-'].contains c

/-- The key of a provider's resource that is to be a native object of the kind. -/
def identity (value : Value) (resource : Resource) : Except ReadError String :=
  match value with
  | .obj fields =>
    if !(fields.map Prod.fst).all IDENTITY_FIELDS.contains || !IDENTITY_FIELDS.all (fields.map Prod.fst).contains then
      .error (.value_error "PROVIDER_IDENTITY_INVALID")
    else
      match dict.get fields "account", dict.get fields "kind", dict.get fields "native_id",
          dict.get fields "project", dict.get fields "region" with
      | some (.str account), some (.str kind), some (.str native_id), some (.str project), some (.str region) =>
        if [account, kind, native_id, project, region].any (fun item =>
            decide (128 < item.length) || !item.toList.all isIdentityChar) || account = "" || native_id = "" then
          .error (.value_error "PROVIDER_IDENTITY_INVALID")
        else
          let key := match resource with
            | .device => if kind = "dedicated" then some ["selectel", account, "dedicated", native_id] else none
            | .vm => if kind = "cloud_vm" && project ≠ "" && region ≠ "" then
                some ["selectel", account, project, region, "cloud_vm", native_id] else none
          match key with
          | none => .error (.value_error "PROVIDER_TARGET_INVALID")
          | some key =>
            let encoded := dumps .compact (.arr (key.map .str))
            if 512 < encoded.length then .error (.value_error "PROVIDER_IDENTITY_INVALID") else .ok encoded
      | _, _, _, _, _ => .error (.value_error "PROVIDER_IDENTITY_INVALID")
  | _ => .error (.value_error "PROVIDER_IDENTITY_INVALID")

end provider_policy

namespace provider_guest_evidence

/-- A WAN address that a guest was seen to hold, and the host it runs on. -/
structure GuestWan where
  address : String
  vm_id : Int
  host_device_id : Int
  interface_id : Int
  collected_at : String
deriving DecidableEq

def isLowerHex (c : Char) : Bool := c.isDigit || ('a' ≤ c && c ≤ 'f')

def mac : Value → Option String
  | .str value =>
    let value := (value.toList.filter (fun c => c ≠ ':' && c ≠ '-')).map Char.toLower
    if value.length = 12 && value.all isLowerHex && value.any (· ≠ '0') then some (String.ofList value) else none
  | _ => none

def SNAPSHOT_SCHEMA : String := "netbox-sync.pfsense.snapshot.v1"

/-- The addresses of one interface row of the snapshot. -/
def wan_addresses (interfaces : Int → Option String) : Value → List (Int × String)
  | .obj row =>
    match dict.get row "status", dict.get row "configuration", dict.get row "runtime", dict.get row "match" with
    | some (.str "MATCHED"), some (.obj config), some (.obj runtime), some (.obj found) =>
      match dict.get config "id", dict.get config "enabled", dict.get found "id", dict.get runtime "addresses" with
      | some (.str "wan"), some (.bool true), some (.int interface_id), some (.arr addresses) =>
        let observed_mac := mac ((dict.get runtime "mac").getD .null)
        if observed_mac = none || observed_mac ≠ (interfaces interface_id).bind (fun text => mac (.str text)) ||
            decide (512 < addresses.length) then []
        else addresses.filterMap (fun address =>
          match address with
          | .obj fields =>
            ((dict.get fields "address").bind ip_interface_of).bind (fun interface =>
              if ip_is_global interface then some (interface_id, ip_text interface) else none)
          | _ => none)
      | _, _, _, _ => []
    | _, _, _, _ => []
  | _ => []

/-- `guest_wans(snapshot, vm_id, host_id, interfaces, now)` -/
def guest_wans (rt : Runtime) (snapshot : Value) (vm_id host_id : Int) (interfaces : Int → Option String)
    (now : Int) : List GuestWan :=
  match snapshot with
  | .obj fields =>
    if dict.get fields "schema" ≠ some (.str SNAPSHOT_SCHEMA) ||
        !((dict.get fields "vm_id").getD .null).eq (.int vm_id) || host_id = 0 then []
    else
      match dict.get fields "collected_at", dict.get fields "interfaces" with
      | some (.str collected_at), some (.arr rows) =>
        match rt.fromisoformat (zoned collected_at) with
        | none => []
        | some stamp =>
          if !(-minutes 5 ≤ now - stamp && now - stamp ≤ hours 48) || decide (512 < rows.length) then []
          else ((rows.flatMap (wan_addresses interfaces)).map (fun found =>
            ⟨found.2, vm_id, host_id, found.1, rt.isoformat stamp⟩)).eraseDups
      | _, _ => []
  | _ => []

end provider_guest_evidence

namespace provider_automation

def text_of : Option Value → Option String
  | some (.str text) => if text = "" then none else some text
  | _ => none

/-- `value.get(first) or value.get(second)` -/
def either (fields : Fields) (first second : String) : Option Value :=
  match dict.get fields first with
  | some value => if value.truthy then some value else dict.get fields second
  | none => dict.get fields second

/-- `snapshot.get("sections", {}).get(name, {})` -/
def section_of (snapshot : Value) (name : String) : Except ReadError Value := do
  let sections := (← lookup snapshot "sections").getD (.obj [])
  .ok ((← lookup sections name).getD (.obj []))

/-- The section was collected just now. -/
def collected (part : Value) : Except ReadError Bool := do
  let status ← lookup part "status"
  let retained := (← lookup part "retained").getD .null
  .ok (status = some (.str "collected") && !retained.truthy)

/-- The placement reported with the resource itself. -/
def reported_placement (part : Value) : Except ReadError (Option (String × String × Bool)) := do
  if !(← collected part) then .ok none
  else
    match (← lookup part "data").getD .null with
    | .obj value =>
      .ok (match text_of (either value "uuid" "OS-EXT-AZ:availability_zone"),
          text_of (either value "name" "OS-EXT-AZ:availability_zone") with
        | some key, some label => some (key, label, false)
        | _, _ => none)
    | value => if value.truthy then .error .attribute_error else .ok none

def placement (snapshot : Value) : Except ReadError (Option (String × String × Bool)) := do
  let part ← section_of snapshot "placement"
  match ← reported_placement part with
  | some found => .ok (some found)
  | none =>
    let ident ← index snapshot "identity"
    let resource ← section_of snapshot "resource"
    let region ← lookup ident "region"
    let kind ← lookup ident "kind"
    let status ← lookup part "status"
    let retained := (← lookup part "retained").getD .null
    let fresh ← collected resource
    .ok (match text_of region with
      | some region =>
        if kind = some (.str "cloud_vm") && (status = some (.str "not_reported") || status = some (.str "collected")) &&
            !retained.truthy && fresh then
          some ("region:" ++ region, region ++ " — зона не указана", true)
        else none
      | none => none)

/-- A UUID other than zero, in its canonical text. -/
def canonical_uuid (rt : Runtime) : Value → Bool
  | .str value => rt.uuid value = some value && value.toList.any (fun c => c ≠ '0' && c ≠ '-')
  | _ => false

end provider_automation

end netbox_guard
