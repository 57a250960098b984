import Mathlib.Algebra.Group.Nat.Defs
import Mathlib.Data.List.Basic

namespace ipaddress

/-- The value `int(text, 10)` of ASCII digits; `int` refuses texts of more than 4300 digits. -/
def parseDecimal (text : List Char) : Option Nat :=
  if text = [] ∨ ¬ text.all Char.isDigit ∨ text.length > 4300 then none
  else some (Nat.ofDigitChars 10 text 0)

def hexDigit (c : Char) : Option Nat :=
  if '0' ≤ c ∧ c ≤ '9' then some (c.toNat - '0'.toNat)
  else if 'a' ≤ c ∧ c ≤ 'f' then some (c.toNat - 'a'.toNat + 10)
  else if 'A' ≤ c ∧ c ≤ 'F' then some (c.toNat - 'A'.toNat + 10)
  else none

/-- The value of hexadecimal digits read after a number already read. -/
def parseHex (sofar : Nat) : List Char → Option Nat
  | [] => some sofar
  | c :: text => (hexDigit c).bind (fun digit => parseHex (16 * sofar + digit) text)

/-- `_parse_octet` -/
def parse_octet (text : List Char) : Option Nat :=
  if text.length > 3 ∨ (text ≠ ['0'] ∧ text.head? = some '0') then none
  else (parseDecimal text).bind (fun octet => if octet > 255 then none else some octet)

/-- The four octets of a dotted quad. -/
def v4_from_string (text : List Char) : Option (List Nat) :=
  let octets := text.splitOn '.'
  if octets.length ≠ 4 then none else octets.mapM parse_octet

/-- `_prefix_from_prefix_string` -/
def prefix_from_prefix_string (max_prefixlen : Nat) (text : List Char) : Option Nat :=
  (parseDecimal text).bind (fun len => if len > max_prefixlen then none else some len)

/-- The number of leading ones of a 32-bit netmask. -/
def prefix_from_ip_int (mask : Nat) : Option Nat := (List.range 33).find? (fun len => mask = 2 ^ 32 - 2 ^ (32 - len))

/-- `_prefix_from_ip_string`: a netmask, else a hostmask. -/
def prefix_from_ip_string (text : List Char) : Option Nat :=
  (v4_from_string text).bind (fun octets =>
    let mask := octets.foldl (fun sofar octet => 256 * sofar + octet) 0
    (prefix_from_ip_int mask).or (prefix_from_ip_int (2 ^ 32 - 1 - mask)))

/-- `_parse_hextet` -/
def parse_hextet (text : List Char) : Option Nat := if text = [] ∨ text.length > 4 then none else parseHex 0 text

/-- An IPv4-style last part stands for two hextets. -/
def expand_v4_suffix (parts : List (List Char)) : Option (List (List Char)) :=
  let last := parts.getLastD []
  if '.' ∈ last then
    (v4_from_string last).map (fun octets =>
      parts.dropLast ++ [Nat.toDigits 16 (256 * octets.getD 0 0 + octets.getD 1 0),
        Nat.toDigits 16 (256 * octets.getD 2 0 + octets.getD 3 0)])
  else some parts

/-- The places of empty parts, the first and the last part aside. -/
def skip_indexes (parts : List (List Char)) : List Nat :=
  (parts.tail.dropLast.zipIdx 1).filterMap (fun part => if part.1 = [] then some part.2 else none)

/-- An empty part at an end of the address must belong to `::`. -/
def trim_end (side : List (List Char)) (outer : Option (List Char)) : Option (List (List Char)) :=
  if outer = some [] then (if side.length = 1 then some [] else none) else some side

/-- `_BaseV6._ip_int_from_string`, as the eight hextets. -/
def v6_from_string (text : List Char) : Option (List Nat) :=
  let parts := text.splitOn ':'
  if parts.length < 3 then none
  else
    (expand_v4_suffix parts).bind (fun parts =>
      if parts.length > 9 then none
      else
        match skip_indexes parts with
        | [] => if parts.length ≠ 8 then none else parts.mapM parse_hextet
        | [skip] =>
          (trim_end (parts.take skip) parts.head?).bind (fun hi =>
            (trim_end (parts.drop (skip + 1)) parts.getLast?).bind (fun lo =>
              if 8 < hi.length + lo.length + 1 then none
              else
                (hi.mapM parse_hextet).bind (fun high =>
                  (lo.mapM parse_hextet).map (fun low =>
                    high ++ List.replicate (8 - (hi.length + lo.length)) 0 ++ low))))
        | _ => none)

/-- `_split_scope_id`: the address and what follows its only `%`. -/
def split_scope_id (text : List Char) : Option (List Char × Option (List Char)) :=
  match text.splitOn '%' with
  | [address] => some (address, none)
  | [address, scope] => if scope = [] then none else some (address, some scope)
  | _ => none

inductive Interface where
  | v4 (octets : List Nat) (prefixlen : Nat)
  | v6 (hextets : List Nat) (scope : Option (List Char)) (prefixlen : Nat)
deriving DecidableEq, Repr

/-- The address text and the mask text of `_split_optional_netmask`. -/
def split_addr_mask (text : List Char) : Option (List Char × Option (List Char)) :=
  match text.splitOn '/' with
  | [address] => some (address, none)
  | [address, mask] => some (address, some mask)
  | _ => none

def v4_interface (text : List Char) : Option Interface :=
  (split_addr_mask text).bind (fun (address, mask) =>
    (v4_from_string address).bind (fun octets =>
      match mask with
      | none => some (.v4 octets 32)
      | some mask =>
        ((prefix_from_prefix_string 32 mask).or (prefix_from_ip_string mask)).map (.v4 octets)))

def v6_interface (text : List Char) : Option Interface :=
  (split_addr_mask text).bind (fun (address, mask) =>
    (split_scope_id address).bind (fun (address, scope) =>
      (v6_from_string address).bind (fun hextets =>
        match mask with
        | none => some (.v6 hextets scope 128)
        | some mask => (prefix_from_prefix_string 128 mask).map (.v6 hextets scope))))

/-- `ip_interface(text)`, or nothing where it raises `ValueError`. -/
def ip_interface (text : String) : Option Interface := (v4_interface text.toList).or (v6_interface text.toList)

def Interface.version : Interface → Nat
  | .v4 _ _ => 4
  | .v6 _ _ _ => 6

/-- 127.0.0.0/8 and ::1 -/
def Interface.is_loopback : Interface → Bool
  | .v4 octets _ => octets.take 1 = [127]
  | .v6 hextets _ _ => hextets = [0, 0, 0, 0, 0, 0, 0, 1]

/-- 169.254.0.0/16 and fe80::/10 -/
def Interface.is_link_local : Interface → Bool
  | .v4 octets _ => octets.take 2 = [169, 254]
  | .v6 hextets _ _ => (hextets.take 1).map (· / 64) = [0xfe80 / 64]

/-- 224.0.0.0/4 and ff00::/8 -/
def Interface.is_multicast : Interface → Bool
  | .v4 octets _ => (octets.take 1).map (· / 16) = [224 / 16]
  | .v6 hextets _ _ => (hextets.take 1).map (· / 256) = [0xff00 / 256]

def Interface.is_unspecified : Interface → Bool
  | .v4 octets _ => octets = [0, 0, 0, 0]
  | .v6 hextets _ _ => hextets = [0, 0, 0, 0, 0, 0, 0, 0]

/-- The longest run of zeros found so far and the run being read. -/
structure Runs where
  best_start : Nat := 0
  best_len : Nat := 0
  start : Option Nat := none
  len : Nat := 0

def Runs.step (runs : Runs) (index : Nat) (hextet : List Char) : Runs :=
  if hextet = ['0'] then
    let len := runs.len + 1
    let start := runs.start.getD index
    if len > runs.best_len then ⟨start, len, some start, len⟩
    else { runs with start := some start, len := len }
  else { runs with start := none, len := 0 }

def Runs.scan (runs : Runs) (index : Nat) : List (List Char) → Runs
  | [] => runs
  | hextet :: hextets => (runs.step index hextet).scan (index + 1) hextets

/-- `_compress_hextets` -/
def compress_hextets (hextets : List (List Char)) : List (List Char) :=
  let runs := ({} : Runs).scan 0 hextets
  if runs.best_len > 1 then
    let stop := runs.best_start + runs.best_len
    (if runs.best_start = 0 then [[]] else []) ++ hextets.take runs.best_start ++ [[]] ++
      hextets.drop stop ++ (if stop = hextets.length then [[]] else [])
  else hextets

def v6_to_string (hextets : List Nat) : List Char :=
  [':'].intercalate (compress_hextets (hextets.map (Nat.toDigits 16)))

def v4_to_string (octets : List Nat) : List Char := ['.'].intercalate (octets.map (Nat.toDigits 10))

def Interface.text : Interface → List Char
  | .v4 octets prefixlen => v4_to_string octets ++ '/' :: Nat.toDigits 10 prefixlen
  | .v6 hextets none prefixlen => v6_to_string hextets ++ '/' :: Nat.toDigits 10 prefixlen
  | .v6 hextets (some scope) prefixlen =>
    v6_to_string hextets ++ '%' :: (scope ++ '/' :: Nat.toDigits 10 prefixlen)

/-- `str(interface)` -/
def Interface.str (interface : Interface) : String := String.ofList interface.text

example : (ip_interface "192.168.0.7/255.255.255.0").map Interface.str = some "192.168.0.7/24" := by
  decide +kernel

example : (ip_interface "2001:DB8:0:0::1%eth0/64").map Interface.str = some "2001:db8::1%eth0/64" := by
  decide +kernel

/-- An address without a scope. -/
inductive Address where
  | v4 (octets : List Nat)
  | v6 (hextets : List Nat)
deriving DecidableEq, Repr

def Address.version : Address → Nat
  | .v4 _ => 4
  | .v6 _ => 6

/-- `int(address)` -/
def Address.toNat : Address → Nat
  | .v4 octets => octets.foldl (fun sofar octet => 256 * sofar + octet) 0
  | .v6 hextets => hextets.foldl (fun sofar hextet => 65536 * sofar + hextet) 0

/-- `str(address)` -/
def Address.str : Address → String
  | .v4 octets => String.ofList (v4_to_string octets)
  | .v6 hextets => String.ofList (v6_to_string hextets)

structure Network where
  address : Address
  prefixlen : Nat
deriving DecidableEq, Repr

def max_prefixlen : Address → Nat
  | .v4 _ => 32
  | .v6 _ => 128

/-- The number of the addresses of a network without the bits that tell them apart. -/
def leading (prefixlen : Nat) (address : Address) : Nat := address.toNat / 2 ^ (max_prefixlen address - prefixlen)

/-- `address in network` -/
def Network.contains (network : Network) (address : Address) : Bool :=
  network.address.version = address.version && leading network.prefixlen network.address =
    leading network.prefixlen address

/-- `ip_network(text, strict=True)`, or nothing where it raises `ValueError`; the scope of a network plays no part in
    what it contains. -/
def ip_network (text : String) : Option Network :=
  match ip_interface text with
  | some (.v4 octets prefixlen) => strict ⟨.v4 octets, prefixlen⟩
  | some (.v6 hextets _ prefixlen) => strict ⟨.v6 hextets, prefixlen⟩
  | none => none
where
  strict (network : Network) : Option Network :=
    if network.address.toNat % 2 ^ (max_prefixlen network.address - network.prefixlen) = 0 then some network else none

/-- One of the networks contains the address. -/
def within (networks : List Network) (address : Address) : Bool :=
  networks.any (fun network => network.contains address)

def net4 (a b c d prefixlen : Nat) : Network := ⟨.v4 [a, b, c, d], prefixlen⟩

def net6 (hextets : List Nat) (prefixlen : Nat) : Network :=
  ⟨.v6 (hextets ++ List.replicate (8 - hextets.length) 0), prefixlen⟩

/-- `IPv4Address._constants._private_networks` -/
def v4_private_networks : List Network :=
  [net4 0 0 0 0 8, net4 10 0 0 0 8, net4 127 0 0 0 8, net4 169 254 0 0 16, net4 172 16 0 0 12, net4 192 0 0 0 24,
    net4 192 0 0 170 31, net4 192 0 2 0 24, net4 192 168 0 0 16, net4 198 18 0 0 15, net4 198 51 100 0 24,
    net4 203 0 113 0 24, net4 240 0 0 0 4, net4 255 255 255 255 32]

def v4_private_networks_exceptions : List Network := [net4 192 0 0 9 32, net4 192 0 0 10 32]

def v6_private_networks : List Network :=
  [net6 [0, 0, 0, 0, 0, 0, 0, 1] 128, net6 [] 128, net6 [0, 0, 0, 0, 0, 0xffff] 96, net6 [0x64, 0xff9b, 1] 48,
    net6 [0x100] 64,
    net6 [0x2001] 23, net6 [0x2001, 0xdb8] 32, net6 [0x2002] 16, net6 [0x3fff] 20, net6 [0xfc00] 7, net6 [0xfe80] 10]

def v6_private_networks_exceptions : List Network :=
  [net6 [0x2001, 1, 0, 0, 0, 0, 0, 1] 128, net6 [0x2001, 1, 0, 0, 0, 0, 0, 2] 128, net6 [0x2001, 3] 32,
    net6 [0x2001, 4, 0x112] 48, net6 [0x2001, 0x20] 28, net6 [0x2001, 0x30] 28]

def v6_reserved_networks : List Network :=
  [net6 [] 8, net6 [0x100] 8, net6 [0x200] 7, net6 [0x400] 6, net6 [0x800] 5, net6 [0x1000] 4, net6 [0x4000] 3,
    net6 [0x6000] 3, net6 [0x8000] 3, net6 [0xa000] 3, net6 [0xc000] 3, net6 [0xe000] 4, net6 [0xf000] 5,
      net6 [0xf800] 6,
    net6 [0xfe00] 9]

/-- `ipv4_mapped`, as the octets of the last two hextets of `::ffff:0:0/96`. -/
def ipv4_mapped : List Nat → Option Address
  | [0, 0, 0, 0, 0, 0xffff, high, low] => some (.v4 [high / 256, high % 256, low / 256, low % 256])
  | _ => none

def v4_is_private (address : Address) : Bool :=
  within v4_private_networks address && !within v4_private_networks_exceptions address

namespace Address

def is_private : Address → Bool
  | .v4 octets => v4_is_private (.v4 octets)
  | .v6 hextets =>
    match ipv4_mapped hextets with
    | some mapped => v4_is_private mapped
    | none => within v6_private_networks (.v6 hextets) && !within v6_private_networks_exceptions (.v6 hextets)

def is_global (address : Address) : Bool := !(net4 100 64 0 0 10).contains address && !address.is_private

def is_loopback : Address → Bool := within [net4 127 0 0 0 8, net6 [0, 0, 0, 0, 0, 0, 0, 1] 128]

def is_link_local : Address → Bool := within [net4 169 254 0 0 16, net6 [0xfe80] 10]

def is_multicast : Address → Bool := within [net4 224 0 0 0 4, net6 [0xff00] 8]

def is_unspecified : Address → Bool := within [net4 0 0 0 0 32, net6 [] 128]

def is_reserved : Address → Bool := within (net4 240 0 0 0 4 :: v6_reserved_networks)

end Address

example : (ip_network "10.1.0.0/16").map (fun network => network.contains (.v4 [10, 1, 2, 3])) = some true := by
  decide +kernel

end ipaddress
