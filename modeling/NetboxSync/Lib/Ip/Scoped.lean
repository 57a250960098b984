import NetboxSync.Lib.Ip.Canonical

namespace ipaddress

/-- An address object: equality looks at its scope. -/
structure Ip where
  version : Nat
  number : Nat
  scope : Option (List Char)
deriving DecidableEq, Repr

/-- `a <= b`, which is `a < b or a == b`. -/
def Ip.le (a b : Ip) : Bool := a.number < b.number || a = b

/-- `ip_address(text)`, or nothing where it raises `ValueError`. -/
def ip_address (text : String) : Option Ip :=
  match v4_from_string text.toList with
  | some octets => some ⟨4, (Address.v4 octets).toNat, none⟩
  | none =>
    if text.toList.contains '/' then none
    else (split_scope_id text.toList).bind (fun (address, scope) =>
      (v6_from_string address).map (fun hextets => ⟨6, (Address.v6 hextets).toNat, scope⟩))

/-- A network from its address to its broadcast address. -/
structure Block where
  version : Nat
  low : Nat
  high : Nat
  prefixlen : Nat
  scope : Option (List Char)
deriving DecidableEq, Repr

def Block.network_address (block : Block) : Ip := ⟨block.version, block.low, block.scope⟩

/-- A network address loses its scope where host bits were cleared. -/
def Block.masked (version bits prefixlen number : Nat) (scope : Option (List Char)) : Block :=
  let size := 2 ^ (bits - prefixlen)
  let low := number / size * size
  ⟨version, low, low + size - 1, prefixlen, if number = low then scope else none⟩

/-- `ip_network(text, strict=False)`, or nothing where it raises `ValueError`. -/
def loose_network (text : String) : Option Block :=
  (ip_interface text).map (fun
    | .v4 octets prefixlen => Block.masked 4 32 prefixlen (Address.v4 octets).toNat none
    | .v6 hextets scope prefixlen => Block.masked 6 128 prefixlen (Address.v6 hextets).toNat scope)

/-- How many bits the addresses of a version have. -/
def width (version : Nat) : Nat := if version = 4 then 32 else 128

theorem Block.masked_bounds {version prefixlen number : Nat} (scope : Option (List Char))
    (hprefixlen : prefixlen ≤ width version) (hnumber : number < 2 ^ width version) :
    (masked version (width version) prefixlen number scope).low ≤
        (masked version (width version) prefixlen number scope).high ∧
      (masked version (width version) prefixlen number scope).high < 2 ^ width version := by
  simp only [masked]
  generalize hsize : 2 ^ (width version - prefixlen) = size
  have hpositive : 0 < size := hsize ▸ Nat.two_pow_pos _
  have hwhole : 2 ^ width version = 2 ^ prefixlen * size := by
    rw [← hsize, ← Nat.pow_add, Nat.add_sub_cancel' hprefixlen]
  have hquotient : number / size < 2 ^ prefixlen := by
    rw [Nat.div_lt_iff_lt_mul hpositive, ← hwhole]
    exact hnumber
  have hlast := Nat.mul_le_mul_right size (Nat.succ_le_of_lt hquotient)
  rw [Nat.succ_mul, ← hwhole] at hlast
  omega

theorem Address.toNat_lt_v4 {octets : List Nat} (hlength : octets.length = 4) (h : ∀ octet ∈ octets, octet < 256) :
    (Address.v4 octets).toNat < 2 ^ 32 := by
  match octets, hlength with
  | [a, b, c, d], _ =>
    simp only [List.forall_mem_cons] at h
    simp only [Address.toNat, List.foldl]
    omega

theorem Address.toNat_lt_v6 {hextets : List Nat} (hlength : hextets.length = 8)
    (h : ∀ hextet ∈ hextets, hextet < 65536) : (Address.v6 hextets).toNat < 2 ^ 128 := by
  match hextets, hlength with
  | [a, b, c, d, e, f, g, i], _ =>
    simp only [List.forall_mem_cons] at h
    simp only [Address.toNat, List.foldl]
    omega

theorem loose_network_bounds {text : String} {block : Block} (h : loose_network text = some block) :
    (block.version = 4 ∨ block.version = 6) ∧ block.low ≤ block.high ∧ block.high < 2 ^ width block.version := by
  obtain ⟨interface, hinterface, rfl⟩ := Option.map_eq_some_iff.mp h
  have hvalid := ip_interface_valid hinterface
  cases interface with
  | v4 octets prefixlen =>
    obtain ⟨hlength, hlt, hprefixlen⟩ := hvalid
    exact ⟨.inl rfl, Block.masked_bounds none hprefixlen (Address.toNat_lt_v4 hlength hlt)⟩
  | v6 hextets scope prefixlen =>
    obtain ⟨hlength, hlt, -, hprefixlen⟩ := hvalid
    exact ⟨.inr rfl, Block.masked_bounds scope hprefixlen (Address.toNat_lt_v6 hlength hlt)⟩

/-- `IPv4Address(number)` or `IPv6Address(number)` -/
def Address.ofNat (version number : Nat) : Address :=
  if version = 4 then .v4 (digits 256 4 number) else .v6 (digits 65536 8 number)
where
  digits (base : Nat) : Nat → Nat → List Nat
    | 0, _ => []
    | count + 1, number => digits base count (number / base) ++ [number % base]

theorem Address.digits_spec {base : Nat} (hbase : 0 < base) {count number : Nat} (h : number < base ^ count) :
    (ofNat.digits base count number).length = count ∧ (∀ digit ∈ ofNat.digits base count number, digit < base) ∧
      (ofNat.digits base count number).foldl (fun sofar digit => base * sofar + digit) 0 = number := by
  induction count generalizing number with
  | zero =>
    rw [Nat.pow_zero] at h
    exact ⟨rfl, by simp [ofNat.digits], by simp [ofNat.digits]; omega⟩
  | succ count ih =>
    obtain ⟨hlength, hlt, hvalue⟩ := ih ((Nat.div_lt_iff_lt_mul hbase).mpr (by rwa [← Nat.pow_succ]))
    refine ⟨by simp [ofNat.digits, hlength], ?_, ?_⟩
    · intro digit hdigit
      rcases List.mem_append.mp hdigit with hmem | hmem
      · exact hlt digit hmem
      · rw [List.mem_singleton.mp hmem]
        exact Nat.mod_lt number hbase
    · rw [ofNat.digits, List.foldl_append, hvalue]
      exact Nat.div_add_mod number base

/-- A number written as an address reads as that number. -/
theorem ip_address_str {version number : Nat} (hversion : version = 4 ∨ version = 6)
    (hnumber : number < 2 ^ width version) :
    ip_address (Address.ofNat version number).str = some ⟨version, number, none⟩ := by
  rcases hversion with rfl | rfl
  · obtain ⟨hlength, hlt, hvalue⟩ := @Address.digits_spec 256 (by omega) 4 number hnumber
    simp only [Address.ofNat, if_true, Address.str, ip_address, String.toList_ofList,
      v4_from_string_to_string hlength hlt, Address.toNat, hvalue]
  · obtain ⟨hlength, hlt, hvalue⟩ := @Address.digits_spec 65536 (by omega) 8 number hnumber
    obtain ⟨hslash, hscope⟩ := separator_notMem_v6 (Address.ofNat.digits 65536 8 number)
    have hquad := v4_from_string_eq_none (colon_mem_v6 hlength hlt)
    have hsplit : split_scope_id (v6_to_string (Address.ofNat.digits 65536 8 number)) =
        some (v6_to_string (Address.ofNat.digits 65536 8 number), none) := by
      rw [split_scope_id, List.splitOn_eq_singleton hscope]
    simp [Address.ofNat, Address.str, ip_address, hquad, hslash, hsplit, v6_from_string_to_string hlength hlt,
      Address.toNat, hvalue]

end ipaddress
