import NetboxSync.Lib.Ip.Text

namespace ipaddress

variable {text address : List Char} {n : Nat} {hextets : List Nat} {interface : Interface} {scope : Option (List Char)}

/-- The parts of a text are pieces of it without the separator. -/
theorem mem_splitOn {sep : Char} {part : List Char} (h : part ∈ text.splitOn sep) :
    sep ∉ part ∧ ∀ c ∈ part, c ∈ text := by
  induction text generalizing part with
  | nil =>
    rw [List.splitOn_nil, List.mem_singleton] at h
    simp [h]
  | cons x text ih =>
    rw [List.splitOn_cons_eq_if_modifyHead] at h
    split at h
    · rcases List.mem_cons.mp h with rfl | h
      · simp
      · exact ⟨(ih h).1, fun c hc => List.mem_cons_of_mem x ((ih h).2 c hc)⟩
    · next hx =>
      cases hsplit : text.splitOn sep with
      | nil => exact absurd hsplit (List.splitOn_ne_nil sep text)
      | cons first rest =>
        have hfirst := ih (hsplit ▸ List.mem_cons_self)
        rw [hsplit, List.modifyHead_cons] at h
        rcases List.mem_cons.mp h with rfl | h
        · refine ⟨?_, ?_⟩
          · simp only [List.mem_cons, not_or]
            exact ⟨fun heq => hx (by simp [heq]), hfirst.1⟩
          · intro c hc
            rcases List.mem_cons.mp hc with rfl | hc
            · exact List.mem_cons_self
            · exact List.mem_cons_of_mem x (hfirst.2 c hc)
        · have hpart := ih (hsplit ▸ List.mem_cons_of_mem first h)
          exact ⟨hpart.1, fun c hc => List.mem_cons_of_mem x (hpart.2 c hc)⟩

theorem mapM_some {α β : Type} {g : α → Option β} {xs : List α} {ys : List β} (h : xs.mapM g = some ys) :
    ys.length = xs.length ∧ (∀ y ∈ ys, ∃ x ∈ xs, g x = some y) ∧ ∀ x ∈ xs, ∃ y ∈ ys, g x = some y := by
  induction xs generalizing ys with
  | nil =>
    rw [List.mapM_nil] at h
    cases h
    simp
  | cons x xs ih =>
    rw [List.mapM_cons] at h
    obtain ⟨y, hy, h⟩ := Option.bind_eq_some_iff.mp h
    obtain ⟨ys', hys, h⟩ := Option.bind_eq_some_iff.mp h
    cases h
    obtain ⟨hlength, hmem, hread⟩ := ih hys
    refine ⟨by simp [hlength], fun z hz => ?_, fun w hw => ?_⟩
    · rcases List.mem_cons.mp hz with rfl | hz
      · exact ⟨x, by simp, hy⟩
      · obtain ⟨x', hx', hz⟩ := hmem z hz
        exact ⟨x', by simp [hx'], hz⟩
    · rcases List.mem_cons.mp hw with rfl | hw
      · exact ⟨y, List.mem_cons_self, hy⟩
      · obtain ⟨z, hz, hw⟩ := hread w hw
        exact ⟨z, List.mem_cons_of_mem _ hz, hw⟩

theorem mapM_of_forall {α β : Type} {g : α → Option β} {xs : List α} (h : ∀ x ∈ xs, ∃ y, g x = some y) :
    ∃ ys, xs.mapM g = some ys := by
  induction xs with
  | nil => exact ⟨[], List.mapM_nil⟩
  | cons x xs ih =>
    obtain ⟨y, hy⟩ := h x List.mem_cons_self
    obtain ⟨ys, hys⟩ := ih (fun x' hx' => h x' (List.mem_cons_of_mem _ hx'))
    refine ⟨y :: ys, ?_⟩
    rw [List.mapM_cons, hy, hys]
    rfl

theorem hexDigit_lt {c : Char} {digit : Nat} (h : hexDigit c = some digit) : digit < 16 := by
  rw [hexDigit] at h
  have hle : ∀ a b : Char, a ≤ b → a.toNat ≤ b.toNat := fun a b hab => hab
  have h9 : '9'.toNat = 57 := rfl
  have h0 : '0'.toNat = 48 := rfl
  have hf : 'f'.toNat = 102 := rfl
  have ha : 'a'.toNat = 97 := rfl
  have hF : 'F'.toNat = 70 := rfl
  have hA : 'A'.toNat = 65 := rfl
  split at h
  · next hc =>
    have := hle _ _ hc.2
    cases h
    omega
  split at h
  · next hc =>
    have := hle _ _ hc.2
    cases h
    omega
  split at h
  · next hc =>
    have := hle _ _ hc.2
    cases h
    omega
  · cases h

theorem parseHex_lt {sofar : Nat} (h : parseHex sofar text = some n) : n < (sofar + 1) * 16 ^ text.length := by
  induction text generalizing sofar with
  | nil =>
    cases h
    simp
  | cons c text ih =>
    obtain ⟨digit, hdigit, hrest⟩ := Option.bind_eq_some_iff.mp h
    have hlt := hexDigit_lt hdigit
    calc n < (16 * sofar + digit + 1) * 16 ^ text.length := ih hrest
      _ ≤ ((sofar + 1) * 16) * 16 ^ text.length := Nat.mul_le_mul_right _ (by omega)
      _ = (sofar + 1) * 16 ^ (c :: text).length := by
        rw [List.length_cons, Nat.pow_succ, Nat.mul_assoc, Nat.mul_comm 16]

theorem parse_hextet_lt (h : parse_hextet text = some n) : n < 65536 := by
  rw [parse_hextet] at h
  split at h
  · cases h
  · next hlength =>
    simp only [not_or, Nat.not_lt] at hlength
    have hpow : 16 ^ text.length ≤ 16 ^ 4 := Nat.pow_le_pow_right (by decide) hlength.2
    have hlt := parseHex_lt h
    omega

theorem parse_octet_lt (h : parse_octet text = some n) : n < 256 := by
  rw [parse_octet] at h
  split at h
  · cases h
  · obtain ⟨octet, _, hoctet⟩ := Option.bind_eq_some_iff.mp h
    split at hoctet
    · cases hoctet
    · cases hoctet
      omega

theorem parse_octet_isDigit (h : parse_octet text = some n) : ∀ c ∈ text, c.isDigit = true := by
  rw [parse_octet] at h
  split at h
  · cases h
  · obtain ⟨octet, hoctet, _⟩ := Option.bind_eq_some_iff.mp h
    rw [parseDecimal] at hoctet
    split at hoctet
    · cases hoctet
    · next hdigits =>
      simp only [not_or, not_not] at hdigits
      exact List.all_eq_true.mp hdigits.2.1

/-- What every parsed interface satisfies. -/
def Interface.Valid : Interface → Prop
  | .v4 octets prefixlen => octets.length = 4 ∧ (∀ octet ∈ octets, octet < 256) ∧ prefixlen ≤ 32
  | .v6 hextets scope prefixlen => hextets.length = 8 ∧ (∀ hextet ∈ hextets, hextet < 65536) ∧
    (∀ text ∈ scope, text ≠ [] ∧ '%' ∉ text ∧ '/' ∉ text) ∧ prefixlen ≤ 128

theorem v4_from_string_valid {octets : List Nat} (h : v4_from_string text = some octets) :
    octets.length = 4 ∧ ∀ octet ∈ octets, octet < 256 := by
  simp only [v4_from_string] at h
  split at h
  · cases h
  · next hlength =>
    obtain ⟨hsame, hmem, _⟩ := mapM_some h
    refine ⟨by omega, fun octet hoctet => ?_⟩
    obtain ⟨_, _, hparse⟩ := hmem octet hoctet
    exact parse_octet_lt hparse

theorem v6_from_string_valid (h : v6_from_string text = some hextets) :
    hextets.length = 8 ∧ ∀ hextet ∈ hextets, hextet < 65536 := by
  have hread : ∀ {parts : List (List Char)} {ns : List Nat}, parts.mapM parse_hextet = some ns →
      ns.length = parts.length ∧ ∀ n ∈ ns, n < 65536 := by
    intro parts ns hns
    obtain ⟨hsame, hmem, _⟩ := mapM_some hns
    refine ⟨hsame, fun n hn => ?_⟩
    obtain ⟨_, _, hparse⟩ := hmem n hn
    exact parse_hextet_lt hparse
  simp only [v6_from_string] at h
  split at h
  · cases h
  obtain ⟨parts, _, h⟩ := Option.bind_eq_some_iff.mp h
  split at h
  · cases h
  split at h
  · split at h
    · cases h
    · next hlength =>
      obtain ⟨hsame, hlt⟩ := hread h
      exact ⟨by omega, hlt⟩
  · obtain ⟨hi, _, h⟩ := Option.bind_eq_some_iff.mp h
    obtain ⟨lo, _, h⟩ := Option.bind_eq_some_iff.mp h
    split at h
    · cases h
    next hcount =>
    obtain ⟨high, hhigh, h⟩ := Option.bind_eq_some_iff.mp h
    obtain ⟨low, hlow, rfl⟩ := Option.map_eq_some_iff.mp h
    obtain ⟨hhighLength, hhighLt⟩ := hread hhigh
    obtain ⟨hlowLength, hlowLt⟩ := hread hlow
    constructor
    · simp only [List.length_append, List.length_replicate]
      omega
    · intro n hn
      simp only [List.mem_append, List.mem_replicate] at hn
      rcases hn with (hn | hn) | hn
      · exact hhighLt n hn
      · omega
      · exact hlowLt n hn
  · cases h

theorem prefix_from_prefix_string_le {max_prefixlen len : Nat}
    (h : prefix_from_prefix_string max_prefixlen text = some len) : len ≤ max_prefixlen := by
  obtain ⟨n, _, hn⟩ := Option.bind_eq_some_iff.mp h
  split at hn
  · cases hn
  · cases hn
    omega

theorem prefix_from_ip_int_le {mask len : Nat} (h : prefix_from_ip_int mask = some len) : len ≤ 32 := by
  have hmem := List.mem_of_find?_eq_some h
  rw [List.mem_range] at hmem
  omega

theorem v4_interface_valid (h : v4_interface text = some interface) : interface.Valid := by
  obtain ⟨⟨address, mask⟩, _, h⟩ := Option.bind_eq_some_iff.mp h
  obtain ⟨octets, hoctets, h⟩ := Option.bind_eq_some_iff.mp h
  obtain ⟨hlength, hlt⟩ := v4_from_string_valid hoctets
  cases mask with
  | none =>
    cases h
    exact ⟨hlength, hlt, Nat.le_refl 32⟩
  | some mask =>
    obtain ⟨len, hlen, rfl⟩ := Option.map_eq_some_iff.mp h
    refine ⟨hlength, hlt, ?_⟩
    rcases Option.or_eq_some_iff.mp hlen with hlen | ⟨_, hlen⟩
    · exact prefix_from_prefix_string_le hlen
    · obtain ⟨_, _, hlen⟩ := Option.bind_eq_some_iff.mp hlen
      rcases Option.or_eq_some_iff.mp hlen with hlen | ⟨_, hlen⟩
      · exact prefix_from_ip_int_le hlen
      · exact prefix_from_ip_int_le hlen

theorem split_addr_mask_notMem {mask : Option (List Char)} (h : split_addr_mask text = some (address, mask)) :
    '/' ∉ address := by
  rw [split_addr_mask] at h
  split at h
  · next hsplit =>
    cases h
    exact (mem_splitOn (hsplit ▸ List.mem_cons_self)).1
  · next hsplit =>
    cases h
    exact (mem_splitOn (hsplit ▸ List.mem_cons_self)).1
  · cases h

theorem split_scope_id_valid (htext : '/' ∉ text) (h : split_scope_id text = some (address, scope)) :
    ∀ s ∈ scope, s ≠ [] ∧ '%' ∉ s ∧ '/' ∉ s := by
  intro s hs
  rw [split_scope_id] at h
  split at h
  · cases h
    cases hs
  · next first second hsplit =>
    have hsecond : second ∈ text.splitOn '%' := by simp [hsplit]
    split at h
    · cases h
    next hne =>
    cases h
    cases hs
    obtain ⟨hpercent, hsub⟩ := mem_splitOn hsecond
    exact ⟨hne, hpercent, fun hslash => htext (hsub _ hslash)⟩
  · cases h

theorem v6_interface_valid (h : v6_interface text = some interface) : interface.Valid := by
  obtain ⟨⟨address, mask⟩, hsplit, h⟩ := Option.bind_eq_some_iff.mp h
  obtain ⟨⟨address', scope⟩, hscope, h⟩ := Option.bind_eq_some_iff.mp h
  obtain ⟨hextets, hhextets, h⟩ := Option.bind_eq_some_iff.mp h
  obtain ⟨hlength, hlt⟩ := v6_from_string_valid hhextets
  have hscope := split_scope_id_valid (split_addr_mask_notMem hsplit) hscope
  cases mask with
  | none =>
    cases h
    exact ⟨hlength, hlt, hscope, Nat.le_refl 128⟩
  | some mask =>
    obtain ⟨len, hlen, rfl⟩ := Option.map_eq_some_iff.mp h
    exact ⟨hlength, hlt, hscope, prefix_from_prefix_string_le hlen⟩

theorem ip_interface_valid {text : String} (h : ip_interface text = some interface) : interface.Valid := by
  rcases Option.or_eq_some_iff.mp h with h | ⟨_, h⟩
  · exact v4_interface_valid h
  · exact v6_interface_valid h

theorem split_addr_mask_printed (h : '/' ∉ address) (prefixlen : Nat) :
    split_addr_mask (address ++ '/' :: Nat.toDigits 10 prefixlen) =
      some (address, some (Nat.toDigits 10 prefixlen)) := by
  have hdigits := (separator_notMem_toDigits (by decide) (by decide : 10 ≤ 16) prefixlen).2.1
  rw [split_addr_mask, List.splitOn_append_cons_self_of_not_mem h, List.splitOn_eq_singleton hdigits]

theorem v4_interface_text {octets : List Nat} {prefixlen : Nat} (h : (Interface.v4 octets prefixlen).Valid) :
    v4_interface (Interface.v4 octets prefixlen).text = some (.v4 octets prefixlen) := by
  obtain ⟨hlength, hlt, hlen_mask⟩ := h
  rw [v4_interface, Interface.text, split_addr_mask_printed (separator_notMem_v4 octets)]
  simp [v4_from_string_to_string hlength hlt, prefix_from_prefix_string_toDigits (by decide : 32 < 256) hlen_mask]

/-- A text with a colon is no dotted quad. -/
theorem v4_from_string_eq_none (h : ':' ∈ text) : v4_from_string text = none := by
  cases hquad : v4_from_string text with
  | none => rfl
  | some octets =>
    simp only [v4_from_string] at hquad
    split at hquad
    · cases hquad
    have hparts : ∀ part ∈ text.splitOn '.', ':' ∉ part := by
      intro part hpart hcolon
      obtain ⟨octet, -, hoctet⟩ := (mapM_some hquad).2.2 part hpart
      exact absurd (parse_octet_isDigit hoctet ':' hcolon) (by decide)
    have hnotMem := notMem_intercalate (by decide : ':' ≠ '.') hparts
    rw [List.intercalate_splitOn] at hnotMem
    exact absurd h hnotMem

/-- A printed IPv6 address reads back, so it has at least two colons. -/
theorem colon_mem_v6 (hlength : hextets.length = 8) (h : ∀ n ∈ hextets, n < 65536) : ':' ∈ v6_to_string hextets := by
  by_contra hcolon
  have hread := v6_from_string_to_string hlength h
  rw [v6_from_string, List.splitOn_eq_singleton hcolon] at hread
  simp at hread

theorem separator_notMem_v6 (hextets : List Nat) : '/' ∉ v6_to_string hextets ∧ '%' ∉ v6_to_string hextets := by
  have hparts : ∀ part ∈ compress_hextets (hexTexts hextets), '/' ∉ part ∧ '%' ∉ part := by
    intro part hpart
    have htext : ∀ {ns : List Nat}, part ∈ hexTexts ns → '/' ∉ part ∧ '%' ∉ part := by
      intro ns hmem
      have hnotMem := separator_notMem_hexTexts part hmem
      exact ⟨hnotMem.2.1, hnotMem.2.2.2⟩
    have hside : ∀ {ns : List Nat}, part ∈ edge (hexTexts ns) → '/' ∉ part ∧ '%' ∉ part := by
      intro ns hmem
      rcases mem_edge hmem with rfl | hmem
      · simp
      · exact htext hmem
    obtain hsame | ⟨before, len, after, _, _, hcompress⟩ := compress_hexTexts_cases hextets
    · exact htext (hsame ▸ hpart)
    · rw [hcompress] at hpart
      rcases List.mem_append.mp hpart with hpart | hpart
      · exact hside hpart
      · rcases List.mem_cons.mp hpart with rfl | hpart
        · simp
        · exact hside hpart
  exact ⟨notMem_intercalate (by decide) (fun part hp => (hparts part hp).1),
    notMem_intercalate (by decide) (fun part hp => (hparts part hp).2)⟩

/-- The printed address and scope of an IPv6 interface. -/
def scopedAddress (hextets : List Nat) : Option (List Char) → List Char
  | none => v6_to_string hextets
  | some scope => v6_to_string hextets ++ '%' :: scope

theorem text_v6 (hextets : List Nat) (scope : Option (List Char)) (prefixlen : Nat) :
    (Interface.v6 hextets scope prefixlen).text =
      scopedAddress hextets scope ++ '/' :: Nat.toDigits 10 prefixlen := by
  cases scope <;> simp [Interface.text, scopedAddress]

theorem slash_notMem_scopedAddress (hscope : ∀ s ∈ scope, s ≠ [] ∧ '%' ∉ s ∧ '/' ∉ s) :
    '/' ∉ scopedAddress hextets scope := by
  have haddress := (separator_notMem_v6 hextets).1
  cases scope with
  | none => exact haddress
  | some s => simp [scopedAddress, haddress, hscope s rfl]

theorem split_scope_id_scopedAddress (hscope : ∀ s ∈ scope, s ≠ [] ∧ '%' ∉ s ∧ '/' ∉ s) :
    split_scope_id (scopedAddress hextets scope) = some (v6_to_string hextets, scope) := by
  have haddress := (separator_notMem_v6 hextets).2
  cases scope with
  | none => rw [split_scope_id, scopedAddress, List.splitOn_eq_singleton haddress]
  | some s =>
    obtain ⟨hne, hpercent, _⟩ := hscope s rfl
    rw [split_scope_id, scopedAddress, List.splitOn_append_cons_self_of_not_mem haddress,
      List.splitOn_eq_singleton hpercent]
    simp [hne]

theorem v6_interface_text {prefixlen : Nat} (h : (Interface.v6 hextets scope prefixlen).Valid) :
    v4_interface (Interface.v6 hextets scope prefixlen).text = none ∧
      v6_interface (Interface.v6 hextets scope prefixlen).text = some (.v6 hextets scope prefixlen) := by
  obtain ⟨hlength, hlt, hscope, hlen_mask⟩ := h
  have hcolon : ':' ∈ scopedAddress hextets scope := by
    have hmem := colon_mem_v6 hlength hlt
    cases scope <;> simp [scopedAddress, hmem]
  rw [text_v6]
  constructor
  · rw [v4_interface, split_addr_mask_printed (slash_notMem_scopedAddress hscope)]
    simp [v4_from_string_eq_none hcolon]
  · rw [v6_interface, split_addr_mask_printed (slash_notMem_scopedAddress hscope)]
    simp [split_scope_id_scopedAddress hscope, v6_from_string_to_string hlength hlt,
      prefix_from_prefix_string_toDigits (by decide : 128 < 256) hlen_mask]

/-- `ip_interface` reads back what `str` prints of a parsed interface. -/
theorem ip_interface_str {text : String} (h : ip_interface text = some interface) :
    ip_interface interface.str = some interface := by
  have hvalid := ip_interface_valid h
  cases interface with
  | v4 octets prefixlen => simp [ip_interface, Interface.str, v4_interface_text hvalid]
  | v6 hextets scope prefixlen =>
    obtain ⟨hv4, hv6⟩ := v6_interface_text hvalid
    simp [ip_interface, Interface.str, hv4, hv6]

end ipaddress
