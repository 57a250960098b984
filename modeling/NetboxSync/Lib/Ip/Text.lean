import NetboxSync.Lib.Ip.Interface

namespace ipaddress

variable {n : Nat} {parts side : List (List Char)} {hextets : List Nat}

theorem parseDecimal_toDigits (h : n < 256) : parseDecimal (Nat.toDigits 10 n) = some n := by
  have hdigits : (Nat.toDigits 10 n).all Char.isDigit = true :=
    List.all_eq_true.mpr (fun c hc => Nat.isDigit_of_mem_toDigits (by decide) (by decide) hc)
  have hlength : (Nat.toDigits 10 n).length ≤ 3 := (Nat.length_toDigits_le_iff (by decide) (by decide)).mpr (by omega)
  rw [parseDecimal, if_neg, Nat.ofDigitChars_ten_toDigits]
  simp only [Nat.toDigits_ne_nil, hdigits, not_true, false_or]
  omega

theorem parse_octet_toDigits : ∀ n < 256, parse_octet (Nat.toDigits 10 n) = some n := by
  decide +kernel

theorem prefix_from_prefix_string_toDigits {max_prefixlen : Nat} (hmax : max_prefixlen < 256) (h : n ≤ max_prefixlen) :
    prefix_from_prefix_string max_prefixlen (Nat.toDigits 10 n) = some n := by
  rw [prefix_from_prefix_string, parseDecimal_toDigits (by omega), Option.bind_some, if_neg (by omega)]

theorem hexDigit_digitChar : ∀ d < 16, hexDigit d.digitChar = some d := by decide

theorem parseHex_append (sofar : Nat) (text rest : List Char) :
    parseHex sofar (text ++ rest) = (parseHex sofar text).bind (fun n => parseHex n rest) := by
  induction text generalizing sofar with
  | nil => rfl
  | cons c text ih =>
    simp only [List.cons_append, parseHex]
    cases hexDigit c with
    | none => rfl
    | some digit => simp [ih]

theorem parseHex_toDigits (n : Nat) : parseHex 0 (Nat.toDigits 16 n) = some n := by
  induction n using Nat.strongRecOn with
  | ind n ih =>
    by_cases h : n < 16
    · simp [Nat.toDigits_of_lt_base h, parseHex, hexDigit_digitChar n h]
    · have hlast := hexDigit_digitChar (n % 16) (Nat.mod_lt n (by decide))
      rw [Nat.toDigits_of_base_le (by decide) (by omega), parseHex_append, ih (n / 16) (by omega)]
      simp only [Option.bind_some, parseHex, hlast, Option.some.injEq]
      omega

theorem parse_hextet_toDigits (h : n < 65536) : parse_hextet (Nat.toDigits 16 n) = some n := by
  have hlength : (Nat.toDigits 16 n).length ≤ 4 := (Nat.length_toDigits_le_iff (by decide) (by decide)).mpr (by omega)
  rw [parse_hextet, if_neg, parseHex_toDigits]
  simp only [Nat.toDigits_ne_nil, false_or]
  omega

/-- Printing the parts of an address and reading them back. -/
theorem mapM_map_of_inverse {α β : Type} {f : α → β} {g : β → Option α} {xs : List α}
    (h : ∀ x ∈ xs, g (f x) = some x) : (xs.map f).mapM g = some xs := by
  induction xs with
  | nil => rfl
  | cons x xs ih =>
    rw [List.map_cons, List.mapM_cons, h x (by simp), ih (fun y hy => h y (by simp [hy]))]
    rfl

theorem digitChar_ne_of_lt : ∀ d < 16, d.digitChar ≠ '.' ∧ d.digitChar ≠ '/' ∧ d.digitChar ≠ ':' ∧
    d.digitChar ≠ '%' := by decide

/-- The digits of a number are none of the separators of an address. -/
theorem separator_notMem_toDigits {b : Nat} (hb : 1 < b) (hb' : b ≤ 16) (n : Nat) :
    '.' ∉ Nat.toDigits b n ∧ '/' ∉ Nat.toDigits b n ∧ ':' ∉ Nat.toDigits b n ∧ '%' ∉ Nat.toDigits b n := by
  induction n using Nat.strongRecOn with
  | ind n ih =>
    by_cases h : n < b
    · have hd := digitChar_ne_of_lt n (by omega)
      rw [Nat.toDigits_of_lt_base h]
      simp [Ne.symm hd.1, Ne.symm hd.2.1, Ne.symm hd.2.2.1, Ne.symm hd.2.2.2]
    · have hd := digitChar_ne_of_lt (n % b) (Nat.lt_of_lt_of_le (Nat.mod_lt n (by omega)) hb')
      have hi := ih (n / b) (Nat.div_lt_self (by omega) hb)
      rw [Nat.toDigits_of_base_le hb (by omega)]
      simp [hi, Ne.symm hd.1, Ne.symm hd.2.1, Ne.symm hd.2.2.1, Ne.symm hd.2.2.2]

theorem notMem_intercalate {c sep : Char} (hsep : c ≠ sep) (h : ∀ part ∈ parts, c ∉ part) :
    c ∉ [sep].intercalate parts := by
  induction parts with
  | nil => simp
  | cons part parts ih =>
    have htail := ih (fun p hp => h p (by simp [hp]))
    cases parts with
    | nil => simpa using h part (by simp)
    | cons next rest =>
      rw [List.intercalate_cons_cons]
      simp only [List.mem_append, List.mem_singleton, not_or]
      exact ⟨⟨h part (by simp), hsep⟩, htail⟩

theorem v4_from_string_to_string {octets : List Nat} (hlength : octets.length = 4)
    (h : ∀ octet ∈ octets, octet < 256) : v4_from_string (v4_to_string octets) = some octets := by
  have hparts : (v4_to_string octets).splitOn '.' = octets.map (Nat.toDigits 10) := by
    refine List.splitOn_intercalate '.' ?_ ?_
    · intro part hpart
      obtain ⟨octet, _, rfl⟩ := List.mem_map.mp hpart
      exact (separator_notMem_toDigits (by decide) (by decide) octet).1
    · intro hnil
      rw [List.map_eq_nil_iff] at hnil
      simp [hnil] at hlength
  rw [v4_from_string, hparts, if_neg (by simp [hlength])]
  exact mapM_map_of_inverse (fun octet hoctet => parse_octet_toDigits octet (h octet hoctet))

theorem separator_notMem_v4 (octets : List Nat) : '/' ∉ v4_to_string octets :=
  notMem_intercalate (by decide) (fun part hpart => by
    obtain ⟨octet, _, rfl⟩ := List.mem_map.mp hpart
    exact (separator_notMem_toDigits (by decide) (by decide) octet).2.1)

/-- A run of zero hextets of the given place and length. -/
def ZeroRun (hextets : List (List Char)) (start len : Nat) : Prop :=
  ∃ before after, hextets = before ++ List.replicate len ['0'] ++ after ∧ before.length = start

theorem ZeroRun.append {hextets : List (List Char)} {start len : Nat} (h : ZeroRun hextets start len)
    (more : List (List Char)) : ZeroRun (hextets ++ more) start len := by
  obtain ⟨before, after, rfl, hbefore⟩ := h
  exact ⟨before, after ++ more, by simp, hbefore⟩

/-- What the scan knows after the hextets it has read: the best run is a run of zeros, and the current run is one that
    ends here. -/
structure Runs.Sound (runs : Runs) (read : List (List Char)) : Prop where
  best : ZeroRun read runs.best_start runs.best_len
  current : ∃ before, read = before ++ List.replicate runs.len ['0'] ∧ runs.start.getD read.length = before.length

theorem Runs.Sound.step {runs : Runs} {read : List (List Char)} (h : runs.Sound read)
    (hextet : List Char) : (runs.step read.length hextet).Sound (read ++ [hextet]) := by
  obtain ⟨before, hread, hstart⟩ := h.current
  rw [Runs.step]
  split
  · next hzero =>
    subst hzero
    have hgrown : read ++ [['0']] = before ++ List.replicate (runs.len + 1) ['0'] := by
      rw [hread, List.replicate_succ', List.append_assoc]
    have hcurrent : ∃ before', read ++ [['0']] = before' ++ List.replicate (runs.len + 1) ['0'] ∧
        (some (runs.start.getD read.length)).getD (read ++ [['0']]).length = before'.length :=
      ⟨before, hgrown, hstart⟩
    dsimp only
    split
    · exact ⟨⟨before, [], by simpa using hgrown, hstart.symm⟩, hcurrent⟩
    · exact ⟨h.best.append _, hcurrent⟩
  · exact ⟨h.best.append _, ⟨read ++ [hextet], by simp, rfl⟩⟩

theorem Runs.Sound.scan {runs : Runs} {read : List (List Char)} (h : runs.Sound read)
    (hextets : List (List Char)) : (runs.scan read.length hextets).Sound (read ++ hextets) := by
  induction hextets generalizing runs read with
  | nil => simpa [Runs.scan] using h
  | cons hextet hextets ih =>
    have hrest := ih (h.step hextet)
    simp only [List.length_append, List.length_singleton, List.append_assoc, List.singleton_append] at hrest
    exact hrest

/-- Compression leaves the hextets alone, or puts an empty part in place of two zeros or more, with one more empty
    part at an end it reaches. -/
theorem compress_hextets_cases (hextets : List (List Char)) :
    compress_hextets hextets = hextets ∨
      ∃ before len after, hextets = before ++ List.replicate len ['0'] ++ after ∧ 1 < len ∧
        compress_hextets hextets = (if before = [] then [[]] else before) ++ [] ::
          (if after = [] then [[]] else after) := by
  have hsound : (({} : Runs).scan 0 hextets).Sound hextets := by
    have hempty : ({} : Runs).Sound [] := ⟨⟨[], [], rfl, rfl⟩, ⟨[], rfl, rfl⟩⟩
    simpa using hempty.scan hextets
  obtain ⟨before, after, hsplit, hbefore⟩ := hsound.best
  by_cases hlen : (({} : Runs).scan 0 hextets).best_len > 1
  · right
    refine ⟨before, _, after, hsplit, hlen, ?_⟩
    have htake : hextets.take before.length = before := by
      rw [hsplit, List.append_assoc, List.take_left]
    have hdrop : hextets.drop (before.length + (({} : Runs).scan 0 hextets).best_len) = after := by
      generalize (({} : Runs).scan 0 hextets).best_len = len at hsplit
      rw [hsplit, List.drop_left' (by simp)]
    have hstop : before.length + (({} : Runs).scan 0 hextets).best_len = hextets.length ↔ after = [] := by
      have hlength := congrArg List.length hsplit
      simp only [List.length_append, List.length_replicate] at hlength
      rw [← List.length_eq_zero_iff]
      omega
    simp only [compress_hextets, if_pos hlen, ← hbefore, htake, hdrop, hstop, List.length_eq_zero_iff]
    by_cases hb : before = [] <;> by_cases ha : after = [] <;> simp [hb, ha]
  · left
    simp only [compress_hextets, if_neg hlen]

private theorem no_skips (h : ∀ part ∈ parts, part ≠ []) (k : Nat) :
    (parts.zipIdx k).filterMap (fun part => if part.1 = [] then some part.2 else none) = [] := by
  rw [List.filterMap_eq_nil_iff]
  rintro ⟨part, index⟩ hmem
  exact if_neg (h part (List.fst_mem_of_mem_zipIdx hmem))

theorem skip_indexes_eq_nil (h : ∀ part ∈ parts, part ≠ []) : skip_indexes parts = [] :=
  no_skips (fun part hpart => h part (List.mem_of_mem_tail (List.dropLast_subset _ hpart))) 1

/-- The one empty part between two sides that are empty only at the ends. -/
theorem skip_indexes_eq_singleton {front back : List (List Char)} (hfront : front ≠ []) (hback : back ≠ [])
    (htail : ∀ part ∈ front.tail, part ≠ []) (hinit : ∀ part ∈ back.dropLast, part ≠ []) :
    skip_indexes (front ++ [] :: back) = [front.length] := by
  have hinner : (front ++ [] :: back).tail.dropLast = front.tail ++ [] :: back.dropLast := by
    rw [List.tail_append_of_ne_nil hfront, List.dropLast_append_of_ne_nil (by simp),
      List.dropLast_cons_of_ne_nil hback]
  have hpos := List.length_pos_iff.mpr hfront
  rw [skip_indexes, hinner, List.zipIdx_append, List.filterMap_append, no_skips htail,
    List.zipIdx_cons, List.filterMap_cons]
  simp [no_skips hinit]
  omega

/-- One side of `::` as it is printed: an empty side leaves an empty part. -/
def edge (side : List (List Char)) : List (List Char) := if side = [] then [[]] else side

theorem edge_ne_nil (side : List (List Char)) : edge side ≠ [] := by
  rw [edge]
  split
  · simp
  · assumption

theorem trim_end_head (h : ∀ part ∈ side, part ≠ []) : trim_end (edge side) (edge side).head? = some side := by
  cases side with
  | nil => rfl
  | cons part side => simp [edge, trim_end, h part (by simp)]

theorem trim_end_getLast (h : ∀ part ∈ side, part ≠ []) : trim_end (edge side) (edge side).getLast? = some side := by
  by_cases hside : side = []
  · subst hside
    rfl
  · have hlast := h _ (List.getLast_mem hside)
    simp [edge, hside, trim_end, List.getLast?_eq_some_getLast hside, hlast]

/-- Hextets as they are printed. -/
def hexTexts (hextets : List Nat) : List (List Char) := hextets.map (Nat.toDigits 16)

theorem hexTexts_ne_nil : ∀ part ∈ hexTexts hextets, part ≠ [] := by
  intro part hpart
  obtain ⟨n, _, rfl⟩ := List.mem_map.mp hpart
  exact Nat.toDigits_ne_nil

theorem separator_notMem_hexTexts : ∀ part ∈ hexTexts hextets, '.' ∉ part ∧ '/' ∉ part ∧ ':' ∉ part ∧ '%' ∉ part := by
  intro part hpart
  obtain ⟨n, _, rfl⟩ := List.mem_map.mp hpart
  exact separator_notMem_toDigits (by decide) (by decide) n

theorem mapM_parse_hextet (h : ∀ n ∈ hextets, n < 65536) : (hexTexts hextets).mapM parse_hextet = some hextets :=
  mapM_map_of_inverse (fun n hn => parse_hextet_toDigits (h n hn))

theorem hexTexts_injective : Function.Injective (Nat.toDigits 16) := by
  intro a b h
  have hparse := congrArg (parseHex 0) h
  rw [parseHex_toDigits, parseHex_toDigits] at hparse
  exact Option.some.inj hparse

/-- The printed parts of eight hextets, with the hextets that `::` stands for. -/
theorem compress_hexTexts_cases (hextets : List Nat) :
    compress_hextets (hexTexts hextets) = hexTexts hextets ∨
      ∃ before len after, hextets = before ++ List.replicate len 0 ++ after ∧ 1 < len ∧
        compress_hextets (hexTexts hextets) = edge (hexTexts before) ++ [] :: edge (hexTexts after) := by
  obtain h | ⟨beforeTexts, len, afterTexts, hsplit, hlen, hcompress⟩ := compress_hextets_cases (hexTexts hextets)
  · exact .inl h
  · right
    obtain ⟨l, after, rfl, hl, rfl⟩ := List.map_eq_append_iff.mp hsplit
    obtain ⟨before, zeros, rfl, rfl, hzeros⟩ := List.map_eq_append_iff.mp hl
    have hzero : zeros = List.replicate len 0 := by
      rw [List.eq_replicate_iff] at hzeros ⊢
      refine ⟨by simpa using hzeros.1, fun n hn => ?_⟩
      exact hexTexts_injective (hzeros.2 _ (List.mem_map.mpr ⟨n, hn, rfl⟩))
    exact ⟨before, len, after, by rw [hzero], hlen, hcompress⟩

theorem v6_from_string_of_parts {text : List Char} (htext : text = [':'].intercalate parts)
    (hcolon : ∀ part ∈ parts, ':' ∉ part) (hdot : ∀ part ∈ parts, '.' ∉ part) (hlength : 3 ≤ parts.length) :
    text.splitOn ':' = parts ∧ expand_v4_suffix parts = some parts := by
  have hne : parts ≠ [] := by
    rintro rfl
    simp at hlength
  refine ⟨by rw [htext, List.splitOn_intercalate ':' hcolon hne], ?_⟩
  rw [expand_v4_suffix, if_neg]
  rw [List.getLastD_eq_getLast?, List.getLast?_eq_some_getLast hne]
  exact hdot _ (List.getLast_mem hne)

theorem mem_edge {part : List Char} (h : part ∈ edge side) : part = [] ∨ part ∈ side := by
  rw [edge] at h
  split at h
  · exact .inl (List.mem_singleton.mp h)
  · exact .inr h

theorem edge_tail_ne_nil (h : ∀ part ∈ side, part ≠ []) : ∀ part ∈ (edge side).tail, part ≠ [] := by
  intro part hpart
  cases side with
  | nil => cases hpart
  | cons first side => exact h part (List.mem_of_mem_tail hpart)

theorem edge_dropLast_ne_nil (h : ∀ part ∈ side, part ≠ []) : ∀ part ∈ (edge side).dropLast, part ≠ [] := by
  intro part hpart
  cases side with
  | nil => cases hpart
  | cons first side => exact h part (List.dropLast_subset _ hpart)

theorem v6_from_string_compressed {before after : List Nat} {len : Nat} (hlen : 1 < len)
    (hlength : (before ++ List.replicate len 0 ++ after).length = 8)
    (hbefore : ∀ n ∈ before, n < 65536) (hafter : ∀ n ∈ after, n < 65536) :
    v6_from_string ([':'].intercalate (edge (hexTexts before) ++ [] :: edge (hexTexts after))) =
      some (before ++ List.replicate len 0 ++ after) := by
  have hparts : ∀ part ∈ edge (hexTexts before) ++ [] :: edge (hexTexts after), ':' ∉ part ∧ '.' ∉ part := by
    intro part hpart
    have hcases : part = [] ∨ part ∈ hexTexts before ∨ part ∈ hexTexts after := by
      rcases List.mem_append.mp hpart with hpart | hpart
      · rcases mem_edge hpart with hpart | hpart <;> simp [hpart]
      · rcases List.mem_cons.mp hpart with hpart | hpart
        · simp [hpart]
        · rcases mem_edge hpart with hpart | hpart <;> simp [hpart]
    rcases hcases with rfl | hpart | hpart
    · simp
    · exact ⟨(separator_notMem_hexTexts part hpart).2.2.1, (separator_notMem_hexTexts part hpart).1⟩
    · exact ⟨(separator_notMem_hexTexts part hpart).2.2.1, (separator_notMem_hexTexts part hpart).1⟩
  have hedge : ∀ side : List Nat, 1 ≤ (edge (hexTexts side)).length ∧
      (edge (hexTexts side)).length ≤ side.length + 1 := by
    intro side
    cases side <;> simp [edge, hexTexts]
  have hfront := hedge before
  have hback := hedge after
  simp only [List.length_append, List.length_replicate] at hlength
  obtain ⟨hsplit, hexpand⟩ := v6_from_string_of_parts rfl (fun part hp => (hparts part hp).1)
    (fun part hp => (hparts part hp).2) (by simp; omega)
  have hskip := skip_indexes_eq_singleton (edge_ne_nil (hexTexts before)) (edge_ne_nil (hexTexts after))
    (edge_tail_ne_nil hexTexts_ne_nil) (edge_dropLast_ne_nil hexTexts_ne_nil)
  have hhead : (edge (hexTexts before) ++ [] :: edge (hexTexts after)).head? = (edge (hexTexts before)).head? := by
    rw [List.head?_append_of_ne_nil _ (edge_ne_nil _)]
  have hlast : (edge (hexTexts before) ++ [] :: edge (hexTexts after)).getLast? =
      (edge (hexTexts after)).getLast? := by
    rw [List.getLast?_append_of_ne_nil _ (by simp), List.getLast?_cons_of_ne_nil (edge_ne_nil _)]
  have hdrop : (edge (hexTexts before) ++ [] :: edge (hexTexts after)).drop
      ((edge (hexTexts before)).length + 1) = edge (hexTexts after) := by
    simp
  have hcount : (hexTexts before).length + (hexTexts after).length + 1 ≤ 8 ∧
      8 - ((hexTexts before).length + (hexTexts after).length) = len := by
    simp only [hexTexts, List.length_map]
    omega
  have hnotFew : ¬ (edge (hexTexts before) ++ [] :: edge (hexTexts after)).length < 3 := by
    simp only [List.length_append, List.length_cons]
    omega
  have hnotMany : ¬ (edge (hexTexts before) ++ [] :: edge (hexTexts after)).length > 9 := by
    simp only [List.length_append, List.length_cons]
    omega
  simp only [v6_from_string, hsplit, if_neg hnotFew, hexpand, Option.bind_some, if_neg hnotMany, hskip,
    List.take_left, hhead, hlast, hdrop, trim_end_head hexTexts_ne_nil, trim_end_getLast hexTexts_ne_nil,
    mapM_parse_hextet hbefore, mapM_parse_hextet hafter, Option.map_some, hcount.2]
  rw [if_neg (by omega)]

theorem v6_from_string_to_string (hlength : hextets.length = 8) (h : ∀ n ∈ hextets, n < 65536) :
    v6_from_string (v6_to_string hextets) = some hextets := by
  rw [v6_to_string]
  obtain hsame | ⟨before, len, after, rfl, hlen, hcompress⟩ := compress_hexTexts_cases hextets
  · obtain ⟨hsplit, hexpand⟩ := v6_from_string_of_parts (rfl : _ = [':'].intercalate (hexTexts hextets))
      (fun part hp => (separator_notMem_hexTexts part hp).2.2.1)
      (fun part hp => (separator_notMem_hexTexts part hp).1) (by simp [hexTexts, hlength])
    have hparts : (hexTexts hextets).length = 8 := by simp [hexTexts, hlength]
    change v6_from_string ([':'].intercalate (compress_hextets (hexTexts hextets))) = _
    rw [hsame]
    simp [v6_from_string, hsplit, hexpand, skip_indexes_eq_nil hexTexts_ne_nil, hparts, mapM_parse_hextet h]
  · change v6_from_string ([':'].intercalate (compress_hextets (hexTexts _))) = _
    rw [hcompress]
    exact v6_from_string_compressed hlen hlength (fun n hn => h n (by simp [hn])) (fun n hn => h n (by simp [hn]))

end ipaddress
