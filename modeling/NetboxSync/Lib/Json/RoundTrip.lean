import NetboxSync.Lib.Json.Dumps
import NetboxSync.Lib.Json.Loads

namespace json

theorem hexVal_digitChar : ∀ d < 16, hexVal d.digitChar = some d := by decide

theorem hexVal4_digits {n : Nat} (h : n < 65536) :
    hexVal4 (n / 4096 % 16).digitChar (n / 256 % 16).digitChar (n / 16 % 16).digitChar
      (n % 16).digitChar = some n := by
  simp only [hexVal4, hexVal_digitChar _ (Nat.mod_lt _ (by decide : 16 > 0)), Option.bind_eq_bind,
    Option.bind_some, Option.pure_def, Option.some.injEq]
  omega

theorem Char.not_surrogate (c : Char) : c.toNat < 55296 ∨ 57343 < c.toNat := by
  have h := c.valid
  simp only [UInt32.isValidChar, Nat.isValidChar] at h
  change c.toNat < 0xd800 ∨ 0xdfff < c.toNat ∧ c.toNat < 0x110000 at h
  omega

theorem Char.toNat_lt (c : Char) : c.toNat < 1114112 := by
  have h := c.valid
  simp only [UInt32.isValidChar, Nat.isValidChar] at h
  change c.toNat < 0xd800 ∨ 0xdfff < c.toNat ∧ c.toNat < 0x110000 at h
  omega

/-- A character of the basic plane is read back from its four digits. -/
theorem scanUnicode_basic {c : Char} (hbasic : c.toNat < 65536) (rest : List Char) :
    scanUnicode (hex4 c.toNat ++ rest) = some (c, rest) := by
  have hsurrogate := Char.not_surrogate c
  simp only [hex4, List.cons_append, List.nil_append, scanUnicode, hexVal4_digits hbasic,
    Option.bind_eq_bind, Option.bind_some]
  rw [if_neg (by omega), if_neg (by omega), Char.ofNat_toNat]

theorem scanLowSurrogate_hex4 (high : Nat) {low : Nat} (hlow : 56320 ≤ low ∧ low ≤ 57343) (rest : List Char) :
    scanLowSurrogate high ('\\' :: 'u' :: hex4 low ++ rest) =
      some (Char.ofNat (65536 + (high - 55296) * 1024 + (low - 56320)), rest) := by
  simp only [hex4, List.cons_append, List.nil_append, scanLowSurrogate, and_self, if_true,
    hexVal4_digits (show low < 65536 by omega), Option.bind_eq_bind, Option.bind_some]
  rw [if_pos hlow]

/-- A character past the basic plane is read back from its surrogate pair. -/
theorem scanUnicode_pair {c : Char} (hpast : 65536 ≤ c.toNat) (rest : List Char) :
    scanUnicode (hex4 (55296 + (c.toNat - 65536) / 1024) ++
      ('\\' :: 'u' :: hex4 (56320 + (c.toNat - 65536) % 1024) ++ rest)) = some (c, rest) := by
  have hbound := Char.toNat_lt c
  have hlow : 56320 ≤ 56320 + (c.toNat - 65536) % 1024 ∧ 56320 + (c.toNat - 65536) % 1024 ≤ 57343 := by omega
  have hhigh : 55296 ≤ 55296 + (c.toNat - 65536) / 1024 ∧ 55296 + (c.toNat - 65536) / 1024 ≤ 56319 := by omega
  have hvalue : 65536 + (55296 + (c.toNat - 65536) / 1024 - 55296) * 1024 +
      (56320 + (c.toNat - 65536) % 1024 - 56320) = c.toNat := by omega
  have hread := scanLowSurrogate_hex4 (55296 + (c.toNat - 65536) / 1024) hlow rest
  rw [hvalue, Char.ofNat_toNat] at hread
  generalize 55296 + (c.toNat - 65536) / 1024 = high at hhigh hread ⊢
  rw [hex4, List.cons_append, List.cons_append, List.cons_append, List.cons_append, List.nil_append,
    scanUnicode, hexVal4_digits (by omega), Option.bind_eq_bind, Option.bind_some, if_pos hhigh, hread]

/-- Reading past one escaped character yields that character. -/
theorem scanString_escape (c : Char) (fuel : Nat) (rest : List Char) :
    scanString (fuel + 1) (escape c ++ rest) = (scanString fuel rest).map (fun read => (c :: read.1, read.2)) := by
  have hstep : ∀ (d : Char) (cs : List Char), scanEscape cs = some (d, rest) →
      scanString (fuel + 1) ('\\' :: cs) = (scanString fuel rest).map (fun read => (d :: read.1, read.2)) := by
    intro d cs hcs
    rw [scanString, if_neg (by decide), if_pos rfl, hcs]
    cases hread : scanString fuel rest <;> simp [hread]
  unfold escape
  by_cases hquote : c = '"'
  · subst hquote
    exact hstep _ _ rfl
  rw [if_neg hquote]
  by_cases hslash : c = '\\'
  · subst hslash
    exact hstep _ _ rfl
  rw [if_neg hslash]
  by_cases hn : c = '\n'
  · subst hn
    exact hstep _ _ rfl
  rw [if_neg hn]
  by_cases hr : c = '\r'
  · subst hr
    exact hstep _ _ rfl
  rw [if_neg hr]
  by_cases ht : c = '\t'
  · subst ht
    exact hstep _ _ rfl
  rw [if_neg ht]
  by_cases hf : c = '\x0c'
  · subst hf
    exact hstep _ _ rfl
  rw [if_neg hf]
  by_cases hb : c = '\x08'
  · subst hb
    exact hstep _ _ rfl
  rw [if_neg hb]
  by_cases hplain : 32 ≤ c.toNat ∧ c.toNat ≤ 126
  · rw [if_pos hplain, List.singleton_append, scanString, if_neg hquote, if_neg hslash, if_neg (by omega)]
    cases hread : scanString fuel rest <;> simp
  rw [if_neg hplain]
  by_cases hbasic : c.toNat < 65536
  · rw [if_pos hbasic]
    exact hstep c _ (scanUnicode_basic hbasic rest)
  · rw [if_neg hbasic]
    rw [List.cons_append, List.cons_append, List.cons_append, List.cons_append, List.append_assoc]
    exact hstep c _ (scanUnicode_pair (by omega) rest)

theorem escape_ne_nil (c : Char) : escape c ≠ [] := by
  unfold escape
  split_ifs <;> simp

/-- A written string is read back, whatever follows its closing quote. -/
theorem scanString_dump (cs : List Char) (rest : List Char) {fuel : Nat} (hfuel : cs.length < fuel) :
    scanString fuel (cs.flatMap escape ++ '"' :: rest) = some (cs, rest) := by
  induction cs generalizing fuel with
  | nil =>
    obtain ⟨fuel, rfl⟩ := Nat.exists_eq_succ_of_ne_zero (by omega : fuel ≠ 0)
    simp [scanString]
  | cons c cs ih =>
    obtain ⟨fuel, rfl⟩ := Nat.exists_eq_succ_of_ne_zero (by omega : fuel ≠ 0)
    have hrest : cs.length < fuel := by simpa using hfuel
    rw [List.flatMap_cons, List.append_assoc, scanString_escape, ih hrest]
    rfl

theorem length_le_flatMap_escape (cs : List Char) : cs.length ≤ (cs.flatMap escape).length := by
  induction cs with
  | nil => simp
  | cons c cs ih =>
    have hpos := List.length_pos_iff.mpr (escape_ne_nil c)
    simp only [List.flatMap_cons, List.length_cons, List.length_append]
    omega

/-- What may follow a written value: nothing, or a closing or separating mark. -/
def Closed : List Char → Prop
  | [] => True
  | c :: _ => c = ',' ∨ c = ']' ∨ c = '}'

theorem Closed.not_digit {c : Char} {cs : List Char} (h : Closed (c :: cs)) :
    c.isDigit = false ∧ c ≠ '.' ∧ c ≠ 'e' ∧ c ≠ 'E' := by
  rcases h with rfl | rfl | rfl <;> decide

private theorem takeWhile_digits {ds rest : List Char} (hds : ∀ d ∈ ds, d.isDigit = true)
    (hrest : Closed rest) : (ds ++ rest).takeWhile Char.isDigit = ds := by
  have htake : rest.takeWhile Char.isDigit = [] := by
    cases rest with
    | nil => rfl
    | cons c cs => simp [hrest.not_digit.1]
  rw [List.takeWhile_append_of_pos hds, htake, List.append_nil]

theorem eq_zero_of_digitChar : ∀ n < 10, n.digitChar = '0' → n = 0 := by decide

/-- A leading zero of a decimal numeral is the whole numeral. -/
theorem toDigits_head_zero {n : Nat} (h : (Nat.toDigits 10 n).head? = some '0') : Nat.toDigits 10 n = ['0'] := by
  induction n using Nat.strong_induction_on with
  | _ n ih =>
    by_cases hsmall : n < 10
    · rw [Nat.toDigits_of_lt_base hsmall] at h ⊢
      rw [eq_zero_of_digitChar n hsmall (by simpa using h)]
      rfl
    · rw [Nat.toDigits_of_base_le (by decide) (by omega)] at h
      rw [List.head?_append_of_ne_nil _ Nat.toDigits_ne_nil] at h
      have hlen_mask := ih (n / 10) (by omega) h
      have hzero := Nat.ofDigitChars_ten_toDigits (n := n / 10)
      rw [hlen_mask] at hzero
      have : n / 10 = 0 := by simpa [Nat.ofDigitChars_eq_foldl] using hzero.symm
      omega

theorem scanNat_toDigits (n : Nat) {rest : List Char} (hrest : Closed rest) :
    scanNat (Nat.toDigits 10 n ++ rest) = some (n, rest) := by
  have hdigits : ∀ d ∈ Nat.toDigits 10 n, d.isDigit = true :=
    fun d hd => Nat.isDigit_of_mem_toDigits (by decide) (by decide) hd
  have hne := Nat.toDigits_ne_nil (n := n) (b := 10)
  have hhead : (if (Nat.toDigits 10 n ++ rest).head? = some '0' then ['0']
      else (Nat.toDigits 10 n ++ rest).takeWhile Char.isDigit) = Nat.toDigits 10 n := by
    rw [List.head?_append_of_ne_nil _ hne]
    split
    · next h => exact (toDigits_head_zero h).symm
    · exact takeWhile_digits hdigits hrest
  have hmarks : ∀ c : Char, c = '.' ∨ c = 'e' ∨ c = 'E' → rest.head? ≠ some c := by
    intro c hc
    cases rest with
    | nil => simp
    | cons d ds =>
      have := hrest.not_digit
      simp only [List.head?_cons, ne_eq, Option.some.injEq]
      rintro rfl
      rcases hc with rfl | rfl | rfl <;> simp at this
  unfold scanNat
  simp only [hhead, List.drop_left]
  rw [if_neg, Nat.ofDigitChars_ten_toDigits]
  simp only [hne, false_or, not_or]
  exact ⟨hmarks '.' (by simp), hmarks 'e' (by simp), hmarks 'E' (by simp)⟩

variable (sep : Separators)

theorem skip_cons {c : Char} (h : isBlank c = false) (cs : List Char) : skip (c :: cs) = c :: cs := by
  simp [skip, h]

theorem skip_blank (cs : List Char) : skip (sep.blank ++ cs) = skip cs := by
  cases sep
  · rfl
  · simp [skip, Separators.blank, isBlank]

theorem expect_self {c : Char} (h : isBlank c = false) (cs : List Char) : expect c (c :: cs) = some cs := by
  simp [expect, skip_cons h]

theorem expect_other {c d : Char} (h : isBlank d = false) (hne : d ≠ c) (cs : List Char) :
    expect c (d :: cs) = none := by
  simp [expect, skip_cons h, hne]

/-- The first character of a written value. -/
def Opening (c : Char) : Prop :=
  c = '"' ∨ c = '[' ∨ c = '{' ∨ c = 'n' ∨ c = 't' ∨ c = 'f' ∨ c = '-' ∨ c.isDigit = true

theorem Opening.isBlank_eq {c : Char} (h : Opening c) : isBlank c = false := by
  rcases h with rfl | rfl | rfl | rfl | rfl | rfl | rfl | h
  all_goals first | rfl | skip
  simp only [isBlank, Bool.or_eq_false_iff, beq_eq_false_iff_ne]
  refine ⟨⟨⟨?_, ?_⟩, ?_⟩, ?_⟩ <;> (rintro rfl; revert h; decide)

theorem Opening.ne_bracket {c : Char} (h : Opening c) : c ≠ ']' := by
  rcases h with rfl | rfl | rfl | rfl | rfl | rfl | rfl | h
  all_goals first | decide | skip
  rintro rfl
  revert h
  decide

private theorem toDigits_opening (n : Nat) : ∃ c cs, Nat.toDigits 10 n = c :: cs ∧ c.isDigit = true := by
  obtain ⟨c, cs, hcs⟩ := List.exists_cons_of_ne_nil (Nat.toDigits_ne_nil (n := n) (b := 10))
  exact ⟨c, cs, hcs, Nat.isDigit_of_mem_toDigits (b := 10) (n := n) (by decide) (by decide) (by simp [hcs])⟩

theorem dump_opening (v : Value) : ∃ c cs, v.dump sep = c :: cs ∧ Opening c := by
  cases v with
  | null => exact ⟨'n', _, rfl, by simp [Opening]⟩
  | bool b =>
    cases b with
    | false => exact ⟨'f', _, rfl, by simp [Opening]⟩
    | true => exact ⟨'t', _, rfl, by simp [Opening]⟩
  | int n =>
    cases n with
    | ofNat n =>
      obtain ⟨c, cs, hcs, hc⟩ := toDigits_opening n
      exact ⟨c, cs, by simpa [Value.dump, dumpInt] using hcs, by simp [Opening, hc]⟩
    | negSucc n => exact ⟨'-', Nat.toDigits 10 (n + 1), by simp [Value.dump, dumpInt], by simp [Opening]⟩
  | str s => exact ⟨'"', _, by simp [Value.dump, dumpString]; rfl, by simp [Opening]⟩
  | arr items =>
    cases items <;> exact ⟨'[', _, by rw [Value.dump], by simp [Opening]⟩
  | obj fields =>
    cases fields with
    | nil => exact ⟨'{', _, by rw [Value.dump], by simp [Opening]⟩
    | cons f fs =>
      obtain ⟨k, v⟩ := f
      exact ⟨'{', _, by rw [Value.dump], by simp [Opening]⟩

theorem skip_dump (v : Value) (rest : List Char) : skip (v.dump sep ++ rest) = v.dump sep ++ rest := by
  obtain ⟨c, cs, hcs, hc⟩ := dump_opening sep v
  rw [hcs, List.cons_append, skip_cons hc.isBlank_eq]

theorem closed_dumpItems (vs : List Value) (rest : List Char) : Closed (dumpItems sep vs ++ rest) := by
  cases vs <;> simp [dumpItems, Closed]

theorem closed_dumpFields (fs : Fields) (rest : List Char) : Closed (dumpFields sep fs ++ rest) := by
  cases fs <;> simp [dumpFields, Closed]

theorem scanNat_digits_value (n : Nat) {fuel : Nat} (hfuel : 0 < fuel) {rest : List Char}
    (hrest : Closed rest) : scanValue fuel (Nat.toDigits 10 n ++ rest) = some (.int n, rest) := by
  obtain ⟨fuel, rfl⟩ := Nat.exists_eq_succ_of_ne_zero hfuel.ne'
  obtain ⟨c, cs, hcs, hc⟩ := toDigits_opening n
  have hne : ∀ d : Char, d.isDigit = false → c ≠ d := by
    rintro d hd rfl
    rw [hc] at hd
    cases hd
  have hread := scanNat_toDigits n hrest
  rw [hcs, List.cons_append] at hread ⊢
  rw [scanValue, if_neg (hne _ rfl), if_neg (hne _ rfl), if_neg (hne _ rfl), if_neg (hne _ rfl),
    if_neg (hne _ rfl), if_neg (hne _ rfl), if_neg (hne _ rfl), hread]
  rfl

theorem scanString_dumpString (s : String) (rest : List Char) :
    scanString (s.toList.flatMap escape ++ '"' :: rest).length
      (s.toList.flatMap escape ++ '"' :: rest) = some (s.toList, rest) := by
  have hlength := length_le_flatMap_escape s.toList
  refine scanString_dump s.toList rest ?_
  simp only [List.length_append, List.length_cons]
  omega

theorem scanKey_dump (k : String) (rest : List Char) :
    scanKey (dumpString k ++ ':' :: (sep.blank ++ rest)) = some (k, skip rest) := by
  simp only [scanKey, dumpString, List.cons_append, List.append_assoc,
    expect_self (show isBlank '"' = false from rfl), Option.bind_eq_bind, Option.bind_some,
    List.nil_append, scanString_dumpString, expect_self (show isBlank ':' = false from rfl), skip_blank,
    String.ofList_toList, Option.pure_def]

section Values

variable (sep : Separators)

/-- A value is read back from its text before any closing context. -/
def Reads (v : Value) : Prop :=
  ∀ fuel rest, (v.dump sep).length < fuel → Closed rest → scanValue fuel (v.dump sep ++ rest) = some (v, rest)

theorem scanItems_dump (v : Value) (vs : List Value) (fuel : Nat) (rest : List Char) (hv : Reads sep v)
    (hvs : ∀ w ∈ vs, Reads sep w) (hfuel : (v.dump sep ++ dumpItems sep vs).length < fuel) :
    scanItems fuel (v.dump sep ++ (dumpItems sep vs ++ rest)) = some (v :: vs, rest) := by
  induction vs generalizing v fuel with
  | nil =>
    obtain ⟨fuel, rfl⟩ := Nat.exists_eq_succ_of_ne_zero (by omega : fuel ≠ 0)
    simp only [List.length_append, dumpItems, List.length_singleton] at hfuel
    rw [scanItems, hv fuel _ (by omega) (closed_dumpItems sep [] rest)]
    simp [dumpItems, expect_self (show isBlank ']' = false from rfl)]
  | cons w ws ih =>
    obtain ⟨fuel, rfl⟩ := Nat.exists_eq_succ_of_ne_zero (by omega : fuel ≠ 0)
    have hlength : (w.dump sep ++ dumpItems sep ws).length < fuel := by
      simp only [List.length_append, dumpItems, List.length_cons] at hfuel ⊢
      omega
    have htail := ih w fuel (hvs w (by simp)) (fun x hx => hvs x (by simp [hx])) hlength
    have hhead : (v.dump sep).length < fuel := by
      simp only [List.length_append, dumpItems, List.length_cons] at hfuel
      omega
    rw [scanItems, hv fuel _ hhead (closed_dumpItems sep (w :: ws) rest)]
    simp [dumpItems, expect_other (show isBlank ',' = false from rfl) (show ',' ≠ ']' by decide),
      expect_self (show isBlank ',' = false from rfl), skip_blank, skip_dump, htail]

theorem scanFields_dump (k : String) (v : Value) (fs : Fields) (fuel : Nat) (rest : List Char)
    (hv : Reads sep v) (hfs : ∀ f ∈ fs, Reads sep f.2) (hfuel : (v.dump sep ++ dumpFields sep fs).length < fuel) :
    scanFields fuel (dumpString k ++ ':' :: (sep.blank ++ (v.dump sep ++ (dumpFields sep fs ++ rest)))) =
      some ((k, v) :: fs, rest) := by
  induction fs generalizing k v fuel with
  | nil =>
    obtain ⟨fuel, rfl⟩ := Nat.exists_eq_succ_of_ne_zero (by omega : fuel ≠ 0)
    simp only [List.length_append, dumpFields, List.length_singleton] at hfuel
    rw [scanFields, scanKey_dump, skip_dump]
    simp only [Option.bind_eq_bind, Option.bind_some]
    rw [hv fuel _ (by omega) (closed_dumpFields sep [] rest)]
    simp [dumpFields, expect_self (show isBlank '}' = false from rfl)]
  | cons f fs ih =>
    obtain ⟨l, w⟩ := f
    obtain ⟨fuel, rfl⟩ := Nat.exists_eq_succ_of_ne_zero (by omega : fuel ≠ 0)
    have hlength : (w.dump sep ++ dumpFields sep fs).length < fuel := by
      simp only [List.length_append, dumpFields, List.length_cons] at hfuel ⊢
      omega
    have htail := ih l w fuel (hfs (l, w) (by simp)) (fun x hx => hfs x (by simp [hx])) hlength
    have hkey : ∀ cs, skip (dumpString l ++ cs) = dumpString l ++ cs := fun cs => by
      rw [dumpString, List.cons_append, List.cons_append, skip_cons (by rfl)]
    have hhead : (v.dump sep).length < fuel := by
      simp only [List.length_append, dumpFields, List.length_cons] at hfuel
      omega
    rw [scanFields, scanKey_dump, skip_dump]
    simp only [Option.bind_eq_bind, Option.bind_some]
    rw [hv fuel _ hhead (closed_dumpFields sep ((l, w) :: fs) rest)]
    simp [dumpFields, expect_other (show isBlank ',' = false from rfl) (show ',' ≠ '}' by decide),
      expect_self (show isBlank ',' = false from rfl), skip_blank, hkey, htail]

/-- The scanner inverts the writer on every value. -/
theorem reads (v : Value) : Reads sep v := by
  induction v using Value.induction with
  | null =>
    intro fuel rest hfuel _
    obtain ⟨fuel, rfl⟩ := Nat.exists_eq_succ_of_ne_zero (by omega : fuel ≠ 0)
    rfl
  | bool b =>
    intro fuel rest hfuel _
    obtain ⟨fuel, rfl⟩ := Nat.exists_eq_succ_of_ne_zero (by omega : fuel ≠ 0)
    cases b <;> rfl
  | int n =>
    intro fuel rest hfuel hrest
    cases n with
    | ofNat n =>
      rw [Value.dump, dumpInt]
      exact scanNat_digits_value n (by omega) hrest
    | negSucc n =>
      obtain ⟨fuel, rfl⟩ := Nat.exists_eq_succ_of_ne_zero (by omega : fuel ≠ 0)
      rw [Value.dump, dumpInt, List.cons_append, scanValue]
      simp only [if_false, Char.reduceEq, if_true, scanNat_toDigits (n + 1) hrest]
      rfl
  | str s =>
    intro fuel rest hfuel hrest
    obtain ⟨fuel, rfl⟩ := Nat.exists_eq_succ_of_ne_zero (by omega : fuel ≠ 0)
    rw [Value.dump, dumpString, List.cons_append, List.cons_append, List.append_assoc,
      List.singleton_append, scanValue, if_pos rfl, scanString_dumpString]
    simp
  | arr items ih =>
    intro fuel rest hfuel hrest
    obtain ⟨fuel, rfl⟩ := Nat.exists_eq_succ_of_ne_zero (by omega : fuel ≠ 0)
    cases items with
    | nil =>
      rw [Value.dump, List.cons_append, List.singleton_append, scanValue, if_neg (by decide), if_pos rfl,
        expect_self rfl]
    | cons v vs =>
      have hitems := scanItems_dump sep v vs fuel rest (ih v (by simp))
        (fun w hw => ih w (by simp [hw]))
        (by simp only [Value.dump, List.length_cons, List.length_append] at hfuel ⊢; omega)
      obtain ⟨c, cs, hcs, hc⟩ := dump_opening sep v
      have hclose : expect ']' (v.dump sep ++ (dumpItems sep vs ++ rest)) = none := by
        rw [hcs, List.cons_append, expect_other hc.isBlank_eq hc.ne_bracket]
      rw [Value.dump, List.cons_append, List.append_assoc, scanValue, if_neg (by decide), if_pos rfl, hclose]
      simp [skip_dump, hitems]
  | obj fields ih =>
    intro fuel rest hfuel hrest
    obtain ⟨fuel, rfl⟩ := Nat.exists_eq_succ_of_ne_zero (by omega : fuel ≠ 0)
    cases fields with
    | nil =>
      rw [Value.dump, List.cons_append, List.singleton_append, scanValue, if_neg (by decide),
        if_neg (by decide), if_pos rfl, expect_self rfl]
    | cons f fs =>
      obtain ⟨k, v⟩ := f
      have hfields := scanFields_dump sep k v fs fuel rest (ih (k, v) (by simp))
        (fun w hw => ih w (by simp [hw]))
        (by simp only [Value.dump, List.length_cons, List.length_append] at hfuel ⊢; omega)
      have hclose : ∀ cs, expect '}' (dumpString k ++ cs) = none := fun cs => by
        rw [dumpString, List.cons_append, List.cons_append, expect_other (by rfl) (by decide)]
      have hkey : ∀ cs, skip (dumpString k ++ cs) = dumpString k ++ cs := fun cs => by
        rw [dumpString, List.cons_append, List.cons_append, skip_cons (by rfl)]
      rw [Value.dump, List.cons_append, scanValue, if_neg (by decide), if_neg (by decide), if_pos rfl]
      simp only [List.append_assoc, List.cons_append, hclose, hkey, hfields, Option.bind_eq_bind,
        Option.bind_some, Option.pure_def]

end Values

theorem scan_dumps (v : Value) : scan (dumps sep v) = some v := by
  have hread := reads sep v ((v.dump sep).length + 1) [] (by omega) trivial
  have hskip := skip_dump sep v []
  rw [List.append_nil] at hread hskip
  simp only [scan, dumps, String.toList_ofList, hskip, hread]
  rfl

/-- `json.loads(json.dumps(value))` gives the value back, with either separator. -/
theorem loads_dumps {v : Value} (h : v.WellFormed) : loads (dumps sep v) = some v := by
  rw [loads, scan_dumps, Option.map_some, h.dedup_eq]

/-- Distinct values have distinct texts. -/
theorem dumps_injective : Function.Injective (dumps sep) := by
  intro v w h
  have hread := scan_dumps sep v
  rw [h, scan_dumps] at hread
  exact (Option.some.inj hread).symm

theorem dumps_sorted_inj {v w : Value} : dumps_sorted sep v = dumps_sorted sep w ↔ v.sort_keys = w.sort_keys :=
  (dumps_injective sep).eq_iff

end json
