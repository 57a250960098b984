import NetboxSync.Lib.Json.RoundTrip

namespace json

/-! Text after what a scanner has read does not change what it reads. -/

variable {q : List Char}

/-- What the first scanner reads the second reads too, and `q` follows what it leaves. -/
def Extends {α : Type} (q : List Char) (x y : Option (α × List Char)) : Prop :=
  ∀ a rest, x = some (a, rest) → y = some (a, rest ++ q)

section

variable {α β : Type} {x y x' y' : Option (α × List Char)}

theorem Extends.none : Extends q .none y := nofun

theorem Extends.done {a : α} {rest : List Char} : Extends q (some (a, rest)) (some (a, rest ++ q)) := by
  rintro _ _ ⟨⟩
  rfl

theorem Extends.ite {p : Prop} [Decidable p] (h : Extends q x y) (h' : ¬p → Extends q x' y') :
    Extends q (if p then x else x') (if p then y else y') := by
  split
  · exact h
  · next hp => exact h' hp

theorem Extends.same {x : Option β} {f g : β → Option (α × List Char)} (h : ∀ b, Extends q (f b) (g b)) :
    Extends q (x >>= f) (x >>= g) := by
  cases x with
  | none => exact .none
  | some b => exact h b

/-- The first of two scanners may rely on the second. -/
theorem Extends.bind {f g : α × List Char → Option (β × List Char)}
    (hx : ∀ a rest read, x = some (a, rest) → f (a, rest) = some read → y = some (a, rest ++ q))
    (hf : ∀ a rest, Extends q (f (a, rest)) (g (a, rest ++ q))) : Extends q (x >>= f) (y >>= g) := by
  intro b rest h
  obtain ⟨⟨a, middle⟩, ha, hb⟩ := Option.bind_eq_some_iff.mp h
  rw [hx a middle _ ha hb]
  exact hf a middle b rest hb

theorem Extends.map {f : α → β} (hx : Extends q x y) :
    Extends q (x >>= fun read => some (f read.1, read.2)) (y >>= fun read => some (f read.1, read.2)) :=
  .bind (fun a rest _ ha _ => hx a rest ha) (fun _ _ => .done)

end

variable {cs rest : List Char} {c : Char} {fuel fuel' : Nat}

theorem scanLowSurrogate_append {high : Nat} :
    Extends q (scanLowSurrogate high cs) (scanLowSurrogate high (cs ++ q)) := by
  unfold scanLowSurrogate
  split
  · exact .ite (.same (fun _ => .ite .done (fun _ => .none))) (fun _ => .none)
  · exact .none

theorem scanUnicode_append : Extends q (scanUnicode cs) (scanUnicode (cs ++ q)) := by
  unfold scanUnicode
  split
  · exact .same (fun _ => .ite scanLowSurrogate_append (fun _ => .ite .none (fun _ => .done)))
  · exact .none

theorem scanEscape_append : Extends q (scanEscape cs) (scanEscape (cs ++ q)) := by
  cases cs with
  | nil => exact .none
  | cons d cs =>
    simp only [scanEscape, List.cons_append]
    repeat' refine .ite ?_ (fun _ => ?_)
    all_goals first | exact .done | exact .none | exact scanUnicode_append

theorem scanString_append (hfuel : fuel ≤ fuel') : Extends q (scanString fuel cs) (scanString fuel' (cs ++ q)) := by
  induction fuel generalizing fuel' cs with
  | zero => exact .none
  | succ fuel ih =>
    obtain ⟨fuel', rfl⟩ := Nat.exists_eq_succ_of_ne_zero (by omega : fuel' ≠ 0)
    have hle : fuel ≤ fuel' := by omega
    cases cs with
    | nil => exact .none
    | cons c cs =>
      refine .ite .done (fun _ => .ite ?_ (fun _ => .ite .none (fun _ => (ih hle).map)))
      exact .bind (fun a rest _ ha _ => scanEscape_append a rest ha) (fun _ _ => (ih hle).map)

theorem skip_append (h : skip cs ≠ []) : skip (cs ++ q) = skip cs ++ q := by
  unfold skip at h ⊢
  rw [List.dropWhile_append, if_neg]
  simpa using h

theorem expect_append (h : expect c cs = some rest) : expect c (cs ++ q) = some (rest ++ q) := by
  unfold expect at h ⊢
  split at h
  · cases h
  · next d after hskip =>
    rw [skip_append (by simp [hskip]), hskip]
    split at h
    · next hd =>
      cases h
      simp [hd]
    · cases h

theorem expect_append_none (hskip : skip cs ≠ []) (h : expect c cs = none) : expect c (cs ++ q) = none := by
  unfold expect at h ⊢
  rw [skip_append hskip]
  split at h
  · next hnil => exact absurd hnil hskip
  · next d after hcons =>
    rw [hcons]
    split at h
    · cases h
    · next hd => simp [hd]

theorem skip_ne_nil_of_expect (h : expect c cs = some rest) : skip cs ≠ [] := by
  intro hnil
  simp [expect, hnil] at h

theorem scanLiteral_append {word : List Char} {v : Value} :
    Extends q (scanLiteral word v cs) (scanLiteral word v (cs ++ q)) := by
  intro w rest h
  unfold scanLiteral at h ⊢
  split at h
  · next htake =>
    cases h
    have hlength : word.length ≤ cs.length := by
      have := congrArg List.length htake
      rw [List.length_take] at this
      omega
    rw [List.take_append_of_le_length hlength, if_pos htake, List.drop_append_of_le_length hlength]
  · cases h

/-- A number is over where something else follows it. -/
theorem scanNat_append {n : Nat} (hrest : rest ≠ []) (h : scanNat cs = some (n, rest)) :
    scanNat (cs ++ q) = some (n, rest ++ q) := by
  unfold scanNat at h ⊢
  have hcs : cs ≠ [] := by
    rintro rfl
    simp at h
  have hhead : (cs ++ q).head? = cs.head? := by
    cases cs with
    | nil => exact absurd rfl hcs
    | cons c cs => rfl
  have htake : (if cs.head? = some '0' then ['0'] else (cs ++ q).takeWhile Char.isDigit) =
      if cs.head? = some '0' then ['0'] else cs.takeWhile Char.isDigit := by
    split
    · rfl
    · next hzero =>
      rw [if_neg hzero] at h
      rw [List.takeWhile_append, if_neg]
      intro hall
      dsimp only at h
      split at h
      · cases h
      · obtain ⟨_, rfl⟩ := Prod.mk.inj (Option.some.inj h)
        rw [hall, List.drop_length] at hrest
        exact hrest rfl
  dsimp only at h ⊢
  rw [hhead, htake]
  generalize (if cs.head? = some '0' then ['0'] else cs.takeWhile Char.isDigit) = digits at *
  split at h
  · cases h
  · next hnumber =>
    obtain ⟨rfl, rfl⟩ := Prod.mk.inj (Option.some.inj h)
    have hlength : digits.length ≤ cs.length := by
      by_contra hlong
      exact hrest (List.drop_eq_nil_of_le (by omega))
    rw [List.drop_append_of_le_length hlength]
    have hfollow : (cs.drop digits.length ++ q).head? = (cs.drop digits.length).head? := by
      cases hdrop : cs.drop digits.length with
      | nil => exact absurd hdrop hrest
      | cons c after => rfl
    rw [hfollow, if_neg hnumber]

/-- A closing bracket, or what is read where there is none. -/
theorem closes {α : Type} {x y : Option (α × List Char)} {v : α} (hskip : ∀ read, x = some read → skip cs ≠ [])
    (h : Extends q x y) :
    Extends q (match expect c cs with | some rest => some (v, rest) | none => x)
      (match expect c (cs ++ q) with | some rest => some (v, rest) | none => y) := by
  intro a rest ha
  cases hclose : expect c cs with
  | some after =>
    rw [hclose] at ha
    cases ha
    rw [expect_append hclose]
  | none =>
    rw [hclose] at ha
    rw [expect_append_none (hskip _ ha) hclose]
    exact h a rest ha

/-- A closing bracket, or a comma and what is read after it. -/
theorem separates {α : Type} {f g : List Char → Option (α × List Char)} {v : α}
    (h : ∀ rest, Extends q (f rest) (g (rest ++ q))) :
    Extends q (match expect c cs with | some rest => some (v, rest) | none => expect ',' cs >>= f)
      (match expect c (cs ++ q) with | some rest => some (v, rest) | none => expect ',' (cs ++ q) >>= g) := by
  refine closes (fun read hread => ?_) (fun a rest ha => ?_)
  · obtain ⟨_, hcomma, _⟩ := Option.bind_eq_some_iff.mp hread
    exact skip_ne_nil_of_expect hcomma
  · obtain ⟨after, hcomma, ha⟩ := Option.bind_eq_some_iff.mp ha
    rw [expect_append hcomma]
    exact h after a rest ha

theorem scanKey_append {key : String} (h : scanKey cs = some (key, rest)) (hrest : rest ≠ []) :
    scanKey (cs ++ q) = some (key, rest ++ q) := by
  simp only [scanKey, Option.bind_eq_bind, Option.bind_eq_some_iff] at h
  obtain ⟨opened, hopen, ⟨chars, closed⟩, hchars, after, hcolon, ⟨⟩⟩ := h
  have hstring := scanString_append (q := q) (by simp : opened.length ≤ (opened ++ q).length) chars closed hchars
  simp only [scanKey, Option.bind_eq_bind, expect_append hopen, Option.bind_some, hstring,
    expect_append hcolon, skip_append hrest, Option.pure_def]

theorem scanValue_ne_nil {read : Value × List Char} (h : scanValue fuel cs = some read) : cs ≠ [] := by
  rintro rfl
  cases fuel <;> cases h

theorem scanItems_ne_nil {read : List Value × List Char} (h : scanItems fuel cs = some read) : cs ≠ [] := by
  cases fuel with
  | zero => cases h
  | succ fuel =>
    simp only [scanItems, Option.bind_eq_bind, Option.bind_eq_some_iff] at h
    obtain ⟨_, hv, _⟩ := h
    exact scanValue_ne_nil hv

theorem scanFields_ne_nil {read : Fields × List Char} (h : scanFields fuel cs = some read) : cs ≠ [] := by
  rintro rfl
  cases fuel <;> cases h

/-- What the three scanners read does not depend on what follows. A value must be over: something follows it, or it
    is a dictionary. -/
theorem scan_append (fuel : Nat) :
    (∀ {cs rest : List Char} {v : Value} {fuel' : Nat}, fuel ≤ fuel' →
      scanValue fuel cs = some (v, rest) → (rest ≠ [] ∨ cs.head? = some '{') →
        scanValue fuel' (cs ++ q) = some (v, rest ++ q)) ∧
    (∀ {cs : List Char} {fuel' : Nat}, fuel ≤ fuel' → Extends q (scanItems fuel cs) (scanItems fuel' (cs ++ q))) ∧
    (∀ {cs : List Char} {fuel' : Nat}, fuel ≤ fuel' → Extends q (scanFields fuel cs) (scanFields fuel' (cs ++ q))) := by
  induction fuel with
  | zero => exact ⟨nofun, fun _ => .none, fun _ => .none⟩
  | succ fuel ih =>
    obtain ⟨hvalue, hitems, hfields⟩ := ih
    have hskipItems : ∀ {cs : List Char} {fuel' : Nat}, fuel ≤ fuel' →
        Extends q (scanItems fuel (skip cs)) (scanItems fuel' (skip (cs ++ q))) := by
      intro cs fuel' hle vs rest h
      rw [skip_append (scanItems_ne_nil h)]
      exact hitems hle vs rest h
    have hskipFields : ∀ {cs : List Char} {fuel' : Nat}, fuel ≤ fuel' →
        Extends q (scanFields fuel (skip cs)) (scanFields fuel' (skip (cs ++ q))) := by
      intro cs fuel' hle fs rest h
      rw [skip_append (scanFields_ne_nil h)]
      exact hfields hle fs rest h
    refine ⟨?_, ?_, ?_⟩
    · intro cs rest v fuel' hfuel h hover
      obtain ⟨fuel', rfl⟩ := Nat.exists_eq_succ_of_ne_zero (by omega : fuel' ≠ 0)
      have hle : fuel ≤ fuel' := by omega
      cases cs with
      | nil => cases h
      | cons c cs =>
        by_cases hdict : c = '{'
        · subst hdict
          refine closes (fun read hread => ?_) (hskipFields hle).map v rest h
          obtain ⟨_, hfields, _⟩ := Option.bind_eq_some_iff.mp hread
          exact scanFields_ne_nil hfields
        -- What is not a dictionary is followed by something, and a number is over there.
        have hrest : rest ≠ [] := hover.resolve_right (by simpa using hdict)
        have hnumber : ∀ (cs : List Char) (f : Nat → Value),
            (scanNat cs >>= fun read => some (f read.1, read.2)) = some (v, rest) →
              (scanNat (cs ++ q) >>= fun read => some (f read.1, read.2)) = some (v, rest ++ q) := by
          intro cs f h
          obtain ⟨⟨n, after⟩, hn, ⟨⟩⟩ := Option.bind_eq_some_iff.mp h
          rw [scanNat_append hrest hn]
          rfl
        revert h
        simp only [scanValue, List.cons_append, if_neg hdict]
        by_cases hstring : c = '"'
        · rw [if_pos hstring, if_pos hstring]
          have hlength : cs.length ≤ (cs ++ q).length := by simp
          exact (scanString_append hlength).map (f := fun s => .str (String.ofList s)) v rest
        by_cases harray : c = '['
        · rw [if_neg hstring, if_neg hstring, if_pos harray, if_pos harray]
          refine closes (fun read hread => ?_) (hskipItems hle).map v rest
          obtain ⟨_, hitems, _⟩ := Option.bind_eq_some_iff.mp hread
          exact scanItems_ne_nil hitems
        rw [if_neg hstring, if_neg hstring, if_neg harray, if_neg harray]
        repeat' split
        · exact scanLiteral_append v rest
        · exact scanLiteral_append v rest
        · exact scanLiteral_append v rest
        · exact hnumber cs (fun n => .int (-n))
        · exact hnumber (c :: cs) (fun n => .int n)
    · intro cs fuel' hfuel
      obtain ⟨fuel', rfl⟩ := Nat.exists_eq_succ_of_ne_zero (by omega : fuel' ≠ 0)
      have hle : fuel ≤ fuel' := by omega
      refine .bind (fun v rest read hv hread => hvalue hle hv (.inl ?_)) (fun v rest => separates (fun _ => ?_))
      · rintro rfl
        cases hread
      · exact (hskipItems hle).map
    · intro cs fuel' hfuel
      obtain ⟨fuel', rfl⟩ := Nat.exists_eq_succ_of_ne_zero (by omega : fuel' ≠ 0)
      have hle : fuel ≤ fuel' := by omega
      refine .bind (fun key rest read hkey hread => ?_) (fun key rest => ?_)
      · obtain ⟨_, hv, _⟩ := Option.bind_eq_some_iff.mp hread
        exact scanKey_append hkey (scanValue_ne_nil hv)
      refine .bind (fun v rest read hv hread => hvalue hle hv (.inl ?_)) (fun v rest => separates (fun _ => ?_))
      · rintro rfl
        cases hread
      · exact (hskipFields hle).map

/-- No text of a dictionary can be read before it is complete. -/
theorem loads_take_dumps (sep : Separators) (fields : Fields) {n : Nat}
    (h : n < ((Value.obj fields).dump sep).length) :
    loads (String.ofList (((Value.obj fields).dump sep).take n)) = none := by
  obtain ⟨body, hbody⟩ : ∃ body, (Value.obj fields).dump sep = '{' :: body := by
    cases fields with
    | nil => exact ⟨_, rfl⟩
    | cons f fs => exact ⟨_, rfl⟩
  have hread := reads sep (Value.obj fields) (((Value.obj fields).dump sep).length + 1) [] (by omega) trivial
  rw [List.append_nil] at hread
  rw [loads, Option.map_eq_none_iff, scan, String.toList_ofList]
  cases n with
  | zero => rfl
  | succ n =>
    have hsplit := List.take_append_drop (n + 1) ((Value.obj fields).dump sep)
    have hskip : skip (((Value.obj fields).dump sep).take (n + 1)) = ((Value.obj fields).dump sep).take (n + 1) := by
      rw [hbody, List.take_succ_cons, skip_cons (by rfl)]
    rw [hskip]
    split
    · next v rest hscan =>
      -- Scanning the whole text would stop where scanning its beginning stopped.
      have hwhole := (scan_append (q := ((Value.obj fields).dump sep).drop (n + 1)) _).1
        (by simp only [List.length_take]; omega :
          (((Value.obj fields).dump sep).take (n + 1)).length + 1 ≤
            ((Value.obj fields).dump sep).length + 1) hscan
        (.inr (by rw [hbody, List.take_succ_cons, List.head?_cons]))
      rw [hsplit, hread] at hwhole
      have hnil := congrArg List.length (Prod.mk.inj (Option.some.inj hwhole)).2
      simp only [List.length_nil, List.length_append, List.length_drop] at hnil
      omega
    · rfl

end json
