import Mathlib.Algebra.GroupWithZero.Nat
import Mathlib.Algebra.Order.BigOperators.Group.List
import Mathlib.Data.List.Perm.Subperm
import NetboxSync.Lib.Ip.Scoped
import NetboxSync.Lib.Json.Python

open ipaddress json

namespace netbox_guard.pfsense_catalog_policy

/-- The character tables behind `str.casefold`, `str.isdigit` and `int`. -/
structure Characters where
  casefold : String → String
  isdigit : Char → Bool
  decimal : Char → Option Nat

/-- `tokens`: the parts between blanks and commas. -/
def tokens (values : List String) : List String :=
  values.flatMap (fun value =>
    ((value.toList.splitOnP (fun c => isSpace c || c = ',')).filter (· ≠ [])).map String.ofList)

/-- `first <= address <= last` for a value `first-last` -/
def in_range (query value : String) : Bool :=
  match value.toList.splitOn '-' with
  | first :: rest@(_ :: _) =>
    match ip_address (String.ofList first), ip_address (String.ofList (['-'].intercalate rest)), ip_address query with
    | some first, some last, some address =>
      first.version = last.version && last.version = address.version && first.le address && address.le last
    | _, _, _ => false
  | _ => false

def contains (query value : String) : Bool :=
  match loose_network query, loose_network value with
  | none, _ => false
  | some requested, some candidate =>
    requested.version = candidate.version && candidate.network_address.le requested.network_address &&
      requested.high ≤ candidate.high
  | some _, none => !query.toList.contains '/' && in_range query value

section Search

variable (chars : Characters) (aliases : List (String × List String)) (query : String)

/-- `int(text)` of digits; more than 4300 of them and digits without a decimal value raise `ValueError`. -/
def int (text : List Char) : Option Nat :=
  if 4300 < text.length then none
  else (text.mapM chars.decimal).map (List.foldl (fun sofar digit => 10 * sofar + digit) 0)

/-- `\d`, the digits that `int` reads. -/
def isdecimal (c : Char) : Bool := (chars.decimal c).isSome

/-- The digits of a value that matches `\d+[:-]\d+` -/
def port_range (value : String) : Option (List Char × List Char) :=
  let first := value.toList.takeWhile (isdecimal chars)
  match value.toList.dropWhile (isdecimal chars) with
  | [] => none
  | sep :: last =>
    if first ≠ [] ∧ (sep = ':' ∨ sep = '-') ∧ last ≠ [] ∧ last.all (isdecimal chars) then some (first, last) else none

/-- `port_contains`, or nothing where `int` raises. -/
def port_contains (value : String) : Option Bool :=
  match port_range chars value with
  | none => some false
  | some (first, last) =>
    if query.toList = [] ∨ ¬ query.toList.all chars.isdigit then some false
    else do
      let start ← int chars first
      let «end» ← int chars last
      let port ← int chars query.toList
      return start ≤ port && port ≤ «end» && «end» ≤ 65535

/-- What the search accepts as a match. -/
def hits (item : String) : Option Bool :=
  if contains query item || chars.casefold query = chars.casefold item then some true
  else port_contains chars query item

/-- `tokens(aliases.get(current, []))` -/
def items (current : String) : List String := tokens ((dict.get aliases current).getD [])

/-- `item in aliases` -/
def named (item : String) : Bool := (dict.get aliases item).isSome

/-- `' → '.join(path + [item])` -/
def arrow (path : List String) (item : String) : String := " → ".intercalate (path ++ [item])

/-- The loop of `alias_paths`, with the last entry of `pending` first. -/
def search : Nat → List (String × List String) → List String → List String → Option (List String)
  | 0, _, _, found => some found
  | _ + 1, [], _, found => some found
  | fuel + 1, (current, path) :: pending, visited, found =>
    if 4096 ≤ visited.length then some found
    else if current ∈ visited ∨ 32 < path.length then search fuel pending visited found
    else if (items aliases current).any (fun item => hits chars query item = none) then none
    else
      let pushed := ((items aliases current).filter (named aliases)).map (fun item => (item, path ++ [item]))
      search fuel (pushed.reverse ++ pending) (current :: visited)
        (found ++ ((items aliases current).filter (fun item => hits chars query item = some true)).map (arrow path))

/-- Every alias is expanded once, so that no more entries are ever pending. -/
def effort : Nat := 1 + (aliases.map (fun entry => (items aliases entry.1).length)).sum

def alias_paths (name : String) : Option (List String) :=
  (search chars aliases query (effort aliases) [(name, [name])] [] []).map (List.take 5)

variable {chars : Characters} {aliases : List (String × List String)} {query : String}

/-- A chain of aliases from `start`, by the aliases on it and its last one. -/
inductive Chain (aliases : List (String × List String)) (start : String) : List String → String → Prop
  | start : Chain aliases start [start] start
  | next {path : List String} {current item : String} : Chain aliases start path current →
      item ∈ items aliases current → named aliases item → Chain aliases start (path ++ [item]) item

variable {current start : String} {fuel : Nat} {pending : List (String × List String)}
  {path visited found result : List String}

theorem items_eq_nil (h : named aliases current = false) : items aliases current = [] := by
  have hnone : dict.get aliases current = none := by simpa [named] using h
  simp [items, hnone, tokens]

theorem mem_keys_of_named (h : named aliases current) : current ∈ aliases.map Prod.fst := by
  rwa [named, dict.get_isSome_iff] at h

/-- A path reported by the search: a chain and a matching item of its last alias. -/
def Reported (chars : Characters) (aliases : List (String × List String)) (query start text : String) : Prop :=
  ∃ path current item, Chain aliases start path current ∧ item ∈ items aliases current ∧
    hits chars query item = some true ∧ text = arrow path item

/-- The entries that an expanded alias leaves to look at. -/
def pushed (aliases : List (String × List String)) (current : String) (path : List String) :
    List (String × List String) :=
  (((items aliases current).filter (named aliases)).map (fun item => (item, path ++ [item]))).reverse

theorem mem_pushed {entry : String × List String} :
    entry ∈ pushed aliases current path ↔
      ∃ item ∈ items aliases current, named aliases item ∧ entry = (item, path ++ [item]) := by
  simp only [pushed, List.mem_reverse, List.mem_map, List.mem_filter]
  constructor
  · rintro ⟨item, ⟨hitem, hnamed⟩, rfl⟩
    exact ⟨item, hitem, hnamed, rfl⟩
  · rintro ⟨item, hitem, hnamed, rfl⟩
    exact ⟨item, ⟨hitem, hnamed⟩, rfl⟩

/-- What the items of an expanded alias add to the paths found. -/
def matched (chars : Characters) (aliases : List (String × List String)) (query current : String)
    (path : List String) : List String :=
  ((items aliases current).filter (fun item => hits chars query item = some true)).map (arrow path)

/-- What every turn of the search keeps holds where it ends. -/
theorem search_rule {P : List (String × List String) → List String → Prop}
    (hskip : ∀ entry pending found, P (entry :: pending) found → P pending found)
    (hexpand : ∀ current path pending found, P ((current, path) :: pending) found →
      P (pushed aliases current path ++ pending) (found ++ matched chars aliases query current path))
    (hstart : P pending found)
    (hsearch : search chars aliases query fuel pending visited found = some result) : ∃ pending, P pending result := by
  induction fuel, pending, visited, found using search.induct chars aliases query with
  | case1 =>
    simp only [search, Option.some.injEq] at hsearch
    exact ⟨_, hsearch ▸ hstart⟩
  | case2 =>
    simp only [search, Option.some.injEq] at hsearch
    exact ⟨_, hsearch ▸ hstart⟩
  | case3 _ _ _ _ _ _ hfull =>
    simp only [search, if_pos hfull, Option.some.injEq] at hsearch
    exact ⟨_, hsearch ▸ hstart⟩
  | case4 _ _ _ _ _ _ hfull hseen ih =>
    simp only [search, if_neg hfull, if_pos hseen] at hsearch
    exact ih (hskip _ _ _ hstart) hsearch
  | case5 _ _ _ _ _ _ hfull hseen hraises =>
    simp only [search, if_neg hfull, if_neg hseen, if_pos hraises, reduceCtorEq] at hsearch
  | case6 _ _ _ _ _ _ hfull hseen hraises _ ih =>
    simp only [search, if_neg hfull, if_neg hseen, if_neg hraises] at hsearch
    exact ih (hexpand _ _ _ _ hstart) hsearch

/-- All that the search has comes from chains. -/
def Grounded (chars : Characters) (aliases : List (String × List String)) (query start : String)
    (pending : List (String × List String)) (found : List String) : Prop :=
  (∀ entry ∈ pending, Chain aliases start entry.2 entry.1) ∧ ∀ text ∈ found, Reported chars aliases query start text

theorem Grounded.expand (h : Grounded chars aliases query start ((current, path) :: pending) found) :
    Grounded chars aliases query start (pushed aliases current path ++ pending)
      (found ++ matched chars aliases query current path) := by
  obtain ⟨hpending, hfound⟩ := h
  have hchain := hpending _ List.mem_cons_self
  constructor
  · intro entry hentry
    rcases List.mem_append.mp hentry with hpushed | hrest
    · obtain ⟨item, hitem, hnamed, rfl⟩ := mem_pushed.mp hpushed
      exact .next hchain hitem hnamed
    · exact hpending entry (List.mem_cons_of_mem _ hrest)
  · intro text htext
    rcases List.mem_append.mp htext with hold | hnew
    · exact hfound text hold
    · simp only [matched, List.mem_map, List.mem_filter, decide_eq_true_eq] at hnew
      obtain ⟨item, ⟨hitem, hhit⟩, rfl⟩ := hnew
      exact ⟨path, current, item, hchain, hitem, hhit, rfl⟩

/-- What is left to push, counting each alias that is not yet visited. -/
def unvisited (aliases : List (String × List String)) (visited : List String) : Nat :=
  ((aliases.filter (fun entry => entry.1 ∉ visited)).map (fun entry => (items aliases entry.1).length)).sum

theorem sum_unvisited_le (weight : String → Nat) (entries : List (String × List String)) (h : current ∉ visited) :
    (if current ∈ entries.map Prod.fst then weight current else 0) +
        ((entries.filter (fun entry => entry.1 ∉ current :: visited)).map (fun entry => weight entry.1)).sum ≤
      ((entries.filter (fun entry => entry.1 ∉ visited)).map (fun entry => weight entry.1)).sum := by
  induction entries with
  | nil => simp
  | cons entry rest ih =>
    simp only [List.mem_cons] at ih
    by_cases hcurrent : entry.1 = current
    · subst hcurrent
      simp only [List.map_cons, List.mem_cons, true_or, if_true, List.filter_cons, not_true_eq_false, decide_false,
        Bool.false_eq_true, if_false, h, not_false_eq_true, decide_true, List.sum_cons]
      split at ih <;> omega
    · have hiff : current ∈ (entry :: rest).map Prod.fst ↔ current ∈ rest.map Prod.fst := by
        simp [Ne.symm hcurrent]
      rw [if_congr hiff rfl rfl]
      by_cases hvisited : entry.1 ∈ visited
      · simpa [hvisited] using ih
      · simp only [List.filter_cons, List.mem_cons, hcurrent, hvisited, or_self, not_false_eq_true, decide_true,
          if_true, List.map_cons, List.sum_cons]
        omega

theorem length_add_unvisited_le (h : current ∉ visited) :
    (items aliases current).length + unvisited aliases (current :: visited) ≤ unvisited aliases visited := by
  have hsum := sum_unvisited_le (fun name => (items aliases name).length) aliases h
  rw [← unvisited, ← unvisited] at hsum
  by_cases hnamed : named aliases current
  · rwa [if_pos (mem_keys_of_named hnamed)] at hsum
  · rw [items_eq_nil (by simpa using hnamed)]
    simp only [List.length_nil]
    omega

/-- Between two turns of a search from `start` that has found nothing. -/
structure Searched (chars : Characters) (aliases : List (String × List String)) (query start : String)
    (pending : List (String × List String)) (visited : List String) : Prop where
  chain : ∀ entry ∈ pending, Chain aliases start entry.2 entry.1
  expanded : ∀ entry ∈ pending, ∃ before, entry.2 = before ++ [entry.1] ∧ before.Nodup ∧ before ⊆ visited
  entries_named : ∀ entry ∈ pending, named aliases entry.1
  visited_named : ∀ current ∈ visited, named aliases current
  nodup : visited.Nodup
  start : start ∈ visited ∨ start ∈ pending.map Prod.fst
  barren : ∀ current ∈ visited, ∀ item ∈ items aliases current, hits chars query item ≠ some true
  closed : ∀ current ∈ visited, ∀ item ∈ items aliases current, named aliases item →
    item ∈ visited ∨ item ∈ pending.map Prod.fst

/-- No turn stops at the number of visited aliases. -/
theorem Searched.length_lt (hsearched : Searched chars aliases query start pending visited)
    (hnames : aliases.length < 4096) : visited.length < 4096 := by
  have hsubset : visited ⊆ aliases.map Prod.fst := fun current hcurrent =>
    mem_keys_of_named (hsearched.visited_named current hcurrent)
  have hlength := (List.subperm_of_subset hsearched.nodup hsubset).length_le
  rw [List.length_map] at hlength
  omega

/-- A path to an alias that is not visited meets no alias twice. -/
theorem Searched.path_nodup (hsearched : Searched chars aliases query start ((current, path) :: pending) visited)
    (hnew : current ∉ visited) : path.Nodup := by
  obtain ⟨before, hpath, hnodup, hbefore⟩ := hsearched.expanded _ List.mem_cons_self
  rw [show path = before ++ [current] from hpath, ← List.concat_eq_append]
  exact hnodup.concat (fun hmem => hnew (hbefore hmem))

theorem Searched.skip {entry : String × List String}
    (hsearched : Searched chars aliases query start (entry :: pending) visited) (hvisited : entry.1 ∈ visited) :
    Searched chars aliases query start pending visited where
  chain other hother := hsearched.chain other (List.mem_cons_of_mem _ hother)
  expanded other hother := hsearched.expanded other (List.mem_cons_of_mem _ hother)
  entries_named other hother := hsearched.entries_named other (List.mem_cons_of_mem _ hother)
  visited_named := hsearched.visited_named
  nodup := hsearched.nodup
  start := by
    rcases hsearched.start with hstart | hstart
    · exact .inl hstart
    · rcases List.mem_cons.mp hstart with rfl | hrest
      · exact .inl hvisited
      · exact .inr hrest
  barren := hsearched.barren
  closed current hcurrent item hitem hnamed := by
    rcases hsearched.closed current hcurrent item hitem hnamed with hmem | hmem
    · exact .inl hmem
    · rcases List.mem_cons.mp hmem with rfl | hrest
      · exact .inl hvisited
      · exact .inr hrest

theorem Searched.expand (hsearched : Searched chars aliases query start ((current, path) :: pending) visited)
    (hnew : current ∉ visited) (hbarren : ∀ item ∈ items aliases current, hits chars query item ≠ some true) :
    Searched chars aliases query start (pushed aliases current path ++ pending) (current :: visited) := by
  have hchain := hsearched.chain _ List.mem_cons_self
  have hpath := hsearched.path_nodup hnew
  obtain ⟨before, hbefore, -, hvisited⟩ := hsearched.expanded _ List.mem_cons_self
  have hpath_visited : path ⊆ current :: visited := by
    intro name hname
    rw [show path = before ++ [current] from hbefore, List.mem_append, List.mem_singleton] at hname
    rcases hname with hmem | rfl
    · exact List.mem_cons_of_mem _ (hvisited hmem)
    · exact List.mem_cons_self
  -- an alias that was visited or pending is visited or pending
  have hmoved : ∀ {name : String}, name ∈ visited ∨ name ∈ ((current, path) :: pending).map Prod.fst →
      name ∈ current :: visited ∨ name ∈ (pushed aliases current path ++ pending).map Prod.fst := by
    rintro name (hmem | hmem)
    · exact .inl (List.mem_cons_of_mem _ hmem)
    · rcases List.mem_cons.mp hmem with rfl | hrest
      · exact .inl List.mem_cons_self
      · exact .inr (List.map_append ▸ List.mem_append_right _ hrest)
  refine ⟨?_, ?_, ?_, ?_, hsearched.nodup.cons hnew, hmoved hsearched.start, ?_, ?_⟩
  · intro entry hentry
    rcases List.mem_append.mp hentry with hpushed | hrest
    · obtain ⟨item, hitem, hnamed, rfl⟩ := mem_pushed.mp hpushed
      exact .next hchain hitem hnamed
    · exact hsearched.chain entry (List.mem_cons_of_mem _ hrest)
  · intro entry hentry
    rcases List.mem_append.mp hentry with hpushed | hrest
    · obtain ⟨item, -, -, rfl⟩ := mem_pushed.mp hpushed
      exact ⟨path, rfl, hpath, hpath_visited⟩
    · obtain ⟨before, hbefore, hnodup, hvisited⟩ := hsearched.expanded entry (List.mem_cons_of_mem _ hrest)
      exact ⟨before, hbefore, hnodup, fun name hname => List.mem_cons_of_mem _ (hvisited hname)⟩
  · intro entry hentry
    rcases List.mem_append.mp hentry with hpushed | hrest
    · obtain ⟨item, -, hnamed, rfl⟩ := mem_pushed.mp hpushed
      exact hnamed
    · exact hsearched.entries_named entry (List.mem_cons_of_mem _ hrest)
  · exact List.forall_mem_cons.mpr ⟨hsearched.entries_named _ List.mem_cons_self, hsearched.visited_named⟩
  · exact List.forall_mem_cons.mpr ⟨hbarren, hsearched.barren⟩
  · refine List.forall_mem_cons.mpr ⟨fun item hitem hnamed => .inr ?_, ?_⟩
    · exact List.mem_map.mpr ⟨_, List.mem_append_left _ (mem_pushed.mpr ⟨item, hitem, hnamed, rfl⟩), rfl⟩
    · exact fun name hname item hitem hnamed => hmoved (hsearched.closed name hname item hitem hnamed)

/-- What has been found stays found. -/
theorem found_subset (hsearch : search chars aliases query fuel pending visited found = some result) :
    found ⊆ result := by
  obtain ⟨-, hresult⟩ := search_rule (P := fun _ later => found ⊆ later) (fun _ _ _ h => h)
    (fun _ _ _ _ h _ htext => List.mem_append_left _ (h htext)) (fun _ h => h) hsearch
  exact hresult

/-- A search that ends with nothing has expanded every alias it can reach. -/
theorem search_exhausts (hnames : aliases.length < 4096)
    (hdepth : ∀ path current, Chain aliases start path current → path.Nodup → path.length ≤ 32)
    (hsearched : Searched chars aliases query start pending visited)
    (hfuel : pending.length + unvisited aliases visited ≤ fuel)
    (hsearch : search chars aliases query fuel pending visited [] = some []) :
    ∃ visited, Searched chars aliases query start [] visited := by
  induction fuel generalizing pending visited with
  | zero =>
    have hpending : pending = [] := List.eq_nil_of_length_eq_zero (by omega)
    exact ⟨visited, hpending ▸ hsearched⟩
  | succ fuel ih =>
    cases pending with
    | nil => exact ⟨visited, hsearched⟩
    | cons entry pending =>
      obtain ⟨current, path⟩ := entry
      have hfull := Nat.not_le.mpr (hsearched.length_lt hnames)
      rw [List.length_cons] at hfuel
      by_cases hvisited : current ∈ visited
      · simp only [search, if_neg hfull, if_pos (Or.inl hvisited : current ∈ visited ∨ 32 < path.length)] at hsearch
        exact ih (hsearched.skip hvisited) (by omega) hsearch
      · have hlength := hdepth path current (hsearched.chain _ List.mem_cons_self) (hsearched.path_nodup hvisited)
        have hskip : ¬ (current ∈ visited ∨ 32 < path.length) := by
          rintro (h | h)
          · exact hvisited h
          · omega
        by_cases hraises : (items aliases current).any (fun item => hits chars query item = none)
        · simp only [search, if_neg hfull, if_neg hskip, if_pos hraises, reduceCtorEq] at hsearch
        · simp only [search, if_neg hfull, if_neg hskip, if_neg hraises, List.nil_append] at hsearch
          have hnothing := found_subset hsearch
          have hnone := List.eq_nil_of_subset_nil hnothing
          rw [hnone] at hsearch
          have hbarren : ∀ item ∈ items aliases current, hits chars query item ≠ some true := by
            intro item hitem hhit
            have hmem : arrow path item ∈ ([] : List String) := by
              rw [← hnone]
              exact List.mem_map_of_mem (List.mem_filter.mpr ⟨hitem, by simpa using hhit⟩)
            exact List.not_mem_nil hmem
          apply ih (hsearched.expand hvisited hbarren) _ hsearch
          have hunvisited := @length_add_unvisited_le aliases current visited hvisited
          have hpushed := List.length_filter_le (named aliases) (items aliases current)
          rw [List.length_append, pushed, List.length_reverse, List.length_map]
          omega

theorem Chain.mem {path : List String} (hchain : Chain aliases start path current) (hstart : start ∈ visited)
    (hclosed : ∀ current ∈ visited, ∀ item ∈ items aliases current, named aliases item → item ∈ visited) :
    current ∈ visited := by
  induction hchain with
  | start => exact hstart
  | next _ hitem hnamed ih => exact hclosed _ ih _ hitem hnamed

/-- No item of the table makes `port_contains` raise. -/
def Readable (chars : Characters) (aliases : List (String × List String)) (query : String) : Prop :=
  ∀ current, ∀ item ∈ items aliases current, hits chars query item ≠ none

theorem search_ne_none (hread : Readable chars aliases query) (fuel : Nat) (pending : List (String × List String))
    (visited found : List String) : ∃ result, search chars aliases query fuel pending visited found = some result := by
  induction fuel, pending, visited, found using search.induct chars aliases query with
  | case1 => exact ⟨_, rfl⟩
  | case2 => exact ⟨_, rfl⟩
  | case3 _ _ _ _ _ _ hfull => exact ⟨_, by rw [search, if_pos hfull]⟩
  | case4 _ _ _ _ _ _ hfull hskip ih =>
    simp only [search, if_neg hfull, if_pos hskip]
    exact ih
  | case5 _ _ _ _ _ _ _ _ hraises =>
    simp only [List.any_eq_true, decide_eq_true_eq] at hraises
    obtain ⟨item, hitem, hnone⟩ := hraises
    exact absurd hnone (hread _ item hitem)
  | case6 _ _ _ _ _ _ hfull hskip hraises _ ih =>
    simp only [search, if_neg hfull, if_neg hskip, if_neg hraises]
    exact ih

theorem searched_start (hnamed : named aliases start) : Searched chars aliases query start [(start, [start])] [] where
  chain entry hentry := by
    rw [List.mem_singleton.mp hentry]
    exact .start
  expanded entry hentry := by
    rw [List.mem_singleton.mp hentry]
    exact ⟨[], by simp⟩
  entries_named entry hentry := by
    rw [List.mem_singleton.mp hentry]
    exact hnamed
  visited_named := by simp
  nodup := List.nodup_nil
  start := .inr (by simp)
  barren := by simp
  closed := by simp

end Search

/-- The tables for ASCII text. -/
def Characters.ascii : Characters where
  casefold := String.map Char.toLower
  isdigit := Char.isDigit
  decimal c := if c.isDigit then some (c.toNat - '0'.toNat) else none

/-- The `n`-th of the nested aliases. -/
def nth (n : Nat) : String := String.ofList ('a' :: Nat.toDigits 10 n)

/-- One alias that names `x` at once and again after thirty nested aliases. -/
def nested : List (String × List String) :=
  (nth 1, ["x", nth 2]) :: (List.range 29).map (fun n => (nth (n + 2), [nth (n + 3)])) ++
    [(nth 31, ["x"]), ("x", ["y"]), ("y", ["10.0.0.1"])]

/-- Two aliases that name each other. -/
def cyclic : List (String × List String) := [("lan", ["wan"]), ("wan", ["lan, 10.0.0.0/8"])]

theorem items_cyclic (current : String) :
    items cyclic current = [] ∨ items cyclic current = ["wan"] ∨ items cyclic current = ["lan", "10.0.0.0/8"] := by
  by_cases hlan : "lan" = current
  · subst hlan
    exact .inr (.inl (by decide +kernel))
  · by_cases hwan : "wan" = current
    · subst hwan
      exact .inr (.inr (by decide +kernel))
    · exact .inl (by simp [items, cyclic, dict.get, hlan, hwan, tokens])

end netbox_guard.pfsense_catalog_policy
