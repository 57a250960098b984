import NetboxSync.Lib.Json.Value

namespace json

def isBlank (c : Char) : Bool := c == ' ' || c == '\t' || c == '\n' || c == '\r'

def skip (cs : List Char) : List Char := cs.dropWhile isBlank

def hexVal (c : Char) : Option Nat :=
  if '0' ≤ c ∧ c ≤ '9' then some (c.toNat - '0'.toNat)
  else if 'a' ≤ c ∧ c ≤ 'f' then some (c.toNat - 'a'.toNat + 10)
  else if 'A' ≤ c ∧ c ≤ 'F' then some (c.toNat - 'A'.toNat + 10)
  else none

def hexVal4 (a b c d : Char) : Option Nat := do
  let a ← hexVal a
  let b ← hexVal b
  let c ← hexVal c
  let d ← hexVal d
  return ((a * 16 + b) * 16 + c) * 16 + d

/-- A low surrogate that completes the high surrogate `high`. A surrogate on its own is no character and is refused.
    -/
def scanLowSurrogate (high : Nat) : List Char → Option (Char × List Char)
  | s :: u :: a :: b :: c :: d :: rest =>
    if s = '\\' ∧ u = 'u' then do
      let low ← hexVal4 a b c d
      if 56320 ≤ low ∧ low ≤ 57343 then
        some (Char.ofNat (65536 + (high - 55296) * 1024 + (low - 56320)), rest)
      else none
    else none
  | _ => none

def scanUnicode : List Char → Option (Char × List Char)
  | a :: b :: c :: d :: rest => do
    let n ← hexVal4 a b c d
    if 55296 ≤ n ∧ n ≤ 56319 then scanLowSurrogate n rest
    else if 56320 ≤ n ∧ n ≤ 57343 then none
    else some (Char.ofNat n, rest)
  | _ => none

/-- The escape that follows a backslash. -/
def scanEscape : List Char → Option (Char × List Char)
  | [] => none
  | c :: rest =>
    if c = '"' ∨ c = '\\' ∨ c = '/' then some (c, rest)
    else if c = 'n' then some ('\n', rest)
    else if c = 'r' then some ('\r', rest)
    else if c = 't' then some ('\t', rest)
    else if c = 'f' then some ('\x0c', rest)
    else if c = 'b' then some ('\x08', rest)
    else if c = 'u' then scanUnicode rest
    else none

/-- The rest of a string after its opening quote. -/
def scanString : Nat → List Char → Option (List Char × List Char)
  | 0, _ => none
  | _ + 1, [] => none
  | fuel + 1, c :: cs =>
    if c = '"' then some ([], cs)
    else if c = '\\' then do
      let (d, rest) ← scanEscape cs
      let (ds, rest) ← scanString fuel rest
      return (d :: ds, rest)
    else if c.toNat < 32 then none
    else do
      let (ds, rest) ← scanString fuel cs
      return (c :: ds, rest)

/-- An unsigned integer. A leading zero stands alone, and a fraction or an exponent would make the number a float,
    which is not read. -/
def scanNat (cs : List Char) : Option (Nat × List Char) :=
  let digits := if cs.head? = some '0' then ['0'] else cs.takeWhile Char.isDigit
  let rest := cs.drop digits.length
  if digits = [] ∨ rest.head? = some '.' ∨ rest.head? = some 'e' ∨ rest.head? = some 'E' then none
  else some (Nat.ofDigitChars 10 digits 0, rest)

/-- Drop one expected character after optional blanks. -/
def expect (c : Char) (cs : List Char) : Option (List Char) :=
  match skip cs with
  | [] => none
  | d :: rest => if d = c then some rest else none

def scanLiteral (word : List Char) (v : Value) (cs : List Char) : Option (Value × List Char) :=
  if cs.take word.length = word then some (v, cs.drop word.length) else none

def scanKey (cs : List Char) : Option (String × List Char) := do
  let rest ← expect '"' cs
  let (key, rest) ← scanString rest.length rest
  let rest ← expect ':' rest
  return (String.ofList key, skip rest)

mutual

/-- One value, with the pairs of a dictionary as they stand in the text. -/
def scanValue : Nat → List Char → Option (Value × List Char)
  | 0, _ => none
  | _ + 1, [] => none
  | fuel + 1, c :: rest =>
    if c = '"' then do
      let (s, rest) ← scanString rest.length rest
      return (.str (String.ofList s), rest)
    else if c = '[' then
      match expect ']' rest with
      | some rest => some (.arr [], rest)
      | none => do
        let (items, rest) ← scanItems fuel (skip rest)
        return (.arr items, rest)
    else if c = '{' then
      match expect '}' rest with
      | some rest => some (.obj [], rest)
      | none => do
        let (fields, rest) ← scanFields fuel (skip rest)
        return (.obj fields, rest)
    else if c = 'n' then scanLiteral "ull".toList .null rest
    else if c = 't' then scanLiteral "rue".toList (.bool true) rest
    else if c = 'f' then scanLiteral "alse".toList (.bool false) rest
    else if c = '-' then do
      let (n, rest) ← scanNat rest
      return (.int (-n), rest)
    else do
      let (n, rest) ← scanNat (c :: rest)
      return (.int n, rest)

def scanItems : Nat → List Char → Option (List Value × List Char)
  | 0, _ => none
  | fuel + 1, cs => do
    let (v, rest) ← scanValue fuel cs
    match expect ']' rest with
    | some rest => return ([v], rest)
    | none => do
      let rest ← expect ',' rest
      let (vs, rest) ← scanItems fuel (skip rest)
      return (v :: vs, rest)

def scanFields : Nat → List Char → Option (Fields × List Char)
  | 0, _ => none
  | fuel + 1, cs => do
    let (k, rest) ← scanKey cs
    let (v, rest) ← scanValue fuel rest
    match expect '}' rest with
    | some rest => return ([(k, v)], rest)
    | none => do
      let rest ← expect ',' rest
      let (fs, rest) ← scanFields fuel (skip rest)
      return ((k, v) :: fs, rest)

end

mutual

/-- Dictionaries built from the pairs read, innermost first: the last pair of a repeated key wins. -/
def Value.dedup : Value → Value
  | .arr items => .arr (dedupItems items)
  | .obj fields => .obj (dict.update [] (dedupFields fields))
  | .null => .null
  | .bool b => .bool b
  | .int n => .int n
  | .str s => .str s

def dedupItems : List Value → List Value
  | [] => []
  | v :: vs => v.dedup :: dedupItems vs

def dedupFields : Fields → Fields
  | [] => []
  | (k, v) :: fs => (k, v.dedup) :: dedupFields fs

end

/-- The value a text spells, before its dictionaries are built. -/
def scan (text : String) : Option Value :=
  match scanValue (text.toList.length + 1) (skip text.toList) with
  | some (v, rest) => if skip rest = [] then some v else none
  | none => none

/-- `json.loads(text)`. Floating-point literals and unpaired surrogates are outside the modelled values and are
    refused. -/
def loads (text : String) : Option Value := (scan text).map Value.dedup

example : loads "\x7b\"a\": [1, -20], \"b\": \"\\u00e9\", \"a\": null\x7d" =
    some (.obj [("a", .null), ("b", .str "é")]) := by decide +kernel

theorem dedupItems_eq_self {items : List Value} (h : ∀ v ∈ items, v.dedup = v) : dedupItems items = items := by
  induction items with
  | nil => rfl
  | cons v vs ih =>
    rw [dedupItems, h v (by simp), ih (fun w hw => h w (by simp [hw]))]

theorem dedupFields_eq_self {fields : Fields} (h : ∀ f ∈ fields, f.2.dedup = f.2) : dedupFields fields = fields := by
  induction fields with
  | nil => rfl
  | cons f fs ih =>
    obtain ⟨k, v⟩ := f
    rw [dedupFields, h (k, v) (by simp), ih (fun w hw => h w (by simp [hw]))]

theorem Value.WellFormed.dedup_eq {v : Value} (h : v.WellFormed) : v.dedup = v := by
  induction v using Value.induction with
  | null => rfl
  | bool => rfl
  | int => rfl
  | str => rfl
  | arr items ih =>
    rw [Value.wellFormed_arr] at h
    rw [Value.dedup, dedupItems_eq_self (fun v hv => ih v hv (h v hv))]
  | obj fields ih =>
    rw [Value.wellFormed_obj] at h
    rw [Value.dedup, dedupFields_eq_self (fun f hf => ih f hf (h.2 f hf))]
    rw [dict.update_append (by simpa [dict.keys] using h.1), List.nil_append]

end json
