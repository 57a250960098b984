import NetboxSync.Lib.Json.Value

namespace json

/-- The `separators` argument of `json.dumps`: `(",", ":")` or the default `(", ", ": ")`. -/
inductive Separators where
  | compact
  | spaced
deriving DecidableEq, Repr

def Separators.blank : Separators → List Char
  | .compact => []
  | .spaced => [' ']

def hex4 (n : Nat) : List Char :=
  [(n / 4096 % 16).digitChar, (n / 256 % 16).digitChar, (n / 16 % 16).digitChar, (n % 16).digitChar]

/-- One character of a JSON string under `ensure_ascii=True`. Characters past the basic plane become a surrogate pair.
    -/
def escape (c : Char) : List Char :=
  if c = '"' then ['\\', '"']
  else if c = '\\' then ['\\', '\\']
  else if c = '\n' then ['\\', 'n']
  else if c = '\r' then ['\\', 'r']
  else if c = '\t' then ['\\', 't']
  else if c = '\x0c' then ['\\', 'f']
  else if c = '\x08' then ['\\', 'b']
  else if 32 ≤ c.toNat ∧ c.toNat ≤ 126 then [c]
  else if c.toNat < 65536 then '\\' :: 'u' :: hex4 c.toNat
  else '\\' :: 'u' :: hex4 (55296 + (c.toNat - 65536) / 1024) ++
    '\\' :: 'u' :: hex4 (56320 + (c.toNat - 65536) % 1024)

def dumpString (s : String) : List Char := '"' :: s.toList.flatMap escape ++ ['"']

def dumpInt : Int → List Char
  | .ofNat n => Nat.toDigits 10 n
  | .negSucc n => '-' :: Nat.toDigits 10 (n + 1)

mutual

/-- The text of a value, dictionary members in the order they stand. -/
def Value.dump (sep : Separators) : Value → List Char
  | .null => "null".toList
  | .bool true => "true".toList
  | .bool false => "false".toList
  | .int n => dumpInt n
  | .str s => dumpString s
  | .arr [] => ['[', ']']
  | .arr (v :: vs) => '[' :: (v.dump sep ++ dumpItems sep vs)
  | .obj [] => ['{', '}']
  | .obj ((k, v) :: fs) =>
    '{' :: (dumpString k ++ ':' :: (sep.blank ++ (v.dump sep ++ dumpFields sep fs)))

def dumpItems (sep : Separators) : List Value → List Char
  | [] => [']']
  | v :: vs => ',' :: (sep.blank ++ (v.dump sep ++ dumpItems sep vs))

def dumpFields (sep : Separators) : Fields → List Char
  | [] => ['}']
  | (k, v) :: fs =>
    ',' :: (sep.blank ++ (dumpString k ++ ':' :: (sep.blank ++ (v.dump sep ++ dumpFields sep fs))))

end

/-- `json.dumps(value, separators=sep)`. -/
def dumps (sep : Separators) (value : Value) : String := String.ofList (value.dump sep)

/-- `json.dumps(value, sort_keys=True, separators=sep)`. -/
def dumps_sorted (sep : Separators) (value : Value) : String := dumps sep value.sort_keys

example : dumps_sorted .spaced (.obj [("b", .arr [.int (-12), .bool true]), ("a", .str "é\n")]) =
    "\x7b\"a\": \"\\u00e9\\n\", \"b\": [-12, true]\x7d" := by decide

/-- `value -> key` -/
def arrow (value : Value) (key : String) : Option Value :=
  match value with
  | .obj fields => dict.get fields key
  | _ => none

/-- `value ->> key`: a member as text, and `NULL` where it is missing or null. -/
def arrow_text (value : Value) (key : String) : Option String :=
  match arrow value key with
  | none | some .null => none
  | some (.str text) => some text
  | some value => some (dumps .spaced value)

/-- `=` of two `jsonb` values: the order of members does not count. -/
def jsonb_eq (value other : Value) : Bool := decide (value.sort_keys = other.sort_keys)

end json
