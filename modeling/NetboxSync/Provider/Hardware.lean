import NetboxSync.Lib.Except
import NetboxSync.Lib.Json.Encode
import NetboxSync.Lib.Python

open json sorting

namespace netbox_sync.hardware_identity

/-- What the observations read from the tables and clocks of the runtime. Times are microseconds; a text without a
    time zone is no time. -/
structure Runtime extends python.Runtime where
  isprintable : String → Bool
  uuid : String → Option String
  isoformat : Int → String
  fromisoformat : String → Option Int

inductive TokenKind where
  | system_serial
  | service_tag
  | system_uuid
deriving DecidableEq, Repr

def TokenKind.text : TokenKind → String
  | .system_serial => "system_serial"
  | .service_tag => "service_tag"
  | .system_uuid => "system_uuid"

def KINDS : List TokenKind := [.system_serial, .service_tag, .system_uuid]

def PLACEHOLDERS : List String :=
  ["unknown", "none", "n/a", "na", "not specified", "not applicable", "to be filled by o.e.m.",
    "to be filled by oem", "default string", "default", "system serial number", "serial number",
    "not available", "o.e.m."]

/-- An identifier of a physical system, under its kind. -/
abbrev Token := TokenKind × String

instance : LawfulBEq Token := inferInstance

/-- `value.replace("-", "").replace(" ", "")` -/
def compacted (value : String) : String := String.ofList (value.toList.filter (fun c => c ≠ '-' && c ≠ ' '))

/-- `value.replace("Z", "+00:00")` -/
def zoned (value : String) : String :=
  String.ofList (value.toList.flatMap (fun c => if c = 'Z' then "+00:00".toList else [c]))

def minutes (n : Int) : Int := n * 60 * 1000000

def hours (n : Int) : Int := minutes (n * 60)

section

variable (rt : Runtime)

/-- `canonical`, for one of the three kinds. -/
def canonical (kind : TokenKind) : Value → Option String
  | .str value =>
    let value := python.strip value
    if value = "" || decide (256 < value.length) || !rt.isprintable value ||
        PLACEHOLDERS.contains (rt.casefold value) then none
    else
      let compact := rt.casefold (compacted value)
      if compact = "" || compact.toList.all (· = '0') || compact.toList.all (· = 'f') ||
          ["123456789", "0123456789"].contains compact then none
      else
        match kind with
        | .system_uuid => rt.uuid value
        | _ => some (rt.casefold value)
  | _ => none

def values_of (kind : TokenKind) (tokens : List Token) : List String :=
  ((tokens.filter (fun token => token.1 = kind)).map Prod.snd).dedup

/-- `observation(source, values, observed_at=observed_at)` without a status of its own. -/
def observation (source : String) (values : List (TokenKind × Value × String)) (observed_at : String) : Fields :=
  let identifiers := values.filterMap (fun entry =>
    ((canonical rt entry.1 entry.2.1).filter (· ≠ "")).map (fun value => (entry.1, value, entry.2.2)))
  let identifiers := sorted (fun row => toLex (TokenKind.text row.1, toLex (row.2.1, row.2.2))) identifiers.dedup
  let conflicts := KINDS.filter (fun kind =>
    1 < (values_of kind (identifiers.map (fun row => (row.1, row.2.1)))).length)
  [("version", .int 1), ("source", .str source),
    ("status", .str (if conflicts ≠ [] then "conflict" else if identifiers ≠ [] then "collected"
      else "not_reported")),
    ("observed_at", .str observed_at),
    ("identifiers", .arr (identifiers.map (fun row =>
      .obj [("kind", .str row.1.text), ("value", .str row.2.1), ("field", .str row.2.2)]))),
    ("conflicts", .arr (conflicts.map (fun kind => .str kind.text)))]

/-- One row of the identifiers: nothing where it makes the reading fail. -/
def token_of : Value → Option (Option Token)
  | .obj row =>
    match dict.get row "kind", dict.get row "value" with
    | some (.arr _), some _ | some (.obj _), some _ => none
    | some kind, some value =>
      some ((KINDS.find? (fun known => kind = .str known.text)).bind (fun known =>
        ((canonical rt known value).filter (· ≠ "")).map (fun text => (known, text))))
    | _, _ => none
  | _ => none

/-- `tokens(document)` at the moment `now`: no token at all where anything is amiss. -/
def tokens (now : Int) : Value → List Token
  | .obj document =>
    if !((dict.get document "version").getD .null).eq (.int 1) ||
        dict.get document "status" ≠ some (.str "collected") then []
    else
      match dict.get document "observed_at", dict.get document "identifiers" with
      | some (.str observed_at), some (.arr rows) =>
        match rt.fromisoformat (zoned observed_at), rows.mapM (token_of rt) with
        | some at', some found =>
          let age := now - at'
          let values := (found.filterMap id).dedup
          if !(-minutes 5 ≤ age && age ≤ hours 48) then []
          else if KINDS.any (fun kind => 1 < (values_of kind values).length) then []
          else values
        | _, _ => []
      | _, _ => []
  | _ => []

end

inductive Verdict where
  | none
  | conflict
  | match
deriving DecidableEq, Repr

/-- The same values, as sets. -/
def same_values (left right : List String) : Bool := left.all (right.contains ·) && right.all (left.contains ·)

def compare (left right : List Token) : Verdict :=
  if left.all (fun token => token ∉ right) then .none
  else if KINDS.any (fun kind => left.any (·.1 = kind) && right.any (·.1 = kind) &&
      !same_values (values_of kind left) (values_of kind right)) then .conflict
  else .match

/-- The parts of a Python error that a reader of JSON can raise. -/
inductive ReadError where
  | value_error (code : String)
  | key_error
  | type_error
  | attribute_error
deriving DecidableEq, Repr

/-- `value.get(key)`, nothing for a missing key. -/
def lookup (value : Value) (key : String) : Except ReadError (Option Value) :=
  match value with
  | .obj fields => .ok (dict.get fields key)
  | _ => .error .attribute_error

/-- `value[key]` -/
def index (value : Value) (key : String) : Except ReadError Value :=
  match value with
  | .obj fields =>
    match dict.get fields key with
    | some found => .ok found
    | none => .error .key_error
  | _ => .error .type_error

def SECTION_NAMES : List String := ["resource", "details", "hardware"]

def SYSTEM_FIELDS : List (String × TokenKind) :=
  [("serial", .system_serial), ("service_tag", .service_tag), ("system_uuid", .system_uuid)]

/-- The status of a section and the identifiers it offers while it is fresh. -/
def section_values (sections : Value) (name : String) :
    Except ReadError (Value × List (TokenKind × Value × String)) := do
  let part := (← lookup sections name).getD (.obj [])
  let status := (← lookup part "status")
  let retained := (← lookup part "retained").getD .null
  let data := (← lookup part "data").getD .null
  let values := if status ≠ some (.str "collected") || retained.truthy then []
    else match data with
      | .obj data => SYSTEM_FIELDS.map (fun field =>
        (field.2, (dict.get data field.1).getD .null, name ++ "." ++ field.1))
      | _ => []
  .ok (status.getD (.str "not_collected"), values)

def selectel_observation (rt : Runtime) (sections : Value) (observed_at : String) : Except ReadError Value := do
  let found ← SECTION_NAMES.mapM (section_values sections)
  .ok (.obj (observation rt "selectel" (found.flatMap Prod.snd) observed_at ++
    [("coverage", .obj (SECTION_NAMES.zip (found.map Prod.fst)))]))

end netbox_sync.hardware_identity
