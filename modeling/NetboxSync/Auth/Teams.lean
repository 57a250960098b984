import NetboxSync.Auth.Session
import NetboxSync.Lib.Python
import NetboxSync.Runs.History

open json

namespace netbox_sync.source_teams

open auth_policy Auth Transaction

inductive TeamsAction where
  | read
  | create
  | rename
  | assign
deriving DecidableEq, Repr

def TeamsAction.text : TeamsAction → String
  | .read => "teams"
  | .create => "teams.create"
  | .rename => "teams.rename"
  | .assign => "teams.assign"

/-- The permission of the action. -/
def TeamsAction.permission : TeamsAction → String
  | .read => "source.read"
  | _ => "source.configure"

def SourceTeams.value (current : SourceTeams) : Value :=
  .obj [("version", .int current.version), ("revision", .int current.revision),
    ("teams", .obj (current.teams.map (fun entry =>
      (entry.1, .obj [("id", .str entry.1), ("name", .str entry.2)])))),
    ("assignments", .obj (current.assignments.map (fun entry => (entry.1, .str entry.2))))]

/-- `payload.get("team_id")`: a text or nothing -/
def team_of : Option Value → Except Code (Option String)
  | none | some .null => .ok none
  | some (.str team) => .ok (some team)
  | _ => .error .TEAM_INVALID

section

variable (rt : Runtime)

def _name_team (updated : SourceTeams) (create : Bool) (payload : Fields) (team : Option String)
    (uuid : String) : Except Code (SourceTeams × String) := do
  let name ← match dict.get payload "name" with
    | some (.str name) =>
      if 1 ≤ (python.strip name).length && (python.strip name).length ≤ 80 &&
          name.toList.all (fun c => 32 ≤ c.toNat) then .ok (python.strip name)
      else .error .TEAM_INVALID
    | _ => .error .TEAM_INVALID
  let team ←
    if create then (if updated.teams.length ≥ 100 then .error .TEAM_INVALID else .ok uuid)
    else
      match team with
      | some team => if (dict.get updated.teams team).isSome then .ok team else .error .TEAM_INVALID
      | none => .error .TEAM_INVALID
  if updated.teams.any (fun entry => entry.1 ≠ team && rt.casefold entry.2 = rt.casefold name) then
    .error .TEAM_INVALID
  else .ok ({ updated with teams := dict.set updated.teams team name }, team)

def _assign_team (updated : SourceTeams) (payload : Fields) (team : Option String) : Except Code SourceTeams :=
  match dict.get payload "source_instance" with
  | some (.str source) =>
    if !run_history.is_source_instance source then .error .TEAM_INVALID
    else
      match team with
      | none => .ok { updated with assignments := dict.pop updated.assignments source }
      | some team =>
        if (dict.get updated.teams team).isNone then .error .TEAM_INVALID
        else .ok { updated with assignments := dict.set updated.assignments source team }
  | _ => .error .TEAM_INVALID

/-- What an action makes of the teams, with the team it is about. -/
def updated_teams (current : SourceTeams) (action : TeamsAction) (payload : Fields) (uuid : String) :
    Except Code (SourceTeams × Option String) := do
  if dict.get payload "revision" ≠ some (.int current.revision) then .error .TEAM_CONFLICT
  else
    let team ← team_of (dict.get payload "team_id")
    let (updated, team) ← match action with
      | .assign => (_assign_team current payload team).map (fun updated => (updated, team))
      | _ => (_name_team rt current (action = .create) payload team uuid).map (fun named => (named.1, some named.2))
    let updated := { updated with revision := updated.revision + 1 }
    if (dumps .spaced (SourceTeams.value updated)).utf8ByteSize > 24576 then .error .TEAM_INVALID
    else .ok (updated, team)

def teams_action (action : TeamsAction) (payload : Fields) (actor : String) : Auth Value := do
  let _ ← permitted rt (dict.get payload "session") action.permission
  let service ← get
  let current := service.state.source_teams
  check (current.version = 1) .AUTH_UNAVAILABLE
  match action with
  | .read => return SourceTeams.value current
  | _ =>
    let (updated, team) ← lift (updated_teams rt current action payload service.uuid)
    update (fun state => { state with source_teams := updated })
    event action.text actor [("team_id", optional .str team),
      ("source_instance", (dict.get payload "source_instance").getD .null), ("revision", .int updated.revision)]
    return SourceTeams.value updated

end

end netbox_sync.source_teams
