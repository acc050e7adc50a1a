import ConsentGate.Server
import ConsentGate.Settings.Load

namespace ConsentGate.CommandLine

def pathArgument? : List String → Option String
  | "--config" :: path :: _ => some path
  | _ :: r => pathArgument? r
  | [] => none

/-- The path of the settings: an argument, else a variable that is not empty, else a fixed one. -/
def settingsPath (arguments : List String) (named : Option String) : String :=
  ((pathArgument? arguments).or (named.filter (!·.isEmpty))).getD "authpoint.toml"

def variableNames : List String :=
  ["SERVER__HOST", "SERVER__PORT", "SERVER__BODY_LIMIT_BYTES", "LOGGING__LEVEL",
    "AUTH__REDIRECT__REDIRECT_GRANT_TYPES", "AUTH__REDIRECT__MATCH_SUBDOMAINS",
    "AUTH__REDIRECT__MATCH_PORTS", "AUTH__PKCE__METHODS", "AUTH__APPROVAL__APPROVAL_PARAMETER",
    "AUTH__APPROVAL__SCOPE_PREFIX", "AUTH__APPROVAL__REDIRECT_STATUS", "AUTH__EVENTS__ENABLED",
    "AUTH__EVENTS__CAPACITY", "SNAPSHOTS__MAX_AGE_SECS", "SNAPSHOTS__CLEANUP_INTERVAL_SECS",
    "CODES__MAX_AGE_SECS", "CLIENTS"].map ("AUTHPOINT__" ++ ·)

def setupMessage : SetupError → String
  | .settings e => e.message
  | .capacity => "events.capacity is too large"

def report (document : Option String) (environment : TextMap String) : Except String String :=
  match ServiceSettings.load document environment with
  | .error e => .error ("Configuration error: " ++ e.message)
  | .ok settings =>
    match Server.ofSettings settings with
    | .error e => .error ("Server initialization failed: " ++ setupMessage e)
    | .ok _ => .ok ("Configuration loaded for " ++ settings.address)

def readDocument (path : String) : IO (Option String) := do
  try
    return some (← IO.FS.readFile path)
  catch
    | .noFileOrDirectory .. => return none
    | e => throw e

end ConsentGate.CommandLine

open ConsentGate in
/-- Exits with 2 where the service cannot be built. -/
def main (arguments : List String) : IO UInt32 := do
  let path := CommandLine.settingsPath arguments (← IO.getEnv "AUTHPOINT_CONFIG")
  let found ← CommandLine.variableNames.filterMapM fun name => do
    return (← IO.getEnv name).map (name, ·)
  match CommandLine.report (← CommandLine.readDocument path) (.ofList found) with
  | .ok line =>
    IO.println line
    return 0
  | .error line =>
    IO.eprintln line
    return 2
