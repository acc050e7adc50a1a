import ConsentGate.Client
import ConsentGate.Settings.Endpoint
import ConsentGate.Url.Host.Ipv6

namespace ConsentGate

structure ListenSettings where
  host : String := "0.0.0.0"
  port : Nat := 8080
  bodyLimit : Nat := 65536
  deriving DecidableEq, Repr

/-- How long an approval page can be answered, and how often expired ones are removed, in seconds. -/
structure SnapshotSettings where
  maxAge : Nat := 600
  cleanupInterval : Nat := 60
  deriving DecidableEq, Repr

/-- All settings of the service. `codeMaxAge` is how long a code can be redeemed, in seconds. -/
structure ServiceSettings where
  listen : ListenSettings := {}
  logLevel : String := "info"
  endpoint : EndpointSettings := {}
  snapshots : SnapshotSettings := {}
  codeMaxAge : Nat := 300
  clients : List Client := []
  deriving DecidableEq

inductive ServiceSettingsError where
  | zeroPort
  | zeroBodyLimit
  | unknownLogLevel
  | zeroSnapshotAge
  | zeroCleanupInterval
  | zeroCodeAge
  | endpoint (e : SettingsError)
  | client (clientId : String) (e : ClientError)
  | duplicateClient (clientId : String)
  deriving DecidableEq, Repr

namespace ServiceSettingsError

def message : ServiceSettingsError → String
  | .zeroPort => "server.port must be > 0"
  | .zeroBodyLimit => "server.body_limit_bytes must be > 0"
  | .unknownLogLevel =>
    "logging.level must be one of [\"trace\", \"debug\", \"info\", \"warn\", \"error\", \"off\"]"
  | .zeroSnapshotAge => "snapshots.max_age_secs must be > 0"
  | .zeroCleanupInterval => "snapshots.cleanup_interval_secs must be > 0"
  | .zeroCodeAge => "codes.max_age_secs must be > 0"
  | .endpoint e => "auth: " ++ e.message
  | .client clientId e => "clients[" ++ clientId ++ "]: " ++ e.message
  | .duplicateClient clientId => "duplicate client_id: " ++ clientId

end ServiceSettingsError

namespace ServiceSettings

def logLevels : List String := ["trace", "debug", "info", "warn", "error", "off"]

/-- Checks registrations, and that no two have one identifier; `seen` are those of earlier ones. -/
def validateClients (fits : String → Bool) (seen : List String) :
    List Client → Except ServiceSettingsError Unit
  | [] => .ok ()
  | c :: r =>
    match c.validate fits with
    | .error e => .error (.client c.clientId e)
    | .ok () =>
      if seen.contains c.clientId then .error (.duplicateClient c.clientId)
      else validateClients fits (c.clientId :: seen) r

def validate (s : ServiceSettings) (fits : String → Bool := Glob.isSmall) :
    Except ServiceSettingsError Unit :=
  if s.listen.port = 0 then .error .zeroPort
  else if s.listen.bodyLimit = 0 then .error .zeroBodyLimit
  else if !logLevels.contains (String.ofList (Text.lower s.logLevel.toList)) then
    .error .unknownLogLevel
  else if s.snapshots.maxAge = 0 then .error .zeroSnapshotAge
  else if s.snapshots.cleanupInterval = 0 then .error .zeroCleanupInterval
  else if s.codeMaxAge = 0 then .error .zeroCodeAge
  else
    match s.endpoint.validate with
    | .error e => .error (.endpoint e)
    | .ok () => validateClients fits [] s.clients

theorem validate_ok {s : ServiceSettings} {fits : String → Bool} (h : s.validate fits = .ok ()) :
    s.snapshots.maxAge ≠ 0 ∧ s.snapshots.cleanupInterval ≠ 0 ∧ s.codeMaxAge ≠ 0 := by
  unfold validate at h
  iterate 3
    split at h
    · cases h
  split at h
  · cases h
  next hsnapshot =>
  split at h
  · cases h
  next hinterval =>
  split at h
  · cases h
  next hcode => exact ⟨hsnapshot, hinterval, hcode⟩

def renderIpv6 (groups : List Nat) : List Char :=
  match groups with
  | [0, 0, 0, 0, 0, 0xFFFF, a, b] =>
    [':', ':', 'f', 'f', 'f', 'f', ':'] ++ Ipv4.render (a * 65536 + b)
  | _ => Ipv6.render groups

/-- The address to listen at, with its port. A host that is no address means all interfaces. -/
def address (s : ServiceSettings) : String :=
  let host := s.listen.host.toList
  let ip := match Ipv4.strictBytes? host, Ipv6.parse? host with
    | some bytes, _ => ['.'].intercalate (bytes.map (Nat.toDigits 10))
    | none, some groups => '[' :: renderIpv6 groups ++ [']']
    | none, none => ['0', '.', '0', '.', '0', '.', '0']
  String.ofList ip ++ ":" ++ toString s.listen.port

def maxSeconds : Nat := 2 ^ 63 - 1

def seconds (n : Nat) : Int := (min n maxSeconds : Nat)

end ServiceSettings

end ConsentGate
