import ConsentGate.Event
import ConsentGate.Json.Embedded
import ConsentGate.Principal
import ConsentGate.Redirect
import ConsentGate.Settings.Service
import ConsentGate.Wire.Dialect

namespace ConsentGate.Wire

variable {V : Type} (d : Dialect V)

def grantType? (v : V) : Option GrantType :=
  (d.choice? ["authorization_code", "implicit"] v).bind fun
    | "authorization_code" => some .authorizationCode
    | "implicit" => some .implicit
    | _ => none

def redirectStatus? (v : V) : Option RedirectStatus :=
  (d.choice? ["found", "see_other"] v).bind fun
    | "found" => some .found
    | "see_other" => some .seeOther
    | _ => none

def errorCode? (v : V) : Option ErrorCode :=
  (d.choice? (ErrorCode.all.map ErrorCode.text) v).bind fun s =>
    ErrorCode.all.find? (·.text == s)

def timestamp? (v : V) : Option Timestamp :=
  (d.text? v).bind Timestamp.parse?

def uuid? (v : V) : Option Uuid :=
  (d.text? v).bind Uuid.parse?

def client? (v : V) : Option Client := do
  let fields ← d.record? ["client_id", "registered_redirect_uris", "authorized_grant_types",
    "scopes", "auto_approve_scopes"] v
  return {
    clientId := ← required d.text? fields "client_id"
    redirectUris := ← withDefault d.textSet? .empty fields "registered_redirect_uris"
    grantTypes := ← withDefault d.textSet? .empty fields "authorized_grant_types"
    scopes := ← withDefault d.textSet? .empty fields "scopes"
    autoApprove := ← withDefault d.texts? [] fields "auto_approve_scopes" }

def principal? (v : V) : Option Principal := do
  let fields ← d.record? ["subject_id", "username", "session_id"] v
  return {
    subjectId := ← required d.text? fields "subject_id"
    username := ← required d.text? fields "username"
    sessionId := ← d.optional d.text? fields "session_id" }

def token? (v : V) : Option Token := do
  let fields ← d.record? ["value", "id_token_value", "expiration", "token_type", "scope"] v
  return {
    value := ← required d.text? fields "value"
    idToken := ← d.optional d.text? fields "id_token_value"
    expiration := ← required (timestamp? d) fields "expiration"
    tokenType := ← required d.text? fields "token_type"
    scope := ← withDefault d.textSet? .empty fields "scope" }

def redirectSettings? (v : V) : Option RedirectSettings := do
  let fields ← d.record? ["redirect_grant_types", "match_subdomains", "match_ports"] v
  let default : RedirectSettings := {}
  return {
    grantTypes := ← withDefault d.texts? default.grantTypes fields "redirect_grant_types"
    matchSubdomains := ← withDefault d.bool? default.matchSubdomains fields "match_subdomains"
    matchPorts := ← withDefault d.bool? default.matchPorts fields "match_ports" }

def pkceSettings? (v : V) : Option PkceSettings := do
  let fields ← d.record? ["methods"] v
  return { methods := ← withDefault d.texts? ({} : PkceSettings).methods fields "methods" }

def approvalSettings? (v : V) : Option ApprovalSettings := do
  let fields ← d.record? ["approval_parameter", "scope_prefix", "redirect_status"] v
  let default : ApprovalSettings := {}
  return {
    parameter := ← withDefault d.text? default.parameter fields "approval_parameter"
    scopeLead := ← withDefault d.text? default.scopeLead fields "scope_prefix"
    status := ← withDefault (redirectStatus? d) default.status fields "redirect_status" }

def maxWord : Nat := 2 ^ 64 - 1

def eventSettings? (v : V) : Option EventSettings := do
  let fields ← d.record? ["enabled", "capacity"] v
  let default : EventSettings := {}
  return {
    enabled := ← withDefault d.bool? default.enabled fields "enabled"
    capacity := ← withDefault (d.natural? maxWord) default.capacity fields "capacity" }

def endpointSettings? (v : V) : Option EndpointSettings := do
  let fields ← d.record? ["redirect", "pkce", "approval", "events"] v
  return {
    redirect := ← withDefault (redirectSettings? d) {} fields "redirect"
    pkce := ← withDefault (pkceSettings? d) {} fields "pkce"
    approval := ← withDefault (approvalSettings? d) {} fields "approval"
    events := ← withDefault (eventSettings? d) {} fields "events" }

def listenSettings? (v : V) : Option ListenSettings := do
  let fields ← d.record? ["host", "port", "body_limit_bytes"] v
  let default : ListenSettings := {}
  return {
    host := ← withDefault d.text? default.host fields "host"
    port := ← withDefault (d.natural? 65535) default.port fields "port"
    bodyLimit := ← withDefault (d.natural? maxWord) default.bodyLimit fields "body_limit_bytes" }

def logLevel? (v : V) : Option String := do
  let fields ← d.record? ["level"] v
  withDefault d.text? ({} : ServiceSettings).logLevel fields "level"

def snapshotSettings? (v : V) : Option SnapshotSettings := do
  let fields ← d.record? ["max_age_secs", "cleanup_interval_secs"] v
  let default : SnapshotSettings := {}
  return {
    maxAge := ← withDefault (d.natural? maxWord) default.maxAge fields "max_age_secs"
    cleanupInterval :=
      ← withDefault (d.natural? maxWord) default.cleanupInterval fields "cleanup_interval_secs" }

def codeMaxAge? (v : V) : Option Nat := do
  let fields ← d.record? ["max_age_secs"] v
  withDefault (d.natural? maxWord) ({} : ServiceSettings).codeMaxAge fields "max_age_secs"

def serviceSettings? (v : V) : Option ServiceSettings := do
  let fields ← d.record? ["server", "logging", "auth", "snapshots", "codes", "clients"] v
  let default : ServiceSettings := {}
  return {
    listen := ← withDefault (listenSettings? d) default.listen fields "server"
    logLevel := ← withDefault (logLevel? d) default.logLevel fields "logging"
    endpoint := ← withDefault (endpointSettings? d) default.endpoint fields "auth"
    snapshots := ← withDefault (snapshotSettings? d) default.snapshots fields "snapshots"
    codeMaxAge := ← withDefault (codeMaxAge? d) default.codeMaxAge fields "codes"
    clients := ← withDefault (fun v => (d.items? v).bind (·.mapM (client? d))) default.clients
      fields "clients" }

/-! ## Records that come as JSON only -/

def request? (j : Json) : Option Request := do
  let fields ← json.record? ["client_id", "redirect_uri", "state", "scope", "response_types",
    "approved", "resource_ids", "authorities", "request_parameters", "extensions"] j
  return {
    clientId := ← required json.text? fields "client_id"
    redirectUri := ← json.optional json.text? fields "redirect_uri"
    state := ← json.optional json.text? fields "state"
    scope := ← withDefault json.textSet? .empty fields "scope"
    responseTypes := ← withDefault json.textSet? .empty fields "response_types"
    approved := ← withDefault json.bool? false fields "approved"
    resourceIds := ← withDefault json.textSet? .empty fields "resource_ids"
    authorities := ← withDefault json.textSet? .empty fields "authorities"
    parameters := ← withDefault (json.map? json.text?) .empty fields "request_parameters"
    extensions := ← withDefault (json.map? fun j => j.whole?.map Json.settle) .empty fields
      "extensions" }

def snapshot? (j : Json) : Option Snapshot := do
  let fields ← json.record? ["id", "frozen_at", "request"] j
  return {
    id := ← required (uuid? json) fields "id"
    frozenAt := ← required (timestamp? json) fields "frozen_at"
    request := ← required request? fields "request" }

def redirect? (j : Json) : Option Redirect := do
  let fields ← json.record? ["uri", "status"] j
  return {
    uri := ← required json.text? fields "uri"
    status := ← required (redirectStatus? json) fields "status" }

/-- The tag of a tagged record, and a record of what else it holds: an object with a field `type`, or
an array that the tag starts. -/
def tagged? : Json → Option (String × Json)
  | .object fields => do
    if repeats fields "type" then none
    let tag ← (fields.lookup "type").bind json.text?
    return (tag, .object (fields.filter (·.1 != "type")))
  | .array (.string tag :: r) => some (tag, .array r)
  | _ => none

/-- What happened. The tag may stand last, so that the whole record has to be readable. -/
def eventKind? (j : Json) : Option EventKind := do
  let (tag, body) ← if j.isReadable then tagged? j else none
  let only := fun (name : String) => json.record? [name] body
  match tag with
  | "approval_requested" =>
    return .approvalRequested (← required (uuid? json) (← only "snapshot_id") "snapshot_id")
  | "auto_approved" => (json.record? [] body).map fun _ => .autoApproved
  | "code_issued" =>
    return .codeIssued (← required (grantType? taggedJson) (← only "grant_type") "grant_type")
  | "token_issued" =>
    return .tokenIssued (← required (grantType? taggedJson) (← only "grant_type") "grant_type")
  | "access_denied" => (json.record? [] body).map fun _ => .accessDenied
  | "tamper_detected" => (json.record? [] body).map fun _ => .tamperDetected
  | "request_rejected" =>
    return .requestRejected (← required (errorCode? taggedJson) (← only "error") "error")
  | _ => none

def event? (j : Json) : Option Event := do
  let fields ← json.record? ["kind", "client_id", "subject_id", "timestamp"] j
  return {
    kind := ← required eventKind? fields "kind"
    clientId := ← required json.text? fields "client_id"
    subjectId := ← json.optional json.text? fields "subject_id"
    timestamp := ← required (timestamp? json) fields "timestamp" }

def errorBody? (j : Json) : Option (String × String) := do
  let fields ← json.record? ["error", "error_description"] j
  return (← required json.text? fields "error",
    ← required json.text? fields "error_description")

end ConsentGate.Wire
