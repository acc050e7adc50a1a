import ConsentGate.Endpoint
import ConsentGate.Event
import ConsentGate.Principal
import ConsentGate.Redirect
import ConsentGate.Settings.Service

namespace ConsentGate.Wire

def ofTextSet (s : TextSet) : Json := .ofTexts s.toList

def optionalField (name : String) : Option String → List (String × Json)
  | some s => [(name, .string s)]
  | none => []

def ofGrantType (g : GrantType) : Json := .string g.text

def ofRedirectStatus (s : RedirectStatus) : Json := .string s.text

def ofErrorCode (c : ErrorCode) : Json := .string c.text

def ofTimestamp (t : Timestamp) : Json := .string t.render

def ofUuid (u : Uuid) : Json := .string u.render

def ofClient (c : Client) : Json := .object [
  ("client_id", .string c.clientId),
  ("registered_redirect_uris", ofTextSet c.redirectUris),
  ("authorized_grant_types", ofTextSet c.grantTypes),
  ("scopes", ofTextSet c.scopes),
  ("auto_approve_scopes", .ofTexts c.autoApprove)]

def ofPrincipal (p : Principal) : Json := .object (
  [("subject_id", .string p.subjectId), ("username", .string p.username)] ++
    optionalField "session_id" p.sessionId)

def ofToken (t : Token) : Json := .object (
  ("value", .string t.value) :: optionalField "id_token_value" t.idToken ++
    [("expiration", ofTimestamp t.expiration), ("token_type", .string t.tokenType),
      ("scope", ofTextSet t.scope)])

def ofRequest (r : Request) : Json := .object (
  ("client_id", .string r.clientId) :: optionalField "redirect_uri" r.redirectUri ++
    optionalField "state" r.state ++
    [("scope", ofTextSet r.scope), ("response_types", ofTextSet r.responseTypes),
      ("approved", .bool r.approved), ("resource_ids", ofTextSet r.resourceIds),
      ("authorities", ofTextSet r.authorities),
      ("request_parameters", .object (r.parameters.mapValues Json.string).toList),
      ("extensions", .object r.extensions.toList)])

def ofSnapshot (s : Snapshot) : Json := .object [
  ("id", ofUuid s.id), ("frozen_at", ofTimestamp s.frozenAt), ("request", ofRequest s.request)]

def ofRedirect (r : Redirect) : Json := .object [
  ("uri", .string r.uri), ("status", ofRedirectStatus r.status)]

def ofEventKind : EventKind → Json
  | .approvalRequested id =>
    .object [("type", .string "approval_requested"), ("snapshot_id", ofUuid id)]
  | .autoApproved => .object [("type", .string "auto_approved")]
  | .codeIssued g => .object [("type", .string "code_issued"), ("grant_type", ofGrantType g)]
  | .tokenIssued g => .object [("type", .string "token_issued"), ("grant_type", ofGrantType g)]
  | .accessDenied => .object [("type", .string "access_denied")]
  | .tamperDetected => .object [("type", .string "tamper_detected")]
  | .requestRejected e => .object [("type", .string "request_rejected"), ("error", ofErrorCode e)]

def ofEvent (e : Event) : Json := .object (
  [("kind", ofEventKind e.kind), ("client_id", .string e.clientId)] ++
    optionalField "subject_id" e.subjectId ++ [("timestamp", ofTimestamp e.timestamp)])

def ofErrorBody (code description : String) : Json := .object [
  ("error", .string code), ("error_description", .string description)]

def ofAuthError (e : AuthError) : Json := ofErrorBody e.code.text e.description

def ofApprovalPage (p : ApprovalPage) : Json := .object [
  ("snapshot", ofSnapshot p.snapshot), ("approval_parameter", .string p.approvalParameter),
  ("scope_prefix", .string p.scopeLead)]

def ofEndpointSettings (s : EndpointSettings) : Json := .object [
  ("redirect", .object [
    ("redirect_grant_types", .ofTexts s.redirect.grantTypes),
    ("match_subdomains", .bool s.redirect.matchSubdomains),
    ("match_ports", .bool s.redirect.matchPorts)]),
  ("pkce", .object [("methods", .ofTexts s.pkce.methods)]),
  ("approval", .object [
    ("approval_parameter", .string s.approval.parameter),
    ("scope_prefix", .string s.approval.scopeLead),
    ("redirect_status", ofRedirectStatus s.approval.status)]),
  ("events", .object [
    ("enabled", .bool s.events.enabled), ("capacity", .ofNat s.events.capacity)])]

def ofServiceSettings (s : ServiceSettings) : Json := .object [
  ("server", .object [
    ("host", .string s.listen.host), ("port", .ofNat s.listen.port),
    ("body_limit_bytes", .ofNat s.listen.bodyLimit)]),
  ("logging", .object [("level", .string s.logLevel)]),
  ("auth", ofEndpointSettings s.endpoint),
  ("snapshots", .object [
    ("max_age_secs", .ofNat s.snapshots.maxAge),
    ("cleanup_interval_secs", .ofNat s.snapshots.cleanupInterval)]),
  ("codes", .object [("max_age_secs", .ofNat s.codeMaxAge)]),
  ("clients", .array (s.clients.map ofClient))]

end ConsentGate.Wire
