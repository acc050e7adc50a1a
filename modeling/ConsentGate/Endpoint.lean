import ConsentGate.Broadcaster
import ConsentGate.Endpoint.Trace
import ConsentGate.Pkce
import ConsentGate.Redirect
import ConsentGate.RedirectUri.Resolve
import ConsentGate.Url.Origin

namespace ConsentGate

/-- The endpoint: its rules, the challenge methods on offer, and which patterns of scopes fit the engine
for regular expressions. -/
structure Endpoint where
  redirect : RedirectSettings
  approval : ApprovalSettings
  pkce : Pkce.Service
  fits : String → Bool := Glob.isSmall

inductive SetupError where
  | settings (e : SettingsError)
  | capacity
  deriving DecidableEq, Repr

structure ApprovalPage where
  snapshot : Snapshot
  approvalParameter : String
  scopeLead : String

inductive Outcome where
  | redirect (r : Redirect)
  | approval (page : ApprovalPage)

structure Moment where
  now : Timestamp
  snapshotId : Uuid

inductive Phase where
  | received
  | validated
  | awaitingApproval
  | decided
  | responded
  deriving DecidableEq, Repr

def Phase.text : Phase → String
  | .received => "received"
  | .validated => "validated"
  | .awaitingApproval => "awaiting_approval"
  | .decided => "decided"
  | .responded => "responded"

namespace Endpoint

def ofSettings (s : EndpointSettings) (fits : String → Bool := Glob.isSmall) :
    Except SetupError (Endpoint × Broadcaster Event) :=
  match s.validate, Pkce.Service.ofMethods s.pkce.methods with
  | .error e, _ => .error (.settings e)
  | .ok (), .error e => .error (.settings e)
  | .ok (), .ok pkce =>
    match Broadcaster.ofSettings? s.events with
    | some events => .ok (⟨s.redirect, s.approval, pkce, fits⟩, events)
    | none => .error .capacity

def publish (m : Moment) (clientId : String) (p : Principal) (kind : EventKind) : Traced Unit :=
  .act (.published ⟨kind, clientId, some p.subjectId, m.now⟩)

def reject {α : Type} (m : Moment) (clientId : String) (p : Principal) (error : AuthError) :
    Traced (Except AuthError α) := do
  publish m clientId p (.requestRejected error.code)
  return .error error

/-- Sends an error to the client. A refusal by the user has its own event. -/
def fail (e : Endpoint) (m : Moment) (target : Url) (grant : GrantType) (request : Request)
    (p : Principal) (error : AuthError) : Traced Redirect := do
  if error.kind ≠ .accessDenied then
    publish m request.clientId p (.requestRejected error.code)
  return .failure e.approval.status target grant error request.state

def sessionState (c : Collaborators) (target : Url) (request : Request) (p : Principal) :
    Traced (Except AuthError (Option String)) :=
  if request.promptNone then do
    return (← c.state p.subjectId request.clientId target.origin).map some
  else return .ok none

def companionCode (c : Collaborators) (request : Request) (p : Principal) :
    Traced (Except AuthError (Option String)) :=
  if request.responseTypes.contains "code" then do
    return (← c.code request p).map some
  else return .ok none

def issue (c : Collaborators) (grant : GrantType) (request : Request) (p : Principal) :
    Traced (Except AuthError Issued) :=
  match grant with
  | .authorizationCode => do
    return (← c.code request p).map .code
  | .implicit => do
    match ← companionCode c request p with
    | .error e => return .error e
    | .ok code => return (← c.token request p).map fun token => .token token code

def announcement (grant : GrantType) : Issued → EventKind
  | .code _ => .codeIssued grant
  | .token _ _ => .tokenIssued grant

/-- Answers an approved request: session state first, then what the grant consists of. If any of it
fails the client learns only that there is no response. -/
def respond (e : Endpoint) (c : Collaborators) (m : Moment) (target : Url) (grant : GrantType)
    (request : Request) (p : Principal) : Traced Redirect := do
  match ← sessionState c target request p with
  | .error _ => e.fail m target grant request p .notIssued
  | .ok sessionState =>
    match ← issue c grant request p with
    | .error _ => e.fail m target grant request p .notIssued
    | .ok issued =>
      publish m request.clientId p (announcement grant issued)
      return .success e.approval.status m.now target request issued sessionState

/-- Checks a request against its client once it is known where to answer. An error comes with the
grant that decides how it is sent. -/
def screen (e : Endpoint) (request : Request) (client : Client) :
    Except (GrantType × AuthError) GrantType :=
  if request.responseTypes.isEmpty then .error (.authorizationCode, .missingResponseType)
  else
    match GrantType.ofResponseTypes request.responseTypes with
    | .error error => .error (.authorizationCode, error)
    | .ok grant =>
      if !client.allowsGrant grant then .error (grant, .grantNotAllowed grant.text)
      else
        match request.scope.toList.find? (!client.allowsScope ·) with
        | some scope => .error (grant, .scopeNotAllowed scope)
        | none =>
          match e.pkce.validateParameters request.parameters with
          | .error error => .error (grant, error.toAuthError)
          | .ok () => .ok grant

def answer (e : Endpoint) (c : Collaborators) (m : Moment) (client : Client) (target : Url)
    (request : Request) (p : Principal) : Traced Outcome := do
  match e.screen request client with
  | .error (grant, error) => return .redirect (← e.fail m target grant request p error)
  | .ok grant =>
    if client.autoApproves request.scope.toList e.fits then
      publish m request.clientId p .autoApproved
      return .redirect (← e.respond c m target grant { request with approved := true } p)
    else if request.promptNone then
      return .redirect (← e.fail m target grant request p .approvalNeeded)
    else
      publish m request.clientId p (.approvalRequested m.snapshotId)
      return .approval
        ⟨⟨m.snapshotId, m.now, request⟩, e.approval.parameter, e.approval.scopeLead⟩

def authorize (e : Endpoint) (c : Collaborators) (m : Moment) (parameters : TextMap String)
    (p : Principal) : Traced (Except AuthError Outcome) := do
  match Request.ofParameters parameters with
  | .error error => reject m ((parameters.get? "client_id").getD "") p error
  | .ok request =>
    match ← c.client request.clientId with
    | .error error => return .error error
    | .ok none => reject m request.clientId p (.unknownClient request.clientId)
    | .ok (some client) =>
      match RedirectUri.resolve e.redirect client request.redirectUri with
      | .error error => reject m request.clientId p error
      | .ok uri =>
        let request := { request with redirectUri := some uri }
        match Redirect.target request with
        | .error error => return .error error
        | .ok target => return .ok (← e.answer c m client target request p)

def isApproved (e : Endpoint) (form : TextMap String) : Bool :=
  match form.get? e.approval.parameter with
  | some value => Text.lower value.toList == ['t', 'r', 'u', 'e']
  | none => false

def namedScopes (e : Endpoint) (form : TextMap String) : TextSet :=
  .ofList ((form.toList.filter fun field =>
    e.approval.scopeLead.toList.isPrefixOf field.1.toList).map Prod.snd)

/-- The scope that the form grants: what it names, or all that was requested if it names nothing. -/
def grantedScope (requested named : TextSet) : Except AuthError TextSet :=
  if named.isEmpty then .ok requested
  else
    match named.toList.find? (!requested.contains ·) with
    | some scope => .error (.scopeNotRequested scope)
    | none => .ok named

def decide (e : Endpoint) (c : Collaborators) (m : Moment) (form : TextMap String) (target : Url)
    (grant : GrantType) (request : Request) (p : Principal) : Traced Redirect :=
  if e.isApproved form then
    match grantedScope request.scope (e.namedScopes form) with
    | .error error => e.fail m target grant request p error
    | .ok scope => e.respond c m target grant { request with scope, approved := true } p
  else do
    publish m request.clientId p .accessDenied
    e.fail m target grant request p .deniedByUser

/-- Answers the form of an approval page. `resubmitted` is the request as it came back with it. -/
def approve (e : Endpoint) (c : Collaborators) (m : Moment) (form : TextMap String)
    (kept : Snapshot) (resubmitted : Request) (p : Principal) :
    Traced (Except AuthError Redirect) := do
  match Request.checkUnmodified kept resubmitted with
  | .error error =>
    publish m kept.request.clientId p .tamperDetected
    return .error error
  | .ok () =>
    match Redirect.target kept.request with
    | .error error => return .error error
    | .ok target =>
      match GrantType.ofResponseTypes kept.request.responseTypes with
      | .error error => return .error error
      | .ok grant => return .ok (← e.decide c m form target grant kept.request p)

end Endpoint

end ConsentGate
