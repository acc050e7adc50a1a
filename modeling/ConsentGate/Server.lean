import ConsentGate.Server.Authentication
import ConsentGate.Server.Codes
import ConsentGate.Server.Handlers
import ConsentGate.SessionState

namespace ConsentGate

structure Server where
  endpoint : Endpoint
  clients : TextMap Client
  bodyLimit : Nat
  codeMaxAge : Int

structure ServerState where
  snapshots : SnapshotStore
  codes : CodeStore

/-- What one step draws. -/
structure Draw where
  moment : Moment
  code : String
  token : String
  salt : String

namespace Server

def ofSettings (s : ServiceSettings) (fits : String → Bool := Glob.isSmall) :
    Except SetupError Server :=
  (Endpoint.ofSettings s.endpoint fits).map fun built => {
    endpoint := built.1
    clients := .ofList (s.clients.map fun c => (c.clientId, c))
    bodyLimit := s.listen.bodyLimit
    codeMaxAge := ServiceSettings.seconds s.codeMaxAge }

def initial : ServerState := ⟨.empty, .empty⟩

def tokenLifetime : Int := 3600 * 1000000000

def collaborators (s : Server) (d : Draw) : Collaborators where
  findClient id := .ok (s.clients.get? id)
  sessionState subjectId clientId origin :=
    .ok (SessionState.calculate subjectId clientId origin d.salt)
  issueCode _ _ := .ok d.code
  issueToken request _ :=
    .ok ⟨d.token, none, d.moment.now.later tokenLifetime, "bearer", request.scope⟩

def recordCodes (now : Timestamp) (store : CodeStore) (calls : List Call) : CodeStore :=
  calls.foldl (fun store call =>
    match call with
    | .code request p (.ok code) => store.put code ⟨request, p.subjectId, now⟩
    | _ => store) store

def settle (d : Draw) (state : ServerState) (run : Traced (HttpResponse × SnapshotStore)) :
    HttpResponse × ServerState :=
  (run.value.1, ⟨run.value.2, recordCodes d.moment.now state.codes run.calls⟩)

def get (s : Server) (d : Draw) (state : ServerState) (parameters : TextMap String)
    (p : Principal) : HttpResponse × ServerState :=
  settle d state
    (Handlers.authorize s.endpoint (s.collaborators d) d.moment state.snapshots parameters p)

def post (s : Server) (d : Draw) (state : ServerState) (form : TextMap String) (p : Principal) :
    HttpResponse × ServerState :=
  settle d state
    (Handlers.approve s.endpoint (s.collaborators d) d.moment state.snapshots form p)

def redeem? (s : Server) (now : Timestamp) (state : ServerState) (code : String) :
    Option (Option IssuedCode × ServerState) :=
  (state.codes.redeem? now s.codeMaxAge code).map fun r => (r.1, { state with codes := r.2 })

def cleanupSnapshots? (now : Timestamp) (maxAge : Int) (state : ServerState) :
    Option (Nat × ServerState) :=
  (state.snapshots.cleanup? now maxAge).map fun r => (r.1, { state with snapshots := r.2 })

def cleanupCodes? (s : Server) (now : Timestamp) (state : ServerState) :
    Option (Nat × ServerState) :=
  (state.codes.cleanup? now s.codeMaxAge).map fun r => (r.1, { state with codes := r.2 })

/-- What is done from time to time: expired snapshots are forgotten, then expired codes. A tick ends
where the clock does not reach back far enough, and keeps what it did before. An interval of zero has
no ticks. -/
def tick (s : Server) (now : Timestamp) (settings : SnapshotSettings) (state : ServerState) :
    ServerState :=
  if settings.cleanupInterval = 0 then state
  else
    match cleanupSnapshots? now (ServiceSettings.seconds settings.maxAge) state with
    | none => state
    | some (_, state) => ((s.cleanupCodes? now state).map Prod.snd).getD state

def version : String := "0.0.1"

def about : Json := .object [
  ("service", .string "authpoint"), ("status", .string "ok"), ("version", .string version)]

def health : Json := .object [("status", .string "ok")]

def getRoute (s : Server) (d : Draw) (state : ServerState) (r : HttpRequest) :
    HttpResponse × ServerState :=
  match Authentication.require (.ok (Authentication.principal? Authentication.subjectHeader r)) with
  | .error refusal => (refusal, state)
  | .ok p => s.get d state r.parameters p

def postRoute (s : Server) (d : Draw) (state : ServerState) (r : HttpRequest) :
    HttpResponse × ServerState :=
  match Authentication.require (.ok (Authentication.principal? Authentication.subjectHeader r)) with
  | .error refusal => (refusal, state)
  | .ok p =>
    if !r.hasForm then (.plain 415, state)
    else if s.bodyLimit < r.body.length then (.plain 413, state)
    else s.post d state r.form p

def readRoute (s : Server) (d : Draw) (state : ServerState) (r : HttpRequest) :
    HttpResponse × ServerState :=
  match String.ofList r.path with
  | "/" => (.document 200 about, state)
  | "/healthz" => (.document 200 health, state)
  | "/oauth/authorize" => s.getRoute d state r
  | _ => (.plain 404, state)

def isPath (path : List Char) : Bool :=
  ["/", "/healthz", "/oauth/authorize"].contains (String.ofList path)

/-- Answers a request. A request for the head of a response is answered as one for all of it, less the
body. -/
def handle (s : Server) (d : Draw) (state : ServerState) (r : HttpRequest) :
    HttpResponse × ServerState :=
  match r.method with
  | "GET" => s.readRoute d state r
  | "HEAD" =>
    let (response, state) := s.readRoute d state r
    ({ response with body := none }, state)
  | method =>
    if !isPath r.path then (.plain 404, state)
    else if method = "POST" ∧ String.ofList r.path = "/oauth/authorize" then s.postRoute d state r
    else (.plain 405, state)

end Server

end ConsentGate
