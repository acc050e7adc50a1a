import ConsentGate.Server.Http
import ConsentGate.Server.Snapshots

namespace ConsentGate.Handlers

def authorize (e : Endpoint) (c : Collaborators) (m : Moment) (store : SnapshotStore)
    (parameters : TextMap String) (p : Principal) : Traced (HttpResponse × SnapshotStore) := do
  match ← e.authorize c m parameters p with
  | .error error => return (.ofAuthError error, store)
  | .ok (.redirect r) => return (.ofRedirect r, store)
  | .ok (.approval page) =>
    return (.ofApprovalPage page, store.put p.subjectId page.snapshot)

def echoed (form : TextMap String) (name : String) (before : Option String) : Option String :=
  match form.get? name with
  | some value => if value.isEmpty then none else some value
  | none => before

def echoedItems (form : TextMap String) (name : String) (before : TextSet) : TextSet :=
  match form.get? name with
  | some value => ParameterList.parse value
  | none => before

/-- The request of a snapshot with what the form repeats of it laid over. -/
def resubmitted (snapshot : Snapshot) (form : TextMap String) : Request :=
  let r := snapshot.request
  { r with
    clientId := (form.get? "client_id").getD r.clientId
    redirectUri := echoed form "redirect_uri" r.redirectUri
    state := echoed form "state" r.state
    scope := echoedItems form "scope" r.scope
    responseTypes := echoedItems form "response_type" r.responseTypes }

def snapshotId? (form : TextMap String) : Option Uuid :=
  (form.get? "snapshot_id").bind Uuid.parse?

/-- Answers the form of an approval page. The snapshot is gone after that, whatever the answer. -/
def approve (e : Endpoint) (c : Collaborators) (m : Moment) (store : SnapshotStore)
    (form : TextMap String) (p : Principal) : Traced (HttpResponse × SnapshotStore) :=
  match snapshotId? form with
  | none => return (.ofAuthError .missingSnapshotId, store)
  | some id =>
    match store.take p.subjectId id with
    | (none, store) => return (.ofAuthError .snapshotGone, store)
    | (some snapshot, store) => do
      match ← e.approve c m form snapshot (resubmitted snapshot form) p with
      | .error error => return (.ofAuthError error, store)
      | .ok r => return (.ofRedirect r, store)

end ConsentGate.Handlers
