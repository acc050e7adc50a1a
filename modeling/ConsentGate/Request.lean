import ConsentGate.AuthError
import ConsentGate.Collection.TextMap
import ConsentGate.Json.Basic
import ConsentGate.ParameterList
import ConsentGate.Timestamp
import ConsentGate.Uuid

namespace ConsentGate

/-- One attempt to be authorized. `parameters` holds all that was sent. -/
structure Request where
  clientId : String
  redirectUri : Option String
  state : Option String
  scope : TextSet
  responseTypes : TextSet
  approved : Bool
  resourceIds : TextSet
  authorities : TextSet
  parameters : TextMap String
  extensions : TextMap Json

structure Snapshot where
  id : Uuid
  frozenAt : Timestamp
  request : Request

namespace Request

def nonEmpty? (parameters : TextMap String) (name : String) : Option String :=
  (parameters.get? name).filter (!·.isEmpty)

def items (parameters : TextMap String) (name : String) : TextSet :=
  match parameters.get? name with
  | some value => ParameterList.parse value
  | none => .empty

def ofParameters (parameters : TextMap String) : Except AuthError Request :=
  match nonEmpty? parameters "client_id" with
  | none => .error .missingClientId
  | some clientId => .ok {
      clientId
      redirectUri := nonEmpty? parameters "redirect_uri"
      state := nonEmpty? parameters "state"
      scope := items parameters "scope"
      responseTypes := items parameters "response_type"
      approved := false
      resourceIds := .empty
      authorities := .empty
      parameters
      extensions := .empty }

def promptNone (r : Request) : Bool :=
  (items r.parameters "prompt").contains "none"

inductive GuardedField where
  | clientId
  | redirectUri
  | state
  | scope
  | responseTypes
  | approved
  | resourceIds
  | authorities
  deriving DecidableEq, Repr

/-- The first guarded field in which two requests differ. -/
def changedField? (kept resubmitted : Request) : Option GuardedField :=
  if kept.clientId ≠ resubmitted.clientId then some .clientId
  else if kept.redirectUri ≠ resubmitted.redirectUri then some .redirectUri
  else if kept.state ≠ resubmitted.state then some .state
  else if kept.scope ≠ resubmitted.scope then some .scope
  else if kept.responseTypes ≠ resubmitted.responseTypes then some .responseTypes
  else if kept.approved ≠ resubmitted.approved then some .approved
  else if kept.resourceIds ≠ resubmitted.resourceIds then some .resourceIds
  else if kept.authorities ≠ resubmitted.authorities then some .authorities
  else none

def checkUnmodified (kept : Snapshot) (resubmitted : Request) : Except AuthError Unit :=
  match changedField? kept.request resubmitted with
  | none => .ok ()
  | some _ => .error .tampered

end Request

end ConsentGate
