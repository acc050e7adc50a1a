import ConsentGate.GrantType
import ConsentGate.Request
import ConsentGate.Settings.Endpoint
import ConsentGate.Token
import ConsentGate.Url.Query

namespace ConsentGate

structure Redirect where
  uri : String
  status : RedirectStatus
  deriving DecidableEq, Repr

inductive Issued where
  | code (code : String)
  | token (token : Token) (code : Option String)
  deriving DecidableEq

namespace Redirect

open Text (Form.Pair)

def optional (name : String) : Option String → List Form.Pair
  | some value => [(name, value)]
  | none => []

def target (r : Request) : Except AuthError Url :=
  match r.redirectUri with
  | none => .error .unresolvedRedirect
  | some uri =>
    match Url.parse uri.toList with
    | .ok u => .ok u
    | .error e => .error (.unusableRedirect e.message)

def codePairs (request : Request) (code : String) (sessionState : Option String) : List Form.Pair :=
  ("code", code) :: optional "state" request.state ++ optional "session_state" sessionState

/-- The scope of a token, as far as it has one, else that of the request. -/
def grantedScope (request : Request) (token : Token) : TextSet :=
  if token.scope.isEmpty then request.scope else token.scope

def tokenPairs (now : Timestamp) (request : Request) (token : Token) (code : Option String)
    (sessionState : Option String) : List Form.Pair :=
  let scope := grantedScope request token
  [("token_type", token.tokenType), ("access_token", token.value)] ++
    optional "id_token" token.idToken ++ optional "code" code ++ optional "state" request.state ++
    [("expires_in", toString (token.expiresIn now))] ++
    (if scope.isEmpty then [] else [("scope", ParameterList.format scope)]) ++
    optional "session_state" sessionState

def success (status : RedirectStatus) (now : Timestamp) (target : Url) (request : Request)
    (issued : Issued) (sessionState : Option String) : Redirect :=
  let url := match issued with
    | .code code => target.appendQuery (codePairs request code sessionState)
    | .token token code => target.setFragment (tokenPairs now request token code sessionState)
  ⟨toString url, status⟩

def errorPairs (error : AuthError) (state : Option String) : List Form.Pair :=
  [("error", error.code.text), ("error_description", error.description)] ++ optional "state" state

def failure (status : RedirectStatus) (target : Url) (grant : GrantType) (error : AuthError)
    (state : Option String) : Redirect :=
  let pairs := errorPairs error state
  let url := if grant.usesFragment then target.setFragment pairs
    else target.dropFragment.appendQuery pairs
  ⟨toString url, status⟩

/-- The value of a parameter, in the query or else in the fragment. -/
def parameter? (r : Redirect) (name : String) : Option String :=
  match Url.parse r.uri.toList with
  | .error _ => none
  | .ok u => (u.queryPairs.lookup name).or (u.fragmentPairs.lookup name)

def error? (r : Redirect) : Option String := r.parameter? "error"

end Redirect

end ConsentGate
