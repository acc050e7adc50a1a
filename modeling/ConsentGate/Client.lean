import ConsentGate.Collection.TextSet
import ConsentGate.Glob
import ConsentGate.GrantType

namespace ConsentGate

/-- A registration. Without scopes the client may ask for any. -/
structure Client where
  clientId : String
  redirectUris : TextSet
  grantTypes : TextSet
  scopes : TextSet
  autoApprove : List String
  deriving DecidableEq

inductive ClientError where
  | emptyClientId
  | noGrantTypes
  | noRedirectUris
  | badAutoApprove (pattern : String)
  deriving DecidableEq, Repr

namespace ClientError

def message : ClientError → String
  | .emptyClientId => "client_id cannot be empty"
  | .noGrantTypes => "at least one grant type must be configured"
  | .noRedirectUris => "redirect-based grant types require at least one redirect URI"
  | .badAutoApprove pattern => "invalid auto-approve scope pattern: " ++ pattern

end ClientError

namespace Client

def ofId (clientId : String) : Client := ⟨clientId, .empty, .empty, .empty, []⟩

def allowsGrant (c : Client) (g : GrantType) : Bool := c.grantTypes.contains g.text

def allowsScope (c : Client) (scope : String) : Bool :=
  c.scopes.isEmpty || c.scopes.contains scope

def approves (c : Client) (fits : String → Bool) (scope : String) : Bool :=
  (c.autoApprove.filterMap (Glob.compile? · fits)).any (·.isMatch scope)

def autoApproves (c : Client) (scopes : List String) (fits : String → Bool := Glob.isSmall) : Bool :=
  !scopes.isEmpty && scopes.all (c.approves fits)

def validate (c : Client) (fits : String → Bool := Glob.isSmall) : Except ClientError Unit :=
  if c.clientId.isEmpty then .error .emptyClientId
  else if c.grantTypes.isEmpty then .error .noGrantTypes
  else if (c.allowsGrant .authorizationCode || c.allowsGrant .implicit) && c.redirectUris.isEmpty then
    .error .noRedirectUris
  else
    match c.autoApprove.find? fun pattern => (Glob.compile? pattern fits).isNone with
    | some pattern => .error (.badAutoApprove pattern)
    | none => .ok ()

end Client

end ConsentGate
