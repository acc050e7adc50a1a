import ConsentGate.AuthError
import ConsentGate.ParameterList

namespace ConsentGate

inductive GrantType where
  | authorizationCode
  | implicit
  deriving DecidableEq, Repr

namespace GrantType

def text : GrantType → String
  | .authorizationCode => "authorization_code"
  | .implicit => "implicit"

def usesFragment : GrantType → Bool
  | .authorizationCode => false
  | .implicit => true

/-- The grant that a set of response types asks for: a token asks for the implicit grant, else a code
for the code grant, else an identity token for the implicit grant. -/
def ofResponseTypes (types : TextSet) : Except AuthError GrantType :=
  if types.contains "token" then .ok .implicit
  else if types.contains "code" then .ok .authorizationCode
  else if types.contains "id_token" then .ok .implicit
  else .error ⟨.unsupportedResponseType, ParameterList.format types⟩

end GrantType

end ConsentGate
