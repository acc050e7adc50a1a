import ConsentGate.AuthError
import ConsentGate.Collection.TextMap
import ConsentGate.Hash.Sha256
import ConsentGate.Settings.Endpoint
import ConsentGate.Text.Base64Url
import ConsentGate.Text.Utf8

namespace ConsentGate.Pkce

inductive Error where
  | challengeLength (length : Nat)
  | challengeCharacters
  | verifierLength (length : Nat)
  | verifierCharacters
  | unsupportedMethod (method : String)
  | missingVerifier
  | unexpectedVerifier
  deriving DecidableEq, Repr

namespace Error

def message : Error → String
  | .challengeLength n =>
    "Invalid code_challenge length: must be 43-128 characters, got " ++ toString n
  | .challengeCharacters => "Invalid code_challenge characters: must be [A-Za-z0-9-._~]"
  | .verifierLength n =>
    "Invalid code_verifier length: must be 43-128 characters, got " ++ toString n
  | .verifierCharacters => "Invalid code_verifier characters: must be [A-Za-z0-9-._~]"
  | .unsupportedMethod method => "Unsupported code_challenge_method: " ++ method
  | .missingVerifier => "code_verifier is required for this authorization code"
  | .unexpectedVerifier =>
    "code_verifier supplied but no code_challenge was present in the authorization request"

def concernsChallenge : Error → Bool
  | .challengeLength _ | .challengeCharacters | .unsupportedMethod _ => true
  | _ => false

/-- The error that reports the fault to a client: a verifier that is absent or out of place spoils
the grant, all else the request. -/
def toAuthError (e : Error) : AuthError :=
  match e with
  | .missingVerifier | .unexpectedVerifier => ⟨.invalidGrant, e.message⟩
  | _ => ⟨.invalidRequest, e.message⟩

end Error

def isUnreserved (c : Char) : Bool :=
  c.isAlphanum || c == '-' || c == '.' || c == '_' || c == '~'

def checkShape (value : String) (onLength : Nat → Error) (onCharacters : Error) :
    Except Error Unit :=
  if value.length < 43 ∨ 128 < value.length then .error (onLength value.length)
  else if !value.toList.all isUnreserved then .error onCharacters
  else .ok ()

def challengeS256 (verifier : String) : String :=
  String.ofList (Text.Base64Url.encode (Sha256.digest (Text.Utf8.encode verifier.toList)))

abbrev Check := (verifier challenge : String) → Bool

def builtin? : String → Option Check
  | "plain" => some fun verifier challenge => verifier == challenge
  | "S256" => some fun verifier challenge => challengeS256 verifier == challenge
  | _ => none

def challengeMethod (parameters : TextMap String) : String :=
  (parameters.get? "code_challenge_method").getD "plain"

structure Service where
  checks : TextMap Check

namespace Service

/-- The service of the given checks by method; of two for one method the later one counts. -/
def ofChecks (checks : List (String × Check)) : Service :=
  ⟨.ofList checks⟩

def withCheck (s : Service) (method : String) (check : Check) : Service :=
  ⟨s.checks.insert method check⟩

def ofMethods : List String → Except SettingsError Service
  | methods => do
    let checks ← methods.mapM fun method =>
      match builtin? method with
      | some check => .ok (method, check)
      | none => .error (.invalidValue ("Invalid PKCE method: '" ++ method ++ "'"))
    return .ofChecks checks

def standard : Service :=
  .ofChecks (["plain", "S256"].filterMap fun method => (builtin? method).map (method, ·))

def methods (s : Service) : List String := s.checks.keys

def supports (s : Service) (method : String) : Bool := s.checks.contains method

/-- Checks the parameters of an authorization request. A method must be on offer whenever it is given;
a challenge without one is of the method `plain`. -/
def validateParameters (s : Service) (parameters : TextMap String) : Except Error Unit := do
  let method := parameters.get? "code_challenge_method"
  if let some m := method then
    if !s.supports m then throw (.unsupportedMethod m)
  match parameters.get? "code_challenge" with
  | none => return ()
  | some challenge =>
    checkShape challenge .challengeLength .challengeCharacters
    if method.isNone && !s.supports "plain" then throw (.unsupportedMethod "plain")

/-- Tells whether a verifier answers a challenge. Without a challenge every verifier does. -/
def verify (s : Service) (verifier : String) (challenge : Option String) (method : String) : Bool :=
  match challenge with
  | none => true
  | some challenge =>
    match s.checks.get? method with
    | some check => check verifier challenge
    | none => false

def checkExchange (s : Service) (parameters : TextMap String) (verifier : Option String) :
    Except Error Bool :=
  match parameters.get? "code_challenge", verifier with
  | none, none => .ok true
  | none, some _ => .error .unexpectedVerifier
  | some _, none => .error .missingVerifier
  | some challenge, some v => do
    checkShape v .verifierLength .verifierCharacters
    return s.verify v (some challenge) (challengeMethod parameters)

end Service

end ConsentGate.Pkce
