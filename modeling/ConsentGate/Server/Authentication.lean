import ConsentGate.Server.Http

namespace ConsentGate.Authentication

def subjectHeader : String := "x-authenticated-user"

/-- The header with the user's name; without it the identifier serves. -/
def usernameHeader : String := "x-authenticated-username"

def sessionHeader : String := "x-authenticated-session"

def principal? (subjectHeader : String) (r : HttpRequest) : Option Principal :=
  (r.trimmedHeader? subjectHeader).map fun subjectId =>
    ⟨subjectId, (r.trimmedHeader? usernameHeader).getD subjectId, r.trimmedHeader? sessionHeader⟩

def refusal : Option AuthError → HttpResponse
  | some e => .document 500 (Wire.ofErrorBody ErrorCode.serverError.text
      ("Authentication backend error: " ++ e.message))
  | none => .document 401 (Wire.ofErrorBody ErrorCode.accessDenied.text
      "User must be authenticated before authorization can be completed.")

def require (found : Except AuthError (Option Principal)) : Except HttpResponse Principal :=
  match found with
  | .ok (some p) => .ok p
  | .ok none => .error (refusal none)
  | .error e => .error (refusal (some e))

end ConsentGate.Authentication
