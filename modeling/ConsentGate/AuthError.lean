namespace ConsentGate

inductive ErrorCode where
  | invalidRequest
  | invalidClient
  | unauthorizedClient
  | invalidGrant
  | redirectMismatch
  | unsupportedResponseType
  | accessDenied
  | invalidScope
  | interactionRequired
  | serverError
  deriving DecidableEq, Repr

def ErrorCode.text : ErrorCode → String
  | .invalidRequest => "invalid_request"
  | .invalidClient => "invalid_client"
  | .unauthorizedClient => "unauthorized_client"
  | .invalidGrant => "invalid_grant"
  | .redirectMismatch => "redirect_mismatch"
  | .unsupportedResponseType => "unsupported_response_type"
  | .accessDenied => "access_denied"
  | .invalidScope => "invalid_scope"
  | .interactionRequired => "interaction_required"
  | .serverError => "server_error"

def ErrorCode.all : List ErrorCode :=
  [.invalidRequest, .invalidClient, .unauthorizedClient, .invalidGrant, .redirectMismatch,
    .unsupportedResponseType, .accessDenied, .invalidScope, .interactionRequired, .serverError]

inductive ErrorKind where
  | invalidRequest
  | invalidClient
  | unauthorizedClient
  | invalidGrant
  | redirectMismatch
  | unsupportedResponseType
  | accessDenied
  | invalidScope
  | interactionRequired
  | storage
  | configuration
  | internal
  deriving DecidableEq, Repr

namespace ErrorKind

/-- The code of the kind. Faults of the server share one. -/
def code : ErrorKind → ErrorCode
  | .invalidRequest => .invalidRequest
  | .invalidClient => .invalidClient
  | .unauthorizedClient => .unauthorizedClient
  | .invalidGrant => .invalidGrant
  | .redirectMismatch => .redirectMismatch
  | .unsupportedResponseType => .unsupportedResponseType
  | .accessDenied => .accessDenied
  | .invalidScope => .invalidScope
  | .interactionRequired => .interactionRequired
  | .storage | .configuration | .internal => .serverError

def title : ErrorKind → String
  | .invalidRequest => "Invalid request"
  | .invalidClient => "Invalid client"
  | .unauthorizedClient => "Unauthorized client"
  | .invalidGrant => "Invalid grant"
  | .redirectMismatch => "Redirect mismatch"
  | .unsupportedResponseType => "Unsupported response type"
  | .accessDenied => "Access denied"
  | .invalidScope => "Invalid scope"
  | .interactionRequired => "Interaction required"
  | .storage => "Storage error"
  | .configuration => "Configuration error"
  | .internal => "Internal error"

def category : ErrorKind → String
  | .invalidRequest | .unsupportedResponseType => "validation"
  | .invalidClient | .unauthorizedClient | .invalidGrant => "client"
  | .redirectMismatch => "redirect"
  | .accessDenied | .invalidScope | .interactionRequired => "authorization"
  | .storage => "infrastructure"
  | .configuration => "configuration"
  | .internal => "internal"

def isServerFault (k : ErrorKind) : Bool :=
  k.code = .serverError

def httpStatus : ErrorKind → Nat
  | .invalidClient => 401
  | .accessDenied => 403
  | .storage | .configuration | .internal => 500
  | _ => 400

end ErrorKind

structure AuthError where
  kind : ErrorKind
  description : String
  deriving DecidableEq, Repr

namespace AuthError

def code (e : AuthError) : ErrorCode := e.kind.code

def message (e : AuthError) : String := e.kind.title ++ ": " ++ e.description

def missingClientId : AuthError := ⟨.invalidRequest, "A client_id must be supplied."⟩

def unknownClient (id : String) : AuthError :=
  ⟨.invalidClient, "No client with requested id: " ++ id⟩

def missingResponseType : AuthError := ⟨.invalidRequest, "A response_type must be supplied."⟩

def grantNotAllowed (grant : String) : AuthError :=
  ⟨.unauthorizedClient, "Client is not authorized for the " ++ grant ++ " grant"⟩

def scopeNotAllowed (scope : String) : AuthError :=
  ⟨.invalidScope, "Invalid scope: " ++ scope ++
    ". Did you know that you can get default scopes by simply sending no value?"⟩

def scopeNotRequested (scope : String) : AuthError :=
  ⟨.invalidScope,
    "The requested scopes are invalid. Please use valid scope names in the request: " ++ scope⟩

def approvalNeeded : AuthError :=
  ⟨.interactionRequired, "User approval is required but prompt=none was requested."⟩

def deniedByUser : AuthError := ⟨.accessDenied, "User denied access"⟩

def tampered : AuthError :=
  ⟨.invalidRequest, "Changes were detected from the original authorization request."⟩

def notIssued : AuthError :=
  ⟨.internal, "The authorization response could not be issued."⟩

def redirectNotAllowed : AuthError :=
  ⟨.invalidGrant, "A redirect_uri can only be used by implicit or authorization_code grant types."⟩

def noRedirectRegistered : AuthError :=
  ⟨.invalidRequest, "At least one redirect_uri must be registered with the client."⟩

def ambiguousRedirect : AuthError :=
  ⟨.redirectMismatch, "A redirect_uri must be supplied when more than one is registered."⟩

/-- A redirect URI that is not registered; the text does not say what differs. -/
def redirectMismatch : AuthError :=
  ⟨.redirectMismatch, "Invalid redirect uri does not match one of the registered values."⟩

def unresolvedRedirect : AuthError := ⟨.internal, "No resolved redirect_uri on request"⟩

def unusableRedirect (reason : String) : AuthError :=
  ⟨.internal, "Unusable redirect_uri: " ++ reason⟩

def unsendableRedirect : AuthError := ⟨.internal, "Redirect URI is not a valid header value"⟩

def missingSnapshotId : AuthError := ⟨.invalidRequest, "A valid snapshot_id must be supplied."⟩

def snapshotGone : AuthError :=
  ⟨.invalidRequest, "The authorization request expired or was already answered."⟩

end AuthError

end ConsentGate
