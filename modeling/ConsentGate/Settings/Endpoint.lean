namespace ConsentGate

inductive SettingsError where
  | invalidValue (what : String)
  | missing (what : String)
  deriving DecidableEq, Repr

def SettingsError.message : SettingsError → String
  | .invalidValue what => "Invalid configuration value: " ++ what
  | .missing what => "Missing required configuration: " ++ what

inductive RedirectStatus where
  | found
  | seeOther
  deriving DecidableEq, Repr

def RedirectStatus.code : RedirectStatus → Nat
  | .found => 302
  | .seeOther => 303

def RedirectStatus.text : RedirectStatus → String
  | .found => "found"
  | .seeOther => "see_other"

structure RedirectSettings where
  grantTypes : List String := ["authorization_code", "implicit"]
  matchSubdomains : Bool := false
  matchPorts : Bool := true
  deriving DecidableEq, Repr

structure PkceSettings where
  methods : List String := ["plain", "S256"]
  deriving DecidableEq, Repr

structure ApprovalSettings where
  parameter : String := "user_oauth_approval"
  scopeLead : String := "scope."
  status : RedirectStatus := .found
  deriving DecidableEq, Repr

structure EventSettings where
  enabled : Bool := true
  capacity : Nat := 1024
  deriving DecidableEq, Repr

structure EndpointSettings where
  redirect : RedirectSettings := {}
  pkce : PkceSettings := {}
  approval : ApprovalSettings := {}
  events : EventSettings := {}
  deriving DecidableEq, Repr

namespace EndpointSettings

def validate (s : EndpointSettings) : Except SettingsError Unit :=
  if s.redirect.grantTypes.isEmpty then .error (.missing "redirect.redirect_grant_types")
  else
    match s.pkce.methods.find? (fun m => !(m == "plain" || m == "S256")) with
    | some m =>
      .error (.invalidValue ("Invalid PKCE method: '" ++ m ++ "'. Must be plain or S256"))
    | none =>
      if s.approval.parameter.isEmpty then .error (.missing "approval.approval_parameter")
      else if s.approval.scopeLead.isEmpty then .error (.missing "approval.scope_prefix")
      else if s.events.enabled && s.events.capacity == 0 then
        .error (.invalidValue "events.capacity must be > 0")
      else .ok ()

end EndpointSettings

end ConsentGate
