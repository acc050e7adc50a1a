import ConsentGate.Client
import ConsentGate.Collection.TextMap
import ConsentGate.RedirectUri.Written
import ConsentGate.Settings.Endpoint
import ConsentGate.Url.Query

namespace ConsentGate.RedirectUri

structure Parts where
  scheme : List Char
  userinfo : Option (List Char × Option (List Char))
  host : Option (List Char)
  port : Option (List Char)
  path : List Char
  query : TextMap TextSet
  deriving DecidableEq

def valuesByName (ps : List Text.Form.Pair) : TextMap TextSet :=
  ps.foldl (fun m p => m.insert p.1 (((m.get? p.1).getD .empty).insert p.2)) .empty

def Parts.read? (uri : List Char) : Option Parts :=
  match Url.parse uri with
  | .error _ => none
  | .ok u => some {
      scheme := u.scheme
      userinfo :=
        if u.username.isEmpty && u.password?.isNone then none else some (u.username, u.password?)
      host := u.host?.bind fun _ => writtenHost? uri
      port := writtenPort? uri
      path := u.path.render
      query := valuesByName u.queryPairs }

/-- Tells whether the first host lies below the second: it ends in a point and the second host. -/
def isSubdomain (host parent : List Char) : Bool :=
  ('.' :: parent).isSuffixOf host && parent.length + 1 < host.length

def hostMatches (rules : RedirectSettings) : Option (List Char) → Option (List Char) → Bool
  | some host, some registered =>
    host == registered || (rules.matchSubdomains && isSubdomain host registered)
  | none, none => true
  | _, _ => false

def agrees (rules : RedirectSettings) (requested registered : Parts) : Bool :=
  requested.scheme == registered.scheme &&
    hostMatches rules requested.host registered.host &&
    (!rules.matchPorts || requested.port == registered.port) &&
    requested.userinfo == registered.userinfo &&
    requested.path == registered.path &&
    registered.query.toList.all fun e => requested.query.get? e.1 == some e.2

def isRegistered (rules : RedirectSettings) (client : Client) (uri : List Char) : Bool :=
  match Parts.read? uri with
  | none => false
  | some requested =>
    client.redirectUris.toList.any fun g =>
      match Parts.read? (stripFragment g.toList) with
      | some registered => agrees rules requested registered
      | none => false

/-- The redirect URI of a request: the requested one without fragment, or the only one registered. -/
def resolve (rules : RedirectSettings) (client : Client) (requested : Option String) :
    Except AuthError String :=
  if !client.grantTypes.toList.any rules.grantTypes.contains then .error .redirectNotAllowed
  else
    match client.redirectUris.toList, requested with
    | [], _ => .error .noRedirectRegistered
    | [only], none => .ok only
    | _, none => .error .ambiguousRedirect
    | _, some requested =>
      let uri := stripFragment requested.toList
      if uri.any isForbidden || hasDotSegment uri then .error .redirectMismatch
      else if isRegistered rules client uri then .ok (String.ofList uri)
      else .error .redirectMismatch

end ConsentGate.RedirectUri
