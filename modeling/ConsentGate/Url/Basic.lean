import ConsentGate.Url.Host.Ipv6
import ConsentGate.Url.Path

namespace ConsentGate

namespace Url

inductive Host where
  | name (s : List Char)
  | ipv4 (n : Nat)
  | ipv6 (groups : List Nat)
  deriving DecidableEq

def Host.render : Host → List Char
  | .name s => s
  | .ipv4 n => Ipv4.render n
  | .ipv6 groups => '[' :: Ipv6.render groups ++ [']']

/-- What follows `//`: credentials, host and port. An absent password is no empty one, and a port that
the scheme implies is left out. -/
structure Authority where
  username : List Char
  password : Option (List Char)
  host : Option Host
  port : Option Nat
  deriving DecidableEq

def Authority.credentials (a : Authority) : List Char :=
  match a.username, a.password with
  | [], none => []
  | u, none => u ++ ['@']
  | u, some p => u ++ ':' :: p ++ ['@']

def Authority.render (a : Authority) : List Char :=
  a.credentials ++ (a.host.map Host.render).getD [] ++
    match a.port with
    | some n => ':' :: Nat.toDigits 10 n
    | none => []

end Url

structure Url where
  scheme : List Char
  authority : Option Url.Authority
  path : Url.Path
  query : Option (List Char)
  fragment : Option (List Char)
  deriving DecidableEq

namespace Url

def defaultPort? : List Char → Option Nat
  | ['h', 't', 't', 'p'] => some 80
  | ['h', 't', 't', 'p', 's'] => some 443
  | ['w', 's'] => some 80
  | ['w', 's', 's'] => some 443
  | ['f', 't', 'p'] => some 21
  | _ => none

def isFileScheme (scheme : List Char) : Bool :=
  scheme == ['f', 'i', 'l', 'e']

def isSpecialScheme (scheme : List Char) : Bool :=
  (defaultPort? scheme).isSome || isFileScheme scheme

def username (u : Url) : List Char :=
  (u.authority.map Authority.username).getD []

def password? (u : Url) : Option (List Char) :=
  u.authority.bind Authority.password

def host? (u : Url) : Option Host :=
  u.authority.bind Authority.host

def port? (u : Url) : Option Nat :=
  u.authority.bind Authority.port

def renderFront (u : Url) : List Char :=
  u.scheme ++ ':' ::
    match u.authority with
    | some a => '/' :: '/' :: a.render
    | none => []

/-- The path as it follows the front. Where there is no authority a path that starts with two slashes
would read as one; `/.` keeps them apart. -/
def renderPath (u : Url) : List Char :=
  match u.authority, u.path with
  | none, .segments ([] :: s :: r) => '/' :: '.' :: Path.render (.segments ([] :: s :: r))
  | _, p => p.render

def renderQuery (u : Url) : List Char :=
  match u.query with
  | some q => '?' :: q
  | none => []

def renderFragment (u : Url) : List Char :=
  match u.fragment with
  | some f => '#' :: f
  | none => []

def render (u : Url) : List Char :=
  u.renderFront ++ u.renderPath ++ u.renderQuery ++ u.renderFragment

instance : ToString Url := ⟨fun u => String.ofList u.render⟩

end Url

end ConsentGate
