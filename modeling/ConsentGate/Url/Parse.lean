import ConsentGate.Text.Digits
import ConsentGate.Url.Host.Read

namespace ConsentGate.Url

def isOuter (c : Char) : Bool :=
  c.toNat ≤ 0x20

def isDropped (c : Char) : Bool :=
  c == '\t' || c == '\n' || c == '\r'

def clean (s : List Char) : List Char :=
  (Text.trim isOuter s).filter (!isDropped ·)

def isSchemeChar (c : Char) : Bool :=
  c.isAlphanum || c == '+' || c == '-' || c == '.'

def cutScheme? : List Char → Option (List Char × List Char)
  | [] => none
  | c :: r =>
    if c.isAlpha then
      match r.dropWhile isSchemeChar with
      | ':' :: rest => some (Text.lower (c :: r.takeWhile isSchemeChar), rest)
      | _ => none
    else none

/-- User name and password of a text before the last `@`. An empty password counts as none. -/
def readCredentials (s : List Char) : List Char × Option (List Char) :=
  let (user, pass) := Text.cutAt (· == ':') s
  (Text.Percent.encode keepsUserinfo user,
    match pass with
    | none => none
    | some [] => none
    | some p => some (Text.Percent.encode keepsUserinfo p))

def cutHost (inside : Bool) : List Char → List Char × List Char
  | [] => ([], [])
  | c :: r =>
    if c == ':' && !inside then ([], c :: r)
    else
      let cut := cutHost (if c == '[' then true else if c == ']' then false else inside) r
      (c :: cut.1, cut.2)

/-- The port after a host, if it differs from the one that the scheme implies, and what follows it.
Only a backslash may follow the digits. -/
def readPort (implied : Option Nat) : List Char → Except UrlError (Option Nat × List Char)
  | ':' :: r =>
    let ds := r.takeWhile Char.isDigit
    let rest := r.dropWhile Char.isDigit
    let n := Text.Digits.value ds
    if 65535 < n then .error .badPort
    else if rest.isEmpty || rest.head? == some '\\' then
      .ok (if ds.isEmpty || implied == some n then none else some n, rest)
    else .error .badPort
  | r => .ok (none, r)

def readAuthority (scheme auth : List Char) (followed : Bool) :
    Except UrlError (Authority × List Char) := do
  let special := isSpecialScheme scheme
  let (user, rest) ←
    match Text.cutLast? (· == '@') auth with
    | none => .ok (none, auth)
    | some ([], []) => if followed then .error .emptyHost else .ok (none, [])
    | some ([], rest) => .ok (none, rest)
    | some (user, rest) => .ok (some (readCredentials user), rest)
  let (username, password) := user.getD ([], none)
  let (name, rest) := cutHost false rest
  if special && name.isEmpty then throw .emptyHost
  let host ← if name.isEmpty then .ok none else (Host.read special name).map some
  if host.isNone && rest.head? == some ':' then throw .emptyHost
  let (port, rest) ← readPort (defaultPort? scheme) rest
  if host.isNone && (!username.isEmpty || password.isSome) then throw .emptyHost
  return (⟨username, password, host, port⟩, rest)

/-- The path after an authority. Where the scheme has special rules it is never empty. -/
def readPathAfter (special : Bool) (s : List Char) : Path :=
  if !special && s.isEmpty then .segments [] else .segments (Path.read special s)

def readHierarchy (scheme s : List Char) (followed : Bool) :
    Except UrlError (Authority × Path) := do
  let special := isSpecialScheme scheme
  let auth := Text.before (Path.isSlash special) s
  let tail := s.dropWhile (!Path.isSlash special ·)
  let (authority, rest) ← readAuthority scheme auth (followed || !tail.isEmpty)
  return (authority, readPathAfter special (rest ++ tail))

def readFileHost (s : List Char) : Except UrlError (Option Host) :=
  if s.isEmpty then .ok none
  else do
    let host ← Host.read true s
    return if host = .name ['l', 'o', 'c', 'a', 'l', 'h', 'o', 's', 't'] then none else some host

/-- Authority and path of a local file. After two slashes a host may stand, unless it names a drive.
A path that starts with a drive needs no host, and the drive is written with a colon; after two slashes
and no host the path stays as it is. -/
def readFile (s : List Char) : Except UrlError (Authority × Path) := do
  let authority := fun host => Authority.mk [] none host none
  let onDrive := fun rest => Path.segments (Path.dropEmpty (Path.nameDrive (Path.read true rest)))
  match s with
  | a :: b :: r =>
    if Path.isSlash true a && Path.isSlash true b then
      let name := Text.before (Path.isSlash true) r
      if Path.isDrive name then return (authority none, onDrive r)
      else
        let host ← readFileHost name
        let rest := r.dropWhile (!Path.isSlash true ·)
        let path := Path.read true rest
        if host.isSome && Path.startsWithDrive path then return (authority none, onDrive rest)
        else return (authority host, .segments (Path.dropEmpty path))
    else return (authority none, onDrive s)
  | s => return (authority none, onDrive s)

def readBody (scheme s : List Char) (followed : Bool) :
    Except UrlError (Option Authority × Path) :=
  if isFileScheme scheme then (readFile s).map fun r => (some r.1, r.2)
  else if isSpecialScheme scheme then
    (readHierarchy scheme (s.dropWhile (Path.isSlash true)) followed).map fun r => (some r.1, r.2)
  else
    match s with
    | '/' :: '/' :: r => (readHierarchy scheme r followed).map fun r => (some r.1, r.2)
    | '/' :: r => .ok (none, .segments (Path.read false ('/' :: r)))
    | s => .ok (none, .flat (Text.Percent.encode keepsFlat s))

def parse (text : List Char) : Except UrlError Url := do
  let (front, fragment) := Text.cutAt (· == '#') (clean text)
  let (front, query) := Text.cutAt (· == '?') front
  match cutScheme? front with
  | none => .error .noScheme
  | some (scheme, rest) =>
    let (authority, path) ← readBody scheme rest (query.isSome || fragment.isSome)
    return {
      scheme, authority, path
      query := query.map (Text.Percent.encode (keepsQuery (isSpecialScheme scheme)))
      fragment := fragment.map (Text.Percent.encode keepsFragment) }

end ConsentGate.Url
