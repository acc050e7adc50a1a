import ConsentGate.Text.Blank
import ConsentGate.Text.Form
import ConsentGate.Wire.Write

namespace ConsentGate

/-- A request. Header values are bytes; of repeated headers the first counts. -/
structure HttpRequest where
  method : String
  path : List Char
  query : List Char
  headers : List (String × List UInt8)
  body : List UInt8

structure HttpResponse where
  status : Nat
  location : Option String
  body : Option Json

namespace HttpRequest

def isSchemeChar (c : Char) : Bool :=
  c.isAlphanum || c == '+' || c == '-' || c == '.'

def behindAuthority? (target : List Char) : Option (List Char) := do
  let (scheme, rest) ← Text.cutOn? "://".toList target
  if scheme.all isSchemeChar then
    return rest.dropWhile fun c => !(c == '/' || c == '?' || c == '#')
  else none

/-- Path and query of a request's target. Scheme and authority do not matter where they are given;
the path behind them is the root if it is left out. -/
def splitTarget (target : List Char) : List Char × List Char :=
  let rest := behindAuthority? target
  let (path, query) := Text.cutAt (· == '?') (Text.before (· == '#') (rest.getD target))
  (if rest.isSome && path.isEmpty then ['/'] else path, query.getD [])

def header? (r : HttpRequest) (name : String) : Option (List UInt8) :=
  (r.headers.find? fun h => Text.lower h.1.toList == Text.lower name.toList).map Prod.snd

def textHeader? (r : HttpRequest) (name : String) : Option (List Char) := do
  let value ← r.header? name
  if value.all fun b => b = 9 || (32 ≤ b && b < 127) then
    return value.map fun b => Char.ofNat b.toNat
  else none

def trimmedHeader? (r : HttpRequest) (name : String) : Option String :=
  match (r.textHeader? name).map (Text.trim Text.isBlank) with
  | some (c :: s) => some (String.ofList (c :: s))
  | _ => none

def parameters (r : HttpRequest) : TextMap String :=
  .ofList (Text.Form.decode r.query)

def hasForm (r : HttpRequest) : Bool :=
  match r.textHeader? "content-type" with
  | some value => "application/x-www-form-urlencoded".toList.isPrefixOf value
  | none => false

def form (r : HttpRequest) : TextMap String :=
  .ofList (Text.Form.decodeBytes r.body)

end HttpRequest

namespace HttpResponse

def plain (status : Nat) : HttpResponse := ⟨status, none, none⟩

def document (status : Nat) (body : Json) : HttpResponse := ⟨status, none, some body⟩

def ofAuthError (e : AuthError) : HttpResponse :=
  document e.kind.httpStatus (Wire.ofAuthError e)

def isHeaderText (s : String) : Bool :=
  s.toList.all fun c => c == '\t' || (0x20 ≤ c.toNat && c.toNat != 0x7F)

def ofRedirect (r : Redirect) : HttpResponse :=
  if isHeaderText r.uri then ⟨r.status.code, some r.uri, none⟩
  else ofAuthError .unsendableRedirect

def ofApprovalPage (p : ApprovalPage) : HttpResponse :=
  document 200 (Wire.ofApprovalPage p)

def ofOutcome : Outcome → HttpResponse
  | .redirect r => ofRedirect r
  | .approval p => ofApprovalPage p

end HttpResponse

end ConsentGate
