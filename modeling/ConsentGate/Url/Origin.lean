import ConsentGate.Url.Parse

namespace ConsentGate.Url

def tupleOrigin? (u : Url) : Option (List Char) := do
  let host ← u.host?
  let _ ← defaultPort? u.scheme
  return u.scheme ++ ':' :: '/' :: '/' :: host.render ++
    match u.port? with
    | some n => ':' :: Nat.toDigits 10 n
    | none => []

def originWithin : Nat → Url → Option (List Char)
  | 0, u => tupleOrigin? u
  | n + 1, u =>
    if u.scheme = ['b', 'l', 'o', 'b'] then
      match parse u.path.render with
      | .ok inner => originWithin n inner
      | .error _ => none
    else tupleOrigin? u

/-- The origin as text. URLs without one share the origin `null`. -/
def origin (u : Url) : String :=
  match originWithin u.path.render.length u with
  | some s => String.ofList s
  | none => "null"

end ConsentGate.Url
