import ConsentGate.Url.Path

namespace ConsentGate.RedirectUri

def stripFragment (uri : List Char) : List Char :=
  Text.before (· == '#') uri

/-- Tells the characters that reading a URL drops or alters. -/
def isForbidden (c : Char) : Bool :=
  c == '\\' || c == '\t' || c == '\r' || c == '\n'

/-- The path as written: without query, after the authority or the scheme. -/
def writtenPath (uri : List Char) : List Char :=
  let s := Text.before (· == '?') uri
  match Text.cutOn? [':', '/', '/'] s with
  | some (_, rest) => rest.dropWhile (· != '/')
  | none => (Text.cutAt (· == ':') s).2.getD s

def hasDotSegment (uri : List Char) : Bool :=
  (Text.pieces (fun c => c == '/' || c == '\\') (writtenPath uri)).any fun s =>
    Url.Path.isSingleDot s || Url.Path.isDoubleDot s

def writtenAuthority? (uri : List Char) : Option (List Char) := do
  let (_, rest) ← Text.cutOn? [':', '/', '/'] uri
  let authority := Text.before (fun c => c == '/' || c == '?' || c == '#') rest
  match Text.cutLast? (· == '@') authority with
  | some (_, s) => return s
  | none => return authority

def unlessEmpty (s : List Char) : Option (List Char) :=
  if s.isEmpty then none else some s

def writtenHost? (uri : List Char) : Option (List Char) := do
  let s ← writtenAuthority? uri
  match s with
  | '[' :: _ =>
    match Text.cutAt (· == ']') s with
    | (front, some _) => some (front ++ [']'])
    | (front, none) => some front
  | _ => unlessEmpty (Text.before (· == ':') s)

def writtenPort? (uri : List Char) : Option (List Char) := do
  let s ← writtenAuthority? uri
  let (_, port) ← match s with
    | '[' :: _ => Text.cutOn? [']', ':'] s
    | _ => Text.cutLast? (· == ':') s
  unlessEmpty port

end ConsentGate.RedirectUri
