import ConsentGate.Text.Form
import ConsentGate.Url.Parse

namespace ConsentGate.Url

open Text (Form.Pair)

def queryPairs (u : Url) : List Form.Pair :=
  Text.Form.decode (u.query.getD [])

def fragmentPairs (u : Url) : List Form.Pair :=
  Text.Form.decode (u.fragment.getD [])

def extendQuery (query : Option (List Char)) (ps : List Form.Pair) : List Char :=
  match query with
  | none => Text.Form.encode ps
  | some [] => Text.Form.encode ps
  | some q => if ps.isEmpty then q else q ++ '&' :: Text.Form.encode ps

def appendQuery (u : Url) (ps : List Form.Pair) : Url :=
  { u with query := some (extendQuery u.query ps) }

def setFragment (u : Url) (ps : List Form.Pair) : Url :=
  { u with fragment := some (Text.Form.encode ps) }

def trimEnd (s : List Char) : List Char :=
  (s.reverse.dropWhile (· == ' ')).reverse

/-- The URL without its fragment. Spaces at the end of a flat path would end the URL then, and go
too. -/
def dropFragment (u : Url) : Url :=
  match u.path, u.query with
  | .flat s, none => { u with path := .flat (trimEnd s), fragment := none }
  | _, _ => { u with fragment := none }

end ConsentGate.Url
