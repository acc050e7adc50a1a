import ConsentGate.Text.Cut
import ConsentGate.Url.Escape

namespace ConsentGate.Url

/-- A path. A flat path is a text without structure; segments are each preceded by a slash. -/
inductive Path where
  | flat (text : List Char)
  | segments (l : List (List Char))
  deriving DecidableEq

namespace Path

def render : Path → List Char
  | .flat s => s
  | .segments l => l.flatMap ('/' :: ·)

def undot : List Char → List Char
  | '%' :: '2' :: 'e' :: r => '.' :: undot r
  | '%' :: '2' :: 'E' :: r => '.' :: undot r
  | c :: r => c :: undot r
  | [] => []

def isSingleDot (s : List Char) : Bool := undot s == ['.']

def isDoubleDot (s : List Char) : Bool := undot s == ['.', '.']

/-- Tells a letter followed by `:` or `|`, which names a drive and is never removed. -/
def isDrive : List Char → Bool
  | [a, b] => a.isAlpha && (b == ':' || b == '|')
  | _ => false

/-- The segments before the last one, given in reverse, unless the last one names a drive. -/
def up : List (List Char) → List (List Char)
  | [] => []
  | s :: r => if isDrive s then s :: r else r

def resolve : List (List Char) → List (List Char) → List (List Char)
  | acc, [] => acc.reverse
  | acc, [s] =>
    if isDoubleDot s then ([] :: up acc).reverse
    else if isSingleDot s then ([] :: acc).reverse
    else (s :: acc).reverse
  | acc, s :: r =>
    if isDoubleDot s then resolve (up acc) r
    else if isSingleDot s then resolve acc r
    else resolve (s :: acc) r

/-- Tells the characters between segments. A backslash is one where the scheme has special rules. -/
def isSlash (special : Bool) (c : Char) : Bool :=
  c == '/' || (special && c == '\\')

def skipSlash (special : Bool) : List Char → List Char
  | c :: r => if isSlash special c then r else c :: r
  | [] => []

def read (special : Bool) (s : List Char) : List (List Char) :=
  resolve [] ((Text.pieces (isSlash special) (skipSlash special s)).map
    (Text.Percent.encode keepsPath))

def startsWithDrive : List (List Char) → Bool
  | s :: _ => isDrive s
  | [] => false

def nameDrive : List (List Char) → List (List Char)
  | [a, b] :: r => (if isDrive [a, b] then [a, ':'] else [a, b]) :: r
  | l => l

def dropEmpty : List (List Char) → List (List Char)
  | [] :: s :: r => dropEmpty (s :: r)
  | l => l

end Path

end ConsentGate.Url
