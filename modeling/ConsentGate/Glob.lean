import ConsentGate.Text.Cut

namespace ConsentGate

structure Glob where
  text : String
  deriving DecidableEq, Repr

namespace Glob

/-- Tells which patterns fit where nothing else is said. The engine for regular expressions sets the
limit, which is why it is a parameter, `fits`, of all that compiles patterns. -/
def isSmall (pattern : String) : Bool :=
  pattern.toList.count '*' < 10000

def compile? (pattern : String) (fits : String → Bool := isSmall) : Option Glob :=
  if fits pattern then some ⟨pattern⟩ else none

def starRow : List Char → List Bool → List Bool
  | c :: s, b :: row =>
    let next := starRow s row
    (b || (c != '\n' && next.headD false)) :: next
  | _, row => row

def characterRow (c : Char) : List Char → List Bool → List Bool
  | d :: s, _ :: row => (c == d && row.headD false) :: characterRow c s row
  | _, _ => [false]

/-- For each place of a text, its end included, whether the pattern matches all of the text from
there on. -/
def row (s : List Char) : List Char → List Bool
  | [] => List.replicate s.length false ++ [true]
  | c :: p => if c = '*' then starRow s (row s p) else characterRow c s (row s p)

def isMatch (g : Glob) (s : String) : Bool :=
  (row s.toList g.text.toList).headD false

def isMeta (c : Char) : Bool :=
  c == '\\' || c == '.' || c == '+' || c == '*' || c == '?' || c == '(' || c == ')' || c == '|' ||
    c == '[' || c == ']' || c == '\x7b' || c == '\x7d' || c == '^' || c == '$' || c == '#' ||
    c == '&' || c == '-' || c == '~'

def translate (p : List Char) : List Char :=
  p.flatMap fun c => if c = '*' then ['.', '*'] else if isMeta c then ['\\', c] else [c]

def toRegex (pattern : String) : String :=
  String.ofList ('^' :: translate pattern.toList ++ ['$'])

end Glob

end ConsentGate
