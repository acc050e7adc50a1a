import ConsentGate.Collection.TextMap
import ConsentGate.Settings.Tree

namespace ConsentGate.Environment

def lead : List Char := ['a', 'u', 't', 'h', 'p', 'o', 'i', 'n', 't', '_', '_']

def pointed : List Char → List Char
  | '_' :: '_' :: r => '.' :: pointed r
  | c :: r => c :: pointed r
  | [] => []

/-- The name of a variable in lower case, so far as it may be one of a setting: of the characters beyond
ASCII only the Kelvin sign is a letter of ASCII in lower case. -/
def lowerName (s : List Char) : List Char :=
  (Text.lower s).map fun c => if c == '\u212A' then 'k' else c

def path? (name : String) : Option String :=
  (lead.isPrefixOf? (lowerName name.toList)).map fun r => String.ofList (pointed r)

def isWord (n : Int) : Bool :=
  -2 ^ 63 ≤ n && n < 2 ^ 63

def whole? (s : List Char) : Option Int :=
  (Text.Digits.integer? s).filter isWord

/-- The value of a variable: a truth value, a whole number or another number if it spells one, else
the text. -/
def value (s : String) : SettingTree :=
  match String.ofList (Text.lower s.toList), whole? s.toList, Binary64.parse? s.toList with
  | "true", _, _ => .bool true
  | "false", _, _ => .bool false
  | _, some n, _ => .whole n
  | _, none, some x => .real x
  | _, none, none => .text s

def entries (environment : TextMap String) : List (String × SettingTree) :=
  environment.toList.filterMap fun v => (path? v.1).map (·, value v.2)

end ConsentGate.Environment
