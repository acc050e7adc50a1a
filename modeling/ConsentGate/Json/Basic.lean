import ConsentGate.Collection.TextMap
import ConsentGate.Json.Number

namespace ConsentGate

/-- A JSON document. The fields of an object are kept as written, in order. A part that a text spells
but no value stands for, such as a number that is too large, is unreadable. -/
inductive Json where
  | null
  | bool (b : Bool)
  | number (n : Number)
  | string (s : String)
  | array (items : List Json)
  | object (fields : List (String × Json))
  | unreadable
  deriving Inhabited

namespace Json

mutual

/-- The document with the fields of every object sorted by name, each name once; of two fields with
one name the later counts. -/
def settle : Json → Json
  | .array items => .array (settleItems items)
  | .object fields => .object (TextMap.ofList (settleFields fields)).toList
  | j => j

def settleItems : List Json → List Json
  | [] => []
  | j :: r => settle j :: settleItems r

def settleFields : List (String × Json) → List (String × Json)
  | [] => []
  | (k, j) :: r => (k, settle j) :: settleFields r

end

mutual

def isReadable : Json → Bool
  | .array items => areReadable items
  | .object fields => haveReadable fields
  | .unreadable => false
  | _ => true

def areReadable : List Json → Bool
  | [] => true
  | j :: r => isReadable j && areReadable r

def haveReadable : List (String × Json) → Bool
  | [] => true
  | (_, j) :: r => isReadable j && haveReadable r

end

def field? (j : Json) (name : String) : Option Json :=
  match j with
  | .object fields => fields.reverse.lookup name
  | _ => none

def ofNat (n : Nat) : Json := .number (.whole n)

def ofTexts (l : List String) : Json := .array (l.map .string)

def ofText? : Option String → Json
  | some s => .string s
  | none => .null

end Json

end ConsentGate
