import ConsentGate.Json.Document

namespace ConsentGate.Json

/-- The name of the field that marks an object as standing for the document that its text spells. -/
def embeddingMark : String := "$serde_json::private::RawValue"

def isEmbedding : List (String × Json) → Bool
  | (name, _) :: _ => name == embeddingMark
  | [] => false

def soleText? : List (String × Json) → Option String
  | [(_, .string s)] => some s
  | _ => none

mutual

/-- The readable document in which every object whose first field is marked is replaced by what
`inner` reads in its text. There is none if such an object holds anything but one text. -/
def embed? (inner : String → Option Json) : Json → Option Json
  | .array items => (embedItems? inner items).map .array
  | .object fields =>
    if isEmbedding fields then (soleText? fields).bind inner
    else (embedFields? inner fields).map .object
  | .unreadable => none
  | j => some j

def embedItems? (inner : String → Option Json) : List Json → Option (List Json)
  | [] => some []
  | j :: r => do return (← embed? inner j) :: (← embedItems? inner r)

def embedFields? (inner : String → Option Json) :
    List (String × Json) → Option (List (String × Json))
  | [] => some []
  | (k, j) :: r => do return (k, ← embed? inner j) :: (← embedFields? inner r)

end

def parseWithin? : Nat → String → Option Json
  | 0, _ => none
  | n + 1, s => (read? s).bind (embed? (parseWithin? n))

def parse? (s : String) : Option Json := parseWithin? (s.length + 1) s

def whole? (j : Json) : Option Json := embed? parse? j

end ConsentGate.Json
