import ConsentGate.Json.Basic
import ConsentGate.Json.Token

namespace ConsentGate.Json

inductive Frame where
  | array (items : List Json)
  | object (fields : List (Option String × Json)) (key : Option String)

inductive Expect where
  | value
  | valueOrClose
  | key
  | keyOrClose
  | colon (key : Option String)
  | after
  | done (j : Json)

/-- What is open and what may follow. An object whose key is not read yet is open with the fields so
far and no key. -/
structure Reading where
  stack : List Frame
  expect : Expect

namespace Reading

def complete (stack : List Frame) (j : Json) : Reading :=
  match stack with
  | .array items :: r => ⟨.array (j :: items) :: r, .after⟩
  | .object fields key :: r => ⟨.object ((key, j) :: fields) none :: r, .after⟩
  | [] => ⟨[], .done j⟩

def value (stack : List Frame) : Token → Option Reading
  | .null => some (complete stack .null)
  | .bool b => some (complete stack (.bool b))
  | .number n => some (complete stack (n.elim .unreadable .number))
  | .string s => some (complete stack (s.elim .unreadable .string))
  | .openArray => some ⟨.array [] :: stack, .valueOrClose⟩
  | .openObject => some ⟨.object [] none :: stack, .keyOrClose⟩
  | _ => none

def named? (fields : List (Option String × Json)) : Option (List (String × Json)) :=
  fields.mapM fun e => e.1.map (·, e.2)

/-- The innermost array or object as a value. It is unreadable if more than `depth` are open. -/
def limited (depth : Nat) (stack : List Frame) (j : Json) : Json :=
  if (stack.drop depth).isEmpty then j else .unreadable

def close (depth : Nat) (stack : List Frame) (t : Token) : Option Reading :=
  match stack, t with
  | .array items :: r, .closeArray => some (complete r (limited depth stack (.array items.reverse)))
  | .object fields _ :: r, .closeObject =>
    some (complete r (limited depth stack ((named? fields.reverse).elim .unreadable .object)))
  | _, _ => none

def step (depth : Nat) (q : Reading) (t : Token) : Option Reading :=
  match q.expect, t with
  | .value, t => value q.stack t
  | .valueOrClose, .closeArray => close depth q.stack .closeArray
  | .valueOrClose, t => value q.stack t
  | .key, .string k => some ⟨q.stack, .colon k⟩
  | .keyOrClose, .string k => some ⟨q.stack, .colon k⟩
  | .keyOrClose, .closeObject => close depth q.stack .closeObject
  | .colon k, .colon =>
    match q.stack with
    | .object fields _ :: r => some ⟨.object fields k :: r, .value⟩
    | _ => none
  | .after, .comma =>
    match q.stack with
    | .array _ :: _ => some ⟨q.stack, .value⟩
    | .object _ _ :: _ => some ⟨q.stack, .key⟩
    | [] => none
  | .after, t => close depth q.stack t
  | _, _ => none

end Reading

def maxDepth : Nat := 127

def read? (s : String) : Option Json := do
  let tokens ← Token.ofText? s
  let q ← tokens.foldlM (Reading.step maxDepth) ⟨[], .value⟩
  match q with
  | ⟨_, .done j⟩ => some j
  | _ => none

end ConsentGate.Json
