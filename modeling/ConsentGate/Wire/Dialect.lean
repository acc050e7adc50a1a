import ConsentGate.Collection.TextSet
import ConsentGate.Json.Basic

namespace ConsentGate.Wire

structure Dialect (V : Type) where
  text? : V → Option String
  bool? : V → Option Bool
  natural? : (limit : Nat) → V → Option Nat
  items? : V → Option (List V)
  entries? : V → Option (List (String × V))
  isNull : V → Bool
  choice? : List String → V → Option String
  record? : List String → V → Option (List (String × V))

variable {V : Type}

def required {α : Type} (read : V → Option α) (fields : List (String × V)) (name : String) :
    Option α :=
  (fields.lookup name).bind read

def withDefault {α : Type} (read : V → Option α) (default : α) (fields : List (String × V))
    (name : String) : Option α :=
  match fields.lookup name with
  | some v => read v
  | none => some default

namespace Dialect

variable (d : Dialect V)

def optional {α : Type} (read : V → Option α) (fields : List (String × V)) (name : String) :
    Option (Option α) :=
  match fields.lookup name with
  | some v => if d.isNull v then some none else (read v).map some
  | none => some none

def texts? (v : V) : Option (List String) :=
  (d.items? v).bind (·.mapM d.text?)

def textSet? (v : V) : Option TextSet :=
  (d.texts? v).map .ofList

def map? {α : Type} (read : V → Option α) (v : V) : Option (TextMap α) := do
  let entries ← d.entries? v
  let entries ← entries.mapM fun e => (read e.2).map (e.1, ·)
  return .ofList entries

end Dialect

def repeats (fields : List (String × Json)) (name : String) : Bool :=
  1 < (fields.filter (·.1 == name)).length

/-- JSON as a dialect. Records are objects in which no known field is given twice, or arrays of their
fields in order; a choice is a name, or an object that maps the name to null. -/
def json : Dialect Json where
  text? := fun
    | .string s => some s
    | _ => none
  bool? := fun
    | .bool b => some b
    | _ => none
  natural? limit := fun
    | .number (.whole n) => if 0 ≤ n ∧ n ≤ limit then some n.toNat else none
    | _ => none
  items? := fun
    | .array items => some items
    | _ => none
  entries? := fun
    | .object fields => some fields
    | _ => none
  isNull := fun
    | .null => true
    | _ => false
  choice? names := fun
    | .string s => if names.contains s then some s else none
    | .object [(s, .null)] => if names.contains s then some s else none
    | _ => none
  record? names := fun
    | .object fields => if names.any (repeats fields) then none else some fields
    | .array items => if items.length ≤ names.length then some (names.zip items) else none
    | _ => none

/-- JSON below the tag of a tagged record. Here a choice may also be an object that maps the name to
an empty object. -/
def taggedJson : Dialect Json := { json with
  choice? := fun names j =>
    match j with
    | .object [(s, .object [])] => if names.contains s then some s else none
    | j => json.choice? names j }

end ConsentGate.Wire
