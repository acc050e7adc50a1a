import ConsentGate.Json.Number
import ConsentGate.Text.Hex

namespace ConsentGate.Json

/-- A token. A number that is too large is missing, and so is a text with half a pair of UTF-16 units. -/
inductive Token where
  | openArray
  | closeArray
  | openObject
  | closeObject
  | comma
  | colon
  | null
  | bool (b : Bool)
  | number (n : Option Number)
  | string (s : Option String)
  deriving DecidableEq

namespace Token

def shortEscape? : Char → Option Char
  | '"' => some '"'
  | '\\' => some '\\'
  | '/' => some '/'
  | 'b' => some '\x08'
  | 'f' => some '\x0c'
  | 'n' => some '\n'
  | 'r' => some '\r'
  | 't' => some '\t'
  | _ => none

/-- Reads a string after its opening quote, up to its closing quote, as code points in which the two
units of a pair still stand apart. Control characters are refused. -/
def readPoints? : List Char → Option (List Nat × List Char)
  | [] => none
  | '"' :: r => some ([], r)
  | '\\' :: 'u' :: a :: b :: c :: d :: r =>
    match Text.Hex.number? [a, b, c, d] with
    | none => none
    | some n => (readPoints? r).map fun (s, r) => (n :: s, r)
  | '\\' :: c :: r =>
    match shortEscape? c with
    | none => none
    | some c => (readPoints? r).map fun (s, r) => (c.toNat :: s, r)
  | c :: r =>
    if c = '\\' ∨ c.toNat < 0x20 then none
    else (readPoints? r).map fun (s, r) => (c.toNat :: s, r)

def startsPair (n : Nat) : Bool := 0xD800 ≤ n && n < 0xDC00

def endsPair (n : Nat) : Bool := 0xDC00 ≤ n && n < 0xE000

def pair (high low : Nat) : Char :=
  Char.ofNat (0x10000 + (high - 0xD800) * 0x400 + (low - 0xDC00))

def joinPairs? : List Nat → Option (List Char)
  | [] => some []
  | [n] => if startsPair n || endsPair n then none else some [Char.ofNat n]
  | n :: low :: r =>
    if endsPair n then none
    else if startsPair n then
      if endsPair low then (joinPairs? r).map (pair n low :: ·) else none
    else (joinPairs? (low :: r)).map (Char.ofNat n :: ·)

def read? : List Char → Option (Token × List Char)
  | '[' :: r => some (.openArray, r)
  | ']' :: r => some (.closeArray, r)
  | '\x7b' :: r => some (.openObject, r)
  | '\x7d' :: r => some (.closeObject, r)
  | ',' :: r => some (.comma, r)
  | ':' :: r => some (.colon, r)
  | 'n' :: 'u' :: 'l' :: 'l' :: r => some (.null, r)
  | 't' :: 'r' :: 'u' :: 'e' :: r => some (.bool true, r)
  | 'f' :: 'a' :: 'l' :: 's' :: 'e' :: r => some (.bool false, r)
  | '"' :: r => (readPoints? r).map fun (s, r) => (.string ((joinPairs? s).map String.ofList), r)
  | s => (Number.read? s).map fun (n, r) => (.number n, r)

def isGap (c : Char) : Bool :=
  c == ' ' || c == '\t' || c == '\n' || c == '\r'

def readAll : Nat → List Char → Option (List Token)
  | n, s =>
    match s.dropWhile isGap, n with
    | [], _ => some []
    | _ :: _, 0 => none
    | c :: r, n + 1 =>
      match read? (c :: r) with
      | none => none
      | some (t, rest) => (readAll n rest).map (t :: ·)

def ofText? (s : String) : Option (List Token) :=
  readAll s.length s.toList

end Token

end ConsentGate.Json
