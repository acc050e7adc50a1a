import ConsentGate.Power
import ConsentGate.Text.Cut
import ConsentGate.Text.Digits
import ConsentGate.Text.Hex

namespace ConsentGate.Ipv4

/-- A numeral by its base: after `0x` hexadecimal, after another leading zero octal. -/
def numeral : List Char → Nat × List Char
  | '0' :: 'x' :: r => (16, r)
  | '0' :: 'X' :: r => (16, r)
  | '0' :: c :: r => (8, c :: r)
  | s => (10, s)

def number? (s : List Char) : Option Nat :=
  if s.isEmpty then none
  else
    let (base, ds) := numeral s
    ds.foldlM (fun n c => do
      let d ← Text.Hex.value? c
      if d < base then some (n * base + d) else none) 0

def parts (s : List Char) : List (List Char) :=
  let ps := Text.pieces (· == '.') s
  if 1 < ps.length ∧ ps.getLast? = some [] then ps.dropLast else ps

/-- Tells the names whose last part is a number, which are addresses or nothing. -/
def endsInNumber (s : List Char) : Bool :=
  match (parts s).getLast? with
  | some last => (!last.isEmpty && last.all Char.isDigit) || (number? last).isSome
  | none => false

def combine? (ns : List Nat) : Option Nat :=
  match ns.reverse with
  | [] => none
  | last :: front =>
    if 4 < ns.length then none
    else if front.any (255 < ·) then none
    else if 256 ^ (4 - front.length) ≤ last then none
    else
      some (last + front.reverse.foldl (fun n b => n * 256 + b) 0 * 256 ^ (4 - front.length))

def parse? (s : List Char) : Option Nat := do
  let ns ← (parts s).mapM number?
  combine? ns

def bytes (n : Nat) : List Nat :=
  [n / 2 ^ 24, n / 2 ^ 16 % 256, n / 2 ^ 8 % 256, n % 256]

def render (n : Nat) : List Char :=
  ['.'].intercalate ((bytes n).map (Nat.toDigits 10))

/-- A number of an address in strict form: decimal, at most 255, without leading zeros. -/
def strictNumber? (s : List Char) : Option Nat :=
  if s.isEmpty || !s.all Char.isDigit || (1 < s.length && s.head? == some '0') || 3 < s.length then none
  else
    let n := Text.Digits.value s
    if n ≤ 255 then some n else none

def strictBytes? (s : List Char) : Option (List Nat) := do
  let ns ← (Text.pieces (· == '.') s).mapM strictNumber?
  if ns.length = 4 then some ns else none

end ConsentGate.Ipv4
