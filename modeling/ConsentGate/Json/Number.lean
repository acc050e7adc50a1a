import ConsentGate.Decimal.Binary64

namespace ConsentGate

inductive Number where
  | whole (n : Int)
  | real (x : Binary64)
  deriving DecidableEq, Repr

namespace Number

def readDigits? (s : List Char) : Option (List Char × List Char) :=
  if (s.takeWhile Char.isDigit).isEmpty then none
  else some (s.takeWhile Char.isDigit, s.dropWhile Char.isDigit)

def readWhole? : List Char → Option (List Char × List Char)
  | '0' :: r => some (['0'], r)
  | s => readDigits? s

def readFraction? : List Char → Option (List Char × List Char)
  | '.' :: r => readDigits? r
  | s => some ([], s)

def readExponent? : List Char → Option (Option Int × List Char)
  | c :: r =>
    if c = 'e' ∨ c = 'E' then
      match r with
      | '-' :: r => (readDigits? r).map fun d => (some (-(Text.Digits.value d.1 : Int)), d.2)
      | '+' :: r => (readDigits? r).map fun d => (some (Text.Digits.value d.1 : Int), d.2)
      | r => (readDigits? r).map fun d => (some (Text.Digits.value d.1 : Int), d.2)
    else some (none, c :: r)
  | [] => some (none, [])

def absorb (n : Nat) : List Char → Nat × Nat
  | [] => (n, 0)
  | c :: r =>
    let next := n * 10 + (c.toNat - 48)
    if next < 2 ^ 64 then
      let (total, count) := absorb next r
      (total, count + 1)
    else (n, 0)

def maxPower : Nat := 308

/-- The product with a power of ten, unless it is too large. For negative exponents it is a quotient;
beyond the greatest power it takes two divisions, and where these do not suffice nothing is left of the
words that numerals start from. -/
def scale? (x : Binary64) (e : Int) : Option Binary64 :=
  if 0 ≤ e then
    if e ≤ maxPower then
      match x.mul (.powerOfTen e.toNat) with
      | .infinite _ => none
      | y => some y
    else if x.isZero then some x else none
  else if -maxPower ≤ e then some (x.div (.powerOfTen (-e).toNat))
  else
    some ((x.div (.powerOfTen maxPower)).div
      (.powerOfTen (min (-(e + maxPower)).toNat maxPower)))

/-- The real number with these digits and this exponent, unless it is too large. It is not always
the nearest: the leading digits that one word holds are rounded, then scaled by a power of ten that
accounts for the point, the exponent and the digits that are left before the point. -/
def real? (negative : Bool) (ds places : List Char) (exponent : Int) : Option Binary64 :=
  let (n, counted) := absorb 0 ds
  let (n, below) := absorb n places
  let x := scale? (.ofNat n) (exponent + (ds.length - counted : Nat) - (below : Int))
  if negative then x.map .neg else x

/-- The number with these digits and this exponent, unless it is too large. Numerals without point
and exponent are whole numbers if a signed or unsigned word of 64 bits holds them; a negative zero is
not whole. -/
def ofParts? (negative : Bool) (ds places : List Char) (exponent : Option Int) : Option Number :=
  let n := Text.Digits.value ds
  if places.isEmpty ∧ exponent.isNone ∧
      (if negative then 0 < n ∧ n ≤ 2 ^ 63 else n < 2 ^ 64) then
    some (.whole (if negative then -(n : Int) else n))
  else (real? negative ds places (exponent.getD 0)).map .real

def read? (s : List Char) : Option (Option Number × List Char) := do
  let (negative, s) := match s with
    | '-' :: r => (true, r)
    | s => (false, s)
  let (ds, s) ← readWhole? s
  let (places, s) ← readFraction? s
  let (exponent, s) ← readExponent? s
  return (ofParts? negative ds places exponent, s)

def render : Number → String
  | .whole n => toString n
  | .real (.finite negative m e) => (Binary64.shortest negative m e).render
  | .real _ => "null"

end Number

end ConsentGate
