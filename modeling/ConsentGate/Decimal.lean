namespace ConsentGate

/-- The decimal number `± digits · 10 ^ exponent`. -/
structure Decimal where
  negative : Bool
  digits : Nat
  exponent : Int
  deriving DecidableEq, Repr

namespace Decimal

def dropZeros : Nat → Nat → Nat × Nat
  | 0, d => (d, 0)
  | n + 1, d =>
    if d % 10 = 0 then ((dropZeros n (d / 10)).1, (dropZeros n (d / 10)).2 + 1) else (d, 0)

def shorten (x : Decimal) : Decimal :=
  if x.digits = 0 then ⟨x.negative, 0, 0⟩
  else
    let cut := dropZeros (Nat.toDigits 10 x.digits).length x.digits
    ⟨x.negative, cut.1, x.exponent + cut.2⟩

def magnitude (x : Decimal) : Int :=
  (Nat.toDigits 10 x.digits).length + x.exponent

def plain (x : Decimal) : String :=
  let ds := Nat.toDigits 10 x.digits
  let places := (-x.exponent).toNat
  let padded := List.replicate (places + 1 - ds.length) '0' ++ ds
  (if x.negative then "-" else "") ++
    (if 0 ≤ x.exponent then String.ofList (ds ++ List.replicate x.exponent.toNat '0')
     else String.ofList (padded.take (padded.length - places)) ++ "." ++
      String.ofList (padded.drop (padded.length - places)))

/-- The numeral with a point or an exponent, so that it does not read as a whole number. It has an exponent
from `10 ^ 16` on, and below `10 ^ (-5)`. -/
def render (x : Decimal) : String :=
  if -5 < x.magnitude ∧ x.magnitude ≤ 16 then
    x.plain ++ (if 0 ≤ x.exponent then ".0" else "")
  else
    let ds := Nat.toDigits 10 x.digits
    let power := x.magnitude - 1
    (if x.negative then "-" else "") ++ String.ofList (ds.take 1) ++
      (if ds.length = 1 then "" else "." ++ String.ofList (ds.drop 1)) ++
      "e" ++ (if 0 ≤ power then "+" else "") ++ toString power

end Decimal

end ConsentGate
