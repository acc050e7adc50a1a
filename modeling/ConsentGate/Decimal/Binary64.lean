import ConsentGate.Decimal
import ConsentGate.Power
import ConsentGate.Text.Cut
import ConsentGate.Text.Digits

namespace ConsentGate

/-- The number `± mantissa · 2 ^ exponent`, an infinity, or no number at all. -/
inductive Binary64 where
  | finite (negative : Bool) (mantissa : Nat) (exponent : Int)
  | infinite (negative : Bool)
  | nan
  deriving DecidableEq, Repr

namespace Binary64

def minExponent : Int := -1074

def maxExponent : Int := 971

/-- A quotient rounded to a whole number, a half to the even one. -/
def roundEven (n d : Nat) : Nat :=
  if 2 * (n % d) < d ∨ (2 * (n % d) = d ∧ n / d % 2 = 0) then n / d else n / d + 1

def log2 (n d : Nat) : Int :=
  let k := (n.log2 : Int) - d.log2
  if d * 2 ^ k.toNat ≤ n * 2 ^ (-k).toNat then k else k - 1

def ofQuotient (negative : Bool) (n d : Nat) : Binary64 :=
  if n = 0 then .finite negative 0 minExponent
  else
    let e := max (log2 n d - 52) minExponent
    let m := roundEven (n * 2 ^ (-e).toNat) (d * 2 ^ e.toNat)
    let (m, e) := if m = 2 ^ 53 then (2 ^ 52, e + 1) else (m, e)
    if maxExponent < e then .infinite negative else .finite negative m e

def ofDecimal (x : Decimal) : Binary64 :=
  if x.digits = 0 ∨ x.magnitude < -400 then .finite x.negative 0 minExponent
  else if 400 < x.magnitude then .infinite x.negative
  else ofQuotient x.negative (x.digits * 10 ^ x.exponent.toNat) (10 ^ (-x.exponent).toNat)

def ofNat (n : Nat) : Binary64 := ofQuotient false n 1

def powerOfTen (n : Nat) : Binary64 := ofNat (10 ^ n)

def neg : Binary64 → Binary64
  | .finite negative m e => .finite (!negative) m e
  | .infinite negative => .infinite (!negative)
  | .nan => .nan

def mul : Binary64 → Binary64 → Binary64
  | .finite negative m e, .finite negative' m' e' =>
    ofQuotient (negative != negative') (m * m' * 2 ^ (e + e').toNat) (2 ^ (-(e + e')).toNat)
  | _, _ => .nan

def div : Binary64 → Binary64 → Binary64
  | .finite negative m e, .finite negative' m' e' =>
    if m' = 0 then .nan
    else ofQuotient (negative != negative') (m * 2 ^ (e - e').toNat) (m' * 2 ^ (e' - e).toNat)
  | _, _ => .nan

/-- Of the two multiples of `10 ^ k` next to a quotient, the nearer one that is read as `x`. -/
def onGrid? (x : Binary64) (negative : Bool) (n d : Nat) (k : Int) : Option Decimal :=
  let a := n * 10 ^ (-k).toNat
  let b := d * 10 ^ k.toNat
  let below : Decimal := ⟨negative, a / b, k⟩
  let above : Decimal := ⟨negative, a / b + 1, k⟩
  let near := if 2 * (a % b) ≤ b then [below, above] else [above, below]
  near.find? (ofDecimal · = x)

def shortest (negative : Bool) (mantissa : Nat) (exponent : Int) : Decimal :=
  let n := mantissa * 2 ^ exponent.toNat
  let d := 2 ^ (-exponent).toNat
  let places : Int := (Nat.toDigits 10 (n * 10 ^ 400 / d)).length - 400
  match (List.range 17).findSome? fun (i : Nat) =>
      onGrid? (.finite negative mantissa exponent) negative n d (places - 1 - (i : Nat)) with
  | some x => x.shorten
  | none => ⟨negative, 0, 0⟩

def text : Binary64 → String
  | .finite negative m e => (shortest negative m e).plain
  | .infinite negative => if negative then "-inf" else "inf"
  | .nan => "NaN"

def isZero : Binary64 → Bool
  | .finite _ m _ => m = 0
  | _ => false

/-- The nearest number between zero and `limit`, without a fraction; a half goes up. -/
def clamp (limit : Nat) : Binary64 → Nat
  | .finite negative m e =>
    if negative then 0
    else min limit ((2 * m * 2 ^ e.toNat + 2 ^ (-e).toNat) / (2 * 2 ^ (-e).toNat))
  | .infinite negative => if negative then 0 else limit
  | .nan => 0

def decimal? (negative : Bool) (s : List Char) : Option Decimal := do
  let (front, exponent) := Text.cutAt (fun c => c == 'e' || c == 'E') s
  let (whole, places) := Text.cutAt (· == '.') front
  let ds := whole ++ places.getD []
  if ds.isEmpty || !ds.all Char.isDigit then none
  let exponent ← match exponent with
    | some e => Text.Digits.integer? e
    | none => some 0
  return ⟨negative, Text.Digits.value ds, exponent - (places.getD []).length⟩

def parse? (s : List Char) : Option Binary64 :=
  let (negative, r) := Text.Digits.cutSign s
  match String.ofList (Text.lower r) with
  | "inf" => some (.infinite negative)
  | "infinity" => some (.infinite negative)
  | "nan" => some .nan
  | _ => (decimal? negative r).map ofDecimal

end Binary64

end ConsentGate
