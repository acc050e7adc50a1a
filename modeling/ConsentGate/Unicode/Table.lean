import ConsentGate.Text.Cut
import ConsentGate.Text.Hex

namespace ConsentGate.Unicode

/-- The code points from `first` to `last` in steps of `step`, and the value that they have. -/
structure Row where
  first : Nat
  last : Nat
  step : Nat
  value : List Char
  deriving Inhabited

abbrev Table := Array Row

def codePoint (s : List Char) : Nat :=
  (Text.Hex.number? s).getD 0

/-- The row that a word spells: a code point or a range of code points in hexadecimal, a step after `/`
where not every code point of the range is meant, and after `=` the value that they have. -/
def Row.ofWord (w : List Char) : Row :=
  let (points, value) := Text.cutAt (· == '=') w
  let (range, step) := Text.cutAt (· == '/') points
  let (first, last) := Text.cutAt (· == '-') range
  ⟨codePoint first, (last.map codePoint).getD (codePoint first), (step.map codePoint).getD 1,
    value.getD []⟩

namespace Table

def ofText (s : String) : Table :=
  (((Text.pieces (fun c => c == ' ' || c == '\n') s.toList).filter (!·.isEmpty)).map
    Row.ofWord).toArray

/-- The number of rows that start at `n` or before, found among those from `low` to `high`; `fuel`
bounds how often the range is halved. -/
def countUpTo (t : Table) (n : Nat) : Nat → Nat → Nat → Nat
  | 0, low, _ => low
  | fuel + 1, low, high =>
    if low < high then
      let mid := (low + high) / 2
      match t[mid]? with
      | some row => if row.first ≤ n then countUpTo t n fuel (mid + 1) high else countUpTo t n fuel low mid
      | none => low
    else low

def row? (t : Table) (c : Char) : Option Row :=
  let n := c.toNat
  match t[t.countUpTo n t.size 0 t.size - 1]? with
  | some row =>
    if row.first ≤ n ∧ n ≤ row.last ∧ (n - row.first) % row.step = 0 then some row else none
  | none => none

def contains (t : Table) (c : Char) : Bool :=
  (t.row? c).isSome

def value (t : Table) (c : Char) : String :=
  match t.row? c with
  | some row => String.ofList row.value
  | none => ""

def characters (row : Row) : List Char :=
  (Text.pieces (· == ',') row.value).map fun w => Char.ofNat (codePoint w)

end Table

def isAscii (c : Char) : Bool :=
  c.toNat < 0x80

end ConsentGate.Unicode
