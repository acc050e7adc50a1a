import ConsentGate.Text.Cut

namespace ConsentGate.Idna.Punycode

def digit (n : Nat) : Char :=
  if n < 26 then Char.ofNat (97 + n) else Char.ofNat (22 + n)

def value? (c : Char) : Option Nat :=
  if c.isLower then some (c.toNat - 97)
  else if c.isUpper then some (c.toNat - 65)
  else if c.isDigit then some (c.toNat - 22)
  else none

def threshold (k bias : Nat) : Nat :=
  if k ≤ bias then 1 else if bias + 26 ≤ k then 26 else k - bias

theorem threshold_pos (k bias : Nat) : 0 < threshold k bias := by
  unfold threshold
  grind

def settleBias (delta k : Nat) : Nat :=
  if 455 < delta then settleBias (delta / 35) (k + 36) else k + 36 * delta / (delta + 38)

def adapt (delta size : Nat) (first : Bool) : Nat :=
  let d := if first then delta / 700 else delta / 2
  settleBias (d + d / size) 0

def encodeDelta (bias k q : Nat) : List Char :=
  let t := threshold k bias
  if q < t then [digit q]
  else digit (t + (q - t) % (36 - t)) :: encodeDelta bias (k + 36) ((q - t) / (36 - t))
termination_by q
decreasing_by
  have := threshold_pos k bias
  have := Nat.div_le_self (q - threshold k bias) (36 - threshold k bias)
  omega

/-- Where the writing of insertions stands: the distance so far, the bias, and how many characters
are written. -/
structure Progress where
  delta : Nat
  bias : Nat
  written : Nat

def insertions (basic m : Nat) : Progress → List Char → List Char × Progress
  | p, [] => ([], p)
  | p, c :: r =>
    if c.toNat < m then insertions basic m ⟨p.delta + 1, p.bias, p.written⟩ r
    else if c.toNat = m then
      let rest := insertions basic m
        ⟨0, adapt p.delta (p.written + 1) (p.written == basic), p.written + 1⟩ r
      (encodeDelta p.bias 36 p.delta ++ rest.1, rest.2)
    else insertions basic m p r

def encodeValues (s : List Char) (basic n : Nat) : Progress → List Nat → List Char
  | _, [] => []
  | p, m :: ms =>
    let out := insertions basic m ⟨p.delta + (m - n) * (p.written + 1), p.bias, p.written⟩ s
    out.1 ++ encodeValues s basic (m + 1) ⟨out.2.delta + 1, out.2.bias, out.2.written⟩ ms

def insertValue (n : Nat) : List Nat → List Nat
  | [] => [n]
  | m :: r => if n < m then n :: m :: r else if n = m then m :: r else m :: insertValue n r

def encode (s : List Char) : List Char :=
  let basic := s.filter (·.toNat < 0x80)
  let values := ((s.filter (0x80 ≤ ·.toNat)).map Char.toNat).foldr insertValue []
  basic ++ (if basic.isEmpty then [] else ['-']) ++
    encodeValues s basic.length 0x80 ⟨0, 72, basic.length⟩ values

/-- Where the reading of insertions stands: the text so far, the place and the value of the last
insertion, the bias, and of the distance being read its value, its next place and the weight of that
place. -/
structure Reading where
  text : List Char
  place : Nat
  value : Nat
  bias : Nat
  delta : Nat
  k : Nat
  weight : Nat

def Reading.insert? (q : Reading) (delta : Nat) : Option Reading :=
  let size := q.text.length + 1
  let place := q.place + delta
  let value := q.value + place / size
  if h : value.isValidChar then
    let i := place % size
    some ⟨q.text.take i ++ Char.ofNatAux value h :: q.text.drop i, i + 1, value,
      adapt delta size (q.place == 0 && q.value == 0x80), 0, 36, 1⟩
  else none

def readInsertions : Reading → List Char → Option (List Char)
  | q, [] => if q.weight = 1 ∧ q.k = 36 then some q.text else none
  | q, c :: r =>
    match value? c with
    | none => none
    | some d =>
      let delta := q.delta + d * q.weight
      let t := threshold q.k q.bias
      if d < t then
        match q.insert? delta with
        | some q => readInsertions q r
        | none => none
      else readInsertions { q with delta, k := q.k + 36, weight := q.weight * (36 - t) } r

def decode? (s : List Char) : Option (List Char) :=
  match Text.cutLast? (· == '-') s with
  | some ([], _) => none
  | some (basic, r) => readInsertions ⟨basic, 0, 0x80, 72, 0, 36, 1⟩ r
  | none => readInsertions ⟨[], 0, 0x80, 72, 0, 36, 1⟩ s

end ConsentGate.Idna.Punycode
