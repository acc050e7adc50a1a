import ConsentGate.Url.Host.Ipv4

namespace ConsentGate.Ipv6

def group? (s : List Char) : Option Nat :=
  if s.isEmpty || 4 < s.length then none else Text.Hex.number? s

def lastPiece? (s : List Char) : Option (List Nat) :=
  if s.contains '.' then do
    match ← Ipv4.strictBytes? s with
    | [a, b, c, d] => some [a * 256 + b, c * 256 + d]
    | _ => none
  else (group? s).map ([·])

def groupsOf? : List (List Char) → Option (List Nat)
  | [] => some []
  | [s] => lastPiece? s
  | s :: r => do
    let n ← group? s
    let ns ← groupsOf? r
    return n :: ns

def side? (read : List (List Char) → Option (List Nat)) (s : List Char) : Option (List Nat) :=
  if s.isEmpty then some [] else read (Text.pieces (· == ':') s)

def parse? (s : List Char) : Option (List Nat) :=
  match Text.cutOn? [':', ':'] s with
  | none => do
    let ns ← groupsOf? (Text.pieces (· == ':') s)
    if ns.length = 8 then some ns else none
  | some (l, r) => do
    let ls ← side? (fun ps => ps.mapM group?) l
    let rs ← side? groupsOf? r
    if ls.length + rs.length ≤ 7 then
      some (ls ++ List.replicate (8 - ls.length - rs.length) 0 ++ rs)
    else none

def zeros (ns : List Nat) : Nat :=
  (ns.takeWhile (· == 0)).length

/-- Start and length of the longest run of zeros, the first one of several; `i` is the index of the
head of the list. -/
def longestZeros (i : Nat) : List Nat → Nat × Nat
  | [] => (i, 0)
  | n :: r =>
    let best := longestZeros (i + 1) r
    if best.2 ≤ zeros (n :: r) then (i, zeros (n :: r)) else best

def join (ns : List Nat) : List Char :=
  [':'].intercalate (ns.map Text.Hex.numeral)

/-- The address with its longest run of two or more zeros as `::`. -/
def render (ns : List Nat) : List Char :=
  let (i, n) := longestZeros 0 ns
  if n < 2 then join ns
  else join (ns.take i) ++ [':', ':'] ++ join (ns.drop (i + n))

end ConsentGate.Ipv6
