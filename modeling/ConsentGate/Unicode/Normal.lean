import ConsentGate.Unicode.Combining

namespace ConsentGate.Unicode

def combiningClass (c : Char) : Nat :=
  if isAscii c then 0
  else
    match combiningTable.row? c with
    | some row => codePoint row.value
    | none => 0

def isMark (c : Char) : Bool :=
  !isAscii c && markTable.contains c

def compositions : List (Char × Char × Char) :=
  compositionTable.toList.filterMap fun row =>
    match Table.characters row with
    | [a, b] => some (a, b, Char.ofNat row.first)
    | _ => none

def splitSyllable? (c : Char) : Option (List Char) :=
  let n := c.toNat - 0xAC00
  if 0xAC00 ≤ c.toNat ∧ c.toNat ≤ 0xD7A3 then
    some (Char.ofNat (0x1100 + n / 588) :: Char.ofNat (0x1161 + n % 588 / 28) ::
      if n % 28 = 0 then [] else [Char.ofNat (0x11A7 + n % 28)])
  else none

def joinSyllable? (a b : Char) : Option Char :=
  let m := a.toNat
  let n := b.toNat
  if 0x1100 ≤ m ∧ m < 0x1113 ∧ 0x1161 ≤ n ∧ n < 0x1176 then
    some (Char.ofNat (0xAC00 + ((m - 0x1100) * 21 + (n - 0x1161)) * 28))
  else if 0xAC00 ≤ m ∧ m ≤ 0xD7A3 ∧ (m - 0xAC00) % 28 = 0 ∧ 0x11A7 < n ∧ n < 0x11C3 then
    some (Char.ofNat (m + (n - 0x11A7)))
  else none

def decomposeBy (t : Table) : Nat → Char → List Char
  | 0, c => [c]
  | depth + 1, c =>
    if isAscii c then [c]
    else
      match splitSyllable? c with
      | some l => l
      | none =>
        match (t.row? c).map Table.characters with
        | some (a :: r) => decomposeBy t depth a ++ r
        | _ => [c]

def decompose (depth : Nat) (c : Char) : List Char :=
  decomposeBy compositionTable depth c

def insertMark (c : Char) : List Char → List Char
  | [] => [c]
  | d :: r =>
    if combiningClass d ≠ 0 ∧ combiningClass d < combiningClass c then d :: insertMark c r
    else c :: d :: r

def orderMarks : List Char → List Char
  | [] => []
  | c :: r => if combiningClass c = 0 then c :: orderMarks r else insertMark c (orderMarks r)

def compose? (a b : Char) : Option Char :=
  match joinSyllable? a b with
  | some c => some c
  | none => (compositions.find? fun p => p.1 == a && p.2.1 == b).map fun p => p.2.2

/-- Composes a base with what follows. `passed` holds the marks that did not combine, last first; a
character behind them combines only if its class exceeds that of the last. -/
def composeFrom (base : Char) (passed : List Char) : List Char → List Char
  | [] => base :: passed.reverse
  | c :: r =>
    let free := match passed with
      | [] => true
      | d :: _ => combiningClass d < combiningClass c
    match if free then compose? base c else none with
    | some b => composeFrom b passed r
    | none =>
      if combiningClass c = 0 then base :: passed.reverse ++ composeFrom c [] r
      else composeFrom base (c :: passed) r

def composeAll : List Char → List Char
  | [] => []
  | c :: r => if combiningClass c = 0 then composeFrom c [] r else c :: composeAll r

def normalize (s : List Char) : List Char :=
  if s.all isAscii then s else composeAll (orderMarks (s.flatMap (decompose 8)))

end ConsentGate.Unicode
