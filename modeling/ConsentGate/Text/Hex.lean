namespace ConsentGate.Text.Hex

def value? (c : Char) : Option Nat :=
  if '0' ≤ c ∧ c ≤ '9' then some (c.toNat - 48)
  else if 'a' ≤ c ∧ c ≤ 'f' then some (c.toNat - 87)
  else if 'A' ≤ c ∧ c ≤ 'F' then some (c.toNat - 55)
  else none

def isDigit (c : Char) : Bool :=
  (value? c).isSome

def lower (n : Nat) : Char :=
  if n < 10 then Char.ofNat (48 + n) else Char.ofNat (87 + n)

def upper (n : Nat) : Char :=
  if n < 10 then Char.ofNat (48 + n) else Char.ofNat (55 + n)

def ofByte (b : UInt8) : List Char :=
  [lower (b.toNat / 16), lower (b.toNat % 16)]

def ofBytes (bs : List UInt8) : List Char :=
  bs.flatMap ofByte

def number? (s : List Char) : Option Nat :=
  s.foldlM (fun n c => (value? c).map (n * 16 + ·)) 0

def numeral (n : Nat) : List Char :=
  Nat.toDigits 16 n

theorem value?_lower {n : Nat} (h : n < 16) : value? (lower n) = some n := by
  have : ∀ m : Fin 16, value? (lower m.1) = some m.1 := by decide
  exact this ⟨n, h⟩

theorem value?_upper {n : Nat} (h : n < 16) : value? (upper n) = some n := by
  have : ∀ m : Fin 16, value? (upper m.1) = some m.1 := by decide
  exact this ⟨n, h⟩

end ConsentGate.Text.Hex
