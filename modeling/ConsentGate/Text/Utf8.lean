namespace ConsentGate.Text.Utf8

def encode (s : List Char) : List UInt8 :=
  s.flatMap String.utf8EncodeChar

def replacement : Char := '\uFFFD'

/-- Reads `n` further bytes of a character. The next one lies between `low` and `high`, those after
it between 0x80 and 0xBF; `acc` holds the bits read so far. -/
def finish : Nat → Nat → Nat → Nat → List UInt8 → Char × List UInt8
  | 0, _, _, acc, r => (Char.ofNat acc, r)
  | _ + 1, _, _, _, [] => (replacement, [])
  | n + 1, low, high, acc, b :: r =>
    if low ≤ b.toNat ∧ b.toNat ≤ high then finish n 0x80 0xBF (acc * 64 + b.toNat % 64) r
    else (replacement, b :: r)

def readChar (b : UInt8) (r : List UInt8) : Char × List UInt8 :=
  let n := b.toNat
  if n < 0x80 then (Char.ofNat n, r)
  else if n < 0xC2 then (replacement, r)
  else if n < 0xE0 then finish 1 0x80 0xBF (n % 32) r
  else if n = 0xE0 then finish 2 0xA0 0xBF 0 r
  else if n = 0xED then finish 2 0x80 0x9F 13 r
  else if n < 0xF0 then finish 2 0x80 0xBF (n % 16) r
  else if n = 0xF0 then finish 3 0x90 0xBF 0 r
  else if n < 0xF4 then finish 3 0x80 0xBF (n % 8) r
  else if n = 0xF4 then finish 3 0x80 0x8F 4 r
  else (replacement, r)

theorem length_finish_le (n low high acc : Nat) (r : List UInt8) :
    (finish n low high acc r).2.length ≤ r.length := by
  induction n generalizing low high acc r with
  | zero => simp [finish]
  | succ n ih =>
    cases r with
    | nil => simp [finish]
    | cons b r =>
      simp only [finish]
      split
      · exact Nat.le_succ_of_le (ih ..)
      · simp

theorem length_readChar_le (b : UInt8) (r : List UInt8) :
    (readChar b r).2.length ≤ r.length := by
  simp only [readChar]
  repeat' split
  all_goals first | exact Nat.le_refl _ | exact length_finish_le ..

/-- The text that the bytes spell, with U+FFFD for what is ill-formed. -/
def decode : List UInt8 → List Char
  | [] => []
  | b :: r => (readChar b r).1 :: decode (readChar b r).2
termination_by bs => bs.length
decreasing_by exact Nat.lt_succ_of_le (length_readChar_le b r)

end ConsentGate.Text.Utf8
