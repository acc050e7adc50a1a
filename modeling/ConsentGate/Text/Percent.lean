import ConsentGate.Text.Hex
import ConsentGate.Text.Utf8

namespace ConsentGate.Text.Percent

def escape (b : UInt8) : List Char :=
  ['%', Hex.upper (b.toNat / 16), Hex.upper (b.toNat % 16)]

def encode (keep : Char → Bool) (s : List Char) : List Char :=
  s.flatMap fun c => if keep c then [c] else (String.utf8EncodeChar c).flatMap escape

def digit? (b : UInt8) : Option Nat :=
  Hex.value? (Char.ofNat b.toNat)

/-- Replaces every escape by its byte. A `%` without two digits after it stands for itself. -/
def decode : List UInt8 → List UInt8
  | [] => []
  | [b] => [b]
  | [b, c] => [b, c]
  | b :: c :: d :: r =>
    if b = 37 then
      match digit? c, digit? d with
      | some m, some n => UInt8.ofNat (m * 16 + n) :: decode r
      | _, _ => b :: decode (c :: d :: r)
    else b :: decode (c :: d :: r)

def decodeText (s : List Char) : List Char :=
  Utf8.decode (decode (Utf8.encode s))

end ConsentGate.Text.Percent
