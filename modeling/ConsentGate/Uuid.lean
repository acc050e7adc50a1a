import ConsentGate.Power
import ConsentGate.Text.Cut
import ConsentGate.Text.Hex

namespace ConsentGate

structure Uuid where
  value : Nat
  isLt : value < 2 ^ 128
  deriving DecidableEq, Repr

namespace Uuid

instance : Inhabited Uuid := ⟨⟨0, by decide⟩⟩

def ofNat (n : Nat) : Uuid := ⟨n % 2 ^ 128, Nat.mod_lt _ (by decide)⟩

def digits : Nat → Nat → List Char
  | 0, _ => []
  | n + 1, x => digits n (x / 16) ++ [Text.Hex.lower (x % 16)]

def simple (u : Uuid) : List Char := digits 32 u.value

def hyphenate (s : List Char) : List Char :=
  s.take 8 ++ '-' :: (s.drop 8).take 4 ++ '-' :: (s.drop 12).take 4 ++ '-' ::
    (s.drop 16).take 4 ++ '-' :: s.drop 20

def render (u : Uuid) : String := String.ofList (hyphenate u.simple)

def ofDigits? (s : List Char) : Option Uuid :=
  if s.length = 32 then (Text.Hex.number? s).map ofNat else none

def ofHyphenated? (s : List Char) : Option Uuid :=
  if s.length = 36 then
    let ds := s.take 8 ++ (s.drop 9).take 4 ++ (s.drop 14).take 4 ++ (s.drop 19).take 4 ++ s.drop 24
    if hyphenate ds = s then ofDigits? ds else none
  else none

def parse? (s : String) : Option Uuid :=
  match s.toList with
  | '\x7b' :: r => if r.getLast? = some '\x7d' then ofHyphenated? r.dropLast else none
  | 'u' :: 'r' :: 'n' :: ':' :: 'u' :: 'u' :: 'i' :: 'd' :: ':' :: r => ofHyphenated? r
  | cs => if cs.length = 36 then ofHyphenated? cs else ofDigits? cs

end Uuid

end ConsentGate
