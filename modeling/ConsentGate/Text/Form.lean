import ConsentGate.Text.Cut
import ConsentGate.Text.Percent

namespace ConsentGate.Text.Form

abbrev Pair := String × String

def isPlain (c : Char) : Bool :=
  c.isAlphanum || c == '*' || c == '-' || c == '.' || c == '_'

def encodeField (s : List Char) : List Char :=
  s.flatMap fun c => if c = ' ' then ['+'] else Percent.encode isPlain [c]

def encodePair (p : Pair) : List Char :=
  encodeField p.1.toList ++ '=' :: encodeField p.2.toList

def encode (ps : List Pair) : List Char :=
  ['&'].intercalate (ps.map encodePair)

def pieces (sep : UInt8) : List UInt8 → List (List UInt8)
  | [] => [[]]
  | b :: r =>
    if b = sep then [] :: pieces sep r
    else
      match pieces sep r with
      | [] => [[b]]
      | w :: ws => (b :: w) :: ws

def decodeField (bs : List UInt8) : String :=
  String.ofList (Utf8.decode (Percent.decode (bs.map fun b => if b = 43 then 32 else b)))

/-- A pair as meant; without `=` the value is empty. -/
def decodePair (bs : List UInt8) : Pair :=
  (decodeField (bs.takeWhile (· != 61)), decodeField ((bs.dropWhile (· != 61)).drop 1))

/-- The pairs that the bytes spell, in order. Empty pieces are no pairs. -/
def decodeBytes (bs : List UInt8) : List Pair :=
  ((pieces 38 bs).filter (!·.isEmpty)).map decodePair

def decode (s : List Char) : List Pair :=
  decodeBytes (Utf8.encode s)

end ConsentGate.Text.Form
