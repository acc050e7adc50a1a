import ConsentGate.Idna.Punycode
import ConsentGate.Unicode.Direction
import ConsentGate.Unicode.Mapping
import ConsentGate.Unicode.Normal

namespace ConsentGate.Idna

open Unicode

def mapChar? (c : Char) : Option (List Char) :=
  if isAscii c then some [c.toLower]
  else if disallowedTable.contains c then none
  else if ignoredTable.contains c then some []
  else
    match mappingTable.row? c with
    | some row =>
      match Table.characters row with
      | [d] => some [Char.ofNat (d.toNat + (c.toNat - row.first))]
      | l => some l
    | none => some [c]

def prepare? (s : List Char) : Option (List Char) :=
  (s.mapM mapChar?).map fun l => normalize l.flatten

def joiningType (c : Char) : String :=
  joiningTable.value c

/-- Tells whether letters join across a non-joiner: before it, next first, one that joins what
follows; after it one that joins what precedes. Transparent characters do not count. -/
def joinsAcross (front back : List Char) : Bool :=
  let left := (front.dropWhile (joiningType · == "T")).head?.map joiningType
  let right := (back.dropWhile (joiningType · == "T")).head?.map joiningType
  (left == some "L" || left == some "D") && (right == some "R" || right == some "D")

/-- Tells whether every joiner stands behind a virama and every non-joiner behind a virama or between
letters that it keeps apart. `front` holds the characters before, next first. -/
def joinersFit (front : List Char) : List Char → Bool
  | [] => true
  | c :: r =>
    let behindVirama := (front.head?.map combiningClass) == some 9
    (if c == '\u200D' then behindVirama
     else if c == '\u200C' then behindVirama || joinsAcross front r
     else true) && joinersFit (c :: front) r

def isDenied (c : Char) : Bool :=
  c.toNat ≤ 0x20 || c.toNat == 0x7F || c == '%' || c == '#' || c == '/' || c == ':' || c == '<' ||
    c == '>' || c == '?' || c == '@' || c == '[' || c == '\\' || c == ']' || c == '^' || c == '|'

def afterMark? : List Char → Option (List Char)
  | 'x' :: 'n' :: '-' :: '-' :: r => some r
  | _ => none

/-- Tells the internationalized labels: in prepared form, of at most a thousand characters, one of them
beyond ASCII, not starting with a mark, and with joiners where they belong. -/
def isInternational (u : List Char) : Bool :=
  u.length ≤ 1000 && u.any (!isAscii ·) && prepare? u == some u &&
    !(u.head?.map isMark == some true) && joinersFit [] u && !u.any isDenied && !u.contains '.'

structure Label where
  unicode : List Char
  ascii : List Char
  deriving DecidableEq

/-- The label that a text in prepared form spells. What follows the mark of the ASCII form has at most
two thousand characters. -/
def Label.read? (s : List Char) : Option Label :=
  match afterMark? s with
  | some r =>
    if r.length ≤ 2000 && r.all isAscii then
      match Punycode.decode? r with
      | some u => if isInternational u then some ⟨u, s⟩ else none
      | none => none
    else none
  | none =>
    if s.all isAscii then some ⟨s, s⟩
    else if isInternational s && Punycode.decode? (Punycode.encode s) == some s then
      some ⟨s, 'x' :: 'n' :: '-' :: '-' :: Punycode.encode s⟩
    else none

end ConsentGate.Idna
