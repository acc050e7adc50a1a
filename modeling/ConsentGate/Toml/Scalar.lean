import ConsentGate.Settings.Environment
import ConsentGate.Timestamp
import ConsentGate.Toml.Text

namespace ConsentGate.Toml

def digits? (isDigit : Char → Bool) : List Char → Option (List Char)
  | [] => none
  | [c] => if isDigit c then some [c] else none
  | c :: '_' :: r => if isDigit c then (digits? isDigit r).map (c :: ·) else none
  | c :: r => if isDigit c then (digits? isDigit r).map (c :: ·) else none

def wholeDigits? (s : List Char) : Option (List Char) :=
  (digits? Char.isDigit s).filter fun ds => ds.length = 1 || ds.head? != some '0'

def numeral (base : Nat) (ds : List Char) : Nat :=
  ds.foldl (fun n c => n * base + (Text.Hex.value? c).getD 0) 0

def whole? (s : List Char) : Option Int :=
  let based := fun base isDigit r => (digits? isDigit r).map fun ds => (numeral base ds : Int)
  let n := match s with
    | '0' :: 'x' :: r => based 16 Text.Hex.isDigit r
    | '0' :: 'o' :: r => based 8 (fun c => c.isDigit && c != '8' && c != '9') r
    | '0' :: 'b' :: r => based 2 (fun c => c == '0' || c == '1') r
    | s =>
      let (negative, r) := Text.Digits.cutSign s
      (wholeDigits? r).map fun ds => if negative then -(numeral 10 ds : Int) else numeral 10 ds
  n.filter Environment.isWord

def fraction? (s : List Char) : Option (List Char) := do
  let (front, exponent) := Text.cutAt (fun c => c == 'e' || c == 'E') s
  let (whole, places) := Text.cutAt (· == '.') front
  let whole ← wholeDigits? whole
  let places ← match places with
    | some p => (digits? Char.isDigit p).map ('.' :: ·)
    | none => some []
  let exponent ← match exponent with
    | some ('-' :: e) => (digits? Char.isDigit e).map ('e' :: '-' :: ·)
    | some ('+' :: e) => (digits? Char.isDigit e).map ('e' :: ·)
    | some e => (digits? Char.isDigit e).map ('e' :: ·)
    | none => some []
  if places.isEmpty && exponent.isEmpty then none else some (whole ++ places ++ exponent)

/-- The number that a word spells and that is not whole. Only an explicit infinity is infinite. -/
def real? (s : List Char) : Option Binary64 :=
  let (negative, r) := Text.Digits.cutSign s
  match r with
  | ['i', 'n', 'f'] => some (.infinite negative)
  | ['n', 'a', 'n'] => some .nan
  | r =>
    ((fraction? r).bind fun ds => Binary64.parse? (if negative then '-' :: ds else ds)).filter
      fun x => x != .infinite true && x != .infinite false

def readDate? (s : List Char) : Option (List Char × List Char) := do
  let (year, s) ← Timestamp.number? 4 0 s
  let s ← Timestamp.expect? '-' s
  let (month, s) ← Timestamp.number? 2 0 s
  let s ← Timestamp.expect? '-' s
  let (day, s) ← Timestamp.number? 2 0 s
  if 1 ≤ month ∧ month ≤ 12 ∧ 1 ≤ day ∧ day ≤ Timestamp.daysInMonth year month then
    return (Timestamp.pad 4 year ++ '-' :: Timestamp.pad 2 month ++ '-' :: Timestamp.pad 2 day, s)
  else none

/-- Reads a fraction of a second, or nothing where there is no point. A fraction keeps one digit. -/
def readPlaces? (s : List Char) : Option (List Char × List Char) := do
  let (nanos, r) ← Timestamp.readFraction? s
  return (if nanos = 0 ∧ s.head? = some '.' then ['.', '0'] else Timestamp.fraction nanos, r)

def readSeconds? : List Char → Option (List Char × List Char)
  | ':' :: s => do
    let (second, s) ← Timestamp.number? 2 0 s
    let (places, s) ← readPlaces? s
    if second ≤ 60 then return (':' :: Timestamp.pad 2 second ++ places, s) else none
  | s => some ([], s)

def readTime? (s : List Char) : Option (List Char × List Char) := do
  let (hour, s) ← Timestamp.number? 2 0 s
  let s ← Timestamp.expect? ':' s
  let (minute, s) ← Timestamp.number? 2 0 s
  let (seconds, s) ← readSeconds? s
  if hour ≤ 23 ∧ minute ≤ 59 then
    return (Timestamp.pad 2 hour ++ ':' :: Timestamp.pad 2 minute ++ seconds, s)
  else none

def offset? : List Char → Option (List Char)
  | [] => some []
  | ['Z'] => some ['Z']
  | ['z'] => some ['Z']
  | s =>
    match Timestamp.readZone? s with
    | some (0, []) => some ['+', '0', '0', ':', '0', '0']
    | some (n, []) => some (Timestamp.zone n)
    | _ => none

def moment? (s : List Char) : Option (List Char) :=
  match readDate? s with
  | some (date, []) => some date
  | some (date, c :: r) =>
    if c == 'T' || c == 't' || c == ' ' then do
      let (time, r) ← readTime? r
      return date ++ 'T' :: time ++ (← offset? r)
    else none
  | none =>
    match readTime? s with
    | some (time, []) => some time
    | _ => none

def isWordChar (c : Char) : Bool :=
  c.isAlphanum || c == '_' || c == '+' || c == '-' || c == '.' || c == ':'

def word? (s : List Char) : Option SettingTree :=
  match String.ofList s, whole? s, real? s, moment? s with
  | "true", _, _, _ => some (.bool true)
  | "false", _, _, _ => some (.bool false)
  | _, some n, _, _ => some (.whole n)
  | _, none, some x, _ => some (.real x)
  | _, none, none, some m => some (.text (String.ofList m))
  | _, none, none, none => none

/-- The word at the start of a text. A space may stand between date and time. -/
def cutWord (s : List Char) : List Char × List Char :=
  let w := s.takeWhile isWordChar
  match (readDate? w).map Prod.snd, s.dropWhile isWordChar with
  | some [], ' ' :: c :: r =>
    if c.isDigit then (w ++ ' ' :: (c :: r).takeWhile isWordChar, (c :: r).dropWhile isWordChar)
    else (w, ' ' :: c :: r)
  | _, rest => (w, rest)

def readScalar? (s : List Char) : Option (SettingTree × List Char) :=
  match readText? s with
  | some (t, r) => some (.text (String.ofList t), r)
  | none =>
    let (w, r) := cutWord s
    (word? w).map (·, r)

end ConsentGate.Toml
