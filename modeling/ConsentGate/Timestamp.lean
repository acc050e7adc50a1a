import ConsentGate.Text.Digits

namespace ConsentGate

/-- A point in time as a clock with the given offset in minutes shows it. -/
structure Timestamp where
  year : Nat
  month : Nat
  day : Nat
  hour : Nat
  minute : Nat
  second : Nat
  nanos : Nat
  offset : Int
  deriving DecidableEq, Repr, Inhabited

namespace Timestamp

def isLeap (year : Nat) : Bool :=
  year % 4 = 0 && (year % 100 ≠ 0 || year % 400 = 0)

def daysInMonth (year month : Nat) : Nat :=
  if month = 2 then (if isLeap year then 29 else 28)
  else if month = 4 ∨ month = 6 ∨ month = 9 ∨ month = 11 then 30
  else 31

/-- The days from the start of 1970 to a date. Years are counted from March, so that a leap day ends
one. -/
def dayNumber (year month day : Int) : Int :=
  let y := if month ≤ 2 then year - 1 else year
  let m := if month ≤ 2 then month + 9 else month - 3
  y * 365 + y / 4 - y / 100 + y / 400 + (m * 153 + 2) / 5 + day - 1 - 719468

def unix (t : Timestamp) : Int :=
  dayNumber t.year t.month t.day * 86400 + (t.hour * 3600 + t.minute * 60 + t.second : Nat) -
    t.offset * 60

def instant (t : Timestamp) : Int :=
  t.unix * 1000000000 + t.nanos

def date (n : Int) : Int × Int × Int :=
  let z := n + 719468
  let era := z / 146097
  let doe := z % 146097
  let yoe := (doe - doe / 1460 + doe / 36524 - doe / 146096) / 365
  let doy := doe - (365 * yoe + yoe / 4 - yoe / 100)
  let mp := (5 * doy + 2) / 153
  let month := if mp < 10 then mp + 3 else mp - 9
  (yoe + era * 400 + (if month ≤ 2 then 1 else 0), month, doy - (153 * mp + 2) / 5 + 1)

def ofInstant (n : Int) : Timestamp :=
  let s := n / 1000000000
  let (year, month, day) := date (s / 86400)
  let r := (s % 86400).toNat
  ⟨year.toNat, month.toNat, day.toNat, r / 3600, r / 60 % 60, r % 60, (n % 1000000000).toNat, 0⟩

def later (t : Timestamp) (nanos : Int) : Timestamp :=
  ofInstant (t.instant + nanos)

def firstInstant : Int := dayNumber (-9999) 1 1 * 86400 * 1000000000

def lastInstant : Int := dayNumber 10000 1 1 * 86400 * 1000000000 - 1

def earlier? (t : Timestamp) (nanos : Int) : Option Int :=
  let n := t.instant - nanos
  if firstInstant ≤ n ∧ n ≤ lastInstant then some n else none

def before? (t : Timestamp) (seconds : Int) : Option Int :=
  t.earlier? (seconds * 1000000000)

/-! ## Text -/

def pad (width n : Nat) : List Char :=
  let ds := Nat.toDigits 10 n
  List.replicate (width - ds.length) '0' ++ ds

def fraction (nanos : Nat) : List Char :=
  if nanos = 0 then []
  else '.' :: ((pad 9 nanos).reverse.dropWhile (· == '0')).reverse

def zone (offset : Int) : List Char :=
  if offset = 0 then ['Z']
  else
    (if offset < 0 then '-' else '+') :: pad 2 (offset.natAbs / 60) ++ ':' :: pad 2 (offset.natAbs % 60)

def render (t : Timestamp) : String :=
  String.ofList (pad 4 t.year ++ '-' :: pad 2 t.month ++ '-' :: pad 2 t.day ++ 'T' ::
    pad 2 t.hour ++ ':' :: pad 2 t.minute ++ ':' :: pad 2 t.second ++ fraction t.nanos ++
    zone t.offset)

def number? : Nat → Nat → List Char → Option (Nat × List Char)
  | 0, n, s => some (n, s)
  | _ + 1, _, [] => none
  | width + 1, n, c :: s =>
    if c.isDigit then number? width (n * 10 + (c.toNat - 48)) s else none

def expect? (c : Char) : List Char → Option (List Char)
  | d :: s => if c = d then some s else none
  | [] => none

/-- The fraction of a second at the start of a text, in nanoseconds; digits beyond the ninth do not
count. -/
def readFraction? : List Char → Option (Nat × List Char)
  | '.' :: s =>
    let ds := s.takeWhile Char.isDigit
    if ds.isEmpty then none
    else
      let nine := (ds ++ List.replicate 9 '0').take 9
      some (Text.Digits.value nine, s.dropWhile Char.isDigit)
  | s => some (0, s)

def readZone? : List Char → Option (Int × List Char)
  | 'Z' :: s => some (0, s)
  | 'z' :: s => some (0, s)
  | c :: s =>
    if c = '+' ∨ c = '-' then do
      let (h, s) ← number? 2 0 s
      let s ← expect? ':' s
      let (m, s) ← number? 2 0 s
      if h ≤ 23 ∧ m ≤ 59 then
        return (if c = '-' then -((h * 60 + m : Nat) : Int) else ((h * 60 + m : Nat) : Int), s)
      else none
    else none
  | [] => none

/-- Tells the last second of a month in UTC, behind which a leap second may stand. -/
def endsMonth (t : Timestamp) : Bool :=
  let n := t.unix
  n % 86400 = 86399 && (date (n / 86400 + 1)).2.2 = 1

/-- The time with the given parts, if the calendar has it. A leap second counts as the end of the
second before it, in nanoseconds. -/
def make? (t : Timestamp) : Option Timestamp :=
  if 1 ≤ t.month ∧ t.month ≤ 12 ∧ 1 ≤ t.day ∧ t.day ≤ daysInMonth t.year t.month ∧
      t.hour ≤ 23 ∧ t.minute ≤ 59 then
    if t.second ≤ 59 then some t
    else if t.second = 60 then
      let u := { t with second := 59, nanos := 999999999 }
      if u.endsMonth then some u else none
    else none
  else none

/-- Reads RFC 3339. Any one character may stand between date and time. -/
def parse? (s : String) : Option Timestamp := do
  let (year, s) ← number? 4 0 s.toList
  let s ← expect? '-' s
  let (month, s) ← number? 2 0 s
  let s ← expect? '-' s
  let (day, s) ← number? 2 0 s
  let (gap, s) ← s.head?.map fun c => (c, s.tail)
  if 0x80 ≤ gap.toNat then none
  let (hour, s) ← number? 2 0 s
  let s ← expect? ':' s
  let (minute, s) ← number? 2 0 s
  let s ← expect? ':' s
  let (second, s) ← number? 2 0 s
  let (nanos, s) ← readFraction? s
  let (offset, s) ← readZone? s
  if s.isEmpty then make? ⟨year, month, day, hour, minute, second, nanos, offset⟩ else none

end Timestamp

end ConsentGate
