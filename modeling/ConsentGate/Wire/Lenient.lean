import ConsentGate.Settings.Tree
import ConsentGate.Wire.Dialect

namespace ConsentGate.Wire

def boolOfText? (s : String) : Option Bool :=
  match String.ofList (Text.lower s.toList) with
  | "1" | "true" | "on" | "yes" => some true
  | "0" | "false" | "off" | "no" => some false
  | _ => none

/-- The number of a text: its digits, behind a plus sign or not, or one and zero for truth values. -/
def naturalOfText? (s : String) : Option Nat :=
  match String.ofList (Text.lower s.toList) with
  | "true" | "on" | "yes" => some 1
  | "false" | "off" | "no" => some 0
  | _ =>
    let ds := match s.toList with
      | '+' :: r => r
      | cs => cs
    if ds.isEmpty || !ds.all Char.isDigit then none else some (Text.Digits.value ds)

def maxRounded : Nat := 2 ^ 64 - 1

/-- The number of a setting. A fraction is rounded, and one below zero counts as zero. -/
def natural? : SettingTree → Option Nat
  | .whole n => if 0 ≤ n then some n.toNat else none
  | .bool b => some b.toNat
  | .real x => some (x.clamp maxRounded)
  | .text s => naturalOfText? s
  | _ => none

/-- Trees of settings as a dialect. Records are tables, or lists of their fields in order; a choice is
a name or a table with this one key. -/
def lenient : Dialect SettingTree where
  text? := fun
    | .text s => some s
    | .bool b => some (if b then "true" else "false")
    | .whole n => some (toString n)
    | .real x => some x.text
    | _ => none
  bool? := fun
    | .bool b => some b
    | .whole n => some (n != 0)
    | .real x => some !x.isZero
    | .text s => boolOfText? s
    | _ => none
  natural? limit v := (natural? v).filter (· ≤ limit)
  items? := fun
    | .list items => some items
    | _ => none
  entries? := fun
    | .table entries => some entries
    | _ => none
  isNull := fun
    | .null => true
    | _ => false
  choice? names := fun
    | .text s => names.find? (· == s)
    | .table [(s, _)] => names.find? (· == s)
    | _ => none
  record? names := fun
    | .table entries => some entries
    | .list items => some (names.zip items)
    | _ => none

end ConsentGate.Wire
