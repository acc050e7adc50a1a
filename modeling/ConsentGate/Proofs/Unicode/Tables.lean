import ConsentGate.Unicode.Combining
import ConsentGate.Unicode.Mapping

namespace ConsentGate.Unicode

theorem Table.ofText_ofList (l : List Char) :
    Table.ofText (String.ofList l) =
      (((Text.pieces (fun c => c == ' ' || c == '\n') l).filter (!·.isEmpty)).map
        Row.ofWord).toArray := by
  rw [Table.ofText, String.toList_ofList]

theorem Table.row?_spec {t : Table} {c : Char} {row : Row} (h : t.row? c = some row) :
    row ∈ t.toList ∧ row.first ≤ c.toNat ∧ c.toNat ≤ row.last := by
  simp only [Table.row?] at h
  split at h
  · next r hr =>
    split at h
    · next hc =>
      obtain rfl : r = row := by simpa using h
      exact ⟨by simpa using Array.mem_of_getElem? hr, hc.1, hc.2.1⟩
    · simp at h
  · simp at h

/-- Tells the rows of a composition: two parts, of which only the first may be ASCII, a small letter or
one of three signs, and a whole beyond ASCII. -/
def Row.composes (row : Row) : Bool :=
  match Table.characters row with
  | [a, b] =>
    (!isAscii a || a.isLower || a == '<' || a == '=' || a == '>') && !isAscii b &&
      !isAscii (Char.ofNat row.first)
  | _ => false

set_option maxRecDepth 100000 in
theorem compositionTable_composes : compositionTable.toList.all Row.composes = true := by
  unfold compositionTable
  rw [Table.ofText_ofList]
  decide +kernel

def Row.lowers (row : Row) : Bool :=
  match Table.characters row with
  | [d] => decide (d.toNat + (row.last - row.first) < 65) || decide (90 < d.toNat)
  | l => l.all (!·.isUpper)

set_option maxRecDepth 100000 in
theorem mappingTable_lowers : mappingTable.toList.all Row.lowers = true := by
  unfold mappingTable
  rw [Table.ofText_ofList]
  decide +kernel

end ConsentGate.Unicode
