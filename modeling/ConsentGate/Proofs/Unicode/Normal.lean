import ConsentGate.Proofs.Text.Ascii
import ConsentGate.Proofs.Unicode.Tables
import ConsentGate.Unicode.Normal
import Mathlib.Tactic.Tauto

namespace ConsentGate.Unicode

/-! ## Compositions -/

theorem compositions_spec {a b c : Char} (h : (a, b, c) ∈ compositions) :
    (isAscii a = true → a.isLower = true ∨ a = '<' ∨ a = '=' ∨ a = '>') ∧ isAscii b = false ∧
      isAscii c = false := by
  obtain ⟨row, hrow, hr⟩ := List.mem_filterMap.mp h
  have hc := List.all_eq_true.mp compositionTable_composes row hrow
  unfold Row.composes at hc
  split at hr
  · next x y hxy =>
    rw [hxy] at hc
    obtain ⟨rfl, rfl, rfl⟩ : x = a ∧ y = b ∧ Char.ofNat row.first = c := by simpa using hr
    simp only [Bool.and_eq_true, Bool.or_eq_true, Bool.not_eq_true', beq_iff_eq] at hc
    refine ⟨fun ha => ?_, hc.1.2, hc.2⟩
    simpa [ha, or_assoc] using hc.1.1
  · simp at hr

/-! ## Characters that compose with nothing -/

def isInert (c : Char) : Bool :=
  isAscii c && !c.isLower && c != '<' && c != '=' && c != '>'

theorem isInert_isAscii {k : Char} (h : isInert k = true) : isAscii k = true := by
  simp only [isInert, Bool.and_eq_true] at h
  exact h.1.1.1.1

theorem combiningClass_of_isAscii {c : Char} (h : isAscii c = true) : combiningClass c = 0 := by
  simp [combiningClass, h]

theorem decompose_of_isAscii {c : Char} (h : isAscii c = true) (n : Nat) : decompose n c = [c] := by
  cases n with
  | zero => rw [decompose, decomposeBy]
  | succ n => rw [decompose, decomposeBy, if_pos h]

theorem toNat_lt_of_isAscii {c : Char} (h : isAscii c = true) : c.toNat < 0x80 := by
  simpa [isAscii] using h

theorem find?_compositions_eq_none {a b : Char} (h : ∀ c, (a, b, c) ∉ compositions) :
    compositions.find? (fun p => p.1 == a && p.2.1 == b) = none := by
  rw [List.find?_eq_none]
  rintro ⟨x, y, z⟩ hp hxy
  obtain ⟨rfl, rfl⟩ : x = a ∧ y = b := by simpa using hxy
  exact h z hp

theorem compose?_of_isAscii_right (a : Char) {b : Char} (h : isAscii b = true) :
    compose? a b = none := by
  have hb := toNat_lt_of_isAscii h
  have hj : joinSyllable? a b = none := by
    simp only [joinSyllable?]
    rw [if_neg (by omega), if_neg (by omega)]
  have hf : ∀ c, (a, b, c) ∉ compositions := by
    intro c hc
    simp [(compositions_spec hc).2.1] at h
  simp [compose?, hj, find?_compositions_eq_none hf]

theorem compose?_of_isInert_left {a : Char} (h : isInert a = true) (b : Char) :
    compose? a b = none := by
  have ha := toNat_lt_of_isAscii (isInert_isAscii h)
  have hj : joinSyllable? a b = none := by
    simp only [joinSyllable?]
    rw [if_neg (by omega), if_neg (by omega)]
  have hf : ∀ c, (a, b, c) ∉ compositions := by
    intro c hc
    have hs := (compositions_spec hc).1 (isInert_isAscii h)
    simp only [isInert, Bool.and_eq_true, Bool.not_eq_true', bne_iff_ne] at h
    rcases hs with hs | hs | hs | hs <;> simp_all
  simp [compose?, hj, find?_compositions_eq_none hf]

/-! ## Texts in two parts -/

theorem insertMark_append_cons {k : Char} (hk : combiningClass k = 0) (c : Char) (a b : List Char) :
    insertMark c (a ++ k :: b) = insertMark c a ++ k :: b := by
  induction a with
  | nil => simp [insertMark, hk]
  | cons d a ih =>
    simp only [List.cons_append, insertMark]
    split <;> simp [ih]

theorem orderMarks_append_cons {k : Char} (hk : combiningClass k = 0) (a b : List Char) :
    orderMarks (a ++ k :: b) = orderMarks a ++ k :: orderMarks b := by
  induction a with
  | nil => simp [orderMarks, hk]
  | cons c a ih =>
    simp only [List.cons_append, orderMarks, ih]
    split
    · simp
    · exact insertMark_append_cons hk c _ _

theorem composeFrom_of_isInert {k : Char} (hk : isInert k = true) (passed s : List Char) :
    composeFrom k passed s = k :: passed.reverse ++ composeAll s := by
  induction s generalizing passed with
  | nil => simp [composeFrom, composeAll]
  | cons c r ih =>
    simp only [composeFrom, compose?_of_isInert_left hk, ite_self]
    by_cases hc : combiningClass c = 0
    · simp [hc, composeAll]
    · simp [hc, composeAll, ih]

theorem composeFrom_append_cons {k : Char} (hk : isInert k = true) (base : Char)
    (passed a b : List Char) :
    composeFrom base passed (a ++ k :: b) = composeFrom base passed a ++ k :: composeAll b := by
  have hk0 := combiningClass_of_isAscii (isInert_isAscii hk)
  induction a generalizing base passed with
  | nil =>
    have hn : compose? base k = none := compose?_of_isAscii_right base (isInert_isAscii hk)
    simp [composeFrom, hn, hk0, composeFrom_of_isInert hk]
  | cons c r ih =>
    simp only [List.cons_append, composeFrom]
    split
    · exact ih _ _
    · split <;> simp [ih]

theorem composeAll_append_cons {k : Char} (hk : isInert k = true) (a b : List Char) :
    composeAll (a ++ k :: b) = composeAll a ++ k :: composeAll b := by
  have hk0 := combiningClass_of_isAscii (isInert_isAscii hk)
  induction a with
  | nil => simp [composeAll, hk0, composeFrom_of_isInert hk]
  | cons c r ih =>
    simp only [List.cons_append, composeAll]
    split
    · exact composeFrom_append_cons hk c [] r b
    · simp [ih]

theorem orderMarks_of_isAscii {s : List Char} (h : s.all isAscii = true) : orderMarks s = s := by
  induction s with
  | nil => rfl
  | cons c r ih =>
    simp only [List.all_cons, Bool.and_eq_true] at h
    simp [orderMarks, combiningClass_of_isAscii h.1, ih h.2]

theorem composeFrom_of_isAscii {s : List Char} (h : s.all isAscii = true) (base : Char) :
    composeFrom base [] s = base :: s := by
  induction s generalizing base with
  | nil => simp [composeFrom]
  | cons c r ih =>
    simp only [List.all_cons, Bool.and_eq_true] at h
    simp [composeFrom, compose?_of_isAscii_right base h.1, combiningClass_of_isAscii h.1, ih h.2]

theorem composeAll_of_isAscii {s : List Char} (h : s.all isAscii = true) : composeAll s = s := by
  cases s with
  | nil => rfl
  | cons c r =>
    simp only [List.all_cons, Bool.and_eq_true] at h
    simp [composeAll, combiningClass_of_isAscii h.1, composeFrom_of_isAscii h.2]

theorem flatMap_decompose_of_isAscii {s : List Char} (h : s.all isAscii = true) (n : Nat) :
    s.flatMap (decompose n) = s := by
  induction s with
  | nil => rfl
  | cons c r ih =>
    simp only [List.all_cons, Bool.and_eq_true] at h
    simp [decompose_of_isAscii h.1, ih h.2]

/-- The short way for ASCII gives what the long way gives. -/
theorem normalize_eq (s : List Char) :
    normalize s = composeAll (orderMarks (s.flatMap (decompose 8))) := by
  unfold normalize
  split
  · next h =>
    rw [flatMap_decompose_of_isAscii h, orderMarks_of_isAscii h, composeAll_of_isAscii h]
  · rfl

theorem normalize_append_cons {k : Char} (hk : isInert k = true) (a b : List Char) :
    normalize (a ++ k :: b) = normalize a ++ k :: normalize b := by
  have hk0 := combiningClass_of_isAscii (isInert_isAscii hk)
  rw [normalize_eq, normalize_eq a, normalize_eq b, List.flatMap_append, List.flatMap_cons,
    decompose_of_isAscii (isInert_isAscii hk), List.singleton_append,
    orderMarks_append_cons hk0, composeAll_append_cons hk]

/-! ## Upper case -/

theorem isAscii_of_isUpper {c : Char} (h : c.isUpper = true) : isAscii c = true := by
  have hc := Text.isUpper_iff.mp h
  simp only [isAscii, decide_eq_true_eq]
  omega

theorem isUpper_eq_false_of_not_isAscii {c : Char} (h : isAscii c = false) : c.isUpper = false := by
  cases hu : c.isUpper with
  | false => rfl
  | true => simp [isAscii_of_isUpper hu] at h

theorem isUpper_ofNat {n : Nat} (h : n < 65 ∨ 90 < n) : (Char.ofNat n).isUpper = false := by
  rw [Bool.eq_false_iff, ne_eq, Text.isUpper_iff, Text.toNat_ofNat]
  split <;> omega

theorem isUpper_of_mem_splitSyllable {c : Char} {l : List Char} (h : splitSyllable? c = some l) :
    ∀ d ∈ l, d.isUpper = false := by
  unfold splitSyllable? at h
  dsimp only at h
  split at h
  · obtain rfl := Option.some.inj h
    intro d hd
    obtain rfl | hd := List.mem_cons.mp hd
    · exact isUpper_ofNat (.inr (by omega))
    obtain rfl | hd := List.mem_cons.mp hd
    · exact isUpper_ofNat (.inr (by omega))
    · split at hd
      · simp at hd
      · rw [List.mem_singleton.mp hd]
        exact isUpper_ofNat (.inr (by omega))
  · simp at h

theorem isUpper_of_row {row : Row} (h : row ∈ compositionTable.toList) :
    ∀ d ∈ Table.characters row, d.isUpper = false := by
  have hc := List.all_eq_true.mp compositionTable_composes row h
  unfold Row.composes at hc
  split at hc
  · next a b hab =>
    rw [hab]
    simp only [Bool.and_eq_true, Bool.or_eq_true, Bool.not_eq_true', beq_iff_eq] at hc
    obtain ⟨⟨ha, hb⟩, _⟩ := hc
    intro d hd
    simp only [List.mem_cons, List.not_mem_nil, or_false] at hd
    obtain rfl | rfl := hd
    · obtain (((ha | ha) | rfl) | rfl) | rfl := ha
      · exact isUpper_eq_false_of_not_isAscii ha
      · have hl := Text.isLower_iff.mp ha
        rw [Bool.eq_false_iff, ne_eq, Text.isUpper_iff]
        omega
      all_goals decide
    · exact isUpper_eq_false_of_not_isAscii hb
  · simp at hc

theorem isUpper_of_mem_decomposeBy {t : Table}
    (ht : ∀ row ∈ t.toList, ∀ d ∈ Table.characters row, d.isUpper = false) {c : Char}
    (hc : c.isUpper = false) (n : Nat) : ∀ d ∈ decomposeBy t n c, d.isUpper = false := by
  induction n generalizing c with
  | zero => simpa [decomposeBy] using hc
  | succ n ih =>
    rw [decomposeBy]
    split
    · simpa using hc
    · split
      · next l hl => exact isUpper_of_mem_splitSyllable hl
      · split
        · next a r hr =>
          obtain ⟨row, hrow, hchars⟩ := Option.map_eq_some_iff.mp hr
          have hu := ht row (Table.row?_spec hrow).1
          rw [hchars] at hu
          intro d hd
          obtain hd | hd := List.mem_append.mp hd
          · exact ih (hu a List.mem_cons_self) d hd
          · exact hu d (List.mem_cons_of_mem a hd)
        · simpa using hc

theorem mem_insertMark {c d : Char} {s : List Char} : d ∈ insertMark c s ↔ d = c ∨ d ∈ s := by
  induction s with
  | nil => simp [insertMark]
  | cons e r ih =>
    rw [insertMark]
    split
    · rw [List.mem_cons, ih, List.mem_cons]
      exact or_left_comm
    · exact List.mem_cons

theorem mem_orderMarks {d : Char} {s : List Char} : d ∈ orderMarks s ↔ d ∈ s := by
  induction s with
  | nil => simp [orderMarks]
  | cons c r ih =>
    rw [orderMarks]
    split
    · simp [ih]
    · simp [mem_insertMark, ih]

theorem isUpper_of_compose? {a b c : Char} (h : compose? a b = some c) : c.isUpper = false := by
  unfold compose? at h
  split at h
  · next d hd =>
    obtain rfl : d = c := by simpa using h
    unfold joinSyllable? at hd
    dsimp only at hd
    split at hd
    · obtain rfl := by simpa using hd
      exact isUpper_ofNat (.inr (by omega))
    · split at hd
      · obtain rfl := by simpa using hd
        exact isUpper_ofNat (.inr (by omega))
      · simp at hd
  · obtain ⟨⟨x, y, z⟩, hp, rfl⟩ := Option.map_eq_some_iff.mp h
    exact isUpper_eq_false_of_not_isAscii (compositions_spec (List.mem_of_find?_eq_some hp)).2.2

theorem isUpper_of_mem_composeFrom {base : Char} {passed s : List Char}
    (hb : base.isUpper = false) (hp : ∀ d ∈ passed, d.isUpper = false)
    (hs : ∀ d ∈ s, d.isUpper = false) : ∀ d ∈ composeFrom base passed s, d.isUpper = false := by
  induction s generalizing base passed with
  | nil => simpa [composeFrom] using ⟨hb, hp⟩
  | cons c r ih =>
    have hc := hs c List.mem_cons_self
    have hr : ∀ d ∈ r, d.isUpper = false := fun d hd => hs d (List.mem_cons_of_mem c hd)
    simp only [composeFrom]
    split
    · next b hcb =>
      have hbc := isUpper_of_compose? (Option.ite_none_right_eq_some.mp hcb).2
      exact ih hbc hp hr
    · split
      · have hnil : ∀ d ∈ ([] : List Char), d.isUpper = false := by simp
        have ht := ih hc hnil hr
        intro d hd
        simp only [List.cons_append, List.mem_cons, List.mem_append, List.mem_reverse] at hd
        obtain rfl | hd | hd := hd
        · exact hb
        · exact hp d hd
        · exact ht d hd
      · exact ih hb (by simpa using ⟨hc, hp⟩) hr

theorem isUpper_of_mem_composeAll {s : List Char} (hs : ∀ d ∈ s, d.isUpper = false) :
    ∀ d ∈ composeAll s, d.isUpper = false := by
  induction s with
  | nil => simp [composeAll]
  | cons c r ih =>
    have hc := hs c List.mem_cons_self
    have hr : ∀ d ∈ r, d.isUpper = false := fun d hd => hs d (List.mem_cons_of_mem c hd)
    rw [composeAll]
    split
    · exact isUpper_of_mem_composeFrom hc (by simp) hr
    · simpa using ⟨hc, ih hr⟩

theorem isUpper_of_mem_normalize {s : List Char} (hs : ∀ c ∈ s, c.isUpper = false) :
    ∀ d ∈ normalize s, d.isUpper = false := by
  rw [normalize_eq]
  apply isUpper_of_mem_composeAll
  intro d hd
  obtain ⟨c, hc, hdc⟩ := List.mem_flatMap.mp (mem_orderMarks.mp hd)
  exact isUpper_of_mem_decomposeBy (fun _ => isUpper_of_row) (hs c hc) 8 d hdc

end ConsentGate.Unicode
