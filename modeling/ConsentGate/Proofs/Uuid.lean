import ConsentGate.Proofs.Text.Digits
import ConsentGate.Uuid

namespace ConsentGate.Uuid

open Text

variable {n x : Nat} {a b c d e s : List Char}

theorem length_digits (n x : Nat) : (digits n x).length = n := by
  induction n generalizing x with
  | zero => rfl
  | succ n ih => simp [digits, ih]

theorem number?_digits (n x : Nat) : Hex.number? (digits n x) = some (x % 16 ^ n) := by
  induction n generalizing x with
  | zero => simp [digits, Hex.number?, Nat.mod_one]
  | succ n ih =>
    rw [digits, Hex.number?_append (ih (x / 16)) (Hex.value?_lower (Nat.mod_lt x (by decide))),
      Nat.pow_succ, Nat.mul_comm (16 ^ n), Nat.mod_mul]
    congr 1
    omega

theorem ofDigits?_simple (u : Uuid) : ofDigits? u.simple = some u := by
  rw [simple, ofDigits?, if_pos (length_digits 32 u.value), number?_digits, Option.map_some, ofNat]
  congr 2
  rw [show 16 ^ 32 = 2 ^ 128 by decide, Nat.mod_mod, Nat.mod_eq_of_lt u.isLt]

theorem hyphenate_groups (ha : a.length = 8) (hb : b.length = 4) (hc : c.length = 4)
    (hd : d.length = 4) :
    hyphenate (a ++ (b ++ (c ++ (d ++ e)))) = a ++ '-' :: b ++ '-' :: c ++ '-' :: d ++ '-' :: e := by
  simp [hyphenate, List.drop_append, ha, hb, hc, hd, List.drop_of_length_le]

theorem exists_groups (h : s.length = 32) :
    ∃ a b c d e, s = a ++ (b ++ (c ++ (d ++ e))) ∧ a.length = 8 ∧ b.length = 4 ∧ c.length = 4 ∧
      d.length = 4 ∧ e.length = 12 := by
  refine ⟨s.take 8, (s.drop 8).take 4, (s.drop 12).take 4, (s.drop 16).take 4, s.drop 20,
    ?_, by simp [h], by simp [h], by simp [h], by simp [h], by simp [h]⟩
  have h16 : (s.drop 16).take 4 ++ s.drop 20 = s.drop 16 := by
    simpa using List.take_append_drop 4 (s.drop 16)
  have h12 : (s.drop 12).take 4 ++ s.drop 16 = s.drop 12 := by
    simpa using List.take_append_drop 4 (s.drop 12)
  have h8 : (s.drop 8).take 4 ++ s.drop 12 = s.drop 8 := by
    simpa using List.take_append_drop 4 (s.drop 8)
  rw [h16, h12, h8, List.take_append_drop]

theorem ofHyphenated?_hyphenate (h : s.length = 32) :
    (hyphenate s).length = 36 ∧ ofHyphenated? (hyphenate s) = ofDigits? s := by
  obtain ⟨a, b, c, d, e, rfl, ha, hb, hc, hd, he⟩ := exists_groups h
  rw [hyphenate_groups ha hb hc hd]
  have hlen : (a ++ '-' :: b ++ '-' :: c ++ '-' :: d ++ '-' :: e).length = 36 := by
    simp [ha, hb, hc, hd, he]
  refine ⟨hlen, ?_⟩
  rw [ofHyphenated?, if_pos hlen]
  simp [List.drop_append, ha, hb, hc, hd, List.drop_of_length_le, hyphenate_groups ha hb hc hd]

theorem parse?_ofList (hc : Hex.isDigit (s.head?.getD '0') = true) :
    parse? (String.ofList s) = if s.length = 36 then ofHyphenated? s else ofDigits? s := by
  unfold parse?
  rw [String.toList_ofList]
  split
  · exact absurd hc Bool.false_ne_true
  · exact absurd hc Bool.false_ne_true
  · rfl

theorem parse?_render (u : Uuid) : parse? u.render = some u := by
  have hlen : u.simple.length = 32 := length_digits 32 u.value
  obtain ⟨hlength, hread⟩ := ofHyphenated?_hyphenate hlen
  have hfirst : Hex.isDigit ((hyphenate u.simple).head?.getD '0') = true := by
    obtain ⟨a, b, c, d, e, hs, ha, hb, hc, hd, -⟩ := exists_groups hlen
    rw [hs, hyphenate_groups ha hb hc hd]
    cases a with
    | nil => simp at ha
    | cons x a =>
      have hx : x ∈ u.simple := hs ▸ List.mem_cons_self
      exact Hex.isDigit_of_number? (number?_digits 32 u.value) x hx
  rw [render, parse?_ofList hfirst, if_pos hlength, hread, ofDigits?_simple]

end ConsentGate.Uuid
