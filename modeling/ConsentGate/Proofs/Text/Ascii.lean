import ConsentGate.Text.Cut

namespace ConsentGate.Text

theorem toNat_ofNat (n : Nat) : (Char.ofNat n).toNat = if n.isValidChar then n else 0 := by
  by_cases h : n.isValidChar
  · rw [Char.ofNat, dif_pos h, if_pos h]
    rfl
  · rw [Char.ofNat, dif_neg h, if_neg h]
    rfl

theorem isUpper_iff {c : Char} : c.isUpper = true ↔ 65 ≤ c.toNat ∧ c.toNat ≤ 90 :=
  decide_eq_true_iff

theorem isLower_iff {c : Char} : c.isLower = true ↔ 97 ≤ c.toNat ∧ c.toNat ≤ 122 := by
  show (decide ('a'.val ≤ c.val) && decide (c.val ≤ 'z'.val)) = true ↔ _
  rw [Bool.and_eq_true, decide_eq_true_iff, decide_eq_true_iff]
  rfl

theorem isDigit_iff {c : Char} : c.isDigit = true ↔ 48 ≤ c.toNat ∧ c.toNat ≤ 57 :=
  Char.isDigit_iff_toNat

theorem isAlpha_iff {c : Char} : c.isAlpha = true ↔
    (65 ≤ c.toNat ∧ c.toNat ≤ 90) ∨ (97 ≤ c.toNat ∧ c.toNat ≤ 122) := by
  show (c.isUpper || c.isLower) = true ↔ _
  rw [Bool.or_eq_true, isUpper_iff, isLower_iff]

theorem isAlphanum_iff {c : Char} : c.isAlphanum = true ↔
    ((65 ≤ c.toNat ∧ c.toNat ≤ 90) ∨ (97 ≤ c.toNat ∧ c.toNat ≤ 122)) ∨
      (48 ≤ c.toNat ∧ c.toNat ≤ 57) := by
  rw [Char.isAlphanum, Bool.or_eq_true, isAlpha_iff, isDigit_iff]

theorem eq_iff_toNat {c d : Char} : c = d ↔ c.toNat = d.toNat :=
  Char.toNat_inj.symm

theorem toLower_eq_self {c : Char} (h : c.isUpper = false) : c.toLower = c := by
  unfold Char.toLower
  split
  · next hu =>
    have hc : c.isUpper = true := decide_eq_true hu
    rw [h] at hc
    cases hc
  · rfl

theorem toNat_toLower (c : Char) :
    c.toLower.toNat = if c.isUpper then c.toNat + 32 else c.toNat := by
  cases h : c.isUpper with
  | false => simp [toLower_eq_self h]
  | true =>
    have hc := isUpper_iff.mp h
    rw [if_pos rfl]
    unfold Char.toLower
    split
    · next hu =>
      show (c.val + _).toNat = _
      rw [UInt32.toNat_add, Nat.mod_eq_of_lt]
      · rfl
      · show c.toNat + 32 < _
        omega
    · next hu => exact absurd (of_decide_eq_true h) hu

theorem isUpper_toLower (c : Char) : c.toLower.isUpper = false := by
  have hc := toNat_toLower c
  rw [Bool.eq_false_iff, ne_eq, isUpper_iff]
  split at hc
  · next h =>
    have := isUpper_iff.mp h
    omega
  · next h =>
    rw [isUpper_iff] at h
    omega

theorem isAlpha_toLower {c : Char} (h : c.isAlpha = true) : c.toLower.isAlpha = true := by
  have hc := toNat_toLower c
  rw [isAlpha_iff] at h ⊢
  split at hc
  · next h =>
    have := isUpper_iff.mp h
    omega
  · omega

theorem lower_eq_self {s : List Char} (h : ∀ c ∈ s, c.isUpper = false) : lower s = s :=
  (List.map_congr_left fun c hc => toLower_eq_self (h c hc)).trans (List.map_id' s)

end ConsentGate.Text
