import ConsentGate.Power
import ConsentGate.Text.Digits
import ConsentGate.Text.Hex
import Mathlib.Data.List.Induction
import Mathlib.Data.List.TakeWhile

namespace ConsentGate.Text

theorem Digits.value_toDigits (n : Nat) : Digits.value (Nat.toDigits 10 n) = n := by
  induction n using Nat.strongRecOn with
  | ind n ih =>
    by_cases hn : n < 10
    · rw [Nat.toDigits_of_lt_base hn]
      simpa [Digits.value] using Nat.toNat_digitChar_sub_48_of_lt_ten hn
    · have hq := ih (n / 10) (by omega)
      have hr := Nat.toNat_digitChar_sub_48_of_lt_ten (n := n % 10) (by omega)
      rw [Nat.toDigits_of_base_le (by omega) (by omega), Digits.value, List.foldl_append]
      rw [Digits.value] at hq
      simp only [hq, List.foldl_cons, List.foldl_nil, hr]
      omega

theorem Digits.foldl_lt {ds : List Char} (hd : ∀ c ∈ ds, c.isDigit = true) (n : Nat) :
    ds.foldl (fun n c => n * 10 + (c.toNat - 48)) n < (n + 1) * 10 ^ ds.length := by
  induction ds generalizing n with
  | nil => simp
  | cons c ds ih =>
    have hc : c.toNat ≤ 57 := by
      have hdigit := hd c List.mem_cons_self
      simp only [Char.isDigit, Bool.and_eq_true, decide_eq_true_eq] at hdigit
      exact UInt32.le_iff_toNat_le.mp hdigit.2
    have hrest := ih (fun d hd' => hd d (List.mem_cons_of_mem c hd')) (n * 10 + (c.toNat - 48))
    have hstep : (n * 10 + (c.toNat - 48) + 1) * 10 ^ ds.length ≤
        (n + 1) * 10 * 10 ^ ds.length := Nat.mul_le_mul_right _ (by omega)
    rw [List.foldl_cons, List.length_cons, Nat.pow_succ', ← Nat.mul_assoc]
    exact Nat.lt_of_lt_of_le hrest hstep

theorem Digits.value_lt {ds : List Char} (hd : ∀ c ∈ ds, c.isDigit = true) :
    value ds < 10 ^ ds.length := by
  have hlt := foldl_lt hd 0
  rwa [Nat.zero_add, Nat.one_mul] at hlt

theorem Digits.span_append {ds rest : List Char} (hd : ∀ c ∈ ds, c.isDigit = true)
    (hrest : ∀ c, rest.head? = some c → c.isDigit = false) :
    (ds ++ rest).takeWhile Char.isDigit = ds ∧ (ds ++ rest).dropWhile Char.isDigit = rest := by
  rw [List.takeWhile_append_of_pos hd, List.dropWhile_append_of_pos hd]
  cases rest with
  | nil => simp
  | cons c r => simp [hrest c rfl]

theorem Digits.head?_toDigits {n : Nat} (h : 0 < n) : (Nat.toDigits 10 n).head? ≠ some '0' := by
  induction n using Nat.strongRecOn with
  | ind n ih =>
    by_cases hn : n < 10
    · have : ∀ m : Fin 10, 0 < m.1 → [Nat.digitChar m.1].head? ≠ some '0' := by decide
      rw [Nat.toDigits_of_lt_base hn]
      exact this ⟨n, hn⟩ h
    · have hq := ih (n / 10) (by omega) (by omega)
      rw [List.head?_eq_some_head Nat.toDigits_ne_nil] at hq
      rw [Nat.toDigits_of_base_le (by omega) (by omega), List.head?_append,
        List.head?_eq_some_head Nat.toDigits_ne_nil]
      exact hq

namespace Hex

theorem value?_digitChar {n : Nat} (h : n < 16) : value? n.digitChar = some n := by
  have : ∀ m : Fin 16, value? (Nat.digitChar m.1) = some m.1 := by decide
  exact this ⟨n, h⟩

theorem lower_inj {m n : Nat} (hm : m < 16) (hn : n < 16) (h : lower m = lower n) : m = n :=
  Option.some.inj ((value?_lower hm).symm.trans ((congrArg value? h).trans (value?_lower hn)))

theorem ofBytes_inj {bs cs : List UInt8} (h : ofBytes bs = ofBytes cs) : bs = cs := by
  induction bs generalizing cs with
  | nil =>
    cases cs with
    | nil => rfl
    | cons c cs => cases h
  | cons b bs ih =>
    cases cs with
    | nil => cases h
    | cons c cs =>
      obtain ⟨hhigh, h⟩ := List.cons.inj h
      obtain ⟨hlow, h⟩ := List.cons.inj h
      have hb := b.toNat_lt
      have hc := c.toNat_lt
      have hhigh := lower_inj (by omega) (by omega) hhigh
      have hlow := lower_inj (by omega) (by omega) hlow
      rw [ih h, UInt8.toNat_inj.mp (show b.toNat = c.toNat by omega)]

theorem isDigit_range {c : Char} (h : isDigit c = true) :
    (48 ≤ c.toNat ∧ c.toNat ≤ 57) ∨ (65 ≤ c.toNat ∧ c.toNat ≤ 70) ∨
      (97 ≤ c.toNat ∧ c.toNat ≤ 102) := by
  simp only [isDigit, value?, Char.le_def, UInt32.le_iff_toNat_le] at h
  split at h
  · next hc => exact .inl hc
  split at h
  · next hc => exact .inr (.inr hc)
  split at h
  · next hc => exact .inr (.inl hc)
  · cases h

theorem number?_append {a : List Char} {c : Char} {m d : Nat} (ha : number? a = some m)
    (hc : value? c = some d) : number? (a ++ [c]) = some (m * 16 + d) := by
  rw [number?, List.foldlM_append, ← number?, ha]
  simp [hc]

theorem number?_numeral (n : Nat) : number? (numeral n) = some n := by
  induction n using Nat.strongRecOn with
  | ind n ih =>
    rw [numeral]
    by_cases hn : n < 16
    · rw [Nat.toDigits_of_lt_base hn]
      simp [number?, value?_digitChar hn]
    · have hq : number? (Nat.toDigits 16 (n / 16)) = some (n / 16) := ih (n / 16) (by omega)
      have hr := value?_digitChar (n := n % 16) (by omega)
      rw [Nat.toDigits_of_base_le (by omega) (by omega), number?_append hq hr]
      congr 1
      omega

theorem isDigit_of_number? {s : List Char} {n : Nat} (h : number? s = some n) :
    ∀ c ∈ s, isDigit c = true := by
  suffices ∀ m, s.foldlM (fun n c => (value? c).map (n * 16 + ·)) m = some n →
      ∀ c ∈ s, isDigit c = true from this 0 h
  clear h
  induction s with
  | nil => simp
  | cons d s ih =>
    intro m hm c hc
    rw [List.foldlM_cons] at hm
    cases hd : value? d with
    | none => simp [hd] at hm
    | some v =>
      rw [hd] at hm
      obtain rfl | hc := List.mem_cons.mp hc
      · simp [isDigit, hd]
      · exact ih _ hm c hc

theorem value?_lt {c : Char} {d : Nat} (h : value? c = some d) : d < 16 := by
  unfold value? at h
  simp only [Char.le_def, UInt32.le_iff_toNat_le] at h
  split at h
  · next hc =>
    rw [Option.some.injEq] at h
    have : c.toNat ≤ 57 := hc.2
    omega
  split at h
  · next hc =>
    rw [Option.some.injEq] at h
    have : c.toNat ≤ 102 := hc.2
    omega
  split at h
  · next hc =>
    rw [Option.some.injEq] at h
    have : c.toNat ≤ 70 := hc.2
    omega
  · cases h

theorem number?_lt {s : List Char} {n : Nat} (h : number? s = some n) : n < 16 ^ s.length := by
  induction s using List.reverseRecOn generalizing n with
  | nil =>
    obtain rfl : 0 = n := by simpa [number?] using h
    exact Nat.one_pos
  | append_singleton s c ih =>
    rw [number?, List.foldlM_append, ← number?] at h
    simp only [Option.bind_eq_bind, Option.bind_eq_some_iff, List.foldlM_cons, List.foldlM_nil,
      Option.pure_def, Option.some.injEq, Option.map_eq_some_iff] at h
    obtain ⟨m, hm, _, ⟨d, hd, rfl⟩, rfl⟩ := h
    have hlt := ih hm
    have hd16 := value?_lt hd
    rw [List.length_append, List.length_singleton, Nat.pow_succ]
    omega

theorem numeral_ne_nil (n : Nat) : numeral n ≠ [] := Nat.toDigits_ne_nil

theorem isDigit_of_mem_numeral {n : Nat} {c : Char} (h : c ∈ numeral n) : isDigit c = true :=
  isDigit_of_number? (number?_numeral n) c h

end Hex

end ConsentGate.Text
