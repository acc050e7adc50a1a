import ConsentGate.Text.Base64Url
import Mathlib.Data.List.Nodup

namespace ConsentGate.Text.Base64Url

theorem digit_inj {m n : Nat} (hm : m < 64) (hn : n < 64) (h : digit m = digit n) : m = n := by
  have hnodup : ((List.range 64).map digit).Nodup := by decide +kernel
  exact List.inj_on_of_nodup_map hnodup (List.mem_range.mpr hm) (List.mem_range.mpr hn) h

theorem digit_eq (n : Nat) : (digit n).isAlphanum = true ∨ digit n = '-' ∨ digit n = '_' := by
  by_cases hn : n < 62
  · have hall : ∀ n < 62, (digit n).isAlphanum = true := by decide +kernel
    exact .inl (hall n hn)
  · right
    unfold digit
    rw [if_neg (by omega), if_neg (by omega), if_neg hn]
    split <;> simp

theorem mem_encode {bytes : List UInt8} {c : Char} (h : c ∈ encode bytes) :
    c.isAlphanum = true ∨ c = '-' ∨ c = '_' := by
  induction bytes using encode.induct with
  | case1 => cases h
  | case2 a =>
    simp only [encode, List.mem_cons, List.not_mem_nil, or_false] at h
    obtain rfl | rfl := h <;> exact digit_eq _
  | case3 a b =>
    simp only [encode, List.mem_cons, List.not_mem_nil, or_false] at h
    obtain rfl | rfl | rfl := h <;> exact digit_eq _
  | case4 a b c r ih =>
    simp only [encode, List.mem_cons] at h
    obtain rfl | rfl | rfl | rfl | h := h
    iterate 4 exact digit_eq _
    exact ih h

theorem length_encode (bytes : List UInt8) :
    (encode bytes).length = (bytes.length * 4 + 2) / 3 := by
  induction bytes using encode.induct with
  | case1 => rfl
  | case2 a => simp [encode]
  | case3 a b => simp [encode]
  | case4 a b c r ih =>
    simp only [encode, List.length_cons, ih]
    omega

theorem group_inj (a b c a' b' c' : UInt8) (h₁ : digit (a.toNat / 4) = digit (a'.toNat / 4))
    (h₂ : digit (a.toNat % 4 * 16 + b.toNat / 16) = digit (a'.toNat % 4 * 16 + b'.toNat / 16))
    (h₃ : digit (b.toNat % 16 * 4 + c.toNat / 64) = digit (b'.toNat % 16 * 4 + c'.toNat / 64))
    (h₄ : digit (c.toNat % 64) = digit (c'.toNat % 64)) : a = a' ∧ b = b' ∧ c = c' := by
  have ha := a.toNat_lt
  have ha' := a'.toNat_lt
  have hb := b.toNat_lt
  have hb' := b'.toNat_lt
  have hc := c.toNat_lt
  have hc' := c'.toNat_lt
  have hfirst := digit_inj (by omega) (by omega) h₁
  have hsecond := digit_inj (by omega) (by omega) h₂
  have hthird := digit_inj (by omega) (by omega) h₃
  have hfourth := digit_inj (by omega) (by omega) h₄
  simp only [← UInt8.toNat_inj]
  omega

theorem encode_inj {l m : List UInt8} (h : encode l = encode m) : l = m := by
  induction l using encode.induct generalizing m with
  | case1 =>
    match m with
    | [] => rfl
    | [_] | [_, _] | _ :: _ :: _ :: _ => simp [encode] at h
  | case2 a =>
    match m with
    | [] | [_, _] | _ :: _ :: _ :: _ => simp [encode] at h
    | [a'] =>
      simp only [encode, List.cons.injEq, and_true] at h
      obtain ⟨rfl, _⟩ := group_inj a 0 0 a' 0 0 h.1 h.2 rfl rfl
      rfl
  | case3 a b =>
    match m with
    | [] | [_] | _ :: _ :: _ :: _ => simp [encode] at h
    | [a', b'] =>
      simp only [encode, List.cons.injEq, and_true] at h
      obtain ⟨rfl, rfl, _⟩ := group_inj a b 0 a' b' 0 h.1 h.2.1 h.2.2 rfl
      rfl
  | case4 a b c r ih =>
    match m with
    | [] | [_] | [_, _] => simp [encode] at h
    | a' :: b' :: c' :: r' =>
      simp only [encode, List.cons.injEq] at h
      obtain ⟨h₁, h₂, h₃, h₄, hrest⟩ := h
      obtain ⟨rfl, rfl, rfl⟩ := group_inj a b c a' b' c' h₁ h₂ h₃ h₄
      rw [ih hrest]

end ConsentGate.Text.Base64Url
