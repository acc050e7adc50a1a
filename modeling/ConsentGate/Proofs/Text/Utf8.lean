import ConsentGate.Proofs.Text.Ascii
import ConsentGate.Text.Utf8

namespace ConsentGate.Text.Utf8

theorem toNat_byte {n : Nat} (h : n < 256) : (UInt8.ofNat n).toNat = n := by
  simpa using Nat.mod_eq_of_lt h

theorem finish_byte {n low high acc b : Nat} {r : List UInt8} (hb : b < 256) (hlow : low ≤ b)
    (hhigh : b ≤ high) : finish (n + 1) low high acc (UInt8.ofNat b :: r) =
      finish n 0x80 0xBF (acc * 64 + b % 64) r := by
  rw [finish, toNat_byte hb, if_pos ⟨hlow, hhigh⟩]

theorem toNat_valid (c : Char) : c.toNat < 0xD800 ∨ 0xDFFF < c.toNat ∧ c.toNat < 0x110000 :=
  c.valid

theorem ofNat_eq {c : Char} {n : Nat} (h : n = c.toNat) : Char.ofNat n = c := by
  rw [h, Char.ofNat_toNat]

theorem finish_tail {low high acc b d : Nat} {r : List UInt8} (hlow : low ≤ b) (hhigh : b ≤ high)
    (hb : b < 256) (hd : 0x80 ≤ d) (hd' : d ≤ 0xBF) :
    finish 2 low high acc (UInt8.ofNat b :: UInt8.ofNat d :: r) =
      (Char.ofNat ((acc * 64 + b % 64) * 64 + d % 64), r) := by
  rw [finish_byte hb hlow hhigh, finish_byte (by omega) hd hd', finish]

theorem finish_tail' {low high acc b d f : Nat} {r : List UInt8} (hlow : low ≤ b)
    (hhigh : b ≤ high) (hb : b < 256) (hd : 0x80 ≤ d) (hd' : d ≤ 0xBF) (hf : 0x80 ≤ f)
    (hf' : f ≤ 0xBF) :
    finish 3 low high acc (UInt8.ofNat b :: UInt8.ofNat d :: UInt8.ofNat f :: r) =
      (Char.ofNat (((acc * 64 + b % 64) * 64 + d % 64) * 64 + f % 64), r) := by
  rw [finish_byte hb hlow hhigh, finish_tail hd hd' (by omega) hf hf']

theorem readChar_encode (c : Char) (r : List UInt8) :
    ∃ b s, String.utf8EncodeChar c ++ r = b :: s ∧ readChar b s = (c, r) := by
  have hv := toNat_valid c
  have hval : c.val.toNat = c.toNat := rfl
  unfold String.utf8EncodeChar
  rw [hval]
  generalize hn : c.toNat = n at hv
  dsimp only
  split
  · next h1 =>
    refine ⟨_, _, List.cons_append, ?_⟩
    rw [readChar, toNat_byte (by omega)]
    simp only [List.nil_append, show n < 128 by omega, if_true]
    rw [ofNat_eq hn.symm]
  next h1 =>
  split
  · next h2 =>
    refine ⟨_, _, List.cons_append, ?_⟩
    rw [readChar, toNat_byte (by omega)]
    simp only [List.cons_append, List.nil_append]
    rw [if_neg (by omega), if_neg (by omega), if_pos (by omega)]
    rw [finish_byte (by omega) (by omega) (by omega), finish, ofNat_eq (c := c) (by omega)]
  next h2 =>
  split
  · next h3 =>
    refine ⟨_, _, List.cons_append, ?_⟩
    rw [readChar, toNat_byte (by omega)]
    simp only [List.cons_append, List.nil_append]
    rw [if_neg (by omega), if_neg (by omega), if_neg (by omega)]
    split
    -- The range of the second byte depends on the first one; the character always lies in it.
    · rw [finish_tail (by omega) (by omega) (by omega) (by omega) (by omega), ofNat_eq (c := c) (by omega)]
    split
    · rw [finish_tail (by omega) (by omega) (by omega) (by omega) (by omega), ofNat_eq (c := c) (by omega)]
    rw [if_pos (by omega)]
    rw [finish_tail (by omega) (by omega) (by omega) (by omega) (by omega), ofNat_eq (c := c) (by omega)]
  next h3 =>
  refine ⟨_, _, List.cons_append, ?_⟩
  rw [readChar, toNat_byte (by omega)]
  simp only [List.cons_append, List.nil_append]
  rw [if_neg (by omega), if_neg (by omega), if_neg (by omega), if_neg (by omega),
    if_neg (by omega), if_neg (by omega)]
  split
  · rw [finish_tail' (by omega) (by omega) (by omega) (by omega) (by omega) (by omega) (by omega),
      ofNat_eq (c := c) (by omega)]
  split
  · rw [finish_tail' (by omega) (by omega) (by omega) (by omega) (by omega) (by omega) (by omega),
      ofNat_eq (c := c) (by omega)]
  rw [if_pos (by omega)]
  rw [finish_tail' (by omega) (by omega) (by omega) (by omega) (by omega) (by omega) (by omega),
    ofNat_eq (c := c) (by omega)]

theorem decode_append (c : Char) (r : List UInt8) :
    decode (String.utf8EncodeChar c ++ r) = c :: decode r := by
  obtain ⟨b, s, heq, hread⟩ := readChar_encode c r
  rw [heq, decode, hread]

theorem encode_cons (c : Char) (s : List Char) :
    encode (c :: s) = String.utf8EncodeChar c ++ encode s := rfl

theorem encode_append (s t : List Char) : encode (s ++ t) = encode s ++ encode t :=
  List.flatMap_append

theorem decode_encode_append (s : List Char) (r : List UInt8) :
    decode (encode s ++ r) = s ++ decode r := by
  induction s with
  | nil => rfl
  | cons c s ih => rw [encode_cons, List.append_assoc, decode_append, ih, List.cons_append]

theorem decode_encode (s : List Char) : decode (encode s) = s := by
  have h := decode_encode_append s []
  rwa [List.append_nil, decode, List.append_nil] at h

theorem utf8EncodeChar_ascii {c : Char} (h : c.toNat < 128) :
    String.utf8EncodeChar c = [UInt8.ofNat c.toNat] := by
  unfold String.utf8EncodeChar
  rw [if_pos (show c.val.toNat ≤ 127 from Nat.le_of_lt_succ h)]
  rfl

theorem mem_encode_ascii {s : List Char} (hs : ∀ c ∈ s, c.toNat < 128) {b : UInt8}
    (hb : b ∈ encode s) : ∃ c ∈ s, b.toNat = c.toNat := by
  obtain ⟨c, hc, hbyte⟩ := List.mem_flatMap.mp hb
  have hlt := hs c hc
  rw [utf8EncodeChar_ascii hlt, List.mem_singleton] at hbyte
  exact ⟨c, hc, by rw [hbyte, toNat_byte (by omega)]⟩

theorem le_of_mem_utf8EncodeChar {c : Char} (h : 128 ≤ c.toNat) {b : UInt8}
    (hb : b ∈ String.utf8EncodeChar c) : 128 ≤ b.toNat := by
  have hval : c.val.toNat = c.toNat := rfl
  have hv := toNat_valid c
  unfold String.utf8EncodeChar at hb
  rw [hval] at hb
  generalize c.toNat = n at *
  dsimp only at hb
  rw [if_neg (by omega)] at hb
  split at hb
  · simp only [List.mem_cons, List.not_mem_nil, or_false] at hb
    rcases hb with rfl | rfl <;> rw [toNat_byte] <;> omega
  split at hb
  · simp only [List.mem_cons, List.not_mem_nil, or_false] at hb
    rcases hb with rfl | rfl | rfl <;> rw [toNat_byte] <;> omega
  · simp only [List.mem_cons, List.not_mem_nil, or_false] at hb
    rcases hb with rfl | rfl | rfl | rfl <;> rw [toNat_byte] <;> omega

end ConsentGate.Text.Utf8
