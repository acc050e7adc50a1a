import ConsentGate.Proofs.Text.Utf8
import ConsentGate.Text.Percent

namespace ConsentGate.Text

/-! ## Reading bytes piece by piece -/

namespace Utf8

/-- A character that is cut short by an ASCII byte reads as if the text ended there. -/
theorem finish_append {k : UInt8} (hk : k.toNat < 128) (n low high acc : Nat) (hlow : 128 ≤ low)
    (r s : List UInt8) : finish n low high acc (r ++ k :: s) =
      ((finish n low high acc r).1, (finish n low high acc r).2 ++ k :: s) := by
  induction n generalizing low high acc r with
  | zero => rfl
  | succ n ih =>
    cases r with
    | nil => simp [finish, show ¬ low ≤ k.toNat by omega]
    | cons b r =>
      simp only [List.cons_append, finish]
      split
      · exact ih 128 191 _ (Nat.le_refl _) r
      · rfl

theorem readChar_append {k : UInt8} (hk : k.toNat < 128) (b : UInt8) (r s : List UInt8) :
    readChar b (r ++ k :: s) = ((readChar b r).1, (readChar b r).2 ++ k :: s) := by
  simp only [readChar]
  repeat' split
  all_goals first | rfl | exact finish_append hk _ _ _ _ (by omega) r s

theorem decode_append_ascii {k : UInt8} (hk : k.toNat < 128) (r s : List UInt8) :
    decode (r ++ k :: s) = decode r ++ Char.ofNat k.toNat :: decode s := by
  induction h : r.length using Nat.strongRecOn generalizing r with
  | ind n ih =>
    cases r with
    | nil => simp [decode, readChar, hk]
    | cons b r =>
      have hle := length_readChar_le b r
      rw [List.cons_append, decode, readChar_append hk, decode]
      rw [ih _ (by simp at h; omega) _ rfl]
      rfl

end Utf8

namespace Percent

/-! ## Encoding -/

theorem encode_cons (keep : Char → Bool) (c : Char) (s : List Char) :
    encode keep (c :: s) =
      (if keep c then [c] else (String.utf8EncodeChar c).flatMap escape) ++ encode keep s := rfl

theorem encode_cons_of_keep {keep : Char → Bool} {c : Char} (hc : keep c = true) (s : List Char) :
    encode keep (c :: s) = c :: encode keep s := by
  rw [encode_cons, if_pos hc, List.singleton_append]

theorem encode_append (keep : Char → Bool) (s t : List Char) :
    encode keep (s ++ t) = encode keep s ++ encode keep t :=
  List.flatMap_append

theorem encode_eq_self {keep : Char → Bool} {s : List Char} (h : ∀ c ∈ s, keep c = true) :
    encode keep s = s := by
  induction s with
  | nil => rfl
  | cons c s ih =>
    rw [encode_cons, if_pos (h c List.mem_cons_self), ih fun d hd => h d (List.mem_cons_of_mem c hd)]
    rfl

theorem encode_eq_self_of_not_mem {keep : Char → Bool} {s : List Char} (h : '%' ∉ encode keep s) :
    encode keep s = s := by
  refine encode_eq_self fun c hc => ?_
  cases hkeep : keep c with
  | true => rfl
  | false =>
    obtain ⟨b, r, hbytes⟩ := List.exists_cons_of_ne_nil (String.utf8EncodeChar_ne_nil (c := c))
    refine absurd (List.mem_flatMap.mpr ⟨c, hc, ?_⟩) h
    simp [hkeep, hbytes, escape]

def KeepsEscapes (keep : Char → Bool) : Prop :=
  keep '%' = true ∧ ∀ n < 16, keep (Hex.upper n) = true

theorem mem_escape {b : UInt8} {c : Char} (h : c ∈ escape b) :
    c = '%' ∨ ∃ n < 16, c = Hex.upper n := by
  have hb := b.toNat_lt
  simp only [escape, List.mem_cons, List.not_mem_nil, or_false] at h
  obtain rfl | rfl | rfl := h
  · exact .inl rfl
  · exact .inr ⟨_, by omega, rfl⟩
  · exact .inr ⟨_, by omega, rfl⟩

theorem mem_encode {keep : Char → Bool} {s : List Char} {c : Char} (h : c ∈ encode keep s) :
    c ∈ s ∧ keep c = true ∨ c = '%' ∨ ∃ n < 16, c = Hex.upper n := by
  obtain ⟨d, hd, hc⟩ := List.mem_flatMap.mp h
  split at hc
  · next hkeep =>
    rw [List.mem_singleton.mp hc]
    exact .inl ⟨hd, hkeep⟩
  · obtain ⟨b, _, hb⟩ := List.mem_flatMap.mp hc
    exact .inr (mem_escape hb)

theorem keeps_of_mem_encode {keep : Char → Bool} (hkeep : KeepsEscapes keep) {s : List Char}
    {c : Char} (h : c ∈ encode keep s) : keep c = true := by
  obtain ⟨_, hc⟩ | rfl | ⟨n, hn, rfl⟩ := mem_encode h
  · exact hc
  · exact hkeep.1
  · exact hkeep.2 n hn

theorem encode_eq_nil {keep : Char → Bool} {s : List Char} (h : encode keep s = []) : s = [] := by
  cases s with
  | nil => rfl
  | cons c s =>
    rw [encode_cons, List.append_eq_nil_iff] at h
    split at h
    · simp at h
    · have hne := String.utf8EncodeChar_ne_nil (c := c)
      cases hb : String.utf8EncodeChar c with
      | nil => exact absurd hb hne
      | cons b r => simp [hb, escape] at h

/-! ## Decoding -/

theorem decode_cons {b : UInt8} (hb : b ≠ 37) (r : List UInt8) :
    decode (b :: r) = b :: decode r := by
  match r with
  | [] => rfl
  | [c] => rfl
  | c :: d :: r => rw [decode, if_neg hb]

theorem decode_percent {c : UInt8} {s : List UInt8} (h : digit? c = none) :
    decode (37 :: c :: s) = 37 :: decode (c :: s) := by
  cases s with
  | nil => rfl
  | cons d s => simp [decode, h]

theorem decode_percent' {c d : UInt8} {s : List UInt8} (h : digit? d = none) :
    decode (37 :: c :: d :: s) = 37 :: decode (c :: d :: s) := by
  rw [decode, if_pos rfl, h]
  split
  · next hd => cases hd
  · rfl

/-- Escapes do not reach across a byte that is no part of one. -/
theorem decode_append {k : UInt8} (hk : k ≠ 37) (hd : digit? k = none) (r s : List UInt8) :
    decode (r ++ k :: s) = decode r ++ k :: decode s := by
  -- An escape takes three bytes at once, so the induction is on the length.
  induction hl : r.length using Nat.strongRecOn generalizing r with
  | ind n ih =>
    match r with
    | [] => exact decode_cons hk s
    | b :: r =>
      simp only [List.length_cons] at hl
      have htail := ih r.length (by omega) r rfl
      by_cases hb : b = 37
      · subst hb
        match r with
        | [] => rw [List.singleton_append, decode_percent hd, decode_cons hk]; rfl
        | [c] =>
          have : decode [(37 : UInt8), c] = 37 :: decode [c] := rfl
          rw [List.cons_append, List.cons_append, List.nil_append, decode_percent' hd, this]
          exact congrArg _ htail
        | c :: d :: r =>
          simp only [List.cons_append] at htail ⊢
          rw [decode, decode, if_pos rfl]
          split
          · simp only [List.length_cons] at hl
            rw [ih r.length (by omega) r rfl]
            rfl
          · rw [htail]
            rfl
      · rw [List.cons_append, decode_cons hb, decode_cons hb, htail]
        rfl

theorem decode_eq_self {bs : List UInt8} (h : ∀ b ∈ bs, b ≠ 37) : decode bs = bs := by
  induction bs with
  | nil => rfl
  | cons b bs ih =>
    rw [decode_cons (h b List.mem_cons_self), ih fun c hc => h c (List.mem_cons_of_mem b hc)]

def digitByte (n : Nat) : UInt8 := UInt8.ofNat (Hex.upper n).toNat

theorem digit?_digitByte {n : Nat} (h : n < 16) : digit? (digitByte n) = some n := by
  have hall : ∀ m : Fin 16, digit? (digitByte m.1) = some m.1 := by decide
  exact hall ⟨n, h⟩

theorem encode_escape (b : UInt8) : Utf8.encode (escape b) =
    [37, digitByte (b.toNat / 16), digitByte (b.toNat % 16)] := by
  have hb := b.toNat_lt
  have hdigit : ∀ n < 16, Utf8.encode [Hex.upper n] = [digitByte n] := by
    have hall : ∀ m : Fin 16, Utf8.encode [Hex.upper m.1] = [digitByte m.1] := by decide
    exact fun n hn => hall ⟨n, hn⟩
  have hcons : escape b =
      ['%'] ++ ([Hex.upper (b.toNat / 16)] ++ [Hex.upper (b.toNat % 16)]) := rfl
  rw [hcons, Utf8.encode_append, Utf8.encode_append, hdigit _ (by omega), hdigit _ (by omega)]
  rfl

theorem decode_escape (b : UInt8) (r : List UInt8) :
    decode (37 :: digitByte (b.toNat / 16) :: digitByte (b.toNat % 16) :: r) = b :: decode r := by
  have hb := b.toNat_lt
  have hvalue : UInt8.ofNat (b.toNat / 16 * 16 + b.toNat % 16) = b := by
    rw [show b.toNat / 16 * 16 + b.toNat % 16 = b.toNat by omega, UInt8.ofNat_toNat]
  rw [decode, if_pos rfl, digit?_digitByte (by omega), digit?_digitByte (by omega)]
  dsimp only
  rw [hvalue]

/-! ## Texts behind encoded texts -/

theorem digit?_ofNat {k : Char} (hk : k.toNat < 128) (h : Hex.value? k = none) :
    digit? (UInt8.ofNat k.toNat) = none := by
  rw [digit?, Utf8.toNat_byte (by omega), Char.ofNat_toNat, h]

theorem ofNat_ne_percent {k : Char} (hk : k.toNat < 128) (h : k ≠ '%') :
    UInt8.ofNat k.toNat ≠ 37 := by
  intro heq
  have := congrArg UInt8.toNat heq
  rw [Utf8.toNat_byte (by omega)] at this
  exact h (Char.toNat_inj.mp this)

theorem decodeText_append {k : Char} (hk : k.toNat < 128) (hp : k ≠ '%')
    (hd : Hex.value? k = none) (a b : List Char) :
    decodeText (a ++ k :: b) = decodeText a ++ k :: decodeText b := by
  rw [decodeText, Utf8.encode_append, Utf8.encode_cons, Utf8.utf8EncodeChar_ascii hk,
    List.singleton_append, decode_append (ofNat_ne_percent hk hp) (digit?_ofNat hk hd),
    Utf8.decode_append_ascii (by rw [Utf8.toNat_byte (by omega)]; exact hk),
    Utf8.toNat_byte (by omega), Char.ofNat_toNat]
  rfl

theorem decodeText_eq_self {s : List Char} (h : '%' ∉ s) : decodeText s = s := by
  rw [decodeText, decode_eq_self, Utf8.decode_encode]
  intro b hb
  obtain ⟨c, hc, hbc⟩ := List.mem_flatMap.mp hb
  by_cases hascii : c.toNat < 128
  · rw [Utf8.utf8EncodeChar_ascii hascii, List.mem_singleton] at hbc
    rw [hbc]
    exact ofNat_ne_percent hascii fun heq => h (heq ▸ hc)
  · have := Utf8.le_of_mem_utf8EncodeChar (by omega) hbc
    intro heq
    rw [heq] at this
    simp at this

end Percent

end ConsentGate.Text
