import ConsentGate.Proofs.Text.Ascii
import ConsentGate.Proofs.Text.Cut
import ConsentGate.Proofs.Text.Percent
import ConsentGate.Text.Form

namespace ConsentGate.Text.Form

/-! ## Pieces of bytes -/

theorem pieces_ne_nil (sep : UInt8) (bs : List UInt8) : pieces sep bs ≠ [] := by
  cases bs with
  | nil => simp [pieces]
  | cons b r =>
    rw [pieces]
    split
    · simp
    · split <;> simp

theorem pieces_eq_singleton {sep : UInt8} {bs : List UInt8} (h : sep ∉ bs) :
    pieces sep bs = [bs] := by
  induction bs with
  | nil => rfl
  | cons b r ih =>
    have hb : b ≠ sep := fun e => h (by simp [e])
    rw [pieces, ih fun hm => h (List.mem_cons_of_mem b hm), if_neg hb]

theorem pieces_append_cons (sep : UInt8) (a b : List UInt8) :
    pieces sep (a ++ sep :: b) = pieces sep a ++ pieces sep b := by
  induction a with
  | nil => simp [pieces]
  | cons c a ih =>
    by_cases hc : c = sep
    · simp [pieces, hc, ih]
    · rw [List.cons_append, pieces, ih, pieces, if_neg hc, if_neg hc]
      cases h : pieces sep a with
      | nil => exact absurd h (pieces_ne_nil sep a)
      | cons w ws => rfl

theorem decodeBytes_append (a b : List UInt8) :
    decodeBytes (a ++ 38 :: b) = decodeBytes a ++ decodeBytes b := by
  simp [decodeBytes, pieces_append_cons]

theorem decodeBytes_eq_singleton {bs : List UInt8} (hne : bs ≠ []) (h : 38 ∉ bs) :
    decodeBytes bs = [decodePair bs] := by
  simp [decodeBytes, pieces_eq_singleton h, hne]

theorem decode_append (a b : List Char) : decode (a ++ '&' :: b) = decode a ++ decode b := by
  rw [decode, Utf8.encode_append, Utf8.encode_cons, Utf8.utf8EncodeChar_ascii (by decide)]
  exact decodeBytes_append _ _

@[simp] theorem decode_nil : decode [] = [] := rfl

theorem decode_intercalate (fields : List (List Char)) :
    decode (['&'].intercalate fields) = fields.flatMap decode := by
  induction fields with
  | nil => rfl
  | cons q fields ih =>
    cases fields with
    | nil => simp
    | cons r fields =>
      rw [List.intercalate_cons_cons, List.append_assoc, List.singleton_append, decode_append, ih]
      rfl

/-! ## One field -/

def isFieldChar (c : Char) : Bool :=
  isPlain c || c == '%' || c == '+'

theorem isPlain_upper {n : Nat} (h : n < 16) : isPlain (Hex.upper n) = true := by
  have : ∀ m : Fin 16, isPlain (Hex.upper m.1) = true := by decide
  exact this ⟨n, h⟩

theorem mem_encodeField {s : List Char} {c : Char} (h : c ∈ encodeField s) :
    isFieldChar c = true := by
  obtain ⟨d, _, hc⟩ := List.mem_flatMap.mp h
  split at hc
  · obtain rfl := List.mem_singleton.mp hc
    decide
  · obtain ⟨_, hplain⟩ | rfl | ⟨n, hn, rfl⟩ := Percent.mem_encode hc
    · simp [isFieldChar, hplain]
    · decide
    · simp [isFieldChar, isPlain_upper hn]

theorem isFieldChar_range {c : Char} (h : isFieldChar c = true) :
    c.toNat < 128 ∧ c.toNat ≠ 38 ∧ c.toNat ≠ 61 := by
  simp only [isFieldChar, isPlain, Bool.or_eq_true, isAlphanum_iff, beq_iff_eq, eq_iff_toNat,
    Char.reduceToNat] at h
  omega

theorem mem_encode_encodeField {s : List Char} {b : UInt8}
    (h : b ∈ Utf8.encode (encodeField s)) : b ≠ 38 ∧ b ≠ 61 := by
  obtain ⟨c, hc, hb⟩ := List.mem_flatMap.mp h
  obtain ⟨hlt, hamp, heq⟩ := isFieldChar_range (mem_encodeField hc)
  rw [Utf8.utf8EncodeChar_ascii hlt, List.mem_singleton] at hb
  have hval : b.toNat = c.toNat := by rw [hb, Utf8.toNat_byte (by omega)]
  constructor
  · rintro rfl
    exact hamp hval.symm
  · rintro rfl
    exact heq hval.symm

def unplus (bs : List UInt8) : List UInt8 :=
  bs.map fun b => if b = 43 then 32 else b

theorem unplus_escape (b : UInt8) :
    unplus (Utf8.encode (Percent.escape b)) = Utf8.encode (Percent.escape b) := by
  have hb := b.toNat_lt
  have hplus : ∀ n < 16, Percent.digitByte n ≠ 43 := by
    have hall : ∀ m : Fin 16, Percent.digitByte m.1 ≠ 43 := by decide
    exact fun n hn => hall ⟨n, hn⟩
  rw [Percent.encode_escape]
  simp [unplus, hplus (b.toNat / 16) (by omega), hplus (b.toNat % 16) (by omega)]

theorem decode_unplus_escape (b : UInt8) (r : List UInt8) :
    Percent.decode (unplus (Utf8.encode (Percent.escape b)) ++ r) = b :: Percent.decode r := by
  rw [unplus_escape, Percent.encode_escape]
  exact Percent.decode_escape b r

theorem decode_unplus_escapes (bs r : List UInt8) :
    Percent.decode (unplus (Utf8.encode (bs.flatMap Percent.escape)) ++ r) =
      bs ++ Percent.decode r := by
  induction bs with
  | nil => rfl
  | cons b bs ih =>
    rw [List.flatMap_cons, Utf8.encode_append, unplus, List.map_append, List.append_assoc,
      ← unplus, ← unplus, decode_unplus_escape, ih, List.cons_append]

theorem decode_unplus_encodeField (s : List Char) :
    Percent.decode (unplus (Utf8.encode (encodeField s))) = Utf8.encode s := by
  induction s with
  | nil => rfl
  | cons c s ih =>
    have hsplit : encodeField (c :: s) =
        (if c = ' ' then ['+'] else Percent.encode isPlain [c]) ++ encodeField s := rfl
    rw [hsplit, Utf8.encode_append, unplus, List.map_append, ← unplus, ← unplus, Utf8.encode_cons,
      ← ih]
    -- A space is written `+`, a plain character as itself, and the bytes of any other one as escapes.
    by_cases hspace : c = ' '
    · subst hspace
      exact Percent.decode_cons (by decide) _
    rw [if_neg hspace, Percent.encode_cons, Percent.encode, List.flatMap_nil, List.append_nil]
    by_cases hplain : isPlain c = true
    · have hrange : c.toNat < 128 ∧ c.toNat ≠ 37 ∧ c.toNat ≠ 43 := by
        simp only [isPlain, Bool.or_eq_true, isAlphanum_iff, beq_iff_eq, eq_iff_toNat,
          Char.reduceToNat] at hplain
        omega
      have hval : (UInt8.ofNat c.toNat).toNat = c.toNat := Utf8.toNat_byte (by omega)
      have hplus : UInt8.ofNat c.toNat ≠ 43 := fun e => hrange.2.2 (by rw [← hval, e]; rfl)
      have hpercent : UInt8.ofNat c.toNat ≠ 37 := fun e => hrange.2.1 (by rw [← hval, e]; rfl)
      rw [if_pos hplain, Utf8.encode_cons, Utf8.utf8EncodeChar_ascii hrange.1]
      simp only [Utf8.encode, List.flatMap_nil, List.append_nil]
      simp only [unplus, List.map_cons, List.map_nil, if_neg hplus, List.cons_append,
        List.nil_append]
      rw [Percent.decode_cons hpercent]
    · rw [if_neg hplain]
      exact decode_unplus_escapes _ _

theorem decodeField_encodeField (s : String) :
    decodeField (Utf8.encode (encodeField s.toList)) = s := by
  rw [decodeField, ← unplus, decode_unplus_encodeField, Utf8.decode_encode, String.ofList_toList]

/-! ## Pairs -/

theorem decodePair_append {a : List UInt8} (h : 61 ∉ a) (b : List UInt8) :
    decodePair (a ++ 61 :: b) = (decodeField a, decodeField b) := by
  have ha : ∀ x ∈ a, (x != 61) = true := fun x hx => bne_iff_ne.mpr fun e => h (e ▸ hx)
  rw [decodePair, List.takeWhile_append_of_pos ha, List.dropWhile_append_of_pos ha]
  simp

theorem encode_encodePair (p : Pair) : Utf8.encode (encodePair p) =
    Utf8.encode (encodeField p.1.toList) ++ 61 :: Utf8.encode (encodeField p.2.toList) := by
  rw [encodePair, Utf8.encode_append, Utf8.encode_cons, Utf8.utf8EncodeChar_ascii (by decide)]
  rfl

theorem decode_encodePair (p : Pair) : decode (encodePair p) = [p] := by
  have hamp : 38 ∉ Utf8.encode (encodePair p) := by
    rw [encode_encodePair]
    intro hm
    obtain hm | hm := List.mem_append.mp hm
    · exact (mem_encode_encodeField hm).1 rfl
    · obtain hm | hm := List.mem_cons.mp hm
      · cases hm
      · exact (mem_encode_encodeField hm).1 rfl
  have hne : Utf8.encode (encodePair p) ≠ [] := by simp [encode_encodePair]
  rw [decode, decodeBytes_eq_singleton hne hamp, encode_encodePair,
    decodePair_append fun hm => (mem_encode_encodeField hm).2 rfl, decodeField_encodeField,
    decodeField_encodeField]

theorem encode_cons {ps : List Pair} (h : ps ≠ []) (p : Pair) :
    encode (p :: ps) = encodePair p ++ '&' :: encode ps := by
  rw [encode, List.map_cons, List.intercalate_cons_of_ne_nil (by simpa using h),
    List.append_assoc, List.singleton_append]
  rfl

theorem encode_singleton (p : Pair) : encode [p] = encodePair p := by simp [encode]

theorem decode_encode (ps : List Pair) : decode (encode ps) = ps := by
  induction ps with
  | nil => rfl
  | cons p ps ih =>
    cases ps with
    | nil => rw [encode_singleton, decode_encodePair]
    | cons q qs =>
      rw [encode_cons (List.cons_ne_nil q qs), decode_append, decode_encodePair, ih,
        List.singleton_append]

theorem mem_encode {ps : List Pair} {c : Char} (h : c ∈ encode ps) :
    isFieldChar c = true ∨ c = '=' ∨ c = '&' := by
  have hpair : ∀ p : Pair, c ∈ encodePair p → isFieldChar c = true ∨ c = '=' ∨ c = '&' := by
    intro p hc
    obtain hc | hc := List.mem_append.mp hc
    · exact .inl (mem_encodeField hc)
    · obtain rfl | hc := List.mem_cons.mp hc
      · exact .inr (.inl rfl)
      · exact .inl (mem_encodeField hc)
  induction ps with
  | nil => simp [encode] at h
  | cons p ps ih =>
    cases ps with
    | nil => exact hpair p (encode_singleton p ▸ h)
    | cons q qs =>
      rw [encode_cons (List.cons_ne_nil q qs)] at h
      obtain h | h := List.mem_append.mp h
      · exact hpair p h
      · obtain rfl | h := List.mem_cons.mp h
        · exact .inr (.inr rfl)
        · exact ih h

end ConsentGate.Text.Form
