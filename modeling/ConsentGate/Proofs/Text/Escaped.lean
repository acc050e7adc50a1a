import ConsentGate.Proofs.Text.Form

namespace ConsentGate.Text

/-- Tells the bytes with a meaning in form text: those of `%`, `&`, `+`, `=` and of hexadecimal digits. -/
def isFormMark (b : UInt8) : Bool :=
  b == 37 || b == 38 || b == 43 || b == 61 || (Percent.digit? b).isSome

/-- Tells bytes, and the same bytes with some of those escaped that have no meaning in form text. -/
inductive Escaped : List UInt8 → List UInt8 → Prop
  | nil : Escaped [] []
  | same (b : UInt8) {bs cs : List UInt8} (h : Escaped bs cs) : Escaped (b :: bs) (b :: cs)
  | escape {b : UInt8} {bs cs : List UInt8} (hb : isFormMark b = false) (h : Escaped bs cs) :
    Escaped (b :: bs)
      (37 :: Percent.digitByte (b.toNat / 16) :: Percent.digitByte (b.toNat % 16) :: cs)

namespace Escaped

variable {bs cs : List UInt8} {b : UInt8}

theorem ne_of_isFormMark (hb : isFormMark b = false) :
    (b ≠ 37 ∧ b ≠ 38 ∧ b ≠ 43 ∧ b ≠ 61) ∧ Percent.digit? b = none := by
  simpa [isFormMark, and_assoc] using hb

theorem digitByte_ne {n : Nat} (h : n < 16) :
    Percent.digitByte n ≠ 38 ∧ Percent.digitByte n ≠ 43 ∧ Percent.digitByte n ≠ 61 := by
  have hall : ∀ m : Fin 16, Percent.digitByte m.1 ≠ 38 ∧ Percent.digitByte m.1 ≠ 43 ∧
      Percent.digitByte m.1 ≠ 61 := by decide
  exact hall ⟨n, h⟩

theorem digits_ne (b : UInt8) :
    (Percent.digitByte (b.toNat / 16) ≠ 38 ∧ Percent.digitByte (b.toNat / 16) ≠ 43 ∧
      Percent.digitByte (b.toNat / 16) ≠ 61) ∧
    (Percent.digitByte (b.toNat % 16) ≠ 38 ∧ Percent.digitByte (b.toNat % 16) ≠ 43 ∧
      Percent.digitByte (b.toNat % 16) ≠ 61) := by
  have hb := b.toNat_lt
  exact ⟨digitByte_ne (by omega), digitByte_ne (by omega)⟩

/-! ## Reading -/

theorem decode_eq (h : Escaped bs cs) : Percent.decode cs = Percent.decode bs := by
  -- An escape takes three bytes at once, so the induction is on the length.
  induction hl : bs.length using Nat.strongRecOn generalizing bs cs with
  | ind n ih =>
    have hpercent : Percent.digit? 37 = none := by decide
    cases h with
    | nil => rfl
    | @escape b bs cs hb h =>
      have hrest := ih bs.length (by simp at hl; omega) h rfl
      rw [Percent.decode_escape, Percent.decode_cons (ne_of_isFormMark hb).1.1, hrest]
    | @same b bs cs h =>
      have hrest := ih bs.length (by simp at hl; omega) h rfl
      by_cases hb : b = 37
      · subst hb
        cases h with
        | nil => rfl
        | @escape c _ _ hc _ =>
          rw [Percent.decode_percent hpercent, Percent.decode_percent (ne_of_isFormMark hc).2, hrest]
        | @same c bs cs h =>
          cases h with
          | nil => rfl
          | @escape d _ _ hd _ =>
            rw [Percent.decode_percent' hpercent, Percent.decode_percent' (ne_of_isFormMark hd).2, hrest]
          | @same d bs cs h =>
            have hbehind := ih bs.length (by simp at hl; omega) h rfl
            rw [Percent.decode, Percent.decode, hrest, hbehind]
      · rw [Percent.decode_cons hb, Percent.decode_cons hb, hrest]

theorem unplus (h : Escaped bs cs) : Escaped (Form.unplus bs) (Form.unplus cs) := by
  induction h with
  | nil => exact .nil
  | same b h ih => exact .same _ ih
  | @escape b bs cs hb h ih =>
    obtain ⟨⟨_, hhigh, _⟩, ⟨_, hlow, _⟩⟩ := digits_ne b
    obtain ⟨⟨_, _, hplus, _⟩, _⟩ := ne_of_isFormMark hb
    simp only [Form.unplus, List.map_cons] at ih ⊢
    rw [if_neg hplus, if_neg (by decide), if_neg hhigh, if_neg hlow]
    exact .escape hb ih

theorem decodeField_eq (h : Escaped bs cs) : Form.decodeField cs = Form.decodeField bs := by
  have hdecode : Percent.decode (Form.unplus cs) = Percent.decode (Form.unplus bs) := h.unplus.decode_eq
  exact congrArg (String.ofList ∘ Utf8.decode) hdecode

/-! ## Cutting -/

theorem atEquals (h : Escaped bs cs) :
    Escaped (bs.takeWhile (· != 61)) (cs.takeWhile (· != 61)) ∧
      Escaped ((bs.dropWhile (· != 61)).drop 1) ((cs.dropWhile (· != 61)).drop 1) := by
  induction h with
  | nil => exact ⟨.nil, .nil⟩
  | @same b bs cs h ih =>
    by_cases hb : b = 61
    · simp only [hb, bne_self_eq_false, Bool.false_eq_true, not_false_eq_true,
        List.takeWhile_cons_of_neg, List.dropWhile_cons_of_neg, List.drop_succ_cons, List.drop_zero]
      exact ⟨.nil, h⟩
    · have hne : (b != 61) = true := bne_iff_ne.mpr hb
      simp only [hne, List.takeWhile_cons_of_pos, List.dropWhile_cons_of_pos]
      exact ⟨.same b ih.1, ih.2⟩
  | @escape b bs cs hb h ih =>
    obtain ⟨⟨_, _, hhigh⟩, ⟨_, _, hlow⟩⟩ := digits_ne b
    obtain ⟨⟨_, _, _, hequals⟩, _⟩ := ne_of_isFormMark hb
    have hne : ∀ {c : UInt8}, c ≠ 61 → (c != 61) = true := bne_iff_ne.mpr
    simp only [hne hequals, hne (show (37 : UInt8) ≠ 61 by decide), hne hhigh, hne hlow,
      List.takeWhile_cons_of_pos, List.dropWhile_cons_of_pos]
    exact ⟨.escape hb ih.1, ih.2⟩

theorem decodePair_eq (h : Escaped bs cs) : Form.decodePair cs = Form.decodePair bs := by
  obtain ⟨hname, hvalue⟩ := h.atEquals
  rw [Form.decodePair, Form.decodePair, hname.decodeField_eq, hvalue.decodeField_eq]

theorem isEmpty_eq (h : Escaped bs cs) : cs.isEmpty = bs.isEmpty := by
  cases h <;> rfl

theorem pieces_cons_of_ne {sep : UInt8} (hb : b ≠ sep) {w : List UInt8} {ws : List (List UInt8)}
    (h : Form.pieces sep bs = w :: ws) : Form.pieces sep (b :: bs) = (b :: w) :: ws := by
  rw [Form.pieces, if_neg hb, h]

theorem pieces (h : Escaped bs cs) :
    List.Forall₂ Escaped (Form.pieces 38 bs) (Form.pieces 38 cs) := by
  induction h with
  | nil => exact .cons .nil .nil
  | @same b bs cs h ih =>
    by_cases hb : b = 38
    · rw [Form.pieces, Form.pieces, if_pos hb, if_pos hb]
      exact .cons .nil ih
    · generalize hv : Form.pieces 38 bs = v at ih
      generalize hw : Form.pieces 38 cs = w at ih
      cases ih with
      | nil => exact absurd hv (Form.pieces_ne_nil 38 bs)
      | cons hfirst hrest =>
        rw [pieces_cons_of_ne hb hv, pieces_cons_of_ne hb hw]
        exact .cons (.same b hfirst) hrest
  | @escape b bs cs hb h ih =>
    obtain ⟨⟨hhigh, _⟩, ⟨hlow, _⟩⟩ := digits_ne b
    obtain ⟨⟨_, hamp, _⟩, _⟩ := ne_of_isFormMark hb
    generalize hv : Form.pieces 38 bs = v at ih
    generalize hw : Form.pieces 38 cs = w at ih
    cases ih with
    | nil => exact absurd hv (Form.pieces_ne_nil 38 bs)
    | cons hfirst hrest =>
      rw [pieces_cons_of_ne hamp hv, pieces_cons_of_ne (by decide)
        (pieces_cons_of_ne hhigh (pieces_cons_of_ne hlow hw))]
      exact .cons (.escape hb hfirst) hrest

theorem decodeBytes_eq (h : Escaped bs cs) : Form.decodeBytes cs = Form.decodeBytes bs := by
  rw [Form.decodeBytes, Form.decodeBytes]
  have hpieces := h.pieces
  generalize Form.pieces 38 bs = v at hpieces
  generalize Form.pieces 38 cs = w at hpieces
  induction hpieces with
  | nil => rfl
  | cons hfirst _ ih =>
    rw [List.filter_cons, List.filter_cons, hfirst.isEmpty_eq]
    split
    · rw [List.map_cons, List.map_cons, ih, hfirst.decodePair_eq]
    · exact ih

/-! ## Encoding -/

theorem append {ds es : List UInt8} (h : Escaped bs cs) (h' : Escaped ds es) :
    Escaped (bs ++ ds) (cs ++ es) := by
  induction h with
  | nil => exact h'
  | same b _ ih => exact .same b ih
  | escape hb _ ih => exact .escape hb ih

theorem refl (bs : List UInt8) : Escaped bs bs := by
  induction bs with
  | nil => exact .nil
  | cons b bs ih => exact .same b ih

theorem of_escapes (h : ∀ b ∈ bs, isFormMark b = false) :
    Escaped bs (Utf8.encode (bs.flatMap Percent.escape)) := by
  induction bs with
  | nil => exact .nil
  | cons b bs ih =>
    obtain ⟨hb, hrest⟩ := List.forall_mem_cons.mp h
    rw [List.flatMap_cons, Utf8.encode_append, Percent.encode_escape]
    exact .escape hb (ih hrest)

theorem isFormMark_of_le (h : 128 ≤ b.toNat) : isFormMark b = false := by
  have hall : ∀ n : Fin 256, 128 ≤ n.1 → isFormMark (UInt8.ofNat n.1) = false := by
    decide +kernel
  have hb := hall ⟨b.toNat, b.toNat_lt⟩ h
  rwa [UInt8.ofNat_toNat] at hb

theorem of_encode {keep : Char → Bool}
    (hkeep : ∀ c : Char, c.toNat < 128 → keep c = false → isFormMark (UInt8.ofNat c.toNat) = false)
    (s : List Char) : Escaped (Utf8.encode s) (Utf8.encode (Percent.encode keep s)) := by
  induction s with
  | nil => exact .nil
  | cons c s ih =>
    rw [Utf8.encode_cons, Percent.encode_cons, Utf8.encode_append]
    refine append ?_ ih
    cases hc : keep c with
    | true =>
      rw [if_pos rfl, Utf8.encode_cons, show Utf8.encode [] = [] from rfl, List.append_nil]
      exact refl _
    | false =>
      rw [if_neg (by decide)]
      refine of_escapes fun b hb => ?_
      by_cases hascii : c.toNat < 128
      · rw [Utf8.utf8EncodeChar_ascii hascii, List.mem_singleton] at hb
        exact hb ▸ hkeep c hascii hc
      · exact isFormMark_of_le (Utf8.le_of_mem_utf8EncodeChar (by omega) hb)

end Escaped

namespace Form

theorem decode_percentEncode {keep : Char → Bool}
    (hkeep : ∀ c : Char, c.toNat < 128 → keep c = false → isFormMark (UInt8.ofNat c.toNat) = false)
    (s : List Char) : decode (Percent.encode keep s) = decode s :=
  (Escaped.of_encode hkeep s).decodeBytes_eq

end Form

end ConsentGate.Text
