import ConsentGate.Idna.Label
import ConsentGate.Proofs.Collection.Reading
import ConsentGate.Proofs.Text.Cut
import ConsentGate.Proofs.Unicode.Normal

namespace ConsentGate.Idna

open Unicode

/-! ## Prepared texts -/

theorem isUpper_of_mapChar? {c : Char} {l : List Char} (h : mapChar? c = some l) :
    ∀ d ∈ l, d.isUpper = false := by
  unfold mapChar? at h
  split at h
  · obtain rfl := Option.some.inj h
    intro d hd
    obtain rfl := List.mem_singleton.mp hd
    exact Text.isUpper_toLower c
  next hc =>
  have hu : c.isUpper = false := isUpper_eq_false_of_not_isAscii (by simpa using hc)
  split at h
  · simp at h
  split at h
  · obtain rfl := Option.some.inj h
    simp
  split at h
  · next row hrow =>
    obtain ⟨hm, hlow, hhigh⟩ := Table.row?_spec hrow
    have hr := List.all_eq_true.mp mappingTable_lowers row hm
    unfold Row.lowers at hr
    split at h
    · next d hd =>
      obtain rfl := Option.some.inj h
      rw [hd] at hr
      simp only [Bool.or_eq_true, decide_eq_true_eq] at hr
      simpa using isUpper_ofNat (by omega)
    · next hd =>
      obtain rfl := Option.some.inj h
      split at hr
      · next d hd' => exact absurd hd' (hd d)
      · simpa using hr
  · obtain rfl := Option.some.inj h
    simpa using hu

theorem prepare?_append_cons {k : Char} (hk : isInert k = true) (hu : k.isUpper = false)
    {a b t : List Char} (h : prepare? (a ++ k :: b) = some t) :
    ∃ ta tb, prepare? a = some ta ∧ prepare? b = some tb ∧ t = ta ++ k :: tb := by
  obtain ⟨l, hl, rfl⟩ := Option.map_eq_some_iff.mp h
  rw [← List.singleton_append] at hl
  obtain ⟨la, lr, hla, hlr, rfl⟩ := mapM_append_some hl
  obtain ⟨lk, lb, hlk, hlb, rfl⟩ := mapM_append_some hlr
  have hmk : mapChar? k = some [k] := by
    rw [mapChar?, if_pos (isInert_isAscii hk), Text.toLower_eq_self hu]
  obtain rfl : lk = [[k]] := by simpa [hmk] using hlk.symm
  refine ⟨normalize la.flatten, normalize lb.flatten, by simp [prepare?, hla],
    by simp [prepare?, hlb], ?_⟩
  simp only [List.flatten_append, List.flatten_cons, List.singleton_append]
  exact normalize_append_cons hk _ _

theorem isUpper_of_mem_prepare? {s t : List Char} (h : prepare? s = some t) :
    ∀ c ∈ t, c.isUpper = false := by
  obtain ⟨l, hl, rfl⟩ := Option.map_eq_some_iff.mp h
  clear h
  apply isUpper_of_mem_normalize
  induction s generalizing l with
  | nil =>
    obtain rfl : l = [] := by simpa using hl.symm
    simp
  | cons c r ih =>
    rw [← List.singleton_append] at hl
    obtain ⟨lc, lr, hlc, hlr, rfl⟩ := mapM_append_some hl
    cases hc : mapChar? c with
    | none => simp [hc] at hlc
    | some m =>
      obtain rfl : lc = [m] := by simpa [hc] using hlc.symm
      intro d hd
      rw [List.flatten_append, List.flatten_singleton, List.mem_append] at hd
      obtain hd | hd := hd
      · exact isUpper_of_mapChar? hc d hd
      · exact ih lr hlr d hd

theorem prepare?_eq_self {s : List Char} (ha : s.all isAscii = true)
    (hu : ∀ c ∈ s, c.isUpper = false) : prepare? s = some s := by
  have hm : s.mapM mapChar? = some (s.map ([·])) := by
    induction s with
    | nil => rfl
    | cons c r ih =>
      simp only [List.all_cons, Bool.and_eq_true] at ha
      have hr := ih ha.2 fun d hd => hu d (List.mem_cons_of_mem c hd)
      simp [mapChar?, ha.1, Text.toLower_eq_self (hu c List.mem_cons_self), hr]
  have hf : (s.map ([·])).flatten = s := by
    rw [← List.flatMap_def, List.flatMap_singleton']
  rw [prepare?, hm, Option.map_some, hf, Unicode.normalize, if_pos ha]

/-! ## Punycode -/

namespace Punycode

theorem threshold_le (k bias : Nat) : threshold k bias ≤ 26 := by
  unfold threshold
  grind

theorem mem_encodeDelta {bias k q : Nat} {c : Char} (h : c ∈ encodeDelta bias k q) :
    ∃ n < 36, c = digit n := by
  induction q using Nat.strongRecOn generalizing k with
  | ind q ih =>
    have ht := threshold_le k bias
    have hp := threshold_pos k bias
    rw [encodeDelta] at h
    split at h
    · exact ⟨q, by omega, by simpa using h⟩
    · next hq =>
      obtain rfl | h := List.mem_cons.mp h
      · have hm := Nat.mod_lt (q - threshold k bias) (show 0 < 36 - threshold k bias by omega)
        exact ⟨_, by omega, rfl⟩
      · have hd := Nat.div_le_self (q - threshold k bias) (36 - threshold k bias)
        exact ih _ (by omega) h

theorem mem_insertions {basic m : Nat} {p : Progress} {s : List Char} {c : Char}
    (h : c ∈ (insertions basic m p s).1) : ∃ n < 36, c = digit n := by
  induction s generalizing p with
  | nil => simp [insertions] at h
  | cons d r ih =>
    rw [insertions] at h
    split at h
    · exact ih h
    · split at h
      · obtain h | h := List.mem_append.mp h
        · exact mem_encodeDelta h
        · exact ih h
      · exact ih h

theorem mem_encodeValues {s : List Char} {basic n : Nat} {p : Progress} {ms : List Nat} {c : Char}
    (h : c ∈ encodeValues s basic n p ms) : ∃ n < 36, c = digit n := by
  induction ms generalizing n p with
  | nil => simp [encodeValues] at h
  | cons m ms ih =>
    rw [encodeValues] at h
    obtain h | h := List.mem_append.mp h
    · exact mem_insertions h
    · exact ih h

theorem digit_spec {n : Nat} (h : n < 36) :
    isAscii (digit n) = true ∧ (digit n).isUpper = false ∧ digit n ≠ '.' := by
  have : ∀ m : Fin 36, isAscii (digit m.1) = true ∧ (digit m.1).isUpper = false ∧
      digit m.1 ≠ '.' := by decide
  exact this ⟨n, h⟩

theorem mem_encode {s : List Char} (hu : ∀ c ∈ s, c.isUpper = false) (hp : '.' ∉ s) :
    ∀ c ∈ encode s, isAscii c = true ∧ c.isUpper = false ∧ c ≠ '.' := by
  intro c hc
  simp only [encode, List.append_assoc, List.mem_append] at hc
  obtain hc | hc | hc := hc
  · obtain ⟨hm, ha⟩ := List.mem_filter.mp hc
    exact ⟨ha, hu c hm, fun e => hp (e ▸ hm)⟩
  · split at hc
    · simp at hc
    · obtain rfl : c = '-' := by simpa using hc
      decide
  · obtain ⟨n, hn, rfl⟩ := mem_encodeValues hc
    exact digit_spec hn

end Punycode

/-! ## Labels -/

/-- Tells the labels that are short enough to be read if they carry the mark of the ASCII form. -/
def isReadable (s : List Char) : Bool :=
  match afterMark? s with
  | some r => decide (r.length ≤ 2000)
  | none => true

theorem Label.read?_spec {s : List Char} {l : Label} (h : Label.read? s = some l) :
    (l.ascii = s ∧ s.all isAscii = true) ∨
      (l = ⟨s, 'x' :: 'n' :: '-' :: '-' :: Punycode.encode s⟩ ∧ isInternational s = true ∧
        Punycode.decode? (Punycode.encode s) = some s) := by
  unfold Label.read? at h
  split at h
  · next r hr =>
    split at h
    · next hc =>
      split at h
      · next u hu =>
        split at h
        · obtain rfl := Option.some.inj h
          refine .inl ⟨rfl, ?_⟩
          simp only [Bool.and_eq_true] at hc
          unfold afterMark? at hr
          split at hr
          · obtain rfl := Option.some.inj hr
            simpa [isAscii] using hc.2
          · simp at hr
        · simp at h
      · simp at h
    · simp at h
  · split at h
    · next ha =>
      obtain rfl := Option.some.inj h
      exact .inl ⟨rfl, ha⟩
    · split at h
      · next hc =>
        obtain rfl := Option.some.inj h
        simp only [Bool.and_eq_true, beq_iff_eq] at hc
        exact .inr ⟨rfl, hc⟩
      · simp at h

theorem Label.read?_ascii {s : List Char} {l : Label} (h : Label.read? s = some l)
    (ha : l.ascii.all isAscii = true) (hr : isReadable l.ascii = true) :
    Label.read? l.ascii = some l := by
  obtain ⟨he, _⟩ | ⟨rfl, hi, hd⟩ := Label.read?_spec h
  · rwa [he]
  · have hm : afterMark? ('x' :: 'n' :: '-' :: '-' :: Punycode.encode s) =
        some (Punycode.encode s) := rfl
    simp only [isReadable, hm, decide_eq_true_eq] at hr
    have hall : (Punycode.encode s).all isAscii = true := by simpa [isAscii] using ha
    simp [Label.read?, hm, hr, hall, hd, hi]

theorem Label.read?_eq_none {s : List Char} (h : isReadable s = false) : Label.read? s = none := by
  unfold isReadable at h
  split at h
  · next r hr =>
    have hl : ¬ r.length ≤ 2000 := by simpa using h
    simp [Label.read?, hr, hl]
  · simp at h

theorem Label.mem_ascii {s : List Char} {l : Label} (h : Label.read? s = some l)
    (hu : ∀ c ∈ s, c.isUpper = false) (hp : '.' ∉ s) :
    ∀ c ∈ l.ascii, isAscii c = true ∧ c.isUpper = false ∧ c ≠ '.' := by
  obtain ⟨he, ha⟩ | ⟨rfl, _, _⟩ := Label.read?_spec h
  · intro c hc
    rw [he] at hc
    exact ⟨List.all_eq_true.mp ha c hc, hu c hc, fun e => hp (e ▸ hc)⟩
  · intro c hc
    simp only [List.mem_cons] at hc
    obtain rfl | rfl | rfl | rfl | hc := hc
    iterate 4 decide
    exact Punycode.mem_encode hu hp c hc

end ConsentGate.Idna
