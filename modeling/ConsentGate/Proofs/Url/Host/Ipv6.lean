import ConsentGate.Proofs.Collection.Reading
import ConsentGate.Proofs.Text.Ascii
import ConsentGate.Proofs.Text.Cut
import ConsentGate.Proofs.Text.Digits
import ConsentGate.Url.Host.Ipv6

namespace ConsentGate.Ipv6

open Text

/-! ## What an address is made of -/

def isAddressChar (c : Char) : Bool :=
  Hex.isDigit c || c == ':' || c == '.'

theorem isDigit_of_isDigit {c : Char} (h : c.isDigit = true) : Hex.isDigit c = true := by
  have hc := isDigit_iff.mp h
  have hrange : '0' ≤ c ∧ c ≤ '9' := by
    simp only [Char.le_def, UInt32.le_iff_toNat_le]
    exact hc
  simp [Hex.isDigit, Hex.value?, hrange]

theorem isDigit_of_group? {s : List Char} {n : Nat} (h : group? s = some n) :
    ∀ c ∈ s, Hex.isDigit c = true := by
  unfold group? at h
  split at h
  · cases h
  · exact Hex.isDigit_of_number? h

theorem isAddressChar_of_strictBytes? {s : List Char} {ns : List Nat}
    (h : Ipv4.strictBytes? s = some ns) : ∀ c ∈ s, isAddressChar c = true := by
  simp only [Ipv4.strictBytes?, Option.bind_eq_bind, Option.bind_eq_some_iff] at h
  obtain ⟨ms, hms, _⟩ := h
  intro c hc
  by_cases hp : c = '.'
  · simp [isAddressChar, hp]
  obtain ⟨w, hw, hcw⟩ := exists_mem_pieces (p := (· == '.')) hc (by simpa using hp)
  obtain ⟨n, _, hn⟩ := mem_of_mapM hms hw
  unfold Ipv4.strictNumber? at hn
  split at hn
  · cases hn
  next hstrict =>
  simp only [Bool.or_eq_true, Bool.not_eq_true', not_or, Bool.not_eq_false] at hstrict
  have hd := List.all_eq_true.mp hstrict.1.1.2 c hcw
  simp [isAddressChar, isDigit_of_isDigit hd]

theorem isAddressChar_of_lastPiece? {s : List Char} {ns : List Nat}
    (h : lastPiece? s = some ns) : ∀ c ∈ s, isAddressChar c = true := by
  unfold lastPiece? at h
  split at h
  · simp only [Option.bind_eq_bind, Option.bind_eq_some_iff] at h
    obtain ⟨ms, hms, _⟩ := h
    exact isAddressChar_of_strictBytes? hms
  · obtain ⟨n, hn, _⟩ := Option.map_eq_some_iff.mp h
    intro c hc
    simp [isAddressChar, isDigit_of_group? hn c hc]

theorem isAddressChar_of_groupsOf? {ps : List (List Char)} {ns : List Nat}
    (h : groupsOf? ps = some ns) : ∀ w ∈ ps, ∀ c ∈ w, isAddressChar c = true := by
  induction ps generalizing ns with
  | nil => simp
  | cons s r ih =>
    cases r with
    | nil =>
      intro w hw
      rw [List.mem_singleton.mp hw]
      exact isAddressChar_of_lastPiece? h
    | cons t r =>
      simp only [groupsOf?, Option.bind_eq_bind, Option.bind_eq_some_iff] at h
      obtain ⟨n, hn, ms, hms, _⟩ := h
      intro w hw c hc
      obtain rfl | hw := List.mem_cons.mp hw
      · simp [isAddressChar, isDigit_of_group? hn c hc]
      · exact ih hms w hw c hc

theorem isAddressChar_of_pieces {s : List Char}
    (h : ∀ w ∈ pieces (· == ':') s, ∀ c ∈ w, isAddressChar c = true) :
    ∀ c ∈ s, isAddressChar c = true := by
  intro c hc
  by_cases hp : c = ':'
  · simp [isAddressChar, hp]
  · obtain ⟨w, hw, hcw⟩ := exists_mem_pieces (p := (· == ':')) hc (by simpa using hp)
    exact h w hw c hcw

theorem isAddressChar_of_side? {read : List (List Char) → Option (List Nat)} {s : List Char}
    {ns : List Nat} (h : side? read s = some ns)
    (hread : ∀ ps ns, read ps = some ns → ∀ w ∈ ps, ∀ c ∈ w, isAddressChar c = true) :
    ∀ c ∈ s, isAddressChar c = true := by
  unfold side? at h
  split at h
  · next hempty =>
    rw [List.isEmpty_iff.mp hempty]
    simp
  · exact isAddressChar_of_pieces (hread _ _ h)

theorem isAddressChar_of_mapM {ps : List (List Char)} {ns : List Nat}
    (h : ps.mapM group? = some ns) : ∀ w ∈ ps, ∀ c ∈ w, isAddressChar c = true := by
  intro w hw c hc
  obtain ⟨n, _, hn⟩ := mem_of_mapM h hw
  simp [isAddressChar, isDigit_of_group? hn c hc]

theorem isAddressChar_of_parse? {s : List Char} {ns : List Nat} (h : parse? s = some ns) :
    ∀ c ∈ s, isAddressChar c = true := by
  unfold parse? at h
  split at h
  · simp only [Option.bind_eq_bind, Option.bind_eq_some_iff] at h
    obtain ⟨ms, hms, _⟩ := h
    exact isAddressChar_of_pieces (isAddressChar_of_groupsOf? hms)
  · next l r hcut =>
    simp only [Option.bind_eq_bind, Option.bind_eq_some_iff] at h
    obtain ⟨ls, hls, rs, hrs, _⟩ := h
    obtain rfl := cutOn?_spec hcut
    intro c hc
    simp only [List.mem_append, List.mem_cons, List.not_mem_nil, or_false] at hc
    obtain (hc | hc | hc) | hc := hc
    · exact isAddressChar_of_side? hls (fun _ _ => isAddressChar_of_mapM) c hc
    · rw [hc]
      decide
    · rw [hc]
      decide
    · exact isAddressChar_of_side? hrs (fun _ _ => isAddressChar_of_groupsOf?) c hc

/-! ## Eight groups of sixteen bits -/

theorem lt_of_group? {s : List Char} {n : Nat} (h : group? s = some n) : n < 65536 := by
  unfold group? at h
  split at h
  · cases h
  next hlength =>
  have hlt := Hex.number?_lt h
  simp only [Bool.or_eq_true, decide_eq_true_eq, not_or, Nat.not_lt] at hlength
  have hle : 16 ^ s.length ≤ 16 ^ 4 := Nat.pow_le_pow_right (by omega) hlength.2
  omega

theorem lt_of_strictBytes? {s : List Char} {ns : List Nat} (h : Ipv4.strictBytes? s = some ns) :
    ∀ n ∈ ns, n < 256 := by
  simp only [Ipv4.strictBytes?, Option.bind_eq_bind, Option.bind_eq_some_iff] at h
  obtain ⟨ms, hms, h⟩ := h
  split at h
  · obtain rfl := Option.some.inj h
    intro n hn
    obtain ⟨w, _, hw⟩ := mem_of_mem_mapM hms hn
    unfold Ipv4.strictNumber? at hw
    split at hw
    · cases hw
    dsimp only at hw
    split at hw
    · rw [Option.some.injEq] at hw
      omega
    · cases hw
  · cases h

theorem lt_of_lastPiece? {s : List Char} {ns : List Nat} (h : lastPiece? s = some ns) :
    ∀ n ∈ ns, n < 65536 := by
  unfold lastPiece? at h
  split at h
  · simp only [Option.bind_eq_bind, Option.bind_eq_some_iff] at h
    obtain ⟨ms, hms, h⟩ := h
    have hlt := lt_of_strictBytes? hms
    split at h
    · next a b c d =>
      obtain rfl := Option.some.inj h
      have := hlt a (by simp)
      have := hlt b (by simp)
      have := hlt c (by simp)
      have := hlt d (by simp)
      intro n hn
      simp only [List.mem_cons, List.not_mem_nil, or_false] at hn
      omega
    · cases h
  · obtain ⟨n, hn, rfl⟩ := Option.map_eq_some_iff.mp h
    simpa using lt_of_group? hn

theorem lt_of_groupsOf? {ps : List (List Char)} {ns : List Nat} (h : groupsOf? ps = some ns) :
    ∀ n ∈ ns, n < 65536 := by
  induction ps generalizing ns with
  | nil =>
    obtain rfl := Option.some.inj h
    simp
  | cons s r ih =>
    cases r with
    | nil => exact lt_of_lastPiece? h
    | cons t r =>
      simp only [groupsOf?, Option.bind_eq_bind, Option.bind_eq_some_iff, Option.pure_def,
        Option.some.injEq] at h
      obtain ⟨m, hm, ms, hms, rfl⟩ := h
      intro n hn
      obtain rfl | hn := List.mem_cons.mp hn
      · exact lt_of_group? hm
      · exact ih hms n hn

theorem lt_of_side? {read : List (List Char) → Option (List Nat)} {s : List Char} {ns : List Nat}
    (h : side? read s = some ns) (hread : ∀ ps ns, read ps = some ns → ∀ n ∈ ns, n < 65536) :
    ∀ n ∈ ns, n < 65536 := by
  unfold side? at h
  split at h
  · obtain rfl := Option.some.inj h
    simp
  · exact hread _ _ h

theorem parse?_spec {s : List Char} {ns : List Nat} (h : parse? s = some ns) :
    ns.length = 8 ∧ ∀ n ∈ ns, n < 65536 := by
  unfold parse? at h
  split at h
  · simp only [Option.bind_eq_bind, Option.bind_eq_some_iff] at h
    obtain ⟨ms, hms, h⟩ := h
    split at h
    · next hlength =>
      obtain rfl := Option.some.inj h
      exact ⟨hlength, lt_of_groupsOf? hms⟩
    · cases h
  · simp only [Option.bind_eq_bind, Option.bind_eq_some_iff] at h
    obtain ⟨ls, hls, rs, hrs, h⟩ := h
    have hl := lt_of_side? hls fun ps ns hps n hn => by
      obtain ⟨w, _, hw⟩ := mem_of_mem_mapM hps hn
      exact lt_of_group? hw
    have hr := lt_of_side? hrs fun _ _ => lt_of_groupsOf?
    split at h
    · next hlength =>
      obtain rfl := Option.some.inj h
      refine ⟨by simp; omega, fun n hn => ?_⟩
      simp only [List.mem_append, List.mem_replicate] at hn
      obtain (hn | ⟨_, rfl⟩) | hn := hn
      · exact hl n hn
      · omega
      · exact hr n hn
    · cases h

/-! ## Printed addresses -/

theorem longestZeros_spec (i : Nat) (ns : List Nat) : ∃ a b,
    ns = a ++ List.replicate (longestZeros i ns).2 0 ++ b ∧
      (longestZeros i ns).1 = i + a.length := by
  induction ns generalizing i with
  | nil => exact ⟨[], [], rfl, rfl⟩
  | cons n r ih =>
    rw [longestZeros]
    split
    · refine ⟨[], (n :: r).dropWhile (· == 0), ?_, rfl⟩
      have hzeros : List.replicate (zeros (n :: r)) 0 = (n :: r).takeWhile (· == 0) := by
        refine (List.eq_replicate_iff.mpr ⟨rfl, fun m hm => ?_⟩).symm
        simpa using List.mem_takeWhile_imp hm
      rw [hzeros, List.nil_append, List.takeWhile_append_dropWhile]
    · obtain ⟨a, b, hr, hi⟩ := ih (i + 1)
      refine ⟨n :: a, b, ?_, by rw [hi, List.length_cons]; omega⟩
      rw [List.cons_append, List.cons_append, ← hr]

theorem not_mem_numeral {n : Nat} {c : Char} (hc : Hex.isDigit c = false) : c ∉ Hex.numeral n :=
  fun h => by simp [Hex.isDigit_of_mem_numeral h] at hc

theorem join_cons_cons (n m : Nat) (ns : List Nat) :
    join (n :: m :: ns) = Hex.numeral n ++ ':' :: join (m :: ns) := by
  simp [join, List.intercalate_cons_cons]

theorem join_eq_cons (n : Nat) (ns : List Nat) : ∃ c r, join (n :: ns) = c :: r ∧ c ≠ ':' := by
  cases hn : Hex.numeral n with
  | nil => exact absurd hn (Hex.numeral_ne_nil n)
  | cons c r =>
    have hc : c ≠ ':' := by
      rintro rfl
      exact not_mem_numeral (n := n) (c := ':') (by decide) (by simp [hn])
    cases ns with
    | nil => exact ⟨c, r, by simp [join, hn], hc⟩
    | cons m ns => exact ⟨c, r ++ ':' :: join (m :: ns), by simp [join_cons_cons, hn], hc⟩

theorem cutOn?_join (ns : List Nat) (r : List Char) :
    cutOn? [':', ':'] (join ns ++ r) =
      (cutOn? [':', ':'] r).map fun cut => (join ns ++ cut.1, cut.2) := by
  induction ns with
  | nil => simp [join]
  | cons n ns ih =>
    have hn : ':' ∉ Hex.numeral n := not_mem_numeral (by decide)
    cases ns with
    | nil =>
      have hjoin : join [n] = Hex.numeral n := by simp [join]
      rw [hjoin]
      exact cutOn?_append_of_not_mem _ hn r
    | cons m ns =>
      obtain ⟨c, s, hjoin, hc⟩ := join_eq_cons m ns
      rw [join_cons_cons, List.append_assoc, cutOn?_append_of_not_mem _ hn]
      have hcolon : cutOn? [':', ':'] (':' :: (join (m :: ns) ++ r)) =
          (cutOn? [':', ':'] (join (m :: ns) ++ r)).map fun cut => (':' :: cut.1, cut.2) := by
        rw [hjoin, List.cons_append, cutOn?]
        simp [List.isPrefixOf?, Ne.symm hc]
      rw [List.cons_append, hcolon, ih]
      simp [Option.map_map, Function.comp_def]

theorem isAddressChar_of_mem_join {ns : List Nat} {c : Char} (h : c ∈ join ns) :
    isAddressChar c = true := by
  induction ns with
  | nil => simp [join] at h
  | cons n ns ih =>
    cases ns with
    | nil =>
      have hn : c ∈ Hex.numeral n := by simpa [join] using h
      simp [isAddressChar, Hex.isDigit_of_mem_numeral hn]
    | cons m ns =>
      rw [join_cons_cons, List.mem_append, List.mem_cons] at h
      obtain hn | rfl | h := h
      · simp [isAddressChar, Hex.isDigit_of_mem_numeral hn]
      · decide
      · exact ih h

theorem isAddressChar_of_mem_render {ns : List Nat} {c : Char} (h : c ∈ render ns) :
    isAddressChar c = true := by
  rw [render] at h
  generalize longestZeros 0 ns = best at h
  obtain ⟨i, n⟩ := best
  dsimp only at h
  split at h
  · exact isAddressChar_of_mem_join h
  · simp only [List.mem_append, List.mem_cons, List.not_mem_nil, or_false] at h
    obtain (h | h | h) | h := h
    · exact isAddressChar_of_mem_join h
    · rw [h]
      decide
    · rw [h]
      decide
    · exact isAddressChar_of_mem_join h

theorem pieces_join {ns : List Nat} (h : ns ≠ []) :
    pieces (· == ':') (join ns) = ns.map Hex.numeral := by
  apply pieces_intercalate (by simpa using h) (by decide)
  intro w hw c hc
  obtain ⟨n, _, rfl⟩ := List.mem_map.mp hw
  simp only [beq_eq_false_iff_ne, ne_eq]
  rintro rfl
  exact not_mem_numeral (by decide) hc

theorem group?_numeral {n : Nat} (h : n < 65536) : group? (Hex.numeral n) = some n := by
  have hlength : (Hex.numeral n).length ≤ 4 :=
    (Nat.length_toDigits_le_iff (by omega) (by omega)).mpr h
  rw [group?, if_neg, Hex.number?_numeral]
  simp [Hex.numeral_ne_nil]
  omega

theorem lastPiece?_numeral {n : Nat} (h : n < 65536) : lastPiece? (Hex.numeral n) = some [n] := by
  have hpoint : '.' ∉ Hex.numeral n := not_mem_numeral (by decide)
  simp [lastPiece?, hpoint, group?_numeral h]

theorem groupsOf?_numerals {ns : List Nat} (h : ∀ n ∈ ns, n < 65536) :
    groupsOf? (ns.map Hex.numeral) = some ns := by
  induction ns with
  | nil => rfl
  | cons n ns ih =>
    have hn := h n List.mem_cons_self
    have hns := ih fun m hm => h m (List.mem_cons_of_mem n hm)
    cases ns with
    | nil => simp [groupsOf?, lastPiece?_numeral hn]
    | cons m ns =>
      rw [List.map_cons] at hns ⊢
      rw [List.map_cons, groupsOf?, hns, group?_numeral hn]
      · rfl
      · simp

theorem side?_join {read : List (List Char) → Option (List Nat)} {ns : List Nat}
    (h : read (ns.map Hex.numeral) = some ns) : side? read (join ns) = some ns := by
  cases ns with
  | nil => rfl
  | cons n ns =>
    obtain ⟨c, r, hjoin, _⟩ := join_eq_cons n ns
    rw [side?, if_neg (by simp [hjoin]), pieces_join (by simp), h]

theorem parse?_render {ns : List Nat} (hlength : ns.length = 8) (h : ∀ n ∈ ns, n < 65536) :
    parse? (render ns) = some ns := by
  obtain ⟨a, b, hns, hi⟩ := longestZeros_spec 0 ns
  rw [render]
  generalize longestZeros 0 ns = best at hns hi
  obtain ⟨i, n⟩ := best
  dsimp only at hns hi ⊢
  rw [Nat.zero_add] at hi
  split
  · have hcut : cutOn? [':', ':'] (join ns) = none := by
      simpa [cutOn?] using cutOn?_join ns []
    have hne : ns ≠ [] := by
      rintro rfl
      simp at hlength
    simp [parse?, hcut, pieces_join hne, groupsOf?_numerals h, hlength]
  · next hn =>
    -- The longest run of zeros is left out between `a` and `b`, and its length is what is missing to eight.
    have htake : ns.take i = a := by rw [hns, hi]; simp
    have hdrop : ns.drop (i + n) = b := by rw [hns, hi]; simp
    have hcut : cutOn? [':', ':'] (join a ++ [':', ':'] ++ join b) = some (join a, join b) := by
      rw [List.append_assoc, cutOn?_join]
      simp [cutOn?, List.isPrefixOf?]
    have ha : side? (fun ps => ps.mapM group?) (join a) = some a :=
      side?_join (mapM_map_some fun m hm => group?_numeral (h m (by simp [hns, hm])))
    have hb : side? groupsOf? (join b) = some b :=
      side?_join (groupsOf?_numerals fun m hm => h m (by simp [hns, hm]))
    have hsum : a.length + n + b.length = 8 := by
      rw [← hlength, hns]
      simp only [List.length_append, List.length_replicate]
    rw [htake, hdrop, parse?, hcut]
    simp only [ha, hb, Option.bind_eq_bind, Option.bind_some]
    rw [if_pos (by omega), show 8 - a.length - b.length = n by omega, ← hns]

end ConsentGate.Ipv6
