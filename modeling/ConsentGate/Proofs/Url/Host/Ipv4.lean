import ConsentGate.Proofs.Collection.Reading
import ConsentGate.Proofs.Text.Cut
import ConsentGate.Proofs.Text.Digits
import ConsentGate.Url.Host.Ipv4

namespace ConsentGate.Ipv4

theorem combine?_lt {ns : List Nat} {n : Nat} (h : combine? ns = some n) : n < 2 ^ 32 := by
  unfold combine? at h
  split at h
  · cases h
  next last front hns =>
  have hlength : ns.length = front.length + 1 := by
    rw [← List.length_reverse, hns, List.length_cons]
  split at h
  · cases h
  next hfour =>
  split at h
  · cases h
  next hfront =>
  split at h
  · cases h
  next hlast =>
  rw [Option.some.injEq] at h
  simp only [List.any_eq_true, decide_eq_true_eq, not_exists, not_and, Nat.not_lt] at hfront
  -- At most three bytes stand before the last number.
  obtain _ | ⟨a, _ | ⟨b, _ | ⟨c, _ | ⟨_, _⟩⟩⟩⟩ := front
  · simp only [List.length_nil, List.reverse_nil, List.foldl_nil] at h hlast
    omega
  · have := hfront a (by simp)
    simp only [List.length_cons, List.length_nil, List.reverse_singleton, List.foldl_cons,
      List.foldl_nil] at h hlast
    omega
  · have := hfront a (by simp)
    have := hfront b (by simp)
    simp only [List.length_cons, List.length_nil, List.reverse_cons, List.reverse_nil,
      List.nil_append, List.cons_append, List.foldl_cons, List.foldl_nil] at h hlast
    omega
  · have := hfront a (by simp)
    have := hfront b (by simp)
    have := hfront c (by simp)
    simp only [List.length_cons, List.length_nil, List.reverse_cons, List.reverse_nil,
      List.nil_append, List.cons_append, List.foldl_cons, List.foldl_nil] at h hlast
    omega
  · simp only [List.length_cons] at hlength
    omega

theorem length_le_of_combine? {ns : List Nat} {n : Nat} (h : combine? ns = some n) :
    ns.length ≤ 4 := by
  unfold combine? at h
  split at h
  · cases h
  split at h
  · cases h
  · omega

theorem number?_byte {b : Nat} (h : b < 256) : number? (Nat.toDigits 10 b) = some b := by
  have : ∀ m : Fin 256, number? (Nat.toDigits 10 m.1) = some m.1 := by decide +kernel
  exact this ⟨b, h⟩

theorem bytes_lt {n : Nat} (h : n < 2 ^ 32) : ∀ b ∈ bytes n, b < 256 := by
  intro b hb
  simp only [bytes, List.mem_cons, List.not_mem_nil, or_false] at hb
  omega

theorem combine?_bytes {n : Nat} (h : n < 2 ^ 32) : combine? (bytes n) = some n := by
  have hlast : ¬ 256 ≤ n % 256 := by omega
  have hfront : [n / 2 ^ 8 % 256, n / 2 ^ 16 % 256, n / 2 ^ 24].any (255 < ·) = false := by
    rw [List.any_eq_false]
    intro b hb
    simp only [List.mem_cons, List.not_mem_nil, or_false] at hb
    simp only [decide_eq_true_eq]
    omega
  simp only [combine?, bytes, List.reverse_cons, List.reverse_nil, List.nil_append,
    List.cons_append, List.length_cons, List.length_nil, hfront, Bool.false_eq_true, if_false,
    List.foldl_cons, List.foldl_nil]
  rw [if_neg (by omega), if_neg (by omega)]
  congr 1
  omega

/-! ## Printed addresses -/

theorem mem_digits {b : Nat} {c : Char} (h : c ∈ Nat.toDigits 10 b) : c.isDigit = true :=
  Nat.isDigit_of_mem_toDigits (by omega) (by omega) h

theorem pieces_render (n : Nat) :
    Text.pieces (· == '.') (render n) = (bytes n).map (Nat.toDigits 10) := by
  apply Text.pieces_intercalate (by simp [bytes]) (by decide)
  intro w hw c hc
  obtain ⟨b, _, rfl⟩ := List.mem_map.mp hw
  have hd := mem_digits hc
  simp only [beq_eq_false_iff_ne, ne_eq]
  rintro rfl
  exact absurd hd (by decide)

theorem mem_render {n : Nat} {c : Char} (h : c ∈ render n) : c.isDigit = true ∨ c = '.' := by
  by_cases hc : c = '.'
  · exact .inr hc
  · obtain ⟨w, hw, hcw⟩ := Text.exists_mem_pieces (p := (· == '.')) h (by simpa using hc)
    rw [pieces_render] at hw
    obtain ⟨b, _, rfl⟩ := List.mem_map.mp hw
    exact .inl (mem_digits hcw)

theorem render_ne_nil (n : Nat) : render n ≠ [] := by
  intro h
  have hpieces := pieces_render n
  simp [h, Text.pieces, bytes] at hpieces

theorem parts_render (n : Nat) : parts (render n) = (bytes n).map (Nat.toDigits 10) := by
  rw [parts, pieces_render, if_neg]
  simp [bytes, Nat.toDigits_ne_nil]

theorem parse?_render {n : Nat} (h : n < 2 ^ 32) : parse? (render n) = some n := by
  have hmap : ((bytes n).map (Nat.toDigits 10)).mapM number? = some (bytes n) :=
    mapM_map_some fun b hb => number?_byte (bytes_lt h b hb)
  simp [parse?, parts_render, hmap, combine?_bytes h]

theorem endsInNumber_render (n : Nat) : endsInNumber (render n) = true := by
  have hdigits : (Nat.toDigits 10 (n % 256)).all Char.isDigit = true :=
    List.all_eq_true.mpr fun c hc => mem_digits hc
  simp [endsInNumber, parts_render, bytes, hdigits, Nat.toDigits_ne_nil]

/-! ## Names below an address -/

theorem pieces_ne_nil_nil {b : List Char} (hb : b ≠ []) : Text.pieces (· == '.') b ≠ [[]] := by
  cases b with
  | nil => exact absurd rfl hb
  | cons c r =>
    rw [Text.pieces]
    split
    · simp [Text.pieces_ne_nil]
    · split <;> simp

theorem getLast?_append_of_ne_nil {α : Type} (a : List α) {b : List α} (hb : b ≠ []) :
    (a ++ b).getLast? = b.getLast? := by
  rw [List.getLast?_append, List.getLast?_eq_some_getLast hb, Option.some_or]

theorem parts_append (a : List Char) {b : List Char} (hb : b ≠ []) :
    parts (a ++ '.' :: b) = Text.pieces (· == '.') a ++ parts b := by
  have ha := Text.pieces_ne_nil (· == '.') a
  have hne := Text.pieces_ne_nil (· == '.') b
  have hsingle := pieces_ne_nil_nil hb
  have hpieces : Text.pieces (· == '.') (a ++ '.' :: b) =
      Text.pieces (· == '.') a ++ Text.pieces (· == '.') b :=
    Text.pieces_append_cons a b (by decide)
  simp only [parts, hpieces, List.length_append, getLast?_append_of_ne_nil _ hne]
  have hla : 0 < (Text.pieces (· == '.') a).length := List.length_pos_iff.mpr ha
  have hlb : 0 < (Text.pieces (· == '.') b).length := List.length_pos_iff.mpr hne
  by_cases hlast : (Text.pieces (· == '.') b).getLast? = some []
  · have hlong : 1 < (Text.pieces (· == '.') b).length := by
      match hp : Text.pieces (· == '.') b with
      | [] => exact absurd hp hne
      | [w] =>
        rw [hp] at hlast
        simp only [List.getLast?_singleton, Option.some.injEq] at hlast
        exact absurd (hlast ▸ hp) hsingle
      | _ :: _ :: _ => simp
    rw [if_pos ⟨by omega, hlast⟩, if_pos ⟨hlong, hlast⟩, List.dropLast_append_of_ne_nil hne]
  · rw [if_neg fun h => hlast h.2, if_neg fun h => hlast h.2]

theorem parts_ne_nil (b : List Char) : parts b ≠ [] := by
  have hne := Text.pieces_ne_nil (· == '.') b
  simp only [parts]
  split
  · next h =>
    intro hnil
    have := congrArg List.length hnil
    simp only [List.length_dropLast, List.length_nil] at this
    omega
  · exact hne

theorem endsInNumber_append (a : List Char) {b : List Char} (hb : b ≠ []) :
    endsInNumber (a ++ '.' :: b) = endsInNumber b := by
  rw [endsInNumber, endsInNumber, parts_append a hb,
    getLast?_append_of_ne_nil _ (parts_ne_nil b)]

/-- There is no address below an address of four parts. -/
theorem parse?_append_render (a : List Char) (n : Nat) : parse? (a ++ '.' :: render n) = none := by
  have ha : 0 < (Text.pieces (· == '.') a).length :=
    List.length_pos_iff.mpr (Text.pieces_ne_nil _ a)
  cases h : parse? (a ++ '.' :: render n) with
  | none => rfl
  | some m =>
    simp only [parse?, Option.bind_eq_bind, Option.bind_eq_some_iff] at h
    obtain ⟨ns, hns, hcombine⟩ := h
    have hlength := length_le_of_combine? hcombine
    rw [parts_append a (render_ne_nil n), parts_render] at hns
    have := length_of_mapM hns
    simp only [List.length_append, List.length_map, bytes, List.length_cons, List.length_nil]
      at this
    omega

end ConsentGate.Ipv4
