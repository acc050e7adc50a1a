import ConsentGate.Proofs.Text.Digits
import ConsentGate.Proofs.Timestamp

namespace ConsentGate.Timestamp

open Text

variable {width n nanos : Nat} {offset : Int} {rest : List Char} {t : Timestamp}

/-! ## Numbers of a fixed width -/

theorem number?_append {ds : List Char} (hd : ∀ c ∈ ds, c.isDigit = true) (n : Nat)
    (rest : List Char) : number? ds.length n (ds ++ rest) =
      some (ds.foldl (fun n c => n * 10 + (c.toNat - 48)) n, rest) := by
  induction ds generalizing n with
  | nil => rfl
  | cons c ds ih =>
    have hr := ih (fun d hd' => hd d (List.mem_cons_of_mem c hd')) (n * 10 + (c.toNat - 48))
    simp [number?, hd c List.mem_cons_self, hr]

theorem isDigit_of_mem_pad {c : Char} (hc : c ∈ pad width n) : c.isDigit = true := by
  obtain hc | hc := List.mem_append.mp hc
  · rw [List.eq_of_mem_replicate hc]
    rfl
  · exact Nat.isDigit_of_mem_toDigits (by decide) (by decide) hc

theorem length_pad (hw : 0 < width) (h : n < 10 ^ width) : (pad width n).length = width := by
  have hlen := (Nat.length_toDigits_le_iff (by decide) hw).mpr h
  rw [pad, List.length_append, List.length_replicate]
  omega

theorem value_replicate_append (k : Nat) (ds : List Char) :
    Digits.value (List.replicate k '0' ++ ds) = Digits.value ds := by
  induction k with
  | zero => rfl
  | succ k ih => exact ih

theorem value_pad (width n : Nat) : Digits.value (pad width n) = n := by
  rw [pad, value_replicate_append, Digits.value_toDigits]

theorem number?_pad (hw : 0 < width) (h : n < 10 ^ width) (rest : List Char) :
    number? width 0 (pad width n ++ rest) = some (n, rest) := by
  have hdigits : ∀ c ∈ pad width n, c.isDigit = true := fun c hc => isDigit_of_mem_pad hc
  have hread := number?_append hdigits 0 rest
  rwa [length_pad hw h, ← Digits.value, value_pad] at hread

/-! ## Fractions and offsets -/

theorem strip_append (s : List Char) :
    ∃ k, (s.reverse.dropWhile (· == '0')).reverse ++ List.replicate k '0' = s := by
  refine ⟨(s.reverse.takeWhile (· == '0')).length, ?_⟩
  have hzeros : s.reverse.takeWhile (· == '0') =
      List.replicate (s.reverse.takeWhile (· == '0')).length '0' :=
    List.eq_replicate_of_mem fun c hc => by simpa using List.mem_takeWhile_imp hc
  rw [← List.reverse_replicate, ← hzeros, ← List.reverse_append, List.takeWhile_append_dropWhile,
    List.reverse_reverse]

theorem readFraction?_fraction (h : nanos < 10 ^ 9)
    (hrest : ∀ c, rest.head? = some c → c.isDigit = false ∧ c ≠ '.') :
    readFraction? (fraction nanos ++ rest) = some (nanos, rest) := by
  unfold fraction
  split
  · next hzero =>
    rw [List.nil_append, hzero]
    unfold readFraction?
    split
    · exact absurd rfl (hrest '.' rfl).2
    · rfl
  · next hzero =>
    obtain ⟨k, hk⟩ := strip_append (pad 9 nanos)
    generalize ((pad 9 nanos).reverse.dropWhile (· == '0')).reverse = ds at hk
    have hd : ∀ c ∈ ds, c.isDigit = true := fun c hc =>
      isDigit_of_mem_pad (hk ▸ List.mem_append_left _ hc)
    obtain ⟨htake, hdrop⟩ := Digits.span_append hd fun c hc => (hrest c hc).1
    have hne : ds.isEmpty = false := by
      cases ds with
      | cons c ds => rfl
      | nil =>
        refine absurd ?_ hzero
        rw [← value_pad 9 nanos, ← hk, List.nil_append]
        exact List.append_nil (List.replicate k '0') ▸ value_replicate_append k []
    -- The zeros that were left out are put back.
    have hlen : ds.length + k = 9 := by
      rw [← length_pad (by decide) h, ← hk, List.length_append, List.length_replicate]
    have hnine : (ds ++ List.replicate 9 '0').take 9 = pad 9 nanos := by
      rw [← hk, show 9 = k + ds.length by omega, ← List.replicate_append_replicate,
        ← List.append_assoc]
      exact List.take_left' (by simp [Nat.add_comm])
    rw [List.cons_append, readFraction?]
    dsimp only
    rw [htake, hdrop, if_neg (by simp [hne]), hnine, value_pad]

theorem readZone?_sign (sign : Char) {hours minutes : Nat} (hsign : sign = '+' ∨ sign = '-')
    (hhours : hours ≤ 23) (hminutes : minutes ≤ 59) (rest : List Char) :
    readZone? (sign :: (pad 2 hours ++ ':' :: (pad 2 minutes ++ rest))) =
      some (if sign = '-' then -((hours * 60 + minutes : Nat) : Int)
        else ((hours * 60 + minutes : Nat) : Int), rest) := by
  have hh : ∀ r, number? 2 0 (pad 2 hours ++ r) = some (hours, r) :=
    number?_pad (by decide) (by omega)
  have hm : ∀ r, number? 2 0 (pad 2 minutes ++ r) = some (minutes, r) :=
    number?_pad (by decide) (by omega)
  obtain rfl | rfl := hsign <;> simp [readZone?, expect?, hh, hm, hhours, hminutes]

theorem readZone?_zone (h : offset.natAbs < 24 * 60) (rest : List Char) :
    readZone? (zone offset ++ rest) = some (offset, rest) := by
  have htotal := Nat.div_add_mod' offset.natAbs 60
  have hread := fun sign hsign => readZone?_sign sign hsign
    (show offset.natAbs / 60 ≤ 23 by omega) (show offset.natAbs % 60 ≤ 59 by omega) rest
  unfold zone
  split
  · next hzero => rw [hzero]; rfl
  · by_cases hneg : offset < 0
    · rw [if_pos hneg]
      refine (Eq.trans (by simp) (hread '-' (.inr rfl))).trans ?_
      rw [if_pos rfl, htotal, Int.ofNat_natAbs_of_nonpos (by omega), Int.neg_neg]
    · rw [if_neg hneg]
      refine (Eq.trans (by simp) (hread '+' (.inl rfl))).trans ?_
      rw [if_neg (by decide), htotal, Int.natAbs_of_nonneg (by omega)]

/-! ## Whole times -/

/-- A time that the calendar has, of a year that four digits write. -/
structure IsDate (t : Timestamp) : Prop where
  year : t.year ≤ 9999
  month : 1 ≤ t.month ∧ t.month ≤ 12
  day : 1 ≤ t.day ∧ t.day ≤ daysInMonth t.year t.month
  hour : t.hour ≤ 23
  minute : t.minute ≤ 59
  second : t.second ≤ 59
  nanos : t.nanos ≤ 999999999
  offset : t.offset.natAbs < 24 * 60

theorem IsReading.isDate (h : t.IsReading) : t.IsDate where
  year := h.year.2
  month := h.month
  day := h.day
  hour := h.hour
  minute := h.minute
  second := h.second
  nanos := h.nanos
  offset := by simp [h.offset]

theorem make?_of_isDate (h : t.IsDate) : t.make? = some t := by
  rw [make?, if_pos ⟨h.month.1, h.month.2, h.day.1, h.day.2, h.hour, h.minute⟩, if_pos h.second]

theorem head?_zone {c : Char} (h : (zone offset).head? = some c) :
    c.isDigit = false ∧ c ≠ '.' := by
  unfold zone at h
  split at h
  · obtain rfl : 'Z' = c := by simpa using h
    decide
  · split at h
    · obtain rfl : '-' = c := by simpa using h
      decide
    · obtain rfl : '+' = c := by simpa using h
      decide

/-- A time of the calendar reads back from its text. -/
theorem parse?_render (h : t.IsDate) : parse? t.render = some t := by
  have hdays := daysInMonth_le t.year t.month
  obtain ⟨hyear, ⟨_, hmonth⟩, ⟨_, hday⟩, hhour, hminute, hsecond, hnanos, hoffset⟩ := id h
  have hzone := readZone?_zone hoffset []
  rw [List.append_nil] at hzone
  unfold parse? render
  simp only [String.toList_ofList, List.append_assoc, List.cons_append]
  simp [number?_pad, expect?, readFraction?_fraction (show t.nanos < 10 ^ 9 by omega)
    (fun _ => head?_zone), hzone, make?_of_isDate h, show t.year < 10000 by omega,
    show t.month < 100 by omega, show t.day < 100 by omega, show t.hour < 100 by omega,
    show t.minute < 100 by omega, show t.second < 100 by omega]

/-! ## Times that are read -/

theorem number?_lt {s : List Char} {m : Nat} (h : number? width n s = some (m, rest)) :
    m < (n + 1) * 10 ^ width := by
  induction width generalizing n s with
  | zero =>
    obtain ⟨rfl, _⟩ := Prod.mk.inj (Option.some.inj h)
    simp
  | succ width ih =>
    cases s with
    | nil => cases h
    | cons c s =>
      rw [number?] at h
      split at h
      · next hdigit =>
        have hc : c.toNat - 48 < 10 := by simpa using Digits.foldl_lt (List.forall_mem_singleton.mpr hdigit) 0
        have hstep : (n * 10 + (c.toNat - 48) + 1) * 10 ^ width ≤ (n + 1) * 10 * 10 ^ width :=
          Nat.mul_le_mul_right _ (by omega)
        rw [Nat.pow_succ', ← Nat.mul_assoc]
        exact Nat.lt_of_lt_of_le (ih h) hstep
      · cases h

theorem readFraction?_lt {s : List Char} (h : readFraction? s = some (nanos, rest)) :
    nanos < 10 ^ 9 := by
  unfold readFraction? at h
  split at h
  · next s =>
    dsimp only at h
    split at h
    · cases h
    · obtain ⟨rfl, _⟩ := Prod.mk.inj (Option.some.inj h)
      have hdigits : ∀ c ∈ (s.takeWhile Char.isDigit ++ List.replicate 9 '0').take 9,
          c.isDigit = true := by
        intro c hc
        obtain hc | hc := List.mem_append.mp (List.mem_of_mem_take hc)
        · exact List.mem_takeWhile_imp hc
        · rw [List.eq_of_mem_replicate hc]
          rfl
      have hlt := Digits.value_lt hdigits
      rwa [List.length_take_of_le (by simp)] at hlt
  · obtain ⟨rfl, _⟩ := Prod.mk.inj (Option.some.inj h)
    decide

theorem readZone?_lt {s : List Char} (h : readZone? s = some (offset, rest)) :
    offset.natAbs < 24 * 60 := by
  unfold readZone? at h
  split at h
  · obtain ⟨rfl, _⟩ := Prod.mk.inj (Option.some.inj h)
    decide
  · obtain ⟨rfl, _⟩ := Prod.mk.inj (Option.some.inj h)
    decide
  · split at h
    · simp only [Option.bind_eq_bind, Option.bind_eq_some_iff, Option.pure_def] at h
      obtain ⟨⟨hours, s⟩, _, s, _, ⟨minutes, s⟩, _, h⟩ := h
      dsimp only at h
      split at h
      · obtain ⟨rfl, _⟩ := Prod.mk.inj (Option.some.inj h)
        split <;> omega
      · cases h
    · cases h
  · cases h

theorem isDate_of_make? {u : Timestamp} (h : t.make? = some u) (hyear : t.year ≤ 9999)
    (hnanos : t.nanos ≤ 999999999) (hoffset : t.offset.natAbs < 24 * 60) : u.IsDate := by
  unfold make? at h
  split at h
  · next hparts =>
    obtain ⟨hlow, hhigh, hfirst, hlast, hhour, hminute⟩ := hparts
    split at h
    · next hsecond =>
      obtain rfl := Option.some.inj h
      exact ⟨hyear, ⟨hlow, hhigh⟩, ⟨hfirst, hlast⟩, hhour, hminute, hsecond, hnanos, hoffset⟩
    split at h
    · -- A leap second is kept as the end of the second before it.
      dsimp only at h
      split at h
      · obtain rfl := Option.some.inj h
        exact ⟨hyear, ⟨hlow, hhigh⟩, ⟨hfirst, hlast⟩, hhour, hminute, Nat.le_refl _,
          Nat.le_refl _, hoffset⟩
      · cases h
    · cases h
  · cases h

theorem isDate_of_parse? {s : String} (h : parse? s = some t) : t.IsDate := by
  unfold parse? at h
  simp only [Option.bind_eq_bind, Option.bind_eq_some_iff] at h
  obtain ⟨⟨year, _⟩, hyear, _, _, _, _, _, _, _, _, _, _, h⟩ := h
  split at h
  · cases h
  simp only [Option.bind_eq_some_iff] at h
  obtain ⟨_, _, _, _, _, _, _, _, _, _, ⟨nanos, _⟩, hnanos, ⟨offset, _⟩, hoffset, h⟩ := h
  split at h
  · refine isDate_of_make? h ?_ ?_ (readZone?_lt hoffset)
    · exact Nat.le_of_lt_succ (number?_lt hyear)
    · exact Nat.le_of_lt_succ (readFraction?_lt hnanos)
  · cases h

end ConsentGate.Timestamp
