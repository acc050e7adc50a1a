import ConsentGate.Timestamp

namespace ConsentGate.Timestamp

variable {t : Timestamp} {nanos n : Int}

theorem earlier?_eq_some :
    t.earlier? nanos = some n ↔ t.instant - nanos = n ∧ firstInstant ≤ n ∧ n ≤ lastInstant := by
  simp only [earlier?, Option.ite_none_right_eq_some, Option.some.injEq]
  constructor
  · rintro ⟨h, rfl⟩
    exact ⟨rfl, h⟩
  · rintro ⟨rfl, h⟩
    exact ⟨h, rfl⟩

theorem earlier?_of_isSome (h : (t.earlier? nanos).isSome) :
    t.earlier? nanos = some (t.instant - nanos) := by
  obtain ⟨n, hn⟩ := Option.isSome_iff_exists.mp h
  rw [hn, (earlier?_eq_some.mp hn).1]

theorem firstInstant_eq : firstInstant = -377705116800 * 1000000000 := by decide

theorem lastInstant_eq : lastInstant = 253402300800 * 1000000000 - 1 := by decide

/-- A time that a clock in UTC shows in the years 1970 to 9999. -/
structure IsReading (t : Timestamp) : Prop where
  year : 1970 ≤ t.year ∧ t.year ≤ 9999
  month : 1 ≤ t.month ∧ t.month ≤ 12
  day : 1 ≤ t.day ∧ t.day ≤ daysInMonth t.year t.month
  hour : t.hour ≤ 23
  minute : t.minute ≤ 59
  second : t.second ≤ 59
  nanos : t.nanos ≤ 999999999
  offset : t.offset = 0

theorem daysInMonth_le (year month : Nat) : daysInMonth year month ≤ 31 := by
  unfold daysInMonth
  split
  · split <;> omega
  · split <;> omega

theorem IsReading.dayNumber_bounds (h : t.IsReading) :
    0 ≤ dayNumber t.year t.month t.day ∧ dayNumber t.year t.month t.day < 2932897 := by
  have hyear := h.year
  have hmonth := h.month
  have hday := Nat.le_trans h.day.2 (daysInMonth_le t.year t.month)
  have hfirst := h.day.1
  unfold dayNumber
  dsimp only
  split <;> omega

theorem IsReading.instant_bounds (h : t.IsReading) : 0 ≤ t.instant ∧ t.instant ≤ lastInstant := by
  have hdays := h.dayNumber_bounds
  have hhour := h.hour
  have hminute := h.minute
  have hsecond := h.second
  have hnanos := h.nanos
  rw [instant, unix, h.offset, lastInstant_eq]
  omega

end ConsentGate.Timestamp
