namespace ConsentGate

variable {α β : Type}

theorem bind_eq_ok {ε : Type} {x : Except ε α} {f : α → Except ε β} {b : β} :
    x >>= f = .ok b ↔ ∃ a, x = .ok a ∧ f a = .ok b := by
  cases x <;> simp [bind, Except.bind]

theorem map_eq_ok {ε : Type} {x : Except ε α} {f : α → β} {b : β} :
    x.map f = .ok b ↔ ∃ a, x = .ok a ∧ f a = b := by
  cases x <;> simp [Except.map]

theorem exists_bind_ok {ε : Type} {x : Except ε α} {f : α → Except ε β} (hx : ∃ a, x = .ok a)
    (hf : ∀ a, ∃ b, f a = .ok b) : ∃ b, x >>= f = .ok b := by
  obtain ⟨a, ha⟩ := hx
  obtain ⟨b, hb⟩ := hf a
  exact ⟨b, bind_eq_ok.mpr ⟨a, ha, hb⟩⟩

theorem mapM_cons_ok {ε : Type} {f : α → Except ε β} {x : α} {l : List α} {m : List β}
    (h : (x :: l).mapM f = .ok m) : ∃ y r, f x = .ok y ∧ l.mapM f = .ok r ∧ m = y :: r := by
  simp only [List.mapM_cons, bind_eq_ok, pure, Except.pure, Except.ok.injEq] at h
  obtain ⟨y, hy, r, hr, rfl⟩ := h
  exact ⟨y, r, hy, hr, rfl⟩

theorem exists_mapM_ok {ε : Type} {f : α → Except ε β} {l : List α} (h : ∀ x ∈ l, ∃ y, f x = .ok y) :
    ∃ m, l.mapM f = .ok m := by
  induction l with
  | nil => exact ⟨[], rfl⟩
  | cons x l ih =>
    obtain ⟨y, hy⟩ := h x List.mem_cons_self
    obtain ⟨m, hm⟩ := ih fun z hz => h z (List.mem_cons_of_mem x hz)
    exact ⟨y :: m, by rw [List.mapM_cons, hy, hm]; rfl⟩

variable {f : α → Option β}

theorem mapM_cons_some {x : α} {l : List α} {m : List β} (h : (x :: l).mapM f = some m) :
    ∃ y r, f x = some y ∧ l.mapM f = some r ∧ m = y :: r := by
  simp only [List.mapM_cons, Option.bind_eq_bind, Option.pure_def, Option.bind_eq_some_iff,
    Option.some.injEq] at h
  obtain ⟨y, hy, r, hr, rfl⟩ := h
  exact ⟨y, r, hy, hr, rfl⟩

theorem mapM_append_some {a b : List α} {m : List β} (h : (a ++ b).mapM f = some m) :
    ∃ ma mb, a.mapM f = some ma ∧ b.mapM f = some mb ∧ m = ma ++ mb := by
  rw [List.mapM_append] at h
  simp only [Option.bind_eq_bind, Option.pure_def, Option.bind_eq_some_iff, Option.some.injEq] at h
  obtain ⟨ma, hma, mb, hmb, rfl⟩ := h
  exact ⟨ma, mb, hma, hmb, rfl⟩

theorem mem_of_mapM {l : List α} {m : List β} (h : l.mapM f = some m) {x : α} (hx : x ∈ l) :
    ∃ y ∈ m, f x = some y := by
  induction l generalizing m with
  | nil => exact absurd hx List.not_mem_nil
  | cons z l ih =>
    obtain ⟨y, r, hy, hr, rfl⟩ := mapM_cons_some h
    obtain rfl | hx := List.mem_cons.mp hx
    · exact ⟨y, List.mem_cons_self, hy⟩
    · obtain ⟨y', hy', hf⟩ := ih hr hx
      exact ⟨y', List.mem_cons_of_mem y hy', hf⟩

theorem mem_of_mem_mapM {l : List α} {m : List β} (h : l.mapM f = some m) {y : β} (hy : y ∈ m) :
    ∃ x ∈ l, f x = some y := by
  induction l generalizing m with
  | nil =>
    obtain rfl : m = [] := by simpa using h.symm
    exact absurd hy List.not_mem_nil
  | cons x l ih =>
    obtain ⟨z, r, hz, hr, rfl⟩ := mapM_cons_some h
    obtain rfl | hy := List.mem_cons.mp hy
    · exact ⟨x, List.mem_cons_self, hz⟩
    · obtain ⟨x', hx', hf⟩ := ih hr hy
      exact ⟨x', List.mem_cons_of_mem x hx', hf⟩

theorem mapM_eq_map {l : List α} {g : α → β} (h : ∀ x ∈ l, f x = some (g x)) :
    l.mapM f = some (l.map g) := by
  induction l with
  | nil => rfl
  | cons x l ih =>
    have hl := ih fun y hy => h y (List.mem_cons_of_mem x hy)
    simp [h x List.mem_cons_self, hl]

theorem mapM_map_some {m : List β} {g : β → α} (h : ∀ y ∈ m, f (g y) = some y) :
    (m.map g).mapM f = some m := by
  induction m with
  | nil => rfl
  | cons y m ih =>
    have hm := ih fun z hz => h z (List.mem_cons_of_mem y hz)
    simp [h y List.mem_cons_self, hm]

theorem mapM_ne_nil {l : List α} {m : List β} (h : l.mapM f = some m) (hl : l ≠ []) : m ≠ [] := by
  cases l with
  | nil => exact absurd rfl hl
  | cons x l =>
    obtain ⟨y, r, _, _, rfl⟩ := mapM_cons_some h
    exact List.cons_ne_nil y r

theorem length_of_mapM {l : List α} {m : List β} (h : l.mapM f = some m) :
    m.length = l.length := by
  induction l generalizing m with
  | nil =>
    obtain rfl : m = [] := by simpa using h.symm
    rfl
  | cons x l ih =>
    obtain ⟨y, r, _, hr, rfl⟩ := mapM_cons_some h
    simp [ih hr]

end ConsentGate
