import ConsentGate.Proofs.Text.Cut
import ConsentGate.Proofs.Url.Escape
import ConsentGate.Url.Path

namespace ConsentGate.Url.Path

open Text

variable {special : Bool} {s : List Char} {l : List (List Char)}

/-- A segment of a path that is read: no dot segment, and of no characters but those of a path. -/
def IsSegment (special : Bool) (s : List Char) : Prop :=
  isDoubleDot s = false ∧ isSingleDot s = false ∧
    ∀ c ∈ s, keepsPath c = true ∧ isSlash special c = false

theorem isSegment_nil (special : Bool) : IsSegment special [] :=
  ⟨by decide, by decide, by simp⟩

theorem isSegment_encode (hd : isDoubleDot (Percent.encode keepsPath s) = false)
    (hs : isSingleDot (Percent.encode keepsPath s) = false)
    (hslash : ∀ c ∈ s, isSlash special c = false) :
    IsSegment special (Percent.encode keepsPath s) := by
  refine ⟨hd, hs, fun c hc => ⟨Percent.keeps_of_mem_encode keepsEscapes_path hc, ?_⟩⟩
  obtain ⟨hc, _⟩ | rfl | ⟨n, hn, rfl⟩ := Percent.mem_encode hc
  · exact hslash c hc
  · cases special <;> decide
  · have : ∀ m : Fin 16, isSlash special (Hex.upper m.1) = false := by cases special <;> decide
    exact this ⟨n, hn⟩

/-! ## Dots -/

theorem undot_cons {c : Char} (hc : c ≠ '%') (s : List Char) : undot (c :: s) = c :: undot s := by
  simp [undot, hc]

theorem undot_percent {x y : Char} (h : ¬ (x = '2' ∧ (y = 'e' ∨ y = 'E'))) (s : List Char) :
    undot ('%' :: x :: y :: s) = '%' :: undot (x :: y :: s) := by
  rw [undot]
  · rintro r - heq
    simp only [List.cons.injEq] at heq
    exact h ⟨heq.1, .inl heq.2.1⟩
  · rintro r - heq
    simp only [List.cons.injEq] at heq
    exact h ⟨heq.1, .inr heq.2.1⟩

theorem undot_escape {b : UInt8} (hb : b.toNat ≠ 46) (s : List Char) :
    undot (Percent.escape b ++ s) = Percent.escape b ++ undot s := by
  have hdigit : ∀ n : Fin 16, Hex.upper n.1 ≠ '%' ∧ Hex.upper n.1 ≠ 'e' ∧
      (Hex.upper n.1 = '2' → n.1 = 2) ∧ (Hex.upper n.1 = 'E' → n.1 = 14) := by decide
  have hlt := b.toNat_lt
  obtain ⟨hhigh, _, htwo, _⟩ := hdigit ⟨b.toNat / 16, by omega⟩
  obtain ⟨hlow, he, _, hE⟩ := hdigit ⟨b.toNat % 16, by omega⟩
  have hdot : ¬ (Hex.upper (b.toNat / 16) = '2' ∧
      (Hex.upper (b.toNat % 16) = 'e' ∨ Hex.upper (b.toNat % 16) = 'E')) := by
    rintro ⟨hx, hy⟩
    have hh : b.toNat / 16 = 2 := htwo hx
    have hl : b.toNat % 16 = 14 := hE (hy.resolve_left he)
    omega
  simp only [Percent.escape, List.cons_append, List.nil_append]
  rw [undot_percent hdot, undot_cons hhigh, undot_cons hlow]

theorem undot_escapes {bs : List UInt8} (hbs : ∀ b ∈ bs, b.toNat ≠ 46) (s : List Char) :
    undot (bs.flatMap Percent.escape ++ s) = bs.flatMap Percent.escape ++ undot s := by
  induction bs with
  | nil => rfl
  | cons b bs ih =>
    rw [List.flatMap_cons, List.append_assoc, undot_escape (hbs b List.mem_cons_self),
      ih fun d hd => hbs d (List.mem_cons_of_mem b hd), List.append_assoc]

theorem ne_dot_of_mem_utf8EncodeChar {c : Char} (hc : keepsPath c = false) {b : UInt8}
    (hb : b ∈ String.utf8EncodeChar c) : b.toNat ≠ 46 := by
  by_cases hascii : c.toNat < 128
  · rw [Utf8.utf8EncodeChar_ascii hascii, List.mem_singleton] at hb
    rw [hb, Utf8.toNat_byte (by omega)]
    intro heq
    have hdot : c = '.' := Char.toNat_inj.mp heq
    rw [hdot] at hc
    exact absurd hc (by decide)
  · have := Utf8.le_of_mem_utf8EncodeChar (by omega) hb
    omega

theorem exists_of_encode_cons {c : Char} (hc : c ≠ '%') {s r : List Char}
    (h : Percent.encode keepsPath s = c :: r) :
    ∃ t, s = c :: t ∧ r = Percent.encode keepsPath t := by
  have hhead : (Percent.encode keepsPath s).head? = some c := by rw [h, List.head?_cons]
  obtain ⟨t, rfl⟩ := List.head?_eq_some_iff.mp (head?_of_head?_encode hhead hc)
  have hkeep : keepsPath c = true :=
    Percent.keeps_of_mem_encode keepsEscapes_path (List.mem_of_mem_head? hhead)
  rw [Percent.encode_cons_of_keep hkeep] at h
  exact ⟨t, rfl, (List.cons.inj h).2.symm⟩

/-- Percent-encoding neither makes nor hides a dot. -/
theorem undot_encode (s : List Char) :
    undot (Percent.encode keepsPath s) = Percent.encode keepsPath (undot s) := by
  fun_induction undot s with
  | case1 r ih | case2 r ih =>
    rw [Percent.encode_cons_of_keep (by decide), Percent.encode_cons_of_keep (by decide),
      Percent.encode_cons_of_keep (by decide), Percent.encode_cons_of_keep (by decide), undot, ih]
  | case3 c r hsmall hlarge ih =>
    by_cases hkeep : keepsPath c = true
    · rw [Percent.encode_cons_of_keep hkeep, Percent.encode_cons_of_keep hkeep, undot, ih]
      · rintro t rfl heq
        obtain ⟨u, rfl, hu⟩ := exists_of_encode_cons (by decide) heq
        obtain ⟨v, rfl, _⟩ := exists_of_encode_cons (by decide) hu.symm
        exact hsmall v rfl rfl
      · rintro t rfl heq
        obtain ⟨u, rfl, hu⟩ := exists_of_encode_cons (by decide) heq
        obtain ⟨v, rfl, _⟩ := exists_of_encode_cons (by decide) hu.symm
        exact hlarge v rfl rfl
    · have hbytes : ∀ b ∈ String.utf8EncodeChar c, b.toNat ≠ 46 := fun b hb =>
        ne_dot_of_mem_utf8EncodeChar (by simpa using hkeep) hb
      rw [Percent.encode_cons, Percent.encode_cons, if_neg hkeep, undot_escapes hbytes, ih]
  | case4 => rfl

theorem encode_beq_dots (s : List Char) {t : List Char} (ht : ∀ c ∈ t, c = '.') :
    (Percent.encode keepsPath s == t) = (s == t) := by
  rw [Bool.eq_iff_iff, beq_iff_eq, beq_iff_eq]
  constructor
  · rintro rfl
    exact (Percent.encode_eq_self_of_not_mem fun hm => absurd (ht '%' hm) (by decide)).symm
  · rintro rfl
    exact Percent.encode_eq_self fun c hc => by rw [ht c hc]; decide

theorem isSingleDot_encode (s : List Char) :
    isSingleDot (Percent.encode keepsPath s) = isSingleDot s := by
  rw [isSingleDot, undot_encode, encode_beq_dots _ (by simp), isSingleDot]

theorem isDoubleDot_encode (s : List Char) :
    isDoubleDot (Percent.encode keepsPath s) = isDoubleDot s := by
  rw [isDoubleDot, undot_encode, encode_beq_dots _ (by simp), isDoubleDot]

/-! ## Resolving dot segments -/

theorem mem_up {w : List Char} (h : w ∈ up l) : w ∈ l := by
  cases l with
  | nil => exact h
  | cons s r =>
    rw [up] at h
    split at h
    · exact h
    · exact List.mem_cons_of_mem s h

theorem mem_resolve {acc : List (List Char)} {w : List Char} (h : w ∈ resolve acc l) :
    w ∈ acc ∨ w = [] ∨ w ∈ l ∧ isDoubleDot w = false ∧ isSingleDot w = false := by
  fun_induction resolve acc l with
  | case1 acc => exact .inl (List.mem_reverse.mp h)
  | case2 acc s _ =>
    obtain h | h := List.mem_cons.mp (List.mem_reverse.mp h)
    · exact .inr (.inl h)
    · exact .inl (mem_up h)
  | case3 acc s _ _ =>
    obtain h | h := List.mem_cons.mp (List.mem_reverse.mp h)
    · exact .inr (.inl h)
    · exact .inl h
  | case4 acc s hd hs =>
    obtain rfl | h := List.mem_cons.mp (List.mem_reverse.mp h)
    · exact .inr (.inr ⟨List.mem_singleton.mpr rfl, by simpa using hd, by simpa using hs⟩)
    · exact .inl h
  | case5 acc s r _ _ ih =>
    obtain h | h | ⟨h, hw⟩ := ih h
    · exact .inl (mem_up h)
    · exact .inr (.inl h)
    · exact .inr (.inr ⟨List.mem_cons_of_mem s h, hw⟩)
  | case6 acc s r _ _ _ ih =>
    obtain h | h | ⟨h, hw⟩ := ih h
    · exact .inl h
    · exact .inr (.inl h)
    · exact .inr (.inr ⟨List.mem_cons_of_mem s h, hw⟩)
  | case7 acc s r _ hd hs ih =>
    obtain h | h | ⟨h, hw⟩ := ih h
    · obtain rfl | h := List.mem_cons.mp h
      · exact .inr (.inr ⟨List.mem_cons_self, by simpa using hd, by simpa using hs⟩)
      · exact .inl h
    · exact .inr (.inl h)
    · exact .inr (.inr ⟨List.mem_cons_of_mem s h, hw⟩)

theorem resolve_ne_nil (acc : List (List Char)) (hl : l ≠ []) : resolve acc l ≠ [] := by
  fun_induction resolve acc l with
  | case1 acc => exact absurd rfl hl
  | case2 acc s _ => simp
  | case3 acc s _ _ => simp
  | case4 acc s _ _ => simp
  | case5 acc s r hr _ ih => exact ih fun h => hr h
  | case6 acc s r hr _ _ ih => exact ih fun h => hr h
  | case7 acc s r hr _ _ ih => exact ih fun h => hr h

/-- Without dot segments there is nothing to resolve. -/
theorem resolve_eq (acc : List (List Char))
    (h : ∀ w ∈ l, isDoubleDot w = false ∧ isSingleDot w = false) :
    resolve acc l = acc.reverse ++ l := by
  induction l generalizing acc with
  | nil => simp [resolve]
  | cons s r ih =>
    obtain ⟨hd, hs⟩ := h s List.mem_cons_self
    cases r with
    | nil => simp [resolve, hd, hs]
    | cons t r =>
      rw [resolve, hd, hs, if_neg (by simp), if_neg (by simp),
        ih _ fun w hw => h w (List.mem_cons_of_mem s hw)]
      · simp
      · simp

/-! ## Reading -/

theorem read_ne_nil (special : Bool) (s : List Char) : read special s ≠ [] :=
  resolve_ne_nil [] (by simpa using pieces_ne_nil _ _)

theorem isSegment_of_mem_read {w : List Char} (h : w ∈ read special s) : IsSegment special w := by
  obtain h | rfl | ⟨h, hd, hs⟩ := mem_resolve h
  · exact absurd h List.not_mem_nil
  · exact isSegment_nil special
  · obtain ⟨p, hp, rfl⟩ := List.mem_map.mp h
    exact isSegment_encode hd hs (false_of_mem_pieces hp)

theorem flatMap_slash (hl : l ≠ []) : l.flatMap ('/' :: ·) = '/' :: ['/'].intercalate l := by
  induction l with
  | nil => exact absurd rfl hl
  | cons s r ih =>
    cases r with
    | nil => simp
    | cons t r =>
      rw [List.flatMap_cons, ih (by simp), List.intercalate_cons_cons]
      simp

theorem pieces_segments (hl : l ≠ []) (h : ∀ w ∈ l, IsSegment special w) :
    pieces (isSlash special) (['/'].intercalate l) = l :=
  pieces_intercalate hl (by simp [isSlash]) fun w hw c hc => ((h w hw).2.2 c hc).2

theorem map_encode_segments (h : ∀ w ∈ l, IsSegment special w) :
    l.map (Percent.encode keepsPath) = l := by
  have hmap : l.map (Percent.encode keepsPath) = l.map id := List.map_congr_left fun w hw =>
    Percent.encode_eq_self fun c hc => ((h w hw).2.2 c hc).1
  rw [hmap, List.map_id]

theorem read_render (hl : l ≠ []) (h : ∀ w ∈ l, IsSegment special w) :
    read special (render (.segments l)) = l := by
  have hskip : skipSlash special (render (.segments l)) = ['/'].intercalate l := by
    rw [render, flatMap_slash hl]
    simp [skipSlash, isSlash]
  rw [read, hskip, pieces_segments hl h, map_encode_segments h,
    resolve_eq [] fun w hw => ⟨(h w hw).1, (h w hw).2.1⟩]
  simp

/-- A segment `.` in front keeps an empty first segment from reading as an authority, and is dropped. -/
theorem read_dot_render (hl : l ≠ []) (h : ∀ w ∈ l, IsSegment special w) :
    read special ('/' :: '.' :: render (.segments l)) = l := by
  have hskip : skipSlash special ('/' :: '.' :: render (.segments l)) =
      ['.'] ++ '/' :: ['/'].intercalate l := by
    rw [render, flatMap_slash hl]
    simp [skipSlash, isSlash]
  have hdot : isSlash special '.' = false := by cases special <;> decide
  rw [read, hskip, pieces_append_cons _ _ (by simp [isSlash]), pieces_segments hl h,
    pieces_eq_singleton (by simpa using hdot), List.singleton_append, List.map_cons,
    map_encode_segments h]
  obtain ⟨w, r, rfl⟩ := List.exists_cons_of_ne_nil hl
  have hencode : Percent.encode keepsPath ['.'] = ['.'] := by decide
  rw [hencode, resolve, if_neg (by decide), if_pos (by decide),
    resolve_eq [] fun w hw => ⟨(h w hw).1, (h w hw).2.1⟩]
  · simp
  · simp

theorem mem_render_segments (h : ∀ w ∈ l, IsSegment special w) {c : Char}
    (hc : c ∈ render (.segments l)) : keepsPath c = true := by
  obtain ⟨w, hw, hc⟩ := List.mem_flatMap.mp hc
  obtain rfl | hc := List.mem_cons.mp hc
  · decide
  · exact ((h w hw).2.2 c hc).1

/-! ## Drives -/

theorem mem_dropEmpty {w : List Char} (h : w ∈ dropEmpty l) : w ∈ l := by
  fun_induction dropEmpty l with
  | case1 s r ih => exact List.mem_cons_of_mem [] (ih h)
  | case2 l => exact h

theorem dropEmpty_ne_nil (h : l ≠ []) : dropEmpty l ≠ [] := by
  fun_induction dropEmpty l with
  | case1 s r ih => exact ih (by simp)
  | case2 l => exact h

theorem dropEmpty_dropEmpty (l : List (List Char)) : dropEmpty (dropEmpty l) = dropEmpty l := by
  fun_induction dropEmpty l with
  | case1 s r ih => exact ih
  | case2 l h => rw [dropEmpty]; exact h

theorem isSegment_colon {a b : Char} (ha : IsSegment special [a, b]) :
    IsSegment special [a, ':'] := by
  have hkeep := ha.2.2 a List.mem_cons_self
  have hcolon : keepsPath ':' = true ∧ isSlash special ':' = false := by
    cases special <;> decide
  have hundot : undot [a, ':'] = [a, ':'] := by simp [undot]
  refine ⟨by simp [isDoubleDot, hundot], by simp [isSingleDot, hundot], ?_⟩
  simpa using ⟨hkeep, hcolon⟩

theorem isSegment_of_mem_nameDrive (h : ∀ w ∈ l, IsSegment special w) {w : List Char}
    (hw : w ∈ nameDrive l) : IsSegment special w := by
  unfold nameDrive at hw
  split at hw
  · next a b r =>
    have hab := h [a, b] List.mem_cons_self
    obtain rfl | hw := List.mem_cons.mp hw
    · split
      · exact isSegment_colon hab
      · exact hab
    · exact h w (List.mem_cons_of_mem _ hw)
  · exact h w hw

theorem nameDrive_ne_nil (h : l ≠ []) : nameDrive l ≠ [] := by
  unfold nameDrive
  split
  · simp
  · exact h

end ConsentGate.Url.Path
