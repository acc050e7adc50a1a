import ConsentGate.Text.Cut
import Mathlib.Data.List.Basic
import Mathlib.Data.List.TakeWhile

namespace ConsentGate.Text

variable {p : Char → Bool}

/-! ## At the first character of a kind -/

theorem beq_false_of_not_mem {s : List Char} {k : Char} (h : k ∉ s) : ∀ c ∈ s, (c == k) = false := by
  intro c hc
  rw [beq_eq_false_iff_ne]
  rintro rfl
  exact h hc

theorem before_eq_self {s : List Char} (h : ∀ c ∈ s, p c = false) : before p s = s := by
  simp only [before, List.takeWhile_eq_self_iff]
  intro c hc
  simp [h c hc]

theorem before_append_cons {s r : List Char} {k : Char} (h : ∀ c ∈ s, p c = false)
    (hk : p k = true) : before p (s ++ k :: r) = s := by
  rw [before, List.takeWhile_append_of_pos (by simpa using h)]
  simp [hk]

theorem before_false {s : List Char} : ∀ c ∈ before p s, p c = false := by
  intro c hc
  have h := List.mem_takeWhile_imp hc
  simpa using h

theorem before_append_of_false {s r : List Char} (h : ∀ c ∈ s, p c = false) :
    before p (s ++ r) = s ++ before p r := by
  rw [before, List.takeWhile_append_of_pos (by simpa using h)]
  rfl

theorem before_append_of_mem {s r : List Char} {c : Char} (hc : c ∈ s) (hp : p c = true) :
    before p (s ++ r) = before p s := by
  induction s with
  | nil => exact absurd hc List.not_mem_nil
  | cons d s ih =>
    simp only [before, List.cons_append, List.takeWhile_cons] at ih ⊢
    by_cases hd : p d = true
    · simp [hd]
    · have hc : c ∈ s := (List.mem_cons.mp hc).resolve_left fun heq => hd (heq ▸ hp)
      rw [ih hc]

theorem before_append_mark {k : Char} (hk : p k = true) (s r : List Char) :
    before p (s ++ k :: r) = before p s := by
  induction s with
  | nil => simp [before, hk]
  | cons c s ih =>
    simp only [before, List.cons_append, List.takeWhile_cons] at ih ⊢
    rw [ih]

theorem mem_of_mem_before {s : List Char} {c : Char} (h : c ∈ before p s) : c ∈ s :=
  (List.takeWhile_sublist _).subset h

theorem cutAt_eq_self {s : List Char} (h : ∀ c ∈ s, p c = false) : cutAt p s = (s, none) := by
  induction s with
  | nil => rfl
  | cons c r ih =>
    have hr := ih fun d hd => h d (List.mem_cons_of_mem c hd)
    simp [cutAt, h c List.mem_cons_self, hr]

theorem cutAt_append_cons {s r : List Char} {k : Char} (h : ∀ c ∈ s, p c = false)
    (hk : p k = true) : cutAt p (s ++ k :: r) = (s, some r) := by
  induction s with
  | nil => simp [cutAt, hk]
  | cons c s ih =>
    have hr := ih fun d hd => h d (List.mem_cons_of_mem c hd)
    simp [cutAt, h c List.mem_cons_self, hr]

/-- A cut at the first character of a kind, put together again. -/
theorem cutAt_spec (s : List Char) :
    ((cutAt p s).2 = none ∧ s = (cutAt p s).1) ∨
      ∃ k r, p k = true ∧ (cutAt p s).2 = some r ∧ s = (cutAt p s).1 ++ k :: r := by
  induction s with
  | nil => exact .inl ⟨rfl, rfl⟩
  | cons c r ih =>
    by_cases hc : p c = true
    · exact .inr ⟨c, r, hc, by simp [cutAt, hc], by simp [cutAt, hc]⟩
    · obtain ⟨hn, hs⟩ | ⟨k, t, hk, ht, hs⟩ := ih
      · exact .inl ⟨by simp [cutAt, hc, hn], by simpa [cutAt, hc] using hs⟩
      · exact .inr ⟨k, t, hk, by simp [cutAt, hc, ht], by simpa [cutAt, hc] using hs⟩

theorem cutAt_fst_false (s : List Char) : ∀ c ∈ (cutAt p s).1, p c = false := by
  rw [cutAt_fst]
  exact before_false

/-! ## At the last character of a kind -/

theorem cutLast?_eq_none {s : List Char} (h : ∀ c ∈ s, p c = false) : cutLast? p s = none := by
  induction s with
  | nil => rfl
  | cons c r ih =>
    simp [cutLast?, ih fun d hd => h d (List.mem_cons_of_mem c hd), h c List.mem_cons_self]

theorem cutLast?_append_cons {a b : List Char} {k : Char} (hk : p k = true)
    (h : ∀ c ∈ b, p c = false) : cutLast? p (a ++ k :: b) = some (a, b) := by
  induction a with
  | nil => simp [cutLast?, cutLast?_eq_none h, hk]
  | cons c a ih => simp [cutLast?, ih]

theorem cutLast?_spec (s : List Char) :
    (cutLast? p s = none ∧ ∀ c ∈ s, p c = false) ∨
      ∃ a k b, p k = true ∧ (∀ c ∈ b, p c = false) ∧ s = a ++ k :: b ∧
        cutLast? p s = some (a, b) := by
  induction s with
  | nil => exact .inl ⟨rfl, by simp⟩
  | cons c r ih =>
    obtain ⟨hn, hr⟩ | ⟨a, k, b, hk, hb, rfl, h⟩ := ih
    · by_cases hc : p c = true
      · exact .inr ⟨[], c, r, hc, hr, rfl, by simp [cutLast?, hn, hc]⟩
      · refine .inl ⟨by simp [cutLast?, hn, hc], ?_⟩
        intro d hd
        obtain rfl | hd := List.mem_cons.mp hd
        · simpa using hc
        · exact hr d hd
    · exact .inr ⟨c :: a, k, b, hk, hb, rfl, by simp [cutLast?, h]⟩

/-! ## At both ends -/

theorem trim_eq_self {s : List Char} (hhead : ∀ c, s.head? = some c → p c = false)
    (hlast : ∀ c, s.getLast? = some c → p c = false) : trim p s = s := by
  have hkeep : ∀ t : List Char, (∀ c, t.head? = some c → p c = false) → t.dropWhile p = t := by
    intro t ht
    cases t with
    | nil => rfl
    | cons c r => exact List.dropWhile_cons_of_neg (by simp [ht c rfl])
  rw [trim, hkeep s hhead, hkeep s.reverse (by simpa using hlast), List.reverse_reverse]

theorem trim_spec (p : Char → Bool) (s : List Char) :
    ∃ a b, s = a ++ trim p s ++ b ∧ (∀ c ∈ a, p c = true) ∧ ∀ c ∈ b, p c = true := by
  refine ⟨s.takeWhile p, ((s.dropWhile p).reverse.takeWhile p).reverse, ?_,
    fun c hc => List.mem_takeWhile_imp hc,
    fun c hc => List.mem_takeWhile_imp (List.mem_reverse.mp hc)⟩
  rw [trim, List.append_assoc, ← List.reverse_append, List.takeWhile_append_dropWhile,
    List.reverse_reverse, List.takeWhile_append_dropWhile]

/-! ## Into pieces -/

theorem pieces_congr {q : Char → Bool} {s : List Char} (h : ∀ c ∈ s, p c = q c) :
    pieces p s = pieces q s := by
  induction s with
  | nil => rfl
  | cons c r ih =>
    rw [pieces, pieces, h c List.mem_cons_self, ih fun d hd => h d (List.mem_cons_of_mem c hd)]

theorem pieces_eq_singleton {s : List Char} (h : ∀ c ∈ s, p c = false) : pieces p s = [s] := by
  induction s with
  | nil => rfl
  | cons c r ih =>
    rw [pieces, ih fun d hd => h d (List.mem_cons_of_mem c hd)]
    simp [h c List.mem_cons_self]

theorem pieces_append_cons (a b : List Char) {k : Char} (hk : p k = true) :
    pieces p (a ++ k :: b) = pieces p a ++ pieces p b := by
  induction a with
  | nil => simp [pieces, hk]
  | cons c a ih =>
    by_cases hc : p c = true
    · simp [pieces, hc, ih]
    · rw [List.cons_append, pieces, ih, pieces]
      cases h : pieces p a with
      | nil => exact absurd h (pieces_ne_nil p a)
      | cons w ws => simp [hc]

theorem false_of_mem_pieces {s w : List Char} (hw : w ∈ pieces p s) : ∀ c ∈ w, p c = false := by
  induction s generalizing w with
  | nil =>
    simp only [pieces, List.mem_singleton] at hw
    simp [hw]
  | cons d r ih =>
    rw [pieces] at hw
    by_cases hd : p d = true
    · rw [if_pos hd] at hw
      obtain rfl | hw := List.mem_cons.mp hw
      · simp
      · exact ih hw
    · rw [if_neg hd] at hw
      cases h : pieces p r with
      | nil => exact absurd h (pieces_ne_nil p r)
      | cons v vs =>
        rw [h] at hw
        obtain rfl | hw := List.mem_cons.mp hw
        · intro c hc
          obtain rfl | hc := List.mem_cons.mp hc
          · simpa using hd
          · exact ih (by simp [h]) c hc
        · exact ih (by simp [h, hw])

theorem mem_of_mem_pieces {s w : List Char} {c : Char} (hw : w ∈ pieces p s) (hc : c ∈ w) :
    c ∈ s := by
  induction s generalizing w with
  | nil => simp_all [pieces]
  | cons d r ih =>
    rw [pieces] at hw
    by_cases hd : p d = true
    · rw [if_pos hd] at hw
      obtain rfl | hw := List.mem_cons.mp hw
      · simp at hc
      · exact List.mem_cons_of_mem d (ih hw hc)
    · rw [if_neg hd] at hw
      cases h : pieces p r with
      | nil => exact absurd h (pieces_ne_nil p r)
      | cons v vs =>
        rw [h] at hw
        obtain rfl | hw := List.mem_cons.mp hw
        · obtain rfl | hc := List.mem_cons.mp hc
          · exact List.mem_cons_self
          · exact List.mem_cons_of_mem d (ih (by simp [h]) hc)
        · exact List.mem_cons_of_mem d (ih (by simp [h, hw]) hc)

theorem exists_mem_pieces {s : List Char} {c : Char} (hc : c ∈ s) (hp : p c = false) :
    ∃ w ∈ pieces p s, c ∈ w := by
  induction s with
  | nil => exact absurd hc List.not_mem_nil
  | cons d r ih =>
    rw [pieces]
    by_cases hd : p d = true
    · rw [if_pos hd]
      obtain rfl | hc := List.mem_cons.mp hc
      · simp [hp] at hd
      · obtain ⟨w, hw, hcw⟩ := ih hc
        exact ⟨w, List.mem_cons_of_mem [] hw, hcw⟩
    · rw [if_neg hd]
      cases hr : pieces p r with
      | nil => exact absurd hr (pieces_ne_nil p r)
      | cons w ws =>
        obtain rfl | hc := List.mem_cons.mp hc
        · exact ⟨c :: w, List.mem_cons_self, List.mem_cons_self⟩
        · obtain ⟨v, hv, hcv⟩ := ih hc
          rw [hr] at hv
          obtain rfl | hv := List.mem_cons.mp hv
          · exact ⟨d :: v, List.mem_cons_self, List.mem_cons_of_mem d hcv⟩
          · exact ⟨v, List.mem_cons_of_mem _ hv, hcv⟩

theorem intercalate_append (sep : List Char) {l m : List (List Char)} (hl : l ≠ []) (hm : m ≠ []) :
    sep.intercalate (l ++ m) = sep.intercalate l ++ sep ++ sep.intercalate m := by
  induction l with
  | nil => exact absurd rfl hl
  | cons w ws ih =>
    cases ws with
    | nil => simp [List.intercalate_cons_of_ne_nil hm]
    | cons v vs =>
      have hvs : v :: vs ++ m ≠ [] := by simp
      rw [List.cons_append, List.intercalate_cons_of_ne_nil hvs, ih (by simp),
        List.intercalate_cons_cons]
      simp only [List.append_assoc]

theorem mem_intercalate {k c : Char} {l : List (List Char)} (h : c ∈ [k].intercalate l) :
    c = k ∨ ∃ w ∈ l, c ∈ w := by
  induction l with
  | nil => simp at h
  | cons w ws ih =>
    cases ws with
    | nil => exact .inr ⟨w, List.mem_cons_self, by simpa using h⟩
    | cons v vs =>
      rw [List.intercalate_cons_cons] at h
      obtain h | h := List.mem_append.mp h
      · obtain h | h := List.mem_append.mp h
        · exact .inr ⟨w, List.mem_cons_self, h⟩
        · exact .inl (List.mem_singleton.mp h)
      · exact (ih h).imp_right fun ⟨u, hu, hc⟩ => ⟨u, List.mem_cons_of_mem w hu, hc⟩

theorem pieces_intercalate {k : Char} {l : List (List Char)} (hl : l ≠ []) (hk : p k = true)
    (h : ∀ w ∈ l, ∀ c ∈ w, p c = false) : pieces p ([k].intercalate l) = l := by
  induction l with
  | nil => exact absurd rfl hl
  | cons w ws ih =>
    have hw : ∀ c ∈ w, p c = false := h w List.mem_cons_self
    cases ws with
    | nil => simpa using pieces_eq_singleton hw
    | cons v vs =>
      have hv := ih (by simp) fun x hx => h x (List.mem_cons_of_mem w hx)
      rw [List.intercalate_cons_of_ne_nil (by simp), List.append_assoc, List.singleton_append,
        pieces_append_cons _ _ hk, pieces_eq_singleton hw, hv, List.singleton_append]

theorem intercalate_pieces (k : Char) (s : List Char) :
    [k].intercalate (pieces (· == k) s) = s := by
  induction s with
  | nil => rfl
  | cons c r ih =>
    cases hr : pieces (· == k) r with
    | nil => exact absurd hr (pieces_ne_nil _ r)
    | cons w ws =>
      rw [hr] at ih
      rw [pieces, hr]
      by_cases hc : c = k
      · simp only [hc, beq_self_eq_true, if_true]
        rw [List.intercalate_cons_of_ne_nil (by simp), ih]
        rfl
      · simp only [beq_iff_eq, hc, if_false]
        cases ws with
        | nil => simpa using ih
        | cons v vs =>
          rw [List.intercalate_cons_of_ne_nil (by simp)] at ih ⊢
          simp only [List.cons_append, ih]

/-! ## At a separator of several characters -/

theorem cutOn?_spec {sep s a b : List Char} (h : cutOn? sep s = some (a, b)) :
    s = a ++ sep ++ b := by
  induction s generalizing a with
  | nil => cases h
  | cons c r ih =>
    rw [cutOn?] at h
    split at h
    · next rest hrest =>
      obtain ⟨rfl, rfl⟩ := Prod.mk.inj (Option.some.inj h)
      exact (List.append_eq_of_isPrefixOf?_eq_some hrest).symm
    · obtain ⟨cut, hcut, heq⟩ := Option.map_eq_some_iff.mp h
      obtain ⟨rfl, rfl⟩ := Prod.mk.inj heq
      rw [List.cons_append, List.cons_append, ← ih hcut]

theorem cutOn?_cons_of_ne {a c : Char} (sep r : List Char) (h : a ≠ c) :
    cutOn? (a :: sep) (c :: r) = (cutOn? (a :: sep) r).map fun cut => (c :: cut.1, cut.2) := by
  simp [cutOn?, List.isPrefixOf?, h]

theorem cutOn?_append_of_not_mem {a : Char} (sep : List Char) {s : List Char} (h : a ∉ s)
    (r : List Char) :
    cutOn? (a :: sep) (s ++ r) = (cutOn? (a :: sep) r).map fun cut => (s ++ cut.1, cut.2) := by
  induction s with
  | nil => simp
  | cons c s ih =>
    have hc : a ≠ c := fun e => h (by simp [e])
    rw [List.cons_append, cutOn?_cons_of_ne sep _ hc, ih fun hm => h (by simp [hm])]
    simp [Function.comp_def]

theorem cutOn?_append_append {a : Char} {sep s : List Char} (h : a ∉ s) (r : List Char) :
    cutOn? (a :: sep) (s ++ (a :: sep ++ r)) = some (s, r) := by
  have hprefix : (a :: sep).isPrefixOf? (a :: sep ++ r) = some r :=
    List.isPrefixOf?_eq_some_iff_append_eq.mpr rfl
  rw [cutOn?_append_of_not_mem sep h, List.cons_append, cutOn?, ← List.cons_append, hprefix]
  simp

theorem exists_cutOn? {sep s : List Char} (hsep : sep ≠ []) (h : sep <:+: s) :
    ∃ a b, cutOn? sep s = some (a, b) := by
  induction s with
  | nil => exact absurd (List.eq_nil_of_infix_nil h) hsep
  | cons c s ih =>
    cases hfirst : sep.isPrefixOf? (c :: s) with
    | some rest => exact ⟨[], rest, by simp [cutOn?, hfirst]⟩
    | none =>
      have hrest : sep <:+: s := by
        refine (List.infix_cons_iff.mp h).resolve_left fun hprefix => ?_
        obtain ⟨rest, hrest⟩ := hprefix
        rw [List.isPrefixOf?_eq_some_iff_append_eq.mpr hrest] at hfirst
        cases hfirst
      obtain ⟨a, b, hcut⟩ := ih hrest
      exact ⟨c :: a, b, by simp [cutOn?, hfirst, hcut]⟩

theorem cutOn?_first {sep s a b x y : List Char} (h : cutOn? sep s = some (a, b))
    (hs : s = x ++ sep ++ y) : a.length ≤ x.length := by
  induction s generalizing a x with
  | nil => cases h
  | cons c r ih =>
    rw [cutOn?] at h
    split at h
    · obtain ⟨rfl, rfl⟩ := Prod.mk.inj (Option.some.inj h)
      exact Nat.zero_le _
    next hfirst =>
    obtain ⟨cut, hcut, heq⟩ := Option.map_eq_some_iff.mp h
    obtain ⟨rfl, rfl⟩ := Prod.mk.inj heq
    cases x with
    | nil =>
      have hprefix := List.isPrefixOf?_eq_some_iff_append_eq.mpr hs.symm
      rw [List.nil_append, hfirst] at hprefix
      cases hprefix
    | cons d x => exact Nat.succ_le_succ (ih hcut (List.cons.inj hs).2)

/-- A text is cut where the separator stands first. -/
theorem cutOn?_eq_some_iff {sep s a b : List Char} (hsep : sep ≠ []) : cutOn? sep s = some (a, b) ↔
    s = a ++ sep ++ b ∧ ∀ x y, s = x ++ sep ++ y → a.length ≤ x.length := by
  refine ⟨fun h => ⟨cutOn?_spec h, fun x y => cutOn?_first h⟩, fun ⟨hs, hleast⟩ => ?_⟩
  obtain ⟨x, y, hcut⟩ := exists_cutOn? hsep (s := s) ⟨a, b, hs.symm⟩
  have hlength : a.length = x.length :=
    Nat.le_antisymm (hleast x y (cutOn?_spec hcut)) (cutOn?_first hcut hs)
  have hsame := hs.symm.trans (cutOn?_spec hcut)
  rw [List.append_assoc, List.append_assoc] at hsame
  obtain ⟨rfl, hrest⟩ := List.append_inj hsame hlength
  rw [hcut, List.append_cancel_left hrest]

theorem cutOn?_eq_none_iff {sep s : List Char} (hsep : sep ≠ []) :
    cutOn? sep s = none ↔ ¬ sep <:+: s := by
  constructor
  · intro hnone hinfix
    obtain ⟨a, b, hcut⟩ := exists_cutOn? hsep hinfix
    rw [hnone] at hcut
    cases hcut
  · intro hinfix
    rw [Option.eq_none_iff_forall_ne_some]
    rintro ⟨a, b⟩ hcut
    exact hinfix ⟨a, b, (cutOn?_spec hcut).symm⟩

theorem cutOn?_append {sep s a b : List Char} (h : cutOn? sep s = some (a, b)) (r : List Char) :
    cutOn? sep (s ++ r) = some (a, b ++ r) := by
  induction s generalizing a with
  | nil => cases h
  | cons c s ih =>
    rw [cutOn?] at h
    rw [List.cons_append, cutOn?]
    split at h
    · next rest hfirst =>
      obtain ⟨rfl, rfl⟩ := Prod.mk.inj (Option.some.inj h)
      have happend := List.isPrefixOf?_eq_some_iff_append_eq.mp hfirst
      have hlonger : sep.isPrefixOf? (c :: (s ++ r)) = some (rest ++ r) :=
        List.isPrefixOf?_eq_some_iff_append_eq.mpr (by rw [← List.append_assoc, happend]; rfl)
      rw [hlonger]
    · next hfirst =>
      obtain ⟨⟨a', b'⟩, hcut, heq⟩ := Option.map_eq_some_iff.mp h
      obtain ⟨rfl, rfl⟩ := Prod.mk.inj heq
      -- An occurrence at the start of the longer text would end before the one that was found.
      have hnone : sep.isPrefixOf? (c :: (s ++ r)) = none := by
        rw [Option.eq_none_iff_forall_ne_some]
        intro rest hrest
        have hlonger : sep <+: c :: s ++ r := ⟨rest, List.isPrefixOf?_eq_some_iff_append_eq.mp hrest⟩
        have hlength : sep.length ≤ (c :: s).length := by
          rw [cutOn?_spec hcut]
          simp only [List.length_cons, List.length_append]
          omega
        obtain ⟨t, ht⟩ := List.prefix_of_prefix_length_le hlonger (List.prefix_append _ r) hlength
        rw [List.isPrefixOf?_eq_some_iff_append_eq.mpr ht] at hfirst
        cases hfirst
      rw [hnone, ih hcut]
      rfl

end ConsentGate.Text
