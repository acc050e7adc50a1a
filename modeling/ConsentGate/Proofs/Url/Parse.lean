import ConsentGate.Proofs.Url.Body

namespace ConsentGate.Url

open Text

variable {u : Url}

def IsScheme (s : List Char) : Prop :=
  ∃ c r, s = c :: r ∧ c.isAlpha = true ∧ (∀ d ∈ r, isSchemeChar d = true) ∧
    ∀ d ∈ s, d.isUpper = false

/-- What reading promises of a URL. -/
structure WellFormed (u : Url) : Prop where
  scheme : IsScheme u.scheme
  body : Body u.scheme u.authority u.path
  query : ∀ q, u.query = some q → ∀ c ∈ q, keepsQuery (isSpecialScheme u.scheme) c = true
  fragment : ∀ f, u.fragment = some f → ∀ c ∈ f, keepsFragment c = true

theorem WellFormed.port?_eq_none (h : u.WellFormed) (hnone : u.host? = none) : u.port? = none := by
  have hbody := h.body
  cases hauth : u.authority with
  | none => rw [port?, hauth, Option.bind_none]
  | some a =>
    rw [host?, hauth, Option.bind_some] at hnone
    rw [port?, hauth, Option.bind_some]
    rw [hauth] at hbody
    generalize u.path = p at hbody
    cases hbody with
    | file host l hs hhost hl hseg hdrop => rfl
    | hierarchy a l hs ha hl hseg => rw [(ha.bare hnone).2]

/-! ## Reading the scheme -/

theorem isSchemeChar_toLower {c : Char} (h : isSchemeChar c = true) :
    isSchemeChar c.toLower = true := by
  cases hupper : c.isUpper with
  | false => rwa [toLower_eq_self hupper]
  | true =>
    have halpha : c.isAlpha = true := isAlpha_iff.mpr (.inl (isUpper_iff.mp hupper))
    simp [isSchemeChar, Char.isAlphanum, isAlpha_toLower halpha]

theorem cutScheme?_cons {c : Char} {r : List Char} (hc : c.isAlpha = true)
    (hr : ∀ d ∈ r, isSchemeChar d = true) (rest : List Char) :
    cutScheme? (c :: r ++ ':' :: rest) = some (lower (c :: r), rest) := by
  have hcolon : isSchemeChar ':' = false := by decide
  have htake : (r ++ ':' :: rest).takeWhile isSchemeChar = r := by
    rw [List.takeWhile_append_of_pos hr]
    simp [hcolon]
  have hdrop : (r ++ ':' :: rest).dropWhile isSchemeChar = ':' :: rest := by
    rw [List.dropWhile_append_of_pos hr]
    simp [hcolon]
  simp only [List.cons_append, cutScheme?, hc, if_true, hdrop, htake]

theorem cutScheme?_spec {s scheme rest : List Char} (h : cutScheme? s = some (scheme, rest)) :
    IsScheme scheme ∧ ∃ t, s = t ++ ':' :: rest ∧ ':' ∉ t ∧
      ∀ tail, cutScheme? (s ++ tail) = some (scheme, rest ++ tail) := by
  unfold cutScheme? at h
  split at h
  · cases h
  next c r =>
  split at h
  · next halpha =>
    split at h
    · next rest' hdrop =>
      obtain ⟨rfl, rfl⟩ := Prod.mk.inj (Option.some.inj h)
      have hr : ∀ d ∈ r.takeWhile isSchemeChar, isSchemeChar d = true := fun d hd =>
        List.mem_takeWhile_imp hd
      have hs : c :: r = c :: r.takeWhile isSchemeChar ++ ':' :: rest' := by
        rw [List.cons_append, ← hdrop, List.takeWhile_append_dropWhile]
      refine ⟨⟨c.toLower, lower (r.takeWhile isSchemeChar), rfl, isAlpha_toLower halpha, ?_, ?_⟩,
        c :: r.takeWhile isSchemeChar, hs, ?_, fun tail => ?_⟩
      · intro d hd
        obtain ⟨e, he, rfl⟩ := List.mem_map.mp hd
        exact isSchemeChar_toLower (hr e he)
      · intro d hd
        obtain ⟨e, he, rfl⟩ := List.mem_map.mp hd
        exact isUpper_toLower e
      · intro hm
        obtain rfl | hm := List.mem_cons.mp hm
        · exact absurd halpha (by decide)
        · exact absurd (hr ':' hm) (by decide)
      · rw [hs, List.append_assoc, List.cons_append]
        exact cutScheme?_cons halpha hr _
    · cases h
  · cases h

theorem cutScheme?_append {scheme : List Char} (h : IsScheme scheme) (rest : List Char) :
    cutScheme? (scheme ++ ':' :: rest) = some (scheme, rest) := by
  obtain ⟨c, r, rfl, halpha, hr, hupper⟩ := h
  rw [cutScheme?_cons halpha hr, lower_eq_self hupper]

/-! ## What is read -/

def IsTail (tail : List Char) : Prop :=
  tail = [] ∨ tail.head? = some '#' ∨ tail.head? = some '?'

theorem mem_front_of_cut {s : List Char} {c : Char}
    (hc : c ∈ (cutAt (· == '?') (cutAt (· == '#') s).1).1) : c ≠ '#' ∧ c ≠ '?' := by
  have hquestion := cutAt_fst_false _ c hc
  rw [cutAt_fst] at hc
  have hsharp := cutAt_fst_false _ c (mem_of_mem_before hc)
  exact ⟨by simpa using hsharp, by simpa using hquestion⟩

theorem tail_of_cut (s : List Char) :
    ∃ tail, s = (cutAt (· == '?') (cutAt (· == '#') s).1).1 ++ tail ∧ IsTail tail := by
  have hquery : ∃ a, (cutAt (· == '#') s).1 = (cutAt (· == '?') (cutAt (· == '#') s).1).1 ++ a ∧
      (a = [] ∨ a.head? = some '?') := by
    obtain ⟨_, hs⟩ | ⟨k, r, hk, _, hs⟩ := cutAt_spec (p := (· == '?')) (cutAt (· == '#') s).1
    · exact ⟨[], by rw [List.append_nil, ← hs], .inl rfl⟩
    · exact ⟨k :: r, hs, .inr (by simpa using hk)⟩
  have hfragment : ∃ b, s = (cutAt (· == '#') s).1 ++ b ∧ (b = [] ∨ b.head? = some '#') := by
    obtain ⟨_, hs⟩ | ⟨k, r, hk, _, hs⟩ := cutAt_spec (p := (· == '#')) s
    · exact ⟨[], by rw [List.append_nil, ← hs], .inl rfl⟩
    · exact ⟨k :: r, hs, .inr (by simpa using hk)⟩
  obtain ⟨a, ha, hahead⟩ := hquery
  obtain ⟨b, hb, hbhead⟩ := hfragment
  refine ⟨a ++ b, by rw [← List.append_assoc, ← ha, ← hb], ?_⟩
  cases hahead with
  | inl hnil =>
    rw [hnil, List.nil_append]
    exact hbhead.imp_right .inl
  | inr hahead => exact .inr (.inr (by rw [List.head?_append, hahead, Option.some_or]))

theorem parse_spec {text : List Char} (h : parse text = .ok u) :
    ∃ t rest tail followed, clean text = t ++ ':' :: (rest ++ tail) ∧ ':' ∉ t ∧
      cutScheme? (clean text) = some (u.scheme, rest ++ tail) ∧ IsScheme u.scheme ∧
      (∀ c ∈ rest, c ≠ '#' ∧ c ≠ '?') ∧ IsTail tail ∧
      readBody u.scheme rest followed = .ok (u.authority, u.path) ∧
      (∀ q, u.query = some q → ∀ c ∈ q, keepsQuery (isSpecialScheme u.scheme) c = true) ∧
      ∀ f, u.fragment = some f → ∀ c ∈ f, keepsFragment c = true := by
  unfold parse at h
  dsimp only at h
  split at h
  · cases h
  next scheme rest hcut =>
  obtain ⟨⟨authority, path⟩, hbody, h⟩ := bind_eq_ok.mp h
  obtain rfl := Except.ok.inj h
  obtain ⟨hscheme, t, ht, hcolon, hbehind⟩ := cutScheme?_spec hcut
  obtain ⟨tail, htext, htail⟩ := tail_of_cut (clean text)
  have hfront : ∀ c ∈ rest, c ≠ '#' ∧ c ≠ '?' := fun c hc => mem_front_of_cut (by rw [ht]; simp [hc])
  rw [ht, List.append_assoc, List.cons_append] at htext
  refine ⟨t, rest, tail, _, htext, hcolon, ?_, hscheme, hfront, htail, hbody, fun q hq c hc => ?_,
    fun f hf c hc => ?_⟩
  · have hscheme := hbehind tail
    rwa [ht, List.append_assoc, List.cons_append, ← htext] at hscheme
  · obtain ⟨q, _, rfl⟩ := Option.map_eq_some_iff.mp hq
    exact Percent.keeps_of_mem_encode (keepsEscapes_query _) hc
  · obtain ⟨f, _, rfl⟩ := Option.map_eq_some_iff.mp hf
    exact Percent.keeps_of_mem_encode keepsEscapes_fragment hc

theorem wellFormed_of_parse {text : List Char} (h : parse text = .ok u) : u.WellFormed := by
  obtain ⟨_, _, _, _, _, _, _, hscheme, hrest, _, hbody, hquery, hfragment⟩ := parse_spec h
  exact ⟨hscheme, readBody_spec hrest hbody, hquery, hfragment⟩

/-! ## What is printed -/

def front (u : Url) : List Char :=
  u.scheme ++ ':' :: bodyText u.authority u.path

theorem render_eq (u : Url) : u.render = u.front ++ (u.renderQuery ++ u.renderFragment) := by
  have hfront : u.renderFront ++ u.renderPath = u.front := by
    obtain ⟨scheme, authority, path, query, fragment⟩ := u
    simp only [renderFront, renderPath, front]
    cases authority with
    | some a => simp [bodyText]
    | none =>
      simp only [bodyText]
      split <;> simp_all
  rw [render, hfront, List.append_assoc]

/-- The URL that is read where this one is printed. -/
def settled (u : Url) : Url :=
  { u with
    authority := (settleDrive u.scheme u.authority u.path).1
    path := (settleDrive u.scheme u.authority u.path).2 }

/-- Tells the URLs whose host can be read again. -/
def isReadable (u : Url) : Bool :=
  u.authority.all (Authority.isReadable u.scheme)

def EndsInSpace (u : Url) : Prop :=
  u.query = none ∧ u.fragment = none ∧ ∃ s, u.path = .flat s ∧ s.getLast? = some ' '

theorem mem_scheme {s : List Char} (h : IsScheme s) {c : Char} (hc : c ∈ s) :
    (isPrintable c = true ∧ c ≠ '#' ∧ c ≠ '?') ∧ c ≠ ' ' := by
  obtain ⟨d, r, rfl, hd, hr, _⟩ := h
  have hchar : isSchemeChar c = true := by
    obtain rfl | hc := List.mem_cons.mp hc
    · simp [isSchemeChar, Char.isAlphanum, hd]
    · exact hr c hc
  simp only [isSchemeChar, Bool.or_eq_true, isAlphanum_iff, beq_iff_eq, eq_iff_toNat,
    Char.reduceToNat] at hchar
  simp only [isPrintable, Bool.and_eq_true, decide_eq_true_eq, ne_eq, eq_iff_toNat,
    Char.reduceToNat]
  omega

theorem mem_front (h : u.WellFormed) {c : Char} (hc : c ∈ u.front) :
    isPrintable c = true ∧ c ≠ '#' ∧ c ≠ '?' := by
  obtain hc | hc := List.mem_append.mp hc
  · exact (mem_scheme h.scheme hc).1
  · obtain rfl | hc := List.mem_cons.mp hc
    · decide
    · exact (mem_bodyText h.body hc).1

theorem mem_renderQuery (h : u.WellFormed) {c : Char} (hc : c ∈ u.renderQuery) :
    isPrintable c = true ∧ c ≠ '#' ∧ c ≠ ' ' := by
  unfold renderQuery at hc
  split at hc
  · next q hq =>
    obtain rfl | hc := List.mem_cons.mp hc
    · decide
    · have hkeep := h.query q hq c hc
      simp only [keepsQuery, Bool.and_eq_true, Bool.not_eq_true', Bool.or_eq_false_iff,
        beq_eq_false_iff_ne] at hkeep
      obtain ⟨⟨hprint, ⟨⟨⟨⟨hspace, _⟩, hsharp⟩, _⟩, _⟩⟩, _⟩ := hkeep
      exact ⟨hprint, hsharp, hspace⟩
  · exact absurd hc List.not_mem_nil

theorem mem_renderFragment (h : u.WellFormed) {c : Char} (hc : c ∈ u.renderFragment) :
    isPrintable c = true ∧ c ≠ ' ' := by
  unfold renderFragment at hc
  split at hc
  · next f hf =>
    obtain rfl | hc := List.mem_cons.mp hc
    · decide
    · have hkeep := h.fragment f hf c hc
      simp only [keepsFragment, Bool.and_eq_true, Bool.not_eq_true', Bool.or_eq_false_iff,
        beq_eq_false_iff_ne] at hkeep
      obtain ⟨hprint, ⟨⟨⟨⟨hspace, _⟩, _⟩, _⟩, _⟩⟩ := hkeep
      exact ⟨hprint, hspace⟩
  · exact absurd hc List.not_mem_nil

theorem getLast?_render (h : u.WellFormed) (hend : ¬ u.EndsInSpace) {c : Char}
    (hc : u.render.getLast? = some c) : isPrintable c = true ∧ c ≠ ' ' := by
  rw [render_eq, List.getLast?_append, Option.or_eq_some_iff] at hc
  obtain hc | ⟨hnone, hc⟩ := hc
  · obtain hc | hc := List.mem_append.mp (List.mem_of_getLast? hc)
    · exact ⟨(mem_renderQuery h hc).1, (mem_renderQuery h hc).2.2⟩
    · exact mem_renderFragment h hc
  have hquery : u.query = none ∧ u.fragment = none := by
    rw [List.getLast?_eq_none_iff, List.append_eq_nil_iff] at hnone
    unfold renderQuery renderFragment at hnone
    cases hq : u.query <;> cases hf : u.fragment <;> simp_all
  rw [front, List.getLast?_append, List.getLast?_cons, Option.some_or, Option.some.injEq] at hc
  cases hbody : (bodyText u.authority u.path).getLast? with
  | none =>
    rw [hbody, Option.getD_none] at hc
    exact hc ▸ by decide
  | some d =>
    rw [hbody, Option.getD_some] at hc
    subst hc
    obtain ⟨⟨hprint, _⟩, hspace | ⟨t, ht⟩⟩ := mem_bodyText h.body (List.mem_of_getLast? hbody)
    · exact ⟨hprint, hspace⟩
    · refine ⟨hprint, ?_⟩
      rintro rfl
      -- Only a flat path may hold a space, and then it ends the URL.
      refine hend ⟨hquery.1, hquery.2, t, ht, ?_⟩
      have hflat := h.body
      rw [ht] at hflat hbody
      cases hauth : u.authority with
      | none => rwa [hauth] at hbody
      | some a =>
        rw [hauth] at hflat
        cases hflat

theorem isPrintable_of_mem_render (h : u.WellFormed) {c : Char} (hc : c ∈ u.render) :
    isPrintable c = true := by
  rw [render_eq] at hc
  obtain hc | hc := List.mem_append.mp hc
  · exact (mem_front h hc).1
  · obtain hc | hc := List.mem_append.mp hc
    · exact (mem_renderQuery h hc).1
    · exact (mem_renderFragment h hc).1

theorem clean_render (h : u.WellFormed) (hend : ¬ u.EndsInSpace) : clean u.render = u.render := by
  have houter : ∀ c : Char, isPrintable c = true ∧ c ≠ ' ' → isOuter c = false := by
    rintro c ⟨hprint, hspace⟩
    simp only [isPrintable, Bool.and_eq_true, decide_eq_true_eq] at hprint
    simp only [ne_eq, eq_iff_toNat, Char.reduceToNat] at hspace
    simp only [isOuter, decide_eq_false_iff_not]
    omega
  have hkept : ∀ c ∈ u.render, (!isDropped c) = true := by
    intro c hc
    have hprint := isPrintable_of_mem_render h hc
    simp only [isPrintable, Bool.and_eq_true, decide_eq_true_eq] at hprint
    simp only [isDropped, Bool.not_eq_true', Bool.or_eq_false_iff, beq_eq_false_iff_ne, ne_eq,
      eq_iff_toNat, Char.reduceToNat]
    omega
  have hhead : ∀ c, u.render.head? = some c → isOuter c = false := by
    intro c hc
    apply houter c
    have hm : c ∈ u.scheme := by
      obtain ⟨d, r, hd, _⟩ := h.scheme
      rw [render_eq, front, hd] at hc
      rw [hd]
      simpa using Or.inl hc.symm
    exact ⟨(mem_scheme h.scheme hm).1.1, (mem_scheme h.scheme hm).2⟩
  rw [clean, trim_eq_self hhead fun c hc => houter c (getLast?_render h hend hc),
    List.filter_eq_self.mpr hkept]

theorem cutAt_renderFragment (u : Url) {s : List Char} (hs : '#' ∉ s) :
    cutAt (· == '#') (s ++ u.renderFragment) = (s, u.fragment) := by
  unfold renderFragment
  cases u.fragment with
  | none => rw [List.append_nil, cutAt_eq_self (beq_false_of_not_mem hs)]
  | some f => exact cutAt_append_cons (beq_false_of_not_mem hs) rfl

theorem cutAt_renderQuery (u : Url) {s : List Char} (hs : '?' ∉ s) :
    cutAt (· == '?') (s ++ u.renderQuery) = (s, u.query) := by
  unfold renderQuery
  cases u.query with
  | none => rw [List.append_nil, cutAt_eq_self (beq_false_of_not_mem hs)]
  | some q => exact cutAt_append_cons (beq_false_of_not_mem hs) rfl

theorem map_encode_eq_self {keep : Char → Bool} {o : Option (List Char)}
    (h : ∀ s, o = some s → ∀ c ∈ s, keep c = true) : o.map (Percent.encode keep) = o := by
  cases o with
  | none => rfl
  | some s => rw [Option.map_some, Percent.encode_eq_self (h s rfl)]

theorem cutAt_render (h : u.WellFormed) :
    cutAt (· == '#') u.render = (u.front ++ u.renderQuery, u.fragment) ∧
      cutAt (· == '?') (u.front ++ u.renderQuery) = (u.front, u.query) := by
  have hsharp : '#' ∉ u.front ++ u.renderQuery := by
    intro hm
    obtain hm | hm := List.mem_append.mp hm
    · exact (mem_front h hm).2.1 rfl
    · exact (mem_renderQuery h hm).2.1 rfl
  have hquestion : '?' ∉ u.front := fun hm => (mem_front h hm).2.2 rfl
  rw [render_eq, ← List.append_assoc]
  exact ⟨cutAt_renderFragment u hsharp, cutAt_renderQuery u hquestion⟩

theorem WellFormed.tail_eq {v : Url} (hu : u.WellFormed) (hv : v.WellFormed)
    (h : u.render = v.render) : u.query = v.query ∧ u.fragment = v.fragment := by
  obtain ⟨husharp, huquestion⟩ := cutAt_render hu
  obtain ⟨hvsharp, hvquestion⟩ := cutAt_render hv
  rw [h, hvsharp, Prod.mk.injEq] at husharp
  rw [← husharp.1, hvquestion, Prod.mk.injEq] at huquestion
  exact ⟨huquestion.2.symm, husharp.2.symm⟩

/-- A printed URL reads as itself. -/
theorem parse_render (h : u.WellFormed) (hend : ¬ u.EndsInSpace) :
    parse u.render = if u.isReadable then .ok u.settled else .error .badDomain := by
  obtain ⟨hsharp, hquestion⟩ := cutAt_render h
  unfold parse
  rw [clean_render h hend, hsharp]
  dsimp only
  rw [hquestion]
  dsimp only
  rw [front, cutScheme?_append h.scheme]
  dsimp only
  rw [readBody_bodyText h.body, map_encode_eq_self h.query, map_encode_eq_self h.fragment,
    ← isReadable]
  cases u.isReadable <;> rfl

end ConsentGate.Url
