import ConsentGate.Idna.ToAscii
import ConsentGate.Proofs.Idna.Label

namespace ConsentGate.Idna

open Unicode

variable {s d : List Char}

structure Reads (s d : List Char) (labels : List Label) : Prop where
  read : ∃ t, prepare? s = some t ∧ (Text.pieces (· == '.') t).mapM Label.read? = some labels
  name : d = ['.'].intercalate (labels.map Label.ascii)
  directions : directionsFit (labels.map Label.unicode) = true
  allowed : ∀ c ∈ d, isDenied c = false

theorem toAscii?_iff : toAscii? s = some d ↔ ∃ labels, Reads s d labels := by
  constructor
  · intro h
    simp only [toAscii?, Option.bind_eq_bind, Option.bind_eq_some_iff] at h
    obtain ⟨t, ht, labels, hlabels, h⟩ := h
    split at h
    · next hc =>
      obtain rfl := Option.some.inj h
      simp only [Bool.and_eq_true, Bool.not_eq_true', List.any_eq_false] at hc
      exact ⟨labels, ⟨t, ht, hlabels⟩, rfl, hc.1, fun c hcd => by simpa using hc.2 c hcd⟩
    · cases h
  · rintro ⟨labels, ⟨t, ht, hlabels⟩, rfl, hdirections, hallowed⟩
    simp only [toAscii?, ht, hlabels, Option.bind_eq_bind, Option.bind_some]
    rw [if_pos]
    simpa [hdirections] using hallowed

theorem Reads.ne_nil {labels : List Label} (h : Reads s d labels) : labels ≠ [] := by
  obtain ⟨t, _, hlabels⟩ := h.read
  exact mapM_ne_nil hlabels (Text.pieces_ne_nil _ t)

theorem Reads.mem_ascii {labels : List Label} (h : Reads s d labels) {l : Label} (hl : l ∈ labels) :
    ∀ c ∈ l.ascii, isAscii c = true ∧ c.isUpper = false ∧ c ≠ '.' := by
  obtain ⟨t, ht, hlabels⟩ := h.read
  obtain ⟨w, hw, hread⟩ := mem_of_mem_mapM hlabels hl
  refine Label.mem_ascii hread (fun c hc => ?_) fun hpoint => ?_
  · exact isUpper_of_mem_prepare? ht c (Text.mem_of_mem_pieces hw hc)
  · simpa using Text.false_of_mem_pieces hw '.' hpoint

theorem Reads.pieces {labels : List Label} (h : Reads s d labels) :
    Text.pieces (· == '.') d = labels.map Label.ascii := by
  rw [h.name]
  apply Text.pieces_intercalate (by simpa using h.ne_nil) (by decide)
  intro w hw c hc
  obtain ⟨l, hl, rfl⟩ := List.mem_map.mp hw
  simpa using (h.mem_ascii hl c hc).2.2

theorem mem_toAscii? (h : toAscii? s = some d) {c : Char} (hc : c ∈ d) :
    isAscii c = true ∧ c.isUpper = false ∧ isDenied c = false := by
  obtain ⟨labels, hreads⟩ := toAscii?_iff.mp h
  have hlabel : isAscii c = true ∧ c.isUpper = false := by
    by_cases hpoint : c = '.'
    · rw [hpoint]
      decide
    · obtain ⟨w, hw, hcw⟩ :=
        Text.exists_mem_pieces (p := (· == '.')) hc (by simpa using hpoint)
      rw [hreads.pieces] at hw
      obtain ⟨l, hl, rfl⟩ := List.mem_map.mp hw
      exact ⟨(hreads.mem_ascii hl c hcw).1, (hreads.mem_ascii hl c hcw).2.1⟩
  exact ⟨hlabel.1, hlabel.2, hreads.allowed c hc⟩

theorem toAscii?_append {a b e : List Char} (h : toAscii? (a ++ '.' :: b) = some d)
    (hb : toAscii? b = some e) : ∃ f, d = f ++ '.' :: e := by
  obtain ⟨labels, hreads⟩ := toAscii?_iff.mp h
  obtain ⟨labels', hreads'⟩ := toAscii?_iff.mp hb
  obtain ⟨t, ht, hlabels⟩ := hreads.read
  obtain ⟨t', ht', hlabels'⟩ := hreads'.read
  obtain ⟨ta, tb, hta, htb, rfl⟩ := prepare?_append_cons (by decide) (by decide) ht
  obtain rfl : tb = t' := Option.some.inj (htb.symm.trans ht')
  rw [Text.pieces_append_cons _ _ (by decide)] at hlabels
  obtain ⟨ma, mb, hma, hmb, rfl⟩ := mapM_append_some hlabels
  obtain rfl : mb = labels' := Option.some.inj (hmb.symm.trans hlabels')
  have hne : ma ≠ [] := mapM_ne_nil hma (Text.pieces_ne_nil _ ta)
  refine ⟨['.'].intercalate (ma.map Label.ascii), ?_⟩
  rw [hreads.name, hreads'.name, List.map_append,
    Text.intercalate_append _ (by simpa using hne) (by simpa using hreads'.ne_nil)]
  simp

theorem isUpper_of_isDenied {c : Char} (h : isDenied c = true) : c.isUpper = false := by
  rw [Bool.eq_false_iff]
  intro hupper
  have hrange := Text.isUpper_iff.mp hupper
  simp only [isDenied, Bool.or_eq_true, decide_eq_true_eq, beq_iff_eq, Text.eq_iff_toNat] at h
  simp only [Char.reduceToNat] at h
  omega

theorem toAscii?_eq_none_of_mem {c : Char} (hc : c ∈ s) (hi : isInert c = true)
    (hd : isDenied c = true) : toAscii? s = none := by
  have hpoint : c ≠ '.' := fun heq => by simp [heq, isDenied] at hd
  have hupper := isUpper_of_isDenied hd
  cases h : toAscii? s with
  | none => rfl
  | some d =>
    obtain ⟨labels, hreads⟩ := toAscii?_iff.mp h
    obtain ⟨t, ht, hlabels⟩ := hreads.read
    obtain ⟨a, b, rfl⟩ := List.append_of_mem hc
    -- What `c` is prepared to is `c`, so it stands in a label.
    obtain ⟨ta, tb, _, _, rfl⟩ := prepare?_append_cons hi hupper ht
    obtain ⟨w, hw, hcw⟩ := Text.exists_mem_pieces (p := (· == '.'))
      (show c ∈ ta ++ c :: tb by simp) (by simpa using hpoint)
    obtain ⟨l, hl, hread⟩ := mem_of_mapM hlabels hw
    obtain ⟨hascii, _⟩ | ⟨_, hinternational, _⟩ := Label.read?_spec hread
    · have hcd : c ∈ d := by
        rw [← hascii] at hcw
        have hmem : l.ascii ∈ Text.pieces (· == '.') d := by
          rw [hreads.pieces]
          exact List.mem_map_of_mem hl
        exact Text.mem_of_mem_pieces hmem hcw
      simp [hreads.allowed c hcd] at hd
    · simp only [isInternational, Bool.and_eq_true, Bool.not_eq_true', List.any_eq_false]
        at hinternational
      exact absurd hd (hinternational.1.2 c hcw)

def isReadableName (d : List Char) : Bool :=
  (Text.pieces (· == '.') d).all isReadable

/-- A name in ASCII form is its own ASCII form, as far as it can be read. -/
theorem toAscii?_toAscii? (h : toAscii? s = some d) :
    toAscii? d = if isReadableName d then some d else none := by
  obtain ⟨labels, hreads⟩ := toAscii?_iff.mp h
  obtain ⟨t, ht, hlabels⟩ := hreads.read
  have hself : prepare? d = some d := by
    refine prepare?_eq_self (List.all_eq_true.mpr fun c hc => (mem_toAscii? h hc).1) fun c hc => ?_
    exact (mem_toAscii? h hc).2.1
  split
  · next hreadable =>
    -- The labels of `d` are those that it was made of: each ASCII form reads as the label it comes from.
    refine toAscii?_iff.mpr ⟨labels, ⟨d, hself, ?_⟩, hreads.name, hreads.directions, hreads.allowed⟩
    rw [hreads.pieces]
    refine mapM_map_some fun l hl => ?_
    obtain ⟨w, _, hread⟩ := mem_of_mem_mapM hlabels hl
    refine Label.read?_ascii hread ?_ ?_
    · exact List.all_eq_true.mpr fun c hc => (hreads.mem_ascii hl c hc).1
    · apply List.all_eq_true.mp hreadable _
      rw [hreads.pieces]
      exact List.mem_map_of_mem hl
  · next hreadable =>
    cases hd : toAscii? d with
    | none => rfl
    | some d' =>
      obtain ⟨labels', hreads'⟩ := toAscii?_iff.mp hd
      obtain ⟨t', ht', hlabels'⟩ := hreads'.read
      obtain rfl : d = t' := Option.some.inj (hself.symm.trans ht')
      refine absurd (List.all_eq_true.mpr fun w hw => ?_) hreadable
      obtain ⟨l, _, hread⟩ := mem_of_mapM hlabels' hw
      cases hr : isReadable w with
      | true => rfl
      | false => simp [Label.read?_eq_none hr] at hread

theorem isRightToLeft_of_isAscii {c : Char} (h : isAscii c = true) : isRightToLeft c = false := by
  simp [isRightToLeft, h]

theorem toAscii?_of_digits (h : ∀ c ∈ s, c.isDigit = true ∨ c = '.') : toAscii? s = some s := by
  have hrange : ∀ c ∈ s, c.toNat = 46 ∨ 48 ≤ c.toNat ∧ c.toNat ≤ 57 := by
    intro c hc
    obtain hd | rfl := h c hc
    · exact .inr (Text.isDigit_iff.mp hd)
    · exact .inl rfl
  have hascii : ∀ c ∈ s, isAscii c = true := by
    intro c hc
    have := hrange c hc
    simp only [isAscii, decide_eq_true_eq]
    omega
  have hupper : ∀ c ∈ s, c.isUpper = false := by
    intro c hc
    rw [Bool.eq_false_iff, ne_eq, Text.isUpper_iff]
    have := hrange c hc
    omega
  have hread : ∀ w ∈ Text.pieces (· == '.') s, Label.read? w = some ⟨w, w⟩ := by
    intro w hw
    have hmem : ∀ c ∈ w, c ∈ s := fun c hc => Text.mem_of_mem_pieces hw hc
    -- No label is Punycode, whose mark begins with an `x`.
    have hmark : afterMark? w = none := by
      unfold afterMark?
      split
      · have := hrange 'x' (hmem 'x' (by simp))
        simp at this
      · rfl
    rw [Label.read?, hmark]
    exact if_pos (List.all_eq_true.mpr fun c hc => hascii c (hmem c hc))
  refine toAscii?_iff.mpr ⟨_, ⟨s, prepare?_eq_self (List.all_eq_true.mpr hascii) hupper,
    mapM_eq_map hread⟩, ?_, ?_, ?_⟩
  · simp [Function.comp_def, Text.intercalate_pieces]
  · have hnone : ((Text.pieces (· == '.') s).map fun w => (⟨w, w⟩ : Label)).map Label.unicode =
        Text.pieces (· == '.') s := by simp [Function.comp_def]
    rw [hnone, directionsFit, Bool.or_eq_true, Bool.not_eq_true', List.any_eq_false]
    refine .inl fun w hw => ?_
    simp only [List.any_eq_true, not_exists, not_and, Bool.not_eq_true]
    exact fun c hc => isRightToLeft_of_isAscii (hascii c (Text.mem_of_mem_pieces hw hc))
  · intro c hc
    have := hrange c hc
    rw [Bool.eq_false_iff]
    intro hd
    simp only [isDenied, Bool.or_eq_true, decide_eq_true_eq, beq_iff_eq, Text.eq_iff_toNat] at hd
    simp only [Char.reduceToNat] at hd
    omega

end ConsentGate.Idna
