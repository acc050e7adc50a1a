import ConsentGate.Proofs.Idna.ToAscii
import ConsentGate.Proofs.Url.Escape
import ConsentGate.Proofs.Url.Host.Ipv4
import ConsentGate.Proofs.Url.Host.Ipv6
import ConsentGate.Url.Host.Read

namespace ConsentGate.Url.Host

open Text

/-- What reading promises of a host. -/
def WellFormed (special : Bool) : Host → Prop
  | .name s =>
    if special then s ≠ [] ∧ (∃ t, Idna.toAscii? t = some s) ∧ Ipv4.endsInNumber s = false
    else ∀ c ∈ s, keepsFlat c = true ∧ isForbidden c = false
  | .ipv4 n => special = true ∧ n < 2 ^ 32
  | .ipv6 groups => groups.length = 8 ∧ ∀ g ∈ groups, g < 65536

/-- Tells the hosts whose labels are all short enough to be read again. -/
def isReadable (special : Bool) : Host → Bool
  | .name s => !special || Idna.isReadableName s
  | _ => true

variable {special : Bool} {s : List Char} {h : Host}

/-! ## The three readings -/

theorem readBracketed_spec {r : List Char} (hr : readBracketed r = .ok h) :
    ∃ t groups, r = t ++ [']'] ∧ Ipv6.parse? t = some groups ∧ h = .ipv6 groups := by
  unfold readBracketed at hr
  split at hr
  · next hlast =>
    split at hr
    · next groups hgroups =>
      obtain rfl := Except.ok.inj hr
      obtain ⟨t, rfl⟩ := List.getLast?_eq_some_iff.mp hlast
      rw [List.dropLast_concat] at hgroups
      exact ⟨t, groups, rfl, hgroups, rfl⟩
    · cases hr
  · cases hr

theorem readDomain_spec (hr : readDomain s = .ok h) :
    ∃ d, Idna.toAscii? (Percent.decodeText s) = some d ∧ d ≠ [] ∧
      (Ipv4.endsInNumber d = true ∧ (∃ n, Ipv4.parse? d = some n ∧ h = .ipv4 n) ∨
        Ipv4.endsInNumber d = false ∧ h = .name d) := by
  unfold readDomain at hr
  split at hr
  · cases hr
  · cases hr
  next d hne hd =>
  refine ⟨d, hd, hne, ?_⟩
  split at hr
  · next hnumber =>
    split at hr
    · next n hn => exact .inl ⟨hnumber, n, hn, (Except.ok.inj hr).symm⟩
    · cases hr
  · next hnumber => exact .inr ⟨by simpa using hnumber, (Except.ok.inj hr).symm⟩

theorem readDomain_of {d : List Char} (hd : Idna.toAscii? (Percent.decodeText s) = some d)
    (hne : d ≠ []) :
    readDomain s =
      if Ipv4.endsInNumber d then
        match Ipv4.parse? d with
        | some n => .ok (.ipv4 n)
        | none => .error .badIpv4
      else .ok (.name d) := by
  unfold readDomain
  split
  · next h =>
    rw [hd] at h
    cases h
  · next h =>
    rw [hd] at h
    exact absurd (Option.some.inj h) hne
  · next h =>
    rw [hd] at h
    obtain rfl := Option.some.inj h
    rfl

theorem readOpaque_spec (hr : readOpaque s = .ok h) :
    (∀ c ∈ s, isForbidden c = false) ∧ h = .name (Percent.encode keepsFlat s) := by
  unfold readOpaque at hr
  split at hr
  · cases hr
  · next hs => exact ⟨by simpa using hs, (Except.ok.inj hr).symm⟩

theorem read_cases (special : Bool) (s : List Char) :
    (∃ r, s = '[' :: r ∧ read special s = readBracketed r) ∨
      s.head? ≠ some '[' ∧ read special s = if special then readDomain s else readOpaque s := by
  unfold read
  split
  · next r => exact .inl ⟨r, rfl, rfl⟩
  · next hs =>
    refine .inr ⟨fun hhead => ?_, rfl⟩
    obtain ⟨r, rfl⟩ := List.head?_eq_some_iff.mp hhead
    exact hs r rfl

theorem not_mem_of_read {c : Char} (hc : c ∈ ['[', ']', ':', '@']) (hs : s.head? ≠ some '[')
    (hr : read special s = .ok h) : c ∉ s := by
  have hdelimiter : c.toNat < 128 ∧ c ≠ '%' ∧ Hex.value? c = none ∧ Unicode.isInert c = true ∧
      Idna.isDenied c = true ∧ isForbidden c = true := by
    simp only [List.mem_cons, List.not_mem_nil, or_false] at hc
    rcases hc with rfl | rfl | rfl | rfl <;>
      exact ⟨by decide, by decide, by decide, by decide, by decide, by decide⟩
  obtain ⟨hascii, hpercent, hhex, hinert, hdenied, hforbidden⟩ := hdelimiter
  intro hm
  obtain ⟨r, rfl, _⟩ | ⟨_, hread⟩ := read_cases special s
  · simp at hs
  rw [hread] at hr
  cases special with
  | true =>
    obtain ⟨d, hd, _⟩ := readDomain_spec hr
    obtain ⟨a, b, rfl⟩ := List.append_of_mem hm
    have hdecode : c ∈ Percent.decodeText (a ++ c :: b) := by
      rw [Percent.decodeText_append hascii hpercent hhex]
      simp
    have hnone := Idna.toAscii?_eq_none_of_mem hdecode hinert hdenied
    rw [hnone] at hd
    cases hd
  | false => exact absurd ((readOpaque_spec hr).1 c hm) (by simp [hforbidden])

theorem wellFormed_of_read (hs : s ≠ []) (hr : read special s = .ok h) : h.WellFormed special := by
  obtain ⟨r, rfl, hread⟩ | ⟨_, hread⟩ := read_cases special s
  · rw [hread] at hr
    obtain ⟨t, groups, _, hgroups, rfl⟩ := readBracketed_spec hr
    exact Ipv6.parse?_spec hgroups
  rw [hread] at hr
  cases special with
  | true =>
    obtain ⟨d, hd, hne, ⟨_, n, hn, rfl⟩ | ⟨hnumber, rfl⟩⟩ := readDomain_spec hr
    · simp only [Ipv4.parse?, Option.bind_eq_bind, Option.bind_eq_some_iff] at hn
      obtain ⟨ns, _, hcombine⟩ := hn
      exact ⟨rfl, Ipv4.combine?_lt hcombine⟩
    · exact ⟨hne, ⟨_, hd⟩, hnumber⟩
  | false =>
    obtain ⟨hforbidden, rfl⟩ := readOpaque_spec hr
    intro c hc
    refine ⟨Percent.keeps_of_mem_encode keepsEscapes_flat hc, ?_⟩
    obtain ⟨hc, _⟩ | rfl | ⟨n, hn, rfl⟩ := Percent.mem_encode hc
    · exact hforbidden c hc
    · decide
    · have : ∀ m : Fin 16, isForbidden (Hex.upper m.1) = false := by decide
      exact this ⟨n, hn⟩

theorem render_ne_nil_of_read (hs : s ≠ []) (hr : read special s = .ok h) : h.render ≠ [] := by
  obtain ⟨r, rfl, hread⟩ | ⟨_, hread⟩ := read_cases special s
  · rw [hread] at hr
    obtain ⟨_, groups, _, _, rfl⟩ := readBracketed_spec hr
    simp [render]
  rw [hread] at hr
  cases special with
  | true =>
    obtain ⟨d, _, hne, ⟨_, n, _, rfl⟩ | ⟨_, rfl⟩⟩ := readDomain_spec hr
    · exact Ipv4.render_ne_nil n
    · exact hne
  | false =>
    obtain ⟨_, rfl⟩ := readOpaque_spec hr
    exact fun h => hs (Percent.encode_eq_nil h)

/-! ## Printed hosts -/

def isHostChar (c : Char) : Bool :=
  keepsFlat c && !(c == ' ' || c == '#' || c == '/' || c == '?' || c == '@' || c == '\\')

theorem isHostChar_of_not_isForbidden {c : Char} (hk : keepsFlat c = true)
    (hf : isForbidden c = false) : isHostChar c = true := by
  simp only [isForbidden, Bool.or_eq_false_iff] at hf
  simp [isHostChar, hk, hf]

theorem isHostChar_of_not_isDenied {c : Char} (ha : Unicode.isAscii c = true)
    (hd : Idna.isDenied c = false) : isHostChar c = true := by
  simp only [Idna.isDenied, Bool.or_eq_false_iff, decide_eq_false_iff_not,
    beq_eq_false_iff_ne, ne_eq, eq_iff_toNat, Char.reduceToNat] at hd
  simp only [Unicode.isAscii, decide_eq_true_eq] at ha
  simp only [isHostChar, keepsFlat, isPrintable, Bool.and_eq_true, decide_eq_true_eq,
    Bool.not_eq_true', Bool.or_eq_false_iff, beq_eq_false_iff_ne, ne_eq, eq_iff_toNat,
    Char.reduceToNat]
  omega

theorem isHostChar_of_isAddressChar {c : Char} (h : Ipv6.isAddressChar c = true) :
    isHostChar c = true := by
  have hrange : (48 ≤ c.toNat ∧ c.toNat ≤ 57) ∨ (65 ≤ c.toNat ∧ c.toNat ≤ 70) ∨
      (97 ≤ c.toNat ∧ c.toNat ≤ 102) ∨ c.toNat = 58 ∨ c.toNat = 46 := by
    simp only [Ipv6.isAddressChar, Bool.or_eq_true, beq_iff_eq] at h
    obtain (h | rfl) | rfl := h
    · have := Hex.isDigit_range h
      omega
    · simp
    · simp
  simp only [isHostChar, keepsFlat, isPrintable, Bool.and_eq_true, decide_eq_true_eq,
    Bool.not_eq_true', Bool.or_eq_false_iff, beq_eq_false_iff_ne, ne_eq, eq_iff_toNat,
    Char.reduceToNat]
  omega

theorem isAddressChar_of_mem_ipv4 {n : Nat} {c : Char} (hc : c ∈ Ipv4.render n) :
    Ipv6.isAddressChar c = true := by
  obtain hd | rfl := Ipv4.mem_render hc
  · simp [Ipv6.isAddressChar, Ipv6.isDigit_of_isDigit hd]
  · decide

theorem mem_name (hw : (Host.name s).WellFormed special) {c : Char} (hc : c ∈ s) :
    isHostChar c = true ∧ isForbidden c = false := by
  cases special with
  | false => exact ⟨isHostChar_of_not_isForbidden (hw c hc).1 (hw c hc).2, (hw c hc).2⟩
  | true =>
    obtain ⟨_, ⟨t, ht⟩, _⟩ := hw
    obtain ⟨hascii, _, hdenied⟩ := Idna.mem_toAscii? ht hc
    refine ⟨isHostChar_of_not_isDenied hascii hdenied, ?_⟩
    simp only [Idna.isDenied, Bool.or_eq_false_iff, decide_eq_false_iff_not,
      beq_eq_false_iff_ne, ne_eq, eq_iff_toNat, Char.reduceToNat] at hdenied
    simp only [isForbidden, Bool.or_eq_false_iff, beq_eq_false_iff_ne, ne_eq, eq_iff_toNat,
      Char.reduceToNat]
    omega

theorem mem_render (hw : h.WellFormed special) {c : Char} (hc : c ∈ h.render) :
    isHostChar c = true := by
  cases h with
  | name s => exact (mem_name hw hc).1
  | ipv4 n => exact isHostChar_of_isAddressChar (isAddressChar_of_mem_ipv4 hc)
  | ipv6 groups =>
    simp only [render, List.mem_append, List.mem_cons, List.not_mem_nil, or_false] at hc
    obtain (rfl | hc) | rfl := hc
    · decide
    · exact isHostChar_of_isAddressChar (Ipv6.isAddressChar_of_mem_render hc)
    · decide

theorem toAscii?_render_ipv4 (n : Nat) :
    Idna.toAscii? (Percent.decodeText (Ipv4.render n)) = some (Ipv4.render n) := by
  have hpercent : '%' ∉ Ipv4.render n := fun hm =>
    absurd (isAddressChar_of_mem_ipv4 hm) (by decide)
  rw [Percent.decodeText_eq_self hpercent]
  exact Idna.toAscii?_of_digits fun c hc => Ipv4.mem_render hc

theorem read_render (hw : h.WellFormed special) :
    read special h.render = if h.isReadable special then .ok h else .error .badDomain := by
  have hhead : ∀ s : List Char, '[' ∉ s → s.head? ≠ some '[' :=
    fun s hs hh => hs (List.mem_of_mem_head? hh)
  cases h with
  | name s =>
    have hbracket : '[' ∉ s := fun hm => absurd (mem_name hw hm).2 (by decide)
    obtain ⟨r, rfl, _⟩ | ⟨_, hread⟩ := read_cases special s
    · simp at hbracket
    rw [render, hread]
    cases special with
    | false =>
      have hnone : s.any isForbidden = false := by
        simpa using fun c hc => (mem_name hw hc).2
      rw [if_neg (by simp), readOpaque, hnone, if_neg (by simp),
        Percent.encode_eq_self fun c hc => (hw c hc).1]
      rfl
    | true =>
      obtain ⟨hne, ⟨t, ht⟩, hnumber⟩ := hw
      have hpercent : '%' ∉ s := fun hm => absurd (Idna.mem_toAscii? ht hm).2.2 (by decide)
      have hdecode := Percent.decodeText_eq_self hpercent
      have hascii := Idna.toAscii?_toAscii? ht
      cases hreadable : Idna.isReadableName s with
      | false =>
        rw [hreadable, if_neg (by simp)] at hascii
        rw [if_pos rfl, readDomain, hdecode, hascii]
        simp [isReadable, hreadable]
      | true =>
        rw [hreadable, if_pos rfl] at hascii
        rw [if_pos rfl, readDomain_of (hdecode.symm ▸ hascii) hne, hnumber]
        simp [isReadable, hreadable]
  | ipv4 n =>
    obtain ⟨rfl, hn⟩ := hw
    have hbracket : '[' ∉ Ipv4.render n := fun hm =>
      absurd (isAddressChar_of_mem_ipv4 hm) (by decide)
    obtain ⟨r, hr, _⟩ | ⟨_, hread⟩ := read_cases true (Ipv4.render n)
    · simp [hr] at hbracket
    rw [render, hread, if_pos rfl,
      readDomain_of (toAscii?_render_ipv4 n) (Ipv4.render_ne_nil n),
      Ipv4.endsInNumber_render, Ipv4.parse?_render hn]
    rfl
  | ipv6 groups =>
    simp [render, read, readBracketed, Ipv6.parse?_render hw.1 hw.2, isReadable]

/-! ## Hosts below a host -/

theorem not_mem_of_readBracketed {r : List Char} (hr : readBracketed r = .ok h) : '[' ∉ r := by
  obtain ⟨t, groups, rfl, hgroups, _⟩ := readBracketed_spec hr
  intro hm
  obtain hm | hm := List.mem_append.mp hm
  · exact absurd (Ipv6.isAddressChar_of_parse? hgroups '[' hm) (by decide)
  · exact absurd (List.mem_singleton.mp hm) (by decide)

/-- A host whose text ends in the text of another one, after a point, ends in that host, unless that is
an address that is not written in full. -/
theorem read_append {a b : List Char} {g : Host} (hb : b ≠ [])
    (hh : read special (a ++ '.' :: b) = .ok h) (hg : read special b = .ok g)
    (hfull : ∀ n, g = .ipv4 n → b = Ipv4.render n) : ∃ f, h.render = f ++ '.' :: g.render := by
  -- A bracket in either text would be one inside the longer text.
  obtain ⟨r, rfl, hread⟩ | ⟨hbhead, hbread⟩ := read_cases special b
  · obtain ⟨t, ht, hread'⟩ | ⟨hhead, _⟩ := read_cases special (a ++ '.' :: '[' :: r)
    · rw [hread'] at hh
      cases a with
      | nil => simp at ht
      | cons c a =>
        have hm : '[' ∈ t := by simp [← (List.cons.inj ht).2]
        exact absurd hm (not_mem_of_readBracketed hh)
    · have hm : '[' ∈ a ++ '.' :: '[' :: r := by simp
      exact absurd hm (not_mem_of_read (by decide) hhead hh)
  obtain ⟨t, ht, hread'⟩ | ⟨_, hread'⟩ := read_cases special (a ++ '.' :: b)
  · rw [hread'] at hh
    obtain ⟨t', groups, rfl, hgroups, _⟩ := readBracketed_spec hh
    have hlast : b.getLast? = some ']' := by
      have := congrArg List.getLast? ht
      rwa [Ipv4.getLast?_append_of_ne_nil a (List.cons_ne_nil '.' b), ← List.singleton_append,
        Ipv4.getLast?_append_of_ne_nil _ hb, ← List.cons_append, List.getLast?_concat] at this
    exact absurd (List.mem_of_getLast? hlast) (not_mem_of_read (by decide) hbhead hg)
  rw [hbread] at hg
  rw [hread'] at hh
  cases special with
  | false =>
    obtain ⟨_, rfl⟩ := readOpaque_spec hh
    obtain ⟨_, rfl⟩ := readOpaque_spec hg
    exact ⟨Percent.encode keepsFlat a, by simp [render, Percent.encode_append,
      Percent.encode_cons, show keepsFlat '.' = true by decide]⟩
  | true =>
    obtain ⟨d, hd, hdne, hdcases⟩ := readDomain_spec hh
    obtain ⟨d', hd', hd'ne, hd'cases⟩ := readDomain_spec hg
    rw [Percent.decodeText_append (by decide) (by decide) (by decide)] at hd
    obtain ⟨f, rfl⟩ := Idna.toAscii?_append hd hd'
    rw [Ipv4.endsInNumber_append f hd'ne] at hdcases
    obtain ⟨hnumber, n, hn, rfl⟩ | ⟨hnumber, rfl⟩ := hd'cases
    · rw [hfull n rfl, toAscii?_render_ipv4] at hd'
      obtain rfl := Option.some.inj hd'
      rw [hnumber] at hdcases
      obtain ⟨_, m, hm, _⟩ | ⟨hfalse, _⟩ := hdcases
      · simp [Ipv4.parse?_append_render] at hm
      · cases hfalse
    · rw [hnumber] at hdcases
      obtain ⟨hfalse, _⟩ | ⟨_, rfl⟩ := hdcases
      · cases hfalse
      · exact ⟨f, rfl⟩

end ConsentGate.Url.Host
