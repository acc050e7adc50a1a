import ConsentGate.Proofs.Url.Parse
import ConsentGate.RedirectUri.Written

namespace ConsentGate.Url

/-- The port that is connected to. -/
def effectivePort? (u : Url) : Option Nat :=
  u.port?.or (defaultPort? u.scheme)

end ConsentGate.Url

namespace ConsentGate.RedirectUri

open Text Url

variable {text s name tail rest : List Char} {u : Url} {host : Host} {special : Bool}
  {implied port : Option Nat}

/-- The host that is read is the one that is written. -/
def HostAsWritten (text : List Char) (u : Url) : Prop :=
  ∀ h, u.host? = some h →
    ∃ w, writtenHost? text = some w ∧ Host.read (isSpecialScheme u.scheme) w = .ok h

/-- The port that is connected to is the one that is written, or else the one that the scheme implies. -/
def PortAsWritten (text : List Char) (u : Url) : Prop :=
  u.host?.isSome = true →
    u.effectivePort? = ((writtenPort? text).map Digits.value).or (defaultPort? u.scheme)

/-- Tells the texts in which what stands behind the first `://` is the authority: without backslashes
and without what does not count in a URL, and with exactly two slashes after the scheme if others would
be read as well. -/
def isPlain (text : List Char) : Bool :=
  clean text == text && !text.contains '\\' &&
    match cutScheme? text with
    | some (scheme, rest) => !isSpecialScheme scheme || isFileScheme scheme ||
        (rest.take 2 == ['/', '/'] && (rest.drop 2).head? != some '/')
    | none => true

/-! ## Cutting an authority by hand -/

theorem not_mem_colon_of_cutHost (h : '[' ∉ (cutHost false s).1) : ':' ∉ (cutHost false s).1 := by
  induction s with
  | nil => simp [cutHost]
  | cons c r ih =>
    rw [cutHost] at h ⊢
    split at h
    · next hc =>
      rw [if_pos hc]
      simp
    · next hc =>
      rw [if_neg hc]
      have hopen : c ≠ '[' := fun heq => h (by simp [heq])
      have hcolon : c ≠ ':' := fun heq => hc (by simp [heq])
      have hinside : (if c == '[' then true else if c == ']' then false else false) = false := by
        simp [hopen]
      rw [hinside] at h ⊢
      have hr := ih fun hm => h (List.mem_cons_of_mem c hm)
      simp [hr, hcolon.symm]

theorem tail_cases (hback : '\\' ∉ s) (hcut : cutHost false s = (name, tail))
    (hport : readPort implied tail = .ok (port, rest)) :
    (s = name ∧ port = none) ∨ ∃ ds, s = name ++ ':' :: ds ∧ (∀ c ∈ ds, c.isDigit = true) ∧
      port = if ds.isEmpty || implied == some (Digits.value ds) then none
        else some (Digits.value ds) := by
  obtain ⟨hs, htail⟩ := cutHost_spec false s
  rw [hcut] at hs htail
  obtain ⟨hhead, hnone, _⟩ | ⟨ds, htext, hdigits, _, hrest, heq⟩ := readPort_spec hport
  · have hnil : tail = [] := htail.resolve_right hhead
    exact .inl ⟨by rw [hs, hnil, List.append_nil], hnone⟩
  -- Only a backslash could end the port before the authority ends.
  · have hnil : rest = [] := by
      refine hrest.resolve_right fun hhead => hback ?_
      have hm := List.mem_of_mem_head? hhead
      rw [hs, htext]
      simp [hm]
    rw [hnil, List.append_nil] at htext
    exact .inr ⟨ds, by rw [hs, htext], hdigits, heq⟩

theorem or_implied_of_digits {ds : List Char} :
    (if ds.isEmpty || implied == some (Digits.value ds) then none
      else some (Digits.value ds)).or implied =
    ((unlessEmpty ds).map Digits.value).or implied := by
  unfold unlessEmpty
  cases hempty : ds.isEmpty with
  | true => simp
  | false =>
    by_cases himplied : implied = some (Digits.value ds)
    · simp [himplied]
    · simp [himplied]

theorem written_unbracketed {c : Char} {r : List Char} (hc : c ≠ '[')
    (ha : writtenAuthority? text = some (c :: r)) :
    writtenHost? text = unlessEmpty (before (· == ':') (c :: r)) ∧
      writtenPort? text = (cutLast? (· == ':') (c :: r)).bind fun cut => unlessEmpty cut.2 := by
  constructor
  · unfold writtenHost?
    rw [ha]
    simp only [Option.bind_eq_bind, Option.bind_some]
    split
    · next heq => exact absurd (List.cons.inj heq).1 hc
    · rfl
  · unfold writtenPort?
    rw [ha]
    simp only [Option.bind_eq_bind, Option.bind_some]
    split
    · next heq => exact absurd (List.cons.inj heq).1 hc
    · rfl

theorem or_implied_of_none : (none : Option Nat).or implied =
    ((none : Option (List Char)).map Digits.value).or implied :=
  rfl

theorem written_of_name (ha : writtenAuthority? text = some s) (hback : '\\' ∉ s)
    (hcut : cutHost false s = (name, tail)) (hne : name ≠ []) (hopen : '[' ∉ name)
    (hport : readPort implied tail = .ok (port, rest)) :
    writtenHost? text = some name ∧
      port.or implied = ((writtenPort? text).map Digits.value).or implied := by
  have hcolon : ':' ∉ name := by
    have hname := not_mem_colon_of_cutHost (s := s) (by rwa [hcut])
    rwa [hcut] at hname
  have hnocolon := beq_false_of_not_mem hcolon
  obtain ⟨c, r, rfl⟩ := List.exists_cons_of_ne_nil hne
  have hc : c ≠ '[' := fun heq => hopen (by simp [heq])
  obtain ⟨rfl, rfl⟩ | ⟨ds, rfl, hdigits, rfl⟩ := tail_cases hback hcut hport
  · obtain ⟨hwritten, hwrittenPort⟩ := written_unbracketed hc ha
    rw [hwritten, hwrittenPort, before_eq_self hnocolon, cutLast?_eq_none hnocolon]
    exact ⟨rfl, or_implied_of_none⟩
  · rw [List.cons_append] at ha
    obtain ⟨hwritten, hwrittenPort⟩ := written_unbracketed hc ha
    have hds : ':' ∉ ds := fun hm => absurd (hdigits ':' hm) (by decide)
    have hbefore : before (· == ':') (c :: r ++ ':' :: ds) = c :: r :=
      before_append_cons hnocolon rfl
    have hlast : cutLast? (· == ':') (c :: r ++ ':' :: ds) = some (c :: r, ds) :=
      cutLast?_append_cons rfl (beq_false_of_not_mem hds)
    rw [List.cons_append] at hbefore hlast
    rw [hwritten, hwrittenPort, hbefore, hlast, or_implied_of_digits]
    exact ⟨rfl, rfl⟩

theorem written_of_brackets {x : List Char} (ha : writtenAuthority? text = some s) (hback : '\\' ∉ s)
    (hcut : cutHost false s = ('[' :: (x ++ [']']), tail)) (hclose : ']' ∉ x)
    (hport : readPort implied tail = .ok (port, rest)) :
    writtenHost? text = some ('[' :: (x ++ [']'])) ∧
      port.or implied = ((writtenPort? text).map Digits.value).or implied := by
  have hclose : ']' ∉ '[' :: x := by simpa using hclose
  have hcutAt : ∀ e, cutAt (· == ']') ('[' :: (x ++ ']' :: e)) = ('[' :: x, some e) := fun e =>
    cutAt_append_cons (beq_false_of_not_mem hclose) rfl
  have hcutOn : ∀ e, cutOn? [']', ':'] ('[' :: (x ++ ']' :: e)) =
      (cutOn? [']', ':'] (']' :: e)).map fun cut => ('[' :: x ++ cut.1, cut.2) := fun e =>
    cutOn?_append_of_not_mem [':'] hclose (']' :: e)
  obtain ⟨rfl, rfl⟩ | ⟨ds, rfl, _, rfl⟩ := tail_cases hback hcut hport
  · have hempty : cutOn? [']', ':'] [']'] = none := by decide
    have hwritten : writtenPort? text = none := by simp [writtenPort?, ha, hcutOn, hempty]
    refine ⟨by simp [writtenHost?, ha, hcutAt], ?_⟩
    rw [hwritten, or_implied_of_none]
  · simp only [List.cons_append, List.append_assoc, List.nil_append] at ha
    have hfound : cutOn? [']', ':'] (']' :: ':' :: ds) = some ([], ds) := rfl
    have hwritten : writtenPort? text = unlessEmpty ds := by
      simp [writtenPort?, ha, hcutOn, hfound]
    refine ⟨by simp [writtenHost?, ha, hcutAt], ?_⟩
    rw [hwritten, or_implied_of_digits]

theorem written_of_authority (ha : writtenAuthority? text = some s) (hback : '\\' ∉ s)
    (hcut : cutHost false s = (name, tail)) (hne : name ≠ [])
    (hread : Host.read special name = .ok host)
    (hport : readPort implied tail = .ok (port, rest)) :
    writtenHost? text = some name ∧
      port.or implied = ((writtenPort? text).map Digits.value).or implied := by
  by_cases hhead : name.head? = some '['
  · obtain ⟨t, rfl⟩ := List.head?_eq_some_iff.mp hhead
    obtain ⟨x, groups, rfl, hx, _⟩ := Host.readBracketed_spec (h := host) hread
    have hclose : ']' ∉ x := fun hm => absurd (Ipv6.isAddressChar_of_parse? hx ']' hm) (by decide)
    exact written_of_brackets ha hback hcut hclose hport
  · have hopen : '[' ∉ name := Host.not_mem_of_read (by decide) hhead hread
    exact written_of_name ha hback hcut hne hopen hport

/-! ## Plain texts -/

/-- An authority ends where path, query or fragment begin. -/
theorem before_authority {r tail : List Char} (hr : ∀ c ∈ r, c ≠ '#' ∧ c ≠ '?')
    (ht : IsTail tail) :
    before (fun c => c == '/' || c == '?' || c == '#') (r ++ tail) = before (· == '/') r := by
  induction r with
  | nil =>
    obtain rfl | ht | ht := ht
    · rfl
    · obtain ⟨t, rfl⟩ := List.head?_eq_some_iff.mp ht
      rfl
    · obtain ⟨t, rfl⟩ := List.head?_eq_some_iff.mp ht
      rfl
  | cons c r ih =>
    obtain ⟨hsharp, hquestion⟩ := hr c List.mem_cons_self
    have hrest := ih fun d hd => hr d (List.mem_cons_of_mem c hd)
    simp only [before, List.cons_append, List.takeWhile_cons] at hrest ⊢
    rw [hrest]
    simp [hsharp, hquestion]

theorem writtenAuthority?_of {t r tail : List Char} (ht : ':' ∉ t)
    (hr : ∀ c ∈ r, c ≠ '#' ∧ c ≠ '?')
    (htail : IsTail tail)
    (h : text = t ++ ':' :: ('/' :: '/' :: r ++ tail)) :
    writtenAuthority? text = some (afterUser (before (· == '/') r)) := by
  have hcut : cutOn? [':', '/', '/'] text = some (t, r ++ tail) := by
    rw [h]
    exact cutOn?_append_append ht (r ++ tail)
  simp only [writtenAuthority?, hcut, Option.bind_eq_bind, Option.bind_some,
    before_authority hr htail, afterUser]
  split
  · next hlast => simp [hlast]
  · next hlast => simp [hlast]

theorem slashes_of_isPlain {scheme : List Char} (hplain : isPlain text = true)
    (hcut : cutScheme? text = some (scheme, rest ++ tail))
    (htail : IsTail tail)
    (hspecial : isSpecialScheme scheme = true) (hfile : isFileScheme scheme = false) :
    ∃ r, rest = '/' :: '/' :: r ∧ r.head? ≠ some '/' := by
  have hslashes : (rest ++ tail).take 2 = ['/', '/'] ∧ ((rest ++ tail).drop 2).head? ≠ some '/' := by
    simp only [isPlain, hcut, hspecial, hfile, Bool.not_true, Bool.false_or, Bool.and_eq_true,
      beq_iff_eq, bne_iff_ne] at hplain
    exact hplain.2
  have hhead : tail.head? ≠ some '/' := by
    rcases htail with rfl | htail | htail <;> simp [*]
  obtain ⟨htake, hdrop⟩ := hslashes
  match rest, htake, hdrop with
  | [], htake, _ =>
    cases tail with
    | nil => cases htake
    | cons c t => simp_all
  | [c], htake, _ =>
    cases tail with
    | nil => simp at htake
    | cons d t => simp_all
  | c :: d :: r, htake, hdrop =>
    simp only [List.cons_append, List.take_succ_cons, List.take_zero, List.cons.injEq] at htake
    refine ⟨r, by rw [htake.1, htake.2.1], fun hr => hdrop ?_⟩
    simp [List.head?_append, hr]

theorem written_of_isPlain (h : parse text = .ok u) (hplain : isPlain text = true)
    (hhost : u.host? = some host) :
    ∃ w, writtenHost? text = some w ∧ Host.read (isSpecialScheme u.scheme) w = .ok host ∧
      u.effectivePort? = ((writtenPort? text).map Digits.value).or (defaultPort? u.scheme) := by
  obtain ⟨a, hauthority, hhost⟩ := Option.bind_eq_some_iff.mp hhost
  obtain ⟨t, rest, tail, followed, htext, hcolon, hcut, _, hrest, htail, hbody, _⟩ := parse_spec h
  have hclean : clean text = text := by
    simp only [isPlain, Bool.and_eq_true, beq_iff_eq] at hplain
    exact hplain.1.1
  have hback : '\\' ∉ text := by
    simp only [isPlain, Bool.and_eq_true] at hplain
    simpa using hplain.1.2
  rw [hclean] at htext hcut
  rw [hauthority] at hbody
  obtain ⟨r, name, tail', rest', rfl, hcutHost, hne, hread, hport⟩ :=
    readBody_host hbody hhost (fun hm => hback (by simp [htext, hm]))
      (slashes_of_isPlain hplain hcut htail)
  have hr : ∀ c ∈ r, c ≠ '#' ∧ c ≠ '?' := fun c hc => hrest c (by simp [hc])
  have hwritten := writtenAuthority?_of hcolon hr htail htext
  have hplace : '\\' ∉ afterUser (before (· == '/') r) := by
    intro hm
    have hm := mem_of_mem_before (mem_of_mem_afterUser hm)
    exact hback (by simp [htext, hm])
  obtain ⟨hw, hp⟩ := written_of_authority hwritten hplace hcutHost hne hread hport
  have hportEq : u.port? = a.port := by rw [port?, hauthority, Option.bind_some]
  exact ⟨name, hw, hread, by rw [effectivePort?, hportEq, hp]⟩

theorem asWritten_of_isPlain (h : parse text = .ok u) (hplain : isPlain text = true) :
    HostAsWritten text u ∧ PortAsWritten text u := by
  constructor
  · intro x hx
    obtain ⟨w, hw, hread, _⟩ := written_of_isPlain h hplain hx
    exact ⟨w, hw, hread⟩
  · intro hsome
    obtain ⟨x, hx⟩ := Option.isSome_iff_exists.mp hsome
    obtain ⟨_, _, _, hport⟩ := written_of_isPlain h hplain hx
    exact hport

end ConsentGate.RedirectUri
