import ConsentGate.Proofs.Collection.Reading
import ConsentGate.Proofs.Text.Digits
import ConsentGate.Proofs.Url.Host.Read
import ConsentGate.Url.Parse

namespace ConsentGate.Url

open Text

variable {scheme : List Char}

/-! ## Reading in two steps -/

def readUser (auth : List Char) (followed : Bool) :
    Except UrlError ((List Char × Option (List Char)) × List Char) :=
  match cutLast? (· == '@') auth with
  | none => .ok (([], none), auth)
  | some ([], []) => if followed then .error .emptyHost else .ok (([], none), [])
  | some ([], rest) => .ok (([], none), rest)
  | some (user, rest) => .ok (readCredentials user, rest)

def readPlace (scheme : List Char) (user : List Char × Option (List Char)) (s : List Char) :
    Except UrlError (Authority × List Char) :=
  let (name, tail) := cutHost false s
  if name = [] then
    if isSpecialScheme scheme || tail.head? == some ':' || user != ([], none) then .error .emptyHost
    else .ok (⟨[], none, none, none⟩, tail)
  else
    match Host.read (isSpecialScheme scheme) name with
    | .error e => .error e
    | .ok host => (readPort (defaultPort? scheme) tail).map fun r =>
      (⟨user.1, user.2, some host, r.1⟩, r.2)

/-- Host and port, each check of the reader made where the reader makes it. -/
def readBehind (scheme : List Char) (user : Option (List Char × Option (List Char)))
    (s : List Char) : Except UrlError (Authority × List Char) := do
  let (username, password) := user.getD ([], none)
  let (name, rest) := cutHost false s
  if isSpecialScheme scheme && name.isEmpty then throw .emptyHost
  let host ← if name.isEmpty then .ok none else (Host.read (isSpecialScheme scheme) name).map some
  if host.isNone && rest.head? == some ':' then throw .emptyHost
  let (port, rest) ← readPort (defaultPort? scheme) rest
  if host.isNone && (!username.isEmpty || password.isSome) then throw .emptyHost
  return (⟨username, password, host, port⟩, rest)

theorem cutHost_spec (inside : Bool) (s : List Char) :
    s = (cutHost inside s).1 ++ (cutHost inside s).2 ∧
      ((cutHost inside s).2 = [] ∨ (cutHost inside s).2.head? = some ':') := by
  fun_induction cutHost inside s with
  | case1 inside => exact ⟨rfl, .inl rfl⟩
  | case2 inside c r hc =>
    refine ⟨rfl, .inr ?_⟩
    simp only [Bool.and_eq_true, beq_iff_eq] at hc
    rw [hc.1, List.head?_cons]
  | case3 inside c r _ cut ih => exact ⟨by rw [List.cons_append, ← ih.1], ih.2⟩

theorem readBehind_eq (scheme : List Char) (user : Option (List Char × Option (List Char)))
    (s : List Char) : readBehind scheme user s = readPlace scheme (user.getD ([], none)) s := by
  unfold readBehind readPlace
  obtain ⟨username, password⟩ := user.getD ([], none)
  have htail := (cutHost_spec false s).2
  generalize cutHost false s = cut at htail ⊢
  obtain ⟨name, tail⟩ := cut
  by_cases hname : name = []
  · subst hname
    obtain rfl | hhead := htail
    -- Nothing is left behind an empty name, so the last check sees what the first one lets through.
    · cases isSpecialScheme scheme <;> cases username <;> cases password <;>
        simp [readPort, bind, Except.bind, pure, Except.pure, throw, throwThe,
          MonadExceptOf.throw]
    · cases isSpecialScheme scheme <;>
        simp [hhead, bind, Except.bind, throw, throwThe, MonadExceptOf.throw]
  · have hempty : name.isEmpty = false := by simpa using hname
    simp only [hempty, hname, if_false, Bool.and_false, Bool.false_eq_true]
    cases Host.read (isSpecialScheme scheme) name with
    | error e => rfl
    | ok host =>
      cases readPort (defaultPort? scheme) tail with
      | error e => rfl
      | ok r => rfl

theorem readAuthority_eq (scheme auth : List Char) (followed : Bool) :
    readAuthority scheme auth followed =
      readUser auth followed >>= fun r => readPlace scheme r.1 r.2 := by
  unfold readAuthority readUser
  cases cutLast? (· == '@') auth with
  | none => exact readBehind_eq scheme none auth
  | some cut =>
    obtain ⟨user, rest⟩ := cut
    cases user with
    | cons c user => exact readBehind_eq scheme (some (readCredentials (c :: user))) rest
    | nil =>
      cases rest with
      | cons c rest => exact readBehind_eq scheme none (c :: rest)
      | nil =>
        cases followed with
        | true => rfl
        | false => exact readBehind_eq scheme none []

/-! ## What is read -/

/-- What reading promises of an authority. -/
structure Authority.WellFormed (scheme : List Char) (a : Authority) : Prop where
  username : ∀ c ∈ a.username, keepsUserinfo c = true
  password : ∀ p, a.password = some p → p ≠ [] ∧ ∀ c ∈ p, keepsUserinfo c = true
  host : ∀ h, a.host = some h → h.WellFormed (isSpecialScheme scheme) ∧ h.render ≠ []
  port : ∀ n, a.port = some n → n ≤ 65535 ∧ defaultPort? scheme ≠ some n
  bare : a.host = none → isSpecialScheme scheme = false ∧ a = ⟨[], none, none, none⟩

def afterUser (auth : List Char) : List Char :=
  ((cutLast? (· == '@') auth).map Prod.snd).getD auth

theorem mem_of_mem_afterUser {auth : List Char} {c : Char} (h : c ∈ afterUser auth) : c ∈ auth := by
  rw [afterUser] at h
  obtain ⟨hnone, _⟩ | ⟨a, k, b, _, _, rfl, hsome⟩ := cutLast?_spec (p := (· == '@')) auth
  · rwa [hnone] at h
  · rw [hsome] at h
    simp only [Option.map_some, Option.getD_some] at h
    simp [h]

theorem readCredentials_spec (s : List Char) :
    (∀ c ∈ (readCredentials s).1, keepsUserinfo c = true) ∧
      ∀ p, (readCredentials s).2 = some p → p ≠ [] ∧ ∀ c ∈ p, keepsUserinfo c = true := by
  have hkeep : ∀ t : List Char, ∀ c ∈ Percent.encode keepsUserinfo t, keepsUserinfo c = true :=
    fun _ _ hc => Percent.keeps_of_mem_encode keepsEscapes_userinfo hc
  refine ⟨hkeep _, fun p hp => ?_⟩
  simp only [readCredentials] at hp
  split at hp
  · cases hp
  · cases hp
  · next q hne _ =>
    obtain rfl := Option.some.inj hp
    exact ⟨fun h => hne (Percent.encode_eq_nil h), hkeep q⟩

theorem readUser_spec {auth rest : List Char} {followed : Bool}
    {user : List Char × Option (List Char)} (h : readUser auth followed = .ok (user, rest)) :
    rest = afterUser auth ∧ (∀ c ∈ user.1, keepsUserinfo c = true) ∧
      ∀ p, user.2 = some p → p ≠ [] ∧ ∀ c ∈ p, keepsUserinfo c = true := by
  unfold readUser at h
  unfold afterUser
  split at h
  · next hcut =>
    obtain ⟨rfl, rfl⟩ := Prod.mk.inj (Except.ok.inj h)
    simp [hcut]
  · next hcut =>
    split at h
    · cases h
    · obtain ⟨rfl, rfl⟩ := Prod.mk.inj (Except.ok.inj h)
      simp [hcut]
  · next hcut =>
    obtain ⟨rfl, rfl⟩ := Prod.mk.inj (Except.ok.inj h)
    simp [hcut]
  · next hcut =>
    obtain ⟨rfl, rfl⟩ := Prod.mk.inj (Except.ok.inj h)
    exact ⟨by simp [hcut], readCredentials_spec _⟩

theorem readPort_spec {implied port : Option Nat} {s rest : List Char}
    (h : readPort implied s = .ok (port, rest)) :
    (s.head? ≠ some ':' ∧ port = none ∧ rest = s) ∨
      ∃ ds, s = ':' :: (ds ++ rest) ∧ (∀ c ∈ ds, c.isDigit = true) ∧ Digits.value ds ≤ 65535 ∧
        (rest = [] ∨ rest.head? = some '\\') ∧
        port = if ds.isEmpty || implied == some (Digits.value ds) then none
          else some (Digits.value ds) := by
  unfold readPort at h
  split at h
  · next r =>
    dsimp only at h
    split at h
    · cases h
    next hvalue =>
    split at h
    · next hrest =>
      obtain ⟨rfl, rfl⟩ := Prod.mk.inj (Except.ok.inj h)
      refine .inr ⟨r.takeWhile Char.isDigit, by rw [List.takeWhile_append_dropWhile],
        fun c hc => List.mem_takeWhile_imp hc, by omega, ?_, rfl⟩
      simpa using hrest
    · cases h
  · next hs =>
    obtain ⟨rfl, rfl⟩ := Prod.mk.inj (Except.ok.inj h)
    refine .inl ⟨fun hhead => ?_, rfl, rfl⟩
    obtain ⟨r, rfl⟩ := List.head?_eq_some_iff.mp hhead
    exact hs r rfl

theorem readAuthority_spec {auth rest : List Char} {followed : Bool} {a : Authority}
    (h : readAuthority scheme auth followed = .ok (a, rest)) :
    a.WellFormed scheme ∧
      ((cutHost false (afterUser auth) = ([], rest) ∧ rest = [] ∧ a.host = none) ∨
        ∃ name tail host, cutHost false (afterUser auth) = (name, tail) ∧ name ≠ [] ∧
          Host.read (isSpecialScheme scheme) name = .ok host ∧ a.host = some host ∧
          readPort (defaultPort? scheme) tail = .ok (a.port, rest)) := by
  rw [readAuthority_eq] at h
  obtain ⟨⟨user, s⟩, huser, hplace⟩ := bind_eq_ok.mp h
  obtain ⟨rfl, hname, hpass⟩ := readUser_spec huser
  have htail := (cutHost_spec false (afterUser auth)).2
  cases hcut : cutHost false (afterUser auth) with
  | mk name tail =>
  rw [hcut] at htail
  simp only [readPlace, hcut] at hplace
  split at hplace
  · next hempty =>
    split at hplace
    · cases hplace
    next hcond =>
    obtain ⟨rfl, rfl⟩ := Prod.mk.inj (Except.ok.inj hplace)
    simp only [Bool.or_eq_true, beq_iff_eq, bne_iff_ne, not_or, not_not] at hcond
    have hrest : tail = [] := htail.resolve_right hcond.1.2
    exact ⟨⟨by simp, by simp, by simp, by simp, fun _ => ⟨by simpa using hcond.1.1, rfl⟩⟩,
      .inl ⟨by rw [hempty], hrest, rfl⟩⟩
  · next hne =>
    split at hplace
    · cases hplace
    next host hhost =>
    obtain ⟨⟨port, t⟩, hport, heq⟩ := map_eq_ok.mp hplace
    obtain ⟨rfl, rfl⟩ := Prod.mk.inj heq
    refine ⟨⟨hname, hpass, ?_, ?_, by simp⟩, .inr ⟨name, tail, host, rfl, hne, hhost, rfl, hport⟩⟩
    · intro h hh
      obtain rfl := Option.some.inj hh
      exact ⟨Host.wellFormed_of_read hne hhost, Host.render_ne_nil_of_read hne hhost⟩
    · intro n hn
      obtain ⟨_, rfl, _⟩ | ⟨ds, _, _, hvalue, _, rfl⟩ := readPort_spec hport
      · cases hn
      · dsimp only at hn
        split at hn
        · cases hn
        · next hcond =>
          obtain rfl := Option.some.inj hn
          simp only [Bool.or_eq_true, beq_iff_eq, not_or] at hcond
          exact ⟨hvalue, hcond.2⟩

/-! ## Printed authorities -/

theorem cutHost_outside {s t : List Char} (hs : ∀ c ∈ s, c ≠ ':' ∧ c ≠ '[' ∧ c ≠ ']')
    (ht : t = [] ∨ t.head? = some ':') : cutHost false (s ++ t) = (s, t) := by
  induction s with
  | nil =>
    obtain rfl | ht := ht
    · rfl
    · obtain ⟨r, rfl⟩ := List.head?_eq_some_iff.mp ht
      rfl
  | cons c s ih =>
    obtain ⟨hcolon, hopen, hclose⟩ := hs c List.mem_cons_self
    have hr := ih fun d hd => hs d (List.mem_cons_of_mem c hd)
    simp [cutHost, hcolon, hopen, hclose, hr]

theorem cutHost_inside {s t : List Char} (hs : ∀ c ∈ s, c ≠ '[' ∧ c ≠ ']')
    (ht : t = [] ∨ t.head? = some ':') :
    cutHost false ('[' :: s ++ ']' :: t) = ('[' :: s ++ [']'], t) := by
  have hin : cutHost true (s ++ ']' :: t) = (s ++ [']'], t) := by
    induction s with
    | nil =>
      have hout := cutHost_outside (s := []) (by simp) ht
      simp only [List.nil_append] at hout
      simp [cutHost, hout]
    | cons c s ih =>
      obtain ⟨hopen, hclose⟩ := hs c List.mem_cons_self
      have hr := ih fun d hd => hs d (List.mem_cons_of_mem c hd)
      simp [cutHost, hopen, hclose, hr]
  simp [cutHost, hin]

theorem cutHost_render {special : Bool} {h : Host} (hw : h.WellFormed special) {t : List Char}
    (ht : t = [] ∨ t.head? = some ':') : cutHost false (h.render ++ t) = (h.render, t) := by
  cases h with
  | name s =>
    refine cutHost_outside (fun c hc => ?_) ht
    have hforbidden := (Host.mem_name hw hc).2
    refine ⟨?_, ?_, ?_⟩ <;> · rintro rfl; exact absurd hforbidden (by decide)
  | ipv4 n =>
    refine cutHost_outside (fun c hc => ?_) ht
    obtain hd | rfl := Ipv4.mem_render hc
    · refine ⟨?_, ?_, ?_⟩ <;> · rintro rfl; exact absurd hd (by decide)
    · decide
  | ipv6 groups =>
    have hin : ∀ c ∈ Ipv6.render groups, c ≠ '[' ∧ c ≠ ']' := by
      intro c hc
      have haddress := Ipv6.isAddressChar_of_mem_render hc
      refine ⟨?_, ?_⟩ <;> · rintro rfl; exact absurd haddress (by decide)
    have hcut := cutHost_inside hin ht
    simpa [Host.render] using hcut

def portText : Option Nat → List Char
  | some n => ':' :: Nat.toDigits 10 n
  | none => []

theorem readPort_portText {implied port : Option Nat}
    (h : ∀ n, port = some n → n ≤ 65535 ∧ implied ≠ some n) :
    readPort implied (portText port) = .ok (port, []) := by
  cases port with
  | none => rfl
  | some n =>
    obtain ⟨hn, himplied⟩ := h n rfl
    have hdigits : ∀ c ∈ Nat.toDigits 10 n, c.isDigit = true := fun c hc =>
      Nat.isDigit_of_mem_toDigits (by omega) (by omega) hc
    have htake : (Nat.toDigits 10 n).takeWhile Char.isDigit = Nat.toDigits 10 n :=
      List.takeWhile_eq_self_iff.mpr hdigits
    have hdrop : (Nat.toDigits 10 n).dropWhile Char.isDigit = [] :=
      List.dropWhile_eq_nil_iff.mpr hdigits
    simp only [portText, readPort, htake, hdrop, Digits.value_toDigits]
    rw [if_neg (by omega)]
    simp [himplied, Nat.toDigits_ne_nil]

theorem readCredentials_plain {u : List Char} (hu : ∀ c ∈ u, keepsUserinfo c = true) :
    readCredentials u = (u, none) := by
  have hcolon := beq_false_of_not_mem fun hm => absurd (hu ':' hm) (by decide)
  simp only [readCredentials, cutAt_eq_self hcolon, Percent.encode_eq_self hu]

theorem readCredentials_append {u p : List Char} (hu : ∀ c ∈ u, keepsUserinfo c = true)
    (hne : p ≠ []) (hp : ∀ c ∈ p, keepsUserinfo c = true) :
    readCredentials (u ++ ':' :: p) = (u, some p) := by
  have hcolon := beq_false_of_not_mem fun hm => absurd (hu ':' hm) (by decide)
  have hcut : cutAt (· == ':') (u ++ ':' :: p) = (u, some p) := cutAt_append_cons hcolon (by decide)
  obtain ⟨c, q, rfl⟩ := List.exists_cons_of_ne_nil hne
  simp only [readCredentials, hcut, Percent.encode_eq_self hu, Percent.encode_eq_self hp]

theorem readUser_render {a : Authority} (hw : a.WellFormed scheme) {s : List Char} (hs : '@' ∉ s)
    (followed : Bool) :
    readUser (a.credentials ++ s) followed = .ok ((a.username, a.password), s) := by
  have hat := beq_false_of_not_mem hs
  have hread : ∀ t : List Char, t ≠ [] → readUser (t ++ '@' :: s) followed =
      .ok (readCredentials t, s) := by
    intro t ht
    obtain ⟨c, r, rfl⟩ := List.exists_cons_of_ne_nil ht
    rw [readUser, cutLast?_append_cons (by decide) hat]
  obtain ⟨username, password, host, port⟩ := a
  cases password with
  | none =>
    cases username with
    | nil => rw [Authority.credentials, List.nil_append, readUser, cutLast?_eq_none hat]
    | cons c u =>
      rw [Authority.credentials, List.append_assoc, List.singleton_append, hread _ (by simp),
        readCredentials_plain hw.username]
  | some p =>
    obtain ⟨hne, hp⟩ := hw.password p rfl
    have hcredentials : Authority.credentials ⟨username, some p, host, port⟩ =
        username ++ ':' :: p ++ ['@'] := by
      cases username <;> rfl
    rw [hcredentials, List.append_assoc, List.singleton_append, hread _ (by simp),
      readCredentials_append hw.username hne hp]

theorem render_eq_append {a : Authority} {h : Host} (hh : a.host = some h) :
    a.render = a.credentials ++ (h.render ++ portText a.port) := by
  rw [Authority.render, hh, List.append_assoc]
  cases a.port <;> rfl

theorem mem_portText {port : Option Nat} {c : Char} (h : c ∈ portText port) :
    c = ':' ∨ c.isDigit = true := by
  cases port with
  | none => exact absurd h List.not_mem_nil
  | some n =>
    obtain rfl | h := List.mem_cons.mp h
    · exact .inl rfl
    · exact .inr (Nat.isDigit_of_mem_toDigits (by omega) (by omega) h)

theorem isHostChar_of_keepsUserinfo {c : Char} (h : keepsUserinfo c = true) :
    Host.isHostChar c = true := by
  simp only [keepsUserinfo, keepsPath, keepsFragment, Bool.and_eq_true, Bool.not_eq_true',
    Bool.or_eq_false_iff] at h
  simp [Host.isHostChar, keepsFlat, h]

theorem isHostChar_of_mem_portText {port : Option Nat} {c : Char} (h : c ∈ portText port) :
    Host.isHostChar c = true := by
  obtain rfl | hd := mem_portText h
  · decide
  · exact Host.isHostChar_of_isAddressChar (by simp [Ipv6.isAddressChar, Ipv6.isDigit_of_isDigit hd])

theorem mem_credentials {a : Authority} (hw : a.WellFormed scheme) {c : Char}
    (hc : c ∈ a.credentials) : Host.isHostChar c = true ∨ c = '@' := by
  have hsub : c ∈ a.username ∨ c = ':' ∨ c = '@' ∨ ∃ p, a.password = some p ∧ c ∈ p := by
    unfold Authority.credentials at hc
    split at hc
    · exact absurd hc List.not_mem_nil
    · obtain hc | hc := List.mem_append.mp hc
      · exact .inl hc
      · exact .inr (.inr (.inl (List.mem_singleton.mp hc)))
    · next p hp =>
      obtain hc | hc := List.mem_append.mp hc
      · obtain hc | hc := List.mem_append.mp hc
        · exact .inl hc
        · obtain rfl | hc := List.mem_cons.mp hc
          · exact .inr (.inl rfl)
          · exact .inr (.inr (.inr ⟨p, hp, hc⟩))
      · exact .inr (.inr (.inl (List.mem_singleton.mp hc)))
  obtain hc | rfl | rfl | ⟨p, hp, hc⟩ := hsub
  · exact .inl (isHostChar_of_keepsUserinfo (hw.username c hc))
  · exact .inl (by decide)
  · exact .inr rfl
  · exact .inl (isHostChar_of_keepsUserinfo ((hw.password p hp).2 c hc))

theorem mem_authority {a : Authority} (hw : a.WellFormed scheme) {c : Char} (hc : c ∈ a.render) :
    Host.isHostChar c = true ∨ c = '@' := by
  cases hhost : a.host with
  | none =>
    obtain ⟨_, rfl⟩ := hw.bare hhost
    exact absurd hc List.not_mem_nil
  | some h =>
    rw [render_eq_append hhost] at hc
    obtain hc | hc := List.mem_append.mp hc
    · exact mem_credentials hw hc
    · obtain hc | hc := List.mem_append.mp hc
      · exact .inl (Host.mem_render (hw.host h hhost).1 hc)
      · exact .inl (isHostChar_of_mem_portText hc)

theorem readAuthority_render {a : Authority} (hw : a.WellFormed scheme) (followed : Bool) :
    readAuthority scheme a.render followed =
      if a.host.all (Host.isReadable (isSpecialScheme scheme)) then .ok (a, [])
      else .error .badDomain := by
  cases hhost : a.host with
  | none =>
    obtain ⟨hspecial, rfl⟩ := hw.bare hhost
    rw [readAuthority_eq]
    simp [Authority.render, Authority.credentials, readUser, cutLast?, bind, Except.bind, readPlace,
      cutHost, hspecial]
  | some h =>
    obtain ⟨hwell, hne⟩ := hw.host h hhost
    have hat : '@' ∉ h.render ++ portText a.port := by
      intro hm
      obtain hm | hm := List.mem_append.mp hm
      · exact absurd (Host.mem_render hwell hm) (by decide)
      · exact absurd (isHostChar_of_mem_portText hm) (by decide)
    have htail : portText a.port = [] ∨ (portText a.port).head? = some ':' := by
      cases a.port with
      | none => exact .inl rfl
      | some n => exact .inr rfl
    rw [readAuthority_eq, render_eq_append hhost, readUser_render hw hat]
    simp only [bind, Except.bind, readPlace, cutHost_render hwell htail, if_neg hne,
      Host.read_render hwell, readPort_portText hw.port]
    cases hreadable : h.isReadable (isSpecialScheme scheme) with
    | false => simp [hreadable]
    | true =>
      obtain ⟨username, password, host, port⟩ := a
      simp_all [Except.map]

end ConsentGate.Url
