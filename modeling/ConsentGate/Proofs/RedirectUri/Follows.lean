import ConsentGate.Proofs.RedirectUri.Resolve
import ConsentGate.Proofs.RedirectUri.Written

namespace ConsentGate.RedirectUri

open Text Url

variable {rules : RedirectSettings} {client : Client} {requested u : String} {v w : Url}

/-- A URL leads where another one does: to the same host or, where the rules allow it, to one below it. -/
structure Follows (rules : RedirectSettings) (v w : Url) : Prop where
  scheme : v.scheme = w.scheme
  username : v.username = w.username
  password : v.password? = w.password?
  path : v.path.render = w.path.render
  host : v.host? = w.host? ∨ rules.matchSubdomains = true ∧ ∃ hv hw f,
    v.host? = some hv ∧ w.host? = some hw ∧ hv.render = f ++ '.' :: hw.render
  port : rules.matchPorts = true → v.effectivePort? = w.effectivePort?

/-- An IPv4 address is written as it is printed. -/
def AddressInFull (text : List Char) (u : Url) : Prop :=
  ∀ n, u.host? = some (.ipv4 n) → writtenHost? text = some (Ipv4.render n)

/-! ## The comparison -/

/-- What two URIs agree in. -/
theorem agrees_spec {a b : Parts} (h : agrees rules a b = true) :
    a.scheme = b.scheme ∧ hostMatches rules a.host b.host = true ∧
      (rules.matchPorts = true → a.port = b.port) ∧ a.userinfo = b.userinfo ∧ a.path = b.path := by
  simp only [agrees, Bool.and_eq_true, beq_iff_eq, Bool.or_eq_true, Bool.not_eq_true'] at h
  obtain ⟨⟨⟨⟨⟨hscheme, hhost⟩, hport⟩, huser⟩, hpath⟩, _⟩ := h
  exact ⟨hscheme, hhost, fun hp => hport.resolve_left (by simp [hp]), huser, hpath⟩

theorem read?_spec {text : List Char} {a : Parts} (h : Parts.read? text = some a) :
    ∃ v, parse text = .ok v ∧ a.scheme = v.scheme ∧
      a.userinfo = (if v.username.isEmpty && v.password?.isNone then none
        else some (v.username, v.password?)) ∧
      a.host = (v.host?.bind fun _ => writtenHost? text) ∧ a.port = writtenPort? text ∧
      a.path = v.path.render := by
  unfold Parts.read? at h
  split at h
  · cases h
  · next v hv =>
    obtain rfl := Option.some.inj h
    exact ⟨v, hv, rfl, rfl, rfl, rfl, rfl⟩

theorem resolve_spec (h : resolve rules client (some requested) = .ok u) :
    ∃ a, Parts.read? u.toList = some a ∧ ∃ g ∈ client.redirectUris.toList, ∃ b,
      Parts.read? (stripFragment g.toList) = some b ∧ agrees rules a b = true := by
  obtain ⟨rfl, _, _, hregistered⟩ := resolve_some_iff.mp h
  rw [String.toList_ofList]
  exact isRegistered_iff.mp hregistered

theorem credentials_of_userinfo
    (h : (if v.username.isEmpty && v.password?.isNone then none
        else some (v.username, v.password?)) =
      (if w.username.isEmpty && w.password?.isNone then none
        else some (w.username, w.password?))) :
    v.username = w.username ∧ v.password? = w.password? := by
  split at h
  · next hv =>
    split at h
    · next hw =>
      simp only [Bool.and_eq_true, List.isEmpty_iff, Option.isNone_iff_eq_none] at hv hw
      rw [hv.1, hv.2, hw.1, hw.2]
      exact ⟨rfl, rfl⟩
    · cases h
  · split at h
    · cases h
    · exact Prod.mk.inj (Option.some.inj h)

/-! ## Hosts and ports -/

theorem hostMatches_some {a : Option (List Char)} {y : List Char}
    (h : hostMatches rules a (some y) = true) :
    ∃ x, a = some x ∧ (x = y ∨ rules.matchSubdomains = true ∧ ∃ f, x = f ++ '.' :: y) := by
  cases a with
  | none => cases h
  | some x =>
    refine ⟨x, rfl, ?_⟩
    simp only [hostMatches, isSubdomain, Bool.or_eq_true, Bool.and_eq_true, beq_iff_eq,
      List.isSuffixOf_iff_suffix] at h
    obtain h | ⟨hsub, ⟨f, hf⟩, _⟩ := h
    · exact .inl h
    · exact .inr ⟨hsub, f, hf.symm⟩

theorem hostMatches_none {a : Option (List Char)} (h : hostMatches rules a none = true) :
    a = none := by
  cases a with
  | none => rfl
  | some x => cases h

theorem writtenHost?_ne_nil {text w : List Char} (h : writtenHost? text = some w) : w ≠ [] := by
  unfold writtenHost? at h
  obtain ⟨s, _, h⟩ := Option.bind_eq_some_iff.mp h
  split at h
  · next r _ =>
    split at h
    · obtain rfl := Option.some.inj h
      simp
    · next front hcut =>
      obtain rfl := Option.some.inj h
      have hfront : (cutAt (· == ']') ('[' :: r)).1 ≠ [] := by simp [cutAt]
      rwa [hcut] at hfront
  · unfold unlessEmpty at h
    split at h
    · cases h
    · next hne =>
      obtain rfl := Option.some.inj h
      simpa using hne

variable {text registered : List Char} {a b : Option (List Char)}

theorem host_of_written (hscheme : v.scheme = w.scheme)
    (ha : a = v.host?.bind fun _ => writtenHost? text)
    (hb : b = w.host?.bind fun _ => writtenHost? registered)
    (hmatch : hostMatches rules a b = true) (hv : HostAsWritten text v)
    (hw : HostAsWritten registered w)
    (hfull : rules.matchSubdomains = true → AddressInFull registered w) :
    v.host? = w.host? ∨ rules.matchSubdomains = true ∧ ∃ hv hw f,
      v.host? = some hv ∧ w.host? = some hw ∧ hv.render = f ++ '.' :: hw.render := by
  cases hwhost : w.host? with
  | none =>
    rw [hwhost, Option.bind_none] at hb
    have hnone := hostMatches_none (hb ▸ hmatch)
    cases hvhost : v.host? with
    | none => exact .inl rfl
    | some host =>
      obtain ⟨x, hx, _⟩ := hv host hvhost
      rw [ha, hvhost, Option.bind_some, hx] at hnone
      cases hnone
  | some g =>
    obtain ⟨y, hy, hyread⟩ := hw g hwhost
    rw [hwhost, Option.bind_some, hy] at hb
    obtain ⟨x, hax, hxy⟩ := hostMatches_some (hb ▸ hmatch)
    rw [ha] at hax
    obtain ⟨host, hvhost, hx⟩ := Option.bind_eq_some_iff.mp hax
    obtain ⟨x', hx', hxread⟩ := hv host hvhost
    obtain rfl := Option.some.inj (hx.symm.trans hx')
    rw [hscheme] at hxread
    obtain rfl | ⟨hsub, f, rfl⟩ := hxy
    · rw [hyread] at hxread
      exact .inl (by rw [hvhost, Except.ok.inj hxread])
    -- `f ++ '.' :: y` is read as a host, and so is `y`: the point is where the longer one may be cut.
    · have haddress : ∀ n, g = .ipv4 n → y = Ipv4.render n := by
        rintro n rfl
        exact Option.some.inj (hy.symm.trans (hfull hsub n hwhost))
      obtain ⟨f', hf'⟩ := Host.read_append (writtenHost?_ne_nil hy) hxread hyread haddress
      exact .inr ⟨hsub, host, g, f', hvhost, rfl, hf'⟩

theorem host_iff_written (hscheme : v.scheme = w.scheme)
    (ha : a = v.host?.bind fun _ => writtenHost? text)
    (hb : b = w.host?.bind fun _ => writtenHost? registered)
    (hmatch : hostMatches rules a b = true) (hsub : rules.matchSubdomains = false)
    (hw : HostAsWritten registered w) : v.host? = w.host? ↔ HostAsWritten text v := by
  constructor
  · intro heq g hg
    obtain ⟨y, hy, hyread⟩ := hw g (heq ▸ hg)
    rw [← heq, hg, Option.bind_some, hy] at hb
    obtain ⟨x, hax, hxy⟩ := hostMatches_some (hb ▸ hmatch)
    rw [ha, hg, Option.bind_some] at hax
    obtain rfl := hxy.resolve_right fun h => absurd h.1 (by simp [hsub])
    exact ⟨x, hax, by rw [hscheme, hyread]⟩
  · intro hv
    refine (host_of_written hscheme ha hb hmatch hv hw fun h => ?_).resolve_right fun h => ?_
    · exact absurd h (by simp [hsub])
    · exact absurd h.1 (by simp [hsub])

theorem port_iff_written (hscheme : v.scheme = w.scheme) (hsome : v.host?.isSome = w.host?.isSome)
    (hv : v.WellFormed) (hw : w.WellFormed) (hport : writtenPort? text = writtenPort? registered)
    (hwritten : PortAsWritten registered w) :
    v.effectivePort? = w.effectivePort? ↔ PortAsWritten text v := by
  cases hwhost : w.host? with
  | none =>
    rw [hwhost] at hsome
    have hvhost : v.host? = none := by simpa using hsome
    have heq : v.effectivePort? = w.effectivePort? := by
      rw [effectivePort?, effectivePort?, hv.port?_eq_none hvhost, hw.port?_eq_none hwhost, hscheme]
    refine ⟨fun _ hsome => ?_, fun _ => heq⟩
    rw [hvhost] at hsome
    cases hsome
  | some g =>
    rw [hwhost] at hsome
    rw [PortAsWritten, hwhost] at hwritten
    rw [PortAsWritten, hwritten rfl, hport, hscheme]
    exact ⟨fun h _ => h, fun h => h hsome⟩

/-! ## Resolved redirect URIs -/

/-- A resolved redirect URI is a URL that agrees with a registered one in scheme, credentials and path.
If both are plain it leads where the registered one does. And where what is written of the registered one
is what is read, and hosts below it do not count, it does so exactly if what is written of its own host
and port is what is read. -/
theorem resolve_follows (rules : RedirectSettings) (client : Client) (requested u : String)
    (h : resolve rules client (some requested) = .ok u) :
    ∃ v, Url.parse u.toList = .ok v ∧ ∃ g ∈ client.redirectUris.toList, ∃ w,
      Url.parse (stripFragment g.toList) = .ok w ∧
      (v.scheme = w.scheme ∧ v.username = w.username ∧ v.password? = w.password? ∧
        v.path.render = w.path.render) ∧
      (isPlain u.toList = true → isPlain (stripFragment g.toList) = true →
        (rules.matchSubdomains = true → AddressInFull (stripFragment g.toList) w) →
        Follows rules v w) ∧
      (rules.matchSubdomains = false → HostAsWritten (stripFragment g.toList) w →
        PortAsWritten (stripFragment g.toList) w →
        (Follows rules v w ↔
          HostAsWritten u.toList v ∧ (rules.matchPorts = true → PortAsWritten u.toList v))) := by
  obtain ⟨a, ha, g, hg, b, hb, hagrees⟩ := resolve_spec h
  obtain ⟨hscheme, hhost, hport, huser, hpath⟩ := agrees_spec hagrees
  obtain ⟨v, hv, hascheme, hauser, hahost, haport, hapath⟩ := read?_spec ha
  obtain ⟨w, hw, hbscheme, hbuser, hbhost, hbport, hbpath⟩ := read?_spec hb
  have hvw : v.scheme = w.scheme := by rw [← hascheme, hscheme, hbscheme]
  have hcredentials : v.username = w.username ∧ v.password? = w.password? :=
    credentials_of_userinfo (by rw [← hauser, huser, hbuser])
  have hpaths : v.path.render = w.path.render := by rw [← hapath, hpath, hbpath]
  have hvwell := wellFormed_of_parse hv
  have hwwell := wellFormed_of_parse hw
  have hports : v.host?.isSome = w.host?.isSome → rules.matchPorts = true →
      PortAsWritten (stripFragment g.toList) w →
      (v.effectivePort? = w.effectivePort? ↔ PortAsWritten u.toList v) := fun hsome hp hwritten =>
    port_iff_written hvw hsome hvwell hwwell (by rw [← haport, hport hp, hbport]) hwritten
  refine ⟨v, hv, g, hg, w, hw, ⟨hvw, hcredentials.1, hcredentials.2, hpaths⟩, ?_, ?_⟩
  · intro hvplain hwplain hfull
    obtain ⟨hvhost, hvport⟩ := asWritten_of_isPlain hv hvplain
    obtain ⟨hwhost, hwport⟩ := asWritten_of_isPlain hw hwplain
    have hhosts := host_of_written hvw hahost hbhost hhost hvhost hwhost hfull
    have hsome : v.host?.isSome = w.host?.isSome := by
      obtain heq | ⟨_, x, y, _, hx, hy, _⟩ := hhosts
      · rw [heq]
      · rw [hx, hy]
        rfl
    exact ⟨hvw, hcredentials.1, hcredentials.2, hpaths, hhosts, fun hp => (hports hsome hp hwport).mpr hvport⟩
  · intro hsub hwhost hwport
    have hhosts := host_iff_written hvw hahost hbhost hhost hsub hwhost
    constructor
    · intro hfollows
      have heq : v.host? = w.host? := hfollows.host.resolve_right fun h => absurd h.1 (by simp [hsub])
      exact ⟨hhosts.mp heq, fun hp => (hports (by rw [heq]) hp hwport).mp (hfollows.port hp)⟩
    · rintro ⟨hvhost, hvport⟩
      have heq := hhosts.mpr hvhost
      exact ⟨hvw, hcredentials.1, hcredentials.2, hpaths, .inl heq,
        fun hp => (hports (by rw [heq]) hp hwport).mpr (hvport hp)⟩

def oneUri : Client :=
  { Client.ofId "foo" with
    redirectUris := .ofList ["https://good.com/cb"]
    grantTypes := .ofList ["authorization_code"] }

theorem resolve_follows_oneUri :
    resolve {} oneUri (some "https://good.com/cb?x=1") = .ok "https://good.com/cb?x=1" ∧
    ∃ v, Url.parse "https://good.com/cb?x=1".toList = .ok v ∧ ∃ g ∈ oneUri.redirectUris.toList,
      ∃ w, Url.parse (stripFragment g.toList) = .ok w ∧ Follows {} v w := by
  have hresolve : resolve {} oneUri (some "https://good.com/cb?x=1") =
      .ok "https://good.com/cb?x=1" := by decide +kernel
  have hplain : isPlain "https://good.com/cb?x=1".toList = true := by decide +kernel
  have hregistered : ∀ g ∈ oneUri.redirectUris.toList,
      isPlain (stripFragment g.toList) = true := by decide +kernel
  obtain ⟨v, hv, g, hg, w, hw, _, hfollows, _⟩ :=
    resolve_follows {} oneUri "https://good.com/cb?x=1" "https://good.com/cb?x=1" hresolve
  exact ⟨hresolve, v, hv, g, hg, w, hw, hfollows hplain (hregistered g hg) (by simp)⟩

/-- Without slashes a host is read that is not the one behind the first `://`. -/
theorem resolve_elsewhere :
    resolve {} oneUri (some "https:evil.com/cb?x=://good.com/") =
      .ok "https:evil.com/cb?x=://good.com/" ∧
    ¬ ∃ v, Url.parse "https:evil.com/cb?x=://good.com/".toList = .ok v ∧
      ∃ g ∈ oneUri.redirectUris.toList, ∃ w,
        Url.parse (stripFragment g.toList) = .ok w ∧ Follows {} v w := by
  refine ⟨by decide +kernel, ?_⟩
  rintro ⟨v, hv, g, hg, w, hw, hfollows⟩
  have hevil : (Url.parse "https:evil.com/cb?x=://good.com/".toList).toOption.bind (·.host?) =
      some (.name "evil.com".toList) := by decide +kernel
  have hgood : ∀ g ∈ oneUri.redirectUris.toList,
      (Url.parse (stripFragment g.toList)).toOption.bind (·.host?) =
        some (.name "good.com".toList) := by decide +kernel
  have hgood := hgood g hg
  rw [hv] at hevil
  rw [hw] at hgood
  have hvhost : v.host? = some (.name "evil.com".toList) := hevil
  have hwhost : w.host? = some (.name "good.com".toList) := hgood
  obtain heq | ⟨hsub, _⟩ := hfollows.host
  · rw [hvhost, hwhost] at heq
    exact absurd heq (by decide)
  · cases hsub

end ConsentGate.RedirectUri
