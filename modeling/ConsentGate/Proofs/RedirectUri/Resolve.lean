import ConsentGate.Proofs.Url.PathText
import ConsentGate.RedirectUri.Resolve

namespace ConsentGate.RedirectUri

open Text

variable {rules rules' : RedirectSettings} {client client' : Client} {requested uri g : String}
  {text : List Char} {a b : Parts}

/-- A client with a grant type that redirects. -/
def MayRedirect (rules : RedirectSettings) (client : Client) : Prop :=
  ∃ grant ∈ client.grantTypes, grant ∈ rules.grantTypes

/-- Where the path stands in the text of a URL up to its query: from the first slash on behind the first
`://`, or else behind the first colon. A text without colons is all path. -/
inductive WritesPath (front : List Char) : List Char → Prop
  | behindAuthority {scheme authority path : List Char}
      (split : front = scheme ++ [':', '/', '/'] ++ (authority ++ path))
      (first : ∀ a b, front = a ++ [':', '/', '/'] ++ b → scheme.length ≤ a.length)
      (bare : '/' ∉ authority) (rooted : path = [] ∨ path.head? = some '/') : WritesPath front path
  | behindScheme {scheme path : List Char} (split : front = scheme ++ ':' :: path)
      (first : ':' ∉ scheme) (noAuthority : ¬ [':', '/', '/'] <:+: front) : WritesPath front path
  | alone (noScheme : ':' ∉ front) : WritesPath front front

/-- A URL fit for comparison: as it is written it has no character that reading drops or alters, and no
dot segment in its path. -/
structure Comparable (uri : List Char) : Prop where
  reads : ∃ v, Url.parse uri = .ok v
  allowed : ∀ c ∈ uri, isForbidden c = false
  straight : ∀ path, WritesPath (uri.takeWhile (· != '?')) path → Url.Path.IsStraight true path

/-- Rules that let through whatever others do. -/
structure Looser (rules' rules : RedirectSettings) : Prop where
  grantTypes : ∀ grant ∈ rules.grantTypes, grant ∈ rules'.grantTypes
  matchSubdomains : rules.matchSubdomains = true → rules'.matchSubdomains = true
  matchPorts : rules'.matchPorts = true → rules.matchPorts = true

/-- A registration with all grant types and redirect URIs of another one. -/
structure Wider (client' client : Client) : Prop where
  grantTypes : ∀ grant ∈ client.grantTypes, grant ∈ client'.grantTypes
  redirectUris : ∀ g ∈ client.redirectUris, g ∈ client'.redirectUris

theorem MayRedirect.mono (h : MayRedirect rules client) (hrules : Looser rules' rules)
    (hclient : Wider client' client) : MayRedirect rules' client' := by
  obtain ⟨grant, hc, hr⟩ := h
  exact ⟨grant, hclient.grantTypes grant hc, hrules.grantTypes grant hr⟩

theorem mayRedirect_iff :
    client.grantTypes.toList.any rules.grantTypes.contains = true ↔ MayRedirect rules client := by
  simp only [List.any_eq_true, List.contains_iff_mem]
  rfl

/-! ## Texts -/

theorem not_mem_stripFragment (text : List Char) : '#' ∉ stripFragment text := by
  intro h
  simpa using before_false '#' h

theorem stripFragment_eq_self (h : '#' ∉ text) : stripFragment text = text :=
  before_eq_self (beq_false_of_not_mem h)

theorem clean_eq_trim (h : ∀ c ∈ text, isForbidden c = false) : Url.clean text = trim Url.isOuter text := by
  obtain ⟨a, b, htext, _⟩ := trim_spec Url.isOuter text
  refine List.filter_eq_self.mpr fun c hc => ?_
  have hallowed := h c (by rw [htext]; simp [hc])
  simp only [isForbidden, Bool.or_eq_false_iff] at hallowed
  simp [Url.isDropped, hallowed]

theorem writtenPath_of_writesPath {path : List Char}
    (h : WritesPath (text.takeWhile (· != '?')) path) : writtenPath text = path := by
  have hsep : [':', '/', '/'] ≠ [] := List.cons_ne_nil _ _
  unfold writtenPath
  change WritesPath (before (· == '?') text) path at h
  dsimp only
  cases h with
  | @behindAuthority scheme authority path split first bare rooted =>
    have hskip : ∀ c ∈ authority, (c != '/') = true := fun c hc =>
      bne_iff_ne.mpr fun heq => bare (heq ▸ hc)
    rw [(cutOn?_eq_some_iff hsep).mpr ⟨split, first⟩]
    dsimp only
    rw [List.dropWhile_append_of_pos hskip]
    obtain rfl | hhead := rooted
    · rfl
    · obtain ⟨r, rfl⟩ := List.head?_eq_some_iff.mp hhead
      simp
  | behindScheme split first noAuthority =>
    rw [(cutOn?_eq_none_iff hsep).mpr noAuthority, split,
      cutAt_append_cons (beq_false_of_not_mem first) rfl]
    rfl
  | alone noScheme =>
    have hnone : ¬ [':', '/', '/'] <:+: before (· == '?') text :=
      fun h => noScheme (h.subset List.mem_cons_self)
    rw [(cutOn?_eq_none_iff hsep).mpr hnone, cutAt_eq_self (beq_false_of_not_mem noScheme)]
    rfl

theorem writesPath_writtenPath (text : List Char) :
    WritesPath (text.takeWhile (· != '?')) (writtenPath text) := by
  have hsep : [':', '/', '/'] ≠ [] := List.cons_ne_nil _ _
  unfold writtenPath
  change WritesPath (before (· == '?') text) _
  dsimp only
  cases hcut : cutOn? [':', '/', '/'] (before (· == '?') text) with
  | some cut =>
    obtain ⟨scheme, rest⟩ := cut
    obtain ⟨split, first⟩ := (cutOn?_eq_some_iff hsep).mp hcut
    rw [← List.takeWhile_append_dropWhile (p := (· != '/')) (l := rest)] at split
    have hbare : '/' ∉ rest.takeWhile (· != '/') := fun hm => by
      simpa using List.mem_takeWhile_imp hm
    exact .behindAuthority split first hbare (Url.dropWhile_ne_slash rest)
  | none =>
    have hnone := (cutOn?_eq_none_iff hsep).mp hcut
    have hfirst := cutAt_fst_false (p := (· == ':')) (before (· == '?') text)
    have hcolon : ':' ∉ (cutAt (· == ':') (before (· == '?') text)).1 := fun hm => by
      simpa using hfirst ':' hm
    obtain ⟨hrest, hfront⟩ | ⟨k, rest, hk, hrest, hfront⟩ :=
      cutAt_spec (p := (· == ':')) (before (· == '?') text)
    · rw [hrest]
      exact .alone (hfront ▸ hcolon)
    · obtain rfl : k = ':' := beq_iff_eq.mp hk
      rw [hrest]
      exact .behindScheme hfront hcolon hnone

theorem hasDotSegment_iff : hasDotSegment text = false ↔
    ∀ path, WritesPath (text.takeWhile (· != '?')) path → Url.Path.IsStraight true path := by
  have hstraight : hasDotSegment text = false ↔ Url.Path.IsStraight true (writtenPath text) := by
    simp only [hasDotSegment, List.any_eq_false, Bool.or_eq_true, not_or, Bool.not_eq_true]
    rfl
  rw [hstraight]
  exact ⟨fun h path hpath => writtenPath_of_writesPath hpath ▸ h,
    fun h => h _ (writesPath_writtenPath text)⟩

/-! ## Comparison -/

theorem isSome_read?_iff : (∃ a, Parts.read? text = some a) ↔ ∃ v, Url.parse text = .ok v := by
  unfold Parts.read?
  cases Url.parse text <;> simp

theorem hostMatches_self (rules : RedirectSettings) (host : Option (List Char)) :
    hostMatches rules host host = true := by
  cases host <;> simp [hostMatches]

theorem agrees_self (rules : RedirectSettings) (a : Parts) : agrees rules a a = true := by
  have hquery : (a.query.toList.all fun e => a.query.get? e.1 == some e.2) = true := by
    refine List.all_eq_true.mpr fun e he => ?_
    rw [TextMap.mem_toList.mp he, beq_self_eq_true]
  simp [agrees, hostMatches_self, hquery]

theorem hostMatches_mono {x y : Option (List Char)} (hrules : Looser rules' rules)
    (h : hostMatches rules x y = true) : hostMatches rules' x y = true := by
  cases x with
  | none =>
    cases y with
    | none => rfl
    | some y => cases h
  | some x =>
    cases y with
    | none => exact h
    | some y =>
      simp only [hostMatches, Bool.or_eq_true, Bool.and_eq_true] at h ⊢
      exact h.imp_right fun ⟨hsub, hbelow⟩ => ⟨hrules.matchSubdomains hsub, hbelow⟩

theorem agrees_mono (hrules : Looser rules' rules) (h : agrees rules a b = true) :
    agrees rules' a b = true := by
  simp only [agrees, Bool.and_eq_true, Bool.or_eq_true, Bool.not_eq_true'] at h ⊢
  obtain ⟨⟨⟨⟨⟨hscheme, hhost⟩, hport⟩, huser⟩, hpath⟩, hquery⟩ := h
  refine ⟨⟨⟨⟨⟨hscheme, hostMatches_mono hrules hhost⟩, ?_⟩, huser⟩, hpath⟩, hquery⟩
  cases hports : rules'.matchPorts with
  | false => exact .inl rfl
  | true => exact .inr (hport.resolve_left (by simp [hrules.matchPorts hports]))

theorem isRegistered_iff : isRegistered rules client text = true ↔
    ∃ a, Parts.read? text = some a ∧ ∃ g ∈ client.redirectUris, ∃ b,
      Parts.read? (stripFragment g.toList) = some b ∧ agrees rules a b = true := by
  unfold isRegistered
  cases Parts.read? text with
  | none => simp
  | some a =>
    simp only [List.any_eq_true, Option.some.injEq, exists_eq_left']
    refine exists_congr fun g => and_congr_right fun _ => ?_
    cases Parts.read? (stripFragment g.toList) <;> simp

theorem isRegistered_self (hg : g ∈ client.redirectUris)
    (h : ∃ v, Url.parse (stripFragment g.toList) = .ok v) :
    isRegistered rules client (stripFragment g.toList) = true := by
  obtain ⟨a, ha⟩ := isSome_read?_iff.mpr h
  exact isRegistered_iff.mpr ⟨a, ha, g, hg, a, ha, agrees_self rules a⟩

theorem isRegistered_mono (hrules : Looser rules' rules) (hclient : Wider client' client)
    (h : isRegistered rules client text = true) : isRegistered rules' client' text = true := by
  obtain ⟨a, ha, g, hg, b, hb, hagrees⟩ := isRegistered_iff.mp h
  exact isRegistered_iff.mpr
    ⟨a, ha, g, hclient.redirectUris g hg, b, hb, agrees_mono hrules hagrees⟩

/-! ## Resolution -/

theorem resolve_none_iff : resolve rules client none = .ok uri ↔
    MayRedirect rules client ∧ client.redirectUris.toList = [uri] := by
  rw [← mayRedirect_iff]
  unfold resolve
  split
  · next h => simp_all
  next h =>
  split <;> simp_all

/-- A requested redirect URI is returned without its fragment, or not at all. -/
theorem resolve_some_iff : resolve rules client (some requested) = .ok uri ↔
    uri = String.ofList (stripFragment requested.toList) ∧ MayRedirect rules client ∧
      Comparable (stripFragment requested.toList) ∧
      isRegistered rules client (stripFragment requested.toList) = true := by
  rw [← mayRedirect_iff]
  generalize hbare : stripFragment requested.toList = bare
  constructor
  · intro h
    unfold resolve at h
    split at h
    · cases h
    next hgrant =>
    split at h
    · cases h
    · next heq => cases heq
    · next heq _ _ => cases heq
    next heq _ =>
    obtain rfl := Option.some.inj heq
    rw [hbare] at h
    dsimp only at h
    split at h
    · cases h
    next hfit =>
    split at h
    · next hregistered =>
      obtain ⟨a, ha, _⟩ := isRegistered_iff.mp hregistered
      simp only [Bool.or_eq_true, not_or, Bool.not_eq_true, List.any_eq_false] at hfit
      exact ⟨(Except.ok.inj h).symm, by simpa using hgrant,
        ⟨isSome_read?_iff.mp ⟨a, ha⟩, by simpa using hfit.1, hasDotSegment_iff.mp hfit.2⟩, hregistered⟩
    · cases h
  · rintro ⟨rfl, hgrant, hfit, hregistered⟩
    have hforbidden : bare.any isForbidden = false := List.any_eq_false.mpr (by simpa using hfit.allowed)
    obtain ⟨_, _, g, (hg : g ∈ client.redirectUris.toList), _⟩ := isRegistered_iff.mp hregistered
    obtain ⟨f, r, hregistrations⟩ := List.exists_cons_of_ne_nil (List.ne_nil_of_mem hg)
    unfold resolve
    rw [hgrant, hregistrations]
    simp [hbare, hforbidden, hasDotSegment_iff.mpr hfit.straight, hregistered]

/-- What was requested and is returned has no fragment, and is returned again. What was not requested is
returned as it is registered, and again only as far as it has no fragment and may be compared. -/
theorem resolve_again (rules : RedirectSettings) (client : Client) (requested : Option String)
    (uri : String) (h : resolve rules client requested = .ok uri) :
    (requested.isSome = true →
      '#' ∉ uri.toList ∧ resolve rules client (some uri) = .ok uri) ∧
    (requested = none → client.redirectUris.toList = [uri] ∧
      (resolve rules client (some uri) = .ok uri ↔ '#' ∉ uri.toList ∧ Comparable uri.toList) ∧
      ∀ again, resolve rules client (some uri) = .ok again ↔
        Comparable (stripFragment uri.toList) ∧
          again = String.ofList (stripFragment uri.toList)) := by
  cases requested with
  | some requested =>
    refine ⟨fun _ => ?_, fun hnone => by cases hnone⟩
    obtain ⟨rfl, hgrant, hfit, hregistered⟩ := resolve_some_iff.mp h
    have hbare : '#' ∉ stripFragment requested.toList := not_mem_stripFragment _
    rw [resolve_some_iff, String.toList_ofList, stripFragment_eq_self hbare]
    exact ⟨hbare, rfl, hgrant, hfit, hregistered⟩
  | none =>
    refine ⟨fun hsome => (by cases hsome), fun _ => ?_⟩
    obtain ⟨hgrant, honly⟩ := resolve_none_iff.mp h
    have hmem : uri ∈ client.redirectUris.toList := by simp [honly]
    have hagain : ∀ again, resolve rules client (some uri) = .ok again ↔
        Comparable (stripFragment uri.toList) ∧
          again = String.ofList (stripFragment uri.toList) := by
      intro again
      rw [resolve_some_iff]
      exact ⟨fun ⟨heq, _, hfit, _⟩ => ⟨hfit, heq⟩,
        fun ⟨hfit, heq⟩ => ⟨heq, hgrant, hfit, isRegistered_self hmem hfit.reads⟩⟩
    refine ⟨honly, (hagain uri).trans ?_, hagain⟩
    constructor
    · rintro ⟨hfit, heq⟩
      have hbare : uri.toList = stripFragment uri.toList := by
        rw [← String.toList_inj, String.toList_ofList] at heq
        exact heq
      refine ⟨hbare ▸ not_mem_stripFragment _, hbare ▸ hfit⟩
    · rintro ⟨hsharp, hfit⟩
      rw [stripFragment_eq_self hsharp, String.ofList_toList]
      exact ⟨hfit, rfl⟩

def registering (redirectUris : List String) : Client :=
  { Client.ofId "foo" with
    redirectUris := .ofList redirectUris
    grantTypes := .ofList ["authorization_code"] }

theorem resolve_again_registering :
    resolve {} (registering ["https://good.com/cb"]) (some "https://good.com/cb?x=1#y") =
      .ok "https://good.com/cb?x=1" ∧
    resolve {} (registering ["https://good.com/cb"]) (some "https://good.com/cb?x=1") =
      .ok "https://good.com/cb?x=1" := by
  have h : resolve {} (registering ["https://good.com/cb"]) (some "https://good.com/cb?x=1#y") =
      .ok "https://good.com/cb?x=1" := by decide +kernel
  exact ⟨h, ((resolve_again {} _ _ _ h).1 rfl).2⟩

/-- A registered fragment is returned when nothing is requested, and is lost when it is requested. -/
theorem resolve_keeps_fragment : ¬ ∀ (rules : RedirectSettings) (client : Client)
    (requested : Option String) (uri : String), resolve rules client requested = .ok uri →
      '#' ∉ uri.toList ∧ resolve rules client (some uri) = .ok uri := by
  intro h
  have hnone : resolve {} (registering ["https://good.com/cb#x"]) none =
      .ok "https://good.com/cb#x" := by decide +kernel
  exact (h _ _ _ _ hnone).1 (by decide +kernel)

/-- A registered URI that may be compared is accepted, and what is accepted stays accepted by looser rules
and for a wider registration. -/
theorem resolve_lenient (rules : RedirectSettings) (client : Client) :
    (MayRedirect rules client → ∀ g ∈ client.redirectUris, Comparable (stripFragment g.toList) →
      resolve rules client (some g) = .ok (String.ofList (stripFragment g.toList))) ∧
    ∀ requested uri, resolve rules client (some requested) = .ok uri →
      ∀ rules' client', Looser rules' rules → Wider client' client →
        resolve rules' client' (some requested) = .ok uri := by
  constructor
  · intro hgrant g hg hfit
    exact resolve_some_iff.mpr ⟨rfl, hgrant, hfit, isRegistered_self hg hfit.reads⟩
  · intro requested uri h rules' client' hrules hclient
    obtain ⟨heq, hgrant, hfit, hregistered⟩ := resolve_some_iff.mp h
    exact resolve_some_iff.mpr
      ⟨heq, hgrant.mono hrules hclient, hfit, isRegistered_mono hrules hclient hregistered⟩

theorem resolve_lenient_registering :
    resolve {} (registering ["https://good.com/cb#x"]) (some "https://good.com/cb#x") =
      .ok "https://good.com/cb" ∧
    resolve { matchSubdomains := true, matchPorts := false }
      (registering ["app:y", "https://good.com/cb#x"]) (some "https://good.com/cb#x") =
        .ok "https://good.com/cb" := by
  obtain ⟨hself, hwider⟩ := resolve_lenient {} (registering ["https://good.com/cb#x"])
  have hgrant : MayRedirect {} (registering ["https://good.com/cb#x"]) :=
    mayRedirect_iff.mp (by decide +kernel)
  have hreads : (Parts.read? (stripFragment "https://good.com/cb#x".toList)).isSome = true := by
    decide +kernel
  have hallowed : (stripFragment "https://good.com/cb#x".toList).any isForbidden = false := by
    decide +kernel
  have h := hself hgrant "https://good.com/cb#x" (by decide +kernel)
    ⟨isSome_read?_iff.mp (Option.isSome_iff_exists.mp hreads),
      fun c hc => by simpa using List.any_eq_false.mp hallowed c hc,
      hasDotSegment_iff.mp (by decide +kernel)⟩
  have hrules : Looser { matchSubdomains := true, matchPorts := false } {} :=
    ⟨fun _ h => h, fun _ => rfl, fun h => by cases h⟩
  have hclient : Wider (registering ["app:y", "https://good.com/cb#x"])
      (registering ["https://good.com/cb#x"]) := ⟨fun _ h => h, by decide +kernel⟩
  exact ⟨h, hwider _ _ h _ _ hrules hclient⟩

end ConsentGate.RedirectUri
