import ConsentGate.Proofs.Url.Authority
import ConsentGate.Proofs.Url.Path

namespace ConsentGate.Url

open Text

variable {scheme s : List Char} {followed : Bool}

def localName : List Char := ['l', 'o', 'c', 'a', 'l', 'h', 'o', 's', 't']

/-- Authority and path as reading leaves them. -/
inductive Body (scheme : List Char) : Option Authority → Path → Prop
  | file (host : Option Host) (l : List (List Char)) (hs : isFileScheme scheme = true)
      (hhost : ∀ h, host = some h → h.WellFormed true ∧ h.render ≠ [] ∧ h ≠ .name localName)
      (hl : l ≠ []) (hseg : ∀ w ∈ l, Path.IsSegment true w) (hdrop : Path.dropEmpty l = l) :
      Body scheme (some ⟨[], none, host, none⟩) (.segments l)
  | hierarchy (a : Authority) (l : List (List Char)) (hs : isFileScheme scheme = false)
      (ha : a.WellFormed scheme) (hl : isSpecialScheme scheme = true → l ≠ [])
      (hseg : ∀ w ∈ l, Path.IsSegment (isSpecialScheme scheme) w) : Body scheme (some a) (.segments l)
  | rooted (l : List (List Char)) (hs : isSpecialScheme scheme = false) (hl : l ≠ [])
      (hseg : ∀ w ∈ l, Path.IsSegment false w) : Body scheme none (.segments l)
  | flat (t : List Char) (hs : isSpecialScheme scheme = false) (hslash : t.head? ≠ some '/')
      (hkeep : ∀ c ∈ t, keepsFlat c = true ∧ c ≠ '#' ∧ c ≠ '?') : Body scheme none (.flat t)

theorem isSpecialScheme_of_isFileScheme (h : isFileScheme scheme = true) :
    isSpecialScheme scheme = true := by
  simp [isSpecialScheme, h]

theorem isFileScheme_of_not_special (h : isSpecialScheme scheme = false) :
    isFileScheme scheme = false := by
  simp only [isSpecialScheme, Bool.or_eq_false_iff] at h
  exact h.2

/-! ## What is read -/

theorem readFileHost_spec {host : Option Host} (h : readFileHost s = .ok host) :
    ∀ x, host = some x → x.WellFormed true ∧ x.render ≠ [] ∧ x ≠ .name localName := by
  unfold readFileHost at h
  split at h
  · obtain rfl := Except.ok.inj h
    simp
  next hempty =>
  have hne : s ≠ [] := by simpa using hempty
  obtain ⟨x, hx, hok⟩ := bind_eq_ok.mp h
  split at hok
  · obtain rfl := Except.ok.inj hok
    simp
  · next hlocal =>
    obtain rfl := Except.ok.inj hok
    rintro y hy
    obtain rfl := Option.some.inj hy
    exact ⟨Host.wellFormed_of_read hne hx, Host.render_ne_nil_of_read hne hx, hlocal⟩

theorem body_onDrive (hs : isFileScheme scheme = true) (r : List Char) :
    Body scheme (some ⟨[], none, none, none⟩)
      (.segments (Path.dropEmpty (Path.nameDrive (Path.read true r)))) :=
  .file none _ hs (by simp) (Path.dropEmpty_ne_nil (Path.nameDrive_ne_nil (Path.read_ne_nil _ _)))
    (fun _ hw => Path.isSegment_of_mem_nameDrive (fun _ hv => Path.isSegment_of_mem_read hv)
      (Path.mem_dropEmpty hw))
    (Path.dropEmpty_dropEmpty _)

theorem readFile_spec (hs : isFileScheme scheme = true) {a : Authority} {p : Path}
    (h : readFile s = .ok (a, p)) : Body scheme (some a) p := by
  unfold readFile at h
  dsimp only at h
  split at h
  · next c d r =>
    split at h
    · split at h
      · obtain ⟨rfl, rfl⟩ := Prod.mk.inj (Except.ok.inj h)
        exact body_onDrive hs _
      · obtain ⟨host, hhost, h⟩ := bind_eq_ok.mp h
        split at h
        · obtain ⟨rfl, rfl⟩ := Prod.mk.inj (Except.ok.inj h)
          exact body_onDrive hs _
        · obtain ⟨rfl, rfl⟩ := Prod.mk.inj (Except.ok.inj h)
          exact .file host _ hs (readFileHost_spec hhost)
            (Path.dropEmpty_ne_nil (Path.read_ne_nil _ _))
            (fun _ hw => Path.isSegment_of_mem_read (Path.mem_dropEmpty hw))
            (Path.dropEmpty_dropEmpty _)
    · obtain ⟨rfl, rfl⟩ := Prod.mk.inj (Except.ok.inj h)
      exact body_onDrive hs _
  · obtain ⟨rfl, rfl⟩ := Prod.mk.inj (Except.ok.inj h)
    exact body_onDrive hs _

theorem readHierarchy_spec (hs : isFileScheme scheme = false) {a : Authority} {p : Path}
    (h : readHierarchy scheme s followed = .ok (a, p)) : Body scheme (some a) p := by
  unfold readHierarchy at h
  obtain ⟨⟨a', rest⟩, hauth, h⟩ := bind_eq_ok.mp h
  obtain ⟨rfl, rfl⟩ := Prod.mk.inj (Except.ok.inj h)
  have hwell := (readAuthority_spec hauth).1
  unfold readPathAfter
  split
  · next hempty =>
    simp only [Bool.and_eq_true, Bool.not_eq_true'] at hempty
    exact .hierarchy _ [] hs hwell (by simp [hempty.1]) (by simp)
  · exact .hierarchy _ _ hs hwell (fun _ => Path.read_ne_nil _ _)
      (fun _ hw => Path.isSegment_of_mem_read hw)

theorem readBody_spec (hs : ∀ c ∈ s, c ≠ '#' ∧ c ≠ '?') {a : Option Authority} {p : Path}
    (h : readBody scheme s followed = .ok (a, p)) : Body scheme a p := by
  unfold readBody at h
  split at h
  · next hfile =>
    obtain ⟨⟨a', p'⟩, hread, heq⟩ := map_eq_ok.mp h
    obtain ⟨rfl, rfl⟩ := Prod.mk.inj heq
    exact readFile_spec hfile hread
  next hfile =>
  have hfile : isFileScheme scheme = false := by simpa using hfile
  split at h
  · obtain ⟨⟨a', p'⟩, hread, heq⟩ := map_eq_ok.mp h
    obtain ⟨rfl, rfl⟩ := Prod.mk.inj heq
    exact readHierarchy_spec hfile hread
  next hspecial =>
  have hspecial : isSpecialScheme scheme = false := by simpa using hspecial
  split at h
  · obtain ⟨⟨a', p'⟩, hread, heq⟩ := map_eq_ok.mp h
    obtain ⟨rfl, rfl⟩ := Prod.mk.inj heq
    exact readHierarchy_spec hfile hread
  · obtain ⟨rfl, rfl⟩ := Prod.mk.inj (Except.ok.inj h)
    exact .rooted _ hspecial (Path.read_ne_nil _ _) fun _ hw => Path.isSegment_of_mem_read hw
  · next hroot =>
    obtain ⟨rfl, rfl⟩ := Prod.mk.inj (Except.ok.inj h)
    refine .flat _ hspecial (fun hhead => ?_) fun c hc => ?_
    · have hslash := head?_of_head?_encode hhead (by decide)
      obtain ⟨r, rfl⟩ := List.head?_eq_some_iff.mp hslash
      exact hroot r rfl
    · refine ⟨Percent.keeps_of_mem_encode keepsEscapes_flat hc, ?_, ?_⟩
      · rintro rfl
        exact (hs '#' (mem_of_mem_encode hc (by decide) (by decide))).1 rfl
      · rintro rfl
        exact (hs '?' (mem_of_mem_encode hc (by decide) (by decide))).2 rfl

/-! ## Where the host comes from -/

theorem isSlash_of_ne {special : Bool} {c : Char} (h : c ≠ '\\') :
    Path.isSlash special c = (c == '/') := by
  simp [Path.isSlash, h]

theorem before_isSlash {special : Bool} {t : List Char} (h : '\\' ∉ t) :
    before (Path.isSlash special) t = before (· == '/') t := by
  induction t with
  | nil => rfl
  | cons c t ih =>
    have hc : c ≠ '\\' := fun heq => h (by simp [heq])
    have ht := ih fun hm => h (List.mem_cons_of_mem c hm)
    simp only [before, List.takeWhile_cons, isSlash_of_ne hc] at ht ⊢
    rw [ht]

theorem cutHost_of_read {name : List Char} {host : Host} (h : Host.read true name = .ok host) :
    cutHost false (afterUser name) = (name, []) := by
  have hbody : ∀ t : List Char, Host.read true ('[' :: t) = .ok host →
      ∃ x, '[' :: t = '[' :: x ++ [']'] ∧ ∀ c ∈ x, Ipv6.isAddressChar c = true := by
    intro t ht
    obtain ⟨x, groups, rfl, hx, _⟩ := Host.readBracketed_spec ht
    exact ⟨x, rfl, Ipv6.isAddressChar_of_parse? hx⟩
  have hat : '@' ∉ name := by
    intro hm
    by_cases hhead : name.head? = some '['
    · obtain ⟨t, rfl⟩ := List.head?_eq_some_iff.mp hhead
      obtain ⟨x, hx, haddress⟩ := hbody t h
      rw [hx] at hm
      obtain hm | hm := List.mem_append.mp hm
      · obtain hm | hm := List.mem_cons.mp hm
        · cases hm
        · exact absurd (haddress '@' hm) (by decide)
      · exact absurd (List.mem_singleton.mp hm) (by decide)
    · exact Host.not_mem_of_read (by decide) hhead h hm
  rw [afterUser, cutLast?_eq_none (beq_false_of_not_mem hat), Option.map_none, Option.getD_none]
  by_cases hhead : name.head? = some '['
  · obtain ⟨t, rfl⟩ := List.head?_eq_some_iff.mp hhead
    obtain ⟨x, hx, haddress⟩ := hbody t h
    have hin : ∀ c ∈ x, c ≠ '[' ∧ c ≠ ']' := by
      intro c hc
      have hchar := haddress c hc
      refine ⟨?_, ?_⟩ <;> · rintro rfl; exact absurd hchar (by decide)
    rw [hx]
    exact cutHost_inside hin (.inl rfl)
  · have hout : ∀ c ∈ name, c ≠ ':' ∧ c ≠ '[' ∧ c ≠ ']' := by
      intro c hc
      refine ⟨?_, ?_, ?_⟩ <;>
      · rintro rfl
        exact Host.not_mem_of_read (by decide) hhead h hc
    have hcut := cutHost_outside hout (.inl rfl)
    rwa [List.append_nil] at hcut

theorem readFile_host {a : Authority} {p : Path} {host : Host} (h : readFile s = .ok (a, p))
    (hh : a.host = some host) (hback : '\\' ∉ s) :
    ∃ r, s = '/' :: '/' :: r ∧ before (· == '/') r ≠ [] ∧
      Host.read true (before (· == '/') r) = .ok host ∧ a.port = none := by
  unfold readFile at h
  dsimp only at h
  split at h
  · next c d r =>
    have hc : c ≠ '\\' := fun heq => hback (by simp [heq])
    have hd : d ≠ '\\' := fun heq => hback (by simp [heq])
    have hr : '\\' ∉ r := fun hm => hback (by simp [hm])
    rw [isSlash_of_ne hc, isSlash_of_ne hd, before_isSlash hr] at h
    split at h
    · next hslashes =>
      simp only [Bool.and_eq_true, beq_iff_eq] at hslashes
      obtain ⟨rfl, rfl⟩ := hslashes
      split at h
      · obtain ⟨rfl, _⟩ := Prod.mk.inj (Except.ok.inj h)
        cases hh
      -- The other ways to read a local file leave it without a host.
      obtain ⟨x, hx, h⟩ := bind_eq_ok.mp h
      split at h
      · obtain ⟨rfl, _⟩ := Prod.mk.inj (Except.ok.inj h)
        cases hh
      obtain ⟨rfl, _⟩ := Prod.mk.inj (Except.ok.inj h)
      obtain rfl : x = some host := hh
      unfold readFileHost at hx
      split at hx
      · cases hx
      next hempty =>
      obtain ⟨y, hy, hok⟩ := bind_eq_ok.mp hx
      split at hok
      · cases hok
      obtain rfl := Option.some.inj (Except.ok.inj hok)
      exact ⟨r, rfl, by simpa using hempty, hy, rfl⟩
    · obtain ⟨rfl, _⟩ := Prod.mk.inj (Except.ok.inj h)
      cases hh
  · obtain ⟨rfl, _⟩ := Prod.mk.inj (Except.ok.inj h)
    cases hh

theorem readHierarchy_host {a : Authority} {p : Path} {host : Host} {r : List Char}
    (h : readHierarchy scheme r followed = .ok (a, p)) (hh : a.host = some host) (hback : '\\' ∉ r) :
    ∃ name tail rest, cutHost false (afterUser (before (· == '/') r)) = (name, tail) ∧ name ≠ [] ∧
      Host.read (isSpecialScheme scheme) name = .ok host ∧
      readPort (defaultPort? scheme) tail = .ok (a.port, rest) := by
  unfold readHierarchy at h
  obtain ⟨⟨a', rest⟩, hauth, hok⟩ := bind_eq_ok.mp h
  obtain ⟨rfl, _⟩ := Prod.mk.inj (Except.ok.inj hok)
  rw [before_isSlash hback] at hauth
  obtain ⟨_, _, hnone⟩ | ⟨name, tail, x, hcut, hne, hx, hsome, hport⟩ := (readAuthority_spec hauth).2
  · rw [hh] at hnone
    cases hnone
  · obtain rfl := Option.some.inj (hsome.symm.trans hh)
    exact ⟨name, tail, rest, hcut, hne, hx, hport⟩

theorem dropWhile_slashes {r : List Char} (hhead : r.head? ≠ some '/') (hback : '\\' ∉ r) :
    ('/' :: '/' :: r).dropWhile (Path.isSlash true) = r := by
  rw [List.dropWhile_cons_of_pos rfl, List.dropWhile_cons_of_pos rfl]
  cases r with
  | nil => rfl
  | cons c r =>
    have hc : c ≠ '\\' := fun heq => hback (by simp [heq])
    exact List.dropWhile_cons_of_neg (by simpa [isSlash_of_ne hc] using hhead)

/-- A URL with a host has two slashes before it, unless its scheme has special rules and is not that of
local files: then any number of them does. -/
theorem readBody_host {a : Authority} {p : Path} {host : Host}
    (h : readBody scheme s followed = .ok (some a, p)) (hh : a.host = some host) (hback : '\\' ∉ s)
    (hslashes : isSpecialScheme scheme = true → isFileScheme scheme = false →
      ∃ r, s = '/' :: '/' :: r ∧ r.head? ≠ some '/') :
    ∃ r name tail rest, s = '/' :: '/' :: r ∧
      cutHost false (afterUser (before (· == '/') r)) = (name, tail) ∧ name ≠ [] ∧
      Host.read (isSpecialScheme scheme) name = .ok host ∧
      readPort (defaultPort? scheme) tail = .ok (a.port, rest) := by
  unfold readBody at h
  split at h
  · next hfile =>
    obtain ⟨⟨a', p'⟩, hread, heq⟩ := map_eq_ok.mp h
    obtain ⟨ha, rfl⟩ := Prod.mk.inj heq
    obtain rfl := Option.some.inj ha
    obtain ⟨r, hr, hne, hhost, hport⟩ := readFile_host hread hh hback
    rw [isSpecialScheme_of_isFileScheme hfile, hport]
    exact ⟨r, _, [], [], hr, cutHost_of_read hhost, hne, hhost, rfl⟩
  next hfile =>
  have hfile : isFileScheme scheme = false := by simpa using hfile
  split at h
  · next hspecial =>
    obtain ⟨⟨a', p'⟩, hread, heq⟩ := map_eq_ok.mp h
    obtain ⟨ha, rfl⟩ := Prod.mk.inj heq
    obtain rfl := Option.some.inj ha
    obtain ⟨r, rfl, hhead⟩ := hslashes hspecial hfile
    have hr : '\\' ∉ r := fun hm => hback (by simp [hm])
    rw [dropWhile_slashes hhead hr] at hread
    obtain ⟨name, tail, rest, hcut⟩ := readHierarchy_host hread hh hr
    exact ⟨r, name, tail, rest, rfl, hcut⟩
  split at h
  · next _ r =>
    obtain ⟨⟨a', p'⟩, hread, heq⟩ := map_eq_ok.mp h
    obtain ⟨ha, rfl⟩ := Prod.mk.inj heq
    obtain rfl := Option.some.inj ha
    have hr : '\\' ∉ r := fun hm => hback (by simp [hm])
    obtain ⟨name, tail, rest, hcut⟩ := readHierarchy_host hread hh hr
    exact ⟨r, name, tail, rest, rfl, hcut⟩
  · cases h
  · cases h

/-! ## What is printed -/

def bodyText : Option Authority → Path → List Char
  | some a, p => '/' :: '/' :: (a.render ++ p.render)
  | none, .segments ([] :: s :: r) => '/' :: '.' :: Path.render (.segments ([] :: s :: r))
  | none, p => p.render

/-- Where the path of a local file starts with a drive it takes the place of the host. -/
def settleDrive (scheme : List Char) : Option Authority → Path → Option Authority × Path
  | some a, .segments l =>
    if isFileScheme scheme && a.host.isSome && Path.startsWithDrive l then
      (some ⟨[], none, none, none⟩, .segments (Path.nameDrive l))
    else (some a, .segments l)
  | a, p => (a, p)

def Authority.isReadable (scheme : List Char) (a : Authority) : Bool :=
  a.host.all (Host.isReadable (isSpecialScheme scheme))

theorem head?_renderSegments {l : List (List Char)} :
    Path.render (.segments l) = [] ∨ (Path.render (.segments l)).head? = some '/' := by
  cases l with
  | nil => exact .inl rfl
  | cons s r => exact .inr rfl

theorem before_renderSegments {special : Bool} {t : List Char} (l : List (List Char))
    (ht : ∀ c ∈ t, Path.isSlash special c = false) :
    before (Path.isSlash special) (t ++ Path.render (.segments l)) = t ∧
      (t ++ Path.render (.segments l)).dropWhile (!Path.isSlash special ·) =
        Path.render (.segments l) := by
  have hpos : ∀ c ∈ t, (!Path.isSlash special c) = true := by simpa using ht
  rw [List.dropWhile_append_of_pos hpos]
  obtain hnil | hhead := head?_renderSegments (l := l)
  · rw [hnil, List.append_nil]
    exact ⟨before_eq_self ht, rfl⟩
  · obtain ⟨r, hr⟩ := List.head?_eq_some_iff.mp hhead
    rw [hr]
    exact ⟨before_append_cons ht (by simp [Path.isSlash]), by simp [Path.isSlash]⟩

theorem isSlash_of_isHostChar (special : Bool) {c : Char} (h : Host.isHostChar c = true ∨ c = '@') :
    Path.isSlash special c = false := by
  obtain h | rfl := h
  · simp only [Host.isHostChar, Bool.and_eq_true, Bool.not_eq_true', Bool.or_eq_false_iff] at h
    simp [Path.isSlash, h]
  · cases special <;> decide

theorem Authority.WellFormed.render_ne_nil {a : Authority} (ha : a.WellFormed scheme)
    (hspecial : isSpecialScheme scheme = true) : a.render ≠ [] := by
  cases hhost : a.host with
  | none => exact absurd ((ha.bare hhost).1.symm.trans hspecial) (by decide)
  | some h =>
    rw [render_eq_append hhost]
    simp [(ha.host h hhost).2]

theorem readHierarchy_render (followed : Bool) {a : Authority} {l : List (List Char)}
    (ha : a.WellFormed scheme)
    (hl : isSpecialScheme scheme = true → l ≠ [])
    (hseg : ∀ w ∈ l, Path.IsSegment (isSpecialScheme scheme) w) :
    readHierarchy scheme (a.render ++ Path.render (.segments l)) followed =
      if a.isReadable scheme then .ok (a, .segments l) else .error .badDomain := by
  obtain ⟨hbefore, hdrop⟩ := before_renderSegments l
    fun c hc => isSlash_of_isHostChar (isSpecialScheme scheme) (mem_authority ha hc)
  have hpath : readPathAfter (isSpecialScheme scheme) (Path.render (.segments l)) = .segments l := by
    unfold readPathAfter
    cases l with
    | nil =>
      have hspecial : isSpecialScheme scheme = false := by
        cases h : isSpecialScheme scheme with
        | true => exact absurd rfl (hl h)
        | false => rfl
      simp [hspecial, Path.render]
    | cons w r =>
      rw [if_neg (by simp [Path.render]), Path.read_render (List.cons_ne_nil w r) hseg]
  rw [readHierarchy, hbefore, hdrop, readAuthority_render ha, ← Authority.isReadable]
  cases a.isReadable scheme with
  | true => simp [bind, Except.bind, pure, Except.pure, hpath]
  | false => rfl

theorem isDrive_render {h : Host} {special : Bool} (hw : h.WellFormed special) :
    Path.isDrive h.render = false := by
  have hno : ∀ s : List Char, ':' ∉ s → '|' ∉ s → Path.isDrive s = false := by
    intro s hcolon hbar
    unfold Path.isDrive
    split
    · next a b =>
      have hb : b ≠ ':' ∧ b ≠ '|' := ⟨by rintro rfl; simp at hcolon, by rintro rfl; simp at hbar⟩
      simp [hb]
    · rfl
  cases h with
  | name s =>
    exact hno s (fun hm => absurd (Host.mem_name hw hm).2 (by decide))
      fun hm => absurd (Host.mem_name hw hm).2 (by decide)
  | ipv4 n =>
    refine hno _ (fun hm => ?_) fun hm => ?_
    · obtain hd | hd := Ipv4.mem_render hm
      · exact absurd hd (by decide)
      · cases hd
    · obtain hd | hd := Ipv4.mem_render hm
      · exact absurd hd (by decide)
      · cases hd
  | ipv6 groups =>
    unfold Path.isDrive
    split
    · next a b hab =>
      obtain rfl : '[' = a := (List.cons.inj hab).1
      rfl
    · rfl

theorem nameDrive_of_startsWithDrive {l : List (List Char)} (h : Path.startsWithDrive l = true) :
    Path.dropEmpty (Path.nameDrive l) = Path.nameDrive l := by
  unfold Path.nameDrive
  split
  · rw [Path.dropEmpty]
    intro s r hs
    split at hs <;> cases (List.cons.inj hs).1
  · cases l with
    | nil => rfl
    | cons s r =>
      rw [Path.dropEmpty]
      rintro t u heq
      obtain rfl := (List.cons.inj heq).1
      cases h

theorem readFileHost_render {h : Host} (hwell : h.WellFormed true) (hne : h.render ≠ [])
    (hlocal : h ≠ .name localName) :
    readFileHost h.render = if h.isReadable true then .ok (some h) else .error .badDomain := by
  have hempty : h.render.isEmpty = false := by simpa using hne
  have hnone : ¬ h = .name ['l', 'o', 'c', 'a', 'l', 'h', 'o', 's', 't'] := hlocal
  rw [readFileHost, hempty, Host.read_render hwell]
  by_cases hreadable : h.isReadable true = true
  · simp [hreadable, bind, Except.bind, pure, Except.pure, hnone]
  · simp [hreadable, bind, Except.bind]

theorem readFile_render {host : Option Host} {l : List (List Char)}
    (hhost : ∀ h, host = some h → h.WellFormed true ∧ h.render ≠ [] ∧ h ≠ .name localName)
    (hl : l ≠ []) (hseg : ∀ w ∈ l, Path.IsSegment true w) (hdrop : Path.dropEmpty l = l) :
    readFile ('/' :: '/' :: ((host.map Host.render).getD [] ++ Path.render (.segments l))) =
      if host.all (Host.isReadable true) then
        .ok (if host.isSome && Path.startsWithDrive l then
          (⟨[], none, none, none⟩, .segments (Path.nameDrive l))
        else (⟨[], none, host, none⟩, .segments l))
      else .error .badDomain := by
  have hname : ∀ c ∈ (host.map Host.render).getD [], Path.isSlash true c = false := by
    cases host with
    | none => simp
    | some h => exact fun c hc => isSlash_of_isHostChar true (.inl (Host.mem_render (hhost h rfl).1 hc))
  obtain ⟨hbefore, hrest⟩ := before_renderSegments l hname
  have hread := Path.read_render hl hseg
  have hslash : Path.isSlash true '/' = true := rfl
  simp only [readFile, hslash, Bool.and_self, if_true, hbefore, hrest, hread, hdrop]
  cases host with
  | none => simp [Path.isDrive, readFileHost, bind, Except.bind, pure, Except.pure]
  | some h =>
    have hfile := readFileHost_render (hhost h rfl).1 (hhost h rfl).2.1 (hhost h rfl).2.2
    have hnone := isDrive_render (hhost h rfl).1
    simp only [Option.map_some, Option.getD_some, hnone, hfile, Option.all_some]
    by_cases hreadable : h.isReadable true = true
    · by_cases hdrive : Path.startsWithDrive l = true
      · simp [hreadable, bind, Except.bind, pure, Except.pure, hdrive,
          nameDrive_of_startsWithDrive hdrive]
      · simp [hreadable, bind, Except.bind, pure, Except.pure, hdrive]
    · simp [hreadable, bind, Except.bind]

theorem readBody_file {host : Option Host} {l : List (List Char)} (hs : isFileScheme scheme = true)
    (hhost : ∀ h, host = some h → h.WellFormed true ∧ h.render ≠ [] ∧ h ≠ .name localName)
    (hl : l ≠ []) (hseg : ∀ w ∈ l, Path.IsSegment true w) (hdrop : Path.dropEmpty l = l) :
    readBody scheme (bodyText (some ⟨[], none, host, none⟩) (.segments l)) followed =
      if host.all (Host.isReadable true) then
        .ok (settleDrive scheme (some ⟨[], none, host, none⟩) (.segments l))
      else .error .badDomain := by
  have hrender : Authority.render ⟨[], none, host, none⟩ = (host.map Host.render).getD [] := by
    simp [Authority.render, Authority.credentials]
  unfold readBody
  rw [if_pos hs, bodyText, hrender, readFile_render hhost hl hseg hdrop]
  simp only [settleDrive, hs, Bool.true_and]
  cases host.all (Host.isReadable true) with
  | false => rfl
  | true => cases host.isSome && Path.startsWithDrive l <;> rfl

theorem readBody_hierarchy {a : Authority} {l : List (List Char)} (hs : isFileScheme scheme = false)
    (ha : a.WellFormed scheme) (hl : isSpecialScheme scheme = true → l ≠ [])
    (hseg : ∀ w ∈ l, Path.IsSegment (isSpecialScheme scheme) w) :
    readBody scheme (bodyText (some a) (.segments l)) followed =
      if a.isReadable scheme then .ok (some a, .segments l) else .error .badDomain := by
  have hmap : (readHierarchy scheme (a.render ++ Path.render (.segments l)) followed).map
      (fun r => (some r.1, r.2)) =
      if a.isReadable scheme then .ok (some a, .segments l) else .error .badDomain := by
    rw [readHierarchy_render followed ha hl hseg]
    cases a.isReadable scheme <;> rfl
  unfold readBody
  simp only [hs, Bool.false_eq_true, if_false, bodyText]
  by_cases hspecial : isSpecialScheme scheme = true
  · have hskip : ('/' :: '/' :: (a.render ++ Path.render (.segments l))).dropWhile
        (Path.isSlash true) = a.render ++ Path.render (.segments l) := by
      obtain ⟨c, r, hc⟩ := List.exists_cons_of_ne_nil (ha.render_ne_nil hspecial)
      have hslash : ¬ Path.isSlash true c = true := by
        rw [isSlash_of_isHostChar true (mem_authority ha (hc ▸ List.mem_cons_self))]
        decide
      rw [hc, List.cons_append, List.dropWhile_cons_of_pos rfl, List.dropWhile_cons_of_pos rfl,
        List.dropWhile_cons_of_neg hslash]
    rw [if_pos hspecial, hskip, hmap]
  · rw [if_neg hspecial, hmap]

/-- A first segment that is empty is printed behind a dot, which reading drops. -/
theorem readBody_rooted {l : List (List Char)} (hs : isSpecialScheme scheme = false) (hl : l ≠ [])
    (hseg : ∀ w ∈ l, Path.IsSegment false w) :
    readBody scheme (bodyText none (.segments l)) followed = .ok (none, .segments l) := by
  unfold readBody
  rw [isFileScheme_of_not_special hs, hs]
  obtain ⟨w, r, rfl⟩ := List.exists_cons_of_ne_nil hl
  cases w with
  | cons c w =>
    have hc : c ≠ '/' := by
      rintro rfl
      exact absurd ((hseg _ List.mem_cons_self).2.2 '/' List.mem_cons_self).2 (by decide)
    have hread := Path.read_render hl hseg
    simp only [Bool.false_eq_true, if_false, bodyText]
    split
    · next heq => exact absurd (List.cons.inj (List.cons.inj heq).2).1 hc
    · next heq => rw [← heq, hread]
    · next hno => exact absurd rfl (hno _)
  | nil =>
    cases r with
    | nil => rfl
    | cons v r =>
      have hread := Path.read_dot_render hl hseg
      simp [bodyText, hread]

theorem readBody_flat {t : List Char} (hs : isSpecialScheme scheme = false)
    (hslash : t.head? ≠ some '/') (hkeep : ∀ c ∈ t, keepsFlat c = true) :
    readBody scheme (bodyText none (.flat t)) followed = .ok (none, .flat t) := by
  unfold readBody
  rw [isFileScheme_of_not_special hs, hs]
  simp only [Bool.false_eq_true, if_false, bodyText, Path.render]
  split
  · exact absurd rfl hslash
  · exact absurd rfl hslash
  · rw [Percent.encode_eq_self hkeep]

theorem readBody_bodyText {a : Option Authority} {p : Path} (h : Body scheme a p) :
    readBody scheme (bodyText a p) followed =
      if a.all (Authority.isReadable scheme) then .ok (settleDrive scheme a p)
      else .error .badDomain := by
  cases h with
  | file host l hs hhost hl hseg hdrop =>
    rw [readBody_file hs hhost hl hseg hdrop, Option.all_some, Authority.isReadable,
      isSpecialScheme_of_isFileScheme hs]
  | hierarchy a l hs ha hl hseg =>
    rw [readBody_hierarchy hs ha hl hseg, Option.all_some, settleDrive, hs, Bool.false_and,
      Bool.false_and, if_neg Bool.false_ne_true]
  | rooted l hs hl hseg => exact readBody_rooted hs hl hseg
  | flat t hs hslash hkeep => exact readBody_flat hs hslash fun c hc => (hkeep c hc).1

def IsInner (c : Char) : Prop :=
  (isPrintable c = true ∧ c ≠ '#' ∧ c ≠ '?') ∧ c ≠ ' '

instance (c : Char) : Decidable (IsInner c) :=
  inferInstanceAs (Decidable ((_ ∧ _ ∧ _) ∧ _))

theorem isInner_of_isHostChar {c : Char} (h : Host.isHostChar c = true ∨ c = '@') : IsInner c := by
  cases h with
  | inl h =>
    simp only [Host.isHostChar, keepsFlat, Bool.and_eq_true, Bool.not_eq_true',
      Bool.or_eq_false_iff, beq_eq_false_iff_ne] at h
    obtain ⟨hprint, ⟨⟨⟨⟨hspace, hsharp⟩, _⟩, hquestion⟩, _⟩, _⟩ := h
    exact ⟨⟨hprint, hsharp, hquestion⟩, hspace⟩
  | inr h =>
    subst h
    decide

theorem isInner_of_mem_segments {special : Bool} {l : List (List Char)}
    (hl : ∀ w ∈ l, Path.IsSegment special w) {c : Char} (hc : c ∈ Path.render (.segments l)) :
    IsInner c := by
  have hkeep := Path.mem_render_segments hl hc
  simp only [keepsPath, keepsFragment, Bool.and_eq_true, Bool.not_eq_true', Bool.or_eq_false_iff,
    beq_eq_false_iff_ne] at hkeep
  obtain ⟨⟨hprint, ⟨⟨⟨hspace, _⟩, _⟩, _⟩, _⟩, ⟨⟨hsharp, hquestion⟩, _⟩, _⟩ := hkeep
  exact ⟨⟨hprint, hsharp, hquestion⟩, hspace⟩

theorem isInner_or_mem_of_mem_cons {c d : Char} {s : List Char} (hd : IsInner d) (hc : c ∈ d :: s) :
    IsInner c ∨ c ∈ s := by
  cases List.mem_cons.mp hc with
  | inl h => exact .inl (h ▸ hd)
  | inr h => exact .inr h

theorem isInner_of_mem_file {host : Option Host}
    (hhost : ∀ h, host = some h → h.WellFormed true ∧ h.render ≠ [] ∧ h ≠ .name localName) {c : Char}
    (hc : c ∈ Authority.render ⟨[], none, host, none⟩) : IsInner c := by
  cases host with
  | none => exact absurd hc List.not_mem_nil
  | some x =>
    refine isInner_of_isHostChar (.inl (Host.mem_render (hhost x rfl).1 ?_))
    simpa [Authority.render, Authority.credentials] using hc

theorem mem_bodyText {a : Option Authority} {p : Path} (h : Body scheme a p) {c : Char}
    (hc : c ∈ bodyText a p) : (isPrintable c = true ∧ c ≠ '#' ∧ c ≠ '?') ∧
      (c ≠ ' ' ∨ ∃ t, p = .flat t) := by
  have hslash : IsInner '/' := by decide
  have hdot : IsInner '.' := by decide
  suffices hinner : IsInner c ∨ ∃ t, p = .flat t ∧ isPrintable c = true ∧ c ≠ '#' ∧ c ≠ '?' by
    obtain hinner | ⟨t, hp, hflat⟩ := hinner
    · exact ⟨hinner.1, .inl hinner.2⟩
    · exact ⟨hflat, .inr ⟨t, hp⟩⟩
  cases h with
  | flat t hs hhead hkeep => exact .inr ⟨t, rfl, hkeep c hc⟩
  | file host l hs hhost hl hseg hdrop =>
    obtain h | hc := isInner_or_mem_of_mem_cons hslash hc
    · exact .inl h
    obtain h | hc := isInner_or_mem_of_mem_cons hslash hc
    · exact .inl h
    obtain hc | hc := List.mem_append.mp hc
    · exact .inl (isInner_of_mem_file hhost hc)
    · exact .inl (isInner_of_mem_segments hseg hc)
  | hierarchy a l hs ha hl hseg =>
    obtain h | hc := isInner_or_mem_of_mem_cons hslash hc
    · exact .inl h
    obtain h | hc := isInner_or_mem_of_mem_cons hslash hc
    · exact .inl h
    obtain hc | hc := List.mem_append.mp hc
    · exact .inl (isInner_of_isHostChar (mem_authority ha hc))
    · exact .inl (isInner_of_mem_segments hseg hc)
  | rooted l hs hl hseg =>
    unfold bodyText at hc
    split at hc
    · next heq => cases heq
    · next heq =>
      rw [← heq] at hc
      obtain h | hc := isInner_or_mem_of_mem_cons hslash hc
      · exact .inl h
      obtain h | hc := isInner_or_mem_of_mem_cons hdot hc
      · exact .inl h
      exact .inl (isInner_of_mem_segments hseg hc)
    · exact .inl (isInner_of_mem_segments hseg hc)

end ConsentGate.Url
