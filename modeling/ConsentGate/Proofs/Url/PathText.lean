import ConsentGate.Proofs.Url.Parse

namespace ConsentGate.Url

open Text

variable {scheme s t text : List Char} {special followed : Bool} {u : Url}

/-! ## Segments as they are spelled -/

namespace Path

def spelled (special : Bool) (t : List Char) : List (List Char) :=
  (pieces (isSlash special) (skipSlash special t)).map (Percent.encode keepsPath)

/-- A text without dot segments between its slashes. -/
def IsStraight (special : Bool) (t : List Char) : Prop :=
  ∀ w ∈ pieces (isSlash special) t, isSingleDot w = false ∧ isDoubleDot w = false

theorem isStraight_nil (special : Bool) : IsStraight special [] := by
  intro w hw
  obtain rfl := List.mem_singleton.mp hw
  decide

theorem isStraight_append_cons {k : Char} (hk : isSlash special k = true) (a b : List Char) :
    IsStraight special (a ++ k :: b) ↔ IsStraight special a ∧ IsStraight special b := by
  rw [IsStraight, pieces_append_cons a b hk, List.forall_mem_append]
  rfl

theorem isStraight_cons {k : Char} (hk : isSlash special k = true) (s : List Char) :
    IsStraight special (k :: s) ↔ IsStraight special s := by
  have h := isStraight_append_cons hk [] s
  rw [List.nil_append] at h
  exact h.trans (and_iff_right (isStraight_nil special))

theorem isStraight_skipSlash : IsStraight special (skipSlash special t) ↔ IsStraight special t := by
  cases t with
  | nil => rfl
  | cons c t =>
    rw [skipSlash]
    split
    · next hc => exact (isStraight_cons hc t).symm
    · rfl

theorem isStraight_of_no_backslash (hback : '\\' ∉ t) (h : IsStraight true t) :
    IsStraight special t := by
  have hpieces : pieces (isSlash special) t = pieces (isSlash true) t :=
    pieces_congr fun c hc => by
      have hc : c ≠ '\\' := fun heq => hback (heq ▸ hc)
      rw [isSlash_of_ne hc, isSlash_of_ne hc]
  rwa [IsStraight, hpieces]

theorem isStraight_append (hs : s = [] ∨ s.head? = some '/') (t : List Char) :
    IsStraight special (t ++ s) ↔ IsStraight special t ∧ IsStraight special s := by
  obtain rfl | hhead := hs
  · rw [List.append_nil]
    exact (and_iff_left (isStraight_nil special)).symm
  · obtain ⟨r, rfl⟩ := List.head?_eq_some_iff.mp hhead
    have hslash : isSlash special '/' = true := by simp [isSlash]
    rw [isStraight_append_cons hslash, isStraight_cons hslash]

theorem isStraight_of_isDrive (h : isDrive t = true) : IsStraight true t := by
  unfold isDrive at h
  split at h
  · next a b =>
    simp only [Bool.and_eq_true, Bool.or_eq_true, beq_iff_eq] at h
    obtain ⟨ha, hb⟩ := h
    have hslash : ∀ c ∈ [a, b], isSlash true c = false := by
      have haslash : isSlash true a = false := by
        simp only [isSlash, Bool.true_and, Bool.or_eq_false_iff, beq_eq_false_iff_ne]
        refine ⟨?_, ?_⟩ <;> · rintro rfl; exact absurd ha (by decide)
      have hbslash : isSlash true b = false := by obtain rfl | rfl := hb <;> decide
      simp [haslash, hbslash]
    have hundot : undot [a, b] = [a, b] := by simp [undot]
    rw [IsStraight, pieces_eq_singleton hslash]
    intro w hw
    obtain rfl := List.mem_singleton.mp hw
    simp only [isSingleDot, isDoubleDot, hundot]
    obtain rfl | rfl := hb <;> simp
  · cases h

theorem isStraight_of_suffix (hs : t <:+ s) (hhead : t = [] ∨ t.head? = some '/')
    (h : IsStraight special s) : IsStraight special t := by
  obtain ⟨x, rfl⟩ := hs
  exact ((isStraight_append hhead x).mp h).2

theorem resolve_spelled (h : IsStraight special t) :
    resolve [] (spelled special t) = spelled special t := by
  rw [resolve_eq, List.reverse_nil, List.nil_append]
  intro w hw
  obtain ⟨p, hp, rfl⟩ := List.mem_map.mp hw
  rw [isDoubleDot_encode, isSingleDot_encode]
  exact (isStraight_skipSlash.mpr h p hp).symm

/-- A path of the segments that a text spells, normalized by `normal`. Without special rules a text that
starts with no slash is a flat path, and no text after an authority is no path at all. Of a local file
the empty segments in front are left out. -/
inductive Spells (scheme : List Char) (normal : List (List Char) → List (List Char)) (t : List Char) :
    Path → Prop
  | flat (hs : isSpecialScheme scheme = false) (hhead : t.head? ≠ some '/') :
      Spells scheme normal t (.flat (Percent.encode keepsFlat t))
  | bare (hs : isSpecialScheme scheme = false) (ht : t = []) : Spells scheme normal t (.segments [])
  | segments (hs : isFileScheme scheme = false) :
      Spells scheme normal t (.segments (normal (spelled (isSpecialScheme scheme) t)))
  | file (hs : isFileScheme scheme = true) :
      Spells scheme normal t (.segments (dropEmpty (normal (spelled true t))))
  | drive (hs : isFileScheme scheme = true) :
      Spells scheme normal t (.segments (dropEmpty (nameDrive (normal (spelled true t)))))

theorem Spells.of_isStraight {p : Path} (h : Spells scheme (resolve []) t p)
    (ht : IsStraight (isSpecialScheme scheme) t) : Spells scheme id t p := by
  cases h with
  | flat hs hhead => exact .flat hs hhead
  | bare hs hnil => exact .bare hs hnil
  | segments hs =>
    rw [resolve_spelled ht]
    exact .segments hs
  | file hs =>
    rw [isSpecialScheme_of_isFileScheme hs] at ht
    rw [resolve_spelled ht]
    exact .file hs
  | drive hs =>
    rw [isSpecialScheme_of_isFileScheme hs] at ht
    rw [resolve_spelled ht]
    exact .drive hs

end Path

/-! ## Where the path begins -/

/-- The text of the path, of what follows the colon of a scheme and has no backslash. -/
def bodyPathText (scheme s : List Char) : List Char :=
  if isFileScheme scheme then
    match s with
    | '/' :: '/' :: r =>
      if Path.isDrive (before (· == '/') r) then r else r.dropWhile (· != '/')
    | s => s
  else if isSpecialScheme scheme then (s.dropWhile (· == '/')).dropWhile (· != '/')
  else
    match s with
    | '/' :: '/' :: r => r.dropWhile (· != '/')
    | s => s

def frontText (text : List Char) : List Char :=
  (cutAt (· == '?') (cutAt (· == '#') (clean text)).1).1

/-- The text of the path of a URL that has no backslash. -/
def pathText (text : List Char) : List Char :=
  match cutScheme? (frontText text) with
  | some (scheme, rest) => bodyPathText scheme rest
  | none => []

theorem dropWhile_congr {p q : Char → Bool} (h : ∀ c ∈ s, p c = q c) : s.dropWhile p = s.dropWhile q := by
  induction s with
  | nil => rfl
  | cons c r ih =>
    rw [List.dropWhile_cons, List.dropWhile_cons, h c List.mem_cons_self,
      ih fun d hd => h d (List.mem_cons_of_mem c hd)]

theorem dropWhile_ne_slash (s : List Char) :
    s.dropWhile (· != '/') = [] ∨ (s.dropWhile (· != '/')).head? = some '/' := by
  have hhead := List.head?_dropWhile_not (· != '/') s
  cases hrest : s.dropWhile (· != '/') with
  | nil => exact .inl rfl
  | cons c r =>
    rw [hrest] at hhead
    exact .inr (by simpa using hhead)

theorem dropWhile_isSlash (h : '\\' ∉ s) :
    s.dropWhile (Path.isSlash special) = s.dropWhile (· == '/') :=
  dropWhile_congr fun _ hc => isSlash_of_ne fun heq => h (heq ▸ hc)

theorem dropWhile_not_isSlash (h : '\\' ∉ s) :
    s.dropWhile (!Path.isSlash special ·) = s.dropWhile (· != '/') :=
  dropWhile_congr fun _ hc => by rw [isSlash_of_ne fun heq => h (heq ▸ hc)]; rfl

/-- Only a backslash could stand behind a port. -/
theorem readAuthority_rest {a : Authority} {rest : List Char} (hback : '\\' ∉ s)
    (h : readAuthority scheme s followed = .ok (a, rest)) : rest = [] := by
  obtain ⟨_, hrest, _⟩ | ⟨name, tail, _, hcut, _, _, _, hport⟩ := (readAuthority_spec h).2
  · exact hrest
  · obtain ⟨hs, htail⟩ := cutHost_spec false (afterUser s)
    rw [hcut] at hs htail
    obtain ⟨hhead, _, rfl⟩ | ⟨ds, rfl, _, _, hrest, _⟩ := readPort_spec hport
    · exact htail.resolve_right hhead
    · refine hrest.resolve_right fun hhead => hback (mem_of_mem_afterUser ?_)
      rw [hs]
      simp [List.mem_of_mem_head? hhead]

theorem spells_of_readHierarchy {a : Authority} {p : Path} (hback : '\\' ∉ s)
    (hs : isFileScheme scheme = false) (h : readHierarchy scheme s followed = .ok (a, p)) :
    p.Spells scheme (Path.resolve []) (s.dropWhile (· != '/')) := by
  unfold readHierarchy at h
  obtain ⟨⟨a', rest⟩, hauth, hok⟩ := bind_eq_ok.mp h
  obtain ⟨_, rfl⟩ := Prod.mk.inj (Except.ok.inj hok)
  obtain rfl := readAuthority_rest (fun hm => hback (mem_of_mem_before hm)) hauth
  rw [List.nil_append, dropWhile_not_isSlash hback]
  unfold readPathAfter
  split
  · next hempty =>
    simp only [Bool.and_eq_true, Bool.not_eq_true', List.isEmpty_iff] at hempty
    exact .bare hempty.1 hempty.2
  · exact .segments hs

theorem spells_of_readFile {a : Authority} {p : Path} (hback : '\\' ∉ s)
    (hs : isFileScheme scheme = true) (h : readFile s = .ok (a, p)) :
    p.Spells scheme (Path.resolve []) (bodyPathText scheme s) := by
  unfold bodyPathText
  rw [if_pos hs]
  unfold readFile at h
  dsimp only at h
  split at h
  · next c d r =>
    have hc : c ≠ '\\' := fun heq => hback (by simp [heq])
    have hd : d ≠ '\\' := fun heq => hback (by simp [heq])
    have hr : '\\' ∉ r := fun hm => hback (by simp [hm])
    rw [isSlash_of_ne hc, isSlash_of_ne hd, before_isSlash hr, dropWhile_not_isSlash hr] at h
    split at h
    · next hslashes =>
      simp only [Bool.and_eq_true, beq_iff_eq] at hslashes
      obtain ⟨rfl, rfl⟩ := hslashes
      change p.Spells scheme (Path.resolve [])
        (if Path.isDrive (before (· == '/') r) then r else r.dropWhile (· != '/'))
      split at h
      · next hdrive =>
        obtain ⟨_, rfl⟩ := Prod.mk.inj (Except.ok.inj h)
        rw [if_pos hdrive]
        exact .drive hs
      next hdrive =>
      rw [if_neg hdrive]
      obtain ⟨host, _, h⟩ := bind_eq_ok.mp h
      split at h
      · obtain ⟨_, rfl⟩ := Prod.mk.inj (Except.ok.inj h)
        exact .drive hs
      · obtain ⟨_, rfl⟩ := Prod.mk.inj (Except.ok.inj h)
        exact .file hs
    · next hslashes =>
      obtain ⟨_, rfl⟩ := Prod.mk.inj (Except.ok.inj h)
      split
      · next heq =>
        simp only [List.cons.injEq] at heq
        exact absurd (by rw [heq.1, heq.2.1]; rfl) hslashes
      · exact .drive hs
  · next hshort =>
    obtain ⟨_, rfl⟩ := Prod.mk.inj (Except.ok.inj h)
    split
    · exact absurd rfl (hshort _ _ _)
    · exact .drive hs

/-- The path that is read is the one that its text spells, with dot segments resolved. -/
theorem spells_of_readBody {a : Option Authority} {p : Path} (hback : '\\' ∉ s)
    (h : readBody scheme s followed = .ok (a, p)) :
    p.Spells scheme (Path.resolve []) (bodyPathText scheme s) := by
  unfold readBody at h
  split at h
  · next hfile =>
    obtain ⟨⟨a', p'⟩, hread, heq⟩ := map_eq_ok.mp h
    obtain ⟨_, rfl⟩ := Prod.mk.inj heq
    exact spells_of_readFile hback hfile hread
  next hfile =>
  unfold bodyPathText
  rw [if_neg hfile]
  have hfile : isFileScheme scheme = false := by simpa using hfile
  split at h
  · next hspecial =>
    obtain ⟨⟨a', p'⟩, hread, heq⟩ := map_eq_ok.mp h
    obtain ⟨_, rfl⟩ := Prod.mk.inj heq
    rw [dropWhile_isSlash hback] at hread
    rw [if_pos hspecial]
    exact spells_of_readHierarchy (fun hm => hback ((List.dropWhile_sublist _).subset hm)) hfile hread
  next hspecial =>
  rw [if_neg hspecial]
  have hspecial : isSpecialScheme scheme = false := by simpa using hspecial
  split at h
  · next r =>
    obtain ⟨⟨a', p'⟩, hread, heq⟩ := map_eq_ok.mp h
    obtain ⟨_, rfl⟩ := Prod.mk.inj heq
    exact spells_of_readHierarchy (fun hm => hback (by simp [hm])) hfile hread
  · next r hno =>
    obtain ⟨_, rfl⟩ := Prod.mk.inj (Except.ok.inj h)
    split
    · next heq => exact absurd (List.cons.inj heq).2 (hno _)
    · have hsegments : Path.Spells scheme (Path.resolve []) ('/' :: r)
          (.segments (Path.read (isSpecialScheme scheme) ('/' :: r))) := .segments hfile
      rwa [hspecial] at hsegments
  · next hroot =>
    obtain ⟨_, rfl⟩ := Prod.mk.inj (Except.ok.inj h)
    split
    · exact absurd rfl (hroot _)
    · refine .flat hspecial fun hhead => ?_
      obtain ⟨r, rfl⟩ := List.head?_eq_some_iff.mp hhead
      exact hroot r rfl

theorem bodyPathText_suffix (scheme s : List Char) : bodyPathText scheme s <:+ s := by
  have hskip : ∀ r : List Char, r <:+ '/' :: '/' :: r := fun r => ⟨['/', '/'], rfl⟩
  unfold bodyPathText
  split
  · split
    · split
      · exact hskip _
      · exact (List.dropWhile_suffix _).trans (hskip _)
    · exact List.suffix_rfl
  split
  · exact (List.dropWhile_suffix _).trans (List.dropWhile_suffix _)
  · split
    · exact (List.dropWhile_suffix _).trans (hskip _)
    · exact List.suffix_rfl

/-! ## Whole URLs -/

theorem mem_of_mem_clean {c : Char} (h : c ∈ clean text) : c ∈ text := by
  obtain ⟨a, b, htext, _⟩ := trim_spec isOuter text
  rw [htext]
  simp [(List.mem_filter.mp h).1]

theorem mem_of_mem_frontText {c : Char} (h : c ∈ frontText text) : c ∈ text := by
  rw [frontText, cutAt_fst, cutAt_fst] at h
  exact mem_of_mem_clean (mem_of_mem_before (mem_of_mem_before h))

theorem mem_of_mem_pathText {c : Char} (h : c ∈ pathText text) : c ∈ text := by
  unfold pathText at h
  split at h
  · next scheme rest hcut =>
    obtain ⟨_, t, hfront, _⟩ := cutScheme?_spec hcut
    have hrest := (bodyPathText_suffix scheme rest).subset h
    exact mem_of_mem_frontText (by simp [hfront, hrest])
  · exact absurd h List.not_mem_nil

theorem frontText_of_parse (h : parse text = .ok u) : ∃ rest followed,
    cutScheme? (frontText text) = some (u.scheme, rest) ∧
      readBody u.scheme rest followed = .ok (u.authority, u.path) := by
  unfold parse at h
  dsimp only at h
  split at h
  · cases h
  next scheme rest hcut =>
  obtain ⟨⟨authority, path⟩, hbody, h⟩ := bind_eq_ok.mp h
  obtain rfl := Except.ok.inj h
  exact ⟨rest, _, hcut, hbody⟩

theorem spells_of_parse (hback : '\\' ∉ text) (h : parse text = .ok u) :
    u.path.Spells u.scheme (Path.resolve []) (pathText text) := by
  obtain ⟨rest, followed, hcut, hbody⟩ := frontText_of_parse h
  obtain ⟨_, t, hfront, _⟩ := cutScheme?_spec hcut
  have hrest : '\\' ∉ rest := fun hm => hback (mem_of_mem_frontText (by simp [hfront, hm]))
  rw [pathText, hcut]
  exact spells_of_readBody hrest hbody

end ConsentGate.Url
