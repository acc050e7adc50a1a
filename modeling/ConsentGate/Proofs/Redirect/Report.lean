import ConsentGate.Proofs.Redirect.Destination

namespace ConsentGate

open Text (Form.Pair)

namespace Url

variable {u : Url}

theorem trimEnd_spec (s : List Char) : ∃ n, s = trimEnd s ++ List.replicate n ' ' := by
  refine ⟨(s.reverse.takeWhile (· == ' ')).length, ?_⟩
  have hspaces : s.reverse.takeWhile (· == ' ') =
      List.replicate (s.reverse.takeWhile (· == ' ')).length ' ' := by
    refine List.eq_replicate_of_mem fun c hc => ?_
    simpa using List.mem_takeWhile_imp hc
  have hsplit := List.takeWhile_append_dropWhile (p := (· == ' ')) (l := s.reverse)
  calc s = (s.reverse.dropWhile (· == ' ')).reverse ++ (s.reverse.takeWhile (· == ' ')).reverse := by
        rw [← List.reverse_append, hsplit, List.reverse_reverse]
    _ = trimEnd s ++ List.replicate _ ' ' := by
        rw [trimEnd, hspaces, List.reverse_replicate, List.length_replicate]

theorem losesHost_dropFragment (u : Url) : u.dropFragment.losesHost = u.losesHost := by
  obtain ⟨scheme, authority, path, query, fragment⟩ := u
  unfold dropFragment
  split
  · next s hpath _ =>
    dsimp only at hpath
    subst hpath
    rfl
  · rfl

/-- Tells that a URL has the path of one at which an error is reported. Where a fragment is dropped, the
spaces at the end of a flat path that would end the URL then are dropped, too. -/
inductive KeepsPath (u target : Url) : GrantType → Prop
  | same {grant : GrantType} (h : u.path = target.path) : KeepsPath u target grant
  | trimmed {s : List Char} {n : Nat} (hquery : target.query = none)
    (htarget : target.path = .flat (s ++ List.replicate n ' ')) (h : u.path = .flat s) :
    KeepsPath u target .authorizationCode

theorem keepsPath_dropFragment (u : Url) : u.dropFragment.KeepsPath u .authorizationCode := by
  obtain ⟨scheme, authority, path, query, fragment⟩ := u
  unfold dropFragment
  split
  · next s hpath hquery =>
    obtain ⟨n, hs⟩ := trimEnd_spec s
    exact .trimmed hquery (hpath.trans (congrArg Path.flat hs)) rfl
  · exact .same rfl

theorem KeepsPath.of_losesHost {target : Url} {grant : GrantType} (h : u.KeepsPath target grant)
    (hlost : target.losesHost = true) : u.path = target.path := by
  cases h with
  | same h => exact h
  | trimmed _ htarget _ => simp [losesHost, htarget] at hlost

end Url

namespace Redirect

variable {target : Url} {error : AuthError} {state : Option String}

/-- What a URL says of an error that is reported at another one: behind the query of that URL, without a
fragment, or as the fragment alone. -/
def Reports (u target : Url) (error : AuthError) (state : Option String) (grant : GrantType) : Prop :=
  let added : List Form.Pair := [("error", error.code.text), ("error_description", error.description)] ++
    (state.map fun state => ("state", state)).toList
  match grant with
  | .authorizationCode => u.fragment = none ∧ u.queryPairs = target.queryPairs ++ added
  | .implicit => u.query = target.query ∧ u.fragmentPairs = added

/-- No pair of a name is added: as many stand in the query as before, and none in the fragment. -/
def AddsNone (u target : Url) (name : String) (grant : GrantType) : Prop :=
  u.queryPairs.filter (·.1 == name) = target.queryPairs.filter (·.1 == name) ∧
    (grant = .implicit → u.fragmentPairs.filter (·.1 == name) = [])

theorem reports_reported (target : Url) (error : AuthError) (state : Option String) (grant : GrantType) :
    Reports (reported target (errorPairs error state) grant) target error state grant := by
  cases grant with
  | authorizationCode =>
    refine ⟨Url.fragment_dropFragment target, ?_⟩
    rw [queryPairs_reported, errorPairs, optional_eq]
    rfl
  | implicit =>
    refine ⟨rfl, ?_⟩
    rw [reported, Url.fragmentPairs_setFragment, errorPairs, optional_eq]

theorem Reports.addsNone {u : Url} {grant : GrantType} (h : Reports u target error state grant)
    {name : String} (herror : name ≠ "error") (hdescription : name ≠ "error_description")
    (hstate : name ≠ "state") : AddsNone u target name grant := by
  have hadded : ([("error", error.code.text), ("error_description", error.description)] ++
      (state.map fun state => ("state", state)).toList).filter (·.1 == name) = [] := by
    cases state <;> simp [herror.symm, hdescription.symm, hstate.symm]
  cases grant with
  | authorizationCode =>
    refine ⟨?_, fun himplicit => by cases himplicit⟩
    rw [h.2, List.filter_append, hadded, List.append_nil]
  | implicit =>
    refine ⟨congrArg _ (Url.queryPairs_congr h.1), fun _ => ?_⟩
    rw [h.2, hadded]

theorem place_reported (target : Url) (pairs : List Form.Pair) (grant : GrantType) :
    (reported target pairs grant).scheme = target.scheme ∧
      (reported target pairs grant).authority = target.authority ∧
      (reported target pairs grant).losesHost = target.losesHost ∧
      (reported target pairs grant).KeepsPath target grant := by
  obtain ⟨hscheme, hauthority, _, _⟩ := extends_reported target pairs grant
  refine ⟨hscheme, hauthority, ?_, ?_⟩
  · cases grant with
    | authorizationCode => exact target.losesHost_dropFragment
    | implicit => rfl
  · cases grant with
    | authorizationCode =>
      have hpath : (reported target pairs .authorizationCode).path = target.dropFragment.path := rfl
      cases target.keepsPath_dropFragment with
      | same h => exact .same (hpath.trans h)
      | trimmed hquery htarget h => exact .trimmed hquery htarget (hpath.trans h)
    | implicit => exact .same rfl

/-- The text of a redirect that reports an error reads as the redirect URI, with the error in its query or
as its fragment, and nothing else added. A host with a label of more than 2000 characters behind the mark of
Punycode is not read again, and a local file with a host and a drive behind it is read without the host. -/
theorem failure_reread (status : RedirectStatus) (text : List Char) (target : Url)
    (h : Url.parse text = .ok target) (grant : GrantType) (error : AuthError) (state : Option String) :
    (target.isReadable = false →
      Url.parse (failure status target grant error state).uri.toList = .error .badDomain) ∧
    (target.isReadable = true → ∃ u,
      Url.parse (failure status target grant error state).uri.toList = .ok u ∧
      Reports u target error state grant ∧
      (∀ name ∈ ["code", "access_token", "id_token"], AddsNone u target name grant) ∧
      u.scheme = target.scheme ∧
      (target.losesHost = false → u.authority = target.authority ∧ u.KeepsPath target grant) ∧
      (target.losesHost = true →
        u.authority = some ⟨[], none, none, none⟩ ∧ u.path = target.path.onDrive)) := by
  have ht := Url.wellFormed_of_parse h
  have hparse : Url.parse (failure status target grant error state).uri.toList = _ :=
    (congrArg Url.parse (uri_failure status target grant error state)).trans (parse_reported ht _ grant)
  refine ⟨fun hr => by rw [hparse, if_neg (by simp [hr])], fun hr => ?_⟩
  have hreports := reports_reported target error state grant
  have hnone : ∀ u, Reports u target error state grant →
      ∀ name ∈ ["code", "access_token", "id_token"], AddsNone u target name grant := by
    intro u hu name hname
    simp only [List.mem_cons, List.not_mem_nil, or_false] at hname
    rcases hname with rfl | rfl | rfl <;> exact hu.addsNone (by decide) (by decide) (by decide)
  have hwell := wellFormed_reported ht (errorPairs error state) grant
  obtain ⟨hscheme, hauthority, hlost, hpath⟩ := place_reported target (errorPairs error state) grant
  rw [hparse, if_pos hr, Url.settled_eq hwell, hlost]
  cases hloses : target.losesHost with
  | false =>
    exact ⟨_, rfl, hreports, hnone _ hreports, hscheme, fun _ => ⟨hauthority, hpath⟩,
      fun h => by cases h⟩
  | true =>
    -- The drive takes the place of the host; query and fragment are left.
    have hsettled : ∀ authority path, Reports { reported target (errorPairs error state) grant with
        authority := authority, path := path } target error state grant := by
      intro authority path
      cases grant <;> exact hreports
    exact ⟨_, rfl, hsettled _ _, hnone _ (hsettled _ _), hscheme, fun h => (by cases h),
      fun _ => ⟨rfl, congrArg Url.Path.onDrive (hpath.of_losesHost hloses)⟩⟩

/-- Errors of a request for a code are reported without the fragment of the redirect URI, and the spaces
before it. -/
theorem failure_reread_opaque :
    Url.parse "app:cb  #code=evil".toList =
      .ok ⟨['a', 'p', 'p'], none, .flat ['c', 'b', ' ', ' '], none, some "code=evil".toList⟩ ∧
    ∃ u, Url.parse (failure .found ⟨['a', 'p', 'p'], none, .flat ['c', 'b', ' ', ' '], none,
        some "code=evil".toList⟩ .authorizationCode ⟨.accessDenied, "no & never"⟩
        (some "é=#")).uri.toList = .ok u ∧
      u.fragment = none ∧
      u.queryPairs = [("error", "access_denied"), ("error_description", "no & never"), ("state", "é=#")] ∧
      u.authority = none := by
  have hparse : Url.parse "app:cb  #code=evil".toList =
      .ok ⟨['a', 'p', 'p'], none, .flat ['c', 'b', ' ', ' '], none, some "code=evil".toList⟩ := by rfl
  obtain ⟨u, hu, ⟨hfragment, hquery⟩, _, _, hplace, _⟩ :=
    (failure_reread .found _ _ hparse .authorizationCode ⟨.accessDenied, "no & never"⟩
      (some "é=#")).2 rfl
  exact ⟨hparse, u, hu, hfragment, hquery, (hplace rfl).1⟩

/-- An error that is reported to a drive behind a host reads as one at a file of this machine. -/
theorem failure_reread_drive :
    let r := failure .found driveTarget .authorizationCode ⟨.accessDenied, "no"⟩ none
    Url.parse "file://host//C:/x".toList = .ok driveTarget ∧
      (Url.parse r.uri.toList).toOption.map (·.host?) = some none ∧
      driveTarget.host? = some (.name ['h', 'o', 's', 't']) := by
  decide +kernel

end Redirect

end ConsentGate
