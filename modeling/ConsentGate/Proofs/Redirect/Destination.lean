import ConsentGate.Proofs.Redirect.Failure

namespace ConsentGate

open Text (Form.Pair)

namespace Url

variable {u target : Url}

/-- Tells the local files with a host and a path that starts with a drive. -/
def losesHost (u : Url) : Bool :=
  isFileScheme u.scheme && u.host?.isSome &&
    match u.path with
    | .segments l => Path.startsWithDrive l
    | .flat _ => false

/-- The path with a colon in the name of the drive that it starts with. -/
def Path.onDrive : Path → Path
  | .segments l => .segments (nameDrive l)
  | .flat s => .flat s

theorem settled_eq (h : u.WellFormed) : u.settled =
    if u.losesHost then { u with authority := some ⟨[], none, none, none⟩, path := u.path.onDrive }
    else u := by
  obtain ⟨scheme, authority, path, query, fragment⟩ := u
  have hbody := h.body
  dsimp only at hbody
  cases hbody with
  | file host l hs hhost hl hseg hdrop =>
    cases hdrive : isFileScheme scheme && host.isSome && Path.startsWithDrive l <;>
      simp [settled, settleDrive, losesHost, host?, Path.onDrive, hdrive]
  | hierarchy a l hs ha hl hseg => simp [settled, settleDrive, losesHost, hs]
  | rooted l hs hl hseg => simp [settled, settleDrive, losesHost, host?]
  | flat t hs hslash hkeep => simp [settled, settleDrive, losesHost, host?]

/-- Tells that a URL differs from another one at most behind the path, and that its query begins with
the query of the other. Spaces at the end of a flat path may be gone. -/
structure Extends (u target : Url) : Prop where
  scheme : u.scheme = target.scheme
  authority : u.authority = target.authority
  path : u.path = target.path ∨ ∃ s, target.path = .flat s ∧ u.path = .flat (trimEnd s)
  query : target.query.getD [] <+: u.query.getD []

theorem Extends.refl (u : Url) : u.Extends u := ⟨rfl, rfl, .inl rfl, List.prefix_rfl⟩

theorem prefix_extendQuery (query : Option (List Char)) (ps : List Form.Pair) :
    query.getD [] <+: extendQuery query ps := by
  unfold extendQuery
  split
  · exact List.nil_prefix
  · exact List.nil_prefix
  · split
    · exact List.prefix_rfl
    · exact List.prefix_append _ _

theorem Extends.appendQuery (h : u.Extends target) (ps : List Form.Pair) :
    (u.appendQuery ps).Extends target :=
  ⟨h.scheme, h.authority, h.path, h.query.trans (prefix_extendQuery u.query ps)⟩

theorem Extends.setFragment (h : u.Extends target) (ps : List Form.Pair) :
    (u.setFragment ps).Extends target :=
  ⟨h.scheme, h.authority, h.path, h.query⟩

theorem extends_dropFragment (u : Url) : u.dropFragment.Extends u := by
  obtain ⟨scheme, authority, path, query, fragment⟩ := u
  unfold dropFragment
  split
  · next s hpath _ => exact ⟨rfl, rfl, .inr ⟨s, hpath, rfl⟩, List.prefix_rfl⟩
  · exact ⟨rfl, rfl, .inl rfl, List.prefix_rfl⟩

theorem Extends.isReadable (h : u.Extends target) : u.isReadable = target.isReadable := by
  rw [Url.isReadable, Url.isReadable, h.scheme, h.authority]

end Url

namespace Redirect

variable {target : Url} {request : Request} {session : Option String} {now : Timestamp}

/-- Tells that a redirect leads to a URL: it has that URL's scheme, user, password, host, port and path,
and a query that begins with that of the URL. The second part says what a reader makes of its text. -/
def LeadsTo (r : Redirect) (target : Url) : Prop :=
  ∃ u : Url, u.Extends target ∧ r.uri.toList = u.render ∧
    Url.parse r.uri.toList = if target.isReadable then .ok u.settled else .error .badDomain

theorem place_answered (target : Url) (pairs : List Form.Pair) (issued : Issued) :
    (answered target pairs issued).scheme = target.scheme ∧
      (answered target pairs issued).authority = target.authority ∧
      (answered target pairs issued).path = target.path ∧
      (answered target pairs issued).losesHost = target.losesHost := by
  cases issued <;> exact ⟨rfl, rfl, rfl, rfl⟩

theorem extends_answered (target : Url) (pairs : List Form.Pair) (issued : Issued) :
    (answered target pairs issued).Extends target := by
  cases issued with
  | code code => exact (Url.Extends.refl target).appendQuery pairs
  | token token code => exact (Url.Extends.refl target).setFragment pairs

theorem extends_reported (target : Url) (pairs : List Form.Pair) (grant : GrantType) :
    (reported target pairs grant).Extends target := by
  cases grant with
  | authorizationCode => exact (Url.extends_dropFragment target).appendQuery pairs
  | implicit => exact (Url.Extends.refl target).setFragment pairs

theorem parse_reported (ht : target.WellFormed) (pairs : List Form.Pair) (grant : GrantType) :
    Url.parse (reported target pairs grant).render =
      if target.isReadable then .ok (reported target pairs grant).settled else .error .badDomain := by
  cases grant with
  | authorizationCode =>
    rw [reported, Url.parse_appendQuery ht.dropFragment, (Url.extends_dropFragment target).isReadable]
  | implicit => exact Url.parse_setFragment ht pairs

theorem nodup_errorPairs (error : AuthError) (state : Option String) :
    ((errorPairs error state).map Prod.fst).Nodup := by
  have hsub : ((errorPairs error state).map Prod.fst).Sublist
      (["error", "error_description"] ++ ["state"]) := by
    rw [errorPairs, List.map_append]
    exact (List.Sublist.refl _).append (map_fst_optional "state" state)
  exact hsub.nodup (by decide)

theorem delivers_failure (status : RedirectStatus) (ht : target.WellFormed) (grant : GrantType)
    (error : AuthError) (state : Option String) :
    Delivers (failure status target grant error state) target (errorPairs error state)
      grant.usesFragment := by
  have htext : ∃ base, (base = target ∨ base = target.dropFragment) ∧
      (failure status target grant error state).uri =
        toString (placed base (errorPairs error state) grant.usesFragment) := by
    cases grant with
    | authorizationCode => exact ⟨_, .inr rfl, rfl⟩
    | implicit => exact ⟨_, .inl rfl, rfl⟩
  refine .of_parse (nodup_errorPairs error state) htext
    ((congrArg Url.parse (uri_failure status target grant error state)).trans
      (parse_reported ht _ grant)) (queryPairs_reported target _ grant) fun hf => ?_
  cases grant with
  | authorizationCode => cases hf
  | implicit => exact Url.fragmentPairs_setFragment target _

theorem parameter?_failure (status : RedirectStatus) (ht : target.WellFormed)
    (hr : target.isReadable = true) (grant : GrantType) (error : AuthError) (state : Option String)
    {name : String} (hname : name ∉ (errorPairs error state).map Prod.fst) :
    (failure status target grant error state).parameter? name = target.queryPairs.lookup name := by
  have hnone : (errorPairs error state).lookup name = none := by
    rw [List.lookup_eq_none_iff]
    intro pair hm
    apply bne_iff_ne.mpr
    rintro rfl
    exact hname (List.mem_map_of_mem hm)
  have hquery : (reported target (errorPairs error state) grant).queryPairs.lookup name =
      target.queryPairs.lookup name := by
    rw [queryPairs_reported]
    split
    · rfl
    · rw [List.lookup_append, hnone, Option.or_none]
  have hfragment : (reported target (errorPairs error state) grant).fragmentPairs.lookup name = none := by
    cases grant with
    | authorizationCode =>
      rw [reported, Url.fragmentPairs, Url.appendQuery, Url.fragment_dropFragment]
      rfl
    | implicit => rw [reported, Url.fragmentPairs_setFragment, hnone]
  rw [parameter?, uri_failure, parse_reported ht, if_pos hr]
  exact (congrArg₂ Option.or hquery hfragment).trans (Option.or_none)

theorem leadsTo_success (status : RedirectStatus) (now : Timestamp) (ht : target.WellFormed)
    (request : Request) (issued : Issued) (session : Option String) :
    (success status now target request issued session).LeadsTo target :=
  ⟨_, extends_answered target _ issued, uri_success status now target request issued session,
    parse_success status now ht request issued session⟩

theorem leadsTo_failure (status : RedirectStatus) (ht : target.WellFormed) (grant : GrantType)
    (error : AuthError) (state : Option String) :
    (failure status target grant error state).LeadsTo target := by
  have huri := uri_failure status target grant error state
  exact ⟨_, extends_reported target _ grant, huri, huri ▸ parse_reported ht _ grant⟩

/-! ## What is read -/

/-- What a URL says that a request was answered with: behind the query of the URL at which it is
answered, or in the fragment. -/
def Says (u target : Url) (now : Timestamp) (request : Request) (session : Option String) :
    Issued → Prop
  | .code code =>
    u.queryPairs = target.queryPairs ++ [("code", code)] ++
      (request.state.map fun state => ("state", state)).toList ++
      (session.map fun session => ("session_state", session)).toList
  | .token token code =>
    let scope := if token.scope.isEmpty then request.scope else token.scope
    u.query = target.query ∧
    u.fragmentPairs = [("token_type", token.tokenType), ("access_token", token.value)] ++
      (token.idToken.map fun idToken => ("id_token", idToken)).toList ++
      (code.map fun code => ("code", code)).toList ++
      (request.state.map fun state => ("state", state)).toList ++
      [("expires_in", toString (token.expiresIn now))] ++
      (if scope.isEmpty then [] else [("scope", " ".intercalate scope.toList)]) ++
      (session.map fun session => ("session_state", session)).toList

theorem optional_eq (name : String) (value : Option String) :
    optional name value = (value.map fun v => (name, v)).toList := by
  cases value <;> rfl

theorem says_answered (target : Url) (now : Timestamp) (request : Request) (session : Option String)
    (issued : Issued) :
    Says (answered target (successPairs now request session issued) issued) target now request session
      issued := by
  cases issued with
  | code code =>
    rw [Says, queryPairs_answered, successPairs, codePairs, optional_eq, optional_eq]
    simp [inFragment]
  | token token code =>
    refine ⟨rfl, ?_⟩
    rw [fragmentPairs_answered target _ rfl, successPairs, tokenPairs]
    simp only [optional_eq, grantedScope, ParameterList.format]
    rfl

/-- The text of a redirect that delivers something reads as the URL at which the request is answered,
with what was issued in its query or as its fragment, and nothing else added. A host with a label of more
than 2000 characters behind the mark of Punycode is not read again, and a local file with a host and a
drive behind it is read without the host. -/
theorem success_reread (status : RedirectStatus) (now : Timestamp) (text : List Char) (target : Url)
    (h : Url.parse text = .ok target) (request : Request) (issued : Issued)
    (session : Option String) :
    (target.isReadable = false →
      Url.parse (success status now target request issued session).uri.toList = .error .badDomain) ∧
    (target.isReadable = true → ∃ u,
      Url.parse (success status now target request issued session).uri.toList = .ok u ∧
      Says u target now request session issued ∧
      u.scheme = target.scheme ∧
      (target.losesHost = false → u.authority = target.authority ∧ u.path = target.path) ∧
      (target.losesHost = true →
        u.authority = some ⟨[], none, none, none⟩ ∧ u.path = target.path.onDrive)) := by
  have ht := Url.wellFormed_of_parse h
  have hparse := parse_success status now ht request issued session
  refine ⟨fun hr => by rw [hparse, if_neg (by simp [hr])], fun hr => ?_⟩
  rw [hparse, if_pos hr]
  have hwell := wellFormed_answered ht (successPairs now request session issued) issued
  have hsaid := says_answered target now request session issued
  obtain ⟨hscheme, hauthority, hpath, hlost⟩ :=
    place_answered target (successPairs now request session issued) issued
  rw [Url.settled_eq hwell, hlost]
  cases target.losesHost with
  | false => exact ⟨_, rfl, hsaid, hscheme, fun _ => ⟨hauthority, hpath⟩, fun h => by cases h⟩
  | true =>
    refine ⟨_, rfl, ?_, hscheme, fun h => (by cases h), fun _ => ⟨rfl, by rw [if_pos rfl, hpath]⟩⟩
    cases issued <;> exact hsaid

def opaqueTarget : Url :=
  ⟨['a', 'p', 'p'], none, .flat ['c', 'b', ' ', ' '], some ['x', '=', '1'], some ['o', 'l', 'd']⟩

def hybridRequest : Request where
  clientId := "foo"
  redirectUri := some "app:cb  ?x=1#old"
  state := some "é&=#"
  scope := .ofList ["read", "write"]
  responseTypes := .ofList ["code", "token"]
  approved := true
  resourceIds := .empty
  authorities := .empty
  parameters := .empty
  extensions := .empty

def hybridIssued : Issued :=
  .token ⟨"a+b %", none, ⟨2024, 1, 1, 1, 0, 0, 0, 0⟩, "bearer", .empty⟩ (some "日=本")

theorem success_reread_opaque :
    let now : Timestamp := ⟨2024, 1, 1, 0, 0, 0, 0, 0⟩
    Url.parse "app:cb  ?x=1#old".toList = .ok opaqueTarget ∧ ∃ u,
      Url.parse (success .found now opaqueTarget hybridRequest hybridIssued none).uri.toList = .ok u ∧
      u.query = some ['x', '=', '1'] ∧
      u.fragmentPairs = [("token_type", "bearer"), ("access_token", "a+b %"), ("code", "日=本"),
        ("state", "é&=#"), ("expires_in", "3600"), ("scope", "read write")] ∧
      u.authority = none ∧ u.path = .flat ['c', 'b', ' ', ' '] := by
  intro now
  have hparse : Url.parse "app:cb  ?x=1#old".toList = .ok opaqueTarget := by rfl
  obtain ⟨u, hu, ⟨hquery, hfragment⟩, _, hplace, _⟩ :=
    (success_reread .found now _ opaqueTarget hparse hybridRequest hybridIssued none).2 rfl
  obtain ⟨hauthority, hpath⟩ := hplace rfl
  exact ⟨hparse, u, hu, hquery, hfragment.trans (by decide +kernel), hauthority, hpath⟩

def driveTarget : Url :=
  ⟨['f', 'i', 'l', 'e'], some ⟨[], none, some (.name ['h', 'o', 's', 't']), none⟩,
    .segments [['C', ':'], ['x']], none, none⟩

/-- The text of a redirect to a drive behind a host reads as one to a file of this machine. -/
theorem success_reread_drive :
    let now : Timestamp := ⟨2024, 1, 1, 0, 0, 0, 0, 0⟩
    let r := success .found now driveTarget hybridRequest (.code "c") none
    Url.parse "file://host//C:/x".toList = .ok driveTarget ∧
      (Url.parse r.uri.toList).toOption.map (·.host?) = some none ∧
      driveTarget.host? = some (.name ['h', 'o', 's', 't']) := by
  decide +kernel

end Redirect

end ConsentGate
