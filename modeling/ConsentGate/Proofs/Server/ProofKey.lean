import ConsentGate.Proofs.Endpoint.Setup
import ConsentGate.Proofs.Server.Isolation

namespace ConsentGate

namespace Endpoint

variable {e : Endpoint} {request : Request} {client : Client}

theorem screen_error {grant : GrantType} {error : AuthError}
    (hchallenge : e.pkce.validateParameters request.parameters = .ok ())
    (h : e.screen request client = .error (grant, error)) :
    error = .missingResponseType ∨ error.kind = .unsupportedResponseType ∨
      error.kind = .unauthorizedClient ∨ error.kind = .invalidScope := by
  unfold screen at h
  split at h
  · cases h
    exact .inl rfl
  split at h
  · next hgrant =>
    cases h
    exact .inr (.inl (GrantType.kind_of_ofResponseTypes hgrant))
  split at h
  · cases h
    exact .inr (.inr (.inl rfl))
  split at h
  · cases h
    exact .inr (.inr (.inr rfl))
  split at h
  · next hfault =>
    rw [hchallenge] at hfault
    cases hfault
  · cases h

theorem screen_error_ne {grant : GrantType} {error : AuthError}
    (hchallenge : e.pkce.validateParameters request.parameters = .ok ())
    (h : e.screen request client = .error (grant, error)) (fault : Pkce.Error) :
    error ≠ fault.toAuthError := by
  rintro rfl
  have hkind : fault.toAuthError.kind = .invalidGrant ∨ fault.toAuthError.kind = .invalidRequest := by
    cases fault <;> simp [Pkce.Error.toAuthError]
  obtain heq | hother | hother | hother := screen_error hchallenge h
  · have hdescription : fault.toAuthError.description = fault.message := by cases fault <;> rfl
    rw [heq] at hdescription
    exact fault.message_ne hdescription.symm
  all_goals
    rw [hother] at hkind
    simp at hkind

end Endpoint

namespace Server

variable {s : Server} {inputs : List Input} {input : Input} {state : ServerState} {code : String}
  {issued : IssuedCode}

theorem pkce_of_ofSettings {settings : ServiceSettings} {fits : String → Bool}
    (h : ofSettings settings fits = .ok s) :
    Pkce.Service.ofMethods settings.endpoint.pkce.methods = .ok s.endpoint.pkce := by
  obtain ⟨⟨endpoint, events⟩, hbuilt, rfl⟩ := map_eq_ok.mp h
  exact (Endpoint.ofSettings_ok hbuilt).2.1

/-! ## Steps that issue -/

namespace Input

def calls (s : Server) (state : ServerState) : Input → List Call
  | .get d parameters p => (Handlers.authorize s.endpoint (s.collaborators d) d.moment state.snapshots
      parameters p).calls
  | .post d form p => (Handlers.approve s.endpoint (s.collaborators d) d.moment state.snapshots
      form p).calls
  | .tick _ _ | .redeem _ _ => []

def code? : Input → Option String
  | .get d _ _ | .post d _ _ => some d.code
  | .tick _ _ | .redeem _ _ => none

theorem code?_of_mem_calls {r : Request} {q : Principal}
    (h : .code r q (.ok code) ∈ input.calls s state) : input.code? = some code := by
  cases input with
  | get d parameters p =>
    rw [calls, Handlers.calls_authorize] at h
    obtain ⟨_, _, target, grant, _, _, _, hcall⟩ := Endpoint.mem_respond_of_authorize h (by simp)
    obtain ⟨_, _, hcode⟩ := Endpoint.code_mem_responseCalls
      ((Endpoint.calls_respond s.endpoint _ d.moment p target grant _).subset hcall)
    exact congrArg some (Except.ok.inj hcode).symm
  | post d form p =>
    obtain ⟨hcalls, _⟩ | ⟨id, held, _, _, _, hcalls, _⟩ :=
      Handlers.approve_cases s.endpoint (s.collaborators d) d.moment p state.snapshots form
    · rw [calls, hcalls] at h
      cases h
    · rw [calls, hcalls] at h
      obtain ⟨_, target, grant, _, _, _, hcall⟩ := Endpoint.mem_respond_of_approve h
      obtain ⟨_, _, hcode⟩ := Endpoint.code_mem_responseCalls
        ((Endpoint.calls_respond s.endpoint _ d.moment p target grant _).subset hcall)
      exact congrArg some (Except.ok.inj hcode).symm
  | tick now settings => cases h
  | redeem now code => cases h

end Input

/-- Tells that input `k` issues a code for a request. -/
def IssuesAt (s : Server) (inputs : List Input) (k : Nat) (request : Request) (code : String) : Prop :=
  ∃ input q, inputs[k]? = some input ∧
    .code request q (.ok code) ∈ input.calls s (s.run (inputs.take k))

/-- Tells that authorization request `i` leads to a code: at once, or with a form that answers the page
that it led to. -/
inductive LeadsTo (s : Server) (inputs : List Input) (i : Nat) (code : String) : Prop
  | atOnce {request : Request} (issues : IssuesAt s inputs i request code)
  | approved {j : Nat} {d : Draw} {form : TextMap String} {p : Principal} {id : Uuid}
      {request : Request} (shown : inputs[i]?.bind (·.draws? s) = some id) (later : i < j)
      (answered : inputs[j]? = some (.post d form p)) (named : Handlers.snapshotId? form = some id)
      (issues : IssuesAt s inputs j request code)

/-- No code is issued by two inputs. -/
def IssuedOnce (s : Server) (inputs : List Input) : Prop :=
  ∀ j k request request' code, IssuesAt s inputs j request code → IssuesAt s inputs k request' code →
    j = k

theorem IssuesAt.append {k : Nat} {request : Request} (h : IssuesAt s inputs k request code)
    (last : Input) : IssuesAt s (inputs ++ [last]) k request code := by
  obtain ⟨input, q, hk, hcall⟩ := h
  obtain ⟨hlt, _⟩ := List.getElem?_eq_some_iff.mp hk
  refine ⟨input, q, getElem?_append_of_some hk, ?_⟩
  rwa [List.take_append_of_le_length (by omega)]

theorem mem_codes_calls {x : String × IssuedCode} (hx : x ∈ (s.advance state input).codes.entries) :
    x ∈ state.codes.entries ∨ ∃ q, .code x.2.request q (.ok x.1) ∈ input.calls s state := by
  cases input with
  | get d parameters p =>
    obtain hx | ⟨request, q, hm, hx⟩ := mem_recordCodes hx
    · exact .inl hx
    · exact .inr ⟨q, by rw [hx]; exact hm⟩
  | post d form p =>
    obtain hx | ⟨request, q, hm, hx⟩ := mem_recordCodes hx
    · exact .inl hx
    · exact .inr ⟨q, by rw [hx]; exact hm⟩
  | tick now settings => exact .inl ((tick_cases now settings state).2 x hx)
  | redeem now code => exact .inl ((redeem_cases now code state).2 x hx)

/-- Every code that is kept was issued in the run, for the request that it is kept with. -/
theorem issuesAt_of_mem_codes (inputs : List Input) : ∀ x ∈ (s.run inputs).codes.entries,
    ∃ k, IssuesAt s inputs k x.2.request x.1 := by
  induction inputs using List.reverseRecOn with
  | nil => exact fun x hx => absurd hx List.not_mem_nil
  | append_singleton inputs input ih =>
    intro x hx
    rw [run_append] at hx
    obtain hx | ⟨q, hcall⟩ := mem_codes_calls hx
    · obtain ⟨k, hk⟩ := ih x hx
      exact ⟨k, hk.append input⟩
    · exact ⟨inputs.length, input, q, by simp, by simpa using hcall⟩

/-- A snapshot that is held has the parameters of the request that led to its page. -/
theorem parameters_of_held (inputs : List Input) : ∀ h ∈ (s.run inputs).snapshots.held,
    ∃ (i : Nat) (d : Draw) (parameters : TextMap String) (p : Principal),
      inputs[i]? = some (.get d parameters p) ∧
      (Input.get d parameters p).draws? s = some h.snapshot.id ∧
      h.snapshot.request.parameters = parameters := by
  intro h hm
  obtain ⟨i, d, parameters, p, page, hi, hpage, rfl⟩ := page_of_held inputs h hm
  have hdrawn := draws?_of_page hpage
  obtain ⟨_, _, _, _, hreceived, _, _, _, rfl⟩ := Endpoint.authorize_approval hpage
  exact ⟨i, d, parameters, p, hi, hdrawn, hreceived.parameters_eq⟩

/-! ## What a code stands for -/

theorem index_unique {α : Type} {f : Input → Option α} (h : (inputs.filterMap f).Nodup) {i j : Nat}
    {a b : Input} (hi : inputs[i]? = some a) (hj : inputs[j]? = some b) {x : α} (ha : f a = some x)
    (hb : f b = some x) : i = j := by
  have hpairwise := List.pairwise_iff_getElem.mp (List.pairwise_filterMap.mp h)
  obtain ⟨hilt, rfl⟩ := List.getElem?_eq_some_iff.mp hi
  obtain ⟨hjlt, rfl⟩ := List.getElem?_eq_some_iff.mp hj
  obtain hlt | heq | hgt := Nat.lt_trichotomy i j
  · exact absurd rfl (hpairwise i j hilt hjlt hlt x ha x hb)
  · exact heq
  · exact absurd rfl (hpairwise j i hjlt hilt hgt x hb x ha)

theorem IssuesAt.drawn {k : Nat} {request : Request} (h : IssuesAt s inputs k request code) :
    ∃ input, inputs[k]? = some input ∧ input.code? = some code := by
  obtain ⟨input, q, hk, hcall⟩ := h
  exact ⟨input, hk, Input.code?_of_mem_calls hcall⟩

theorem issuedOnce_of_nodup (h : (inputs.filterMap Input.code?).Nodup) : IssuedOnce s inputs := by
  intro j k request request' code hj hk
  obtain ⟨a, ha, hcode⟩ := hj.drawn
  obtain ⟨b, hb, hcode'⟩ := hk.drawn
  exact index_unique h ha hb hcode hcode'

theorem IssuesAt.parameters_get {i : Nat} {d : Draw} {parameters : TextMap String} {p : Principal}
    {request : Request} (hget : inputs[i]? = some (.get d parameters p))
    (h : IssuesAt s inputs i request code) : request.parameters = parameters := by
  obtain ⟨input, q, hi, hcall⟩ := h
  obtain rfl := Option.some.inj (hget.symm.trans hi)
  rw [Input.calls, Handlers.calls_authorize] at hcall
  obtain ⟨received, client, target, grant, hreceived, _, _, rfl, _⟩ :=
    Endpoint.code_mem_authorize hcall
  exact hreceived.parameters_eq

theorem IssuesAt.parameters_post (hids : Fresh s inputs) {i j : Nat} {d d' : Draw}
    {parameters form : TextMap String} {p p' : Principal} {id : Uuid} {request : Request}
    (hget : inputs[i]? = some (.get d parameters p))
    (hshown : (Input.get d parameters p).draws? s = some id)
    (hpost : inputs[j]? = some (.post d' form p')) (hid : Handlers.snapshotId? form = some id)
    (h : IssuesAt s inputs j request code) : request.parameters = parameters := by
  obtain ⟨input, q, hj, hcall⟩ := h
  obtain rfl := Option.some.inj (hpost.symm.trans hj)
  obtain ⟨hcalls, _⟩ | ⟨id', held, hid', hfind, _, hcalls, _⟩ := Handlers.approve_cases s.endpoint
    (s.collaborators d') d'.moment p' (s.run (inputs.take j)).snapshots form
  · rw [Input.calls, hcalls] at hcall
    cases hcall
  rw [Input.calls, hcalls] at hcall
  obtain ⟨scope, _, _, rfl, _⟩ := Endpoint.code_mem_approve hcall
  obtain rfl := Option.some.inj (hid.symm.trans hid')
  obtain ⟨hm, hsame⟩ := SnapshotStore.find?_spec hfind
  obtain ⟨k, d₀, parameters₀, p₀, hk, hdrawn, hparameters⟩ := parameters_of_held _ held hm
  rw [hsame] at hdrawn
  -- The page was shown once, so the snapshot that was taken is the one of this request.
  have hk' : inputs[k]? = some (.get d₀ parameters₀ p₀) := by
    rw [List.getElem?_take] at hk
    split at hk
    · exact hk
    · cases hk
  obtain rfl := index_unique hids hget hk' hshown hdrawn
  obtain ⟨_, rfl, _⟩ := Input.get.inj (Option.some.inj (hget.symm.trans hk'))
  exact hparameters

/-- The record behind a code has the parameters of the request that led to the code. -/
theorem LeadsTo.parameters_eq (hids : Fresh s inputs) (hcodes : IssuedOnce s inputs) {i : Nat}
    {d : Draw} {parameters : TextMap String} {p : Principal}
    (hget : inputs[i]? = some (.get d parameters p)) (hleads : LeadsTo s inputs i code)
    (hkept : (code, issued) ∈ (s.run inputs).codes.entries) :
    issued.request.parameters = parameters := by
  obtain ⟨k, hk⟩ := issuesAt_of_mem_codes inputs _ hkept
  cases hleads with
  | atOnce issues =>
    obtain rfl := hcodes _ _ _ _ _ issues hk
    exact hk.parameters_get hget
  | approved shown later answered named issues =>
    obtain rfl := hcodes _ _ _ _ _ issues hk
    rw [hget, Option.bind_some] at shown
    exact hk.parameters_post hids hget shown answered named

theorem mem_codes_of_redeem? {now : Timestamp} {after : ServerState}
    (h : s.redeem? now state code = some (some issued, after)) :
    (code, issued) ∈ state.codes.entries := by
  obtain ⟨⟨found, left⟩, hredeem, heq⟩ := Option.map_eq_some_iff.mp h
  obtain ⟨cutoff, _, hfound⟩ := Option.map_eq_some_iff.mp hredeem
  obtain rfl := (Prod.mk.inj heq).1
  exact TextMap.mem_toList.mpr (Option.filter_eq_some_iff.mp (Prod.mk.inj hfound).1).1

/-- By every method on offer, the challenge of a well-formed verifier is in order at the authorization
request, and whatever code that request leads to, be it at once or with any form that answers its page,
what the code is redeemed for can be had with that verifier. -/
theorem exchange_verified (settings : ServiceSettings) {fits : String → Bool} (s : Server)
    (hs : ofSettings settings fits = .ok s) (method : Pkce.Method)
    (hmethod : method.name ∈ settings.endpoint.pkce.methods) (verifier : String)
    (hverifier : Pkce.WellFormed verifier) (parameters : TextMap String)
    (hcarries : Pkce.Carries parameters method verifier) :
    (∀ text, (Pkce.challengeS256 text).length = 43 ∧
      ∀ c ∈ (Pkce.challengeS256 text).toList, Pkce.isUnreserved c = true) ∧
    (∀ request, Request.ofParameters parameters = .ok request →
      s.endpoint.pkce.validateParameters request.parameters = .ok () ∧
      ∀ uri client grant error (fault : Pkce.Error),
        s.endpoint.screen { request with redirectUri := some uri } client = .error (grant, error) →
        error ≠ fault.toAuthError) ∧
    ∀ inputs i d p code, Fresh s inputs → IssuedOnce s inputs →
      inputs[i]? = some (.get d parameters p) → LeadsTo s inputs i code →
      ∀ now issued after, s.redeem? now (s.run inputs) code = some (some issued, after) →
        s.endpoint.pkce.OpensWith issued.request.parameters method verifier := by
  have hcheck := Pkce.Service.check_of_ofMethods (pkce_of_ofSettings hs) hmethod
  have hvalid := Pkce.Service.validateParameters_carries hcheck hverifier hcarries
  refine ⟨fun text => ⟨Pkce.length_challengeS256 text, fun _ => Pkce.isUnreserved_of_mem_challengeS256⟩,
    ?_, ?_⟩
  · intro request hrequest
    obtain rfl := Request.parameters_of_ofParameters hrequest
    exact ⟨hvalid, fun uri client grant error fault h => Endpoint.screen_error_ne hvalid h fault⟩
  · intro inputs i d p code hids hcodes hget hleads now issued after hredeem
    have hsame := hleads.parameters_eq hids hcodes hget (mem_codes_of_redeem? hredeem)
    rw [hsame]
    exact Pkce.Service.opensWith_of_carries hcheck hverifier hcarries

def keyed : TextMap String :=
  .ofList [("client_id", "foo"), ("response_type", "code"), ("scope", "read write"),
    ("code_challenge", "E9Melhoa2OwvFrEMTJguCHaoeK1t8URWbuGJSstw-cM"),
    ("code_challenge_method", "S256")]

def key : String := "dBjftJeZ4CVP-mB92K27uhbUJU1p1r_wW1gFWFOEjXk"

def rekeyed : TextMap String :=
  .ofList [("snapshot_id", "00000000000000000000000000000001"), ("user_oauth_approval", "true"),
    ("scope.0", "read"), ("code_challenge", "x"), ("code_challenge_method", "plain")]

def keyedApproval : List Input :=
  [.get oneDraw keyed marissa, .post { lateDraw with code := "d" } rekeyed marissa]

theorem exchange_verified_rekeyed : ofSettings oneClientSettings = .ok oneClient ∧
    Pkce.Method.s256.name ∈ oneClientSettings.endpoint.pkce.methods ∧ Pkce.WellFormed key ∧
    Pkce.Carries keyed .s256 key ∧ Fresh oneClient keyedApproval ∧ IssuedOnce oneClient keyedApproval ∧
    LeadsTo oneClient keyedApproval 0 "d" ∧
    ∃ issued after, oneClient.redeem? lateDraw.moment.now (oneClient.run keyedApproval) "d" =
        some (some issued, after) ∧
      oneClient.endpoint.pkce.OpensWith issued.request.parameters .s256 key := by
  have hs : ofSettings oneClientSettings = .ok oneClient := rfl
  have hmethod : Pkce.Method.s256.name ∈ oneClientSettings.endpoint.pkce.methods := by decide
  have hkey : Pkce.WellFormed key :=
    ⟨by decide +kernel, by decide +kernel, List.all_eq_true.mp (by decide +kernel)⟩
  have hcarries : Pkce.Carries keyed .s256 key := ⟨by decide +kernel, .inl (by decide +kernel)⟩
  have hids : Fresh oneClient keyedApproval := by decide +kernel
  have hdrawn : (keyedApproval.filterMap Input.code?).Nodup := by decide +kernel
  have hcodes : IssuedOnce oneClient keyedApproval := issuedOnce_of_nodup hdrawn
  have hsome : ((oneClient.redeem? lateDraw.moment.now (oneClient.run keyedApproval) "d").bind
      Prod.fst).isSome = true := by decide +kernel
  obtain ⟨issued, hissued⟩ := Option.isSome_iff_exists.mp hsome
  obtain ⟨⟨_, after⟩, hredeem, rfl⟩ := Option.bind_eq_some_iff.mp hissued
  have hleads : LeadsTo oneClient keyedApproval 0 "d" := by
    obtain ⟨k, hk⟩ := issuesAt_of_mem_codes _ _ (mem_codes_of_redeem? hredeem)
    obtain ⟨input, hinput, hcode⟩ := hk.drawn
    obtain rfl : k = 1 := index_unique hdrawn hinput rfl hcode rfl
    have hshown : keyedApproval[0]?.bind (·.draws? oneClient) = some (.ofNat 1) := by decide +kernel
    exact .approved hshown Nat.zero_lt_one rfl (by decide +kernel) hk
  have hexchange := (exchange_verified oneClientSettings oneClient hs .s256 hmethod key hkey keyed
    hcarries).2.2 keyedApproval 0 oneDraw marissa "d" hids hcodes rfl hleads _ issued after hredeem
  exact ⟨hs, hmethod, hkey, hcarries, hids, hcodes, hleads, issued, after, hredeem, hexchange⟩

end Server

end ConsentGate
