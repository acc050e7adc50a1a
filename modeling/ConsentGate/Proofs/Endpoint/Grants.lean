import ConsentGate.Proofs.Endpoint.Success

namespace ConsentGate

namespace GrantType

variable {types : TextSet}

theorem ofResponseTypes_authorizationCode :
    ofResponseTypes types = .ok .authorizationCode ↔ "token" ∉ types ∧ "code" ∈ types := by
  by_cases htoken : "token" ∈ types
  · simp [ofResponseTypes, htoken]
  · by_cases hcode : "code" ∈ types
    · simp [ofResponseTypes, htoken, hcode]
    · by_cases hid : "id_token" ∈ types <;> simp [ofResponseTypes, htoken, hcode, hid]

theorem token_of_ofResponseTypes (h : ofResponseTypes types = .ok .implicit)
    (hcode : "code" ∈ types) : "token" ∈ types := by
  by_contra htoken
  rw [ofResponseTypes_authorizationCode.mpr ⟨htoken, hcode⟩] at h
  cases h

end GrantType

def Call.request? : Call → Option Request
  | .code r _ _ | .token r _ _ => some r
  | .client _ _ | .sessionState _ _ _ _ => none

namespace Endpoint

/-- Tells the grant under which a call issues something for a request. A code that goes with a token is
issued under the grant of the token. -/
inductive Issues : Call → Request → GrantType → Prop
  | code {r : Request} {q : Principal} {answer : Except AuthError String}
      (alone : "token" ∉ r.responseTypes) (asked : "code" ∈ r.responseTypes) :
      Issues (.code r q answer) r .authorizationCode
  | companion {r : Request} {q : Principal} {answer : Except AuthError String}
      (token : "token" ∈ r.responseTypes) (asked : "code" ∈ r.responseTypes) :
      Issues (.code r q answer) r .implicit
  | token {r : Request} {q : Principal} {answer : Except AuthError Token} :
      Issues (.token r q answer) r .implicit

variable {e : Endpoint} {c : Collaborators} {m : Moment} {p : Principal} {call : Call} {r : Request}
  {grant : GrantType} {request : Request} {target : Url} {client : Client}

/-! ## One response -/

theorem issues_of_mem_companionCode
    (hgrant : GrantType.ofResponseTypes request.responseTypes = .ok .implicit)
    (h : call ∈ (companionCode c request p).calls) : Issues call request .implicit := by
  by_cases hcode : "code" ∈ request.responseTypes
  · obtain rfl := List.mem_singleton.mp ((calls_companionCode request).subset h)
    exact .companion (GrantType.token_of_ofResponseTypes hgrant hcode) hcode
  · simp [companionCode, hcode] at h

theorem issues_of_mem_issue (hgrant : GrantType.ofResponseTypes request.responseTypes = .ok grant)
    (h : call ∈ (issue c grant request p).calls) : Issues call request grant := by
  cases grant with
  | authorizationCode =>
    obtain ⟨halone, hcode⟩ := GrantType.ofResponseTypes_authorizationCode.mp hgrant
    obtain rfl : call = .code request p (c.issueCode request p) := by
      simpa [issue, Collaborators.code, Traced.calls] using h
    exact .code halone hcode
  | implicit =>
    rw [issue, Traced.calls_bind, List.mem_append] at h
    obtain h | h := h
    · exact issues_of_mem_companionCode hgrant h
    split at h
    · simp at h
    · obtain rfl : call = .token request p (c.issueToken request p) := by
        simpa [Collaborators.token, Traced.calls] using h
      exact .token

/-- A response issues for the request that it answers, and under the grant that was derived for it. -/
theorem issues_of_mem_respond (h : call ∈ (e.respond c m target grant request p).calls)
    (hgrant : GrantType.ofResponseTypes request.responseTypes = .ok grant)
    (hr : call.request? = some r) : r = request ∧ Issues call request grant := by
  rw [respond, Traced.calls_bind, List.mem_append] at h
  have hissue : Issues call request grant := by
    obtain h | h := h
    · obtain rfl := List.mem_singleton.mp ((calls_sessionState target request).subset h)
      cases hr
    split at h
    · simp at h
    rw [Traced.calls_bind, List.mem_append] at h
    obtain h | h := h
    · exact issues_of_mem_issue hgrant h
    · split at h <;> simp at h
  refine ⟨?_, hissue⟩
  cases hissue <;> exact (Option.some.inj hr).symm

theorem Obtained.exists_call {calls : List Call} {issued : Issued} {session : Option String}
    (h : Obtained p calls grant request target issued session) :
    ∃ call ∈ calls, call.request? = some request := by
  cases issued with
  | code code => exact ⟨_, (h.code code).mp rfl, rfl⟩
  | token token code => exact ⟨_, (h.token token).mp rfl, rfl⟩

/-! ## Runs -/

/-- One answer of the endpoint, with all that it draws on. -/
structure Turn where
  step : Step
  collaborators : Collaborators
  moment : Moment
  principal : Principal

namespace Turn

def calls (e : Endpoint) (t : Turn) : List Call :=
  (t.step.answer e t.collaborators t.moment t.principal).calls

def shown? (e : Endpoint) (t : Turn) : Option Snapshot :=
  match t.step with
  | .request parameters =>
    match (e.authorize t.collaborators t.moment parameters t.principal).value with
    | .ok (.approval page) => some page.snapshot
    | _ => none
  | .decision _ _ _ => none

def kept? (t : Turn) : Option Snapshot :=
  match t.step with
  | .request _ => none
  | .decision _ kept _ => some kept

/-- Tells that a request was received in a turn, and which client it names. -/
def Receives (e : Endpoint) (t : Turn) (request : Request) (client : Client) : Prop :=
  ∃ parameters target, t.step = .request parameters ∧
    Received e t.collaborators parameters request client target

end Turn

/-- Turns one after another. A user decides only about what a page showed before. -/
inductive Run (e : Endpoint) : List Turn → Prop
  | start : Run e []
  | turn {turns : List Turn} {t : Turn} (run : Run e turns)
      (shown : ∀ kept, t.kept? = some kept → ∃ t' ∈ turns, t'.shown? e = some kept) :
      Run e (turns ++ [t])

/-- Tells that a request was received in one of the turns, and approved for some scope. -/
def ReceivedIn (e : Endpoint) (turns : List Turn) (r : Request) (client : Client) : Prop :=
  ∃ t ∈ turns, ∃ asked, t.Receives e asked client ∧
    r = { asked with scope := r.scope, approved := true }

variable {t : Turn} {turns : List Turn}

theorem Turn.receives_of_shown {kept : Snapshot} (h : t.shown? e = some kept) :
    ∃ client grant, t.Receives e kept.request client ∧ Screened e kept.request client grant := by
  cases hstep : t.step with
  | decision _ _ _ => simp [shown?, hstep] at h
  | request parameters =>
    simp only [shown?, hstep] at h
    split at h
    · next page hpage =>
      obtain ⟨request, client, target, grant, hreceived, hscreen, _, _, rfl⟩ :=
        authorize_approval hpage
      obtain rfl := Option.some.inj h
      exact ⟨client, grant, ⟨parameters, target, hstep, hreceived⟩, screen_ok hscreen⟩
    · cases h

/-- What is issued in a turn is issued for a request that was received, in this turn or before, and
under a grant that its client may use. -/
theorem Turn.issues (hshown : ∀ kept, t.kept? = some kept → ∃ t' ∈ turns, t'.shown? e = some kept)
    (h : call ∈ t.calls e) (hr : call.request? = some r) :
    ∃ client grant, ReceivedIn e (turns ++ [t]) r client ∧ client.allowsGrant grant = true ∧
      Issues call r grant := by
  cases hstep : t.step with
  | request parameters =>
    rw [calls, hstep, calls_answer_request] at h
    obtain ⟨request, client, target, grant, hreceived, hscreen, _, hcall⟩ :=
      mem_respond_of_authorize h (by rintro _ _ rfl; cases hr)
    obtain ⟨hgrant, hallowed, _, _⟩ := screen_ok hscreen
    obtain ⟨rfl, hissues⟩ := issues_of_mem_respond hcall hgrant hr
    exact ⟨client, grant, ⟨t, by simp, request, ⟨parameters, target, hstep, hreceived⟩, rfl⟩,
      hallowed, hissues⟩
  | decision form kept resubmitted =>
    rw [calls, hstep, Step.answer, Traced.calls_bind, Traced.calls_pure, List.append_nil] at h
    obtain ⟨scope, target, grant, _, _, hgrant, hcall⟩ := mem_respond_of_approve h
    obtain ⟨rfl, hissues⟩ := issues_of_mem_respond hcall hgrant hr
    obtain ⟨t', ht', hpage⟩ := hshown kept (by rw [kept?, hstep])
    obtain ⟨client, grant', hreceives, hscreened⟩ := receives_of_shown hpage
    -- The grant is derived a second time, from the same response types.
    obtain rfl := Except.ok.inj (hgrant.symm.trans hscreened.derived)
    exact ⟨client, grant, ⟨t', by simp [ht'], kept.request, hreceives, rfl⟩, hscreened.allowed,
      hissues⟩

/-- What is decided in a turn of a run was shown before it. -/
theorem Run.shown (hrun : Run e turns) {before : List Turn} (hbefore : before ++ [t] <+: turns) :
    ∀ kept, t.kept? = some kept → ∃ t' ∈ before, t'.shown? e = some kept := by
  induction hrun with
  | start => simp at hbefore
  | turn run shown ih =>
    rcases List.prefix_concat_iff.mp hbefore with heq | hearlier
    · obtain ⟨rfl, rfl⟩ := List.append_singleton_inj.mp heq
      exact shown
    · exact ih hearlier

theorem Run.issues (hrun : Run e turns) {before : List Turn} (hbefore : before ++ [t] <+: turns)
    (h : call ∈ t.calls e) (hr : call.request? = some r) :
    ∃ client grant, ReceivedIn e (before ++ [t]) r client ∧ client.allowsGrant grant = true ∧
      Issues call r grant :=
  Turn.issues (hrun.shown hbefore) h hr

/-- In every run, a code that goes with no token is issued only to a client with the code grant, and a
token, or a code that goes with one, only to a client with the implicit grant. The client is the one that
was found when the request was received. -/
theorem issued_within_grants (e : Endpoint) (turns : List Turn) (hrun : Run e turns)
    (before : List Turn) (t : Turn) (hbefore : before ++ [t] <+: turns) :
    (∀ r q answer, .code r q answer ∈ t.calls e → "code" ∈ r.responseTypes ∧
      ∃ client, ReceivedIn e (before ++ [t]) r client ∧
        ("token" ∉ r.responseTypes ∧ "authorization_code" ∈ client.grantTypes ∨
          "token" ∈ r.responseTypes ∧ "implicit" ∈ client.grantTypes)) ∧
    ∀ r q answer, .token r q answer ∈ t.calls e →
      ∃ client, ReceivedIn e (before ++ [t]) r client ∧ "implicit" ∈ client.grantTypes := by
  constructor
  · intro r q answer h
    obtain ⟨client, grant, hreceived, hallowed, hissues⟩ := hrun.issues hbefore h rfl
    replace hallowed := TextSet.contains_iff.mp hallowed
    cases hissues with
    | code halone hcode => exact ⟨hcode, client, hreceived, .inl ⟨halone, hallowed⟩⟩
    | companion htoken hcode => exact ⟨hcode, client, hreceived, .inr ⟨htoken, hallowed⟩⟩
  · intro r q answer h
    obtain ⟨client, grant, hreceived, hallowed, hissues⟩ := hrun.issues hbefore h rfl
    cases hissues
    exact ⟨client, hreceived, TextSet.contains_iff.mp hallowed⟩

def implicitOnly : Collaborators where
  findClient := fun _ => .ok (some { Client.ofId "foo" with
    redirectUris := .ofList ["https://a.example/cb"]
    grantTypes := .ofList ["implicit"]
    autoApprove := ["read"] })
  sessionState := fun _ _ _ => .ok "s"
  issueCode := fun _ _ => .ok "c"
  issueToken := fun _ _ => .error .notIssued

def standard : Endpoint := ⟨{}, {}, .standard, Glob.isSmall⟩

def Turn.ofStep (step : Step) : Turn :=
  ⟨step, implicitOnly, ⟨⟨2024, 1, 1, 0, 0, 0, 0, 0⟩, .ofNat 1⟩, ⟨"marissa", "marissa", none⟩⟩

def hybrid (scope : String) : Turn :=
  .ofStep (.request
    (.ofList [("client_id", "foo"), ("response_type", "code token"), ("scope", scope)]))

def approved : Turn :=
  let kept := ((hybrid "write").shown? standard).get (by decide +kernel)
  .ofStep (.decision (.ofList [("user_oauth_approval", "true")]) kept kept.request)

def isCode : Call → Bool
  | .code _ _ _ => true
  | _ => false

theorem exists_code_of_any {calls : List Call} (h : calls.any isCode = true) :
    ∃ r q answer, .code r q answer ∈ calls := by
  obtain ⟨call, hm, hcode⟩ := List.any_eq_true.mp h
  cases call with
  | code r q answer => exact ⟨r, q, answer, hm⟩
  | _ => cases hcode

theorem run_hybrid (scope : String) : Run standard [hybrid scope] :=
  .turn .start fun _ h => by cases h

theorem run_approved : Run standard [hybrid "write", approved] := by
  apply (run_hybrid "write").turn
  rintro kept h
  obtain rfl := Option.some.inj h
  exact ⟨hybrid "write", List.mem_singleton_self _, (Option.some_get _).symm⟩

theorem issued_within_grants_approved : Run standard [hybrid "write", approved] ∧
    ∃ r q answer, .code r q answer ∈ approved.calls standard ∧ "code" ∈ r.responseTypes ∧
      ∃ client, ReceivedIn standard [hybrid "write", approved] r client ∧
        ("token" ∉ r.responseTypes ∧ "authorization_code" ∈ client.grantTypes ∨
          "token" ∈ r.responseTypes ∧ "implicit" ∈ client.grantTypes) := by
  have hany : (approved.calls standard).any isCode = true := by decide +kernel
  obtain ⟨r, q, answer, h⟩ := exists_code_of_any hany
  have hgrants := issued_within_grants standard [hybrid "write", approved] run_approved
    [hybrid "write"] approved (List.prefix_refl _)
  exact ⟨run_approved, r, q, answer, h, hgrants.1 r q answer h⟩

/-- A code that goes with a token is issued to a client without the code grant. -/
theorem issued_hybrid : Run standard [hybrid "read"] ∧
    ∃ r q answer client, .code r q answer ∈ (hybrid "read").calls standard ∧
      (hybrid "read").collaborators.findClient r.clientId = .ok (some client) ∧
      "authorization_code" ∉ client.grantTypes := by
  have hany : ((hybrid "read").calls standard).any isCode = true := by decide +kernel
  obtain ⟨r, q, answer, h⟩ := exists_code_of_any hany
  exact ⟨run_hybrid "read", r, q, answer, _, h, rfl, by decide⟩

end Endpoint

end ConsentGate
