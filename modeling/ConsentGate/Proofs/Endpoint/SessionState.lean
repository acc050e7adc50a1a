import ConsentGate.Proofs.Endpoint.Approvable

namespace ConsentGate

def Call.isSessionState : Call → Bool
  | .sessionState _ _ _ _ => true
  | _ => false

theorem Call.isSessionState_of_request? {call : Call} {request : Request}
    (h : call.request? = some request) : call.isSessionState = false := by
  cases call with
  | code _ _ _ | token _ _ _ => rfl
  | client _ _ | sessionState _ _ _ _ => cases h

namespace Redirect

theorem successPairs_some (now : Timestamp) (request : Request) (issued : Issued) (session : String) :
    successPairs now request (some session) issued =
      successPairs now request none issued ++ [("session_state", session)] := by
  cases issued <;> simp [successPairs, codePairs, tokenPairs, optional]

theorem session_not_mem_successPairs (now : Timestamp) (request : Request) (issued : Issued) :
    "session_state" ∉ (successPairs now request none issued).map Prod.fst := by
  have hnames := nodup_successPairs now request (some "") issued
  rw [successPairs_some, List.map_append, List.nodup_append] at hnames
  exact fun hm => hnames.2.2 _ hm _ (List.mem_singleton_self _) rfl

theorem session_not_mem_errorPairs (error : AuthError) (state : Option String) :
    "session_state" ∉ (errorPairs error state).map Prod.fst := by
  intro h
  rw [errorPairs, List.map_append, List.mem_append] at h
  obtain h | h := h
  · simp at h
  · exact absurd (List.mem_singleton.mp ((map_fst_optional "state" state).subset h)) (by decide)

end Redirect

namespace Endpoint

variable {e : Endpoint} {c : Collaborators} {m : Moment} {p : Principal} {parameters : TextMap String}
  {request : Request} {client : Client} {target : Url} {grant : GrantType}

theorem sessionState_of_promptNone (c : Collaborators) (p : Principal) (target : Url)
    (request : Request) (h : request.promptNone = true) :
    (sessionState c target request p).calls =
        [.sessionState p.subjectId request.clientId target.origin
          (c.sessionState p.subjectId request.clientId target.origin)] ∧
      (sessionState c target request p).value =
        (c.sessionState p.subjectId request.clientId target.origin).map some := by
  rw [sessionState, if_pos h]
  exact ⟨rfl, rfl⟩

theorem sessionState_of_not_promptNone (c : Collaborators) (p : Principal) (target : Url)
    (h : request.promptNone = false) :
    sessionState c target request p = pure (.ok none) := by
  rw [sessionState, if_neg (by simp [h])]

theorem request?_of_mem_issue {call : Call} (h : call ∈ (issue c grant request p).calls) :
    call.request? = some request := by
  have hcall := (calls_issue grant request).subset h
  simp only [List.mem_cons, List.not_mem_nil, or_false] at hcall
  obtain rfl | rfl := hcall <;> rfl

inductive Bare (e : Endpoint) (m : Moment) (target : Url) : Redirect → Prop
  | failure {grant : GrantType} {error : AuthError} {state : Option String} :
      Bare e m target (.failure e.approval.status target grant error state)
  | success {request : Request} {issued : Issued} :
      Bare e m target (.success e.approval.status m.now target request issued none)

theorem Bare.delivers {r : Redirect} (h : Bare e m target r) (ht : target.WellFormed) :
    ∃ pairs inFragment, r.Delivers target pairs inFragment ∧
      "session_state" ∉ pairs.map Prod.fst := by
  cases h with
  | failure =>
    exact ⟨_, _, Redirect.delivers_failure _ ht _ _ _, Redirect.session_not_mem_errorPairs _ _⟩
  | success =>
    exact ⟨_, _, Redirect.delivers_success _ _ ht _ _ _, Redirect.session_not_mem_successPairs _ _ _⟩

/-! ## One response -/

theorem respond_of_sessionState_error (e : Endpoint) (m : Moment) (grant : GrantType)
    {error : AuthError} (h : (sessionState c target request p).value = .error error) :
    (e.respond c m target grant request p).calls = (sessionState c target request p).calls ∧
      (e.respond c m target grant request p).value =
        .failure e.approval.status target grant .notIssued request.state := by
  simp [respond, h]

theorem respond_of_sessionState_ok (e : Endpoint) (m : Moment) (grant : GrantType)
    {session : Option String} (h : (sessionState c target request p).value = .ok session) :
    (e.respond c m target grant request p).calls =
        (sessionState c target request p).calls ++ (issue c grant request p).calls ∧
      ((e.respond c m target grant request p).value =
          .failure e.approval.status target grant .notIssued request.state ∨
        ∃ issued, (e.respond c m target grant request p).value =
          .success e.approval.status m.now target request issued session) := by
  simp only [respond, Traced.calls_bind, Traced.value_bind, h]
  cases (issue c grant request p).value with
  | error error => exact ⟨by simp, .inl (value_fail ..)⟩
  | ok issued => exact ⟨by simp, .inr ⟨issued, rfl⟩⟩

theorem respond_of_not_promptNone (e : Endpoint) (c : Collaborators) (m : Moment) (p : Principal)
    (target : Url) (grant : GrantType) (request : Request) (h : request.promptNone = false) :
    (∀ call ∈ (e.respond c m target grant request p).calls, call.isSessionState = false) ∧
      Bare e m target (e.respond c m target grant request p).value := by
  have hstate := sessionState_of_not_promptNone c p target h
  have hvalue : (sessionState c target request p).value = .ok none := by rw [hstate]; rfl
  obtain ⟨hcalls, hanswer⟩ := respond_of_sessionState_ok e m grant hvalue
  refine ⟨fun call hcall => ?_, ?_⟩
  · rw [hcalls, hstate, Traced.calls_pure, List.nil_append] at hcall
    exact Call.isSessionState_of_request? (request?_of_mem_issue hcall)
  · obtain hfailure | ⟨issued, hsuccess⟩ := hanswer
    · exact hfailure ▸ .failure
    · exact hsuccess ▸ .success

/-- What is asked for at the response to a request that rules out questions, with the answer: the client
alone, or then the session state, or what is issued after that. -/
inductive Attested (e : Endpoint) (m : Moment) (p : Principal) (request : Request) (client : Client)
    (target : Url) : List Call → Redirect → Prop
  | unasked {grant : GrantType} {error : AuthError} :
      Attested e m p request client target [.client request.clientId (.ok (some client))]
        (.failure e.approval.status target grant error request.state)
  | failed {grant : GrantType} {error : AuthError} :
      Attested e m p request client target
        [.client request.clientId (.ok (some client)),
          .sessionState p.subjectId request.clientId target.origin (.error error)]
        (.failure e.approval.status target grant .notIssued request.state)
  | unissued {grant : GrantType} {session : String} {issuing : List Call}
      (issues : ∀ call ∈ issuing, call.request? = some { request with approved := true }) :
      Attested e m p request client target
        (.client request.clientId (.ok (some client)) ::
          .sessionState p.subjectId request.clientId target.origin (.ok session) :: issuing)
        (.failure e.approval.status target grant .notIssued request.state)
  | issued {issued : Issued} {session : String} {issuing : List Call}
      (issues : ∀ call ∈ issuing, call.request? = some { request with approved := true }) :
      Attested e m p request client target
        (.client request.clientId (.ok (some client)) ::
          .sessionState p.subjectId request.clientId target.origin (.ok session) :: issuing)
        (.success e.approval.status m.now target { request with approved := true } issued (some session))

theorem Attested.status {calls : List Call} {r : Redirect}
    (h : Attested e m p request client target calls r) : r.status = e.approval.status := by
  cases h <;> rfl

/-- The response to a request that rules out questions, which has been approved. -/
theorem attested_respond (e : Endpoint) (c : Collaborators) (m : Moment) (p : Principal)
    (client : Client) (target : Url) (grant : GrantType) (h : request.promptNone = true) :
    Attested e m p request client target
      (.client request.clientId (.ok (some client)) ::
        (e.respond c m target grant { request with approved := true } p).calls)
      (e.respond c m target grant { request with approved := true } p).value := by
  obtain ⟨hcalls, hvalue⟩ := sessionState_of_promptNone c p target { request with approved := true } h
  cases hanswer : c.sessionState p.subjectId request.clientId target.origin with
  | error error =>
    simp only [hanswer] at hcalls hvalue
    obtain ⟨hrespond, hfailure⟩ := respond_of_sessionState_error e m grant hvalue
    rw [hrespond, hcalls, hfailure]
    exact .failed
  | ok session =>
    simp only [hanswer] at hcalls hvalue
    obtain ⟨hrespond, hfailure | ⟨issued, hsuccess⟩⟩ :=
      respond_of_sessionState_ok e m grant hvalue
    · rw [hrespond, hcalls, hfailure]
      exact .unissued fun call hcall => request?_of_mem_issue hcall
    · rw [hrespond, hcalls, hsuccess]
      exact .issued fun call hcall => request?_of_mem_issue hcall

/-! ## Both steps -/

theorem Received.promptNone_iff (h : Received e c parameters request client target) :
    request.promptNone = true ↔ "none" ∈ Request.items parameters "prompt" := by
  rw [Request.promptNone, h.parameters_eq, TextSet.contains_iff]

theorem authorize_of_promptNone (e : Endpoint) (c : Collaborators) (m : Moment) (p : Principal)
    (h : "none" ∈ Request.items parameters "prompt") :
    (∃ error, (e.authorize c m parameters p).value = .error error ∧
      ∀ call ∈ (e.authorize c m parameters p).calls, ∃ id answer, call = .client id answer) ∨
    ∃ request client target r, Received e c parameters request client target ∧
      (e.authorize c m parameters p).value = .ok (.redirect r) ∧
      Attested e m p request client target (e.authorize c m parameters p).calls r := by
  obtain hrefused | ⟨request, client, target, hreceived, hvalue, hcalls, _⟩ :=
    authorize_cases e c m p parameters
  · exact .inl hrefused
  have hprompt := hreceived.promptNone_iff.mpr h
  refine .inr ⟨request, client, target, ?_⟩
  rw [hvalue, hcalls]
  obtain ⟨grant, error, heq⟩ | ⟨grant, _, _, heq⟩ | ⟨_, _, _, hasks, _⟩ :=
    answer_cases e c m p client target request
  · refine ⟨.failure e.approval.status target grant error request.state, hreceived, by simp [heq], ?_⟩
    simpa [heq] using Attested.unasked
  · refine ⟨(e.respond c m target grant { request with approved := true } p).value, hreceived,
      by simp [heq], ?_⟩
    simpa [heq] using attested_respond e c m p client target grant hprompt
  · -- Only a request that allows a question gets a page.
    rw [hprompt] at hasks
    cases hasks

theorem authorize_of_not_promptNone (e : Endpoint) (c : Collaborators) (m : Moment) (p : Principal)
    (h : "none" ∉ Request.items parameters "prompt") :
    (∀ call ∈ (e.authorize c m parameters p).calls, call.isSessionState = false) ∧
      ∀ r, (e.authorize c m parameters p).value = .ok (.redirect r) →
        ∃ request client target, Received e c parameters request client target ∧
          Bare e m target r := by
  obtain ⟨_, hvalue, hclient⟩ | ⟨request, client, target, hreceived, hvalue, hcalls, _⟩ :=
    authorize_cases e c m p parameters
  · refine ⟨fun call hcall => ?_, fun r hr => ?_⟩
    · obtain ⟨id, answer, rfl⟩ := hclient call hcall
      rfl
    · rw [hvalue] at hr
      cases hr
  have hprompt : request.promptNone = false := Bool.eq_false_iff.mpr (mt hreceived.promptNone_iff.mp h)
  rw [hvalue, hcalls]
  simp only [Except.ok.injEq, List.mem_cons, forall_eq_or_imp]
  obtain ⟨grant, error, heq⟩ | ⟨grant, _, _, heq⟩ | ⟨_, _, _, _, heq⟩ :=
    answer_cases e c m p client target request
  · refine ⟨⟨rfl, by simp [heq]⟩, fun r hr => ⟨request, client, target, hreceived, ?_⟩⟩
    simp only [heq, Traced.value_bind, Traced.value_pure, value_fail, Outcome.redirect.injEq] at hr
    exact hr ▸ .failure
  · obtain ⟨hsilent, hbare⟩ := respond_of_not_promptNone e c m p target grant
      { request with approved := true } hprompt
    refine ⟨⟨rfl, by simpa [heq] using hsilent⟩, fun r hr => ⟨request, client, target, hreceived, ?_⟩⟩
    simp only [heq, Traced.value_bind, Traced.value_pure, Outcome.redirect.injEq] at hr
    exact hr ▸ hbare
  · exact ⟨⟨rfl, by simp [heq]⟩, fun r hr => by simp [heq] at hr⟩

theorem approve_of_not_promptNone (e : Endpoint) (c : Collaborators) (m : Moment) (p : Principal)
    (form : TextMap String) {kept : Snapshot} (resubmitted : Request)
    (h : kept.request.promptNone = false) :
    (∀ call ∈ (e.approve c m form kept resubmitted p).calls, call.isSessionState = false) ∧
      ∀ r, (e.approve c m form kept resubmitted p).value = .ok r →
        ∃ target, Redirect.target kept.request = .ok target ∧ Bare e m target r := by
  obtain ⟨_, hvalue, hcalls⟩ | ⟨target, grant, _, htarget, _, heq⟩ :=
    approve_cases e c m p form kept resubmitted
  · refine ⟨by simp [hcalls], fun r hr => ?_⟩
    rw [hvalue] at hr
    cases hr
  simp only [heq, Traced.calls_bind, Traced.calls_pure, List.append_nil, Traced.value_bind,
    Traced.value_pure, Except.ok.injEq]
  obtain ⟨error, hdecide⟩ | hdecide | ⟨scope, _, _, hdecide⟩ :=
    decide_cases e c m p form target grant kept.request
  · refine ⟨by simp [hdecide], fun r hr => ⟨target, htarget, ?_⟩⟩
    rw [hdecide, value_fail] at hr
    exact hr ▸ .failure
  · refine ⟨by simp [hdecide], fun r hr => ⟨target, htarget, ?_⟩⟩
    rw [hdecide, Traced.value_bind, value_fail] at hr
    exact hr ▸ .failure
  · obtain ⟨hsilent, hbare⟩ := respond_of_not_promptNone e c m p target grant
      { kept.request with scope, approved := true } h
    refine ⟨by rwa [hdecide], fun r hr => ⟨target, htarget, ?_⟩⟩
    rw [hdecide] at hr
    exact hr ▸ hbare

end Endpoint

end ConsentGate
