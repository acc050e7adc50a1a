import ConsentGate.Proofs.Endpoint.Calls
import ConsentGate.Proofs.Redirect.Success

namespace ConsentGate

def EventKind.announces : EventKind → Bool
  | .codeIssued _ | .tokenIssued _ => true
  | _ => false

def Issued.code? : Issued → Option String
  | .code k => some k
  | .token _ k => k

def Issued.token? : Issued → Option Token
  | .code _ => none
  | .token t _ => some t

namespace Traced

variable {α β : Type}

def announces (x : Traced α) : Bool :=
  x.events.any (·.kind.announces)

@[simp] theorem announces_pure (a : α) : (pure a : Traced α).announces = false := rfl

@[simp] theorem announces_bind (x : Traced α) (f : α → Traced β) :
    (x >>= f).announces = (x.announces || (f x.value).announces) := by
  simp [announces]

end Traced

namespace Endpoint

variable {e : Endpoint} {c : Collaborators} {m : Moment} {p : Principal}

@[simp] theorem announces_publish (clientId : String) (kind : EventKind) :
    (publish m clientId p kind).announces = kind.announces := by
  simp [publish, Traced.announces, Traced.events, Traced.act]

@[simp] theorem announces_reject {α : Type} (clientId : String) (error : AuthError) :
    (reject m clientId p error : Traced (Except AuthError α)).announces = false := rfl

@[simp] theorem announces_fail (target : Url) (grant : GrantType) (request : Request)
    (error : AuthError) : (e.fail m target grant request p error).announces = false := by
  unfold fail
  split <;> simp [EventKind.announces]

@[simp] theorem value_fail (target : Url) (grant : GrantType) (request : Request)
    (error : AuthError) : (e.fail m target grant request p error).value =
      .failure e.approval.status target grant error request.state := by
  unfold fail
  split <;> rfl

/-! ## One response -/

/-- What was asked for a response that delivers what was issued, in this order: the session state, the
code, the token. Only what goes with the response was asked for. -/
def obtainedCalls (p : Principal) (request : Request) (target : Url) (issued : Issued)
    (session : Option String) : List Call :=
  session.toList.map (fun s => .sessionState p.subjectId request.clientId target.origin (.ok s)) ++
    (issued.code?.toList.map (fun k => .code request p (.ok k)) ++
      issued.token?.toList.map fun t => .token request p (.ok t))

/-- What was issued for a response, and the session state with it, is what the collaborators answered:
each part goes with the response exactly if it was obtained, and nothing else was asked for but the
client. -/
structure Obtained (p : Principal) (calls : List Call) (grant : GrantType) (request : Request)
    (target : Url) (issued : Issued) (session : Option String) : Prop where
  place : Redirect.inFragment issued = grant.usesFragment
  code : ∀ k, issued.code? = some k ↔ .code request p (.ok k) ∈ calls
  token : ∀ t, issued.token? = some t ↔ .token request p (.ok t) ∈ calls
  only : ∀ call ∈ calls, (∃ id found, call = .client id found) ∨
    call ∈ obtainedCalls p request target issued session
  session : ∀ s, session = some s ↔
    .sessionState p.subjectId request.clientId target.origin (.ok s) ∈ calls

variable {grant : GrantType} {request : Request} {target : Url} {issued : Issued}
  {session : Option String} {calls : List Call}

theorem mem_obtainedCalls {call : Call} : call ∈ obtainedCalls p request target issued session ↔
    (∃ s, session = some s ∧
      call = .sessionState p.subjectId request.clientId target.origin (.ok s)) ∨
    (∃ k, issued.code? = some k ∧ call = .code request p (.ok k)) ∨
    ∃ t, issued.token? = some t ∧ call = .token request p (.ok t) := by
  simp [obtainedCalls, eq_comm]

theorem obtained_of_calls (lookups : List Call)
    (hplace : Redirect.inFragment issued = grant.usesFragment)
    (hlookups : ∀ call ∈ lookups, ∃ id found, call = .client id found)
    (hcalls : calls = lookups ++ obtainedCalls p request target issued session) :
    Obtained p calls grant request target issued session := by
  have hmem : ∀ call, (∀ id found, call ≠ .client id found) →
      (call ∈ calls ↔ call ∈ obtainedCalls p request target issued session) := by
    intro call hcall
    rw [hcalls, List.mem_append, or_iff_right]
    intro hm
    obtain ⟨id, found, heq⟩ := hlookups call hm
    exact hcall id found heq
  refine ⟨hplace, fun k => ?_, fun t => ?_, fun call hcall => ?_, fun s => ?_⟩
  · rw [hmem _ (by simp), mem_obtainedCalls]
    simp
  · rw [hmem _ (by simp), mem_obtainedCalls]
    simp
  · rw [hcalls, List.mem_append] at hcall
    exact hcall.imp_left (hlookups call)
  · rw [hmem _ (by simp), mem_obtainedCalls]
    simp

theorem sessionState_ok (h : (sessionState c target request p).value = .ok session) :
    (sessionState c target request p).calls = session.toList.map fun s =>
      .sessionState p.subjectId request.clientId target.origin (.ok s) := by
  unfold sessionState at h ⊢
  split at h
  · next hprompt =>
    obtain ⟨s, hs, rfl⟩ := map_eq_ok.mp h
    have hstate : c.sessionState p.subjectId request.clientId target.origin = .ok s := hs
    rw [if_pos hprompt]
    simp [Collaborators.state, Traced.calls, hstate]
  · next hprompt =>
    obtain rfl := Except.ok.inj h
    rw [if_neg hprompt]
    rfl

theorem companionCode_ok {code : Option String} (h : (companionCode c request p).value = .ok code) :
    (companionCode c request p).calls = code.toList.map fun k => .code request p (.ok k) := by
  unfold companionCode at h ⊢
  split at h
  · next hcode =>
    obtain ⟨k, hk, rfl⟩ := map_eq_ok.mp h
    have hissue : c.issueCode request p = .ok k := hk
    rw [if_pos hcode]
    simp [Collaborators.code, Traced.calls, hissue]
  · next hcode =>
    obtain rfl := Except.ok.inj h
    rw [if_neg hcode]
    rfl

theorem issue_ok (h : (issue c grant request p).value = .ok issued) :
    Redirect.inFragment issued = grant.usesFragment ∧
    (issue c grant request p).calls =
      issued.code?.toList.map (fun k => .code request p (.ok k)) ++
        issued.token?.toList.map fun t => .token request p (.ok t) := by
  cases grant with
  | authorizationCode =>
    obtain ⟨code, hcode, rfl⟩ := map_eq_ok.mp h
    have hissue : c.issueCode request p = .ok code := hcode
    refine ⟨rfl, ?_⟩
    simp [issue, Collaborators.code, Traced.calls, hissue, Issued.code?, Issued.token?]
  | implicit =>
    rw [issue, Traced.value_bind] at h
    rw [issue, Traced.calls_bind]
    split at h
    · cases h
    next code hcode =>
    obtain ⟨token, htoken, rfl⟩ := map_eq_ok.mp h
    have hissue : c.issueToken request p = .ok token := htoken
    refine ⟨rfl, ?_⟩
    rw [companionCode_ok hcode]
    simp [Collaborators.token, Traced.calls, hissue, Issued.code?, Issued.token?]

@[simp] theorem announces_sessionState (target : Url) (request : Request) :
    (sessionState c target request p).announces = false := by
  unfold sessionState
  split <;> rfl

@[simp] theorem announces_issue (grant : GrantType) (request : Request) :
    (issue c grant request p).announces = false := by
  have hcompanion : (companionCode c request p).announces = false := by
    unfold companionCode
    split <;> rfl
  cases grant with
  | authorizationCode => rfl
  | implicit =>
    rw [issue, Traced.announces_bind, hcompanion]
    split <;> rfl

theorem respond_ok (e : Endpoint) (m : Moment)
    (hsession : (sessionState c target request p).value = .ok session)
    (hissue : (issue c grant request p).value = .ok issued) :
    (e.respond c m target grant request p).announces = true ∧
      Redirect.inFragment issued = grant.usesFragment ∧
      (e.respond c m target grant request p).calls = obtainedCalls p request target issued session ∧
      (e.respond c m target grant request p).value =
        .success e.approval.status m.now target request issued session := by
  obtain ⟨hplace, hissued⟩ := issue_ok hissue
  rw [respond]
  simp only [Traced.announces_bind, Traced.value_bind, Traced.calls_bind, hsession, hissue]
  refine ⟨?_, hplace, ?_, rfl⟩
  · cases issued <;> simp [announcement, EventKind.announces]
  · simp [obtainedCalls, sessionState_ok hsession, hissued]

theorem respond_cases (e : Endpoint) (c : Collaborators) (m : Moment) (p : Principal)
    (target : Url) (grant : GrantType) (request : Request) :
    ((e.respond c m target grant request p).announces = false ∧
      ∃ error, (e.respond c m target grant request p).value =
        .failure e.approval.status target grant error request.state) ∨
    (e.respond c m target grant request p).announces = true ∧
      ∃ issued session, Redirect.inFragment issued = grant.usesFragment ∧
        (e.respond c m target grant request p).calls =
          obtainedCalls p request target issued session ∧
        (e.respond c m target grant request p).value =
          .success e.approval.status m.now target request issued session := by
  cases hsession : (sessionState c target request p).value with
  | error error => exact .inl ⟨by simp [respond, hsession], .notIssued, by simp [respond, hsession]⟩
  | ok session =>
    cases hissue : (issue c grant request p).value with
    | error error =>
      exact .inl ⟨by simp [respond, hsession, hissue], .notIssued, by simp [respond, hsession, hissue]⟩
    | ok issued =>
      obtain ⟨hyes, hplace, hcalls, hvalue⟩ := respond_ok e m hsession hissue
      exact .inr ⟨hyes, issued, session, hplace, hcalls, hvalue⟩

/-! ## Both steps -/

/-- A step in which the endpoint answers: an authorization request, or the user's decision. -/
inductive Step where
  | request (parameters : TextMap String)
  | decision (form : TextMap String) (kept : Snapshot) (resubmitted : Request)

/-- The answer to a step, as far as it is a redirect. -/
def Step.answer (e : Endpoint) (c : Collaborators) (m : Moment) (p : Principal) :
    Step → Traced (Option Redirect)
  | .request parameters => do
    match ← e.authorize c m parameters p with
    | .ok (.redirect r) => return some r
    | _ => return none
  | .decision form kept resubmitted => do
    return (← e.approve c m form kept resubmitted p).toOption

/-- The request that a step answers, the URL at which it does, and the grant. -/
inductive Answers (e : Endpoint) (c : Collaborators) : Step → Request → Url → GrantType → Prop
  | request {parameters : TextMap String} {asked : Request} {client : Client} {target : Url}
      {grant : GrantType} (received : Received e c parameters asked client target)
      (hgrant : GrantType.ofResponseTypes asked.responseTypes = .ok grant) :
      Answers e c (.request parameters) { asked with approved := true } target grant
  | decision {form : TextMap String} {kept : Snapshot} {resubmitted : Request} {scope : TextSet}
      {target : Url} {grant : GrantType} (htarget : Redirect.target kept.request = .ok target)
      (hgrant : GrantType.ofResponseTypes kept.request.responseTypes = .ok grant) :
      Answers e c (.decision form kept resubmitted) { kept.request with scope, approved := true }
        target grant

theorem target_eq_ok (h : Redirect.target request = .ok target) :
    ∃ uri, request.redirectUri = some uri ∧ Url.parse uri.toList = .ok target := by
  unfold Redirect.target at h
  split at h
  · cases h
  next uri huri =>
  split at h
  · next hparse =>
    obtain rfl := Except.ok.inj h
    exact ⟨uri, huri, hparse⟩
  · cases h

theorem wellFormed_of_target (h : Redirect.target request = .ok target) : target.WellFormed := by
  obtain ⟨uri, _, hparse⟩ := target_eq_ok h
  exact Url.wellFormed_of_parse hparse

theorem Answers.wellFormed {step : Step} (h : Answers e c step request target grant) :
    target.WellFormed := by
  cases h with
  | request received _ => exact wellFormed_of_target received.target
  | decision htarget _ => exact wellFormed_of_target htarget

/-- What a step that answers with a redirect has done: it reports an error, or it is one response to the
request that it answers. -/
inductive Settles (e : Endpoint) (c : Collaborators) (m : Moment) (p : Principal) (step : Step) :
    Redirect → Prop
  | failure {target : Url} {grant : GrantType} {error : AuthError} {state : Option String}
      (silent : (step.answer e c m p).announces = false) :
      Settles e c m p step (.failure e.approval.status target grant error state)
  | response {request : Request} {target : Url} {grant : GrantType}
      (answers : Answers e c step request target grant)
      (announces : (step.answer e c m p).announces =
        (e.respond c m target grant request p).announces)
      (calls : ∃ lookups, (∀ call ∈ lookups, ∃ id found, call = .client id found) ∧
        (step.answer e c m p).calls = lookups ++ (e.respond c m target grant request p).calls) :
      Settles e c m p step (e.respond c m target grant request p).value

theorem calls_answer_request (e : Endpoint) (c : Collaborators) (m : Moment) (p : Principal)
    (parameters : TextMap String) :
    (Step.answer e c m p (.request parameters)).calls = (e.authorize c m parameters p).calls := by
  rw [Step.answer, Traced.calls_bind]
  split <;> simp

theorem announces_answer_request (e : Endpoint) (c : Collaborators) (m : Moment) (p : Principal)
    (parameters : TextMap String) :
    (Step.answer e c m p (.request parameters)).announces =
      (e.authorize c m parameters p).announces := by
  rw [Step.answer, Traced.announces_bind]
  split <;> simp

theorem authorize_of_answer {parameters : TextMap String} {r : Redirect}
    (h : (Step.answer e c m p (.request parameters)).value = some r) :
    (e.authorize c m parameters p).value = .ok (.redirect r) := by
  rw [Step.answer, Traced.value_bind] at h
  split at h
  · next hr =>
    obtain rfl := Option.some.inj h
    exact hr
  · cases h

theorem settles_request {parameters : TextMap String} {r : Redirect}
    (h : (Step.answer e c m p (.request parameters)).value = some r) :
    Settles e c m p (.request parameters) r := by
  have hvalue := authorize_of_answer h
  have hcalls := calls_answer_request e c m p parameters
  have hannounces := announces_answer_request e c m p parameters
  obtain ⟨error, herror, _⟩ | ⟨asked, client, target, hreceived, hok, hcalls', hevents⟩ :=
    authorize_cases e c m p parameters
  · rw [herror] at hvalue
    cases hvalue
  rw [hok, Except.ok.injEq] at hvalue
  rw [hcalls'] at hcalls
  have hsame : (e.authorize c m parameters p).announces =
      (e.answer c m client target asked p).announces := by
    rw [Traced.announces, hevents, Traced.announces]
  rw [hsame] at hannounces
  obtain ⟨grant, error, heq⟩ | ⟨grant, hscreen, _, heq⟩ | ⟨grant, _, _, _, heq⟩ :=
    answer_cases e c m p client target asked
  · rw [heq] at hvalue hannounces
    simp only [Traced.value_bind, Traced.value_pure, value_fail, Outcome.redirect.injEq] at hvalue
    rw [← hvalue]
    exact .failure (hannounces.trans (by simp))
  · rw [heq] at hvalue hannounces hcalls
    simp only [Traced.value_bind, Traced.value_pure, Outcome.redirect.injEq] at hvalue
    rw [← hvalue]
    refine .response (.request hreceived (screen_ok hscreen).derived) ?_
      ⟨[.client asked.clientId (.ok (some client))], by simp, ?_⟩
    · exact hannounces.trans (by simp [EventKind.announces])
    · rw [hcalls]
      simp
  · rw [heq] at hvalue
    simp at hvalue

theorem approve_of_answer {form : TextMap String} {kept : Snapshot} {resubmitted : Request}
    {r : Redirect} (h : (Step.answer e c m p (.decision form kept resubmitted)).value = some r) :
    (e.approve c m form kept resubmitted p).value = .ok r := by
  have htry : (e.approve c m form kept resubmitted p).value.toOption = some r := h
  cases hv : (e.approve c m form kept resubmitted p).value with
  | error error =>
    rw [hv] at htry
    cases htry
  | ok r' =>
    rw [hv] at htry
    rw [Option.some.inj htry]

theorem settles_decision {form : TextMap String} {kept : Snapshot} {resubmitted : Request}
    {r : Redirect} (h : (Step.answer e c m p (.decision form kept resubmitted)).value = some r) :
    Settles e c m p (.decision form kept resubmitted) r := by
  have hvalue := approve_of_answer h
  have hcalls : (Step.answer e c m p (.decision form kept resubmitted)).calls =
      (e.approve c m form kept resubmitted p).calls := by simp [Step.answer]
  have hannounces : (Step.answer e c m p (.decision form kept resubmitted)).announces =
      (e.approve c m form kept resubmitted p).announces := by simp [Step.answer]
  obtain ⟨error, herror, _⟩ | ⟨target, grant, _, htarget, hgrant, heq⟩ :=
    approve_cases e c m p form kept resubmitted
  · rw [herror] at hvalue
    cases hvalue
  rw [heq] at hvalue hannounces hcalls
  simp only [Traced.value_bind, Traced.value_pure, Except.ok.injEq] at hvalue
  rw [← hvalue]
  obtain ⟨error, hdecide⟩ | hdecide | ⟨scope, _, _, hdecide⟩ :=
    decide_cases e c m p form target grant kept.request
  · rw [hdecide, value_fail]
    exact .failure (hannounces.trans (by simp [hdecide]))
  · rw [hdecide, Traced.value_bind, value_fail]
    exact .failure (hannounces.trans (by simp [hdecide, EventKind.announces]))
  · rw [hdecide]
    refine .response (.decision htarget hgrant) ?_ ⟨[], by simp, ?_⟩
    · exact hannounces.trans (by simp [hdecide])
    · rw [hcalls]
      simp [hdecide]

theorem settles_answer {step : Step} {r : Redirect} (h : (step.answer e c m p).value = some r) :
    Settles e c m p step r := by
  cases step with
  | request parameters => exact settles_request h
  | decision form kept resubmitted => exact settles_decision h

/-- A redirect of the endpoint reports an error, or it announces and carries what was issued. -/
theorem redirect_cases {step : Step} {r : Redirect} (h : (step.answer e c m p).value = some r) :
    ((step.answer e c m p).announces = false ∧
      ∃ target grant error state, r = .failure e.approval.status target grant error state) ∨
    (step.answer e c m p).announces = true ∧
      ∃ request target grant issued session, Answers e c step request target grant ∧
        Obtained p (step.answer e c m p).calls grant request target issued session ∧
        r = .success e.approval.status m.now target request issued session := by
  cases settles_answer h with
  | @failure target grant error state silent => exact .inl ⟨silent, target, grant, error, state, rfl⟩
  | @response request target grant answers announces calls =>
    obtain ⟨lookups, hlookups, hcalls⟩ := calls
    obtain ⟨hno, error, hvalue⟩ | ⟨hyes, issued, session, hplace, hissued, hvalue⟩ :=
      respond_cases e c m p target grant request
    · exact .inl ⟨announces.trans hno, target, grant, error, request.state, hvalue⟩
    · exact .inr ⟨announces.trans hyes, request, target, grant, issued, session, answers,
        obtained_of_calls lookups hplace hlookups (hissued ▸ hcalls), hvalue⟩

/-- A redirect of the endpoint reports an error, or it announces what was issued and delivers it: the
query of the redirect URI and then the code, the state and the session state, or the same query and the
token in the fragment. A look-up finds what was delivered unless the redirect URI has a pair of that name
in its query, which it then finds. -/
theorem success_parameters (e : Endpoint) (c : Collaborators) (m : Moment) (p : Principal)
    (step : Step) (r : Redirect) (h : (step.answer e c m p).value = some r) :
    ((step.answer e c m p).announces = false ∧
      ∃ target grant error state, r = .failure e.approval.status target grant error state) ∨
    (step.answer e c m p).announces = true ∧
      ∃ request target grant issued session, Answers e c step request target grant ∧
        Obtained p (step.answer e c m p).calls grant request target issued session ∧
        r = .success e.approval.status m.now target request issued session ∧
        Redirect.Delivers r target (Redirect.successPairs m.now request session issued)
          grant.usesFragment := by
  obtain hfailure | ⟨hyes, request, target, grant, issued, session, hanswers, hobtained, rfl⟩ :=
    redirect_cases h
  · exact .inl hfailure
  · refine .inr ⟨hyes, request, target, grant, issued, session, hanswers, hobtained, rfl, ?_⟩
    rw [← hobtained.place]
    exact Redirect.delivers_success _ _ hanswers.wellFormed request issued session

def oneCode : Collaborators where
  findClient := fun _ => .ok (some { Client.ofId "foo" with
    redirectUris := .ofList ["https://good.com/cb"]
    grantTypes := .ofList ["authorization_code"]
    autoApprove := ["*"] })
  sessionState := fun _ _ _ => .ok "s"
  issueCode := fun _ _ => .ok "c"
  issueToken := fun _ _ => .error .notIssued

def extended : Step :=
  .request (.ofList [("client_id", "foo"), ("response_type", "code"), ("scope", "read"),
    ("state", "xyz"), ("redirect_uri", "https://good.com/cb?code=evil")])

def answerExtended : Traced (Option Redirect) :=
  extended.answer ⟨{}, {}, .standard, Glob.isSmall⟩ oneCode ⟨⟨2024, 1, 1, 0, 0, 0, 0, 0⟩, .ofNat 1⟩
    ⟨"marissa", "marissa", none⟩

def shadowed : Redirect := ⟨"https://good.com/cb?code=evil&code=c&state=xyz", .found⟩

theorem success_parameters_extended : answerExtended.value = some shadowed ∧
    ∃ request target grant issued session,
      Answers ⟨{}, {}, .standard, Glob.isSmall⟩ oneCode extended request target grant ∧
      Obtained ⟨"marissa", "marissa", none⟩ answerExtended.calls grant request target issued session ∧
      Redirect.Delivers shadowed target
        (Redirect.successPairs ⟨2024, 1, 1, 0, 0, 0, 0, 0⟩ request session issued)
        grant.usesFragment := by
  have hvalue : answerExtended.value = some shadowed := by decide +kernel
  have hannounces : answerExtended.announces = true := by decide +kernel
  refine ⟨hvalue, ?_⟩
  obtain ⟨hno, _⟩ | ⟨_, request, target, grant, issued, session, hanswers, hobtained, _, hdelivers⟩ :=
    success_parameters ⟨{}, {}, .standard, Glob.isSmall⟩ oneCode ⟨⟨2024, 1, 1, 0, 0, 0, 0, 0⟩, .ofNat 1⟩
      ⟨"marissa", "marissa", none⟩ extended shadowed hvalue
  · exact absurd (hannounces.symm.trans hno) (by decide)
  · exact ⟨request, target, grant, issued, session, hanswers, hobtained, hdelivers⟩

/-- The code that was issued is neither the only one nor the one that is found. -/
theorem success_parameters_shadowed : answerExtended.value = some shadowed ∧
    answerExtended.announces = true ∧
    (Url.parse shadowed.uri.toList).toOption.map (·.queryPairs) =
      some [("code", "evil"), ("code", "c"), ("state", "xyz")] ∧
    shadowed.parameter? "code" = some "evil" := by
  decide +kernel

end Endpoint

end ConsentGate
