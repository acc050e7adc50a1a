import ConsentGate.Proofs.Endpoint.Grants
import ConsentGate.Proofs.Redirect.Failure

namespace ConsentGate

/-- Tells the calls that issued a code or a token. -/
def Call.issued : Call → Bool
  | .code _ _ (.ok _) | .token _ _ (.ok _) => true
  | _ => false

namespace Traced

variable {α β : Type}

def issued (x : Traced α) : List Call := x.calls.filter Call.issued

@[simp] theorem issued_pure (a : α) : (pure a : Traced α).issued = [] := rfl

@[simp] theorem issued_bind (x : Traced α) (f : α → Traced β) :
    (x >>= f).issued = x.issued ++ (f x.value).issued := by
  simp [issued]

end Traced

def Outcome.redirect? : Outcome → Option Redirect
  | .redirect r => some r
  | .approval _ => none

namespace Endpoint

variable {e : Endpoint} {c : Collaborators} {m : Moment} {p : Principal} {request : Request}
  {target : Url} {grant : GrantType} {step : Step}

theorem issued_eq_nil_of_calls {α : Type} {x : Traced α} (h : x.calls = []) : x.issued = [] := by
  rw [Traced.issued, h, List.filter_nil]

@[simp] theorem issued_publish (clientId : String) (kind : EventKind) :
    (publish m clientId p kind).issued = [] := rfl

@[simp] theorem issued_fail (error : AuthError) :
    (e.fail m target grant request p error).issued = [] :=
  issued_eq_nil_of_calls (calls_fail target grant request error)

@[simp] theorem issued_sessionState (target : Url) (request : Request) :
    (sessionState c target request p).issued = [] := by
  unfold sessionState
  split <;> rfl

/-! ## One response -/

/-- A token failed after the code that was to go with it was issued. -/
structure Orphaned (p : Principal) (request : Request) (calls issued : List Call) : Prop where
  code_asked : "code" ∈ request.responseTypes
  token_asked : "token" ∈ request.responseTypes
  left : ∃ code, issued = [.code request p (.ok code)]
  failed : ∃ error, .token request p (.error error) ∈ calls

theorem companionCode_of_mem (h : "code" ∈ request.responseTypes) :
    companionCode c request p = (do return (← c.code request p).map some) := by
  simp [companionCode, h]

theorem companionCode_of_not_mem (h : "code" ∉ request.responseTypes) :
    companionCode c request p = pure (.ok none) := by
  simp [companionCode, h]

theorem issue_authorizationCode_error {error : AuthError}
    (h : (issue c .authorizationCode request p).value = .error error) :
    (issue c .authorizationCode request p).issued = [] := by
  cases hcode : c.issueCode request p with
  | ok code => simp [issue, Collaborators.code, hcode, Except.map] at h
  | error error =>
    simp [issue, Collaborators.code, hcode, Traced.issued, Traced.calls, Call.issued]

theorem issue_implicit_error
    (hgrant : GrantType.ofResponseTypes request.responseTypes = .ok .implicit) {error : AuthError}
    (h : (issue c .implicit request p).value = .error error) :
    (issue c .implicit request p).issued = [] ∨
      Orphaned p request (issue c .implicit request p).calls (issue c .implicit request p).issued := by
  by_cases hasked : "code" ∈ request.responseTypes
  · have htoken := GrantType.token_of_ofResponseTypes hgrant hasked
    cases hcode : c.issueCode request p with
    | error error =>
      left
      simp [issue, companionCode_of_mem hasked, Collaborators.code, hcode, Except.map, Traced.issued,
        Traced.calls, Call.issued]
    | ok code =>
      cases hissue : c.issueToken request p with
      | ok token =>
        simp [issue, companionCode_of_mem hasked, Collaborators.code, Collaborators.token, hcode,
          hissue, Except.map] at h
      | error error =>
        -- Only here is something left: the code is there when the token fails.
        have hcalls : (issue c .implicit request p).calls =
            [.code request p (.ok code), .token request p (.error error)] := by
          simp [issue, companionCode_of_mem hasked, Collaborators.code, Collaborators.token, hcode,
            hissue, Except.map, Traced.calls]
        rw [Traced.issued, hcalls]
        exact .inr ⟨hasked, htoken, ⟨code, rfl⟩, error, by simp⟩
  · left
    simp only [issue, companionCode_of_not_mem hasked] at h ⊢
    cases hissue : c.issueToken request p with
    | ok token => simp [Collaborators.token, hissue, Except.map] at h
    | error error =>
      simp [Collaborators.token, hissue, Traced.issued, Traced.calls, Call.issued]

theorem respond_issued (e : Endpoint) (c : Collaborators) (m : Moment) (p : Principal) (target : Url)
    (hgrant : GrantType.ofResponseTypes request.responseTypes = .ok grant) :
    ((e.respond c m target grant request p).value =
        .failure e.approval.status target grant .notIssued request.state ∧
      ((e.respond c m target grant request p).issued = [] ∨
        grant = .implicit ∧ Orphaned p request (e.respond c m target grant request p).calls
          (e.respond c m target grant request p).issued)) ∨
    ∃ issued session, (e.respond c m target grant request p).value =
      .success e.approval.status m.now target request issued session := by
  rw [respond]
  simp only [Traced.issued_bind, Traced.value_bind, Traced.calls_bind, issued_sessionState]
  cases (sessionState c target request p).value with
  | error error => exact .inl ⟨by simp, .inl (by simp)⟩
  | ok session =>
    simp only [Traced.issued_bind, Traced.value_bind, Traced.calls_bind]
    cases hissue : (issue c grant request p).value with
    | ok issued => exact .inr ⟨issued, session, rfl⟩
    | error error =>
      refine .inl ⟨by simp, ?_⟩
      cases grant with
      | authorizationCode => exact .inl (by simp [issue_authorizationCode_error hissue])
      | implicit =>
        obtain hnone | ⟨hcode, htoken, hleft, failed, hfailed⟩ := issue_implicit_error hgrant hissue
        · exact .inl (by simp [hnone])
        · exact .inr ⟨rfl, hcode, htoken, by simpa using hleft, failed, by simp [hfailed]⟩

/-! ## Both steps -/

def Step.outcome (e : Endpoint) (c : Collaborators) (m : Moment) (p : Principal) :
    Step → Traced (Except AuthError Outcome)
  | .request parameters => e.authorize c m parameters p
  | .decision form kept resubmitted => do
    return (← e.approve c m form kept resubmitted p).map .redirect

theorem calls_outcome (e : Endpoint) (c : Collaborators) (m : Moment) (p : Principal) (step : Step) :
    (step.outcome e c m p).calls = (step.answer e c m p).calls := by
  cases step with
  | request parameters => rw [calls_answer_request, Step.outcome]
  | decision form kept resubmitted => simp [Step.answer, Step.outcome]

theorem answer_of_outcome (h : (step.outcome e c m p).value = .ok (.redirect r)) :
    (step.answer e c m p).value = some r := by
  cases step with
  | request parameters =>
    rw [Step.outcome] at h
    simp [Step.answer, h]
  | decision form kept resubmitted =>
    obtain ⟨r', hr, heq⟩ := map_eq_ok.mp h
    obtain rfl := Outcome.redirect.inj heq
    simp [Step.answer, hr, Except.toOption]

inductive AnsweredAt (e : Endpoint) (c : Collaborators) : Step → Url → Prop
  | request {parameters : TextMap String} {asked : Request} {client : Client} {target : Url}
      (received : Received e c parameters asked client target) :
      AnsweredAt e c (.request parameters) target
  | decision {form : TextMap String} {kept : Snapshot} {resubmitted : Request} {target : Url}
      (htarget : Redirect.target kept.request = .ok target) :
      AnsweredAt e c (.decision form kept resubmitted) target

theorem Answers.answeredAt (h : Answers e c step request target grant) : AnsweredAt e c step target := by
  cases h with
  | request received _ => exact .request received
  | decision htarget _ => exact .decision htarget

theorem Received.unique {parameters : TextMap String} {a b : Request} {client client' : Client}
    {target target' : Url} (ha : Received e c parameters a client target)
    (hb : Received e c parameters b client' target') :
    a = b ∧ client = client' ∧ target = target' := by
  obtain ⟨⟨asked, uri, hasked, huri, rfl⟩, hknown, htarget⟩ := ha
  obtain ⟨⟨asked', uri', hasked', huri', rfl⟩, hknown', htarget'⟩ := hb
  obtain rfl := Except.ok.inj (hasked.symm.trans hasked')
  obtain rfl := Option.some.inj (Except.ok.inj (hknown.symm.trans hknown'))
  obtain rfl := Except.ok.inj (huri.symm.trans huri')
  exact ⟨rfl, rfl, Except.ok.inj (htarget.symm.trans htarget')⟩

theorem AnsweredAt.unique {target' : Url} (h : AnsweredAt e c step target)
    (h' : AnsweredAt e c step target') : target = target' := by
  cases h with
  | request received =>
    cases h' with
    | request received' => exact (received.unique received').2.2
  | decision htarget =>
    cases h' with
    | decision htarget' => exact Except.ok.inj (htarget.symm.trans htarget')

/-- What tells the user or the client that a request came to nothing: an error, the page that asks the
user, a redirect that reports an error where the request is answered, and any redirect in which an error
is found that the redirect URI does not have itself. -/
inductive Fails (e : Endpoint) (c : Collaborators) (step : Step) : Except AuthError Outcome → Prop
  | error (error : AuthError) : Fails e c step (.error error)
  | page (page : ApprovalPage) : Fails e c step (.ok (.approval page))
  | report {target : Url} {grant : GrantType} {error : AuthError} {state : Option String}
      (answered : AnsweredAt e c step target) :
      Fails e c step (.ok (.redirect (.failure e.approval.status target grant error state)))
  | carried {target : Url} {r : Redirect} (answered : AnsweredAt e c step target)
      (query : target.queryPairs.lookup "error" = none)
      (fragment : target.fragmentPairs.lookup "error" = none) (found : r.error?.isSome = true) :
      Fails e c step (.ok (.redirect r))

theorem not_fails_success (ht : target.WellFormed) (hat : AnsweredAt e c step target)
    (status : RedirectStatus) (now : Timestamp) (issued : Issued) (session : Option String) :
    ¬ Fails e c step (.ok (.redirect (.success status now target request issued session))) := by
  intro h
  generalize hr : Redirect.success status now target request issued session = r at h
  cases h with
  | report answered =>
    obtain rfl := answered.unique hat
    exact Redirect.success_ne_failure ht _ _ issued _ _ _ hr
  | carried answered query fragment found =>
    obtain rfl := answered.unique hat
    rw [← hr, Redirect.error?_success ht query fragment] at found
    cases found

theorem issued_eq_nil_of_client {α : Type} {x : Traced α}
    (h : ∀ call ∈ x.calls, ∃ id answer, call = .client id answer) : x.issued = [] := by
  apply List.filter_eq_nil_iff.mpr
  intro call hcall
  obtain ⟨id, answer, rfl⟩ := h call hcall
  simp [Call.issued]

structure Responds (e : Endpoint) (c : Collaborators) (m : Moment) (p : Principal) (step : Step)
    (request : Request) (target : Url) (grant : GrantType) : Prop where
  answers : Answers e c step request target grant
  value : (step.outcome e c m p).value =
    .ok (.redirect (e.respond c m target grant request p).value)
  issued : (step.outcome e c m p).issued = (e.respond c m target grant request p).issued
  calls : ∀ call ∈ (e.respond c m target grant request p).calls, call ∈ (step.outcome e c m p).calls

theorem outcome_request (e : Endpoint) (c : Collaborators) (m : Moment) (p : Principal)
    (parameters : TextMap String) :
    (Step.outcome e c m p (.request parameters)).issued = [] ∨
      ∃ request target grant, Responds e c m p (.request parameters) request target grant := by
  obtain ⟨_, _, hclient⟩ | ⟨asked, client, target, hreceived, hvalue, hcalls, _⟩ :=
    authorize_cases e c m p parameters
  · exact .inl (issued_eq_nil_of_client hclient)
  have hissued : (e.authorize c m parameters p).issued =
      (e.answer c m client target asked p).issued := by
    rw [Traced.issued, hcalls]
    rfl
  obtain ⟨_, _, heq⟩ | ⟨grant, hscreen, _, heq⟩ | ⟨_, _, _, _, heq⟩ :=
    answer_cases e c m p client target asked
  · exact .inl (hissued.trans (by simp [heq]))
  · rw [heq] at hvalue hcalls hissued
    refine .inr ⟨_, target, grant, .request hreceived (screen_ok hscreen).derived, hvalue,
      hissued.trans (by simp), fun call hcall => ?_⟩
    rw [Step.outcome, hcalls]
    simp [hcall]
  · exact .inl (hissued.trans (by simp [heq]))

theorem outcome_decision (e : Endpoint) (c : Collaborators) (m : Moment) (p : Principal)
    (form : TextMap String) (kept : Snapshot) (resubmitted : Request) :
    (Step.outcome e c m p (.decision form kept resubmitted)).issued = [] ∨
      ∃ request target grant,
        Responds e c m p (.decision form kept resubmitted) request target grant := by
  have hissued : (Step.outcome e c m p (.decision form kept resubmitted)).issued =
      (e.approve c m form kept resubmitted p).issued := by
    simp [Step.outcome]
  obtain ⟨_, _, hcalls⟩ | ⟨target, grant, _, htarget, hgrant, heq⟩ :=
    approve_cases e c m p form kept resubmitted
  · exact .inl (hissued.trans (issued_eq_nil_of_calls hcalls))
  obtain ⟨_, hdecide⟩ | hdecide | ⟨scope, _, _, hdecide⟩ :=
    decide_cases e c m p form target grant kept.request
  · exact .inl (hissued.trans (by simp [heq, hdecide]))
  · exact .inl (hissued.trans (by simp [heq, hdecide]))
  · refine .inr ⟨{ kept.request with scope, approved := true }, target, grant,
      .decision htarget hgrant, ?_, hissued.trans ?_, ?_⟩
    · simp [Step.outcome, heq, hdecide, Except.map]
    · simp [heq, hdecide]
    · simp [Step.outcome, heq, hdecide]

/-- A step issues nothing, or it is one response to the request that it answers. -/
theorem outcome_cases (e : Endpoint) (c : Collaborators) (m : Moment) (p : Principal) (step : Step) :
    (step.outcome e c m p).issued = [] ∨
      ∃ request target grant, Responds e c m p step request target grant := by
  cases step with
  | request parameters => exact outcome_request e c m p parameters
  | decision form kept resubmitted => exact outcome_decision e c m p form kept resubmitted

theorem Answers.derived (h : Answers e c step request target grant) :
    GrantType.ofResponseTypes request.responseTypes = .ok grant := by
  cases h with
  | request _ hgrant => exact hgrant
  | decision _ hgrant => exact hgrant

/-- Nothing is issued in a step that fails, but for the code that goes with a token, when the token fails
after it. -/
theorem failed_unissued (e : Endpoint) (c : Collaborators) (m : Moment) (p : Principal) (step : Step)
    (h : Fails e c step (step.outcome e c m p).value) :
    (step.outcome e c m p).issued = [] ∨ ∃ request target,
      Answers e c step request target .implicit ∧
      Orphaned p request (step.outcome e c m p).calls (step.outcome e c m p).issued ∧
      (step.outcome e c m p).value = .ok (.redirect
        (.failure e.approval.status target .implicit .notIssued request.state)) := by
  obtain hnone | ⟨request, target, grant, hanswers, hvalue, hissued, hcalls⟩ :=
    outcome_cases e c m p step
  · exact .inl hnone
  obtain ⟨hfailure, hleft⟩ | ⟨issued, session, hsuccess⟩ :=
    respond_issued e c m p target hanswers.derived
  · rw [hissued]
    obtain hnone | ⟨rfl, hcode, htoken, hleft, error, hfailed⟩ := hleft
    · exact .inl hnone
    · exact .inr ⟨request, target, hanswers, ⟨hcode, htoken, hleft, error, hcalls _ hfailed⟩,
        by rw [hvalue, hfailure]⟩
  · rw [hvalue, hsuccess] at h
    exact absurd h (not_fails_success hanswers.wellFormed hanswers.answeredAt _ _ issued session)

def tokenless : Traced (Except AuthError Outcome) :=
  approved.step.outcome standard implicitOnly approved.moment approved.principal

def unanswered : Redirect :=
  ⟨"https://a.example/cb#error=server_error&error_description=" ++
    "The+authorization+response+could+not+be+issued.", .found⟩

theorem eq_redirect {answer : Except AuthError Outcome} {r : Redirect}
    (h : answer.toOption.bind Outcome.redirect? = some r) : answer = .ok (.redirect r) := by
  cases answer with
  | error error => cases h
  | ok outcome =>
    cases outcome with
    | redirect r' => rw [Option.some.inj h]
    | approval page => cases h

theorem value_tokenless : tokenless.value = .ok (.redirect unanswered) :=
  eq_redirect (by decide +kernel)

def Step.target? : Step → Option Url
  | .request _ => none
  | .decision _ kept _ => (Redirect.target kept.request).toOption

theorem AnsweredAt.of_target? (h : step.target? = some target) : AnsweredAt e c step target := by
  cases step with
  | request parameters => cases h
  | decision form kept resubmitted =>
    apply AnsweredAt.decision
    cases htarget : Redirect.target kept.request with
    | error error => simp [Step.target?, htarget, Except.toOption] at h
    | ok target' => simpa [Step.target?, htarget, Except.toOption] using h

theorem failed_unissued_tokenless : Fails standard implicitOnly approved.step tokenless.value ∧
    ∃ request target, Answers standard implicitOnly approved.step request target .implicit ∧
      Orphaned approved.principal request tokenless.calls tokenless.issued ∧
      tokenless.value = .ok (.redirect
        (.failure standard.approval.status target .implicit .notIssued request.state)) := by
  have hbare : approved.step.target?.any (fun target => target.queryPairs.lookup "error" = none ∧
      target.fragmentPairs.lookup "error" = none) = true := by
    decide +kernel
  obtain ⟨target, htarget, hnone⟩ := (Option.any_eq_true _ _).mp hbare
  obtain ⟨hquery, hfragment⟩ := of_decide_eq_true hnone
  have hfails : Fails standard implicitOnly approved.step tokenless.value := by
    rw [value_tokenless]
    exact .carried (.of_target? htarget) hquery hfragment (by decide +kernel)
  refine ⟨hfails, ?_⟩
  have hissued : tokenless.issued.isEmpty = false := by decide +kernel
  obtain hnone | horphaned := failed_unissued standard implicitOnly approved.moment
    approved.principal approved.step hfails
  · exact absurd (List.isEmpty_iff.mpr hnone) (ne_of_eq_of_ne hissued (by decide))
  · exact horphaned

theorem exists_code_of_issued {α : Type} {x : Traced α} (h : x.issued.any isCode = true) :
    ∃ r q code, .code r q (.ok code) ∈ x.calls := by
  obtain ⟨r, q, answer, hcode⟩ := exists_code_of_any h
  obtain ⟨hcalls, hissued⟩ := List.mem_filter.mp hcode
  cases answer with
  | error error => cases hissued
  | ok code => exact ⟨r, q, code, hcalls⟩

def misread : Traced (Except AuthError Outcome) :=
  Step.outcome standard oneCode approved.moment approved.principal
    (.request (.ofList [("client_id", "foo"), ("response_type", "code"), ("scope", "read"),
      ("redirect_uri", "https://good.com/cb?error=x")]))

/-- The code that went with a token is there, though the client hears of an error only. A redirect may
also read as one that carries an error and deliver a code. -/
theorem failed_issued :
    (tokenless.value = .ok (.redirect unanswered) ∧ unanswered.error? = some "server_error" ∧
      ∃ r q code, .code r q (.ok code) ∈ tokenless.calls) ∧
    misread.value = .ok (.redirect ⟨"https://good.com/cb?error=x&code=c", .found⟩) ∧
      Redirect.error? ⟨"https://good.com/cb?error=x&code=c", .found⟩ = some "x" ∧
      ∃ r q code, .code r q (.ok code) ∈ misread.calls := by
  constructor
  · exact ⟨value_tokenless, by decide +kernel, exists_code_of_issued (by decide +kernel)⟩
  · exact ⟨eq_redirect (by decide +kernel), by decide +kernel,
      exists_code_of_issued (by decide +kernel)⟩

end Endpoint

end ConsentGate
