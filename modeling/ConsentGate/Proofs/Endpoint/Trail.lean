import ConsentGate.Proofs.Endpoint.Placement
import ConsentGate.Proofs.Endpoint.Resubmission

namespace ConsentGate

namespace Endpoint

variable {e : Endpoint} {c : Collaborators} {m : Moment} {p : Principal} {request : Request}
  {target : Url} {grant : GrantType} {step : Step} {client : Client} {parameters : TextMap String}
  {error : AuthError}

def reports (m : Moment) (clientId : String) (p : Principal) (kinds : List EventKind) : List Event :=
  kinds.map fun kind => ⟨kind, clientId, some p.subjectId, m.now⟩

theorem reports_append (clientId : String) (kinds kinds' : List EventKind) :
    reports m clientId p (kinds ++ kinds') =
      reports m clientId p kinds ++ reports m clientId p kinds' :=
  List.map_append

@[simp] theorem events_publish (clientId : String) (kind : EventKind) :
    (publish m clientId p kind).events = reports m clientId p [kind] := rfl

theorem events_fail (h : error.kind ≠ .accessDenied) :
    (e.fail m target grant request p error).events =
      reports m request.clientId p [.requestRejected error.code] := by
  simp [fail, h]

theorem events_fail_denied :
    (e.fail m target grant request p .deniedByUser).events = [] := by
  simp [fail, AuthError.deniedByUser]

@[simp] theorem events_sessionState (target : Url) (request : Request) :
    (sessionState c target request p).events = [] := by
  unfold sessionState
  split <;> rfl

@[simp] theorem events_issue (grant : GrantType) (request : Request) :
    (issue c grant request p).events = [] := by
  have hcompanion : (companionCode c request p).events = [] := by
    unfold companionCode
    split <;> rfl
  cases grant with
  | authorizationCode => rfl
  | implicit =>
    rw [issue, Traced.events_bind, hcompanion]
    split <;> rfl

/-! ## What a step tells of -/

def Step.clientId : Step → String
  | .request parameters => (parameters.get? "client_id").getD ""
  | .decision _ kept _ => kept.request.clientId

/-- Tells the requests that are approved without a question to the user. -/
def AutoApproved (e : Endpoint) (c : Collaborators) : Step → Prop
  | .request parameters => ∃ request client target grant,
      Received e c parameters request client target ∧ e.screen request client = .ok grant ∧
        client.autoApproves request.scope.toList e.fits = true
  | .decision _ _ _ => False

/-- What stands before the outcome in the events of a step. -/
inductive Lead (e : Endpoint) (c : Collaborators) (step : Step) : List EventKind → Prop
  | approved (h : AutoApproved e c step) : Lead e c step [.autoApproved]
  | unapproved (h : ¬ AutoApproved e c step) : Lead e c step []

/-- The kinds of events that go with the outcome of a step. -/
inductive Trail (e : Endpoint) (c : Collaborators) (m : Moment) (step : Step) :
    Outcome → List EventKind → Prop
  | page (page : ApprovalPage) :
      Trail e c m step (.approval page) [.approvalRequested page.snapshot.id]
  | code {lead : List EventKind} {request : Request} {target : Url} {code : String}
      {session : Option String} (before : Lead e c step lead)
      (answers : Answers e c step request target .authorizationCode) :
      Trail e c m step
        (.redirect (.success e.approval.status m.now target request (.code code) session))
        (lead ++ [.codeIssued .authorizationCode])
  | token {lead : List EventKind} {request : Request} {target : Url} {token : Token}
      {code session : Option String} (before : Lead e c step lead)
      (answers : Answers e c step request target .implicit) :
      Trail e c m step
        (.redirect (.success e.approval.status m.now target request (.token token code) session))
        (lead ++ [.tokenIssued .implicit])
  | denied {target : Url} {grant : GrantType} {state : Option String}
      (answered : AnsweredAt e c step target) :
      Trail e c m step (.redirect (.failure e.approval.status target grant .deniedByUser state))
        [.accessDenied]
  | rejected {lead : List EventKind} {target : Url} {grant : GrantType} {error : AuthError}
      {state : Option String} (before : Lead e c step lead) (answered : AnsweredAt e c step target)
      (other : error.code ≠ .accessDenied) :
      Trail e c m step (.redirect (.failure e.approval.status target grant error state))
        (lead ++ [.requestRejected error.code])

theorem kind_of_code (h : error.kind ≠ .accessDenied) : error.code ≠ .accessDenied := by
  obtain ⟨kind, description⟩ := error
  cases kind <;> simp_all [AuthError.code, ErrorKind.code]

theorem screen_kind (h : e.screen request client = .error (grant, error)) :
    error.kind ≠ .accessDenied := by
  unfold screen at h
  split at h
  · cases h
    decide
  split at h
  · next hgrant =>
    cases h
    simp [GrantType.kind_of_ofResponseTypes hgrant]
  split at h
  · cases h
    simp [AuthError.grantNotAllowed]
  split at h
  · cases h
    simp [AuthError.scopeNotAllowed]
  split at h
  · next fault _ =>
    cases h
    cases fault <;> simp [Pkce.Error.toAuthError]
  · cases h

theorem trail_fail (m : Moment) (p : Principal) (grant : GrantType) (request : Request)
    {lead : List EventKind} (before : Lead e c step lead)
    (answered : AnsweredAt e c step target) (other : error.kind ≠ .accessDenied) :
    Trail e c m step (.redirect (e.fail m target grant request p error).value)
        (lead ++ [.requestRejected error.code]) ∧
      (e.fail m target grant request p error).events =
        reports m request.clientId p [.requestRejected error.code] := by
  rw [value_fail]
  exact ⟨.rejected before answered (kind_of_code other), events_fail other⟩

theorem trail_respond (m : Moment) (p : Principal) {lead : List EventKind} (before : Lead e c step lead)
    (answers : Answers e c step request target grant) :
    ∃ kinds, Trail e c m step (.redirect (e.respond c m target grant request p).value)
        (lead ++ kinds) ∧
      (e.respond c m target grant request p).events = reports m request.clientId p kinds := by
  have hother : AuthError.notIssued.kind ≠ .accessDenied := by decide
  obtain ⟨htrail, hevents⟩ := trail_fail m p grant request before answers.answeredAt hother
  rw [respond]
  simp only [Traced.events_bind, Traced.value_bind, events_sessionState]
  cases (sessionState c target request p).value with
  | error error => exact ⟨_, htrail, by simpa using hevents⟩
  | ok session =>
    simp only [Traced.events_bind, Traced.value_bind, events_issue]
    cases hissue : (issue c grant request p).value with
    | error error => exact ⟨_, htrail, by simpa using hevents⟩
    | ok issued =>
      obtain ⟨hplace, -⟩ := issue_ok hissue
      refine ⟨[announcement grant issued], ?_, by simp⟩
      cases issued with
      | code code =>
        cases grant with
        | authorizationCode => exact .code before answers
        | implicit => cases hplace
      | token token code =>
        cases grant with
        | authorizationCode => cases hplace
        | implicit => exact .token before answers

/-! ## Authorization requests -/

theorem Received.clientId (h : Received e c parameters request client target) :
    (Step.request parameters).clientId = request.clientId := by
  obtain ⟨⟨asked, uri, hread, _, rfl⟩, _, _⟩ := h
  have hnamed := (ofParameters_eq_ok hread).1.1
  simp [Step.clientId, hnamed]

theorem not_autoApproved_of_screen (h : Received e c parameters request client target)
    {fault : GrantType × AuthError} (hscreen : e.screen request client = .error fault) :
    ¬ AutoApproved e c (.request parameters) := by
  rintro ⟨request', client', target', grant', h', hscreen', _⟩
  obtain ⟨rfl, rfl, _⟩ := h.unique h'
  rw [hscreen] at hscreen'
  cases hscreen'

theorem autoApproved_iff (h : Received e c parameters request client target)
    (hscreen : e.screen request client = .ok grant) :
    AutoApproved e c (.request parameters) ↔ client.autoApproves request.scope.toList e.fits = true := by
  constructor
  · rintro ⟨request', client', target', grant', h', _, hauto⟩
    obtain ⟨rfl, rfl, _⟩ := h.unique h'
    exact hauto
  · exact fun hauto => ⟨request, client, target, grant, h, hscreen, hauto⟩

theorem trail_answer (m : Moment) (p : Principal)
    (h : Received e c parameters request client target) :
    ∃ kinds, Trail e c m (.request parameters) (e.answer c m client target request p).value kinds ∧
      (e.answer c m client target request p).events = reports m request.clientId p kinds := by
  have hanswered : AnsweredAt e c (.request parameters) target := .request h
  unfold answer
  split
  · next grant error hscreen =>
    obtain ⟨htrail, hevents⟩ := trail_fail m p grant request
      (.unapproved (not_autoApproved_of_screen h hscreen)) hanswered (screen_kind hscreen)
    exact ⟨_, htrail, by simp [hevents]⟩
  next grant hscreen =>
  have happroved := autoApproved_iff h hscreen
  split
  · next hauto =>
    obtain ⟨kinds, htrail, hevents⟩ := trail_respond m p
      (.approved (happroved.mpr hauto)) (.request h (screen_ok hscreen).derived)
    exact ⟨_, htrail, by rw [reports_append, ← hevents]; simp⟩
  next hauto =>
  split
  · have hother : AuthError.approvalNeeded.kind ≠ .accessDenied := by decide
    obtain ⟨htrail, hevents⟩ := trail_fail m p grant request
      (.unapproved (mt happroved.mp hauto)) hanswered hother
    exact ⟨_, htrail, by simp [hevents]⟩
  · exact ⟨_, .page _, by simp⟩

/-! ## Decisions -/

theorem grantedScope_kind {requested named : TextSet} (h : grantedScope requested named = .error error) :
    error.kind ≠ .accessDenied := by
  unfold grantedScope at h
  split at h
  · cases h
  split at h
  · cases h
    simp [AuthError.scopeNotRequested]
  · cases h

theorem trail_decide (m : Moment) (p : Principal) (form : TextMap String) {kept : Snapshot}
    (resubmitted : Request) (htarget : Redirect.target kept.request = .ok target)
    (hgrant : GrantType.ofResponseTypes kept.request.responseTypes = .ok grant) :
    ∃ kinds, Trail e c m (.decision form kept resubmitted)
        (.redirect (e.decide c m form target grant kept.request p).value) kinds ∧
      (e.decide c m form target grant kept.request p).events =
        reports m kept.request.clientId p kinds := by
  have hlead : Lead e c (.decision form kept resubmitted) [] := .unapproved fun h => h
  have hanswered : AnsweredAt e c (.decision form kept resubmitted) target := .decision htarget
  unfold decide
  split
  · split
    · next hscope =>
      obtain ⟨htrail, hevents⟩ := trail_fail m p grant kept.request hlead hanswered
        (grantedScope_kind hscope)
      exact ⟨_, htrail, hevents⟩
    · exact trail_respond m p hlead (.decision htarget hgrant)
  · refine ⟨[.accessDenied], ?_, by simp [events_fail_denied]⟩
    rw [Traced.value_bind, value_fail]
    exact .denied hanswered

theorem approve_reports (e : Endpoint) (c : Collaborators) (m : Moment) (p : Principal)
    (form : TextMap String) (kept : Snapshot) (resubmitted : Request) :
    ((e.approve c m form kept resubmitted p).value = .error .tampered ∧
      (e.approve c m form kept resubmitted p).events =
        reports m kept.request.clientId p [.tamperDetected]) ∨
    (∃ error, error ≠ .tampered ∧ (e.approve c m form kept resubmitted p).value = .error error ∧
      (e.approve c m form kept resubmitted p).events = []) ∨
    ∃ target grant, Redirect.target kept.request = .ok target ∧
      GrantType.ofResponseTypes kept.request.responseTypes = .ok grant ∧
      (e.approve c m form kept resubmitted p).value =
        .ok (e.decide c m form target grant kept.request p).value ∧
      (e.approve c m form kept resubmitted p).events =
        (e.decide c m form target grant kept.request p).events := by
  unfold approve
  split
  · next error hchanged =>
    left
    unfold Request.checkUnmodified at hchanged
    split at hchanged <;> cases hchanged
    exact ⟨rfl, by simp⟩
  split
  · next error htarget =>
    refine .inr (.inl ⟨error, ?_, rfl, rfl⟩)
    rintro rfl
    exact absurd (Redirect.kind_of_target htarget) (by decide)
  next target htarget =>
  split
  · next error hgrant =>
    refine .inr (.inl ⟨error, ?_, rfl, rfl⟩)
    rintro rfl
    exact absurd (GrantType.kind_of_ofResponseTypes hgrant) (by decide)
  · next grant hgrant => exact .inr (.inr ⟨target, grant, htarget, hgrant, rfl, by simp⟩)

/-! ## Steps -/

theorem trail_outcome {outcome : Outcome} (h : (step.outcome e c m p).value = .ok outcome) :
    ∃ kinds, Trail e c m step outcome kinds ∧
      (step.outcome e c m p).events = reports m step.clientId p kinds := by
  cases step with
  | request parameters =>
    obtain ⟨_, hvalue, _⟩ | ⟨request, client, target, hreceived, hvalue, _, hevents⟩ :=
      authorize_cases e c m p parameters
    · rw [Step.outcome, hvalue] at h
      cases h
    · rw [Step.outcome, hvalue, Except.ok.injEq] at h
      rw [Step.outcome, hevents, hreceived.clientId, ← h]
      exact trail_answer m p hreceived
  | decision form kept resubmitted =>
    obtain ⟨hvalue, _⟩ | ⟨_, _, hvalue, _⟩ | ⟨target, grant, htarget, hgrant, hvalue, hevents⟩ :=
      approve_reports e c m p form kept resubmitted
    · simp [Step.outcome, hvalue, Except.map] at h
    · simp [Step.outcome, hvalue, Except.map] at h
    · simp only [Step.outcome, Traced.value_bind, Traced.value_pure, hvalue, Except.map,
        Except.ok.injEq] at h
      obtain ⟨kinds, htrail, hdecide⟩ := trail_decide m p form resubmitted htarget hgrant
      refine ⟨kinds, h ▸ htrail, ?_⟩
      simp [Step.outcome, hevents, hdecide, Step.clientId]

theorem Answers.grant_unique {request' : Request} {target' : Url} {grant' : GrantType}
    (h : Answers e c step request target grant) (h' : Answers e c step request' target' grant') :
    grant = grant' := by
  cases h with
  | request received hgrant =>
    cases h' with
    | request received' hgrant' =>
      obtain ⟨rfl, _⟩ := received.unique received'
      exact Except.ok.inj (hgrant.symm.trans hgrant')
  | decision htarget hgrant =>
    cases h' with
    | decision htarget' hgrant' => exact Except.ok.inj (hgrant.symm.trans hgrant')

theorem Lead.unique {lead lead' : List EventKind} (h : Lead e c step lead)
    (h' : Lead e c step lead') : lead = lead' := by
  cases h <;> cases h' <;> first | rfl | contradiction

theorem AnsweredAt.parsed (h : AnsweredAt e c step target) :
    ∃ text, Url.parse text = .ok target := by
  cases h with
  | request received =>
    obtain ⟨uri, _, hparse⟩ := target_eq_ok received.target
    exact ⟨_, hparse⟩
  | decision htarget =>
    obtain ⟨uri, _, hparse⟩ := target_eq_ok htarget
    exact ⟨_, hparse⟩

theorem AnsweredAt.wellFormed (h : AnsweredAt e c step target) : target.WellFormed := by
  obtain ⟨text, hparse⟩ := h.parsed
  exact Url.wellFormed_of_parse hparse

def announced : GrantType → EventKind
  | .authorizationCode => .codeIssued .authorizationCode
  | .implicit => .tokenIssued .implicit

theorem Trail.of_success {outcome : Outcome} {kinds : List EventKind} {issued : Issued}
    {session : Option String} (h : Trail e c m step outcome kinds)
    (answers : Answers e c step request target grant) (houtcome : outcome =
      .redirect (.success e.approval.status m.now target request issued session)) :
    ∃ lead, Lead e c step lead ∧ kinds = lead ++ [announced grant] := by
  cases h with
  | page page => cases houtcome
  | code before answers' => exact ⟨_, before, by rw [answers.grant_unique answers']; rfl⟩
  | token before answers' => exact ⟨_, before, by rw [answers.grant_unique answers']; rfl⟩
  | denied answered | rejected _ answered _ =>
    obtain rfl := answered.unique answers.answeredAt
    exact absurd (Outcome.redirect.inj houtcome).symm
      (Redirect.success_ne_failure answers.wellFormed _ _ _ _ _ _)

theorem Trail.of_failure {outcome : Outcome} {kinds : List EventKind} {state : Option String}
    (h : Trail e c m step outcome kinds) (answered : AnsweredAt e c step target)
    (houtcome : outcome = .redirect (.failure e.approval.status target grant error state)) :
    (error.code = .accessDenied ∧ kinds = [.accessDenied]) ∨
      error.code ≠ .accessDenied ∧
        ∃ lead, Lead e c step lead ∧ kinds = lead ++ [.requestRejected error.code] := by
  cases h with
  | page page => cases houtcome
  | code _ answers | token _ answers =>
    obtain rfl := answered.unique answers.answeredAt
    exact absurd (Outcome.redirect.inj houtcome)
      (Redirect.success_ne_failure answers.wellFormed _ _ _ _ _ _)
  | denied answered' =>
    obtain rfl := answered.unique answered'
    have hcode := Redirect.code_of_failure answered.wellFormed (Outcome.redirect.inj houtcome)
    exact .inl ⟨hcode.symm, rfl⟩
  | rejected before answered' other =>
    obtain rfl := answered.unique answered'
    have hcode := Redirect.code_of_failure answered.wellFormed (Outcome.redirect.inj houtcome)
    exact .inr ⟨hcode ▸ other, _, before, by rw [hcode]⟩

/-- The outcome of a step leaves no choice of events. -/
theorem Trail.unique {outcome : Outcome} {kinds kinds' : List EventKind}
    (h : Trail e c m step outcome kinds) (h' : Trail e c m step outcome kinds') : kinds = kinds' := by
  cases h with
  | page page =>
    cases h' with
    | page => rfl
  | code before answers | token before answers =>
    obtain ⟨lead, before', rfl⟩ := h'.of_success answers rfl
    rw [before.unique before']
    rfl
  | denied answered =>
    obtain ⟨_, rfl⟩ | ⟨hother, _⟩ := h'.of_failure answered rfl
    · rfl
    · exact absurd rfl hother
  | rejected before answered other =>
    obtain ⟨hdenied, _⟩ | ⟨_, lead, before', rfl⟩ := h'.of_failure answered rfl
    · exact absurd hdenied other
    · rw [before.unique before']

theorem Trail.ne_tamperDetected {outcome : Outcome} {kinds : List EventKind}
    (h : Trail e c m step outcome kinds) : kinds ≠ [.tamperDetected] := by
  cases h with
  | page page => simp
  | code before _ | token before _ | rejected before _ _ => cases before <;> simp
  | denied _ => simp

theorem approve_tampered_iff (e : Endpoint) (c : Collaborators) (m : Moment) (p : Principal)
    (form : TextMap String) (kept : Snapshot) (resubmitted : Request) :
    (e.approve c m form kept resubmitted p).value = .error .tampered ↔
      (e.approve c m form kept resubmitted p).events =
        reports m kept.request.clientId p [.tamperDetected] := by
  obtain ⟨hvalue, hevents⟩ | ⟨error, hne, hvalue, hevents⟩ |
      ⟨target, grant, htarget, hgrant, hvalue, hevents⟩ :=
    approve_reports e c m p form kept resubmitted
  · exact iff_of_true hvalue hevents
  · refine iff_of_false ?_ ?_
    · simpa [hvalue] using hne
    · simp [hevents, reports]
  · obtain ⟨kinds, htrail, hdecide⟩ := trail_decide m p form resubmitted htarget hgrant
    refine iff_of_false ?_ ?_
    · simp [hvalue]
    · rw [hevents, hdecide]
      intro h
      apply htrail.ne_tamperDetected
      simpa [reports, List.map_eq_singleton_iff] using h

/-- A step that is answered has just the events that go with its outcome, all about the client and the
user of its request. An approval meets a changed request if and only if its one event says so. -/
theorem trail_of_answered (e : Endpoint) (c : Collaborators) (m : Moment) (p : Principal) :
    (∀ step outcome, (step.outcome e c m p).value = .ok outcome → ∃ kinds,
      (step.outcome e c m p).events = reports m step.clientId p kinds ∧
      ∀ kinds', Trail e c m step outcome kinds' ↔ kinds' = kinds) ∧
    ∀ form kept resubmitted, (e.approve c m form kept resubmitted p).value = .error .tampered ↔
      (e.approve c m form kept resubmitted p).events =
        reports m kept.request.clientId p [.tamperDetected] := by
  refine ⟨fun step outcome h => ?_, approve_tampered_iff e c m p⟩
  obtain ⟨kinds, htrail, hevents⟩ := trail_outcome h
  exact ⟨kinds, hevents, fun kinds' => ⟨fun h' => h'.unique htrail, fun h' => h' ▸ htrail⟩⟩

def unattended : Traced (Except AuthError Outcome) :=
  (hybrid "read").step.outcome standard implicitOnly (hybrid "read").moment (hybrid "read").principal

theorem trail_of_answered_unattended :
    unattended.value = .ok (.redirect unanswered) ∧
    (∃ kinds, unattended.events = reports (hybrid "read").moment "foo" (hybrid "read").principal kinds ∧
      ∀ kinds', Trail standard implicitOnly (hybrid "read").moment (hybrid "read").step
        (.redirect unanswered) kinds' ↔ kinds' = kinds) ∧
    unattended.events = reports (hybrid "read").moment "foo" (hybrid "read").principal
      [.autoApproved, .requestRejected .serverError] := by
  have hvalue : unattended.value = .ok (.redirect unanswered) := eq_redirect (by decide +kernel)
  refine ⟨hvalue, ?_, by decide +kernel⟩
  exact (trail_of_answered standard implicitOnly (hybrid "read").moment (hybrid "read").principal).1
    (hybrid "read").step (.redirect unanswered) hvalue

end Endpoint

end ConsentGate
