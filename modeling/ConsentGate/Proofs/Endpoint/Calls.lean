import ConsentGate.Endpoint

namespace ConsentGate

namespace Traced

variable {α β : Type}

@[simp] theorem calls_pure (a : α) : (pure a : Traced α).calls = [] := rfl

@[simp] theorem calls_bind (x : Traced α) (f : α → Traced β) :
    (x >>= f).calls = x.calls ++ (f x.value).calls := by
  simp [calls]

@[simp] theorem events_pure (a : α) : (pure a : Traced α).events = [] := rfl

@[simp] theorem events_bind (x : Traced α) (f : α → Traced β) :
    (x >>= f).events = x.events ++ (f x.value).events := by
  simp [events]

end Traced

theorem Redirect.kind_of_target {request : Request} {error : AuthError}
    (h : Redirect.target request = .error error) : error.kind = .internal := by
  unfold Redirect.target at h
  split at h
  · cases h
    rfl
  · split at h
    · cases h
    · cases h
      rfl

theorem GrantType.kind_of_ofResponseTypes {types : TextSet} {error : AuthError}
    (h : GrantType.ofResponseTypes types = .error error) : error.kind = .unsupportedResponseType := by
  unfold GrantType.ofResponseTypes at h
  split at h
  · cases h
  split at h
  · cases h
  split at h
  · cases h
  · cases h
    rfl

theorem Request.parameters_of_ofParameters {parameters : TextMap String} {request : Request}
    (h : ofParameters parameters = .ok request) : request.parameters = parameters := by
  unfold ofParameters at h
  split at h
  · cases h
  · obtain rfl := Except.ok.inj h
    rfl

namespace Endpoint

variable {e : Endpoint} {c : Collaborators} {m : Moment} {p : Principal}

@[simp] theorem calls_publish (clientId : String) (kind : EventKind) :
    (publish m clientId p kind).calls = [] := rfl

@[simp] theorem calls_reject {α : Type} (clientId : String) (error : AuthError) :
    (reject m clientId p error : Traced (Except AuthError α)).calls = [] := rfl

@[simp] theorem calls_fail (target : Url) (grant : GrantType) (request : Request)
    (error : AuthError) : (e.fail m target grant request p error).calls = [] := by
  unfold fail
  split <;> simp

/-! ## Responses -/

/-- What is asked for an approved request, at most and in this order. -/
def responseCalls (c : Collaborators) (target : Url) (request : Request) (p : Principal) :
    List Call :=
  [.sessionState p.subjectId request.clientId target.origin
      (c.sessionState p.subjectId request.clientId target.origin),
    .code request p (c.issueCode request p), .token request p (c.issueToken request p)]

theorem calls_sessionState (target : Url) (request : Request) :
    (sessionState c target request p).calls.Sublist
      [.sessionState p.subjectId request.clientId target.origin
        (c.sessionState p.subjectId request.clientId target.origin)] := by
  unfold sessionState
  split
  · exact List.Sublist.refl _
  · exact List.nil_sublist _

theorem calls_companionCode (request : Request) :
    (companionCode c request p).calls.Sublist [.code request p (c.issueCode request p)] := by
  unfold companionCode
  split
  · exact List.Sublist.refl _
  · exact List.nil_sublist _

theorem calls_issue (grant : GrantType) (request : Request) :
    (issue c grant request p).calls.Sublist
      [.code request p (c.issueCode request p), .token request p (c.issueToken request p)] := by
  cases grant with
  | authorizationCode => exact (List.nil_sublist _).cons_cons _
  | implicit =>
    have hcode := calls_companionCode (c := c) (p := p) request
    rw [issue, Traced.calls_bind]
    split
    · exact hcode.append (List.nil_sublist _)
    · exact hcode.append (List.Sublist.refl _)

theorem calls_respond (e : Endpoint) (c : Collaborators) (m : Moment) (p : Principal)
    (target : Url) (grant : GrantType) (request : Request) :
    (e.respond c m target grant request p).calls.Sublist (responseCalls c target request p) := by
  have hstate := calls_sessionState (c := c) (p := p) target request
  have hissue := calls_issue (c := c) (p := p) grant request
  rw [respond, Traced.calls_bind]
  split
  · rw [calls_fail]
    exact hstate.append (List.nil_sublist _)
  · rw [Traced.calls_bind]
    apply hstate.append
    split
    · simpa only [calls_fail, List.append_nil] using hissue
    · simpa only [Traced.calls_bind, calls_publish, Traced.calls_pure, List.append_nil] using hissue

/-! ## Authorization requests -/

/-- What a request has shown that passed the checks against its client. -/
structure Screened (e : Endpoint) (request : Request) (client : Client) (grant : GrantType) :
    Prop where
  derived : GrantType.ofResponseTypes request.responseTypes = .ok grant
  allowed : client.allowsGrant grant = true
  scopes : ∀ scope ∈ request.scope, client.allowsScope scope = true
  challenge : e.pkce.validateParameters request.parameters = .ok ()

theorem screen_ok {request : Request} {client : Client} {grant : GrantType}
    (h : e.screen request client = .ok grant) : Screened e request client grant := by
  unfold screen at h
  split at h
  · cases h
  split at h
  · cases h
  next hgrant =>
  split at h
  · cases h
  next hallowed =>
  split at h
  · cases h
  next hscopes =>
  split at h
  · cases h
  next hchallenge =>
  obtain rfl := Except.ok.inj h
  refine ⟨hgrant, by simpa using hallowed, fun scope hs => ?_, hchallenge⟩
  simpa using List.find?_eq_none.mp hscopes scope hs

/-- A request whose errors go to the client: read from the parameters, with the client it names and the
URL at which it is answered. -/
structure Received (e : Endpoint) (c : Collaborators) (parameters : TextMap String)
    (request : Request) (client : Client) (target : Url) : Prop where
  read : ∃ asked uri, Request.ofParameters parameters = .ok asked ∧
    RedirectUri.resolve e.redirect client asked.redirectUri = .ok uri ∧
    request = { asked with redirectUri := some uri }
  known : c.findClient request.clientId = .ok (some client)
  target : Redirect.target request = .ok target

theorem Received.parameters_eq {parameters : TextMap String} {request : Request} {client : Client}
    {target : Url} (h : Received e c parameters request client target) :
    request.parameters = parameters := by
  obtain ⟨asked, uri, hasked, _, rfl⟩ := h.read
  have hsame : asked.parameters = parameters := Request.parameters_of_ofParameters hasked
  exact hsame

theorem authorize_cases (e : Endpoint) (c : Collaborators) (m : Moment) (p : Principal)
    (parameters : TextMap String) :
    (∃ error, (e.authorize c m parameters p).value = .error error ∧
      ∀ call ∈ (e.authorize c m parameters p).calls, ∃ id answer, call = .client id answer) ∨
    ∃ request client target, Received e c parameters request client target ∧
      (e.authorize c m parameters p).value = .ok (e.answer c m client target request p).value ∧
      (e.authorize c m parameters p).calls =
        .client request.clientId (.ok (some client)) ::
          (e.answer c m client target request p).calls ∧
      (e.authorize c m parameters p).events = (e.answer c m client target request p).events := by
  unfold authorize
  split
  · exact .inl ⟨_, rfl, by simp⟩
  next asked hasked =>
  rw [Traced.calls_bind, Traced.events_bind, Traced.value_bind]
  have hcalls : (c.client asked.clientId).calls = [.client asked.clientId (c.findClient asked.clientId)] :=
    rfl
  have hvalue : (c.client asked.clientId).value = c.findClient asked.clientId := rfl
  have hevents : (c.client asked.clientId).events = [] := rfl
  rw [hcalls, hvalue, hevents]
  cases hfound : c.findClient asked.clientId with
  | error error => exact .inl ⟨error, rfl, by simp⟩
  | ok found =>
    cases found with
    | none => exact .inl ⟨_, rfl, by simp⟩
    | some client =>
      dsimp only
      split
      · exact .inl ⟨_, rfl, by simp⟩
      next uri huri =>
      split
      · exact .inl ⟨_, rfl, by simp⟩
      next target htarget =>
      exact .inr ⟨{ asked with redirectUri := some uri }, client, target,
        ⟨⟨asked, uri, hasked, huri, rfl⟩, hfound, htarget⟩, rfl, by simp, by simp⟩

/-- An answer is an error for the client, or what was issued without asking, or the approval page. -/
theorem answer_cases (e : Endpoint) (c : Collaborators) (m : Moment) (p : Principal)
    (client : Client) (target : Url) (request : Request) :
    (∃ grant error, e.answer c m client target request p = (do
      return .redirect (← e.fail m target grant request p error))) ∨
    (∃ grant, e.screen request client = .ok grant ∧
      client.autoApproves request.scope.toList e.fits = true ∧
      e.answer c m client target request p = (do
        publish m request.clientId p .autoApproved
        return .redirect (← e.respond c m target grant { request with approved := true } p))) ∨
    ∃ grant, e.screen request client = .ok grant ∧
      client.autoApproves request.scope.toList e.fits = false ∧ request.promptNone = false ∧
      e.answer c m client target request p = (do
        publish m request.clientId p (.approvalRequested m.snapshotId)
        return .approval
          ⟨⟨m.snapshotId, m.now, request⟩, e.approval.parameter, e.approval.scopeLead⟩) := by
  unfold answer
  split
  · next grant error _ => exact .inl ⟨grant, error, rfl⟩
  next grant hscreen =>
  by_cases hauto : client.autoApproves request.scope.toList e.fits = true
  · rw [if_pos hauto]
    exact .inr (.inl ⟨grant, hscreen, hauto, rfl⟩)
  rw [if_neg hauto]
  by_cases hprompt : request.promptNone = true
  · rw [if_pos hprompt]
    exact .inl ⟨grant, _, rfl⟩
  · rw [if_neg hprompt]
    exact .inr (.inr ⟨grant, hscreen, by simpa using hauto, by simpa using hprompt, rfl⟩)

/-! ## Approvals -/

/-- A decision is an error for the client, or what was issued for the scope that the form grants. -/
theorem decide_cases (e : Endpoint) (c : Collaborators) (m : Moment) (p : Principal)
    (form : TextMap String) (target : Url) (grant : GrantType) (request : Request) :
    (∃ error, e.decide c m form target grant request p = e.fail m target grant request p error) ∨
    e.decide c m form target grant request p = (do
      publish m request.clientId p .accessDenied
      e.fail m target grant request p .deniedByUser) ∨
    ∃ scope, e.isApproved form = true ∧
      grantedScope request.scope (e.namedScopes form) = .ok scope ∧
      e.decide c m form target grant request p =
        e.respond c m target grant { request with scope, approved := true } p := by
  unfold decide
  by_cases happroved : e.isApproved form = true
  · rw [if_pos happroved]
    split
    · exact .inl ⟨_, rfl⟩
    next scope hscope => exact .inr (.inr ⟨scope, happroved, hscope, rfl⟩)
  · rw [if_neg happroved]
    exact .inr (.inl rfl)

theorem approve_cases (e : Endpoint) (c : Collaborators) (m : Moment) (p : Principal)
    (form : TextMap String) (kept : Snapshot) (resubmitted : Request) :
    (∃ error, (e.approve c m form kept resubmitted p).value = .error error ∧
      (e.approve c m form kept resubmitted p).calls = []) ∨
    ∃ target grant, Request.checkUnmodified kept resubmitted = .ok () ∧
      Redirect.target kept.request = .ok target ∧
      GrantType.ofResponseTypes kept.request.responseTypes = .ok grant ∧
      e.approve c m form kept resubmitted p = (do
        return .ok (← e.decide c m form target grant kept.request p)) := by
  unfold approve
  split
  · exact .inl ⟨_, rfl, by simp⟩
  next hsame =>
  split
  · exact .inl ⟨_, rfl, rfl⟩
  next target htarget =>
  split
  · exact .inl ⟨_, rfl, rfl⟩
  next grant hgrant => exact .inr ⟨target, grant, hsame, htarget, hgrant, rfl⟩

/-! ## What is known when something is issued -/

theorem code_mem_responseCalls {target : Url} {request r : Request} {q : Principal}
    {answer : Except AuthError String} (h : .code r q answer ∈ responseCalls c target request p) :
    r = request ∧ q = p ∧ answer = c.issueCode request p := by
  simpa [responseCalls] using h

/-- What is asked for at an authorization request, but for the client, is asked for in a response to it,
and only if all that was requested needs no question. -/
theorem mem_respond_of_authorize {parameters : TextMap String} {call : Call}
    (h : call ∈ (e.authorize c m parameters p).calls)
    (hclient : ∀ id answer, call ≠ .client id answer) :
    ∃ request client target grant, Received e c parameters request client target ∧
      e.screen request client = .ok grant ∧ client.autoApproves request.scope.toList e.fits = true ∧
      call ∈ (e.respond c m target grant { request with approved := true } p).calls := by
  obtain ⟨_, _, hcalls⟩ | ⟨request, client, target, hreceived, _, hcalls, _⟩ :=
    authorize_cases e c m p parameters
  · obtain ⟨id, answer, hcall⟩ := hcalls _ h
    exact absurd hcall (hclient id answer)
  rw [hcalls, List.mem_cons] at h
  replace h := h.resolve_left (hclient _ _)
  obtain ⟨_, _, heq⟩ | ⟨grant, hscreen, hauto, heq⟩ | ⟨_, _, _, _, heq⟩ :=
    answer_cases e c m p client target request
  · simp [heq] at h
  · simp only [heq, Traced.calls_bind, calls_publish, Traced.calls_pure, List.nil_append,
      List.append_nil] at h
    exact ⟨request, client, target, grant, hreceived, hscreen, hauto, h⟩
  · simp [heq] at h

theorem code_mem_authorize {parameters : TextMap String} {r : Request} {q : Principal}
    {answer : Except AuthError String}
    (h : .code r q answer ∈ (e.authorize c m parameters p).calls) :
    ∃ request client target grant, Received e c parameters request client target ∧
      e.screen request client = .ok grant ∧ client.autoApproves request.scope.toList e.fits = true ∧
      r = { request with approved := true } ∧ q = p := by
  obtain ⟨request, client, target, grant, hreceived, hscreen, hauto, hcall⟩ :=
    mem_respond_of_authorize h (by simp)
  obtain ⟨hr, hq, _⟩ := code_mem_responseCalls ((calls_respond e c m p target grant _).subset hcall)
  exact ⟨request, client, target, grant, hreceived, hscreen, hauto, hr, hq⟩

theorem authorize_approval {parameters : TextMap String} {page : ApprovalPage}
    (h : (e.authorize c m parameters p).value = .ok (.approval page)) :
    ∃ request client target grant, Received e c parameters request client target ∧
      e.screen request client = .ok grant ∧ client.autoApproves request.scope.toList e.fits = false ∧
      request.promptNone = false ∧
      page = ⟨⟨m.snapshotId, m.now, request⟩, e.approval.parameter, e.approval.scopeLead⟩ := by
  obtain ⟨_, hvalue, _⟩ | ⟨request, client, target, hreceived, hvalue, _⟩ :=
    authorize_cases e c m p parameters
  · rw [hvalue] at h
    cases h
  rw [hvalue, Except.ok.injEq] at h
  obtain ⟨_, _, heq⟩ | ⟨_, _, _, heq⟩ | ⟨grant, hscreen, hauto, hprompt, heq⟩ :=
    answer_cases e c m p client target request
  · simp [heq] at h
  · simp [heq] at h
  · simp only [heq, Traced.value_bind, Traced.value_pure, Outcome.approval.injEq] at h
    exact ⟨request, client, target, grant, hreceived, hscreen, hauto, hprompt, h.symm⟩

/-- What is asked for at an approval is asked for in a response to the request that was kept, with the
scope that was granted. -/
theorem mem_respond_of_approve {form : TextMap String} {kept : Snapshot} {resubmitted : Request}
    {call : Call} (h : call ∈ (e.approve c m form kept resubmitted p).calls) :
    ∃ scope target grant, e.isApproved form = true ∧
      grantedScope kept.request.scope (e.namedScopes form) = .ok scope ∧
      GrantType.ofResponseTypes kept.request.responseTypes = .ok grant ∧
      call ∈ (e.respond c m target grant { kept.request with scope, approved := true } p).calls := by
  obtain ⟨_, _, hcalls⟩ | ⟨target, grant, _, _, hgrant, heq⟩ :=
    approve_cases e c m p form kept resubmitted
  · simp [hcalls] at h
  simp only [heq, Traced.calls_bind, Traced.calls_pure, List.append_nil] at h
  obtain ⟨_, heq⟩ | heq | ⟨scope, happroved, hscope, heq⟩ :=
    decide_cases e c m p form target grant kept.request
  · simp [heq] at h
  · simp [heq] at h
  · rw [heq] at h
    exact ⟨scope, target, grant, happroved, hscope, hgrant, h⟩

theorem code_mem_approve {form : TextMap String} {kept : Snapshot} {resubmitted r : Request}
    {q : Principal} {answer : Except AuthError String}
    (h : .code r q answer ∈ (e.approve c m form kept resubmitted p).calls) :
    ∃ scope, e.isApproved form = true ∧
      grantedScope kept.request.scope (e.namedScopes form) = .ok scope ∧
      r = { kept.request with scope, approved := true } ∧ q = p := by
  obtain ⟨scope, target, grant, happroved, hscope, _, hcall⟩ := mem_respond_of_approve h
  obtain ⟨hr, hq, _⟩ := code_mem_responseCalls ((calls_respond e c m p target grant _).subset hcall)
  exact ⟨scope, happroved, hscope, hr, hq⟩

theorem countP_calls_authorize (e : Endpoint) (c : Collaborators) (m : Moment) (p : Principal)
    {kind : Call → Bool} (hkind : ∀ id answer, kind (.client id answer) = false)
    (parameters : TextMap String) :
    (e.authorize c m parameters p).calls.countP kind = 0 ∨ ∃ target request,
      (e.authorize c m parameters p).calls.countP kind ≤
        (responseCalls c target request p).countP kind := by
  obtain ⟨_, _, hcalls⟩ | ⟨request, client, target, _, _, hcalls, _⟩ :=
    authorize_cases e c m p parameters
  · refine .inl (List.countP_eq_zero.mpr fun call hcall => ?_)
    obtain ⟨id, answer, rfl⟩ := hcalls call hcall
    simp [hkind]
  rw [hcalls, List.countP_cons_of_neg (by simp [hkind])]
  obtain ⟨_, _, heq⟩ | ⟨grant, _, _, heq⟩ | ⟨_, _, _, _, heq⟩ :=
    answer_cases e c m p client target request
  · exact .inl (by simp [heq])
  · refine .inr ⟨target, { request with approved := true }, ?_⟩
    simpa [heq] using (calls_respond e c m p target grant _).countP_le
  · exact .inl (by simp [heq])

theorem countP_calls_approve (e : Endpoint) (c : Collaborators) (m : Moment) (p : Principal)
    (kind : Call → Bool) (form : TextMap String) (kept : Snapshot) (resubmitted : Request) :
    (e.approve c m form kept resubmitted p).calls.countP kind = 0 ∨ ∃ target request,
      (e.approve c m form kept resubmitted p).calls.countP kind ≤
        (responseCalls c target request p).countP kind := by
  obtain ⟨_, _, hcalls⟩ | ⟨target, grant, _, _, _, heq⟩ :=
    approve_cases e c m p form kept resubmitted
  · exact .inl (by simp [hcalls])
  obtain ⟨_, hdecide⟩ | hdecide | ⟨scope, _, _, hdecide⟩ :=
    decide_cases e c m p form target grant kept.request
  · exact .inl (by simp [heq, hdecide])
  · exact .inl (by simp [heq, hdecide])
  · refine .inr ⟨target, { kept.request with scope, approved := true }, ?_⟩
    simpa [heq, hdecide] using (calls_respond e c m p target grant _).countP_le

theorem grantedScope_ok {requested named scope : TextSet}
    (h : grantedScope requested named = .ok scope) :
    named.isEmpty = true ∧ scope = requested ∨
      named.isEmpty = false ∧ scope = named ∧ ∀ x ∈ named, x ∈ requested := by
  unfold grantedScope at h
  split at h
  · next hempty =>
    rw [Except.ok.injEq] at h
    exact .inl ⟨hempty, h.symm⟩
  next hempty =>
  split at h
  · cases h
  next hall =>
  rw [Except.ok.injEq] at h
  refine .inr ⟨by simpa using hempty, h.symm, fun x hx => ?_⟩
  simpa using List.find?_eq_none.mp hall x hx

end Endpoint

end ConsentGate
