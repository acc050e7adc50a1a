import ConsentGate.Proofs.Endpoint.Refusal

namespace ConsentGate

inductive Credential where
  | code
  | token
  deriving DecidableEq

def EventKind.credential? : EventKind → Option Credential
  | .codeIssued _ => some .code
  | .tokenIssued _ => some .token
  | _ => none

def Call.credential? : Call → Option Credential
  | .code _ _ (.ok _) => some .code
  | .token _ _ (.ok _) => some .token
  | _ => none

/-- Tells the calls that issued a code for a request which asks for a token, too. -/
def Call.companion : Call → Bool
  | .code r _ (.ok _) => r.responseTypes.contains "token"
  | _ => false

theorem Call.issued_eq (call : Call) : call.issued = call.credential?.isSome := by
  cases call with
  | client _ _ | sessionState _ _ _ _ => rfl
  | code _ _ answer | token _ _ answer => cases answer <;> rfl

theorem Call.issued_of_companion {call : Call} (h : call.companion = true) : call.issued = true := by
  unfold companion at h
  split at h
  · rfl
  · cases h

namespace Credential

def announcements (k : Credential) (events : List Event) : Nat :=
  events.countP (·.kind.credential? == some k)

def issues (k : Credential) (calls : List Call) : Nat :=
  calls.countP (·.credential? == some k)

end Credential

/-- Tells calls and events where all that was issued is announced, but for codes that go with a token. -/
structure Balanced (calls : List Call) (events : List Event) : Prop where
  token : Credential.token.announcements events = Credential.token.issues calls
  code : Credential.code.announcements events + calls.countP Call.companion =
    Credential.code.issues calls

namespace Balanced

variable {calls calls' : List Call} {events events' : List Event}

theorem nil : Balanced [] [] := ⟨rfl, rfl⟩

theorem append (h : Balanced calls events) (h' : Balanced calls' events') :
    Balanced (calls ++ calls') (events ++ events') := by
  obtain ⟨htoken, hcode⟩ := h
  obtain ⟨htoken', hcode'⟩ := h'
  simp only [Credential.announcements, Credential.issues] at htoken hcode htoken' hcode'
  constructor <;> simp only [Credential.announcements, Credential.issues, List.countP_append] <;> omega

theorem code_iff (h : Balanced calls events) :
    Credential.code.announcements events = Credential.code.issues calls ↔
      ∀ call ∈ calls, call.companion = false := by
  rw [← h.code, Nat.left_eq_add, List.countP_eq_zero]
  simp

theorem of_issued (h : Balanced (calls.filter Call.issued) events) : Balanced calls events := by
  have hissues : ∀ k : Credential, k.issues (calls.filter Call.issued) = k.issues calls := by
    intro k
    rw [Credential.issues, List.countP_filter]
    refine List.countP_congr fun call _ => ?_
    rw [Call.issued_eq]
    cases call.credential? <;> simp
  have hcompanions : (calls.filter Call.issued).countP Call.companion = calls.countP Call.companion := by
    rw [List.countP_filter]
    refine List.countP_congr fun call _ => ?_
    rw [Bool.and_eq_true, and_iff_left_of_imp Call.issued_of_companion]
  obtain ⟨htoken, hcode⟩ := h
  rw [hissues] at htoken hcode
  exact ⟨htoken, hcompanions ▸ hcode⟩

theorem of_forall (h : ∀ event ∈ events, event.kind.credential? = none) : Balanced [] events := by
  have hnone : ∀ k : Credential, k.announcements events = 0 := fun k =>
    List.countP_eq_zero.mpr fun event hevent => by simp [h event hevent]
  exact ⟨hnone _, by rw [hnone]; rfl⟩

end Balanced

namespace Endpoint

variable {e : Endpoint} {c : Collaborators} {m : Moment} {p : Principal} {request : Request}
  {target : Url} {grant : GrantType} {parameters : TextMap String} {client : Client}

/-! ## One response -/

theorem balanced_fail (error : AuthError) :
    Balanced (e.fail m target grant request p error).issued
      (e.fail m target grant request p error).events := by
  rw [issued_fail]
  by_cases hdenied : error.kind = .accessDenied
  · exact .of_forall (by simp [fail, hdenied])
  · exact .of_forall (by simp [events_fail hdenied, reports, EventKind.credential?])

theorem balanced_code (m : Moment) (code : String) (h : "token" ∉ request.responseTypes) :
    Balanced [.code request p (.ok code)]
      (reports m request.clientId p [.codeIssued .authorizationCode]) := by
  have halone : Call.companion (.code request p (.ok code)) = false :=
    Bool.eq_false_iff.mpr (mt TextSet.contains_iff.mp h)
  exact ⟨rfl, by rw [List.countP_cons_of_neg (by simp [halone])]; rfl⟩

theorem balanced_companion (code : String) (h : "token" ∈ request.responseTypes) :
    Balanced [.code request p (.ok code)] [] := by
  have hcompanion : Call.companion (.code request p (.ok code)) = true := by simp [Call.companion, h]
  exact ⟨rfl, by rw [List.countP_cons_of_pos hcompanion]; rfl⟩

theorem balanced_token (m : Moment) (token : Token) :
    Balanced [.token request p (.ok token)] (reports m request.clientId p [.tokenIssued .implicit]) :=
  ⟨rfl, rfl⟩

theorem issued_code {code : String} (h : (c.code request p).value = .ok code) :
    (c.code request p).issued = [.code request p (.ok code)] := by
  have hissue : c.issueCode request p = .ok code := h
  simp [Collaborators.code, hissue, Traced.issued, Traced.calls, Call.issued]

theorem issued_token {token : Token} (h : (c.token request p).value = .ok token) :
    (c.token request p).issued = [.token request p (.ok token)] := by
  have hissue : c.issueToken request p = .ok token := h
  simp [Collaborators.token, hissue, Traced.issued, Traced.calls, Call.issued]

theorem issued_companionCode {code : Option String}
    (h : (companionCode c request p).value = .ok code) :
    (companionCode c request p).issued = [] ∨ "code" ∈ request.responseTypes ∧
      ∃ k, (companionCode c request p).issued = [.code request p (.ok k)] := by
  by_cases hasked : "code" ∈ request.responseTypes
  · rw [companionCode_of_mem hasked] at h ⊢
    obtain ⟨k, hk, -⟩ := map_eq_ok.mp h
    exact .inr ⟨hasked, k, by simp [issued_code hk]⟩
  · rw [companionCode_of_not_mem hasked]
    exact .inl rfl

theorem balanced_issue (m : Moment) {issued : Issued}
    (hgrant : GrantType.ofResponseTypes request.responseTypes = .ok grant)
    (h : (issue c grant request p).value = .ok issued) :
    Balanced (issue c grant request p).issued
      (reports m request.clientId p [announcement grant issued]) := by
  cases grant with
  | authorizationCode =>
    obtain ⟨halone, -⟩ := GrantType.ofResponseTypes_authorizationCode.mp hgrant
    obtain ⟨code, hcode, rfl⟩ := map_eq_ok.mp h
    have hissued : (issue c .authorizationCode request p).issued = [.code request p (.ok code)] := by
      simp [issue, issued_code hcode]
    rw [hissued]
    exact balanced_code m code halone
  | implicit =>
    rw [issue, Traced.value_bind] at h
    rw [issue, Traced.issued_bind]
    split at h
    · cases h
    next code hcode =>
    obtain ⟨token, htoken, rfl⟩ := map_eq_ok.mp h
    simp only [Traced.issued_bind, Traced.issued_pure, List.append_nil, issued_token htoken]
    obtain hnone | ⟨hasked, k, hleft⟩ := issued_companionCode hcode
    · rw [hnone]
      exact balanced_token m token
    · -- The one event is that of the token, so nothing announces the code beside it.
      rw [hleft]
      exact (balanced_companion k (GrantType.token_of_ofResponseTypes hgrant hasked)).append
        (balanced_token m token)

theorem balanced_issue_error {error : AuthError}
    (hgrant : GrantType.ofResponseTypes request.responseTypes = .ok grant)
    (h : (issue c grant request p).value = .error error) :
    Balanced (issue c grant request p).issued [] := by
  cases grant with
  | authorizationCode =>
    rw [issue_authorizationCode_error h]
    exact .nil
  | implicit =>
    obtain hnone | ⟨_, htoken, ⟨code, hleft⟩, _⟩ := issue_implicit_error hgrant h
    · rw [hnone]
      exact .nil
    · rw [hleft]
      exact balanced_companion code htoken

theorem balanced_respond (e : Endpoint) (m : Moment) (target : Url) (request : Request)
    (hgrant : GrantType.ofResponseTypes request.responseTypes = .ok grant) :
    Balanced (e.respond c m target grant request p).issued
      (e.respond c m target grant request p).events := by
  rw [respond]
  simp only [Traced.issued_bind, Traced.events_bind, issued_sessionState, events_sessionState,
    List.nil_append]
  cases (sessionState c target request p).value with
  | error error => exact balanced_fail _
  | ok session =>
    simp only [Traced.issued_bind, Traced.events_bind, events_issue, List.nil_append]
    cases hissue : (issue c grant request p).value with
    | error error => exact (balanced_issue_error hgrant hissue).append (balanced_fail _)
    | ok issued => simpa using balanced_issue m hgrant hissue

/-! ## Steps -/

theorem balanced_answer (e : Endpoint) (c : Collaborators) (m : Moment) (p : Principal)
    (client : Client) (target : Url) (request : Request) :
    Balanced (e.answer c m client target request p).issued
      (e.answer c m client target request p).events := by
  obtain ⟨grant, error, heq⟩ | ⟨grant, hscreen, _, heq⟩ | ⟨_, _, _, _, heq⟩ :=
    answer_cases e c m p client target request
  · simpa [heq] using balanced_fail error
  · have hauto : Balanced [] (reports m request.clientId p [.autoApproved]) :=
      .of_forall (by simp [reports, EventKind.credential?])
    simpa [heq] using hauto.append (balanced_respond e m target { request with approved := true }
      (screen_ok hscreen).derived)
  · rw [heq]
    exact .of_forall (by simp [reports, EventKind.credential?])

theorem balanced_authorize (e : Endpoint) (c : Collaborators) (m : Moment) (p : Principal)
    (parameters : TextMap String) :
    Balanced (e.authorize c m parameters p).issued (e.authorize c m parameters p).events := by
  obtain ⟨error, hvalue, hclient⟩ | ⟨request, client, target, _, _, hcalls, hevents⟩ :=
    authorize_cases e c m p parameters
  · rw [issued_eq_nil_of_client hclient]
    by_cases heard : Unheard e c parameters
    · rw [events_of_unheard heard]
      exact .nil
    · rw [events_of_refused (authorize_error_iff.mp hvalue) heard]
      exact .of_forall (by simp [reports, EventKind.credential?])
  · rw [Traced.issued, hcalls, hevents]
    exact balanced_answer e c m p client target request

theorem balanced_decide (e : Endpoint) (c : Collaborators) (m : Moment) (p : Principal)
    (form : TextMap String) (target : Url) {request : Request}
    (hgrant : GrantType.ofResponseTypes request.responseTypes = .ok grant) :
    Balanced (e.decide c m form target grant request p).issued
      (e.decide c m form target grant request p).events := by
  obtain ⟨error, heq⟩ | heq | ⟨scope, _, _, heq⟩ := decide_cases e c m p form target grant request
  · rw [heq]
    exact balanced_fail error
  · have hdenied : Balanced [] (reports m request.clientId p [.accessDenied]) :=
      .of_forall (by simp [reports, EventKind.credential?])
    simpa [heq] using hdenied.append (balanced_fail .deniedByUser)
  · rw [heq]
    exact balanced_respond e m target { request with scope, approved := true } hgrant

theorem balanced_approve (e : Endpoint) (c : Collaborators) (m : Moment) (p : Principal)
    (form : TextMap String) (kept : Snapshot) (resubmitted : Request) :
    Balanced (e.approve c m form kept resubmitted p).issued
      (e.approve c m form kept resubmitted p).events := by
  obtain ⟨error, hvalue, hcalls⟩ | ⟨target, grant, _, _, hgrant, heq⟩ :=
    approve_cases e c m p form kept resubmitted
  · rw [issued_eq_nil_of_calls hcalls]
    obtain ⟨_, hevents⟩ | ⟨_, _, _, hevents⟩ | ⟨_, _, _, _, hok, _⟩ :=
      approve_reports e c m p form kept resubmitted
    · rw [hevents]
      exact .of_forall (by simp [reports, EventKind.credential?])
    · rw [hevents]
      exact .nil
    · rw [hok] at hvalue
      cases hvalue
  · simpa [heq] using balanced_decide e c m p form target hgrant

theorem balanced_outcome (e : Endpoint) (c : Collaborators) (m : Moment) (p : Principal) (step : Step) :
    Balanced (step.outcome e c m p).issued (step.outcome e c m p).events := by
  cases step with
  | request parameters => exact balanced_authorize e c m p parameters
  | decision form kept resubmitted =>
    simpa [Step.outcome] using balanced_approve e c m p form kept resubmitted

/-! ## Runs -/

namespace Turn

def outcome (e : Endpoint) (t : Turn) : Traced (Except AuthError Outcome) :=
  t.step.outcome e t.collaborators t.moment t.principal

theorem calls_eq (e : Endpoint) (t : Turn) : t.calls e = (t.outcome e).calls :=
  (calls_outcome e t.collaborators t.moment t.principal t.step).symm

theorem balanced (e : Endpoint) (t : Turn) : Balanced (t.calls e) (t.outcome e).events := by
  rw [calls_eq]
  exact (balanced_outcome e t.collaborators t.moment t.principal t.step).of_issued

end Turn

def callsOf (e : Endpoint) (turns : List Turn) : List Call :=
  turns.flatMap (Turn.calls e)

def eventsOf (e : Endpoint) (turns : List Turn) : List Event :=
  turns.flatMap fun t => (t.outcome e).events

theorem balanced_turns (e : Endpoint) (turns : List Turn) :
    Balanced (callsOf e turns) (eventsOf e turns) := by
  induction turns with
  | nil => exact .nil
  | cons t turns ih => exact (t.balanced e).append ih

/-- In every run the tokens that are announced are as many as those that are issued. So are the codes,
counted with those that go with a token; they are as many without these just if there are none. -/
theorem issued_announced (e : Endpoint) (turns : List Turn) :
    Credential.token.announcements (eventsOf e turns) = Credential.token.issues (callsOf e turns) ∧
    Credential.code.announcements (eventsOf e turns) + (callsOf e turns).countP Call.companion =
      Credential.code.issues (callsOf e turns) ∧
    (Credential.code.announcements (eventsOf e turns) = Credential.code.issues (callsOf e turns) ↔
      ∀ call ∈ callsOf e turns, call.companion = false) :=
  have h := balanced_turns e turns
  ⟨h.token, h.code, h.code_iff⟩

def bothIssued : Turn :=
  { hybrid "read" with collaborators := { implicitOnly with
      issueToken := fun _ _ => .ok ⟨"t", none, ⟨2024, 1, 1, 1, 0, 0, 0, 0⟩, "bearer", .empty⟩ } }

theorem run_bothIssued : Run standard [bothIssued] :=
  .turn .start fun _ h => by cases h

/-- The code that goes with a token is not announced, neither if both are issued nor if the token
fails. -/
theorem companion_unannounced :
    (Run standard [bothIssued] ∧ Credential.code.issues (callsOf standard [bothIssued]) = 1 ∧
      Credential.code.announcements (eventsOf standard [bothIssued]) = 0 ∧
      Credential.token.announcements (eventsOf standard [bothIssued]) = 1) ∧
    Run standard [hybrid "read"] ∧ Credential.code.issues (callsOf standard [hybrid "read"]) = 1 ∧
      Credential.code.announcements (eventsOf standard [hybrid "read"]) = 0 :=
  ⟨⟨run_bothIssued, by decide +kernel, by decide +kernel, by decide +kernel⟩, run_hybrid "read",
    by decide +kernel, by decide +kernel⟩

end Endpoint

end ConsentGate
