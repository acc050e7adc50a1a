import ConsentGate.Proofs.Endpoint.Delivery
import ConsentGate.Proofs.ParameterList
import ConsentGate.Proofs.Server.Run

namespace ConsentGate

namespace Redirect

open Text (Form.Pair)

variable {target : Url} {request : Request} {token : Token} {code session : Option String}
  {now : Timestamp} {status : RedirectStatus}

def fragmentPairs (r : Redirect) : List Form.Pair :=
  Text.Form.decode ((Text.cutAt (· == '#') r.uri.toList).2.getD [])

/-- The scope that a client reads in the fragment. Where none is written it is empty. -/
def toldScope (r : Redirect) : TextSet :=
  match r.fragmentPairs.lookup "scope" with
  | some value => ParameterList.parse value
  | none => .empty

theorem fragmentPairs_success (ht : target.WellFormed) :
    (success status now target request (.token token code) session).fragmentPairs =
      tokenPairs now request token code session := by
  rw [fragmentPairs, uri_success, (Url.cutAt_render (wellFormed_answered ht _ _)).1]
  exact Url.fragmentPairs_setFragment target _

theorem lookup_optional {name key : String} (h : key ≠ name) (value : Option String) :
    (optional name value).lookup key = none := by
  cases value with
  | none => rfl
  | some v => rw [optional, List.lookup_cons, beq_eq_false_iff_ne.mpr h, List.lookup_nil]

theorem lookup_scope : (tokenPairs now request token code session).lookup "scope" =
    if (grantedScope request token).isEmpty then none
    else some (ParameterList.format (grantedScope request token)) := by
  simp only [tokenPairs, List.lookup_append, List.lookup_cons, List.lookup_nil, String.reduceBEq,
    lookup_optional (by decide : "scope" ≠ "id_token"), lookup_optional (by decide : "scope" ≠ "code"),
    lookup_optional (by decide : "scope" ≠ "state"),
    lookup_optional (by decide : "scope" ≠ "session_state"), Option.none_or, Option.or_none]
  split <;> simp

theorem toldScope_eq_iff (ht : target.WellFormed) (hscope : token.scope = request.scope) :
    (success status now target request (.token token code) session).toldScope = request.scope ↔
      ∀ x ∈ request.scope, ParameterList.IsItem x := by
  have hgranted : grantedScope request token = request.scope := by
    rw [grantedScope, hscope, ite_self]
  rw [toldScope, fragmentPairs_success ht, lookup_scope, hgranted]
  by_cases hempty : request.scope.isEmpty = true
  · have hnone : request.scope = .empty := TextSet.eq_of_mem_iff fun x => by
      rw [← TextSet.mem_items, List.isEmpty_iff.mp hempty]
      simp
    have htold : TextSet.empty.isEmpty = true := rfl
    simp [hnone, htold]
  · rw [if_neg hempty]
    exact ParameterList.parse_format_iff

end Redirect

namespace Endpoint

variable {e : Endpoint} {c : Collaborators} {m : Moment} {p : Principal} {step : Step} {t : Turn}
  {turns : List Turn} {request : Request} {target : Url} {grant : GrantType} {r : Redirect}

/-- The scope that a step grants: all that is requested, if that needs no question, or what the user
approves of. -/
inductive GrantsScope (e : Endpoint) (c : Collaborators) : Step → TextSet → Prop
  | requested {parameters : TextMap String} {request : Request} {client : Client} {target : Url}
      (received : Received e c parameters request client target)
      (auto : client.autoApproves request.scope.toList e.fits = true) :
      GrantsScope e c (.request parameters) request.scope
  | approved {form : TextMap String} {kept : Snapshot} {resubmitted : Request} {scope : TextSet}
      (approved : e.isApproved form = true)
      (granted : grantedScope kept.request.scope (e.namedScopes form) = .ok scope) :
      GrantsScope e c (.decision form kept resubmitted) scope

/-! ## Scopes that are granted -/

theorem isItem_of_ofParameters {parameters : TextMap String}
    (h : Request.ofParameters parameters = .ok request) :
    ∀ x ∈ request.scope, ParameterList.IsItem x := by
  unfold Request.ofParameters at h
  split at h
  · cases h
  · obtain rfl := Except.ok.inj h
    intro x hx
    simp only [Request.items] at hx
    split at hx
    · exact ParameterList.isItem_of_mem_parse hx
    · exact absurd hx (TextSet.mem_empty x)

theorem Received.isItem {parameters : TextMap String} {client : Client}
    (h : Received e c parameters request client target) :
    ∀ x ∈ request.scope, ParameterList.IsItem x := by
  obtain ⟨asked, uri, hasked, _, rfl⟩ := h.read
  have hitem := isItem_of_ofParameters hasked
  exact hitem

theorem GrantsScope.isItem {scope : TextSet} (h : GrantsScope e t.collaborators t.step scope)
    (hshown : ∀ kept, t.kept? = some kept → ∃ t' ∈ turns, t'.shown? e = some kept) :
    ∀ x ∈ scope, ParameterList.IsItem x := by
  generalize hstep : t.step = step at h
  cases h with
  | requested received _ => exact received.isItem
  | @approved form kept resubmitted scope _ granted =>
    obtain ⟨t', -, hpage⟩ := hshown kept (by rw [Turn.kept?, hstep])
    obtain ⟨client, _, ⟨parameters, target, _, hreceived⟩, _⟩ := Turn.receives_of_shown hpage
    obtain ⟨_, rfl⟩ | ⟨_, rfl, hsub⟩ := grantedScope_ok granted
    · exact hreceived.isItem
    · exact fun x hx => hreceived.isItem x (hsub x hx)

theorem token_mem_respond {q : Principal} {answer : Except AuthError Token}
    (h : .token request q answer ∈ (e.respond c m target grant request p).calls) :
    q = p ∧ answer = c.issueToken request p := by
  have hm := (calls_respond e c m p target grant request).subset h
  simpa [responseCalls] using hm

/-- A token is asked for with the scope that the step grants. -/
theorem token_mem_answer {q : Principal} {answer : Except AuthError Token}
    (h : .token request q answer ∈ (step.answer e c m p).calls) :
    GrantsScope e c step request.scope ∧ q = p ∧ answer = c.issueToken request p := by
  cases step with
  | request parameters =>
    rw [calls_answer_request] at h
    obtain ⟨asked, client, target, grant, hreceived, hscreen, hauto, hcall⟩ :=
      mem_respond_of_authorize h (by simp)
    obtain ⟨rfl, -⟩ := issues_of_mem_respond hcall (screen_ok hscreen).derived rfl
    -- The request is marked as approved, which leaves its scope as it is.
    have hgrants := GrantsScope.requested hreceived hauto
    exact ⟨hgrants, token_mem_respond hcall⟩
  | decision form kept resubmitted =>
    rw [Step.answer, Traced.calls_bind, Traced.calls_pure, List.append_nil] at h
    obtain ⟨scope, target, grant, happroved, hscope, hgrant, hcall⟩ := mem_respond_of_approve h
    obtain ⟨rfl, -⟩ := issues_of_mem_respond hcall hgrant rfl
    exact ⟨.approved happroved hscope, token_mem_respond hcall⟩

/-! ## Tokens that are delivered -/

/-- Where a token is had, the response delivers it. -/
theorem respond_of_token {token : Token} (ht : target.WellFormed)
    (hgrant : GrantType.ofResponseTypes request.responseTypes = .ok grant)
    (h : .token request p (.ok token) ∈ (e.respond c m target grant request p).calls) :
    grant = .implicit ∧ ∃ code session, (e.respond c m target grant request p).value =
      .success e.approval.status m.now target request (.token token code) session := by
  obtain ⟨-, hissues⟩ := issues_of_mem_respond h hgrant rfl
  obtain rfl : grant = .implicit := by
    cases hissues
    rfl
  refine ⟨rfl, ?_⟩
  have hissued : .token request p (.ok token) ∈ (e.respond c m target .implicit request p).issued :=
    List.mem_filter.mpr ⟨h, rfl⟩
  obtain ⟨-, hnone | ⟨-, -, -, ⟨code, hleft⟩, -⟩⟩ | ⟨_, _, hsuccess⟩ :=
    respond_issued e c m p target hgrant
  · simp [hnone] at hissued
  · simp [hleft] at hissued
  obtain ⟨-, error, hfailure⟩ | ⟨-, issued, session, hplace, hcalls, hvalue⟩ :=
    respond_cases e c m p target .implicit request
  · exact absurd (hsuccess.symm.trans hfailure) (Redirect.success_ne_failure ht _ _ _ _ _ _)
  · have hobtained := obtained_of_calls [] hplace (by simp) hcalls
    cases issued with
    | code code => cases hplace
    | token token' code =>
      have hsame := (token_mem_respond ((hobtained.token token').mp rfl)).2
      rw [← (token_mem_respond h).2, Except.ok.injEq] at hsame
      exact ⟨code, session, by rw [hvalue, hsame]⟩

/-- A turn is answered with a token, whose scope is what the turn granted. -/
structure Turn.DeliversToken (e : Endpoint) (t : Turn) (r : Redirect) (request : Request) : Prop where
  sent : (t.step.answer e t.collaborators t.moment t.principal).value = some r
  granted : GrantsScope e t.collaborators t.step request.scope
  success : ∃ target token code session, Answers e t.collaborators t.step request target .implicit ∧
    r = .success e.approval.status t.moment.now target request (.token token code) session ∧
    token.scope = request.scope

/-- Every token that is asked for is delivered, where the issuer copies the scope that it is given. -/
theorem Turn.deliversToken {q : Principal} {answer : Except AuthError Token}
    (hissuer : ∀ request p, ∃ token, t.collaborators.issueToken request p = .ok token ∧
      token.scope = request.scope)
    (h : .token request q answer ∈ t.calls e) : ∃ r, t.DeliversToken e r request := by
  obtain ⟨hgranted, rfl, rfl⟩ := token_mem_answer h
  obtain ⟨token, htoken, hscope⟩ := hissuer request t.principal
  rw [htoken, Turn.calls, ← calls_outcome] at h
  have hissued : .token request t.principal (.ok token) ∈
      (t.step.outcome e t.collaborators t.moment t.principal).issued :=
    List.mem_filter.mpr ⟨h, rfl⟩
  obtain hnone | ⟨asked, target, grant, hanswers, hvalue, hsame, -⟩ :=
    outcome_cases e t.collaborators t.moment t.principal t.step
  · simp [hnone] at hissued
  rw [hsame] at hissued
  have hcall := (List.mem_filter.mp hissued).1
  obtain ⟨rfl, -⟩ := issues_of_mem_respond hcall hanswers.derived rfl
  obtain ⟨rfl, code, session, hsuccess⟩ := respond_of_token hanswers.wellFormed hanswers.derived hcall
  rw [hsuccess] at hvalue
  exact ⟨_, answer_of_outcome hvalue, hgranted, target, token, code, session, hanswers, rfl, hscope⟩

theorem Turn.DeliversToken.toldScope_eq_iff (h : t.DeliversToken e r request) :
    r.toldScope = request.scope ↔ ∀ x ∈ request.scope, ParameterList.IsItem x := by
  obtain ⟨target, token, code, session, hanswers, rfl, hscope⟩ := h.success
  exact Redirect.toldScope_eq_iff hanswers.wellFormed hscope

theorem Turn.redirect_cases
    (h : (t.step.answer e t.collaborators t.moment t.principal).value = some r) :
    (∃ target grant error state, r = .failure e.approval.status target grant error state) ∨
    (∃ request target code session,
      Answers e t.collaborators t.step request target .authorizationCode ∧
      r = .success e.approval.status t.moment.now target request (.code code) session) ∨
    ∃ request q answer, .token request q answer ∈ t.calls e := by
  obtain ⟨-, target, grant, error, state, hr⟩ |
      ⟨-, request, target, grant, issued, session, hanswers, hobtained, hr⟩ :=
    Endpoint.redirect_cases h
  · exact .inl ⟨target, grant, error, state, hr⟩
  · cases issued with
    | code code =>
      cases grant with
      | authorizationCode => exact .inr (.inl ⟨request, target, code, session, hanswers, hr⟩)
      | implicit => cases hobtained.place
    | token token code => exact .inr (.inr ⟨_, _, _, (hobtained.token token).mp rfl⟩)

/-- Lists that were read are the same after they are written and read again, and no two of them are
written alike. A client reads in the fragment what was granted just if it can be told as a list, and in
every run of an endpoint whose tokens the service issues it can. -/
theorem lists_read_back :
    (∀ x, ParameterList.IsItem x ↔ x ≠ "" ∧ ∀ k ∈ x.toList, Text.isBlank k = false ∧ k ≠ ',') ∧
    (∀ value, ∀ x ∈ ParameterList.parse value, ParameterList.IsItem x) ∧
    (∀ value, ParameterList.parse (ParameterList.format (ParameterList.parse value)) =
      ParameterList.parse value) ∧
    (∀ items others : TextSet, (∀ x ∈ items, ParameterList.IsItem x) →
      (∀ x ∈ others, ParameterList.IsItem x) →
      ParameterList.format items = ParameterList.format others → items = others) ∧
    ∀ (e : Endpoint) (t : Turn) (s : Server) (d : Draw),
      t.collaborators.issueToken = (s.collaborators d).issueToken →
      (∀ request q answer, .token request q answer ∈ t.calls e → ∃ r, t.DeliversToken e r request) ∧
      (∀ r, (t.step.answer e t.collaborators t.moment t.principal).value = some r →
        (∃ target grant error state, r = .failure e.approval.status target grant error state) ∨
        (∃ request target code session,
          Answers e t.collaborators t.step request target .authorizationCode ∧
          r = .success e.approval.status t.moment.now target request (.code code) session) ∨
        ∃ request, t.DeliversToken e r request) ∧
      ∀ r request, t.DeliversToken e r request →
        (r.toldScope = request.scope ↔ ∀ x ∈ request.scope, ParameterList.IsItem x) ∧
        ∀ before turns, Run e turns → before ++ [t] <+: turns → r.toldScope = request.scope := by
  refine ⟨ParameterList.isItem_iff, fun _ _ => ParameterList.isItem_of_mem_parse,
    ParameterList.parse_format_parse, fun _ _ => ParameterList.format_inj, ?_⟩
  intro e t s d hissuer
  have hcopies : ∀ request p, ∃ token, t.collaborators.issueToken request p = .ok token ∧
      token.scope = request.scope := fun request p => ⟨_, by rw [hissuer]; rfl, rfl⟩
  refine ⟨fun _ _ _ => Turn.deliversToken hcopies, fun r hr => ?_, fun r request h => ?_⟩
  · obtain hfailure | hcode | ⟨request, q, answer, hcall⟩ := Turn.redirect_cases hr
    · exact .inl hfailure
    · exact .inr (.inl hcode)
    · obtain ⟨r', hdelivers⟩ := Turn.deliversToken hcopies hcall
      obtain rfl := Option.some.inj (hr.symm.trans hdelivers.sent)
      exact .inr (.inr ⟨request, hdelivers⟩)
  · refine ⟨h.toldScope_eq_iff, fun before turns hrun hbefore => ?_⟩
    exact h.toldScope_eq_iff.mpr (h.granted.isItem (hrun.shown hbefore))

def listed : Turn :=
  { hybrid ",read,, read" with collaborators :=
      { implicitOnly with issueToken := (Server.oneClient.collaborators Server.oneDraw).issueToken } }

def asksToken (scope : TextSet) : Call → Bool
  | .token r _ _ => r.scope = scope
  | _ => false

theorem exists_token_of_any {calls : List Call} {scope : TextSet}
    (h : calls.any (asksToken scope) = true) :
    ∃ r q answer, .token r q answer ∈ calls ∧ r.scope = scope := by
  obtain ⟨call, hm, htoken⟩ := List.any_eq_true.mp h
  cases call with
  | token r q answer => exact ⟨r, q, answer, hm, of_decide_eq_true htoken⟩
  | _ => cases htoken

theorem run_listed : Run standard [listed] :=
  .turn .start fun _ h => by cases h

theorem lists_read_back_listed : Run standard [listed] ∧
    listed.collaborators.issueToken = (Server.oneClient.collaborators Server.oneDraw).issueToken ∧
    ∃ r request, listed.DeliversToken standard r request ∧ r.toldScope = .ofList ["read"] := by
  obtain ⟨request, q, answer, hcall, hread⟩ := exists_token_of_any
    (by decide +kernel : (listed.calls standard).any (asksToken (.ofList ["read"])) = true)
  obtain ⟨-, -, -, -, hscope⟩ := lists_read_back
  obtain ⟨hissued, -, htold⟩ := hscope standard listed Server.oneClient Server.oneDraw rfl
  obtain ⟨r, hdelivers⟩ := hissued request q answer hcall
  have hsame := (htold r request hdelivers).2 [] [listed] run_listed (List.prefix_refl _)
  exact ⟨run_listed, rfl, r, request, hdelivers, hsame.trans hread⟩

end Endpoint

end ConsentGate
