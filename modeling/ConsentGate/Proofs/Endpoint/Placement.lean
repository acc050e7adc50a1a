import ConsentGate.Proofs.Endpoint.Delivery
import ConsentGate.Proofs.Redirect.Destination

namespace ConsentGate

namespace Endpoint

variable {e : Endpoint} {c : Collaborators} {m : Moment} {p : Principal} {parameters : TextMap String}
  {error : AuthError} {target : Url}

/-! ## Requests that are refused -/

def Names (parameters : TextMap String) (id : String) : Prop :=
  parameters.get? "client_id" = some id ∧ id ≠ ""

/-- The redirect URI that is resolved for the client which the parameters name. -/
def Resolved (e : Endpoint) (c : Collaborators) (parameters : TextMap String)
    (answer : Except AuthError String) : Prop :=
  ∃ id client, Names parameters id ∧ c.findClient id = .ok (some client) ∧
    RedirectUri.resolve e.redirect client (Request.nonEmpty? parameters "redirect_uri") = answer

/-- Why the user is told that a request is refused, and the client is not. -/
inductive Refused (e : Endpoint) (c : Collaborators) (parameters : TextMap String) :
    AuthError → Prop
  | unnamed (missing : ∀ id, ¬ Names parameters id) : Refused e c parameters .missingClientId
  | unavailable {id : String} {error : AuthError} (named : Names parameters id)
      (failed : c.findClient id = .error error) : Refused e c parameters error
  | unknown {id : String} (named : Names parameters id) (absent : c.findClient id = .ok none) :
      Refused e c parameters (.unknownClient id)
  | unresolved {error : AuthError} (failed : Resolved e c parameters (.error error)) :
      Refused e c parameters error
  | unusable {uri : String} {reason : UrlError} (resolved : Resolved e c parameters (.ok uri))
      (unread : Url.parse uri.toList = .error reason) :
      Refused e c parameters (.unusableRedirect reason.message)

theorem nonEmpty?_eq_some {name value : String} :
    Request.nonEmpty? parameters name = some value ↔ parameters.get? name = some value ∧ value ≠ "" := by
  simp [Request.nonEmpty?, Option.filter_eq_some_iff]

theorem ofParameters_eq_error (h : Request.ofParameters parameters = .error error) :
    error = .missingClientId ∧ ∀ id, ¬ Names parameters id := by
  unfold Request.ofParameters at h
  split at h
  · next hnone =>
    refine ⟨(Except.error.inj h).symm, fun id hid => ?_⟩
    rw [nonEmpty?_eq_some.mpr hid] at hnone
    cases hnone
  · cases h

theorem ofParameters_eq_ok {asked : Request} (h : Request.ofParameters parameters = .ok asked) :
    Names parameters asked.clientId ∧
      asked.redirectUri = Request.nonEmpty? parameters "redirect_uri" := by
  unfold Request.ofParameters at h
  split at h
  · cases h
  · next id hid =>
    obtain rfl := Except.ok.inj h
    exact ⟨nonEmpty?_eq_some.mp hid, rfl⟩

theorem ofParameters_of_names {id : String} (h : Names parameters id) :
    ∃ asked, Request.ofParameters parameters = .ok asked ∧ asked.clientId = id ∧
      asked.redirectUri = Request.nonEmpty? parameters "redirect_uri" := by
  simp [Request.ofParameters, nonEmpty?_eq_some.mpr h]

theorem target_eq {asked : Request} {uri : String} :
    Redirect.target { asked with redirectUri := some uri } =
      match Url.parse uri.toList with
      | .ok u => .ok u
      | .error reason => .error (.unusableRedirect reason.message) :=
  rfl

theorem parse_of_target {asked : Request} {uri : String}
    (h : Redirect.target { asked with redirectUri := some uri } = .ok target) :
    Url.parse uri.toList = .ok target := by
  obtain ⟨_, huri, hparse⟩ := target_eq_ok h
  rwa [Option.some.inj huri]

theorem authorize_of_refused (h : Refused e c parameters error) :
    (e.authorize c m parameters p).value = .error error := by
  unfold authorize
  cases h with
  | unnamed missing =>
    cases hread : Request.ofParameters parameters with
    | error error => rw [(ofParameters_eq_error hread).1]; rfl
    | ok asked => exact absurd (ofParameters_eq_ok hread).1 (missing _)
  | unavailable named failed =>
    obtain ⟨asked, hread, rfl, _⟩ := ofParameters_of_names named
    simp [hread, Collaborators.client, failed]
  | unknown named absent =>
    obtain ⟨asked, hread, rfl, _⟩ := ofParameters_of_names named
    simp [hread, Collaborators.client, absent, reject]
  | unresolved failed =>
    obtain ⟨id, client, named, found, hresolve⟩ := failed
    obtain ⟨asked, hread, rfl, hrequested⟩ := ofParameters_of_names named
    simp [hread, Collaborators.client, found, reject, hrequested, hresolve]
  | unusable resolved unread =>
    obtain ⟨id, client, named, found, hresolve⟩ := resolved
    obtain ⟨asked, hread, rfl, hrequested⟩ := ofParameters_of_names named
    simp [hread, Collaborators.client, found, reject, hrequested, hresolve, target_eq, unread]

theorem authorize_of_received {request : Request} {client : Client} {target : Url}
    (h : Received e c parameters request client target) :
    (e.authorize c m parameters p).value = .ok (e.answer c m client target request p).value := by
  obtain ⟨⟨asked, uri, hread, hresolve, rfl⟩, found, htarget⟩ := h
  have hfound : c.findClient asked.clientId = .ok (some client) := found
  simp [authorize, hread, Collaborators.client, hfound, hresolve, htarget]

theorem received_of_resolved {uri : String} {target : Url} (h : Resolved e c parameters (.ok uri))
    (hread : Url.parse uri.toList = .ok target) :
    ∃ request client, Received e c parameters request client target := by
  obtain ⟨id, client, named, found, hresolve⟩ := h
  obtain ⟨asked, hasked, rfl, hrequested⟩ := ofParameters_of_names named
  refine ⟨{ asked with redirectUri := some uri }, client,
    ⟨asked, uri, hasked, by rw [hrequested, hresolve], rfl⟩, found, ?_⟩
  rw [target_eq, hread]

theorem resolved_of_received {request : Request} {client : Client} {target : Url}
    (h : Received e c parameters request client target) :
    ∃ uri, Resolved e c parameters (.ok uri) ∧ Url.parse uri.toList = .ok target := by
  obtain ⟨⟨asked, uri, hread, hresolve, rfl⟩, found, htarget⟩ := h
  obtain ⟨named, hrequested⟩ := ofParameters_eq_ok hread
  exact ⟨uri, ⟨asked.clientId, client, named, found, by rw [← hrequested, hresolve]⟩,
    parse_of_target htarget⟩

/-- A request is refused, or its redirect URI is resolved and a URL. -/
theorem refused_or_resolved (e : Endpoint) (c : Collaborators) (parameters : TextMap String) :
    (∃ error, Refused e c parameters error) ∨
      ∃ uri target, Resolved e c parameters (.ok uri) ∧ Url.parse uri.toList = .ok target := by
  by_cases hnamed : ∃ id, Names parameters id
  · obtain ⟨id, named⟩ := hnamed
    cases hfound : c.findClient id with
    | error error => exact .inl ⟨error, .unavailable named hfound⟩
    | ok found =>
      cases found with
      | none => exact .inl ⟨_, .unknown named hfound⟩
      | some client =>
        have hresolved : Resolved e c parameters _ := ⟨id, client, named, hfound, rfl⟩
        cases hresolve : RedirectUri.resolve e.redirect client
            (Request.nonEmpty? parameters "redirect_uri") with
        | error error => exact .inl ⟨error, .unresolved (hresolve ▸ hresolved)⟩
        | ok uri =>
          cases hparse : Url.parse uri.toList with
          | error reason => exact .inl ⟨_, .unusable (hresolve ▸ hresolved) hparse⟩
          | ok target => exact .inr ⟨uri, target, hresolve ▸ hresolved, hparse⟩
  · exact .inl ⟨_, .unnamed fun id hid => hnamed ⟨id, hid⟩⟩

theorem authorize_error_iff :
    (e.authorize c m parameters p).value = .error error ↔ Refused e c parameters error := by
  refine ⟨fun h => ?_, authorize_of_refused⟩
  obtain ⟨error', hrefused⟩ | ⟨uri, target, hresolved, hread⟩ := refused_or_resolved e c parameters
  · rw [authorize_of_refused hrefused, Except.error.injEq] at h
    exact h ▸ hrefused
  · obtain ⟨request, client, hreceived⟩ := received_of_resolved hresolved hread
    rw [authorize_of_received hreceived] at h
    cases h

theorem exists_authorize_ok_iff : (∃ outcome, (e.authorize c m parameters p).value = .ok outcome) ↔
    ∀ error, ¬ Refused e c parameters error := by
  simp only [← authorize_error_iff (m := m) (p := p)]
  cases (e.authorize c m parameters p).value <;> simp

/-! ## Redirects -/

theorem leadsTo_respond (ht : target.WellFormed) (grant : GrantType) (request : Request) :
    (e.respond c m target grant request p).value.LeadsTo target := by
  obtain ⟨_, error, hvalue⟩ | ⟨_, issued, session, _, _, hvalue⟩ :=
    respond_cases e c m p target grant request
  · rw [hvalue]
    exact Redirect.leadsTo_failure _ ht grant error _
  · rw [hvalue]
    exact Redirect.leadsTo_success _ _ ht request issued session

theorem leadsTo_answer {client : Client} {request : Request} {r : Redirect} (ht : target.WellFormed)
    (h : (e.answer c m client target request p).value = .redirect r) : r.LeadsTo target := by
  obtain ⟨grant, error, heq⟩ | ⟨grant, _, _, heq⟩ | ⟨_, _, _, _, heq⟩ :=
    answer_cases e c m p client target request
  · simp only [heq, Traced.value_bind, Traced.value_pure, value_fail, Outcome.redirect.injEq] at h
    exact h ▸ Redirect.leadsTo_failure _ ht grant error _
  · simp only [heq, Traced.value_bind, Traced.value_pure, Outcome.redirect.injEq] at h
    exact h ▸ leadsTo_respond ht grant _
  · simp [heq] at h

theorem leadsTo_decide (ht : target.WellFormed) (form : TextMap String) (grant : GrantType)
    (request : Request) : (e.decide c m form target grant request p).value.LeadsTo target := by
  obtain ⟨error, heq⟩ | heq | ⟨scope, _, _, heq⟩ := decide_cases e c m p form target grant request
  · rw [heq, value_fail]
    exact Redirect.leadsTo_failure _ ht grant error _
  · rw [heq, Traced.value_bind, value_fail]
    exact Redirect.leadsTo_failure _ ht grant .deniedByUser _
  · rw [heq]
    exact leadsTo_respond ht grant _

/-- A request is refused exactly if the parameters name no client, the client cannot be found, no redirect
URI can be resolved for it, or that is no URL; then nothing but the client was asked for. Every other
request is answered, and a redirect that answers it leads to the redirect URI that was resolved. -/
theorem authorize_leads (e : Endpoint) (c : Collaborators) (m : Moment) (p : Principal)
    (parameters : TextMap String) :
    (∀ error, (e.authorize c m parameters p).value = .error error ↔ Refused e c parameters error) ∧
    ((∃ outcome, (e.authorize c m parameters p).value = .ok outcome) ↔
      ∀ error, ¬ Refused e c parameters error) ∧
    (∀ error, (e.authorize c m parameters p).value = .error error →
      ∀ call ∈ (e.authorize c m parameters p).calls, ∃ id answer, call = .client id answer) ∧
    ∀ r, (e.authorize c m parameters p).value = .ok (.redirect r) →
      ∃ uri target, Resolved e c parameters (.ok uri) ∧ Url.parse uri.toList = .ok target ∧
        r.LeadsTo target := by
  refine ⟨fun _ => authorize_error_iff, exists_authorize_ok_iff, fun error h => ?_, fun r h => ?_⟩
  · obtain ⟨_, _, hcalls⟩ | ⟨_, _, _, _, hvalue, _⟩ := authorize_cases e c m p parameters
    · exact hcalls
    · rw [hvalue] at h
      cases h
  · obtain ⟨_, hvalue, _⟩ | ⟨request, client, target, hreceived, hvalue, _⟩ :=
      authorize_cases e c m p parameters
    · rw [hvalue] at h
      cases h
    · rw [hvalue, Except.ok.injEq] at h
      obtain ⟨uri, hresolved, hparse⟩ := resolved_of_received hreceived
      exact ⟨uri, target, hresolved, hparse, leadsTo_answer (Url.wellFormed_of_parse hparse) h⟩

def opaqueOnly : Collaborators where
  findClient := fun _ => .ok (some { Client.ofId "foo" with
    redirectUris := .ofList ["app:cb  #old"]
    grantTypes := .ofList ["authorization_code"] })
  sessionState := fun _ _ _ => .ok "s"
  issueCode := fun _ _ => .ok "c"
  issueToken := fun _ _ => .error .notIssued

def typeless : Traced (Except AuthError Outcome) :=
  standard.authorize opaqueOnly ⟨⟨2024, 1, 1, 0, 0, 0, 0, 0⟩, .ofNat 1⟩
    (.ofList [("client_id", "foo")]) ⟨"marissa", "marissa", none⟩

def trimmed : Redirect :=
  ⟨"app:cb?error=invalid_request&error_description=A+response_type+must+be+supplied.", .found⟩

theorem authorize_leads_opaque : typeless.value = .ok (.redirect trimmed) ∧
    ∃ uri target, Resolved standard opaqueOnly (.ofList [("client_id", "foo")]) (.ok uri) ∧
      Url.parse uri.toList = .ok target ∧ trimmed.LeadsTo target := by
  have hvalue : typeless.value = .ok (.redirect trimmed) := eq_redirect (by decide +kernel)
  obtain ⟨_, _, _, hleads⟩ := authorize_leads standard opaqueOnly
    ⟨⟨2024, 1, 1, 0, 0, 0, 0, 0⟩, .ofNat 1⟩ ⟨"marissa", "marissa", none⟩ (.ofList [("client_id", "foo")])
  exact ⟨hvalue, hleads trimmed hvalue⟩

end Endpoint

end ConsentGate
