import ConsentGate.Proofs.Collection.Reading
import ConsentGate.Proofs.Collection.TextMap
import ConsentGate.Proofs.Endpoint.Approvable
import ConsentGate.Proofs.Endpoint.Refusal
import ConsentGate.Proofs.Endpoint.Setup
import ConsentGate.Proofs.RedirectUri.Follows
import ConsentGate.Proofs.Server.Expiry
import ConsentGate.Proofs.Server.Responses

namespace ConsentGate

namespace ServiceSettings

variable {fits : String → Bool}

theorem validateClients_ok {seen : List String} {clients : List Client}
    (h : validateClients fits seen clients = .ok ()) :
    (clients.map Client.clientId).Nodup ∧
      ∀ client ∈ clients, client.clientId ≠ "" ∧ client.clientId ∉ seen := by
  induction clients generalizing seen with
  | nil => exact ⟨List.nodup_nil, fun _ hm => absurd hm List.not_mem_nil⟩
  | cons client rest ih =>
    unfold validateClients at h
    split at h
    · cases h
    next hvalid =>
    split at h
    · cases h
    next hseen =>
    obtain ⟨hnodup, hrest⟩ := ih h
    have hid : client.clientId ≠ "" := by
      intro hempty
      simp [Client.validate, hempty] at hvalid
    refine ⟨List.nodup_cons.mpr ⟨fun hm => ?_, hnodup⟩, fun other hm => ?_⟩
    · obtain ⟨other, hother, heq⟩ := List.mem_map.mp hm
      exact (hrest other hother).2 (heq ▸ List.mem_cons_self)
    · obtain rfl | hm := List.mem_cons.mp hm
      · exact ⟨hid, by simpa using hseen⟩
      · obtain ⟨hne, hnot⟩ := hrest other hm
        exact ⟨hne, fun hs => hnot (List.mem_cons_of_mem _ hs)⟩

theorem validateClients_of_validate {s : ServiceSettings} (h : s.validate fits = .ok ()) :
    validateClients fits [] s.clients = .ok () := by
  unfold validate at h
  iterate 6
    split at h
    · cases h
  split at h
  · cases h
  · exact h

end ServiceSettings

namespace RedirectUri

variable {rules : RedirectSettings} {client : Client} {requested : Option String} {error : AuthError}

/-- Tells the clients that may be redirected, and whose only redirect URI is no URL. -/
def LeadsNowhere (rules : RedirectSettings) (client : Client) : Prop :=
  client.grantTypes.toList.any rules.grantTypes.contains = true ∧
    ∃ uri reason, client.redirectUris.toList = [uri] ∧ Url.parse uri.toList = .error reason

/-- What cannot be resolved is the fault of the client. -/
theorem status_of_resolve (h : resolve rules client requested = .error error) :
    error.kind.httpStatus = 400 := by
  unfold resolve at h
  split at h
  · cases h
    rfl
  split at h
  · cases h
    rfl
  · cases h
  · cases h
    rfl
  · dsimp only at h
    split at h
    · cases h
      rfl
    split at h
    · cases h
    · cases h
      rfl

end RedirectUri

namespace Endpoint

variable {e : Endpoint} {c : Collaborators} {m : Moment} {p : Principal} {parameters : TextMap String}
  {error : AuthError}

/-- Tells the parameters that name a client, but no redirect URI, where that of the client is no URL. -/
def Misled (e : Endpoint) (c : Collaborators) (parameters : TextMap String) : Prop :=
  ∃ id client, Names parameters id ∧ c.findClient id = .ok (some client) ∧
    Request.nonEmpty? parameters "redirect_uri" = none ∧ RedirectUri.LeadsNowhere e.redirect client

/-- A redirect URI that is requested and registered is a URL. -/
theorem misled_iff : Misled e c parameters ↔
    ∃ uri reason, Resolved e c parameters (.ok uri) ∧ Url.parse uri.toList = .error reason := by
  constructor
  · rintro ⟨id, client, named, found, hrequested, hgrant, uri, reason, honly, hread⟩
    refine ⟨uri, reason, ⟨id, client, named, found, ?_⟩, hread⟩
    rw [hrequested]
    exact RedirectUri.resolve_none_iff.mpr ⟨RedirectUri.mayRedirect_iff.mp hgrant, honly⟩
  · rintro ⟨uri, reason, ⟨id, client, named, found, hresolve⟩, hread⟩
    cases hrequested : Request.nonEmpty? parameters "redirect_uri" with
    | none =>
      rw [hrequested] at hresolve
      obtain ⟨hgrant, honly⟩ := RedirectUri.resolve_none_iff.mp hresolve
      exact ⟨id, client, named, found, hrequested, RedirectUri.mayRedirect_iff.mpr hgrant, uri, reason,
        honly, hread⟩
    | some requested =>
      -- What is requested was read as a URL before it was compared.
      rw [hrequested] at hresolve
      obtain ⟨a, ha, _⟩ := RedirectUri.resolve_spec hresolve
      obtain ⟨v, hv, _⟩ := RedirectUri.read?_spec ha
      rw [hread] at hv
      cases hv

/-- A request is refused for a fault of the client's, unless the client is not to be found for a fault of the
server's. -/
theorem status_of_refused (hfound : ∀ id, ∃ found, c.findClient id = .ok found)
    (h : Refused e c parameters error) :
    (error.kind.httpStatus = 400 ∨ error.kind.httpStatus = 401) ∧ ¬ Misled e c parameters ∨
      error.kind.httpStatus = 500 ∧ Misled e c parameters := by
  cases h with
  | unnamed missing =>
    exact .inl ⟨.inl rfl, fun ⟨id, _, named, _⟩ => missing id named⟩
  | unavailable named failed =>
    obtain ⟨found, hok⟩ := hfound _
    rw [hok] at failed
    cases failed
  | unknown named absent =>
    refine .inl ⟨.inr rfl, fun ⟨id, client, named', found, _⟩ => ?_⟩
    rw [← named.unique named', absent] at found
    cases found
  | unresolved failed =>
    refine .inl ⟨.inl ?_, fun hmisled => ?_⟩
    · obtain ⟨_, _, _, _, hresolve⟩ := failed
      exact RedirectUri.status_of_resolve hresolve
    · obtain ⟨uri, reason, resolved, _⟩ := misled_iff.mp hmisled
      cases failed.unique resolved
  | unusable resolved unread => exact .inr ⟨rfl, misled_iff.mpr ⟨_, _, resolved, unread⟩⟩

theorem approve_error_of_known {form : TextMap String} {kept : Snapshot} {resubmitted : Request}
    {target : Url} {grant : GrantType} (htarget : Redirect.target kept.request = .ok target)
    (hgrant : GrantType.ofResponseTypes kept.request.responseTypes = .ok grant)
    (h : (e.approve c m form kept resubmitted p).value = .error error) : error = .tampered := by
  cases hsame : Request.checkUnmodified kept resubmitted with
  | ok _ =>
    obtain ⟨r, hvalue, _⟩ : ∃ r, (e.approve c m form kept resubmitted p).value = .ok r ∧
        r.LeadsTo target :=
      approve_leads hsame htarget hgrant
    rw [hvalue] at h
    cases h
  | error fault =>
    have hfault : fault = .tampered := by
      unfold Request.checkUnmodified at hsame
      split at hsame <;> cases hsame
      rfl
    simp only [approve, hsame, Traced.value_bind, Traced.value_pure, Except.error.injEq] at h
    rw [← h, hfault]

end Endpoint

namespace Server

variable {s : Server} {d : Draw} {p : Principal} {parameters form : TextMap String}
  {inputs : List Input}

/-! ## Requests and forms -/

theorem status_of_redirect {r : Redirect} (h : HttpResponse.ofRedirect r =
    ⟨r.status.code, some r.uri, none⟩) : (HttpResponse.ofRedirect r).status = 302 ∨
      (HttpResponse.ofRedirect r).status = 303 := by
  rw [h]
  exact Redirect.status_code r.status

theorem get_status (s : Server) (d : Draw) (state : ServerState) (parameters : TextMap String)
    (p : Principal) :
    (s.get d state parameters p).1.status ∈ [200, 302, 303, 400, 401, 500] ∧
      ((s.get d state parameters p).1.status = 500 ↔
        Endpoint.Misled s.endpoint (s.collaborators d) parameters) := by
  cases hvalue : (s.endpoint.authorize (s.collaborators d) d.moment parameters p).value with
  | error error =>
    have hrefused := Endpoint.authorize_error_iff.mp hvalue
    have hresponse : (s.get d state parameters p).1.status = error.kind.httpStatus :=
      congrArg HttpResponse.status (Handlers.response_of_error hvalue)
    rw [hresponse]
    obtain ⟨h400 | h401, hnot⟩ | ⟨h500, hmisled⟩ :=
      Endpoint.status_of_refused (fun id => ⟨_, rfl⟩) hrefused
    · simp [h400, hnot]
    · simp [h401, hnot]
    · simp [h500, hmisled]
  | ok outcome =>
    have hnot : ¬ Endpoint.Misled s.endpoint (s.collaborators d) parameters := by
      intro hmisled
      obtain ⟨uri, reason, resolved, unread⟩ := Endpoint.misled_iff.mp hmisled
      have hrefused := Endpoint.authorize_error_iff (m := d.moment) (p := p)
        |>.mpr (.unusable resolved unread)
      rw [hrefused] at hvalue
      cases hvalue
    have hresponse : (s.get d state parameters p).1 = .ofOutcome outcome :=
      Handlers.response_of_ok hvalue
    rw [hresponse]
    cases outcome with
    | approval page =>
      have hpage : (HttpResponse.ofApprovalPage page).status = 200 := rfl
      simp [HttpResponse.ofOutcome, hpage, hnot]
    | redirect r =>
      have hsent := Endpoint.ofRedirect_of_outcome (.request parameters) hvalue
      obtain hfound | hother := status_of_redirect hsent
      · simp [HttpResponse.ofOutcome, hfound, hnot]
      · simp [HttpResponse.ofOutcome, hother, hnot]

/-- What a page asks about can be answered: only a change of it is an error. -/
theorem post_status (s : Server) (inputs : List Input) (d : Draw) (form : TextMap String)
    (p : Principal) : (s.post d (s.run inputs) form p).1.status ∈ [302, 303, 400] := by
  have hpost : (s.post d (s.run inputs) form p).1 = (Handlers.approve s.endpoint (s.collaborators d)
      d.moment (s.run inputs).snapshots form p).value.1 := rfl
  rw [hpost]
  obtain hmissing | hgone | ⟨id, held, _, hfind, _, hresponse⟩ :=
    Handlers.approve_response s.endpoint (s.collaborators d) d.moment p (s.run inputs).snapshots form
  · rw [hmissing]
    decide
  · rw [hgone]
    decide
  rw [hresponse]
  cases hvalue : (s.endpoint.approve (s.collaborators d) d.moment form held.snapshot
      (Handlers.resubmitted held.snapshot form) p).value with
  | ok r =>
    obtain hfound | hother := status_of_redirect (Endpoint.ofRedirect_of_approve hvalue)
    · simp [hfound]
    · simp [hother]
  | error error =>
    -- Target and grant were found when the page was shown, so they are found again.
    obtain ⟨_, _, _, _, page, _, hpage, rfl⟩ :=
      page_of_held inputs held (List.mem_of_find?_eq_some hfind)
    obtain ⟨request, _, _, _, hreceived, hscreen, _, _, rfl⟩ := Endpoint.authorize_approval hpage
    obtain rfl := Endpoint.approve_error_of_known hreceived.target
      (Endpoint.screen_ok hscreen).derived hvalue
    decide

/-! ## The endpoint over HTTP -/

/-- Tells the requests of users to the authorization endpoint, and the forms that the service takes. -/
structure IsAuthorization (s : Server) (r : HttpRequest) (p : Principal) : Prop where
  path : String.ofList r.path = "/oauth/authorize"
  user : Authentication.principal? Authentication.subjectHeader r = some p
  method : r.method = "GET" ∨ r.method = "POST" ∧ r.hasForm = true ∧ r.body.length ≤ s.bodyLimit

variable {r : HttpRequest} {state : ServerState}

theorem handle_get (h : IsAuthorization s r p) (hmethod : r.method = "GET") :
    s.handle d state r = s.get d state r.parameters p := by
  simp [handle, hmethod, readRoute, h.path, getRoute, h.user, Authentication.require]

theorem handle_post (h : IsAuthorization s r p) (hmethod : r.method = "POST") :
    s.handle d state r = s.post d state r.form p := by
  obtain hget | ⟨_, hform, hlimit⟩ := h.method
  · exact absurd (hget.symm.trans hmethod) (by decide)
  · have hfits : ¬ s.bodyLimit < r.body.length := Nat.not_lt.mpr hlimit
    simp [handle, hmethod, isPath, h.path, postRoute, h.user, Authentication.require, hform, hfits]

/-- A fault of the server is answered to requests only, and only where the client is misled. -/
theorem handle_status (inputs : List Input) (d : Draw) (h : IsAuthorization s r p) :
    (s.handle d (s.run inputs) r).1.status ∈ [200, 302, 303, 400, 401, 500] ∧
      ((s.handle d (s.run inputs) r).1.status = 500 ↔
        r.method = "GET" ∧ Endpoint.Misled s.endpoint (s.collaborators d) r.parameters) := by
  obtain hget | ⟨hpost, _, _⟩ := h.method
  · obtain ⟨hmem, hiff⟩ := get_status s d (s.run inputs) r.parameters p
    rw [handle_get h hget, hiff]
    exact ⟨hmem, (and_iff_right hget).symm⟩
  · have hmem := post_status s inputs d r.form p
    have hother : r.method ≠ "GET" := by simp [hpost]
    rw [handle_post h hpost]
    simp only [List.mem_cons, List.not_mem_nil, or_false] at hmem
    obtain hstatus | hstatus | hstatus := hmem <;> simp [hstatus, hother]

/-! ## Settings -/

variable {settings : ServiceSettings} {fits : String → Bool}

theorem redirect_of_ofSettings (hs : ofSettings settings fits = .ok s) :
    s.endpoint.redirect = settings.endpoint.redirect := by
  obtain ⟨⟨endpoint, events⟩, hbuilt, rfl⟩ := map_eq_ok.mp hs
  exact (Endpoint.follows_of_ofSettings hbuilt).redirect

theorem clients_of_ofSettings (hs : ofSettings settings fits = .ok s) :
    s.clients = .ofList (settings.clients.map fun client => (client.clientId, client)) := by
  obtain ⟨built, _, rfl⟩ := map_eq_ok.mp hs
  rfl

theorem findClient_of_ofSettings (hvalid : settings.validate fits = .ok ())
    (hs : ofSettings settings fits = .ok s) {id : String} {client : Client} :
    (s.collaborators d).findClient id = .ok (some client) ↔
      client ∈ settings.clients ∧ client.clientId = id := by
  have hnodup := (ServiceSettings.validateClients_ok
    (ServiceSettings.validateClients_of_validate hvalid)).1
  have hkeys : ((settings.clients.map fun client => (client.clientId, client)).map Prod.fst).Nodup := by
    simpa [Function.comp_def] using hnodup
  rw [collaborators, Except.ok.injEq, clients_of_ofSettings hs, TextMap.get?_ofList_iff hkeys]
  simp [and_comm]

def plainRequest (id : String) : HttpRequest :=
  ⟨"GET", "/oauth/authorize".toList, Text.Form.encode [("client_id", id)],
    [("x-authenticated-user", [109])], []⟩

theorem isAuthorization_plainRequest (s : Server) (id : String) :
    IsAuthorization s (plainRequest id) ⟨"m", "m", none⟩ :=
  ⟨rfl, by rfl, .inl rfl⟩

theorem parameters_plainRequest (id : String) :
    (plainRequest id).parameters = .ofList [("client_id", id)] := by
  rw [HttpRequest.parameters, plainRequest, Text.Form.decode_encode]

theorem misled_plainRequest (hvalid : settings.validate fits = .ok ()) (hs : ofSettings settings fits = .ok s)
    {client : Client} (hclient : client ∈ settings.clients)
    (hnowhere : RedirectUri.LeadsNowhere settings.endpoint.redirect client) :
    Endpoint.Misled s.endpoint (s.collaborators d) (plainRequest client.clientId).parameters := by
  have hid := ((ServiceSettings.validateClients_ok
    (ServiceSettings.validateClients_of_validate hvalid)).2 client hclient).1
  have hparameters := parameters_plainRequest client.clientId
  refine ⟨client.clientId, client, ⟨?_, hid⟩, (findClient_of_ofSettings hvalid hs).mpr ⟨hclient, rfl⟩, ?_,
    (redirect_of_ofSettings hs).symm ▸ hnowhere⟩
  · rw [hparameters, TextMap.ofList, List.foldl_cons, List.foldl_nil, TextMap.get?_insert, if_pos rfl]
  · rw [hparameters, Request.nonEmpty?, TextMap.ofList, List.foldl_cons, List.foldl_nil,
      TextMap.get?_insert, if_neg (by simp)]
    rfl

/-- With settings that pass, a request of a user or a form is answered with one of six statuses, in every
run. One of them is a fault of the server, just where a request names a client but no redirect URI, and
that of the client is no URL. So there are none just if no registered client is like that. -/
theorem status_of_valid (settings : ServiceSettings) (hvalid : settings.validate fits = .ok ())
    (s : Server) (hs : ofSettings settings fits = .ok s) :
    (∀ inputs d r p, IsAuthorization s r p →
      (s.handle d (s.run inputs) r).1.status ∈ [200, 302, 303, 400, 401, 500] ∧
        ((s.handle d (s.run inputs) r).1.status = 500 ↔
          r.method = "GET" ∧ Endpoint.Misled s.endpoint (s.collaborators d) r.parameters)) ∧
    ((∀ inputs d r p, IsAuthorization s r p → (s.handle d (s.run inputs) r).1.status ≠ 500) ↔
      ∀ client ∈ settings.clients, ¬ RedirectUri.LeadsNowhere settings.endpoint.redirect client) := by
  refine ⟨fun inputs d r p h => handle_status inputs d h, fun hnever client hclient hnowhere => ?_,
    fun hgood inputs d r p h hfault => ?_⟩
  · have hrequest := isAuthorization_plainRequest s client.clientId
    exact hnever [] oneDraw _ _ hrequest ((handle_status [] oneDraw hrequest).2.mpr
      ⟨rfl, misled_plainRequest hvalid hs hclient hnowhere⟩)
  · obtain ⟨_, id, client, _, hfound, _, hnowhere⟩ := (handle_status inputs d h).2.mp hfault
    rw [redirect_of_ofSettings hs] at hnowhere
    exact hgood client ((findClient_of_ofSettings hvalid hs).mp hfound).1 hnowhere

def oneUri (uri : String) : ServiceSettings where
  clients := [{ Client.ofId "foo" with
    redirectUris := .ofList [uri]
    grantTypes := .ofList ["authorization_code"] }]

def serverOf (uri : String) : Server where
  endpoint := ⟨{}, {}, .standard, Glob.isSmall⟩
  clients := .ofList [("foo", { Client.ofId "foo" with
    redirectUris := .ofList [uri]
    grantTypes := .ofList ["authorization_code"] })]
  bodyLimit := 65536
  codeMaxAge := 300

theorem status_of_valid_absolute :
    (oneUri "https://a.example/cb").validate = .ok () ∧
      ofSettings (oneUri "https://a.example/cb") = .ok (serverOf "https://a.example/cb") ∧
      IsAuthorization (serverOf "https://a.example/cb") (plainRequest "foo") ⟨"m", "m", none⟩ ∧
      ∀ inputs d r p, IsAuthorization (serverOf "https://a.example/cb") r p →
        ((serverOf "https://a.example/cb").handle d ((serverOf "https://a.example/cb").run inputs) r
          ).1.status ≠ 500 := by
  have hvalid : (oneUri "https://a.example/cb").validate = .ok () := by decide +kernel
  refine ⟨hvalid, rfl, isAuthorization_plainRequest _ _, ?_⟩
  refine (status_of_valid (oneUri "https://a.example/cb") hvalid (serverOf "https://a.example/cb")
    rfl).2.mpr ?_
  rintro client hclient ⟨_, uri, reason, honly, hread⟩
  obtain rfl := List.mem_singleton.mp hclient
  have huri : "https://a.example/cb" = uri := List.singleton_inj.mp honly
  have hparses : (Url.parse "https://a.example/cb".toList).toOption.isSome = true := by decide +kernel
  rw [huri, hread] at hparses
  cases hparses

/-- A client whose redirect URI is relative passes, and its users are answered with a fault of the
server. -/
theorem status_of_relative : (oneUri "/cb").validate = .ok () ∧
    ofSettings (oneUri "/cb") = .ok (serverOf "/cb") ∧
    IsAuthorization (serverOf "/cb") (plainRequest "foo") ⟨"m", "m", none⟩ ∧
    ((serverOf "/cb").handle oneDraw ((serverOf "/cb").run []) (plainRequest "foo")).1.status = 500 := by
  have hvalid : (oneUri "/cb").validate = .ok () := by decide +kernel
  exact ⟨hvalid, rfl, isAuthorization_plainRequest _ _, by decide +kernel⟩

end Server

end ConsentGate
