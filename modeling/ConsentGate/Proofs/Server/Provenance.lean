import ConsentGate.Proofs.Server.Run

namespace ConsentGate.Server

/-- Tells that input `i` is an authorization request by a subject, that it spells `asked` apart from the
redirect URI, and that the client it names may be redirected to `uri` and ask for all its scopes. -/
structure Asked (s : Server) (inputs : List Input) (i : Nat) (d : Draw) (subjectId : String)
    (asked : Request) (client : Client) (uri : String) : Prop where
  input : ∃ parameters p, inputs[i]? = some (.get d parameters p) ∧ p.subjectId = subjectId ∧
    Request.ofParameters parameters = .ok asked
  known : s.clients.get? asked.clientId = some client
  resolved : RedirectUri.resolve s.endpoint.redirect client asked.redirectUri = .ok uri
  allowed : ∀ x ∈ asked.scope, client.allowsScope x = true

/-- Tells that input `j` is the form with which a subject grants a part of the requested scope on the
page of a snapshot: the scopes that the form names, or all of them if it names none. -/
structure Granted (s : Server) (inputs : List Input) (j : Nat) (id : Uuid) (subjectId : String)
    (requested granted : TextSet) (form : TextMap String) : Prop where
  input : ∃ d p, inputs[j]? = some (.post d form p) ∧ p.subjectId = subjectId
  named : Handlers.snapshotId? form = some id
  approved : s.endpoint.isApproved form = true
  scope : (s.endpoint.namedScopes form).isEmpty = true ∧ granted = requested ∨
    (s.endpoint.namedScopes form).isEmpty = false ∧ granted = s.endpoint.namedScopes form ∧
      ∀ x ∈ granted, x ∈ requested

/-- Tells that a record stands for an authorization request of its subject, with scopes that were asked
for and are allowed to the client. Either the client needs no question for any of the scopes, and all
are granted, or the subject granted them later, on the page of that very request. -/
def Traceable (s : Server) (inputs : List Input) (issued : IssuedCode) : Prop :=
  ∃ i d asked client uri, Asked s inputs i d issued.subjectId asked client uri ∧
    issued.request = { asked with
      redirectUri := some uri, scope := issued.request.scope, approved := true } ∧
    (∀ x ∈ issued.request.scope, x ∈ asked.scope ∧ client.allowsScope x = true) ∧
    (client.autoApproves asked.scope.toList s.endpoint.fits = true ∧ issued.request.scope = asked.scope ∨
      ∃ j form, i < j ∧ Granted s inputs j d.moment.snapshotId issued.subjectId asked.scope
        issued.request.scope form)

/-- What every run keeps: held snapshots and kept codes have their origin in the run. -/
structure Origins (s : Server) (inputs : List Input) (state : ServerState) : Prop where
  snapshots : ∀ h ∈ state.snapshots.held, ∃ i d asked client uri, i < inputs.length ∧
    Asked s inputs i d h.owner asked client uri ∧ h.snapshot.id = d.moment.snapshotId ∧
    h.snapshot.request = { asked with redirectUri := some uri }
  codes : ∀ x ∈ state.codes.entries, Traceable s inputs x.2

variable {s : Server} {inputs : List Input}

theorem Asked.append {i : Nat} {d : Draw} {subjectId : String} {asked : Request} {client : Client}
    {uri : String} (h : Asked s inputs i d subjectId asked client uri) (last : Input) :
    Asked s (inputs ++ [last]) i d subjectId asked client uri := by
  obtain ⟨parameters, p, hi, hrest⟩ := h.input
  exact ⟨⟨parameters, p, getElem?_append_of_some hi, hrest⟩, h.known, h.resolved, h.allowed⟩

theorem Granted.append {j : Nat} {id : Uuid} {subjectId : String} {requested granted : TextSet}
    {form : TextMap String} (h : Granted s inputs j id subjectId requested granted form)
    (last : Input) : Granted s (inputs ++ [last]) j id subjectId requested granted form := by
  obtain ⟨d, p, hj, hp⟩ := h.input
  exact ⟨⟨d, p, getElem?_append_of_some hj, hp⟩, h.named, h.approved, h.scope⟩

theorem Traceable.append {issued : IssuedCode} (h : Traceable s inputs issued) (last : Input) :
    Traceable s (inputs ++ [last]) issued := by
  obtain ⟨i, d, asked, client, uri, hasked, hrequest, hall, hscope⟩ := h
  refine ⟨i, d, asked, client, uri, hasked.append last, hrequest, hall, ?_⟩
  exact hscope.imp_right fun ⟨j, form, hij, hgranted⟩ => ⟨j, form, hij, hgranted.append last⟩

theorem asked_of_received (inputs : List Input) {d : Draw} {parameters : TextMap String} {p : Principal}
    {request : Request} {client : Client} {target : Url} {grant : GrantType}
    (hreceived : Endpoint.Received s.endpoint (s.collaborators d) parameters request client target)
    (hscreen : s.endpoint.screen request client = .ok grant) :
    ∃ asked uri, Asked s (inputs ++ [.get d parameters p]) inputs.length d p.subjectId asked
      client uri ∧ request = { asked with redirectUri := some uri } := by
  obtain ⟨asked, uri, hread, hresolved, rfl⟩ := hreceived.read
  have hknown : s.clients.get? asked.clientId = some client := by
    simpa [collaborators] using hreceived.known
  exact ⟨asked, uri, ⟨⟨parameters, p, by simp, rfl, hread⟩, hknown, hresolved,
    (Endpoint.screen_ok hscreen).scopes⟩, rfl⟩

theorem Origins.snapshots_advance {state : ServerState} (h : Origins s inputs state)
    (input : Input) : ∀ x ∈ (s.advance state input).snapshots.held, ∃ i d asked client uri,
      i < (inputs ++ [input]).length ∧ Asked s (inputs ++ [input]) i d x.owner asked client uri ∧
      x.snapshot.id = d.moment.snapshotId ∧
      x.snapshot.request = { asked with redirectUri := some uri } := by
  intro x hx
  obtain hx | ⟨d, parameters, p, page, rfl, hpage, rfl⟩ := mem_held_advance hx
  · obtain ⟨i, d, asked, client, uri, hi, hasked, hsnapshot⟩ := h.snapshots x hx
    exact ⟨i, d, asked, client, uri, by simp; omega, hasked.append input, hsnapshot⟩
  · obtain ⟨request, client, target, grant, hreceived, hscreen, _, _, rfl⟩ :=
      Endpoint.authorize_approval hpage
    obtain ⟨asked, uri, hasked, hrequest⟩ :=
      asked_of_received (p := p) inputs hreceived hscreen
    exact ⟨inputs.length, d, asked, client, uri, by simp, hasked, rfl, hrequest⟩

theorem traceable_of_authorize {d : Draw} {parameters : TextMap String} {p q : Principal}
    {request : Request} {answer : Except AuthError String} {now : Timestamp}
    (h : .code request q answer ∈
      (s.endpoint.authorize (s.collaborators d) d.moment parameters p).calls) :
    Traceable s (inputs ++ [.get d parameters p]) ⟨request, q.subjectId, now⟩ := by
  obtain ⟨received, client, target, grant, hreceived, hscreen, hauto, rfl, rfl⟩ :=
    Endpoint.code_mem_authorize h
  obtain ⟨asked, uri, hasked, rfl⟩ :=
    asked_of_received (p := q) inputs hreceived hscreen
  exact ⟨inputs.length, d, asked, client, uri, hasked, rfl, fun x hx => ⟨hx, hasked.allowed x hx⟩,
    .inl ⟨hauto, rfl⟩⟩

theorem Origins.traceable_of_approve {state : ServerState} (h : Origins s inputs state) {d : Draw}
    {form : TextMap String} {p q : Principal} {id : Uuid} {x : HeldSnapshot} {request : Request}
    {resubmitted : Request} {answer : Except AuthError String} {now : Timestamp}
    (hid : Handlers.snapshotId? form = some id) (hfind : state.snapshots.find? id = some x)
    (howner : x.owner = p.subjectId)
    (hcall : .code request q answer ∈ (s.endpoint.approve (s.collaborators d) d.moment form
      x.snapshot resubmitted p).calls) :
    Traceable s (inputs ++ [.post d form p]) ⟨request, q.subjectId, now⟩ := by
  obtain ⟨scope, happroved, hscope, rfl, rfl⟩ := Endpoint.code_mem_approve hcall
  obtain ⟨hx, hxid⟩ := SnapshotStore.find?_spec hfind
  -- The snapshot was held before this form came, so its request stands earlier in the run.
  obtain ⟨i, d', asked, client, uri, hi, hasked, hsame, hkept⟩ := h.snapshots x hx
  rw [howner] at hasked
  rw [hkept] at hscope
  have hgranted : (s.endpoint.namedScopes form).isEmpty = true ∧ scope = asked.scope ∨
      (s.endpoint.namedScopes form).isEmpty = false ∧ scope = s.endpoint.namedScopes form ∧
        ∀ x ∈ scope, x ∈ asked.scope := by
    obtain ⟨hempty, rfl⟩ | ⟨hnamed, rfl, hall⟩ := Endpoint.grantedScope_ok hscope
    · exact .inl ⟨hempty, rfl⟩
    · exact .inr ⟨hnamed, rfl, hall⟩
  have hsub : ∀ x ∈ scope, x ∈ asked.scope := by
    obtain ⟨_, rfl⟩ | ⟨_, _, hall⟩ := hgranted
    · exact fun _ hx => hx
    · exact hall
  refine ⟨i, d', asked, client, uri, hasked.append _, by rw [hkept],
    fun x hx => ⟨hsub x hx, hasked.allowed x (hsub x hx)⟩, .inr ?_⟩
  refine ⟨inputs.length, form, hi, ⟨⟨d, q, by simp, rfl⟩, ?_, happroved, hgranted⟩⟩
  rw [hid, ← hxid, hsame]

theorem Origins.advance {state : ServerState} (h : Origins s inputs state) (input : Input) :
    Origins s (inputs ++ [input]) (s.advance state input) where
  snapshots := h.snapshots_advance input
  codes := by
    intro x hx
    obtain hx | ⟨d, parameters, p, request, q, rfl, hcall, heq⟩ |
      ⟨d, form, p, id, held, request, q, rfl, hid, hfind, howner, hcall, heq⟩ := mem_codes_advance hx
    · exact (h.codes x hx).append input
    · rw [heq]
      exact traceable_of_authorize hcall
    · rw [heq]
      exact h.traceable_of_approve hid hfind howner hcall

theorem origins_run (inputs : List Input) : Origins s inputs (s.run inputs) :=
  run_invariant ⟨by simp [initial, SnapshotStore.empty], by simp [initial, CodeStore.empty,
    CodeStore.entries, TextMap.empty, TextMap.toList]⟩
    (fun _ _ input h => h.advance input) inputs

/-- Every code in the store of a running service is approved and goes back to one authorization request
of its subject: client, state, response types and all parameters are those of that request, and the
redirect URI is the one that was resolved for it. -/
theorem code_provenance (s : Server) (inputs : List Input) (code : String) (issued : IssuedCode)
    (h : (code, issued) ∈ (s.run inputs).codes.entries) :
    issued.request.approved = true ∧ Traceable s inputs issued := by
  have ht := (origins_run inputs).codes _ h
  refine ⟨?_, ht⟩
  obtain ⟨_, _, _, _, _, _, hrequest, _⟩ := ht
  rw [hrequest]

theorem code_provenance_oneApproval : ∃ code issued,
    (code, issued) ∈ (oneClient.run oneApproval).codes.entries ∧
      issued.request.approved = true ∧ Traceable oneClient oneApproval issued := by
  have hlength : 0 < (oneClient.run oneApproval).codes.entries.length := by decide +kernel
  obtain ⟨⟨code, issued⟩, hm⟩ := List.exists_mem_of_length_pos hlength
  exact ⟨code, issued, hm, code_provenance oneClient oneApproval code issued hm⟩

end ConsentGate.Server
