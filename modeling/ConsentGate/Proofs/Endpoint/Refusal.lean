import ConsentGate.Proofs.Endpoint.Trail

namespace ConsentGate

namespace Endpoint

variable {e : Endpoint} {c : Collaborators} {m : Moment} {p : Principal} {parameters : TextMap String}
  {error : AuthError} {id id' : String}

/-- The reasons for a refusal that no event tells of. -/
inductive Unheard (e : Endpoint) (c : Collaborators) (parameters : TextMap String) : Prop
  | unavailable {id : String} {error : AuthError} (named : Names parameters id)
      (failed : c.findClient id = .error error)
  | unusable {uri : String} {reason : UrlError} (resolved : Resolved e c parameters (.ok uri))
      (unread : Url.parse uri.toList = .error reason)

@[simp] theorem events_reject {α : Type} (clientId : String) (error : AuthError) :
    (reject m clientId p error : Traced (Except AuthError α)).events =
      reports m clientId p [.requestRejected error.code] := rfl

@[simp] theorem events_client (id : String) : (c.client id).events = [] := rfl

@[simp] theorem value_client (id : String) : (c.client id).value = c.findClient id := rfl

theorem Names.unique (h : Names parameters id) (h' : Names parameters id') : id = id' :=
  Option.some.inj (h.1.symm.trans h'.1)

theorem Names.clientId (h : Names parameters id) : (Step.request parameters).clientId = id := by
  simp [Step.clientId, h.1]

theorem Resolved.unique {answer answer' : Except AuthError String} (h : Resolved e c parameters answer)
    (h' : Resolved e c parameters answer') : answer = answer' := by
  obtain ⟨id, client, named, found, rfl⟩ := h
  obtain ⟨id', client', named', found', rfl⟩ := h'
  obtain rfl := named.unique named'
  obtain rfl := Option.some.inj (Except.ok.inj (found.symm.trans found'))
  rfl

theorem Unheard.not_unresolved (h : Unheard e c parameters) :
    ¬ Resolved e c parameters (.error error) := by
  intro failed
  cases h with
  | unavailable named missing =>
    obtain ⟨id, client, named', found, _⟩ := failed
    rw [named.unique named', found] at missing
    cases missing
  | unusable resolved unread => cases resolved.unique failed

theorem events_of_unheard (h : Unheard e c parameters) :
    (e.authorize c m parameters p).events = [] := by
  unfold authorize
  cases h with
  | unavailable named failed =>
    obtain ⟨asked, hread, rfl, _⟩ := ofParameters_of_names named
    simp [hread, failed]
  | unusable resolved unread =>
    obtain ⟨id, client, named, found, hresolve⟩ := resolved
    obtain ⟨asked, hread, rfl, hrequested⟩ := ofParameters_of_names named
    simp [hread, found, hrequested, hresolve, target_eq, unread]

theorem events_of_refused (h : Refused e c parameters error) (heard : ¬ Unheard e c parameters) :
    (e.authorize c m parameters p).events =
      reports m (Step.request parameters).clientId p [.requestRejected error.code] := by
  unfold authorize
  cases h with
  | unnamed missing =>
    cases hread : Request.ofParameters parameters with
    | error error => rw [(ofParameters_eq_error hread).1]; rfl
    | ok asked => exact absurd (ofParameters_eq_ok hread).1 (missing _)
  | unavailable named failed => exact absurd (.unavailable named failed) heard
  | unknown named absent =>
    rw [named.clientId]
    obtain ⟨asked, hread, rfl, _⟩ := ofParameters_of_names named
    simp [hread, absent]
  | unresolved failed =>
    obtain ⟨id, client, named, found, hresolve⟩ := failed
    rw [named.clientId]
    obtain ⟨asked, hread, rfl, hrequested⟩ := ofParameters_of_names named
    simp [hread, found, hrequested, hresolve]
  | unusable resolved unread => exact absurd (.unusable resolved unread) heard

/-- A refusal has one event, which tells of it and of nothing else, unless the client could not be looked
up or its redirect URI is no URL. Then it has none. -/
theorem refusal_announced (e : Endpoint) (c : Collaborators) (m : Moment) (p : Principal)
    (parameters : TextMap String) (error : AuthError)
    (h : (e.authorize c m parameters p).value = .error error) :
    (Unheard e c parameters → (e.authorize c m parameters p).events = []) ∧
    (¬ Unheard e c parameters → (e.authorize c m parameters p).events =
      reports m (Step.request parameters).clientId p [.requestRejected error.code]) :=
  ⟨events_of_unheard, events_of_refused (authorize_error_iff.mp h)⟩

def relative : Collaborators where
  findClient := fun _ => .ok (some { Client.ofId "foo" with
    redirectUris := .ofList ["/cb"]
    grantTypes := .ofList ["authorization_code"] })
  sessionState := fun _ _ _ => .ok "s"
  issueCode := fun _ _ => .ok "c"
  issueToken := fun _ _ => .error .notIssued

def unreachable : Collaborators :=
  { relative with findClient := fun _ => .error ⟨.storage, "down"⟩ }

def noon : Moment := ⟨⟨2024, 1, 1, 12, 0, 0, 0, 0⟩, .ofNat 1⟩

def asksCode : TextMap String :=
  .ofList [("client_id", "foo"), ("response_type", "code")]

def elsewhere : TextMap String :=
  asksCode.insert "redirect_uri" "https://b.example/cb"

theorem refusal_announced_elsewhere :
    let answer := standard.authorize relative noon elsewhere ⟨"marissa", "marissa", none⟩
    answer.value = .error .redirectMismatch ∧ ¬ Unheard standard relative elsewhere ∧
      answer.events = reports noon "foo" ⟨"marissa", "marissa", none⟩
        [.requestRejected .redirectMismatch] := by
  intro answer
  have hresolved : Resolved standard relative elsewhere (.error .redirectMismatch) :=
    ⟨"foo", _, ⟨by decide +kernel, by decide⟩, rfl, by decide +kernel⟩
  have hvalue : answer.value = .error .redirectMismatch :=
    authorize_error_iff.mpr (.unresolved hresolved)
  have heard : ¬ Unheard standard relative elsewhere := fun h => h.not_unresolved hresolved
  exact ⟨hvalue, heard, (refusal_announced standard relative noon ⟨"marissa", "marissa", none⟩ elsewhere
    .redirectMismatch hvalue).2 heard⟩

/-- No event tells of a client that could not be looked up, nor of a redirect URI that is no URL. -/
theorem unheard_refusals :
    (standard.authorize unreachable noon asksCode ⟨"marissa", "marissa", none⟩).value =
        .error ⟨.storage, "down"⟩ ∧
      (standard.authorize unreachable noon asksCode ⟨"marissa", "marissa", none⟩).events = [] ∧
      (standard.authorize relative noon asksCode ⟨"marissa", "marissa", none⟩).value =
        .error (.unusableRedirect "relative URL without a base") ∧
      (standard.authorize relative noon asksCode ⟨"marissa", "marissa", none⟩).events = [] := by
  have hnamed : Names asksCode "foo" := ⟨by decide +kernel, by decide⟩
  have hresolved : Resolved standard relative asksCode (.ok "/cb") :=
    ⟨"foo", _, hnamed, rfl, by decide +kernel⟩
  have hunread : Url.parse "/cb".toList = .error .noScheme := by decide +kernel
  exact ⟨authorize_error_iff.mpr (.unavailable hnamed rfl), events_of_unheard (.unavailable hnamed rfl),
    authorize_error_iff.mpr (.unusable hresolved hunread), events_of_unheard (.unusable hresolved hunread)⟩

end Endpoint

end ConsentGate
