import ConsentGate.Proofs.Endpoint.Trail
import ConsentGate.Proofs.Server.Handlers

namespace ConsentGate

namespace HttpResponse

theorem isHeaderText_of_printable {s : String} (h : ∀ c ∈ s.toList, Url.isPrintable c = true) :
    isHeaderText s = true := by
  refine List.all_eq_true.mpr fun c hc => ?_
  have hprint := h c hc
  simp only [Url.isPrintable, Bool.and_eq_true, decide_eq_true_eq] at hprint
  simp only [Bool.or_eq_true, Bool.and_eq_true, decide_eq_true_eq, bne_iff_ne]
  omega

theorem ofRedirect_of_printable {r : Redirect} (h : ∀ c ∈ r.uri.toList, Url.isPrintable c = true) :
    ofRedirect r = ⟨r.status.code, some r.uri, none⟩ := by
  rw [ofRedirect, if_pos (isHeaderText_of_printable h)]

@[simp] theorem location_ofAuthError (error : AuthError) : (ofAuthError error).location = none := rfl

@[simp] theorem location_ofApprovalPage (page : ApprovalPage) :
    (ofApprovalPage page).location = none := rfl

theorem ofAuthError_ne_ofApprovalPage (error : AuthError) (page : ApprovalPage) :
    ofAuthError error ≠ ofApprovalPage page := by
  intro h
  have hstatus : error.kind.httpStatus = 200 := congrArg status h
  unfold ErrorKind.httpStatus at hstatus
  split at hstatus <;> cases hstatus

end HttpResponse

namespace Redirect

variable {target : Url} {r : Redirect}

/-- The redirects that are made for a URL: with what was issued, or with an error. -/
inductive Made (target : Url) : Redirect → Prop
  | success (status : RedirectStatus) (now : Timestamp) (request : Request) (issued : Issued)
      (session : Option String) : Made target (.success status now target request issued session)
  | failure (status : RedirectStatus) (grant : GrantType) (error : AuthError)
      (state : Option String) : Made target (.failure status target grant error state)

theorem Made.isPrintable (ht : target.WellFormed) (h : Made target r) :
    ∀ c ∈ r.uri.toList, Url.isPrintable c = true := by
  intro c hc
  cases h with
  | success status now request issued session => exact isPrintable_success ht status issued hc
  | failure status grant error state => exact isPrintable_failure ht status grant error state hc

/-- A redirect is sent as it is: its bytes are printable ASCII, so that no fault takes its place. -/
structure Sent (r : Redirect) : Prop where
  bytes : ∀ b ∈ Text.Utf8.encode r.uri.toList, 0x20 ≤ b.toNat ∧ b.toNat ≤ 0x7E
  text : HttpResponse.isHeaderText r.uri = true
  response : HttpResponse.ofRedirect r = ⟨r.status.code, some r.uri, none⟩
  status : r.status.code = 302 ∨ r.status.code = 303

theorem status_code (status : RedirectStatus) : status.code = 302 ∨ status.code = 303 := by
  cases status with
  | found => exact .inl rfl
  | seeOther => exact .inr rfl

theorem sent_of_printable (h : ∀ c ∈ r.uri.toList, Url.isPrintable c = true) : r.Sent where
  bytes b hb := by
    simp only [Url.isPrintable, Bool.and_eq_true, decide_eq_true_eq] at h
    have hascii : ∀ c ∈ r.uri.toList, c.toNat < 128 := fun c hc => by
      have hrange := h c hc
      omega
    obtain ⟨c, hc, heq⟩ := Text.Utf8.mem_encode_ascii hascii hb
    exact heq ▸ h c hc
  text := HttpResponse.isHeaderText_of_printable h
  response := HttpResponse.ofRedirect_of_printable h
  status := status_code r.status

end Redirect

namespace Endpoint

variable {e : Endpoint} {c : Collaborators} {m : Moment} {p : Principal} {r : Redirect}

/-- A redirect of the endpoint is made for the URL at which it answers. -/
theorem made_of_outcome (step : Step) (h : (step.outcome e c m p).value = .ok (.redirect r)) :
    ∃ text target, Url.parse text = .ok target ∧ Redirect.Made target r := by
  obtain ⟨kinds, htrail, -⟩ := trail_outcome h
  cases htrail with
  | code _ answers | token _ answers =>
    obtain ⟨text, hparse⟩ := answers.answeredAt.parsed
    exact ⟨text, _, hparse, .success _ _ _ _ _⟩
  | denied answered | rejected _ answered _ =>
    obtain ⟨text, hparse⟩ := answered.parsed
    exact ⟨text, _, hparse, .failure _ _ _ _⟩

theorem ofRedirect_of_outcome (step : Step) (h : (step.outcome e c m p).value = .ok (.redirect r)) :
    HttpResponse.ofRedirect r = ⟨r.status.code, some r.uri, none⟩ := by
  obtain ⟨text, target, hparse, hmade⟩ := made_of_outcome step h
  exact HttpResponse.ofRedirect_of_printable (hmade.isPrintable (Url.wellFormed_of_parse hparse))

theorem ofRedirect_of_approve {form : TextMap String} {kept : Snapshot} {resubmitted : Request}
    (h : (e.approve c m form kept resubmitted p).value = .ok r) :
    HttpResponse.ofRedirect r = ⟨r.status.code, some r.uri, none⟩ := by
  have houtcome : ((Step.decision form kept resubmitted).outcome e c m p).value = .ok (.redirect r) := by
    simp [Step.outcome, h, Except.map]
  exact ofRedirect_of_outcome _ houtcome

end Endpoint

/-- Whatever is issued or reported, and whatever the texts that go with it, the redirect that is made for a
URL consists of printable ASCII, and it is sent as the location of a response with status 302 or 303. All
redirects of the endpoint are made like that, so that none is turned into a fault of the server. -/
theorem Redirect.sent_of_made :
    (∀ text target r, Url.parse text = .ok target → Made target r → r.Sent) ∧
    ∀ e c m p (step : Endpoint.Step) r, (step.outcome e c m p).value = .ok (.redirect r) →
      ∃ text target, Url.parse text = .ok target ∧ Made target r ∧ r.Sent := by
  have hsent : ∀ text target r, Url.parse text = .ok target → Made target r → r.Sent :=
    fun text target r hparse hmade =>
      sent_of_printable (hmade.isPrintable (Url.wellFormed_of_parse hparse))
  refine ⟨hsent, fun e c m p step r h => ?_⟩
  obtain ⟨text, target, hparse, hmade⟩ := Endpoint.made_of_outcome step h
  exact ⟨text, target, hparse, hmade, hsent text target r hparse hmade⟩

def foreignTarget : Url :=
  ⟨"app".toList, some ⟨"%C3%BC".toList, none, some (.name "b%C3%BCcher".toList), none⟩,
    .segments ["%C3%A4%20%C3%B6".toList], some "%C3%BC".toList, some "%C3%9F".toList⟩

def foreignRefusal : Redirect :=
  .failure .seeOther foreignTarget .authorizationCode ⟨.accessDenied, "nö\n€"⟩ (some "\x01é")

open Endpoint in
theorem Redirect.sent_of_made_foreign :
    Url.parse "app://ü@bücher/ä ö?ü#ß".toList = .ok foreignTarget ∧
      Made foreignTarget foreignRefusal ∧ foreignRefusal.Sent ∧
      typeless.value = .ok (.redirect trimmed) ∧ trimmed.Sent := by
  have hparse : Url.parse "app://ü@bücher/ä ö?ü#ß".toList = .ok foreignTarget := by rfl
  have hmade : Made foreignTarget foreignRefusal := .failure _ _ _ _
  have hvalue : typeless.value = .ok (.redirect trimmed) := eq_redirect (by decide +kernel)
  obtain ⟨hsent, hendpoint⟩ := sent_of_made
  obtain ⟨_, _, _, _, htrimmed⟩ := hendpoint standard opaqueOnly _ _
    (.request (.ofList [("client_id", "foo")])) trimmed hvalue
  exact ⟨hparse, hmade, hsent _ _ _ hparse hmade, hvalue, htrimmed⟩

namespace Handlers

variable {e : Endpoint} {c : Collaborators} {m : Moment} {store : SnapshotStore} {p : Principal}
  {parameters form : TextMap String} {uri : String}

theorem response_of_error {error : AuthError} (h : (e.authorize c m parameters p).value = .error error) :
    (authorize e c m store parameters p).value.1 = .ofAuthError error := by
  rw [authorize, Traced.value_bind, h]
  rfl

theorem response_of_ok {outcome : Outcome} (h : (e.authorize c m parameters p).value = .ok outcome) :
    (authorize e c m store parameters p).value.1 = .ofOutcome outcome := by
  rw [authorize, Traced.value_bind, h]
  cases outcome <;> rfl

theorem approve_response (e : Endpoint) (c : Collaborators) (m : Moment) (p : Principal)
    (store : SnapshotStore) (form : TextMap String) :
    (approve e c m store form p).value.1 = .ofAuthError .missingSnapshotId ∨
      (approve e c m store form p).value.1 = .ofAuthError .snapshotGone ∨
      ∃ id h, snapshotId? form = some id ∧ store.find? id = some h ∧ h.owner = p.subjectId ∧
        (approve e c m store form p).value.1 =
          match (e.approve c m form h.snapshot (resubmitted h.snapshot form) p).value with
          | .error error => .ofAuthError error
          | .ok r => .ofRedirect r := by
  cases hid : snapshotId? form with
  | none => exact .inl (by simp [approve, hid])
  | some id =>
    refine .inr ?_
    obtain ⟨⟨_, kept⟩, hfind, rfl, _⟩ | ⟨htake, _⟩ := SnapshotStore.take_cases store p.subjectId id
    · rw [approve_of_held hid hfind]
      exact .inr ⟨id, _, rfl, hfind, rfl, rfl⟩
    · exact .inl (by simp [approve, hid, htake])

theorem redirect_of_location (h : (authorize e c m store parameters p).value.1.location = some uri) :
    ∃ r, (e.authorize c m parameters p).value = .ok (.redirect r) ∧ r.uri = uri := by
  cases hvalue : (e.authorize c m parameters p).value with
  | error error => simp [response_of_error hvalue] at h
  | ok outcome =>
    rw [response_of_ok hvalue] at h
    cases outcome with
    | approval page => simp [HttpResponse.ofOutcome] at h
    | redirect r =>
      have hsent := Endpoint.ofRedirect_of_outcome (.request parameters) hvalue
      simp only [HttpResponse.ofOutcome, hsent, Option.some.injEq] at h
      exact ⟨r, rfl, h⟩

theorem redirect_of_location_approve
    (h : (approve e c m store form p).value.1.location = some uri) :
    ∃ id held r, snapshotId? form = some id ∧ store.find? id = some held ∧
      (e.approve c m form held.snapshot (resubmitted held.snapshot form) p).value = .ok r ∧
      r.uri = uri := by
  obtain hresponse | hresponse | ⟨id, held, hid, hfind, _, hresponse⟩ :=
    approve_response e c m p store form
  · simp [hresponse] at h
  · simp [hresponse] at h
  · cases hvalue : (e.approve c m form held.snapshot (resubmitted held.snapshot form) p).value with
    | error error => simp [hresponse, hvalue] at h
    | ok r =>
      simp only [hresponse, hvalue, Endpoint.ofRedirect_of_approve hvalue, Option.some.injEq] at h
      exact ⟨id, held, r, hid, hfind, hvalue, h⟩

end Handlers

end ConsentGate
