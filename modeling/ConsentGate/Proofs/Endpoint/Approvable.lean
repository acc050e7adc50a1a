import ConsentGate.Proofs.Endpoint.Placement
import ConsentGate.Proofs.Endpoint.Resubmission
import ConsentGate.Proofs.Wire.Snapshot

namespace ConsentGate

def Outcome.page? : Outcome → Option ApprovalPage
  | .redirect _ => none
  | .approval page => some page

namespace Endpoint

variable {e : Endpoint} {c : Collaborators} {m : Moment} {p : Principal} {parameters : TextMap String}
  {page : ApprovalPage} {kept : Snapshot} {target : Url} {grant : GrantType}

theorem fresh_of_ofParameters {asked : Request} (h : Request.ofParameters parameters = .ok asked) :
    asked.approved = false ∧ asked.extensions = .empty := by
  unfold Request.ofParameters at h
  split at h
  · cases h
  · obtain rfl := Except.ok.inj h
    exact ⟨rfl, rfl⟩

theorem Received.fresh {request : Request} {client : Client}
    (h : Received e c parameters request client target) :
    request.approved = false ∧ request.extensions = .empty := by
  obtain ⟨⟨asked, uri, hread, _, rfl⟩, _, _⟩ := h
  have hfresh := fresh_of_ofParameters hread
  exact hfresh

theorem settled_of_empty {request : Request} (h : request.extensions = .empty) :
    Wire.Settled request := by
  constructor
  · rw [h]
    exact fun _ he => absurd he List.not_mem_nil
  · rw [h]
    trivial

theorem read_page (h : page.snapshot.request.extensions = .empty)
    (hnow : page.snapshot.frozenAt.IsDate) :
    (Json.read? (Wire.ofSnapshot page.snapshot).render).bind Wire.snapshot? = some page.snapshot := by
  refine Wire.read_ofSnapshot (settled_of_empty h) hnow ?_
  rw [h]
  decide

theorem approve_leads {form : TextMap String} {resubmitted : Request}
    (hsame : Request.checkUnmodified kept resubmitted = .ok ())
    (htarget : Redirect.target kept.request = .ok target)
    (hgrant : GrantType.ofResponseTypes kept.request.responseTypes = .ok grant) :
    ∃ r, (e.approve c m form kept resubmitted p).value = .ok r ∧ r.LeadsTo target := by
  refine ⟨(e.decide c m form target grant kept.request p).value, ?_,
    leadsTo_decide (wellFormed_of_target htarget) form grant kept.request⟩
  simp [approve, hsame, htarget, hgrant]

/-- What is known of a request when the user is asked about it. -/
structure Asked (e : Endpoint) (c : Collaborators) (request : Request) (target : Url) : Prop where
  fresh : request.approved = false
  client : ∃ client grant, c.findClient request.clientId = .ok (some client) ∧
    Screened e request client grant
  place : ∃ uri, request.redirectUri = some uri ∧ Url.parse uri.toList = .ok target

theorem Received.place {request : Request} {client : Client}
    (h : Received e c parameters request client target) :
    ∃ uri, request.redirectUri = some uri ∧ Url.parse uri.toList = .ok target :=
  target_eq_ok h.target

/-- When the user is asked, the request is not approved yet, its client may use the grant that it asks
for and all of its scopes, and its challenge is in order. Its snapshot can be written and read again, and
whatever the user then decides is answered by a redirect to its redirect URI, if the request comes back
unmodified. -/
theorem page_answerable (e : Endpoint) (c : Collaborators) (m : Moment) (p : Principal)
    (parameters : TextMap String) (page : ApprovalPage)
    (h : (e.authorize c m parameters p).value = .ok (.approval page)) :
    (m.now.IsReading → (Json.read? (Wire.ofSnapshot page.snapshot).render).bind Wire.snapshot? =
      some page.snapshot) ∧
    ∃ target, Asked e c page.snapshot.request target ∧
      ∀ kept : Snapshot, kept.request = page.snapshot.request →
        Request.checkUnmodified kept page.snapshot.request = .ok () ∧
        ∀ c' m' p' form resubmitted, Request.checkUnmodified kept resubmitted = .ok () →
          ∃ r, (e.approve c' m' form kept resubmitted p').value = .ok r ∧ r.LeadsTo target := by
  obtain ⟨request, client, target, grant, hreceived, hscreen, _, _, rfl⟩ := authorize_approval h
  have hscreened := screen_ok hscreen
  obtain ⟨hfresh, hempty⟩ := hreceived.fresh
  refine ⟨fun hnow => read_page hempty hnow.isDate, target,
    ⟨hfresh, ⟨client, grant, hreceived.known, hscreened⟩, hreceived.place⟩, ?_⟩
  rintro ⟨id, frozenAt, _⟩ rfl
  exact ⟨Request.checkUnmodified_iff.mpr ⟨_, _, rfl⟩, fun c' m' p' form resubmitted hsame =>
    approve_leads hsame hreceived.target hscreened.derived⟩

def asking : Traced (Except AuthError Outcome) :=
  standard.authorize implicitOnly ⟨⟨2024, 1, 1, 0, 0, 0, 0, 0⟩, .ofNat 1⟩
    (.ofList [("client_id", "foo"), ("response_type", "code token"), ("scope", "write"),
      ("state", "\"é\\\n\x01")]) ⟨"marissa", "marissa", none⟩

theorem eq_approval {answer : Except AuthError Outcome} {page : ApprovalPage}
    (h : answer.toOption.bind Outcome.page? = some page) : answer = .ok (.approval page) := by
  cases answer with
  | error error => cases h
  | ok outcome =>
    cases outcome with
    | redirect r => cases h
    | approval page' => rw [Option.some.inj h]

def askingPage : ApprovalPage :=
  (asking.value.toOption.bind Outcome.page?).get (by decide +kernel)

theorem page_answerable_asking : asking.value = .ok (.approval askingPage) ∧
    (Json.read? (Wire.ofSnapshot askingPage.snapshot).render).bind Wire.snapshot? =
      some askingPage.snapshot ∧
    ∃ target, Asked standard implicitOnly askingPage.snapshot.request target ∧
      ∃ r, (standard.approve oneCode ⟨⟨2024, 1, 1, 0, 5, 0, 0, 0⟩, .ofNat 2⟩ .empty
        askingPage.snapshot askingPage.snapshot.request ⟨"koala", "koala", none⟩).value = .ok r ∧
        r.LeadsTo target := by
  have hpage : asking.value = .ok (.approval askingPage) := eq_approval (Option.some_get _).symm
  obtain ⟨hread, target, hasked, hanswer⟩ := page_answerable standard implicitOnly
    ⟨⟨2024, 1, 1, 0, 0, 0, 0, 0⟩, .ofNat 1⟩ ⟨"marissa", "marissa", none⟩ _ askingPage hpage
  obtain ⟨hsame, hgoes⟩ := hanswer askingPage.snapshot rfl
  refine ⟨hpage, hread ?_, target, hasked, hgoes _ _ _ _ _ hsame⟩
  exact ⟨by decide, by decide, by decide, by decide, by decide, by decide, by decide, rfl⟩

end Endpoint

end ConsentGate
