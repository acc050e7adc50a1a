import ConsentGate.Proofs.Endpoint.Approvable
import ConsentGate.Proofs.ParameterList
import ConsentGate.Proofs.Server.Handlers

namespace ConsentGate

open ParameterList

/-! ## Requests whose fields can be repeated -/

namespace Request

/-- A request whose fields differ in what a form can say of them: none of its texts is empty, and the
members of its sets are items of a list. -/
structure Legible (r : Request) : Prop where
  redirectUri : ∃ uri, r.redirectUri = some uri ∧ uri ≠ ""
  state : ∀ s, r.state = some s → s ≠ ""
  scope : ∀ x ∈ r.scope, IsItem x
  responseTypes : ∀ x ∈ r.responseTypes, IsItem x

variable {parameters : TextMap String}

theorem isItem_of_mem_items {name x : String} (h : x ∈ items parameters name) : IsItem x := by
  unfold items at h
  split at h
  · exact isItem_of_mem_parse h
  · exact absurd h (TextSet.mem_empty x)

theorem fields_of_ofParameters {r : Request} (h : ofParameters parameters = .ok r) :
    r.state = nonEmpty? parameters "state" ∧ r.scope = items parameters "scope" ∧
      r.responseTypes = items parameters "response_type" := by
  unfold ofParameters at h
  split at h
  · cases h
  · obtain rfl := Except.ok.inj h
    exact ⟨rfl, rfl, rfl⟩

end Request

theorem Endpoint.Received.legible {e : Endpoint} {c : Collaborators} {parameters : TextMap String}
    {request : Request} {client : Client} {target : Url}
    (h : Received e c parameters request client target) : request.Legible := by
  obtain ⟨uri, huri, hparse⟩ := h.place
  obtain ⟨⟨asked, _, hread, _, rfl⟩, _, _⟩ := h
  obtain ⟨hstate, hscope, htypes⟩ := Request.fields_of_ofParameters hread
  refine ⟨⟨uri, huri, ?_⟩, fun s hs => ?_, fun x hx => ?_, fun x hx => ?_⟩
  · rintro rfl
    cases hparse
  · exact (nonEmpty?_eq_some.mp (hstate.symm.trans hs)).2
  · exact Request.isItem_of_mem_items (hscope ▸ hx)
  · exact Request.isItem_of_mem_items (htypes ▸ hx)

namespace Handlers

variable {e : Endpoint} {c : Collaborators} {m : Moment} {store : SnapshotStore} {p : Principal}
  {parameters form : TextMap String} {kept : Snapshot} {r : Request} {name : String}

/-! ## Forms -/

/-- What a form repeats of a request is what the request holds: a text to the letter, an absent state as an
empty text, a set in any spelling. -/
structure Repeats (form : TextMap String) (r : Request) : Prop where
  clientId : ∀ v, form.get? "client_id" = some v → v = r.clientId
  redirectUri : ∀ v, form.get? "redirect_uri" = some v → r.redirectUri = some v
  state : ∀ v, form.get? "state" = some v → v = r.state.getD ""
  scope : ∀ v, form.get? "scope" = some v → Spells v r.scope
  responseTypes : ∀ v, form.get? "response_type" = some v → Spells v r.responseTypes

/-- A form has a field that stands for something else than the request holds. -/
inductive Alters (form : TextMap String) (r : Request) : Prop
  | clientId {v : String} (h : form.get? "client_id" = some v) (hne : v ≠ r.clientId)
  | redirectUri {v : String} (h : form.get? "redirect_uri" = some v) (hne : r.redirectUri ≠ some v)
  | state {v : String} (h : form.get? "state" = some v) (hne : v ≠ r.state.getD "")
  | scope {v : String} (h : form.get? "scope" = some v) (hne : parse v ≠ r.scope)
  | responseTypes {v : String} (h : form.get? "response_type" = some v)
      (hne : parse v ≠ r.responseTypes)

theorem repeats_iff (hr : r.Legible) : Repeats form r ↔ ¬ Alters form r := by
  constructor
  · intro h halters
    cases halters with
    | clientId hv hne => exact hne (h.clientId _ hv)
    | redirectUri hv hne => exact hne (h.redirectUri _ hv)
    | state hv hne => exact hne (h.state _ hv)
    | scope hv hne => exact hne ((parse_eq_iff hr.scope).mpr (h.scope _ hv))
    | responseTypes hv hne => exact hne ((parse_eq_iff hr.responseTypes).mpr (h.responseTypes _ hv))
  · intro h
    refine ⟨fun v hv => ?_, fun v hv => ?_, fun v hv => ?_, fun v hv => ?_, fun v hv => ?_⟩
    · exact by_contra fun hne => h (.clientId hv hne)
    · exact by_contra fun hne => h (.redirectUri hv hne)
    · exact by_contra fun hne => h (.state hv hne)
    · exact (parse_eq_iff hr.scope).mp (by_contra fun hne => h (.scope hv hne))
    · exact (parse_eq_iff hr.responseTypes).mp (by_contra fun hne => h (.responseTypes hv hne))

/-! ## The request that comes back -/

theorem echoed_eq_iff {before : Option String} (hne : ∀ s, before = some s → s ≠ "") :
    echoed form name before = before ↔ ∀ v, form.get? name = some v → v = before.getD "" := by
  unfold echoed
  cases form.get? name with
  | none => simp
  | some v =>
    cases before with
    | none => simp
    | some s =>
      have hs := hne s rfl
      by_cases hv : v = ""
      · simp [hv, hs.symm]
      · simp [hv]

theorem echoedItems_eq_iff {before : TextSet} :
    echoedItems form name before = before ↔ ∀ v, form.get? name = some v → parse v = before := by
  unfold echoedItems
  cases form.get? name <;> simp

theorem getD_eq_iff {before : String} :
    (form.get? name).getD before = before ↔ ∀ v, form.get? name = some v → v = before := by
  cases form.get? name <;> simp

/-- The request that was kept comes back exactly with the forms that repeat it. -/
theorem resubmitted_eq_iff (hr : kept.request.Legible) :
    resubmitted kept form = kept.request ↔ Repeats form kept.request := by
  obtain ⟨uri, huri, hne⟩ := hr.redirectUri
  have hredirect : echoed form "redirect_uri" kept.request.redirectUri = kept.request.redirectUri ↔
      ∀ v, form.get? "redirect_uri" = some v → kept.request.redirectUri = some v := by
    rw [huri, echoed_eq_iff (by simpa using hne)]
    simp [eq_comm]
  have hfields : resubmitted kept form = kept.request ↔
      (form.get? "client_id").getD kept.request.clientId = kept.request.clientId ∧
      echoed form "redirect_uri" kept.request.redirectUri = kept.request.redirectUri ∧
      echoed form "state" kept.request.state = kept.request.state ∧
      echoedItems form "scope" kept.request.scope = kept.request.scope ∧
      echoedItems form "response_type" kept.request.responseTypes = kept.request.responseTypes := by
    obtain ⟨_, _, ⟨⟩⟩ := kept
    simp [resubmitted]
  rw [hfields, getD_eq_iff, hredirect, echoed_eq_iff hr.state, echoedItems_eq_iff, echoedItems_eq_iff]
  simp only [parse_eq_iff hr.scope, parse_eq_iff hr.responseTypes]
  exact ⟨fun ⟨h₁, h₂, h₃, h₄, h₅⟩ => ⟨h₁, h₂, h₃, h₄, h₅⟩,
    fun ⟨h₁, h₂, h₃, h₄, h₅⟩ => ⟨h₁, h₂, h₃, h₄, h₅⟩⟩

/-- A form reaches guarded fields only, so that no change it makes goes unseen. -/
theorem checkUnmodified_resubmitted :
    Request.checkUnmodified kept (resubmitted kept form) = .ok () ↔
      resubmitted kept form = kept.request := by
  rw [Request.checkUnmodified_iff]
  constructor
  · rintro ⟨parameters, extensions, h⟩
    have hparameters : kept.request.parameters = parameters := congrArg Request.parameters h
    have hextensions : kept.request.extensions = extensions := congrArg Request.extensions h
    rw [h, ← hparameters, ← hextensions]
  · intro h
    exact ⟨kept.request.parameters, kept.request.extensions, h⟩

/-! ## Answers -/

theorem approve_of_modified {id : Uuid} (hid : snapshotId? form = some id)
    (hheld : store.find? id = some ⟨p.subjectId, kept⟩)
    (h : Request.checkUnmodified kept (resubmitted kept form) ≠ .ok ()) :
    approve e c m store form p =
      ⟨[.published ⟨.tamperDetected, kept.request.clientId, some p.subjectId, m.now⟩],
        (.ofAuthError .tampered, ⟨store.held.filter (!SnapshotStore.isFor id ·)⟩)⟩ := by
  have hcheck : Request.checkUnmodified kept (resubmitted kept form) = .error .tampered := by
    unfold Request.checkUnmodified at h ⊢
    split at h
    · exact absurd rfl h
    · rfl
  have hrefused : e.approve c m form kept (resubmitted kept form) p =
      ⟨[.published ⟨.tamperDetected, kept.request.clientId, some p.subjectId, m.now⟩],
        .error .tampered⟩ := by
    rw [Endpoint.approve, hcheck]
    rfl
  rw [approve_of_held hid hheld, hrefused]

/-- A form that repeats fields of the request on its page, as they were, gives that request back, and is
not refused as changed. If it has a field that stands for anything else, the owner's answer is refused as
an invalid request: nothing is asked of anyone, and the one event tells of the change. -/
theorem echo_guarded (e : Endpoint) (c : Collaborators) (m : Moment) (p : Principal)
    (parameters : TextMap String) (page : ApprovalPage)
    (h : (e.authorize c m parameters p).value = .ok (.approval page)) (form : TextMap String) :
    (Repeats form page.snapshot.request →
      resubmitted page.snapshot form = page.snapshot.request ∧
      Request.checkUnmodified page.snapshot (resubmitted page.snapshot form) = .ok ()) ∧
    (Alters form page.snapshot.request →
      ∀ c' m' store p' id, snapshotId? form = some id →
        store.find? id = some ⟨p'.subjectId, page.snapshot⟩ →
        (approve e c' m' store form p').value.1 = .ofAuthError .tampered ∧
        AuthError.tampered.code = .invalidRequest ∧
        (approve e c' m' store form p').calls = [] ∧
        (approve e c' m' store form p').events =
          [⟨.tamperDetected, page.snapshot.request.clientId, some p'.subjectId, m'.now⟩]) ∧
    (Repeats form page.snapshot.request ↔ ¬ Alters form page.snapshot.request) := by
  obtain ⟨request, client, target, grant, hreceived, _, _, _, rfl⟩ := Endpoint.authorize_approval h
  have hlegible : request.Legible := hreceived.legible
  refine ⟨fun hrepeats => ?_, fun halters c' m' store p' id hid hheld => ?_, repeats_iff hlegible⟩
  · have hsame : resubmitted ⟨m.snapshotId, m.now, request⟩ form = request :=
      (resubmitted_eq_iff hlegible).mpr hrepeats
    exact ⟨hsame, checkUnmodified_resubmitted.mpr hsame⟩
  · have hmodified : Request.checkUnmodified ⟨m.snapshotId, m.now, request⟩
        (resubmitted ⟨m.snapshotId, m.now, request⟩ form) ≠ .ok () := by
      intro hcheck
      have hsame := checkUnmodified_resubmitted.mp hcheck
      exact (repeats_iff hlegible).mp ((resubmitted_eq_iff hlegible).mp hsame) halters
    rw [approve_of_modified hid hheld hmodified]
    exact ⟨rfl, rfl, rfl, rfl⟩

def respelled : TextMap String :=
  .ofList [("client_id", "foo"), ("redirect_uri", "https://a.example/cb"), ("state", "\"é\\\n\x01"),
    ("scope", "write,\twrite "), ("response_type", "token ,code")]

def widened : TextMap String :=
  .ofList [("snapshot_id", "00000000-0000-0000-0000-000000000001"), ("user_oauth_approval", "true"),
    ("scope", "write admin")]

theorem spells_respelled : Spells "write,\twrite " (.ofList ["write"]) ∧
    Spells "token ,code" (.ofList ["code", "token"]) := by
  constructor
  · have hlists : Lists ["write", "write"]
        ("write".toList ++ ',' :: '\t' :: ("write".toList ++ ' ' :: [])) :=
      .item _ (by decide) (.separator (by decide) (.item _ (by decide) .nil))
    exact ⟨_, hlists, by simp⟩
  · have hlists : Lists ["token", "code"] ("token".toList ++ ' ' :: ',' :: "code".toList) :=
      .item _ (by decide) (.separator (by decide) (.last _))
    exact ⟨_, hlists, by simp [or_comm]⟩

open Endpoint in
theorem echo_guarded_respelled :
    let store := SnapshotStore.empty.put "marissa" askingPage.snapshot
    let answer := approve standard implicitOnly ⟨⟨2024, 1, 1, 0, 5, 0, 0, 0⟩, .ofNat 2⟩ store widened
      ⟨"marissa", "marissa", none⟩
    asking.value = .ok (.approval askingPage) ∧
    Repeats respelled askingPage.snapshot.request ∧
    resubmitted askingPage.snapshot respelled = askingPage.snapshot.request ∧
    Alters widened askingPage.snapshot.request ∧
    answer.value.1 = .ofAuthError .tampered ∧ answer.calls = [] ∧
    answer.events = [⟨.tamperDetected, "foo", some "marissa", ⟨2024, 1, 1, 0, 5, 0, 0, 0⟩⟩] := by
  intro store answer
  have hpage : asking.value = .ok (.approval askingPage) := eq_approval (Option.some_get _).symm
  have hscope : askingPage.snapshot.request.scope = .ofList ["write"] := by decide +kernel
  have htypes : askingPage.snapshot.request.responseTypes = .ofList ["code", "token"] := by
    decide +kernel
  have hfield : ∀ {name w v : String}, respelled.get? name = some w → respelled.get? name = some v →
      v = w := fun hw hv => Option.some.inj (hv.symm.trans hw)
  have hrepeats : Repeats respelled askingPage.snapshot.request := by
    refine ⟨fun v hv => ?_, fun v hv => ?_, fun v hv => ?_, fun v hv => ?_, fun v hv => ?_⟩
    · obtain rfl := hfield (w := "foo") (by decide +kernel) hv
      decide +kernel
    · obtain rfl := hfield (w := "https://a.example/cb") (by decide +kernel) hv
      decide +kernel
    · obtain rfl := hfield (w := "\"é\\\n\x01") (by decide +kernel) hv
      decide +kernel
    · obtain rfl := hfield (w := "write,\twrite ") (by decide +kernel) hv
      exact hscope ▸ spells_respelled.1
    · obtain rfl := hfield (w := "token ,code") (by decide +kernel) hv
      exact htypes ▸ spells_respelled.2
  have halters : Alters widened askingPage.snapshot.request :=
    .scope (v := "write admin") (by decide +kernel) (by decide +kernel)
  have hid : askingPage.snapshot.id = .ofNat 1 := by decide +kernel
  have hheld : store.find? (.ofNat 1) = some ⟨"marissa", askingPage.snapshot⟩ :=
    hid ▸ SnapshotStore.find?_put .empty "marissa" askingPage.snapshot
  have hclient : askingPage.snapshot.request.clientId = "foo" := by decide +kernel
  obtain ⟨hback, _, _⟩ := echo_guarded standard implicitOnly
    ⟨⟨2024, 1, 1, 0, 0, 0, 0, 0⟩, .ofNat 1⟩ ⟨"marissa", "marissa", none⟩ _ askingPage hpage respelled
  obtain ⟨_, hrefused, _⟩ := echo_guarded standard implicitOnly
    ⟨⟨2024, 1, 1, 0, 0, 0, 0, 0⟩, .ofNat 1⟩ ⟨"marissa", "marissa", none⟩ _ askingPage hpage widened
  obtain ⟨hvalue, _, hcalls, hevents⟩ := hrefused halters implicitOnly
    ⟨⟨2024, 1, 1, 0, 5, 0, 0, 0⟩, .ofNat 2⟩ store ⟨"marissa", "marissa", none⟩ (.ofNat 1)
    (by decide +kernel) hheld
  exact ⟨hpage, hrepeats, (hback hrepeats).1, halters, hvalue, hcalls, hclient ▸ hevents⟩

end Handlers

end ConsentGate
