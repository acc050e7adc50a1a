import ConsentGate.Proofs.Endpoint.Consent
import ConsentGate.Proofs.Endpoint.Setup
import ConsentGate.Proofs.RedirectUri.Resolve
import ConsentGate.Proofs.Server.Echo
import ConsentGate.Proofs.Server.Responses
import ConsentGate.Proofs.Uuid

namespace ConsentGate.Handlers

open ApprovalSettings Endpoint

variable {e : Endpoint} {c : Collaborators} {m : Moment} {store : SnapshotStore} {p : Principal}
  {form named : TextMap String} {kept : Snapshot} {scope : TextSet} {r : Request} {events : Broadcaster Event}
  {s : EndpointSettings} {fits : String → Bool}

/-- The answer to a form delivers what was issued for the request that was kept, with the given scope and
as approved. Nothing is issued for any other. -/
structure Grants (e : Endpoint) (c : Collaborators) (m : Moment) (store : SnapshotStore)
    (form : TextMap String) (p : Principal) (kept : Snapshot) (scope : TextSet) : Prop where
  delivered : ∃ target grant issued session, Redirect.target kept.request = .ok target ∧
    Obtained p (approve e c m store form p).calls grant { kept.request with scope, approved := true }
      target issued session ∧
    (approve e c m store form p).value.1 = ⟨e.approval.status.code,
      some (Redirect.success e.approval.status m.now target
        { kept.request with scope, approved := true } issued session).uri, none⟩
  only : ∀ call ∈ (approve e c m store form p).calls, ∀ r, call.request? = some r →
    r = { kept.request with scope, approved := true }

/-- Whoever is asked and consents, to all of it or to scopes that are named in a certain way, is granted
that, as long as nothing fails that is asked for it. -/
def Honours (e : Endpoint) (named : TextMap String) : Prop :=
  ∀ c m p parameters page, (e.authorize c m parameters p).value = .ok (.approval page) →
    (∀ f ∈ named.toList, f.2 ∈ page.snapshot.request.scope) →
    ∀ c' m' store p' id, c'.Infallible → Uuid.parse? id = some page.snapshot.id →
      store.find? page.snapshot.id = some ⟨p'.subjectId, page.snapshot⟩ →
      Grants e c' m' store (e.approval.consent id named) p' page.snapshot
        (consented page.snapshot.request.scope named)

/-! ## Fields that are told apart -/

theorem repeats_of_absent (h : ∀ name ∈ echoNames, form.get? name = none) : Repeats form r := by
  have habsent : ∀ {name v}, name ∈ echoNames → form.get? name ≠ some v := fun hname hv => by
    rw [h _ hname] at hv
    cases hv
  exact ⟨fun v hv => absurd hv (habsent (by decide)), fun v hv => absurd hv (habsent (by decide)),
    fun v hv => absurd hv (habsent (by decide)), fun v hv => absurd hv (habsent (by decide)),
    fun v hv => absurd hv (habsent (by decide))⟩

theorem echo_absent {id : String} (h : e.approval.TellsDecision)
    (hnamed : ∀ f ∈ named.toList, e.approval.scopeLead ++ f.1 ∉ echoNames) :
    ∀ name ∈ echoNames, (e.approval.consent id named).get? name = none := by
  intro name hname
  rw [Option.eq_none_iff_forall_ne_some]
  intro v hv
  obtain ⟨rfl, _⟩ | ⟨rfl, _⟩ | ⟨s, hs, rfl⟩ := (get?_consent h).mp hv
  · exact absurd hname (by decide)
  · exact h.echo hname
  · exact hnamed _ (TextMap.mem_toList.mpr hs) hname

theorem honours (h : e.approval.TellsDecision)
    (hecho : ∀ f ∈ named.toList, e.approval.scopeLead ++ f.1 ∉ echoNames) : Honours e named := by
  intro c m p parameters page hpage hnamed c' m' store p' id hc hid hheld
  obtain ⟨request, client, target, grant, hreceived, hscreen, _, _, rfl⟩ := authorize_approval hpage
  have hgrant := (screen_ok hscreen).derived
  have hsame : Request.checkUnmodified ⟨m.snapshotId, m.now, request⟩
      (resubmitted ⟨m.snapshotId, m.now, request⟩ (e.approval.consent id named)) = .ok () :=
    checkUnmodified_resubmitted.mpr
      ((resubmitted_eq_iff hreceived.legible).mpr (repeats_of_absent (echo_absent h hecho)))
  have hsnapshot : snapshotId? (e.approval.consent id named) = some m.snapshotId := by
    rw [snapshotId?, (get?_consent h).mpr (.inl ⟨rfl, rfl⟩)]
    exact hid
  have happroved : e.isApproved (e.approval.consent id named) = true :=
    isApproved_of_get? ((get?_consent h).mpr (.inr (.inl ⟨rfl, rfl⟩)))
  have hscope : grantedScope request.scope (e.namedScopes (e.approval.consent id named)) =
      .ok (consented request.scope named) := by
    rw [namedScopes_consent h]
    exact grantedScope_named hnamed
  obtain ⟨issued, session, hobtained, hvalue⟩ :=
    approve_granted hc m' hsame hreceived.target hgrant happroved hscope
  have hanswer := approve_of_held (e := e) (c := c') (m := m') hsnapshot hheld
  have hcalls := congrArg Traced.calls hanswer
  have hresponse := congrArg (·.value.1) hanswer
  rw [hvalue] at hresponse
  refine ⟨⟨target, grant, issued, session, hreceived.target, hcalls ▸ hobtained,
    hresponse.trans (ofRedirect_of_approve hvalue)⟩, fun call hcall r hr => ?_⟩
  rw [hcalls] at hcall
  obtain ⟨scope, _, _, _, hscope', hgrant', hcall⟩ := mem_respond_of_approve hcall
  obtain rfl := Except.ok.inj (hscope.symm.trans hscope')
  exact (issues_of_mem_respond hcall hgrant' hr).1

/-! ## Fields that are taken for others -/

theorem Grants.sound (h : Grants e c m store form p kept scope)
    (hheld : ∀ held ∈ store.held, held.snapshot = kept) (hr : kept.request.Legible) :
    (snapshotId? form).isSome ∧ ¬ Alters form kept.request ∧
      ∀ x ∈ e.namedScopes form, x ∈ kept.request.scope := by
  obtain ⟨⟨_, _, _, _, _, hobtained, _⟩, _⟩ := h
  obtain ⟨call, hcall, _⟩ := hobtained.exists_call
  obtain ⟨hnone, _⟩ | ⟨id, held, hid, hfind, _, hcalls, _⟩ := approve_cases e c m p store form
  · rw [hnone] at hcall
    exact absurd hcall List.not_mem_nil
  obtain rfl := hheld held (List.mem_of_find?_eq_some hfind)
  rw [hcalls] at hcall
  obtain ⟨_, _, hnone⟩ | ⟨_, _, hsame, _⟩ :=
    Endpoint.approve_cases e c m p form held.snapshot (resubmitted held.snapshot form)
  · rw [hnone] at hcall
    exact absurd hcall List.not_mem_nil
  obtain ⟨scope, _, _, _, hscope, _⟩ := mem_respond_of_approve hcall
  refine ⟨by rw [hid]; rfl, ?_, ?_⟩
  · exact (repeats_iff hr).mp ((resubmitted_eq_iff hr).mp (checkUnmodified_resubmitted.mp hsame))
  · obtain ⟨hempty, _⟩ | ⟨_, _, hall⟩ := grantedScope_ok hscope
    · intro x hx
      exact absurd (TextSet.mem_items.mpr hx) (by simp [List.isEmpty_iff.mp hempty])
    · exact hall

/-! ## A request that every endpoint asks its user about -/

def probingClient (e : Endpoint) : Client :=
  { Client.ofId "foo" with
    redirectUris := .ofList ["https://a.example/cb"]
    grantTypes := .ofList ("authorization_code" :: e.redirect.grantTypes) }

def probing (e : Endpoint) : Collaborators where
  findClient := fun _ => .ok (some (probingClient e))
  sessionState := fun _ _ _ => .ok "s"
  issueCode := fun _ _ => .ok "c"
  issueToken := fun _ _ => .ok ⟨"t", none, ⟨2024, 1, 1, 0, 0, 0, 0, 0⟩, "bearer", .empty⟩

theorem infallible_probing (e : Endpoint) : (probing e).Infallible :=
  ⟨fun _ _ _ => ⟨_, rfl⟩, fun _ _ => ⟨_, rfl⟩, fun _ _ => ⟨_, rfl⟩⟩

def probe : TextMap String :=
  .ofList [("client_id", "foo"), ("response_type", "code"), ("scope", "read write")]

def probed : Request where
  clientId := "foo"
  redirectUri := some "https://a.example/cb"
  state := none
  scope := .ofList ["read", "write"]
  responseTypes := .ofList ["code"]
  approved := false
  resourceIds := .empty
  authorities := .empty
  parameters := probe
  extensions := .empty

def probeTarget : Url :=
  ⟨"https".toList, some ⟨[], none, some (.name "a.example".toList), none⟩, .segments ["cb".toList], none,
    none⟩

def probePage (e : Endpoint) (m : Moment) : ApprovalPage :=
  ⟨⟨m.snapshotId, m.now, probed⟩, e.approval.parameter, e.approval.scopeLead⟩

theorem received_probe (h : e.redirect.grantTypes ≠ []) :
    Received e (probing e) probe probed (probingClient e) probeTarget := by
  obtain ⟨g, hg⟩ := List.exists_mem_of_ne_nil _ h
  have hmay : RedirectUri.MayRedirect e.redirect (probingClient e) :=
    ⟨g, TextSet.mem_ofList.mpr (List.mem_cons_of_mem _ hg), hg⟩
  exact ⟨⟨{ probed with redirectUri := none }, _, rfl, RedirectUri.resolve_none_iff.mpr ⟨hmay, rfl⟩, rfl⟩,
    rfl, by decide +kernel⟩

theorem screen_probe (e : Endpoint) : e.screen probed (probingClient e) = .ok .authorizationCode := by
  have hunkeyed : probed.parameters.get? "code_challenge_method" = none ∧
      probed.parameters.get? "code_challenge" = none := by decide +kernel
  have hpkce : e.pkce.validateParameters probed.parameters = .ok () := by
    rw [Pkce.Service.validateParameters, hunkeyed.1, hunkeyed.2]
    rfl
  have htypes : probed.responseTypes.isEmpty = false ∧
      GrantType.ofResponseTypes probed.responseTypes = .ok .authorizationCode := by decide +kernel
  have hgrant : (probingClient e).allowsGrant .authorizationCode = true :=
    TextSet.contains_iff.mpr (TextSet.mem_ofList.mpr List.mem_cons_self)
  have hscopes : probed.scope.toList.find? (!(probingClient e).allowsScope ·) = none :=
    List.find?_eq_none.mpr fun x _ => by
      simp [Client.allowsScope, probingClient, Client.ofId, TextSet.isEmpty, TextSet.empty]
  simp [screen, htypes, hgrant, hscopes, hpkce]

theorem authorize_probe (h : e.redirect.grantTypes ≠ []) (m : Moment) (p : Principal) :
    (e.authorize (probing e) m probe p).value = .ok (.approval (probePage e m)) := by
  have hauto : (probingClient e).autoApproves probed.scope.toList e.fits = false := by
    have hscope : probed.scope.toList = ["read", "write"] := by decide +kernel
    rw [hscope]
    rfl
  have hprompt : probed.promptNone = false := by decide +kernel
  rw [authorize_of_received (received_probe h), answer, screen_probe]
  simp [hauto, hprompt, probePage]

theorem alters_probed {name v : String} (hname : name ∈ echoNames) (hv : v ∈ ["true", "read"])
    (h : form.get? name = some v) : Alters form probed := by
  simp only [echoNames, List.mem_cons, List.not_mem_nil, or_false] at hname hv
  obtain rfl | rfl | rfl | rfl | rfl := hname
  · exact .clientId h (by rcases hv with rfl | rfl <;> decide)
  · exact .redirectUri h (by rcases hv with rfl | rfl <;> decide)
  · exact .state h (by rcases hv with rfl | rfl <;> decide)
  · exact .scope h (by rcases hv with rfl | rfl <;> decide +kernel)
  · exact .responseTypes h (by rcases hv with rfl | rfl <;> decide +kernel)

theorem grants_probe (h : e.redirect.grantTypes ≠ []) (hhonours : Honours e named)
    (hnamed : ∀ f ∈ named.toList, f.2 ∈ probed.scope) (m : Moment) :
    Grants e (probing e) m (SnapshotStore.empty.put "marissa" (probePage e m).snapshot)
      (e.approval.consent m.snapshotId.render named) ⟨"marissa", "marissa", none⟩
      (probePage e m).snapshot (consented probed.scope named) :=
  hhonours (probing e) m ⟨"marissa", "marissa", none⟩ probe _ (authorize_probe h m _) hnamed (probing e)
    m _ _ _ (infallible_probing e) (Uuid.parse?_render _) (SnapshotStore.find?_put _ _ _)

theorem sound_probe (h : e.redirect.grantTypes ≠ []) (hhonours : Honours e named)
    (hnamed : ∀ f ∈ named.toList, f.2 ∈ probed.scope) :
    let form := e.approval.consent (Uuid.ofNat 1).render named
    (snapshotId? form).isSome ∧ ¬ Alters form probed ∧ ∀ x ∈ e.namedScopes form, x ∈ probed.scope :=
  (grants_probe h hhonours hnamed ⟨⟨2024, 1, 1, 0, 0, 0, 0, 0⟩, .ofNat 1⟩).sound
    (by simp [SnapshotStore.put, SnapshotStore.empty]) (received_probe h).legible

theorem tellsDecision_of_honours (h : e.redirect.grantTypes ≠ []) (hhonours : Honours e .empty) :
    e.approval.TellsDecision := by
  obtain ⟨hid, hunaltered, hscopes⟩ := sound_probe h hhonours (by simp [TextMap.toList, TextMap.empty])
  have hdecision : (e.approval.consent (Uuid.ofNat 1).render .empty).get? e.approval.parameter =
      some "true" := by
    simp [consent, TextMap.get?_ofList, consentFields, TextMap.toList, TextMap.empty]
  have hown : e.approval.parameter ≠ "snapshot_id" := by
    -- Of two fields with one name the later counts, so that the decision stands for the snapshot.
    intro heq
    rw [snapshotId?, ← heq, hdecision] at hid
    exact absurd hid (by decide +kernel)
  refine ⟨hown, fun hecho => ?_, fun hlead => ?_, fun hlead => ?_⟩
  · exact hunaltered (alters_probed hecho (by decide) hdecision)
  · exact absurd (hscopes _ (mem_namedScopes.mpr ⟨_, hdecision, hlead⟩)) (by decide +kernel)
  · have hsnapshot : (e.approval.consent (Uuid.ofNat 1).render .empty).get? "snapshot_id" =
        some (Uuid.ofNat 1).render := by
      simp [consent, TextMap.get?_ofList, consentFields, TextMap.toList, TextMap.empty,
        List.lookup_cons, beq_eq_false_iff_ne.mpr hown.symm]
    exact absurd (hscopes _ (mem_namedScopes.mpr ⟨_, hsnapshot, hlead⟩)) (by decide +kernel)

theorem leadEcho_of_honours (h : e.redirect.grantTypes ≠ []) (hhonours : ∀ named, Honours e named) :
    ∀ name ∈ echoNames, ¬ e.approval.scopeLead.toList <+: name.toList := by
  rintro name hname ⟨rest, hrest⟩
  obtain rfl : name = e.approval.scopeLead ++ String.ofList rest :=
    String.toList_inj.mp (by simp [hrest])
  have hread : "read" ∈ probed.scope := by decide +kernel
  obtain ⟨_, hunaltered, _⟩ := sound_probe h (hhonours (.ofList [(String.ofList rest, "read")]))
    fun f hf => by rwa [List.mem_singleton.mp hf]
  have hentry : (TextMap.ofList [(String.ofList rest, "read")]).toList =
      [(String.ofList rest, "read")] := rfl
  have hfield : (e.approval.consent (Uuid.ofNat 1).render (.ofList [(String.ofList rest, "read")])).get?
      (e.approval.scopeLead ++ String.ofList rest) = some "read" := by
    rw [consent, TextMap.get?_ofList, consentFields, hentry]
    simp
  exact hunaltered (alters_probed hname (by decide) hfield)

/-! ## Settings -/

/-- Endpoints are built from settings that pass. Consent to all that a page asks for is honoured exactly for
those of them that tell the decision from all else, and consent to single scopes as well exactly for those
that also tell these from all else. -/
theorem honours_iff (h : Endpoint.ofSettings s fits = .ok (e, events)) :
    (Honours e .empty ↔ s.approval.TellsDecision) ∧
      ((∀ named, Honours e named) ↔ s.approval.TellsScopes) := by
  have hfollows := follows_of_ofSettings h
  have hgrants : e.redirect.grantTypes ≠ [] := by
    rw [hfollows.redirect]
    exact (EndpointSettings.validate_iff.mp (ofSettings_ok h).1).grantTypes
  rw [← hfollows.approval]
  refine ⟨⟨tellsDecision_of_honours hgrants, fun htells => honours htells (by simp [TextMap.toList,
    TextMap.empty])⟩, fun hhonours => ?_, fun htells named => ?_⟩
  · exact ⟨tellsDecision_of_honours hgrants (hhonours .empty), leadEcho_of_honours hgrants hhonours⟩
  · exact honours htells.toTellsDecision fun f _ hm =>
      htells.leadEcho _ hm (e.approval.prefix_lead_append f.1)

def narrowed : TextMap String := .ofList [("0", "read")]

theorem honours_iff_default : ∃ e events, Endpoint.ofSettings {} = .ok (e, events) ∧
    Honours e .empty ∧ Honours e narrowed ∧
    ∀ m, Grants e (probing e) m (SnapshotStore.empty.put "marissa" (probePage e m).snapshot)
      (e.approval.consent m.snapshotId.render narrowed) ⟨"marissa", "marissa", none⟩
      (probePage e m).snapshot (.ofList ["read"]) := by
  have hvalid : ({} : EndpointSettings).validate = .ok () := by decide +kernel
  obtain ⟨e, events, hbuilt⟩ : ∃ e events, Endpoint.ofSettings {} = .ok (e, events) :=
    exists_ofSettings hvalid fun _ => by decide +kernel
  have htells : ApprovalSettings.TellsScopes {} :=
    ⟨⟨by decide, by decide, by decide, by decide⟩, by decide⟩
  have hhonours := (honours_iff hbuilt).2.mpr htells
  have hgrants : e.redirect.grantTypes ≠ [] := by
    rw [(follows_of_ofSettings hbuilt).redirect]
    decide
  have hread : ∀ f ∈ narrowed.toList, f.2 ∈ probed.scope := by decide +kernel
  exact ⟨e, events, hbuilt, hhonours .empty, hhonours narrowed,
    grants_probe hgrants (hhonours narrowed) hread⟩

def overlapping : EndpointSettings where
  approval := { parameter := "scope.approve" }

def muddled : Endpoint := ⟨overlapping.redirect, overlapping.approval, .standard, Glob.isSmall⟩

/-- The user consents, and the client is told that it asked for a scope which it did not ask for. -/
theorem consent_overlapping :
    let m : Moment := ⟨⟨2024, 1, 1, 0, 0, 0, 0, 0⟩, .ofNat 1⟩
    let p : Principal := ⟨"marissa", "marissa", none⟩
    let answer := approve muddled (probing muddled) m
      (SnapshotStore.empty.put "marissa" (probePage muddled m).snapshot)
      (overlapping.approval.consent "00000000-0000-0000-0000-000000000001" .empty) p
    overlapping.validate = .ok () ∧
    (∃ events, Endpoint.ofSettings overlapping = .ok (muddled, events)) ∧
    (muddled.authorize (probing muddled) m probe p).value = .ok (.approval (probePage muddled m)) ∧
    (probing muddled).Infallible ∧
    answer.calls = [] ∧
    answer.value.1.location = some ("https://a.example/cb?error=invalid_scope&error_description=" ++
      "The+requested+scopes+are+invalid.+Please+use+valid+scope+names+in+the+request%3A+true") := by
  intro m p answer
  have hcalls : answer.calls.length = 0 := by decide +kernel
  exact ⟨by decide +kernel, ⟨_, rfl⟩, authorize_probe (by decide) m p, infallible_probing _,
    List.eq_nil_of_length_eq_zero hcalls, by decide +kernel⟩

end ConsentGate.Handlers
