import ConsentGate.Proofs.Endpoint.Grants

namespace ConsentGate

namespace Request

variable {kept resubmitted : Request}

theorem changedField?_eq_none : changedField? kept resubmitted = none ↔
    ∃ parameters extensions, resubmitted = { kept with parameters, extensions } := by
  obtain ⟨clientId, redirectUri, state, scope, types, approved, resources, authorities, _, _⟩ := kept
  obtain ⟨clientId', redirectUri', state', scope', types', approved', resources', authorities', _, _⟩ :=
    resubmitted
  simp only [changedField?, ite_not, mk.injEq]
  constructor
  · intro h
    split_ifs at h
    subst_vars
    exact ⟨_, _, rfl, rfl, rfl, rfl, rfl, rfl, rfl, rfl, rfl, rfl⟩
  · rintro ⟨_, _, rfl, rfl, rfl, rfl, rfl, rfl, rfl, rfl, _, _⟩
    simp

theorem checkUnmodified_iff {kept : Snapshot} : checkUnmodified kept resubmitted = .ok () ↔
    ∃ parameters extensions, resubmitted = { kept.request with parameters, extensions } := by
  rw [← changedField?_eq_none, checkUnmodified]
  cases changedField? kept.request resubmitted <;> simp

end Request

namespace Endpoint

variable {e : Endpoint} {c : Collaborators} {m : Moment} {p : Principal} {form : TextMap String}
  {kept : Snapshot} {resubmitted : Request}

theorem approve_of_unmodified (h : Request.checkUnmodified kept resubmitted = .ok ()) :
    e.approve c m form kept resubmitted p = e.approve c m form kept kept.request p := by
  have hkept : Request.checkUnmodified kept kept.request = .ok () :=
    Request.checkUnmodified_iff.mpr ⟨_, _, rfl⟩
  rw [approve, approve, h, hkept]

theorem request_of_mem_approve {call : Call} {r : Request}
    (h : call ∈ (e.approve c m form kept resubmitted p).calls) (hr : call.request? = some r) :
    r = { kept.request with scope := r.scope, approved := true } ∧
      ∀ x ∈ r.scope, x ∈ kept.request.scope := by
  obtain ⟨scope, target, grant, _, hscope, hgrant, hcall⟩ := mem_respond_of_approve h
  obtain ⟨rfl, _⟩ := issues_of_mem_respond hcall hgrant hr
  refine ⟨rfl, ?_⟩
  obtain ⟨_, rfl⟩ | ⟨_, rfl, hall⟩ := grantedScope_ok hscope
  · exact fun _ hx => hx
  · exact hall

/-- A request that comes back unmodified may differ from the one that was kept in its parameters and
extensions only. Whatever they are, the approval is answered alike, with the same calls and events, and
what it issues is issued for the request that was kept. -/
theorem approve_unsteered (e : Endpoint) (c : Collaborators) (m : Moment) (p : Principal)
    (form : TextMap String) (kept : Snapshot) (a b : Request)
    (ha : Request.checkUnmodified kept a = .ok ()) (hb : Request.checkUnmodified kept b = .ok ()) :
    e.approve c m form kept a p = e.approve c m form kept b p ∧
    (∀ call ∈ (e.approve c m form kept a p).calls, ∀ r, call.request? = some r →
      r = { kept.request with scope := r.scope, approved := true } ∧
        ∀ x ∈ r.scope, x ∈ kept.request.scope) ∧
    ∀ r, Request.checkUnmodified kept r = .ok () ↔
      ∃ parameters extensions, r = { kept.request with parameters, extensions } := by
  refine ⟨?_, fun call hcall r hr => request_of_mem_approve hcall hr, fun r => Request.checkUnmodified_iff⟩
  rw [approve_of_unmodified ha, approve_of_unmodified hb]

def challenged : Snapshot where
  id := .ofNat 1
  frozenAt := ⟨2024, 1, 1, 0, 0, 0, 0, 0⟩
  request := {
    clientId := "foo"
    redirectUri := some "https://a.example/cb"
    state := none
    scope := .ofList ["read", "write"]
    responseTypes := .ofList ["code", "token"]
    approved := false
    resourceIds := .empty
    authorities := .empty
    parameters := .ofList [("code_challenge", "E9Melhoa2OwvFrEMTJguCHaoeK1t8URWbuGJSstw-cM"),
      ("code_challenge_method", "S256")]
    extensions := .empty }

def downgraded : Request :=
  { challenged.request with parameters := .ofList [("prompt", "none")] }

def readOnly : TextMap String :=
  .ofList [("user_oauth_approval", "true"), ("scope.0", "read")]

theorem approve_unsteered_downgraded :
    let answer := fun resubmitted => standard.approve implicitOnly ⟨challenged.frozenAt, .ofNat 2⟩
      readOnly challenged resubmitted ⟨"marissa", "marissa", none⟩
    Request.checkUnmodified challenged challenged.request = .ok () ∧
      Request.checkUnmodified challenged downgraded = .ok () ∧
      answer downgraded = answer challenged.request ∧
      ∃ r q k, .code r q k ∈ (answer downgraded).calls ∧
        r = { challenged.request with scope := r.scope, approved := true } ∧
        ∀ x ∈ r.scope, x ∈ challenged.request.scope := by
  intro answer
  have hkept : Request.checkUnmodified challenged challenged.request = .ok () :=
    Request.checkUnmodified_iff.mpr ⟨_, _, rfl⟩
  have hdowngraded : Request.checkUnmodified challenged downgraded = .ok () :=
    Request.checkUnmodified_iff.mpr ⟨_, _, rfl⟩
  obtain ⟨hsame, hissued, _⟩ := approve_unsteered standard implicitOnly ⟨challenged.frozenAt, .ofNat 2⟩
    ⟨"marissa", "marissa", none⟩ readOnly challenged downgraded challenged.request hdowngraded hkept
  have hany : (answer downgraded).calls.any isCode = true := by decide +kernel
  obtain ⟨r, q, k, hcode⟩ := exists_code_of_any hany
  exact ⟨hkept, hdowngraded, hsame, r, q, k, hcode, hissued _ hcode r rfl⟩

end Endpoint

end ConsentGate
