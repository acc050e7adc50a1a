import ConsentGate.Proofs.Collection.TextMap
import ConsentGate.Proofs.Collection.TextSet
import ConsentGate.Proofs.Endpoint.Success

namespace ConsentGate

/-! ## The fields of a form -/

namespace ApprovalSettings

def consentFields (a : ApprovalSettings) (id : String) (named : TextMap String) :
    List (String × String) :=
  ("snapshot_id", id) :: (a.parameter, "true") :: named.toList.map fun f => (a.scopeLead ++ f.1, f.2)

def consent (a : ApprovalSettings) (id : String) (named : TextMap String) : TextMap String :=
  .ofList (a.consentFields id named)

/-- The fields in which a form repeats the request. -/
def echoNames : List String :=
  ["client_id", "redirect_uri", "state", "scope", "response_type"]

/-- The decision has a name of its own, and neither it nor the snapshot is taken for a scope. -/
structure TellsDecision (a : ApprovalSettings) : Prop where
  id : a.parameter ≠ "snapshot_id"
  echo : a.parameter ∉ echoNames
  lead : ¬ a.scopeLead.toList <+: a.parameter.toList
  leadId : ¬ a.scopeLead.toList <+: "snapshot_id".toList

/-- No scope that is named is taken for what a form repeats of the request either. -/
structure TellsScopes (a : ApprovalSettings) : Prop extends TellsDecision a where
  leadEcho : ∀ name ∈ echoNames, ¬ a.scopeLead.toList <+: name.toList

variable {a : ApprovalSettings} {id k v : String} {named : TextMap String}

theorem prefix_lead_append (a : ApprovalSettings) (s : String) :
    a.scopeLead.toList <+: (a.scopeLead ++ s).toList :=
  ⟨s.toList, String.toList_append.symm⟩

theorem nodup_consentFields (h : a.TellsDecision) : ((a.consentFields id named).map Prod.fst).Nodup := by
  have hnamed : ((named.toList.map fun f => (a.scopeLead ++ f.1, f.2)).map Prod.fst).Nodup := by
    rw [List.map_map]
    have hinj : Function.Injective (a.scopeLead ++ ·) := fun s t hst =>
      String.toList_inj.mp (by simpa using congrArg String.toList hst)
    simpa [Function.comp_def] using named.nodup_keys.map hinj
  have hlead : ∀ name, ¬ a.scopeLead.toList <+: name.toList →
      name ∉ (named.toList.map fun f => (a.scopeLead ++ f.1, f.2)).map Prod.fst := by
    rintro name hname hm
    rw [List.map_map] at hm
    obtain ⟨f, _, rfl⟩ := List.mem_map.mp hm
    exact hname (a.prefix_lead_append f.1)
  refine List.nodup_cons.mpr ⟨?_, List.nodup_cons.mpr ⟨hlead _ h.lead, hnamed⟩⟩
  rw [List.map_cons, List.mem_cons, not_or]
  exact ⟨h.id.symm, hlead _ h.leadId⟩

theorem get?_consent (h : a.TellsDecision) : (a.consent id named).get? k = some v ↔
    k = "snapshot_id" ∧ v = id ∨ k = a.parameter ∧ v = "true" ∨
      ∃ s, named.get? s = some v ∧ k = a.scopeLead ++ s := by
  rw [consent, TextMap.get?_ofList_iff (nodup_consentFields h)]
  simp only [consentFields, List.mem_cons, Prod.mk.injEq, List.mem_map, Prod.exists,
    TextMap.mem_toList]
  grind

end ApprovalSettings

namespace Endpoint

variable {e : Endpoint} {c : Collaborators} {m : Moment} {p : Principal} {form named : TextMap String}
  {kept : Snapshot} {request resubmitted : Request} {target : Url} {grant : GrantType}
  {requested scope : TextSet} {id x : String}

theorem isApproved_of_get? (h : form.get? e.approval.parameter = some "true") :
    e.isApproved form = true := by
  rw [isApproved, h]
  decide

theorem mem_namedScopes : x ∈ e.namedScopes form ↔
    ∃ k, form.get? k = some x ∧ e.approval.scopeLead.toList <+: k.toList := by
  simp [namedScopes, ← TextMap.mem_toList]

theorem namedScopes_consent (h : e.approval.TellsDecision) :
    e.namedScopes (e.approval.consent id named) = .ofList (named.toList.map Prod.snd) := by
  apply TextSet.eq_of_mem_iff
  intro x
  rw [mem_namedScopes, TextSet.mem_ofList, List.mem_map]
  constructor
  · rintro ⟨k, hk, hlead⟩
    obtain ⟨rfl, _⟩ | ⟨rfl, _⟩ | ⟨s, hs, rfl⟩ := (ApprovalSettings.get?_consent h).mp hk
    · exact absurd hlead h.leadId
    · exact absurd hlead h.lead
    · exact ⟨(s, x), TextMap.mem_toList.mpr hs, rfl⟩
  · rintro ⟨⟨s, x⟩, hs, rfl⟩
    exact ⟨e.approval.scopeLead ++ s, (ApprovalSettings.get?_consent h).mpr
      (.inr (.inr ⟨s, TextMap.mem_toList.mp hs, rfl⟩)), e.approval.prefix_lead_append s⟩

/-- The scope to which a form consents: what it names, or else all that is requested. -/
def consented (requested : TextSet) (named : TextMap String) : TextSet :=
  if named.isEmpty then requested else .ofList (named.toList.map Prod.snd)

theorem grantedScope_named (h : ∀ f ∈ named.toList, f.2 ∈ requested) :
    grantedScope requested (.ofList (named.toList.map Prod.snd)) = .ok (consented requested named) := by
  have hmem : ∀ x, x ∈ TextSet.ofList (named.toList.map Prod.snd) → x ∈ requested := by
    intro x hx
    obtain ⟨f, hf, rfl⟩ := List.mem_map.mp (TextSet.mem_ofList.mp hx)
    exact h f hf
  have hnone : (TextSet.ofList (named.toList.map Prod.snd)).toList.find? (!requested.contains ·) =
      none := List.find?_eq_none.mpr fun x hx => by simpa using hmem x hx
  have hempty : (TextSet.ofList (named.toList.map Prod.snd)).isEmpty = named.isEmpty := by
    rw [TextSet.isEmpty_ofList, List.isEmpty_map]
    rfl
  rw [grantedScope, consented, hempty, hnone]
  cases named.isEmpty <;> rfl

/-! ## What is issued for it -/

end Endpoint

structure Collaborators.Infallible (c : Collaborators) : Prop where
  sessionState : ∀ subjectId clientId origin, ∃ s, c.sessionState subjectId clientId origin = .ok s
  issueCode : ∀ r p, ∃ code, c.issueCode r p = .ok code
  issueToken : ∀ r p, ∃ token, c.issueToken r p = .ok token

namespace Endpoint

variable {e : Endpoint} {c : Collaborators} {m : Moment} {p : Principal} {form named : TextMap String}
  {kept : Snapshot} {request resubmitted : Request} {target : Url} {grant : GrantType}
  {requested scope : TextSet} {id x : String}

theorem exists_sessionState (h : c.Infallible) (target : Url) (request : Request) (p : Principal) :
    ∃ session, (sessionState c target request p).value = .ok session := by
  unfold sessionState
  split
  · obtain ⟨s, hs⟩ := h.sessionState p.subjectId request.clientId target.origin
    exact ⟨some s, by simp [Collaborators.state, hs, Except.map]⟩
  · exact ⟨none, rfl⟩

theorem exists_issue (h : c.Infallible) (grant : GrantType) (request : Request) (p : Principal) :
    ∃ issued, (issue c grant request p).value = .ok issued := by
  obtain ⟨code, hcode⟩ := h.issueCode request p
  obtain ⟨token, htoken⟩ := h.issueToken request p
  have hissued : (c.code request p).value = .ok code := hcode
  cases grant with
  | authorizationCode => exact ⟨.code code, by simp [issue, hissued, Except.map]⟩
  | implicit =>
    have hcompanion : ∃ k, (companionCode c request p).value = .ok k := by
      unfold companionCode
      split
      · exact ⟨some code, by simp [hissued, Except.map]⟩
      · exact ⟨none, rfl⟩
    obtain ⟨k, hk⟩ := hcompanion
    exact ⟨.token token k, by simp [issue, hk, Collaborators.token, htoken, Except.map]⟩

theorem approve_granted (hc : c.Infallible) (m : Moment)
    (hsame : Request.checkUnmodified kept resubmitted = .ok ())
    (htarget : Redirect.target kept.request = .ok target)
    (hgrant : GrantType.ofResponseTypes kept.request.responseTypes = .ok grant)
    (happroved : e.isApproved form = true)
    (hscope : grantedScope kept.request.scope (e.namedScopes form) = .ok scope) :
    ∃ issued session, Obtained p (e.approve c m form kept resubmitted p).calls grant
        { kept.request with scope, approved := true } target issued session ∧
      (e.approve c m form kept resubmitted p).value = .ok (.success e.approval.status m.now target
        { kept.request with scope, approved := true } issued session) := by
  obtain ⟨session, hsession⟩ :=
    exists_sessionState hc target { kept.request with scope, approved := true } p
  obtain ⟨issued, hissued⟩ := exists_issue hc grant { kept.request with scope, approved := true } p
  obtain ⟨_, hplace, hcalls, hvalue⟩ := respond_ok e m hsession hissued
  refine ⟨issued, session, ?_⟩
  simp only [approve, hsame, htarget, hgrant, decide, happroved, if_true, hscope, Traced.value_bind,
    Traced.value_pure, Traced.calls_bind, Traced.calls_pure, List.append_nil]
  refine ⟨obtained_of_calls [] hplace (by simp) ?_, congrArg _ hvalue⟩
  simpa using hcalls

end Endpoint

end ConsentGate
