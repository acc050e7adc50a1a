import ConsentGate.Proofs.Server.Handlers
import Mathlib.Data.List.Induction

namespace ConsentGate.Server

inductive Input where
  | get (d : Draw) (parameters : TextMap String) (p : Principal)
  | post (d : Draw) (form : TextMap String) (p : Principal)
  | tick (now : Timestamp) (settings : SnapshotSettings)
  | redeem (now : Timestamp) (code : String)

def advance (s : Server) (state : ServerState) : Input → ServerState
  | .get d parameters p => (s.get d state parameters p).2
  | .post d form p => (s.post d state form p).2
  | .tick now settings => s.tick now settings state
  | .redeem now code => ((s.redeem? now state code).map Prod.snd).getD state

def run (s : Server) (inputs : List Input) : ServerState :=
  inputs.foldl s.advance initial

def oneClient : Server where
  endpoint := ⟨{}, {}, .standard, Glob.isSmall⟩
  clients := .ofList [("foo", { Client.ofId "foo" with
    redirectUris := .ofList ["https://a.example/cb"]
    grantTypes := .ofList ["authorization_code"] })]
  bodyLimit := 1000
  codeMaxAge := 300

def oneDraw : Draw := ⟨⟨⟨2024, 1, 1, 0, 0, 0, 0, 0⟩, .ofNat 1⟩, "c", "t", "salt"⟩

def oneApproval : List Input :=
  [.get oneDraw (.ofList [("client_id", "foo"), ("response_type", "code"), ("scope", "read write")])
      ⟨"marissa", "marissa", none⟩,
    .post oneDraw (.ofList [("snapshot_id", "00000000000000000000000000000001"),
      ("user_oauth_approval", "TRUE"), ("scope.0", "read")]) ⟨"marissa", "marissa", none⟩]

variable {s : Server}

theorem run_append (inputs : List Input) (input : Input) :
    s.run (inputs ++ [input]) = s.advance (s.run inputs) input := by
  simp [run]

theorem run_invariant {holds : List Input → ServerState → Prop} (hinit : holds [] initial)
    (hstep : ∀ inputs state input, holds inputs state →
      holds (inputs ++ [input]) (s.advance state input)) (inputs : List Input) :
    holds inputs (s.run inputs) := by
  induction inputs using List.reverseRecOn with
  | nil => exact hinit
  | append_singleton inputs input ih =>
    rw [run_append]
    exact hstep inputs _ input ih

theorem getElem?_append_of_some {inputs : List Input} {i : Nat} {input last : Input}
    (h : inputs[i]? = some input) : (inputs ++ [last])[i]? = some input := by
  obtain ⟨hi, _⟩ := List.getElem?_eq_some_iff.mp h
  rwa [List.getElem?_append_left hi]

theorem tick_cases (now : Timestamp) (settings : SnapshotSettings) (state : ServerState) :
    (∀ h ∈ (s.tick now settings state).snapshots.held, h ∈ state.snapshots.held) ∧
      ∀ x ∈ (s.tick now settings state).codes.entries, x ∈ state.codes.entries := by
  unfold tick
  split
  · exact ⟨fun _ => id, fun _ => id⟩
  split
  · exact ⟨fun _ => id, fun _ => id⟩
  next n swept hsnapshots =>
  obtain ⟨⟨n', kept⟩, hkept, heq⟩ := Option.map_eq_some_iff.mp hsnapshots
  obtain rfl := (Prod.mk.inj heq).2
  cases hcodes : s.cleanupCodes? now { state with snapshots := kept } with
  | none => exact ⟨fun h hm => SnapshotStore.mem_cleanup? hkept hm, fun _ => id⟩
  | some r =>
    obtain ⟨⟨n'', left⟩, hleft, rfl⟩ := Option.map_eq_some_iff.mp hcodes
    exact ⟨fun h hm => SnapshotStore.mem_cleanup? hkept hm,
      fun x hx => CodeStore.mem_cleanup? hleft hx⟩

theorem redeem_cases (now : Timestamp) (code : String) (state : ServerState) :
    (s.advance state (.redeem now code)).snapshots = state.snapshots ∧
      ∀ x ∈ (s.advance state (.redeem now code)).codes.entries, x ∈ state.codes.entries := by
  rw [advance, redeem?]
  cases hr : state.codes.redeem? now s.codeMaxAge code with
  | none => exact ⟨rfl, fun _ => id⟩
  | some r => exact ⟨rfl, fun x hx => CodeStore.mem_redeem? hr hx⟩

/-- A snapshot that is held was held before, or an authorization request led to the page that asks its
owner. -/
theorem mem_held_advance {state : ServerState} {input : Input} {h : HeldSnapshot}
    (hm : h ∈ (s.advance state input).snapshots.held) :
    h ∈ state.snapshots.held ∨ ∃ d parameters p page, input = .get d parameters p ∧
      (s.endpoint.authorize (s.collaborators d) d.moment parameters p).value =
        .ok (.approval page) ∧
      h = ⟨p.subjectId, page.snapshot⟩ := by
  cases input with
  | get d parameters p =>
    obtain hm | ⟨page, hpage, heq⟩ := Handlers.mem_authorize hm
    · exact .inl hm
    · exact .inr ⟨d, parameters, p, page, rfl, hpage, heq⟩
  | post d form p => exact .inl (Handlers.mem_approve hm)
  | tick now settings => exact .inl ((tick_cases now settings state).1 h hm)
  | redeem now code =>
    rw [(redeem_cases now code state).1] at hm
    exact .inl hm

/-- A snapshot that is held stands on a page that its owner was shown. -/
theorem page_of_held (inputs : List Input) : ∀ h ∈ (s.run inputs).snapshots.held,
    ∃ (i : Nat) (d : Draw) (parameters : TextMap String) (p : Principal) (page : ApprovalPage),
      inputs[i]? = some (.get d parameters p) ∧
      (s.endpoint.authorize (s.collaborators d) d.moment parameters p).value =
        .ok (.approval page) ∧
      h = ⟨p.subjectId, page.snapshot⟩ := by
  induction inputs using List.reverseRecOn with
  | nil => exact fun h hm => absurd hm List.not_mem_nil
  | append_singleton inputs input ih =>
    intro h hm
    rw [run_append] at hm
    obtain hm | ⟨d, parameters, p, page, rfl, hpage⟩ := mem_held_advance hm
    · obtain ⟨i, d, parameters, p, page, hi, hpage⟩ := ih h hm
      exact ⟨i, d, parameters, p, page, getElem?_append_of_some hi, hpage⟩
    · exact ⟨inputs.length, d, parameters, p, page, by simp, hpage⟩

/-- A code that is kept was kept before, or it was issued at an authorization request, or at the
approval of a snapshot by its owner. -/
theorem mem_codes_advance {state : ServerState} {input : Input} {x : String × IssuedCode}
    (hx : x ∈ (s.advance state input).codes.entries) :
    x ∈ state.codes.entries ∨
    (∃ d parameters p request q, input = .get d parameters p ∧
      .code request q (.ok x.1) ∈
        (s.endpoint.authorize (s.collaborators d) d.moment parameters p).calls ∧
      x.2 = ⟨request, q.subjectId, d.moment.now⟩) ∨
    ∃ d form p id h request q, input = .post d form p ∧ Handlers.snapshotId? form = some id ∧
      state.snapshots.find? id = some h ∧ h.owner = p.subjectId ∧
      .code request q (.ok x.1) ∈ (s.endpoint.approve (s.collaborators d) d.moment form h.snapshot
        (Handlers.resubmitted h.snapshot form) p).calls ∧
      x.2 = ⟨request, q.subjectId, d.moment.now⟩ := by
  cases input with
  | get d parameters p =>
    obtain hx | ⟨request, q, hm, hx⟩ := mem_recordCodes hx
    · exact .inl hx
    · rw [Handlers.calls_authorize] at hm
      exact .inr (.inl ⟨d, parameters, p, request, q, rfl, hm, hx⟩)
  | post d form p =>
    obtain hx | ⟨request, q, hm, hx⟩ := mem_recordCodes hx
    · exact .inl hx
    obtain ⟨hcalls, _⟩ | ⟨id, h, hid, hfind, howner, hcalls, _⟩ :=
      Handlers.approve_cases s.endpoint (s.collaborators d) d.moment p state.snapshots form
    · rw [hcalls] at hm
      exact absurd hm List.not_mem_nil
    · rw [hcalls] at hm
      exact .inr (.inr ⟨d, form, p, id, h, request, q, rfl, hid, hfind, howner, hm, hx⟩)
  | tick now settings => exact .inl ((tick_cases now settings state).2 x hx)
  | redeem now code => exact .inl ((redeem_cases now code state).2 x hx)

end ConsentGate.Server
