import ConsentGate.Proofs.Server.Run
import ConsentGate.Proofs.Timestamp

namespace ConsentGate

/-! ## The answer to a form -/

namespace Endpoint

variable {e : Endpoint} {c : Collaborators} {m : Moment} {p : Principal}

theorem approve_error {form : TextMap String} {kept : Snapshot} {resubmitted : Request}
    {error : AuthError} (h : (e.approve c m form kept resubmitted p).value = .error error) :
    error = .tampered ∨ error.kind = .internal ∨ error.kind = .unsupportedResponseType := by
  unfold approve at h
  split at h
  · next error' hcheck =>
    left
    unfold Request.checkUnmodified at hcheck
    split at hcheck
    · cases hcheck
    · cases hcheck
      cases h
      rfl
  split at h
  · next htarget =>
    cases h
    exact .inr (.inl (Redirect.kind_of_target htarget))
  split at h
  · next hgrant =>
    cases h
    exact .inr (.inr (GrantType.kind_of_ofResponseTypes hgrant))
  · cases h

end Endpoint

namespace HttpResponse

theorem ofAuthError_inj {a b : AuthError} (h : ofAuthError a = ofAuthError b) :
    a.kind.httpStatus = b.kind.httpStatus ∧ a.code.text = b.code.text ∧
      a.description = b.description := by
  simpa [ofAuthError, document, Wire.ofAuthError, Wire.ofErrorBody] using h

theorem status_ofRedirect (r : Redirect) : (ofRedirect r).status ≠ 400 := by
  unfold ofRedirect
  split
  · cases r.status <;> simp [RedirectStatus.code]
  · decide

end HttpResponse

namespace Server

def awaited? (state : ServerState) (form : TextMap String) (p : Principal) : Option HeldSnapshot :=
  (Handlers.snapshotId? form).bind (state.snapshots.due? p.subjectId)

/-- What a form is answered, with all that is done for it. -/
def reply (s : Server) (d : Draw) (state : ServerState) (form : TextMap String) (p : Principal) :
    Traced HttpResponse :=
  Prod.fst <$> Handlers.approve s.endpoint (s.collaborators d) d.moment state.snapshots form p

variable {s : Server} {d : Draw} {state : ServerState} {form : TextMap String} {p : Principal}
  {h : HeldSnapshot}

theorem post_response : (s.post d state form p).1 = (s.reply d state form p).value := rfl

/-- A form is answered by the endpoint if its snapshot is there, and turned down if it is not. -/
theorem reply_eq : s.reply d state form p =
    match awaited? state form p with
    | some h => (fun
        | .error error => .ofAuthError error
        | .ok r => .ofRedirect r) <$> s.endpoint.approve (s.collaborators d) d.moment form h.snapshot
          (Handlers.resubmitted h.snapshot form) p
    | none => pure (.ofAuthError
        (if (Handlers.snapshotId? form).isSome then .snapshotGone else .missingSnapshotId)) := by
  unfold reply Handlers.approve awaited?
  cases Handlers.snapshotId? form with
  | none => rfl
  | some id =>
    simp only [SnapshotStore.take_eq, Option.bind_some]
    cases state.snapshots.due? p.subjectId id with
    | none => rfl
    | some h =>
      dsimp only
      generalize s.endpoint.approve (s.collaborators d) d.moment form h.snapshot
        (Handlers.resubmitted h.snapshot form) p = answer
      obtain ⟨acts, value⟩ := answer
      cases value with
      | error error => simp [Functor.map, bind]
      | ok r => simp [Functor.map, bind]

/-! ## Ticks -/

namespace Input

def now : Input → Timestamp
  | .get d _ _ | .post d _ _ => d.moment.now
  | .tick now _ | .redeem now _ => now

def isTick : Input → Bool
  | .tick _ _ => true
  | _ => false

end Input

def Expired (settings : SnapshotSettings) (now : Timestamp) (h : HeldSnapshot) : Prop :=
  h.snapshot.frozenAt.instant ≤
    now.instant - ServiceSettings.seconds settings.maxAge * 1000000000

instance (settings : SnapshotSettings) (now : Timestamp) (h : HeldSnapshot) :
    Decidable (Expired settings now h) :=
  inferInstanceAs (Decidable (_ ≤ _))

/-- Tells that a tick finds a snapshot too old, on a clock that reaches back far enough. -/
def Input.sweeps (h : HeldSnapshot) : Input → Bool
  | .tick now settings =>
    (now.before? (ServiceSettings.seconds settings.maxAge)).isSome && Expired settings now h
  | _ => false

def swept (inputs : List Input) (h : HeldSnapshot) : Bool :=
  inputs.any (·.sweeps h)

def withoutTicks (inputs : List Input) : List Input :=
  inputs.filter (!·.isTick)

/-- Inputs on a clock that does not go back, all ticks with the same settings. -/
structure Timely (settings : SnapshotSettings) (inputs : List Input) : Prop where
  ordered : inputs.Pairwise (·.now.instant ≤ ·.now.instant)
  configured : ∀ now settings', .tick now settings' ∈ inputs → settings' = settings

variable {settings : SnapshotSettings} {inputs : List Input}

theorem snapshots_get (parameters : TextMap String) : (s.get d state parameters p).2.snapshots =
    match (s.endpoint.authorize (s.collaborators d) d.moment parameters p).value with
    | .ok (.approval page) => state.snapshots.put p.subjectId page.snapshot
    | _ => state.snapshots :=
  Handlers.authorize_store parameters

theorem snapshots_post : (s.post d state form p).2.snapshots =
    match Handlers.snapshotId? form with
    | some id => (state.snapshots.take p.subjectId id).2
    | none => state.snapshots := by
  unfold post settle Handlers.approve
  cases Handlers.snapshotId? form with
  | none => rfl
  | some id =>
    dsimp only
    obtain ⟨taken, store⟩ := state.snapshots.take p.subjectId id
    cases taken with
    | none => rfl
    | some snapshot =>
      dsimp only
      rw [Traced.value_bind]
      split <;> rfl

theorem snapshots_cleanupCodes (now : Timestamp) (state : ServerState) :
    (((s.cleanupCodes? now state).map Prod.snd).getD state).snapshots = state.snapshots := by
  unfold cleanupCodes?
  cases state.codes.cleanup? now s.codeMaxAge with
  | none => rfl
  | some r => rfl

theorem held_tick (hinterval : settings.cleanupInterval ≠ 0) (now : Timestamp) :
    (s.tick now settings state).snapshots.held =
      state.snapshots.held.filter (!(Input.tick now settings).sweeps ·) := by
  unfold tick cleanupSnapshots? SnapshotStore.cleanup?
  rw [if_neg hinterval]
  cases hcutoff : now.before? (ServiceSettings.seconds settings.maxAge) with
  | none => simp [Input.sweeps, hcutoff]
  | some cutoff =>
    obtain ⟨rfl, _⟩ := Timestamp.earlier?_eq_some.mp hcutoff
    simp only [Option.map_some, snapshots_cleanupCodes]
    congr 1
    funext h
    rw [Bool.eq_iff_iff]
    simp only [Input.sweeps, hcutoff, Option.isSome_some, Bool.true_and, decide_eq_true_iff,
      Bool.not_eq_true', decide_eq_false_iff_not]
    exact Int.not_le.symm

/-! ## Runs with their ticks and without -/

/-- What a run holds, against what the same run holds without its ticks. -/
structure Reflects (inputs : List Input) (ticked bare : SnapshotStore) : Prop where
  distinct : bare.Distinct
  held : ticked.held = bare.held.filter (!swept inputs ·)

theorem withoutTicks_append (inputs : List Input) (input : Input) :
    withoutTicks (inputs ++ [input]) =
      if input.isTick then withoutTicks inputs else withoutTicks inputs ++ [input] := by
  cases input <;> simp [withoutTicks, Input.isTick]

theorem swept_append (inputs : List Input) (input : Input) (h : HeldSnapshot) :
    swept (inputs ++ [input]) h = (swept inputs h || input.sweeps h) := by
  simp [swept]

theorem Timely.init {input : Input} (h : Timely settings (inputs ++ [input])) :
    Timely settings inputs where
  ordered := (List.pairwise_append.mp h.ordered).1
  configured := fun now settings' hm => h.configured now settings' (List.mem_append_left _ hm)

theorem Timely.last {input : Input} (h : Timely settings (inputs ++ [input])) :
    ∀ x ∈ inputs, x.now.instant ≤ input.now.instant := fun x hx =>
  (List.pairwise_append.mp h.ordered).2.2 x hx input (List.mem_singleton_self input)

/-- A tick that forgets a snapshot shows that it is too old from then on. -/
theorem expired_of_swept {input : Input} (htimely : Timely settings (inputs ++ [input]))
    (hswept : swept inputs h = true) : Expired settings input.now h := by
  obtain ⟨tick, hm, hsweeps⟩ := List.any_eq_true.mp hswept
  cases tick with
  | tick now settings' =>
    obtain rfl := htimely.init.configured now settings' hm
    have hlast := htimely.last _ hm
    have hexpired : Expired settings' now h := by
      simpa using (Bool.and_eq_true_iff.mp hsweeps).2
    exact Int.le_trans hexpired (Int.sub_le_sub_right hlast _)
  | _ => cases hsweeps

theorem not_expired (hage : settings.maxAge ≠ 0) (h : HeldSnapshot) :
    ¬ Expired settings h.snapshot.frozenAt h := by
  unfold Expired ServiceSettings.seconds ServiceSettings.maxSeconds
  omega

namespace Reflects

variable {ticked bare : SnapshotStore}

theorem distinct_ticked (h : Reflects inputs ticked bare) : ticked.Distinct := by
  rw [SnapshotStore.Distinct, h.held]
  exact h.distinct.filter _

theorem due? (h : Reflects inputs ticked bare) (owner : String) (id : Uuid) :
    ticked.due? owner id = (bare.due? owner id).filter (!swept inputs ·) := by
  rw [← h.distinct.due?_filter, ← h.held]

theorem put (h : Reflects inputs ticked bare) {owner : String} {snapshot : Snapshot}
    (hfresh : swept inputs ⟨owner, snapshot⟩ = false) :
    Reflects inputs (ticked.put owner snapshot) (bare.put owner snapshot) where
  distinct := h.distinct.put owner snapshot
  held := by simp [SnapshotStore.put, h.held, hfresh, List.filter_filter, Bool.and_comm]

theorem take (h : Reflects inputs ticked bare) (owner : String) (id : Uuid) :
    Reflects inputs (ticked.take owner id).2 (bare.take owner id).2 where
  distinct := h.distinct.take owner id
  held := by
    rw [h.distinct_ticked.held_take, h.distinct.held_take, h.held, List.filter_filter,
      List.filter_filter]
    simp only [Bool.and_comm]

theorem append {input : Input} (h : Reflects inputs ticked bare) (hinput : input.isTick = false) :
    Reflects (inputs ++ [input]) ticked bare where
  distinct := h.distinct
  held := by
    rw [h.held]
    congr 1
    funext x
    cases input <;> simp_all [swept_append, Input.sweeps, Input.isTick]

theorem tick {state : ServerState} {now : Timestamp} (hinterval : settings.cleanupInterval ≠ 0)
    (h : Reflects inputs state.snapshots bare) :
    Reflects (inputs ++ [.tick now settings]) (s.tick now settings state).snapshots bare where
  distinct := h.distinct
  held := by
    rw [held_tick hinterval, h.held, List.filter_filter]
    simp [swept_append, Bool.and_comm]

theorem get {state other : ServerState} {parameters : TextMap String} (hage : settings.maxAge ≠ 0)
    (htimely : Timely settings (inputs ++ [.get d parameters p]))
    (h : Reflects inputs state.snapshots other.snapshots) :
    Reflects inputs (s.get d state parameters p).2.snapshots
      (s.get d other parameters p).2.snapshots := by
  rw [snapshots_get, snapshots_get]
  split
  · next page hpage =>
    obtain ⟨request, _, _, _, _, _, _, _, rfl⟩ := Endpoint.authorize_approval hpage
    -- The page is new, so that no tick before it finds it too old.
    apply h.put
    by_contra hswept
    have hexpired := expired_of_swept htimely (Bool.of_not_eq_false hswept)
    exact not_expired hage ⟨p.subjectId, d.moment.snapshotId, d.moment.now, request⟩ hexpired
  · exact h

theorem post {state other : ServerState} (h : Reflects inputs state.snapshots other.snapshots) :
    Reflects inputs (s.post d state form p).2.snapshots (s.post d other form p).2.snapshots := by
  rw [snapshots_post, snapshots_post]
  split
  · exact h.take _ _
  · exact h

end Reflects

theorem Reflects.advance {state other : ServerState} {input : Input} (hage : settings.maxAge ≠ 0)
    (hinterval : settings.cleanupInterval ≠ 0) (htimely : Timely settings (inputs ++ [input]))
    (h : Reflects inputs state.snapshots other.snapshots) :
    Reflects (inputs ++ [input]) (s.advance state input).snapshots
      (if input.isTick then other else s.advance other input).snapshots := by
  cases input with
  | get d parameters p => exact (h.get hage htimely).append rfl
  | post d form p => exact h.post.append rfl
  | tick now settings' =>
    obtain rfl := htimely.configured now settings' (by simp)
    exact h.tick hinterval
  | redeem now code =>
    rw [(redeem_cases now code state).1]
    have hother : (s.advance other (.redeem now code)).snapshots = other.snapshots :=
      (redeem_cases now code other).1
    simpa [Input.isTick, hother] using h.append rfl

theorem reflects_run (hage : settings.maxAge ≠ 0) (hinterval : settings.cleanupInterval ≠ 0)
    (htimely : Timely settings inputs) :
    Reflects inputs (s.run inputs).snapshots (s.run (withoutTicks inputs)).snapshots := by
  induction inputs using List.reverseRecOn with
  | nil => exact ⟨List.nodup_nil, rfl⟩
  | append_singleton inputs input ih =>
    have hadvance := (ih htimely.init).advance (s := s) hage hinterval htimely
    rw [run_append, withoutTicks_append]
    split_ifs at hadvance ⊢
    · exact hadvance
    · rwa [run_append]

/-! ## What the ticks do to an answer -/

theorem Reflects.awaited? {state other : ServerState}
    (h : Reflects inputs state.snapshots other.snapshots) (form : TextMap String) (p : Principal) :
    awaited? state form p = (awaited? other form p).filter (!swept inputs ·) := by
  unfold Server.awaited?
  cases Handlers.snapshotId? form with
  | none => rfl
  | some id => exact h.due? p.subjectId id

theorem named_of_awaited (hsome : awaited? state form p = some h) :
    (Handlers.snapshotId? form).isSome := by
  obtain ⟨id, hid, _⟩ := Option.bind_eq_some_iff.mp hsome
  simp [hid]

theorem reply_gone (hid : (Handlers.snapshotId? form).isSome) (hnone : awaited? state form p = none) :
    s.reply d state form p = pure (.ofAuthError .snapshotGone) := by
  rw [reply_eq, hnone, if_pos hid]

theorem reply_ne_gone (hsome : awaited? state form p = some h) :
    (s.reply d state form p).value ≠ .ofAuthError .snapshotGone := by
  rw [reply_eq, hsome, Traced.value_map]
  split
  · next error herror =>
    intro heq
    obtain ⟨hstatus, hcode, hdescription⟩ := HttpResponse.ofAuthError_inj heq
    obtain rfl | hkind | hkind := Endpoint.approve_error herror
    · revert hdescription
      decide
    · rw [hkind] at hstatus
      revert hstatus
      decide
    · rw [AuthError.code, hkind] at hcode
      revert hcode
      decide
  · next r _ =>
    intro heq
    exact HttpResponse.status_ofRedirect r (congrArg HttpResponse.status heq)

/-- The page of a snapshot is refused as expired exactly if a tick has found the snapshot too old, and
then nothing is issued and nothing changes. Until then the page is answered as if there were no ticks at
all, however old it is. -/
theorem answered_until_swept (settings : ServiceSettings) {fits : String → Bool}
    (hvalid : settings.validate fits = .ok ()) (s : Server) (inputs : List Input) (d : Draw)
    (form : TextMap String) (p : Principal)
    (htimely : Timely settings.snapshots (inputs ++ [.post d form p])) :
    (∀ h, awaited? (s.run (withoutTicks inputs)) form p = some h →
      ((s.post d (s.run inputs) form p).1 = .ofAuthError .snapshotGone ↔ swept inputs h = true) ∧
      (swept inputs h = true → Expired settings.snapshots d.moment.now h ∧
        s.reply d (s.run inputs) form p = pure (.ofAuthError .snapshotGone)) ∧
      (swept inputs h = false → s.reply d (s.run inputs) form p =
        s.reply d (s.run (withoutTicks inputs)) form p)) ∧
    (awaited? (s.run (withoutTicks inputs)) form p = none → s.reply d (s.run inputs) form p =
      s.reply d (s.run (withoutTicks inputs)) form p) := by
  obtain ⟨hage, hinterval, _⟩ := ServiceSettings.validate_ok hvalid
  have hreflects : Reflects inputs (s.run inputs).snapshots (s.run (withoutTicks inputs)).snapshots :=
    reflects_run hage hinterval htimely.init
  have hawaited := hreflects.awaited? form p
  refine ⟨fun h hbare => ?_, fun hbare => ?_⟩
  · rw [post_response]
    rw [hbare, Option.filter_some] at hawaited
    by_cases hswept : swept inputs h = true
    · rw [hswept] at hawaited
      have hrefused : s.reply d (s.run inputs) form p = pure (.ofAuthError .snapshotGone) :=
        reply_gone (named_of_awaited hbare) hawaited
      have hexpired := expired_of_swept htimely hswept
      exact ⟨iff_of_true (by rw [hrefused]; rfl) hswept, fun _ => ⟨hexpired, hrefused⟩,
        by simp [hswept]⟩
    · rw [Bool.not_eq_true] at hswept
      rw [hswept] at hawaited
      exact ⟨iff_of_false (reply_ne_gone hawaited) (by simp [hswept]), by simp [hswept],
        fun _ => by rw [reply_eq, reply_eq, hawaited, hbare]; rfl⟩
  · rw [hbare, Option.filter_none] at hawaited
    rw [reply_eq, reply_eq, hawaited, hbare]

def oneClientSettings : ServiceSettings where
  listen := { bodyLimit := 1000 }
  clients := [{ Client.ofId "foo" with
    redirectUris := .ofList ["https://a.example/cb"]
    grantTypes := .ofList ["authorization_code"] }]

def lateDraw : Draw := { oneDraw with moment := ⟨⟨2024, 1, 1, 0, 10, 0, 0, 0⟩, .ofNat 2⟩ }

def shown : List Input := oneApproval.take 1

def shownAndSwept : List Input :=
  shown ++ [.tick lateDraw.moment.now oneClientSettings.snapshots]

def lateForm : TextMap String :=
  .ofList [("snapshot_id", "00000000000000000000000000000001"), ("user_oauth_approval", "TRUE")]

def marissa : Principal := ⟨"marissa", "marissa", none⟩

theorem timely_shown :
    Timely oneClientSettings.snapshots (shown ++ [.post lateDraw lateForm marissa]) :=
  ⟨by decide, by simp [shown, oneApproval]⟩

theorem timely_shownAndSwept :
    Timely oneClientSettings.snapshots (shownAndSwept ++ [.post lateDraw lateForm marissa]) :=
  ⟨by decide, by simp [shownAndSwept, shown, oneApproval]⟩

theorem answered_until_swept_late : oneClientSettings.validate = .ok () ∧
    Timely oneClientSettings.snapshots (shownAndSwept ++ [.post lateDraw lateForm marissa]) ∧
    ∃ h, awaited? (oneClient.run (withoutTicks shownAndSwept)) lateForm marissa = some h ∧
      swept shownAndSwept h = true ∧
      Expired oneClientSettings.snapshots lateDraw.moment.now h ∧
      oneClient.reply lateDraw (oneClient.run shownAndSwept) lateForm marissa =
        pure (.ofAuthError .snapshotGone) := by
  have hvalid : oneClientSettings.validate = .ok () := by decide +kernel
  have hany : (awaited? (oneClient.run (withoutTicks shownAndSwept)) lateForm marissa).any
      (swept shownAndSwept) = true := by decide +kernel
  obtain ⟨h, hbare, hswept⟩ := (Option.any_eq_true _ _).mp hany
  have hanswered := (answered_until_swept oneClientSettings hvalid oneClient shownAndSwept lateDraw
    lateForm marissa timely_shownAndSwept).1 h hbare
  exact ⟨hvalid, timely_shownAndSwept, h, hbare, hswept, hanswered.2.1 hswept⟩

/-- A page that is too old is answered with a code, but not if a tick came before the answer. -/
theorem answered_when_expired : oneClientSettings.validate = .ok () ∧
    ofSettings oneClientSettings = .ok oneClient ∧
    Timely oneClientSettings.snapshots (shown ++ [.post lateDraw lateForm marissa]) ∧
    Timely oneClientSettings.snapshots (shownAndSwept ++ [.post lateDraw lateForm marissa]) ∧
    (∃ h, awaited? (oneClient.run shown) lateForm marissa = some h ∧
      Expired oneClientSettings.snapshots lateDraw.moment.now h) ∧
    (oneClient.post lateDraw (oneClient.run shown) lateForm marissa).1.status = 302 ∧
    (oneClient.post lateDraw (oneClient.run shown) lateForm marissa).2.codes.size = 1 ∧
    (oneClient.post lateDraw (oneClient.run shownAndSwept) lateForm marissa).1.status = 400 := by
  have hany : (awaited? (oneClient.run shown) lateForm marissa).any
      (Expired oneClientSettings.snapshots lateDraw.moment.now ·) = true := by decide +kernel
  obtain ⟨h, hbare, hexpired⟩ := (Option.any_eq_true _ _).mp hany
  exact ⟨by decide +kernel, rfl, timely_shown, timely_shownAndSwept,
    ⟨h, hbare, of_decide_eq_true hexpired⟩, by decide +kernel, by decide +kernel, by decide +kernel⟩

end Server

end ConsentGate
