import ConsentGate.Proofs.Server.Expiry

namespace ConsentGate

namespace SnapshotStore

def ownedBy (s : SnapshotStore) (owner : String) : SnapshotStore :=
  ⟨s.held.filter (·.owner = owner)⟩

variable {s t : SnapshotStore} {owner other : String} {id : Uuid} {snapshot : Snapshot}

theorem eq_of_held (h : s.held = t.held) : s = t := by
  cases s
  cases t
  exact congrArg mk h

theorem Distinct.due?_ownedBy (hs : s.Distinct) :
    (s.ownedBy owner).due? owner id = s.due? owner id := by
  rw [ownedBy, hs.due?_filter, due?, Option.filter_filter]
  simp

theorem ownedBy_put :
    (s.put owner snapshot).ownedBy owner = (s.ownedBy owner).put owner snapshot := by
  simp [ownedBy, put, List.filter_filter, Bool.and_comm]

theorem ownedBy_put_other (hne : other ≠ owner)
    (hfresh : ∀ h ∈ s.held, h.snapshot.id ≠ snapshot.id) :
    (s.put other snapshot).ownedBy owner = s.ownedBy owner := by
  have hkept : s.held.filter (!isFor snapshot.id ·) = s.held :=
    List.filter_eq_self.mpr fun h hm => by simpa [isFor] using hfresh h hm
  simp [ownedBy, put, hkept, hne]

theorem ownedBy_filter (keep : HeldSnapshot → Bool) :
    ownedBy ⟨s.held.filter keep⟩ owner = ⟨(s.ownedBy owner).held.filter keep⟩ := by
  simp [ownedBy, List.filter_filter, Bool.and_comm]

theorem Distinct.ownedBy_take (hs : s.Distinct) :
    (s.take owner id).2.ownedBy owner = ((s.ownedBy owner).take owner id).2 := by
  have howned : (s.ownedBy owner).Distinct := hs.filter _
  apply eq_of_held
  rw [howned.held_take, ownedBy, hs.held_take, ownedBy, List.filter_filter, List.filter_filter]
  simp only [Bool.and_comm]

theorem Distinct.ownedBy_take_other (hs : s.Distinct) (hne : other ≠ owner) :
    (s.take other id).2.ownedBy owner = s.ownedBy owner := by
  apply eq_of_held
  rw [ownedBy, hs.held_take, ownedBy, List.filter_filter]
  refine List.filter_congr fun h _ => ?_
  by_cases howner : h.owner = owner
  · simp [howner, hne.symm]
  · simp [howner]

end SnapshotStore

namespace Server

namespace Input

def subject? : Input → Option String
  | .get _ _ p | .post _ _ p => some p.subjectId
  | .tick _ _ | .redeem _ _ => none

/-- Tells the inputs that may matter to a user: the user's own requests, and the ticks. -/
def concerns (subject : String) : Input → Bool
  | .get _ _ p | .post _ _ p => p.subjectId = subject
  | .tick _ _ => true
  | .redeem _ _ => false

def draws? (s : Server) : Input → Option Uuid
  | .get d parameters p =>
    match (s.endpoint.authorize (s.collaborators d) d.moment parameters p).value with
    | .ok (.approval _) => some d.moment.snapshotId
    | _ => none
  | _ => none

end Input

def response? (s : Server) (state : ServerState) : Input → Option HttpResponse
  | .get d parameters p => some (s.get d state parameters p).1
  | .post d form p => some (s.post d state form p).1
  | .tick _ _ | .redeem _ _ => none

/-- What a user is answered, one response after another. -/
def received (s : Server) (subject : String) : ServerState → List Input → List HttpResponse
  | _, [] => []
  | state, input :: inputs =>
    (if input.subject? = some subject then (s.response? state input).toList else []) ++
      received s subject (s.advance state input) inputs

/-- No identifier is drawn twice. -/
def Fresh (s : Server) (inputs : List Input) : Prop :=
  (inputs.filterMap (·.draws? s)).Nodup

instance (s : Server) (inputs : List Input) : Decidable (Fresh s inputs) :=
  inferInstanceAs (Decidable (List.Nodup _))

variable {s : Server} {subject : String} {inputs : List Input} {input : Input}
  {state own : ServerState} {d : Draw} {form : TextMap String} {p : Principal}

theorem received_append (state : ServerState) (inputs : List Input) (input : Input) :
    s.received subject state (inputs ++ [input]) = s.received subject state inputs ++
      if input.subject? = some subject then (s.response? (inputs.foldl s.advance state) input).toList
      else [] := by
  induction inputs generalizing state with
  | nil => simp [received]
  | cons first inputs ih => simp [received, ih]

/-! ## What is held in a run -/

/-- A tick looks at each snapshot by itself. -/
theorem snapshots_tick (s : Server) (now : Timestamp) (settings : SnapshotSettings) :
    ∃ keep, ∀ state, (s.tick now settings state).snapshots = ⟨state.snapshots.held.filter keep⟩ := by
  by_cases hinterval : settings.cleanupInterval = 0
  · refine ⟨fun _ => true, fun state => ?_⟩
    rw [tick, if_pos hinterval, List.filter_true]
  · exact ⟨_, fun state => SnapshotStore.eq_of_held (held_tick hinterval now)⟩

theorem distinct_advance (h : state.snapshots.Distinct) (input : Input) :
    (s.advance state input).snapshots.Distinct := by
  cases input with
  | get d parameters p =>
    rw [advance, snapshots_get]
    split
    · exact h.put _ _
    · exact h
  | post d form p =>
    rw [advance, snapshots_post]
    split
    · exact h.take _ _
    · exact h
  | tick now settings =>
    obtain ⟨keep, htick⟩ := snapshots_tick s now settings
    rw [advance, htick]
    exact h.filter keep
  | redeem now code =>
    rw [(redeem_cases now code state).1]
    exact h

theorem distinct_run (inputs : List Input) : (s.run inputs).snapshots.Distinct :=
  @run_invariant s (fun _ state => state.snapshots.Distinct) List.nodup_nil
    (fun _ _ input h => distinct_advance h input) inputs

theorem draws?_of_page {d : Draw} {parameters : TextMap String} {page : ApprovalPage}
    (h : (s.endpoint.authorize (s.collaborators d) d.moment parameters p).value =
      .ok (.approval page)) :
    (Input.get d parameters p).draws? s = some page.snapshot.id := by
  have hdrawn : (Input.get d parameters p).draws? s = some d.moment.snapshotId := by
    simp [Input.draws?, h]
  obtain ⟨_, _, _, _, _, _, _, _, rfl⟩ := Endpoint.authorize_approval h
  exact hdrawn

theorem drawn_of_held (inputs : List Input) : ∀ h ∈ (s.run inputs).snapshots.held,
    ∃ input ∈ inputs, input.draws? s = some h.snapshot.id ∧ input.subject? = some h.owner := by
  intro h hm
  obtain ⟨i, d, parameters, p, page, hi, hpage, rfl⟩ := page_of_held inputs h hm
  exact ⟨_, List.mem_of_getElem? hi, draws?_of_page hpage, rfl⟩

theorem Fresh.init (h : Fresh s (inputs ++ [input])) : Fresh s inputs := by
  rw [Fresh, List.filterMap_append] at h
  exact h.of_append_left

theorem Fresh.last (h : Fresh s (inputs ++ [input])) {id : Uuid} (hid : input.draws? s = some id) :
    ∀ x ∈ inputs, x.draws? s ≠ some id := by
  intro x hx hdrawn
  rw [Fresh, List.filterMap_append, List.nodup_append] at h
  exact h.2.2 id (List.mem_filterMap.mpr ⟨x, hx, hdrawn⟩) id (by simp [hid]) rfl

theorem Fresh.not_held (h : Fresh s (inputs ++ [input])) {id : Uuid}
    (hid : input.draws? s = some id) :
    ∀ x ∈ (s.run inputs).snapshots.held, x.snapshot.id ≠ id := by
  rintro x hx rfl
  obtain ⟨earlier, hearlier, hdrawn, _⟩ := drawn_of_held inputs x hx
  exact h.last hid earlier hearlier hdrawn

/-! ## One input -/

theorem get_response (d : Draw) (state other : ServerState) (parameters : TextMap String)
    (p : Principal) : (s.get d state parameters p).1 = (s.get d other parameters p).1 := by
  unfold get settle Handlers.authorize
  simp only [Traced.value_bind]
  split <;> rfl

theorem awaited?_own (hdistinct : state.snapshots.Distinct)
    (hown : own.snapshots = state.snapshots.ownedBy p.subjectId) :
    awaited? own form p = awaited? state form p := by
  unfold awaited?
  rw [hown]
  congr 1
  funext id
  exact hdistinct.due?_ownedBy

theorem response_own (hdistinct : state.snapshots.Distinct) (hsubject : input.subject? = some subject)
    (hown : own.snapshots = state.snapshots.ownedBy subject) :
    s.response? own input = s.response? state input := by
  cases input with
  | get d parameters p => exact congrArg some (get_response d own state parameters p)
  | post d form p =>
    obtain rfl := Option.some.inj hsubject
    simp only [response?, post_response, reply_eq, awaited?_own hdistinct hown]
  | tick now settings => rfl
  | redeem now code => rfl

/-- What concerns a user does the same to the user's snapshots among others and alone. -/
theorem ownedBy_advance (hdistinct : state.snapshots.Distinct)
    (hconcerns : input.concerns subject = true)
    (hown : own.snapshots = state.snapshots.ownedBy subject) :
    (s.advance own input).snapshots = (s.advance state input).snapshots.ownedBy subject := by
  cases input with
  | get d parameters p =>
    obtain rfl := of_decide_eq_true hconcerns
    rw [advance, advance, snapshots_get, snapshots_get, hown]
    split
    · exact SnapshotStore.ownedBy_put.symm
    · rfl
  | post d form p =>
    obtain rfl := of_decide_eq_true hconcerns
    rw [advance, advance, snapshots_post, snapshots_post, hown]
    split
    · exact hdistinct.ownedBy_take.symm
    · rfl
  | tick now settings =>
    obtain ⟨keep, htick⟩ := snapshots_tick s now settings
    rw [advance, advance, htick, htick, hown]
    exact (SnapshotStore.ownedBy_filter keep).symm
  | redeem now code => cases hconcerns

/-- What others send leaves the snapshots of a user alone. -/
theorem ownedBy_advance_other (hdistinct : state.snapshots.Distinct)
    (hconcerns : input.concerns subject = false)
    (hfresh : ∀ id, input.draws? s = some id → ∀ h ∈ state.snapshots.held, h.snapshot.id ≠ id) :
    (s.advance state input).snapshots.ownedBy subject = state.snapshots.ownedBy subject := by
  cases input with
  | get d parameters p =>
    have hne := of_decide_eq_false hconcerns
    rw [advance, snapshots_get]
    split
    · next page hpage =>
      exact SnapshotStore.ownedBy_put_other hne (hfresh page.snapshot.id (draws?_of_page hpage))
    · rfl
  | post d form p =>
    have hne := of_decide_eq_false hconcerns
    rw [advance, snapshots_post]
    split
    · exact hdistinct.ownedBy_take_other hne
    · rfl
  | tick now settings => cases hconcerns
  | redeem now code => rw [(redeem_cases now code state).1]

/-! ## Runs -/

theorem ownedBy_run_other (hfresh : Fresh s (inputs ++ [input]))
    (hconcerns : input.concerns subject = false) :
    (s.run (inputs ++ [input])).snapshots.ownedBy subject =
      (s.run inputs).snapshots.ownedBy subject := by
  rw [run_append]
  exact ownedBy_advance_other (distinct_run inputs) hconcerns fun _ hid => hfresh.not_held hid

theorem concerns_of_subject (h : input.subject? = some subject) : input.concerns subject = true := by
  cases input with
  | get d parameters p => exact decide_eq_true (Option.some.inj h)
  | post d form p => exact decide_eq_true (Option.some.inj h)
  | tick now settings => cases h
  | redeem now code => cases h

/-- A user who is alone with the clock holds and is answered the same. -/
theorem run_alone (hfresh : Fresh s inputs) :
    (s.run (inputs.filter (·.concerns subject))).snapshots =
        (s.run inputs).snapshots.ownedBy subject ∧
      s.received subject initial (inputs.filter (·.concerns subject)) =
        s.received subject initial inputs := by
  -- Both runs take what concerns the user; what else there is moves only the one among others.
  induction inputs using List.reverseRecOn with
  | nil => exact ⟨rfl, rfl⟩
  | append_singleton inputs input ih =>
    obtain ⟨hsnapshots, hreceived⟩ := ih hfresh.init
    rw [List.filter_append]
    by_cases hconcerns : input.concerns subject = true
    · have hone : [input].filter (·.concerns subject) = [input] := by simp [hconcerns]
      rw [hone, run_append, run_append, received_append, received_append]
      refine ⟨ownedBy_advance (distinct_run inputs) hconcerns hsnapshots, ?_⟩
      rw [hreceived]
      congr 1
      split
      · next hsubject =>
        exact congrArg Option.toList (response_own (distinct_run inputs) hsubject hsnapshots)
      · rfl
    · have hnone : [input].filter (·.concerns subject) = [] := by simp [hconcerns]
      have hother : ¬ input.subject? = some subject := fun h => hconcerns (concerns_of_subject h)
      rw [hnone, List.append_nil, received_append, if_neg hother, List.append_nil,
        ownedBy_run_other hfresh (Bool.of_not_eq_true hconcerns)]
      exact ⟨hsnapshots, hreceived⟩

theorem post_refused (hnone : awaited? state form p = none) : s.post d state form p =
    (.ofAuthError (if (Handlers.snapshotId? form).isSome then .snapshotGone else .missingSnapshotId),
      state) := by
  unfold post Handlers.approve
  unfold awaited? at hnone
  cases hid : Handlers.snapshotId? form with
  | none => rfl
  | some id =>
    rw [hid, Option.bind_some] at hnone
    dsimp only
    rw [SnapshotStore.take_eq, hnone]
    rfl

/-- A user cannot tell two runs apart that have the same clock and the user's own requests in common, and
no request of another user takes or changes a snapshot of the user. A snapshot that was not shown to the
user might as well not exist: its form is refused and changes nothing. -/
theorem isolated (s : Server) (subject : String) (a b : List Input) (ha : Fresh s a) (hb : Fresh s b)
    (hsame : a.filter (·.concerns subject) = b.filter (·.concerns subject)) :
    s.received subject initial a = s.received subject initial b ∧
    (∀ inputs input, inputs ++ [input] <+: a → input.concerns subject = false →
      (s.run (inputs ++ [input])).snapshots.ownedBy subject =
        (s.run inputs).snapshots.ownedBy subject) ∧
    ∀ d form p id, p.subjectId = subject → Handlers.snapshotId? form = some id →
      (∀ input ∈ a, input.draws? s = some id → input.subject? ≠ some subject) →
      s.post d (s.run a) form p = (.ofAuthError .snapshotGone, s.run a) := by
  refine ⟨?_, fun inputs input hprefix hother => ?_, fun d form p id hp hid hforeign => ?_⟩
  · rw [← (run_alone ha).2, ← (run_alone hb).2, hsame]
  · obtain ⟨rest, rfl⟩ := hprefix
    rw [Fresh, List.filterMap_append] at ha
    exact ownedBy_run_other ha.of_append_left hother
  · subst hp
    have hnone : awaited? (s.run a) form p = none := by
      rw [awaited?, hid, Option.bind_some]
      cases hdue : (s.run a).snapshots.due? p.subjectId id with
      | none => rfl
      | some h =>
        obtain ⟨hm, rfl, howner⟩ := (distinct_run a).due?_iff.mp hdue
        obtain ⟨input, hinput, hdrawn, hsubject⟩ := drawn_of_held a h hm
        rw [howner] at hsubject
        exact absurd hsubject (hforeign input hinput hdrawn)
    rw [post_refused hnone, hid]
    rfl

def mallory : Principal := ⟨"mallory", "mallory", none⟩

def otherForm : TextMap String :=
  .ofList [("snapshot_id", "00000000000000000000000000000002"), ("user_oauth_approval", "true")]

def intrusion : List Input :=
  [.get lateDraw (.ofList [("client_id", "foo"), ("response_type", "code"), ("scope", "read")]) mallory,
    .post lateDraw lateForm mallory, .redeem lateDraw.moment.now "c"]

def undisturbed : List Input := shown ++ [.post lateDraw lateForm marissa]

def disturbed : List Input := shown ++ intrusion ++ [.post lateDraw lateForm marissa]

theorem isolated_disturbed : Fresh oneClient disturbed ∧ Fresh oneClient undisturbed ∧
    disturbed.filter (·.concerns "marissa") = undisturbed.filter (·.concerns "marissa") ∧
    oneClient.received "marissa" initial disturbed =
      oneClient.received "marissa" initial undisturbed ∧
    (oneClient.received "marissa" initial disturbed).map (·.status) = [200, 302] ∧
    (oneClient.run (shown ++ intrusion.take 1 ++ [.post lateDraw lateForm mallory])).snapshots.ownedBy
      "marissa" = (oneClient.run (shown ++ intrusion.take 1)).snapshots.ownedBy "marissa" ∧
    oneClient.post lateDraw (oneClient.run disturbed) otherForm marissa =
      (.ofAuthError .snapshotGone, oneClient.run disturbed) := by
  have ha : Fresh oneClient disturbed := by decide +kernel
  have hb : Fresh oneClient undisturbed := by decide +kernel
  have hsame : disturbed.filter (·.concerns "marissa") = undisturbed.filter (·.concerns "marissa") := by
    rfl
  obtain ⟨hreceived, hkept, hforeign⟩ :=
    isolated oneClient "marissa" disturbed undisturbed ha hb hsame
  refine ⟨ha, hb, hsame, hreceived, by decide +kernel, hkept _ _ ⟨_, rfl⟩ rfl, ?_⟩
  exact hforeign lateDraw otherForm marissa (.ofNat 2) rfl (by decide +kernel) (by decide +kernel)

end Server

end ConsentGate
