import ConsentGate.Proofs.Server.Handlers

namespace ConsentGate.Interleaving

/-- What is to be done, with what the doing draws. -/
inductive Task where
  | get (c : Collaborators) (m : Moment) (parameters : TextMap String) (p : Principal)
  | post (c : Collaborators) (m : Moment) (form : TextMap String) (p : Principal)
  | cleanup (now : Timestamp) (snapshotMaxAge codeMaxAge : Int)

/-- What is left to do: a form whose snapshot is not taken yet; calls to make, and perhaps a snapshot to
hold, before a response; a store to clean up. -/
inductive Job where
  | asking (c : Collaborators) (m : Moment) (form : TextMap String) (p : Principal)
  | working (now : Timestamp) (calls : List Call) (page : Option HeldSnapshot)
      (response : HttpResponse)
  | sweepingSnapshots (now : Timestamp) (snapshotMaxAge codeMaxAge : Int)
  | sweepingCodes (now : Timestamp) (codeMaxAge : Int)
  | finished (response : Option HttpResponse)

/-- What a step does that others can tell. -/
inductive Deed where
  | handed (snapshot : Snapshot)
  | called (call : Call)
  | held (h : HeldSnapshot)

def authorizeAnswer (p : Principal) : Except AuthError Outcome → HttpResponse × Option HeldSnapshot
  | .error error => (.ofAuthError error, none)
  | .ok (.redirect r) => (.ofRedirect r, none)
  | .ok (.approval page) => (.ofApprovalPage page, some ⟨p.subjectId, page.snapshot⟩)

def approveAnswer : Except AuthError Redirect → HttpResponse
  | .error error => .ofAuthError error
  | .ok r => .ofRedirect r

def Task.start (e : Endpoint) : Task → Job
  | .get c m parameters p =>
    let run := e.authorize c m parameters p
    let answer := authorizeAnswer p run.value
    .working m.now run.calls answer.2 answer.1
  | .post c m form p => .asking c m form p
  | .cleanup now snapshotMaxAge codeMaxAge => .sweepingSnapshots now snapshotMaxAge codeMaxAge

structure Progress where
  job : Job
  stores : ServerState
  deed : Option Deed

/-- One step of a job. A cleanup ends where the clock does not reach back far enough. -/
def Job.step (e : Endpoint) (stores : ServerState) : Job → Progress
  | .asking c m form p =>
    match Handlers.snapshotId? form with
    | none => ⟨.finished (some (.ofAuthError .missingSnapshotId)), stores, none⟩
    | some id =>
      match stores.snapshots.take p.subjectId id with
      | (none, snapshots) =>
        ⟨.finished (some (.ofAuthError .snapshotGone)), { stores with snapshots }, none⟩
      | (some snapshot, snapshots) =>
        let run := e.approve c m form snapshot (Handlers.resubmitted snapshot form) p
        ⟨.working m.now run.calls none (approveAnswer run.value), { stores with snapshots },
          some (.handed snapshot)⟩
  | .working now (call :: calls) page response =>
    ⟨.working now calls page response,
      { stores with codes := Server.recordCodes now stores.codes [call] }, some (.called call)⟩
  | .working _ [] (some h) response =>
    ⟨.finished (some response), { stores with snapshots := stores.snapshots.put h.owner h.snapshot },
      some (.held h)⟩
  | .working _ [] none response => ⟨.finished (some response), stores, none⟩
  | .sweepingSnapshots now snapshotMaxAge codeMaxAge =>
    match stores.snapshots.cleanup? now snapshotMaxAge with
    | none => ⟨.finished none, stores, none⟩
    | some (_, snapshots) => ⟨.sweepingCodes now codeMaxAge, { stores with snapshots }, none⟩
  | .sweepingCodes now codeMaxAge =>
    match stores.codes.cleanup? now codeMaxAge with
    | none => ⟨.finished none, stores, none⟩
    | some (_, codes) => ⟨.finished none, { stores with codes }, none⟩
  | .finished response => ⟨.finished response, stores, none⟩

/-- All jobs, the stores they share, and the deeds so far with who did them, last first. -/
structure World where
  jobs : List Job
  stores : ServerState
  log : List (Nat × Deed)

def World.step (e : Endpoint) (w : World) (i : Nat) : World :=
  match w.jobs[i]? with
  | none => w
  | some job =>
    let next := job.step e w.stores
    ⟨w.jobs.set i next.job, next.stores, (next.deed.map (i, ·)).toList ++ w.log⟩

def World.run (e : Endpoint) (w : World) (schedule : List Nat) : World :=
  schedule.foldl (World.step e) w

/-- The world in which all tasks are about to start. -/
def World.start (e : Endpoint) (tasks : List Task) : World :=
  ⟨tasks.map (Task.start e), Server.initial, []⟩

/-! ## Steps of a form -/

theorem step_malformed {e : Endpoint} {c : Collaborators} {m : Moment} {form : TextMap String}
    {p : Principal} (stores : ServerState) (h : Handlers.snapshotId? form = none) :
    Job.step e stores (.asking c m form p) =
      ⟨.finished (some (.ofAuthError .missingSnapshotId)), stores, none⟩ := by
  unfold Job.step
  dsimp only
  rw [h]

theorem step_gone {e : Endpoint} {c : Collaborators} {m : Moment} {form : TextMap String}
    {p : Principal} {stores : ServerState} {id : Uuid} {snapshots : SnapshotStore}
    (h : Handlers.snapshotId? form = some id)
    (ht : stores.snapshots.take p.subjectId id = (none, snapshots)) :
    Job.step e stores (.asking c m form p) =
      ⟨.finished (some (.ofAuthError .snapshotGone)), { stores with snapshots }, none⟩ := by
  unfold Job.step
  dsimp only
  rw [h]
  dsimp only
  rw [ht]

theorem step_handed {e : Endpoint} {c : Collaborators} {m : Moment} {form : TextMap String}
    {p : Principal} {stores : ServerState} {id : Uuid} {snapshot : Snapshot}
    {snapshots : SnapshotStore} (h : Handlers.snapshotId? form = some id)
    (ht : stores.snapshots.take p.subjectId id = (some snapshot, snapshots)) :
    Job.step e stores (.asking c m form p) =
      ⟨.working m.now
          (e.approve c m form snapshot (Handlers.resubmitted snapshot form) p).calls none
          (approveAnswer (e.approve c m form snapshot (Handlers.resubmitted snapshot form) p).value),
        { stores with snapshots }, some (.handed snapshot)⟩ := by
  unfold Job.step
  dsimp only
  rw [h]
  dsimp only
  rw [ht]

/-- All that a step can do. -/
inductive Moves (e : Endpoint) (stores : ServerState) : Job → Progress → Prop where
  | hand {c m form p id h} (hid : Handlers.snapshotId? form = some id)
      (hfind : stores.snapshots.find? id = some h) (howner : h.owner = p.subjectId) :
      Moves e stores (.asking c m form p)
        ⟨.working m.now
            (e.approve c m form h.snapshot (Handlers.resubmitted h.snapshot form) p).calls none
            (approveAnswer
              (e.approve c m form h.snapshot (Handlers.resubmitted h.snapshot form) p).value),
          { stores with
            snapshots := ⟨stores.snapshots.held.filter (!SnapshotStore.isFor id ·)⟩ },
          some (.handed h.snapshot)⟩
  | refuse {c m form p response} (hother : ∀ id h, Handlers.snapshotId? form = some id →
      stores.snapshots.find? id = some h → h.owner ≠ p.subjectId) :
      Moves e stores (.asking c m form p) ⟨.finished response, stores, none⟩
  | call {now call calls page response} :
      Moves e stores (.working now (call :: calls) page response)
        ⟨.working now calls page response,
          { stores with codes := Server.recordCodes now stores.codes [call] }, some (.called call)⟩
  | hold {now h response} :
      Moves e stores (.working now [] (some h) response)
        ⟨.finished (some response),
          { stores with snapshots := stores.snapshots.put h.owner h.snapshot }, some (.held h)⟩
  | sweepSnapshots {now a b n snapshots} (h : stores.snapshots.cleanup? now a = some (n, snapshots)) :
      Moves e stores (.sweepingSnapshots now a b)
        ⟨.sweepingCodes now b, { stores with snapshots }, none⟩
  | sweepCodes {now b n codes} (h : stores.codes.cleanup? now b = some (n, codes)) :
      Moves e stores (.sweepingCodes now b) ⟨.finished none, { stores with codes }, none⟩
  | stop {job response} (h : ∀ c m form p, job ≠ .asking c m form p) :
      Moves e stores job ⟨.finished response, stores, none⟩

theorem step_moves (e : Endpoint) (stores : ServerState) (job : Job) :
    Moves e stores job (job.step e stores) := by
  cases job with
  | asking c m form p =>
    cases hid : Handlers.snapshotId? form with
    | none =>
      rw [step_malformed stores hid]
      exact .refuse (by simp [hid])
    | some id =>
      obtain ⟨h, hfind, howner, htake⟩ | ⟨htake, hother⟩ :=
        SnapshotStore.take_cases stores.snapshots p.subjectId id
      · rw [step_handed hid htake]
        exact .hand hid hfind howner
      · rw [step_gone hid htake]
        refine .refuse fun id' h hid' hfind => ?_
        obtain rfl := Option.some.inj (hid.symm.trans hid')
        exact hother h hfind
  | working now calls page response =>
    cases calls with
    | cons call calls => exact .call
    | nil =>
      cases page with
      | none => exact .stop (by simp)
      | some h => exact .hold
  | sweepingSnapshots now a b =>
    unfold Job.step
    dsimp only
    split
    · exact .stop (by simp)
    next h => exact .sweepSnapshots h
  | sweepingCodes now b =>
    unfold Job.step
    dsimp only
    split
    · exact .stop (by simp)
    next h => exact .sweepCodes h
  | finished response => exact .stop (by simp)

/-! ## A task that is left alone -/

/-- The job after `n` steps that nothing comes between, with the stores then. -/
def Job.alone (e : Endpoint) : Nat → Job → ServerState → Job × ServerState
  | 0, job, stores => (job, stores)
  | n + 1, job, stores => Job.alone e n (job.step e stores).job (job.step e stores).stores

theorem alone_calls (e : Endpoint) (now : Timestamp) (calls : List Call)
    (page : Option HeldSnapshot) (response : HttpResponse) (stores : ServerState) (n : Nat) :
    Job.alone e (n + calls.length) (.working now calls page response) stores =
      Job.alone e n (.working now [] page response)
        { stores with codes := Server.recordCodes now stores.codes calls } := by
  induction calls generalizing stores with
  | nil => rfl
  | cons call calls ih =>
    rw [List.length_cons, ← Nat.add_assoc, Job.alone]
    exact ih _

theorem alone_get (s : Server) (d : Draw) (state : ServerState) (parameters : TextMap String)
    (p : Principal) : ∃ n,
    Job.alone s.endpoint n
        ((Task.get (s.collaborators d) d.moment parameters p).start s.endpoint) state =
      (.finished (some (s.get d state parameters p).1), (s.get d state parameters p).2) := by
  refine ⟨1 + (s.endpoint.authorize (s.collaborators d) d.moment parameters p).calls.length, ?_⟩
  rw [Task.start, alone_calls, Server.get, Server.settle, Handlers.calls_authorize,
    Handlers.authorize, Traced.value_bind]
  cases (s.endpoint.authorize (s.collaborators d) d.moment parameters p).value with
  | error error => rfl
  | ok outcome => cases outcome <;> rfl

theorem alone_post (s : Server) (d : Draw) (state : ServerState) (form : TextMap String)
    (p : Principal) : ∃ n,
    Job.alone s.endpoint n ((Task.post (s.collaborators d) d.moment form p).start s.endpoint)
        state =
      (.finished (some (s.post d state form p).1), (s.post d state form p).2) := by
  cases hid : Handlers.snapshotId? form with
  | none =>
    refine ⟨1, ?_⟩
    rw [Task.start, Job.alone, step_malformed state hid, Server.post, Handlers.approve, hid]
    rfl
  | some id =>
    rcases htake : state.snapshots.take p.subjectId id with ⟨_ | snapshot, snapshots⟩
    · refine ⟨1, ?_⟩
      rw [Task.start, Job.alone, step_gone hid htake, Server.post, Handlers.approve, hid]
      dsimp only
      rw [htake]
      rfl
    · refine ⟨1 + (s.endpoint.approve (s.collaborators d) d.moment form snapshot
        (Handlers.resubmitted snapshot form) p).calls.length + 1, ?_⟩
      rw [Task.start, Job.alone, step_handed hid htake, alone_calls, Server.post, Server.settle,
        Handlers.approve, hid]
      dsimp only
      rw [htake]
      dsimp only
      rw [Traced.value_bind, Traced.calls_bind]
      cases (s.endpoint.approve (s.collaborators d) d.moment form snapshot
        (Handlers.resubmitted snapshot form) p).value <;> simp <;> rfl

theorem alone_cleanup (s : Server) (now : Timestamp) (settings : SnapshotSettings)
    (state : ServerState) (h : settings.cleanupInterval ≠ 0) :
    Job.alone s.endpoint 2
        ((Task.cleanup now (ServiceSettings.seconds settings.maxAge) s.codeMaxAge).start s.endpoint)
        state =
      (.finished none, s.tick now settings state) := by
  rw [Server.tick, if_neg h, Server.cleanupSnapshots?, Task.start, Job.alone]
  cases hsnapshots : state.snapshots.cleanup? now (ServiceSettings.seconds settings.maxAge) with
  | none =>
    unfold Job.step
    dsimp only
    rw [hsnapshots]
    rfl
  | some r =>
    unfold Job.step
    dsimp only
    rw [hsnapshots, Option.map_some]
    dsimp only
    rw [Job.alone, Server.cleanupCodes?]
    unfold Job.step
    dsimp only
    cases state.codes.cleanup? now s.codeMaxAge <;> rfl

end ConsentGate.Interleaving
