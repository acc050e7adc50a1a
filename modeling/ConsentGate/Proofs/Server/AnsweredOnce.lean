import ConsentGate.Proofs.Server.Interleaving
import ConsentGate.Proofs.Server.Run

namespace ConsentGate.Interleaving

def Deed.hands (id : Uuid) : Deed → Bool
  | .handed snapshot => snapshot.id = id
  | _ => false

def Deed.holds (id : Uuid) : Deed → Bool
  | .held h => h.snapshot.id = id
  | _ => false

def Deed.calls (kind : Call → Bool) : Deed → Bool
  | .called call => kind call
  | _ => false

def issuesCode : Call → Bool
  | .code _ _ (.ok _) => true
  | _ => false

def issuesToken : Call → Bool
  | .token _ _ (.ok _) => true
  | _ => false

def Job.pending (id : Uuid) : Job → Bool
  | .working _ _ (some h) _ => h.snapshot.id = id
  | _ => false

def Job.due (kind : Call → Bool) : Job → Nat
  | .asking .. => 1
  | .working _ calls _ _ => calls.countP kind
  | _ => 0

def Task.draws? : Task → Option Uuid
  | .get _ m _ _ => some m.snapshotId
  | _ => none

/-! ## One step of a job -/

variable {e : Endpoint} {stores : ServerState} {w : World} {tasks : List Task}

theorem pending_step {job : Job} {next : Progress} (h : Moves e stores job next) (id : Uuid) :
    (next.job.pending id).toNat + next.deed.toList.countP (Deed.holds id) ≤
      (job.pending id).toNat := by
  cases h with
  | hold =>
    rename_i h _
    by_cases hid : h.snapshot.id = id <;> simp [Job.pending, Deed.holds, hid]
  | call =>
    rename_i page _
    cases page <;> simp [Job.pending, Deed.holds]
  | _ => simp [Job.pending, Deed.holds]

/-- A step leaves what was held and what it stores, less what it hands out. -/
theorem held_step {job : Job} {next : Progress} (h : Moves e stores job next) (id : Uuid) :
    next.stores.snapshots.held.countP (SnapshotStore.isFor id) +
      next.deed.toList.countP (Deed.hands id) ≤
    stores.snapshots.held.countP (SnapshotStore.isFor id) +
      next.deed.toList.countP (Deed.holds id) := by
  cases h with
  | hand hid hfind howner =>
    rename_i id' h
    obtain ⟨hm, rfl⟩ := SnapshotStore.find?_spec hfind
    by_cases heq : h.snapshot.id = id
    · subst heq
      -- All that is held under the identifier goes, which is at least what is handed out.
      have hpos : 0 < stores.snapshots.held.countP (SnapshotStore.isFor h.snapshot.id) :=
        List.countP_pos_iff.mpr ⟨h, hm, by simp [SnapshotStore.isFor]⟩
      simpa [List.countP_filter, Deed.hands, Deed.holds] using hpos
    · have hle := List.Sublist.countP_le (p := SnapshotStore.isFor id) (List.filter_sublist
        (p := fun x => !SnapshotStore.isFor h.snapshot.id x) (l := stores.snapshots.held))
      simpa [Deed.hands, Deed.holds, heq] using hle
  | hold =>
    rename_i h _
    have hle := List.Sublist.countP_le (p := SnapshotStore.isFor id) (List.filter_sublist
      (p := fun x => !SnapshotStore.isFor h.snapshot.id x) (l := stores.snapshots.held))
    simpa [SnapshotStore.put, List.countP_cons, SnapshotStore.isFor, Deed.hands, Deed.holds]
      using hle
  | sweepSnapshots hc =>
    obtain ⟨cutoff, _, heq⟩ := Option.map_eq_some_iff.mp hc
    obtain rfl := (Prod.mk.inj heq).2
    simpa using List.filter_sublist.countP_le
  | _ => simp [Deed.holds, Deed.hands]

theorem due_step {kind : Call → Bool}
    (hkind : ∀ c m form kept resubmitted p,
      (e.approve c m form kept resubmitted p).calls.countP kind ≤ 1) {job : Job} {next : Progress}
    (h : Moves e stores job next) :
    next.job.due kind + next.deed.toList.countP (Deed.calls kind) ≤ job.due kind := by
  cases h with
  | hand => simpa [Job.due, Deed.calls] using hkind ..
  | call =>
    rename_i call _ _ _
    cases hcall : kind call <;> simp [Job.due, Deed.calls, hcall]
  | _ => simp [Job.due, Deed.calls]

theorem not_asking_of_moves {job : Job} {next : Progress} (h : Moves e stores job next)
    (c : Collaborators) (m : Moment) (form : TextMap String) (p : Principal) :
    next.job ≠ .asking c m form p := by
  cases h <;> simp

/-- A snapshot is handed to its owner only, whose form names it. -/
theorem handed_of_moves {job : Job} {next : Progress} (h : Moves e stores job next)
    {snapshot : Snapshot} (hdeed : next.deed = some (.handed snapshot)) :
    ∃ c m form p, job = .asking c m form p ∧ Handlers.snapshotId? form = some snapshot.id ∧
      ⟨p.subjectId, snapshot⟩ ∈ stores.snapshots.held := by
  cases h with
  | hand hid hfind howner =>
    rename_i c m form p id h
    obtain rfl : h.snapshot = snapshot := by simpa using hdeed
    obtain ⟨hm, hh⟩ := SnapshotStore.find?_spec hfind
    exact ⟨c, m, form, p, rfl, by rw [hid, hh], by rwa [← howner]⟩
  | _ => simp at hdeed

theorem mem_held_of_moves {job : Job} {next : Progress} (h : Moves e stores job next)
    {x : HeldSnapshot} (hx : x ∈ next.stores.snapshots.held) :
    x ∈ stores.snapshots.held ∨ next.deed = some (.held x) := by
  cases h with
  | hand => exact .inl (List.mem_filter.mp hx).1
  | hold =>
    obtain rfl | ⟨hx, _⟩ := SnapshotStore.mem_put.mp hx
    · exact .inr rfl
    · exact .inl hx
  | sweepSnapshots hc => exact .inl (SnapshotStore.mem_cleanup? hc hx)
  | _ => exact .inl hx

/-- The first step of a form hands it a snapshot, or else finishes it and leaves the stores alone. -/
theorem asking_moves {c : Collaborators} {m : Moment} {form : TextMap String} {p : Principal}
    {next : Progress} (h : Moves e stores (.asking c m form p) next) :
    (∃ snapshot, next.deed = some (.handed snapshot)) ∨
      (∃ response, next.job = .finished response) ∧ next.deed = none ∧ next.stores = stores := by
  cases h with
  | hand => exact .inl ⟨_, rfl⟩
  | refuse => exact .inr ⟨⟨_, rfl⟩, rfl, rfl⟩
  | stop hnot => exact absurd rfl (hnot c m form p)

theorem finished_moves {response : Option HttpResponse} {next : Progress}
    (h : Moves e stores (.finished response) next) :
    (∃ response, next.job = .finished response) ∧ next.deed = none ∧ next.stores = stores := by
  cases h with
  | stop => exact ⟨⟨_, rfl⟩, rfl, rfl⟩

/-! ## One step of the world -/

theorem step_of_job {i : Nat} {job : Job} (h : w.jobs[i]? = some job) :
    w.step e i = ⟨w.jobs.set i (job.step e w.stores).job, (job.step e w.stores).stores,
      ((job.step e w.stores).deed.map (i, ·)).toList ++ w.log⟩ := by
  simp [World.step, h]

/-- A step does nothing, or it is one of a job. -/
theorem step_cases (e : Endpoint) (w : World) (i : Nat) :
    w.step e i = w ∧ w.jobs[i]? = none ∨
      ∃ job next, w.jobs[i]? = some job ∧ Moves e w.stores job next ∧
        w.step e i = ⟨w.jobs.set i next.job, next.stores,
          (next.deed.map (i, ·)).toList ++ w.log⟩ := by
  cases hjob : w.jobs[i]? with
  | none => exact .inl ⟨by simp [World.step, hjob], rfl⟩
  | some job => exact .inr ⟨job, job.step e w.stores, rfl, step_moves e w.stores job, step_of_job hjob⟩

theorem countP_set_job (jobs : List Job) {i : Nat} {job : Job} (h : jobs[i]? = some job)
    (test : Job → Bool) (next : Job) :
    (jobs.set i next).countP test + (test job).toNat = jobs.countP test + (test next).toNat := by
  induction jobs generalizing i with
  | nil => simp at h
  | cons first jobs ih =>
    cases i with
    | zero =>
      obtain rfl : first = job := by simpa using h
      cases hf : test first <;> cases hn : test next <;> simp [hf, hn]
    | succ i =>
      have := ih (i := i) (by simpa using h)
      simp only [List.set_cons_succ, List.countP_cons]
      omega

theorem countP_deed (i : Nat) (deed : Option Deed) (test : Deed → Bool) :
    ((deed.map (i, ·)).toList).countP (fun x => test x.2) = deed.toList.countP test := by
  cases deed <;> simp [List.countP_cons]

/-- The units of a snapshot that are not handed out yet, and those that are. -/
def World.supply (w : World) (id : Uuid) : Nat :=
  w.jobs.countP (Job.pending id) + w.stores.snapshots.held.countP (SnapshotStore.isFor id) +
    w.log.countP (fun x => x.2.hands id)

/-- The units of a snapshot that are not stored yet, and those that were. -/
def World.released (w : World) (id : Uuid) : Nat :=
  w.jobs.countP (Job.pending id) + w.log.countP (fun x => x.2.holds id)

theorem supply_step (e : Endpoint) (w : World) (i : Nat) (id : Uuid) :
    (w.step e i).supply id ≤ w.supply id := by
  obtain ⟨heq, _⟩ | ⟨job, next, hjob, hmoves, heq⟩ := step_cases e w i
  · simp [heq]
  have hset := countP_set_job w.jobs hjob (Job.pending id) next.job
  have hpending := pending_step hmoves id
  have hheld := held_step hmoves id
  simp only [heq, World.supply, List.countP_append, countP_deed]
  omega

theorem released_step (e : Endpoint) (w : World) (i : Nat) (id : Uuid) :
    (w.step e i).released id ≤ w.released id := by
  obtain ⟨heq, _⟩ | ⟨job, next, hjob, hmoves, heq⟩ := step_cases e w i
  · simp [heq]
  have hset := countP_set_job w.jobs hjob (Job.pending id) next.job
  have hpending := pending_step hmoves id
  simp only [heq, World.released, List.countP_append, countP_deed]
  omega

/-! ## What every step keeps -/

def World.made (w : World) (kind : Call → Bool) (i : Nat) : Nat :=
  w.log.countP fun x => x.1 == i && x.2.calls kind

/-- The state of the world as far as it goes back to the tasks. -/
structure Consistent (e : Endpoint) (tasks : List Task) (w : World) : Prop where
  jobs : w.jobs.length = tasks.length
  asking : ∀ i c m form p, w.jobs[i]? = some (.asking c m form p) →
    tasks[i]? = some (.post c m form p) ∧ ∀ snapshot, (i, .handed snapshot) ∉ w.log
  posts : ∀ i c m form p, tasks[i]? = some (.post c m form p) →
    w.jobs[i]? = some (.asking c m form p) ∨ (∃ snapshot, (i, .handed snapshot) ∈ w.log) ∨
      ∃ response, w.jobs[i]? = some (.finished response)
  held : ∀ h ∈ w.stores.snapshots.held, ∃ j, (j, .held h) ∈ w.log
  owner : ∀ i snapshot, (i, .handed snapshot) ∈ w.log → ∃ c m form p j,
    tasks[i]? = some (.post c m form p) ∧ Handlers.snapshotId? form = some snapshot.id ∧
      (j, .held ⟨p.subjectId, snapshot⟩) ∈ w.log

theorem mem_log_step {i j : Nat} {deed : Deed} {next : Progress} :
    (j, deed) ∈ (next.deed.map (i, ·)).toList ++ w.log ↔
      (j = i ∧ next.deed = some deed) ∨ (j, deed) ∈ w.log := by
  cases next.deed <;> simp [eq_comm]

theorem getElem?_set_job {jobs : List Job} {i j : Nat} {job next : Job} (h : jobs[i]? = some job) :
    (jobs.set i next)[j]? = if j = i then some next else jobs[j]? := by
  have hi := (List.getElem?_eq_some_iff.mp h).1
  rw [List.getElem?_set]
  split <;> simp_all [eq_comm]

theorem Consistent.step (h : Consistent e tasks w) (i : Nat) : Consistent e tasks (w.step e i) := by
  obtain ⟨heq, _⟩ | ⟨job, next, hjob, hmoves, heq⟩ := step_cases e w i
  · rwa [heq]
  rw [heq]
  refine ⟨by simpa using h.jobs, ?asking, ?posts, ?held, ?owner⟩
  case asking =>
    intro j c m form p hasking
    rw [getElem?_set_job hjob] at hasking
    split at hasking
    · exact absurd (Option.some.inj hasking) (not_asking_of_moves hmoves c m form p)
    next hji =>
    -- No step leads to a form that waits, so the job that moved is another one.
    obtain ⟨htask, hnone⟩ := h.asking j c m form p hasking
    refine ⟨htask, fun snapshot hm => ?_⟩
    obtain ⟨rfl, _⟩ | hm := mem_log_step.mp hm
    · exact hji rfl
    · exact hnone snapshot hm
  case posts =>
    intro j c m form p htask
    rw [getElem?_set_job hjob]
    obtain hasking | ⟨snapshot, hm⟩ | ⟨response, hfinished⟩ := h.posts j c m form p htask
    · split
      · next hji =>
        subst hji
        obtain rfl := Option.some.inj (hjob.symm.trans hasking)
        obtain ⟨snapshot, hdeed⟩ | ⟨⟨response, hr⟩, _⟩ := asking_moves hmoves
        · exact .inr (.inl ⟨snapshot, mem_log_step.mpr (.inl ⟨rfl, hdeed⟩)⟩)
        · exact .inr (.inr ⟨response, by rw [hr]⟩)
      · exact .inl hasking
    · exact .inr (.inl ⟨snapshot, mem_log_step.mpr (.inr hm)⟩)
    · split
      · next hji =>
        subst hji
        obtain rfl := Option.some.inj (hjob.symm.trans hfinished)
        obtain ⟨⟨response', hr⟩, _⟩ := finished_moves hmoves
        exact .inr (.inr ⟨response', by rw [hr]⟩)
      · exact .inr (.inr ⟨response, hfinished⟩)
  case held =>
    intro x hx
    obtain hx | hdeed := mem_held_of_moves hmoves hx
    · obtain ⟨j, hm⟩ := h.held x hx
      exact ⟨j, mem_log_step.mpr (.inr hm)⟩
    · exact ⟨i, mem_log_step.mpr (.inl ⟨rfl, hdeed⟩)⟩
  case owner =>
    intro j snapshot hm
    obtain ⟨rfl, hdeed⟩ | hm := mem_log_step.mp hm
    · obtain ⟨c, m, form, p, rfl, hid, hheld⟩ := handed_of_moves hmoves hdeed
      obtain ⟨k, hk⟩ := h.held _ hheld
      exact ⟨c, m, form, p, k, (h.asking j c m form p hjob).1, hid, mem_log_step.mpr (.inr hk)⟩
    · obtain ⟨c, m, form, p, k, htask, hid, hk⟩ := h.owner j snapshot hm
      exact ⟨c, m, form, p, k, htask, hid, mem_log_step.mpr (.inr hk)⟩

/-- A job makes a kind of call no more often than it was going to. -/
theorem made_step {kind : Call → Bool}
    (hkind : ∀ c m form kept resubmitted p,
      (e.approve c m form kept resubmitted p).calls.countP kind ≤ 1)
    {j : Nat} (h : ((w.jobs[j]?).map (Job.due kind)).getD 0 + w.made kind j ≤ 1) (i : Nat) :
    (((w.step e i).jobs[j]?).map (Job.due kind)).getD 0 + (w.step e i).made kind j ≤ 1 := by
  obtain ⟨heq, _⟩ | ⟨job, next, hjob, hmoves, heq⟩ := step_cases e w i
  · rwa [heq]
  have hdue := due_step hkind hmoves
  have hmade : (w.step e i).made kind j =
      (if j = i then next.deed.toList.countP (Deed.calls kind) else 0) + w.made kind j := by
    rw [heq, World.made, World.made, List.countP_append]
    congr 1
    cases next.deed with
    | none => simp
    | some deed =>
      by_cases hji : j = i
      · simp [List.countP_cons, hji]
      · have hij : (i == j) = false := by simpa using Ne.symm hji
        simp [hij, hji]
  rw [hmade, heq, getElem?_set_job hjob]
  by_cases hji : j = i
  · subst hji
    simp only [hjob, Option.map_some, Option.getD_some, if_true] at h ⊢
    omega
  · simpa [hji] using h

/-! ## Runs -/

theorem run_append (e : Endpoint) (w : World) (a b : List Nat) :
    w.run e (a ++ b) = (w.run e a).run e b :=
  List.foldl_append

/-- What every step keeps, every run keeps. -/
theorem run_invariant {P : World → Prop} (hstep : ∀ w i, P w → P (w.step e i))
    (h : P w) (schedule : List Nat) : P (w.run e schedule) := by
  induction schedule generalizing w with
  | nil => exact h
  | cons i schedule ih => exact ih (hstep w i h)

theorem mem_log_run {x : Nat × Deed} (h : x ∈ w.log) (schedule : List Nat) :
    x ∈ (w.run e schedule).log := by
  refine run_invariant (P := fun w => x ∈ w.log) (fun w i h => ?_) h schedule
  rcases step_cases e w i with ⟨heq, _⟩ | ⟨_, _, _, _, heq⟩ <;> simp [heq, h]

theorem finished_run {i : Nat} {response : Option HttpResponse}
    (h : w.jobs[i]? = some (.finished response)) (schedule : List Nat) :
    (∃ response, (w.run e schedule).jobs[i]? = some (.finished response)) ∧
      ∀ deed, (i, deed) ∈ (w.run e schedule).log → (i, deed) ∈ w.log := by
  refine run_invariant (e := e) (P := fun v =>
    (∃ response, v.jobs[i]? = some (.finished response)) ∧
      ∀ deed, (i, deed) ∈ v.log → (i, deed) ∈ w.log) ?_ ⟨⟨response, h⟩, fun _ => id⟩ schedule
  rintro v j ⟨⟨response, hv⟩, hlog⟩
  obtain ⟨heq, _⟩ | ⟨job, next, hjob, hmoves, heq⟩ := step_cases e v j
  · rw [heq]
    exact ⟨⟨response, hv⟩, hlog⟩
  rw [heq]
  by_cases hij : i = j
  · subst hij
    obtain rfl := Option.some.inj (hjob.symm.trans hv)
    obtain ⟨⟨response', hnext⟩, hdeed, _⟩ := finished_moves hmoves
    refine ⟨⟨response', by simp [getElem?_set_job hjob, hnext]⟩, fun deed hm => ?_⟩
    obtain ⟨_, hd⟩ | hm := mem_log_step.mp hm
    · simp [hdeed] at hd
    · exact hlog deed hm
  · refine ⟨⟨response, by rwa [getElem?_set_job hjob, if_neg hij]⟩, fun deed hm => ?_⟩
    obtain ⟨rfl, _⟩ | hm := mem_log_step.mp hm
    · exact absurd rfl hij
    · exact hlog deed hm

/-! ## The start -/

theorem start_jobs (i : Nat) :
    (World.start e tasks).jobs[i]? = (tasks[i]?).map (Task.start e) := by
  simp [World.start]

theorem consistent_start (e : Endpoint) (tasks : List Task) :
    Consistent e tasks (World.start e tasks) where
  jobs := by simp [World.start]
  asking := by
    intro i c m form p h
    rw [start_jobs] at h
    obtain ⟨task, htask, heq⟩ := Option.map_eq_some_iff.mp h
    cases task with
    | get => simp [Task.start] at heq
    | post c' m' form' p' =>
      simp only [Task.start, Job.asking.injEq] at heq
      obtain ⟨rfl, rfl, rfl, rfl⟩ := heq
      exact ⟨htask, by simp [World.start]⟩
    | cleanup => simp [Task.start] at heq
  posts := by
    intro i c m form p h
    exact .inl (by rw [start_jobs, h]; rfl)
  held := by simp [World.start, Server.initial, SnapshotStore.empty]
  owner := by simp [World.start]

def atMostOnce (e : Endpoint) (kind : Call → Bool) : Prop :=
  (∀ c m parameters p, (e.authorize c m parameters p).calls.countP kind ≤ 1) ∧
    ∀ c m form kept resubmitted p, (e.approve c m form kept resubmitted p).calls.countP kind ≤ 1

theorem made_start (tasks : List Task) {kind : Call → Bool} (hkind : atMostOnce e kind) (j : Nat) :
    (((World.start e tasks).jobs[j]?).map (Job.due kind)).getD 0 +
      (World.start e tasks).made kind j ≤ 1 := by
  have hmade : (World.start e tasks).made kind j = 0 := rfl
  rw [hmade, Nat.add_zero, start_jobs]
  cases tasks[j]? with
  | none => exact Nat.zero_le 1
  | some task =>
    cases task with
    | get c m parameters p => exact hkind.1 c m parameters p
    | post => exact Nat.le_refl 1
    | cleanup => exact Nat.zero_le 1

theorem draws_of_pending {task : Task} {id : Uuid} (h : (task.start e).pending id = true) :
    task.draws? = some id := by
  cases task with
  | get c m parameters p =>
    cases hvalue : (e.authorize c m parameters p).value with
    | error error => simp [Task.start, hvalue, authorizeAnswer, Job.pending] at h
    | ok outcome =>
      cases outcome with
      | redirect r => simp [Task.start, hvalue, authorizeAnswer, Job.pending] at h
      | approval page =>
        obtain ⟨_, _, _, _, _, _, _, _, rfl⟩ := Endpoint.authorize_approval hvalue
        simpa [Task.start, hvalue, authorizeAnswer, Job.pending, Task.draws?] using h
  | post => simp [Task.start, Job.pending] at h
  | cleanup => simp [Task.start, Job.pending] at h

theorem pending_start (hfresh : (tasks.filterMap Task.draws?).Nodup) (id : Uuid) :
    (World.start e tasks).jobs.countP (Job.pending id) ≤ 1 :=
  calc (World.start e tasks).jobs.countP (Job.pending id)
      = tasks.countP (fun t => (t.start e).pending id) := List.countP_map
    _ ≤ tasks.countP (fun t => t.draws? == some id) := by
      refine List.countP_mono_left fun t _ ht => ?_
      simpa using draws_of_pending ht
    _ = (tasks.filterMap Task.draws?).count id := List.count_filterMap.symm
    _ ≤ 1 := List.nodup_iff_count.mp hfresh id

/-! ## At most one answer -/

theorem atMostOnce_of_responseCalls {kind : Call → Bool}
    (hclient : ∀ id answer, kind (.client id answer) = false)
    (hresponse : ∀ c target request p,
      (Endpoint.responseCalls c target request p).countP kind ≤ 1) (e : Endpoint) :
    atMostOnce e kind := by
  refine ⟨fun c m parameters p => ?_, fun c m form kept resubmitted p => ?_⟩
  · obtain hzero | ⟨target, request, hle⟩ :=
      Endpoint.countP_calls_authorize e c m p hclient parameters
    · omega
    · exact Nat.le_trans hle (hresponse c target request p)
  · obtain hzero | ⟨target, request, hle⟩ :=
      Endpoint.countP_calls_approve e c m p kind form kept resubmitted
    · omega
    · exact Nat.le_trans hle (hresponse c target request p)

theorem atMostOnce_issuesCode (e : Endpoint) : atMostOnce e issuesCode := by
  refine atMostOnce_of_responseCalls (fun _ _ => rfl) (fun c target request p => ?_) e
  cases hcode : c.issueCode request p <;>
    simp [Endpoint.responseCalls, List.countP_cons, issuesCode, hcode]

theorem atMostOnce_issuesToken (e : Endpoint) : atMostOnce e issuesToken := by
  refine atMostOnce_of_responseCalls (fun _ _ => rfl) (fun c target request p => ?_) e
  cases htoken : c.issueToken request p <;>
    simp [Endpoint.responseCalls, List.countP_cons, issuesToken, htoken]

def World.issuedFrom (w : World) (kind : Call → Bool) (id : Uuid) : Nat :=
  w.log.countP fun x => x.2.calls kind && w.log.any fun y => y.1 == x.1 && y.2.hands id

theorem eq_of_countP_le_one {α : Type} {test : α → Bool} {l : List α} (h : l.countP test ≤ 1)
    {a b : α} (ha : a ∈ l) (hb : b ∈ l) (hta : test a = true) (htb : test b = true) : a = b := by
  have hfa := List.mem_filter.mpr ⟨ha, hta⟩
  have hfb := List.mem_filter.mpr ⟨hb, htb⟩
  rw [List.countP_eq_length_filter] at h
  match hl : l.filter test with
  | [] => simp [hl] at hfa
  | [x] =>
    rw [hl, List.mem_singleton] at hfa hfb
    rw [hfa, hfb]
  | x :: y :: r => simp [hl] at h

theorem issuedFrom_le_one {kind : Call → Bool} {id : Uuid}
    (hhanded : w.log.countP (fun x => x.2.hands id) ≤ 1) (hmade : ∀ i, w.made kind i ≤ 1) :
    w.issuedFrom kind id ≤ 1 := by
  by_cases hany : ∃ y ∈ w.log, y.2.hands id = true
  · obtain ⟨y, hy, hhands⟩ := hany
    -- The snapshot was handed to job `y.1` alone, so it made all of these calls.
    refine Nat.le_trans (List.countP_mono_left fun x _ hx => ?_) (hmade y.1)
    simp only [Bool.and_eq_true, List.any_eq_true, beq_iff_eq] at hx ⊢
    obtain ⟨hcalls, z, hz, hzx, hzhands⟩ := hx
    obtain rfl := eq_of_countP_le_one hhanded hy hz hhands hzhands
    exact ⟨hzx.symm, hcalls⟩
  · have hzero : w.issuedFrom kind id = 0 := by
      refine List.countP_eq_zero.mpr fun x _ hx => ?_
      simp only [Bool.and_eq_true, List.any_eq_true] at hx
      obtain ⟨_, y, hy, _, hhands⟩ := hx
      exact hany ⟨y, hy, hhands⟩
    omega

/-- What holds of a world in which each snapshot is answered at most once. -/
structure AnsweredOnce (e : Endpoint) (tasks : List Task) (w : World) : Prop where
  /-- An identifier is stored under once and handed out once. -/
  held_once : ∀ id, w.log.countP (fun x => x.2.holds id) ≤ 1
  handed_once : ∀ id, w.log.countP (fun x => x.2.hands id) ≤ 1
  /-- What is handed out was stored for the subject of the form that it is handed to. -/
  owner : ∀ i snapshot, (i, .handed snapshot) ∈ w.log → ∃ c m form p j,
    tasks[i]? = some (.post c m form p) ∧ Handlers.snapshotId? form = some snapshot.id ∧
      (j, .held ⟨p.subjectId, snapshot⟩) ∈ w.log
  codes : ∀ id, w.issuedFrom issuesCode id ≤ 1
  tokens : ∀ id, w.issuedFrom issuesToken id ≤ 1
  /-- The first step of the owner's form hands the snapshot out. -/
  taken : ∀ i c m form p id h, w.jobs[i]? = some (.asking c m form p) →
    Handlers.snapshotId? form = some id → w.stores.snapshots.find? id = some h →
    h.owner = p.subjectId → (i, .handed h.snapshot) ∈ (w.step e i).log
  /-- What was handed out is gone for good. -/
  consumed : ∀ i snapshot, (i, .handed snapshot) ∈ w.log →
    ∀ schedule, (w.run e schedule).stores.snapshots.find? snapshot.id = none
  /-- A form that does not find its snapshot is never handed one. -/
  refused : ∀ i c m form p, w.jobs[i]? = some (.asking c m form p) →
    (∀ id h, Handlers.snapshotId? form = some id → w.stores.snapshots.find? id = some h →
      h.owner ≠ p.subjectId) →
    ∀ schedule snapshot, (i, .handed snapshot) ∉ ((w.step e i).run e schedule).log
  /-- A form that was not handed its snapshot changes nothing. -/
  untouched : ∀ i c m form p, tasks[i]? = some (.post c m form p) →
    (∀ snapshot, (i, .handed snapshot) ∉ (w.step e i).log) → (w.step e i).stores = w.stores

theorem consumed_of_supply {id : Uuid} (h : w.supply id ≤ 1) {i : Nat} {snapshot : Snapshot}
    (hm : (i, .handed snapshot) ∈ w.log) (hid : snapshot.id = id) :
    w.stores.snapshots.find? id = none := by
  have hpos : 0 < w.log.countP (fun x => x.2.hands id) :=
    List.countP_pos_iff.mpr ⟨_, hm, by simp [Deed.hands, hid]⟩
  rw [World.supply] at h
  have hzero : w.stores.snapshots.held.countP (SnapshotStore.isFor id) = 0 := by omega
  exact List.find?_eq_none.mpr (List.countP_eq_zero.mp hzero)

theorem taken_of_find? {i : Nat} {c : Collaborators} {m : Moment} {form : TextMap String}
    {p : Principal} {id : Uuid} {h : HeldSnapshot}
    (hjob : w.jobs[i]? = some (.asking c m form p)) (hid : Handlers.snapshotId? form = some id)
    (hfind : w.stores.snapshots.find? id = some h) (howner : h.owner = p.subjectId) :
    (i, .handed h.snapshot) ∈ (w.step e i).log := by
  have hmoves := step_moves e w.stores (.asking c m form p)
  rw [step_of_job hjob]
  generalize Job.step e w.stores (.asking c m form p) = next at hmoves
  cases hmoves with
  | hand hid' hfind' _ =>
    rw [hid, Option.some.injEq] at hid'
    rw [← hid', hfind, Option.some.injEq] at hfind'
    simp [hfind']
  | refuse hother => exact absurd howner (hother id h hid hfind)
  | stop hnot => exact absurd rfl (hnot c m form p)

theorem refused_run {i : Nat} {c : Collaborators} {m : Moment} {form : TextMap String}
    {p : Principal} (hjob : w.jobs[i]? = some (.asking c m form p))
    (hnone : ∀ snapshot, (i, .handed snapshot) ∉ w.log)
    (hother : ∀ id h, Handlers.snapshotId? form = some id →
      w.stores.snapshots.find? id = some h → h.owner ≠ p.subjectId)
    (schedule : List Nat) (snapshot : Snapshot) :
    (i, .handed snapshot) ∉ ((w.step e i).run e schedule).log := by
  obtain ⟨_, hi⟩ | ⟨job, next, hj, hmoves, heq⟩ := step_cases e w i
  · simp [hjob] at hi
  obtain rfl := Option.some.inj (hjob.symm.trans hj)
  cases hmoves with
  | hand hid hfind howner => exact absurd howner (hother _ _ hid hfind)
  | refuse =>
    rename_i response _
    have hfinished : (w.step e i).jobs[i]? = some (.finished response) := by
      rw [heq]
      simp [getElem?_set_job hjob]
    intro hm
    have := (finished_run hfinished schedule).2 _ hm
    rw [heq] at this
    exact hnone snapshot (by simpa using this)
  | stop hnot => exact absurd rfl (hnot c m form p)

theorem Consistent.untouched (h : Consistent e tasks w) {i : Nat} {c : Collaborators} {m : Moment}
    {form : TextMap String} {p : Principal} (htask : tasks[i]? = some (.post c m form p))
    (hnone : ∀ snapshot, (i, .handed snapshot) ∉ (w.step e i).log) :
    (w.step e i).stores = w.stores := by
  obtain ⟨heq, _⟩ | ⟨job, next, hjob, hmoves, heq⟩ := step_cases e w i
  · rw [heq]
  rw [heq] at hnone ⊢
  obtain hasking | ⟨snapshot, hm⟩ | ⟨response, hfinished⟩ := h.posts i c m form p htask
  · obtain rfl := Option.some.inj (hjob.symm.trans hasking)
    obtain ⟨snapshot, hdeed⟩ | ⟨_, _, hstores⟩ := asking_moves hmoves
    · exact absurd (mem_log_step.mpr (.inl ⟨rfl, hdeed⟩)) (hnone snapshot)
    · exact hstores
  · exact absurd (mem_log_step.mpr (.inr hm)) (hnone snapshot)
  · obtain rfl := Option.some.inj (hjob.symm.trans hfinished)
    exact (finished_moves hmoves).2.2

/-- Whatever requests, forms and cleanups run at the same time, and in whichever order their steps come,
a snapshot is handed to one form at most, that of its owner; it is gone after that, and at most one code
and one token are issued from it. Other forms leave both stores as they are. -/
theorem answered_once (e : Endpoint) (tasks : List Task)
    (hfresh : (tasks.filterMap Task.draws?).Nodup) (schedule : List Nat) :
    AnsweredOnce e tasks ((World.start e tasks).run e schedule) := by
  -- Three invariants: `Consistent`, at most one unit of each snapshot, and at most one call for each job.
  have hconsistent : ∀ schedule, Consistent e tasks ((World.start e tasks).run e schedule) :=
    run_invariant (fun _ i h => h.step i) (consistent_start e tasks)
  have hsupply : ∀ id schedule, ((World.start e tasks).run e schedule).supply id ≤ 1 := by
    intro id
    refine run_invariant (P := fun w => w.supply id ≤ 1)
      (fun w i h => Nat.le_trans (supply_step e w i id) h) ?_
    simpa [World.supply, World.start, Server.initial, SnapshotStore.empty]
      using pending_start hfresh id
  have hreleased : ∀ id, ((World.start e tasks).run e schedule).released id ≤ 1 := by
    intro id
    refine run_invariant (P := fun w => w.released id ≤ 1)
      (fun w i h => Nat.le_trans (released_step e w i id) h) ?_ schedule
    simpa [World.released, World.start] using pending_start hfresh id
  have hhanded : ∀ id, ((World.start e tasks).run e schedule).log.countP
      (fun x => x.2.hands id) ≤ 1 := by
    intro id
    have := hsupply id schedule
    rw [World.supply] at this
    omega
  have hmade : ∀ kind, atMostOnce e kind → ∀ i,
      ((World.start e tasks).run e schedule).made kind i ≤ 1 := by
    intro kind hkind i
    have := run_invariant (e := e)
      (P := fun w => ((w.jobs[i]?).map (Job.due kind)).getD 0 + w.made kind i ≤ 1)
      (fun w j h => made_step hkind.2 h j) (made_start tasks hkind i) schedule
    omega
  exact {
    held_once := fun id => by
      have := hreleased id
      rw [World.released] at this
      omega
    handed_once := hhanded
    owner := (hconsistent schedule).owner
    codes := fun id => issuedFrom_le_one (hhanded id) (hmade _ (atMostOnce_issuesCode e))
    tokens := fun id => issuedFrom_le_one (hhanded id) (hmade _ (atMostOnce_issuesToken e))
    taken := fun _ _ _ _ _ _ _ hjob hid hfind howner => taken_of_find? hjob hid hfind howner
    consumed := fun _ snapshot hm later => by
      have hlater := hsupply snapshot.id (schedule ++ later)
      rw [run_append] at hlater
      exact consumed_of_supply hlater (mem_log_run hm later) rfl
    refused := fun i c m form p hjob hother =>
      refused_run hjob ((hconsistent schedule).asking i c m form p hjob).2 hother
    untouched := fun _ _ _ _ _ htask hnone => (hconsistent schedule).untouched htask hnone }

def twoForms : List Task :=
  let c := Server.oneClient.collaborators Server.oneDraw
  let m := Server.oneDraw.moment
  let form := .ofList [("snapshot_id", "00000000000000000000000000000001"),
    ("user_oauth_approval", "true")]
  [.get c m (.ofList [("client_id", "foo"), ("response_type", "code")])
      ⟨"marissa", "marissa", none⟩,
    .post c m form ⟨"marissa", "marissa", none⟩, .post c m form ⟨"marissa", "marissa", none⟩]

theorem answered_once_twoForms :
    let w := (World.start Server.oneClient.endpoint twoForms).run Server.oneClient.endpoint
      [0, 0, 2, 1, 2, 2, 1]
    (twoForms.filterMap Task.draws?).Nodup ∧ w.issuedFrom issuesCode (.ofNat 1) = 1 ∧
      AnsweredOnce Server.oneClient.endpoint twoForms w :=
  have hfresh : (twoForms.filterMap Task.draws?).Nodup := by decide
  ⟨hfresh, by decide +kernel, answered_once _ _ hfresh _⟩

end ConsentGate.Interleaving
