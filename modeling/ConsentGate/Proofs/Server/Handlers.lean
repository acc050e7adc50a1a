import ConsentGate.Proofs.Endpoint.Calls
import ConsentGate.Proofs.Server.Stores

namespace ConsentGate.Handlers

variable {e : Endpoint} {c : Collaborators} {m : Moment} {store : SnapshotStore} {p : Principal}

theorem calls_authorize (parameters : TextMap String) :
    (authorize e c m store parameters p).calls = (e.authorize c m parameters p).calls := by
  rw [authorize, Traced.calls_bind]
  split <;> simp

/-- What an authorization request leaves held: a page's snapshot, if the user is asked. -/
theorem authorize_store (parameters : TextMap String) :
    (authorize e c m store parameters p).value.2 =
      match (e.authorize c m parameters p).value with
      | .ok (.approval page) => store.put p.subjectId page.snapshot
      | _ => store := by
  rw [authorize, Traced.value_bind]
  split <;> simp_all

theorem mem_authorize {parameters : TextMap String} {h : HeldSnapshot}
    (hm : h ∈ (authorize e c m store parameters p).value.2.held) :
    h ∈ store.held ∨ ∃ page, (e.authorize c m parameters p).value = .ok (.approval page) ∧
      h = ⟨p.subjectId, page.snapshot⟩ := by
  rw [authorize_store] at hm
  split at hm
  · next page hpage =>
    obtain rfl | ⟨hm, _⟩ := SnapshotStore.mem_put.mp hm
    · exact .inr ⟨page, hpage, rfl⟩
    · exact .inl hm
  · exact .inl hm

/-- The owner's form is answered by the endpoint, and the snapshot is gone. -/
theorem approve_of_held {form : TextMap String} {kept : Snapshot} {id : Uuid}
    (hid : snapshotId? form = some id) (hheld : store.find? id = some ⟨p.subjectId, kept⟩) :
    approve e c m store form p =
      ⟨(e.approve c m form kept (resubmitted kept form) p).acts,
        match (e.approve c m form kept (resubmitted kept form) p).value with
          | .error error => .ofAuthError error
          | .ok r => .ofRedirect r,
        ⟨store.held.filter (!SnapshotStore.isFor id ·)⟩⟩ := by
  have htake : store.take p.subjectId id =
      (some kept, ⟨store.held.filter (!SnapshotStore.isFor id ·)⟩) := by
    simp [SnapshotStore.take, hheld]
  unfold approve
  rw [hid]
  dsimp only
  rw [htake]
  dsimp only
  generalize e.approve c m form kept (resubmitted kept form) p = answer
  obtain ⟨acts, error | r⟩ := answer <;> simp [bind, pure]

/-- A form is refused before it reaches the endpoint, or its snapshot is taken and the endpoint
answers. -/
theorem approve_cases (e : Endpoint) (c : Collaborators) (m : Moment) (p : Principal)
    (store : SnapshotStore) (form : TextMap String) :
    ((approve e c m store form p).calls = [] ∧ (approve e c m store form p).value.2 = store ∧
      ∀ id h, snapshotId? form = some id → store.find? id = some h → h.owner ≠ p.subjectId) ∨
    ∃ id h, snapshotId? form = some id ∧ store.find? id = some h ∧ h.owner = p.subjectId ∧
      (approve e c m store form p).calls =
        (e.approve c m form h.snapshot (resubmitted h.snapshot form) p).calls ∧
      (approve e c m store form p).value.2 = ⟨store.held.filter (!SnapshotStore.isFor id ·)⟩ := by
  cases hid : snapshotId? form with
  | none => exact .inl ⟨by simp [approve, hid], by simp [approve, hid], by simp⟩
  | some id =>
    obtain ⟨⟨_, kept⟩, hfind, rfl, _⟩ | ⟨htake, hother⟩ :=
      SnapshotStore.take_cases store p.subjectId id
    · rw [approve_of_held hid hfind]
      exact .inr ⟨id, _, rfl, hfind, rfl, rfl, rfl⟩
    · refine .inl ⟨by simp [approve, hid, htake], by simp [approve, hid, htake],
        fun id' h hid' hfind => ?_⟩
      obtain rfl := Option.some.inj hid'
      exact hother h hfind

theorem mem_approve {form : TextMap String} {h : HeldSnapshot}
    (hm : h ∈ (approve e c m store form p).value.2.held) : h ∈ store.held := by
  obtain ⟨_, hstore, _⟩ | ⟨_, _, _, _, _, _, hstore⟩ :=
    approve_cases e c m p store form
  · rwa [hstore] at hm
  · rw [hstore] at hm
    exact (List.mem_filter.mp hm).1

end ConsentGate.Handlers
