import ConsentGate.Server
import Mathlib.Data.List.Nodup

namespace ConsentGate

namespace SnapshotStore

theorem isFor_iff {id : Uuid} {h : HeldSnapshot} : isFor id h = true ↔ h.snapshot.id = id := by
  simp [isFor]

theorem mem_put {s : SnapshotStore} {owner : String} {snapshot : Snapshot} {h : HeldSnapshot} :
    h ∈ (s.put owner snapshot).held ↔
      h = ⟨owner, snapshot⟩ ∨ h ∈ s.held ∧ h.snapshot.id ≠ snapshot.id := by
  simp [put, isFor]

theorem find?_put (s : SnapshotStore) (owner : String) (snapshot : Snapshot) :
    (s.put owner snapshot).find? snapshot.id = some ⟨owner, snapshot⟩ := by
  simp [find?, put, isFor]

theorem take_cases (s : SnapshotStore) (owner : String) (id : Uuid) :
    (∃ h, s.find? id = some h ∧ h.owner = owner ∧
      s.take owner id = (some h.snapshot, ⟨s.held.filter (!isFor id ·)⟩)) ∨
    (s.take owner id = (none, s) ∧ ∀ h, s.find? id = some h → h.owner ≠ owner) := by
  unfold take
  cases hfind : s.find? id with
  | none => exact .inr ⟨rfl, by simp⟩
  | some h =>
    by_cases howner : h.owner = owner
    · exact .inl ⟨h, rfl, howner, by simp [howner]⟩
    · exact .inr ⟨by simp [howner], by simpa using howner⟩

theorem find?_spec {s : SnapshotStore} {id : Uuid} {h : HeldSnapshot} (hf : s.find? id = some h) :
    h ∈ s.held ∧ h.snapshot.id = id :=
  ⟨List.mem_of_find?_eq_some hf, isFor_iff.mp (List.find?_some hf)⟩

theorem mem_cleanup? {s t : SnapshotStore} {now : Timestamp} {maxAge : Int} {n : Nat}
    {h : HeldSnapshot} (hc : s.cleanup? now maxAge = some (n, t)) (hm : h ∈ t.held) :
    h ∈ s.held := by
  obtain ⟨cutoff, _, heq⟩ := Option.map_eq_some_iff.mp hc
  obtain rfl := (Prod.mk.inj heq).2
  exact (List.mem_filter.mp hm).1

/-- No two snapshots have one identifier. -/
def Distinct (s : SnapshotStore) : Prop :=
  (s.held.map (·.snapshot.id)).Nodup

def due? (s : SnapshotStore) (owner : String) (id : Uuid) : Option HeldSnapshot :=
  (s.find? id).filter (·.owner = owner)

variable {s : SnapshotStore} {owner : String} {id : Uuid} {h : HeldSnapshot}

theorem Distinct.filter (hs : s.Distinct) (keep : HeldSnapshot → Bool) :
    Distinct ⟨s.held.filter keep⟩ :=
  hs.sublist (List.filter_sublist.map _)

theorem Distinct.put (hs : s.Distinct) (owner : String) (snapshot : Snapshot) :
    (s.put owner snapshot).Distinct := by
  refine List.nodup_cons.mpr ⟨fun hm => ?_, hs.filter _⟩
  obtain ⟨x, hx, hid⟩ := List.mem_map.mp hm
  simp [isFor, hid] at hx

theorem Distinct.find?_iff (hs : s.Distinct) :
    s.find? id = some h ↔ h ∈ s.held ∧ h.snapshot.id = id := by
  refine ⟨find?_spec, fun ⟨hm, hid⟩ => ?_⟩
  cases hfind : s.find? id with
  | none => exact absurd (isFor_iff.mpr hid) (List.find?_eq_none.mp hfind h hm)
  | some x =>
    obtain ⟨hx, hxid⟩ := find?_spec hfind
    rw [List.inj_on_of_nodup_map hs hx hm (hxid.trans hid.symm)]

theorem Distinct.due?_iff (hs : s.Distinct) :
    s.due? owner id = some h ↔ h ∈ s.held ∧ h.snapshot.id = id ∧ h.owner = owner := by
  rw [due?, Option.filter_eq_some_iff, hs.find?_iff, decide_eq_true_iff, and_assoc]

/-- Snapshots that are forgotten are not there to be taken, and others are not touched by that. -/
theorem Distinct.due?_filter (hs : s.Distinct) (keep : HeldSnapshot → Bool) :
    due? ⟨s.held.filter keep⟩ owner id = (s.due? owner id).filter keep := by
  apply Option.ext
  intro x
  simp only [(hs.filter keep).due?_iff, Option.filter_eq_some_iff, hs.due?_iff, List.mem_filter]
  grind

theorem take_eq (s : SnapshotStore) (owner : String) (id : Uuid) :
    s.take owner id = match s.due? owner id with
      | some h => (some h.snapshot, ⟨s.held.filter (!isFor id ·)⟩)
      | none => (none, s) := by
  unfold take due?
  cases s.find? id with
  | none => rfl
  | some h => by_cases howner : h.owner = owner <;> simp [Option.filter_some, howner]

theorem Distinct.held_take (hs : s.Distinct) (owner : String) (id : Uuid) :
    (s.take owner id).2.held = s.held.filter fun h => !(h.snapshot.id = id && h.owner = owner) := by
  rw [take_eq]
  cases hdue : s.due? owner id with
  | none =>
    refine (List.filter_eq_self.mpr fun x hx => ?_).symm
    by_contra hno
    have hfound : s.due? owner id = some x := hs.due?_iff.mpr ⟨hx, by simpa using hno⟩
    rw [hdue] at hfound
    cases hfound
  | some h =>
    obtain ⟨hm, hid, howner⟩ := hs.due?_iff.mp hdue
    refine List.filter_congr fun x hx => ?_
    by_cases hxid : x.snapshot.id = id
    · obtain rfl := List.inj_on_of_nodup_map hs hx hm (hxid.trans hid.symm)
      simp [isFor, hid, howner]
    · simp [isFor, hxid]

theorem Distinct.take (hs : s.Distinct) (owner : String) (id : Uuid) :
    (s.take owner id).2.Distinct := by
  rw [Distinct, hs.held_take owner id]
  exact hs.filter _

end SnapshotStore

namespace TextMap

variable {α : Type}

theorem mem_insertEntry {k : String} {v : α} {l : List (String × α)} {x : String × α}
    (h : x ∈ insertEntry k v l) : x = (k, v) ∨ x ∈ l := by
  induction l with
  | nil => simpa [insertEntry] using h
  | cons e r ih =>
    simp only [insertEntry] at h
    split at h
    · simpa using h
    · split at h
      · obtain h | h := List.mem_cons.mp h
        · exact .inl h
        · exact .inr (List.mem_cons_of_mem e h)
      · obtain rfl | h := List.mem_cons.mp h
        · exact .inr List.mem_cons_self
        · exact (ih h).imp_right (List.mem_cons_of_mem e)

end TextMap

namespace CodeStore

def entries (s : CodeStore) : List (String × IssuedCode) := s.codes.toList

theorem mem_put {s : CodeStore} {code : String} {issued : IssuedCode} {x : String × IssuedCode}
    (h : x ∈ (s.put code issued).entries) : x = (code, issued) ∨ x ∈ s.entries :=
  TextMap.mem_insertEntry h

theorem mem_redeem? {s t : CodeStore} {now : Timestamp} {maxAge : Int} {code : String}
    {found : Option IssuedCode} {x : String × IssuedCode}
    (hr : s.redeem? now maxAge code = some (found, t)) (h : x ∈ t.entries) : x ∈ s.entries := by
  obtain ⟨cutoff, _, heq⟩ := Option.map_eq_some_iff.mp hr
  obtain rfl := (Prod.mk.inj heq).2
  exact (List.mem_filter.mp h).1

theorem mem_cleanup? {s t : CodeStore} {now : Timestamp} {maxAge : Int} {n : Nat}
    {x : String × IssuedCode} (hc : s.cleanup? now maxAge = some (n, t)) (h : x ∈ t.entries) :
    x ∈ s.entries := by
  obtain ⟨cutoff, _, heq⟩ := Option.map_eq_some_iff.mp hc
  obtain rfl := (Prod.mk.inj heq).2
  exact (List.mem_filter.mp h).1

end CodeStore

namespace Server

theorem mem_recordCodes {now : Timestamp} {store : CodeStore} {calls : List Call}
    {x : String × IssuedCode} (h : x ∈ (recordCodes now store calls).entries) :
    x ∈ store.entries ∨
      ∃ request p, .code request p (.ok x.1) ∈ calls ∧ x.2 = ⟨request, p.subjectId, now⟩ := by
  induction calls generalizing store with
  | nil => exact .inl h
  | cons call calls ih =>
    obtain hx | ⟨request, p, hm, hx⟩ := ih h
    · dsimp only at hx
      split at hx
      · next request p code =>
        obtain rfl | hx := CodeStore.mem_put hx
        · exact .inr ⟨request, p, List.mem_cons_self, rfl⟩
        · exact .inl hx
      · exact .inl hx
    · exact .inr ⟨request, p, List.mem_cons_of_mem call hm, hx⟩

end Server

end ConsentGate
