import ConsentGate.Request

namespace ConsentGate

structure HeldSnapshot where
  owner : String
  snapshot : Snapshot

/-- The snapshots that are held, no two with one identifier. -/
structure SnapshotStore where
  held : List HeldSnapshot

namespace SnapshotStore

def empty : SnapshotStore := ⟨[]⟩

def isFor (id : Uuid) (h : HeldSnapshot) : Bool := h.snapshot.id = id

def find? (s : SnapshotStore) (id : Uuid) : Option HeldSnapshot := s.held.find? (isFor id)

def put (s : SnapshotStore) (owner : String) (snapshot : Snapshot) : SnapshotStore :=
  ⟨⟨owner, snapshot⟩ :: s.held.filter (!isFor snapshot.id ·)⟩

/-- Hands a snapshot to its owner and forgets it. For anyone else nothing is there. -/
def take (s : SnapshotStore) (owner : String) (id : Uuid) : Option Snapshot × SnapshotStore :=
  match s.find? id with
  | some h => if h.owner = owner then (some h.snapshot, ⟨s.held.filter (!isFor id ·)⟩) else (none, s)
  | none => (none, s)

/-- Forgets the snapshots of `maxAge` seconds or more, and counts them. There is no answer where the
clock does not reach back so far. -/
def cleanup? (s : SnapshotStore) (now : Timestamp) (maxAge : Int) : Option (Nat × SnapshotStore) :=
  (now.before? maxAge).map fun cutoff =>
    let left := s.held.filter (cutoff < ·.snapshot.frozenAt.instant)
    (s.held.length - left.length, ⟨left⟩)

def size (s : SnapshotStore) : Nat := s.held.length

end SnapshotStore

end ConsentGate
