import ConsentGate.Power
import ConsentGate.Settings.Endpoint

namespace ConsentGate

/-- The channel. `kept` holds the last events sent, oldest first; a receiver is the number of events
that were sent before the next one it reads, or nothing once it is gone. -/
structure Broadcaster (α : Type) where
  enabled : Bool
  capacity : Nat
  sent : Nat
  kept : List α
  receivers : List (Option Nat)

inductive Delivery (α : Type) where
  | event (e : α)
  | lagged (lost : Nat)
  | empty
  | closed
  deriving DecidableEq

namespace Broadcaster

variable {α : Type}

def maxCapacity : Nat := 2 ^ 63 - 1

/-- A channel that keeps at least `capacity` events: the next power of two. None can be built for
nothing or for more than `maxCapacity`. -/
def ofCapacity? (capacity : Nat) : Option (Broadcaster α) :=
  if capacity = 0 ∨ maxCapacity < capacity then none
  else some ⟨true, capacity.nextPowerOfTwo, 0, [], []⟩

def disabled : Broadcaster α := ⟨false, 1, 0, [], []⟩

def ofSettings? (s : EventSettings) : Option (Broadcaster α) :=
  if s.enabled then ofCapacity? s.capacity else some disabled

/-- Adds a receiver, which reads what is sent from now on. Its index is the number of those before. -/
def subscribe (b : Broadcaster α) : Broadcaster α :=
  { b with receivers := b.receivers ++ [some b.sent] }

def subscribers (b : Broadcaster α) : Nat :=
  if b.enabled then (b.receivers.filter Option.isSome).length else 0

/-- Sends an event. Without receivers it is dropped. -/
def send (b : Broadcaster α) (e : α) : Broadcaster α :=
  if b.subscribers = 0 then b
  else
    let all := b.kept ++ [e]
    { b with sent := b.sent + 1, kept := all.drop (all.length - b.capacity) }

def oldest (b : Broadcaster α) : Nat := b.sent - b.kept.length

/-- What the receiver with the given index finds, and the channel after that. There is none of an
index that was not given or whose receiver is gone. -/
def receive? (b : Broadcaster α) (index : Nat) : Option (Delivery α × Broadcaster α) := do
  let next ← (← b.receivers[index]?)
  if !b.enabled then return (.closed, b)
  let moved := fun n => { b with receivers := b.receivers.set index (some n) }
  if next < b.oldest then return (.lagged (b.oldest - next), moved b.oldest)
  match b.kept[next - b.oldest]? with
  | some e => return (.event e, moved (next + 1))
  | none => return (.empty, b)

def drop (b : Broadcaster α) (index : Nat) : Broadcaster α :=
  { b with receivers := b.receivers.set index none }

end Broadcaster

end ConsentGate
