import ConsentGate.Broadcaster
import ConsentGate.Event
import Mathlib.Data.List.Induction

namespace ConsentGate

namespace Broadcaster

variable {α : Type} {b : Broadcaster α} {index next : Nat}

/-! ## Inputs and answers -/

inductive Input (α : Type) where
  | subscribe
  | send (e : α)
  | receive (index : Nat)
  | drop (index : Nat)
  deriving DecidableEq

inductive Answer (α : Type) where
  | subscribed (index : Nat)
  | reached (count : Nat)
  | found (d : Delivery α)
  | absent
  | dropped
  deriving DecidableEq

def step (b : Broadcaster α) : Input α → Answer α × Broadcaster α
  | .subscribe => (.subscribed b.receivers.length, b.subscribe)
  | .send e => (.reached b.subscribers, b.send e)
  | .receive index =>
    match b.receive? index with
    | some (d, b') => (.found d, b')
    | none => (.absent, b)
  | .drop index => (.dropped, b.drop index)

def overrun (b : Broadcaster α) (index : Nat) : Nat :=
  match b.receivers[index]?.join with
  | some next => b.oldest - next
  | none => 0

def readable (b : Broadcaster α) (index : Nat) : List α :=
  match b.receivers[index]?.join with
  | some next => b.kept.drop (next - b.oldest)
  | none => []

/-- What was sent since a receiver subscribed and as long as it was there, what it received, and how many
it was told that it lost. -/
structure Account (α : Type) where
  live : Bool
  sent : List α
  received : List α
  lost : Nat

namespace Account

def opened : Account α := ⟨true, [], [], 0⟩

def hear (e : α) (a : Account α) : Account α :=
  if a.live then { a with sent := a.sent ++ [e] } else a

def find (d : Delivery α) (a : Account α) : Account α :=
  match d with
  | .event e => { a with received := a.received ++ [e] }
  | .lagged lost => { a with lost := a.lost + lost }
  | .empty | .closed => a

def close (a : Account α) : Account α := { a with live := false }

def read (a : Account α) : Nat := a.received.length + a.lost

def waiting (a : Account α) : List α := a.sent.drop a.read

end Account

def book (accounts : List (Account α)) : Input α → Answer α → List (Account α)
  | .subscribe, _ => accounts ++ [.opened]
  | .send e, _ => accounts.map (.hear e)
  | .receive index, .found d => accounts.modify index (.find d)
  | .receive _, _ => accounts
  | .drop index, _ => accounts.modify index .close

/-- A channel, and the accounts of its receivers by their index. -/
structure Watched (α : Type) where
  channel : Broadcaster α
  accounts : List (Account α)

namespace Watched

def step (w : Watched α) (input : Input α) : Watched α :=
  ⟨(w.channel.step input).2, book w.accounts input (w.channel.step input).1⟩

def run (b : Broadcaster α) (inputs : List (Input α)) : Watched α :=
  inputs.foldl step ⟨b, []⟩

end Watched

/-! ## Receivers -/

/-- A receiver stands in all that was ever sent where its account says. -/
structure Stands (log : List α) (next : Nat) (a : Account α) : Prop where
  sent : ∃ before, log = before ++ a.sent ∧ next = before.length + a.read
  bounded : a.read ≤ a.sent.length
  ordered : a.received.Sublist (a.sent.take a.read)

def Follows (log : List α) : Option Nat → Account α → Prop
  | some next, a => a.live = true ∧ Stands log next a
  | none, a => a.live = false ∧ a.received.Sublist a.sent

/-- A channel keeps the last events of a log, and every receiver follows the log. -/
structure Tracks (capacity : Nat) (log : List α) (w : Watched α) : Prop where
  enabled : w.channel.enabled = true
  capacity : w.channel.capacity = capacity
  sent : w.channel.sent = log.length
  kept : w.channel.kept = log.drop (log.length - w.channel.capacity)
  length : w.accounts.length = w.channel.receivers.length
  follows : ∀ (i : Nat) r a, w.channel.receivers[i]? = some r → w.accounts[i]? = some a → Follows log r a

variable {capacity : Nat} {log : List α} {a : Account α} {w : Watched α} {r : Option Nat} {e : α}

theorem Follows.sublist (h : Follows log r a) : a.received.Sublist a.sent := by
  cases r with
  | some next => exact h.2.ordered.trans (List.take_sublist _ _)
  | none => exact h.2

theorem Follows.isSome_eq (h : Follows log r a) : r.isSome = a.live := by
  cases r with
  | some next => exact h.1.symm
  | none => exact h.1.symm

theorem follows_opened (log : List α) : Follows log (some log.length) .opened :=
  ⟨rfl, ⟨⟨log, by simp [Account.opened], by simp [Account.opened, Account.read]⟩,
    by simp [Account.opened, Account.read], by simp [Account.opened]⟩⟩

theorem Follows.hear (h : Follows log r a) (e : α) : Follows (log ++ [e]) r (a.hear e) := by
  cases r with
  | none =>
    rw [Account.hear, if_neg (by simp [h.1])]
    exact h
  | some next =>
    obtain ⟨hlive, ⟨before, rfl, hnext⟩, hbounded, hordered⟩ := h
    rw [Account.hear, if_pos hlive]
    refine ⟨hlive, ⟨before, by simp, hnext⟩, ?_, ?_⟩
    · show a.read ≤ (a.sent ++ [e]).length
      rw [List.length_append]
      omega
    · show a.received.Sublist ((a.sent ++ [e]).take a.read)
      rw [List.take_append_of_le_length hbounded]
      exact hordered

theorem Account.length_waiting (a : Account α) : a.waiting.length = a.sent.length - a.read := by
  rw [waiting, List.length_drop]

theorem Stands.lag (h : Stands log next a) {n : Nat} (hn : n ≤ a.waiting.length) :
    Stands log (next + n) (a.find (.lagged n)) := by
  have hlength := a.length_waiting
  have hbound := h.bounded
  obtain ⟨⟨before, hlog, hnext⟩, _, hordered⟩ := h
  have hread : (a.find (.lagged n)).read = a.read + n := by
    simp only [Account.find, Account.read]
    omega
  refine ⟨⟨before, hlog, ?_⟩, ?_, ?_⟩
  · rw [hread, hnext, Nat.add_assoc]
  · rw [hread]
    show a.read + n ≤ a.sent.length
    omega
  · rw [hread]
    exact hordered.trans (List.take_sublist_take_left (by omega))

theorem Stands.take (h : Stands log next a) (he : a.waiting.head? = some e) :
    Stands log (next + 1) (a.find (.event e)) := by
  obtain ⟨⟨before, hlog, hnext⟩, hbound, hordered⟩ := h
  have hat : a.sent[a.read]? = some e := by rw [← he, Account.waiting, List.head?_drop]
  obtain ⟨hlt, _⟩ := List.getElem?_eq_some_iff.mp hat
  have hread : (a.find (.event e)).read = a.read + 1 := by
    simp only [Account.find, Account.read, List.length_append, List.length_singleton]
    omega
  refine ⟨⟨before, hlog, ?_⟩, ?_, ?_⟩
  · rw [hread, hnext, Nat.add_assoc]
  · rw [hread]
    exact hlt
  · rw [hread, List.take_add_one, Account.find]
    dsimp only
    rw [hat]
    exact hordered.append (List.Sublist.refl _)

/-! ## What a receiver finds -/

theorem Tracks.oldest (h : Tracks capacity log w) : w.channel.oldest = log.length - w.channel.capacity := by
  have hlength : w.channel.kept.length = log.length - (log.length - w.channel.capacity) := by
    rw [h.kept, List.length_drop]
  rw [Broadcaster.oldest, h.sent, hlength]
  omega

theorem overrun_of_receiver (hr : b.receivers[index]? = some (some next)) :
    b.overrun index = b.oldest - next := by
  simp [overrun, hr]

theorem readable_of_receiver (hr : b.receivers[index]? = some (some next)) :
    b.readable index = b.kept.drop (next - b.oldest) := by
  simp [readable, hr]

/-- What a receiver has not lost of the events before it are the last ones, as many as the channel
keeps. -/
theorem Tracks.overrun_eq (h : Tracks capacity log w) (hr : w.channel.receivers[index]? = some (some next))
    (hs : Stands log next a) :
    w.channel.overrun index = a.waiting.length - w.channel.capacity := by
  obtain ⟨⟨before, hlog, hnext⟩, hbounded, _⟩ := hs
  have hlength := a.length_waiting
  have hall : log.length = before.length + a.sent.length := by rw [hlog, List.length_append]
  rw [overrun_of_receiver hr, h.oldest]
  omega

theorem Tracks.readable_eq (h : Tracks capacity log w) (hr : w.channel.receivers[index]? = some (some next))
    (hs : Stands log next a) :
    w.channel.readable index = a.waiting.drop (a.waiting.length - w.channel.capacity) := by
  have hover := h.overrun_eq hr hs
  rw [overrun_of_receiver hr] at hover
  obtain ⟨⟨before, hlog, hnext⟩, hbounded, _⟩ := hs
  have holdest := h.oldest
  have hat : w.channel.oldest + (next - w.channel.oldest) =
      before.length + (a.read + (a.waiting.length - w.channel.capacity)) := by omega
  rw [readable_of_receiver hr, h.kept, ← holdest, List.drop_drop, hat, hlog, List.drop_length_add_append,
    Account.waiting, List.drop_drop, ← Account.waiting]

def due (capacity : Nat) (waiting : List α) : Delivery α :=
  if capacity < waiting.length then .lagged (waiting.length - capacity)
  else match waiting.head? with
    | some e => .event e
    | none => .empty

theorem receive?_of_receiver (henabled : b.enabled = true)
    (hr : b.receivers[index]? = some (some next)) :
    b.receive? index =
      if 0 < b.overrun index then
        some (.lagged (b.overrun index), { b with receivers := b.receivers.set index (some b.oldest) })
      else match (b.readable index).head? with
        | some e => some (.event e, { b with receivers := b.receivers.set index (some (next + 1)) })
        | none => some (.empty, b) := by
  rw [overrun_of_receiver hr, readable_of_receiver hr, List.head?_drop]
  by_cases hover : next < b.oldest
  · rw [if_pos (by omega)]
    simp [receive?, hr, henabled, hover]
  · rw [if_neg (by omega)]
    cases hkept : b.kept[next - b.oldest]? with
    | some e => simp [receive?, hr, henabled, hover, hkept]
    | none => simp [receive?, hr, henabled, hover, hkept]

theorem set_receivers_self (hr : b.receivers[index]? = some r) :
    { b with receivers := b.receivers.set index r } = b := by
  obtain ⟨hlt, rfl⟩ := List.getElem?_eq_some_iff.mp hr
  rw [List.set_getElem_self]

theorem Tracks.receive?_eq (h : Tracks capacity log w) (hr : w.channel.receivers[index]? = some (some next))
    (hs : Stands log next a) :
    ∃ next', w.channel.oldest ≤ next' ∧
      Stands log next' (a.find (due w.channel.capacity a.waiting)) ∧
      w.channel.receive? index = some (due w.channel.capacity a.waiting,
        { w.channel with receivers := w.channel.receivers.set index (some next') }) := by
  have hover := h.overrun_eq hr hs
  have hread := h.readable_eq hr hs
  rw [receive?_of_receiver h.enabled hr, hread, hover]
  rw [overrun_of_receiver hr] at hover
  by_cases hlag : w.channel.capacity < a.waiting.length
  · have hnext : next + (a.waiting.length - w.channel.capacity) = w.channel.oldest := by omega
    rw [due, if_pos hlag, if_pos (by omega)]
    exact ⟨w.channel.oldest, Nat.le_refl _, hnext ▸ hs.lag (by omega), rfl⟩
  · rw [due, if_neg hlag, if_neg (by omega), Nat.sub_eq_zero_of_le (by omega), List.drop_zero]
    cases hwaiting : a.waiting.head? with
    | none => exact ⟨next, by omega, hs, by rw [set_receivers_self hr]⟩
    | some e => exact ⟨next + 1, by omega, hs.take hwaiting, rfl⟩

/-! ## Runs -/

theorem tracks_subscribe (h : Tracks capacity log w) : Tracks capacity log (w.step .subscribe) := by
  refine ⟨h.enabled, h.capacity, h.sent, h.kept, ?_, fun i r a hr ha => ?_⟩
  · simp [Watched.step, step, book, subscribe, h.length]
  · simp only [Watched.step, step, book, subscribe] at hr ha
    by_cases hi : i < w.channel.receivers.length
    · rw [List.getElem?_append_left hi] at hr
      rw [List.getElem?_append_left (h.length ▸ hi)] at ha
      exact h.follows i r a hr ha
    · rw [List.getElem?_append_right (by omega)] at hr
      rw [List.getElem?_append_right (by rw [h.length]; omega), h.length] at ha
      have hi : i - w.channel.receivers.length = 0 := by
        obtain ⟨hlt, _⟩ := List.getElem?_eq_some_iff.mp hr
        simpa using hlt
      rw [hi] at hr ha
      obtain rfl := Option.some.inj hr
      obtain rfl := Option.some.inj ha
      rw [h.sent]
      exact follows_opened log

theorem Tracks.getElem? (h : Tracks capacity log w) (ha : w.accounts[index]? = some a) :
    ∃ r, w.channel.receivers[index]? = some r ∧ Follows log r a := by
  obtain ⟨hlt, _⟩ := List.getElem?_eq_some_iff.mp ha
  have hr := List.getElem?_eq_getElem (h.length ▸ hlt)
  exact ⟨_, hr, h.follows index _ a hr ha⟩

theorem Tracks.subscribers_eq (h : Tracks capacity log w) :
    w.channel.subscribers = w.accounts.countP Account.live := by
  have hsame : w.channel.receivers.map Option.isSome = w.accounts.map Account.live := by
    refine List.ext_getElem (by simp [h.length]) fun i hi hi' => ?_
    rw [List.length_map] at hi hi'
    rw [List.getElem_map, List.getElem_map]
    exact (h.follows i _ _ (List.getElem?_eq_getElem hi) (List.getElem?_eq_getElem hi')).isSome_eq
  have hcount := congrArg (List.countP id) hsame
  rw [List.countP_map, List.countP_map] at hcount
  rw [subscribers, if_pos h.enabled, ← List.countP_eq_length_filter]
  exact hcount

theorem Tracks.send_unheard (h : Tracks capacity log w) (hnone : w.channel.subscribers = 0) (e : α) :
    w.step (.send e) = w := by
  have hclosed : ∀ a ∈ w.accounts, a.hear e = a := fun a ha => by
    have hlive := List.countP_eq_zero.mp (h.subscribers_eq ▸ hnone) a ha
    rw [Account.hear, if_neg hlive]
  have haccounts : w.accounts.map (.hear e) = w.accounts := by
    rw [List.map_congr_left hclosed, List.map_id']
  rw [Watched.step]
  simp only [step, book, send, hnone, if_true, haccounts]

theorem drop_append_last (log : List α) (e : α) (capacity : Nat) :
    let all := log.drop (log.length - capacity) ++ [e]
    all.drop (all.length - capacity) = (log ++ [e]).drop ((log ++ [e]).length - capacity) := by
  intro all
  have hall : all = (log ++ [e]).drop (log.length - capacity) :=
    (List.drop_append_of_le_length (by omega)).symm
  rw [hall, List.drop_drop, List.length_drop, List.length_append, List.length_singleton]
  congr 1
  omega

theorem tracks_send (h : Tracks capacity log w) (hsome : w.channel.subscribers ≠ 0) (e : α) :
    Tracks capacity (log ++ [e]) (w.step (.send e)) := by
  have hstep : w.step (.send e) = ⟨{ w.channel with
      sent := w.channel.sent + 1
      kept := (w.channel.kept ++ [e]).drop ((w.channel.kept ++ [e]).length - w.channel.capacity) },
      w.accounts.map (.hear e)⟩ := by
    simp [Watched.step, step, book, send, hsome]
  rw [hstep]
  refine ⟨h.enabled, h.capacity, ?_, ?_, ?_, fun i r a hr ha => ?_⟩
  · simp [h.sent]
  · dsimp only
    rw [h.kept]
    exact drop_append_last log e w.channel.capacity
  · simp [h.length]
  · rw [List.getElem?_map, Option.map_eq_some_iff] at ha
    obtain ⟨a, ha, rfl⟩ := ha
    exact (h.follows i r a hr ha).hear e

theorem tracks_modify {b : Broadcaster α} {f : Account α → Account α} (h : Tracks capacity log w)
    (hb : b = { w.channel with receivers := w.channel.receivers.set index r })
    (hf : ∀ a, w.accounts[index]? = some a → Follows log r (f a)) :
    Tracks capacity log ⟨b, w.accounts.modify index f⟩ := by
  subst hb
  refine ⟨h.enabled, h.capacity, h.sent, h.kept, by simp [h.length], fun i r' a hr ha => ?_⟩
  simp only [List.getElem?_set, List.getElem?_modify, Option.map_eq_map, Option.map_eq_some_iff] at hr ha
  obtain ⟨a, ha, rfl⟩ := ha
  by_cases hi : index = i
  · subst hi
    obtain ⟨hlt, _⟩ := List.getElem?_eq_some_iff.mp ha
    rw [if_pos rfl, if_pos (h.length ▸ hlt), Option.some.injEq] at hr
    subst hr
    rw [if_pos rfl]
    exact hf a ha
  · rw [if_neg hi] at hr ⊢
    exact h.follows i r' a hr ha

theorem Follows.close (h : Follows log r a) : Follows log none a.close :=
  ⟨rfl, h.sublist⟩

theorem tracks_drop (h : Tracks capacity log w) (index : Nat) :
    Tracks capacity log (w.step (.drop index)) := by
  refine tracks_modify h rfl fun a ha => ?_
  obtain ⟨r, _, hfollows⟩ := h.getElem? ha
  exact hfollows.close

theorem live_find (d : Delivery α) (a : Account α) : (a.find d).live = a.live := by
  cases d <;> rfl

theorem tracks_receive (h : Tracks capacity log w) (index : Nat) :
    Tracks capacity log (w.step (.receive index)) := by
  cases ha : w.accounts[index]? with
  | none =>
    -- There is no such receiver, so nothing changes.
    have hr : w.channel.receivers[index]? = none := by
      rw [List.getElem?_eq_none_iff] at ha ⊢
      exact h.length ▸ ha
    have hnone : w.channel.receive? index = none := by simp [receive?, hr]
    simpa [Watched.step, step, hnone, book] using h
  | some a =>
    obtain ⟨r, hr, hfollows⟩ := h.getElem? ha
    cases r with
    | none =>
      have hnone : w.channel.receive? index = none := by simp [receive?, hr]
      simpa [Watched.step, step, hnone, book] using h
    | some next =>
      obtain ⟨hlive, hstands⟩ := hfollows
      obtain ⟨next', _, hstands', hreceive⟩ := h.receive?_eq hr hstands
      simp only [Watched.step, step, hreceive, book]
      refine tracks_modify h rfl fun a' ha' => ?_
      obtain rfl := Option.some.inj (ha.symm.trans ha')
      exact ⟨(live_find _ a).trans hlive, hstands'⟩

/-- Whatever is done with a channel, it keeps the last events of a log that all its receivers follow. -/
theorem tracks_step (h : Tracks capacity log w) (input : Input α) :
    ∃ log, Tracks capacity log (w.step input) := by
  cases input with
  | subscribe => exact ⟨log, tracks_subscribe h⟩
  | send e =>
    by_cases hnone : w.channel.subscribers = 0
    · exact ⟨log, (h.send_unheard hnone e).symm ▸ h⟩
    · exact ⟨log ++ [e], tracks_send h hnone e⟩
  | receive index => exact ⟨log, tracks_receive h index⟩
  | drop index => exact ⟨log, tracks_drop h index⟩

theorem tracks_run {n : Nat} (hb : ofCapacity? n = some b) (inputs : List (Input α)) :
    ∃ log, Tracks n.nextPowerOfTwo log (Watched.run b inputs) := by
  induction inputs using List.reverseRecOn with
  | nil =>
    unfold ofCapacity? at hb
    split at hb
    · cases hb
    · obtain rfl := Option.some.inj hb
      exact ⟨[], rfl, rfl, rfl, by simp [Watched.run], rfl, fun i r a hr => by simp [Watched.run] at hr⟩
  | append_singleton inputs input ih =>
    obtain ⟨log, h⟩ := ih
    obtain ⟨log', h'⟩ := tracks_step h input
    exact ⟨log', by simpa [Watched.run] using h'⟩

/-- What is true of a receiver at all times. What it received was sent since it subscribed, in this order.
As long as it is there, it can still read the last of the events before it, as many as the channel keeps;
the ones before these are lost, and it is told how many there are before it receives anything else. -/
structure Accounted (b : Broadcaster α) (index : Nat) (a : Account α) : Prop where
  ordered : a.received.Sublist a.sent
  total : a.live = true →
    a.received.length + a.lost + b.overrun index + (b.readable index).length = a.sent.length
  recent : a.live = true →
    b.readable index = a.waiting.drop (a.waiting.length - b.capacity) ∧
    b.overrun index = a.waiting.length - b.capacity
  found : a.live = true →
    (b.step (.receive index)).1 = .found (due b.capacity a.waiting) ∧
    (b.step (.receive index)).2.overrun index = 0

theorem Tracks.accounted (h : Tracks capacity log w) (ha : w.accounts[index]? = some a) :
    Accounted w.channel index a := by
  obtain ⟨r, hr, hfollows⟩ := h.getElem? ha
  cases r with
  | none =>
    have hgone : a.live ≠ true := by simp [hfollows.1]
    exact ⟨hfollows.sublist, fun hl => absurd hl hgone, fun hl => absurd hl hgone,
      fun hl => absurd hl hgone⟩
  | some next =>
    obtain ⟨_, hstands⟩ := id hfollows
    have hover := h.overrun_eq hr hstands
    have hread := h.readable_eq hr hstands
    refine ⟨hfollows.sublist, fun _ => ?_, fun _ => ⟨hread, hover⟩, fun _ => ?_⟩
    · have hlength := a.length_waiting
      have hbounded := hstands.bounded
      rw [hread, hover, List.length_drop]
      rw [Account.read] at hlength hbounded
      omega
    · obtain ⟨next', hnext, _, hreceive⟩ := h.receive?_eq hr hstands
      obtain ⟨hlt, _⟩ := List.getElem?_eq_some_iff.mp hr
      simp only [step, hreceive]
      refine ⟨trivial, ?_⟩
      rw [overrun_of_receiver (List.getElem?_set_self hlt)]
      exact Nat.sub_eq_zero_of_le hnext

/-- Whatever is done with a channel, all that is sent to a receiver is accounted for: it was received, or
reported as lost, or is lost and not reported yet, or can still be read. An event reaches the receivers
that are there, and is dropped if there are none. -/
theorem delivery_accounted (n : Nat) (b : Broadcaster α) (hb : ofCapacity? n = some b)
    (inputs : List (Input α)) :
    (Watched.run b inputs).channel.capacity = n.nextPowerOfTwo ∧
    (Watched.run b inputs).accounts.length = (Watched.run b inputs).channel.receivers.length ∧
    (∀ index a, (Watched.run b inputs).accounts[index]? = some a →
      Accounted (Watched.run b inputs).channel index a) ∧
    ∀ e, ((Watched.run b inputs).channel.step (.send e)).1 =
        .reached ((Watched.run b inputs).accounts.countP Account.live) ∧
      ((Watched.run b inputs).accounts.countP Account.live = 0 →
        ((Watched.run b inputs).channel.step (.send e)).2 = (Watched.run b inputs).channel) := by
  obtain ⟨log, h⟩ := tracks_run hb inputs
  refine ⟨h.capacity, h.length, fun _ _ => h.accounted, fun e => ⟨?_, fun hnone => ?_⟩⟩
  · rw [step, h.subscribers_eq]
  · exact congrArg Watched.channel (h.send_unheard (h.subscribers_eq.trans hnone) e)

def small : Broadcaster Event := ⟨true, 2, 0, [], []⟩

theorem ofCapacity?_two : ofCapacity? 2 = some small := by
  have hpower : Nat.nextPowerOfTwo 2 = 2 := by decide +kernel
  simp [ofCapacity?, maxCapacity, small, hpower]

def flooded : List (Input Event) :=
  .subscribe :: ["a", "b", "c"].map fun client =>
    .send ⟨.autoApproved, client, none, ⟨2024, 1, 1, 0, 0, 0, 0, 0⟩⟩

theorem delivery_accounted_flooded : ofCapacity? 2 = some small ∧
    ∃ a, (Watched.run small flooded).accounts[0]? = some a ∧ a.live = true ∧ a.sent.length = 3 ∧
      Accounted (Watched.run small flooded).channel 0 a := by
  obtain ⟨_, _, haccounts, _⟩ := delivery_accounted 2 small ofCapacity?_two flooded
  exact ⟨ofCapacity?_two, _, rfl, rfl, rfl, haccounts 0 _ rfl⟩

/-- Before the receiver reads anything, one event is lost of which it is not told yet. -/
theorem lost_unreported : ofCapacity? 2 = some small ∧
    ∃ a, (Watched.run small flooded).accounts[0]? = some a ∧ a.live = true ∧
      a.received.length + a.lost + ((Watched.run small flooded).channel.readable 0).length = 2 ∧
      a.sent.length = 3 :=
  ⟨ofCapacity?_two, _, rfl, rfl, rfl, rfl⟩

end Broadcaster

end ConsentGate
