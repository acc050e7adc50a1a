import ConsentGate.Proofs.Server.Stores
import ConsentGate.Proofs.Timestamp
import Mathlib.Data.List.Induction
import Mathlib.Data.List.Nodup
import Mathlib.Logic.Function.Basic

namespace ConsentGate.CodeStore

inductive Operation where
  | issue (now : Timestamp) (code : String) (request : Request) (subjectId : String)
  | redeem (now : Timestamp) (code : String)
  | cleanup (now : Timestamp)

inductive Answer where
  | issued
  | redeemed (found : Option IssuedCode)
  | removed (count : Nat)

namespace Operation

def now : Operation → Timestamp
  | .issue now _ _ _ | .redeem now _ | .cleanup now => now

def issues? : Operation → Option String
  | .issue _ code _ _ => some code
  | _ => none

def isCleanup : Operation → Bool
  | .cleanup _ => true
  | _ => false

end Operation

def Answer.found? : Answer → Option (Option IssuedCode)
  | .redeemed found => some found
  | _ => none

theorem answer_of_found? {answer : Answer} {found : Option IssuedCode}
    (h : answer.found? = some found) : answer = .redeemed found := by
  cases answer <;> simp_all [Answer.found?]

/-- One operation on a store whose codes last for `age` nanoseconds. There is no answer where the clock
does not reach back so far. -/
def perform? (age : Int) (s : CodeStore) : Operation → Option (Answer × CodeStore)
  | .issue now code request subjectId => some (.issued, s.put code ⟨request, subjectId, now⟩)
  | .redeem now code => (s.redeemWithin? now age code).map fun r => (.redeemed r.1, r.2)
  | .cleanup now => (s.cleanupWithin? now age).map fun r => (.removed r.1, r.2)

/-- The answers to a history of operations, and the store after it. -/
def performAll? (age : Int) (s : CodeStore) : List Operation → Option (List Answer × CodeStore)
  | [] => some ([], s)
  | op :: ops =>
    (perform? age s op).bind fun r => (performAll? age r.2 ops).map fun t => (r.1 :: t.1, t.2)

/-- A history in which no code is issued twice and the clock neither goes back nor stands, at a
redemption or a cleanup, where it does not reach back far enough. -/
structure Sound (age : Int) (history : List Operation) : Prop where
  fresh : (history.filterMap Operation.issues?).Nodup
  ordered : history.Pairwise (·.now.instant ≤ ·.now.instant)
  reached : ∀ op ∈ history, op.issues? = none → (op.now.earlier? age).isSome

/-- Tells that a code was issued for something in the history and has not been redeemed since. -/
def Unspent (history : List Operation) (code : String) (issued : IssuedCode) : Prop :=
  ∃ earlier later, history =
      earlier ++ .issue issued.issuedAt code issued.request issued.subjectId :: later ∧
    ∀ now, .redeem now code ∉ later

variable {age cutoff : Int} {s : CodeStore} {history : List Operation}

/-! ## The ledger -/

abbrev Ledger := String → Option IssuedCode

def Operation.enter (l : Ledger) : Operation → Ledger
  | .issue now code request subjectId => Function.update l code (some ⟨request, subjectId, now⟩)
  | .redeem _ code => Function.update l code none
  | .cleanup _ => l

def ledger (history : List Operation) : Ledger :=
  history.foldl Operation.enter fun _ => none

theorem ledger_append (history : List Operation) (op : Operation) :
    ledger (history ++ [op]) = op.enter (ledger history) := by
  simp [ledger]

theorem unspent_append {code : String} {issued : IssuedCode} {op : Operation} :
    Unspent (history ++ [op]) code issued ↔
      op = .issue issued.issuedAt code issued.request issued.subjectId ∨
        Unspent history code issued ∧ ∀ now, op ≠ .redeem now code := by
  constructor
  · rintro ⟨earlier, later, heq, hlater⟩
    rcases List.eq_nil_or_concat later with rfl | ⟨later, last, rfl⟩
    · rw [List.append_singleton_inj] at heq
      exact .inl heq.2
    · rw [List.concat_eq_append, ← List.cons_append, ← List.append_assoc,
        List.append_singleton_inj] at heq
      obtain ⟨rfl, rfl⟩ := heq
      refine .inr ⟨⟨earlier, later, rfl, fun now hm => ?_⟩, fun now h => ?_⟩
      · exact hlater now (by simp [hm])
      · exact hlater now (by simp [h])
  · rintro (rfl | ⟨⟨earlier, later, rfl, hlater⟩, hop⟩)
    · exact ⟨history, [], rfl, by simp⟩
    · refine ⟨earlier, later ++ [op], by simp, fun now hm => ?_⟩
      rcases List.mem_append.mp hm with hm | hm
      · exact hlater now hm
      · exact hop now (List.mem_singleton.mp hm).symm

theorem issued_of_unspent {code : String} {issued : IssuedCode} (h : Unspent history code issued) :
    code ∈ history.filterMap Operation.issues? := by
  obtain ⟨earlier, later, rfl, _⟩ := h
  simp [Operation.issues?]

theorem ledger_iff (hfresh : (history.filterMap Operation.issues?).Nodup) {code : String}
    {issued : IssuedCode} : ledger history code = some issued ↔ Unspent history code issued := by
  induction history using List.reverseRecOn with
  | nil => simp [ledger, Unspent]
  | append_singleton history op ih =>
    rw [List.filterMap_append, List.nodup_append] at hfresh
    have ih := ih hfresh.1
    rw [ledger_append, unspent_append]
    cases op with
    | issue now other request subjectId =>
      by_cases h : code = other
      · subst h
        -- The code is fresh, so nothing was issued under it before.
        have hnot : ¬ Unspent history code issued := fun hu =>
          hfresh.2.2 code (issued_of_unspent hu) code (by simp [Operation.issues?]) rfl
        obtain ⟨r, u, t⟩ := issued
        simp only [Operation.enter, Function.update_self, Option.some.injEq, IssuedCode.mk.injEq,
          Operation.issue.injEq, hnot, false_and, or_false, true_and]
        exact ⟨fun ⟨hr, hu, ht⟩ => ⟨ht, hr, hu⟩, fun ⟨ht, hr, hu⟩ => ⟨hr, hu, ht⟩⟩
      · simp [Operation.enter, h, Ne.symm h, ih]
    | redeem now other =>
      by_cases h : code = other
      · simp [Operation.enter, h]
      · simp [Operation.enter, h, Ne.symm h, ih]
    | cleanup now => simp [Operation.enter, ih]

/-! ## What the store keeps -/

def isYoung (cutoff : Int) (c : IssuedCode) : Bool := cutoff < c.issuedAt.instant

/-- Store and ledger agree about what was issued after an instant. -/
def Keeps (cutoff : Int) (s : CodeStore) (l : Ledger) : Prop :=
  ∀ code, ((s.codes.get? code).filter (isYoung cutoff)) = (l code).filter (isYoung cutoff)

variable {l : Ledger}

theorem filter_isYoung {later : Int} (h : cutoff ≤ later) (found : Option IssuedCode) :
    (found.filter (isYoung cutoff)).filter (isYoung later) = found.filter (isYoung later) := by
  rw [Option.filter_filter]
  congr 1
  funext c
  by_cases hc : later < c.issuedAt.instant
  · simp [isYoung, hc, Int.lt_of_le_of_lt h hc]
  · simp [isYoung, hc]

def Operation.finds? (age : Int) (l : Ledger) : Operation → Option (Option IssuedCode)
  | .redeem now code => some ((l code).filter (isYoung (now.instant - age)))
  | _ => none

theorem Keeps.mono (h : Keeps cutoff s l) {later : Int} (hle : cutoff ≤ later) :
    Keeps later s l := by
  intro code
  rw [← filter_isYoung hle, h code, filter_isYoung hle]

theorem keeps_empty (cutoff : Int) : Keeps cutoff empty (ledger []) := by
  intro code
  rfl

/-- An operation is answered by the ledger, and leaves store and ledger in agreement. -/
theorem perform?_spec (h : Keeps cutoff s l) {op : Operation}
    (hle : cutoff ≤ op.now.instant - age)
    (hreach : op.issues? = none → (op.now.earlier? age).isSome) :
    ∃ answer t, perform? age s op = some (answer, t) ∧
      Keeps (op.now.instant - age) t (op.enter l) ∧ answer.found? = op.finds? age l := by
  have hkeeps := h.mono hle
  cases op with
  | issue now code request subjectId =>
    refine ⟨.issued, _, rfl, fun other => ?_, rfl⟩
    by_cases hcode : other = code
    · simp [put, Operation.enter, hcode]
    · simpa [put, Operation.enter, hcode] using hkeeps other
  | redeem now code =>
    refine ⟨.redeemed ((l code).filter (isYoung (now.instant - age))), ⟨s.codes.erase code⟩, ?_,
      fun other => ?_, rfl⟩
    · have hfound := hkeeps code
      have hcutoff := Timestamp.earlier?_of_isSome (hreach rfl)
      simp only [Operation.now] at hcutoff hfound
      simp only [perform?, redeemWithin?, hcutoff, Option.map_some, ← hfound]
      rfl
    · by_cases hcode : other = code
      · simp [Operation.enter, hcode]
      · simpa [Operation.enter, hcode] using hkeeps other
  | cleanup now =>
    have hcutoff := Timestamp.earlier?_of_isSome (hreach rfl)
    simp only [Operation.now] at hcutoff
    refine ⟨_, _, by simp only [perform?, cleanupWithin?, hcutoff, Option.map_some]; rfl,
      fun other => ?_, rfl⟩
    rw [TextMap.get?_filter]
    exact (filter_isYoung (Int.le_refl _) _).trans (hkeeps other)

/-! ## Histories -/

def found (age : Int) (l : Ledger) : List Operation → List (Option IssuedCode)
  | [] => []
  | op :: ops => (op.finds? age l).toList ++ found age (op.enter l) ops

theorem found_filter (age : Int) (l : Ledger) (history : List Operation) :
    found age l (history.filter (!·.isCleanup)) = found age l history := by
  induction history generalizing l with
  | nil => rfl
  | cons op ops ih =>
    cases op with
    | cleanup now => exact ih l
    | _ => rw [List.filter_cons_of_pos rfl, found, found, ih]

/-- A history is answered by the ledger, and leaves store and ledger in agreement. -/
theorem performAll?_spec (h : Keeps cutoff s l)
    (hle : ∀ op ∈ history, cutoff ≤ op.now.instant - age)
    (hordered : history.Pairwise (·.now.instant ≤ ·.now.instant))
    (hreached : ∀ op ∈ history, op.issues? = none → (op.now.earlier? age).isSome) :
    ∃ answers t, performAll? age s history = some (answers, t) ∧
      answers.filterMap Answer.found? = found age l history ∧
      ∀ later, cutoff ≤ later → (∀ op ∈ history, op.now.instant - age ≤ later) →
        Keeps later t (history.foldl Operation.enter l) := by
  induction history generalizing cutoff s l with
  | nil => exact ⟨[], s, rfl, rfl, fun later hlater _ => h.mono hlater⟩
  | cons op ops ih =>
    obtain ⟨hfirst, hordered⟩ := List.pairwise_cons.mp hordered
    obtain ⟨answer, t, hperform, hkeeps, hanswer⟩ :=
      perform?_spec h (hle op List.mem_cons_self) (hreached op List.mem_cons_self)
    obtain ⟨answers, u, hall, hfound, hlast⟩ := ih hkeeps
      (fun op' hm => Int.sub_le_sub_right (hfirst op' hm) age) hordered
      (fun op' hm => hreached op' (List.mem_cons_of_mem op hm))
    refine ⟨answer :: answers, u, by simp [performAll?, hperform, hall], ?_, ?_⟩
    · rw [found, ← hfound, ← hanswer]
      cases hf : answer.found? <;> simp [hf]
    · intro later _ hlater
      exact hlast later (hlater op List.mem_cons_self)
        fun op' hm => hlater op' (List.mem_cons_of_mem op hm)

theorem performAll?_append (age : Int) (s : CodeStore) (a b : List Operation) :
    performAll? age s (a ++ b) = (performAll? age s a).bind fun r =>
      (performAll? age r.2 b).map fun t => (r.1 ++ t.1, t.2) := by
  induction a generalizing s with
  | nil => simp [performAll?]
  | cons op a ih =>
    rw [List.cons_append, performAll?, performAll?]
    cases perform? age s op with
    | none => rfl
    | some r =>
      simp only [Option.bind_some, ih]
      cases performAll? age r.2 a <;> simp [Function.comp_def]

theorem length_of_performAll? {answers : List Answer} {t : CodeStore}
    (h : performAll? age s history = some (answers, t)) : answers.length = history.length := by
  induction history generalizing s answers with
  | nil => simp_all [performAll?]
  | cons op ops ih =>
    simp only [performAll?, Option.bind_eq_some_iff, Option.map_eq_some_iff, Prod.mk.injEq] at h
    obtain ⟨r, _, ⟨answers, u⟩, hall, rfl, rfl⟩ := h
    simp [ih hall]

theorem performAll?_split {before after : List Operation} {op : Operation} {answers : List Answer}
    {t : CodeStore} (h : performAll? age s (before ++ op :: after) = some (answers, t)) :
    ∃ earlier u answer v, performAll? age s before = some (earlier, u) ∧
      perform? age u op = some (answer, v) ∧
      performAll? age s (before ++ [op]) = some (earlier ++ [answer], v) ∧
      answers[before.length]? = some answer := by
  rw [performAll?_append] at h
  obtain ⟨⟨earlier, u⟩, hbefore, h⟩ := Option.bind_eq_some_iff.mp h
  obtain ⟨⟨rest, w⟩, hrest, h⟩ := Option.map_eq_some_iff.mp h
  obtain ⟨⟨answer, v⟩, hop, hrest⟩ := Option.bind_eq_some_iff.mp hrest
  obtain ⟨⟨later, x⟩, _, hlater⟩ := Option.map_eq_some_iff.mp hrest
  obtain ⟨rfl, rfl⟩ := Prod.mk.inj hlater
  obtain ⟨rfl, rfl⟩ := Prod.mk.inj h
  refine ⟨earlier, u, answer, v, hbefore, hop, ?_, ?_⟩
  · simp [performAll?_append, hbefore, performAll?, hop]
  · rw [← length_of_performAll? hbefore]
    simp

/-! ## The law -/

theorem cleanupWithin?_spec {t : CodeStore} {now : Timestamp} {n : Nat}
    (h : s.cleanupWithin? now age = some (n, t)) :
    n = (s.codes.keys.filter fun code => !t.codes.contains code).length ∧
      ∀ code, t.codes.get? code = (s.codes.get? code).filter (isYoung (now.instant - age)) := by
  obtain ⟨cutoff, hcutoff, heq⟩ := Option.map_eq_some_iff.mp h
  obtain ⟨rfl, rfl⟩ := Prod.mk.inj heq
  obtain ⟨rfl, _⟩ := Timestamp.earlier?_eq_some.mp hcutoff
  refine ⟨?_, fun code => TextMap.get?_filter _ _ _⟩
  have hsize := TextMap.size_filter_add s.codes fun _ c => now.instant - age < c.issuedAt.instant
  dsimp only
  omega

/-- What a history of operations is answered. -/
structure Lawful (age : Int) (history : List Operation) (answers : List Answer) : Prop where
  /-- A redemption finds what its code was issued for, if that is young and unspent, and no more. -/
  redeemed : ∀ before now code after, history = before ++ .redeem now code :: after →
    ∃ found, answers[before.length]? = some (.redeemed found) ∧
      ∀ issued, found = some issued ↔
        Unspent before code issued ∧ now.instant - age < issued.issuedAt.instant
  /-- A cleanup answers how many codes it removed, and removes those that are not young. -/
  removed : ∀ before now after, history = before ++ .cleanup now :: after →
    ∃ earlier s t n, performAll? age empty before = some (earlier, s) ∧
      performAll? age empty (before ++ [.cleanup now]) = some (earlier ++ [.removed n], t) ∧
      answers[before.length]? = some (.removed n) ∧
      n = (s.codes.keys.filter fun code => !t.codes.contains code).length ∧
      ∀ code, t.codes.get? code = (s.codes.get? code).filter (isYoung (now.instant - age))

theorem Sound.append_left {a b : List Operation} (h : Sound age (a ++ b)) : Sound age a where
  fresh := by
    have hfresh := h.fresh
    rw [List.filterMap_append] at hfresh
    exact List.Nodup.of_append_left hfresh
  ordered := (List.pairwise_append.mp h.ordered).1
  reached := fun op hm => h.reached op (List.mem_append_left b hm)

theorem performAll?_sound (h : Sound age history) : ∃ answers t,
    performAll? age empty history = some (answers, t) ∧
      answers.filterMap Answer.found? = found age (ledger []) history ∧
      ∀ later, (∀ op ∈ history, op.now.instant - age ≤ later) → Keeps later t (ledger history) := by
  cases history with
  | nil => exact ⟨[], empty, rfl, rfl, fun later _ => keeps_empty later⟩
  | cons op ops =>
    -- The clock of the first operation is a lower bound, from which store and ledger agree.
    obtain ⟨hfirst, _⟩ := List.pairwise_cons.mp h.ordered
    obtain ⟨answers, t, hall, hfound, hkeeps⟩ := performAll?_spec (keeps_empty (op.now.instant - age))
      (fun op' hm => by
        obtain rfl | hm := List.mem_cons.mp hm
        · exact Int.le_refl _
        · exact Int.sub_le_sub_right (hfirst op' hm) age) h.ordered h.reached
    exact ⟨answers, t, hall, hfound, fun later hlater =>
      hkeeps later (hlater op List.mem_cons_self) hlater⟩

theorem lawful_of_performAll? (h : Sound age history) {answers : List Answer} {t : CodeStore}
    (hall : performAll? age empty history = some (answers, t)) : Lawful age history answers := by
  refine ⟨?redeemed, ?removed⟩
  case redeemed =>
    rintro before now code after rfl
    obtain ⟨earlier, u, answer, v, hbefore, hop, _, hanswer⟩ := performAll?_split hall
    have hordered := (List.pairwise_append.mp h.ordered).2.2
    obtain ⟨_, _, hbefore', _, hkeeps⟩ := performAll?_sound h.append_left
    obtain ⟨rfl, rfl⟩ := Prod.mk.inj (Option.some.inj (hbefore.symm.trans hbefore'))
    have hyoung := hkeeps (now.instant - age) fun op hm =>
      Int.sub_le_sub_right (hordered op hm (.redeem now code) List.mem_cons_self) age
    obtain ⟨_, _, hop', _, hfound⟩ := @perform?_spec _ _ _ _ hyoung (.redeem now code) (Int.le_refl _)
      (h.reached _ (List.mem_append_right before List.mem_cons_self))
    obtain ⟨rfl, rfl⟩ := Prod.mk.inj (Option.some.inj (hop.symm.trans hop'))
    refine ⟨_, hanswer.trans (congrArg some (answer_of_found? hfound)), fun issued => ?_⟩
    rw [Option.filter_eq_some_iff, ledger_iff h.append_left.fresh, isYoung, decide_eq_true_iff]
  case removed =>
    rintro before now after rfl
    obtain ⟨earlier, u, answer, v, hbefore, hop, hthrough, hanswer⟩ := performAll?_split hall
    obtain ⟨⟨n, w⟩, hcleanup, heq⟩ := Option.map_eq_some_iff.mp hop
    obtain ⟨rfl, rfl⟩ := Prod.mk.inj heq
    exact ⟨earlier, u, w, n, hbefore, hthrough, hanswer, cleanupWithin?_spec hcleanup⟩

/-- However often the store is cleaned up, and whenever: each redemption finds what its code was issued
for exactly if that is young enough and was not redeemed since, and each cleanup counts what it
removes. -/
theorem code_law (age : Int) (history : List Operation) (h : Sound age history) :
    ∃ answers s, performAll? age empty history = some (answers, s) ∧ Lawful age history answers ∧
      ∀ other, Sound age other →
        other.filter (!·.isCleanup) = history.filter (!·.isCleanup) →
        ∃ answers' s', performAll? age empty other = some (answers', s') ∧
          answers'.filterMap Answer.found? = answers.filterMap Answer.found? := by
  obtain ⟨answers, s, hall, hfound, _⟩ := performAll?_sound h
  refine ⟨answers, s, hall, lawful_of_performAll? h hall, fun other hother hsame => ?_⟩
  obtain ⟨answers', s', hall', hfound', _⟩ := performAll?_sound hother
  refine ⟨answers', s', hall', ?_⟩
  calc answers'.filterMap Answer.found?
      = found age (ledger []) (other.filter (!·.isCleanup)) := by rw [hfound', found_filter]
    _ = found age (ledger []) history := by rw [hsame, found_filter]
    _ = answers.filterMap Answer.found? := hfound.symm

def boundary : List Operation :=
  let request : Request :=
    ⟨"foo", none, none, .empty, .ofList ["code"], true, .empty, .empty, .empty, .empty⟩
  [.issue ⟨2024, 1, 1, 0, 0, 0, 0, 0⟩ "a" request "marissa",
    .issue ⟨2024, 1, 1, 0, 1, 0, 0, 0⟩ "b" request "marissa",
    .cleanup ⟨2024, 1, 1, 0, 5, 0, 0, 0⟩,
    .redeem ⟨2024, 1, 1, 0, 5, 0, 0, 0⟩ "a",
    .redeem ⟨2024, 1, 1, 0, 5, 1, 0, 0⟩ "a",
    .cleanup ⟨2024, 1, 1, 0, 6, 0, 500000000, 0⟩,
    .redeem ⟨2024, 1, 1, 0, 6, 0, 500000000, 0⟩ "b"]

theorem sound_boundary : Sound 300500000000 boundary :=
  ⟨by decide, by decide, by decide⟩

theorem sound_boundary_bare : Sound 300500000000 (boundary.filter (!·.isCleanup)) :=
  ⟨by decide, by decide, by decide⟩

theorem code_law_boundary : Sound 300500000000 boundary ∧ ∃ answers s answers' s',
    performAll? 300500000000 empty boundary = some (answers, s) ∧
      Lawful 300500000000 boundary answers ∧
      (answers.filterMap Answer.found?).map Option.isSome = [true, false, false] ∧
      performAll? 300500000000 empty (boundary.filter (!·.isCleanup)) = some (answers', s') ∧
      answers'.filterMap Answer.found? = answers.filterMap Answer.found? := by
  obtain ⟨answers, s, hall, hlawful, hother⟩ := code_law 300500000000 boundary sound_boundary
  obtain ⟨answers', s', hall', hsame⟩ := hother _ sound_boundary_bare (by simp)
  have hfound : ((performAll? 300500000000 empty boundary).map fun r =>
      (r.1.filterMap Answer.found?).map Option.isSome) = some [true, false, false] := by decide
  rw [hall] at hfound
  exact ⟨sound_boundary, answers, s, answers', s', hall, hlawful, Option.some.inj hfound, hall', hsame⟩

end ConsentGate.CodeStore
