import ConsentGate.Proofs.Json.Embedded
import ConsentGate.Proofs.Wire.Snapshot

namespace ConsentGate

namespace Json

variable {j k : Json} {fields : List (String × Json)}

/-- A number is read from its numeral. -/
def NumberReadsBack : Json → Prop
  | .number n => n.ReadsBack
  | _ => True

mutual

theorem isExact_of_every : ∀ j, Every (· ≠ .unreadable) j → Every NumberReadsBack j → IsExact j
  | .array items, ⟨_, hr⟩, ⟨_, hw⟩ => areExact_of_every items hr hw
  | .object fields, ⟨_, hr⟩, ⟨_, hw⟩ => haveExact_of_every fields hr hw
  | .number _, _, hn => hn
  | .unreadable, h, _ => absurd rfl h
  | .null, _, _ | .bool _, _, _ | .string _, _, _ => trivial

theorem areExact_of_every :
    ∀ items, EveryItem (· ≠ .unreadable) items → EveryItem NumberReadsBack items → AreExact items
  | [], _, _ => trivial
  | j :: r, ⟨hj, hr⟩, ⟨hj', hr'⟩ => ⟨isExact_of_every j hj hj', areExact_of_every r hr hr'⟩

theorem haveExact_of_every :
    ∀ fields, EveryValue (· ≠ .unreadable) fields → EveryValue NumberReadsBack fields → HaveExact fields
  | [], _, _ => trivial
  | (_, j) :: r, ⟨hj, hr⟩, ⟨hj', hr'⟩ => ⟨isExact_of_every j hj hj', haveExact_of_every r hr hr'⟩

end

end Json

namespace Wire

open Json (Every EveryValue Held IsPlain NumberReadsBack)

variable {r : Request} {s : Snapshot} {j : Json} {n : Nat}

/-! ## Extensions -/

/-- The documents of a client can be read again: they stand for themselves, and nest no deeper than
`n`. -/
structure Rereads (extensions : List (String × Json)) (n : Nat) : Prop where
  plain : EveryValue IsPlain extensions
  depth : Json.fieldsDepth extensions ≤ n

theorem map?_prune_iff {m m' : TextMap Json} (h : ∀ f ∈ m.toList, Held f.2) :
    json.map? (fun j => j.whole?.map Json.settle) (.object (Json.pruneFields n m.toList)) = some m' ↔
      m' = m ∧ Rereads m.toList n := by
  have hback : Rereads m.toList n → json.map? (fun j => j.whole?.map Json.settle)
      (.object (Json.pruneFields n m.toList)) = some m := by
    rintro ⟨hplain, hdepth⟩
    have hread : json.map? (fun j => j.whole?.map Json.settle)
        (.object (m.mapValues id).toList) = some m :=
      map?_object m fun f hf => (h f hf).whole?_iff.mpr ⟨rfl, Json.everyValue_iff.mp hplain f hf⟩
    rw [Json.pruneFields_of_depth n m.toList hdepth]
    simpa [TextMap.mapValues, TextMap.toList] using hread
  constructor
  · intro hread
    have hrereads : Rereads m.toList n := by
      rw [map?_eq, Json.pruneFields_eq_map] at hread
      obtain ⟨entries, hentries, _⟩ := Option.map_eq_some_iff.mp hread
      have hall : ∀ f ∈ m.toList, Every IsPlain f.2 ∧ Json.depth f.2 ≤ n := by
        intro f hf
        obtain ⟨e, _, he⟩ := mem_of_mapM hentries (List.mem_map_of_mem hf)
        obtain ⟨k, hk, _⟩ := Option.map_eq_some_iff.mp he
        exact ((h f hf).whole?_prune_iff n).mp hk |>.2
      exact ⟨Json.everyValue_iff.mpr fun f hf => (hall f hf).1,
        Json.fieldsDepth_le_iff.mpr fun f hf => (hall f hf).2⟩
    exact ⟨Option.some.inj (hread.symm.trans (hback hrereads)), hrereads⟩
  · rintro ⟨rfl, hrereads⟩
    exact hback hrereads

theorem held_extensions (h : request? j = some r) : ∀ f ∈ r.extensions.toList, Held f.2 := by
  simp only [request?, Option.bind_eq_bind, Option.bind_eq_some_iff, Option.pure_def,
    Option.some.injEq] at h
  obtain ⟨fields, _, _, _, _, _, _, _, _, _, _, _, _, _, _, _, _, _, _, _, extensions, hext, rfl⟩ := h
  unfold withDefault at hext
  split at hext
  · intro f hf
    obtain ⟨x, hx⟩ := exists_of_map? hext f hf
    exact Json.held_of_whole? hx
  · obtain rfl := Option.some.inj hext
    exact fun f hf => absurd hf List.not_mem_nil

/-! ## Requests and snapshots -/

/-- Of a request that is read from text only the extensions can be too deep. -/
theorem prune_ofRequest (r : Request) (n : Nat) : (ofRequest r).prune (n + 2) =
    requestWith r (.object (Json.pruneFields n r.extensions.toList)) := by
  have hown : Json.pruneFields (n + 1) (ownFields r) = ownFields r :=
    Json.pruneFields_of_depth _ _ (by rw [fieldsDepth_ownFields]; omega)
  have hlevel : n + 2 - 1 = n + 1 := rfl
  rw [ofRequest_eq, requestWith, Json.prune, if_pos (by omega), hlevel, Json.pruneFields_append, hown]
  simp [Json.pruneFields, Json.prune, requestWith]

theorem request?_prune_iff {r' : Request} (h : ∀ f ∈ r.extensions.toList, Held f.2) (n : Nat) :
    request? ((ofRequest r).prune (n + 2)) = some r' ↔ r' = r ∧ Rereads r.extensions.toList n := by
  rw [prune_ofRequest, request?_requestWith, Option.map_eq_some_iff]
  constructor
  · rintro ⟨m, hm, rfl⟩
    obtain ⟨rfl, hrereads⟩ := (map?_prune_iff h).mp hm
    exact ⟨rfl, hrereads⟩
  · rintro ⟨rfl, hrereads⟩
    exact ⟨_, (map?_prune_iff h).mpr ⟨rfl, hrereads⟩, rfl⟩

theorem ofRequest_inj {r' : Request} (h : ofRequest r = ofRequest r') : r = r' := by
  rw [ofRequest_eq, ofRequest_eq, requestWith, requestWith, Json.object.injEq] at h
  obtain ⟨hown, hext⟩ := List.append_inj' h rfl
  obtain ⟨-, hext⟩ := Prod.mk.inj (List.singleton_inj.mp hext)
  have hentries : r.extensions.entries = r'.extensions.entries := Json.object.inj hext
  have hrest : requestWith r (.object []) = requestWith r' (.object []) := by
    rw [requestWith, hown, requestWith]
  have hread := congrArg request? hrest
  have hnone : json.map? (fun j => j.whole?.map Json.settle) (.object []) = some .empty := rfl
  rw [request?_requestWith, request?_requestWith, hnone, Option.map_some, Option.map_some,
    Option.some.injEq] at hread
  have hextensions : r.extensions = r'.extensions := (TextMap.mk.injEq _ _ _ _).mpr hentries
  calc r = { { r with extensions := .empty } with extensions := r.extensions } := rfl
    _ = { { r' with extensions := .empty } with extensions := r'.extensions } := by
      rw [hread, hextensions]
    _ = r' := rfl

/-! ## Kinds of records -/

/-- How records of a kind are read and written, the times that they hold, and the documents of a client in
them, which stand below `level` levels. -/
structure Format (α : Type) where
  read? : Json → Option α
  write : α → Json
  times : α → List Timestamp
  extensions : α → List (String × Json)
  level : Nat

namespace Format

variable {α : Type}

def toText (f : Format α) (v : α) : String := (f.write v).render

def ofText? (f : Format α) (text : String) : Option α := (Json.read? text).bind f.read?

def request : Format Request where
  read? := request?
  write := ofRequest
  times _ := []
  extensions r := r.extensions.toList
  level := 2

def snapshot : Format Snapshot where
  read? := snapshot?
  write := ofSnapshot
  times s := [s.frozenAt]
  extensions s := s.request.extensions.toList
  level := 3

def client : Format Client where
  read? := client? json
  write := ofClient
  times _ := []
  extensions _ := []
  level := 1

def principal : Format Principal where
  read? := principal? json
  write := ofPrincipal
  times _ := []
  extensions _ := []
  level := 1

def token : Format Token where
  read? := token? json
  write := ofToken
  times t := [t.expiration]
  extensions _ := []
  level := 1

def event : Format Event where
  read? := event?
  write := ofEvent
  times e := [e.timestamp]
  extensions _ := []
  level := 1

def redirect : Format Redirect where
  read? := redirect?
  write := ofRedirect
  times _ := []
  extensions _ := []
  level := 1

/-- The text of a record that was read loses nothing. All its times can be written. Where the numbers of
the client's documents are read from their numerals, the text reads as the record again just if these
documents can be read again, and as no other record in any case. -/
structure Lossless (f : Format α) : Prop where
  dated : ∀ j v, f.read? j = some v → ∀ t ∈ f.times v, t.IsDate
  back : ∀ j v, f.read? j = some v → EveryValue NumberReadsBack (f.extensions v) →
    ∀ w, f.ofText? (f.toText v) = some w ↔
      w = v ∧ Rereads (f.extensions v) (Json.maxDepth - f.level)
  injective : ∀ i j v w, f.read? i = some v → f.read? j = some w →
    EveryValue NumberReadsBack (f.extensions v) → EveryValue NumberReadsBack (f.extensions w) →
    f.toText v = f.toText w → v = w

variable {f : Format α}

/-- What is read of the text of a record has the same text, and is read of it again. -/
theorem Lossless.again (h : f.Lossless) {j : Json} {v w : α} (hv : f.read? j = some v)
    (hnumber : EveryValue NumberReadsBack (f.extensions v)) (hw : f.ofText? (f.toText v) = some w) :
    f.toText w = f.toText v ∧ f.ofText? (f.toText w) = some w := by
  obtain ⟨rfl, -⟩ := (h.back j v hv hnumber w).mp hw
  exact ⟨rfl, hw⟩

theorem ofText?_toText {v : α} (h : (f.write v).IsExact) :
    f.ofText? (f.toText v) = f.read? ((f.write v).prune Json.maxDepth) := by
  rw [ofText?, toText, Json.read?_render_prune h, Option.bind_some]

/-- Records without documents of a client read back from what is written of them. -/
theorem lossless_of_write (hnone : ∀ v, f.extensions v = [])
    (hdated : ∀ j v, f.read? j = some v → ∀ t ∈ f.times v, t.IsDate)
    (hwrite : ∀ v, (∀ t ∈ f.times v, t.IsDate) →
      (f.write v).IsExact ∧ (f.write v).depth ≤ Json.maxDepth ∧ f.read? (f.write v) = some v) :
    f.Lossless where
  dated := hdated
  back j v hv _ w := by
    obtain ⟨hexact, hdepth, hread⟩ := hwrite v (hdated j v hv)
    have hrereads : Rereads (f.extensions v) (Json.maxDepth - f.level) := by
      rw [hnone]
      exact ⟨trivial, Nat.zero_le _⟩
    rw [ofText?_toText hexact, Json.prune_of_depth _ _ hdepth, hread, Option.some.injEq]
    exact ⟨fun h => ⟨h.symm, hrereads⟩, fun h => h.1.symm⟩
  injective i j v w hv hw _ _ htext := by
    obtain ⟨hexact, _, hread⟩ := hwrite v (hdated i v hv)
    obtain ⟨hexact', _, hread'⟩ := hwrite w (hdated j w hw)
    rw [Json.render_inj hexact hexact' htext, hread'] at hread
    exact (Option.some.inj hread).symm

end Format

theorem isDate_of_timestamp? {t : Timestamp} (h : timestamp? json j = some t) : t.IsDate := by
  obtain ⟨text, _, hparse⟩ := Option.bind_eq_some_iff.mp h
  exact Timestamp.isDate_of_parse? hparse

theorem isDate_of_required {fields : List (String × Json)} {name : String} {t : Timestamp}
    (h : required (timestamp? json) fields name = some t) : t.IsDate := by
  obtain ⟨v, _, hv⟩ := Option.bind_eq_some_iff.mp h
  exact isDate_of_timestamp? hv

namespace Format

theorem isExact_request {v : Request} (hv : request? j = some v)
    (hnumber : EveryValue NumberReadsBack v.extensions.toList) : (ofRequest v).IsExact := by
  rw [ofRequest_eq]
  refine isExact_requestWith (Json.haveExact_of_every _ ?_ hnumber)
  exact Json.everyValue_iff.mpr fun f hf => (held_extensions hv f hf).readable

theorem lossless_request : request.Lossless where
  dated _ _ _ _ ht := absurd ht List.not_mem_nil
  back j v hv hnumber w := by
    rw [ofText?_toText (isExact_request hv hnumber)]
    exact request?_prune_iff (held_extensions hv) 125
  injective i j v w hv hw hnumber hnumber' htext :=
    ofRequest_inj (Json.render_inj (isExact_request hv hnumber) (isExact_request hw hnumber') htext)

theorem lossless_client : client.Lossless :=
  lossless_of_write (fun _ => rfl) (fun _ _ _ _ ht => absurd ht List.not_mem_nil) fun c _ => by
    refine ⟨?_, ?_, ?_⟩
    · simp [client, ofClient, ofTextSet, Json.ofTexts, Json.IsExact, Json.HaveExact, areExact_texts]
    · simp [client, ofClient, ofTextSet, Json.ofTexts, Json.depth, Json.fieldsDepth, itemsDepth_texts,
        Json.maxDepth]
    · simp [client, client?, ofClient, record?_object, required, withDefault, List.lookup_cons,
        textSet?_ofTextSet, texts?_ofTexts]
      rfl

theorem lossless_principal : principal.Lossless :=
  lossless_of_write (fun _ => rfl) (fun _ _ _ _ ht => absurd ht List.not_mem_nil) fun p _ => by
    obtain ⟨subjectId, username, sessionId⟩ := p
    refine ⟨?_, ?_, ?_⟩
    · simp [principal, ofPrincipal, Json.IsExact, Json.HaveExact, haveExact_optionalField]
    · simp [principal, ofPrincipal, Json.depth, Json.fieldsDepth, fieldsDepth_optionalField,
        Json.maxDepth]
    · cases sessionId <;> rfl

theorem lossless_token : token.Lossless :=
  lossless_of_write (fun _ => rfl)
    (fun j t h u hu => by
      obtain rfl := List.mem_singleton.mp hu
      simp only [token, token?, Option.bind_eq_bind, Option.bind_eq_some_iff, Option.pure_def,
        Option.some.injEq] at h
      obtain ⟨_, _, _, _, _, _, _, hdate, _, _, _, _, rfl⟩ := h
      exact isDate_of_required hdate)
    fun t ht => by
    have hdate := timestamp?_ofTimestamp (ht t.expiration (List.mem_singleton_self _))
    obtain ⟨value, idToken, expiration, tokenType, scope⟩ := t
    refine ⟨?_, ?_, ?_⟩
    · simp [token, ofToken, ofTextSet, ofTimestamp, Json.ofTexts, Json.IsExact, Json.HaveExact,
        Json.haveExact_append, haveExact_optionalField, areExact_texts]
    · simp [token, ofToken, ofTextSet, ofTimestamp, Json.ofTexts, Json.depth, Json.fieldsDepth,
        Json.fieldsDepth_append, fieldsDepth_optionalField, itemsDepth_texts, Json.maxDepth]
    · cases idToken <;>
      · simp [token, token?, ofToken, record?_object, optionalField, required, withDefault,
          Dialect.optional, List.lookup_cons, textSet?_ofTextSet, hdate]
        rfl

theorem lossless_redirect : redirect.Lossless :=
  lossless_of_write (fun _ => rfl) (fun _ _ _ _ ht => absurd ht List.not_mem_nil) fun r _ => by
    obtain ⟨uri, status⟩ := r
    refine ⟨⟨trivial, trivial, trivial⟩, ?_, ?_⟩
    · simp [redirect, ofRedirect, ofRedirectStatus, Json.depth, Json.fieldsDepth, Json.maxDepth]
    · cases status <;> rfl

theorem eventKind?_ofEventKind (k : EventKind) : eventKind? (ofEventKind k) = some k := by
  cases k with
  | approvalRequested id =>
    have hreadable : (ofEventKind (.approvalRequested id)).isReadable = true := rfl
    have htagged : tagged? (ofEventKind (.approvalRequested id)) =
        some ("approval_requested", .object [("snapshot_id", ofUuid id)]) := rfl
    have hrecord : json.record? ["snapshot_id"] (.object [("snapshot_id", ofUuid id)]) =
        some [("snapshot_id", ofUuid id)] := record?_object (by simp) _
    simp [eventKind?, hreadable, htagged, hrecord, required, uuid?_ofUuid]
  | codeIssued grant | tokenIssued grant => cases grant <;> rfl
  | requestRejected error => cases error <;> rfl
  | autoApproved | accessDenied | tamperDetected => rfl

theorem isExact_ofEventKind (k : EventKind) : (ofEventKind k).IsExact := by
  cases k <;> simp [ofEventKind, ofUuid, ofGrantType, ofErrorCode, Json.IsExact, Json.HaveExact]

theorem depth_ofEventKind (k : EventKind) : (ofEventKind k).depth = 1 := by
  cases k <;> rfl

theorem lossless_event : event.Lossless :=
  lossless_of_write (fun _ => rfl)
    (fun j e h t ht => by
      obtain rfl := List.mem_singleton.mp ht
      simp only [event, event?, Option.bind_eq_bind, Option.bind_eq_some_iff, Option.pure_def,
        Option.some.injEq] at h
      obtain ⟨_, _, _, _, _, _, _, _, _, hdate, rfl⟩ := h
      exact isDate_of_required hdate)
    fun e ht => by
    have hdate := timestamp?_ofTimestamp (ht e.timestamp (List.mem_singleton_self _))
    obtain ⟨kind, clientId, subjectId, timestamp⟩ := e
    refine ⟨?_, ?_, ?_⟩
    · simp [event, ofEvent, ofTimestamp, Json.IsExact, Json.HaveExact, Json.haveExact_append,
        haveExact_optionalField, isExact_ofEventKind]
    · simp [event, ofEvent, ofTimestamp, Json.depth, Json.fieldsDepth, Json.fieldsDepth_append,
        fieldsDepth_optionalField, depth_ofEventKind, Json.maxDepth]
    · cases subjectId <;>
      · simp [event, event?, ofEvent, record?_object, optionalField, required, Dialect.optional,
          List.lookup_cons, eventKind?_ofEventKind, hdate]
        rfl

theorem snapshot?_parts (h : snapshot? j = some s) :
    s.frozenAt.IsDate ∧ ∃ x, request? x = some s.request := by
  simp only [snapshot?, Option.bind_eq_bind, Option.bind_eq_some_iff, Option.pure_def,
    Option.some.injEq] at h
  obtain ⟨_, _, _, _, _, hdate, _, hrequest, rfl⟩ := h
  obtain ⟨x, _, hx⟩ := Option.bind_eq_some_iff.mp hrequest
  exact ⟨isDate_of_required hdate, x, hx⟩

theorem isExact_snapshot (h : snapshot? j = some s)
    (hnumber : EveryValue NumberReadsBack s.request.extensions.toList) : (ofSnapshot s).IsExact := by
  obtain ⟨-, x, hx⟩ := snapshot?_parts h
  exact isExact_snapshotWith (isExact_request hx hnumber)

theorem lossless_snapshot : snapshot.Lossless where
  dated j s h t ht := by
    obtain rfl := List.mem_singleton.mp ht
    exact (snapshot?_parts h).1
  back j s hs hnumber w := by
    obtain ⟨hdate, x, hx⟩ := snapshot?_parts hs
    have hprune : (ofSnapshot s).prune Json.maxDepth =
        snapshotWith s ((ofRequest s.request).prune 126) := rfl
    rw [ofText?_toText (isExact_snapshot hs hnumber)]
    show snapshot? ((ofSnapshot s).prune Json.maxDepth) = some w ↔ _
    rw [hprune, snapshot?_snapshotWith hdate, Option.map_eq_some_iff]
    have hiff (r : Request) : request? ((ofRequest s.request).prune 126) = some r ↔
        r = s.request ∧ Rereads s.request.extensions.toList 124 :=
      request?_prune_iff (held_extensions hx) 124
    constructor
    · rintro ⟨r, hr, rfl⟩
      obtain ⟨rfl, hrereads⟩ := (hiff r).mp hr
      exact ⟨rfl, hrereads⟩
    · rintro ⟨rfl, hrereads⟩
      exact ⟨w.request, (hiff _).mpr ⟨rfl, hrereads⟩, rfl⟩
  injective i j v w hv hw hnumber hnumber' htext := by
    have hsame := Json.render_inj (isExact_snapshot hv hnumber) (isExact_snapshot hw hnumber') htext
    simp only [ofSnapshot, Json.object.injEq, List.cons.injEq, Prod.mk.injEq, true_and, and_true] at hsame
    obtain ⟨hid, htime, hrequest⟩ := hsame
    have hid := congrArg (uuid? json) hid
    have htime := congrArg (timestamp? json) htime
    rw [uuid?_ofUuid, uuid?_ofUuid, Option.some.injEq] at hid
    rw [timestamp?_ofTimestamp (snapshot?_parts hv).1, timestamp?_ofTimestamp (snapshot?_parts hw).1,
      Option.some.injEq] at htime
    have hrequest := ofRequest_inj hrequest
    obtain ⟨id, frozenAt, request⟩ := v
    obtain ⟨id', frozenAt', request'⟩ := w
    simp_all

/-! ## Requests with one extension -/

def asked (x : Json) : Request where
  clientId := "a"
  redirectUri := none
  state := none
  scope := .empty
  responseTypes := .empty
  approved := false
  resourceIds := .empty
  authorities := .empty
  parameters := .empty
  extensions := ⟨[("n", x)], List.pairwise_singleton ..⟩

def asking (x : Json) : Json :=
  .object [("client_id", .string "a"), ("extensions", .object [("n", x)])]

theorem request?_asking {x y : Json} (h : x.whole?.map Json.settle = some y) :
    request? (asking x) = some (asked y) := by
  have hmap : json.map? (fun j => j.whole?.map Json.settle) (.object [("n", x)]) =
      some (asked y).extensions := by
    rw [map?_eq, List.mapM_cons, h]
    rfl
  simp [request?, asking, record?_object, required, withDefault, Dialect.optional, List.lookup_cons,
    hmap]
  rfl

theorem ofText?_asked {x y : Json} (h : x.whole?.map Json.settle = some y)
    (hnumber : Every NumberReadsBack y) (hy : ¬ (Every IsPlain y ∧ y.depth ≤ 125)) :
    request.ofText? (request.toText (asked y)) = none := by
  refine Option.eq_none_iff_forall_ne_some.mpr fun w hw => hy ?_
  obtain ⟨-, hplain, hdepth⟩ :=
    (lossless_request.back _ _ (request?_asking h) ⟨hnumber, trivial⟩ w).mp hw
  exact ⟨hplain.1, (Nat.max_zero _).symm.trans_le hdepth⟩

def nested : Nat → Json
  | 0 => .array []
  | n + 1 => .array [nested n]

theorem depth_nested (n : Nat) : (nested n).depth = n + 1 := by
  induction n with
  | zero => rfl
  | succ n ih => simp [nested, Json.depth, Json.itemsDepth, ih]

theorem every_nested {p : Json → Prop} (h : ∀ items, p (.array items)) (n : Nat) :
    Every p (nested n) := by
  induction n with
  | zero => exact ⟨h [], trivial⟩
  | succ n ih => exact ⟨h _, ih, trivial⟩

theorem whole?_nested {n : Nat} (h : n < Json.maxDepth) :
    (Json.whole? (.object [(Json.embeddingMark, .string (nested n).render)])).map Json.settle =
      some (nested n) := by
  have hexact : (nested n).IsExact := Json.isExact_of_every _ (every_nested (fun _ => nofun) n)
    (every_nested (fun _ => trivial) n)
  rw [Json.whole?_embedding (every_nested (fun _ => trivial) n) hexact (by rw [depth_nested]; exact h),
    Option.map_some, Json.settle_of_isOrdered _ (every_nested (fun _ => trivial) n)]

def largeText : String :=
  "\x7b\"client_id\":\"a\",\"extensions\":\x7b\"n\":21000000000000000000000000000000\x7d\x7d"

/-! ## Every kind -/

/-- Whatever is read of a record of any kind is kept in the text that is written of it. A whole number of
64 bits is always read from its numeral. -/
theorem lossless : (∀ n, Number.IsWord n → Number.ReadsBack (.whole n)) ∧
    request.Lossless ∧ snapshot.Lossless ∧ client.Lossless ∧ principal.Lossless ∧ token.Lossless ∧
      event.Lossless ∧ redirect.Lossless :=
  ⟨fun _ => Number.readsBack_whole, lossless_request, lossless_snapshot, lossless_client,
    lossless_principal, lossless_token, lossless_event, lossless_redirect⟩

/-- A snapshot with an offset and a fraction of a second. -/
theorem lossless_frozen : ∃ s,
    snapshot.read? (.object [("id", .string "00000000-0000-0000-0000-000000000001"),
      ("frozen_at", .string "2024-02-29T23:59:59.25+05:30"),
      ("request", asking (.array [.number (.whole 1), .null]))]) = some s ∧
    snapshot.ofText? (snapshot.toText s) = some s := by
  have hid : uuid? json (.string "00000000-0000-0000-0000-000000000001") = some ⟨1, by decide⟩ := by
    decide +kernel
  have htime : timestamp? json (.string "2024-02-29T23:59:59.25+05:30") =
      some ⟨2024, 2, 29, 23, 59, 59, 250000000, 330⟩ := by decide +kernel
  have hrequest := request?_asking (x := .array [.number (.whole 1), .null]) rfl
  obtain ⟨s, hs, hextensions⟩ : ∃ s, snapshot.read? (.object
      [("id", .string "00000000-0000-0000-0000-000000000001"),
        ("frozen_at", .string "2024-02-29T23:59:59.25+05:30"),
        ("request", asking (.array [.number (.whole 1), .null]))]) = some s ∧
      snapshot.extensions s = [("n", .array [.number (.whole 1), .null])] := by
    simp [snapshot, snapshot?, record?_object, required, List.lookup_cons, hid, htime, hrequest]
    rfl
  obtain ⟨hwhole, -, hsnapshot, -⟩ := lossless
  refine ⟨s, hs, (hsnapshot.back _ s hs ?_ s).mpr ⟨rfl, ?_⟩⟩
  · rw [hextensions]
    exact ⟨⟨trivial, hwhole 1 ⟨by decide, by decide⟩, trivial, trivial⟩, trivial⟩
  · rw [hextensions]
    exact ⟨⟨⟨trivial, trivial, trivial, trivial⟩, trivial⟩, by decide⟩

/-- The text of a request is not always read again: fields in order may start with the mark, documents
that stand for others may nest deeper than these, and a number may be read as another. -/
theorem extensions_lost :
    (∃ j v, request.read? j = some v ∧
      v.extensions.toList = [("n", .object [(Json.embeddingMark, .string "1"), ("o", .null)])] ∧
      request.ofText? (request.toText v) = none) ∧
    (∃ j v, request.read? j = some v ∧ v.extensions.toList = [("n", nested 126)] ∧
      request.ofText? (request.toText v) = none) ∧
    ∃ v w, request.ofText? largeText = some v ∧
      request.ofText? (request.toText v) = some w ∧ request.toText w ≠ request.toText v := by
  refine ⟨?marked, ?deep, ?large⟩
  case marked =>
    have hmarked : (Json.whole? (.object [("o", .null), (Json.embeddingMark, .string "1")])).map
        Json.settle = some (.object [(Json.embeddingMark, .string "1"), ("o", .null)]) := rfl
    refine ⟨_, _, request?_asking hmarked, rfl, ofText?_asked hmarked ?_ ?_⟩
    · exact ⟨trivial, trivial, trivial, trivial⟩
    · rintro ⟨⟨hplain, _⟩, _⟩
      cases hplain
  case deep =>
    have hdeep := whole?_nested (n := 126) (by decide)
    refine ⟨_, _, request?_asking hdeep, rfl, ofText?_asked hdeep ?_ ?_⟩
    · exact every_nested (fun _ => trivial) 126
    · rintro ⟨_, hdepth⟩
      rw [depth_nested] at hdepth
      omega
  case large =>
    have hlarge : ((request.ofText? largeText).bind fun v =>
        (request.ofText? (request.toText v)).map fun w =>
          decide (request.toText w ≠ request.toText v)) = some true := by decide +kernel
    obtain ⟨v, hv, hagain⟩ := Option.bind_eq_some_iff.mp hlarge
    obtain ⟨w, hw, hother⟩ := Option.map_eq_some_iff.mp hagain
    exact ⟨v, w, hv, hw, of_decide_eq_true hother⟩

end Format

end Wire

end ConsentGate
