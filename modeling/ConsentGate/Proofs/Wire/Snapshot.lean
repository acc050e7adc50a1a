import ConsentGate.Proofs.Collection.TextMap
import ConsentGate.Proofs.Json.Document
import ConsentGate.Proofs.Timestamp.Text
import ConsentGate.Proofs.Uuid
import ConsentGate.Wire.Read
import ConsentGate.Wire.Write
import Mathlib.Data.List.Nodup

namespace ConsentGate

namespace Wire

variable {r : Request} {s : Snapshot}

theorem texts?_ofTexts (l : List String) : json.texts? (.ofTexts l) = some l := by
  simp only [Dialect.texts?, Json.ofTexts, json, Option.bind_some]
  exact mapM_map_some fun _ _ => rfl

theorem textSet?_ofTextSet (s : TextSet) : json.textSet? (ofTextSet s) = some s := by
  rw [Dialect.textSet?, ofTextSet, texts?_ofTexts, Option.map_some, TextSet.ofList_toList]

theorem uuid?_ofUuid (u : Uuid) : uuid? json (ofUuid u) = some u := by
  simp only [uuid?, json, ofUuid, Option.bind_some, Uuid.parse?_render]

theorem timestamp?_ofTimestamp {t : Timestamp} (h : t.IsDate) :
    timestamp? json (ofTimestamp t) = some t := by
  simp only [timestamp?, json, ofTimestamp, Option.bind_some, Timestamp.parse?_render h]

theorem record?_object {fields : List (String × Json)} (h : (fields.map Prod.fst).Nodup)
    (names : List String) : json.record? names (.object fields) = some fields := by
  have honce : ∀ name, repeats fields name = false := by
    intro name
    have hcount : (fields.filter (·.1 == name)).length ≤ 1 := by
      rw [← List.countP_eq_length_filter, ← Function.comp_def (· == name) Prod.fst, ← List.countP_map]
      exact List.nodup_iff_count_le_one.mp h name
    simpa [repeats] using hcount
  simp [json, honce]

theorem map?_eq {α : Type} (read : Json → Option α) (fields : List (String × Json)) :
    json.map? read (.object fields) =
      (fields.mapM fun f => (read f.2).map (f.1, ·)).map .ofList := by
  simp only [Dialect.map?, json, Option.bind_eq_bind, Option.bind_some, Option.pure_def]
  cases fields.mapM (fun f => (read f.2).map (f.1, ·)) <;> rfl

theorem exists_of_map? {α : Type} {read : Json → Option α} {j : Json} {m : TextMap α}
    (h : json.map? read j = some m) : ∀ f ∈ m.toList, ∃ x, read x = some f.2 := by
  simp only [Dialect.map?, Option.bind_eq_bind, Option.bind_eq_some_iff, Option.pure_def,
    Option.some.injEq] at h
  obtain ⟨entries, _, read', hread, rfl⟩ := h
  intro f hf
  obtain ⟨e, _, he⟩ := mem_of_mem_mapM hread (TextMap.mem_of_get?_ofList (TextMap.mem_toList.mp hf))
  obtain ⟨v, hv, heq⟩ := Option.map_eq_some_iff.mp he
  rw [(Prod.mk.inj heq).2] at hv
  exact ⟨e.2, hv⟩

theorem map?_object {α : Type} {read : Json → Option α} {write : α → Json} (m : TextMap α)
    (h : ∀ e ∈ m.toList, read (write e.2) = some e.2) :
    json.map? read (.object (m.mapValues write).toList) = some m := by
  have hentries : (m.mapValues write).toList.mapM (fun e => (read e.2).map (e.1, ·)) =
      some m.toList :=
    mapM_map_some fun e he => by simp [h e he]
  rw [map?_eq, hentries, Option.map_some, TextMap.ofList_toList]

/-- The extensions of a request are documents that stand for themselves, and their text says all. -/
structure Settled (r : Request) : Prop where
  whole : ∀ e ∈ r.extensions.toList, e.2.whole?.map Json.settle = some e.2
  legible : Json.HaveExact r.extensions.toList

def ownFields (r : Request) : List (String × Json) :=
  ("client_id", .string r.clientId) :: optionalField "redirect_uri" r.redirectUri ++
    optionalField "state" r.state ++
    [("scope", ofTextSet r.scope), ("response_types", ofTextSet r.responseTypes),
      ("approved", .bool r.approved), ("resource_ids", ofTextSet r.resourceIds),
      ("authorities", ofTextSet r.authorities),
      ("request_parameters", .object (r.parameters.mapValues Json.string).toList)]

def requestWith (r : Request) (extensions : Json) : Json :=
  .object (ownFields r ++ [("extensions", extensions)])

theorem ofRequest_eq (r : Request) : ofRequest r = requestWith r (.object r.extensions.toList) := by
  simp [ofRequest, requestWith, ownFields]

theorem request?_requestWith (r : Request) (x : Json) : request? (requestWith r x) =
    (json.map? (fun j => j.whole?.map Json.settle) x).map fun e => { r with extensions := e } := by
  have hparameters : json.map? json.text? (.object (r.parameters.mapValues Json.string).toList) =
      some r.parameters := map?_object r.parameters fun _ _ => rfl
  -- Which fields there are depends on what is absent.
  obtain ⟨clientId, redirectUri, state, scope, types, approved, resources, authorities, parameters,
    extensions⟩ := r
  cases redirectUri <;> cases state <;>
  · simp [request?, requestWith, ownFields, record?_object, optionalField, required, withDefault,
      Dialect.optional, List.lookup_cons, textSet?_ofTextSet, hparameters]
    cases json.map? (fun j => j.whole?.map Json.settle) x <;> rfl

theorem request?_ofRequest (h : Settled r) : request? (ofRequest r) = some r := by
  have hread : json.map? (fun j => j.whole?.map Json.settle)
      (.object (r.extensions.mapValues id).toList) = some r.extensions :=
    map?_object r.extensions h.whole
  have hsame : (r.extensions.mapValues id).toList = r.extensions.toList := by
    simp [TextMap.mapValues, TextMap.toList]
  rw [ofRequest_eq, request?_requestWith, ← hsame, hread]
  rfl

def snapshotWith (s : Snapshot) (request : Json) : Json :=
  .object [("id", ofUuid s.id), ("frozen_at", ofTimestamp s.frozenAt), ("request", request)]

theorem snapshot?_snapshotWith (ht : s.frozenAt.IsDate) (x : Json) :
    snapshot? (snapshotWith s x) = (request? x).map fun r => { s with request := r } := by
  have hrecord : json.record? ["id", "frozen_at", "request"] (snapshotWith s x) =
      some [("id", ofUuid s.id), ("frozen_at", ofTimestamp s.frozenAt), ("request", x)] :=
    record?_object (by simp) _
  simp only [snapshot?, hrecord, required, List.lookup_cons, String.reduceBEq, Option.bind_eq_bind,
    Option.bind_some, uuid?_ofUuid, timestamp?_ofTimestamp ht]
  cases request? x <;> rfl

theorem snapshot?_ofSnapshot (h : Settled s.request) (ht : s.frozenAt.IsDate) :
    snapshot? (ofSnapshot s) = some s := by
  have hread := snapshot?_snapshotWith ht (ofRequest s.request)
  rwa [request?_ofRequest h] at hread

/-! ## Text -/

theorem areExact_texts (l : List String) : Json.AreExact (l.map .string) := by
  induction l with
  | nil => trivial
  | cons x l ih => exact ⟨trivial, ih⟩

theorem haveExact_texts (l : List (String × String)) :
    Json.HaveExact (l.map fun e => (e.1, .string e.2)) := by
  induction l with
  | nil => trivial
  | cons x l ih => exact ⟨trivial, ih⟩

theorem itemsDepth_texts (l : List String) : Json.itemsDepth (l.map .string) = 0 := by
  induction l with
  | nil => rfl
  | cons x l ih => simp [Json.itemsDepth, Json.depth, ih]

theorem fieldsDepth_texts (l : List (String × String)) :
    Json.fieldsDepth (l.map fun e => (e.1, .string e.2)) = 0 := by
  induction l with
  | nil => rfl
  | cons x l ih => simp [Json.fieldsDepth, Json.depth, ih]

theorem haveExact_optionalField (name : String) (value : Option String) :
    Json.HaveExact (optionalField name value) := by
  cases value with
  | none => trivial
  | some s => exact ⟨trivial, trivial⟩

theorem fieldsDepth_optionalField (name : String) (value : Option String) :
    Json.fieldsDepth (optionalField name value) = 0 := by
  cases value <;> rfl

theorem isExact_requestWith {x : Json} (h : x.IsExact) : (requestWith r x).IsExact := by
  have hparameters := haveExact_texts r.parameters.entries
  simpa [requestWith, ownFields, ofTextSet, Json.ofTexts, Json.IsExact, Json.HaveExact,
    Json.haveExact_append, haveExact_optionalField, areExact_texts, TextMap.mapValues, TextMap.toList,
    hparameters] using h

theorem isExact_ofRequest (h : Settled r) : (ofRequest r).IsExact := by
  rw [ofRequest_eq]
  exact isExact_requestWith h.legible

theorem isExact_snapshotWith {x : Json} (h : x.IsExact) : (snapshotWith s x).IsExact :=
  ⟨trivial, trivial, h, trivial⟩

theorem isExact_ofSnapshot (h : Settled s.request) : (ofSnapshot s).IsExact :=
  isExact_snapshotWith (isExact_ofRequest h)

theorem fieldsDepth_ownFields (r : Request) : Json.fieldsDepth (ownFields r) = 1 := by
  have hparameters := fieldsDepth_texts r.parameters.entries
  simp [ownFields, ofTextSet, Json.ofTexts, Json.depth, Json.fieldsDepth, Json.fieldsDepth_append,
    fieldsDepth_optionalField, itemsDepth_texts, TextMap.mapValues, TextMap.toList, hparameters]

theorem depth_ofRequest (r : Request) :
    (ofRequest r).depth = Json.fieldsDepth r.extensions.toList + 2 := by
  rw [ofRequest_eq, requestWith, Json.depth, Json.fieldsDepth_append, fieldsDepth_ownFields]
  simp [Json.depth, Json.fieldsDepth]

theorem depth_ofSnapshot (s : Snapshot) :
    (ofSnapshot s).depth = Json.fieldsDepth s.request.extensions.toList + 3 := by
  simp [ofSnapshot, ofUuid, ofTimestamp, Json.depth, Json.fieldsDepth, depth_ofRequest]

theorem read_ofSnapshot (h : Settled s.request) (ht : s.frozenAt.IsDate)
    (hdepth : Json.fieldsDepth s.request.extensions.toList + 3 ≤ Json.maxDepth) :
    (Json.read? (ofSnapshot s).render).bind snapshot? = some s := by
  rw [Json.read?_render (isExact_ofSnapshot h) (by rw [depth_ofSnapshot]; exact hdepth),
    Option.bind_some, snapshot?_ofSnapshot h ht]

end Wire

end ConsentGate
