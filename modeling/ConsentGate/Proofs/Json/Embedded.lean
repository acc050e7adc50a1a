import ConsentGate.Json.Embedded
import ConsentGate.Proofs.Collection.TextMap
import ConsentGate.Proofs.Json.Document

namespace ConsentGate.Json

variable {p q : Json → Prop} {inner : String → Option Json} {i j k : Json} {items : List Json}
  {fields : List (String × Json)}

/-! ## Parts of documents -/

mutual

def Every (p : Json → Prop) : Json → Prop
  | .array items => p (.array items) ∧ EveryItem p items
  | .object fields => p (.object fields) ∧ EveryValue p fields
  | j => p j

def EveryItem (p : Json → Prop) : List Json → Prop
  | [] => True
  | j :: r => Every p j ∧ EveryItem p r

def EveryValue (p : Json → Prop) : List (String × Json) → Prop
  | [] => True
  | (_, j) :: r => Every p j ∧ EveryValue p r

end

theorem everyValue_iff : EveryValue p fields ↔ ∀ f ∈ fields, Every p f.2 := by
  induction fields with
  | nil => simp [EveryValue]
  | cons f fields ih => simp [EveryValue, ih]

mutual

theorem every_of_forall (h : ∀ j, p j) : ∀ j, Every p j
  | .array items => ⟨h _, everyItem_of_forall h items⟩
  | .object fields => ⟨h _, everyValue_of_forall h fields⟩
  | .null | .bool _ | .number _ | .string _ | .unreadable => h _

theorem everyItem_of_forall (h : ∀ j, p j) : ∀ items, EveryItem p items
  | [] => trivial
  | j :: r => ⟨every_of_forall h j, everyItem_of_forall h r⟩

theorem everyValue_of_forall (h : ∀ j, p j) : ∀ fields, EveryValue p fields
  | [] => trivial
  | (_, j) :: r => ⟨every_of_forall h j, everyValue_of_forall h r⟩

end

mutual

/-- What holds of every part once it is in order holds of every part of the document in order. -/
theorem every_settle (h : ∀ j, p j → q (settle j)) : ∀ j, Every p j → Every q (settle j)
  | .array items, ⟨hj, hitems⟩ => ⟨h _ hj, every_settleItems h items hitems⟩
  | .object fields, ⟨hj, hfields⟩ => by
    refine ⟨h _ hj, everyValue_iff.mpr fun f hf => ?_⟩
    have hmem : f ∈ settleFields fields := TextMap.mem_of_get?_ofList (TextMap.mem_toList.mp hf)
    exact everyValue_iff.mp (every_settleFields h fields hfields) f hmem
  | .null, hj | .bool _, hj | .number _, hj | .string _, hj | .unreadable, hj => h _ hj

theorem every_settleItems (h : ∀ j, p j → q (settle j)) :
    ∀ items, EveryItem p items → EveryItem q (settleItems items)
  | [], _ => trivial
  | j :: r, ⟨hj, hr⟩ => ⟨every_settle h j hj, every_settleItems h r hr⟩

theorem every_settleFields (h : ∀ j, p j → q (settle j)) :
    ∀ fields, EveryValue p fields → EveryValue q (settleFields fields)
  | [], _ => trivial
  | (_, j) :: r, ⟨hj, hr⟩ => ⟨every_settle h j hj, every_settleFields h r hr⟩

end

/-! ## Order -/

def IsOrdered : Json → Prop
  | .object fields => (fields.map Prod.fst).Pairwise (· < ·)
  | _ => True

theorem isOrdered_settle (j : Json) : IsOrdered (settle j) := by
  cases j with
  | object fields => exact (TextMap.ofList (settleFields fields)).sorted
  | _ => trivial

theorem every_isOrdered_settle (j : Json) : Every IsOrdered (settle j) :=
  every_settle (fun j _ => isOrdered_settle j) j (every_of_forall (fun _ => trivial) j)

mutual

theorem settle_of_isOrdered : ∀ j, Every IsOrdered j → settle j = j
  | .array items, ⟨_, hitems⟩ => by rw [settle, settleItems_of_isOrdered items hitems]
  | .object fields, ⟨hj, hfields⟩ => by
    rw [settle, settleFields_of_isOrdered fields hfields]
    have hmap : TextMap.ofList fields = ⟨fields, hj⟩ := TextMap.ofList_toList ⟨fields, hj⟩
    rw [hmap]
    rfl
  | .null, _ | .bool _, _ | .number _, _ | .string _, _ | .unreadable, _ => rfl

theorem settleItems_of_isOrdered : ∀ items, EveryItem IsOrdered items → settleItems items = items
  | [], _ => rfl
  | j :: r, ⟨hj, hr⟩ => by
    rw [settleItems, settle_of_isOrdered j hj, settleItems_of_isOrdered r hr]

theorem settleFields_of_isOrdered :
    ∀ fields, EveryValue IsOrdered fields → settleFields fields = fields
  | [], _ => rfl
  | (_, j) :: r, ⟨hj, hr⟩ => by
    rw [settleFields, settle_of_isOrdered j hj, settleFields_of_isOrdered r hr]

end

/-! ## Marks -/

/-- The document is readable, and no object in it starts with the marked field. Of a document and all its
parts: it stands for itself. -/
def IsPlain : Json → Prop
  | .object fields => isEmbedding fields = false
  | .unreadable => False
  | _ => True

/-- The document is no object that stands for another. It may be one that only seems to. -/
def IsInert : Json → Prop
  | .object fields => isEmbedding fields = true → soleText? fields = none
  | _ => True

theorem isEmbedding_of_embedFields? {embedded : List (String × Json)}
    (h : embedFields? inner fields = some embedded) : isEmbedding embedded = isEmbedding fields := by
  cases fields with
  | nil =>
    obtain rfl := Option.some.inj h
    rfl
  | cons f r =>
    simp only [embedFields?, Option.bind_eq_bind, Option.pure_def, Option.bind_eq_some_iff,
      Option.some.injEq] at h
    obtain ⟨j, _, r', _, rfl⟩ := h
    rfl

mutual

theorem every_embed? (hinner : ∀ s k, inner s = some k → Every IsPlain k) :
    ∀ {j k}, embed? inner j = some k → Every IsPlain k
  | .array items, k, h => by
    obtain ⟨items', hitems, rfl⟩ := Option.map_eq_some_iff.mp h
    exact ⟨trivial, everyItem_embed? hinner hitems⟩
  | .object fields, k, h => by
    rw [embed?] at h
    split at h
    · obtain ⟨s, _, hs⟩ := Option.bind_eq_some_iff.mp h
      exact hinner s k hs
    · next hmark =>
      obtain ⟨fields', hfields, rfl⟩ := Option.map_eq_some_iff.mp h
      rw [← isEmbedding_of_embedFields? hfields] at hmark
      exact ⟨Bool.eq_false_iff.mpr hmark, everyValue_embed? hinner hfields⟩
  | .null, k, h | .bool _, k, h | .number _, k, h | .string _, k, h => by
    obtain rfl := Option.some.inj h
    trivial

theorem everyItem_embed? (hinner : ∀ s k, inner s = some k → Every IsPlain k) :
    ∀ {items items'}, embedItems? inner items = some items' → EveryItem IsPlain items'
  | [], items', h => by
    obtain rfl := Option.some.inj h
    trivial
  | j :: r, items', h => by
    simp only [embedItems?, Option.bind_eq_bind, Option.pure_def, Option.bind_eq_some_iff,
      Option.some.injEq] at h
    obtain ⟨j', hj, r', hr, rfl⟩ := h
    exact ⟨every_embed? hinner hj, everyItem_embed? hinner hr⟩

theorem everyValue_embed? (hinner : ∀ s k, inner s = some k → Every IsPlain k) :
    ∀ {fields fields'}, embedFields? inner fields = some fields' → EveryValue IsPlain fields'
  | [], fields', h => by
    obtain rfl := Option.some.inj h
    trivial
  | (name, j) :: r, fields', h => by
    simp only [embedFields?, Option.bind_eq_bind, Option.pure_def, Option.bind_eq_some_iff,
      Option.some.injEq] at h
    obtain ⟨j', hj, r', hr, rfl⟩ := h
    exact ⟨every_embed? hinner hj, everyValue_embed? hinner hr⟩

end

theorem every_parseWithin? (n : Nat) : ∀ s k, parseWithin? n s = some k → Every IsPlain k := by
  induction n with
  | zero => exact fun s k h => by cases h
  | succ n ih =>
    intro s k h
    obtain ⟨j, _, hj⟩ := Option.bind_eq_some_iff.mp h
    exact every_embed? ih hj

theorem every_whole? (h : whole? j = some k) : Every IsPlain k :=
  every_embed? (fun s k h => every_parseWithin? (s.length + 1) s k h) h

mutual

theorem embed?_of_plain (inner : String → Option Json) :
    ∀ j, Every IsPlain j → embed? inner j = some j
  | .array items, ⟨_, hitems⟩ => by rw [embed?, embedItems?_of_plain inner items hitems]; rfl
  | .object fields, ⟨hj, hfields⟩ => by
    rw [embed?, if_neg (Bool.eq_false_iff.mp hj), embedFields?_of_plain inner fields hfields]
    rfl
  | .null, _ | .bool _, _ | .number _, _ | .string _, _ => rfl

theorem embedItems?_of_plain (inner : String → Option Json) :
    ∀ items, EveryItem IsPlain items → embedItems? inner items = some items
  | [], _ => rfl
  | j :: r, ⟨hj, hr⟩ => by
    rw [embedItems?, embed?_of_plain inner j hj, embedItems?_of_plain inner r hr]
    rfl

theorem embedFields?_of_plain (inner : String → Option Json) :
    ∀ fields, EveryValue IsPlain fields → embedFields? inner fields = some fields
  | [], _ => rfl
  | (_, j) :: r, ⟨hj, hr⟩ => by
    rw [embedFields?, embed?_of_plain inner j hj, embedFields?_of_plain inner r hr]
    rfl

end

theorem whole?_embedding (h : Every IsPlain j) (hexact : j.IsExact) (hdepth : j.depth ≤ maxDepth) :
    whole? (.object [(embeddingMark, .string j.render)]) = some j := by
  have hsole : whole? (.object [(embeddingMark, .string j.render)]) = parse? j.render := rfl
  rw [hsole, parse?, parseWithin?, read?_render hexact hdepth, Option.bind_some,
    embed?_of_plain _ j h]

mutual

theorem every_isPlain_of_embed? : ∀ {j k}, Every IsInert j → embed? inner j = some k → Every IsPlain j
  | .array items, k, ⟨_, hitems⟩, h => by
    obtain ⟨items', h', _⟩ := Option.map_eq_some_iff.mp h
    exact ⟨trivial, everyItem_isPlain_of_embed? hitems h'⟩
  | .object fields, k, ⟨hj, hfields⟩, h => by
    rw [embed?] at h
    split at h
    · next hmark =>
      rw [hj hmark] at h
      cases h
    · next hmark =>
      obtain ⟨fields', h', _⟩ := Option.map_eq_some_iff.mp h
      exact ⟨Bool.eq_false_iff.mpr hmark, everyValue_isPlain_of_embed? hfields h'⟩
  | .null, k, _, _ | .bool _, k, _, _ | .number _, k, _, _ | .string _, k, _, _ => trivial

theorem everyItem_isPlain_of_embed? : ∀ {items items'}, EveryItem IsInert items →
    embedItems? inner items = some items' → EveryItem IsPlain items
  | [], _, _, _ => trivial
  | j :: r, _, ⟨hj, hr⟩, h => by
    simp only [embedItems?, Option.bind_eq_bind, Option.bind_eq_some_iff] at h
    obtain ⟨_, hj', _, hr', _⟩ := h
    exact ⟨every_isPlain_of_embed? hj hj', everyItem_isPlain_of_embed? hr hr'⟩

theorem everyValue_isPlain_of_embed? : ∀ {fields fields'}, EveryValue IsInert fields →
    embedFields? inner fields = some fields' → EveryValue IsPlain fields
  | [], _, _, _ => trivial
  | (_, j) :: r, _, ⟨hj, hr⟩, h => by
    simp only [embedFields?, Option.bind_eq_bind, Option.bind_eq_some_iff] at h
    obtain ⟨_, hj', _, hr', _⟩ := h
    exact ⟨every_isPlain_of_embed? hj hj', everyValue_isPlain_of_embed? hr hr'⟩

end

/-! ## Documents that were read and put in order -/

theorem keys_settleFields (fields : List (String × Json)) :
    (settleFields fields).map Prod.fst = fields.map Prod.fst := by
  induction fields with
  | nil => rfl
  | cons f fields ih => simp [settleFields, ih]

theorem isEmbedding_of_sole {s : String} (hmark : isEmbedding fields = true)
    (hsole : soleText? fields = some s) : fields = [(embeddingMark, .string s)] := by
  unfold soleText? at hsole
  split at hsole
  · next name s' =>
    obtain rfl := Option.some.inj hsole
    rw [← beq_iff_eq.mp hmark]
  · cases hsole

theorem isInert_settle (hj : IsPlain j) : IsInert (settle j) := by
  cases j with
  | object fields =>
    intro hmark
    refine Option.eq_none_iff_forall_ne_some.mpr fun s hsole => ?_
    have hsorted : (TextMap.ofList (settleFields fields)).toList = [(embeddingMark, .string s)] :=
      isEmbedding_of_sole hmark hsole
    cases fields with
    | nil => cases hsorted
    | cons f r =>
      have hname : f.1 ∈ (settleFields (f :: r)).map Prod.fst := by
        rw [keys_settleFields]
        exact List.mem_cons_self
      obtain ⟨k, hk⟩ := TextMap.exists_get?_ofList hname
      have hmem := TextMap.mem_toList.mpr hk
      rw [hsorted, List.mem_singleton] at hmem
      have hplain : isEmbedding (f :: r) = false := hj
      rw [isEmbedding, (Prod.mk.inj hmem).1, beq_self_eq_true] at hplain
      cases hplain
  | _ => trivial

/-- What is known of a document that was read where any may stand. -/
structure Held (j : Json) : Prop where
  readable : Every (· ≠ .unreadable) j
  inert : Every IsInert j
  ordered : Every IsOrdered j

theorem settle_ne_unreadable (hj : IsPlain j) : settle j ≠ .unreadable := by
  cases j with
  | unreadable => exact absurd hj id
  | _ => exact nofun

theorem held_of_whole? (h : (whole? i).map settle = some j) : Held j := by
  obtain ⟨k, hk, rfl⟩ := Option.map_eq_some_iff.mp h
  have hplain := every_whole? hk
  exact ⟨every_settle (fun _ => settle_ne_unreadable) k hplain,
    every_settle (fun _ => isInert_settle) k hplain, every_isOrdered_settle k⟩

/-- A document that was read once is read again just if it stands for itself, and then as itself. -/
theorem Held.whole?_iff (h : Held j) :
    (whole? j).map settle = some k ↔ k = j ∧ Every IsPlain j := by
  constructor
  · intro hread
    obtain ⟨j', hj', rfl⟩ := Option.map_eq_some_iff.mp hread
    have hplain := every_isPlain_of_embed? h.inert hj'
    obtain rfl := Option.some.inj ((embed?_of_plain parse? j hplain).symm.trans hj')
    exact ⟨settle_of_isOrdered j h.ordered, hplain⟩
  · rintro ⟨rfl, hplain⟩
    rw [whole?, embed?_of_plain parse? k hplain, Option.map_some, settle_of_isOrdered k h.ordered]

/-! ## Documents that are read from text again -/

theorem isEmbedding_pruneFields (n : Nat) (fields : List (String × Json)) :
    isEmbedding (pruneFields n fields) = isEmbedding fields := by
  cases fields <;> rfl

theorem soleText?_cons_cons (f g : String × Json) (r : List (String × Json)) :
    soleText? (f :: g :: r) = none := by
  unfold soleText?
  split
  · next heq => cases heq
  · rfl

theorem soleText?_pruneFields (n : Nat) (fields : List (String × Json)) :
    soleText? (pruneFields n fields) = soleText? fields := by
  rcases fields with _ | ⟨⟨name, j⟩, _ | ⟨⟨_, _⟩, _⟩⟩
  · rfl
  · cases j with
    | array items | object fields =>
      simp only [pruneFields, prune]
      split <;> rfl
    | _ => rfl
  · rw [pruneFields, pruneFields, soleText?_cons_cons, soleText?_cons_cons]

mutual

theorem every_isInert_prune : ∀ (n : Nat) (j : Json), Every IsInert j → Every IsInert (prune n j)
  | n, .array items, ⟨_, hitems⟩ => by
    rw [prune]
    split
    · exact ⟨trivial, everyItem_isInert_prune (n - 1) items hitems⟩
    · trivial
  | n, .object fields, ⟨hj, hfields⟩ => by
    rw [prune]
    split
    · refine ⟨?_, everyValue_isInert_prune (n - 1) fields hfields⟩
      rw [IsInert, isEmbedding_pruneFields, soleText?_pruneFields]
      exact hj
    · trivial
  | _, .null, _ | _, .bool _, _ | _, .number _, _ | _, .string _, _ | _, .unreadable, _ => trivial

theorem everyItem_isInert_prune : ∀ (n : Nat) (items : List Json), EveryItem IsInert items →
    EveryItem IsInert (pruneItems n items)
  | _, [], _ => trivial
  | n, j :: r, ⟨hj, hr⟩ => ⟨every_isInert_prune n j hj, everyItem_isInert_prune n r hr⟩

theorem everyValue_isInert_prune : ∀ (n : Nat) (fields : List (String × Json)),
    EveryValue IsInert fields → EveryValue IsInert (pruneFields n fields)
  | _, [], _ => trivial
  | n, (_, j) :: r, ⟨hj, hr⟩ => ⟨every_isInert_prune n j hj, everyValue_isInert_prune n r hr⟩

end

mutual

theorem depth_le_of_prune : ∀ (n : Nat) (j : Json), Every IsPlain (prune n j) → depth j ≤ n
  | n, .array items, h => by
    rw [prune] at h
    split at h
    · have hitems := itemsDepth_le_of_prune (n - 1) items h.2
      rw [depth]
      omega
    · exact h.elim
  | n, .object fields, h => by
    rw [prune] at h
    split at h
    · have hfields := fieldsDepth_le_of_prune (n - 1) fields h.2
      rw [depth]
      omega
    · exact h.elim
  | _, .null, _ | _, .bool _, _ | _, .number _, _ | _, .string _, _ => Nat.zero_le _

theorem itemsDepth_le_of_prune : ∀ (n : Nat) (items : List Json),
    EveryItem IsPlain (pruneItems n items) → itemsDepth items ≤ n
  | _, [], _ => Nat.zero_le _
  | n, j :: r, ⟨hj, hr⟩ =>
    Nat.max_le.mpr ⟨depth_le_of_prune n j hj, itemsDepth_le_of_prune n r hr⟩

theorem fieldsDepth_le_of_prune : ∀ (n : Nat) (fields : List (String × Json)),
    EveryValue IsPlain (pruneFields n fields) → fieldsDepth fields ≤ n
  | _, [], _ => Nat.zero_le _
  | n, (_, j) :: r, ⟨hj, hr⟩ =>
    Nat.max_le.mpr ⟨depth_le_of_prune n j hj, fieldsDepth_le_of_prune n r hr⟩

end

/-- What a reader sees of a document that was read once is read just if it is all of the document, and
this stands for itself. -/
theorem Held.whole?_prune_iff (h : Held j) (n : Nat) :
    (whole? (prune n j)).map settle = some k ↔ k = j ∧ Every IsPlain j ∧ depth j ≤ n := by
  constructor
  · intro hread
    obtain ⟨j', hj', _⟩ := Option.map_eq_some_iff.mp hread
    have hplain := every_isPlain_of_embed? (every_isInert_prune n j h.inert) hj'
    have hdepth := depth_le_of_prune n j hplain
    rw [prune_of_depth n j hdepth] at hread
    obtain ⟨rfl, hplain⟩ := h.whole?_iff.mp hread
    exact ⟨rfl, hplain, hdepth⟩
  · rintro ⟨rfl, hplain, hdepth⟩
    rw [prune_of_depth n k hdepth]
    exact h.whole?_iff.mpr ⟨rfl, hplain⟩

end ConsentGate.Json
