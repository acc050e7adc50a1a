namespace ConsentGate

/-- A finite map from texts, in the order of code points. -/
structure TextMap (α : Type) where
  entries : List (String × α)
  sorted : (entries.map Prod.fst).Pairwise (· < ·)
  deriving DecidableEq

namespace TextMap

variable {α : Type}

def empty : TextMap α := ⟨[], by simp⟩

instance : Inhabited (TextMap α) := ⟨empty⟩

def insertEntry (k : String) (v : α) : List (String × α) → List (String × α)
  | [] => [(k, v)]
  | e :: r =>
    if k < e.1 then (k, v) :: e :: r
    else if k = e.1 then (k, v) :: r
    else e :: insertEntry k v r

theorem mem_keys_insertEntry {k z : String} {v : α} {l : List (String × α)} :
    z ∈ (insertEntry k v l).map Prod.fst ↔ z = k ∨ z ∈ l.map Prod.fst := by
  induction l with
  | nil => simp [insertEntry]
  | cons e r ih =>
    simp only [insertEntry]
    split
    · simp
    · split <;> simp_all
      grind

theorem pairwise_insertEntry {k : String} {v : α} {l : List (String × α)}
    (h : (l.map Prod.fst).Pairwise (· < ·)) :
    ((insertEntry k v l).map Prod.fst).Pairwise (· < ·) := by
  induction l with
  | nil => simp [insertEntry]
  | cons e r ih =>
    obtain ⟨he, hr⟩ := List.pairwise_cons.1 h
    simp only [insertEntry]
    split
    · next hk =>
      refine List.pairwise_cons.2 ⟨fun z hz => ?_, h⟩
      rcases List.mem_cons.1 hz with rfl | hz
      · exact hk
      · exact String.lt_trans hk (he z hz)
    · next hk =>
      split
      · next heq => exact List.pairwise_cons.2 ⟨fun z hz => heq ▸ he z hz, hr⟩
      · next hne =>
        refine List.pairwise_cons.2 ⟨fun z hz => ?_, ih hr⟩
        rcases mem_keys_insertEntry.1 hz with rfl | hz
        · rcases Std.lt_trichotomy e.1 z with h | h | h
          · exact h
          · exact absurd h.symm hne
          · exact absurd h hk
        · exact he z hz

def insert (k : String) (v : α) (m : TextMap α) : TextMap α :=
  ⟨insertEntry k v m.entries, pairwise_insertEntry m.sorted⟩

/-- The map of the entries in a list; of two with one key the later one counts. -/
def ofList (l : List (String × α)) : TextMap α :=
  l.foldl (fun m e => m.insert e.1 e.2) empty

def toList (m : TextMap α) : List (String × α) := m.entries

def get? (m : TextMap α) (k : String) : Option α := m.entries.lookup k

def contains (m : TextMap α) (k : String) : Bool := (m.get? k).isSome

def keys (m : TextMap α) : List String := m.entries.map Prod.fst

def size (m : TextMap α) : Nat := m.entries.length

def isEmpty (m : TextMap α) : Bool := m.entries.isEmpty

def filter (p : String → α → Bool) (m : TextMap α) : TextMap α :=
  ⟨m.entries.filter fun e => p e.1 e.2,
    m.sorted.sublist (List.filter_sublist.map _)⟩

def erase (m : TextMap α) (k : String) : TextMap α :=
  m.filter fun l _ => l != k

def mapValues {β : Type} (f : α → β) (m : TextMap α) : TextMap β :=
  ⟨m.entries.map fun e => (e.1, f e.2), by simpa [Function.comp_def] using m.sorted⟩

@[simp] theorem get?_empty (k : String) : (empty : TextMap α).get? k = none := rfl

theorem lookup_insertEntry {k l : String} {v : α} {m : List (String × α)} :
    (insertEntry k v m).lookup l = if l = k then some v else m.lookup l := by
  induction m with
  | nil => grind [insertEntry]
  | cons e r ih =>
    simp only [insertEntry]
    grind

@[simp] theorem get?_insert {k l : String} {v : α} {m : TextMap α} :
    (m.insert k v).get? l = if l = k then some v else m.get? l :=
  lookup_insertEntry

theorem lookup_eq_some {k : String} {v : α} {m : List (String × α)}
    (h : (m.map Prod.fst).Pairwise (· < ·)) : m.lookup k = some v ↔ (k, v) ∈ m := by
  induction m with
  | nil => simp
  | cons e r ih =>
    obtain ⟨l, w⟩ := e
    obtain ⟨hl, hr⟩ := List.pairwise_cons.1 h
    rw [List.lookup_cons, List.mem_cons]
    by_cases hk : k = l
    · subst hk
      have hnot : (k, v) ∉ r := fun hm => String.lt_irrefl k (hl k (List.mem_map_of_mem hm))
      simp [hnot, eq_comm]
    · have hne : (k == l) = false := by simpa using hk
      simp [hne, hk, ih hr]

theorem insertEntry_of_lt {k : String} {v : α} {l : List (String × α)} (h : ∀ e ∈ l, e.1 < k) :
    insertEntry k v l = l ++ [(k, v)] := by
  induction l with
  | nil => rfl
  | cons e l ih =>
    have he := h e List.mem_cons_self
    have hl := ih fun f hf => h f (List.mem_cons_of_mem e hf)
    have hlt : ¬ k < e.1 := fun hk => String.lt_irrefl k (String.lt_trans hk he)
    have hne : k ≠ e.1 := fun hk => String.lt_irrefl k (hk ▸ he)
    simp [insertEntry, hlt, hne, hl]

theorem entries_foldl_insert {l : List (String × α)} {m : TextMap α}
    (h : ((m.entries ++ l).map Prod.fst).Pairwise (· < ·)) :
    (l.foldl (fun m e => m.insert e.1 e.2) m).entries = m.entries ++ l := by
  induction l generalizing m with
  | nil => simp
  | cons e l ih =>
    have hlt : ∀ f ∈ m.entries, f.1 < e.1 := by
      rw [List.map_append, List.pairwise_append] at h
      exact fun f hf => h.2.2 f.1 (List.mem_map_of_mem hf) e.1 List.mem_cons_self
    have hentries : (m.insert e.1 e.2).entries = m.entries ++ [e] := insertEntry_of_lt hlt
    have hl := ih (m := m.insert e.1 e.2) (by rw [hentries]; simpa using h)
    rw [List.foldl_cons, hl, hentries]
    simp

@[simp] theorem ofList_toList (m : TextMap α) : ofList m.toList = m := by
  have h := entries_foldl_insert (l := m.entries) (m := empty) m.sorted
  exact (mk.injEq _ _ _ _).mpr h

theorem mem_toList {m : TextMap α} {k : String} {v : α} : (k, v) ∈ m.toList ↔ m.get? k = some v :=
  (lookup_eq_some m.sorted).symm

@[simp] theorem get?_filter (m : TextMap α) (p : String → α → Bool) (k : String) :
    (m.filter p).get? k = (m.get? k).filter (p k) := by
  ext v
  rw [← mem_toList, Option.filter_eq_some_iff, ← mem_toList]
  exact List.mem_filter

@[simp] theorem get?_erase (m : TextMap α) (k l : String) :
    (m.erase k).get? l = if l = k then none else m.get? l := by
  rw [erase, get?_filter]
  by_cases h : l = k <;> cases m.get? l <;> simp [h]

theorem size_filter_add (m : TextMap α) (p : String → α → Bool) :
    (m.filter p).size + (m.keys.filter fun k => !(m.filter p).contains k).length = m.size := by
  have hgone : ∀ e ∈ m.entries, (!(m.filter p).contains e.1) = !p e.1 e.2 := by
    intro e he
    rw [contains, get?_filter, mem_toList.1 he]
    cases hp : p e.1 e.2 <;> simp [hp]
  have hkeys : (m.keys.filter fun k => !(m.filter p).contains k).length =
      m.entries.countP fun e => !p e.1 e.2 := by
    rw [keys, List.filter_map, List.length_map, List.countP_eq_length_filter]
    exact congrArg _ (List.filter_congr hgone)
  rw [hkeys, size, filter, ← List.countP_eq_length_filter, size,
    List.length_eq_countP_add_countP (fun e => p e.1 e.2)]
  simp

end TextMap

end ConsentGate
