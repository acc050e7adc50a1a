import ConsentGate.Collection.TextMap
import Mathlib.Data.List.Induction
import Mathlib.Data.List.Nodup

namespace ConsentGate

namespace TextMap

variable {α : Type} {l : List (String × α)} {k : String} {v : α}

theorem nodup_keys (m : TextMap α) : (m.toList.map Prod.fst).Nodup :=
  m.sorted.imp fun hlt => by
    rintro rfl
    exact String.lt_irrefl _ hlt

theorem get?_ofList (l : List (String × α)) (k : String) : (ofList l).get? k = l.reverse.lookup k := by
  induction l using List.reverseRecOn with
  | nil => rfl
  | append_singleton l e ih =>
    have hinsert : ofList (l ++ [e]) = (ofList l).insert e.1 e.2 := by simp [ofList]
    rw [hinsert, get?_insert, ih, List.reverse_append, List.reverse_singleton, List.singleton_append,
      List.lookup_cons]
    by_cases heq : k = e.1
    · rw [if_pos heq, beq_iff_eq.mpr heq]
    · rw [if_neg heq, beq_eq_false_iff_ne.mpr heq]

theorem mem_of_get?_ofList (h : (ofList l).get? k = some v) : (k, v) ∈ l := by
  rw [get?_ofList, List.lookup_eq_some_iff] at h
  obtain ⟨before, after, heq, _⟩ := h
  rw [← List.mem_reverse, heq]
  exact List.mem_append_right _ List.mem_cons_self

theorem exists_get?_ofList (h : k ∈ l.map Prod.fst) : ∃ v, (ofList l).get? k = some v := by
  obtain ⟨e, he, rfl⟩ := List.mem_map.mp h
  cases hnone : (ofList l).get? e.1 with
  | some v => exact ⟨v, rfl⟩
  | none =>
    rw [get?_ofList] at hnone
    simpa using List.lookup_eq_none_iff.mp hnone e (List.mem_reverse.mpr he)

theorem get?_ofList_of_forall {f : String → Option α} (h : ∀ e ∈ l, f e.1 = some e.2)
    (hk : k ∈ l.map Prod.fst) : (ofList l).get? k = f k := by
  obtain ⟨v, hv⟩ := exists_get?_ofList hk
  rw [hv]
  exact (h _ (mem_of_get?_ofList hv)).symm

theorem get?_ofList_iff (h : (l.map Prod.fst).Nodup) : (ofList l).get? k = some v ↔ (k, v) ∈ l := by
  refine ⟨mem_of_get?_ofList, fun hm => ?_⟩
  have hkey : k ∈ l.map Prod.fst := List.mem_map_of_mem hm
  obtain ⟨v', hv⟩ := exists_get?_ofList hkey
  have heq : (k, v') = (k, v) := List.inj_on_of_nodup_map h (mem_of_get?_ofList hv) hm rfl
  rwa [(Prod.mk.inj heq).2] at hv

end TextMap

end ConsentGate
