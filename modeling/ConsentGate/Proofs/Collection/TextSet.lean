import ConsentGate.Collection.TextSet
import Mathlib.Data.List.Sort
import Mathlib.Data.String.Basic

namespace ConsentGate

namespace TextSet

theorem eq_of_mem_iff {s t : TextSet} (h : ∀ x, x ∈ s ↔ x ∈ t) : s = t := by
  obtain ⟨l, hl⟩ := s
  obtain ⟨m, hm⟩ := t
  have hitems : l = m := hl.eq_of_mem_iff hm h
  subst hitems
  rfl

theorem isEmpty_ofList (l : List String) : (ofList l).isEmpty = l.isEmpty := by
  cases l with
  | nil => rfl
  | cons x l =>
    have hx : x ∈ (ofList (x :: l)).items := mem_ofList.mpr List.mem_cons_self
    simpa [isEmpty] using List.ne_nil_of_mem hx

end TextSet

end ConsentGate
