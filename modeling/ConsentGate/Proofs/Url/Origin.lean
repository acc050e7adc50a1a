import ConsentGate.Proofs.Url.Parse
import ConsentGate.Url.Origin

namespace ConsentGate.Url

variable {u : Url} {text s : List Char}

theorem WellFormed.host (h : u.WellFormed) {host : Host} (hhost : u.host? = some host) :
    host.WellFormed (isSpecialScheme u.scheme) := by
  have hbody := h.body
  obtain ⟨a, hauth, ha⟩ := Option.bind_eq_some_iff.mp hhost
  rw [hauth] at hbody
  generalize u.path = p at hbody
  cases hbody with
  | file x l hs hx _ _ _ =>
    rw [isSpecialScheme_of_isFileScheme hs]
    exact (hx host ha).1
  | hierarchy a l _ hwell _ _ => exact (hwell.host host ha).1

theorem blank_not_mem_tupleOrigin (h : u.WellFormed) (hs : tupleOrigin? u = some s) : ' ' ∉ s := by
  obtain ⟨host, hhost, hs⟩ := Option.bind_eq_some_iff.mp hs
  obtain ⟨port, _, hs⟩ := Option.bind_eq_some_iff.mp hs
  obtain rfl := Option.some.inj hs
  have hname : ' ' ∉ host.render := fun hm => absurd (Host.mem_render (h.host hhost) hm) (by decide)
  have hscheme : ' ' ∉ u.scheme := fun hm => (mem_scheme h.scheme hm).2 rfl
  have hport : ' ' ∉ portText u.port? := fun hm => absurd (isHostChar_of_mem_portText hm) (by decide)
  intro hm
  obtain hm | hm := List.mem_append.mp hm
  · simp [hscheme, hname] at hm
  · exact hport hm

theorem blank_not_mem_originWithin (n : Nat) (h : u.WellFormed) (hs : originWithin n u = some s) :
    ' ' ∉ s := by
  induction n generalizing u with
  | zero => exact blank_not_mem_tupleOrigin h hs
  | succ n ih =>
    unfold originWithin at hs
    split at hs
    · split at hs
      · next hinner => exact ih (wellFormed_of_parse hinner) hs
      · cases hs
    · exact blank_not_mem_tupleOrigin h hs

theorem blank_not_mem_origin (h : parse text = .ok u) : ' ' ∉ u.origin.toList := by
  unfold origin
  split
  · next hs =>
    rw [String.toList_ofList]
    exact blank_not_mem_originWithin _ (wellFormed_of_parse h) hs
  · decide

end ConsentGate.Url
