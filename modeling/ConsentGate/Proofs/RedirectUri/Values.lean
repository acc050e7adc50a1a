import ConsentGate.Proofs.Collection.TextSet
import ConsentGate.Proofs.RedirectUri.Resolve
import Mathlib.Data.List.Induction

namespace ConsentGate.RedirectUri

open Text

variable {ps ps' qs : List Form.Pair} {name value : String} {rules : RedirectSettings} {a b : Parts}
  {text : List Char}

theorem valuesByName_concat (ps : List Form.Pair) (p : Form.Pair) :
    valuesByName (ps ++ [p]) =
      (valuesByName ps).insert p.1 ((((valuesByName ps).get? p.1).getD .empty).insert p.2) := by
  simp [valuesByName]

theorem mem_valuesByName :
    value ∈ ((valuesByName ps).get? name).getD .empty ↔ (name, value) ∈ ps := by
  induction ps using List.reverseRecOn with
  | nil => simp [valuesByName]
  | append_singleton ps p ih =>
    obtain ⟨n, v⟩ := p
    rw [valuesByName_concat, TextMap.get?_insert, List.mem_append, List.mem_singleton, Prod.mk.injEq,
      ← ih]
    by_cases heq : name = n
    · subst heq
      simp [or_comm]
    · simp [heq]

theorem isSome_get?_valuesByName :
    ((valuesByName ps).get? name).isSome = true ↔ name ∈ ps.map Prod.fst := by
  induction ps using List.reverseRecOn with
  | nil => simp [valuesByName]
  | append_singleton ps p ih =>
    rw [valuesByName_concat, TextMap.get?_insert, List.map_append, List.mem_append, ← ih]
    by_cases heq : name = p.1 <;> simp [heq]

/-- Each name of the second list has the values that it has in the first. -/
def HasValues (ps qs : List Form.Pair) : Prop :=
  ∀ name ∈ qs.map Prod.fst, ∀ value, (name, value) ∈ ps ↔ (name, value) ∈ qs

theorem get?_valuesByName_eq_iff (hname : name ∈ qs.map Prod.fst) :
    (valuesByName ps).get? name = (valuesByName qs).get? name ↔
      ∀ value, (name, value) ∈ ps ↔ (name, value) ∈ qs := by
  constructor
  · intro heq value
    rw [← mem_valuesByName, heq, mem_valuesByName]
  · intro hvalues
    obtain ⟨p, hp, hfst⟩ := List.mem_map.mp hname
    have hps : name ∈ ps.map Prod.fst :=
      List.mem_map.mpr ⟨p, by rwa [← Prod.mk.eta (p := p), hfst, hvalues, ← hfst], hfst⟩
    obtain ⟨s, hs⟩ := Option.isSome_iff_exists.mp (isSome_get?_valuesByName.mpr hps)
    obtain ⟨t, ht⟩ := Option.isSome_iff_exists.mp (isSome_get?_valuesByName.mpr hname)
    rw [hs, ht, TextSet.eq_of_mem_iff (s := s) (t := t) fun value => ?_]
    have hmem := hvalues value
    rwa [← mem_valuesByName, hs, ← mem_valuesByName, ht] at hmem

theorem hasValues_iff : HasValues ps qs ↔
    ∀ e ∈ (valuesByName qs).toList, (valuesByName ps).get? e.1 = some e.2 := by
  constructor
  · intro h e he
    have hsome := TextMap.mem_toList.mp he
    have hname : e.1 ∈ qs.map Prod.fst :=
      isSome_get?_valuesByName.mp (Option.isSome_iff_exists.mpr ⟨_, hsome⟩)
    rw [(get?_valuesByName_eq_iff hname).mpr (h e.1 hname), hsome]
  · intro h name hname
    obtain ⟨s, hs⟩ := Option.isSome_iff_exists.mp (isSome_get?_valuesByName.mpr hname)
    refine (get?_valuesByName_eq_iff hname).mp ?_
    rw [hs]
    exact h (name, s) (TextMap.mem_toList.mpr hs)

theorem HasValues.congr (hless : ∀ p ∈ ps, p ∈ ps')
    (hmore : ∀ p ∈ ps', p ∈ ps ∨ p.1 ∉ qs.map Prod.fst) : HasValues ps qs ↔ HasValues ps' qs := by
  refine forall₂_congr fun name hname => forall_congr' fun value => ?_
  have hsame : (name, value) ∈ ps ↔ (name, value) ∈ ps' :=
    ⟨hless _, fun h => (hmore _ h).resolve_right fun hnot => hnot hname⟩
  rw [hsame]

/-- Two URLs agree apart from their queries. -/
def AgreesApart (rules : RedirectSettings) (a b : Parts) : Prop :=
  agrees rules { a with query := .empty } { b with query := .empty } = true

theorem agrees_iff : agrees rules a b = true ↔
    AgreesApart rules a b ∧ ∀ e ∈ b.query.toList, a.query.get? e.1 = some e.2 := by
  have hempty : (TextMap.empty : TextMap TextSet).toList = [] := rfl
  simp only [AgreesApart, agrees, Bool.and_eq_true, List.all_eq_true, beq_iff_eq, hempty,
    List.not_mem_nil, false_imp_iff, implies_true, and_true]

theorem query_of_read? (h : Parts.read? text = some a) :
    ∃ v, Url.parse text = .ok v ∧ a.query = valuesByName v.queryPairs := by
  unfold Parts.read? at h
  split at h
  · cases h
  next v hv => exact ⟨v, hv, by rw [← Option.some.inj h]⟩

end ConsentGate.RedirectUri
