import ConsentGate.Proofs.Text.Form
import ConsentGate.Proofs.Url.Parse
import ConsentGate.Url.Query

namespace ConsentGate.Url

open Text (Form.Pair)

variable {u : Url} {ps : List Form.Pair}

theorem decode_extendQuery (query : Option (List Char)) (ps : List Form.Pair) :
    Text.Form.decode (extendQuery query ps) = Text.Form.decode (query.getD []) ++ ps := by
  unfold extendQuery
  split
  · simp [Text.Form.decode_encode]
  · simp [Text.Form.decode_encode]
  · split
    · next hps =>
      obtain rfl : ps = [] := by simpa using hps
      simp
    · rw [Text.Form.decode_append, Text.Form.decode_encode, Option.getD_some]

theorem queryPairs_congr {v : Url} (h : u.query = v.query) : u.queryPairs = v.queryPairs := by
  rw [queryPairs, h, queryPairs]

theorem fragmentPairs_congr {v : Url} (h : u.fragment = v.fragment) :
    u.fragmentPairs = v.fragmentPairs := by
  rw [fragmentPairs, h, fragmentPairs]

theorem queryPairs_appendQuery (u : Url) (ps : List Form.Pair) :
    (u.appendQuery ps).queryPairs = u.queryPairs ++ ps :=
  decode_extendQuery u.query ps

theorem fragmentPairs_setFragment (u : Url) (ps : List Form.Pair) :
    (u.setFragment ps).fragmentPairs = ps :=
  Text.Form.decode_encode ps

@[simp] theorem isReadable_appendQuery (u : Url) (ps : List Form.Pair) :
    (u.appendQuery ps).isReadable = u.isReadable := rfl

@[simp] theorem isReadable_setFragment (u : Url) (ps : List Form.Pair) :
    (u.setFragment ps).isReadable = u.isReadable := rfl

theorem keeps_of_mem_form {c : Char} (hc : c ∈ Text.Form.encode ps) (special : Bool) :
    keepsQuery special c = true ∧ keepsFragment c = true := by
  have hrange : c.toNat < 128 ∧ (c.toNat = 37 ∨ c.toNat = 38 ∨ c.toNat = 42 ∨ c.toNat = 43 ∨
      c.toNat = 45 ∨ c.toNat = 46 ∨ 48 ≤ c.toNat ∧ c.toNat ≤ 57 ∨ c.toNat = 61 ∨
      65 ≤ c.toNat ∧ c.toNat ≤ 90 ∨ c.toNat = 95 ∨ 97 ≤ c.toNat ∧ c.toNat ≤ 122) := by
    obtain hfield | rfl | rfl := Text.Form.mem_encode hc
    · simp only [Text.Form.isFieldChar, Text.Form.isPlain, Bool.or_eq_true, Text.isAlphanum_iff,
        beq_iff_eq, Text.eq_iff_toNat, Char.reduceToNat] at hfield
      omega
    · decide
    · decide
  cases special <;>
  · simp only [keepsQuery, keepsFragment, isPrintable, Bool.and_eq_true, decide_eq_true_eq,
      Bool.not_eq_true', Bool.or_eq_false_iff, Bool.and_eq_false_iff, beq_eq_false_iff_ne, ne_eq,
      Text.eq_iff_toNat, Char.reduceToNat]
    omega

theorem WellFormed.appendQuery (h : u.WellFormed) (ps : List Form.Pair) :
    (u.appendQuery ps).WellFormed := by
  refine ⟨h.scheme, h.body, fun q hq c hc => ?_, h.fragment⟩
  obtain rfl := Option.some.inj hq
  have hold : ∀ q, u.query = some q → ∀ c ∈ q, keepsQuery (isSpecialScheme u.scheme) c = true :=
    h.query
  have hform : c ∈ Text.Form.encode ps → keepsQuery (isSpecialScheme u.scheme) c = true :=
    fun hc => (keeps_of_mem_form hc _).1
  unfold extendQuery at hc
  split at hc
  · exact hform hc
  · exact hform hc
  · next q _ hq =>
    split at hc
    · exact hold q hq c hc
    · obtain hc | hc := List.mem_append.mp hc
      · exact hold q hq c hc
      · obtain rfl | hc := List.mem_cons.mp hc
        · show keepsQuery (isSpecialScheme u.scheme) '&' = true
          cases isSpecialScheme u.scheme <;> decide
        · exact hform hc

theorem WellFormed.setFragment (h : u.WellFormed) (ps : List Form.Pair) :
    (u.setFragment ps).WellFormed := by
  refine ⟨h.scheme, h.body, h.query, fun f hf c hc => ?_⟩
  obtain rfl := Option.some.inj hf
  exact (keeps_of_mem_form hc true).2

theorem trimEnd_append (s : List Char) : ∃ r, trimEnd s ++ r = s := by
  obtain ⟨t, ht⟩ := List.dropWhile_suffix (l := s.reverse) (· == ' ')
  refine ⟨t.reverse, ?_⟩
  rw [trimEnd, ← List.reverse_append, ht, List.reverse_reverse]

@[simp] theorem query_dropFragment (u : Url) : u.dropFragment.query = u.query := by
  unfold dropFragment
  split <;> rfl

@[simp] theorem fragment_dropFragment (u : Url) : u.dropFragment.fragment = none := by
  unfold dropFragment
  split <;> rfl

theorem WellFormed.dropFragment (h : u.WellFormed) : u.dropFragment.WellFormed := by
  obtain ⟨scheme, authority, path, query, fragment⟩ := u
  unfold Url.dropFragment
  split
  · next t hpath _ =>
    dsimp only at hpath ⊢
    subst hpath
    refine ⟨h.scheme, ?_, h.query, fun _ hf => (by cases hf)⟩
    have hbody := h.body
    dsimp only at hbody ⊢
    cases hbody with
    | flat t hs hslash hkeep =>
      obtain ⟨r, hr⟩ := trimEnd_append t
      refine .flat _ hs (fun hhead => hslash ?_) fun c hc => hkeep c ?_
      · rw [← hr, List.head?_append, hhead, Option.some_or]
      · rw [← hr]
        exact List.mem_append_left r hc
  · exact ⟨h.scheme, h.body, h.query, fun _ hf => by cases hf⟩

theorem parse_appendQuery (h : u.WellFormed) (ps : List Form.Pair) :
    parse (u.appendQuery ps).render =
      if u.isReadable then .ok (u.appendQuery ps).settled else .error .badDomain := by
  have hend : ¬ (u.appendQuery ps).EndsInSpace := fun h => by cases h.1
  rw [parse_render (h.appendQuery ps) hend, isReadable_appendQuery]

theorem parse_setFragment (h : u.WellFormed) (ps : List Form.Pair) :
    parse (u.setFragment ps).render =
      if u.isReadable then .ok (u.setFragment ps).settled else .error .badDomain := by
  have hend : ¬ (u.setFragment ps).EndsInSpace := fun h => by cases h.2.1
  rw [parse_render (h.setFragment ps) hend, isReadable_setFragment]

end ConsentGate.Url
