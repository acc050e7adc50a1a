import ConsentGate.Client
import ConsentGate.Proofs.Text.Cut
import Mathlib.Data.List.Forall2

namespace ConsentGate

namespace Glob

open Text

variable {c : Char} {p s : List Char}

inductive Matches : List Char → List Char → Prop
  | nil : Matches [] []
  | literal {c : Char} {p s : List Char} (hc : c ≠ '*') (h : Matches p s) : Matches (c :: p) (c :: s)
  | star {g p s : List Char} (hg : '\n' ∉ g) (h : Matches p s) : Matches ('*' :: p) (g ++ s)

theorem matches_nil : Matches [] s ↔ s = [] := by
  refine ⟨fun h => ?_, fun h => h ▸ .nil⟩
  cases h with
  | nil => rfl

theorem matches_literal (hc : c ≠ '*') : Matches (c :: p) s ↔ ∃ t, s = c :: t ∧ Matches p t := by
  refine ⟨fun h => ?_, fun ⟨t, hs, h⟩ => hs ▸ .literal hc h⟩
  cases h with
  | literal _ h => exact ⟨_, rfl, h⟩
  | star => exact absurd rfl hc

theorem matches_star : Matches ('*' :: p) s ↔ ∃ g t, '\n' ∉ g ∧ s = g ++ t ∧ Matches p t := by
  refine ⟨fun h => ?_, fun ⟨g, t, hg, hs, h⟩ => hs ▸ Matches.star hg h⟩
  cases h with
  | literal hc => exact absurd rfl hc
  | star hg h => exact ⟨_, _, hg, rfl, h⟩

theorem matches_star_cons : Matches ('*' :: p) (c :: s) ↔
    Matches p (c :: s) ∨ c ≠ '\n' ∧ Matches ('*' :: p) s := by
  constructor
  · intro h
    obtain ⟨g, t, hg, heq, ht⟩ := matches_star.mp h
    cases g with
    | nil => exact .inl (by rwa [heq])
    | cons d g =>
      obtain ⟨rfl, rfl⟩ := List.cons.inj heq
      have hrest : '\n' ∉ g := fun hm => hg (List.mem_cons_of_mem _ hm)
      exact .inr ⟨fun hc => hg (by simp [hc]), matches_star.mpr ⟨g, t, hrest, rfl, ht⟩⟩
  · rintro (h | ⟨hc, h⟩)
    · exact .star List.not_mem_nil h
    · obtain ⟨g, t, hg, rfl, ht⟩ := matches_star.mp h
      have hgap : '\n' ∉ c :: g := by simp [hg, Ne.symm hc]
      exact matches_star.mpr ⟨c :: g, t, hgap, rfl, ht⟩

/-! ## Rows -/

/-- A row tells of each place of a text whether a pattern matches all of the text from there on. -/
def IsRow (p s : List Char) (row : List Bool) : Prop :=
  List.Forall₂ (fun b t => b = true ↔ Matches p t) row s.tails

theorem IsRow.headD {row : List Bool} (h : IsRow p s row) : row.headD false = true ↔ Matches p s := by
  cases s with
  | nil => cases h with
    | cons hb _ => exact hb
  | cons c s => cases h with
    | cons hb _ => exact hb

theorem isRow_nil (s : List Char) : IsRow [] s (List.replicate s.length false ++ [true]) := by
  induction s with
  | nil => exact .cons (by simp [matches_nil]) .nil
  | cons c s ih => exact .cons (by simp [matches_nil]) ih

theorem isRow_starRow {row : List Bool} (h : IsRow p s row) : IsRow ('*' :: p) s (starRow s row) := by
  induction s generalizing row with
  | nil =>
    cases h with
    | cons hb hnil =>
      cases hnil
      refine .cons (hb.trans ?_) .nil
      simp [matches_star]
  | cons c s ih =>
    cases h with
    | cons hb hrow =>
      have hnext := ih hrow
      refine .cons ?_ hnext
      rw [matches_star_cons, ← hb, ← hnext.headD]
      simp

theorem isRow_characterRow {row : List Bool} (hc : c ≠ '*') (h : IsRow p s row) :
    IsRow (c :: p) s (characterRow c s row) := by
  induction s generalizing row with
  | nil => exact .cons (by simp [matches_literal hc]) .nil
  | cons d s ih =>
    cases h with
    | cons hb hrow =>
      have hhead : IsRow p s _ := hrow
      refine .cons ?_ (ih hrow)
      rw [matches_literal hc, Bool.and_eq_true, hhead.headD, beq_iff_eq]
      constructor
      · rintro ⟨rfl, h⟩
        exact ⟨s, rfl, h⟩
      · rintro ⟨t, heq, h⟩
        obtain ⟨rfl, rfl⟩ := List.cons.inj heq
        exact ⟨rfl, h⟩

theorem isRow_row (s p : List Char) : IsRow p s (row s p) := by
  induction p with
  | nil => exact isRow_nil s
  | cons c p ih =>
    rw [row]
    split
    · next hc => exact hc ▸ isRow_starRow ih
    · next hc => exact isRow_characterRow hc ih

theorem isMatch_iff (g : Glob) (s : String) :
    g.isMatch s = true ↔ Matches g.text.toList s.toList :=
  (isRow_row s.toList g.text.toList).headD

/-! ## Literals and gaps -/

def joinGaps : List (List Char) → List (List Char) → List Char
  | l :: ls, gaps => l ++ (List.zipWith (· ++ ·) gaps ls).flatten
  | [], _ => []

/-- A text is made of literals and of as many gaps as stand between them, without line feeds. -/
def IsFilled (literals : List (List Char)) (s : List Char) : Prop :=
  ∃ gaps : List (List Char), gaps.length + 1 = literals.length ∧ (∀ g ∈ gaps, '\n' ∉ g) ∧
    s = joinGaps literals gaps

/-- A text that a pattern spells: the literals between the stars of the pattern, with a gap for each
star. -/
def Spells (pattern s : String) : Prop :=
  IsFilled (pieces (· == '*') pattern.toList) s.toList

theorem isFilled_singleton {l : List Char} : IsFilled [l] s ↔ s = l := by
  constructor
  · rintro ⟨gaps, _, _, rfl⟩
    simp [joinGaps]
  · rintro rfl
    exact ⟨[], rfl, by simp, by simp [joinGaps]⟩

theorem isFilled_cons {l : List Char} {ls : List (List Char)} :
    IsFilled ((c :: l) :: ls) s ↔ ∃ t, s = c :: t ∧ IsFilled (l :: ls) t := by
  constructor
  · rintro ⟨gaps, hlength, hgaps, rfl⟩
    exact ⟨_, rfl, gaps, hlength, hgaps, rfl⟩
  · rintro ⟨_, rfl, gaps, hlength, hgaps, rfl⟩
    exact ⟨gaps, hlength, hgaps, rfl⟩

theorem isFilled_nil_cons {ls : List (List Char)} (hls : ls ≠ []) :
    IsFilled ([] :: ls) s ↔ ∃ g t, '\n' ∉ g ∧ s = g ++ t ∧ IsFilled ls t := by
  obtain ⟨l, ls, rfl⟩ := List.exists_cons_of_ne_nil hls
  constructor
  · rintro ⟨gaps, hlength, hgaps, rfl⟩
    cases gaps with
    | nil => simp at hlength
    | cons g gaps =>
      obtain ⟨hg, hgaps⟩ := List.forall_mem_cons.mp hgaps
      exact ⟨g, _, hg, by simp [joinGaps], gaps, by simpa using hlength, hgaps, rfl⟩
  · rintro ⟨g, _, hg, rfl, gaps, hlength, hgaps, rfl⟩
    refine ⟨g :: gaps, by simpa using hlength, List.forall_mem_cons.mpr ⟨hg, hgaps⟩, ?_⟩
    simp [joinGaps]

theorem matches_iff_isFilled (p s : List Char) : Matches p s ↔ IsFilled (pieces (· == '*') p) s := by
  induction p generalizing s with
  | nil => rw [matches_nil, pieces, isFilled_singleton]
  | cons c p ih =>
    by_cases hc : c = '*'
    · subst hc
      rw [matches_star, pieces, if_pos (beq_self_eq_true '*'), isFilled_nil_cons (pieces_ne_nil _ p)]
      simp only [ih]
    · rw [matches_literal hc, pieces, if_neg (by simpa using hc)]
      obtain ⟨w, ws, hws⟩ := List.exists_cons_of_ne_nil (pieces_ne_nil (· == '*') p)
      simp only [ih, hws, isFilled_cons]

theorem isMatch_iff_spells (g : Glob) (s : String) : g.isMatch s = true ↔ Spells g.text s :=
  (isMatch_iff g s).trans (matches_iff_isFilled _ _)

example : Glob.isMatch ⟨"a*ab*b"⟩ "aab" = false := by decide +kernel

theorem compile?_eq_some {fits : String → Bool} {pattern : String} {g : Glob} :
    compile? pattern fits = some g ↔ fits pattern = true ∧ g = ⟨pattern⟩ := by
  rw [compile?, Option.ite_none_right_eq_some, Option.some.injEq, eq_comm (b := g)]

theorem isSome_compile? (fits : String → Bool) (pattern : String) :
    (compile? pattern fits).isSome = fits pattern := by
  rw [compile?]
  cases fits pattern <;> rfl

/-! ## Regular expressions -/

/-- What a regular expression matches that is made of characters that stand for themselves, of escaped
ones and of `.*`, where the point is any character but a line feed. -/
inductive Expresses : List Char → List Char → Prop
  | nil : Expresses [] []
  | plain {c : Char} {r s : List Char} (hc : isMeta c = false) (h : Expresses r s) :
    Expresses (c :: r) (c :: s)
  | escaped {c : Char} {r s : List Char} (hc : isMeta c = true) (h : Expresses r s) :
    Expresses ('\\' :: c :: r) (c :: s)
  | any {g r s : List Char} (hg : '\n' ∉ g) (h : Expresses r s) :
    Expresses ('.' :: '*' :: r) (g ++ s)

/-- A regular expression that is anchored at both ends matches a text. -/
def IsExpressed (expression s : String) : Prop :=
  ∃ body, expression.toList = '^' :: (body ++ ['$']) ∧ Expresses body s.toList

theorem translate_cons (c : Char) (p : List Char) : translate (c :: p) =
    (if c = '*' then ['.', '*'] else if isMeta c then ['\\', c] else [c]) ++ translate p := rfl

theorem expresses_any {r : List Char} :
    Expresses ('.' :: '*' :: r) s ↔ ∃ g t, '\n' ∉ g ∧ s = g ++ t ∧ Expresses r t := by
  refine ⟨fun h => ?_, fun ⟨g, t, hg, hs, h⟩ => hs ▸ .any hg h⟩
  cases h with
  | plain hc => exact absurd hc (by decide)
  | any hg h => exact ⟨_, _, hg, rfl, h⟩

theorem expresses_escaped {r : List Char} (hc : isMeta c = true) :
    Expresses ('\\' :: c :: r) s ↔ ∃ t, s = c :: t ∧ Expresses r t := by
  refine ⟨fun h => ?_, fun ⟨t, hs, h⟩ => hs ▸ .escaped hc h⟩
  cases h with
  | plain hback => exact absurd hback (by decide)
  | escaped _ h => exact ⟨_, rfl, h⟩

theorem expresses_plain {r : List Char} (hc : isMeta c = false) :
    Expresses (c :: r) s ↔ ∃ t, s = c :: t ∧ Expresses r t := by
  refine ⟨fun h => ?_, fun ⟨t, hs, h⟩ => hs ▸ .plain hc h⟩
  cases h with
  | plain _ h => exact ⟨_, rfl, h⟩
  | escaped => exact absurd hc (by decide)
  | any => exact absurd hc (by decide)

theorem expresses_translate (p s : List Char) : Expresses (translate p) s ↔ Matches p s := by
  induction p generalizing s with
  | nil =>
    rw [matches_nil]
    constructor
    · rintro ⟨⟩
      rfl
    · rintro rfl
      exact .nil
  | cons c p ih =>
    rw [translate_cons]
    by_cases hc : c = '*'
    · subst hc
      rw [matches_star]
      simp only [← ih]
      exact expresses_any
    · rw [matches_literal hc, if_neg hc]
      simp only [← ih]
      cases hmeta : isMeta c with
      | true => exact expresses_escaped hmeta
      | false => exact expresses_plain hmeta

theorem isExpressed_toRegex_iff (pattern s : String) :
    IsExpressed (toRegex pattern) s ↔ Spells pattern s := by
  have htext : (toRegex pattern).toList = '^' :: (translate pattern.toList ++ ['$']) := by
    rw [toRegex, String.toList_ofList, List.cons_append]
  rw [Spells, ← matches_iff_isFilled, ← expresses_translate, IsExpressed, htext]
  constructor
  · rintro ⟨body, hbody, h⟩
    rwa [List.append_cancel_right (List.cons.inj hbody).2]
  · exact fun h => ⟨_, rfl, h⟩

end Glob

namespace Client

theorem approves_iff {fits : String → Bool} {client : Client} {scope : String} :
    client.approves fits scope = true ↔
      ∃ pattern ∈ client.autoApprove, fits pattern = true ∧ Glob.Spells pattern scope := by
  simp only [approves, List.any_eq_true, List.mem_filterMap, Glob.compile?_eq_some,
    Glob.isMatch_iff_spells]
  constructor
  · rintro ⟨g, ⟨pattern, hm, hfits, rfl⟩, hspells⟩
    exact ⟨pattern, hm, hfits, hspells⟩
  · rintro ⟨pattern, hm, hfits, hspells⟩
    exact ⟨⟨pattern⟩, ⟨pattern, hm, hfits, rfl⟩, hspells⟩

/-- Scopes need no question exactly if there are some and each of them is spelled by a usable pattern of
the client, whichever patterns are small enough to be usable. What a pattern spells is also what its
regular expression matches. -/
theorem autoApproves_iff (client : Client) (scopes : List String) :
    (∀ fits, client.autoApproves scopes fits = true ↔ scopes ≠ [] ∧ ∀ scope ∈ scopes,
      ∃ pattern ∈ client.autoApprove, (Glob.compile? pattern fits).isSome = true ∧
        Glob.Spells pattern scope) ∧
    (∀ fits pattern, (Glob.compile? pattern fits).isSome = true ↔ fits pattern = true) ∧
    ∀ pattern scope, Glob.IsExpressed (Glob.toRegex pattern) scope ↔ Glob.Spells pattern scope := by
  refine ⟨fun fits => ?_, fun fits pattern => ?_, Glob.isExpressed_toRegex_iff⟩
  · simp only [autoApproves, Bool.and_eq_true, Bool.not_eq_true', List.isEmpty_eq_false_iff,
      List.all_eq_true, approves_iff, Glob.isSome_compile?]
  · rw [Glob.isSome_compile?]

end Client

end ConsentGate
