import ConsentGate.Proofs.RedirectUri.Resolve
import ConsentGate.Proofs.Url.PathText

namespace ConsentGate.RedirectUri

open Text Url

variable {text scheme rest t w : List Char} {special : Bool}

/-- The path as written ends and begins where the path that is read does: the first `://` stands at the
first colon, and no blanks end the text behind the path. -/
structure IsDirect (text : List Char) : Prop where
  colon : ∀ t rest, cutOn? [':', '/', '/'] (before (· == '?') text) = some (t, rest) → ':' ∉ t
  last : '?' ∈ text ∨ ∀ c, text.getLast? = some c → isOuter c = false

/-! ## The written path -/

/-- What is written of a path in what follows the colon of a scheme. -/
def IsWritten (rest w : List Char) : Prop :=
  (∃ r, rest = '/' :: '/' :: r ∧ w = r.dropWhile (· != '/')) ∨
    (∀ r, rest ≠ '/' :: '/' :: r) ∧ w = rest

theorem isWritten_of_colon (hfront : before (· == '?') text = t ++ ':' :: rest) (ht : ':' ∉ t)
    (hcolon : ∀ t rest, cutOn? [':', '/', '/'] (before (· == '?') text) = some (t, rest) → ':' ∉ t) :
    IsWritten rest (writtenPath text) := by
  have hcut : ∀ r, cutOn? [':', '/', '/'] (t ++ ':' :: '/' :: '/' :: r) = some (t, r) :=
    cutOn?_append_append ht
  unfold writtenPath
  dsimp only
  cases hslashes : cutOn? [':', '/', '/'] (before (· == '?') text) with
  | none =>
    refine .inr ⟨?_, ?_⟩
    · rintro r rfl
      rw [hfront, hcut] at hslashes
      cases hslashes
    · rw [hfront, cutAt_append_cons (beq_false_of_not_mem ht) rfl]
      rfl
  | some cut =>
    obtain ⟨x, y⟩ := cut
    have hx := beq_false_of_not_mem (hcolon x y hslashes)
    have heq : t ++ ':' :: rest = x ++ ':' :: '/' :: '/' :: y := by
      rw [← hfront, cutOn?_spec hslashes]
      simp
    have htx : t = x := by
      rw [← before_append_cons (r := rest) (beq_false_of_not_mem ht) (beq_self_eq_true ':'), heq,
        before_append_cons hx (beq_self_eq_true ':')]
    subst htx
    have hrest := (List.cons.inj (List.append_cancel_left heq)).2
    exact .inl ⟨y, hrest, rfl⟩

theorem isStraight_afterAuthority (hw : IsWritten rest w) (h : Path.IsStraight special w) :
    Path.IsStraight special ((rest.dropWhile (· == '/')).dropWhile (· != '/')) := by
  have hskip : ∀ s : List Char, (s.dropWhile (· == '/')).dropWhile (· != '/') <:+ s := fun s =>
    (List.dropWhile_suffix _).trans (List.dropWhile_suffix _)
  obtain ⟨r, rfl, rfl⟩ | ⟨_, rfl⟩ := hw
  · rw [List.dropWhile_cons_of_pos (by simp), List.dropWhile_cons_of_pos (by simp)]
    refine Path.isStraight_of_suffix ?_ (dropWhile_ne_slash _) h
    cases r with
    | nil => exact List.suffix_rfl
    | cons c r =>
      by_cases hc : c = '/'
      · rw [List.dropWhile_cons_of_neg (p := (· != '/')) (by simp [hc])]
        exact hskip (c :: r)
      · have hkeep : (c :: r).dropWhile (· == '/') = c :: r :=
          List.dropWhile_cons_of_neg (by simp [hc])
        simp only [hkeep, List.suffix_rfl]
  · exact Path.isStraight_of_suffix (hskip _) (dropWhile_ne_slash _) h

/-- The path that is read begins at a slash of the one that is written, or with a drive before it. -/
theorem isStraight_bodyPathText (hw : IsWritten rest w) (h : Path.IsStraight true w) :
    Path.IsStraight true (bodyPathText scheme rest) := by
  unfold bodyPathText
  split
  · obtain ⟨r, rfl, rfl⟩ | ⟨hno, rfl⟩ := hw
    · change Path.IsStraight true
        (if Path.isDrive (before (· == '/') r) then r else r.dropWhile (· != '/'))
      split
      · next hdrive =>
        have hr : r = before (· == '/') r ++ r.dropWhile (· != '/') :=
          (List.takeWhile_append_dropWhile (p := (· != '/'))).symm
        rw [hr, Path.isStraight_append (dropWhile_ne_slash r)]
        exact ⟨Path.isStraight_of_isDrive hdrive, h⟩
      · exact h
    · split
      · exact absurd rfl (hno _)
      · exact h
  split
  · exact isStraight_afterAuthority hw h
  · obtain ⟨r, rfl, rfl⟩ | ⟨hno, rfl⟩ := hw
    · exact h
    · split
      · exact absurd rfl (hno _)
      · exact h

/-! ## Direct texts -/

theorem before_eq_of_last (hallowed : ∀ c ∈ text, isForbidden c = false) (hsharp : '#' ∉ text)
    (hlast : '?' ∈ text ∨ ∀ c, text.getLast? = some c → isOuter c = false) :
    ∃ a, before (· == '?') text = a ++ frontText text ∧ ∀ c ∈ a, isOuter c = true := by
  obtain ⟨a, b, htext, ha, hb⟩ := trim_spec isOuter text
  have houter : ∀ s : List Char, (∀ c ∈ s, isOuter c = true) → '?' ∉ s := fun s hs hm =>
    absurd (hs '?' hm) (by decide)
  have hfront : frontText text = before (· == '?') (trim isOuter text) := by
    have hbare : '#' ∉ trim isOuter text := fun hm => hsharp (by rw [htext]; simp [hm])
    rw [frontText, clean_eq_trim hallowed, cutAt_eq_self (beq_false_of_not_mem hbare), cutAt_fst]
  refine ⟨a, ?_, ha⟩
  have hquestion := beq_false_of_not_mem (houter a ha)
  have hcut : before (· == '?') (a ++ trim isOuter text ++ b) = a ++ frontText text := by
    rw [hfront, List.append_assoc, before_append_of_false hquestion]
    cases hlast with
    | inl hmem =>
      have hmem : '?' ∈ trim isOuter text := by
        rw [htext] at hmem
        simpa [houter a ha, houter b hb] using hmem
      rw [before_append_of_mem hmem rfl]
    | inr hlast =>
      have hnil : b = [] := by
        rw [← List.getLast?_eq_none_iff, Option.eq_none_iff_forall_ne_some]
        intro c hc
        have hend := hlast c (by rw [htext, List.getLast?_append, hc, Option.some_or])
        rw [hb c (List.mem_of_getLast? hc)] at hend
        cases hend
      rw [hnil, List.append_nil]
  rwa [← htext] at hcut

theorem isWritten_of_isDirect (hallowed : ∀ c ∈ text, isForbidden c = false) (hsharp : '#' ∉ text)
    (hdirect : IsDirect text) (hcut : cutScheme? (frontText text) = some (scheme, rest)) :
    IsWritten rest (writtenPath text) := by
  obtain ⟨a, hfront, ha⟩ := before_eq_of_last hallowed hsharp hdirect.last
  obtain ⟨_, t, ht, hcolon, _⟩ := cutScheme?_spec hcut
  refine isWritten_of_colon (t := a ++ t) ?_ ?_ hdirect.colon
  · rw [hfront, ht, List.append_assoc]
  · intro hm
    obtain hm | hm := List.mem_append.mp hm
    · exact absurd (ha ':' hm) (by decide)
    · exact hcolon hm

/-- A redirect URI that is accepted has a straight path, as far as its text is direct: the path is the
one that is spelled, with nothing to resolve. -/
theorem resolve_straight (rules : RedirectSettings) (client : Client) (requested uri : String)
    (h : resolve rules client (some requested) = .ok uri) :
    ∃ v, Url.parse uri.toList = .ok v ∧
      v.path.Spells v.scheme (Path.resolve []) (pathText uri.toList) ∧
      (IsDirect uri.toList →
        Path.IsStraight (isSpecialScheme v.scheme) (pathText uri.toList) ∧
        v.path.Spells v.scheme id (pathText uri.toList)) := by
  obtain ⟨rfl, _, hfit, _⟩ := resolve_some_iff.mp h
  rw [String.toList_ofList]
  generalize hbare : stripFragment requested.toList = text at hfit
  have hsharp : '#' ∉ text := hbare ▸ not_mem_stripFragment _
  have hback : '\\' ∉ text := fun hm => absurd (hfit.allowed _ hm) (by decide)
  obtain ⟨v, hv⟩ := hfit.reads
  have hspells := spells_of_parse hback hv
  refine ⟨v, hv, hspells, fun hdirect => ?_⟩
  obtain ⟨rest, _, hcut, _⟩ := frontText_of_parse hv
  have hpath : pathText text = bodyPathText v.scheme rest := by rw [pathText, hcut]
  have hwritten := isWritten_of_isDirect hfit.allowed hsharp hdirect hcut
  have hstraight : Path.IsStraight (isSpecialScheme v.scheme) (pathText text) := by
    refine Path.isStraight_of_no_backslash (fun hm => hback (mem_of_mem_pathText hm)) ?_
    rw [hpath]
    exact isStraight_bodyPathText hwritten (hfit.straight _ (writesPath_writtenPath text))
  exact ⟨hstraight, hspells.of_isStraight hstraight⟩

theorem resolve_straight_registering :
    resolve {} (registering ["https://good.com/a"]) (some "https://good.com/a?x=1") =
      .ok "https://good.com/a?x=1" ∧
    ∃ v, Url.parse "https://good.com/a?x=1".toList = .ok v ∧
      v.path.Spells v.scheme id (pathText "https://good.com/a?x=1".toList) := by
  have hresolve : resolve {} (registering ["https://good.com/a"]) (some "https://good.com/a?x=1") =
      .ok "https://good.com/a?x=1" := by decide +kernel
  have hdirect : IsDirect "https://good.com/a?x=1".toList := by
    refine ⟨fun t rest h => ?_, .inl (by decide +kernel)⟩
    have hcut : cutOn? [':', '/', '/'] (before (· == '?') "https://good.com/a?x=1".toList) =
        some ("https".toList, "good.com/a".toList) := by decide +kernel
    obtain ⟨rfl, _⟩ := Prod.mk.inj (Option.some.inj (hcut.symm.trans h))
    decide +kernel
  obtain ⟨v, hv, _, hstraight⟩ := resolve_straight {} _ _ _ hresolve
  exact ⟨hresolve, v, hv, (hstraight hdirect).2⟩

/-- Dot segments before a second `://` are not found, nor one with a blank behind it. -/
theorem resolve_crooked :
    resolve {} (registering ["app:/b://c"]) (some "app:/a/../b://c") = .ok "app:/a/../b://c" ∧
    ¬ Path.IsStraight false (pathText "app:/a/../b://c".toList) ∧
    (Url.parse "app:/a/../b://c".toList).toOption.map Url.path =
      some (.segments ["b:".toList, [], "c".toList]) ∧
    resolve {} (registering ["https://good.com/"]) (some "https://good.com/a/.. ") =
      .ok "https://good.com/a/.. " ∧
    ¬ Path.IsStraight true (pathText "https://good.com/a/.. ".toList) := by
  have hcrooked : ∀ special t, (∃ w ∈ pieces (Path.isSlash special) t, Path.isDoubleDot w = true) →
      ¬ Path.IsStraight special t := by
    rintro special t ⟨w, hw, hdots⟩ hstraight
    rw [(hstraight w hw).2] at hdots
    cases hdots
  refine ⟨by decide +kernel, hcrooked _ _ ?_, by decide +kernel, by decide +kernel, hcrooked _ _ ?_⟩
  · decide +kernel
  · decide +kernel

end ConsentGate.RedirectUri
