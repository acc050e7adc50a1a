import ConsentGate.Proofs.Redirect.Success

namespace ConsentGate.Redirect

open Text (Form.Pair)

variable {target : Url} {request : Request} {session : Option String} {now : Timestamp}

theorem uri_success (status : RedirectStatus) (now : Timestamp) (target : Url) (request : Request)
    (issued : Issued) (session : Option String) :
    (success status now target request issued session).uri.toList =
      (answered target (successPairs now request session issued) issued).render := by
  cases issued <;> simp [success, answered, successPairs, toString]

/-- The URL that reports an error where the grant's answer would have been. -/
def reported (target : Url) (pairs : List Form.Pair) : GrantType → Url
  | .authorizationCode => target.dropFragment.appendQuery pairs
  | .implicit => target.setFragment pairs

theorem uri_failure (status : RedirectStatus) (target : Url) (grant : GrantType) (error : AuthError)
    (state : Option String) : (failure status target grant error state).uri.toList =
      (reported target (errorPairs error state) grant).render := by
  cases grant <;> simp [failure, reported, GrantType.usesFragment, toString]

theorem wellFormed_answered (ht : target.WellFormed) (pairs : List Form.Pair) (issued : Issued) :
    (answered target pairs issued).WellFormed := by
  cases issued with
  | code code => exact ht.appendQuery pairs
  | token token code => exact ht.setFragment pairs

theorem wellFormed_reported (ht : target.WellFormed) (pairs : List Form.Pair) (grant : GrantType) :
    (reported target pairs grant).WellFormed := by
  cases grant with
  | authorizationCode => exact ht.dropFragment.appendQuery pairs
  | implicit => exact ht.setFragment pairs

theorem isPrintable_success (ht : target.WellFormed) (status : RedirectStatus) (issued : Issued)
    {c : Char} (hc : c ∈ (success status now target request issued session).uri.toList) :
    Url.isPrintable c = true := by
  rw [uri_success] at hc
  exact Url.isPrintable_of_mem_render (wellFormed_answered ht _ issued) hc

theorem isPrintable_failure (ht : target.WellFormed) (status : RedirectStatus) (grant : GrantType)
    (error : AuthError) (state : Option String) {c : Char}
    (hc : c ∈ (failure status target grant error state).uri.toList) : Url.isPrintable c = true := by
  rw [uri_failure] at hc
  exact Url.isPrintable_of_mem_render (wellFormed_reported ht _ grant) hc

theorem error_not_mem_successPairs (now : Timestamp) (request : Request) (session : Option String)
    (issued : Issued) : "error" ∉ (successPairs now request session issued).map Prod.fst := by
  have hoptional : ∀ name value, name ≠ "error" → "error" ∉ (optional name value).map Prod.fst :=
    fun name value hne hm =>
      hne (List.mem_singleton.mp ((map_fst_optional name value).subset hm)).symm
  cases issued with
  | code code => simp [successPairs, codePairs, hoptional]
  | token token code =>
    have hscope : "error" ∉ (if (grantedScope request token).isEmpty then []
        else [("scope", ParameterList.format (grantedScope request token))]).map Prod.fst := by
      split <;> simp
    simp only [successPairs, tokenPairs, List.map_append, List.mem_append, hscope]
    simp [hoptional]

theorem ne_errorPairs (now : Timestamp) (request : Request) (session : Option String) (issued : Issued)
    (error : AuthError) (state : Option String) :
    successPairs now request session issued ≠ errorPairs error state := by
  intro h
  apply error_not_mem_successPairs now request session issued
  simp [h, errorPairs]

theorem queryPairs_reported (target : Url) (pairs : List Form.Pair) (grant : GrantType) :
    (reported target pairs grant).queryPairs =
      if grant.usesFragment then target.queryPairs else target.queryPairs ++ pairs := by
  cases grant with
  | authorizationCode =>
    rw [reported, Url.queryPairs_appendQuery, Url.queryPairs_congr (Url.query_dropFragment target)]
    rfl
  | implicit => rfl

theorem success_ne_failure (ht : target.WellFormed) (status status' : RedirectStatus)
    (issued : Issued) (grant : GrantType) (error : AuthError) (state : Option String) :
    success status now target request issued session ≠ failure status' target grant error state := by
  intro h
  have hrender := congrArg (fun r => r.uri.toList) h
  simp only [uri_success, uri_failure] at hrender
  obtain ⟨hquery, hfragment⟩ := (wellFormed_answered ht _ issued).tail_eq
    (wellFormed_reported ht _ grant) hrender
  have hne := ne_errorPairs now request session issued error state
  cases issued with
  | code code =>
    have hpairs := Url.queryPairs_congr hquery
    rw [queryPairs_answered, queryPairs_reported] at hpairs
    cases grant with
    | authorizationCode => exact hne (List.append_cancel_left hpairs)
    | implicit => simp [inFragment, GrantType.usesFragment, successPairs, codePairs] at hpairs
  | token token code =>
    have hpairs := Url.fragmentPairs_congr hfragment
    rw [fragmentPairs_answered target _ rfl] at hpairs
    cases grant with
    | authorizationCode =>
      simp only [answered, reported, Url.setFragment, Url.appendQuery, Url.fragment_dropFragment,
        reduceCtorEq] at hfragment
    | implicit => exact hne (hpairs.trans (Url.fragmentPairs_setFragment target _))

theorem code_of_errorPairs {error error' : AuthError} {state state' : Option String}
    (h : errorPairs error state = errorPairs error' state') : error.code = error'.code := by
  have htext : error.code.text = error'.code.text := by
    simp only [errorPairs, List.cons_append, List.cons.injEq, Prod.mk.injEq] at h
    exact h.1.2
  generalize error.code = a at htext ⊢
  generalize error'.code = b at htext ⊢
  cases a <;> cases b <;> first | rfl | exact absurd htext (by decide)

theorem code_of_failure (ht : target.WellFormed) {status status' : RedirectStatus}
    {grant grant' : GrantType} {error error' : AuthError} {state state' : Option String}
    (h : failure status target grant error state = failure status' target grant' error' state') :
    error.code = error'.code := by
  have hrender := congrArg (fun r => r.uri.toList) h
  simp only [uri_failure] at hrender
  obtain ⟨hquery, hfragment⟩ := (wellFormed_reported ht _ grant).tail_eq
    (wellFormed_reported ht _ grant') hrender
  have hpairs := Url.queryPairs_congr hquery
  rw [queryPairs_reported, queryPairs_reported] at hpairs
  cases grant with
  | authorizationCode =>
    cases grant' with
    | authorizationCode => exact code_of_errorPairs (List.append_cancel_left hpairs)
    | implicit => simp [GrantType.usesFragment, errorPairs] at hpairs
  | implicit =>
    cases grant' with
    | authorizationCode => simp [GrantType.usesFragment, errorPairs] at hpairs
    | implicit =>
      have hread := Url.fragmentPairs_congr hfragment
      rw [reported, reported, Url.fragmentPairs_setFragment, Url.fragmentPairs_setFragment] at hread
      exact code_of_errorPairs hread

theorem error?_success (ht : target.WellFormed) (hquery : target.queryPairs.lookup "error" = none)
    (hfragment : target.fragmentPairs.lookup "error" = none) (status : RedirectStatus)
    (issued : Issued) :
    (success status now target request issued session).error? = none := by
  have hpairs : (successPairs now request session issued).lookup "error" = none := by
    rw [List.lookup_eq_none_iff]
    intro pair hm
    apply bne_iff_ne.mpr
    intro heq
    apply error_not_mem_successPairs now request session issued
    exact List.mem_map.mpr ⟨pair, hm, heq.symm⟩
  rw [error?, parameter?, parse_success status now ht]
  by_cases hreadable : target.isReadable = true
  · rw [if_pos hreadable]
    dsimp only
    have hq : (answered target (successPairs now request session issued) issued).queryPairs.lookup
        "error" = none := by
      rw [queryPairs_answered]
      split
      · exact hquery
      · rw [List.lookup_append, hquery, Option.none_or, hpairs]
    have hf : (answered target (successPairs now request session issued) issued).fragmentPairs.lookup
        "error" = none := by
      cases issued with
      | code code => exact hfragment
      | token token code => rwa [fragmentPairs_answered target _ rfl]
    exact (congrArg₂ Option.or hq hf).trans rfl
  · rw [if_neg hreadable]

end ConsentGate.Redirect
