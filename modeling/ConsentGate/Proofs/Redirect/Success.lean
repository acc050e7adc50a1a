import ConsentGate.Proofs.Url.Query
import ConsentGate.Redirect

namespace ConsentGate.Redirect

open Text (Form.Pair)

variable {target : Url} {request : Request} {session : Option String} {now : Timestamp}

/-- The pairs that answer a request with what was issued. -/
def successPairs (now : Timestamp) (request : Request) (session : Option String) :
    Issued → List Form.Pair
  | .code code => codePairs request code session
  | .token token code => tokenPairs now request token code session

/-- The URL with pairs for an answer, in the query or in the fragment. -/
def placed (target : Url) (pairs : List Form.Pair) (inFragment : Bool) : Url :=
  if inFragment then target.setFragment pairs else target.appendQuery pairs

/-- A request is answered at `target` with the pairs, in the query or in the fragment: this is the text of
the redirect, and what is read there. An error may be reported without the fragment of `target`. -/
structure Delivers (r : Redirect) (target : Url) (pairs : List Form.Pair) (inFragment : Bool) :
    Prop where
  names : (pairs.map Prod.fst).Nodup
  text : ∃ base, (base = target ∨ base = target.dropFragment) ∧
    r.uri = toString (placed base pairs inFragment)
  unread : target.isReadable = false → Url.parse r.uri.toList = .error .badDomain
  read : target.isReadable = true → ∃ u, Url.parse r.uri.toList = .ok u ∧
    u.queryPairs = (if inFragment then target.queryPairs else target.queryPairs ++ pairs) ∧
    (inFragment = true → u.fragmentPairs = pairs)
  parameter : target.isReadable = true → ∀ name value, (name, value) ∈ pairs →
    r.parameter? name = some ((target.queryPairs.lookup name).getD value)

/-! ## Names -/

theorem map_fst_optional (name : String) (value : Option String) :
    ((optional name value).map Prod.fst).Sublist [name] := by
  cases value with
  | none => exact List.nil_sublist _
  | some v => exact List.Sublist.refl _

theorem nodup_codePairs (request : Request) (code : String) (session : Option String) :
    ((codePairs request code session).map Prod.fst).Nodup := by
  have hstate := map_fst_optional "state" request.state
  have hsession := map_fst_optional "session_state" session
  have hsub : ((codePairs request code session).map Prod.fst).Sublist
      (["code"] ++ ["state"] ++ ["session_state"]) := by
    rw [codePairs, List.map_append, List.map_cons]
    exact (hstate.cons_cons "code").append hsession
  exact hsub.nodup (by decide)

theorem nodup_tokenPairs (now : Timestamp) (request : Request) (token : Token)
    (code session : Option String) :
    ((tokenPairs now request token code session).map Prod.fst).Nodup := by
  have hscope : ((if (grantedScope request token).isEmpty then []
      else [("scope", ParameterList.format (grantedScope request token))]).map Prod.fst).Sublist
        ["scope"] := by
    split
    · exact List.nil_sublist _
    · exact List.Sublist.refl _
  have hsub : ((tokenPairs now request token code session).map Prod.fst).Sublist
      (["token_type", "access_token"] ++ ["id_token"] ++ ["code"] ++ ["state"] ++ ["expires_in"] ++
        ["scope"] ++ ["session_state"]) := by
    simp only [tokenPairs, List.map_append]
    refine (List.Sublist.append ?_ hscope).append (map_fst_optional _ _)
    refine List.Sublist.append ?_ (List.Sublist.refl _)
    refine List.Sublist.append ?_ (map_fst_optional _ _)
    refine List.Sublist.append ?_ (map_fst_optional _ _)
    exact (List.Sublist.refl _).append (map_fst_optional _ _)
  exact hsub.nodup (by decide)

theorem nodup_successPairs (now : Timestamp) (request : Request) (session : Option String)
    (issued : Issued) : ((successPairs now request session issued).map Prod.fst).Nodup := by
  cases issued with
  | code code => exact nodup_codePairs request code session
  | token token code => exact nodup_tokenPairs now request token code session

/-! ## Look-up -/

theorem lookup_of_mem {ps : List Form.Pair} {name value : String}
    (hn : (ps.map Prod.fst).Nodup) (hm : (name, value) ∈ ps) : ps.lookup name = some value := by
  induction ps with
  | nil => exact absurd hm List.not_mem_nil
  | cons p ps ih =>
    obtain ⟨hnot, hn⟩ := List.nodup_cons.mp hn
    obtain rfl | hm := List.mem_cons.mp hm
    · simp
    · have hne : name ≠ p.1 := by
        rintro rfl
        exact hnot (List.mem_map.mpr ⟨_, hm, rfl⟩)
      rw [List.lookup_cons, beq_eq_false_iff_ne.mpr hne]
      exact ih hn hm

/-! ## Redirects -/

def answered (target : Url) (pairs : List Form.Pair) : Issued → Url
  | .code _ => target.appendQuery pairs
  | .token _ _ => target.setFragment pairs

def inFragment : Issued → Bool
  | .code _ => false
  | .token _ _ => true

theorem parse_success (status : RedirectStatus) (now : Timestamp) (ht : target.WellFormed)
    (request : Request) (issued : Issued) (session : Option String) :
    Url.parse (success status now target request issued session).uri.toList =
      if target.isReadable then
        .ok (answered target (successPairs now request session issued) issued).settled
      else .error .badDomain := by
  cases issued with
  | code code =>
    rw [answered, successPairs, ← Url.parse_appendQuery ht]
    simp [success, toString]
  | token token code =>
    rw [answered, successPairs, ← Url.parse_setFragment ht]
    simp [success, toString]

theorem queryPairs_answered (target : Url) (pairs : List Form.Pair) (issued : Issued) :
    (answered target pairs issued).queryPairs =
      if inFragment issued then target.queryPairs else target.queryPairs ++ pairs := by
  cases issued with
  | code code => exact Url.queryPairs_appendQuery target pairs
  | token token code => rfl

theorem fragmentPairs_answered (target : Url) (pairs : List Form.Pair) {issued : Issued}
    (h : inFragment issued = true) : (answered target pairs issued).fragmentPairs = pairs := by
  cases issued with
  | code code => cases h
  | token token code => exact Url.fragmentPairs_setFragment target pairs

theorem Delivers.of_parse {r : Redirect} {u : Url} {pairs : List Form.Pair} {inFragment : Bool}
    (names : (pairs.map Prod.fst).Nodup)
    (text : ∃ base, (base = target ∨ base = target.dropFragment) ∧
      r.uri = toString (placed base pairs inFragment))
    (parse : Url.parse r.uri.toList = if target.isReadable then .ok u else .error .badDomain)
    (query : u.queryPairs = if inFragment then target.queryPairs else target.queryPairs ++ pairs)
    (fragment : inFragment = true → u.fragmentPairs = pairs) : Delivers r target pairs inFragment where
  names := names
  text := text
  unread hr := by simp [parse, hr]
  read hr := ⟨u, by rw [parse, if_pos hr], query, fragment⟩
  parameter hr name value hm := by
    have hlookup := lookup_of_mem names hm
    rw [parameter?, parse, if_pos hr]
    dsimp only
    rw [query]
    cases inFragment with
    | false =>
      rw [if_neg (by simp), List.lookup_append, hlookup]
      cases target.queryPairs.lookup name <;> rfl
    | true =>
      rw [if_pos rfl, fragment rfl, hlookup]
      cases target.queryPairs.lookup name <;> rfl

theorem delivers_success (status : RedirectStatus) (now : Timestamp) (ht : target.WellFormed)
    (request : Request) (issued : Issued) (session : Option String) :
    Delivers (success status now target request issued session) target
      (successPairs now request session issued) (inFragment issued) := by
  have htext : (success status now target request issued session).uri =
      toString (placed target (successPairs now request session issued) (inFragment issued)) := by
    cases issued <;> rfl
  exact .of_parse (nodup_successPairs now request session issued) ⟨target, .inl rfl, htext⟩
    (parse_success status now ht request issued session)
    (queryPairs_answered target _ issued) (fragmentPairs_answered target _)

end ConsentGate.Redirect
