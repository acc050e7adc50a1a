import ConsentGate.Proofs.Pkce

namespace ConsentGate.Pkce

variable {service : Service} {history : List (String × Check)} {parameters : TextMap String}
  {names : List String} {method challenge value v : String} {check : Check}

/-! ## Shapes -/

theorem checkShape_of_length {onLength : Nat → Error} {onCharacters : Error}
    (h : value.length < 43 ∨ 128 < value.length) :
    checkShape value onLength onCharacters = .error (onLength value.length) := by
  rw [checkShape, if_pos h]

theorem checkShape_of_characters {onLength : Nat → Error} {onCharacters : Error}
    (hlower : 43 ≤ value.length) (hupper : value.length ≤ 128)
    (h : ∃ c ∈ value.toList, isUnreserved c = false) :
    checkShape value onLength onCharacters = .error onCharacters := by
  have hall : value.toList.all isUnreserved = false := by
    obtain ⟨c, hc, hreserved⟩ := h
    exact List.all_eq_false.mpr ⟨c, hc, by simp [hreserved]⟩
  rw [checkShape, if_neg (by omega), hall]
  rfl

/-- What has a fault of shape, and which. -/
inductive Misshapen (v : String) : Error → Prop
  | length (h : v.length < 43 ∨ 128 < v.length) : Misshapen v (.verifierLength v.length)
  | characters (hlower : 43 ≤ v.length) (hupper : v.length ≤ 128)
    (h : ∃ c ∈ v.toList, isUnreserved c = false) : Misshapen v .verifierCharacters

theorem exists_misshapen (h : ¬ WellFormed v) : ∃ fault, Misshapen v fault := by
  by_cases hlength : v.length < 43 ∨ 128 < v.length
  · exact ⟨_, .length hlength⟩
  · have hlower : 43 ≤ v.length := by omega
    have hupper : v.length ≤ 128 := by omega
    refine ⟨_, .characters hlower hupper ?_⟩
    by_contra hall
    refine h ⟨hlower, hupper, fun c hc => ?_⟩
    by_contra hreserved
    exact hall ⟨c, hc, by simpa using hreserved⟩

theorem Misshapen.checkShape {fault : Error} (h : Misshapen v fault) :
    checkShape v .verifierLength .verifierCharacters = .error fault := by
  cases h with
  | length h => exact checkShape_of_length h
  | characters hlower hupper h => exact checkShape_of_characters hlower hupper h

/-! ## Registration -/

def builtins (names : List String) : List (String × Check) :=
  names.filterMap fun name => (builtin? name).map (name, ·)

/-- How a service comes about, and what was registered for it, in order. -/
inductive Registered : Service → List (String × Check) → Prop
  | ofChecks (checks : List (String × Check)) : Registered (.ofChecks checks) checks
  | ofMethods {names : List String} {service : Service} (h : Service.ofMethods names = .ok service) :
    Registered service (builtins names)
  | withCheck {service : Service} {history : List (String × Check)} (h : Registered service history)
    (method : String) (check : Check) :
    Registered (service.withCheck method check) (history ++ [(method, check)])

/-- The check that was registered last for a method. -/
def IsLast (history : List (String × Check)) (method : String) (check : Check) : Prop :=
  ∃ before after, history = before ++ (method, check) :: after ∧ ∀ e ∈ after, e.1 ≠ method

theorem builtins_eq {checks : List (String × Check)} (h : ∀ e ∈ checks, builtin? e.1 = some e.2) :
    builtins (checks.map Prod.fst) = checks := by
  induction checks with
  | nil => rfl
  | cons e checks ih =>
    obtain ⟨he, hrest⟩ := List.forall_mem_cons.mp h
    have hrest := ih hrest
    rw [builtins] at hrest
    simp [builtins, he, hrest]

theorem eq_ofChecks_of_ofMethods (h : Service.ofMethods names = .ok service) :
    service = .ofChecks (builtins names) := by
  obtain ⟨checks, hchecks, hservice⟩ := bind_eq_ok.mp h
  obtain ⟨rfl, hall⟩ := Service.checks_of_mapM hchecks
  rw [builtins_eq hall]
  exact (Except.ok.inj hservice).symm

theorem withCheck_ofChecks (history : List (String × Check)) (method : String) (check : Check) :
    (Service.ofChecks history).withCheck method check =
      .ofChecks (history ++ [(method, check)]) := by
  simp [Service.ofChecks, Service.withCheck, TextMap.ofList]

/-- What was registered is all that counts. -/
theorem Registered.eq_ofChecks (h : Registered service history) : service = .ofChecks history := by
  induction h with
  | ofChecks checks => rfl
  | ofMethods h => exact eq_ofChecks_of_ofMethods h
  | withCheck h method check ih => rw [ih, withCheck_ofChecks]

theorem Registered.get?_iff (h : Registered service history) :
    service.checks.get? method = some check ↔ IsLast history method check := by
  rw [h.eq_ofChecks, Service.ofChecks, TextMap.get?_ofList, List.lookup_eq_some_iff]
  constructor
  · rintro ⟨after, before, heq, hafter⟩
    refine ⟨before.reverse, after.reverse, ?_, fun e he heq => ?_⟩
    · rw [← List.reverse_reverse history, heq]
      simp
    · simpa [heq] using hafter e (List.mem_reverse.mp he)
  · rintro ⟨before, after, rfl, hafter⟩
    refine ⟨after.reverse, before.reverse, by simp, fun e he => ?_⟩
    have hne := hafter e (List.mem_reverse.mp he)
    simpa using hne.symm

/-! ## Request and exchange -/

theorem supports_of_validateParameters (h : service.validateParameters parameters = .ok ())
    (hchallenge : parameters.get? "code_challenge" = some challenge) :
    service.supports (challengeMethod parameters) = true := by
  by_contra hmissing
  rw [Bool.not_eq_true, challengeMethod] at hmissing
  cases hmethod : parameters.get? "code_challenge_method" with
  | none =>
    rw [hmethod, Option.getD_none] at hmissing
    simp only [Service.validateParameters, hchallenge, hmethod, hmissing] at h
    obtain ⟨_, _, h⟩ := bind_eq_ok.mp h
    cases h
  | some method =>
    rw [hmethod, Option.getD_some] at hmissing
    simp only [Service.validateParameters, hchallenge, hmethod, hmissing] at h
    obtain ⟨_, h, _⟩ := bind_eq_ok.mp h
    cases h

theorem exists_check_of_supports (h : service.supports method = true) :
    ∃ check, service.checks.get? method = some check :=
  Option.isSome_iff_exists.mp h

theorem checkExchange_misshapen {fault : Error}
    (hchallenge : parameters.get? "code_challenge" = some challenge) (hv : Misshapen v fault) :
    service.checkExchange parameters (some v) = .error fault := by
  simp only [Service.checkExchange, hchallenge, hv.checkShape]
  rfl

theorem checkExchange_of_no_challenge (h : parameters.get? "code_challenge" = none) :
    service.checkExchange parameters none = .ok true ∧
      ∀ v, service.checkExchange parameters (some v) = .error .unexpectedVerifier :=
  ⟨by simp [Service.checkExchange, h], fun v => by simp [Service.checkExchange, h]⟩

/-- Parameters that pass at the request are decided at the exchange. With a challenge, the check that was
registered last for its method decides on each well-formed verifier, others are faults, and nothing else
passes. Without one the exchange passes, unless there is a verifier. -/
theorem exchange_decided (service : Service) (history : List (String × Check))
    (parameters : TextMap String) (hregistered : Registered service history)
    (hvalid : service.validateParameters parameters = .ok ()) :
    (∀ challenge, parameters.get? "code_challenge" = some challenge →
      service.supports (challengeMethod parameters) = true ∧
      service.checkExchange parameters none = .error .missingVerifier ∧
      (∀ v, ¬ WellFormed v → ∃ fault, Misshapen v fault ∧
        service.checkExchange parameters (some v) = .error fault) ∧
      (∃ check, IsLast history (challengeMethod parameters) check ∧ ∀ v, WellFormed v →
        service.checkExchange parameters (some v) = .ok (check v challenge)) ∧
      ∀ verifier, service.checkExchange parameters verifier = .ok true →
        ∃ v check, verifier = some v ∧ WellFormed v ∧
          IsLast history (challengeMethod parameters) check ∧ check v challenge = true) ∧
    (parameters.get? "code_challenge" = none →
      service.checkExchange parameters none = .ok true ∧
      ∀ v, service.checkExchange parameters (some v) = .error .unexpectedVerifier) := by
  refine ⟨fun challenge hchallenge => ?_, checkExchange_of_no_challenge⟩
  have hsupports := supports_of_validateParameters hvalid hchallenge
  obtain ⟨check, hcheck⟩ := exists_check_of_supports hsupports
  have hlast := hregistered.get?_iff.mp hcheck
  have hnone : service.checkExchange parameters none = .error .missingVerifier :=
    Service.checkExchange_none hchallenge
  have hfault : ∀ v, ¬ WellFormed v → ∃ fault, Misshapen v fault ∧
      service.checkExchange parameters (some v) = .error fault := by
    intro v hv
    obtain ⟨fault, hfault⟩ := exists_misshapen hv
    exact ⟨fault, hfault, checkExchange_misshapen hchallenge hfault⟩
  have hdecides : ∀ v, WellFormed v →
      service.checkExchange parameters (some v) = .ok (check v challenge) := fun v hv =>
    Service.checkExchange_wellFormed hchallenge hcheck hv
  refine ⟨hsupports, hnone, hfault, ⟨check, hlast, hdecides⟩, fun verifier hpasses => ?_⟩
  cases verifier with
  | none => cases hnone.symm.trans hpasses
  | some v =>
    by_cases hv : WellFormed v
    · exact ⟨v, check, rfl, hv, hlast, Except.ok.inj ((hdecides v hv).symm.trans hpasses)⟩
    · obtain ⟨fault, _, hrefused⟩ := hfault v hv
      cases hrefused.symm.trans hpasses

def backwards : Check := fun verifier challenge => verifier.toList.reverse == challenge.toList

/-- A check that takes the place of a built-in one is the one that decides. -/
theorem exchange_decided_backwards :
    let service := Service.standard.withCheck "plain" backwards
    let parameters : TextMap String :=
      .ofList [("code_challenge", "kXjEOFWFg1Ww_r1p1UJUbhu72K29Bm-PVC4ZeJtfjBd")]
    service.validateParameters parameters = .ok () ∧
      service.checkExchange parameters (some "dBjftJeZ4CVP-mB92K27uhbUJU1p1r_wW1gFWFOEjXk") = .ok true ∧
      service.checkExchange parameters (some "kXjEOFWFg1Ww_r1p1UJUbhu72K29Bm-PVC4ZeJtfjBd") = .ok false ∧
      service.checkExchange parameters none = .error .missingVerifier := by
  intro service parameters
  have hregistered : Registered service _ := .withCheck (.ofChecks _) "plain" backwards
  have hvalid : service.validateParameters parameters = .ok () := by decide +kernel
  obtain ⟨_, hnone, _, ⟨check, hlast, hdecides⟩, _⟩ :=
    (exchange_decided service _ parameters hregistered hvalid).1 _ rfl
  have hcheck : some backwards = some check := hregistered.get?_iff.mpr hlast
  obtain rfl := Option.some.inj hcheck
  have hshape : ∀ v ∈ ["dBjftJeZ4CVP-mB92K27uhbUJU1p1r_wW1gFWFOEjXk",
      "kXjEOFWFg1Ww_r1p1UJUbhu72K29Bm-PVC4ZeJtfjBd"],
      (43 ≤ v.length ∧ v.length ≤ 128) ∧ v.toList.all isUnreserved = true := by decide +kernel
  have hwell : ∀ v ∈ ["dBjftJeZ4CVP-mB92K27uhbUJU1p1r_wW1gFWFOEjXk",
      "kXjEOFWFg1Ww_r1p1UJUbhu72K29Bm-PVC4ZeJtfjBd"], WellFormed v := fun v hv =>
    ⟨(hshape v hv).1.1, (hshape v hv).1.2, List.all_eq_true.mp (hshape v hv).2⟩
  refine ⟨hvalid, ?_, ?_, hnone⟩
  · rw [hdecides _ (hwell _ (by simp))]
    decide +kernel
  · rw [hdecides _ (hwell _ (by simp))]
    decide +kernel

end ConsentGate.Pkce
