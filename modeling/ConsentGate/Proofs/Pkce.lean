import ConsentGate.Pkce
import ConsentGate.Proofs.Collection.Reading
import ConsentGate.Proofs.Collection.TextMap
import ConsentGate.Proofs.Text.Base64Url

namespace ConsentGate

namespace Pkce

/-- What can serve as a challenge or as a verifier. -/
structure WellFormed (value : String) : Prop where
  lower : 43 ≤ value.length
  upper : value.length ≤ 128
  unreserved : ∀ c ∈ value.toList, isUnreserved c = true

theorem WellFormed.checkShape {value : String} (h : WellFormed value) (onLength : Nat → Error)
    (onCharacters : Error) : checkShape value onLength onCharacters = .ok () := by
  have hlower := h.lower
  have hupper := h.upper
  have hall : value.toList.all isUnreserved = true := List.all_eq_true.mpr h.unreserved
  rw [Pkce.checkShape, if_neg (by omega), hall]
  rfl

def digest (verifier : String) : List UInt8 :=
  Sha256.digest (Text.Utf8.encode verifier.toList)

theorem length_challengeS256 (verifier : String) : (challengeS256 verifier).length = 43 := by
  simp [challengeS256, Text.Base64Url.length_encode, Sha256.length_digest]

theorem isUnreserved_of_mem_challengeS256 {verifier : String} {c : Char}
    (h : c ∈ (challengeS256 verifier).toList) : isUnreserved c = true := by
  rw [challengeS256, String.toList_ofList] at h
  obtain h | rfl | rfl := Text.Base64Url.mem_encode h
  · simp [isUnreserved, h]
  · decide
  · decide

theorem wellFormed_challengeS256 (verifier : String) : WellFormed (challengeS256 verifier) where
  lower := by simp [length_challengeS256]
  upper := by simp [length_challengeS256]
  unreserved _ := isUnreserved_of_mem_challengeS256

theorem challengeS256_eq_iff {a b : String} :
    challengeS256 a = challengeS256 b ↔ digest a = digest b := by
  refine ⟨fun h => ?_, fun h => congrArg (String.ofList ∘ Text.Base64Url.encode) h⟩
  have hencode := congrArg String.toList h
  rw [challengeS256, challengeS256, String.toList_ofList, String.toList_ofList] at hencode
  exact Text.Base64Url.encode_inj hencode

theorem challengeS256_beq (a b : String) :
    (challengeS256 a == challengeS256 b) = decide (digest a = digest b) := by
  rw [Bool.eq_iff_iff, beq_iff_eq, decide_eq_true_iff]
  exact challengeS256_eq_iff

theorem head?_append {a b : String} {c : Char} (h : a.toList.head? = some c) :
    (a ++ b).toList.head? = some c := by
  rw [String.toList_append, List.head?_append, h]
  rfl

theorem Error.head?_message (fault : Error) : fault.message.toList.head? = some 'I' ∨
    fault.message.toList.head? = some 'U' ∨ fault.message.toList.head? = some 'c' := by
  cases fault with
  | challengeLength n => exact .inl (head?_append (by decide +kernel))
  | challengeCharacters => exact .inl (by decide +kernel)
  | verifierLength n => exact .inl (head?_append (by decide +kernel))
  | verifierCharacters => exact .inl (by decide +kernel)
  | unsupportedMethod method => exact .inr (.inl (head?_append (by decide +kernel)))
  | missingVerifier | unexpectedVerifier => exact .inr (.inr (by decide +kernel))

theorem Error.message_ne (fault : Error) :
    fault.message ≠ AuthError.missingResponseType.description := by
  intro h
  have hmissing : AuthError.missingResponseType.description.toList.head? = some 'A' := by
    decide +kernel
  have hhead := fault.head?_message
  rw [h, hmissing] at hhead
  simp at hhead

inductive Method where
  | plain
  | s256
  deriving DecidableEq

namespace Method

def name : Method → String
  | .plain => "plain"
  | .s256 => "S256"

def challenge : Method → String → String
  | .plain, verifier => verifier
  | .s256, verifier => challengeS256 verifier

theorem builtin?_name (method : Method) :
    builtin? method.name = some fun verifier challenge => method.challenge verifier == challenge := by
  cases method <;> rfl

theorem wellFormed_challenge (method : Method) {verifier : String} (h : WellFormed verifier) :
    WellFormed (method.challenge verifier) := by
  cases method with
  | plain => exact h
  | s256 => exact wellFormed_challengeS256 verifier

end Method

/-- Parameters carry the challenge of a verifier, by a method. The method `plain` may be left out. -/
structure Carries (parameters : TextMap String) (method : Method) (verifier : String) : Prop where
  challenge : parameters.get? "code_challenge" = some (method.challenge verifier)
  method : parameters.get? "code_challenge_method" = some method.name ∨
    parameters.get? "code_challenge_method" = none ∧ method = .plain

variable {service : Service} {names : List String} {parameters : TextMap String} {method : Method}
  {verifier other : String}

theorem Carries.challengeMethod_eq (h : Carries parameters method verifier) :
    challengeMethod parameters = method.name := by
  obtain hmethod | ⟨hmethod, rfl⟩ := h.method
  · simp [challengeMethod, hmethod]
  · simp [challengeMethod, hmethod, Method.name]

namespace Service

theorem checks_of_mapM {checks : List (String × Check)}
    (h : names.mapM (fun method => match builtin? method with
      | some check => Except.ok (method, check)
      | none => .error (SettingsError.invalidValue ("Invalid PKCE method: '" ++ method ++ "'"))) =
        .ok checks) :
    checks.map Prod.fst = names ∧ ∀ e ∈ checks, builtin? e.1 = some e.2 := by
  induction names generalizing checks with
  | nil =>
    obtain rfl := Except.ok.inj h
    exact ⟨rfl, by simp⟩
  | cons name names ih =>
    obtain ⟨e, rest, he, hrest, rfl⟩ := mapM_cons_ok h
    obtain ⟨hnames, hall⟩ := ih hrest
    split at he
    · next check hcheck =>
      obtain rfl := Except.ok.inj he
      exact ⟨by rw [List.map_cons, hnames], List.forall_mem_cons.mpr ⟨hcheck, hall⟩⟩
    · cases he

/-- What is issued for parameters can be had with one verifier. No other serves, but by `S256` one with
the same digest. -/
structure OpensWith (service : Service) (parameters : TextMap String) (method : Method)
    (verifier : String) : Prop where
  own : service.checkExchange parameters (some verifier) = .ok true
  absent : service.checkExchange parameters none = .error .missingVerifier
  plain : method = .plain → ∀ other, WellFormed other → other ≠ verifier →
    service.checkExchange parameters (some other) = .ok false
  s256 : method = .s256 → ∀ other, WellFormed other → other ≠ verifier →
    service.checkExchange parameters (some other) = .ok (decide (digest other = digest verifier))

theorem checkExchange_none {challenge : String}
    (hchallenge : parameters.get? "code_challenge" = some challenge) :
    service.checkExchange parameters none = .error .missingVerifier := by
  simp [checkExchange, hchallenge]

/-- The check of the challenge's method decides on what can serve as a verifier. -/
theorem checkExchange_wellFormed {challenge : String} {check : Check}
    (hchallenge : parameters.get? "code_challenge" = some challenge)
    (hcheck : service.checks.get? (challengeMethod parameters) = some check)
    (hother : WellFormed other) :
    service.checkExchange parameters (some other) = .ok (check other challenge) := by
  simp [checkExchange, hchallenge, hother.checkShape, verify, hcheck]

theorem get?_of_ofMethods {name : String} {check : Check} (h : ofMethods names = .ok service) :
    service.checks.get? name = some check ↔ name ∈ names ∧ builtin? name = some check := by
  obtain ⟨checks, hchecks, hservice⟩ := bind_eq_ok.mp h
  obtain rfl := Except.ok.inj hservice
  obtain ⟨rfl, hall⟩ := checks_of_mapM hchecks
  constructor
  · intro hget
    have hmem := TextMap.mem_of_get?_ofList hget
    exact ⟨List.mem_map_of_mem hmem, hall _ hmem⟩
  · rintro ⟨hmem, hbuiltin⟩
    exact (TextMap.get?_ofList_of_forall hall hmem).trans hbuiltin

theorem check_of_ofMethods (h : ofMethods names = .ok service) (hmethod : method.name ∈ names) :
    service.checks.get? method.name =
      some fun verifier challenge => method.challenge verifier == challenge :=
  (get?_of_ofMethods h).mpr ⟨hmethod, method.builtin?_name⟩

variable (hcheck : service.checks.get? method.name =
  some fun verifier challenge => method.challenge verifier == challenge)
include hcheck

theorem supports_name : service.supports method.name = true := by
  rw [supports, TextMap.contains, hcheck]
  rfl

theorem validateParameters_carries (hverifier : WellFormed verifier)
    (hcarries : Carries parameters method verifier) :
    service.validateParameters parameters = .ok () := by
  have hsupports := supports_name hcheck
  have hshape := (method.wellFormed_challenge hverifier).checkShape
  unfold validateParameters
  rw [hcarries.challenge]
  obtain hmethod | ⟨hmethod, rfl⟩ := hcarries.method
  · simp [hmethod, hsupports, hshape]
  · simp only [Method.name] at hsupports
    simp [hmethod, hsupports, hshape]

theorem checkExchange_some (hcarries : Carries parameters method verifier)
    (hother : WellFormed other) : service.checkExchange parameters (some other) =
      .ok (method.challenge other == method.challenge verifier) := by
  rw [← hcarries.challengeMethod_eq] at hcheck
  exact checkExchange_wellFormed hcarries.challenge hcheck hother

theorem opensWith_of_carries (hverifier : WellFormed verifier)
    (hcarries : Carries parameters method verifier) :
    service.OpensWith parameters method verifier where
  own := by
    rw [checkExchange_some hcheck hcarries hverifier, beq_self_eq_true]
  absent := checkExchange_none hcarries.challenge
  plain := by
    rintro rfl other hother hne
    rw [checkExchange_some hcheck hcarries hother]
    exact congrArg Except.ok (beq_eq_false_iff_ne.mpr hne)
  s256 := by
    rintro rfl other hother hne
    rw [checkExchange_some hcheck hcarries hother]
    exact congrArg Except.ok (challengeS256_beq other verifier)

end Service

end Pkce

end ConsentGate
