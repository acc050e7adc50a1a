import ConsentGate.Endpoint
import ConsentGate.Proofs.Pkce

namespace ConsentGate

/-! ## Settings that pass -/

namespace EndpointSettings

structure Valid (s : EndpointSettings) : Prop where
  grantTypes : s.redirect.grantTypes ≠ []
  methods : ∀ method ∈ s.pkce.methods, method = "plain" ∨ method = "S256"
  parameter : s.approval.parameter ≠ ""
  scopeLead : s.approval.scopeLead ≠ ""
  capacity : s.events.enabled = true → s.events.capacity ≠ 0

theorem validate_iff {s : EndpointSettings} : s.validate = .ok () ↔ s.Valid := by
  have hmethods : s.pkce.methods.find? (fun m => !(m == "plain" || m == "S256")) = none ↔
      ∀ method ∈ s.pkce.methods, method = "plain" ∨ method = "S256" := by
    simp [List.find?_eq_none, or_iff_not_imp_left]
  constructor
  · intro h
    unfold validate at h
    split at h
    · cases h
    next hgrants =>
    split at h
    · cases h
    next hnone =>
    split at h
    · cases h
    next hparameter =>
    split at h
    · cases h
    next hlead =>
    split at h
    · cases h
    next hcapacity =>
    exact ⟨by simpa using hgrants, hmethods.mp hnone, by simpa using hparameter, by simpa using hlead,
      by simpa using hcapacity⟩
  · intro h
    have hgrants : s.redirect.grantTypes.isEmpty = false := by simpa using h.grantTypes
    have hcapacity : (s.events.enabled && s.events.capacity == 0) = false := by
      simpa using h.capacity
    rw [validate, hgrants, hmethods.mpr h.methods, hcapacity]
    simp [h.parameter, h.scopeLead]

end EndpointSettings

/-! ## The parts of an endpoint -/

namespace Pkce.Service

variable {names : List String} {service : Service} {name : String}

theorem isSome_builtin? : (builtin? name).isSome = true ↔ name = "plain" ∨ name = "S256" := by
  unfold builtin?
  split <;> simp_all

theorem exists_ofMethods (h : ∀ name ∈ names, name = "plain" ∨ name = "S256") :
    ∃ service, ofMethods names = .ok service := by
  unfold ofMethods
  refine exists_bind_ok (exists_mapM_ok fun name hname => ?_) fun checks => ⟨.ofChecks checks, rfl⟩
  obtain ⟨check, hcheck⟩ := Option.isSome_iff_exists.mp (isSome_builtin?.mpr (h name hname))
  exact ⟨(name, check), by rw [hcheck]⟩

theorem supports_of_ofMethods (hnames : ∀ name ∈ names, name = "plain" ∨ name = "S256")
    (h : ofMethods names = .ok service) : service.supports name = true ↔ name ∈ names := by
  rw [supports, TextMap.contains, Option.isSome_iff_exists]
  constructor
  · rintro ⟨check, hcheck⟩
    exact ((get?_of_ofMethods h).mp hcheck).1
  · intro hname
    obtain ⟨check, hcheck⟩ := Option.isSome_iff_exists.mp (isSome_builtin?.mpr (hnames name hname))
    exact ⟨check, (get?_of_ofMethods h).mpr ⟨hname, hcheck⟩⟩

end Pkce.Service

/-- Tells the settings that ask for a channel which can be made. Where nothing is published none is. -/
def EventSettings.HasRoom (s : EventSettings) : Prop :=
  s.enabled = true → s.capacity ≤ Broadcaster.maxCapacity

theorem Broadcaster.ofSettings?_eq_none {α : Type} {s : EventSettings} :
    (ofSettings? s : Option (Broadcaster α)) = none ↔
      s.enabled = true ∧ (s.capacity = 0 ∨ maxCapacity < s.capacity) := by
  unfold ofSettings? ofCapacity?
  cases s.enabled <;> simp [or_iff_not_imp_left]

namespace Endpoint

variable {s : EndpointSettings} {fits : String → Bool} {e : Endpoint} {events : Broadcaster Event}

/-- What an endpoint and its channel have from the settings that they are built from. -/
structure Follows (e : Endpoint) (events : Broadcaster Event) (s : EndpointSettings)
    (fits : String → Bool) : Prop where
  redirect : e.redirect = s.redirect
  approval : e.approval = s.approval
  supports : ∀ method, e.pkce.supports method = true ↔ method ∈ s.pkce.methods
  checks : ∀ method ∈ s.pkce.methods, e.pkce.checks.get? method = Pkce.builtin? method
  channel : Broadcaster.ofSettings? s.events = some events
  fits : e.fits = fits

theorem ofSettings_ok (h : ofSettings s fits = .ok (e, events)) :
    s.validate = .ok () ∧ Pkce.Service.ofMethods s.pkce.methods = .ok e.pkce ∧
      Broadcaster.ofSettings? s.events = some events ∧ e = ⟨s.redirect, s.approval, e.pkce, fits⟩ := by
  unfold ofSettings at h
  split at h
  · cases h
  · cases h
  next hvalid hpkce =>
  split at h
  · next hevents =>
    cases h
    exact ⟨hvalid, hpkce, hevents, rfl⟩
  · cases h

theorem follows_of_ofSettings (h : ofSettings s fits = .ok (e, events)) : Follows e events s fits := by
  obtain ⟨hvalid, hpkce, hevents, he⟩ := ofSettings_ok h
  have hmethods := (EndpointSettings.validate_iff.mp hvalid).methods
  refine ⟨by rw [he], by rw [he], fun method => Pkce.Service.supports_of_ofMethods hmethods hpkce,
    fun method hmem => ?_, hevents, by rw [he]⟩
  obtain ⟨check, hcheck⟩ :=
    Option.isSome_iff_exists.mp (Pkce.Service.isSome_builtin?.mpr (hmethods method hmem))
  rw [hcheck]
  exact (Pkce.Service.get?_of_ofMethods hpkce).mpr ⟨hmem, hcheck⟩

theorem channel_eq_none (hvalid : s.validate = .ok ()) :
    (Broadcaster.ofSettings? s.events : Option (Broadcaster Event)) = none ↔ ¬ s.events.HasRoom := by
  have hcapacity := (EndpointSettings.validate_iff.mp hvalid).capacity
  rw [Broadcaster.ofSettings?_eq_none, EventSettings.HasRoom, Classical.not_imp, Nat.not_le]
  exact and_congr_right fun henabled => or_iff_right (hcapacity henabled)

theorem exists_ofSettings (hvalid : s.validate = .ok ()) (hroom : s.events.HasRoom) :
    ∃ e events, ofSettings s fits = .ok (e, events) := by
  obtain ⟨pkce, hpkce⟩ :=
    Pkce.Service.exists_ofMethods (EndpointSettings.validate_iff.mp hvalid).methods
  cases hevents : (Broadcaster.ofSettings? s.events : Option (Broadcaster Event)) with
  | none => exact absurd hroom ((channel_eq_none hvalid).mp hevents)
  | some events =>
    exact ⟨⟨s.redirect, s.approval, pkce, fits⟩, events, by simp [ofSettings, hvalid, hpkce, hevents]⟩

theorem ofSettings_of_not_hasRoom (hvalid : s.validate = .ok ()) (hroom : ¬ s.events.HasRoom) :
    ofSettings s fits = .error .capacity := by
  obtain ⟨pkce, hpkce⟩ :=
    Pkce.Service.exists_ofMethods (EndpointSettings.validate_iff.mp hvalid).methods
  simp [ofSettings, hvalid, hpkce, (channel_eq_none hvalid).mpr hroom]

/-- Settings that do not pass are refused for the fault that was found. Those that pass build an endpoint
that has all it is from them, and supports just the methods that they name, if and only if there is room for
the events that they ask for. Without room there is no endpoint. -/
theorem ofSettings_of_validate (s : EndpointSettings) (fits : String → Bool) :
    (∀ error, s.validate = .error error → ofSettings s fits = .error (.settings error)) ∧
    (s.validate = .ok () →
      (s.events.HasRoom → ∃ e events, ofSettings s fits = .ok (e, events) ∧ Follows e events s fits) ∧
      (¬ s.events.HasRoom → ofSettings s fits = .error .capacity)) := by
  refine ⟨fun error herror => by simp [ofSettings, herror], fun hvalid => ⟨fun hroom => ?_, ?_⟩⟩
  · obtain ⟨e, events, hbuilt⟩ := exists_ofSettings hvalid hroom
    exact ⟨e, events, hbuilt, follows_of_ofSettings hbuilt⟩
  · exact ofSettings_of_not_hasRoom hvalid

def doubled : EndpointSettings where
  pkce := { methods := ["S256", "S256"] }
  events := { capacity := 1000 }

theorem ofSettings_of_validate_doubled : doubled.validate = .ok () ∧ doubled.events.HasRoom ∧
    ∃ e events, ofSettings doubled = .ok (e, events) ∧ Follows e events doubled Glob.isSmall := by
  have hvalid : doubled.validate = .ok () := by decide +kernel
  have hroom : doubled.events.HasRoom := fun _ => by decide +kernel
  exact ⟨hvalid, hroom, ((ofSettings_of_validate doubled _).2 hvalid).1 hroom⟩

def overfull : EndpointSettings where
  events := { capacity := 2 ^ 63 }

/-- Settings may pass and build no endpoint. -/
theorem ofSettings_overfull : overfull.validate = .ok () ∧ overfull.events.capacity < 2 ^ 64 ∧
    ofSettings overfull = .error .capacity := by
  have hvalid : overfull.validate = .ok () := by decide +kernel
  have hroom : ¬ overfull.events.HasRoom := fun h => absurd (h rfl) (by decide +kernel)
  exact ⟨hvalid, by decide +kernel, ofSettings_of_not_hasRoom hvalid hroom⟩

end Endpoint

end ConsentGate
