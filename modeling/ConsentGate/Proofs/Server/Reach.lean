import ConsentGate.Proofs.Collection.Reading
import ConsentGate.Proofs.Server.Run
import ConsentGate.Proofs.Timestamp

namespace ConsentGate

namespace Timestamp

variable {t : Timestamp}

/-- No age is cut short that a clock in these years could take. -/
theorem IsReading.before?_iff (h : t.IsReading) (n : Nat) :
    (t.before? (ServiceSettings.seconds n)).isSome ↔
      (n : Int) * 1000000000 ≤ t.instant - firstInstant := by
  obtain ⟨hfirst, hlast⟩ := h.instant_bounds
  rw [lastInstant_eq] at hlast
  rw [before?, earlier?, firstInstant_eq, lastInstant_eq, Option.isSome_ite,
    ServiceSettings.seconds, ServiceSettings.maxSeconds]
  omega

end Timestamp

namespace Server

/-- Tells that a tick forgets what it should of both stores. -/
def TickCompletes (s : Server) (settings : SnapshotSettings) (now : Timestamp)
    (state : ServerState) : Prop :=
  ∃ n left m kept,
    cleanupSnapshots? now (ServiceSettings.seconds settings.maxAge) state = some (n, left) ∧
      s.cleanupCodes? now left = some (m, kept) ∧ s.tick now settings state = kept

def RedeemsComplete (s : Server) (now : Timestamp) (state : ServerState) : Prop :=
  ∀ code, (s.redeem? now state code).isSome

variable {s : Server} {settings : SnapshotSettings} {now : Timestamp} {state : ServerState}

theorem isSome_cleanupSnapshots (age : Int) (state : ServerState) :
    (cleanupSnapshots? now age state).isSome ↔ (now.before? age).isSome := by
  simp [cleanupSnapshots?, SnapshotStore.cleanup?]

theorem isSome_cleanupCodes (state : ServerState) :
    (s.cleanupCodes? now state).isSome ↔ (now.before? s.codeMaxAge).isSome := by
  simp [cleanupCodes?, CodeStore.cleanup?, CodeStore.cleanupWithin?, Timestamp.before?]

theorem redeemsComplete_iff :
    RedeemsComplete s now state ↔ (now.before? s.codeMaxAge).isSome := by
  simp [RedeemsComplete, redeem?, CodeStore.redeem?, CodeStore.redeemWithin?, Timestamp.before?]

theorem tickCompletes_iff (hinterval : settings.cleanupInterval ≠ 0) :
    TickCompletes s settings now state ↔
      (now.before? (ServiceSettings.seconds settings.maxAge)).isSome ∧
        (now.before? s.codeMaxAge).isSome := by
  constructor
  · rintro ⟨n, left, m, kept, hsnapshots, hcodes, _⟩
    exact ⟨(isSome_cleanupSnapshots _ state).mp (Option.isSome_of_eq_some hsnapshots),
      (isSome_cleanupCodes left).mp (Option.isSome_of_eq_some hcodes)⟩
  · rintro ⟨hsnapshots, hcodes⟩
    obtain ⟨⟨n, left⟩, hleft⟩ :=
      Option.isSome_iff_exists.mp ((isSome_cleanupSnapshots _ state).mpr hsnapshots)
    obtain ⟨⟨m, kept⟩, hkept⟩ :=
      Option.isSome_iff_exists.mp ((isSome_cleanupCodes left).mpr hcodes)
    refine ⟨n, left, m, kept, hleft, hkept, ?_⟩
    rw [tick, if_neg hinterval, hleft]
    simp [hkept]

theorem codeMaxAge_of_ofSettings {settings : ServiceSettings} {fits : String → Bool}
    (h : ofSettings settings fits = .ok s) :
    s.codeMaxAge = ServiceSettings.seconds settings.codeMaxAge := by
  obtain ⟨built, _, rfl⟩ := map_eq_ok.mp h
  rfl

/-- The first second of the year 1970 has the shortest way back. -/
def epoch : Timestamp := ⟨1970, 1, 1, 0, 0, 0, 0, 0⟩

theorem isReading_epoch : epoch.IsReading := by
  constructor <;> decide

theorem forall_reached_iff (n : Nat) :
    (∀ now : Timestamp, now.IsReading →
      (n : Int) * 1000000000 ≤ now.instant - Timestamp.firstInstant) ↔ n ≤ 377705116800 := by
  rw [Timestamp.firstInstant_eq]
  constructor
  · intro h
    have hepoch := h epoch isReading_epoch
    have hzero : epoch.instant = 0 := by decide
    omega
  · intro h now hnow
    have hbound := hnow.instant_bounds.1
    omega

/-- At a time in the years 1970 to 9999, a tick completes exactly if the clock reaches back by both of the
configured ages, and redemptions complete exactly if it does so by that of codes. At all these times they
complete exactly if neither age is longer than the 377705116800 seconds from the year -9999 to 1970. -/
theorem completes_iff_reached (settings : ServiceSettings) {fits : String → Bool}
    (hvalid : settings.validate fits = .ok ()) (s : Server) (hs : ofSettings settings fits = .ok s) :
    (∀ now, now.IsReading → ∀ inputs,
      (TickCompletes s settings.snapshots now (s.run inputs) ↔
        settings.snapshots.maxAge * 1000000000 ≤ now.instant - Timestamp.firstInstant ∧
          settings.codeMaxAge * 1000000000 ≤ now.instant - Timestamp.firstInstant) ∧
      (RedeemsComplete s now (s.run inputs) ↔
        settings.codeMaxAge * 1000000000 ≤ now.instant - Timestamp.firstInstant)) ∧
    ((∀ now, now.IsReading → ∀ inputs, TickCompletes s settings.snapshots now (s.run inputs) ∧
        RedeemsComplete s now (s.run inputs)) ↔
      settings.snapshots.maxAge ≤ 377705116800 ∧ settings.codeMaxAge ≤ 377705116800) := by
  have hinterval := (ServiceSettings.validate_ok hvalid).2.1
  have htick : ∀ now, now.IsReading → ∀ inputs,
      (TickCompletes s settings.snapshots now (s.run inputs) ↔
        settings.snapshots.maxAge * 1000000000 ≤ now.instant - Timestamp.firstInstant ∧
          settings.codeMaxAge * 1000000000 ≤ now.instant - Timestamp.firstInstant) := by
    intro now hnow inputs
    rw [tickCompletes_iff hinterval, codeMaxAge_of_ofSettings hs, hnow.before?_iff, hnow.before?_iff]
  have hredeem : ∀ now, now.IsReading → ∀ inputs, (RedeemsComplete s now (s.run inputs) ↔
      settings.codeMaxAge * 1000000000 ≤ now.instant - Timestamp.firstInstant) := by
    intro now hnow inputs
    rw [redeemsComplete_iff, codeMaxAge_of_ofSettings hs, hnow.before?_iff]
  refine ⟨fun now hnow inputs => ⟨htick now hnow inputs, hredeem now hnow inputs⟩, ?_⟩
  rw [← forall_reached_iff, ← forall_reached_iff]
  constructor
  · intro h
    exact ⟨fun now hnow => ((htick now hnow []).mp (h now hnow []).1).1,
      fun now hnow => ((htick now hnow []).mp (h now hnow []).1).2⟩
  · rintro ⟨hsnapshots, hcodes⟩ now hnow inputs
    exact ⟨(htick now hnow inputs).mpr ⟨hsnapshots now hnow, hcodes now hnow⟩,
      (hredeem now hnow inputs).mpr (hcodes now hnow)⟩

def noClients (codeMaxAge : Int) : Server :=
  ⟨⟨{}, {}, .standard, Glob.isSmall⟩, .empty, 65536, codeMaxAge⟩

theorem completes_iff_reached_default : ServiceSettings.validate {} = .ok () ∧
    ofSettings {} = .ok (noClients 300) ∧ ∀ now, now.IsReading → ∀ inputs,
      TickCompletes (noClients 300) {} now ((noClients 300).run inputs) ∧
        RedeemsComplete (noClients 300) now ((noClients 300).run inputs) := by
  have hvalid : ServiceSettings.validate {} = .ok () := by decide +kernel
  refine ⟨hvalid, rfl, ?_⟩
  exact (completes_iff_reached {} hvalid (noClients 300) rfl).2.mpr ⟨by decide, by decide⟩

def endless : ServiceSettings := { codeMaxAge := 2 ^ 64 - 1 }

theorem endless_not_reached : endless.validate = .ok () ∧
    ofSettings endless = .ok (noClients (2 ^ 63 - 1)) ∧ epoch.IsReading ∧
    (noClients (2 ^ 63 - 1)).redeem? epoch ((noClients (2 ^ 63 - 1)).run []) "x" = none ∧
    ¬ TickCompletes (noClients (2 ^ 63 - 1)) endless.snapshots epoch
      ((noClients (2 ^ 63 - 1)).run []) := by
  have hreach : ¬ (epoch.before? (2 ^ 63 - 1)).isSome := by decide
  refine ⟨by decide +kernel, rfl, isReading_epoch, rfl, fun htick => ?_⟩
  exact hreach ((tickCompletes_iff (by decide)).mp htick).2

end Server

end ConsentGate
