import Fidget.Hardware.StartupPreparation.Verified

/-!
# What a failed preparation leaves behind

When the ownership gate never interferes, a preparation that passes has reached its targets, and one
that fails has tried to undo what it attempted. The one exception is a reading: by the time the
module is looked at for the last time, the rollback has already been decided against.

## Main results

- `rollsBack_of_ends`: which ways to end are in order.
- `prepareFw2051ModuleForStartup_rollsBack_iff`: a preparation is complete or undone unless only its
  last look is lost.
- `prepareFw2051ModuleForStartup_rollsBack_counterexample`: a failed preparation with its writes in
  place.
-/

namespace Fidget

namespace StartupPreparation

/-- A preparation is either complete or undone, unless it admits that it could not be. -/
structure RollsBack (bench : Bench) (result : StartupPreparationResult) (bench' : Bench) :
    Prop where
  passed : result.state = .passed → (∀ index < 8, bench'.read (offsetAt index) = targetAt index) ∧
    bench'.read fw2051AcquisitionControlRegister = fw2051StopAcquisitionValue
  tried : result.state = .failed → result.writesAttempted > 0 → result.rollbackAttempted = true
  restored : result.state = .failed → result.writesAttempted > 0 →
    result.rollbackVerified = true → ∀ index < 8,
      bench'.read (offsetAt index) = bench.read (offsetAt index)

/-- The failure that nothing answers: settings were written, nothing else fails, and the last
reading is lost. -/
structure OnlyLastLookLost (fault : Site → Option Fault) (gate : Gate → ScpCaptureGateResult)
    (bench : Bench) (baseAddress : UInt32) (audit : StartupAuditResult) : Prop where
  undisturbed : Undisturbed fault gate bench baseAddress audit
  deviates : ∃ index < 8, Deviates bench index
  lost : fault .stoppedState ≠ none

variable {fault : Site → Option Fault} {gate : Gate → ScpCaptureGateResult} {bench : Bench}
  {baseAddress : UInt32} {audit : StartupAuditResult}

/-- A write is attempted for every register that deviates. -/
theorem deviating_pos_iff :
    (deviating bench 8).length > 0 ↔ ∃ index < 8, Deviates bench index := by
  rw [gt_iff_lt, List.length_pos_iff_exists_mem]
  constructor
  · rintro ⟨index, hmem⟩
    exact ⟨index, mem_deviating.mp hmem⟩
  · rintro ⟨index, hindex, hdeviates⟩
    exact ⟨index, mem_deviating.mpr ⟨hindex, hdeviates⟩⟩

/-- With the gate out of the way, the last look fails only with its reading. -/
theorem lookUndisturbed_iff (hallowed : ∀ site, (gate site).status = .allowed) :
    LookUndisturbed fault gate ↔ fault .stoppedState = none :=
  ⟨LookUndisturbed.read, fun hread => ⟨hallowed .stoppedState, hread⟩⟩

/-- All of them but the one in which the last look is the only failure. -/
theorem rollsBack_of_ends (hallowed : ∀ site, (gate site).status = .allowed)
    {prepared : StartupPreparationResult × Bench}
    (h : Ends fault gate bench baseAddress audit prepared) :
    RollsBack bench prepared.1 prepared.2 ↔
      ¬OnlyLastLookLost fault gate bench baseAddress audit := by
  cases h with
  | passed hundisturbed hlook hstate _ hstopped hvalues =>
      refine iff_of_true ?_ fun hlost => hlost.lost hlook.read
      exact {
        passed := fun _ => ⟨hvalues, hstopped⟩
        tried := by
          intro hfailed
          rw [hstate] at hfailed
          cases hfailed
        restored := by
          intro hfailed
          rw [hstate] at hfailed
          cases hfailed }
  | lookLost hundisturbed hlook hstate hattempted hrollback =>
      rw [lookUndisturbed_iff hallowed] at hlook
      constructor
      · -- what was attempted is left as it is
        intro hrolls hlost
        have hpos := deviating_pos_iff.mpr hlost.deviates
        rw [← hattempted] at hpos
        have htried := hrolls.tried hstate hpos
        rw [hrollback.1] at htried
        cases htried
      · intro hnot
        have hnone : ¬(deviating bench 8).length > 0 := fun hpos =>
          hnot ⟨hundisturbed, deviating_pos_iff.mp hpos, hlook⟩
        rw [← hattempted] at hnone
        exact {
          passed := by
            intro hpassed
            rw [hstate] at hpassed
            cases hpassed
          tried := fun _ hpos => absurd hpos hnone
          restored := fun _ hpos => absurd hpos hnone }
  | rolledBack hdisturbed hstate htried hrestored =>
      refine iff_of_true ?_ fun hlost => hdisturbed hlost.undisturbed
      exact {
        passed := by
          intro hpassed
          rw [hstate] at hpassed
          cases hpassed
        tried := fun _ => htried
        restored := fun _ _ => hrestored }

/-- With an allowing gate, a preparation is complete or undone exactly if it is not only its last
look that is lost. -/
theorem prepareFw2051ModuleForStartup_rollsBack_iff (fault : Site → Option Fault)
    (gate : Gate → ScpCaptureGateResult) (cancellationRequested : Gate → Bool) (bench : Bench)
    (baseAddress : UInt32) (audit : StartupAuditResult)
    (hallowed : ∀ site, (gate site).status = .allowed) :
    let prepared := prepareFw2051ModuleForStartup fault cancellationRequested bench baseAddress
      audit (some gate)
    RollsBack bench prepared.1 prepared.2 ↔
      ¬OnlyLastLookLost fault gate bench baseAddress audit :=
  rollsBack_of_ends hallowed
    (prepareFw2051ModuleForStartup_ends fault gate cancellationRequested bench baseAddress audit)

/-- The module in its factory state, with every one of the eight registers at zero. -/
def deviatingModule : Bench where
  registers := fun registerOffset =>
    if registerOffset = 0x6008 then mdpp32HardwareId
    else if registerOffset = 0x600E then mdpp32ScpFirmwareRevisionFw2051
    else 0
  banks := fun _ => 0
  localRegisters := fun _ => 0

/-- An audit of that module. -/
def completedAudit : StartupAuditResult where
  state := .complete
  hardwareId := mdpp32HardwareId
  firmwareRevision := mdpp32ScpFirmwareRevisionFw2051

/-- The third write is not answered, and has not taken effect. -/
def thirdWriteFault : Site → Option Fault
  | .write 2 => some ⟨"The response timed out.", false⟩
  | _ => none

/-- The two settings that were written before are given back. -/
theorem prepareFw2051ModuleForStartup_rollsBack_iff_example :
    let prepared := prepareFw2051ModuleForStartup thirdWriteFault (fun _ => false)
      deviatingModule 0 completedAudit (some fun _ => { status := .allowed })
    prepared.1.state = .failed ∧ prepared.1.writesAttempted > 0 ∧
      prepared.1.rollbackVerified = true ∧ RollsBack deviatingModule prepared.1 prepared.2 := by
  intro prepared
  refine ⟨by decide +kernel, by decide +kernel, by decide +kernel, ?_⟩
  exact (prepareFw2051ModuleForStartup_rollsBack_iff thirdWriteFault
    (fun _ => { status := .allowed }) (fun _ => false) deviatingModule 0 completedAudit
      fun _ => rfl).mpr fun hlost => hlost.lost rfl

/-- Only the last reading fails. -/
def stoppedStateFault : Site → Option Fault
  | .stoppedState => some ⟨"The response timed out.", false⟩
  | _ => none

/-- The preparation fails with its seven writes in place and no rollback tried. -/
theorem prepareFw2051ModuleForStartup_rollsBack_counterexample :
    let prepared := prepareFw2051ModuleForStartup stoppedStateFault (fun _ => false)
      deviatingModule 0 completedAudit (some fun _ => { status := .allowed })
    prepared.1.state = .failed ∧ prepared.1.writesAttempted = 7 ∧
      prepared.1.rollbackAttempted = false ∧ prepared.2.read 0x6036 = 0x000B ∧
      ¬RollsBack deviatingModule prepared.1 prepared.2 := by
  intro prepared
  have hends : prepared.1.state = .failed ∧ prepared.1.writesAttempted = 7 ∧
      prepared.1.rollbackAttempted = false ∧ prepared.2.read 0x6036 = 0x000B := by
    decide +kernel
  obtain ⟨hstate, hattempted, hrollback, hread⟩ := hends
  refine ⟨hstate, hattempted, hrollback, hread, fun hrolls => ?_⟩
  have htried := hrolls.tried hstate (by rw [hattempted]; decide)
  rw [hrollback] at htried
  cases htried

end StartupPreparation

end Fidget
