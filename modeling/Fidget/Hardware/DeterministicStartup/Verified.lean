import Fidget.Hardware.DeterministicStartup
import Fidget.Hardware.ScpBulkApply.Confined
import Fidget.Hardware.ScpBulkApply.Selector
import Fidget.Hardware.StartupPreparation.Verified

/-!
# What a startup that passes has established

Each phase verifies its own registers only. What the preparation has established is carried through
the phases after it by what these leave alone: a capture moves the selector, an application keeps to
the banked registers and to four others.

## Main results

- `Contracted`: what the preparation has established, as far as the later phases leave it.
- `Started`: the readout contract holds, and every value of the profile is on the module.
- `runFw2051DeterministicStartup_started`: a startup that passes has `Started` the module, whatever
  was disturbed on the way.
-/

namespace Fidget

namespace DeterministicStartup

open StartupPreparation

/-- The registers that a startup may change beyond restoring them: the written ones and the
selector. -/
def StartupWrites (registerOffset : UInt16) : Prop :=
  registerOffset ∈ writtenRegisters ∨ registerOffset = fw2051ScpSelectorRegister

/-- The cells that a profile has a value for. -/
def ProfileCell (cell : BankCell) : Prop := cell.1 < 8 ∧ cell.2 ∈ scpRegisterOffsets

/-- The first module has been prepared, and nothing but what a startup is for has changed since. -/
structure Contracted (bench bench' : Bench) : Prop where
  stopped : bench'.registers fw2051AcquisitionControlRegister = fw2051StopAcquisitionValue
  contract : ∀ index < 8, bench'.registers (offsetAt index) = targetAt index
  registers : ∀ r, ¬StartupWrites r → bench'.registers r = bench.registers r
  banks : ∀ cell, ¬ProfileCell cell → bench'.banks cell = bench.banks cell
  localRegisters : bench'.localRegisters = bench.localRegisters

/-- What a startup is for: the readout contract holds, the profile is on the module, and nothing
else has changed. -/
structure Started (profile : ScpProfile) (bench bench' : Bench) : Prop
    extends Contracted bench bench' where
  parked : bench'.selector = 0
  irqLevel : bench'.registers 0x6010 = profile.configuration.irqLevel
  outputFormat : bench'.registers 0x6044 = profile.configuration.outputFormat
  banked : ∀ cell, ProfileCell cell →
    bankOf profile.configuration.quads cell = some (bench'.banks cell)

/-! ### From phase to phase

A capture moves the selector only, and an application writes to banked registers and to four others.
None of these is in the readout contract. -/

/-- The registers of the contract are none of those that an application writes to. -/
theorem offsetAt_notApplied : ∀ index < 8, offsetAt index ∉ appliedRegisters := by decide

/-- What an application may write to, a startup may. -/
theorem startupWrites_of_applied {r : UInt16} (h : r ∈ appliedRegisters) : StartupWrites r := by
  simp only [appliedRegisters, List.mem_cons, List.not_mem_nil, or_false] at h
  rcases h with rfl | rfl | rfl | rfl
  · exact .inr rfl
  · exact .inl (by decide)
  · exact .inl (by decide)
  · exact .inl (by decide)

/-- What was prepared stays prepared when only the registers of an application are written to. -/
theorem Contracted.confined {bench bench' bench'' : Bench} (h : Contracted bench bench')
    (hconfined : Confined bench' bench'')
    (hbanks : ∀ cell, ¬ProfileCell cell → bench''.banks cell = bench'.banks cell) :
    Contracted bench bench'' where
  stopped := hconfined.stopped h.stopped
  contract := fun index hindex =>
    (hconfined.registers _ (offsetAt_notApplied index hindex)).trans (h.contract index hindex)
  registers := fun r hr => (hconfined.registers r fun happlied =>
    hr (startupWrites_of_applied happlied)).trans (h.registers r hr)
  banks := fun cell hcell => (hbanks cell hcell).trans (h.banks cell hcell)
  localRegisters := hconfined.localRegisters.trans h.localRegisters

/-- A capture moves the selector only. -/
theorem Contracted.sameButSelector {bench bench' bench'' : Bench} (h : Contracted bench bench')
    (hsame : bench'.SameButSelector bench'') : Contracted bench bench'' :=
  h.confined hsame.confined fun cell _ => congrFun hsame.banks cell

/-- A preparation that passes. -/
theorem contracted_of_prepared {fault : StartupPreparation.Site → Option Fault}
    {gate : StartupPreparation.Gate → ScpCaptureGateResult} {bench : Bench}
    {baseAddress : UInt32} {audit : StartupAuditResult}
    {prepared : StartupPreparationResult × Bench}
    (h : Ends fault gate bench baseAddress audit prepared) (hpassed : prepared.1.state = .passed) :
    Contracted bench prepared.2 := by
  cases h with
  -- of the three ends only this one has passed
  | passed _ _ _ hsame hstopped hvalues =>
      exact {
        stopped := by
          rw [Bench.read_of_global (by decide)] at hstopped
          exact hstopped
        contract := by
          intro index hindex
          have hvalue := hvalues index hindex
          rw [Bench.read_of_global (offsetAt_global hindex)] at hvalue
          exact hvalue
        registers := fun r hr => hsame.registers r fun hwritten => hr (.inl hwritten)
        banks := fun cell _ => congrFun hsame.banks cell
        localRegisters := hsame.localRegisters }
  | lookLost _ _ hstate =>
      dsimp only at hpassed
      rw [hstate] at hpassed
      cases hpassed
  | rolledBack _ hstate =>
      dsimp only at hpassed
      rw [hstate] at hpassed
      cases hpassed

/-! ### The proof at the end

The last comparison goes through all 141 values, so it is a proof for every one of them. -/

/-- A comparison without a difference finds every value of the profile on the module. -/
theorem started_of_compared {profile : ScpProfile} {bench bench' bench'' : Bench}
    {baseAddress : UInt32} {captured : Fw2051ScpConfigurationSnapshot}
    (h : Contracted bench bench') (hsame : bench'.SameButSelector bench'')
    (hcaptured : CapturedFrom bench' baseAddress captured) (hparked : bench''.selector = 0)
    (hcomparable : (compareFw2051ScpConfiguration profile captured).comparable = true)
    (hnone : (compareFw2051ScpConfiguration profile captured).differences = []) :
    Started profile bench bench'' := by
  have hcompared := compared_of_comparable hcomparable
  have hequal : ∀ value ∈ comparedGlobalValues profile.configuration captured,
      value.profileValue = value.liveValue := by
    have hdifferences := hcompared.differences_eq
    rw [hnone] at hdifferences
    intro value hvalue
    have hnot := List.filter_eq_nil_iff.mp hdifferences.symm value (List.mem_append_left _ hvalue)
    simpa using hnot
  -- the IRQ level and the output format are two of the compared global values
  have hirq := hequal _ (List.mem_of_getElem? (i := 3) rfl)
  have hformat := hequal _ (List.mem_of_getElem? (i := 4) rfl)
  exact {
    h.sameButSelector hsame with
    parked := hparked
    irqLevel := by
      rw [hsame.registers _ (by decide), ← hcaptured.irqLevel_eq]
      exact (UInt16.toUInt32_inj.mp hirq).symm
    outputFormat := by
      rw [hsame.registers _ (by decide), ← hcaptured.outputFormat_eq]
      exact (UInt16.toUInt32_inj.mp hformat).symm
    banked := by
      intro cell hcell
      rw [← bankOf_eq_of_no_differences hcompared hnone hcell.1 hcell.2, hcaptured.quads_eq,
        hsame.banks]
      exact bankOf_quadOfBank bench'.banks hcell.1 hcell.2 }

section Operation

variable {fault : Site → Option Fault} {gate : Gate → ScpCaptureGateResult}
  {cancellationRequested : Gate → Bool} {profile : ScpProfile} {bench bench' : Bench}
  {result : DeterministicStartupResult}

/-- From a contracted module, a last phase that passes finds the module started. -/
theorem verifyFinalConfiguration_passed (h : Contracted bench bench') :
    let final := verifyFinalConfiguration fault gate result profile bench'
    final.1.state = .passed → Started profile bench final.2 := by
  have hselector := captureFw2051ScpConfiguration_selector (fault ∘ .finalCapture) bench'
    result.baseAddress (some (gate ∘ .finalCapture)) {}
  have hcomplete := captureFw2051ScpConfiguration_complete_iff (fault ∘ .finalCapture) bench'
    result.baseAddress (some (gate ∘ .finalCapture)) {}
  unfold verifyFinalConfiguration
  dsimp only at hselector hcomplete ⊢
  generalize captureFw2051ScpConfiguration (fault ∘ .finalCapture) bench' result.baseAddress
    (some (gate ∘ .finalCapture)) {} = captured at hselector hcomplete ⊢
  split
  · intro hstate
    cases hstate
  next hcaptured =>
    rw [not_not] at hcaptured
    have hfrom := hcomplete.2 hcaptured
    split
    · intro hstate
      cases hstate
    next hmatches =>
      intro _
      rw [not_or, not_or, Bool.not_eq_true, Bool.not_eq_false', not_not, not_not] at hmatches
      exact started_of_compared h hselector.1 hfrom (hselector.2 hfrom.parked) hmatches.1
        hmatches.2.2

/-- So it is from the third phase on. -/
theorem applyBankedProfile_passed (h : Contracted bench bench') :
    let applied := applyBankedProfile fault gate cancellationRequested result profile bench'
    applied.1.state = .passed → Started profile bench applied.2 := by
  have hbanks := applyFw2051ScpProfile_banks (fault ∘ .application)
    (cancellationRequested ∘ .application) bench' result.postPreparationPlan.request
    (some (gate ∘ .application))
  have hconfined := applyFw2051ScpProfile_confined (fault ∘ .application)
    (cancellationRequested ∘ .application) bench' result.postPreparationPlan.request
    (some (gate ∘ .application))
  unfold applyBankedProfile
  dsimp only at hbanks hconfined ⊢
  -- without differences nothing is applied
  split
  · generalize applyFw2051ScpProfile (fault ∘ .application)
      (cancellationRequested ∘ .application) bench' result.postPreparationPlan.request
      (some (gate ∘ .application)) = applied at hbanks hconfined ⊢
    split
    · intro hstate
      cases hstate
    next hpassed =>
      rw [not_not] at hpassed
      obtain ⟨hkept, hinBank⟩ := hconfined hpassed
      refine verifyFinalConfiguration_passed (h.confined hkept fun cell hcell => ?_)
      refine hbanks.2.2 (.inl hpassed) cell fun step hstep heq => hcell ?_
      rw [← heq]
      exact hinBank step hstep
  · exact verifyFinalConfiguration_passed h

/-- And from the second. -/
theorem capturePreparedConfiguration_passed (h : Contracted bench bench') :
    let applied :=
      capturePreparedConfiguration fault gate cancellationRequested result profile bench'
    applied.1.state = .passed → Started profile bench applied.2 := by
  have hselector := captureFw2051ScpConfiguration_selector (fault ∘ .preparedCapture) bench'
    result.baseAddress (some (gate ∘ .preparedCapture)) {}
  unfold capturePreparedConfiguration
  dsimp only at hselector ⊢
  generalize captureFw2051ScpConfiguration (fault ∘ .preparedCapture) bench' result.baseAddress
    (some (gate ∘ .preparedCapture)) {} = captured at hselector ⊢
  split
  · intro hstate
    cases hstate
  split
  · intro hstate
    cases hstate
  · exact applyBankedProfile_passed (h.sameButSelector hselector.1)

end Operation

end DeterministicStartup

open DeterministicStartup in
/-- A startup that passes has brought the profile onto the module. -/
theorem runFw2051DeterministicStartup_started (fault : Site → Option Fault)
    (cancellationRequested : Gate → Bool) (bench : Bench) (request : DeterministicStartupRequest)
    (ownershipGate : Option (Gate → ScpCaptureGateResult)) :
    let startup :=
      runFw2051DeterministicStartup fault cancellationRequested bench request ownershipGate
    startup.1.state = .passed → Started request.profile bench startup.2 := by
  unfold runFw2051DeterministicStartup
  dsimp only
  split
  · intro hstate
    cases hstate
  cases ownershipGate with
  | none =>
      intro hstate
      cases hstate
  | some gate =>
      dsimp only
      -- the preparation's three ends are known; only its success goes on
      have hends := StartupPreparation.prepareFw2051ModuleForStartup_ends (fault ∘ .preparation)
        (gate ∘ .preparation) (cancellationRequested ∘ .preparation) bench
        (reviewed request).baseAddress request.startupAudit
      generalize prepareFw2051ModuleForStartup (fault ∘ .preparation)
        (cancellationRequested ∘ .preparation) bench (reviewed request).baseAddress
        request.startupAudit (some (gate ∘ .preparation)) = prepared at hends ⊢
      split
      · intro hstate
        cases hstate
      next hpassed =>
        rw [not_not] at hpassed
        exact capturePreparedConfiguration_passed (contracted_of_prepared hends hpassed)

/-- The example profile as a reviewed recipe for the example module. -/
def startupRequest : DeterministicStartupRequest where
  profileLoadedForTarget := true
  configurationFresh := true
  startupAuditCompleteForTarget := true
  confirmed := true
  profile := { exampleProfile with
    configuration := { exampleProfile.configuration with irqLevel := 1, outputFormat := 0x18 } }
  reviewedConfiguration := exampleSnapshot exampleQuads
  startupAudit :=
    { state := .complete
      baseAddress := 0x11110000
      hardwareId := mdpp32HardwareId
      firmwareRevision := mdpp32ScpFirmwareRevisionFw2051 }

theorem runFw2051DeterministicStartup_started_example :
    let startup := runFw2051DeterministicStartup (fun _ => none) (fun _ => false) exampleModule
      startupRequest (some fun _ => { status := .allowed })
    startup.1.bankedWritesPlanned = 4 ∧
      DeterministicStartup.Started startupRequest.profile exampleModule startup.2 :=
  ⟨by decide +kernel, runFw2051DeterministicStartup_started _ _ _ _ _ (by decide +kernel)⟩

end Fidget
