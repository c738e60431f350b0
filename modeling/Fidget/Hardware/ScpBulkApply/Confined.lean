import Fidget.Hardware.ScpBulkApply.Verified

/-!
# What an application leaves alone

Besides the banked registers, an application writes to four registers of the module only, and to
acquisition control it writes nothing but a stop.

## Main results

- `Confined`: the second module comes from the first by writes that an application may make.
- `confined_writeRegister`: the one rule for a write; every step is put together from it.
- `applyFw2051ScpProfile_confined`: a call that passes has made no others.
-/

namespace Fidget

/-- The module-wide registers that an application writes to. -/
def appliedRegisters : List UInt16 :=
  [fw2051ScpSelectorRegister, fw2051AcquisitionControlRegister, fw2051FifoResetRegister,
    fw2051ReadoutResetRegister]

/-- What an application may write where. -/
def MayApply (registerOffset value : UInt16) : Prop :=
  registerOffset ∈ scpRegisterOffsets ∨ registerOffset ∈ appliedRegisters ∧
    (registerOffset = fw2051AcquisitionControlRegister → value = fw2051StopAcquisitionValue)

/-- Two modules of which the second comes from the first by such writes. -/
structure Confined (bench bench' : Bench) : Prop where
  registers : ∀ r ∉ appliedRegisters, bench'.registers r = bench.registers r
  stopped : bench.registers fw2051AcquisitionControlRegister = fw2051StopAcquisitionValue →
    bench'.registers fw2051AcquisitionControlRegister = fw2051StopAcquisitionValue
  localRegisters : bench'.localRegisters = bench.localRegisters

/-- A write to the module leaves the registers of the controller. -/
theorem localRegisters_write {bench : Bench} {registerOffset value : UInt16} :
    (bench.write registerOffset value).localRegisters = bench.localRegisters := by
  unfold Bench.write
  split <;> rfl

/-- No write at all. -/
theorem Confined.refl (bench : Bench) : Confined bench bench := ⟨fun _ _ => rfl, id, rfl⟩

/-- Such writes, and then more of them. -/
theorem Confined.trans {bench bench' bench'' : Bench} (h : Confined bench bench')
    (h' : Confined bench' bench'') : Confined bench bench'' where
  registers := fun r hr => (h'.registers r hr).trans (h.registers r hr)
  stopped := h'.stopped ∘ h.stopped
  localRegisters := h'.localRegisters.trans h.localRegisters

/-- One write that is allowed. -/
theorem Confined.write {bench bench' : Bench} (h : Confined bench bench')
    {registerOffset value : UInt16} (hmay : MayApply registerOffset value) :
    Confined bench (bench'.write registerOffset value) where
  registers := by
    intro r hr
    -- the write reaches a bank, or it is one of the registers the profile may apply
    rcases hmay with hbanked | ⟨happlied, -⟩
    · rw [Bench.registers_write_of_banked hbanked]
      exact h.registers r hr
    · have hne : r ≠ registerOffset := fun heq => hr (heq ▸ happlied)
      by_cases hbanked : registerOffset ∈ scpRegisterOffsets
      · rw [Bench.registers_write_of_banked hbanked]
        exact h.registers r hr
      · rw [Bench.registers_write_of_global hbanked, Function.update_of_ne hne]
        exact h.registers r hr
  stopped := by
    intro hstopped
    by_cases hbanked : registerOffset ∈ scpRegisterOffsets
    · rw [Bench.registers_write_of_banked hbanked]
      exact h.stopped hstopped
    · rw [Bench.registers_write_of_global hbanked]
      by_cases hacquisition : fw2051AcquisitionControlRegister = registerOffset
      · -- a write to the acquisition control can only stop it
        obtain ⟨-, hvalue⟩ := hmay.resolve_left hbanked
        rw [hacquisition, Function.update_self]
        exact hvalue hacquisition.symm
      · rw [Function.update_of_ne hacquisition]
        exact h.stopped hstopped
  localRegisters := localRegisters_write.trans h.localRegisters

/-- Disturbed or not, it was the write or nothing. -/
theorem Confined.writeVmeD16 {bench bench' : Bench} (h : Confined bench bench')
    (fault : Option Fault) {registerOffset value : UInt16} (hmay : MayApply registerOffset value) :
    Confined bench (bench'.writeVmeD16 fault registerOffset value).2 := by
  rcases bench'.writeVmeD16_cases fault registerOffset value with hcase | hcase
  · rw [hcase]
    exact h
  · rw [hcase]
    exact h.write hmay

/-- The selector may always be written. -/
theorem Bench.SameButSelector.confined {bench bench' : Bench} (h : bench.SameButSelector bench') :
    Confined bench bench' where
  registers := fun r hr => h.registers r fun heq => hr (heq ▸ List.mem_cons_self)
  stopped := fun hstopped => (h.registers _ (by decide)).trans hstopped
  localRegisters := h.localRegisters

/-- Any value may be written to it. -/
theorem mayApply_selector (value : UInt16) : MayApply fw2051ScpSelectorRegister value :=
  .inr ⟨by decide, fun heq => absurd heq (by decide)⟩

/-- The first reset may be sent. -/
theorem mayApply_fifoReset (value : UInt16) : MayApply fw2051FifoResetRegister value :=
  .inr ⟨by decide, fun heq => absurd heq (by decide)⟩

/-- So may the second. -/
theorem mayApply_readoutReset (value : UInt16) : MayApply fw2051ReadoutResetRegister value :=
  .inr ⟨by decide, fun heq => absurd heq (by decide)⟩

/-- Acquisition control may be written with the value that stops it. -/
theorem mayApply_stop : MayApply fw2051AcquisitionControlRegister fw2051StopAcquisitionValue :=
  .inr ⟨by decide, fun _ => rfl⟩

section Operation

variable {fault : BulkApplySite → Option Fault} {gate : BulkApplyGate → ScpCaptureGateResult}
  {cancellationRequested : BulkApplyGate → Bool} {bench : Bench} {run : BulkApplyRun}

/-- Asking for ownership does not touch the module. -/
theorem bench_reverifyOwnership (site : BulkApplyGate) :
    (reverifyOwnership gate cancellationRequested run site).2.bench = run.bench := by
  unfold reverifyOwnership
  split
  · rfl
  split <;> rfl

/-- Asking writes nothing. -/
theorem confined_reverifyOwnership (h : Confined bench run.bench) (site : BulkApplyGate) :
    Confined bench (reverifyOwnership gate cancellationRequested run site).2.bench := by
  rw [bench_reverifyOwnership]
  exact h

/-- A register that may be written with this value. -/
theorem confined_writeRegister (h : Confined bench run.bench) (site : BulkApplySite)
    {registerOffset value : UInt16} (hmay : MayApply registerOffset value) :
    Confined bench (writeRegister fault run site registerOffset value).2.bench :=
  h.writeVmeD16 (fault site) hmay

/-- The stop, and its readback. -/
theorem confined_stopModule (h : Confined bench run.bench) :
    Confined bench (stopModule fault gate cancellationRequested run).bench := by
  have hverified := @confined_reverifyOwnership gate cancellationRequested bench run h .stop
  unfold stopModule
  split
  next heq =>
    rw [heq] at hverified
    exact hverified
  next verified heq =>
    rw [heq] at hverified
    have hwritten := @confined_writeRegister fault _ _ hverified .stop _ _ mayApply_stop
    split
    next heq =>
      rw [heq] at hwritten
      exact hwritten
    next heq =>
      rw [heq] at hwritten
      dsimp only
      split
      · exact hwritten
      · split <;> exact hwritten

/-- The selection of a bank. -/
theorem confined_selectBank (h : Confined bench run.bench) (index : Nat)
    (step : ScpProfileApplicationStep) :
    Confined bench (selectBank fault gate cancellationRequested run index step).2.bench := by
  have hverified :=
    @confined_reverifyOwnership gate cancellationRequested bench run h (.bank index)
  unfold selectBank
  split
  · split
    next heq =>
      rw [heq] at hverified
      exact hverified
    next verified heq =>
      rw [heq] at hverified
      have hwritten := @confined_writeRegister fault _ _ hverified (.select index) _ _
        (mayApply_selector step.quad.toNat.toUInt16)
      split
      next heq =>
        rw [heq] at hwritten
        exact hwritten
      next heq =>
        rw [heq] at hwritten
        exact hwritten
  · exact h

/-- A value of a banked register. -/
theorem confined_attemptWrite (h : Confined bench run.bench) (index : Nat)
    {step : ScpProfileApplicationStep} (hbanked : step.registerOffset ∈ scpRegisterOffsets) :
    Confined bench (attemptWrite fault run index step).bench := by
  unfold attemptWrite
  extract_lets attempted listed _ counted
  have hcounted : Confined bench counted.bench := h
  have hwritten := @confined_writeRegister fault _ _ hcounted (.write index) _ _
    (.inl hbanked : MayApply step.registerOffset step.profileValue)
  split
  next heq =>
    rw [heq] at hwritten
    exact hwritten
  next heq =>
    rw [heq] at hwritten
    split
    · exact hwritten
    · dsimp only
      split <;> exact hwritten

/-- One step. -/
theorem confined_applyStep (h : Confined bench run.bench)
    {indexed : ScpProfileApplicationStep × Nat}
    (hbanked : indexed.1.registerOffset ∈ scpRegisterOffsets) :
    Confined bench (applyStep fault gate cancellationRequested run indexed).bench := by
  unfold applyStep
  dsimp only
  split
  · -- the bank first, then the gate, then the value itself
    have hselected := @confined_selectBank fault gate cancellationRequested bench run h indexed.2
      indexed.1
    split
    next heq =>
      rw [heq] at hselected
      exact hselected
    next selected heq =>
      rw [heq] at hselected
      have hverified := @confined_reverifyOwnership gate cancellationRequested bench selected
        hselected (.write indexed.2)
      split
      next heq =>
        rw [heq] at hverified
        exact hverified
      next heq =>
        rw [heq] at hverified
        exact confined_attemptWrite hverified indexed.2 hbanked
  · exact h

/-- All of them. -/
theorem confined_applySteps (h : Confined bench run.bench) {steps : List ScpProfileApplicationStep}
    (hbanked : ∀ step ∈ steps, step.registerOffset ∈ scpRegisterOffsets) :
    Confined bench (applySteps fault gate cancellationRequested run steps).bench := by
  unfold applySteps
  refine List.foldlRecOn steps.zipIdx (applyStep fault gate cancellationRequested)
    (motive := fun run => Confined bench run.bench) h fun run hrun indexed hindexed => ?_
  exact confined_applyStep hrun (hbanked _ (List.fst_mem_of_mem_zipIdx hindexed))

/-- The parking. -/
theorem confined_parkSelector (h : Confined bench run.bench) (phase : ApplyPhase) :
    Confined bench (parkSelector fault gate cancellationRequested run phase).bench := by
  have hverified :=
    @confined_reverifyOwnership gate cancellationRequested bench run h (.park phase)
  unfold parkSelector
  split
  next heq =>
    rw [heq] at hverified
    exact hverified
  next verified heq =>
    rw [heq] at hverified
    have hwritten := @confined_writeRegister fault _ _ hverified (.park phase) _ _
      (mayApply_selector 0)
    split
    next heq =>
      rw [heq] at hwritten
      exact hwritten
    next heq =>
      rw [heq] at hwritten
      exact hwritten

/-- The two resets. -/
theorem confined_resetReadout (h : Confined bench run.bench) (phase : ApplyPhase) :
    Confined bench (resetReadout fault gate cancellationRequested run phase).bench := by
  have hverified :=
    @confined_reverifyOwnership gate cancellationRequested bench run h (.reset phase)
  unfold resetReadout
  split
  · exact h
  split
  next heq =>
    rw [heq] at hverified
    exact hverified
  next verified heq =>
    rw [heq] at hverified
    -- the data buffer, then the readout
    have hwritten := @confined_writeRegister fault _ _ hverified (.fifoReset phase) _ _
      (mayApply_fifoReset fw2051ResetCommandValue)
    split
    next heq =>
      rw [heq] at hwritten
      exact hwritten
    next written heq =>
      rw [heq] at hwritten
      extract_lets _ noted
      have hnoted : Confined bench noted.bench := hwritten
      have hreset := @confined_writeRegister fault _ _ hnoted (.readoutReset phase) _ _
        (mayApply_readoutReset fw2051ResetCommandValue)
      split
      next heq =>
        rw [heq] at hreset
        exact hreset
      next heq =>
        rw [heq] at hreset
        exact hreset

/-- What follows when every write is verified. -/
theorem confined_finishForward (h : Confined bench run.bench) :
    Confined bench (finishForward fault gate cancellationRequested run).bench := by
  unfold finishForward
  split
  · extract_lets _ retained parked
    have hretained : Confined bench retained.bench := h
    have hparked : Confined bench parked.bench := confined_parkSelector hretained .forward
    split
    · exact confined_resetReadout hparked .forward
    · exact hparked
  · exact h

/-- A call that passes has kept to the registers it may write to. -/
theorem applyFw2051ScpProfile_confined (fault : BulkApplySite → Option Fault)
    (cancellationRequested : BulkApplyGate → Bool) (bench : Bench)
    (request : ScpProfileApplicationRequest)
    (ownershipGate : Option (BulkApplyGate → ScpCaptureGateResult)) :
    let applied := applyFw2051ScpProfile fault cancellationRequested bench request ownershipGate
    applied.1.state = .passed → Confined bench applied.2 ∧
      ∀ step ∈ request.steps, step.quad.toNat < 8 ∧ step.registerOffset ∈ scpRegisterOffsets := by
  intro applied hstate
  rcases applyFw2051ScpProfile_cases fault cancellationRequested bench request ownershipGate with
    ⟨gate, run, -, hpasses, hprepared, hsame, happlied⟩ | ⟨-, hfailed, -⟩
  · have happlicable := hpasses.applicable hsame
    have hbench : applied.2 = _ := congrArg Prod.snd happlied
    have hresult : applied.1 = _ := congrArg Prod.fst happlied
    rw [hresult] at hstate
    obtain ⟨-, hfinal⟩ := bulkApplyTransaction_of_success fault gate cancellationRequested
      hprepared happlicable (finishBulkApply_passed hstate)
    rw [hbench, hfinal]
    have hinBank : ∀ step ∈ request.steps, step.quad.toNat < 8 ∧
        step.registerOffset ∈ scpRegisterOffsets :=
      fun step hstep => (happlicable.inBank step hstep).2
    exact ⟨confined_finishForward (confined_applySteps (confined_stopModule hsame.confined)
      fun step hstep => (hinBank step hstep).2), hinBank⟩
  · rw [show applied.1.state = .failed from hfailed] at hstate
    cases hstate

end Operation

end Fidget
