import Fidget.Hardware.Crate
import Fidget.Hardware.DiagnosticAcquisition

/-!
# Stopping an acquisition

`StopDiagnosticAcquisition` of `hardware/DiagnosticAcquisitionOperation.cpp`: the target is stopped,
every module that was isolated is checked to be stopped still, the stack and the token of the session
are taken off the controller, and the recovery journal is removed if all of that was verified.

Where the source goes on after a failed call and collects the messages, so does the model: a stop
does as much as it can, and at the end decides by the flags of the result whether the acquisition
counts as stopped. Only a check of the ownership that fails ends it before anything was written.

## Main results

- `writeVmeNoted`, `readVmeNoted`: a call to the transport whose failure is noted in the run.
- `cleanUpModule`: a module that was isolated is looked at, and stopped and reset if it runs again.
- `stoppedCleanly`: what the removal of the journal depends on.
- `stopDiagnosticAcquisition`: the operation, with the log it leaves.
-/

namespace Fidget

/-! ### The operation -/

/-- Whether the caller wants the ownership to be checked. -/
inductive DiagnosticStopOwnershipCheck where
  | required
  | verifiedImmediatelyBeforePreviewRestore
  deriving DecidableEq, Repr

/-- The session and the local variables of the operation. -/
structure AcquisitionRun where
  log : CrateLog
  prepared : DiagnosticAcquisitionPreparationResult
  failure : String := ""

namespace AcquisitionRun

def fail (run : AcquisitionRun) (message : String) : AcquisitionRun :=
  { run with failure := appendFailure run.failure message }

/-- The acquisition of the session. -/
def acquisition (run : AcquisitionRun) : DiagnosticAcquisitionResult := run.prepared.acquisition

/-- The session with another acquisition. -/
def setAcquisition (run : AcquisitionRun) (acquisition : DiagnosticAcquisitionResult) :
    AcquisitionRun :=
  { run with prepared := { run.prepared with acquisition } }

end AcquisitionRun

section Stop

variable (outside : Surroundings)

/-- The write succeeds, or its failure is noted. -/
def writeVmeNoted (run : AcquisitionRun) (baseAddress : UInt32) (registerOffset value : UInt16)
    (name : String) : Bool × AcquisitionRun :=
  match outside.writeVmeD16 run.log baseAddress registerOffset value with
  | (none, log) => (true, { run with log })
  | (some error, log) =>
    (false, { run with log }.fail (registerOperationError "write" name registerOffset error))

/-- The value read, or nothing and its failure is noted. -/
def readVmeNoted (run : AcquisitionRun) (baseAddress : UInt32) (registerOffset : UInt16)
    (name : String) : Option UInt16 × AcquisitionRun :=
  match outside.readVmeD16 run.log baseAddress registerOffset with
  | (.ok value, log) => (some value, { run with log })
  | (.error error, log) =>
    (none, { run with log }.fail (registerOperationError "read" name registerOffset error))

/-- The call goes on only if the controller is still this session's. -/
def checkStopOwnership (ownershipCheck : DiagnosticStopOwnershipCheck) (run : AcquisitionRun) :
    Bool × AcquisitionRun :=
  if ownershipCheck = .required then
    let (answer, log) := outside.readLocalRegisters run.log (fingerprintAddresses run.prepared)
    let fingerprint := evaluateOwnershipFingerprint run.prepared answer
    let run := { run with log }
    let run := run.setAcquisition { run.acquisition with
      ownershipHeartbeatChecks := run.acquisition.ownershipHeartbeatChecks + 1 }
    match fingerprint.outcome with
    | .foreignFingerprint =>
      let run := run.setAcquisition { run.acquisition with
        foreignControllerDetected := true
        cleanupSkippedToProtectForeignRun := true
        state := .failed
        message := "Tuner ownership was lost: " ++ fingerprint.message ++
          " The tuner detached passively. No MDPP stop, DAQ-mode write, or readout-stack " ++
          "cleanup was sent, so a possible MVME run was left untouched." }
      (false, { run with log := (outside.callDataPath run.log .close).2 })
    | .communicationUnavailable =>
      let run := run.setAcquisition { run.acquisition with
        communicationUncertain := true
        commandPathFailures := run.acquisition.commandPathFailures + 1
        orphanRecoveryRequired := true
        state := .failed
        message := "The command path remained unavailable, so ownership could not be proven " ++
          "before cleanup. No blind hardware write was sent. The unique tuner fingerprint is " ++
          "journaled for recovery. Last error: " ++ fingerprint.message }
      (false, { run with log := (outside.callDataPath run.log .close).2 })
    | .verified => (true, run)
  else (true, run)

/-- The target is stopped and read back. -/
def stopTarget (run : AcquisitionRun) : AcquisitionRun :=
  match writeVmeNoted outside run run.acquisition.baseAddress diagnosticAcquisitionControlRegister 0
      "stop acquisition" with
  | (false, run) => run
  | (true, run) =>
    let run := run.setAcquisition { run.acquisition with moduleStopSent := true }
    match readVmeNoted outside run run.acquisition.baseAddress diagnosticAcquisitionControlRegister
        "stopped acquisition" with
    | (none, run) => run
    | (some stoppedReadback, run) =>
      if stoppedReadback ≠ 0 then
        run.fail "Selected-module acquisition-control readback was not zero after Stop."
      else run

/-- The module has started again: it is stopped, and what it then reads is the new state. -/
def stopRestarted (isolation : DiagnosticModuleIsolation) (acquisitionReadback : UInt16)
    (run : AcquisitionRun) : DiagnosticModuleIsolation × UInt16 × AcquisitionRun :=
  let (stopSent, run) := writeVmeNoted outside run isolation.baseAddress
    diagnosticAcquisitionControlRegister 0 "non-target stop during cleanup"
  let isolation := { isolation with stopRequired := true, stopSent }
  if stopSent then
    match readVmeNoted outside run isolation.baseAddress diagnosticAcquisitionControlRegister
        "non-target stopped state during cleanup" with
    | (none, run) => (isolation, acquisitionReadback, run)
    | (some stoppedReadback, run) => (isolation, stoppedReadback, run)
  else (isolation, acquisitionReadback, run)

/-- The readout of a module that had started again is reset. -/
def resetRestarted (isolation : DiagnosticModuleIsolation) (run : AcquisitionRun) :
    DiagnosticModuleIsolation × AcquisitionRun :=
  let (fifoResetSent, run) := writeVmeNoted outside run isolation.baseAddress
    diagnosticFifoResetRegister 1 "non-target FIFO reset during cleanup"
  let (readoutResetSent, run) := writeVmeNoted outside run isolation.baseAddress
    diagnosticReadoutResetRegister 1 "non-target readout reset during cleanup"
  ({ isolation with fifoResetSent, readoutResetSent }, run)

/-- One module that was isolated. -/
def cleanUpModule (isolation : DiagnosticModuleIsolation) (run : AcquisitionRun) :
    DiagnosticModuleIsolation × AcquisitionRun :=
  if !isolation.quiescenceAttempted then (isolation, run)
  else
    match readVmeNoted outside run isolation.baseAddress diagnosticAcquisitionControlRegister
        "non-target acquisition state during cleanup" with
    | (none, failed) =>
      ({ isolation with
          message := String.ofList (failed.failure.toList.drop run.failure.toList.length) }, failed)
    | (some acquisitionReadback, run) =>
      let restarted := acquisitionReadback ≠ 0
      let (isolation, acquisitionReadback, run) :=
        if restarted then stopRestarted outside isolation acquisitionReadback run
        else (isolation, acquisitionReadback, run)
      let isolation := { isolation with
        acquisitionStateAfter := acquisitionReadback
        stopVerified := acquisitionReadback = 0 }
      let (isolation, run) :=
        if isolation.stopVerified ∧ restarted then resetRestarted outside isolation run
        else (isolation, run)
      let isolation := { isolation with
        cleanupVerified :=
          isolation.stopVerified && isolation.fifoResetSent && isolation.readoutResetSent }
      if isolation.cleanupVerified then
        ({ isolation with
            message :=
              if restarted then
                "Unexpectedly restarted, then stopped, reset, and verified during cleanup."
              else "Verified stopped during cleanup." },
          run.setAcquisition { run.acquisition with
            nonTargetModulesVerifiedStoppedOnCleanup :=
              run.acquisition.nonTargetModulesVerifiedStoppedOnCleanup + 1 })
      else
        (isolation,
          run.fail ("Non-target cleanup failed at " ++ hexadecimal32 isolation.baseAddress ++ "."))

/-- One after the other. -/
def cleanUpModules : List DiagnosticModuleIsolation → AcquisitionRun →
    List DiagnosticModuleIsolation × AcquisitionRun
  | [], run => ([], run)
  | isolation :: isolations, run =>
    let (isolation, run) := cleanUpModule outside isolation run
    let (isolations, run) := cleanUpModules isolations run
    (isolation :: isolations, run)

/-- All modules that were isolated, with the count of those verified. -/
def cleanUpIsolation (run : AcquisitionRun) : AcquisitionRun :=
  let run := run.setAcquisition { run.acquisition with
    nonTargetModulesVerifiedStoppedOnCleanup := 0 }
  let (moduleIsolation, run) := cleanUpModules outside run.acquisition.moduleIsolation run
  run.setAcquisition { run.acquisition with moduleIsolation }

/-- What takes the session off the controller. -/
def cleanupWrites (prepared : DiagnosticAcquisitionPreparationResult) : List (UInt16 × UInt32) := [
  (diagnosticDaqModeRegister, 0),
  (prepared.readoutPlan.stackTriggerRegister, 0),
  (prepared.readoutPlan.stackOffsetRegister, 0),
  (prepared.recoveryRecord.ownershipTokenRegister, 0)]

/-- Read registers back one by one until one is not zero. -/
def verifyZero : List (UInt16 × UInt32) → AcquisitionRun → Bool × AcquisitionRun
  | [], run => (true, run)
  | (address, _) :: cleanups, run =>
    match outside.readLocalRegisters run.log [address] with
    | (.error error, log) =>
      (false, { run with log }.fail ("Could not verify MVLC cleanup: " ++ error))
    | (.ok values, log) =>
      if values.head? = some 0 then verifyZero cleanups { run with log }
      else (false, { run with log }.fail "MVLC cleanup readback was not zero.")

/-- The writes, and a reading of each register. -/
def cleanUpController (run : AcquisitionRun) : AcquisitionRun :=
  match outside.writeLocalRegisters run.log (cleanupWrites run.prepared) with
  | (some error, log) =>
    { run with log }.fail ("Could not disable MVLC DAQ mode and the diagnostic stack: " ++ error)
  | (none, log) =>
    let (allZero, run) := verifyZero outside (cleanupWrites run.prepared) { run with log }
    run.setAcquisition { run.acquisition with
      daqModeDisabled := allZero
      readoutStackDisabled := allZero }

/-- With a restoration pending the journal has to stay. -/
def retainPendingRestorations (run : AcquisitionRun) : AcquisitionRun :=
  let run :=
    if run.prepared.recoveryRecord.previewRestoreRequired then
      (run.setAcquisition { run.acquisition with orphanRecoveryRequired := true }).fail
        ("The temporary parameter preview could not be restored. The selected module and MVLC " ++
          "stack were cleaned up, but the recovery journal was retained for the next-launch " ++
          "recovery flow.")
    else run
  if run.prepared.recoveryRecord.sourceRestoreRequired then
    (run.setAcquisition { run.acquisition with orphanRecoveryRequired := true }).fail
      ("The temporary waveform source could not be restored. The selected module and MVLC stack " ++
        "were cleaned up, but the recovery journal was retained for the next-launch recovery flow.")
  else run

/-- Nothing failed, and every part of the stop was verified. -/
def stoppedCleanly (run : AcquisitionRun) : Bool :=
  run.failure = "" && run.acquisition.moduleStopSent && run.acquisition.daqModeDisabled &&
    run.acquisition.readoutStackDisabled &&
    run.acquisition.nonTargetModulesVerifiedStoppedOnCleanup ==
      run.acquisition.nonTargetModulesQuiesced

/-- The journal is removed after a clean stop. -/
def removeStoppedJournal (run : AcquisitionRun) : AcquisitionRun :=
  if stoppedCleanly run then
    match outside.removeTunerRecoveryJournal run.log with
    | (some journalError, log) =>
      { run with log }.fail
        ("Hardware stopped cleanly, but the recovery journal could not be removed: " ++ journalError)
    | (none, log) =>
      let run := { run with log }
      run.setAcquisition { run.acquisition with
        recoveryJournalRemoved := true
        recoveryJournalPrepared := false
        recoveryJournalActive := false }
  else run

/-- The verdict. -/
def finishStop (cleanly : Bool) (run : AcquisitionRun) : AcquisitionRun :=
  let stopped : Bool := run.failure = "" && cleanly
  run.setAcquisition { run.acquisition with
    state := if stopped then .stopped else .failed
    message :=
      if stopped then
        "Direct acquisition stopped cleanly. The selected MDPP and all isolated non-target " ++
          "modules are stopped, MVLC DAQ mode is zero, and the diagnostic stack is disabled."
      else if run.failure = "" then
        "Direct acquisition cleanup did not pass every readback check."
      else run.failure }

/-- The session as the call leaves it, and the log. -/
def stopDiagnosticAcquisition (log : CrateLog) (prepared : DiagnosticAcquisitionPreparationResult)
    (ownershipCheck : DiagnosticStopOwnershipCheck) : AcquisitionRun :=
  let run : AcquisitionRun := { log, prepared }
  let run := run.setAcquisition { run.acquisition with state := .stopping }
  match checkStopOwnership outside ownershipCheck run with
  | (false, run) => run
  | (true, run) =>
    let run := stopTarget outside run
    let run := cleanUpIsolation outside run
    let run := cleanUpController outside run
    let run := { run with log := (outside.callDataPath run.log .close).2 }
    let run := retainPendingRestorations run
    finishStop (stoppedCleanly run) (removeStoppedJournal outside run)

end Stop

end Fidget
