import Fidget.Hardware.ScpCapture
import Fidget.Hardware.TargetProbe

/-!
# Preparing a tuning session

`hardware/PrepareTuningSessionOperation.cpp`: the target is probed, a record that names it is
installed as the recovery journal, the whole configuration is captured, and a second record with the
snapshot takes the place of the first. Before every selector write the acquisition mode is read, and
after every step the caller may stop the run.

The capture is the same as that of the other operations. Only its calls are other ones: they write
to the log of this operation, ask this operation's gate, and tell its caller at every checkpoint.

## Main results

- `preparationCalls`: the capture's calls, as this operation provides them: the gate reads the
  acquisition mode, the checkpoints are the caller's.
- `captureUnderJournal`: the steps between the two records.
- `prepareTuningSession`: the operation, with its result, the log and the directory of the journal.
-/

namespace Fidget

open TokenText RecoveryJournal

/-! ### Data

The result grows as the operation goes on, and says at any time how far it has come. -/

/-- How a preparation can end. -/
inductive PrepareTuningSessionOutcome where
  | notRun
  | snapshotCaptured
  | preflightRefused
  | storageUnavailable
  | recoveryRecordExists
  | controllerBecameActive
  | captureFailed
  | journalPromotionFailed
  | interrupted
  | transportUnavailable
  deriving DecidableEq, Repr

/-- What a preparation has left on disk. -/
inductive PrepareTuningSessionJournalPhase where
  | none
  | prepared
  | snapshotCaptured
  deriving DecidableEq, Repr

/-- How the controller is to be reached. -/
inductive TransportEndpointRequest where
  | directEthernet (mvlcHost : Text) (mvlcCommandPort : UInt16)
  | sshBridge (mvlcHost : Text) (mvlcCommandPort : UInt16)
    (sshDestination remoteBridgeCommand : Text)
  deriving DecidableEq, Repr

/-- The target, the way to it, and where the journal goes. -/
structure PrepareTuningSessionRequest where
  endpoint : TransportEndpointRequest
  targetAddress : TargetModuleAddress
  recoveryDirectory : String
  recoveryJournalPath : String

/-- The outcome, the phase of the journal, and what was found on the way. -/
structure PrepareTuningSessionResult where
  outcome : PrepareTuningSessionOutcome := .notRun
  journalPhase : PrepareTuningSessionJournalPhase := .none
  message : Text := []
  recoveryJournalPath : String := ""
  preflight : TargetProbeResult := {}
  liveRestoreSnapshot : Fw2051ScpConfigurationSnapshot := {}
  temporaryConnectionOpened : Bool := false
  temporaryConnectionClosed : Bool := false
  journalCreatedExclusively : Bool := false
  journalPromotedAtomically : Bool := false
  controllerBecameActive : Bool := false
  daqIdleChecks : Nat := 0
  completedCheckpoints : Nat := 0
  interruptedAt : Option PrepareTuningSessionCheckpoint := none
  deriving DecidableEq, Repr

/-- The operation's result as it grows, the log, and the directory of the journal. -/
structure PreparationRun where
  log : PreparationLog
  directory : RecoveryDirectory
  result : PrepareTuningSessionResult

namespace PreparationRun

/-- The outcome and its message. -/
def conclude (run : PreparationRun) (outcome : PrepareTuningSessionOutcome) (message : Text) :
    PreparationRun :=
  { run with result := { run.result with outcome, message } }

/-- The temporary session is closed. -/
def finish (run : PreparationRun) : PreparationRun :=
  { run with
    log := .close :: run.log
    result := { run.result with temporaryConnectionClosed := true } }

end PreparationRun

/-- The endpoint as the record has it. -/
def recoveryEndpoint : TransportEndpointRequest → ControllerEndpointRequest
  | .directEthernet mvlcHost mvlcCommandPort =>
    { kind := .directEthernet, mvlcHost, mvlcCommandPort
      sshDestination := [], remoteBridgeCommand := [] }
  | .sshBridge mvlcHost mvlcCommandPort sshDestination remoteBridgeCommand =>
    { kind := .sshBridge, mvlcHost, mvlcCommandPort, sshDestination, remoteBridgeCommand }

/-- The journal must lie in the recovery directory. -/
def recoveryPathBelongsToStorage (paths : PathOperations) (request : PrepareTuningSessionRequest) :
    Bool :=
  if request.recoveryJournalPath = "" ∨ paths.filename request.recoveryJournalPath = "" ∨
      request.recoveryDirectory = "" then false
  else paths.comparablePath (paths.parentPath request.recoveryJournalPath) =
    paths.comparablePath request.recoveryDirectory

/-- The outcome of a preparation whose probe has not found the target idle. -/
def outcomeForPreflight : TargetProbeOutcome → PrepareTuningSessionOutcome
  | .transportUnavailable => .transportUnavailable
  | .timeout => .transportUnavailable
  | .malformedResponse => .transportUnavailable
  | .cancelled => .interrupted
  | _ => .preflightRefused

/-- The record of a probe that has found everything. -/
def preparedTuningRecord (request : PrepareTuningSessionRequest) (probe : TargetProbeResult) :
    TunerRecoveryRecord :=
  { formatVersion := tunerRecoveryJournalV5FormatVersion
    version5 := some {
      sessionPhase := .preparing
      endpoint := recoveryEndpoint request.endpoint
      identity := {
        mvlcHardwareId := probe.mvlcHardwareId.getD 0
        mvlcFirmwareRevision := probe.mvlcFirmwareRevision.getD 0
        targetBaseAddress := request.targetAddress.fullA32Value
        targetHardwareId := probe.targetHardwareId.getD 0
        targetFirmwareRevision := probe.targetFirmwareRevision.getD 0 }
      selectorParkingRequired := true } }

/-- The record with the snapshot. -/
def promotedTuningRecord (prepared : TunerRecoveryRecord)
    (snapshot : Fw2051ScpConfigurationSnapshot) : TunerRecoveryRecord :=
  { prepared with version5 := prepared.version5.map fun data =>
      { data with selectorParkingRequired := false, liveRestoreSnapshot := some snapshot } }

/-! ### Checkpoints and the gate

The caller is asked after every step. The gate of the capture is the acquisition mode of the
controller, which has to be off before every write. -/

section

variable (outside : PreparationSurroundings)

/-- Pass a checkpoint; whether the run goes on. -/
def advance (kind : PrepareTuningSessionCheckpointKind) (quad : Option UInt16)
    (registerOffset : UInt16) (run : PreparationRun) : Bool × PreparationRun :=
  let event : PrepareTuningSessionCheckpoint :=
    { kind, quad, registerOffset, ordinal := run.result.completedCheckpoints }
  let (goesOn, log) := outside.passCheckpoint run.log event
  let result := { run.result with completedCheckpoints := run.result.completedCheckpoints + 1 }
  if goesOn then (true, { run with log, result })
  else (false, { run with log, result := { result with interruptedAt := some event } })

/-- The acquisition mode is read, and has to be off. -/
def daqGate (boundary : String) (run : PreparationRun) : ScpCaptureGateResult × PreparationRun :=
  match outside.loadCancellation run.log with
  | (true, log) =>
    ({ status := .cancelled
       message := "Session preparation was cancelled at " ++ boundary ++ "." }, { run with log })
  | (false, log) =>
    match outside.readLocalRegisters log [daqModeRegister] with
    | (.error error, log) =>
      ({ status := .communicationUnavailable
         message := "Could not reverify DAQ idleness at " ++ boundary ++ ": " ++ error },
        { run with log })
    | (.ok [daqMode], log) =>
      let result := { run.result with daqIdleChecks := run.result.daqIdleChecks + 1 }
      if daqMode ≠ 0 then
        ({ status := .ownershipLost
           message := "Controller acquisition became active at " ++ boundary ++
            ". No further hardware write was sent; the Prepared journal was retained." },
          { run with log, result := { result with controllerBecameActive := true } })
      else
        match advance outside .daqIdleVerified none daqModeRegister { run with log, result } with
        | (false, run) =>
          ({ status := .cancelled
             message := "Session preparation was interrupted after a DAQ-idle verification." },
            run)
        | (true, run) => ({ status := .allowed, message := "DAQ mode remains idle." }, run)
    | (.ok _, log) =>
      ({ status := .communicationUnavailable
         message := "The DAQ-idle gate returned an invalid value count at " ++ boundary ++ "." },
        { run with log })

/-- What the capture calls the place where it asks its gate. -/
def CaptureGate.boundary : CaptureGate → String
  | snapshot => "the SCP configuration snapshot"
  | bank quad => "SCP configuration bank " ++ toString quad
  | parking => "the SCP selector parking write"

/-- The checkpoints of the capture are told apart for the caller. -/
def preparationCheckpointKind : ScpCaptureCheckpointKind → PrepareTuningSessionCheckpointKind
  | .globalRegisterRead => .globalRegisterRead
  | .selectorSettled => .selectorSettled
  | .bankedRegisterRead => .bankedRegisterRead
  | .selectorParked => .selectorParked

/-- The capture on the open transport, with the gate and the checkpoints of this operation. -/
def preparationCalls (baseAddress : UInt32) : CaptureCalls PreparationRun where
  readVmeD16 := fun _ registerOffset run =>
    let (answer, log) := outside.readVmeD16 run.log (baseAddress + registerOffset.toUInt32)
    (answer, { run with log })
  writeVmeD16 := fun _ registerOffset value run =>
    let (error, log) := outside.writeVmeD16 run.log (baseAddress + registerOffset.toUInt32) value
    (error, { run with log })
  ownershipGate := fun gate run => daqGate outside gate.boundary run
  checkpoint := fun event run =>
    advance outside (preparationCheckpointKind event.kind) event.quad event.registerOffset run
  gateBeforeFirstSelector := true

/-! ### The operation

Written from its last step to its first, each step with what follows it. -/

/-- The second record takes the place of the first. -/
def promoteSnapshot (request : PrepareTuningSessionRequest) (prepared : TunerRecoveryRecord)
    (snapshot : Fw2051ScpConfigurationSnapshot) (run : PreparationRun) : PreparationRun :=
  let faults := outside.journalFaults run.log
  let (promoted, directory) := promoteTunerRecoveryJournalV5Snapshot faults
    (promotedTuningRecord prepared snapshot) request.recoveryJournalPath run.directory
  let run := { run with
    log := .promoteJournal faults promoted directory.destination :: run.log, directory }
  let installed := { run with result := { run.result with
    journalPromotedAtomically := true, journalPhase := .snapshotCaptured } }
  if !promoted.success then
    (if promoted.destinationInstalled then installed else run).conclude .journalPromotionFailed
      (ascii "The complete live snapshot could not replace its Prepared journal: "
        ++ promoted.message)
  else
    match advance outside .journalPromoted none 0 installed with
    | (false, run) =>
      run.conclude .interrupted
        (ascii "Session preparation stopped after the complete snapshot journal was installed.")
    | (true, run) =>
      run.conclude .snapshotCaptured
        (ascii ("Captured the complete 141-value live FW2051 restore snapshot under the v5 " ++
          "recovery journal."))

/-- The steps between a complete capture and the promotion. -/
def confirmCapture (request : PrepareTuningSessionRequest) (prepared : TunerRecoveryRecord)
    (snapshot : Fw2051ScpConfigurationSnapshot) (run : PreparationRun) : PreparationRun :=
  match advance outside .captureCompleted none 0 run with
  | (false, run) =>
    run.conclude .interrupted
      (ascii ("Session preparation stopped after capture and selector parking. The Prepared " ++
        "journal remains."))
  | (true, run) =>
    let (finalIdle, run) := daqGate outside "the snapshot-promotion boundary" run
    if finalIdle.status ≠ .allowed then
      run.conclude
        (if run.result.controllerBecameActive then .controllerBecameActive else .interrupted)
        (ascii finalIdle.message)
    else
      match advance outside .beforeJournalPromotion none 0 run with
      | (false, run) =>
        run.conclude .interrupted
          (ascii ("Session preparation stopped before journal promotion. The Prepared journal " ++
            "remains."))
      | (true, run) => promoteSnapshot outside request prepared snapshot run

/-- The outcome of a capture that is not complete. The flag is looked at only when it decides. -/
def captureFailureOutcome (run : PreparationRun) : PrepareTuningSessionOutcome × PreparationRun :=
  if run.result.controllerBecameActive then (.controllerBecameActive, run)
  else if run.result.interruptedAt.isSome then (.interrupted, run)
  else
    let (cancelled, log) := outside.loadCancellation run.log
    (if cancelled then .interrupted else .captureFailed, { run with log })

/-- The steps under the prepared journal. -/
def captureUnderJournal (request : PrepareTuningSessionRequest) (prepared : TunerRecoveryRecord)
    (run : PreparationRun) : PreparationRun :=
  match advance outside .journalPrepared none 0 run with
  | (false, run) =>
    run.conclude .interrupted
      (ascii ("Session preparation stopped after the durable Prepared journal was installed."))
  | (true, run) =>
    let base := request.targetAddress.fullA32Value
    let (captured, run) := captureThrough (preparationCalls outside base) base run
    let run := { run with result := { run.result with
      liveRestoreSnapshot := captured.configuration } }
    if captured.configuration.state ≠ .complete then
      let (outcome, run) := captureFailureOutcome outside run
      run.conclude outcome (ascii captured.configuration.message)
    else confirmCapture outside request prepared captured.configuration run

/-- The first record is installed, unless there is a journal already. -/
def createPreparedJournal (request : PrepareTuningSessionRequest) (run : PreparationRun) :
    PreparationRun :=
  let prepared := preparedTuningRecord request run.result.preflight
  let faults := outside.journalFaults run.log
  let (created, directory) := createTunerRecoveryJournalExclusive faults prepared
    request.recoveryJournalPath run.directory
  let run := { run with
    log := .createJournal faults created directory.destination :: run.log, directory }
  if !created.success then
    { run with result := { run.result with
        journalCreatedExclusively := created.destinationInstalled
        journalPhase := if created.destinationInstalled then .prepared else .none } }.conclude
      (if created.destinationAlreadyExists then .recoveryRecordExists else .storageUnavailable)
      (ascii "Session preparation wrote no selector state: " ++ created.message)
  else
    captureUnderJournal outside request prepared { run with result := { run.result with
      journalCreatedExclusively := true, journalPhase := .prepared } }

/-- The steps on the open transport. -/
def prepareOnOpenTransport (request : PrepareTuningSessionRequest) (run : PreparationRun) :
    PreparationRun :=
  let (preflight, log) := probeTargetOnOpenTransport outside request.targetAddress run.log
  let run := { run with log, result := { run.result with preflight } }
  if preflight.outcome ≠ .verifiedIdle then
    run.conclude (outcomeForPreflight preflight.outcome) (ascii preflight.message)
  else if !(preflight.targetHardwareId.any isWriteApprovedMdpp32HardwareId) then
    run.conclude .preflightRefused
      (ascii ("Session preparation refused the MDPP-32 v2 target. Write support for hardware ID " ++
        "0x500C awaits recorded hardware acceptance."))
  else
    let error := outside.prepareStorage run.log
    let run := { run with log := .prepareStorage error :: run.log }
    match error with
    | some message =>
      run.conclude .storageUnavailable
        (ascii ("Session preparation wrote no hardware state: " ++ message))
    | none => createPreparedJournal outside request run

/-- The transport is opened. -/
def openPreparationTransport (request : PrepareTuningSessionRequest) (run : PreparationRun) :
    PreparationRun :=
  let available := outside.commandTransport run.log
  let run := { run with log := .commandTransport available :: run.log }
  if !available then
    run.conclude .transportUnavailable
      (ascii "The session-preparation factory returned no command transport.")
  else
    let error := outside.openTransport run.log
    let run := { run with log := .openTransport error :: run.log }
    match error with
    | some error =>
      run.conclude .transportUnavailable
        (ascii ("Could not open the session-preparation transport: " ++ error))
    | none =>
      prepareOnOpenTransport outside request
        { run with result := { run.result with temporaryConnectionOpened := true } }

/-- The operation as a whole. -/
def prepareTuningSession (request : PrepareTuningSessionRequest) (directory : RecoveryDirectory)
    (log : PreparationLog) : PreparationRun :=
  let run : PreparationRun :=
    { log, directory, result := { recoveryJournalPath := request.recoveryJournalPath } }
  if !recoveryPathBelongsToStorage outside.paths request then
    run.conclude .storageUnavailable
      (ascii ("The recovery journal is not inside the application storage recovery directory."))
  else
    match outside.loadCancellation run.log with
    | (true, log) =>
      { run with log }.conclude .interrupted
        (ascii "Session preparation was cancelled before it began.")
    | (false, log) =>
      let error := outside.createSession log
      let run := { run with log := .createSession error :: log }
      match error with
      | some error =>
        run.conclude .transportUnavailable
          (ascii ("Could not create the session-preparation transport: " ++ error))
      | none => (openPreparationTransport outside request run).finish

end

end Fidget
