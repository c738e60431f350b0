import Fidget.Core.ScpConfiguration
import Fidget.Hardware.DiagnosticAcquisition.Stop

/-!
# Starting an acquisition

`PrepareDiagnosticAcquisition` and `StartPreparedDiagnosticAcquisition` of
`hardware/DiagnosticAcquisitionOperation.cpp`. The first validates the target and every other
configured module, saves the recovery journal and quiesces the other modules; the second installs the
readout stack with the ownership token, starts the target and enables the controller.

Both operations talk to several modules and to the controller, so they act on a log of events rather
than on one module: what a call answers may depend on everything that has happened before. A stage
that must not run after a failure is put behind `whenClean`; `whenGoing` looks at the cancellation
as well.

## Main results

- `validateHardware`: the identities and firmware revisions of all configured modules.
- `savePreparedJournal`, `saveActiveJournal`: the two records of a start.
- `quiesceIsolation`: the other modules are stopped and reset.
- `prepareDiagnosticAcquisition`, `startPreparedDiagnosticAcquisition`: the two operations.
-/

namespace Fidget

open TokenText

/-- The hardware id of a module. -/
def diagnosticHardwareIdRegister : UInt16 := 0x6008
/-- Its interrupt level. -/
def diagnosticIrqLevelRegister : UInt16 := 0x6010
/-- The format of its output. -/
def diagnosticOutputFormatRegister : UInt16 := 0x6044
/-- The hardware id of the controller. -/
def expectedMvlcHardwareId : UInt32 := 0x5008

/-- What an acquisition is to be prepared for. -/
structure DiagnosticAcquisitionPreparationRequest where
  host : Text := []
  commandPort : UInt16 := 32768
  mvlcHardwareId : UInt32 := 0
  mvlcFirmwareRevision : UInt32 := 0
  targetBaseAddress : UInt32 := 0
  requestedChannel : UInt16 := 0
  configuredModuleBaseAddresses : List UInt32 := []
  recoveryJournalPath : Text := []
  ownershipTokenValue : UInt32 := 0
  deriving DecidableEq, Repr

namespace AcquisitionRun

/-- The step is taken if nothing has failed so far. -/
def whenClean (step : AcquisitionRun → AcquisitionRun) (run : AcquisitionRun) : AcquisitionRun :=
  if run.failure = "" then step run else run

/-- The operation ends: with the failures, if there are any. -/
def finishFailed (run : AcquisitionRun) : AcquisitionRun :=
  run.setAcquisition { run.acquisition with state := .failed, message := run.failure }

end AcquisitionRun

section Prepare

variable (outside : Surroundings) (request : DiagnosticAcquisitionPreparationRequest)

/-! ### Before the hardware is read

The request is checked, and the gate is asked for the first time. -/

/-- What is wrong with the request itself, in the order it is checked. -/
def requestFailure (hasOwnershipGate : Bool) : String :=
  ([(decide (request.requestedChannel > 31),
      "The requested physical channel must be 0 through 31."),
    (request.host.isEmpty || request.commandPort == 0 ||
        request.mvlcHardwareId != expectedMvlcHardwareId,
      "Direct acquisition requires a verified MVLC endpoint and hardware identity."),
    (request.recoveryJournalPath.isEmpty,
      "Direct acquisition requires a recovery-journal path."),
    (!hasOwnershipGate, "Direct acquisition startup has no ownership gate.")].filter (·.1)).foldl
    (fun failure refusal => appendFailure failure refusal.2) ""

/-- Why the gate refuses; it is asked whether this is a cancellation. -/
def startGateFailureMessage (gate : ScpCaptureGateResult) (log : CrateLog) : String × CrateLog :=
  if gate.message ≠ "" then (gate.message, log)
  else
    let (cancelled, log) := outside.loadCancellation log
    (if cancelled then "Direct acquisition startup was cancelled."
      else "Ownership could not be verified for direct acquisition startup.", log)

/-- The gate in front of an operation. -/
def passStartGate (operationName : String) (run : AcquisitionRun) : AcquisitionRun :=
  let (gate, log) := outside.askGate run.log operationName
  if gate.status = .allowed then { run with log }
  else
    let (message, log) := startGateFailureMessage outside gate log
    let run := { run with log }.fail message
    run.setAcquisition { run.acquisition with
      foreignControllerDetected := gate.status = .ownershipLost
      cleanupSkippedToProtectForeignRun := gate.status = .ownershipLost
      communicationUncertain := gate.status = .communicationUnavailable
      commandPathFailures := run.acquisition.commandPathFailures +
        if gate.status = .communicationUnavailable then 1 else 0 }

/-! ### The target

Identity, firmware, output format and interrupt level are read from the target; the readout is
planned for that level. -/

/-- The target must be a module with a known identity and firmware. -/
def readTargetIdentity (run : AcquisitionRun) : AcquisitionRun :=
  match readVmeNoted outside run request.targetBaseAddress diagnosticHardwareIdRegister
      "hardware ID" with
  | (none, run) => run
  | (some hardwareId, run) =>
    let run := run.setAcquisition { run.acquisition with hardwareId }
    if isWriteApprovedMdpp32HardwareId hardwareId then run
    else
      run.fail
        (if hardwareId = mdpp32AlternateHardwareId then
          "MDPP-32 v2 acquisition writes await recorded hardware acceptance."
        else "The target does not identify as a supported MDPP-32 module.")

/-- Its output format is noted. -/
def readTargetOutputFormat (run : AcquisitionRun) : AcquisitionRun :=
  match readVmeNoted outside run request.targetBaseAddress diagnosticOutputFormatRegister
      "output format" with
  | (none, run) => run
  | (some outputFormat, run) => run.setAcquisition { run.acquisition with outputFormat }

/-- The format must be one that the readout understands. -/
def checkTargetOutputFormat (run : AcquisitionRun) : AcquisitionRun :=
  if run.acquisition.outputFormat &&& 0x10 = 0 then
    run.fail ("The selected MDPP is not configured for sample output. Run the read-only startup " ++
      "audit and the explicit verified startup-preparation transaction before direct acquisition.")
  else run

/-- Its interrupt level is noted. -/
def readTargetIrqLevel (run : AcquisitionRun) : AcquisitionRun :=
  match readVmeNoted outside run request.targetBaseAddress diagnosticIrqLevelRegister
      "IRQ level" with
  | (none, run) => run
  | (some irqLevel, run) => run.setAcquisition { run.acquisition with irqLevel }

/-- The readout is planned for this level. -/
def makeReadoutPlan (run : AcquisitionRun) : AcquisitionRun :=
  match makeMvlcSingleMdppReadoutPlan request.targetBaseAddress run.acquisition.irqLevel with
  | .error error => run.fail error
  | .ok readoutPlan => { run with prepared := { run.prepared with readoutPlan } }

/-! ### The other modules

Every configured module is read before any is written to. -/

/-- What is known of a module once it has been validated, and the failure if it was not. -/
def validateModule (run : AcquisitionRun) (configuredBase : UInt32) :
    DiagnosticModuleIsolation × Option String × CrateLog :=
  let isolation : DiagnosticModuleIsolation := { baseAddress := configuredBase }
  match outside.readVmeD16 run.log configuredBase diagnosticHardwareIdRegister with
  | (.error moduleError, log) =>
    ({ isolation with
        message := "Could not read the configured module's hardware ID: " ++ moduleError },
      some ("Could not validate configured MDPP at " ++ hexadecimal32 configuredBase ++ ": " ++
        moduleError), log)
  | (.ok hardwareId, log) =>
    let isolation := { isolation with hardwareId }
    if !isWriteApprovedMdpp32HardwareId hardwareId then
      if hardwareId = mdpp32AlternateHardwareId then
        ({ isolation with
            message := "MDPP-32 v2 isolation writes await recorded hardware acceptance." },
          some ("Configured MDPP-32 v2 at " ++ hexadecimal32 configuredBase ++
            " cannot be isolated until write support has recorded hardware acceptance."), log)
      else
        ({ isolation with
            message := "The configured address does not identify as a supported MDPP-32 module." },
          some ("Configured address " ++ hexadecimal32 configuredBase ++
            " is not a supported MDPP-32 module."), log)
    else
      match outside.readVmeD16 log configuredBase diagnosticIrqLevelRegister with
      | (.error moduleError, log) =>
        ({ isolation with
            message := "Could not read the configured module's IRQ level: " ++ moduleError },
          some ("Could not read the IRQ level at " ++ hexadecimal32 configuredBase ++ ": " ++
            moduleError), log)
      | (.ok irqLevel, log) =>
        let isolation := { isolation with irqLevel }
        match outside.readVmeD16 log configuredBase diagnosticAcquisitionControlRegister with
        | (.error moduleError, log) =>
          ({ isolation with
              message := "Could not read the configured module's acquisition state: " ++
                moduleError },
            some ("Could not read the acquisition state at " ++ hexadecimal32 configuredBase ++
              ": " ++ moduleError), log)
        | (.ok acquisitionStateBefore, log) =>
          let stopRequired : Bool := acquisitionStateBefore ≠ 0
          ({ isolation with
              acquisitionStateBefore
              validated := true
              sharesTargetIrq := irqLevel = run.acquisition.irqLevel
              stopRequired
              message :=
                if stopRequired then
                  "Validated; acquisition is active and must be quiesced before the selected " ++
                    "IRQ stack starts."
                else
                  "Validated; acquisition is already stopped, but its FIFO and readout state " ++
                    "will be reset." },
            none, log)

/-- The other modules one after the other, up to the first failure. -/
def validateModules : List UInt32 → AcquisitionRun → AcquisitionRun
  | [], run => run
  | configuredBase :: configuredBases, run =>
    if configuredBase = request.targetBaseAddress then validateModules configuredBases run
    else
      let (isolation, failure, log) := validateModule outside run configuredBase
      let run := { run with log }
      let run :=
        match failure with
        | none => run
        | some message => run.fail message
      validateModules configuredBases (run.setAcquisition { run.acquisition with
        activeNonTargetModulesFound := run.acquisition.activeNonTargetModulesFound +
          if isolation.stopRequired then 1 else 0
        moduleIsolation := run.acquisition.moduleIsolation ++ [isolation] })

/-! ### The journal

The record names the target, the readout stack and all modules that are to be isolated. -/

/-- The record of the session. A token of zero asks for a fresh one. -/
def preparedRecord (freshToken : UInt32) (prepared : DiagnosticAcquisitionPreparationResult) :
    TunerRecoveryRecord :=
  { prepared.recoveryRecord with
    phase := .prepared
    host := request.host
    commandPort := request.commandPort
    mvlcHardwareId := request.mvlcHardwareId
    mvlcFirmwareRevision := request.mvlcFirmwareRevision
    mdppBaseAddress := request.targetBaseAddress
    mdppHardwareId := prepared.acquisition.hardwareId
    mdppIrqLevel := prepared.acquisition.irqLevel
    mdppOutputFormat := prepared.acquisition.outputFormat
    stackTriggerRegister := prepared.readoutPlan.stackTriggerRegister
    stackTriggerValue := prepared.readoutPlan.triggerValue.toUInt32
    stackOffsetRegister := prepared.readoutPlan.stackOffsetRegister
    stackOffsetValue := prepared.readoutPlan.stackMemoryOffset.toUInt32
    ownershipTokenRegister :=
      (prepared.readoutPlan.stackUploadWrites.getLast?.map (·.1)).getD 0 + 4
    ownershipTokenValue :=
      if request.ownershipTokenValue = 0 then freshToken else request.ownershipTokenValue
    isolatedModuleBaseAddresses := prepared.recoveryRecord.isolatedModuleBaseAddresses ++
      prepared.acquisition.moduleIsolation.map (·.baseAddress) }

/-- The record is saved before anything is written. -/
def savePreparedJournal (freshToken : UInt32) (run : AcquisitionRun) : AcquisitionRun :=
  let record := preparedRecord request freshToken run.prepared
  let run := { run with prepared := { run.prepared with recoveryRecord := record } }
  match outside.saveTunerRecoveryJournal run.log record with
  | (some error, log) =>
    { run with log }.fail ("Could not prepare crash recovery before changing any configured " ++
      "module state: " ++ error)
  | (none, log) =>
    { run with log }.setAcquisition { run.acquisition with recoveryJournalPrepared := true }

/-! ### Quiescence

Stop, read back, reset: what becomes of each of these is noted for the module, also when the next
step is not reached. -/

/-- Stop the module if it was running. -/
def quiesceStop (isolation : DiagnosticModuleIsolation) (log : CrateLog) :
    DiagnosticModuleIsolation × String × CrateLog :=
  if isolation.stopRequired then
    match outside.writeVmeD16 log isolation.baseAddress diagnosticAcquisitionControlRegister 0 with
    | (none, log) => ({ isolation with stopSent := true }, "", log)
    | (some moduleError, log) =>
      ({ isolation with stopSent := false }, "Could not stop acquisition: " ++ moduleError, log)
  else (isolation, "", log)

/-- See that the module is stopped. -/
def quiesceVerify (isolation : DiagnosticModuleIsolation) (log : CrateLog) :
    DiagnosticModuleIsolation × String × CrateLog :=
  match outside.readVmeD16 log isolation.baseAddress diagnosticAcquisitionControlRegister with
  | (.error moduleError, log) =>
    (isolation, "Could not verify the stopped state: " ++ moduleError, log)
  | (.ok stoppedReadback, log) =>
    ({ isolation with
        acquisitionStateAfter := stoppedReadback
        stopVerified := stoppedReadback = 0 },
      if stoppedReadback = 0 then ""
      else "Acquisition-control readback remained " ++ hexadecimal32 stoppedReadback.toUInt32 ++
        ".",
      log)

/-- Reset what the module has collected. -/
def quiesceReset (isolation : DiagnosticModuleIsolation) (moduleFailure : String)
    (log : CrateLog) : DiagnosticModuleIsolation × String × CrateLog :=
  let (fifoError, log) :=
    outside.writeVmeD16 log isolation.baseAddress diagnosticFifoResetRegister 1
  let moduleFailure :=
    match fifoError with
    | none => moduleFailure
    | some moduleError => "Could not reset the stopped module's FIFO: " ++ moduleError
  let (readoutError, log) :=
    outside.writeVmeD16 log isolation.baseAddress diagnosticReadoutResetRegister 1
  let moduleFailure :=
    match readoutError with
    | none => moduleFailure
    | some moduleError =>
      appendFailure moduleFailure
        ("Could not reset the stopped module's readout state: " ++ moduleError)
  ({ isolation with
      fifoResetSent := fifoError.isNone
      readoutResetSent := readoutError.isNone },
    moduleFailure, log)

/-- A module is stopped, read back and reset. -/
def quiesceModule (isolation : DiagnosticModuleIsolation) (run : AcquisitionRun) :
    DiagnosticModuleIsolation × AcquisitionRun :=
  let (isolation, moduleFailure, log) :=
    quiesceStop outside { isolation with quiescenceAttempted := true } run.log
  let (isolation, moduleFailure, log) :=
    if moduleFailure = "" then quiesceVerify outside isolation log
    else (isolation, moduleFailure, log)
  let (isolation, moduleFailure, log) :=
    if isolation.stopVerified then quiesceReset outside isolation moduleFailure log
    else (isolation, moduleFailure, log)
  let run := { run with log }
  if moduleFailure = "" ∧ isolation.stopVerified ∧ isolation.fifoResetSent ∧
      isolation.readoutResetSent then
    ({ isolation with
        message := "Quiesced and verified stopped; FIFO and readout state were reset." },
      run.setAcquisition { run.acquisition with
        nonTargetModulesQuiesced := run.acquisition.nonTargetModulesQuiesced + 1 })
  else
    ({ isolation with message := moduleFailure },
      run.fail ("Could not quiesce configured MDPP at " ++ hexadecimal32 isolation.baseAddress ++
        ": " ++ moduleFailure))

/-- The modules one after the other. -/
def quiesceModules : List DiagnosticModuleIsolation → AcquisitionRun →
    List DiagnosticModuleIsolation × AcquisitionRun
  | [], run => ([], run)
  | isolation :: isolations, run =>
    let (isolation, run) := quiesceModule outside isolation run
    let (isolations, run) := quiesceModules isolations run
    (isolation :: isolations, run)

/-- All modules that were found. -/
def quiesceIsolation (run : AcquisitionRun) : AcquisitionRun :=
  let (moduleIsolation, run) := quiesceModules outside run.acquisition.moduleIsolation run
  run.setAcquisition { run.acquisition with moduleIsolation }

/-! ### The operation -/

/-- The verdict of the preparation. -/
def finishPreparation (run : AcquisitionRun) : AcquisitionRun :=
  if run.failure ≠ "" then
    let run :=
      if run.acquisition.recoveryJournalPrepared then
        { run.setAcquisition { run.acquisition with orphanRecoveryRequired := true } with
          failure := run.failure ++ " The Prepared recovery journal was retained." }
      else run
    run.finishFailed
  else
    run.setAcquisition { run.acquisition with
      message := "Tuner ownership was journaled before non-target isolation, and isolation is " ++
        "complete before the first diagnostic-stack write." }

/-- What is checked of the hardware before anything is written. -/
def validateHardware (run : AcquisitionRun) : AcquisitionRun :=
  let run := readTargetIdentity outside request run
  let run := run.whenClean (readTargetOutputFormat outside request)
  let run := run.whenClean checkTargetOutputFormat
  let run := run.whenClean (readTargetIrqLevel outside request)
  let run := run.whenClean (makeReadoutPlan request)
  run.whenClean (validateModules outside request request.configuredModuleBaseAddresses)

/-- What is known before the first call. -/
def initialPreparation (hasOwnershipGate : Bool) (log : CrateLog) : AcquisitionRun :=
  { log
    failure := requestFailure request hasOwnershipGate
    prepared := { acquisition := {
      state := .starting
      message := "Verifying the MDPP and preparing a direct MVLC readout stack..."
      baseAddress := request.targetBaseAddress
      requestedChannel := request.requestedChannel
      configuredModuleCount := request.configuredModuleBaseAddresses.length
      nonTargetModuleCount := request.configuredModuleBaseAddresses.length - 1 } } }

/-- The first operation. -/
def prepareDiagnosticAcquisition (hasOwnershipGate : Bool) (freshToken : UInt32)
    (log : CrateLog) : AcquisitionRun :=
  let run := (initialPreparation request hasOwnershipGate log).whenClean
    (passStartGate outside "direct diagnostic acquisition")
  if run.failure ≠ "" then run.finishFailed
  else
    let run := validateHardware outside request run
    let run := run.whenClean (savePreparedJournal outside request freshToken)
    let run := run.whenClean (passStartGate outside "non-target MDPP quiescence")
    let run := run.whenClean (quiesceIsolation outside)
    finishPreparation run

end Prepare

section StartPrepared

variable (outside : Surroundings) (request : DiagnosticAcquisitionPreparationRequest)

/-- The data path is opened. -/
def openDataPath (run : AcquisitionRun) : AcquisitionRun :=
  match outside.callDataPath run.log .open with
  | (some error, log) => { run with log }.fail ("Could not open the MVLC data path: " ++ error)
  | (none, log) => { run with log }

/-- The controller is told to use it. -/
def redirectDataPath (run : AcquisitionRun) : AcquisitionRun :=
  match outside.callDataPath run.log .redirect with
  | (some error, log) =>
    { run with log }.fail ("Could not redirect the MVLC Ethernet data stream: " ++ error)
  | (none, log) => { run with log }

/-- A write to the controller, whose failure is noted after the given text. -/
def writeLocalNoted (writes : List (UInt16 × UInt32)) (message : String) (run : AcquisitionRun) :
    AcquisitionRun :=
  match outside.writeLocalRegisters run.log writes with
  | (some error, log) => { run with log }.fail (message ++ error)
  | (none, log) => { run with log }

/-! ### What is written to the controller

Three batches. The stack comes first and the trigger last, so that nothing starts the stack before
it is complete. -/

/-- The words of the readout stack. -/
def stackInstallWrites (prepared : DiagnosticAcquisitionPreparationResult) :
    List (UInt16 × UInt32) :=
  prepared.readoutPlan.stackUploadWrites ++
    [(prepared.recoveryRecord.ownershipTokenRegister, prepared.recoveryRecord.ownershipTokenValue)]

/-- Where the stack is and what it sends. -/
def stackSetupWrites (prepared : DiagnosticAcquisitionPreparationResult) :
    List (UInt16 × UInt32) := [
  (prepared.readoutPlan.stackOffsetRegister, prepared.readoutPlan.stackMemoryOffset.toUInt32),
  (prepared.readoutPlan.stackTriggerRegister, 0)]

/-- What starts the stack. -/
def stackTriggerWrites (prepared : DiagnosticAcquisitionPreparationResult) :
    List (UInt16 × UInt32) :=
  [(prepared.readoutPlan.stackTriggerRegister, prepared.readoutPlan.triggerValue.toUInt32)]

/-- What enables the controller. -/
def daqEnableWrites : List (UInt16 × UInt32) :=
  [(diagnosticDaqModeRegister, diagnosticDaqEnableValue)]

/-- The stack is written, set up and triggered. -/
def installReadoutStack (run : AcquisitionRun) : AcquisitionRun :=
  let run := run.whenClean (writeLocalNoted outside (stackInstallWrites run.prepared)
    "Could not upload the diagnostic readout stack and unique ownership token: ")
  let run := run.whenClean (writeLocalNoted outside (stackSetupWrites run.prepared)
    "Could not prepare the diagnostic readout stack: ")
  run.whenClean (writeLocalNoted outside (stackTriggerWrites run.prepared)
    "Could not enable the diagnostic IRQ stack: ")

/-! ### The target is started

The last steps can be cancelled. A cancellation after the last write is noticed as well. -/

/-- The writes that start the target, in order. -/
def startSequence : List (UInt16 × UInt16 × String) := [
  (diagnosticAcquisitionControlRegister, 0, "stop acquisition"),
  (diagnosticFifoResetRegister, 1, "reset FIFO"),
  (diagnosticReadoutResetRegister, 1, "reset readout"),
  (diagnosticAcquisitionControlRegister, 1, "start acquisition")]

/-- The step is taken if nothing has failed and the start was not cancelled. -/
def whenGoing (step : AcquisitionRun → AcquisitionRun) (run : AcquisitionRun) : AcquisitionRun :=
  if run.failure = "" then
    let (cancelled, log) := outside.loadCancellation run.log
    if cancelled then { run with log } else step { run with log }
  else run

/-- They are sent up to the first that fails, or up to a cancellation. -/
def sendStartSequence : List (UInt16 × UInt16 × String) → AcquisitionRun → AcquisitionRun
  | [], run => run
  | (registerOffset, value, name) :: writes, run =>
    whenGoing outside (fun run =>
      sendStartSequence writes
        (writeVmeNoted outside run run.acquisition.baseAddress registerOffset value name).2) run

/-- The controller must read back as enabled. -/
def verifyDaqEnabled (run : AcquisitionRun) : AcquisitionRun :=
  match outside.readLocalRegisters run.log [diagnosticDaqModeRegister] with
  | (.error error, log) => { run with log }.fail ("Could not verify MVLC DAQ mode: " ++ error)
  | (.ok values, log) =>
    if values = [] ∨ values.headD 0 &&& 0x1 = 0 then
      { run with log }.fail "MVLC DAQ mode did not enable autonomous-stack bit 0."
    else { run with log }

/-- The record is saved once more, as active. -/
def saveActiveJournal (run : AcquisitionRun) : AcquisitionRun :=
  let record := { run.prepared.recoveryRecord with phase := .active }
  let run := { run with prepared := { run.prepared with recoveryRecord := record } }
  match outside.saveTunerRecoveryJournal run.log record with
  | (some error, log) =>
    { run with log }.fail ("DAQ mode was enabled, but the active recovery record could not be " ++
      "committed: " ++ error)
  | (none, log) =>
    { run with log }.setAcquisition { run.acquisition with recoveryJournalActive := true }

/-- A cancellation that comes after the last write still fails the start. -/
def checkStartCancelled (run : AcquisitionRun) : AcquisitionRun :=
  let (cancelled, log) := outside.loadCancellation run.log
  if cancelled ∧ run.failure = "" then
    { run with log }.fail "Direct acquisition startup was cancelled."
  else { run with log }

/-- The verdict of the start. -/
def finishStart (run : AcquisitionRun) : AcquisitionRun :=
  if run.failure ≠ "" then
    let run := run.finishFailed
    { run with log := (outside.callDataPath run.log .close).2 }
  else
    run.setAcquisition { run.acquisition with
      state := .running
      message := "Direct diagnostic acquisition is running with every configured non-target MDPP " ++
        "quiesced. The selected module's sample source and all filtering registers are unchanged." }

/-- Why the start is refused. -/
def startFailure (prepared : DiagnosticAcquisitionPreparationResult) : String :=
  let failure :=
    if prepared.acquisition.state ≠ .starting ∨ !prepared.acquisition.recoveryJournalPrepared then
      "Diagnostic acquisition cannot start without completed isolation and a prepared recovery " ++
        "journal."
    else ""
  if request.commandPort = 0xFFFF then
    appendFailure failure "The MVLC command port has no adjacent data port."
  else failure

/-- The second operation. -/
def startPreparedDiagnosticAcquisition (log : CrateLog)
    (prepared : DiagnosticAcquisitionPreparationResult) : AcquisitionRun :=
  let run : AcquisitionRun := { log, prepared, failure := startFailure request prepared }
  if run.failure ≠ "" then run.finishFailed
  else
    let run := run.setAcquisition { run.acquisition with dataPort := request.commandPort + 1 }
    let run := openDataPath outside run
    let run := run.whenClean (redirectDataPath outside)
    let run := installReadoutStack outside run
    let run := sendStartSequence outside startSequence run
    let run := whenGoing outside (writeLocalNoted outside daqEnableWrites
      "Could not enable MVLC DAQ mode: ") run
    let run := whenGoing outside (verifyDaqEnabled outside) run
    let run := whenGoing outside (saveActiveJournal outside) run
    let run := checkStartCancelled outside run
    finishStart outside run

/-- The two operations as the service runs them: the second if the first is completed. -/
def runDiagnosticAcquisitionStart (hasOwnershipGate : Bool) (freshToken : UInt32)
    (log : CrateLog) : AcquisitionRun :=
  let run := prepareDiagnosticAcquisition outside request hasOwnershipGate freshToken log
  if run.acquisition.state = .starting then
    startPreparedDiagnosticAcquisition outside request run.log run.prepared
  else run

end StartPrepared

end Fidget
