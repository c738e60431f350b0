import Fidget.Core.ScpConfiguration
import Fidget.Hardware.Bench

/-!
# Preparing a module for startup

`core/StartupPreparation.cpp` and `hardware/StartupPreparationOperation.cpp`: eight module-wide
registers are read and the module is stopped; those that deviate from the readout contract are
written and read back, the readout is reset, and everything is read once more. If anything has
gone wrong by then, the attempted writes are undone in reverse order. At the very end the operation
looks whether the module is still stopped.

The source has a table of eight settings and refers to them by their indices; the model does so too.
The ownership gate is asked before every write, once for the two writes of the reset; a denial is a
failure like one of the transport, except that it also ends a rollback: nothing more is undone on a
module that may belong to somebody else.

## Main results

- `validateAudit`: what refuses an audit before anything is read.
- `preflight`, `applyContract`: the registers are read, and those that deviate written.
- `rollback`: the attempted writes undone, the last one first.
- `verifyStoppedState`: the last look at the module.
- `prepareFw2051ModuleForStartup`: the operation.
-/

namespace Fidget

/-! ### The readout contract

The registers are numbered by their place in the table. -/

/-- A register of the contract and what it is to hold. -/
structure Fw2051StartupPreparationDefinition where
  registerOffset : UInt16
  name : String
  targetValue : UInt16
  deriving DecidableEq, Repr

/-- The readout contract. -/
def fw2051StartupPreparationRegisterTable : List Fw2051StartupPreparationDefinition := [
  ⟨0x6006, "Fast MBLT", 1⟩,
  ⟨0x6010, "IRQ level", 1⟩,
  ⟨0x6018, "IRQ data threshold", 1⟩,
  ⟨0x601A, "Maximum transfer data", 1⟩,
  ⟨0x601C, "IRQ source", 0⟩,
  ⟨0x601E, "IRQ event threshold", 2⟩,
  ⟨0x6036, "Multi-event mode", 0x000B⟩,
  ⟨0x6044, "Output format", 0x0018⟩]

/-! ### Results -/

inductive StartupAuditState where
  | notRun
  | reading
  | complete
  | failed
  deriving DecidableEq, Repr

/-- Of an audit, what the preparation looks at. -/
structure StartupAuditResult where
  state : StartupAuditState := .notRun
  baseAddress : UInt32 := 0
  hardwareId : UInt16 := 0
  firmwareRevision : UInt16 := 0
  deriving DecidableEq, Repr

inductive StartupPreparationState where
  | notRun
  | preparing
  | rollingBack
  | passed
  | failed
  deriving DecidableEq, Repr

/-- What became of one register. -/
structure StartupPreparationRegisterResult where
  registerOffset : UInt16 := 0
  name : String := ""
  originalValue : UInt16 := 0
  targetValue : UInt16 := 0
  appliedReadback : UInt16 := 0
  rollbackReadback : UInt16 := 0
  changeRequired : Bool := false
  writeAttempted : Bool := false
  writeVerified : Bool := false
  rollbackAttempted : Bool := false
  rollbackVerified : Bool := false
  deriving DecidableEq, Repr

structure StartupPreparationResult where
  state : StartupPreparationState := .notRun
  message : String := "No module-wide startup preparation has been requested"
  baseAddress : UInt32 := 0
  hardwareId : UInt16 := 0
  firmwareRevision : UInt16 := 0
  originalAcquisitionValue : UInt16 := 0
  settingsRead : Nat := 0
  changedSettings : Nat := 0
  writesAttempted : Nat := 0
  writesVerified : Nat := 0
  rollbackWritesAttempted : Nat := 0
  rollbackWritesVerified : Nat := 0
  strictFirmwareAccepted : Bool := false
  moduleStopSent : Bool := false
  moduleStopVerified : Bool := false
  rollbackAttempted : Bool := false
  rollbackVerified : Bool := false
  fifoResetSent : Bool := false
  readoutResetSent : Bool := false
  moduleLeftStopped : Bool := false
  experimentSettingsPreserved : Bool := true
  registers : List StartupPreparationRegisterResult := []
  deriving DecidableEq, Repr

namespace StartupPreparation

/-! ### The run

What the source keeps in local variables, together with the module. Calls to the transport are
numbered by sites, so that each of them can be disturbed by itself. -/

/-- The calls to the transport; those for a register carry its index in the table. -/
inductive Site where
  | hardwareId
  | firmwareRevision
  | read (index : Nat)
  | acquisition
  | stop
  | stopReadback
  | write (index : Nat)
  | readback (index : Nat)
  | fifoReset
  | readoutReset
  | finalAcquisition
  | finalRead (index : Nat)
  | rollbackWrite (index : Nat)
  | rollbackReadback (index : Nat)
  | stoppedState
  deriving DecidableEq, Repr

/-- The calls to the ownership gate. -/
inductive Gate where
  | preflight
  | stop
  | write (index : Nat)
  | reset
  | finalVerification
  | rollback (index : Nat)
  | stoppedState
  deriving DecidableEq, Repr

/-- The local variables of the operation, and the module. -/
structure Run where
  bench : Bench
  result : StartupPreparationResult
  failure : String := ""
  ownershipAvailable : Bool := true
  attemptedSettings : List Nat := []
  rollbackSafe : Bool := true

namespace Run

def fail (run : Run) (message : String) : Run :=
  { run with failure := appendFailure run.failure message }

def updateSetting (run : Run) (index : Nat)
    (update : StartupPreparationRegisterResult → StartupPreparationRegisterResult) : Run :=
  { run with result := { run.result with
      registers := run.result.registers.modify index update } }

end Run

/-- The message that refuses an audit, empty when it is accepted. -/
def validateAudit (baseAddress : UInt32) (audit : StartupAuditResult) : String :=
  if audit.state ≠ .complete then
    "Module startup preparation requires a completed startup audit for the selected module."
  else if audit.baseAddress ≠ baseAddress then
    "The completed startup audit does not match the selected VME base address."
  else if audit.hardwareId ≠ mdpp32HardwareId ∨
      audit.firmwareRevision ≠ mdpp32ScpFirmwareRevisionFw2051 then
    "No VME write was sent: startup preparation is enabled only for the tested MDPP-32 hardware " ++
      "0x5007 with SCP FW2051."
  else ""

/-- Why the gate refuses. -/
def gateFailureMessage (gate : ScpCaptureGateResult) (cancellationRequested : Bool) : String :=
  if gate.message ≠ "" then gate.message
  else if cancellationRequested then "Module startup preparation was cancelled."
  else "Ownership could not be verified for module startup preparation."

section Operation

variable (fault : Site → Option Fault) (gate : Gate → ScpCaptureGateResult)
  (cancellationRequested : Gate → Bool)

/-- Once denied, ownership is not asked for again. -/
def reverifyOwnership (run : Run) (site : Gate) : Bool × Run :=
  if !run.ownershipAvailable then (false, run)
  else if (gate site).status = .allowed then (true, run)
  else
    (false, { run with ownershipAvailable := false }.fail
      (gateFailureMessage (gate site) (cancellationRequested site)))

def writeRegister (run : Run) (site : Site) (registerOffset value : UInt16) :
    Option String × Run :=
  let (error, bench) := run.bench.writeVmeD16 (fault site) registerOffset value
  (error, { run with bench })

/-! ### Before the first write

All that is read is compared with the contract at once. A register that holds its target needs no
write later. -/

/-- The identity is noted. -/
def readHardwareId (run : Run) : Run :=
  match run.bench.readVmeD16 (fault .hardwareId) 0x6008 with
  | .error error => run.fail (registerOperationError "read" "hardware ID" 0x6008 error)
  | .ok hardwareId => { run with result := { run.result with hardwareId } }

/-- So is the firmware revision. -/
def readFirmwareRevision (run : Run) : Run :=
  if run.failure = "" then
    match run.bench.readVmeD16 (fault .firmwareRevision) 0x600E with
    | .error error => run.fail (registerOperationError "read" "firmware revision" 0x600E error)
    | .ok firmwareRevision => { run with result := { run.result with firmwareRevision } }
  else run

/-- Both must be exactly those of the contract. -/
def acceptFirmware (run : Run) : Run :=
  let run :=
    if run.failure = "" ∧ (run.result.hardwareId ≠ mdpp32HardwareId ∨
        run.result.firmwareRevision ≠ mdpp32ScpFirmwareRevisionFw2051) then
      run.fail ("No VME write was sent: startup preparation is enabled only for the tested " ++
        "MDPP-32 hardware 0x5007 with SCP FW2051. The selected module reported hardware " ++
        hexadecimal32 run.result.hardwareId.toUInt32 ++ " and firmware " ++
        hexadecimal32 run.result.firmwareRevision.toUInt32 ++ ".")
    else run
  { run with result := { run.result with strictFirmwareAccepted := run.failure = "" } }

/-- One register is read and compared with its target. -/
def readSetting (run : Run) (indexed : Fw2051StartupPreparationDefinition × Nat) : Run :=
  let (definition, index) := indexed
  if run.failure ≠ "" then run
  else
    match run.bench.readVmeD16 (fault (.read index)) definition.registerOffset with
    | .error error =>
      run.fail (registerOperationError "read" definition.name definition.registerOffset error)
    | .ok currentValue =>
      let setting : StartupPreparationRegisterResult :=
        { registerOffset := definition.registerOffset
          name := definition.name
          originalValue := currentValue
          targetValue := definition.targetValue
          appliedReadback := currentValue
          changeRequired := currentValue ≠ definition.targetValue }
      { run with result := { run.result with
          registers := run.result.registers ++ [setting]
          settingsRead := run.result.settingsRead + 1
          changedSettings := run.result.changedSettings + if setting.changeRequired then 1 else 0 } }

/-- All eight, up to the first failure. -/
def readSettings (run : Run) : Run :=
  fw2051StartupPreparationRegisterTable.zipIdx.foldl (readSetting fault) run

/-- The acquisition is read, so that it can be told whether it was running. -/
def readAcquisition (run : Run) : Run :=
  if run.failure = "" then
    match run.bench.readVmeD16 (fault .acquisition) fw2051AcquisitionControlRegister with
    | .error error =>
      run.fail (registerOperationError "read" "acquisition enable"
        fw2051AcquisitionControlRegister error)
    | .ok originalAcquisitionValue =>
      { run with result := { run.result with originalAcquisitionValue } }
  else run

/-- Everything that is read before the first write. -/
def preflight (run : Run) : Run :=
  let run := readHardwareId fault run
  let run := readFirmwareRevision fault run
  let run := acceptFirmware run
  let run := readSettings fault run
  readAcquisition fault run

/-! ### Stop, write, reset

The module is stopped before its registers are written, and the readout is reset after that. -/

/-- The module is stopped and read back. -/
def stopModule (run : Run) : Run :=
  match reverifyOwnership gate cancellationRequested run .stop with
  | (false, run) => run
  | (true, run) =>
    match writeRegister fault run .stop fw2051AcquisitionControlRegister
        fw2051StopAcquisitionValue with
    | (some error, run) =>
      run.fail (registerOperationError "write" "stop acquisition"
        fw2051AcquisitionControlRegister error)
    | (none, run) =>
      let run := { run with result := { run.result with moduleStopSent := true } }
      match run.bench.readVmeD16 (fault .stopReadback) fw2051AcquisitionControlRegister with
      | .error error =>
        run.fail (registerOperationError "verify" "stopped acquisition"
          fw2051AcquisitionControlRegister error)
      | .ok stopReadback =>
        if stopReadback ≠ fw2051StopAcquisitionValue then
          run.fail ("Acquisition-enable readback was " ++ toString stopReadback ++
            ", expected zero after Stop.")
        else
          { run with result := { run.result with
              moduleStopVerified := true
              moduleLeftStopped := true } }

/-- Write the target value of a register and read it back. -/
def attemptSetting (run : Run) (index : Nat) (setting : StartupPreparationRegisterResult) : Run :=
  let run := { run.updateSetting index fun setting => { setting with writeAttempted := true } with
    attemptedSettings := run.attemptedSettings ++ [index] }
  let run := { run with result := { run.result with
    writesAttempted := run.result.writesAttempted + 1 } }
  match writeRegister fault run (.write index) setting.registerOffset setting.targetValue with
  | (some error, run) =>
    run.fail (registerOperationError "write" setting.name setting.registerOffset error)
  | (none, run) =>
    match run.bench.readVmeD16 (fault (.readback index)) setting.registerOffset with
    | .error error =>
      run.fail (registerOperationError "verify" setting.name setting.registerOffset error)
    | .ok appliedReadback =>
      let run := run.updateSetting index fun setting => { setting with appliedReadback }
      if appliedReadback ≠ setting.targetValue then
        run.fail (setting.name ++ " readback was " ++ toString appliedReadback ++ ", expected " ++
          toString setting.targetValue ++ ".")
      else
        let run := run.updateSetting index fun setting => { setting with writeVerified := true }
        { run with result := { run.result with
            writesVerified := run.result.writesVerified + 1 } }

/-- A register that holds its target value is left alone. -/
def writeSetting (run : Run) (index : Nat) : Run :=
  if run.failure = "" ∧ run.ownershipAvailable = true then
    let setting := run.result.registers.getD index {}
    if !setting.changeRequired then run
    else
      match reverifyOwnership gate cancellationRequested run (.write index) with
      | (false, run) => run
      | (true, run) => attemptSetting fault run index setting
  else run

/-- The registers that deviate, in order. -/
def writeSettings (run : Run) : Run :=
  (List.range run.result.registers.length).foldl (writeSetting fault gate cancellationRequested) run

/-- Two strobes. -/
def resetReadout (run : Run) : Run :=
  if run.failure = "" then
    match reverifyOwnership gate cancellationRequested run .reset with
    | (false, run) => run
    | (true, run) =>
      match writeRegister fault run .fifoReset fw2051FifoResetRegister
          fw2051ResetCommandValue with
      | (some error, run) =>
        run.fail (registerOperationError "write" "reset FIFO" fw2051FifoResetRegister error)
      | (none, run) =>
        let run := { run with result := { run.result with fifoResetSent := true } }
        match writeRegister fault run .readoutReset fw2051ReadoutResetRegister
            fw2051ResetCommandValue with
        | (some error, run) =>
          run.fail (registerOperationError "write" "reset readout" fw2051ReadoutResetRegister
            error)
        | (none, run) => { run with result := { run.result with readoutResetSent := true } }
  else run

/-! ### The final verification

Every register of the contract is read, also those that were not written. -/

/-- The module must still stand still. -/
def verifyAcquisition (run : Run) : Run :=
  match run.bench.readVmeD16 (fault .finalAcquisition) fw2051AcquisitionControlRegister with
  | .error error =>
    run.fail (registerOperationError "verify" "stopped acquisition"
      fw2051AcquisitionControlRegister error)
  | .ok acquisitionReadback =>
    if acquisitionReadback ≠ fw2051StopAcquisitionValue then
      { run with result := { run.result with moduleLeftStopped := false } }.fail
        "Acquisition-enable changed during final verification."
    else run

/-- The register must hold its target. -/
def verifySetting (run : Run) (indexed : StartupPreparationRegisterResult × Nat) : Run :=
  let (setting, index) := indexed
  if run.failure ≠ "" then run
  else
    match run.bench.readVmeD16 (fault (.finalRead index)) setting.registerOffset with
    | .error error =>
      run.fail (registerOperationError "final verify" setting.name setting.registerOffset error)
    | .ok finalReadback =>
      if finalReadback ≠ setting.targetValue then
        run.fail ("Final " ++ setting.name ++ " readback was " ++ toString finalReadback ++
          ", expected " ++ toString setting.targetValue ++ ".")
      else run

/-- Everything is read once more. -/
def finalVerification (run : Run) : Run :=
  if run.failure = "" then
    match reverifyOwnership gate cancellationRequested run .finalVerification with
    | (false, run) => run
    | (true, run) =>
      let run := verifyAcquisition fault run
      run.result.registers.zipIdx.foldl (verifySetting fault) run
  else run

/-! ### Rollback

In the order opposite to that of the writes, and only registers whose write was attempted. Without
ownership there is none. -/

/-- Write the original value back and read it. A failure makes the rollback unsafe but does not end
it. -/
def rollbackSetting (run : Run) (index : Nat) (setting : StartupPreparationRegisterResult) : Run :=
  let run := run.updateSetting index fun setting => { setting with rollbackAttempted := true }
  let run := { run with result := { run.result with
    rollbackWritesAttempted := run.result.rollbackWritesAttempted + 1 } }
  match writeRegister fault run (.rollbackWrite index) setting.registerOffset
      setting.originalValue with
  | (some error, run) =>
    { run.fail (registerOperationError "rollback" setting.name setting.registerOffset error) with
      rollbackSafe := false }
  | (none, run) =>
    match run.bench.readVmeD16 (fault (.rollbackReadback index)) setting.registerOffset with
    | .error error =>
      { run.fail (registerOperationError "verify rollback" setting.name setting.registerOffset
          error) with
        rollbackSafe := false }
    | .ok rollbackReadback =>
      let run := run.updateSetting index fun setting => { setting with rollbackReadback }
      if rollbackReadback ≠ setting.originalValue then
        { run.fail ("Rollback " ++ setting.name ++ " readback was " ++
            toString rollbackReadback ++ ", expected " ++ toString setting.originalValue ++
            ".") with
          rollbackSafe := false }
      else
        let run := run.updateSetting index fun setting => { setting with rollbackVerified := true }
        { run with result := { run.result with
            rollbackWritesVerified := run.result.rollbackWritesVerified + 1 } }

/-- Undo the registers with the given indexes, in this order. -/
def rollbackSettings (run : Run) : List Nat → Run
  | [] => run
  | index :: rest =>
    match reverifyOwnership gate cancellationRequested run (.rollback index) with
    | (false, run) => { run with rollbackSafe := false }
    | (true, run) =>
      rollbackSettings (rollbackSetting fault run index (run.result.registers.getD index {})) rest

/-- The attempted writes are undone if something failed and the ownership holds. -/
def rollback (run : Run) : Run :=
  if run.failure ≠ "" ∧ run.attemptedSettings ≠ [] then
    let run := { run with
      rollbackSafe := run.ownershipAvailable
      result := { run.result with
        state := .rollingBack
        rollbackAttempted := true } }
    let run := rollbackSettings fault gate cancellationRequested run run.attemptedSettings.reverse
    { run with result := { run.result with
        rollbackVerified := run.rollbackSafe &&
          run.result.rollbackWritesVerified == run.attemptedSettings.length } }
  else run

/-! ### The end -/

/-- The last look, after the rollback was decided on. -/
def verifyStoppedState (run : Run) : Run :=
  if run.ownershipAvailable = true ∧ run.result.moduleStopSent = true then
    match reverifyOwnership gate cancellationRequested run .stoppedState with
    | (false, run) => run
    | (true, run) =>
      match run.bench.readVmeD16 (fault .stoppedState) fw2051AcquisitionControlRegister with
      | .error error =>
        { run with result := { run.result with moduleLeftStopped := false } }.fail
          (registerOperationError "verify" "final stopped acquisition"
            fw2051AcquisitionControlRegister error)
      | .ok stoppedReadback =>
        let run := { run with result := { run.result with
          moduleLeftStopped := stoppedReadback = fw2051StopAcquisitionValue } }
        if run.result.moduleLeftStopped then run
        else run.fail "The module did not remain stopped after startup preparation."
  else run

/-- The verdict. -/
def finish (run : Run) : StartupPreparationResult :=
  let result := run.result
  let passed := run.failure = "" ∧ result.strictFirmwareAccepted = true ∧
    result.moduleStopVerified = true ∧ result.writesVerified = result.changedSettings ∧
    result.fifoResetSent = true ∧ result.readoutResetSent = true ∧ result.moduleLeftStopped = true
  { result with
    state := if passed then .passed else .failed
    message :=
      if passed then
        "Prepared the selected FW2051 SCP module for deterministic sampled standard-streaming " ++
          "readout. Verified " ++ toString result.changedSettings ++ " changed setting(s); " ++
          "experiment I/O, timestamps, event marking/TDC choices, and all banked detector " ++
          "settings were not addressed. The module remains stopped."
      else if result.rollbackVerified then
        run.failure ++ " Every attempted module-wide setting was restored with exact readback; " ++
          "acquisition remains stopped."
      else if run.failure = "" then
        "Module startup preparation did not reach a fully verified safe state."
      else run.failure }

/-- What follows a preflight without a failure, up to the rollback. -/
def applyContract (run : Run) : Run :=
  let run := stopModule fault gate cancellationRequested run
  let run := writeSettings fault gate cancellationRequested run
  let run := resetReadout fault gate cancellationRequested run
  finalVerification fault gate cancellationRequested run

end Operation

end StartupPreparation

open StartupPreparation in
/-- The operation. -/
def prepareFw2051ModuleForStartup (fault : Site → Option Fault)
    (cancellationRequested : Gate → Bool) (bench : Bench) (baseAddress : UInt32)
    (audit : StartupAuditResult) (ownershipGate : Option (Gate → ScpCaptureGateResult)) :
    StartupPreparationResult × Bench :=
  let result : StartupPreparationResult :=
    { state := .preparing
      message := "Validating exact hardware/firmware and capturing the tuner readout contract " ++
        "before the first write..."
      baseAddress }
  let failure := StartupPreparation.validateAudit baseAddress audit
  if failure ≠ "" then ({ result with state := .failed, message := failure }, bench)
  else
    match ownershipGate with
    | none =>
      ({ result with
          state := .failed
          message := "Module startup preparation has no ownership gate." }, bench)
    | some gate =>
      match StartupPreparation.reverifyOwnership gate cancellationRequested { bench, result }
          .preflight with
      | (false, run) =>
        ({ run.result with state := .failed, message := run.failure }, run.bench)
      | (true, run) =>
        let run := StartupPreparation.preflight fault run
        if run.failure ≠ "" then
          ({ run.result with state := .failed, message := run.failure }, run.bench)
        else
          let run := StartupPreparation.applyContract fault gate cancellationRequested run
          let run := StartupPreparation.rollback fault gate cancellationRequested run
          let run := StartupPreparation.verifyStoppedState fault gate cancellationRequested run
          (StartupPreparation.finish run, run.bench)

end Fidget
