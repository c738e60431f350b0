import Fidget.Hardware.SentWrites

/-!
# Repairing one value

`hardware/ScpSingleRepairOperation.cpp`: the module is stopped if need be, the bank of the value
selected and the value written, if the register still holds what it is expected to. A write that is
not verified is undone, the selector is parked, and the readout reset.

Every call to the transport has a name, its site, and so has every question to the ownership gate.
What they answer is given by `fault` and `gate`, so a theorem about all of these is one about every
way in which the transport can fail and ownership be lost. The stages of the source are functions on
a run, one after the other; what the source guards by `if (failure.empty())` is a stage that does
nothing after a failure.

The run keeps three logs: the writes sent, the values read, and the values that had been read when
the profile value was written. The operation looks at none of them; they are there for the
statements about what was done in which order.

## Main results

- `stopModule`, `selectBank`, `checkDependency`, `captureLiveValue`: what precedes the write.
- `writeProfileValue`, `rollback`: the write with its readback, and its undoing.
- `repairFw2051ScpProfileValue`: the operation, with what it validates first.
-/

namespace Fidget

inductive ScpSingleRepairState where
  | notRun
  | applying
  | passed
  | failed
  deriving DecidableEq, Repr

/-- The value to be repaired: where it is, what the register is expected to hold and what it is to
hold. -/
structure ScpSingleRepairRequest where
  baseAddress : UInt32 := 0
  quad : UInt16 := 0
  registerOffset : UInt16 := 0
  expectedLiveValue : UInt16 := 0
  profileValue : UInt16 := 0
  deriving DecidableEq, Repr

/-- What the repair says about itself. -/
structure ScpSingleRepairResult where
  state : ScpSingleRepairState := .notRun
  message : String := "No SCP profile repair has been requested"
  settingName : String := "SCP parameter"
  dependencyName : String := ""
  baseAddress : UInt32 := 0
  selectedQuad : UInt16 := 0
  registerOffset : UInt16 := 0
  expectedLiveValue : UInt16 := 0
  profileValue : UInt16 := 0
  capturedLiveValue : UInt16 := 0
  appliedReadback : UInt16 := 0
  rollbackReadback : UInt16 := 0
  dependencyValue : UInt16 := 0
  dependencyChecked : Bool := false
  liveValueCaptured : Bool := false
  moduleStopSent : Bool := false
  moduleStopVerified : Bool := false
  writeAttempted : Bool := false
  writeVerified : Bool := false
  rollbackAttempted : Bool := false
  rollbackVerified : Bool := false
  selectorParkedAtQuadZero : Bool := false
  fifoResetSent : Bool := false
  readoutResetSent : Bool := false
  moduleLeftStopped : Bool := false
  communicationUnavailable : Bool := false
  profileValueRetained : Bool := false
  deriving DecidableEq, Repr

namespace SingleRepair

/-- The calls to the transport. -/
inductive Site where
  | hardwareId
  | firmwareRevision
  | acquisition
  | stop
  | stopReadback
  | select
  | dependency
  | capture
  | write
  | readback
  | rollbackWrite
  | rollbackReadback
  | park
  | fifoReset
  | readoutReset
  | stoppedState
  deriving DecidableEq, Repr

/-- The calls to the ownership gate. -/
inductive Gate where
  | repair
  | stop
  | select
  | write
  | rollback
  | park
  | fifoReset
  | readoutReset
  | stoppedState
  deriving DecidableEq, Repr

/-- A register that was read, and its value. -/
structure Reading where
  site : Site
  registerOffset : UInt16
  value : UInt16
  deriving DecidableEq, Repr

/-- The local variables of the operation, and the module. The operation does not look at its logs:
`sent`, the writes it has sent, `readings`, the values it has read, and `readingsBeforeWrite`, those
it had read by the time it wrote the profile value. -/
structure Run where
  bench : Bench
  result : ScpSingleRepairResult
  failure : String := ""
  ownershipAvailable : Bool := true
  selectorWasWritten : Bool := false
  sent : List SentWrite := []
  readings : List Reading := []
  readingsBeforeWrite : List Reading := []

/-- A failure is appended to those before it. -/
def Run.fail (run : Run) (message : String) : Run :=
  { run with failure := appendFailure run.failure message }

/-- A reading that was answered is noted with its place in the operation. -/
def Run.noteReading (run : Run) (site : Site) (registerOffset value : UInt16) : Run :=
  { run with readings := run.readings ++ [⟨site, registerOffset, value⟩] }

def gateFailureMessage (gate : ScpCaptureGateResult) (cancellationRequested : Bool) : String :=
  if gate.message ≠ "" then gate.message
  else if cancellationRequested then "The SCP profile repair was cancelled."
  else "Ownership could not be verified for the SCP profile repair."

/-- The message that refuses a request, empty when it is accepted. -/
def validateRequest (request : ScpSingleRepairRequest) : String :=
  if request.baseAddress &&& 0xFFFF ≠ 0 then
    "The MDPP base must be a full 64-KiB-aligned A32 address."
  else if request.quad.toNat ≥ fw2051ScpQuadCount then
    "The SCP channel quad must be between 0 and 7."
  else if (findFw2051ScpSetting request.registerOffset).isNone then
    "Retained profile repair is not available for this register."
  else validateFw2051ScpProfileValue request.registerOffset request.profileValue

section Operation

variable (fault : Site → Option Fault) (gate : Gate → ScpCaptureGateResult)
  (cancellationRequested : Gate → Bool) (definition : Fw2051ScpSettingDefinition)
  (request : ScpSingleRepairRequest)

/-- Once denied, ownership is not asked for again. -/
def reverifyOwnership (run : Run) (site : Gate) : Bool × Run :=
  if !run.ownershipAvailable then (false, run)
  else if (gate site).status = .allowed then (true, run)
  else
    (false, { run with
      ownershipAvailable := false
      result := { run.result with
        communicationUnavailable :=
          (gate site).status == ScpCaptureGateStatus.communicationUnavailable } }.fail
      (gateFailureMessage (gate site) (cancellationRequested site)))

/-- A write, noted on the log of the run whether or not it is answered. -/
def writeRegister (run : Run) (site : Site) (registerOffset value : UInt16)
    (parkingWrite : Bool) : Option String × Run :=
  let (error, bench) := run.bench.writeVmeD16 (fault site) registerOffset value
  (error, { run with
    bench
    sent := run.sent ++ [.vme registerOffset value parkingWrite (fault site)] })

/-! ### The module

The module has to be identified before anything else, and it must stand still before the bank is
selected. -/

/-- The module must be an approved one. -/
def readHardwareId (run : Run) : Run :=
  match run.bench.readVmeD16 (fault .hardwareId) 0x6008 with
  | .error error => run.fail (registerOperationError "read" "hardware ID" 0x6008 error)
  | .ok hardwareId =>
    let run := run.noteReading .hardwareId 0x6008 hardwareId
    if isWriteApprovedMdpp32HardwareId hardwareId then run
    else
      run.fail (
        if hardwareId = mdpp32AlternateHardwareId then
          "MDPP-32 v2 repair writes await recorded hardware acceptance."
        else "The target does not identify as a write-approved MDPP-32 module.")

/-- Its firmware must be the expected one. -/
def readFirmwareRevision (run : Run) : Run :=
  if run.failure = "" then
    match run.bench.readVmeD16 (fault .firmwareRevision) 0x600E with
    | .error error => run.fail (registerOperationError "read" "firmware revision" 0x600E error)
    | .ok firmwareRevision =>
      let run := run.noteReading .firmwareRevision 0x600E firmwareRevision
      if firmwareRevision ≠ mdpp32ScpFirmwareRevisionFw2051 then
        run.fail ("The target does not report supported SCP FW2051 firmware; the SCP profile " ++
          "value was not applied.")
      else run
  else run

/-- Stop the module and see that it has stopped. -/
def sendStop (run : Run) : Run :=
  match writeRegister fault run .stop fw2051AcquisitionControlRegister fw2051StopAcquisitionValue
      false with
  | (some error, run) =>
    run.fail (registerOperationError "write" "stop acquisition" fw2051AcquisitionControlRegister
      error)
  | (none, run) =>
    let run := { run with result := { run.result with moduleStopSent := true } }
    match run.bench.readVmeD16 (fault .stopReadback) fw2051AcquisitionControlRegister with
    | .error error =>
      run.fail (registerOperationError "verify" "stopped acquisition"
        fw2051AcquisitionControlRegister error)
    | .ok stopReadback =>
      let run := run.noteReading .stopReadback fw2051AcquisitionControlRegister stopReadback
      if stopReadback ≠ fw2051StopAcquisitionValue then
        run.fail ("Acquisition-enable readback was " ++ toString stopReadback ++
          ", expected zero after Stop. No further write was sent.")
      else { run with result := { run.result with moduleStopVerified := true } }

/-- A module that has stopped already is left alone. -/
def stopModule (run : Run) : Run :=
  if run.failure = "" then
    match run.bench.readVmeD16 (fault .acquisition) fw2051AcquisitionControlRegister with
    | .error error =>
      run.fail (registerOperationError "read" "acquisition enable" fw2051AcquisitionControlRegister
        error)
    | .ok acquisitionState =>
      let run := run.noteReading .acquisition fw2051AcquisitionControlRegister acquisitionState
      if acquisitionState = fw2051StopAcquisitionValue then
        { run with result := { run.result with moduleStopVerified := true } }
      else
        match reverifyOwnership gate cancellationRequested run .stop with
        | (false, run) => run
        | (true, run) => sendStop fault run
  else run

/-! ### The value

The dependency and the live value are read with the bank selected. Only if both are as expected is
the profile value written. -/

/-- The bank is selected on a module that stands still. -/
def selectBank (run : Run) : Run :=
  if run.failure = "" ∧ run.result.moduleStopVerified = true then
    match reverifyOwnership gate cancellationRequested run .select with
    | (false, run) => run
    | (true, run) =>
      match writeRegister fault run .select fw2051ScpSelectorRegister request.quad false with
      | (some error, run) =>
        run.fail (registerOperationError "write" "channel-quad selector" fw2051ScpSelectorRegister
          error)
      | (none, run) => { run with selectorWasWritten := true }
  else run

/-- The register that the setting depends on must agree with the new value. -/
def checkDependency (run : Run) : Run :=
  if run.failure = "" ∧ definition.dependencyRule ≠ .none then
    let run := { run with result := { run.result with
      dependencyName := definition.dependencyName } }
    match run.bench.readVmeD16 (fault .dependency) definition.dependencyRegister with
    | .error error =>
      run.fail (registerOperationError "read" (run.result.dependencyName ++ " dependency")
        definition.dependencyRegister error)
    | .ok dependencyValue =>
      let run := run.noteReading .dependency definition.dependencyRegister dependencyValue
      let run := { run with result := { run.result with
        dependencyValue
        dependencyChecked := true } }
      if fw2051ScpDependencySatisfied definition request.profileValue dependencyValue then run
      else
        run.fail ("The profile " ++ run.result.settingName ++ " must be " ++
          fw2051ScpDependencyRelation definition.dependencyRule ++ " the live " ++
          run.result.dependencyName ++ " (profile " ++ toString request.profileValue ++
          ", live " ++ toString dependencyValue ++ "); no profile write was sent.")
  else run

/-- The live value is what a rollback goes back to. -/
def captureLiveValue (run : Run) : Run :=
  if run.failure = "" then
    match run.bench.readVmeD16 (fault .capture) request.registerOffset with
    | .error error =>
      run.fail (registerOperationError "read" run.result.settingName request.registerOffset error)
    | .ok capturedLiveValue =>
      let run := run.noteReading .capture request.registerOffset capturedLiveValue
      { run with result := { run.result with
          capturedLiveValue
          liveValueCaptured := true } }
  else run

/-- It must be the value that is expected. -/
def checkLiveValue (run : Run) : Run :=
  if run.failure = "" ∧ run.result.capturedLiveValue ≠ request.expectedLiveValue then
    run.fail ("The live " ++ run.result.settingName ++ " changed after the snapshot (captured " ++
      toString run.result.capturedLiveValue ++ ", expected " ++
      toString request.expectedLiveValue ++
      "). No profile write was sent; capture all eight quads again.")
  else run

/-- Write the profile value and read it back. -/
def attemptWrite (run : Run) : Run :=
  let run := { run with
    readingsBeforeWrite := run.readings
    result := { run.result with writeAttempted := true } }
  match writeRegister fault run .write request.registerOffset request.profileValue false with
  | (some error, run) =>
    run.fail (registerOperationError "write" run.result.settingName request.registerOffset error)
  | (none, run) =>
    match run.bench.readVmeD16 (fault .readback) request.registerOffset with
    | .error error =>
      run.fail (registerOperationError "verify" run.result.settingName request.registerOffset error)
    | .ok appliedReadback =>
      let run := run.noteReading .readback request.registerOffset appliedReadback
      let run := { run with result := { run.result with appliedReadback } }
      if appliedReadback ≠ request.profileValue then
        run.fail ("The applied " ++ run.result.settingName ++ " readback was " ++
          toString appliedReadback ++ ", expected " ++ toString request.profileValue ++ ".")
      else
        { run with result := { run.result with
            writeVerified := true
            profileValueRetained := true } }

/-- The write, behind the gate. -/
def writeProfileValue (run : Run) : Run :=
  if run.failure = "" then
    match reverifyOwnership gate cancellationRequested run .write with
    | (false, run) => run
    | (true, run) => attemptWrite fault request run
  else run

/-- Write the captured value back and read it. -/
def attemptRollback (run : Run) : Run :=
  let run := { run with result := { run.result with rollbackAttempted := true } }
  match writeRegister fault run .rollbackWrite request.registerOffset run.result.capturedLiveValue
      false with
  | (some error, run) =>
    run.fail (registerOperationError "rollback" run.result.settingName request.registerOffset error)
  | (none, run) =>
    match run.bench.readVmeD16 (fault .rollbackReadback) request.registerOffset with
    | .error error =>
      run.fail (registerOperationError "verify rollback" run.result.settingName
        request.registerOffset error)
    | .ok rollbackReadback =>
      let run := run.noteReading .rollbackReadback request.registerOffset rollbackReadback
      let run := { run with result := { run.result with rollbackReadback } }
      if rollbackReadback ≠ run.result.capturedLiveValue then
        run.fail ("The rollback readback was " ++ toString rollbackReadback ++ ", expected " ++
          toString run.result.capturedLiveValue ++ ".")
      else
        { run with result := { run.result with
            rollbackVerified := true
            profileValueRetained := false } }

/-- The rollback of a write that was not verified, behind the gate. -/
def rollback (run : Run) : Run :=
  if run.result.writeAttempted = true ∧ run.result.writeVerified = false ∧
      run.result.liveValueCaptured = true then
    match reverifyOwnership gate cancellationRequested run .rollback with
    | (false, run) => run
    | (true, run) => attemptRollback fault request run
  else run

/-! ### The end

The selector is parked and the readout reset also after a failure, as long as the ownership has not
been denied. -/

/-- A selector that was written to is parked. -/
def parkSelector (run : Run) : Run :=
  if run.selectorWasWritten then
    match reverifyOwnership gate cancellationRequested run .park with
    | (false, run) => run
    | (true, run) =>
      match writeRegister fault run .park fw2051ScpSelectorRegister 0 true with
      | (some error, run) =>
        run.fail (registerOperationError "park" "channel-quad selector" fw2051ScpSelectorRegister
          error)
      | (none, run) => { run with result := { run.result with selectorParkedAtQuadZero := true } }
  else run

/-- One of the two resets, noted where it succeeds. -/
def sendReset (run : Run) (site : Gate) (call : Site) (name : String) (registerOffset : UInt16)
    (note : ScpSingleRepairResult → ScpSingleRepairResult) : Run :=
  if run.result.writeAttempted = true ∧ run.result.moduleStopVerified = true ∧
      run.ownershipAvailable = true then
    match reverifyOwnership gate cancellationRequested run site with
    | (false, run) => run
    | (true, run) =>
      match writeRegister fault run call registerOffset fw2051ResetCommandValue false with
      | (some error, run) => run.fail (registerOperationError "write" name registerOffset error)
      | (none, run) => { run with result := note run.result }
  else run

/-- The first reset. -/
def resetFifo (run : Run) : Run :=
  sendReset fault gate cancellationRequested run .fifoReset .fifoReset "reset FIFO"
    fw2051FifoResetRegister fun result => { result with fifoResetSent := true }

/-- The second. -/
def resetReadout (run : Run) : Run :=
  sendReset fault gate cancellationRequested run .readoutReset .readoutReset "reset readout"
    fw2051ReadoutResetRegister fun result => { result with readoutResetSent := true }

/-- The module must still stand still. -/
def verifyStoppedState (run : Run) : Run :=
  if run.result.moduleStopVerified = true ∧ run.ownershipAvailable = true then
    match reverifyOwnership gate cancellationRequested run .stoppedState with
    | (false, run) => run
    | (true, run) =>
      match run.bench.readVmeD16 (fault .stoppedState) fw2051AcquisitionControlRegister with
      | .error error =>
        run.fail (registerOperationError "verify" "final stopped acquisition"
          fw2051AcquisitionControlRegister error)
      | .ok stoppedReadback =>
        let run := run.noteReading .stoppedState fw2051AcquisitionControlRegister stoppedReadback
        if stoppedReadback ≠ fw2051StopAcquisitionValue then
          run.fail "The module did not remain stopped after the SCP profile repair."
        else { run with result := { run.result with moduleLeftStopped := true } }
  else run

/-- The verdict: every part must have been verified. -/
def finish (run : Run) : ScpSingleRepairResult :=
  let result := run.result
  let passed := run.failure = "" ∧ result.writeVerified = true ∧
    result.profileValueRetained = true ∧ result.moduleStopVerified = true ∧
    result.selectorParkedAtQuadZero = true ∧ result.fifoResetSent = true ∧
    result.readoutResetSent = true ∧ result.moduleLeftStopped = true
  { result with
    state := if passed then .passed else .failed
    message :=
      if passed then
        "Applied and retained profile " ++ result.settingName ++
          " with exact readback. The selector was parked at quad 0, the FIFO and readout " ++
          "resets were sent, and the module remains stopped; recapture all eight quads before " ++
          "comparing or applying another value."
      else if result.rollbackVerified = true ∧ result.moduleLeftStopped = true then
        run.failure ++ " The captured live value was restored with exact readback." ++
          (if result.selectorParkedAtQuadZero = true ∧ result.fifoResetSent = true ∧
              result.readoutResetSent = true then
            " The selector was parked at quad 0 and the FIFO and readout resets were sent."
          else "") ++ " The module remains stopped."
      else if run.failure ≠ "" ∧ result.moduleLeftStopped = true then
        run.failure ++ " The module remains stopped."
      else if run.failure = "" then "The SCP profile repair did not complete all safety checks."
      else run.failure }

/-- Everything after the first gate. -/
def repairValue (run : Run) : Run :=
  let run := readHardwareId fault run
  let run := readFirmwareRevision fault run
  let run := stopModule fault gate cancellationRequested run
  let run := selectBank fault gate cancellationRequested request run
  let run := checkDependency fault definition request run
  let run := captureLiveValue fault request run
  let run := checkLiveValue request run
  let run := writeProfileValue fault gate cancellationRequested request run
  let run := rollback fault gate cancellationRequested request run
  let run := parkSelector fault gate cancellationRequested run
  let run := resetFifo fault gate cancellationRequested run
  let run := resetReadout fault gate cancellationRequested run
  verifyStoppedState fault gate cancellationRequested run

end Operation

/-- What is known before the first call. -/
def initialResult (request : ScpSingleRepairRequest) : ScpSingleRepairResult :=
  { state := .applying
    message := "Verifying and stopping the module if needed before applying one profile value..."
    baseAddress := request.baseAddress
    selectedQuad := request.quad
    registerOffset := request.registerOffset
    expectedLiveValue := request.expectedLiveValue
    profileValue := request.profileValue
    settingName := ((findFw2051ScpSetting request.registerOffset).map (·.name)).getD
      "Unsupported SCP parameter" }

/-- A run that ends before anything is sent. -/
def refuse (run : Run) (message : String) : Run :=
  { run with result := { run.result with state := .failed, message } }

end SingleRepair

open SingleRepair in
/-- The run that the operation ends in: its result and the module are those the caller is left
with. -/
def repairFw2051ScpProfileValue (fault : Site → Option Fault) (cancellationRequested : Gate → Bool)
    (bench : Bench) (request : ScpSingleRepairRequest)
    (ownershipGate : Option (Gate → ScpCaptureGateResult)) : Run :=
  let run : Run := { bench, result := initialResult request }
  let failure := SingleRepair.validateRequest request
  if failure ≠ "" then SingleRepair.refuse run failure
  else
    match findFw2051ScpSetting request.registerOffset, ownershipGate with
    | some definition, some gate =>
      match SingleRepair.reverifyOwnership gate cancellationRequested run .repair with
      | (false, run) => SingleRepair.refuse run run.failure
      | (true, run) =>
        let run := repairValue fault gate cancellationRequested definition request run
        { run with result := SingleRepair.finish run }
    | _, _ => SingleRepair.refuse run "The SCP profile repair has no ownership gate."

end Fidget
