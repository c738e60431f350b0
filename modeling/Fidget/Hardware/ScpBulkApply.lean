import Fidget.Core.ScpTransactionPlan
import Fidget.Hardware.ScpCapture.Events

/-!
# Applying a profile

`hardware/ScpBulkApplyOperation.cpp`: after a capture has found the module as the request expects
it, the module is stopped and the steps of the request are written bank by bank, each read back.
If all went well the selector is parked and the readout reset. If anything went wrong the attempted
writes are undone in reverse order, as far as ownership holds, and the selector is parked again.

The steps are given as a list with the quad, the register, the value that is expected there and the
value to be written, and the results have one entry for each of them under the same index. The
ownership gate is asked before every write, once for the two writes of the reset; a denial is a
failure, and nothing more is written after it, not even to undo something.

The run keeps a log that the source does not have: the writes sent, each with what became of it. The
operation does not look at it.

## Main results

- `validateRequest`: what refuses a request before the module is touched.
- `applySteps`, `rollback`: the writes going forward, and their undoing.
- `bulkApplyTransaction`: both of them, with the parking and the reset.
- `applyFw2051ScpProfile`: the operation.
-/

namespace Fidget

/-! ### Results -/

inductive ScpBulkApplyState where
  | notRun
  | applying
  | rollingBack
  | passed
  | failed
  deriving DecidableEq, Repr

/-- What became of one step. -/
structure ScpAppliedValueResult where
  quad : Int := -1
  registerOffset : UInt16 := 0
  settingName : String := ""
  expectedValue : UInt16 := 0
  profileValue : UInt16 := 0
  appliedReadback : UInt16 := 0
  rollbackReadback : UInt16 := 0
  writeAttempted : Bool := false
  writeVerified : Bool := false
  rollbackAttempted : Bool := false
  rollbackVerified : Bool := false
  profileValueRetained : Bool := false
  deriving DecidableEq, Repr

structure ScpBulkApplyResult where
  state : ScpBulkApplyState := .notRun
  message : String := "No complete SCP profile application has been requested"
  baseAddress : UInt32 := 0
  valuesCompared : Nat := 0
  configurationDifferences : Nat := 0
  plannedWrites : Nat := 0
  writesAttempted : Nat := 0
  writesVerified : Nat := 0
  rollbackWritesAttempted : Nat := 0
  rollbackWritesVerified : Nat := 0
  fullPreflightMatched : Bool := false
  moduleStopSent : Bool := false
  moduleStopVerified : Bool := false
  moduleLeftStopped : Bool := false
  rollbackAttempted : Bool := false
  rollbackVerified : Bool := false
  selectorParkedAtQuadZero : Bool := false
  fifoResetSent : Bool := false
  readoutResetSent : Bool := false
  profileValuesRetained : Bool := false
  values : List ScpAppliedValueResult := []
  deriving DecidableEq, Repr

/-! ### The request

The steps are applied to the quads of the expected configuration one after the other, and each must
find there the value it expects. -/

/-- One step applied to the quads, if it is admissible where it stands. -/
def validateRequestStep (target : List Fw2051ScpQuadConfiguration)
    (step : ScpProfileApplicationStep) : Except String (List Fw2051ScpQuadConfiguration) :=
  match if step.quad < 0 then none else target[step.quad.toNat]? with
  | none => .error "A complete SCP profile step has an invalid channel quad."
  | some quad =>
    if (findFw2051ScpSetting step.registerOffset).isNone then
      .error "Retained SCP profile application is not available for a requested register."
    else if fw2051ScpQuadRegisterValue quad step.registerOffset ≠ some step.expectedValue then
      .error "A complete SCP profile step does not match its expected live configuration."
    else if validateFw2051ScpProfileValue step.registerOffset step.profileValue ≠ "" then
      .error (validateFw2051ScpProfileValue step.registerOffset step.profileValue)
    else
      match setFw2051ScpQuadRegisterValue quad step.registerOffset step.profileValue with
      | none => .error "The FW2051 registry does not map a requested profile value."
      | some quad => .ok (target.set step.quad.toNat quad)

/-- The message that refuses a request, empty when it is accepted. -/
def validateRequest (request : ScpProfileApplicationRequest) : String :=
  let configurationError := validateFw2051ScpConfiguration request.expectedLiveConfiguration
  if configurationError ≠ "" then
    "The expected live configuration is invalid: " ++ configurationError
  else if request.steps = [] then
    "The complete SCP profile application contains no writes."
  else
    match request.steps.foldlM validateRequestStep request.expectedLiveConfiguration.quads with
    | .error message => message
    | .ok quads =>
      let targetError :=
        validateFw2051ScpConfiguration { request.expectedLiveConfiguration with quads }
      if targetError ≠ "" then "The complete SCP profile target is invalid: " ++ targetError
      else
        (quads.zipIdx.findSome? fun (target, index) => profileQuadObstacle index target).getD ""

/-! ### The run

The gate is asked before every write. After a refusal the ownership is given up, and nothing more is
asked for or sent. -/

/-- Before or after the rollback: parking and resetting happen in both. -/
inductive ApplyPhase where
  | forward
  | rollback
  deriving DecidableEq, Repr

/-- The calls to the transport; those for a step carry its index. -/
inductive BulkApplySite where
  | capture (site : CaptureSite)
  | stop
  | stopReadback
  | select (index : Nat)
  | write (index : Nat)
  | readback (index : Nat)
  | rollbackSelect (index : Nat)
  | rollbackWrite (index : Nat)
  | rollbackReadback (index : Nat)
  | park (phase : ApplyPhase)
  | fifoReset (phase : ApplyPhase)
  | readoutReset (phase : ApplyPhase)
  deriving DecidableEq, Repr

/-- The writes that park the selector. -/
def BulkApplySite.parking : BulkApplySite → Bool
  | .park _ => true
  | _ => false

/-- The calls to the ownership gate. -/
inductive BulkApplyGate where
  | capture (gate : CaptureGate)
  | stop
  | bank (index : Nat)
  | write (index : Nat)
  | rollbackBank (index : Nat)
  | rollbackWrite (index : Nat)
  | park (phase : ApplyPhase)
  | reset (phase : ApplyPhase)
  deriving DecidableEq, Repr

/-- The local variables of the operation, the module and the writes sent to it. -/
structure BulkApplyRun where
  bench : Bench
  result : ScpBulkApplyResult
  failure : String := ""
  ownershipAvailable : Bool := true
  selectedQuad : Int := -1
  attemptedValueIndexes : List Nat := []
  rollbackSafe : Bool := true
  sent : List SentWrite := []

namespace BulkApplyRun

/-- The module and the writes that have led to it. -/
abbrev trace (run : BulkApplyRun) : Bench × List SentWrite := (run.bench, run.sent)

def fail (run : BulkApplyRun) (message : String) : BulkApplyRun :=
  { run with failure := appendFailure run.failure message }

def updateValue (run : BulkApplyRun) (index : Nat)
    (update : ScpAppliedValueResult → ScpAppliedValueResult) : BulkApplyRun :=
  { run with result := { run.result with values := run.result.values.modify index update } }

end BulkApplyRun

/-- Why the gate refuses. -/
def bulkApplyGateFailureMessage (gate : ScpCaptureGateResult) (cancellationRequested : Bool) :
    String :=
  if gate.message ≠ "" then gate.message
  else if cancellationRequested then "The complete SCP profile application was cancelled."
  else "Ownership could not be verified for the complete SCP profile application."

section Operation

variable (fault : BulkApplySite → Option Fault) (gate : BulkApplyGate → ScpCaptureGateResult)
  (cancellationRequested : BulkApplyGate → Bool)

/-- Once denied, ownership is not asked for again. -/
def reverifyOwnership (run : BulkApplyRun) (site : BulkApplyGate) : Bool × BulkApplyRun :=
  if !run.ownershipAvailable then (false, run)
  else if (gate site).status = .allowed then (true, run)
  else
    (false, { run with ownershipAvailable := false }.fail
      (bulkApplyGateFailureMessage (gate site) (cancellationRequested site)))

/-- A write, noted on the log of the run whether or not it is answered. -/
def writeRegister (run : BulkApplyRun) (site : BulkApplySite) (registerOffset value : UInt16) :
    Option String × BulkApplyRun :=
  let (error, bench) := run.bench.writeVmeD16 (fault site) registerOffset value
  let write : SentWrite := .vme registerOffset value site.parking (fault site)
  (error, { run with bench, sent := run.sent ++ [write] })

/-- The module is stopped and read back. -/
def stopModule (run : BulkApplyRun) : BulkApplyRun :=
  match reverifyOwnership gate cancellationRequested run .stop with
  | (false, run) => run
  | (true, run) =>
    match writeRegister fault run .stop fw2051AcquisitionControlRegister
        fw2051StopAcquisitionValue with
    | (some error, run) =>
      run.fail (registerOperationError "write" "stop acquisition"
        fw2051AcquisitionControlRegister error)
    | (none, run) =>
      let run := { run with result := { run.result with moduleStopSent := true } }
      match run.bench.readVmeD16 (fault .stopReadback) fw2051AcquisitionControlRegister with
      | .error error =>
        run.fail (registerOperationError "verify" "stopped acquisition"
          fw2051AcquisitionControlRegister error)
      | .ok stopReadback =>
        if stopReadback ≠ fw2051StopAcquisitionValue then
          run.fail ("Acquisition-enable readback was " ++ toString stopReadback ++
            ", expected zero after Stop.")
        else
          { run with result := { run.result with
              moduleStopVerified := true
              moduleLeftStopped := true } }

/-! ### Forward

A loop over the steps that does nothing after a failure. -/

/-- Select the bank of a step unless it is selected; false ends the loop. -/
def selectBank (run : BulkApplyRun) (index : Nat) (step : ScpProfileApplicationStep) :
    Bool × BulkApplyRun :=
  if run.selectedQuad ≠ step.quad then
    match reverifyOwnership gate cancellationRequested run (.bank index) with
    | (false, run) => (false, run)
    | (true, run) =>
      match writeRegister fault run (.select index) fw2051ScpSelectorRegister
          step.quad.toNat.toUInt16 with
      | (some error, run) =>
        (false, run.fail (registerOperationError "write" "channel-quad selector"
          fw2051ScpSelectorRegister error))
      | (none, run) =>
        (true, { run with
          selectedQuad := step.quad
          result := { run.result with selectorParkedAtQuadZero := false } })
  else (true, run)

/-- Write the value of a step and read it back. -/
def attemptWrite (run : BulkApplyRun) (index : Nat) (step : ScpProfileApplicationStep) :
    BulkApplyRun :=
  let run := { run.updateValue index fun value => { value with writeAttempted := true } with
    attemptedValueIndexes := run.attemptedValueIndexes ++ [index] }
  let run := { run with result := { run.result with
    writesAttempted := run.result.writesAttempted + 1 } }
  match writeRegister fault run (.write index) step.registerOffset step.profileValue with
  | (some error, run) =>
    run.fail (registerOperationError "write" step.settingName step.registerOffset error)
  | (none, run) =>
    match run.bench.readVmeD16 (fault (.readback index)) step.registerOffset with
    | .error error =>
      run.fail (registerOperationError "verify" step.settingName step.registerOffset error)
    | .ok readback =>
      let run := run.updateValue index fun value => { value with appliedReadback := readback }
      if readback ≠ step.profileValue then
        run.fail ("The applied " ++ step.settingName ++ " readback was " ++ toString readback ++
          ", expected " ++ toString step.profileValue ++ ".")
      else
        let run := run.updateValue index fun value =>
          { value with writeVerified := true, profileValueRetained := true }
        { run with result := { run.result with
            writesVerified := run.result.writesVerified + 1 } }

/-- One step: its bank is selected, the gate asked, and the value written. -/
def applyStep (run : BulkApplyRun) (indexed : ScpProfileApplicationStep × Nat) : BulkApplyRun :=
  let (step, index) := indexed
  if run.failure = "" ∧ run.ownershipAvailable = true then
    match selectBank fault gate cancellationRequested run index step with
    | (false, run) => run
    | (true, run) =>
      match reverifyOwnership gate cancellationRequested run (.write index) with
      | (false, run) => run
      | (true, run) => attemptWrite fault run index step
  else run

/-- The steps in order; after a failure the rest is skipped. -/
def applySteps (run : BulkApplyRun) (steps : List ScpProfileApplicationStep) : BulkApplyRun :=
  steps.zipIdx.foldl (applyStep fault gate cancellationRequested) run

/-! ### Parking and resetting

Both happen at the end of either direction, each call with its phase, since it can fail in one and
not in the other. -/

/-- The selector is parked, behind the gate. -/
def parkSelector (run : BulkApplyRun) (phase : ApplyPhase) : BulkApplyRun :=
  match reverifyOwnership gate cancellationRequested run (.park phase) with
  | (false, run) => run
  | (true, run) =>
    match writeRegister fault run (.park phase) fw2051ScpSelectorRegister 0 with
    | (some error, run) =>
      run.fail (registerOperationError "park" "channel-quad selector" fw2051ScpSelectorRegister
        error)
    | (none, run) =>
      { run with result := { run.result with selectorParkedAtQuadZero := true } }

/-- The readout is reset on a module that stands still. -/
def resetReadout (run : BulkApplyRun) (phase : ApplyPhase) : BulkApplyRun :=
  if !run.result.moduleStopVerified then run
  else
    match reverifyOwnership gate cancellationRequested run (.reset phase) with
    | (false, run) => run
    | (true, run) =>
      match writeRegister fault run (.fifoReset phase) fw2051FifoResetRegister
          fw2051ResetCommandValue with
      | (some error, run) =>
        run.fail (registerOperationError "write" "reset FIFO" fw2051FifoResetRegister error)
      | (none, run) =>
        let run := { run with result := { run.result with fifoResetSent := true } }
        match writeRegister fault run (.readoutReset phase) fw2051ReadoutResetRegister
            fw2051ResetCommandValue with
        | (some error, run) =>
          run.fail (registerOperationError "write" "reset readout" fw2051ReadoutResetRegister
            error)
        | (none, run) => { run with result := { run.result with readoutResetSent := true } }

/-- What follows when every write is verified. -/
def finishForward (run : BulkApplyRun) : BulkApplyRun :=
  if run.failure = "" ∧ run.result.moduleStopVerified = true ∧
      run.result.writesVerified = run.result.plannedWrites then
    let run := { run with result := { run.result with profileValuesRetained := true } }
    let run := parkSelector fault gate cancellationRequested run .forward
    if run.failure = "" then resetReadout fault gate cancellationRequested run .forward else run
  else run

/-! ### Rollback

A loop over the values in reverse order. A write that cannot be undone does not end it, but the
rollback is then no longer reported as verified. -/

/-- Select the bank of a value unless it is selected; false ends the rollback. -/
def selectRollbackBank (run : BulkApplyRun) (index : Nat) (value : ScpAppliedValueResult) :
    Bool × BulkApplyRun :=
  if run.selectedQuad ≠ value.quad then
    match reverifyOwnership gate cancellationRequested run (.rollbackBank index) with
    | (false, run) => (false, run)
    | (true, run) =>
      match writeRegister fault run (.rollbackSelect index) fw2051ScpSelectorRegister
          value.quad.toNat.toUInt16 with
      | (some error, run) =>
        (false, run.fail (registerOperationError "write" "rollback channel-quad selector"
          fw2051ScpSelectorRegister error))
      | (none, run) => (true, { run with selectedQuad := value.quad })
  else (true, run)

/-- Write the expected value back and read it. A failure makes the rollback unsafe but does not end
it. -/
def rollbackValue (run : BulkApplyRun) (index : Nat) (value : ScpAppliedValueResult) :
    BulkApplyRun :=
  let run := run.updateValue index fun value => { value with rollbackAttempted := true }
  let run := { run with result := { run.result with
    rollbackWritesAttempted := run.result.rollbackWritesAttempted + 1 } }
  match writeRegister fault run (.rollbackWrite index) value.registerOffset
      value.expectedValue with
  | (some error, run) =>
    { run.fail (registerOperationError "rollback" value.settingName value.registerOffset error) with
      rollbackSafe := false }
  | (none, run) =>
    match run.bench.readVmeD16 (fault (.rollbackReadback index)) value.registerOffset with
    | .error error =>
      { run.fail (registerOperationError "verify rollback" value.settingName value.registerOffset
          error) with
        rollbackSafe := false }
    | .ok readback =>
      let run := run.updateValue index fun value => { value with rollbackReadback := readback }
      if readback ≠ value.expectedValue then
        { run.fail ("The rollback " ++ value.settingName ++ " readback was " ++
            toString readback ++ ", expected " ++ toString value.expectedValue ++ ".") with
          rollbackSafe := false }
      else
        let run := run.updateValue index fun value =>
          { value with rollbackVerified := true, profileValueRetained := false }
        { run with result := { run.result with
            rollbackWritesVerified := run.result.rollbackWritesVerified + 1 } }

/-- Undo the values with the given indexes, in this order. -/
def rollbackValues (run : BulkApplyRun) : List Nat → BulkApplyRun
  | [] => run
  | index :: rest =>
    let value := run.result.values.getD index {}
    if !run.ownershipAvailable then { run with rollbackSafe := false }
    else
      match selectRollbackBank fault gate cancellationRequested run index value with
      | (false, run) => { run with rollbackSafe := false }
      | (true, run) =>
        match reverifyOwnership gate cancellationRequested run (.rollbackWrite index) with
        | (false, run) => { run with rollbackSafe := false }
        | (true, run) => rollbackValues (rollbackValue fault run index value) rest

/-- The end of the rollback: the selector is parked, and the readout reset if all was restored. -/
def finishRollback (run : BulkApplyRun) : BulkApplyRun :=
  let run := { run with result := { run.result with
    rollbackVerified := run.rollbackSafe &&
      run.result.rollbackWritesVerified == run.attemptedValueIndexes.length } }
  if run.ownershipAvailable then
    let run := parkSelector fault gate cancellationRequested run .rollback
    if run.result.rollbackVerified then
      resetReadout fault gate cancellationRequested run .rollback
    else run
  else run

/-- The attempted writes are undone if something failed and the ownership holds. -/
def rollback (run : BulkApplyRun) : BulkApplyRun :=
  if run.failure ≠ "" ∧ run.ownershipAvailable = true ∧ run.attemptedValueIndexes ≠ [] then
    let run := { run with
      selectedQuad := -1
      rollbackSafe := run.ownershipAvailable
      result := { run.result with
        state := .rollingBack
        rollbackAttempted := true
        profileValuesRetained := false } }
    finishRollback fault gate cancellationRequested
      (rollbackValues fault gate cancellationRequested run run.attemptedValueIndexes.reverse)
  else run

/-! ### The operation -/

/-- The verdict. -/
def finishBulkApply (run : BulkApplyRun) : ScpBulkApplyResult :=
  let result := run.result
  let passed := run.failure = "" ∧ result.fullPreflightMatched = true ∧
    result.moduleStopSent = true ∧ result.moduleStopVerified = true ∧
    result.writesVerified = result.plannedWrites ∧ result.profileValuesRetained = true ∧
    result.selectorParkedAtQuadZero = true ∧ result.fifoResetSent = true ∧
    result.readoutResetSent = true
  { result with
    state := if passed then .passed else .failed
    message :=
      if passed then
        "Applied and retained all " ++ toString result.plannedWrites ++
          " changed banked SCP values with exact readback. The module remains stopped; " ++
          "recapture all eight quads before starting diagnostic acquisition."
      else if result.rollbackVerified then
        run.failure ++ " Every attempted profile write was restored with exact readback; " ++
          "the module remains stopped."
      else if run.failure = "" then
        "The complete banked-profile transaction did not finish in a verified safe state."
      else run.failure }

/-- The transaction after its preflight. -/
def bulkApplyTransaction (run : BulkApplyRun) (steps : List ScpProfileApplicationStep) :
    BulkApplyRun :=
  let run := stopModule fault gate cancellationRequested run
  let run := applySteps fault gate cancellationRequested run steps
  let run := finishForward fault gate cancellationRequested run
  rollback fault gate cancellationRequested run

end Operation

/-- What is known before the first call. -/
def initialBulkApplyResult (request : ScpProfileApplicationRequest) : ScpBulkApplyResult :=
  { state := .applying
    message := "Revalidating the target and rereading all 140 hardware values " ++
      "before the first profile write..."
    baseAddress := request.expectedLiveConfiguration.baseAddress
    valuesCompared := request.valuesCompared
    configurationDifferences := request.configurationDifferences
    plannedWrites := request.steps.length
    values := request.steps.map fun step =>
      { quad := step.quad
        registerOffset := step.registerOffset
        settingName := step.settingName
        expectedValue := step.expectedValue
        profileValue := step.profileValue } }

/-- The run that `applyFw2051ScpProfile` makes, to its final result. -/
def applyFw2051ScpProfileRun (fault : BulkApplySite → Option Fault)
    (cancellationRequested : BulkApplyGate → Bool) (bench : Bench)
    (request : ScpProfileApplicationRequest)
    (ownershipGate : Option (BulkApplyGate → ScpCaptureGateResult)) : BulkApplyRun :=
  let run : BulkApplyRun := { bench, result := initialBulkApplyResult request }
  let failure := validateRequest request
  if failure ≠ "" then
    { run with result := { run.result with state := .failed, message := failure } }
  else
    match ownershipGate with
    | none =>
      { run with result := { run.result with
          state := .failed
          message := "The complete SCP profile application has no ownership gate." } }
    | some gate =>
      let (capture, captured) := captureFw2051ScpConfiguration (fault ∘ .capture) bench
        run.result.baseAddress (some (gate ∘ .capture))
      let run := { run with
        bench := captured
        sent := captureFw2051ScpConfigurationWrites (fault ∘ .capture) bench run.result.baseAddress
          (some (gate ∘ .capture))
        result := { run.result with
          selectorParkedAtQuadZero := capture.configuration.selectorParkedAtQuadZero } }
      if capture.configuration.state ≠ .complete then
        { run with result := { run.result with
            state := .failed
            message := capture.configuration.message } }
      else
        let comparison := compareFw2051ScpConfiguration
          { configuration := request.expectedLiveConfiguration } capture.configuration
        if !comparison.comparable ∨ comparison.differences ≠ [] then
          { run with result := { run.result with
              state := .failed
              message :=
                if comparison.comparable then
                  "The full SCP preflight no longer matches the captured configuration. " ++
                    "No profile write was sent."
                else
                  "The full SCP preflight could not be compared: " ++ comparison.message } }
        else
          let run := { run with result := { run.result with fullPreflightMatched := true } }
          let run := bulkApplyTransaction fault gate cancellationRequested run request.steps
          { run with result := finishBulkApply run }

/-- What the operation returns of its run. -/
def applyFw2051ScpProfile (fault : BulkApplySite → Option Fault)
    (cancellationRequested : BulkApplyGate → Bool) (bench : Bench)
    (request : ScpProfileApplicationRequest)
    (ownershipGate : Option (BulkApplyGate → ScpCaptureGateResult)) :
    ScpBulkApplyResult × Bench :=
  let run := applyFw2051ScpProfileRun fault cancellationRequested bench request ownershipGate
  (run.result, run.bench)

end Fidget
