import Fidget.Core.ScpProfile
import Fidget.Hardware.Bench

/-!
# Capturing the banked configuration

`hardware/ScpCaptureOperation.cpp`: four module-wide registers are read, then each bank is
selected and its seventeen registers read, and the selector is parked at bank zero. Everything
after the first failure is skipped, except that the selector is parked if it may have been moved
and ownership is still certain.

Transport, gate and checkpoints are callbacks in the source, and some callers do work of their own
in them. So everything that the capture calls is given, with a state of the caller's that the calls
act on.

## Main results

- `CaptureCalls`: what a capture calls.
- `captureThrough`: the capture through any such calls.
- `CaptureCalls.onBench`, `captureFw2051ScpConfiguration`: the calls that act on a module alone, and
  the capture through these.
-/

namespace Fidget

/-! ### Data

Calls are numbered by sites, so that each of them can be disturbed by itself. -/

/-- The calls to the transport. -/
inductive CaptureSite where
  | globalRead (registerOffset : UInt16)
  | select (quad : UInt16)
  | bankedRead (quad registerOffset : UInt16)
  | park
  deriving DecidableEq, Repr

/-- The calls to the ownership gate. -/
inductive CaptureGate where
  | snapshot
  | bank (quad : UInt16)
  | parking
  deriving DecidableEq, Repr

/-- The places at which the caller is asked. -/
inductive ScpCaptureCheckpointKind where
  | globalRegisterRead
  | selectorSettled
  | bankedRegisterRead
  | selectorParked
  deriving DecidableEq, Repr

/-- A place, with the bank and the register it is about. -/
structure ScpCaptureCheckpoint where
  kind : ScpCaptureCheckpointKind
  quad : Option UInt16
  registerOffset : UInt16
  deriving DecidableEq, Repr

/-- What the operation knows of its caller's calls. -/
structure ScpCaptureRuntime where
  checkpoint : ScpCaptureCheckpoint → Bool := fun _ => true
  gateBeforeFirstSelector : Bool := false

/-- The snapshot, and how the capture ended. -/
structure ScpCaptureOperationResult where
  configuration : Fw2051ScpConfigurationSnapshot
  lastGateStatus : ScpCaptureGateStatus := .allowed
  deriving DecidableEq, Repr

/-- A register read once for the whole module, and where its value goes. -/
structure GlobalRead where
  registerOffset : UInt16
  name : String
  store : Fw2051ScpConfigurationSnapshot → UInt16 → Fw2051ScpConfigurationSnapshot

/-- The four of them, in order. -/
def globalReads : List GlobalRead := [
  ⟨0x6008, "hardware ID", fun result value => { result with hardwareId := value }⟩,
  ⟨0x600E, "firmware revision", fun result value => { result with firmwareRevision := value }⟩,
  ⟨0x6010, "IRQ level", fun result value => { result with irqLevel := value }⟩,
  ⟨0x6044, "output format", fun result value => { result with outputFormat := value }⟩]

/-- The text of a refusal. -/
def captureGateFailureMessage (gate : ScpCaptureGateResult) (fallback : String) : String :=
  if gate.message = "" then fallback else gate.message

/-! ### What a capture calls

The calls act on a state of the caller's. What the capture itself keeps is its progress, and the two
are changed together. -/

/-- What the capture calls. A call may change the state of whoever provides it. -/
structure CaptureCalls (σ : Type) where
  readVmeD16 : CaptureSite → UInt16 → σ → Except String UInt16 × σ
  /-- The error of the write, if it failed. -/
  writeVmeD16 : CaptureSite → UInt16 → UInt16 → σ → Option String × σ
  ownershipGate : CaptureGate → σ → ScpCaptureGateResult × σ
  checkpoint : ScpCaptureCheckpoint → σ → Bool × σ
  gateBeforeFirstSelector : Bool

/-- The local variables of the operation, and the caller's state. -/
structure CaptureProgress (σ : Type) where
  outside : σ
  operation : ScpCaptureOperationResult
  failure : String := ""
  selectionAttempted : Bool := false
  ownershipCertain : Bool := true

namespace CaptureProgress

variable {σ : Type}

def configuration (progress : CaptureProgress σ) : Fw2051ScpConfigurationSnapshot :=
  progress.operation.configuration

/-- A call has changed the state of whoever provides it. -/
def withOutside (progress : CaptureProgress σ) (outside : σ) : CaptureProgress σ :=
  { progress with outside }

/-- The state of the caller is what it was set to. -/
@[simp]
theorem outside_withOutside (progress : CaptureProgress σ) (outside : σ) :
    (progress.withOutside outside).outside = outside := rfl

/-- Setting it to what it is changes nothing. -/
@[simp]
theorem withOutside_outside (progress : CaptureProgress σ) :
    progress.withOutside progress.outside = progress := rfl

/-- The progress with another snapshot. -/
def withConfiguration (progress : CaptureProgress σ)
    (configuration : Fw2051ScpConfigurationSnapshot) : CaptureProgress σ :=
  { progress with operation := { progress.operation with configuration } }

/-- A checkpoint was rejected: nothing more may be sent. -/
def interrupt (progress : CaptureProgress σ) (failure : String) : CaptureProgress σ :=
  { progress with
    failure
    ownershipCertain := false
    operation := { progress.operation with lastGateStatus := .cancelled } }

/-- The answer of the gate is noted. -/
def noteGate (progress : CaptureProgress σ) (status : ScpCaptureGateStatus) : CaptureProgress σ :=
  { progress with operation := { progress.operation with lastGateStatus := status } }

/-- The gate did not let the capture go on: nothing more may be sent. -/
def refuse (progress : CaptureProgress σ) (answer : ScpCaptureGateResult) : CaptureProgress σ :=
  { progress with
    ownershipCertain := false
    failure := captureGateFailureMessage answer "SCP configuration capture was cancelled." }

/-- Pass a checkpoint, or stop there. -/
def pass (calls : CaptureCalls σ) (checkpoint : ScpCaptureCheckpoint) (failure : String)
    (progress : CaptureProgress σ) : CaptureProgress σ :=
  let (goesOn, outside) := calls.checkpoint checkpoint progress.outside
  let progress := progress.withOutside outside
  if goesOn then progress else progress.interrupt failure

end CaptureProgress

/-! ### The operation

Everything behind the first failure is skipped, except for the parking of a selector that may have
been moved. -/

section Operation

variable {σ : Type} (calls : CaptureCalls σ)

/-- A register is read once for the whole module. -/
def captureGlobal (progress : CaptureProgress σ) (read : GlobalRead) : CaptureProgress σ :=
  if progress.failure ≠ "" then progress
  else
    let (answer, outside) :=
      calls.readVmeD16 (.globalRead read.registerOffset) read.registerOffset progress.outside
    let progress := progress.withOutside outside
    match answer with
    | .error error =>
      { progress with
        failure := registerOperationError "read" read.name read.registerOffset error }
    | .ok value =>
      (progress.withConfiguration (read.store progress.configuration value)).pass calls
        ⟨.globalRegisterRead, none, read.registerOffset⟩
        "SCP configuration capture was interrupted after a global register read."

/-- The module must be one that may be written to. -/
def checkIdentity (progress : CaptureProgress σ) : CaptureProgress σ :=
  if progress.failure ≠ "" then progress
  else if !isWriteApprovedMdpp32HardwareId progress.configuration.hardwareId then
    { progress with failure :=
        if progress.configuration.hardwareId = mdpp32AlternateHardwareId then
          "MDPP-32 v2 selector-write support awaits recorded hardware acceptance."
        else "The selected VME base is not a write-approved MDPP-32." }
  else if progress.configuration.firmwareRevision ≠ mdpp32ScpFirmwareRevisionFw2051 then
    { progress with failure :=
        "The selected MDPP does not report supported SCP FW2051 firmware; " ++
          "this register map cannot be applied safely." }
  else progress

/-- Write the selector and log the write; the error if it failed. -/
def writeSelector (progress : CaptureProgress σ) (site : CaptureSite) (value : UInt16)
    (parkingWrite : Bool) : Option String × CaptureProgress σ :=
  let (error, outside) :=
    calls.writeVmeD16 site fw2051ScpSelectorRegister value progress.outside
  let record : Fw2051ScpSelectorWriteRecord :=
    { value, parkingWrite, success := error.isNone
      message := error.getD "Selector write completed." }
  (error, (progress.withOutside outside).withConfiguration { progress.configuration with
    selectorWrites := progress.configuration.selectorWrites ++ [record] })

/-- A register of the selected bank is read. -/
def captureRegister (quadIndex : UInt16)
    (state : CaptureProgress σ × Fw2051ScpQuadConfiguration)
    (definition : Fw2051ScpSettingDefinition) : CaptureProgress σ × Fw2051ScpQuadConfiguration :=
  let (progress, quad) := state
  if progress.failure ≠ "" then (progress, quad)
  else
    let (answer, outside) := calls.readVmeD16 (.bankedRead quadIndex definition.registerOffset)
      definition.registerOffset progress.outside
    let progress := progress.withOutside outside
    match answer with
    | .error error =>
      ({ progress with failure := "Quad " ++ toString quadIndex ++ ": " ++
          registerOperationError "read" definition.name definition.registerOffset error }, quad)
    | .ok value =>
      match setFw2051ScpQuadRegisterValue quad definition.registerOffset value with
      | none =>
        ({ progress with failure := "The FW2051 registry does not map every captured value." },
          quad)
      | some quad =>
        (progress.pass calls ⟨.bankedRegisterRead, some quadIndex, definition.registerOffset⟩
          ("SCP configuration capture was interrupted after a banked register " ++
            "read in quad " ++ toString quadIndex ++ "."), quad)

/-- Select a bank and read it, once the gate lets it. -/
def captureSelectedQuad (progress : CaptureProgress σ) (quadIndex : UInt16) :
    CaptureProgress σ :=
  match writeSelector calls { progress with selectionAttempted := true }
      (.select quadIndex) quadIndex false with
  | (some error, progress) =>
    { progress with failure :=
        registerOperationError "write" "channel-quad selector" fw2051ScpSelectorRegister error }
  | (none, progress) =>
    let progress := progress.pass calls
      ⟨.selectorSettled, some quadIndex, fw2051ScpSelectorRegister⟩
      ("SCP configuration capture was interrupted after selecting quad " ++
        toString quadIndex ++ ".")
    let (progress, quad) := fw2051ScpSettingRegistry.foldl (captureRegister calls quadIndex)
      (progress, { quad := quadIndex })
    if progress.failure = "" then
      progress.withConfiguration
        { progress.configuration with quads := progress.configuration.quads ++ [quad] }
    else progress

/-- The gate is asked, and the bank selected and read. -/
def captureQuad (progress : CaptureProgress σ) (quadIndex : UInt16) : CaptureProgress σ :=
  if progress.failure ≠ "" then progress
  else if quadIndex > 0 ∨ calls.gateBeforeFirstSelector then
    let (answer, outside) := calls.ownershipGate (.bank quadIndex) progress.outside
    let progress := (progress.withOutside outside).noteGate answer.status
    if answer.status ≠ .allowed then progress.refuse answer
    else captureSelectedQuad calls progress quadIndex
  else captureSelectedQuad calls progress quadIndex

/-- The parking write, once its gate lets it. -/
def captureParkingWrite (progress : CaptureProgress σ) : CaptureProgress σ :=
  match writeSelector calls progress .park 0 true with
  | (some error, progress) =>
    { progress with failure :=
        appendFailure progress.failure ("Could not park the selector at quad 0: " ++ error) }
  | (none, progress) =>
    let progress := progress.withConfiguration
      { progress.configuration with selectorParkedAtQuadZero := true }
    progress.pass calls ⟨.selectorParked, some 0, fw2051ScpSelectorRegister⟩
      (appendFailure progress.failure
        "SCP configuration capture was interrupted after parking the selector.")

/-- The selector is parked if it may have been moved. -/
def captureParking (progress : CaptureProgress σ) : CaptureProgress σ :=
  if progress.selectionAttempted && progress.ownershipCertain then
    let (answer, outside) := calls.ownershipGate .parking progress.outside
    let progress := (progress.withOutside outside).noteGate answer.status
    if answer.status ≠ .allowed then progress.refuse answer
    else captureParkingWrite calls progress
  else progress

/-- The verdict. -/
def captureFinish (progress : CaptureProgress σ) : ScpCaptureOperationResult :=
  let complete := progress.failure = "" ∧
    progress.configuration.quads.length = fw2051ScpQuadCount ∧
    progress.configuration.selectorParkedAtQuadZero = true
  { progress.operation with
    configuration := { progress.configuration with
      state := if complete then .complete else .failed
      message :=
        if complete then
          "Captured all eight SCP channel quads. No filtering or waveform " ++
            "parameter was changed; the selector is parked at quad 0."
        else if progress.failure = "" then "The SCP configuration snapshot was incomplete."
        else progress.failure } }

/-- The quads in the order they are captured. -/
def captureQuadIndexes : List UInt16 := [0, 1, 2, 3, 4, 5, 6, 7]

/-- The capture proper, after the first gate. -/
def captureRegisters (progress : CaptureProgress σ) : CaptureProgress σ :=
  captureParking calls (captureQuadIndexes.foldl (captureQuad calls)
    (checkIdentity (globalReads.foldl (captureGlobal calls) progress)))

/-- Without the address of a module nothing is called. -/
def misalignedCapture (baseAddress : UInt32) : ScpCaptureOperationResult where
  configuration := {
    state := .failed
    baseAddress
    message := "The MDPP base must be a full 64-KiB-aligned A32 address." }

/-- `CaptureFw2051ScpConfiguration` with a gate. -/
def captureThrough (baseAddress : UInt32) (outside : σ) : ScpCaptureOperationResult × σ :=
  let result : Fw2051ScpConfigurationSnapshot := { state := .reading, baseAddress }
  if baseAddress &&& 0xFFFF ≠ 0 then (misalignedCapture baseAddress, outside)
  else
    let (initialGate, outside) := calls.ownershipGate .snapshot outside
    if initialGate.status ≠ .allowed then
      ({ configuration := { result with
          state := .failed
          message :=
            captureGateFailureMessage initialGate "SCP configuration capture was cancelled." }
         lastGateStatus := initialGate.status }, outside)
    else
      let progress := captureRegisters calls
        { outside, operation := { configuration := result, lastGateStatus := initialGate.status } }
      (captureFinish progress, progress.outside)

end Operation

/-! ### On a module alone

The calls of a module with faults, a gate and checkpoints that only answer. -/

/-- The calls that act on a module, with a gate and checkpoints that only answer. -/
def CaptureCalls.onBench (fault : CaptureSite → Option Fault)
    (gate : CaptureGate → ScpCaptureGateResult) (runtime : ScpCaptureRuntime) :
    CaptureCalls Bench where
  readVmeD16 := fun site registerOffset bench =>
    (bench.readVmeD16 (fault site) registerOffset, bench)
  writeVmeD16 := fun site registerOffset value bench =>
    bench.writeVmeD16 (fault site) registerOffset value
  ownershipGate := fun site bench => (gate site, bench)
  checkpoint := fun checkpoint bench => (runtime.checkpoint checkpoint, bench)
  gateBeforeFirstSelector := runtime.gateBeforeFirstSelector

/-- The capture of a module, under way. -/
abbrev CaptureRun := CaptureProgress Bench

section OnBench

variable (fault : CaptureSite → Option Fault) (gate : CaptureGate → ScpCaptureGateResult)
  (runtime : ScpCaptureRuntime)

namespace CaptureCalls

/-- A reading is one of the module's. -/
@[simp]
theorem onBench_readVmeD16 (site : CaptureSite) (registerOffset : UInt16) (bench : Bench) :
    (onBench fault gate runtime).readVmeD16 site registerOffset bench =
      (bench.readVmeD16 (fault site) registerOffset, bench) := rfl

/-- A write is one to the module. -/
@[simp]
theorem onBench_writeVmeD16 (site : CaptureSite) (registerOffset value : UInt16) (bench : Bench) :
    (onBench fault gate runtime).writeVmeD16 site registerOffset value bench =
      bench.writeVmeD16 (fault site) registerOffset value := rfl

/-- The gate only answers. -/
@[simp]
theorem onBench_ownershipGate (site : CaptureGate) (bench : Bench) :
    (onBench fault gate runtime).ownershipGate site bench = (gate site, bench) := rfl

/-- So does the first. -/
@[simp]
theorem onBench_gateBeforeFirstSelector :
    (onBench fault gate runtime).gateBeforeFirstSelector = runtime.gateBeforeFirstSelector := rfl

end CaptureCalls

/-- A checkpoint that only answers. -/
@[simp]
theorem CaptureProgress.pass_onBench (checkpoint : ScpCaptureCheckpoint) (failure : String)
    (progress : CaptureRun) :
    progress.pass (.onBench fault gate runtime) checkpoint failure =
      if runtime.checkpoint checkpoint then progress else progress.interrupt failure := rfl

end OnBench

/-- The capture of a module. -/
def captureFw2051ScpConfiguration (fault : CaptureSite → Option Fault) (bench : Bench)
    (baseAddress : UInt32) (ownershipGate : Option (CaptureGate → ScpCaptureGateResult))
    (runtime : ScpCaptureRuntime := {}) : ScpCaptureOperationResult × Bench :=
  match ownershipGate with
  | some gate => captureThrough (.onBench fault gate runtime) baseAddress bench
  | none =>
    -- the address is looked at before the gate is missed
    (if baseAddress &&& 0xFFFF ≠ 0 then misalignedCapture baseAddress
      else
        { configuration := {
            state := .failed
            baseAddress
            message := "The SCP capture has no ownership gate." }
          lastGateStatus := .communicationUnavailable }, bench)

end Fidget
