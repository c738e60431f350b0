import Fidget.Hardware.PreparationSession

/-!
# The read-only check of a target

`ProbeTargetOnOpenTransport` of `hardware/TargetProbeOperation.cpp`: the identity, the firmware and
the state of the controller are read, then those of the target module. Nothing is written.

The calls to the transport are parameters that may answer depending on the log. What kind of failure
a call has met is decided by the text of its error, in which certain words are looked for as in the
source; a cancellation goes before that.

## Main results

- `classifyCommunicationFailure`: what a failed call says about the connection.
- `judgeController`, `judgeTargetHardwareId`, `judgeTargetFirmware`, `judgeTargetAcquisition`: what
  each reading says about the target.
- `probeTargetOnOpenTransport`: the stages of the probe in their order.
-/

namespace Fidget

/-- How a probe can end. -/
inductive TargetProbeOutcome where
  | notRun
  | inProgress
  | verifiedIdle
  | controllerDaqActive
  | targetAcquisitionActive
  | wrongMvlcIdentity
  | wrongMvlcFirmware
  | wrongTargetIdentity
  | wrongTargetFirmware
  | transportUnavailable
  | timeout
  | malformedResponse
  | cancelled
  deriving DecidableEq, Repr

/-- What has been established, a flag for each check. -/
structure TargetProbeEvidence where
  controllerEndpointReached : Bool := false
  supportedControllerTypeAndFirmwareReverified : Bool := false
  controllerDaqIdleReverified : Bool := false
  targetIdentityAndFirmwareVerified : Bool := false
  targetAcquisitionStoppedVerified : Bool := false
  activeControllerUseDetected : Bool := false
  noControlTaken : Bool := false
  noVmeOrModuleSettingWritesSent : Bool := false
  deriving DecidableEq, Repr

/-- The outcome, the evidence, and the values that were read. -/
structure TargetProbeResult where
  outcome : TargetProbeOutcome := .notRun
  evidence : TargetProbeEvidence := {}
  mvlcHardwareId : Option UInt32 := none
  mvlcFirmwareRevision : Option UInt32 := none
  mvlcDaqMode : Option UInt32 := none
  targetHardwareId : Option UInt16 := none
  targetFirmwareRevision : Option UInt16 := none
  targetAcquisitionControl : Option UInt16 := none
  message : String := ""
  deriving DecidableEq, Repr

/-- The controller that is supported. -/
def targetProbeExpectedMvlcHardwareId : UInt32 := 0x5008
/-- Its firmware. -/
def targetProbeExpectedMvlcFirmware : UInt32 := 0x0046
/-- The three registers of the controller that are read in one transaction. -/
def targetProbeMvlcRegisterOrder : List UInt16 := [0x6008, 0x600E, 0x1300]

/-- The text of a refusal to disturb a running acquisition. -/
def activeUseMessage : String :=
  "Active controller use was detected. FIDGET did not take control, and " ++
    "no hardware settings were changed."

/-! ### Failures of the communication

The source has the text of an error only, and finds out by it what kind of failure it was. -/

/-- The kinds of failures that are told apart by their texts. -/
inductive CommunicationFailure where
  | transportUnavailable
  | timeout
  | malformedResponse
  | cancelled
  deriving DecidableEq, Repr

/-- The text has the fragment in it. -/
def containsFragment (text fragment : String) : Bool := decide (fragment.toList <:+: text.toList)

/-- A cancellation goes before everything else; otherwise the text of the error decides. -/
def classifyCommunicationFailure (error : String) (cancelled : Bool) : CommunicationFailure :=
  if cancelled then .cancelled
  else if ["malformed", "Malformed", "invalid", "Unexpected", "truncated", "syntax"].any
      (containsFragment error) then .malformedResponse
  else if ["timed out", "No matching", "Incomplete", "did not respond"].any
      (containsFragment error) then .timeout
  else .transportUnavailable

/-- The outcome that a failure of the communication leads to. -/
def targetOutcome : CommunicationFailure → TargetProbeOutcome
  | .cancelled => .cancelled
  | .timeout => .timeout
  | .malformedResponse => .malformedResponse
  | .transportUnavailable => .transportUnavailable

/-- The text for it. -/
def targetFailureMessage (outcome : TargetProbeOutcome) (error : String) : String :=
  match outcome with
  | .cancelled => "The read-only target check was cancelled."
  | .timeout => "The read-only target check timed out: " ++ error
  | .malformedResponse => "The target returned a malformed response: " ++ error
  | _ => "The read-only target check could not communicate: " ++ error

/-- The text for a failure at the controller. -/
def controllerRevalidationFailureMessage (outcome : TargetProbeOutcome) (error : String) : String :=
  match outcome with
  | .cancelled => "The read-only target check was cancelled during controller revalidation."
  | .timeout => "Controller revalidation for Check timed out: " ++ error
  | .malformedResponse =>
    "Controller revalidation for Check returned a malformed response: " ++ error
  | _ => "Controller revalidation for Check could not communicate: " ++ error

/-! ### The probe

Each stage reads, judges what it has read, and goes on or ends the probe. -/

section

variable (outside : PreparationSurroundings)

/-- What the three values of the controller say: the probe is over, or goes on. -/
def judgeController (result : TargetProbeResult) (hardwareId firmwareRevision daqMode : UInt32) :
    Except TargetProbeResult TargetProbeResult :=
  let result := { result with
    mvlcHardwareId := some hardwareId
    mvlcFirmwareRevision := some firmwareRevision
    mvlcDaqMode := some daqMode
    evidence := { result.evidence with controllerEndpointReached := true } }
  if hardwareId ≠ targetProbeExpectedMvlcHardwareId then
    .error { result with
      outcome := .wrongMvlcIdentity
      message := "The controller reached during Check is not the supported MVLC." }
  else if firmwareRevision ≠ targetProbeExpectedMvlcFirmware then
    .error { result with
      outcome := .wrongMvlcFirmware
      message := "The controller reached during Check is not running exact FW0046." }
  else
    let result := { result with
      evidence := { result.evidence with supportedControllerTypeAndFirmwareReverified := true } }
    if daqMode ≠ 0 then
      .error { result with
        outcome := .controllerDaqActive
        evidence := { result.evidence with activeControllerUseDetected := true }
        message := activeUseMessage }
    else
      .ok { result with evidence := { result.evidence with controllerDaqIdleReverified := true } }

/-- One transaction with the controller, unless a cancellation comes before. -/
def probeController (log : PreparationLog) :
    Except TargetProbeResult TargetProbeResult × PreparationLog :=
  let result : TargetProbeResult :=
    { evidence := { noControlTaken := true, noVmeOrModuleSettingWritesSent := true } }
  match outside.loadCancellation log with
  | (true, log) =>
    (.error { result with
      outcome := .cancelled
      message := controllerRevalidationFailureMessage .cancelled "" }, log)
  | (false, log) =>
    match outside.readLocalRegisters log targetProbeMvlcRegisterOrder with
    | (.error error, log) =>
      let (cancelled, log) := outside.loadCancellation log
      let outcome := targetOutcome (classifyCommunicationFailure error cancelled)
      (.error { result with
        outcome
        message := controllerRevalidationFailureMessage outcome error }, log)
    | (.ok values, log) =>
      match outside.loadCancellation log with
      | (true, log) =>
        (.error { result with
          outcome := .cancelled
          message := controllerRevalidationFailureMessage .cancelled "" }, log)
      | (false, log) =>
        match values with
        | [hardwareId, firmwareRevision, daqMode] =>
          (judgeController result hardwareId firmwareRevision daqMode, log)
        | _ =>
          (.error { result with
            outcome := .malformedResponse
            message := controllerRevalidationFailureMessage .malformedResponse
              "unexpected MVLC identity response size" }, log)

/-- Read a register of the target and have its value judged. -/
def probeRegister (address : UInt32)
    (judge : TargetProbeResult → UInt16 → Except TargetProbeResult TargetProbeResult)
    (result : TargetProbeResult) (log : PreparationLog) :
    Except TargetProbeResult TargetProbeResult × PreparationLog :=
  match outside.readVmeD16 log address with
  | (.error error, log) =>
    let (cancelled, log) := outside.loadCancellation log
    let outcome := targetOutcome (classifyCommunicationFailure error cancelled)
    (.error { result with outcome, message := targetFailureMessage outcome error }, log)
  | (.ok value, log) =>
    match outside.loadCancellation log with
    | (true, log) =>
      (.error { result with
        outcome := .cancelled
        message := targetFailureMessage .cancelled "" }, log)
    | (false, log) => (judge result value, log)

/-- The module must be one that may be written to. -/
def judgeTargetHardwareId (result : TargetProbeResult) (value : UInt16) :
    Except TargetProbeResult TargetProbeResult :=
  let result := { result with targetHardwareId := some value }
  if !isSupportedMdpp32HardwareId value then
    .error { result with
      outcome := .wrongTargetIdentity
      message := "The selected target is not the supported MDPP-32 SCP." }
  else .ok result

/-- Its firmware must be the one that is supported. -/
def judgeTargetFirmware (result : TargetProbeResult) (value : UInt16) :
    Except TargetProbeResult TargetProbeResult :=
  let result := { result with targetFirmwareRevision := some value }
  if value ≠ mdpp32ScpFirmwareRevisionFw2051 then
    .error { result with
      outcome := .wrongTargetFirmware
      message := "The selected target is not running exact FW2051." }
  else
    .ok { result with
      evidence := { result.evidence with targetIdentityAndFirmwareVerified := true } }

/-- It must stand still. -/
def judgeTargetAcquisition (result : TargetProbeResult) (value : UInt16) :
    Except TargetProbeResult TargetProbeResult :=
  let result := { result with targetAcquisitionControl := some value }
  if value ≠ fw2051StopAcquisitionValue then
    .error { result with
      outcome := .targetAcquisitionActive
      evidence := { result.evidence with activeControllerUseDetected := true }
      message := activeUseMessage }
  else
    .ok { result with
      outcome := .verifiedIdle
      evidence := { result.evidence with targetAcquisitionStoppedVerified := true }
      message := "The target module is verified and stopped." }

/-- Go on with a stage unless an earlier one has ended the probe. -/
def andThenProbe (state : Except TargetProbeResult TargetProbeResult × PreparationLog)
    (stage : TargetProbeResult → PreparationLog →
      Except TargetProbeResult TargetProbeResult × PreparationLog) :
    Except TargetProbeResult TargetProbeResult × PreparationLog :=
  match state with
  | (.error result, log) => (.error result, log)
  | (.ok result, log) => stage result log

/-- The four stages. -/
def probeTargetOnOpenTransport (targetAddress : TargetModuleAddress) (log : PreparationLog) :
    TargetProbeResult × PreparationLog :=
  let base := targetAddress.fullA32Value
  let (verdict, log) :=
    andThenProbe (andThenProbe (andThenProbe (probeController outside log)
      (probeRegister outside (base + 0x6008) judgeTargetHardwareId))
      (probeRegister outside (base + 0x600E) judgeTargetFirmware))
      (probeRegister outside (base + fw2051AcquisitionControlRegister.toUInt32)
        judgeTargetAcquisition)
  match verdict with
  | .error result => (result, log)
  | .ok result => (result, log)

end

end Fidget
