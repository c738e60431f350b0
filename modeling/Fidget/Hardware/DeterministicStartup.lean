import Fidget.Hardware.ScpBulkApply
import Fidget.Hardware.StartupPreparation

/-!
# Deterministic startup

`core/DeterministicStartup.h` and `hardware/DeterministicStartupOperation.cpp`: a reviewed profile is
brought onto a module in four phases. The readout is prepared, the module captured, what still
differs from the profile is applied, and the module is captured once more and compared with the
profile as a whole.

The four phases are operations of their own, with faults, gates and cancellations of their own; a
site of this operation says which phase a call belongs to. A phase that does not pass ends the
startup, and the phases behind it are not run.

## Main results

- `verifyFinalConfiguration`, `applyBankedProfile`, `capturePreparedConfiguration`: the phases from
  the last to the second, each with what follows it.
- `runFw2051DeterministicStartup`: the preparation and these phases.
-/

namespace Fidget

/-- How far a startup has come. -/
inductive DeterministicStartupState where
  | notRun
  | preparingReadout
  | capturingPreparedConfiguration
  | applyingBankedProfile
  | verifyingFinalConfiguration
  | passed
  | failed
  deriving DecidableEq, Repr

/-- What was reviewed: the profile, the configuration and the audit, and the confirmations. -/
structure DeterministicStartupRequest where
  profileLoadedForTarget : Bool := false
  configurationFresh : Bool := false
  startupAuditCompleteForTarget : Bool := false
  confirmed : Bool := false
  profile : ScpProfile := {}
  reviewedConfiguration : Fw2051ScpConfigurationSnapshot := {}
  startupAudit : StartupAuditResult := {}
  deriving DecidableEq, Repr

/-- The counts of the review, and what became of the phases. -/
structure DeterministicStartupResult where
  state : DeterministicStartupState := .notRun
  message : String := "No deterministic startup sequence has been requested"
  baseAddress : UInt32 := 0
  valuesCompared : Nat := 0
  initialDifferences : Nat := 0
  startupContractDifferences : Nat := 0
  bankedDifferences : Nat := 0
  bankedWritesPlanned : Nat := 0
  startupPreparationPassed : Bool := false
  postPreparationCapturePassed : Bool := false
  bankedApplicationNeeded : Bool := false
  bankedApplicationPassed : Bool := false
  finalProfileVerified : Bool := false
  moduleLeftStopped : Bool := false
  reviewedPlan : ScpStandaloneStartupPlan := {}
  preparation : StartupPreparationResult := {}
  postPreparationConfiguration : Fw2051ScpConfigurationSnapshot := {}
  postPreparationPlan : ScpProfileApplicationPlan := {}
  bankedApplication : ScpBulkApplyResult := {}
  finalConfiguration : Fw2051ScpConfigurationSnapshot := {}
  finalComparison : ScpConfigurationComparison := {}
  deriving DecidableEq, Repr

namespace DeterministicStartup

/-- The calls to the transport, by phase. -/
inductive Site where
  | preparation (site : StartupPreparation.Site)
  | preparedCapture (site : CaptureSite)
  | application (site : BulkApplySite)
  | finalCapture (site : CaptureSite)
  deriving DecidableEq, Repr

/-- The calls to the ownership gate, by phase. -/
inductive Gate where
  | preparation (gate : StartupPreparation.Gate)
  | preparedCapture (gate : CaptureGate)
  | application (gate : BulkApplyGate)
  | finalCapture (gate : CaptureGate)
  deriving DecidableEq, Repr

/-- The message that refuses a request, empty when it is accepted. -/
def validateRequest (request : DeterministicStartupRequest) (plan : ScpStandaloneStartupPlan) :
    String :=
  if !request.confirmed then
    "Deterministic startup requires explicit confirmation of the reviewed recipe."
  else if !request.profileLoadedForTarget then
    "Deterministic startup requires a loaded profile for the selected module."
  else if !request.configurationFresh ∨ request.reviewedConfiguration.state ≠ .complete then
    "Deterministic startup requires a fresh comparable eight-quad snapshot."
  else if !request.startupAuditCompleteForTarget ∨ request.startupAudit.state ≠ .complete then
    "Deterministic startup requires a completed startup audit for the selected module."
  else if request.startupAudit.baseAddress ≠ request.reviewedConfiguration.baseAddress ∨
      request.startupAudit.hardwareId ≠ mdpp32HardwareId ∨
      request.startupAudit.firmwareRevision ≠ mdpp32ScpFirmwareRevisionFw2051 then
    "The completed startup audit does not prove the reviewed MDPP-32 hardware 0x5007 with SCP " ++
      "FW2051 target."
  else if !plan.success then plan.message
  else ""

def fail (result : DeterministicStartupResult) (message : String) : DeterministicStartupResult :=
  { result with state := .failed, message }

/-- The result before the request is looked at. -/
def reviewed (request : DeterministicStartupRequest) : DeterministicStartupResult :=
  let reviewedPlan :=
    planFw2051ScpStandaloneStartup request.profile request.reviewedConfiguration
  { baseAddress := request.reviewedConfiguration.baseAddress
    reviewedPlan
    valuesCompared := reviewedPlan.valuesCompared
    initialDifferences := reviewedPlan.configurationDifferences
    startupContractDifferences := reviewedPlan.startupContractDifferences
    bankedDifferences := reviewedPlan.bankedDifferences }

section Operation

variable (fault : Site → Option Fault) (gate : Gate → ScpCaptureGateResult)
  (cancellationRequested : Gate → Bool)

/-- The last phase: the module is captured and compared with the profile. -/
def verifyFinalConfiguration (result : DeterministicStartupResult) (profile : ScpProfile)
    (bench : Bench) : DeterministicStartupResult × Bench :=
  let result := { result with
    state := .verifyingFinalConfiguration
    message := "Recapturing all eight banks for the final 141-value proof..." }
  let (finalCapture, bench) := captureFw2051ScpConfiguration (fault ∘ .finalCapture) bench
    result.baseAddress (some (gate ∘ .finalCapture))
  let result := { result with finalConfiguration := finalCapture.configuration }
  if result.finalConfiguration.state ≠ .complete then
    (fail result ("The final eight-bank verification capture failed; the final proof is " ++
      "unavailable. " ++ result.finalConfiguration.message), bench)
  else
    let result := { result with
      finalComparison := compareFw2051ScpConfiguration profile result.finalConfiguration }
    if !result.finalComparison.comparable ∨
        result.finalComparison.valuesCompared ≠ fw2051ScpConfigurationValueCount ∨
        result.finalComparison.differences ≠ [] then
      (fail result ("Final verification did not match all 141 saved SCP values. " ++
        result.finalComparison.message), bench)
    else
      ({ result with
          finalProfileVerified := true
          state := .passed
          message := "Deterministic tuner startup passed: the readout contract and all 141 " ++
            "saved SCP values are verified. Ready and stopped." }, bench)

/-- The third phase is left out when the fresh plan has no step. -/
def applyBankedProfile (result : DeterministicStartupResult) (profile : ScpProfile)
    (bench : Bench) : DeterministicStartupResult × Bench :=
  if result.bankedApplicationNeeded then
    let result := { result with
      state := .applyingBankedProfile
      message := "Applying the freshly planned banked differences with exact readback and " ++
        "rollback protection..." }
    let (bankedApplication, bench) := applyFw2051ScpProfile (fault ∘ .application)
      (cancellationRequested ∘ .application) bench result.postPreparationPlan.request
      (some (gate ∘ .application))
    let result := { result with
      bankedApplication
      moduleLeftStopped := bankedApplication.moduleLeftStopped }
    if bankedApplication.state ≠ .passed then
      (fail result ("The banked-profile phase failed; its transaction performed its guarded " ++
        "rollback when ownership remained available. " ++ bankedApplication.message), bench)
    else
      verifyFinalConfiguration fault gate { result with bankedApplicationPassed := true } profile
        bench
  else
    verifyFinalConfiguration fault gate { result with bankedApplicationPassed := true } profile
      bench

/-- The second phase and the plan for the third. -/
def capturePreparedConfiguration (result : DeterministicStartupResult) (profile : ScpProfile)
    (bench : Bench) : DeterministicStartupResult × Bench :=
  let result := { result with
    state := .capturingPreparedConfiguration
    message := "The readout contract passed. Recapturing all eight SCP banks before any profile " ++
      "write..." }
  let (capture, bench) := captureFw2051ScpConfiguration (fault ∘ .preparedCapture) bench
    result.baseAddress (some (gate ∘ .preparedCapture))
  let result := { result with postPreparationConfiguration := capture.configuration }
  if result.postPreparationConfiguration.state ≠ .complete then
    (fail result ("The post-preparation eight-bank capture failed; no banked-profile write was " ++
      "requested. " ++ result.postPreparationConfiguration.message), bench)
  else
    let result := { result with
      postPreparationCapturePassed := true
      postPreparationPlan :=
        planFw2051ScpProfileApplication profile result.postPreparationConfiguration }
    if !result.postPreparationPlan.success then
      (fail result ("The freshly prepared module cannot be matched to the saved profile; no " ++
        "banked write was requested. " ++ result.postPreparationPlan.message), bench)
    else
      let bankedWritesPlanned := result.postPreparationPlan.request.steps.length
      applyBankedProfile fault gate cancellationRequested
        { result with
          bankedWritesPlanned
          bankedApplicationNeeded := bankedWritesPlanned ≠ 0 } profile bench

end Operation

end DeterministicStartup

open DeterministicStartup in
/-- The startup, phase by phase. -/
def runFw2051DeterministicStartup (fault : Site → Option Fault)
    (cancellationRequested : Gate → Bool) (bench : Bench) (request : DeterministicStartupRequest)
    (ownershipGate : Option (Gate → ScpCaptureGateResult)) :
    DeterministicStartupResult × Bench :=
  let result := reviewed request
  let requestError := DeterministicStartup.validateRequest request result.reviewedPlan
  if requestError ≠ "" then (fail result requestError, bench)
  else
    match ownershipGate with
    | none => (fail result "Deterministic startup has no ownership gate.", bench)
    | some gate =>
      let result := { result with
        state := .preparingReadout
        message := "Running the strict module-wide readout preparation..." }
      let (preparation, bench) := prepareFw2051ModuleForStartup (fault ∘ .preparation)
        (cancellationRequested ∘ .preparation) bench result.baseAddress request.startupAudit
        (some (gate ∘ .preparation))
      let result := { result with preparation }
      if preparation.state ≠ .passed then
        (fail result ("Startup preparation failed; no banked-profile write was requested. " ++
          preparation.message), bench)
      else
        capturePreparedConfiguration fault gate cancellationRequested
          { result with
            startupPreparationPassed := true
            moduleLeftStopped := preparation.moduleLeftStopped } request.profile bench

end Fidget
