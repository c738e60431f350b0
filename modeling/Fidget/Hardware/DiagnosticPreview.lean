import Fidget.Hardware.SentWrites

/-!
# Previewing a parameter

`hardware/DiagnosticPreviewOperation.cpp`: while the acquisition is paused, one register of one
bank is given a value for trial, or its original value back. The original value is put in the
recovery journal before the trial value is written, so that it can be restored after a crash; once
the parameter is safe again the journal is relieved of it.

To apply and to restore is one transaction with an action, as in the source. Up to the write it is
the same for both, except that only a trial value is checked against the register that it depends
on. Only a trial value is rolled back if it was not verified; a restoration that failed leaves its
record in the journal.

Three conditions decide what is done at the end: `previewNowInactive`, whether the journal is
relieved of the value, and `previewConfigurationSafe` and `previewSelectorSafe`, whether data taking
resumes.

## Main results

- `armRecovery`, `disarmRecovery`: when the journal is given the original value, and when it is
  relieved of it.
- `writeParameter`, `rollbackParameter`: the write, and its undoing.
- `executePreviewTransaction`: the transaction with its session and its module.
- `applyDiagnosticParameterPreview`, `restoreDiagnosticParameterPreview`: the two operations.
-/

namespace Fidget

/-! ### Requests and results

One transaction serves two operations: to apply a trial value and to restore the original one. -/

inductive PreviewAction where
  | apply
  | restore
  deriving DecidableEq, Repr

/-- A trial value, or the original one back. -/
structure PreviewTransactionRequest where
  action : PreviewAction := .apply
  selectedQuad : UInt16 := 0
  registerOffset : UInt16 := 0
  requestedValue : UInt16 := 0
  originalValue : UInt16 := 0
  resumeAfterTransaction : Bool := true
  automaticallyRestoredOnStop : Bool := false
  deriving DecidableEq, Repr

structure DiagnosticParameterPreviewRequest where
  selectedQuad : UInt16 := 0
  registerOffset : UInt16 := 0
  requestedValue : UInt16 := 0
  deriving DecidableEq, Repr

inductive DiagnosticParameterPreviewState where
  | notRun
  | applying
  | previewActive
  | restoring
  | restored
  | failed
  deriving DecidableEq, Repr

/-- The two measured durations are left out. -/
structure DiagnosticParameterPreviewResult where
  state : DiagnosticParameterPreviewState := .notRun
  message : String := "No parameter preview has been requested"
  selectedQuad : UInt16 := 0
  registerOffset : UInt16 := 0
  settingName : String := ""
  originalValue : UInt16 := 0
  requestedValue : UInt16 := 0
  appliedReadback : UInt16 := 0
  restoredReadback : UInt16 := 0
  dependencyRegister : UInt16 := 0
  dependencyName : String := ""
  dependencyValue : UInt16 := 0
  daqModeReadback : UInt32 := 0
  fingerprintVerified : Bool := false
  foreignFingerprint : Bool := false
  communicationUnavailable : Bool := false
  originalCaptured : Bool := false
  modulePaused : Bool := false
  daqModePaused : Bool := false
  writeAttempted : Bool := false
  writeVerified : Bool := false
  rollbackAttempted : Bool := false
  rollbackVerified : Bool := false
  selectorParkedAtQuadZero : Bool := false
  fifoResetSent : Bool := false
  readoutResetSent : Bool := false
  acquisitionResumed : Bool := false
  daqModeReadbackValid : Bool := false
  daqModeResumed : Bool := false
  previewActive : Bool := false
  restoreAttempted : Bool := false
  restoreVerified : Bool := false
  automaticallyRestoredOnStop : Bool := false
  dependencyChecked : Bool := false
  deriving DecidableEq, Repr

/-! ### Calls

Everything outside of the operation is a parameter: what becomes of each call to the transport,
whether a save succeeds, and whether a cancellation was requested. -/

/-- The calls to the transport. -/
inductive PreviewSite where
  | fingerprint
  | pause (site : PauseSite)
  | select
  | capture
  | dependency
  | write
  | readback
  | rollbackWrite
  | rollbackReadback
  | park
  | resume (site : ResumeSite)
  deriving DecidableEq, Repr

/-- The two times the journal is saved: with the value to restore, and relieved of it. -/
inductive PreviewSave where
  | arm
  | disarm
  deriving DecidableEq, Repr

/-- The error of a save, if it fails. -/
abbrev JournalSaver := PreviewSave → TunerRecoveryRecord → String → Option String

/-- The record that is saved. -/
def previewRecoveryRecord (record : TunerRecoveryRecord) (active : Bool)
    (request : PreviewTransactionRequest) (originalValue : UInt16) : TunerRecoveryRecord :=
  { record with
    previewRestoreRequired := active
    previewQuad := if active then request.selectedQuad else 0
    previewRegisterOffset := if active then request.registerOffset else 0
    previewOriginalValue := if active then originalValue else 0
    previewAppliedValue := if active then request.requestedValue else 0 }

/-- The local variables of the operation, the session, the module and the writes sent to it. -/
structure PreviewRun where
  bench : Bench
  session : DiagnosticAcquisitionPreparationResult
  result : DiagnosticParameterPreviewResult
  failure : String := ""
  selectorSelected : Bool := false
  currentValue : UInt16 := 0
  recoveryRestoreArmed : Bool := false
  sent : List SentWrite := []

namespace PreviewRun

def fail (run : PreviewRun) (message : String) : PreviewRun :=
  { run with failure := appendFailure run.failure message }

end PreviewRun

/-! ### Refusals -/

/-- What is known before the first call. -/
def initialPreviewResult (request : PreviewTransactionRequest) :
    DiagnosticParameterPreviewResult :=
  let applying := request.action = .apply
  let settingName :=
    match findFw2051ScpSetting request.registerOffset with
    | none => "Unsupported SCP parameter"
    | some definition => definition.name
  { state := if applying then .applying else .restoring
    selectedQuad := request.selectedQuad
    registerOffset := request.registerOffset
    requestedValue := request.requestedValue
    originalValue := request.originalValue
    automaticallyRestoredOnStop := request.automaticallyRestoredOnStop
    originalCaptured := !applying
    appliedReadback := if applying then 0 else request.requestedValue
    previewActive := !applying
    settingName
    message :=
      if applying then
        "Pausing acquisition and applying the " ++ settingName ++ " preview..."
      else if request.automaticallyRestoredOnStop then
        "Stop requested: restoring the original " ++ settingName ++ " before cleanup..."
      else "Pausing acquisition and restoring the original " ++ settingName ++ "..." }

/-- The definition of the register, or the message that refuses the request. -/
def validatePreviewRequest (session : DiagnosticAcquisitionPreparationResult)
    (request : PreviewTransactionRequest) (recoveryJournalPath : String) :
    Except String Fw2051ScpSettingDefinition :=
  match findFw2051ScpSetting request.registerOffset with
  | none => .error "Temporary preview is not available for this SCP register."
  | some definition =>
    if request.selectedQuad.toNat ≥ fw2051ScpQuadCount then
      .error "The SCP channel quad must be between 0 and 7."
    else if session.acquisition.state ≠ .running then
      .error "A parameter can be previewed only while direct acquisition is running."
    else if recoveryJournalPath = "" then
      .error "A recovery-journal path is required before a parameter preview."
    else if request.action = .apply ∧
        validateFw2051ScpSettingValue definition request.requestedValue "preview " ≠ "" then
      .error (validateFw2051ScpSettingValue definition request.requestedValue "preview ")
    else .ok definition

/-! ### The steps of the transaction

Each step does nothing if the run has failed before, or, for the last ones, if there is nothing for
it to do. -/

section Steps

variable (fault : PreviewSite → Option Fault) (save : JournalSaver)
  (cancellationRequested : Bool) (recoveryJournalPath : String)
  (definition : Fw2051ScpSettingDefinition) (request : PreviewTransactionRequest)

/-- A write, noted on the log of the run whether or not it is answered. -/
def PreviewRun.write (run : PreviewRun) (site : PreviewSite) (registerOffset value : UInt16) :
    Option String × PreviewRun :=
  let (error, bench) := run.bench.writeVmeD16 (fault site) registerOffset value
  let write : SentWrite := .vme registerOffset value (site = .park) (fault site)
  (error, { run with bench, sent := run.sent ++ [write] })

/-- The acquisition is paused. -/
def pausePreview (run : PreviewRun) : PreviewRun :=
  let (paused, bench) := pauseDiagnosticDataTaking (fault ∘ .pause) run.bench
  { run with
    bench
    sent := run.sent ++ pauseWrites (fault ∘ .pause)
    failure := appendFailure run.failure paused.error
    result := { run.result with
      modulePaused := paused.modulePaused
      daqModePaused := paused.daqModePaused } }

/-- The bank is selected once the module is paused. -/
def selectPreviewQuad (run : PreviewRun) : PreviewRun :=
  if run.result.modulePaused ∧ run.result.daqModePaused then
    match run.write fault .select fw2051ScpSelectorRegister request.selectedQuad with
    | (some error, run) =>
      run.fail (registerOperationError "write" "channel-quad selector" fw2051ScpSelectorRegister
        error)
    | (none, run) => { run with selectorSelected := true }
  else run

/-- The current value, which for a trial is the original one. -/
def captureCurrentValue (run : PreviewRun) : PreviewRun :=
  if run.selectorSelected then
    match run.bench.readVmeD16 (fault .capture) request.registerOffset with
    | .error error =>
      run.fail (registerOperationError "read" run.result.settingName request.registerOffset error)
    | .ok currentValue =>
      let run := { run with currentValue }
      if request.action = .apply then
        { run with result := { run.result with
            originalValue := currentValue
            originalCaptured := true } }
      else run
  else run

/-- The register that the setting depends on must agree with the new value. -/
def checkDependency (run : PreviewRun) : PreviewRun :=
  if request.action = .apply ∧ run.result.originalCaptured ∧ definition.dependencyRule ≠ .none then
    let run := { run with result := { run.result with
      dependencyRegister := definition.dependencyRegister
      dependencyName := definition.dependencyName } }
    match run.bench.readVmeD16 (fault .dependency) definition.dependencyRegister with
    | .error error =>
      run.fail (registerOperationError "read" (definition.dependencyName ++ " dependency")
        definition.dependencyRegister error)
    | .ok dependencyValue =>
      let run := { run with result := { run.result with
        dependencyChecked := true
        dependencyValue } }
      if fw2051ScpDependencySatisfied definition request.requestedValue dependencyValue then run
      else
        run.fail ("The proposed " ++ run.result.settingName ++ " must be " ++
          fw2051ScpDependencyRelation definition.dependencyRule ++ " the live " ++
          definition.dependencyName ++ " (proposed " ++ toString request.requestedValue ++
          ", live " ++ toString dependencyValue ++ "); no preview write was sent.")
  else run

/-- Applying must change something; restoring must find the value that was applied. -/
def checkCurrentValue (run : PreviewRun) : PreviewRun :=
  if request.action = .apply ∧ run.result.originalCaptured ∧ run.failure = "" ∧
      request.requestedValue = run.result.originalValue then
    run.fail ("The proposed " ++ run.result.settingName ++
      " already equals the current value; no write was needed.")
  else if request.action = .restore ∧ run.selectorSelected ∧
      run.currentValue ≠ request.requestedValue then
    run.fail ("The live " ++ run.result.settingName ++ " register no longer matches the active " ++
      "preview value; restoration was not allowed to overwrite the unexpected value.")
  else run

/-- A restoration on stopping is not cancelled. -/
def checkCancellation (run : PreviewRun) : PreviewRun :=
  if cancellationRequested ∧ run.failure = "" ∧ !request.automaticallyRestoredOnStop then
    run.fail ("Stop arrived before the parameter write; the pending " ++
      "transaction was left unchanged for final cleanup.")
  else run

/-- The session takes over the record only if it was saved. -/
def savePreviewRecoveryState (run : PreviewRun) (site : PreviewSave) :
    Option String × PreviewRun :=
  let record := previewRecoveryRecord run.session.recoveryRecord (site = .arm) request
    run.result.originalValue
  match save site record recoveryJournalPath with
  | some error => (some error, run)
  | none => (none, { run with session := { run.session with recoveryRecord := record } })

/-- The original value is put in the journal before it is overwritten. -/
def armRecovery (run : PreviewRun) : PreviewRun :=
  if request.action = .apply ∧ run.failure = "" ∧ run.result.originalCaptured then
    match savePreviewRecoveryState save recoveryJournalPath request run .arm with
    | (some error, run) =>
      run.fail ("The crash-recovery restore value could not be journaled, " ++
        "so no preview write was allowed: " ++ error)
    | (none, run) => { run with recoveryRestoreArmed := true }
  else run

/-- The write that the transaction is about, and its readback. -/
def writeParameter (run : PreviewRun) : PreviewRun :=
  if run.failure = "" then
    let applying := request.action = .apply
    let targetValue := if applying then request.requestedValue else request.originalValue
    let run := { run with result := { run.result with
      writeAttempted := applying
      restoreAttempted := !applying } }
    match run.write fault .write request.registerOffset targetValue with
    | (some error, run) =>
      run.fail (registerOperationError (if applying then "write" else "restore")
        run.result.settingName request.registerOffset error)
    | (none, run) =>
      match run.bench.readVmeD16 (fault .readback) request.registerOffset with
      | .error error =>
        run.fail (registerOperationError "verify" run.result.settingName request.registerOffset
          error)
      | .ok readback =>
        if readback ≠ targetValue then
          run.fail (run.result.settingName ++ " readback was " ++ toString readback ++
            ", expected " ++ toString targetValue ++ ".")
        else if applying then
          { run with result := { run.result with
              appliedReadback := readback
              writeVerified := true
              previewActive := true } }
        else
          { run with result := { run.result with
              restoredReadback := readback
              restoreVerified := true
              previewActive := false } }
  else run

/-- A write that was not verified is undone. -/
def rollbackParameter (run : PreviewRun) : PreviewRun :=
  if request.action = .apply ∧ run.result.writeAttempted ∧ !run.result.writeVerified ∧
      run.result.originalCaptured then
    let run := { run with result := { run.result with rollbackAttempted := true } }
    match run.write fault .rollbackWrite request.registerOffset run.result.originalValue with
    | (some error, run) =>
      run.fail (registerOperationError "rollback" run.result.settingName request.registerOffset
        error)
    | (none, run) =>
      match run.bench.readVmeD16 (fault .rollbackReadback) request.registerOffset with
      | .error error =>
        run.fail (registerOperationError "verify rollback" run.result.settingName
          request.registerOffset error)
      | .ok readback =>
        let run := { run with result := { run.result with
          restoredReadback := readback
          rollbackVerified := readback = run.result.originalValue } }
        if run.result.rollbackVerified then run
        else
          run.fail ("Rolled-back " ++ run.result.settingName ++ " readback was " ++
            toString readback ++ ", expected " ++ toString run.result.originalValue ++ ".")
  else run

/-- A selector that is known to have been written to is parked. -/
def parkPreviewSelector (run : PreviewRun) : PreviewRun :=
  if run.selectorSelected then
    match run.write fault .park fw2051ScpSelectorRegister 0 with
    | (some error, run) =>
      run.fail (registerOperationError "park" "channel-quad selector" fw2051ScpSelectorRegister
        error)
    | (none, run) => { run with result := { run.result with selectorParkedAtQuadZero := true } }
  else run

/-! ### The end of the transaction

Whether the journal is relieved and whether the acquisition is resumed is decided on the flags that
the steps before have set. -/

/-- The register holds a value that the acquisition may go on with. -/
def previewConfigurationSafe (result : DiagnosticParameterPreviewResult) : Bool :=
  if request.action = .apply then
    !result.writeAttempted || result.writeVerified || result.rollbackVerified
  else !result.restoreAttempted || result.restoreVerified

/-- The selector is parked, or was not written to as far as is known. -/
def previewSelectorSafe (run : PreviewRun) : Bool :=
  !run.selectorSelected || run.result.selectorParkedAtQuadZero

/-- The trial value is taken not to be in the register. -/
def previewNowInactive (result : DiagnosticParameterPreviewResult) : Bool :=
  if request.action = .apply then !result.writeVerified || result.rollbackVerified
  else result.restoreVerified

/-- Then the journal is relieved of the original value. -/
def disarmRecovery (run : PreviewRun) : PreviewRun :=
  if previewNowInactive request run.result ∧
      (run.recoveryRestoreArmed ∨ request.action = .restore) then
    match savePreviewRecoveryState save recoveryJournalPath request run .disarm with
    | (some error, run) =>
      run.fail ("The parameter is safe, but the conservative recovery " ++
        "record could not be updated: " ++ error)
    | (none, run) => run
  else run

/-- The acquisition is resumed if both are safe. -/
def resumePreview (run : PreviewRun) : PreviewRun :=
  if request.resumeAfterTransaction ∧ run.result.modulePaused ∧ run.result.daqModePaused ∧
      previewConfigurationSafe request run.result ∧ previewSelectorSafe run then
    let (resumed, bench) := resumeDiagnosticDataTaking (fault ∘ .resume) run.bench
    { run with
      bench
      sent := run.sent ++ resumeWrites (fault ∘ .resume)
      failure := appendFailure run.failure resumed.error
      result := { run.result with
        fifoResetSent := resumed.fifoResetSent
        readoutResetSent := resumed.readoutResetSent
        acquisitionResumed := resumed.acquisitionResumed
        daqModeReadbackValid := resumed.daqModeReadbackValid
        daqModeReadback := resumed.daqModeReadback
        daqModeResumed := resumed.daqModeResumed } }
  else run

/-- The verdict and its message. -/
def finishPreview (run : PreviewRun) : DiagnosticParameterPreviewResult :=
  let result := run.result
  let applying := request.action = .apply
  let resumeSafe := !request.resumeAfterTransaction ||
    (result.acquisitionResumed && result.daqModeResumed)
  let transactionSafe :=
    previewConfigurationSafe request result && previewSelectorSafe run && resumeSafe
  let transactionPassed := run.failure = "" ∧ previewSelectorSafe run ∧ resumeSafe ∧
    (if applying then result.writeVerified else result.restoreVerified)
  if transactionPassed then
    { result with
      state := if applying then .previewActive else .restored
      message :=
        if applying then
          result.settingName ++ " preview applied and verified; acquisition resumed. " ++
            "Restore remains available."
        else if request.automaticallyRestoredOnStop then
          "Original " ++ result.settingName ++
            " automatically restored and verified before tuner cleanup."
        else "Original " ++ result.settingName ++ " restored and verified; acquisition resumed." }
  else
    { result with
      state := .failed
      message :=
        if transactionSafe ∧ !request.automaticallyRestoredOnStop then
          if run.failure = "" then
            "The parameter transaction made no change, but the acquisition state remains safe."
          else
            run.failure ++ " The register is unchanged or was recovered, and the " ++
              "acquisition state remains safe."
        else if run.failure = "" then
          "The parameter transaction could not recover a verified safe state."
        else run.failure }

/-- Everything up to the write. -/
def preparePreview (run : PreviewRun) : PreviewRun :=
  let run := pausePreview fault run
  let run := selectPreviewQuad fault request run
  let run := captureCurrentValue fault request run
  let run := checkDependency fault definition request run
  let run := checkCurrentValue request run
  let run := checkCancellation cancellationRequested request run
  armRecovery save recoveryJournalPath request run

/-- The write and everything after it. -/
def completePreview (run : PreviewRun) : PreviewRun :=
  let run := writeParameter fault request run
  let run := rollbackParameter fault request run
  let run := parkPreviewSelector fault run
  let run := disarmRecovery save recoveryJournalPath request run
  resumePreview fault request run

end Steps

/-! ### The operations

The checks of the request come before the first call. -/

/-- The run that `executePreviewTransaction` makes, to its final result. -/
def previewTransactionRun (fault : PreviewSite → Option Fault) (save : JournalSaver)
    (cancellationRequested : Bool) (bench : Bench)
    (session : DiagnosticAcquisitionPreparationResult) (request : PreviewTransactionRequest)
    (recoveryJournalPath : String) : PreviewRun :=
  let run : PreviewRun := { bench, session, result := initialPreviewResult request }
  match validatePreviewRequest session request recoveryJournalPath with
  | .error message => { run with result := { run.result with state := .failed, message } }
  | .ok definition =>
    let fingerprint := verifyDiagnosticOwnershipFingerprint (fault .fingerprint) bench session
    if fingerprint.outcome ≠ .verified then
      { run with result := { run.result with
          foreignFingerprint := fingerprint.outcome = .foreignFingerprint
          communicationUnavailable := fingerprint.outcome = .communicationUnavailable
          state := .failed
          message := fingerprint.message } }
    else
      let run := { run with result := { run.result with fingerprintVerified := true } }
      let run := preparePreview fault save cancellationRequested recoveryJournalPath definition
        request run
      let run := completePreview fault save recoveryJournalPath request run
      { run with result := finishPreview request run }

/-- What the operation returns of its run. -/
def executePreviewTransaction (fault : PreviewSite → Option Fault) (save : JournalSaver)
    (cancellationRequested : Bool) (bench : Bench)
    (session : DiagnosticAcquisitionPreparationResult) (request : PreviewTransactionRequest)
    (recoveryJournalPath : String) :
    DiagnosticParameterPreviewResult × DiagnosticAcquisitionPreparationResult × Bench :=
  let run := previewTransactionRun fault save cancellationRequested bench session request
    recoveryJournalPath
  (run.result, run.session, run.bench)

/-- A trial value is written. -/
def applyDiagnosticParameterPreview (fault : PreviewSite → Option Fault) (save : JournalSaver)
    (cancellationRequested : Bool) (bench : Bench)
    (acquisitionSession : DiagnosticAcquisitionPreparationResult)
    (request : DiagnosticParameterPreviewRequest) (recoveryJournalPath : String) :
    DiagnosticParameterPreviewResult × DiagnosticAcquisitionPreparationResult × Bench :=
  executePreviewTransaction fault save cancellationRequested bench acquisitionSession
    { action := .apply
      selectedQuad := request.selectedQuad
      registerOffset := request.registerOffset
      requestedValue := request.requestedValue } recoveryJournalPath

/-- The original value of an active trial is written back. -/
def restoreDiagnosticParameterPreview (fault : PreviewSite → Option Fault) (save : JournalSaver)
    (cancellationRequested : Bool) (bench : Bench)
    (acquisitionSession : DiagnosticAcquisitionPreparationResult)
    (activePreview : DiagnosticParameterPreviewResult) (recoveryJournalPath : String)
    (resumeAfterTransaction automaticallyRestoredOnStop : Bool) :
    DiagnosticParameterPreviewResult × DiagnosticAcquisitionPreparationResult × Bench :=
  if !activePreview.previewActive ∨ activePreview.state ≠ .previewActive then
    ({ activePreview with
        state := .failed
        message := "There is no active parameter preview to restore." }, acquisitionSession, bench)
  else
    let (result, session, bench) :=
      executePreviewTransaction fault save cancellationRequested bench acquisitionSession
        { action := .restore
          selectedQuad := activePreview.selectedQuad
          registerOffset := activePreview.registerOffset
          requestedValue := activePreview.requestedValue
          originalValue := activePreview.originalValue
          resumeAfterTransaction
          automaticallyRestoredOnStop } recoveryJournalPath
    ({ result with
        appliedReadback := activePreview.appliedReadback
        originalCaptured := activePreview.originalCaptured
        writeAttempted := activePreview.writeAttempted
        writeVerified := activePreview.writeVerified }, session, bench)

end Fidget
