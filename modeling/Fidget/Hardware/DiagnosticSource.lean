import Fidget.Hardware.SentWrites

/-!
# Changing the waveform source

`hardware/DiagnosticSourceOperation.cpp`: the two low bits of the sample configuration of one bank
select what is sampled. While the acquisition is paused they are changed, and at the end of the
acquisition the original configuration is put back. The recovery journal holds the original
configuration for as long as the bank deviates from it.

There are two operations, and they share their stages. A change captures the configuration, arms the
journal, writes, undoes what was not verified, parks the selector, relieves the journal and resumes;
the restoration at the stop of an acquisition has its original from the journal and does not resume.
Every stage looks at the failure and at the flags of the result to decide whether it is to run, as
in the source.

Calls to the transport, saves of the journal and looks at the cancellation are named, and what
becomes of each is given. A save that fails leaves the record of the session as it was before.

## Main results

- `armSourceRecovery`, `disarmSourceRecovery`: when the journal is given the original configuration,
  and when it is relieved of it.
- `applySource`, `rollbackSource`: the write, and its undoing.
- `changeDiagnosticWaveformSource`, `restoreDiagnosticWaveformSource`: the two operations.
-/

namespace Fidget

/-! ### Requests and results -/

structure DiagnosticSourceChangeRequest where
  selectedQuad : UInt16 := 0
  requestedSource : UInt8 := 0
  deriving DecidableEq, Repr

inductive DiagnosticSourceChangeState where
  | notRun
  | applying
  | passed
  | failed
  deriving DecidableEq, Repr

structure DiagnosticSourceChangeResult where
  state : DiagnosticSourceChangeState := .notRun
  message : String := "No waveform-source change has been requested"
  selectedQuad : UInt16 := 0
  requestedSource : UInt8 := 0
  originalConfiguration : UInt16 := 0
  requestedConfiguration : UInt16 := 0
  appliedReadback : UInt16 := 0
  restoredReadback : UInt16 := 0
  daqModeReadback : UInt32 := 0
  fingerprintVerified : Bool := false
  foreignFingerprint : Bool := false
  communicationUnavailable : Bool := false
  originalCaptured : Bool := false
  modulePaused : Bool := false
  daqModePaused : Bool := false
  writeAttempted : Bool := false
  writeVerified : Bool := false
  rollbackAttempted : Bool := false
  rollbackVerified : Bool := false
  restoreAttempted : Bool := false
  restoreVerified : Bool := false
  automaticallyRestoredOnStop : Bool := false
  sourceRestoreRequired : Bool := false
  selectorParkedAtQuadZero : Bool := false
  fifoResetSent : Bool := false
  readoutResetSent : Bool := false
  acquisitionResumed : Bool := false
  daqModeReadbackValid : Bool := false
  daqModeResumed : Bool := false
  deriving DecidableEq, Repr

/-- Its two low bits are the source. -/
def sampleConfigurationRegister : UInt16 := 0x614A

/-! ### Calls

As in a preview, what becomes of each call is a parameter. -/

/-- The calls to the transport. -/
inductive SourceSite where
  | fingerprint
  | pause (site : PauseSite)
  | select
  | capture
  | write
  | readback
  | rollbackWrite
  | rollbackReadback
  | park
  | resume (site : ResumeSite)
  deriving DecidableEq, Repr

/-- The two times the journal is saved: with the configuration to restore, and relieved of it. -/
inductive SourceSave where
  | arm
  | disarm
  deriving DecidableEq, Repr

/-- The error of a save, if it fails. -/
abbrev SourceJournalSaver := SourceSave → TunerRecoveryRecord → String → Option String

/-- The two times a change looks whether it has been cancelled. -/
inductive SourceCancellation where
  | beforeWrite
  | atEnd
  deriving DecidableEq, Repr

/-- The record that is saved. -/
def sourceRecoveryRecord (record : TunerRecoveryRecord) (active : Bool)
    (quad originalConfiguration appliedConfiguration : UInt16) : TunerRecoveryRecord :=
  { record with
    sourceRestoreRequired := active
    sourceQuad := if active then quad else 0
    sourceOriginalConfiguration := if active then originalConfiguration else 0
    sourceAppliedConfigurationAvailable := active
    sourceAppliedConfiguration := if active then appliedConfiguration else 0 }

/-- The local variables of the operations, the session and the module. The operations look neither
at `written`, the banked cells they have sent a value to, nor at `sent`, all that they have sent. -/
structure SourceRun where
  bench : Bench
  session : DiagnosticAcquisitionPreparationResult
  result : DiagnosticSourceChangeResult
  failure : String := ""
  selectorSelected : Bool := false
  sourceWasAlreadyActive : Bool := false
  restoreConfiguration : UInt16 := 0
  returnsToOriginal : Bool := false
  recoveryRestoreArmed : Bool := false
  written : List (BankCell × UInt16) := []
  sent : List SentWrite := []

namespace SourceRun

def fail (run : SourceRun) (message : String) : SourceRun :=
  { run with failure := appendFailure run.failure message }

def write (fault : SourceSite → Option Fault) (run : SourceRun) (site : SourceSite)
    (registerOffset value : UInt16) : Option String × SourceRun :=
  let (error, bench) := run.bench.writeVmeD16 (fault site) registerOffset value
  (error, { run with
    bench
    written := run.written ++ [((run.bench.selector.toNat, registerOffset), value)]
    sent := run.sent ++ [.vme registerOffset value (site = .park) (fault site)] })

/-- What a call returns and what it leaves behind. -/
def refuse (run : SourceRun) (message : String) : SourceRun :=
  { run with result := { run.result with state := .failed, message } }

end SourceRun

section Steps

variable (fault : SourceSite → Option Fault) (save : SourceJournalSaver)
  (cancellationRequested : SourceCancellation → Bool) (recoveryJournalPath : String)

/-- The session takes over the record only if it was saved. -/
def saveSourceRecoveryState (run : SourceRun) (site : SourceSave)
    (quad originalConfiguration appliedConfiguration : UInt16) : Option String × SourceRun :=
  let record := sourceRecoveryRecord run.session.recoveryRecord (site = .arm) quad
    originalConfiguration appliedConfiguration
  match save site record recoveryJournalPath with
  | some error => (some error, run)
  | none => (none, { run with session := { run.session with recoveryRecord := record } })

/-! ### What both operations do

The fingerprint of the session is checked before anything is written, and a module that was found by
another session is left alone. -/

/-- The call goes on only if the controller is still this session's. -/
def verifySourceOwnership (run : SourceRun) : Bool × SourceRun :=
  let fingerprint := verifyDiagnosticOwnershipFingerprint (fault .fingerprint) run.bench run.session
  if fingerprint.outcome ≠ .verified then
    (false, { run with result := { run.result with
      foreignFingerprint := fingerprint.outcome = .foreignFingerprint
      communicationUnavailable := fingerprint.outcome = .communicationUnavailable
      state := .failed
      message := fingerprint.message } })
  else (true, { run with result := { run.result with fingerprintVerified := true } })

/-- The acquisition is paused. -/
def pauseSource (run : SourceRun) : SourceRun :=
  let (paused, bench) := pauseDiagnosticDataTaking (fault ∘ .pause) run.bench
  { run with
    bench
    sent := run.sent ++ pauseWrites (fault ∘ .pause)
    failure := appendFailure run.failure paused.error
    result := { run.result with
      modulePaused := paused.modulePaused
      daqModePaused := paused.daqModePaused } }

/-- The bank is selected once the module is paused. -/
def selectSourceQuad (quad : UInt16) (run : SourceRun) : SourceRun :=
  if run.result.modulePaused ∧ run.result.daqModePaused then
    match run.write fault .select fw2051ScpSelectorRegister quad with
    | (some error, run) =>
      run.fail (registerOperationError "write" "channel-quad selector" fw2051ScpSelectorRegister
        error)
    | (none, run) => { run with selectorSelected := true }
  else run

/-- A selector that is known to have been written to is parked. -/
def parkSourceSelector (run : SourceRun) : SourceRun :=
  if run.selectorSelected then
    match run.write fault .park fw2051ScpSelectorRegister 0 with
    | (some error, run) =>
      run.fail (registerOperationError "park" "channel-quad selector" fw2051ScpSelectorRegister
        error)
    | (none, run) => { run with result := { run.result with selectorParkedAtQuadZero := true } }
  else run

/-! ### The steps of a change

If a restoration is pending, the original is the configuration in the record, and a change back to
it relieves the record. -/

/-- The message that refuses the request. -/
def sourceChangeRefusal (session : DiagnosticAcquisitionPreparationResult)
    (request : DiagnosticSourceChangeRequest) : Option String :=
  let record := session.recoveryRecord
  if request.selectedQuad.toNat ≥ fw2051ScpQuadCount then
    some "The SCP channel quad must be between 0 and 7."
  else if request.requestedSource > 3 then
    some "The waveform source must be between 0 and 3."
  else if session.acquisition.state ≠ .running then
    some "Waveform source can change only while direct acquisition is running."
  else if recoveryJournalPath = "" then
    some "A recovery-journal path is required before changing the waveform source."
  else if record.sourceRestoreRequired ∧ record.sourceQuad ≠ request.selectedQuad then
    some "Restore the active waveform-source deviation before changing another quad."
  else if record.sourceRestoreRequired ∧
      request.requestedSource.toUInt16 ≠ record.sourceOriginalConfiguration &&& 0x0003 ∧
      (!record.sourceAppliedConfigurationAvailable ∨
        request.requestedSource.toUInt16 ≠ record.sourceAppliedConfiguration &&& 0x0003) then
    some "Restore the original waveform source before selecting another temporary source."
  else none

/-- The configuration found, the one asked for, and the one to go back to in the end. -/
def captureSource (request : DiagnosticSourceChangeRequest) (run : SourceRun) : SourceRun :=
  let run :=
    if run.selectorSelected then
      match run.bench.readVmeD16 (fault .capture) sampleConfigurationRegister with
      | .error error =>
        run.fail (registerOperationError "read" "sample configuration" sampleConfigurationRegister
          error)
      | .ok original =>
        { run with result := { run.result with
            originalCaptured := true
            originalConfiguration := original
            requestedConfiguration := (original &&& 0xFFFC) ||| request.requestedSource.toUInt16 } }
    else run
  let record := run.session.recoveryRecord
  let restoreConfiguration :=
    if record.sourceRestoreRequired then record.sourceOriginalConfiguration
    else run.result.originalConfiguration
  { run with
    sourceWasAlreadyActive := record.sourceRestoreRequired
    restoreConfiguration
    returnsToOriginal := record.sourceRestoreRequired && run.result.originalCaptured &&
      run.result.requestedConfiguration == restoreConfiguration }

/-- A return to the original is not journaled: the journal holds the original already. -/
def armSourceRecovery (request : DiagnosticSourceChangeRequest) (run : SourceRun) : SourceRun :=
  if !run.sourceWasAlreadyActive ∨ !run.returnsToOriginal then
    match saveSourceRecoveryState save recoveryJournalPath run .arm request.selectedQuad
        run.restoreConfiguration run.result.requestedConfiguration with
    | (some error, run) =>
      run.fail ("The waveform-source recovery state could not be journaled, so no source write " ++
        "was allowed: " ++ error)
    | (none, run) => { run with recoveryRestoreArmed := !run.sourceWasAlreadyActive }
  else run

/-- The configuration is written and read back. -/
def sendSource (run : SourceRun) : SourceRun :=
  if run.failure = "" then
    let run := { run with result := { run.result with writeAttempted := true } }
    match run.write fault .write sampleConfigurationRegister run.result.requestedConfiguration with
    | (some error, run) =>
      run.fail (registerOperationError "write" "sample configuration" sampleConfigurationRegister
        error)
    | (none, run) =>
      match run.bench.readVmeD16 (fault .readback) sampleConfigurationRegister with
      | .error error =>
        run.fail (registerOperationError "verify" "sample configuration"
          sampleConfigurationRegister error)
      | .ok readback =>
        let run := { run with result := { run.result with appliedReadback := readback } }
        if readback = run.result.requestedConfiguration then
          { run with result := { run.result with writeVerified := true } }
        else
          run.fail ("Sample-configuration readback was " ++ toString readback ++ ", expected " ++
            toString run.result.requestedConfiguration ++ ".")
  else run

/-- The record is armed, and the configuration sent unless the change is cancelled in between. -/
def applySource (request : DiagnosticSourceChangeRequest) (run : SourceRun) : SourceRun :=
  if run.result.originalCaptured ∧ cancellationRequested .beforeWrite then
    run.fail ("The Stop request arrived before the source write; the captured configuration was " ++
      "left unchanged.")
  else if run.result.originalCaptured then
    if run.result.requestedConfiguration = run.result.originalConfiguration then
      { run with result := { run.result with
          appliedReadback := run.result.originalConfiguration
          writeVerified := true } }
    else sendSource fault (armSourceRecovery save recoveryJournalPath request run)
  else run

/-- A change that was not verified is undone. -/
def rollbackSource (run : SourceRun) : SourceRun :=
  if run.result.writeAttempted ∧ !run.result.writeVerified ∧ run.result.originalCaptured then
    let run := { run with result := { run.result with rollbackAttempted := true } }
    match run.write fault .rollbackWrite sampleConfigurationRegister
        run.result.originalConfiguration with
    | (some error, run) =>
      run.fail (registerOperationError "restore" "sample configuration" sampleConfigurationRegister
        error)
    | (none, run) =>
      match run.bench.readVmeD16 (fault .rollbackReadback) sampleConfigurationRegister with
      | .error error =>
        run.fail (registerOperationError "verify restored" "sample configuration"
          sampleConfigurationRegister error)
      | .ok readback =>
        let run := { run with result := { run.result with
          restoredReadback := readback
          rollbackVerified := readback = run.result.originalConfiguration } }
        if run.result.rollbackVerified then run
        else
          run.fail ("Restored sample-configuration readback was " ++ toString readback ++
            ", expected " ++ toString run.result.originalConfiguration ++ ".")
  else run

/-- The journal is relieved of the configuration once the bank is back at it. -/
def disarmSourceRecovery (request : DiagnosticSourceChangeRequest) (run : SourceRun) : SourceRun :=
  let deviationNowInactive := run.returnsToOriginal && run.result.writeVerified
  let newlyArmedButRecovered := run.recoveryRestoreArmed && run.result.rollbackVerified
  let run :=
    if deviationNowInactive ∨ newlyArmedButRecovered then
      match saveSourceRecoveryState save recoveryJournalPath run .disarm request.selectedQuad
          run.restoreConfiguration 0 with
      | (some error, run) =>
        run.fail ("The waveform source is restored, but the conservative recovery record could " ++
          "not be updated: " ++ error)
      | (none, run) => run
    else run
  { run with result := { run.result with
      sourceRestoreRequired := run.session.recoveryRecord.sourceRestoreRequired } }

/-- The bank holds a configuration that the acquisition may go on with. -/
def sourceConfigurationSafe (result : DiagnosticSourceChangeResult) : Bool :=
  !result.writeAttempted || result.writeVerified || result.rollbackVerified

/-- The selector is parked, or was not written to as far as is known. -/
def sourceSelectorSafe (run : SourceRun) : Bool :=
  !run.selectorSelected || run.result.selectorParkedAtQuadZero

/-- The acquisition is resumed if both are safe. -/
def resumeSource (run : SourceRun) : SourceRun :=
  if run.result.modulePaused ∧ run.result.daqModePaused ∧ sourceConfigurationSafe run.result ∧
      sourceSelectorSafe run then
    let (resumed, bench) := resumeDiagnosticDataTaking (fault ∘ .resume) run.bench
    { run with
      bench
      sent := run.sent ++ resumeWrites (fault ∘ .resume)
      failure := appendFailure run.failure resumed.error
      result := { run.result with
        fifoResetSent := resumed.fifoResetSent
        readoutResetSent := resumed.readoutResetSent
        acquisitionResumed := resumed.acquisitionResumed
        daqModeReadbackValid := resumed.daqModeReadbackValid
        daqModeReadback := resumed.daqModeReadback
        daqModeResumed := resumed.daqModeResumed } }
  else run

/-- The verdict of a change. -/
def finishSourceChange (request : DiagnosticSourceChangeRequest) (run : SourceRun) : SourceRun :=
  let result := run.result
  let resumedSafely := result.acquisitionResumed && result.daqModeResumed
  let passed := run.failure = "" ∧ result.originalCaptured ∧ result.writeVerified ∧
    result.selectorParkedAtQuadZero ∧ resumedSafely
  { run with result := { result with
      state := if passed then .passed else .failed
      message :=
        if passed then
          "Waveform source " ++ toString request.requestedSource ++ " applied to quad " ++
            toString request.selectedQuad ++
            "; acquisition resumed and non-source configuration bits were preserved."
        else if cancellationRequested .atEnd ∧ sourceConfigurationSafe result ∧
            sourceSelectorSafe run then
          "Waveform-source transaction was interrupted by the Stop request; final acquisition " ++
            "cleanup is running."
        else if sourceConfigurationSafe result ∧ sourceSelectorSafe run ∧ resumedSafely then
          if run.failure = "" then
            "The source was not changed, but acquisition resumed safely."
          else
            run.failure ++
              " The original setting is intact or was restored, and acquisition resumed."
        else if run.failure = "" then
          "The waveform-source transaction could not recover a verified running state."
        else run.failure } }

/-! ### The steps of a restoration

At the end of an acquisition the ownership has been verified and the module is paused; neither is
then done once more. -/

/-- At the end of an acquisition the module is paused already. -/
def pauseForRestore (ownershipAlreadyVerifiedAndPaused : Bool) (run : SourceRun) :
    Bool × SourceRun :=
  if ownershipAlreadyVerifiedAndPaused then
    (true, { run with result := { run.result with
      fingerprintVerified := true
      modulePaused := true
      daqModePaused := true } })
  else
    match verifySourceOwnership fault run with
    | (false, run) => (false, run)
    | (true, run) => (true, pauseSource fault run)

/-- The original configuration is written back and read. -/
def restoreSource (run : SourceRun) : SourceRun :=
  if run.selectorSelected ∧ run.failure = "" then
    let run := { run with result := { run.result with restoreAttempted := true } }
    match run.write fault .write sampleConfigurationRegister run.result.originalConfiguration with
    | (some error, run) =>
      run.fail (registerOperationError "restore" "sample configuration" sampleConfigurationRegister
        error)
    | (none, run) =>
      match run.bench.readVmeD16 (fault .readback) sampleConfigurationRegister with
      | .error error =>
        run.fail (registerOperationError "verify restored" "sample configuration"
          sampleConfigurationRegister error)
      | .ok readback =>
        let run := { run with result := { run.result with
          restoredReadback := readback
          restoreVerified := readback = run.result.originalConfiguration } }
        if run.result.restoreVerified then run
        else
          run.fail ("Restored sample-configuration readback was " ++ toString readback ++
            ", expected " ++ toString run.result.originalConfiguration ++ ".")
  else run

/-- The record is relieved of it once that was verified. -/
def disarmRestoredSource (run : SourceRun) : SourceRun :=
  let run :=
    if run.result.restoreVerified ∧ run.result.selectorParkedAtQuadZero then
      match saveSourceRecoveryState save recoveryJournalPath run .disarm run.result.selectedQuad
          run.result.originalConfiguration 0 with
      | (some error, run) =>
        run.fail ("The waveform source was restored, but the recovery record could not be " ++
          "updated: " ++ error)
      | (none, run) => run
    else run
  { run with result := { run.result with
      sourceRestoreRequired := run.session.recoveryRecord.sourceRestoreRequired } }

/-- The verdict of a restoration. -/
def finishSourceRestore (run : SourceRun) : SourceRun :=
  let result := run.result
  let passed := run.failure = "" ∧ result.restoreVerified ∧ result.selectorParkedAtQuadZero ∧
    !result.sourceRestoreRequired
  { run with result := { result with
      state := if passed then .passed else .failed
      message :=
        if passed then
          "Original waveform source automatically restored and verified before tuner cleanup."
        else if run.failure = "" then
          "The original waveform source could not be restored safely."
        else run.failure } }

/-! ### The operations -/

/-- The change of the source. -/
def changeDiagnosticWaveformSource (bench : Bench)
    (acquisitionSession : DiagnosticAcquisitionPreparationResult)
    (request : DiagnosticSourceChangeRequest) : SourceRun :=
  let run : SourceRun := {
    bench
    session := acquisitionSession
    result := {
      state := .applying
      selectedQuad := request.selectedQuad
      requestedSource := request.requestedSource
      sourceRestoreRequired := acquisitionSession.recoveryRecord.sourceRestoreRequired
      message := "Pausing direct acquisition and applying the waveform source..." } }
  match sourceChangeRefusal recoveryJournalPath acquisitionSession request with
  | some message => run.refuse message
  | none =>
    match verifySourceOwnership fault run with
    | (false, run) => run
    | (true, run) =>
      let run := pauseSource fault run
      let run := selectSourceQuad fault request.selectedQuad run
      let run := captureSource fault request run
      let run := applySource fault save cancellationRequested recoveryJournalPath request run
      let run := rollbackSource fault run
      let run := parkSourceSelector fault run
      let run := disarmSourceRecovery save recoveryJournalPath request run
      let run := resumeSource fault run
      finishSourceChange cancellationRequested request run

/-- The restoration of the original source. -/
def restoreDiagnosticWaveformSource (bench : Bench)
    (acquisitionSession : DiagnosticAcquisitionPreparationResult)
    (ownershipAlreadyVerifiedAndPaused : Bool) : SourceRun :=
  let record := acquisitionSession.recoveryRecord
  let run : SourceRun := {
    bench
    session := acquisitionSession
    result := {
      state := .applying
      automaticallyRestoredOnStop := true
      sourceRestoreRequired := record.sourceRestoreRequired
      selectedQuad := record.sourceQuad
      originalConfiguration := record.sourceOriginalConfiguration
      originalCaptured := record.sourceRestoreRequired
      message := "Stop requested: restoring the original waveform source before cleanup..." } }
  if !record.sourceRestoreRequired then
    { run with result := { run.result with
        state := .passed
        message := "No waveform-source restore is required." } }
  else if recoveryJournalPath = "" then
    run.refuse "The waveform source cannot be restored without its recovery journal."
  else
    match pauseForRestore fault ownershipAlreadyVerifiedAndPaused run with
    | (false, run) => run
    | (true, run) =>
      let run := selectSourceQuad fault run.result.selectedQuad run
      let run := restoreSource fault run
      let run := parkSourceSelector fault run
      let run := disarmRestoredSource save recoveryJournalPath run
      finishSourceRestore run

end Steps

end Fidget
