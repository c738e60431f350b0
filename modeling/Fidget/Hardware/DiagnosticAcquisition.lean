import Fidget.Core.RecoveryJournal
import Fidget.Core.VmeProtocol
import Fidget.Hardware.Bench

/-!
# A running diagnostic acquisition

What the operations on a running acquisition share: the session they are handed
(`DiagnosticAcquisitionPreparationResult`), the check that the controller still carries the stack
and the token of this session (`hardware/DiagnosticAcquisitionOperation.cpp`), and the pausing and
resuming of data taking around a change (`hardware/DiagnosticPauseResume.cpp`).

## Main results

- `evaluateOwnershipFingerprint`: the verdict on a session, from the one transaction that reads its
  registers.
- `pauseDiagnosticDataTaking`, `resumeDiagnosticDataTaking`: around every change of a running
  acquisition.
- `banks_pauseDiagnosticDataTaking`, `banks_resumeDiagnosticDataTaking`: neither of them changes a
  bank.
-/

namespace Fidget

/-! ### The session

What the operations are handed, and hand back changed. -/

/-- How far an acquisition has come. -/
inductive DiagnosticAcquisitionState where
  | notRun
  | starting
  | running
  | stopping
  | stopped
  | failed
  deriving DecidableEq, Repr

/-- A configured module other than the target, as the operations have found and left it. -/
structure DiagnosticModuleIsolation where
  baseAddress : UInt32 := 0
  hardwareId : UInt16 := 0
  irqLevel : UInt16 := 0
  acquisitionStateBefore : UInt16 := 0
  acquisitionStateAfter : UInt16 := 0xFFFF
  validated : Bool := false
  sharesTargetIrq : Bool := false
  stopRequired : Bool := false
  quiescenceAttempted : Bool := false
  stopSent : Bool := false
  stopVerified : Bool := false
  fifoResetSent : Bool := false
  readoutResetSent : Bool := false
  cleanupVerified : Bool := false
  message : String := ""
  deriving DecidableEq, Repr

/-- What the data receiver counts and what is restored on the way to a stop is left out: the
operations do not read it. -/
structure DiagnosticAcquisitionResult where
  state : DiagnosticAcquisitionState := .notRun
  message : String := "No direct diagnostic acquisition has been run"
  baseAddress : UInt32 := 0
  hardwareId : UInt16 := 0
  outputFormat : UInt16 := 0
  irqLevel : UInt16 := 0
  requestedChannel : UInt16 := 0
  dataPort : UInt16 := 0
  ownershipHeartbeatChecks : Nat := 0
  moduleStopSent : Bool := false
  daqModeDisabled : Bool := false
  readoutStackDisabled : Bool := false
  foreignControllerDetected : Bool := false
  cleanupSkippedToProtectForeignRun : Bool := false
  communicationUncertain : Bool := false
  commandPathFailures : Nat := 0
  orphanRecoveryRequired : Bool := false
  recoveryJournalPrepared : Bool := false
  recoveryJournalActive : Bool := false
  recoveryJournalRemoved : Bool := false
  configuredModuleCount : Nat := 0
  nonTargetModuleCount : Nat := 0
  activeNonTargetModulesFound : Nat := 0
  nonTargetModulesQuiesced : Nat := 0
  nonTargetModulesVerifiedStoppedOnCleanup : Nat := 0
  moduleIsolation : List DiagnosticModuleIsolation := []
  deriving DecidableEq, Repr

/-- The session that an operation is handed: its plan, its record and its acquisition. -/
structure DiagnosticAcquisitionPreparationResult where
  acquisition : DiagnosticAcquisitionResult := {}
  readoutPlan : MvlcSingleMdppReadoutPlan := {}
  recoveryRecord : TunerRecoveryRecord := {}
  deriving DecidableEq, Repr

/-- The registers of the module. -/
def diagnosticReadoutResetRegister : UInt16 := 0x6034
def diagnosticAcquisitionControlRegister : UInt16 := 0x603A
def diagnosticFifoResetRegister : UInt16 := 0x603C
/-- The acquisition mode of the controller. -/
def diagnosticDaqModeRegister : UInt16 := 0x1300
def diagnosticDaqEnableValue : UInt32 := 0x000F

/-! ### The ownership fingerprint

A controller that another program has taken over has another stack or another token. All registers
that show this are read in one transaction. -/

/-- Whether the controller still runs this session. -/
inductive DiagnosticFingerprintOutcome where
  | verified
  | communicationUnavailable
  | foreignFingerprint
  deriving DecidableEq, Repr

/-- The verdict and its message. -/
structure DiagnosticFingerprintResult where
  outcome : DiagnosticFingerprintOutcome := .communicationUnavailable
  daqMode : UInt32 := 0
  message : String := ""
  deriving DecidableEq, Repr

/-- The local registers that identify the session, in the order they are read, with the value each
must have and its name. -/
def fingerprintExpectations (prepared : DiagnosticAcquisitionPreparationResult) :
    List (UInt16 × UInt32 × String) :=
  [(prepared.readoutPlan.stackTriggerRegister, prepared.readoutPlan.triggerValue.toUInt32,
      "Diagnostic stack trigger"),
    (prepared.readoutPlan.stackOffsetRegister, prepared.readoutPlan.stackMemoryOffset.toUInt32,
      "Diagnostic stack offset")] ++
  (prepared.readoutPlan.stackUploadWrites.map fun (address, value) =>
    (address, value, "Diagnostic stack word")) ++
  [(prepared.recoveryRecord.ownershipTokenRegister, prepared.recoveryRecord.ownershipTokenValue,
    "Unique tuner ownership token")]

/-- The message about a register that has not the value it must have. -/
def fingerprintMismatch (expectation : UInt16 × UInt32 × String) (actual : UInt32) :
    Option String :=
  let (address, expected, name) := expectation
  if actual = expected then none
  else
    some (name ++ " changed at " ++ hexadecimal32 address.toUInt32 ++ ": expected " ++
      hexadecimal32 expected ++ ", read " ++ hexadecimal32 actual ++ ".")

/-- The registers of the fingerprint: the DAQ mode, and those that identify the session. -/
def fingerprintAddresses (prepared : DiagnosticAcquisitionPreparationResult) : List UInt16 :=
  diagnosticDaqModeRegister :: (fingerprintExpectations prepared).map (·.1)

/-- What the check makes of the answer to its one transaction. -/
def evaluateOwnershipFingerprint (prepared : DiagnosticAcquisitionPreparationResult)
    (answer : Except String (List UInt32)) : DiagnosticFingerprintResult :=
  match answer with
  | .error error =>
    { message := "Could not read the complete tuner fingerprint in one MVLC transaction: " ++
        error }
  | .ok values =>
    let daqMode := values.headD 0
    if daqMode &&& 0x1 = 0 then
      { outcome := .foreignFingerprint
        daqMode
        message := "MVLC DAQ mode no longer has autonomous-stack bit 0 enabled (readback " ++
          hexadecimal32 daqMode ++ ")." }
    else
      match ((fingerprintExpectations prepared).zip values.tail).findSome?
          fun (expectation, actual) => fingerprintMismatch expectation actual with
      | some message => { outcome := .foreignFingerprint, daqMode, message }
      | none =>
        { outcome := .verified
          daqMode
          message := "The complete unique tuner fingerprint matches." }

/-- All registers are read in one transaction. -/
def verifyDiagnosticOwnershipFingerprint (fault : Option Fault) (bench : Bench)
    (prepared : DiagnosticAcquisitionPreparationResult) : DiagnosticFingerprintResult :=
  evaluateOwnershipFingerprint prepared
    (bench.readLocalRegisters fault (fingerprintAddresses prepared))

/-! ### Pausing and resuming

The module is paused first and resumed first; each part is reported by itself. -/

/-- The calls of a pause. -/
inductive PauseSite where
  | module
  | daqMode
  | daqModeReadback
  deriving DecidableEq, Repr

/-- The calls of a resuming. -/
inductive ResumeSite where
  | module (registerOffset : UInt16)
  | daqMode
  | daqModeReadback
  deriving DecidableEq, Repr

/-- What was paused of the two. -/
structure DiagnosticPauseResult where
  modulePaused : Bool := false
  daqModePaused : Bool := false
  error : String := ""
  deriving DecidableEq, Repr

/-- What was done of the sequence. -/
structure DiagnosticResumeResult where
  fifoResetSent : Bool := false
  readoutResetSent : Bool := false
  acquisitionResumed : Bool := false
  daqModeReadbackValid : Bool := false
  daqModeReadback : UInt32 := 0
  daqModeResumed : Bool := false
  error : String := ""
  deriving DecidableEq, Repr

/-- The module and the controller are stopped; the controller is stopped even if the module could
not be. -/
def pauseDiagnosticDataTaking (fault : PauseSite → Option Fault) (bench : Bench) :
    DiagnosticPauseResult × Bench :=
  let (stopped, bench) := bench.writeVmeD16 (fault .module) diagnosticAcquisitionControlRegister 0
  let result : DiagnosticPauseResult :=
    { modulePaused := stopped.isNone
      error :=
        match stopped with
        | none => ""
        | some error =>
          registerOperationError "write" "stop acquisition" diagnosticAcquisitionControlRegister
            error }
  match bench.writeLocalRegisters (fault .daqMode) [(diagnosticDaqModeRegister, 0)] with
  | (some error, bench) =>
    ({ result with
        error := appendFailure result.error ("Could not pause MVLC DAQ mode: " ++ error) }, bench)
  | (none, bench) =>
    match bench.readLocalRegisters (fault .daqModeReadback) [diagnosticDaqModeRegister] with
    | .error error =>
      ({ result with
          error := appendFailure result.error
            ("Could not verify paused MVLC DAQ mode: " ++ error) }, bench)
    | .ok values =>
      if values.head? = some 0 then ({ result with daqModePaused := true }, bench)
      else
        ({ result with
            error := appendFailure result.error "MVLC DAQ mode did not read back as zero." }, bench)

/-- The writes to the module that resume the acquisition, each with the outcome it is noted as. -/
def resumeSequence : List (UInt16 × (DiagnosticResumeResult → DiagnosticResumeResult)) := [
  (diagnosticFifoResetRegister, fun result => { result with fifoResetSent := true }),
  (diagnosticReadoutResetRegister, fun result => { result with readoutResetSent := true }),
  (diagnosticAcquisitionControlRegister, fun result => { result with acquisitionResumed := true })]

/-- The writes of the sequence up to the first failure. -/
def resumeModule (fault : ResumeSite → Option Fault) (bench : Bench)
    (result : DiagnosticResumeResult) :
    List (UInt16 × (DiagnosticResumeResult → DiagnosticResumeResult)) →
      Bool × DiagnosticResumeResult × Bench
  | [] => (true, result, bench)
  | (registerOffset, note) :: rest =>
    match bench.writeVmeD16 (fault (.module registerOffset)) registerOffset 1 with
    | (some error, bench) =>
      (false, { result with
        error := appendFailure result.error
          (registerOperationError "write" "resume acquisition" registerOffset error) }, bench)
    | (none, bench) => resumeModule fault bench (note result) rest

/-- The module first, then the controller. -/
def resumeDiagnosticDataTaking (fault : ResumeSite → Option Fault) (bench : Bench) :
    DiagnosticResumeResult × Bench :=
  match resumeModule fault bench {} resumeSequence with
  | (false, result, bench) => (result, bench)
  | (true, result, bench) =>
    match bench.writeLocalRegisters (fault .daqMode)
        [(diagnosticDaqModeRegister, diagnosticDaqEnableValue)] with
    | (some error, bench) =>
      ({ result with
          error := appendFailure result.error ("Could not resume MVLC DAQ mode: " ++ error) }, bench)
    | (none, bench) =>
      match bench.readLocalRegisters (fault .daqModeReadback) [diagnosticDaqModeRegister] with
      | .error error =>
        ({ result with
            error := appendFailure result.error
              ("Could not verify resumed MVLC DAQ mode: " ++ error) }, bench)
      | .ok values =>
        let result := { result with
          daqModeReadbackValid := true
          daqModeReadback := values.headD 0
          daqModeResumed := (values.headD 0) &&& 0x1 != 0 }
        if result.daqModeResumed then (result, bench)
        else
          ({ result with
              error := appendFailure result.error ("MVLC DAQ mode readback " ++
                hexadecimal32 result.daqModeReadback ++ " did not have enable bit 0 set.") }, bench)

/-! ### What pausing and resuming leave alone -/

/-- Pausing writes to no bank. -/
theorem banks_pauseDiagnosticDataTaking (fault : PauseSite → Option Fault) (bench : Bench) :
    (pauseDiagnosticDataTaking fault bench).2.banks = bench.banks := by
  have hstopped := bench.banks_writeVmeD16_of_global (fault .module)
    (by decide : diagnosticAcquisitionControlRegister ∉ scpRegisterOffsets) 0
  have hpaused := ((bench.writeVmeD16 (fault .module) diagnosticAcquisitionControlRegister
    0).2.banks_writeLocalRegisters (fault .daqMode) [(diagnosticDaqModeRegister, 0)]).trans hstopped
  unfold pauseDiagnosticDataTaking
  dsimp only
  split
  next heq => rwa [heq] at hpaused
  next heq =>
    rw [heq] at hpaused
    split
    · exact hpaused
    · split <;> exact hpaused

/-- Nor does the sequence that resumes the module. -/
theorem banks_resumeModule {fault : ResumeSite → Option Fault}
    {sequence : List (UInt16 × (DiagnosticResumeResult → DiagnosticResumeResult))}
    (h : ∀ write ∈ sequence, write.1 ∉ scpRegisterOffsets) (bench : Bench)
    (result : DiagnosticResumeResult) :
    (resumeModule fault bench result sequence).2.2.banks = bench.banks := by
  induction sequence generalizing bench result with
  | nil => rfl
  | cons write sequence ih =>
      obtain ⟨registerOffset, note⟩ := write
      have hwritten := bench.banks_writeVmeD16_of_global (fault (.module registerOffset))
        (h _ List.mem_cons_self) 1
      unfold resumeModule
      split
      next heq => rwa [heq] at hwritten
      next heq =>
        rw [heq] at hwritten
        rw [ih fun write hwrite => h write (List.mem_cons_of_mem _ hwrite)]
        exact hwritten

/-- Nor does resuming as a whole. -/
theorem banks_resumeDiagnosticDataTaking (fault : ResumeSite → Option Fault) (bench : Bench) :
    (resumeDiagnosticDataTaking fault bench).2.banks = bench.banks := by
  have hmodule := @banks_resumeModule fault resumeSequence (by decide) bench {}
  unfold resumeDiagnosticDataTaking
  split
  next heq => rwa [heq] at hmodule
  next result bench' heq =>
    rw [heq] at hmodule
    have hresumed := (bench'.banks_writeLocalRegisters (fault .daqMode)
      [(diagnosticDaqModeRegister, diagnosticDaqEnableValue)]).trans hmodule
    split
    next heq' => rwa [heq'] at hresumed
    next heq' =>
      rw [heq'] at hresumed
      split
      · exact hresumed
      · dsimp only
        split <;> exact hresumed

/-! ### A session that runs

For the runs on fixed inputs in the modules about previews and waveform sources.
-/

/-- The session of a module at 0x11110000 that reads on its first interrupt level. -/
def runningSession : DiagnosticAcquisitionPreparationResult where
  acquisition := { state := .running }
  readoutPlan := (makeMvlcSingleMdppReadoutPlan 0x11110000 1).toOption.getD {}
  recoveryRecord :=
    { phase := .active, host := "mvlc", mvlcHardwareId := 0x5008, mvlcFirmwareRevision := 0x37
      mdppBaseAddress := 0x11110000, mdppHardwareId := 0x5007, mdppIrqLevel := 1
      stackTriggerRegister := 0x1104, stackTriggerValue := 0x40
      stackOffsetRegister := 0x1204, stackOffsetValue := 0x200
      ownershipTokenRegister := 0x221C, ownershipTokenValue := 0xF1D6E7 }

/-- The registers of a controller that runs it. -/
def runningLocalRegisters (address : UInt16) : UInt32 :=
  if address = diagnosticDaqModeRegister then diagnosticDaqEnableValue
  else
    ((fingerprintExpectations runningSession).find? fun expectation =>
      expectation.1 = address).elim 0 (·.2.1)

/-- `SaveTunerRecoveryJournal` on a file system where every call succeeds: only a record that is
not valid is refused. -/
def saveValidRecord (record : TunerRecoveryRecord) : Option String :=
  let serialized := serializeTunerRecoveryJournal record
  if serialized.success then none
  else some (String.ofList (serialized.message.map fun character => Char.ofNat character.toNat))

/-- The journal accepts the record of the session. -/
example : saveValidRecord runningSession.recoveryRecord = none := by decide +kernel

end Fidget
