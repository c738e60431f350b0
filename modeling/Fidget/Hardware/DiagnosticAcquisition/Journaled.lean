import Fidget.Hardware.DiagnosticAcquisition.Start
import Fidget.Hardware.DiagnosticAcquisition.Stopped

/-!
# The journal comes first

Nothing is written to the crate before the record of the session is in the journal, and from then on
only modules that the record names are written to. Two invariants carry this through the two
operations: `NotYetWritten` up to the saving of the record, and `Journaled` from there on.

Every function of the preparation and of the start extends the log, and has one lemma that says with
which kind of events. Before the record is saved these are events that are harmless; afterwards they
may be writes, as long as the record names the module they go to.

## Main results

- `NotYetWritten.validateHardware`: up to the record the crate is only read.
- `savePreparedJournal_cases`: the record is saved, or the run has failed with nothing written.
- `Journaled.quiesceModules`, `Journaled.startPrepared`: from there on only modules that the record
  names are written to.
- `runDiagnosticAcquisitionStart_journaled`: what the log of a preparation and start shows.
-/

namespace Fidget

open EventLog

/-! ### The two invariants

Both speak of the log and of the record in the run. The second has the index at which the record was
saved, so that what comes later can be told from what came before. -/

/-- The event changes neither the crate nor the journal. -/
def Harmless (event : CrateEvent) : Prop := ¬ event.IsWrite ∧ ¬ event.IsSave ∧ ¬ event.IsRemoval

/-- The event changes the record in the journal in its phase at most, and writes to no module that
the record does not name. -/
def OfSession (record : TunerRecoveryRecord) (event : CrateEvent) : Prop :=
  (∀ saved outcome, event = .saveJournal saved outcome →
      ∃ phase, saved = { record with phase }) ∧
    ¬ event.IsRemoval ∧
    ∀ baseAddress registerOffset value fault,
      event = .writeVme baseAddress registerOffset value fault →
        baseAddress = record.mdppBaseAddress ∨ baseAddress ∈ record.isolatedModuleBaseAddresses

section Events

variable {record : TunerRecoveryRecord}

/-- What neither writes nor touches the journal is no concern of the record. -/
theorem ofSession_of_quiet {event : CrateEvent} (hsave : ¬ event.IsSave)
    (hremoval : ¬ event.IsRemoval) (hwrite : ¬ event.IsWrite) : OfSession record event :=
  ⟨fun _ _ heq => absurd (heq ▸ trivial) hsave, hremoval,
    fun _ _ _ _ heq => absurd (heq ▸ trivial) hwrite⟩

/-- A write to a module that the record names. -/
theorem ofSession_writeVme {baseAddress : UInt32}
    (h : baseAddress = record.mdppBaseAddress ∨ baseAddress ∈ record.isolatedModuleBaseAddresses)
    (registerOffset value : UInt16) (fault : Option Fault) :
    OfSession record (.writeVme baseAddress registerOffset value fault) := by
  refine ⟨fun _ _ heq => (by cases heq), id, fun _ _ _ _ heq => ?_⟩
  cases heq
  exact h

/-- A write to the controller. -/
theorem ofSession_writeLocal (writes : List (UInt16 × UInt32)) (fault : Option Fault) :
    OfSession record (.writeLocal writes fault) :=
  ⟨fun _ _ heq => (by cases heq), id, fun _ _ _ _ heq => (by cases heq)⟩

end Events

/-- The record was saved before anything was written. -/
def JournaledLog (record : TunerRecoveryRecord) (log : CrateLog) : Prop :=
  ∃ outcome before, outcome.error = none ∧ (∀ event ∈ before, Harmless event) ∧
    Extends (OfSession record) (.saveJournal record outcome :: before) log

/-- The invariant up to the saving of the record. -/
structure NotYetWritten (targetBaseAddress : UInt32) (run : AcquisitionRun) : Prop where
  log : ∀ event ∈ run.log, Harmless event
  recoveryRecord : run.prepared.recoveryRecord = {}
  base : run.acquisition.baseAddress = targetBaseAddress

/-- The invariant from there on: the record stands for the run. -/
structure Journaled (record : TunerRecoveryRecord) (run : AcquisitionRun) : Prop where
  log : JournaledLog record run.log
  journalPrepared : run.acquisition.recoveryJournalPrepared = true
  recoveryRecord : ∃ phase, run.prepared.recoveryRecord = { record with phase }
  base : run.acquisition.baseAddress = record.mdppBaseAddress
  isolated : run.acquisition.moduleIsolation.map (·.baseAddress) =
    record.isolatedModuleBaseAddresses

namespace NotYetWritten

variable {targetBaseAddress : UInt32} {run : AcquisitionRun}

theorem extend (h : NotYetWritten targetBaseAddress run) {log : CrateLog}
    (hlog : Extends Harmless run.log log) : NotYetWritten targetBaseAddress { run with log } :=
  { h with log := fun event hevent => (hlog.mem hevent).elim (h.log event) id }

theorem fail (h : NotYetWritten targetBaseAddress run) (message : String) :
    NotYetWritten targetBaseAddress (run.fail message) := ⟨h.log, h.recoveryRecord, h.base⟩

theorem setAcquisition (h : NotYetWritten targetBaseAddress run)
    {acquisition : DiagnosticAcquisitionResult}
    (hbase : acquisition.baseAddress = run.acquisition.baseAddress) :
    NotYetWritten targetBaseAddress (run.setAcquisition acquisition) :=
  ⟨h.log, h.recoveryRecord, hbase.trans h.base⟩

theorem whenClean (h : NotYetWritten targetBaseAddress run) {step : AcquisitionRun → AcquisitionRun}
    (hstep : NotYetWritten targetBaseAddress run → NotYetWritten targetBaseAddress (step run)) :
    NotYetWritten targetBaseAddress (run.whenClean step) := by
  unfold AcquisitionRun.whenClean
  split
  · exact hstep h
  · exact h

end NotYetWritten

namespace Journaled

variable {record : TunerRecoveryRecord} {run : AcquisitionRun}

theorem extend (h : Journaled record run) {log : CrateLog}
    (hlog : Extends (OfSession record) run.log log) : Journaled record { run with log } := by
  obtain ⟨outcome, before, hsaved, hbefore, hsince⟩ := h.log
  exact { h with log := ⟨outcome, before, hsaved, hbefore, hsince.trans hlog⟩ }

theorem logged (h : Journaled record run) {event : CrateEvent} (hevent : OfSession record event) :
    Journaled record { run with log := event :: run.log } := h.extend (.single hevent)

theorem fail (h : Journaled record run) (message : String) :
    Journaled record (run.fail message) := ⟨h.log, h.journalPrepared, h.recoveryRecord, h.base, h.isolated⟩

theorem withFailure (h : Journaled record run) (failure : String) :
    Journaled record { run with failure } :=
  ⟨h.log, h.journalPrepared, h.recoveryRecord, h.base, h.isolated⟩

theorem setAcquisition (h : Journaled record run) {acquisition : DiagnosticAcquisitionResult}
    (hprepared : acquisition.recoveryJournalPrepared = run.acquisition.recoveryJournalPrepared)
    (hbase : acquisition.baseAddress = run.acquisition.baseAddress)
    (hisolated : acquisition.moduleIsolation.map (·.baseAddress) =
      run.acquisition.moduleIsolation.map (·.baseAddress)) :
    Journaled record (run.setAcquisition acquisition) :=
  ⟨h.log, hprepared.trans h.journalPrepared, h.recoveryRecord, hbase.trans h.base,
    hisolated.trans h.isolated⟩

theorem whenClean (h : Journaled record run) {step : AcquisitionRun → AcquisitionRun}
    (hstep : ∀ run, Journaled record run → Journaled record (step run)) :
    Journaled record (run.whenClean step) := by
  unfold AcquisitionRun.whenClean
  split
  · exact hstep run h
  · exact h

theorem whenGoing (outside : Surroundings) (h : Journaled record run)
    {step : AcquisitionRun → AcquisitionRun}
    (hstep : ∀ run, Journaled record run → Journaled record (step run)) :
    Journaled record (whenGoing outside step run) := by
  have hlooked := @logged _ _ h (.cancellation (outside.cancellationRequested run.log))
    (ofSession_of_quiet id id id)
  unfold Fidget.whenGoing Surroundings.loadCancellation
  split
  · dsimp only
    split
    · exact hlooked
    · exact hstep _ hlooked
  · exact h

end Journaled

/-! ### Up to the saving of the record

The preparation looks at the target and at all configured modules before it decides what to write.
Each of its steps reads, asks the gate or fails. -/

section NotYetWritten

variable (outside : Surroundings) {request : DiagnosticAcquisitionPreparationRequest}
  {targetBaseAddress : UInt32} {run run' : AcquisitionRun}

/-- A reading keeps it. -/
theorem NotYetWritten.readVmeNoted (h : NotYetWritten targetBaseAddress run) {baseAddress : UInt32}
    {registerOffset : UInt16} {name : String} {answer : Option UInt16}
    (heq : readVmeNoted outside run baseAddress registerOffset name = (answer, run')) :
    NotYetWritten targetBaseAddress run' := by
  have hstep := stopStep_readVmeNoted (P := Harmless) (fun _ => ⟨id, id, id⟩) heq
  exact ⟨fun event hevent => (hstep.extends_log.mem hevent).elim (h.log event) id,
    hstep.recoveryRecord.trans h.recoveryRecord, hstep.baseAddress.trans h.base⟩

/-- The message of a refusal may ask for a cancellation, and nothing else. -/
theorem extends_startGateFailureMessage {P : CrateEvent → Prop}
    (hP : ∀ requested, P (.cancellation requested)) (gate : ScpCaptureGateResult)
    (log : CrateLog) : Extends P log (startGateFailureMessage outside gate log).2 := by
  unfold startGateFailureMessage
  split
  · exact .refl log
  · exact .single (hP _)

/-- The gate only looks. -/
theorem NotYetWritten.passStartGate (h : NotYetWritten targetBaseAddress run) (operationName : String) :
    NotYetWritten targetBaseAddress (passStartGate outside operationName run) := by
  have hasked : Extends Harmless run.log (outside.askGate run.log operationName).2 :=
    .single ⟨id, id, id⟩
  unfold Fidget.passStartGate
  dsimp only
  split
  · exact h.extend hasked
  · have hcancelled := extends_startGateFailureMessage outside (P := Harmless)
      (fun _ => ⟨id, id, id⟩) (outside.askGate run.log operationName).1
      (outside.askGate run.log operationName).2
    exact ((h.extend (hasked.trans hcancelled)).fail _).setAcquisition rfl

/-- The identity is only read. -/
theorem NotYetWritten.readTargetIdentity (h : NotYetWritten targetBaseAddress run) :
    NotYetWritten targetBaseAddress (readTargetIdentity outside request run) := by
  unfold Fidget.readTargetIdentity
  split
  next heq => exact h.readVmeNoted outside heq
  next heq =>
    have hread := h.readVmeNoted outside heq
    dsimp only
    split
    · exact hread.setAcquisition rfl
    · refine NotYetWritten.fail ?_ _
      exact hread.setAcquisition rfl

/-- So is the output format. -/
theorem NotYetWritten.readTargetOutputFormat (h : NotYetWritten targetBaseAddress run) :
    NotYetWritten targetBaseAddress (readTargetOutputFormat outside request run) := by
  unfold Fidget.readTargetOutputFormat
  split
  next heq => exact h.readVmeNoted outside heq
  next heq => exact (h.readVmeNoted outside heq).setAcquisition rfl

/-- It is compared with what the readout expects. -/
theorem NotYetWritten.checkTargetOutputFormat (h : NotYetWritten targetBaseAddress run) :
    NotYetWritten targetBaseAddress (checkTargetOutputFormat run) := by
  unfold Fidget.checkTargetOutputFormat
  split
  · exact h.fail _
  · exact h

/-- The interrupt level is only read. -/
theorem NotYetWritten.readTargetIrqLevel (h : NotYetWritten targetBaseAddress run) :
    NotYetWritten targetBaseAddress (readTargetIrqLevel outside request run) := by
  unfold Fidget.readTargetIrqLevel
  split
  next heq => exact h.readVmeNoted outside heq
  next heq => exact (h.readVmeNoted outside heq).setAcquisition rfl

/-- The plan is made from what was read. -/
theorem NotYetWritten.makeReadoutPlan (h : NotYetWritten targetBaseAddress run) :
    NotYetWritten targetBaseAddress (makeReadoutPlan request run) := by
  unfold Fidget.makeReadoutPlan
  split
  · exact h.fail _
  · exact ⟨h.log, h.recoveryRecord, h.base⟩

/-- A module is validated by reads only. -/
theorem extends_validateModule (run : AcquisitionRun) (configuredBase : UInt32) :
    Extends Harmless run.log (validateModule outside run configuredBase).2.2 := by
  have hread {log log' : CrateLog} {registerOffset : UInt16} {answer : Except String UInt16}
      (heq : outside.readVmeD16 log configuredBase registerOffset = (answer, log')) :
      Extends Harmless log log' := extends_readVmeD16 heq fun _ => ⟨id, id, id⟩
  unfold validateModule
  dsimp only
  split
  next heq => exact hread heq
  next heq =>
    split
    · split
      · exact hread heq
      · exact hread heq
    · split
      next heq' => exact (hread heq).trans (hread heq')
      next heq' =>
        split
        next heq'' => exact ((hread heq).trans (hread heq')).trans (hread heq'')
        next heq'' => exact ((hread heq).trans (hread heq')).trans (hread heq'')

/-- All configured modules are only read. -/
theorem NotYetWritten.validateModules (h : NotYetWritten targetBaseAddress run)
    (configuredBases : List UInt32) :
    NotYetWritten targetBaseAddress (validateModules outside request configuredBases run) := by
  induction configuredBases generalizing run with
  | nil => exact h
  | cons configuredBase configuredBases ih =>
      unfold Fidget.validateModules
      split
      · exact ih h
      · have hread := h.extend (extends_validateModule outside run configuredBase)
        dsimp only
        split
        · exact ih (hread.setAcquisition rfl)
        · exact ih ((hread.fail _).setAcquisition rfl)

/-- All of these steps together. -/
theorem NotYetWritten.validateHardware (h : NotYetWritten targetBaseAddress run) :
    NotYetWritten targetBaseAddress (validateHardware outside request run) :=
  (((((h.readTargetIdentity outside).whenClean (·.readTargetOutputFormat outside)).whenClean
    (·.checkTargetOutputFormat)).whenClean (·.readTargetIrqLevel outside)).whenClean
      (·.makeReadoutPlan)).whenClean (·.validateModules outside _)

end NotYetWritten

/-! ### From there on

The record is saved once, in its prepared phase. If that fails the preparation ends, with nothing
written. -/

section Journaled

variable (outside : Surroundings) {request : DiagnosticAcquisitionPreparationRequest}
  {record : TunerRecoveryRecord} {run run' : AcquisitionRun}

/-- The record is saved, or nothing has been written and nothing will be. -/
theorem savePreparedJournal_cases {freshToken : UInt32}
    (h : NotYetWritten request.targetBaseAddress run) :
    ((savePreparedJournal outside request freshToken run).failure ≠ "" ∧
        ∀ event ∈ (savePreparedJournal outside request freshToken run).log, ¬ event.IsWrite) ∨
      Journaled (preparedRecord request freshToken run.prepared)
        (savePreparedJournal outside request freshToken run) := by
  unfold savePreparedJournal Surroundings.saveTunerRecoveryJournal
  dsimp only
  split
  next error log heq =>
    obtain ⟨-, rfl⟩ := Prod.mk.inj heq
    refine .inl ⟨appendFailure_ne _ (append_ne (by decide) _), fun event hevent => ?_⟩
    rcases List.mem_cons.mp hevent with rfl | hevent
    · exact id
    · exact (h.log event hevent).1
  next log heq =>
    obtain ⟨hsaved, rfl⟩ := Prod.mk.inj heq
    exact .inr {
      log := ⟨_, run.log, hsaved, h.log, .refl _⟩
      journalPrepared := rfl
      recoveryRecord := ⟨.prepared, rfl⟩
      base := h.base
      isolated := by
        show _ = run.prepared.recoveryRecord.isolatedModuleBaseAddresses ++ _
        rw [h.recoveryRecord]
        rfl }

/-- The gate only looks. -/
theorem Journaled.passStartGate (h : Journaled record run) (operationName : String) :
    Journaled record (passStartGate outside operationName run) := by
  have hasked : Extends (OfSession record) run.log (outside.askGate run.log operationName).2 :=
    .single (ofSession_of_quiet id id id)
  unfold Fidget.passStartGate
  dsimp only
  split
  · exact h.extend hasked
  · have hcancelled := extends_startGateFailureMessage outside (P := OfSession record)
      (fun _ => ofSession_of_quiet id id id) (outside.askGate run.log operationName).1
      (outside.askGate run.log operationName).2
    exact ((h.extend (hasked.trans hcancelled)).fail _).setAcquisition rfl rfl rfl

/-! ### Quiescence

The other modules are stopped, read back and reset. The record names all of them before the first is
touched. -/

section Quiesce

variable {isolation : DiagnosticModuleIsolation} {moduleFailure : String} {log : CrateLog}

/-- The module is stopped. -/
theorem extends_quiesceStop
    (h : isolation.baseAddress ∈ record.isolatedModuleBaseAddresses) :
    Extends (OfSession record) log (quiesceStop outside isolation log).2.2 ∧
      (quiesceStop outside isolation log).1.baseAddress = isolation.baseAddress := by
  unfold quiesceStop
  split
  · split
    next heq => exact ⟨extends_writeVmeD16 heq (ofSession_writeVme (.inr h) _ _), rfl⟩
    next heq => exact ⟨extends_writeVmeD16 heq (ofSession_writeVme (.inr h) _ _), rfl⟩
  · exact ⟨.refl log, rfl⟩

/-- It is read back. -/
theorem extends_quiesceVerify :
    Extends (OfSession record) log (quiesceVerify outside isolation log).2.2 ∧
      (quiesceVerify outside isolation log).1.baseAddress = isolation.baseAddress := by
  unfold quiesceVerify
  split
  next heq => exact ⟨extends_readVmeD16 heq fun _ => ofSession_of_quiet id id id, rfl⟩
  next heq => exact ⟨extends_readVmeD16 heq fun _ => ofSession_of_quiet id id id, rfl⟩

/-- Its readout is reset. -/
theorem extends_quiesceReset
    (h : isolation.baseAddress ∈ record.isolatedModuleBaseAddresses) :
    Extends (OfSession record) log (quiesceReset outside isolation moduleFailure log).2.2 ∧
      (quiesceReset outside isolation moduleFailure log).1.baseAddress =
        isolation.baseAddress := by
  have hfifo := extends_writeVmeD16
    (rfl : outside.writeVmeD16 log isolation.baseAddress diagnosticFifoResetRegister 1 = _)
    (ofSession_writeVme (.inr h) _ _)
  have hreadout := extends_writeVmeD16
    (rfl : outside.writeVmeD16
      (outside.writeVmeD16 log isolation.baseAddress diagnosticFifoResetRegister 1).2
      isolation.baseAddress diagnosticReadoutResetRegister 1 = _)
    (ofSession_writeVme (.inr h) _ _)
  exact ⟨hfifo.trans hreadout, rfl⟩

/-- The three together, for a module that the record names. -/
theorem Journaled.quiesceModule
    (h : isolation.baseAddress ∈ record.isolatedModuleBaseAddresses)
    (hrun : Journaled record run) :
    Journaled record (quiesceModule outside isolation run).2 ∧
      (quiesceModule outside isolation run).1.baseAddress = isolation.baseAddress := by
  unfold Fidget.quiesceModule
  -- stop, verify and reset write to the one module, which the record names
  obtain ⟨stopped, stopFailure, stopLog, hstopped, hstopLog, hstopBase⟩ :
      ∃ stopped stopFailure stopLog,
        quiesceStop outside { isolation with quiescenceAttempted := true } run.log =
          (stopped, stopFailure, stopLog) ∧
        Extends (OfSession record) run.log stopLog ∧
        stopped.baseAddress = isolation.baseAddress :=
    ⟨_, _, _, rfl, @extends_quiesceStop outside record _ run.log h⟩
  rw [hstopped]
  dsimp only
  obtain ⟨verified, verifyFailure, verifyLog, hverified, hverifyLog, hverifyBase⟩ :
      ∃ verified verifyFailure verifyLog,
        (if stopFailure = "" then quiesceVerify outside stopped stopLog
          else (stopped, stopFailure, stopLog)) = (verified, verifyFailure, verifyLog) ∧
        Extends (OfSession record) run.log verifyLog ∧
        verified.baseAddress = isolation.baseAddress := by
    split
    · obtain ⟨hlog, hbase⟩ := @extends_quiesceVerify outside record stopped stopLog
      exact ⟨_, _, _, rfl, hstopLog.trans hlog, hbase.trans hstopBase⟩
    · exact ⟨_, _, _, rfl, hstopLog, hstopBase⟩
  rw [hverified]
  dsimp only
  obtain ⟨reset, resetFailure, resetLog, hreset, hresetLog, hresetBase⟩ :
      ∃ reset resetFailure resetLog,
        (if verified.stopVerified then quiesceReset outside verified verifyFailure verifyLog
          else (verified, verifyFailure, verifyLog)) = (reset, resetFailure, resetLog) ∧
        Extends (OfSession record) run.log resetLog ∧
        reset.baseAddress = isolation.baseAddress := by
    split
    · obtain ⟨hlog, hbase⟩ := @extends_quiesceReset outside record verified verifyFailure
        verifyLog (hverifyBase ▸ h)
      exact ⟨_, _, _, rfl, hverifyLog.trans hlog, hbase.trans hverifyBase⟩
    · exact ⟨_, _, _, rfl, hverifyLog, hverifyBase⟩
  rw [hreset]
  dsimp only
  have hquiesced := hrun.extend hresetLog
  split
  · exact ⟨hquiesced.setAcquisition rfl rfl rfl, hresetBase⟩
  · exact ⟨hquiesced.fail _, hresetBase⟩

/-- One module after the other. -/
theorem Journaled.quiesceModules {isolations : List DiagnosticModuleIsolation}
    (h : ∀ isolation ∈ isolations,
      isolation.baseAddress ∈ record.isolatedModuleBaseAddresses)
    (hrun : Journaled record run) :
    Journaled record (quiesceModules outside isolations run).2 ∧
      (quiesceModules outside isolations run).1.map (·.baseAddress) =
        isolations.map (·.baseAddress) := by
  induction isolations generalizing run with
  | nil => exact ⟨hrun, rfl⟩
  | cons isolation isolations ih =>
      obtain ⟨hhead, hbase⟩ := hrun.quiesceModule outside (h isolation List.mem_cons_self)
      obtain ⟨htail, hbases⟩ :=
        ih (fun other hother => h other (List.mem_cons_of_mem _ hother)) hhead
      refine ⟨htail, ?_⟩
      simp only [Fidget.quiesceModules, List.map_cons, hbase, hbases]

/-- All modules that are isolated. -/
theorem Journaled.quiesceIsolation (h : Journaled record run) :
    Journaled record (quiesceIsolation outside run) := by
  have hnamed : ∀ isolation ∈ run.acquisition.moduleIsolation,
      isolation.baseAddress ∈ record.isolatedModuleBaseAddresses := by
    intro isolation hisolation
    rw [← h.isolated]
    exact List.mem_map_of_mem hisolation
  obtain ⟨hrun, hbases⟩ := h.quiesceModules outside hnamed
  exact hrun.setAcquisition rfl rfl (hbases.trans (h.isolated.trans hrun.isolated.symm))

end Quiesce

/-! ### The end of the preparation and the start

The start writes to the controller and to the target, and saves the record once more, as active. A
save that fails leaves the record of before on disk, which names the same modules. -/

/-- The verdict touches nothing. -/
theorem Journaled.finishFailed (h : Journaled record run) : Journaled record run.finishFailed :=
  h.setAcquisition rfl rfl rfl

/-- Nor does the end of the preparation. -/
theorem Journaled.finishPreparation (h : Journaled record run) :
    Journaled record (finishPreparation run) := by
  unfold Fidget.finishPreparation
  split
  · dsimp only
    rw [if_pos h.journalPrepared]
    refine Journaled.finishFailed (Journaled.withFailure ?_ _)
    exact h.setAcquisition rfl rfl rfl
  · exact h.setAcquisition rfl rfl rfl

/-- A call of the data path writes to no module. -/
theorem Journaled.callDataPath (h : Journaled record run) (call : DataPathCall) :
    Journaled record { run with log := (outside.callDataPath run.log call).2 } :=
  h.logged (ofSession_of_quiet id id id)

/-- Opening it. -/
theorem Journaled.openDataPath (h : Journaled record run) :
    Journaled record (openDataPath outside run) := by
  have hopened := h.callDataPath outside .open
  unfold Fidget.openDataPath
  split
  next heq =>
    rw [heq] at hopened
    exact hopened.fail _
  next heq => rwa [heq] at hopened

/-- Redirecting it. -/
theorem Journaled.redirectDataPath (h : Journaled record run) :
    Journaled record (redirectDataPath outside run) := by
  have hopened := h.callDataPath outside .redirect
  unfold Fidget.redirectDataPath
  split
  next heq =>
    rw [heq] at hopened
    exact hopened.fail _
  next heq => rwa [heq] at hopened

/-- Writes to the controller are behind the record as well. -/
theorem Journaled.writeLocalNoted (h : Journaled record run) (writes : List (UInt16 × UInt32))
    (message : String) : Journaled record (writeLocalNoted outside writes message run) := by
  unfold Fidget.writeLocalNoted
  split
  next heq =>
    obtain ⟨-, rfl⟩ := Prod.mk.inj heq
    exact (h.logged (ofSession_writeLocal _ _)).fail _
  next heq =>
    obtain ⟨-, rfl⟩ := Prod.mk.inj heq
    exact h.logged (ofSession_writeLocal _ _)

/-- Installing the stack writes to the controller only. -/
theorem Journaled.installReadoutStack (h : Journaled record run) :
    Journaled record (installReadoutStack outside run) :=
  ((h.whenClean fun _ h => h.writeLocalNoted outside _ _).whenClean
    fun _ h => h.writeLocalNoted outside _ _).whenClean fun _ h => h.writeLocalNoted outside _ _

/-- A write to the target, which the record names. -/
theorem Journaled.writeVmeNoted (h : Journaled record run) {registerOffset value : UInt16}
    {name : String} :
    Journaled record
      (writeVmeNoted outside run run.acquisition.baseAddress registerOffset value name).2 := by
  have hevent := ofSession_writeVme (.inl h.base) registerOffset value
  unfold Fidget.writeVmeNoted
  split
  next heq =>
    obtain ⟨-, rfl⟩ := Prod.mk.inj heq
    exact h.logged (hevent _)
  next heq =>
    obtain ⟨-, rfl⟩ := Prod.mk.inj heq
    exact (h.logged (hevent _)).fail _

/-- The start sequence goes to the target. -/
theorem Journaled.sendStartSequence (h : Journaled record run)
    (writes : List (UInt16 × UInt16 × String)) :
    Journaled record (sendStartSequence outside writes run) := by
  induction writes generalizing run with
  | nil => exact h
  | cons write writes ih => exact h.whenGoing outside fun _ h => ih (h.writeVmeNoted outside)

/-- The mode of the controller is read back. -/
theorem Journaled.verifyDaqEnabled (h : Journaled record run) :
    Journaled record (verifyDaqEnabled outside run) := by
  have hread := @Journaled.logged _ _ h (.readLocal [diagnosticDaqModeRegister]
    (outside.readLocal run.log [diagnosticDaqModeRegister])) (ofSession_of_quiet id id id)
  unfold Fidget.verifyDaqEnabled
  split
  next heq =>
    obtain ⟨-, rfl⟩ := Prod.mk.inj heq
    exact hread.fail _
  next heq =>
    obtain ⟨-, rfl⟩ := Prod.mk.inj heq
    split
    · exact hread.fail _
    · exact hread

/-- The record is saved once more, with another phase. -/
theorem Journaled.saveActiveJournal (h : Journaled record run) :
    Journaled record (saveActiveJournal outside run) := by
  obtain ⟨phase, hrecord⟩ := h.recoveryRecord
  have hactive : { run.prepared.recoveryRecord with phase := TunerRecoveryPhase.active } =
      { record with phase := TunerRecoveryPhase.active } := by rw [hrecord]
  have hsaved (outcome : JournalSave) : OfSession record
      (.saveJournal { run.prepared.recoveryRecord with phase := .active } outcome) := by
    refine ⟨fun saved _ heq => ?_, id, fun _ _ _ _ heq => (by cases heq)⟩
    cases heq
    exact ⟨.active, hactive⟩
  have hmarked : Journaled record { run with prepared := { run.prepared with
      recoveryRecord := { run.prepared.recoveryRecord with phase := .active } } } :=
    ⟨h.log, h.journalPrepared, ⟨.active, hactive⟩, h.base, h.isolated⟩
  unfold Fidget.saveActiveJournal
  dsimp only
  split
  next heq =>
    obtain ⟨-, rfl⟩ := Prod.mk.inj heq
    exact (hmarked.logged (hsaved _)).fail _
  next heq =>
    obtain ⟨-, rfl⟩ := Prod.mk.inj heq
    exact (hmarked.logged (hsaved _)).setAcquisition rfl rfl rfl

/-- A cancellation is noted. -/
theorem Journaled.checkStartCancelled (h : Journaled record run) :
    Journaled record (checkStartCancelled outside run) := by
  have hlooked := @Journaled.logged _ _ h (.cancellation (outside.cancellationRequested run.log))
    (ofSession_of_quiet id id id)
  unfold Fidget.checkStartCancelled Surroundings.loadCancellation
  dsimp only
  split
  · exact hlooked.fail _
  · exact hlooked

/-- The verdict of the start. -/
theorem Journaled.finishStart (h : Journaled record run) :
    Journaled record (finishStart outside run) := by
  unfold Fidget.finishStart
  split
  · exact h.finishFailed.callDataPath outside .close
  · exact h.setAcquisition rfl rfl rfl

/-- The start as a whole. -/
theorem Journaled.startPrepared {log : CrateLog}
    {prepared : DiagnosticAcquisitionPreparationResult}
    (h : Journaled record { log, prepared }) :
    Journaled record (startPreparedDiagnosticAcquisition outside request log prepared) := by
  have hstart := h.withFailure (startFailure request prepared)
  unfold startPreparedDiagnosticAcquisition
  dsimp only
  split
  · exact hstart.finishFailed
  · refine Journaled.finishStart outside (Journaled.checkStartCancelled outside ?_)
    refine Journaled.whenGoing outside ?_ fun _ h => h.saveActiveJournal outside
    refine Journaled.whenGoing outside ?_ fun _ h => h.verifyDaqEnabled outside
    refine Journaled.whenGoing outside ?_ fun _ h => h.writeLocalNoted outside _ _
    refine Journaled.sendStartSequence outside (Journaled.installReadoutStack outside ?_) _
    refine Journaled.whenClean ?_ fun _ h => h.redirectDataPath outside
    refine Journaled.openDataPath outside ?_
    exact hstart.setAcquisition rfl rfl rfl

end Journaled

/-! ### What the log then shows

The invariant at the end of a run is turned into a statement about the events of the log and their
order. -/

namespace JournaledLog

variable {record : TunerRecoveryRecord} {log : CrateLog}

theorem lawful (h : JournaledLog record log) :
    Lawful (fun event before => event.IsWrite →
      ∃ outcome, outcome.error = none ∧ CrateEvent.saveJournal record outcome ∈ before) log := by
  obtain ⟨outcome, before, hsaved, hbefore, added, rfl, -⟩ := h
  induction added with
  | nil =>
      exact ⟨fun hwrite => hwrite.elim,
        Lawful.of_forall (fun _ _ h hwrite => absurd hwrite h.1) hbefore⟩
  | cons event added ih =>
      exact ⟨fun _ => ⟨outcome, hsaved, List.mem_append_right added List.mem_cons_self⟩, ih⟩

theorem named (h : JournaledLog record log) {baseAddress : UInt32}
    {registerOffset value : UInt16} {fault : Option Fault}
    (hwrite : CrateEvent.writeVme baseAddress registerOffset value fault ∈ log) :
    baseAddress = record.mdppBaseAddress ∨ baseAddress ∈ record.isolatedModuleBaseAddresses := by
  obtain ⟨outcome, before, -, hbefore, hsince⟩ := h
  rcases hsince.mem hwrite with hwrite | hevent
  · rcases List.mem_cons.mp hwrite with hsave | hwrite
    · cases hsave
    · exact absurd trivial (hbefore _ hwrite).1
  · exact hevent.2.2 _ _ _ _ rfl

/-- Later saves that fail leave what is on disk, and those that do not change the phase. -/
theorem onDisk (h : JournaledLog record log) :
    ∃ phase, journalOnDisk log = some { record with phase } := by
  obtain ⟨outcome, before, hsaved, -, added, rfl, hadded⟩ := h
  induction added with
  | nil => exact ⟨record.phase, if_pos (outcome.installed_of_success hsaved)⟩
  | cons event added ih =>
      have hevent := hadded event List.mem_cons_self
      have hrest := ih fun other hother => hadded other (List.mem_cons_of_mem _ hother)
      cases event with
      | saveJournal saved outcome' =>
          obtain ⟨phase, hphase⟩ := hevent.1 _ _ rfl
          by_cases hinstalled : outcome'.installed
          · exact ⟨phase, (if_pos hinstalled).trans (congrArg some hphase)⟩
          · obtain ⟨kept, hkept⟩ := hrest
            exact ⟨kept, (if_neg hinstalled).trans hkept⟩
      | removeJournal error => exact absurd trivial hevent.2.1
      | _ => exact hrest

end JournaledLog

section

variable (outside : Surroundings) (request : DiagnosticAcquisitionPreparationRequest)

/-- The preparation has failed without a write, or has a journal to go on with. -/
theorem prepareDiagnosticAcquisition_journaled (hasOwnershipGate : Bool) (freshToken : UInt32) :
    let run := prepareDiagnosticAcquisition outside request hasOwnershipGate freshToken []
    (run.acquisition.state = .failed ∧ ∀ event ∈ run.log, ¬ event.IsWrite) ∨
      ∃ record, record.mdppBaseAddress = request.targetBaseAddress ∧ Journaled record run := by
  have hinitial : NotYetWritten request.targetBaseAddress
      (initialPreparation request hasOwnershipGate []) := ⟨fun _ h => (nomatch h), rfl, rfl⟩
  have hpassed := hinitial.whenClean (·.passStartGate outside "direct diagnostic acquisition")
  unfold prepareDiagnosticAcquisition
  dsimp only
  split
  next => exact .inl ⟨rfl, fun event hevent => (hpassed.log event hevent).1⟩
  next =>
    have hvalid := @NotYetWritten.validateHardware outside request _ _ hpassed
    generalize validateHardware outside request _ = validated at hvalid ⊢
    -- a failure up to the journal leaves every later step undone
    have hgiveUp {run : AcquisitionRun} (hfailure : run.failure ≠ "")
        (hlog : ∀ event ∈ run.log, ¬ event.IsWrite) :
        let finished := finishPreparation ((run.whenClean
          (passStartGate outside "non-target MDPP quiescence")).whenClean
            (quiesceIsolation outside))
        finished.acquisition.state = .failed ∧ ∀ event ∈ finished.log, ¬ event.IsWrite := by
      have hskip (step : AcquisitionRun → AcquisitionRun) : run.whenClean step = run :=
        if_neg hfailure
      intro finished
      have hfinished : finished = finishPreparation run := by
        show finishPreparation _ = _
        rw [hskip, hskip]
      rw [hfinished, finishPreparation, if_pos hfailure]
      dsimp only
      split <;> exact ⟨rfl, hlog⟩
    by_cases hclean : validated.failure = ""
    · rw [show validated.whenClean (savePreparedJournal outside request freshToken) =
        savePreparedJournal outside request freshToken validated from if_pos hclean]
      obtain ⟨hfailure, hlog⟩ | hjournaled :=
        @savePreparedJournal_cases outside request _ freshToken hvalid
      · exact .inl (hgiveUp hfailure hlog)
      · exact .inr ⟨_, rfl, ((hjournaled.whenClean fun _ h => h.passStartGate outside _).whenClean
          fun _ h => h.quiesceIsolation outside).finishPreparation⟩
    · rw [show validated.whenClean (savePreparedJournal outside request freshToken) = validated
        from if_neg hclean]
      exact .inl (hgiveUp hclean fun event hevent => (hvalid.log event hevent).1)

/-- The log of a preparation and start, written and read. -/
theorem runDiagnosticAcquisitionStart_journaled (hasOwnershipGate : Bool) (freshToken : UInt32) :
    let run := runDiagnosticAcquisitionStart outside request hasOwnershipGate freshToken []
    ∃ record : TunerRecoveryRecord,
      Lawful (fun event before => event.IsWrite →
        ∃ outcome, outcome.error = none ∧ CrateEvent.saveJournal record outcome ∈ before) run.log ∧
      ((∃ event ∈ run.log, event.IsWrite) →
        record.mdppBaseAddress = request.targetBaseAddress ∧
        (∀ baseAddress registerOffset value fault,
          CrateEvent.writeVme baseAddress registerOffset value fault ∈ run.log →
            baseAddress = request.targetBaseAddress ∨
              baseAddress ∈ record.isolatedModuleBaseAddresses) ∧
        (run.acquisition.state ≠ .running →
          run.acquisition.recoveryJournalPrepared = true ∧
          ∃ phase, journalOnDisk run.log = some { record with phase })) := by
  intro run
  have hoverall : (∀ event ∈ run.log, ¬ event.IsWrite) ∨
      ∃ record, record.mdppBaseAddress = request.targetBaseAddress ∧ Journaled record run := by
    have hprepared := prepareDiagnosticAcquisition_journaled outside request hasOwnershipGate
      freshToken
    show (∀ event ∈ (runDiagnosticAcquisitionStart outside request hasOwnershipGate freshToken
      []).log, _) ∨ ∃ record, _ ∧ Journaled record
        (runDiagnosticAcquisitionStart outside request hasOwnershipGate freshToken [])
    unfold runDiagnosticAcquisitionStart
    obtain ⟨hstate, hlog⟩ | ⟨record, htarget, hjournaled⟩ := hprepared
    · left
      dsimp only
      rw [if_neg (by rw [hstate]; decide)]
      exact hlog
    · right
      refine ⟨record, htarget, ?_⟩
      dsimp only
      split
      · exact (hjournaled.withFailure "").startPrepared outside
      · exact hjournaled
  -- with nothing written, any record will do
  obtain hlog | ⟨record, htarget, hjournaled⟩ := hoverall
  · refine ⟨{}, Lawful.of_forall (fun _ _ h hwrite => absurd hwrite h) hlog, ?_⟩
    rintro ⟨event, hevent, hwrite⟩
    exact absurd hwrite (hlog event hevent)
  · refine ⟨record, hjournaled.log.lawful, fun _ => ⟨htarget, ?_, fun _ =>
      ⟨hjournaled.journalPrepared, hjournaled.log.onDisk⟩⟩⟩
    intro baseAddress registerOffset value fault hwrite
    rw [← htarget]
    exact hjournaled.log.named hwrite

end

end Fidget
