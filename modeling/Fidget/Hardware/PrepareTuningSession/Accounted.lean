import Fidget.Hardware.PrepareTuningSession
import Fidget.Hardware.ScpCapture.Rules

/-!
# The journal accounts for the selector

Nothing is written to the module before a record that names it is durable, nor after a reading that
is not idle or a checkpoint that stops the run. However the preparation ends, its result says which
record it has left, and a record with a snapshot has the values that were read.

The operation is gone through from its end to its beginning: the stages behind the promotion first,
then the promotion, the capture, the creation of the record and the probe. At each place a predicate
says what the log looks like (`Untouched`, `UnderJournal`, `FreeToWrite`, `Captured`, `Promoted`),
and each of them implies that the run would be accounted for if it ended there.

## Main results

- `Accounted`: what the log and the directory say about the result, at the end of every preparation.
- `Accounted.finish`: the result names the phase of the record that is on disk.
- `probeTarget_reads`: the probe only reads, and calls the target idle only if every reading was.
- `FreeToWrite.daqGate`: a gate that allows the next write has seen an idle reading since the record
  was created.
- `prepareTuningSession_accounted`: every preparation, with any surroundings, is accounted for.
-/

namespace Fidget

open RecoveryJournal EventLog

/-! ### What the log says

The log has every event of a run, the latest first. Nothing here depends on what the surroundings
answer: their answers are part of the events. -/

/-- A record with this text was installed and made durable. -/
def CreatedDurably (text : List UInt8) (log : PreparationLog) : Prop :=
  ∃ faults result, .createJournal faults result (.file text) ∈ log ∧ result.success = true ∧
    result.destinationInstalled = true ∧ faults.synchronizeFile = none ∧
    faults.synchronizeDirectory = none

/-- A write comes after a durable record, and after nothing that forbids it. -/
def AccountedWrite (text : List UInt8) (event : PreparationEvent) (before : PreparationLog) : Prop :=
  event.IsVmeWrite → CreatedDurably text before ∧ ∀ other ∈ before, ¬other.ForbidsWrites

/-- The bank that the last write to the selector has selected for certain. -/
def selectedBank (base : UInt32) : PreparationLog → Option UInt16
  | [] => none
  | .writeVme address value fault :: log =>
    if address = base + fw2051ScpSelectorRegister.toUInt32 then
      if fault.isNone then some value else none
    else selectedBank base log
  | _ :: log => selectedBank base log

/-- The values read from the module, the latest last. -/
def moduleReadings (base : UInt32) : PreparationLog → List BankReading
  | [] => []
  | .readVme address (.ok value) :: log =>
    moduleReadings base log ++ [⟨selectedBank base log, (address - base).toUInt16, value⟩]
  | _ :: log => moduleReadings base log

/-- What the returned phase says about the run and about what it has left on disk. -/
def PhaseAccounted (request : PrepareTuningSessionRequest) (directory : RecoveryDirectory)
    (run : PreparationRun) : Prop :=
  let prepared := preparedTuningRecord request run.result.preflight
  let snapshot := run.result.liveRestoreSnapshot
  let base := request.targetAddress.fullA32Value
  match run.result.journalPhase with
  | .none =>
    run.directory.destination = directory.destination ∧
      ∀ event ∈ run.log, ¬event.InstallsJournal ∧ ¬event.IsVmeWrite
  | .prepared =>
    run.directory.destination = .file (serializeTunerRecoveryJournal prepared).text ∧
      ∃ event ∈ run.log, event.InstallsJournal
  | .snapshotCaptured =>
    run.directory.destination = .file (serializeTunerRecoveryJournal
        (promotedTuningRecord prepared snapshot)).text ∧
      (∃ event ∈ run.log, event.InstallsJournal) ∧ snapshot.state = .complete ∧
      selectedBank base run.log = some 0 ∧
      ∃ probed, moduleReadings base run.log = probed ++ snapshotReadings snapshot

/-- The writes of a run and its result are accounted for. -/
structure Accounted (request : PrepareTuningSessionRequest) (directory : RecoveryDirectory)
    (run : PreparationRun) : Prop where
  writes : Lawful (AccountedWrite
    (serializeTunerRecoveryJournal (preparedTuningRecord request run.result.preflight)).text) run.log
  phase : PhaseAccounted request directory run

/-! ### Before there is a journal

A run that ends before the record is created has written nothing and left nothing on disk. -/

/-- Nothing has been written or installed. -/
structure Untouched (directory : RecoveryDirectory) (run : PreparationRun) : Prop where
  log : ∀ event ∈ run.log, ¬event.InstallsJournal ∧ ¬event.IsVmeWrite
  directory : run.directory = directory
  phase : run.result.journalPhase = .none

section Untouched

variable {request : PrepareTuningSessionRequest} {directory : RecoveryDirectory}
  {run : PreparationRun}

/-- Where nothing was installed or written, there is nothing to account for. -/
theorem Untouched.accounted (h : Untouched directory run) : Accounted request directory run where
  writes := Lawful.of_forall (fun _ _ hevent hwrite => absurd hwrite hevent.2) h.log
  phase := by
    unfold PhaseAccounted
    rw [h.phase]
    exact ⟨by rw [h.directory], h.log⟩

/-- What neither installs a record nor writes leaves it so. -/
theorem Untouched.logged (h : Untouched directory run) (event : PreparationEvent)
    (hinstalls : ¬event.InstallsJournal) (hwrite : ¬event.IsVmeWrite) :
    Untouched directory { run with log := event :: run.log } := by
  refine ⟨fun other hother => ?_, h.directory, h.phase⟩
  rcases List.mem_cons.mp hother with rfl | hother
  · exact ⟨hinstalls, hwrite⟩
  · exact h.log other hother

/-- So does the verdict. -/
theorem Untouched.conclude (h : Untouched directory run) (outcome : PrepareTuningSessionOutcome)
    (message : List UInt8) : Untouched directory (run.conclude outcome message) :=
  ⟨h.log, h.directory, h.phase⟩

/-- The session is closed: nothing else changes. -/
theorem Accounted.finish (h : Accounted request directory run) :
    Accounted request directory run.finish := by
  have hclose : ¬PreparationEvent.close.InstallsJournal ∧ ¬PreparationEvent.close.IsVmeWrite :=
    ⟨id, id⟩
  refine ⟨h.writes.cons fun hwrite => absurd hwrite id, ?_⟩
  have hphase := h.phase
  unfold PhaseAccounted at hphase ⊢
  show match run.result.journalPhase with
    | .none => _
    | .prepared => _
    | .snapshotCaptured => _
  dsimp only at hphase
  -- closing installs no journal and writes nothing, so each phase's account stands
  split
  next heq =>
    rw [heq] at hphase
    refine ⟨hphase.1, fun event hevent => ?_⟩
    rcases List.mem_cons.mp hevent with rfl | hevent
    · exact hclose
    · exact hphase.2 event hevent
  next heq =>
    rw [heq] at hphase
    obtain ⟨hdestination, event, hevent, hinstalls⟩ := hphase
    exact ⟨hdestination, event, List.mem_cons_of_mem _ hevent, hinstalls⟩
  next heq =>
    rw [heq] at hphase
    obtain ⟨hdestination, ⟨event, hevent, hinstalls⟩, hrest⟩ := hphase
    exact ⟨hdestination, ⟨event, List.mem_cons_of_mem _ hevent, hinstalls⟩, hrest⟩

end Untouched

/-! ### The probe

The probe has four stages, and every stage can end it. As no stage writes, all that matters is
whether each of the readings was idle. -/

/-- The event is a reading or a look at the flag. -/
def PreparationEvent.OnlyReads : PreparationEvent → Prop
  | .cancellation _ => True
  | .readLocal .. => True
  | .readVme .. => True
  | _ => False

/-- What only reads installs no record and writes nothing. -/
theorem PreparationEvent.OnlyReads.untouched {event : PreparationEvent} (h : event.OnlyReads) :
    ¬event.InstallsJournal ∧ ¬event.IsVmeWrite := by
  cases event <;> first | exact ⟨id, id⟩ | exact absurd h id

/-- The event is a reading, and forbids nothing. -/
def PreparationEvent.ReadsIdle (event : PreparationEvent) : Prop :=
  event.OnlyReads ∧ ¬event.ForbidsWrites

section Probe

variable {outside : PreparationSurroundings} {log log' : PreparationLog}
  {result : TargetProbeResult}

/-- How a stage of the probe ends: it goes on and has read nothing that forbids writes, or it is over
without having found everything. -/
def StageEnds (log : PreparationLog)
    (state : Except TargetProbeResult TargetProbeResult × PreparationLog) : Prop :=
  Extends PreparationEvent.OnlyReads log state.2 ∧
    match state.1 with
    | .error result => result.outcome ≠ .verifiedIdle
    | .ok _ => Extends PreparationEvent.ReadsIdle log state.2

/-- A failure of the communication is not an idle target. -/
theorem targetOutcome_ne (failure : CommunicationFailure) :
    targetOutcome failure ≠ .verifiedIdle := by cases failure <;> decide

/-- Asking for a cancellation reads nothing that could be busy. -/
theorem readsIdle_cancellation (requested : Bool) :
    (PreparationEvent.cancellation requested).ReadsIdle := ⟨trivial, id⟩

/-- Nor does a reading from the module. -/
theorem readsIdle_readVme (address : UInt32) (answer : Except String UInt16) :
    (PreparationEvent.readVme address answer).ReadsIdle := ⟨trivial, id⟩

/-- A stage that ends the probe has only read. -/
theorem stageEnds_error (hlog : Extends PreparationEvent.OnlyReads log log')
    (hresult : result.outcome ≠ .verifiedIdle) : StageEnds log (.error result, log') :=
  ⟨hlog, hresult⟩

/-- A stage that lets the probe go on has read an idle target. -/
theorem stageEnds_ok (hlog : Extends PreparationEvent.ReadsIdle log log') :
    StageEnds log (.ok result, log') := ⟨hlog.mono fun _ hevent => hevent.1, hlog⟩

/-- The probe goes on only if the acquisition is off. -/
theorem judgeController_cases (result : TargetProbeResult)
    (hardwareId firmwareRevision daqMode : UInt32) :
    (∃ refused, judgeController result hardwareId firmwareRevision daqMode = .error refused ∧
        refused.outcome ≠ .verifiedIdle) ∨
      daqMode = 0 ∧ ∃ accepted,
        judgeController result hardwareId firmwareRevision daqMode = .ok accepted := by
  unfold judgeController
  dsimp only
  split
  · exact .inl ⟨_, rfl, nofun⟩
  split
  · exact .inl ⟨_, rfl, nofun⟩
  split
  · exact .inl ⟨_, rfl, nofun⟩
  next hidle => exact .inr ⟨not_not.mp hidle, _, rfl⟩

/-- The first stage asks the controller. -/
theorem stageEnds_probeController (outside : PreparationSurroundings) (log : PreparationLog) :
    StageEnds log (probeController outside log) := by
  have hlooked (requested : Bool) :
      Extends PreparationEvent.ReadsIdle log (.cancellation requested :: log) :=
    .single (readsIdle_cancellation requested)
  have hread (requested : Bool) (answer : Except String (List UInt32)) :
      Extends PreparationEvent.OnlyReads log
        (.readLocal targetProbeMvlcRegisterOrder answer :: .cancellation requested :: log) := by
    refine Extends.cons ?_ trivial
    exact (hlooked requested).mono fun _ hevent => hevent.1
  unfold probeController
  split
  -- a cancellation before the first reading
  next heq =>
    obtain ⟨-, rfl⟩ := Prod.mk.inj heq
    exact stageEnds_error ((hlooked _).mono fun _ hevent => hevent.1) nofun
  -- the controller does not answer
  next heq =>
    obtain ⟨-, rfl⟩ := Prod.mk.inj heq
    split
    next heq =>
      obtain ⟨-, rfl⟩ := Prod.mk.inj heq
      exact stageEnds_error ((hread _ _).cons trivial) (targetOutcome_ne _)
    next values read heq =>
      obtain ⟨hvalues, rfl⟩ := Prod.mk.inj heq
      split
      next heq =>
        obtain ⟨-, rfl⟩ := Prod.mk.inj heq
        exact stageEnds_error ((hread _ _).cons trivial) nofun
      next heq =>
        obtain ⟨-, rfl⟩ := Prod.mk.inj heq
        split
        next hardwareId firmwareRevision daqMode =>
          dsimp only
          obtain ⟨refused, hrefused, houtcome⟩ | ⟨hidle, accepted, haccepted⟩ :=
            judgeController_cases { evidence := {
              noControlTaken := true, noVmeOrModuleSettingWritesSent := true } } hardwareId
              firmwareRevision daqMode
          · rw [hrefused]
            exact stageEnds_error ((hread _ _).cons trivial) houtcome
          · rw [haccepted]
            refine stageEnds_ok (((hlooked _).cons ?_).cons (readsIdle_cancellation _))
            refine ⟨trivial, ?_⟩
            -- the third register of the batch is the acquisition mode
            rw [hvalues]
            rintro ⟨value, hvalue, hmem⟩
            simp [targetProbeMvlcRegisterOrder, daqModeRegister] at hmem
            exact hvalue (hmem.trans hidle)
        · exact stageEnds_error ((hread _ _).cons trivial) nofun

/-- Each later stage reads one register of the target. -/
theorem stageEnds_probeRegister (outside : PreparationSurroundings) (log : PreparationLog)
    (address : UInt32)
    {judge : TargetProbeResult → UInt16 → Except TargetProbeResult TargetProbeResult}
    (hjudge : ∀ result value refused, judge result value = .error refused →
      refused.outcome ≠ .verifiedIdle) (result : TargetProbeResult) :
    StageEnds log (probeRegister outside address judge result log) := by
  have hread (answer : Except String UInt16) (requested : Bool) :
      Extends PreparationEvent.ReadsIdle log
        (.cancellation requested :: .readVme address answer :: log) :=
    (Extends.single (readsIdle_readVme address answer)).cons (readsIdle_cancellation requested)
  have honly (answer : Except String UInt16) (requested : Bool) :=
    (hread answer requested).mono fun _ hevent => hevent.1
  unfold probeRegister
  split
  next heq =>
    obtain ⟨-, rfl⟩ := Prod.mk.inj heq
    exact stageEnds_error (honly _ _) (targetOutcome_ne _)
  next value read heq =>
    obtain ⟨-, rfl⟩ := Prod.mk.inj heq
    split
    next heq =>
      obtain ⟨-, rfl⟩ := Prod.mk.inj heq
      exact stageEnds_error (honly _ _) nofun
    next heq =>
      obtain ⟨-, rfl⟩ := Prod.mk.inj heq
      cases hverdict : judge result value with
      | error refused => exact stageEnds_error (honly _ _) (hjudge _ _ _ hverdict)
      | ok accepted => exact stageEnds_ok (hread _ _)

/-- Stages can be put behind one another. -/
theorem stageEnds_andThenProbe {state : Except TargetProbeResult TargetProbeResult × PreparationLog}
    (h : StageEnds log state)
    {stage : TargetProbeResult → PreparationLog →
      Except TargetProbeResult TargetProbeResult × PreparationLog}
    (hstage : ∀ result log, StageEnds log (stage result log)) :
    StageEnds log (andThenProbe state stage) := by
  obtain ⟨verdict, between⟩ := state
  cases verdict with
  | error result => exact h
  | ok result =>
      obtain ⟨hreads, hends⟩ := hstage result between
      refine ⟨h.1.trans hreads, ?_⟩
      show match (stage result between).1 with
        | .error result => _
        | .ok _ => _
      split
      next heq =>
        rw [heq] at hends
        exact hends
      next heq =>
        rw [heq] at hends
        exact h.2.trans hends

/-- The probe only reads; when it finds the target idle, nothing it has read forbids writes. -/
theorem probeTarget_reads (outside : PreparationSurroundings) (targetAddress : TargetModuleAddress)
    (log : PreparationLog) :
    let probed := probeTargetOnOpenTransport outside targetAddress log
    Extends PreparationEvent.OnlyReads log probed.2 ∧
      (probed.1.outcome = .verifiedIdle → Extends PreparationEvent.ReadsIdle log probed.2) := by
  have hends : StageEnds log (andThenProbe (andThenProbe (andThenProbe (probeController outside log)
      (probeRegister outside (targetAddress.fullA32Value + 0x6008) judgeTargetHardwareId))
      (probeRegister outside (targetAddress.fullA32Value + 0x600E) judgeTargetFirmware))
      (probeRegister outside
        (targetAddress.fullA32Value + fw2051AcquisitionControlRegister.toUInt32)
        judgeTargetAcquisition)) := by
    refine stageEnds_andThenProbe (stageEnds_andThenProbe (stageEnds_andThenProbe
      (stageEnds_probeController outside log) ?_) ?_) ?_
    · -- each of the three registers is read after the one before it was accepted
      intro result log
      refine stageEnds_probeRegister outside log _ (fun result value refused h => ?_) result
      unfold judgeTargetHardwareId at h
      dsimp only at h
      split at h <;> cases h
      nofun
    · intro result log
      refine stageEnds_probeRegister outside log _ (fun result value refused h => ?_) result
      unfold judgeTargetFirmware at h
      dsimp only at h
      split at h <;> cases h
      nofun
    · intro result log
      refine stageEnds_probeRegister outside log _ (fun result value refused h => ?_) result
      unfold judgeTargetAcquisition at h
      dsimp only at h
      split at h <;> cases h
      nofun
  unfold probeTargetOnOpenTransport
  dsimp only
  obtain ⟨hreads, hverdict⟩ := hends
  split
  next heq =>
    rw [heq] at hverdict
    exact ⟨hreads, fun houtcome => absurd houtcome hverdict⟩
  next heq =>
    rw [heq] at hverdict
    exact ⟨hreads, fun _ => hverdict⟩

end Probe

/-! ### Under the prepared journal

From the creation of the record on writes are allowed, as long as no reading has shown the target to
be busy. Checkpoints and gates are where that is found out. -/

/-- The text of the record that names what the probe has found. -/
def preparedText (request : PrepareTuningSessionRequest) (probe : TargetProbeResult) : List UInt8 :=
  (serializeTunerRecoveryJournal (preparedTuningRecord request probe)).text

/-- The record is on disk, and every write was accounted for. -/
structure UnderJournal (request : PrepareTuningSessionRequest) (probe : TargetProbeResult)
    (run : PreparationRun) : Prop where
  writes : Lawful (AccountedWrite (preparedText request probe)) run.log
  created : CreatedDurably (preparedText request probe) run.log
  destination : run.directory.destination = .file (preparedText request probe)
  phase : run.result.journalPhase = .prepared
  preflight : run.result.preflight = probe

/-- The record is on disk, and nothing forbids writes. -/
structure FreeToWrite (request : PrepareTuningSessionRequest) (probe : TargetProbeResult)
    (run : PreparationRun) : Prop extends UnderJournal request probe run where
  free : ∀ event ∈ run.log, ¬event.ForbidsWrites

section UnderJournal

variable {request : PrepareTuningSessionRequest} {probe : TargetProbeResult} {run : PreparationRun}
  {directory : RecoveryDirectory} {outside : PreparationSurroundings}

/-- A durable record stays durable. -/
theorem CreatedDurably.cons {text : List UInt8} {log : PreparationLog}
    (h : CreatedDurably text log) (event : PreparationEvent) : CreatedDurably text (event :: log) := by
  obtain ⟨faults, result, hmem, hrest⟩ := h
  exact ⟨faults, result, List.mem_cons_of_mem _ hmem, hrest⟩

/-- An event that writes nothing keeps the record under which the run goes on. -/
theorem UnderJournal.logged (h : UnderJournal request probe run) (event : PreparationEvent)
    (hevent : ¬event.IsVmeWrite) :
    UnderJournal request probe { run with log := event :: run.log } :=
  { h with writes := h.writes.cons fun hwrite => absurd hwrite hevent, created := h.created.cons _ }

/-- One that forbids nothing either keeps the run free to write. -/
theorem FreeToWrite.logged (h : FreeToWrite request probe run) (event : PreparationEvent)
    (hwrite : ¬event.IsVmeWrite) (hforbids : ¬event.ForbidsWrites) :
    FreeToWrite request probe { run with log := event :: run.log } := by
  refine ⟨h.toUnderJournal.logged event hwrite, fun other hother => ?_⟩
  rcases List.mem_cons.mp hother with rfl | hother
  · exact hforbids
  · exact h.free other hother

/-- A write behind the record is accounted for. -/
theorem FreeToWrite.written (h : FreeToWrite request probe run) (address : UInt32) (value : UInt16)
    (fault : Option Fault) :
    FreeToWrite request probe { run with log := .writeVme address value fault :: run.log } := by
  refine ⟨{ h.toUnderJournal with writes := ?_, created := h.created.cons _ }, fun other hother => ?_⟩
  · exact h.writes.cons fun _ => ⟨h.created, h.free⟩
  · rcases List.mem_cons.mp hother with rfl | hother
    · exact id
    · exact h.free other hother

/-- The counters of the result are not accounted for. -/
theorem UnderJournal.setResult (h : UnderJournal request probe run)
    (result : PrepareTuningSessionResult) (hphase : result.journalPhase = run.result.journalPhase)
    (hpreflight : result.preflight = run.result.preflight) :
    UnderJournal request probe { run with result } :=
  { h with phase := hphase.trans h.phase, preflight := hpreflight.trans h.preflight }

/-- Nor do they forbid a write. -/
theorem FreeToWrite.setResult (h : FreeToWrite request probe run)
    (result : PrepareTuningSessionResult) (hphase : result.journalPhase = run.result.journalPhase)
    (hpreflight : result.preflight = run.result.preflight) :
    FreeToWrite request probe { run with result } :=
  ⟨h.toUnderJournal.setResult result hphase hpreflight, h.free⟩

/-- A durable record was installed. -/
theorem CreatedDurably.installs {text : List UInt8} {log : PreparationLog}
    (h : CreatedDurably text log) : ∃ event ∈ log, event.InstallsJournal := by
  obtain ⟨faults, result, hmem, -, hinstalled, -⟩ := h
  exact ⟨_, hmem, hinstalled⟩

/-- Under the prepared record everything is accounted for. -/
theorem UnderJournal.accounted (h : UnderJournal request probe run) :
    Accounted request directory run where
  writes := by
    rw [h.preflight]
    exact h.writes
  phase := by
    unfold PhaseAccounted
    rw [h.phase, h.preflight]
    exact ⟨h.destination, h.created.installs⟩

/-- So it is with any verdict. -/
theorem UnderJournal.conclude (h : UnderJournal request probe run)
    (outcome : PrepareTuningSessionOutcome) (message : List UInt8) :
    Accounted request directory (run.conclude outcome message) :=
  UnderJournal.accounted (h.setResult _ rfl rfl)

/-- A checkpoint lets the run go on or stops it. -/
theorem FreeToWrite.advance (h : FreeToWrite request probe run) (outside : PreparationSurroundings)
    (kind : PrepareTuningSessionCheckpointKind) (quad : Option UInt16) (registerOffset : UInt16) :
    UnderJournal request probe (advance outside kind quad registerOffset run).2 ∧
      ((advance outside kind quad registerOffset run).1 = true →
        FreeToWrite request probe (advance outside kind quad registerOffset run).2) := by
  unfold Fidget.advance PreparationSurroundings.passCheckpoint
  dsimp only
  split
  next hgoesOn =>
    have hpassed := (h.logged (.checkpoint
      { kind, quad, registerOffset, ordinal := run.result.completedCheckpoints }
      (outside.checkpoint run.log _)) id (by rw [hgoesOn]; exact id)).setResult
        { run.result with completedCheckpoints := run.result.completedCheckpoints + 1 } rfl rfl
    exact ⟨hpassed.toUnderJournal, fun _ => hpassed⟩
  · exact ⟨(h.toUnderJournal.logged _ id).setResult _ rfl rfl, fun hgoesOn => (by cases hgoesOn)⟩

/-- The gate lets the run go on only after it has read the acquisition mode as idle. -/
theorem FreeToWrite.daqGate (h : FreeToWrite request probe run) (outside : PreparationSurroundings)
    (boundary : String) :
    UnderJournal request probe (daqGate outside boundary run).2 ∧
      ((daqGate outside boundary run).1.status = .allowed →
        FreeToWrite request probe (daqGate outside boundary run).2) := by
  have hlooked (requested : Bool) := h.logged (.cancellation requested) id id
  unfold Fidget.daqGate
  split
  next heq =>
    obtain ⟨-, rfl⟩ := Prod.mk.inj heq
    -- cancelled: the gate does not allow the write
    exact ⟨(hlooked _).toUnderJournal, nofun⟩
  next heq =>
    obtain ⟨-, rfl⟩ := Prod.mk.inj heq
    have hread (answer : Except String (List UInt32)) :=
      (hlooked (outside.cancellationRequested run.log)).toUnderJournal.logged
        (.readLocal [daqModeRegister] answer) id
    split
    next heq =>
      obtain ⟨-, rfl⟩ := Prod.mk.inj heq
      exact ⟨hread _, nofun⟩
    next daqMode log heq =>
      obtain ⟨hanswer, rfl⟩ := Prod.mk.inj heq
      dsimp only
      split
      · exact ⟨(hread _).setResult _ rfl rfl, nofun⟩
      -- the reading is idle, and forbids nothing
      next hidle =>
        have hfree := ((hlooked (outside.cancellationRequested run.log)).logged
          (.readLocal [daqModeRegister] (.ok [daqMode])) id (by
            rintro ⟨value, hvalue, hmem⟩
            simp at hmem
            exact hidle (hmem ▸ hvalue))).setResult
          { run.result with daqIdleChecks := run.result.daqIdleChecks + 1 } rfl rfl
        rw [hanswer]
        have hadvanced := hfree.advance outside .daqIdleVerified none daqModeRegister
        split
        next heq =>
          rw [heq] at hadvanced
          exact ⟨hadvanced.1, nofun⟩
        next heq =>
          rw [heq] at hadvanced
          exact ⟨hadvanced.1, fun _ => hadvanced.2 rfl⟩
    next heq =>
      obtain ⟨-, rfl⟩ := Prod.mk.inj heq
      exact ⟨hread _, nofun⟩

/-- The calls of the capture keep what a write needs. -/
theorem keeps_preparationCalls (outside : PreparationSurroundings) (base : UInt32) :
    (preparationCalls outside base).Keeps (UnderJournal request probe)
      (FreeToWrite request probe) where
  always := fun _ h => h.toUnderJournal
  read := fun _ _ _ h => h.logged _ id id
  write := fun _ _ _ h => h.written _ _ _
  gate := fun site _ h => h.daqGate outside site.boundary
  checkpoint := fun _ _ h => h.advance outside _ _ _

end UnderJournal

/-! ### What was read

The selector decides what a reading of a banked register means, so the log is followed with the bank
that was last selected. A complete capture has read each of its values from the bank it belongs to.
-/

/-- The event is nothing that happens on the bus. -/
def PreparationEvent.OffBus : PreparationEvent → Prop
  | .readVme .. => False
  | .writeVme .. => False
  | _ => True

section Readings

variable {base : UInt32} {log log' : PreparationLog} {run : PreparationRun}
  {outside : PreparationSurroundings}

/-- What happens off the bus neither selects a bank nor reads one. -/
theorem readings_offBus (h : Extends PreparationEvent.OffBus log log') :
    selectedBank base log' = selectedBank base log ∧
      moduleReadings base log' = moduleReadings base log := by
  obtain ⟨added, rfl, hadded⟩ := h
  induction added with
  | nil => exact ⟨rfl, rfl⟩
  | cons event added ih =>
      obtain ⟨hbank, hreadings⟩ := ih fun other hother => hadded other (List.mem_cons_of_mem _ hother)
      have hevent := hadded event List.mem_cons_self
      rw [← hbank, ← hreadings]
      cases event <;> first | exact absurd hevent id | exact ⟨rfl, rfl⟩

/-- A run that has not written has no bank selected. -/
theorem selectedBank_of_unwritten (h : ∀ event ∈ log, ¬event.IsVmeWrite) :
    selectedBank base log = none := by
  induction log with
  | nil => rfl
  | cons event log ih =>
      have hlog := ih fun other hother => h other (List.mem_cons_of_mem _ hother)
      cases event <;> first | exact hlog | exact absurd trivial (h _ List.mem_cons_self)

/-- A checkpoint is off the bus. -/
theorem offBus_advance (outside : PreparationSurroundings)
    (kind : PrepareTuningSessionCheckpointKind) (quad : Option UInt16) (registerOffset : UInt16)
    (run : PreparationRun) :
    Extends PreparationEvent.OffBus run.log (advance outside kind quad registerOffset run).2.log ∧
      (advance outside kind quad registerOffset run).2.result.liveRestoreSnapshot =
        run.result.liveRestoreSnapshot := by
  unfold advance PreparationSurroundings.passCheckpoint
  dsimp only
  split <;> exact ⟨.single trivial, rfl⟩

/-- So is the gate, which asks the controller. -/
theorem offBus_daqGate (outside : PreparationSurroundings) (boundary : String)
    (run : PreparationRun) :
    Extends PreparationEvent.OffBus run.log (daqGate outside boundary run).2.log ∧
      (daqGate outside boundary run).2.result.liveRestoreSnapshot =
        run.result.liveRestoreSnapshot := by
  have hlooked (requested : Bool) : Extends PreparationEvent.OffBus run.log
      (.cancellation requested :: run.log) := .single trivial
  have hread (requested : Bool) (answer : Except String (List UInt32)) :
      Extends PreparationEvent.OffBus run.log
        (.readLocal [daqModeRegister] answer :: .cancellation requested :: run.log) :=
    Extends.cons (hlooked requested) trivial
  unfold daqGate
  split
  -- cancelled before the reading
  next heq =>
    obtain ⟨-, rfl⟩ := Prod.mk.inj heq
    exact ⟨hlooked _, rfl⟩
  -- the mode is read, and each answer is one event more
  next heq =>
    obtain ⟨-, rfl⟩ := Prod.mk.inj heq
    split
    next heq =>
      obtain ⟨-, rfl⟩ := Prod.mk.inj heq
      exact ⟨hread _ _, rfl⟩
    next daqMode log heq =>
      obtain ⟨-, rfl⟩ := Prod.mk.inj heq
      dsimp only
      split
      · exact ⟨hread _ _, rfl⟩
      · have hadvanced := offBus_advance outside .daqIdleVerified none daqModeRegister
          { run with
            log := .readLocal [daqModeRegister] (outside.readLocal
              (.cancellation (outside.cancellationRequested run.log) :: run.log)
              [daqModeRegister]) :: .cancellation (outside.cancellationRequested run.log) :: run.log
            result := { run.result with daqIdleChecks := run.result.daqIdleChecks + 1 } }
        split
        next heq =>
          rw [heq] at hadvanced
          exact ⟨(hread _ _).trans hadvanced.1, hadvanced.2⟩
        next heq =>
          rw [heq] at hadvanced
          exact ⟨(hread _ _).trans hadvanced.1, hadvanced.2⟩
    next heq =>
      obtain ⟨-, rfl⟩ := Prod.mk.inj heq
      exact ⟨hread _ _, rfl⟩

/-- The register of an address in the module. -/
theorem toUInt16_offset (base : UInt32) (registerOffset : UInt16) :
    (base + registerOffset.toUInt32 - base).toUInt16 = registerOffset := by
  rw [add_sub_cancel_left]
  exact UInt16.toUInt16_toUInt32 registerOffset

/-- The log shows the bank that is selected and what was read from it. -/
theorem traces_preparationCalls (outside : PreparationSurroundings) (base : UInt32) :
    (preparationCalls outside base).Traces (fun run => selectedBank base run.log)
      (fun run => moduleReadings base run.log) where
  read := by
    intro site registerOffset run value hanswer
    have hlog : ((preparationCalls outside base).readVmeD16 site registerOffset run).2.log =
        .readVme (base + registerOffset.toUInt32) (.ok value) :: run.log :=
      congrArg (fun answer => PreparationEvent.readVme _ answer :: run.log) hanswer
    rw [hlog]
    refine ⟨rfl, ?_⟩
    rw [moduleReadings, toUInt16_offset]
  write := by
    intro site value run herror
    have hfault : outside.writeVme run.log (base + fw2051ScpSelectorRegister.toUInt32) value =
        none := Option.map_eq_none_iff.mp herror
    have hlog : ((preparationCalls outside base).writeVmeD16 site fw2051ScpSelectorRegister value
        run).2.log = .writeVme (base + fw2051ScpSelectorRegister.toUInt32) value none :: run.log :=
      congrArg (fun fault => PreparationEvent.writeVme _ value fault :: run.log) hfault
    rw [hlog, selectedBank, if_pos rfl]
    exact ⟨rfl, rfl⟩
  gate := fun site run => readings_offBus (offBus_daqGate outside site.boundary run).1
  checkpoint := fun _ run => readings_offBus (offBus_advance outside _ _ _ run).1

end Readings

/-! ### The whole operation

The promotion is the last step that touches the disk. After it the phase of the result is the one on
disk whatever happens. -/

/-- The snapshot is complete and has the values that were read; the selector is parked. -/
structure Captured (request : PrepareTuningSessionRequest) (run : PreparationRun) : Prop where
  complete : run.result.liveRestoreSnapshot.state = .complete
  parked : selectedBank request.targetAddress.fullA32Value run.log = some 0
  readings : ∃ probed, moduleReadings request.targetAddress.fullA32Value run.log =
    probed ++ snapshotReadings run.result.liveRestoreSnapshot

section Operation

variable {request : PrepareTuningSessionRequest} {probe : TargetProbeResult}
  {directory : RecoveryDirectory} {run run' : PreparationRun} (outside : PreparationSurroundings)

/-- What happens off the bus leaves what was captured. -/
theorem Captured.offBus (h : Captured request run)
    (hlater : Extends PreparationEvent.OffBus run.log run'.log ∧
      run'.result.liveRestoreSnapshot = run.result.liveRestoreSnapshot) :
    Captured request run' := by
  obtain ⟨hbank, hreadings⟩ :=
    @readings_offBus request.targetAddress.fullA32Value _ _ hlater.1
  obtain ⟨probed, hprobed⟩ := h.readings
  refine ⟨?_, hbank.trans h.parked, probed, ?_⟩
  · rw [hlater.2]
    exact h.complete
  · rw [hreadings, hprobed, hlater.2]

/-- The record with the snapshot is on disk. -/
structure Promoted (request : PrepareTuningSessionRequest) (probe : TargetProbeResult)
    (run : PreparationRun) : Prop extends Captured request run where
  writes : Lawful (AccountedWrite (preparedText request probe)) run.log
  installed : ∃ event ∈ run.log, event.InstallsJournal
  destination : run.directory.destination = .file (serializeTunerRecoveryJournal
    (promotedTuningRecord (preparedTuningRecord request probe)
      run.result.liveRestoreSnapshot)).text
  phase : run.result.journalPhase = .snapshotCaptured
  preflight : run.result.preflight = probe

/-- Under the promoted record everything is accounted for. -/
theorem Promoted.accounted (h : Promoted request probe run) : Accounted request directory run where
  writes := by
    rw [h.preflight]
    exact h.writes
  phase := by
    unfold PhaseAccounted
    rw [h.phase, h.preflight]
    exact ⟨h.destination, h.installed, h.complete, h.parked, h.readings⟩

/-- So it is with any verdict. -/
theorem Promoted.conclude (h : Promoted request probe run) (outcome : PrepareTuningSessionOutcome)
    (message : List UInt8) : Accounted request directory (run.conclude outcome message) :=
  Promoted.accounted { h with
    toCaptured := h.toCaptured.offBus ⟨.refl _, rfl⟩ }

/-- A checkpoint comes too late to change it. -/
theorem Promoted.advance (h : Promoted request probe run)
    (kind : PrepareTuningSessionCheckpointKind) (quad : Option UInt16) (registerOffset : UInt16) :
    Promoted request probe (advance outside kind quad registerOffset run).2 := by
  have hcaptured := h.toCaptured.offBus (offBus_advance outside kind quad registerOffset run)
  obtain ⟨event, hevent, hinstalls⟩ := h.installed
  unfold Fidget.advance PreparationSurroundings.passCheckpoint at hcaptured ⊢
  dsimp only at hcaptured ⊢
  split at hcaptured
  next hgoesOn =>
    rw [if_pos hgoesOn]
    exact ⟨hcaptured, h.writes.cons fun hwrite => absurd hwrite id,
      ⟨event, List.mem_cons_of_mem _ hevent, hinstalls⟩, h.destination, h.phase, h.preflight⟩
  next hstops =>
    rw [if_neg hstops]
    exact ⟨hcaptured, h.writes.cons fun hwrite => absurd hwrite id,
      ⟨event, List.mem_cons_of_mem _ hevent, hinstalls⟩, h.destination, h.phase, h.preflight⟩

/-- The promotion installs the record with the snapshot, or leaves the prepared one. -/
theorem accounted_promoteSnapshot (h : UnderJournal request probe run)
    (hcaptured : Captured request run) :
    Accounted request directory (promoteSnapshot outside request
      (preparedTuningRecord request probe) run.result.liveRestoreSnapshot run) := by
  have hspec := describesDestination_run .promoteSnapshot (outside.journalFaults run.log)
    (promotedTuningRecord (preparedTuningRecord request probe) run.result.liveRestoreSnapshot)
    request.recoveryJournalPath run.directory
  unfold JournalForm.run at hspec
  unfold promoteSnapshot
  dsimp only at hspec ⊢
  generalize promoteTunerRecoveryJournalV5Snapshot _ _ _ _ = outcome at hspec ⊢
  obtain ⟨promoted, after⟩ := outcome
  dsimp only
  -- once the promoted record is installed, the phase and the snapshot agree with it
  have hpromoted (hinstalled : promoted.destinationInstalled = true) :
      Promoted request probe { run with
        log := .promoteJournal (outside.journalFaults run.log) promoted after.destination :: run.log
        directory := after
        result := { run.result with
          journalPromotedAtomically := true, journalPhase := .snapshotCaptured } } :=
    { toCaptured := hcaptured.offBus ⟨.single trivial, rfl⟩
      writes := h.writes.cons fun hwrite => absurd hwrite id
      installed := ⟨_, List.mem_cons_self, hinstalled⟩
      destination := hspec.installed hinstalled
      phase := rfl
      preflight := h.preflight }
  split
  · cases hinstalled : promoted.destinationInstalled with
    | true => exact (hpromoted hinstalled).conclude _ _
    -- a failed promotion leaves the prepared record on disk
    | false =>
        have hkept : UnderJournal request probe { run with
            log := .promoteJournal (outside.journalFaults run.log) promoted after.destination ::
              run.log
            directory := after } :=
          ⟨h.writes.cons fun hwrite => absurd hwrite id, h.created.cons _,
            (hspec.kept hinstalled).trans h.destination, h.phase, h.preflight⟩
        exact hkept.conclude _ _
  next hsuccess =>
    have hinstalled := hspec.installed_of_success (by simpa using hsuccess)
    have hadvanced := (hpromoted hinstalled).advance outside .journalPromoted none 0
    split
    next heq =>
      rw [heq] at hadvanced
      exact hadvanced.conclude _ _
    next heq =>
      rw [heq] at hadvanced
      exact hadvanced.conclude _ _

/-- Between the capture and the promotion the target is looked at once more. -/
theorem accounted_confirmCapture (h : FreeToWrite request probe run)
    (hcaptured : Captured request run) :
    Accounted request directory (confirmCapture outside request
      (preparedTuningRecord request probe) run.result.liveRestoreSnapshot run) := by
  have hadvanced := h.advance outside .captureCompleted none 0
  have hoff := offBus_advance outside .captureCompleted none 0 run
  unfold confirmCapture
  split
  next heq =>
    rw [heq] at hadvanced
    exact hadvanced.1.conclude _ _
  next completed heq =>
    rw [heq] at hadvanced hoff
    have hgated := (hadvanced.2 rfl).daqGate outside "the snapshot-promotion boundary"
    have hoffGate := offBus_daqGate outside "the snapshot-promotion boundary" completed
    generalize daqGate outside "the snapshot-promotion boundary" completed = gated
      at hgated hoffGate ⊢
    obtain ⟨finalIdle, idle⟩ := gated
    dsimp only
    split
    · exact hgated.1.conclude _ _
    next hallowed =>
      have hbefore := (hgated.2 (not_not.mp hallowed)).advance outside .beforeJournalPromotion none 0
      have hoffBefore := offBus_advance outside .beforeJournalPromotion none 0 idle
      split
      next heq =>
        rw [heq] at hbefore
        exact hbefore.1.conclude _ _
      next before heq =>
        rw [heq] at hbefore hoffBefore
        -- none of the checks in between touches the snapshot
        have hsame : before.result.liveRestoreSnapshot = run.result.liveRestoreSnapshot :=
          hoffBefore.2.trans (hoffGate.2.trans hoff.2)
        rw [← hsame]
        exact accounted_promoteSnapshot outside hbefore.1
          (((hcaptured.offBus hoff).offBus hoffGate).offBus hoffBefore)

/-- A capture that is not complete leaves the prepared record. -/
theorem accounted_captureFailure (h : UnderJournal request probe run) (message : List UInt8) :
    Accounted request directory
      ((captureFailureOutcome outside run).2.conclude (captureFailureOutcome outside run).1
        message) := by
  unfold captureFailureOutcome
  split
  · exact h.conclude _ _
  split
  · exact h.conclude _ _
  · exact (h.logged (.cancellation _) id).conclude _ _

/-- The capture runs under the prepared record. -/
theorem accounted_captureUnderJournal (h : FreeToWrite request probe run)
    (hunwritten : ∀ event ∈ run.log, ¬event.IsVmeWrite) :
    Accounted request directory (captureUnderJournal outside request
      (preparedTuningRecord request probe) run) := by
  have hadvanced := h.advance outside .journalPrepared none 0
  have hoff := offBus_advance outside .journalPrepared none 0 run
  unfold captureUnderJournal
  split
  next heq =>
    rw [heq] at hadvanced
    exact hadvanced.1.conclude _ _
  -- the prepared record is on disk, so the capture may write
  next started heq =>
    rw [heq] at hadvanced hoff
    have hkept := captureThrough_keeps (keeps_preparationCalls outside
      request.targetAddress.fullA32Value) request.targetAddress.fullA32Value (hadvanced.2 rfl)
    have htraced := captureThrough_traces (traces_preparationCalls outside
      request.targetAddress.fullA32Value) request.targetAddress.fullA32Value
      ((readings_offBus hoff.1).1.trans (selectedBank_of_unwritten hunwritten))
    dsimp only
    generalize captureThrough (preparationCalls outside request.targetAddress.fullA32Value)
      request.targetAddress.fullA32Value started = capture at hkept htraced ⊢
    obtain ⟨captured, after⟩ := capture
    dsimp only at hkept htraced ⊢
    split
    · exact accounted_captureFailure outside (hkept.1.setResult
        { after.result with liveRestoreSnapshot := captured.configuration } rfl rfl) _
    -- a complete capture has parked the selector and read what the log holds
    next hcomplete =>
      have hcomplete := not_not.mp hcomplete
      obtain ⟨hreadings, hparked⟩ := htraced hcomplete
      exact accounted_confirmCapture outside ((hkept.2 hcomplete).setResult _ rfl rfl)
        ⟨hcomplete, hparked, _, hreadings⟩

/-- The record is created before anything is written. -/
theorem accounted_createPreparedJournal (h : Untouched directory run)
    (hfree : ∀ event ∈ run.log, ¬event.ForbidsWrites) :
    Accounted request directory (createPreparedJournal outside request run) := by
  have hspec := describesDestination_run .createExclusive (outside.journalFaults run.log)
    (preparedTuningRecord request run.result.preflight) request.recoveryJournalPath run.directory
  have hsynchronized := @synchronized_of_create (outside.journalFaults run.log)
    (preparedTuningRecord request run.result.preflight) request.recoveryJournalPath run.directory
  unfold JournalForm.run at hspec
  unfold createPreparedJournal
  dsimp only at hspec ⊢
  generalize createTunerRecoveryJournalExclusive _ _ _ _ = outcome at hspec hsynchronized ⊢
  obtain ⟨created, after⟩ := outcome
  dsimp only at hspec hsynchronized ⊢
  have hwrites : Lawful (AccountedWrite (preparedText request run.result.preflight))
      (.createJournal (outside.journalFaults run.log) created after.destination :: run.log) :=
    Lawful.of_forall (fun _ _ hevent hwrite => absurd hwrite hevent) fun event hevent => by
      rcases List.mem_cons.mp hevent with rfl | hevent
      · exact id
      · exact (h.log event hevent).2
  split
  · cases hinstalled : created.destinationInstalled with
    -- the record is installed, but not known to be durable: the operation ends here
    | true =>
        refine ⟨hwrites, ?_⟩
        exact ⟨hspec.installed hinstalled, _, List.mem_cons_self, hinstalled⟩
    | false =>
        refine ⟨hwrites, ?_⟩
        refine ⟨(hspec.kept hinstalled).trans (by rw [h.directory]), fun event hevent => ?_⟩
        rcases List.mem_cons.mp hevent with rfl | hevent
        · refine ⟨fun hinstalls => ?_, id⟩
          rw [PreparationEvent.InstallsJournal, hinstalled] at hinstalls
          cases hinstalls
        · exact h.log event hevent
  -- the record is durable before the first write
  next hsuccess =>
    have hsuccess : created.success = true := by simpa using hsuccess
    have hinstalled := hspec.installed_of_success hsuccess
    have hdestination := hspec.installed hinstalled
    refine accounted_captureUnderJournal outside ⟨⟨hwrites, ?_, hdestination, rfl, rfl⟩, ?_⟩ ?_
    · rw [hdestination]
      exact ⟨_, created, List.mem_cons_self, hsuccess, hinstalled, hsynchronized hsuccess⟩
    · intro event hevent
      rcases List.mem_cons.mp hevent with rfl | hevent
      · exact id
      · exact hfree event hevent
    · intro event hevent
      rcases List.mem_cons.mp hevent with rfl | hevent
      · exact id
      · exact (h.log event hevent).2

/-- Before that the target is probed. -/
theorem accounted_prepareOnOpenTransport (h : Untouched directory run)
    (hfree : ∀ event ∈ run.log, ¬event.ForbidsWrites) :
    Accounted request directory (prepareOnOpenTransport outside request run) := by
  obtain ⟨hreads, hidle⟩ := probeTarget_reads outside request.targetAddress run.log
  unfold prepareOnOpenTransport
  generalize probeTargetOnOpenTransport outside request.targetAddress run.log = probed
    at hreads hidle ⊢
  obtain ⟨preflight, log⟩ := probed
  dsimp only at hreads hidle ⊢
  -- the probe only reads
  have hprobed : Untouched directory
      { run with log, result := { run.result with preflight } } := by
    refine ⟨fun event hevent => ?_, h.directory, h.phase⟩
    exact (hreads.mem hevent).elim (h.log event) PreparationEvent.OnlyReads.untouched
  split
  · exact (hprobed.conclude _ _).accounted
  next houtcome =>
    split
    · exact (hprobed.conclude _ _).accounted
    · have hstored := hprobed.logged (.prepareStorage (outside.prepareStorage log)) id id
      split
      · exact (hstored.conclude _ _).accounted
      next hready =>
        refine accounted_createPreparedJournal outside hstored fun event hevent => ?_
        rcases List.mem_cons.mp hevent with rfl | hevent
        · exact id
        · exact ((hidle (not_not.mp houtcome)).mem hevent).elim (hfree event) And.right

/-- Before that the transport is opened. -/
theorem accounted_openPreparationTransport (h : Untouched directory run)
    (hfree : ∀ event ∈ run.log, ¬event.ForbidsWrites) :
    Accounted request directory (openPreparationTransport outside request run) := by
  have hasked := h.logged (.commandTransport (outside.commandTransport run.log)) id id
  unfold openPreparationTransport
  dsimp only
  split
  · exact (hasked.conclude _ _).accounted
  · have hopened := hasked.logged (.openTransport (outside.openTransport
      (.commandTransport (outside.commandTransport run.log) :: run.log))) id id
    split
    · exact (hopened.conclude _ _).accounted
    next hready =>
      refine accounted_prepareOnOpenTransport outside
        ⟨hopened.log, hopened.directory, hopened.phase⟩ fun event hevent => ?_
      rcases List.mem_cons.mp hevent with rfl | hevent
      · exact id
      rcases List.mem_cons.mp hevent with rfl | hevent
      · exact id
      · exact hfree event hevent

end Operation

/-- However a preparation ends, its writes and its result are accounted for. -/
theorem prepareTuningSession_accounted (outside : PreparationSurroundings)
    (request : PrepareTuningSessionRequest) (directory : RecoveryDirectory) :
    Accounted request directory (prepareTuningSession outside request directory []) := by
  have hstart : Untouched directory
      { log := [], directory, result := { recoveryJournalPath := request.recoveryJournalPath } } :=
    ⟨fun _ h => (nomatch h), rfl, rfl⟩
  unfold prepareTuningSession
  dsimp only
  split
  · exact (hstart.conclude _ _).accounted
  · have hlooked := hstart.logged (.cancellation (outside.cancellationRequested [])) id id
    split
    next heq =>
      obtain ⟨-, rfl⟩ := Prod.mk.inj heq
      exact (hlooked.conclude _ _).accounted
    next log heq =>
      obtain ⟨-, rfl⟩ := Prod.mk.inj heq
      have hcreated := hlooked.logged (.createSession (outside.createSession
        [.cancellation (outside.cancellationRequested [])])) id id
      split
      · exact (hcreated.conclude _ _).accounted
      · refine (accounted_openPreparationTransport outside
          ⟨hcreated.log, hcreated.directory, hcreated.phase⟩ fun event hevent => ?_).finish
        · rcases List.mem_cons.mp hevent with rfl | hevent
          · exact id
          · rcases List.mem_singleton.mp hevent with rfl
            exact id

end Fidget
