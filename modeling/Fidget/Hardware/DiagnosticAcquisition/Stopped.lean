import Fidget.Hardware.DiagnosticAcquisition.Stop

/-!
# What a stop has seen

An acquisition that is reported as stopped has been read back as stopped, in the call that reports
it: every failure is noted in one text, and the text must still be empty when the journal is removed.

The stop is a sequence of writes and readings, each of which notes a failure if it is lost, and the
journal is removed only if no failure was noted. So every lemma has the same shape: unless a failure
was noted, the last reading of a register on the log is a zero, and no later event is about that
register.

## Main results

- `StopStep`: what one step of a stop leaves alone, and that it never forgets a failure.
- `stopStep_stopTarget`, `stopStep_cleanUpModules`, `stopStep_cleanUpController`: each part of the
  stop, if it has not failed, has read its registers as zero.
- `seenStopped_stopHardware`: a stop that ends cleanly has `SeenStopped` everything it had started.
- `stopDiagnosticAcquisition_stopped`: an acquisition is reported as stopped exactly when the
  journal was removed, and that happens only then.
-/

namespace Fidget

open EventLog

/-! ### What one step leaves alone

`StopStep` says of a step which kind of events it adds. It is put together from single reads and
writes, and later steps are known not to disturb earlier readings by their kind. -/

/-- The step adds only events of one kind to the log, keeps what the session is about, and a failure
once noted stays noted. -/
structure StopStep (P : CrateEvent → Prop) (run run' : AcquisitionRun) : Prop where
  extends_log : Extends P run.log run'.log
  recoveryRecord : run'.prepared.recoveryRecord = run.prepared.recoveryRecord
  readoutPlan : run'.prepared.readoutPlan = run.prepared.readoutPlan
  baseAddress : run'.acquisition.baseAddress = run.acquisition.baseAddress
  failure : run'.failure = "" → run.failure = ""

namespace StopStep

variable {P Q : CrateEvent → Prop} {run run' run'' : AcquisitionRun}

theorem refl (run : AcquisitionRun) : StopStep P run run := ⟨.refl _, rfl, rfl, rfl, id⟩

theorem logged {event : CrateEvent} (h : P event) (run : AcquisitionRun) :
    StopStep P run { run with log := event :: run.log } := ⟨.single h, rfl, rfl, rfl, id⟩

theorem trans (h : StopStep P run run') (h' : StopStep P run' run'') : StopStep P run run'' where
  extends_log := h.extends_log.trans h'.extends_log
  recoveryRecord := h'.recoveryRecord.trans h.recoveryRecord
  readoutPlan := h'.readoutPlan.trans h.readoutPlan
  baseAddress := h'.baseAddress.trans h.baseAddress
  failure := h.failure ∘ h'.failure

theorem mono (h : StopStep P run run') (hPQ : ∀ event, P event → Q event) : StopStep Q run run' :=
  { h with extends_log := h.extends_log.mono hPQ }

/-- The flags and counters of the acquisition are nothing the step is about. -/
theorem setAcquisition (h : StopStep P run run') {acquisition : DiagnosticAcquisitionResult}
    (hbase : acquisition.baseAddress = run'.acquisition.baseAddress) :
    StopStep P run (run'.setAcquisition acquisition) :=
  { h with baseAddress := hbase.trans h.baseAddress }

theorem fail (h : StopStep P run run') {message : String} (hmessage : message ≠ "") :
    StopStep P run (run'.fail message) :=
  { h with failure := fun hfailure => absurd hfailure (appendFailure_ne _ hmessage) }

end StopStep

section

variable {outside : Surroundings} {run run' : AcquisitionRun} {baseAddress : UInt32}
  {registerOffset value : UInt16} {name : String}

/-- A write adds one event, and a failure if it is lost. -/
theorem stopStep_writeVmeNoted {P : CrateEvent → Prop}
    (hP : ∀ fault, P (.writeVme baseAddress registerOffset value fault)) {sent : Bool}
    (h : writeVmeNoted outside run baseAddress registerOffset value name = (sent, run')) :
    StopStep P run run' := by
  unfold writeVmeNoted Surroundings.writeVmeD16 at h
  split at h
  next heq =>
    cases h
    obtain ⟨-, rfl⟩ := Prod.mk.inj heq
    exact .logged (hP _) run
  next heq =>
    cases h
    obtain ⟨-, rfl⟩ := Prod.mk.inj heq
    refine StopStep.fail ?_ (registerOperationError_ne _ _ _ _)
    exact .logged (hP _) run

/-- It leaves what was prepared. -/
theorem prepared_writeVmeNoted {sent : Bool}
    (h : writeVmeNoted outside run baseAddress registerOffset value name = (sent, run')) :
    run'.prepared = run.prepared := by
  unfold writeVmeNoted at h
  split at h <;> cases h <;> rfl

/-- So does a reading. -/
theorem prepared_readVmeNoted {answer : Option UInt16}
    (h : readVmeNoted outside run baseAddress registerOffset name = (answer, run')) :
    run'.prepared = run.prepared := by
  unfold readVmeNoted at h
  split at h <;> cases h <;> rfl

/-- A lost write is a failure. -/
theorem failure_writeVmeNoted
    (h : writeVmeNoted outside run baseAddress registerOffset value name = (false, run')) :
    run'.failure ≠ "" := by
  unfold writeVmeNoted at h
  split at h
  · cases h
  · cases h
    exact appendFailure_ne _ (registerOperationError_ne _ _ _ _)

/-- A reading adds one event, and a failure if it is lost. -/
theorem stopStep_readVmeNoted {P : CrateEvent → Prop}
    (hP : ∀ answer, P (.readVme baseAddress registerOffset answer)) {answer : Option UInt16}
    (h : readVmeNoted outside run baseAddress registerOffset name = (answer, run')) :
    StopStep P run run' := by
  unfold readVmeNoted Surroundings.readVmeD16 at h
  split at h
  next heq =>
    cases h
    obtain ⟨-, rfl⟩ := Prod.mk.inj heq
    exact .logged (hP _) run
  next heq =>
    cases h
    obtain ⟨-, rfl⟩ := Prod.mk.inj heq
    refine StopStep.fail ?_ (registerOperationError_ne _ _ _ _)
    exact .logged (hP _) run

/-- A reading that answers is on the log. -/
theorem log_readVmeNoted
    (h : readVmeNoted outside run baseAddress registerOffset name = (some value, run')) :
    run'.log = .readVme baseAddress registerOffset (.ok value) :: run.log := by
  unfold readVmeNoted Surroundings.readVmeD16 at h
  split at h
  next heq =>
    cases h
    obtain ⟨hanswer, rfl⟩ := Prod.mk.inj heq
    rw [hanswer]
  next => cases h

/-- A lost reading is a failure. -/
theorem failure_readVmeNoted
    (h : readVmeNoted outside run baseAddress registerOffset name = (none, run')) :
    run'.failure ≠ "" := by
  unfold readVmeNoted at h
  split at h
  · cases h
  · cases h
    exact appendFailure_ne _ (registerOperationError_ne _ _ _ _)

end

/-! ### The target and the modules that were isolated

The target is stopped and read back. A module that was isolated is read once more, and one that runs
again is stopped a second time; what is read last is a zero, or a failure is noted. -/

/-- The event is about the acquisition of one module, or about none. -/
def OfModule (baseAddress : UInt32) (event : CrateEvent) : Prop :=
  ¬ event.IsRemoval ∧
    ∀ other, other ≠ baseAddress →
      event.Touches other diagnosticAcquisitionControlRegister = false

/-- The event does not remove the journal. -/
def KeepsJournal (event : CrateEvent) : Prop := ¬ event.IsRemoval

section

variable (outside : Surroundings)

/-- A write to the module concerns it. -/
theorem ofModule_writeVme (baseAddress : UInt32) (registerOffset value : UInt16)
    (fault : Option Fault) :
    OfModule baseAddress (.writeVme baseAddress registerOffset value fault) := by
  refine ⟨id, fun other hother => ?_⟩
  simp [CrateEvent.Touches, hother.symm]

/-- So does a reading from it. -/
theorem ofModule_readVme (baseAddress : UInt32) (registerOffset : UInt16)
    (answer : Except String UInt16) :
    OfModule baseAddress (.readVme baseAddress registerOffset answer) := by
  refine ⟨id, fun other hother => ?_⟩
  simp [CrateEvent.Touches, hother.symm]

/-- The target has read zero, unless a failure was noted. -/
theorem stopStep_stopTarget (run : AcquisitionRun) :
    StopStep KeepsJournal run (stopTarget outside run) ∧
      ((stopTarget outside run).failure = "" →
        LastReadZero run.acquisition.baseAddress diagnosticAcquisitionControlRegister
          (stopTarget outside run).log) := by
  unfold stopTarget
  split
  -- the stop command was lost
  next stopped hstop =>
    exact ⟨stopStep_writeVmeNoted (fun _ => id) hstop,
      fun hfailure => absurd hfailure (failure_writeVmeNoted hstop)⟩
  next stopped hstop =>
    have hstopped : StopStep KeepsJournal run
        (stopped.setAcquisition { stopped.acquisition with moduleStopSent := true }) :=
      (stopStep_writeVmeNoted (fun _ => id) hstop).setAcquisition rfl
    dsimp only
    split
    next hread =>
      exact ⟨hstopped.trans (stopStep_readVmeNoted (fun _ => id) hread),
        fun hfailure => absurd hfailure (failure_readVmeNoted hread)⟩
    next stoppedReadback checked hread =>
      have hchecked := hstopped.trans (stopStep_readVmeNoted (fun _ => id) hread)
      split
      -- the module still acquires
      next hnonzero =>
        exact ⟨hchecked.fail (by decide),
          fun hfailure => absurd hfailure (appendFailure_ne _ (by decide))⟩
      next hzero =>
        refine ⟨hchecked, fun _ => ?_⟩
        rw [log_readVmeNoted hread, not_not.mp hzero, ← hstopped.baseAddress]
        exact lastReadZero_read _ _ _

/-- A module that could be stopped again reads zero now, or what it reads is not zero. -/
theorem stopStep_stopRestarted (isolation : DiagnosticModuleIsolation)
    (acquisitionReadback : UInt16) (run : AcquisitionRun) :
    StopStep (OfModule isolation.baseAddress) run
        (stopRestarted outside isolation acquisitionReadback run).2.2 ∧
      (stopRestarted outside isolation acquisitionReadback run).1.baseAddress =
        isolation.baseAddress ∧
      ((stopRestarted outside isolation acquisitionReadback run).2.2.failure = "" →
        (stopRestarted outside isolation acquisitionReadback run).2.1 = 0 →
          LastReadZero isolation.baseAddress diagnosticAcquisitionControlRegister
            (stopRestarted outside isolation acquisitionReadback run).2.2.log) := by
  unfold stopRestarted
  split
  next stopSent stopped hstop =>
    have hstopped := stopStep_writeVmeNoted (ofModule_writeVme isolation.baseAddress _ _) hstop
    dsimp only
    split
    next hsent =>
      split
      next hread =>
        exact ⟨hstopped.trans (stopStep_readVmeNoted (ofModule_readVme _ _) hread), rfl,
          fun hfailure => absurd hfailure (failure_readVmeNoted hread)⟩
      next stoppedReadback checked hread =>
        refine ⟨hstopped.trans (stopStep_readVmeNoted (ofModule_readVme _ _) hread), rfl,
          fun _ hzero => ?_⟩
        rw [log_readVmeNoted hread, show stoppedReadback = 0 from hzero]
        exact lastReadZero_read _ _ _
    next hsent =>
      rw [Bool.not_eq_true] at hsent
      subst hsent
      exact ⟨hstopped, rfl, fun hfailure => absurd hfailure (failure_writeVmeNoted hstop)⟩

/-- The resets of a restarted module do not touch its acquisition register. -/
theorem stopStep_resetRestarted (isolation : DiagnosticModuleIsolation) (run : AcquisitionRun) :
    StopStep (fun event => OfModule isolation.baseAddress event ∧
        ∀ base, event.Touches base diagnosticAcquisitionControlRegister = false) run
        (resetRestarted outside isolation run).2 ∧
      (resetRestarted outside isolation run).1.baseAddress = isolation.baseAddress ∧
      (resetRestarted outside isolation run).1.stopVerified = isolation.stopVerified := by
  have hreset (registerOffset value : UInt16)
      (hoffset : registerOffset ≠ diagnosticAcquisitionControlRegister) (fault : Option Fault) :
      OfModule isolation.baseAddress (.writeVme isolation.baseAddress registerOffset value fault) ∧
        ∀ base, CrateEvent.Touches base diagnosticAcquisitionControlRegister
          (.writeVme isolation.baseAddress registerOffset value fault) = false := by
    refine ⟨ofModule_writeVme _ _ _ _, fun base => ?_⟩
    simp [CrateEvent.Touches, hoffset]
  unfold resetRestarted
  split
  next hfifo =>
    split
    next hreadout =>
      exact ⟨(stopStep_writeVmeNoted (hreset _ _ (by decide)) hfifo).trans
        (stopStep_writeVmeNoted (hreset _ _ (by decide)) hreadout), rfl, rfl⟩

/-- A module that was isolated reads zero when it has been cleaned up, unless a failure was noted. -/
theorem stopStep_cleanUpModule (isolation : DiagnosticModuleIsolation) (run : AcquisitionRun) :
    StopStep (OfModule isolation.baseAddress) run (cleanUpModule outside isolation run).2 ∧
      (isolation.quiescenceAttempted → (cleanUpModule outside isolation run).2.failure = "" →
        LastReadZero isolation.baseAddress diagnosticAcquisitionControlRegister
          (cleanUpModule outside isolation run).2.log) := by
  unfold cleanUpModule
  split
  next hattempted =>
    refine ⟨.refl run, fun h => ?_⟩
    rw [h] at hattempted
    cases hattempted
  next =>
    split
    next hread =>
      exact ⟨stopStep_readVmeNoted (ofModule_readVme _ _) hread,
        fun _ hfailure => absurd hfailure (failure_readVmeNoted hread)⟩
    next found read hread =>
      have hreadStep := stopStep_readVmeNoted (ofModule_readVme isolation.baseAddress _) hread
      dsimp only
      -- what is known once the module has been stopped again where that was needed
      obtain ⟨stoppedIsolation, readback, stopped, hstopped, hstep, hbase, hzero⟩ :
          ∃ stoppedIsolation readback stopped,
            (if found ≠ 0 then stopRestarted outside isolation found read
              else (isolation, found, read)) = (stoppedIsolation, readback, stopped) ∧
            StopStep (OfModule isolation.baseAddress) read stopped ∧
            stoppedIsolation.baseAddress = isolation.baseAddress ∧
            (stopped.failure = "" → readback = 0 →
              LastReadZero isolation.baseAddress diagnosticAcquisitionControlRegister
                stopped.log) := by
        split
        next => exact ⟨_, _, _, rfl, stopStep_stopRestarted outside isolation found read⟩
        next hfound =>
          refine ⟨_, _, _, rfl, .refl read, rfl, fun _ hzero => ?_⟩
          rw [log_readVmeNoted hread, hzero]
          exact lastReadZero_read _ _ _
      rw [hstopped]
      dsimp only
      obtain ⟨resetIsolation, reset, hreset, hresetStep, hresetBase, hverified, hkept⟩ :
          ∃ resetIsolation reset,
            (if decide (readback = 0) = true ∧ found ≠ 0 then
              resetRestarted outside { stoppedIsolation with
                acquisitionStateAfter := readback
                stopVerified := decide (readback = 0) } stopped
              else ({ stoppedIsolation with
                acquisitionStateAfter := readback
                stopVerified := decide (readback = 0) }, stopped)) = (resetIsolation, reset) ∧
            StopStep (OfModule isolation.baseAddress) stopped reset ∧
            resetIsolation.baseAddress = isolation.baseAddress ∧
            resetIsolation.stopVerified = decide (readback = 0) ∧
            ∀ base, LastReadZero base diagnosticAcquisitionControlRegister stopped.log →
              LastReadZero base diagnosticAcquisitionControlRegister reset.log := by
        split
        next =>
          have hstep := stopStep_resetRestarted outside { stoppedIsolation with
            acquisitionStateAfter := readback
            stopVerified := decide (readback = 0) } stopped
          refine ⟨_, _, rfl, ?_, hstep.2.1.trans hbase, hstep.2.2, fun base hlast => ?_⟩
          · rw [← hbase]
            exact hstep.1.mono fun _ h => h.1
          · exact hlast.extend (hstep.1.extends_log.mono fun _ h => h.2 base)
        next => exact ⟨_, _, rfl, .refl stopped, hbase, rfl, fun _ => id⟩
      rw [hreset]
      dsimp only
      have hrun := (hreadStep.trans hstep).trans hresetStep
      split
      next hclean =>
        have hread : readback = 0 := by
          simp only [Bool.and_eq_true, hverified, decide_eq_true_eq] at hclean
          exact hclean.1.1
        exact ⟨hrun.setAcquisition rfl,
          fun _ hfailure => hkept _ (hzero (hresetStep.failure hfailure) hread)⟩
      next =>
        have hmessage : "Non-target cleanup failed at " ++
            hexadecimal32 resetIsolation.baseAddress ++ "." ≠ "" := by
          iterate 2 apply append_ne
          decide
        exact ⟨hrun.fail hmessage, fun _ hfailure => absurd hfailure (appendFailure_ne _ hmessage)⟩

/-- What was read as zero before is read as zero still, also of the module itself. -/
theorem lastReadZero_cleanUpModule (isolation : DiagnosticModuleIsolation) {run : AcquisitionRun}
    (hfailure : (cleanUpModule outside isolation run).2.failure = "") {base : UInt32}
    (hlast : LastReadZero base diagnosticAcquisitionControlRegister run.log) :
    LastReadZero base diagnosticAcquisitionControlRegister
      (cleanUpModule outside isolation run).2.log := by
  obtain ⟨hstep, hzero⟩ := stopStep_cleanUpModule outside isolation run
  by_cases hbase : base = isolation.baseAddress
  · subst hbase
    by_cases hattempted : isolation.quiescenceAttempted
    · exact hzero hattempted hfailure
    · rw [cleanUpModule, if_pos (by simpa using hattempted)]
      exact hlast
  · exact hlast.extend (hstep.extends_log.mono fun _ h => h.2 base hbase)

/-- The modules one after the other. -/
theorem stopStep_cleanUpModules (isolations : List DiagnosticModuleIsolation)
    (run : AcquisitionRun) :
    StopStep KeepsJournal run (cleanUpModules outside isolations run).2 ∧
      ((cleanUpModules outside isolations run).2.failure = "" →
        (∀ base, LastReadZero base diagnosticAcquisitionControlRegister run.log →
          LastReadZero base diagnosticAcquisitionControlRegister
            (cleanUpModules outside isolations run).2.log) ∧
        ∀ isolation ∈ isolations, isolation.quiescenceAttempted →
          LastReadZero isolation.baseAddress diagnosticAcquisitionControlRegister
            (cleanUpModules outside isolations run).2.log) := by
  induction isolations generalizing run with
  | nil => exact ⟨.refl run, fun _ => ⟨fun _ => id, fun _ h => nomatch h⟩⟩
  | cons isolation isolations ih =>
      obtain ⟨hhead, hzero⟩ := stopStep_cleanUpModule outside isolation run
      obtain ⟨htail, hrest⟩ := ih (cleanUpModule outside isolation run).2
      refine ⟨(hhead.mono fun _ h => h.1).trans htail, fun hfailure => ?_⟩
      have hmiddle := htail.failure hfailure
      obtain ⟨hkept, hisolations⟩ := hrest hfailure
      refine ⟨fun base hlast => hkept base (lastReadZero_cleanUpModule outside isolation hmiddle
        hlast), fun other hother hattempted => ?_⟩
      rcases List.mem_cons.mp hother with rfl | hother
      · exact hkept _ (hzero hattempted hmiddle)
      · exact hisolations other hother hattempted

/-- All modules that were isolated. -/
theorem stopStep_cleanUpIsolation (run : AcquisitionRun) :
    StopStep KeepsJournal run (cleanUpIsolation outside run) ∧
      ((cleanUpIsolation outside run).failure = "" →
        (∀ base, LastReadZero base diagnosticAcquisitionControlRegister run.log →
          LastReadZero base diagnosticAcquisitionControlRegister
            (cleanUpIsolation outside run).log) ∧
        ∀ isolation ∈ run.acquisition.moduleIsolation, isolation.quiescenceAttempted →
          LastReadZero isolation.baseAddress diagnosticAcquisitionControlRegister
            (cleanUpIsolation outside run).log) := by
  have hreset : StopStep KeepsJournal run (run.setAcquisition { run.acquisition with
      nonTargetModulesVerifiedStoppedOnCleanup := 0 }) := (StopStep.refl run).setAcquisition rfl
  obtain ⟨hmodules, hzero⟩ := stopStep_cleanUpModules outside run.acquisition.moduleIsolation
    (run.setAcquisition { run.acquisition with nonTargetModulesVerifiedStoppedOnCleanup := 0 })
  exact ⟨(hreset.trans hmodules).setAcquisition rfl, hzero⟩

end

/-! ### The controller

The daq mode and the registers of the stack are cleared in one write, and then read back one by one.
-/

/-- The event is about the local registers of the controller. -/
def OfController (event : CrateEvent) : Prop :=
  ¬ event.IsRemoval ∧ ∀ base registerOffset, event.Touches base registerOffset = false

section

variable (outside : Surroundings)

/-- A reading of zero is the last one of its register. -/
theorem lastReadBackZero_read {log : CrateLog} {address : UInt16} {values : List UInt32}
    (hvalues : values.head? = some 0) {other : UInt16}
    (h : other = address ∨ LastReadBackZero other log) :
    LastReadBackZero other (.readLocal [address] (.ok values) :: log) := by
  by_cases hother : other = address
  · subst hother
    exact ⟨values, List.find?_cons_of_pos (by simp [CrateEvent.TouchesLocal]), hvalues⟩
  · refine (h.resolve_left hother).extend (.single ?_)
    simp [CrateEvent.TouchesLocal, hother]

/-- The registers of the controller are read back one by one. -/
theorem stopStep_verifyZero (cleanups : List (UInt16 × UInt32)) (run : AcquisitionRun) :
    StopStep OfController run (verifyZero outside cleanups run).2 ∧
      ((verifyZero outside cleanups run).1 = true →
        (∀ address, LastReadBackZero address run.log →
          LastReadBackZero address (verifyZero outside cleanups run).2.log) ∧
        ∀ cleanup ∈ cleanups,
          LastReadBackZero cleanup.1 (verifyZero outside cleanups run).2.log) := by
  induction cleanups generalizing run with
  | nil => exact ⟨.refl run, fun _ => ⟨fun _ => id, fun _ h => nomatch h⟩⟩
  | cons cleanup cleanups ih =>
      obtain ⟨address, value⟩ := cleanup
      have hevent (answer : Except String (List UInt32)) :
          OfController (.readLocal [address] answer) := ⟨id, fun _ _ => rfl⟩
      unfold verifyZero
      split
      next error log hread =>
        obtain ⟨-, rfl⟩ := Prod.mk.inj hread
        exact ⟨(StopStep.logged (hevent _) run).fail (append_ne (by decide) _), fun h => nomatch h⟩
      next values log hread =>
        obtain ⟨hanswer, rfl⟩ := Prod.mk.inj hread
        rw [hanswer]
        split
        next hvalues =>
          obtain ⟨hrest, hzero⟩ :=
            ih { run with log := .readLocal [address] (.ok values) :: run.log }
          refine ⟨(StopStep.logged (hevent _) run).trans hrest, fun hall => ?_⟩
          obtain ⟨hkept, hcleanups⟩ := hzero hall
          refine ⟨fun other hother => hkept other (lastReadBackZero_read hvalues (.inr hother)),
            fun other hother => ?_⟩
          rcases List.mem_cons.mp hother with rfl | hother
          · exact hkept _ (lastReadBackZero_read hvalues (.inl rfl))
          · exact hcleanups other hother
        next =>
          exact ⟨(StopStep.logged (hevent _) run).fail (by decide), fun h => nomatch h⟩

/-- The controller is cleaned up and read back. -/
theorem stopStep_cleanUpController (run : AcquisitionRun) :
    StopStep OfController run (cleanUpController outside run) ∧
      ((cleanUpController outside run).failure = "" →
        (cleanUpController outside run).acquisition.daqModeDisabled = true →
          ∀ cleanup ∈ cleanupWrites run.prepared,
            LastReadBackZero cleanup.1 (cleanUpController outside run).log) := by
  have hevent (fault : Option Fault) :
      OfController (.writeLocal (cleanupWrites run.prepared) fault) := ⟨id, fun _ _ => rfl⟩
  unfold cleanUpController
  split
  next error log hwrite =>
    obtain ⟨-, rfl⟩ := Prod.mk.inj hwrite
    have hmessage : "Could not disable MVLC DAQ mode and the diagnostic stack: " ++ error ≠ "" :=
      append_ne (by decide) _
    exact ⟨(StopStep.logged (hevent _) run).fail hmessage,
      fun hfailure => absurd hfailure (appendFailure_ne _ hmessage)⟩
  next log hwrite =>
    have hwritten : StopStep OfController run { run with log } := by
      obtain ⟨-, rfl⟩ := Prod.mk.inj hwrite
      exact .logged (hevent _) run
    obtain ⟨hread, hzero⟩ :=
      stopStep_verifyZero outside (cleanupWrites run.prepared) { run with log }
    exact ⟨(hwritten.trans hread).setAcquisition rfl, fun _ hdisabled => (hzero hdisabled).2⟩

end

/-! ### The whole call

The ownership is checked first, and nothing is sent if the session is not found. After the hardware
part the removal of the journal is the last event. -/

/-- What a call has seen of the session when it removes the journal. -/
structure SeenStopped (prepared : DiagnosticAcquisitionPreparationResult) (log : CrateLog) :
    Prop where
  target : LastReadZero prepared.acquisition.baseAddress diagnosticAcquisitionControlRegister log
  isolated : ∀ isolation ∈ prepared.acquisition.moduleIsolation, isolation.quiescenceAttempted →
    LastReadZero isolation.baseAddress diagnosticAcquisitionControlRegister log
  controller : ∀ cleanup ∈ cleanupWrites prepared, LastReadBackZero cleanup.1 log
  noPreview : prepared.recoveryRecord.previewRestoreRequired = false
  noSource : prepared.recoveryRecord.sourceRestoreRequired = false

/-- Only the plan, the record and the modules matter. -/
theorem SeenStopped.congr {prepared prepared' : DiagnosticAcquisitionPreparationResult}
    {log : CrateLog} (h : SeenStopped prepared' log)
    (hrecord : prepared'.recoveryRecord = prepared.recoveryRecord)
    (hplan : prepared'.readoutPlan = prepared.readoutPlan)
    (hbase : prepared'.acquisition.baseAddress = prepared.acquisition.baseAddress)
    (hisolation : prepared'.acquisition.moduleIsolation = prepared.acquisition.moduleIsolation) :
    SeenStopped prepared log where
  target := hbase ▸ h.target
  isolated := hisolation ▸ h.isolated
  controller := by
    have hcontroller := h.controller
    rwa [cleanupWrites, hrecord, hplan] at hcontroller
  noPreview := hrecord ▸ h.noPreview
  noSource := hrecord ▸ h.noSource

/-- Removing the journal is about no register. -/
theorem SeenStopped.logged {prepared : DiagnosticAcquisitionPreparationResult} {log : CrateLog}
    {error : Option String} {event : CrateEvent} (h : SeenStopped prepared log)
    (hevent : event = .removeJournal error) : SeenStopped prepared (event :: log) where
  target := h.target.extend (.single (hevent ▸ rfl))
  isolated := fun isolation hmem hattempted =>
    (h.isolated isolation hmem hattempted).extend (.single (hevent ▸ rfl))
  controller := fun cleanup hcleanup =>
    (h.controller cleanup hcleanup).extend (.single (hevent ▸ rfl))
  noPreview := h.noPreview
  noSource := h.noSource

section

variable (outside : Surroundings)

/-- Noting what is still to be restored adds no event. -/
theorem retainPendingRestorations_log (run : AcquisitionRun) :
    (retainPendingRestorations run).log = run.log := by
  unfold retainPendingRestorations
  dsimp only
  split <;> split <;> rfl

/-- With a restoration pending a failure is noted. -/
theorem retainPendingRestorations_eq {run : AcquisitionRun}
    (h : (retainPendingRestorations run).failure = "") :
    retainPendingRestorations run = run ∧
      run.prepared.recoveryRecord.previewRestoreRequired = false ∧
      run.prepared.recoveryRecord.sourceRestoreRequired = false := by
  unfold retainPendingRestorations at h ⊢
  dsimp only at h ⊢
  by_cases hpreview : run.prepared.recoveryRecord.previewRestoreRequired
  · rw [if_pos hpreview] at h
    split at h
    · exact absurd h (appendFailure_ne _ (by decide))
    · exact absurd h (appendFailure_ne _ (by decide))
  · rw [if_neg hpreview] at h ⊢
    split at h
    next => exact absurd h (appendFailure_ne _ (by decide))
    next hsource =>
      rw [if_neg hsource]
      exact ⟨rfl, Bool.not_eq_true _ ▸ hpreview, Bool.not_eq_true _ ▸ hsource⟩

/-- Stopping the target leaves the other modules as they are noted. -/
theorem moduleIsolation_stopTarget (run : AcquisitionRun) :
    (stopTarget outside run).acquisition.moduleIsolation = run.acquisition.moduleIsolation := by
  unfold stopTarget
  split
  next heq => exact congrArg (·.acquisition.moduleIsolation) (prepared_writeVmeNoted heq)
  next stopped heq =>
    have hstopped := congrArg (·.acquisition.moduleIsolation) (prepared_writeVmeNoted heq)
    dsimp only
    split
    next heq =>
      exact (congrArg (·.acquisition.moduleIsolation) (prepared_readVmeNoted heq)).trans hstopped
    next heq =>
      have hread :=
        (congrArg (·.acquisition.moduleIsolation) (prepared_readVmeNoted heq)).trans hstopped
      split <;> exact hread

/-- The event changes nothing in the crate and leaves the journal. -/
def OnlyLooks (event : CrateEvent) : Prop := ¬ event.IsWrite ∧ ¬ event.IsRemoval

/-- The check reads once, and the call goes on only if the session was found. -/
theorem checkStopOwnership_cases (check : DiagnosticStopOwnershipCheck) (run : AcquisitionRun) :
    (checkStopOwnership outside check run).1 = true ∧
        StopStep KeepsJournal run (checkStopOwnership outside check run).2 ∧
        (checkStopOwnership outside check run).2.acquisition.moduleIsolation =
          run.acquisition.moduleIsolation ∧
        (check = .required →
          (evaluateOwnershipFingerprint run.prepared
            (outside.readLocal run.log (fingerprintAddresses run.prepared))).outcome = .verified) ∨
      (checkStopOwnership outside check run).1 = false ∧
        (checkStopOwnership outside check run).2.acquisition.state = .failed ∧
        Extends OnlyLooks run.log
          (checkStopOwnership outside check run).2.log := by
  have hread (answer : Except String (List UInt32)) :
      OnlyLooks (.readLocal (fingerprintAddresses run.prepared) answer) := ⟨id, id⟩
  have hclose (error : Option String) : OnlyLooks (.dataPath .close error) := ⟨id, id⟩
  unfold checkStopOwnership Surroundings.readLocalRegisters
  split
  next hcheck =>
    dsimp only
    split
    next => exact .inr ⟨rfl, rfl, (Extends.single (hread _)).cons (hclose _)⟩
    next => exact .inr ⟨rfl, rfl, (Extends.single (hread _)).cons (hclose _)⟩
    next houtcome =>
      exact .inl ⟨rfl, StopStep.setAcquisition (.logged (hread _).2 run) rfl, rfl,
        fun _ => houtcome⟩
  next hcheck => exact .inl ⟨rfl, .refl run, rfl, fun h => absurd h hcheck⟩

/-- What the call does to the hardware and notes of it, once the controller is this session's. -/
def stopHardware (run : AcquisitionRun) : AcquisitionRun :=
  let run := cleanUpController outside (cleanUpIsolation outside (stopTarget outside run))
  retainPendingRestorations { run with log := (outside.callDataPath run.log .close).2 }

/-- The stop does not remove the journal yet. -/
theorem stopStep_stopHardware (run : AcquisitionRun) :
    Extends KeepsJournal run.log (stopHardware outside run).log := by
  unfold stopHardware
  rw [retainPendingRestorations_log]
  refine Extends.cons ?_ id
  exact (((stopStep_stopTarget outside run).1.trans
    (stopStep_cleanUpIsolation outside _).1).trans
      ((stopStep_cleanUpController outside _).1.mono fun _ h => h.1)).extends_log

/-- With nothing noted and the controller found cleared, the session has been seen stopped. -/
theorem seenStopped_stopHardware {run : AcquisitionRun}
    (h : stoppedCleanly (stopHardware outside run) = true) :
    SeenStopped run.prepared (stopHardware outside run).log := by
  have hclean : (stopHardware outside run).failure = "" ∧
      (stopHardware outside run).acquisition.daqModeDisabled = true := by
    simp only [stoppedCleanly, Bool.and_eq_true, decide_eq_true_eq] at h
    exact ⟨h.1.1.1.1, h.1.1.2⟩
  obtain ⟨hfailure, hdisabled⟩ := hclean
  unfold stopHardware at hfailure hdisabled ⊢
  obtain ⟨hretain, hpreview, hsource⟩ := retainPendingRestorations_eq hfailure
  rw [hretain] at hfailure hdisabled ⊢
  obtain ⟨htarget, hread⟩ := stopStep_stopTarget outside run
  obtain ⟨hisolation, hisolated⟩ := stopStep_cleanUpIsolation outside (stopTarget outside run)
  obtain ⟨hcontroller, hzero⟩ :=
    stopStep_cleanUpController outside (cleanUpIsolation outside (stopTarget outside run))
  have hbefore := hcontroller.failure hfailure
  obtain ⟨hkept, hmodules⟩ := hisolated hbefore
  have hrecord := hcontroller.recoveryRecord.trans
    (hisolation.recoveryRecord.trans htarget.recoveryRecord)
  have hplan := hisolation.readoutPlan.trans htarget.readoutPlan
  have hwrites : cleanupWrites (cleanUpIsolation outside (stopTarget outside run)).prepared =
      cleanupWrites run.prepared := by
    rw [cleanupWrites, cleanupWrites, hplan, hisolation.recoveryRecord, htarget.recoveryRecord]
  -- what comes after a module's cleanup does not touch its acquisition register
  have hquiet (base : UInt32)
      (hlast : LastReadZero base diagnosticAcquisitionControlRegister
        (cleanUpIsolation outside (stopTarget outside run)).log) :
      LastReadZero base diagnosticAcquisitionControlRegister (outside.callDataPath
        (cleanUpController outside (cleanUpIsolation outside (stopTarget outside run))).log
          .close).2 :=
    (hlast.extend (hcontroller.extends_log.mono fun _ h => h.2 base _)).extend (.single rfl)
  exact {
    target := hquiet _ (hkept _ (hread (hisolation.failure hbefore)))
    isolated := fun isolation hmem hattempted =>
      hquiet _ (hmodules isolation (by rwa [moduleIsolation_stopTarget]) hattempted)
    controller := fun cleanup hcleanup =>
      (hzero hfailure hdisabled cleanup (by rwa [hwrites])).extend (.single rfl)
    noPreview := by rw [← hrecord]; exact hpreview
    noSource := by rw [← hrecord]; exact hsource }

/-- The journal is removed after a clean stop only, and the removal is the last that is done. -/
theorem removeStoppedJournal_cases (run : AcquisitionRun) :
    (stoppedCleanly run = false ∧ removeStoppedJournal outside run = run) ∨
      (stoppedCleanly run = true ∧ (∃ error,
        (removeStoppedJournal outside run).log = .removeJournal (some error) :: run.log) ∧
        (removeStoppedJournal outside run).failure ≠ "") ∨
      (stoppedCleanly run = true ∧
        (removeStoppedJournal outside run).log = .removeJournal none :: run.log ∧
        (removeStoppedJournal outside run).failure = "") := by
  unfold removeStoppedJournal
  split
  next hcleanly =>
    refine .inr ?_
    have hfailure : run.failure = "" := by
      simp only [stoppedCleanly, Bool.and_eq_true, decide_eq_true_eq] at hcleanly
      exact hcleanly.1.1.1.1
    split
    next error log hremove =>
      obtain ⟨herror, rfl⟩ := Prod.mk.inj hremove
      rw [herror]
      exact .inl ⟨hcleanly, ⟨error, rfl⟩, appendFailure_ne _ (append_ne (by decide) _)⟩
    next log hremove =>
      obtain ⟨herror, rfl⟩ := Prod.mk.inj hremove
      rw [herror]
      exact .inr ⟨hcleanly, rfl, hfailure⟩
  next hcleanly => exact .inl ⟨Bool.not_eq_true _ ▸ hcleanly, rfl⟩

/-- The result says stopped if the stop was clean and nothing failed. -/
theorem state_finishStop (cleanly : Bool) (run : AcquisitionRun) :
    (finishStop cleanly run).acquisition.state = .stopped ↔
      run.failure = "" ∧ cleanly = true := by
  unfold finishStop
  by_cases h : run.failure = "" ∧ cleanly = true
  · simp [AcquisitionRun.setAcquisition, AcquisitionRun.acquisition, h]
  · have hdecide : (decide (run.failure = "") && cleanly) = false := by
      rw [Bool.eq_false_iff, ne_eq, Bool.and_eq_true, decide_eq_true_eq]
      exact h
    simp only [AcquisitionRun.setAcquisition, AcquisitionRun.acquisition, hdecide, h, iff_false]
    decide

/-- Where the call starts. -/
def stopStart (prepared : DiagnosticAcquisitionPreparationResult) : AcquisitionRun :=
  { log := []
    prepared := { prepared with
      acquisition := { prepared.acquisition with state := .stopping } } }

/-- The rest of the call, once it is known who owns the controller. -/
def stopOwned : Bool × AcquisitionRun → AcquisitionRun
  | (false, run) => run
  | (true, run) =>
    finishStop (stoppedCleanly (stopHardware outside run))
      (removeStoppedJournal outside (stopHardware outside run))

/-- A stop asks for the ownership and then goes on. -/
theorem stopDiagnosticAcquisition_eq (prepared : DiagnosticAcquisitionPreparationResult)
    (check : DiagnosticStopOwnershipCheck) :
    stopDiagnosticAcquisition outside [] prepared check =
      stopOwned outside (checkStopOwnership outside check (stopStart prepared)) :=
  rfl

/-- Without the ownership it ends there. -/
theorem stopDiagnosticAcquisition_of_lost {prepared : DiagnosticAcquisitionPreparationResult}
    {check : DiagnosticStopOwnershipCheck}
    (h : (checkStopOwnership outside check (stopStart prepared)).1 = false) :
    stopDiagnosticAcquisition outside [] prepared check =
      (checkStopOwnership outside check (stopStart prepared)).2 := by
  rw [stopDiagnosticAcquisition_eq]
  generalize checkStopOwnership outside check (stopStart prepared) = answer at h ⊢
  obtain ⟨owned, run⟩ := answer
  obtain rfl : owned = false := h
  rfl

theorem stopDiagnosticAcquisition_of_owned {prepared : DiagnosticAcquisitionPreparationResult}
    {check : DiagnosticStopOwnershipCheck}
    (h : (checkStopOwnership outside check (stopStart prepared)).1 = true) :
    stopDiagnosticAcquisition outside [] prepared check =
      let run := stopHardware outside (checkStopOwnership outside check (stopStart prepared)).2
      finishStop (stoppedCleanly run) (removeStoppedJournal outside run) := by
  rw [stopDiagnosticAcquisition_eq]
  generalize checkStopOwnership outside check (stopStart prepared) = answer at h ⊢
  obtain ⟨owned, run⟩ := answer
  obtain rfl : owned = true := h
  rfl

/-- After the hardware part the journal is removed if the session has been seen stopped. -/
theorem finishStop_removeStoppedJournal {prepared : DiagnosticAcquisitionPreparationResult}
    {run : AcquisitionRun} (hkept : ∀ event ∈ run.log, KeepsJournal event)
    (hseen : stoppedCleanly run = true → SeenStopped prepared run.log) :
    let finished := finishStop (stoppedCleanly run) (removeStoppedJournal outside run)
    (finished.acquisition.state = .stopped ↔ CrateEvent.removeJournal none ∈ finished.log) ∧
      ((∃ event ∈ finished.log, event.IsRemoval) → SeenStopped prepared finished.log) := by
  intro finished
  have hlog : finished.log = (removeStoppedJournal outside run).log := rfl
  rw [hlog, state_finishStop]
  obtain ⟨hcleanly, hsame⟩ | ⟨hcleanly, ⟨error, hremoved⟩, hfailure⟩ |
      ⟨hcleanly, hremoved, hfailure⟩ := removeStoppedJournal_cases outside run
  · rw [hsame]
    refine ⟨⟨fun h => ?_, fun h => absurd trivial (hkept _ h)⟩, ?_⟩
    · rw [hcleanly] at h
      cases h.2
    · rintro ⟨event, hevent, hremoval⟩
      exact absurd hremoval (hkept event hevent)
  · rw [hremoved]
    refine ⟨⟨fun h => absurd h.1 hfailure, fun h => ?_⟩, fun _ => ?_⟩
    · rcases List.mem_cons.mp h with h | h
      · cases h
      · exact absurd trivial (hkept _ h)
    · exact (hseen hcleanly).logged rfl
  · rw [hremoved]
    exact ⟨⟨fun _ => List.mem_cons_self, fun _ => ⟨hfailure, hcleanly⟩⟩,
      fun _ => (hseen hcleanly).logged rfl⟩

theorem stopDiagnosticAcquisition_stopped (prepared : DiagnosticAcquisitionPreparationResult)
    (check : DiagnosticStopOwnershipCheck) :
    let run := stopDiagnosticAcquisition outside [] prepared check
    (run.acquisition.state = .stopped ↔ CrateEvent.removeJournal none ∈ run.log) ∧
      ((∃ event ∈ run.log, event.IsRemoval) → SeenStopped prepared run.log) ∧
      (check = .required →
        (evaluateOwnershipFingerprint prepared
          (outside.readLocal [] (fingerprintAddresses prepared))).outcome ≠ .verified →
        ∀ event ∈ run.log, ¬ event.IsWrite ∧ ¬ event.IsRemoval) := by
  intro run
  obtain ⟨howned, hchecked, hmodules, hverified⟩ | ⟨hlost, hfailed, hlooked⟩ :=
    checkStopOwnership_cases outside check (stopStart prepared)
  · -- the module is this session's own, or no check was asked for
    have hrun : run = _ := stopDiagnosticAcquisition_of_owned outside howned
    rw [hrun]
    have hall := hchecked.extends_log.trans (stopStep_stopHardware outside _)
    obtain ⟨hstate, hremoval⟩ := @finishStop_removeStoppedJournal outside prepared _
      (fun event hevent => (hall.mem hevent).resolve_left List.not_mem_nil)
      fun hcleanly => (seenStopped_stopHardware outside hcleanly).congr hchecked.recoveryRecord
        hchecked.readoutPlan hchecked.baseAddress hmodules
    exact ⟨hstate, hremoval, fun hcheck houtcome => absurd (hverified hcheck) houtcome⟩
  · -- the fingerprint did not verify: the run has only looked
    have hrun : run = _ := stopDiagnosticAcquisition_of_lost outside hlost
    rw [hrun]
    have hall : ∀ event ∈ (checkStopOwnership outside check (stopStart prepared)).2.log,
        OnlyLooks event := fun event hevent =>
      (hlooked.mem hevent).resolve_left List.not_mem_nil
    refine ⟨?_, ?_, fun _ _ => hall⟩
    · rw [hfailed]
      refine ⟨fun h => ?_, fun h => ?_⟩
      · cases h
      · exact absurd trivial (hall _ h).2
    · rintro ⟨event, hevent, hremoval⟩
      exact absurd hremoval (hall event hevent).2

end

end Fidget
