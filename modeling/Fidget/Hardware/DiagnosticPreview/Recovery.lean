import Fidget.Hardware.DiagnosticPreview

/-!
# What a preview leaves in the journal

A preview that has sent its write must leave a way back: the original value read back from the
register, or in the journal. It does, except when the write or its readback fails and the rollback
or its readback fails too. The transaction then takes the preview to be inactive, because the write
was not verified, and relieves the journal of the value.

The stages up to the write are gone through once, each with a lemma that says what the run is like
behind it or that the run has failed. From `RecoveryArmed` on there are four cases: the write
verified or not, and if not, the rollback verified or not. Only one of the four loses the value, and
`WayBackLost` names it.

## Main results

- `preparePreview_cases`: the write is reached with the armed record on disk, or the run has failed
  before it with nothing sent.
- `disarmRecovery_of_unverified`: without a verified write the journal is relieved of the value,
  even if the rollback was not verified either.
- `applyDiagnosticParameterPreview_leavesWayBack_iff`: a preview leaves a way back unless it is
  `PreviewForgotten`.
- `applyDiagnosticParameterPreview_leavesWayBack_counterexample`: one that is forgotten, with a
  record that the journal accepts.
-/

namespace Fidget

/-! ### What the steps other than the writes leave alone

Whether a write was sent and verified is what the statement is about, so `KeepsWrites` collects what
every other step has in common. -/

/-- The second run has attempted and verified what the first has, and a failure of the first is one
of the second. -/
structure KeepsWrites (run run' : PreviewRun) : Prop where
  attempted : run'.result.writeAttempted = run.result.writeAttempted
  verified : run'.result.writeVerified = run.result.writeVerified
  rolledBack : run'.result.rollbackVerified = run.result.rollbackVerified
  failed : run.failure ≠ "" → run'.failure ≠ ""

theorem KeepsWrites.refl (run : PreviewRun) : KeepsWrites run run := ⟨rfl, rfl, rfl, id⟩

theorem KeepsWrites.trans {run run' run'' : PreviewRun} (h : KeepsWrites run run')
    (h' : KeepsWrites run' run'') : KeepsWrites run run'' where
  attempted := h'.attempted.trans h.attempted
  verified := h'.verified.trans h.verified
  rolledBack := h'.rolledBack.trans h.rolledBack
  failed := fun hfailed => h'.failed (h.failed hfailed)

theorem PreviewRun.failure_fail (run : PreviewRun) {message : String} (h : message ≠ "") :
    (run.fail message).failure ≠ "" := appendFailure_ne run.failure h

/-- Noting a failure sends nothing. -/
theorem keepsWrites_fail (run : PreviewRun) {message : String} (h : message ≠ "") :
    KeepsWrites run (run.fail message) := ⟨rfl, rfl, rfl, fun _ => run.failure_fail h⟩

/-- A failure that was noted stays noted. -/
theorem appendFailure_keeps {failure : String} (message : String) (h : failure ≠ "") :
    appendFailure failure message ≠ "" := by
  rw [appendFailure, if_pos h]
  exact append_ne (append_ne h " ") message

section Steps

variable (fault : PreviewSite → Option Fault) (save : JournalSaver)
  (cancellationRequested : Bool) (recoveryJournalPath : String)
  (definition : Fw2051ScpSettingDefinition) (request : PreviewTransactionRequest)
  (run : PreviewRun)

/-- Pausing is not the preview's write. -/
theorem keepsWrites_pausePreview : KeepsWrites run (pausePreview fault run) :=
  ⟨rfl, rfl, rfl, appendFailure_keeps _⟩

/-- Nor is a write to another register. -/
theorem keepsWrites_write (site : PreviewSite) (registerOffset value : UInt16) :
    KeepsWrites run (run.write fault site registerOffset value).2 := ⟨rfl, rfl, rfl, id⟩

/-- Nor is selecting the quad. -/
theorem keepsWrites_selectPreviewQuad : KeepsWrites run (selectPreviewQuad fault request run) := by
  unfold selectPreviewQuad
  split
  · have hwritten := keepsWrites_write fault run .select fw2051ScpSelectorRegister
      request.selectedQuad
    split
    next heq =>
      rw [heq] at hwritten
      exact hwritten.trans (keepsWrites_fail _ (registerOperationError_ne _ _ _ _))
    next heq =>
      rw [heq] at hwritten
      exact hwritten.trans ⟨rfl, rfl, rfl, id⟩
  · exact .refl run

/-- The current value is only read. -/
theorem keepsWrites_captureCurrentValue :
    KeepsWrites run (captureCurrentValue fault request run) := by
  unfold captureCurrentValue
  split
  · split
    · exact keepsWrites_fail run (registerOperationError_ne _ _ _ _)
    · dsimp only
      split
      · exact ⟨rfl, rfl, rfl, id⟩
      · exact ⟨rfl, rfl, rfl, id⟩
  · exact .refl run

/-- So is the dependency. -/
theorem keepsWrites_checkDependency :
    KeepsWrites run (checkDependency fault definition request run) := by
  unfold checkDependency
  split
  · dsimp only
    split
    · exact ⟨rfl, rfl, rfl, fun _ => PreviewRun.failure_fail _ (registerOperationError_ne _ _ _ _)⟩
    · split
      · exact ⟨rfl, rfl, rfl, id⟩
      · refine ⟨rfl, rfl, rfl, fun _ => PreviewRun.failure_fail _ ?_⟩
        iterate 10 apply append_ne
        decide
  · exact .refl run

/-- Comparing the value reads nothing. -/
theorem keepsWrites_checkCurrentValue : KeepsWrites run (checkCurrentValue request run) := by
  unfold checkCurrentValue
  split
  · refine keepsWrites_fail run ?_
    iterate 2 apply append_ne
    decide
  · split
    · refine keepsWrites_fail run ?_
      iterate 3 apply append_ne
      decide
    · exact .refl run

/-- Nor does asking for a cancellation. -/
theorem keepsWrites_checkCancellation :
    KeepsWrites run (checkCancellation cancellationRequested request run) := by
  unfold checkCancellation
  split
  · exact keepsWrites_fail run (append_ne (by decide) _)
  · exact .refl run

/-- Saving the record touches no hardware. -/
theorem keepsWrites_savePreviewRecoveryState (site : PreviewSave) :
    KeepsWrites run (savePreviewRecoveryState save recoveryJournalPath request run site).2 := by
  unfold savePreviewRecoveryState
  dsimp only
  split
  · exact .refl run
  · exact ⟨rfl, rfl, rfl, id⟩

/-- So does arming it. -/
theorem keepsWrites_armRecovery :
    KeepsWrites run (armRecovery save recoveryJournalPath request run) := by
  unfold armRecovery
  split
  · have hsaved := keepsWrites_savePreviewRecoveryState save recoveryJournalPath request run .arm
    split
    next heq =>
      rw [heq] at hsaved
      refine hsaved.trans (keepsWrites_fail _ ?_)
      iterate 2 apply append_ne
      decide
    next heq =>
      rw [heq] at hsaved
      exact hsaved.trans ⟨rfl, rfl, rfl, id⟩
  · exact .refl run

end Steps

/-! ### The way to the write

Pause, selection, capture, dependency, comparison, cancellation, arming: each stage needs the ones
before it, and `WayClear` is the conjunction of what they need. With it the run comes to the write
with the original value on record; without it no write is sent. -/

/-- Up to here nothing has gone wrong and nothing was written to the banks. -/
structure Unimpeded (bench : Bench) (session : DiagnosticAcquisitionPreparationResult)
    (run : PreviewRun) : Prop where
  succeeds : run.failure = ""
  banks : run.bench.banks = bench.banks
  session_eq : run.session = session
  attempted : run.result.writeAttempted = false
  verified : run.result.writeVerified = false
  rolledBack : run.result.rollbackVerified = false

/-- The bank of the request is selected. -/
structure QuadSelected (bench : Bench) (session : DiagnosticAcquisitionPreparationResult)
    (request : PreviewTransactionRequest) (run : PreviewRun) : Prop
    extends Unimpeded bench session run where
  selected : run.selectorSelected = true
  selector : run.bench.selector = request.selectedQuad

/-- What the register of the request holds before the call. -/
def liveValue (bench : Bench) (request : PreviewTransactionRequest) : UInt16 :=
  bench.banks (request.selectedQuad.toNat, request.registerOffset)

/-- The original value is captured. -/
structure OriginalCaptured (bench : Bench) (session : DiagnosticAcquisitionPreparationResult)
    (request : PreviewTransactionRequest) (run : PreviewRun) : Prop
    extends QuadSelected bench session request run where
  captured : run.result.originalCaptured = true
  original : run.result.originalValue = liveValue bench request

/-- The record that is saved before the write. -/
def armedRecord (bench : Bench) (session : DiagnosticAcquisitionPreparationResult)
    (request : PreviewTransactionRequest) : TunerRecoveryRecord :=
  previewRecoveryRecord session.recoveryRecord true request (liveValue bench request)

/-- The value to restore is in the journal. -/
structure RecoveryArmed (bench : Bench) (session : DiagnosticAcquisitionPreparationResult)
    (request : PreviewTransactionRequest) (run : PreviewRun) : Prop
    extends OriginalCaptured bench { session with
      recoveryRecord := armedRecord bench session request } request run where
  armed : run.recoveryRestoreArmed = true

section Way

variable {fault : PreviewSite → Option Fault} {save : JournalSaver}
  {cancellationRequested : Bool} {recoveryJournalPath : String}
  {definition : Fw2051ScpSettingDefinition} {request : PreviewTransactionRequest}
  {bench : Bench} {session : DiagnosticAcquisitionPreparationResult} {run : PreviewRun}

/-- A write that nothing disturbs takes effect. -/
theorem PreviewRun.write_of_success {site : PreviewSite} (h : fault site = none)
    (registerOffset value : UInt16) : run.write fault site registerOffset value =
      (none, { run with
        bench := run.bench.write registerOffset value
        sent := run.sent ++ [.vme registerOffset value (site = .park) (fault site)] }) := by
  rw [PreviewRun.write, h]
  rfl

/-- A disturbed one is reported, whether or not it took effect. -/
theorem PreviewRun.write_of_fault {site : PreviewSite} {failed : Fault}
    (h : fault site = some failed) (registerOffset value : UInt16) :
    run.write fault site registerOffset value = (some failed.error,
      { run with
        bench := if failed.takesEffect then run.bench.write registerOffset value else run.bench
        sent := run.sent ++ [.vme registerOffset value (site = .park) (fault site)] }) := by
  rw [PreviewRun.write, h]
  rfl

/-- Nothing interferes with the pause. -/
structure PauseUndisturbed (fault : PauseSite → Option Fault) : Prop where
  module : fault .module = none
  daqMode : fault .daqMode = none
  daqModeReadback : fault .daqModeReadback = none

/-- Undisturbed, the data taking is paused. -/
theorem pauseDiagnosticDataTaking_of_undisturbed {fault : PauseSite → Option Fault}
    (h : PauseUndisturbed fault) (bench : Bench) :
    pauseDiagnosticDataTaking fault bench =
      ({ modulePaused := true, daqModePaused := true },
        (bench.write diagnosticAcquisitionControlRegister 0).writeLocal
          [(diagnosticDaqModeRegister, 0)]) := by
  rw [pauseDiagnosticDataTaking, h.module, h.daqMode, h.daqModeReadback]
  simp [Bench.writeVmeD16, Bench.writeLocalRegisters, Bench.readLocalRegisters, Bench.writeLocal]

/-- Disturbed, the pause is reported as failed. -/
theorem pauseDiagnosticDataTaking_of_disturbed {fault : PauseSite → Option Fault}
    (h : ¬PauseUndisturbed fault) (bench : Bench) :
    (pauseDiagnosticDataTaking fault bench).1.error ≠ "" := by
  unfold pauseDiagnosticDataTaking
  cases hmodule : fault .module with
  -- whatever follows is appended to the first error
  | some failed =>
      have hstopped := registerOperationError_ne "write" "stop acquisition"
        diagnosticAcquisitionControlRegister failed.error
      dsimp only [Bench.writeVmeD16]
      split
      · exact appendFailure_keeps _ hstopped
      · split
        · exact appendFailure_keeps _ hstopped
        · split
          · exact hstopped
          · exact appendFailure_keeps _ hstopped
  | none =>
      cases hdaqMode : fault .daqMode with
      | some failed =>
          dsimp only [Bench.writeVmeD16, Bench.writeLocalRegisters]
          exact appendFailure_ne _
            (append_ne (by decide : "Could not pause MVLC DAQ mode: " ≠ "") _)
      | none =>
          cases hreadback : fault .daqModeReadback with
          | some failed =>
              dsimp only [Bench.writeVmeD16, Bench.writeLocalRegisters, Bench.readLocalRegisters]
              exact appendFailure_ne _
                (append_ne (by decide : "Could not verify paused MVLC DAQ mode: " ≠ "") _)
          | none => exact absurd ⟨hmodule, hdaqMode, hreadback⟩ h

/-- The run after an undisturbed pause. -/
theorem pausePreview_of_undisturbed (h : Unimpeded bench session run)
    (hpause : PauseUndisturbed (fault ∘ .pause)) :
    Unimpeded bench session (pausePreview fault run) ∧
      (pausePreview fault run).result.modulePaused = true ∧
      (pausePreview fault run).result.daqModePaused = true := by
  unfold pausePreview
  rw [pauseDiagnosticDataTaking_of_undisturbed hpause]
  refine ⟨{ h with succeeds := ?_, banks := ?_ }, rfl, rfl⟩
  · show appendFailure run.failure "" = ""
    rw [h.succeeds]
    rfl
  · show (run.bench.write diagnosticAcquisitionControlRegister 0).banks = bench.banks
    rw [Bench.banks_write_of_global (by decide), h.banks]

/-- A disturbed pause is a failure of the preview. -/
theorem pausePreview_of_disturbed (hpause : ¬PauseUndisturbed (fault ∘ .pause)) :
    (pausePreview fault run).failure ≠ "" :=
  appendFailure_ne _ (pauseDiagnosticDataTaking_of_disturbed hpause run.bench)

variable (fault request) in
/-- The quad is selected, or the run has failed. -/
theorem selectPreviewQuad_cases (h : Unimpeded bench session run)
    (hmodule : run.result.modulePaused = true) (hdaqMode : run.result.daqModePaused = true) :
    (fault .select = none → QuadSelected bench session request
      (selectPreviewQuad fault request run)) ∧
    (fault .select ≠ none → (selectPreviewQuad fault request run).failure ≠ "") := by
  rw [selectPreviewQuad, if_pos ⟨hmodule, hdaqMode⟩]
  cases hfault : fault .select with
  | some failed =>
      rw [PreviewRun.write_of_fault hfault]
      refine ⟨fun hnone => (by cases hnone), fun _ => ?_⟩
      exact PreviewRun.failure_fail _ (registerOperationError_ne _ _ _ _)
  | none =>
      rw [PreviewRun.write_of_success hfault]
      refine ⟨fun _ => ?_, fun hsome => absurd rfl hsome⟩
      exact {
        h with
        banks := (Bench.banks_write_of_global Bench.selector_notMem).trans h.banks
        selected := rfl
        selector := Bench.selector_write_selector }

/-- With the quad selected, the registers show its bank. -/
theorem QuadSelected.read_eq (h : QuadSelected bench session request run) {r : UInt16}
    (hr : r ∈ scpRegisterOffsets) :
    run.bench.read r = bench.banks (request.selectedQuad.toNat, r) := by
  rw [Bench.read_of_banked hr, h.selector, h.banks]

variable (fault) in
/-- The original value is captured, or the run has failed. -/
theorem captureCurrentValue_cases (h : QuadSelected bench session request run)
    (happly : request.action = .apply) (hr : request.registerOffset ∈ scpRegisterOffsets) :
    (fault .capture = none → OriginalCaptured bench session request
      (captureCurrentValue fault request run)) ∧
    (fault .capture ≠ none → (captureCurrentValue fault request run).failure ≠ "") := by
  rw [captureCurrentValue, if_pos h.selected]
  cases hfault : fault .capture with
  | some failed =>
      refine ⟨fun hnone => (by cases hnone), fun _ => ?_⟩
      exact PreviewRun.failure_fail _ (registerOperationError_ne _ _ _ _)
  | none =>
      refine ⟨fun _ => ?_, fun hsome => absurd rfl hsome⟩
      rw [Bench.readVmeD16, h.read_eq hr]
      dsimp only
      rw [if_pos happly]
      exact { h with captured := rfl, original := rfl }

/-- The dependency of the register, if it has one, can be read and is satisfied. -/
def DependencySatisfied (fault : PreviewSite → Option Fault)
    (definition : Fw2051ScpSettingDefinition) (request : PreviewTransactionRequest)
    (bench : Bench) : Prop :=
  definition.dependencyRule ≠ .none → fault .dependency = none ∧
    fw2051ScpDependencySatisfied definition request.requestedValue
      (bench.banks (request.selectedQuad.toNat, definition.dependencyRegister)) = true

/-- What a setting depends on is in the same bank. -/
theorem dependencyRegister_mem (hdefinition : definition ∈ fw2051ScpSettingRegistry)
    (hrule : definition.dependencyRule ≠ .none) :
    definition.dependencyRegister ∈ scpRegisterOffsets := by
  revert hrule definition
  decide

variable (fault) in
/-- The dependency is satisfied, or the run has failed. -/
theorem checkDependency_cases (h : OriginalCaptured bench session request run)
    (happly : request.action = .apply) (hdefinition : definition ∈ fw2051ScpSettingRegistry) :
    (DependencySatisfied fault definition request bench → OriginalCaptured bench session request
      (checkDependency fault definition request run)) ∧
    (¬DependencySatisfied fault definition request bench →
      (checkDependency fault definition request run).failure ≠ "") := by
  unfold checkDependency
  by_cases hrule : definition.dependencyRule = .none
  · rw [if_neg (fun hchecked => hchecked.2.2 hrule)]
    refine ⟨fun _ => h, fun hunsatisfied => absurd (fun hne => absurd hrule hne) hunsatisfied⟩
  · rw [if_pos ⟨happly, h.captured, hrule⟩]
    dsimp only
    cases hfault : fault .dependency with
    | some failed =>
        refine ⟨fun hsatisfied => ?_, fun _ => ?_⟩
        · rw [(hsatisfied hrule).1] at hfault
          cases hfault
        · exact PreviewRun.failure_fail _ (registerOperationError_ne _ _ _ _)
    | none =>
        rw [Bench.readVmeD16, h.read_eq (dependencyRegister_mem hdefinition hrule)]
        dsimp only
        split
        next hsatisfied =>
          refine ⟨fun _ => { h with }, fun hunsatisfied => ?_⟩
          exact absurd (fun _ => ⟨hfault, hsatisfied⟩) hunsatisfied
        -- the refusal names the register, and its text is not empty
        next hunsatisfied =>
          refine ⟨fun hsatisfied => absurd (hsatisfied hrule).2 hunsatisfied, fun _ => ?_⟩
          refine PreviewRun.failure_fail _ ?_
          iterate 10 apply append_ne
          decide

/-- The requested value is another one, or the run has failed. -/
theorem checkCurrentValue_cases (h : OriginalCaptured bench session request run)
    (happly : request.action = .apply) :
    (request.requestedValue ≠ liveValue bench request → OriginalCaptured bench session request
      (checkCurrentValue request run)) ∧
    (request.requestedValue = liveValue bench request →
      (checkCurrentValue request run).failure ≠ "") := by
  unfold checkCurrentValue
  rw [h.original]
  by_cases hsame : request.requestedValue = liveValue bench request
  · rw [if_pos ⟨happly, h.captured, h.succeeds, hsame⟩]
    refine ⟨fun hne => absurd hsame hne, fun _ => PreviewRun.failure_fail _ ?_⟩
    iterate 2 apply append_ne
    decide
  · have hrestore : request.action ≠ .restore := by
      rw [happly]
      decide
    rw [if_neg (fun hfails => hsame hfails.2.2.2), if_neg (fun hfails => hrestore hfails.1)]
    exact ⟨fun _ => h, fun heq => absurd heq hsame⟩

variable (cancellationRequested) in
/-- Nobody asked for a cancellation, or the run has failed. -/
theorem checkCancellation_cases (h : OriginalCaptured bench session request run)
    (hstop : request.automaticallyRestoredOnStop = false) :
    (cancellationRequested = false → OriginalCaptured bench session request
      (checkCancellation cancellationRequested request run)) ∧
    (cancellationRequested = true →
      (checkCancellation cancellationRequested request run).failure ≠ "") := by
  unfold checkCancellation
  constructor
  · intro hcancelled
    rw [if_neg (fun hfails => by rw [hcancelled] at hfails; cases hfails.1)]
    exact h
  · intro hcancelled
    rw [if_pos ⟨hcancelled, h.succeeds, by rw [hstop]; rfl⟩]
    exact PreviewRun.failure_fail _ (append_ne (by decide) _)

variable (save recoveryJournalPath) in
/-- The armed record is on disk, or the run has failed. -/
theorem armRecovery_cases (h : OriginalCaptured bench session request run)
    (happly : request.action = .apply) :
    (save .arm (armedRecord bench session request) recoveryJournalPath = none →
      RecoveryArmed bench session request (armRecovery save recoveryJournalPath request run)) ∧
    (save .arm (armedRecord bench session request) recoveryJournalPath ≠ none →
      (armRecovery save recoveryJournalPath request run).failure ≠ "") := by
  have hrecord : previewRecoveryRecord run.session.recoveryRecord true request
      run.result.originalValue = armedRecord bench session request := by
    rw [h.session_eq, h.original, armedRecord]
  rw [armRecovery, if_pos ⟨happly, h.succeeds, h.captured⟩, savePreviewRecoveryState]
  rw [show decide (PreviewSave.arm = .arm) = true from rfl, hrecord]
  dsimp only
  cases hsave : save .arm (armedRecord bench session request) recoveryJournalPath with
  | some error =>
      refine ⟨fun hnone => (by cases hnone), fun _ => PreviewRun.failure_fail _ ?_⟩
      iterate 2 apply append_ne
      decide
  | none =>
      refine ⟨fun _ => ?_, fun hsome => absurd rfl hsome⟩
      exact { h with session_eq := by rw [← h.session_eq], armed := rfl }

/-- Nothing stands between a started transaction and its write. -/
structure WayClear (fault : PreviewSite → Option Fault) (save : JournalSaver)
    (cancellationRequested : Bool) (recoveryJournalPath : String)
    (definition : Fw2051ScpSettingDefinition) (bench : Bench)
    (session : DiagnosticAcquisitionPreparationResult) (request : PreviewTransactionRequest) :
    Prop where
  pause : PauseUndisturbed (fault ∘ .pause)
  select : fault .select = none
  capture : fault .capture = none
  dependency : DependencySatisfied fault definition request bench
  changes : request.requestedValue ≠ liveValue bench request
  going : cancellationRequested = false
  journaled : save .arm (armedRecord bench session request) recoveryJournalPath = none

variable (fault save cancellationRequested recoveryJournalPath) in
/-- The way to the write ends with the recovery armed exactly when it is clear. -/
theorem preparePreview_cases (h : Unimpeded bench session run) (happly : request.action = .apply)
    (hstop : request.automaticallyRestoredOnStop = false)
    (hfind : findFw2051ScpSetting request.registerOffset = some definition) :
    (WayClear fault save cancellationRequested recoveryJournalPath definition bench session request →
      RecoveryArmed bench session request (preparePreview fault save cancellationRequested
        recoveryJournalPath definition request run)) ∧
    (¬WayClear fault save cancellationRequested recoveryJournalPath definition bench session
        request →
      (preparePreview fault save cancellationRequested recoveryJournalPath definition request
        run).failure ≠ "" ∧
      (preparePreview fault save cancellationRequested recoveryJournalPath definition request
        run).result.writeAttempted = false) := by
  obtain ⟨hdefinition, -⟩ := findFw2051ScpSetting_eq_some hfind
  have hr : request.registerOffset ∈ scpRegisterOffsets :=
    findFw2051ScpSetting_isSome.mp (by rw [hfind]; rfl)
  unfold preparePreview
  set paused := pausePreview fault run
  set selected := selectPreviewQuad fault request paused
  set captured := captureCurrentValue fault request selected
  set checked := checkDependency fault definition request captured
  set changing := checkCurrentValue request checked
  set going := checkCancellation cancellationRequested request changing
  set armed := armRecovery save recoveryJournalPath request going
  -- What follows a stage keeps its failure.
  have hkeeps6 : KeepsWrites going armed :=
    keepsWrites_armRecovery save recoveryJournalPath request going
  have hkeeps5 : KeepsWrites changing armed :=
    (keepsWrites_checkCancellation cancellationRequested request changing).trans hkeeps6
  have hkeeps4 : KeepsWrites checked armed :=
    (keepsWrites_checkCurrentValue request checked).trans hkeeps5
  have hkeeps3 : KeepsWrites captured armed :=
    (keepsWrites_checkDependency fault definition request captured).trans hkeeps4
  have hkeeps2 : KeepsWrites selected armed :=
    (keepsWrites_captureCurrentValue fault request selected).trans hkeeps3
  have hkeeps1 : KeepsWrites paused armed :=
    (keepsWrites_selectPreviewQuad fault request paused).trans hkeeps2
  have hattempted : armed.result.writeAttempted = false :=
    ((keepsWrites_pausePreview fault run).trans hkeeps1).attempted.trans h.attempted
  -- each stage needs the one before it, and the first that fails decides
  by_cases hpause : PauseUndisturbed (fault ∘ .pause)
  · obtain ⟨hunimpeded, hmodule, hdaqMode⟩ := pausePreview_of_undisturbed h hpause
    obtain ⟨hselected, hunselected⟩ :=
      selectPreviewQuad_cases fault request hunimpeded hmodule hdaqMode
    by_cases hselect : fault .select = none
    · obtain ⟨hcaptured, huncaptured⟩ :=
        captureCurrentValue_cases fault (hselected hselect) happly hr
      by_cases hcapture : fault .capture = none
      · obtain ⟨hchecked, hunchecked⟩ :=
          checkDependency_cases fault (hcaptured hcapture) happly hdefinition
        by_cases hdependency : DependencySatisfied fault definition request bench
        · obtain ⟨hchanges, hsame⟩ := checkCurrentValue_cases (hchecked hdependency) happly
          by_cases hvalue : request.requestedValue = liveValue bench request
          · exact ⟨fun hclear => absurd hvalue hclear.changes,
              fun _ => ⟨hkeeps5.failed (hsame hvalue), hattempted⟩⟩
          · obtain ⟨hgoing, hcancelled⟩ :=
              checkCancellation_cases cancellationRequested (hchanges hvalue) hstop
            by_cases hcancel : cancellationRequested = false
            · obtain ⟨harmed, hunarmed⟩ :=
                armRecovery_cases save recoveryJournalPath (hgoing hcancel) happly
              by_cases hsave : save .arm (armedRecord bench session request) recoveryJournalPath = none
              · exact ⟨fun _ => harmed hsave, fun hblocked => absurd
                  ⟨hpause, hselect, hcapture, hdependency, hvalue, hcancel, hsave⟩ hblocked⟩
              · exact ⟨fun hclear => absurd hclear.journaled hsave,
                  fun _ => ⟨hunarmed hsave, hattempted⟩⟩
            · exact ⟨fun hclear => absurd hclear.going hcancel,
                fun _ => ⟨hkeeps6.failed (hcancelled (by simpa using hcancel)), hattempted⟩⟩
        · exact ⟨fun hclear => absurd hclear.dependency hdependency,
            fun _ => ⟨hkeeps4.failed (hunchecked hdependency), hattempted⟩⟩
      · exact ⟨fun hclear => absurd hclear.capture hcapture,
          fun _ => ⟨hkeeps3.failed (huncaptured hcapture), hattempted⟩⟩
    · exact ⟨fun hclear => absurd hclear.select hselect,
        fun _ => ⟨hkeeps2.failed (hunselected hselect), hattempted⟩⟩
  · exact ⟨fun hclear => absurd hclear.pause hpause,
      fun _ => ⟨hkeeps1.failed (pausePreview_of_disturbed hpause), hattempted⟩⟩

/-! ### The write and what follows

A write or a rollback is verified exactly when neither it nor its readback is disturbed. What
follows, parking and resuming, touches neither the record nor the values. -/

/-- What the transaction has put in the journal: the value to restore, unless it is restored. -/
structure KeepsRecovery (run run' : PreviewRun) : Prop where
  keeps : KeepsWrites run run'
  captured : run'.result.originalCaptured = run.result.originalCaptured
  original : run'.result.originalValue = run.result.originalValue
  record : run'.session.recoveryRecord = run.session.recoveryRecord
  armed : run'.recoveryRestoreArmed = run.recoveryRestoreArmed

/-- Parking the selector concerns neither the record nor the values. -/
theorem keepsRecovery_parkPreviewSelector (fault : PreviewSite → Option Fault) (run : PreviewRun) :
    KeepsRecovery run (parkPreviewSelector fault run) := by
  unfold parkPreviewSelector
  split
  · cases hfault : fault .park with
    | some failed =>
        rw [PreviewRun.write_of_fault hfault]
        exact ⟨⟨rfl, rfl, rfl, fun _ => PreviewRun.failure_fail _ (registerOperationError_ne _ _ _ _)⟩,
          rfl, rfl, rfl, rfl⟩
    | none =>
        rw [PreviewRun.write_of_success hfault]
        exact ⟨⟨rfl, rfl, rfl, id⟩, rfl, rfl, rfl, rfl⟩
  · exact ⟨.refl run, rfl, rfl, rfl, rfl⟩

/-- Nor does resuming the data taking. -/
theorem keepsRecovery_resumePreview (fault : PreviewSite → Option Fault)
    (request : PreviewTransactionRequest) (run : PreviewRun) :
    KeepsRecovery run (resumePreview fault request run) := by
  unfold resumePreview
  split
  · exact ⟨⟨rfl, rfl, rfl, appendFailure_keeps _⟩, rfl, rfl, rfl, rfl⟩
  · exact ⟨.refl run, rfl, rfl, rfl, rfl⟩

/-- The write and its readback succeed. -/
structure WriteSucceeds (fault : PreviewSite → Option Fault) : Prop where
  write : fault .write = none
  readback : fault .readback = none

/-- The rollback and its readback are undisturbed. -/
structure RollbackSucceeds (fault : PreviewSite → Option Fault) : Prop where
  write : fault .rollbackWrite = none
  readback : fault .rollbackReadback = none

/-- The transaction after its write: the journal is armed, the original value is at hand, and the
write was verified or not. -/
structure Written (bench : Bench) (session : DiagnosticAcquisitionPreparationResult)
    (request : PreviewTransactionRequest) (verified : Bool) (run : PreviewRun) : Prop where
  attempted : run.result.writeAttempted = true
  verified_eq : run.result.writeVerified = verified
  captured : run.result.originalCaptured = true
  original : run.result.originalValue = liveValue bench request
  record : run.session.recoveryRecord = armedRecord bench session request
  armed : run.recoveryRestoreArmed = true

/-- An undisturbed write is verified. -/
theorem writeParameter_of_success (h : RecoveryArmed bench session request run)
    (happly : request.action = .apply) (hwrite : WriteSucceeds fault) :
    Written bench session request true (writeParameter fault request run) ∧
      (writeParameter fault request run).result.rollbackVerified = false := by
  rw [writeParameter, if_pos h.succeeds]
  dsimp only
  rw [PreviewRun.write_of_success hwrite.write]
  dsimp only
  rw [hwrite.readback, Bench.readVmeD16, Bench.read_write]
  dsimp only
  rw [if_neg (not_not.mpr rfl), if_pos happly]
  refine ⟨?_, h.rolledBack⟩
  exact {
    attempted := decide_eq_true happly
    verified_eq := rfl
    captured := h.captured
    original := h.original
    record := by rw [h.session_eq]
    armed := h.armed }

/-- A disturbed write, or a disturbed readback, leaves it unverified. -/
theorem writeParameter_of_failure (h : RecoveryArmed bench session request run)
    (happly : request.action = .apply) (hwrite : ¬WriteSucceeds fault) :
    Written bench session request false (writeParameter fault request run) ∧
      (writeParameter fault request run).result.rollbackVerified = false := by
  have hwritten : ∀ (bench' : Bench) (sent : List SentWrite) (message : String),
      Written bench session request false ({ run with
        bench := bench'
        sent
        result := { run.result with
          writeAttempted := decide (request.action = PreviewAction.apply)
          restoreAttempted := !decide (request.action = PreviewAction.apply) } }.fail message) := by
    intro bench' sent message
    exact {
      attempted := decide_eq_true happly
      verified_eq := h.verified
      captured := h.captured
      original := h.original
      record := by
        show run.session.recoveryRecord = _
        rw [h.session_eq]
      armed := h.armed }
  rw [writeParameter, if_pos h.succeeds]
  dsimp only
  cases hfault : fault .write with
  -- the write was lost, with or without its effect
  | some failed =>
      rw [PreviewRun.write_of_fault hfault]
      exact ⟨hwritten _ _ _, h.rolledBack⟩
  | none =>
      rw [PreviewRun.write_of_success hfault]
      dsimp only
      cases hreadback : fault .readback with
      -- the write was answered, its readback was lost
      | some failed => exact ⟨hwritten _ _ _, h.rolledBack⟩
      | none => exact absurd ⟨hfault, hreadback⟩ hwrite

/-- A verified write is not rolled back. -/
theorem rollbackParameter_of_verified (h : Written bench session request true run) :
    rollbackParameter fault request run = run := by
  rw [rollbackParameter, if_neg]
  rintro ⟨-, -, hunverified, -⟩
  rw [h.verified_eq] at hunverified
  cases hunverified

variable (fault) in
/-- The rollback of a write that was not verified is verified exactly when it succeeds. -/
theorem rollbackParameter_of_unverified (h : Written bench session request false run)
    (happly : request.action = .apply) (hrolledBack : run.result.rollbackVerified = false) :
    Written bench session request false (rollbackParameter fault request run) ∧
      ((rollbackParameter fault request run).result.rollbackVerified = true ↔
        RollbackSucceeds fault) := by
  have hunverified : (!run.result.writeVerified) = true := by
    rw [h.verified_eq]
    rfl
  rw [rollbackParameter, if_pos ⟨happly, h.attempted, hunverified, h.captured⟩]
  dsimp only
  cases hfault : fault .rollbackWrite with
  -- the rollback write was lost
  | some failed =>
      rw [PreviewRun.write_of_fault hfault]
      refine ⟨{ h with }, iff_of_false ?_ ?_⟩
      · exact Bool.eq_false_iff.mp hrolledBack
      · intro hsucceeds
        rw [hsucceeds.write] at hfault
        cases hfault
  | none =>
      rw [PreviewRun.write_of_success hfault]
      dsimp only
      cases hreadback : fault .rollbackReadback with
      -- it was answered, its readback was lost
      | some failed =>
          refine ⟨{ h with }, iff_of_false ?_ ?_⟩
          · exact Bool.eq_false_iff.mp hrolledBack
          · intro hsucceeds
            rw [hsucceeds.readback] at hreadback
            cases hreadback
      -- both were answered, and the module reads back what was written
      | none =>
          rw [Bench.readVmeD16, Bench.read_write]
          dsimp only
          rw [decide_eq_true rfl, if_pos rfl]
          exact ⟨{ h with }, iff_of_true rfl ⟨hfault, hreadback⟩⟩

/-- The record that the journal is relieved with. -/
def disarmedRecord (bench : Bench) (session : DiagnosticAcquisitionPreparationResult)
    (request : PreviewTransactionRequest) : TunerRecoveryRecord :=
  previewRecoveryRecord (armedRecord bench session request) false request (liveValue bench request)

/-- The journal keeps the value of a verified write. -/
theorem disarmRecovery_of_verified (h : Written bench session request true run)
    (happly : request.action = .apply) (hrolledBack : run.result.rollbackVerified = false) :
    disarmRecovery save recoveryJournalPath request run = run := by
  rw [disarmRecovery, if_neg]
  rintro ⟨hinactive, -⟩
  rw [previewNowInactive, if_pos happly, h.verified_eq, hrolledBack] at hinactive
  cases hinactive

variable (save recoveryJournalPath) in
/-- After a write that was not verified the journal is relieved, whatever came of the rollback. -/
theorem disarmRecovery_of_unverified (h : Written bench session request false run)
    (happly : request.action = .apply) :
    let disarmed := disarmRecovery save recoveryJournalPath request run
    KeepsWrites run disarmed ∧ disarmed.result.originalValue = run.result.originalValue ∧
      disarmed.session.recoveryRecord =
        if save .disarm (disarmedRecord bench session request) recoveryJournalPath = none then
          disarmedRecord bench session request
        else armedRecord bench session request := by
  intro disarmed
  have hdisarmed : disarmed = disarmRecovery save recoveryJournalPath request run := rfl
  have hinactive : previewNowInactive request run.result = true := by
    rw [previewNowInactive, if_pos happly, h.verified_eq]
    rfl
  have hrecord : previewRecoveryRecord run.session.recoveryRecord false request
      run.result.originalValue = disarmedRecord bench session request := by
    rw [h.record, h.original, disarmedRecord]
  rw [disarmRecovery, if_pos ⟨hinactive, .inl h.armed⟩, savePreviewRecoveryState] at hdisarmed
  rw [show decide (PreviewSave.disarm = .arm) = false from rfl, hrecord] at hdisarmed
  dsimp only at hdisarmed
  cases hsave : save .disarm (disarmedRecord bench session request) recoveryJournalPath with
  -- the save failed: the session keeps the armed record
  | some error =>
      rw [hsave] at hdisarmed
      rw [hdisarmed, if_neg (by simp)]
      refine ⟨keepsWrites_fail run ?_, rfl, h.record⟩
      iterate 2 apply append_ne
      decide
  | none =>
      rw [hsave] at hdisarmed
      rw [hdisarmed, if_pos rfl]
      exact ⟨⟨rfl, rfl, rfl, id⟩, rfl, rfl⟩

/-! ### The transaction as a whole

The checks of the request come first. A preview that passes them and finds its way clear has sent
its write, and whether there is a way back is decided by the four cases above. -/

/-- The record tells how to restore this value. -/
structure RestoresPreview (record : TunerRecoveryRecord)
    (quad registerOffset originalValue appliedValue : UInt16) : Prop where
  required : record.previewRestoreRequired = true
  quad_eq : record.previewQuad = quad
  registerOffset_eq : record.previewRegisterOffset = registerOffset
  originalValue_eq : record.previewOriginalValue = originalValue
  appliedValue_eq : record.previewAppliedValue = appliedValue

/-- There is a way back from a write that was sent. -/
def LeavesWayBack (quad registerOffset appliedValue : UInt16)
    (result : DiagnosticParameterPreviewResult) (record : TunerRecoveryRecord) : Prop :=
  result.writeAttempted = true → result.rollbackVerified = true ∨
    RestoresPreview record quad registerOffset result.originalValue appliedValue

/-- The armed record restores the original value. -/
theorem restoresPreview_armedRecord : RestoresPreview (armedRecord bench session request)
    request.selectedQuad request.registerOffset (liveValue bench request) request.requestedValue :=
  ⟨rfl, rfl, rfl, rfl, rfl⟩

/-- The relieved one restores nothing. -/
theorem not_restoresPreview_disarmedRecord {quad registerOffset originalValue appliedValue : UInt16} :
    ¬RestoresPreview (disarmedRecord bench session request) quad registerOffset originalValue
      appliedValue := fun h => by cases h.required

/-- The way back is lost: neither the write nor the rollback succeeds, and the journal is relieved
of the value all the same. -/
structure WayBackLost (fault : PreviewSite → Option Fault) (save : JournalSaver)
    (recoveryJournalPath : String) (bench : Bench)
    (session : DiagnosticAcquisitionPreparationResult) (request : PreviewTransactionRequest) :
    Prop where
  write : ¬WriteSucceeds fault
  rollback : ¬RollbackSucceeds fault
  disarmed : save .disarm (disarmedRecord bench session request) recoveryJournalPath = none

variable (save recoveryJournalPath request) in
/-- Relieving the journal touches no hardware. -/
theorem keepsWrites_disarmRecovery (run : PreviewRun) :
    KeepsWrites run (disarmRecovery save recoveryJournalPath request run) := by
  unfold disarmRecovery
  split
  · have hsaved := keepsWrites_savePreviewRecoveryState save recoveryJournalPath request run .disarm
    split
    next heq =>
      rw [heq] at hsaved
      refine hsaved.trans (keepsWrites_fail _ ?_)
      iterate 2 apply append_ne
      decide
    next heq =>
      rw [heq] at hsaved
      exact hsaved
  · exact .refl run

variable (fault save recoveryJournalPath request) in
/-- Without an armed journal no write is sent. -/
theorem completePreview_of_failed (hfailed : run.failure ≠ "")
    (hattempted : run.result.writeAttempted = false) :
    (completePreview fault save recoveryJournalPath request run).result.writeAttempted = false := by
  have hwrite : writeParameter fault request run = run := if_neg hfailed
  have hrollback : rollbackParameter fault request run = run := by
    rw [rollbackParameter, if_neg]
    rintro ⟨-, hsent, -⟩
    rw [hattempted] at hsent
    cases hsent
  unfold completePreview
  dsimp only
  rw [hwrite, hrollback]
  have hparked := (keepsRecovery_parkPreviewSelector fault run).keeps
  have hdisarmed := keepsWrites_disarmRecovery save recoveryJournalPath request
    (parkPreviewSelector fault run)
  have hresumed := (keepsRecovery_resumePreview fault request
    (disarmRecovery save recoveryJournalPath request (parkPreviewSelector fault run))).keeps
  rw [(hparked.trans (hdisarmed.trans hresumed)).attempted, hattempted]

/-- What leaves the record and the values leaves all of this. -/
theorem Written.keepsRecovery {verified : Bool} (h : Written bench session request verified run)
    {run' : PreviewRun} (hkeeps : KeepsRecovery run run') :
    Written bench session request verified run' where
  attempted := hkeeps.keeps.attempted.trans h.attempted
  verified_eq := hkeeps.keeps.verified.trans h.verified_eq
  captured := hkeeps.captured.trans h.captured
  original := hkeeps.original.trans h.original
  record := hkeeps.record.trans h.record
  armed := hkeeps.armed.trans h.armed

/-- Once the record is armed, the way back is lost in one case only. -/
theorem completePreview_leavesWayBack (h : RecoveryArmed bench session request run)
    (happly : request.action = .apply) :
    let completed := completePreview fault save recoveryJournalPath request run
    LeavesWayBack request.selectedQuad request.registerOffset request.requestedValue
        completed.result completed.session.recoveryRecord ↔
      ¬WayBackLost fault save recoveryJournalPath bench session request := by
  unfold completePreview
  dsimp only
  set written := writeParameter fault request run with hwritten
  set rolledBack := rollbackParameter fault request written
  set parked := parkPreviewSelector fault rolledBack
  set disarmed := disarmRecovery save recoveryJournalPath request parked
  set resumed := resumePreview fault request disarmed
  have hparked : KeepsRecovery rolledBack parked :=
    keepsRecovery_parkPreviewSelector fault rolledBack
  have hresumed : KeepsRecovery disarmed resumed :=
    keepsRecovery_resumePreview fault request disarmed
  by_cases hwrite : WriteSucceeds fault
  · -- the write is verified: the record on disk is the armed one
    obtain ⟨hverified, hunrolled⟩ := writeParameter_of_success h happly hwrite
    have hrollback : rolledBack = written := rollbackParameter_of_verified hverified
    have hend := hverified.keepsRecovery (hrollback ▸ hparked)
    have hdisarmed : disarmed = parked := disarmRecovery_of_verified hend happly
      ((hrollback ▸ hparked).keeps.rolledBack.trans hunrolled)
    have hfinal := hend.keepsRecovery (hdisarmed ▸ hresumed)
    refine iff_of_true (fun _ => .inr ?_) fun hlost => hlost.write hwrite
    rw [hfinal.record, hfinal.original]
    exact restoresPreview_armedRecord
  · -- the write is not verified: the journal is relieved of the value, whatever the rollback did
    obtain ⟨hunverified, hunrolled⟩ := writeParameter_of_failure h happly hwrite
    obtain ⟨hrolledBack, hiff⟩ :=
      rollbackParameter_of_unverified fault hunverified happly hunrolled
    have hend := hrolledBack.keepsRecovery hparked
    obtain ⟨hkeeps, horiginal, hrecord⟩ := disarmRecovery_of_unverified save
      recoveryJournalPath hend happly
    have hflag : resumed.result.rollbackVerified = rolledBack.result.rollbackVerified :=
      hresumed.keeps.rolledBack.trans (hkeeps.rolledBack.trans hparked.keeps.rolledBack)
    have hattempted : resumed.result.writeAttempted = true :=
      (hresumed.keeps.attempted.trans hkeeps.attempted).trans hend.attempted
    have hvalue : resumed.result.originalValue = liveValue bench request :=
      (hresumed.original.trans horiginal).trans hend.original
    rw [LeavesWayBack, hflag, hiff, hresumed.record, hrecord, hvalue]
    by_cases hrollback : RollbackSucceeds fault
    · exact iff_of_true (fun _ => .inl hrollback) fun hlost => hlost.rollback hrollback
    · split
      -- the relieved record is on disk, and the register was not read back
      next hsave =>
        refine iff_of_false (fun hback => ?_) (not_not.mpr ⟨hwrite, hrollback, hsave⟩)
        exact (hback hattempted).elim hrollback not_restoresPreview_disarmedRecord
      -- the relieved record was not saved, so the armed one still stands
      next hsave =>
        exact iff_of_true (fun _ => .inr restoresPreview_armedRecord)
          fun hlost => hsave hlost.disarmed

end Way

/-- The closing message changes none of the flags. -/
theorem finishPreview_keeps (request : PreviewTransactionRequest) (run : PreviewRun) :
    (finishPreview request run).writeAttempted = run.result.writeAttempted ∧
      (finishPreview request run).rollbackVerified = run.result.rollbackVerified ∧
      (finishPreview request run).originalValue = run.result.originalValue := by
  unfold finishPreview
  dsimp only
  split
  · split
    · exact ⟨rfl, rfl, rfl⟩
    · exact ⟨rfl, rfl, rfl⟩
  · split
    · exact ⟨rfl, rfl, rfl⟩
    · exact ⟨rfl, rfl, rfl⟩

/-- A register that can be previewed is one of the registry. -/
theorem findFw2051ScpSetting_of_validate {session : DiagnosticAcquisitionPreparationResult}
    {request : PreviewTransactionRequest} {recoveryJournalPath : String}
    {definition : Fw2051ScpSettingDefinition}
    (h : validatePreviewRequest session request recoveryJournalPath = .ok definition) :
    findFw2051ScpSetting request.registerOffset = some definition := by
  unfold validatePreviewRequest at h
  split at h
  · cases h
  next found hfound =>
    split at h
    · cases h
    · split at h
      · cases h
      · split at h
        · cases h
        · split at h
          · cases h
          · cases h
            exact hfound

/-- The request of the source's transaction for a request to apply. -/
def DiagnosticParameterPreviewRequest.transaction (request : DiagnosticParameterPreviewRequest) :
    PreviewTransactionRequest :=
  { action := .apply
    selectedQuad := request.selectedQuad
    registerOffset := request.registerOffset
    requestedValue := request.requestedValue }

/-- The preview gets to its write, neither the write nor the rollback succeeds, and the journal is
relieved of the original value. -/
structure PreviewForgotten (fault : PreviewSite → Option Fault) (save : JournalSaver)
    (cancellationRequested : Bool) (bench : Bench)
    (session : DiagnosticAcquisitionPreparationResult)
    (request : DiagnosticParameterPreviewRequest) (recoveryJournalPath : String)
    (definition : Fw2051ScpSettingDefinition) : Prop where
  accepted : validatePreviewRequest session request.transaction recoveryJournalPath =
    .ok definition
  owned : (verifyDiagnosticOwnershipFingerprint (fault .fingerprint) bench session).outcome =
    .verified
  clear : WayClear fault save cancellationRequested recoveryJournalPath definition bench session
    request.transaction
  lost : WayBackLost fault save recoveryJournalPath bench session request.transaction

/-- A preview leaves a way back from its write exactly when it is not forgotten. -/
theorem applyDiagnosticParameterPreview_leavesWayBack_iff (fault : PreviewSite → Option Fault)
    (save : JournalSaver) (cancellationRequested : Bool) (bench : Bench)
    (session : DiagnosticAcquisitionPreparationResult)
    (request : DiagnosticParameterPreviewRequest) (recoveryJournalPath : String) :
    let applied := applyDiagnosticParameterPreview fault save cancellationRequested bench session
      request recoveryJournalPath
    LeavesWayBack request.selectedQuad request.registerOffset request.requestedValue applied.1
        applied.2.1.recoveryRecord ↔
      ¬∃ definition, PreviewForgotten fault save cancellationRequested bench session request
        recoveryJournalPath definition := by
  intro applied
  have happlied : applied = executePreviewTransaction fault save cancellationRequested bench session
    request.transaction recoveryJournalPath := rfl
  unfold executePreviewTransaction previewTransactionRun at happlied
  dsimp only at happlied
  split at happlied
  next message hrefused =>
    rw [happlied]
    -- a refused request sends nothing
    refine iff_of_true (fun hsent => by cases hsent) ?_
    rintro ⟨definition, hforgotten⟩
    rw [hforgotten.accepted] at hrefused
    cases hrefused
  next definition haccepted =>
    split at happlied
    next hforeign =>
      rw [happlied]
      -- nor does a preview on a module that is not the session's
      refine iff_of_true (fun hsent => by cases hsent) ?_
      rintro ⟨definition, hforgotten⟩
      exact hforeign hforgotten.owned
    next howned =>
      set start : PreviewRun := {
        bench
        session
        result := { initialPreviewResult request.transaction with fingerprintVerified := true } }
      have hstart : Unimpeded bench session start := ⟨rfl, rfl, rfl, rfl, rfl, rfl⟩
      obtain ⟨hclear, hblocked⟩ := preparePreview_cases fault save cancellationRequested
        recoveryJournalPath hstart (rfl : request.transaction.action = .apply) rfl
        (findFw2051ScpSetting_of_validate haccepted)
      set prepared := preparePreview fault save cancellationRequested recoveryJournalPath definition
        request.transaction start
      set completed := completePreview fault save recoveryJournalPath request.transaction prepared
        with hcompleted
      obtain ⟨hattempted, hrolledBack, horiginal⟩ := finishPreview_keeps request.transaction completed
      rw [happlied]
      show LeavesWayBack _ _ _ (finishPreview request.transaction completed)
        completed.session.recoveryRecord ↔ _
      rw [LeavesWayBack, hattempted, hrolledBack, horiginal, ← LeavesWayBack]
      by_cases hway : WayClear fault save cancellationRequested recoveryJournalPath definition bench
          session request.transaction
      · -- the write is reached
        refine (completePreview_leavesWayBack (hclear hway) rfl).trans (not_congr ?_)
        constructor
        · intro hlost
          exact ⟨definition, haccepted, not_not.mp howned, hway, hlost⟩
        · rintro ⟨_, hforgotten⟩
          exact hforgotten.lost
      · -- the write is not reached
        obtain ⟨hfailed, hunsent⟩ := hblocked hway
        have hnever := completePreview_of_failed fault save recoveryJournalPath
          request.transaction hfailed hunsent
        refine iff_of_true (fun hsent => ?_) ?_
        · rw [hnever] at hsent
          cases hsent
        · rintro ⟨definition', hforgotten⟩
          have hsame := hforgotten.accepted
          rw [haccepted] at hsame
          cases hsame
          exact hway hforgotten.clear

/-! ### A preview that is forgotten

The run that the general statement leaves room for, on a bench of which every record is accepted by
the journal. -/

/-- A module with a gain of 1000 in every bank, under a controller that runs the session. -/
def previewModule : Bench where
  registers := fun _ => 0
  banks := fun _ => 1000
  localRegisters := runningLocalRegisters

/-- The write is refused after it has taken effect, and its rollback is refused before. -/
def bothWritesFault : PreviewSite → Option Fault
  | .write => some ⟨"The response timed out.", true⟩
  | .rollbackWrite => some ⟨"The response timed out.", false⟩
  | _ => none

/-- The previewed gain is in the register, and its original is in no journal although every record
that the preview offers is accepted by it. -/
theorem applyDiagnosticParameterPreview_leavesWayBack_counterexample :
    let applied := applyDiagnosticParameterPreview bothWritesFault (fun _ record _ =>
        saveValidRecord record) false previewModule runningSession
      { selectedQuad := 3, registerOffset := 0x611A, requestedValue := 1200 } "recovery.journal"
    saveValidRecord runningSession.recoveryRecord = none ∧
      applied.1.writeAttempted = true ∧ applied.1.rollbackVerified = false ∧
      applied.2.1.recoveryRecord.previewRestoreRequired = false ∧
      saveValidRecord applied.2.1.recoveryRecord = none ∧
      applied.2.2.banks (3, 0x611A) = 1200 := by
  decide +kernel

end Fidget
