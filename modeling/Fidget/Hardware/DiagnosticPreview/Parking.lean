import Fidget.Hardware.DiagnosticPreview.Recovery
import Fidget.Hardware.SentWrites

/-!
# Whether a preview parks the selector

The flag that the selector has been written to is set once the write has been answered. If the
answer is lost, the transaction takes the selector to be where it was: it does not park it, and it
resumes the acquisition.

The statement is about the log of the writes, so for every step of the transaction it is said which
writes it adds. Steps that add none and change no flag are put together by `SendsNothing`, and what
remains are the pause, the selection, the write with its rollback, the parking and the resuming.

## Main results

- `SendsWrites`, `SendsNothing`: what a step adds to the log of the run, and what it leaves alone.
- `completePreview_of_selected`: a selection that was answered is followed by a parking, and nothing
  is enabled before that was answered.
- `completePreview_of_lost`: after one that was lost nothing is parked, and the acquisition is
  resumed.
- `previewTransactionWrites_park`: when a preview parks the selector, and when it resumes elsewhere.
-/

namespace Fidget

/-! ### What the steps leave alone

Readings, comparisons and the journal. None of them is seen by the module. -/

/-- The module and the writes that have led to it. -/
abbrev PreviewRun.trace (run : PreviewRun) : Bench × List SentWrite := (run.bench, run.sent)

/-- The second run has sent these writes, and what parking and resuming are decided on is as it
was. -/
structure SendsWrites (writes : List SentWrite) (run run' : PreviewRun) : Prop
    extends CallTrace.Logged SentWrite.effect writes run.trace run'.trace where
  selected : run'.selectorSelected = run.selectorSelected
  parked : run'.result.selectorParkedAtQuadZero = run.result.selectorParkedAtQuadZero
  modulePaused : run'.result.modulePaused = run.result.modulePaused
  daqModePaused : run'.result.daqModePaused = run.result.daqModePaused

/-- Nothing has been sent, nor noted as sent. -/
structure SendsNothing (run run' : PreviewRun) : Prop extends SendsWrites [] run run' where
  attempted : run'.result.writeAttempted = run.result.writeAttempted
  restored : run'.result.restoreAttempted = run.result.restoreAttempted
  failed : run.failure ≠ "" → run'.failure ≠ ""

/-- Two steps. -/
theorem SendsWrites.trans {writes writes' : List SentWrite} {run run' run'' : PreviewRun}
    (h : SendsWrites writes run run') (h' : SendsWrites writes' run' run'') :
    SendsWrites (writes ++ writes') run run'' where
  toLogged := h.toLogged.trans h'.toLogged
  selected := h'.selected.trans h.selected
  parked := h'.parked.trans h.parked
  modulePaused := h'.modulePaused.trans h.modulePaused
  daqModePaused := h'.daqModePaused.trans h.daqModePaused

/-- A step that writes nothing. -/
theorem sendsWrites_nil {run run' : PreviewRun} (hbench : run'.bench = run.bench)
    (hsent : run'.sent = run.sent) (hselected : run'.selectorSelected = run.selectorSelected)
    (hparked : run'.result.selectorParkedAtQuadZero = run.result.selectorParkedAtQuadZero)
    (hmodule : run'.result.modulePaused = run.result.modulePaused)
    (hdaqMode : run'.result.daqModePaused = run.result.daqModePaused) :
    SendsWrites [] run run' :=
  ⟨CallTrace.logged_nil hbench hsent, hselected, hparked, hmodule, hdaqMode⟩

theorem SendsWrites.refl (run : PreviewRun) : SendsWrites [] run run :=
  sendsWrites_nil rfl rfl rfl rfl rfl rfl

theorem SendsNothing.refl (run : PreviewRun) : SendsNothing run run :=
  ⟨.refl run, rfl, rfl, id⟩

/-- Two such steps. -/
theorem SendsNothing.trans {run run' run'' : PreviewRun} (h : SendsNothing run run')
    (h' : SendsNothing run' run'') : SendsNothing run run'' where
  toSendsWrites := h.toSendsWrites.trans h'.toSendsWrites
  attempted := h'.attempted.trans h.attempted
  restored := h'.restored.trans h.restored
  failed := h'.failed ∘ h.failed

/-- Noting a failure sends nothing. -/
theorem sendsNothing_fail (run : PreviewRun) {message : String} (h : message ≠ "") :
    SendsNothing run (run.fail message) :=
  ⟨sendsWrites_nil rfl rfl rfl rfl rfl rfl, rfl, rfl, fun _ => PreviewRun.failure_fail run h⟩

/-- What the second run has sent neither moves the selector nor enables anything. -/
def WritesPlainly (run run' : PreviewRun) : Prop :=
  ∃ writes, SendsWrites writes run run' ∧ ∀ write ∈ writes, write.Plain

theorem WritesPlainly.refl (run : PreviewRun) : WritesPlainly run run :=
  ⟨[], .refl run, nofun⟩

/-- Two such steps. -/
theorem WritesPlainly.trans {run run' run'' : PreviewRun} (h : WritesPlainly run run')
    (h' : WritesPlainly run' run'') : WritesPlainly run run'' := by
  obtain ⟨writes, hsends, hplain⟩ := h
  obtain ⟨writes', hsends', hplain'⟩ := h'
  exact ⟨writes ++ writes', hsends.trans hsends', fun write hwrite =>
    (List.mem_append.mp hwrite).elim (hplain write) (hplain' write)⟩

section Steps

variable {fault : PreviewSite → Option Fault} {save : JournalSaver}
  {cancellationRequested : Bool} {recoveryJournalPath : String}
  {definition : Fw2051ScpSettingDefinition} {request : PreviewTransactionRequest}
  {run : PreviewRun}

/-- The current value is only read. -/
theorem sendsNothing_captureCurrentValue :
    SendsNothing run (captureCurrentValue fault request run) := by
  unfold captureCurrentValue
  split
  · split
    · exact sendsNothing_fail run (registerOperationError_ne _ _ _ _)
    · dsimp only
      split
      · exact ⟨sendsWrites_nil rfl rfl rfl rfl rfl rfl, rfl, rfl, id⟩
      · exact ⟨sendsWrites_nil rfl rfl rfl rfl rfl rfl, rfl, rfl, id⟩
  · exact .refl run

/-- So is the dependency. -/
theorem sendsNothing_checkDependency :
    SendsNothing run (checkDependency fault definition request run) := by
  unfold checkDependency
  split
  · dsimp only
    split
    · exact ⟨sendsWrites_nil rfl rfl rfl rfl rfl rfl, rfl, rfl,
        fun _ => PreviewRun.failure_fail _ (registerOperationError_ne _ _ _ _)⟩
    · split
      · exact ⟨sendsWrites_nil rfl rfl rfl rfl rfl rfl, rfl, rfl, id⟩
      · refine ⟨sendsWrites_nil rfl rfl rfl rfl rfl rfl, rfl, rfl,
          fun _ => PreviewRun.failure_fail _ ?_⟩
        iterate 10 apply append_ne
        decide
  · exact .refl run

/-- Comparing the value sends nothing. -/
theorem sendsNothing_checkCurrentValue : SendsNothing run (checkCurrentValue request run) := by
  unfold checkCurrentValue
  split
  · refine sendsNothing_fail run ?_
    iterate 2 apply append_ne
    decide
  · split
    · refine sendsNothing_fail run ?_
      iterate 3 apply append_ne
      decide
    · exact .refl run

/-- Nor does asking for a cancellation. -/
theorem sendsNothing_checkCancellation :
    SendsNothing run (checkCancellation cancellationRequested request run) := by
  unfold checkCancellation
  split
  · exact sendsNothing_fail run (by decide)
  · exact .refl run

/-- Saving the record touches no hardware. -/
theorem sendsNothing_savePreviewRecoveryState (site : PreviewSave) :
    SendsNothing run (savePreviewRecoveryState save recoveryJournalPath request run site).2 := by
  unfold savePreviewRecoveryState
  dsimp only
  split
  · exact .refl run
  · exact ⟨sendsWrites_nil rfl rfl rfl rfl rfl rfl, rfl, rfl, id⟩

/-- So does arming it. -/
theorem sendsNothing_armRecovery :
    SendsNothing run (armRecovery save recoveryJournalPath request run) := by
  unfold armRecovery
  split
  · have hsaved := @sendsNothing_savePreviewRecoveryState save recoveryJournalPath request run .arm
    split
    next heq =>
      rw [heq] at hsaved
      refine hsaved.trans (sendsNothing_fail _ ?_)
      iterate 2 apply append_ne
      decide
    next heq =>
      rw [heq] at hsaved
      exact hsaved.trans ⟨sendsWrites_nil rfl rfl rfl rfl rfl rfl, rfl, rfl, id⟩
  · exact .refl run

/-- And relieving it. -/
theorem sendsNothing_disarmRecovery :
    SendsNothing run (disarmRecovery save recoveryJournalPath request run) := by
  unfold disarmRecovery
  split
  · have hsaved :=
      @sendsNothing_savePreviewRecoveryState save recoveryJournalPath request run .disarm
    split
    next heq =>
      rw [heq] at hsaved
      refine hsaved.trans (sendsNothing_fail _ ?_)
      iterate 2 apply append_ne
      decide
    next heq =>
      rw [heq] at hsaved
      exact hsaved
  · exact .refl run

/-! ### The steps that write

A write is logged before it is known what became of it, so the log does not depend on the faults of
the last write. -/

/-- What a write leaves behind, whether it fails or not. -/
theorem PreviewRun.write_eq (site : PreviewSite) (registerOffset value : UInt16) :
    run.write fault site registerOffset value =
      ((fault site).map (·.error), { run with
        bench := SentWrite.effect (.vme registerOffset value (site = .park) (fault site)) run.bench
        sent := run.sent ++ [.vme registerOffset value (site = .park) (fault site)] }) := by
  unfold PreviewRun.write
  cases fault site <;> rfl

/-- A single write to a banked register. -/
theorem writesPlainly_of_sends {registerOffset value : UInt16} {failed : Option Fault}
    {run' : PreviewRun} (h : SendsWrites [.vme registerOffset value false failed] run run')
    (hbanked : registerOffset ∈ scpRegisterOffsets) : WritesPlainly run run' :=
  ⟨_, h, fun write hwrite => by
    rw [List.mem_singleton.mp hwrite]
    exact plain_banked hbanked⟩

/-- The write of the preview neither selects nor starts. -/
theorem writesPlainly_writeParameter (hbanked : request.registerOffset ∈ scpRegisterOffsets) :
    WritesPlainly run (writeParameter fault request run) := by
  unfold writeParameter
  split
  · dsimp only
    generalize (if request.action = .apply then request.requestedValue
      else request.originalValue) = targetValue
    refine @writesPlainly_of_sends run request.registerOffset targetValue (fault .write) _ ?_
      hbanked
    rw [PreviewRun.write_eq]
    cases fault .write with
    | some failed => exact ⟨⟨rfl, rfl⟩, rfl, rfl, rfl, rfl⟩
    | none =>
        dsimp only [Option.map_none]
        split
        · exact ⟨⟨rfl, rfl⟩, rfl, rfl, rfl, rfl⟩
        · split
          · exact ⟨⟨rfl, rfl⟩, rfl, rfl, rfl, rfl⟩
          · split <;> exact ⟨⟨rfl, rfl⟩, rfl, rfl, rfl, rfl⟩
  · exact .refl run

/-- Nor does its rollback. -/
theorem writesPlainly_rollbackParameter (hbanked : request.registerOffset ∈ scpRegisterOffsets) :
    WritesPlainly run (rollbackParameter fault request run) := by
  unfold rollbackParameter
  split
  · refine @writesPlainly_of_sends run request.registerOffset run.result.originalValue
      (fault .rollbackWrite) _ ?_ hbanked
    dsimp only
    rw [PreviewRun.write_eq]
    cases fault .rollbackWrite with
    | some failed => exact ⟨⟨rfl, rfl⟩, rfl, rfl, rfl, rfl⟩
    | none =>
        dsimp only [Option.map_none]
        split
        · exact ⟨⟨rfl, rfl⟩, rfl, rfl, rfl, rfl⟩
        · split <;> exact ⟨⟨rfl, rfl⟩, rfl, rfl, rfl, rfl⟩
  · exact .refl run

/-- The write that the transaction is about, and its rollback. -/
theorem writesPlainly_attempt (hbanked : request.registerOffset ∈ scpRegisterOffsets) :
    WritesPlainly run (rollbackParameter fault request (writeParameter fault request run)) :=
  (writesPlainly_writeParameter hbanked).trans (writesPlainly_rollbackParameter hbanked)

/-- The parking is one more entry of the log. -/
theorem logsWrites_parkPreviewSelector (hselected : run.selectorSelected = true) :
    LogsWrites [.vme fw2051ScpSelectorRegister 0 true (fault .park)] run.trace
      (parkPreviewSelector fault run).trace := by
  unfold parkPreviewSelector
  rw [if_pos hselected, PreviewRun.write_eq]
  cases fault .park with
  | some failed => exact ⟨rfl, rfl⟩
  | none => exact ⟨rfl, rfl⟩

/-- Resuming either does nothing or sends what resuming sends. -/
theorem logsWrites_resumePreview : LogsWrites
    (if request.resumeAfterTransaction ∧ run.result.modulePaused ∧ run.result.daqModePaused ∧
      previewConfigurationSafe request run.result ∧ previewSelectorSafe run then
        resumeWrites (fault ∘ .resume) else []) run.trace
    (resumePreview fault request run).trace := by
  unfold resumePreview
  split
  · exact ⟨(replay_resumeWrites (fault ∘ .resume) run.bench).symm, rfl⟩
  · exact .refl _

/-- So are the writes that pause. -/
theorem logsWrites_pausePreview :
    LogsWrites (pauseWrites (fault ∘ .pause)) run.trace (pausePreview fault run).trace :=
  ⟨(replay_pauseWrites (fault ∘ .pause) run.bench).symm, rfl⟩

/-- So is the selection. -/
theorem logsWrites_selectPreviewQuad
    (hpaused : run.result.modulePaused ∧ run.result.daqModePaused) :
    LogsWrites [.vme fw2051ScpSelectorRegister request.selectedQuad false (fault .select)] run.trace
      (selectPreviewQuad fault request run).trace := by
  unfold selectPreviewQuad
  rw [if_pos hpaused, PreviewRun.write_eq]
  cases fault .select with
  | some failed => exact ⟨rfl, rfl⟩
  | none => exact ⟨rfl, rfl⟩

/-- The steps between the selection and the write. -/
theorem sendsNothing_afterSelecting : SendsNothing (selectPreviewQuad fault request
    (pausePreview fault run)) (preparePreview fault save cancellationRequested recoveryJournalPath
      definition request run) :=
  sendsNothing_captureCurrentValue.trans (sendsNothing_checkDependency.trans
    (sendsNothing_checkCurrentValue.trans (sendsNothing_checkCancellation.trans
      sendsNothing_armRecovery)))

/-! ### Whether the selector is known to be selected

Three cases: the pause is not complete and nothing was selected; the selection was answered; or its
answer was lost, and then the selector may have moved although the transaction does not know it. -/

/-- The run before the pause. -/
structure Unselected (run : PreviewRun) : Prop where
  selector : run.bench.selector = 0
  selected : run.selectorSelected = false
  parked : run.result.selectorParkedAtQuadZero = false
  attempted : run.result.writeAttempted = false
  restored : run.result.restoreAttempted = false

/-- Pausing selects nothing. -/
theorem Unselected.paused (h : Unselected run) : Unselected (pausePreview fault run) where
  selector := by
    show (pausePreview fault run).trace.1.selector = 0
    rw [(@logsWrites_pausePreview fault run).state,
      selector_of_aside fun write hwrite => (pauseWrites_plain _ write hwrite).toAside]
    exact h.selector
  selected := h.selected
  parked := h.parked
  attempted := h.attempted
  restored := h.restored

/-- The module is paused if the pause is undisturbed. -/
theorem paused_iff : ((pausePreview fault run).result.modulePaused = true ∧
    (pausePreview fault run).result.daqModePaused = true) ↔ PauseUndisturbed (fault ∘ .pause) := by
  refine (pauseDiagnosticDataTaking_paused_iff (fault ∘ .pause) run.bench).trans ?_
  exact ⟨fun h => ⟨h.1, h.2.1, h.2.2⟩, fun h => ⟨h.module, h.daqMode, h.daqModeReadback⟩⟩

/-- Without a complete pause nothing is selected. -/
theorem prepared_of_unpaused (hpause : ¬PauseUndisturbed (fault ∘ .pause)) :
    let prepared := preparePreview fault save cancellationRequested recoveryJournalPath definition
      request run
    LogsWrites (pauseWrites (fault ∘ .pause)) run.trace prepared.trace ∧
      prepared.selectorSelected = run.selectorSelected := by
  intro prepared
  have hsame : selectPreviewQuad fault request (pausePreview fault run) = pausePreview fault run :=
    if_neg fun hboth => hpause (paused_iff.mp hboth)
  have hnothing := @sendsNothing_afterSelecting fault save cancellationRequested
    recoveryJournalPath definition request run
  rw [hsame] at hnothing
  exact ⟨logsWrites_pausePreview.then hnothing.toLogged, hnothing.selected⟩

/-- After a complete pause the bank is selected. -/
theorem logsWrites_prepared_of_paused (hpause : PauseUndisturbed (fault ∘ .pause)) :
    LogsWrites (pauseWrites (fault ∘ .pause) ++
        [.vme fw2051ScpSelectorRegister request.selectedQuad false (fault .select)]) run.trace
      (preparePreview fault save cancellationRequested recoveryJournalPath definition request
        run).trace :=
  (logsWrites_pausePreview.trans (logsWrites_selectPreviewQuad (paused_iff.mpr hpause))).then
    sendsNothing_afterSelecting.toLogged

/-- A selection that is answered is known to the transaction. -/
theorem prepared_of_answered (h : Unselected run) (hpause : PauseUndisturbed (fault ∘ .pause))
    (hselect : fault .select = none) :
    let prepared := preparePreview fault save cancellationRequested recoveryJournalPath definition
      request run
    prepared.selectorSelected = true ∧ prepared.result.selectorParkedAtQuadZero = false := by
  intro prepared
  have hnothing := @sendsNothing_afterSelecting fault save cancellationRequested
    recoveryJournalPath definition request run
  have hunselected := @Unselected.paused fault run h
  have hpaused := (@paused_iff fault run).mpr hpause
  generalize pausePreview fault run = paused at hnothing hpaused hunselected
  rw [selectPreviewQuad, if_pos hpaused, PreviewRun.write_of_success hselect] at hnothing
  exact ⟨hnothing.selected, hnothing.parked.trans hunselected.parked⟩

/-- A selection whose answer is lost may have taken effect, and is not known to the transaction. -/
theorem prepared_of_lost (h : Unselected run) (hpause : PauseUndisturbed (fault ∘ .pause))
    (hselect : fault .select ≠ none) :
    let prepared := preparePreview fault save cancellationRequested recoveryJournalPath definition
      request run
    prepared.selectorSelected = false ∧ prepared.failure ≠ "" ∧
      prepared.result.writeAttempted = false ∧ prepared.result.restoreAttempted = false ∧
      prepared.result.modulePaused = true ∧ prepared.result.daqModePaused = true := by
  intro prepared
  obtain ⟨failed, hfailed⟩ := Option.ne_none_iff_exists'.mp hselect
  have hnothing := @sendsNothing_afterSelecting fault save cancellationRequested
    recoveryJournalPath definition request run
  have hpaused := (@paused_iff fault run).mpr hpause
  have hunselected := @Unselected.paused fault run h
  generalize pausePreview fault run = paused at hnothing hpaused hunselected
  rw [selectPreviewQuad, if_pos hpaused, PreviewRun.write_of_fault hfailed] at hnothing
  refine ⟨hnothing.selected.trans hunselected.selected,
    hnothing.failed (PreviewRun.failure_fail _ (registerOperationError_ne _ _ _ _)),
    hnothing.attempted.trans hunselected.attempted, hnothing.restored.trans hunselected.restored,
    hnothing.modulePaused.trans hpaused.1, hnothing.daqModePaused.trans hpaused.2⟩

/-! ### The end of the transaction

What the transaction does at its end follows from what it knows. After a lost selection it goes
straight on to resume the acquisition. -/

/-- What resumes the acquisition is no selection. -/
theorem aside_resumingPreview (resumes : Prop) [Decidable resumes] :
    ∀ write ∈ if resumes then resumeWrites (fault ∘ .resume) else [], write.Aside := by
  split
  · exact resumeWrites_aside _
  · exact nofun

/-- The log accounts for whatever is done to the module from the write on. -/
theorem logsWrites_completePreview (hbanked : request.registerOffset ∈ scpRegisterOffsets) :
    ∃ writes, LogsWrites writes run.trace
      (completePreview fault save recoveryJournalPath request run).trace := by
  obtain ⟨attempt, hsends, -⟩ := @writesPlainly_attempt fault request run hbanked
  unfold completePreview
  dsimp only
  generalize rollbackParameter fault request (writeParameter fault request run) = undone
    at hsends ⊢
  obtain ⟨parking, hparking⟩ : ∃ writes,
      LogsWrites writes undone.trace (parkPreviewSelector fault undone).trace := by
    by_cases hselected : undone.selectorSelected = true
    · exact ⟨_, logsWrites_parkPreviewSelector hselected⟩
    · exact ⟨[], by
        rw [parkPreviewSelector, if_neg hselected]
        exact .refl _⟩
  exact ⟨_, ((hsends.toLogged.trans hparking).then sendsNothing_disarmRecovery.toLogged).trans
    logsWrites_resumePreview⟩

/-- A transaction that knows of no selection parks nothing. -/
theorem completePreview_of_unselected (hbanked : request.registerOffset ∈ scpRegisterOffsets)
    (hselected : run.selectorSelected = false) :
    ∃ writes, LogsWrites writes run.trace
        (completePreview fault save recoveryJournalPath request run).trace ∧
      ∀ write ∈ writes, write.Aside := by
  obtain ⟨writes, hsends, hplain⟩ := @writesPlainly_attempt fault request run hbanked
  unfold completePreview
  dsimp only
  generalize rollbackParameter fault request (writeParameter fault request run) = undone
    at hsends ⊢
  have hundone := hsends.selected.trans hselected
  rw [parkPreviewSelector, hundone, if_neg Bool.false_ne_true]
  have hdisarmed := @sendsNothing_disarmRecovery save recoveryJournalPath request undone
  refine ⟨_, (hsends.toLogged.then hdisarmed.toLogged).trans logsWrites_resumePreview,
    fun write hwrite => ?_⟩
  rcases List.mem_append.mp hwrite with hattempt | hresume
  · exact (hplain write hattempt).toAside
  · exact aside_resumingPreview _ write hresume

/-- The selector is taken to be parked only if the parking write was answered. -/
theorem parked_parkPreviewSelector (hselected : run.selectorSelected = true)
    (hunparked : run.result.selectorParkedAtQuadZero = false)
    (hsafe : previewSelectorSafe (parkPreviewSelector fault run) = true) : fault .park = none := by
  unfold parkPreviewSelector at hsafe
  rw [if_pos hselected] at hsafe
  cases hfault : fault .park with
  | none => rfl
  | some failed =>
      rw [PreviewRun.write_of_fault hfault] at hsafe
      simp [previewSelectorSafe, PreviewRun.fail, hselected, hunparked] at hsafe

/-- A transaction that knows of its selection parks it before anything is enabled. -/
theorem completePreview_of_selected (hbanked : request.registerOffset ∈ scpRegisterOffsets)
    (hselected : run.selectorSelected = true)
    (hunparked : run.result.selectorParkedAtQuadZero = false) :
    ∃ writes, LogsWrites writes run.trace
        (completePreview fault save recoveryJournalPath request run).trace ∧
      (ParksAfterSelecting writes ∧ ∃ write ∈ writes, write.Parks) ∧
      ∀ bench, EnablesParked writes bench := by
  obtain ⟨attempt, hsends, hplain⟩ := @writesPlainly_attempt fault request run hbanked
  unfold completePreview
  dsimp only
  generalize rollbackParameter fault request (writeParameter fault request run) = undone
    at hsends ⊢
  have hundone := hsends.selected.trans hselected
  have hparking := @logsWrites_parkPreviewSelector fault undone hundone
  have hanswered := @parked_parkPreviewSelector fault undone hundone
    (hsends.parked.trans hunparked)
  generalize parkPreviewSelector fault undone = parked at hparking hanswered ⊢
  have hdisarmed := @sendsNothing_disarmRecovery save recoveryJournalPath request parked
  have hkept : previewSelectorSafe (disarmRecovery save recoveryJournalPath request parked) =
      previewSelectorSafe parked := by
    rw [previewSelectorSafe, hdisarmed.selected, hdisarmed.parked]
    rfl
  generalize disarmRecovery save recoveryJournalPath request parked = disarmed
    at hdisarmed hkept ⊢
  have hlogged := (hsends.toLogged.trans hparking).then hdisarmed.toLogged
  refine ⟨_, hlogged.trans logsWrites_resumePreview, ⟨?_, ?_⟩, fun bench => ?_⟩
  · -- the one parking comes after the attempt
    refine (CallTrace.Answered.append ?_ ?_).append (answered_of_aside (aside_resumingPreview _))
    · exact answered_of_aside fun write hwrite => (hplain write hwrite).toAside
    · exact CallTrace.answered_of_forall_not fun write hwrite => by
        rw [List.mem_singleton.mp hwrite]
        exact not_selects_parking
  · exact ⟨_, List.mem_append_left _ (List.mem_append_right _ List.mem_cons_self), rfl, rfl, rfl⟩
  · rw [EnablesParked, CallTrace.permitted_append, CallTrace.permitted_append]
    refine ⟨⟨enablesParked_of_none (fun write hwrite => (hplain write hwrite).enables) _,
      enablesParked_of_none (fun write hwrite => ?_) _⟩, ?_⟩
    · rw [List.mem_singleton.mp hwrite]
      exact not_enables_selector
    · -- the acquisition is resumed only when the parking write was answered
      by_cases hsafe : previewSelectorSafe disarmed = true
      · refine enablesParked_of_aside (aside_resumingPreview _) ?_
        rw [hanswered (hkept.symm.trans hsafe), CallTrace.replay_append]
        exact Bench.selector_write_selector
      · rw [if_neg fun hguard => hsafe hguard.2.2.2.2]
        trivial

/-- After a lost selection the transaction goes straight to the resuming. -/
theorem completePreview_of_lost (hselected : run.selectorSelected = false)
    (hfailed : run.failure ≠ "") (hattempted : run.result.writeAttempted = false)
    (hrestored : run.result.restoreAttempted = false) (hmodule : run.result.modulePaused = true)
    (hdaqMode : run.result.daqModePaused = true) :
    LogsWrites (if request.resumeAfterTransaction then resumeWrites (fault ∘ .resume) else [])
      run.trace (completePreview fault save recoveryJournalPath request run).trace := by
  -- nothing was attempted: no write, no rollback, and no selector to park
  have hwrite : writeParameter fault request run = run := if_neg hfailed
  have hrollback : rollbackParameter fault request run = run := by
    rw [rollbackParameter, if_neg]
    rintro ⟨-, hsent, -⟩
    rw [hattempted] at hsent
    cases hsent
  have hpark : parkPreviewSelector fault run = run := by
    rw [parkPreviewSelector, hselected, if_neg Bool.false_ne_true]
  have hdisarmed := @sendsNothing_disarmRecovery save recoveryJournalPath request run
  unfold completePreview
  dsimp only
  rw [hwrite, hrollback, hpark]
  generalize disarmRecovery save recoveryJournalPath request run = disarmed at hdisarmed ⊢
  have hconfiguration : previewConfigurationSafe request disarmed.result = true := by
    rw [previewConfigurationSafe, hdisarmed.attempted, hdisarmed.restored, hattempted, hrestored]
    simp
  have hsafe : previewSelectorSafe disarmed = true := by
    rw [previewSelectorSafe, hdisarmed.selected, hselected]
    rfl
  have hresumed := hdisarmed.toLogged.trans (@logsWrites_resumePreview fault request disarmed)
  rw [hdisarmed.modulePaused, hdisarmed.daqModePaused, hmodule, hdaqMode, hconfiguration, hsafe,
    List.nil_append] at hresumed
  simpa only [and_true] using hresumed

/-! ### The transaction without its checks

From the pause to the end, with the three cases put together. -/

/-- The log accounts for whatever is done from the pause on. -/
theorem logsWrites_pausedPreview (hbanked : request.registerOffset ∈ scpRegisterOffsets) :
    ∃ writes, LogsWrites writes run.trace (completePreview fault save recoveryJournalPath request
      (preparePreview fault save cancellationRequested recoveryJournalPath definition request
        run)).trace := by
  obtain ⟨writes, hcomplete⟩ := @logsWrites_completePreview fault save recoveryJournalPath request
    (preparePreview fault save cancellationRequested recoveryJournalPath definition request run)
    hbanked
  by_cases hpause : PauseUndisturbed (fault ∘ .pause)
  · exact ⟨_, (logsWrites_prepared_of_paused hpause).trans hcomplete⟩
  · exact ⟨_, (prepared_of_unpaused hpause).1.trans hcomplete⟩

/-- Whether the selector is parked from the pause on. -/
theorem pausedPreview_parks (h : Unselected run)
    (hbanked : request.registerOffset ∈ scpRegisterOffsets) :
    ∃ writes, LogsWrites writes run.trace (completePreview fault save recoveryJournalPath request
        (preparePreview fault save cancellationRequested recoveryJournalPath definition request
          run)).trace ∧
      (ParksAfterSelecting writes ↔
        ¬(PauseUndisturbed (fault ∘ .pause) ∧ fault .select ≠ none)) ∧
      (EnablesParked writes run.bench ↔ ¬(PauseUndisturbed (fault ∘ .pause) ∧
        ResumesElsewhere (fault .select) request.selectedQuad request.resumeAfterTransaction
          (fault ∘ .resume))) := by
  have hplain := pauseWrites_plain (fault ∘ .pause)
  by_cases hpause : PauseUndisturbed (fault ∘ .pause)
  · have hselects := @logsWrites_prepared_of_paused fault save cancellationRequested
      recoveryJournalPath definition request run hpause
    simp only [hpause, true_and]
    by_cases hselect : fault .select = none
    · -- the selection is answered
      obtain ⟨hselected, hunparked⟩ := @prepared_of_answered fault save cancellationRequested
        recoveryJournalPath definition request run h hpause hselect
      obtain ⟨writes, hcomplete, hparks, henables⟩ := @completePreview_of_selected fault save
        recoveryJournalPath request _ hbanked hselected hunparked
      refine ⟨_, hselects.trans hcomplete, ?_, ?_⟩
      · exact (parksAfterSelecting_iff hplain (fun _ => hparks)
          fun hlost => absurd hselect hlost).trans not_not.symm
      · exact enablesParked_iff hplain h.selector (fun _ => henables)
          fun hlost => absurd hselect hlost
    · -- the selection is lost: the preview takes no bank to be selected, and may resume elsewhere
      obtain ⟨hselected, hfailed, hattempted, hrestored, hmodule, hdaqMode⟩ :=
        @prepared_of_lost fault save cancellationRequested recoveryJournalPath definition request
          run h hpause hselect
      have hcomplete := @completePreview_of_lost fault save recoveryJournalPath request _ hselected
        hfailed hattempted hrestored hmodule hdaqMode
      refine ⟨_, hselects.trans hcomplete, ?_, ?_⟩
      · exact (parksAfterSelecting_iff hplain (fun hanswered => absurd hanswered hselect)
          fun _ => aside_resumingPreview _).trans not_not.symm
      · exact enablesParked_iff hplain h.selector (fun hanswered => absurd hanswered hselect)
          fun _ => rfl
  · -- the module is not paused, and no bank is selected
    obtain ⟨hpauses, hselected⟩ := @prepared_of_unpaused fault save cancellationRequested
      recoveryJournalPath definition request run hpause
    obtain ⟨writes, hcomplete, haside⟩ := @completePreview_of_unselected fault save
      recoveryJournalPath request _ hbanked (hselected.trans h.selected)
    have hall : ∀ write ∈ pauseWrites (fault ∘ .pause) ++ writes, write.Aside :=
      fun write hwrite => (List.mem_append.mp hwrite).elim
        (fun hpauseWrite => (hplain write hpauseWrite).toAside) (haside write)
    exact ⟨_, hpauses.trans hcomplete,
      iff_of_true (answered_of_aside hall) fun hlost => hpause hlost.1,
      iff_of_true (enablesParked_of_aside hall h.selector) fun helse => hpause helse.1⟩

end Steps

/-! ### The transaction

A transaction that does not pass its checks sends nothing, so that neither question arises. -/

/-- The transaction passes its checks. -/
structure PreviewAdmitted (fault : PreviewSite → Option Fault) (bench : Bench)
    (session : DiagnosticAcquisitionPreparationResult) (request : PreviewTransactionRequest)
    (recoveryJournalPath : String) : Prop where
  accepted : ∃ definition,
    validatePreviewRequest session request recoveryJournalPath = .ok definition
  owned : (verifyDiagnosticOwnershipFingerprint (fault .fingerprint) bench session).outcome =
    .verified

section Transaction

variable (fault : PreviewSite → Option Fault) (save : JournalSaver)
  (cancellationRequested : Bool) (recoveryJournalPath : String)
  (request : PreviewTransactionRequest) (bench : Bench)
  (session : DiagnosticAcquisitionPreparationResult)

/-- The writes that `executePreviewTransaction` sends. -/
def previewTransactionWrites : List SentWrite :=
  (previewTransactionRun fault save cancellationRequested bench session request
    recoveryJournalPath).sent

/-- A transaction that is refused sends nothing; any other goes through with all of its steps. -/
theorem previewTransaction_cases :
    let transaction := previewTransactionRun fault save cancellationRequested bench session request
      recoveryJournalPath
    (¬PreviewAdmitted fault bench session request recoveryJournalPath ∧
        transaction.trace = (bench, [])) ∨
      (PreviewAdmitted fault bench session request recoveryJournalPath ∧
        request.registerOffset ∈ scpRegisterOffsets ∧
        ∃ definition run, run.trace = (bench, []) ∧ (bench.selector = 0 → Unselected run) ∧
          transaction.trace = (completePreview fault save recoveryJournalPath request
            (preparePreview fault save cancellationRequested recoveryJournalPath definition request
              run)).trace) := by
  unfold previewTransactionRun
  dsimp only
  cases hvalid : validatePreviewRequest session request recoveryJournalPath with
  | error message =>
      refine .inl ⟨?_, rfl⟩
      rintro ⟨⟨definition, haccepted⟩, -⟩
      rw [hvalid] at haccepted
      cases haccepted
  | ok definition =>
      by_cases howned : (verifyDiagnosticOwnershipFingerprint (fault .fingerprint) bench
          session).outcome = .verified
      · simp only [if_neg (not_not.mpr howned)]
        refine .inr ⟨⟨⟨definition, hvalid⟩, howned⟩, ?_, definition, _, rfl,
          fun hparked => ⟨hparked, rfl, rfl, rfl, rfl⟩, rfl⟩
        rw [← findFw2051ScpSetting_isSome, findFw2051ScpSetting_of_validate hvalid]
        rfl
      · simp only [if_pos (show _ ≠ _ from howned)]
        exact .inl ⟨fun hadmitted => howned hadmitted.owned, trivial⟩

/-- The log accounts for all that the transaction does to the module. -/
theorem replay_previewTransactionWrites :
    CallTrace.replay SentWrite.effect (previewTransactionWrites fault save cancellationRequested
        recoveryJournalPath request bench session) bench =
      (executePreviewTransaction fault save cancellationRequested bench session request
        recoveryJournalPath).2.2 := by
  unfold previewTransactionWrites executePreviewTransaction
  dsimp only
  rcases previewTransaction_cases fault save cancellationRequested recoveryJournalPath request bench
    session with ⟨-, htrace⟩ | ⟨-, hbanked, definition, run, hrun, -, htrace⟩
  · obtain ⟨hbench, hsent⟩ := Prod.mk.inj htrace
    rw [hbench, hsent]
    rfl
  · obtain ⟨hbench, hsent⟩ := Prod.mk.inj hrun
    obtain ⟨hbench', hsent'⟩ := Prod.mk.inj htrace
    obtain ⟨writes, hlogged⟩ := @logsWrites_pausedPreview fault save cancellationRequested
      recoveryJournalPath definition request run hbanked
    rw [hbench', hsent', show (completePreview ..).sent = writes from hlogged.eq_of_nil hsent,
      ← hbench]
    exact hlogged.state.symm

/-- Every selection is parked exactly when none of them goes unanswered, and nothing is enabled on
another bank exactly when no such selection has taken effect by the time the acquisition resumes. -/
theorem previewTransactionWrites_park (hparked : bench.selector = 0) :
    let writes := previewTransactionWrites fault save cancellationRequested recoveryJournalPath
      request bench session
    (ParksAfterSelecting writes ↔
        ¬(PreviewAdmitted fault bench session request recoveryJournalPath ∧
          PauseUndisturbed (fault ∘ .pause) ∧ fault .select ≠ none)) ∧
      (EnablesParked writes bench ↔
        ¬(PreviewAdmitted fault bench session request recoveryJournalPath ∧
          PauseUndisturbed (fault ∘ .pause) ∧ ResumesElsewhere (fault .select)
            request.selectedQuad request.resumeAfterTransaction (fault ∘ .resume))) := by
  unfold previewTransactionWrites
  rcases previewTransaction_cases fault save cancellationRequested recoveryJournalPath request bench
    session with ⟨hnot, htrace⟩ | ⟨hadmitted, hbanked, definition, run, hrun, hunselected, htrace⟩
  · rw [(Prod.mk.inj htrace).2]
    exact ⟨iff_of_true trivial fun h => hnot h.1, iff_of_true trivial fun h => hnot h.1⟩
  · obtain ⟨hbench, hsent⟩ := Prod.mk.inj hrun
    obtain ⟨writes, hlogged, hparks, henables⟩ := @pausedPreview_parks fault save
      cancellationRequested recoveryJournalPath definition request run (hunselected hparked) hbanked
    rw [(Prod.mk.inj htrace).2,
      show (completePreview ..).sent = writes from hlogged.eq_of_nil hsent, ← hbench]
    rw [← hbench] at hadmitted
    simp only [hadmitted, true_and]
    exact ⟨hparks, henables⟩

end Transaction

end Fidget
