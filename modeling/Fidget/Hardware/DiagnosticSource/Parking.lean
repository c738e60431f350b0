import Fidget.Hardware.DiagnosticSource.WayBack
import Fidget.Hardware.DiagnosticPreview.Recovery
import Fidget.Hardware.SentWrites

/-!
# Whether a change of the source parks the selector

As in a preview, a selection whose answer is lost is taken not to have been made.

The file follows `DiagnosticPreview.Parking`, for the steps of a change of the source. The log has
the writes in the order in which they were sent, with the answered ones told from the lost ones by
the faults.

## Main results

- `completeSource_of_selected`: a selection that was answered is followed by a parking, and nothing
  is enabled before that was answered.
- `completeSource_of_lost`: after one that was lost nothing is parked, and the acquisition is
  resumed.
- `sourceChangeWrites_park`: when a change parks the selector, and when it resumes elsewhere.
-/

namespace Fidget

/-! ### What the steps send

Readings and the journal send nothing; `SourceSends` with an empty list says so, and keeps the flags
on which parking and resuming are decided. -/

/-- The module and the writes that have led to it. -/
abbrev SourceRun.trace (run : SourceRun) : Bench × List SentWrite := (run.bench, run.sent)

/-- The second run has sent these writes, and what parking and resuming are decided on is as it
was. -/
structure SourceSends (writes : List SentWrite) (run run' : SourceRun) : Prop
    extends CallTrace.Logged SentWrite.effect writes run.trace run'.trace where
  selected : run'.selectorSelected = run.selectorSelected
  parked : run'.result.selectorParkedAtQuadZero = run.result.selectorParkedAtQuadZero
  modulePaused : run'.result.modulePaused = run.result.modulePaused
  daqModePaused : run'.result.daqModePaused = run.result.daqModePaused

/-- Two steps. -/
theorem SourceSends.trans {writes writes' : List SentWrite} {run run' run'' : SourceRun}
    (h : SourceSends writes run run') (h' : SourceSends writes' run' run'') :
    SourceSends (writes ++ writes') run run'' where
  toLogged := h.toLogged.trans h'.toLogged
  selected := h'.selected.trans h.selected
  parked := h'.parked.trans h.parked
  modulePaused := h'.modulePaused.trans h.modulePaused
  daqModePaused := h'.daqModePaused.trans h.daqModePaused

/-- Nothing is sent. -/
theorem sourceSends_nil {run run' : SourceRun} (hbench : run'.bench = run.bench)
    (hsent : run'.sent = run.sent) (hselected : run'.selectorSelected = run.selectorSelected)
    (hparked : run'.result.selectorParkedAtQuadZero = run.result.selectorParkedAtQuadZero)
    (hmodule : run'.result.modulePaused = run.result.modulePaused)
    (hdaqMode : run'.result.daqModePaused = run.result.daqModePaused) :
    SourceSends [] run run' :=
  ⟨CallTrace.logged_nil hbench hsent, hselected, hparked, hmodule, hdaqMode⟩

theorem SourceSends.refl (run : SourceRun) : SourceSends [] run run :=
  sourceSends_nil rfl rfl rfl rfl rfl rfl

/-- A step, and one that sends nothing. -/
theorem SourceSends.then {writes : List SentWrite} {run run' run'' : SourceRun}
    (h : SourceSends writes run run') (h' : SourceSends [] run' run'') :
    SourceSends writes run run'' := by
  have htrans := h.trans h'
  rwa [List.append_nil] at htrans

/-- What the second run has sent neither moves the selector nor enables anything. -/
def SendsPlainly (run run' : SourceRun) : Prop :=
  ∃ writes, SourceSends writes run run' ∧ ∀ write ∈ writes, write.Plain

/-- A step that sends nothing. -/
theorem SourceSends.plainly {run run' : SourceRun} (h : SourceSends [] run run') :
    SendsPlainly run run' := ⟨[], h, nofun⟩

/-- Two such steps. -/
theorem SendsPlainly.trans {run run' run'' : SourceRun} (h : SendsPlainly run run')
    (h' : SendsPlainly run' run'') : SendsPlainly run run'' := by
  obtain ⟨writes, hsends, hplain⟩ := h
  obtain ⟨writes', hsends', hplain'⟩ := h'
  exact ⟨writes ++ writes', hsends.trans hsends', fun write hwrite =>
    (List.mem_append.mp hwrite).elim (hplain write) (hplain' write)⟩

section Steps

variable {fault : SourceSite → Option Fault} {save : SourceJournalSaver}
  {cancellationRequested : SourceCancellation → Bool} {recoveryJournalPath : String}
  {request : DiagnosticSourceChangeRequest} {run : SourceRun}

/-- The configuration is only read. -/
theorem sourceSends_captureSource : SourceSends [] run (captureSource fault request run) := by
  unfold captureSource
  dsimp only
  split
  · split
    · exact sourceSends_nil rfl rfl rfl rfl rfl rfl
    · exact sourceSends_nil rfl rfl rfl rfl rfl rfl
  · exact sourceSends_nil rfl rfl rfl rfl rfl rfl

/-- Saving the record touches no hardware. -/
theorem sourceSends_saveSourceRecoveryState (site : SourceSave)
    (quad originalConfiguration appliedConfiguration : UInt16) :
    SourceSends [] run (saveSourceRecoveryState save recoveryJournalPath run site quad
      originalConfiguration appliedConfiguration).2 := by
  unfold saveSourceRecoveryState
  dsimp only
  split
  · exact .refl run
  · exact sourceSends_nil rfl rfl rfl rfl rfl rfl

/-- So does arming it. -/
theorem sourceSends_armSourceRecovery :
    SourceSends [] run (armSourceRecovery save recoveryJournalPath request run) := by
  unfold armSourceRecovery
  split
  · have hsaved := @sourceSends_saveSourceRecoveryState save recoveryJournalPath run .arm
      request.selectedQuad run.restoreConfiguration run.result.requestedConfiguration
    split
    next heq =>
      rw [heq] at hsaved
      exact hsaved.then (sourceSends_nil rfl rfl rfl rfl rfl rfl)
    next heq =>
      rw [heq] at hsaved
      exact hsaved.then (sourceSends_nil rfl rfl rfl rfl rfl rfl)
  · exact .refl run

/-- And relieving it. -/
theorem sourceSends_disarmSourceRecovery :
    SourceSends [] run (disarmSourceRecovery save recoveryJournalPath request run) := by
  unfold disarmSourceRecovery
  dsimp only
  split
  · have hsaved := @sourceSends_saveSourceRecoveryState save recoveryJournalPath run .disarm
      request.selectedQuad run.restoreConfiguration 0
    split
    next heq =>
      rw [heq] at hsaved
      exact hsaved.then (sourceSends_nil rfl rfl rfl rfl rfl rfl)
    next heq =>
      rw [heq] at hsaved
      exact hsaved.then (sourceSends_nil rfl rfl rfl rfl rfl rfl)
  · exact sourceSends_nil rfl rfl rfl rfl rfl rfl

/-- The record does not say whether the write was tried. -/
theorem attempted_disarmSourceRecovery :
    (disarmSourceRecovery save recoveryJournalPath request run).result.writeAttempted =
      run.result.writeAttempted := by
  unfold disarmSourceRecovery saveSourceRecoveryState
  dsimp only
  split
  · cases save .disarm _ recoveryJournalPath <;> rfl
  · rfl

/-! ### The steps that write

The write of the configuration and its rollback go to a banked register, so that they neither move
the selector nor start anything. -/

/-- What a write leaves behind, whether it fails or not. -/
theorem SourceRun.write_eq (site : SourceSite) (registerOffset value : UInt16) :
    run.write fault site registerOffset value =
      ((fault site).map (·.error), { run with
        bench := SentWrite.effect (.vme registerOffset value (site = .park) (fault site)) run.bench
        written := run.written ++ [((run.bench.selector.toNat, registerOffset), value)]
        sent := run.sent ++ [.vme registerOffset value (site = .park) (fault site)] }) := by
  unfold SourceRun.write
  cases fault site <;> rfl

/-- The write of the change neither selects nor starts. -/
theorem sendsPlainly_sendSource : SendsPlainly run (sendSource fault run) := by
  unfold sendSource
  split
  · refine ⟨[.vme sampleConfigurationRegister run.result.requestedConfiguration false
      (fault .write)], ?_, fun write hwrite => ?_⟩
    · dsimp only
      rw [SourceRun.write_eq]
      cases fault .write with
      | some failed => exact ⟨⟨rfl, rfl⟩, rfl, rfl, rfl, rfl⟩
      | none =>
          dsimp only [Option.map_none]
          split
          · exact ⟨⟨rfl, rfl⟩, rfl, rfl, rfl, rfl⟩
          · split <;> exact ⟨⟨rfl, rfl⟩, rfl, rfl, rfl, rfl⟩
    · rw [List.mem_singleton.mp hwrite]
      exact plain_banked sampleConfigurationRegister_mem
  · exact (SourceSends.refl run).plainly

/-- Nor does it with the record armed before. -/
theorem sendsPlainly_applySource : SendsPlainly run
    (applySource fault save cancellationRequested recoveryJournalPath request run) := by
  unfold applySource
  split
  · exact SourceSends.plainly (sourceSends_nil rfl rfl rfl rfl rfl rfl)
  · split
    · split
      · exact SourceSends.plainly (sourceSends_nil rfl rfl rfl rfl rfl rfl)
      · exact sourceSends_armSourceRecovery.plainly.trans sendsPlainly_sendSource
    · exact (SourceSends.refl run).plainly

/-- Nor does its rollback. -/
theorem sendsPlainly_rollbackSource : SendsPlainly run (rollbackSource fault run) := by
  unfold rollbackSource
  split
  · refine ⟨[.vme sampleConfigurationRegister run.result.originalConfiguration false
      (fault .rollbackWrite)], ?_, fun write hwrite => ?_⟩
    · dsimp only
      rw [SourceRun.write_eq]
      cases fault .rollbackWrite with
      | some failed => exact ⟨⟨rfl, rfl⟩, rfl, rfl, rfl, rfl⟩
      | none =>
          dsimp only [Option.map_none]
          split
          · exact ⟨⟨rfl, rfl⟩, rfl, rfl, rfl, rfl⟩
          · split <;> exact ⟨⟨rfl, rfl⟩, rfl, rfl, rfl, rfl⟩
    · rw [List.mem_singleton.mp hwrite]
      exact plain_banked sampleConfigurationRegister_mem
  · exact (SourceSends.refl run).plainly

/-- The write that the change is about, and its rollback. -/
theorem sendsPlainly_attempt : SendsPlainly run (rollbackSource fault
    (applySource fault save cancellationRequested recoveryJournalPath request
      (captureSource fault request run))) :=
  sourceSends_captureSource.plainly.trans (sendsPlainly_applySource.trans
    sendsPlainly_rollbackSource)

/-! ### The end of the change

Parking and resuming are decided on what the change knows of its selection. -/

variable (fault save cancellationRequested recoveryJournalPath request run) in
/-- What follows once the bank is selected. -/
def completeSource : SourceRun :=
  resumeSource fault (disarmSourceRecovery save recoveryJournalPath request
    (parkSourceSelector fault (rollbackSource fault (applySource fault save cancellationRequested
      recoveryJournalPath request (captureSource fault request run)))))

/-- The parking is one more entry of the log. -/
theorem logsWrites_parkSourceSelector (hselected : run.selectorSelected = true) :
    LogsWrites [.vme fw2051ScpSelectorRegister 0 true (fault .park)] run.trace
      (parkSourceSelector fault run).trace := by
  unfold parkSourceSelector
  rw [if_pos hselected, SourceRun.write_eq]
  cases fault .park with
  | some failed => exact ⟨rfl, rfl⟩
  | none => exact ⟨rfl, rfl⟩

/-- Resuming either does nothing or sends what resuming sends. -/
theorem logsWrites_resumeSource : LogsWrites
    (if run.result.modulePaused ∧ run.result.daqModePaused ∧ sourceConfigurationSafe run.result ∧
      sourceSelectorSafe run then resumeWrites (fault ∘ .resume) else []) run.trace
    (resumeSource fault run).trace := by
  unfold resumeSource
  split
  · exact ⟨(replay_resumeWrites (fault ∘ .resume) run.bench).symm, rfl⟩
  · exact ⟨rfl, (List.append_nil _).symm⟩

/-- What resumes the acquisition is no selection. -/
theorem aside_resuming (resumes : Prop) [Decidable resumes] :
    ∀ write ∈ if resumes then resumeWrites (fault ∘ .resume) else [], write.Aside := by
  split
  · exact resumeWrites_aside _
  · exact nofun

/-- The log accounts for whatever is done to the module. -/
theorem logsWrites_completeSource : ∃ writes, LogsWrites writes run.trace
    (completeSource fault save cancellationRequested recoveryJournalPath request run).trace := by
  obtain ⟨attempt, hsends, -⟩ := @sendsPlainly_attempt fault save cancellationRequested
    recoveryJournalPath request run
  unfold completeSource
  generalize rollbackSource fault _ = undone at hsends ⊢
  obtain ⟨parking, hparking⟩ : ∃ writes,
      LogsWrites writes undone.trace (parkSourceSelector fault undone).trace := by
    by_cases hselected : undone.selectorSelected = true
    · exact ⟨_, logsWrites_parkSourceSelector hselected⟩
    · exact ⟨[], by
        rw [parkSourceSelector, if_neg hselected]
        exact (SourceSends.refl undone).toLogged⟩
  exact ⟨_, ((hsends.toLogged.trans hparking).trans sourceSends_disarmSourceRecovery.toLogged).trans
    logsWrites_resumeSource⟩

/-- A change that knows of no selection parks nothing. -/
theorem completeSource_of_unselected (hselected : run.selectorSelected = false) :
    ∃ writes, LogsWrites writes run.trace
        (completeSource fault save cancellationRequested recoveryJournalPath request run).trace ∧
      ∀ write ∈ writes, write.Aside := by
  obtain ⟨writes, hsends, hplain⟩ := @sendsPlainly_attempt fault save cancellationRequested
    recoveryJournalPath request run
  unfold completeSource
  generalize rollbackSource fault _ = undone at hsends ⊢
  have hundone := hsends.selected.trans hselected
  rw [parkSourceSelector, hundone, if_neg Bool.false_ne_true]
  have hdisarmed := @sourceSends_disarmSourceRecovery save recoveryJournalPath request undone
  refine ⟨_, (hsends.then hdisarmed).toLogged.trans logsWrites_resumeSource, fun write hwrite => ?_⟩
  rcases List.mem_append.mp hwrite with hattempt | hresume
  · exact (hplain write hattempt).toAside
  · exact aside_resuming _ write hresume

/-- The selector is taken to be parked only if the parking write was answered. -/
theorem parked_parkSourceSelector (hselected : run.selectorSelected = true)
    (hunparked : run.result.selectorParkedAtQuadZero = false)
    (hsafe : sourceSelectorSafe (parkSourceSelector fault run) = true) : fault .park = none := by
  unfold parkSourceSelector at hsafe
  rw [if_pos hselected, SourceRun.write_eq] at hsafe
  cases hfault : fault .park with
  | none => rfl
  | some failed =>
      rw [hfault] at hsafe
      simp [sourceSelectorSafe, SourceRun.fail, hselected, hunparked] at hsafe

/-- A change that knows of its selection parks it before anything is enabled. -/
theorem completeSource_of_selected (hselected : run.selectorSelected = true)
    (hunparked : run.result.selectorParkedAtQuadZero = false) :
    ∃ writes, LogsWrites writes run.trace
        (completeSource fault save cancellationRequested recoveryJournalPath request run).trace ∧
      (ParksAfterSelecting writes ∧ ∃ write ∈ writes, write.Parks) ∧
      ∀ bench, EnablesParked writes bench := by
  obtain ⟨attempt, hsends, hplain⟩ := @sendsPlainly_attempt fault save cancellationRequested
    recoveryJournalPath request run
  unfold completeSource
  generalize rollbackSource fault _ = undone at hsends ⊢
  have hundone := hsends.selected.trans hselected
  have hparking := @logsWrites_parkSourceSelector fault undone hundone
  have hanswered := @parked_parkSourceSelector fault undone hundone
    (hsends.parked.trans hunparked)
  generalize parkSourceSelector fault undone = parked at hparking hanswered ⊢
  have hdisarmed := @sourceSends_disarmSourceRecovery save recoveryJournalPath request parked
  have hkept : sourceSelectorSafe (disarmSourceRecovery save recoveryJournalPath request parked) =
      sourceSelectorSafe parked := by
    rw [sourceSelectorSafe, hdisarmed.selected, hdisarmed.parked]
    rfl
  generalize disarmSourceRecovery save recoveryJournalPath request parked = disarmed
    at hdisarmed hkept ⊢
  have hlogged := (hsends.toLogged.trans hparking).trans hdisarmed.toLogged
  rw [List.append_nil] at hlogged
  refine ⟨_, hlogged.trans logsWrites_resumeSource, ⟨?_, ?_⟩, fun bench => ?_⟩
  · refine (CallTrace.Answered.append ?_ ?_).append (answered_of_aside (aside_resuming _))
    · exact answered_of_aside fun write hwrite => (hplain write hwrite).toAside
    · exact CallTrace.answered_of_forall_not fun write hwrite => by
        rw [List.mem_singleton.mp hwrite]
        exact not_selects_parking
  · exact ⟨_, List.mem_append_left _ (List.mem_append_right _ List.mem_cons_self), rfl, rfl, rfl⟩
  · rw [EnablesParked, CallTrace.permitted_append, CallTrace.permitted_append]
    refine ⟨⟨enablesParked_of_none (fun write hwrite => (hplain write hwrite).enables) _,
      enablesParked_of_none (fun write hwrite => ?_) _⟩, ?_⟩
    · rw [List.mem_singleton.mp hwrite]
      exact not_enables_selector
    · -- the acquisition is resumed only when the parking write was answered
      by_cases hsafe : sourceSelectorSafe disarmed = true
      · refine enablesParked_of_aside (aside_resuming _) ?_
        rw [hanswered (hkept.symm.trans hsafe), CallTrace.replay_append]
        exact Bench.selector_write_selector
      · rw [if_neg fun hguard => hsafe hguard.2.2.2]
        trivial

/-- After a lost selection the change goes straight to the resuming. -/
theorem completeSource_of_lost (hselected : run.selectorSelected = false)
    (hcaptured : run.result.originalCaptured = false)
    (hattempted : run.result.writeAttempted = false) (hmodule : run.result.modulePaused = true)
    (hdaqMode : run.result.daqModePaused = true) :
    LogsWrites (resumeWrites (fault ∘ .resume)) run.trace
      (completeSource fault save cancellationRequested recoveryJournalPath request run).trace := by
  have hresult : (captureSource fault request run).result = run.result := by
    unfold captureSource
    rw [hselected]
    rfl
  have hsends := @sourceSends_captureSource fault request run
  unfold completeSource
  generalize captureSource fault request run = captured at hresult hsends ⊢
  have hselected' := hsends.selected.trans hselected
  have hnot : captured.result.originalCaptured = false := by rw [hresult, hcaptured]
  have happly : applySource fault save cancellationRequested recoveryJournalPath request captured =
      captured := by
    simp [applySource, hnot]
  have hrollback : rollbackSource fault captured = captured := by
    simp [rollbackSource, hnot]
  have hpark : parkSourceSelector fault captured = captured := by
    simp [parkSourceSelector, hselected']
  rw [happly, hrollback, hpark]
  have hdisarmed := @sourceSends_disarmSourceRecovery save recoveryJournalPath request captured
  have hunattempted :=
    (@attempted_disarmSourceRecovery save recoveryJournalPath request captured).trans
      ((congrArg (·.writeAttempted) hresult).trans hattempted)
  generalize disarmSourceRecovery save recoveryJournalPath request captured = disarmed
    at hdisarmed hunattempted ⊢
  -- nothing was attempted, so that the acquisition is resumed
  have hguard : disarmed.result.modulePaused ∧ disarmed.result.daqModePaused ∧
      sourceConfigurationSafe disarmed.result ∧ sourceSelectorSafe disarmed := by
    refine ⟨?_, ?_, ?_, ?_⟩
    · rw [hdisarmed.modulePaused, hresult, hmodule]
    · rw [hdisarmed.daqModePaused, hresult, hdaqMode]
    · rw [sourceConfigurationSafe, hunattempted]
      rfl
    · rw [sourceSelectorSafe, hdisarmed.selected, hselected']
      rfl
  have hresumed := (hsends.then hdisarmed).toLogged.trans (@logsWrites_resumeSource fault disarmed)
  rwa [List.nil_append, if_pos hguard] at hresumed

/-! ### The change without its checks

Three cases, as in a preview: the pause is not complete, the selection is answered, or its answer is
lost. -/

/-- The run before the pause. -/
structure SourceUnselected (run : SourceRun) : Prop where
  selector : run.bench.selector = 0
  selected : run.selectorSelected = false
  parked : run.result.selectorParkedAtQuadZero = false
  captured : run.result.originalCaptured = false
  attempted : run.result.writeAttempted = false

/-- The module is paused if the pause is undisturbed. -/
theorem sourcePaused_iff : ((pauseSource fault run).result.modulePaused = true ∧
    (pauseSource fault run).result.daqModePaused = true) ↔ PauseUndisturbed (fault ∘ .pause) := by
  refine (pauseDiagnosticDataTaking_paused_iff (fault ∘ .pause) run.bench).trans ?_
  exact ⟨fun h => ⟨h.1, h.2.1, h.2.2⟩, fun h => ⟨h.module, h.daqMode, h.daqModeReadback⟩⟩

/-- A selection that is answered is known to the change. -/
theorem chosen_of_answered (h : SourceUnselected run) (hpause : PauseUndisturbed (fault ∘ .pause))
    (hselect : fault .select = none) :
    let chosen := selectSourceQuad fault request.selectedQuad (pauseSource fault run)
    chosen.selectorSelected = true ∧ chosen.result.selectorParkedAtQuadZero = false := by
  intro chosen
  have hchosen : chosen = _ := if_pos ((@sourcePaused_iff fault run).mpr hpause)
  rw [hchosen, SourceRun.write_of_success hselect]
  exact ⟨rfl, h.parked⟩

/-- A selection whose answer is lost is not known to the change. -/
theorem chosen_of_lost (h : SourceUnselected run) (hpause : PauseUndisturbed (fault ∘ .pause))
    (hselect : fault .select ≠ none) :
    let chosen := selectSourceQuad fault request.selectedQuad (pauseSource fault run)
    chosen.selectorSelected = false ∧ chosen.result.originalCaptured = false ∧
      chosen.result.writeAttempted = false ∧ chosen.result.modulePaused = true ∧
      chosen.result.daqModePaused = true := by
  intro chosen
  obtain ⟨failed, hfailed⟩ := Option.ne_none_iff_exists'.mp hselect
  have hboth := (@sourcePaused_iff fault run).mpr hpause
  have hchosen : chosen = _ := if_pos hboth
  rw [hchosen, SourceRun.write_of_fault hfailed]
  exact ⟨h.selected, h.captured, h.attempted, hboth.1, hboth.2⟩

/-- The writes that pause are on the log. -/
theorem logsWrites_pauseSource :
    LogsWrites (pauseWrites (fault ∘ .pause)) run.trace (pauseSource fault run).trace :=
  ⟨(replay_pauseWrites (fault ∘ .pause) run.bench).symm, rfl⟩

/-- So is the selection. -/
theorem logsWrites_selectSourceQuad (quad : UInt16)
    (hpaused : run.result.modulePaused ∧ run.result.daqModePaused) :
    LogsWrites [.vme fw2051ScpSelectorRegister quad false (fault .select)] run.trace
      (selectSourceQuad fault quad run).trace := by
  unfold selectSourceQuad
  rw [if_pos hpaused, SourceRun.write_eq]
  cases fault .select with
  | some failed => exact ⟨rfl, rfl⟩
  | none => exact ⟨rfl, rfl⟩

/-- The log accounts for whatever is done from the pause on. -/
theorem logsWrites_pausedSource : ∃ writes, LogsWrites writes run.trace
    (completeSource fault save cancellationRequested recoveryJournalPath request
      (selectSourceQuad fault request.selectedQuad (pauseSource fault run))).trace := by
  have hpauses := @logsWrites_pauseSource fault run
  by_cases hpaused : (pauseSource fault run).result.modulePaused ∧
      (pauseSource fault run).result.daqModePaused
  · obtain ⟨writes, hcomplete⟩ := @logsWrites_completeSource fault save cancellationRequested
      recoveryJournalPath request (selectSourceQuad fault request.selectedQuad
        (pauseSource fault run))
    exact ⟨_, (hpauses.trans (logsWrites_selectSourceQuad _ hpaused)).trans hcomplete⟩
  · obtain ⟨writes, hcomplete⟩ := @logsWrites_completeSource fault save cancellationRequested
      recoveryJournalPath request (pauseSource fault run)
    rw [selectSourceQuad, if_neg hpaused]
    exact ⟨_, hpauses.trans hcomplete⟩

/-- Whether the selector is parked from the pause on. -/
theorem pausedSource_parks (h : SourceUnselected run) :
    ∃ writes, LogsWrites writes run.trace (completeSource fault save cancellationRequested
        recoveryJournalPath request
          (selectSourceQuad fault request.selectedQuad (pauseSource fault run))).trace ∧
      (ParksAfterSelecting writes ↔
        ¬(PauseUndisturbed (fault ∘ .pause) ∧ fault .select ≠ none)) ∧
      (EnablesParked writes run.bench ↔ ¬(PauseUndisturbed (fault ∘ .pause) ∧
        ResumesElsewhere (fault .select) request.selectedQuad true (fault ∘ .resume))) := by
  have hpauses := @logsWrites_pauseSource fault run
  have hplain := pauseWrites_plain (fault ∘ .pause)
  by_cases hpause : PauseUndisturbed (fault ∘ .pause)
  · have hselects := hpauses.trans (@logsWrites_selectSourceQuad fault (pauseSource fault run)
      request.selectedQuad (sourcePaused_iff.mpr hpause))
    simp only [hpause, true_and]
    cases hselect : fault .select with
    | none =>
        obtain ⟨hselected, hunparked⟩ := chosen_of_answered h hpause hselect
        obtain ⟨writes, hcomplete, hparks, henables⟩ := @completeSource_of_selected fault save
          cancellationRequested recoveryJournalPath request _ hselected hunparked
        rw [hselect] at hselects
        refine ⟨_, hselects.trans hcomplete, ?_, ?_⟩
        · exact (parksAfterSelecting_iff hplain (fun _ => hparks)
            fun hlost => absurd rfl hlost).trans not_not.symm
        · exact enablesParked_iff hplain h.selector (fun _ => henables)
            fun hlost => absurd rfl hlost
    | some failed =>
        obtain ⟨hselected, hcaptured, hattempted, hmodule, hdaqMode⟩ :=
          @chosen_of_lost fault request run h hpause (by rw [hselect]; nofun)
        have hcomplete := @completeSource_of_lost fault save cancellationRequested
          recoveryJournalPath request _ hselected hcaptured hattempted hmodule hdaqMode
        rw [hselect] at hselects
        refine ⟨_, hselects.trans hcomplete, ?_, ?_⟩
        · exact (parksAfterSelecting_iff hplain (fun hanswered => by cases hanswered)
            fun _ => resumeWrites_aside _).trans not_not.symm
        · exact enablesParked_iff hplain h.selector (fun hanswered => by cases hanswered)
            fun _ => rfl
  · -- the module is not paused, and no bank is selected
    have hnot := fun hboth => hpause ((@sourcePaused_iff fault run).mp hboth)
    rw [show selectSourceQuad fault request.selectedQuad (pauseSource fault run) =
      pauseSource fault run from if_neg hnot]
    have hselected : (pauseSource fault run).selectorSelected = false := h.selected
    obtain ⟨writes, hcomplete, haside⟩ := @completeSource_of_unselected fault save
      cancellationRequested recoveryJournalPath request _ hselected
    have hall : ∀ write ∈ pauseWrites (fault ∘ .pause) ++ writes, write.Aside :=
      fun write hwrite => (List.mem_append.mp hwrite).elim
        (fun hpauseWrite => (hplain write hpauseWrite).toAside) (haside write)
    exact ⟨_, hpauses.trans hcomplete,
      iff_of_true (answered_of_aside hall) fun hlost => hpause hlost.1,
      iff_of_true (enablesParked_of_aside hall h.selector) fun helse => hpause helse.1⟩

end Steps

/-! ### The operation -/

/-- The change passes its checks. -/
structure SourceChangeAdmitted (fault : SourceSite → Option Fault) (recoveryJournalPath : String)
    (request : DiagnosticSourceChangeRequest) (bench : Bench)
    (session : DiagnosticAcquisitionPreparationResult) : Prop where
  accepted : sourceChangeRefusal recoveryJournalPath session request = none
  owned : (verifyDiagnosticOwnershipFingerprint (fault .fingerprint) bench session).outcome =
    .verified

section Operation

variable (fault : SourceSite → Option Fault) (save : SourceJournalSaver)
  (cancellationRequested : SourceCancellation → Bool) (recoveryJournalPath : String)
  (request : DiagnosticSourceChangeRequest) (bench : Bench)
  (session : DiagnosticAcquisitionPreparationResult)

/-- The writes that `changeDiagnosticWaveformSource` sends. -/
def sourceChangeWrites : List SentWrite :=
  (changeDiagnosticWaveformSource fault save cancellationRequested recoveryJournalPath bench session
    request).sent

/-- A change that is refused sends nothing; any other pauses the acquisition and goes on from
there. -/
theorem sourceChange_cases :
    let changed := changeDiagnosticWaveformSource fault save cancellationRequested
      recoveryJournalPath bench session request
    (¬SourceChangeAdmitted fault recoveryJournalPath request bench session ∧
        changed.bench = bench ∧ changed.sent = []) ∨
      (SourceChangeAdmitted fault recoveryJournalPath request bench session ∧
        ∃ run, run.bench = bench ∧ run.sent = [] ∧
          (bench.selector = 0 → SourceUnselected run) ∧
          changed = finishSourceChange cancellationRequested request
            (completeSource fault save cancellationRequested recoveryJournalPath request
              (selectSourceQuad fault request.selectedQuad (pauseSource fault run)))) := by
  unfold changeDiagnosticWaveformSource verifySourceOwnership
  dsimp only
  split
  next message hrefused =>
    refine .inl ⟨?_, rfl, rfl⟩
    rintro ⟨haccepted, -⟩
    rw [hrefused] at haccepted
    cases haccepted
  next haccepted =>
    by_cases howned : (verifyDiagnosticOwnershipFingerprint (fault .fingerprint) bench
        session).outcome = .verified
    · simp only [if_neg (not_not.mpr howned)]
      exact .inr ⟨⟨haccepted, howned⟩, _, rfl, rfl,
        fun hparked => ⟨hparked, rfl, rfl, rfl, rfl⟩, rfl⟩
    · simp only [if_pos (show _ ≠ _ from howned)]
      exact .inl ⟨fun hadmitted => howned hadmitted.owned, trivial, trivial⟩

/-- The writes account for all that the change does to the module. -/
theorem replay_sourceChangeWrites :
    CallTrace.replay SentWrite.effect (sourceChangeWrites fault save cancellationRequested
        recoveryJournalPath request bench session) bench =
      (changeDiagnosticWaveformSource fault save cancellationRequested recoveryJournalPath bench
        session request).bench := by
  unfold sourceChangeWrites
  rcases sourceChange_cases fault save cancellationRequested recoveryJournalPath request bench
    session with ⟨-, hbench, hsent⟩ | ⟨-, run, hbench, hsent, -, hchanged⟩
  · rw [hbench, hsent]
    rfl
  · obtain ⟨writes, hlogged⟩ := @logsWrites_pausedSource fault save cancellationRequested
      recoveryJournalPath request run
    rw [hchanged, ← hbench]
    exact (congrArg (CallTrace.replay SentWrite.effect · run.bench)
      (hlogged.eq_of_nil hsent)).trans hlogged.state.symm

/-- When the change parks the selector, and when it does not. -/
theorem sourceChangeWrites_park (hparked : bench.selector = 0) :
    let writes := sourceChangeWrites fault save cancellationRequested recoveryJournalPath request
      bench session
    (ParksAfterSelecting writes ↔
        ¬(SourceChangeAdmitted fault recoveryJournalPath request bench session ∧
          PauseUndisturbed (fault ∘ .pause) ∧ fault .select ≠ none)) ∧
      (EnablesParked writes bench ↔
        ¬(SourceChangeAdmitted fault recoveryJournalPath request bench session ∧
          PauseUndisturbed (fault ∘ .pause) ∧ ResumesElsewhere (fault .select)
            request.selectedQuad true (fault ∘ .resume))) := by
  intro writes
  rcases sourceChange_cases fault save cancellationRequested recoveryJournalPath request bench
    session with ⟨hnot, -, hsent⟩ | ⟨hadmitted, run, hbench, hsent, hunselected, hchanged⟩
  · rw [show writes = [] from hsent]
    exact ⟨iff_of_true trivial fun h => hnot h.1, iff_of_true trivial fun h => hnot h.1⟩
  · obtain ⟨sent, hlogged, hparks, henables⟩ := @pausedSource_parks fault save
      cancellationRequested recoveryJournalPath request run (hunselected hparked)
    have hwrites : writes = sent := by
      rw [← hlogged.eq_of_nil hsent]
      show (changeDiagnosticWaveformSource fault save cancellationRequested recoveryJournalPath
        bench session request).sent = _
      rw [hchanged]
      rfl
    rw [hwrites]
    simp only [hadmitted, true_and]
    rw [hbench] at henables
    exact ⟨hparks, henables⟩

end Operation

end Fidget
