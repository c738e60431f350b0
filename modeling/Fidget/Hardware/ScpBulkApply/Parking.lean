import Fidget.Hardware.ScpBulkApply.Confined
import Fidget.Hardware.ScpCapture.Parking

/-!
# Whether an application parks the selector

Whatever fails after a write has been attempted is followed by a rollback, and this parks the
selector. Before that only the first selection is sent: if its answer is lost, nothing has been
attempted, and nothing is parked.

The argument is the one of the other transactions: which stage adds which writes to the log, and
what the flags say at the end. What is particular here is the rollback, which selects banks as well
and parks the selector a second time, so that the selections of both directions have to be answered
by one of the two parkings.

## Main results

- `bulkSends_bulkApplyTransaction`: the log accounts for all that a transaction does, and nothing in
  it enables anything.
- `bulkApplyTransaction_parks`: every selection of a transaction is parked unless the answer to the
  first one is lost.
- `applyFw2051ScpProfileWrites_sent`, `applyFw2051ScpProfileWrites_park`: the same of the operation
  as a whole.
-/

namespace Fidget

/-! ### What the steps send

`BulkSends` says which kind of writes a stage adds. A stage that writes nothing has it for any kind.
-/

/-- The second run has sent more writes, all of one kind. Nothing that is allowed has been denied,
and what is attempted stays attempted. -/
structure BulkSends (gate : BulkApplyGate → ScpCaptureGateResult) (kind : SentWrite → Prop)
    (run run' : BulkApplyRun) : Prop where
  writes : ∃ writes, LogsWrites writes run.trace run'.trace ∧ ∀ write ∈ writes, kind write
  keys : run'.result.values.map (·.key) = run.result.values.map (·.key)
  attempted : run.attemptedValueIndexes ≠ [] → run'.attemptedValueIndexes ≠ []
  owned : (∀ site, (gate site).status = .allowed) → run.ownershipAvailable = true →
    run'.ownershipAvailable = true

section Steps

variable {fault : BulkApplySite → Option Fault} {gate : BulkApplyGate → ScpCaptureGateResult}
  {cancellationRequested : BulkApplyGate → Bool} {run run' run'' : BulkApplyRun}
  {kind kind' : SentWrite → Prop}

theorem BulkSends.trans (h : BulkSends gate kind run run') (h' : BulkSends gate kind run' run'') :
    BulkSends gate kind run run'' where
  writes := by
    obtain ⟨writes, hlogged, hkind⟩ := h.writes
    obtain ⟨writes', hlogged', hkind'⟩ := h'.writes
    exact ⟨writes ++ writes', hlogged.trans hlogged', fun write hwrite =>
      (List.mem_append.mp hwrite).elim (hkind write) (hkind' write)⟩
  keys := h'.keys.trans h.keys
  attempted := h'.attempted ∘ h.attempted
  owned := fun hallowed howned => h'.owned hallowed (h.owned hallowed howned)

theorem BulkSends.mono (h : BulkSends gate kind run run')
    (hkind : ∀ write, kind write → kind' write) : BulkSends gate kind' run run' where
  writes := by
    obtain ⟨writes, hlogged, hwrites⟩ := h.writes
    exact ⟨writes, hlogged, fun write hwrite => hkind write (hwrites write hwrite)⟩
  keys := h.keys
  attempted := h.attempted
  owned := h.owned

/-- Plain writes enable nothing. -/
theorem BulkSends.quiet (h : BulkSends gate SentWrite.Plain run run') :
    BulkSends gate (¬SentWrite.Enables ·) run run' := h.mono fun _ hplain => hplain.enables

/-- Nothing is sent. -/
theorem bulkSends_of_eq (hbench : run'.bench = run.bench) (hsent : run'.sent = run.sent)
    (hkeys : run'.result.values.map (·.key) = run.result.values.map (·.key))
    (hattempted : run'.attemptedValueIndexes = run.attemptedValueIndexes)
    (howned : run'.ownershipAvailable = run.ownershipAvailable) : BulkSends gate kind run run' :=
  ⟨⟨[], CallTrace.logged_nil hbench hsent, nofun⟩, hkeys, fun h => by rwa [hattempted],
    fun _ h => howned.trans h⟩

theorem BulkSends.refl (run : BulkApplyRun) : BulkSends gate kind run run :=
  bulkSends_of_eq rfl rfl rfl rfl rfl

theorem bulkSends_fail (run : BulkApplyRun) (message : String) :
    BulkSends gate kind run (run.fail message) := bulkSends_of_eq rfl rfl rfl rfl rfl

theorem bulkSends_updateValue (run : BulkApplyRun) (index : Nat)
    {update : ScpAppliedValueResult → ScpAppliedValueResult}
    (h : ∀ value, (update value).key = value.key) :
    BulkSends gate kind run (run.updateValue index update) :=
  bulkSends_of_eq rfl rfl (keys_updateValue run index h) rfl rfl

theorem bulkSends_reverifyOwnership (site : BulkApplyGate) :
    BulkSends gate kind run (reverifyOwnership gate cancellationRequested run site).2 := by
  unfold reverifyOwnership
  split
  · exact .refl run
  · split
    · exact .refl run
    next hdenied =>
      exact ⟨⟨[], .refl _, nofun⟩, rfl, id, fun hallowed => absurd (hallowed site) hdenied⟩

/-- What follows a gate is done only if the gate lets it. -/
theorem bulkSends_gated (site : BulkApplyGate) {act : BulkApplyRun → BulkApplyRun}
    (h : ∀ run, BulkSends gate kind run (act run)) :
    BulkSends gate kind run (match reverifyOwnership gate cancellationRequested run site with
      | (false, run) => run
      | (true, run) => act run) := by
  have hgate := @bulkSends_reverifyOwnership gate cancellationRequested run kind site
  generalize reverifyOwnership gate cancellationRequested run site = answer at hgate ⊢
  obtain ⟨allowed, asked⟩ := answer
  cases allowed with
  | false => exact hgate
  | true => exact hgate.trans (h asked)

theorem bulkSends_writeRegister (site : BulkApplySite) {registerOffset value : UInt16}
    (h : kind (.vme registerOffset value site.parking (fault site))) :
    BulkSends gate kind run (writeRegister fault run site registerOffset value).2 where
  writes := by
    refine ⟨[_], ⟨rfl, rfl⟩, fun write hwrite => ?_⟩
    rwa [List.mem_singleton.mp hwrite]
  keys := rfl
  attempted := id
  owned := fun _ howned => howned

/-- A write, and what is done on its failure and after it. -/
theorem bulkSends_write (site : BulkApplySite) {registerOffset value : UInt16}
    (h : kind (.vme registerOffset value site.parking (fault site)))
    {onError : String → BulkApplyRun → BulkApplyRun} {after : BulkApplyRun → BulkApplyRun}
    (hfailed : ∀ error run, BulkSends gate kind run (onError error run))
    (hafter : ∀ run, BulkSends gate kind run (after run)) :
    BulkSends gate kind run
      (match writeRegister fault run site registerOffset value with
      | (some error, run) => onError error run
      | (none, run) => after run) := by
  have hwrite := @bulkSends_writeRegister fault gate run kind site registerOffset value h
  generalize writeRegister fault run site registerOffset value = answer at hwrite ⊢
  obtain ⟨error, written⟩ := answer
  cases error with
  | some error => exact hwrite.trans (hfailed error written)
  | none => exact hwrite.trans (hafter written)

theorem not_enables_of_ne {registerOffset value : UInt16} {parkingWrite : Bool}
    {failed : Option Fault} (h : registerOffset ≠ fw2051AcquisitionControlRegister) :
    ¬(SentWrite.vme registerOffset value parkingWrite failed).Enables :=
  fun henables => h henables.1

theorem bulkSends_stopModule :
    BulkSends gate SentWrite.Plain run (stopModule fault gate cancellationRequested run) := by
  unfold stopModule
  refine bulkSends_gated .stop fun run => ?_
  refine bulkSends_write .stop ⟨aside_vme (by decide), fun henables => henables.2 rfl⟩
    (fun error run => bulkSends_fail run _) fun run => ?_
  dsimp only
  split
  · exact bulkSends_of_eq rfl rfl rfl rfl rfl
  · split
    · exact bulkSends_of_eq rfl rfl rfl rfl rfl
    · exact bulkSends_of_eq rfl rfl rfl rfl rfl

/-! ### Going forward

The stages of the forward direction. A refused gate sends nothing, so there is one rule for all
stages behind a gate. -/

theorem bulkSends_selectBank (index : Nat) (step : ScpProfileApplicationStep) :
    BulkSends gate (¬SentWrite.Enables ·) run
      (selectBank fault gate cancellationRequested run index step).2 := by
  have hgate := @bulkSends_reverifyOwnership gate cancellationRequested run
    (¬SentWrite.Enables ·) (.bank index)
  unfold selectBank
  split
  · generalize reverifyOwnership gate cancellationRequested run (.bank index) = answer at hgate ⊢
    obtain ⟨allowed, asked⟩ := answer
    cases allowed with
    | false => exact hgate
    | true =>
        have hwrite := hgate.trans (@bulkSends_writeRegister fault gate asked _ (.select index)
          fw2051ScpSelectorRegister step.quad.toNat.toUInt16 not_enables_selector)
        dsimp only at hwrite ⊢
        generalize writeRegister fault asked (.select index) fw2051ScpSelectorRegister
          step.quad.toNat.toUInt16 = answer at hwrite ⊢
        obtain ⟨error, written⟩ := answer
        cases error with
        | some error => exact hwrite.trans (bulkSends_fail written _)
        | none => exact hwrite.trans (bulkSends_of_eq rfl rfl rfl rfl rfl)
  · exact .refl run

theorem bulkSends_attemptWrite (index : Nat) (step : ScpProfileApplicationStep)
    (h : step.registerOffset ≠ fw2051AcquisitionControlRegister) :
    BulkSends gate (¬SentWrite.Enables ·) run (attemptWrite fault run index step) ∧
      (attemptWrite fault run index step).attemptedValueIndexes ≠ [] := by
  unfold attemptWrite
  extract_lets attempted listed _ counted
  -- the attempt is listed before the write is sent
  have hcounted : BulkSends gate (¬SentWrite.Enables ·) run counted :=
    ⟨⟨[], .refl _, nofun⟩, keys_updateValue run index fun _ => rfl,
      fun _ => by simp [counted, listed], fun _ h => h⟩
  have hattempted : counted.attemptedValueIndexes ≠ [] := by simp [counted, listed]
  have hwrite := hcounted.trans (@bulkSends_writeRegister fault gate counted _ (.write index)
    step.registerOffset step.profileValue (not_enables_of_ne h))
  have hkept : (writeRegister fault counted (.write index) step.registerOffset
      step.profileValue).2.attemptedValueIndexes ≠ [] := hattempted
  generalize writeRegister fault counted (.write index) step.registerOffset step.profileValue =
    answer at hwrite hkept ⊢
  obtain ⟨error, written⟩ := answer
  cases error with
  | some error => exact ⟨hwrite.trans (bulkSends_fail written _), hkept⟩
  | none =>
      dsimp only at hwrite hkept ⊢
      split
      · exact ⟨hwrite.trans (bulkSends_fail written _), hkept⟩
      next readback _ =>
        have hread := hwrite.trans (@bulkSends_updateValue gate (¬SentWrite.Enables ·) written index
          (fun value => { value with appliedReadback := readback }) fun _ => rfl)
        split
        · exact ⟨hread.trans (bulkSends_fail _ _), hkept⟩
        · refine ⟨(hread.trans (bulkSends_updateValue _ index ?_)).trans
            (bulkSends_of_eq rfl rfl rfl rfl rfl), hkept⟩
          exact fun _ => rfl

theorem bulkSends_applyStep {indexed : ScpProfileApplicationStep × Nat}
    (h : indexed.1.registerOffset ≠ fw2051AcquisitionControlRegister) :
    BulkSends gate (¬SentWrite.Enables ·) run
      (applyStep fault gate cancellationRequested run indexed) := by
  obtain ⟨step, index⟩ := indexed
  unfold applyStep
  dsimp only
  split
  · have hselect := @bulkSends_selectBank fault gate cancellationRequested run index step
    generalize selectBank fault gate cancellationRequested run index step = answer at hselect ⊢
    obtain ⟨passed, selected⟩ := answer
    cases passed with
    | false => exact hselect
    | true =>
        refine hselect.trans (bulkSends_gated (.write index) fun run => ?_)
        exact (bulkSends_attemptWrite index step h).1
  · exact .refl run

theorem bulkSends_applySteps {indexed : List (ScpProfileApplicationStep × Nat)}
    (h : ∀ step ∈ indexed, step.1.registerOffset ≠ fw2051AcquisitionControlRegister) :
    BulkSends gate (¬SentWrite.Enables ·) run
      (indexed.foldl (applyStep fault gate cancellationRequested) run) := by
  induction indexed generalizing run with
  | nil => exact .refl run
  | cons step indexed ih =>
      exact (bulkSends_applyStep (h step List.mem_cons_self)).trans
        (ih fun other hother => h other (List.mem_cons_of_mem _ hother))

theorem bulkSends_parkSelector (phase : ApplyPhase) :
    BulkSends gate (¬SentWrite.Enables ·) run
      (parkSelector fault gate cancellationRequested run phase) := by
  unfold parkSelector
  refine bulkSends_gated (.park phase) fun run => ?_
  exact bulkSends_write (.park phase) not_enables_selector (fun error run => bulkSends_fail run _)
    fun run => bulkSends_of_eq rfl rfl rfl rfl rfl

theorem bulkSends_resetReadout (phase : ApplyPhase) :
    BulkSends gate SentWrite.Plain run
      (resetReadout fault gate cancellationRequested run phase) := by
  have hplain : ∀ {registerOffset value : UInt16} {parkingWrite : Bool} {failed : Option Fault},
      registerOffset ≠ fw2051ScpSelectorRegister →
        registerOffset ≠ fw2051AcquisitionControlRegister →
          (SentWrite.vme registerOffset value parkingWrite failed).Plain :=
    fun hselector hcontrol => ⟨aside_vme hselector, not_enables_of_ne hcontrol⟩
  unfold resetReadout
  split
  · exact .refl run
  · refine bulkSends_gated (.reset phase) fun run => ?_
    refine bulkSends_write (.fifoReset phase) (hplain (by decide) (by decide))
      (fun error run => bulkSends_fail run _) fun run => ?_
    extract_lets _ noted
    have hnoted : BulkSends gate SentWrite.Plain run noted := bulkSends_of_eq rfl rfl rfl rfl rfl
    refine hnoted.trans (bulkSends_write (.readoutReset phase) (hplain (by decide) (by decide))
      (fun error run => bulkSends_fail run _) fun run => ?_)
    exact bulkSends_of_eq rfl rfl rfl rfl rfl

theorem bulkSends_finishForward :
    BulkSends gate (¬SentWrite.Enables ·) run
      (finishForward fault gate cancellationRequested run) := by
  unfold finishForward
  split
  · have hretained : BulkSends gate (¬SentWrite.Enables ·) run run.retained :=
      bulkSends_of_eq rfl rfl rfl rfl rfl
    have hpark := hretained.trans
      (@bulkSends_parkSelector fault gate cancellationRequested run.retained .forward)
    show BulkSends gate _ run (
      let parked := parkSelector fault gate cancellationRequested run.retained .forward
      if parked.failure = "" then resetReadout fault gate cancellationRequested parked .forward
      else parked)
    dsimp only
    split
    · exact hpark.trans (bulkSends_resetReadout .forward).quiet
    · exact hpark
  · exact .refl run

/-! ### What the rollback sends

The rollback writes to banked registers and to the selector, parks it, and resets the readout. -/

theorem bulkSends_selectRollbackBank (index : Nat) (value : ScpAppliedValueResult) :
    BulkSends gate (¬SentWrite.Enables ·) run
      (selectRollbackBank fault gate cancellationRequested run index value).2 := by
  have hgate := @bulkSends_reverifyOwnership gate cancellationRequested run
    (¬SentWrite.Enables ·) (.rollbackBank index)
  unfold selectRollbackBank
  split
  · generalize reverifyOwnership gate cancellationRequested run (.rollbackBank index) = answer
      at hgate ⊢
    obtain ⟨allowed, asked⟩ := answer
    cases allowed with
    | false => exact hgate
    | true =>
        have hwrite := hgate.trans (@bulkSends_writeRegister fault gate asked _
          (.rollbackSelect index) fw2051ScpSelectorRegister value.quad.toNat.toUInt16
          not_enables_selector)
        dsimp only at hwrite ⊢
        generalize writeRegister fault asked (.rollbackSelect index) fw2051ScpSelectorRegister
          value.quad.toNat.toUInt16 = answer at hwrite ⊢
        obtain ⟨error, written⟩ := answer
        cases error with
        | some error => exact hwrite.trans (bulkSends_fail written _)
        | none => exact hwrite.trans (bulkSends_of_eq rfl rfl rfl rfl rfl)
  · exact .refl run

theorem bulkSends_rollbackValue (index : Nat) {value : ScpAppliedValueResult}
    (h : value.registerOffset ≠ fw2051AcquisitionControlRegister) :
    BulkSends gate (¬SentWrite.Enables ·) run (rollbackValue fault run index value) := by
  unfold rollbackValue
  extract_lets attempted _ counted
  have hattempted : BulkSends gate (¬SentWrite.Enables ·) run attempted :=
    bulkSends_updateValue run index fun _ => rfl
  have hcounted : BulkSends gate (¬SentWrite.Enables ·) run counted :=
    hattempted.trans (bulkSends_of_eq rfl rfl rfl rfl rfl)
  refine hcounted.trans (bulkSends_write (.rollbackWrite index) (not_enables_of_ne h)
    (fun error run => bulkSends_of_eq rfl rfl rfl rfl rfl) fun run => ?_)
  dsimp only
  split
  · exact bulkSends_of_eq rfl rfl rfl rfl rfl
  next readback _ =>
    have hread := @bulkSends_updateValue gate (¬SentWrite.Enables ·) run index
      (fun value => { value with rollbackReadback := readback }) fun _ => rfl
    split
    · exact hread.trans (bulkSends_of_eq rfl rfl rfl rfl rfl)
    · refine (hread.trans (bulkSends_updateValue _ index ?_)).trans
        (bulkSends_of_eq rfl rfl rfl rfl rfl)
      exact fun _ => rfl

/-- The run as the end of the rollback takes it up. -/
def BulkApplyRun.rollbackEnding (run : BulkApplyRun) : BulkApplyRun :=
  { run with result := { run.result with
    rollbackVerified := run.rollbackSafe &&
      run.result.rollbackWritesVerified == run.attemptedValueIndexes.length } }

theorem bulkSends_finishRollback :
    BulkSends gate (¬SentWrite.Enables ·) run
      (finishRollback fault gate cancellationRequested run) := by
  have hending : BulkSends gate (¬SentWrite.Enables ·) run run.rollbackEnding :=
    bulkSends_of_eq rfl rfl rfl rfl rfl
  have hpark := hending.trans
    (@bulkSends_parkSelector fault gate cancellationRequested run.rollbackEnding .rollback)
  show BulkSends gate _ run (
    if run.ownershipAvailable then
      let parked := parkSelector fault gate cancellationRequested run.rollbackEnding .rollback
      if parked.result.rollbackVerified then
        resetReadout fault gate cancellationRequested parked .rollback
      else parked
    else run.rollbackEnding)
  dsimp only
  split
  · split
    · exact hpark.trans (bulkSends_resetReadout .rollback).quiet
    · exact hpark
  · exact hending

section Banked

variable {steps : List ScpProfileApplicationStep}
  (hbanked : ∀ step ∈ steps, step.registerOffset ∈ scpRegisterOffsets)
include hbanked

theorem registerOffset_ne (step : ScpProfileApplicationStep) (hstep : step ∈ steps) :
    step.registerOffset ≠ fw2051AcquisitionControlRegister :=
  fun heq => absurd (heq ▸ hbanked step hstep) (by decide)

/-- The values are those of the steps. -/
theorem registerOffset_getD_ne {values : List ScpAppliedValueResult}
    (hkeys : values.map (·.key) = steps.map (·.key)) (index : Nat) :
    (values.getD index {}).registerOffset ≠ fw2051AcquisitionControlRegister := by
  by_cases hindex : index < steps.length
  · rw [(fields_of_key (getD_key hkeys hindex)).2.1]
    exact registerOffset_ne hbanked _ (List.getElem_mem hindex)
  · have hlength : values.length = steps.length := by
      have hmapped := congrArg List.length hkeys
      rw [List.length_map, List.length_map] at hmapped
      exact hmapped
    rw [List.getD_eq_getElem?_getD, List.getElem?_eq_none (by omega), Option.getD_none]
    decide

theorem bulkSends_rollbackValues (indexes : List Nat)
    (hkeys : run.result.values.map (·.key) = steps.map (·.key)) :
    BulkSends gate (¬SentWrite.Enables ·) run
      (rollbackValues fault gate cancellationRequested run indexes) := by
  induction indexes generalizing run with
  | nil => exact .refl run
  | cons index indexes ih =>
      unfold rollbackValues
      have hvalue := registerOffset_getD_ne hbanked hkeys index
      dsimp only
      generalize run.result.values.getD index {} = value at hvalue ⊢
      split
      · exact bulkSends_of_eq rfl rfl rfl rfl rfl
      · have hselect :=
          @bulkSends_selectRollbackBank fault gate cancellationRequested run index value
        -- each value: its bank, the gate, the value itself; none of them enables acquisition
        generalize selectRollbackBank fault gate cancellationRequested run index value = answer
          at hselect ⊢
        obtain ⟨passed, selected⟩ := answer
        cases passed with
        | false => exact hselect.trans (bulkSends_of_eq rfl rfl rfl rfl rfl)
        | true =>
            have hgate := @bulkSends_reverifyOwnership gate cancellationRequested selected
              (¬SentWrite.Enables ·) (.rollbackWrite index)
            dsimp only at hselect ⊢
            generalize reverifyOwnership gate cancellationRequested selected
              (.rollbackWrite index) = answer at hgate ⊢
            obtain ⟨allowed, asked⟩ := answer
            cases allowed with
            | false => exact (hselect.trans hgate).trans (bulkSends_of_eq rfl rfl rfl rfl rfl)
            | true =>
                have hundone := (hselect.trans hgate).trans
                  (@bulkSends_rollbackValue fault gate asked index value hvalue)
                exact hundone.trans (ih (hundone.keys.trans hkeys))

theorem bulkSends_rollback (hkeys : run.result.values.map (·.key) = steps.map (·.key)) :
    BulkSends gate (¬SentWrite.Enables ·) run (rollback fault gate cancellationRequested run) := by
  by_cases h : run.failure ≠ "" ∧ run.ownershipAvailable = true ∧ run.attemptedValueIndexes ≠ []
  · rw [rollback_of_failed cancellationRequested h]
    have hstarted : BulkSends gate (¬SentWrite.Enables ·) run run.rollbackStarted :=
      bulkSends_of_eq rfl rfl rfl rfl rfl
    exact (hstarted.trans (bulkSends_rollbackValues hbanked _ hkeys)).trans bulkSends_finishRollback
  · rw [rollback, if_neg h]
    exact .refl run

/-- The loop over the steps. -/
theorem bulkSends_steps {indexed : List (ScpProfileApplicationStep × Nat)}
    (hindexed : ∀ step ∈ indexed, step.1 ∈ steps) : BulkSends gate (¬SentWrite.Enables ·) run
      (indexed.foldl (applyStep fault gate cancellationRequested) run) :=
  bulkSends_applySteps fun step hstep => registerOffset_ne hbanked _ (hindexed step hstep)

/-- A transaction enables nothing, and its log accounts for all that it does. -/
theorem bulkSends_bulkApplyTransaction
    (hkeys : run.result.values.map (·.key) = steps.map (·.key)) :
    BulkSends gate (¬SentWrite.Enables ·) run
      (bulkApplyTransaction fault gate cancellationRequested run steps) := by
  have hstopped := (@bulkSends_stopModule fault gate cancellationRequested run).quiet
  have happlied := hstopped.trans (@bulkSends_steps fault gate cancellationRequested
    (stopModule fault gate cancellationRequested run) steps hbanked steps.zipIdx
    fun _ hstep => List.fst_mem_of_mem_zipIdx hstep)
  have hforward := happlied.trans
    (@bulkSends_finishForward fault gate cancellationRequested _)
  exact hforward.trans (bulkSends_rollback hbanked (hforward.keys.trans hkeys))

end Banked

/-! ### Whether the selector is parked

From a selection on, every way through the transaction comes to a parking: the forward one if
nothing fails, and that of the rollback otherwise. Only the first selection may fail with nothing to
be rolled back. -/

/-- Every selection on the way from one run to the other is parked, and so is everything selected
before. -/
def EndsParked (run run' : BulkApplyRun) : Prop :=
  ∃ writes, LogsWrites writes run.trace run'.trace ∧ ParksAfterSelecting writes ∧
    ∃ write ∈ writes, write.Parks

theorem BulkSends.endsParked (h : BulkSends gate kind run run') (h' : EndsParked run' run'') :
    EndsParked run run'' := by
  obtain ⟨before, hbefore, -⟩ := h.writes
  obtain ⟨writes, hlogged, hparks, write, hwrite, hparking⟩ := h'
  exact ⟨before ++ writes, hbefore.trans hlogged,
    CallTrace.answered_append_of_mem hparks hwrite hparking, write,
    List.mem_append_right _ hwrite, hparking⟩

section Allowed

variable (hallowed : ∀ site, (gate site).status = .allowed) (howned : run.ownershipAvailable = true)
include hallowed howned

theorem logsWrites_parkSelector (phase : ApplyPhase) :
    LogsWrites [.vme fw2051ScpSelectorRegister 0 true (fault (.park phase))] run.trace
      (parkSelector fault gate cancellationRequested run phase).trace := by
  rw [parkSelector, reverifyOwnership_of_allowed cancellationRequested howned (hallowed _)]
  dsimp only
  cases hfault : fault (.park phase) with
  | some failed =>
      rw [writeRegister_of_fault hfault]
      exact ⟨rfl, rfl⟩
  | none =>
      rw [writeRegister_of_success hfault]
      exact ⟨rfl, rfl⟩

/-- Parking, and what is sent after it. -/
theorem endsParked_parkSelector (phase : ApplyPhase)
    (hafter : BulkSends gate SentWrite.Plain
      (parkSelector fault gate cancellationRequested run phase) run') : EndsParked run run' := by
  obtain ⟨resets, hlogged, hplain⟩ := hafter.writes
  refine ⟨_, (logsWrites_parkSelector hallowed howned phase).trans hlogged,
    CallTrace.answered_of_forall_not fun write hwrite => ?_, _, List.mem_cons_self, rfl, rfl, rfl⟩
  rcases List.mem_cons.mp hwrite with rfl | hwrite
  · exact not_selects_parking
  · exact (hplain write hwrite).selects

/-- A rollback parks the selector in the end. -/
theorem endsParked_rollback {steps : List ScpProfileApplicationStep}
    (hbanked : ∀ step ∈ steps, step.registerOffset ∈ scpRegisterOffsets)
    (hkeys : run.result.values.map (·.key) = steps.map (·.key)) (hfailed : run.failure ≠ "")
    (hattempted : run.attemptedValueIndexes ≠ []) :
    EndsParked run (rollback fault gate cancellationRequested run) := by
  rw [rollback_of_failed cancellationRequested ⟨hfailed, howned, hattempted⟩]
  have hstarted : BulkSends gate (¬SentWrite.Enables ·) run run.rollbackStarted :=
    bulkSends_of_eq rfl rfl rfl rfl rfl
  -- the values are undone last first
  have hundone := hstarted.trans (@bulkSends_rollbackValues fault gate cancellationRequested
    run.rollbackStarted steps hbanked run.attemptedValueIndexes.reverse hkeys)
  have howned' := hundone.owned hallowed howned
  refine hundone.endsParked ?_
  generalize rollbackValues fault gate cancellationRequested run.rollbackStarted
    run.attemptedValueIndexes.reverse = undone at howned' ⊢
  have hending : BulkSends gate (¬SentWrite.Enables ·) undone undone.rollbackEnding :=
    bulkSends_of_eq rfl rfl rfl rfl rfl
  refine hending.endsParked ?_
  -- the selector is parked whether the readout is reset after it or not
  have hpark := fun run' => @endsParked_parkSelector fault gate cancellationRequested
    undone.rollbackEnding run' hallowed howned' .rollback
  show EndsParked _ (
    if undone.ownershipAvailable then
      let parked := parkSelector fault gate cancellationRequested undone.rollbackEnding .rollback
      if parked.result.rollbackVerified then
        resetReadout fault gate cancellationRequested parked .rollback
      else parked
    else undone.rollbackEnding)
  rw [if_pos howned']
  dsimp only
  split
  · exact hpark _ (bulkSends_resetReadout .rollback)
  · exact hpark _ (.refl _)

/-- With every write verified the selector is parked going forward. -/
theorem endsParked_finishForward (hsucceeds : run.failure = "")
    (hstopped : run.result.moduleStopVerified = true)
    (hverified : run.result.writesVerified = run.result.plannedWrites) :
    EndsParked run (finishForward fault gate cancellationRequested run) := by
  have hretained : BulkSends gate (¬SentWrite.Enables ·) run run.retained :=
    bulkSends_of_eq rfl rfl rfl rfl rfl
  have hpark := fun run' => @endsParked_parkSelector fault gate cancellationRequested
    run.retained run' hallowed howned .forward
  rw [finishForward, if_pos ⟨hsucceeds, hstopped, hverified⟩]
  refine hretained.endsParked ?_
  show EndsParked run.retained (
    let parked := parkSelector fault gate cancellationRequested run.retained .forward
    if parked.failure = "" then resetReadout fault gate cancellationRequested parked .forward
    else parked)
  dsimp only
  split
  · exact hpark _ (bulkSends_resetReadout .forward)
  · exact hpark _ (.refl _)

/-- The selection of a bank that is not selected. -/
theorem logsWrites_selectBank {index : Nat} {step : ScpProfileApplicationStep}
    (hother : run.selectedQuad ≠ step.quad) :
    LogsWrites [.vme fw2051ScpSelectorRegister step.quad.toNat.toUInt16 false
        (fault (.select index))] run.trace
      (selectBank fault gate cancellationRequested run index step).2.trace := by
  rw [selectBank, if_pos hother,
    reverifyOwnership_of_allowed cancellationRequested howned (hallowed _)]
  dsimp only
  cases hfault : fault (.select index) with
  | some failed =>
      rw [writeRegister_of_fault hfault]
      exact ⟨rfl, rfl⟩
  | none =>
      rw [writeRegister_of_success hfault]
      exact ⟨rfl, rfl⟩

end Allowed

/-! ### The transaction

The selection of the first bank is where the two cases part. If it is answered, a parking follows;
if its answer is lost, nothing was attempted, and so nothing is undone or parked. -/

/-- Nothing more is done after a failure unless something has been attempted. -/
theorem rollback_of_unattempted (hfailed : run.failure ≠ "")
    (hattempted : run.attemptedValueIndexes = [])
    (indexed : List (ScpProfileApplicationStep × Nat)) :
    rollback fault gate cancellationRequested (finishForward fault gate cancellationRequested
      (indexed.foldl (applyStep fault gate cancellationRequested) run)) = run := by
  rw [foldl_applyStep_of_failed cancellationRequested indexed hfailed, finishForward,
    if_neg fun hrun => hfailed hrun.1, rollback, if_neg fun hrun => hrun.2.2 hattempted]

section Transaction

variable {step : ScpProfileApplicationStep} {rest : List ScpProfileApplicationStep}

/-- What follows a selection that was answered parks the selector in the end, by the rollback if
anything goes wrong. -/
theorem endsParked_afterSelecting (h : Prepared (step :: rest) run)
    (happlicable : ApplicableSteps (step :: rest) run.bench.banks)
    (hallowed : ∀ site, (gate site).status = .allowed) (hstop : StopUndisturbed fault gate)
    {selected : BulkApplyRun}
    (hselect : selectBank fault gate cancellationRequested run.stopped 0 step = (true, selected)) :
    EndsParked selected
      (bulkApplyTransaction fault gate cancellationRequested run (step :: rest)) := by
  have hprogress := h.progress
  have hbanked : ∀ other ∈ step :: rest, other.registerOffset ∈ scpRegisterOffsets :=
    fun other hother => (happlicable.inBank other hother).2.2
  have hsent := @bulkSends_selectBank fault gate cancellationRequested run.stopped 0 step
  rw [hselect] at hsent
  have howned := hsent.owned hallowed hprogress.owned
  obtain ⟨hwritten, hattempted⟩ := @bulkSends_attemptWrite fault gate selected 0 step
    (registerOffset_ne hbanked _ List.mem_cons_self)
  have hfirst : applyStep fault gate cancellationRequested run.stopped (step, 0) =
      attemptWrite fault selected 0 step := by
    rw [applyStep, if_pos ⟨hprogress.succeeds, hprogress.owned⟩, hselect]
    dsimp only
    rw [reverifyOwnership_of_allowed cancellationRequested howned (hallowed _)]
  have happlied : applySteps fault gate cancellationRequested
      (stopModule fault gate cancellationRequested run) (step :: rest) =
        (rest.zipIdx 1).foldl (applyStep fault gate cancellationRequested)
          (attemptWrite fault selected 0 step) := by
    rw [stopModule_of_undisturbed cancellationRequested h.owned hstop, ← hfirst]
    rfl
  have hlater := @bulkSends_steps fault gate cancellationRequested
    (attemptWrite fault selected 0 step) (step :: rest) hbanked (rest.zipIdx 1)
    fun other hother => List.mem_cons_of_mem _ (List.fst_mem_of_mem_zipIdx hother)
  obtain ⟨hwriting, hinterrupted⟩ :=
    applySteps_stopModule fault gate cancellationRequested h happlicable
  unfold bulkApplyTransaction
  dsimp only
  rw [happlied] at hwriting hinterrupted ⊢
  refine (hwritten.trans hlater).endsParked ?_
  have howned' := hlater.owned hallowed (hwritten.owned hallowed howned)
  have hattempted' := hlater.attempted hattempted
  have hkeys := ((hsent.trans hwritten).trans hlater).keys.trans hprogress.keys
  generalize (rest.zipIdx 1).foldl (applyStep fault gate cancellationRequested)
    (attemptWrite fault selected 0 step) = applied
    at howned' hattempted' hkeys hwriting hinterrupted ⊢
  have hforward := @bulkSends_finishForward fault gate cancellationRequested applied
  by_cases hfailed : (finishForward fault gate cancellationRequested applied).failure ≠ ""
  · exact hforward.endsParked (endsParked_rollback hallowed (hforward.owned hallowed howned')
      hbanked (hforward.keys.trans hkeys) hfailed (hforward.attempted hattempted'))
  · -- without a failure every step has been verified, and the selector is parked going forward
    have hsucceeds : applied.failure = "" := by
      by_contra hne
      exact hfailed ((leaves_finishForward fault gate cancellationRequested applied).failed hne)
    have hundisturbed : WritingUndisturbed fault gate (step :: rest) := by
      by_contra hdisturbed
      exact (hinterrupted hdisturbed).failed hsucceeds
    obtain ⟨quad, hend⟩ := hwriting hundisturbed
    rw [rollback, if_neg fun hrun => hfailed hrun.1]
    exact endsParked_finishForward hallowed howned' hsucceeds hend.stopVerified
      (hend.writesVerified.trans hend.plannedWrites.symm)

/-- A selection whose answer is lost ends the transaction. -/
theorem bulkApplyTransaction_of_lost (h : Prepared (step :: rest) run)
    (hallowed : ∀ site, (gate site).status = .allowed) (hstop : StopUndisturbed fault gate)
    (hother : run.stopped.selectedQuad ≠ step.quad) (hselect : fault (.select 0) ≠ none) :
    bulkApplyTransaction fault gate cancellationRequested run (step :: rest) =
      (selectBank fault gate cancellationRequested run.stopped 0 step).2 := by
  have hprogress := h.progress
  obtain ⟨failed, hfailed⟩ := Option.ne_none_iff_exists'.mp hselect
  obtain ⟨run', hselected, hlost, hattempted⟩ : ∃ run',
      selectBank fault gate cancellationRequested run.stopped 0 step = (false, run') ∧
        run'.failure ≠ "" ∧ run'.attemptedValueIndexes = [] := by
    rw [selectBank, if_pos hother,
      reverifyOwnership_of_allowed cancellationRequested hprogress.owned (hallowed _)]
    dsimp only
    rw [writeRegister_of_fault hfailed]
    exact ⟨_, rfl, failure_fail _ (registerOperationError_ne _ _ _ _), hprogress.attempted⟩
  have hfirst : applyStep fault gate cancellationRequested run.stopped (step, 0) = run' := by
    rw [applyStep, if_pos ⟨hprogress.succeeds, hprogress.owned⟩, hselected]
  unfold bulkApplyTransaction applySteps
  dsimp only
  rw [stopModule_of_undisturbed cancellationRequested h.owned hstop, List.zipIdx_cons,
    List.foldl_cons, hfirst, hselected]
  exact rollback_of_unattempted hlost hattempted _

/-- Every selection is parked exactly if the answer to the first one is not lost. -/
theorem bulkApplyTransaction_parks (h : Prepared (step :: rest) run)
    (happlicable : ApplicableSteps (step :: rest) run.bench.banks)
    (hallowed : ∀ site, (gate site).status = .allowed) :
    ∃ writes, LogsWrites writes run.trace
        (bulkApplyTransaction fault gate cancellationRequested run (step :: rest)).trace ∧
      (ParksAfterSelecting writes ↔ ¬(StopUndisturbed fault gate ∧ fault (.select 0) ≠ none)) := by
  have hprogress := h.progress
  obtain ⟨hsign, -⟩ := happlicable.inBank step List.mem_cons_self
  have hother : run.stopped.selectedQuad ≠ step.quad := by
    rw [hprogress.selectedQuad]
    omega
  obtain ⟨stop, hstopping, hplain⟩ :=
    (@bulkSends_stopModule fault gate cancellationRequested run).writes
  by_cases hstop : StopUndisturbed fault gate
  · rw [stopModule_of_undisturbed cancellationRequested h.owned hstop] at hstopping
    have hselecting := hstopping.trans (@logsWrites_selectBank fault gate cancellationRequested
      run.stopped hallowed hprogress.owned 0 step hother)
    by_cases hselect : fault (.select 0) = none
    · obtain ⟨selected, hselected⟩ : ∃ selected,
          selectBank fault gate cancellationRequested run.stopped 0 step = (true, selected) := by
        rw [selectBank, if_pos hother,
          reverifyOwnership_of_allowed cancellationRequested hprogress.owned (hallowed _)]
        dsimp only
        rw [writeRegister_of_success hselect]
        exact ⟨_, rfl⟩
      obtain ⟨writes, hlogged, hparks⟩ :=
        endsParked_afterSelecting h happlicable hallowed hstop hselected
      rw [hselected] at hselecting
      refine ⟨_, hselecting.trans hlogged, ?_⟩
      refine (parksAfterSelecting_iff hplain (fun _ => hparks)
        fun hlost => absurd hselect hlost).trans ?_
      simp [hselect]
    · -- the selection is lost: nothing is parked, and the transaction sends no more
      rw [bulkApplyTransaction_of_lost h hallowed hstop hother hselect]
      refine ⟨_, hselecting, ?_⟩
      have hparks := @parksAfterSelecting_iff stop [] step.quad.toNat.toUInt16 (fault (.select 0))
        hplain (fun hanswered => absurd hanswered hselect) fun _ => nofun
      rw [List.append_nil] at hparks
      refine hparks.trans ?_
      simp [hstop]
  · -- the transaction ends with the stop
    have hfailed := stopModule_of_disturbed cancellationRequested h.owned hstop
    have hattempted := (leaves_stopModule fault gate cancellationRequested run).attempted.trans
      h.attempted
    have hended : bulkApplyTransaction fault gate cancellationRequested run (step :: rest) =
        stopModule fault gate cancellationRequested run :=
      rollback_of_unattempted hfailed.failed hattempted _
    rw [hended]
    exact ⟨stop, hstopping, iff_of_true (answered_of_aside fun write hwrite =>
      (hplain write hwrite).toAside) fun hlost => hstop hlost.1⟩

end Transaction

end Steps

/-! ### The operation

What precedes the transaction is a capture, with its own parking. -/

section Apply

variable (fault : BulkApplySite → Option Fault) (cancellationRequested : BulkApplyGate → Bool)
  (bench : Bench) (request : ScpProfileApplicationRequest)

/-- The writes that `applyFw2051ScpProfile` sends. -/
def applyFw2051ScpProfileWrites
    (ownershipGate : Option (BulkApplyGate → ScpCaptureGateResult)) : List SentWrite :=
  (applyFw2051ScpProfileRun fault cancellationRequested bench request ownershipGate).sent

/-- The writes account for all that an application does to the module, and none of them enables
anything. -/
theorem applyFw2051ScpProfileWrites_sent
    (ownershipGate : Option (BulkApplyGate → ScpCaptureGateResult)) :
    let writes := applyFw2051ScpProfileWrites fault cancellationRequested bench request
      ownershipGate
    CallTrace.replay SentWrite.effect writes bench =
        (applyFw2051ScpProfile fault cancellationRequested bench request ownershipGate).2 ∧
      ∀ write ∈ writes, ¬write.Enables := by
  have hcapture : ∀ gate, ∀ write ∈ preflightWrites fault bench request gate, ¬write.Enables :=
    fun gate => (replay_captureFw2051ScpConfigurationWrites (fault ∘ .capture) bench
      request.expectedLiveConfiguration.baseAddress (some (gate ∘ .capture)) {}).2
  unfold applyFw2051ScpProfileWrites applyFw2051ScpProfile
  dsimp only
  rcases applyFw2051ScpProfileRun_cases fault cancellationRequested bench request ownershipGate
    with ⟨gate, run, -, hpasses, hprepared, hsame, hlogged, happlied⟩ |
      ⟨-, -, -, -, writes, hlogged, hwrites⟩
  · have hbanked : ∀ step ∈ request.steps, step.registerOffset ∈ scpRegisterOffsets :=
      fun step hstep => ((hpasses.applicable hsame).inBank step hstep).2.2
    obtain ⟨writes, hsent, hquiet⟩ := (@bulkSends_bulkApplyTransaction fault gate
      cancellationRequested run request.steps hbanked hprepared.keys).writes
    have hall := hlogged.trans hsent
    rw [happlied, show (bulkApplyTransaction ..).sent = _ from hall.eq_of_nil rfl]
    exact ⟨hall.state.symm, fun write hwrite =>
      (List.mem_append.mp hwrite).elim (hcapture gate write) (hquiet write)⟩
  · rw [show (applyFw2051ScpProfileRun ..).sent = writes from hlogged.eq_of_nil rfl]
    refine ⟨hlogged.state.symm, ?_⟩
    rcases hwrites with rfl | ⟨gate, -, rfl⟩
    · exact nofun
    · exact hcapture gate

variable {fault bench request} in
/-- If nothing is denied, every selection is parked exactly if the answer to the first one of the
transaction is not lost. -/
theorem applyFw2051ScpProfileWrites_park {gate : BulkApplyGate → ScpCaptureGateResult}
    (hallowed : ∀ site, (gate site).status = .allowed) :
    ParksAfterSelecting
        (applyFw2051ScpProfileWrites fault cancellationRequested bench request (some gate)) ↔
      ¬(PreflightPasses fault gate bench request ∧ StopUndisturbed fault gate ∧
        fault (.select 0) ≠ none) := by
  have hcapture : ParksAfterSelecting (preflightWrites fault bench request gate) :=
    captureFw2051ScpConfigurationWrites_park _ _ _ (fun site => hallowed (.capture site))
      fun _ => rfl
  unfold applyFw2051ScpProfileWrites
  rcases applyFw2051ScpProfileRun_cases fault cancellationRequested bench request (some gate)
    with ⟨gate', run, hgate, hpasses, hprepared, hsame, hlogged, happlied⟩ |
      ⟨hrefused, -, -, -, writes, hlogged, hwrites⟩
  · -- the transaction was reached: it alone decides
    cases hgate
    have happlicable : ApplicableSteps request.steps run.bench.banks := hpasses.applicable hsame
    obtain ⟨step, rest, hsteps⟩ :=
      List.exists_cons_of_ne_nil (acceptedRequest_of_validate hpasses.accepted).steps_ne
    rw [hsteps] at happlicable hprepared happlied
    obtain ⟨writes, hsent, hparks⟩ := @bulkApplyTransaction_parks fault gate
      cancellationRequested run step rest hprepared happlicable hallowed
    rw [happlied,
      show (bulkApplyTransaction ..).sent = _ from (hlogged.trans hsent).eq_of_nil rfl]
    simp only [hpasses, true_and]
    rw [← hparks]
    exact ⟨CallTrace.Answered.of_append, hcapture.append⟩
  · rw [show (applyFw2051ScpProfileRun ..).sent = writes from hlogged.eq_of_nil rfl]
    refine iff_of_true ?_ fun hlost => hrefused ⟨gate, rfl, hlost.1⟩
    -- refused earlier: nothing was sent, or only what the preflight capture sends
    rcases hwrites with rfl | ⟨gate', hgate, rfl⟩
    · trivial
    · cases hgate
      exact hcapture

end Apply

end Fidget
