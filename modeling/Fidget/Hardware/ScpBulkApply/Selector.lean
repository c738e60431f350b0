import Fidget.Hardware.ScpBulkApply.Verified

/-!
# What the result says about the selector

`selectorParkedAtQuadZero` is set by the capture of the preflight and by every parking, and cleared
by the first selection of the forward loop. It is not cleared before a selection is attempted, nor
by the selections of the rollback. So it can outlive the parking it reports in two ways, and in no
other: the first selection is refused but takes effect, or a rollback follows a successful parking
and ends away from bank zero.

The flag is set when the selector has been parked and cleared when a bank is selected, each time
after the write was answered. So it can be wrong in two ways only, and the file follows the
transaction to both: a first selection that is refused but takes effect, while the flag is still up
from the capture, and a rollback that selects banks after the forward parking.

## Main results

- `finishForward_of_progress`: how the forward part can end once every step is written.
- `rollbackValues_leaves`: the bank at which the rollback stops, computed from the steps, the faults
  and the gate's answers.
- `bulkApplyTransaction_reportsSelector`: the flag is true of the module unless the selector strays
  in one of the two ways.
- `applyFw2051ScpProfile_reportsSelector_iff`: the same for the operation, with the condition on the
  inputs.
-/

namespace Fidget

/-! ### Calls that leave the selector alone

What is neither a selection nor a parking keeps the selector and the flag, hence whether the flag is
right. -/

/-- The second run has the selector where the first has it, and reports the same about it. -/
structure KeepsSelector (run run' : BulkApplyRun) : Prop where
  selector : run'.bench.selector = run.bench.selector
  parked : run'.result.selectorParkedAtQuadZero = run.result.selectorParkedAtQuadZero

theorem KeepsSelector.refl (run : BulkApplyRun) : KeepsSelector run run := ⟨rfl, rfl⟩

theorem KeepsSelector.trans {run run' run'' : BulkApplyRun} (h : KeepsSelector run run')
    (h' : KeepsSelector run' run'') : KeepsSelector run run'' :=
  ⟨h'.selector.trans h.selector, h'.parked.trans h.parked⟩

section Operation

variable {fault : BulkApplySite → Option Fault} {gate : BulkApplyGate → ScpCaptureGateResult}
  (cancellationRequested : BulkApplyGate → Bool) {run : BulkApplyRun}

variable (fault) in
/-- A write to another register leaves the selector and the flag. -/
theorem keepsSelector_writeRegister (run : BulkApplyRun) (site : BulkApplySite)
    {registerOffset : UInt16} (h : registerOffset ≠ fw2051ScpSelectorRegister) (value : UInt16) :
    KeepsSelector run (writeRegister fault run site registerOffset value).2 := by
  refine ⟨?_, rfl⟩
  show (run.bench.writeVmeD16 (fault site) registerOffset value).2.selector = run.bench.selector
  rcases Bench.writeVmeD16_cases run.bench (fault site) registerOffset value with heq | heq
  · rw [heq]
  · rw [heq, Bench.selector_write h]

variable (gate) in
/-- So does asking the gate. -/
theorem reverifyOwnership_keepsSelector (run : BulkApplyRun) (site : BulkApplyGate) :
    KeepsSelector run (reverifyOwnership gate cancellationRequested run site).2 := by
  unfold reverifyOwnership
  split
  · exact .refl run
  · split
    · exact .refl run
    · exact ⟨rfl, rfl⟩

/-- So does resetting the readout. -/
theorem resetReadout_keepsSelector (run : BulkApplyRun) (phase : ApplyPhase) :
    KeepsSelector run (resetReadout fault gate cancellationRequested run phase) := by
  unfold resetReadout
  split
  · exact .refl run
  · have hverified := reverifyOwnership_keepsSelector gate cancellationRequested run (.reset phase)
    split
    -- the gate refuses
    next heq =>
      rw [heq] at hverified
      exact hverified
    next verified heq =>
      rw [heq] at hverified
      refine hverified.trans ?_
      have hwritten := keepsSelector_writeRegister fault verified (.fifoReset phase)
        (by decide : fw2051FifoResetRegister ≠ fw2051ScpSelectorRegister) fw2051ResetCommandValue
      split
      -- the first reset fails, and the second is not tried
      next written heq =>
        rw [heq] at hwritten
        exact hwritten.trans ⟨rfl, rfl⟩
      -- both are tried
      next written heq =>
        rw [heq] at hwritten
        set noted : BulkApplyRun :=
          { written with result := { written.result with fifoResetSent := true } }
        have hnoted : KeepsSelector written noted := ⟨rfl, rfl⟩
        refine (hwritten.trans hnoted).trans ?_
        have hreset := keepsSelector_writeRegister fault noted (.readoutReset phase)
          (by decide : fw2051ReadoutResetRegister ≠ fw2051ScpSelectorRegister)
          fw2051ResetCommandValue
        dsimp only
        split
        next heq =>
          rw [heq] at hreset
          exact hreset.trans ⟨rfl, rfl⟩
        next heq =>
          rw [heq] at hreset
          exact hreset.trans ⟨rfl, rfl⟩

/-! ### Parking

The parking that follows a rollback sets the flag only if it succeeds. If it does not, the flag is
as the rollback has found it. -/

/-- Without the gate's permission the selector is not parked. -/
theorem parkSelector_of_denied {phase : ApplyPhase} (howned : run.ownershipAvailable = true)
    (hgate : (gate (.park phase)).status ≠ .allowed) : ∃ message ≠ "",
      parkSelector fault gate cancellationRequested run phase = run.denied message := by
  obtain ⟨message, hmessage, hdenied⟩ :=
    reverifyOwnership_of_denied cancellationRequested howned hgate
  refine ⟨message, hmessage, ?_⟩
  rw [parkSelector, hdenied]

/-- A lost parking is reported. -/
theorem parkSelector_of_fault {phase : ApplyPhase} (howned : run.ownershipAvailable = true)
    (hgate : (gate (.park phase)).status = .allowed) {failed : Fault}
    (hfault : fault (.park phase) = some failed) : ∃ message ≠ "",
      parkSelector fault gate cancellationRequested run phase =
        { run with
          bench :=
            if failed.takesEffect then run.bench.write fw2051ScpSelectorRegister 0
            else run.bench
          sent := run.sent ++
            [SentWrite.vme fw2051ScpSelectorRegister 0 true (some failed)] }.fail message := by
  refine ⟨_, registerOperationError_ne "park" "channel-quad selector" fw2051ScpSelectorRegister
    failed.error, ?_⟩
  rw [parkSelector, reverifyOwnership_of_allowed cancellationRequested howned hgate]
  dsimp only
  rw [writeRegister_of_fault hfault]
  rfl

/-- The run with the selector parked. -/
def BulkApplyRun.parked (run : BulkApplyRun) : BulkApplyRun :=
  { run with
    bench := run.bench.write fw2051ScpSelectorRegister 0
    sent := run.sent ++ [.vme fw2051ScpSelectorRegister 0 true none]
    result := { run.result with selectorParkedAtQuadZero := true } }

/-- Otherwise the selector is parked. -/
theorem parkSelector_of_success {phase : ApplyPhase} (howned : run.ownershipAvailable = true)
    (hgate : (gate (.park phase)).status = .allowed) (hfault : fault (.park phase) = none) :
    parkSelector fault gate cancellationRequested run phase = run.parked := by
  rw [parkSelector, reverifyOwnership_of_allowed cancellationRequested howned hgate]
  dsimp only
  rw [writeRegister_of_success hfault]
  rfl

/-- The parking that ends the rollback is allowed and reaches the module. -/
def RollbackParks (fault : BulkApplySite → Option Fault)
    (gate : BulkApplyGate → ScpCaptureGateResult) : Prop :=
  (gate (.park .rollback)).status = .allowed ∧
    ∀ failed, fault (.park .rollback) = some failed → failed.takesEffect = true

/-- What is reported of the selector is true. -/
def ReportsSelector (run : BulkApplyRun) : Prop :=
  run.result.selectorParkedAtQuadZero = true → run.bench.selector = 0

/-- What leaves both leaves the report as true as it was. -/
theorem KeepsSelector.reportsSelector {run' : BulkApplyRun} (h : KeepsSelector run run') :
    ReportsSelector run' ↔ ReportsSelector run := by
  rw [ReportsSelector, h.parked, h.selector, ReportsSelector]

/-- A parking of the rollback makes the report true, if it succeeds. -/
theorem parkSelector_reportsSelector (howned : run.ownershipAvailable = true) :
    ReportsSelector (parkSelector fault gate cancellationRequested run .rollback) ↔
      ReportsSelector run ∨ RollbackParks fault gate := by
  by_cases hgate : (gate (.park .rollback)).status = .allowed
  · cases hfault : fault (.park .rollback) with
    -- the write was answered
    | none =>
        rw [parkSelector_of_success cancellationRequested howned hgate hfault]
        refine iff_of_true (fun _ => Bench.selector_write_selector) (.inr ⟨hgate, ?_⟩)
        intro failed hfailed
        rw [hfault] at hfailed
        cases hfailed
    | some failed =>
        obtain ⟨message, -, heq⟩ := parkSelector_of_fault cancellationRequested howned hgate hfault
        rw [heq]
        cases heffect : failed.takesEffect with
        -- the write was lost after it took effect
        | true =>
            refine iff_of_true (fun _ => Bench.selector_write_selector) (.inr ⟨hgate, ?_⟩)
            intro failed' hfailed'
            rw [hfault] at hfailed'
            cases hfailed'
            exact heffect
        -- the write was lost without effect, and the selector is where the run left it
        | false =>
            have hparks : ¬RollbackParks fault gate := by
              intro hparks
              have htakes := hparks.2 failed hfault
              rw [heffect] at htakes
              cases htakes
            rw [or_iff_left hparks]
            exact Iff.rfl
  · obtain ⟨message, -, heq⟩ := parkSelector_of_denied cancellationRequested howned hgate
    rw [heq, or_iff_left (fun hparks => hgate hparks.1)]
    exact Iff.rfl

/-- So it is at the end of the rollback. -/
theorem finishRollback_reportsSelector (run : BulkApplyRun) :
    ReportsSelector (finishRollback fault gate cancellationRequested run) ↔
      ReportsSelector run ∨ (run.ownershipAvailable = true ∧ RollbackParks fault gate) := by
  unfold finishRollback
  dsimp only
  split
  next howned =>
    set verified : BulkApplyRun := { run with result := { run.result with
      rollbackVerified := run.rollbackSafe &&
        run.result.rollbackWritesVerified == run.attemptedValueIndexes.length } }
    have hparked : ReportsSelector (parkSelector fault gate cancellationRequested verified
        .rollback) ↔ ReportsSelector run ∨ RollbackParks fault gate :=
      parkSelector_reportsSelector cancellationRequested howned
    rw [and_iff_right howned, ← hparked]
    split
    · exact (resetReadout_keepsSelector cancellationRequested _ .rollback).reportsSelector
    · exact Iff.rfl
  next howned =>
    rw [or_iff_left (fun h => howned h.1)]
    exact Iff.rfl

/-! ### The selections of the rollback

The rollback selects a bank only if it is not the one that it has selected last, and gives up the
ownership when the gate refuses. `rollbackLeaves` computes from the faults and the gate alone which
bank is selected at the end. -/

/-- The bank that the rollback of the steps, in this order, leaves selected, and whether ownership
is left, when it starts on the given bank with `quad` as the last one it has selected. -/
def rollbackLeaves (fault : BulkApplySite → Option Fault)
    (gate : BulkApplyGate → ScpCaptureGateResult) :
    Int → Nat → List (ScpProfileApplicationStep × Nat) → Nat × Bool
  | _, bank, [] => (bank, true)
  | quad, bank, (step, index) :: rest =>
    if quad ≠ step.quad ∧ (gate (.rollbackBank index)).status ≠ .allowed then (bank, false)
    else
      match if quad ≠ step.quad then fault (.rollbackSelect index) else none with
      | some failed => (if failed.takesEffect then step.quad.toNat else bank, true)
      | none =>
        if (gate (.rollbackWrite index)).status ≠ .allowed then (step.quad.toNat, false)
        else rollbackLeaves fault gate step.quad step.quad.toNat rest

/-- The rollback of the steps ends at bank zero: it leaves that bank selected, or its parking works. -/
def RollbackReturns (fault : BulkApplySite → Option Fault)
    (gate : BulkApplyGate → ScpCaptureGateResult) (bank : Nat)
    (steps : List (ScpProfileApplicationStep × Nat)) : Prop :=
  (rollbackLeaves fault gate (-1) bank steps).1 = 0 ∨
    ((rollbackLeaves fault gate (-1) bank steps).2 = true ∧ RollbackParks fault gate)

/-- Where a rollback stands as to the selector. -/
structure RollbackAt (steps : List ScpProfileApplicationStep) (quad : Int) (bank : Nat)
    (run : BulkApplyRun) : Prop where
  keys : run.result.values.map (·.key) = steps.map (·.key)
  owned : run.ownershipAvailable = true
  selectedQuad : run.selectedQuad = quad
  selector : run.bench.selector.toNat = bank
  bank_eq : 0 ≤ quad → bank = quad.toNat

section Rollback

variable {steps : List ScpProfileApplicationStep} {quad : Int} {bank i : Nat}
  {value : ScpAppliedValueResult}

variable (fault) in
/-- Writing a value back concerns neither the selector nor the ownership. -/
theorem rollbackValue_keeps (run : BulkApplyRun) (index : Nat)
    (hregister : value.registerOffset ∈ scpRegisterOffsets) :
    let undone := rollbackValue fault run index value
    KeepsSelector run undone ∧ undone.ownershipAvailable = run.ownershipAvailable ∧
      undone.selectedQuad = run.selectedQuad ∧
      undone.result.values.map (·.key) = run.result.values.map (·.key) := by
  have hkept : (run.bench.write value.registerOffset value.expectedValue).selector =
      run.bench.selector := Bench.selector_write_of_banked hregister
  have hkeys : (run.result.values.modify index fun value =>
      { value with rollbackAttempted := true }).map (·.key) = run.result.values.map (·.key) :=
    map_key_modify _ index fun _ => rfl
  intro undone
  have hundone : undone = rollbackValue fault run index value := rfl
  unfold rollbackValue at hundone
  dsimp only at hundone
  cases hfault : fault (.rollbackWrite index) with
  | some failed =>
      rw [writeRegister_of_fault hfault] at hundone
      rw [hundone]
      -- a register of a bank is written: whether or not it takes effect, the selector stays
      refine ⟨⟨?_, rfl⟩, rfl, rfl, hkeys⟩
      show (if failed.takesEffect then run.bench.write value.registerOffset value.expectedValue
        else run.bench).selector = run.bench.selector
      split
      · exact hkept
      · rfl
  | none =>
      rw [writeRegister_of_success hfault] at hundone
      dsimp only at hundone
      cases hreadback : fault (.rollbackReadback index) with
      | some failed =>
          rw [hreadback, Bench.readVmeD16] at hundone
          rw [hundone]
          exact ⟨⟨hkept, rfl⟩, rfl, rfl, hkeys⟩
      | none =>
          rw [hreadback, Bench.readVmeD16, Bench.read_write] at hundone
          dsimp only at hundone
          rw [if_neg (not_not.mpr rfl)] at hundone
          rw [hundone]
          refine ⟨⟨hkept, rfl⟩, rfl, rfl, ?_⟩
          refine (map_key_modify _ index fun _ => ?_).trans
            ((map_key_modify _ index fun _ => ?_).trans hkeys)
          all_goals rfl

/-- The attempts in reverse order begin with the last one. -/
theorem zipIdx_take_succ_reverse {α : Type} {l : List α} {i : Nat} (hi : i < l.length) :
    ((l.take (i + 1)).zipIdx).reverse = (l[i], i) :: ((l.take i).zipIdx).reverse := by
  rw [List.take_succ_eq_append_getElem hi, List.zipIdx_append, List.reverse_append,
    List.length_take_of_le hi.le]
  simp

variable (fault gate) in
/-- What a rollback of the first `i` values and the next does once the bank of the next is
selected. -/
def rollbackSelected (value : ScpAppliedValueResult) (i : Nat) (run : BulkApplyRun) :
    BulkApplyRun :=
  match reverifyOwnership gate cancellationRequested run (.rollbackWrite i) with
  | (false, run) => { run with rollbackSafe := false }
  | (true, run) =>
    rollbackValues fault gate cancellationRequested (rollbackValue fault run i value)
      (List.range i).reverse

variable (fault gate) in
/-- The rollback ends at the bank that `rollbackLeaves` computes. -/
theorem rollbackValues_leaves (hinBank : ∀ step ∈ steps, 0 ≤ step.quad ∧ step.InBank)
    (h : RollbackAt steps quad bank run) (hi : i ≤ steps.length) :
    let undone := rollbackValues fault gate cancellationRequested run (List.range i).reverse
    undone.bench.selector.toNat =
        (rollbackLeaves fault gate quad bank (steps.take i).zipIdx.reverse).1 ∧
      undone.ownershipAvailable =
        (rollbackLeaves fault gate quad bank (steps.take i).zipIdx.reverse).2 ∧
      undone.result.selectorParkedAtQuadZero = run.result.selectorParkedAtQuadZero := by
  induction i generalizing run quad bank with
  | zero => exact ⟨h.selector, h.owned, rfl⟩
  | succ i ih =>
      have hkey := getD_key h.keys hi
      obtain ⟨hsign, hquad, hregister⟩ := hinBank steps[i] (List.getElem_mem hi)
      rw [List.range_succ, List.reverse_append, List.reverse_singleton, List.singleton_append,
        zipIdx_take_succ_reverse hi]
      unfold rollbackValues rollbackLeaves
      dsimp only
      rw [h.owned, if_neg (by decide)]
      set value := run.result.values.getD i {}
      obtain ⟨hvquad, hvoffset, -⟩ := fields_of_key hkey
      rw [← hvquad] at hsign hquad ⊢
      -- Once the bank of the step is selected, ownership decides whether the rollback goes on.
      have hselected : ∀ run', RollbackAt steps value.quad value.quad.toNat run' →
          run'.result.selectorParkedAtQuadZero = run.result.selectorParkedAtQuadZero →
          let undone := rollbackSelected fault gate cancellationRequested value i run'
          let leaves := if (gate (.rollbackWrite i)).status ≠ .allowed then (value.quad.toNat, false)
            else rollbackLeaves fault gate value.quad value.quad.toNat (steps.take i).zipIdx.reverse
          undone.bench.selector.toNat = leaves.1 ∧ undone.ownershipAvailable = leaves.2 ∧
            undone.result.selectorParkedAtQuadZero = run.result.selectorParkedAtQuadZero := by
        intro run' hat hflag
        by_cases hgate : (gate (.rollbackWrite i)).status = .allowed
        · rw [rollbackSelected, reverifyOwnership_of_allowed cancellationRequested hat.owned hgate,
            if_neg (not_not.mpr hgate)]
          obtain ⟨hkeeps, howned, hlast, hkeys⟩ :=
            rollbackValue_keeps fault run' i (hvoffset ▸ hregister : value.registerOffset ∈ _)
          have hnext : RollbackAt steps value.quad value.quad.toNat
              (rollbackValue fault run' i value) := {
            keys := hkeys.trans hat.keys
            owned := howned.trans hat.owned
            selectedQuad := hlast.trans hat.selectedQuad
            selector := (congrArg UInt16.toNat hkeeps.selector).trans hat.selector
            bank_eq := hat.bank_eq }
          obtain ⟨hselector, howned, hparked⟩ := ih hnext (by omega)
          exact ⟨hselector, howned, hparked.trans (hkeeps.parked.trans hflag)⟩
        · obtain ⟨message, -, hdenied⟩ :=
            reverifyOwnership_of_denied cancellationRequested hat.owned hgate
          rw [rollbackSelected, hdenied, if_pos hgate]
          exact ⟨hat.selector, rfl, hflag⟩
      by_cases hsame : quad = value.quad
      · -- the bank is selected already
        rw [if_neg (fun hne => hne.1 hsame), if_neg (not_not.mpr hsame),
          selectRollbackBank_of_selected cancellationRequested (h.selectedQuad.trans hsame)]
        refine hselected run ?_ rfl
        subst hsame
        exact { h with selector := h.selector.trans (h.bank_eq hsign), bank_eq := fun _ => rfl }
      · have hne : run.selectedQuad ≠ value.quad := by rwa [h.selectedQuad]
        have hmoved : (run.bench.write fw2051ScpSelectorRegister
            value.quad.toNat.toUInt16).selector.toNat = value.quad.toNat := by
          rw [Bench.selector_write_selector, toNat_toUInt16_of_lt hquad]
        by_cases hgate : (gate (.rollbackBank i)).status = .allowed
        · rw [if_neg (fun hdenied => hdenied.2 hgate), if_pos hsame]
          cases hfault : fault (.rollbackSelect i) with
          | some failed =>
              obtain ⟨message, -, heq⟩ :=
                selectRollbackBank_of_fault cancellationRequested h.owned hne hgate hfault
              rw [heq]
              refine ⟨?_, h.owned, rfl⟩
              show (if failed.takesEffect = true then run.bench.write fw2051ScpSelectorRegister
                  value.quad.toNat.toUInt16 else run.bench).selector.toNat =
                if failed.takesEffect = true then value.quad.toNat else bank
              split
              · exact hmoved
              · exact h.selector
          | none =>
              rw [selectRollbackBank_of_success cancellationRequested h.owned hne hgate hfault]
              refine hselected _ ⟨h.keys, h.owned, rfl, ?_, fun _ => rfl⟩ rfl
              exact hmoved
        · obtain ⟨message, -, heq⟩ :=
            selectRollbackBank_of_denied cancellationRequested h.owned hne hgate
          rw [heq, if_pos ⟨hsame, hgate⟩]
          exact ⟨h.selector, rfl, rfl⟩

variable (fault gate) in
/-- A rollback of the first `n` steps keeps a true report true, and makes one of a parked selector
false unless it ends at bank zero. -/
theorem rollback_reportsSelector (hinBank : ∀ step ∈ steps, 0 ≤ step.quad ∧ step.InBank)
    (hkeys : run.result.values.map (·.key) = steps.map (·.key)) (hfailed : run.failure ≠ "")
    (howned : run.ownershipAvailable = true) {n : Nat} (hn : n ≤ steps.length)
    (hattempted : run.attemptedValueIndexes = List.range n)
    (hne : run.attemptedValueIndexes ≠ []) :
    ReportsSelector (rollback fault gate cancellationRequested run) ↔
      (run.result.selectorParkedAtQuadZero = true →
        RollbackReturns fault gate run.bench.selector.toNat (steps.take n).zipIdx.reverse) := by
  have hstarted : RollbackAt steps (-1) run.bench.selector.toNat run.rollbackStarted :=
    ⟨hkeys, howned, rfl, rfl, fun hsign => absurd hsign (by decide)⟩
  obtain ⟨hselector, hleft, hparked⟩ :=
    rollbackValues_leaves fault gate cancellationRequested hinBank hstarted hn
  rw [rollback_of_failed cancellationRequested ⟨hfailed, howned, hne⟩, hattempted,
    finishRollback_reportsSelector, ReportsSelector, hparked, hleft]
  have hzero : ∀ selector : UInt16, selector = 0 ↔ selector.toNat = 0 :=
    fun selector => ⟨fun h => by rw [h]; rfl, fun h => UInt16.toNat.inj h⟩
  rw [hzero, hselector]
  show ((run.result.selectorParkedAtQuadZero = true → _) ∨ _) ↔ _
  unfold RollbackReturns
  cases run.result.selectorParkedAtQuadZero
  · simp
  · simp

end Rollback

/-! ### The forward end

With every write verified, parking comes before the two resets. A reset that is refused is a
failure, and so there is a rollback although the selector is parked. -/

/-- The last three writes of a transaction without failures: parking succeeds, a reset does not. -/
structure ResetRefused (fault : BulkApplySite → Option Fault)
    (gate : BulkApplyGate → ScpCaptureGateResult) : Prop where
  parkGate : (gate (.park .forward)).status = .allowed
  park : fault (.park .forward) = none
  resetGate : (gate (.reset .forward)).status = .allowed
  reset : fault (.fifoReset .forward) ≠ none ∨ fault (.readoutReset .forward) ≠ none

/-- Without the gate's permission the readout is not reset. -/
theorem resetReadout_of_denied {phase : ApplyPhase} (hstopped : run.result.moduleStopVerified = true)
    (howned : run.ownershipAvailable = true) (hgate : (gate (.reset phase)).status ≠ .allowed) :
    ∃ message ≠ "", resetReadout fault gate cancellationRequested run phase =
      run.denied message := by
  obtain ⟨message, hmessage, hdenied⟩ :=
    reverifyOwnership_of_denied cancellationRequested howned hgate
  refine ⟨message, hmessage, ?_⟩
  rw [resetReadout, hstopped, if_neg (by decide), hdenied]

/-- An allowed reset fails exactly when one of its writes does, and keeps the ownership. -/
theorem resetReadout_of_allowed {phase : ApplyPhase} (hstopped : run.result.moduleStopVerified = true)
    (howned : run.ownershipAvailable = true) (hok : run.failure = "")
    (hgate : (gate (.reset phase)).status = .allowed) :
    let reset := resetReadout fault gate cancellationRequested run phase
    reset.ownershipAvailable = true ∧ (reset.failure ≠ "" ↔
      fault (.fifoReset phase) ≠ none ∨ fault (.readoutReset phase) ≠ none) := by
  intro reset
  have hreset : reset = resetReadout fault gate cancellationRequested run phase := rfl
  rw [resetReadout, hstopped, if_neg (by decide),
    reverifyOwnership_of_allowed cancellationRequested howned hgate] at hreset
  dsimp only at hreset
  cases hfifo : fault (.fifoReset phase) with
  -- the first reset was lost, and the second is not sent
  | some failed =>
      rw [writeRegister_of_fault hfifo] at hreset
      rw [hreset]
      exact ⟨howned, iff_of_true (failure_fail _ (registerOperationError_ne _ _ _ _))
        (.inl (Option.some_ne_none _))⟩
  | none =>
      rw [writeRegister_of_success hfifo] at hreset
      dsimp only at hreset
      cases hreadout : fault (.readoutReset phase) with
      | some failed =>
          rw [writeRegister_of_fault hreadout] at hreset
          rw [hreset]
          exact ⟨howned, iff_of_true (failure_fail _ (registerOperationError_ne _ _ _ _))
            (.inr (Option.some_ne_none _))⟩
      | none =>
          rw [writeRegister_of_success hreadout] at hreset
          rw [hreset]
          exact ⟨howned, iff_of_false (not_not.mpr hok) (by simp)⟩

variable {steps : List ScpProfileApplicationStep} {banks : BankCell → UInt16} {quad : Int}

variable (fault gate) in
/-- After all writes, the forward end leaves a parked selector to a rollback, or it leaves a true
report and no rollback, or it leaves none to be true. -/
theorem finishForward_of_progress (h : Progress steps banks steps.length quad run)
    (hquad : 0 ≤ quad) :
    let forward := finishForward fault gate cancellationRequested run
    (ResetRefused fault gate ∧ forward.failure ≠ "" ∧ forward.ownershipAvailable = true ∧
        forward.result.selectorParkedAtQuadZero = true ∧ forward.bench.selector = 0) ∨
      (¬ResetRefused fault gate ∧ (forward.failure = "" ∨ forward.ownershipAvailable = false) ∧
        ReportsSelector forward) ∨
      (¬ResetRefused fault gate ∧ forward.result.selectorParkedAtQuadZero = false) := by
  intro forward
  have hforward : forward =
      if (parkSelector fault gate cancellationRequested run.retained .forward).failure = "" then
        resetReadout fault gate cancellationRequested
          (parkSelector fault gate cancellationRequested run.retained .forward) .forward
      else parkSelector fault gate cancellationRequested run.retained .forward :=
    if_pos ⟨h.succeeds, h.stopVerified, h.writesVerified.trans h.plannedWrites.symm⟩
  have hflag : run.result.selectorParkedAtQuadZero = false := by
    rw [h.parked]
    exact decide_eq_false (by omega)
  by_cases hgate : (gate (.park .forward)).status = .allowed
  · -- the flag is set by a parking that succeeds, and only then does the reset matter
    cases hpark : fault (.park .forward) with
    | some failed =>
        obtain ⟨message, hmessage, heq⟩ :=
          @parkSelector_of_fault _ _ cancellationRequested run.retained _ h.owned hgate _ hpark
        rw [heq, if_neg (failure_fail _ hmessage)] at hforward
        right
        right
        rw [hforward]
        refine ⟨fun hrefused => ?_, hflag⟩
        rw [hrefused.park] at hpark
        cases hpark
    | none =>
        rw [@parkSelector_of_success _ _ cancellationRequested run.retained _ h.owned hgate hpark,
          if_pos (show run.retained.parked.failure = "" from h.succeeds)] at hforward
        have hkeeps : KeepsSelector run.retained.parked forward := by
          rw [hforward]
          exact resetReadout_keepsSelector cancellationRequested run.retained.parked .forward
        have hzero : run.retained.parked.bench.selector = 0 := Bench.selector_write_selector
        by_cases hreset : (gate (.reset .forward)).status = .allowed
        · obtain ⟨howned, hfailed⟩ := @resetReadout_of_allowed fault gate cancellationRequested
            run.retained.parked .forward h.stopVerified h.owned h.succeeds hreset
          rw [← hforward] at howned hfailed
          by_cases hfails : forward.failure = ""
          · right
            left
            refine ⟨fun hrefused => hfailed.mpr hrefused.reset hfails, .inl hfails, fun _ => ?_⟩
            rw [hkeeps.selector, hzero]
          · left
            refine ⟨⟨hgate, hpark, hreset, hfailed.mp hfails⟩, hfails, howned, hkeeps.parked, ?_⟩
            rw [hkeeps.selector, hzero]
        · obtain ⟨message, -, heq⟩ := @resetReadout_of_denied fault gate cancellationRequested
            run.retained.parked .forward h.stopVerified h.owned hreset
          right
          left
          refine ⟨fun hrefused => hreset hrefused.resetGate, .inr ?_, fun _ => ?_⟩
          · rw [hforward, heq]
            rfl
          · rw [hkeeps.selector, hzero]
  · -- no parking, and the flag stays down
    obtain ⟨message, hmessage, heq⟩ := @parkSelector_of_denied fault gate cancellationRequested
      run.retained .forward h.owned hgate
    rw [heq, if_neg (failure_denied _ hmessage)] at hforward
    right
    right
    rw [hforward]
    exact ⟨fun hrefused => hgate hrefused.parkGate, hflag⟩

/-! ### When the report is true

The two cases are put together. The faults that make the difference are `SelectorStrays`, a
condition on the run that does not mention the flag. -/

/-- A rollback after a successful parking ends away from bank zero. -/
structure RollbackStrays (fault : BulkApplySite → Option Fault)
    (gate : BulkApplyGate → ScpCaptureGateResult) (steps : List ScpProfileApplicationStep) :
    Prop where
  writing : WritingUndisturbed fault gate steps
  refused : ResetRefused fault gate
  strays : ¬RollbackReturns fault gate 0 steps.zipIdx.reverse

/-- One of the two ways. -/
def SelectorStrays (fault : BulkApplySite → Option Fault)
    (gate : BulkApplyGate → ScpCaptureGateResult) (steps : List ScpProfileApplicationStep) : Prop :=
  (StopUndisturbed fault gate ∧ FirstSelectStrays fault gate steps) ∨
    RollbackStrays fault gate steps

/-- The first selection, refused but with its effect, ends the loop with the report still set. -/
theorem applySteps_of_strays (hinBank : ∀ step ∈ steps, 0 ≤ step.quad ∧ step.InBank)
    (h : Progress steps banks 0 (-1) run) (hstrays : FirstSelectStrays fault gate steps) :
    let written := applySteps fault gate cancellationRequested run steps
    written.failure ≠ "" ∧ written.attemptedValueIndexes = [] ∧
      written.result.selectorParkedAtQuadZero = true ∧ written.bench.selector ≠ 0 := by
  obtain ⟨hgate, ⟨failed, hfault, heffect⟩, step, hhead, hquad⟩ := hstrays
  obtain ⟨rest, rfl⟩ := List.head?_eq_some_iff.mp hhead
  obtain ⟨hsign, hbank, -⟩ := hinBank step List.mem_cons_self
  intro written
  have hwritten : written = applySteps fault gate cancellationRequested run (step :: rest) := rfl
  -- the loop ends with the first selection, which has moved the selector
  have hfirst : applyStep fault gate cancellationRequested run (step, 0) =
      { run with
        bench := run.bench.write fw2051ScpSelectorRegister step.quad.toNat.toUInt16
        sent := run.sent ++ [SentWrite.vme fw2051ScpSelectorRegister step.quad.toNat.toUInt16
          false (some failed)] }.fail
        (registerOperationError "write" "channel-quad selector" fw2051ScpSelectorRegister
          failed.error) := by
    have hne : run.selectedQuad ≠ step.quad := by
      rw [h.selectedQuad]
      omega
    rw [applyStep, if_pos ⟨h.succeeds, h.owned⟩, selectBank, if_pos hne,
      reverifyOwnership_of_allowed cancellationRequested h.owned hgate]
    dsimp only
    rw [writeRegister_of_fault hfault, if_pos heffect]
    rfl
  rw [applySteps, List.zipIdx_cons, List.foldl_cons, hfirst,
    foldl_applyStep_of_failed _ _ (failure_fail _ (registerOperationError_ne _ _ _ _))] at hwritten
  rw [hwritten]
  refine ⟨failure_fail _ (registerOperationError_ne _ _ _ _), h.attempted, h.parked, ?_⟩
  show (run.bench.write fw2051ScpSelectorRegister step.quad.toNat.toUInt16).selector ≠ 0
  rw [Bench.selector_write_selector]
  intro hzero
  have hnat := congrArg UInt16.toNat hzero
  rw [toNat_toUInt16_of_lt hbank] at hnat
  exact hquad (by change step.quad.toNat = 0 at hnat; omega)

/-- A first selection that strays is not an undisturbed one. -/
theorem FirstSelectStrays.not_stepsUndisturbed (hstrays : FirstSelectStrays fault gate steps)
    (hinBank : ∀ step ∈ steps, 0 ≤ step.quad ∧ step.InBank) :
    ¬StepsUndisturbed fault gate (-1) 0 steps := by
  obtain ⟨-, ⟨failed, hfault, -⟩, step, hhead, -⟩ := hstrays
  obtain ⟨rest, rfl⟩ := List.head?_eq_some_iff.mp hhead
  have hsign := (hinBank step List.mem_cons_self).1
  intro hundisturbed
  have hnone := (hundisturbed.1.select (by omega)).2
  rw [hfault] at hnone
  cases hnone

variable (fault gate) in
/-- A loop that was interrupted for another reason leaves a true report, and none to a rollback. -/
theorem applySteps_reportsSelector (h : Prepared steps run)
    (happlicable : ApplicableSteps steps run.bench.banks)
    (hdisturbed : ¬WritingUndisturbed fault gate steps)
    (hstays : ¬(StopUndisturbed fault gate ∧ FirstSelectStrays fault gate steps)) :
    let written := applySteps fault gate cancellationRequested
      (stopModule fault gate cancellationRequested run) steps
    ReportsSelector written ∧
      (written.result.selectorParkedAtQuadZero = true → written.attemptedValueIndexes = []) := by
  intro written
  by_cases hstop : StopUndisturbed fault gate
  · have hinterrupted :=
      (applySteps_stopModule fault gate cancellationRequested h happlicable).2 hdisturbed
    constructor
    · intro hflag
      exact (hinterrupted.parked hflag).2 fun hstrays => hstays ⟨hstop, hstrays⟩
    · intro hflag
      exact (hinterrupted.parked hflag).1
  · have hfailed := stopModule_of_disturbed cancellationRequested h.owned hstop
    have hwritten : written = stopModule fault gate cancellationRequested run :=
      foldl_applyStep_of_failed cancellationRequested _ hfailed.failed
    have hleaves := leaves_stopModule fault gate cancellationRequested run
    rw [hwritten]
    constructor
    · intro _
      rw [hfailed.selector, h.selector]
    · intro _
      rw [hleaves.attempted, h.attempted]

variable (fault gate) in
/-- The report of the transaction is true unless the selector strays. -/
theorem bulkApplyTransaction_reportsSelector (h : Prepared steps run)
    (happlicable : ApplicableSteps steps run.bench.banks) (hne : steps ≠ []) :
    ReportsSelector (bulkApplyTransaction fault gate cancellationRequested run steps) ↔
      ¬SelectorStrays fault gate steps := by
  set written := applySteps fault gate cancellationRequested
    (stopModule fault gate cancellationRequested run) steps with hwritten
  show ReportsSelector (rollback fault gate cancellationRequested
    (finishForward fault gate cancellationRequested written)) ↔ _
  obtain ⟨hprogress, hinterrupted⟩ :=
    applySteps_stopModule fault gate cancellationRequested h happlicable
  have hlength : steps.length ≠ 0 := fun hzero => hne (List.length_eq_zero_iff.mp hzero)
  by_cases hwriting : WritingUndisturbed fault gate steps
  · -- every step was written: only a rollback after the parking can leave the flag behind
    obtain ⟨quad, hend⟩ := hprogress hwriting
    have hquad : 0 ≤ quad := by
      by_contra hneg
      exact hlength (hend.begun (not_le.mp hneg))
    have hleaves := leaves_finishForward fault gate cancellationRequested written
    have hends := finishForward_of_progress fault gate cancellationRequested hend hquad
    have hattempted := hleaves.attempted.trans hend.attempted
    have hkeys := hleaves.keys.trans hend.keys
    dsimp only at hends
    generalize finishForward fault gate cancellationRequested written = forward at *
    have hnotEmpty : forward.attemptedValueIndexes ≠ [] := by
      rw [hattempted, Ne, List.range_eq_nil]
      exact hlength
    rw [SelectorStrays, or_iff_right (fun hfirst => hfirst.2.not_stepsUndisturbed
      happlicable.inBank hwriting.2)]
    rcases hends with ⟨hrefused, hfailed, howned, hflag, hzero⟩ | ⟨hrefused, hnone, htrue⟩ |
      ⟨hrefused, hflag⟩
    · have hreports := rollback_reportsSelector fault gate cancellationRequested
        happlicable.inBank hkeys hfailed howned le_rfl hattempted hnotEmpty
      rw [hzero, List.take_length] at hreports
      rw [hreports]
      constructor
      · intro hreturns hstrays
        exact hstrays.strays (hreturns hflag)
      · intro hstays _
        by_contra hstrays
        exact hstays ⟨hwriting, hrefused, hstrays⟩
    · -- no failure or no ownership, hence no rollback
      have hskipped : rollback fault gate cancellationRequested forward = forward := by
        refine if_neg fun hrun => ?_
        rcases hnone with hok | hdenied
        · exact hrun.1 hok
        · rw [hdenied] at hrun
          cases hrun.2.1
      rw [hskipped]
      exact iff_of_true htrue fun hstrays => hrefused hstrays.refused
    · refine iff_of_true ?_ fun hstrays => hrefused hstrays.refused
      by_cases hrun : forward.failure ≠ "" ∧ forward.ownershipAvailable = true ∧
          forward.attemptedValueIndexes ≠ []
      · rw [rollback_reportsSelector fault gate cancellationRequested happlicable.inBank hkeys
          hrun.1 hrun.2.1 le_rfl hattempted hnotEmpty, hflag]
        intro hset
        cases hset
      · rw [show rollback fault gate cancellationRequested forward = forward from if_neg hrun,
          ReportsSelector, hflag]
        intro hset
        cases hset
  · -- the writing was interrupted: only the first selection can leave the flag behind
    have hinterrupted := hinterrupted hwriting
    have hforward : finishForward fault gate cancellationRequested written = written :=
      if_neg fun hok => hinterrupted.failed hok.1
    have hrollback : ¬RollbackStrays fault gate steps := fun hstrays => hwriting hstrays.writing
    rw [hforward, SelectorStrays, or_iff_left hrollback]
    by_cases hstrays : StopUndisturbed fault gate ∧ FirstSelectStrays fault gate steps
    · -- nothing was attempted, so that nothing is rolled back either
      obtain ⟨-, hattempted, hflag, hselector⟩ := applySteps_of_strays cancellationRequested
        happlicable.inBank h.progress hstrays.2
      rw [← stopModule_of_undisturbed cancellationRequested h.owned hstrays.1, ← hwritten]
        at hattempted hflag hselector
      have hskipped : rollback fault gate cancellationRequested written = written :=
        if_neg fun hrun => hrun.2.2 hattempted
      rw [hskipped]
      exact iff_of_false (fun htrue => hselector (htrue hflag)) (not_not.mpr hstrays)
    · refine iff_of_true ?_ hstrays
      obtain ⟨htrue, hempty⟩ := applySteps_reportsSelector fault gate cancellationRequested h
        happlicable hwriting hstrays
      by_cases hrun : written.failure ≠ "" ∧ written.ownershipAvailable = true ∧
          written.attemptedValueIndexes ≠ []
      · obtain ⟨n, hn, hattempted, -⟩ := hinterrupted.undoable.undone
        rw [rollback_reportsSelector fault gate cancellationRequested happlicable.inBank
          hinterrupted.undoable.keys hrun.1 hrun.2.1 hn hattempted hrun.2.2]
        intro hflag
        exact absurd (hempty hflag) hrun.2.2
      · rw [show rollback fault gate cancellationRequested written = written from if_neg hrun]
        exact htrue

end Operation

/-- The report is true except where a refused first selection, or the rollback after a refused reset,
leaves the selector elsewhere. -/
theorem applyFw2051ScpProfile_reportsSelector_iff (fault : BulkApplySite → Option Fault)
    (cancellationRequested : BulkApplyGate → Bool) (bench : Bench)
    (request : ScpProfileApplicationRequest)
    (ownershipGate : Option (BulkApplyGate → ScpCaptureGateResult)) :
    let applied := applyFw2051ScpProfile fault cancellationRequested bench request ownershipGate
    (applied.1.selectorParkedAtQuadZero = true → applied.2.selector = 0) ↔
      ¬∃ gate, ownershipGate = some gate ∧ PreflightPasses fault gate bench request ∧
        SelectorStrays fault gate request.steps := by
  intro applied
  rcases applyFw2051ScpProfile_cases fault cancellationRequested bench request ownershipGate with
    ⟨gate, run, hgate, hpasses, hprepared, hsame, happlied⟩ | ⟨hrefused, -, -, htrue⟩
  · have hne := (acceptedRequest_of_validate hpasses.accepted).steps_ne
    have hreports := bulkApplyTransaction_reportsSelector fault gate cancellationRequested hprepared
      (hpasses.applicable hsame) hne
    rw [show applied = _ from happlied]
    refine hreports.trans (not_congr ?_)
    constructor
    · intro hstrays
      exact ⟨gate, hgate, hpasses, hstrays⟩
    · rintro ⟨gate', hgate', -, hstrays⟩
      rw [hgate] at hgate'
      cases hgate'
      exact hstrays
  · refine iff_of_true htrue ?_
    rintro ⟨gate, hgate, hpasses, -⟩
    exact hrefused ⟨gate, hgate, hpasses⟩

/-- The module that holds the values of the example snapshot. -/
def exampleModule : Bench where
  registers := fun registerOffset =>
    if registerOffset = 0x6008 then mdpp32HardwareId
    else if registerOffset = 0x600E then mdpp32ScpFirmwareRevisionFw2051
    else 0
  banks := fun cell => (bankOf exampleQuads cell).getD 0
  localRegisters := fun _ => 0

/-- A change of one value in bank one. -/
def exampleRequest : ScpProfileApplicationRequest where
  expectedLiveConfiguration := exampleSnapshot exampleQuads
  steps := [{ quad := 1, registerOffset := 0x611A, expectedValue := 1000, profileValue := 1200 }]

/-- The first selection is refused after it has taken effect. -/
def firstSelectionFault : BulkApplySite → Option Fault
  | .select 0 => some ⟨"The response timed out.", true⟩
  | _ => none

/-- The FIFO reset is refused, and then the parking of the rollback. -/
def resetAndParkingFault : BulkApplySite → Option Fault
  | .fifoReset .forward => some ⟨"The response timed out.", false⟩
  | .park .rollback => some ⟨"The response timed out.", false⟩
  | _ => none

/-- The module after the example under such a fault, and what is reported of it. -/
def exampleApplication (fault : BulkApplySite → Option Fault) : ScpBulkApplyResult × Bench :=
  applyFw2051ScpProfile fault (fun _ => false) exampleModule exampleRequest
    (some fun _ => { status := .allowed })

/-- Each of the two leaves bank 1 selected and bank 0 reported. -/
theorem applyFw2051ScpProfile_reportsSelector_counterexample :
    ((exampleApplication firstSelectionFault).1.selectorParkedAtQuadZero = true ∧
      (exampleApplication firstSelectionFault).2.selector = 1) ∧
    (exampleApplication resetAndParkingFault).1.selectorParkedAtQuadZero = true ∧
      (exampleApplication resetAndParkingFault).2.selector = 1 := by
  constructor
  · decide +kernel
  · decide +kernel

end Fidget
