import Fidget.Core.ScpTransactionPlan.Verified
import Fidget.Hardware.ScpBulkApply
import Fidget.Hardware.ScpCapture.Verified

/-!
# A profile is applied whole or not at all

The steps of a request are a chained plan in the sense of `Lib.WritePlan` on the banks of the
module. While the steps are being written, the banks are those of a prefix of the plan (`Progress`);
once something goes wrong, undoing the attempted steps in reverse order leads back to the banks
before the first write, whether or not the last attempt reached the module (`Undoable`). The
rollback keeps this with fewer and fewer steps to go (`Undoing`).

The proof follows the transaction. For each of its stages there is one lemma for the case that
nothing interferes with it and one for the case that something does; the two cases are told apart by
a predicate on the faults and the answers of the gate (`StopUndisturbed`, `StepUndisturbed`,
`WritingUndisturbed`), so that later files can say exactly when a stage is reached.

## Main results

- `acceptedRequest_of_validate`: the steps of an accepted request are in the banks and chain up from
  the expected configuration.
- `foldl_applyStep`: the loop over the steps is at the end of the plan, or was interrupted with
  every attempted step on record.
- `Undoing.rollbackValues`: as long as the rollback is safe, undoing the attempted steps in reverse
  order leads back through the plan.
- `bulkApplyTransaction_banks`: the transaction leaves the whole plan, or, once the rollback is
  verified, the banks of before.
- `applyFw2051ScpProfileRun_cases`: either the preflight passes and the transaction runs, or nothing
  but the capture's own writes was sent.
- `applyFw2051ScpProfile_banks`: the same for the operation, on the banks of the module.
-/

namespace Fidget

open WritePlan

/-! ### What an accepted request looks like

The validation goes through the steps with the quads of the expected configuration in hand, and
writes every accepted step into them. What it accepts is therefore a chain: every step finds the
value that the steps before it have left. -/

/-- The step as a write to the banks. -/
def ScpProfileApplicationStep.cellWrite (step : ScpProfileApplicationStep) :
    Write BankCell UInt16 :=
  ⟨(step.quad.toNat, step.registerOffset), step.expectedValue, step.profileValue⟩

/-- Writing a register of a quad replaces the quad at its index. -/
theorem writeQuads_eq_set {quads : List Fw2051ScpQuadConfiguration} {index : Nat}
    {r v : UInt16} {quad stored : Fw2051ScpQuadConfiguration} (hquad : quads[index]? = some quad)
    (hstored : setFw2051ScpQuadRegisterValue quad r v = some stored) :
    writeQuads quads index r v = quads.set index stored := by
  obtain ⟨hlength, -⟩ := List.getElem?_eq_some_iff.mp hquad
  apply List.ext_getElem?
  intro i
  rw [writeQuads, List.getElem?_modify, List.getElem?_set]
  by_cases hi : index = i
  · subst hi
    rw [if_pos rfl, if_pos hlength, hquad]
    simp [hstored]
  · rw [if_neg hi]
    simp [hi]

/-- An accepted step names a cell of the banks, finds there the value it expects, and is applied. -/
theorem validateRequestStep_eq_ok {target target' : List Fw2051ScpQuadConfiguration}
    {step : ScpProfileApplicationStep} (h : validateRequestStep target step = .ok target') :
    0 ≤ step.quad ∧ step.quad.toNat < target.length ∧ step.registerOffset ∈ scpRegisterOffsets ∧
      bankOf target (step.quad.toNat, step.registerOffset) = some step.expectedValue ∧
      target' = writeQuads target step.quad.toNat step.registerOffset step.profileValue := by
  unfold validateRequestStep at h
  split at h
  · cases h
  next quad hquad =>
    split at hquad
    · cases hquad
    next hsign =>
      obtain ⟨hlength, -⟩ := List.getElem?_eq_some_iff.mp hquad
      split at h
      · cases h
      next hregister =>
        split at h
        · cases h
        next hexpected =>
          split at h
          · cases h
          · split at h
            · cases h
            next stored hstored =>
              cases h
              have hmem : step.registerOffset ∈ scpRegisterOffsets :=
                setQuadRegisterValue_isSome.mp (by rw [hstored]; rfl)
              refine ⟨by omega, hlength, hmem, ?_, ?_⟩
              · rw [bankOf, hquad]
                exact not_not.mp hexpected
              · exact (writeQuads_eq_set hquad hstored).symm

/-- Steps that are admissible one after the other form a chained plan. -/
theorem validateRequestSteps_eq_ok {steps : List ScpProfileApplicationStep}
    {quads quads' : List Fw2051ScpQuadConfiguration}
    (h : steps.foldlM validateRequestStep quads = .ok quads') (hquads : NumberedQuads quads) :
    (∀ step ∈ steps, 0 ≤ step.quad ∧ step.InBank) ∧
      Chained (steps.map (·.write)) (bankOf quads) ∧ quads' = applyScpSteps steps quads := by
  induction steps generalizing quads with
  | nil =>
      cases h
      refine ⟨?_, trivial, rfl⟩
      intro step hstep
      cases hstep
  | cons step steps ih =>
      rw [List.foldlM_cons] at h
      cases hstep : validateRequestStep quads step with
      | error message =>
          rw [hstep] at h
          cases h
      | ok target =>
          rw [hstep] at h
          obtain ⟨hsign, hlength, hmem, hexpected, rfl⟩ := validateRequestStep_eq_ok hstep
          obtain ⟨hinBank, hchained, hquads'⟩ :=
            ih h (numberedQuads_writeQuads hquads _ _ _)
          refine ⟨?_, ⟨hexpected, ?_⟩, hquads'⟩
          · intro step' hmem'
            rcases List.mem_cons.mp hmem' with rfl | hmem'
            · exact ⟨hsign, by rw [← hquads.length_eq]; exact hlength, hmem⟩
            · exact hinBank step' hmem'
          · rw [bankOf_writeQuads hlength hmem] at hchained
            exact hchained

/-- A refusal says why. -/
theorem validateRequestStep_error {target : List Fw2051ScpQuadConfiguration}
    {step : ScpProfileApplicationStep} {message : String}
    (h : validateRequestStep target step = .error message) : message ≠ "" := by
  unfold validateRequestStep at h
  split at h
  · cases h
    decide
  · split at h
    · cases h
      decide
    · split at h
      · cases h
        decide
      · split at h
        next hvalue =>
          cases h
          exact hvalue
        · split at h
          · cases h
            decide
          · cases h

/-- A step that is not accepted is named in a message. -/
theorem validateRequestSteps_error {steps : List ScpProfileApplicationStep}
    {quads : List Fw2051ScpQuadConfiguration} {message : String}
    (h : steps.foldlM validateRequestStep quads = .error message) : message ≠ "" := by
  induction steps generalizing quads with
  | nil => cases h
  | cons step steps ih =>
      rw [List.foldlM_cons] at h
      cases hstep : validateRequestStep quads step with
      | error refusal =>
          rw [hstep] at h
          cases h
          exact validateRequestStep_error hstep
      | ok target =>
          rw [hstep] at h
          exact ih h

/-- What the validation of a request establishes. -/
structure AcceptedRequest (request : ScpProfileApplicationRequest) : Prop where
  expected : ValidScpConfiguration request.expectedLiveConfiguration
  steps_ne : request.steps ≠ []
  inBank : ∀ step ∈ request.steps, 0 ≤ step.quad ∧ step.InBank
  chained : Chained (request.steps.map (·.write))
    (bankOf request.expectedLiveConfiguration.quads)

/-- What the validation checks is what the plan needs. -/
theorem acceptedRequest_of_validate {request : ScpProfileApplicationRequest}
    (h : validateRequest request = "") : AcceptedRequest request := by
  unfold validateRequest at h
  simp only at h
  split at h
  · exact absurd h (append_ne (by decide) _)
  next hexpected =>
    split at h
    · exact absurd h (by decide)
    next hsteps =>
      have hvalid := validScpConfiguration_of_validate (not_not.mp hexpected)
      split at h
      next message hfold =>
        exact absurd h (validateRequestSteps_error hfold)
      next quads hfold =>
        obtain ⟨hinBank, hchained, -⟩ := validateRequestSteps_eq_ok hfold hvalid.numbered
        exact ⟨hvalid, hsteps, hinBank, hchained⟩

/-! ### What a matching preflight establishes

The capture reads the eight banks and compares them with the expected configuration. Where it finds
no difference, what the request expects of a cell is what the bank holds. -/

/-- The quads read off the banks hold what the banks hold. -/
theorem bankOf_quadOfBank (banks : BankCell → UInt16) {cell : BankCell} (hquad : cell.1 < 8)
    (hr : cell.2 ∈ scpRegisterOffsets) :
    bankOf (captureQuadIndexes.map (quadOfBank banks)) cell = some (banks cell) := by
  have hindexes : ∀ index < 8, captureQuadIndexes[index]? = some index.toUInt16 ∧
      index.toUInt16.toNat = index := by decide
  obtain ⟨hget, hindex⟩ := hindexes cell.1 hquad
  rw [bankOf, List.getElem?_map, hget, Option.map_some, Option.bind_some,
    quadRegisterValue_quadOfBank hr, hindex]

/-- What a capture of the module finds. -/
def moduleSnapshot (bench : Bench) (baseAddress : UInt32) : Fw2051ScpConfigurationSnapshot where
  state := .complete
  baseAddress := baseAddress
  hardwareId := bench.registers 0x6008
  firmwareRevision := bench.registers 0x600E
  irqLevel := bench.registers 0x6010
  outputFormat := bench.registers 0x6044
  selectorParkedAtQuadZero := true
  quads := captureQuadIndexes.map (quadOfBank bench.banks)

/-- A comparison does not read the message and the record of the selector writes. -/
theorem compare_moduleSnapshot (profile : ScpProfile) {bench : Bench} {baseAddress : UInt32}
    {captured : Fw2051ScpConfigurationSnapshot} (hcomplete : captured.state = .complete)
    (hcaptured : CapturedFrom bench baseAddress captured) :
    compareFw2051ScpConfiguration profile captured =
      compareFw2051ScpConfiguration profile (moduleSnapshot bench baseAddress) := by
  obtain ⟨hbase, hhardware, hfirmware, hirq, hformat, hquads, hparked⟩ := hcaptured
  cases captured
  subst hcomplete hbase hhardware hfirmware hirq hformat hquads hparked
  rfl

/-- Configurations without a difference agree on every banked register. -/
theorem bankOf_eq_of_no_differences {profile : ScpProfile} {live : Fw2051ScpConfigurationSnapshot}
    (hcompared : ComparedConfigurations profile live)
    (hsame : (compareFw2051ScpConfiguration profile live).differences = []) {cell : BankCell}
    (hquad : cell.1 < 8) (hr : cell.2 ∈ scpRegisterOffsets) :
    bankOf live.quads cell = bankOf profile.configuration.quads cell := by
  have hnone := map_write_addDifferenceStep hcompared hquad hr
  rw [hsame] at hnone
  by_contra hne
  rw [Write.ifNeeded, if_neg hne] at hnone
  cases hnone

/-- The module is found as the request expects it. -/
structure MatchesExpected (expected : Fw2051ScpConfigurationSnapshot) (bench : Bench) : Prop where
  comparable : (compareFw2051ScpConfiguration { configuration := expected }
    (moduleSnapshot bench expected.baseAddress)).comparable = true
  differences : (compareFw2051ScpConfiguration { configuration := expected }
    (moduleSnapshot bench expected.baseAddress)).differences = []

/-- On a matching module the expected value of a cell is the value in the bank. -/
theorem MatchesExpected.bankOf_eq {expected : Fw2051ScpConfigurationSnapshot} {bench : Bench}
    (h : MatchesExpected expected bench) {cell : BankCell} (hquad : cell.1 < 8)
    (hr : cell.2 ∈ scpRegisterOffsets) :
    bankOf expected.quads cell = some (bench.banks cell) := by
  rw [← bankOf_eq_of_no_differences (compared_of_comparable h.comparable) h.differences hquad hr]
  exact bankOf_quadOfBank bench.banks hquad hr

/-- A plan that can be carried out on these banks. -/
structure ApplicableSteps (steps : List ScpProfileApplicationStep) (banks : BankCell → UInt16) :
    Prop where
  inBank : ∀ step ∈ steps, 0 ≤ step.quad ∧ step.InBank
  chained : Chained (steps.map (·.cellWrite)) banks

/-- The steps of an accepted request apply to banks that hold the expected values. -/
theorem AcceptedRequest.applicable {request : ScpProfileApplicationRequest} {bench : Bench}
    (h : AcceptedRequest request)
    (hbanks : ∀ cell : BankCell, cell.1 < 8 ∧ cell.2 ∈ scpRegisterOffsets →
      bankOf request.expectedLiveConfiguration.quads cell = some (bench.banks cell)) :
    ApplicableSteps request.steps bench.banks where
  inBank := h.inBank
  chained := by
    refine chained_lift ?_ hbanks ?_
    · intro write hwrite
      obtain ⟨step, hstep, rfl⟩ := List.mem_map.mp hwrite
      exact (h.inBank step hstep).2
    · rw [List.map_map]
      exact h.chained

/-! ### What the calls that write no value leave alone

Most of what the transaction sends is not a value: it stops the module, selects banks, asks for
ownership and resets the readout. `Leaves` is what all of these have in common, so that the loops
below only have to look at the writes of values. -/

/-- The fields of a value that its step gave it. -/
def ScpAppliedValueResult.key (value : ScpAppliedValueResult) : Int × UInt16 × UInt16 × UInt16 :=
  (value.quad, value.registerOffset, value.expectedValue, value.profileValue)

/-- The same of a step of the request. -/
def ScpProfileApplicationStep.key (step : ScpProfileApplicationStep) :
    Int × UInt16 × UInt16 × UInt16 :=
  (step.quad, step.registerOffset, step.expectedValue, step.profileValue)

/-- A value that belongs to a step has the step's cell and expected value. -/
theorem fields_of_key {value : ScpAppliedValueResult} {step : ScpProfileApplicationStep}
    (h : value.key = step.key) : value.quad = step.quad ∧
      value.registerOffset = step.registerOffset ∧ value.expectedValue = step.expectedValue := by
  simp only [ScpAppliedValueResult.key, ScpProfileApplicationStep.key, Prod.mk.injEq] at h
  exact ⟨h.1, h.2.1, h.2.2.1⟩

/-- The second run has done nothing to the banks and the record of the writes, and a failure of the
first is one of the second. -/
structure Leaves (run run' : BulkApplyRun) : Prop where
  banks : run'.bench.banks = run.bench.banks
  keys : run'.result.values.map (·.key) = run.result.values.map (·.key)
  attempted : run'.attemptedValueIndexes = run.attemptedValueIndexes
  selectedQuad : run'.selectedQuad = run.selectedQuad
  rollbackSafe : run'.rollbackSafe = run.rollbackSafe
  writesVerified : run'.result.writesVerified = run.result.writesVerified
  plannedWrites : run'.result.plannedWrites = run.result.plannedWrites
  rollbackVerified : run'.result.rollbackVerified = run.result.rollbackVerified
  failed : run.failure ≠ "" → run'.failure ≠ ""

theorem Leaves.refl (run : BulkApplyRun) : Leaves run run :=
  ⟨rfl, rfl, rfl, rfl, rfl, rfl, rfl, rfl, id⟩

theorem Leaves.trans {run run' run'' : BulkApplyRun} (h : Leaves run run')
    (h' : Leaves run' run'') : Leaves run run'' where
  banks := h'.banks.trans h.banks
  keys := h'.keys.trans h.keys
  attempted := h'.attempted.trans h.attempted
  selectedQuad := h'.selectedQuad.trans h.selectedQuad
  rollbackSafe := h'.rollbackSafe.trans h.rollbackSafe
  writesVerified := h'.writesVerified.trans h.writesVerified
  plannedWrites := h'.plannedWrites.trans h.plannedWrites
  rollbackVerified := h'.rollbackVerified.trans h.rollbackVerified
  failed := fun hfailed => h'.failed (h.failed hfailed)

theorem failure_fail (run : BulkApplyRun) {message : String} (h : message ≠ "") :
    (run.fail message).failure ≠ "" := appendFailure_ne run.failure h

/-- Noting a failure writes nothing. -/
theorem leaves_fail (run : BulkApplyRun) {message : String} (h : message ≠ "") :
    Leaves run (run.fail message) :=
  ⟨rfl, rfl, rfl, rfl, rfl, rfl, rfl, rfl, fun _ => failure_fail run h⟩

theorem bulkApplyGateFailureMessage_ne (gate : ScpCaptureGateResult) (cancelled : Bool) :
    bulkApplyGateFailureMessage gate cancelled ≠ "" := by
  unfold bulkApplyGateFailureMessage
  split
  next hmessage => exact hmessage
  · split
    · decide
    · decide

section Operation

variable (fault : BulkApplySite → Option Fault) (gate : BulkApplyGate → ScpCaptureGateResult)
  (cancellationRequested : BulkApplyGate → Bool)

section Reverify

variable {gate} {run : BulkApplyRun}

/-- An allowing gate leaves the run as it is. -/
theorem reverifyOwnership_of_allowed {site : BulkApplyGate}
    (howned : run.ownershipAvailable = true)
    (h : (gate site).status = .allowed) :
    reverifyOwnership gate cancellationRequested run site = (true, run) := by
  rw [reverifyOwnership, howned, if_neg (by decide), if_pos h]

/-- The run after its ownership was denied. -/
def BulkApplyRun.denied (run : BulkApplyRun) (message : String) : BulkApplyRun :=
  { run with ownershipAvailable := false }.fail message

theorem failure_denied (run : BulkApplyRun) {message : String} (h : message ≠ "") :
    (run.denied message).failure ≠ "" := appendFailure_ne run.failure h

/-- A refusing gate is noted, and the ownership is given up. -/
theorem reverifyOwnership_of_denied {site : BulkApplyGate}
    (howned : run.ownershipAvailable = true)
    (h : (gate site).status ≠ .allowed) : ∃ message ≠ "",
      reverifyOwnership gate cancellationRequested run site = (false, run.denied message) := by
  refine ⟨bulkApplyGateFailureMessage (gate site) (cancellationRequested site),
    bulkApplyGateFailureMessage_ne _ _, ?_⟩
  rw [reverifyOwnership, howned, if_neg (by decide), if_neg h]
  rfl

end Reverify

theorem leaves_denied (run : BulkApplyRun) {message : String} (h : message ≠ "") :
    Leaves run (run.denied message) :=
  ⟨rfl, rfl, rfl, rfl, rfl, rfl, rfl, rfl, fun _ => failure_denied run h⟩

/-- Asking the gate writes nothing. -/
theorem leaves_reverifyOwnership (run : BulkApplyRun) (site : BulkApplyGate) :
    Leaves run (reverifyOwnership gate cancellationRequested run site).2 := by
  cases howned : run.ownershipAvailable with
  | false =>
      rw [reverifyOwnership, howned]
      exact .refl run
  | true =>
      by_cases hallowed : (gate site).status = .allowed
      · rw [reverifyOwnership_of_allowed cancellationRequested howned hallowed]
        exact .refl run
      · obtain ⟨message, hmessage, hdenied⟩ :=
          reverifyOwnership_of_denied cancellationRequested howned hallowed
        rw [hdenied]
        exact leaves_denied run hmessage

/-- A write outside of the banks leaves them. -/
theorem leaves_writeRegister (run : BulkApplyRun) (site : BulkApplySite)
    {registerOffset : UInt16} (h : registerOffset ∉ scpRegisterOffsets) (value : UInt16) :
    Leaves run (writeRegister fault run site registerOffset value).2 := by
  refine ⟨?_, rfl, rfl, rfl, rfl, rfl, rfl, rfl, id⟩
  show (run.bench.writeVmeD16 (fault site) registerOffset value).2.banks = run.bench.banks
  rcases Bench.writeVmeD16_cases run.bench (fault site) registerOffset value with heq | heq
  · rw [heq]
  · rw [heq, Bench.banks_write_of_global h]

/-- So does stopping the module. -/
theorem leaves_stopModule (run : BulkApplyRun) :
    Leaves run (stopModule fault gate cancellationRequested run) := by
  unfold stopModule
  have hverified := leaves_reverifyOwnership gate cancellationRequested run .stop
  split
  next heq =>
    rw [heq] at hverified
    exact hverified
  next verified heq =>
    rw [heq] at hverified
    refine hverified.trans ?_
    have hwritten := leaves_writeRegister fault verified .stop
      (by decide : fw2051AcquisitionControlRegister ∉ scpRegisterOffsets) fw2051StopAcquisitionValue
    split
    next written heq =>
      rw [heq] at hwritten
      exact hwritten.trans (leaves_fail _ (registerOperationError_ne _ _ _ _))
    next written heq =>
      rw [heq] at hwritten
      refine hwritten.trans ?_
      dsimp only
      split
      · exact ⟨rfl, rfl, rfl, rfl, rfl, rfl, rfl, rfl,
          fun _ => failure_fail _ (registerOperationError_ne _ _ _ _)⟩
      · -- the readback shows the module running: a failure, but no register of a bank is touched
        split
        · refine ⟨rfl, rfl, rfl, rfl, rfl, rfl, rfl, rfl, fun _ => failure_fail _ ?_⟩
          iterate 2 apply append_ne
          decide
        · exact ⟨rfl, rfl, rfl, rfl, rfl, rfl, rfl, rfl, id⟩

/-- So does parking the selector. -/
theorem leaves_parkSelector (run : BulkApplyRun) (phase : ApplyPhase) :
    Leaves run (parkSelector fault gate cancellationRequested run phase) := by
  unfold parkSelector
  have hverified := leaves_reverifyOwnership gate cancellationRequested run (.park phase)
  split
  next heq =>
    rw [heq] at hverified
    exact hverified
  next verified heq =>
    rw [heq] at hverified
    refine hverified.trans ?_
    have hwritten := leaves_writeRegister fault verified (.park phase)
      Bench.selector_notMem 0
    split
    next written heq =>
      rw [heq] at hwritten
      exact hwritten.trans (leaves_fail _ (registerOperationError_ne _ _ _ _))
    next written heq =>
      rw [heq] at hwritten
      exact hwritten.trans ⟨rfl, rfl, rfl, rfl, rfl, rfl, rfl, rfl, id⟩

/-- So does resetting the readout. -/
theorem leaves_resetReadout (run : BulkApplyRun) (phase : ApplyPhase) :
    Leaves run (resetReadout fault gate cancellationRequested run phase) := by
  unfold resetReadout
  split
  · exact .refl run
  · have hverified := leaves_reverifyOwnership gate cancellationRequested run (.reset phase)
    split
    -- the gate refuses
    next heq =>
      rw [heq] at hverified
      exact hverified
    next verified heq =>
      rw [heq] at hverified
      refine hverified.trans ?_
      have hwritten := leaves_writeRegister fault verified (.fifoReset phase)
        (by decide : fw2051FifoResetRegister ∉ scpRegisterOffsets) fw2051ResetCommandValue
      split
      -- the first reset fails, and the second is not tried
      next written heq =>
        rw [heq] at hwritten
        exact hwritten.trans (leaves_fail _ (registerOperationError_ne _ _ _ _))
      -- both are tried
      next written heq =>
        rw [heq] at hwritten
        set noted : BulkApplyRun :=
          { written with result := { written.result with fifoResetSent := true } }
        have hnoted : Leaves written noted := ⟨rfl, rfl, rfl, rfl, rfl, rfl, rfl, rfl, id⟩
        refine (hwritten.trans hnoted).trans ?_
        have hreset := leaves_writeRegister fault noted (.readoutReset phase)
          (by decide : fw2051ReadoutResetRegister ∉ scpRegisterOffsets) fw2051ResetCommandValue
        dsimp only
        split
        next heq =>
          rw [heq] at hreset
          exact hreset.trans (leaves_fail _ (registerOperationError_ne _ _ _ _))
        next heq =>
          rw [heq] at hreset
          exact hreset.trans ⟨rfl, rfl, rfl, rfl, rfl, rfl, rfl, rfl, id⟩

variable {fault gate} {run : BulkApplyRun}

/-! ### The stop -/

/-- Nothing interferes with the stop. -/
structure StopUndisturbed (fault : BulkApplySite → Option Fault)
    (gate : BulkApplyGate → ScpCaptureGateResult) : Prop where
  gate : (gate .stop).status = .allowed
  write : fault .stop = none
  readback : fault .stopReadback = none

/-- The run after the module was stopped and read back. -/
def BulkApplyRun.stopped (run : BulkApplyRun) : BulkApplyRun :=
  { run with
    bench := run.bench.write fw2051AcquisitionControlRegister fw2051StopAcquisitionValue
    sent := run.sent ++
      [.vme fw2051AcquisitionControlRegister fw2051StopAcquisitionValue false none]
    result := { run.result with
      moduleStopSent := true
      moduleStopVerified := true
      moduleLeftStopped := true } }

theorem writeRegister_of_success {site : BulkApplySite} (h : fault site = none)
    (registerOffset value : UInt16) : writeRegister fault run site registerOffset value =
      (none, { run with
        bench := run.bench.write registerOffset value
        sent := run.sent ++ [.vme registerOffset value site.parking none] }) := by
  rw [writeRegister, h]
  rfl

theorem writeRegister_of_fault {site : BulkApplySite} {failed : Fault}
    (h : fault site = some failed) (registerOffset value : UInt16) :
    writeRegister fault run site registerOffset value = (some failed.error,
      { run with
        bench := if failed.takesEffect then run.bench.write registerOffset value else run.bench
        sent := run.sent ++ [.vme registerOffset value site.parking (some failed)] }) := by
  rw [writeRegister, h]
  rfl

/-- Undisturbed, the stop is sent and verified. -/
theorem stopModule_of_undisturbed (howned : run.ownershipAvailable = true)
    (h : StopUndisturbed fault gate) :
    stopModule fault gate cancellationRequested run = run.stopped := by
  rw [stopModule, reverifyOwnership_of_allowed cancellationRequested howned h.gate]
  dsimp only
  rw [writeRegister_of_success h.write]
  dsimp only
  rw [h.readback, Bench.readVmeD16, Bench.read_write]
  exact if_neg (not_not.mpr rfl)

/-- A run that ended with a failure, the selector and what is reported of it as they were. -/
structure FailedInPlace (run run' : BulkApplyRun) : Prop where
  failed : run'.failure ≠ ""
  selector : run'.bench.selector = run.bench.selector
  parked : run'.result.selectorParkedAtQuadZero = run.result.selectorParkedAtQuadZero

/-- Disturbed, it is reported, with the selector where it was. -/
theorem stopModule_of_disturbed (howned : run.ownershipAvailable = true)
    (h : ¬StopUndisturbed fault gate) :
    FailedInPlace run (stopModule fault gate cancellationRequested run) := by
  unfold stopModule
  by_cases hgate : (gate .stop).status = .allowed
  · rw [reverifyOwnership_of_allowed cancellationRequested howned hgate]
    dsimp only
    cases hstop : fault .stop with
    | some failed =>
        rw [writeRegister_of_fault hstop]
        refine ⟨failure_fail _ (registerOperationError_ne _ _ _ _), ?_, rfl⟩
        show Bench.selector (if _ then _ else _) = _
        split
        · exact Bench.selector_write (by decide)
        · rfl
    | none =>
        rw [writeRegister_of_success hstop]
        dsimp only
        cases hreadback : fault .stopReadback with
        | none => exact absurd ⟨hgate, hstop, hreadback⟩ h
        | some failed =>
            have hselector : (run.bench.write fw2051AcquisitionControlRegister
                fw2051StopAcquisitionValue).selector = run.bench.selector :=
              Bench.selector_write (by decide)
            exact ⟨failure_fail _ (registerOperationError_ne _ _ _ _), hselector, rfl⟩
  · -- the gate refuses the stop
    obtain ⟨message, hmessage, hdenied⟩ :=
      reverifyOwnership_of_denied cancellationRequested howned hgate
    rw [hdenied]
    exact ⟨failure_denied _ hmessage, rfl, rfl⟩

/-! ### The forward loop

The invariant of the loop is `Progress`: after `k` verified writes the banks are those of the first
`k` steps. One turn takes it from `k` to `k + 1` or ends in `Interrupted`, from where the rollback
starts. An interrupted write may have reached the module or not, and `Undoable` covers both. -/

/-- The run after `k` verified writes, with the bank of `quad` selected; none has been as long as
`quad` is negative. -/
structure Progress (steps : List ScpProfileApplicationStep) (banks : BankCell → UInt16) (k : Nat)
    (quad : Int) (run : BulkApplyRun) : Prop where
  succeeds : run.failure = ""
  owned : run.ownershipAvailable = true
  stopVerified : run.result.moduleStopVerified = true
  keys : run.result.values.map (·.key) = steps.map (·.key)
  attempted : run.attemptedValueIndexes = List.range k
  writesVerified : run.result.writesVerified = k
  plannedWrites : run.result.plannedWrites = steps.length
  rollbackVerified : run.result.rollbackVerified = false
  selectedQuad : run.selectedQuad = quad
  selector : run.bench.selector.toNat = quad.toNat
  parked : run.result.selectorParkedAtQuadZero = decide (quad < 0)
  begun : quad < 0 → k = 0
  banks_eq : run.bench.banks = applyAll ((steps.map (·.cellWrite)).take k) banks

/-- The first select is refused, and yet moves the selector away from bank zero. -/
def FirstSelectStrays (fault : BulkApplySite → Option Fault)
    (gate : BulkApplyGate → ScpCaptureGateResult) (steps : List ScpProfileApplicationStep) : Prop :=
  (gate (.bank 0)).status = .allowed ∧
    (∃ failed, fault (.select 0) = some failed ∧ failed.takesEffect = true) ∧
    ∃ step, steps.head? = some step ∧ step.quad ≠ 0

/-- Undoing what was attempted leads back to the banks before the first write. -/
structure Undoable (steps : List ScpProfileApplicationStep) (banks : BankCell → UInt16)
    (run : BulkApplyRun) : Prop where
  keys : run.result.values.map (·.key) = steps.map (·.key)
  rollbackVerified : run.result.rollbackVerified = false
  undone : ∃ n ≤ steps.length, run.attemptedValueIndexes = List.range n ∧
    revertAll ((steps.map (·.cellWrite)).take n).reverse run.bench.banks = banks

/-- The run after something went wrong. If the selector is still reported as parked nothing was
attempted, and it is at bank zero unless the first select left it elsewhere. -/
structure Interrupted (fault : BulkApplySite → Option Fault)
    (gate : BulkApplyGate → ScpCaptureGateResult) (steps : List ScpProfileApplicationStep)
    (banks : BankCell → UInt16) (run : BulkApplyRun) : Prop where
  failed : run.failure ≠ ""
  undoable : Undoable steps banks run
  parked : run.result.selectorParkedAtQuadZero = true → run.attemptedValueIndexes = [] ∧
    (¬FirstSelectStrays fault gate steps → run.bench.selector = 0)

section Forward

variable {steps : List ScpProfileApplicationStep} {banks : BankCell → UInt16} {k : Nat}
  {quad : Int} {step : ScpProfileApplicationStep}

/-- A run on its way through the plan can be undone. -/
theorem Progress.undoable (h : Progress steps banks k quad run)
    (happlicable : ApplicableSteps steps banks) (hk : k ≤ steps.length) :
    Undoable steps banks run where
  keys := h.keys
  rollbackVerified := h.rollbackVerified
  undone := by
    refine ⟨k, hk, h.attempted, ?_⟩
    rw [h.banks_eq]
    exact happlicable.chained.revertAll_take k

/-- So can it after calls that write no value. -/
theorem Undoable.leaves (h : Undoable steps banks run) {run' : BulkApplyRun}
    (hleaves : Leaves run run') : Undoable steps banks run' where
  keys := hleaves.keys.trans h.keys
  rollbackVerified := hleaves.rollbackVerified.trans h.rollbackVerified
  undone := by
    obtain ⟨n, hn, hattempted, hundone⟩ := h.undone
    exact ⟨n, hn, hleaves.attempted.trans hattempted, by rw [hleaves.banks, hundone]⟩

/-- A failure between two writes. -/
theorem Progress.interrupted (h : Progress steps banks k quad run)
    (happlicable : ApplicableSteps steps banks) (hk : k ≤ steps.length) {run' : BulkApplyRun}
    (hleaves : Leaves run run') (hfailed : run'.failure ≠ "")
    (hparked : run'.result.selectorParkedAtQuadZero = true → quad < 0 ∧
      (¬FirstSelectStrays fault gate steps → run'.bench.selector = 0)) :
    Interrupted fault gate steps banks run' where
  failed := hfailed
  undoable := (h.undoable happlicable hk).leaves hleaves
  parked := by
    intro hflag
    obtain ⟨hquad, hselector⟩ := hparked hflag
    refine ⟨?_, hselector⟩
    rw [hleaves.attempted, h.attempted, h.begun hquad, List.range_zero]

theorem toNat_toUInt16_of_lt {n : Nat} (h : n < 8) : n.toUInt16.toNat = n := by
  rw [Nat.toUInt16_eq, UInt16.toNat_ofNat', Nat.mod_eq_of_lt (by omega)]

/-- Nothing interferes with the selection of a bank. -/
def SelectUndisturbed (fault : BulkApplySite → Option Fault)
    (gate : BulkApplyGate → ScpCaptureGateResult) (quad : Int) (index : Nat)
    (step : ScpProfileApplicationStep) : Prop :=
  quad ≠ step.quad → (gate (.bank index)).status = .allowed ∧ fault (.select index) = none

/-- Undisturbed, the bank of the step is selected. -/
theorem selectBank_of_undisturbed (h : Progress steps banks k quad run)
    (hsign : 0 ≤ step.quad) (hquad : step.quad.toNat < 8)
    (hselect : SelectUndisturbed fault gate quad k step) :
    ∃ run', selectBank fault gate cancellationRequested run k step = (true, run') ∧
      Progress steps banks k step.quad run' := by
  unfold selectBank
  by_cases hsame : quad = step.quad
  · refine ⟨run, ?_, hsame ▸ h⟩
    rw [h.selectedQuad, if_neg (not_not.mpr hsame)]
  · obtain ⟨hgate, hfault⟩ := hselect hsame
    rw [h.selectedQuad, if_pos hsame, reverifyOwnership_of_allowed cancellationRequested h.owned hgate]
    dsimp only
    rw [writeRegister_of_success hfault]
    have hselector : (run.bench.write fw2051ScpSelectorRegister
        step.quad.toNat.toUInt16).selector.toNat = step.quad.toNat := by
      rw [Bench.selector_write_selector, toNat_toUInt16_of_lt hquad]
    refine ⟨_, rfl, ?_⟩
    exact {
      h with
      selectedQuad := rfl
      selector := hselector
      parked := (decide_eq_false (by omega)).symm
      begun := fun hneg => absurd hneg (by omega)
      banks_eq := (Bench.banks_write_of_global Bench.selector_notMem).trans h.banks_eq }

/-- Disturbed, the loop is interrupted before the value is written. -/
theorem selectBank_of_disturbed (h : Progress steps banks k quad run)
    (happlicable : ApplicableSteps steps banks) (hstep : steps[k]? = some step)
    (hselect : ¬SelectUndisturbed fault gate quad k step) :
    ∃ run', selectBank fault gate cancellationRequested run k step = (false, run') ∧
      Interrupted fault gate steps banks run' := by
  obtain ⟨hk, -⟩ := List.getElem?_eq_some_iff.mp hstep
  have hsame : quad ≠ step.quad := by
    intro hsame
    exact hselect fun hne => absurd hsame hne
  -- As long as no bank was selected the selector is where the capture parked it.
  have hzero : run.result.selectorParkedAtQuadZero = true → quad < 0 ∧ run.bench.selector = 0 := by
    intro hflag
    have hneg : quad < 0 := of_decide_eq_true (h.parked.symm.trans hflag)
    refine ⟨hneg, UInt16.toNat.inj ?_⟩
    rw [h.selector, Int.toNat_of_nonpos hneg.le]
    rfl
  unfold selectBank
  rw [h.selectedQuad, if_pos hsame]
  by_cases hgate : (gate (.bank k)).status = .allowed
  · rw [reverifyOwnership_of_allowed cancellationRequested h.owned hgate]
    dsimp only
    cases hfault : fault (.select k) with
    | none => exact absurd (fun _ => ⟨hgate, hfault⟩) hselect
    | some failed =>
        have hleaves := leaves_writeRegister fault run (.select k) Bench.selector_notMem
          step.quad.toNat.toUInt16
        rw [writeRegister_of_fault hfault] at hleaves ⊢
        refine ⟨_, rfl, h.interrupted happlicable hk.le
          (hleaves.trans (leaves_fail _ (registerOperationError_ne _ _ _ _)))
          (failure_fail _ (registerOperationError_ne _ _ _ _)) ?_⟩
        -- a lost selector write strays only if it took effect, was the first one and went elsewhere
        intro hflag
        obtain ⟨hneg, hselector⟩ := hzero hflag
        refine ⟨hneg, fun hstays => ?_⟩
        show Bench.selector (if _ then _ else _) = 0
        split
        next heffect =>
          have hfirst : k = 0 := h.begun hneg
          subst hfirst
          have hquad : step.quad = 0 := by
            by_contra hne
            exact hstays ⟨hgate, ⟨failed, hfault, heffect⟩, step,
              by rw [List.head?_eq_getElem?, hstep], hne⟩
          rw [Bench.selector_write_selector, hquad]
          rfl
        · exact hselector
  · -- the gate answers no: the selector is where it was
    obtain ⟨message, hmessage, hdenied⟩ :=
      reverifyOwnership_of_denied cancellationRequested h.owned hgate
    rw [hdenied]
    refine ⟨_, rfl, h.interrupted happlicable hk.le (leaves_denied run hmessage)
      (failure_denied _ hmessage) ?_⟩
    intro hflag
    obtain ⟨hneg, hselector⟩ := hzero hflag
    exact ⟨hneg, fun _ => hselector⟩

theorem map_key_modify (values : List ScpAppliedValueResult) (index : Nat)
    {update : ScpAppliedValueResult → ScpAppliedValueResult}
    (h : ∀ value, (update value).key = value.key) :
    (values.modify index update).map (·.key) = values.map (·.key) := by
  apply List.ext_getElem?
  intro i
  rw [List.getElem?_map, List.getElem?_map, List.getElem?_modify]
  cases values[i]? with
  | none => rfl
  | some value =>
      split
      · exact congrArg some (h value)
      · rfl

/-- What is changed about a value may not be which step it belongs to. -/
theorem keys_updateValue (run : BulkApplyRun) (index : Nat)
    {update : ScpAppliedValueResult → ScpAppliedValueResult}
    (h : ∀ value, (update value).key = value.key) :
    (run.updateValue index update).result.values.map (·.key) =
      run.result.values.map (·.key) := map_key_modify _ index h

/-- The run with a write under way. -/
def BulkApplyRun.attempting (run : BulkApplyRun) (index : Nat) (bench : Bench)
    (sent : List SentWrite) : BulkApplyRun :=
  { run.updateValue index fun value => { value with writeAttempted := true } with
    bench
    sent
    attemptedValueIndexes := run.attemptedValueIndexes ++ [index]
    result := { (run.updateValue index fun value => { value with writeAttempted := true }).result with
      writesAttempted := run.result.writesAttempted + 1 } }

/-- With the bank selected, writing the register writes the cell. -/
theorem cellWrite_apply (step : ScpProfileApplicationStep) (bench : Bench)
    (hselector : bench.selector.toNat = step.quad.toNat)
    (hregister : step.registerOffset ∈ scpRegisterOffsets) :
    (bench.write step.registerOffset step.profileValue).banks =
      step.cellWrite.apply bench.banks := by
  rw [Bench.banks_write_of_banked hregister, hselector]
  rfl

/-- Nothing interferes with the writing of a value. -/
structure WriteUndisturbed (fault : BulkApplySite → Option Fault) (index : Nat) : Prop where
  write : fault (.write index) = none
  readback : fault (.readback index) = none

/-- A failure of the write or of its readback: the value may be written or not. -/
theorem Progress.interrupted_attempting (h : Progress steps banks k step.quad run)
    (happlicable : ApplicableSteps steps banks) (hstep : steps[k]? = some step) {bench : Bench}
    (hbanks : bench.banks = run.bench.banks ∨
      bench.banks = step.cellWrite.apply run.bench.banks) {sent : List SentWrite}
    {message : String} (hne : message ≠ "") :
    Interrupted fault gate steps banks ((run.attempting k bench sent).fail message) := by
  obtain ⟨hk, hget⟩ := List.getElem?_eq_some_iff.mp hstep
  have hk' : k < (steps.map (·.cellWrite)).length := by rwa [List.length_map]
  have hcell : (steps.map (·.cellWrite))[k] = step.cellWrite := by rw [List.getElem_map, hget]
  have hsign := (happlicable.inBank step (hget ▸ List.getElem_mem hk)).1
  refine ⟨failure_fail _ hne, ⟨(keys_updateValue run k ?_).trans h.keys, h.rollbackVerified,
    k + 1, hk, ?_, ?_⟩, ?_⟩
  · intro value
    rfl
  · show run.attemptedValueIndexes ++ [k] = _
    rw [h.attempted, List.range_succ]
  · show revertAll _ bench.banks = banks
    rcases hbanks with hbanks | hbanks
    · rw [hbanks, h.banks_eq]
      exact happlicable.chained.revertAll_take_succ hk'
    · rw [hbanks, h.banks_eq, ← hcell, ← applyAll_take_succ hk']
      exact happlicable.chained.revertAll_take (k + 1)
  · intro hflag
    have hneg : step.quad < 0 := of_decide_eq_true (h.parked.symm.trans hflag)
    omega

/-- A disturbed write interrupts the loop, with the attempt on record. -/
theorem attemptWrite_of_disturbed (h : Progress steps banks k step.quad run)
    (happlicable : ApplicableSteps steps banks) (hstep : steps[k]? = some step)
    (hwrite : ¬WriteUndisturbed fault k) :
    Interrupted fault gate steps banks (attemptWrite fault run k step) := by
  obtain ⟨hk, hget⟩ := List.getElem?_eq_some_iff.mp hstep
  have hregister := (happlicable.inBank step (hget ▸ List.getElem_mem hk)).2.2
  have happly := cellWrite_apply step run.bench h.selector hregister
  unfold attemptWrite
  dsimp only
  cases hfault : fault (.write k) with
  | some failed =>
      rw [writeRegister_of_fault hfault]
      refine h.interrupted_attempting happlicable hstep ?_ (registerOperationError_ne _ _ _ _)
      split
      · exact .inr happly
      · exact .inl rfl
  | none =>
      rw [writeRegister_of_success hfault]
      dsimp only
      cases hreadback : fault (.readback k) with
      | none => exact absurd ⟨hfault, hreadback⟩ hwrite
      | some failed =>
          exact h.interrupted_attempting happlicable hstep (.inr happly)
            (registerOperationError_ne _ _ _ _)

/-- An undisturbed one is one more step of the plan. -/
theorem attemptWrite_of_undisturbed (h : Progress steps banks k step.quad run)
    (happlicable : ApplicableSteps steps banks) (hstep : steps[k]? = some step)
    (hwrite : WriteUndisturbed fault k) :
    Progress steps banks (k + 1) step.quad (attemptWrite fault run k step) := by
  obtain ⟨hk, hget⟩ := List.getElem?_eq_some_iff.mp hstep
  obtain ⟨hsign, -, hregister⟩ := happlicable.inBank step (hget ▸ List.getElem_mem hk)
  have hk' : k < (steps.map (·.cellWrite)).length := by rwa [List.length_map]
  have hcell : (steps.map (·.cellWrite))[k] = step.cellWrite := by rw [List.getElem_map, hget]
  -- the write is the next one of the chained plan
  have hbanks : (run.bench.write step.registerOffset step.profileValue).banks =
      applyAll ((steps.map (·.cellWrite)).take (k + 1)) banks := by
    rw [applyAll_take_succ hk', hcell, ← h.banks_eq]
    exact cellWrite_apply step run.bench h.selector hregister
  have hselector : (run.bench.write step.registerOffset step.profileValue).selector.toNat =
      step.quad.toNat := by rw [Bench.selector_write_of_banked hregister, h.selector]
  unfold attemptWrite
  dsimp only
  rw [writeRegister_of_success hwrite.write]
  dsimp only
  rw [hwrite.readback, Bench.readVmeD16, Bench.read_write]
  dsimp only
  rw [if_neg (not_not.mpr rfl)]
  exact {
    succeeds := h.succeeds
    owned := h.owned
    stopVerified := h.stopVerified
    keys := by
      refine (map_key_modify _ k fun _ => ?_).trans ((map_key_modify _ k fun _ => ?_).trans
        ((map_key_modify _ k fun _ => ?_).trans h.keys))
      all_goals rfl
    attempted := by
      show run.attemptedValueIndexes ++ [k] = _
      rw [h.attempted, List.range_succ]
    writesVerified := congrArg (· + 1) h.writesVerified
    plannedWrites := h.plannedWrites
    rollbackVerified := h.rollbackVerified
    selectedQuad := h.selectedQuad
    selector := hselector
    parked := h.parked
    begun := fun hneg => absurd hneg (by omega)
    banks_eq := hbanks }

/-- Nothing interferes with a step. -/
structure StepUndisturbed (fault : BulkApplySite → Option Fault)
    (gate : BulkApplyGate → ScpCaptureGateResult) (quad : Int) (index : Nat)
    (step : ScpProfileApplicationStep) : Prop where
  select : SelectUndisturbed fault gate quad index step
  gate : (gate (.write index)).status = .allowed
  write : WriteUndisturbed fault index

/-- One turn of the loop that nothing disturbs. -/
theorem applyStep_of_undisturbed (h : Progress steps banks k quad run)
    (happlicable : ApplicableSteps steps banks) (hstep : steps[k]? = some step)
    (hundisturbed : StepUndisturbed fault gate quad k step) :
    Progress steps banks (k + 1) step.quad
      (applyStep fault gate cancellationRequested run (step, k)) := by
  obtain ⟨hk, hget⟩ := List.getElem?_eq_some_iff.mp hstep
  obtain ⟨hsign, hquad, -⟩ := happlicable.inBank step (hget ▸ List.getElem_mem hk)
  obtain ⟨selected, hselect, hprogress⟩ :=
    selectBank_of_undisturbed cancellationRequested h hsign hquad hundisturbed.select
  rw [applyStep, if_pos ⟨h.succeeds, h.owned⟩, hselect]
  dsimp only
  rw [reverifyOwnership_of_allowed cancellationRequested hprogress.owned hundisturbed.gate]
  exact attemptWrite_of_undisturbed hprogress happlicable hstep hundisturbed.write

/-- One turn of the loop that something disturbs. -/
theorem applyStep_of_disturbed (h : Progress steps banks k quad run)
    (happlicable : ApplicableSteps steps banks) (hstep : steps[k]? = some step)
    (hdisturbed : ¬StepUndisturbed fault gate quad k step) :
    Interrupted fault gate steps banks
      (applyStep fault gate cancellationRequested run (step, k)) := by
  obtain ⟨hk, hget⟩ := List.getElem?_eq_some_iff.mp hstep
  obtain ⟨hsign, hquad, -⟩ := happlicable.inBank step (hget ▸ List.getElem_mem hk)
  rw [applyStep, if_pos ⟨h.succeeds, h.owned⟩]
  by_cases hselectable : SelectUndisturbed fault gate quad k step
  · obtain ⟨selected, hselect, hprogress⟩ :=
      selectBank_of_undisturbed cancellationRequested h hsign hquad hselectable
    rw [hselect]
    dsimp only
    by_cases hgate : (gate (.write k)).status = .allowed
    · rw [reverifyOwnership_of_allowed cancellationRequested hprogress.owned hgate]
      refine attemptWrite_of_disturbed hprogress happlicable hstep ?_
      intro hwrite
      exact hdisturbed ⟨hselectable, hgate, hwrite⟩
    · obtain ⟨message, hmessage, hdenied⟩ :=
        reverifyOwnership_of_denied cancellationRequested hprogress.owned hgate
      rw [hdenied]
      refine hprogress.interrupted happlicable hk.le (leaves_denied selected hmessage)
        (failure_denied _ hmessage) ?_
      intro hflag
      have hneg : step.quad < 0 := of_decide_eq_true (hprogress.parked.symm.trans hflag)
      omega
  · -- the bank was not selected
    obtain ⟨selected, hselect, hinterrupted⟩ :=
      selectBank_of_disturbed cancellationRequested h happlicable hstep hselectable
    rw [hselect]
    exact hinterrupted

/-- Nothing interferes with the steps, taken from the given index on. -/
def StepsUndisturbed (fault : BulkApplySite → Option Fault)
    (gate : BulkApplyGate → ScpCaptureGateResult) : Int → Nat → List ScpProfileApplicationStep → Prop
  | _, _, [] => True
  | quad, index, step :: rest =>
    StepUndisturbed fault gate quad index step ∧ StepsUndisturbed fault gate step.quad (index + 1) rest

/-- After a failure no further step is tried. -/
theorem foldl_applyStep_of_failed (indexed : List (ScpProfileApplicationStep × Nat))
    (h : run.failure ≠ "") :
    indexed.foldl (applyStep fault gate cancellationRequested) run = run := by
  induction indexed with
  | nil => rfl
  | cons step indexed ih =>
      rw [List.foldl_cons, applyStep, if_neg (fun hrun => h hrun.1)]
      exact ih

/-- The rest of the loop: it gets to the end exactly when nothing interferes. -/
theorem foldl_applyStep (happlicable : ApplicableSteps steps banks)
    {rest : List ScpProfileApplicationStep} (hk : k ≤ steps.length) (hrest : steps.drop k = rest)
    (h : Progress steps banks k quad run) :
    (StepsUndisturbed fault gate quad k rest → ∃ quad', Progress steps banks steps.length quad'
      ((rest.zipIdx k).foldl (applyStep fault gate cancellationRequested) run)) ∧
    (¬StepsUndisturbed fault gate quad k rest → Interrupted fault gate steps banks
      ((rest.zipIdx k).foldl (applyStep fault gate cancellationRequested) run)) := by
  induction rest generalizing k quad run with
  | nil =>
      obtain rfl : k = steps.length := le_antisymm hk (List.drop_eq_nil_iff.mp hrest)
      exact ⟨fun _ => ⟨quad, h⟩, fun hfalse => absurd trivial hfalse⟩
  | cons step rest ih =>
      have hstep : steps[k]? = some step := by
        rw [← List.head?_drop, hrest, List.head?_cons]
      have hrest' : steps.drop (k + 1) = rest := by
        rw [← List.tail_drop, hrest, List.tail_cons]
      rw [List.zipIdx_cons, List.foldl_cons]
      by_cases hundisturbed : StepUndisturbed fault gate quad k step
      · have hk' : k + 1 ≤ steps.length := (List.getElem?_eq_some_iff.mp hstep).1
        obtain ⟨hprogress, hinterrupted⟩ := ih hk' hrest'
          (applyStep_of_undisturbed cancellationRequested h happlicable hstep hundisturbed)
        constructor
        · intro hsteps
          exact hprogress hsteps.2
        · intro hsteps
          exact hinterrupted fun hrest => hsteps ⟨hundisturbed, hrest⟩
      · have hinterrupted :=
          applyStep_of_disturbed cancellationRequested h happlicable hstep hundisturbed
        rw [foldl_applyStep_of_failed cancellationRequested _ hinterrupted.failed]
        exact ⟨fun hsteps => absurd hsteps.1 hundisturbed, fun _ => hinterrupted⟩

/-! ### Stop and loop

The two stages before the rollback is decided on, taken together: either the whole plan is applied,
or the run was interrupted on the way. -/

/-- The run that the preflight hands over: the selector is parked, nothing has been tried. -/
structure Prepared (steps : List ScpProfileApplicationStep) (run : BulkApplyRun) : Prop where
  succeeds : run.failure = ""
  owned : run.ownershipAvailable = true
  keys : run.result.values.map (·.key) = steps.map (·.key)
  attempted : run.attemptedValueIndexes = []
  writesVerified : run.result.writesVerified = 0
  plannedWrites : run.result.plannedWrites = steps.length
  rollbackVerified : run.result.rollbackVerified = false
  selectedQuad : run.selectedQuad = -1
  selector : run.bench.selector = 0
  parked : run.result.selectorParkedAtQuadZero = true

/-- After the stop no step has been applied yet. -/
theorem Prepared.progress (h : Prepared steps run) :
    Progress steps run.bench.banks 0 (-1) run.stopped where
  succeeds := h.succeeds
  owned := h.owned
  stopVerified := rfl
  keys := h.keys
  attempted := h.attempted
  writesVerified := h.writesVerified
  plannedWrites := h.plannedWrites
  rollbackVerified := h.rollbackVerified
  selectedQuad := h.selectedQuad
  selector := by
    show (run.bench.write fw2051AcquisitionControlRegister fw2051StopAcquisitionValue).selector.toNat = 0
    rw [Bench.selector_write (by decide), h.selector]
    rfl
  parked := h.parked
  begun := fun _ => rfl
  banks_eq := Bench.banks_write_of_global (by decide)

/-- A stop that failed interrupts the transaction before the first step. -/
theorem Prepared.interrupted (h : Prepared steps run) {run' : BulkApplyRun} (hleaves : Leaves run run')
    (hfailed : FailedInPlace run run') : Interrupted fault gate steps run.bench.banks run' where
  failed := hfailed.failed
  undoable := {
    keys := hleaves.keys.trans h.keys
    rollbackVerified := hleaves.rollbackVerified.trans h.rollbackVerified
    undone := ⟨0, Nat.zero_le _, hleaves.attempted.trans h.attempted, hleaves.banks⟩ }
  parked := fun _ => ⟨hleaves.attempted.trans h.attempted,
    fun _ => hfailed.selector.trans h.selector⟩

/-- Nothing interferes before the first reset. -/
def WritingUndisturbed (fault : BulkApplySite → Option Fault)
    (gate : BulkApplyGate → ScpCaptureGateResult) (steps : List ScpProfileApplicationStep) : Prop :=
  StopUndisturbed fault gate ∧ StepsUndisturbed fault gate (-1) 0 steps

variable (fault gate) in
/-- The stop and the loop together: at the end of the plan, or interrupted. -/
theorem applySteps_stopModule (h : Prepared steps run)
    (happlicable : ApplicableSteps steps run.bench.banks) :
    (WritingUndisturbed fault gate steps → ∃ quad, Progress steps run.bench.banks steps.length quad
      (applySteps fault gate cancellationRequested
        (stopModule fault gate cancellationRequested run) steps)) ∧
    (¬WritingUndisturbed fault gate steps → Interrupted fault gate steps run.bench.banks
      (applySteps fault gate cancellationRequested
        (stopModule fault gate cancellationRequested run) steps)) := by
  unfold applySteps
  by_cases hstop : StopUndisturbed fault gate
  · rw [stopModule_of_undisturbed cancellationRequested h.owned hstop]
    constructor
    · intro hwriting
      exact (foldl_applyStep cancellationRequested happlicable (Nat.zero_le _) List.drop_zero
        h.progress).1 hwriting.2
    · intro hwriting
      refine (foldl_applyStep cancellationRequested happlicable (Nat.zero_le _) List.drop_zero
        h.progress).2 ?_
      exact fun hsteps => hwriting ⟨hstop, hsteps⟩
  · have hfailed := stopModule_of_disturbed cancellationRequested h.owned hstop
    rw [foldl_applyStep_of_failed cancellationRequested _ hfailed.failed]
    refine ⟨fun hwriting => absurd hwriting.1 hstop, fun _ => ?_⟩
    exact h.interrupted (leaves_stopModule fault gate cancellationRequested run) hfailed

end Forward

/-- The run that keeps its values. -/
def BulkApplyRun.retained (run : BulkApplyRun) : BulkApplyRun :=
  { run with result := { run.result with profileValuesRetained := true } }

variable (fault gate) in
/-- Parking and resetting after the loop leaves the banks. -/
theorem leaves_finishForward (run : BulkApplyRun) :
    Leaves run (finishForward fault gate cancellationRequested run) := by
  unfold finishForward
  split
  · have hretained : Leaves run run.retained := ⟨rfl, rfl, rfl, rfl, rfl, rfl, rfl, rfl, id⟩
    have hparked := hretained.trans
      (leaves_parkSelector fault gate cancellationRequested run.retained .forward)
    dsimp only
    split
    · exact hparked.trans (leaves_resetReadout fault gate cancellationRequested _ .forward)
    · exact hparked
  · exact .refl run

/-! ### The rollback

It goes through the values on record from the last to the first. A value that was attempted is
written back and read back; once that fails the rollback is marked as unsafe, and `Undoing` promises
nothing any more. -/

/-- The rollback with the first `i` values to go: as long as it is safe, undoing these leads back to
the banks before the first write. -/
structure Undoing (steps : List ScpProfileApplicationStep) (banks : BankCell → UInt16) (i : Nat)
    (run : BulkApplyRun) : Prop where
  failed : run.failure ≠ ""
  keys : run.result.values.map (·.key) = steps.map (·.key)
  selector : 0 ≤ run.selectedQuad → run.bench.selector.toNat = run.selectedQuad.toNat
  banks_eq : run.rollbackSafe = true →
    revertAll ((steps.map (·.cellWrite)).take i).reverse run.bench.banks = banks

section Rollback

variable {steps : List ScpProfileApplicationStep} {banks : BankCell → UInt16} {i : Nat}
  {value : ScpAppliedValueResult}

/-! The four outcomes of selecting a bank. -/

section SelectRollbackBank

variable {index : Nat}

/-- The bank that is selected already is not selected again. -/
theorem selectRollbackBank_of_selected (hsame : run.selectedQuad = value.quad) :
    selectRollbackBank fault gate cancellationRequested run index value = (true, run) := by
  rw [selectRollbackBank, if_neg (not_not.mpr hsame)]

/-- Without the gate's permission the rollback selects no bank. -/
theorem selectRollbackBank_of_denied (howned : run.ownershipAvailable = true)
    (hne : run.selectedQuad ≠ value.quad) (hgate : (gate (.rollbackBank index)).status ≠ .allowed) :
    ∃ message ≠ "", selectRollbackBank fault gate cancellationRequested run index value =
      (false, run.denied message) := by
  obtain ⟨message, hmessage, hdenied⟩ :=
    reverifyOwnership_of_denied cancellationRequested howned hgate
  refine ⟨message, hmessage, ?_⟩
  rw [selectRollbackBank, if_pos hne, hdenied]

/-- A lost selector write is reported. -/
theorem selectRollbackBank_of_fault (howned : run.ownershipAvailable = true)
    (hne : run.selectedQuad ≠ value.quad) (hgate : (gate (.rollbackBank index)).status = .allowed)
    {failed : Fault} (hfault : fault (.rollbackSelect index) = some failed) :
    ∃ message ≠ "", selectRollbackBank fault gate cancellationRequested run index value =
      (false, { run with
        bench :=
          if failed.takesEffect then
            run.bench.write fw2051ScpSelectorRegister value.quad.toNat.toUInt16
          else run.bench
        sent := run.sent ++ [SentWrite.vme fw2051ScpSelectorRegister value.quad.toNat.toUInt16
          false (some failed)] }.fail message) := by
  refine ⟨_, registerOperationError_ne "write" "rollback channel-quad selector"
    fw2051ScpSelectorRegister failed.error, ?_⟩
  rw [selectRollbackBank, if_pos hne, reverifyOwnership_of_allowed cancellationRequested howned hgate]
  dsimp only
  rw [writeRegister_of_fault hfault]
  rfl

/-- Otherwise the bank of the value is selected. -/
theorem selectRollbackBank_of_success (howned : run.ownershipAvailable = true)
    (hne : run.selectedQuad ≠ value.quad) (hgate : (gate (.rollbackBank index)).status = .allowed)
    (hfault : fault (.rollbackSelect index) = none) :
    selectRollbackBank fault gate cancellationRequested run index value =
      (true, { run with
        bench := run.bench.write fw2051ScpSelectorRegister value.quad.toNat.toUInt16
        sent := run.sent ++ [.vme fw2051ScpSelectorRegister value.quad.toNat.toUInt16 false none]
        selectedQuad := value.quad }) := by
  rw [selectRollbackBank, if_pos hne, reverifyOwnership_of_allowed cancellationRequested howned hgate]
  dsimp only
  rw [writeRegister_of_success hfault]
  rfl

end SelectRollbackBank

/-- A rollback goes on after selecting a bank only with that bank selected. -/
theorem Undoing.select (h : Undoing steps banks i run) (howned : run.ownershipAvailable = true)
    (hquad : value.quad.toNat < 8) (index : Nat) :
    (∃ run', selectRollbackBank fault gate cancellationRequested run index value = (false, run') ∧
      run'.failure ≠ "") ∨
    (∃ run', selectRollbackBank fault gate cancellationRequested run index value = (true, run') ∧
      Undoing steps banks i run' ∧ run'.selectedQuad = value.quad ∧
      run'.ownershipAvailable = true) := by
  by_cases hsame : run.selectedQuad = value.quad
  · -- the bank is already selected
    exact .inr ⟨run, selectRollbackBank_of_selected cancellationRequested hsame, h, hsame, howned⟩
  · by_cases hgate : (gate (.rollbackBank index)).status = .allowed
    · cases hfault : fault (.rollbackSelect index) with
      | some failed =>
          obtain ⟨message, hmessage, heq⟩ :=
            selectRollbackBank_of_fault cancellationRequested howned hsame hgate hfault
          exact .inl ⟨_, heq, failure_fail _ hmessage⟩
      | none =>
          refine .inr ⟨_, selectRollbackBank_of_success cancellationRequested howned hsame hgate
            hfault, ?_, rfl, howned⟩
          refine ⟨h.failed, h.keys, fun _ => ?_, ?_⟩
          · show (run.bench.write fw2051ScpSelectorRegister
              value.quad.toNat.toUInt16).selector.toNat = value.quad.toNat
            rw [Bench.selector_write_selector, toNat_toUInt16_of_lt hquad]
          · intro hsafe
            have hbanks := h.banks_eq hsafe
            rw [← Bench.banks_write_of_global Bench.selector_notMem] at hbanks
            exact hbanks
    · obtain ⟨message, hmessage, heq⟩ :=
        selectRollbackBank_of_denied cancellationRequested howned hsame hgate
      exact .inl ⟨_, heq, failure_denied _ hmessage⟩

/-- Writing a value back takes the rollback one write further, or makes it unsafe. -/
theorem Undoing.rollbackValue (h : Undoing steps banks (i + 1) run) (hi : i < steps.length)
    (hkey : value.key = steps[i].key) (hsign : 0 ≤ value.quad)
    (hselected : run.selectedQuad = value.quad)
    (hregister : value.registerOffset ∈ scpRegisterOffsets) (index : Nat) :
    Undoing steps banks i (rollbackValue fault run index value) := by
  have hselector := h.selector (hselected ▸ hsign)
  have hkept : (run.bench.write value.registerOffset value.expectedValue).selector =
      run.bench.selector := Bench.selector_write_of_banked hregister
  have hkeys : (run.result.values.modify index fun value =>
      { value with rollbackAttempted := true }).map (·.key) = steps.map (·.key) := by
    refine (map_key_modify _ index fun value => ?_).trans h.keys
    rfl
  -- what is written back is what the plan says the cell held before the step
  have hwritten : (run.bench.write value.registerOffset value.expectedValue).banks =
      (steps[i].cellWrite).revert run.bench.banks := by
    obtain ⟨hquad, hoffset, hexpected⟩ := fields_of_key hkey
    rw [Bench.banks_write_of_banked hregister, hselector, hselected, hquad, hoffset, hexpected]
    rfl
  unfold Fidget.rollbackValue
  dsimp only
  cases hfault : fault (.rollbackWrite index) with
  | some failed =>
      rw [writeRegister_of_fault hfault]
      refine ⟨failure_fail _ (registerOperationError_ne _ _ _ _), hkeys, fun _ => ?_,
        fun hsafe => ?_⟩
      · show (if failed.takesEffect then run.bench.write value.registerOffset value.expectedValue
          else run.bench).selector.toNat = run.selectedQuad.toNat
        split
        · rw [hkept, hselector]
        · rw [hselector]
      · -- a disturbed rollback is no longer safe, and then nothing is promised about the banks
        cases hsafe
  | none =>
      rw [writeRegister_of_success hfault]
      dsimp only
      cases hreadback : fault (.rollbackReadback index) with
      | some failed =>
          refine ⟨failure_fail _ (registerOperationError_ne _ _ _ _), hkeys, fun _ => ?_,
            fun hsafe => ?_⟩
          · exact (congrArg UInt16.toNat hkept).trans hselector
          · cases hsafe
      | none =>
          rw [Bench.readVmeD16, Bench.read_write]
          dsimp only
          rw [if_neg (not_not.mpr rfl)]
          refine ⟨h.failed, ?_, fun _ => (congrArg UInt16.toNat hkept).trans hselector,
            fun hsafe => ?_⟩
          · refine (map_key_modify _ index fun _ => ?_).trans
              ((map_key_modify _ index fun _ => ?_).trans hkeys)
            all_goals rfl
          · -- one step fewer is applied
            have hi' : i < (steps.map (·.cellWrite)).length := by rwa [List.length_map]
            have hbanks := h.banks_eq hsafe
            rw [revertAll_take_succ hi', List.getElem_map, ← hwritten] at hbanks
            exact hbanks

/-- The value on record at an index belongs to the step at that index. -/
theorem getD_key {values : List ScpAppliedValueResult}
    (h : values.map (·.key) = steps.map (·.key)) (hi : i < steps.length) :
    (values.getD i {}).key = steps[i].key := by
  have hget : (values.map (·.key))[i]? = (steps.map (·.key))[i]? := by rw [h]
  rw [List.getElem?_map, List.getElem?_map, List.getElem?_eq_getElem hi] at hget
  obtain ⟨value, hvalue, hkey⟩ := Option.map_eq_some_iff.mp hget
  rw [List.getD_eq_getElem?_getD, hvalue, Option.getD_some, hkey]

variable (fault gate) in
/-- A safe rollback has led back to the banks before the first write. -/
theorem Undoing.rollbackValues (happlicable : ApplicableSteps steps banks)
    (h : Undoing steps banks i run) (hi : i ≤ steps.length) :
    let undone := rollbackValues fault gate cancellationRequested run (List.range i).reverse
    undone.failure ≠ "" ∧ (undone.rollbackSafe = true → undone.bench.banks = banks) := by
  induction i generalizing run with
  | zero => exact ⟨h.failed, h.banks_eq⟩
  | succ i ih =>
      have hkey := getD_key h.keys hi
      obtain ⟨hsign, hquad, hregister⟩ := happlicable.inBank steps[i] (List.getElem_mem hi)
      rw [List.range_succ, List.reverse_append, List.reverse_singleton, List.singleton_append]
      unfold Fidget.rollbackValues
      dsimp only
      set value := run.result.values.getD i {} with hvalue
      obtain ⟨hvquad, hvoffset, -⟩ := fields_of_key hkey
      split
      · exact ⟨h.failed, fun hsafe => by cases hsafe⟩
      -- the module is still this operation's own
      next howned =>
        have howned : run.ownershipAvailable = true := by simpa using howned
        rcases h.select cancellationRequested howned (hvquad ▸ hquad) i with
          ⟨run', heq, hfailed⟩ | ⟨run', heq, hselected, hbank, howned'⟩
        · rw [heq]
          exact ⟨hfailed, fun hsafe => by cases hsafe⟩
        · rw [heq]
          dsimp only
          by_cases hgate : (gate (.rollbackWrite i)).status = .allowed
          · rw [reverifyOwnership_of_allowed cancellationRequested howned' hgate]
            exact ih (hselected.rollbackValue hi hkey (hvquad ▸ hsign) hbank (hvoffset ▸ hregister) i)
              (by omega)
          · obtain ⟨message, hmessage, hdenied⟩ :=
              reverifyOwnership_of_denied cancellationRequested howned' hgate
            rw [hdenied]
            exact ⟨failure_denied _ hmessage, fun hsafe => by cases hsafe⟩

variable (fault gate) in
/-- Parking and resetting after the rollback leaves the banks. -/
theorem leaves_finishRollback (run : BulkApplyRun) :
    let finished := finishRollback fault gate cancellationRequested run
    (run.failure ≠ "" → finished.failure ≠ "") ∧ finished.bench.banks = run.bench.banks ∧
      (finished.result.rollbackVerified = true → run.rollbackSafe = true) := by
  intro finished
  set verified : BulkApplyRun := { run with result := { run.result with
    rollbackVerified := run.rollbackSafe &&
      run.result.rollbackWritesVerified == run.attemptedValueIndexes.length } } with hverified
  have hleaves : Leaves verified finished := by
    show Leaves verified (finishRollback fault gate cancellationRequested run)
    unfold finishRollback
    dsimp only
    split
    · have hparked := leaves_parkSelector fault gate cancellationRequested verified .rollback
      split
      · exact hparked.trans (leaves_resetReadout fault gate cancellationRequested _ .rollback)
      · exact hparked
    · exact .refl verified
  refine ⟨hleaves.failed, hleaves.banks, ?_⟩
  intro hsafe
  rw [hleaves.rollbackVerified] at hsafe
  exact (Bool.and_eq_true_iff.mp hsafe).1

/-- The run as the rollback takes it up. -/
def BulkApplyRun.rollbackStarted (run : BulkApplyRun) : BulkApplyRun :=
  { run with
    selectedQuad := -1
    rollbackSafe := run.ownershipAvailable
    result := { run.result with
      state := .rollingBack
      rollbackAttempted := true
      profileValuesRetained := false } }

/-- A failed run that tried to write goes through its attempts in reverse order. -/
theorem rollback_of_failed (h : run.failure ≠ "" ∧ run.ownershipAvailable = true ∧
    run.attemptedValueIndexes ≠ []) : rollback fault gate cancellationRequested run =
      finishRollback fault gate cancellationRequested (rollbackValues fault gate
        cancellationRequested run.rollbackStarted run.attemptedValueIndexes.reverse) := by
  rw [rollback, if_pos h]
  rfl

variable (fault gate) in
/-- The rollback runs after a failure only, and is reported as verified only when the banks are
those before the first write. -/
theorem rollback_restores (happlicable : ApplicableSteps steps banks)
    (h : Undoable steps banks run) :
    let undone := rollback fault gate cancellationRequested run
    (run.failure = "" → undone = run) ∧ (run.failure ≠ "" → undone.failure ≠ "") ∧
      (undone.result.rollbackVerified = true → undone.bench.banks = banks) := by
  intro undone
  by_cases hrun : run.failure ≠ "" ∧ run.ownershipAvailable = true ∧ run.attemptedValueIndexes ≠ []
  · obtain ⟨n, hn, hattempted, hrestores⟩ := h.undone
    have hundone : undone = _ := rollback_of_failed cancellationRequested hrun
    rw [hattempted] at hundone
    -- the rollback starts with no bank selected
    have hstarted : Undoing steps banks n run.rollbackStarted :=
      ⟨hrun.1, h.keys, fun hsign => absurd hsign (by decide : ¬(0 : Int) ≤ -1), fun _ => hrestores⟩
    have hvalues := hstarted.rollbackValues fault gate cancellationRequested happlicable hn
    have hfinished := leaves_finishRollback fault gate cancellationRequested
      (rollbackValues fault gate cancellationRequested run.rollbackStarted (List.range n).reverse)
    rw [hundone]
    refine ⟨fun hok => absurd hok hrun.1, fun _ => hfinished.1 hvalues.1, ?_⟩
    intro hverified
    rw [hfinished.2.1]
    exact hvalues.2 (hfinished.2.2 hverified)
  · have hundone : undone = run := if_neg hrun
    rw [hundone]
    refine ⟨fun _ => rfl, id, ?_⟩
    intro hverified
    rw [h.rollbackVerified] at hverified
    cases hverified

end Rollback

/-! ### The transaction

The flag `rollbackVerified` is set at the very end of a rollback that stayed safe. Without a failure
there is no rollback, and with one the plan is not applied in part. -/

variable (fault gate) in
/-- However far the forward direction got, it can be undone from there. -/
theorem Prepared.undoable {steps : List ScpProfileApplicationStep} (h : Prepared steps run)
    (happlicable : ApplicableSteps steps run.bench.banks) :
    Undoable steps run.bench.banks (finishForward fault gate cancellationRequested
      (applySteps fault gate cancellationRequested
        (stopModule fault gate cancellationRequested run) steps)) := by
  obtain ⟨hprogress, hinterrupted⟩ :=
    applySteps_stopModule fault gate cancellationRequested h happlicable
  have hleaves := leaves_finishForward fault gate cancellationRequested
    (applySteps fault gate cancellationRequested
      (stopModule fault gate cancellationRequested run) steps)
  refine Undoable.leaves ?_ hleaves
  by_cases hwriting : WritingUndisturbed fault gate steps
  · obtain ⟨quad, hend⟩ := hprogress hwriting
    exact hend.undoable happlicable le_rfl
  · exact (hinterrupted hwriting).undoable

variable (fault gate) in
/-- A transaction that ends without a failure has not been rolled back. -/
theorem bulkApplyTransaction_of_success {steps : List ScpProfileApplicationStep}
    (h : Prepared steps run) (happlicable : ApplicableSteps steps run.bench.banks)
    (hok : (bulkApplyTransaction fault gate cancellationRequested run steps).failure = "") :
    let forward := finishForward fault gate cancellationRequested
      (applySteps fault gate cancellationRequested
        (stopModule fault gate cancellationRequested run) steps)
    forward.failure = "" ∧
      bulkApplyTransaction fault gate cancellationRequested run steps = forward := by
  intro forward
  obtain ⟨hkept, hfailed, -⟩ := rollback_restores fault gate cancellationRequested happlicable
    (h.undoable fault gate cancellationRequested happlicable)
  have hforward : forward.failure = "" := by
    by_contra hne
    exact hfailed hne hok
  exact ⟨hforward, hkept hforward⟩

variable (fault gate) in
/-- Without a failure every step has been applied; with a verified rollback none has. -/
theorem bulkApplyTransaction_banks {steps : List ScpProfileApplicationStep} (h : Prepared steps run)
    (happlicable : ApplicableSteps steps run.bench.banks) :
    let final := bulkApplyTransaction fault gate cancellationRequested run steps
    (final.failure = "" →
      final.bench.banks = applyAll (steps.map (·.cellWrite)) run.bench.banks) ∧
    (final.result.rollbackVerified = true → final.bench.banks = run.bench.banks) := by
  intro final
  obtain ⟨hprogress, hinterrupted⟩ :=
    applySteps_stopModule fault gate cancellationRequested h happlicable
  obtain ⟨-, -, hrestored⟩ := rollback_restores fault gate cancellationRequested happlicable
    (h.undoable fault gate cancellationRequested happlicable)
  refine ⟨?_, hrestored⟩
  intro hok
  obtain ⟨hforward, hfinal⟩ :=
    bulkApplyTransaction_of_success fault gate cancellationRequested h happlicable hok
  have hleaves := leaves_finishForward fault gate cancellationRequested
    (applySteps fault gate cancellationRequested
      (stopModule fault gate cancellationRequested run) steps)
  have hwriting : WritingUndisturbed fault gate steps := by
    by_contra hdisturbed
    exact hleaves.failed (hinterrupted hdisturbed).failed hforward
  obtain ⟨quad, hend⟩ := hprogress hwriting
  have hbanks := hend.banks_eq
  rw [List.take_of_length_le (by rw [List.length_map]), ← hleaves.banks, ← hfinal] at hbanks
  exact hbanks

end Operation

/-! ### The operation

Before the transaction the operation checks the request, captures the module and compares it.
Whatever is refused there has cost no write to a bank. -/

/-- Nothing stands against the transaction. -/
structure PreflightPasses (fault : BulkApplySite → Option Fault)
    (gate : BulkApplyGate → ScpCaptureGateResult) (bench : Bench)
    (request : ScpProfileApplicationRequest) : Prop where
  accepted : validateRequest request = ""
  aligned : request.expectedLiveConfiguration.baseAddress &&& 0xFFFF = 0
  admitted : (gate (.capture .snapshot)).status = .allowed
  undisturbed : CaptureUndisturbed (fault ∘ .capture) (gate ∘ .capture) {}
  approved : isWriteApprovedMdpp32HardwareId (bench.registers 0x6008) = true
  firmware : bench.registers 0x600E = mdpp32ScpFirmwareRevisionFw2051
  expected : MatchesExpected request.expectedLiveConfiguration bench

/-- Before the first write there is a value on record for every step. -/
theorem keys_initialBulkApplyResult (request : ScpProfileApplicationRequest) :
    (initialBulkApplyResult request).values.map (·.key) = request.steps.map (·.key) := by
  show (request.steps.map _).map _ = _
  rw [List.map_map]
  rfl

section Apply

variable (fault : BulkApplySite → Option Fault) (cancellationRequested : BulkApplyGate → Bool)
  (bench : Bench) (request : ScpProfileApplicationRequest)
  (ownershipGate : Option (BulkApplyGate → ScpCaptureGateResult))

/-- The writes of the capture that precedes the transaction. -/
def preflightWrites (gate : BulkApplyGate → ScpCaptureGateResult) : List SentWrite :=
  captureFw2051ScpConfigurationWrites (fault ∘ .capture) bench
    request.expectedLiveConfiguration.baseAddress (some (gate ∘ .capture))

/-- Either the preflight passes and the transaction starts from a prepared run, or the call fails
with the banks untouched. What has been sent until then is what the capture sends. -/
theorem applyFw2051ScpProfileRun_cases :
    let applied := applyFw2051ScpProfileRun fault cancellationRequested bench request ownershipGate
    (∃ gate run, ownershipGate = some gate ∧ PreflightPasses fault gate bench request ∧
      Prepared request.steps run ∧ bench.SameButSelector run.bench ∧
      LogsWrites (preflightWrites fault bench request gate) (bench, []) run.trace ∧
      applied = { bulkApplyTransaction fault gate cancellationRequested run request.steps with
        result := finishBulkApply
          (bulkApplyTransaction fault gate cancellationRequested run request.steps) }) ∨
    ((¬∃ gate, ownershipGate = some gate ∧ PreflightPasses fault gate bench request) ∧
      applied.result.state = .failed ∧ applied.result.rollbackVerified = false ∧
      (applied.result.selectorParkedAtQuadZero = true → applied.bench.selector = 0) ∧
      ∃ writes, LogsWrites writes (bench, []) applied.trace ∧ (writes = [] ∨ ∃ gate,
        ownershipGate = some gate ∧ writes = preflightWrites fault bench request gate)) := by
  unfold applyFw2051ScpProfileRun
  dsimp only
  split
  next hrefused =>
    right
    -- a refused request reaches no hardware
    refine ⟨?_, rfl, rfl, fun hflag => (by cases hflag), [], .refl _, .inl rfl⟩
    rintro ⟨gate, -, hpasses⟩
    exact hrefused hpasses.accepted
  next haccepted =>
    cases ownershipGate with
    | none =>
        right
        -- nor does one without a gate
        refine ⟨?_, rfl, rfl, fun hflag => (by cases hflag), [], .refl _, .inl rfl⟩
        rintro ⟨gate, hgate, -⟩
        cases hgate
    | some gate =>
        have hselector := captureFw2051ScpConfiguration_selector (fault ∘ .capture) bench
          request.expectedLiveConfiguration.baseAddress (some (gate ∘ .capture)) {}
        have hcomplete := captureFw2051ScpConfiguration_complete_iff (fault ∘ .capture) bench
          request.expectedLiveConfiguration.baseAddress (some (gate ∘ .capture)) {}
        obtain ⟨hreplay, -⟩ := replay_captureFw2051ScpConfigurationWrites (fault ∘ .capture) bench
          request.expectedLiveConfiguration.baseAddress (some (gate ∘ .capture)) {}
        rw [show (initialBulkApplyResult request).baseAddress =
          request.expectedLiveConfiguration.baseAddress from rfl]
        dsimp only at hselector hcomplete ⊢
        rw [← show preflightWrites fault bench request gate =
          captureFw2051ScpConfigurationWrites (fault ∘ .capture) bench
            request.expectedLiveConfiguration.baseAddress (some (gate ∘ .capture)) from rfl]
          at hreplay ⊢
        generalize captureFw2051ScpConfiguration (fault ∘ .capture) bench
          request.expectedLiveConfiguration.baseAddress (some (gate ∘ .capture)) {} = captured
          at hselector hcomplete hreplay ⊢
        obtain ⟨capture, bench'⟩ := captured
        dsimp only at hselector hcomplete hreplay ⊢
        obtain ⟨hsame, hzero⟩ := hselector
        obtain ⟨hiff, hfrom⟩ := hcomplete
        have hlogged : LogsWrites (preflightWrites fault bench request gate) (bench, [])
          (bench', preflightWrites fault bench request gate) := ⟨hreplay.symm, rfl⟩
        split
        -- the capture is incomplete: what was sent is what the capture sent
        next hincomplete =>
          right
          refine ⟨?_, rfl, rfl, hzero, _, hlogged, .inr ⟨gate, rfl, rfl⟩⟩
          rintro ⟨gate', hgate, hpasses⟩
          cases hgate
          exact hincomplete (hiff.mpr ⟨_, hpasses.aligned, rfl, hpasses.admitted,
            hpasses.undisturbed, hpasses.approved, hpasses.firmware⟩)
        next hcaptured =>
          have hcaptured := not_not.mp hcaptured
          rw [compare_moduleSnapshot _ hcaptured (hfrom hcaptured)]
          split
          -- the module is not the one that was expected
          next hdiffers =>
            right
            refine ⟨?_, rfl, rfl, hzero, _, hlogged, .inr ⟨gate, rfl, rfl⟩⟩
            rintro ⟨gate', hgate, hpasses⟩
            rw [hpasses.expected.comparable, hpasses.expected.differences] at hdiffers
            simp at hdiffers
          -- the preflight passes, and the transaction starts from the captured module
          next hmatches =>
            left
            rw [not_or, Bool.not_eq_true, Bool.not_eq_false', not_not] at hmatches
            obtain ⟨capturegate, haligned, hcapturegate, hadmitted, hundisturbed, happroved,
              hfirmware⟩ := hiff.mp hcaptured
            cases hcapturegate
            refine ⟨gate, _, rfl, ⟨not_not.mp haccepted, haligned, hadmitted, hundisturbed,
              happroved, hfirmware, hmatches.1, hmatches.2⟩, ?_, hsame, hlogged, rfl⟩
            exact {
              succeeds := rfl
              owned := rfl
              keys := keys_initialBulkApplyResult request
              attempted := rfl
              writesVerified := rfl
              plannedWrites := rfl
              rollbackVerified := rfl
              selectedQuad := rfl
              selector := hzero (hfrom hcaptured).parked
              parked := (hfrom hcaptured).parked }

/-- The same, of what the operation returns. -/
theorem applyFw2051ScpProfile_cases :
    let applied := applyFw2051ScpProfile fault cancellationRequested bench request ownershipGate
    (∃ gate run, ownershipGate = some gate ∧ PreflightPasses fault gate bench request ∧
      Prepared request.steps run ∧ bench.SameButSelector run.bench ∧
      applied = (finishBulkApply
          (bulkApplyTransaction fault gate cancellationRequested run request.steps),
        (bulkApplyTransaction fault gate cancellationRequested run request.steps).bench)) ∨
    ((¬∃ gate, ownershipGate = some gate ∧ PreflightPasses fault gate bench request) ∧
      applied.1.state = .failed ∧ applied.1.rollbackVerified = false ∧
      (applied.1.selectorParkedAtQuadZero = true → applied.2.selector = 0)) := by
  unfold applyFw2051ScpProfile
  dsimp only
  rcases applyFw2051ScpProfileRun_cases fault cancellationRequested bench request ownershipGate
    with ⟨gate, run, hgate, hpasses, hprepared, hsame, -, happlied⟩ |
      ⟨hrefused, hstate, hrolledBack, hparked, -⟩
  · rw [happlied]
    exact .inl ⟨gate, run, hgate, hpasses, hprepared, hsame, rfl⟩
  · exact .inr ⟨hrefused, hstate, hrolledBack, hparked⟩

/-- The steps of a request that passed can be carried out. -/
theorem PreflightPasses.applicable {fault : BulkApplySite → Option Fault}
    {gate : BulkApplyGate → ScpCaptureGateResult} {bench bench' : Bench}
    {request : ScpProfileApplicationRequest} (h : PreflightPasses fault gate bench request)
    (hsame : bench.SameButSelector bench') : ApplicableSteps request.steps bench'.banks := by
  rw [hsame.banks]
  refine (acceptedRequest_of_validate h.accepted).applicable ?_
  intro cell hcell
  exact h.expected.bankOf_eq hcell.1 hcell.2

/-- Only a run without a failure has passed. -/
theorem finishBulkApply_passed {run : BulkApplyRun} (h : (finishBulkApply run).state = .passed) :
    run.failure = "" := by
  unfold finishBulkApply at h
  dsimp only at h
  split at h
  next hpassed => exact hpassed.1
  · cases h

end Apply

/-- A call that passes has given every banked register its target value, one that reports a verified
rollback has left all of them as they were, and neither touches a register that the request does
not name. -/
theorem applyFw2051ScpProfile_banks (fault : BulkApplySite → Option Fault)
    (cancellationRequested : BulkApplyGate → Bool) (bench : Bench)
    (request : ScpProfileApplicationRequest)
    (ownershipGate : Option (BulkApplyGate → ScpCaptureGateResult)) :
    let applied := applyFw2051ScpProfile fault cancellationRequested bench request ownershipGate
    (applied.1.state = .passed → ∀ quad < 8, ∀ r ∈ scpRegisterOffsets,
      bankOf (applyScpSteps request.steps request.expectedLiveConfiguration.quads) (quad, r) =
        some (applied.2.banks (quad, r))) ∧
    (applied.1.rollbackVerified = true → ∀ quad < 8, ∀ r ∈ scpRegisterOffsets,
      applied.2.banks (quad, r) = bench.banks (quad, r)) ∧
    (applied.1.state = .passed ∨ applied.1.rollbackVerified = true → ∀ cell,
      (∀ step ∈ request.steps, (step.quad.toNat, step.registerOffset) ≠ cell) →
        applied.2.banks cell = bench.banks cell) := by
  intro applied
  rcases applyFw2051ScpProfile_cases fault cancellationRequested bench request ownershipGate with
    ⟨gate, run, -, hpasses, hprepared, hsame, happlied⟩ | ⟨-, hstate, hrollback, -⟩
  · -- the transaction ran: the banks hold the whole plan, or none of it
    have happlicable := hpasses.applicable hsame
    have haccepted := acceptedRequest_of_validate hpasses.accepted
    obtain ⟨hpassed, hrestored⟩ := bulkApplyTransaction_banks fault gate cancellationRequested
      hprepared happlicable
    rw [hsame.banks] at hpassed hrestored
    set final := bulkApplyTransaction fault gate cancellationRequested run request.steps
    have hbench : applied.2 = final.bench := congrArg Prod.snd happlied
    have hresult : applied.1 = finishBulkApply final := congrArg Prod.fst happlied
    have hrollback : applied.1.rollbackVerified = true → applied.2.banks = bench.banks := by
      rw [hresult, hbench]
      exact hrestored
    have hwritten : applied.1.state = .passed → applied.2.banks =
        applyAll (request.steps.map (·.cellWrite)) bench.banks := by
      intro hstate
      rw [hresult] at hstate
      rw [hbench]
      exact hpassed (finishBulkApply_passed hstate)
    refine ⟨?_, ?_, ?_⟩
    · intro hstate quad hquad r hr
      rw [bankOf_applyScpSteps (fun step hstep => (haccepted.inBank step hstep).2)
        haccepted.expected.numbered, hwritten hstate]
      have hlift : request.steps.map (·.write) =
          (request.steps.map (·.cellWrite)).map Write.lift := by
        rw [List.map_map]
        rfl
      rw [hlift]
      refine applyAll_lift (P := fun cell => cell.1 < 8 ∧ cell.2 ∈ scpRegisterOffsets) ?_ ?_
        ⟨hquad, hr⟩
      · intro write hwrite
        obtain ⟨step, hstep, rfl⟩ := List.mem_map.mp hwrite
        exact (haccepted.inBank step hstep).2
      · intro cell hcell
        exact hpasses.expected.bankOf_eq hcell.1 hcell.2
    · intro hverified quad _ r _
      rw [hrollback hverified]
    · rintro (hstate | hverified) cell hcell
      · rw [hwritten hstate, applyAll_of_notMem]
        rw [List.map_map, List.mem_map]
        rintro ⟨step, hstep, hkey⟩
        exact hcell step hstep hkey
      · rw [hrollback hverified]
  · -- the preflight did not pass, and neither verdict is given
    rw [show applied.1.state = .failed from hstate,
      show applied.1.rollbackVerified = false from hrollback]
    refine ⟨?_, ?_, ?_⟩
    · intro h
      cases h
    · intro h
      cases h
    · rintro (h | h)
      · cases h
      · cases h

end Fidget
