import Fidget.Hardware.ScpCapture
import Fidget.Lib.GuardedLoop
import Fidget.Lib.Lists

/-!
# What a capture says about the module

A capture leaves the banks alone. It is complete exactly when no call to the transport fails, no
gate and no checkpoint refuses and the module is one that may be written to, and then it has read
every bank as it is. Whenever it reports the selector as parked, the selector is at bank zero.

A capture is a sequence of checks and of two nested loops that all do nothing after a failure. Each
check has a lemma that says when it fails (`IdentityApproved`, `RegisterUndisturbed`,
`QuadUndisturbed`, `ParkingUndisturbed`) and what it does otherwise; the loops are instances of
`Lib.GuardedLoop`, so the same two questions are answered for them by one rule.

## Main results

- `guarded_captureRegister`, `guarded_captureQuad`: the two loops of a capture as guarded loops, so
  that one general rule says when they end without a failure.
- `captureRegisters_iff`: the capture of the registers fails exactly when something disturbs it or
  the module is not one that may be written to, and otherwise has read every bank.
- `captureFw2051ScpConfiguration_selector`: the banks are left alone, and a selector that is
  reported as parked is at bank zero.
- `captureFw2051ScpConfiguration_complete_iff`: exactly when a capture is complete.
-/

namespace Fidget

open GuardedLoop

/-! ### Texts are not empty -/

/-- A refusal is reported. -/
theorem captureGateFailureMessage_ne (gate : ScpCaptureGateResult) {fallback : String}
    (h : fallback ≠ "") : captureGateFailureMessage gate fallback ≠ "" := by
  unfold captureGateFailureMessage
  split
  · exact h
  next hmessage => exact hmessage

/-! ### A bank as a quad -/

/-- The values that one bank holds. -/
def quadOfBank (banks : BankCell → UInt16) (quad : UInt16) : Fw2051ScpQuadConfiguration where
  quad := quad
  timingFilter := banks (quad.toNat, 0x6110)
  poleZero := #v[banks (quad.toNat, 0x6112), banks (quad.toNat, 0x6114),
    banks (quad.toNat, 0x6116), banks (quad.toNat, 0x6118)]
  gain := banks (quad.toNat, 0x611A)
  thresholds := #v[banks (quad.toNat, 0x611C), banks (quad.toNat, 0x611E),
    banks (quad.toNat, 0x6120), banks (quad.toNat, 0x6122)]
  shapingTime := banks (quad.toNat, 0x6124)
  baselineRestorer := banks (quad.toNat, 0x6126)
  resetTime := banks (quad.toNat, 0x6128)
  signalRiseTime := banks (quad.toNat, 0x612A)
  preSamples := banks (quad.toNat, 0x6146)
  totalSamples := banks (quad.toNat, 0x6148)
  sampleConfiguration := banks (quad.toNat, 0x614A)

/-- A quad read off a bank has the bank's value for every register. -/
theorem quadRegisterValue_quadOfBank {banks : BankCell → UInt16} {quad r : UInt16}
    (hr : r ∈ scpRegisterOffsets) :
    fw2051ScpQuadRegisterValue (quadOfBank banks quad) r = some (banks (quad.toNat, r)) := by
  rw [mem_scpRegisterOffsets] at hr
  rcases hr with rfl | rfl | rfl | rfl | rfl | rfl | rfl | rfl | rfl | rfl | rfl | rfl | rfl | rfl
    | rfl | rfl | rfl <;> rfl

/-! ### Reading one bank

With the bank selected, the registers of the registry are read one after the other. The values are
stored under the names of the registers, and together they are the bank. -/

section Operation

variable {fault : CaptureSite → Option Fault} {gate : CaptureGate → ScpCaptureGateResult}
  {runtime : ScpCaptureRuntime}

/-- Nothing interferes with the reading of a banked register. -/
def RegisterUndisturbed (fault : CaptureSite → Option Fault) (runtime : ScpCaptureRuntime)
    (quad registerOffset : UInt16) : Prop :=
  fault (.bankedRead quad registerOffset) = none ∧
    runtime.checkpoint ⟨.bankedRegisterRead, some quad, registerOffset⟩ = true

/-- The register is stored under its own name. -/
def storeRegister (state : CaptureProgress Bench × Fw2051ScpQuadConfiguration)
    (definition : Fw2051ScpSettingDefinition) : CaptureProgress Bench × Fw2051ScpQuadConfiguration :=
  (state.1, (setFw2051ScpQuadRegisterValue state.2 definition.registerOffset
    (state.1.outside.read definition.registerOffset)).getD state.2)

/-- The loop over the registers goes on as long as no reading is disturbed. -/
theorem guarded_captureRegister (quad : UInt16) :
    Guarded (fun state : CaptureProgress Bench × Fw2051ScpQuadConfiguration => state.1.failure = "")
      (fun definition => definition.registerOffset ∈ scpRegisterOffsets ∧
        RegisterUndisturbed fault runtime quad definition.registerOffset)
      storeRegister (captureRegister (.onBench fault gate runtime) quad) where
  skip := by
    intro state definition hfailed
    exact if_pos hfailed
  good := by
    intro ⟨run, captured⟩ definition hok ⟨hmem, hfault, hcheckpoint⟩
    obtain ⟨stored, hstored⟩ := Option.isSome_iff_exists.mp
      ((@setQuadRegisterValue_isSome captured definition.registerOffset
        (run.outside.read definition.registerOffset)).mpr hmem)
    refine ⟨?_, hok⟩
    simp only at hok
    simp only [captureRegister, storeRegister, hok, hfault, CaptureCalls.onBench_readVmeD16,
      CaptureProgress.withOutside_outside, CaptureProgress.pass_onBench, Bench.readVmeD16, hstored,
      hcheckpoint, ne_eq, not_true_eq_false, if_false, if_true, Option.getD_some]
  bad := by
    intro ⟨run, captured⟩ definition hok hdisturbed
    simp only at hok
    unfold captureRegister
    simp only [hok, ne_eq, not_true_eq_false, if_false, CaptureCalls.onBench_readVmeD16,
      CaptureProgress.withOutside_outside, CaptureProgress.pass_onBench]
    split
    · -- the reading fails
      apply append_ne
      apply append_ne
      apply append_ne
      decide
    next value hread =>
      split
      · -- a register that the registry does not have
        exact (by decide :
          "The FW2051 registry does not map every captured value." ≠ "")
      next stored hstored =>
        split
        next hcheckpoint =>
          refine absurd ⟨?_, ?_, hcheckpoint⟩ hdisturbed
          · exact setQuadRegisterValue_isSome.mp (by rw [hstored]; rfl)
          · cases hfault : fault (.bankedRead quad definition.registerOffset) with
            | none => rfl
            | some fault =>
                rw [hfault] at hread
                cases hread
        · apply append_ne
          apply append_ne
          apply append_ne
          decide

/-- Storing registers leaves the run alone and puts the value of each register into the quad. -/
theorem foldl_storeRegister {definitions : List Fw2051ScpSettingDefinition}
    (h : ∀ definition ∈ definitions, definition.registerOffset ∈ scpRegisterOffsets)
    (run : CaptureRun) (quad : Fw2051ScpQuadConfiguration) :
    (definitions.foldl storeRegister (run, quad)).1 = run ∧
      (definitions.foldl storeRegister (run, quad)).2.quad = quad.quad ∧
      ∀ r, fw2051ScpQuadRegisterValue (definitions.foldl storeRegister (run, quad)).2 r =
        if r ∈ definitions.map (·.registerOffset) then some (run.outside.read r)
        else fw2051ScpQuadRegisterValue quad r := by
  induction definitions generalizing quad with
  | nil => exact ⟨rfl, rfl, fun r => (if_neg List.not_mem_nil).symm⟩
  | cons definition definitions ih =>
      obtain ⟨stored, hstored⟩ := Option.isSome_iff_exists.mp
        ((@setQuadRegisterValue_isSome quad definition.registerOffset
          (run.outside.read definition.registerOffset)).mpr (h definition List.mem_cons_self))
      have hstep : storeRegister (run, quad) definition = (run, stored) := by
        simp only [storeRegister, hstored, Option.getD_some]
      obtain ⟨hrun, hquad, hvalues⟩ :=
        ih (fun d hd => h d (List.mem_cons_of_mem _ hd)) stored
      rw [List.foldl_cons, hstep]
      refine ⟨hrun, hquad.trans (quad_setQuadRegisterValue hstored), ?_⟩
      intro r
      rw [hvalues r, quadRegisterValue_set hstored, List.map_cons]
      by_cases hlater : r ∈ definitions.map (·.registerOffset)
      · rw [if_pos hlater, if_pos (List.mem_cons_of_mem _ hlater)]
      · rw [if_neg hlater]
        by_cases hr : r = definition.registerOffset
        · rw [if_pos hr, if_pos (by rw [hr]; exact List.mem_cons_self), hr]
        · rw [if_neg hr, if_neg]
          intro hmem
          rcases List.mem_cons.mp hmem with heq | hmem
          · exact hr heq
          · exact hlater hmem

/-- Reading all registers of the selected bank gives that bank. -/
theorem foldl_storeRegister_registry {run : CaptureRun} {quad : UInt16}
    (hselector : run.outside.selector = quad) :
    fw2051ScpSettingRegistry.foldl storeRegister (run, { quad := quad }) =
      (run, quadOfBank run.outside.banks quad) := by
  obtain ⟨hrun, hquad, hvalues⟩ := foldl_storeRegister
    (fun definition hd => registerOffset_mem hd) run { quad := quad }
  refine Prod.ext hrun (quadConfiguration_ext hquad ?_)
  intro r hr
  rw [(hvalues r).trans (if_pos hr), quadRegisterValue_quadOfBank hr, Bench.read_of_banked hr,
    hselector]

/-! ### Capturing one bank

The gate is asked, the selector is written, and the bank is read. The selector write is noted in the
snapshot whether or not it is the first. -/

/-- Nothing interferes with the capture of a bank. -/
structure QuadUndisturbed (fault : CaptureSite → Option Fault)
    (gate : CaptureGate → ScpCaptureGateResult) (runtime : ScpCaptureRuntime) (quad : UInt16) :
    Prop where
  gate : quad > 0 ∨ runtime.gateBeforeFirstSelector → (gate (.bank quad)).status = .allowed
  select : fault (.select quad) = none
  settled : runtime.checkpoint ⟨.selectorSettled, some quad, fw2051ScpSelectorRegister⟩ = true
  registers : ∀ r ∈ scpRegisterOffsets, RegisterUndisturbed fault runtime quad r

/-- The log entry of a selector write that succeeded. -/
def selectorWritten (value : UInt16) (parkingWrite : Bool) : Fw2051ScpSelectorWriteRecord :=
  { value, parkingWrite, success := true, message := "Selector write completed." }

/-- The bank is selected and its values are appended to the snapshot. -/
def selectedQuadEffect (run : CaptureRun) (quad : UInt16) : CaptureRun :=
  { run with
    selectionAttempted := true
    outside := run.outside.write fw2051ScpSelectorRegister quad }.withConfiguration
      { run.configuration with
        selectorWrites := run.configuration.selectorWrites ++ [selectorWritten quad false]
        quads := run.configuration.quads ++ [quadOfBank run.outside.banks quad] }

/-- What capturing a bank does if nothing disturbs it, the gate before it included. -/
def quadEffect (runtime : ScpCaptureRuntime) (run : CaptureRun) (quad : UInt16) : CaptureRun :=
  if quad > 0 ∨ runtime.gateBeforeFirstSelector then
    selectedQuadEffect (run.noteGate .allowed) quad
  else selectedQuadEffect run quad

/-- The run after a selector write that succeeded. -/
def selectorMoved (run : CaptureRun) (value : UInt16) (parkingWrite : Bool) : CaptureRun :=
  { run with outside := run.outside.write fw2051ScpSelectorRegister value }.withConfiguration
    { run.configuration with
      selectorWrites := run.configuration.selectorWrites ++ [selectorWritten value parkingWrite] }

/-- A write of the selector that nothing disturbs takes effect. -/
theorem writeSelector_of_success {run : CaptureRun} {site : CaptureSite}
    (h : fault site = none) (value : UInt16) (parkingWrite : Bool) :
    writeSelector (.onBench fault gate runtime) run site value parkingWrite =
      (none, selectorMoved run value parkingWrite) := by
  unfold writeSelector
  rw [CaptureCalls.onBench_writeVmeD16, h]
  rfl

/-- A disturbed one is reported. -/
theorem writeSelector_of_fault {run : CaptureRun} {site : CaptureSite} {failed : Fault}
    (h : fault site = some failed) (value : UInt16) (parkingWrite : Bool) :
    (writeSelector (.onBench fault gate runtime) run site value parkingWrite).1 =
      some failed.error := by
  unfold writeSelector
  rw [CaptureCalls.onBench_writeVmeD16, h]
  rfl

/-- Selecting a bank and reading it, when nothing interferes. -/
theorem captureSelectedQuad_of_undisturbed {run : CaptureRun} {quad : UInt16}
    (hok : run.failure = "") (h : QuadUndisturbed fault gate runtime quad) :
    captureSelectedQuad (.onBench fault gate runtime) run quad = selectedQuadEffect run quad := by
  let selected := selectorMoved { run with selectionAttempted := true } quad false
  have hbanks : selected.outside.banks = run.outside.banks :=
    Bench.banks_write_of_global Bench.selector_notMem
  have hselector : selected.outside.selector = quad := Bench.selector_write_selector
  have hfold : fw2051ScpSettingRegistry.foldl (captureRegister (.onBench fault gate runtime) quad)
      (selected, { quad := quad }) = (selected, quadOfBank run.outside.banks quad) := by
    have hgood := (@guarded_captureRegister fault gate runtime quad).foldl_of_good
      (show (selected, ({ quad := quad } : Fw2051ScpQuadConfiguration)).1.failure = "" from hok)
      (fun definition hd =>
        ⟨registerOffset_mem hd, h.registers _ (registerOffset_mem hd)⟩)
    rw [hgood.1, foldl_storeRegister_registry hselector, hbanks]
  unfold captureSelectedQuad
  rw [writeSelector_of_success h.select]
  simp only [CaptureProgress.pass_onBench, h.settled, if_true]
  rw [hfold]
  exact if_pos hok

/-- If something interferes, the capture of the bank fails. -/
theorem captureSelectedQuad_failure {run : CaptureRun} {quad : UInt16}
    (hgate : quad > 0 ∨ runtime.gateBeforeFirstSelector →
      (gate (.bank quad)).status = .allowed)
    (h : ¬QuadUndisturbed fault gate runtime quad) :
    (captureSelectedQuad (.onBench fault gate runtime) run quad).failure ≠ "" := by
  unfold captureSelectedQuad
  cases hselect : fault (.select quad) with
  | some failed =>
      have hwrite := @writeSelector_of_fault fault gate runtime
        { run with selectionAttempted := true } (.select quad) failed hselect quad false
      split
      · exact registerOperationError_ne _ _ _ _
      next hnone =>
        rw [hnone] at hwrite
        cases hwrite
  | none =>
      rw [writeSelector_of_success hselect]
      dsimp -zeta only
      rw [CaptureProgress.pass_onBench]
      extract_lets settled
      -- nothing of the bank was disturbed if the loop of readings had ended without a failure
      have hfailed : ¬(fw2051ScpSettingRegistry.foldl
          (captureRegister (.onBench fault gate runtime) quad)
          (settled, { quad := quad })).1.failure = "" := by
        intro hread
        obtain ⟨hgoesOn, hgood⟩ :=
          (@guarded_captureRegister fault gate runtime quad).ok_foldl_iff.mp hread
        refine h ⟨hgate, hselect, ?_, ?_⟩
        · -- an interruption is a failure
          by_contra hsettled
          rw [show settled = CaptureProgress.interrupt _ _ from if_neg hsettled] at hgoesOn
          exact absurd hgoesOn (append_ne (append_ne (by decide) _) _)
        · intro r hr
          obtain ⟨definition, hd, rfl⟩ := List.mem_map.mp hr
          exact (hgood definition hd).2
      generalize fw2051ScpSettingRegistry.foldl
        (captureRegister (.onBench fault gate runtime) quad) (settled, { quad := quad }) = result
        at hfailed ⊢
      obtain ⟨read, captured⟩ := result
      show (if read.failure = "" then _ else read).failure ≠ ""
      rw [if_neg hfailed]
      exact hfailed

/-- The loop over the banks goes on as long as no bank is disturbed. -/
theorem guarded_captureQuad :
    Guarded (fun run : CaptureRun => run.failure = "") (QuadUndisturbed fault gate runtime)
      (quadEffect runtime) (captureQuad (.onBench fault gate runtime)) where
  skip := by
    intro run quad hfailed
    exact if_pos hfailed
  good := by
    intro run quad hok h
    unfold captureQuad quadEffect
    rw [if_neg (not_not_intro hok), CaptureCalls.onBench_gateBeforeFirstSelector]
    split
    -- the first quad asks the gate before its selection
    next hgated =>
      have hallowed := h.gate hgated
      simp only [CaptureCalls.onBench_ownershipGate, CaptureProgress.withOutside_outside, hallowed,
        ne_eq, not_true_eq_false, if_false]
      exact ⟨captureSelectedQuad_of_undisturbed hok h, hok⟩
    · exact ⟨captureSelectedQuad_of_undisturbed hok h, hok⟩
  bad := by
    intro run quad hok h
    unfold captureQuad
    rw [if_neg (not_not_intro hok), CaptureCalls.onBench_gateBeforeFirstSelector]
    split
    next hgated =>
      dsimp only [CaptureCalls.onBench_ownershipGate, CaptureProgress.withOutside_outside]
      split
      · exact captureGateFailureMessage_ne _ (by decide)
      next hallowed =>
        exact captureSelectedQuad_failure (fun _ => not_not.mp hallowed) h
    next hgated =>
      exact captureSelectedQuad_failure (fun hgate => absurd hgate hgated) h

/-! ### The module-wide registers

These are read before any bank, and the identity of the module is judged from them. A module that
may not be written to is left before the selector is touched. -/

/-- Nothing interferes with the reading of a module-wide register. -/
def GlobalUndisturbed (fault : CaptureSite → Option Fault) (runtime : ScpCaptureRuntime)
    (read : GlobalRead) : Prop :=
  fault (.globalRead read.registerOffset) = none ∧
    runtime.checkpoint ⟨.globalRegisterRead, none, read.registerOffset⟩ = true

/-- What reading a module-wide register does if nothing disturbs it. -/
def globalEffect (run : CaptureRun) (read : GlobalRead) : CaptureRun :=
  run.withConfiguration (read.store run.configuration (run.outside.read read.registerOffset))

/-- So does the loop over these registers. -/
theorem guarded_captureGlobal :
    Guarded (fun run : CaptureRun => run.failure = "") (GlobalUndisturbed fault runtime)
      globalEffect (captureGlobal (.onBench fault gate runtime)) where
  skip := by
    intro run read hfailed
    exact if_pos hfailed
  good := by
    intro run read hok ⟨hfault, hcheckpoint⟩
    unfold captureGlobal
    rw [if_neg (not_not_intro hok), CaptureCalls.onBench_readVmeD16, hfault]
    exact ⟨if_pos hcheckpoint, hok⟩
  bad := by
    intro run read hok hdisturbed
    unfold captureGlobal
    rw [if_neg (not_not_intro hok), CaptureCalls.onBench_readVmeD16]
    cases hfault : fault (.globalRead read.registerOffset) with
    | some failed => exact registerOperationError_ne _ _ _ _
    | none =>
        simp only [Bench.readVmeD16, CaptureProgress.pass_onBench]
        split
        next hcheckpoint => exact absurd ⟨hfault, hcheckpoint⟩ hdisturbed
        · exact (by decide : "SCP configuration capture was interrupted after a global " ++
            "register read." ≠ "")

/-- The snapshot with the module-wide values filled in. -/
def withGlobals (configuration : Fw2051ScpConfigurationSnapshot) (bench : Bench) :
    Fw2051ScpConfigurationSnapshot :=
  { configuration with
    hardwareId := bench.registers 0x6008
    firmwareRevision := bench.registers 0x600E
    irqLevel := bench.registers 0x6010
    outputFormat := bench.registers 0x6044 }

/-- The loop reads all of them. -/
theorem foldl_globalEffect (run : CaptureRun) :
    globalReads.foldl globalEffect run =
      run.withConfiguration (withGlobals run.configuration run.outside) := by
  have h1 : run.outside.read 0x6008 = run.outside.registers 0x6008 :=
    Bench.read_of_global (by decide)
  have h2 : run.outside.read 0x600E = run.outside.registers 0x600E :=
    Bench.read_of_global (by decide)
  have h3 : run.outside.read 0x6010 = run.outside.registers 0x6010 :=
    Bench.read_of_global (by decide)
  have h4 : run.outside.read 0x6044 = run.outside.registers 0x6044 :=
    Bench.read_of_global (by decide)
  unfold withGlobals
  rw [← h1, ← h2, ← h3, ← h4]
  rfl

/-- The module is one that may be written to. -/
def IdentityApproved (configuration : Fw2051ScpConfigurationSnapshot) : Prop :=
  isWriteApprovedMdpp32HardwareId configuration.hardwareId = true ∧
    configuration.firmwareRevision = mdpp32ScpFirmwareRevisionFw2051

/-- The module is one that may be written to, or the run has failed. -/
theorem checkIdentity_cases (run : CaptureRun) :
    (run.failure = "" ∧ IdentityApproved run.configuration ∧ checkIdentity run = run) ∨
      (¬(run.failure = "" ∧ IdentityApproved run.configuration) ∧
        (checkIdentity run).failure ≠ "") := by
  unfold checkIdentity
  split
  next hfailed => exact .inr ⟨fun h => hfailed h.1, hfailed⟩
  next hok =>
    split
    next hhardware =>
      refine .inr ⟨?_, ?_⟩
      · rintro ⟨-, happroved, -⟩
        rw [happroved] at hhardware
        cases hhardware
      · simp only
        split <;> decide
    next hhardware =>
      split
      next hfirmware => exact .inr ⟨fun h => hfirmware h.2.2, by simp only; decide⟩
      next hfirmware =>
        exact .inl ⟨not_not.mp hok, ⟨by simpa using hhardware, not_not.mp hfirmware⟩, rfl⟩

/-! ### Parking

The selector is parked at the end, also after a failure, as far as the gate allows it. -/

/-- Nothing interferes with the parking of the selector. -/
structure ParkingUndisturbed (fault : CaptureSite → Option Fault)
    (gate : CaptureGate → ScpCaptureGateResult) (runtime : ScpCaptureRuntime) : Prop where
  gate : (gate .parking).status = .allowed
  park : fault .park = none
  parked : runtime.checkpoint ⟨.selectorParked, some 0, fw2051ScpSelectorRegister⟩ = true

/-- What parking does if nothing disturbs it. -/
def parkedRun (run : CaptureRun) : CaptureRun :=
  let run := selectorMoved (run.noteGate .allowed) 0 true
  run.withConfiguration { run.configuration with selectorParkedAtQuadZero := true }

/-- Undisturbed, the selector is parked. -/
theorem captureParking_of_undisturbed {run : CaptureRun} (hattempted : run.selectionAttempted = true)
    (hcertain : run.ownershipCertain = true) (h : ParkingUndisturbed fault gate runtime) :
    captureParking (.onBench fault gate runtime) run = parkedRun run := by
  unfold captureParking captureParkingWrite
  rw [hattempted, hcertain, CaptureCalls.onBench_ownershipGate]
  simp only [CaptureProgress.withOutside_outside, CaptureProgress.pass_onBench, Bool.and_self,
    if_true, h.gate, ne_eq, not_true_eq_false, if_false,
    writeSelector_of_success h.park, h.parked]
  rfl

/-- Parking does not make a failure go away, and fails itself if something interferes. -/
theorem captureParking_failure {run : CaptureRun}
    (h : run.failure ≠ "" ∨ run.selectionAttempted = true ∧ run.ownershipCertain = true ∧
      ¬ParkingUndisturbed fault gate runtime) :
    (captureParking (.onBench fault gate runtime) run).failure ≠ "" := by
  unfold captureParking
  split
  next hpark =>
    dsimp only [CaptureCalls.onBench_ownershipGate, CaptureProgress.withOutside_outside]
    split
    · exact captureGateFailureMessage_ne _ (by decide)
    next hallowed =>
      unfold captureParkingWrite
      cases hfault : fault .park with
      | some failed =>
          have hwrite := @writeSelector_of_fault fault gate runtime
            (run.noteGate (gate .parking).status) .park failed hfault 0 true
          split
          · apply appendFailure_ne
            apply append_ne
            decide
          next hnone =>
            rw [hnone] at hwrite
            cases hwrite
      | none =>
          rw [writeSelector_of_success hfault]
          simp only [CaptureProgress.pass_onBench]
          split
          next hparked =>
            rcases h with hfailed | ⟨-, -, hdisturbed⟩
            · exact hfailed
            · exact absurd ⟨not_not.mp hallowed, hfault, hparked⟩ hdisturbed
          · exact appendFailure_ne _ (by decide)
  -- the selector is not parked: no bank was selected, or the ownership is gone
  next hpark =>
    rcases h with hfailed | ⟨hattempted, hcertain, -⟩
    · exact hfailed
    · rw [hattempted, hcertain] at hpark
      exact absurd rfl hpark

/-! ### What a capture leaves alone

The only register that a capture writes to is the selector, so no bank changes. As long as the
parking has not come, nothing is claimed about the selector. -/

/-- Up to here at most the selector was moved, and it is not reported as parked. -/
def Unparked (bench : Bench) (run : CaptureRun) : Prop :=
  bench.SameButSelector run.outside ∧ run.configuration.selectorParkedAtQuadZero = false

/-- A write of the selector changes no bank and does not claim to have parked it. -/
theorem unparked_writeSelector {bench : Bench} {run : CaptureRun} (h : Unparked bench run)
    (site : CaptureSite) (value : UInt16) (parkingWrite : Bool) :
    Unparked bench (writeSelector (.onBench fault gate runtime) run site value parkingWrite).2 :=
  ⟨h.1.trans (Bench.sameButSelector_writeVmeD16 ..), h.2⟩

/-- Nor does a checkpoint. -/
theorem unparked_pass {bench : Bench} {run : CaptureRun} (h : Unparked bench run)
    (checkpoint : ScpCaptureCheckpoint) (failure : String) :
    Unparked bench (run.pass (.onBench fault gate runtime) checkpoint failure) := by
  rw [CaptureProgress.pass_onBench]
  split
  · exact h
  · exact h

/-- Nor does a reading of a module-wide register. -/
theorem unparked_captureGlobal {bench : Bench} {run : CaptureRun} (h : Unparked bench run)
    {read : GlobalRead} (hread : read ∈ globalReads) :
    Unparked bench (captureGlobal (.onBench fault gate runtime) run read) := by
  have hflag : ∀ value, (read.store run.configuration value).selectorParkedAtQuadZero =
      run.configuration.selectorParkedAtQuadZero := by
    intro value
    simp only [globalReads, List.mem_cons, List.not_mem_nil, or_false] at hread
    rcases hread with rfl | rfl | rfl | rfl <;> rfl
  unfold captureGlobal
  split
  · exact h
  · dsimp only [CaptureCalls.onBench_readVmeD16, CaptureProgress.withOutside_outside]
    split
    · exact h
    · apply unparked_pass
      exact ⟨h.1, (hflag _).trans h.2⟩

/-- Nor does the look at the identity. -/
theorem unparked_checkIdentity {bench : Bench} {run : CaptureRun} (h : Unparked bench run) :
    Unparked bench (checkIdentity run) := by
  unfold checkIdentity
  split
  · exact h
  · split
    · exact h
    · split <;> exact h

/-- Nor does a reading from a bank. -/
theorem unparked_captureRegister {bench : Bench}
    {state : CaptureProgress Bench × Fw2051ScpQuadConfiguration} (h : Unparked bench state.1) (quad : UInt16)
    (definition : Fw2051ScpSettingDefinition) :
    Unparked bench (captureRegister (.onBench fault gate runtime) quad state definition).1 := by
  unfold captureRegister
  dsimp only [CaptureCalls.onBench_readVmeD16, CaptureProgress.withOutside_outside]
  split
  · exact h
  · split
    · exact h
    · split
      · exact h
      · exact @unparked_pass fault gate runtime bench state.1 h _ _

/-- Nor do all readings from it. -/
theorem unparked_captureSelectedQuad {bench : Bench} {run : CaptureRun} (h : Unparked bench run)
    (quad : UInt16) :
    Unparked bench (captureSelectedQuad (.onBench fault gate runtime) run quad) := by
  have hselected : Unparked bench { run with selectionAttempted := true } := h
  have hwritten := @unparked_writeSelector fault gate runtime _ _ hselected (.select quad) quad false
  unfold captureSelectedQuad
  split
  next hwrite =>
    rw [hwrite] at hwritten
    exact hwritten
  next written hwrite =>
    rw [hwrite] at hwritten
    have hsettled := @unparked_pass fault gate runtime bench written hwritten
      ⟨.selectorSettled, some quad, fw2051ScpSelectorRegister⟩
      ("SCP configuration capture was interrupted after selecting quad " ++ toString quad ++ ".")
    dsimp only
    generalize CaptureProgress.pass _ _ _ written = settled at hsettled ⊢
    have hread := List.foldlRecOn fw2051ScpSettingRegistry
      (captureRegister (.onBench fault gate runtime) quad)
      (motive := fun state => Unparked bench state.1)
      (show Unparked bench (settled, ({ quad := quad } : Fw2051ScpQuadConfiguration)).1 from
        hsettled)
      (fun state hstate definition _ => unparked_captureRegister hstate quad definition)
    generalize fw2051ScpSettingRegistry.foldl (captureRegister (.onBench fault gate runtime) quad)
      (settled, { quad := quad }) = result at hread ⊢
    obtain ⟨read, captured⟩ := result
    show Unparked bench (if read.failure = "" then _ else read)
    split
    · exact hread
    · exact hread

/-- Nor does the gate before them. -/
theorem unparked_captureQuad {bench : Bench} {run : CaptureRun} (h : Unparked bench run)
    (quad : UInt16) : Unparked bench (captureQuad (.onBench fault gate runtime) run quad) := by
  unfold captureQuad
  split
  · exact h
  · split
    · dsimp only [CaptureCalls.onBench_ownershipGate, CaptureProgress.withOutside_outside]
      split
      · exact h
      · have hnoted : Unparked bench (run.noteGate (gate (.bank quad)).status) := h
        exact unparked_captureSelectedQuad hnoted quad
    · exact unparked_captureSelectedQuad h quad

/-- A selector that is reported as parked is at bank zero. -/
theorem captureParking_selector {bench : Bench} {run : CaptureRun} (h : Unparked bench run) :
    bench.SameButSelector (captureParking (.onBench fault gate runtime) run).outside ∧
      ((captureParking (.onBench fault gate runtime)
          run).configuration.selectorParkedAtQuadZero = true →
        (captureParking (.onBench fault gate runtime) run).outside.selector = 0) := by
  -- as long as the flag is down, nothing is said about the selector
  have hunparked : ∀ run' : CaptureRun, Unparked bench run' →
      bench.SameButSelector run'.outside ∧
        (run'.configuration.selectorParkedAtQuadZero = true → run'.outside.selector = 0) := by
    intro run' h'
    refine ⟨h'.1, ?_⟩
    intro hparked
    rw [h'.2] at hparked
    cases hparked
  unfold captureParking
  split
  · dsimp only [CaptureCalls.onBench_ownershipGate, CaptureProgress.withOutside_outside]
    split
    · exact hunparked _ h
    · unfold captureParkingWrite
      have hwritten := @unparked_writeSelector fault gate runtime _ _
        (show Unparked bench (run.noteGate (gate .parking).status) from h) .park 0 true
      cases hfault : fault .park with
      | some failed =>
          have herror := @writeSelector_of_fault fault gate runtime
            (run.noteGate (gate .parking).status) .park failed hfault 0 true
          split
          next error written hwrite =>
            rw [hwrite] at hwritten
            exact hunparked { written with failure := _ } hwritten
          next written hwrite =>
            rw [hwrite] at herror
            cases herror
      | none =>
          rw [writeSelector_of_success hfault] at hwritten ⊢
          simp only [CaptureProgress.pass_onBench]
          split
          · exact ⟨hwritten.1, fun _ => Bench.selector_write_selector⟩
          · exact ⟨hwritten.1, fun _ => Bench.selector_write_selector⟩
  · exact hunparked _ h

/-! ### A complete capture

The parts put together. The condition is on the faults, the answers of the gate and the checkpoints,
and the identity of the module; nothing in it is computed by the capture. -/

/-- What the capture of some banks does to a run: their values are appended. -/
structure QuadsAppended (run run' : CaptureRun) (quads : List UInt16) : Prop where
  failure : run'.failure = run.failure
  ownershipCertain : run'.ownershipCertain = run.ownershipCertain
  selectionAttempted : quads ≠ [] → run'.selectionAttempted = true
  banks : run'.outside.banks = run.outside.banks
  configuration : ∃ selectorWrites, run'.configuration = { run.configuration with
    selectorWrites
    quads := run.configuration.quads ++ quads.map (quadOfBank run.outside.banks) }

/-- A captured bank is appended. -/
theorem quadsAppended_quadEffect (run : CaptureRun) (quad : UInt16) :
    QuadsAppended run (quadEffect runtime run quad) [quad] := by
  have hbanks : (run.outside.write fw2051ScpSelectorRegister quad).banks = run.outside.banks :=
    Bench.banks_write_of_global Bench.selector_notMem
  unfold quadEffect
  split
  · exact ⟨rfl, rfl, fun _ => rfl, hbanks, _, rfl⟩
  · exact ⟨rfl, rfl, fun _ => rfl, hbanks, _, rfl⟩

/-- The loop appends one after the other. -/
theorem quadsAppended_foldl (run : CaptureRun) (quads : List UInt16) :
    QuadsAppended run (quads.foldl (quadEffect runtime) run) quads := by
  induction quads generalizing run with
  | nil =>
      refine ⟨rfl, rfl, fun h => absurd rfl h, rfl, run.configuration.selectorWrites, ?_⟩
      rw [List.map_nil, List.append_nil]
      rfl
  | cons quad quads ih =>
      have hfirst := @quadsAppended_quadEffect runtime run quad
      have hrest := ih (quadEffect runtime run quad)
      rw [List.foldl_cons]
      refine ⟨hrest.failure.trans hfirst.failure,
        hrest.ownershipCertain.trans hfirst.ownershipCertain, ?_,
        hrest.banks.trans hfirst.banks, ?_⟩
      · intro _
        by_cases hnil : quads = []
        · rw [hnil]
          exact hfirst.selectionAttempted (List.cons_ne_nil _ _)
        · exact hrest.selectionAttempted hnil
      · obtain ⟨writes, hwrites⟩ := hfirst.configuration
        obtain ⟨writes', hwrites'⟩ := hrest.configuration
        refine ⟨writes', ?_⟩
        rw [hwrites', hfirst.banks, hwrites]
        simp only [List.map_cons, List.map_nil, List.append_assoc, List.singleton_append]

/-- Nothing interferes with a capture. -/
structure CaptureUndisturbed (fault : CaptureSite → Option Fault)
    (gate : CaptureGate → ScpCaptureGateResult) (runtime : ScpCaptureRuntime) : Prop where
  globals : ∀ read ∈ globalReads, GlobalUndisturbed fault runtime read
  quads : ∀ quad ∈ captureQuadIndexes, QuadUndisturbed fault gate runtime quad
  parking : ParkingUndisturbed fault gate runtime

/-- The snapshot holds what the module holds, and reports the selector as parked. -/
structure CapturedFrom (bench : Bench) (baseAddress : UInt32)
    (configuration : Fw2051ScpConfigurationSnapshot) : Prop where
  baseAddress_eq : configuration.baseAddress = baseAddress
  hardwareId_eq : configuration.hardwareId = bench.registers 0x6008
  firmwareRevision_eq : configuration.firmwareRevision = bench.registers 0x600E
  irqLevel_eq : configuration.irqLevel = bench.registers 0x6010
  outputFormat_eq : configuration.outputFormat = bench.registers 0x6044
  quads_eq : configuration.quads = captureQuadIndexes.map (quadOfBank bench.banks)
  parked : configuration.selectorParkedAtQuadZero = true

/-- The run proper fails exactly when something interferes or the module is not approved. -/
theorem captureRegisters_iff {run : CaptureRun} (hok : run.failure = "")
    (hcertain : run.ownershipCertain = true) (hquads : run.configuration.quads = []) :
    ((captureRegisters (.onBench fault gate runtime) run).failure = "" ↔
        CaptureUndisturbed fault gate runtime ∧
          IdentityApproved (withGlobals run.configuration run.outside)) ∧
      ((captureRegisters (.onBench fault gate runtime) run).failure = "" →
        CapturedFrom run.outside run.configuration.baseAddress
          (captureRegisters (.onBench fault gate runtime) run).configuration) := by
  have hglobals := @guarded_captureGlobal fault gate runtime
  have hguarded := @guarded_captureQuad fault gate runtime
  unfold captureRegisters
  by_cases hundisturbed : CaptureUndisturbed fault gate runtime ∧
      IdentityApproved (withGlobals run.configuration run.outside)
  · obtain ⟨hcapture, hidentity⟩ := hundisturbed
    obtain ⟨hread, hreadOk⟩ := hglobals.foldl_of_good hok hcapture.globals
    rw [hread, foldl_globalEffect]
    rw [foldl_globalEffect] at hreadOk
    have hchecked : checkIdentity
        (run.withConfiguration (withGlobals run.configuration run.outside)) =
          run.withConfiguration (withGlobals run.configuration run.outside) := by
      rcases checkIdentity_cases
        (run.withConfiguration (withGlobals run.configuration run.outside)) with
        ⟨-, -, heq⟩ | ⟨hnot, -⟩
      · exact heq
      · exact absurd ⟨hok, hidentity⟩ hnot
    obtain ⟨hfold, hfoldOk⟩ := hguarded.foldl_of_good hreadOk hcapture.quads
    have happended := @quadsAppended_foldl runtime
      (run.withConfiguration (withGlobals run.configuration run.outside)) captureQuadIndexes
    rw [hchecked, hfold, captureParking_of_undisturbed
      (happended.selectionAttempted (List.cons_ne_nil _ _))
      (happended.ownershipCertain.trans hcertain) hcapture.parking]
    obtain ⟨writes, hconfiguration⟩ := happended.configuration
    have hfailure : (parkedRun (captureQuadIndexes.foldl (quadEffect runtime)
        (run.withConfiguration (withGlobals run.configuration run.outside)))).failure = "" := hfoldOk
    refine ⟨⟨fun _ => ⟨hcapture, hidentity⟩, fun _ => hfailure⟩, fun _ => ?_⟩
    generalize captureQuadIndexes.foldl (quadEffect runtime)
      (run.withConfiguration (withGlobals run.configuration run.outside)) = captured
      at hconfiguration ⊢
    have hparked : (parkedRun captured).configuration = { captured.configuration with
        selectorWrites := captured.configuration.selectorWrites ++ [selectorWritten 0 true]
        selectorParkedAtQuadZero := true } := rfl
    rw [hparked, hconfiguration]
    refine ⟨rfl, rfl, rfl, rfl, rfl, ?_, rfl⟩
    show run.configuration.quads ++ captureQuadIndexes.map (quadOfBank run.outside.banks) = _
    rw [hquads, List.nil_append]
  · -- Some phase fails, and no later one takes that back.
    have hfailed : (captureParking (.onBench fault gate runtime) (captureQuadIndexes.foldl
        (captureQuad (.onBench fault gate runtime)) (checkIdentity
          (globalReads.foldl (captureGlobal (.onBench fault gate runtime)) run)))).failure ≠ "" := by
      by_contra hsuccess
      apply hundisturbed
      have hbefore : (captureQuadIndexes.foldl (captureQuad (.onBench fault gate runtime))
          (checkIdentity (globalReads.foldl (captureGlobal (.onBench fault gate runtime))
            run))).failure = "" := by
        by_contra hfailed
        exact captureParking_failure (.inl hfailed) hsuccess
      obtain ⟨hchecked, hcaptured⟩ := hguarded.ok_foldl_iff.mp hbefore
      rcases checkIdentity_cases
        (globalReads.foldl (captureGlobal (.onBench fault gate runtime)) run) with
        ⟨hreadOk, hidentity, heq⟩ | ⟨-, hfailed⟩
      · obtain ⟨-, hread⟩ := hglobals.ok_foldl_iff.mp hreadOk
        have hfold := (hglobals.foldl_of_good hok hread).1
        rw [heq, hfold, foldl_globalEffect] at hsuccess hbefore
        rw [hfold, foldl_globalEffect] at hidentity
        refine ⟨⟨hread, hcaptured, ?_⟩, hidentity⟩
        by_contra hparking
        have happended := @quadsAppended_foldl runtime
          (run.withConfiguration (withGlobals run.configuration run.outside)) captureQuadIndexes
        have hquadFold := (hguarded.foldl_of_good
          (show (run.withConfiguration (withGlobals run.configuration run.outside)).failure = ""
            from hok) hcaptured).1
        rw [hquadFold] at hsuccess
        exact captureParking_failure (.inr ⟨happended.selectionAttempted (List.cons_ne_nil _ _),
          happended.ownershipCertain.trans hcertain, hparking⟩) hsuccess
      · exact absurd hchecked hfailed
    exact ⟨⟨fun h => absurd h hfailed, fun h => absurd h hundisturbed⟩,
      fun h => absurd h hfailed⟩

/-- Up to the parking the banks are left alone, and the parking tells the truth. -/
theorem captureRegisters_selector {bench : Bench} {run : CaptureRun} (h : Unparked bench run) :
    bench.SameButSelector (captureRegisters (.onBench fault gate runtime) run).outside ∧
      ((captureRegisters (.onBench fault gate runtime)
          run).configuration.selectorParkedAtQuadZero = true →
        (captureRegisters (.onBench fault gate runtime) run).outside.selector = 0) := by
  have hread := List.foldlRecOn globalReads (captureGlobal (.onBench fault gate runtime))
    (motive := Unparked bench) h (fun run hrun read hmem => unparked_captureGlobal hrun hmem)
  have hcaptured := List.foldlRecOn captureQuadIndexes (captureQuad (.onBench fault gate runtime))
    (motive := Unparked bench) (unparked_checkIdentity hread)
    (fun run hrun quad _ => unparked_captureQuad hrun quad)
  exact captureParking_selector hcaptured

/-- A capture without a failure is complete. -/
theorem captureFinish_state {run : CaptureRun} {baseAddress : UInt32} {bench : Bench}
    (h : run.failure = "" → CapturedFrom bench baseAddress run.configuration) :
    (captureFinish run).configuration.state = .complete ↔ run.failure = "" := by
  have hstate : (captureFinish run).configuration.state =
      if run.failure = "" ∧ run.configuration.quads.length = fw2051ScpQuadCount ∧
        run.configuration.selectorParkedAtQuadZero = true then .complete else .failed := rfl
  rw [hstate]
  constructor
  · intro hcomplete
    by_contra hfailed
    rw [if_neg (fun hall => hfailed hall.1)] at hcomplete
    cases hcomplete
  · intro hok
    have hcaptured := h hok
    refine if_pos ⟨hok, ?_, hcaptured.parked⟩
    rw [hcaptured.quads_eq, List.length_map]
    rfl

/-- The closing message changes none of the readings. -/
theorem CapturedFrom.finish {run : CaptureRun} {baseAddress : UInt32} {bench : Bench}
    (h : CapturedFrom bench baseAddress run.configuration) :
    CapturedFrom bench baseAddress (captureFinish run).configuration :=
  ⟨h.baseAddress_eq, h.hardwareId_eq, h.firmwareRevision_eq, h.irqLevel_eq, h.outputFormat_eq,
    h.quads_eq, h.parked⟩

end Operation

/-! ### The capture as a whole -/

section Capture

variable (fault : CaptureSite → Option Fault) (bench : Bench) (baseAddress : UInt32)
  (ownershipGate : Option (CaptureGate → ScpCaptureGateResult)) (runtime : ScpCaptureRuntime)

/-- The operation starts on the module with an empty snapshot. -/
def captureStart (gate : CaptureGate → ScpCaptureGateResult) : CaptureRun :=
  { outside := bench
    operation := {
      configuration := { state := .reading, baseAddress }
      lastGateStatus := (gate .snapshot).status } }

/-- A capture is refused before it sends anything, or runs. -/
theorem captureFw2051ScpConfiguration_cases :
    let captured := captureFw2051ScpConfiguration fault bench baseAddress ownershipGate runtime
    (∃ gate, baseAddress &&& 0xFFFF = 0 ∧ ownershipGate = some gate ∧
        (gate .snapshot).status = .allowed ∧
        captured = (captureFinish (captureRegisters (.onBench fault gate runtime)
            (captureStart bench baseAddress gate)),
          (captureRegisters (.onBench fault gate runtime)
            (captureStart bench baseAddress gate)).outside)) ∨
      (¬(∃ gate, baseAddress &&& 0xFFFF = 0 ∧ ownershipGate = some gate ∧
          (gate .snapshot).status = .allowed) ∧
        captured.1.configuration.state = .failed ∧
        captured.1.configuration.selectorParkedAtQuadZero = false ∧ captured.2 = bench) := by
  cases ownershipGate with
  | none =>
      right
      have hcaptured : captureFw2051ScpConfiguration fault bench baseAddress none runtime =
          (if baseAddress &&& 0xFFFF ≠ 0 then misalignedCapture baseAddress else _, bench) := rfl
      refine ⟨?_, ?_, ?_, rfl⟩
      · rintro ⟨gate, -, hgate, -⟩
        cases hgate
      · rw [hcaptured]
        dsimp only
        split <;> rfl
      · rw [hcaptured]
        dsimp only
        split <;> rfl
  | some gate =>
      intro captured
      have hcaptured : captured =
        captureThrough (.onBench fault gate runtime) baseAddress bench := rfl
      clear_value captured
      subst hcaptured
      unfold captureThrough
      split
      next hbase =>
        right
        refine ⟨?_, rfl, rfl, rfl⟩
        rintro ⟨gate', haligned, -⟩
        exact hbase haligned
      next hbase =>
        dsimp only [CaptureCalls.onBench_ownershipGate]
        split
        -- the gate refuses before the first call
        next hdenied =>
          right
          refine ⟨?_, rfl, rfl, rfl⟩
          rintro ⟨gate', -, hgate, hallowed⟩
          cases hgate
          exact hdenied hallowed
        next hallowed =>
          left
          exact ⟨gate, not_not.mp hbase, rfl, not_not.mp hallowed, rfl⟩

/-- A capture moves the selector at most, and when it reports it as parked it is at bank zero. -/
theorem captureFw2051ScpConfiguration_selector :
    let captured := captureFw2051ScpConfiguration fault bench baseAddress ownershipGate runtime
    bench.SameButSelector captured.2 ∧
      (captured.1.configuration.selectorParkedAtQuadZero = true → captured.2.selector = 0) := by
  intro captured
  rcases captureFw2051ScpConfiguration_cases fault bench baseAddress ownershipGate runtime with
    ⟨gate, -, -, -, hcaptured⟩ | ⟨-, -, hflag, hbench⟩
  · have hstart : Unparked bench (captureStart bench baseAddress gate) := ⟨.refl bench, rfl⟩
    have hselector := @captureRegisters_selector fault gate runtime _ _ hstart
    generalize captureRegisters (.onBench fault gate runtime)
      (captureStart bench baseAddress gate) = run at hselector hcaptured
    rw [show captured = _ from hcaptured]
    exact hselector
  · rw [show captured.2 = bench from hbench]
    refine ⟨.refl bench, ?_⟩
    intro hparked
    rw [show captured.1.configuration.selectorParkedAtQuadZero = false from hflag] at hparked
    cases hparked

/-- A capture is complete exactly when it is admitted, nothing interferes, and the module is
approved. Then the snapshot holds what the module held. -/
theorem captureFw2051ScpConfiguration_complete_iff :
    let captured := captureFw2051ScpConfiguration fault bench baseAddress ownershipGate runtime
    (captured.1.configuration.state = .complete ↔ ∃ gate, baseAddress &&& 0xFFFF = 0 ∧
        ownershipGate = some gate ∧ (gate .snapshot).status = .allowed ∧
        CaptureUndisturbed fault gate runtime ∧
        isWriteApprovedMdpp32HardwareId (bench.registers 0x6008) = true ∧
        bench.registers 0x600E = mdpp32ScpFirmwareRevisionFw2051) ∧
      (captured.1.configuration.state = .complete →
        CapturedFrom bench baseAddress captured.1.configuration) := by
  intro captured
  rcases captureFw2051ScpConfiguration_cases fault bench baseAddress ownershipGate runtime with
    ⟨gate, hbase, hgate, hallowed, hcaptured⟩ | ⟨hrefused, hstate, -, -⟩
  · obtain ⟨hiff, hfrom⟩ := @captureRegisters_iff fault gate runtime
      (captureStart bench baseAddress gate) rfl rfl rfl
    have hstate := captureFinish_state hfrom
    generalize captureRegisters (.onBench fault gate runtime)
      (captureStart bench baseAddress gate) = run at hiff hfrom hstate hcaptured
    rw [show captured = _ from hcaptured]
    constructor
    · rw [hstate, hiff]
      constructor
      · rintro ⟨hundisturbed, hhardware, hfirmware⟩
        exact ⟨gate, hbase, hgate, hallowed, hundisturbed, hhardware, hfirmware⟩
      · rintro ⟨gate', -, hgate', -, hundisturbed, hhardware, hfirmware⟩
        rw [hgate] at hgate'
        cases hgate'
        exact ⟨hundisturbed, hhardware, hfirmware⟩
    · intro hcomplete
      exact (hfrom (hstate.mp hcomplete)).finish
  · -- refused, and nothing was read
    rw [show captured.1.configuration.state = .failed from hstate]
    refine ⟨⟨?_, ?_⟩, ?_⟩
    · intro hcomplete
      cases hcomplete
    · rintro ⟨gate, hbase, hgate, hallowed, -⟩
      exact absurd ⟨gate, hbase, hgate, hallowed⟩ hrefused
    · intro hcomplete
      cases hcomplete

end Capture

end Fidget
