import Fidget.Hardware.ScpCapture.Parking

/-!
# What holds of a capture whatever happens

A capture that fails returns the banks that it had read until then. Each of them was read as a
whole, and with what its calls log this is all that a caller can rely on.

## Main results

- `captureFw2051ScpConfiguration_quads`: what is returned of a bank is what the bank holds.
- `captureFw2051ScpConfiguration_safe`: the guarantees of a capture, with any faults, gate answers
  and checkpoints.
-/

namespace Fidget

/-! ### The quads of a capture that fails

A bank enters the snapshot only when all of its registers were read. So the snapshot of a capture
that fails half way has whole banks, and these are right. -/

section Quads

variable {fault : CaptureSite → Option Fault} {gate : CaptureGate → ScpCaptureGateResult}
  {runtime : ScpCaptureRuntime} {run : CaptureRun}

theorem configuration_captureRegister (quadIndex : UInt16)
    (state : CaptureRun × Fw2051ScpQuadConfiguration)
    (definition : Fw2051ScpSettingDefinition) :
    (captureRegister (.onBench fault gate runtime) quadIndex state definition).1.configuration =
      state.1.configuration := by
  unfold captureRegister
  dsimp only [CaptureCalls.onBench_readVmeD16, CaptureProgress.withOutside_outside]
  split
  · rfl
  · split
    · rfl
    · split
      · rfl
      · rw [CaptureProgress.pass_onBench]
        dsimp only
        split <;> rfl

/-- A bank is added to the snapshot as a whole, or not at all. -/
theorem captureSelectedQuad_quads (quadIndex : UInt16) :
    (captureSelectedQuad (.onBench fault gate runtime) run quadIndex).configuration.quads =
        run.configuration.quads ∨
      (captureSelectedQuad (.onBench fault gate runtime) run quadIndex).failure = "" := by
  have hwritten : (writeSelector (.onBench fault gate runtime)
      { run with selectionAttempted := true } (.select quadIndex) quadIndex
        false).2.configuration.quads = run.configuration.quads := rfl
  unfold captureSelectedQuad
  generalize writeSelector (.onBench fault gate runtime) _ _ _ _ = answer at hwritten ⊢
  obtain ⟨error, written⟩ := answer
  cases error with
  | some error => exact .inl hwritten
  | none =>
      dsimp only at hwritten ⊢
      have hsettled : (written.pass (.onBench fault gate runtime)
          ⟨.selectorSettled, some quadIndex, fw2051ScpSelectorRegister⟩
          ("SCP configuration capture was interrupted after selecting quad " ++
            toString quadIndex ++ ".")).configuration = written.configuration := by
        rw [CaptureProgress.pass_onBench]
        split <;> rfl
      generalize CaptureProgress.pass _ _ _ written = settled at hsettled ⊢
      -- reading the bank adds nothing to the configuration until the quad is complete
      have hread := List.foldlRecOn fw2051ScpSettingRegistry
        (captureRegister (.onBench fault gate runtime) quadIndex)
        (motive := fun state => state.1.configuration = settled.configuration) (b := (settled,
          ({ quad := quadIndex } : Fw2051ScpQuadConfiguration))) rfl
        fun state h definition _ => (configuration_captureRegister quadIndex state definition).trans h
      generalize fw2051ScpSettingRegistry.foldl _ _ = captured at hread ⊢
      split
      next hclean => exact .inr hclean
      · exact .inl ((congrArg (·.quads) (hread.trans hsettled)).trans hwritten)

/-- The banks are those of the module, and so are the quads captured so far. -/
structure QuadsFrom (bench : Bench) (run : CaptureRun) : Prop where
  unparked : Unparked bench run
  quads : ∀ quad ∈ run.configuration.quads,
    quad ∈ captureQuadIndexes.map (quadOfBank bench.banks)

variable {bench : Bench}

theorem quadsFrom_captureSelectedQuad (h : QuadsFrom bench run) (hclean : run.failure = "")
    {quadIndex : UInt16} (hquad : quadIndex ∈ captureQuadIndexes)
    (hgate : quadIndex > 0 ∨ runtime.gateBeforeFirstSelector →
      (gate (.bank quadIndex)).status = .allowed) :
    QuadsFrom bench (captureSelectedQuad (.onBench fault gate runtime) run quadIndex) := by
  refine ⟨unparked_captureSelectedQuad h.unparked quadIndex, fun quad hmem => ?_⟩
  by_cases hundisturbed : QuadUndisturbed fault gate runtime quadIndex
  · rw [captureSelectedQuad_of_undisturbed hclean hundisturbed] at hmem
    rcases List.mem_append.mp hmem with hbefore | hlast
    · exact h.quads quad hbefore
    · rw [List.mem_singleton.mp hlast, h.unparked.1.banks]
      exact List.mem_map_of_mem hquad
  · rcases @captureSelectedQuad_quads fault gate runtime run quadIndex with hkept | hcaptured
    · rw [hkept] at hmem
      exact h.quads quad hmem
    · exact absurd hcaptured (captureSelectedQuad_failure hgate hundisturbed)

theorem quadsFrom_captureQuad (h : QuadsFrom bench run) {quadIndex : UInt16}
    (hquad : quadIndex ∈ captureQuadIndexes) :
    QuadsFrom bench (captureQuad (.onBench fault gate runtime) run quadIndex) := by
  unfold captureQuad
  split
  · exact h
  next hclean =>
    rw [CaptureCalls.onBench_gateBeforeFirstSelector]
    split
    · dsimp only [CaptureCalls.onBench_ownershipGate, CaptureProgress.withOutside_outside]
      split
      · exact ⟨h.unparked, h.quads⟩
      next hallowed =>
        have hnoted : QuadsFrom bench (run.noteGate (gate (.bank quadIndex)).status) :=
          ⟨h.unparked, h.quads⟩
        exact quadsFrom_captureSelectedQuad hnoted (not_not.mp hclean) hquad
          fun _ => not_not.mp hallowed
    next hungated =>
      exact quadsFrom_captureSelectedQuad h (not_not.mp hclean) hquad
        fun hgated => absurd hgated hungated

theorem quadsFrom_captureGlobal (h : QuadsFrom bench run) {read : GlobalRead}
    (hread : read ∈ globalReads) :
    QuadsFrom bench (captureGlobal (.onBench fault gate runtime) run read) := by
  have hquads : ∀ value, (read.store run.configuration value).quads = run.configuration.quads := by
    intro value
    simp only [globalReads, List.mem_cons, List.not_mem_nil, or_false] at hread
    rcases hread with rfl | rfl | rfl | rfl <;> rfl
  refine ⟨unparked_captureGlobal h.unparked hread, ?_⟩
  unfold captureGlobal
  split
  · exact h.quads
  · dsimp only [CaptureCalls.onBench_readVmeD16, CaptureProgress.withOutside_outside]
    split
    · exact h.quads
    next value _ =>
      have hstored : (run.withConfiguration
          (read.store run.configuration value)).configuration.quads = run.configuration.quads :=
        hquads value
      rw [CaptureProgress.pass_onBench]
      split
      · exact fun quad hmem => h.quads quad (hstored ▸ hmem)
      · exact fun quad hmem => h.quads quad (hstored ▸ hmem)

theorem quadsFrom_checkIdentity (h : QuadsFrom bench run) : QuadsFrom bench (checkIdentity run) := by
  refine ⟨unparked_checkIdentity h.unparked, ?_⟩
  unfold checkIdentity
  split
  · exact h.quads
  · split
    · exact h.quads
    · split
      · exact h.quads
      · exact h.quads

theorem quads_captureParking (run : CaptureRun) :
    (captureParking (.onBench fault gate runtime) run).configuration.quads =
      run.configuration.quads := by
  unfold captureParking
  split
  · dsimp only [CaptureCalls.onBench_ownershipGate, CaptureProgress.withOutside_outside]
    split
    · rfl
    · have hwritten : (writeSelector (.onBench fault gate runtime)
          (run.noteGate (gate .parking).status) .park 0 true).2.configuration.quads =
            run.configuration.quads := rfl
      unfold captureParkingWrite
      generalize writeSelector (.onBench fault gate runtime) _ _ _ _ = answer at hwritten ⊢
      obtain ⟨error, written⟩ := answer
      cases error with
      | some error => exact hwritten
      | none =>
          dsimp only
          rw [CaptureProgress.pass_onBench]
          split
          · exact hwritten
          · exact hwritten
  · rfl

theorem quads_captureRegisters (h : QuadsFrom bench run) :
    ∀ quad ∈ (captureRegisters (.onBench fault gate runtime) run).configuration.quads,
      quad ∈ captureQuadIndexes.map (quadOfBank bench.banks) := by
  have hread := List.foldlRecOn globalReads (captureGlobal (.onBench fault gate runtime))
    (motive := QuadsFrom bench) h fun run hrun read hmem => quadsFrom_captureGlobal hrun hmem
  have hcaptured := List.foldlRecOn captureQuadIndexes (captureQuad (.onBench fault gate runtime))
    (motive := QuadsFrom bench) (quadsFrom_checkIdentity hread)
    fun run hrun quad hmem => quadsFrom_captureQuad hrun hmem
  unfold captureRegisters
  rw [quads_captureParking]
  exact hcaptured.quads

end Quads

/-! ### The capture as a whole

The statement is put together: what the log shows, what the banks are, and what the snapshot says.
-/

section Capture

variable (fault : CaptureSite → Option Fault) (bench : Bench) (baseAddress : UInt32)
  (ownershipGate : Option (CaptureGate → ScpCaptureGateResult)) (runtime : ScpCaptureRuntime)

/-- What is returned of a bank is what the bank holds, also when the capture fails. -/
theorem captureFw2051ScpConfiguration_quads :
    ∀ quad ∈ (captureFw2051ScpConfiguration fault bench baseAddress ownershipGate
      runtime).1.configuration.quads, quad ∈ captureQuadIndexes.map (quadOfBank bench.banks) := by
  cases ownershipGate with
  | none =>
      show ∀ quad ∈ (if baseAddress &&& 0xFFFF ≠ 0 then misalignedCapture baseAddress
        else _).configuration.quads, _
      split
      · exact fun _ hmem => absurd hmem List.not_mem_nil
      · exact fun _ hmem => absurd hmem List.not_mem_nil
  | some gate =>
      show ∀ quad ∈ (captureThrough (.onBench fault gate runtime) baseAddress
        bench).1.configuration.quads, _
      unfold captureThrough
      split
      · exact fun _ hmem => absurd hmem List.not_mem_nil
      · dsimp only
        split
        · exact fun _ hmem => absurd hmem List.not_mem_nil
        · generalize hrun : captureRegisters (.onBench fault gate runtime) _ = run
          have hquads : ∀ quad ∈ run.configuration.quads,
              quad ∈ captureQuadIndexes.map (quadOfBank bench.banks) := by
            rw [← hrun]
            apply quads_captureRegisters
            exact ⟨⟨.refl bench, rfl⟩, fun _ hmem => absurd hmem List.not_mem_nil⟩
          exact hquads

/-- The quad has the value of every register of its bank. -/
def QuadHolds (banks : BankCell → UInt16) (quad : Fw2051ScpQuadConfiguration) : Prop :=
  ∀ r ∈ scpRegisterOffsets, fw2051ScpQuadRegisterValue quad r = some (banks (quad.quad.toNat, r))

end Capture

/-- Whatever fails and whatever is refused: a capture writes to the selector alone, and not after a
refusal; what it returns of a bank is the whole bank, also when it fails; a complete capture has all
banks, in order; a selector that it reports as parked is at bank zero; and unless something is
refused, every selection is followed by a parking write. -/
theorem captureFw2051ScpConfiguration_safe (fault : CaptureSite → Option Fault) (bench : Bench)
    (baseAddress : UInt32) (ownershipGate : Option (CaptureGate → ScpCaptureGateResult))
    (runtime : ScpCaptureRuntime) :
    let captured := captureFw2051ScpConfiguration fault bench baseAddress ownershipGate runtime
    let events := captureFw2051ScpConfigurationEvents fault bench baseAddress ownershipGate runtime
    (∀ site registerOffset value, .write site registerOffset value ∈ events →
        registerOffset = fw2051ScpSelectorRegister) ∧
      SendsBeforeRefusals events ∧
      (captured.1.configuration.state = .complete →
        captured.1.configuration.quads.map (·.quad) = captureQuadIndexes ∧
          (∀ quad ∈ captured.1.configuration.quads, QuadHolds captured.2.banks quad) ∧
          captured.2.selector = 0) ∧
      (∀ quad ∈ captured.1.configuration.quads,
        quad.quad ∈ captureQuadIndexes ∧ QuadHolds bench.banks quad) ∧
      (captured.1.configuration.selectorParkedAtQuadZero = true → captured.2.selector = 0) ∧
      ((∀ gate ∈ ownershipGate, ∀ site, (gate site).status = .allowed) →
        (∀ checkpoint, runtime.checkpoint checkpoint = true) →
        ParksAfterSelecting (sentWrites fault events)) := by
  intro captured events
  obtain ⟨hsame, hparked⟩ :=
    captureFw2051ScpConfiguration_selector fault bench baseAddress ownershipGate runtime
  have hquads : ∀ quad ∈ captured.1.configuration.quads,
      quad.quad ∈ captureQuadIndexes ∧ QuadHolds bench.banks quad := by
    intro quad hmem
    obtain ⟨quadIndex, hquad, rfl⟩ := List.mem_map.mp
      (captureFw2051ScpConfiguration_quads fault bench baseAddress ownershipGate runtime quad hmem)
    exact ⟨hquad, fun r hr => quadRegisterValue_quadOfBank hr⟩
  refine ⟨writesSelector_captureFw2051ScpConfigurationEvents fault bench baseAddress ownershipGate
    runtime, sendsBeforeRefusals_captureFw2051ScpConfigurationEvents .., ?_, hquads, hparked, ?_⟩
  · intro hcomplete
    have hfrom := (captureFw2051ScpConfiguration_complete_iff fault bench baseAddress ownershipGate
      runtime).2 hcomplete
    refine ⟨?_, fun quad hmem => ?_, hparked hfrom.parked⟩
    · rw [show captured.1.configuration.quads = _ from hfrom.quads_eq, List.map_map]
      rfl
    · rw [hsame.banks]
      exact (hquads quad hmem).2
  · intro hallowed hpass
    cases ownershipGate with
    | none => trivial
    | some gate =>
        exact captureFw2051ScpConfigurationWrites_park fault bench baseAddress (hallowed gate rfl)
          hpass

end Fidget
