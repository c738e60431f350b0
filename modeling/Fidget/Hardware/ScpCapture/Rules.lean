import Fidget.Hardware.ScpCapture.Verified

/-!
# Rules for a capture through given calls

What holds of a capture when something is known of the calls it is given: calls that keep a
condition keep it through the whole capture, and a complete snapshot consists of the very values the
calls have read, each from its own bank.

The rules are for whoever gives the calls: the transaction on a bench, the preparation of a session,
or anything else. One only has to show how single calls behave, and the rule says what follows for
the capture. The proofs go through the capture from its last part to its first.

## Main results

- `CaptureCalls.Keeps`, `captureThrough_keeps`: what every call keeps, a capture keeps, and what a
  write needs is established before each write.
- `CaptureCalls.Traces`, `captureThrough_traces`: where the calls log their readings, a complete
  capture has logged the values of its snapshot, in order.
-/

namespace Fidget

variable {σ : Type} {calls : CaptureCalls σ}

/-! ### A condition that the calls keep

Two conditions are carried along. The one holds throughout; the other is what a write needs, and may
be lost when the gate or a checkpoint refuses, after which the capture writes nothing any more. -/

/-- `I` holds throughout, and `F` as long as writes are allowed: until the gate or a checkpoint says
otherwise. -/
structure CaptureCalls.Keeps (calls : CaptureCalls σ) (I F : σ → Prop) : Prop where
  always : ∀ s, F s → I s
  read : ∀ site registerOffset s, F s → F (calls.readVmeD16 site registerOffset s).2
  write : ∀ site value s, F s → F (calls.writeVmeD16 site fw2051ScpSelectorRegister value s).2
  gate : ∀ site s, F s → I (calls.ownershipGate site s).2 ∧
    ((calls.ownershipGate site s).1.status = .allowed → F (calls.ownershipGate site s).2)
  checkpoint : ∀ checkpoint s, F s → I (calls.checkpoint checkpoint s).2 ∧
    ((calls.checkpoint checkpoint s).1 = true → F (calls.checkpoint checkpoint s).2)

/-- Writes are allowed as long as ownership is certain, which it is before any failure. -/
structure CaptureProgress.Held (I F : σ → Prop) (progress : CaptureProgress σ) : Prop where
  always : I progress.outside
  free : progress.ownershipCertain = true → F progress.outside
  certain : progress.failure = "" → progress.ownershipCertain = true

namespace CaptureProgress

variable {I F : σ → Prop} {progress : CaptureProgress σ}

/-- As long as nothing has failed, the capture is free to write. -/
theorem Held.of_clean (h : Held I F progress) (hclean : progress.failure = "") :
    F progress.outside := h.free (h.certain hclean)

/-- What was read does not matter. -/
theorem Held.withConfiguration (h : Held I F progress)
    (configuration : Fw2051ScpConfigurationSnapshot) :
    Held I F (progress.withConfiguration configuration) := ⟨h.always, h.free, h.certain⟩

/-- The outside may move on as long as it stays free to write. -/
theorem Held.moved (h : Held I F progress) (hcalls : calls.Keeps I F) {outside : σ}
    (houtside : F outside) : Held I F (progress.withOutside outside) :=
  ⟨hcalls.always _ houtside, fun _ => houtside, h.certain⟩

/-- Noting a failure calls nothing. -/
theorem Held.fail (h : Held I F progress) {failure : String} (hfailure : failure ≠ "") :
    Held I F { progress with failure } :=
  ⟨h.always, h.free, fun hclean => absurd hclean hfailure⟩

/-- Nothing more is written after a refusal. -/
theorem held_stopped (hI : I progress.outside) (hfailure : progress.failure ≠ "")
    (hcertain : progress.ownershipCertain = false) : Held I F progress :=
  ⟨hI, fun h => absurd (hcertain.symm.trans h) (by decide), fun h => absurd h hfailure⟩

/-- A checkpoint lets the capture go on or ends it. -/
theorem Held.pass (h : Held I F progress) (hcalls : calls.Keeps I F) (hfree : F progress.outside)
    (checkpoint : ScpCaptureCheckpoint) {failure : String} (hfailure : failure ≠ "") :
    Held I F (progress.pass calls checkpoint failure) := by
  obtain ⟨hI, hF⟩ := hcalls.checkpoint checkpoint progress.outside hfree
  unfold CaptureProgress.pass
  dsimp only
  split
  next hgoesOn => exact h.moved hcalls (hF hgoesOn)
  · exact held_stopped hI hfailure rfl

/-- A reading of a module-wide register. -/
theorem Held.readGlobal (h : Held I F progress) (hcalls : calls.Keeps I F) (read : GlobalRead) :
    Held I F (captureGlobal calls progress read) := by
  unfold captureGlobal
  split
  · exact h
  next hclean =>
    have hread := hcalls.read (.globalRead read.registerOffset) read.registerOffset _
      (h.of_clean (not_not.mp hclean))
    dsimp only
    split
    · exact (h.moved hcalls hread).fail (registerOperationError_ne _ _ _ _)
    · exact ((h.moved hcalls hread).withConfiguration _).pass hcalls hread _ (by decide)

/-- The look at the identity calls nothing. -/
theorem Held.identity (h : Held I F progress) : Held I F (checkIdentity progress) := by
  unfold checkIdentity
  split
  · exact h
  split
  · refine h.fail ?_
    split <;> decide
  split
  · exact h.fail (by decide)
  · exact h

/-- A write of the selector. -/
theorem Held.selector (h : Held I F progress) (hcalls : calls.Keeps I F)
    (hfree : F progress.outside) (site : CaptureSite) (value : UInt16) (parkingWrite : Bool) :
    Held I F (writeSelector calls progress site value parkingWrite).2 ∧
      F (writeSelector calls progress site value parkingWrite).2.outside := by
  have hwritten := hcalls.write site value _ hfree
  exact ⟨(h.moved hcalls hwritten).withConfiguration _, hwritten⟩

/-- A reading from a bank. -/
theorem Held.readRegister (h : Held I F progress) (hcalls : calls.Keeps I F)
    (quadIndex : UInt16) (quad : Fw2051ScpQuadConfiguration)
    (definition : Fw2051ScpSettingDefinition) :
    Held I F (captureRegister calls quadIndex (progress, quad) definition).1 := by
  unfold captureRegister
  dsimp only
  split
  · exact h
  next hclean =>
    have hread := hcalls.read (.bankedRead quadIndex definition.registerOffset)
      definition.registerOffset _ (h.of_clean (not_not.mp hclean))
    split
    · exact (h.moved hcalls hread).fail
        (append_ne (append_ne (append_ne (by decide) _) _) _)
    · split
      · exact (h.moved hcalls hread).fail (by decide)
      · exact (h.moved hcalls hread).pass hcalls hread _
          (append_ne (append_ne (append_ne (by decide) _) _) _)

/-- All readings from a bank. -/
theorem Held.readRegisters (h : Held I F progress) (hcalls : calls.Keeps I F)
    (quadIndex : UInt16) (quad : Fw2051ScpQuadConfiguration)
    (definitions : List Fw2051ScpSettingDefinition) :
    Held I F (definitions.foldl (captureRegister calls quadIndex) (progress, quad)).1 := by
  induction definitions generalizing progress quad with
  | nil => exact h
  | cons definition definitions ih => exact ih (h.readRegister hcalls quadIndex quad definition) _

/-- A bank is selected and read. -/
theorem Held.selectedQuad (h : Held I F progress) (hcalls : calls.Keeps I F)
    (hfree : F progress.outside) (quadIndex : UInt16) :
    Held I F (captureSelectedQuad calls progress quadIndex) := by
  have hattempted : Held I F { progress with selectionAttempted := true } :=
    ⟨h.always, h.free, h.certain⟩
  obtain ⟨hwritten, hstill⟩ := hattempted.selector hcalls hfree (.select quadIndex) quadIndex
    false
  unfold captureSelectedQuad
  split
  next heq =>
    rw [heq] at hwritten
    exact hwritten.fail (registerOperationError_ne _ _ _ _)
  next written heq =>
    rw [heq] at hwritten hstill
    have hsettled : Held I F (written.pass calls
        ⟨.selectorSettled, some quadIndex, fw2051ScpSelectorRegister⟩
        ("SCP configuration capture was interrupted after selecting quad " ++
          toString quadIndex ++ ".")) :=
      hwritten.pass hcalls hstill _ (append_ne (append_ne (by decide) _) _)
    have hcaptured := hsettled.readRegisters hcalls quadIndex { quad := quadIndex }
      fw2051ScpSettingRegistry
    dsimp only
    split
    · exact hcaptured.withConfiguration _
    · exact hcaptured

/-- The gate answers: the capture goes on with writes allowed, or is refused. -/
theorem Held.gate (h : Held I F progress) (hcalls : calls.Keeps I F) (hfree : F progress.outside)
    (site : CaptureGate) {step : CaptureProgress σ → CaptureProgress σ}
    (hstep : ∀ progress, Held I F progress → F progress.outside → Held I F (step progress)) :
    Held I F (
      if (calls.ownershipGate site progress.outside).1.status ≠ .allowed then
        ((progress.withOutside (calls.ownershipGate site progress.outside).2).noteGate
          (calls.ownershipGate site progress.outside).1.status).refuse
            (calls.ownershipGate site progress.outside).1
      else step ((progress.withOutside (calls.ownershipGate site progress.outside).2).noteGate
        (calls.ownershipGate site progress.outside).1.status)) := by
  obtain ⟨hI, hF⟩ := hcalls.gate site progress.outside hfree
  split
  · exact held_stopped hI (captureGateFailureMessage_ne _ (by decide)) rfl
  next hallowed =>
    have hstill := hF (not_not.mp hallowed)
    have hmoved := h.moved hcalls hstill
    exact hstep _ ⟨hmoved.always, hmoved.free, hmoved.certain⟩ hstill

/-- The same behind the gate. -/
theorem Held.quad (h : Held I F progress) (hcalls : calls.Keeps I F) (quadIndex : UInt16) :
    Held I F (captureQuad calls progress quadIndex) := by
  unfold captureQuad
  split
  · exact h
  next hclean =>
    have hfree := h.of_clean (not_not.mp hclean)
    split
    · exact h.gate hcalls hfree (.bank quadIndex)
        fun _ h hfree => h.selectedQuad hcalls hfree quadIndex
    · exact h.selectedQuad hcalls hfree quadIndex

/-- The selector is parked. -/
theorem Held.parkingWrite (h : Held I F progress) (hcalls : calls.Keeps I F)
    (hfree : F progress.outside) : Held I F (captureParkingWrite calls progress) := by
  obtain ⟨hwritten, hstill⟩ := h.selector hcalls hfree .park 0 true
  unfold captureParkingWrite
  split
  next heq =>
    rw [heq] at hwritten
    exact hwritten.fail (appendFailure_ne _ (append_ne (by decide) _))
  next heq =>
    rw [heq] at hwritten hstill
    refine Held.pass ?_ hcalls ?_ _ ?_
    · exact hwritten.withConfiguration _
    · exact hstill
    · exact appendFailure_ne _ (by decide)

/-- The same behind the gate. -/
theorem Held.parking (h : Held I F progress) (hcalls : calls.Keeps I F) :
    Held I F (captureParking calls progress) := by
  unfold captureParking
  split
  next hattempted =>
    rw [Bool.and_eq_true] at hattempted
    exact h.gate hcalls (h.free hattempted.2) .parking
      fun _ h hfree => h.parkingWrite hcalls hfree
  · exact h

/-- All that a capture reads and writes. -/
theorem Held.registers (h : Held I F progress) (hcalls : calls.Keeps I F) :
    Held I F (captureRegisters calls progress) := by
  have hglobals (reads : List GlobalRead) (progress : CaptureProgress σ) (h : Held I F progress) :
      Held I F (reads.foldl (captureGlobal calls) progress) := by
    induction reads generalizing progress with
    | nil => exact h
    | cons read reads ih => exact ih _ (h.readGlobal hcalls read)
  have hquads (quads : List UInt16) (progress : CaptureProgress σ) (h : Held I F progress) :
      Held I F (quads.foldl (captureQuad calls) progress) := by
    induction quads generalizing progress with
    | nil => exact h
    | cons quad quads ih => exact ih _ (h.quad hcalls quad)
  exact (hquads _ _ (hglobals _ _ h).identity).parking hcalls

end CaptureProgress

/-- The verdict calls nothing. -/
theorem CaptureProgress.Held.finish {I F : σ → Prop} {progress : CaptureProgress σ}
    (h : CaptureProgress.Held I F progress) :
    I progress.outside ∧
      ((captureFinish progress).configuration.state = .complete → F progress.outside) := by
  refine ⟨h.always, fun hcomplete => h.of_clean ?_⟩
  by_contra hfailure
  simp [captureFinish, hfailure] at hcomplete

/-- A capture keeps what its calls keep; after a complete one, writes are still allowed. -/
theorem captureThrough_keeps {I F : σ → Prop} (hcalls : calls.Keeps I F) (baseAddress : UInt32)
    {outside : σ} (hfree : F outside) :
    I (captureThrough calls baseAddress outside).2 ∧
      ((captureThrough calls baseAddress outside).1.configuration.state = .complete →
        F (captureThrough calls baseAddress outside).2) := by
  have hfailed {configuration : Fw2051ScpConfigurationSnapshot}
      (h : configuration.state = .failed) : configuration.state = .complete → False := by
    intro hcomplete
    rw [h] at hcomplete
    cases hcomplete
  obtain ⟨hI, hF⟩ := hcalls.gate .snapshot outside hfree
  unfold captureThrough
  split
  · exact ⟨hcalls.always _ hfree, fun h => (hfailed rfl h).elim⟩
  · dsimp only
    split
    · exact ⟨hI, fun h => (hfailed rfl h).elim⟩
    next hallowed =>
      have hstill := hF (not_not.mp hallowed)
      generalize hprogress : captureRegisters calls _ = progress
      have hheld : CaptureProgress.Held I F progress := by
        rw [← hprogress]
        refine CaptureProgress.Held.registers ?_ hcalls
        exact ⟨hcalls.always _ hstill, fun _ => hstill, fun _ => rfl⟩
      exact hheld.finish

/-! ### The values that are read

The caller knows what was read and which bank was selected for certain. The lemmas follow the
snapshot as it grows, and in the end it is made of the values on the caller's list, in order. -/

/-- A value that was read, and the bank that was selected then, if one was for certain. -/
structure BankReading where
  bank : Option UInt16
  registerOffset : UInt16
  value : UInt16
  deriving DecidableEq, Repr

/-- The readings that a bank of the snapshot stands for. -/
def quadReadings (quad : Fw2051ScpQuadConfiguration) : List BankReading :=
  fw2051ScpSettingRegistry.map fun definition =>
    ⟨some quad.quad, definition.registerOffset, registerOrZero quad definition.registerOffset⟩

/-- The values of a snapshot in the order in which they are captured. -/
def snapshotReadings (snapshot : Fw2051ScpConfigurationSnapshot) : List BankReading :=
  [⟨none, 0x6008, snapshot.hardwareId⟩, ⟨none, 0x600E, snapshot.firmwareRevision⟩,
    ⟨none, 0x6010, snapshot.irqLevel⟩, ⟨none, 0x6044, snapshot.outputFormat⟩]
  ++ snapshot.quads.flatMap quadReadings

/-- The caller's state knows what was read so far, and which bank is selected. -/
structure CaptureCalls.Traces (calls : CaptureCalls σ) (bank : σ → Option UInt16)
    (readings : σ → List BankReading) : Prop where
  read : ∀ site registerOffset s value, (calls.readVmeD16 site registerOffset s).1 = .ok value →
    bank (calls.readVmeD16 site registerOffset s).2 = bank s ∧
      readings (calls.readVmeD16 site registerOffset s).2 =
        readings s ++ [⟨bank s, registerOffset, value⟩]
  write : ∀ site value s, (calls.writeVmeD16 site fw2051ScpSelectorRegister value s).1 = none →
    bank (calls.writeVmeD16 site fw2051ScpSelectorRegister value s).2 = some value ∧
      readings (calls.writeVmeD16 site fw2051ScpSelectorRegister value s).2 = readings s
  gate : ∀ site s, bank (calls.ownershipGate site s).2 = bank s ∧
    readings (calls.ownershipGate site s).2 = readings s
  checkpoint : ∀ checkpoint s, bank (calls.checkpoint checkpoint s).2 = bank s ∧
    readings (calls.checkpoint checkpoint s).2 = readings s

namespace CaptureProgress

variable {bank : σ → Option UInt16} {readings : σ → List BankReading}
  {progress : CaptureProgress σ}

/-- A checkpoint that does not fail only moves the outside. -/
theorem pass_clean {checkpoint : ScpCaptureCheckpoint} {failure : String} (hfailure : failure ≠ "")
    (hclean : (progress.pass calls checkpoint failure).failure = "") :
    progress.pass calls checkpoint failure =
      progress.withOutside (calls.checkpoint checkpoint progress.outside).2 := by
  unfold CaptureProgress.pass at hclean ⊢
  dsimp only at hclean ⊢
  split at hclean
  next hgoesOn => rw [if_pos hgoesOn]
  · exact absurd hclean hfailure

/-- A register read for the whole module without a failure. -/
theorem captureGlobal_clean (hcalls : calls.Traces bank readings) {read : GlobalRead}
    (hclean : (captureGlobal calls progress read).failure = "") :
    progress.failure = "" ∧ ∃ value,
      (captureGlobal calls progress read).configuration =
        read.store progress.configuration value ∧
      bank (captureGlobal calls progress read).outside = bank progress.outside ∧
      readings (captureGlobal calls progress read).outside =
        readings progress.outside ++ [⟨bank progress.outside, read.registerOffset, value⟩] := by
  unfold captureGlobal at hclean ⊢
  split at hclean
  next hfailed => exact absurd hclean hfailed
  next hok =>
    rw [if_neg hok]
    dsimp only at hclean ⊢
    split at hclean
    · exact absurd hclean (registerOperationError_ne _ _ _ _)
    next value heq =>
      obtain ⟨hbank, hreadings⟩ := hcalls.read _ _ _ _ heq
      rw [pass_clean (by decide) hclean]
      obtain ⟨hbank', hreadings'⟩ := hcalls.checkpoint
        ⟨.globalRegisterRead, none, read.registerOffset⟩
        (calls.readVmeD16 (.globalRead read.registerOffset) read.registerOffset
          progress.outside).2
      exact ⟨not_not.mp hok, value, rfl, hbank'.trans hbank, hreadings'.trans hreadings⟩

/-- A banked register read without a failure. -/
theorem captureRegister_clean (hcalls : calls.Traces bank readings) {quadIndex : UInt16}
    {quad : Fw2051ScpQuadConfiguration} {definition : Fw2051ScpSettingDefinition}
    (hclean : (captureRegister calls quadIndex (progress, quad) definition).1.failure = "") :
    let after := captureRegister calls quadIndex (progress, quad) definition
    progress.failure = "" ∧ after.1.configuration = progress.configuration ∧
      bank after.1.outside = bank progress.outside ∧ ∃ value,
        setFw2051ScpQuadRegisterValue quad definition.registerOffset value = some after.2 ∧
        readings after.1.outside = readings progress.outside ++
          [⟨bank progress.outside, definition.registerOffset, value⟩] := by
  unfold captureRegister at hclean ⊢
  dsimp only at hclean ⊢
  split at hclean
  next hfailed => exact absurd hclean hfailed
  next hok =>
    rw [if_neg hok]
    split at hclean
    · exact absurd hclean (append_ne (append_ne (append_ne (by decide) _) _) _)
    next value heq =>
      split at hclean
      · exact absurd hclean
          (by decide : "The FW2051 registry does not map every captured value." ≠ "")
      next stored hstored =>
        obtain ⟨hbank, hreadings⟩ := hcalls.read _ _ _ _ heq
        dsimp only at hclean ⊢
        rw [pass_clean (append_ne (append_ne (append_ne (by decide) _) _) _) hclean]
        obtain ⟨hbank', hreadings'⟩ := hcalls.checkpoint
          ⟨.bankedRegisterRead, some quadIndex, definition.registerOffset⟩
          (calls.readVmeD16 (.bankedRead quadIndex definition.registerOffset)
            definition.registerOffset progress.outside).2
        exact ⟨not_not.mp hok, rfl, hbank'.trans hbank, value, hstored, hreadings'.trans hreadings⟩

/-- All registers of a bank read without a failure: the quad has their values. -/
theorem captureBank_clean (hcalls : calls.Traces bank readings) {quadIndex : UInt16}
    {definitions : List Fw2051ScpSettingDefinition} (hnodup : (definitions.map (·.registerOffset)).Nodup)
    {quad : Fw2051ScpQuadConfiguration}
    (hclean : (definitions.foldl (captureRegister calls quadIndex)
      (progress, quad)).1.failure = "") :
    let after := definitions.foldl (captureRegister calls quadIndex) (progress, quad)
    progress.failure = "" ∧ after.1.configuration = progress.configuration ∧
      bank after.1.outside = bank progress.outside ∧ after.2.quad = quad.quad ∧
      (∀ r ∉ definitions.map (·.registerOffset), registerOrZero after.2 r = registerOrZero quad r) ∧
      readings after.1.outside = readings progress.outside ++ definitions.map fun definition =>
        ⟨bank progress.outside, definition.registerOffset,
          registerOrZero after.2 definition.registerOffset⟩ := by
  induction definitions generalizing progress quad with
  | nil => exact ⟨hclean, rfl, rfl, rfl, fun _ _ => rfl, (List.append_nil _).symm⟩
  | cons definition definitions ih =>
      rw [List.map_cons, List.nodup_cons] at hnodup
      rw [List.foldl_cons] at hclean ⊢
      have hstep := @captureRegister_clean σ calls bank readings progress hcalls quadIndex quad
        definition
      generalize captureRegister calls quadIndex (progress, quad) definition = state
        at hclean hstep ⊢
      obtain ⟨first, stored⟩ := state
      obtain ⟨hfirst, hconfiguration, hbank, hquad, hkept, hreadings⟩ := ih hnodup.2 hclean
      obtain ⟨hok, hconfiguration', hbank', value, hstored, hreadings'⟩ := hstep hfirst
      have hvalue (r : UInt16) : registerOrZero stored r =
          if r = definition.registerOffset then value else registerOrZero quad r := by
        rw [registerOrZero, quadRegisterValue_set hstored]
        split <;> rfl
      refine ⟨hok, hconfiguration.trans hconfiguration', hbank.trans hbank',
        hquad.trans (quad_setQuadRegisterValue hstored), fun r hr => ?_, ?_⟩
      · rw [List.map_cons, List.mem_cons, not_or] at hr
        rw [hkept r hr.2, hvalue, if_neg hr.1]
      · rw [hreadings, hreadings', List.append_assoc, List.map_cons, hbank',
          hkept _ hnodup.1, hvalue, if_pos rfl]
        rfl

/-- The snapshot has these quads more; its other values are as they were. -/
structure Grows (quads : List Fw2051ScpQuadConfiguration)
    (before after : Fw2051ScpConfigurationSnapshot) : Prop where
  hardwareId : after.hardwareId = before.hardwareId
  firmwareRevision : after.firmwareRevision = before.firmwareRevision
  irqLevel : after.irqLevel = before.irqLevel
  outputFormat : after.outputFormat = before.outputFormat
  parked : after.selectorParkedAtQuadZero = before.selectorParkedAtQuadZero
  quads : after.quads = before.quads ++ quads

theorem Grows.refl (configuration : Fw2051ScpConfigurationSnapshot) :
    Grows [] configuration configuration := ⟨rfl, rfl, rfl, rfl, rfl, (List.append_nil _).symm⟩

/-- Two stages. -/
theorem Grows.trans {quads quads' : List Fw2051ScpQuadConfiguration}
    {before between after : Fw2051ScpConfigurationSnapshot} (h : Grows quads before between)
    (h' : Grows quads' between after) : Grows (quads ++ quads') before after where
  hardwareId := h'.hardwareId.trans h.hardwareId
  firmwareRevision := h'.firmwareRevision.trans h.firmwareRevision
  irqLevel := h'.irqLevel.trans h.irqLevel
  outputFormat := h'.outputFormat.trans h.outputFormat
  parked := h'.parked.trans h.parked
  quads := by rw [h'.quads, h.quads, List.append_assoc]

/-- A write of the selector that is answered changes the bank and reads nothing. -/
theorem writeSelector_clean (hcalls : calls.Traces bank readings) {site : CaptureSite}
    {value : UInt16} {parkingWrite : Bool} {after : CaptureProgress σ}
    (h : writeSelector calls progress site value parkingWrite = (none, after)) :
    after.failure = progress.failure ∧ Grows [] progress.configuration after.configuration ∧
      bank after.outside = some value ∧ readings after.outside = readings progress.outside := by
  obtain ⟨herror, rfl⟩ := Prod.mk.inj h
  obtain ⟨hbank, hreadings⟩ := hcalls.write site value progress.outside herror
  exact ⟨rfl, ⟨rfl, rfl, rfl, rfl, rfl, (List.append_nil _).symm⟩, hbank, hreadings⟩

/-- A captured bank was read register by register. -/
theorem captureSelectedQuad_clean (hcalls : calls.Traces bank readings) {quadIndex : UInt16}
    (hclean : (captureSelectedQuad calls progress quadIndex).failure = "") :
    let after := captureSelectedQuad calls progress quadIndex
    progress.failure = "" ∧ ∃ quad, Grows [quad] progress.configuration after.configuration ∧
      readings after.outside = readings progress.outside ++ quadReadings quad := by
  unfold captureSelectedQuad at hclean ⊢
  split at hclean
  · exact absurd hclean (registerOperationError_ne _ _ _ _)
  -- the selection was answered, so the bank is this quad's
  next written heq =>
    obtain ⟨hfailure, hgrows, hbank, hreadings⟩ := writeSelector_clean hcalls heq
    dsimp only at hclean ⊢
    split at hclean
    next hcaptured =>
      rw [if_pos hcaptured]
      obtain ⟨hsettled, hkept, -, hquad, -, hreadings'⟩ :=
        captureBank_clean hcalls scpRegisterOffsets_nodup hcaptured
      generalize fw2051ScpSettingRegistry.foldl _ _ = captured at hkept hquad hreadings' ⊢
      -- the checkpoint after the selection touches neither the bank nor the readings
      obtain ⟨hbankPassed, hreadingsPassed⟩ := hcalls.checkpoint
        ⟨.selectorSettled, some quadIndex, fw2051ScpSelectorRegister⟩ written.outside
      have hpassed := pass_clean (append_ne (append_ne (by decide) _) _) hsettled
      rw [hpassed] at hsettled hkept hreadings'
      refine ⟨hfailure.symm.trans hsettled, captured.2, hgrows.trans ?_, ?_⟩
      · have hadded : Grows [captured.2] captured.1.configuration
            { captured.1.configuration with
              quads := captured.1.configuration.quads ++ [captured.2] } :=
          ⟨rfl, rfl, rfl, rfl, rfl, rfl⟩
        rw [hkept] at hadded
        rw [hkept]
        exact hadded
      · show readings captured.1.outside = _
        rw [hreadings', quadReadings, hquad]
        dsimp only [CaptureProgress.outside_withOutside]
        rw [hreadingsPassed, hreadings, hbankPassed, hbank]
    next hfailed => exact absurd hclean hfailed

/-- The same behind the gate. -/
theorem captureQuad_clean (hcalls : calls.Traces bank readings) {quadIndex : UInt16}
    (hclean : (captureQuad calls progress quadIndex).failure = "") :
    let after := captureQuad calls progress quadIndex
    progress.failure = "" ∧ ∃ quad, Grows [quad] progress.configuration after.configuration ∧
      readings after.outside = readings progress.outside ++ quadReadings quad := by
  unfold captureQuad at hclean ⊢
  split at hclean
  next hfailed => exact absurd hclean hfailed
  next hok =>
    rw [if_neg hok]
    split at hclean
    next hasked =>
      rw [if_pos hasked]
      dsimp only at hclean ⊢
      split at hclean
      · exact absurd hclean (captureGateFailureMessage_ne _ (by decide))
      next hallowed =>
        rw [if_neg hallowed]
        obtain ⟨-, quad, hgrows, hreadings⟩ := captureSelectedQuad_clean hcalls hclean
        refine ⟨not_not.mp hok, quad, hgrows, ?_⟩
        rw [hreadings]
        exact congrArg (· ++ quadReadings quad) (hcalls.gate _ _).2
    next hunasked =>
      rw [if_neg hunasked]
      exact captureSelectedQuad_clean hcalls hclean

/-- So were all of them. -/
theorem captureQuads_clean (hcalls : calls.Traces bank readings) {quadIndexes : List UInt16}
    (hclean : (quadIndexes.foldl (captureQuad calls) progress).failure = "") :
    let after := quadIndexes.foldl (captureQuad calls) progress
    progress.failure = "" ∧ ∃ quads, Grows quads progress.configuration after.configuration ∧
      readings after.outside = readings progress.outside ++ quads.flatMap quadReadings := by
  induction quadIndexes generalizing progress with
  | nil => exact ⟨hclean, [], .refl _, (List.append_nil _).symm⟩
  | cons quadIndex quadIndexes ih =>
      obtain ⟨hfirst, quads, hgrows, hreadings⟩ := ih hclean
      obtain ⟨hok, quad, hgrows', hreadings'⟩ := captureQuad_clean hcalls hfirst
      refine ⟨hok, quad :: quads, hgrows'.trans hgrows, ?_⟩
      rw [List.foldl_cons, hreadings, hreadings', List.append_assoc, List.flatMap_cons]

/-- The module-wide registers read without a failure, in the order of the table. -/
theorem captureGlobals_clean (hcalls : calls.Traces bank readings)
    (hclean : (globalReads.foldl (captureGlobal calls) progress).failure = "") :
    let after := globalReads.foldl (captureGlobal calls) progress
    progress.failure = "" ∧ after.configuration.quads = progress.configuration.quads ∧
      after.configuration.selectorParkedAtQuadZero =
        progress.configuration.selectorParkedAtQuadZero ∧
      readings after.outside = readings progress.outside ++
        [⟨bank progress.outside, 0x6008, after.configuration.hardwareId⟩,
          ⟨bank progress.outside, 0x600E, after.configuration.firmwareRevision⟩,
          ⟨bank progress.outside, 0x6010, after.configuration.irqLevel⟩,
          ⟨bank progress.outside, 0x6044, after.configuration.outputFormat⟩] := by
  rw [globalReads, List.foldl_cons, List.foldl_cons, List.foldl_cons, List.foldl_cons,
    List.foldl_nil] at hclean ⊢
  obtain ⟨h₃, value₄, hconfiguration₄, hbank₄, hreadings₄⟩ := captureGlobal_clean hcalls hclean
  obtain ⟨h₂, value₃, hconfiguration₃, hbank₃, hreadings₃⟩ := captureGlobal_clean hcalls h₃
  obtain ⟨h₁, value₂, hconfiguration₂, hbank₂, hreadings₂⟩ := captureGlobal_clean hcalls h₂
  obtain ⟨h₀, value₁, hconfiguration₁, hbank₁, hreadings₁⟩ := captureGlobal_clean hcalls h₁
  dsimp only
  rw [hreadings₄, hreadings₃, hreadings₂, hreadings₁, hbank₃, hbank₂, hbank₁, hconfiguration₄,
    hconfiguration₃, hconfiguration₂, hconfiguration₁, List.append_assoc, List.append_assoc,
    List.append_assoc]
  exact ⟨h₀, rfl, rfl, rfl⟩

/-- An accepted identity leaves the progress as it is. -/
theorem checkIdentity_clean (hclean : (checkIdentity progress).failure = "") :
    checkIdentity progress = progress := by
  unfold checkIdentity at hclean ⊢
  split at hclean
  next hfailed => exact absurd hclean hfailed
  next hok =>
    rw [if_neg hok]
    split at hclean
    · refine absurd hclean ?_
      show (if _ then _ else _) ≠ ""
      split <;> decide
    next happroved =>
      rw [if_neg happroved]
      split at hclean
      · refine absurd hclean ?_
        exact append_ne (by decide) _
      next hfirmware => rw [if_neg hfirmware]

/-- The selector is parked by the last write of all. -/
theorem captureParking_clean (hcalls : calls.Traces bank readings)
    (hclean : (captureParking calls progress).failure = "")
    (hparked : (captureParking calls progress).configuration.selectorParkedAtQuadZero =
      true) :
    let after := captureParking calls progress
    progress.failure = "" ∧ (progress.configuration.selectorParkedAtQuadZero = false →
      snapshotReadings after.configuration = snapshotReadings progress.configuration ∧
        bank after.outside = some 0 ∧ readings after.outside = readings progress.outside) := by
  unfold captureParking at hclean hparked ⊢
  split at hclean
  next hattempted =>
    rw [if_pos hattempted] at hparked ⊢
    dsimp only at hclean hparked ⊢
    split at hclean
    · -- a refused parking is a failure
      exact absurd hclean (captureGateFailureMessage_ne _ (by decide))
    next hallowed =>
      rw [if_neg hallowed] at hparked ⊢
      unfold captureParkingWrite at hclean hparked ⊢
      split at hclean
      · -- so is a lost one
        exact absurd hclean (appendFailure_ne _ (append_ne (by decide) _))
      next written heq =>
        obtain ⟨hfailure, hgrows, hbank, hreadings⟩ := writeSelector_clean hcalls heq
        dsimp only at hclean ⊢
        have hpassed := pass_clean (appendFailure_ne _ (by decide)) hclean
        obtain ⟨hbankPassed, hreadingsPassed⟩ := hcalls.checkpoint
          ⟨.selectorParked, some 0, fw2051ScpSelectorRegister⟩ written.outside
        rw [hpassed] at hclean ⊢
        refine ⟨hfailure.symm.trans hclean, fun _ => ⟨?_, hbankPassed.trans hbank,
          hreadingsPassed.trans (hreadings.trans (hcalls.gate _ _).2)⟩⟩
        have hquads := hgrows.quads
        rw [List.append_nil] at hquads
        show snapshotReadings written.configuration = _
        unfold snapshotReadings
        rw [hgrows.hardwareId, hgrows.firmwareRevision, hgrows.irqLevel, hgrows.outputFormat,
          hquads]
        rfl
  -- no bank was selected, so that the flag is as it was
  next hattempted =>
    rw [if_neg hattempted] at hparked ⊢
    refine ⟨hclean, fun hbefore => ?_⟩
    rw [hbefore] at hparked
    cases hparked

/-- The banks and the parking, once the module-wide registers have been read. -/
theorem captureBanks_clean (hcalls : calls.Traces bank readings) {quadIndexes : List UInt16}
    {after : CaptureProgress σ}
    (hafter : captureParking calls (quadIndexes.foldl (captureQuad calls)
      (checkIdentity progress)) = after)
    (hclean : after.failure = "") (hparked : after.configuration.selectorParkedAtQuadZero = true) :
    progress.failure = "" ∧ (progress.configuration.quads = [] →
      progress.configuration.selectorParkedAtQuadZero = false →
      ∃ quads, snapshotReadings after.configuration =
          snapshotReadings { progress.configuration with quads } ∧
        bank after.outside = some 0 ∧
        readings after.outside = readings progress.outside ++ quads.flatMap quadReadings) := by
  subst hafter
  obtain ⟨hselected, hparking⟩ := captureParking_clean hcalls hclean hparked
  obtain ⟨hidentified, quads, hgrows, hselectedReadings⟩ := captureQuads_clean hcalls hselected
  have hidentity := checkIdentity_clean hidentified
  rw [hidentity] at hidentified hgrows hselectedReadings hparking
  refine ⟨hidentified, fun hquads hbefore => ?_⟩
  obtain ⟨hsnapshot, hbankAfter, hreadings⟩ := hparking (hgrows.parked.trans hbefore)
  rw [hidentity]
  refine ⟨quads, hsnapshot.trans ?_, hbankAfter, hreadings.trans hselectedReadings⟩
  unfold snapshotReadings
  rw [hgrows.hardwareId, hgrows.firmwareRevision, hgrows.irqLevel, hgrows.outputFormat,
    hgrows.quads, hquads, List.nil_append]

/-- The readings of the whole capture. -/
theorem captureRegisters_clean (hcalls : calls.Traces bank readings)
    (hbank : bank progress.outside = none) (hquads : progress.configuration.quads = [])
    (hbefore : progress.configuration.selectorParkedAtQuadZero = false)
    {after : CaptureProgress σ} (hafter : captureRegisters calls progress = after)
    (hclean : after.failure = "") (hparked : after.configuration.selectorParkedAtQuadZero = true) :
    readings after.outside = readings progress.outside ++ snapshotReadings after.configuration ∧
      bank after.outside = some 0 := by
  obtain ⟨hread, hbanks⟩ := captureBanks_clean hcalls hafter hclean hparked
  obtain ⟨-, hglobalQuads, hglobalParked, hglobalReadings⟩ := captureGlobals_clean hcalls hread
  obtain ⟨quads, hsnapshot, hbankAfter, hreadings⟩ :=
    hbanks (hglobalQuads.trans hquads) (hglobalParked.trans hbefore)
  refine ⟨?_, hbankAfter⟩
  rw [hreadings, hsnapshot, hglobalReadings, hbank, List.append_assoc]
  rfl

end CaptureProgress

/-- A complete snapshot consists of the values that were read, in the order they were read, each bank
while it was selected; and the selector is parked. -/
theorem captureThrough_traces {bank : σ → Option UInt16} {readings : σ → List BankReading}
    (hcalls : calls.Traces bank readings) (baseAddress : UInt32) {outside : σ}
    (hbank : bank outside = none)
    (hcomplete : (captureThrough calls baseAddress outside).1.configuration.state = .complete) :
    readings (captureThrough calls baseAddress outside).2 = readings outside ++
        snapshotReadings (captureThrough calls baseAddress outside).1.configuration ∧
      bank (captureThrough calls baseAddress outside).2 = some 0 := by
  obtain ⟨hbankGate, hreadingsGate⟩ := hcalls.gate .snapshot outside
  unfold captureThrough at hcomplete ⊢
  split at hcomplete
  · cases hcomplete
  next haligned =>
    rw [if_neg haligned]
    dsimp only at hcomplete ⊢
    split at hcomplete
    · cases hcomplete
    next hallowed =>
      rw [if_neg hallowed]
      dsimp only at hcomplete ⊢
      have hclean := @CaptureProgress.captureRegisters_clean σ calls bank readings
        { outside := (calls.ownershipGate .snapshot outside).2
          operation := {
            configuration := { state := .reading, baseAddress }
            lastGateStatus := (calls.ownershipGate .snapshot outside).1.status } } hcalls
        (hbankGate.trans hbank) rfl rfl
      generalize hafter : captureRegisters calls _ = progress at hcomplete ⊢
      -- only a capture that ended cleanly with every quad read and the selector parked is complete
      by_cases hdone : progress.failure = "" ∧
          progress.configuration.quads.length = fw2051ScpQuadCount ∧
          progress.configuration.selectorParkedAtQuadZero = true
      · obtain ⟨hreadings, hparked⟩ := hclean hafter hdone.1 hdone.2.2
        exact ⟨hreadings.trans (congrArg (· ++ snapshotReadings progress.configuration)
          hreadingsGate), hparked⟩
      · simp only [captureFinish, if_neg hdone] at hcomplete
        cases hcomplete

end Fidget
