import Fidget.Hardware.ScpCapture.Events

/-!
# Whether a capture parks the selector

Before a capture writes to the selector it notes that it will: whatever becomes of the write, the
selector is parked in the end, unless the gate or a checkpoint forbids it.

## Main results

- `CaptureProgress.Noted`: as long as no selection is noted, nothing has been sent.
- `parks_captureRegisters`: what the steps make of it, and what parking does then.
- `captureFw2051ScpConfigurationWrites_park`: a capture that is allowed everything parks the
  selector after every selection.
-/

namespace Fidget

section Logged

variable {σ : Type} {calls : CaptureCalls σ} (fault : CaptureSite → Option Fault)

/-- Gate and checkpoints let everything pass. -/
structure CaptureCalls.Admits (calls : CaptureCalls σ) : Prop where
  gate : ∀ site s, (calls.ownershipGate site s).1.status = .allowed
  checkpoint : ∀ checkpoint s, (calls.checkpoint checkpoint s).1 = true

theorem CaptureCalls.Admits.logged (h : calls.Admits) : calls.logged.Admits where
  gate := fun site s => h.gate site s.1
  checkpoint := fun checkpoint s => h.checkpoint checkpoint s.1

namespace CaptureProgress

variable {progress progress' : CaptureProgress (σ × List CaptureEvent)}

/-! ### The writes sent so far -/

def sent (progress : CaptureProgress (σ × List CaptureEvent)) : List SentWrite :=
  sentWrites fault progress.outside.2

theorem sent_writeSelector (site : CaptureSite) (value : UInt16) (parkingWrite : Bool) :
    (writeSelector calls.logged progress site value parkingWrite).2.sent fault =
      progress.sent fault ++
        [.vme fw2051ScpSelectorRegister value (site = .park) (fault site)] :=
  sentWrites_append fault _ (.write site fw2051ScpSelectorRegister value)

/-- Ownership is certain, and unless a selection is noted nothing has been sent. -/
structure Noted (progress : CaptureProgress (σ × List CaptureEvent)) : Prop where
  certain : progress.ownershipCertain = true
  attempted : progress.selectionAttempted = false → progress.sent fault = []

variable {fault}

/-- A step that sends nothing. -/
theorem Noted.of_eq (h : progress.Noted fault)
    (hcertain : progress'.ownershipCertain = progress.ownershipCertain)
    (hattempted : progress'.selectionAttempted = progress.selectionAttempted)
    (hsent : progress'.sent fault = progress.sent fault) : progress'.Noted fault where
  certain := hcertain.trans h.certain
  attempted := fun hnone => hsent.trans (h.attempted (hattempted.symm.trans hnone))

/-! ### The steps before the parking -/

theorem Noted.pass (h : progress.Noted fault) (hadmits : calls.Admits)
    (checkpoint : ScpCaptureCheckpoint) (failure : String) :
    (progress.pass calls.logged checkpoint failure).Noted fault := by
  unfold CaptureProgress.pass
  dsimp only
  rw [if_pos (hadmits.logged.checkpoint checkpoint progress.outside)]
  exact h.of_eq rfl rfl (sentWrites_aside fault rfl)

theorem Noted.global (h : progress.Noted fault) (hadmits : calls.Admits) (read : GlobalRead) :
    (captureGlobal calls.logged progress read).Noted fault := by
  unfold captureGlobal
  split
  · exact h
  · dsimp only
    split
    · exact h.of_eq rfl rfl (sentWrites_aside fault rfl)
    · refine Noted.pass ?_ hadmits _ _
      exact h.of_eq rfl rfl (sentWrites_aside fault rfl)

theorem Noted.identity (h : progress.Noted fault) : (checkIdentity progress).Noted fault := by
  unfold checkIdentity
  split
  · exact h
  · split
    · exact h.of_eq rfl rfl rfl
    · split
      · exact h.of_eq rfl rfl rfl
      · exact h

theorem Noted.register (h : progress.Noted fault) (hadmits : calls.Admits) (quadIndex : UInt16)
    (quad : Fw2051ScpQuadConfiguration) (definition : Fw2051ScpSettingDefinition) :
    (captureRegister calls.logged quadIndex (progress, quad) definition).1.Noted fault := by
  unfold captureRegister
  dsimp only
  split
  · exact h
  · split
    · exact h.of_eq rfl rfl (sentWrites_aside fault rfl)
    · split
      · exact h.of_eq rfl rfl (sentWrites_aside fault rfl)
      · dsimp only
        refine Noted.pass ?_ hadmits _ _
        exact h.of_eq rfl rfl (sentWrites_aside fault rfl)

theorem Noted.registers (h : progress.Noted fault) (hadmits : calls.Admits) (quadIndex : UInt16)
    (quad : Fw2051ScpQuadConfiguration) (definitions : List Fw2051ScpSettingDefinition) :
    (definitions.foldl (captureRegister calls.logged quadIndex) (progress, quad)).1.Noted fault := by
  induction definitions generalizing progress quad with
  | nil => exact h
  | cons definition definitions ih => exact ih (h.register hadmits quadIndex quad definition) _

/-- The selection is noted before it is sent. -/
theorem Noted.selectedQuad (h : progress.Noted fault) (hadmits : calls.Admits)
    (quadIndex : UInt16) : (captureSelectedQuad calls.logged progress quadIndex).Noted fault := by
  have hwritten : (writeSelector calls.logged { progress with selectionAttempted := true }
      (.select quadIndex) quadIndex false).2.Noted fault := ⟨h.certain, fun hnone => by cases hnone⟩
  unfold captureSelectedQuad
  generalize writeSelector calls.logged _ _ _ _ = answer at hwritten ⊢
  obtain ⟨error, written⟩ := answer
  cases error with
  | some error => exact hwritten.of_eq rfl rfl rfl
  | none =>
      have hsettled := hwritten.pass hadmits ⟨.selectorSettled, some quadIndex,
        fw2051ScpSelectorRegister⟩
          ("SCP configuration capture was interrupted after selecting quad " ++
            toString quadIndex ++ ".")
      dsimp only at hsettled ⊢
      generalize CaptureProgress.pass _ _ _ written = settled at hsettled ⊢
      have hread := hsettled.registers hadmits quadIndex { quad := quadIndex }
        fw2051ScpSettingRegistry
      generalize fw2051ScpSettingRegistry.foldl _ _ = captured at hread ⊢
      split
      · exact hread.of_eq rfl rfl rfl
      · exact hread

theorem Noted.quad (h : progress.Noted fault) (hadmits : calls.Admits) (quadIndex : UInt16) :
    (captureQuad calls.logged progress quadIndex).Noted fault := by
  unfold captureQuad
  split
  · exact h
  · split
    · dsimp only
      rw [if_neg (not_not_intro (hadmits.logged.gate (.bank quadIndex) progress.outside))]
      refine Noted.selectedQuad ?_ hadmits quadIndex
      exact h.of_eq rfl rfl (sentWrites_aside fault rfl)
    · exact h.selectedQuad hadmits quadIndex

theorem noted_captureQuads (h : progress.Noted fault) (hadmits : calls.Admits) :
    (captureQuadIndexes.foldl (captureQuad calls.logged) (checkIdentity
      (globalReads.foldl (captureGlobal calls.logged) progress))).Noted fault := by
  have hread := List.foldlRecOn globalReads (captureGlobal calls.logged)
    (motive := fun progress => progress.Noted fault) h fun _ hnoted read _ =>
      hnoted.global hadmits read
  exact List.foldlRecOn captureQuadIndexes (captureQuad calls.logged)
    (motive := fun progress => progress.Noted fault) hread.identity fun _ hnoted quadIndex _ =>
      hnoted.quad hadmits quadIndex

/-! ### The parking -/

theorem sent_captureParkingWrite (hadmits : calls.Admits) :
    (captureParkingWrite calls.logged progress).sent fault =
      progress.sent fault ++ [.vme fw2051ScpSelectorRegister 0 true (fault .park)] := by
  have hwritten : _ = progress.sent fault ++ [.vme fw2051ScpSelectorRegister 0 true (fault .park)] :=
    @sent_writeSelector σ calls fault progress .park 0 true
  unfold captureParkingWrite
  generalize writeSelector calls.logged _ _ _ _ = answer at hwritten ⊢
  obtain ⟨error, written⟩ := answer
  cases error with
  | some error => exact hwritten
  | none =>
      dsimp only
      unfold CaptureProgress.pass
      dsimp only
      rw [if_pos (hadmits.logged.checkpoint _ _)]
      exact (sentWrites_aside fault rfl).trans hwritten

/-- What has been selected is parked at last. -/
theorem Noted.parks (h : progress.Noted fault) (hadmits : calls.Admits) :
    ParksAfterSelecting ((captureParking calls.logged progress).sent fault) := by
  unfold captureParking
  rw [h.certain, Bool.and_true]
  cases hattempted : progress.selectionAttempted with
  | false =>
      rw [if_neg Bool.false_ne_true, h.attempted hattempted]
      trivial
  | true =>
      rw [if_pos rfl]
      dsimp only
      rw [if_neg (not_not_intro (hadmits.logged.gate .parking progress.outside)),
        sent_captureParkingWrite hadmits]
      refine CallTrace.answered_append_of_mem ?_ List.mem_cons_self ⟨rfl, rfl, rfl⟩
      refine CallTrace.answered_of_forall_not fun write hwrite => ?_
      rw [List.mem_singleton.mp hwrite]
      exact not_selects_parking

end CaptureProgress

theorem parks_captureRegisters {progress : CaptureProgress (σ × List CaptureEvent)}
    (h : progress.Noted fault) (hadmits : calls.Admits) :
    ParksAfterSelecting ((captureRegisters calls.logged progress).sent fault) := by
  have hnoted := CaptureProgress.noted_captureQuads h hadmits
  unfold captureRegisters
  generalize captureQuadIndexes.foldl _ _ = captured at hnoted ⊢
  exact hnoted.parks hadmits

/-- A capture that is allowed everything parks the selector after every selection. -/
theorem captureThrough_parks (hadmits : calls.Admits) (baseAddress : UInt32) (outside : σ) :
    ParksAfterSelecting
      (sentWrites fault (captureThrough calls.logged baseAddress (outside, [])).2.2) := by
  unfold captureThrough
  split
  · trivial
  · dsimp only
    rw [if_neg (not_not_intro (hadmits.logged.gate .snapshot (outside, [])))]
    have hparks := fun progress => @parks_captureRegisters σ calls fault progress
    generalize captureRegisters calls.logged = registers at hparks ⊢
    refine hparks _ ⟨rfl, fun _ => ?_⟩ hadmits
    exact sentWrites_aside fault rfl

end Logged

/-! ### On a module alone -/

theorem admits_onBench {fault : CaptureSite → Option Fault}
    {gate : CaptureGate → ScpCaptureGateResult} {runtime : ScpCaptureRuntime}
    (hallowed : ∀ site, (gate site).status = .allowed)
    (hpass : ∀ checkpoint, runtime.checkpoint checkpoint = true) :
    (CaptureCalls.onBench fault gate runtime).Admits :=
  ⟨fun site _ => hallowed site, fun checkpoint _ => hpass checkpoint⟩

/-- A capture that is allowed everything parks the selector after every selection. -/
theorem captureFw2051ScpConfigurationWrites_park (fault : CaptureSite → Option Fault)
    (bench : Bench) (baseAddress : UInt32) {gate : CaptureGate → ScpCaptureGateResult}
    (hallowed : ∀ site, (gate site).status = .allowed) {runtime : ScpCaptureRuntime}
    (hpass : ∀ checkpoint, runtime.checkpoint checkpoint = true) : ParksAfterSelecting
      (captureFw2051ScpConfigurationWrites fault bench baseAddress (some gate) runtime) :=
  captureThrough_parks fault (admits_onBench hallowed hpass) baseAddress bench

end Fidget
