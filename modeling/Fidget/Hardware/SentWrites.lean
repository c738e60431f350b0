import Fidget.Hardware.DiagnosticAcquisition
import Fidget.Lib.CallTrace

/-!
# The writes that an operation sends

An operation gives no account of its writes: it keeps flags, and which of them is set decides what
it does next. The models of the operations log the writes as they are sent, each with how its call
went, so that an operation can be held against what it should have sent. Replaying the writes of an
operation leads to the module that it leaves behind.

## Main results

- `answered_of_aside`, `enablesParked_of_aside`: writes that are of no concern to the selector.
- `replay_pauseWrites`, `replay_resumeWrites`: what pausing and resuming send.
- `parksAfterSelecting_iff`, `enablesParked_iff`: when a transaction around one selection parks it
  and enables nothing before.
-/

namespace Fidget

/-- A write sent to the module or to its controller. Writes to the selector are marked if they are
there to park it. -/
inductive SentWrite where
  | vme (registerOffset value : UInt16) (parkingWrite : Bool) (fault : Option Fault)
  | controller (writes : List (UInt16 × UInt32)) (fault : Option Fault)
  deriving DecidableEq, Repr

namespace SentWrite

/-- What a write does to the module and the controller, lost or not. -/
def effect : SentWrite → Bench → Bench
  | .vme registerOffset value _ fault, bench => (bench.writeVmeD16 fault registerOffset value).2
  | .controller writes fault, bench => (bench.writeLocalRegisters fault writes).2

/-- A write to the selector that is not there to park it. -/
def Selects : SentWrite → Prop
  | .vme registerOffset _ parkingWrite _ =>
    registerOffset = fw2051ScpSelectorRegister ∧ parkingWrite = false
  | .controller _ _ => False

/-- A write that is there to park it, and does so if it takes effect. -/
def Parks : SentWrite → Prop
  | .vme registerOffset value parkingWrite _ =>
    registerOffset = fw2051ScpSelectorRegister ∧ value = 0 ∧ parkingWrite = true
  | .controller _ _ => False

/-- A write that lets the module or the controller take data again. -/
def Enables : SentWrite → Prop
  | .vme registerOffset value _ _ =>
    registerOffset = fw2051AcquisitionControlRegister ∧ value ≠ fw2051StopAcquisitionValue
  | .controller writes _ => ∃ write ∈ writes, write.1 = diagnosticDaqModeRegister ∧ write.2 ≠ 0

end SentWrite

/-- What an operation that keeps a log of its writes sends from one point to a later one. -/
abbrev LogsWrites (writes : List SentWrite) (before after : Bench × List SentWrite) : Prop :=
  CallTrace.Logged SentWrite.effect writes before after

/-! ### What is asked of the writes

Two conditions on a list of writes. The one follows the selector through the writes, lost ones
included; the other looks at the order of the writes only. -/

/-- Nothing is enabled while a bank other than zero is selected. -/
abbrev EnablesParked (writes : List SentWrite) (bench : Bench) : Prop :=
  CallTrace.Permitted SentWrite.effect (fun bench write => write.Enables → bench.selector = 0)
    writes bench

/-- Every selection is followed by a parking write. -/
abbrev ParksAfterSelecting (writes : List SentWrite) : Prop :=
  CallTrace.Answered SentWrite.Selects SentWrite.Parks writes

/-- A write that is of no concern to the selector. -/
structure SentWrite.Aside (write : SentWrite) : Prop where
  selects : ¬write.Selects
  parks : ¬write.Parks
  selector : ∀ bench, (write.effect bench).selector = bench.selector

/-- A write to any register of the module but the selector. -/
theorem aside_vme {registerOffset value : UInt16} {parkingWrite : Bool} {fault : Option Fault}
    (h : registerOffset ≠ fw2051ScpSelectorRegister) :
    (SentWrite.vme registerOffset value parkingWrite fault).Aside where
  selects := fun hselects => h hselects.1
  parks := fun hparks => h hparks.1
  selector := by
    intro bench
    show (bench.writeVmeD16 fault registerOffset value).2.selector = bench.selector
    rcases bench.writeVmeD16_cases fault registerOffset value with hcase | hcase
    · rw [hcase]
    · rw [hcase, Bench.selector_write h]

/-- A write to the controller. -/
theorem aside_controller (writes : List (UInt16 × UInt32)) (fault : Option Fault) :
    (SentWrite.controller writes fault).Aside where
  selects := id
  parks := id
  selector := by
    intro bench
    cases fault with
    | none => rfl
    | some failed =>
        show (if failed.takesEffect then bench.writeLocal writes else bench).selector = _
        split <;> rfl

/-- A write to a register of the banks. -/
theorem aside_banked {registerOffset value : UInt16} {parkingWrite : Bool} {fault : Option Fault}
    (h : registerOffset ∈ scpRegisterOffsets) :
    (SentWrite.vme registerOffset value parkingWrite fault).Aside :=
  aside_vme fun heq => Bench.selector_notMem (heq ▸ h)

/-- A write that neither moves the selector nor enables anything. -/
structure SentWrite.Plain (write : SentWrite) : Prop extends write.Aside where
  enables : ¬write.Enables

/-- Such a write does neither. -/
theorem plain_banked {registerOffset value : UInt16} {parkingWrite : Bool} {fault : Option Fault}
    (h : registerOffset ∈ scpRegisterOffsets) :
    (SentWrite.vme registerOffset value parkingWrite fault).Plain where
  toAside := aside_banked h
  enables := fun henables => absurd h (henables.1 ▸ by decide)

/-- Moving the selector enables nothing. -/
theorem not_enables_selector {value : UInt16} {parkingWrite : Bool} {fault : Option Fault} :
    ¬(SentWrite.vme fw2051ScpSelectorRegister value parkingWrite fault).Enables :=
  fun henables => absurd henables.1 (by decide)

/-- Parking it is no selection. -/
theorem not_selects_parking {fault : Option Fault} :
    ¬(SentWrite.vme fw2051ScpSelectorRegister 0 true fault).Selects := fun hselects => by
  cases hselects.2

section Aside

variable {writes : List SentWrite}

/-- Without a selection there is nothing to park. -/
theorem answered_of_aside (h : ∀ write ∈ writes, write.Aside) : ParksAfterSelecting writes :=
  CallTrace.answered_of_forall_not fun write hwrite => (h write hwrite).selects

/-- Such writes leave the selector. -/
theorem selector_of_aside (h : ∀ write ∈ writes, write.Aside) (bench : Bench) :
    (CallTrace.replay SentWrite.effect writes bench).selector = bench.selector :=
  CallTrace.replay_keeps Bench.selector (fun write hwrite => (h write hwrite).selector) bench

/-- With the selector parked all the while, anything may be enabled. -/
theorem enablesParked_of_aside (h : ∀ write ∈ writes, write.Aside) {bench : Bench}
    (hparked : bench.selector = 0) : EnablesParked writes bench := by
  induction writes generalizing bench with
  | nil => trivial
  | cons write writes ih =>
      refine ⟨fun _ => hparked, ih (fun other hother => h other (List.mem_cons_of_mem _ hother)) ?_⟩
      rw [(h write List.mem_cons_self).selector, hparked]

/-- Where nothing is enabled, nothing is enabled too early. -/
theorem enablesParked_of_none (h : ∀ write ∈ writes, ¬write.Enables) (bench : Bench) :
    EnablesParked writes bench :=
  CallTrace.permitted_of_forall (fun write hwrite _ henables => absurd henables (h write hwrite))
    bench

end Aside

/-! ### Pausing and resuming

The same writes in every transaction, so they are gone through once. -/

/-- The writes of a pause. -/
def pauseWrites (fault : PauseSite → Option Fault) : List SentWrite := [
  .vme diagnosticAcquisitionControlRegister 0 false (fault .module),
  .controller [(diagnosticDaqModeRegister, 0)] (fault .daqMode)]

/-- They account for what a pause does. -/
theorem replay_pauseWrites (fault : PauseSite → Option Fault) (bench : Bench) :
    CallTrace.replay SentWrite.effect (pauseWrites fault) bench =
      (pauseDiagnosticDataTaking fault bench).2 := by
  unfold pauseDiagnosticDataTaking
  dsimp only
  split
  next heq => exact congrArg Prod.snd heq
  next heq =>
    split
    · exact congrArg Prod.snd heq
    · split <;> exact congrArg Prod.snd heq

/-- They neither move the selector nor enable anything. -/
theorem pauseWrites_plain (fault : PauseSite → Option Fault) :
    ∀ write ∈ pauseWrites fault, write.Plain := by
  intro write hwrite
  simp only [pauseWrites, List.mem_cons, List.not_mem_nil, or_false] at hwrite
  rcases hwrite with rfl | rfl
  · exact ⟨aside_vme (by decide), fun h => h.2 rfl⟩
  · refine ⟨aside_controller _ _, ?_⟩
    rintro ⟨write, hwrite, -, hvalue⟩
    rw [List.mem_singleton.mp hwrite] at hvalue
    exact hvalue rfl

/-- Both parts of the pause are done exactly when nothing interferes with it. -/
theorem pauseDiagnosticDataTaking_paused_iff (fault : PauseSite → Option Fault) (bench : Bench) :
    ((pauseDiagnosticDataTaking fault bench).1.modulePaused = true ∧
      (pauseDiagnosticDataTaking fault bench).1.daqModePaused = true) ↔
        fault .module = none ∧ fault .daqMode = none ∧ fault .daqModeReadback = none := by
  unfold pauseDiagnosticDataTaking
  cases hmodule : fault .module <;> cases hdaqMode : fault .daqMode <;>
    cases hreadback : fault .daqModeReadback <;>
      simp [Bench.writeVmeD16, Bench.writeLocalRegisters, Bench.readLocalRegisters, Bench.writeLocal]

/-- The writes of the sequence up to the first failure. -/
def resumeModuleWrites (fault : ResumeSite → Option Fault) :
    List (UInt16 × (DiagnosticResumeResult → DiagnosticResumeResult)) → List SentWrite
  | [] => []
  | (registerOffset, _) :: rest =>
    .vme registerOffset 1 false (fault (.module registerOffset)) ::
      if (fault (.module registerOffset)).isNone then resumeModuleWrites fault rest else []

/-- The writes that resume the data taking. -/
def resumeWrites (fault : ResumeSite → Option Fault) : List SentWrite :=
  resumeModuleWrites fault resumeSequence ++
    if resumeSequence.all fun write => (fault (.module write.1)).isNone then
      [.controller [(diagnosticDaqModeRegister, diagnosticDaqEnableValue)] (fault .daqMode)]
    else []

/-- They account for what the module sees. -/
theorem replay_resumeModuleWrites (fault : ResumeSite → Option Fault)
    (sequence : List (UInt16 × (DiagnosticResumeResult → DiagnosticResumeResult)))
    (bench : Bench) (result : DiagnosticResumeResult) :
    (resumeModule fault bench result sequence).1 =
        (sequence.all fun write => (fault (.module write.1)).isNone) ∧
      CallTrace.replay SentWrite.effect (resumeModuleWrites fault sequence) bench =
        (resumeModule fault bench result sequence).2.2 := by
  induction sequence generalizing bench result with
  | nil => exact ⟨rfl, rfl⟩
  | cons write sequence ih =>
      obtain ⟨registerOffset, note⟩ := write
      unfold resumeModule resumeModuleWrites
      cases hfault : fault (.module registerOffset) with
      | some failed => simp [hfault, SentWrite.effect, Bench.writeVmeD16]
      | none =>
          obtain ⟨hall, hreplay⟩ := ih (bench.write registerOffset 1) (note result)
          simpa [hfault, SentWrite.effect, Bench.writeVmeD16] using ⟨hall, hreplay⟩

/-- And for what resuming does as a whole. -/
theorem replay_resumeWrites (fault : ResumeSite → Option Fault) (bench : Bench) :
    CallTrace.replay SentWrite.effect (resumeWrites fault) bench =
      (resumeDiagnosticDataTaking fault bench).2 := by
  obtain ⟨hall, hreplay⟩ := replay_resumeModuleWrites fault resumeSequence bench {}
  unfold resumeWrites resumeDiagnosticDataTaking
  rw [CallTrace.replay_append, hreplay, ← hall]
  generalize resumeModule fault bench {} resumeSequence = resumed
  obtain ⟨passed, result, bench'⟩ := resumed
  cases passed with
  | false => rfl
  | true =>
      rw [if_pos rfl]
      simp only
      split
      next heq => exact congrArg Prod.snd heq
      next heq =>
        split
        · exact congrArg Prod.snd heq
        · split <;> exact congrArg Prod.snd heq

/-- None of them moves the selector. -/
theorem resumeModuleWrites_aside (fault : ResumeSite → Option Fault)
    {sequence : List (UInt16 × (DiagnosticResumeResult → DiagnosticResumeResult))}
    (h : ∀ write ∈ sequence, write.1 ≠ fw2051ScpSelectorRegister) :
    ∀ write ∈ resumeModuleWrites fault sequence, write.Aside := by
  induction sequence with
  | nil => exact fun _ hwrite => absurd hwrite List.not_mem_nil
  | cons write sequence ih =>
      obtain ⟨registerOffset, note⟩ := write
      intro sent hsent
      rcases List.mem_cons.mp hsent with rfl | hsent
      · exact aside_vme (h _ List.mem_cons_self)
      · split at hsent
        · exact ih (fun other hother => h other (List.mem_cons_of_mem _ hother)) sent hsent
        · cases hsent

/-- Nor does the write to the controller. -/
theorem resumeWrites_aside (fault : ResumeSite → Option Fault) :
    ∀ write ∈ resumeWrites fault, write.Aside := by
  intro write hwrite
  rcases List.mem_append.mp hwrite with hmodule | hcontroller
  · refine resumeModuleWrites_aside fault ?_ write hmodule
    simp only [resumeSequence, List.forall_mem_cons]
    exact ⟨by decide, by decide, by decide, fun _ h => absurd h List.not_mem_nil⟩
  · split at hcontroller
    · rw [List.mem_singleton.mp hcontroller]
      exact aside_controller _ _
    · cases hcontroller

/-- Resuming gets as far as enabling the module unless one of the resets fails before. -/
structure ResumeReaches (fault : ResumeSite → Option Fault) : Prop where
  fifoReset : fault (.module diagnosticFifoResetRegister) = none
  readoutReset : fault (.module diagnosticReadoutResetRegister) = none

/-- With another bank selected, resuming is right only if it does not get that far. -/
theorem enablesParked_resumeWrites {fault : ResumeSite → Option Fault} {bench : Bench}
    (hselector : bench.selector ≠ 0) :
    EnablesParked (resumeWrites fault) bench ↔ ¬ResumeReaches fault := by
  -- the first two writes go to registers that enable nothing
  have hreset : ∀ (registerOffset : UInt16) (failed : Option Fault),
      registerOffset ≠ fw2051AcquisitionControlRegister →
        ¬(SentWrite.vme registerOffset 1 false failed).Enables := fun _ _ hne h => hne h.1
  have hkept : ∀ (registerOffset : UInt16) (failed : Option Fault) (bench : Bench),
      registerOffset ≠ fw2051ScpSelectorRegister → bench.selector ≠ 0 →
        ((SentWrite.vme registerOffset 1 false failed).effect bench).selector ≠ 0 := by
    intro registerOffset failed bench hne hbench
    rwa [(aside_vme hne).selector]
  constructor
  · intro hparked hreaches
    unfold resumeWrites at hparked
    obtain ⟨hmodule, -⟩ := (CallTrace.permitted_append _ _ _).mp hparked
    simp only [resumeSequence, resumeModuleWrites, hreaches.fifoReset, hreaches.readoutReset,
      Option.isNone_none, if_true] at hmodule
    obtain ⟨-, -, henables, -⟩ := hmodule
    exact hkept _ _ _ (by decide) (hkept _ _ _ (by decide) hselector)
      (henables ⟨by decide, by decide⟩)
  · intro hnot
    refine enablesParked_of_none (fun write hwrite => ?_) bench
    have hfirst : write ∈ [SentWrite.vme diagnosticFifoResetRegister 1 false
          (fault (.module diagnosticFifoResetRegister)),
        .vme diagnosticReadoutResetRegister 1 false
          (fault (.module diagnosticReadoutResetRegister))] := by
      by_cases hfifo : fault (.module diagnosticFifoResetRegister) = none
      · have hreadout : (fault (.module diagnosticReadoutResetRegister)).isNone = false := by
          rw [Option.isNone_eq_false_iff, Option.isSome_iff_ne_none]
          exact fun hnone => hnot ⟨hfifo, hnone⟩
        simpa [resumeWrites, resumeSequence, resumeModuleWrites, hfifo, hreadout] using hwrite
      · have hfailed : (fault (.module diagnosticFifoResetRegister)).isNone = false := by
          rw [Option.isNone_eq_false_iff, Option.isSome_iff_ne_none]
          exact hfifo
        simp only [resumeWrites, resumeSequence, resumeModuleWrites, hfailed, List.all_cons,
          Bool.false_and, Bool.false_eq_true, if_false, List.append_nil,
          List.mem_singleton] at hwrite
        exact List.mem_cons.mpr (.inl hwrite)
    simp only [List.mem_cons, List.not_mem_nil, or_false] at hfirst
    rcases hfirst with rfl | rfl
    · exact hreset _ _ (by decide)
    · exact hreset _ _ (by decide)

/-! ### A selection among the writes of a transaction

A transaction selects a bank once, and decides by what it knows of this whether to park and whether
to resume. The two rules say what follows of both conditions. -/

section Selection

variable {before rest : List SentWrite} {quad : UInt16} {select : Option Fault} {bench : Bench}

/-- A transaction that parks what it knows to be selected leaves exactly those selections unparked
whose answer is lost. -/
theorem parksAfterSelecting_iff (hbefore : ∀ write ∈ before, write.Plain)
    (hknown : select = none → ParksAfterSelecting rest ∧ ∃ write ∈ rest, write.Parks)
    (hlost : select ≠ none → ∀ write ∈ rest, write.Aside) :
    ParksAfterSelecting (before ++ [.vme fw2051ScpSelectorRegister quad false select] ++ rest) ↔
      select = none := by
  constructor
  · intro hparks
    by_contra hselect
    have hsent : SentWrite.vme fw2051ScpSelectorRegister quad false select ∈
        before ++ [.vme fw2051ScpSelectorRegister quad false select] ++ rest :=
      List.mem_append_left _ (List.mem_append_right _ List.mem_cons_self)
    obtain ⟨park, hpark, hparking⟩ := hparks.exists_of_mem hsent ⟨rfl, rfl⟩
    rcases List.mem_append.mp hpark with hselected | hrest
    · rcases List.mem_append.mp hselected with hearlier | hselection
      · exact (hbefore park hearlier).parks hparking
      · rw [List.mem_singleton.mp hselection] at hparking
        cases hparking.2.2
    · exact (hlost hselect park hrest).parks hparking
  · intro hselect
    obtain ⟨hrest, park, hpark, hparking⟩ := hknown hselect
    exact CallTrace.answered_append_of_mem hrest hpark hparking

/-- The answer to a selection is lost after it has taken effect, and data taking is resumed on the
bank that it selected. -/
structure ResumesElsewhere (select : Option Fault) (quad : UInt16) (resumes : Bool)
    (resume : ResumeSite → Option Fault) : Prop where
  lost : ∃ failed, select = some failed ∧ failed.takesEffect = true
  elsewhere : quad ≠ 0
  resumes : resumes = true
  reaches : ResumeReaches resume

/-- A transaction that goes straight to the resuming after a lost selection enables something on
another bank exactly when the selection has taken effect. -/
theorem enablesParked_iff (hbefore : ∀ write ∈ before, write.Plain) (hparked : bench.selector = 0)
    {resumes : Bool} {resume : ResumeSite → Option Fault}
    (hknown : select = none → ∀ bench, EnablesParked rest bench)
    (hlost : select ≠ none → rest = if resumes then resumeWrites resume else []) :
    EnablesParked (before ++ [.vme fw2051ScpSelectorRegister quad false select] ++ rest) bench ↔
      ¬ResumesElsewhere select quad resumes resume := by
  -- nothing is enabled up to the selection
  have hfirst : EnablesParked (before ++ [.vme fw2051ScpSelectorRegister quad false select])
      bench := by
    refine enablesParked_of_none (fun write hwrite => ?_) bench
    rcases List.mem_append.mp hwrite with hearlier | hselection
    · exact (hbefore write hearlier).enables
    · rw [List.mem_singleton.mp hselection]
      exact not_enables_selector
  refine (CallTrace.permitted_append _ _ _).trans ((and_iff_right hfirst).trans ?_)
  have hselector : (CallTrace.replay SentWrite.effect before bench).selector = 0 := by
    rw [selector_of_aside fun write hwrite => (hbefore write hwrite).toAside]
    exact hparked
  rw [CallTrace.replay_append]
  generalize CallTrace.replay SentWrite.effect before bench = paused at hselector ⊢
  cases hselect : select with
  -- the answer arrives, and the rest is known to be in order
  | none =>
      refine iff_of_true (hknown hselect _) ?_
      rintro ⟨⟨failed, hfailed, -⟩, -⟩
      cases hfailed
  -- the answer is lost, and the transaction goes straight on to resume
  | some failed =>
      rw [hlost (by rw [hselect]; nofun)]
      have hmoved : (CallTrace.replay SentWrite.effect
          [.vme fw2051ScpSelectorRegister quad false (some failed)] paused).selector =
            if failed.takesEffect then quad else 0 := by
        show (if failed.takesEffect then paused.write fw2051ScpSelectorRegister quad
          else paused).selector = _
        split
        · exact Bench.selector_write_selector
        · exact hselector
      generalize CallTrace.replay SentWrite.effect
        [.vme fw2051ScpSelectorRegister quad false (some failed)] paused = selected at hmoved ⊢
      cases resumes with
      | false => exact iff_of_true trivial fun helse => Bool.false_ne_true helse.resumes
      | true =>
          by_cases hzero : selected.selector = 0
          · -- the selector is at bank zero all the same
            refine iff_of_true (enablesParked_of_aside (resumeWrites_aside _) hzero) ?_
            rintro ⟨⟨failed', hfailed, heffect⟩, helsewhere, -⟩
            rw [Option.some.injEq] at hfailed
            rw [hmoved, hfailed, heffect, if_pos rfl] at hzero
            exact helsewhere hzero
          · -- the selector is elsewhere
            have heffect : failed.takesEffect = true := by
              by_contra hnone
              exact hzero (hmoved.trans (if_neg hnone))
            have helsewhere : quad ≠ 0 := by
              rw [hmoved, heffect, if_pos rfl] at hzero
              exact hzero
            rw [if_pos rfl]
            refine (enablesParked_resumeWrites hzero).trans (not_congr ?_)
            exact ⟨fun hreaches => ⟨⟨failed, rfl, heffect⟩, helsewhere, rfl, hreaches⟩,
              ResumesElsewhere.reaches⟩

end Selection

end Fidget
