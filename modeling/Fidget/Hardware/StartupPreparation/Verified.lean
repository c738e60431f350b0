import Fidget.Hardware.StartupPreparation
import Fidget.Lib.GuardedLoop
import Fidget.Lib.Lists

/-!
# When a failed preparation has been undone

As long as nothing has failed, the registers up to the one being written hold their targets. The
rollback is decided on before the module is looked at for the last time, so there is one failure
that it does not answer: everything has succeeded, and the last reading is lost.

Every stage has a lemma named after it and ending in `_spec`. It says of the run behind the stage
that it is still `Clean`, with one more part of the contract done, or that it is `Interrupted`;
which of the two it is depends on a predicate on the faults and the gate. The lemmas are put
together in `applyContract_spec`, and the rollback is looked at only from an interrupted run.

## Main results

- `foldl_writeSetting_spec`: the write loop stops at the first register whose write is disturbed,
  with the registers before it at their targets.
- `applyContract_spec`: nothing disturbs the contract and the module is `Reset`, or the run has
  failed with the difference to the old module still described by its entries.
- `rollbackSettings_spec`: the rollback goes through the pending registers, and either puts every
  one of them back or says that it is not safe.
- `prepareFw2051ModuleForStartup_ends`: how a preparation can end, for every fault pattern, every
  answer of the gate and every moment of cancellation.
-/

namespace Fidget

open scoped Fidget.Lists

namespace StartupPreparation

/-! ### The eight registers

The readout contract names eight registers, each with the value it has to hold. The operation
numbers its disturbances by their index. -/

/-- Where the register of this index is. -/
def offsetAt (index : Nat) : UInt16 :=
  (fw2051StartupPreparationRegisterTable.getD index ⟨0, "", 0⟩).registerOffset

/-- What the readout contract wants it to hold. -/
def targetAt (index : Nat) : UInt16 :=
  (fw2051StartupPreparationRegisterTable.getD index ⟨0, "", 0⟩).targetValue

/-- The register deviates from the readout contract. -/
def Deviates (bench : Bench) (index : Nat) : Prop := bench.read (offsetAt index) ≠ targetAt index

instance (bench : Bench) : DecidablePred (Deviates bench) := fun _ => instDecidableNot

/-- The deviating registers among the first `written`. -/
def deviating (bench : Bench) (written : Nat) : List Nat :=
  (List.range written).filter fun index => decide (Deviates bench index)

/-- One register more to look at. -/
theorem deviating_succ (bench : Bench) (written : Nat) : deviating bench (written + 1) =
    deviating bench written ++ if Deviates bench written then [written] else [] := by
  unfold deviating
  rw [List.range_succ, List.filter_append]
  by_cases h : Deviates bench written <;> simp [h]

/-- A register is among the deviating ones if it is among the first and deviates. -/
theorem mem_deviating {bench : Bench} {written index : Nat} :
    index ∈ deviating bench written ↔ index < written ∧ Deviates bench index := by
  simp [deviating]

/-- The registers that the operation writes to. -/
def writtenRegisters : List UInt16 :=
  (List.range 8).map offsetAt
    ++ [fw2051AcquisitionControlRegister, fw2051FifoResetRegister, fw2051ReadoutResetRegister]

theorem writtenRegisters_nodup : writtenRegisters.Nodup := by decide

theorem writtenRegisters_global : ∀ r ∈ writtenRegisters, r ∉ scpRegisterOffsets := by decide

theorem offsetAt_mem {index : Nat} (h : index < 8) : offsetAt index ∈ writtenRegisters :=
  List.mem_append_left _ (List.mem_map_of_mem (List.mem_range.mpr h))

theorem offsetAt_global {index : Nat} (h : index < 8) : offsetAt index ∉ scpRegisterOffsets :=
  writtenRegisters_global _ (offsetAt_mem h)

/-- The eight registers are eight places. -/
theorem offsetAt_inj {index index' : Nat} (h : index < 8) (h' : index' < 8)
    (heq : offsetAt index = offsetAt index') : index = index' := by
  have hnodup := (List.nodup_append.mp writtenRegisters_nodup).1
  exact List.inj_on_of_nodup_map hnodup (List.mem_range.mpr h) (List.mem_range.mpr h') heq

/-- None of the eight registers is one of the three that stop and reset the module. -/
theorem offsetAt_ne {index : Nat} (h : index < 8) {r : UInt16}
    (hr : r ∈ [fw2051AcquisitionControlRegister, fw2051FifoResetRegister,
      fw2051ReadoutResetRegister]) : offsetAt index ≠ r :=
  (List.nodup_append.mp writtenRegisters_nodup).2.2 _
    (List.mem_map_of_mem (List.mem_range.mpr h)) _ hr

/-! ### What is noted about them

The preflight makes an entry for every register, and every later stage changes the entry of the
register it is about. What the rollback relies on is not changed any more: the place of the register
and what it held before the operation. -/

/-- The entry for a register says where it is, what it held and what it is to hold. -/
structure Describes (bench : Bench) (setting : StartupPreparationRegisterResult) (index : Nat) :
    Prop where
  registerOffset : setting.registerOffset = offsetAt index
  targetValue : setting.targetValue = targetAt index
  originalValue : setting.originalValue = bench.read (offsetAt index)
  changeRequired : setting.changeRequired = decide (Deviates bench index)

/-- There is such an entry for every register. -/
structure DescribesAll (bench : Bench) (registers : List StartupPreparationRegisterResult) :
    Prop where
  length_eq : registers.length = 8
  describes : ∀ index < 8, Describes bench (registers.getD index {}) index

/-- What is changed about an entry may not be what describes the register. -/
theorem DescribesAll.modify {bench : Bench} {registers : List StartupPreparationRegisterResult}
    (h : DescribesAll bench registers) (index : Nat)
    {update : StartupPreparationRegisterResult → StartupPreparationRegisterResult}
    (hupdate : ∀ setting index, Describes bench setting index →
      Describes bench (update setting) index) :
    DescribesAll bench (registers.modify index update) := by
  refine ⟨(List.length_modify ..).trans h.length_eq, fun index' hindex' => ?_⟩
  have hdescribes := h.describes index' hindex'
  have hlt : index' < registers.length := by
    rw [h.length_eq]
    exact hindex'
  rw [List.getD_eq_getElem?_getD, List.getElem?_eq_getElem hlt] at hdescribes
  rw [List.getD_eq_getElem?_getD, List.getElem?_modify, List.getElem?_eq_getElem hlt]
  by_cases heq : index = index'
  · simpa [heq] using hupdate _ _ hdescribes
  · simpa [heq] using hdescribes

/-- Two modules that differ in the registers that the operation writes to at most. -/
structure SameOutside (bench bench' : Bench) : Prop where
  banks : bench'.banks = bench.banks
  localRegisters : bench'.localRegisters = bench.localRegisters
  registers : ∀ r ∉ writtenRegisters, bench'.registers r = bench.registers r

theorem SameOutside.refl (bench : Bench) : SameOutside bench bench := ⟨rfl, rfl, fun _ _ => rfl⟩

/-- A write to one of the operation's registers is no difference outside of them. -/
theorem SameOutside.write {bench bench' : Bench} (h : SameOutside bench bench')
    {registerOffset : UInt16} (hmem : registerOffset ∈ writtenRegisters) (value : UInt16) :
    SameOutside bench (bench'.write registerOffset value) where
  banks := by
    rw [Bench.banks_write_of_global (writtenRegisters_global _ hmem)]
    exact h.banks
  localRegisters := by
    rw [Bench.write, if_neg (findFw2051ScpSetting_isSome.not.mpr (writtenRegisters_global _ hmem))]
    exact h.localRegisters
  registers := by
    intro r hr
    have hne : r ≠ registerOffset := fun heq => hr (heq ▸ hmem)
    rw [Bench.registers_write_of_global (writtenRegisters_global _ hmem),
      Function.update_of_ne hne]
    exact h.registers r hr

/-- Nor is it one when the write is disturbed. -/
theorem SameOutside.writeVmeD16 {bench bench' : Bench} (h : SameOutside bench bench')
    (fault : Option Fault) {registerOffset : UInt16} (hmem : registerOffset ∈ writtenRegisters)
    (value : UInt16) : SameOutside bench (bench'.writeVmeD16 fault registerOffset value).2 := by
  rcases bench'.writeVmeD16_cases fault registerOffset value with hcase | hcase
  · rw [hcase]
    exact h
  · rw [hcase]
    exact h.write hmem value

theorem read_write_of_ne {bench : Bench} {r r' value : UInt16} (hr : r ∉ scpRegisterOffsets)
    (hr' : r' ∉ scpRegisterOffsets) (hne : r' ≠ r) : (bench.write r value).read r' = bench.read r' := by
  rw [Bench.read_of_global hr', Bench.read_of_global hr', Bench.registers_write_of_global hr,
    Function.update_of_ne hne]

theorem readVmeD16_none (bench : Bench) (registerOffset : UInt16) :
    bench.readVmeD16 none registerOffset = .ok (bench.read registerOffset) := rfl

/-! ### What holds in every run

`Tracked` is the part of the invariant that does not depend on whether anything has failed. It says
where the module may differ from what was found: only in registers whose write was attempted. -/

/-- What is noted is true of the module before the operation, and a register that was not attempted
is as it was. -/
structure Tracked (bench : Bench) (run : Run) : Prop where
  registers : DescribesAll bench run.result.registers
  same : SameOutside bench run.bench
  attempted : ∀ index ∈ run.attemptedSettings, index < 8
  counted : run.result.writesAttempted = run.attemptedSettings.length
  untouched : ∀ index < 8, index ∉ run.attemptedSettings →
    run.bench.read (offsetAt index) = bench.read (offsetAt index)
  notRolledBack : run.result.rollbackAttempted = false ∧ run.result.rollbackVerified = false

/-- Something has gone wrong. -/
structure Interrupted (bench : Bench) (run : Run) : Prop extends Tracked bench run where
  failed : run.failure ≠ ""

/-- Nothing has gone wrong, and `written` registers have been gone through. -/
structure Clean (bench : Bench) (written : Nat) (run : Run) : Prop extends Tracked bench run where
  succeeds : run.failure = ""
  owned : run.ownershipAvailable = true
  accepted : run.result.strictFirmwareAccepted = true
  stopSent : run.result.moduleStopSent = true
  stopVerified : run.result.moduleStopVerified = true
  leftStopped : run.result.moduleLeftStopped = true
  stopped : run.bench.read fw2051AcquisitionControlRegister = fw2051StopAcquisitionValue
  values : ∀ index < written, run.bench.read (offsetAt index) = targetAt index
  attempted_eq : run.attemptedSettings = deviating bench written
  verified : run.result.writesVerified = (deviating bench written).length
  changed : run.result.changedSettings = (deviating bench 8).length

section Operation

variable {fault : Site → Option Fault} {gate : Gate → ScpCaptureGateResult}
  {cancellationRequested : Gate → Bool} {bench : Bench} {run : Run} {written : Nat}

theorem failure_fail (run : Run) {message : String} (h : message ≠ "") :
    (run.fail message).failure ≠ "" := appendFailure_ne _ h

/-- A run that notes a failure is interrupted, and what it tracks stays. -/
theorem Tracked.fail (h : Tracked bench run) {message : String} (hmessage : message ≠ "") :
    Interrupted bench (run.fail message) := { h with failed := failure_fail run hmessage }

theorem gateFailureMessage_ne (answer : ScpCaptureGateResult) (cancelled : Bool) :
    gateFailureMessage answer cancelled ≠ "" := by
  unfold gateFailureMessage
  split
  · assumption
  · split <;> decide

/-- Ownership is confirmed, or denied with a message. -/
theorem reverifyOwnership_cases (cancellationRequested : Gate → Bool)
    (howned : run.ownershipAvailable = true) (site : Gate) :
    ((gate site).status = .allowed ∧
        reverifyOwnership gate cancellationRequested run site = (true, run)) ∨
      ((gate site).status ≠ .allowed ∧ ∃ message ≠ "",
        reverifyOwnership gate cancellationRequested run site =
          (false, { run with ownershipAvailable := false }.fail message)) := by
  unfold reverifyOwnership
  rw [howned]
  by_cases hgate : (gate site).status = .allowed
  · exact .inl ⟨hgate, by simp [hgate]⟩
  · refine .inr ⟨hgate, _, gateFailureMessage_ne (gate site) (cancellationRequested site), ?_⟩
    simp [hgate]

theorem Tracked.denied (h : Tracked bench run) {message : String} (hmessage : message ≠ "") :
    Interrupted bench ({ run with ownershipAvailable := false }.fail message) := by
  have hlost : Tracked bench { run with ownershipAvailable := false } := { h with }
  exact hlost.fail hmessage

/-- A write that nothing disturbs takes effect. -/
theorem writeRegister_of_success {site : Site} (h : fault site = none)
    (registerOffset value : UInt16) : writeRegister fault run site registerOffset value =
      (none, { run with bench := run.bench.write registerOffset value }) := by
  rw [writeRegister, h]
  rfl

/-- A disturbed write is reported, whether or not it took effect. -/
theorem writeRegister_of_fault {site : Site} {failed : Fault} (h : fault site = some failed)
    (registerOffset value : UInt16) : writeRegister fault run site registerOffset value =
      (some failed.error,
        { run with bench := (run.bench.writeVmeD16 (fault site) registerOffset value).2 }) := by
  rw [writeRegister, h]
  rfl

/-- A write to a register of its own leaves the eight as they are. -/
theorem Tracked.atBench (h : Tracked bench run) {bench' : Bench} (hsame : SameOutside bench bench')
    (hread : ∀ index < 8, bench'.read (offsetAt index) = run.bench.read (offsetAt index)) :
    Tracked bench { run with bench := bench' } :=
  { h with
    same := hsame
    untouched := fun index hindex hnot => (hread index hindex).trans (h.untouched index hindex hnot) }

/-- The registers that stop and reset the module. -/
def controlRegisters : List UInt16 :=
  [fw2051AcquisitionControlRegister, fw2051FifoResetRegister, fw2051ReadoutResetRegister]

theorem controlRegisters_written {r : UInt16} (h : r ∈ controlRegisters) : r ∈ writtenRegisters :=
  List.mem_append_right _ h

/-- The three registers that stop and reset the module are none of the eight. -/
theorem read_write_control {r : UInt16} (h : r ∈ controlRegisters) (bench : Bench) (value : UInt16)
    {index : Nat} (hindex : index < 8) :
    (bench.write r value).read (offsetAt index) = bench.read (offsetAt index) :=
  read_write_of_ne (writtenRegisters_global _ (controlRegisters_written h)) (offsetAt_global hindex)
    (offsetAt_ne hindex h)

/-- A write to one of them, disturbed or not, leaves what is tracked. -/
theorem Tracked.control (h : Tracked bench run) (site : Site) {r : UInt16}
    (hr : r ∈ controlRegisters) (value : UInt16) :
    Tracked bench { run with bench := (run.bench.writeVmeD16 (fault site) r value).2 } := by
  refine h.atBench (h.same.writeVmeD16 _ (controlRegisters_written hr) value) fun index hindex => ?_
  rcases run.bench.writeVmeD16_cases (fault site) r value with hcase | hcase
  · rw [hcase]
  · rw [hcase, read_write_control hr _ _ hindex]

/-! ### The preflight

Identity, firmware, the eight registers and the acquisition are read. Nothing is written, so a
preflight that fails leaves the module as it was. -/

/-- The entry for a register as the preflight notes it. -/
def entryFor (bench : Bench) (definition : Fw2051StartupPreparationDefinition) :
    StartupPreparationRegisterResult :=
  { registerOffset := definition.registerOffset
    name := definition.name
    originalValue := bench.read definition.registerOffset
    targetValue := definition.targetValue
    appliedReadback := bench.read definition.registerOffset
    changeRequired := bench.read definition.registerOffset ≠ definition.targetValue }

/-- The run with one more register noted down. -/
def Run.noting (run : Run) (definition : Fw2051StartupPreparationDefinition) : Run :=
  { run with result := { run.result with
      registers := run.result.registers ++ [entryFor run.bench definition]
      settingsRead := run.result.settingsRead + 1
      changedSettings := run.result.changedSettings +
        if (entryFor run.bench definition).changeRequired then 1 else 0 } }

/-- The loop of readings runs as long as nothing has failed and no reading is disturbed. -/
theorem guarded_readSetting (fault : Site → Option Fault) :
    GuardedLoop.Guarded (fun run : Run => run.failure = "")
      (fun indexed : Fw2051StartupPreparationDefinition × Nat => fault (.read indexed.2) = none)
      (fun run indexed => run.noting indexed.1) (readSetting fault) where
  skip := fun run indexed h => if_pos h
  good := by
    rintro run ⟨definition, index⟩ h hgood
    refine ⟨?_, h⟩
    unfold readSetting
    dsimp only at hgood ⊢
    rw [if_neg (not_not.mpr h), hgood]
    rfl
  bad := by
    rintro run ⟨definition, index⟩ h hbad
    obtain ⟨failed, hfault⟩ := Option.ne_none_iff_exists'.mp hbad
    unfold readSetting
    dsimp only at hfault ⊢
    rw [if_neg (not_not.mpr h), hfault]
    exact failure_fail run (registerOperationError_ne _ _ _ _)

/-- What the loop of readings has noted when it is through. -/
theorem foldl_noting (definitions : List (Fw2051StartupPreparationDefinition × Nat)) (run : Run) :
    definitions.foldl (fun run indexed => run.noting indexed.1) run =
      { run with result := { run.result with
          registers := run.result.registers
            ++ definitions.map fun indexed => entryFor run.bench indexed.1
          settingsRead := run.result.settingsRead + definitions.length
          changedSettings := run.result.changedSettings + definitions.countP fun indexed =>
            (entryFor run.bench indexed.1).changeRequired } } := by
  induction definitions generalizing run with
  | nil => simp
  | cons indexed definitions ih =>
      rw [List.foldl_cons, ih]
      simp only [Run.noting, List.map_cons, List.append_assoc, List.singleton_append,
        List.length_cons, List.countP_cons, Nat.add_assoc, Nat.add_comm 1]
      simp [Nat.add_comm]

/-- What is left alone as long as nothing is written. -/
structure Unwritten (run run' : Run) : Prop where
  bench : run'.bench = run.bench
  writesAttempted : run'.result.writesAttempted = run.result.writesAttempted
  failed : run.failure ≠ "" → run'.failure ≠ ""

theorem Unwritten.refl (run : Run) : Unwritten run run := ⟨rfl, rfl, id⟩

theorem Unwritten.trans {run run' run'' : Run} (h : Unwritten run run')
    (h' : Unwritten run' run'') : Unwritten run run'' :=
  ⟨h'.bench.trans h.bench, h'.writesAttempted.trans h.writesAttempted, h'.failed ∘ h.failed⟩

theorem Unwritten.fail (run : Run) {message : String} (h : message ≠ "") :
    Unwritten run (run.fail message) := ⟨rfl, rfl, fun _ => failure_fail run h⟩

theorem unwritten_readHardwareId (run : Run) : Unwritten run (readHardwareId fault run) := by
  unfold readHardwareId
  split
  · exact .fail run (registerOperationError_ne _ _ _ _)
  · exact ⟨rfl, rfl, id⟩

theorem unwritten_readFirmwareRevision (run : Run) :
    Unwritten run (readFirmwareRevision fault run) := by
  unfold readFirmwareRevision
  split
  · split
    · exact .fail run (registerOperationError_ne _ _ _ _)
    · exact ⟨rfl, rfl, id⟩
  · exact .refl run

theorem unwritten_acceptFirmware (run : Run) : Unwritten run (acceptFirmware run) := by
  unfold acceptFirmware
  dsimp only
  split
  next hrefused => exact ⟨rfl, rfl, fun hfailed => absurd hrefused.1 hfailed⟩
  · exact ⟨rfl, rfl, id⟩

theorem unwritten_readSetting (run : Run)
    (indexed : Fw2051StartupPreparationDefinition × Nat) :
    Unwritten run (readSetting fault run indexed) := by
  unfold readSetting
  dsimp only
  split
  · exact .refl run
  · split
    · exact .fail run (registerOperationError_ne _ _ _ _)
    · exact ⟨rfl, rfl, id⟩

theorem unwritten_readSettings (run : Run) : Unwritten run (readSettings fault run) := by
  unfold readSettings
  generalize fw2051StartupPreparationRegisterTable.zipIdx = definitions
  induction definitions generalizing run with
  | nil => exact .refl run
  | cons indexed definitions ih => exact (unwritten_readSetting run indexed).trans (ih _)

theorem unwritten_readAcquisition (run : Run) : Unwritten run (readAcquisition fault run) := by
  unfold readAcquisition
  split
  · split
    · exact .fail run (registerOperationError_ne _ _ _ _)
    · exact ⟨rfl, rfl, id⟩
  · exact .refl run

/-- The preflight only reads. -/
theorem unwritten_preflight (run : Run) : Unwritten run (preflight fault run) :=
  ((((unwritten_readHardwareId run).trans (unwritten_readFirmwareRevision _)).trans
    (unwritten_acceptFirmware _)).trans (unwritten_readSettings _)).trans
      (unwritten_readAcquisition _)

/-- Nothing interferes with the preflight, and it finds the module it is meant for. -/
structure PreflightUndisturbed (fault : Site → Option Fault) (bench : Bench) : Prop where
  hardwareId : fault .hardwareId = none
  firmwareRevision : fault .firmwareRevision = none
  hardware : bench.read 0x6008 = mdpp32HardwareId
  firmware : bench.read 0x600E = mdpp32ScpFirmwareRevisionFw2051
  settings : ∀ index < 8, fault (.read index) = none
  acquisition : fault .acquisition = none

/-- The run after a preflight without a failure. -/
structure Ready (bench : Bench) (run : Run) : Prop where
  bench_eq : run.bench = bench
  registers : DescribesAll bench run.result.registers
  succeeds : run.failure = ""
  owned : run.ownershipAvailable = true
  accepted : run.result.strictFirmwareAccepted = true
  attempted : run.attemptedSettings = []
  counted : run.result.writesAttempted = 0
  verified : run.result.writesVerified = 0
  changed : run.result.changedSettings = (deviating bench 8).length
  notRolledBack : run.result.rollbackAttempted = false ∧ run.result.rollbackVerified = false

theorem readHardwareId_of_success (h : fault .hardwareId = none) (run : Run) :
    readHardwareId fault run =
      { run with result := { run.result with hardwareId := run.bench.read 0x6008 } } := by
  unfold readHardwareId
  rw [h]
  rfl

theorem readFirmwareRevision_of_success (h : fault .firmwareRevision = none)
    (hrun : run.failure = "") : readFirmwareRevision fault run =
      { run with result := { run.result with firmwareRevision := run.bench.read 0x600E } } := by
  unfold readFirmwareRevision
  rw [if_pos hrun, h]
  rfl

theorem acceptFirmware_of_accepted (hrun : run.failure = "")
    (hhardware : run.result.hardwareId = mdpp32HardwareId)
    (hfirmware : run.result.firmwareRevision = mdpp32ScpFirmwareRevisionFw2051) :
    acceptFirmware run =
      { run with result := { run.result with strictFirmwareAccepted := true } } := by
  unfold acceptFirmware
  dsimp only
  rw [if_neg (by simp [hhardware, hfirmware]), decide_eq_true hrun]

theorem readAcquisition_of_success (h : fault .acquisition = none) (hrun : run.failure = "") :
    readAcquisition fault run = { run with result := { run.result with
      originalAcquisitionValue := run.bench.read fw2051AcquisitionControlRegister } } := by
  unfold readAcquisition
  rw [if_pos hrun, h]
  rfl

/-- The entries noted before the first write describe the registers. -/
theorem describesAll_entries (bench : Bench) : DescribesAll bench
    (fw2051StartupPreparationRegisterTable.zipIdx.map fun indexed => entryFor bench indexed.1) := by
  refine ⟨rfl, fun index hindex => ?_⟩
  match index, hindex with
  | 0, _ | 1, _ | 2, _ | 3, _ | 4, _ | 5, _ | 6, _ | 7, _ => exact ⟨rfl, rfl, rfl, rfl⟩

/-- As many entries want a change as registers deviate. -/
theorem countP_changeRequired (bench : Bench) :
    (fw2051StartupPreparationRegisterTable.zipIdx.countP fun indexed =>
      (entryFor bench indexed.1).changeRequired) = (deviating bench 8).length := by
  have htable : fw2051StartupPreparationRegisterTable.zipIdx = (List.range 8).map fun index =>
      (fw2051StartupPreparationRegisterTable.getD index ⟨0, "", 0⟩, index) := by decide
  rw [htable, List.countP_map, List.countP_eq_length_filter]
  rfl

/-- Undisturbed, the readings note an entry for every register. -/
theorem readSettings_of_success (h : ∀ index < 8, fault (.read index) = none)
    (hrun : run.failure = "") : readSettings fault run =
      { run with result := { run.result with
          registers := run.result.registers ++ fw2051StartupPreparationRegisterTable.zipIdx.map
            fun indexed => entryFor run.bench indexed.1
          settingsRead := run.result.settingsRead + 8
          changedSettings := run.result.changedSettings + (deviating run.bench 8).length } } := by
  have hsettings : ∀ indexed ∈ fw2051StartupPreparationRegisterTable.zipIdx,
      fault (.read indexed.2) = none := by
    intro indexed hindexed
    have hlt := (List.getElem?_eq_some_iff.mp (List.mem_zipIdx_iff_getElem?.mp hindexed)).1
    exact h indexed.2 hlt
  rw [readSettings, ((guarded_readSetting fault).foldl_of_good hrun hsettings).1, foldl_noting,
    countP_changeRequired]
  rfl

/-- The run before its first reading. -/
def startRun (bench : Bench) (message : String) (baseAddress : UInt32) : Run :=
  { bench, result := { state := .preparing, message, baseAddress } }

/-- An undisturbed preflight on an accepted module leaves a run that is ready. -/
theorem preflight_of_undisturbed (h : PreflightUndisturbed fault bench) (message : String)
    (baseAddress : UInt32) : Ready bench (preflight fault (startRun bench message baseAddress)) := by
  unfold preflight
  dsimp only
  rw [readHardwareId_of_success h.hardwareId, readFirmwareRevision_of_success h.firmwareRevision rfl,
    acceptFirmware_of_accepted rfl h.hardware h.firmware, readSettings_of_success h.settings rfl,
    readAcquisition_of_success h.acquisition rfl]
  dsimp only [startRun]
  rw [List.nil_append, Nat.zero_add, Nat.zero_add]
  exact {
    bench_eq := rfl
    registers := describesAll_entries bench
    succeeds := rfl
    owned := rfl
    accepted := rfl
    attempted := rfl
    counted := rfl
    verified := rfl
    changed := rfl
    notRolledBack := ⟨rfl, rfl⟩ }

theorem failed_readSettings (h : ¬∀ index < 8, fault (.read index) = none) (run : Run) :
    (readSettings fault run).failure ≠ "" := by
  intro hrun
  have hall := ((guarded_readSetting fault).ok_foldl_iff.mp hrun).2
  refine h fun index hindex => ?_
  have hmem : (fw2051StartupPreparationRegisterTable[index], index) ∈
      fw2051StartupPreparationRegisterTable.zipIdx :=
    List.mem_zipIdx_iff_getElem?.mpr (List.getElem?_eq_getElem hindex)
  exact hall _ hmem

theorem failed_readHardwareId (h : fault .hardwareId ≠ none) (run : Run) :
    (readHardwareId fault run).failure ≠ "" := by
  obtain ⟨failed, hfault⟩ := Option.ne_none_iff_exists'.mp h
  unfold readHardwareId
  rw [hfault]
  exact failure_fail run (registerOperationError_ne _ _ _ _)

theorem failed_readFirmwareRevision (h : fault .firmwareRevision ≠ none) (run : Run) :
    (readFirmwareRevision fault run).failure ≠ "" := by
  obtain ⟨failed, hfault⟩ := Option.ne_none_iff_exists'.mp h
  unfold readFirmwareRevision
  split
  · rw [hfault]
    exact failure_fail run (registerOperationError_ne _ _ _ _)
  · assumption

theorem failed_acceptFirmware (h : ¬(run.result.hardwareId = mdpp32HardwareId ∧
    run.result.firmwareRevision = mdpp32ScpFirmwareRevisionFw2051)) :
    (acceptFirmware run).failure ≠ "" := by
  unfold acceptFirmware
  dsimp only
  split
  · refine failure_fail run ?_
    iterate 5 apply append_ne
    decide
  next hnot =>
    intro hrun
    exact hnot ⟨hrun, not_and_or.mp h⟩

theorem failed_readAcquisition (h : fault .acquisition ≠ none) (run : Run) :
    (readAcquisition fault run).failure ≠ "" := by
  obtain ⟨failed, hfault⟩ := Option.ne_none_iff_exists'.mp h
  unfold readAcquisition
  split
  · rw [hfault]
    exact failure_fail run (registerOperationError_ne _ _ _ _)
  · assumption

/-- A preflight without a failure was undisturbed. -/
theorem preflight_of_disturbed (h : ¬PreflightUndisturbed fault bench) (message : String)
    (baseAddress : UInt32) :
    (preflight fault (startRun bench message baseAddress)).failure ≠ "" := by
  unfold preflight
  dsimp only
  by_cases hhardwareId : fault .hardwareId = none
  swap
  · -- the first disturbance is the one reported: what comes after it keeps the failure
    exact (unwritten_readAcquisition _).failed ((unwritten_readSettings _).failed
      ((unwritten_acceptFirmware _).failed ((unwritten_readFirmwareRevision _).failed
        (failed_readHardwareId hhardwareId _))))
  by_cases hrevision : fault .firmwareRevision = none
  swap
  · exact (unwritten_readAcquisition _).failed ((unwritten_readSettings _).failed
      ((unwritten_acceptFirmware _).failed (failed_readFirmwareRevision hrevision _)))
  by_cases hmodule : bench.read 0x6008 = mdpp32HardwareId ∧
      bench.read 0x600E = mdpp32ScpFirmwareRevisionFw2051
  swap
  · refine (unwritten_readAcquisition _).failed ((unwritten_readSettings _).failed ?_)
    rw [readHardwareId_of_success hhardwareId, readFirmwareRevision_of_success hrevision rfl]
    exact failed_acceptFirmware hmodule
  by_cases hsettings : ∀ index < 8, fault (.read index) = none
  swap
  · exact (unwritten_readAcquisition _).failed (failed_readSettings hsettings _)
  by_cases hacquisition : fault .acquisition = none
  · exact absurd ⟨hhardwareId, hrevision, hmodule.1, hmodule.2, hsettings, hacquisition⟩ h
  · exact failed_readAcquisition hacquisition _

/-! ### The write loop

A register that holds its target is passed over. For the others the gate is asked, the value is
written and read back, and one more register is counted as done. -/

/-- Nothing interferes with the writing of a register that deviates. -/
def WriteUndisturbed (fault : Site → Option Fault) (gate : Gate → ScpCaptureGateResult)
    (bench : Bench) (index : Nat) : Prop :=
  Deviates bench index → (gate (.write index)).status = .allowed ∧ fault (.write index) = none ∧
    fault (.readback index) = none

/-- The run with a write under way. -/
def Run.attempting (run : Run) (index : Nat) (bench : Bench) : Run :=
  { run.updateSetting index fun setting => { setting with writeAttempted := true } with
    bench
    attemptedSettings := run.attemptedSettings ++ [index]
    result := { (run.updateSetting index fun setting =>
        { setting with writeAttempted := true }).result with
      writesAttempted := run.result.writesAttempted + 1 } }

theorem Tracked.updateSetting (h : Tracked bench run) (index : Nat)
    {update : StartupPreparationRegisterResult → StartupPreparationRegisterResult}
    (hupdate : ∀ setting index, Describes bench setting index →
      Describes bench (update setting) index) : Tracked bench (run.updateSetting index update) :=
  { h with registers := h.registers.modify index hupdate }

/-- Where a write was tried, the entry says so, and the other registers hold what they held. -/
theorem Tracked.attempting (h : Tracked bench run) (hwritten : written < 8) {bench' : Bench}
    (hsame : SameOutside bench bench')
    (hread : ∀ index < 8, index ≠ written →
      bench'.read (offsetAt index) = run.bench.read (offsetAt index)) :
    Tracked bench (run.attempting written bench') where
  registers := h.registers.modify written fun _ _ hdescribes => { hdescribes with }
  same := hsame
  attempted := by
    intro index hindex
    rcases List.mem_append.mp hindex with hindex | hindex
    · exact h.attempted index hindex
    · rw [List.mem_singleton.mp hindex]
      exact hwritten
  counted := by
    show run.result.writesAttempted + 1 = (run.attemptedSettings ++ [written]).length
    rw [List.length_append, h.counted]
    rfl
  untouched := by
    intro index hindex hnot
    rw [show (run.attempting written bench').attemptedSettings = run.attemptedSettings ++ [written]
      from rfl, List.mem_append, List.mem_singleton, not_or] at hnot
    exact (hread index hindex hnot.2).trans (h.untouched index hindex hnot.1)
  notRolledBack := h.notRolledBack

/-- A write to one of the eight, disturbed or not, is not seen at the others. -/
theorem read_writeVmeD16_of_ne (fault : Option Fault) {index index' : Nat} (h : index < 8)
    (h' : index' < 8) (hne : index' ≠ index) (bench : Bench) (value : UInt16) :
    (bench.writeVmeD16 fault (offsetAt index) value).2.read (offsetAt index') =
      bench.read (offsetAt index') := by
  have hoffset : offsetAt index' ≠ offsetAt index := fun heq => hne (offsetAt_inj h' h heq)
  rcases bench.writeVmeD16_cases fault (offsetAt index) value with hcase | hcase
  · rw [hcase]
  · rw [hcase, read_write_of_ne (offsetAt_global h) (offsetAt_global h') hoffset]

/-- The run with a write verified. -/
def Run.settingVerified (run : Run) (index : Nat) (appliedReadback : UInt16) : Run :=
  let run := run.updateSetting index fun setting => { setting with appliedReadback }
  let run := run.updateSetting index fun setting => { setting with writeVerified := true }
  { run with result := { run.result with writesVerified := run.result.writesVerified + 1 } }

/-- An entry that was verified still describes its register. -/
theorem Tracked.settingVerified {bench' : Bench}
    (h : Tracked bench (run.attempting written bench')) (appliedReadback : UInt16) :
    Tracked bench ((run.attempting written bench').settingVerified written appliedReadback) := by
  have hread : Tracked bench ((run.attempting written bench').updateSetting written
      fun setting => { setting with appliedReadback }) :=
    h.updateSetting written fun _ _ hdescribes => { hdescribes with }
  have hverified : Tracked bench (Run.updateSetting _ written
      fun setting => { setting with writeVerified := true }) :=
    hread.updateSetting written fun _ _ hdescribes => { hdescribes with }
  exact { hverified with }

/-- With this register at its target, one register more is done. -/
theorem Clean.settingVerified (h : Clean bench written run) (hdeviates : Deviates bench written)
    {bench' : Bench} (htracked : Tracked bench (run.attempting written bench'))
    (hstopped : bench'.read fw2051AcquisitionControlRegister = fw2051StopAcquisitionValue)
    (hvalues : ∀ index < written + 1, bench'.read (offsetAt index) = targetAt index) :
    Clean bench (written + 1)
      ((run.attempting written bench').settingVerified written (targetAt written)) := by
  have hverified := htracked.settingVerified (targetAt written)
  -- reduced to a literal first, the record gives up its fields one by one
  dsimp only [Run.settingVerified, Run.attempting, Run.updateSetting] at hverified ⊢
  exact {
    toTracked := hverified
    succeeds := h.succeeds
    owned := h.owned
    accepted := h.accepted
    stopSent := h.stopSent
    stopVerified := h.stopVerified
    leftStopped := h.leftStopped
    stopped := hstopped
    values := hvalues
    attempted_eq := by rw [deviating_succ, if_pos hdeviates, h.attempted_eq]
    verified := by
      rw [deviating_succ, if_pos hdeviates, h.verified, List.length_append]
      rfl
    changed := h.changed }

/-- What holds of the module after the write of a register. -/
theorem Clean.afterWrite (h : Clean bench written run) (hwritten : written < 8) :
    let bench' := run.bench.write (offsetAt written) (targetAt written)
    bench'.read fw2051AcquisitionControlRegister = fw2051StopAcquisitionValue ∧
      ∀ index < written + 1, bench'.read (offsetAt index) = targetAt index := by
  have hcontrol : fw2051AcquisitionControlRegister ∈ controlRegisters := List.mem_cons_self
  refine ⟨?_, fun index hindex => ?_⟩
  · rw [read_write_of_ne (offsetAt_global hwritten) (writtenRegisters_global _
      (controlRegisters_written hcontrol)) (offsetAt_ne hwritten hcontrol).symm]
    exact h.stopped
  · rcases Nat.lt_succ_iff_lt_or_eq.mp hindex with hlt | rfl
    · have hne : index ≠ written := Nat.ne_of_lt hlt
      have hother := read_writeVmeD16_of_ne none hwritten (hlt.trans hwritten) hne run.bench
        (targetAt written)
      exact hother.trans (h.values index hlt)
    · exact Bench.read_write

/-- A deviating register is written, or something has gone wrong. -/
theorem attemptSetting_spec (h : Clean bench written run) (hwritten : written < 8)
    (hdeviates : Deviates bench written) :
    let run' := attemptSetting fault run written (run.result.registers.getD written {})
    (fault (.write written) = none ∧ fault (.readback written) = none ∧
        Clean bench (written + 1) run') ∨
      (¬(fault (.write written) = none ∧ fault (.readback written) = none) ∧
        Interrupted bench run') := by
  obtain ⟨hoffset, htarget, -, -⟩ := h.registers.describes written hwritten
  generalize run.result.registers.getD written {} = setting at hoffset htarget ⊢
  have hmem := offsetAt_mem hwritten
  intro run'
  cases hwrite : fault (.write written) with
  | some failed =>
      -- the write was reported lost: the register may hold either value, and only it may have
      -- changed
      refine .inr ⟨by simp, ?_⟩
      have hattempting := h.attempting hwritten (h.same.writeVmeD16 (fault (.write written)) hmem
        (targetAt written)) fun index hindex hne =>
          read_writeVmeD16_of_ne (fault (.write written)) hwritten hindex hne run.bench _
      have heq : run' = (run.attempting written (run.bench.writeVmeD16 (fault (.write written))
          (offsetAt written) (targetAt written)).2).fail
            (registerOperationError "write" setting.name (offsetAt written) failed.error) := by
        show attemptSetting fault run written setting = _
        unfold attemptSetting
        dsimp only
        rw [writeRegister_of_fault hwrite, hoffset, htarget]
        rfl
      rw [heq]
      exact hattempting.fail (registerOperationError_ne _ _ _ _)
  | none =>
      have hattempting := h.attempting hwritten (h.same.write hmem (targetAt written))
        fun index hindex hne => read_writeVmeD16_of_ne none hwritten hindex hne run.bench _
      cases hreadback : fault (.readback written) with
      | some failed =>
          -- the write took effect, but nothing confirms it
          refine .inr ⟨by simp, ?_⟩
          have heq : run' = (run.attempting written (run.bench.write (offsetAt written)
              (targetAt written))).fail
                (registerOperationError "verify" setting.name (offsetAt written) failed.error) := by
            show attemptSetting fault run written setting = _
            unfold attemptSetting
            dsimp only
            rw [writeRegister_of_success hwrite, hreadback, hoffset, htarget]
            rfl
          rw [heq]
          exact hattempting.fail (registerOperationError_ne _ _ _ _)
      | none =>
          -- the reading finds the value that has just been written
          refine .inl ⟨rfl, rfl, ?_⟩
          have heq : run' = (run.attempting written (run.bench.write (offsetAt written)
              (targetAt written))).settingVerified written (targetAt written) := by
            show attemptSetting fault run written setting = _
            unfold attemptSetting
            dsimp only
            rw [writeRegister_of_success hwrite, hreadback, hoffset, htarget]
            dsimp only
            rw [Bench.readVmeD16, Bench.read_write]
            exact if_neg (not_not.mpr rfl)
          rw [heq]
          obtain ⟨hstopped, hvalues⟩ := h.afterWrite hwritten
          exact h.settingVerified hdeviates hattempting hstopped hvalues

/-- A register that does not deviate is passed over. -/
theorem Clean.skip (h : Clean bench written run) (hwritten : written < 8)
    (hholds : ¬Deviates bench written) : Clean bench (written + 1) run where
  toTracked := h.toTracked
  succeeds := h.succeeds
  owned := h.owned
  accepted := h.accepted
  stopSent := h.stopSent
  stopVerified := h.stopVerified
  leftStopped := h.leftStopped
  stopped := h.stopped
  values := by
    intro index hindex
    by_cases heq : index = written
    · subst heq
      have hnot : index ∉ run.attemptedSettings := by
        rw [h.attempted_eq, mem_deviating]
        exact fun hmem => Nat.lt_irrefl _ hmem.1
      rw [h.untouched index hwritten hnot]
      exact not_not.mp hholds
    · exact h.values index (by omega)
  attempted_eq := by
    rw [deviating_succ, if_neg hholds, List.append_nil, h.attempted_eq]
  verified := by
    rw [deviating_succ, if_neg hholds, List.append_nil, h.verified]
  changed := h.changed

/-- One turn of the write loop: the register is at its target afterwards, or the run is interrupted.
-/
theorem writeSetting_spec (h : Clean bench written run) (hwritten : written < 8) :
    (WriteUndisturbed fault gate bench written ∧
        Clean bench (written + 1) (writeSetting fault gate cancellationRequested run written)) ∨
      (¬WriteUndisturbed fault gate bench written ∧
        Interrupted bench (writeSetting fault gate cancellationRequested run written)) := by
  have hchange := (h.registers.describes written hwritten).changeRequired
  unfold writeSetting
  rw [if_pos ⟨h.succeeds, h.owned⟩]
  dsimp only
  rw [hchange]
  by_cases hdeviates : Deviates bench written
  · rw [decide_eq_true hdeviates, if_neg (by decide)]
    rcases reverifyOwnership_cases cancellationRequested h.owned (.write written) with
      ⟨hgate, heq⟩ | ⟨hgate, message, hmessage, heq⟩
    · rw [heq]
      rcases attemptSetting_spec h hwritten hdeviates with ⟨hwrite, hreadback, hclean⟩ | ⟨hdisturbed, hinterrupted⟩
      · exact .inl ⟨fun _ => ⟨hgate, hwrite, hreadback⟩, hclean⟩
      · exact .inr ⟨fun hundisturbed => hdisturbed (hundisturbed hdeviates).2, hinterrupted⟩
    · rw [heq]
      exact .inr ⟨fun hundisturbed => hgate (hundisturbed hdeviates).1,
        h.toTracked.denied hmessage⟩
  · rw [decide_eq_false hdeviates, if_pos (show (!false) = true from rfl)]
    exact .inl ⟨fun hdeviates' => absurd hdeviates' hdeviates, h.skip hwritten hdeviates⟩

theorem writeSetting_of_failed (h : run.failure ≠ "") (index : Nat) :
    writeSetting fault gate cancellationRequested run index = run :=
  if_neg fun hok => h hok.1

/-- The loop gets through unless something interferes with one of its writes. -/
theorem foldl_writeSetting_spec (h : Clean bench 0 run) (hwritten : written ≤ 8) :
    let run' := (List.range written).foldl (writeSetting fault gate cancellationRequested) run
    ((∀ index < written, WriteUndisturbed fault gate bench index) ∧ Clean bench written run') ∨
      (¬(∀ index < written, WriteUndisturbed fault gate bench index) ∧ Interrupted bench run') := by
  induction written with
  | zero => exact .inl ⟨nofun, h⟩
  | succ written ih =>
      intro run'
      have hstep : run' = writeSetting fault gate cancellationRequested
          ((List.range written).foldl (writeSetting fault gate cancellationRequested) run)
          written := by
        show (List.range (written + 1)).foldl _ run = _
        rw [List.range_succ, List.foldl_append]
        rfl
      rw [hstep]
      rcases ih (by omega) with ⟨hall, hclean⟩ | ⟨hsome, hinterrupted⟩
      · rcases writeSetting_spec hclean (by omega) with ⟨hundisturbed, hnext⟩ | ⟨hdisturbed, hnext⟩
        · refine .inl ⟨fun index hindex => ?_, hnext⟩
          rcases Nat.lt_succ_iff_lt_or_eq.mp hindex with hlt | rfl
          · exact hall index hlt
          · exact hundisturbed
        · exact .inr ⟨fun hall => hdisturbed (hall written (by omega)), hnext⟩
      · rw [writeSetting_of_failed hinterrupted.failed]
        exact .inr ⟨fun hall => hsome fun index hindex => hall index (by omega), hinterrupted⟩

/-! ### The stop

The acquisition control is written and read back before the first of the eight registers is touched.
-/

/-- Nothing interferes with the stop. -/
structure StopUndisturbed (fault : Site → Option Fault) (gate : Gate → ScpCaptureGateResult) :
    Prop where
  gate : (gate .stop).status = .allowed
  write : fault .stop = none
  readback : fault .stopReadback = none

theorem Ready.tracked (h : Ready bench run) : Tracked bench run where
  registers := h.registers
  same := by
    rw [h.bench_eq]
    exact .refl bench
  attempted := by
    rw [h.attempted]
    exact nofun
  counted := by
    rw [h.attempted]
    exact h.counted
  untouched := by
    intro index _ _
    rw [h.bench_eq]
  notRolledBack := h.notRolledBack

theorem acquisitionControl_mem : fw2051AcquisitionControlRegister ∈ controlRegisters :=
  List.mem_cons_self

/-- The module stands still with nothing written yet, or the run is interrupted. -/
theorem stopModule_spec (h : Ready bench run) :
    let run' := stopModule fault gate cancellationRequested run
    (StopUndisturbed fault gate ∧ Clean bench 0 run') ∨
      (¬StopUndisturbed fault gate ∧ Interrupted bench run') := by
  intro run'
  have hunfolded : run' = stopModule fault gate cancellationRequested run := rfl
  clear_value run'
  unfold stopModule at hunfolded
  rcases reverifyOwnership_cases cancellationRequested h.owned .stop with
    ⟨hgate, heq⟩ | ⟨hgate, message, hmessage, heq⟩
  swap
  · -- the gate answers no, and nothing has been sent
    rw [heq] at hunfolded
    rw [hunfolded]
    exact .inr ⟨fun hundisturbed => hgate hundisturbed.gate, h.tracked.denied hmessage⟩
  rw [heq] at hunfolded
  dsimp only at hunfolded
  have htracked := @Tracked.control fault bench run h.tracked .stop _ acquisitionControl_mem
    fw2051StopAcquisitionValue
  cases hwrite : fault .stop with
  | some failed =>
      rw [writeRegister_of_fault hwrite] at hunfolded
      rw [hunfolded]
      refine .inr ⟨fun hundisturbed => ?_, htracked.fail (registerOperationError_ne _ _ _ _)⟩
      rw [hundisturbed.write] at hwrite
      cases hwrite
  | none =>
      rw [writeRegister_of_success hwrite] at hunfolded
      rw [hwrite] at htracked
      have hsent : Tracked bench { run with
          bench := run.bench.write fw2051AcquisitionControlRegister fw2051StopAcquisitionValue
          result := { run.result with moduleStopSent := true } } := { htracked with }
      cases hreadback : fault .stopReadback with
      | some failed =>
          rw [hreadback] at hunfolded
          rw [hunfolded]
          refine .inr ⟨fun hundisturbed => ?_, hsent.fail (registerOperationError_ne _ _ _ _)⟩
          rw [hundisturbed.readback] at hreadback
          cases hreadback
      | none =>
          dsimp only at hunfolded
          rw [hreadback, readVmeD16_none] at hunfolded
          dsimp only at hunfolded
          rw [Bench.read_write, if_neg (not_not.mpr rfl)] at hunfolded
          rw [hunfolded]
          refine .inl ⟨⟨hgate, hwrite, hreadback⟩, ?_⟩
          -- no register has been written yet, so the old module is the one that the entries
          -- describe
          exact {
            toTracked := { hsent with }
            succeeds := h.succeeds
            owned := h.owned
            accepted := h.accepted
            stopSent := rfl
            stopVerified := rfl
            leftStopped := rfl
            stopped := Bench.read_write
            values := nofun
            attempted_eq := h.attempted
            verified := h.verified
            changed := h.changed }

/-! ### The reset

The two strobes of the readout reset write to registers of their own, and none of the eight changes.
-/

/-- Nothing interferes with the reset. -/
structure ResetUndisturbed (fault : Site → Option Fault) (gate : Gate → ScpCaptureGateResult) :
    Prop where
  gate : (gate .reset).status = .allowed
  fifo : fault .fifoReset = none
  readout : fault .readoutReset = none

/-- The run with every register written and the readout reset. -/
structure Reset (bench : Bench) (run : Run) : Prop extends Clean bench 8 run where
  fifoResetSent : run.result.fifoResetSent = true
  readoutResetSent : run.result.readoutResetSent = true

/-- A reset strobe changes nothing that the run knows about the module. -/
theorem Clean.strobe (h : Clean bench 8 run) {r : UInt16} (hr : r ∈ controlRegisters)
    (hne : r ≠ fw2051AcquisitionControlRegister) (value : UInt16) :
    Clean bench 8 { run with bench := run.bench.write r value } where
  toTracked := h.toTracked.atBench (h.same.write (controlRegisters_written hr) value)
    fun _ hindex => read_write_control hr _ _ hindex
  succeeds := h.succeeds
  owned := h.owned
  accepted := h.accepted
  stopSent := h.stopSent
  stopVerified := h.stopVerified
  leftStopped := h.leftStopped
  stopped := (read_write_of_ne (writtenRegisters_global _ (controlRegisters_written hr))
    (writtenRegisters_global _ (controlRegisters_written acquisitionControl_mem)) hne.symm).trans
      h.stopped
  values := fun index hindex => (read_write_control hr _ _ hindex).trans (h.values index hindex)
  attempted_eq := h.attempted_eq
  verified := h.verified
  changed := h.changed

/-- Both strobes are sent and change none of the eight, or the run is interrupted. -/
theorem resetReadout_spec (h : Clean bench 8 run) :
    let run' := resetReadout fault gate cancellationRequested run
    (ResetUndisturbed fault gate ∧ Reset bench run') ∨
      (¬ResetUndisturbed fault gate ∧ Interrupted bench run') := by
  intro run'
  have hunfolded : run' = resetReadout fault gate cancellationRequested run := rfl
  clear_value run'
  unfold resetReadout at hunfolded
  rw [if_pos h.succeeds] at hunfolded
  rcases reverifyOwnership_cases cancellationRequested h.owned .reset with
    ⟨hgate, heq⟩ | ⟨hgate, message, hmessage, heq⟩
  swap
  · -- the gate answers no before the first strobe
    rw [heq] at hunfolded
    rw [hunfolded]
    exact .inr ⟨fun hundisturbed => hgate hundisturbed.gate, h.toTracked.denied hmessage⟩
  rw [heq] at hunfolded
  dsimp only at hunfolded
  have hfifoMem : fw2051FifoResetRegister ∈ controlRegisters := by decide
  have hreadoutMem : fw2051ReadoutResetRegister ∈ controlRegisters := by decide
  cases hfifo : fault .fifoReset with
  | some failed =>
      rw [writeRegister_of_fault hfifo] at hunfolded
      rw [hunfolded]
      refine .inr ⟨fun hundisturbed => ?_, (h.toTracked.control .fifoReset hfifoMem
        fw2051ResetCommandValue).fail (registerOperationError_ne _ _ _ _)⟩
      rw [hundisturbed.fifo] at hfifo
      cases hfifo
  | none =>
      rw [writeRegister_of_success hfifo] at hunfolded
      have hstrobed := h.strobe hfifoMem (by decide) fw2051ResetCommandValue
      have hnoted : Clean bench 8 { run with
          bench := run.bench.write fw2051FifoResetRegister fw2051ResetCommandValue
          result := { run.result with fifoResetSent := true } } := { hstrobed with }
      cases hreadout : fault .readoutReset with
      | some failed =>
          dsimp only at hunfolded
          rw [writeRegister_of_fault hreadout] at hunfolded
          rw [hunfolded]
          refine .inr ⟨fun hundisturbed => ?_, (hnoted.toTracked.control .readoutReset hreadoutMem
            fw2051ResetCommandValue).fail (registerOperationError_ne _ _ _ _)⟩
          rw [hundisturbed.readout] at hreadout
          cases hreadout
      | none =>
          dsimp only at hunfolded
          rw [writeRegister_of_success hreadout] at hunfolded
          rw [hunfolded]
          have hreset := hnoted.strobe hreadoutMem (by decide) fw2051ResetCommandValue
          exact .inl ⟨⟨hgate, hfifo, hreadout⟩, { hreset with
            fifoResetSent := rfl
            readoutResetSent := rfl }⟩

/-! ### The final verification

The eight registers are read once more. As they hold their targets, this fails only if one of these
readings is lost. -/

/-- Nothing interferes with the final verification. -/
structure FinalUndisturbed (fault : Site → Option Fault) (gate : Gate → ScpCaptureGateResult) :
    Prop where
  gate : (gate .finalVerification).status = .allowed
  acquisition : fault .finalAcquisition = none
  settings : ∀ index < 8, fault (.finalRead index) = none

theorem foldl_verifySetting_of_failed (h : run.failure ≠ "")
    (settings : List (StartupPreparationRegisterResult × Nat)) :
    settings.foldl (verifySetting fault) run = run := by
  induction settings with
  | nil => rfl
  | cons setting settings ih =>
      have hskip : verifySetting fault run setting = run := if_pos h
      rw [List.foldl_cons, hskip, ih]

/-- Registers that hold their targets are found to, unless a reading is lost. -/
theorem foldl_verifySetting_spec {settings : List (StartupPreparationRegisterResult × Nat)}
    (h : run.failure = "")
    (hvalues : ∀ setting ∈ settings,
      run.bench.read setting.1.registerOffset = setting.1.targetValue) :
    ((∀ setting ∈ settings, fault (.finalRead setting.2) = none) ∧
        settings.foldl (verifySetting fault) run = run) ∨
      (¬(∀ setting ∈ settings, fault (.finalRead setting.2) = none) ∧ ∃ message ≠ "",
        settings.foldl (verifySetting fault) run = run.fail message) := by
  induction settings with
  | nil => exact .inl ⟨nofun, rfl⟩
  | cons setting settings ih =>
      rw [List.foldl_cons]
      cases hread : fault (.finalRead setting.2) with
      | none =>
          have hstep : verifySetting fault run setting = run := by
            unfold verifySetting
            dsimp only
            rw [if_neg (not_not.mpr h), hread, readVmeD16_none]
            exact if_neg (not_not.mpr (hvalues setting List.mem_cons_self))
          rw [hstep]
          -- a register that is read back does not change the run, so the rest starts from the same
          -- one
          rcases ih fun other hother => hvalues other (List.mem_cons_of_mem _ hother) with
            ⟨hall, heq⟩ | ⟨hsome, hfailed⟩
          · refine .inl ⟨fun other hother => ?_, heq⟩
            rcases List.mem_cons.mp hother with rfl | hother
            · exact hread
            · exact hall other hother
          · exact .inr ⟨fun hall => hsome fun other hother =>
              hall other (List.mem_cons_of_mem _ hother), hfailed⟩
      | some failed =>
          have hstep : verifySetting fault run setting = run.fail (registerOperationError
              "final verify" setting.1.name setting.1.registerOffset failed.error) := by
            unfold verifySetting
            dsimp only
            rw [if_neg (not_not.mpr h), hread]
            rfl
          -- the failure ends the loop: the readings after it are skipped
          have hne := registerOperationError_ne "final verify" setting.1.name
            setting.1.registerOffset failed.error
          rw [hstep, foldl_verifySetting_of_failed (failure_fail run hne)]
          refine .inr ⟨fun hall => ?_, _, hne, rfl⟩
          rw [hall setting List.mem_cons_self] at hread
          cases hread

/-- After the write loop every entry finds its register at the target. -/
theorem Clean.entry_holds (h : Clean bench 8 run)
    {setting : StartupPreparationRegisterResult × Nat}
    (hsetting : setting ∈ run.result.registers.zipIdx) :
    setting.2 < 8 ∧ run.bench.read setting.1.registerOffset = setting.1.targetValue := by
  have hget := List.mem_zipIdx_iff_getElem?.mp hsetting
  have hlt : setting.2 < 8 := by
    have hlength := (List.getElem?_eq_some_iff.mp hget).1
    rwa [h.registers.length_eq] at hlength
  have hdescribes := h.registers.describes setting.2 hlt
  rw [List.getD_eq_getElem?_getD, hget] at hdescribes
  refine ⟨hlt, ?_⟩
  show run.bench.read (Option.getD (some setting.1) {}).registerOffset = _
  rw [hdescribes.registerOffset, h.values setting.2 hlt]
  exact hdescribes.targetValue.symm

/-- On a module that is at its targets, the verification fails only by a disturbance of its own. -/
theorem finalVerification_spec (h : Reset bench run) :
    let run' := finalVerification fault gate cancellationRequested run
    (FinalUndisturbed fault gate ∧ Reset bench run') ∨
      (¬FinalUndisturbed fault gate ∧ Interrupted bench run') := by
  intro run'
  have hunfolded : run' = finalVerification fault gate cancellationRequested run := rfl
  clear_value run'
  unfold finalVerification at hunfolded
  rw [if_pos h.succeeds] at hunfolded
  rcases reverifyOwnership_cases cancellationRequested h.owned .finalVerification with
    ⟨hgate, heq⟩ | ⟨hgate, message, hmessage, heq⟩
  swap
  · rw [heq] at hunfolded
    rw [hunfolded]
    exact .inr ⟨fun hundisturbed => hgate hundisturbed.gate, h.toTracked.denied hmessage⟩
  rw [heq] at hunfolded
  dsimp only at hunfolded
  cases hacquisition : fault .finalAcquisition with
  | some failed =>
      have hstep : verifyAcquisition fault run = run.fail (registerOperationError "verify"
          "stopped acquisition" fw2051AcquisitionControlRegister failed.error) := by
        unfold verifyAcquisition
        rw [hacquisition]
        rfl
      have hne := registerOperationError_ne "verify" "stopped acquisition"
        fw2051AcquisitionControlRegister failed.error
      rw [hstep, foldl_verifySetting_of_failed (failure_fail run hne)] at hunfolded
      rw [hunfolded]
      refine .inr ⟨fun hundisturbed => ?_, h.toTracked.fail hne⟩
      rw [hundisturbed.acquisition] at hacquisition
      cases hacquisition
  | none =>
      have hstep : verifyAcquisition fault run = run := by
        unfold verifyAcquisition
        rw [hacquisition, readVmeD16_none]
        dsimp only
        rw [h.stopped, if_neg (not_not.mpr rfl)]
      rw [hstep] at hunfolded
      -- the loop goes over entries, the disturbances are numbered by registers
      have hentries (index : Nat) (hindex : index < 8) : ∃ setting ∈ run.result.registers.zipIdx,
          setting.2 = index := by
        have hlt : index < run.result.registers.length := by
          rw [h.registers.length_eq]
          exact hindex
        exact ⟨(run.result.registers[index], index),
          List.mem_zipIdx_iff_getElem?.mpr (List.getElem?_eq_getElem hlt), rfl⟩
      rcases @foldl_verifySetting_spec fault run run.result.registers.zipIdx h.succeeds
        fun setting hsetting => (h.entry_holds hsetting).2 with ⟨hall, heq⟩ | ⟨hsome, message, hne, heq⟩
      · rw [hunfolded, heq]
        refine .inl ⟨⟨hgate, hacquisition, fun index hindex => ?_⟩, h⟩
        obtain ⟨setting, hsetting, rfl⟩ := hentries index hindex
        exact hall setting hsetting
      · rw [hunfolded, heq]
        refine .inr ⟨fun hundisturbed => hsome fun setting hsetting => ?_, h.toTracked.fail hne⟩
        exact hundisturbed.settings setting.2 (h.entry_holds hsetting).1

/-! ### Up to the rollback

The four stages in a row. A stage after a failure does nothing, so that the first failure is what
the rollback is decided on. -/

/-- Nothing interferes with the operation before the rollback is decided on. -/
structure ContractUndisturbed (fault : Site → Option Fault) (gate : Gate → ScpCaptureGateResult)
    (bench : Bench) : Prop where
  stop : StopUndisturbed fault gate
  writes : ∀ index < 8, WriteUndisturbed fault gate bench index
  reset : ResetUndisturbed fault gate
  final : FinalUndisturbed fault gate

theorem resetReadout_of_failed (h : run.failure ≠ "") :
    resetReadout fault gate cancellationRequested run = run := if_neg h

theorem finalVerification_of_failed (h : run.failure ≠ "") :
    finalVerification fault gate cancellationRequested run = run := if_neg h

theorem writeSettings_of_failed (h : run.failure ≠ "") :
    writeSettings fault gate cancellationRequested run = run := by
  unfold writeSettings
  generalize List.range run.result.registers.length = indexes
  induction indexes with
  | nil => rfl
  | cons index indexes ih => rw [List.foldl_cons, writeSetting_of_failed h, ih]

/-- Nothing of the contract is disturbed and the module is reset, or the run is interrupted. -/
theorem applyContract_spec (h : Ready bench run) :
    let run' := applyContract fault gate cancellationRequested run
    (ContractUndisturbed fault gate bench ∧ Reset bench run') ∨
      (¬ContractUndisturbed fault gate bench ∧ Interrupted bench run') := by
  dsimp only [applyContract]
  rcases @stopModule_spec fault gate cancellationRequested bench run h with
    ⟨hstop, hstopped⟩ | ⟨hstop, hinterrupted⟩
  swap
  · -- the stop failed, and the three phases after it are skipped
    rw [writeSettings_of_failed hinterrupted.failed, resetReadout_of_failed hinterrupted.failed,
      finalVerification_of_failed hinterrupted.failed]
    exact .inr ⟨fun hundisturbed => hstop hundisturbed.stop, hinterrupted⟩
  generalize stopModule fault gate cancellationRequested run = stopped at hstopped ⊢
  rcases @foldl_writeSetting_spec fault gate cancellationRequested bench stopped 8 hstopped
    (Nat.le_refl 8) with ⟨hwrites, hwritten⟩ | ⟨hwrites, hinterrupted⟩
  swap
  · -- a write failed, and the two phases after it are skipped
    unfold writeSettings
    rw [hstopped.registers.length_eq, resetReadout_of_failed hinterrupted.failed,
      finalVerification_of_failed hinterrupted.failed]
    exact .inr ⟨fun hundisturbed => hwrites hundisturbed.writes, hinterrupted⟩
  unfold writeSettings
  rw [hstopped.registers.length_eq]
  generalize (List.range 8).foldl (writeSetting fault gate cancellationRequested) stopped = written
    at hwritten ⊢
  rcases @resetReadout_spec fault gate cancellationRequested bench written hwritten with
    ⟨hreset, hdone⟩ | ⟨hreset, hinterrupted⟩
  swap
  · rw [finalVerification_of_failed hinterrupted.failed]
    exact .inr ⟨fun hundisturbed => hreset hundisturbed.reset, hinterrupted⟩
  generalize resetReadout fault gate cancellationRequested written = done at hdone ⊢
  rcases @finalVerification_spec fault gate cancellationRequested bench done hdone with
    ⟨hfinal, hverified⟩ | ⟨hfinal, hinterrupted⟩
  · exact .inl ⟨⟨hstop, hwrites, hreset, hfinal⟩, hverified⟩
  · exact .inr ⟨fun hundisturbed => hfinal hundisturbed.final, hinterrupted⟩

/-! ### The rollback

It goes through the registers backwards and writes back those that were attempted. `Undoing` is the
invariant with the registers that are still pending; after the last of them it is `RolledBack`. -/

/-- A rollback under way, with the registers of `pending` still to be undone. -/
structure Undoing (bench : Bench) (pending : List Nat) (run : Run) : Prop where
  registers : DescribesAll bench run.result.registers
  same : SameOutside bench run.bench
  pending_lt : ∀ index ∈ pending, index < 8
  failed : run.failure ≠ ""
  tried : run.result.rollbackAttempted = true
  restored : run.rollbackSafe = true → ∀ index < 8, index ∉ pending →
    run.bench.read (offsetAt index) = bench.read (offsetAt index)

/-- What is left when the rollback is over: it was tried if there was anything to undo, and what it
reports as restored is restored. -/
structure RolledBack (bench : Bench) (run : Run) : Prop where
  same : SameOutside bench run.bench
  failed : run.failure ≠ ""
  tried : run.result.writesAttempted > 0 → run.result.rollbackAttempted = true
  restored : run.result.rollbackVerified = true → ∀ index < 8,
    run.bench.read (offsetAt index) = bench.read (offsetAt index)

section Undoing

variable {pending : List Nat} {index : Nat}

/-- From here on nothing is reported as restored. -/
theorem Undoing.abandon (h : Undoing bench (index :: pending) run) {run' : Run}
    (hregisters : DescribesAll bench run'.result.registers) (hsame : SameOutside bench run'.bench)
    (hfailed : run'.failure ≠ "") (htried : run'.result.rollbackAttempted = true) :
    Undoing bench pending { run' with rollbackSafe := false } where
  registers := hregisters
  same := hsame
  pending_lt := fun other hother => h.pending_lt other (List.mem_cons_of_mem _ hother)
  failed := hfailed
  tried := htried
  restored := nofun

/-- The run with the undoing of a register under way. -/
def Run.undoing (run : Run) (index : Nat) (bench : Bench) : Run :=
  { run.updateSetting index fun setting => { setting with rollbackAttempted := true } with
    bench
    result := { (run.updateSetting index fun setting =>
        { setting with rollbackAttempted := true }).result with
      rollbackWritesAttempted := run.result.rollbackWritesAttempted + 1 } }

/-- The run with a register undone. -/
def Run.undone (run : Run) (index : Nat) (rollbackReadback : UInt16) : Run :=
  let run := run.updateSetting index fun setting => { setting with rollbackReadback }
  let run := run.updateSetting index fun setting => { setting with rollbackVerified := true }
  { run with result := { run.result with
      rollbackWritesVerified := run.result.rollbackWritesVerified + 1 } }

/-- An entry that was undone still describes its register. -/
theorem describesAll_undone (h : DescribesAll bench run.result.registers) (index : Nat)
    (bench' : Bench) (rollbackReadback : UInt16) :
    DescribesAll bench ((run.undoing index bench').undone index rollbackReadback).result.registers := by
  have hattempted : DescribesAll bench (run.undoing index bench').result.registers :=
    h.modify index fun _ _ hdescribes => { hdescribes with }
  have hread : DescribesAll bench ((run.undoing index bench').result.registers.modify index
      fun setting => { setting with rollbackReadback }) :=
    hattempted.modify index fun _ _ hdescribes => { hdescribes with }
  exact hread.modify index fun _ _ hdescribes => { hdescribes with }

/-- A register is undone, or the rollback is no longer safe. -/
theorem rollbackSetting_spec (h : Undoing bench (index :: pending) run) :
    Undoing bench pending
      (rollbackSetting fault run index (run.result.registers.getD index {})) := by
  have hlt := h.pending_lt index List.mem_cons_self
  -- the entry says where the register is and what it held
  obtain ⟨hoffset, -, horiginal, -⟩ := h.registers.describes index hlt
  generalize run.result.registers.getD index {} = setting at hoffset horiginal ⊢
  have hmem := offsetAt_mem hlt
  have hattempted : DescribesAll bench
      (run.undoing index (run.bench.writeVmeD16 (fault (.rollbackWrite index)) (offsetAt index)
        (bench.read (offsetAt index))).2).result.registers :=
    h.registers.modify index fun _ _ hdescribes => { hdescribes with }
  have hsame := h.same.writeVmeD16 (fault (.rollbackWrite index)) hmem (bench.read (offsetAt index))
  have hwritten : (fault (.rollbackWrite index)).isNone →
      (run.bench.writeVmeD16 (fault (.rollbackWrite index)) (offsetAt index)
        (bench.read (offsetAt index))).2 = run.bench.write (offsetAt index)
          (bench.read (offsetAt index)) := by
    intro hnone
    rw [Option.isNone_iff_eq_none.mp hnone]
    rfl
  unfold rollbackSetting
  dsimp only
  cases hwrite : fault (.rollbackWrite index) with
  | some failed =>
      rw [writeRegister_of_fault hwrite, hoffset, horiginal]
      exact h.abandon hattempted hsame (failure_fail _ (registerOperationError_ne _ _ _ _)) h.tried
  | none =>
      rw [hwrite] at hwritten hattempted hsame
      rw [hwritten rfl] at hattempted hsame
      rw [writeRegister_of_success hwrite, hoffset, horiginal]
      dsimp only
      cases hreadback : fault (.rollbackReadback index) with
      | some failed =>
          exact h.abandon hattempted hsame (failure_fail _ (registerOperationError_ne _ _ _ _))
            h.tried
      | none =>
          rw [readVmeD16_none]
          dsimp only
          rw [Bench.read_write, if_neg (not_not.mpr rfl)]
          have hundone := describesAll_undone h.registers index
            (run.bench.write (offsetAt index) (bench.read (offsetAt index)))
            (bench.read (offsetAt index))
          exact {
            registers := hundone
            same := hsame
            pending_lt := fun other hother => h.pending_lt other (List.mem_cons_of_mem _ hother)
            failed := h.failed
            tried := h.tried
            restored := by
              intro hsafe other hother hnot
              by_cases heq : other = index
              · rw [heq]
                exact Bench.read_write
              · have hkept := read_writeVmeD16_of_ne none hlt hother heq run.bench
                  (bench.read (offsetAt index))
                exact hkept.trans (h.restored hsafe other hother fun hmem =>
                  (List.mem_cons.mp hmem).elim heq hnot) }

theorem undoing_reverifyOwnership (h : Undoing bench pending run) (site : Gate) :
    let state := reverifyOwnership gate cancellationRequested run site
    (state.1 = true → state.2 = run) ∧ Undoing bench pending state.2 := by
  unfold reverifyOwnership
  split
  · exact ⟨nofun, h⟩
  split
  · exact ⟨fun _ => rfl, h⟩
  · exact ⟨nofun, { h with failed := failure_fail _ (gateFailureMessage_ne _ _) }⟩

/-- After the last turn nothing is pending. -/
theorem rollbackSettings_spec (h : Undoing bench pending run) :
    Undoing bench [] (rollbackSettings fault gate cancellationRequested run pending) := by
  induction pending generalizing run with
  | nil => exact h
  | cons index pending ih =>
      have hverified := @undoing_reverifyOwnership gate cancellationRequested bench run
        (index :: pending) h (.rollback index)
      unfold rollbackSettings
      split
      next heq =>
        rw [heq] at hverified
        obtain ⟨-, hdenied⟩ := hverified
        exact { hdenied with pending_lt := nofun, restored := nofun }
      next verified heq =>
        rw [heq] at hverified
        have hsame : verified = run := hverified.1 rfl
        rw [hsame]
        exact ih (rollbackSetting_spec h)

end Undoing

/-- Whatever interrupted the run, the rollback ends with the module as it was, or says that it is
not safe. -/
theorem rollback_spec (h : Interrupted bench run) :
    RolledBack bench (rollback fault gate cancellationRequested run) := by
  unfold rollback
  by_cases hattempted : run.attemptedSettings = []
  · -- nothing was attempted, so nothing is undone
    rw [if_neg fun hboth => hboth.2 hattempted]
    refine ⟨h.same, h.failed, fun hwrites => ?_, fun hverified => ?_⟩
    · rw [h.counted, hattempted] at hwrites
      cases hwrites
    · rw [h.notRolledBack.2] at hverified
      cases hverified
  · rw [if_pos ⟨h.failed, hattempted⟩]
    dsimp only
    -- the attempted settings are undone last first
    have hundone := @rollbackSettings_spec fault gate cancellationRequested bench
      { run with
        rollbackSafe := run.ownershipAvailable
        result := { run.result with state := .rollingBack, rollbackAttempted := true } }
      run.attemptedSettings.reverse {
        registers := h.registers
        same := h.same
        pending_lt := fun index hindex => h.attempted index (List.mem_reverse.mp hindex)
        failed := h.failed
        tried := rfl
        restored := fun _ index hindex hnot => h.untouched index hindex fun hmem =>
          hnot (List.mem_reverse.mpr hmem) }
    refine ⟨hundone.same, hundone.failed, fun _ => hundone.tried, fun hverified => ?_⟩
    have hsafe := (Bool.and_eq_true_iff.mp hverified).1
    exact fun index hindex => hundone.restored hsafe index hindex List.not_mem_nil

theorem rollback_of_success (h : run.failure = "") :
    rollback fault gate cancellationRequested run = run := if_neg fun hboth => hboth.1 h

/-! ### The last look

Whatever came before, the acquisition is read once more. This reading is the one failure that no
rollback follows. -/

/-- The last look changes neither the module nor what is reported of the rollback. -/
theorem RolledBack.verifyStoppedState (h : RolledBack bench run) :
    RolledBack bench (verifyStoppedState fault gate cancellationRequested run) := by
  -- the last look writes nothing: it can only add a failure
  unfold StartupPreparation.verifyStoppedState reverifyOwnership
  split
  · split
    next heq =>
      split at heq
      · obtain ⟨-, rfl⟩ := Prod.mk.inj heq
        exact h
      split at heq
      · cases heq
      · obtain ⟨-, rfl⟩ := Prod.mk.inj heq
        exact { h with failed := failure_fail _ (gateFailureMessage_ne _ _) }
    next heq =>
      split at heq
      · cases heq
      split at heq
      · obtain ⟨-, rfl⟩ := Prod.mk.inj heq
        split
        · exact { h with failed := failure_fail _ (registerOperationError_ne _ _ _ _) }
        · dsimp only
          split
          · exact { h with }
          · exact { h with failed := failure_fail _ (by decide) }
      · cases heq
  · exact h

/-- Nothing interferes with the last look. -/
structure LookUndisturbed (fault : Site → Option Fault) (gate : Gate → ScpCaptureGateResult) :
    Prop where
  gate : (gate .stoppedState).status = .allowed
  read : fault .stoppedState = none

/-- The last look confirms what has succeeded, or is the first thing to fail. -/
theorem verifyStoppedState_spec (h : Reset bench run) :
    let run' := verifyStoppedState fault gate cancellationRequested run
    (LookUndisturbed fault gate ∧ Reset bench run') ∨
      (¬LookUndisturbed fault gate ∧ Interrupted bench run' ∧
        run'.result.writesAttempted = (deviating bench 8).length) := by
  have hattempted : run.result.writesAttempted = (deviating bench 8).length := by
    rw [h.counted, h.attempted_eq]
  dsimp only
  unfold verifyStoppedState
  rw [if_pos ⟨h.owned, h.stopSent⟩]
  rcases reverifyOwnership_cases cancellationRequested h.owned .stoppedState with
    ⟨hgate, heq⟩ | ⟨hgate, message, hmessage, heq⟩
  · rw [heq]
    dsimp only
    cases hread : fault .stoppedState with
    -- the look was lost
    | some failed =>
        have hlost : Tracked bench { run with
            result := { run.result with moduleLeftStopped := false } } := { h with }
        refine .inr ⟨fun hundisturbed => ?_, hlost.fail (registerOperationError_ne _ _ _ _),
          hattempted⟩
        rw [hundisturbed.read] at hread
        cases hread
    | none =>
        rw [readVmeD16_none]
        dsimp only
        rw [h.stopped, decide_eq_true rfl, if_pos rfl]
        exact .inl ⟨⟨hgate, hread⟩, { h with leftStopped := rfl }⟩
  · rw [heq]
    exact .inr ⟨fun hundisturbed => hgate hundisturbed.gate, h.toTracked.denied hmessage, hattempted⟩

/-! ### The result -/

/-- A run that reached the end has passed. -/
theorem finish_of_reset (h : Reset bench run) : (finish run).state = .passed := by
  have hverified : run.result.writesVerified = run.result.changedSettings := by
    rw [h.verified, h.changed]
  unfold finish
  dsimp only
  exact if_pos ⟨h.succeeds, h.accepted, h.stopVerified, hverified, h.fifoResetSent,
    h.readoutResetSent, h.leftStopped⟩

/-- A run that noted a failure has failed. -/
theorem finish_of_failed (h : run.failure ≠ "") : (finish run).state = .failed := by
  unfold finish
  dsimp only
  exact if_neg fun hpassed => h hpassed.1

end Operation

/-! ### The preparation as a whole

`Ends` has one constructor for each way in which a preparation can end. -/

/-- Nothing interferes with the operation before its last look at the module. -/
structure Undisturbed (fault : Site → Option Fault) (gate : Gate → ScpCaptureGateResult)
    (bench : Bench) (baseAddress : UInt32) (audit : StartupAuditResult) : Prop where
  audit : validateAudit baseAddress audit = ""
  allowed : (gate .preflight).status = .allowed
  preflight : PreflightUndisturbed fault bench
  contract : ContractUndisturbed fault gate bench

/-- How a preparation ends: with everything as it should be, with the last look as its only failure,
or with whatever was attempted rolled back. -/
inductive Ends (fault : Site → Option Fault) (gate : Gate → ScpCaptureGateResult)
    (bench : Bench) (baseAddress : UInt32) (audit : StartupAuditResult) :
    StartupPreparationResult × Bench → Prop where
  | passed {result : StartupPreparationResult} {bench' : Bench}
      (hundisturbed : Undisturbed fault gate bench baseAddress audit)
      (hlook : LookUndisturbed fault gate) (hstate : result.state = .passed)
      (hsame : SameOutside bench bench')
      (hstopped : bench'.read fw2051AcquisitionControlRegister = fw2051StopAcquisitionValue)
      (hvalues : ∀ index < 8, bench'.read (offsetAt index) = targetAt index) :
      Ends fault gate bench baseAddress audit (result, bench')
  | lookLost {result : StartupPreparationResult} {bench' : Bench}
      (hundisturbed : Undisturbed fault gate bench baseAddress audit)
      (hlook : ¬LookUndisturbed fault gate) (hstate : result.state = .failed)
      (hattempted : result.writesAttempted = (deviating bench 8).length)
      (hrollback : result.rollbackAttempted = false ∧ result.rollbackVerified = false) :
      Ends fault gate bench baseAddress audit (result, bench')
  | rolledBack {result : StartupPreparationResult} {bench' : Bench}
      (hdisturbed : ¬Undisturbed fault gate bench baseAddress audit)
      (hstate : result.state = .failed)
      (htried : result.writesAttempted > 0 → result.rollbackAttempted = true)
      (hrestored : result.rollbackVerified = true → ∀ index < 8,
        bench'.read (offsetAt index) = bench.read (offsetAt index)) :
      Ends fault gate bench baseAddress audit (result, bench')

section Preparation

variable {fault : Site → Option Fault} {gate : Gate → ScpCaptureGateResult} {bench : Bench}
  {baseAddress : UInt32} {audit : StartupAuditResult}

/-- A preparation that ends before its first write. -/
theorem ends_unwritten (hdisturbed : ¬Undisturbed fault gate bench baseAddress audit)
    {result : StartupPreparationResult} (hstate : result.state = .failed)
    (hwrites : result.writesAttempted = 0) :
    Ends fault gate bench baseAddress audit (result, bench) := by
  refine .rolledBack hdisturbed hstate (fun hpos => ?_) fun _ _ _ => rfl
  rw [hwrites] at hpos
  cases hpos

/-- What follows a preflight without a failure. -/
theorem ends_of_ready {run : Run} (cancellationRequested : Gate → Bool)
    (haudit : validateAudit baseAddress audit = "") (hallowed : (gate .preflight).status = .allowed)
    (hpreflight : PreflightUndisturbed fault bench) (h : Ready bench run) :
    let run := applyContract fault gate cancellationRequested run
    let run := rollback fault gate cancellationRequested run
    let run := verifyStoppedState fault gate cancellationRequested run
    Ends fault gate bench baseAddress audit (finish run, run.bench) := by
  dsimp only
  rcases @applyContract_spec fault gate cancellationRequested bench run h with
    ⟨hcontract, hreset⟩ | ⟨hcontract, hinterrupted⟩
  · -- the contract was applied, and only the last look may fail
    have hundisturbed : Undisturbed fault gate bench baseAddress audit :=
      ⟨haudit, hallowed, hpreflight, hcontract⟩
    rw [rollback_of_success hreset.succeeds]
    have hlast := @verifyStoppedState_spec fault gate cancellationRequested bench _ hreset
    dsimp only at hlast
    generalize verifyStoppedState fault gate cancellationRequested
      (applyContract fault gate cancellationRequested run) = done at hlast ⊢
    rcases hlast with ⟨hlook, hdone⟩ | ⟨hlook, hlost, hattempted⟩
    · exact .passed hundisturbed hlook (finish_of_reset hdone) hdone.same hdone.stopped hdone.values
    · exact .lookLost hundisturbed hlook (finish_of_failed hlost.failed) hattempted
        hlost.notRolledBack
  · -- it was interrupted: the rollback ran, and the last look adds nothing to it
    have hundone := @RolledBack.verifyStoppedState fault gate cancellationRequested bench _
      (@rollback_spec fault gate cancellationRequested bench _ hinterrupted)
    generalize verifyStoppedState fault gate cancellationRequested (rollback fault gate
      cancellationRequested (applyContract fault gate cancellationRequested run)) = done
      at hundone ⊢
    exact .rolledBack (fun hundisturbed => hcontract hundisturbed.contract)
      (finish_of_failed hundone.failed) hundone.tried hundone.restored

/-- Every preparation ends in one of the ways that `Ends` lists. -/
theorem prepareFw2051ModuleForStartup_ends (fault : Site → Option Fault)
    (gate : Gate → ScpCaptureGateResult) (cancellationRequested : Gate → Bool) (bench : Bench)
    (baseAddress : UInt32) (audit : StartupAuditResult) :
    Ends fault gate bench baseAddress audit (prepareFw2051ModuleForStartup fault
      cancellationRequested bench baseAddress audit (some gate)) := by
  unfold prepareFw2051ModuleForStartup
  dsimp only
  split
  next hrefused => exact ends_unwritten (fun h => hrefused h.audit) rfl rfl
  next haccepted =>
    rw [not_not] at haccepted
    generalize "Validating exact hardware/firmware and capturing the tuner readout contract " ++
      "before the first write..." = message
    have hstart : ({ bench, result := { state := .preparing, message, baseAddress } } : Run) =
        startRun bench message baseAddress := rfl
    rw [hstart]
    rcases reverifyOwnership_cases cancellationRequested
        (show (startRun bench message baseAddress).ownershipAvailable = true from rfl)
        .preflight with ⟨hgate, heq⟩ | ⟨hgate, denial, hdenial, heq⟩
    · rw [heq]
      dsimp only
      by_cases hpreflight : PreflightUndisturbed fault bench
      · have hready := preflight_of_undisturbed hpreflight message baseAddress
        rw [if_neg (not_not.mpr hready.succeeds)]
        exact ends_of_ready cancellationRequested haccepted hgate hpreflight hready
      · rw [if_pos (preflight_of_disturbed hpreflight message baseAddress)]
        -- the preflight only reads, so the module is returned as it was found
        have hunwritten := @unwritten_preflight fault (startRun bench message baseAddress)
        have hwrites := hunwritten.writesAttempted
        rw [hunwritten.bench]
        generalize (preflight fault (startRun bench message baseAddress)).result = result
          at hwrites ⊢
        exact ends_unwritten (fun h => hpreflight h.preflight) rfl hwrites
    · rw [heq]
      exact ends_unwritten (fun h => hgate h.allowed) rfl rfl

end Preparation

end StartupPreparation

end Fidget
