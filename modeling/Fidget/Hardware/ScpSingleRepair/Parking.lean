import Fidget.Hardware.ScpSingleRepair

/-!
# Whether a repair parks the selector

As in the previews, the flag that the selector has been written to is set once the write has been
answered. A repair never starts anything, so that a lost answer leaves the selector unparked but
nothing enabled.

Every stage adds writes to the log, and of each of them it is known whether it selects a bank, parks
the selector or starts anything. So the log of the whole repair is looked at in three parts: before
the selection, between the selection and the parking, and after the parking.

## Main results

- `Sends`: what a stage of the repair adds to the log, and what it leaves alone.
- `prepare_selecting_iff`: with every gate allowing, the selection is reached exactly when the
  stages before it are undisturbed.
- `repairValue_parks`: every selection is followed by a parking unless its answer is lost.
- `repairFw2051ScpProfileValue_park`, `repairFw2051ScpProfileValue_sent`: the same for the
  operation, and that it enables nothing.
-/

namespace Fidget

namespace SingleRepair

/-! ### What the steps send

`Appends` is about the writes, `Sends` in addition about the flag that the selector has been written
to. Stages that only read have both for free. -/

/-- The second run has sent more writes, all of one kind, and left the module as these do. -/
structure Appends (kind : SentWrite → Prop) (run run' : Run) : Prop where
  writes : ∃ writes, run'.sent = run.sent ++ writes ∧ (∀ write ∈ writes, kind write) ∧
    CallTrace.replay SentWrite.effect writes run.bench = run'.bench

/-- It knows no more of a selection. Nothing that is allowed has been denied on the way. -/
structure Sends (gate : Gate → ScpCaptureGateResult) (kind : SentWrite → Prop) (run run' : Run) :
    Prop extends Appends kind run run' where
  selectorWasWritten : run'.selectorWasWritten = run.selectorWasWritten
  owned : (∀ site, (gate site).status = .allowed) → run.ownershipAvailable = true →
    run'.ownershipAvailable = true

section Sends

variable {gate : Gate → ScpCaptureGateResult} {kind kind' : SentWrite → Prop}
  {run run' run'' : Run}

/-- A stage that writes nothing. -/
theorem appends_of_eq (hsent : run'.sent = run.sent) (hbench : run'.bench = run.bench) :
    Appends kind run run' := ⟨[], by rw [hsent, List.append_nil], nofun, hbench.symm⟩

/-- Two stages. -/
theorem Appends.trans (h : Appends kind run run') (h' : Appends kind run' run'') :
    Appends kind run run'' where
  writes := by
    obtain ⟨writes, hsent, hkind, hreplay⟩ := h.writes
    obtain ⟨writes', hsent', hkind', hreplay'⟩ := h'.writes
    refine ⟨writes ++ writes', by rw [hsent', hsent, List.append_assoc], ?_, ?_⟩
    · intro write hwrite
      rcases List.mem_append.mp hwrite with hfirst | hsecond
      · exact hkind write hfirst
      · exact hkind' write hsecond
    · rw [CallTrace.replay_append, hreplay, hreplay']

/-- A stage that sends less. -/
theorem Appends.mono (h : Appends kind run run') (hkind : ∀ write, kind write → kind' write) :
    Appends kind' run run' where
  writes := by
    obtain ⟨writes, hsent, hwrites, hreplay⟩ := h.writes
    exact ⟨writes, hsent, fun write hwrite => hkind write (hwrites write hwrite), hreplay⟩

/-- Nothing is sent. -/
theorem sends_of_eq (hsent : run'.sent = run.sent) (hbench : run'.bench = run.bench)
    (hselected : run'.selectorWasWritten = run.selectorWasWritten)
    (howned : run'.ownershipAvailable = run.ownershipAvailable) : Sends gate kind run run' :=
  ⟨appends_of_eq hsent hbench, hselected, fun _ h => howned.trans h⟩

theorem Sends.refl (run : Run) : Sends gate kind run run := sends_of_eq rfl rfl rfl rfl

/-- Two stages. -/
theorem Sends.trans (h : Sends gate kind run run') (h' : Sends gate kind run' run'') :
    Sends gate kind run run'' where
  toAppends := h.toAppends.trans h'.toAppends
  selectorWasWritten := h'.selectorWasWritten.trans h.selectorWasWritten
  owned := fun hallowed howned => h'.owned hallowed (h.owned hallowed howned)

/-- Noting a failure sends nothing. -/
theorem sends_fail (run : Run) (message : String) : Sends gate kind run (run.fail message) :=
  sends_of_eq rfl rfl rfl rfl

end Sends

section Steps

variable {fault : Site → Option Fault} {gate : Gate → ScpCaptureGateResult}
  {cancellationRequested : Gate → Bool} {definition : Fw2051ScpSettingDefinition}
  {request : ScpSingleRepairRequest} {run : Run} {kind : SentWrite → Prop}

/-- An allowing gate leaves the run as it is. -/
theorem reverifyOwnership_of_allowed (howned : run.ownershipAvailable = true) {site : Gate}
    (hallowed : (gate site).status = .allowed) :
    reverifyOwnership gate cancellationRequested run site = (true, run) := by
  simp [reverifyOwnership, howned, hallowed]

/-- Asking the gate sends nothing. -/
theorem sends_reverifyOwnership (site : Gate) :
    Sends gate kind run (reverifyOwnership gate cancellationRequested run site).2 := by
  unfold reverifyOwnership
  split
  · exact .refl run
  · split
    · exact .refl run
    next hdenied =>
      exact ⟨appends_of_eq rfl rfl, rfl, fun hallowed => absurd (hallowed site) hdenied⟩

/-- What follows a gate is done only if the gate lets it. -/
theorem sends_gated (site : Gate) {act : Run → Run} (h : ∀ run, Sends gate kind run (act run)) :
    Sends gate kind run (match reverifyOwnership gate cancellationRequested run site with
      | (false, run) => run
      | (true, run) => act run) := by
  have hgate := @sends_reverifyOwnership gate cancellationRequested run kind site
  generalize reverifyOwnership gate cancellationRequested run site = answer at hgate ⊢
  obtain ⟨allowed, asked⟩ := answer
  cases allowed with
  | false => exact hgate
  | true => exact hgate.trans (h asked)

/-- A write is one more entry of the log. -/
theorem sends_writeRegister (site : Site) {registerOffset value : UInt16} {parkingWrite : Bool}
    (h : kind (.vme registerOffset value parkingWrite (fault site))) :
    Sends gate kind run (writeRegister fault run site registerOffset value parkingWrite).2 where
  writes := by
    refine ⟨[_], rfl, ?_, rfl⟩
    intro write hwrite
    rwa [List.mem_singleton.mp hwrite]
  selectorWasWritten := rfl
  owned := fun _ howned => howned

/-- A write, and what is done on its failure and after it. -/
theorem sends_write (site : Site) {registerOffset value : UInt16} {parkingWrite : Bool}
    (h : kind (.vme registerOffset value parkingWrite (fault site)))
    {onError : String → Run → Run} {after : Run → Run}
    (hfailed : ∀ error run, Sends gate kind run (onError error run))
    (hafter : ∀ run, Sends gate kind run (after run)) :
    Sends gate kind run
      (match writeRegister fault run site registerOffset value parkingWrite with
      | (some error, run) => onError error run
      | (none, run) => after run) := by
  have hwrite := @sends_writeRegister fault gate run kind site registerOffset value parkingWrite h
  generalize writeRegister fault run site registerOffset value parkingWrite = answer at hwrite ⊢
  obtain ⟨error, written⟩ := answer
  cases error with
  | some error => exact hwrite.trans (hfailed error written)
  | none => exact hwrite.trans (hafter written)

/-- The identity is only read. -/
theorem sends_readHardwareId : Sends gate kind run (readHardwareId fault run) := by
  unfold readHardwareId
  split
  · exact sends_fail run _
  · split
    · exact sends_of_eq rfl rfl rfl rfl
    · exact sends_of_eq rfl rfl rfl rfl

/-- So is the firmware revision. -/
theorem sends_readFirmwareRevision : Sends gate kind run (readFirmwareRevision fault run) := by
  unfold readFirmwareRevision
  split
  · split
    · exact sends_fail run _
    · split
      · exact sends_of_eq rfl rfl rfl rfl
      · exact sends_of_eq rfl rfl rfl rfl
  · exact .refl run

/-- A write that neither selects nor starts. -/
theorem plain_global {registerOffset value : UInt16} {parkingWrite : Bool} {fault : Option Fault}
    (hselector : registerOffset ≠ fw2051ScpSelectorRegister)
    (hstop : registerOffset = fw2051AcquisitionControlRegister →
      value = fw2051StopAcquisitionValue) :
    (SentWrite.vme registerOffset value parkingWrite fault).Plain :=
  ⟨aside_vme hselector, fun henables => henables.2 (hstop henables.1)⟩

/-- Stopping is such a write. -/
theorem sends_stopModule :
    Sends gate SentWrite.Plain run (stopModule fault gate cancellationRequested run) := by
  unfold stopModule
  split
  · split
    · exact sends_fail run _
    next acquisitionState _ =>
      have hnoted : Sends gate SentWrite.Plain run (run.noteReading .acquisition
        fw2051AcquisitionControlRegister acquisitionState) := sends_of_eq rfl rfl rfl rfl
      dsimp only
      split
      · exact hnoted.trans (sends_of_eq rfl rfl rfl rfl)
      · refine hnoted.trans (sends_gated .stop fun run => ?_)
        refine sends_write .stop (plain_global (by decide) fun _ => rfl)
          (fun error run => sends_fail run _) fun run => ?_
        dsimp only
        split
        · exact sends_of_eq rfl rfl rfl rfl
        · split
          · exact sends_of_eq rfl rfl rfl rfl
          · exact sends_of_eq rfl rfl rfl rfl
  · exact .refl run

/-- The dependency is only read. -/
theorem sends_checkDependency :
    Sends gate kind run (checkDependency fault definition request run) := by
  unfold checkDependency
  split
  · dsimp only
    split
    · exact sends_of_eq rfl rfl rfl rfl
    · split
      · exact sends_of_eq rfl rfl rfl rfl
      · exact sends_of_eq rfl rfl rfl rfl
  · exact .refl run

/-- So is the live value. -/
theorem sends_captureLiveValue : Sends gate kind run (captureLiveValue fault request run) := by
  unfold captureLiveValue
  split
  · split
    · exact sends_fail run _
    · exact sends_of_eq rfl rfl rfl rfl
  · exact .refl run

/-- Comparing it sends nothing. -/
theorem sends_checkLiveValue : Sends gate kind run (checkLiveValue request run) := by
  unfold checkLiveValue
  split
  · exact sends_fail run _
  · exact .refl run

/-- The write of the profile value. -/
theorem sends_writeProfileValue (hbanked : request.registerOffset ∈ scpRegisterOffsets) :
    Sends gate SentWrite.Plain run
      (writeProfileValue fault gate cancellationRequested request run) := by
  unfold writeProfileValue
  split
  · refine sends_gated .write fun run => ?_
    unfold attemptWrite
    extract_lets _ attempted
    have hattempted : Sends gate SentWrite.Plain run attempted := sends_of_eq rfl rfl rfl rfl
    refine hattempted.trans (sends_write .write (plain_banked hbanked)
      (fun error run => sends_fail run _) fun run => ?_)
    split
    · exact sends_fail run _
    · dsimp only
      split
      · exact sends_of_eq rfl rfl rfl rfl
      · exact sends_of_eq rfl rfl rfl rfl
  · exact .refl run

/-- Its rollback. -/
theorem sends_rollback (hbanked : request.registerOffset ∈ scpRegisterOffsets) :
    Sends gate SentWrite.Plain run (rollback fault gate cancellationRequested request run) := by
  unfold rollback
  split
  · refine sends_gated .rollback fun run => ?_
    unfold attemptRollback
    extract_lets _ attempted
    have hattempted : Sends gate SentWrite.Plain run attempted := sends_of_eq rfl rfl rfl rfl
    refine hattempted.trans (sends_write .rollbackWrite (plain_banked hbanked)
      (fun error run => sends_fail run _) fun run => ?_)
    split
    · exact sends_fail run _
    · dsimp only
      split
      · exact sends_of_eq rfl rfl rfl rfl
      · exact sends_of_eq rfl rfl rfl rfl
  · exact .refl run

/-- A reset of the readout. -/
theorem sends_sendReset {site : Gate} {call : Site} {name : String} {registerOffset : UInt16}
    {note : ScpSingleRepairResult → ScpSingleRepairResult}
    (hselector : registerOffset ≠ fw2051ScpSelectorRegister)
    (hcontrol : registerOffset ≠ fw2051AcquisitionControlRegister) :
    Sends gate SentWrite.Plain run
      (sendReset fault gate cancellationRequested run site call name registerOffset note) := by
  unfold sendReset
  split
  · refine sends_gated site fun run => ?_
    exact sends_write call (plain_global hselector fun h => absurd h hcontrol)
      (fun error run => sends_fail run _) fun run => sends_of_eq rfl rfl rfl rfl
  · exact .refl run

/-- The last look at the module. -/
theorem sends_verifyStoppedState :
    Sends gate kind run (verifyStoppedState fault gate cancellationRequested run) := by
  unfold verifyStoppedState
  split
  · refine sends_gated .stoppedState fun run => ?_
    split
    · exact sends_fail run _
    · split
      · exact sends_of_eq rfl rfl rfl rfl
      · exact sends_of_eq rfl rfl rfl rfl
  · exact .refl run

/-! ### The selection and the parking

The flag is set when the selection has been answered. The parking looks at the flag, so a selection
whose answer is lost is not parked. -/

variable (fault request) in
/-- The write that selects the bank. -/
def selection : SentWrite := .vme fw2051ScpSelectorRegister request.quad false (fault .select)

variable (fault) in
/-- The write that parks the selector. -/
def parking : SentWrite := .vme fw2051ScpSelectorRegister 0 true (fault .park)

/-- The selection is sent at most once. -/
theorem appends_selectBank (h : kind (selection fault request)) :
    Appends kind run (selectBank fault gate cancellationRequested request run) := by
  unfold selectBank
  split
  · have hgate := (@sends_reverifyOwnership gate cancellationRequested run kind .select).toAppends
    generalize reverifyOwnership gate cancellationRequested run .select = answer at hgate ⊢
    obtain ⟨allowed, asked⟩ := answer
    cases allowed with
    | false => exact hgate
    | true =>
        refine hgate.trans ?_
        have hwrite := (@sends_writeRegister fault gate asked kind .select _ _ _ h).toAppends
        dsimp only
        generalize writeRegister fault asked .select fw2051ScpSelectorRegister request.quad false =
          answer at hwrite ⊢
        obtain ⟨error, written⟩ := answer
        cases error with
        | some error => exact hwrite.trans (appends_of_eq rfl rfl)
        | none => exact hwrite.trans (appends_of_eq rfl rfl)
  · exact appends_of_eq rfl rfl

/-- So is the parking. -/
theorem sends_parkSelector (h : kind (parking fault)) :
    Sends gate kind run (parkSelector fault gate cancellationRequested run) := by
  unfold parkSelector
  split
  · refine sends_gated .park fun run => ?_
    refine sends_write .park h (fun error run => sends_fail run _) fun run => ?_
    exact sends_of_eq rfl rfl rfl rfl
  · exact .refl run

section Allowed

variable (hallowed : ∀ site, (gate site).status = .allowed) (howned : run.ownershipAvailable = true)
include hallowed howned

/-- A selection is known to have been sent if it was answered. -/
theorem selectBank_of_selecting
    (h : run.failure = "" ∧ run.result.moduleStopVerified = true) :
    let selected := selectBank fault gate cancellationRequested request run
    selected.sent = run.sent ++ [selection fault request] ∧
      selected.selectorWasWritten = (run.selectorWasWritten || (fault .select).isNone) ∧
      selected.ownershipAvailable = true := by
  rw [selectBank, if_pos h, reverifyOwnership_of_allowed howned (hallowed _), selection]
  simp only [writeRegister, Bench.writeVmeD16]
  cases fault .select with
  | none => exact ⟨rfl, (Bool.or_true _).symm, howned⟩
  | some failed => exact ⟨rfl, (Bool.or_false _).symm, howned⟩

/-- It is sent if a selection is known to have been written. -/
theorem sent_parkSelector :
    (parkSelector fault gate cancellationRequested run).sent =
      run.sent ++ if run.selectorWasWritten then [parking fault] else [] := by
  rw [parkSelector]
  split
  · rw [reverifyOwnership_of_allowed howned (hallowed _), parking]
    simp only [writeRegister, Bench.writeVmeD16]
    cases fault .park with
    | none => rfl
    | some failed => rfl
  · rw [List.append_nil]

end Allowed

/-! ### The whole repair

The stages are grouped around the selection and the parking, and the order of the source is kept. -/

variable (fault gate cancellationRequested) in
/-- The steps up to the selection. -/
def prepare (run : Run) : Run :=
  stopModule fault gate cancellationRequested (readFirmwareRevision fault (readHardwareId fault run))

variable (fault gate cancellationRequested definition request) in
/-- The steps between the selection and the parking. -/
def attempt (run : Run) : Run :=
  rollback fault gate cancellationRequested request
    (writeProfileValue fault gate cancellationRequested request
      (checkLiveValue request (captureLiveValue fault request
        (checkDependency fault definition request run))))

variable (fault gate cancellationRequested) in
/-- The steps after the parking. -/
def settle (run : Run) : Run :=
  verifyStoppedState fault gate cancellationRequested
    (resetReadout fault gate cancellationRequested (resetFifo fault gate cancellationRequested run))

/-- The repair in five parts. -/
theorem repairValue_eq : repairValue fault gate cancellationRequested definition request run =
    settle fault gate cancellationRequested (parkSelector fault gate cancellationRequested
      (attempt fault gate cancellationRequested definition request
        (selectBank fault gate cancellationRequested request
          (prepare fault gate cancellationRequested run)))) := rfl

/-- Up to the selection. -/
theorem sends_prepare :
    Sends gate SentWrite.Plain run (prepare fault gate cancellationRequested run) :=
  sends_readHardwareId.trans (sends_readFirmwareRevision.trans sends_stopModule)

/-- From the selection to the parking. -/
theorem sends_attempt (hbanked : request.registerOffset ∈ scpRegisterOffsets) :
    Sends gate SentWrite.Plain run
      (attempt fault gate cancellationRequested definition request run) :=
  sends_checkDependency.trans (sends_captureLiveValue.trans (sends_checkLiveValue.trans
    ((sends_writeProfileValue hbanked).trans (sends_rollback hbanked))))

/-- From the parking on. -/
theorem sends_settle :
    Sends gate SentWrite.Plain run (settle fault gate cancellationRequested run) :=
  (sends_sendReset (by decide) (by decide)).trans
    ((sends_sendReset (by decide) (by decide)).trans sends_verifyStoppedState)

/-- Nothing that the repair sends enables anything. -/
theorem appends_repairValue (hbanked : request.registerOffset ∈ scpRegisterOffsets) :
    Appends (¬SentWrite.Enables ·) run
      (repairValue fault gate cancellationRequested definition request run) := by
  have hplain : ∀ write : SentWrite, write.Plain → ¬write.Enables := fun _ h => h.enables
  have hpark : ¬(parking fault).Enables := not_enables_selector
  rw [repairValue_eq]
  exact (sends_prepare.mono hplain).trans ((appends_selectBank not_enables_selector).trans
    (((sends_attempt hbanked).mono hplain).trans
      ((@sends_parkSelector fault gate _ _ _ hpark).toAppends.trans
        (sends_settle.mono hplain))))

/-! ### Whether the selection is reached

With every gate allowing, the selection is reached exactly when the module is identified and its
stop is verified, and this can be read off the faults. -/

/-- The repair gets as far as the selection. -/
structure Reaches (fault : Site → Option Fault) (bench : Bench) : Prop where
  hardwareId : fault .hardwareId = none
  approved : isWriteApprovedMdpp32HardwareId (bench.read 0x6008) = true
  firmwareRevision : fault .firmwareRevision = none
  firmware : bench.read 0x600E = mdpp32ScpFirmwareRevisionFw2051
  acquisition : fault .acquisition = none
  stopped : bench.read fw2051AcquisitionControlRegister = fw2051StopAcquisitionValue ∨
    fault .stop = none ∧ fault .stopReadback = none

/-- A failure that is noted is there. -/
theorem failure_fail {message : String} (h : message ≠ "") : (run.fail message).failure ≠ "" :=
  appendFailure_ne _ h

/-- The module is an approved one, or the run has failed. -/
theorem readHardwareId_cases :
    (fault .hardwareId = none ∧ isWriteApprovedMdpp32HardwareId (run.bench.read 0x6008) = true ∧
      readHardwareId fault run =
        run.noteReading .hardwareId 0x6008 (run.bench.read 0x6008)) ∨
    (¬(fault .hardwareId = none ∧
        isWriteApprovedMdpp32HardwareId (run.bench.read 0x6008) = true) ∧
      (readHardwareId fault run).failure ≠ "") := by
  unfold readHardwareId
  cases hfault : fault .hardwareId with
  | some failed => exact .inr ⟨nofun, failure_fail (registerOperationError_ne _ _ _ _)⟩
  | none =>
      rw [Bench.readVmeD16]
      dsimp only
      split
      next happroved => exact .inl ⟨rfl, happroved, rfl⟩
      next hrefused =>
        refine .inr ⟨fun h => hrefused h.2, failure_fail ?_⟩
        split <;> decide

/-- The firmware is the expected one, or the run has failed. -/
theorem readFirmwareRevision_cases (hsucceeds : run.failure = "") :
    (fault .firmwareRevision = none ∧ run.bench.read 0x600E = mdpp32ScpFirmwareRevisionFw2051 ∧
      readFirmwareRevision fault run =
        run.noteReading .firmwareRevision 0x600E (run.bench.read 0x600E)) ∨
    (¬(fault .firmwareRevision = none ∧
        run.bench.read 0x600E = mdpp32ScpFirmwareRevisionFw2051) ∧
      (readFirmwareRevision fault run).failure ≠ "") := by
  rw [readFirmwareRevision, if_pos hsucceeds]
  cases hfault : fault .firmwareRevision with
  | some failed => exact .inr ⟨nofun, failure_fail (registerOperationError_ne _ _ _ _)⟩
  | none =>
      rw [Bench.readVmeD16]
      dsimp only
      split
      next hother => exact .inr ⟨fun h => hother h.2, failure_fail (by decide)⟩
      next hfirmware => exact .inl ⟨rfl, not_not.mp hfirmware, rfl⟩

/-- The stop is verified if the write and the readback are undisturbed. -/
theorem sendStop_selecting_iff (hsucceeds : run.failure = "") :
    ((sendStop fault run).failure = "" ∧ (sendStop fault run).result.moduleStopVerified = true) ↔
      fault .stop = none ∧ fault .stopReadback = none := by
  simp only [sendStop, writeRegister, Bench.writeVmeD16]
  cases hstop : fault .stop with
  | some failed =>
      refine iff_of_false (fun h => ?_) fun h => Option.some_ne_none failed h.1
      exact failure_fail (registerOperationError_ne _ _ _ _) h.1
  | none =>
      dsimp only
      cases hreadback : fault .stopReadback with
      | some failed =>
          refine iff_of_false (fun h => ?_) fun h => Option.some_ne_none failed h.2
          exact failure_fail (registerOperationError_ne _ _ _ _) h.1
      | none =>
          refine iff_of_true ?_ ⟨rfl, rfl⟩
          rw [Bench.readVmeD16, Bench.read_write]
          exact ⟨hsucceeds, rfl⟩

/-- So it is behind an allowing gate. -/
theorem stopModule_selecting_iff (hallowed : ∀ site, (gate site).status = .allowed)
    (howned : run.ownershipAvailable = true) (hsucceeds : run.failure = "") :
    let stopped := stopModule fault gate cancellationRequested run
    (stopped.failure = "" ∧ stopped.result.moduleStopVerified = true) ↔
      fault .acquisition = none ∧
        (run.bench.read fw2051AcquisitionControlRegister = fw2051StopAcquisitionValue ∨
          fault .stop = none ∧ fault .stopReadback = none) := by
  rw [stopModule, if_pos hsucceeds]
  cases hacquisition : fault .acquisition with
  | some failed =>
      refine iff_of_false (fun h => ?_) nofun
      exact failure_fail (registerOperationError_ne _ _ _ _) h.1
  | none =>
      rw [Bench.readVmeD16]
      dsimp only
      split
      next hstopped => exact iff_of_true ⟨hsucceeds, rfl⟩ ⟨rfl, .inl hstopped⟩
      next hrunning =>
        have hnoted : (run.noteReading .acquisition fw2051AcquisitionControlRegister
          (run.bench.read fw2051AcquisitionControlRegister)).ownershipAvailable = true := howned
        rw [reverifyOwnership_of_allowed hnoted (hallowed _)]
        refine (@sendStop_selecting_iff fault (run.noteReading ..) hsucceeds).trans ?_
        simp [hrunning]

/-- So it is for all that comes before the selection. -/
theorem prepare_selecting_iff (hallowed : ∀ site, (gate site).status = .allowed)
    (howned : run.ownershipAvailable = true) (hsucceeds : run.failure = "") :
    let prepared := prepare fault gate cancellationRequested run
    (prepared.failure = "" ∧ prepared.result.moduleStopVerified = true) ↔
      Reaches fault run.bench := by
  unfold prepare
  -- a run that has failed is passed through the remaining steps
  have hfailed : ∀ run : Run, run.failure ≠ "" →
      stopModule fault gate cancellationRequested run = run := fun _ h => if_neg h
  rcases @readHardwareId_cases fault run with ⟨hfault, happroved, heq⟩ | ⟨hnot, hne⟩
  · rw [heq]
    rcases @readFirmwareRevision_cases fault
        (run.noteReading .hardwareId 0x6008 (run.bench.read 0x6008)) hsucceeds with
      ⟨hfault', hfirmware, heq⟩ | ⟨hnot, hne⟩
    · rw [heq]
      refine (@stopModule_selecting_iff fault gate cancellationRequested
        ((run.noteReading ..).noteReading ..) hallowed howned hsucceeds).trans ?_
      exact ⟨fun h => ⟨hfault, happroved, hfault', hfirmware, h.1, h.2⟩,
        fun h => ⟨h.acquisition, h.stopped⟩⟩
    · rw [hfailed _ hne]
      exact iff_of_false (fun h => hne h.1) fun h => hnot ⟨h.firmwareRevision, h.firmware⟩
  · have hread : readFirmwareRevision fault (readHardwareId fault run) = readHardwareId fault run :=
      if_neg hne
    rw [hread, hfailed _ hne]
    exact iff_of_false (fun h => hne h.1) fun h => hnot ⟨h.hardwareId, h.approved⟩

/-! ### Whether it is parked -/

/-- With every gate allowing, only a lost selection stays unparked. -/
theorem repairValue_parks (hallowed : ∀ site, (gate site).status = .allowed)
    (hbanked : request.registerOffset ∈ scpRegisterOffsets)
    (howned : run.ownershipAvailable = true) (hsucceeds : run.failure = "")
    (hunsent : run.sent = [])
    (hunselected : run.selectorWasWritten = false) :
    ParksAfterSelecting
        (repairValue fault gate cancellationRequested definition request run).sent ↔
      ¬(Reaches fault run.bench ∧ fault .select ≠ none) := by
  rw [repairValue_eq]
  have hprepared := @sends_prepare fault gate cancellationRequested run
  have hreaches := @prepare_selecting_iff fault gate cancellationRequested run hallowed howned
    hsucceeds
  generalize prepare fault gate cancellationRequested run = prepared at hprepared hreaches ⊢
  have howned' := hprepared.owned hallowed howned
  obtain ⟨before, hbefore, hplain, -⟩ := hprepared.writes
  rw [hunsent, List.nil_append] at hbefore
  -- what follows the selection: the attempt, the parking if it is known of, and the rest
  have hafter : ∀ selected : Run, selected.ownershipAvailable = true → ∃ attempted settled,
      (∀ write ∈ attempted, write.Plain) ∧ (∀ write ∈ settled, write.Plain) ∧
      (settle fault gate cancellationRequested (parkSelector fault gate cancellationRequested
        (attempt fault gate cancellationRequested definition request selected))).sent =
        selected.sent ++ (attempted ++ (if selected.selectorWasWritten then [parking fault] else [])
          ++ settled) := by
    intro selected howned
    have hattempt := @sends_attempt fault gate cancellationRequested definition request selected
      hbanked
    obtain ⟨attempted, hattempted, hplain, -⟩ := hattempt.writes
    obtain ⟨settled, hsettled, hplain', -⟩ := (@sends_settle fault gate cancellationRequested
      (parkSelector fault gate cancellationRequested
        (attempt fault gate cancellationRequested definition request selected))).writes
    refine ⟨attempted, settled, hplain, hplain', ?_⟩
    rw [hsettled, sent_parkSelector hallowed (hattempt.owned hallowed howned), hattempted,
      hattempt.selectorWasWritten]
    simp only [List.append_assoc]
  by_cases hselecting : Reaches fault run.bench
  · obtain ⟨hsent, hselected, howned⟩ := @selectBank_of_selecting fault gate cancellationRequested
      request prepared hallowed howned' (hreaches.mpr hselecting)
    obtain ⟨attempted, settled, hattempted, hsettled, hall⟩ := hafter _ howned
    rw [hprepared.selectorWasWritten, hunselected, Bool.false_or] at hselected
    rw [hall, hsent, hselected, hbefore]
    refine (parksAfterSelecting_iff hplain (fun hanswered => ?_) fun hlost => ?_).trans ?_
    · rw [hanswered, Option.isNone_none, if_pos rfl]
      refine ⟨?_, parking fault, ?_, rfl, rfl, rfl⟩
      · refine CallTrace.answered_of_forall_not fun write hwrite => ?_
        simp only [List.mem_append, List.mem_singleton] at hwrite
        rcases hwrite with (hwrite | rfl) | hwrite
        · exact (hattempted write hwrite).selects
        · exact not_selects_parking
        · exact (hsettled write hwrite).selects
      · exact List.mem_append_left _ (List.mem_append_right _ List.mem_cons_self)
    · rw [Option.isNone_eq_false_iff.mpr (Option.isSome_iff_ne_none.mpr hlost),
        if_neg Bool.false_ne_true, List.append_nil]
      intro write hwrite
      rcases List.mem_append.mp hwrite with hwrite | hwrite
      · exact (hattempted write hwrite).toAside
      · exact (hsettled write hwrite).toAside
    · simp [hselecting]
  · -- the selection is not reached, and nothing selects a bank
    have hskipped : selectBank fault gate cancellationRequested request prepared = prepared :=
      if_neg fun h => hselecting (hreaches.mp h)
    obtain ⟨attempted, settled, hattempted, hsettled, hall⟩ := hafter prepared howned'
    rw [hskipped, hall, hprepared.selectorWasWritten, hunselected, if_neg Bool.false_ne_true,
      List.append_nil, hbefore]
    refine iff_of_true (answered_of_aside fun write hwrite => ?_) fun h => hselecting h.1
    simp only [List.mem_append] at hwrite
    rcases hwrite with hwrite | hwrite | hwrite
    · exact (hplain write hwrite).toAside
    · exact (hattempted write hwrite).toAside
    · exact (hsettled write hwrite).toAside

end Steps

end SingleRepair

/-! ### The operation -/

section Repair

open SingleRepair

/-- The repair passes its checks and gets as far as the selection. -/
structure RepairSelects (fault : Site → Option Fault) (bench : Bench)
    (request : ScpSingleRepairRequest) : Prop extends Reaches fault bench where
  accepted : SingleRepair.validateRequest request = ""

/-- An accepted request names a setting of the registry. -/
theorem findFw2051ScpSetting_of_accepted {request : ScpSingleRepairRequest}
    (h : SingleRepair.validateRequest request = "") :
    ∃ definition, findFw2051ScpSetting request.registerOffset = some definition := by
  rw [← Option.isSome_iff_exists, Option.isSome_iff_ne_none]
  intro hnone
  unfold SingleRepair.validateRequest at h
  simp only [hnone, Option.isNone_none, if_true] at h
  split_ifs at h <;> exact absurd h (by decide)

variable (fault : Site → Option Fault) (cancellationRequested : Gate → Bool) (bench : Bench)
  (request : ScpSingleRepairRequest)

/-- The writes account for all that the repair does to the module, and none of them enables
anything. -/
theorem repairFw2051ScpProfileValue_sent (ownershipGate : Option (Gate → ScpCaptureGateResult)) :
    let run := repairFw2051ScpProfileValue fault cancellationRequested bench request ownershipGate
    CallTrace.replay SentWrite.effect run.sent bench = run.bench ∧
      ∀ write ∈ run.sent, ¬write.Enables := by
  unfold repairFw2051ScpProfileValue
  dsimp only
  have hnothing : CallTrace.replay SentWrite.effect [] bench = bench ∧
    ∀ write ∈ ([] : List SentWrite), ¬write.Enables := ⟨rfl, nofun⟩
  split
  · exact hnothing
  next hvalid =>
    obtain ⟨definition, hdefinition⟩ := findFw2051ScpSetting_of_accepted (not_not.mp hvalid)
    cases ownershipGate with
    | none => rw [hdefinition]; exact hnothing
    | some gate =>
        rw [hdefinition]
        dsimp only
        have hbanked : request.registerOffset ∈ scpRegisterOffsets :=
          findFw2051ScpSetting_isSome.mp (by rw [hdefinition]; rfl)
        have hgate := (@sends_reverifyOwnership gate cancellationRequested
          { bench, result := initialResult request } (¬SentWrite.Enables ·) .repair).toAppends
        generalize SingleRepair.reverifyOwnership gate cancellationRequested
          { bench, result := initialResult request } .repair = answer at hgate ⊢
        obtain ⟨allowed, asked⟩ := answer
        cases allowed with
        -- the gate refuses, which is noted without a write
        | false =>
            obtain ⟨writes, hsent, hkind, hreplay⟩ := hgate.writes
            rw [List.nil_append] at hsent
            dsimp only [SingleRepair.refuse]
            rw [hsent]
            exact ⟨hreplay, hkind⟩
        | true =>
            have hrepair := hgate.trans (@appends_repairValue fault gate cancellationRequested
              definition request asked hbanked)
            obtain ⟨writes, hsent, hkind, hreplay⟩ := hrepair.writes
            rw [List.nil_append] at hsent
            dsimp only
            rw [hsent]
            exact ⟨hreplay, hkind⟩

variable {fault bench request} in
/-- If nothing is denied, the selector is parked exactly if its selection is not lost. -/
theorem repairFw2051ScpProfileValue_park {gate : Gate → ScpCaptureGateResult}
    (hallowed : ∀ site, (gate site).status = .allowed) :
    ParksAfterSelecting (repairFw2051ScpProfileValue fault cancellationRequested bench request
        (some gate)).sent ↔
      ¬(RepairSelects fault bench request ∧ fault .select ≠ none) := by
  unfold repairFw2051ScpProfileValue
  dsimp only
  split
  next hrefused => exact iff_of_true trivial fun h => hrefused h.1.accepted
  next hvalid =>
    have haccepted := not_not.mp hvalid
    obtain ⟨definition, hdefinition⟩ := findFw2051ScpSetting_of_accepted haccepted
    have hbanked : request.registerOffset ∈ scpRegisterOffsets :=
      findFw2051ScpSetting_isSome.mp (by rw [hdefinition]; rfl)
    have hasked : SingleRepair.reverifyOwnership gate cancellationRequested
        { bench, result := initialResult request } .repair =
          (true, { bench, result := initialResult request }) :=
      reverifyOwnership_of_allowed rfl (hallowed .repair)
    rw [hdefinition]
    dsimp only
    rw [hasked]
    dsimp only
    refine (repairValue_parks hallowed hbanked rfl rfl rfl rfl).trans (not_congr ?_)
    exact and_congr_left' ⟨fun h => ⟨h, haccepted⟩, RepairSelects.toReaches⟩

end Repair

end Fidget
