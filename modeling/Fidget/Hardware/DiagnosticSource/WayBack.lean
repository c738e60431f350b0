import Fidget.Hardware.DiagnosticSource

/-!
# The way back to the original waveform source

Through any calls that change or restore the source, whichever of their own calls fail, a bank has
the sample configuration it had before the first of them, or the record of the session holds that
configuration; and no value is ever sent to the register that differs from it in other bits than
those of the source.

The invariant of a call, `SourceRun.Kept`, is about the bank and the record alone. Around it there
are three stronger ones for the three parts of a change: `SourceCaptured` up to the rollback,
`SourceSettled` from there on, and `SourceRestoring` for a restoration. They carry the results noted
so far, because what is done at the end of a call depends on these.

## Main results

- `SourceKept`: the invariant between any two calls.
- `kept_write_configuration`: the write to the configuration keeps it, since the record is on disk
  before.
- `kept_changeDiagnosticWaveformSource`, `kept_restoreDiagnosticWaveformSource`: a change and a
  restoration keep it, whichever of their calls fail.
- `sourceCalls_leaveWayBack`: so does any list of calls, from a session without a pending
  restoration.
-/

namespace Fidget

/-- The bits of a sample configuration that do not belong to the source. -/
def sourceless (configuration : UInt16) : UInt16 := configuration &&& 0xFFFC

/-- The requested configuration differs from the original in the bits of the source only. -/
theorem sourceless_requested (original : UInt16) {source : UInt8} (h : ¬source > 3) :
    sourceless ((original &&& 0xFFFC) ||| source.toUInt16) = sourceless original := by
  have hsource : source.toUInt16 &&& 0xFFFC = 0 := by
    have hfin : ∀ n : Fin 4, (UInt8.ofNat n).toUInt16 &&& 0xFFFC = 0 := by decide
    have hle := UInt8.le_iff_toNat_le.mp (UInt8.not_lt.mp h)
    have heq := hfin ⟨source.toNat, Nat.lt_succ_of_le hle⟩
    rwa [UInt8.ofNat_toNat] at heq
  have hdistrib : ∀ x y z : UInt16, (x ||| y) &&& z = (x &&& z) ||| (y &&& z) := fun x y z =>
    UInt16.toBitVec_inj.mp BitVec.and_or_distrib_right
  unfold sourceless
  rw [hdistrib, hsource, UInt16.and_assoc, UInt16.and_self, UInt16.or_zero]

/-! ### What holds between any two calls

The record on disk either has no restoration pending, and then every bank is as it was before the
first call, or it names one bank and holds its configuration. -/

/-- `original` is what the banks had before the first call. -/
structure SourceKept (original : Nat → UInt16) (bench : Bench) (record : TunerRecoveryRecord)
    (written : List (BankCell × UInt16)) : Prop where
  wayBack : ∀ quad, bench.banks (quad, sampleConfigurationRegister) = original quad ∨
    (record.sourceRestoreRequired = true ∧ record.sourceQuad.toNat = quad)
  recorded : record.sourceRestoreRequired = true →
    record.sourceOriginalConfiguration = original record.sourceQuad.toNat
  otherBits : ∀ quad, sourceless (bench.banks (quad, sampleConfigurationRegister)) =
    sourceless (original quad)
  sent : ∀ entry ∈ written, entry.1.2 = sampleConfigurationRegister →
    sourceless entry.2 = sourceless (original entry.1.1)

/-- The invariant of a run. -/
def SourceRun.Kept (original : Nat → UInt16) (run : SourceRun) : Prop :=
  SourceKept original run.bench run.session.recoveryRecord run.written

/-- Only the banks matter. -/
theorem SourceKept.of_banks {original : Nat → UInt16} {bench bench' : Bench}
    {record : TunerRecoveryRecord} {written : List (BankCell × UInt16)}
    (h : SourceKept original bench record written) (hbanks : bench'.banks = bench.banks) :
    SourceKept original bench' record written where
  wayBack := by rw [hbanks]; exact h.wayBack
  recorded := h.recorded
  otherBits := by rw [hbanks]; exact h.otherBits
  sent := h.sent

section Steps

variable {original : Nat → UInt16} {fault : SourceSite → Option Fault} {save : SourceJournalSaver}
  {cancellationRequested : SourceCancellation → Bool} {recoveryJournalPath : String}
  {run : SourceRun} {site : SourceSite} {quad : UInt16}

/-! ### Writes

A call sends values to the configuration register in four places. All of them differ from the
original in the bits of the source at most, and all come when the record can restore the bank. -/

/-- The configuration is in the banks. -/
theorem sampleConfigurationRegister_mem : sampleConfigurationRegister ∈ scpRegisterOffsets := by
  decide

/-- A write to the selector changes no bank. -/
theorem kept_write_selector (h : run.Kept original) (value : UInt16) :
    (run.write fault site fw2051ScpSelectorRegister value).2.Kept original where
  wayBack := by
    rw [show (run.write fault site fw2051ScpSelectorRegister value).2.bench.banks = run.bench.banks
      from (Bench.sameButSelector_writeVmeD16 run.bench (fault site) value).banks]
    exact h.wayBack
  recorded := h.recorded
  otherBits := by
    rw [show (run.write fault site fw2051ScpSelectorRegister value).2.bench.banks = run.bench.banks
      from (Bench.sameButSelector_writeVmeD16 run.bench (fault site) value).banks]
    exact h.otherBits
  sent := by
    intro entry hentry hregister
    rcases List.mem_append.mp hentry with hentry | hentry
    · exact h.sent entry hentry hregister
    · rw [List.mem_singleton.mp hentry] at hregister
      have hne : fw2051ScpSelectorRegister ≠ sampleConfigurationRegister := by decide
      exact absurd hregister hne

/-- A configuration that differs in the source at most may be sent to a bank that the record can
restore. -/
theorem kept_write_configuration (h : run.Kept original)
    (hrequired : run.session.recoveryRecord.sourceRestoreRequired = true)
    (hquad : run.session.recoveryRecord.sourceQuad = quad) (hselector : run.bench.selector = quad)
    {value : UInt16} (hvalue : sourceless value = sourceless (original quad.toNat)) :
    (run.write fault site sampleConfigurationRegister value).2.Kept original := by
  have hother : ∀ quad', quad' ≠ quad.toNat →
      (run.write fault site sampleConfigurationRegister value).2.bench.banks
        (quad', sampleConfigurationRegister) =
      run.bench.banks (quad', sampleConfigurationRegister) := by
    intro quad' hne
    rcases run.bench.writeVmeD16_cases (fault site) sampleConfigurationRegister value with hcase | hcase
    · exact congrArg (·.banks (quad', sampleConfigurationRegister)) hcase
    · show (run.bench.writeVmeD16 (fault site) sampleConfigurationRegister value).2.banks _ = _
      rw [hcase, Bench.banks_write_of_banked sampleConfigurationRegister_mem, hselector,
        Function.update_of_ne (fun heq => hne (congrArg Prod.fst heq))]
  refine ⟨fun quad' => ?_, h.recorded, fun quad' => ?_, fun entry hentry hregister => ?_⟩
  · -- in the bank that is written to, the record is the way back
    by_cases heq : quad' = quad.toNat
    · exact .inr ⟨hrequired, by rw [heq]; exact congrArg UInt16.toNat hquad⟩
    · rw [hother quad' heq]
      exact h.wayBack quad'
  · by_cases heq : quad' = quad.toNat
    · subst heq
      rcases run.bench.writeVmeD16_cases (fault site) sampleConfigurationRegister value
        with hcase | hcase
      · show sourceless ((run.bench.writeVmeD16 (fault site) sampleConfigurationRegister
          value).2.banks _) = _
        rw [hcase]
        exact h.otherBits _
      · show sourceless ((run.bench.writeVmeD16 (fault site) sampleConfigurationRegister
          value).2.banks _) = _
        rw [hcase, Bench.banks_write_of_banked sampleConfigurationRegister_mem, hselector,
          Function.update_self]
        exact hvalue
    · rw [hother quad' heq]
      exact h.otherBits quad'
  · rcases List.mem_append.mp hentry with hentry | hentry
    · exact h.sent entry hentry hregister
    · rw [List.mem_singleton.mp hentry, hselector]
      exact hvalue

/-- A write that nothing disturbs takes effect. -/
theorem SourceRun.write_of_success {registerOffset value : UInt16} (h : fault site = none)
    (run : SourceRun) : run.write fault site registerOffset value = (none, { run with
      bench := run.bench.write registerOffset value
      written := run.written ++ [((run.bench.selector.toNat, registerOffset), value)]
      sent := run.sent ++ [.vme registerOffset value (site = .park) (fault site)] }) := by
  rw [SourceRun.write, h]
  rfl

/-- A disturbed one is reported. -/
theorem SourceRun.write_of_fault {registerOffset value : UInt16} {failed : Fault}
    (h : fault site = some failed) (run : SourceRun) :
    run.write fault site registerOffset value = (some failed.error,
      (run.write fault site registerOffset value).2) := by
  rw [SourceRun.write, h]
  rfl

/-- A read that succeeds is exact. -/
theorem read_of_ok {registerOffset value : UInt16} {failed : Option Fault} {bench : Bench}
    (h : bench.readVmeD16 failed registerOffset = .ok value) : value = bench.read registerOffset := by
  cases failed with
  | none => exact (Except.ok.inj h).symm
  | some failed => cases h

/-! ### A change, up to its write

The bank is selected and the configuration captured. If a restoration is pending, it is the record
and not the register that says what the original was. -/

/-- Nothing has been sent to the bank yet. -/
structure Unwritten (run : SourceRun) : Prop where
  attempted : run.result.writeAttempted = false
  verified : run.result.writeVerified = false
  rolledBack : run.result.rollbackVerified = false
  armed : run.recoveryRestoreArmed = false

/-- The bank has been selected, if the transaction has come that far. -/
structure QuadChosen (original : Nat → UInt16) (quad : UInt16) (run : SourceRun) : Prop where
  kept : run.Kept original
  recordQuad : run.session.recoveryRecord.sourceRestoreRequired = true →
    run.session.recoveryRecord.sourceQuad = quad
  selector : run.selectorSelected = true → run.bench.selector = quad
  notCaptured : run.result.originalCaptured = false
  unwritten : Unwritten run

/-- What is known of the configurations, and what the outcomes noted so far say of the bank. -/
structure SourceCaptured (original : Nat → UInt16) (quad : UInt16) (run : SourceRun) : Prop where
  kept : run.Kept original
  recordQuad : run.session.recoveryRecord.sourceRestoreRequired = true →
    run.session.recoveryRecord.sourceQuad = quad
  selector : run.result.originalCaptured = true → run.bench.selector = quad
  found : run.result.originalCaptured = true →
    sourceless run.result.originalConfiguration = sourceless (original quad.toNat)
  requested : run.result.originalCaptured = true →
    sourceless run.result.requestedConfiguration = sourceless (original quad.toNat)
  fresh : run.result.originalCaptured = true → run.sourceWasAlreadyActive = false →
    run.result.originalConfiguration = original quad.toNat
  restore : run.result.originalCaptured = true → run.restoreConfiguration = original quad.toNat
  active : run.sourceWasAlreadyActive = true →
    run.session.recoveryRecord.sourceRestoreRequired = true
  returns : run.returnsToOriginal = true → run.result.originalCaptured = true ∧
    run.sourceWasAlreadyActive = true ∧
    run.result.requestedConfiguration = original quad.toNat
  attempted : run.result.writeAttempted = true → run.result.originalCaptured = true ∧
    run.session.recoveryRecord.sourceRestoreRequired = true
  verified : run.result.writeVerified = true →
    run.bench.banks (quad.toNat, sampleConfigurationRegister) = run.result.requestedConfiguration
  rolledBack : run.result.rollbackVerified = true → run.result.originalCaptured = true ∧
    run.bench.banks (quad.toNat, sampleConfigurationRegister) = run.result.originalConfiguration
  armed : run.recoveryRestoreArmed = true → run.sourceWasAlreadyActive = false

/-- Noting a failure sends nothing. -/
theorem SourceCaptured.fail (h : SourceCaptured original quad run) (message : String) :
    SourceCaptured original quad (run.fail message) := ⟨h.kept, h.recordQuad, h.selector, h.found,
  h.requested, h.fresh, h.restore, h.active, h.returns, h.attempted, h.verified, h.rolledBack,
  h.armed⟩

/-- The bank is selected or not, and nothing else changes. -/
theorem selectSourceQuad_spec (h : run.Kept original) (hselected : run.selectorSelected = false) :
    let chosen := selectSourceQuad fault quad run
    chosen.Kept original ∧ (chosen.selectorSelected = true → chosen.bench.selector = quad) ∧
      chosen.session = run.session ∧ chosen.result = run.result ∧
      chosen.recoveryRestoreArmed = run.recoveryRestoreArmed := by
  have hnot : ∀ {P : Prop}, run.selectorSelected = true → P := fun hs => by
    rw [hselected] at hs
    cases hs
  unfold selectSourceQuad
  split
  · have hkept := @kept_write_selector _ fault _ .select h quad
    cases hfault : fault .select with
    | some failed =>
        rw [SourceRun.write_of_fault hfault]
        exact ⟨hkept, hnot, rfl, rfl, rfl⟩
    | none =>
        rw [SourceRun.write_of_success hfault] at hkept ⊢
        exact ⟨hkept, fun _ => Bench.selector_write_selector, rfl, rfl, rfl⟩
  · exact ⟨h, hnot, rfl, rfl, rfl⟩

/-- Nothing has been captured yet. -/
theorem QuadChosen.notCaptured_absurd (h : QuadChosen original quad run) {P : Prop}
    (hcaptured : run.result.originalCaptured = true) : P := by
  rw [h.notCaptured] at hcaptured
  cases hcaptured

/-- The configuration is captured as it is in the bank. -/
theorem sourceCaptured_captureSource {request : DiagnosticSourceChangeRequest}
    (hsource : ¬request.requestedSource > 3) (h : QuadChosen original quad run) :
    let captured := captureSource fault request run
    SourceCaptured original quad captured ∧ Unwritten captured ∧
      (captured.result.originalCaptured = true →
        captured.bench.banks (quad.toNat, sampleConfigurationRegister) =
          captured.result.originalConfiguration) := by
  have hnone : ∀ {P : Prop}, run.result.originalCaptured = true → P := h.notCaptured_absurd
  have hattempted : ∀ {P : Prop}, run.result.writeAttempted = true → P := fun ht => by
    rw [h.unwritten.attempted] at ht
    cases ht
  have hverified : ∀ {P : Prop}, run.result.writeVerified = true → P := fun ht => by
    rw [h.unwritten.verified] at ht
    cases ht
  have hrolledBack : ∀ {P : Prop}, run.result.rollbackVerified = true → P := fun ht => by
    rw [h.unwritten.rolledBack] at ht
    cases ht
  have harmed : ∀ {P : Prop}, run.recoveryRestoreArmed = true → P := fun ht => by
    rw [h.unwritten.armed] at ht
    cases ht
  have hunwritten := h.unwritten
  have hreturns : ∀ {b : Bool} {P : Prop},
      (run.session.recoveryRecord.sourceRestoreRequired && run.result.originalCaptured && b) =
        true → P := fun ht => by
    rw [h.notCaptured, Bool.and_false, Bool.false_and] at ht
    cases ht
  unfold captureSource
  dsimp only
  split
  · next hselected =>
    have hselector := h.selector hselected
    split
    · exact ⟨⟨h.kept, h.recordQuad, hnone, hnone, hnone, hnone, hnone, id, hreturns, hattempted,
        hverified, hrolledBack, harmed⟩, ⟨hunwritten.attempted, hunwritten.verified,
        hunwritten.rolledBack, hunwritten.armed⟩, hnone⟩
    next found heq =>
      have hfound : found = run.bench.banks (quad.toNat, sampleConfigurationRegister) := by
        rw [read_of_ok heq, Bench.read_of_banked sampleConfigurationRegister_mem, hselector]
      have hfoundBits : sourceless found = sourceless (original quad.toNat) := by
        rw [hfound]
        exact h.kept.otherBits _
      -- with no restoration pending, the bank still holds the original
      have hfresh : run.session.recoveryRecord.sourceRestoreRequired = false →
          found = original quad.toNat := by
        intro hinactive
        rw [hfound]
        rcases h.kept.wayBack quad.toNat with heq | ⟨hactive, -⟩
        · exact heq
        · rw [hinactive] at hactive
          cases hactive
      -- with one pending, the record says what the original was
      have hrestore : (if run.session.recoveryRecord.sourceRestoreRequired = true then
          run.session.recoveryRecord.sourceOriginalConfiguration else found) =
            original quad.toNat := by
        split
        next hactive => rw [h.kept.recorded hactive, h.recordQuad hactive]
        next hinactive => exact hfresh (Bool.eq_false_iff.mpr hinactive)
      refine ⟨⟨h.kept, h.recordQuad, fun _ => hselector, fun _ => hfoundBits, fun _ => ?_,
        fun _ => hfresh, fun _ => hrestore, id, fun ht => ?_, hattempted, hverified, hrolledBack,
        harmed⟩, ⟨hunwritten.attempted, hunwritten.verified, hunwritten.rolledBack,
        hunwritten.armed⟩, fun _ => hfound.symm⟩
      · exact (sourceless_requested found hsource).trans hfoundBits
      · simp only [Bool.and_eq_true, beq_iff_eq] at ht
        obtain ⟨⟨hactive, -⟩, hreturn⟩ := ht
        exact ⟨rfl, hactive, hreturn.trans hrestore⟩
  · exact ⟨⟨h.kept, h.recordQuad, hnone, hnone, hnone, hnone, hnone, id, hreturns, hattempted,
      hverified, hrolledBack, harmed⟩, ⟨hunwritten.attempted, hunwritten.verified,
      hunwritten.rolledBack, hunwritten.armed⟩, hnone⟩

/-! ### The write of a change and its rollback

The record is armed first. After that a lost write, a lost readback and a lost rollback are all the
same to the invariant: the record stands. -/

/-- The record is saved and taken over, or an error is reported. -/
theorem saveSourceRecoveryState_cases (save : SourceJournalSaver) (recoveryJournalPath : String)
    (run : SourceRun) (site : SourceSave) (quad originalConfiguration appliedConfiguration : UInt16) :
    (∃ error, saveSourceRecoveryState save recoveryJournalPath run site quad originalConfiguration
        appliedConfiguration = (some error, run)) ∨
      saveSourceRecoveryState save recoveryJournalPath run site quad originalConfiguration
        appliedConfiguration = (none, { run with session := { run.session with
          recoveryRecord := sourceRecoveryRecord run.session.recoveryRecord (site = .arm) quad
            originalConfiguration appliedConfiguration } }) := by
  unfold saveSourceRecoveryState
  dsimp only
  split
  next error _ => exact .inl ⟨error, rfl⟩
  · exact .inr rfl

/-- The record is there before the write is. -/
theorem sourceCaptured_armSourceRecovery {request : DiagnosticSourceChangeRequest}
    (hquad : request.selectedQuad = quad) (h : SourceCaptured original quad run)
    (hcaptured : run.result.originalCaptured = true) :
    let armed := armSourceRecovery save recoveryJournalPath request run
    SourceCaptured original quad armed ∧ armed.result = run.result ∧
      (armed.failure = "" → armed.session.recoveryRecord.sourceRestoreRequired = true) := by
  unfold armSourceRecovery
  dsimp only
  split
  · rcases saveSourceRecoveryState_cases save recoveryJournalPath run .arm request.selectedQuad
      run.restoreConfiguration run.result.requestedConfiguration with ⟨error, hsave⟩ | hsave
    · -- the save failed: nothing is armed, and the run has an error
      rw [hsave]
      refine ⟨h.fail _, rfl, fun hempty => ?_⟩
      refine absurd hempty (appendFailure_ne _ (append_ne (append_ne ?_ _) _))
      decide
    · -- the save succeeded: the record names the request's quad and its original source
      rw [hsave]
      refine ⟨⟨⟨fun quad' => ?_, fun _ => ?_, h.kept.otherBits, h.kept.sent⟩, fun _ => hquad,
        h.selector, h.found, h.requested, h.fresh, h.restore, fun _ => rfl, h.returns,
        fun ht => ⟨(h.attempted ht).1, rfl⟩, h.verified, h.rolledBack, fun ht => ?_⟩, rfl,
        fun _ => rfl⟩
      · rcases h.kept.wayBack quad' with heq | ⟨hactive, hrecord⟩
        · exact .inl heq
        · rw [h.recordQuad hactive] at hrecord
          exact .inr ⟨rfl, by rw [← hrecord, ← hquad]; rfl⟩
      · show run.restoreConfiguration = original request.selectedQuad.toNat
        rw [h.restore hcaptured, hquad]
      · exact Bool.not_eq_true' _ ▸ ht
  next hreturning =>
    rw [not_or, Bool.not_eq_true', Bool.not_eq_false, Bool.not_eq_true', Bool.not_eq_false]
      at hreturning
    exact ⟨h, rfl, fun _ => h.active hreturning.1⟩

/-- Sending a value to the selected bank, of which the outcomes noted so far say nothing. -/
theorem SourceCaptured.write (h : SourceCaptured original quad run)
    (hcaptured : run.result.originalCaptured = true)
    (hrequired : run.session.recoveryRecord.sourceRestoreRequired = true)
    (hverified : run.result.writeVerified = false) (hrolledBack : run.result.rollbackVerified = false)
    {value : UInt16} (hvalue : sourceless value = sourceless (original quad.toNat)) :
    SourceCaptured original quad (run.write fault site sampleConfigurationRegister value).2 where
  kept := kept_write_configuration h.kept hrequired (h.recordQuad hrequired) (h.selector hcaptured)
    hvalue
  recordQuad := h.recordQuad
  selector := fun _ => by
    show (run.bench.writeVmeD16 (fault site) sampleConfigurationRegister value).2.selector = quad
    rcases run.bench.writeVmeD16_cases (fault site) sampleConfigurationRegister value
      with hcase | hcase
    · rw [hcase, h.selector hcaptured]
    · rw [hcase, Bench.selector_write_of_banked sampleConfigurationRegister_mem,
        h.selector hcaptured]
  found := h.found
  requested := h.requested
  fresh := h.fresh
  restore := h.restore
  active := h.active
  returns := h.returns
  attempted := h.attempted
  -- neither flag has been set yet, so that nothing is claimed of the bank
  verified := fun ht => by
    rw [show (run.write fault site sampleConfigurationRegister value).2.result = run.result from rfl,
      hverified] at ht
    cases ht
  rolledBack := fun ht => by
    rw [show (run.write fault site sampleConfigurationRegister value).2.result = run.result from rfl,
      hrolledBack] at ht
    cases ht
  armed := h.armed

/-- An attempt is noted once the record is armed. -/
theorem SourceCaptured.attempt (h : SourceCaptured original quad run)
    (hcaptured : run.result.originalCaptured = true)
    (hrequired : run.session.recoveryRecord.sourceRestoreRequired = true) :
    SourceCaptured original quad { run with result := { run.result with writeAttempted := true } } :=
  ⟨h.kept, h.recordQuad, h.selector, h.found, h.requested, h.fresh, h.restore, h.active, h.returns,
    fun _ => ⟨hcaptured, hrequired⟩, h.verified, h.rolledBack, h.armed⟩

/-- What the selected bank reads. -/
theorem SourceCaptured.readback (h : SourceCaptured original quad run)
    (hcaptured : run.result.originalCaptured = true) {failed : Option Fault} {value : UInt16}
    (hread : run.bench.readVmeD16 failed sampleConfigurationRegister = .ok value) :
    run.bench.banks (quad.toNat, sampleConfigurationRegister) = value := by
  rw [read_of_ok hread, Bench.read_of_banked sampleConfigurationRegister_mem, h.selector hcaptured]

/-- The write of the change and its readback. -/
theorem sourceCaptured_sendSource (h : SourceCaptured original quad run)
    (hcaptured : run.result.originalCaptured = true)
    (hrequired : run.failure = "" → run.session.recoveryRecord.sourceRestoreRequired = true)
    (hverified : run.result.writeVerified = false)
    (hrolledBack : run.result.rollbackVerified = false) :
    SourceCaptured original quad (sendSource fault run) ∧
      (sendSource fault run).result.rollbackVerified = false := by
  unfold sendSource
  split
  next hfailure =>
    have hwritten := @SourceCaptured.write _ fault _ .write _
      (h.attempt hcaptured (hrequired hfailure)) hcaptured (hrequired hfailure) hverified hrolledBack _
      (h.requested hcaptured)
    dsimp only
    cases hfault : fault .write with
    | some failed =>
        rw [SourceRun.write_of_fault hfault]
        exact ⟨hwritten.fail _, hrolledBack⟩
    | none =>
        rw [SourceRun.write_of_success hfault] at hwritten ⊢
        dsimp only
        split
        · exact ⟨hwritten.fail _, hrolledBack⟩
        next readback hread =>
          have hbank := hwritten.readback hcaptured hread
          split
          -- only an equal readback sets the flag
          next heq =>
            exact ⟨⟨hwritten.kept, hwritten.recordQuad, hwritten.selector, hwritten.found,
              hwritten.requested, hwritten.fresh, hwritten.restore, hwritten.active,
              hwritten.returns, hwritten.attempted, fun _ => hbank.trans heq, hwritten.rolledBack,
              hwritten.armed⟩, hrolledBack⟩
          · exact ⟨⟨hwritten.kept, hwritten.recordQuad, hwritten.selector, hwritten.found,
              hwritten.requested, hwritten.fresh, hwritten.restore, hwritten.active,
              hwritten.returns, hwritten.attempted, hwritten.verified, hwritten.rolledBack,
              hwritten.armed⟩, hrolledBack⟩
  · exact ⟨h, hrolledBack⟩

/-- The record is armed and the change is sent, unless it is cancelled in between. -/
theorem sourceCaptured_applySource {request : DiagnosticSourceChangeRequest}
    (hquad : request.selectedQuad = quad) (h : SourceCaptured original quad run)
    (hunwritten : Unwritten run)
    (hlive : run.result.originalCaptured = true →
      run.bench.banks (quad.toNat, sampleConfigurationRegister) =
        run.result.originalConfiguration) :
    SourceCaptured original quad
        (applySource fault save cancellationRequested recoveryJournalPath request run) ∧
      (applySource fault save cancellationRequested recoveryJournalPath request
        run).result.rollbackVerified = false := by
  unfold applySource
  split
  · exact ⟨h.fail _, hunwritten.rolledBack⟩
  · split
    next hcaptured =>
      split
      next heq =>
        exact ⟨⟨h.kept, h.recordQuad, h.selector, h.found, h.requested, h.fresh, h.restore,
          h.active, h.returns, h.attempted, fun _ => (hlive hcaptured).trans heq.symm, h.rolledBack,
          h.armed⟩, hunwritten.rolledBack⟩
      · obtain ⟨harmed, hresult, hrequired⟩ :=
          @sourceCaptured_armSourceRecovery _ save recoveryJournalPath _ _ _ hquad h hcaptured
        refine sourceCaptured_sendSource harmed ?_ hrequired ?_ ?_
        · rw [hresult]
          exact hcaptured
        · rw [hresult]
          exact hunwritten.verified
        · rw [hresult]
          exact hunwritten.rolledBack
    · exact ⟨h, hunwritten.rolledBack⟩

/-- A rollback is noted as verified if the bank holds what was captured. -/
theorem SourceCaptured.noteRollback (h : SourceCaptured original quad run)
    (hcaptured : run.result.originalCaptured = true) {value : UInt16}
    (hbank : run.bench.banks (quad.toNat, sampleConfigurationRegister) = value) :
    SourceCaptured original quad { run with result := { run.result with
      restoredReadback := value
      rollbackVerified := value = run.result.originalConfiguration } } :=
  ⟨h.kept, h.recordQuad, h.selector, h.found, h.requested, h.fresh, h.restore, h.active, h.returns,
    h.attempted, h.verified, fun ht => ⟨hcaptured, hbank.trans (of_decide_eq_true ht)⟩, h.armed⟩

/-- The rollback and its readback. -/
theorem sourceCaptured_rollbackSource (h : SourceCaptured original quad run)
    (hrolledBack : run.result.rollbackVerified = false) :
    SourceCaptured original quad (rollbackSource fault run) := by
  unfold rollbackSource
  split
  -- a rollback is attempted only for a write that was attempted and not verified
  next hneeded =>
    obtain ⟨hattempted, hunverified, hcaptured⟩ := hneeded
    have hrequired := (h.attempted hattempted).2
    have hattempt : SourceCaptured original quad
        { run with result := { run.result with rollbackAttempted := true } } :=
      ⟨h.kept, h.recordQuad, h.selector, h.found, h.requested, h.fresh, h.restore, h.active,
        h.returns, h.attempted, h.verified, h.rolledBack, h.armed⟩
    have hwritten := @SourceCaptured.write _ fault _ .rollbackWrite _ hattempt hcaptured hrequired
      (Bool.not_eq_true' _ ▸ hunverified) hrolledBack _ (h.found hcaptured)
    dsimp only
    cases hfault : fault .rollbackWrite with
    | some failed =>
        rw [SourceRun.write_of_fault hfault]
        exact hwritten.fail _
    | none =>
        rw [SourceRun.write_of_success hfault] at hwritten ⊢
        dsimp only
        split
        · exact hwritten.fail _
        next readback hread =>
          have hverified := hwritten.noteRollback hcaptured (hwritten.readback hcaptured hread)
          split
          · exact hverified
          · exact hverified.fail _
  · exact h

/-! ### The end of a change

The record is relieved only if the bank is known to hold the original, either because nothing was
attempted or because the rollback was read back. -/

/-- When the record is to be relieved of the configuration, the bank has it. -/
structure SourceSettled (original : Nat → UInt16) (quad : UInt16) (run : SourceRun) : Prop where
  kept : run.Kept original
  recordQuad : run.session.recoveryRecord.sourceRestoreRequired = true →
    run.session.recoveryRecord.sourceQuad = quad
  inactive : (run.returnsToOriginal && run.result.writeVerified) = true ∨
      (run.recoveryRestoreArmed && run.result.rollbackVerified) = true →
    run.bench.banks (quad.toNat, sampleConfigurationRegister) = original quad.toNat

/-- After the rollback, what is left is to tidy up. -/
theorem SourceCaptured.settled (h : SourceCaptured original quad run) :
    SourceSettled original quad run where
  kept := h.kept
  recordQuad := h.recordQuad
  inactive := by
    simp only [Bool.and_eq_true]
    rintro (⟨hreturns, hverified⟩ | ⟨harmed, hrolledBack⟩)
    · exact (h.verified hverified).trans (h.returns hreturns).2.2
    · obtain ⟨hcaptured, hbank⟩ := h.rolledBack hrolledBack
      exact hbank.trans (h.fresh hcaptured (h.armed harmed))

/-- Parking the selector. -/
theorem sourceSettled_parkSourceSelector (h : SourceSettled original quad run) :
    SourceSettled original quad (parkSourceSelector fault run) := by
  have hkept := @kept_write_selector _ fault _ .park h.kept 0
  have hbanks : (run.write fault .park fw2051ScpSelectorRegister 0).2.bench.banks =
      run.bench.banks := (Bench.sameButSelector_writeVmeD16 run.bench (fault .park) 0).banks
  unfold parkSourceSelector
  split
  · cases hfault : fault .park with
    | some failed =>
        rw [SourceRun.write_of_fault hfault]
        exact ⟨hkept, h.recordQuad, fun hinactive =>
          (congrFun hbanks _).trans (h.inactive hinactive)⟩
    | none =>
        rw [SourceRun.write_of_success hfault] at hkept hbanks ⊢
        exact ⟨hkept, h.recordQuad, fun hinactive =>
          (congrFun hbanks _).trans (h.inactive hinactive)⟩
  · exact h

/-- A record may be relieved of a configuration that the bank has. -/
theorem SourceKept.disarm {bench : Bench} {record : TunerRecoveryRecord}
    {written : List (BankCell × UInt16)} (h : SourceKept original bench record written)
    (hquad : record.sourceRestoreRequired = true → record.sourceQuad = quad)
    (hbank : bench.banks (quad.toNat, sampleConfigurationRegister) = original quad.toNat)
    (quad' originalConfiguration appliedConfiguration : UInt16) :
    SourceKept original bench
      (sourceRecoveryRecord record false quad' originalConfiguration appliedConfiguration)
      written where
  wayBack := fun place => by
    rcases h.wayBack place with heq | ⟨hactive, hrecord⟩
    · exact .inl heq
    · rw [← hrecord, hquad hactive]
      exact .inl hbank
  recorded := fun ht => by cases ht
  otherBits := h.otherBits
  sent := h.sent

/-- The record is relieved only if the bank holds the original. -/
theorem kept_disarmSourceRecovery {request : DiagnosticSourceChangeRequest}
    (h : SourceSettled original quad run) :
    (disarmSourceRecovery save recoveryJournalPath request run).Kept original := by
  unfold disarmSourceRecovery
  dsimp only
  split
  next hinactive =>
    rcases saveSourceRecoveryState_cases save recoveryJournalPath run .disarm request.selectedQuad
      run.restoreConfiguration 0 with ⟨error, hsave⟩ | hsave
    · rw [hsave]
      exact h.kept
    · rw [hsave]
      exact h.kept.disarm h.recordQuad (h.inactive hinactive) _ _ _
  · exact h.kept

/-- Resuming the data taking. -/
theorem kept_resumeSource (h : run.Kept original) : (resumeSource fault run).Kept original := by
  unfold resumeSource
  split
  · exact SourceKept.of_banks h (banks_resumeDiagnosticDataTaking _ _)
  · exact h

/-- Pausing it. -/
theorem kept_pauseSource (h : run.Kept original) : (pauseSource fault run).Kept original :=
  SourceKept.of_banks h (banks_pauseDiagnosticDataTaking _ _)

/-- A change keeps the way back, whichever of its calls fail. -/
theorem kept_changeDiagnosticWaveformSource {bench : Bench}
    {session : DiagnosticAcquisitionPreparationResult} {request : DiagnosticSourceChangeRequest}
    (h : SourceKept original bench session.recoveryRecord []) :
    (changeDiagnosticWaveformSource fault save cancellationRequested recoveryJournalPath bench session
      request).Kept original := by
  unfold changeDiagnosticWaveformSource
  dsimp only
  split
  · exact h
  next hrefusal =>
    -- an accepted change names the bank whose restoration is pending, if there is one
    obtain ⟨hsource, hquad⟩ : ¬request.requestedSource > 3 ∧
        (session.recoveryRecord.sourceRestoreRequired = true →
          session.recoveryRecord.sourceQuad = request.selectedQuad) := by
      unfold sourceChangeRefusal at hrefusal
      dsimp only at hrefusal
      split_ifs at hrefusal with hbank hsource hstate hpath hother
      refine ⟨hsource, fun hactive => ?_⟩
      by_contra hne
      exact hother ⟨hactive, hne⟩
    unfold verifySourceOwnership
    dsimp only
    split_ifs
    · exact h
    · dsimp only
      generalize hpaused : pauseSource fault _ = paused
      have hkept : paused.Kept original := by
        rw [← hpaused]
        exact kept_pauseSource h
      have hsession : paused.session = session := by rw [← hpaused]; rfl
      obtain ⟨hchosen, hselector, hchosenSession, hchosenResult, hchosenArmed⟩ :=
        @selectSourceQuad_spec _ fault _ request.selectedQuad hkept (by rw [← hpaused]; rfl)
      have hquadChosen : QuadChosen original request.selectedQuad
          (selectSourceQuad fault request.selectedQuad paused) := by
        refine ⟨hchosen, ?_, hselector, ?_, ?_⟩
        · rw [hchosenSession, hsession]
          exact hquad
        · rw [hchosenResult, ← hpaused]
          rfl
        · refine ⟨?_, ?_, ?_, ?_⟩
          all_goals first | rw [hchosenResult, ← hpaused] | rw [hchosenArmed, ← hpaused]
          all_goals rfl
      obtain ⟨hcaptured, hunwritten, hlive⟩ :=
        @sourceCaptured_captureSource _ fault _ _ _ hsource hquadChosen
      obtain ⟨happlied, hrolledBack⟩ :=
        @sourceCaptured_applySource _ fault save cancellationRequested recoveryJournalPath _ _ _ rfl
          hcaptured hunwritten hlive
      have hsettled :=
        (@sourceCaptured_rollbackSource _ fault _ _ happlied hrolledBack).settled
      exact kept_resumeSource (kept_disarmSourceRecovery (sourceSettled_parkSourceSelector hsettled))

/-! ### A restoration

It writes the original back and reads it. The record is relieved once the readback is right. -/

/-- The bank is being given back the configuration that the record holds for it. -/
structure SourceRestoring (original : Nat → UInt16) (quad : UInt16) (run : SourceRun) : Prop where
  kept : run.Kept original
  required : run.session.recoveryRecord.sourceRestoreRequired = true
  recordQuad : run.session.recoveryRecord.sourceQuad = quad
  configuration : run.result.originalConfiguration = original quad.toNat
  verified : run.result.restoreVerified = true →
    run.bench.banks (quad.toNat, sampleConfigurationRegister) = original quad.toNat

/-- The write of the restoration and its readback. -/
theorem sourceRestoring_restoreSource (h : SourceRestoring original quad run)
    (hselector : run.selectorSelected = true → run.bench.selector = quad)
    (hunverified : run.result.restoreVerified = false) :
    SourceRestoring original quad (restoreSource fault run) := by
  have hnot : ∀ {P : Prop}, run.result.restoreVerified = true → P := fun ht => by
    rw [hunverified] at ht
    cases ht
  unfold restoreSource
  split
  next hselected =>
    have hchosen := hselector hselected.1
    have hkept := @kept_write_configuration _ fault
      { run with result := { run.result with restoreAttempted := true } } .write _ h.kept h.required
      h.recordQuad hchosen _ (congrArg sourceless h.configuration)
    dsimp only
    cases hfault : fault .write with
    | some failed =>
        rw [SourceRun.write_of_fault hfault]
        exact ⟨hkept, h.required, h.recordQuad, h.configuration, hnot⟩
    | none =>
        rw [SourceRun.write_of_success hfault] at hkept ⊢
        dsimp only
        split
        · exact ⟨hkept, h.required, h.recordQuad, h.configuration, hnot⟩
        -- the readback finds what the bank holds, and the flag compares it with the record
        next readback hread =>
          have hbank : readback = (run.bench.write sampleConfigurationRegister
              run.result.originalConfiguration).banks
                (quad.toNat, sampleConfigurationRegister) := by
            rw [read_of_ok hread, Bench.read_of_banked sampleConfigurationRegister_mem,
              Bench.selector_write_of_banked sampleConfigurationRegister_mem, hchosen]
          split
          · refine ⟨hkept, h.required, h.recordQuad, h.configuration, fun ht => ?_⟩
            exact hbank.symm.trans ((of_decide_eq_true ht).trans h.configuration)
          next hmismatch => exact ⟨hkept, h.required, h.recordQuad, h.configuration,
              fun ht => absurd ht hmismatch⟩
  · exact h

/-- Parking the selector. -/
theorem sourceRestoring_parkSourceSelector (h : SourceRestoring original quad run) :
    SourceRestoring original quad (parkSourceSelector fault run) := by
  have hkept := @kept_write_selector _ fault _ .park h.kept 0
  have hbanks : (run.write fault .park fw2051ScpSelectorRegister 0).2.bench.banks =
      run.bench.banks := (Bench.sameButSelector_writeVmeD16 run.bench (fault .park) 0).banks
  unfold parkSourceSelector
  split
  · cases hfault : fault .park with
    | some failed =>
        rw [SourceRun.write_of_fault hfault]
        exact ⟨hkept, h.required, h.recordQuad, h.configuration, fun hverified =>
          (congrFun hbanks _).trans (h.verified hverified)⟩
    | none =>
        rw [SourceRun.write_of_success hfault] at hkept hbanks ⊢
        exact ⟨hkept, h.required, h.recordQuad, h.configuration, fun hverified =>
          (congrFun hbanks _).trans (h.verified hverified)⟩
  · exact h

/-- The record is relieved only after a verified restoration. -/
theorem kept_disarmRestoredSource (h : SourceRestoring original quad run) :
    (disarmRestoredSource save recoveryJournalPath run).Kept original := by
  unfold disarmRestoredSource
  dsimp only
  split
  next hverified =>
    rcases saveSourceRecoveryState_cases save recoveryJournalPath run .disarm run.result.selectedQuad
      run.result.originalConfiguration 0 with ⟨error, hsave⟩ | hsave
    · rw [hsave]
      exact h.kept
    · rw [hsave]
      exact h.kept.disarm (fun _ => h.recordQuad) (h.verified hverified.1) _ _ _
  · exact h.kept

/-- What a restoration reads of the run it starts from. -/
structure SameRestoration (run run' : SourceRun) : Prop where
  session : run'.session = run.session
  selected : run'.selectorSelected = run.selectorSelected
  verified : run'.result.restoreVerified = run.result.restoreVerified
  quad : run'.result.selectedQuad = run.result.selectedQuad
  configuration : run'.result.originalConfiguration = run.result.originalConfiguration

/-- The pause before a restoration changes nothing that the restoration uses. -/
theorem pauseForRestore_spec {ownershipAlreadyVerifiedAndPaused : Bool} (h : run.Kept original) :
    (pauseForRestore fault ownershipAlreadyVerifiedAndPaused run).2.Kept original ∧
      SameRestoration run (pauseForRestore fault ownershipAlreadyVerifiedAndPaused run).2 := by
  have hverify : (verifySourceOwnership fault run).2.Kept original ∧
      SameRestoration run (verifySourceOwnership fault run).2 := by
    unfold verifySourceOwnership
    dsimp only
    split
    · exact ⟨h, rfl, rfl, rfl, rfl, rfl⟩
    · exact ⟨h, rfl, rfl, rfl, rfl, rfl⟩
  unfold pauseForRestore
  split
  · exact ⟨h, rfl, rfl, rfl, rfl, rfl⟩
  · split
    next heq => rwa [heq] at hverify
    next heq =>
      rw [heq] at hverify
      obtain ⟨hkept, hsame⟩ := hverify
      exact ⟨kept_pauseSource hkept, hsame.session, hsame.selected, hsame.verified, hsame.quad,
        hsame.configuration⟩

/-- A restoration keeps the way back, whichever of its calls fail. -/
theorem kept_restoreDiagnosticWaveformSource {bench : Bench}
    {session : DiagnosticAcquisitionPreparationResult} {ownershipAlreadyVerifiedAndPaused : Bool}
    (h : SourceKept original bench session.recoveryRecord []) :
    (restoreDiagnosticWaveformSource fault save recoveryJournalPath bench session
      ownershipAlreadyVerifiedAndPaused).Kept original := by
  unfold restoreDiagnosticWaveformSource
  dsimp only
  split_ifs with hnone hpath
  · exact h
  · exact h
  · -- a restoration is pending
    have hrequired : session.recoveryRecord.sourceRestoreRequired = true := by simpa using hnone
    generalize hrun : SourceRun.mk bench session _ _ _ _ _ _ _ _ _ = run
    have hrunKept : run.Kept original := by rw [← hrun]; exact h
    have hstart := @pauseForRestore_spec _ fault _ ownershipAlreadyVerifiedAndPaused hrunKept
    split
    next heq => rw [heq] at hstart; exact hstart.1
    next paused heq =>
      rw [heq] at hstart
      obtain ⟨hkept, hsame⟩ := hstart
      have hsession : paused.session = session := hsame.session.trans (by rw [← hrun])
      have hselected : paused.selectorSelected = false := hsame.selected.trans (by rw [← hrun])
      have hunverified : paused.result.restoreVerified = false :=
        hsame.verified.trans (by rw [← hrun])
      have hquad : paused.result.selectedQuad = session.recoveryRecord.sourceQuad :=
        hsame.quad.trans (by rw [← hrun])
      have hconfiguration : paused.result.originalConfiguration =
          session.recoveryRecord.sourceOriginalConfiguration :=
        hsame.configuration.trans (by rw [← hrun])
      obtain ⟨hchosen, hselector, hchosenSession, hchosenResult, -⟩ :=
        @selectSourceQuad_spec _ fault _ paused.result.selectedQuad hkept hselected
      have hrestoring : SourceRestoring original paused.result.selectedQuad
          (selectSourceQuad fault paused.result.selectedQuad paused) := by
        refine ⟨hchosen, ?_, ?_, ?_, ?_⟩
        · rw [hchosenSession, hsession]
          exact hrequired
        · rw [hchosenSession, hsession, hquad]
        · rw [hchosenResult, hconfiguration, hquad]
          exact h.recorded hrequired
        · rw [hchosenResult, hunverified]
          intro ht
          cases ht
      have hrestored := @sourceRestoring_restoreSource _ fault _ _ hrestoring hselector
        (by rw [hchosenResult, hunverified])
      exact kept_disarmRestoredSource (sourceRestoring_parkSourceSelector hrestored)

end Steps

/-! ### Runs of calls

Calls follow one another on the same module and the same record. Each of them comes with its own
faults, and the history keeps what they have sent. -/

/-- One call, with what becomes of its own calls. -/
inductive SourceCall where
  | change (fault : SourceSite → Option Fault) (save : SourceJournalSaver)
      (cancellationRequested : SourceCancellation → Bool) (recoveryJournalPath : String)
      (request : DiagnosticSourceChangeRequest)
  | restore (fault : SourceSite → Option Fault) (save : SourceJournalSaver)
      (recoveryJournalPath : String) (ownershipAlreadyVerifiedAndPaused : Bool)

/-- What is left behind by the calls so far, and what they have sent. -/
structure SourceHistory where
  bench : Bench
  session : DiagnosticAcquisitionPreparationResult
  written : List (BankCell × UInt16) := []

/-- What a call does. -/
def SourceCall.perform (call : SourceCall) (bench : Bench)
    (session : DiagnosticAcquisitionPreparationResult) : SourceRun :=
  match call with
  | .change fault save cancellationRequested recoveryJournalPath request =>
    changeDiagnosticWaveformSource fault save cancellationRequested recoveryJournalPath bench session
      request
  | .restore fault save recoveryJournalPath ownershipAlreadyVerifiedAndPaused =>
    restoreDiagnosticWaveformSource fault save recoveryJournalPath bench session
      ownershipAlreadyVerifiedAndPaused

/-- The history goes on with the next call. -/
def SourceHistory.call (history : SourceHistory) (call : SourceCall) : SourceHistory :=
  let run := call.perform history.bench history.session
  { bench := run.bench, session := run.session, written := history.written ++ run.written }

/-- A call keeps the way back. -/
theorem kept_perform {original : Nat → UInt16} (call : SourceCall) {bench : Bench}
    {session : DiagnosticAcquisitionPreparationResult}
    (h : SourceKept original bench session.recoveryRecord []) :
    (call.perform bench session).Kept original := by
  cases call with
  | change fault save cancellationRequested recoveryJournalPath request =>
      exact kept_changeDiagnosticWaveformSource h
  | restore fault save recoveryJournalPath ownershipAlreadyVerifiedAndPaused =>
      exact kept_restoreDiagnosticWaveformSource h

/-- So does a call within a history. -/
theorem kept_call {original : Nat → UInt16} (call : SourceCall) {history : SourceHistory}
    (h : SourceKept original history.bench history.session.recoveryRecord history.written) :
    SourceKept original (history.call call).bench (history.call call).session.recoveryRecord
      (history.call call).written := by
  have hstart : SourceKept original history.bench history.session.recoveryRecord [] :=
    ⟨h.wayBack, h.recorded, h.otherBits, fun entry hentry => by cases hentry⟩
  have hkept := kept_perform call hstart
  refine ⟨hkept.wayBack, hkept.recorded, hkept.otherBits, fun entry hentry => ?_⟩
  rcases List.mem_append.mp hentry with hentry | hentry
  · exact h.sent entry hentry
  · exact hkept.sent entry hentry

/-- So does any list of calls. -/
theorem kept_calls {original : Nat → UInt16} (calls : List SourceCall) {history : SourceHistory}
    (h : SourceKept original history.bench history.session.recoveryRecord history.written) :
    let after := calls.foldl SourceHistory.call history
    SourceKept original after.bench after.session.recoveryRecord after.written := by
  induction calls generalizing history with
  | nil => exact h
  | cons call calls ih => exact ih (kept_call call h)

/-- After any calls on a session that starts without a deviation, every bank has its sample
configuration from before the first call, or the record holds that configuration for it; and every
value sent to the register of a bank agrees with it outside the source bits. -/
theorem sourceCalls_leaveWayBack (calls : List SourceCall) (bench : Bench)
    (session : DiagnosticAcquisitionPreparationResult)
    (hsession : session.recoveryRecord.sourceRestoreRequired = false) :
    let after := calls.foldl SourceHistory.call { bench, session }
    (∀ quad : UInt16,
      after.bench.banks (quad.toNat, sampleConfigurationRegister) =
          bench.banks (quad.toNat, sampleConfigurationRegister) ∨
        (after.session.recoveryRecord.sourceRestoreRequired = true ∧
          after.session.recoveryRecord.sourceQuad = quad ∧
          after.session.recoveryRecord.sourceOriginalConfiguration =
            bench.banks (quad.toNat, sampleConfigurationRegister))) ∧
      ∀ quad value, ((quad, sampleConfigurationRegister), value) ∈ after.written →
        value &&& 0xFFFC = bench.banks (quad, sampleConfigurationRegister) &&& 0xFFFC := by
  have hstart : SourceKept (fun quad => bench.banks (quad, sampleConfigurationRegister)) bench
      session.recoveryRecord [] := by
    refine ⟨fun _ => .inl rfl, fun hrequired => ?_, fun _ => rfl, fun entry hentry => ?_⟩
    · rw [hsession] at hrequired
      cases hrequired
    · cases hentry
  have hkept := @kept_calls _ calls { bench, session } hstart
  refine ⟨fun quad => ?_, fun quad value hmem => hkept.sent _ hmem rfl⟩
  rcases hkept.wayBack quad.toNat with heq | ⟨hrequired, hquad⟩
  · exact .inl heq
  · refine .inr ⟨hrequired, UInt16.toNat_inj.mp hquad, ?_⟩
    rw [hkept.recorded hrequired, hquad]

/-! A change whose write is lost together with its rollback: the record keeps the way back. -/

/-- A module that samples from its second source in bank 2, under a controller that runs the
session. -/
def sourceModule : Bench where
  registers := fun _ => 0
  banks := fun cell => if cell = (2, sampleConfigurationRegister) then 0x41 else 0
  localRegisters := runningLocalRegisters

/-- The answer to the write is lost after it took effect, and the rollback write has none. -/
def lostSourceWrites : SourceSite → Option Fault
  | .write => some ⟨"timeout", true⟩
  | .rollbackWrite => some ⟨"timeout", false⟩
  | _ => none

/-- A change under these faults. -/
def lostSourceCall : SourceCall :=
  .change lostSourceWrites (fun _ record _ => saveValidRecord record) (fun _ => false) "journal" ⟨2, 3⟩

theorem sourceCalls_leaveWayBack_example :
    let after := SourceHistory.call { bench := sourceModule, session := runningSession } lostSourceCall
    after.bench.banks (2, sampleConfigurationRegister) = 0x43 ∧
      after.session.recoveryRecord.sourceOriginalConfiguration = 0x41 := by
  have h := (sourceCalls_leaveWayBack [lostSourceCall] sourceModule runningSession rfl).1 2
  have hchanged : (SourceHistory.call { bench := sourceModule, session := runningSession }
    lostSourceCall).bench.banks (2, sampleConfigurationRegister) = 0x43 := by decide +kernel
  refine ⟨hchanged, ?_⟩
  rcases h with heq | ⟨-, -, horiginal⟩
  · rw [show (2 : UInt16).toNat = 2 from rfl] at heq
    exact absurd (hchanged.symm.trans heq) (by decide)
  · exact horiginal

end Fidget
