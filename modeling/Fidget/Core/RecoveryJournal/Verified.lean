import Fidget.Core.RecoveryJournal
import Fidget.Core.RecoveryJournalV5.Verified

/-!
# What a journal keeps of a record

The text of a valid record of format 1 to 4 is read back as `recordAsWritten`: the record with the
source fields that its format has no place for at their defaults. The validator lets such fields
through when they are set, so the round trip holds exactly for the records in which they are not.
For format 5 the same is said with the help of `RecoveryJournalV5.Verified`.

Each section of the text has a lemma that its reader gives back the section as written, whatever
follows it. Formats 1 to 4 differ in which sections they have, so the record that comes back depends
on the format; `recordAsWritten` computes it, and the theorem asks when it is the record itself.

## Main results

- `validRecord_of_validate`: what the validation has checked.
- `reads_readRecord`: the sections of a valid record are read back one after the other.
- `legacyJournal_roundTrip_iff`: a record of format 1 to 4 comes back exactly when the source fields
  that its format has no place for are at their defaults.
- `v5Journal_roundTrip_iff`: one of format 5 comes back, up to the display of its snapshot, exactly
  when the fields that are not written are at theirs.
- `sourceRestoreInFormat2_lost`, `preparingData_lost`: records that are accepted and do not come
  back.
-/

namespace Fidget

open TokenText

namespace RecoveryJournal

/-! ### Valid records -/

/-- A host that is accepted is one word. -/
theorem isToken_of_validHost {host : Text} (h : validHost host = true) : IsToken host := by
  simp only [validHost, Bool.and_eq_true, Bool.not_eq_true', List.all_eq_true,
    Bool.or_eq_false_iff, decide_eq_false_iff_not] at h
  obtain ⟨⟨hne, -⟩, hbytes⟩ := h
  exact isToken_of_forall (by simpa using hne) fun b hb => UInt8.not_le.mp (hbytes b hb).1

/-- What the reader relies on, of all that the validator checks. -/
structure ValidRecord (record : TunerRecoveryRecord) : Prop where
  version : 1 ≤ record.formatVersion ∧ record.formatVersion ≤ tunerRecoveryJournalFormatVersion
  host : IsToken record.host
  isolated : record.formatVersion = 1 → record.isolatedModuleBaseAddresses = []
  isolatedCount : record.isolatedModuleBaseAddresses.length ≤ 15
  appliedAvailable : record.sourceAppliedConfigurationAvailable =
    (decide (record.formatVersion ≥ 4) && record.sourceRestoreRequired)

/-- What a validation without a complaint has checked. -/
theorem validRecord_of_validate {record : TunerRecoveryRecord}
    (h : validateRecord record = none) : ValidRecord record := by
  unfold validateRecord at h
  simp only [Option.orElse_eq_none, firstFailure_eq_none, List.forall_mem_cons] at h
  obtain ⟨⟨hversion, -, hhost, -, -, -, hisolated, hcount, -⟩, -, -, -, hlegacy, hlacks, -,
    hinactive, -⟩ := h
  simp only [Bool.or_eq_false_iff, Bool.and_eq_false_iff, decide_eq_false_iff_not,
    Bool.not_eq_false'] at hversion hhost hisolated hcount hlegacy hlacks hinactive
  refine ⟨⟨UInt32.not_lt.mp hversion.1, UInt32.not_lt.mp hversion.2⟩,
    isToken_of_validHost hhost.1, fun hone => ?_, by omega, ?_⟩
  · rcases hisolated with hne | hnil
    · exact absurd hone (by simpa using hne)
    · simpa using hnil
  · -- The three checks on the availability flag leave one value for it.
    by_cases hfour : record.formatVersion ≥ 4
    · rw [decide_eq_true hfour, Bool.true_and]
      cases hrequired : record.sourceRestoreRequired with
      | true =>
          rcases hlacks with (hlt | hnot) | havailable
          · exact absurd hfour hlt
          · rw [hrequired] at hnot; cases hnot
          · exact havailable
      | false =>
          rcases hinactive with hreq | havailable
          · rw [hrequired] at hreq; cases hreq
          · exact havailable
    · rw [decide_eq_false hfour, Bool.false_and]
      rcases hlegacy with hnot | havailable
      · exact absurd (UInt32.not_le.mp hfour) hnot
      · exact havailable

/-! ### Sections are read back

The reader checks words, ranges and counts as it goes, and what the validator has accepted passes
all of these checks. -/

/-- A flag is read back. -/
theorem reads_flag (field : Text) (b : Bool) :
    Reads (readUInt16 [] field) [decimal (flag b)] (flag b).toUInt16 := by
  have h := reads_readUInt16 [] field (flag b).toUInt16
  have hnat : ((flag b).toUInt16).toNat = flag b := by cases b <;> rfl
  rwa [hnat] at h

/-- What the first four lines say. -/
def headerAsWritten (record : TunerRecoveryRecord) : TunerRecoveryRecord :=
  { formatVersion := record.formatVersion, host := record.host, commandPort := record.commandPort
    mvlcHardwareId := record.mvlcHardwareId, mvlcFirmwareRevision := record.mvlcFirmwareRevision
    mdppBaseAddress := record.mdppBaseAddress, mdppHardwareId := record.mdppHardwareId
    mdppIrqLevel := record.mdppIrqLevel, mdppOutputFormat := record.mdppOutputFormat }

/-- The header is read back. -/
theorem reads_readHeader (record : TunerRecoveryRecord) :
    Reads readHeader (headerLines record).flatten (headerAsWritten record) := by
  have hlines : (headerLines record).flatten = [journalMagic, decimal record.formatVersion.toNat,
      ascii "ENDPOINT", record.host, decimal record.commandPort.toNat, ascii "MVLC",
      decimal record.mvlcHardwareId.toNat, decimal record.mvlcFirmwareRevision.toNat,
      ascii "MDPP", decimal record.mdppBaseAddress.toNat, decimal record.mdppHardwareId.toNat,
      decimal record.mdppIrqLevel.toNat, decimal record.mdppOutputFormat.toNat] := rfl
  rw [hlines]
  refine Reads.orMessage _ ?_
  refine Reads.cons (reads_readToken _) ?_
  refine Reads.step (Reads.require (beq_self_eq_true journalMagic) _) ?_
  refine Reads.cons (reads_readUInt32 _ _ _) ?_
  refine Reads.cons (reads_expectToken _ _) ?_
  refine Reads.cons (reads_readToken _) ?_
  refine Reads.cons (reads_readUInt16 _ _ _) ?_
  refine Reads.cons (reads_expectToken _ _) ?_
  refine Reads.cons (reads_readUInt32 _ _ _) ?_
  refine Reads.cons (reads_readUInt32 _ _ _) ?_
  refine Reads.cons (reads_expectToken _ _) ?_
  refine Reads.cons (reads_readUInt32 _ _ _) ?_
  refine Reads.cons (reads_readUInt16 _ _ _) ?_
  refine Reads.cons (reads_readUInt16 _ _ _) ?_
  exact Reads.cons (reads_readUInt16 _ _ _) (Reads.pure _)

section Sections

variable {record base : TunerRecoveryRecord}

/-- The isolated modules come back where the format writes them. -/
theorem reads_readIsolated (hbase : base.formatVersion = record.formatVersion)
    (h : ValidRecord record) (hempty : base.isolatedModuleBaseAddresses = []) :
    Reads (readIsolated base) (isolatedLines record).flatten
      { base with isolatedModuleBaseAddresses := record.isolatedModuleBaseAddresses } := by
  unfold readIsolated isolatedLines
  rw [← hbase]
  split
  · have hcount : (record.isolatedModuleBaseAddresses.length.toUInt16).toNat =
        record.isolatedModuleBaseAddresses.length := by
      have := h.isolatedCount
      rw [Nat.toUInt16_eq, UInt16.toNat_ofNat']
      omega
    have hle : record.isolatedModuleBaseAddresses.length.toUInt16 ≤ 15 := by
      rw [UInt16.le_iff_toNat_le, hcount]
      exact h.isolatedCount
    have hread := reads_readUInt16 [] (ascii "isolated module count")
      record.isolatedModuleBaseAddresses.length.toUInt16
    rw [hcount] at hread
    have hmany := @reads_readMany _ (fun _ => readUInt32 [] "isolated module base")
      (fun baseAddress => [decimal baseAddress.toNat]) record.isolatedModuleBaseAddresses 0
      fun _ baseAddress _ => reads_readUInt32 _ _ baseAddress
    rw [← List.map_eq_flatMap] at hmany
    rw [List.flatten_singleton]
    refine Reads.cons (reads_expectToken _ _) ?_
    refine Reads.cons hread ?_
    refine Reads.step (Reads.require (decide_eq_true hle) _) ?_
    rw [hcount]
    exact Reads.finish hmany (Reads.pure _)
  · next htwo =>
    -- Format 1 has no isolated modules: there is nothing to write and nothing to read.
    have hone : record.formatVersion = 1 := by
      obtain ⟨hge, -⟩ := h.version
      rw [← hbase] at hge ⊢
      rw [ge_iff_le, UInt32.le_iff_toNat_le] at htwo
      rw [UInt32.le_iff_toNat_le] at hge
      exact UInt32.toNat.inj (by simp at htwo hge ⊢; omega)
    have hsame : { base with isolatedModuleBaseAddresses := [] } = base := by
      cases base
      cases hempty
      rfl
    rw [h.isolated hone, hsame]
    exact Reads.pure base

/-- So is the readout stack. -/
theorem reads_readStack :
    Reads (readStack base) (stackLines record).flatten
      { base with
        stackTriggerRegister := record.stackTriggerRegister
        stackTriggerValue := record.stackTriggerValue
        stackOffsetRegister := record.stackOffsetRegister
        stackOffsetValue := record.stackOffsetValue
        ownershipTokenRegister := record.ownershipTokenRegister
        ownershipTokenValue := record.ownershipTokenValue } := by
  refine Reads.orMessage _ ?_
  refine Reads.cons (reads_expectToken _ _) ?_
  refine Reads.cons (reads_readUInt16 _ _ _) ?_
  refine Reads.cons (reads_readUInt32 _ _ _) ?_
  refine Reads.cons (reads_readUInt16 _ _ _) ?_
  refine Reads.cons (reads_readUInt32 _ _ _) ?_
  refine Reads.cons (reads_readUInt16 _ _ _) ?_
  exact Reads.cons (reads_readUInt32 _ _ _) (Reads.pure _)

/-- The source fields as they come back: what the format has no place for is zero. -/
theorem reads_readSource (hbase : base.formatVersion = record.formatVersion)
    (hquad : base.sourceQuad = 0) (horiginal : base.sourceOriginalConfiguration = 0)
    (happlied : base.sourceAppliedConfiguration = 0) :
    Reads (readSource base) (sourceLines record).flatten
      ({ base with
         sourceQuad := if record.formatVersion ≥ 3 then record.sourceQuad else 0
         sourceOriginalConfiguration :=
           if record.formatVersion ≥ 3 then record.sourceOriginalConfiguration else 0
         sourceAppliedConfiguration :=
           if record.formatVersion ≥ 4 then record.sourceAppliedConfiguration else 0 },
        (flag (record.formatVersion ≥ 3 && record.sourceRestoreRequired)).toUInt16) := by
  have hmono : record.formatVersion ≥ 4 → record.formatVersion ≥ 3 := by
    simp only [ge_iff_le, UInt32.le_iff_toNat_le]
    simp
    omega
  unfold readSource sourceLines
  rw [← hbase] at hmono ⊢
  split
  · next hthree =>
    rw [List.flatten_singleton, decide_eq_true hthree, Bool.true_and]
    refine Reads.cons (reads_expectToken _ _) ?_
    refine Reads.cons (reads_flag _ _) ?_
    refine Reads.cons (reads_readUInt16 _ _ _) ?_
    refine Reads.cons (reads_readUInt16 _ _ _) ?_
    split
    · exact Reads.cons (reads_readUInt16 _ _ _) (Reads.pure _)
    · rw [happlied]
      exact Reads.step (Reads.pure 0) (Reads.pure _)
  · -- before format 3 nothing is written, and nothing is read
    next hthree =>
    rw [if_neg fun hfour => hthree (hmono hfour), decide_eq_false hthree, Bool.false_and]
    have hsame : ({ base with
        sourceQuad := 0, sourceOriginalConfiguration := 0, sourceAppliedConfiguration := 0 } :
        TunerRecoveryRecord) = base := by
      cases base
      cases hquad
      cases horiginal
      cases happlied
      rfl
    simp only [hsame]
    exact Reads.pure (base, 0)

/-- So is the state of the session. -/
theorem reads_readState (sourceRequired : UInt16) :
    Reads (readState base sourceRequired) (stateLines record).flatten
      { record := { base with
          phase := record.phase
          previewQuad := record.previewQuad
          previewRegisterOffset := record.previewRegisterOffset
          previewOriginalValue := record.previewOriginalValue
          previewAppliedValue := record.previewAppliedValue }
        sourceRequired
        previewRequired := (flag record.previewRestoreRequired).toUInt16
        checksum := recordChecksum record } := by
  refine Reads.orMessage _ ?_
  refine Reads.cons (reads_expectToken _ _) ?_
  refine Reads.cons (reads_readUInt16 _ _ _) ?_
  refine Reads.cons (reads_flag _ _) ?_
  refine Reads.cons (reads_readUInt16 _ _ _) ?_
  refine Reads.cons (reads_readUInt16 _ _ _) ?_
  refine Reads.cons (reads_readUInt16 _ _ _) ?_
  refine Reads.cons (reads_readUInt16 _ _ _) ?_
  refine Reads.cons (reads_expectToken _ _) ?_
  refine Reads.cons (reads_readUInt64 _ _ _) ?_
  exact Reads.cons (reads_expectToken _ _) (Reads.pure _)

end Sections

/-! ### The record that comes back

The text ends with a checksum over everything before it. It covers nothing that is not written, so
the record that comes back has the same one and is accepted. -/

/-- The record as it comes back: its format decides which source fields are kept. -/
def recordAsWritten (record : TunerRecoveryRecord) : TunerRecoveryRecord :=
  { record with
    sourceRestoreRequired := record.formatVersion ≥ 3 && record.sourceRestoreRequired
    sourceQuad := if record.formatVersion ≥ 3 then record.sourceQuad else 0
    sourceOriginalConfiguration :=
      if record.formatVersion ≥ 3 then record.sourceOriginalConfiguration else 0
    sourceAppliedConfiguration :=
      if record.formatVersion ≥ 4 then record.sourceAppliedConfiguration else 0 }

/-- The source fields that the format does not write are at their defaults. -/
def SourceEvidenceWritten (record : TunerRecoveryRecord) : Prop :=
  (3 ≤ record.formatVersion ∨ record.sourceRestoreRequired = false ∧ record.sourceQuad = 0 ∧
    record.sourceOriginalConfiguration = 0) ∧
  (4 ≤ record.formatVersion ∨ record.sourceAppliedConfiguration = 0)

/-- A record comes back whole if its format has a place for every source field that is set. -/
theorem recordAsWritten_eq_iff {record : TunerRecoveryRecord} :
    recordAsWritten record = record ↔ SourceEvidenceWritten record := by
  have hfields : recordAsWritten record = record ↔
      (decide (record.formatVersion ≥ 3) && record.sourceRestoreRequired) =
        record.sourceRestoreRequired ∧
      (if record.formatVersion ≥ 3 then record.sourceQuad else 0) = record.sourceQuad ∧
      (if record.formatVersion ≥ 3 then record.sourceOriginalConfiguration else 0) =
        record.sourceOriginalConfiguration ∧
      (if record.formatVersion ≥ 4 then record.sourceAppliedConfiguration else 0) =
        record.sourceAppliedConfiguration := by
    cases record
    simp [recordAsWritten]
  rw [hfields, SourceEvidenceWritten]
  by_cases hthree : record.formatVersion ≥ 3
  · by_cases hfour : record.formatVersion ≥ 4
    · simp [hthree, hfour]
    · simp [hthree, hfour, eq_comm (a := (0 : UInt16))]
  · by_cases hfour : record.formatVersion ≥ 4
    · simp [hthree, hfour, eq_comm (a := (0 : UInt16))]
    · simp [hthree, hfour, eq_comm (a := (0 : UInt16)), and_assoc]

/-- The checksum covers nothing that is not written. -/
theorem recordChecksum_asWritten (record : TunerRecoveryRecord) :
    recordChecksum (recordAsWritten record) = recordChecksum record := by
  unfold recordChecksum recordAsWritten
  by_cases hthree : record.formatVersion ≥ 3
  · by_cases hfour : record.formatVersion ≥ 4
    · simp only [hthree, hfour, if_true, decide_true, Bool.true_and]
    · simp only [hthree, hfour, if_true, if_false, decide_true, Bool.true_and]
  · by_cases hfour : record.formatVersion ≥ 4
    · simp only [hthree, hfour, if_true, if_false]
    · simp only [hthree, hfour, if_false]

/-- What comes back is valid if what was written is. -/
theorem validateRecord_asWritten {record : TunerRecoveryRecord}
    (h : validateRecord record = none) : validateRecord (recordAsWritten record) = none := by
  by_cases hfour : record.formatVersion ≥ 4
  · have hthree : 3 ≤ record.formatVersion := UInt32.le_trans (by decide) hfour
    rwa [recordAsWritten_eq_iff.mpr ⟨.inl hthree, .inl hfour⟩]
  · have happlied := (validRecord_of_validate h).appliedAvailable
    rw [decide_eq_false hfour, Bool.false_and] at happlied
    unfold validateRecord at h ⊢
    simp only [Option.orElse_eq_none, firstFailure_eq_none, List.forall_mem_cons] at h ⊢
    obtain ⟨hfirst, hisolated, hpreview, hquad, hlegacy, -⟩ := h
    refine ⟨hfirst, hisolated, hpreview, ?_, hlegacy, ?_, ?_, ?_, by simp⟩
    · by_cases hthree : record.formatVersion ≥ 3
      · simpa only [recordAsWritten, hthree, if_true, decide_true, Bool.true_and] using hquad
      · simp [recordAsWritten, hthree]
    · simp [recordAsWritten, hfour]
    · simp [recordAsWritten, happlied]
    · simp [recordAsWritten, happlied]

/-- What the reader makes of a text before it judges the flags. -/
def parsedRecord (record : TunerRecoveryRecord) : ParsedRecord :=
  { record := { recordAsWritten record with
      sourceRestoreRequired := false
      sourceAppliedConfigurationAvailable := false
      previewRestoreRequired := false
      version5 := none }
    sourceRequired := (flag (record.formatVersion ≥ 3 && record.sourceRestoreRequired)).toUInt16
    previewRequired := (flag record.previewRestoreRequired).toUInt16
    checksum := recordChecksum record }

/-- All sections of a text, one after the other. -/
theorem reads_readRecord {record : TunerRecoveryRecord} (h : ValidRecord record) :
    Reads readRecord (recordLines record).flatten (parsedRecord record) := by
  have hlines : (recordLines record).flatten = (headerLines record).flatten ++
      ((isolatedLines record).flatten ++ ((stackLines record).flatten ++
      ((sourceLines record).flatten ++ (stateLines record).flatten))) := by
    simp [recordLines]
  have hversion : (1 ≤ (headerAsWritten record).formatVersion &&
      (headerAsWritten record).formatVersion ≤ tunerRecoveryJournalFormatVersion) = true := by
    rw [Bool.and_eq_true, decide_eq_true_eq, decide_eq_true_eq]
    exact h.version
  rw [hlines]
  unfold readRecord
  refine Reads.bind (reads_readHeader record) ?_
  refine Reads.step (Reads.require hversion _) ?_
  refine Reads.bind (reads_readIsolated rfl h rfl) ?_
  refine Reads.bind reads_readStack ?_
  refine Reads.bind (reads_readSource rfl rfl rfl rfl) ?_
  exact reads_readState _

/-- Every piece of the text is one word. -/
theorem tokenLines_recordLines {record : TunerRecoveryRecord} (h : ValidRecord record) :
    RecoveryJournalV5.TokenLines (recordLines record) := by
  have hhost := h.host
  unfold recordLines
  refine RecoveryJournalV5.tokenLines_append (RecoveryJournalV5.tokenLines_append
    (RecoveryJournalV5.tokenLines_append (RecoveryJournalV5.tokenLines_append ?_ ?_) ?_) ?_) ?_
  · simp +decide [RecoveryJournalV5.TokenLines, headerLines, isToken_decimal, hhost]
  · unfold isolatedLines
    split <;> simp +decide [RecoveryJournalV5.TokenLines, isToken_decimal]
  · simp +decide [RecoveryJournalV5.TokenLines, stackLines, isToken_decimal]
  · unfold sourceLines
    split
    · split <;> simp +decide [RecoveryJournalV5.TokenLines, isToken_decimal]
    · simp [RecoveryJournalV5.TokenLines]
  · simp +decide [RecoveryJournalV5.TokenLines, stateLines, isToken_decimal]

/-- The reader's record, once its flags are put in. -/
theorem flagged_parsedRecord {record : TunerRecoveryRecord} (hv5 : record.version5 = none)
    (h : ValidRecord record) : (parsedRecord record).flagged = recordAsWritten record := by
  have heq : ∀ b : Bool, ((flag b).toUInt16 == 1) = b := by
    intro b
    cases b <;> rfl
  have happlied : (decide (record.formatVersion ≥ 4) &&
      (decide (record.formatVersion ≥ 3) && record.sourceRestoreRequired)) =
      record.sourceAppliedConfigurationAvailable := by
    rw [h.appliedAvailable]
    by_cases hfour : record.formatVersion ≥ 4
    · have hthree : record.formatVersion ≥ 3 := UInt32.le_trans (by decide) hfour
      simp [hfour, hthree]
    · simp [hfour]
  show ({ recordAsWritten record with
      sourceRestoreRequired :=
        (flag (record.formatVersion ≥ 3 && record.sourceRestoreRequired)).toUInt16 == 1
      sourceAppliedConfigurationAvailable := record.formatVersion ≥ 4 &&
        (flag (record.formatVersion ≥ 3 && record.sourceRestoreRequired)).toUInt16 == 1
      previewRestoreRequired := (flag record.previewRestoreRequired).toUInt16 == 1
      version5 := none } : TunerRecoveryRecord) = recordAsWritten record
  rw [heq, heq, happlied, ← hv5]
  rfl

/-- The checks after reading pass on what was written. -/
theorem finishRecord_parsedRecord {record : TunerRecoveryRecord} (hv5 : record.version5 = none)
    (h : validateRecord record = none) :
    finishRecord (parsedRecord record) = .ok (recordAsWritten record) := by
  have hle : ∀ b : Bool, ¬ (flag b).toUInt16 > 1 := by
    intro b
    cases b <;> decide
  have hsum : (parsedRecord record).checksum = recordChecksum (recordAsWritten record) := by
    rw [recordChecksum_asWritten]
    simp only [parsedRecord]
  have hsource : ¬ (parsedRecord record).sourceRequired > 1 := hle _
  have hpreview : ¬ (parsedRecord record).previewRequired > 1 := hle _
  unfold finishRecord
  rw [if_neg hsource, if_neg hpreview, flagged_parsedRecord hv5 (validRecord_of_validate h),
    validateRecord_asWritten h, hsum]
  exact if_neg fun hne => hne rfl

/-! ### The journal theorems

Exactly the records with nothing in the fields that their format has no place for come back as they
were. -/

/-- A record that could be serialized is a valid one. -/
theorem serialize_success {record : TunerRecoveryRecord}
    (hversion : record.formatVersion ≠ tunerRecoveryJournalV5FormatVersion)
    (h : (serializeTunerRecoveryJournal record).success = true) :
    record.version5 = none ∧ validateRecord record = none ∧
      (serializeTunerRecoveryJournal record).text = writeRecord record := by
  unfold serializeTunerRecoveryJournal at h ⊢
  rw [if_neg hversion] at h ⊢
  split at h
  · cases h
  next hv5 =>
  split at h
  · cases h
  next hvalid =>
    rw [if_neg hv5]
    exact ⟨by simpa using hv5, hvalid, rfl⟩

/-- Reading back a written record of format 1 to 4 gives the record as written. -/
theorem parseTunerRecoveryJournal_writeRecord {record : TunerRecoveryRecord}
    (hv5 : record.version5 = none) (h : validateRecord record = none) :
    parseTunerRecoveryJournal (writeRecord record) =
      { success := true, message := "Parsed tuner recovery journal.",
        record := some (recordAsWritten record) } := by
  have hvalid := validRecord_of_validate h
  have htokens : tokens (writeRecord record) = (recordLines record).flatten :=
    tokens_flatMap_line (tokenLines_recordLines hvalid)
  have hread := reads_readRecord hvalid []
  rw [List.append_nil] at hread
  have hheader : headerAnnouncesV5 (recordLines record).flatten = false := by
    have hlt : record.formatVersion.toNat < 2 ^ 32 := record.formatVersion.toNat_lt
    have hle := UInt32.le_iff_toNat_le.mp hvalid.version.2
    have hne : record.formatVersion ≠ tunerRecoveryJournalV5FormatVersion := by
      rintro e
      rw [e] at hle
      exact absurd hle (by decide)
    show (journalMagic == journalMagic && extractUInt32 (decimal record.formatVersion.toNat) ==
      some tunerRecoveryJournalV5FormatVersion) = false
    rw [extractUInt32_decimal hlt, Nat.toUInt32_eq, UInt32.ofNat_toNat]
    simp [hne]
  unfold parseTunerRecoveryJournal
  rw [htokens, hheader, hread]
  simp only [Bool.false_eq_true, if_false, finishRecord_parsedRecord hv5 h]

end RecoveryJournal

open RecoveryJournal

/-- Formats 1 to 4: a record that serializes is read back unchanged exactly when the source fields
that its format does not write are at their defaults. -/
theorem legacyJournal_roundTrip_iff (record : TunerRecoveryRecord)
    (hversion : record.formatVersion ≤ 4)
    (h : (serializeTunerRecoveryJournal record).success = true) :
    ((parseTunerRecoveryJournal (serializeTunerRecoveryJournal record).text).success = true ∧
      (parseTunerRecoveryJournal (serializeTunerRecoveryJournal record).text).record =
        some record) ↔
    (3 ≤ record.formatVersion ∨ record.sourceRestoreRequired = false ∧ record.sourceQuad = 0 ∧
      record.sourceOriginalConfiguration = 0) ∧
    (4 ≤ record.formatVersion ∨ record.sourceAppliedConfiguration = 0) := by
  have hne : record.formatVersion ≠ tunerRecoveryJournalV5FormatVersion := by
    rintro e
    rw [e] at hversion
    exact absurd hversion (by decide)
  obtain ⟨hv5, hvalid, htext⟩ := serialize_success hne h
  rw [htext, parseTunerRecoveryJournal_writeRecord hv5 hvalid]
  simp only [true_and, Option.some.injEq]
  exact recordAsWritten_eq_iff

/-- A format 2 record with a pending source restoration. -/
def sourceRestoreInFormat2 : TunerRecoveryRecord :=
  { formatVersion := 2, phase := .active, host := ascii "mvlc", mvlcHardwareId := 0x5008
    mdppBaseAddress := 0x11110000, mdppHardwareId := 0x5007, mdppIrqLevel := 1
    stackTriggerRegister := 0x1100, stackOffsetRegister := 0x1200
    ownershipTokenRegister := 0x2004, ownershipTokenValue := 7
    sourceRestoreRequired := true, sourceQuad := 3, sourceOriginalConfiguration := 0x10 }

/-- Its pending restoration is lost without an error. -/
theorem sourceRestoreInFormat2_lost :
    (serializeTunerRecoveryJournal sourceRestoreInFormat2).success = true ∧
    ∃ parsed, (parseTunerRecoveryJournal
        (serializeTunerRecoveryJournal sourceRestoreInFormat2).text).record = some parsed ∧
      parsed.sourceRestoreRequired = false ∧ parsed ≠ sourceRestoreInFormat2 := by
  have hvalid : validateRecord sourceRestoreInFormat2 = none := by decide +kernel
  have hserialized : serializeTunerRecoveryJournal sourceRestoreInFormat2 =
      { success := true, message := "Serialized tuner recovery journal."
        text := writeRecord sourceRestoreInFormat2 } := by
    unfold serializeTunerRecoveryJournal
    rw [if_neg (by decide), if_neg (by decide), hvalid]
  rw [hserialized, parseTunerRecoveryJournal_writeRecord rfl hvalid]
  exact ⟨rfl, _, rfl, rfl, by decide⟩

/-- In format 3 the same record does come back. -/
theorem legacyJournal_roundTrip_iff_example :
    (parseTunerRecoveryJournal (serializeTunerRecoveryJournal
      { sourceRestoreInFormat2 with formatVersion := 3 }).text).record =
        some { sourceRestoreInFormat2 with formatVersion := 3 } :=
  ((legacyJournal_roundTrip_iff { sourceRestoreInFormat2 with formatVersion := 3 } (by decide)
    (by decide +kernel)).mpr ⟨.inl (by decide), .inr rfl⟩).2

/-! ### Format 5

The common writer and reader hand records of format 5 on. Besides the evidence of the session, the
two scalars that the validator does not look at are lost unless they have their defaults. -/

/-- The record with the display side of its snapshot, message and selector log, cleared. -/
def withoutSnapshotDisplay (record : TunerRecoveryRecord) : TunerRecoveryRecord :=
  { record with
    version5 := record.version5.map fun data =>
      { data with
        liveRestoreSnapshot := data.liveRestoreSnapshot.map fun snapshot =>
          { snapshot with message := "", selectorWrites := [] } } }

namespace RecoveryJournalV5

/-- Only a direct endpoint with SSH fields loses something. -/
theorem endpointAsWritten_eq_iff {endpoint : ControllerEndpointRequest} :
    endpointAsWritten endpoint = endpoint ↔ (endpoint.kind = .directEthernet →
      endpoint.sshDestination = [] ∧ endpoint.remoteBridgeCommand = []) := by
  obtain ⟨kind, host, port, destination, command⟩ := endpoint
  cases kind with
  | directEthernet => simp [endpointAsWritten, eq_comm (a := ([] : Text))]
  | sshBridge => simp [endpointAsWritten]

/-- With no scalar evidence, phase and command port are all that is left besides the v5 part. -/
theorem eq_of_legacyEvidenceIsAbsent {record : TunerRecoveryRecord}
    (h : legacyEvidenceIsAbsent record = true) :
    record = { formatVersion := record.formatVersion, phase := record.phase
               commandPort := record.commandPort, version5 := record.version5 } := by
  cases record
  simp only [legacyEvidenceIsAbsent, Bool.and_eq_true, beq_iff_eq, List.isEmpty_iff,
    Bool.not_eq_true'] at h
  simp only [h]

/-- Format 5 writes none of the older scalars, so they come back at their defaults. -/
theorem withoutSnapshotDisplay_recordAsWritten {record : TunerRecoveryRecord}
    {data : TunerRecoveryV5Data} (h : validateV5Record record = .ok data) :
    withoutSnapshotDisplay (recordAsWritten data) = withoutSnapshotDisplay record ↔
      record.phase = .prepared ∧ record.commandPort = 32768 ∧
      (data.endpoint.kind = .directEthernet →
        data.endpoint.sshDestination = [] ∧ data.endpoint.remoteBridgeCommand = []) := by
  obtain ⟨hdata, hversion, habsent, -⟩ := validateV5Record_eq_ok h
  have hrecord := eq_of_legacyEvidenceIsAbsent habsent
  rw [hversion, hdata] at hrecord
  rw [hrecord, ← endpointAsWritten_eq_iff]
  have hsnapshot : (data.liveRestoreSnapshot.map snapshotAsWritten).map
      (fun snapshot => { snapshot with message := "", selectorWrites := [] }) =
      data.liveRestoreSnapshot.map
        fun snapshot => { snapshot with message := "", selectorWrites := [] } := by
    rw [Option.map_map]
    rfl
  obtain ⟨sessionPhase, endpoint, identity, selectorParkingRequired, ownership, snapshot,
    deviations⟩ := data
  simp only [withoutSnapshotDisplay, recordAsWritten, dataAsWritten, Option.map_some, hsnapshot,
    TunerRecoveryRecord.mk.injEq, TunerRecoveryV5Data.mk.injEq, Option.some.injEq, true_and,
    and_true]
  constructor
  · rintro ⟨hphase, hport, hendpoint⟩
    exact ⟨hphase.symm, hport.symm, hendpoint⟩
  · rintro ⟨hphase, hport, hendpoint⟩
    exact ⟨hphase.symm, hport.symm, hendpoint⟩

/-- The common reader recognises format 5 and hands it on. -/
theorem parseTunerRecoveryJournal_writeV5 {record : TunerRecoveryRecord}
    {data : TunerRecoveryV5Data} (h : validateV5Record record = .ok data) :
    parseTunerRecoveryJournal (writeV5 data) =
      { success := true, message := "Parsed v5 tuner recovery journal."
        record := some (recordAsWritten data) } := by
  obtain ⟨-, -, -, hvalid⟩ := validateV5Record_eq_ok h
  have htokens : tokens (writeV5 data) = (v5Lines data).flatten :=
    tokens_flatMap_line (tokenLines_v5Lines (validV5Data_of_validate hvalid))
  have hheader : headerAnnouncesV5 (v5Lines data).flatten = true := by
    show (journalMagic == journalMagic && extractUInt32 (decimal 5) ==
      some tunerRecoveryJournalV5FormatVersion) = true
    decide
  unfold parseTunerRecoveryJournal
  rw [htokens, hheader, if_pos rfl]
  exact parseTunerRecoveryJournalV5_writeV5 h

end RecoveryJournalV5

open RecoveryJournalV5 in
/-- Format 5: a record that serializes is read back, up to the display side of its snapshot,
exactly when its phase and command port are the defaults and a direct endpoint has no SSH
fields. -/
theorem v5Journal_roundTrip_iff (record : TunerRecoveryRecord)
    (h : (serializeTunerRecoveryJournalV5 record).success = true) :
    ((parseTunerRecoveryJournal (serializeTunerRecoveryJournalV5 record).text).success = true ∧
      ∃ parsed, (parseTunerRecoveryJournal (serializeTunerRecoveryJournalV5 record).text).record =
        some parsed ∧ withoutSnapshotDisplay parsed = withoutSnapshotDisplay record) ↔
    record.phase = .prepared ∧ record.commandPort = 32768 ∧
      ∀ data ∈ record.version5, data.endpoint.kind = .directEthernet →
        data.endpoint.sshDestination = [] ∧ data.endpoint.remoteBridgeCommand = [] := by
  obtain ⟨data, hdata, htext⟩ := serializeV5_success h
  obtain ⟨hv5, -, -, -⟩ := validateV5Record_eq_ok hdata
  rw [htext, parseTunerRecoveryJournal_writeV5 hdata, hv5]
  simp only [true_and, Option.some.injEq, exists_eq_left', Option.mem_def, forall_eq']
  exact withoutSnapshotDisplay_recordAsWritten hdata

/-- The evidence of a session that has only identified its target. -/
def preparingData : TunerRecoveryV5Data :=
  { endpoint := { mvlcHost := ascii "mvlc", remoteBridgeCommand := [] }
    identity :=
      { mvlcHardwareId := 0x5008, mvlcFirmwareRevision := 0x0046, targetBaseAddress := 0x11110000
        targetHardwareId := mdpp32HardwareId
        targetFirmwareRevision := mdpp32ScpFirmwareRevisionFw2051 } }

/-- The same with the bridge command that an endpoint has by default. -/
def bridgedData : TunerRecoveryV5Data :=
  { preparingData with endpoint := { mvlcHost := ascii "mvlc" } }

/-- The record serializes, and something else comes back. -/
def LostInJournal (record : TunerRecoveryRecord) : Prop :=
  (serializeTunerRecoveryJournalV5 record).success = true ∧
  ∃ parsed, (parseTunerRecoveryJournal (serializeTunerRecoveryJournalV5 record).text).record =
    some parsed ∧ withoutSnapshotDisplay parsed ≠ withoutSnapshotDisplay record

open RecoveryJournalV5 in
/-- A record that comes back changed is the failing input. -/
theorem lostInJournal_of_ne {record : TunerRecoveryRecord} {data : TunerRecoveryV5Data}
    (h : validateV5Record record = .ok data)
    (hne : withoutSnapshotDisplay (recordAsWritten data) ≠ withoutSnapshotDisplay record) :
    LostInJournal record := by
  have hserialized : serializeTunerRecoveryJournalV5 record =
      { success := true, message := "Serialized v5 tuner recovery journal."
        text := writeV5 data } := by
    unfold serializeTunerRecoveryJournalV5
    rw [h]
  unfold LostInJournal
  rw [hserialized, parseTunerRecoveryJournal_writeV5 h]
  exact ⟨rfl, _, rfl, hne⟩

/-- An active record, and one whose direct endpoint has the default bridge command. -/
theorem preparingData_lost :
    LostInJournal { formatVersion := 5, phase := .active, version5 := some preparingData } ∧
    LostInJournal { formatVersion := 5, version5 := some bridgedData } :=
  ⟨@lostInJournal_of_ne _ preparingData rfl (by decide),
    @lostInJournal_of_ne _ bridgedData rfl (by decide)⟩

open RecoveryJournalV5 in
/-- A record of format 5 that comes back. -/
theorem v5Journal_roundTrip_iff_example :
    (parseTunerRecoveryJournal (serializeTunerRecoveryJournalV5
      { formatVersion := 5, version5 := some preparingData }).text).success = true :=
  ((v5Journal_roundTrip_iff { formatVersion := 5, version5 := some preparingData }
    (by decide +kernel)).mpr ⟨rfl, rfl, fun _ h => by cases h; exact fun _ => ⟨rfl, rfl⟩⟩).1

end Fidget
