import Fidget.Core.ControllerEndpoint
import Fidget.Core.ScpRegistry

/-!
# Recovery records

`core/RecoveryJournal.h`, and the pieces both journal formats use: the FNV-1a checksum over the
values of a record, the list of checks that refuse a record, and the readers of keywords and
numbers. The two formats word their reading errors alike up to a label, which is empty for the
formats 1 to 4 and `v5 ` for format 5.

## Main results

- `firstFailure_eq_none`: a record passes exactly if none of the checks fails.
- `reads_readUInt16`, `reads_readUInt32`, `reads_readUInt64`: a written number is read back.
-/

namespace Fidget

open TokenText

/-- The format of the scalars that is written now. -/
def tunerRecoveryJournalFormatVersion : UInt32 := 4
/-- The format of the evidence. -/
def tunerRecoveryJournalV5FormatVersion : UInt32 := 5
/-- So many deviations fit into a journal. -/
def tunerRecoveryV5MaximumDeviationCount : Nat := 1024

/-- The phase of a record: a code, because the reader casts whatever number it finds. -/
structure TunerRecoveryPhase where
  code : UInt16
  deriving DecidableEq, Repr

def TunerRecoveryPhase.prepared : TunerRecoveryPhase := ⟨1⟩
def TunerRecoveryPhase.active : TunerRecoveryPhase := ⟨2⟩

/-- Where a tuning session stands. -/
inductive TuningSessionPhase where
  | home
  | preparing
  | goal
  | group
  | automaticLearnSignal
  | automaticEnergy
  | automaticTiming
  | manual
  | groupResult
  | restoring
  | nextGroup
  | finished
  deriving DecidableEq, Repr

/-! ### Version 5 evidence

What format 5 has instead of the scalars: the session in sections. -/

/-- Which controller and which module the session is about. -/
structure TunerRecoveryV5IdentityEvidence where
  mvlcHardwareId : UInt32 := 0
  mvlcFirmwareRevision : UInt32 := 0
  targetBaseAddress : UInt32 := 0
  targetHardwareId : UInt16 := 0
  targetFirmwareRevision : UInt16 := 0
  deriving DecidableEq, Repr

/-- The stack and the token that mark the controller as this session's, and the modules that it has
isolated. -/
structure TunerRecoveryV5OwnershipEvidence where
  stackTriggerRegister : UInt16 := 0
  stackTriggerValue : UInt32 := 0
  stackOffsetRegister : UInt16 := 0
  stackOffsetValue : UInt32 := 0
  ownershipTokenRegister : UInt16 := 0
  ownershipTokenValue : UInt32 := 0
  isolatedModuleBaseAddresses : List UInt32 := []
  deriving DecidableEq, Repr

inductive TunerRecoveryDeviationScope where
  | global
  | quad
  deriving DecidableEq, Repr

/-- One write that the session was about to make. -/
structure TunerRecoveryV5Deviation where
  ordinal : UInt32 := 0
  scope : TunerRecoveryDeviationScope := .global
  quad : Option UInt16 := none
  registerOffset : UInt16 := 0
  originalSessionValue : UInt16 := 0
  previousVerifiedWorkingValue : UInt16 := 0
  requestedNextValue : UInt16 := 0
  transitionPhase : TuningSessionPhase := .preparing
  deriving DecidableEq, Repr

/-- All that format 5 writes of a session. -/
structure TunerRecoveryV5Data where
  sessionPhase : TuningSessionPhase := .preparing
  endpoint : ControllerEndpointRequest := {}
  identity : TunerRecoveryV5IdentityEvidence := {}
  selectorParkingRequired : Bool := false
  ownership : Option TunerRecoveryV5OwnershipEvidence := none
  liveRestoreSnapshot : Option Fw2051ScpConfigurationSnapshot := none
  deviations : List TunerRecoveryV5Deviation := []
  deriving DecidableEq, Repr

/-! ### Records and results

One record for all formats. Which of its fields are in use depends on the format. -/

/-- The scalars are those of the formats 1 to 4; format 5 uses none of them. -/
structure TunerRecoveryRecord where
  formatVersion : UInt32 := tunerRecoveryJournalFormatVersion
  phase : TunerRecoveryPhase := .prepared
  host : Text := []
  commandPort : UInt16 := 32768
  mvlcHardwareId : UInt32 := 0
  mvlcFirmwareRevision : UInt32 := 0
  mdppBaseAddress : UInt32 := 0
  mdppHardwareId : UInt16 := 0
  mdppIrqLevel : UInt16 := 0
  mdppOutputFormat : UInt16 := 0
  stackTriggerRegister : UInt16 := 0
  stackTriggerValue : UInt32 := 0
  stackOffsetRegister : UInt16 := 0
  stackOffsetValue : UInt32 := 0
  ownershipTokenRegister : UInt16 := 0
  ownershipTokenValue : UInt32 := 0
  isolatedModuleBaseAddresses : List UInt32 := []
  sourceRestoreRequired : Bool := false
  sourceQuad : UInt16 := 0
  sourceOriginalConfiguration : UInt16 := 0
  sourceAppliedConfigurationAvailable : Bool := false
  sourceAppliedConfiguration : UInt16 := 0
  previewRestoreRequired : Bool := false
  previewQuad : UInt16 := 0
  previewRegisterOffset : UInt16 := 0
  previewOriginalValue : UInt16 := 0
  previewAppliedValue : UInt16 := 0
  version5 : Option TunerRecoveryV5Data := none
  deriving DecidableEq, Repr

/-- The text, or the message of a refusal. -/
structure TunerRecoverySerializationResult where
  success : Bool := false
  message : Text := []
  text : Text := []
  deriving DecidableEq, Repr

/-- The record, or the message of a refusal. -/
structure TunerRecoveryParseResult where
  success : Bool := false
  message : Text := []
  record : Option TunerRecoveryRecord := none
  deriving DecidableEq, Repr

namespace RecoveryJournal

/-- The first word of every journal. -/
def journalMagic : Text := ascii "MWW_TUNER_RECOVERY"

/-! ### The checksum

FNV-1a over bytes; wider values are hashed from the lowest byte on. -/

/-- The two constants of the FNV-1a hash. -/
def fnvOffsetBasis : UInt64 := 14695981039346656037
def fnvPrime : UInt64 := 1099511628211

/-- One step of the FNV-1a hash. -/
def hashByte (hash : UInt64) (value : UInt8) : UInt64 := (hash ^^^ value.toUInt64) * fnvPrime

/-- The four bytes of a value, the lowest first. -/
def hashValue (hash : UInt64) (value : UInt32) : UInt64 :=
  ([0, 8, 16, 24] : List UInt32).foldl (fun hash shift => hashByte hash (value >>> shift).toUInt8) hash

/-- One value after the other. -/
def hashValues (hash : UInt64) (values : List UInt32) : UInt64 := values.foldl hashValue hash

/-- The lower half of a wide value, then the upper. -/
def hashWideValue (hash value : UInt64) : UInt64 :=
  hashValues hash [value.toUInt32, (value >>> 32).toUInt32]

/-- The length, then the bytes. -/
def hashText (hash : UInt64) (value : Text) : UInt64 :=
  value.foldl hashByte (hashValue hash value.length.toUInt32)

/-! ### Checks -/

/-- The message of the first check that fails. -/
def firstFailure (checks : List (Bool × Text)) : Option Text :=
  checks.findSome? fun (failed, message) => if failed then some message else none

/-- Nothing is refused exactly if every check passes. -/
theorem firstFailure_eq_none {checks : List (Bool × Text)} :
    firstFailure checks = none ↔ ∀ check ∈ checks, check.1 = false := by
  unfold firstFailure
  rw [List.findSome?_eq_none_iff]
  constructor
  · intro h check hcheck
    have hnone := h check hcheck
    cases hfailed : check.1 with
    | false => rfl
    | true => simp [hfailed] at hnone
  · intro h check hcheck
    simp [h check hcheck]

/-! ### Words and readers

The readers take words from the front of a list, and each has a lemma that it takes what was
written. -/

def flag (b : Bool) : Nat := if b then 1 else 0

/-- A keyword of the format. -/
def expectToken (label expected : Text) : Reader Unit := fun tokens =>
  match tokens with
  | [] =>
    .error ("Unexpected end of " ++ label ++ ascii "recovery journal while reading '" ++ expected
      ++ ascii "'.")
  | token :: rest =>
    if token ≠ expected then
      .error ("Expected " ++ label ++ ascii "recovery token '" ++ expected ++ ascii "', found '"
        ++ token ++ ascii "'.")
    else .ok ((), rest)

/-- A decimal number up to a limit. -/
def readUnsigned (limit : Nat) (label field : Text) : Reader Nat := fun tokens =>
  match tokens with
  | [] => .error ("Missing unsigned value for " ++ label ++ field ++ ascii ".")
  | token :: rest =>
    match parseUnsigned limit token with
    | none =>
      .error ("Invalid unsigned value '" ++ token ++ ascii "' for " ++ label ++ field ++ ascii ".")
    | some value => .ok (value, rest)

/-- The three widths that occur. -/
def readUInt16 (label field : Text) : Reader UInt16 :=
  Nat.toUInt16 <$> readUnsigned 0xFFFF label field

def readUInt32 (label field : Text) : Reader UInt32 :=
  Nat.toUInt32 <$> readUnsigned 0xFFFFFFFF label field

def readUInt64 (label field : Text) : Reader UInt64 :=
  Nat.toUInt64 <$> readUnsigned 0xFFFFFFFFFFFFFFFF label field

/-- A keyword that was written is found. -/
theorem reads_expectToken (label expected : Text) :
    Reads (expectToken label expected) [expected] () := by
  intro rest
  show (if expected ≠ expected then _ else Except.ok ((), rest)) = _
  rw [if_neg (fun h => h rfl)]

/-- A number within the limit is read back. -/
theorem reads_readUnsigned {limit n : Nat} (h : n ≤ limit) (label field : Text) :
    Reads (readUnsigned limit label field) [decimal n] n := by
  intro rest
  show (match parseUnsigned limit (decimal n) with
    | none => _
    | some value => Except.ok (value, rest)) = _
  rw [parseUnsigned_decimal h]

/-- A number of 16 bits is read back. -/
theorem reads_readUInt16 (label field : Text) (value : UInt16) :
    Reads (readUInt16 label field) [decimal value.toNat] value := by
  have hread := reads_readUnsigned (Nat.le_of_lt_succ value.toNat_lt) label field
  have h := Reads.map Nat.toUInt16 hread
  rwa [Nat.toUInt16_eq, UInt16.ofNat_toNat] at h

/-- One of 32 bits. -/
theorem reads_readUInt32 (label field : Text) (value : UInt32) :
    Reads (readUInt32 label field) [decimal value.toNat] value := by
  have hread := reads_readUnsigned (Nat.le_of_lt_succ value.toNat_lt) label field
  have h := Reads.map Nat.toUInt32 hread
  rwa [Nat.toUInt32_eq, UInt32.ofNat_toNat] at h

/-- One of 64 bits. -/
theorem reads_readUInt64 (label field : Text) (value : UInt64) :
    Reads (readUInt64 label field) [decimal value.toNat] value := by
  have hread := reads_readUnsigned (Nat.le_of_lt_succ value.toNat_lt) label field
  have h := Reads.map Nat.toUInt64 hread
  rwa [Nat.toUInt64_eq, UInt64.ofNat_toNat] at h

end RecoveryJournal

end Fidget
