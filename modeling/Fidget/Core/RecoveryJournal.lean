import Fidget.Core.RecoveryJournalV5

/-!
# The recovery journal, formats 1 to 4

`core/RecoveryJournal.cpp`, the text side: one validator, one writer, one checksum and one reader
for four formats that each write more of the record than the last. Format 2 adds the isolated
modules, format 3 the waveform source, format 4 the source configuration applied to it. Format 5 is
recognised here and handed on.

The source writes lines to a stream and reads words from one with `operator>>`. Here a text is a
list of characters: what is written are lines, and what is read are words, wherever the lines end.

## Main results

- `serializeTunerRecoveryJournal` and `parseTunerRecoveryJournal`: the two directions for all five
  formats.
-/

namespace Fidget

open TokenText

namespace RecoveryJournal

/-! ### Validation

One list of checks with the messages of the source, in its order. Some of them depend on the format.
-/

/-- At most 255 characters, with no blank or control character among them. -/
def validHost (host : Text) : Bool :=
  !host.isEmpty && host.length ≤ 255 &&
    host.all fun character => !(character ≤ 0x20 || character == 0x7F)

/-- Isolated modules sit on pages of their own, none of them that of the target. -/
def isolatedModulesObstacle (mdppBaseAddress : UInt32) :
    (previous addresses : List UInt32) → Option Text
  | _, [] => none
  | previous, baseAddress :: addresses =>
    if baseAddress = 0 ∨ baseAddress &&& 0xFFFF ≠ 0 ∨ baseAddress = mdppBaseAddress then
      some "Invalid isolated-module address in the recovery journal."
    else if previous.contains baseAddress then
      some "Duplicate isolated-module address in the recovery journal."
    else isolatedModulesObstacle mdppBaseAddress (previous ++ [baseAddress]) addresses

/-- The message that refuses a record, none when it is valid. -/
def validateRecord (record : TunerRecoveryRecord) : Option Text :=
  firstFailure [
    (record.formatVersion < 1 || record.formatVersion > tunerRecoveryJournalFormatVersion,
      "Unsupported tuner recovery-journal version."),
    (record.phase != .prepared && record.phase != .active,
      "Invalid tuner recovery phase."),
    (!validHost record.host || record.commandPort == 0,
      "Invalid MVLC endpoint in the tuner recovery journal."),
    (record.mvlcHardwareId != 0x5008,
      "The recovery journal does not identify an MVLC."),
    (record.mdppBaseAddress == 0 || record.mdppBaseAddress &&& 0xFFFF != 0 ||
        (record.mdppHardwareId != 0x5007 && record.mdppHardwareId != 0x500C),
      "Invalid MDPP identity in the tuner recovery journal."),
    (record.mdppIrqLevel < 1 || record.mdppIrqLevel > 6 || record.stackTriggerRegister == 0 ||
        record.stackOffsetRegister == 0 || record.ownershipTokenRegister == 0 ||
        record.ownershipTokenValue == 0,
      "Incomplete tuner ownership fingerprint in the recovery journal."),
    (record.formatVersion == 1 && !record.isolatedModuleBaseAddresses.isEmpty,
      "A legacy recovery journal cannot contain isolated modules."),
    (record.isolatedModuleBaseAddresses.length > 15,
      "Too many isolated modules in the recovery journal.")]
  <|> isolatedModulesObstacle record.mdppBaseAddress [] record.isolatedModuleBaseAddresses
  <|> firstFailure [
    (record.previewRestoreRequired &&
        (record.previewQuad > 7 || record.previewRegisterOffset == 0),
      "Invalid parameter-preview recovery record."),
    (record.sourceRestoreRequired && record.sourceQuad > 7,
      "Invalid waveform-source recovery record."),
    (record.formatVersion < 4 && record.sourceAppliedConfigurationAvailable,
      "A legacy recovery journal cannot contain an applied waveform-source configuration."),
    (record.formatVersion ≥ 4 && record.sourceRestoreRequired &&
        !record.sourceAppliedConfigurationAvailable,
      "The waveform-source recovery record lacks its applied configuration."),
    (record.sourceAppliedConfigurationAvailable &&
        (record.sourceAppliedConfiguration == record.sourceOriginalConfiguration ||
          (record.sourceAppliedConfiguration ^^^ record.sourceOriginalConfiguration) &&& 0xFFFC
            != 0),
      "The applied waveform-source configuration is inconsistent with its original."),
    (!record.sourceRestoreRequired && record.sourceAppliedConfigurationAvailable,
      "An inactive waveform-source recovery record cannot contain an applied configuration.")]

/-! ### Checksum and writer

Each format hashes and writes the sections that it has. -/

/-- Each format hashes what it writes. -/
def recordChecksum (record : TunerRecoveryRecord) : UInt64 :=
  let hash := hashValues fnvOffsetBasis [record.formatVersion, record.phase.code.toUInt32]
  let hash := hashText hash record.host
  hashValues hash ([record.commandPort.toUInt32, record.mvlcHardwareId,
      record.mvlcFirmwareRevision, record.mdppBaseAddress, record.mdppHardwareId.toUInt32,
      record.mdppIrqLevel.toUInt32, record.mdppOutputFormat.toUInt32,
      record.stackTriggerRegister.toUInt32, record.stackTriggerValue,
      record.stackOffsetRegister.toUInt32, record.stackOffsetValue,
      record.ownershipTokenRegister.toUInt32, record.ownershipTokenValue]
    ++ (if record.formatVersion ≥ 2 then
        record.isolatedModuleBaseAddresses.length.toUInt32 :: record.isolatedModuleBaseAddresses
      else [])
    ++ (if record.formatVersion ≥ 3 then
        [(flag record.sourceRestoreRequired).toUInt32, record.sourceQuad.toUInt32,
          record.sourceOriginalConfiguration.toUInt32]
      else [])
    ++ (if record.formatVersion ≥ 4 then [record.sourceAppliedConfiguration.toUInt32] else [])
    ++ [(flag record.previewRestoreRequired).toUInt32, record.previewQuad.toUInt32,
      record.previewRegisterOffset.toUInt32, record.previewOriginalValue.toUInt32,
      record.previewAppliedValue.toUInt32])

def headerLines (record : TunerRecoveryRecord) : List (List Text) :=
  [[journalMagic, decimal record.formatVersion.toNat],
    [ascii "ENDPOINT", record.host, decimal record.commandPort.toNat],
    [ascii "MVLC", decimal record.mvlcHardwareId.toNat, decimal record.mvlcFirmwareRevision.toNat],
    [ascii "MDPP", decimal record.mdppBaseAddress.toNat, decimal record.mdppHardwareId.toNat,
      decimal record.mdppIrqLevel.toNat, decimal record.mdppOutputFormat.toNat]]

/-- From format 2 on. -/
def isolatedLines (record : TunerRecoveryRecord) : List (List Text) :=
  if record.formatVersion ≥ 2 then
    [[ascii "ISOLATED", decimal record.isolatedModuleBaseAddresses.length]
      ++ record.isolatedModuleBaseAddresses.map fun baseAddress => decimal baseAddress.toNat]
  else []

def stackLines (record : TunerRecoveryRecord) : List (List Text) :=
  [[ascii "STACK", decimal record.stackTriggerRegister.toNat,
    decimal record.stackTriggerValue.toNat, decimal record.stackOffsetRegister.toNat,
    decimal record.stackOffsetValue.toNat, decimal record.ownershipTokenRegister.toNat,
    decimal record.ownershipTokenValue.toNat]]

/-- From format 3 on; the applied configuration only in format 4. -/
def sourceLines (record : TunerRecoveryRecord) : List (List Text) :=
  if record.formatVersion ≥ 3 then
    [[ascii "SOURCE", decimal (flag record.sourceRestoreRequired),
      decimal record.sourceQuad.toNat, decimal record.sourceOriginalConfiguration.toNat]
      ++ (if record.formatVersion ≥ 4 then [decimal record.sourceAppliedConfiguration.toNat]
        else [])]
  else []

/-- The preview that is to be undone. -/
def stateLines (record : TunerRecoveryRecord) : List (List Text) :=
  [[ascii "STATE", decimal record.phase.code.toNat, decimal (flag record.previewRestoreRequired),
      decimal record.previewQuad.toNat, decimal record.previewRegisterOffset.toNat,
      decimal record.previewOriginalValue.toNat, decimal record.previewAppliedValue.toNat],
    [ascii "CHECKSUM", decimal (recordChecksum record).toNat],
    [ascii "END"]]

def recordLines (record : TunerRecoveryRecord) : List (List Text) :=
  headerLines record ++ isolatedLines record ++ stackLines record ++ sourceLines record
    ++ stateLines record

/-- The whole text, line by line. -/
def writeRecord (record : TunerRecoveryRecord) : Text := (recordLines record).flatMap line

/-! ### The reader

The sections are read in the order in which they are written. The flags and the checksum are judged
at the end, when the whole text was read. -/

/-- The magic word and the version come first, and decide how to read on. -/
def readHeader : Reader TunerRecoveryRecord :=
  orMessage "Malformed tuner recovery journal." do
    let magic ← readToken
    require (magic == journalMagic) []
    let formatVersion ← readUInt32 [] "format version"
    expectToken [] "ENDPOINT"
    let host ← readToken
    let commandPort ← readUInt16 [] "command port"
    expectToken [] "MVLC"
    let mvlcHardwareId ← readUInt32 [] "MVLC hardware ID"
    let mvlcFirmwareRevision ← readUInt32 [] "MVLC firmware"
    expectToken [] "MDPP"
    let mdppBaseAddress ← readUInt32 [] "MDPP base"
    let mdppHardwareId ← readUInt16 [] "MDPP hardware ID"
    let mdppIrqLevel ← readUInt16 [] "MDPP IRQ"
    let mdppOutputFormat ← readUInt16 [] "MDPP output"
    return { formatVersion, host, commandPort, mvlcHardwareId, mvlcFirmwareRevision,
             mdppBaseAddress, mdppHardwareId, mdppIrqLevel, mdppOutputFormat }

/-- The count is checked before that many addresses are read. -/
def readIsolated (record : TunerRecoveryRecord) : Reader TunerRecoveryRecord :=
  if record.formatVersion ≥ 2 then do
    expectToken [] "ISOLATED"
    let isolatedModuleCount ← readUInt16 [] "isolated module count"
    require (isolatedModuleCount ≤ 15) "Too many isolated modules in the recovery journal."
    let isolatedModuleBaseAddresses ←
      readMany (fun _ => readUInt32 [] "isolated module base") isolatedModuleCount.toNat 0
    return { record with isolatedModuleBaseAddresses }
  else pure record

def readStack (record : TunerRecoveryRecord) : Reader TunerRecoveryRecord :=
  orMessage "Malformed tuner recovery journal." do
    expectToken [] "STACK"
    let stackTriggerRegister ← readUInt16 [] "stack trigger register"
    let stackTriggerValue ← readUInt32 [] "stack trigger value"
    let stackOffsetRegister ← readUInt16 [] "stack offset register"
    let stackOffsetValue ← readUInt32 [] "stack offset value"
    let ownershipTokenRegister ← readUInt16 [] "ownership token register"
    let ownershipTokenValue ← readUInt32 [] "ownership token value"
    return { record with
             stackTriggerRegister, stackTriggerValue, stackOffsetRegister, stackOffsetValue,
             ownershipTokenRegister, ownershipTokenValue }

/-- The source section and the number that stands for its flag. -/
def readSource (record : TunerRecoveryRecord) : Reader (TunerRecoveryRecord × UInt16) :=
  if record.formatVersion ≥ 3 then do
    expectToken [] "SOURCE"
    let sourceRequired ← readUInt16 [] "source state"
    let sourceQuad ← readUInt16 [] "source quad"
    let sourceOriginalConfiguration ← readUInt16 [] "source original configuration"
    let sourceAppliedConfiguration ←
      if record.formatVersion ≥ 4 then readUInt16 [] "source applied configuration"
      else pure record.sourceAppliedConfiguration
    return ({ record with sourceQuad, sourceOriginalConfiguration, sourceAppliedConfiguration },
      sourceRequired)
  else pure (record, 0)

/-- Everything in a text, before the flags and the checksum are judged. -/
structure ParsedRecord where
  record : TunerRecoveryRecord
  sourceRequired : UInt16
  previewRequired : UInt16
  checksum : UInt64

def readState (record : TunerRecoveryRecord) (sourceRequired : UInt16) : Reader ParsedRecord :=
  orMessage "Malformed tuner recovery journal." do
    expectToken [] "STATE"
    let phase ← readUInt16 [] "recovery phase"
    let previewRequired ← readUInt16 [] "preview state"
    let previewQuad ← readUInt16 [] "preview quad"
    let previewRegisterOffset ← readUInt16 [] "preview register"
    let previewOriginalValue ← readUInt16 [] "preview original"
    let previewAppliedValue ← readUInt16 [] "preview applied"
    expectToken [] "CHECKSUM"
    let checksum ← readUInt64 [] "checksum"
    expectToken [] "END"
    return { record := { record with
               phase := ⟨phase⟩, previewQuad, previewRegisterOffset, previewOriginalValue,
               previewAppliedValue }
             sourceRequired, previewRequired, checksum }

/-- The sections, each only where its format has it. -/
def readRecord : Reader ParsedRecord := do
  let record ← readHeader
  require (1 ≤ record.formatVersion && record.formatVersion ≤ tunerRecoveryJournalFormatVersion)
    "Unsupported tuner recovery-journal version."
  let record ← readIsolated record
  let record ← readStack record
  let (record, sourceRequired) ← readSource record
  readState record sourceRequired

/-- The record with its flags set. -/
def ParsedRecord.flagged (parsed : ParsedRecord) : TunerRecoveryRecord :=
  { parsed.record with
    sourceRestoreRequired := parsed.sourceRequired == 1
    sourceAppliedConfigurationAvailable :=
      parsed.record.formatVersion ≥ 4 && parsed.sourceRequired == 1
    previewRestoreRequired := parsed.previewRequired == 1 }

/-- Judge the flags, the record and the checksum. -/
def finishRecord (parsed : ParsedRecord) : Except Text TunerRecoveryRecord :=
  if parsed.sourceRequired > 1 then
    .error "Invalid source state in tuner recovery journal."
  else if parsed.previewRequired > 1 then
    .error "Invalid preview state in tuner recovery journal."
  else
    match validateRecord parsed.flagged with
    | some message => .error message
    | none =>
      if parsed.checksum ≠ recordChecksum parsed.flagged then
        .error "Tuner recovery-journal checksum mismatch."
      else .ok parsed.flagged

/-- `header >> magic >> version` names format 5. -/
def headerAnnouncesV5 (words : List Text) : Bool :=
  match words with
  | magic :: version :: _ =>
    magic == journalMagic && extractUInt32 version == some tunerRecoveryJournalV5FormatVersion
  | _ => false

end RecoveryJournal

open RecoveryJournal

/-- Format 5 is handed on; the other formats write a valid record. -/
def serializeTunerRecoveryJournal (record : TunerRecoveryRecord) :
    TunerRecoverySerializationResult :=
  if record.formatVersion = tunerRecoveryJournalV5FormatVersion then
    serializeTunerRecoveryJournalV5 record
  else if record.version5.isSome then
    { message := "A legacy recovery journal cannot contain v5 evidence." }
  else
    match validateRecord record with
    | some message => { message }
    | none =>
      { success := true, message := "Serialized tuner recovery journal.",
        text := writeRecord record }

/-- The version decides which of the two readers takes the text. -/
def parseTunerRecoveryJournal (text : Text) : TunerRecoveryParseResult :=
  if headerAnnouncesV5 (tokens text) then parseTunerRecoveryJournalV5 text
  else
    match readRecord (tokens text) with
    | .error message => { message }
    | .ok (_, _ :: _) => { message := "Unexpected trailing data in tuner recovery journal." }
    | .ok (parsed, []) =>
      match finishRecord parsed with
      | .error message => { message }
      | .ok record =>
        { success := true, message := "Parsed tuner recovery journal.", record := some record }

end Fidget
