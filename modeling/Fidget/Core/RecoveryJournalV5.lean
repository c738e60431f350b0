import Fidget.Core.RecoveryJournal.Record

/-!
# The recovery journal, format 5

`core/RecoveryJournalV5.cpp`: the evidence of a tuning session. The text has one section for each
part of the evidence, a checksum after each section and one over all of them. Ownership and live
snapshot are optional; the endpoint is written in one of two shapes.

The checks on a record are those of the source, in its order and with its messages, so that the
first message is also the one the source gives. A deviation is checked against the ones in front of
it: it has to start from the value that those have left at its place.

## Main results

- `serializeTunerRecoveryJournalV5` and `parseTunerRecoveryJournalV5`: the two directions, each of
  which refuses what `validateV5Record` refuses.
-/

namespace Fidget

open TokenText

namespace RecoveryJournalV5

open RecoveryJournal

def expectedMvlcHardwareId : UInt32 := 0x5008
def expectedMvlcFirmwareRevision : UInt32 := 0x0046
def irqLevelRegister : UInt16 := 0x6010
def outputFormatRegister : UInt16 := 0x6044
def maximumIsolatedModuleCount : Nat := 15

/-! ### Session phases

A phase has a number for the checksums and a word for the text. -/

/-- The number of a phase in the checksums; no phase has the number zero. -/
def sessionPhaseCode : TuningSessionPhase → UInt32
  | .home => 1
  | .preparing => 2
  | .goal => 3
  | .group => 4
  | .automaticLearnSignal => 5
  | .automaticEnergy => 6
  | .automaticTiming => 7
  | .manual => 8
  | .groupResult => 9
  | .restoring => 10
  | .nextGroup => 11
  | .finished => 12

/-- The word of a phase in the text. -/
def sessionPhaseToken : TuningSessionPhase → Text
  | .home => "HOME"
  | .preparing => "PREPARING"
  | .goal => "GOAL"
  | .group => "GROUP"
  | .automaticLearnSignal => "AUTOMATIC_LEARN_SIGNAL"
  | .automaticEnergy => "AUTOMATIC_ENERGY"
  | .automaticTiming => "AUTOMATIC_TIMING"
  | .manual => "MANUAL"
  | .groupResult => "GROUP_RESULT"
  | .restoring => "RESTORING"
  | .nextGroup => "NEXT_GROUP"
  | .finished => "FINISHED"

def sessionPhases : List TuningSessionPhase :=
  [.home, .preparing, .goal, .group, .automaticLearnSignal, .automaticEnergy, .automaticTiming,
    .manual, .groupResult, .restoring, .nextGroup, .finished]

/-- The phase with this word, if there is one. -/
def parseSessionPhase (token : Text) : Option TuningSessionPhase :=
  sessionPhases.find? fun candidate => token == sessionPhaseToken candidate

/-! ### Validation

Section by section, and each with the message that the source gives. The deviations are walked as a
chain: each must start from the value that the one before it at the same place has requested, or
from the snapshot. -/

def validateEndpoint (endpoint : ControllerEndpointRequest) : Option Text :=
  let validation := validateControllerEndpoint endpoint
  if validation.success then none
  else some ("Invalid endpoint in the v5 recovery journal: " ++ validation.message)

/-- The controller and the module must be of the one supported kind. -/
def validateIdentity (identity : TunerRecoveryV5IdentityEvidence) : Option Text :=
  firstFailure [
    (identity.mvlcHardwareId != expectedMvlcHardwareId ||
        identity.mvlcFirmwareRevision != expectedMvlcFirmwareRevision,
      "Invalid MVLC identity evidence in the v5 recovery journal."),
    (identity.targetBaseAddress &&& 0xFFFF != 0 ||
        !isSupportedMdpp32HardwareId identity.targetHardwareId ||
        identity.targetFirmwareRevision != mdpp32ScpFirmwareRevisionFw2051,
      "Invalid target identity evidence in the v5 recovery journal.")]

/-- Isolated modules sit on pages of their own, none of them that of the target. -/
def isolatedModulesObstacle (targetBaseAddress : UInt32) :
    (previous addresses : List UInt32) → Option Text
  | _, [] => none
  | previous, address :: addresses =>
    if address &&& 0xFFFF ≠ 0 ∨ address = targetBaseAddress ∨ previous.contains address then
      some "Invalid isolated-module evidence in the v5 recovery journal."
    else isolatedModulesObstacle targetBaseAddress (previous ++ [address]) addresses

/-- Evidence of ownership names a stack and a token, and not too many modules. -/
def validateOwnership (ownership : TunerRecoveryV5OwnershipEvidence)
    (identity : TunerRecoveryV5IdentityEvidence) : Option Text :=
  firstFailure [
    (ownership.stackTriggerRegister == 0 || ownership.stackOffsetRegister == 0 ||
        ownership.ownershipTokenRegister == 0 || ownership.ownershipTokenValue == 0,
      "Incomplete ownership evidence in the v5 recovery journal."),
    (maximumIsolatedModuleCount < ownership.isolatedModuleBaseAddresses.length,
      "Too many isolated modules in the v5 recovery journal.")]
  <|> isolatedModulesObstacle identity.targetBaseAddress [] ownership.isolatedModuleBaseAddresses

/-- A snapshot can be restored from if it is complete, of the same module and has its eight quads in
order. -/
def validateSnapshot (snapshot : Fw2051ScpConfigurationSnapshot)
    (identity : TunerRecoveryV5IdentityEvidence) : Option Text :=
  firstFailure [
    (snapshot.state != .complete || !snapshot.selectorParkedAtQuadZero ||
        snapshot.baseAddress != identity.targetBaseAddress ||
        snapshot.hardwareId != identity.targetHardwareId ||
        snapshot.firmwareRevision != identity.targetFirmwareRevision,
      "Incomplete or inconsistent live restore snapshot in the v5 recovery journal."),
    (snapshot.quads.length != fw2051ScpQuadCount,
      "The v5 live restore snapshot must contain eight quads."),
    (snapshot.quads.zipIdx.any fun (quad, index) => quad.quad.toNat != index,
      "The v5 live restore snapshot quads are out of order.")]

/-- The value a deviation started from, as the live snapshot has it. -/
def snapshotValue (snapshot : Fw2051ScpConfigurationSnapshot)
    (deviation : TunerRecoveryV5Deviation) : Option UInt16 :=
  match deviation.scope, deviation.quad with
  | .global, some _ => none
  | .global, none =>
    if deviation.registerOffset = irqLevelRegister then some snapshot.irqLevel
    else if deviation.registerOffset = outputFormatRegister then some snapshot.outputFormat
    else none
  | .quad, none => none
  | .quad, some quad =>
    match snapshot.quads[quad.toNat]? with
    | none => none
    | some configuration =>
      if (findFw2051ScpSetting deviation.registerOffset).isNone then none
      else fw2051ScpQuadRegisterValue configuration deviation.registerOffset

/-- One number for scope, quad and register: two deviations with the same number are about the same
place. -/
def deviationLocationKey (deviation : TunerRecoveryV5Deviation) : UInt64 :=
  let scope : UInt64 := if deviation.scope = .quad then (1 : UInt64) <<< 32 else 0
  let quad : UInt64 := match deviation.quad with
    | some quad => quad.toUInt64 <<< 16
    | none => 0
  scope ||| quad ||| deviation.registerOffset.toUInt64

/-- Walk the transition chain. `workingValues` holds the value last requested at each location. -/
def deviationsObstacle (snapshot : Fw2051ScpConfigurationSnapshot) :
    (index : Nat) → (workingValues : List (UInt64 × UInt16)) → List TunerRecoveryV5Deviation →
      Option Text
  | _, _, [] => none
  | index, workingValues, deviation :: deviations =>
    if deviation.ordinal.toNat ≠ index ∨ sessionPhaseCode deviation.transitionPhase = 0 then
      some "The v5 recovery deviations are out of order or carry an unknown phase."
    else
      match snapshotValue snapshot deviation with
      | none => some "A v5 recovery deviation does not match the live restore snapshot."
      | some original =>
        if original ≠ deviation.originalSessionValue then
          some "A v5 recovery deviation does not match the live restore snapshot."
        else
          let key := deviationLocationKey deviation
          let expectedPrevious := (workingValues.lookup key).getD original
          if deviation.previousVerifiedWorkingValue ≠ expectedPrevious ∨
              deviation.requestedNextValue = expectedPrevious then
            some "The v5 recovery deviation transition chain is inconsistent."
          else
            deviationsObstacle snapshot (index + 1)
              ((key, deviation.requestedNextValue) :: workingValues) deviations

/-- The message of the first section that is refused. Without a snapshot there may be no deviations.
-/
def validateV5Data (data : TunerRecoveryV5Data) : Option Text :=
  firstFailure [(sessionPhaseCode data.sessionPhase == 0,
    "Unknown session phase in the v5 recovery journal.")]
  <|> validateEndpoint data.endpoint
  <|> validateIdentity data.identity
  <|> data.ownership.bind (validateOwnership · data.identity)
  <|> match data.liveRestoreSnapshot with
    | none =>
      if data.sessionPhase ≠ .preparing ∨ data.deviations ≠ [] then
        some "Only an identity-only Preparing v5 record may omit the live restore snapshot."
      else none
    | some snapshot =>
      validateSnapshot snapshot data.identity
      <|> firstFailure [(tunerRecoveryV5MaximumDeviationCount < data.deviations.length,
        "Too many deviations in the v5 recovery journal.")]
      <|> deviationsObstacle snapshot 0 [] data.deviations

/-- No scalar of the older formats is in use; two of them, the phase and the command port, are not
looked at. -/
def legacyEvidenceIsAbsent (record : TunerRecoveryRecord) : Bool :=
  record.host.isEmpty && record.mvlcHardwareId == 0 && record.mvlcFirmwareRevision == 0 &&
    record.mdppBaseAddress == 0 && record.mdppHardwareId == 0 && record.mdppIrqLevel == 0 &&
    record.mdppOutputFormat == 0 && record.stackTriggerRegister == 0 &&
    record.stackTriggerValue == 0 && record.stackOffsetRegister == 0 &&
    record.stackOffsetValue == 0 && record.ownershipTokenRegister == 0 &&
    record.ownershipTokenValue == 0 && record.isolatedModuleBaseAddresses.isEmpty &&
    !record.sourceRestoreRequired && record.sourceQuad == 0 &&
    record.sourceOriginalConfiguration == 0 && !record.sourceAppliedConfigurationAvailable &&
    record.sourceAppliedConfiguration == 0 && !record.previewRestoreRequired &&
    record.previewQuad == 0 && record.previewRegisterOffset == 0 &&
    record.previewOriginalValue == 0 && record.previewAppliedValue == 0

/-- The evidence of a valid record, or the message that refuses it. -/
def validateV5Record (record : TunerRecoveryRecord) : Except Text TunerRecoveryV5Data :=
  match record.version5 with
  | none => .error "The v5 recovery journal lacks its v5 evidence model."
  | some data =>
    if record.formatVersion ≠ tunerRecoveryJournalV5FormatVersion then
      .error "The v5 recovery journal lacks its v5 evidence model."
    else if !legacyEvidenceIsAbsent record then
      .error "A v5 recovery journal cannot mix legacy scalar evidence with v5 sections."
    else
      match validateV5Data data with
      | some message => .error message
      | none => .ok data

/-! ### Checksums

Every section is hashed by itself, field by field in a fixed order, starting from its name. The last
checksum is over these. -/

/-- Every checksum starts from the name of its section. -/
def sectionBasis (name : Text) : UInt64 := hashText fnvOffsetBasis name

def sessionChecksum (data : TunerRecoveryV5Data) : UInt64 :=
  hashValues (sectionBasis "SESSION")
    [sessionPhaseCode data.sessionPhase, (flag data.selectorParkingRequired).toUInt32]

/-- The SSH fields are part of it only where they are written. -/
def endpointChecksum (endpoint : ControllerEndpointRequest) : UInt64 :=
  let hash := sectionBasis "ENDPOINT"
  match endpoint.kind with
  | .directEthernet =>
    hashValue (hashText (hashValue hash 1) endpoint.mvlcHost) endpoint.mvlcCommandPort.toUInt32
  | .sshBridge =>
    let hash := hashValue (hashText (hashValue hash 2) endpoint.mvlcHost)
      endpoint.mvlcCommandPort.toUInt32
    hashText (hashText hash endpoint.sshDestination) endpoint.remoteBridgeCommand

def identityChecksum (identity : TunerRecoveryV5IdentityEvidence) : UInt64 :=
  hashValues (sectionBasis "IDENTITY")
    [identity.mvlcHardwareId, identity.mvlcFirmwareRevision, identity.targetBaseAddress,
      identity.targetHardwareId.toUInt32, identity.targetFirmwareRevision.toUInt32]

/-- Whether there is ownership is hashed too. -/
def ownershipChecksum (ownership : Option TunerRecoveryV5OwnershipEvidence) : UInt64 :=
  let hash := hashValue (sectionBasis "OWNERSHIP") (flag ownership.isSome).toUInt32
  match ownership with
  | none => hash
  | some ownership =>
    hashValues hash ([ownership.stackTriggerRegister.toUInt32, ownership.stackTriggerValue,
      ownership.stackOffsetRegister.toUInt32, ownership.stackOffsetValue,
      ownership.ownershipTokenRegister.toUInt32, ownership.ownershipTokenValue,
      ownership.isolatedModuleBaseAddresses.length.toUInt32]
        ++ ownership.isolatedModuleBaseAddresses)

/-- The values of a quad in the order in which they are hashed and written. -/
def quadValues (quad : Fw2051ScpQuadConfiguration) : List UInt16 :=
  [quad.quad, quad.timingFilter] ++ quad.poleZero.toList ++ [quad.gain] ++ quad.thresholds.toList
    ++ [quad.shapingTime, quad.baselineRestorer, quad.resetTime, quad.signalRiseTime,
      quad.preSamples, quad.totalSamples, quad.sampleConfiguration]

def hashQuad (hash : UInt64) (quad : Fw2051ScpQuadConfiguration) : UInt64 :=
  hashValues hash ((quadValues quad).map (·.toUInt32))

def snapshotChecksum (snapshot : Option Fw2051ScpConfigurationSnapshot) : UInt64 :=
  let hash := hashValue (sectionBasis "RESTORE_SNAPSHOT") (flag snapshot.isSome).toUInt32
  match snapshot with
  | none => hash
  | some snapshot =>
    snapshot.quads.foldl hashQuad (hashValues hash
      [snapshot.baseAddress, snapshot.hardwareId.toUInt32, snapshot.firmwareRevision.toUInt32,
        snapshot.irqLevel.toUInt32, snapshot.outputFormat.toUInt32,
        snapshot.quads.length.toUInt32])

def deviationScopeCode : TunerRecoveryDeviationScope → UInt16
  | .global => 1
  | .quad => 2

def hashDeviation (hash : UInt64) (deviation : TunerRecoveryV5Deviation) : UInt64 :=
  hashValues hash [deviation.ordinal, (deviationScopeCode deviation.scope).toUInt32,
    (flag deviation.quad.isSome).toUInt32, (deviation.quad.getD 0).toUInt32,
    deviation.registerOffset.toUInt32, deviation.originalSessionValue.toUInt32,
    deviation.previousVerifiedWorkingValue.toUInt32, deviation.requestedNextValue.toUInt32,
    sessionPhaseCode deviation.transitionPhase]

def deviationsChecksum (deviations : List TunerRecoveryV5Deviation) : UInt64 :=
  deviations.foldl hashDeviation
    (hashValue (sectionBasis "DEVIATIONS") deviations.length.toUInt32)

/-- The checksum over the checksums of the sections. -/
def recordChecksum (data : TunerRecoveryV5Data) : UInt64 :=
  let hash := hashValue (sectionBasis "MWW_TUNER_RECOVERY_V5") tunerRecoveryJournalV5FormatVersion
  [sessionChecksum data, endpointChecksum data.endpoint, identityChecksum data.identity,
    ownershipChecksum data.ownership, snapshotChecksum data.liveRestoreSnapshot,
    deviationsChecksum data.deviations].foldl hashWideValue hash

/-! ### The writer

One list of lines for each section; a word never contains a blank. -/

def sessionLines (data : TunerRecoveryV5Data) : List (List Text) :=
  [["SESSION", sessionPhaseToken data.sessionPhase, decimal (flag data.selectorParkingRequired),
    decimal (sessionChecksum data).toNat]]

def endpointLines (endpoint : ControllerEndpointRequest) : List (List Text) :=
  match endpoint.kind with
  | .directEthernet =>
    [["ENDPOINT", "DIRECT", endpoint.mvlcHost, decimal endpoint.mvlcCommandPort.toNat,
      decimal (endpointChecksum endpoint).toNat]]
  | .sshBridge =>
    [["ENDPOINT", "SSH_BRIDGE", endpoint.mvlcHost, decimal endpoint.mvlcCommandPort.toNat,
      endpoint.sshDestination, endpoint.remoteBridgeCommand,
      decimal (endpointChecksum endpoint).toNat]]

def identityLines (identity : TunerRecoveryV5IdentityEvidence) : List (List Text) :=
  [["IDENTITY", decimal identity.mvlcHardwareId.toNat,
    decimal identity.mvlcFirmwareRevision.toNat, decimal identity.targetBaseAddress.toNat,
    decimal identity.targetHardwareId.toNat, decimal identity.targetFirmwareRevision.toNat,
    decimal (identityChecksum identity).toNat]]

/-- The number of isolated modules stands before their addresses. -/
def ownershipWords (ownership : TunerRecoveryV5OwnershipEvidence) : List Text :=
  [decimal ownership.stackTriggerRegister.toNat, decimal ownership.stackTriggerValue.toNat,
    decimal ownership.stackOffsetRegister.toNat, decimal ownership.stackOffsetValue.toNat,
    decimal ownership.ownershipTokenRegister.toNat, decimal ownership.ownershipTokenValue.toNat,
    decimal ownership.isolatedModuleBaseAddresses.length]
  ++ ownership.isolatedModuleBaseAddresses.map fun address => decimal address.toNat

/-- Without ownership, the flag and the checksum are all that is written. -/
def ownershipLines (ownership : Option TunerRecoveryV5OwnershipEvidence) : List (List Text) :=
  [[ascii "OWNERSHIP", decimal (flag ownership.isSome)] ++ ownership.elim [] ownershipWords,
    ["OWNERSHIP_CHECKSUM", decimal (ownershipChecksum ownership).toNat]]

def quadWords (quad : Fw2051ScpQuadConfiguration) : List Text :=
  "QUAD" :: (quadValues quad).map fun value => decimal value.toNat

/-- The module-wide values, then one line for each quad. -/
def snapshotBodyLines (snapshot : Fw2051ScpConfigurationSnapshot) : List (List Text) :=
  ["GLOBALS", decimal snapshot.baseAddress.toNat, decimal snapshot.hardwareId.toNat,
    decimal snapshot.firmwareRevision.toNat, decimal snapshot.irqLevel.toNat,
    decimal snapshot.outputFormat.toNat] :: snapshot.quads.map quadWords

def snapshotLines (snapshot : Option Fw2051ScpConfigurationSnapshot) : List (List Text) :=
  [[ascii "RESTORE_SNAPSHOT", decimal (flag snapshot.isSome)]] ++ snapshot.elim [] snapshotBodyLines
    ++ [[ascii "SNAPSHOT_CHECKSUM", decimal (snapshotChecksum snapshot).toNat]]

/-- A deviation of a quad has one word more than a global one. -/
def deviationWords (deviation : TunerRecoveryV5Deviation) : List Text :=
  [ascii "DEVIATION", decimal deviation.ordinal.toNat]
    ++ (match deviation.scope with
      | .global => [ascii "GLOBAL"]
      | .quad => [ascii "QUAD", decimal (deviation.quad.getD 0).toNat])
    ++ [decimal deviation.registerOffset.toNat, decimal deviation.originalSessionValue.toNat,
      decimal deviation.previousVerifiedWorkingValue.toNat,
      decimal deviation.requestedNextValue.toNat, sessionPhaseToken deviation.transitionPhase]

def deviationsLines (deviations : List TunerRecoveryV5Deviation) : List (List Text) :=
  [[ascii "DEVIATIONS", decimal deviations.length]] ++ deviations.map deviationWords
    ++ [[ascii "DEVIATIONS_CHECKSUM", decimal (deviationsChecksum deviations).toNat]]

def v5Lines (data : TunerRecoveryV5Data) : List (List Text) :=
  [[journalMagic, decimal tunerRecoveryJournalV5FormatVersion.toNat]]
    ++ sessionLines data ++ endpointLines data.endpoint ++ identityLines data.identity
    ++ ownershipLines data.ownership ++ snapshotLines data.liveRestoreSnapshot
    ++ deviationsLines data.deviations
    ++ [[ascii "RECORD_CHECKSUM", decimal (recordChecksum data).toNat], [ascii "END"]]

/-- The whole text, line by line. -/
def writeV5 (data : TunerRecoveryV5Data) : Text := (v5Lines data).flatMap line

/-! ### The reader

It mirrors the writer, section by section, and stops at the first word that is not as expected. A
count is checked before so many values are read. -/

/-- What the errors of this format call the journal. -/
def label : Text := ascii "v5 "

/-- A section whose checksum is not that of its content is refused. -/
def checkSectionChecksum (stored expected : UInt64) (name : Text) : Reader Unit :=
  require (stored == expected) ("V5 recovery-journal " ++ name ++ ascii " checksum mismatch.")

def readSession : Reader TunerRecoveryV5Data := do
  let (phase, selectorParkingRequired, checksum) ←
    orMessage "Malformed session section in the v5 recovery journal." do
      expectToken label "SESSION"
      let phase ← readToken
      let selectorParkingRequired ← readUInt16 label "selector parking state"
      require (selectorParkingRequired ≤ 1) []
      let checksum ← readUInt64 label "session checksum"
      return (phase, selectorParkingRequired, checksum)
  match parseSessionPhase phase with
  | none => fun _ => .error "Unknown session phase in the v5 recovery journal."
  | some sessionPhase =>
    let data : TunerRecoveryV5Data :=
      { sessionPhase, selectorParkingRequired := selectorParkingRequired == 1 }
    checkSectionChecksum checksum (sessionChecksum data) "session"
    return data

/-- What follows host and port depends on the kind. -/
def readEndpointShape (kind host : Text) (port : UInt16) : Reader ControllerEndpointRequest :=
  if kind = ascii "DIRECT" then
    pure ⟨.directEthernet, host, port, [], []⟩
  else if kind = ascii "SSH_BRIDGE" then
    orMessage "Incomplete SSH endpoint in the v5 recovery journal." do
      let destination ← readToken
      let command ← readToken
      return ⟨.sshBridge, host, port, destination, command⟩
  else fun _ => .error "Unknown endpoint kind in the v5 recovery journal."

def readEndpoint : Reader ControllerEndpointRequest := do
  let (kind, host, port) ← orMessage "Malformed endpoint section in the v5 recovery journal." do
    expectToken label "ENDPOINT"
    let kind ← readToken
    let host ← readToken
    let port ← readUInt16 label "endpoint port"
    return (kind, host, port)
  let endpoint ← readEndpointShape kind host port
  let checksum ← readUInt64 label "endpoint checksum"
  checkSectionChecksum checksum (endpointChecksum endpoint) "endpoint"
  return endpoint

def readIdentity : Reader TunerRecoveryV5IdentityEvidence := do
  expectToken label "IDENTITY"
  let mvlcHardwareId ← readUInt32 label "MVLC hardware ID"
  let mvlcFirmwareRevision ← readUInt32 label "MVLC firmware"
  let targetBaseAddress ← readUInt32 label "target base"
  let targetHardwareId ← readUInt16 label "target hardware ID"
  let targetFirmwareRevision ← readUInt16 label "target firmware"
  let checksum ← readUInt64 label "identity checksum"
  let identity : TunerRecoveryV5IdentityEvidence :=
    { mvlcHardwareId, mvlcFirmwareRevision, targetBaseAddress, targetHardwareId,
      targetFirmwareRevision }
  checkSectionChecksum checksum (identityChecksum identity) "identity"
  return identity

/-- A presence flag after its keyword. -/
def readPresence (keyword field message : Text) : Reader Bool :=
  orMessage message do
    expectToken label keyword
    let present ← readUInt16 label field
    require (present ≤ 1) []
    return present == 1

/-- An optional section body after its presence flag. -/
def readIfPresent {α : Type} (present : Bool) (read : Reader α) : Reader (Option α) :=
  if present then some <$> read else pure none

/-- The count is checked before that many addresses are read. -/
def readOwnershipBody : Reader TunerRecoveryV5OwnershipEvidence := do
  let stackTriggerRegister ← readUInt16 label "stack trigger register"
  let stackTriggerValue ← readUInt32 label "stack trigger value"
  let stackOffsetRegister ← readUInt16 label "stack offset register"
  let stackOffsetValue ← readUInt32 label "stack offset value"
  let ownershipTokenRegister ← readUInt16 label "ownership token register"
  let ownershipTokenValue ← readUInt32 label "ownership token value"
  let isolatedCount ← readUInt16 label "isolated module count"
  require (isolatedCount.toNat ≤ maximumIsolatedModuleCount)
    "Too many isolated modules in the v5 recovery journal."
  let isolatedModuleBaseAddresses ←
    readMany (fun _ => readUInt32 label "isolated module address") isolatedCount.toNat 0
  return { stackTriggerRegister, stackTriggerValue, stackOffsetRegister, stackOffsetValue,
           ownershipTokenRegister, ownershipTokenValue, isolatedModuleBaseAddresses }

def readOwnership : Reader (Option TunerRecoveryV5OwnershipEvidence) := do
  let present ← readPresence "OWNERSHIP" "ownership presence"
    "Invalid ownership presence in the v5 recovery journal."
  let ownership ← readIfPresent present readOwnershipBody
  expectToken label "OWNERSHIP_CHECKSUM"
  let checksum ← readUInt64 label "ownership checksum"
  checkSectionChecksum checksum (ownershipChecksum ownership) "ownership"
  return ownership

/-- The quads are read in the order in which they are numbered. -/
def readQuad : Reader Fw2051ScpQuadConfiguration := do
  expectToken label "QUAD"
  let quad ← readUInt16 label "quad"
  let timingFilter ← readUInt16 label "timing filter"
  let poleZero ← readMany (fun _ => readUInt16 label "pole-zero") 4 0
  let gain ← readUInt16 label "gain"
  let thresholds ← readMany (fun _ => readUInt16 label "threshold") 4 0
  let shapingTime ← readUInt16 label "shaping time"
  let baselineRestorer ← readUInt16 label "baseline restorer"
  let resetTime ← readUInt16 label "reset time"
  let signalRiseTime ← readUInt16 label "signal rise time"
  let preSamples ← readUInt16 label "pre-samples"
  let totalSamples ← readUInt16 label "total samples"
  let sampleConfiguration ← readUInt16 label "sample configuration"
  return { quad, timingFilter, poleZero := Vector.ofFn fun i => poleZero.getD i 0, gain,
           thresholds := Vector.ofFn fun i => thresholds.getD i 0, shapingTime, baselineRestorer,
           resetTime, signalRiseTime, preSamples, totalSamples, sampleConfiguration }

/-- What is read comes without a selector log: none is written. -/
def readSnapshotBody : Reader Fw2051ScpConfigurationSnapshot := do
  expectToken label "GLOBALS"
  let baseAddress ← readUInt32 label "target base"
  let hardwareId ← readUInt16 label "target hardware"
  let firmwareRevision ← readUInt16 label "target firmware"
  let irqLevel ← readUInt16 label "IRQ level"
  let outputFormat ← readUInt16 label "output format"
  let quads ← readMany (fun _ => readQuad) fw2051ScpQuadCount 0
  return { state := .complete, message := "Parsed from v5 recovery journal.",
           selectorParkedAtQuadZero := true, baseAddress, hardwareId, firmwareRevision, irqLevel,
           outputFormat, quads }

def readSnapshot : Reader (Option Fw2051ScpConfigurationSnapshot) := do
  let present ← readPresence "RESTORE_SNAPSHOT" "snapshot presence"
    "Invalid snapshot presence in the v5 recovery journal."
  let snapshot ← readIfPresent present readSnapshotBody
  expectToken label "SNAPSHOT_CHECKSUM"
  let checksum ← readUInt64 label "snapshot checksum"
  checkSectionChecksum checksum (snapshotChecksum snapshot) "snapshot"
  return snapshot

/-- The scope word says whether a quad follows. -/
def readDeviationScope (scope : Text) : Reader (TunerRecoveryDeviationScope × Option UInt16) :=
  if scope = ascii "GLOBAL" then pure (.global, none)
  else if scope = ascii "QUAD" then do
    let quad ← readUInt16 label "deviation quad"
    return (.quad, some quad)
  else fun _ => .error "Unknown deviation scope in the v5 recovery journal."

/-- What follows the location of a deviation. -/
def readDeviationValues (ordinal : UInt32) (scope : TunerRecoveryDeviationScope)
    (quad : Option UInt16) : Reader TunerRecoveryV5Deviation := do
  let (registerOffset, originalSessionValue, previousVerifiedWorkingValue, requestedNextValue,
      phase) ← orMessage "Incomplete deviation in the v5 recovery journal." do
    let registerOffset ← readUInt16 label "deviation register"
    let originalSessionValue ← readUInt16 label "deviation original value"
    let previousVerifiedWorkingValue ← readUInt16 label "deviation previous value"
    let requestedNextValue ← readUInt16 label "deviation requested value"
    let phase ← readToken
    return (registerOffset, originalSessionValue, previousVerifiedWorkingValue,
      requestedNextValue, phase)
  match parseSessionPhase phase with
  | none => fun _ => .error "Unknown deviation phase in the v5 recovery journal."
  | some transitionPhase =>
    return { ordinal, scope, quad, registerOffset, originalSessionValue,
             previousVerifiedWorkingValue, requestedNextValue, transitionPhase }

def readDeviation : Reader TunerRecoveryV5Deviation := do
  let (ordinal, scope) ← orMessage "Malformed deviation in the v5 recovery journal." do
    expectToken label "DEVIATION"
    let ordinal ← readUInt32 label "deviation ordinal"
    let scope ← readToken
    return (ordinal, scope)
  let (scope, quad) ← readDeviationScope scope
  readDeviationValues ordinal scope quad

/-- The deviations are numbered from zero. -/
def readDeviations : Reader (List TunerRecoveryV5Deviation) := do
  expectToken label "DEVIATIONS"
  let deviationCount ← readUInt32 label "deviation count"
  require (deviationCount.toNat ≤ tunerRecoveryV5MaximumDeviationCount)
    "Too many deviations in the v5 recovery journal."
  let deviations ← readMany (fun index => do
      let deviation ← readDeviation
      require (deviation.ordinal.toNat == index) "The v5 recovery deviations are out of order."
      return deviation)
    deviationCount.toNat 0
  expectToken label "DEVIATIONS_CHECKSUM"
  let checksum ← readUInt64 label "deviations checksum"
  checkSectionChecksum checksum (deviationsChecksum deviations) "deviations"
  return deviations

def readV5 : Reader TunerRecoveryV5Data := do
  orMessage "Invalid v5 tuner recovery-journal header." do
    let magic ← readToken
    require (magic == journalMagic) []
    let version ← readUInt32 label "format version"
    require (version == tunerRecoveryJournalV5FormatVersion) []
  let session ← readSession
  let endpoint ← readEndpoint
  let identity ← readIdentity
  let ownership ← readOwnership
  let liveRestoreSnapshot ← readSnapshot
  let deviations ← readDeviations
  let data := { session with endpoint, identity, ownership, liveRestoreSnapshot, deviations }
  expectToken label "RECORD_CHECKSUM"
  let checksum ← readUInt64 label "record checksum"
  checkSectionChecksum checksum (recordChecksum data) "record"
  expectToken label "END"
  return data

end RecoveryJournalV5

open RecoveryJournalV5

/-- Only a valid record is written. -/
def serializeTunerRecoveryJournalV5 (record : TunerRecoveryRecord) :
    TunerRecoverySerializationResult :=
  match validateV5Record record with
  | .error message => { message }
  | .ok data =>
    { success := true, message := "Serialized v5 tuner recovery journal.", text := writeV5 data }

/-- What is read is validated again before it is handed out. -/
def parseTunerRecoveryJournalV5 (text : Text) : TunerRecoveryParseResult :=
  match readV5 (tokens text) with
  | .error message => { message }
  | .ok (_, _ :: _) => { message := "Unexpected trailing data in v5 recovery journal." }
  | .ok (data, []) =>
    let record : TunerRecoveryRecord :=
      { formatVersion := tunerRecoveryJournalV5FormatVersion, version5 := some data }
    match validateV5Record record with
    | .error message => { message }
    | .ok _ =>
      { success := true, message := "Parsed v5 tuner recovery journal.", record := some record }

end Fidget
