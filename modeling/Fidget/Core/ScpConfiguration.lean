import Mathlib.Tactic.Common

/-!
# The captured FW2051 configuration

The data of `core/ScpConfiguration.h`: the module-wide registers, the seventeen banked values of
one channel quad, and the complete snapshot that a capture, a profile and a recovery journal all
carry. Machine integers keep the width the source gives them.

## Main results

- `fw2051ScpQuads`: the numbers of the eight quads.
- `Fw2051ScpConfigurationSnapshot`: what a capture returns.
- `isSupportedMdpp32HardwareId`, `isWriteApprovedMdpp32HardwareId`: which modules may be read, and
  which may be written to.
-/

namespace Fidget

/-! ### Identities and module-wide registers -/

/-- The two identities of the module, and the firmware that is supported. -/
def mdpp32HardwareId : UInt16 := 0x5007
def mdpp32AlternateHardwareId : UInt16 := 0x500C
def mdpp32ScpFirmwareRevisionFw2051 : UInt16 := 0x2051

/-- Hardware that may be recognised without writing to it. -/
def mdpp32ReadOnlyAcceptedHardwareIds : List UInt16 :=
  [mdpp32HardwareId, mdpp32AlternateHardwareId]

/-- Hardware that may be written to. -/
def mdpp32WriteApprovedHardwareIds : List UInt16 := [mdpp32HardwareId]

/-- The modules that can be read. -/
def isSupportedMdpp32HardwareId (hardwareId : UInt16) : Bool :=
  mdpp32ReadOnlyAcceptedHardwareIds.contains hardwareId

/-- The modules that may be written to. -/
def isWriteApprovedMdpp32HardwareId (hardwareId : UInt16) : Bool :=
  mdpp32WriteApprovedHardwareIds.contains hardwareId

/-- The module-wide registers. -/
def fw2051AcquisitionControlRegister : UInt16 := 0x603A
def fw2051FifoResetRegister : UInt16 := 0x603C
def fw2051ReadoutResetRegister : UInt16 := 0x6034
def fw2051ScpSelectorRegister : UInt16 := 0x6100
/-- What is written to them. -/
def fw2051StopAcquisitionValue : UInt16 := 0
def fw2051ResetCommandValue : UInt16 := 1
/-- Eight quads of seventeen registers; with the module-wide ones there are 141 values. -/
def fw2051ScpQuadCount : Nat := 8
def fw2051ScpBankedSettingCount : Nat := 17
def fw2051ScpConfigurationValueCount : Nat :=
  5 + fw2051ScpQuadCount * fw2051ScpBankedSettingCount

/-- The numbers of the quads, in order. -/
def fw2051ScpQuads : List UInt16 := (List.range fw2051ScpQuadCount).map Nat.toUInt16

/-! ### Snapshots -/

/-- How far a capture has come. -/
inductive ScpConfigurationState where
  | notRun
  | reading
  | complete
  | failed
  deriving DecidableEq, Repr

/-- The banked values of one four-channel quad. -/
structure Fw2051ScpQuadConfiguration where
  quad : UInt16 := 0
  timingFilter : UInt16 := 0
  poleZero : Vector UInt16 4 := Vector.replicate 4 0
  gain : UInt16 := 0
  thresholds : Vector UInt16 4 := Vector.replicate 4 0
  shapingTime : UInt16 := 0
  baselineRestorer : UInt16 := 0
  resetTime : UInt16 := 0
  signalRiseTime : UInt16 := 0
  preSamples : UInt16 := 0
  totalSamples : UInt16 := 0
  sampleConfiguration : UInt16 := 0
  deriving DecidableEq, Repr

/-- One entry of a capture's log of selector writes. -/
structure Fw2051ScpSelectorWriteRecord where
  registerOffset : UInt16 := fw2051ScpSelectorRegister
  value : UInt16 := 0
  parkingWrite : Bool := false
  success : Bool := false
  message : String := ""
  deriving DecidableEq, Repr

/-- The module-wide values and the eight quads, with the selector writes that it took to read them.
-/
structure Fw2051ScpConfigurationSnapshot where
  state : ScpConfigurationState := .notRun
  message : String := "No SCP configuration snapshot has been read"
  baseAddress : UInt32 := 0
  hardwareId : UInt16 := 0
  firmwareRevision : UInt16 := 0
  irqLevel : UInt16 := 0
  outputFormat : UInt16 := 0
  selectorParkedAtQuadZero : Bool := false
  selectorWrites : List Fw2051ScpSelectorWriteRecord := []
  quads : List Fw2051ScpQuadConfiguration := []
  deriving DecidableEq, Repr

end Fidget
