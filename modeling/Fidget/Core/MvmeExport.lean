import Fidget.Core.GeneratedScript
import Fidget.Core.RecoveryJournalV5
import Fidget.Core.ScpProfile

/-!
# Exporting a profile as a settings block

`core/MvmeExport.cpp`: a block of short writes that sets all 141 values of a profile, quad by quad
and in registry order within a quad.

Every value is a line of its own, and the selector is set in front of every quad. The time in the
heading is given.

## Main results

- `validateExportValues`: what refuses a profile.
- `quadLines`: the writes to one quad.
- `generateFw2051MvmeScript`: the block of a profile.
-/

namespace Fidget

open MvmeInitScript NumberText ScriptLine

/-- The block, and the checksum of the values in it. -/
structure MvmeExportResult where
  success : Bool := false
  message : String := ""
  script : GeneratedScript := []
  sourceProfileChecksum : UInt64 := 0
  valueCount : Nat := 0
  deriving DecidableEq, Repr

/-- The FNV-1a hash over the values of a profile. -/
def computeFw2051ScpProfileChecksum (configuration : Fw2051ScpConfigurationSnapshot) : UInt64 :=
  configuration.quads.foldl RecoveryJournalV5.hashQuad
    (RecoveryJournal.hashValues RecoveryJournal.fnvOffsetBasis [fw2051ScpProfileFormatVersion, configuration.baseAddress,
      configuration.hardwareId.toUInt32, configuration.firmwareRevision.toUInt32,
      configuration.irqLevel.toUInt32, configuration.outputFormat.toUInt32])

namespace MvmeExport

/-- Why one register of a quad cannot be exported, if it cannot. -/
def exportRegisterObstacle (quad : Fw2051ScpQuadConfiguration)
    (definition : Fw2051ScpSettingDefinition) : Option String :=
  match fw2051ScpQuadRegisterValue quad definition.registerOffset with
  | none => some "The FW2051 registry does not map every profile value."
  | some value =>
    let valueError := validateFw2051ScpProfileValue definition.registerOffset value
    if valueError ≠ "" then some ("Quad " ++ toString quad.quad ++ ": " ++ valueError)
    else if definition.dependencyRule = .none then none
    else
      let unsatisfied : String := "Quad " ++ toString quad.quad ++ " " ++ definition.name
        ++ " does not satisfy its " ++ definition.dependencyName ++ " dependency."
      match fw2051ScpQuadRegisterValue quad definition.dependencyRegister with
      | none => some unsatisfied
      | some dependency =>
        if fw2051ScpDependencySatisfied definition value dependency then none
        else some unsatisfied

/-- The message that refuses the values, empty when they are accepted. -/
def validateExportValues (configuration : Fw2051ScpConfigurationSnapshot) : String :=
  (configuration.quads.findSome? fun quad =>
    fw2051ScpSettingRegistry.findSome? (exportRegisterObstacle quad)).getD ""

/-- The writes to one quad, or `none` if the registry names a register the quad does not have. -/
def quadLines (quad : Fw2051ScpQuadConfiguration) : Option GeneratedScript := do
  let values ← fw2051ScpSettingRegistry.mapM fun definition => do
    let value ← fw2051ScpQuadRegisterValue quad definition.registerOffset
    return shortWrite definition.registerOffset value (" # ".toList ++ definition.name.toList)
  return [comment ("# Quad ".toList ++ decimal quad.quad.toNat),
    shortWrite fw2051ScpSelectorRegister quad.quad []] ++ values ++ [blank]

/-- What the block was made from, as comments. -/
def headerLines (configuration : Fw2051ScpConfigurationSnapshot) (checksum : UInt64)
    (valueCount : Nat) (generatedTimestamp : String) : GeneratedScript := [
  comment "# ===== BEGIN FIDGET MVME EXPORT =====".toList,
  comment "# FIDGET export".toList,
  comment ("# source_profile_checksum: ".toList ++ decimal checksum.toNat),
  comment ("# module_hardware_id: ".toList ++ ScriptLine.hexadecimal16 configuration.hardwareId),
  comment ("# module_firmware: ".toList ++ ScriptLine.hexadecimal16 configuration.firmwareRevision),
  comment ("# vme_base: ".toList ++ ScriptLine.hexadecimal32 configuration.baseAddress),
  comment ("# generated_utc: ".toList ++ generatedTimestamp.toList),
  comment ("# value_count: ".toList ++ decimal valueCount),
  comment "#".toList,
  comment "# Global profile values (5)".toList,
  comment ("# global 1/5 VME base: ".toList ++ ScriptLine.hexadecimal32 configuration.baseAddress
    ++ " (module address, not a register write)".toList),
  comment ("# global 2/5 Hardware ID: ".toList ++ ScriptLine.hexadecimal16 configuration.hardwareId
    ++ " (identity check, not a register write)".toList),
  comment ("# global 3/5 Firmware revision: ".toList
    ++ ScriptLine.hexadecimal16 configuration.firmwareRevision
    ++ " (identity check, not a register write)".toList),
  comment "# global 4/5 IRQ level".toList,
  shortWrite 0x6010 configuration.irqLevel [],
  comment "# global 5/5 Output format".toList,
  shortWrite 0x6044 configuration.outputFormat [],
  blank]

/-- The selector is parked. -/
def footerLines : GeneratedScript := [
  comment "# Park the FW2051 bank selector at quad 0".toList,
  shortWrite fw2051ScpSelectorRegister 0 [],
  comment "# ===== END FIDGET MVME EXPORT =====".toList]

end MvmeExport

open MvmeExport

/-- A profile that is accepted has a block. -/
def generateFw2051MvmeScript (profile : ScpProfile) (generatedTimestamp : String) :
    MvmeExportResult :=
  let configuration := profile.configuration
  let validation := validateFw2051ScpConfiguration configuration
  let valueValidation := validateExportValues configuration
  if profile.formatVersion ≠ fw2051ScpProfileFormatVersion then
    { message := "The SCP profile version is unsupported for MVME export." }
  else if validation ≠ "" then
    { message := "The SCP profile cannot be exported: " ++ validation }
  else if valueValidation ≠ "" then
    { message := "The SCP profile cannot be exported: " ++ valueValidation }
  else if generatedTimestamp = "" ∨
      generatedTimestamp.toList.any (fun c => c = '\r' || c = '\n') then
    { message := "The MVME export timestamp must be one nonempty line." }
  else
    let checksum := computeFw2051ScpProfileChecksum configuration
    match configuration.quads.mapM quadLines with
    | none => { message := "The FW2051 registry changed during MVME export." }
    | some quads =>
      { success := true
        message := "Generated an MVME settings block for all 141 profile values."
        script := headerLines configuration checksum fw2051ScpConfigurationValueCount
            generatedTimestamp
          ++ quads.flatten ++ footerLines
        sourceProfileChecksum := checksum
        valueCount := fw2051ScpConfigurationValueCount }

end Fidget
