import Fidget.Core.ScpRegistry
import Fidget.Lib.Lists

/-!
# Profiles: validation and comparison

`core/ScpProfile.cpp`, the part that judges a configuration and compares two of them. A comparison
walks all 141 values in one fixed order, five module-wide ones and then the banked ones quad by
quad in registry order, counts each and keeps those that differ.

## Main results

- `validateFw2051ScpConfiguration`, `validScpConfiguration_of_validate`: what a configuration must
  be.
- `compareFw2051ScpConfiguration`, `compared_of_comparable`: the 141 values and the differences
  among them.
-/

namespace Fidget

def fw2051ScpProfileFormatVersion : UInt32 := 1

/-- A configuration that was saved. -/
structure ScpProfile where
  formatVersion : UInt32 := fw2051ScpProfileFormatVersion
  configuration : Fw2051ScpConfigurationSnapshot := {}
  deriving DecidableEq, Repr

/-- One compared value; the module-wide ones have no quad. -/
structure ScpConfigurationDifference where
  quad : Int := -1
  hasRegister : Bool := true
  registerOffset : UInt32 := 0
  setting : String := ""
  profileValue : UInt32 := 0
  liveValue : UInt32 := 0
  displayHexadecimal : Bool := false
  deriving DecidableEq, Repr

structure ScpConfigurationComparison where
  comparable : Bool := false
  message : String := ""
  valuesCompared : Nat := 0
  differences : List ScpConfigurationDifference := []
  deriving DecidableEq, Repr

/-- The message that refuses a snapshot, empty when it is accepted. -/
def validateFw2051ScpConfiguration (configuration : Fw2051ScpConfigurationSnapshot) : String :=
  if configuration.state ≠ .complete then
    "The SCP snapshot is not complete."
  else if !configuration.selectorParkedAtQuadZero then
    "The SCP selector was not verified at quad 0."
  else if configuration.baseAddress = 0 then
    "The SCP snapshot has no VME base address."
  else if configuration.hardwareId ≠ mdpp32HardwareId ∧
      configuration.hardwareId ≠ mdpp32AlternateHardwareId then
    "The snapshot does not identify as an MDPP-32 module."
  else if (configuration.firmwareRevision >>> 12) &&& 0x0F ≠ 2 then
    "The snapshot does not report SCP firmware."
  else if configuration.firmwareRevision ≠ mdpp32ScpFirmwareRevisionFw2051 then
    "The snapshot does not report supported SCP FW2051 firmware."
  else if configuration.quads.length ≠ fw2051ScpQuadCount then
    "The SCP snapshot must contain exactly eight quads."
  else if configuration.quads.zipIdx.any fun (quad, index) => quad.quad.toNat != index then
    "The SCP snapshot quads are missing, duplicated, or out of order."
  else
    ""

/-- One compared value enters the count; it enters the list only when the two sides differ. -/
def addDifference (comparison : ScpConfigurationComparison)
    (difference : ScpConfigurationDifference) : ScpConfigurationComparison :=
  let comparison := { comparison with valuesCompared := comparison.valuesCompared + 1 }
  if difference.profileValue = difference.liveValue then comparison
  else { comparison with differences := comparison.differences ++ [difference] }

/-- The five module-wide values, in the order they are compared. -/
def comparedGlobalValues (expected live : Fw2051ScpConfigurationSnapshot) :
    List ScpConfigurationDifference := [
  { quad := -1, hasRegister := false, registerOffset := 0, setting := "VME base",
    profileValue := expected.baseAddress, liveValue := live.baseAddress,
    displayHexadecimal := true },
  { quad := -1, registerOffset := 0x6008, setting := "Hardware ID",
    profileValue := expected.hardwareId.toUInt32, liveValue := live.hardwareId.toUInt32,
    displayHexadecimal := true },
  { quad := -1, registerOffset := 0x600E, setting := "Firmware revision",
    profileValue := expected.firmwareRevision.toUInt32,
    liveValue := live.firmwareRevision.toUInt32, displayHexadecimal := true },
  { quad := -1, registerOffset := 0x6010, setting := "IRQ level",
    profileValue := expected.irqLevel.toUInt32, liveValue := live.irqLevel.toUInt32 },
  { quad := -1, registerOffset := 0x6044, setting := "Output format",
    profileValue := expected.outputFormat.toUInt32, liveValue := live.outputFormat.toUInt32,
    displayHexadecimal := true }]

/-- The comparison of one banked register of the quad at `index`. -/
def comparedBankedValue (index : Nat) (definition : Fw2051ScpSettingDefinition)
    (profileValue liveValue : UInt16) : ScpConfigurationDifference :=
  { quad := index, registerOffset := definition.registerOffset.toUInt32,
    setting := definition.name, profileValue := profileValue.toUInt32,
    liveValue := liveValue.toUInt32,
    displayHexadecimal := definition.registerOffset == 0x614A }

/-- The banked values of one quad in registry order, `none` if the registry names a register the
quad does not have. -/
def comparedQuadValues (index : Nat) (profileQuad liveQuad : Fw2051ScpQuadConfiguration) :
    Option (List ScpConfigurationDifference) :=
  fw2051ScpSettingRegistry.mapM fun definition => do
    let profileValue ← fw2051ScpQuadRegisterValue profileQuad definition.registerOffset
    let liveValue ← fw2051ScpQuadRegisterValue liveQuad definition.registerOffset
    return comparedBankedValue index definition profileValue liveValue

/-- All banked values, quad by quad, differing or not. -/
def comparedBankedValues (expected live : Fw2051ScpConfigurationSnapshot) :
    Option (List ScpConfigurationDifference) := do
  let quads ← (expected.quads.zip live.quads).zipIdx.mapM fun ((profileQuad, liveQuad), index) =>
    comparedQuadValues index profileQuad liveQuad
  return quads.flatten

/-- Only valid configurations are compared. -/
def compareFw2051ScpConfiguration (profile : ScpProfile)
    (liveConfiguration : Fw2051ScpConfigurationSnapshot) : ScpConfigurationComparison :=
  let profileError := validateFw2051ScpConfiguration profile.configuration
  let liveError := validateFw2051ScpConfiguration liveConfiguration
  if profile.formatVersion ≠ fw2051ScpProfileFormatVersion then
    { message := "The loaded SCP profile version is unsupported." }
  else if profileError ≠ "" then
    { message := "The loaded profile is invalid: " ++ profileError }
  else if liveError ≠ "" then
    { message := "The live snapshot is not comparable: " ++ liveError }
  else
    match comparedBankedValues profile.configuration liveConfiguration with
    | none => { message := "The FW2051 registry does not map every profile value." }
    | some banked =>
      let comparison := (comparedGlobalValues profile.configuration liveConfiguration
        ++ banked).foldl addDifference { comparable := true }
      { comparison with
        message :=
          if comparison.differences = [] then
            "Live hardware matches all " ++ toString comparison.valuesCompared
              ++ " values in the loaded SCP profile."
          else
            toString comparison.differences.length ++ " of "
              ++ toString comparison.valuesCompared
              ++ " captured SCP values differ from the loaded profile." }

/-! ### What validation guarantees

An accepted snapshot has all quads, each numbered by its place. -/

/-- Eight quads, each numbered by its place. -/
structure NumberedQuads (quads : List Fw2051ScpQuadConfiguration) : Prop where
  length_eq : quads.length = 8
  quad_eq : ∀ (index : Nat) (h : index < quads.length), quads[index].quad.toNat = index

/-- A quad is numbered by its place in the list. -/
theorem NumberedQuads.quad_eq_of_getElem? {quads : List Fw2051ScpQuadConfiguration}
    (h : NumberedQuads quads) {index : Nat} {quad : Fw2051ScpQuadConfiguration}
    (hq : quads[index]? = some quad) : quad.quad.toNat = index := by
  obtain ⟨hi, rfl⟩ := List.getElem?_eq_some_iff.mp hq
  exact h.quad_eq index hi

/-- What an accepted snapshot looks like. -/
structure ValidScpConfiguration (configuration : Fw2051ScpConfigurationSnapshot) : Prop where
  complete : configuration.state = .complete
  parked : configuration.selectorParkedAtQuadZero = true
  base_ne_zero : configuration.baseAddress ≠ 0
  hardware : configuration.hardwareId = mdpp32HardwareId ∨
    configuration.hardwareId = mdpp32AlternateHardwareId
  firmware : configuration.firmwareRevision = mdpp32ScpFirmwareRevisionFw2051
  numbered : NumberedQuads configuration.quads

/-- What an accepted configuration guarantees. -/
theorem validScpConfiguration_of_validate {configuration : Fw2051ScpConfigurationSnapshot}
    (h : validateFw2051ScpConfiguration configuration = "") :
    ValidScpConfiguration configuration := by
  unfold validateFw2051ScpConfiguration at h
  -- Every check but the last returns a text, so acceptance passes through all eight.
  iterate 8 (split at h; · simp at h)
  next hstate hparked hbase hhw _ hfw hlen hnum =>
    refine ⟨not_not.mp hstate, by simpa using hparked, hbase, ?_, not_not.mp hfw,
      not_not.mp hlen, ?_⟩
    · tauto
    · intro index hi
      by_contra hne
      refine hnum (List.any_eq_true.mpr ⟨(configuration.quads[index], index), ?_, ?_⟩)
      · exact List.mem_zipIdx_iff_getElem?.mpr (List.getElem?_eq_getElem hi)
      · simpa using hne

/-! ### The comparison in closed form

The source walks over the quads and collects differences as it goes. Here the list of what it
compares is written out, and the differences are those of its entries whose two sides differ. -/

/-- The register of a quad, zero where there is none. -/
def registerOrZero (quad : Fw2051ScpQuadConfiguration) (registerOffset : UInt16) : UInt16 :=
  (fw2051ScpQuadRegisterValue quad registerOffset).getD 0

theorem quadRegisterValue_eq_some {quad : Fw2051ScpQuadConfiguration} {r : UInt16}
    (hr : r ∈ scpRegisterOffsets) :
    fw2051ScpQuadRegisterValue quad r = some (registerOrZero quad r) := by
  obtain ⟨v, hv⟩ := Option.isSome_iff_exists.mp ((@quadRegisterValue_isSome quad r).mpr hr)
  rw [registerOrZero, hv, Option.getD_some]

/-- The registry has no other registers. -/
theorem registerOffset_mem {definition : Fw2051ScpSettingDefinition}
    (h : definition ∈ fw2051ScpSettingRegistry) :
    definition.registerOffset ∈ scpRegisterOffsets := List.mem_map_of_mem h

/-- The walk over a quad does not fail. -/
theorem comparedQuadValues_eq (index : Nat) (profileQuad liveQuad : Fw2051ScpQuadConfiguration) :
    comparedQuadValues index profileQuad liveQuad = some (fw2051ScpSettingRegistry.map
      fun definition => comparedBankedValue index definition
        (registerOrZero profileQuad definition.registerOffset)
        (registerOrZero liveQuad definition.registerOffset)) := by
  refine Lists.mapM_eq_some_map fun definition hd => ?_
  rw [quadRegisterValue_eq_some (registerOffset_mem hd),
    quadRegisterValue_eq_some (registerOffset_mem hd)]
  rfl

/-- The walk over all quads does not fail. -/
theorem comparedBankedValues_eq (expected live : Fw2051ScpConfigurationSnapshot) :
    comparedBankedValues expected live = some ((expected.quads.zip live.quads).zipIdx.map
      fun x => fw2051ScpSettingRegistry.map fun definition =>
        comparedBankedValue x.2 definition (registerOrZero x.1.1 definition.registerOffset)
          (registerOrZero x.1.2 definition.registerOffset)).flatten := by
  unfold comparedBankedValues
  rw [Lists.mapM_eq_some_map (g := fun x => fw2051ScpSettingRegistry.map fun definition =>
    comparedBankedValue x.2 definition (registerOrZero x.1.1 definition.registerOffset)
      (registerOrZero x.1.2 definition.registerOffset))
    fun x _ => comparedQuadValues_eq x.2 x.1.1 x.1.2]
  rfl

/-- Every value is counted, and those that differ are kept. -/
theorem foldl_addDifference (values : List ScpConfigurationDifference)
    (comparison : ScpConfigurationComparison) :
    values.foldl addDifference comparison =
      { comparison with
        valuesCompared := comparison.valuesCompared + values.length
        differences := comparison.differences
          ++ values.filter fun value => value.profileValue ≠ value.liveValue } := by
  induction values generalizing comparison with
  | nil => simp
  | cons value values ih =>
      rw [List.foldl_cons, ih, addDifference]
      by_cases h : value.profileValue = value.liveValue
      · simp [h, Nat.add_comm, Nat.add_left_comm]
      · simp [h, Nat.add_comm, Nat.add_left_comm]

/-- The banked values that a comparison of `expected` and `live` goes through. -/
def bankedValues (expected live : Fw2051ScpConfigurationSnapshot) :
    List ScpConfigurationDifference :=
  ((expected.quads.zip live.quads).zipIdx.map fun x => fw2051ScpSettingRegistry.map
    fun definition => comparedBankedValue x.2 definition
      (registerOrZero x.1.1 definition.registerOffset)
      (registerOrZero x.1.2 definition.registerOffset)).flatten

/-- What a comparison that came about says about its two sides. -/
structure ComparedConfigurations (profile : ScpProfile)
    (live : Fw2051ScpConfigurationSnapshot) : Prop where
  version : profile.formatVersion = fw2051ScpProfileFormatVersion
  profileValid : ValidScpConfiguration profile.configuration
  liveValid : ValidScpConfiguration live
  differences_eq : (compareFw2051ScpConfiguration profile live).differences =
    (comparedGlobalValues profile.configuration live ++ bankedValues profile.configuration live).filter
      fun value => value.profileValue ≠ value.liveValue

/-- What a comparison that was made guarantees. -/
theorem compared_of_comparable {profile : ScpProfile} {live : Fw2051ScpConfigurationSnapshot}
    (h : (compareFw2051ScpConfiguration profile live).comparable = true) :
    ComparedConfigurations profile live := by
  unfold compareFw2051ScpConfiguration at h
  simp only [comparedBankedValues_eq] at h
  split at h
  · cases h
  split at h
  · cases h
  split at h
  · cases h
  next hversion hprofile hlive =>
    rw [not_not] at hversion hprofile hlive
    refine ⟨hversion, validScpConfiguration_of_validate hprofile,
      validScpConfiguration_of_validate hlive, ?_⟩
    unfold compareFw2051ScpConfiguration
    simp only [hversion, hprofile, hlive, ne_eq, not_true_eq_false, if_false,
      comparedBankedValues_eq, foldl_addDifference, bankedValues, List.nil_append]

/-- Each banked value belongs to a quad and a register. -/
theorem mem_bankedValues {expected live : Fw2051ScpConfigurationSnapshot}
    {difference : ScpConfigurationDifference} :
    difference ∈ bankedValues expected live ↔ ∃ index profileQuad liveQuad,
      expected.quads[index]? = some profileQuad ∧ live.quads[index]? = some liveQuad ∧
      ∃ definition ∈ fw2051ScpSettingRegistry, difference = comparedBankedValue index definition
        (registerOrZero profileQuad definition.registerOffset)
        (registerOrZero liveQuad definition.registerOffset) := by
  simp only [bankedValues, List.mem_flatten, List.mem_map]
  constructor
  · rintro ⟨_, ⟨⟨⟨profileQuad, liveQuad⟩, index⟩, hx, rfl⟩, hd⟩
    obtain ⟨definition, hdef, rfl⟩ := List.mem_map.mp hd
    obtain ⟨hp, hl⟩ := List.getElem?_zip_eq_some.mp (List.mem_zipIdx_iff_getElem?.mp hx)
    exact ⟨index, profileQuad, liveQuad, hp, hl, definition, hdef, rfl⟩
  · rintro ⟨index, profileQuad, liveQuad, hp, hl, definition, hdef, rfl⟩
    refine ⟨_, ⟨((profileQuad, liveQuad), index), ?_, rfl⟩, List.mem_map_of_mem hdef⟩
    exact List.mem_zipIdx_iff_getElem?.mpr (List.getElem?_zip_eq_some.mpr ⟨hp, hl⟩)

end Fidget
