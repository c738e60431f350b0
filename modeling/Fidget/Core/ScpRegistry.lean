import Fidget.Core.ScpConfiguration

/-!
# The registry of banked SCP settings

`core/ScpRegistry.cpp`: which registers of a quad exist, which values each accepts, and how two
registers of the same quad constrain each other. The registry is the only place where the offsets,
ranges and couplings are written down; capture, comparison, planning and every hardware transaction
read it.

The second half is what the rest of the development uses instead of the register switch: reading
and writing a quad through `fw2051ScpQuadRegisterValue` and `setFw2051ScpQuadRegisterValue` obey
the usual laws of a record of independent cells.

## Main results

- `mem_scpRegisterOffsets`: the seventeen registers of a quad.
- `quadRegisterValue_isSome`, `setQuadRegisterValue_isSome`: a quad has exactly those registers.
- `quadRegisterValue_set`: what is read after a write.
-/

namespace Fidget

/-- Which values a register takes, besides its range. -/
inductive Fw2051ScpValueRule where
  | range
  | evenRange
  | sampleConfiguration
  deriving DecidableEq, Repr

/-- How a value is bound by that of another register. -/
inductive Fw2051ScpDependencyRule where
  | none
  | notAbove
  | notBelow
  | lessThan
  | greaterThan
  deriving DecidableEq, Repr

structure Fw2051ScpSettingDefinition where
  registerOffset : UInt16
  name : String
  minimumValue : UInt16
  maximumValue : UInt16
  valueRule : Fw2051ScpValueRule
  dependencyRule : Fw2051ScpDependencyRule
  dependencyRegister : UInt16
  dependencyName : String
  deriving DecidableEq, Repr

def fw2051ScpMaximumSampleCount : UInt16 := 488
def fw2051ScpMinimumShapingTime : UInt16 := 8
def fw2051ScpMaximumShapingTime : UInt16 := 1000
def fw2051ScpSampleConfigurationAllowedMask : UInt16 := 0x00C3

/-- A setting that only its own range constrains. -/
def independentSetting (registerOffset : UInt16) (name : String)
    (minimumValue maximumValue : UInt16) : Fw2051ScpSettingDefinition :=
  { registerOffset, name, minimumValue, maximumValue, valueRule := .range,
    dependencyRule := .none, dependencyRegister := 0, dependencyName := "" }

/-- One entry for each banked register, in the order of their offsets. -/
def fw2051ScpSettingRegistry : List Fw2051ScpSettingDefinition := [
  { registerOffset := 0x6110, name := "Timing filter", minimumValue := 1, maximumValue := 125,
    valueRule := .range,
    dependencyRule := .notAbove, dependencyRegister := 0x6124, dependencyName := "Shaping time" },
  independentSetting 0x6112 "Pole-zero ch 0" 64 0xFFFF,
  independentSetting 0x6114 "Pole-zero ch 1" 64 0xFFFF,
  independentSetting 0x6116 "Pole-zero ch 2" 64 0xFFFF,
  independentSetting 0x6118 "Pole-zero ch 3" 64 0xFFFF,
  independentSetting 0x611A "Gain" 100 20000,
  independentSetting 0x611C "Threshold ch 0" 0 0xFFFF,
  independentSetting 0x611E "Threshold ch 1" 0 0xFFFF,
  independentSetting 0x6120 "Threshold ch 2" 0 0xFFFF,
  independentSetting 0x6122 "Threshold ch 3" 0 0xFFFF,
  { registerOffset := 0x6124, name := "Shaping time",
    minimumValue := fw2051ScpMinimumShapingTime, maximumValue := fw2051ScpMaximumShapingTime,
    valueRule := .range,
    dependencyRule := .notBelow, dependencyRegister := 0x6110, dependencyName := "Timing filter" },
  independentSetting 0x6126 "Baseline restorer" 0 3,
  independentSetting 0x6128 "Reset time" 16 1000,
  independentSetting 0x612A "Signal rise time" 0 127,
  { registerOffset := 0x6146, name := "Pre-samples", minimumValue := 0,
    maximumValue := fw2051ScpMaximumSampleCount, valueRule := .range,
    dependencyRule := .lessThan, dependencyRegister := 0x6148, dependencyName := "Total samples" },
  { registerOffset := 0x6148, name := "Total samples", minimumValue := 2,
    maximumValue := fw2051ScpMaximumSampleCount, valueRule := .evenRange,
    dependencyRule := .greaterThan, dependencyRegister := 0x6146, dependencyName := "Pre-samples" },
  { registerOffset := 0x614A, name := "Sample configuration", minimumValue := 0,
    maximumValue := fw2051ScpSampleConfigurationAllowedMask, valueRule := .sampleConfiguration,
    dependencyRule := .none, dependencyRegister := 0, dependencyName := "" }]

/-- The registry entry of a register, if it has one (a null pointer in the source otherwise). -/
def findFw2051ScpSetting (registerOffset : UInt16) : Option Fw2051ScpSettingDefinition :=
  fw2051ScpSettingRegistry.find? fun candidate => candidate.registerOffset == registerOffset

/-- The message that refuses a value, empty when the value is accepted. -/
def validateFw2051ScpSettingValue (definition : Fw2051ScpSettingDefinition) (value : UInt16)
    (valueKind : String) : String :=
  let label := valueKind ++ definition.name
  if definition.valueRule = .sampleConfiguration ∧
      value &&& ~~~fw2051ScpSampleConfigurationAllowedMask ≠ 0 then
    "The " ++ label ++ " contains unsupported reserved bits."
  else if value < definition.minimumValue ∨ value > definition.maximumValue then
    "The " ++ label ++ " must be between " ++ toString definition.minimumValue ++ " and "
      ++ toString definition.maximumValue ++ " register units."
  else if definition.valueRule = .evenRange ∧ value % 2 ≠ 0 then
    "The " ++ label ++ " must be an even number of samples."
  else
    ""

/-- The message that refuses a value, empty when it is accepted. -/
def validateFw2051ScpProfileValue (registerOffset value : UInt16) : String :=
  match findFw2051ScpSetting registerOffset with
  | none => "Retained SCP profile application is not available for this register."
  | some definition => validateFw2051ScpSettingValue definition value "profile "

/-- A value against the one that binds it. -/
def fw2051ScpDependencySatisfied (definition : Fw2051ScpSettingDefinition)
    (value dependencyValue : UInt16) : Bool :=
  match definition.dependencyRule with
  | .none => true
  | .notAbove => value ≤ dependencyValue
  | .notBelow => value ≥ dependencyValue
  | .lessThan => value < dependencyValue
  | .greaterThan => value > dependencyValue

def fw2051ScpDependencyRelation : Fw2051ScpDependencyRule → String
  | .none => "satisfy"
  | .notAbove => "no greater than"
  | .notBelow => "no less than"
  | .lessThan => "less than"
  | .greaterThan => "greater than"

/-! ### A quad as a file of registers

The source chooses the field of a quad by the offset of the register. -/

/-- A banked register: quad index and register offset. -/
abbrev BankCell := Nat × UInt16

/-- The value of a register of a quad, if it is one of the seventeen. -/
def fw2051ScpQuadRegisterValue (quad : Fw2051ScpQuadConfiguration) (registerOffset : UInt16) :
    Option UInt16 :=
  if registerOffset = 0x6110 then some quad.timingFilter
  else if registerOffset = 0x6112 then some quad.poleZero[0]
  else if registerOffset = 0x6114 then some quad.poleZero[1]
  else if registerOffset = 0x6116 then some quad.poleZero[2]
  else if registerOffset = 0x6118 then some quad.poleZero[3]
  else if registerOffset = 0x611A then some quad.gain
  else if registerOffset = 0x611C then some quad.thresholds[0]
  else if registerOffset = 0x611E then some quad.thresholds[1]
  else if registerOffset = 0x6120 then some quad.thresholds[2]
  else if registerOffset = 0x6122 then some quad.thresholds[3]
  else if registerOffset = 0x6124 then some quad.shapingTime
  else if registerOffset = 0x6126 then some quad.baselineRestorer
  else if registerOffset = 0x6128 then some quad.resetTime
  else if registerOffset = 0x612A then some quad.signalRiseTime
  else if registerOffset = 0x6146 then some quad.preSamples
  else if registerOffset = 0x6148 then some quad.totalSamples
  else if registerOffset = 0x614A then some quad.sampleConfiguration
  else none

/-- The quad after the write, or `none` where the source returns `false` and writes nothing. -/
def setFw2051ScpQuadRegisterValue (quad : Fw2051ScpQuadConfiguration)
    (registerOffset value : UInt16) : Option Fw2051ScpQuadConfiguration :=
  if registerOffset = 0x6110 then some { quad with timingFilter := value }
  else if registerOffset = 0x6112 then
    some { quad with poleZero := quad.poleZero.set 0 value }
  else if registerOffset = 0x6114 then
    some { quad with poleZero := quad.poleZero.set 1 value }
  else if registerOffset = 0x6116 then
    some { quad with poleZero := quad.poleZero.set 2 value }
  else if registerOffset = 0x6118 then
    some { quad with poleZero := quad.poleZero.set 3 value }
  else if registerOffset = 0x611A then some { quad with gain := value }
  else if registerOffset = 0x611C then
    some { quad with thresholds := quad.thresholds.set 0 value }
  else if registerOffset = 0x611E then
    some { quad with thresholds := quad.thresholds.set 1 value }
  else if registerOffset = 0x6120 then
    some { quad with thresholds := quad.thresholds.set 2 value }
  else if registerOffset = 0x6122 then
    some { quad with thresholds := quad.thresholds.set 3 value }
  else if registerOffset = 0x6124 then some { quad with shapingTime := value }
  else if registerOffset = 0x6126 then some { quad with baselineRestorer := value }
  else if registerOffset = 0x6128 then some { quad with resetTime := value }
  else if registerOffset = 0x612A then some { quad with signalRiseTime := value }
  else if registerOffset = 0x6146 then some { quad with preSamples := value }
  else if registerOffset = 0x6148 then some { quad with totalSamples := value }
  else if registerOffset = 0x614A then some { quad with sampleConfiguration := value }
  else none

/-! ### The registry read as a table

The facts about its seventeen entries are found by going through them once, and used by name from
there on. -/

/-- The seventeen banked registers, in registry order. -/
def scpRegisterOffsets : List UInt16 := fw2051ScpSettingRegistry.map (·.registerOffset)

theorem scpRegisterOffsets_eq : scpRegisterOffsets =
    [0x6110, 0x6112, 0x6114, 0x6116, 0x6118, 0x611A, 0x611C, 0x611E, 0x6120, 0x6122, 0x6124,
      0x6126, 0x6128, 0x612A, 0x6146, 0x6148, 0x614A] := rfl

/-- For case distinctions over the registers. -/
theorem mem_scpRegisterOffsets {r : UInt16} : r ∈ scpRegisterOffsets ↔
    r = 0x6110 ∨ r = 0x6112 ∨ r = 0x6114 ∨ r = 0x6116 ∨ r = 0x6118 ∨ r = 0x611A ∨ r = 0x611C ∨
      r = 0x611E ∨ r = 0x6120 ∨ r = 0x6122 ∨ r = 0x6124 ∨ r = 0x6126 ∨ r = 0x6128 ∨ r = 0x612A ∨
      r = 0x6146 ∨ r = 0x6148 ∨ r = 0x614A := by
  simp [scpRegisterOffsets_eq]

theorem scpRegisterOffsets_nodup : scpRegisterOffsets.Nodup := by
  rw [scpRegisterOffsets_eq]; decide

/-- The registry has an entry for each of them. -/
theorem findFw2051ScpSetting_isSome {r : UInt16} :
    (findFw2051ScpSetting r).isSome ↔ r ∈ scpRegisterOffsets := by
  simp [findFw2051ScpSetting, scpRegisterOffsets, List.find?_isSome]

/-- And it is the entry of that register. -/
theorem findFw2051ScpSetting_eq_some {r : UInt16} {definition : Fw2051ScpSettingDefinition}
    (h : findFw2051ScpSetting r = some definition) :
    definition ∈ fw2051ScpSettingRegistry ∧ definition.registerOffset = r :=
  ⟨List.mem_of_find?_eq_some h, by simpa using List.find?_some h⟩

/-- Every entry is found under its own offset: no two entries share one. -/
theorem findFw2051ScpSetting_registerOffset {definition : Fw2051ScpSettingDefinition}
    (h : definition ∈ fw2051ScpSettingRegistry) :
    findFw2051ScpSetting definition.registerOffset = some definition := by
  simp only [fw2051ScpSettingRegistry, List.mem_cons, List.not_mem_nil, or_false] at h
  rcases h with rfl | rfl | rfl | rfl | rfl | rfl | rfl | rfl | rfl | rfl | rfl | rfl | rfl | rfl
    | rfl | rfl | rfl <;> rfl

/-! ### Reading and writing a quad

Exactly the registers of the registry can be read and written, and a quad has nothing else in it. -/

theorem quadRegisterValue_eq_none {quad : Fw2051ScpQuadConfiguration} {r : UInt16}
    (hr : r ∉ scpRegisterOffsets) : fw2051ScpQuadRegisterValue quad r = none := by
  simp only [mem_scpRegisterOffsets, not_or] at hr
  simp only [fw2051ScpQuadRegisterValue, hr, if_false]

/-- Exactly the registers of the registry can be read. -/
theorem quadRegisterValue_isSome {quad : Fw2051ScpQuadConfiguration} {r : UInt16} :
    (fw2051ScpQuadRegisterValue quad r).isSome ↔ r ∈ scpRegisterOffsets := by
  constructor
  · intro h
    by_contra hr
    rw [quadRegisterValue_eq_none hr] at h
    cases h
  · rw [mem_scpRegisterOffsets]
    rintro (rfl | rfl | rfl | rfl | rfl | rfl | rfl | rfl | rfl | rfl | rfl | rfl | rfl | rfl
      | rfl | rfl | rfl) <;> rfl

theorem setQuadRegisterValue_eq_none {quad : Fw2051ScpQuadConfiguration} {r v : UInt16}
    (hr : r ∉ scpRegisterOffsets) : setFw2051ScpQuadRegisterValue quad r v = none := by
  simp only [mem_scpRegisterOffsets, not_or] at hr
  simp only [setFw2051ScpQuadRegisterValue, hr, if_false]

/-- Exactly the registers of the registry can be written. -/
theorem setQuadRegisterValue_isSome {quad : Fw2051ScpQuadConfiguration} {r v : UInt16} :
    (setFw2051ScpQuadRegisterValue quad r v).isSome ↔ r ∈ scpRegisterOffsets := by
  constructor
  · intro h
    by_contra hr
    rw [setQuadRegisterValue_eq_none hr] at h
    cases h
  · rw [mem_scpRegisterOffsets]
    rintro (rfl | rfl | rfl | rfl | rfl | rfl | rfl | rfl | rfl | rfl | rfl | rfl | rfl | rfl
      | rfl | rfl | rfl) <;> rfl

/-- A write is seen at its own register and at no other. -/
theorem quadRegisterValue_set {quad quad' : Fw2051ScpQuadConfiguration} {r v : UInt16}
    (h : setFw2051ScpQuadRegisterValue quad r v = some quad') (r' : UInt16) :
    fw2051ScpQuadRegisterValue quad' r' =
      if r' = r then some v else fw2051ScpQuadRegisterValue quad r' := by
  have hr : r ∈ scpRegisterOffsets := setQuadRegisterValue_isSome.mp (by rw [h]; rfl)
  rw [mem_scpRegisterOffsets] at hr
  by_cases hr' : r' = r
  · subst hr'
    rw [if_pos rfl]
    rcases hr with rfl | rfl | rfl | rfl | rfl | rfl | rfl | rfl | rfl | rfl | rfl | rfl | rfl | rfl
      | rfl | rfl | rfl <;> cases h <;> simp [fw2051ScpQuadRegisterValue]
  · rw [if_neg hr']
    rcases hr with rfl | rfl | rfl | rfl | rfl | rfl | rfl | rfl | rfl | rfl | rfl | rfl | rfl | rfl
      | rfl | rfl | rfl <;> cases h <;> simp [fw2051ScpQuadRegisterValue, hr']

/-- A write does not renumber the quad. -/
theorem quad_setQuadRegisterValue {quad quad' : Fw2051ScpQuadConfiguration} {r v : UInt16}
    (h : setFw2051ScpQuadRegisterValue quad r v = some quad') : quad'.quad = quad.quad := by
  have hr : r ∈ scpRegisterOffsets := setQuadRegisterValue_isSome.mp (by rw [h]; rfl)
  rw [mem_scpRegisterOffsets] at hr
  rcases hr with rfl | rfl | rfl | rfl | rfl | rfl | rfl | rfl | rfl | rfl | rfl | rfl | rfl | rfl
    | rfl | rfl | rfl <;> cases h <;> rfl

/-- The quad number and the seventeen registers are all there is in a quad. -/
theorem quadConfiguration_ext {quad quad' : Fw2051ScpQuadConfiguration}
    (hq : quad.quad = quad'.quad)
    (h : ∀ r ∈ scpRegisterOffsets,
      fw2051ScpQuadRegisterValue quad r = fw2051ScpQuadRegisterValue quad' r) : quad = quad' := by
  obtain ⟨q, tf, pz, g, th, st, bl, rt, sr, ps, ts, sc⟩ := quad
  obtain ⟨q', tf', pz', g', th', st', bl', rt', sr', ps', ts', sc'⟩ := quad'
  simp only [mem_scpRegisterOffsets, forall_eq_or_imp, forall_eq] at h
  simp [fw2051ScpQuadRegisterValue] at h
  obtain ⟨h1, p0, p1, p2, p3, h2, t0, t1, t2, t3, h3, h4, h5, h6, h7, h8, h9⟩ := h
  have hpz : pz = pz' := by
    apply Vector.ext
    intro i hi
    match i, hi with
    | 0, _ => rw [p0]
    | 1, _ => rw [p1]
    | 2, _ => rw [p2]
    | 3, _ => rw [p3]
  have hth : th = th' := by
    apply Vector.ext
    intro i hi
    match i, hi with
    | 0, _ => rw [t0]
    | 1, _ => rw [t1]
    | 2, _ => rw [t2]
    | 3, _ => rw [t3]
  simp only at hq
  subst hq h1 hpz h2 hth h3 h4 h5 h6 h7 h8 h9
  rfl

end Fidget
