import Fidget.Core.ScpProfile

/-!
# Planning the application of a profile

`core/ScpTransactionPlan.cpp`: turn the differences between a profile and a live configuration into
an ordered list of register writes. Thirteen registers of a quad are independent and go first. The
two coupled pairs follow, each ordered by `planFw2051ScpCoupledWriteOrder` so that the hardware
never holds a pair that violates its coupling.

A plan is either complete or refused with a message, and the first reason in the source's order is
the one that is given. The plan does not depend on how the differences came about: it is made from
two configurations and from nothing else.

## Main results

- `planFw2051ScpCoupledWriteOrder`: which of two coupled registers is written first.
- `planFw2051ScpProfileApplication`: the steps that lead to a profile.
- `planFw2051ScpStandaloneStartup`: the same for a module that the startup has prepared.
-/

namespace Fidget

/-- The registers that are bound by no other. -/
def fw2051ScpIndependentRegisterOrder : List UInt16 :=
  [0x6112, 0x6114, 0x6116, 0x6118, 0x611A, 0x611C, 0x611E, 0x6120, 0x6122, 0x6126, 0x6128, 0x612A,
    0x614A]

structure Fw2051ScpCoupledWriteOrderPlan where
  success : Bool := false
  message : String := ""
  /-- The two registers in writing order (a pair of zeros until the plan succeeds). -/
  registerOffsets : List UInt16 := [0, 0]
  deriving DecidableEq, Repr

/-- A write, with the value that is expected before it. -/
structure ScpProfileApplicationStep where
  quad : Int := -1
  registerOffset : UInt16 := 0
  settingName : String := ""
  expectedValue : UInt16 := 0
  profileValue : UInt16 := 0
  displayHexadecimal : Bool := false
  deriving DecidableEq, Repr

structure ScpProfileApplicationRequest where
  expectedLiveConfiguration : Fw2051ScpConfigurationSnapshot := {}
  valuesCompared : Nat := 0
  configurationDifferences : Nat := 0
  steps : List ScpProfileApplicationStep := []
  deriving DecidableEq, Repr

structure ScpProfileApplicationPlan where
  success : Bool := false
  message : String := ""
  request : ScpProfileApplicationRequest := {}
  deriving DecidableEq, Repr

/-- The constrained register first if its new value already fits the old boundary, else the boundary
first. -/
def planFw2051ScpCoupledWriteOrder (constrainedRegister boundaryRegister currentBoundaryValue
    targetConstrainedValue targetBoundaryValue : UInt16) : Fw2051ScpCoupledWriteOrderPlan :=
  let notCoupled : Fw2051ScpCoupledWriteOrderPlan :=
    { message := "The requested FW2051 registers are not a coupled pair." }
  match findFw2051ScpSetting constrainedRegister, findFw2051ScpSetting boundaryRegister with
  | some constrained, some boundary =>
    let constrainedError := validateFw2051ScpProfileValue constrainedRegister targetConstrainedValue
    let boundaryError := validateFw2051ScpProfileValue boundaryRegister targetBoundaryValue
    if constrained.dependencyRule = .none ∨ boundary.dependencyRule = .none ∨
        constrained.dependencyRegister ≠ boundaryRegister ∨
        boundary.dependencyRegister ≠ constrainedRegister then
      notCoupled
    else if constrainedError ≠ "" then
      { message := constrainedError }
    else if boundaryError ≠ "" then
      { message := boundaryError }
    else if !fw2051ScpDependencySatisfied constrained targetConstrainedValue targetBoundaryValue ||
        !fw2051ScpDependencySatisfied boundary targetBoundaryValue targetConstrainedValue then
      { message := "The requested FW2051 coupled-register values are invalid." }
    else if fw2051ScpDependencySatisfied constrained targetConstrainedValue
        currentBoundaryValue then
      { success := true
        message := "Move the constrained FW2051 value before its boundary."
        registerOffsets := [constrainedRegister, boundaryRegister] }
    else
      { success := true
        message := "Widen the FW2051 boundary before its constrained value."
        registerOffsets := [boundaryRegister, constrainedRegister] }
  | _, _ => notCoupled

/-! ### The checks before a plan is drawn up -/

/-- Why a difference blocks the plan, if it does. -/
def differenceObstacle (difference : ScpConfigurationDifference) : Option String :=
  if difference.quad < 0 ∨ !difference.hasRegister ∨ difference.registerOffset > 0xFFFF ∨
      (findFw2051ScpSetting difference.registerOffset.toUInt16).isNone then
    some ("Complete banked-profile application is blocked because the global setting '"
      ++ difference.setting
      ++ "' differs. Global initialization remains outside this milestone.")
  else if difference.profileValue > 0xFFFF ∨ difference.liveValue > 0xFFFF then
    some "A profile difference is outside the D16 register range."
  else
    let validationError := validateFw2051ScpProfileValue difference.registerOffset.toUInt16
      difference.profileValue.toUInt16
    if validationError ≠ "" then
      some ("Quad " ++ toString difference.quad ++ ": " ++ validationError)
    else none

/-- Why one register of a profile quad blocks the plan, if it does. -/
def profileRegisterObstacle (index : Nat) (target : Fw2051ScpQuadConfiguration)
    (definition : Fw2051ScpSettingDefinition) : Option String :=
  match fw2051ScpQuadRegisterValue target definition.registerOffset with
  | none => some "The FW2051 registry does not map every profile value."
  | some value =>
    let validationError := validateFw2051ScpProfileValue definition.registerOffset value
    if validationError ≠ "" then some ("Quad " ++ toString index ++ ": " ++ validationError)
    else none

/-- Why a profile quad blocks the plan, if it does. -/
def profileQuadObstacle (index : Nat) (target : Fw2051ScpQuadConfiguration) : Option String :=
  match fw2051ScpSettingRegistry.findSome? (profileRegisterObstacle index target) with
  | some obstacle => some obstacle
  | none =>
    if target.timingFilter > target.shapingTime then
      some ("Quad " ++ toString index
        ++ " has a profile timing filter greater than its shaping time.")
    else if target.preSamples ≥ target.totalSamples then
      some ("Quad " ++ toString index
        ++ " has profile pre-samples at or after total samples.")
    else none

/-! ### The plan -/

/-- The step for one register of one quad: none when the register does not differ. -/
def addDifferenceStep (differences : List ScpConfigurationDifference) (quad : Int)
    (registerOffset : UInt16) : List ScpProfileApplicationStep :=
  match differences.find? fun difference => difference.quad == quad && difference.hasRegister &&
      difference.registerOffset == registerOffset.toUInt32 with
  | none => []
  | some found =>
    [{ quad := found.quad, registerOffset, settingName := found.setting,
       expectedValue := found.liveValue.toUInt16, profileValue := found.profileValue.toUInt16,
       displayHexadecimal := found.displayHexadecimal }]

/-- The steps of one quad: the independent registers, then the coupled pairs in planned order. -/
def planQuadSteps (differences : List ScpConfigurationDifference) (index : Nat)
    (live target : Fw2051ScpQuadConfiguration) : Except String (List ScpProfileApplicationStep) :=
  let timing := planFw2051ScpCoupledWriteOrder 0x6110 0x6124 live.shapingTime target.timingFilter
    target.shapingTime
  let samples := planFw2051ScpCoupledWriteOrder 0x6146 0x6148 live.totalSamples target.preSamples
    target.totalSamples
  if !timing.success then .error ("Quad " ++ toString index ++ ": " ++ timing.message)
  else if !samples.success then .error ("Quad " ++ toString index ++ ": " ++ samples.message)
  else
    .ok ((fw2051ScpIndependentRegisterOrder ++ timing.registerOffsets
      ++ samples.registerOffsets).flatMap (addDifferenceStep differences index))

/-- The steps of all quads; the first quad that cannot be ordered ends the planning. -/
def planSteps (differences : List ScpConfigurationDifference)
    (liveQuads targetQuads : List Fw2051ScpQuadConfiguration) :
    Except String (List ScpProfileApplicationStep) := do
  let quads ← (liveQuads.zip targetQuads).zipIdx.mapM fun ((live, target), index) =>
    planQuadSteps differences index live target
  return quads.flatten

/-- The differences between the module-wide values refuse the plan. -/
def planFw2051ScpProfileApplication (profile : ScpProfile)
    (liveConfiguration : Fw2051ScpConfigurationSnapshot) : ScpProfileApplicationPlan :=
  let comparison := compareFw2051ScpConfiguration profile liveConfiguration
  let request : ScpProfileApplicationRequest :=
    { expectedLiveConfiguration := liveConfiguration
      valuesCompared := comparison.valuesCompared
      configurationDifferences := comparison.differences.length }
  if !comparison.comparable then
    { message := comparison.message, request }
  else
    match comparison.differences.findSome? differenceObstacle with
    | some obstacle => { message := obstacle, request }
    | none =>
      match profile.configuration.quads.zipIdx.findSome?
          (fun (target, index) => profileQuadObstacle index target) with
      | some obstacle => { message := obstacle, request }
      | none =>
        match planSteps comparison.differences liveConfiguration.quads
            profile.configuration.quads with
        | .error message => { message, request }
        | .ok steps =>
          if steps.length ≠ comparison.differences.length then
            { message := "The banked-profile plan did not account for every captured difference; "
                ++ "no hardware write is allowed."
              request }
          else
            { success := true
              message :=
                if steps = [] then
                  "The live banked SCP configuration already matches the profile."
                else
                  "Prepared a guarded transaction for " ++ toString steps.length
                    ++ " changed banked SCP value(s)."
              request := { request with steps } }

/-! ### Starting the module up -/

structure ScpStandaloneStartupPlan where
  success : Bool := false
  message : String := ""
  valuesCompared : Nat := 0
  configurationDifferences : Nat := 0
  startupContractDifferences : Nat := 0
  bankedDifferences : Nat := 0
  bankedApplication : ScpProfileApplicationRequest := {}
  deriving DecidableEq, Repr

/-- What the preparation leaves. -/
def requiredIrqLevel : UInt16 := 1
def requiredOutputFormat : UInt16 := 0x0018

/-- One difference enters the count of its kind; an identity that differs ends the planning. -/
def countStartupDifference (plan : ScpStandaloneStartupPlan)
    (difference : ScpConfigurationDifference) :
    Except ScpStandaloneStartupPlan ScpStandaloneStartupPlan :=
  if difference.quad ≥ 0 then
    .ok { plan with bankedDifferences := plan.bankedDifferences + 1 }
  else if difference.hasRegister ∧
      (difference.registerOffset = 0x6010 ∨ difference.registerOffset = 0x6044) then
    .ok { plan with startupContractDifferences := plan.startupContractDifferences + 1 }
  else
    .error { plan with
      message := "Deterministic startup is blocked by the global identity difference '"
        ++ difference.setting ++ "'." }

/-- The live configuration as the startup preparation leaves it. -/
def preparedConfiguration (liveConfiguration : Fw2051ScpConfigurationSnapshot) :
    Fw2051ScpConfigurationSnapshot :=
  { liveConfiguration with irqLevel := requiredIrqLevel, outputFormat := requiredOutputFormat }

/-- What the preparation handles, what the plan writes, and what must agree already. -/
def planFw2051ScpStandaloneStartup (profile : ScpProfile)
    (liveConfiguration : Fw2051ScpConfigurationSnapshot) : ScpStandaloneStartupPlan :=
  let comparison := compareFw2051ScpConfiguration profile liveConfiguration
  let plan : ScpStandaloneStartupPlan :=
    { valuesCompared := comparison.valuesCompared
      configurationDifferences := comparison.differences.length }
  let target := profile.configuration
  if !comparison.comparable then
    { plan with message := comparison.message }
  else if target.hardwareId ≠ mdpp32HardwareId ∨
      target.firmwareRevision ≠ mdpp32ScpFirmwareRevisionFw2051 ∨
      liveConfiguration.hardwareId ≠ mdpp32HardwareId ∨
      liveConfiguration.firmwareRevision ≠ mdpp32ScpFirmwareRevisionFw2051 then
    { plan with
      message := "Deterministic startup is enabled only for the tested MDPP-32 hardware 0x5007 "
        ++ "with SCP FW2051." }
  else if target.irqLevel ≠ requiredIrqLevel ∨ target.outputFormat ≠ requiredOutputFormat then
    { plan with
      message := "The saved profile is not a tuner-startup profile: it must record IRQ level 1 "
        ++ "and sampled standard-streaming output format 0x0018." }
  else
    match comparison.differences.foldlM countStartupDifference plan with
    | .error plan => plan
    | .ok plan =>
      let bankedPlan := planFw2051ScpProfileApplication profile
        (preparedConfiguration liveConfiguration)
      if !bankedPlan.success then
        { plan with message := bankedPlan.message }
      else if bankedPlan.request.steps.length ≠ plan.bankedDifferences then
        { plan with
          message := "The deterministic-startup planner did not account for every banked "
            ++ "difference; no hardware operation is enabled." }
      else
        { plan with
          bankedApplication := bankedPlan.request
          success := true
          message := "Prepared a deterministic tuner-startup recipe: "
            ++ toString plan.startupContractDifferences
            ++ " profile-visible module-wide mismatch(es) are handled by the verified startup "
            ++ "contract and " ++ toString plan.bankedDifferences
            ++ " banked mismatch(es) by the saved SCP profile." }

end Fidget
