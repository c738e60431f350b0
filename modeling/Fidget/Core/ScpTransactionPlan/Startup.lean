import Fidget.Core.ScpTransactionPlan.Verified
import Mathlib.Data.List.Zip

/-!
# A startup plan reaches the profile

The startup plan classifies the 141 compared values once more: two of them belong to the startup
preparation, 136 to the banked plan, and the rest identify the module. The plan succeeds exactly
when the identities agree and the profile is one that the module accepts, and what it then leaves
compares equal.

Both directions are needed here: that a plan which succeeds reaches the profile, and that it does
succeed when nothing stands against it. So every obstacle of the planner is characterised by an
equivalence, from a single value up to the whole profile.

## Main results

- `comparable_iff`, `profileQuadObstacle_eq_none_iff`, `planQuadSteps_ok`: the obstacles of a plan,
  both ways.
- `StartupReady`: what a startup plan needs.
- `planFw2051ScpStandaloneStartup_reaches`: with it, and only with it, the plan succeeds and reaches
  the profile.
-/

namespace Fidget

/-! ### When two configurations compare

The comparison refuses snapshots that are incomplete, and otherwise lists the differences among 141
values in a fixed order. -/

/-- The converse of `validScpConfiguration_of_validate`. -/
theorem validate_of_validScpConfiguration {configuration : Fw2051ScpConfigurationSnapshot}
    (h : ValidScpConfiguration configuration) :
    validateFw2051ScpConfiguration configuration = "" := by
  have hnumbered : ∀ entry ∈ configuration.quads.zipIdx, entry.1.quad.toNat = entry.2 := by
    intro entry hentry
    exact h.numbered.quad_eq_of_getElem? (List.mem_zipIdx_iff_getElem?.mp hentry)
  have hscp : (mdpp32ScpFirmwareRevisionFw2051 >>> 12) &&& 0x0F = 2 := rfl
  have hhardware := h.hardware
  unfold validateFw2051ScpConfiguration
  rw [if_neg (by simp [h.complete]), if_neg (by simp [h.parked]), if_neg h.base_ne_zero,
    if_neg (by tauto), if_neg (by simp [h.firmware, hscp]), if_neg (by simp [h.firmware]),
    if_neg (by simp [h.numbered.length_eq, fw2051ScpQuadCount]), if_neg]
  simp only [List.any_eq_true, not_exists, not_and]
  intro entry hentry
  simp [hnumbered entry hentry]

section Compared

variable {profile : ScpProfile} {live : Fw2051ScpConfigurationSnapshot}

/-- Eight quads of seventeen values. -/
theorem length_bankedValues {expected : Fw2051ScpConfigurationSnapshot}
    (h : expected.quads.length = 8) (h' : live.quads.length = 8) :
    (bankedValues expected live).length = 136 := by
  have hconst : ((expected.quads.zip live.quads).zipIdx.map fun x =>
      fw2051ScpSettingRegistry.map fun definition => comparedBankedValue x.2 definition
        (registerOrZero x.1.1 definition.registerOffset)
        (registerOrZero x.1.2 definition.registerOffset)).map List.length =
      List.replicate 8 17 := by
    rw [List.eq_replicate_iff]
    constructor
    · simp [h, h']
    · intro n hn
      obtain ⟨values, hvalues, rfl⟩ := List.mem_map.mp hn
      obtain ⟨x, -, rfl⟩ := List.mem_map.mp hvalues
      rw [List.length_map]
      rfl
  rw [bankedValues, List.length_flatten, hconst]
  rfl

/-- A comparison that comes about goes through all 141 values. -/
theorem compareFw2051ScpConfiguration_eq (hversion : profile.formatVersion =
      fw2051ScpProfileFormatVersion) (hprofile : ValidScpConfiguration profile.configuration)
    (hlive : ValidScpConfiguration live) :
    (compareFw2051ScpConfiguration profile live).comparable = true ∧
      (compareFw2051ScpConfiguration profile live).valuesCompared = 141 := by
  unfold compareFw2051ScpConfiguration
  simp only [hversion, validate_of_validScpConfiguration hprofile,
    validate_of_validScpConfiguration hlive, ne_eq, not_true_eq_false, if_false,
    comparedBankedValues_eq, foldl_addDifference, List.length_append]
  refine ⟨trivial, ?_⟩
  have hbanked := length_bankedValues hprofile.numbered.length_eq hlive.numbered.length_eq
  rw [bankedValues] at hbanked
  rw [hbanked]
  rfl

/-- Nothing else refuses a comparison. -/
theorem comparable_iff : (compareFw2051ScpConfiguration profile live).comparable = true ↔
    profile.formatVersion = fw2051ScpProfileFormatVersion ∧
      ValidScpConfiguration profile.configuration ∧ ValidScpConfiguration live := by
  constructor
  · intro h
    have hcompared := compared_of_comparable h
    exact ⟨hcompared.version, hcompared.profileValid, hcompared.liveValid⟩
  · rintro ⟨hversion, hprofile, hlive⟩
    exact (compareFw2051ScpConfiguration_eq hversion hprofile hlive).1

end Compared

/-! ### When the banked plan succeeds

A profile is refused for a value out of range, for a coupling that it violates, or for a difference
that is not banked. -/

/-- Every banked value of the quad is one that its register accepts. -/
def QuadInRange (quad : Fw2051ScpQuadConfiguration) : Prop :=
  ∀ definition ∈ fw2051ScpSettingRegistry, validateFw2051ScpProfileValue definition.registerOffset
    (registerOrZero quad definition.registerOffset) = ""

instance : DecidablePred QuadInRange := fun _ => inferInstanceAs (Decidable (∀ _ ∈ _, _))

section Banked

variable {profile : ScpProfile} {live : Fw2051ScpConfigurationSnapshot} {index : Nat}
  {target : Fw2051ScpQuadConfiguration}

/-- A register is refused for its value only. -/
theorem profileRegisterObstacle_eq_none_iff {definition : Fw2051ScpSettingDefinition}
    (hd : definition ∈ fw2051ScpSettingRegistry) :
    profileRegisterObstacle index target definition = none ↔
      validateFw2051ScpProfileValue definition.registerOffset
        (registerOrZero target definition.registerOffset) = "" := by
  unfold profileRegisterObstacle
  rw [quadRegisterValue_eq_some (registerOffset_mem hd)]
  simp

/-- A quad is refused for a value or a coupling. -/
theorem profileQuadObstacle_eq_none_iff :
    profileQuadObstacle index target = none ↔ QuadInRange target ∧ CouplingsHold target := by
  have hregisters : fw2051ScpSettingRegistry.findSome? (profileRegisterObstacle index target) =
      none ↔ QuadInRange target := by
    rw [List.findSome?_eq_none_iff]
    exact forall₂_congr fun definition hd => profileRegisterObstacle_eq_none_iff hd
  constructor
  · intro h
    refine ⟨hregisters.mp ?_, couplingsHold_of_profileQuadObstacle h⟩
    unfold profileQuadObstacle at h
    split at h
    · cases h
    · assumption
  · rintro ⟨hrange, htiming, hsamples⟩
    unfold profileQuadObstacle
    rw [hregisters.mpr hrange]
    simp only
    rw [if_neg (UInt16.not_lt.mpr htiming), if_neg (UInt16.not_le.mpr hsamples)]

/-- Values that are accepted and coupled as the registry asks can be ordered. -/
theorem coupledWriteOrder_success {c b current targetConstrained targetBoundary : UInt16}
    {constrained boundary : Fw2051ScpSettingDefinition}
    (hc : findFw2051ScpSetting c = some constrained) (hb : findFw2051ScpSetting b = some boundary)
    (hcoupled : ¬(constrained.dependencyRule = .none ∨ boundary.dependencyRule = .none ∨
      constrained.dependencyRegister ≠ b ∨ boundary.dependencyRegister ≠ c))
    (hconstrained : validateFw2051ScpProfileValue c targetConstrained = "")
    (hboundary : validateFw2051ScpProfileValue b targetBoundary = "")
    (hsatisfied : fw2051ScpDependencySatisfied constrained targetConstrained targetBoundary = true)
    (hsatisfied' : fw2051ScpDependencySatisfied boundary targetBoundary targetConstrained = true) :
    (planFw2051ScpCoupledWriteOrder c b current targetConstrained targetBoundary).success =
      true := by
  unfold planFw2051ScpCoupledWriteOrder
  simp only [hc, hb, hconstrained, hboundary, hsatisfied, hsatisfied']
  rw [if_neg hcoupled]
  simp only [ne_eq, not_true_eq_false, if_false, Bool.not_true, Bool.or_self, Bool.false_eq_true]
  split <;> rfl

/-- An accepted quad can be planned, whatever the module holds. -/
theorem planQuadSteps_ok (hrange : QuadInRange target) (hholds : CouplingsHold target)
    (differences : List ScpConfigurationDifference) (liveQuad : Fw2051ScpQuadConfiguration) :
    planQuadSteps differences index liveQuad target =
      .ok ((quadWriteOrder liveQuad target).flatMap (addDifferenceStep differences index)) := by
  have hvalid {position : Nat} (hposition : position < 17) :=
    hrange fw2051ScpSettingRegistry[position] (List.getElem_mem hposition)
  have htiming : (planFw2051ScpCoupledWriteOrder 0x6110 0x6124 liveQuad.shapingTime
      target.timingFilter target.shapingTime).success = true :=
    coupledWriteOrder_success (show _ = some fw2051ScpSettingRegistry[0] from rfl)
      (show _ = some fw2051ScpSettingRegistry[10] from rfl) (by decide)
      (hvalid (show 0 < 17 by decide)) (hvalid (show 10 < 17 by decide))
      (decide_eq_true hholds.1) (decide_eq_true hholds.1)
  have hsamples : (planFw2051ScpCoupledWriteOrder 0x6146 0x6148 liveQuad.totalSamples
      target.preSamples target.totalSamples).success = true :=
    coupledWriteOrder_success (show _ = some fw2051ScpSettingRegistry[14] from rfl)
      (show _ = some fw2051ScpSettingRegistry[15] from rfl) (by decide)
      (hvalid (show 14 < 17 by decide)) (hvalid (show 15 < 17 by decide))
      (decide_eq_true hholds.2) (decide_eq_true hholds.2)
  obtain ⟨steps, hsteps⟩ : ∃ steps, planQuadSteps differences index liveQuad target = .ok steps := by
    unfold planQuadSteps
    simp only [htiming, hsamples, Bool.not_true, Bool.false_eq_true, if_false]
    exact ⟨_, rfl⟩
  rw [hsteps, planQuadSteps_eq_ok hsteps]

/-- A quad gets as many steps as it has differences. -/
theorem length_quadSteps (h : ComparedConfigurations profile live)
    {liveQuad : Fw2051ScpQuadConfiguration} (hlive : live.quads[index]? = some liveQuad)
    (htarget : profile.configuration.quads[index]? = some target) :
    ((quadWriteOrder liveQuad target).flatMap (addDifferenceStep
      (compareFw2051ScpConfiguration profile live).differences index)).length =
      ((fw2051ScpSettingRegistry.map fun definition => comparedBankedValue index definition
        (registerOrZero target definition.registerOffset)
        (registerOrZero liveQuad definition.registerOffset)).filter
          fun value => value.profileValue ≠ value.liveValue).length := by
  rw [((quadWriteOrder_perm liveQuad target).flatMap_right _).length_eq, scpRegisterOffsets,
    List.flatMap_map, ← List.countP_eq_length_filter, List.countP_map]
  refine Lists.length_flatMap_eq_countP fun definition hd => ?_
  rw [addDifferenceStep_eq h hlive htarget hd]
  by_cases heq : registerOrZero liveQuad definition.registerOffset =
      registerOrZero target definition.registerOffset
  · simp [heq, comparedBankedValue]
  · have hne : registerOrZero target definition.registerOffset ≠
        registerOrZero liveQuad definition.registerOffset := Ne.symm heq
    simp [heq, hne, comparedBankedValue, UInt16.toUInt32_inj]

/-- A plan that succeeds has accepted every quad. -/
theorem quadsAccepted_of_success
    (h : (planFw2051ScpProfileApplication profile live).success = true) :
    ∀ quad ∈ profile.configuration.quads, QuadInRange quad ∧ CouplingsHold quad := by
  intro quad hquad
  obtain ⟨index, hindex⟩ := List.mem_iff_getElem?.mp hquad
  rw [← @profileQuadObstacle_eq_none_iff index quad]
  unfold planFw2051ScpProfileApplication at h
  simp only at h
  split at h
  · cases h
  split at h
  · cases h
  split at h
  · cases h
  next htargets =>
    exact List.findSome?_eq_none_iff.mp htargets (quad, index)
      (List.mem_zipIdx_iff_getElem?.mpr hindex)

theorem toUInt32_le (value : UInt16) : ¬value.toUInt32 > 0xFFFF := by
  have hlt := value.toNat_lt
  rw [gt_iff_lt, UInt32.lt_iff_toNat_lt, UInt16.toNat_toUInt32]
  show ¬65535 < value.toNat
  omega

/-- A banked difference blocks nothing when the profile's value is accepted. -/
theorem differenceObstacle_banked {definition : Fw2051ScpSettingDefinition}
    (hd : definition ∈ fw2051ScpSettingRegistry) {profileValue : UInt16} (liveValue : UInt16)
    (hvalid : validateFw2051ScpProfileValue definition.registerOffset profileValue = "") :
    differenceObstacle (comparedBankedValue index definition profileValue liveValue) = none := by
  have hfound : (findFw2051ScpSetting definition.registerOffset).isNone = false := by
    rw [findFw2051ScpSetting_registerOffset hd]
    rfl
  have hquad : ¬((index : Int) < 0) := by omega
  unfold differenceObstacle comparedBankedValue
  simp only [UInt16.toUInt16_toUInt32, hfound, hvalid, hquad, toUInt32_le]
  simp

/-- The plan succeeds when only banked values differ and the profile is one that the module
accepts. -/
theorem planProfileApplication_success
    (hcomparable : (compareFw2051ScpConfiguration profile live).comparable = true)
    (hglobals : ∀ value ∈ comparedGlobalValues profile.configuration live,
      value.profileValue = value.liveValue)
    (hquads : ∀ quad ∈ profile.configuration.quads, QuadInRange quad ∧ CouplingsHold quad) :
    (planFw2051ScpProfileApplication profile live).success = true := by
  have hcompared := compared_of_comparable hcomparable
  -- only banked values differ
  have hdifferences : (compareFw2051ScpConfiguration profile live).differences =
      (bankedValues profile.configuration live).filter
        fun value => value.profileValue ≠ value.liveValue := by
    rw [hcompared.differences_eq, List.filter_append, List.filter_eq_nil_iff.mpr, List.nil_append]
    intro value hvalue
    simp [hglobals value hvalue]
  -- none of these differences is in the way
  have hobstacles : (compareFw2051ScpConfiguration profile live).differences.findSome?
      differenceObstacle = none := by
    rw [List.findSome?_eq_none_iff, hdifferences]
    intro difference hdifference
    obtain ⟨index, profileQuad, liveQuad, hprofileQuad, -, definition, hd, rfl⟩ :=
      mem_bankedValues.mp (List.mem_of_mem_filter hdifference)
    have hrange := (hquads profileQuad (List.mem_of_getElem? hprofileQuad)).1 definition hd
    exact differenceObstacle_banked hd _ hrange
  -- nor is any quad of the profile
  have htargets {obstacle : Fw2051ScpQuadConfiguration × ℕ → Option String}
      (hobstacle : ∀ x, obstacle x = profileQuadObstacle x.2 x.1) :
      profile.configuration.quads.zipIdx.findSome? obstacle = none := by
    rw [List.findSome?_eq_none_iff]
    rintro ⟨quad, index⟩ hquad
    rw [hobstacle]
    exact profileQuadObstacle_eq_none_iff.mpr
      (hquads quad (List.mem_of_getElem? (List.mem_zipIdx_iff_getElem?.mp hquad)))
  have hzip {x : (Fw2051ScpQuadConfiguration × Fw2051ScpQuadConfiguration) × ℕ}
      (hx : x ∈ (live.quads.zip profile.configuration.quads).zipIdx) :
      live.quads[x.2]? = some x.1.1 ∧ profile.configuration.quads[x.2]? = some x.1.2 :=
    List.getElem?_zip_eq_some.mp (List.mem_zipIdx_iff_getElem?.mp hx)
  -- every quad can be planned
  have hplanned : planSteps (compareFw2051ScpConfiguration profile live).differences live.quads
      profile.configuration.quads =
      .ok ((live.quads.zip profile.configuration.quads).zipIdx.flatMap fun x =>
        (quadWriteOrder x.1.1 x.1.2).flatMap (addDifferenceStep
          (compareFw2051ScpConfiguration profile live).differences x.2)) := by
    unfold planSteps
    rw [Lists.mapM_eq_ok_map fun x hx => ?_]
    · rfl
    · obtain ⟨hrange, hholds⟩ := hquads _ (List.mem_of_getElem? (hzip hx).2)
      exact planQuadSteps_ok hrange hholds _ _
  -- and the plan has one step for each difference
  have hlength : ((live.quads.zip profile.configuration.quads).zipIdx.flatMap fun x =>
      (quadWriteOrder x.1.1 x.1.2).flatMap (addDifferenceStep
        (compareFw2051ScpConfiguration profile live).differences x.2)).length =
      (compareFw2051ScpConfiguration profile live).differences.length := by
    conv_rhs => rw [hdifferences, bankedValues, List.filter_flatten, List.length_flatten,
      ← List.zip_swap live.quads, List.zipIdx_map, List.map_map, List.map_map, List.map_map]
    rw [List.length_flatMap]
    congr 1
    refine List.map_congr_left fun x hx => ?_
    exact length_quadSteps hcompared (hzip hx).1 (hzip hx).2
  unfold planFw2051ScpProfileApplication
  simp only [hcomparable, hobstacles, hplanned, hlength, Bool.not_true, Bool.false_eq_true, ne_eq,
    not_true_eq_false, if_false]
  rw [htargets]
  exact fun _ => rfl

end Banked

/-! ### When the startup plan succeeds

Each difference is counted as one for the preparation or for the banked plan, or it refuses the
plan. After the preparation the module-wide values are those of the profile, and the banked ones are
as they were. -/

/-- The difference is one that the startup deals with. -/
def StartupHandles (difference : ScpConfigurationDifference) : Prop :=
  difference.quad ≥ 0 ∨ difference.hasRegister ∧
    (difference.registerOffset = 0x6010 ∨ difference.registerOffset = 0x6044)

/-- A difference is counted or refuses the plan. -/
theorem countStartupDifference_spec (plan : ScpStandaloneStartupPlan)
    (difference : ScpConfigurationDifference) :
    match countStartupDifference plan difference with
    | .error refused => refused.success = plan.success ∧ ¬StartupHandles difference
    | .ok counted => StartupHandles difference ∧ counted.success = plan.success ∧
        counted.bankedDifferences = plan.bankedDifferences
          + if difference.quad ≥ 0 then 1 else 0 := by
  unfold countStartupDifference StartupHandles
  by_cases hquad : difference.quad ≥ 0
  · simp [hquad]
  by_cases hcontract : difference.hasRegister ∧
      (difference.registerOffset = 0x6010 ∨ difference.registerOffset = 0x6044)
  · simp [hquad, hcontract]
  · rw [if_neg hquad, if_neg hcontract]
    exact ⟨rfl, not_or.mpr ⟨hquad, hcontract⟩⟩

/-- Counting goes through when the startup deals with every difference, and then has counted the
banked ones. -/
theorem foldlM_countStartupDifference (differences : List ScpConfigurationDifference)
    (plan : ScpStandaloneStartupPlan) :
    match differences.foldlM countStartupDifference plan with
    | .error refused => refused.success = plan.success ∧
        ∃ difference ∈ differences, ¬StartupHandles difference
    | .ok counted => (∀ difference ∈ differences, StartupHandles difference) ∧
        counted.success = plan.success ∧
        counted.bankedDifferences = plan.bankedDifferences
          + differences.countP fun difference => difference.quad ≥ 0 := by
  induction differences generalizing plan with
  | nil => exact ⟨nofun, rfl, rfl⟩
  | cons difference differences ih =>
      have hspec := countStartupDifference_spec plan difference
      rw [List.foldlM_cons]
      cases hstep : countStartupDifference plan difference with
      -- the first difference refuses the plan
      | error refused =>
          rw [hstep] at hspec
          exact ⟨hspec.1, difference, List.mem_cons_self, hspec.2⟩
      -- it is counted, and the others decide
      | ok counted =>
          rw [hstep] at hspec
          obtain ⟨hhandles, hsuccess, hbanked⟩ := hspec
          have hrest := ih counted
          show match differences.foldlM countStartupDifference counted with
            | .error refused => _
            | .ok counted => _
          cases hfold : differences.foldlM countStartupDifference counted with
          | error refused =>
              rw [hfold] at hrest
              obtain ⟨hrefused, other, hother, hunhandled⟩ := hrest
              exact ⟨hrefused.trans hsuccess, other, List.mem_cons_of_mem _ hother, hunhandled⟩
          | ok total =>
              rw [hfold] at hrest
              obtain ⟨hall, htotal, hcount⟩ := hrest
              refine ⟨?_, htotal.trans hsuccess, ?_⟩
              · intro other hother
                rcases List.mem_cons.mp hother with rfl | hother
                · exact hhandles
                · exact hall other hother
              · rw [hcount, hbanked, List.countP_cons]
                simp only [decide_eq_true_eq]
                omega

section Startup

variable {profile : ScpProfile} {live : Fw2051ScpConfigurationSnapshot}

/-- The preparation leaves a valid configuration. -/
theorem validScpConfiguration_prepared (h : ValidScpConfiguration live) :
    ValidScpConfiguration (preparedConfiguration live) :=
  ⟨h.complete, h.parked, h.base_ne_zero, h.hardware, h.firmware, h.numbered⟩

/-- The identities agree, the profile carries the readout contract, and the module accepts every
banked value that it asks for. -/
structure StartupReady (profile : ScpProfile) (live : Fw2051ScpConfigurationSnapshot) : Prop where
  comparable : (compareFw2051ScpConfiguration profile live).comparable = true
  base : profile.configuration.baseAddress = live.baseAddress
  profileHardware : profile.configuration.hardwareId = mdpp32HardwareId
  liveHardware : live.hardwareId = mdpp32HardwareId
  irqLevel : profile.configuration.irqLevel = 1
  outputFormat : profile.configuration.outputFormat = 0x18
  inRange : ∀ quad ∈ profile.configuration.quads, QuadInRange quad
  couplings : ∀ quad ∈ profile.configuration.quads, CouplingsHold quad

/-- The differences that remain are those that the startup handles. -/
theorem StartupReady.handles (h : StartupReady profile live) :
    ∀ difference ∈ (compareFw2051ScpConfiguration profile live).differences,
      StartupHandles difference := by
  have hcompared := compared_of_comparable h.comparable
  intro difference hdifference
  rw [hcompared.differences_eq, List.mem_filter, List.mem_append] at hdifference
  obtain ⟨hglobal | hbanked, hne⟩ := hdifference
  · simp only [comparedGlobalValues, List.mem_cons, List.not_mem_nil, or_false] at hglobal
    rcases hglobal with rfl | rfl | rfl | rfl | rfl
    · simp [h.base] at hne
    · simp [h.profileHardware, h.liveHardware] at hne
    · simp [hcompared.profileValid.firmware, hcompared.liveValid.firmware] at hne
    · exact .inr ⟨rfl, .inl rfl⟩
    · exact .inr ⟨rfl, .inr rfl⟩
  · obtain ⟨index, -, -, -, -, definition, -, rfl⟩ := mem_bankedValues.mp hbanked
    exact .inl (Int.natCast_nonneg index)

/-- What is banked differs as much before the preparation as after it. -/
theorem countP_differences (h : ComparedConfigurations profile live)
    (h' : ComparedConfigurations profile (preparedConfiguration live))
    (hglobals : ∀ value ∈ comparedGlobalValues profile.configuration (preparedConfiguration live),
      value.profileValue = value.liveValue) :
    (compareFw2051ScpConfiguration profile live).differences.countP
        (fun difference => difference.quad ≥ 0) =
      (compareFw2051ScpConfiguration profile (preparedConfiguration live)).differences.length := by
  have hbanked : ∀ value ∈ bankedValues profile.configuration live, value.quad ≥ 0 := by
    intro value hvalue
    obtain ⟨index, -, -, -, -, definition, -, rfl⟩ := mem_bankedValues.mp hvalue
    exact Int.natCast_nonneg index
  have hnone : (comparedGlobalValues profile.configuration (preparedConfiguration live)).filter
      (fun value => value.profileValue ≠ value.liveValue) = [] := by
    rw [List.filter_eq_nil_iff]
    intro value hvalue
    simp [hglobals value hvalue]
  rw [h.differences_eq, h'.differences_eq, List.filter_append, List.filter_append, hnone,
    List.countP_append, List.length_append]
  congr 1
  · rw [List.length_nil, List.countP_eq_zero]
    intro value hvalue
    have hglobal := List.mem_of_mem_filter hvalue
    simp only [comparedGlobalValues, List.mem_cons, List.not_mem_nil, or_false] at hglobal
    rcases hglobal with rfl | rfl | rfl | rfl | rfl <;> simp
  · rw [List.countP_eq_length.mpr fun value hvalue => by
      simpa using hbanked value (List.mem_of_mem_filter hvalue)]
    rfl

/-- After the preparation the module-wide values agree. -/
theorem StartupReady.globals_eq (h : StartupReady profile live) :
    ∀ value ∈ comparedGlobalValues profile.configuration (preparedConfiguration live),
      value.profileValue = value.liveValue := by
  have hcompared := compared_of_comparable h.comparable
  intro value hvalue
  simp only [comparedGlobalValues, List.mem_cons, List.not_mem_nil, or_false] at hvalue
  rcases hvalue with rfl | rfl | rfl | rfl | rfl
  · exact h.base
  · simp [h.profileHardware, h.liveHardware, preparedConfiguration]
  · simp [hcompared.profileValid.firmware, hcompared.liveValid.firmware, preparedConfiguration]
  · simp [h.irqLevel, preparedConfiguration, requiredIrqLevel]
  · simp [h.outputFormat, preparedConfiguration, requiredOutputFormat]

/-- So the prepared configuration can be compared. -/
theorem StartupReady.prepared_comparable (h : StartupReady profile live) :
    (compareFw2051ScpConfiguration profile (preparedConfiguration live)).comparable = true := by
  obtain ⟨hversion, hprofile, hlive⟩ := comparable_iff.mp h.comparable
  exact comparable_iff.mpr ⟨hversion, hprofile, validScpConfiguration_prepared hlive⟩

/-- And the plan succeeds. -/
theorem StartupReady.success (h : StartupReady profile live) :
    (planFw2051ScpStandaloneStartup profile live).success = true := by
  have hcompared := compared_of_comparable h.comparable
  have hprepared := compared_of_comparable h.prepared_comparable
  have hbanked : (planFw2051ScpProfileApplication profile (preparedConfiguration live)).success =
      true := planProfileApplication_success h.prepared_comparable h.globals_eq fun quad hquad =>
    ⟨h.inRange quad hquad, h.couplings quad hquad⟩
  have hlength := (plannedApplication_of_success hbanked).length_eq
  have hcount := countP_differences hcompared hprepared h.globals_eq
  have hfold := foldlM_countStartupDifference
    (compareFw2051ScpConfiguration profile live).differences
    { valuesCompared := (compareFw2051ScpConfiguration profile live).valuesCompared
      configurationDifferences := (compareFw2051ScpConfiguration profile live).differences.length }
  unfold planFw2051ScpStandaloneStartup
  simp only [h.comparable, Bool.not_true, Bool.false_eq_true, if_false]
  rw [if_neg (by simp [h.profileHardware, h.liveHardware, hcompared.profileValid.firmware,
      hcompared.liveValid.firmware]),
    if_neg (by simp [h.irqLevel, h.outputFormat, requiredIrqLevel, requiredOutputFormat])]
  split
  -- a refused difference would be one the startup does not handle
  next refused heq =>
    rw [heq] at hfold
    obtain ⟨-, difference, hdifference, hunhandled⟩ := hfold
    exact absurd (h.handles difference hdifference) hunhandled
  -- the banked differences are the steps of the second plan, one for one
  next counted heq =>
    rw [heq] at hfold
    obtain ⟨-, -, hbankedCount⟩ := hfold
    have hsame : (planFw2051ScpProfileApplication profile
        (preparedConfiguration live)).request.steps.length = counted.bankedDifferences := by
      rw [hlength, hbankedCount, hcount]
      simp
    simp [hbanked, hsame]

/-- What a startup plan that succeeds has checked, and the banked plan it hands on. -/
theorem startupReady_of_success
    (h : (planFw2051ScpStandaloneStartup profile live).success = true) :
    StartupReady profile live ∧
      PlannedApplication profile (preparedConfiguration live)
        (planFw2051ScpStandaloneStartup profile live).bankedApplication.steps := by
  have hfold := foldlM_countStartupDifference
    (compareFw2051ScpConfiguration profile live).differences
    { valuesCompared := (compareFw2051ScpConfiguration profile live).valuesCompared
      configurationDifferences := (compareFw2051ScpConfiguration profile live).differences.length }
  generalize hplan : planFw2051ScpStandaloneStartup profile live = plan at h
  unfold planFw2051ScpStandaloneStartup at hplan
  simp only at hplan
  split at hplan
  · subst hplan; cases h
  next hcomparable =>
  split at hplan
  · subst hplan; cases h
  next hidentity =>
  split at hplan
  · subst hplan; cases h
  next hcontract =>
  split at hplan
  next refused heq =>
    rw [heq] at hfold
    rw [← hplan, hfold.1] at h
    cases h
  next counted heq =>
  rw [heq] at hfold
  split at hplan
  · rw [← hplan] at h
    exact absurd (hfold.2.1.symm.trans h) (by simp)
  next hbanked =>
  split at hplan
  · rw [← hplan] at h
    exact absurd (hfold.2.1.symm.trans h) (by simp)
  subst hplan
  have hcomparable : (compareFw2051ScpConfiguration profile live).comparable = true := by
    simpa using hcomparable
  have hbanked : (planFw2051ScpProfileApplication profile (preparedConfiguration live)).success =
      true := by simpa using hbanked
  have hquads := quadsAccepted_of_success hbanked
  simp only [not_or, not_not] at hidentity hcontract
  have hcompared := compared_of_comparable hcomparable
  refine ⟨⟨hcomparable, ?_, hidentity.1, hidentity.2.2.1, hcontract.1, hcontract.2,
    fun quad hquad => (hquads quad hquad).1, fun quad hquad => (hquads quad hquad).2⟩,
    plannedApplication_of_success hbanked⟩
  -- a base that differed would be a difference that the startup does not deal with
  by_contra hne
  have hunhandled := hfold.1 { quad := -1, hasRegister := false, registerOffset := 0
                               setting := "VME base"
                               profileValue := profile.configuration.baseAddress
                               liveValue := live.baseAddress, displayHexadecimal := true } (by
    rw [hcompared.differences_eq, List.mem_filter, List.mem_append]
    exact ⟨.inl List.mem_cons_self, by simpa using hne⟩)
  simp [StartupHandles] at hunhandled

end Startup

/-! ### The startup theorem -/

/-- The live configuration after the startup preparation and the steps of the plan. -/
def startedConfiguration (plan : ScpStandaloneStartupPlan)
    (liveConfiguration : Fw2051ScpConfigurationSnapshot) : Fw2051ScpConfigurationSnapshot :=
  { preparedConfiguration liveConfiguration with
    quads := applyScpSteps plan.bankedApplication.steps liveConfiguration.quads }

/-- A startup plan that succeeds leads to a configuration in which all 141 values equal the
profile's, and it succeeds for every pair that is ready for it. -/
theorem planFw2051ScpStandaloneStartup_reaches (profile : ScpProfile)
    (live : Fw2051ScpConfigurationSnapshot) :
    ((planFw2051ScpStandaloneStartup profile live).success = true →
      let comparison := compareFw2051ScpConfiguration profile
        (startedConfiguration (planFw2051ScpStandaloneStartup profile live) live)
      comparison.comparable = true ∧ comparison.valuesCompared = 141 ∧
        comparison.differences = []) ∧
    ((planFw2051ScpStandaloneStartup profile live).success = true ↔ StartupReady profile live) := by
  refine ⟨fun h => ?_, fun h => (startupReady_of_success h).1, StartupReady.success⟩
  obtain ⟨hready, hplanned⟩ := startupReady_of_success h
  obtain ⟨hversion, hprofile, hlive⟩ := comparable_iff.mp hready.comparable
  have hquads : (startedConfiguration (planFw2051ScpStandaloneStartup profile live) live).quads =
      profile.configuration.quads :=
    (applyScpSteps_eq hplanned : applyScpSteps _ (preparedConfiguration live).quads = _)
  have hstarted : ValidScpConfiguration
      (startedConfiguration (planFw2051ScpStandaloneStartup profile live) live) :=
    ⟨hlive.complete, hlive.parked, hlive.base_ne_zero, hlive.hardware, hlive.firmware, by
      rw [hquads]
      exact hprofile.numbered⟩
  obtain ⟨hcomparable, hvalues⟩ := compareFw2051ScpConfiguration_eq hversion hprofile hstarted
  refine ⟨hcomparable, hvalues, ?_⟩
  rw [(compared_of_comparable hcomparable).differences_eq, List.filter_eq_nil_iff]
  intro value hvalue
  -- the global values are equal by the plan's own check, the banked ones by its steps
  rcases List.mem_append.mp hvalue with hglobal | hbanked
  · simpa using hready.globals_eq value hglobal
  · obtain ⟨index, profileQuad, liveQuad, hp, hl, definition, -, rfl⟩ :=
      mem_bankedValues.mp hbanked
    rw [hquads, hp, Option.some.injEq] at hl
    rw [hl]
    simp [comparedBankedValue]

/-- Module-wide registers and both pairs of one quad differ. -/
theorem planFw2051ScpStandaloneStartup_reaches_example :
    let profile : ScpProfile := { exampleProfile with
      configuration := { exampleProfile.configuration with irqLevel := 1, outputFormat := 0x18 } }
    (planFw2051ScpStandaloneStartup profile (exampleSnapshot exampleQuads)).bankedDifferences = 4 ∧
      (compareFw2051ScpConfiguration profile (startedConfiguration
        (planFw2051ScpStandaloneStartup profile (exampleSnapshot exampleQuads))
        (exampleSnapshot exampleQuads))).differences = [] :=
  ⟨by decide +kernel, ((planFw2051ScpStandaloneStartup_reaches _ _).1 (by decide +kernel)).2.2⟩

end Fidget
