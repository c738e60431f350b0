import Fidget.Core.ScpTransactionPlan.Startup

/-!
# A profile that has been applied

A comparison finds no difference just when both sides hold the same values, and a plan that has been
carried out leaves nothing to plan: the profile compares equal to the module, and the next plan
succeeds without a step.

## Main results

- `compareFw2051ScpConfiguration_differences_iff`: no difference means the same values.
- `planFw2051ScpProfileApplication_reapplied`: a second application has nothing to do.
-/

namespace Fidget

section Reapplied

variable {profile : ScpProfile} {live : Fw2051ScpConfigurationSnapshot}

/-- Equal values do not differ. -/
theorem differences_eq_nil (h : ComparedConfigurations profile live)
    (hglobals : ∀ value ∈ comparedGlobalValues profile.configuration live,
      value.profileValue = value.liveValue)
    (hquads : profile.configuration.quads = live.quads) :
    (compareFw2051ScpConfiguration profile live).differences = [] := by
  rw [h.differences_eq, List.filter_eq_nil_iff]
  intro value hvalue
  rw [decide_eq_true_eq, not_not]
  rcases List.mem_append.mp hvalue with hglobal | hbanked
  · exact hglobals value hglobal
  · obtain ⟨index, quad, liveQuad, hquad, hliveQuad, definition, -, rfl⟩ :=
      mem_bankedValues.mp hbanked
    rw [hquads, hliveQuad, Option.some.injEq] at hquad
    rw [hquad]
    rfl

/-- A comparison that comes about finds no difference just when the two sides hold the same address,
identity, interrupt level and output format, and all the same in every quad. -/
theorem compareFw2051ScpConfiguration_differences_iff
    (h : (compareFw2051ScpConfiguration profile live).comparable = true) :
    (compareFw2051ScpConfiguration profile live).differences = [] ↔
      profile.configuration.baseAddress = live.baseAddress ∧
        profile.configuration.hardwareId = live.hardwareId ∧
        profile.configuration.firmwareRevision = live.firmwareRevision ∧
        profile.configuration.irqLevel = live.irqLevel ∧
        profile.configuration.outputFormat = live.outputFormat ∧
        profile.configuration.quads = live.quads := by
  have hcompared := compared_of_comparable h
  constructor
  · -- no compared value differs, and the quads have no other cells
    intro hnone
    rw [hcompared.differences_eq, List.filter_eq_nil_iff, List.forall_mem_append] at hnone
    simp only [decide_eq_true_eq, ne_eq, not_not] at hnone
    obtain ⟨hglobals, hbanked⟩ := hnone
    simp only [comparedGlobalValues, List.forall_mem_cons, UInt16.toUInt32_inj] at hglobals
    obtain ⟨hbase, hhardware, hfirmware, hirqLevel, houtputFormat, -⟩ := hglobals
    refine ⟨hbase, hhardware, hfirmware, hirqLevel, houtputFormat, ?_⟩
    apply quads_eq_of_bankOf_eq hcompared.profileValid.numbered hcompared.liveValid.numbered
    intro index hindex registerOffset hregister
    obtain ⟨definition, hdefinition, rfl⟩ := List.mem_map.mp hregister
    have hquad := List.getElem?_eq_getElem
      (hcompared.profileValid.numbered.length_eq.symm ▸ hindex)
    have hliveQuad := List.getElem?_eq_getElem
      (hcompared.liveValid.numbered.length_eq.symm ▸ hindex)
    have hsame := hbanked _ (mem_bankedValues.mpr
      ⟨index, _, _, hquad, hliveQuad, definition, hdefinition, rfl⟩)
    unfold bankOf
    rw [hquad, hliveQuad, Option.bind_some, Option.bind_some, quadRegisterValue_eq_some hregister,
      quadRegisterValue_eq_some hregister, UInt16.toUInt32_inj.mp hsame]
  · -- what is equal has no difference
    rintro ⟨hbase, hhardware, hfirmware, hirqLevel, houtputFormat, hquads⟩
    apply differences_eq_nil hcompared _ hquads
    intro value hvalue
    simp only [comparedGlobalValues, List.mem_cons, List.not_mem_nil, or_false] at hvalue
    rcases hvalue with rfl | rfl | rfl | rfl | rfl
    · exact hbase
    · exact congrArg UInt16.toUInt32 hhardware
    · exact congrArg UInt16.toUInt32 hfirmware
    · exact congrArg UInt16.toUInt32 hirqLevel
    · exact congrArg UInt16.toUInt32 houtputFormat

theorem compareFw2051ScpConfiguration_differences_iff_example :
    (compareFw2051ScpConfiguration exampleProfile exampleProfile.configuration).differences = [] :=
  (compareFw2051ScpConfiguration_differences_iff (by decide +kernel)).mpr
    ⟨rfl, rfl, rfl, rfl, rfl, rfl⟩

/-- A plan is refused over any value that is not banked. -/
theorem PlannedApplication.globals_eq {steps : List ScpProfileApplicationStep}
    (h : PlannedApplication profile live steps) :
    ∀ value ∈ comparedGlobalValues profile.configuration live,
      value.profileValue = value.liveValue := by
  intro value hvalue
  by_contra hne
  have hdifference : value ∈ (compareFw2051ScpConfiguration profile live).differences := by
    rw [h.compared.differences_eq, List.mem_filter]
    exact ⟨List.mem_append_left _ hvalue, decide_eq_true hne⟩
  have hobstacle := h.noObstacle value hdifference
  have hquad : value.quad = -1 := by
    simp only [comparedGlobalValues, List.mem_cons, List.not_mem_nil, or_false] at hvalue
    rcases hvalue with rfl | rfl | rfl | rfl | rfl
    all_goals rfl
  unfold differenceObstacle at hobstacle
  simp [hquad] at hobstacle

/-- The module once every step of a plan has been written. -/
def appliedConfiguration (profile : ScpProfile) (live : Fw2051ScpConfigurationSnapshot) :
    Fw2051ScpConfigurationSnapshot :=
  { live with
    quads := applyScpSteps (planFw2051ScpProfileApplication profile live).request.steps live.quads }

/-- Behind a plan that succeeds nothing differs any more, and the same plan again succeeds and has
nothing to write. -/
theorem planFw2051ScpProfileApplication_reapplied
    (h : (planFw2051ScpProfileApplication profile live).success = true) :
    (compareFw2051ScpConfiguration profile (appliedConfiguration profile live)).differences = [] ∧
      (planFw2051ScpProfileApplication profile (appliedConfiguration profile live)).success = true ∧
      (planFw2051ScpProfileApplication profile
        (appliedConfiguration profile live)).request.steps = [] := by
  have hplanned := plannedApplication_of_success h
  have hquads : (appliedConfiguration profile live).quads = profile.configuration.quads :=
    applyScpSteps_eq hplanned
  have hlive := hplanned.compared.liveValid
  have hvalid : ValidScpConfiguration (appliedConfiguration profile live) :=
    ⟨hlive.complete, hlive.parked, hlive.base_ne_zero, hlive.hardware, hlive.firmware,
      numberedQuads_applyScpSteps _ hlive.numbered⟩
  have hcomparable : (compareFw2051ScpConfiguration profile
      (appliedConfiguration profile live)).comparable = true :=
    comparable_iff.mpr ⟨hplanned.compared.version, hplanned.compared.profileValid, hvalid⟩
  have hdifferences := differences_eq_nil (compared_of_comparable hcomparable) hplanned.globals_eq
    hquads.symm
  have hsuccess := planProfileApplication_success hcomparable hplanned.globals_eq
    (quadsAccepted_of_success h)
  refine ⟨hdifferences, hsuccess, ?_⟩
  have hlength := (plannedApplication_of_success hsuccess).length_eq
  rw [hdifferences] at hlength
  exact List.length_eq_zero_iff.mp hlength

theorem planFw2051ScpProfileApplication_reapplied_example :
    (planFw2051ScpProfileApplication exampleProfile
      (exampleSnapshot exampleQuads)).request.steps.length = 4 ∧
    (planFw2051ScpProfileApplication exampleProfile
      (appliedConfiguration exampleProfile (exampleSnapshot exampleQuads))).request.steps = [] :=
  ⟨by decide +kernel, (planFw2051ScpProfileApplication_reapplied (by decide +kernel)).2.2⟩

end Reapplied

end Fidget
