import Fidget.Core.ScpTransactionPlan
import Fidget.Lib.WritePlan

/-!
# A plan reaches its profile without passing through a forbidden pair

The list of quads is read as a file of cells indexed by quad and register (`bankOf`), and a step as
a write to one cell. Through that reading the plan is a plan in the sense of `Lib.WritePlan`: no
cell is written twice, every write finds the live value it expects, and the coupling of two
registers depends only on the one or two writes that touch them.

The quads of a snapshot are read as a file of cells, one for each register of each quad, and the
steps of a plan as writes to these cells. In this form the plan is an instance of `Lib.WritePlan`:
every cell is visited once, in an order that the plan chooses, and gets a write if it differs. What
is then left to show is that the order keeps the two couplings.

## Main results

- `bankOf`: the quads as a file of cells.
- `PlannedApplication`: the shape of a plan that succeeds.
- `cells_nodup`, `step_values`, `exists_step`: one write for each difference, and no other.
- `applyScpSteps_eq`: after all steps the quads are those of the profile.
- `couplingsHold_iff`: the couplings as relations between two cells.
-/

namespace Fidget

open WritePlan

/-! ### Quads as a file of cells

Eight quads that are numbered in order are determined by what their cells hold, so an equation
between quads can be proved cell by cell. -/

/-- Write one register of the quad at `index`, as the request validation does. -/
def writeQuads (quads : List Fw2051ScpQuadConfiguration) (index : Nat)
    (registerOffset value : UInt16) : List Fw2051ScpQuadConfiguration :=
  quads.modify index fun quad => (setFw2051ScpQuadRegisterValue quad registerOffset value).getD quad

/-- The value of a cell, if there is one. -/
def bankOf (quads : List Fw2051ScpQuadConfiguration) (cell : BankCell) : Option UInt16 :=
  quads[cell.1]?.bind fun quad => fw2051ScpQuadRegisterValue quad cell.2

theorem length_writeQuads (quads : List Fw2051ScpQuadConfiguration) (index : Nat) (r v : UInt16) :
    (writeQuads quads index r v).length = quads.length := List.length_modify ..

/-- A write to a quad is a write to a cell. -/
theorem bankOf_writeQuads {quads : List Fw2051ScpQuadConfiguration} {index : Nat} {r : UInt16}
    (hi : index < quads.length) (hr : r ∈ scpRegisterOffsets) (v : UInt16) :
    bankOf (writeQuads quads index r v) = Function.update (bankOf quads) (index, r) (some v) := by
  funext ⟨i, r'⟩
  obtain ⟨quad', hquad'⟩ : ∃ quad', setFw2051ScpQuadRegisterValue quads[index] r v = some quad' :=
    Option.isSome_iff_exists.mp (setQuadRegisterValue_isSome.mpr hr)
  by_cases hii : i = index
  · subst hii
    have hget : (writeQuads quads i r v)[i]? = some quad' := by
      rw [writeQuads, List.getElem?_modify_eq, List.getElem?_eq_getElem hi]
      simp [hquad']
    simp only [bankOf, hget, Option.bind_some, quadRegisterValue_set hquad', Function.update_apply,
      Prod.mk.injEq, true_and, List.getElem?_eq_getElem hi]
  · have hget : (writeQuads quads index r v)[i]? = quads[i]? := by
      rw [writeQuads, List.getElem?_modify_ne _ _ (Ne.symm hii)]
    simp only [bankOf, hget, Function.update_apply, Prod.mk.injEq, hii, false_and, if_false]

/-- A write does not renumber the quads. -/
theorem numberedQuads_writeQuads {quads : List Fw2051ScpQuadConfiguration} (h : NumberedQuads quads)
    (index : Nat) (r v : UInt16) : NumberedQuads (writeQuads quads index r v) := by
  refine ⟨(length_writeQuads ..).trans h.length_eq, fun i hi => ?_⟩
  have hi' : i < quads.length := by rwa [length_writeQuads] at hi
  by_cases hii : index = i
  · subst hii
    simp only [writeQuads, List.getElem_modify_eq]
    cases hset : setFw2051ScpQuadRegisterValue quads[index] r v with
    | none => exact h.quad_eq index hi'
    | some quad' =>
        rw [Option.getD_some, quad_setQuadRegisterValue hset]
        exact h.quad_eq index hi'
  · simp only [writeQuads, List.getElem_modify_ne _ _ hii]
    exact h.quad_eq i hi'

/-- Eight numbered quads are determined by their cells. -/
theorem quads_eq_of_bankOf_eq {quads quads' : List Fw2051ScpQuadConfiguration}
    (h : NumberedQuads quads) (h' : NumberedQuads quads')
    (hbank : ∀ index < 8, ∀ r ∈ scpRegisterOffsets, bankOf quads (index, r) = bankOf quads' (index, r)) :
    quads = quads' := by
  refine List.ext_getElem (h.length_eq.trans h'.length_eq.symm) fun i hi hi' => ?_
  refine quadConfiguration_ext ?_ fun r hr => ?_
  · exact UInt16.toNat.inj ((h.quad_eq i hi).trans (h'.quad_eq i hi').symm)
  · have := hbank i (h.length_eq ▸ hi) r hr
    simpa [bankOf, List.getElem?_eq_getElem hi, List.getElem?_eq_getElem hi'] using this

/-! ### Steps as writes

A step names a quad, a register, the value that is expected and the one that is to be written.
Undone, it writes the expected value back. -/

/-- The quads after the steps. -/
def applyScpSteps (steps : List ScpProfileApplicationStep)
    (quads : List Fw2051ScpQuadConfiguration) : List Fw2051ScpQuadConfiguration :=
  steps.foldl (fun quads step =>
    writeQuads quads step.quad.toNat step.registerOffset step.profileValue) quads

/-- Write the expected values back, in the order of the given steps. -/
def rollbackScpSteps (steps : List ScpProfileApplicationStep)
    (quads : List Fw2051ScpQuadConfiguration) : List Fw2051ScpQuadConfiguration :=
  steps.foldl (fun quads step =>
    writeQuads quads step.quad.toNat step.registerOffset step.expectedValue) quads

/-- A step as a write in the sense of `Lib.WritePlan`. -/
def ScpProfileApplicationStep.write (step : ScpProfileApplicationStep) :
    Write BankCell (Option UInt16) :=
  ⟨(step.quad.toNat, step.registerOffset), some step.expectedValue, some step.profileValue⟩

/-- The step names a register that exists. -/
def ScpProfileApplicationStep.InBank (step : ScpProfileApplicationStep) : Prop :=
  step.quad.toNat < 8 ∧ step.registerOffset ∈ scpRegisterOffsets

theorem numberedQuads_applyScpSteps (steps : List ScpProfileApplicationStep)
    {quads : List Fw2051ScpQuadConfiguration} (h : NumberedQuads quads) :
    NumberedQuads (applyScpSteps steps quads) := by
  induction steps generalizing quads with
  | nil => exact h
  | cons step steps ih => exact ih (numberedQuads_writeQuads h ..)

theorem numberedQuads_rollbackScpSteps (steps : List ScpProfileApplicationStep)
    {quads : List Fw2051ScpQuadConfiguration} (h : NumberedQuads quads) :
    NumberedQuads (rollbackScpSteps steps quads) := by
  induction steps generalizing quads with
  | nil => exact h
  | cons step steps ih => exact ih (numberedQuads_writeQuads h ..)

/-- Carrying out the steps is carrying out the writes. -/
theorem bankOf_applyScpSteps {steps : List ScpProfileApplicationStep}
    (hsteps : ∀ step ∈ steps, step.InBank) {quads : List Fw2051ScpQuadConfiguration}
    (h : NumberedQuads quads) :
    bankOf (applyScpSteps steps quads) = applyAll (steps.map (·.write)) (bankOf quads) := by
  induction steps generalizing quads with
  | nil => rfl
  | cons step steps ih =>
      obtain ⟨hq, hr⟩ := hsteps step List.mem_cons_self
      rw [applyScpSteps, List.foldl_cons, ← applyScpSteps,
        ih (fun s hs => hsteps s (List.mem_cons_of_mem _ hs)) (numberedQuads_writeQuads h ..),
        bankOf_writeQuads (h.length_eq ▸ hq) hr]
      rfl

/-- Undoing the steps is undoing the writes. -/
theorem bankOf_rollbackScpSteps {steps : List ScpProfileApplicationStep}
    (hsteps : ∀ step ∈ steps, step.InBank) {quads : List Fw2051ScpQuadConfiguration}
    (h : NumberedQuads quads) :
    bankOf (rollbackScpSteps steps quads) = revertAll (steps.map (·.write)) (bankOf quads) := by
  induction steps generalizing quads with
  | nil => rfl
  | cons step steps ih =>
      obtain ⟨hq, hr⟩ := hsteps step List.mem_cons_self
      rw [rollbackScpSteps, List.foldl_cons, ← rollbackScpSteps,
        ih (fun s hs => hsteps s (List.mem_cons_of_mem _ hs)) (numberedQuads_writeQuads h ..),
        bankOf_writeQuads (h.length_eq ▸ hq) hr]
      rfl

/-! ### What a successful plan has checked

The source checks the snapshot, the profile and every value before it makes a step. All that the
other sections need of these checks is collected in `PlannedApplication`. -/

/-- Both couplings of a quad hold. -/
def CouplingsHold (quad : Fw2051ScpQuadConfiguration) : Prop :=
  quad.timingFilter ≤ quad.shapingTime ∧ quad.preSamples < quad.totalSamples

instance : DecidablePred CouplingsHold := fun quad =>
  inferInstanceAs (Decidable (quad.timingFilter ≤ quad.shapingTime ∧
    quad.preSamples < quad.totalSamples))

/-- What a plan that succeeds has checked on its way. -/
structure PlannedApplication (profile : ScpProfile) (live : Fw2051ScpConfigurationSnapshot)
    (steps : List ScpProfileApplicationStep) : Prop where
  compared : ComparedConfigurations profile live
  noObstacle : ∀ difference ∈ (compareFw2051ScpConfiguration profile live).differences,
    differenceObstacle difference = none
  targetsHold : ∀ quad ∈ profile.configuration.quads, CouplingsHold quad
  planned : planSteps (compareFw2051ScpConfiguration profile live).differences live.quads
    profile.configuration.quads = .ok steps
  length_eq : steps.length = (compareFw2051ScpConfiguration profile live).differences.length

/-- A profile that is accepted keeps its couplings. -/
theorem couplingsHold_of_profileQuadObstacle {index : Nat} {quad : Fw2051ScpQuadConfiguration}
    (h : profileQuadObstacle index quad = none) : CouplingsHold quad := by
  unfold profileQuadObstacle at h
  split at h
  · cases h
  split at h
  · cases h
  split at h
  · cases h
  next htiming hsamples =>
    exact ⟨UInt16.not_lt.mp htiming, UInt16.not_le.mp hsamples⟩

/-- What a plan that succeeds guarantees. -/
theorem plannedApplication_of_success {profile : ScpProfile}
    {live : Fw2051ScpConfigurationSnapshot}
    (h : (planFw2051ScpProfileApplication profile live).success = true) :
    PlannedApplication profile live (planFw2051ScpProfileApplication profile live).request.steps := by
  generalize hplan : planFw2051ScpProfileApplication profile live = plan at h
  unfold planFw2051ScpProfileApplication at hplan
  simp only at hplan
  split at hplan
  · subst hplan; cases h
  next hcomparable =>
  split at hplan
  · subst hplan; cases h
  next hdifferences =>
  split at hplan
  · subst hplan; cases h
  next htargets =>
  split at hplan
  · subst hplan; cases h
  next steps hsteps =>
  split at hplan
  · subst hplan; cases h
  next hlength =>
  subst hplan
  -- the five refusals are passed
  refine ⟨compared_of_comparable (by simpa using hcomparable), List.findSome?_eq_none_iff.mp hdifferences,
    fun quad hquad => ?_, hsteps, not_not.mp hlength⟩
  obtain ⟨index, hindex⟩ := List.mem_iff_getElem?.mp hquad
  exact couplingsHold_of_profileQuadObstacle
    (List.findSome?_eq_none_iff.mp htargets (quad, index) (List.mem_zipIdx_iff_getElem?.mpr hindex))

/-! ### The steps, register by register -/

/-- The step that takes one register of the quad at `index` from `live` to `target`. -/
def plannedStep (index : Nat) (live target : Fw2051ScpQuadConfiguration)
    (definition : Fw2051ScpSettingDefinition) : ScpProfileApplicationStep :=
  { quad := index
    registerOffset := definition.registerOffset
    settingName := definition.name
    expectedValue := registerOrZero live definition.registerOffset
    profileValue := registerOrZero target definition.registerOffset
    displayHexadecimal := definition.registerOffset == 0x614A }

section Planned

variable {profile : ScpProfile} {live : Fw2051ScpConfigurationSnapshot}
  {index : Nat} {liveQuad target : Fw2051ScpQuadConfiguration}

/-- A register gets a step exactly when it differs, and then the step from the live value to the
profile's. -/
theorem addDifferenceStep_eq (h : ComparedConfigurations profile live)
    (hlive : live.quads[index]? = some liveQuad)
    (htarget : profile.configuration.quads[index]? = some target)
    {definition : Fw2051ScpSettingDefinition} (hd : definition ∈ fw2051ScpSettingRegistry) :
    addDifferenceStep (compareFw2051ScpConfiguration profile live).differences index
        definition.registerOffset =
      if registerOrZero liveQuad definition.registerOffset =
          registerOrZero target definition.registerOffset then []
      else [plannedStep index liveQuad target definition] := by
  set value := comparedBankedValue index definition (registerOrZero target definition.registerOffset)
    (registerOrZero liveQuad definition.registerOffset) with hvalue
  have hmem : value ∈ bankedValues profile.configuration live :=
    mem_bankedValues.mpr ⟨index, target, liveQuad, htarget, hlive, definition, hd, rfl⟩
  -- Quad index and register determine the compared value: there is nothing else to find.
  have hunique : ∀ d ∈ (compareFw2051ScpConfiguration profile live).differences,
      (d.quad == (index : Int) && d.hasRegister &&
        d.registerOffset == definition.registerOffset.toUInt32) = true →
      d = value ∧ d.profileValue ≠ d.liveValue := by
    intro d hdiff hp
    simp only [Bool.and_eq_true, beq_iff_eq] at hp
    obtain ⟨⟨hquad, -⟩, hreg⟩ := hp
    rw [h.differences_eq, List.mem_filter, List.mem_append] at hdiff
    obtain ⟨hd' | hd', hne⟩ := hdiff
    · simp only [comparedGlobalValues, List.mem_cons, List.not_mem_nil, or_false] at hd'
      rcases hd' with rfl | rfl | rfl | rfl | rfl <;> simp at hquad
    · obtain ⟨i, p, l, hpi, hli, definition', hdef', rfl⟩ := mem_bankedValues.mp hd'
      have hquad : i = index := by
        simpa only [comparedBankedValue, Int.natCast_inj] using hquad
      subst hquad
      rw [htarget, Option.some.injEq] at hpi
      rw [hlive, Option.some.injEq] at hli
      subst hpi hli
      have hoff : definition'.registerOffset = definition.registerOffset :=
        UInt16.toUInt32_inj.mp hreg
      have hsame := findFw2051ScpSetting_registerOffset hdef'
      rw [hoff, findFw2051ScpSetting_registerOffset hd, Option.some.injEq] at hsame
      subst hsame
      exact ⟨rfl, by simpa using hne⟩
  unfold addDifferenceStep
  split
  · next hnone =>
    rw [if_pos]
    by_contra hne
    refine List.find?_eq_none.mp hnone value ?_ (by simp [hvalue, comparedBankedValue])
    rw [h.differences_eq, List.mem_filter]
    refine ⟨List.mem_append_right _ hmem, ?_⟩
    simpa [hvalue, comparedBankedValue, UInt16.toUInt32_inj] using Ne.symm hne
  · next found hfound =>
    obtain ⟨rfl, hne⟩ := hunique found (List.mem_of_find?_eq_some hfound)
      (by simpa using List.find?_some hfound)
    have hne' : ¬ registerOrZero liveQuad definition.registerOffset =
        registerOrZero target definition.registerOffset := by
      intro e
      exact hne (by simp [hvalue, comparedBankedValue, e])
    rw [if_neg hne']
    simp [hvalue, comparedBankedValue, plannedStep]

/-- The same for a register given by its offset, the step read as a write. -/
theorem map_write_addDifferenceStep (h : ComparedConfigurations profile live) (hi : index < 8)
    {r : UInt16} (hr : r ∈ scpRegisterOffsets) :
    (addDifferenceStep (compareFw2051ScpConfiguration profile live).differences index r).map
        (·.write) =
      Write.ifNeeded ⟨(index, r), bankOf live.quads (index, r),
        bankOf profile.configuration.quads (index, r)⟩ := by
  have hlive := List.getElem?_eq_getElem (h.liveValid.numbered.length_eq.symm ▸ hi)
  have htarget := List.getElem?_eq_getElem (h.profileValid.numbered.length_eq.symm ▸ hi)
  obtain ⟨definition, hd, rfl⟩ := List.mem_map.mp hr
  rw [addDifferenceStep_eq h hlive htarget hd]
  simp only [bankOf, hlive, htarget, Option.bind_some, quadRegisterValue_eq_some hr,
    Write.ifNeeded, Option.some.injEq]
  split
  · rfl
  · rfl

end Planned

/-! ### The order of a quad's registers

The source goes through the registers in the order of the registry, except that the two coupled
pairs come in an order that depends on the values. `quadWriteOrder` is that order, as a permutation
of the registry. -/

/-- Which of the two is first, for a pair that is planned. -/
theorem registerOffsets_of_success {c b current target targetBoundary : UInt16}
    {constrained : Fw2051ScpSettingDefinition} (hc : findFw2051ScpSetting c = some constrained)
    (h : (planFw2051ScpCoupledWriteOrder c b current target targetBoundary).success = true) :
    (planFw2051ScpCoupledWriteOrder c b current target targetBoundary).registerOffsets =
      if fw2051ScpDependencySatisfied constrained target current then [c, b] else [b, c] := by
  unfold planFw2051ScpCoupledWriteOrder at h ⊢
  rw [hc] at h ⊢
  cases hb : findFw2051ScpSetting b with
  | none => rw [hb] at h; cases h
  | some boundary =>
      rw [hb] at h
      simp only at h ⊢
      -- Four refusals come first, each without success.
      iterate 4 (split at h; · cases h)
      next h₁ h₂ h₃ h₄ =>
        rw [if_neg h₁, if_neg h₂, if_neg h₃, if_neg h₄]
        split <;> rfl

/-- The registers of a quad in the order in which its plan visits them. -/
def quadWriteOrder (live target : Fw2051ScpQuadConfiguration) : List UInt16 :=
  fw2051ScpIndependentRegisterOrder
    ++ (if target.timingFilter ≤ live.shapingTime then [0x6110, 0x6124] else [0x6124, 0x6110])
    ++ (if target.preSamples < live.totalSamples then [0x6146, 0x6148] else [0x6148, 0x6146])

/-- The steps of a quad, in the order of its registers. -/
theorem planQuadSteps_eq_ok {differences : List ScpConfigurationDifference} {index : Nat}
    {live target : Fw2051ScpQuadConfiguration} {steps : List ScpProfileApplicationStep}
    (h : planQuadSteps differences index live target = .ok steps) :
    steps = (quadWriteOrder live target).flatMap (addDifferenceStep differences index) := by
  unfold planQuadSteps at h
  simp only at h
  split at h
  · cases h
  split at h
  · cases h
  next htiming hsamples =>
    have htiming := registerOffsets_of_success
      (show findFw2051ScpSetting 0x6110 = some fw2051ScpSettingRegistry[0] from rfl)
      (by simpa using htiming)
    have hsamples := registerOffsets_of_success
      (show findFw2051ScpSetting 0x6146 = some fw2051ScpSettingRegistry[14] from rfl)
      (by simpa using hsamples)
    rw [htiming, hsamples] at h
    have hdep : ∀ c b, (fw2051ScpDependencySatisfied fw2051ScpSettingRegistry[0] c b = true) = (c ≤ b) :=
      fun _ _ => decide_eq_true_eq
    have hdep' : ∀ c b, (fw2051ScpDependencySatisfied fw2051ScpSettingRegistry[14] c b = true) = (c < b) :=
      fun _ _ => decide_eq_true_eq
    simp only [hdep, hdep'] at h
    exact (Except.ok.inj h).symm

/-- The plan visits every register of a quad once. -/
theorem quadWriteOrder_perm (live target : Fw2051ScpQuadConfiguration) :
    (quadWriteOrder live target).Perm scpRegisterOffsets := by
  unfold quadWriteOrder
  split <;> split <;> decide

/-- The order of timing filter and shaping time. -/
theorem quadWriteOrder_filter_timing (live target : Fw2051ScpQuadConfiguration) :
    (quadWriteOrder live target).filter (fun r => r == 0x6110 || r == 0x6124) =
      if target.timingFilter ≤ live.shapingTime then [0x6110, 0x6124] else [0x6124, 0x6110] := by
  unfold quadWriteOrder
  split <;> split <;> decide

/-- The order of the two sample counts. -/
theorem quadWriteOrder_filter_samples (live target : Fw2051ScpQuadConfiguration) :
    (quadWriteOrder live target).filter (fun r => r == 0x6146 || r == 0x6148) =
      if target.preSamples < live.totalSamples then [0x6146, 0x6148] else [0x6148, 0x6146] := by
  unfold quadWriteOrder
  split <;> split <;> decide

/-! ### The whole plan

From one quad to all eight. No cell is written twice, so after the plan every cell holds what its
one step has written, or what it held before. -/

/-- The cells of all quads in the order in which the plan visits them. -/
def planCells (liveQuads targetQuads : List Fw2051ScpQuadConfiguration) : List BankCell :=
  (liveQuads.zip targetQuads).zipIdx.flatMap fun ((live, target), index) =>
    (quadWriteOrder live target).map fun r => (index, r)

/-- Every cell of every quad is visited. -/
theorem mem_planCells {liveQuads targetQuads : List Fw2051ScpQuadConfiguration}
    (hlength : liveQuads.length = targetQuads.length) {cell : BankCell} :
    cell ∈ planCells liveQuads targetQuads ↔
      cell.1 < liveQuads.length ∧ cell.2 ∈ scpRegisterOffsets := by
  unfold planCells
  rw [List.mem_flatMap]
  constructor
  · rintro ⟨⟨⟨live, target⟩, index⟩, hx, hcell⟩
    obtain ⟨r, hr, rfl⟩ := List.mem_map.mp hcell
    have hindex := List.mem_zipIdx_iff_getElem?.mp hx
    obtain ⟨hlt, -⟩ := List.getElem?_eq_some_iff.mp (List.getElem?_zip_eq_some.mp hindex).1
    exact ⟨hlt, (quadWriteOrder_perm live target).mem_iff.mp hr⟩
  · obtain ⟨index, r⟩ := cell
    rintro ⟨hi, hr⟩
    have hi' : index < targetQuads.length := by rwa [← hlength]
    refine ⟨((liveQuads[index], targetQuads[index]), index), ?_, ?_⟩
    · rw [List.mem_zipIdx_iff_getElem?, List.getElem?_zip_eq_some]
      exact ⟨List.getElem?_eq_getElem hi, List.getElem?_eq_getElem hi'⟩
    · exact List.mem_map.mpr ⟨r, (quadWriteOrder_perm _ _).mem_iff.mpr hr, rfl⟩

/-- And it is visited once. -/
theorem planCells_nodup (liveQuads targetQuads : List Fw2051ScpQuadConfiguration) :
    (planCells liveQuads targetQuads).Nodup := by
  unfold planCells
  rw [List.nodup_flatMap]
  constructor
  · rintro ⟨⟨live, target⟩, index⟩ -
    have hnodup := (quadWriteOrder_perm live target).nodup_iff.mpr scpRegisterOffsets_nodup
    exact hnodup.map fun r r' h => (Prod.ext_iff.mp h).2
  · -- Cells of different quads differ in their index.
    have hne : ((liveQuads.zip targetQuads).zipIdx).Pairwise fun x y => x.2 ≠ y.2 := by
      have hnodup : (List.range' 0 (liveQuads.zip targetQuads).length).Nodup :=
        List.nodup_range' ..
      rw [← List.zipIdx_map_snd 0 (liveQuads.zip targetQuads), List.Nodup, List.pairwise_map]
        at hnodup
      exact hnodup
    refine hne.imp fun {x y} hxy cell hx hy => ?_
    obtain ⟨_, -, rfl⟩ := List.mem_map.mp hx
    obtain ⟨_, -, e⟩ := List.mem_map.mp hy
    exact hxy (Prod.ext_iff.mp e).1.symm

/-- Restricted to some registers of one quad, the plan visits those in the quad's own order. -/
theorem planCells_filter {liveQuads targetQuads : List Fw2051ScpQuadConfiguration} {index : Nat}
    {live target : Fw2051ScpQuadConfiguration} (hlive : liveQuads[index]? = some live)
    (htarget : targetQuads[index]? = some target) (p : UInt16 → Bool) :
    (planCells liveQuads targetQuads).filter (fun cell => cell.1 == index && p cell.2) =
      ((quadWriteOrder live target).filter p).map fun r => (index, r) := by
  have hblock : ∀ x : (Fw2051ScpQuadConfiguration × Fw2051ScpQuadConfiguration) × Nat,
      ((quadWriteOrder x.1.1 x.1.2).map fun r => (x.2, r)).filter
          (fun cell => cell.1 == index && p cell.2) =
        if x.2 = 0 + index then
          ((quadWriteOrder x.1.1 x.1.2).filter p).map fun r => (index, r)
        else [] := by
    rintro ⟨⟨l, t⟩, i⟩
    rw [List.filter_map]
    by_cases hi : i = index
    · subst hi
      simp [Function.comp_def]
    · simp [Function.comp_def, hi]
  unfold planCells
  rw [List.filter_flatMap]
  simp only [hblock]
  rw [Lists.flatMap_zipIdx_ite (liveQuads.zip targetQuads)
    (fun x => ((quadWriteOrder x.1 x.2).filter p).map fun r => (index, r)) index 0,
    (List.getElem?_zip_eq_some (z := (live, target))).mpr ⟨hlive, htarget⟩]
  rfl

theorem mem_addDifferenceStep {differences : List ScpConfigurationDifference} {quad : Int}
    {r : UInt16} {step : ScpProfileApplicationStep}
    (h : step ∈ addDifferenceStep differences quad r) : step.quad = quad ∧ step.registerOffset = r := by
  unfold addDifferenceStep at h
  split at h
  · cases h
  next found hfound =>
    obtain rfl := List.mem_singleton.mp h
    have hp := List.find?_some hfound
    simp only [Bool.and_eq_true, beq_iff_eq] at hp
    exact ⟨hp.1.1, rfl⟩

section Safe

variable {profile : ScpProfile} {live : Fw2051ScpConfigurationSnapshot}
  {steps : List ScpProfileApplicationStep}

/-- The steps, quad by quad. -/
theorem steps_eq (h : PlannedApplication profile live steps) :
    steps = (live.quads.zip profile.configuration.quads).zipIdx.flatMap fun ((l, t), index) =>
      (quadWriteOrder l t).flatMap
        (addDifferenceStep (compareFw2051ScpConfiguration profile live).differences index) := by
  have hplanned := h.planned
  unfold planSteps at hplanned
  cases hmap : (live.quads.zip profile.configuration.quads).zipIdx.mapM fun ((l, t), index) =>
      planQuadSteps (compareFw2051ScpConfiguration profile live).differences index l t with
  | error message => rw [hmap] at hplanned; cases hplanned
  | ok quads =>
      rw [hmap] at hplanned
      obtain rfl : quads.flatten = steps := Except.ok.inj hplanned
      rw [Lists.eq_map_of_mapM_eq_ok hmap fun _ _ hx => planQuadSteps_eq_ok hx]
      rfl

theorem step_cell (h : PlannedApplication profile live steps) {step : ScpProfileApplicationStep}
    (hstep : step ∈ steps) : ∃ index : ℕ, index < 8 ∧ step.quad = (index : Int) ∧
      step.registerOffset ∈ scpRegisterOffsets := by
  rw [steps_eq h, List.mem_flatMap] at hstep
  obtain ⟨⟨⟨l, t⟩, index⟩, hx, hstep⟩ := hstep
  obtain ⟨r, hr, hstep⟩ := List.mem_flatMap.mp hstep
  obtain ⟨hquad, rfl⟩ := mem_addDifferenceStep hstep
  have hindex := (List.getElem?_zip_eq_some.mp (List.mem_zipIdx_iff_getElem?.mp hx)).1
  obtain ⟨hlt, -⟩ := List.getElem?_eq_some_iff.mp hindex
  have hlength := h.compared.liveValid.numbered.length_eq
  exact ⟨index, by omega, hquad, (quadWriteOrder_perm l t).mem_iff.mp hr⟩

/-- A plan writes to cells only. -/
theorem inBank_of_planned (h : PlannedApplication profile live steps) :
    ∀ step ∈ steps, step.InBank := by
  intro step hstep
  obtain ⟨index, hi, hquad, hr⟩ := step_cell h hstep
  exact ⟨by omega, hr⟩

/-- Read as writes, the steps are the plan between the live cells and the profile's. -/
theorem map_write_steps (h : PlannedApplication profile live steps) :
    steps.map (·.write) = planBetween (bankOf live.quads) (bankOf profile.configuration.quads)
      (planCells live.quads profile.configuration.quads) := by
  conv_lhs => rw [steps_eq h]
  unfold planBetween planCells
  rw [List.map_flatMap, List.flatMap_assoc]
  refine List.flatMap_congr fun x hx => ?_
  obtain ⟨⟨l, t⟩, index⟩ := x
  have hindex := (List.getElem?_zip_eq_some.mp (List.mem_zipIdx_iff_getElem?.mp hx)).1
  obtain ⟨hlt, -⟩ := List.getElem?_eq_some_iff.mp hindex
  have hlength := h.compared.liveValid.numbered.length_eq
  rw [List.map_flatMap, List.flatMap_map]
  refine List.flatMap_congr fun r hr => ?_
  exact map_write_addDifferenceStep h.compared (by omega)
    ((quadWriteOrder_perm l t).mem_iff.mp hr)

/-- No cell is written twice. -/
theorem cells_nodup (h : PlannedApplication profile live steps) :
    (steps.map fun step => (step.quad, step.registerOffset)).Nodup := by
  have hkeys := nodup_keys_planBetween (f := bankOf live.quads)
    (g := bankOf profile.configuration.quads)
    (planCells_nodup live.quads profile.configuration.quads)
  rw [← map_write_steps h, List.map_map] at hkeys
  refine List.Nodup.of_map (fun cell : Int × UInt16 => (cell.1.toNat, cell.2)) ?_
  rw [List.map_map]
  exact hkeys

/-- A step expects the live value and writes that of the profile. -/
theorem step_values (h : PlannedApplication profile live steps) {step : ScpProfileApplicationStep}
    (hstep : step ∈ steps) :
    bankOf live.quads (step.quad.toNat, step.registerOffset) = some step.expectedValue ∧
    bankOf profile.configuration.quads (step.quad.toNat, step.registerOffset)
      = some step.profileValue ∧
    step.expectedValue ≠ step.profileValue := by
  have hwrite : step.write ∈ steps.map (·.write) := List.mem_map_of_mem hstep
  rw [map_write_steps h, mem_planBetween] at hwrite
  obtain ⟨-, hbefore, hafter, hne⟩ := hwrite
  rw [← hbefore, ← hafter] at hne
  exact ⟨hbefore.symm, hafter.symm, fun e => hne (congrArg some e)⟩

/-- Every difference has a step. -/
theorem exists_step (h : PlannedApplication profile live steps) {index : Nat} (hi : index < 8)
    {r : UInt16} (hr : r ∈ scpRegisterOffsets)
    (hne : bankOf live.quads (index, r) ≠ bankOf profile.configuration.quads (index, r)) :
    ∃ step ∈ steps, step.quad = (index : Int) ∧ step.registerOffset = r := by
  have hlength := h.compared.liveValid.numbered.length_eq
  have hlength' := h.compared.profileValid.numbered.length_eq
  have hcell : (index, r) ∈ planCells live.quads profile.configuration.quads :=
    (mem_planCells (by omega)).mpr ⟨by omega, hr⟩
  have hwrite : (⟨(index, r), bankOf live.quads (index, r),
      bankOf profile.configuration.quads (index, r)⟩ : Write BankCell (Option UInt16)) ∈
      steps.map (·.write) := by
    rw [map_write_steps h]
    exact mem_planBetween.mpr ⟨hcell, rfl, rfl, hne⟩
  obtain ⟨step, hstep, e⟩ := List.mem_map.mp hwrite
  obtain ⟨index', -, hquad, -⟩ := step_cell h hstep
  have hkey : step.write.key = (index, r) := congrArg Write.key e
  have hindex : step.quad.toNat = index := (Prod.ext_iff.mp hkey).1
  have hreg : step.registerOffset = r := (Prod.ext_iff.mp hkey).2
  exact ⟨step, hstep, by omega, hreg⟩

/-- So the plan reaches the profile. -/
theorem applyScpSteps_eq (h : PlannedApplication profile live steps) :
    applyScpSteps steps live.quads = profile.configuration.quads := by
  have hlive := h.compared.liveValid.numbered
  have hprofile := h.compared.profileValid.numbered
  refine quads_eq_of_bankOf_eq (numberedQuads_applyScpSteps steps hlive) hprofile
    fun index hi r hr => ?_
  rw [bankOf_applyScpSteps (inBank_of_planned h) hlive, map_write_steps h]
  refine applyAll_planBetween (planCells_nodup ..) ((mem_planCells ?_).mpr ⟨?_, hr⟩)
  · exact hlive.length_eq.trans hprofile.length_eq.symm
  · exact hlive.length_eq.symm ▸ hi

/-! ### Every intermediate state is safe

A coupling is a relation of the two values that is closed against the direction of one order. If it
holds before and after, writing the two in the right order keeps it in between; the other way around
it could be violated for one step. -/

/-- The coupling of two registers, read off their cells. -/
def CoupledCells (R : UInt16 → UInt16 → Prop) (constrained boundary : Option UInt16) : Prop :=
  ∀ c ∈ constrained, ∀ b ∈ boundary, R c b

/-- A coupling that is kept by both ends of an order is kept across it. -/
theorem ferrers_coupledCells {R : UInt16 → UInt16 → Prop} (hR : Ferrers R) :
    Ferrers (CoupledCells R) := by
  intro a b a' b' h h'
  by_contra hcross
  simp only [CoupledCells, not_or, not_forall] at hcross
  obtain ⟨⟨x', hx', y, hy, hnot⟩, ⟨x, hx, y', hy', hnot'⟩⟩ := hcross
  rcases hR (h x hx y hy) (h' x' hx' y' hy') with hR | hR
  · exact hnot hR
  · exact hnot' hR

theorem ferrers_le : Ferrers (fun c b : UInt16 => c ≤ b) := by
  intro a b a' b' h h'
  simp only [UInt16.le_iff_toNat_le] at *
  omega

theorem ferrers_lt : Ferrers (fun c b : UInt16 => c < b) := by
  intro a b a' b' h h'
  simp only [UInt16.lt_iff_toNat_lt] at *
  omega

/-- One coupled pair of one quad, visited in the order that `planFw2051ScpCoupledWriteOrder`
chooses, holds its coupling after every prefix of the plan. -/
theorem coupledCells_take (h : PlannedApplication profile live steps) {R : UInt16 → UInt16 → Prop}
    (hR : Ferrers R) {index : Nat} {l t : Fw2051ScpQuadConfiguration}
    (hl : live.quads[index]? = some l) (ht : profile.configuration.quads[index]? = some t)
    {c b : UInt16} (hne : b ≠ c) (hc : c ∈ scpRegisterOffsets) (hb : b ∈ scpRegisterOffsets)
    (hlive : R (registerOrZero l c) (registerOrZero l b))
    (htarget : R (registerOrZero t c) (registerOrZero t b))
    [Decidable (R (registerOrZero t c) (registerOrZero l b))]
    (horder : (quadWriteOrder l t).filter (fun r => r == c || r == b) =
      if R (registerOrZero t c) (registerOrZero l b) then [c, b] else [b, c]) (n : ℕ) :
    CoupledCells R (applyAll ((steps.map (·.write)).take n) (bankOf live.quads) (index, c))
      (applyAll ((steps.map (·.write)).take n) (bankOf live.quads) (index, b)) := by
  have hcells : ∀ r ∈ scpRegisterOffsets,
      bankOf live.quads (index, r) = some (registerOrZero l r) ∧
      bankOf profile.configuration.quads (index, r) = some (registerOrZero t r) := by
    intro r hr
    simp only [bankOf, hl, ht, Option.bind_some, quadRegisterValue_eq_some hr, and_self]
  have hcoupled : ∀ {x y : UInt16}, CoupledCells R (some x) (some y) ↔ R x y := by
    intro x y
    simp [CoupledCells]
  have hkey : ((index, b) : BankCell) ≠ (index, c) := fun e => hne (Prod.ext_iff.mp e).2
  refine rel_take_of_filter _ _ (fun m => ?_) n
  -- Of the whole plan only the writes to the two cells remain, in the quad's order.
  have hfilter : (steps.map (·.write)).filter
      (fun w => decide (w.key = (index, c) ∨ w.key = (index, b))) =
      planBetween (bankOf live.quads) (bankOf profile.configuration.quads)
        ((if R (registerOrZero t c) (registerOrZero l b) then [c, b] else [b, c]).map
          fun r => (index, r)) := by
    have hp : (fun w : Write BankCell (Option UInt16) =>
        decide (w.key = (index, c) ∨ w.key = (index, b))) =
        fun w => w.key.1 == index && (w.key.2 == c || w.key.2 == b) := by
      funext w
      rw [Bool.eq_iff_iff]
      simp only [decide_eq_true_eq, Bool.and_eq_true, Bool.or_eq_true, beq_iff_eq, Prod.ext_iff]
      tauto
    rw [hp, map_write_steps h, planBetween_filter fun cell : BankCell => cell.1 == index &&
      (cell.2 == c || cell.2 == b), planCells_filter hl ht fun r => r == c || r == b, horder]
  rw [hfilter]
  have hstart : CoupledCells R (bankOf live.quads (index, c)) (bankOf live.quads (index, b)) := by
    rw [(hcells c hc).1, (hcells b hb).1]
    exact hcoupled.mpr hlive
  have hend : CoupledCells R (bankOf profile.configuration.quads (index, c))
      (bankOf profile.configuration.quads (index, b)) := by
    rw [(hcells c hc).2, (hcells b hb).2]
    exact hcoupled.mpr htarget
  split
  · next hfirst =>
    refine rel_take_constrained_first hkey hstart hend ?_ m
    rw [(hcells c hc).2, (hcells b hb).1]
    exact hcoupled.mpr hfirst
  · next hfirst =>
    refine rel_take_boundary_first (ferrers_coupledCells hR) hkey hstart hend ?_ m
    rw [(hcells c hc).2, (hcells b hb).1]
    exact fun hcross => hfirst (hcoupled.mp hcross)

/-- Two pairs of registers in each quad. -/
theorem couplingsHold_iff {quads : List Fw2051ScpQuadConfiguration} :
    (∀ quad ∈ quads, CouplingsHold quad) ↔ ∀ index < quads.length,
      CoupledCells (· ≤ ·) (bankOf quads (index, 0x6110)) (bankOf quads (index, 0x6124)) ∧
      CoupledCells (· < ·) (bankOf quads (index, 0x6146)) (bankOf quads (index, 0x6148)) := by
  constructor
  · intro h index hi
    obtain ⟨htiming, hsamples⟩ := h _ (List.getElem_mem hi)
    simp only [bankOf, List.getElem?_eq_getElem hi, Option.bind_some]
    refine ⟨?_, ?_⟩
    · rintro c hc b hb
      obtain rfl := Option.some.inj hc
      obtain rfl := Option.some.inj hb
      exact htiming
    · rintro c hc b hb
      obtain rfl := Option.some.inj hc
      obtain rfl := Option.some.inj hb
      exact hsamples
  · intro h quad hquad
    obtain ⟨index, hi, rfl⟩ := List.mem_iff_getElem.mp hquad
    obtain ⟨htiming, hsamples⟩ := h index hi
    simp only [bankOf, List.getElem?_eq_getElem hi, Option.bind_some] at htiming hsamples
    exact ⟨htiming _ rfl _ rfl, hsamples _ rfl _ rfl⟩

/-- Applied from a safe live configuration, the plan passes through safe configurations only. -/
theorem couplingsHold_take (h : PlannedApplication profile live steps)
    (hsafe : ∀ quad ∈ live.quads, CouplingsHold quad) (n : ℕ) :
    ∀ quad ∈ applyScpSteps (steps.take n) live.quads, CouplingsHold quad := by
  have hlive := h.compared.liveValid.numbered
  have hprofile := h.compared.profileValid.numbered
  have hin : ∀ step ∈ steps.take n, step.InBank :=
    fun step hstep => inBank_of_planned h step (List.mem_of_mem_take hstep)
  rw [couplingsHold_iff, bankOf_applyScpSteps hin hlive, List.map_take]
  intro index hi
  rw [(numberedQuads_applyScpSteps _ hlive).length_eq] at hi
  have hl := List.getElem?_eq_getElem (hlive.length_eq.symm ▸ hi)
  have ht := List.getElem?_eq_getElem (hprofile.length_eq.symm ▸ hi)
  obtain ⟨hlt, hls⟩ := hsafe _ (List.mem_of_getElem? hl)
  obtain ⟨htt, hts⟩ := h.targetsHold _ (List.mem_of_getElem? ht)
  constructor
  · exact coupledCells_take (c := 0x6110) (b := 0x6124) h ferrers_le hl ht (by decide) (by decide) (by decide) hlt htt
      (quadWriteOrder_filter_timing ..) n
  · exact coupledCells_take (c := 0x6146) (b := 0x6148) h ferrers_lt hl ht (by decide) (by decide) (by decide) hls hts
      (quadWriteOrder_filter_samples ..) n

/-- A rollback from any point of the plan, cut anywhere, has reached an earlier point of it. -/
theorem rollbackScpSteps_take_reverse (h : PlannedApplication profile live steps) (n k : ℕ) :
    ∃ m ≤ n, rollbackScpSteps ((steps.take n).reverse.take k)
        (applyScpSteps (steps.take n) live.quads) = applyScpSteps (steps.take m) live.quads := by
  have hlive := h.compared.liveValid.numbered
  have hchained : Chained (steps.map (·.write)) (bankOf live.quads) := by
    rw [map_write_steps h]
    exact chained_planBetween (planCells_nodup ..)
  obtain ⟨m, hm, e⟩ := revertAll_take_reverse hchained n k
  have hin : ∀ j, ∀ step ∈ steps.take j, step.InBank :=
    fun j step hstep => inBank_of_planned h step (List.mem_of_mem_take hstep)
  have hback : ∀ step ∈ (steps.take n).reverse.take k, step.InBank :=
    fun step hstep => hin n step (List.mem_reverse.mp (List.mem_of_mem_take hstep))
  have hreached := numberedQuads_applyScpSteps (steps.take n) hlive
  refine ⟨m, hm, quads_eq_of_bankOf_eq (numberedQuads_rollbackScpSteps _ hreached)
    (numberedQuads_applyScpSteps _ hlive) fun index _ r _ => ?_⟩
  rw [bankOf_rollbackScpSteps hback hreached, bankOf_applyScpSteps (hin n) hlive,
    bankOf_applyScpSteps (hin m) hlive, List.map_take, List.map_reverse, List.map_take,
    List.map_take, e]

end Safe

/-! ### The planning theorem

The parts put together, for every successful plan and every place at which it or its rollback may be
cut. -/

/-- The steps name each differing register of the two lists of quads exactly once, with the value
it has and the value it is to get. -/
structure NamesDifferences (steps : List ScpProfileApplicationStep)
    (live target : List Fw2051ScpQuadConfiguration) : Prop where
  nodup : (steps.map fun step => (step.quad, step.registerOffset)).Nodup
  differing : ∀ step ∈ steps, ∃ index : ℕ, index < 8 ∧ step.quad = index ∧
    bankOf live (index, step.registerOffset) = some step.expectedValue ∧
    bankOf target (index, step.registerOffset) = some step.profileValue ∧
    step.expectedValue ≠ step.profileValue
  complete : ∀ index < 8, ∀ r ∈ scpRegisterOffsets,
    bankOf live (index, r) ≠ bankOf target (index, r) →
    ∃ step ∈ steps, step.quad = index ∧ step.registerOffset = r

/-- A plan that succeeds accounts for every difference, reaches the profile, and never passes
through a pair that violates its coupling, forwards or backwards. -/
theorem planFw2051ScpProfileApplication_safe (profile : ScpProfile)
    (live : Fw2051ScpConfigurationSnapshot) (steps : List ScpProfileApplicationStep)
    (hsteps : (planFw2051ScpProfileApplication profile live).request.steps = steps)
    (h : (planFw2051ScpProfileApplication profile live).success = true) :
    NamesDifferences steps live.quads profile.configuration.quads ∧
    applyScpSteps steps live.quads = profile.configuration.quads ∧
    ((∀ quad ∈ live.quads, CouplingsHold quad) →
      (∀ n, ∀ quad ∈ applyScpSteps (steps.take n) live.quads, CouplingsHold quad) ∧
      ∀ n k, ∀ quad ∈ rollbackScpSteps ((steps.take n).reverse.take k)
        (applyScpSteps (steps.take n) live.quads), CouplingsHold quad) := by
  subst hsteps
  have hplanned := plannedApplication_of_success h
  refine ⟨⟨cells_nodup hplanned, fun step hstep => ?_, fun index hi r hr hne => ?_⟩,
    applyScpSteps_eq hplanned, fun hsafe => ⟨couplingsHold_take hplanned hsafe, fun n k => ?_⟩⟩
  · obtain ⟨index, hi, hquad, -⟩ := step_cell hplanned hstep
    have hvalues := step_values hplanned hstep
    have hindex : step.quad.toNat = index := by omega
    rw [hindex] at hvalues
    exact ⟨index, hi, hquad, hvalues⟩
  · exact exists_step hplanned hi hr hne
  · obtain ⟨m, -, e⟩ := rollbackScpSteps_take_reverse hplanned n k
    rw [e]
    exact couplingsHold_take hplanned hsafe m

/-- A module whose quads all hold valid values, the second one with a wide shaping time. -/
def exampleQuads : List Fw2051ScpQuadConfiguration :=
  (List.range 8).map fun index =>
    { quad := index.toUInt16, timingFilter := 20, poleZero := Vector.replicate 4 100, gain := 1000
      shapingTime := 100, resetTime := 16, preSamples := 10, totalSamples := 20 }

def exampleSnapshot (quads : List Fw2051ScpQuadConfiguration) : Fw2051ScpConfigurationSnapshot :=
  { state := .complete, baseAddress := 0x11110000, hardwareId := mdpp32HardwareId
    firmwareRevision := mdpp32ScpFirmwareRevisionFw2051, selectorParkedAtQuadZero := true, quads }

/-- Widen both pairs of the second quad beyond its live boundaries. -/
def exampleProfile : ScpProfile :=
  { configuration := exampleSnapshot (writeQuads (writeQuads (writeQuads (writeQuads exampleQuads
      1 0x6110 120) 1 0x6124 200) 1 0x6146 30) 1 0x6148 40) }

theorem planFw2051ScpProfileApplication_safe_example :
    (planFw2051ScpProfileApplication exampleProfile (exampleSnapshot exampleQuads)).request.steps.map
      (·.registerOffset) = [0x6124, 0x6110, 0x6148, 0x6146] ∧
    ∀ quad ∈ applyScpSteps ((planFw2051ScpProfileApplication exampleProfile
      (exampleSnapshot exampleQuads)).request.steps.take 1) exampleQuads, CouplingsHold quad :=
  ⟨by decide +kernel, ((planFw2051ScpProfileApplication_safe exampleProfile (exampleSnapshot exampleQuads) _ rfl
    (by decide +kernel)).2.2
    (show ∀ quad ∈ exampleQuads, CouplingsHold quad by decide)).1 1⟩

end Fidget
