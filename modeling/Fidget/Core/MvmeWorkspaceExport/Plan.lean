import Fidget.Core.MvmeWorkspaceExport
import Fidget.Core.ScpTransactionPlan.Verified

/-!
# The plan of a literal script

What an accepted starting state guarantees about its values, and the order in which the literal
script of such a state writes them: the independent registers of a quad, then either coupled pair,
its constrained value between the widest boundary and the final one.

## Main results

- `ValidFrontendValues`: what the values of an accepted state satisfy.
- `quadLiteralValues_eq_ok`: the values in the order in which they are written.
- `generatedLiteral_of_success`: the shape of the script.
-/

namespace Fidget

open MvmeWorkspaceExport

/-! ### What an accepted starting state looks like

The exporter validates the values of a starting state before it plans: each is one of a known
register in range, and none is given twice. -/

/-- The values are in their registers' ranges, no two under one key, and of two values that depend
on each other either satisfies what is asked of it. -/
structure ValidFrontendValues (values : List MvmeInitScriptFrontendValue) : Prop where
  quad_lt : ∀ value ∈ values, value.quad.toNat < fw2051ScpQuadCount
  banked : ∀ value ∈ values, value.registerOffset ∈ scpRegisterOffsets
  inRange : ∀ value ∈ values,
    validateFw2051ScpProfileValue value.registerOffset value.value = ""
  found : ∀ value ∈ values, findValue values value.quad value.registerOffset = some value
  satisfied : ∀ value ∈ values, dependencyViolated values value = false

/-- What is checked of a value. -/
theorem valueObstacle_eq_none {before : List MvmeInitScriptFrontendValue}
    {value : MvmeInitScriptFrontendValue} (h : valueObstacle before value = none) :
    value.quad.toNat < fw2051ScpQuadCount ∧ value.registerOffset ∈ scpRegisterOffsets ∧
      validateFw2051ScpProfileValue value.registerOffset value.value = "" ∧
      findValue before value.quad value.registerOffset = none := by
  unfold valueObstacle at h
  simp only at h
  split at h
  · cases h
  split at h
  · cases h
  split at h
  · cases h
  split at h
  · cases h
  next hquad hregister hvalue hfound =>
    refine ⟨Nat.lt_of_not_le hquad, ?_, not_not.mp hvalue, ?_⟩
    · rw [← findFw2051ScpSetting_isSome, ← Option.not_isNone, Bool.not_eq_true']
      exact Bool.not_eq_true _ |>.mp hregister
    · exact Option.not_isSome_iff_eq_none.mp hfound

/-- Every value is accepted, and found after all values before it. -/
theorem valuesObstacle_eq_none {before values : List MvmeInitScriptFrontendValue}
    (h : valuesObstacle before values = none) :
    ∀ value ∈ values, value.quad.toNat < fw2051ScpQuadCount ∧
      value.registerOffset ∈ scpRegisterOffsets ∧
      validateFw2051ScpProfileValue value.registerOffset value.value = "" ∧
      findValue (before ++ values) value.quad value.registerOffset = some value := by
  induction values generalizing before with
  | nil => exact fun _ hvalue => absurd hvalue List.not_mem_nil
  | cons head values ih =>
      intro value hvalue
      rw [valuesObstacle] at h
      split at h
      · cases h
      next hhead =>
        rcases List.mem_cons.mp hvalue with rfl | hvalue
        · obtain ⟨hquad, hregister, hrange, hfresh⟩ := valueObstacle_eq_none hhead
          refine ⟨hquad, hregister, hrange, ?_⟩
          unfold findValue at hfresh ⊢
          rw [List.find?_append, hfresh, Option.none_or, List.find?_cons_of_pos]
          simp
        · have hrest := ih h value hvalue
          rw [List.append_assoc] at hrest
          exact hrest

theorem valueObstacle_ne {before : List MvmeInitScriptFrontendValue}
    {value : MvmeInitScriptFrontendValue} {obstacle : String}
    (h : valueObstacle before value = some obstacle) : obstacle ≠ "" := by
  unfold valueObstacle at h
  simp only at h
  split at h
  · cases h
    decide
  split at h
  · cases h
    decide
  split at h
  next hvalue =>
    cases h
    exact hvalue
  split at h
  · cases h
    decide
  · cases h

theorem valuesObstacle_ne {before values : List MvmeInitScriptFrontendValue} {obstacle : String}
    (h : valuesObstacle before values = some obstacle) : obstacle ≠ "" := by
  induction values generalizing before with
  | nil => cases h
  | cons head values ih =>
      rw [valuesObstacle] at h
      split at h
      next hhead =>
        cases h
        exact valueObstacle_ne hhead
      · exact ih h

/-- What an accepted state guarantees. -/
theorem validFrontendValues_of_validate {state : Fw2051WorkspaceStartingState}
    (h : validateStartingState state = "") : ValidFrontendValues state.frontendValues := by
  unfold validateStartingState at h
  -- Six texts refuse the state as a whole.
  iterate 6 (split at h; · exact absurd h (by decide))
  split at h
  next obstacle hobstacle => exact absurd h (valuesObstacle_ne hobstacle)
  next hobstacle =>
    split at h
    · exact absurd h (by decide)
    next hdependencies =>
      have hvalues := valuesObstacle_eq_none hobstacle
      rw [List.nil_append] at hvalues
      refine ⟨fun value hvalue => (hvalues value hvalue).1,
        fun value hvalue => (hvalues value hvalue).2.1,
        fun value hvalue => (hvalues value hvalue).2.2.1,
        fun value hvalue => (hvalues value hvalue).2.2.2, fun value hvalue => ?_⟩
      by_contra hviolated
      exact hdependencies (List.any_eq_true.mpr ⟨value, hvalue, Bool.of_not_eq_false hviolated⟩)

/-- A value is found under its own quad and register. -/
theorem findValue_eq_some {values : List MvmeInitScriptFrontendValue} {quad registerOffset : UInt16}
    {value : MvmeInitScriptFrontendValue} (h : findValue values quad registerOffset = some value) :
    value ∈ values ∧ value.quad = quad ∧ value.registerOffset = registerOffset := by
  have hkey := List.find?_some h
  rw [Bool.and_eq_true, beq_iff_eq, beq_iff_eq] at hkey
  exact ⟨List.mem_of_find?_eq_some h, hkey.1, hkey.2⟩

/-- The widest boundary is not below any value. -/
theorem le_maximumValue {registerOffset value : UInt16} {definition : Fw2051ScpSettingDefinition}
    (hdefinition : findFw2051ScpSetting registerOffset = some definition)
    (h : validateFw2051ScpProfileValue registerOffset value = "") :
    value ≤ definition.maximumValue := by
  rw [validateFw2051ScpProfileValue, hdefinition] at h
  by_contra hgt
  have houtside : value < definition.minimumValue ∨ value > definition.maximumValue :=
    .inr (UInt16.not_le.mp hgt)
  simp only [validateFw2051ScpSettingValue, if_pos houtside] at h
  split at h <;> simp at h

/-! ### The plan

The independent registers come first. Of a pair, either both values are known or none, and then its
boundary is widened, the other register written, and the boundary set. -/

/-- A register whose value is bounded by that of another; raising the boundary never hurts. -/
structure CoupledRegisters (c b : UInt16) (constrained boundary : Fw2051ScpSettingDefinition) :
    Prop where
  find_constrained : findFw2051ScpSetting c = some constrained
  find_boundary : findFw2051ScpSetting b = some boundary
  dependent : constrained.dependencyRule ≠ .none
  register_eq : constrained.dependencyRegister = b
  widen : ∀ x y, fw2051ScpDependencySatisfied constrained x y = true →
    y ≤ boundary.maximumValue →
    fw2051ScpDependencySatisfied constrained x boundary.maximumValue = true

/-- The timing filter is bound by the shaping time. -/
theorem coupledRegisters_timing :
    CoupledRegisters 0x6110 0x6124 fw2051ScpSettingRegistry[0] fw2051ScpSettingRegistry[10] where
  find_constrained := rfl
  find_boundary := rfl
  dependent := by decide
  register_eq := rfl
  widen := fun _ _ h hle => decide_eq_true (UInt16.le_trans (of_decide_eq_true h) hle)

/-- The pre-samples are bound by the total samples. -/
theorem coupledRegisters_samples :
    CoupledRegisters 0x6146 0x6148 fw2051ScpSettingRegistry[14] fw2051ScpSettingRegistry[15] where
  find_constrained := rfl
  find_boundary := rfl
  dependent := by decide
  register_eq := rfl
  widen := fun _ _ h hle => decide_eq_true (UInt16.lt_of_lt_of_le (of_decide_eq_true h) hle)

/-- The items of a coupled pair, none where its values are not known. -/
def stagedValues (values : List MvmeInitScriptFrontendValue) (quad c b maximum : UInt16) :
    List PlannedLiteralValue :=
  match findValue values quad c, findValue values quad b with
  | some constrained, some boundary =>
    [{ quad, registerOffset := b, value := maximum, stagingBoundary := true },
      { quad, registerOffset := c, value := constrained.value },
      { quad, registerOffset := b, value := boundary.value }]
  | _, _ => []

/-- What is known of a coupled pair that could be planned. -/
structure PlannedPair (values : List MvmeInitScriptFrontendValue) (quad c b : UInt16)
    (constrained : Fw2051ScpSettingDefinition) (maximum : UInt16) : Prop where
  complete : findValue values quad c = none ↔ findValue values quad b = none
  satisfied : ∀ x y, findValue values quad c = some x → findValue values quad b = some y →
    fw2051ScpDependencySatisfied constrained x.value y.value = true ∧
      fw2051ScpDependencySatisfied constrained x.value maximum = true

/-- A pair is written with the boundary widened first. -/
theorem coupledLiteralValues_eq_ok {values : List MvmeInitScriptFrontendValue}
    (hvalid : ValidFrontendValues values) {quad c b : UInt16}
    {constrained boundary : Fw2051ScpSettingDefinition}
    (hpair : CoupledRegisters c b constrained boundary) {items : List PlannedLiteralValue}
    (h : coupledLiteralValues values quad c b = .ok items) :
    items = stagedValues values quad c b boundary.maximumValue ∧
      PlannedPair values quad c b constrained boundary.maximumValue := by
  unfold coupledLiteralValues at h
  split at h
  -- neither value is known, and nothing is planned
  next hc hb =>
    cases h
    refine ⟨by rw [stagedValues, hc, hb], by rw [hc, hb], ?_⟩
    intro x y hx
    rw [hc] at hx
    cases hx
  -- both are known
  next x y hx hy =>
    obtain ⟨hxmem, hxquad, hxregister⟩ := findValue_eq_some hx
    obtain ⟨hymem, -, hyregister⟩ := findValue_eq_some hy
    -- the validation has compared the two
    have hsatisfied : fw2051ScpDependencySatisfied constrained x.value y.value = true := by
      have hnot := hvalid.satisfied x hxmem
      simp only [dependencyViolated, hxregister, hpair.find_constrained, if_neg hpair.dependent,
        hxquad, hpair.register_eq, hy] at hnot
      simpa using hnot
    have hle : y.value ≤ boundary.maximumValue :=
      le_maximumValue (hyregister ▸ hpair.find_boundary) (hvalid.inRange y hymem)
    have hfirst := hpair.widen _ _ hsatisfied hle
    simp only [hpair.find_boundary] at h
    split at h
    · cases h
    next hsuccess =>
      rw [Bool.not_eq_true', Bool.not_eq_false] at hsuccess
      rw [registerOffsets_of_success hpair.find_constrained hsuccess, if_pos hfirst,
        List.mapM_cons, List.mapM_cons, List.mapM_nil, hx, hy] at h
      cases h
      refine ⟨by rw [stagedValues, hx, hy], by rw [hx, hy]; simp, ?_⟩
      intro x' y' hx' hy'
      rw [hx] at hx'
      rw [hy] at hy'
      cases hx'
      cases hy'
      exact ⟨hsatisfied, hfirst⟩
  · cases h

/-- The items of a quad. -/
def plannedQuad (values : List MvmeInitScriptFrontendValue) (quad : UInt16) :
    List PlannedLiteralValue :=
  independentLiteralValues values quad
    ++ stagedValues values quad 0x6110 0x6124 fw2051ScpMaximumShapingTime
    ++ stagedValues values quad 0x6146 0x6148 fw2051ScpMaximumSampleCount

/-- What is known of a quad that could be planned. -/
structure PlannedQuad (values : List MvmeInitScriptFrontendValue) (quad : UInt16) : Prop where
  timing : PlannedPair values quad 0x6110 0x6124 fw2051ScpSettingRegistry[0]
    fw2051ScpMaximumShapingTime
  samples : PlannedPair values quad 0x6146 0x6148 fw2051ScpSettingRegistry[14]
    fw2051ScpMaximumSampleCount

theorem quadLiteralValues_eq_ok {values : List MvmeInitScriptFrontendValue}
    (hvalid : ValidFrontendValues values) {quad : UInt16} {items : List PlannedLiteralValue}
    (h : quadLiteralValues values quad = .ok items) :
    items = plannedQuad values quad ∧ PlannedQuad values quad := by
  unfold quadLiteralValues at h
  cases htiming : coupledLiteralValues values quad 0x6110 0x6124 with
  | error message => rw [htiming] at h; cases h
  | ok timing =>
      cases hsamples : coupledLiteralValues values quad 0x6146 0x6148 with
      | error message => rw [htiming, hsamples] at h; cases h
      | ok samples =>
          rw [htiming, hsamples] at h
          cases h
          obtain ⟨rfl, hcoupled⟩ :=
            coupledLiteralValues_eq_ok hvalid coupledRegisters_timing htiming
          obtain ⟨rfl, hcoupled'⟩ :=
            coupledLiteralValues_eq_ok hvalid coupledRegisters_samples hsamples
          exact ⟨rfl, hcoupled, hcoupled'⟩

/-- What a literal script that is generated goes back to. -/
structure GeneratedLiteral (state : Fw2051WorkspaceStartingState)
    (targetAddress : TargetModuleAddress) (script : GeneratedScript) : Prop where
  valid : ValidFrontendValues state.frontendValues
  planned : ∀ quad ∈ fw2051ScpQuads, PlannedQuad state.frontendValues quad
  script_eq : script = literalHeader state targetAddress
    ++ literalLines fw2051ScpQuadCount.toUInt16
      (fw2051ScpQuads.flatMap (plannedQuad state.frontendValues))
    ++ literalFooter

/-- What a script that was generated consists of. -/
theorem generatedLiteral_of_success {state : Fw2051WorkspaceStartingState}
    {targetAddress : TargetModuleAddress}
    (h : (generateFw2051LiteralScript state targetAddress).success = true) :
    GeneratedLiteral state targetAddress
      (generateFw2051LiteralScript state targetAddress).script := by
  unfold generateFw2051LiteralScript at h ⊢
  simp only at h ⊢
  split at h
  · cases h
  next hvalidation =>
    rw [if_neg hvalidation]
    have hvalid := validFrontendValues_of_validate (not_not.mp hvalidation)
    cases hplan : planLiteralValues state with
    | error message => rw [hplan] at h; cases h
    | ok items =>
        unfold planLiteralValues at hplan
        cases hquads : fw2051ScpQuads.mapM (quadLiteralValues state.frontendValues) with
        | error message => rw [hquads] at hplan; cases hplan
        | ok quads =>
            rw [hquads] at hplan
            cases hplan
            have hmap := Lists.eq_map_of_mapM_eq_ok hquads fun quad items hitems =>
              (quadLiteralValues_eq_ok hvalid hitems).1
            refine ⟨hvalid, fun quad hquad => ?_, ?_⟩
            · -- each quad has its own plan
              obtain ⟨items, hitems⟩ :
                  ∃ items, quadLiteralValues state.frontendValues quad = .ok items := by
                have hall := Lists.forall₂_of_mapM_eq_ok hquads
                obtain ⟨i, hi, rfl⟩ := List.mem_iff_getElem.mp hquad
                exact ⟨_, hall.get hi (hall.length_eq ▸ hi)⟩
              exact (quadLiteralValues_eq_ok hvalid hitems).2
            · rw [hmap, List.flatMap_def]

end Fidget
