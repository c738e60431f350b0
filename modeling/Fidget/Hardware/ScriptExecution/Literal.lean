import Fidget.Core.MvmeWorkspaceExport.Plan
import Fidget.Hardware.ScriptExecution
import Fidget.Lib.Lists

/-!
# Executing the literal script of a starting state

The script of `generateFw2051LiteralScript` does not know what the module holds before it. It sets
the boundary of a coupled pair to the widest value there is, which no constrained value violates,
before it writes the pair.

The script is read as a plan, a list of cells with values. The plan of a bank writes the independent
registers first and the two coupled pairs at the end; of a pair, the boundary is written twice if it
is listed, widened at first and set to its value after the other register.

## Main results

- `cellWrites_literal`: the script as a plan of writes to the cells of the banks.
- `pairHolds_stagedValues`: a coupled pair is written so that the coupling holds after every write.
- `getLast?_plannedQuad`: the last write to a cell is the one with its value.
- `literalScript_safe`: on a module whose values are in range and coupled, every prefix keeps the
  couplings, and at the end the listed cells have their values, the others are unchanged and the
  selector is parked.
-/

namespace Fidget

open scoped Fidget.Lists

open MvmeWorkspaceExport ScriptLine WritePlan

/-! ### The plan of the script

The lines of the script select a bank where the bank changes and write the values of the plan. -/

/-- The cell that an item is written to. -/
def PlannedLiteralValue.cell (item : PlannedLiteralValue) : Write BankCell UInt16 :=
  cellWrite item.quad.toNat item.registerOffset item.value

/-- A value is written after its bank is selected. -/
theorem writes_literalLines (currentQuad : UInt16) (item : PlannedLiteralValue)
    (items : List PlannedLiteralValue) :
    GeneratedScript.writes (literalLines currentQuad (item :: items)) =
      (if item.quad ≠ currentQuad then [(fw2051ScpSelectorRegister, item.quad)] else [])
        ++ (item.registerOffset, item.value) ::
          GeneratedScript.writes (literalLines item.quad items) := by
  have hselector : GeneratedScript.writes
      (if item.quad ≠ currentQuad then
        (if currentQuad.toNat ≠ fw2051ScpQuadCount then [blank] else [])
          ++ comment ("# Quad ".toList ++ NumberText.decimal item.quad.toNat)
            :: longWriteLines fw2051ScpSelectorRegister item.quad
      else []) =
      if item.quad ≠ currentQuad then [(fw2051ScpSelectorRegister, item.quad)] else [] := by
    split
    · rw [GeneratedScript.writes_append]
      split <;> rfl
    · rfl
  have hremark : GeneratedScript.writes (if item.stagingBoundary then
      [comment "# Establish the widest safe coupled boundary".toList] else []) = [] := by
    split <;> rfl
  rw [literalLines, GeneratedScript.writes_append, GeneratedScript.writes_append,
    GeneratedScript.writes_append, hselector, hremark, List.append_nil, List.append_assoc]
  rfl

/-- Every item is written to its cell: the selector follows the quads of the items. -/
theorem cellWrites_literalLines (currentQuad selector : UInt16)
    {items : List PlannedLiteralValue}
    (hbanked : ∀ item ∈ items, item.registerOffset ∈ scpRegisterOffsets)
    (hselector : ∀ item ∈ items, item.quad = currentQuad → selector = currentQuad)
    (rest : List (UInt16 × UInt16)) :
    ∃ last, cellWrites selector (GeneratedScript.writes (literalLines currentQuad items) ++ rest) =
      items.map PlannedLiteralValue.cell ++ cellWrites last rest := by
  induction items generalizing currentQuad selector with
  | nil => exact ⟨selector, rfl⟩
  | cons item items ih =>
      obtain ⟨last, hlast⟩ := ih item.quad item.quad
        (fun i hi => hbanked i (List.mem_cons_of_mem _ hi)) fun _ _ _ => rfl
      refine ⟨last, ?_⟩
      have hitem := hbanked item List.mem_cons_self
      have hwritten : cellWrites item.quad ((item.registerOffset, item.value) ::
          GeneratedScript.writes (literalLines item.quad items) ++ rest) =
          (item :: items).map PlannedLiteralValue.cell ++ cellWrites last rest := by
        rw [List.cons_append, cellWrites_banked hitem, hlast]
        rfl
      rw [writes_literalLines]
      by_cases hquad : item.quad = currentQuad
      · rw [if_neg (not_not.mpr hquad), List.nil_append, hselector item List.mem_cons_self hquad,
          ← hquad, hwritten]
      · rw [if_pos hquad, List.append_assoc, List.singleton_append, cellWrites_selector, hwritten]

section Planned

variable {values : List MvmeInitScriptFrontendValue} {quad : UInt16}

/-- The staged values of a pair belong to the pair. -/
theorem mem_stagedValues {c b maximum : UInt16} {item : PlannedLiteralValue}
    (h : item ∈ stagedValues values quad c b maximum) :
    item.quad = quad ∧ (item.registerOffset = c ∨ item.registerOffset = b) := by
  unfold stagedValues at h
  split at h
  · simp only [List.mem_cons, List.not_mem_nil, or_false] at h
    rcases h with rfl | rfl | rfl
    · exact ⟨rfl, .inr rfl⟩
    · exact ⟨rfl, .inl rfl⟩
    · exact ⟨rfl, .inr rfl⟩
  · cases h

/-- The independent values belong to independent registers. -/
theorem mem_independentLiteralValues {item : PlannedLiteralValue}
    (h : item ∈ independentLiteralValues values quad) :
    item.quad = quad ∧ item.registerOffset ∈ fw2051ScpIndependentRegisterOrder := by
  unfold independentLiteralValues at h
  obtain ⟨r, hr, hitem⟩ := List.mem_flatMap.mp h
  split at hitem
  · cases hitem
  · obtain rfl := List.mem_singleton.mp hitem
    exact ⟨rfl, hr⟩

/-- The plan of a bank writes to the bank. -/
theorem mem_plannedQuad {item : PlannedLiteralValue} (h : item ∈ plannedQuad values quad) :
    item.quad = quad ∧ item.registerOffset ∈ scpRegisterOffsets := by
  have hindependent : ∀ r ∈ fw2051ScpIndependentRegisterOrder, r ∈ scpRegisterOffsets := by decide
  unfold plannedQuad at h
  rw [List.mem_append, List.mem_append] at h
  rcases h with (h | h) | h
  · obtain ⟨hquad, hr⟩ := mem_independentLiteralValues h
    exact ⟨hquad, hindependent _ hr⟩
  · obtain ⟨hquad, hr⟩ := mem_stagedValues h
    rcases hr with hr | hr <;> exact ⟨hquad, hr ▸ by decide⟩
  · obtain ⟨hquad, hr⟩ := mem_stagedValues h
    rcases hr with hr | hr <;> exact ⟨hquad, hr ▸ by decide⟩

end Planned

/-- The plan of a literal script. -/
def literalPlan (values : List MvmeInitScriptFrontendValue) : List (Write BankCell UInt16) :=
  fw2051ScpQuads.flatMap fun quad => (plannedQuad values quad).map PlannedLiteralValue.cell

/-- The lines of the plan, and the selector back at quad 0. -/
theorem writes_generatedLiteral {state : Fw2051WorkspaceStartingState}
    {targetAddress : TargetModuleAddress} {script : GeneratedScript}
    (h : GeneratedLiteral state targetAddress script) :
    script.writes = GeneratedScript.writes
      (literalLines fw2051ScpQuadCount.toUInt16
        (fw2051ScpQuads.flatMap (plannedQuad state.frontendValues)))
      ++ [(fw2051ScpSelectorRegister, 0)] := by
  rw [h.script_eq, GeneratedScript.writes_append, GeneratedScript.writes_append]
  rfl

/-- The writes of the script are those of its plan. -/
theorem cellWrites_literal {state : Fw2051WorkspaceStartingState}
    {targetAddress : TargetModuleAddress} {script : GeneratedScript}
    (h : GeneratedLiteral state targetAddress script) (selector : UInt16) :
    cellWrites selector script.writes = literalPlan state.frontendValues := by
  have hbanked : ∀ item ∈ fw2051ScpQuads.flatMap (plannedQuad state.frontendValues),
      item.quad ∈ fw2051ScpQuads ∧ item.registerOffset ∈ scpRegisterOffsets := by
    intro item hitem
    obtain ⟨quad, hquad, hitem⟩ := List.mem_flatMap.mp hitem
    obtain ⟨rfl, hregister⟩ := mem_plannedQuad hitem
    exact ⟨hquad, hregister⟩
  have hfresh : ∀ quad ∈ fw2051ScpQuads, quad ≠ fw2051ScpQuadCount.toUInt16 := by decide
  obtain ⟨last, hlast⟩ := cellWrites_literalLines fw2051ScpQuadCount.toUInt16
    selector (fun item hitem => (hbanked item hitem).2)
    (fun item hitem hquad => absurd hquad (hfresh _ (hbanked item hitem).1))
    [(fw2051ScpSelectorRegister, 0)]
  rw [writes_generatedLiteral h, hlast, cellWrites_selector, literalPlan, List.map_flatMap]
  exact List.append_nil _

/-! ### The writes to a pair, and to a cell

Of all writes only those to the pair matter for its coupling, so the plan is filtered down to them.
What remains are at most three writes. -/

section Filter

variable {values : List MvmeInitScriptFrontendValue} {quad : UInt16}

/-- Of the plan, only the items of a quad touch that quad. -/
theorem pairWrites_literalPlan (hquad : quad ∈ fw2051ScpQuads) (c b : UInt16) :
    pairWrites quad.toNat c b (literalPlan values) =
      ((plannedQuad values quad).filter fun item =>
        item.registerOffset == c || item.registerOffset == b).map PlannedLiteralValue.cell := by
  have hgroup : ∀ q ∈ fw2051ScpQuads, ∀ w ∈ (plannedQuad values q).map PlannedLiteralValue.cell,
      w.key.1 = q.toNat := by
    intro q _ w hw
    obtain ⟨item, hitem, rfl⟩ := List.mem_map.mp hw
    exact congrArg UInt16.toNat (mem_plannedQuad hitem).1
  rw [literalPlan, pairWrites_flatMap UInt16.toNat hgroup (by decide) hquad, pairWrites,
    List.filter_map]
  refine congrArg _ (List.filter_congr fun item hitem => ?_)
  rw [Bool.eq_iff_iff, Function.comp_apply, decide_eq_true_iff, Bool.or_eq_true, beq_iff_eq,
    beq_iff_eq]
  show (item.quad.toNat, item.registerOffset) = (_, c) ∨ (item.quad.toNat, item.registerOffset) =
    (_, b) ↔ _
  rw [Prod.mk.injEq, Prod.mk.injEq, (mem_plannedQuad hitem).1]
  tauto

/-- The staged values of a pair are not those of other registers. -/
theorem filter_stagedValues_eq_nil {c b maximum : UInt16} {p : UInt16 → Bool} (hc : p c = false)
    (hb : p b = false) :
    (stagedValues values quad c b maximum).filter (fun item => p item.registerOffset) = [] := by
  refine List.filter_eq_nil_iff.mpr fun item hitem => ?_
  rcases (mem_stagedValues hitem).2 with h | h
  · rw [h, hc]
    decide
  · rw [h, hb]
    decide

/-- The independent values are not those of coupled registers. -/
theorem filter_independentLiteralValues_eq_nil {p : UInt16 → Bool}
    (h : ∀ r ∈ fw2051ScpIndependentRegisterOrder, p r = false) :
    (independentLiteralValues values quad).filter (fun item => p item.registerOffset) = [] := by
  refine List.filter_eq_nil_iff.mpr fun item hitem => ?_
  rw [h _ (mem_independentLiteralValues hitem).2]
  decide

/-- An independent register is written at most once. -/
theorem filter_independentLiteralValues {r : UInt16}
    (hr : r ∈ fw2051ScpIndependentRegisterOrder) :
    (independentLiteralValues values quad).filter (fun item => item.registerOffset == r) =
      match findValue values quad r with
      | none => []
      | some value => [{ quad, registerOffset := r, value := value.value }] := by
  unfold independentLiteralValues
  rw [Lists.filter_flatMap_eq hr (by decide)]
  · cases findValue values quad r with
    | none => rfl
    | some value => simp
  · intro r' _ hne
    refine List.filter_eq_nil_iff.mpr fun item hitem => ?_
    have hregister : item.registerOffset = r' := by
      split at hitem
      · cases hitem
      · obtain rfl := List.mem_singleton.mp hitem
        rfl
    rw [hregister, beq_iff_eq]
    exact hne

/-- A coupled pair that is listed is staged, one that is not is left alone. -/
theorem stagedValues_cases {c b maximum : UInt16} {constrained : Fw2051ScpSettingDefinition}
    (h : PlannedPair values quad c b constrained maximum) :
    (findValue values quad c = none ∧ findValue values quad b = none ∧
        stagedValues values quad c b maximum = []) ∨
      ∃ x y, findValue values quad c = some x ∧ findValue values quad b = some y ∧
        stagedValues values quad c b maximum =
          [{ quad, registerOffset := b, value := maximum, stagingBoundary := true },
            { quad, registerOffset := c, value := x.value },
            { quad, registerOffset := b, value := y.value }] := by
  unfold stagedValues
  cases hc : findValue values quad c with
  | none => exact .inl ⟨rfl, h.complete.mp hc, rfl⟩
  | some x =>
      cases hb : findValue values quad b with
      | none =>
          have hnone := h.complete.mpr hb
          rw [hc] at hnone
          cases hnone
      | some y => exact .inr ⟨x, y, rfl, rfl, rfl⟩

/-- The writes to the timing pair. -/
theorem filter_plannedQuad_timing :
    (plannedQuad values quad).filter
        (fun item => item.registerOffset == 0x6110 || item.registerOffset == 0x6124) =
      stagedValues values quad 0x6110 0x6124 fw2051ScpMaximumShapingTime := by
  rw [plannedQuad, List.filter_append, List.filter_append,
    filter_independentLiteralValues_eq_nil (p := fun r => r == 0x6110 || r == 0x6124) (by decide),
    filter_stagedValues_eq_nil (c := 0x6146) (b := 0x6148)
      (p := fun r => r == 0x6110 || r == 0x6124) (by decide) (by decide), List.nil_append,
    List.append_nil]
  refine List.filter_eq_self.mpr fun item hitem => ?_
  rcases (mem_stagedValues hitem).2 with h | h <;> rw [h] <;> decide

/-- The writes to the pair of samples. -/
theorem filter_plannedQuad_samples :
    (plannedQuad values quad).filter
        (fun item => item.registerOffset == 0x6146 || item.registerOffset == 0x6148) =
      stagedValues values quad 0x6146 0x6148 fw2051ScpMaximumSampleCount := by
  rw [plannedQuad, List.filter_append, List.filter_append,
    filter_independentLiteralValues_eq_nil (p := fun r => r == 0x6146 || r == 0x6148) (by decide),
    filter_stagedValues_eq_nil (c := 0x6110) (b := 0x6124)
      (p := fun r => r == 0x6146 || r == 0x6148) (by decide) (by decide), List.nil_append,
    List.nil_append]
  refine List.filter_eq_self.mpr fun item hitem => ?_
  rcases (mem_stagedValues hitem).2 with h | h <;> rw [h] <;> decide

end Filter

/-! ### The couplings

With the boundary widened, any value of the other register in range satisfies the coupling, and
afterwards the boundary is set to a value that was checked with it. -/

/-- A pair whose boundary is staged stays coupled from any coupled start in range. -/
theorem pairHolds_stagedValues {R : UInt16 → UInt16 → Prop} {c b maximum quad : UInt16}
    {constrained : Fw2051ScpSettingDefinition} {values : List MvmeInitScriptFrontendValue}
    (hne : b ≠ c)
    (hR : ∀ x y, fw2051ScpDependencySatisfied constrained x y = true → R x y)
    (h : PlannedPair values quad c b constrained maximum) {banks : BankCell → UInt16}
    (hstart : R (banks (quad.toNat, c)) (banks (quad.toNat, b)))
    (hwiden : R (banks (quad.toNat, c)) maximum) :
    PairHolds R quad.toNat c b
      ((stagedValues values quad c b maximum).map PlannedLiteralValue.cell) banks := by
  rcases stagedValues_cases h with ⟨-, -, hnil⟩ | ⟨x, y, hx, hy, hstaged⟩
  · rw [hnil]
    exact pairHolds_nil.mpr hstart
  · rw [hstaged]
    obtain ⟨htarget, hstaging⟩ := h.satisfied x y hx hy
    exact (pairHolds_staged hne).mpr ⟨hstart, hwiden, hR _ _ hstaging, hR _ _ htarget⟩

/-- The eight banks by number. -/
theorem mem_fw2051ScpQuads {quad : Nat} (h : quad < fw2051ScpQuadCount) :
    ∃ q ∈ fw2051ScpQuads, q.toNat = quad := by
  have hall : ∀ quad < fw2051ScpQuadCount, quad.toUInt16 ∈ fw2051ScpQuads ∧
      quad.toUInt16.toNat = quad := by decide
  exact ⟨_, hall quad h⟩

/-- The couplings hold after every prefix. -/
theorem couplingsHold_literal {state : Fw2051WorkspaceStartingState}
    {targetAddress : TargetModuleAddress} {script : GeneratedScript}
    (h : GeneratedLiteral state targetAddress script) {bench : Bench} (hranges : bench.RangesHold)
    (hcouplings : bench.CouplingsHold) (n : ℕ) :
    (bench.runWrites (script.writes.take n)).CouplingsHold := by
  refine couplingsHold_runWrites_iff.mpr (fun quad hquad => ?_) n
  obtain ⟨htiming, hsamples⟩ := hcouplings quad hquad
  have hshaping := @le_maximumValue _ _ fw2051ScpSettingRegistry[10] rfl
    (hranges quad hquad 0x6124 (by decide))
  have htotal := @le_maximumValue _ _ fw2051ScpSettingRegistry[15] rfl
    (hranges quad hquad 0x6148 (by decide))
  obtain ⟨q, hq, rfl⟩ := mem_fw2051ScpQuads hquad
  rw [cellWrites_literal h, pairHolds_iff, pairWrites_literalPlan hq, filter_plannedQuad_timing,
    pairHolds_iff (c := 0x6146), pairWrites_literalPlan hq, filter_plannedQuad_samples]
  constructor
  · exact pairHolds_stagedValues (by decide) (fun _ _ => of_decide_eq_true)
      (h.planned q hq).timing htiming (UInt16.le_trans htiming hshaping)
  · exact pairHolds_stagedValues (by decide) (fun _ _ => of_decide_eq_true)
      (h.planned q hq).samples hsamples (UInt16.lt_of_lt_of_le hsamples htotal)

/-! ### The values at the end

The last write of a cell decides. For a boundary that is the second one. -/

/-- The last of several items for one register decides. -/
theorem applyAll_cells {quad registerOffset : UInt16} {items : List PlannedLiteralValue}
    (h : ∀ item ∈ items, item.quad = quad ∧ item.registerOffset = registerOffset)
    (banks : BankCell → UInt16) :
    applyAll (items.map PlannedLiteralValue.cell) banks (quad.toNat, registerOffset) =
      (items.getLast?.map (·.value)).getD (banks (quad.toNat, registerOffset)) := by
  induction items using List.reverseRecOn with
  | nil => rfl
  | append_singleton items item _ =>
      obtain ⟨hquad, hregister⟩ := h item (List.mem_append_right _ List.mem_cons_self)
      rw [List.map_append, applyAll_append, List.getLast?_append]
      show (cellWrite item.quad.toNat item.registerOffset item.value).apply _ _ = _
      rw [hquad, hregister, apply_cellWrite, if_pos rfl]
      rfl

/-- The items for a register of a quad end with the listed value, if there is one. -/
theorem getLast?_plannedQuad {values : List MvmeInitScriptFrontendValue} {quad : UInt16}
    (h : PlannedQuad values quad) {r : UInt16} (hr : r ∈ scpRegisterOffsets) :
    ((plannedQuad values quad).filter fun item => item.registerOffset == r).getLast?.map (·.value) =
      (findValue values quad r).map (·.value) := by
  have hsplit : r ∈ fw2051ScpIndependentRegisterOrder ∨ r = 0x6110 ∨ r = 0x6124 ∨ r = 0x6146 ∨
      r = 0x6148 := by
    have hall : ∀ r ∈ scpRegisterOffsets, r ∈ fw2051ScpIndependentRegisterOrder ∨ r = 0x6110 ∨
        r = 0x6124 ∨ r = 0x6146 ∨ r = 0x6148 := by decide
    exact hall r hr
  rw [plannedQuad, List.filter_append, List.filter_append]
  rcases hsplit with hindependent | hcoupled
  · -- an independent register is written at most once
    have hne : ∀ r ∈ fw2051ScpIndependentRegisterOrder, (0x6110 == r) = false ∧
        (0x6124 == r) = false ∧ (0x6146 == r) = false ∧ (0x6148 == r) = false := by decide
    obtain ⟨h₁, h₂, h₃, h₄⟩ := hne r hindependent
    rw [filter_independentLiteralValues hindependent,
      filter_stagedValues_eq_nil (p := fun register => register == r) h₁ h₂,
      filter_stagedValues_eq_nil (p := fun register => register == r) h₃ h₄, List.append_nil,
      List.append_nil]
    cases findValue values quad r <;> rfl
  · -- The independent registers leave the coupled ones alone, and so does the other pair.
    have hindependent : (independentLiteralValues values quad).filter
        (fun item => item.registerOffset == r) = [] := by
      refine filter_independentLiteralValues_eq_nil (p := fun register => register == r) ?_
      rcases hcoupled with rfl | rfl | rfl | rfl <;> decide
    rw [hindependent, List.nil_append]
    have hother : ∀ {c b maximum : UInt16}, (c == r) = false → (b == r) = false →
        (stagedValues values quad c b maximum).filter (fun item => item.registerOffset == r) = [] :=
      fun hc hb => filter_stagedValues_eq_nil (p := fun register => register == r) hc hb
    rcases hcoupled with rfl | rfl | rfl | rfl
    · rw [hother (c := 0x6146) (by decide) (by decide), List.append_nil]
      rcases stagedValues_cases h.timing with ⟨hc, -, hnil⟩ | ⟨x, y, hx, -, hstaged⟩
      · rw [hnil, hc]
        rfl
      · rw [hstaged, hx]
        rfl
    · rw [hother (c := 0x6146) (by decide) (by decide), List.append_nil]
      rcases stagedValues_cases h.timing with ⟨-, hb, hnil⟩ | ⟨x, y, -, hy, hstaged⟩
      · rw [hnil, hb]
        rfl
      · rw [hstaged, hy]
        rfl
    · rw [hother (c := 0x6110) (by decide) (by decide), List.nil_append]
      rcases stagedValues_cases h.samples with ⟨hc, -, hnil⟩ | ⟨x, y, hx, -, hstaged⟩
      · rw [hnil, hc]
        rfl
      · rw [hstaged, hx]
        rfl
    · -- a boundary is written twice: widened first, and set at the end
      rw [hother (c := 0x6110) (by decide) (by decide), List.nil_append]
      rcases stagedValues_cases h.samples with ⟨-, hb, hnil⟩ | ⟨x, y, -, hy, hstaged⟩
      · rw [hnil, hb]
        rfl
      · rw [hstaged, hy]
        rfl

/-- A cell that is listed ends with its value, and every other cell as it was. -/
theorem banks_literal {state : Fw2051WorkspaceStartingState}
    {targetAddress : TargetModuleAddress} {script : GeneratedScript}
    (h : GeneratedLiteral state targetAddress script) (bench : Bench) {quad r : UInt16}
    (hquad : quad ∈ fw2051ScpQuads) (hr : r ∈ scpRegisterOffsets) :
    (bench.runWrites script.writes).banks (quad.toNat, r) =
      ((findValue state.frontendValues quad r).map (·.value)).getD
        (bench.banks (quad.toNat, r)) := by
  have hcell : applyAll (literalPlan state.frontendValues) bench.banks (quad.toNat, r) =
      applyAll (pairWrites quad.toNat r r (literalPlan state.frontendValues)) bench.banks
        (quad.toNat, r) :=
    applyAll_filter (fun k => decide (k = (quad.toNat, r) ∨ k = (quad.toNat, r))) _
      (fun _ _ => rfl) (decide_eq_true (.inl rfl))
  rw [Bench.banks_runWrites, cellWrites_literal h, hcell, pairWrites_literalPlan hquad,
    ← getLast?_plannedQuad (h.planned quad hquad) hr]
  simp only [Bool.or_self]
  refine applyAll_cells (fun item hitem => ?_) bench.banks
  obtain ⟨hmem, hregister⟩ := List.mem_filter.mp hitem
  exact ⟨(mem_plannedQuad hmem).1, beq_iff_eq.mp hregister⟩

/-- The script of a starting state never breaks a coupling, ends with the selector at quad 0 and
the listed cells at their values, and leaves all other cells alone. -/
theorem literalScript_safe (state : Fw2051WorkspaceStartingState)
    (targetAddress : TargetModuleAddress) (bench : Bench)
    (hgenerated : (generateFw2051LiteralScript state targetAddress).success = true)
    (hranges : bench.RangesHold) (hcouplings : bench.CouplingsHold) :
    let writes := (generateFw2051LiteralScript state targetAddress).script.writes
    (∀ n, (bench.runWrites (writes.take n)).CouplingsHold) ∧
    (bench.runWrites writes).selector = 0 ∧
    (∀ value ∈ state.frontendValues,
      (bench.runWrites writes).banks (value.quad.toNat, value.registerOffset) = value.value) ∧
    ∀ cell, (∀ value ∈ state.frontendValues, (value.quad.toNat, value.registerOffset) ≠ cell) →
      (bench.runWrites writes).banks cell = bench.banks cell := by
  have hliteral := generatedLiteral_of_success hgenerated
  intro writes
  have hquad : ∀ value ∈ state.frontendValues, value.quad ∈ fw2051ScpQuads := by
    intro value hvalue
    obtain ⟨q, hq, heq⟩ := mem_fw2051ScpQuads (hliteral.valid.quad_lt value hvalue)
    rwa [← UInt16.toNat_inj.mp heq]
  refine ⟨couplingsHold_literal hliteral hranges hcouplings, ?_, fun value hvalue => ?_, ?_⟩
  · -- the footer parks the selector
    have hlast : ∃ before : GeneratedScript,
        writes = before.writes ++ [(fw2051ScpSelectorRegister, 0)] :=
      ⟨_, (congrArg _ hliteral.script_eq).trans (GeneratedScript.writes_append _ literalFooter)⟩
    obtain ⟨before, hbefore⟩ := hlast
    rw [hbefore, Bench.runWrites_append]
    exact Bench.selector_write_selector
  · rw [banks_literal hliteral bench (hquad value hvalue) (hliteral.valid.banked value hvalue),
      hliteral.valid.found value hvalue]
    rfl
  · -- a cell that is not listed is written back with nothing, or is not in the banks
    rintro ⟨index, r⟩ hunlisted
    by_cases hcell : index < fw2051ScpQuadCount ∧ r ∈ scpRegisterOffsets
    · obtain ⟨quad, hq, rfl⟩ := mem_fw2051ScpQuads hcell.1
      rw [banks_literal hliteral bench hq hcell.2]
      cases hfound : findValue state.frontendValues quad r with
      | none => rfl
      | some value =>
          obtain ⟨hmem, rfl, rfl⟩ := findValue_eq_some hfound
          exact absurd rfl (hunlisted value hmem)
    · rw [Bench.banks_runWrites, cellWrites_literal hliteral]
      refine applyAll_of_notMem (fun hmem => hcell ?_) _
      obtain ⟨w, hw, hkey⟩ := List.mem_map.mp hmem
      obtain ⟨quad, hq, hw⟩ := List.mem_flatMap.mp hw
      obtain ⟨item, hitem, rfl⟩ := List.mem_map.mp hw
      obtain ⟨rfl, hregister⟩ := mem_plannedQuad hitem
      cases hkey
      have hlt : ∀ quad ∈ fw2051ScpQuads, quad.toNat < fw2051ScpQuadCount := by decide
      exact ⟨hlt _ hq, hregister⟩

/-- Both values of the first pair of quad 1, and a gain in quad 0. -/
def exampleStartingState : Fw2051WorkspaceStartingState :=
  { sourceEvaluationState := .complete
    frontendValues := [
      { location := {}, quad := 0, registerOffset := 0x611A, value := 500 },
      { location := {}, quad := 1, registerOffset := 0x6110, value := 125 },
      { location := {}, quad := 1, registerOffset := 0x6124, value := 200 }] }

/-- The address of the module. -/
def exampleTargetAddress : TargetModuleAddress := ⟨0x11000000, by decide⟩

/-- A module with a narrow boundary, in the middle of the script and after it. -/
theorem literalScript_safe_example :
    (narrowBench.runWrites ((generateFw2051LiteralScript exampleStartingState
        exampleTargetAddress).script.writes.take 5)).CouplingsHold ∧
      (narrowBench.runWrites (generateFw2051LiteralScript exampleStartingState
        exampleTargetAddress).script.writes).banks (1, 0x6110) = 125 := by
  have hsafe := literalScript_safe exampleStartingState exampleTargetAddress narrowBench
    (by decide +kernel) (by unfold Bench.RangesHold; decide +kernel)
    (by unfold Bench.CouplingsHold; decide +kernel)
  exact ⟨hsafe.1 5, hsafe.2.2.1 exampleStartingState.frontendValues[1] (by decide)⟩

end Fidget
