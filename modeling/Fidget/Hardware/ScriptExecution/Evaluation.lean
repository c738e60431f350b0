import Fidget.Core.MvmeInitScript.Attribution
import Fidget.Core.MvmeInitScript.Conditional
import Fidget.Core.MvmeWorkspaceExport.Plan
import Fidget.Hardware.ScriptExecution
import Fidget.Lib.Lists

/-!
# Evaluating the writes of a generated script

The evaluator attributes the writes of a generated script to the cells that a module would write
them to, as long as the selector is moved to a quad before the first banked write. The final values
are then the last values that the plan of the script leaves in its cells.

## Main results

- `Attributable`: whenever a list of writes reaches a bank, the selector is known.
- `attributed_writeEffect`: such a write is evaluated as the write to the cell that a module would
  make.
- `evaluated_scriptEntry`: a readable script with attributable writes is evaluated as its plan.
- `reproduces_evaluateScripts_iff`: when the result of an evaluation consists of given values.
-/

namespace Fidget

open scoped Fidget.Lists

open MvmeInitScript MvmeWorkspaceExport WritePlan

/-- The value that a plan leaves in a cell. -/
def lastValue (plan : List (Write BankCell UInt16)) (cell : BankCell) : Option UInt16 :=
  (plan.filter fun w => w.key = cell).getLast?.map (·.after)

/-- A later write counts. -/
theorem lastValue_append (plan plan' : List (Write BankCell UInt16)) (cell : BankCell) :
    lastValue (plan ++ plan') cell = (lastValue plan' cell).or (lastValue plan cell) := by
  unfold lastValue
  rw [List.filter_append, List.getLast?_append]
  cases (plan'.filter fun w => w.key = cell).getLast? <;> rfl

/-- The selector is moved to one quad at a time, and before anything that depends on it. -/
def Attributable : Option UInt16 → List (UInt16 × UInt16) → Prop
  | _, [] => True
  | selector, (registerOffset, value) :: writes =>
    if registerOffset = fw2051ScpSelectorRegister then
      value ∈ fw2051ScpQuads ∧ Attributable (some value) writes
    else
      ((findFw2051ScpSetting registerOffset).isSome →
        ∃ quad ∈ fw2051ScpQuads, selector = some quad) ∧ Attributable selector writes

namespace Evaluator

/-- The value that is final for a register of a quad so far. -/
def valueAt (e : Evaluator) (quad registerOffset : UInt16) : Option UInt16 :=
  e.finalValues[(quad, registerOffset)]?.map (·.value)

/-- What an evaluation of harmless statements does to the state before it. -/
structure Evaluated (e e' : Evaluator) (plan : List (Write BankCell UInt16)) : Prop where
  statementsConditional : e'.statementsConditional = e.statementsConditional
  conditionalFrontendWrite : e'.conditionalFrontendWrite = e.conditionalFrontendWrite
  parseFailureEncountered : e'.parseFailureEncountered = e.parseFailureEncountered
  issues : ∃ issues, e'.result.unresolvedStatements = e.result.unresolvedStatements ++ issues ∧
    ∀ issue ∈ issues, issue.impact = .nonFrontend
  values : ∀ quad registerOffset, e'.valueAt quad registerOffset =
    (lastValue plan (quad.toNat, registerOffset)).or (e.valueAt quad registerOffset)

section Evaluated

variable {e e' e'' : Evaluator} {plan plan' : List (Write BankCell UInt16)}

theorem Evaluated.refl (e : Evaluator) : Evaluated e e [] where
  statementsConditional := rfl
  conditionalFrontendWrite := rfl
  parseFailureEncountered := rfl
  issues := ⟨[], (List.append_nil _).symm, fun _ h => nomatch h⟩
  values := fun _ _ => rfl

/-- Two plans one after the other. -/
theorem Evaluated.trans (h : Evaluated e e' plan) (h' : Evaluated e' e'' plan') :
    Evaluated e e'' (plan ++ plan') where
  statementsConditional := h'.statementsConditional.trans h.statementsConditional
  conditionalFrontendWrite := h'.conditionalFrontendWrite.trans h.conditionalFrontendWrite
  parseFailureEncountered := h'.parseFailureEncountered.trans h.parseFailureEncountered
  issues := by
    obtain ⟨issues, heq, hissues⟩ := h.issues
    obtain ⟨issues', heq', hissues'⟩ := h'.issues
    refine ⟨issues ++ issues', by rw [heq', heq, List.append_assoc], ?_⟩
    intro issue hissue
    rcases List.mem_append.mp hissue with hissue | hissue
    · exact hissues issue hissue
    · exact hissues' issue hissue
  values := by
    intro quad registerOffset
    rw [h'.values, h.values, lastValue_append, Option.or_assoc]

variable (location : MvmeInitScriptLocation)

/-- A report changes no value. -/
theorem evaluated_report (e : Evaluator) (reason : MvmeInitScriptUnresolvedReason)
    (message : String) :
    Evaluated e ((LineEffect.report false .nonFrontend reason message false).apply location e) []
    where
  statementsConditional := rfl
  conditionalFrontendWrite := rfl
  parseFailureEncountered := rfl
  issues := ⟨_, rfl, fun issue hissue => by rw [List.mem_singleton.mp hissue]⟩
  values := fun _ _ => rfl

/-- A bank is neither the broadcast nor beyond it. -/
theorem le_broadcast_of_mem : ∀ quad ∈ fw2051ScpQuads,
    ¬ quad > fw2051ScpBroadcastSelectorValue ∧ quad ≠ fw2051ScpBroadcastSelectorValue := by decide

/-- Selecting a bank. -/
theorem setSelector_quad (e : Evaluator) {value : UInt16} (h : value ∈ fw2051ScpQuads) :
    Evaluated e (e.setSelector location value) [] ∧
      (e.setSelector location value).selector = some value := by
  unfold setSelector
  simp only [if_neg (le_broadcast_of_mem value h).1]
  refine ⟨?_, trivial⟩
  exact
    { statementsConditional := rfl
      conditionalFrontendWrite := rfl
      parseFailureEncountered := rfl
      issues := ⟨[], (List.append_nil _).symm, fun _ h => nomatch h⟩
      values := fun _ _ => rfl }

/-- A write with the selector at a quad is attributed to the cell that it reaches. -/
theorem evaluateBankedWrite_quad {selector : UInt16} (hselector : e.selector = some selector)
    (hquad : selector ∈ fw2051ScpQuads) (registerOffset value : UInt16) :
    Evaluated e (e.evaluateBankedWrite location registerOffset value)
        [cellWrite selector.toNat registerOffset value] ∧
      (e.evaluateBankedWrite location registerOffset value).selector = some selector := by
  rw [evaluateBankedWrite_of_some e location hselector]
  refine ⟨?_, hselector⟩
  refine
    { statementsConditional := rfl
      conditionalFrontendWrite := rfl
      parseFailureEncountered := rfl
      issues := ⟨[], (List.append_nil _).symm, fun _ h => nomatch h⟩
      values := ?_ }
  intro quad r
  simp only [valueAt, if_neg (le_broadcast_of_mem selector hquad).2, List.foldl_cons,
    List.foldl_nil, Std.TreeMap.getElem?_insert, Std.LawfulEqCmp.compare_eq_iff_eq]
  by_cases hkey : (selector, registerOffset) = (quad, r)
  · cases hkey
    rw [if_pos rfl]
    simp [lastValue, cellWrite]
  · have hcell : ¬ (selector.toNat, registerOffset) = (quad.toNat, r) := by
      intro heq
      rw [Prod.mk.injEq, UInt16.toNat_inj] at heq
      exact hkey (Prod.ext heq.1 heq.2)
    rw [if_neg hkey]
    simp [lastValue, cellWrite, hcell]

/-- The registers that the evaluation follows. -/
theorem isFrontendAddress_toUInt32 (registerOffset : UInt16) :
    isFrontendAddress registerOffset.toUInt32 =
      (decide (registerOffset = fw2051ScpSelectorRegister) ||
        (findFw2051ScpSetting registerOffset).isSome) := by
  have hrange : ¬ registerOffset.toUInt32 > 0xFFFF := by
    rw [gt_iff_lt, UInt32.lt_iff_toNat_lt, UInt16.toNat_toUInt32]
    have := registerOffset.toNat_lt
    show ¬ 65535 < registerOffset.toNat
    omega
  unfold isFrontendAddress
  simp only [if_neg hrange, UInt16.toUInt16_toUInt32]

/-- The selector is followed. -/
theorem writeEffect_selector (value : UInt16) :
    writeEffect fw2051ScpSelectorRegister value = .select value := rfl

/-- The registers of the banks are not the selector. -/
theorem ne_selector_of_mem {registerOffset : UInt16} (h : registerOffset ∈ scpRegisterOffsets) :
    registerOffset ≠ fw2051ScpSelectorRegister :=
  fun heq => Bench.selector_notMem (heq ▸ h)

/-- They are followed. -/
theorem writeEffect_banked {registerOffset : UInt16} (h : registerOffset ∈ scpRegisterOffsets)
    (value : UInt16) : writeEffect registerOffset value = .write registerOffset value := by
  unfold writeEffect
  rw [isFrontendAddress_toUInt32, findFw2051ScpSetting_isSome.mpr h, Bool.or_true, Bool.not_true,
    if_neg Bool.false_ne_true, if_neg (ne_selector_of_mem h)]

/-- Other registers are reported. -/
theorem writeEffect_global {registerOffset : UInt16} (h : registerOffset ∉ scpRegisterOffsets)
    (hselector : registerOffset ≠ fw2051ScpSelectorRegister) (value : UInt16) :
    writeEffect registerOffset value =
      .report false .nonFrontend .unsupportedStatement
        "A target-module write outside the frontend subset was not interpreted." false := by
  have hnone : (findFw2051ScpSetting registerOffset).isSome = false :=
    Bool.eq_false_iff.mpr (findFw2051ScpSetting_isSome.not.mpr h)
  unfold writeEffect
  rw [isFrontendAddress_toUInt32, hnone, decide_eq_false hselector]
  rfl

/-- What the evaluation of a write leads to: the cells that it reaches, and a state in which the
rest can be evaluated. -/
structure Attributed (e e' : Evaluator) (written rest : List (UInt16 × UInt16)) : Prop where
  evaluated : Evaluated e e' (cellWrites (e.selector.getD 0) written)
  attributable : Attributable e'.selector rest
  cellWrites_eq : cellWrites (e.selector.getD 0) (written ++ rest) =
    cellWrites (e.selector.getD 0) written ++ cellWrites (e'.selector.getD 0) rest

/-- A write that can be attributed is attributed. -/
theorem attributed_writeEffect (registerOffset value : UInt16) (rest : List (UInt16 × UInt16))
    (h : Attributable e.selector ((registerOffset, value) :: rest)) :
    Attributed e ((writeEffect registerOffset value).apply location e) [(registerOffset, value)]
      rest := by
  unfold Attributable at h
  by_cases hselector : registerOffset = fw2051ScpSelectorRegister
  · -- a write of the selector
    rw [if_pos hselector] at h
    obtain ⟨hevaluated, hafter⟩ := setSelector_quad location e h.1
    rw [hselector, writeEffect_selector]
    refine ⟨?_, ?_, ?_⟩
    · rw [cellWrites_selector]
      exact hevaluated
    · exact hafter ▸ h.2
    · have hselected : ((LineEffect.select value).apply location e).selector = some value := hafter
      rw [hselected, List.singleton_append, cellWrites_selector, cellWrites_selector]
      rfl
  rw [if_neg hselector] at h
  by_cases hbanked : registerOffset ∈ scpRegisterOffsets
  · -- a write to a bank, which the selector names
    obtain ⟨selector, hquad, hselected⟩ := h.1 (findFw2051ScpSetting_isSome.mpr hbanked)
    obtain ⟨hevaluated, hafter⟩ :=
      evaluateBankedWrite_quad location hselected hquad registerOffset value
    have hsame : ((LineEffect.write registerOffset value).apply location e).selector =
        some selector := hafter
    rw [writeEffect_banked hbanked]
    refine ⟨?_, ?_, ?_⟩
    · rw [hselected, cellWrites_banked hbanked]
      exact hevaluated
    · rw [hsame, ← hselected]
      exact h.2
    · rw [hsame, hselected, List.singleton_append, cellWrites_banked hbanked,
        cellWrites_banked hbanked]
      rfl
  · -- any other write is reported, and belongs to no cell
    rw [writeEffect_global hbanked hselector]
    refine ⟨?_, h.2, ?_⟩
    · rw [cellWrites_global hbanked hselector]
      exact evaluated_report location e _ _
    · rw [List.singleton_append, cellWrites_global hbanked hselector,
        cellWrites_global hbanked hselector]
      rfl

/-- So is a line, whether or not it writes. -/
theorem attributed_lineEffect (line : ScriptLine) (rest : List (UInt16 × UInt16))
    (h : Attributable e.selector (line.write?.toList ++ rest)) :
    Attributed e ((lineEffect line).apply location e) line.write?.toList rest := by
  cases line with
  | longWrite registerOffset value => exact attributed_writeEffect location _ _ rest h
  | shortWrite registerOffset value remark =>
      exact attributed_writeEffect location _ _ rest h
  | settle => exact ⟨evaluated_report location e _ _, h, rfl⟩
  | blank => exact ⟨Evaluated.refl e, h, rfl⟩
  | comment text => exact ⟨Evaluated.refl e, h, rfl⟩

/-- The final values of a generated script are those of its plan. -/
theorem evaluated_runScriptLines (scriptIndex lineNumber : Nat) {script : GeneratedScript}
    (h : Attributable e.selector script.writes) :
    Evaluated e (runScriptLines scriptIndex e lineNumber script)
      (cellWrites (e.selector.getD 0) script.writes) := by
  induction script generalizing e lineNumber with
  | nil => exact Evaluated.refl e
  | cons line script ih =>
      have hwrites : GeneratedScript.writes (line :: script) =
          line.write?.toList ++ GeneratedScript.writes script := by
        unfold GeneratedScript.writes
        rw [List.filterMap_cons]
        cases line.write? <;> rfl
      rw [hwrites] at h ⊢
      have hline := attributed_lineEffect { scriptIndex, lineNumber } line _ h
      rw [hline.cellWrites_eq]
      exact hline.evaluated.trans (ih (lineNumber + 1) hline.attributable)

/-- An entry of a generated script, after others that left no condition behind. -/
theorem evaluated_scriptEntry (target : TargetModuleAddress) (scriptIndex : Nat)
    {script : GeneratedScript} (hreadable : ∀ line ∈ script, line.Readable)
    (hconditional : e.statementsConditional = false) (h : Attributable e.selector script.writes) (resolver : ValueResolver) :
    Evaluated e ((EntryEffect.script script.text.toList resolver).apply target scriptIndex e)
      (cellWrites (e.selector.getD 0) script.writes) := by
  have hrun := @evaluated_runScriptLines
    { e with
      result := { e.result with enabledScriptCount := e.result.enabledScriptCount + 1 }
      currentScriptParseFailed := false } scriptIndex 1 script h
  have hentry := @evaluateScript_generated target
    { e with
      result := { e.result with enabledScriptCount := e.result.enabledScriptCount + 1 } }
    scriptIndex script hreadable hconditional resolver
  rw [EntryEffect.apply, hentry]
  exact
    { statementsConditional := hrun.statementsConditional
      conditionalFrontendWrite := hrun.conditionalFrontendWrite
      parseFailureEncountered := hrun.parseFailureEncountered
      issues := hrun.issues
      values := hrun.values }

/-! ### Plans that can be attributed -/

/-- Writes to a selected bank. -/
theorem attributable_banked {writes rest : List (UInt16 × UInt16)}
    (hwrites : ∀ written ∈ writes, written.1 ∈ scpRegisterOffsets) {selector : UInt16}
    (hselector : selector ∈ fw2051ScpQuads) (h : Attributable (some selector) rest) : Attributable (some selector) (writes ++ rest) := by
  induction writes with
  | nil => exact h
  | cons written writes ih =>
      have hmem := hwrites written List.mem_cons_self
      rw [List.cons_append, Attributable, if_neg (ne_selector_of_mem hmem)]
      exact ⟨fun _ => ⟨selector, hselector, rfl⟩, ih fun w hw => hwrites w (List.mem_cons_of_mem _ hw)⟩

/-- A selection, and what comes after it. -/
theorem attributable_selector {value : UInt16} (hvalue : value ∈ fw2051ScpQuads)
    {rest : List (UInt16 × UInt16)} (h : Attributable (some value) rest)
    (selector : Option UInt16) :
    Attributable selector ((fw2051ScpSelectorRegister, value) :: rest) := by
  rw [Attributable, if_pos rfl]
  exact ⟨hvalue, h⟩

end Evaluated

end Evaluator

/-! ### The result of an evaluation -/

/-- The evaluation has neither failed nor depends on a test, and these are its values. -/
structure Reproduces (evaluation : MvmeInitScriptEvaluation)
    (values : UInt16 → UInt16 → Option UInt16) : Prop where
  not_failed : evaluation.state ≠ .failed
  not_conditional : evaluation.state ≠ .conditionalAfterAccuTest
  values : ∀ quad registerOffset,
    (findValue evaluation.finalFrontendValues quad registerOffset).map (·.value) =
      values quad registerOffset

/-- Besides, nothing that matters to the frontend has been left open. -/
structure Definite (evaluation : MvmeInitScriptEvaluation)
    (values : UInt16 → UInt16 → Option UInt16) : Prop extends Reproduces evaluation values where
  issues : ∀ issue ∈ evaluation.unresolvedStatements, issue.impact ≠ .frontend

namespace Evaluator

section Result

variable {location : MvmeInitScriptLocation} {e : Evaluator}

/-- The final values are listed once each. -/
theorem getElem?_of_mem_finalValues (h : Consistent location e) {value : MvmeInitScriptFrontendValue}
    (hmem : value ∈ e.finalValues.toList.map (·.2)) : e.finalValues[value.key]? = some value := by
  obtain ⟨⟨key, found⟩, hentry, rfl⟩ := List.mem_map.mp hmem
  rw [h.key_eq hentry]
  exact Std.TreeMap.mem_toList_iff_getElem?_eq_some.mp hentry

/-- The list of final values is searched like the map that it comes from. -/
theorem findValue_finalValues (h : Consistent location e) (quad registerOffset : UInt16) :
    findValue (e.finalValues.toList.map (·.2)) quad registerOffset =
      e.finalValues[(quad, registerOffset)]? := by
  cases hfound : findValue (e.finalValues.toList.map (·.2)) quad registerOffset with
  | some value =>
      obtain ⟨hmem, rfl, rfl⟩ := findValue_eq_some hfound
      exact (getElem?_of_mem_finalValues h hmem).symm
  | none =>
      cases hvalue : e.finalValues[(quad, registerOffset)]? with
      | none => rfl
      | some value =>
          have hentry := Std.TreeMap.mem_toList_iff_getElem?_eq_some.mpr hvalue
          have hnone := List.find?_eq_none.mp hfound value (List.mem_map.mpr ⟨_, hentry, rfl⟩)
          obtain ⟨hquad, hregister⟩ := Prod.mk.inj (h.key_eq hentry)
          simp [hquad, hregister] at hnone

/-- The evaluation will neither fail nor depend on a test. -/
structure Settled (e : Evaluator) : Prop where
  parseFailureEncountered : e.parseFailureEncountered = false
  conditionalFrontendWrite : e.conditionalFrontendWrite = false
  issues : ∀ issue ∈ e.result.unresolvedStatements, issue.impact = .frontend →
    issue.reason = .conditionalAfterAccuTest

/-- Nothing evaluated, nothing open. -/
theorem settled_initial : Settled {} := ⟨rfl, rfl, fun _ h => nomatch h⟩

/-- Nothing is open if the state is neither failed nor conditional. -/
theorem settled_iff :
    Settled e ↔ e.finalState.1 ≠ .failed ∧ e.finalState.1 ≠ .conditionalAfterAccuTest := by
  -- the final state's own test over the issues
  have hissues : (e.result.unresolvedStatements.any fun unresolved =>
      unresolved.impact = .frontend && unresolved.reason ≠ .conditionalAfterAccuTest) = false ↔
      ∀ issue ∈ e.result.unresolvedStatements, issue.impact = .frontend →
        issue.reason = .conditionalAfterAccuTest := by
    rw [List.any_eq_false]
    simp
  unfold finalState
  simp only
  constructor
  · intro h
    rw [if_neg (Bool.eq_false_iff.mp h.parseFailureEncountered),
      if_neg (Bool.eq_false_iff.mp (hissues.mpr h.issues)),
      if_neg (Bool.eq_false_iff.mp h.conditionalFrontendWrite)]
    split <;> exact ⟨nofun, nofun⟩
  · intro h
    split at h
    · exact absurd rfl h.1
    split at h
    · exact absurd rfl h.1
    split at h
    · exact absurd rfl h.2
    next hparse hfrontend hconditional =>
      exact ⟨Bool.eq_false_iff.mpr hparse, Bool.eq_false_iff.mpr hconditional,
        hissues.mp (Bool.eq_false_iff.mpr hfrontend)⟩

/-- What is settled has always been. -/
theorem Settled.of_persists {e' : Evaluator} (h : Settled e') (hpersists : Persists e e') :
    Settled e where
  parseFailureEncountered := by
    rw [Bool.eq_false_iff]
    intro hfailed
    cases h.parseFailureEncountered.symm.trans (hpersists.parseFailureEncountered hfailed)
  conditionalFrontendWrite := by
    rw [Bool.eq_false_iff]
    intro hconditional
    cases h.conditionalFrontendWrite.symm.trans (hpersists.conditionalFrontendWrite hconditional)
  issues := fun issue hissue => h.issues issue (hpersists.unresolvedStatements.subset hissue)

/-- A plan leaves nothing open. -/
theorem Settled.of_evaluated (h : Settled e) {e' : Evaluator}
    {plan : List (Write BankCell UInt16)} (hevaluated : Evaluated e e' plan) : Settled e' where
  parseFailureEncountered := hevaluated.parseFailureEncountered.trans h.parseFailureEncountered
  conditionalFrontendWrite := hevaluated.conditionalFrontendWrite.trans h.conditionalFrontendWrite
  issues := by
    obtain ⟨issues, heq, hissues⟩ := hevaluated.issues
    intro issue hissue hfrontend
    rw [heq] at hissue
    rcases List.mem_append.mp hissue with hissue | hissue
    · exact h.issues issue hissue hfrontend
    · cases hfrontend.symm.trans (hissues issue hissue)

/-- The state and the values of an evaluation are those of its last evaluator. -/
theorem reproduces_evaluateScripts_iff {address : TargetModuleAddress} {context : ScriptContext}
    {scripts : List Json} {values : UInt16 → UInt16 → Option UInt16} :
    Reproduces (evaluateScripts address context scripts) values ↔
      Settled (evaluateEntries address context scripts) ∧
        ∀ quad registerOffset,
          (evaluateEntries address context scripts).valueAt quad registerOffset =
            values quad registerOffset := by
  have hconsistent : Consistent { scriptIndex := 0 + scripts.length }
      (evaluateEntries address context scripts) :=
    (consistent_initial { scriptIndex := 0 }).evaluateEntriesFrom address context scripts
  have hvalue (quad registerOffset : UInt16) :
      (findValue (evaluateScripts address context scripts).finalFrontendValues quad
        registerOffset).map (·.value) =
        (evaluateEntries address context scripts).valueAt quad registerOffset :=
    congrArg _ (findValue_finalValues hconsistent quad registerOffset)
  constructor
  · intro h
    exact ⟨settled_iff.mpr ⟨h.not_failed, h.not_conditional⟩,
      fun quad registerOffset => (hvalue ..).symm.trans (h.values quad registerOffset)⟩
  · rintro ⟨hsettled, hvalues⟩
    have hstate := settled_iff.mp hsettled
    exact ⟨hstate.1, hstate.2,
      fun quad registerOffset => (hvalue ..).trans (hvalues quad registerOffset)⟩

/-- An issue of the frontend is a failure. -/
theorem finalState_of_frontendIssue {e : Evaluator} {issue : MvmeInitScriptUnresolvedStatement}
    (hmem : issue ∈ e.result.unresolvedStatements) (hfrontend : issue.impact = .frontend)
    (hreason : issue.reason ≠ .conditionalAfterAccuTest) : e.finalState.1 = .failed := by
  have hfailure : (e.result.unresolvedStatements.any fun unresolved =>
      unresolved.impact = .frontend && unresolved.reason ≠ .conditionalAfterAccuTest) = true := by
    refine List.any_eq_true.mpr ⟨issue, hmem, ?_⟩
    rw [decide_eq_true hfrontend, decide_eq_true hreason, Bool.and_self]
  unfold finalState
  simp only [hfailure, if_true]
  split <;> rfl

/-- An entry that is refused makes the evaluation fail. -/
theorem finalState_refusedEffect (address : TargetModuleAddress) (scriptIndex count : Nat)
    (message : String) (e : Evaluator) :
    ((refusedEffect scriptIndex count message).apply address scriptIndex e).finalState.1 =
      .failed :=
  finalState_of_frontendIssue (List.mem_append_right _ List.mem_cons_self) rfl
    MvmeInitScriptUnresolvedReason.noConfusion

end Result

end Evaluator

end Fidget
