import Fidget.Core.MvmeInitScript.Generated

/-!
# What later scripts cannot undo

A failure, a conditional write and an `accu_test` are there to stay: no line, script or entry takes
them back. After an `accu_test` a generated script writes to the frontend under a condition.

## Main results

- `Persists`: what stays as it is once it has come about.
- `conditionalFrontendWrite_scriptEntry`: a generated script after an `accu_test` writes under a
  condition.
-/

namespace Fidget

open MvmeInitScript NumberText

namespace Evaluator

/-- What an evaluation has come to that stands whatever comes later. -/
structure Persists (e e' : Evaluator) : Prop where
  parseFailureEncountered : e.parseFailureEncountered = true → e'.parseFailureEncountered = true
  conditionalFrontendWrite : e.conditionalFrontendWrite = true → e'.conditionalFrontendWrite = true
  statementsConditional : e.statementsConditional = true → e'.statementsConditional = true
  unresolvedStatements : e.result.unresolvedStatements <+: e'.result.unresolvedStatements
  /-- An `accu_test` that counts has its location. -/
  located : e.statementsConditional = e.result.conditionalAccuTestLocation.isSome →
    e'.statementsConditional = e'.result.conditionalAccuTestLocation.isSome

/-- Nothing takes anything back. -/
theorem Persists.refl (e : Evaluator) : Persists e e := ⟨id, id, id, List.prefix_rfl, id⟩

theorem Persists.trans {e e' e'' : Evaluator} (h : Persists e e') (h' : Persists e' e'') :
    Persists e e'' where
  parseFailureEncountered := h'.parseFailureEncountered ∘ h.parseFailureEncountered
  conditionalFrontendWrite := h'.conditionalFrontendWrite ∘ h.conditionalFrontendWrite
  statementsConditional := h'.statementsConditional ∘ h.statementsConditional
  unresolvedStatements := h.unresolvedStatements.trans h'.unresolvedStatements
  located := h'.located ∘ h.located

/-! ### Lines, scripts and entries

A failure, a condition and an issue are never taken back, also where a script is rolled back. -/

section Persists

variable (location : MvmeInitScriptLocation) (target : TargetModuleAddress) (scriptIndex : Nat)

/-- No effect of a line takes anything back. -/
theorem persists_apply (e : Evaluator) (effect : LineEffect) :
    Persists e (effect.apply location e) := by
  have hissues := (extends_apply e location effect).unresolvedStatements
  cases effect with
  | none => exact Persists.refl e
  | report failed impact reason message reset =>
      cases failed <;> cases reset <;> exact ⟨id, id, id, hissues, id⟩
  | select value =>
      show Persists e (e.setSelector location value)
      unfold setSelector
      split
      · -- a selector value out of range is reported, and the bank is unknown
        exact ⟨id, id, id, List.prefix_append .., id⟩
      · exact ⟨id, id, id, List.prefix_rfl, id⟩
  | write registerOffset value =>
      show Persists e (e.evaluateBankedWrite location registerOffset value)
      cases hselector : e.selector with
      | none =>
          -- a banked write before any selection is reported
          unfold evaluateBankedWrite
          rw [hselector]
          exact ⟨id, id, id, List.prefix_append .., id⟩
      | some selector =>
          rw [evaluateBankedWrite_of_some e location hselector]
          exact ⟨id, id, id, List.prefix_rfl, id⟩
  -- from here on the statements are conditional
  | test => exact ⟨id, id, fun _ => rfl, hissues, fun _ => rfl⟩
  | taint address valueText =>
      obtain ⟨values, selector, heq⟩ := taintConditionalFrontendValue_eq
        { e with conditionalFrontendWrite := true } address valueText
      show Persists e ((taintConditionalFrontendValue _ address valueText).addIssue ..)
      rw [heq]
      exact ⟨id, fun _ => rfl, id, List.prefix_append .., id⟩

/-- So no lines do. -/
theorem persists_evaluateLines (e : Evaluator) (resolver : ValueResolver) (lineNumber : Nat)
    (lines : List Text) :
    Persists e (evaluateLines target scriptIndex e resolver lineNumber lines) := by
  induction lines generalizing e resolver lineNumber with
  | nil => exact Persists.refl e
  | cons line lines ih =>
      unfold evaluateLines
      simp only
      split
      · exact ih ..
      · obtain ⟨effect, resolver', -, -, heffect⟩ := exists_effect_evaluateLine target resolver
          { scriptIndex, lineNumber } (trim line)
        rw [heffect e]
        exact (persists_apply _ e _).trans (ih ..)

/-- A script that is undone keeps its failure and its issues. -/
theorem persists_evaluateScript (e : Evaluator) (source : Text) (resolver : ValueResolver) :
    Persists e (evaluateScript target e scriptIndex source resolver) := by
  have hextends := extends_evaluateText target scriptIndex e source resolver
  by_cases hrejected : textRejected target source resolver = true
  · have hattribution := attribution_evaluateScript_of_rejected target scriptIndex hrejected e
    have hconditional := congrArg Attribution.statementsConditional hattribution
    have hwrite := congrArg Attribution.conditionalFrontendWrite hattribution
    have hlocation := congrArg Attribution.conditionalAccuTestLocation hattribution
    refine ⟨?_, hwrite.trans, hconditional.trans, ?_, ?_⟩
    · intro hfailed
      rw [parseFailureEncountered_evaluateScript, hfailed, Bool.true_or]
    · unfold evaluateScript
      simp only [currentScriptParseFailed_evaluateText, if_pos hrejected]
      exact hextends.unresolvedStatements
    · intro hlocated
      exact hconditional.trans (hlocated.trans (congrArg Option.isSome hlocation.symm))
  · unfold evaluateScript
    simp only [currentScriptParseFailed_evaluateText, if_neg hrejected]
    have hstart : Persists e { e with currentScriptParseFailed := false } :=
      ⟨id, id, id, List.prefix_rfl, id⟩
    have hlines := hstart.trans (persists_evaluateLines target scriptIndex _ resolver 1
      (splitLines (stripComments source).text))
    unfold evaluateText
    simp only
    split
    · exact hlines.trans (persists_apply _ _ (.report true .frontend .malformedScript _ true))
    · exact hlines

theorem persists_applyEntry (e : Evaluator) (effect : EntryEffect) :
    Persists e (effect.apply target scriptIndex e) := by
  cases effect with
  | disabled => exact Persists.refl e
  | script text resolver =>
      have hcount : Persists e { e with
          result := { e.result with enabledScriptCount := e.result.enabledScriptCount + 1 } } :=
        ⟨id, id, id, List.prefix_rfl, id⟩
      exact hcount.trans (persists_evaluateScript target scriptIndex _ text resolver)
  | unusable count issues => exact ⟨id, id, id, List.prefix_append .., id⟩

/-- No entries behind do. -/
theorem persists_evaluateEntriesFrom (context : ScriptContext) (e : Evaluator) (n : Nat)
    (scripts : List Json) : Persists e (evaluateEntriesFrom target context e n scripts) := by
  induction scripts generalizing e n with
  | nil => exact Persists.refl e
  | cons script scripts ih =>
      rw [evaluateEntriesFrom_cons]
      exact (persists_applyEntry target n e _).trans (ih ..)

end Persists

/-! ### Generated scripts after an `accu_test`

A generated script moves the selector, and behind a test that is a write to the frontend which may
or may not happen. -/

section Tested

variable {target : TargetModuleAddress} {location : MvmeInitScriptLocation} {e : Evaluator}

/-- A line of plain words that is a valid statement is a conditional one after an `accu_test`. -/
theorem evaluateLine_words_conditional {front command : Text} {list : List Text}
    (hplain : ∀ word ∈ front :: list, PlainWord word) (hlower : lower front = command)
    (hcommand : PlainWord command) (hidempotent : lower command = command)
    (hvalid : (validatePreparedLineSyntax target (command :: list)).success = true)
    (hset : command ≠ "set".toList) (hconditional : e.statementsConditional = true)
    (resolver : ValueResolver) :
    evaluateLine target e resolver location (words (front :: list)) =
      evaluateConditionalLine target e resolver location (command :: list) := by
  subst hlower
  unfold evaluateLine evaluatePreparedLine
  simp only [prepareLine_words resolver hplain hcommand hidempotent, Bool.not_true,
    Bool.false_eq_true, if_false, hvalid, List.headD_cons, if_neg hset, hconditional, if_true]

/-- Under a condition an assignment of the selector concerns the frontend. -/
theorem conditionalEffect_selector (value : UInt16) :
    (conditionalEffect target
      (ScriptLine.longWrite fw2051ScpSelectorRegister value).statementWords).1 = .frontend := by
  have haddress := (resolve_writtenRegister
    (by decide : fw2051ScpSelectorRegister ∈ ScriptLine.writtenRegisters)).2.2.2
  have hlength (a b c d f : Text) : [a, b, c, d, f].length ≥ 4 := Nat.le_succ 4
  unfold conditionalEffect
  rw [ScriptLine.statementWords, List.headD_cons, if_neg (by decide), if_neg (by decide),
    if_pos (by decide), if_pos (hlength ..)]
  simp only [List.getD_cons_succ, List.getD_cons_zero, haddress]
  have hcommand : decide ("write".toList = "writeabs".toList) = false := by decide
  have hrelative (address : UInt32) : longWriteAddress target false address = some address := rfl
  have hfrontend : isFrontendAddress fw2051ScpSelectorRegister.toUInt32 = true := by decide
  rw [if_pos trivial, hcommand, hrelative]
  simp only [hfrontend, Bool.not_true, Bool.false_eq_true, if_false]

/-- To move the selector under a condition is a conditional write. -/
theorem conditionalFrontendWrite_selectorLine (value : UInt16)
    (hconditional : e.statementsConditional = true) (resolver : ValueResolver) :
    (evaluateLine target e resolver location
      (ScriptLine.longWrite fw2051ScpSelectorRegister value).statement).1.conditionalFrontendWrite =
        true := by
  have hwritten : fw2051ScpSelectorRegister ∈ ScriptLine.writtenRegisters := by decide
  have hline : evaluateLine target e resolver location
      (ScriptLine.longWrite fw2051ScpSelectorRegister value).statement =
      evaluateConditionalLine target e resolver location
        (ScriptLine.longWrite fw2051ScpSelectorRegister value).statementWords :=
    evaluateLine_words_conditional
      (plainWord_statementWords (.longWrite fw2051ScpSelectorRegister value)) (by decide) (by decide)
      (by decide) (validate_longWrite hwritten) (by decide) hconditional resolver
  obtain ⟨values, selector, htaint⟩ := taintConditionalFrontendValue_eq
    { e with conditionalFrontendWrite := true }
    (conditionalEffect target (ScriptLine.longWrite fw2051ScpSelectorRegister
      value).statementWords).2.1
    (conditionalEffect target (ScriptLine.longWrite fw2051ScpSelectorRegister
      value).statementWords).2.2
  rw [hline]
  unfold evaluateConditionalLine
  simp only [conditionalEffect_selector value, if_true, htaint]
  rfl

/-- After an `accu_test` a generated script that moves the selector writes under a condition. -/
theorem conditionalFrontendWrite_generated (scriptIndex : Nat) {script : GeneratedScript}
    (h : ∀ line ∈ script, line.Readable) {value : UInt16}
    (hselector : ScriptLine.longWrite fw2051ScpSelectorRegister value ∈ script)
    (hconditional : e.statementsConditional = true) (resolver : ValueResolver) (lineNumber : Nat) :
    (evaluateLines target scriptIndex e resolver lineNumber
      (script.map ScriptLine.stripped ++ [[]])).conditionalFrontendWrite = true := by
  induction script generalizing e resolver lineNumber with
  | nil => cases hselector
  | cons line script ih =>
      have hscript := fun l hl => h l (List.mem_cons_of_mem _ hl)
      rw [List.map_cons, List.cons_append, evaluateLines, trim_stripped]
      rcases List.mem_cons.mp hselector with rfl | hselector
      · have hwords : ¬ (ScriptLine.longWrite fw2051ScpSelectorRegister value).statement = [] :=
          statement_eq_nil.not.mpr (List.cons_ne_nil _ _)
        simp only [if_neg hwords]
        exact (persists_evaluateLines target scriptIndex _ _ _ _).conditionalFrontendWrite
          (conditionalFrontendWrite_selectorLine value hconditional resolver)
      · by_cases hwords : line.statementWords = []
        · rw [if_pos (statement_eq_nil.mpr hwords)]
          exact ih hscript hselector hconditional resolver _
        · simp only [if_neg (statement_eq_nil.not.mpr hwords)]
          obtain ⟨effect, resolver', -, -, heffect⟩ := exists_effect_evaluateLine target resolver
            { scriptIndex, lineNumber } line.statement
          rw [heffect e]
          exact ih hscript hselector
            ((persists_apply _ e _).statementsConditional hconditional) resolver' _

/-- A generated script is never rejected. -/
theorem textRejected_generated {script : GeneratedScript} (h : ∀ line ∈ script, line.Readable)
    (resolver : ValueResolver) : textRejected target script.text.toList resolver = false := by
  have htext := @evaluateText_generated target {} 0 script h rfl resolver
  rw [← currentScriptParseFailed_evaluateText target 0 {}, htext,
    currentScriptParseFailed_runScriptLines]

theorem conditionalFrontendWrite_scriptEntry (scriptIndex : Nat) {script : GeneratedScript}
    (h : ∀ line ∈ script, line.Readable) {value : UInt16}
    (hselector : ScriptLine.longWrite fw2051ScpSelectorRegister value ∈ script)
    (hconditional : e.statementsConditional = true) (resolver : ValueResolver) :
    ((EntryEffect.script script.text.toList resolver).apply target scriptIndex
      e).conditionalFrontendWrite = true := by
  have hrejected := @textRejected_generated target script h resolver
  have hlines : ∀ line ∈ script.map ScriptLine.stripped, '\n' ∉ line :=
    newline_notMem_map_stripped script
  rw [EntryEffect.apply]
  unfold evaluateScript
  simp only [currentScriptParseFailed_evaluateText, hrejected, Bool.false_eq_true, if_false]
  unfold evaluateText
  simp only [stripComments_generated h, splitLines_flatMap hlines, Bool.false_eq_true, if_false]
  refine conditionalFrontendWrite_generated scriptIndex h hselector ?_ resolver 1
  exact hconditional

end Tested

end Evaluator

end Fidget
