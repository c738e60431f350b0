import Fidget.Core.MvmeInitScript.Effects
import Fidget.Core.MvmeInitScript.Located

/-!
# A rejected script leaves nothing but its issues

What a script attributes to the frontend is a part of the evaluation, `Attribution`. Lines change it
in a way that depends on nothing else, and a script of which one line is rejected puts it back to
what it was before the script.

To compare the evaluation with the one in which the rejected script is turned off, everything that a
later line depends on has to be the same in both. This is the attribution; issues are added by both,
but no line reads them.

## Main results

- `attribution_apply`: what a line attributes depends on what was attributed before only.
- `attribution_evaluateScript`: so does what a script attributes.
- `attribution_applyEntry_of_rejected`: a rejected script attributes nothing.
-/

namespace Fidget

open MvmeInitScript

namespace Evaluator

/-- The pieces of an evaluation that say what reaches the frontend. -/
structure Attribution where
  selector : Option UInt16
  conditionalSelector : Option UInt16
  statementsConditional : Bool
  conditionalFrontendWrite : Bool
  finalValues : FinalValues
  selectorAssignments : List MvmeInitScriptSelectorAssignment
  frontendWrites : List MvmeInitScriptFrontendWrite
  conditionalAccuTestLocation : Option MvmeInitScriptLocation

/-- The part of an evaluation that speaks of the frontend. -/
def attribution (e : Evaluator) : Attribution where
  selector := e.selector
  conditionalSelector := e.conditionalSelector
  statementsConditional := e.statementsConditional
  conditionalFrontendWrite := e.conditionalFrontendWrite
  finalValues := e.finalValues
  selectorAssignments := e.result.selectorAssignments
  frontendWrites := e.result.frontendWrites
  conditionalAccuTestLocation := e.result.conditionalAccuTestLocation

/-! ### What a line changes besides

Besides the attribution there are issues, the flags of the script and the count of its statements.
These only grow, and none of them decides what a later line does. -/

/-- What a line leaves alone, and what it only adds to. -/
structure Extends (e e' : Evaluator) : Prop where
  enabledScriptCount : e'.result.enabledScriptCount = e.result.enabledScriptCount
  parseFailureEncountered : e'.parseFailureEncountered = e.parseFailureEncountered
  selectorAssignments : e.result.selectorAssignments <+: e'.result.selectorAssignments
  frontendWrites : e.result.frontendWrites <+: e'.result.frontendWrites
  unresolvedStatements : e.result.unresolvedStatements <+: e'.result.unresolvedStatements

/-- Nothing is a part of something. -/
theorem Extends.refl (e : Evaluator) : Extends e e :=
  ⟨rfl, rfl, List.prefix_rfl, List.prefix_rfl, List.prefix_rfl⟩

theorem Extends.trans {e e' e'' : Evaluator} (h : Extends e e') (h' : Extends e' e'') :
    Extends e e'' where
  enabledScriptCount := h'.enabledScriptCount.trans h.enabledScriptCount
  parseFailureEncountered := h'.parseFailureEncountered.trans h.parseFailureEncountered
  selectorAssignments := h.selectorAssignments.trans h'.selectorAssignments
  frontendWrites := h.frontendWrites.trans h'.frontendWrites
  unresolvedStatements := h.unresolvedStatements.trans h'.unresolvedStatements

section Primitives

variable (e : Evaluator) (location : MvmeInitScriptLocation)

theorem extends_addIssue (impact : MvmeInitScriptUnresolvedImpact)
    (reason : MvmeInitScriptUnresolvedReason) (message : String) :
    Extends e (e.addIssue location impact reason message) :=
  ⟨rfl, rfl, List.prefix_rfl, List.prefix_rfl, List.prefix_append ..⟩

/-- A report leaves what was attributed. -/
theorem extends_report (failed : Bool) (impact : MvmeInitScriptUnresolvedImpact)
    (reason : MvmeInitScriptUnresolvedReason) (message : String) (reset : Bool) :
    Extends e ((LineEffect.report failed impact reason message reset).apply location e) := by
  cases failed <;> cases reset <;>
    exact ⟨rfl, rfl, List.prefix_rfl, List.prefix_rfl, List.prefix_append ..⟩

/-- An assignment is added to it. -/
theorem extends_setSelector (value : UInt16) : Extends e (e.setSelector location value) := by
  unfold setSelector
  split
  · exact ⟨rfl, rfl, List.prefix_rfl, List.prefix_rfl, List.prefix_append ..⟩
  · exact ⟨rfl, rfl, List.prefix_append .., List.prefix_rfl, List.prefix_rfl⟩

/-- The values of several quads set at once. -/
theorem foldl_setFinalValue (registerOffset value : UInt16) (quads : List UInt16) :
    quads.foldl (fun e quad => e.setFinalValue location quad registerOffset value) e =
      { e with
        finalValues := quads.foldl
          (fun values quad => values.insert (quad, registerOffset)
            { location, quad, registerOffset, value }) e.finalValues } := by
  induction quads generalizing e with
  | nil => rfl
  | cons quad quads ih => rw [List.foldl_cons, ih]; rfl

/-- A write that is attributed: it is listed, and sets the final values it reaches. -/
theorem evaluateBankedWrite_of_some {selector : UInt16} (h : e.selector = some selector)
    (registerOffset value : UInt16) :
    e.evaluateBankedWrite location registerOffset value =
      { e with
        result := { e.result with
          frontendWrites := e.result.frontendWrites ++
            [{ location, registerOffset, value, selectorValue := selector,
               selectorScope :=
                if selector = fw2051ScpBroadcastSelectorValue then .broadcast else .quad }] }
        finalValues :=
          (if selector = fw2051ScpBroadcastSelectorValue then fw2051ScpQuads
            else [selector]).foldl
            (fun values quad => values.insert (quad, registerOffset)
              { location, quad, registerOffset, value }) e.finalValues } := by
  unfold evaluateBankedWrite
  simp only [h]
  by_cases hbroadcast : selector = fw2051ScpBroadcastSelectorValue
  · simp only [if_pos hbroadcast, if_true, foldl_setFinalValue]
  · simp only [if_neg hbroadcast, reduceCtorEq, if_false]
    rfl

/-- So is a write. -/
theorem extends_evaluateBankedWrite (registerOffset value : UInt16) :
    Extends e (e.evaluateBankedWrite location registerOffset value) := by
  cases h : e.selector with
  | none =>
      unfold evaluateBankedWrite
      rw [h]
      exact extends_addIssue ..
  | some selector =>
      rw [evaluateBankedWrite_of_some e location h]
      exact ⟨rfl, rfl, List.prefix_rfl, List.prefix_append .., List.prefix_rfl⟩

/-- A possible write changes the final values and the conditional selector only. -/
theorem taintConditionalFrontendValue_eq (address : Option UInt32) (valueText : Text) :
    ∃ (finalValues : FinalValues) (conditionalSelector : Option UInt16),
      e.taintConditionalFrontendValue address valueText =
        { e with finalValues, conditionalSelector } := by
  unfold taintConditionalFrontendValue
  split
  · exact ⟨_, _, rfl⟩
  split
  · exact ⟨_, _, rfl⟩
  simp only
  split
  · split
    · exact ⟨_, _, rfl⟩
    · exact ⟨_, _, rfl⟩
  split
  · exact ⟨_, _, rfl⟩
  split
  · exact ⟨_, _, rfl⟩
  split
  · exact ⟨_, _, rfl⟩
  · exact ⟨_, _, rfl⟩

/-- Every effect of a line only adds. -/
theorem extends_apply (effect : LineEffect) : Extends e (effect.apply location e) := by
  cases effect with
  | none => exact Extends.refl e
  | report failed impact reason message reset => exact extends_report ..
  | select value => exact extends_setSelector ..
  | write registerOffset value => exact extends_evaluateBankedWrite ..
  | test => exact ⟨rfl, rfl, List.prefix_rfl, List.prefix_rfl, List.prefix_append ..⟩
  | taint address valueText =>
      obtain ⟨values, selector, heq⟩ := taintConditionalFrontendValue_eq
        { e with conditionalFrontendWrite := true } address valueText
      show Extends e ((taintConditionalFrontendValue _ address valueText).addIssue ..)
      rw [heq]
      exact ⟨rfl, rfl, List.prefix_rfl, List.prefix_rfl, List.prefix_append ..⟩

/-- A line is rejected or it is not, whatever came before. -/
theorem currentScriptParseFailed_apply (effect : LineEffect) :
    (effect.apply location e).currentScriptParseFailed =
      (e.currentScriptParseFailed || effect.failed) := by
  cases effect with
  | none => exact (Bool.or_false _).symm
  | report failed impact reason message reset =>
      cases failed <;> cases reset <;> cases h : e.currentScriptParseFailed <;> first | exact h | rfl
  | select value =>
      show (e.setSelector location value).currentScriptParseFailed = _
      unfold setSelector
      split <;> exact (Bool.or_false _).symm
  | write registerOffset value =>
      refine Eq.trans ?_ (Bool.or_false _).symm
      show (e.evaluateBankedWrite location registerOffset value).currentScriptParseFailed = _
      cases h : e.selector with
      | none =>
          unfold evaluateBankedWrite
          rw [h]
          rfl
      | some selector => rw [evaluateBankedWrite_of_some e location h]
  | test => exact (Bool.or_false _).symm
  | taint address valueText =>
      obtain ⟨values, selector, heq⟩ := taintConditionalFrontendValue_eq
        { e with conditionalFrontendWrite := true } address valueText
      refine Eq.trans ?_ (Bool.or_false _).symm
      show ((taintConditionalFrontendValue _ address valueText).addIssue ..
        ).currentScriptParseFailed = _
      rw [heq]
      rfl

end Primitives

/-! ### What a line does depends on the attribution alone

So two evaluations with the same attribution have the same attribution after any line. -/

section Agreement

variable {e₁ e₂ : Evaluator} (location : MvmeInitScriptLocation)

/-- Issues attribute nothing. -/
theorem attribution_addIssue (e : Evaluator) (impact : MvmeInitScriptUnresolvedImpact)
    (reason : MvmeInitScriptUnresolvedReason) (message : String) :
    (e.addIssue location impact reason message).attribution = e.attribution := rfl

/-- Evaluations that attribute the same differ in the rest of the record only. -/
theorem eq_of_attribution_eq (h : e₁.attribution = e₂.attribution) :
    e₂ = { e₁ with
      result := { e₁.result with
        state := e₂.result.state
        message := e₂.result.message
        enabledScriptCount := e₂.result.enabledScriptCount
        finalFrontendValues := e₂.result.finalFrontendValues
        unresolvedStatements := e₂.result.unresolvedStatements }
      currentScriptParseFailed := e₂.currentScriptParseFailed
      parseFailureEncountered := e₂.parseFailureEncountered } := by
  rcases e₁ with ⟨⟨_, _, _, _, _, _, _, _⟩, _, _, _, _, _, _, _⟩
  rcases e₂ with ⟨⟨_, _, _, _, _, _, _, _⟩, _, _, _, _, _, _, _⟩
  simp only [attribution, Attribution.mk.injEq] at h
  obtain ⟨rfl, rfl, rfl, rfl, rfl, rfl, rfl, rfl⟩ := h
  rfl

theorem attribution_taintConditionalFrontendValue (h : e₁.attribution = e₂.attribution)
    (address : Option UInt32) (valueText : Text) :
    (e₁.taintConditionalFrontendValue address valueText).attribution =
      (e₂.taintConditionalFrontendValue address valueText).attribution := by
  rw [eq_of_attribution_eq h]
  unfold taintConditionalFrontendValue
  split
  · rfl
  split
  · rfl
  simp only
  split
  · split <;> rfl
  split
  · rfl
  split
  · rfl
  split <;> rfl

theorem attribution_apply (h : e₁.attribution = e₂.attribution) (effect : LineEffect) :
    (effect.apply location e₁).attribution = (effect.apply location e₂).attribution := by
  cases effect with
  | none => exact h
  | report failed impact reason message reset =>
      rw [eq_of_attribution_eq h]
      cases failed <;> cases reset <;> rfl
  | select value =>
      rw [eq_of_attribution_eq h]
      show (setSelector _ location value).attribution = (setSelector _ location value).attribution
      unfold setSelector
      split <;> rfl
  | write registerOffset value =>
      show (evaluateBankedWrite _ location registerOffset value).attribution =
        (evaluateBankedWrite _ location registerOffset value).attribution
      -- the two states agree on the bank, so both write or both report
      cases hselector : e₁.selector with
      | none =>
          have hselector' : e₂.selector = none := by
            rw [← hselector]; exact (congrArg Attribution.selector h).symm
          simp only [evaluateBankedWrite, hselector, hselector']
          exact h
      | some selector =>
          have hselector' : e₂.selector = some selector := by
            rw [← hselector]; exact (congrArg Attribution.selector h).symm
          rw [evaluateBankedWrite_of_some e₁ location hselector,
            evaluateBankedWrite_of_some e₂ location hselector', eq_of_attribution_eq h]
          rfl
  | test => rw [eq_of_attribution_eq h]; rfl
  | taint address valueText =>
      exact attribution_taintConditionalFrontendValue
        (by rw [eq_of_attribution_eq h]; rfl) address valueText

end Agreement

/-! ### Scripts that are rejected

Whether a line is rejected depends on the line and the variables, so a script is rejected at the
same line wherever it stands. Then the attribution is set back to that before the script. -/

/-- A script is rejected at its first rejected line. -/
def scriptRejected (target : TargetModuleAddress) : ValueResolver → List Text → Bool
  | _, [] => false
  | resolver, line :: lines =>
    let trimmed := trim line
    if trimmed = [] then scriptRejected target resolver lines
    else
      lineRejected target resolver trimmed
        || scriptRejected target (resolverAfterLine resolver trimmed) lines

/-- Or at its end, if that is inside a comment. -/
def textRejected (target : TargetModuleAddress) (source : Text) (resolver : ValueResolver) : Bool :=
  let stripped := stripComments source
  scriptRejected target resolver (splitLines stripped.text) || stripped.unterminatedBlock

section Scripts

variable (target : TargetModuleAddress) (scriptIndex : Nat)

/-- Line by line. -/
theorem attribution_evaluateLines {e₁ e₂ : Evaluator} (h : e₁.attribution = e₂.attribution)
    (resolver : ValueResolver) (lineNumber : Nat) (lines : List Text) :
    (evaluateLines target scriptIndex e₁ resolver lineNumber lines).attribution =
      (evaluateLines target scriptIndex e₂ resolver lineNumber lines).attribution := by
  induction lines generalizing e₁ e₂ resolver lineNumber with
  | nil => exact h
  | cons line lines ih =>
      unfold evaluateLines
      simp only
      split
      · exact ih h _ _
      · obtain ⟨effect, resolver', -, -, heffect⟩ := exists_effect_evaluateLine target resolver
          { scriptIndex, lineNumber } (trim line)
        have hconditional : e₁.statementsConditional = e₂.statementsConditional :=
          congrArg Attribution.statementsConditional h
        rw [heffect e₁, heffect e₂, hconditional]
        exact ih (attribution_apply _ h _) _ _

theorem extends_evaluateLines (e : Evaluator) (resolver : ValueResolver) (lineNumber : Nat)
    (lines : List Text) :
    Extends e (evaluateLines target scriptIndex e resolver lineNumber lines) := by
  induction lines generalizing e resolver lineNumber with
  | nil => exact Extends.refl e
  | cons line lines ih =>
      unfold evaluateLines
      simp only
      split
      · exact ih ..
      · obtain ⟨effect, resolver', -, -, heffect⟩ := exists_effect_evaluateLine target resolver
          { scriptIndex, lineNumber } (trim line)
        rw [heffect e]
        exact (extends_apply e _ _).trans (ih ..)

/-- The flag of a failure is set by the first rejected line, and stays. -/
theorem currentScriptParseFailed_evaluateLines (e : Evaluator) (resolver : ValueResolver)
    (lineNumber : Nat) (lines : List Text) :
    (evaluateLines target scriptIndex e resolver lineNumber lines).currentScriptParseFailed =
      (e.currentScriptParseFailed || scriptRejected target resolver lines) := by
  induction lines generalizing e resolver lineNumber with
  | nil => exact (Bool.or_false _).symm
  | cons line lines ih =>
      unfold evaluateLines scriptRejected
      simp only
      split
      · exact ih ..
      · obtain ⟨effect, resolver', hfailed, hresolver, heffect⟩ :=
          exists_effect_evaluateLine target resolver { scriptIndex, lineNumber } (trim line)
        rw [heffect e]
        simp only [ih, currentScriptParseFailed_apply, hfailed, Bool.or_assoc]
        cases hrejected : lineRejected target resolver (trim line) with
        | true => rw [Bool.true_or, Bool.true_or]
        | false => rw [hresolver hrejected]

/-- The same for a text. -/
theorem attribution_evaluateText {e₁ e₂ : Evaluator} (h : e₁.attribution = e₂.attribution)
    (source : Text) (resolver : ValueResolver) :
    (evaluateText target e₁ scriptIndex source resolver).attribution =
      (evaluateText target e₂ scriptIndex source resolver).attribution := by
  have hlines := @attribution_evaluateLines target scriptIndex
    { e₁ with currentScriptParseFailed := false } { e₂ with currentScriptParseFailed := false } h
    resolver 1 (splitLines (stripComments source).text)
  unfold evaluateText
  simp only
  split
  · exact attribution_apply _ hlines (.report true .frontend .malformedScript _ true)
  · exact hlines

theorem extends_evaluateText (e : Evaluator) (source : Text) (resolver : ValueResolver) :
    Extends e (evaluateText target e scriptIndex source resolver) := by
  have hstart : Extends e { e with currentScriptParseFailed := false } :=
    ⟨rfl, rfl, List.prefix_rfl, List.prefix_rfl, List.prefix_rfl⟩
  have hlines := hstart.trans (extends_evaluateLines target scriptIndex _ resolver 1
    (splitLines (stripComments source).text))
  unfold evaluateText
  simp only
  split
  · exact hlines.trans (extends_report _ _ true .frontend .malformedScript _ true)
  · exact hlines

/-- Whether a text is rejected depends on the text and its variables. -/
theorem currentScriptParseFailed_evaluateText (e : Evaluator) (source : Text)
    (resolver : ValueResolver) :
    (evaluateText target e scriptIndex source resolver).currentScriptParseFailed =
      textRejected target source resolver := by
  have hlines := currentScriptParseFailed_evaluateLines target scriptIndex
    { e with currentScriptParseFailed := false } resolver 1
    (splitLines (stripComments source).text)
  unfold evaluateText textRejected
  simp only
  split
  next hblock => rw [hblock, Bool.or_true]; rfl
  next hblock =>
    rw [hlines, Bool.eq_false_iff.mpr hblock, Bool.or_false]
    rfl

/-- A rejected script attributes nothing, and what it has attributed so far is taken back. -/
theorem attribution_evaluateScript_of_rejected {source : Text} {resolver : ValueResolver}
    (h : textRejected target source resolver = true) (before : Evaluator) :
    (evaluateScript target before scriptIndex source resolver).attribution = before.attribution := by
  have hextends := extends_evaluateText target scriptIndex before source resolver
  unfold evaluateScript
  simp only [currentScriptParseFailed_evaluateText, if_pos h]
  simp only [attribution, Attribution.mk.injEq, true_and, and_true]
  exact ⟨List.prefix_iff_eq_take.mp hextends.selectorAssignments |>.symm,
    List.prefix_iff_eq_take.mp hextends.frontendWrites |>.symm⟩

/-- The same for a script, which is undone if it is rejected. -/
theorem attribution_evaluateScript {e₁ e₂ : Evaluator} (h : e₁.attribution = e₂.attribution)
    (source : Text) (resolver : ValueResolver) :
    (evaluateScript target e₁ scriptIndex source resolver).attribution =
      (evaluateScript target e₂ scriptIndex source resolver).attribution := by
  by_cases hrejected : textRejected target source resolver = true
  · rw [attribution_evaluateScript_of_rejected target scriptIndex hrejected,
      attribution_evaluateScript_of_rejected target scriptIndex hrejected, h]
  · unfold evaluateScript
    simp only [currentScriptParseFailed_evaluateText, if_neg hrejected]
    exact attribution_evaluateText target scriptIndex h source resolver

/-- A rejected script is remembered. -/
theorem parseFailureEncountered_evaluateScript (e : Evaluator) (source : Text)
    (resolver : ValueResolver) :
    (evaluateScript target e scriptIndex source resolver).parseFailureEncountered =
      (e.parseFailureEncountered || textRejected target source resolver) := by
  unfold evaluateScript
  simp only [currentScriptParseFailed_evaluateText]
  split
  next h => rw [h, Bool.or_true]
  next h =>
    rw [Bool.eq_false_iff.mpr h, Bool.or_false]
    exact (extends_evaluateText target scriptIndex e source resolver).parseFailureEncountered

end Scripts

/-! ### The entries of a module

A rejected script and one that is turned off leave the same attribution, and the entries behind it
go on from there. -/

section Entries

variable (address : TargetModuleAddress) (context : ScriptContext) (scriptIndex : Nat)

theorem attribution_applyEntry {e₁ e₂ : Evaluator} (h : e₁.attribution = e₂.attribution)
    (effect : EntryEffect) :
    (effect.apply address scriptIndex e₁).attribution =
      (effect.apply address scriptIndex e₂).attribution := by
  cases effect with
  | disabled => exact h
  | script text resolver =>
      refine attribution_evaluateScript address scriptIndex ?_ text resolver
      exact h
  | unusable count issues => rw [eq_of_attribution_eq h]; rfl

/-- Whether the entry is a script that MVME refuses. -/
def EntryEffect.rejected (address : TargetModuleAddress) : EntryEffect → Bool
  | script text resolver => textRejected address text resolver
  | _ => false

/-- A rejected entry is remembered. -/
theorem parseFailureEncountered_applyEntry (e : Evaluator) (effect : EntryEffect) :
    (effect.apply address scriptIndex e).parseFailureEncountered =
      (e.parseFailureEncountered || effect.rejected address) := by
  cases effect with
  | disabled => exact (Bool.or_false _).symm
  | script text resolver =>
      exact parseFailureEncountered_evaluateScript address scriptIndex _ text resolver
  | unusable count issues => exact (Bool.or_false _).symm

/-- A rejected entry leaves the attribution as it was. -/
theorem attribution_applyEntry_of_rejected {effect : EntryEffect}
    (h : effect.rejected address = true) (e : Evaluator) :
    (effect.apply address scriptIndex e).attribution = e.attribution := by
  cases effect with
  | script text resolver =>
      exact attribution_evaluateScript_of_rejected address scriptIndex h _
  | _ => cases h

/-- The entries from the `n`th on. -/
def evaluateEntriesFrom (e : Evaluator) (n : Nat) (scripts : List Json) : Evaluator :=
  (scripts.zipIdx n).foldl (evaluateEntry address context) e

theorem evaluateEntriesFrom_cons (e : Evaluator) (n : Nat) (script : Json) (scripts : List Json) :
    evaluateEntriesFrom address context e n (script :: scripts) =
      evaluateEntriesFrom address context ((entryEffect context script n).apply address n e) (n + 1)
        scripts := by
  rw [evaluateEntriesFrom, List.zipIdx_cons, List.foldl_cons, evaluateEntry_eq]
  rfl

/-- The entries can be taken in two goes. -/
theorem evaluateEntriesFrom_append (e : Evaluator) (n : Nat) (scripts scripts' : List Json) :
    evaluateEntriesFrom address context e n (scripts ++ scripts') =
      evaluateEntriesFrom address context (evaluateEntriesFrom address context e n scripts)
        (n + scripts.length) scripts' := by
  induction scripts generalizing e n with
  | nil => rfl
  | cons script scripts ih =>
      rw [List.cons_append, evaluateEntriesFrom_cons, ih, evaluateEntriesFrom_cons,
        List.length_cons, Nat.add_assoc, Nat.add_comm 1]

theorem attribution_evaluateEntriesFrom {e₁ e₂ : Evaluator}
    (h : e₁.attribution = e₂.attribution) (n : Nat) (scripts : List Json) :
    (evaluateEntriesFrom address context e₁ n scripts).attribution =
      (evaluateEntriesFrom address context e₂ n scripts).attribution := by
  induction scripts generalizing e₁ e₂ n with
  | nil => exact h
  | cons script scripts ih =>
      rw [evaluateEntriesFrom_cons, evaluateEntriesFrom_cons]
      exact ih (attribution_applyEntry address n h _) (n + 1)

/-- No later entry makes a failure go away. -/
theorem parseFailureEncountered_evaluateEntriesFrom {e : Evaluator}
    (h : e.parseFailureEncountered = true) (n : Nat) (scripts : List Json) :
    (evaluateEntriesFrom address context e n scripts).parseFailureEncountered = true := by
  induction scripts generalizing e n with
  | nil => exact h
  | cons script scripts ih =>
      rw [evaluateEntriesFrom_cons]
      refine ih ?_ (n + 1)
      rw [parseFailureEncountered_applyEntry, h, Bool.true_or]

/-- An entry that is turned off, of a module that has one. -/
def disabledEntry (script : Json) : Json := script.set "enabled" (.boolean false)

/-- A disabled entry does nothing. -/
theorem entryEffect_disabledEntry {script : Json} (h : script.isObject = true) (n : Nat) :
    entryEffect context (disabledEntry script) n = .disabled := by
  unfold entryEffect disabledEntry
  rw [Json.isObject_set, h, Json.find?_set_self h]
  rfl

theorem isObject_of_script {script : Json} {n : Nat} {text : Text} {resolver : ValueResolver}
    (h : entryEffect context script n = .script text resolver) : script.isObject = true := by
  unfold entryEffect at h
  split at h
  · cases h
  next hobject => simpa using hobject

/-- What a rejected script attributes, and all the scripts after it, is what the scripts without it
attribute. -/
theorem evaluateEntriesFrom_of_rejected {scripts : List Json} {index : Nat} {script : Json}
    {text : Text} {resolver : ValueResolver} (hscript : scripts[index]? = some script) (n : Nat)
    (heffect : entryEffect context script (n + index) = .script text resolver)
    (hrejected : textRejected address text resolver = true) {e₁ e₂ : Evaluator}
    (h : e₁.attribution = e₂.attribution) :
    (evaluateEntriesFrom address context e₁ n scripts).attribution =
        (evaluateEntriesFrom address context e₂ n (scripts.modify index disabledEntry)).attribution ∧
      (evaluateEntriesFrom address context e₁ n scripts).parseFailureEncountered = true := by
  induction scripts generalizing index n e₁ e₂ with
  | nil => cases hscript
  | cons first scripts ih =>
      cases index with
      | zero =>
          cases hscript
          have heffect' : ((entryEffect context script n).rejected address) = true := by
            rw [Nat.add_zero] at heffect
            rw [heffect]
            exact hrejected
          rw [List.modify_zero_cons, evaluateEntriesFrom_cons, evaluateEntriesFrom_cons,
            entryEffect_disabledEntry context (isObject_of_script context heffect)]
          refine ⟨attribution_evaluateEntriesFrom address context ?_ (n + 1) scripts,
            parseFailureEncountered_evaluateEntriesFrom address context ?_ (n + 1) scripts⟩
          · exact (attribution_applyEntry_of_rejected address n heffect' e₁).trans h
          · rw [parseFailureEncountered_applyEntry, heffect', Bool.or_true]
      | succ index =>
          rw [List.modify_succ_cons, evaluateEntriesFrom_cons, evaluateEntriesFrom_cons]
          refine ih hscript (n + 1) ?_ (attribution_applyEntry address n h _)
          rw [show n + 1 + index = n + (index + 1) by omega]
          exact heffect

end Entries

/-! ### The evaluation -/

/-- With a rejected script the evaluation has failed. -/
theorem finalState_of_parseFailure {e : Evaluator} (h : e.parseFailureEncountered = true) :
    e.finalState.1 = .failed := by
  unfold finalState
  simp only [h, if_true]

/-- A script of which a line is rejected makes the evaluation fail. All that the evaluation says of
the frontend is what it would say if the script were disabled. -/
theorem rejectedScript_leavesNoTrace (workspace : MvmeWorkspace) (target : MvmeWorkspaceTarget)
    {context : ScriptContext} {scripts : List Json}
    (hlocated : Located workspace target context scripts) {index : Nat} {script : Json}
    (hscript : scripts[index]? = some script) {text : Text} {resolver : ValueResolver}
    (hentry : entryEffect context script index = .script text resolver)
    (hrejected : textRejected target.address text resolver = true) :
    let evaluation := evaluateMvmeTargetInitScripts workspace target
    let without := evaluateMvmeTargetInitScripts
      (workspace.withInitScripts target (scripts.modify index disabledEntry)) target
    evaluation.state = .failed ∧
      evaluation.selectorAssignments = without.selectorAssignments ∧
      evaluation.frontendWrites = without.frontendWrites ∧
      evaluation.finalFrontendValues = without.finalFrontendValues ∧
      evaluation.conditionalAccuTestLocation = without.conditionalAccuTestLocation := by
  intro evaluation without
  obtain ⟨hattribution, hfailed⟩ := evaluateEntriesFrom_of_rejected target.address context hscript 0
    (by rw [Nat.zero_add]; exact hentry) hrejected (rfl : ({} : Evaluator).attribution = _)
  have hevaluation : evaluation = evaluateScripts target.address context scripts :=
    run_eq_of_located hlocated
  have hwithout : without =
      evaluateScripts target.address context (scripts.modify index disabledEntry) :=
    run_withInitScripts hlocated _
  rw [hevaluation, hwithout]
  refine ⟨finalState_of_parseFailure hfailed, ?_, ?_, ?_, ?_⟩
  · exact congrArg Attribution.selectorAssignments hattribution
  · exact congrArg Attribution.frontendWrites hattribution
  · exact congrArg (fun a => a.finalValues.toList.map (·.2)) hattribution
  · exact congrArg Attribution.conditionalAccuTestLocation hattribution

/-- A script that sends the selector to quad 1, one with a value that is no number, and one that
relies on the selector. -/
def exampleScripts : List Json :=
  [.object [("vme_script", .string "0x6100 1\n0x611A 5")],
    .object [("vme_script", .string "0x6100 2\n0x611A five")],
    .object [("vme_script", .string "0x611C 7")]]

theorem rejectedScript_leavesNoTrace_example :
    let evaluation := evaluateMvmeTargetInitScripts (exampleWorkspace exampleScripts) exampleTarget
    let without := evaluateMvmeTargetInitScripts
      ((exampleWorkspace exampleScripts).withInitScripts exampleTarget
        (exampleScripts.modify 1 disabledEntry)) exampleTarget
    evaluation.state = .failed ∧
      evaluation.selectorAssignments = without.selectorAssignments ∧
      evaluation.frontendWrites = without.frontendWrites ∧
      evaluation.finalFrontendValues = without.finalFrontendValues ∧
      evaluation.conditionalAccuTestLocation = without.conditionalAccuTestLocation :=
  rejectedScript_leavesNoTrace (exampleWorkspace exampleScripts) exampleTarget
    (located_exampleWorkspace exampleScripts) rfl (rfl : entryEffect _ _ 1 = .script _ _)
    (by decide +kernel)

end Evaluator

end Fidget
