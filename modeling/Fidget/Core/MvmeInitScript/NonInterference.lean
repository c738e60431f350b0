import Fidget.Core.MvmeInitScript.Generated
import Fidget.Core.MvmeInitScript.SourceLines

/-!
# Statements that do not concern the frontend

A line that is reported as not concerning the frontend is taken out of a script: what the evaluation
says of the frontend stays as it was (`nonFrontendLine_removed`). Two kinds of lines are not covered:

* a line that opens or closes a block comment decides what the lines behind it are, so it must leave
  them as they are (`LeavesOthers`);
* an absolute write below the module makes the selector unknown although it is reported like the
  others (`LeavesSelector`).

The two evaluations are compared by `Alike`: they agree in what is attributed to the frontend and in
the issues that concern it. Every effect of a line keeps them alike (`Alike.apply`), hence every line,
text, script and entry does.

## Main results

- `isReport_evaluateLine`: a line that is reported as not concerning the frontend does nothing but
  report, except that it may reset the selector.
- `Removable.textState`: with and without the line, the script is evaluated alike, if the line
  leaves the others and the selector.
- `nonFrontendLine_removed`: so are the workspaces, in everything that is said of the frontend.
- `nonFrontendLine_removed_counterexample`: a line that opens a comment, and one that makes the
  selector unknown.
-/

namespace Fidget

open MvmeInitScript

/-- The unresolved statements that may affect the frontend. -/
def MvmeInitScriptEvaluation.frontendIssues (evaluation : MvmeInitScriptEvaluation) :
    List MvmeInitScriptUnresolvedStatement :=
  evaluation.unresolvedStatements.filter (·.impact = .frontend)

/-- Two evaluations say the same of the frontend. -/
structure SameFrontend (a b : MvmeInitScriptEvaluation) : Prop where
  selectorAssignments : a.selectorAssignments = b.selectorAssignments
  frontendWrites : a.frontendWrites = b.frontendWrites
  finalFrontendValues : a.finalFrontendValues = b.finalFrontendValues
  frontendIssues : a.frontendIssues = b.frontendIssues
  conditionalAccuTestLocation : a.conditionalAccuTestLocation = b.conditionalAccuTestLocation

namespace Evaluator

/-! ### Evaluations that differ in what does not concern the frontend

`Alike` has to hold of everything that a later line can read: the selector, the variables, the
broadcast addresses, and whatever is attributed to the frontend. -/

/-- What the two evaluations must agree in. -/
structure Alike (e₁ e₂ : Evaluator) : Prop where
  attribution : e₁.attribution = e₂.attribution
  frontendIssues : e₁.result.frontendIssues = e₂.result.frontendIssues

/-- The issues that an effect adds, where the selector is as given. -/
def LineEffect.issues (location : MvmeInitScriptLocation) (selector : Option UInt16) :
    LineEffect → List MvmeInitScriptUnresolvedStatement
  | none => []
  | report _ impact reason message _ => [{ location, impact, reason, message }]
  | select value =>
    if value > fw2051ScpBroadcastSelectorValue then
      [{ location, impact := .frontend, reason := .invalidSelector,
         message := "The selector value is outside the FW2051 quad/broadcast model." }]
    else []
  | write _ _ =>
    if selector.isNone then
      [{ location, impact := .frontend, reason := .selectorUnresolved,
         message := "A banked frontend write cannot be attributed because the "
           ++ "selector state is unresolved." }]
    else []
  | test =>
    [{ location, impact := .nonFrontend, reason := .unsupportedStatement,
       message := "An accu_test depends on a live accumulator; whether later "
         ++ "statements execute cannot be proven." }]
  | taint _ _ =>
    [{ location, impact := .frontend, reason := .conditionalAfterAccuTest,
       message := "A possible frontend write is conditional after an "
         ++ "unprovable accu_test and was not extracted." }]

section Steps

variable {e e₁ e₂ : Evaluator} {location : MvmeInitScriptLocation}

/-- An effect adds its issues at the end. -/
theorem unresolvedStatements_apply (effect : LineEffect) :
    (effect.apply location e).result.unresolvedStatements =
      e.result.unresolvedStatements ++ effect.issues location e.selector := by
  cases effect with
  | none => exact (List.append_nil _).symm
  | report failed impact reason message reset => cases failed <;> cases reset <;> rfl
  | select value =>
      show (e.setSelector location value).result.unresolvedStatements = _
      simp only [setSelector, LineEffect.issues]
      split
      · rfl
      · exact (List.append_nil _).symm
  -- only a write into an unknown bank is reported
  | write registerOffset value =>
      show (e.evaluateBankedWrite location registerOffset value).result.unresolvedStatements = _
      cases hselector : e.selector with
      | none =>
          unfold evaluateBankedWrite
          rw [hselector]
          rfl
      | some selector =>
          rw [evaluateBankedWrite_of_some e location hselector]
          exact (List.append_nil _).symm
  | test => rfl
  | taint address valueText =>
      obtain ⟨values, selector, heq⟩ := taintConditionalFrontendValue_eq
        { e with conditionalFrontendWrite := true } address valueText
      show ((taintConditionalFrontendValue _ address valueText).addIssue ..
        ).result.unresolvedStatements = _
      rw [heq]
      rfl

theorem Alike.refl (e : Evaluator) : Alike e e := ⟨rfl, rfl⟩

/-- Evaluations that are alike with a third one. -/
theorem Alike.trans {e₃ : Evaluator} (h : Alike e₁ e₂) (h' : Alike e₂ e₃) : Alike e₁ e₃ :=
  ⟨h.attribution.trans h'.attribution, h.frontendIssues.trans h'.frontendIssues⟩

/-- An issue that does not concern the frontend makes no difference. -/
theorem alike_addIssue (e : Evaluator) (location : MvmeInitScriptLocation)
    (reason : MvmeInitScriptUnresolvedReason) (message : String) :
    Alike (e.addIssue location .nonFrontend reason message) e where
  attribution := attribution_addIssue location e _ reason message
  frontendIssues := by
    show (e.result.unresolvedStatements ++ [_]).filter _ = _
    rw [List.filter_append]
    exact List.append_nil _

/-- An effect does the same to evaluations that are alike. -/
theorem Alike.apply (h : Alike e₁ e₂) (effect : LineEffect) :
    Alike (effect.apply location e₁) (effect.apply location e₂) where
  attribution := attribution_apply location h.attribution effect
  frontendIssues := by
    have hselector : e₁.selector = e₂.selector := congrArg Attribution.selector h.attribution
    unfold MvmeInitScriptEvaluation.frontendIssues
    rw [unresolvedStatements_apply, unresolvedStatements_apply, List.filter_append,
      List.filter_append, hselector]
    exact congrArg (· ++ _) h.frontendIssues

end Steps

section Scripts

variable (target : TargetModuleAddress) (scriptIndex : Nat) {e₁ e₂ : Evaluator}

/-- So do lines. -/
theorem Alike.evaluateLines (h : Alike e₁ e₂) (resolver : ValueResolver) (lineNumber : Nat)
    (lines : List Text) : Alike (evaluateLines target scriptIndex e₁ resolver lineNumber lines)
      (evaluateLines target scriptIndex e₂ resolver lineNumber lines) := by
  induction lines generalizing e₁ e₂ resolver lineNumber with
  | nil => exact h
  | cons line lines ih =>
      unfold Evaluator.evaluateLines
      simp only
      split
      · exact ih h _ _
      · obtain ⟨effect, resolver', -, -, heffect⟩ := exists_effect_evaluateLine target resolver
          { scriptIndex, lineNumber } (trim line)
        have hconditional : e₁.statementsConditional = e₂.statementsConditional :=
          congrArg Attribution.statementsConditional h.attribution
        rw [heffect e₁, heffect e₂, hconditional]
        exact ih (h.apply _) _ _

/-- So does a text. -/
theorem Alike.evaluateText (h : Alike e₁ e₂) (source : Text) (resolver : ValueResolver) :
    Alike (evaluateText target e₁ scriptIndex source resolver)
      (evaluateText target e₂ scriptIndex source resolver) := by
  have hstart : Alike { e₁ with currentScriptParseFailed := false }
      { e₂ with currentScriptParseFailed := false } := ⟨h.attribution, h.frontendIssues⟩
  have hlines := hstart.evaluateLines target scriptIndex resolver 1
    (splitLines (stripComments source).text)
  unfold Evaluator.evaluateText
  simp only
  split
  · exact @Alike.apply _ _ _ hlines (.report true .frontend .malformedScript _ true)
  · exact hlines

/-- Issues stay when a script is rolled back. -/
theorem frontendIssues_evaluateScript (e : Evaluator) (source : Text) (resolver : ValueResolver) :
    (evaluateScript target e scriptIndex source resolver).result.frontendIssues =
      (evaluateText target e scriptIndex source resolver).result.frontendIssues := by
  unfold evaluateScript
  simp only
  split <;> rfl

/-- So does a script, rejected or not. -/
theorem Alike.evaluateScript (h : Alike e₁ e₂) (source : Text) (resolver : ValueResolver) :
    Alike (evaluateScript target e₁ scriptIndex source resolver)
      (evaluateScript target e₂ scriptIndex source resolver) where
  attribution := attribution_evaluateScript target scriptIndex h.attribution source resolver
  frontendIssues := by
    rw [frontendIssues_evaluateScript, frontendIssues_evaluateScript]
    exact (h.evaluateText target scriptIndex source resolver).frontendIssues

/-- So does an entry of the list. -/
theorem Alike.applyEntry (h : Alike e₁ e₂) (effect : EntryEffect) :
    Alike (effect.apply target scriptIndex e₁) (effect.apply target scriptIndex e₂) := by
  cases effect with
  | disabled => exact h
  | script text resolver =>
      apply Alike.evaluateScript
      exact ⟨h.attribution, h.frontendIssues⟩
  | unusable count issues =>
      refine ⟨attribution_applyEntry target scriptIndex h.attribution _, ?_⟩
      show (e₁.result.unresolvedStatements ++ issues).filter _ =
        (e₂.result.unresolvedStatements ++ issues).filter _
      rw [List.filter_append, List.filter_append]
      exact congrArg (· ++ _) h.frontendIssues

/-- So do the entries behind it. -/
theorem Alike.evaluateEntriesFrom (context : ScriptContext) (h : Alike e₁ e₂) (n : Nat)
    (scripts : List Json) : Alike (evaluateEntriesFrom target context e₁ n scripts)
      (evaluateEntriesFrom target context e₂ n scripts) := by
  induction scripts generalizing e₁ e₂ n with
  | nil => exact h
  | cons script scripts ih =>
      rw [evaluateEntriesFrom_cons, evaluateEntriesFrom_cons]
      exact ih (h.applyEntry target n _) (n + 1)

end Scripts

/-! ### The line that is taken out

A reported line adds its report to the issues. Whether it does anything else is found by going
through the statements that can be reported in this way. -/

/-- The line is reported once, as not concerning the frontend. -/
def ReportedNonFrontend (target : TargetModuleAddress) (e : Evaluator) (resolver : ValueResolver)
    (location : MvmeInitScriptLocation) (line : Text) : Prop :=
  ∃ issue, (evaluateLine target e resolver location line).1.result.unresolvedStatements =
    e.result.unresolvedStatements ++ [issue] ∧ issue.impact = .nonFrontend

/-- A write to an absolute address below the module. -/
def belowModule (target : TargetModuleAddress) (parts : List Text) : Bool :=
  parts.headD [] = "writeabs".toList &&
    (relativeAbsoluteAddress target (resolveMvmeLongAddress (parts.getD 3 [])).value).isNone

section Line

variable {target : TargetModuleAddress} {e : Evaluator} {resolver : ValueResolver}
  {location : MvmeInitScriptLocation}

/-- An effect that leaves but one issue, which does not concern the frontend. -/
theorem issue_of_reported {effect : LineEffect}
    (h : ∃ issue, (effect.apply location e).result.unresolvedStatements =
      e.result.unresolvedStatements ++ [issue] ∧ issue.impact = .nonFrontend) :
    effect = .test ∨ ∃ failed reason message reset,
      effect = .report failed .nonFrontend reason message reset := by
  obtain ⟨issue, hissue, himpact⟩ := h
  rw [unresolvedStatements_apply] at hissue
  have hone := List.append_cancel_left hissue
  cases effect with
  | none => cases hone
  | report failed impact reason message reset =>
      obtain rfl := List.cons.inj hone |>.1
      have himpact' : impact = .nonFrontend := himpact
      exact .inr ⟨failed, reason, message, reset, by rw [himpact']⟩
  | select value =>
      simp only [LineEffect.issues] at hone
      split at hone
      · obtain rfl := List.cons.inj hone |>.1
        cases himpact
      · cases hone
  | write registerOffset value =>
      simp only [LineEffect.issues] at hone
      split at hone
      · obtain rfl := List.cons.inj hone |>.1
        cases himpact
      · cases hone
  | test => exact .inl rfl
  | taint address valueText =>
      obtain rfl := List.cons.inj hone |>.1
      cases himpact

/-- The report of a line outside the frontend. -/
def IsReport (location : MvmeInitScriptLocation) (e e' : Evaluator) (reset : Bool) : Prop :=
  ∃ reason message, e' = (e.addIssue location .nonFrontend reason message).resetSelectorIf reset

/-- A write past the frontend is reported and does nothing else. -/
theorem isReport_evaluateRelativeWrite {address : UInt32} {valueText : Text}
    (h : ∃ issue, (e.evaluateRelativeWrite location address valueText).result.unresolvedStatements =
      e.result.unresolvedStatements ++ [issue] ∧ issue.impact = .nonFrontend) :
    IsReport location e (e.evaluateRelativeWrite location address valueText) false := by
  by_cases haddress : (!isFrontendAddress address) = true
  · exact ⟨_, _, if_pos haddress⟩
  -- A write to the frontend is not reported so.
  have hfrontend : ∃ effect : LineEffect, (∀ failed reason message reset,
      effect ≠ .report failed .nonFrontend reason message reset) ∧ effect ≠ .test ∧
        e.evaluateRelativeWrite location address valueText = effect.apply location e := by
    unfold evaluateRelativeWrite
    simp only [if_neg haddress]
    by_cases hvalue : (!(resolve valueText).success || (resolve valueText).value > 0xFFFF) = true
    · refine ⟨.report (!(resolve valueText).success) .frontend
        (if (resolve valueText).success then .invalidValue else (resolve valueText).reason)
        (if address = fw2051ScpSelectorRegister.toUInt32 then
          "The frontend selector value could not be resolved."
        else "A target frontend value could not be resolved.")
        (address = fw2051ScpSelectorRegister.toUInt32), ?_, LineEffect.noConfusion, if_pos hvalue⟩
      intro failed reason message reset heq
      cases heq
    · rw [if_neg hvalue]
      by_cases hselector : address.toUInt16 = fw2051ScpSelectorRegister
      · exact ⟨.select (resolve valueText).value.toUInt16, fun _ _ _ _ => LineEffect.noConfusion,
          LineEffect.noConfusion, if_pos hselector⟩
      · exact ⟨.write address.toUInt16 (resolve valueText).value.toUInt16,
          fun _ _ _ _ => LineEffect.noConfusion, LineEffect.noConfusion, if_neg hselector⟩
  obtain ⟨effect, hno, hnoTest, heffect⟩ := hfrontend
  rw [heffect] at h
  rcases issue_of_reported h with htest | ⟨failed, reason, message, reset, hreport⟩
  · exact absurd htest hnoTest
  · exact absurd hreport (hno _ _ _ _)

/-- An address without an offset is an absolute one below the module. -/
theorem isNone_longWriteAddress (target : TargetModuleAddress) (parts : List Text) :
    (longWriteAddress target (parts.headD [] = "writeabs".toList)
      (resolveMvmeLongAddress (parts.getD 3 [])).value).isNone = belowModule target parts := by
  unfold belowModule longWriteAddress
  generalize decide (parts.headD [] = "writeabs".toList) = absolute
  cases absolute <;> rfl

/-- Only a write below the module, reported like the others, makes the selector unknown. -/
theorem isReport_evaluateLongWrite {parts : List Text}
    (hvalid : (validateLongWriteSyntax target parts).success = true)
    (h : ∃ issue, (evaluateLongWrite target e location (parts.headD [] = "writeabs".toList)
      parts).result.unresolvedStatements =
        e.result.unresolvedStatements ++ [issue] ∧ issue.impact = .nonFrontend) :
    IsReport location e
      (evaluateLongWrite target e location (parts.headD [] = "writeabs".toList) parts)
      (belowModule target parts) := by
  obtain ⟨hlength, haddress, -⟩ := longWrite_of_validate hvalid
  have hlong : ¬ parts.length < 4 := by omega
  have hresolved : ¬ (!(resolveMvmeLongAddress (parts.getD 3 [])).success) = true := by
    simpa using haddress
  have hexact : ¬ parts.length ≠ 5 := not_not.mpr hlength
  simp only [evaluateLongWrite, if_neg hlong, if_neg hresolved, if_neg hexact] at h ⊢
  rw [← isNone_longWriteAddress]
  generalize hrelative : longWriteAddress target (parts.headD [] = "writeabs".toList)
    (resolveMvmeLongAddress (parts.getD 3 [])).value = relativeAddress at h ⊢
  split
  next hform =>
    rw [if_pos hform] at h
    by_cases hfrontend : relativeAddress.any isFrontendAddress = true
    · simp only [if_pos hfrontend] at h
      rcases @issue_of_reported _ _ (.report false .frontend _ _ _) h with
        htest | ⟨_, _, _, _, hreport⟩
      · cases htest
      · cases hreport
    · have hselector : relativeAddress ≠ some fw2051ScpSelectorRegister.toUInt32 := by
        rintro rfl
        exact hfrontend (by decide)
      simp only [if_neg hfrontend, decide_eq_false hselector, Bool.or_false]
      exact ⟨_, _, rfl⟩
  next hform =>
    -- The form that is followed is a relative one.
    rw [if_neg hform] at h
    have habsolute : decide (parts.headD [] = "writeabs".toList) = false := by
      rw [Bool.not_eq_true', Bool.not_eq_false, Bool.and_eq_true, Bool.not_eq_true'] at hform
      exact hform.2
    rw [habsolute] at hrelative
    have hknown : relativeAddress.isNone = false := by
      rw [← hrelative]
      rfl
    rw [hknown]
    exact isReport_evaluateRelativeWrite h

/-- Only an absolute write can be below the module. -/
theorem belowModule_of_ne {parts : List Text} (h : parts.headD [] ≠ "writeabs".toList) :
    belowModule target parts = false := by
  unfold belowModule
  rw [decide_eq_false h]
  rfl

/-- A statement that is reported so does nothing else, except that it may reset the selector. -/
theorem isReport_evaluateStatement {parts : List Text}
    (hvalid : (validatePreparedLineSyntax target parts).success = true)
    (hset : ¬ parts.headD [] = "set".toList) (htest : ¬ parts.headD [] = "accu_test".toList)
    (h : ∃ issue, (evaluateStatement target e location parts).result.unresolvedStatements =
      e.result.unresolvedStatements ++ [issue] ∧ issue.impact = .nonFrontend) :
    IsReport location e (evaluateStatement target e location parts) (belowModule target parts) := by
  unfold evaluateStatement at h ⊢
  simp only [if_neg htest] at h ⊢
  -- a command that warns is reported
  by_cases hwarn : parts.headD [] = "accu_test_warn".toList
  · rw [if_pos hwarn, belowModule_of_ne (by rw [hwarn]; decide)]
    exact ⟨_, _, rfl⟩
  rw [if_neg hwarn] at h ⊢
  -- so is one that is known not to concern the frontend
  by_cases hknown : isKnownNonFrontendCommand (parts.headD []) = true
  · have hno : parts.headD [] ≠ "write".toList ∧ parts.headD [] ≠ "writeabs".toList := by
      constructor
      · intro hwrite
        rw [hwrite] at hknown
        revert hknown
        decide
      · intro hwrite
        rw [hwrite] at hknown
        revert hknown
        decide
    rw [if_neg (by simpa using hno), if_pos hknown, belowModule_of_ne hno.2]
    exact ⟨_, _, rfl⟩
  have hform := statement_of_validate hvalid htest hwarn hset hknown
  by_cases hwrite : (parts.headD [] = "write".toList ||
      parts.headD [] = "writeabs".toList) = true
  · -- a long write, relative or absolute
    rw [if_pos hwrite] at hform h ⊢
    exact isReport_evaluateLongWrite hform h
  · -- two numbers, which are a relative write
    rw [if_neg hwrite] at hform h ⊢
    rw [if_neg hknown] at h ⊢
    obtain ⟨haddress, hlength, -⟩ := shorthand_of_validate hform
    have hresolved : ¬ (!(resolve (parts.headD [])).success) = true := by simpa using haddress
    have hpair : ¬ parts.length ≠ 2 := not_not.mpr hlength
    have hno : parts.headD [] ≠ "writeabs".toList := by
      intro hwriteabs
      rw [hwriteabs] at hwrite
      exact hwrite (Bool.or_true _)
    simp only [evaluateShorthand, if_neg hresolved, if_neg hpair] at h ⊢
    rw [belowModule_of_ne hno]
    exact isReport_evaluateRelativeWrite h

/-- After an `accu_test` it does not even do that. -/
theorem isReport_evaluateConditionalLine {parts : List Text}
    (hset : ¬ parts.headD [] = "set".toList) (resolver : ValueResolver)
    (h : ∃ issue, (evaluateConditionalLine target e resolver location
      parts).1.result.unresolvedStatements =
        e.result.unresolvedStatements ++ [issue] ∧ issue.impact = .nonFrontend) :
    IsReport location e (evaluateConditionalLine target e resolver location parts).1 false ∧
      (evaluateConditionalLine target e resolver location parts).2 = resolver := by
  have hresolver : ¬ (parts.headD [] = "set".toList && parts.getD 1 [] ≠ []) = true := by
    simp only [Bool.and_eq_true, decide_eq_true_eq]
    exact fun h => hset h.1
  simp only [evaluateConditionalLine, if_neg hresolver] at h ⊢
  by_cases himpact : (conditionalEffect target parts).1 = .frontend
  · simp only [himpact, if_true] at h
    rcases @issue_of_reported e location (.taint _ _) h with htest | ⟨_, _, _, _, hreport⟩
    · cases htest
    · cases hreport
  · have hnonFrontend : (conditionalEffect target parts).1 = .nonFrontend := by
      cases hcase : (conditionalEffect target parts).1 with
      | nonFrontend => rfl
      | frontend => exact absurd hcase himpact
    simp only [hnonFrontend, reduceCtorEq, if_false, and_true]
    exact ⟨_, _, rfl⟩

/-- What a line that is reported so does: it adds its report, and a write below the module where
nothing is conditional makes the selector unknown. -/
theorem isReport_evaluateLine {line : Text} (hrejected : lineRejected target resolver line = false)
    (htest : ¬ (prepareLine line resolver).parts.headD [] = "accu_test".toList)
    (h : ReportedNonFrontend target e resolver location line) :
    IsReport location e (evaluateLine target e resolver location line).1
        (!e.statementsConditional && belowModule target (prepareLine line resolver).parts) ∧
      (evaluateLine target e resolver location line).2 = resolver := by
  unfold ReportedNonFrontend at h
  unfold lineRejected at hrejected
  simp only [Bool.or_eq_false_iff, Bool.not_eq_false'] at hrejected
  obtain ⟨hprepared, hvalid⟩ := hrejected
  unfold evaluateLine evaluatePreparedLine at h ⊢
  simp only [hprepared, hvalid, Bool.not_true, Bool.false_eq_true, if_false] at h ⊢
  by_cases hset : (prepareLine line resolver).parts.headD [] = "set".toList
  · -- A set statement of valid form is not reported.
    obtain ⟨hlength, hname⟩ := set_of_validate hvalid hset
    rw [if_pos hset] at h
    obtain ⟨issue, hissue, -⟩ := h
    simp only [evaluateSet, hlength, hname, ne_eq, not_true_eq_false, decide_false, Bool.or_false,
      Bool.false_eq_true, if_false, List.self_eq_append_right] at hissue
    cases hissue
  · rw [if_neg hset] at h ⊢
    cases hconditional : e.statementsConditional with
    | true =>
        simp only [hconditional, if_true] at h ⊢
        exact isReport_evaluateConditionalLine hset resolver h
    | false =>
        simp only [hconditional, Bool.false_eq_true, if_false, Bool.not_false, Bool.true_and,
          and_true] at h ⊢
        exact isReport_evaluateStatement hvalid hset htest h

end Line

/-! ### Where the line stands

A script is evaluated line by line, so what is in front of the line is common to both scripts.
Behind it they differ by what the line has left, and `LeavesOthers` and `LeavesSelector` say that
this makes no difference. -/

/-- The evaluation and the variables behind the lines. -/
def linesState (target : TargetModuleAddress) (scriptIndex : Nat) :
    Evaluator → ValueResolver → Nat → List Text → Evaluator × ValueResolver
  | e, resolver, _, [] => (e, resolver)
  | e, resolver, lineNumber, line :: lines =>
    let trimmed := trim line
    if trimmed = [] then linesState target scriptIndex e resolver (lineNumber + 1) lines
    else
      let (e, resolver) := evaluateLine target e resolver { scriptIndex, lineNumber } trimmed
      linesState target scriptIndex e resolver (lineNumber + 1) lines

/-- The lines behind a place go on from the state at that place. -/
theorem evaluateLines_append (target : TargetModuleAddress) (scriptIndex : Nat) (e : Evaluator)
    (resolver : ValueResolver) (lineNumber : Nat) (lines lines' : List Text) :
    evaluateLines target scriptIndex e resolver lineNumber (lines ++ lines') =
      evaluateLines target scriptIndex
        (linesState target scriptIndex e resolver lineNumber lines).1
        (linesState target scriptIndex e resolver lineNumber lines).2
        (lineNumber + lines.length) lines' := by
  induction lines generalizing e resolver lineNumber with
  | nil => rfl
  | cons line lines ih =>
      rw [List.cons_append, evaluateLines, linesState, List.length_cons,
        show lineNumber + (lines.length + 1) = lineNumber + 1 + lines.length by omega]
      dsimp only
      split
      · exact ih ..
      · exact ih ..

/-- A script with another text. -/
def withText (script : Json) (text : Text) : Json :=
  script.set "vme_script" (.string (String.ofList text))

/-- A script is gone through like any other with another text. -/
theorem entryEffect_withText {context : ScriptContext} {script : Json} {n : Nat} {text : Text}
    {resolver : ValueResolver} (h : entryEffect context script n = .script text resolver)
    (text' : Text) :
    entryEffect context (withText script text') n = .script text' resolver := by
  have hobject := isObject_of_script context h
  -- the variables are looked for in other members
  have htables : [withText script text', context.module, context.event, context.daq].map
      (jsonVariableTable · "variable_table") =
        [script, context.module, context.event, context.daq].map
          (jsonVariableTable · "variable_table") := by
    have htable : jsonVariableTable (withText script text') "variable_table" =
        jsonVariableTable script "variable_table" :=
      jsonVariableTable_congr (Json.find?_set_of_ne script (by decide) _)
    simp only [List.map_cons, htable]
  have henabled : enabledEffect context script n = .script text resolver →
      enabledEffect context (withText script text') n = .script text' resolver := by
    intro heffect
    unfold enabledEffect at heffect ⊢
    dsimp only at heffect ⊢
    have htext : (withText script text').find? "vme_script" = some (.string (String.ofList text')) :=
      Json.find?_set_self hobject _ _
    rw [htables, htext]
    dsimp only
    split at heffect
    · split at heffect
      · cases heffect
      · cases heffect
        rw [String.toList_ofList]
    · cases heffect
  -- and so is the flag that enables the script
  have hfound : (withText script text').find? "enabled" = script.find? "enabled" :=
    Json.find?_set_of_ne script (by decide) _
  unfold entryEffect at h ⊢
  rw [hfound, withText, Json.isObject_set]
  split at h
  · cases h
  next hno =>
    rw [if_neg hno]
    split at h
    · exact henabled h
    · exact henabled h
    · cases h
    · cases h

/-- A place in the scripts of a module: behind some entries and, in a script, behind some lines. -/
structure Place where
  context : ScriptContext
  entriesBefore : List Json
  script : Json
  resolver : ValueResolver
  linesBefore : List Text

namespace Place

variable (target : TargetModuleAddress) (place : Place)

/-- The number of the script in the list. -/
def scriptIndex : Nat := place.entriesBefore.length

/-- The evaluation before the script. -/
def entriesState : Evaluator :=
  let e := evaluateEntriesFrom target place.context {} 0 place.entriesBefore
  { e with result := { e.result with enabledScriptCount := e.result.enabledScriptCount + 1 } }

/-- The evaluation and the variables before the line. -/
def state : Evaluator × ValueResolver :=
  linesState target place.scriptIndex
    { place.entriesState target with currentScriptParseFailed := false } place.resolver 1
    (stripLines .code place.linesBefore)

/-- Whether a block comment is open where the line begins. -/
def commentState : CommentState := commentStateAfterLines .code place.linesBefore

/-- Where the line is. -/
def location : MvmeInitScriptLocation :=
  { scriptIndex := place.scriptIndex, lineNumber := 1 + place.linesBefore.length }

/-- What the evaluator makes of a line that stands here. -/
def statement (line : Text) : Text := trim (stripCommentsFrom place.commentState line).1

/-- The text with a line that stands here, and lines that follow. -/
def text (line : Text) (linesAfter : List Text) : Text :=
  joinLines (place.linesBefore ++ line :: linesAfter)

/-- The entries with a line that stands here, and what follows. -/
def entries (line : Text) (linesAfter : List Text) (entriesAfter : List Json) : List Json :=
  place.entriesBefore ++ withText place.script (place.text line linesAfter) :: entriesAfter

/-- The evaluation and the variables behind a line that stands here. -/
def stateAfter (line : Text) : Evaluator × ValueResolver :=
  if place.statement line = [] then place.state target
  else evaluateLine target (place.state target).1 (place.state target).2 place.location
    (place.statement line)

/-- The evaluation at the end of the text. -/
def textState (line : Text) (linesAfter : List Text) : Evaluator :=
  evaluateText target (place.entriesState target) place.scriptIndex (place.text line linesAfter)
    place.resolver

end Place

/-- The end of a script: an open comment makes it unusable. -/
def finishText (scriptIndex lineCount : Nat) (last : CommentState) (e : Evaluator) : Evaluator :=
  if last = .block then
    (LineEffect.report true .frontend .malformedScript
      "An init script contains an unterminated block comment." true).apply
        { scriptIndex, lineNumber := lineCount } e
  else e

section Places

variable {target : TargetModuleAddress} {place : Place} {line : Text} {linesAfter : List Text}

/-- A line comment ends with its line. -/
theorem commentStateAfterLines_ne_line (state : CommentState) (hstate : state ≠ .line)
    (lines : List Text) : commentStateAfterLines state lines ≠ .line := by
  induction lines generalizing state with
  | nil => exact hstate
  | cons line lines ih =>
      apply ih
      unfold commentStateAfter
      cases (stripCommentsFrom state line).2 <;> simp [afterNewline]

/-- A line begins in the code or in a block comment. -/
theorem commentState_cases (place : Place) :
    place.commentState = .code ∨ place.commentState = .block := by
  cases hstate : place.commentState with
  | code => exact .inl rfl
  | line =>
      exact absurd hstate (commentStateAfterLines_ne_line .code CommentState.noConfusion _)
  | block => exact .inr rfl

/-- A blank line leaves a comment open or closed. -/
theorem commentStateAfter_nil : commentStateAfter place.commentState [] = place.commentState := by
  show afterNewline (stripCommentsFrom place.commentState []).2 = _
  rw [stripCommentsFrom]
  rcases commentState_cases place with hstate | hstate
  · rw [hstate]
    rfl
  · rw [hstate]
    rfl

/-- An empty line has no statement. -/
theorem statement_nil : place.statement [] = [] := by
  unfold Place.statement
  rw [stripCommentsFrom]
  rfl

/-- The text is gone through up to the line, then the line, then what follows it. -/
theorem textState_eq
    (h : ∀ line' ∈ place.linesBefore ++ line :: linesAfter, '\n' ∉ line') :
    place.textState target line linesAfter =
      finishText place.scriptIndex (place.linesBefore.length + (linesAfter.length + 1))
        (commentStateAfterLines (commentStateAfter place.commentState line) linesAfter)
        (evaluateLines target place.scriptIndex (place.stateAfter target line).1
          (place.stateAfter target line).2 (1 + place.linesBefore.length + 1)
          (stripLines (commentStateAfter place.commentState line) linesAfter)) := by
  have hne : place.linesBefore ++ line :: linesAfter ≠ [] := by simp
  obtain ⟨hlines, hblock⟩ := splitLines_stripComments hne h
  -- the comment state at the end of the script is that after the later lines
  have hlast : commentStateAfterLines .code (place.linesBefore ++ line :: linesAfter) =
      commentStateAfterLines (commentStateAfter place.commentState line) linesAfter := by
    unfold commentStateAfterLines Place.commentState
    rw [List.foldl_append]
    rfl
  -- the lines before give the place's state, the line itself the state after it
  have hstep : evaluateLines target place.scriptIndex
      { place.entriesState target with currentScriptParseFailed := false } place.resolver 1
      (stripLines .code (place.linesBefore ++ line :: linesAfter)) =
        evaluateLines target place.scriptIndex (place.stateAfter target line).1
          (place.stateAfter target line).2 (1 + place.linesBefore.length + 1)
          (stripLines (commentStateAfter place.commentState line) linesAfter) := by
    rw [stripLines_append, evaluateLines_append, length_stripLines]
    show evaluateLines target place.scriptIndex (place.state target).1 (place.state target).2 _
      ((stripCommentsFrom place.commentState line).1 :: stripLines _ linesAfter) = _
    rw [evaluateLines]
    unfold Place.stateAfter Place.statement
    dsimp only
    split <;> rfl
  unfold Place.textState evaluateText Place.text
  simp only [hlines, hstep]
  unfold finishText
  -- a comment left open at the end is reported in either reading
  by_cases hopen : commentStateAfterLines .code (place.linesBefore ++ line :: linesAfter) = .block
  · rw [if_pos (hblock.mpr hopen), if_pos (hlast ▸ hopen), length_stripLines, List.length_append,
      List.length_cons]
    rfl
  · rw [if_neg (fun h => hopen (hblock.mp h)), if_neg (hlast ▸ hopen)]

/-- The end of the text keeps evaluations alike. -/
theorem Alike.finishText {e₁ e₂ : Evaluator} (h : Alike e₁ e₂) (scriptIndex lineCount : Nat)
    (last : CommentState) :
    Alike (finishText scriptIndex lineCount last e₁) (finishText scriptIndex lineCount last e₂) := by
  unfold Evaluator.finishText
  split
  · exact h.apply _
  · exact h

/-- Behind a report that leaves the selector alone, or unknown, nothing has changed. -/
theorem alike_of_isReport {e e' : Evaluator} {location : MvmeInitScriptLocation} {reset : Bool}
    (h : IsReport location e e' reset) (hreset : reset = true → e.selector = none) :
    Alike e' e ∧ e'.currentScriptParseFailed = e.currentScriptParseFailed := by
  obtain ⟨reason, message, rfl⟩ := h
  cases reset with
  | false => exact ⟨alike_addIssue e location reason message, rfl⟩
  | true =>
      have hnone : (e.addIssue location .nonFrontend reason message).selector = none :=
        hreset rfl
      have hsame : (e.addIssue location .nonFrontend reason message).resetSelectorIf true =
          e.addIssue location .nonFrontend reason message := by
        show { e.addIssue location .nonFrontend reason message with selector := none } = _
        rw [← hnone]
      rw [hsame]
      exact ⟨alike_addIssue e location reason message, rfl⟩

end Places

/-! ### Taking the line out

From the lines to the script, to the entries of the module, and to the workspace. A script that is
rejected is rolled back, which keeps the evaluations alike. -/

/-- No script is refused. -/
def RejectsNone (target : TargetModuleAddress) (context : ScriptContext) (scripts : List Json) :
    Prop :=
  ∀ (n : Nat) (script : Json), scripts[n]? = some script →
    (entryEffect context script n).rejected target = false

/-- What the line is taken out of: a script that is gone through, up to a line that is reported as
not concerning the frontend and is no `accu_test`. -/
structure Removable (target : TargetModuleAddress) (place : Place) (line : Text) : Prop where
  entry : ∃ text, entryEffect place.context place.script place.scriptIndex =
    .script text place.resolver
  newline : ∀ line' ∈ place.linesBefore ++ [line], '\n' ∉ line'
  rejected : lineRejected target (place.state target).2 (place.statement line) = false
  test : ¬ (prepareLine (place.statement line) (place.state target).2).parts.headD [] =
    "accu_test".toList
  reported : ReportedNonFrontend target (place.state target).1 (place.state target).2 place.location
    (place.statement line)

/-- The other lines are read as they were, and no comment is left open, when the line is blank. Only
a line that opens or closes a comment may do otherwise. -/
structure LeavesOthers (place : Place) (line : Text) (linesAfter : List Text) : Prop where
  lines : stripLines (commentStateAfter place.commentState line) linesAfter =
    stripLines place.commentState linesAfter
  closed : commentStateAfterLines place.commentState linesAfter ≠ .block

/-- The line is no write below the module that stands where nothing is conditional and the selector
is known. -/
def LeavesSelector (target : TargetModuleAddress) (place : Place) (line : Text) : Prop :=
  (place.state target).1.statementsConditional = false →
    belowModule target (prepareLine (place.statement line) (place.state target).2).parts = true →
      (place.state target).1.selector = none

section Removal

variable {target : TargetModuleAddress} {place : Place} {line : Text}

/-- A line without a statement would be rejected if it were looked at. -/
theorem lineRejected_nil (resolver : ValueResolver) : lineRejected target resolver [] = true := rfl

/-- What the line leaves behind. -/
theorem Removable.stateAfter (h : Removable target place line) :
    IsReport place.location (place.state target).1 (place.stateAfter target line).1
        (!(place.state target).1.statementsConditional &&
          belowModule target (prepareLine (place.statement line) (place.state target).2).parts) ∧
      (place.stateAfter target line).2 = (place.state target).2 := by
  have hne : place.statement line ≠ [] := by
    intro hnil
    have hrejected := h.rejected
    rw [hnil, lineRejected_nil] at hrejected
    cases hrejected
  unfold Place.stateAfter
  rw [if_neg hne]
  exact isReport_evaluateLine h.rejected h.test h.reported

/-- The lines around it are lines. -/
theorem Removable.newlines (h : Removable target place line) {linesAfter : List Text}
    (hafter : ∀ line' ∈ linesAfter, '\n' ∉ line') :
    (∀ line' ∈ place.linesBefore ++ line :: linesAfter, '\n' ∉ line') ∧
      ∀ line' ∈ place.linesBefore ++ [] :: linesAfter, '\n' ∉ line' := by
  have hboth : ∀ line₀ : Text, '\n' ∉ line₀ →
      ∀ line' ∈ place.linesBefore ++ line₀ :: linesAfter, '\n' ∉ line' := by
    intro line₀ hline₀ line' hline'
    rcases List.mem_append.mp hline' with hbefore | hrest
    · exact h.newline line' (List.mem_append_left _ hbefore)
    · rcases List.mem_cons.mp hrest with rfl | hrest
      · exact hline₀
      · exact hafter line' hrest
  exact ⟨hboth line (h.newline line (by simp)), hboth [] (by simp)⟩

/-- A script that is not refused ends outside a comment. -/
theorem finishText_of_accepted {scriptIndex lineCount : Nat} {last : CommentState} {e : Evaluator}
    (h : (finishText scriptIndex lineCount last e).currentScriptParseFailed = false) :
    finishText scriptIndex lineCount last e = e := by
  unfold finishText at h ⊢
  split at h
  · cases h
  next hclosed => exact if_neg hclosed

/-- The two texts leave alike evaluations, and the blank line is no reason to refuse the script. -/
theorem Removable.textState (h : Removable target place line) {linesAfter : List Text}
    (hothers : LeavesOthers place line linesAfter) (hselector : LeavesSelector target place line)
    (hafter : ∀ line' ∈ linesAfter, '\n' ∉ line')
    (haccepted : (place.textState target line linesAfter).currentScriptParseFailed = false) :
    Alike (place.textState target line linesAfter) (place.textState target [] linesAfter) ∧
      (place.textState target [] linesAfter).currentScriptParseFailed = false := by
  obtain ⟨hnewline, hnewline'⟩ := h.newlines hafter
  obtain ⟨hreport, hresolver⟩ := h.stateAfter
  obtain ⟨halike, hfailed⟩ := alike_of_isReport hreport (by
    intro hreset
    rw [Bool.and_eq_true, Bool.not_eq_true'] at hreset
    exact hselector hreset.1 hreset.2)
  have hblank : place.stateAfter target [] = place.state target := if_pos statement_nil
  rw [textState_eq hnewline] at haccepted ⊢
  have hfinished := finishText_of_accepted haccepted
  rw [hfinished] at haccepted ⊢
  rw [textState_eq hnewline', commentStateAfter_nil, hblank, finishText, if_neg hothers.closed]
  rw [hothers.lines, hresolver] at haccepted ⊢
  refine ⟨halike.evaluateLines target place.scriptIndex (place.state target).2 _ _, ?_⟩
  rw [currentScriptParseFailed_evaluateLines] at haccepted ⊢
  rwa [hfailed] at haccepted

/-- Whether the script is rejected is seen in the state behind its lines. -/
theorem textRejected_text (place : Place) (line : Text) (linesAfter : List Text) :
    textRejected target (place.text line linesAfter) place.resolver =
      (place.textState target line linesAfter).currentScriptParseFailed :=
  (currentScriptParseFailed_evaluateText target place.scriptIndex (place.entriesState target)
    (place.text line linesAfter) place.resolver).symm

/-- The evaluation behind the script. -/
theorem applyEntry_withText (h : Removable target place line) (line₀ : Text)
    (linesAfter : List Text) :
    (entryEffect place.context (withText place.script (place.text line₀ linesAfter))
        place.scriptIndex).apply target place.scriptIndex
          (evaluateEntriesFrom target place.context {} 0 place.entriesBefore) =
      evaluateScript target (place.entriesState target) place.scriptIndex
        (place.text line₀ linesAfter) place.resolver := by
  obtain ⟨text, htext⟩ := h.entry
  rw [entryEffect_withText htext]
  rfl

/-- The evaluation, from the place on. -/
theorem evaluateEntries_entries (h : Removable target place line) (line₀ : Text)
    (linesAfter : List Text) (entriesAfter : List Json) :
    evaluateEntries target place.context (place.entries line₀ linesAfter entriesAfter) =
      evaluateEntriesFrom target place.context
        (evaluateScript target (place.entriesState target) place.scriptIndex
          (place.text line₀ linesAfter) place.resolver)
        (place.scriptIndex + 1) entriesAfter := by
  rw [← applyEntry_withText h]
  show evaluateEntriesFrom target place.context {} 0 (place.entriesBefore ++ _) = _
  rw [evaluateEntriesFrom_append, evaluateEntriesFrom_cons, Nat.zero_add]
  rfl

/-- Evaluations that are alike say the same of the frontend. -/
theorem sameFrontend_of_alike {context : ScriptContext} {scripts scripts' : List Json}
    (h : Alike (evaluateEntries target context scripts) (evaluateEntries target context scripts')) :
    SameFrontend (evaluateScripts target context scripts)
      (evaluateScripts target context scripts') where
  selectorAssignments := congrArg Attribution.selectorAssignments h.attribution
  frontendWrites := congrArg Attribution.frontendWrites h.attribution
  finalFrontendValues := congrArg (fun a => a.finalValues.toList.map (·.2)) h.attribution
  frontendIssues := h.frontendIssues
  conditionalAccuTestLocation := congrArg Attribution.conditionalAccuTestLocation h.attribution

/-- The line leaves no trace but its report. -/
theorem Removable.sameFrontend (h : Removable target place line) {linesAfter : List Text}
    (hothers : LeavesOthers place line linesAfter) (hselector : LeavesSelector target place line)
    (hafter : ∀ line' ∈ linesAfter, '\n' ∉ line') {entriesAfter : List Json}
    (hnone : RejectsNone target place.context (place.entries line linesAfter entriesAfter)) :
    SameFrontend (evaluateScripts target place.context (place.entries line linesAfter entriesAfter))
      (evaluateScripts target place.context (place.entries [] linesAfter entriesAfter)) := by
  obtain ⟨text, htext⟩ := h.entry
  have haccepted : textRejected target (place.text line linesAfter) place.resolver = false := by
    have hentry := hnone place.scriptIndex (withText place.script (place.text line linesAfter))
      (by
        unfold Place.entries Place.scriptIndex
        rw [List.getElem?_append_right (Nat.le_refl _), Nat.sub_self]
        rfl)
    rw [entryEffect_withText htext] at hentry
    exact hentry
  obtain ⟨halike, hblank⟩ := h.textState hothers hselector hafter
    (by rw [← textRejected_text, haccepted])
  have haccepted' : textRejected target (place.text [] linesAfter) place.resolver = false := by
    rw [textRejected_text, hblank]
  apply sameFrontend_of_alike
  rw [evaluateEntries_entries h, evaluateEntries_entries h]
  apply Alike.evaluateEntriesFrom
  unfold evaluateScript
  simp only [currentScriptParseFailed_evaluateText, haccepted, haccepted', Bool.false_eq_true,
    if_false]
  exact halike

end Removal

/-- A line that is reported as not concerning the frontend can be taken out of a workspace that has
no script refused. What the evaluation says of the frontend stays as it was, if the other lines are
read as they were. Nothing is said of a write below the module where the selector is known. -/
theorem nonFrontendLine_removed {workspace : MvmeWorkspace} {target : MvmeWorkspaceTarget}
    {place : Place} {scripts : List Json} {line : Text} {linesAfter : List Text}
    {entriesAfter : List Json} (hlocated : Located workspace target place.context scripts)
    (h : Removable target.address place line) (hafter : ∀ line' ∈ linesAfter, '\n' ∉ line')
    (hnone : RejectsNone target.address place.context (place.entries line linesAfter entriesAfter))
    (hothers : LeavesOthers place line linesAfter)
    (hselector : LeavesSelector target.address place line) :
    SameFrontend
      (evaluateMvmeTargetInitScripts (workspace.withInitScripts target
        (place.entries line linesAfter entriesAfter)) target)
      (evaluateMvmeTargetInitScripts (workspace.withInitScripts target
        (place.entries [] linesAfter entriesAfter)) target) := by
  have hrun (line₀ : Text) : evaluateMvmeTargetInitScripts (workspace.withInitScripts target
      (place.entries line₀ linesAfter entriesAfter)) target =
        evaluateScripts target.address place.context (place.entries line₀ linesAfter entriesAfter) :=
    run_withInitScripts hlocated _
  rw [hrun, hrun]
  exact h.sameFrontend hothers hselector hafter hnone

/-! ### Behind a selector of quad 1

The two kinds of lines that the general statement excludes, each in a script of its own. -/

/-- The second line of the only script. -/
def examplePlace : Place where
  context := exampleContext []
  entriesBefore := []
  script := .object [("vme_script", .string "")]
  resolver := { outer := [[], [], [], []] }
  linesBefore := ["0x6100 1".toList]

/-- A module of one script, which is not rejected. -/
theorem rejectsNone_singleton {target : TargetModuleAddress} {context : ScriptContext}
    {script : Json} (h : (entryEffect context script 0).rejected target = false) :
    RejectsNone target context [script] := by
  intro n script' hscript
  cases n with
  | zero =>
      obtain rfl := Option.some.inj hscript
      exact h
  | succ n => cases hscript

/-- A line that is the first to be reported. -/
theorem reportedNonFrontend_of_first {address : TargetModuleAddress} {e : Evaluator}
    {resolver : ValueResolver} {location : MvmeInitScriptLocation} {line : Text}
    (hnone : e.result.unresolvedStatements = [])
    (h : (evaluateLine address e resolver location line).1.result.unresolvedStatements.map
      (·.impact) = [.nonFrontend]) :
    ReportedNonFrontend address e resolver location line := by
  obtain ⟨issue, hissue, himpact⟩ := List.map_eq_singleton_iff.mp h
  refine ⟨issue, ?_, himpact⟩
  rw [hissue, hnone]
  rfl

/-- A line of the example that is reported as not concerning the frontend. -/
theorem removable_examplePlace {line : Text} (hnewline : '\n' ∉ line)
    (hrejected : lineRejected exampleTarget.address (examplePlace.state exampleTarget.address).2
      (examplePlace.statement line) = false)
    (htest : ¬ (prepareLine (examplePlace.statement line)
      (examplePlace.state exampleTarget.address).2).parts.headD [] = "accu_test".toList)
    (hreported : (evaluateLine exampleTarget.address
      (examplePlace.state exampleTarget.address).1 (examplePlace.state exampleTarget.address).2
      examplePlace.location (examplePlace.statement line)).1.result.unresolvedStatements.map
        (·.impact) = [.nonFrontend]) :
    Removable exampleTarget.address examplePlace line where
  entry := ⟨_, rfl⟩
  newline := by
    intro line' hline'
    rcases List.mem_append.mp hline' with hbefore | hline
    · obtain rfl := List.mem_singleton.mp hbefore
      decide
    · obtain rfl := List.mem_singleton.mp hline
      exact hnewline
  rejected := hrejected
  test := htest
  reported := reportedNonFrontend_of_first (by decide +kernel) hreported

/-- A line that waits is taken out. Although it opens a comment, the lines behind it are read as
before, because the first of them is a comment anyway. -/
theorem nonFrontendLine_removed_example :
    let linesAfter := ["/* b */".toList, "0x611A 5".toList]
    SameFrontend
      (evaluateMvmeTargetInitScripts ((exampleWorkspace []).withInitScripts exampleTarget
        (examplePlace.entries "wait 100 /* a".toList linesAfter [])) exampleTarget)
      (evaluateMvmeTargetInitScripts ((exampleWorkspace []).withInitScripts exampleTarget
        (examplePlace.entries [] linesAfter [])) exampleTarget) :=
  @nonFrontendLine_removed _ _ examplePlace _ _ _ _ (located_exampleWorkspace [])
    (removable_examplePlace (by decide) (by decide +kernel) (by decide +kernel) (by decide +kernel))
    (by decide) (rejectsNone_singleton (by decide +kernel)) ⟨by decide, by decide⟩ (by
      intro _ hbelow
      revert hbelow
      decide +kernel)

/-- Two lines that matter to the frontend though they are reported not to concern it: one that opens a
comment hides a write behind it, and a write to address 0, below the module, leaves the banked write
behind it without its selector. -/
theorem nonFrontendLine_removed_counterexample :
    (let line := "wait 100 /* a".toList
      let linesAfter := ["0x611A 5 /* b */".toList]
      Removable exampleTarget.address examplePlace line ∧
        RejectsNone exampleTarget.address examplePlace.context
          (examplePlace.entries line linesAfter []) ∧
        ¬SameFrontend
          (evaluateMvmeTargetInitScripts (exampleWorkspace (examplePlace.entries line linesAfter []))
            exampleTarget)
          (evaluateMvmeTargetInitScripts (exampleWorkspace (examplePlace.entries [] linesAfter []))
            exampleTarget)) ∧
    (let line := "writeabs a32 d16 0x0 1".toList
      let linesAfter := ["0x611A 5".toList]
      Removable exampleTarget.address examplePlace line ∧
        RejectsNone exampleTarget.address examplePlace.context
          (examplePlace.entries line linesAfter []) ∧
        ¬SameFrontend
          (evaluateMvmeTargetInitScripts (exampleWorkspace (examplePlace.entries line linesAfter []))
            exampleTarget)
          (evaluateMvmeTargetInitScripts (exampleWorkspace (examplePlace.entries [] linesAfter []))
            exampleTarget)) := by
  constructor
  · refine ⟨removable_examplePlace (by decide) (by decide +kernel) (by decide +kernel)
      (by decide +kernel), rejectsNone_singleton (by decide +kernel), fun hsame => ?_⟩
    have hwrites := congrArg List.length hsame.frontendWrites
    revert hwrites
    decide +kernel
  · refine ⟨removable_examplePlace (by decide) (by decide +kernel) (by decide +kernel)
      (by decide +kernel), rejectsNone_singleton (by decide +kernel), fun hsame => ?_⟩
    have hwrites := congrArg List.length hsame.frontendWrites
    revert hwrites
    decide +kernel

end Evaluator

end Fidget
