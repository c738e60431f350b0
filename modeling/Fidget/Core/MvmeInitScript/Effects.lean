import Fidget.Core.MvmeInitScript

/-!
# What a line of an init script does

Whatever a line says, it does one of a few things to the evaluation, and which one depends on the
line, the variables and whether an `accu_test` came before, but on nothing else that has been
evaluated. `LineEffect` lists these things; every fact about whole scripts goes through it.

That a line does something is a function of the evaluation before it. Here it is factored: which
effect a line has depends on the line and its variables alone, and an effect is applied to an
evaluation. Invariants are then shown for the effects, of which there are few, and hold for all
lines.

## Main results

- `LineEffect`, `exists_effect_evaluateLine`: what a line can do, and that it does one of these.
- `EntryEffect`, `evaluateEntry_eq`: the same for an entry of the list.
-/

namespace Fidget

open MvmeInitScript

namespace Evaluator

/-- What a line can do to the evaluation. -/
inductive LineEffect where
  /-- A variable is set. -/
  | none
  /-- An issue, perhaps one that makes the script unusable or the selector unknown. -/
  | report (failed : Bool) (impact : MvmeInitScriptUnresolvedImpact)
      (reason : MvmeInitScriptUnresolvedReason) (message : String) (reset : Bool)
  | select (value : UInt16)
  | write (registerOffset value : UInt16)
  /-- An `accu_test`: everything after it is conditional. -/
  | test
  /-- A write to the frontend that may not happen. -/
  | taint (address : Option UInt32) (valueText : Text)

namespace LineEffect

/-- Whether the script is unusable. -/
def failed : LineEffect → Bool
  | report failed _ _ _ _ => failed
  | _ => false

def apply (location : MvmeInitScriptLocation) (e : Evaluator) : LineEffect → Evaluator
  | none => e
  | report failed impact reason message reset =>
    ((if failed then e.markCurrentScriptParseFailure else e).addIssue location impact reason
      message).resetSelectorIf reset
  | select value => e.setSelector location value
  | write registerOffset value => e.evaluateBankedWrite location registerOffset value
  | test => e.evaluateAccuTest location
  | taint address valueText =>
    (({ e with conditionalFrontendWrite := true }).taintConditionalFrontendValue address
      valueText).addIssue location .frontend .conditionalAfterAccuTest
        ("A possible frontend write is conditional after an "
          ++ "unprovable accu_test and was not extracted.")

end LineEffect

/-! ### Rejected lines

A line that MVME would not accept makes the script unusable, and this too depends on the line and
the variables only. -/

/-- A line that makes MVME refuse the whole script: it cannot be prepared, or what it is prepared
to is not the syntax of a statement, values that are no numbers included. -/
def lineRejected (target : TargetModuleAddress) (resolver : ValueResolver) (line : Text) : Bool :=
  let prepared := prepareLine line resolver
  !prepared.success || !(validatePreparedLineSyntax target prepared.parts).success

/-- The variables after a line that is not rejected. -/
def resolverAfterLine (resolver : ValueResolver) (line : Text) : ValueResolver :=
  let parts := (prepareLine line resolver).parts
  if parts.headD [] = "set".toList then
    resolver.setLiteral (parts.getD 1 []) (parts.getD 2 [])
  else resolver

/-! ### Every line has an effect

Command by command, with what the syntax check has established. -/

section Effects

variable {target : TargetModuleAddress} {location : MvmeInitScriptLocation}

/-- Which effect a write has depends on its address and value only. -/
theorem exists_effect_evaluateRelativeWrite (address : UInt32) (valueText : Text) :
    ∃ effect : LineEffect, (effect.failed = true → (resolve valueText).success = false) ∧
      ∀ e : Evaluator, e.evaluateRelativeWrite location address valueText =
        effect.apply location e := by
  unfold evaluateRelativeWrite
  by_cases haddress : (!isFrontendAddress address) = true
  · exact ⟨.report false _ _ _ false, Bool.noConfusion, fun e => if_pos haddress⟩
  simp only [if_neg haddress]
  by_cases hvalue : (!(resolve valueText).success || (resolve valueText).value > 0xFFFF) = true
  · exact ⟨.report (!(resolve valueText).success) .frontend
      (if (resolve valueText).success then .invalidValue else (resolve valueText).reason)
      (if address = fw2051ScpSelectorRegister.toUInt32 then
        "The frontend selector value could not be resolved."
      else "A target frontend value could not be resolved.")
      (address = fw2051ScpSelectorRegister.toUInt32), fun h => by rwa [LineEffect.failed, Bool.not_eq_true'] at h,
      fun e => if_pos hvalue⟩
  simp only [if_neg hvalue]
  by_cases hselector : address.toUInt16 = fw2051ScpSelectorRegister
  · exact ⟨.select (resolve valueText).value.toUInt16, Bool.noConfusion,
      fun e => if_pos hselector⟩
  · exact ⟨.write address.toUInt16 (resolve valueText).value.toUInt16, Bool.noConfusion,
      fun e => if_neg hselector⟩

/-- A value that resolves does not make its write fail. -/
theorem exists_effect_of_resolved (address : UInt32) {valueText : Text}
    (hvalue : (resolve valueText).success = true) :
    ∃ effect : LineEffect, effect.failed = false ∧ ∀ e : Evaluator,
      e.evaluateRelativeWrite location address valueText = effect.apply location e := by
  obtain ⟨effect, hfailed, heffect⟩ := exists_effect_evaluateRelativeWrite address valueText
  refine ⟨effect, ?_, heffect⟩
  cases hcase : effect.failed with
  | false => rfl
  | true => rw [hfailed hcase] at hvalue; cases hvalue

/-- An accepted write has five parts, and numbers where they are needed. -/
theorem longWrite_of_validate {parts : List Text}
    (h : (validateLongWriteSyntax target parts).success = true) :
    parts.length = 5 ∧ (resolveMvmeLongAddress (parts.getD 3 [])).success = true ∧
      (resolve (parts.getD 4 [])).success = true := by
  unfold validateLongWriteSyntax at h
  split at h
  next command mode width addressText valueText =>
    split at h
    · cases h
    simp only at h
    split at h
    · cases h
    next haddress =>
      split at h
      · cases h
      next hvalue => exact ⟨rfl, by simpa using haddress, by simpa using hvalue⟩
  · cases h

/-- A relative or an absolute write. -/
theorem exists_effect_evaluateLongWrite {parts : List Text}
    (h : (validateLongWriteSyntax target parts).success = true) (absolute : Bool) :
    ∃ effect : LineEffect, effect.failed = false ∧ ∀ e : Evaluator,
      evaluateLongWrite target e location absolute parts = effect.apply location e := by
  obtain ⟨hlength, haddress, hvalue⟩ := longWrite_of_validate h
  have hlong : ¬ parts.length < 4 := by omega
  have hresolved : ¬ (!(resolveMvmeLongAddress (parts.getD 3 [])).success) = true := by
    simpa using haddress
  have hexact : ¬ parts.length ≠ 5 := not_not.mpr hlength
  simp only [evaluateLongWrite, if_neg hlong, if_neg hresolved, if_neg hexact]
  -- Only relative sixteen-bit writes in `a32` are followed.
  split
  · exact ⟨.report false _ _ _ _, rfl, fun e => rfl⟩
  · exact exists_effect_of_resolved _ hvalue

/-- An accepted shorthand is two numbers. -/
theorem shorthand_of_validate {parts : List Text}
    (h : (validateShorthandSyntax parts).success = true) :
    (resolve (parts.headD [])).success = true ∧ parts.length = 2 ∧
      (resolve (parts.getD 1 [])).success = true := by
  unfold validateShorthandSyntax at h
  simp only at h
  split at h
  · cases h
  next hshape =>
    split at h
    · cases h
    next hvalue =>
      rw [Bool.or_eq_true, not_or] at hshape
      exact ⟨by simpa using hshape.1, by simpa using hshape.2, by simpa using hvalue⟩

theorem exists_effect_evaluateShorthand {parts : List Text}
    (h : (validateShorthandSyntax parts).success = true) :
    ∃ effect : LineEffect, effect.failed = false ∧ ∀ e : Evaluator,
      e.evaluateShorthand location parts = effect.apply location e := by
  obtain ⟨haddress, hlength, hvalue⟩ := shorthand_of_validate h
  have hresolved : ¬ (!(resolve (parts.headD [])).success) = true := by simpa using haddress
  have hpair : ¬ parts.length ≠ 2 := not_not.mpr hlength
  simp only [evaluateShorthand, if_neg hresolved, if_neg hpair]
  exact exists_effect_of_resolved _ hvalue

/-- Which syntax an accepted statement has been checked for. -/
theorem statement_of_validate {parts : List Text}
    (h : (validatePreparedLineSyntax target parts).success = true)
    (htest : ¬ parts.headD [] = "accu_test".toList)
    (hwarn : ¬ parts.headD [] = "accu_test_warn".toList) (hset : ¬ parts.headD [] = "set".toList)
    (hknown : ¬ isKnownNonFrontendCommand (parts.headD []) = true) :
    if parts.headD [] = "write".toList || parts.headD [] = "writeabs".toList then
      (validateLongWriteSyntax target parts).success = true
    else (validateShorthandSyntax parts).success = true := by
  unfold validatePreparedLineSyntax at h
  have hnoTest : ¬ (parts.headD [] = "accu_test".toList ||
      parts.headD [] = "accu_test_warn".toList) = true := by
    rw [Bool.or_eq_true, decide_eq_true_eq, decide_eq_true_eq, not_or]
    exact ⟨htest, hwarn⟩
  simp only [if_neg hnoTest, if_neg hset, if_neg hknown] at h
  split at h
  · cases h
  split
  next hwrite =>
    rw [if_pos hwrite] at h
    exact h
  next hwrite =>
    rw [if_neg hwrite] at h
    split at h
    · cases h
    · exact h

/-- An accepted `set` has a name and a value. -/
theorem set_of_validate {parts : List Text}
    (h : (validatePreparedLineSyntax target parts).success = true)
    (hset : parts.headD [] = "set".toList) : parts.length = 3 ∧ parts.getD 1 [] ≠ [] := by
  unfold validatePreparedLineSyntax at h
  have hnoTest : ¬ (parts.headD [] = "accu_test".toList ||
      parts.headD [] = "accu_test_warn".toList) = true := by
    rw [hset]
    decide
  simp only [if_neg hnoTest, if_pos hset] at h
  split at h
  · cases h
  split at h
  next hform => simpa using hform
  · cases h

/-- Command by command. -/
theorem exists_effect_evaluateStatement {parts : List Text}
    (h : (validatePreparedLineSyntax target parts).success = true)
    (hset : ¬ parts.headD [] = "set".toList) :
    ∃ effect : LineEffect, effect.failed = false ∧ ∀ e : Evaluator,
      evaluateStatement target e location parts = effect.apply location e := by
  unfold evaluateStatement
  by_cases htest : parts.headD [] = "accu_test".toList
  · exact ⟨.test, rfl, fun e => if_pos htest⟩
  by_cases hwarn : parts.headD [] = "accu_test_warn".toList
  · refine ⟨.report false .nonFrontend .unsupportedStatement
      "A non-frontend init-script statement was not interpreted." false, rfl, fun e => ?_⟩
    simp only [if_neg htest, if_pos hwarn]
    rfl
  by_cases hknown : isKnownNonFrontendCommand (parts.headD []) = true
  · -- the two write commands are not in the table of known commands
    have hnoWrite : ¬ (parts.headD [] = "write".toList ||
        parts.headD [] = "writeabs".toList) = true := by
      intro hwrite
      rw [Bool.or_eq_true, decide_eq_true_eq, decide_eq_true_eq] at hwrite
      rcases hwrite with hwrite | hwrite <;> rw [hwrite] at hknown <;> revert hknown <;> decide
    refine ⟨.report false .nonFrontend .unsupportedStatement
      "A non-frontend init-script statement was not interpreted." false, rfl, fun e => ?_⟩
    simp only [if_neg htest, if_neg hwarn, if_neg hnoWrite, if_pos hknown]
    rfl
  -- only the long and the short form of a write remain
  have hform := statement_of_validate h htest hwarn hset hknown
  simp only [if_neg htest, if_neg hwarn, if_neg hknown]
  by_cases hwrite : (parts.headD [] = "write".toList ||
      parts.headD [] = "writeabs".toList) = true
  · simp only [if_pos hwrite] at hform ⊢
    exact exists_effect_evaluateLongWrite hform _
  · simp only [if_neg hwrite] at hform ⊢
    exact exists_effect_evaluateShorthand hform

/-- After an `accu_test` the effects are fewer. -/
theorem exists_effect_evaluateConditionalLine {parts : List Text}
    (hset : ¬ parts.headD [] = "set".toList) (resolver : ValueResolver) :
    ∃ effect : LineEffect, effect.failed = false ∧ ∀ e : Evaluator,
      evaluateConditionalLine target e resolver location parts =
        (effect.apply location e, resolver) := by
  have hresolver : ¬ (parts.headD [] = "set".toList && parts.getD 1 [] ≠ []) = true := by
    simp only [Bool.and_eq_true, decide_eq_true_eq]
    exact fun h => hset h.1
  simp only [evaluateConditionalLine, if_neg hresolver]
  by_cases himpact : (conditionalEffect target parts).1 = .frontend
  · refine ⟨.taint (conditionalEffect target parts).2.1 (conditionalEffect target parts).2.2, rfl,
      fun e => ?_⟩
    simp only [himpact]
    rfl
  · refine ⟨.report false (conditionalEffect target parts).1 .conditionalAfterAccuTest
      ("A non-frontend statement is conditional after an "
        ++ "unprovable accu_test and was not interpreted.") false, rfl, fun e => ?_⟩
    simp only [if_neg himpact]
    rfl

/-- Every line has one effect. A line that is rejected makes the script fail, any other does not. -/
theorem exists_effect_evaluateLine (target : TargetModuleAddress) (resolver : ValueResolver)
    (location : MvmeInitScriptLocation) (line : Text) :
    ∃ (effect : Bool → LineEffect) (resolver' : ValueResolver),
      (∀ conditional, (effect conditional).failed = lineRejected target resolver line) ∧
      (lineRejected target resolver line = false → resolver' = resolverAfterLine resolver line) ∧
      ∀ e : Evaluator, evaluateLine target e resolver location line =
        ((effect e.statementsConditional).apply location e, resolver') := by
  simp only [evaluateLine, evaluatePreparedLine, lineRejected, resolverAfterLine]
  -- a line that cannot be prepared is reported
  by_cases hprepared : (!(prepareLine line resolver).success) = true
  · simp only [hprepared, Bool.true_or]
    exact ⟨fun _ => .report true _ _ _ _, _, fun _ => rfl, Bool.noConfusion, fun e => rfl⟩
  simp only [if_neg hprepared]
  have hprepared' : (!(prepareLine line resolver).success) = false := Bool.not_eq_true _ |>.mp hprepared
  rw [hprepared', Bool.false_or]
  generalize (prepareLine line resolver).parts = parts
  -- so is one of a wrong form
  by_cases hform : (!(validatePreparedLineSyntax target parts).success) = true
  · simp only [hform]
    exact ⟨fun _ => .report true _ _ _ _, _, fun _ => rfl, Bool.noConfusion, fun e => rfl⟩
  have hvalid : (validatePreparedLineSyntax target parts).success = true := by simpa using hform
  simp only [hvalid, Bool.not_true, Bool.false_eq_true, if_false]
  -- a variable is set, which is no effect on the evaluation
  by_cases hset : parts.headD [] = "set".toList
  · simp only [if_pos hset]
    have hform := set_of_validate hvalid hset
    have hno : ¬ (parts.length ≠ 3 || parts.getD 1 [] = []) = true := by
      rw [Bool.or_eq_true, decide_eq_true_eq, decide_eq_true_eq, not_or, not_not]
      exact hform
    exact ⟨fun _ => .none, _, fun _ => rfl, fun _ => rfl, fun e => if_neg hno⟩
  · simp only [if_neg hset]
    -- any other command has two effects, one of them behind a test
    obtain ⟨effect, hfailed, heffect⟩ :=
      @exists_effect_evaluateStatement target location parts hvalid hset
    obtain ⟨effect', hfailed', heffect'⟩ :=
      @exists_effect_evaluateConditionalLine target location parts hset resolver
    refine ⟨fun conditional => if conditional then effect' else effect, resolver, ?_, fun _ => rfl,
      fun e => ?_⟩
    · intro conditional
      cases conditional
      · exact hfailed
      · exact hfailed'
    · cases hconditional : e.statementsConditional with
      | true => exact heffect' e
      | false => exact Prod.ext (heffect e) rfl

end Effects

/-! ### Every entry has an effect

The same for entries: disabled, refused, or a script with the tables of its variables. -/

/-- An entry is disabled, refused, or a script with its variables. -/
inductive EntryEffect where
  | disabled
  /-- A text to go through, with the variables it may use. -/
  | script (text : Text) (resolver : ValueResolver)
  /-- An entry that cannot be gone through: issues, and an unknown selector. -/
  | unusable (count : Nat) (issues : List MvmeInitScriptUnresolvedStatement)

namespace EntryEffect

def apply (target : TargetModuleAddress) (scriptIndex : Nat) (e : Evaluator) :
    EntryEffect → Evaluator
  | disabled => e
  | script text resolver =>
    evaluateScript target
      { e with result := { e.result with enabledScriptCount := e.result.enabledScriptCount + 1 } }
      scriptIndex text resolver
  | unusable count issues =>
    resetSelector { e with result := { e.result with
      enabledScriptCount := e.result.enabledScriptCount + count
      unresolvedStatements := e.result.unresolvedStatements ++ issues } }

end EntryEffect

/-- The issues of the tables that are malformed. -/
def tableIssues (scriptIndex : Nat) (tables : List (Except String VariableTable)) :
    List MvmeInitScriptUnresolvedStatement :=
  tables.filterMap fun table =>
    match table with
    | .error message =>
      some { location := { scriptIndex }, impact := .frontend,
             reason := .malformedVariableTable, message }
    | .ok _ => none

/-- A refused entry is counted and reported. -/
def refusedEffect (scriptIndex count : Nat) (message : String) : EntryEffect :=
  .unusable count
    [{ location := { scriptIndex }, impact := .frontend, reason := .malformedScript, message }]

/-- The variables of an enabled script come from four tables. -/
def enabledEffect (context : ScriptContext) (script : Json) (scriptIndex : Nat) : EntryEffect :=
  match script.find? "vme_script" with
  | some (.string text) =>
    let tables := [script, context.module, context.event, context.daq].map
      (jsonVariableTable · "variable_table")
    match tables.mapM id with
    | .error _ => .unusable 1 (tableIssues scriptIndex tables)
    | .ok outer => .script text.toList { front := [], outer }
  | _ => refusedEffect scriptIndex 1 "An enabled init script has no text payload."

def entryEffect (context : ScriptContext) (script : Json) (scriptIndex : Nat) : EntryEffect :=
  if !script.isObject then refusedEffect scriptIndex 0 "An init script entry is not an object."
  else
    match script.find? "enabled" with
    | none => enabledEffect context script scriptIndex
    | some (.boolean true) => enabledEffect context script scriptIndex
    | some (.boolean false) => .disabled
    | some _ => refusedEffect scriptIndex 0 "An init script enabled field is not Boolean."

section Entries

variable (context : ScriptContext) (script : Json) (scriptIndex : Nat)

/-- Every malformed table is reported. -/
theorem addTableIssues_eq (e : Evaluator) (tables : List (Except String VariableTable)) :
    e.addTableIssues scriptIndex tables =
      { e with result := { e.result with
          unresolvedStatements :=
            e.result.unresolvedStatements ++ tableIssues scriptIndex tables } } := by
  unfold addTableIssues
  induction tables generalizing e with
  | nil =>
      rw [tableIssues, List.filterMap_nil, List.append_nil]
      rfl
  | cons table tables ih =>
      rw [List.foldl_cons]
      cases table with
      | ok table => exact ih e
      | error message =>
          rw [ih]
          simp only [addIssue, List.append_assoc, List.singleton_append]
          rfl

/-- An entry does what its effect says. -/
theorem evaluateEntry_eq (target : TargetModuleAddress) (e : Evaluator) :
    evaluateEntry target context e (script, scriptIndex) =
      (entryEffect context script scriptIndex).apply target scriptIndex e := by
  unfold evaluateEntry entryEffect
  simp only
  by_cases hobject : (!script.isObject) = true
  · rw [if_pos hobject, if_pos hobject]
    rfl
  rw [if_neg hobject, if_neg hobject]
  generalize script.find? "enabled" = enabled
  rcases enabled with _ | (_ | (_ | _) | _ | _ | _ | _ | _ | _)
  -- An entry without the field is enabled like one that says so.
  case none | some.boolean.true =>
    simp only [enabledEffect]
    generalize [script, context.module, context.event, context.daq].map
      (jsonVariableTable · "variable_table") = tables
    cases script.find? "vme_script" with
    | none => rfl
    | some found =>
        cases found with
        | string text =>
            cases tables.mapM id with
            | error message =>
                simp only [addTableIssues_eq]
                rfl
            | ok outer => rfl
        | _ => rfl
  all_goals rfl

/-- A malformed table may concern the frontend. -/
theorem tableIssues_frontend {tables : List (Except String VariableTable)} :
    ∀ issue ∈ tableIssues scriptIndex tables,
      issue.impact = .frontend ∧ issue.reason ≠ .conditionalAfterAccuTest := by
  intro issue hissue
  obtain ⟨table, -, htable⟩ := List.mem_filterMap.mp hissue
  split at htable
  · cases htable
    exact ⟨rfl, MvmeInitScriptUnresolvedReason.noConfusion⟩
  · cases htable

/-- If one of the tables is malformed, something is reported. -/
theorem tableIssues_ne_nil {tables : List (Except String VariableTable)} {message : String}
    (h : tables.mapM id = .error message) : tableIssues scriptIndex tables ≠ [] := by
  induction tables generalizing message with
  | nil => cases h
  | cons table tables ih =>
      rw [List.mapM_cons] at h
      cases table with
      | error message => exact List.cons_ne_nil _ _
      | ok table =>
          cases hrest : tables.mapM id with
          | error message => exact ih hrest
          | ok outer => rw [hrest] at h; cases h

/-- An entry that cannot be gone through says so, and may affect the frontend. -/
theorem issues_of_unusable {count : Nat} {issues : List MvmeInitScriptUnresolvedStatement}
    (h : entryEffect context script scriptIndex = .unusable count issues) :
    issues ≠ [] ∧ ∀ issue ∈ issues,
      issue.impact = .frontend ∧ issue.reason ≠ .conditionalAfterAccuTest := by
  -- an entry refused as a whole has one issue, a front-end one
  have hrefused {n : Nat} {message : String}
      (heffect : refusedEffect scriptIndex n message = .unusable count issues) :
      issues ≠ [] ∧ ∀ issue ∈ issues,
        issue.impact = .frontend ∧ issue.reason ≠ .conditionalAfterAccuTest := by
    cases heffect
    refine ⟨List.cons_ne_nil _ _, fun issue hissue => ?_⟩
    rw [List.mem_singleton.mp hissue]
    exact ⟨rfl, MvmeInitScriptUnresolvedReason.noConfusion⟩
  -- an enabled entry is unusable for its tables or for its shape
  have henabled (heffect : enabledEffect context script scriptIndex = .unusable count issues) :
      issues ≠ [] ∧ ∀ issue ∈ issues,
        issue.impact = .frontend ∧ issue.reason ≠ .conditionalAfterAccuTest := by
    unfold enabledEffect at heffect
    split at heffect
    · simp only at heffect
      split at heffect
      next hmapM =>
        cases heffect
        exact ⟨tableIssues_ne_nil scriptIndex hmapM, tableIssues_frontend scriptIndex⟩
      · cases heffect
    · exact hrefused heffect
  unfold entryEffect at h
  split at h
  · exact hrefused h
  split at h
  · exact henabled h
  · exact henabled h
  · cases h
  · exact hrefused h

end Entries

end Evaluator

end Fidget
