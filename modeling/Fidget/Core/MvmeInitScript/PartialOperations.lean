import Fidget.Core.MvmeInitScript.Effects
import Fidget.Lib.PartialOutcome

/-!
# Partial operations in the evaluation of init scripts

Two operations of the evaluator are not defined everywhere: the conversion of an expression's value
to a whole number of 64 bits (`toInt64?`), and reading the first character of a command (`front?`).
`evaluateScript?` is the evaluation with these two operations as partial as they are. It has no
outcome where one of them is applied outside its domain, and the outcome of the total evaluation
otherwise.

* `LimitReached` and `EmptyCommand` say of a line and its variables how this comes about.
* `evaluateLine?_definedUnless` is the step, from the expressions of a text up to a line.
* `evaluateScript_defined_iff` is about all lines that a script's evaluation comes to, each with the
  variables as they stand there.

Each function of the evaluation that applies one of the two operations has a counterpart of the same
name with a question mark. It is the function of the model with the operation replaced, so that a
lemma `f?_definedUnless` says of each: it has the outcome of `f` unless a condition on the text
holds, and none if it does.

## Main results

- `evaluateScript_defined_counterexample`: both happen, the one through a variable that expands to
  nothing and the other at two to the 63.
-/

namespace Fidget

open MvmeInitScript

namespace MvmeInitScript

/-! ### The conversion

The source compares with the limits of the type as floating-point numbers. The upper limit is
rounded up: 2 ^ 63 passes, and only that is wrong. -/

/-- `static_cast<std::int64_t>` of a whole number: defined only within the range of the type. -/
def toInt64? (n : ℤ) : Option ℤ := if -2 ^ 63 ≤ n ∧ n < 2 ^ 63 then some n else none

/-- `FormatExpressionNumber` with its conversion as partial as it is. -/
def formatExpressionNumber? (value : Float) : Option (Option Text) :=
  match FloatText.floatValue value with
  | none => some none
  | some q =>
    if q = ⌊q⌋ then
      if q < -2 ^ 63 ∨ q > 2 ^ 63 then some none
      else (toInt64? ⌊q⌋).map fun n => some (integerText n)
    else some (some (FloatText.formatGeneral 6 q))

/-- The test compares with the greatest number rounded up: 2 ^ 63 passes, and only that is wrong. -/
theorem formatExpressionNumber?_definedUnless (value : Float) :
    DefinedUnless (FloatText.floatValue value = some (2 ^ 63)) (formatExpressionNumber? value)
      (formatExpressionNumber value) := by
  unfold formatExpressionNumber? formatExpressionNumber
  cases FloatText.floatValue value with
  | none => exact (DefinedUnless.pure none).congr (iff_of_false id nofun)
  | some q =>
      dsimp only
      by_cases hwhole : q = ⌊q⌋
      · rw [if_pos hwhole, if_pos hwhole]
        -- the cast is made only of whole numbers between the two limits, both included
        by_cases hrange : q < -2 ^ 63 ∨ q > 2 ^ 63
        · rw [if_pos hrange, if_pos hrange]
          refine (DefinedUnless.pure none).congr (iff_of_false id fun heq => ?_)
          rw [Option.some.inj heq] at hrange
          revert hrange
          norm_num
        · rw [if_neg hrange, if_neg hrange]
          obtain ⟨hlow, hhigh⟩ := not_or.mp hrange
          generalize hn : ⌊q⌋ = n at hwhole
          subst hwhole
          have hlow' : -2 ^ 63 ≤ n := by exact_mod_cast not_lt.mp hlow
          have hhigh' : n ≤ 2 ^ 63 := by exact_mod_cast not_lt.mp hhigh
          have hlimit : (n : ℚ) = 2 ^ 63 ↔ n = 2 ^ 63 := by exact_mod_cast Iff.rfl
          -- the upper limit itself is the one value the cast has no result for
          constructor
          · intro heq
            obtain rfl := hlimit.mp (Option.some.inj heq)
            rfl
          · intro hne
            have hnot : (n : ℚ) ≠ 2 ^ 63 := fun heq => hne (congrArg some heq)
            have hlt : n < 2 ^ 63 := lt_of_le_of_ne hhigh' (mt hlimit.mpr hnot)
            rw [toInt64?, if_pos ⟨hlow', hlt⟩, if_neg hnot]
            rfl
      · rw [if_neg hwhole, if_neg hwhole]
        refine (DefinedUnless.pure _).congr (iff_of_false id fun heq => hwhole ?_)
        rw [Option.some.inj heq]
        norm_num

/-! ### Expressions at the limit

The expressions of a text are evaluated from left to right, and the first one that is refused ends
the text. So the question is whether one at the limit is come to. -/

/-- The value of the expression is 2 ^ 63, the least number above the range. -/
def AtLimit (expression : Text) : Prop :=
  (ArithmeticParser.parse expression).bind FloatText.floatValue = some (2 ^ 63)

/-- The text comes to an expression at the limit: the first of its expressions is at the limit, or
it has a number as its text and the rest comes to one. -/
inductive LimitInText : Text → Prop
  | first {rest expression after} :
    ValueResolver.splitAtClosingParenthesis 1 rest = some (expression, after) →
    AtLimit expression → LimitInText ('$' :: '(' :: rest)
  | behind {rest expression after formatted} :
    ValueResolver.splitAtClosingParenthesis 1 rest = some (expression, after) →
    (ArithmeticParser.parse expression).bind formatExpressionNumber = some formatted →
    LimitInText after → LimitInText ('$' :: '(' :: rest)
  | character {c rest} : (∀ after, c = '$' → rest = '(' :: after → False) →
    LimitInText rest → LimitInText (c :: rest)

namespace ValueResolver

/-- `EvaluateExpressionsOnce` with the conversion as partial as it is. -/
def evaluateExpressionsOnce? (result : Text) : Text → Option TextResult
  | [] => some { success := true, text := result }
  | '$' :: '(' :: rest =>
    match _h : splitAtClosingParenthesis 1 rest with
    | none => some { text := result, reason := .unsupportedExpression }
    | some (expression, after) =>
      match ArithmeticParser.parse expression with
      | none => some { text := result, reason := .unsupportedExpression }
      | some value =>
        (formatExpressionNumber? value).bind fun formatted =>
          match formatted with
          | none => some { text := result, reason := .unsupportedExpression }
          | some formatted => evaluateExpressionsOnce? (result ++ formatted) after
  | c :: rest => evaluateExpressionsOnce? (result ++ [c]) rest
termination_by text => text.length
decreasing_by
  · have hlength := length_of_splitAtClosingParenthesis _h
    simp only [List.length_cons]
    omega
  · simp

section Expressions

variable {result rest expression after : Text}

/-- A text that begins with an expression. -/
theorem evaluateExpressionsOnce_of_split
    (hsplit : splitAtClosingParenthesis 1 rest = some (expression, after)) :
    evaluateExpressionsOnce result ('$' :: '(' :: rest) =
      match (ArithmeticParser.parse expression).bind formatExpressionNumber with
      | none => { text := result, reason := .unsupportedExpression }
      | some formatted => evaluateExpressionsOnce (result ++ formatted) after := by
  rw [evaluateExpressionsOnce]
  split
  next hnone => cases hsplit.symm.trans hnone
  next hsome =>
    cases hsplit.symm.trans hsome
    rfl

/-- The same for the partial evaluation. -/
theorem evaluateExpressionsOnce?_of_split
    (hsplit : splitAtClosingParenthesis 1 rest = some (expression, after)) :
    evaluateExpressionsOnce? result ('$' :: '(' :: rest) =
      match ArithmeticParser.parse expression with
      | none => some { text := result, reason := .unsupportedExpression }
      | some value =>
        (formatExpressionNumber? value).bind fun formatted =>
          match formatted with
          | none => some { text := result, reason := .unsupportedExpression }
          | some formatted => evaluateExpressionsOnce? (result ++ formatted) after := by
  rw [evaluateExpressionsOnce?]
  split
  next hnone => cases hsplit.symm.trans hnone
  next hsome =>
    cases hsplit.symm.trans hsome
    rfl

/-- At an expression: it is at the limit, or the rest comes to one that is. -/
theorem limitInText_expression_iff
    (hsplit : splitAtClosingParenthesis 1 rest = some (expression, after)) :
    LimitInText ('$' :: '(' :: rest) ↔ AtLimit expression ∨
      ((ArithmeticParser.parse expression).bind formatExpressionNumber).isSome = true ∧
        LimitInText after := by
  constructor
  · intro hlimit
    cases hlimit with
    | first hsome hvalue =>
        cases hsplit.symm.trans hsome
        exact .inl hvalue
    | behind hsome hformatted hafter =>
        cases hsplit.symm.trans hsome
        exact .inr ⟨by rw [hformatted]; rfl, hafter⟩
    | character hother => exact (hother _ rfl rfl).elim
  · rintro (hvalue | ⟨hformatted, hafter⟩)
    · exact .first hsplit hvalue
    · obtain ⟨formatted, hformatted⟩ := Option.isSome_iff_exists.mp hformatted
      exact .behind hsplit hformatted hafter

/-- By recursion over the text, expression by expression. -/
theorem evaluateExpressionsOnce?_definedUnless (result text : Text) :
    DefinedUnless (LimitInText text) (evaluateExpressionsOnce? result text)
      (evaluateExpressionsOnce result text) := by
  induction result, text using evaluateExpressionsOnce.induct with
  -- the end of the text
  | case1 result =>
      rw [evaluateExpressionsOnce, evaluateExpressionsOnce?]
      exact (DefinedUnless.pure _).congr (iff_of_false id nofun)
  -- an expression that is not closed
  | case2 result rest hsplit =>
      have hno : ¬LimitInText ('$' :: '(' :: rest) := by
        intro hlimit
        cases hlimit with
        | first hsome => cases hsplit.symm.trans hsome
        | behind hsome => cases hsplit.symm.trans hsome
        | character hother => exact hother _ rfl rfl
      have hvalue : evaluateExpressionsOnce result ('$' :: '(' :: rest) =
          { text := result, reason := .unsupportedExpression } := by
        rw [evaluateExpressionsOnce]
        split
        · rfl
        next hsome => cases hsplit.symm.trans hsome
      have hchecked : evaluateExpressionsOnce? result ('$' :: '(' :: rest) =
          some { text := result, reason := .unsupportedExpression } := by
        rw [evaluateExpressionsOnce?]
        split
        · rfl
        next hsome => cases hsplit.symm.trans hsome
      rw [hvalue, hchecked]
      exact (DefinedUnless.pure _).congr (iff_of_false id hno)
  -- an expression whose value is not printed, which ends the text
  | case3 result rest expression after hsplit hvalue =>
      rw [evaluateExpressionsOnce_of_split hsplit, evaluateExpressionsOnce?_of_split hsplit, hvalue]
      cases hparsed : ArithmeticParser.parse expression with
      | none =>
          refine (DefinedUnless.pure _).congr (iff_of_false id fun hlimit => ?_)
          rw [limitInText_expression_iff hsplit, AtLimit, hparsed] at hlimit
          rcases hlimit with hlimit | ⟨hsome, -⟩
          · cases hlimit
          · cases hsome
      | some value =>
          have hnone : formatExpressionNumber value = none := by
            rw [hparsed] at hvalue
            exact hvalue
          have hchecked := formatExpressionNumber?_definedUnless value
          rw [hnone] at hchecked
          dsimp only
          refine DefinedUnless.congr (DefinedUnless.bind hchecked (DefinedUnless.pure _)) ?_
          rw [limitInText_expression_iff hsplit, AtLimit, hparsed, Option.bind_some,
            Option.bind_some, hnone]
          simp
  -- an expression that is replaced by its value
  | case4 result rest expression after hsplit formatted hvalue ih =>
      rw [evaluateExpressionsOnce_of_split hsplit, evaluateExpressionsOnce?_of_split hsplit, hvalue]
      obtain ⟨value, hparsed, hformatted⟩ := Option.bind_eq_some_iff.mp hvalue
      have hchecked := formatExpressionNumber?_definedUnless value
      rw [hformatted] at hchecked
      rw [hparsed]
      refine (hchecked.bind ih).congr ?_
      rw [limitInText_expression_iff hsplit, AtLimit, hparsed, Option.bind_some,
        Option.bind_some, hformatted]
      simp
  -- any other character stays
  | case5 result c rest hother ih =>
      rw [evaluateExpressionsOnce.eq_3 _ _ _ hother, evaluateExpressionsOnce?.eq_3 _ _ _ hother]
      refine ih.congr ⟨fun hrest => .character (fun after hc hrest => hother after hc hrest) hrest,
        fun hlimit => ?_⟩
      cases hlimit with
      | first => exact (hother _ rfl rfl).elim
      | behind => exact (hother _ rfl rfl).elim
      | character _ hrest => exact hrest

end Expressions

/-- `ExpandAndEvaluateOnce` with the conversion as partial as it is. -/
def expandAndEvaluateOnce? (resolver : ValueResolver) (source : Text) : Option TextResult :=
  let expanded := resolver.expandVariablesOnce [] source
  if !expanded.success then some expanded else evaluateExpressionsOnce? [] expanded.text

/-- The part comes to an expression at the limit when its variables are expanded. -/
def LimitInPart (resolver : ValueResolver) (part : Text) : Prop :=
  (resolver.expandVariablesOnce [] part).success = true ∧
    LimitInText (resolver.expandVariablesOnce [] part).text

/-- Expanding the variables converts nothing. -/
theorem expandAndEvaluateOnce?_definedUnless (resolver : ValueResolver) (part : Text) :
    DefinedUnless (resolver.LimitInPart part) (resolver.expandAndEvaluateOnce? part)
      (resolver.expandAndEvaluateOnce part) := by
  unfold expandAndEvaluateOnce? expandAndEvaluateOnce LimitInPart
  dsimp only
  cases (resolver.expandVariablesOnce [] part).success with
  | false => exact (DefinedUnless.pure _).congr (iff_of_false id (by simp))
  | true =>
      exact (evaluateExpressionsOnce?_definedUnless [] _).congr (and_iff_right rfl).symm

end ValueResolver

/-! ### The parts of a line

A line is split into parts, and every part is expanded. Unless the command is one of three, the
parts are then split and expanded once more, and both rounds can come to the limit. -/

/-- Every part expanded once, with the conversion as partial as it is. -/
def expandParts? (resolver : ValueResolver) :
    List Text → Option (Except MvmeInitScriptUnresolvedReason (List Text))
  | [] => some (.ok [])
  | part :: parts =>
    (resolver.expandAndEvaluateOnce? part).bind fun expanded =>
      if expanded.success then
        (expandParts? resolver parts).map fun rest => rest.map (expanded.text :: ·)
      else some (.error expanded.reason)

/-- Going through the parts comes to an expression at the limit. It ends at the first part that
cannot be expanded. -/
def LimitInParts (resolver : ValueResolver) : List Text → Prop
  | [] => False
  | part :: parts => resolver.LimitInPart part ∨
    (resolver.expandAndEvaluateOnce part).success = true ∧ LimitInParts resolver parts

/-- The parts are expanded one by one, up to the first that fails. -/
theorem expandParts_cons (resolver : ValueResolver) (part : Text) (parts : List Text) :
    expandParts resolver (part :: parts) =
      if (resolver.expandAndEvaluateOnce part).success then
        (expandParts resolver parts).map ((resolver.expandAndEvaluateOnce part).text :: ·)
      else .error (resolver.expandAndEvaluateOnce part).reason := by
  have hcons : expandParts resolver (part :: parts) =
      ((if (resolver.expandAndEvaluateOnce part).success then
          Except.ok (resolver.expandAndEvaluateOnce part).text
        else .error (resolver.expandAndEvaluateOnce part).reason) >>= fun front =>
          expandParts resolver parts >>= fun rest => pure (front :: rest)) := List.mapM_cons
  rw [hcons]
  split
  · cases expandParts resolver parts with
    | error reason => rfl
    | ok rest => rfl
  · rfl

/-- By induction over the parts. -/
theorem expandParts?_definedUnless (resolver : ValueResolver) (parts : List Text) :
    DefinedUnless (LimitInParts resolver parts) (expandParts? resolver parts)
      (expandParts resolver parts) := by
  induction parts with
  | nil => exact .pure _
  | cons part parts ih =>
      rw [expandParts_cons, expandParts?]
      refine DefinedUnless.bind (resolver.expandAndEvaluateOnce?_definedUnless part) ?_
      cases (resolver.expandAndEvaluateOnce part).success with
      | false => exact (DefinedUnless.pure _).congr (iff_of_false id (by simp))
      | true => exact (ih.map _).congr (and_iff_right rfl).symm

/-- The parts that are expanded a second time, if it comes to that. -/
def reparsedParts (line : Text) (resolver : ValueResolver) : Option (List Text) :=
  let initial := splitAtomicParts line
  if !initial.success || initial.parts = [] then none
  else
    match expandParts resolver initial.parts with
    | .error _ => none
    | .ok expanded =>
      let parts := lowerFront expanded
      let command := parts.headD []
      if command = "set".toList || command = "accu_test".toList
          || command = "accu_test_warn".toList then
        none
      else
        match resplitParts parts with
        | .error _ => none
        | .ok reparsed => if reparsed = [] then none else some reparsed

/-- The end of `PrepareLine`, behind the last expansion. -/
def finishedParts (expanded : List Text) : Except MvmeInitScriptUnresolvedReason (List Text) :=
  if (lowerFront expanded).any expansionStart then .error .expansionLimitReached
  else .ok (lowerFront expanded)

/-- `PrepareLine` up to its parts, with the conversion as partial as it is. -/
def preparedParts? (line : Text) (resolver : ValueResolver) :
    Option (Except MvmeInitScriptUnresolvedReason (List Text)) :=
  let initial := splitAtomicParts line
  if !initial.success || initial.parts = [] then some (.error initial.reason)
  else
    (expandParts? resolver initial.parts).bind fun expanded =>
      match expanded with
      | .error reason => some (.error reason)
      | .ok expanded =>
        let command := (lowerFront expanded).headD []
        if command = "set".toList || command = "accu_test".toList
            || command = "accu_test_warn".toList then
          some (finishedParts expanded)
        else
          match resplitParts (lowerFront expanded) with
          | .error reason => some (.error reason)
          | .ok reparsed =>
            if reparsed = [] then some (.error .malformedScript)
            else (expandParts? resolver reparsed).map fun expanded => expanded.bind finishedParts

/-- Preparing the line comes to an expression at the limit, in its own parts or in those that it is
split into again. -/
def LimitReached (line : Text) (resolver : ValueResolver) : Prop :=
  ((splitAtomicParts line).success = true ∧ LimitInParts resolver (splitAtomicParts line).parts) ∨
    ∃ reparsed, reparsedParts line resolver = some reparsed ∧ LimitInParts resolver reparsed

/-- A line is expanded twice, and split again in between. -/
theorem preparedParts?_definedUnless (line : Text) (resolver : ValueResolver) :
    DefinedUnless (LimitReached line resolver) (preparedParts? line resolver)
      (preparedParts line resolver) := by
  unfold preparedParts? preparedParts
  dsimp only
  by_cases hinitial : (!(splitAtomicParts line).success || (splitAtomicParts line).parts = []) = true
  · -- the line does not come apart, and no expression is evaluated
    rw [if_pos hinitial, if_pos hinitial]
    refine (DefinedUnless.pure _).congr (iff_of_false id ?_)
    rintro (⟨hsuccess, hlimit⟩ | ⟨reparsed, hreparsed, -⟩)
    · rw [hsuccess, Bool.not_true, Bool.false_or, decide_eq_true_eq] at hinitial
      rw [hinitial] at hlimit
      exact hlimit
    · rw [reparsedParts] at hreparsed
      dsimp only at hreparsed
      rw [if_pos hinitial] at hreparsed
      cases hreparsed
  · -- the parts are expanded once, and unless the command is one of three, split and expanded again
    rw [if_neg hinitial, if_neg hinitial]
    have hsuccess : (splitAtomicParts line).success = true := by
      simp only [Bool.or_eq_true, Bool.not_eq_true', not_or] at hinitial
      exact Bool.not_eq_false _ |>.mp hinitial.1
    have hreparsed : reparsedParts line resolver =
        match expandParts resolver (splitAtomicParts line).parts with
        | .error _ => none
        | .ok expanded =>
          let parts := lowerFront expanded
          let command := parts.headD []
          if command = "set".toList || command = "accu_test".toList
              || command = "accu_test_warn".toList then
            none
          else
            match resplitParts parts with
            | .error _ => none
            | .ok reparsed => if reparsed = [] then none else some reparsed :=
      if_neg hinitial
    refine DefinedUnless.congr (@DefinedUnless.bind _ _ _
      (∃ reparsed, reparsedParts line resolver = some reparsed ∧ LimitInParts resolver reparsed)
      _ _ _ _ (expandParts?_definedUnless resolver _) ?_)
      (or_congr_left (and_iff_right hsuccess).symm)
    cases hexpanded : expandParts resolver (splitAtomicParts line).parts with
    | error reason =>
        rw [hexpanded] at hreparsed
        refine (DefinedUnless.pure _).congr (iff_of_false id ?_)
        rintro ⟨reparsed, hsome, -⟩
        cases hreparsed.symm.trans hsome
    | ok expanded =>
        rw [hexpanded] at hreparsed
        dsimp only at hreparsed ⊢
        show DefinedUnless _ _ (Except.bind _ _)
        simp only [Except.bind]
        by_cases hcommand : ((lowerFront expanded).headD [] = "set".toList
            || (lowerFront expanded).headD [] = "accu_test".toList
            || (lowerFront expanded).headD [] = "accu_test_warn".toList) = true
        · rw [if_pos hcommand] at hreparsed
          rw [if_pos hcommand, if_pos hcommand]
          refine (DefinedUnless.pure _).congr (iff_of_false id ?_)
          rintro ⟨reparsed, hsome, -⟩
          cases hreparsed.symm.trans hsome
        · rw [if_neg hcommand] at hreparsed
          rw [if_neg hcommand, if_neg hcommand]
          cases hsplit : resplitParts (lowerFront expanded) with
          | error reason =>
              rw [hsplit] at hreparsed
              refine (DefinedUnless.pure _).congr (iff_of_false id ?_)
              rintro ⟨reparsed, hsome, -⟩
              cases hreparsed.symm.trans hsome
          | ok reparsed =>
              rw [hsplit] at hreparsed
              dsimp only at hreparsed ⊢
              by_cases hnone : reparsed = []
              · rw [if_pos hnone] at hreparsed
                rw [if_pos hnone]
                show DefinedUnless _ _
                  (if reparsed = [] then
                      Except.error MvmeInitScriptUnresolvedReason.malformedScript
                    else _)
                rw [if_pos hnone]
                refine (DefinedUnless.pure _).congr (iff_of_false id ?_)
                rintro ⟨reparsed, hsome, -⟩
                cases hreparsed.symm.trans hsome
              · rw [if_neg hnone] at hreparsed
                rw [if_neg hnone]
                show DefinedUnless _ _
                  (if reparsed = [] then _ else (expandParts resolver reparsed).bind finishedParts)
                rw [if_neg hnone]
                refine ((expandParts?_definedUnless resolver reparsed).map _).congr ⟨fun hlimit =>
                  ⟨reparsed, hreparsed, hlimit⟩, ?_⟩
                rintro ⟨reparsed', hsome, hlimit⟩
                cases hreparsed.symm.trans hsome
                exact hlimit

/-! ### Words that expand to nothing

An expansion replaces references and expressions. A number is never printed as nothing, so a text
that is replaced by nothing consists of references. -/

/-- The text consists of references to variables whose value is empty. -/
inductive EmptyReferences (resolver : ValueResolver) : Text → Prop
  | nil : EmptyReferences resolver []
  | reference {rest name after binding} :
    ValueResolver.splitAtClosingBrace rest = some (name, after) → name ≠ [] →
    resolver.lookup name = some binding → binding.resolved = true → binding.value = [] →
    EmptyReferences resolver after → EmptyReferences resolver ('$' :: '{' :: rest)

/-- A reference without a value does not expand to nothing. -/
theorem not_emptyReferences_reference {resolver : ValueResolver} {rest : Text}
    (h : ∀ name after binding, ValueResolver.splitAtClosingBrace rest = some (name, after) →
      resolver.lookup name = some binding →
        (decide (name = []) || !binding.resolved) = true) :
    ¬EmptyReferences resolver ('$' :: '{' :: rest) := by
  intro hempty
  cases hempty with
  | reference hsplit hname hlookup hresolved _ _ =>
      have hbad := h _ _ _ hsplit hlookup
      simp [hname, hresolved] at hbad

/-- A text is expanded to nothing if it consists of references to empty variables. -/
theorem expandVariablesOnce_eq_nil_iff (resolver : ValueResolver) (expanded text : Text) :
    (resolver.expandVariablesOnce expanded text).success = true ∧
        (resolver.expandVariablesOnce expanded text).text = [] ↔
      expanded = [] ∧ EmptyReferences resolver text := by
  induction expanded, text using ValueResolver.expandVariablesOnce.induct resolver with
  -- the end of the text
  | case1 expanded =>
      rw [ValueResolver.expandVariablesOnce]
      exact ⟨fun h => ⟨h.2, .nil⟩, fun h => ⟨rfl, h.1⟩⟩
  -- a reference that is not closed
  | case2 expanded rest hsplit =>
      have hno := @not_emptyReferences_reference resolver rest fun name after binding h _ => by
        rw [hsplit] at h
        cases h
      rw [ValueResolver.expandVariablesOnce]
      split
      · simp [hno]
      next hsome => rw [hsplit] at hsome; cases hsome
  -- a variable that nobody defines
  | case3 expanded rest name after hsplit hlookup =>
      have hno := @not_emptyReferences_reference resolver rest fun name' after' binding h h' => by
        cases hsplit.symm.trans h
        cases hlookup.symm.trans h'
      rw [ValueResolver.expandVariablesOnce]
      split
      · simp [hno]
      next hsome =>
        cases hsplit.symm.trans hsome
        simp [hlookup, hno]
  -- a variable without a value, or without a name
  | case4 expanded rest name after hsplit binding hlookup hbad =>
      have hno := @not_emptyReferences_reference resolver rest fun name' after' binding' h h' => by
        cases hsplit.symm.trans h
        cases hlookup.symm.trans h'
        exact hbad
      rw [ValueResolver.expandVariablesOnce]
      split
      · simp [hno]
      next hsome =>
        cases hsplit.symm.trans hsome
        simp only [hlookup, if_pos hbad]
        simp [hno]
  -- a variable that is replaced by its value
  | case5 expanded rest name after hsplit binding hlookup hgood ih =>
      have hexpand : resolver.expandVariablesOnce expanded ('$' :: '{' :: rest) =
          resolver.expandVariablesOnce (expanded ++ binding.value) after := by
        rw [ValueResolver.expandVariablesOnce]
        split
        next hnone => cases hsplit.symm.trans hnone
        next hsome =>
          cases hsplit.symm.trans hsome
          simp only [hlookup, if_neg hgood]
      rw [hexpand, ih, List.append_eq_nil_iff, and_assoc]
      rw [Bool.or_eq_true, decide_eq_true_eq, Bool.not_eq_true', not_or] at hgood
      constructor
      · rintro ⟨hexpanded, hvalue, hafter⟩
        exact ⟨hexpanded, .reference hsplit hgood.1 hlookup (by simpa using hgood.2) hvalue hafter⟩
      · rintro ⟨hexpanded, hempty⟩
        cases hempty with
        | reference hsplit' _ hlookup' _ hvalue hafter =>
            cases hsplit.symm.trans hsplit'
            cases hlookup.symm.trans hlookup'
            exact ⟨hexpanded, hvalue, hafter⟩
  -- any other character stays
  | case6 expanded c rest hother ih =>
      rw [ValueResolver.expandVariablesOnce.eq_3 _ _ _ _ hother, ih]
      constructor
      · rintro ⟨hexpanded, -⟩
        simp at hexpanded
      · rintro ⟨-, hempty⟩
        cases hempty with
        | reference => exact (hother _ rfl rfl).elim

/-- A number is written with at least one digit. -/
theorem integerText_ne_nil (n : ℤ) : integerText n ≠ [] := by
  unfold integerText
  split
  · exact List.cons_ne_nil _ _
  · exact Nat.toDigits_ne_nil

/-- A number is never printed as nothing. -/
theorem formatGeneralPositive_ne_nil (precision : ℕ) (q : ℚ) :
    FloatText.formatGeneralPositive (precision + 1) q ≠ [] := by
  have hdigits : (FloatText.significantDigits (precision + 1) q).1 ≠ [] := by
    unfold FloatText.significantDigits
    dsimp only
    split
    · exact Nat.toDigits_ne_nil
    · exact Nat.toDigits_ne_nil
  unfold FloatText.formatGeneralPositive
  dsimp only
  split
  · split
    · apply List.append_ne_nil_of_left_ne_nil
      rw [ne_eq, List.take_eq_nil_iff, not_or]
      exact ⟨Nat.succ_ne_zero _, hdigits⟩
    · exact List.cons_ne_nil _ _
  · simp

/-- So an expression is never expanded to nothing. -/
theorem formatExpressionNumber_ne_nil {value : Float} {text : Text}
    (h : formatExpressionNumber value = some text) : text ≠ [] := by
  unfold formatExpressionNumber at h
  split at h
  · cases h
  next q _ =>
    split at h
    · split at h
      · cases h
      split at h
      · rw [← Option.some.inj h]
        exact integerText_ne_nil _
      · rw [← Option.some.inj h]
        exact integerText_ne_nil _
    · rw [← Option.some.inj h]
      unfold FloatText.formatGeneral
      split
      · exact List.cons_ne_nil _ _
      · split
        · exact List.cons_ne_nil _ _
        · exact formatGeneralPositive_ne_nil 5 q

/-- What remains empty was empty before. -/
theorem evaluateExpressionsOnce_eq_nil_iff (result text : Text) :
    (ValueResolver.evaluateExpressionsOnce result text).success = true ∧
        (ValueResolver.evaluateExpressionsOnce result text).text = [] ↔
      result = [] ∧ text = [] := by
  induction result, text using ValueResolver.evaluateExpressionsOnce.induct with
  | case1 result =>
      rw [ValueResolver.evaluateExpressionsOnce]
      simp
  | case2 result rest hsplit =>
      rw [ValueResolver.evaluateExpressionsOnce]
      split
      · simp
      next hsome => cases hsplit.symm.trans hsome
  | case3 result rest expression after hsplit hvalue =>
      rw [ValueResolver.evaluateExpressionsOnce]
      split
      · simp
      next hsome =>
        cases hsplit.symm.trans hsome
        simp [hvalue]
  -- the number that is put in has a digit at least
  | case4 result rest expression after hsplit formatted hvalue ih =>
      obtain ⟨value, -, hformatted⟩ := Option.bind_eq_some_iff.mp hvalue
      have hexpand : ValueResolver.evaluateExpressionsOnce result ('$' :: '(' :: rest) =
          ValueResolver.evaluateExpressionsOnce (result ++ formatted) after := by
        rw [ValueResolver.evaluateExpressionsOnce]
        split
        next hnone => cases hsplit.symm.trans hnone
        next hsome =>
          cases hsplit.symm.trans hsome
          simp only [hvalue]
      rw [hexpand, ih, List.append_eq_nil_iff]
      simp [formatExpressionNumber_ne_nil hformatted]
  | case5 result c rest hother ih =>
      rw [ValueResolver.evaluateExpressionsOnce.eq_3 _ _ _ hother, ih]
      simp

/-- Expanding a part leaves nothing of it only if it refers to empty variables alone. -/
theorem expandAndEvaluateOnce_eq_nil_iff (resolver : ValueResolver) (part : Text) :
    (resolver.expandAndEvaluateOnce part).success = true ∧
        (resolver.expandAndEvaluateOnce part).text = [] ↔ EmptyReferences resolver part := by
  have hvariables := expandVariablesOnce_eq_nil_iff resolver [] part
  unfold ValueResolver.expandAndEvaluateOnce
  dsimp only
  split
  next hfailed =>
    rw [Bool.not_eq_true'] at hfailed
    rw [hfailed] at hvariables ⊢
    simpa using hvariables
  next hexpanded =>
    have hsuccess : (resolver.expandVariablesOnce [] part).success = true := by
      simpa using hexpanded
    rw [evaluateExpressionsOnce_eq_nil_iff]
    simpa [hsuccess] using hvariables

/-! ### Commands that are empty

What is split again has no empty parts. So an empty command needs a second round, in which its first
word is made up of references to empty variables. -/

/-- The first word of the line is expanded to nothing the second time, and everything else in the
line is expanded. -/
def EmptyCommand (line : Text) (resolver : ValueResolver) : Prop :=
  ∃ first rest expanded, reparsedParts line resolver = some (first :: rest) ∧
    EmptyReferences resolver first ∧ expandParts resolver rest = .ok expanded ∧
      ∀ part ∈ expanded, expansionStart part = false

/-- The parts of a line that is split and expanded again. -/
theorem preparedParts_of_reparsed {line : Text} {resolver : ValueResolver} {reparsed : List Text}
    (h : reparsedParts line resolver = some reparsed) :
    preparedParts line resolver = (expandParts resolver reparsed).bind finishedParts := by
  unfold reparsedParts at h
  unfold preparedParts
  dsimp only at h ⊢
  split at h
  · cases h
  -- the line comes apart, its parts are expanded, and the command is none of the three
  next hinitial =>
    rw [if_neg hinitial]
    cases hfirst : expandParts resolver (splitAtomicParts line).parts with
    | error reason => rw [hfirst] at h; cases h
    | ok expanded =>
        rw [hfirst] at h
        dsimp only at h
        split at h
        · cases h
        next hcommand =>
          show (Except.bind _ _ = _)
          simp only [Except.bind]
          rw [if_neg hcommand]
          cases hsplit : resplitParts (lowerFront expanded) with
          | error reason => rw [hsplit] at h; cases h
          | ok parts =>
              rw [hsplit] at h
              dsimp only at h
              split at h
              · cases h
              next hparts =>
                cases h
                show (if reparsed = [] then _ else _) = _
                rw [if_neg hparts]
                cases expandParts resolver reparsed with
                | error reason => rfl
                | ok expanded => rfl

/-- A line that is expanded once only is one of three commands. -/
theorem headD_ne_nil_of_reparsed_none {line : Text} {resolver : ValueResolver} {parts : List Text}
    (h : reparsedParts line resolver = none) (hparts : preparedParts line resolver = .ok parts) :
    parts.headD [] ≠ [] := by
  unfold reparsedParts at h
  unfold preparedParts at hparts
  dsimp only at h hparts
  split at hparts
  · cases hparts
  next hinitial =>
    rw [if_neg hinitial] at h
    cases hfirst : expandParts resolver (splitAtomicParts line).parts with
    | error reason => rw [hfirst] at hparts; cases hparts
    | ok expanded =>
        rw [hfirst] at h hparts
        change Except.bind _ _ = _ at hparts
        dsimp only [Except.bind] at h hparts
        split at h
        -- one of the three commands, which are not empty
        next hcommand =>
          rw [if_pos hcommand] at hparts
          change (if _ then _ else _) = _ at hparts
          split at hparts
          · cases hparts
          · cases hparts
            intro hempty
            rw [hempty] at hcommand
            revert hcommand
            decide
        next hcommand =>
          rw [if_neg hcommand] at hparts
          cases hsplit : resplitParts (lowerFront expanded) with
          | error reason => rw [hsplit] at hparts; cases hparts
          | ok reparsed =>
              rw [hsplit] at h hparts
              dsimp only at h
              change (if reparsed = [] then _ else _) = _ at hparts
              split at h
              next hnone =>
                rw [if_pos hnone] at hparts
                cases hparts
              · cases h

/-- Then there are some. -/
theorem reparsedParts_ne_nil (line : Text) (resolver : ValueResolver) :
    reparsedParts line resolver ≠ some [] := by
  unfold reparsedParts
  dsimp only
  intro h
  split at h
  · cases h
  split at h
  · cases h
  split at h
  · cases h
  split at h
  · cases h
  split at h
  · cases h
  next hne => exact hne (Option.some.inj h)

/-- The command of a prepared line is empty only in the way that `EmptyCommand` describes. -/
theorem preparedParts_eq_nil_cons_iff (line : Text) (resolver : ValueResolver) :
    (∃ others, preparedParts line resolver = .ok ([] :: others)) ↔ EmptyCommand line resolver := by
  cases hreparsed : reparsedParts line resolver with
  | none =>
      constructor
      · rintro ⟨others, hparts⟩
        exact absurd rfl (headD_ne_nil_of_reparsed_none hreparsed hparts)
      · rintro ⟨first, rest, expanded, hsome, -⟩
        cases hreparsed.symm.trans hsome
  | some reparsed =>
      rw [preparedParts_of_reparsed hreparsed]
      constructor
      · rintro ⟨others, hparts⟩
        cases reparsed with
        | nil => exact absurd hreparsed (reparsedParts_ne_nil line resolver)
        | cons first rest =>
            rw [expandParts_cons] at hparts
            split at hparts
            next hsuccess =>
              cases hrest : expandParts resolver rest with
              | error reason => rw [hrest] at hparts; cases hparts
              | ok expanded =>
                  rw [hrest] at hparts
                  change finishedParts (_ :: expanded) = _ at hparts
                  unfold finishedParts at hparts
                  split at hparts
                  · cases hparts
                  next hplain =>
                    rw [Bool.not_eq_true, List.any_eq_false] at hplain
                    have hempty : lower (resolver.expandAndEvaluateOnce first).text = [] :=
                      (List.cons.inj (Except.ok.inj hparts)).1
                    have htext : (resolver.expandAndEvaluateOnce first).text = [] :=
                      List.map_eq_nil_iff.mp hempty
                    refine ⟨first, rest, expanded, hreparsed, ?_, hrest, ?_⟩
                    · exact (expandAndEvaluateOnce_eq_nil_iff resolver first).mp ⟨hsuccess, htext⟩
                    · intro part hpart
                      exact Bool.eq_false_iff.mpr (hplain part (List.mem_cons_of_mem _ hpart))
            · cases hparts
      · -- the first word expands to nothing, and the others are plain
        rintro ⟨first, rest, expanded, hsome, hfirst, hrest, hplain⟩
        cases hreparsed.symm.trans hsome
        obtain ⟨hsuccess, htext⟩ := (expandAndEvaluateOnce_eq_nil_iff resolver first).mpr hfirst
        refine ⟨expanded, ?_⟩
        rw [expandParts_cons, if_pos hsuccess, hrest, htext]
        show finishedParts ([] :: expanded) = _
        apply if_neg
        rw [Bool.not_eq_true, List.any_eq_false]
        intro part hpart
        rcases List.mem_cons.mp hpart with hcommand | hpart
        · rw [hcommand]
          decide
        · rw [hplain part hpart]
          exact Bool.false_ne_true

/-! ### The first character

The syntax check tells some commands by their names and asks of all others whether they begin like a
number. -/

/-- `text.front()`. -/
def front? (text : Text) : Option Char := text.head?

/-- The commands that `ValidatePreparedLineSyntax` tells by their names. -/
def isNamedCommand (command : Text) : Bool :=
  command = "accu_test".toList || command = "accu_test_warn".toList || command = "set".toList
    || command = "write".toList || command = "writeabs".toList || isKnownNonFrontendCommand command

/-- `ValidatePreparedLineSyntax`. Of any command that it does not tell by its name, it reads the
first character. -/
def validatePreparedLineSyntax? (target : TargetModuleAddress) (parts : List Text) :
    Option LineSyntaxResult :=
  match parts with
  | [] => some (validatePreparedLineSyntax target [])
  | command :: others =>
    if isNamedCommand command then some (validatePreparedLineSyntax target (command :: others))
    else (front? command).map fun _ => validatePreparedLineSyntax target (command :: others)

/-- The first character is looked at in one place only. -/
theorem validatePreparedLineSyntax?_definedUnless (target : TargetModuleAddress)
    (parts : List Text) :
    DefinedUnless (∃ others, parts = [] :: others) (validatePreparedLineSyntax? target parts)
      (validatePreparedLineSyntax target parts) := by
  unfold validatePreparedLineSyntax?
  split
  · exact (DefinedUnless.pure _).congr (iff_of_false id (by simp))
  next command others =>
    by_cases hnamed : isNamedCommand command = true
    · rw [if_pos hnamed]
      refine (DefinedUnless.pure _).congr (iff_of_false id ?_)
      rintro ⟨rest, heq⟩
      rw [(List.cons.inj heq).1] at hnamed
      revert hnamed
      decide
    · rw [if_neg hnamed]
      cases command with
      | nil => exact ⟨fun _ => rfl, fun hno => absurd ⟨others, rfl⟩ hno⟩
      | cons c command =>
          refine ⟨fun ⟨rest, heq⟩ => ?_, fun _ => rfl⟩
          cases (List.cons.inj heq).1

/-- The line comes to an expression at the limit, or its command is empty when it is read. -/
def PartialLine (line : Text) (resolver : ValueResolver) : Prop :=
  LimitReached line resolver ∨ EmptyCommand line resolver

end MvmeInitScript

/-! ### The lines of a script

The variables change from line to line, so the lines are listed together with the variables before
them; the evaluation is defined as far as each of these lines is. -/

namespace Evaluator

/-- `EvaluateLine` with both operations as partial as they are. -/
def evaluateLine? (target : TargetModuleAddress) (e : Evaluator) (resolver : ValueResolver)
    (location : MvmeInitScriptLocation) (line : Text) : Option (Evaluator × ValueResolver) :=
  let rawParts := (splitAtomicParts line).parts
  (preparedParts? line resolver).bind fun prepared =>
    match prepared with
    | .error reason =>
      some (reportPreparationFailure target e resolver location { rawParts, reason })
    | .ok parts =>
      (validatePreparedLineSyntax? target parts).map fun syntaxResult =>
        evaluatePreparedLine target e resolver location parts syntaxResult

/-- The step. -/
theorem evaluateLine?_definedUnless (target : TargetModuleAddress) (e : Evaluator)
    (resolver : ValueResolver) (location : MvmeInitScriptLocation) (line : Text) :
    DefinedUnless (PartialLine line resolver) (evaluateLine? target e resolver location line)
      (evaluateLine target e resolver location line) := by
  unfold evaluateLine? evaluateLine prepareLine PartialLine
  rw [← preparedParts_eq_nil_cons_iff]
  refine DefinedUnless.bind (preparedParts?_definedUnless line resolver) ?_
  cases preparedParts line resolver with
  | error reason => exact (DefinedUnless.pure _).congr (iff_of_false id (by simp))
  | ok parts =>
      refine ((validatePreparedLineSyntax?_definedUnless target parts).map _).congr ?_
      simp only [Except.ok.injEq]

/-- The loop over the lines of a script. -/
def evaluateLines? (target : TargetModuleAddress) (scriptIndex : Nat) (e : Evaluator)
    (resolver : ValueResolver) (lineNumber : Nat) : List Text → Option Evaluator
  | [] => some e
  | line :: lines =>
    let trimmed := trim line
    if trimmed = [] then evaluateLines? target scriptIndex e resolver (lineNumber + 1) lines
    else
      (evaluateLine? target e resolver { scriptIndex, lineNumber } trimmed).bind fun (e, resolver) =>
        evaluateLines? target scriptIndex e resolver (lineNumber + 1) lines

/-- The variables behind a line. They do not depend on what was evaluated before. -/
def variablesAfterLine (target : TargetModuleAddress) (resolver : ValueResolver) (line : Text) :
    ValueResolver := (evaluateLine target {} resolver {} line).2

/-- The variables behind a line do not depend on the evaluation. -/
theorem snd_evaluateLine (target : TargetModuleAddress) (e : Evaluator) (resolver : ValueResolver)
    (location : MvmeInitScriptLocation) (line : Text) :
    (evaluateLine target e resolver location line).2 =
      variablesAfterLine target resolver line := by
  unfold variablesAfterLine evaluateLine
  dsimp only
  split
  · rfl
  unfold evaluatePreparedLine
  dsimp only
  split
  · rfl
  split
  · unfold evaluateSet
    dsimp only
    split <;> rfl
  next hset =>
    -- a conditional line that sets nothing leaves the variables alone
    have hconditional (e : Evaluator) : (evaluateConditionalLine target e resolver location
        (prepareLine line resolver).parts).2 = resolver :=
      if_neg fun h => hset (by simpa using (Bool.and_eq_true_iff.mp h).1)
    rw [if_neg Bool.false_ne_true]
    split
    · exact hconditional e
    · rfl

/-- The lines that are not blank, each with the variables as they stand before it. -/
def visitedLines (target : TargetModuleAddress) (resolver : ValueResolver) :
    List Text → List (Text × ValueResolver)
  | [] => []
  | line :: lines =>
    let trimmed := trim line
    if trimmed = [] then visitedLines target resolver lines
    else (trimmed, resolver) :: visitedLines target (variablesAfterLine target resolver trimmed) lines

/-- By induction over the lines. -/
theorem evaluateLines?_definedUnless (target : TargetModuleAddress) (scriptIndex : Nat)
    (e : Evaluator) (resolver : ValueResolver) (lineNumber : Nat) (lines : List Text) :
    DefinedUnless (∃ visited ∈ visitedLines target resolver lines, PartialLine visited.1 visited.2)
      (evaluateLines? target scriptIndex e resolver lineNumber lines)
      (evaluateLines target scriptIndex e resolver lineNumber lines) := by
  induction lines generalizing e resolver lineNumber with
  | nil => exact (DefinedUnless.pure e).congr (iff_of_false id (by simp [visitedLines]))
  | cons line lines ih =>
      unfold evaluateLines? evaluateLines visitedLines
      dsimp only
      by_cases hblank : trim line = []
      · rw [if_pos hblank, if_pos hblank, if_pos hblank]
        exact ih e resolver (lineNumber + 1)
      · rw [if_neg hblank, if_neg hblank, if_neg hblank]
        have hline := evaluateLine?_definedUnless target e resolver { scriptIndex, lineNumber }
          (trim line)
        refine (hline.bind (ih _ _ _)).congr ?_
        rw [snd_evaluateLine, List.exists_mem_cons_iff]

/-- The evaluation of a script with both operations as partial as they are. Behind the lines neither
is applied. -/
def evaluateScript? (target : TargetModuleAddress) (before : Evaluator) (scriptIndex : Nat)
    (source : Text) (resolver : ValueResolver) : Option Evaluator :=
  (evaluateLines? target scriptIndex { before with currentScriptParseFailed := false } resolver 1
    (splitLines (stripComments source).text)).map fun _ =>
      evaluateScript target before scriptIndex source resolver

/-- The lines of a script without its comments, each with the variables before it. -/
def scriptLines (target : TargetModuleAddress) (source : Text) (resolver : ValueResolver) :
    List (Text × ValueResolver) :=
  visitedLines target resolver (splitLines (stripComments source).text)

/-- The evaluation of a script is defined, and is the evaluation of the model, exactly when preparing
its lines comes to no expression with the value 2 ^ 63, and no line's command is made up of empty
variables. -/
theorem evaluateScript_defined_iff (target : TargetModuleAddress) (e : Evaluator)
    (scriptIndex : Nat) (source : Text) (resolver : ValueResolver) :
    evaluateScript? target e scriptIndex source resolver =
        some (evaluateScript target e scriptIndex source resolver) ↔
      ∀ visited ∈ scriptLines target source resolver,
        ¬LimitReached visited.1 visited.2 ∧ ¬EmptyCommand visited.1 visited.2 := by
  have hlines := evaluateLines?_definedUnless target scriptIndex
    { e with currentScriptParseFailed := false } resolver 1 (splitLines (stripComments source).text)
  refine ((hlines.map fun _ => evaluateScript target e scriptIndex source resolver).eq_some_iff).trans
    ?_
  simp only [PartialLine, scriptLines, not_exists, not_and, not_or]

/-- A command that is a variable with a reference to an empty one has no first character, and the
number 2 ^ 63 cannot be converted. -/
theorem evaluateScript_defined_counterexample :
    (evaluateScript? ⟨0, by decide⟩ {} 0 "$\x7ba\x7d".toList
        { front := [("a".toList, ⟨true, "$\x7bb\x7d".toList⟩), ("b".toList, ⟨true, []⟩)] }).isNone =
          true ∧
      (evaluateScript? ⟨0, by decide⟩ {} 0 "$(0x8000000000000000)".toList {}).isNone = true := by
  decide +kernel

end Evaluator

end Fidget
