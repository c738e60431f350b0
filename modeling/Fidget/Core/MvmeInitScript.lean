import Fidget.Core.MvmeInitScript.Lines
import Fidget.Core.MvmeWorkspace
import Fidget.Core.ScpRegistry
import Mathlib.Data.UInt

/-!
# Evaluating init scripts

The third part of `core/MvmeInitScript.cpp`: the enabled init scripts of a target are gone through
in order, statement by statement, and the writes that certainly reach a frontend register are
collected. Nothing is sent to hardware. What cannot be attributed or resolved becomes an issue, and
a script that MVME would refuse to parse leaves nothing but its issues behind.

MVME itself is not part of the source, so what a script does is known here only by what this
evaluation makes of it, which refuses where it cannot be certain. Commands that certainly do not
concern the frontend are passed over with an issue of their own kind; a command that is behind an
`accu_test` is never taken to have happened.

## Main results

- `Evaluator`: what is known at a point of the evaluation.
- `evaluateLine`, `evaluateScript`, `evaluateEntry`: one line, one script, one entry of the list.
- `evaluateMvmeTargetInitScripts`: the whole evaluation for a target in a workspace.
-/

namespace Fidget

open MvmeInitScript

def fw2051ScpBroadcastSelectorValue : UInt16 := 8

/-- How much the evaluation can be relied upon. -/
inductive MvmeInitScriptEvaluationState where
  | complete
  | completeWithUnresolvedNonFrontend
  | conditionalAfterAccuTest
  | failed
  deriving DecidableEq, Repr

/-- Whether an issue concerns the frontend. -/
inductive MvmeInitScriptUnresolvedImpact where
  | nonFrontend
  | frontend
  deriving DecidableEq, Repr

/-- What a value of the selector stands for: one quad, all of them or none. -/
inductive MvmeInitScriptSelectorScope where
  | quad
  | broadcast
  deriving DecidableEq, Repr

/-- The entry in the list of scripts, and the line in its text. -/
structure MvmeInitScriptLocation where
  scriptIndex : Nat := 0
  lineNumber : Nat := 0
  deriving DecidableEq, Repr

structure MvmeInitScriptSelectorAssignment where
  location : MvmeInitScriptLocation
  value : UInt16 := 0
  scope : MvmeInitScriptSelectorScope := .quad
  deriving DecidableEq, Repr

structure MvmeInitScriptFrontendWrite where
  location : MvmeInitScriptLocation
  registerOffset : UInt16 := 0
  value : UInt16 := 0
  selectorValue : UInt16 := 0
  selectorScope : MvmeInitScriptSelectorScope := .quad
  deriving DecidableEq, Repr

structure MvmeInitScriptFrontendValue where
  location : MvmeInitScriptLocation
  quad : UInt16 := 0
  registerOffset : UInt16 := 0
  value : UInt16 := 0
  deriving DecidableEq, Repr

/-- An issue: what was not resolved, and why. -/
structure MvmeInitScriptUnresolvedStatement where
  location : MvmeInitScriptLocation
  impact : MvmeInitScriptUnresolvedImpact := .nonFrontend
  reason : MvmeInitScriptUnresolvedReason := .unsupportedStatement
  message : String
  deriving DecidableEq, Repr

structure MvmeInitScriptEvaluation where
  state : MvmeInitScriptEvaluationState := .failed
  message : String := ""
  enabledScriptCount : Nat := 0
  selectorAssignments : List MvmeInitScriptSelectorAssignment := []
  frontendWrites : List MvmeInitScriptFrontendWrite := []
  finalFrontendValues : List MvmeInitScriptFrontendValue := []
  unresolvedStatements : List MvmeInitScriptUnresolvedStatement := []
  conditionalAccuTestLocation : Option MvmeInitScriptLocation := none
  deriving DecidableEq, Repr

/-! ### Variable tables

A workspace keeps variables with the event, the module and the script. A table is read if every
entry has the fields that MVME writes. -/

/-- A variable of a table, if it has the fields that MVME writes. -/
def jsonVariable (entry : String × Json) : Option (Text × VariableBinding) :=
  match entry.2.find? "value", entry.2.find? "definitionLocation", entry.2.find? "comment" with
  | some (.string value), some (.string _), some (.string _) =>
    some (entry.1.toList, { resolved := true, value := value.toList })
  | _, _, _ => none

/-- The variable table of a JSON object; an object without the field has an empty one. -/
def jsonVariableTable (owner : Json) (fieldName : String) : Except String VariableTable :=
  match owner.find? fieldName with
  | none => .ok []
  | some found =>
    if !found.isObject then .error "A variable_table field is not an object."
    else
      match found.find? "name", found.find? "variables" with
      | some (.string _), some (.object entries) =>
        entries.mapM fun entry =>
          if entry.1 = "" || !entry.2.isObject then
            .error "A variable_table entry is not a named variable object."
          else
            match jsonVariable entry with
            | none =>
              .error ("A variable_table entry does not contain MVME's string "
                ++ "value, definitionLocation, and comment fields.")
            | some binding => .ok binding
      | _, _ =>
        .error "A variable_table does not match MVME's name/variables object shape."

/-! ### Statements

Before a statement is carried out its form is checked, command by command. A line that MVME would
refuse makes it reject the whole script, so the checks follow those of MVME. -/

namespace MvmeInitScript

/-- The selector and the banked registers. -/
def isFrontendAddress (address : UInt32) : Bool :=
  if address > 0xFFFF then false
  else
    let offset := address.toUInt16
    offset = fw2051ScpSelectorRegister || (findFw2051ScpSetting offset).isSome

/-- An absolute address below the module has no offset. -/
def relativeAbsoluteAddress (target : TargetModuleAddress) (absoluteAddress : UInt32) :
    Option UInt32 :=
  let base := target.fullA32Value
  if absoluteAddress < base then none else some (absoluteAddress - base)

/-- The commands of MVME that are passed over. -/
def isKnownNonFrontendCommand (command : Text) : Bool :=
  command ∈ ["read".toList, "readabs".toList, "accu_mask_rotate".toList, "accu_test_warn".toList,
    "wait".toList, "print".toList]

/-- A long-form address, in the bases that a C literal can have. -/
def resolveMvmeLongAddress (source : Text) : ValueResult :=
  let resolved (base : Nat) (digits : Text) : ValueResult :=
    match fromChars base (2 ^ 32) digits with
    | none => {}
    | some value => { success := true, value := value.toUInt32 }
  match trim source with
  | [] => {}
  | '0' :: 'x' :: digit :: digits => resolved 16 (digit :: digits)
  | '0' :: 'X' :: digit :: digits => resolved 16 (digit :: digits)
  | '0' :: 'b' :: _ => {}
  | '0' :: 'B' :: _ => {}
  | '0' :: digit :: digits => resolved 8 (digit :: digits)
  | text => resolved 10 text

def addressModeFormValid (value : Text) : Bool :=
  let mode := lower value
  if mode ∈ ["a16".toList, "a24".toList, "a32".toList, "cr".toList] then true
  else
    let numeric := resolveMvmeLongAddress mode
    numeric.success && numeric.value < 0xFF

def dataWidthFormValid (value : Text) : Bool :=
  lower value ∈ ["d16".toList, "d32".toList]

/-- Digits, perhaps with a unit. -/
def waitFormValid : List Text → Bool
  | [_, delay] =>
    let digits := delay.takeWhile isDigit
    let unit := delay.dropWhile isDigit
    digits ≠ [] && unit ∈ ["".toList, "s".toList, "ms".toList, "ns".toList]
      && (fromChars 10 (2 ^ 32) digits).isSome
  | _ => false

def readFormValid (parts : List Text) : Bool :=
  match parts with
  | _ :: mode :: width :: address :: options =>
    options.length ≤ 2 && addressModeFormValid mode && dataWidthFormValid width
      && (resolveMvmeLongAddress address).success
      && options.all fun option =>
        lower option ∈ ["slow".toList, "late".toList, "fifo".toList, "mem".toList]
  | _ => false

/-- The comparisons that an `accu_test` can make. -/
def accuTestComparisons : List Text :=
  ["==".toList, "eq".toList, "=".toList, "!=".toList, "neq".toList, "<".toList, "lt".toList,
    "<=".toList, "lte".toList, ">".toList, "gt".toList, ">=".toList, "gte".toList]

def accuTestFormValid : List Text → Bool
  | [_, comparison, value, _] => lower comparison ∈ accuTestComparisons && (resolve value).success
  | _ => false

/-- Passed over are only statements that MVME would accept. -/
def knownNonFrontendFormValid (parts : List Text) : Bool :=
  let command := parts.headD []
  if parts = [] then false
  else if command = "wait".toList then waitFormValid parts
  else if command = "read".toList || command = "readabs".toList then readFormValid parts
  else if command = "accu_mask_rotate".toList then
    parts.length = 3 && (resolve (parts.getD 1 [])).success && (resolve (parts.getD 2 [])).success
  else if command = "accu_test_warn".toList then accuTestFormValid parts
  else command = "print".toList

/-- Whether MVME would accept a line, and what its refusal concerns. -/
structure LineSyntaxResult where
  success : Bool := false
  impact : MvmeInitScriptUnresolvedImpact := .frontend
  reason : MvmeInitScriptUnresolvedReason := .malformedScript
  message : String := ""
  deriving DecidableEq, Repr

def validLineSyntax : LineSyntaxResult := { success := true }

def invalidLineSyntax (impact : MvmeInitScriptUnresolvedImpact)
    (reason : MvmeInitScriptUnresolvedReason) (message : String) : LineSyntaxResult :=
  { impact, reason, message }

/-- The frontend address of a long write, as far as it is known. -/
def longWriteAddress (target : TargetModuleAddress) (absolute : Bool) (address : UInt32) :
    Option UInt32 :=
  if absolute then relativeAbsoluteAddress target address else some address

/-- An error in a write concerns the frontend if its address may. -/
def validateLongWriteSyntax (target : TargetModuleAddress) (parts : List Text) :
    LineSyntaxResult :=
  match parts with
  | [command, mode, width, addressText, valueText] =>
    if !addressModeFormValid mode || !dataWidthFormValid width then
      invalidLineSyntax .frontend .unsupportedStatement
        ("A long write does not match MVME's exact command, "
          ++ "address-mode, data-width, address, and value form.")
    else
      let address := resolveMvmeLongAddress addressText
      if !address.success then
        invalidLineSyntax .frontend .unsupportedExpression
          "A long-write address is not an MVME unsigned integer address."
      else
        let value := resolve valueText
        if !value.success then
          let impact :=
            match longWriteAddress target (command = "writeabs".toList) address.value with
            | some relative =>
              if isFrontendAddress relative then .frontend
              else MvmeInitScriptUnresolvedImpact.nonFrontend
            | none => .frontend
          invalidLineSyntax impact value.reason
            "A long-write value is not an MVME unsigned 32-bit value."
        else validLineSyntax
  | _ =>
    invalidLineSyntax .frontend .unsupportedStatement
      ("A long write does not match MVME's exact command, "
        ++ "address-mode, data-width, address, and value form.")

/-- A line of two numbers is a write to a register of the module. -/
def validateShorthandSyntax (parts : List Text) : LineSyntaxResult :=
  let address := resolve (parts.headD [])
  let impact :=
    if address.success && !isFrontendAddress address.value then
      MvmeInitScriptUnresolvedImpact.nonFrontend
    else .frontend
  if !address.success || parts.length ≠ 2 then
    invalidLineSyntax impact
      (if parts.length < 2 then .unsupportedExpression else .unsupportedStatement)
      "A shorthand write does not have a valid address and exactly one value."
  else
    let value := resolve (parts.getD 1 [])
    if !value.success then
      invalidLineSyntax impact value.reason
        "A shorthand-write value is not an MVME unsigned 32-bit value."
    else validLineSyntax

/-- The command decides which form a line must have. -/
def validatePreparedLineSyntax (target : TargetModuleAddress) (parts : List Text) :
    LineSyntaxResult :=
  let command := parts.headD []
  if parts = [] then
    invalidLineSyntax .frontend .malformedScript "An expanded init-script line is empty."
  else if command = "accu_test".toList || command = "accu_test_warn".toList then
    if accuTestFormValid parts then validLineSyntax
    else
      invalidLineSyntax .nonFrontend .malformedScript
        "An accumulator test does not match MVME's comparison, value, and message form."
  else if command = "set".toList then
    if parts.length = 3 && parts.getD 1 [] ≠ [] then validLineSyntax
    else
      invalidLineSyntax .nonFrontend .unsupportedStatement
        "A set statement does not match MVME's exact three-part form."
  else if isKnownNonFrontendCommand command then
    if knownNonFrontendFormValid parts then validLineSyntax
    else
      invalidLineSyntax .nonFrontend .malformedScript
        "A known non-frontend command does not match MVME's accepted grammar."
  else if command = "write".toList || command = "writeabs".toList then
    validateLongWriteSyntax target parts
  else if !isDigit (command.headD ' ') then
    invalidLineSyntax .frontend .unsupportedExpression
      "The line is neither a supported MVME command nor a digit-first shorthand write."
  else validateShorthandSyntax parts

end MvmeInitScript

/-! ### The evaluator

The state of an evaluation is its result so far and three things that later lines depend on: the
selector, whether a conditional statement was met, and whether the current script was rejected.
Whatever a line does, it does by one of the few functions at the beginning of this section. -/

/-- The order of the keys of `finalValues_`: by quad, then by register. -/
def compareFrontendKeys : UInt16 × UInt16 → UInt16 × UInt16 → Ordering :=
  compareLex (compareOn Prod.fst) (compareOn Prod.snd)

/-- The last value of every register, by quad and register. -/
abbrev FinalValues := Std.TreeMap (UInt16 × UInt16) MvmeInitScriptFrontendValue compareFrontendKeys

/-- The result so far, the selector as far as it is known, and what the current script has been
found to be. -/
structure Evaluator where
  result : MvmeInitScriptEvaluation := { state := .complete }
  selector : Option UInt16 := none
  conditionalSelector : Option UInt16 := none
  statementsConditional : Bool := false
  conditionalFrontendWrite : Bool := false
  currentScriptParseFailed : Bool := false
  parseFailureEncountered : Bool := false
  finalValues : FinalValues := ∅

namespace Evaluator

/-- Issues are only ever added. -/
def addIssue (e : Evaluator) (location : MvmeInitScriptLocation)
    (impact : MvmeInitScriptUnresolvedImpact) (reason : MvmeInitScriptUnresolvedReason)
    (message : String) : Evaluator :=
  { e with
    result := { e.result with
      unresolvedStatements :=
        e.result.unresolvedStatements ++ [{ location, impact, reason, message }] } }

def markCurrentScriptParseFailure (e : Evaluator) : Evaluator :=
  { e with currentScriptParseFailed := true }

/-- `selector_.reset()`. -/
def resetSelector (e : Evaluator) : Evaluator := { e with selector := none }

/-- What may have written to the selector makes it unknown. -/
def resetSelectorIf (condition : Bool) (e : Evaluator) : Evaluator :=
  if condition then e.resetSelector else e

/-- An assignment is noted, and whether a quad is selected by it. -/
def setSelector (e : Evaluator) (location : MvmeInitScriptLocation) (value : UInt16) : Evaluator :=
  if value > fw2051ScpBroadcastSelectorValue then
    (e.addIssue location .frontend .invalidSelector
      "The selector value is outside the FW2051 quad/broadcast model.").resetSelector
  else
    let scope :=
      if value = fw2051ScpBroadcastSelectorValue then MvmeInitScriptSelectorScope.broadcast
      else .quad
    { e with
      selector := some value
      result := { e.result with
        selectorAssignments := e.result.selectorAssignments ++ [{ location, value, scope }] } }

/-- The last write wins. -/
def setFinalValue (e : Evaluator) (location : MvmeInitScriptLocation)
    (quad registerOffset value : UInt16) : Evaluator :=
  { e with
    finalValues :=
      e.finalValues.insert (quad, registerOffset) { location, quad, registerOffset, value } }

/-- A write of a known value to a banked register: it goes where the selector points. -/
def evaluateBankedWrite (e : Evaluator) (location : MvmeInitScriptLocation)
    (registerOffset registerValue : UInt16) : Evaluator :=
  match e.selector with
  | none =>
    e.addIssue location .frontend .selectorUnresolved
      ("A banked frontend write cannot be attributed because the "
        ++ "selector state is unresolved.")
  | some selector =>
    let scope :=
      if selector = fw2051ScpBroadcastSelectorValue then MvmeInitScriptSelectorScope.broadcast
      else .quad
    let write : MvmeInitScriptFrontendWrite :=
      { location, registerOffset, value := registerValue, selectorValue := selector,
        selectorScope := scope }
    let e := { e with
      result := { e.result with frontendWrites := e.result.frontendWrites ++ [write] } }
    if scope = .broadcast then
      fw2051ScpQuads.foldl
        (fun e quad => e.setFinalValue location quad registerOffset registerValue) e
    else e.setFinalValue location selector registerOffset registerValue

/-- A write to the selector, to a banked register or past the frontend. -/
def evaluateRelativeWrite (e : Evaluator) (location : MvmeInitScriptLocation) (address : UInt32)
    (valueText : Text) : Evaluator :=
  if !isFrontendAddress address then
    e.addIssue location .nonFrontend .unsupportedStatement
      "A target-module write outside the frontend subset was not interpreted."
  else
    let value := resolve valueText
    let selectorWrite := address = fw2051ScpSelectorRegister.toUInt32
    if !value.success || value.value > 0xFFFF then
      let e := if !value.success then e.markCurrentScriptParseFailure else e
      let e := e.addIssue location .frontend (if value.success then .invalidValue else value.reason)
        (if selectorWrite then "The frontend selector value could not be resolved."
          else "A target frontend value could not be resolved.")
      e.resetSelectorIf selectorWrite
    else
      let registerOffset := address.toUInt16
      let registerValue := value.value.toUInt16
      if registerOffset = fw2051ScpSelectorRegister then e.setSelector location registerValue
      else e.evaluateBankedWrite location registerOffset registerValue

/-- A variable is set for the lines that follow. -/
def evaluateSet (e : Evaluator) (resolver : ValueResolver) (location : MvmeInitScriptLocation)
    (parts : List Text) : Evaluator × ValueResolver :=
  let name := parts.getD 1 []
  if parts.length ≠ 3 || name = [] then
    let resolver := if name ≠ [] then resolver.invalidate name else resolver
    (e.markCurrentScriptParseFailure.addIssue location .nonFrontend .unsupportedStatement
      "A set statement does not match MVME's exact three-part form.", resolver)
  else (e, resolver.setLiteral name (parts.getD 2 []))

/-- A relative or an absolute address. -/
def evaluateLongWrite (target : TargetModuleAddress) (e : Evaluator)
    (location : MvmeInitScriptLocation) (absolute : Bool) (parts : List Text) : Evaluator :=
  if parts.length < 4 then
    (e.markCurrentScriptParseFailure.addIssue location .frontend .unsupportedStatement
      "A write form has no provable target address.").resetSelector
  else
    let address := resolveMvmeLongAddress (parts.getD 3 [])
    if !address.success then
      (e.markCurrentScriptParseFailure.addIssue location .frontend address.reason
        ("A write address could not be resolved, so frontend impact "
          ++ "cannot be excluded.")).resetSelector
    else
      let relativeAddress := longWriteAddress target absolute address.value
      let e := if parts.length ≠ 5 then e.markCurrentScriptParseFailure else e
      let supportedForm := parts.length = 5 && lower (parts.getD 1 []) = "a32".toList
        && lower (parts.getD 2 []) = "d16".toList && !absolute
      if !supportedForm then
        let frontend := relativeAddress.any isFrontendAddress
        let e := e.addIssue location (if frontend then .frontend else .nonFrontend)
          .unsupportedStatement
          (if frontend then "An unsupported write form could affect a target frontend register."
            else "An unsupported write form was outside the target frontend subset.")
        e.resetSelectorIf
          (relativeAddress.isNone || relativeAddress = some fw2051ScpSelectorRegister.toUInt32)
      else e.evaluateRelativeWrite location (relativeAddress.getD 0) (parts.getD 4 [])

/-- A write that may or may not happen leaves no value certain. -/
def taintConditionalFrontendValue (e : Evaluator) (address : Option UInt32) (valueText : Text) :
    Evaluator :=
  match address with
  | none => { e with finalValues := ∅, conditionalSelector := none }
  | some address =>
    if address > 0xFFFF then { e with finalValues := ∅, conditionalSelector := none }
    else
      let registerOffset := address.toUInt16
      if registerOffset = fw2051ScpSelectorRegister then
        let value := resolve valueText
        if !value.success || value.value > fw2051ScpBroadcastSelectorValue.toUInt32 then
          { e with conditionalSelector := none }
        else { e with conditionalSelector := some value.value.toUInt16 }
      else if (findFw2051ScpSetting registerOffset).isNone then { e with finalValues := ∅ }
      else
        match e.conditionalSelector with
        | none =>
          { e with
            finalValues :=
              fw2051ScpQuads.foldl (fun values quad => values.erase (quad, registerOffset))
                e.finalValues }
        | some selector =>
          if selector = fw2051ScpBroadcastSelectorValue then
            { e with
              finalValues :=
                fw2051ScpQuads.foldl (fun values quad => values.erase (quad, registerOffset))
                  e.finalValues }
          else { e with finalValues := e.finalValues.erase (selector, registerOffset) }

/-- What a conditional statement may do: its impact and, of a possible frontend write, the address
and the text of the value. -/
def conditionalEffect (target : TargetModuleAddress) (parts : List Text) :
    MvmeInitScriptUnresolvedImpact × Option UInt32 × Text :=
  let command := parts.headD []
  if command = "set".toList then (.nonFrontend, none, [])
  else if isKnownNonFrontendCommand command || command = "accu_test".toList then
    (.nonFrontend, none, [])
  else if command = "write".toList || command = "writeabs".toList then
    if parts.length ≥ 4 then
      let address := resolveMvmeLongAddress (parts.getD 3 [])
      if address.success then
        match longWriteAddress target (command = "writeabs".toList) address.value with
        | none => (.frontend, none, parts.getD 4 [])
        | some relativeAddress =>
          if !isFrontendAddress relativeAddress then (.nonFrontend, none, [])
          else (.frontend, some relativeAddress, parts.getD 4 [])
      else (.frontend, none, [])
    else (.frontend, none, [])
  else
    let address := resolve command
    if address.success && !isFrontendAddress address.value then (.nonFrontend, none, [])
    else if address.success then (.frontend, some address.value, parts.getD 1 [])
    else (.frontend, none, [])

/-- After an `accu_test` nothing is certain. -/
def evaluateConditionalLine (target : TargetModuleAddress) (e : Evaluator)
    (resolver : ValueResolver) (location : MvmeInitScriptLocation) (parts : List Text) :
    Evaluator × ValueResolver :=
  let name := parts.getD 1 []
  let resolver :=
    if parts.headD [] = "set".toList && name ≠ [] then resolver.invalidate name else resolver
  let (impact, frontendAddress, valueText) := conditionalEffect target parts
  let e :=
    if impact = .frontend then
      ({ e with conditionalFrontendWrite := true }).taintConditionalFrontendValue frontendAddress
        valueText
    else e
  (e.addIssue location impact .conditionalAfterAccuTest
    (if impact = .frontend then
      "A possible frontend write is conditional after an "
        ++ "unprovable accu_test and was not extracted."
    else
      "A non-frontend statement is conditional after an "
        ++ "unprovable accu_test and was not interpreted."), resolver)

/-- Whether a line that could not be prepared certainly does not write to the frontend. -/
def preparationFailureNonFrontend (target : TargetModuleAddress) (rawParts : List Text) : Bool :=
  let command := lower (rawParts.headD [])
  if command = "set".toList || command = "accu_test".toList
      || isKnownNonFrontendCommand command then
    true
  else if rawParts = [] then false
  else if (command = "write".toList || command = "writeabs".toList) && rawParts.length > 3 then
    let address := resolve (rawParts.getD 3 [])
    address.success &&
      match longWriteAddress target (command = "writeabs".toList) address.value with
      | none => false
      | some relative => !isFrontendAddress relative
  else
    let address := resolve (rawParts.headD [])
    address.success && !isFrontendAddress address.value

/-- A line that cannot be read may be a write to the frontend. -/
def reportPreparationFailure (target : TargetModuleAddress) (e : Evaluator)
    (resolver : ValueResolver) (location : MvmeInitScriptLocation) (prepared : PreparedLine) :
    Evaluator × ValueResolver :=
  let command := lower (prepared.rawParts.headD [])
  let name := prepared.rawParts.getD 1 []
  let nonFrontend := preparationFailureNonFrontend target prepared.rawParts
  let resolver :=
    if command = "set".toList && name ≠ [] then resolver.invalidate name else resolver
  let e := e.markCurrentScriptParseFailure.addIssue location
    (if nonFrontend then .nonFrontend else .frontend) prepared.reason
    (if nonFrontend then
      "A non-frontend statement could not be expanded using MVME's bounded parsing model."
    else
      "A possible frontend write could not be expanded using MVME's bounded parsing model.")
  (e.resetSelectorIf !nonFrontend, resolver)

/-- A line that is neither `write` nor any other command: a shorthand write. -/
def evaluateShorthand (e : Evaluator) (location : MvmeInitScriptLocation) (parts : List Text) :
    Evaluator :=
  let address := resolve (parts.headD [])
  if !address.success then
    (e.markCurrentScriptParseFailure.addIssue location .frontend address.reason
      ("A possible write address could not be resolved, so frontend "
        ++ "impact cannot be excluded.")).resetSelector
  else if parts.length ≠ 2 then
    (e.markCurrentScriptParseFailure.addIssue location
      (if isFrontendAddress address.value then .frontend else .nonFrontend)
      (if parts.length < 2 then .unsupportedExpression else .unsupportedStatement)
      "A shorthand write does not have exactly one value.").resetSelectorIf
        (address.value = fw2051ScpSelectorRegister.toUInt32)
  else e.evaluateRelativeWrite location address.value (parts.getD 1 [])

/-- From here on it is not known which statements are executed. -/
def evaluateAccuTest (e : Evaluator) (location : MvmeInitScriptLocation) : Evaluator :=
  let e := { e with
    result := { e.result with conditionalAccuTestLocation := some location }
    conditionalSelector := e.selector }
  let e := e.addIssue location .nonFrontend .unsupportedStatement
    ("An accu_test depends on a live accumulator; whether later "
      ++ "statements execute cannot be proven.")
  { e with statementsConditional := true }

/-- A prepared line of valid syntax that sets no variable, where nothing is conditional yet. -/
def evaluateStatement (target : TargetModuleAddress) (e : Evaluator)
    (location : MvmeInitScriptLocation) (parts : List Text) : Evaluator :=
  let command := parts.headD []
  if command = "accu_test".toList then e.evaluateAccuTest location
  else if command = "accu_test_warn".toList then
    e.addIssue location .nonFrontend .unsupportedStatement
      "A non-frontend init-script statement was not interpreted."
  else if command = "write".toList || command = "writeabs".toList then
    evaluateLongWrite target e location (command = "writeabs".toList) parts
  else if isKnownNonFrontendCommand command then
    e.addIssue location .nonFrontend .unsupportedStatement
      "A non-frontend init-script statement was not interpreted."
  else e.evaluateShorthand location parts

/-- The second half of `EvaluateLine`, behind the check of a prepared line's form. -/
def evaluatePreparedLine (target : TargetModuleAddress) (e : Evaluator) (resolver : ValueResolver)
    (location : MvmeInitScriptLocation) (parts : List Text) (syntaxResult : LineSyntaxResult) :
    Evaluator × ValueResolver :=
  let command := parts.headD []
  if !syntaxResult.success then
    let name := parts.getD 1 []
    let resolver :=
      if command = "set".toList && name ≠ [] then resolver.invalidate name else resolver
    let e := e.markCurrentScriptParseFailure.addIssue location syntaxResult.impact
      syntaxResult.reason syntaxResult.message
    (e.resetSelectorIf (syntaxResult.impact = .frontend), resolver)
  else if command = "set".toList then e.evaluateSet resolver location parts
  else if e.statementsConditional then evaluateConditionalLine target e resolver location parts
  else (evaluateStatement target e location parts, resolver)

/-- Read the line, check it, carry it out. -/
def evaluateLine (target : TargetModuleAddress) (e : Evaluator) (resolver : ValueResolver)
    (location : MvmeInitScriptLocation) (line : Text) : Evaluator × ValueResolver :=
  let prepared := prepareLine line resolver
  if !prepared.success then reportPreparationFailure target e resolver location prepared
  else
    evaluatePreparedLine target e resolver location prepared.parts
      (validatePreparedLineSyntax target prepared.parts)

/-- The loop over the lines of a script, numbered from `lineNumber`. -/
def evaluateLines (target : TargetModuleAddress) (scriptIndex : Nat) (e : Evaluator)
    (resolver : ValueResolver) (lineNumber : Nat) : List Text → Evaluator
  | [] => e
  | line :: lines =>
    let trimmed := trim line
    if trimmed = [] then evaluateLines target scriptIndex e resolver (lineNumber + 1) lines
    else
      let (e, resolver) := evaluateLine target e resolver { scriptIndex, lineNumber } trimmed
      evaluateLines target scriptIndex e resolver (lineNumber + 1) lines

/-- The lines of a script and the end of its comments. -/
def evaluateText (target : TargetModuleAddress) (e : Evaluator) (scriptIndex : Nat) (source : Text)
    (resolver : ValueResolver) : Evaluator :=
  let stripped := stripComments source
  let lines := splitLines stripped.text
  let e := evaluateLines target scriptIndex { e with currentScriptParseFailed := false } resolver 1
    lines
  if stripped.unterminatedBlock then
    (e.markCurrentScriptParseFailure.addIssue { scriptIndex, lineNumber := lines.length } .frontend
      .malformedScript "An init script contains an unterminated block comment.").resetSelector
  else e

/-- A script that is rejected is undone, its issues apart. -/
def evaluateScript (target : TargetModuleAddress) (before : Evaluator) (scriptIndex : Nat)
    (source : Text) (resolver : ValueResolver) : Evaluator :=
  let e := evaluateText target before scriptIndex source resolver
  if e.currentScriptParseFailed then
    { e with
      parseFailureEncountered := true
      selector := before.selector
      conditionalSelector := before.conditionalSelector
      statementsConditional := before.statementsConditional
      conditionalFrontendWrite := before.conditionalFrontendWrite
      finalValues := before.finalValues
      result := { e.result with
        conditionalAccuTestLocation := before.result.conditionalAccuTestLocation
        selectorAssignments :=
          e.result.selectorAssignments.take before.result.selectorAssignments.length
        frontendWrites := e.result.frontendWrites.take before.result.frontendWrites.length } }
  else e

/-! ### Scripts of a target

The target is found in the workspace by its place. Its scripts are evaluated in the order of the
list, and the state of the result is found from the issues at the end. -/

/-- The issues of the variable tables that a script cannot use. -/
def addTableIssues (e : Evaluator) (scriptIndex : Nat)
    (tables : List (Except String VariableTable)) : Evaluator :=
  tables.foldl
    (fun e table =>
      match table with
      | .error message =>
        e.addIssue { scriptIndex } .frontend .malformedVariableTable message
      | .ok _ => e) e

/-- The JSON objects around the scripts, from the inside out. -/
structure ScriptContext where
  module : Json
  event : Json
  daq : Json

/-- One round of the loop over the entries of `initScripts`. -/
def evaluateEntry (target : TargetModuleAddress) (context : ScriptContext) (e : Evaluator)
    (entry : Json × Nat) : Evaluator :=
  let (script, scriptIndex) := entry
  if !script.isObject then
    (e.addIssue { scriptIndex } .frontend .malformedScript
      "An init script entry is not an object.").resetSelector
  else
    let evaluateEnabled : Evaluator :=
      let e := { e with
        result := { e.result with enabledScriptCount := e.result.enabledScriptCount + 1 } }
      match script.find? "vme_script" with
      | some (.string text) =>
        let tables := [script, context.module, context.event, context.daq].map
          (jsonVariableTable · "variable_table")
        match tables.mapM id with
        | .error _ => (e.addTableIssues scriptIndex tables).resetSelector
        | .ok outer => evaluateScript target e scriptIndex text.toList { front := [], outer }
      | _ =>
        (e.addIssue { scriptIndex } .frontend .malformedScript
          "An enabled init script has no text payload.").resetSelector
    match script.find? "enabled" with
    | none => evaluateEnabled
    | some (.boolean true) => evaluateEnabled
    | some (.boolean false) => e
    | some _ =>
      (e.addIssue { scriptIndex } .frontend .malformedScript
        "An init script enabled field is not Boolean.").resetSelector

/-- The entries in the order of the list. -/
def evaluateEntries (target : TargetModuleAddress) (context : ScriptContext)
    (scripts : List Json) : Evaluator :=
  scripts.zipIdx.foldl (evaluateEntry target context) {}

/-- A failure outweighs a condition, and a condition the rest. -/
def finalState (e : Evaluator) : MvmeInitScriptEvaluationState × String :=
  let frontendFailure := e.result.unresolvedStatements.any fun unresolved =>
    unresolved.impact = .frontend && unresolved.reason ≠ .conditionalAfterAccuTest
  if e.parseFailureEncountered then
    (.failed, "Init-script evaluation failed because MVME would reject "
      ++ "an entire script before executing any command in it.")
  else if frontendFailure then
    (.failed, "Init-script evaluation failed because at least one "
      ++ "frontend-affecting statement was unresolved.")
  else if e.conditionalFrontendWrite then
    (.conditionalAfterAccuTest, "Later frontend writes were conditional after an "
      ++ "unprovable accu_test and were not extracted.")
  else if e.result.unresolvedStatements ≠ [] then
    (.completeWithUnresolvedNonFrontend, "Frontend writes were resolved; non-frontend statements "
      ++ "remain explicitly unresolved.")
  else (.complete, "All enabled target init scripts were evaluated.")

/-- The result with its state and message. -/
def finalize (e : Evaluator) : MvmeInitScriptEvaluation :=
  let (state, message) := e.finalState
  { e.result with state, message }

/-- A workspace that cannot be read has one issue. -/
def malformed (message : String) : MvmeInitScriptEvaluation :=
  (({} : Evaluator).addIssue {} .frontend .malformedScript message).finalize

/-- All scripts of the target, and what is written at the end. -/
def evaluateScripts (target : TargetModuleAddress) (context : ScriptContext)
    (scripts : List Json) : MvmeInitScriptEvaluation :=
  let e := evaluateEntries target context scripts
  ({ e with
    result := { e.result with
      finalFrontendValues := e.finalValues.toList.map (·.2) } } : Evaluator).finalize

def run (workspace : MvmeWorkspace) (target : MvmeWorkspaceTarget) : MvmeInitScriptEvaluation :=
  let located := workspace.findEnabledMdpp32ScpTarget target.address
  let notLocated := malformed
    ("The supplied target is not the unique enabled mdpp32_scp "
      ++ "module at its normalized address.")
  match located.status, located.target with
  | .found, some found =>
    if found.eventIndex ≠ target.eventIndex ∨ found.moduleIndex ≠ target.moduleIndex then
      notLocated
    else
      let incomplete := malformed "The target workspace structure is incomplete or malformed."
      match workspace.json.find? "DAQConfig" with
      | none => incomplete
      | some daq =>
        match daq.find? "events" with
        | none => incomplete
        | some events =>
          match events.elements[target.eventIndex]? with
          | none => malformed "The target event index is not valid."
          | some event =>
            match event.find? "modules" with
            | none => incomplete
            | some modules =>
              match modules.elements[target.moduleIndex]? with
              | none => malformed "The target module index is not valid."
              | some module =>
                match module.find? "initScripts" with
                | some (.array scripts) =>
                  evaluateScripts target.address { module, event, daq } scripts
                | _ => malformed "The target initScripts field is not an array."
  | _, _ => notLocated

end Evaluator

/-- The evaluation that the rest of the program reads. -/
def evaluateMvmeTargetInitScripts (workspace : MvmeWorkspace) (target : MvmeWorkspaceTarget) :
    MvmeInitScriptEvaluation :=
  Evaluator.run workspace target

end Fidget
