import Fidget.Core.GeneratedScript
import Fidget.Core.MvmeInitScript
import Fidget.Core.ScpTransactionPlan

/-!
# Exporting starting values into a workspace

`core/MvmeWorkspaceExport.cpp`: the values that the init scripts of a workspace certainly leave in
the frontend become a starting state, the starting state a script of literal writes, and that
script the last one of its module in a copy of the workspace.

The identifiers of scripts are random. They come from a generator that may give any texts, in any
order, or none; the export tries several of them and gives up after that.

## Main results

- `extractFw2051WorkspaceStartingState`: what an evaluation leaves for certain.
- `validateStartingState`: the states that can be exported.
- `generateFw2051LiteralScript`: the writes that reproduce such a state.
-/

namespace Fidget

open MvmeInitScript NumberText ScriptLine

def fidgetTunedFrontendScriptName : String := "FIDGET Tuned Frontend Settings"
def fidgetTunedFrontendFenceBegin : String := "# ===== BEGIN FIDGET Tuned Frontend Settings ====="
def fidgetTunedFrontendFenceEnd : String := "# ===== END FIDGET Tuned Frontend Settings ====="

/-- The values, and what was left unresolved beside them. -/
structure Fw2051WorkspaceStartingState where
  sourceEvaluationState : MvmeInitScriptEvaluationState := .failed
  frontendValues : List MvmeInitScriptFrontendValue := []
  unresolvedNonFrontend : List MvmeInitScriptUnresolvedStatement := []
  deriving DecidableEq, Repr

structure Fw2051WorkspaceStartingStateResult where
  message : String := ""
  startingState : Option Fw2051WorkspaceStartingState := none
  deriving DecidableEq, Repr

structure Fw2051LiteralScriptResult where
  success : Bool := false
  message : String := ""
  script : GeneratedScript := []
  valueCount : Nat := 0
  deriving DecidableEq, Repr

structure MvmeWorkspaceCopyExportResult where
  success : Bool := false
  replacedExistingFidgetScript : Bool := false
  message : String := ""
  text : String := ""
  valueCount : Nat := 0
  deriving DecidableEq, Repr

namespace MvmeWorkspaceExport

/-! ### Starting states -/

/-- The first value under a key, the one that `std::map::emplace` keeps. -/
def findValue (values : List MvmeInitScriptFrontendValue) (quad registerOffset : UInt16) :
    Option MvmeInitScriptFrontendValue :=
  values.find? fun value => value.quad == quad && value.registerOffset == registerOffset

/-- Why a value is refused after the values before it, if it is. -/
def valueObstacle (before : List MvmeInitScriptFrontendValue)
    (value : MvmeInitScriptFrontendValue) : Option String :=
  if value.quad.toNat ≥ fw2051ScpQuadCount then
    some "A workspace frontend value has an invalid quad."
  else if (findFw2051ScpSetting value.registerOffset).isNone then
    some "A workspace frontend value is outside the FW2051 setting registry."
  else
    let valueError := validateFw2051ScpProfileValue value.registerOffset value.value
    if valueError ≠ "" then some valueError
    else if (findValue before value.quad value.registerOffset).isSome then
      some "The workspace starting state contains a duplicate frontend value."
    else none

/-- Every value is in range, and no register has two. -/
def valuesObstacle (before : List MvmeInitScriptFrontendValue) :
    List MvmeInitScriptFrontendValue → Option String
  | [] => none
  | value :: values =>
    match valueObstacle before value with
    | some obstacle => some obstacle
    | none => valuesObstacle (before ++ [value]) values

/-- Whether a value is at odds with the value that its register depends on. -/
def dependencyViolated (values : List MvmeInitScriptFrontendValue)
    (value : MvmeInitScriptFrontendValue) : Bool :=
  match findFw2051ScpSetting value.registerOffset with
  | none => false
  | some definition =>
    if definition.dependencyRule = .none then false
    else
      match findValue values value.quad definition.dependencyRegister with
      | none => false
      | some dependency => !fw2051ScpDependencySatisfied definition value.value dependency.value

/-- The message that refuses a starting state, empty when it is accepted. -/
def validateStartingState (state : Fw2051WorkspaceStartingState) : String :=
  if state.sourceEvaluationState = .failed then
    "A failed init-script evaluation cannot be exported."
  else if state.sourceEvaluationState = .conditionalAfterAccuTest then
    "A conditional init-script evaluation cannot be exported."
  else if state.frontendValues = [] then
    "The workspace starting state has no resolved frontend values."
  else if state.sourceEvaluationState = .complete ∧ state.unresolvedNonFrontend ≠ [] then
    "A complete evaluation cannot carry unresolved statements."
  else if state.sourceEvaluationState = .completeWithUnresolvedNonFrontend ∧
      state.unresolvedNonFrontend = [] then
    "The partial evaluation does not carry its unresolved list."
  else if state.unresolvedNonFrontend.any fun unresolved => unresolved.impact ≠ .nonFrontend then
    "A workspace starting state cannot carry an unresolved frontend statement."
  else
    match valuesObstacle [] state.frontendValues with
    | some obstacle => obstacle
    | none =>
      -- The source goes through the values in the order of their keys; the text is always the same.
      if state.frontendValues.any (dependencyViolated state.frontendValues) then
        "A workspace frontend value does not satisfy its resolved FW2051 dependency."
      else ""

end MvmeWorkspaceExport

open MvmeWorkspaceExport

/-- An evaluation that failed, or is conditional, has no starting state. -/
def extractFw2051WorkspaceStartingState (evaluation : MvmeInitScriptEvaluation) :
    Fw2051WorkspaceStartingStateResult :=
  if evaluation.state = .failed then
    { message := "The failed init-script evaluation has no working starting state." }
  else if evaluation.state = .conditionalAfterAccuTest then
    { message := "The conditional init-script evaluation has no definite working "
        ++ "starting state." }
  else if evaluation.finalFrontendValues = [] then
    { message := "The init scripts resolved no FW2051 frontend starting values." }
  else
    let state : Fw2051WorkspaceStartingState :=
      { sourceEvaluationState := evaluation.state
        frontendValues := evaluation.finalFrontendValues
        unresolvedNonFrontend := evaluation.unresolvedStatements }
    let validation := validateStartingState state
    if validation ≠ "" then
      { message := "The resolved workspace values are not a usable starting state: "
          ++ validation }
    else
      { message :=
          if state.unresolvedNonFrontend = [] then
            "Extracted a partial workspace starting state. Live capture remains "
              ++ "the only restoration authority."
          else
            "Extracted a partial workspace starting state and retained the "
              ++ "unresolved non-frontend statements. Live capture remains the only "
              ++ "restoration authority."
        startingState := some state }

/-! ### The literal script -/

namespace MvmeWorkspaceExport

/-- A value to write, perhaps one that is only passed through. -/
structure PlannedLiteralValue where
  quad : UInt16 := 0
  registerOffset : UInt16 := 0
  value : UInt16 := 0
  stagingBoundary : Bool := false
  deriving DecidableEq, Repr

/-- The values of a coupled pair, after the widest boundary. A group of which only one value is
known cannot be written. -/
def coupledLiteralValues (values : List MvmeInitScriptFrontendValue)
    (quad constrainedRegister boundaryRegister : UInt16) :
    Except String (List PlannedLiteralValue) :=
  match findValue values quad constrainedRegister, findValue values quad boundaryRegister with
  | none, none => .ok []
  | some constrained, some boundary =>
    match findFw2051ScpSetting boundaryRegister with
    | none => .error "The FW2051 coupled boundary is absent from the registry."
    | some boundaryDefinition =>
      let ordered := planFw2051ScpCoupledWriteOrder constrainedRegister boundaryRegister
        boundaryDefinition.maximumValue constrained.value boundary.value
      if !ordered.success then .error ordered.message
      else do
        let targets ← ordered.registerOffsets.mapM fun registerOffset =>
          match findValue values quad registerOffset with
          | none => .error "The coupled FW2051 export plan lost a target value."
          | some value => .ok { quad, registerOffset, value := value.value }
        return { quad, registerOffset := boundaryRegister,
                 value := boundaryDefinition.maximumValue, stagingBoundary := true } :: targets
  | _, _ => .error "A FW2051 coupled-register group is incomplete."

/-- The registers that are bound by no other, in their order. -/
def independentLiteralValues (values : List MvmeInitScriptFrontendValue) (quad : UInt16) :
    List PlannedLiteralValue :=
  fw2051ScpIndependentRegisterOrder.flatMap fun registerOffset =>
    match findValue values quad registerOffset with
    | none => []
    | some value => [{ quad, registerOffset, value := value.value }]

/-- The independent registers, then the two pairs. -/
def quadLiteralValues (values : List MvmeInitScriptFrontendValue) (quad : UInt16) :
    Except String (List PlannedLiteralValue) := do
  let timing ← coupledLiteralValues values quad 0x6110 0x6124
  let samples ← coupledLiteralValues values quad 0x6146 0x6148
  return independentLiteralValues values quad ++ timing ++ samples

/-- Quad by quad. -/
def planLiteralValues (state : Fw2051WorkspaceStartingState) :
    Except String (List PlannedLiteralValue) := do
  let quads ← fw2051ScpQuads.mapM (quadLiteralValues state.frontendValues)
  return quads.flatten

/-- A write and the pause after it. -/
def longWriteLines (registerOffset value : UInt16) : GeneratedScript :=
  [longWrite registerOffset value, settle]

/-- The loop over the planned values; a value of another quad than the last moves the selector. -/
def literalLines (currentQuad : UInt16) : List PlannedLiteralValue → GeneratedScript
  | [] => []
  | item :: items =>
    (if item.quad ≠ currentQuad then
      (if currentQuad.toNat ≠ fw2051ScpQuadCount then [blank] else [])
        ++ comment ("# Quad ".toList ++ decimal item.quad.toNat)
          :: longWriteLines fw2051ScpSelectorRegister item.quad
    else [])
    ++ (if item.stagingBoundary then
      [comment "# Establish the widest safe coupled boundary".toList]
    else [])
    ++ longWriteLines item.registerOffset item.value
    ++ literalLines item.quad items

/-- The fence, and what the script was made from. -/
def literalHeader (state : Fw2051WorkspaceStartingState) (targetAddress : TargetModuleAddress) :
    GeneratedScript := [
  comment fidgetTunedFrontendFenceBegin.toList,
  comment ("# ".toList ++ fidgetTunedFrontendScriptName.toList),
  comment ("# target_a32_base: ".toList ++ ScriptLine.hexadecimal32 targetAddress.fullA32Value),
  comment "# expected_module: MDPP-32 SCP (identity comment, not a register write)".toList,
  comment "# expected_firmware: 0x2051 (identity comment, not a register write)".toList,
  comment "# source: workspace init scripts; intended values, not live hardware state".toList,
  comment "# restoration_authority: fresh live capture only".toList,
  comment ("# resolved_value_count: ".toList ++ decimal state.frontendValues.length),
  comment ("# unresolved_non_frontend_count: ".toList
    ++ decimal state.unresolvedNonFrontend.length),
  blank]

/-- The selector goes back to the first quad, and the fence is closed. -/
def literalFooter : GeneratedScript :=
  [blank, comment "# Park the FW2051 bank selector at quad 0".toList]
    ++ longWriteLines fw2051ScpSelectorRegister 0
    ++ [comment fidgetTunedFrontendFenceEnd.toList]

end MvmeWorkspaceExport

/-- A state that is accepted has a script. -/
def generateFw2051LiteralScript (startingState : Fw2051WorkspaceStartingState)
    (targetAddress : TargetModuleAddress) : Fw2051LiteralScriptResult :=
  let validation := validateStartingState startingState
  if validation ≠ "" then
    { message := "The FW2051 literal script cannot be generated: " ++ validation }
  else
    match planLiteralValues startingState with
    | .error message => { message := "The FW2051 literal script cannot be generated: " ++ message }
    | .ok values =>
      { success := true
        message := "Generated a literal module-init script containing "
          ++ toString startingState.frontendValues.length ++ " resolved FW2051 frontend values."
        script := literalHeader startingState targetAddress
          ++ literalLines fw2051ScpQuadCount.toUInt16 values ++ literalFooter
        valueCount := startingState.frontendValues.length }

end Fidget
