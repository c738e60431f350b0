import Fidget.Core.MvmeInitScript
import Fidget.Core.MvmeWorkspace.InitScripts

/-!
# Where the init scripts of a target are

An evaluation either finds the init scripts of its target in the document and goes through them, or
it ends with one issue and nothing else. The scripts of a located target can be replaced; their
variables come from the same tables as before.

## Main results

- `Located`: the scripts of a target, and the tables around them.
- `run_eq_of_located`: the evaluation is that of these scripts.
-/

namespace Fidget

open MvmeInitScript

namespace Evaluator

/-- The target is the one that its address finds, and these are its scripts. -/
structure Located (workspace : MvmeWorkspace) (target : MvmeWorkspaceTarget)
    (context : ScriptContext) (scripts : List Json) : Prop where
  found : ∃ found, (workspace.findEnabledMdpp32ScpTarget target.address).status = .found ∧
    (workspace.findEnabledMdpp32ScpTarget target.address).target = some found ∧
    found.eventIndex = target.eventIndex ∧ found.moduleIndex = target.moduleIndex
  daq : workspace.json.find? "DAQConfig" = some context.daq
  event : ∃ events, context.daq.find? "events" = some events ∧
    events.elements[target.eventIndex]? = some context.event
  module : ∃ modules, context.event.find? "modules" = some modules ∧
    modules.elements[target.moduleIndex]? = some context.module
  scripts : context.module.find? "initScripts" = some (.array scripts)

section Run

variable {workspace : MvmeWorkspace} {target : MvmeWorkspaceTarget}

theorem run_eq_of_located {context : ScriptContext} {scripts : List Json}
    (h : Located workspace target context scripts) :
    run workspace target = evaluateScripts target.address context scripts := by
  obtain ⟨found, hstatus, htarget, heventIndex, hmoduleIndex⟩ := h.found
  obtain ⟨events, hevents, hevent⟩ := h.event
  obtain ⟨modules, hmodules, hmodule⟩ := h.module
  unfold run
  simp only [hstatus, htarget, heventIndex, hmoduleIndex, ne_eq, not_true_eq_false, or_self,
    if_false, h.daq, hevents, hevent, hmodules, hmodule, h.scripts]

/-- The exporter finds the same scripts. -/
theorem targetScripts_of_located {context : ScriptContext} {scripts : List Json}
    (h : Located workspace target context scripts) : workspace.targetScripts target = scripts := by
  obtain ⟨events, hevents, hevent⟩ := h.event
  obtain ⟨modules, hmodules, hmodule⟩ := h.module
  have hmoduleAt : workspace.moduleAt target.eventIndex target.moduleIndex = context.module := by
    unfold MvmeWorkspace.moduleAt MvmeWorkspace.events
    rw [h.daq, Option.bind_some, hevents, Option.map_some, Option.getD_some, hevent,
      Option.map_some, Option.bind_some, MvmeWorkspace.modulesOf, hmodules, Option.map_some,
      Option.getD_some, hmodule]
    rfl
  rw [MvmeWorkspace.targetScripts, hmoduleAt, h.scripts]
  rfl

/-- Either the scripts are located, or the evaluation has a single issue. -/
theorem located_or_malformed (workspace : MvmeWorkspace) (target : MvmeWorkspaceTarget) :
    (∃ context scripts, Located workspace target context scripts) ∨
      ∃ message, run workspace target = malformed message := by
  rw [or_iff_not_imp_right]
  intro hmalformed
  rw [not_exists] at hmalformed
  unfold run at hmalformed
  simp only at hmalformed
  -- on the way to the scripts, every place where they are missing ends in a message
  split at hmalformed
  next found hstatus htarget =>
    split at hmalformed
    · exact absurd rfl (hmalformed _)
    next hindexes =>
      rw [not_or, not_not, not_not] at hindexes
      split at hmalformed
      · exact absurd rfl (hmalformed _)
      next daq hdaq =>
        split at hmalformed
        · exact absurd rfl (hmalformed _)
        next events hevents =>
          split at hmalformed
          · exact absurd rfl (hmalformed _)
          next event hevent =>
            split at hmalformed
            · exact absurd rfl (hmalformed _)
            next modules hmodules =>
              split at hmalformed
              · exact absurd rfl (hmalformed _)
              next module hmodule =>
                split at hmalformed
                next scripts hscripts =>
                  exact ⟨⟨module, event, daq⟩, scripts,
                    { found := ⟨found, hstatus, htarget, hindexes⟩
                      daq := hdaq
                      event := ⟨events, hevents, hevent⟩
                      module := ⟨modules, hmodules, hmodule⟩
                      scripts := hscripts }⟩
                · exact absurd rfl (hmalformed _)
  · exact absurd rfl (hmalformed _)

end Run

/-! ### Other scripts -/

variable {target : MvmeWorkspaceTarget}

/-- The objects around the scripts of a module with other scripts. -/
def contextWithInitScripts (target : MvmeWorkspaceTarget) (context : ScriptContext)
    (scripts : List Json) : ScriptContext where
  module := context.module.setInitScripts scripts
  event := modifiedEvent target.moduleIndex (·.setInitScripts scripts) context.event
  daq := context.daq.modifyMember "events" fun events =>
    events.modifyElement target.eventIndex
      (modifiedEvent target.moduleIndex (·.setInitScripts scripts))

/-- Replaced scripts are found where the old ones were. -/
theorem located_withInitScripts {workspace : MvmeWorkspace} {context : ScriptContext}
    {scripts : List Json} (h : Located workspace target context scripts) (scripts' : List Json) :
    Located (workspace.withInitScripts target scripts') target
      (contextWithInitScripts target context scripts') scripts' where
  found := by
    rw [MvmeWorkspace.findEnabledMdpp32ScpTarget_withInitScripts]
    exact h.found
  daq := by
    show (workspace.json.modifyModule _ _ _).find? "DAQConfig" = _
    rw [find?_modifyModule, h.daq]
    rfl
  event := by
    obtain ⟨events, hevents, hevent⟩ := h.event
    refine ⟨events.modifyElement target.eventIndex
      (modifiedEvent target.moduleIndex (·.setInitScripts scripts')), ?_, ?_⟩
    · rw [contextWithInitScripts, Json.find?_modifyMember, if_pos rfl, hevents]
      rfl
    · rw [Json.elements_modifyElement, List.getElem?_modify_eq, hevent]
      rfl
  module := by
    obtain ⟨modules, hmodules, hmodule⟩ := h.module
    refine ⟨modules.modifyElement target.moduleIndex (·.setInitScripts scripts'), ?_, ?_⟩
    · rw [contextWithInitScripts, modifiedEvent, Json.find?_modifyMember, if_pos rfl, hmodules]
      rfl
    · rw [Json.elements_modifyElement, List.getElem?_modify_eq, hmodule]
      rfl
  scripts := Json.find?_set_self (Json.isObject_of_find? h.scripts) _ _

/-- The tables around the scripts, from the inside out. -/
def ScriptContext.variableTables (context : ScriptContext) : List (Except String VariableTable) :=
  [context.module, context.event, context.daq].map (jsonVariableTable · "variable_table")

theorem jsonVariableTable_congr {owner owner' : Json} {fieldName : String}
    (h : owner'.find? fieldName = owner.find? fieldName) :
    jsonVariableTable owner' fieldName = jsonVariableTable owner fieldName := by
  unfold jsonVariableTable
  rw [h]

/-- The variables do not come from the scripts. -/
theorem variableTables_withInitScripts (context : ScriptContext) (scripts : List Json) :
    ScriptContext.variableTables (contextWithInitScripts target context scripts) =
      ScriptContext.variableTables context := by
  unfold ScriptContext.variableTables contextWithInitScripts
  simp only [List.map_cons, List.map_nil]
  rw [jsonVariableTable_congr
      (MvmeWorkspace.find?_setInitScripts scripts context.module
        (by decide : "variable_table" ≠ "initScripts")),
    jsonVariableTable_congr
      (MvmeWorkspace.find?_modifiedEvent target.moduleIndex (·.setInitScripts scripts)
        context.event (by decide : "variable_table" ≠ "modules"))]
  have hdaq : (context.daq.modifyMember "events" fun events =>
      events.modifyElement target.eventIndex (modifiedEvent target.moduleIndex
        (·.setInitScripts scripts))).find? "variable_table" =
      context.daq.find? "variable_table" := by
    rw [Json.find?_modifyMember, if_neg (by decide)]
  rw [jsonVariableTable_congr hdaq]

/-- Of what is around the scripts, only the variables count. -/
theorem evaluateEntry_congr {context context' : ScriptContext}
    (h : ScriptContext.variableTables context' = ScriptContext.variableTables context)
    (address : TargetModuleAddress) (e : Evaluator) (entry : Json × Nat) :
    evaluateEntry address context' e entry = evaluateEntry address context e entry := by
  have htables (script : Json) :
      [script, context'.module, context'.event, context'.daq].map
          (jsonVariableTable · "variable_table") =
        [script, context.module, context.event, context.daq].map
          (jsonVariableTable · "variable_table") := congrArg (List.cons _) h
  unfold evaluateEntry
  simp only [htables]

/-- Of what is around the scripts, only the tables count. -/
theorem evaluateScripts_congr {context context' : ScriptContext}
    (h : ScriptContext.variableTables context' = ScriptContext.variableTables context)
    (address : TargetModuleAddress) (scripts : List Json) :
    evaluateScripts address context' scripts = evaluateScripts address context scripts := by
  have hentry : evaluateEntry address context' = evaluateEntry address context :=
    funext fun e => funext fun entry => evaluateEntry_congr h address e entry
  unfold evaluateScripts evaluateEntries
  rw [hentry]

/-- What a workspace with other scripts evaluates to. -/
theorem run_withInitScripts {workspace : MvmeWorkspace} {context : ScriptContext}
    {scripts : List Json} (h : Located workspace target context scripts) (scripts' : List Json) :
    run (workspace.withInitScripts target scripts') target =
      evaluateScripts target.address context scripts' := by
  rw [run_eq_of_located (located_withInitScripts h scripts')]
  exact evaluateScripts_congr (variableTables_withInitScripts context scripts') _ _

/-! ### Workspaces of one module -/

def exampleModule (scripts : List Json) : Json :=
  .object [("type", .string "mdpp32_scp"), ("enabled", .boolean true),
    ("baseAddress", .unsigned 0x01000000), ("initScripts", .array scripts)]

def exampleContext (scripts : List Json) : ScriptContext :=
  let module := exampleModule scripts
  let event := .object [("enabled", .boolean true), ("modules", .array [module])]
  { module, event
    daq := .object [("properties", .object [("version", .unsigned 4)]), ("events", .array [event])] }

/-- A workspace with one event, which has one module, which has these init scripts. -/
def exampleWorkspace (scripts : List Json) : MvmeWorkspace where
  json := .object [("DAQConfig", (exampleContext scripts).daq)]
  schemaVersion := .v4
  checked := rfl

def exampleTarget : MvmeWorkspaceTarget where
  eventIndex := 0
  moduleIndex := 0
  address := ⟨0x01000000, by decide⟩
  eventId := ""
  moduleId := ""

/-- The scripts of the example are found. -/
theorem located_exampleWorkspace (scripts : List Json) :
    Located (exampleWorkspace scripts) exampleTarget (exampleContext scripts) scripts where
  found := ⟨exampleTarget, rfl, rfl, rfl, rfl⟩
  daq := rfl
  event := ⟨.array [(exampleContext scripts).event], rfl, rfl⟩
  module := ⟨.array [exampleModule scripts], rfl, rfl⟩
  scripts := rfl

end Evaluator

end Fidget
