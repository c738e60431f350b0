import Fidget.Core.MvmeWorkspace
import Fidget.Lib.Lists

/-!
# Workspaces with other init scripts

A workspace in which the `initScripts` of one module are replaced. It is still a workspace, and the
search for a target does not look at init scripts: it finds the same module.

## Main results

- `withInitScripts`: the workspace with other scripts, which is one again.
- `findEnabledMdpp32ScpTarget_withInitScripts`: the search finds the same module.
-/

namespace Fidget

namespace Json

/-- A document with one module of one event changed. -/
def modifyModule (document : Json) (eventIndex moduleIndex : Nat) (f : Json → Json) : Json :=
  document.modifyMember "DAQConfig" fun daq =>
    daq.modifyMember "events" fun events =>
      events.modifyElement eventIndex fun event =>
        event.modifyMember "modules" fun modules => modules.modifyElement moduleIndex f

/-- A module with other init scripts. -/
def setInitScripts (module : Json) (scripts : List Json) : Json :=
  module.set "initScripts" (.array scripts)

end Json

section Checks

variable (eventIndex moduleIndex : Nat) (f : Json → Json)

/-- An event with a module changed. -/
def modifiedEvent (event : Json) : Json :=
  event.modifyMember "modules" fun modules => modules.modifyElement moduleIndex f

/-- The checks on an event do not look at scripts. -/
theorem eventObstacle_modifiedEvent (event : Json) (index : Nat) :
    eventObstacle (modifiedEvent moduleIndex f event) index = eventObstacle event index := by
  unfold eventObstacle modifiedEvent
  rw [Json.isObject_modifyMember, Json.find?_modifyMember, if_pos rfl]
  cases event.find? "modules" with
  | none => rfl
  | some modules => simp only [Option.map_some, Json.isArray_modifyElement]

/-- Only the events change. -/
theorem find?_modifyModule (document : Json) :
    (document.modifyModule eventIndex moduleIndex f).find? "DAQConfig" =
      (document.find? "DAQConfig").map fun daq => daq.modifyMember "events" fun events =>
        events.modifyElement eventIndex (modifiedEvent moduleIndex f) := by
  rw [Json.modifyModule, Json.find?_modifyMember, if_pos rfl]
  rfl

/-- What is checked of a workspace is not changed by a change of a module. -/
theorem checkMvmeWorkspace_modifyModule (document : Json) :
    checkMvmeWorkspace (document.modifyModule eventIndex moduleIndex f) =
      checkMvmeWorkspace document := by
  unfold checkMvmeWorkspace
  rw [find?_modifyModule, Json.modifyModule, Json.isObject_modifyMember]
  cases document.find? "DAQConfig" with
  | none => rfl
  | some daq =>
      have hproperties : ("properties" : String) ≠ "events" := by decide
      simp only [Option.map_some, Json.isObject_modifyMember, Json.find?_modifyMember,
        if_neg hproperties, if_true]
      cases daq.find? "events" with
      | none => rfl
      | some events =>
          cases events with
          | array events =>
              simp only [Option.map_some, Json.modifyElement]
              -- an event's check does not read what the module holds, so the first obstacle is the
              -- same
              have hobstacles : ((events.modify eventIndex (modifiedEvent moduleIndex f)).zipIdx
                  ).findSome? (fun entry => eventObstacle entry.1 entry.2) =
                  events.zipIdx.findSome? fun entry => eventObstacle entry.1 entry.2 := by
                have hmap := Lists.map_zipIdx_modify (f := modifiedEvent moduleIndex f)
                  (g := fun entry : Json × Nat => eventObstacle entry.1 entry.2)
                  (eventObstacle_modifiedEvent moduleIndex f) events eventIndex 0
                have hid := congrArg (List.findSome? id) hmap
                rwa [List.findSome?_map, List.findSome?_map] at hid
              rw [hobstacles]
          | _ => rfl

end Checks

namespace MvmeWorkspace

/-- The workspace in which the module of a target has other init scripts. -/
def withInitScripts (workspace : MvmeWorkspace) (target : MvmeWorkspaceTarget)
    (scripts : List Json) : MvmeWorkspace where
  json := workspace.json.modifyModule target.eventIndex target.moduleIndex (·.setInitScripts scripts)
  schemaVersion := workspace.schemaVersion
  checked := (checkMvmeWorkspace_modifyModule ..).trans workspace.checked

/-- The init scripts of the module of a target. -/
def targetScripts (workspace : MvmeWorkspace) (target : MvmeWorkspaceTarget) : List Json :=
  (((workspace.moduleAt target.eventIndex target.moduleIndex).find? "initScripts").map
    (·.elements)).getD []

/-! ### The search for a target -/

section Search

variable (address : TargetModuleAddress) (scripts : List Json)

/-- Init scripts are neither of the fields that the search reads. -/
theorem find?_setInitScripts (module : Json) {key : String} (h : key ≠ "initScripts") :
    (module.setInitScripts scripts).find? key = module.find? key :=
  Json.find?_set_of_ne module h _

/-- Nor does the search look at them. -/
theorem lookupModule_setInitScripts (event : Json) (eventIndex : Nat) (module : Json)
    (moduleIndex : Nat) :
    lookupModule address event eventIndex (module.setInitScripts scripts) moduleIndex =
      lookupModule address event eventIndex module moduleIndex := by
  unfold lookupModule optionalString
  have hobject : (module.setInitScripts scripts).isObject = module.isObject :=
    Json.isObject_set ..
  rw [hobject, find?_setInitScripts scripts module (by decide : "enabled" ≠ "initScripts"),
    find?_setInitScripts scripts module (by decide : "baseAddress" ≠ "initScripts"),
    find?_setInitScripts scripts module (by decide : "id" ≠ "initScripts")]

theorem validateTargetType_setInitScripts (module : Json) (target : MvmeWorkspaceTarget) :
    validateTargetType (module.setInitScripts scripts) target = validateTargetType module target := by
  unfold validateTargetType
  rw [find?_setInitScripts scripts module (by decide : "type" ≠ "initScripts"),
    find?_setInitScripts scripts module (by decide : "ModuleMeta" ≠ "initScripts")]

/-- One module of the event changes. -/
theorem modulesOf_modifiedEvent (moduleIndex : Nat) (f : Json → Json) (event : Json) :
    modulesOf (modifiedEvent moduleIndex f event) = (modulesOf event).modify moduleIndex f := by
  unfold modulesOf modifiedEvent
  rw [Json.find?_modifyMember, if_pos rfl]
  cases event.find? "modules" with
  | none => exact (List.modify_nil f moduleIndex).symm
  | some modules => exact Json.elements_modifyElement ..

/-- The other members of the event stay. -/
theorem find?_modifiedEvent (moduleIndex : Nat) (f : Json → Json) (event : Json) {key : String}
    (h : key ≠ "modules") : (modifiedEvent moduleIndex f event).find? key = event.find? key := by
  rw [modifiedEvent, Json.find?_modifyMember, if_neg h]

/-- So an event is searched with the same result. -/
theorem lookupEvent_modifiedEvent (moduleIndex : Nat) (event : Json) (eventIndex : Nat) :
    lookupEvent address (modifiedEvent moduleIndex (·.setInitScripts scripts) event) eventIndex =
      lookupEvent address event eventIndex := by
  unfold lookupEvent
  rw [find?_modifiedEvent _ _ _ (by decide : "enabled" ≠ "modules"), modulesOf_modifiedEvent]
  -- The match of a module keeps the identifier of its event.
  have hid (module : Json) (index : Nat) :
      lookupModule address (modifiedEvent moduleIndex (·.setInitScripts scripts) event) eventIndex
          module index = lookupModule address event eventIndex module index := by
    unfold lookupModule
    have hoptional : optionalString (modifiedEvent moduleIndex (·.setInitScripts scripts) event)
        "id" = optionalString event "id" := by
      unfold optionalString
      rw [find?_modifiedEvent _ _ _ (by decide : "id" ≠ "modules")]
    rw [hoptional]
  have hmap := Lists.map_zipIdx_modify (f := (·.setInitScripts scripts))
    (g := fun entry : Json × Nat => lookupModule address event eventIndex entry.1 entry.2)
    (lookupModule_setInitScripts address scripts event eventIndex) (modulesOf event) moduleIndex 0
  have hmapM := congrArg (List.mapM id) hmap
  rw [List.mapM_map, List.mapM_map] at hmapM
  simp only [hid]
  cases event.find? "enabled" with
  | none => rfl
  | some enabled =>
      cases enabled with
      | boolean value =>
          cases value with
          | false => rfl
          | true => exact congrArg (fun lookup => lookup >>= fun matching => pure matching.flatten) hmapM
      | _ => rfl

variable (workspace : MvmeWorkspace) (target : MvmeWorkspaceTarget)

/-- One event of the document changes. -/
theorem events_withInitScripts :
    (workspace.withInitScripts target scripts).events =
      workspace.events.modify target.eventIndex
        (modifiedEvent target.moduleIndex (·.setInitScripts scripts)) := by
  unfold events withInitScripts
  simp only
  rw [find?_modifyModule]
  cases workspace.json.find? "DAQConfig" with
  | none => exact (List.modify_nil _ target.eventIndex).symm
  | some daq =>
      simp only [Option.map_some, Option.bind_some, Json.find?_modifyMember, if_true]
      cases daq.find? "events" with
      | none => exact (List.modify_nil _ target.eventIndex).symm
      | some events => exact Json.elements_modifyElement ..

/-- The same modules are found. -/
theorem matchingModules_withInitScripts :
    (workspace.withInitScripts target scripts).matchingModules address =
      workspace.matchingModules address := by
  unfold matchingModules
  rw [events_withInitScripts]
  have hmap := Lists.map_zipIdx_modify
    (f := modifiedEvent target.moduleIndex (·.setInitScripts scripts))
    (g := fun entry : Json × Nat => lookupEvent address entry.1 entry.2)
    (lookupEvent_modifiedEvent address scripts target.moduleIndex) workspace.events
    target.eventIndex 0
  have hmapM := congrArg (List.mapM id) hmap
  rw [List.mapM_map, List.mapM_map] at hmapM
  exact congrArg (fun lookup => do
    let matching ← lookup
    return List.flatten matching) hmapM

/-- And found to be of the same type. -/
theorem validateTargetType_moduleAt_withInitScripts (eventIndex moduleIndex : Nat)
    (found : MvmeWorkspaceTarget) :
    validateTargetType ((workspace.withInitScripts target scripts).moduleAt eventIndex moduleIndex)
        found = validateTargetType (workspace.moduleAt eventIndex moduleIndex) found := by
  unfold moduleAt
  rw [events_withInitScripts, List.getElem?_modify]
  split
  next hevent =>
    cases workspace.events[eventIndex]? with
    | none => rfl
    | some event =>
        simp only [Option.map_eq_map, Option.map_some, Option.bind_some, modulesOf_modifiedEvent,
          List.getElem?_modify]
        cases (modulesOf event)[moduleIndex]? with
        | none => rfl
        | some module =>
            simp only [Option.map_some, Option.getD_some]
            by_cases hindex : target.moduleIndex = moduleIndex
            · rw [if_pos hindex]
              exact validateTargetType_setInitScripts scripts module found
            · rw [if_neg hindex]
  · rw [Option.map_eq_map, Option.map_id']

/-- Other init scripts do not change what the search finds. -/
theorem findEnabledMdpp32ScpTarget_withInitScripts :
    (workspace.withInitScripts target scripts).findEnabledMdpp32ScpTarget address =
      workspace.findEnabledMdpp32ScpTarget address := by
  unfold findEnabledMdpp32ScpTarget
  simp only [matchingModules_withInitScripts, validateTargetType_moduleAt_withInitScripts]

end Search

end MvmeWorkspace

end Fidget
