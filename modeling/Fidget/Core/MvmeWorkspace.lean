import Fidget.Core.ControllerEndpoint
import Fidget.Lib.FloatText
import Fidget.Lib.OrderedJson

/-!
# MVME workspaces

`core/MvmeWorkspace.cpp`: the JSON document of an MVME workspace, of which only the schema version
and the shape of the event list are checked when it is read, and the search for the one enabled
module of the target type at an address.

The text of a workspace is read by a library of the program, and the model starts from the document
that it gives: objects keep the order of their members, as the library is told to do. Positions in
the document are indices into its arrays, and the way to a module is an event and a module in it.

## Main results

- `mvmeWorkspaceOfJson`: the checks on a document.
- `findEnabledMdpp32ScpTarget`: the search for the one module of the target type.
-/

namespace Fidget

inductive MvmeWorkspaceSchemaVersion where
  | v3
  | v4
  deriving DecidableEq, Repr

/-- How a search ends. -/
inductive MvmeWorkspaceTargetStatus where
  | found
  | notFound
  | duplicateTarget
  | ambiguousModuleType
  | wrongModuleType
  | invalidModuleAddress
  | malformedWorkspace
  deriving DecidableEq, Repr

/-- Where the module is in the document, and what it is called. -/
structure MvmeWorkspaceTarget where
  eventIndex : Nat
  moduleIndex : Nat
  address : TargetModuleAddress
  eventId : String
  moduleId : String
  deriving DecidableEq

structure MvmeWorkspaceTargetLookupResult where
  status : MvmeWorkspaceTargetStatus := .notFound
  message : String := ""
  target : Option MvmeWorkspaceTarget := none
  deriving DecidableEq

/-! ### Reading

The checks come before anything else is looked at, so a workspace is a document that has passed
them. -/

/-- The event at an index must be an object with an array of modules. -/
def eventObstacle (event : Json) (eventIndex : Nat) : Option String :=
  if !event.isObject then
    some ("Event " ++ toString eventIndex ++ " is not an object.")
  else
    match event.find? "modules" with
    | some modules =>
      if modules.isArray then none
      else some ("Event " ++ toString eventIndex ++ " has no modules array.")
    | none => some ("Event " ++ toString eventIndex ++ " has no modules array.")

/-- The checks of `ParseMvmeWorkspace` on the document. -/
def checkMvmeWorkspace (document : Json) : Except String MvmeWorkspaceSchemaVersion :=
  if !document.isObject then
    .error "The MVME workspace root is not an object."
  else
    match document.find? "DAQConfig" with
    | none => .error "The MVME workspace has no DAQConfig object."
    | some daqConfig =>
      if !daqConfig.isObject then .error "The MVME workspace has no DAQConfig object."
      else
        match daqConfig.find? "properties" with
        | none => .error "The MVME workspace has no DAQConfig properties object."
        | some properties =>
          if !properties.isObject then
            .error "The MVME workspace has no DAQConfig properties object."
          else
            let version : Except String MvmeWorkspaceSchemaVersion :=
              match properties.find? "version" with
              | some (.unsigned version) =>
                if version = 3 then .ok .v3
                else if version = 4 then .ok .v4
                else .error "The MVME workspace schema version is not supported."
              | some (.integer version) =>
                if version = 3 then .ok .v3
                else if version = 4 then .ok .v4
                else .error "The MVME workspace schema version is not supported."
              | _ => .error "The MVME workspace schema version is missing or not an integer."
            match version with
            | .error message => .error message
            | .ok schemaVersion =>
              match daqConfig.find? "events" with
              | some (.array events) =>
                match events.zipIdx.findSome? fun (event, index) => eventObstacle event index with
                | some message => .error message
                | none => .ok schemaVersion
              | _ => .error "DAQConfig.events is not an array."

/-- A document that was read as a workspace. -/
structure MvmeWorkspace where
  json : Json
  schemaVersion : MvmeWorkspaceSchemaVersion
  checked : checkMvmeWorkspace json = .ok schemaVersion

/-- A document with a known schema and events that are a list of objects. -/
def mvmeWorkspaceOfJson (document : Json) : Except String MvmeWorkspace :=
  match h : checkMvmeWorkspace document with
  | .error message => .error message
  | .ok schemaVersion => .ok ⟨document, schemaVersion, h⟩

/-- The document of a workspace passes the checks. -/
theorem mvmeWorkspaceOfJson_json (workspace : MvmeWorkspace) :
    mvmeWorkspaceOfJson workspace.json = .ok workspace := by
  obtain ⟨json, schemaVersion, hchecked⟩ := workspace
  unfold mvmeWorkspaceOfJson
  split
  next message herror => cases hchecked.symm.trans herror
  next version hversion => cases hchecked.symm.trans hversion; rfl

/-- The JSON library reads the text, or says why it cannot. -/
def parseMvmeWorkspace (parseJson : String → Except String Json) (text : String) :
    Except String MvmeWorkspace :=
  match parseJson text with
  | .error message => .error ("The MVME workspace is not valid JSON: " ++ message)
  | .ok document => mvmeWorkspaceOfJson document

/-! ### The target

A target is found by its address among the enabled modules of enabled events, and has to be the only
one. -/

def mdpp32ScpType : String := "mdpp32_scp"

/-- A place in the document, for messages. -/
def indexedField (eventIndex moduleIndex : Nat) (detail : String) : String :=
  "Event " ++ toString eventIndex ++ ", module " ++ toString moduleIndex ++ ": " ++ detail

/-- An address is a number within the A32 range; a text is refused. -/
def parseModuleAddress : Json → TargetModuleAddressParseResult
  | .string _ =>
    { message := "The MVME workspace schema expects baseAddress to be a numeric A32 address." }
  | .unsigned number =>
    if number.toNat > 0xFFFFFFFF then { message := "The module address exceeds the A32 range." }
    else parseFullTargetModuleAddress number.toUInt32
  | .integer number =>
    if number.toInt < 0 ∨ number.toInt > 0xFFFFFFFF then
      { message := "The module address is outside the A32 range." }
    else parseFullTargetModuleAddress number.toInt.toNat.toUInt32
  | .float number =>
    let outside : TargetModuleAddressParseResult :=
      { message := "The numeric module address is outside the unsigned A32 integer range." }
    match FloatText.floatValue number with
    | none => outside
    | some value =>
      if value < 0 ∨ value > 0xFFFFFFFF ∨ ⌊value⌋ ≠ value then outside
      else parseFullTargetModuleAddress ⌊value⌋.toNat.toUInt32
  | _ =>
    { message := "The MVME workspace schema expects baseAddress to be a numeric A32 address." }

def optionalString (object : Json) (key : String) : String :=
  match object.find? key with
  | some (.string text) => text
  | _ => ""

/-- The module must be of the target type, and its metadata may not say otherwise. -/
def validateTargetType (module : Json) (target : MvmeWorkspaceTarget) :
    MvmeWorkspaceTargetLookupResult :=
  let refuse (status : MvmeWorkspaceTargetStatus) (detail : String) :
      MvmeWorkspaceTargetLookupResult :=
    { status, message := indexedField target.eventIndex target.moduleIndex detail }
  match module.find? "type" with
  | some (.string primaryType) =>
    let metadataObstacle : Option String :=
      match module.find? "ModuleMeta" with
      | none => none
      | some metadata =>
        if !metadata.isObject then some "ModuleMeta is not an object."
        else
          match metadata.find? "typeName" with
          | none => none
          | some (.string metadataType) =>
            if metadataType ≠ primaryType then
              some "the primary and metadata module types disagree."
            else none
          | some _ => some "the primary and metadata module types disagree."
    match metadataObstacle with
    | some detail => refuse .ambiguousModuleType detail
    | none =>
      if primaryType ≠ mdpp32ScpType then
        refuse .wrongModuleType "the enabled module is not an mdpp32_scp target."
      else
        { status := .found
          message := "Found one enabled mdpp32_scp target."
          target := some target }
  | _ => refuse .ambiguousModuleType "the enabled target has no unambiguous module type."

namespace MvmeWorkspace

/-- `DAQConfig.events`, an array in every workspace. -/
def events (workspace : MvmeWorkspace) : List Json :=
  (((workspace.json.find? "DAQConfig").bind (·.find? "events")).map (·.elements)).getD []

/-- `modules`, an array in every event of a workspace. -/
def modulesOf (event : Json) : List Json := ((event.find? "modules").map (·.elements)).getD []

/-- The module of an enabled event, as a match if it is enabled and has the address. -/
def lookupModule (address : TargetModuleAddress) (event : Json) (eventIndex : Nat) (module : Json)
    (moduleIndex : Nat) : Except MvmeWorkspaceTargetLookupResult (List MvmeWorkspaceTarget) :=
  let refuse (status : MvmeWorkspaceTargetStatus) (detail : String) :
      Except MvmeWorkspaceTargetLookupResult (List MvmeWorkspaceTarget) :=
    .error { status, message := indexedField eventIndex moduleIndex detail }
  if !module.isObject then
    refuse .malformedWorkspace "the module entry is not an object."
  else
    match module.find? "enabled" with
    | some (.boolean false) => .ok []
    | some (.boolean true) =>
      match module.find? "baseAddress" with
      | none => refuse .invalidModuleAddress "the enabled module has no baseAddress."
      | some baseAddress =>
        let parsedAddress := parseModuleAddress baseAddress
        match parsedAddress.success, parsedAddress.address with
        | true, some parsed =>
          if parsed ≠ address then .ok []
          else
            .ok [{ eventIndex, moduleIndex, address := parsed,
                   eventId := optionalString event "id",
                   moduleId := optionalString module "id" }]
        | _, _ => refuse .invalidModuleAddress parsedAddress.message
    | _ => refuse .malformedWorkspace "the module has no Boolean enabled field."

/-- The matches among the modules of an event. -/
def lookupEvent (address : TargetModuleAddress) (event : Json) (eventIndex : Nat) :
    Except MvmeWorkspaceTargetLookupResult (List MvmeWorkspaceTarget) :=
  match event.find? "enabled" with
  | some (.boolean false) => .ok []
  | some (.boolean true) => do
    let matching ← (modulesOf event).zipIdx.mapM fun (module, moduleIndex) =>
      lookupModule address event eventIndex module moduleIndex
    return matching.flatten
  | _ =>
    .error { status := .malformedWorkspace
             message := "Event " ++ toString eventIndex ++ " has no Boolean enabled field." }

/-- The enabled modules at an address, in the order of the document. -/
def matchingModules (workspace : MvmeWorkspace) (address : TargetModuleAddress) :
    Except MvmeWorkspaceTargetLookupResult (List MvmeWorkspaceTarget) := do
  let matching ← workspace.events.zipIdx.mapM fun (event, eventIndex) =>
    lookupEvent address event eventIndex
  return matching.flatten

/-- `events[eventIndex]["modules"][moduleIndex]`. -/
def moduleAt (workspace : MvmeWorkspace) (eventIndex moduleIndex : Nat) : Json :=
  ((workspace.events[eventIndex]?.map modulesOf).bind (·[moduleIndex]?)).getD .null

/-- There must be one such module. -/
def findEnabledMdpp32ScpTarget (workspace : MvmeWorkspace) (address : TargetModuleAddress) :
    MvmeWorkspaceTargetLookupResult :=
  let typeOf (target : MvmeWorkspaceTarget) : MvmeWorkspaceTargetLookupResult :=
    validateTargetType (workspace.moduleAt target.eventIndex target.moduleIndex) target
  match workspace.matchingModules address with
  | .error failure => failure
  | .ok [] =>
    { status := .notFound, message := "No enabled module uses the requested normalized address." }
  | .ok [target] => typeOf target
  | .ok targets =>
    if targets.any fun target => (typeOf target).status ≠ .found then
      { status := .ambiguousModuleType
        message := "Enabled modules at the requested normalized address "
          ++ "do not provide one unambiguous mdpp32_scp type." }
    else
      { status := .duplicateTarget
        message := "More than one enabled module uses the requested normalized "
          ++ "address across the workspace events." }

end MvmeWorkspace

end Fidget
