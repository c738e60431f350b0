import Fidget.Core.MvmeWorkspaceExport.Fence
import Fidget.Core.MvmeWorkspaceExport.Identifiers
import Fidget.Hardware.ScriptExecution.WorkspaceCopy

/-!
# The document of a copied workspace

What an exported document has of the one that it is a copy of, and what it adds: one entry between
fences, the last of its module. The identifier of that entry is new to the rest of the document, but
what the entry takes over from an earlier one is not looked through.

An export changes one list in the document, the init scripts of a module, and everything else is
left as it is. So a copy of a copy is again a change of that list in the original document, and the
question is what the two lists have in common.

## Main results

- `exportable_of_exported`, `export_of_exportable`: when an export succeeds, and what it writes.
- `FaithfulCopy`, `ExportedEntry`: what the copy has of the document, and what the entry is to be.
- `exportedEntry_iff`: the identifier of the entry is new to the document exactly when the members
  it takes over do not contain it.
- `copiesFaithfully_iff`: every generator gives a faithful copy exactly when these members contain
  no identifier that the rest does not.
- `copiesFaithfully_counterexample`: a fenced script that does contain one.
-/

namespace Fidget

open MvmeInitScript

/-! ### Init scripts replaced twice

Changes at the same place can be put together: of two lists given to the same module, the last one
counts. -/

/-- Two changes of a module of an event. -/
theorem modifiedEvent_comp (moduleIndex : Nat) (f g : Json → Json) :
    modifiedEvent moduleIndex g ∘ modifiedEvent moduleIndex f =
      modifiedEvent moduleIndex (g ∘ f) := by
  funext event
  rw [Function.comp_apply]
  unfold modifiedEvent
  rw [Json.modifyMember_modifyMember]
  congr 1
  funext modules
  exact Json.modifyElement_modifyElement modules moduleIndex f g

/-- Two changes of a module of the document. -/
theorem modifyModule_modifyModule (document : Json) (eventIndex moduleIndex : Nat)
    (f g : Json → Json) :
    (document.modifyModule eventIndex moduleIndex f).modifyModule eventIndex moduleIndex g =
      document.modifyModule eventIndex moduleIndex (g ∘ f) := by
  unfold Json.modifyModule
  rw [Json.modifyMember_modifyMember]
  congr 1
  funext daq
  rw [Function.comp_apply, Json.modifyMember_modifyMember]
  congr 1
  funext events
  rw [Function.comp_apply, Json.modifyElement_modifyElement]
  exact congrArg (events.modifyElement eventIndex) (modifiedEvent_comp moduleIndex f g)

namespace MvmeWorkspace

variable {workspace : MvmeWorkspace} {target : MvmeWorkspaceTarget}

/-- Of the init scripts that a module is given, the last count. -/
theorem withInitScripts_withInitScripts (scripts scripts' : List Json) :
    (workspace.withInitScripts target scripts).withInitScripts target scripts' =
      workspace.withInitScripts target scripts' := by
  have hjson : ((workspace.withInitScripts target scripts).withInitScripts target scripts').json =
      (workspace.withInitScripts target scripts').json := by
    show (workspace.json.modifyModule _ _ _).modifyModule _ _ _ = workspace.json.modifyModule _ _ _
    rw [modifyModule_modifyModule]
    congr 1
    funext module
    exact Json.set_set module "initScripts" _ _
  unfold withInitScripts at hjson ⊢
  congr 1

end MvmeWorkspace

namespace MvmeWorkspaceExport

section Copies

variable {workspace : MvmeWorkspace} {target : MvmeWorkspaceTarget}

/-! ### What an export does

It looks for an earlier script between fences, takes its other members over, chooses an identifier
that the rest of the document does not have, and puts the new script behind those of the user. -/

/-- The module that is searched for is the one at its place. -/
theorem moduleAt_of_targetModule {module : Json}
    (h : targetModule workspace.json target = .ok module) :
    workspace.moduleAt target.eventIndex target.moduleIndex = module := by
  obtain ⟨daq, events, event, modules, hdaq, hevents, hevent, hmodules, hmodule⟩ :=
    exists_of_targetModule h
  unfold MvmeWorkspace.moduleAt MvmeWorkspace.events
  rw [hdaq, Option.bind_some, hevents, Option.map_some, Option.getD_some, hevent, Option.map_some,
    Option.bind_some, MvmeWorkspace.modulesOf, hmodules, Option.map_some, Option.getD_some, hmodule]
  rfl

/-- An export takes the scripts of the module, none where there is no such field. -/
theorem targetScripts_of_targetModule {module : Json} {scripts : List Json}
    (h : targetModule workspace.json target = .ok module)
    (hscripts : (module.find? "initScripts").getD (.array []) = .array scripts) :
    workspace.targetScripts target = scripts := by
  unfold MvmeWorkspace.targetScripts
  rw [moduleAt_of_targetModule h]
  cases hfound : module.find? "initScripts" with
  | none =>
      rw [hfound] at hscripts
      cases hscripts
      rfl
  | some found =>
      rw [hfound] at hscripts
      cases hscripts
      rfl

/-- The entry that is replaced, or the empty one. -/
def Taken (scripts : List Json) (owned : Json) : Prop :=
  owned = .object [] ∧ (∀ script ∈ scripts, entryFence script ≠ .complete) ∨
    owned ∈ scripts ∧ entryFence owned = .complete

/-- What is taken over is the fenced script, or nothing. -/
theorem taken_of_findOwnedScript {scripts : List Json} {ownedIndex : Option Nat}
    (h : findOwnedScript none scripts.zipIdx = .ok ownedIndex) :
    Taken scripts ((ownedIndex.bind (scripts[·]?)).getD (.object [])) := by
  rcases findOwnedScript_eq_ok h with ⟨rfl, hnone⟩ | ⟨-, before, owned, after, rfl, rfl, hcomplete, -⟩
  · refine .inl ⟨rfl, ?_⟩
    intro script hscript
    rw [hnone script hscript]
    exact FenceState.noConfusion
  · have howned : ((some (0 + before.length)).bind ((before ++ owned :: after)[·]?)).getD
        (.object []) = owned := by
      rw [Nat.zero_add, Option.bind_some, List.getElem?_append_right (Nat.le_refl _), Nat.sub_self]
      rfl
    rw [howned]
    exact .inr ⟨List.mem_append_right _ List.mem_cons_self, hcomplete⟩

/-- It is an object. -/
theorem isObject_of_taken {scripts : List Json} {owned : Json} (h : Taken scripts owned) :
    owned.isObject = true := by
  rcases h with ⟨rfl, -⟩ | ⟨-, hcomplete⟩
  · rfl
  · exact isObject_of_fenced hcomplete

/-- What is known of the module, its scripts and the entry that an export replaces. -/
structure Exportable (workspace : MvmeWorkspace) (target : MvmeWorkspaceTarget) (module owned : Json) :
    Prop where
  located : targetModule workspace.json target = .ok module
  isObject : module.isObject = true
  scripts : (module.find? "initScripts").getD (.array []) =
    .array (workspace.targetScripts target)
  owned : ∃ ownedIndex, findOwnedScript none (workspace.targetScripts target).zipIdx =
      .ok ownedIndex ∧
    owned = (ownedIndex.bind ((workspace.targetScripts target)[·]?)).getD (.object [])

/-- An export takes over what there is to take over. -/
theorem Exportable.taken {module owned : Json} (h : Exportable workspace target module owned) :
    Taken (workspace.targetScripts target) owned := by
  obtain ⟨ownedIndex, hfound, rfl⟩ := h.owned
  exact taken_of_findOwnedScript hfound

/-- The document in which the new identifier is looked for. -/
def searchedDocument (workspace : MvmeWorkspace) (target : MvmeWorkspaceTarget) : Json :=
  (workspace.withInitScripts target (userScripts (workspace.targetScripts target))).json

/-- The scripts of an export, once its requirements are met. -/
theorem exportedFw2051Scripts_eq {module owned : Json}
    (h : Exportable workspace target module owned) (text : String)
    (generator : Nat → Option String) : ∃ replaced,
      exportedFw2051Scripts workspace target text generator =
        if uniqueFidgetScriptId (searchedDocument workspace target) generator = "" then
          .error
            { replacedExistingFidgetScript := replaced
              message := "Could not allocate a unique UUID-v4 identifier for the "
                ++ "FIDGET script." }
        else
          .ok (userScripts (workspace.targetScripts target) ++ [fidgetScriptEntry owned
            (uniqueFidgetScriptId (searchedDocument workspace target) generator) text],
              replaced) := by
  obtain ⟨ownedIndex, hfound, rfl⟩ := h.owned
  have hobject : ¬ (!module.isObject) = true := by
    rw [h.isObject]
    exact Bool.false_ne_true
  refine ⟨ownedIndex.isSome, ?_⟩
  unfold exportedFw2051Scripts searchedDocument
  simp only [h.located, if_neg hobject, h.scripts, hfound,
    (replaced_of_findOwnedScript hfound).1]

/-- An export that gives scripts can be made of the workspace. -/
theorem exportable_of_exported {text : String} {generator : Nat → Option String}
    {result : List Json × Bool}
    (h : exportedFw2051Scripts workspace target text generator = .ok result) :
    ∃ module owned, Exportable workspace target module owned := by
  unfold exportedFw2051Scripts at h
  cases hmodule : targetModule workspace.json target with
  | error what =>
      simp only [hmodule] at h
      cases h
  | ok module =>
    simp only [hmodule] at h
    split at h
    · cases h
    next hobject =>
      split at h
      next scripts hscripts =>
        have htarget := targetScripts_of_targetModule hmodule hscripts
        split at h
        · cases h
        next ownedIndex hfound =>
          refine ⟨module, _, hmodule, by simpa using hobject, ?_, ownedIndex, ?_, rfl⟩
          · rw [htarget]
            exact hscripts
          · rw [htarget]
            exact hfound
      · cases h

/-- The identifier that is chosen is a new one. -/
theorem uniqueFidgetScriptIdFrom_spec {document : Json} {generator : Nat → Option String}
    {attempts attempt : Nat}
    (h : uniqueFidgetScriptIdFrom document generator attempts attempt ≠ "") :
    isUuidV4 (uniqueFidgetScriptIdFrom document generator attempts attempt).toList = true ∧
      ∃ identity,
        parseUuidIdentity (uniqueFidgetScriptIdFrom document generator attempts attempt).toList =
          some identity ∧ workspaceContainsUuid identity document = false := by
  induction attempts generalizing attempt with
  | zero => exact absurd rfl h
  | succ attempts ih =>
      unfold uniqueFidgetScriptIdFrom at h ⊢
      cases hcandidate : generator attempt with
      | none =>
          rw [hcandidate] at h
          exact absurd rfl h
      | some candidate =>
          simp only [hcandidate] at h ⊢
          by_cases hversion : (!isUuidV4 candidate.toList) = true
          · rw [if_pos hversion] at h
            exact absurd rfl h
          · rw [if_neg hversion] at h ⊢
            cases hidentity : parseUuidIdentity candidate.toList with
            | none =>
                rw [hidentity] at h
                exact absurd rfl h
            | some identity =>
                simp only [hidentity] at h ⊢
                -- the first candidate that no identifier of the document equals; otherwise the next
                -- is drawn
                by_cases hfresh : (!workspaceContainsUuid identity document) = true
                · rw [if_pos hfresh]
                  exact ⟨by simpa using hversion, identity, hidentity, by simpa using hfresh⟩
                · rw [if_neg hfresh] at h ⊢
                  exact ih h

/-- A new identifier is chosen where it is the first candidate. -/
theorem uniqueFidgetScriptId_const {document : Json} {id : String} {identity : List UInt8}
    (hversion : isUuidV4 id.toList = true) (hidentity : parseUuidIdentity id.toList = some identity)
    (hfresh : workspaceContainsUuid identity document = false) :
    uniqueFidgetScriptId document (fun _ => some id) = id := by
  have hold : ¬ (!isUuidV4 id.toList) = true := by simp [hversion]
  unfold uniqueFidgetScriptId maximumScriptIdAttempts
  rw [uniqueFidgetScriptIdFrom]
  simp only [if_neg hold, hidentity, hfresh, Bool.not_false, if_true]

/-- An identifier is not empty. -/
theorem ne_empty_of_isUuidV4 {id : String} (h : isUuidV4 id.toList = true) : id ≠ "" := by
  rintro rfl
  revert h
  decide

variable {dump : Json → String} {state : Fw2051WorkspaceStartingState}
  {generator : Nat → Option String}

/-- The target is where its address is found. -/
def FoundAt (workspace : MvmeWorkspace) (target : MvmeWorkspaceTarget) : Prop :=
  ∃ found, (workspace.findEnabledMdpp32ScpTarget target.address).status = .found ∧
    (workspace.findEnabledMdpp32ScpTarget target.address).target = some found ∧
      found.eventIndex = target.eventIndex ∧ found.moduleIndex = target.moduleIndex

/-- The export, once the module is found and the script is generated. -/
theorem export_eq (hfound : FoundAt workspace target)
    (hgenerated : (generateFw2051LiteralScript state target.address).success = true) :
    exportFw2051MvmeWorkspaceCopy dump workspace target state generator =
      match exportedFw2051Scripts workspace target
        (generateFw2051LiteralScript state target.address).script.text generator with
      | .error result => result
      | .ok (scripts, replaced) =>
        { success := true
          replacedExistingFidgetScript := replaced
          message :=
            if replaced then "Replaced the prior FIDGET fenced script in a copied workspace."
            else "Appended one FIDGET fenced script to a copied workspace."
          text := dump (workspace.withInitScripts target scripts).json ++ "\n"
          valueCount := (generateFw2051LiteralScript state target.address).valueCount } := by
  obtain ⟨found, hstatus, htarget, hevent, hmodule⟩ := hfound
  have hindexes : ¬ (found.eventIndex ≠ target.eventIndex ∨
      found.moduleIndex ≠ target.moduleIndex) := by
    rw [hevent, hmodule]
    tauto
  have hsuccess : ¬ (!(generateFw2051LiteralScript state target.address).success) = true := by
    simp [hgenerated]
  unfold exportFw2051MvmeWorkspaceCopy
  simp only [hstatus, htarget]
  exact (if_neg hindexes).trans (if_neg hsuccess)

/-- What an export that succeeds has come through. -/
theorem exported_of_success
    (h : (exportFw2051MvmeWorkspaceCopy dump workspace target state generator).success = true) :
    FoundAt workspace target ∧
      (generateFw2051LiteralScript state target.address).success = true ∧
      ∃ module owned, Exportable workspace target module owned ∧
        uniqueFidgetScriptId (searchedDocument workspace target) generator ≠ "" := by
  -- the target is found, and the script is generated
  have hfound : FoundAt workspace target ∧
      (generateFw2051LiteralScript state target.address).success = true := by
    unfold exportFw2051MvmeWorkspaceCopy at h
    simp only at h
    split at h
    next found hstatus htarget =>
      split at h
      · cases h
      next hindexes =>
        rw [not_or, not_not, not_not] at hindexes
        split at h
        · cases h
        next hgenerated => exact ⟨⟨found, hstatus, htarget, hindexes⟩, by simpa using hgenerated⟩
    · cases h
  refine ⟨hfound.1, hfound.2, ?_⟩
  rw [export_eq hfound.1 hfound.2] at h
  cases hscripts : exportedFw2051Scripts workspace target
      (generateFw2051LiteralScript state target.address).script.text generator with
  | error result =>
      rw [hscripts] at h
      exact absurd h (success_of_refused hscripts)
  | ok result =>
      obtain ⟨module, owned, hexportable⟩ := exportable_of_exported hscripts
      refine ⟨module, owned, hexportable, ?_⟩
      obtain ⟨replaced, heq⟩ := exportedFw2051Scripts_eq hexportable
        (generateFw2051LiteralScript state target.address).script.text generator
      -- without a new identifier the export is refused
      intro hempty
      rw [heq, if_pos hempty] at hscripts
      cases hscripts

/-- The scripts of an exported copy. -/
def exportedScripts (workspace : MvmeWorkspace) (target : MvmeWorkspaceTarget) (owned : Json)
    (id text : String) : List Json :=
  userScripts (workspace.targetScripts target) ++ [fidgetScriptEntry owned id text]

/-- An export whose requirements are met succeeds. -/
theorem export_of_exportable {module owned : Json} (hfound : FoundAt workspace target)
    (hgenerated : (generateFw2051LiteralScript state target.address).success = true)
    (hexportable : Exportable workspace target module owned)
    (hid : uniqueFidgetScriptId (searchedDocument workspace target) generator ≠ "") :
    (exportFw2051MvmeWorkspaceCopy dump workspace target state generator).success = true ∧
      (∃ replaced, exportedFw2051Scripts workspace target
        (generateFw2051LiteralScript state target.address).script.text generator =
          .ok (exportedScripts workspace target owned
            (uniqueFidgetScriptId (searchedDocument workspace target) generator)
              (generateFw2051LiteralScript state target.address).script.text, replaced)) ∧
      (exportFw2051MvmeWorkspaceCopy dump workspace target state generator).text =
        dump (workspace.withInitScripts target (exportedScripts workspace target owned
          (uniqueFidgetScriptId (searchedDocument workspace target) generator)
            (generateFw2051LiteralScript state target.address).script.text)).json ++ "\n" := by
  obtain ⟨replaced, heq⟩ := exportedFw2051Scripts_eq hexportable
    (generateFw2051LiteralScript state target.address).script.text generator
  rw [if_neg hid] at heq
  rw [export_eq hfound hgenerated, heq]
  exact ⟨rfl, ⟨replaced, rfl⟩, rfl⟩

/-! ### What a copy keeps

A copy should differ from the workspace in that script only, and the identifier of the script should
be unique. `FaithfulCopy` has both, and the second is where the members that were taken over come
in. -/

/-- What an exported entry is: enabled, with the generated text between fences, and with an
identifier that nothing else in the document has. -/
structure ExportedEntry (workspace : MvmeWorkspace) (target : MvmeWorkspaceTarget) (text : String)
    (entry : Json) : Prop where
  fenced : entryFence entry = .complete
  enabled : entry.find? "enabled" = some (.boolean true)
  text : entry.find? "vme_script" = some (.string text)
  /-- With its identifier taken away, the document has it nowhere. -/
  unique : ∃ id identity, entry.find? "id" = some (.string id) ∧
    parseUuidIdentity id.toList = some identity ∧
      workspaceContainsUuid identity (workspace.withInitScripts target
        (userScripts (workspace.targetScripts target) ++ [entry.set "id" .null])).json = false

/-- What a copy has of the workspace. -/
structure FaithfulCopy (workspace : MvmeWorkspace) (target : MvmeWorkspaceTarget)
    (state : Fw2051WorkspaceStartingState) (copy : MvmeWorkspace) (entry : Json) : Prop where
  /-- But for the init scripts of the module, it is the same document. -/
  elsewhere : ∀ scripts, copy.withInitScripts target scripts = workspace.withInitScripts target scripts
  scripts : copy.targetScripts target = userScripts (workspace.targetScripts target) ++ [entry]
  added : ExportedEntry workspace target
    (generateFw2051LiteralScript state target.address).script.text entry
  /-- Exported again, it changes in the identifier of the entry at most. -/
  again : ∀ dump generator,
    (exportFw2051MvmeWorkspaceCopy dump copy target state generator).success = true →
      ∃ id, (exportFw2051MvmeWorkspaceCopy dump copy target state generator).text =
        dump (copy.withInitScripts target (userScripts (workspace.targetScripts target) ++
          [entry.set "id" (.string id)])).json ++ "\n"

/-- A workspace of which every copy that succeeds, and is read back, is a faithful one. -/
def CopiesFaithfully (dump : Json → String) (workspace : MvmeWorkspace)
    (target : MvmeWorkspaceTarget) (state : Fw2051WorkspaceStartingState) : Prop :=
  ∀ parseJson generator,
    (exportFw2051MvmeWorkspaceCopy dump workspace target state generator).success = true →
    Evaluator.ReadsBack dump parseJson workspace target state generator →
    ∃ copy entry, parseMvmeWorkspace parseJson
        (exportFw2051MvmeWorkspaceCopy dump workspace target state generator).text = .ok copy ∧
      FaithfulCopy workspace target state copy entry

/-- The identifiers inside an earlier script between fences, those of version 4, are elsewhere in the
document too. -/
def CarriesNothingNew (workspace : MvmeWorkspace) (target : MvmeWorkspaceTarget) : Prop :=
  ∀ owned ∈ workspace.targetScripts target, entryFence owned = .complete →
    ∀ (id : String) (identity : List UInt8), isUuidV4 id.toList = true →
      parseUuidIdentity id.toList = some identity →
        workspaceContainsUuid identity (carriedMembers owned) = true →
          workspaceContainsUuid identity (searchedDocument workspace target) = true

/-- The entry has the identifier it is given. -/
theorem find?_fidgetScriptEntry {owned : Json} (h : owned.isObject = true) (id text : String) :
    (fidgetScriptEntry owned id text).find? "id" = some (.string id) := by
  unfold fidgetScriptEntry
  rw [Json.find?_set_of_ne _ (by decide), Json.find?_set_of_ne _ (by decide),
    Json.find?_set_of_ne _ (by decide), Json.find?_set_self h]

/-- It is fenced. -/
theorem entryFence_fidgetScriptEntry {owned : Json} (h : owned.isObject = true) (id : String)
    (hgenerated : (generateFw2051LiteralScript state target.address).success = true) :
    entryFence (fidgetScriptEntry owned id
      (generateFw2051LiteralScript state target.address).script.text) = .complete := by
  unfold entryFence
  rw [(Evaluator.enabled_fidgetScriptEntry h id _).2]
  exact inspectFidgetFence_generatedLiteral hgenerated

/-- What decides on the identifier of an exported entry is what the entry takes over. -/
theorem exportedEntry_iff {module owned : Json} (hexportable : Exportable workspace target module owned)
    (hgenerated : (generateFw2051LiteralScript state target.address).success = true)
    {id : String} {identity : List UInt8} (hidentity : parseUuidIdentity id.toList = some identity)
    (hfresh : workspaceContainsUuid identity (searchedDocument workspace target) = false) :
    ExportedEntry workspace target (generateFw2051LiteralScript state target.address).script.text
        (fidgetScriptEntry owned id
          (generateFw2051LiteralScript state target.address).script.text) ↔
      workspaceContainsUuid identity (carriedMembers owned) = false := by
  have hobject := isObject_of_taken hexportable.taken
  have hunique := @contains_withInitScripts_append identity _ _ _ hexportable.located
    hexportable.isObject (userScripts (workspace.targetScripts target))
    ((fidgetScriptEntry owned id
      (generateFw2051LiteralScript state target.address).script.text).set "id" .null)
  rw [contains_fidgetScriptEntry hobject] at hunique
  constructor
  · -- the entry's own identifier is the fresh one, so uniqueness leaves the carried members
    intro hentry
    obtain ⟨id', identity', hid, hidentity', hnone⟩ := hentry.unique
    rw [find?_fidgetScriptEntry hobject] at hid
    cases hid
    cases hidentity.symm.trans hidentity'
    rw [hunique, Bool.or_eq_false_iff] at hnone
    exact hnone.2
  · intro hcarried
    refine ⟨entryFence_fidgetScriptEntry hobject id hgenerated, ?_,
      (Evaluator.enabled_fidgetScriptEntry hobject id _).2, id, identity,
      find?_fidgetScriptEntry hobject id _, hidentity, ?_⟩
    · have howner : ((owned.set "id" (.string id)).set "name"
          (.string fidgetTunedFrontendScriptName)).isObject = true := by
        rw [Json.isObject_set, Json.isObject_set, hobject]
      unfold fidgetScriptEntry
      rw [Json.find?_set_of_ne _ (by decide), Json.find?_set_self howner]
    · rw [hunique, hcarried, Bool.or_false]
      exact hfresh

/-! ### Exporting a copy

An export of the copy finds its own script as the earlier one, and replaces it by one that differs
in the identifier at most. -/

/-- Made of an exported entry, another one differs in its identifier. -/
theorem fidgetScriptEntry_again {owned : Json} (h : owned.isObject = true) (id id' text : String) :
    fidgetScriptEntry (fidgetScriptEntry owned id text) id' text =
      (fidgetScriptEntry owned id text).set "id" (.string id') := by
  have hset {owner : Json} (howner : owner.isObject = true) (key : String) (value : Json) :
      (owner.set key value).isObject = true := (Json.isObject_set ..).trans howner
  have hid := hset h "id" (.string id)
  have hname := Json.holds_set hid "name" (.string fidgetTunedFrontendScriptName)
  have henabled := Json.holds_set (hset hid "name" (.string fidgetTunedFrontendScriptName)) "enabled"
    (.boolean true)
  have htext := Json.holds_set (hset (hset hid "name" (.string fidgetTunedFrontendScriptName))
    "enabled" (.boolean true)) "vme_script" (.string text)
  have hname' := ((hname.set (by decide : "enabled" ≠ "name") (.boolean true)).set
    (by decide : "vme_script" ≠ "name") (.string text)).set (by decide : "id" ≠ "name") (.string id')
  have henabled' := (henabled.set (by decide : "vme_script" ≠ "enabled") (.string text)).set
    (by decide : "id" ≠ "enabled") (.string id')
  have htext' := htext.set (by decide : "id" ≠ "vme_script") (.string id')
  show ((((fidgetScriptEntry owned id text).set "id" (.string id')).set "name" _).set "enabled"
    _).set "vme_script" _ = _
  unfold fidgetScriptEntry
  rw [hname'.set_eq, henabled'.set_eq, htext'.set_eq]

/-- The way to the module leads through the same values after a change of it. -/
theorem targetModule_modifyModule {document module : Json}
    (h : targetModule document target = .ok module) (f : Json → Json) :
    targetModule (document.modifyModule target.eventIndex target.moduleIndex f) target =
      .ok (f module) := by
  have hkey {value found : Json} {key : String} (hfound : value.find? key = some found) :
      atKey value key = .ok found := by
    unfold atKey
    rw [Json.isObject_of_find? hfound, hfound]
    rfl
  have hindex {value found : Json} {index : Nat} (hfound : value.elements[index]? = some found) :
      atIndex value index = .ok found := by
    obtain ⟨elements, rfl⟩ := Json.eq_array_of_getElem? hfound
    unfold atIndex
    rw [hfound]
    rfl
  -- the path to the module is followed once in the old document and once in the new one
  obtain ⟨daq, events, event, modules, hdaq, hevents, hevent, hmodules, hmodule⟩ :=
    exists_of_targetModule h
  have hdaq' := find?_modifyModule target.eventIndex target.moduleIndex f document
  rw [hdaq, Option.map_some] at hdaq'
  have hevents' : (daq.modifyMember "events" fun events => events.modifyElement target.eventIndex
      (modifiedEvent target.moduleIndex f)).find? "events" =
        some (events.modifyElement target.eventIndex (modifiedEvent target.moduleIndex f)) := by
    rw [Json.find?_modifyMember, if_pos rfl, hevents]
    rfl
  have hevent' : (events.modifyElement target.eventIndex
      (modifiedEvent target.moduleIndex f)).elements[target.eventIndex]? =
        some (modifiedEvent target.moduleIndex f event) := by
    rw [Json.elements_modifyElement, List.getElem?_modify_eq, hevent]
    rfl
  have hmodules' : (modifiedEvent target.moduleIndex f event).find? "modules" =
      some (modules.modifyElement target.moduleIndex f) := by
    rw [modifiedEvent, Json.find?_modifyMember, if_pos rfl, hmodules]
    rfl
  have hmodule' : (modules.modifyElement target.moduleIndex f).elements[target.moduleIndex]? =
      some (f module) := by
    rw [Json.elements_modifyElement, List.getElem?_modify_eq, hmodule]
    rfl
  simp only [targetModule, bind, Except.bind, hkey hdaq', hkey hevents', hindex hevent',
    hkey hmodules', hindex hmodule']

/-- Behind entries that are not between fences, the one that is. -/
theorem findOwnedScript_append {scripts : List Json} {entry : Json}
    (hscripts : ∀ script ∈ scripts, entryFence script = .none)
    (hentry : entryFence entry = .complete) (n : Nat) :
    findOwnedScript none ((scripts ++ [entry]).zipIdx n) = .ok (some (n + scripts.length)) := by
  induction scripts generalizing n with
  | nil =>
      rw [List.nil_append, List.zipIdx_cons, findOwnedScript]
      simp only [hentry]
      rfl
  | cons script scripts ih =>
      rw [List.cons_append, List.zipIdx_cons, findOwnedScript]
      simp only [hscripts script List.mem_cons_self]
      rw [ih (fun other hother => hscripts other (List.mem_cons_of_mem _ hother)),
        List.length_cons, Nat.add_assoc, Nat.add_comm 1]

/-- The scripts of the user are not. -/
theorem entryFence_userScripts {module owned : Json}
    (h : Exportable workspace target module owned) :
    ∀ script ∈ userScripts (workspace.targetScripts target), entryFence script = .none := by
  obtain ⟨ownedIndex, hfound, -⟩ := h.owned
  rcases findOwnedScript_eq_ok hfound with ⟨-, hnone⟩ | ⟨-, before, taken, after, heq, -, hcomplete,
    hnone⟩
  · rw [userScripts_of_none hnone]
    exact hnone
  · rw [heq, userScripts_append_owned hcomplete hnone]
    exact hnone

/-- A copy can be exported again, and it is its own entry that is replaced. -/
theorem exportable_copy {module owned : Json} (h : Exportable workspace target module owned)
    {entry : Json} (hentry : entryFence entry = .complete) :
    let scripts := userScripts (workspace.targetScripts target) ++ [entry]
    let copy := workspace.withInitScripts target scripts
    copy.targetScripts target = scripts ∧
      Exportable copy target (module.setInitScripts scripts) entry := by
  intro scripts copy
  have hmodule : targetModule copy.json target = .ok (module.setInitScripts scripts) :=
    targetModule_modifyModule h.located _
  have hscripts : (module.setInitScripts scripts).find? "initScripts" = some (.array scripts) :=
    Json.find?_set_self h.isObject _ _
  have htarget : copy.targetScripts target = scripts :=
    targetScripts_of_targetModule hmodule (by rw [hscripts]; rfl)
  refine ⟨htarget, hmodule, (Json.isObject_set ..).trans h.isObject, ?_,
    some (0 + (userScripts (workspace.targetScripts target)).length), ?_, ?_⟩
  · rw [hscripts, htarget]
    rfl
  · rw [htarget]
    exact findOwnedScript_append (entryFence_userScripts h) hentry 0
  · rw [htarget, Option.bind_some, Nat.zero_add, List.getElem?_append_right (Nat.le_refl _),
      Nat.sub_self]
    rfl

/-- Without its entry, a copy has the scripts of the user. -/
theorem userScripts_append_entry {module owned : Json} (h : Exportable workspace target module owned)
    {entry : Json} (hentry : entryFence entry = .complete) :
    userScripts (userScripts (workspace.targetScripts target) ++ [entry]) =
      userScripts (workspace.targetScripts target) := by
  rw [userScripts_append_owned hentry, List.append_nil]
  rw [List.append_nil]
  exact entryFence_userScripts h

/-- But for what is taken over from an earlier entry, a copy is faithful. -/
theorem faithfulCopy_iff {module owned : Json}
    (hgenerated : (generateFw2051LiteralScript state target.address).success = true)
    (hexportable : Exportable workspace target module owned) {id : String}
    {identity : List UInt8} (hidentity : parseUuidIdentity id.toList = some identity)
    (hfresh : workspaceContainsUuid identity (searchedDocument workspace target) = false) :
    let entry := fidgetScriptEntry owned id
      (generateFw2051LiteralScript state target.address).script.text
    FaithfulCopy workspace target state
        (workspace.withInitScripts target
          (userScripts (workspace.targetScripts target) ++ [entry])) entry ↔
      workspaceContainsUuid identity (carriedMembers owned) = false := by
  intro entry
  have hobject := isObject_of_taken hexportable.taken
  have hfence : entryFence entry = .complete := entryFence_fidgetScriptEntry hobject id hgenerated
  obtain ⟨hscripts, hcopy⟩ := exportable_copy hexportable hfence
  rw [← exportedEntry_iff hexportable hgenerated hidentity hfresh]
  refine ⟨fun h => h.added, fun hentry => ⟨?_, hscripts, hentry, ?_⟩⟩
  · exact MvmeWorkspace.withInitScripts_withInitScripts _
  · intro dump generator hsuccess
    obtain ⟨hfound', hgenerated', module', owned', hexportable', hid⟩ := exported_of_success hsuccess
    obtain ⟨-, -, htext⟩ := @export_of_exportable _ _ dump _ _ _ _ hfound' hgenerated' hcopy hid
    refine ⟨uniqueFidgetScriptId (searchedDocument (workspace.withInitScripts target
      (userScripts (workspace.targetScripts target) ++ [entry])) target) generator, ?_⟩
    rw [htext, exportedScripts, hscripts, userScripts_append_entry hexportable hfence,
      fidgetScriptEntry_again hobject]

/-- A copy is read back as the workspace with the exported scripts. -/
theorem parse_export {module owned : Json} (hfound : FoundAt workspace target)
    (hgenerated : (generateFw2051LiteralScript state target.address).success = true)
    (hexportable : Exportable workspace target module owned)
    (hid : uniqueFidgetScriptId (searchedDocument workspace target) generator ≠ "")
    {parseJson : String → Except String Json}
    (hparse : Evaluator.ReadsBack dump parseJson workspace target state generator) :
    parseMvmeWorkspace parseJson
        (exportFw2051MvmeWorkspaceCopy dump workspace target state generator).text =
      .ok (workspace.withInitScripts target (exportedScripts workspace target owned
        (uniqueFidgetScriptId (searchedDocument workspace target) generator)
          (generateFw2051LiteralScript state target.address).script.text)) := by
  obtain ⟨-, ⟨replaced, hscripts⟩, htext⟩ :=
    @export_of_exportable _ _ dump _ _ _ _ hfound hgenerated hexportable hid
  rw [htext, parseMvmeWorkspace, hparse _ _ hscripts]
  exact mvmeWorkspaceOfJson_json _

end Copies

section Faithful

variable {dump : Json → String} {workspace : MvmeWorkspace} {target : MvmeWorkspaceTarget}
  {state : Fw2051WorkspaceStartingState}

/-- What is carried over can be what a generator gives. -/
theorem CopiesFaithfully.carriesNothingNew (hfaithful : CopiesFaithfully dump workspace target state)
    {generator : Nat → Option String}
    (hsuccess : (exportFw2051MvmeWorkspaceCopy dump workspace target state generator).success = true) :
    CarriesNothingNew workspace target := by
  obtain ⟨hfound, hgenerated, module, owned, hexportable, -⟩ := exported_of_success hsuccess
  intro taken htaken hcomplete id identity hversion hidentity hcarried
  by_contra hnew
  have hfresh : workspaceContainsUuid identity (searchedDocument workspace target) = false :=
    Bool.not_eq_true _ |>.mp hnew
  -- The generator happens to give that identifier.
  have hchosen := uniqueFidgetScriptId_const hversion hidentity hfresh
  have hid : uniqueFidgetScriptId (searchedDocument workspace target) (fun _ => some id) ≠ "" := by
    rw [hchosen]
    exact ne_empty_of_isUuidV4 hversion
  obtain ⟨hexported, ⟨replaced, hscripts⟩, -⟩ :=
    @export_of_exportable _ _ dump _ _ _ _ hfound hgenerated hexportable hid
  rw [hchosen] at hscripts
  have hreads : Evaluator.ReadsBack dump (fun _ => .ok (workspace.withInitScripts target
      (exportedScripts workspace target owned id
        (generateFw2051LiteralScript state target.address).script.text)).json) workspace target
        state (fun _ => some id) := by
    intro scripts replaced' hscripts'
    cases hscripts.symm.trans hscripts'
    rfl
  obtain ⟨copy, entry, hcopy, hcopied⟩ := hfaithful _ _ hexported hreads
  have hread := parse_export hfound hgenerated hexportable hid hreads
  rw [hchosen] at hread
  obtain rfl := Except.ok.inj (hcopy.symm.trans hread)
  -- The entry of the copy is the exported one.
  have hobject := isObject_of_taken hexportable.taken
  obtain ⟨hentries, -⟩ := exportable_copy hexportable
    (@entryFence_fidgetScriptEntry _ _ _ hobject id hgenerated)
  have hentry := hcopied.scripts.symm.trans hentries
  obtain rfl := List.cons.inj (List.append_cancel_left hentry) |>.1
  have hnone := (faithfulCopy_iff hgenerated hexportable hidentity hfresh).mp hcopied
  obtain ⟨ownedIndex, hindex, rfl⟩ := hexportable.owned
  have hsame := (replaced_of_findOwnedScript hindex).2.fenced taken htaken hcomplete
  rw [← hsame, hcarried] at hnone
  cases hnone

/-- Where nothing new is carried over, the identifier that is new to the rest is new. -/
theorem CarriesNothingNew.copiesFaithfully (hnothing : CarriesNothingNew workspace target) :
    CopiesFaithfully dump workspace target state := by
  intro parseJson generator hsuccess hparse
  obtain ⟨hfound, hgenerated, module, owned, hexportable, hid⟩ := exported_of_success hsuccess
  have hread := parse_export hfound hgenerated hexportable hid hparse
  obtain ⟨hversion, identity, hidentity, hfresh⟩ := uniqueFidgetScriptIdFrom_spec hid
  refine ⟨_, fidgetScriptEntry owned _ _, hread,
    (faithfulCopy_iff hgenerated hexportable hidentity hfresh).mpr ?_⟩
  rcases hexportable.taken with ⟨rfl, -⟩ | ⟨hmem, hcomplete⟩
  · rfl
  · cases hcase : workspaceContainsUuid identity (carriedMembers owned) with
    | false => rfl
    | true =>
        have hold := hnothing owned hmem hcomplete _ identity hversion hidentity hcase
        cases hold.symm.trans hfresh

end Faithful

/-- Where a workspace can be exported at all, every copy of it is a faithful one exactly if an earlier
script between fences has no identifier inside that the rest of the document does not have. -/
theorem copiesFaithfully_iff (dump : Json → String) (workspace : MvmeWorkspace)
    (target : MvmeWorkspaceTarget) (state : Fw2051WorkspaceStartingState)
    (hexports : ∃ generator,
      (exportFw2051MvmeWorkspaceCopy dump workspace target state generator).success = true) :
    CopiesFaithfully dump workspace target state ↔ CarriesNothingNew workspace target := by
  obtain ⟨generator, hsuccess⟩ := hexports
  constructor
  · exact fun hfaithful => hfaithful.carriesNothingNew hsuccess
  · exact fun hnothing => hnothing.copiesFaithfully

/-- An earlier script between fences, with an identifier inside. -/
def carryingScript : Json :=
  .object [("id", .string ""),
    ("vme_script", .string (fidgetTunedFrontendFenceBegin ++ "\n" ++ fidgetTunedFrontendFenceEnd)),
    ("origin", .object [("id", .string "01234567-89ab-4def-8123-0123456789ab")])]

/-- A script of the user's with that identifier. -/
def originScript : Json :=
  .object [("id", .string "01234567-89ab-4def-8123-0123456789ab"),
    ("vme_script", .string "0x6100 0")]

/-- The identifier that is carried over is that of another script, which stays. -/
theorem carriesNothingNew_originScript : CarriesNothingNew
    (Evaluator.exampleWorkspace [originScript, carryingScript]) Evaluator.exampleTarget := by
  intro owned howned hcomplete id identity _ _ hcarried
  have hscripts : owned ∈ [originScript, carryingScript] := howned
  rcases List.mem_cons.mp hscripts with rfl | hmem
  · exact absurd hcomplete (by decide +kernel)
  · obtain rfl := List.mem_singleton.mp hmem
    have hmembers : carriedMembers carryingScript = .object
        [("origin", .object [("id", .string "01234567-89ab-4def-8123-0123456789ab")])] := by
      simp [carriedMembers, carryingScript, Json.members]
    have hparsed : parseUuidIdentity "01234567-89ab-4def-8123-0123456789ab".toList =
        some [0x01, 0x23, 0x45, 0x67, 0x89, 0xab, 0x4d, 0xef, 0x81, 0x23, 0x01, 0x23, 0x45, 0x67,
          0x89, 0xab] := by
      decide +kernel
    rw [hmembers] at hcarried
    simp only [workspaceContainsUuid, membersContainUuid, hparsed, Option.some.injEq,
      decide_true, Bool.true_and, Bool.or_false, decide_eq_true_eq, (by decide : "origin" ≠ "id"),
      decide_false, Bool.false_and, Bool.false_or] at hcarried
    subst hcarried
    decide +kernel

/-- With nothing new inside, every copy has an identifier of its own. -/
theorem copiesFaithfully_iff_example :
    CopiesFaithfully (Evaluator.printJson 0)
      (Evaluator.exampleWorkspace [originScript, carryingScript]) Evaluator.exampleTarget
        Evaluator.plainState :=
  (copiesFaithfully_iff (Evaluator.printJson 0)
    (Evaluator.exampleWorkspace [originScript, carryingScript]) Evaluator.exampleTarget
      Evaluator.plainState ⟨fun _ => some "89abcdef-0123-4567-89ab-0123456789ab",
        by decide +kernel⟩).mpr carriesNothingNew_originScript

/-- The identifier inside is not looked for, and may be given again. -/
theorem copiesFaithfully_counterexample :
    ¬ CopiesFaithfully (Evaluator.printJson 0) (Evaluator.exampleWorkspace [carryingScript])
      Evaluator.exampleTarget Evaluator.plainState := by
  intro hfaithful
  have hnothing := hfaithful.carriesNothingNew
    (by decide +kernel : (exportFw2051MvmeWorkspaceCopy (Evaluator.printJson 0)
      (Evaluator.exampleWorkspace [carryingScript]) Evaluator.exampleTarget Evaluator.plainState
      Evaluator.exampleScriptIds).success = true)
  have helsewhere := hnothing carryingScript (List.mem_cons_self) (by decide +kernel)
    "01234567-89ab-4def-8123-0123456789ab" _ (by decide +kernel) rfl (by decide +kernel)
  revert helsewhere
  decide +kernel

end MvmeWorkspaceExport

end Fidget
