import Fidget.Core.MvmeInitScript.Located
import Fidget.Core.MvmeWorkspaceExport

/-!
# Copying a workspace

`ExportFw2051MvmeWorkspaceCopy` of `core/MvmeWorkspaceExport.cpp`: the literal script becomes the
last init script of its module in a copy of the document. One earlier script between the same
fences is replaced; every other script stays as it is.

## Main results

- `inspectFidgetFence`: which scripts are the exporter's own.
- `uniqueFidgetScriptId`: an identifier that the document does not have.
- `exportFw2051MvmeWorkspaceCopy`: the copy.
-/

namespace Fidget

open MvmeInitScript

namespace MvmeWorkspaceExport

/-! ### Fences

A script is between fences if each marker occurs once and they stand at its two ends, blanks apart.
Any other text with a marker in it is malformed. -/

/-- How often a marker occurs, each occurrence after the one before it. The first argument counts
the characters of the last occurrence that are still to be skipped. -/
def occurrencesFrom (marker : Text) : Nat → Text → Nat
  | _, [] => 0
  | skip + 1, _ :: text => occurrencesFrom marker skip text
  | 0, c :: text =>
    if marker.isPrefixOf (c :: text) then 1 + occurrencesFrom marker (marker.length - 1) text
    else occurrencesFrom marker 0 text

/-- How often a marker stands in a text, without overlap. -/
def occurrenceCount (text marker : Text) : Nat := occurrencesFrom marker 0 text

def isFenceBlank (c : Char) : Bool := c = ' ' || c = '\t' || c = '\r' || c = '\n'

def trimFence (text : Text) : Text :=
  ((text.dropWhile isFenceBlank).reverse.dropWhile isFenceBlank).reverse

/-- What a script has of the fence: nothing, all of it, or something else. -/
inductive FenceState where
  | none
  | complete
  | malformed
  deriving DecidableEq, Repr

/-- Both markers once, at the two ends of the text. -/
def inspectFidgetFence (text : Text) : FenceState :=
  let beginMarker := fidgetTunedFrontendFenceBegin.toList
  let endMarker := fidgetTunedFrontendFenceEnd.toList
  let beginCount := occurrenceCount text beginMarker
  let endCount := occurrenceCount text endMarker
  if beginCount = 0 ∧ endCount = 0 then .none
  else if beginCount ≠ 1 ∨ endCount ≠ 1 then .malformed
  else
    let trimmed := trimFence text
    if trimmed.length < beginMarker.length + endMarker.length
        ∨ trimmed.take beginMarker.length ≠ beginMarker
        ∨ trimmed.drop (trimmed.length - endMarker.length) ≠ endMarker then
      .malformed
    else if occurrenceCount (trimmed.drop beginMarker.length) endMarker = 0 then .malformed
    else .complete

/-- The fence of an entry that has a text. -/
def entryFence (candidate : Json) : FenceState :=
  match candidate.find? "vme_script" with
  | some (.string payload) => inspectFidgetFence payload.toList
  | _ => .none

/-- The loop over the entries: where the one entry between fences is. -/
def findOwnedScript (ownedIndex : Option Nat) :
    List (Json × Nat) → Except String (Option Nat)
  | [] => .ok ownedIndex
  | (candidate, index) :: entries =>
    match entryFence candidate with
    | .malformed => .error "An existing FIDGET tuned-settings fence is malformed."
    | .complete =>
      if ownedIndex.isSome then .error "More than one FIDGET tuned-settings fence is present."
      else findOwnedScript (some index) entries
    | .none => findOwnedScript ownedIndex entries

/-! ### Identifiers

The document is searched for an identifier at every depth. Identifiers are compared by the bytes
that they spell, so that two spellings of one are the same. -/

def hexadecimalNibble (c : Char) : Option UInt8 :=
  if '0' ≤ c ∧ c ≤ '9' then some (c.toNat - '0'.toNat).toUInt8
  else if 'a' ≤ c ∧ c ≤ 'f' then some (c.toNat - 'a'.toNat + 10).toUInt8
  else if 'A' ≤ c ∧ c ≤ 'F' then some (c.toNat - 'A'.toNat + 10).toUInt8
  else none

/-- The bytes that the digits of an identifier spell. -/
def uuidBytes : List UInt8 → List UInt8
  | high :: low :: nibbles => (high <<< 4 ||| low) :: uuidBytes nibbles
  | _ => []

/-- The sixteen bytes of an identifier, in braces or without. -/
def parseUuidIdentity (text : Text) : Option (List UInt8) :=
  let value :=
    if text.length = 38 ∧ text.head? = some '{' ∧ text.getLast? = some '}' then
      (text.drop 1).dropLast
    else text
  if value.length ≠ 36 ∨ [8, 13, 18, 23].any (fun index => value[index]? ≠ some '-') then none
  else
    let digits := (value.zipIdx.filter fun entry => entry.2 ∉ [8, 13, 18, 23]).map (·.1)
    (digits.mapM hexadecimalNibble).map uuidBytes

/-- The version and the variant are in the bytes. -/
def isUuidV4 (text : Text) : Bool :=
  match parseUuidIdentity text with
  | none => false
  | some identity =>
    identity.getD 6 0 &&& 0xF0 == 0x40 && identity.getD 8 0 &&& 0xC0 == 0x80

mutual

/-- An identifier is sought under every `id` of the document. -/
def workspaceContainsUuid (sought : List UInt8) : Json → Bool
  | .object members => membersContainUuid sought members
  | .array elements => elementsContainUuid sought elements
  | _ => false

def membersContainUuid (sought : List UInt8) : List (String × Json) → Bool
  | [] => false
  | (key, value) :: members =>
    (key = "id" &&
      match value with
      | .string id => parseUuidIdentity id.toList = some sought
      | _ => false) ||
    workspaceContainsUuid sought value || membersContainUuid sought members

def elementsContainUuid (sought : List UInt8) : List Json → Bool
  | [] => false
  | element :: elements =>
    workspaceContainsUuid sought element || elementsContainUuid sought elements

end

def maximumScriptIdAttempts : Nat := 64

/-- The candidates come from a generator, `none` where it throws. -/
def uniqueFidgetScriptIdFrom (document : Json) (generator : Nat → Option String) :
    (attempts : Nat) → (attempt : Nat) → String
  | 0, _ => ""
  | attempts + 1, attempt =>
    match generator attempt with
    | none => ""
    | some candidate =>
      if !isUuidV4 candidate.toList then ""
      else
        match parseUuidIdentity candidate.toList with
        | none => ""
        | some identity =>
          if !workspaceContainsUuid identity document then candidate
          else uniqueFidgetScriptIdFrom document generator attempts (attempt + 1)

/-- The generator is asked again until its identifier is new, so many times. -/
def uniqueFidgetScriptId (document : Json) (generator : Nat → Option String) : String :=
  uniqueFidgetScriptIdFrom document generator maximumScriptIdAttempts 0

/-! ### The copy

The path to the module is followed in the document, with the exceptions of the JSON library where it
is not as expected. -/

def jsonTypeName : Json → String
  | .null => "null"
  | .boolean _ => "boolean"
  | .string _ => "string"
  | .array _ => "array"
  | .object _ => "object"
  | _ => "number"

/-- `at` with a key, and the exceptions of the JSON library. -/
def atKey (value : Json) (key : String) : Except String Json :=
  if !value.isObject then
    .error ("[json.exception.type_error.304] cannot use at() with " ++ jsonTypeName value)
  else
    match value.find? key with
    | none => .error ("[json.exception.out_of_range.403] key '" ++ key ++ "' not found")
    | some found => .ok found

/-- `at` with an index. -/
def atIndex (value : Json) (index : Nat) : Except String Json :=
  if !value.isArray then
    .error ("[json.exception.type_error.304] cannot use at() with " ++ jsonTypeName value)
  else
    match value.elements[index]? with
    | none =>
      .error ("[json.exception.out_of_range.401] array index " ++ toString index
        ++ " is out of range")
    | some found => .ok found

/-- The module of the target in a document. -/
def targetModule (document : Json) (target : MvmeWorkspaceTarget) : Except String Json := do
  let daqConfig ← atKey document "DAQConfig"
  let events ← atKey daqConfig "events"
  let event ← atIndex events target.eventIndex
  let modules ← atKey event "modules"
  atIndex modules target.moduleIndex

/-- The entry that is added, with what an earlier one had besides. -/
def fidgetScriptEntry (owned : Json) (id text : String) : Json :=
  (((owned.set "id" (.string id)).set "name" (.string fidgetTunedFrontendScriptName)).set "enabled"
    (.boolean true)).set "vme_script" (.string text)

end MvmeWorkspaceExport

open MvmeWorkspaceExport

/-- The scripts of the module without the one that is replaced, that one, and the whole document,
or the result that refuses the export. -/
def exportedFw2051Scripts (workspace : MvmeWorkspace) (target : MvmeWorkspaceTarget)
    (text : String) (scriptIdGenerator : Nat → Option String) :
    Except MvmeWorkspaceCopyExportResult (List Json × Bool) :=
  let exception (what : String) : MvmeWorkspaceCopyExportResult :=
    { message := "The preserved workspace cannot accept the export: " ++ what }
  match targetModule workspace.json target with
  | .error what => .error (exception what)
  | .ok module =>
    if !module.isObject then
      -- A located module is an object.
      .error (exception ("[json.exception.type_error.305] cannot use operator[] with a string "
        ++ "argument with " ++ jsonTypeName module))
    else
      match (module.find? "initScripts").getD (.array []) with
      | .array scripts =>
        match findOwnedScript none scripts.zipIdx with
        | .error message => .error { message }
        | .ok ownedIndex =>
          let remaining := (ownedIndex.map scripts.eraseIdx).getD scripts
          let document := (workspace.withInitScripts target remaining).json
          let id := uniqueFidgetScriptId document scriptIdGenerator
          if id = "" then
            .error
              { replacedExistingFidgetScript := ownedIndex.isSome
                message := "Could not allocate a unique UUID-v4 identifier for the "
                  ++ "FIDGET script." }
          else
            let owned := (ownedIndex.bind (scripts[·]?)).getD (.object [])
            .ok (remaining ++ [fidgetScriptEntry owned id text], ownedIndex.isSome)
      | _ => .error { message := "The target initScripts field is not an array." }

/-- `dump` is the JSON library's, with an indentation of two. -/
def exportFw2051MvmeWorkspaceCopy (dump : Json → String) (workspace : MvmeWorkspace)
    (target : MvmeWorkspaceTarget) (startingState : Fw2051WorkspaceStartingState)
    (scriptIdGenerator : Nat → Option String) : MvmeWorkspaceCopyExportResult :=
  let located := workspace.findEnabledMdpp32ScpTarget target.address
  let notLocated : MvmeWorkspaceCopyExportResult :=
    { message := "The workspace target is no longer the unique enabled "
        ++ "mdpp32_scp module at its normalized address." }
  match located.status, located.target with
  | .found, some found =>
    if found.eventIndex ≠ target.eventIndex ∨ found.moduleIndex ≠ target.moduleIndex then notLocated
    else
      let script := generateFw2051LiteralScript startingState target.address
      if !script.success then { message := script.message }
      else
        match exportedFw2051Scripts workspace target script.script.text scriptIdGenerator with
        | .error result => result
        | .ok (scripts, replaced) =>
          { success := true
            replacedExistingFidgetScript := replaced
            message :=
              if replaced then "Replaced the prior FIDGET fenced script in a copied workspace."
              else "Appended one FIDGET fenced script to a copied workspace."
            text := dump (workspace.withInitScripts target scripts).json ++ "\n"
            valueCount := script.valueCount }
  | _, _ => notLocated

/-! ### What is exported

An export that succeeds has taken at most one script out and put one in. -/

namespace MvmeWorkspaceExport

/-- The scripts that are not between fences. -/
def userScripts (scripts : List Json) : List Json :=
  scripts.filter fun script => entryFence script ≠ .complete

/-- At most one entry is between fences, and that is the one that is found. -/
theorem findOwnedScript_eq_ok {scripts : List Json} {n : Nat} {ownedIndex result : Option Nat}
    (h : findOwnedScript ownedIndex (scripts.zipIdx n) = .ok result) :
    (result = ownedIndex ∧ ∀ script ∈ scripts, entryFence script = .none) ∨
      ownedIndex = none ∧ ∃ before owned after, scripts = before ++ owned :: after ∧
        result = some (n + before.length) ∧ entryFence owned = .complete ∧
        ∀ script ∈ before ++ after, entryFence script = .none := by
  induction scripts generalizing n ownedIndex with
  | nil =>
      cases h
      exact .inl ⟨rfl, fun _ hscript => nomatch hscript⟩
  | cons script scripts ih =>
      rw [List.zipIdx_cons, findOwnedScript] at h
      split at h
      · cases h
      next hcomplete =>
        split at h
        · cases h
        -- the first owned entry: it is the result, and none may follow
        next hfirst =>
          rcases ih h with ⟨rfl, hnone⟩ | ⟨hsome, -⟩
          · exact .inr ⟨Option.not_isSome_iff_eq_none.mp hfirst, [], script, scripts, rfl, rfl,
              hcomplete, hnone⟩
          · cases hsome
      -- an entry without a fence is passed over
      next hscript =>
        rcases ih h with ⟨rfl, hnone⟩ | ⟨hfirst, before, owned, after, rfl, rfl, hcomplete, hnone⟩
        · refine .inl ⟨rfl, fun other hother => ?_⟩
          rcases List.mem_cons.mp hother with rfl | hother
          · exact hscript
          · exact hnone other hother
        · refine .inr ⟨hfirst, script :: before, owned, after, rfl, ?_, hcomplete, ?_⟩
          · rw [List.length_cons, Nat.add_comm before.length 1, Nat.add_assoc]
          · intro other hother
            rcases List.mem_cons.mp hother with rfl | hother
            · exact hscript
            · exact hnone other hother

/-- Without a fenced script all scripts are the user's. -/
theorem userScripts_of_none {scripts : List Json} (h : ∀ script ∈ scripts, entryFence script = .none) :
    userScripts scripts = scripts := by
  refine List.filter_eq_self.mpr fun script hscript => ?_
  rw [h script hscript]
  rfl

/-- The fenced script is left out. -/
theorem userScripts_append_owned {before after : List Json} {owned : Json}
    (hcomplete : entryFence owned = .complete)
    (hnone : ∀ script ∈ before ++ after, entryFence script = .none) :
    userScripts (before ++ owned :: after) = before ++ after := by
  have hrest := userScripts_of_none hnone
  unfold userScripts at hrest ⊢
  rw [List.filter_append] at hrest ⊢
  rw [List.filter_cons_of_neg (by rw [hcomplete]; decide), hrest]

/-- The entry that an exported one is made of: the one between fences, if there is one. -/
structure Replaced (scripts : List Json) (owned : Json) : Prop where
  isObject : owned.isObject = true
  table : jsonVariableTable owned "variable_table" = .ok [] ∨
    owned ∈ scripts ∧ entryFence owned = .complete
  fenced : ∀ script ∈ scripts, entryFence script = .complete → script = owned

/-- A script has its text as a member. -/
theorem isObject_of_fenced {script : Json} (h : entryFence script = .complete) :
    script.isObject = true := by
  unfold entryFence at h
  split at h
  next hfound => exact Json.isObject_of_find? hfound
  · cases h

/-- The remaining scripts are the user's, and the replaced entry is an object. -/
theorem replaced_of_findOwnedScript {scripts : List Json} {ownedIndex : Option Nat}
    (h : findOwnedScript none scripts.zipIdx = .ok ownedIndex) :
    (ownedIndex.map scripts.eraseIdx).getD scripts = userScripts scripts ∧
      Replaced scripts ((ownedIndex.bind (scripts[·]?)).getD (.object [])) := by
  rcases findOwnedScript_eq_ok h with ⟨rfl, hnone⟩ | ⟨-, before, owned, after, rfl, rfl, hcomplete,
    hnone⟩
  · refine ⟨(userScripts_of_none hnone).symm, rfl, .inl rfl, fun script hscript hcomplete => ?_⟩
    cases (hnone script hscript).symm.trans hcomplete
  · have howned : ((some (0 + before.length)).bind ((before ++ owned :: after)[·]?)).getD
        (.object []) = owned := by
      rw [Nat.zero_add, Option.bind_some, List.getElem?_append_right (Nat.le_refl _), Nat.sub_self]
      rfl
    rw [howned, userScripts_append_owned hcomplete hnone, Nat.zero_add]
    refine ⟨?_, isObject_of_fenced hcomplete,
      .inr ⟨List.mem_append_right _ List.mem_cons_self, hcomplete⟩, fun script hscript hfenced => ?_⟩
    · show (before ++ owned :: after).eraseIdx before.length = before ++ after
      rw [List.eraseIdx_append_of_length_le (Nat.le_refl _), Nat.sub_self]
      rfl
    · rcases List.mem_append.mp hscript with hscript | hscript
      · cases (hnone script (List.mem_append_left _ hscript)).symm.trans hfenced
      rcases List.mem_cons.mp hscript with rfl | hscript
      · rfl
      · cases (hnone script (List.mem_append_right _ hscript)).symm.trans hfenced

end MvmeWorkspaceExport

open Evaluator in
/-- The exporter finds the module that the evaluation finds. -/
theorem targetModule_of_located {workspace : MvmeWorkspace} {target : MvmeWorkspaceTarget}
    {context : ScriptContext} {scripts : List Json} (h : Located workspace target context scripts) :
    targetModule workspace.json target = .ok context.module := by
  obtain ⟨events, hevents, hevent⟩ := h.event
  obtain ⟨modules, hmodules, hmodule⟩ := h.module
  have hkey {value found : Json} {key : String} (hfound : value.find? key = some found) :
      atKey value key = .ok found := by
    unfold atKey
    rw [Json.isObject_of_find? hfound, hfound]
    rfl
  have hindex {value found : Json} {index : Nat} (hfound : value.elements[index]? = some found) :
      atIndex value index = .ok found := by
    obtain ⟨elements, rfl⟩ := Json.eq_array_of_getElem? hfound
    unfold atIndex
    rw [hfound]
    rfl
  simp only [targetModule, bind, Except.bind, hkey h.daq, hkey hevents, hindex hevent,
    hkey hmodules, hindex hmodule]

open Evaluator in
/-- The exported scripts are those of the user and the new entry. -/
theorem exists_of_exportedFw2051Scripts {workspace : MvmeWorkspace} {target : MvmeWorkspaceTarget}
    {text : String} {scriptIdGenerator : Nat → Option String} {context : ScriptContext}
    {scripts : List Json} (hlocated : Located workspace target context scripts)
    {result : List Json × Bool}
    (h : exportedFw2051Scripts workspace target text scriptIdGenerator = .ok result) :
    ∃ owned id, Replaced scripts owned ∧
      result.1 = userScripts scripts ++ [fidgetScriptEntry owned id text] := by
  have hobject : ¬ (!context.module.isObject) = true := by
    rw [Json.isObject_of_find? hlocated.scripts]
    exact Bool.false_ne_true
  unfold exportedFw2051Scripts at h
  simp only [targetModule_of_located hlocated, if_neg hobject, hlocated.scripts,
    Option.getD_some] at h
  split at h
  · cases h
  next ownedIndex howned =>
    obtain ⟨hremaining, hreplaced⟩ := replaced_of_findOwnedScript howned
    rw [hremaining] at h
    split at h
    · cases h
    · cases h
      exact ⟨_, _, hreplaced, rfl⟩

/-- What refuses an export is no success. -/
theorem success_of_refused {workspace : MvmeWorkspace} {target : MvmeWorkspaceTarget}
    {text : String} {scriptIdGenerator : Nat → Option String}
    {result : MvmeWorkspaceCopyExportResult}
    (h : exportedFw2051Scripts workspace target text scriptIdGenerator = .error result) :
    ¬ result.success = true := by
  unfold exportedFw2051Scripts at h
  simp only at h
  split at h
  · cases h
    exact Bool.false_ne_true
  split at h
  · cases h
    exact Bool.false_ne_true
  split at h
  · split at h
    · cases h
      exact Bool.false_ne_true
    split at h
    · cases h
      exact Bool.false_ne_true
    · cases h
  · cases h
    exact Bool.false_ne_true

open Evaluator in
/-- An export that succeeds adds one entry to the user's scripts. -/
theorem exists_of_export {dump : Json → String} {workspace : MvmeWorkspace}
    {target : MvmeWorkspaceTarget} {startingState : Fw2051WorkspaceStartingState}
    {scriptIdGenerator : Nat → Option String} {context : ScriptContext} {scripts : List Json}
    (hlocated : Located workspace target context scripts)
    (h : (exportFw2051MvmeWorkspaceCopy dump workspace target startingState
      scriptIdGenerator).success = true) :
    (generateFw2051LiteralScript startingState target.address).success = true ∧
    ∃ owned id replaced, Replaced scripts owned ∧
      exportedFw2051Scripts workspace target
          (generateFw2051LiteralScript startingState target.address).script.text scriptIdGenerator =
        .ok (userScripts scripts ++ [fidgetScriptEntry owned id
          (generateFw2051LiteralScript startingState target.address).script.text], replaced) ∧
      (exportFw2051MvmeWorkspaceCopy dump workspace target startingState scriptIdGenerator).text =
        dump (workspace.withInitScripts target (userScripts scripts ++ [fidgetScriptEntry owned id
          (generateFw2051LiteralScript startingState target.address).script.text])).json ++ "\n" := by
  obtain ⟨found, hstatus, htarget, hevent, hmodule⟩ := hlocated.found
  have hindexes : ¬ (found.eventIndex ≠ target.eventIndex ∨
      found.moduleIndex ≠ target.moduleIndex) := by
    rw [hevent, hmodule]
    tauto
  unfold exportFw2051MvmeWorkspaceCopy at h ⊢
  simp only [hstatus, htarget, if_neg hindexes] at h ⊢
  split at h
  · cases h
  next hgenerated =>
    simp only [if_neg hgenerated]
    refine ⟨by simpa using hgenerated, ?_⟩
    cases hscripts : exportedFw2051Scripts workspace target
        (generateFw2051LiteralScript startingState target.address).script.text
        scriptIdGenerator with
    | error result =>
        rw [hscripts] at h
        exact absurd h (success_of_refused hscripts)
    | ok result =>
        obtain ⟨scripts', replaced⟩ := result
        obtain ⟨owned, id, hreplaced, rfl⟩ := exists_of_exportedFw2051Scripts hlocated hscripts
        exact ⟨owned, id, replaced, hreplaced, rfl, rfl⟩

end Fidget
