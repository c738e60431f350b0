import Fidget.Core.MvmeWorkspaceExport.Copy

/-!
# Identifiers in a document

Where in a document the identifiers are that `WorkspaceContainsUuid` finds, and which of them a
module with other init scripts has.

## Main results

- `contains_modifyModule`: what changing a module does to the identifiers of the document.
- `contains_fidgetScriptEntry`: which identifiers an exported entry has.
-/

namespace Fidget

namespace MvmeWorkspaceExport

/-! ### Members and elements

The search of the source goes through a document by two functions that call each other. Here it is
read as a statement about some member or some element. -/

/-- Whether a member is the identifier, or has it somewhere inside. -/
def memberContainsUuid (sought : List UInt8) (entry : String × Json) : Bool :=
  (entry.1 = "id" &&
    match entry.2 with
    | .string id => parseUuidIdentity id.toList = some sought
    | _ => false) ||
  workspaceContainsUuid sought entry.2

section Contains

variable {sought : List UInt8}

/-- Some member has it. -/
theorem membersContainUuid_eq (members : List (String × Json)) :
    membersContainUuid sought members = members.any (memberContainsUuid sought) := by
  induction members with
  | nil => rfl
  | cons entry members ih =>
      rw [List.any_cons, ← ih]
      obtain ⟨key, value⟩ := entry
      cases value <;> rfl

theorem elementsContainUuid_eq (elements : List Json) :
    elementsContainUuid sought elements = elements.any (workspaceContainsUuid sought) := by
  induction elements with
  | nil => rfl
  | cons element elements ih =>
      rw [elementsContainUuid.eq_2, ih, List.any_cons]

/-- An object has what its members have. -/
theorem workspaceContainsUuid_object (members : List (String × Json)) :
    workspaceContainsUuid sought (.object members) = members.any (memberContainsUuid sought) :=
  membersContainUuid_eq members

theorem workspaceContainsUuid_members {value : Json} (h : value.isObject = true) :
    value.members.any (memberContainsUuid sought) = workspaceContainsUuid sought value := by
  cases value with
  | object members => exact (workspaceContainsUuid_object members).symm
  | _ => cases h

/-- An array has what its elements have. -/
theorem workspaceContainsUuid_array (elements : List Json) :
    workspaceContainsUuid sought (.array elements) =
      elements.any (workspaceContainsUuid sought) :=
  elementsContainUuid_eq elements

/-- Away from the identifier of an object, a member counts for what is inside. -/
theorem memberContainsUuid_of_ne {key : String} (h : key ≠ "id") (value : Json) :
    memberContainsUuid sought (key, value) = workspaceContainsUuid sought value := by
  unfold memberContainsUuid
  rw [decide_eq_false h, Bool.false_and, Bool.false_or]

/-! ### Changes of a document

An export changes one place deep inside the document. What is found in the changed document was
there before, or is in what was put in. -/

section Changes

variable {f g : Json → Json} {extra : Prop}

/-- A change of a member that adds no more than something extra. -/
theorem contains_modifyMember {key : String} (hkey : key ≠ "id")
    (h : ∀ value, workspaceContainsUuid sought (f value) = true →
      workspaceContainsUuid sought (g value) = true ∨ extra) {value : Json}
    (hcontains : workspaceContainsUuid sought (value.modifyMember key f) = true) :
    workspaceContainsUuid sought (value.modifyMember key g) = true ∨ extra := by
  cases value with
  | object members =>
      simp only [Json.modifyMember, workspaceContainsUuid_object, List.any_eq_true] at hcontains ⊢
      obtain ⟨changed, hchanged, htest⟩ := hcontains
      obtain ⟨entry, hentry, rfl⟩ := List.mem_map.mp hchanged
      by_cases hsame : (entry.1 == key) = true
      · have hne : entry.1 ≠ "id" := fun hid => hkey ((beq_iff_eq.mp hsame).symm.trans hid)
        rw [if_pos hsame, memberContainsUuid_of_ne hne] at htest
        rcases h entry.2 htest with hcontains | hextra
        · refine .inl ⟨(entry.1, g entry.2), List.mem_map.mpr ⟨entry, hentry, if_pos hsame⟩, ?_⟩
          rw [memberContainsUuid_of_ne hne]
          exact hcontains
        · exact .inr hextra
      · rw [if_neg hsame] at htest
        exact .inl ⟨entry, List.mem_map.mpr ⟨entry, hentry, if_neg hsame⟩, htest⟩
  | _ => exact .inl hcontains

/-- Changing an element changes nothing elsewhere. -/
theorem contains_modifyElement {index : Nat}
    (h : ∀ value, workspaceContainsUuid sought (f value) = true →
      workspaceContainsUuid sought (g value) = true ∨ extra) {value : Json}
    (hcontains : workspaceContainsUuid sought (value.modifyElement index f) = true) :
    workspaceContainsUuid sought (value.modifyElement index g) = true ∨ extra := by
  cases value with
  | array elements =>
      simp only [Json.modifyElement, workspaceContainsUuid_array, List.any_eq_true] at hcontains ⊢
      obtain ⟨changed, hchanged, htest⟩ := hcontains
      obtain ⟨n, hn, rfl⟩ := List.mem_iff_getElem.mp hchanged
      have hlength : n < elements.length := by simpa using hn
      rw [List.getElem_modify] at htest
      split at htest
      next hindex =>
        rcases h _ htest with hcontains | hextra
        · refine .inl ⟨g elements[n], ?_, hcontains⟩
          rw [List.mem_iff_getElem]
          refine ⟨n, by simpa using hlength, ?_⟩
          rw [List.getElem_modify, if_pos hindex]
        · exact .inr hextra
      next hindex =>
        refine .inl ⟨elements[n], ?_, htest⟩
        rw [List.mem_iff_getElem]
        refine ⟨n, by simpa using hlength, ?_⟩
        rw [List.getElem_modify, if_neg hindex]
  | _ => exact .inl hcontains

/-- So an identifier of the changed document was there before, or is the module's. -/
theorem contains_modifyModule {eventIndex moduleIndex : Nat}
    (h : ∀ module, workspaceContainsUuid sought (f module) = true →
      workspaceContainsUuid sought (g module) = true ∨ extra) {document : Json}
    (hcontains :
      workspaceContainsUuid sought (document.modifyModule eventIndex moduleIndex f) = true) :
    workspaceContainsUuid sought (document.modifyModule eventIndex moduleIndex g) = true ∨
      extra := by
  unfold Json.modifyModule at hcontains ⊢
  refine contains_modifyMember (by decide) ?_ hcontains
  intro daq hdaq
  refine contains_modifyMember (by decide) ?_ hdaq
  intro events hevents
  refine contains_modifyElement ?_ hevents
  intro event hevent
  refine contains_modifyMember (by decide) ?_ hevent
  intro modules hmodules
  exact contains_modifyElement h hmodules

/-- What a changed member has, its object has. -/
theorem contains_of_find? {key : String} {value found : Json} (hfound : value.find? key = some found)
    (h : workspaceContainsUuid sought (f found) = true) :
    workspaceContainsUuid sought (value.modifyMember key f) = true := by
  cases value with
  | object members =>
      rw [Json.find?_object, Option.map_eq_some_iff] at hfound
      obtain ⟨entry, hentry, rfl⟩ := hfound
      have hkey : (entry.1 == key) = true :=
        List.find?_some (p := fun entry : String × Json => entry.1 == key) hentry
      rw [Json.modifyMember, workspaceContainsUuid_object, List.any_eq_true]
      refine ⟨(entry.1, f entry.2),
        List.mem_map.mpr ⟨entry, List.mem_of_find?_eq_some hentry, if_pos hkey⟩, ?_⟩
      unfold memberContainsUuid
      rw [h, Bool.or_true]
  | _ => cases hfound

theorem contains_of_getElem? {index : Nat} {value found : Json}
    (hfound : value.elements[index]? = some found)
    (h : workspaceContainsUuid sought (f found) = true) :
    workspaceContainsUuid sought (value.modifyElement index f) = true := by
  obtain ⟨elements, rfl⟩ := Json.eq_array_of_getElem? hfound
  obtain ⟨hlength, hget⟩ := List.getElem?_eq_some_iff.mp hfound
  rw [Json.modifyElement, workspaceContainsUuid_array, List.any_eq_true]
  refine ⟨f found, ?_, h⟩
  rw [List.mem_iff_getElem]
  have hmodified : index < (elements.modify index f).length := by
    rw [List.length_modify]
    exact hlength
  refine ⟨index, hmodified, ?_⟩
  rw [List.getElem_modify, if_pos rfl]
  exact congrArg f hget

end Changes

/-! ### The module of a target

The way to the module leads through an event and its list of modules. -/

/-- The values on the way to the module. -/
theorem exists_of_targetModule {document module : Json} {target : MvmeWorkspaceTarget}
    (h : targetModule document target = .ok module) :
    ∃ daq events event modules, document.find? "DAQConfig" = some daq ∧
      daq.find? "events" = some events ∧ events.elements[target.eventIndex]? = some event ∧
      event.find? "modules" = some modules ∧
      modules.elements[target.moduleIndex]? = some module := by
  -- the two ways to go down in a document, where they do not throw
  have hkey {value found : Json} {key : String} (hfound : atKey value key = .ok found) :
      value.find? key = some found := by
    unfold atKey at hfound
    split at hfound
    · cases hfound
    · split at hfound
      · cases hfound
      next hsome =>
        cases hfound
        exact hsome
  have hindex {value found : Json} {index : Nat} (hfound : atIndex value index = .ok found) :
      value.elements[index]? = some found := by
    unfold atIndex at hfound
    split at hfound
    · cases hfound
    · split at hfound
      · cases hfound
      next hsome =>
        cases hfound
        exact hsome
  -- one step after the other, each where the one before has led
  unfold targetModule at h
  simp only [bind, Except.bind] at h
  split at h
  · cases h
  next daq hdaq =>
    split at h
    · cases h
    next events hevents =>
      split at h
      · cases h
      next event hevent =>
        split at h
        · cases h
        next modules hmodules =>
          exact ⟨daq, events, event, modules, hkey hdaq, hkey hevents, hindex hevent,
            hkey hmodules, hindex h⟩

/-- What the module has, the document has. -/
theorem contains_of_targetModule {document module : Json} {target : MvmeWorkspaceTarget}
    (hmodule : targetModule document target = .ok module) {f : Json → Json}
    (h : workspaceContainsUuid sought (f module) = true) :
    workspaceContainsUuid sought
      (document.modifyModule target.eventIndex target.moduleIndex f) = true := by
  obtain ⟨daq, events, event, modules, hdaq, hevents, hevent, hmodules, hfound⟩ :=
    exists_of_targetModule hmodule
  unfold Json.modifyModule
  apply contains_of_find? hdaq
  apply contains_of_find? hevents
  apply contains_of_getElem? hevent
  apply contains_of_find? hmodules
  exact contains_of_getElem? hfound h

/-- What a module has besides its init scripts, and what they have. -/
theorem contains_setInitScripts {module : Json} (h : module.isObject = true) (scripts : List Json) :
    workspaceContainsUuid sought (module.setInitScripts scripts) =
      ((module.members.any fun entry => entry.1 ≠ "initScripts" && memberContainsUuid sought entry)
        || scripts.any (workspaceContainsUuid sought)) := by
  rw [Json.setInitScripts, ← workspaceContainsUuid_members ((Json.isObject_set ..).trans h),
    Json.any_members_set h, memberContainsUuid_of_ne (by decide), workspaceContainsUuid_array]

/-- An init script more adds the identifiers that it has. -/
theorem contains_withInitScripts_append {workspace : MvmeWorkspace} {target : MvmeWorkspaceTarget}
    {module : Json} (hmodule : targetModule workspace.json target = .ok module)
    (hobject : module.isObject = true) (scripts : List Json) (entry : Json) :
    workspaceContainsUuid sought (workspace.withInitScripts target (scripts ++ [entry])).json =
      (workspaceContainsUuid sought (workspace.withInitScripts target scripts).json ||
        workspaceContainsUuid sought entry) := by
  rw [Bool.eq_iff_iff, Bool.or_eq_true]
  constructor
  · -- found with the new entry: in the document without it or in the entry
    apply contains_modifyModule
    intro module hcontains
    cases module with
    | object members =>
        rw [contains_setInitScripts rfl, List.any_append, ← Bool.or_assoc, Bool.or_eq_true,
          List.any_cons, List.any_nil, Bool.or_false] at hcontains
        rw [contains_setInitScripts rfl]
        exact hcontains
    | _ => exact .inl hcontains
  · -- found in one of the two: in the document with the new entry
    rintro (hcontains | hcontains)
    · have hmore := @contains_modifyModule sought (·.setInitScripts scripts)
        (·.setInitScripts (scripts ++ [entry])) False target.eventIndex target.moduleIndex ?_
        workspace.json hcontains
      · exact hmore.resolve_right id
      · intro module hcontains
        cases module with
        | object members =>
            rw [contains_setInitScripts rfl] at hcontains
            rw [contains_setInitScripts rfl, List.any_append, ← Bool.or_assoc, hcontains,
              Bool.true_or]
            exact .inl rfl
        | _ => exact .inl hcontains
    · apply contains_of_targetModule hmodule
      rw [contains_setInitScripts hobject, List.any_append, List.any_cons, hcontains,
        Bool.true_or, Bool.or_true, Bool.or_true]

/-! ### The exported entry

Apart from its own identifier, the entry has what it has taken over from the one that it replaces.
-/

/-- What an exported entry takes over from the one that it replaces. -/
def carriedMembers (owned : Json) : Json :=
  .object (owned.members.filter fun entry =>
    entry.1 ∉ ["id", "name", "enabled", "vme_script"])

/-- Besides its own identifier the exported entry has what it has taken over. -/
theorem contains_fidgetScriptEntry {owned : Json} (h : owned.isObject = true) (id text : String) :
    workspaceContainsUuid sought ((fidgetScriptEntry owned id text).set "id" .null) =
      workspaceContainsUuid sought (carriedMembers owned) := by
  have hset {owner : Json} (howner : owner.isObject = true) (key : String) (value : Json) :
      (owner.set key value).isObject = true := (Json.isObject_set ..).trans howner
  have hbare (key : String) : memberContainsUuid sought (key, .null) = false := by
    unfold memberContainsUuid
    cases decide (key = "id") <;> rfl
  have hname := hset h "id" (.string id)
  have henabled := hset hname "name" (.string fidgetTunedFrontendScriptName)
  have htext := hset henabled "enabled" (.boolean true)
  have hentry := hset htext "vme_script" (.string text)
  unfold fidgetScriptEntry carriedMembers
  rw [← workspaceContainsUuid_members (hset hentry _ _), Json.any_members_set hentry,
    Json.any_members_set htext, Json.any_members_set henabled, Json.any_members_set hname,
    Json.any_members_set h, hbare, workspaceContainsUuid_object, List.any_filter]
  -- What is set has no identifiers inside.
  have hvalues : workspaceContainsUuid sought (.string fidgetTunedFrontendScriptName) = false ∧
      workspaceContainsUuid sought (.boolean true) = false ∧
        workspaceContainsUuid sought (.string text) = false := ⟨rfl, rfl, rfl⟩
  rw [memberContainsUuid_of_ne (by decide : "vme_script" ≠ "id"),
    memberContainsUuid_of_ne (by decide : "enabled" ≠ "id"),
    memberContainsUuid_of_ne (by decide : "name" ≠ "id"), hvalues.1, hvalues.2.1, hvalues.2.2]
  simp only [ne_eq, not_true_eq_false, decide_false, Bool.false_and, Bool.and_false,
    Bool.or_false]
  apply List.any_congr rfl
  intro entry
  rw [Bool.eq_iff_iff]
  simp only [Bool.and_eq_true, decide_eq_true_eq, List.mem_cons, List.not_mem_nil, or_false,
    not_or]
  tauto

end Contains

end MvmeWorkspaceExport

end Fidget
