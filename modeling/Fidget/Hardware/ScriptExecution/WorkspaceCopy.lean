import Fidget.Core.MvmeWorkspaceExport.Copy
import Fidget.Hardware.ScriptExecution.RoundTrip

/-!
# Evaluating a copied workspace

The copy of a workspace has the user's scripts and, as the last, the literal script of the starting
state. What it evaluates to therefore depends on what the user's scripts do on their own: an
earlier script between fences is gone, and those after it may have relied on its selector.

The copy has the scripts of the user, in their order, and the exported entry behind them. So its
evaluation is that of the user's scripts followed by that of the entry, and whether the result is
the starting state depends on what the user's scripts do without the entry they had before.

## Main results

- `reproduces_entry_iff`: the entry as the last of its module reproduces the starting state exactly
  when the scripts before it `KeepsValues`.
- `exportedCopy_reproduces_iff`: so does the exported copy, read back by a parser that reads what
  was printed.
- `exportedCopy_differs`: two workspaces whose copies do not.
-/

namespace Fidget

open MvmeInitScript MvmeWorkspaceExport ScriptLine WritePlan

/-- What the user's scripts must do on their own for a copy to have the values that it was made
of: they are evaluated without a failure and without an `accu_test`, and set no other values. An
earlier script between fences leaves its variables to the new one. -/
structure KeepsValues (without : MvmeInitScriptEvaluation) (scripts : List Json)
    (values : List MvmeInitScriptFrontendValue) : Prop where
  not_failed : without.state ≠ .failed
  not_conditional : without.state ≠ .conditionalAfterAccuTest
  untested : without.conditionalAccuTestLocation = none
  listed : ∀ value ∈ without.finalFrontendValues,
    (findValue values value.quad value.registerOffset).isSome
  table : ∀ script ∈ scripts, entryFence script = .complete →
    ∃ vars, jsonVariableTable script "variable_table" = .ok vars

namespace Evaluator

section Entries

variable (address : TargetModuleAddress) (context : ScriptContext)

/-- Only scripts set values, and a script has all four tables. -/
theorem tables_of_finalValues (e : Evaluator) (n : Nat) (scripts : List Json)
    (h : (evaluateEntriesFrom address context e n scripts).finalValues ≠ e.finalValues) :
    ∀ table ∈ ScriptContext.variableTables context, ∃ vars, table = .ok vars := by
  induction scripts generalizing e n with
  | nil => exact absurd rfl h
  | cons script scripts ih =>
      rw [evaluateEntriesFrom_cons] at h
      cases heffect : entryEffect context script n with
      | disabled =>
          rw [heffect] at h
          exact ih _ _ h
      | unusable count issues =>
          rw [heffect] at h
          exact ih _ _ h
      | script text resolver =>
          exact fun table htable => tables_of_script heffect table (List.mem_cons_of_mem _ htable)

/-- The exported entry is enabled and has the exported text. -/
theorem enabled_fidgetScriptEntry {owned : Json} (h : owned.isObject = true) (id text : String) :
    EnabledScript (fidgetScriptEntry owned id text) ∧
      (fidgetScriptEntry owned id text).find? "vme_script" = some (.string text) := by
  have hset (owned : Json) (key : String) (value : Json) :
      (owned.set key value).isObject = owned.isObject := Json.isObject_set ..
  unfold fidgetScriptEntry
  refine ⟨⟨?_, .inr ?_⟩, ?_⟩
  · rw [hset, hset, hset, hset, h]
  · rw [Json.find?_set_of_ne _ (by decide : "enabled" ≠ "vme_script"), Json.find?_set_self]
    rw [hset, hset, h]
  · rw [Json.find?_set_self]
    rw [hset, hset, hset, h]

/-- It has the variables of the entry that it is made of. -/
theorem table_fidgetScriptEntry (owned : Json) (id text : String) :
    jsonVariableTable (fidgetScriptEntry owned id text) "variable_table" =
      jsonVariableTable owned "variable_table" := by
  refine jsonVariableTable_congr ?_
  unfold fidgetScriptEntry
  rw [Json.find?_set_of_ne _ (by decide : "variable_table" ≠ "vme_script"),
    Json.find?_set_of_ne _ (by decide : "variable_table" ≠ "enabled"),
    Json.find?_set_of_ne _ (by decide : "variable_table" ≠ "name"),
    Json.find?_set_of_ne _ (by decide : "variable_table" ≠ "id")]

/-- The tables of the exported entry can be read if those around it can, and the one of the entry
that it replaces. -/
theorem scriptTables_fidgetScriptEntry {scripts : List Json} {owned : Json}
    (hreplaced : Replaced scripts owned)
    (haround : ∀ table ∈ ScriptContext.variableTables context, ∃ vars, table = .ok vars)
    (id text : String) :
    (∀ table ∈ scriptTables context (fidgetScriptEntry owned id text), ∃ vars, table = .ok vars) ↔
      ∀ script ∈ scripts, entryFence script = .complete →
        ∃ vars, jsonVariableTable script "variable_table" = .ok vars := by
  constructor
  · intro h script hscript hfenced
    have htable := h _ List.mem_cons_self
    rw [table_fidgetScriptEntry] at htable
    rw [hreplaced.fenced script hscript hfenced]
    exact htable
  · intro h table htable
    rcases List.mem_cons.mp htable with rfl | htable
    · rw [table_fidgetScriptEntry]
      rcases hreplaced.table with hnone | ⟨hmem, hfenced⟩
      · exact ⟨[], hnone⟩
      · exact h owned hmem hfenced
    · exact haround table htable

end Entries

section Copy

variable {address : TargetModuleAddress} {context : ScriptContext} {scripts : List Json}
  {state : Fw2051WorkspaceStartingState} {targetAddress : TargetModuleAddress}
  {script : GeneratedScript}

/-- The values of a literal script go before the values from before it. -/
theorem values_of_literal (hliteral : GeneratedLiteral state targetAddress script) {e e' : Evaluator}
    (h : Evaluated e e' (cellWrites (e.selector.getD 0) script.writes)) (quad r : UInt16) :
    e'.valueAt quad r =
      ((findValue state.frontendValues quad r).map (·.value)).or (e.valueAt quad r) := by
  rw [h.values, cellWrites_literal hliteral, lastValue_literalPlan hliteral]

/-- A map goes before another one without a trace of it if it has all its keys. -/
theorem values_or_eq_iff {e : Evaluator} {location : MvmeInitScriptLocation}
    (h : Consistent location e) {values : List MvmeInitScriptFrontendValue} :
    (∀ quad r, ((findValue values quad r).map (·.value)).or (e.valueAt quad r) =
        (findValue values quad r).map (·.value)) ↔
      ∀ value ∈ e.finalValues.toList.map (·.2),
        (findValue values value.quad value.registerOffset).isSome := by
  constructor
  · -- a value the evaluation knows has to be listed, or the disjunction shows it
    intro hvalues value hvalue
    have hlast := hvalues value.quad value.registerOffset
    have hfound := getElem?_of_mem_finalValues h hvalue
    cases hlisted : findValue values value.quad value.registerOffset with
    | some found => rfl
    | none =>
        rw [hlisted, Option.map_none, Option.none_or, valueAt] at hlast
        rw [MvmeInitScriptFrontendValue.key] at hfound
        rw [hfound] at hlast
        cases hlast
  · intro hlisted quad r
    cases hfound : findValue values quad r with
    | some found => rfl
    | none =>
        rw [Option.map_none, Option.none_or, valueAt]
        cases hvalue : e.finalValues[(quad, r)]? with
        | none => rfl
        | some value =>
            have hentry := Std.TreeMap.mem_toList_iff_getElem?_eq_some.mpr hvalue
            have hkey := h.key_eq hentry
            have hsome := hlisted value (List.mem_map.mpr ⟨_, hentry, rfl⟩)
            obtain ⟨hquad, hregister⟩ := Prod.mk.inj hkey
            rw [hquad, hregister, hfound] at hsome
            cases hsome

/-- A literal script always writes to the selector. -/
theorem selector_mem_literal (h : GeneratedLiteral state targetAddress script) :
    longWrite fw2051ScpSelectorRegister 0 ∈ script := by
  rw [h.script_eq]
  refine List.mem_append_right _ ?_
  unfold literalFooter longWriteLines
  simp

/-- The state and the values after the exported entry, in terms of those before it. -/
theorem reproduces_entry_iff (hliteral : GeneratedLiteral state targetAddress script)
    (haround : ∀ table ∈ ScriptContext.variableTables context, ∃ vars, table = .ok vars)
    {userScripts : List Json} {owned : Json} (hreplaced : Replaced scripts owned) (id : String) :
    Reproduces (evaluateScripts address context
        (userScripts ++ [fidgetScriptEntry owned id script.text]))
        (fun quad r => (findValue state.frontendValues quad r).map (·.value)) ↔
      KeepsValues (evaluateScripts address context userScripts) scripts state.frontendValues := by
  -- The entry is the last, after an evaluation that is known to be consistent.
  have hconsistent : Consistent { scriptIndex := 0 + userScripts.length }
      (evaluateEntries address context userScripts) :=
    (consistent_initial { scriptIndex := 0 }).evaluateEntriesFrom address context userScripts
  have hlocated : (evaluateEntries address context userScripts).statementsConditional =
      (evaluateEntries address context
        userScripts).result.conditionalAccuTestLocation.isSome :=
    (persists_evaluateEntriesFrom address context {} 0 userScripts).located rfl
  have hentries : evaluateEntries address context
      (userScripts ++ [fidgetScriptEntry owned id script.text]) =
      (entryEffect context (fidgetScriptEntry owned id script.text)
        (0 + userScripts.length)).apply address (0 + userScripts.length)
          (evaluateEntries address context userScripts) := by
    show evaluateEntriesFrom address context {} 0 _ = _
    rw [evaluateEntriesFrom_append, evaluateEntriesFrom_cons]
    rfl
  have hpersists := persists_applyEntry address (0 + userScripts.length)
    (evaluateEntries address context userScripts)
    (entryEffect context (fidgetScriptEntry owned id script.text) (0 + userScripts.length))
  rw [← hentries] at hpersists
  obtain ⟨henabled, htext⟩ := enabled_fidgetScriptEntry hreplaced.isObject id script.text
  have htables := scriptTables_fidgetScriptEntry context hreplaced haround id script.text
  rw [reproduces_evaluateScripts_iff]
  rcases entryEffect_cases context henabled htext (0 + userScripts.length) with
    ⟨hok, resolver, heffect⟩ | ⟨hmalformed, count, issues, heffect⟩
  · by_cases hconditional : (evaluateEntries address context
        userScripts).statementsConditional = true
    · -- The literal script would be conditional.
      have hwrite := @conditionalFrontendWrite_scriptEntry address
        (evaluateEntries address context userScripts) (0 + userScripts.length) script
        (readable_literal hliteral) 0 (selector_mem_literal hliteral) hconditional resolver
      rw [← heffect, ← hentries] at hwrite
      constructor
      · intro h
        cases h.1.conditionalFrontendWrite.symm.trans hwrite
      · intro h
        have huntested : (evaluateEntries address context
          userScripts).result.conditionalAccuTestLocation = none := h.untested
        rw [hlocated, huntested] at hconditional
        cases hconditional
    · have hevaluated := @evaluated_scriptEntry (evaluateEntries address context userScripts)
        address (0 + userScripts.length) script (readable_literal hliteral)
        (Bool.eq_false_iff.mpr hconditional) (attributable_literal hliteral _) resolver
      rw [← heffect, ← hentries] at hevaluated
      simp only [values_of_literal hliteral hevaluated, values_or_eq_iff hconsistent]
      constructor
      · rintro ⟨hsettled, hlisted⟩
        obtain ⟨hfailed, hunconditional⟩ := settled_iff.mp (hsettled.of_persists hpersists)
        refine ⟨hfailed, hunconditional, ?_, hlisted, htables.mp hok⟩
        rw [hlocated, Bool.not_eq_true, Option.isSome_eq_false_iff, Option.isNone_iff_eq_none]
          at hconditional
        exact hconditional
      · intro h
        have hbefore : Settled (evaluateEntries address context userScripts) :=
          settled_iff.mpr ⟨h.not_failed, h.not_conditional⟩
        exact ⟨hbefore.of_evaluated hevaluated, h.listed⟩
  · constructor
    · -- An entry without its tables is an issue of the frontend.
      rintro ⟨hsettled, -⟩
      obtain ⟨hissues, hfrontend⟩ := issues_of_unusable _ _ _ heffect
      obtain ⟨issue, hissue⟩ := List.exists_mem_of_ne_nil issues hissues
      have hmem : issue ∈ (evaluateEntries address context (userScripts ++
          [fidgetScriptEntry owned id script.text])).result.unresolvedStatements := by
        rw [hentries, heffect]
        exact List.mem_append_right _ hissue
      exact absurd (hsettled.issues issue hmem (hfrontend issue hissue).1) (hfrontend issue hissue).2
    · intro h
      exact absurd (htables.mpr h.table) hmalformed

/-- What a starting state tells about the evaluation that it was extracted from. -/
theorem exists_located_of_extracted {workspace : MvmeWorkspace} {target : MvmeWorkspaceTarget}
    {state : Fw2051WorkspaceStartingState}
    (h : (extractFw2051WorkspaceStartingState
      (evaluateMvmeTargetInitScripts workspace target)).startingState = some state) :
    ∃ context scripts, Located workspace target context scripts ∧
      ∀ table ∈ ScriptContext.variableTables context, ∃ vars, table = .ok vars := by
  unfold extractFw2051WorkspaceStartingState at h
  split at h
  · cases h
  split at h
  · cases h
  split at h
  · cases h
  next hfailed _ hvalues =>
    rcases located_or_malformed workspace target with ⟨context, scripts, hlocated⟩ | ⟨message, hrun⟩
    · refine ⟨context, scripts, hlocated,
        tables_of_finalValues target.address context {} 0 scripts fun hnone => hvalues ?_⟩
      have hrun : evaluateMvmeTargetInitScripts workspace target =
          evaluateScripts target.address context scripts := run_eq_of_located hlocated
      have hfinal : (evaluateScripts target.address context scripts).finalFrontendValues =
          (evaluateEntriesFrom target.address context {} 0 scripts).finalValues.toList.map (·.2) :=
        rfl
      rw [hrun, hfinal, hnone]
      rfl
    · -- a workspace that is not located has a failed result
      have hmalformed : evaluateMvmeTargetInitScripts workspace target = malformed message := hrun
      rw [hmalformed] at hfailed
      exact absurd rfl hfailed

/-- The JSON library reads what it has written of the copy. -/
def ReadsBack (dump : Json → String) (parseJson : String → Except String Json)
    (workspace : MvmeWorkspace) (target : MvmeWorkspaceTarget)
    (startingState : Fw2051WorkspaceStartingState) (scriptIdGenerator : Nat → Option String) :
    Prop :=
  ∀ scripts replaced, exportedFw2051Scripts workspace target
      (generateFw2051LiteralScript startingState target.address).script.text scriptIdGenerator =
        .ok (scripts, replaced) →
    parseJson (dump (workspace.withInitScripts target scripts).json ++ "\n") =
      .ok (workspace.withInitScripts target scripts).json

/-- A copy that was read back: the user's scripts and, as the last, the exported entry. -/
structure CopyOf (workspace : MvmeWorkspace) (target : MvmeWorkspaceTarget)
    (startingState : Fw2051WorkspaceStartingState) (copy : MvmeWorkspace) (context : ScriptContext)
    (owned : Json) (id : String) : Prop where
  located : Located workspace target context (workspace.targetScripts target)
  tables : ∀ table ∈ ScriptContext.variableTables context, ∃ vars, table = .ok vars
  replaced : Replaced (workspace.targetScripts target) owned
  literal : GeneratedLiteral startingState target.address
    (generateFw2051LiteralScript startingState target.address).script
  copy_eq : copy = workspace.withInitScripts target
    (userScripts (workspace.targetScripts target) ++ [fidgetScriptEntry owned id
      (generateFw2051LiteralScript startingState target.address).script.text])

/-- An export that succeeds is read back as a copy. -/
theorem exists_copy {dump : Json → String} {parseJson : String → Except String Json}
    {workspace : MvmeWorkspace} {target : MvmeWorkspaceTarget}
    {startingState : Fw2051WorkspaceStartingState} {scriptIdGenerator : Nat → Option String}
    (hextracted : (extractFw2051WorkspaceStartingState
      (evaluateMvmeTargetInitScripts workspace target)).startingState = some startingState)
    (hexported : (exportFw2051MvmeWorkspaceCopy dump workspace target startingState
      scriptIdGenerator).success = true)
    (hparse : ReadsBack dump parseJson workspace target startingState scriptIdGenerator) :
    ∃ copy context owned id, parseMvmeWorkspace parseJson (exportFw2051MvmeWorkspaceCopy dump
        workspace target startingState scriptIdGenerator).text = .ok copy ∧
      CopyOf workspace target startingState copy context owned id := by
  obtain ⟨context, scripts, hlocated, htables⟩ := exists_located_of_extracted hextracted
  obtain ⟨hgenerated, owned, id, replaced, hreplaced, hscripts, htext⟩ :=
    exists_of_export hlocated hexported
  obtain rfl := targetScripts_of_located hlocated
  refine ⟨_, context, owned, id, ?_, hlocated, htables, hreplaced,
    generatedLiteral_of_success hgenerated, rfl⟩
  rw [htext, parseMvmeWorkspace, hparse _ _ hscripts]
  exact mvmeWorkspaceOfJson_json _

/-- When a copy reproduces the starting state. -/
theorem CopyOf.reproduces_iff {workspace : MvmeWorkspace} {target : MvmeWorkspaceTarget}
    {startingState : Fw2051WorkspaceStartingState} {copy : MvmeWorkspace} {context : ScriptContext}
    {owned : Json} {id : String}
    (h : CopyOf workspace target startingState copy context owned id) :
    Reproduces (evaluateMvmeTargetInitScripts copy target)
        (fun quad registerOffset =>
          (findValue startingState.frontendValues quad registerOffset).map (·.value)) ↔
      KeepsValues (evaluateMvmeTargetInitScripts (workspace.withInitScripts target
          (userScripts (workspace.targetScripts target))) target)
        (workspace.targetScripts target) startingState.frontendValues := by
  unfold evaluateMvmeTargetInitScripts
  rw [h.copy_eq, run_withInitScripts h.located, run_withInitScripts h.located]
  exact reproduces_entry_iff h.literal h.tables h.replaced id

end Copy

/-- An exported copy can be read, and evaluates to the values that it was made of exactly if the
user's scripts, on their own, are evaluated without a failure and without an `accu_test`, set no
other values, and the script that is replaced has a variable table that can be read. -/
theorem exportedCopy_reproduces_iff (dump : Json → String) (parseJson : String → Except String Json)
    (workspace : MvmeWorkspace) (target : MvmeWorkspaceTarget)
    (startingState : Fw2051WorkspaceStartingState) (scriptIdGenerator : Nat → Option String)
    (hextracted : (extractFw2051WorkspaceStartingState
      (evaluateMvmeTargetInitScripts workspace target)).startingState = some startingState)
    (hexported : (exportFw2051MvmeWorkspaceCopy dump workspace target startingState
      scriptIdGenerator).success = true)
    (hparse : ReadsBack dump parseJson workspace target startingState scriptIdGenerator) :
    let scripts := workspace.targetScripts target
    let without := evaluateMvmeTargetInitScripts
      (workspace.withInitScripts target (userScripts scripts)) target
    ∃ copy, parseMvmeWorkspace parseJson (exportFw2051MvmeWorkspaceCopy dump workspace target
        startingState scriptIdGenerator).text = .ok copy ∧
      (Reproduces (evaluateMvmeTargetInitScripts copy target)
          (fun quad registerOffset =>
            (findValue startingState.frontendValues quad registerOffset).map (·.value)) ↔
        KeepsValues without scripts startingState.frontendValues) := by
  obtain ⟨copy, context, owned, id, hcopy, hcopied⟩ := exists_copy hextracted hexported hparse
  exact ⟨copy, hcopy, hcopied.reproduces_iff⟩

/-! ### Workspaces to copy

A printer and a reader for the documents of the examples. The JSON library is a parameter of the
general statement; here it is one that reads back what it has printed. -/

/-- A line break with its indentation. -/
def printBreak (indentation : Nat) : String :=
  String.ofList ('\n' :: List.replicate indentation ' ')

/-- A text in quotes, with the escapes that scripts need. -/
def printString (text : String) : String :=
  String.ofList ('"' :: text.toList.flatMap (fun c =>
    if c = '"' || c = '\\' then ['\\', c]
    else if c = '\n' then ['\\', 'n']
    else if c = '\r' then ['\\', 'r']
    else if c = '\t' then ['\\', 't']
    else [c]) ++ ['"'])

mutual

/-- What the JSON library writes, with an indentation of two, of values without fractions. -/
def printJson (indentation : Nat) : Json → String
  | .null => "null"
  | .boolean value => toString value
  | .unsigned value => toString value
  | .integer value => toString value
  | .float _ => ""
  | .string value => printString value
  | .array elements =>
    if elements.isEmpty then "[]"
    else "[" ++ printElements (indentation + 2) elements ++ printBreak indentation ++ "]"
  | .object members =>
    if members.isEmpty then "\x7b\x7d"
    else "\x7b" ++ printMembers (indentation + 2) members ++ printBreak indentation ++ "\x7d"

/-- The elements of an array. -/
def printElements (indentation : Nat) : List Json → String
  | [] => ""
  | element :: elements =>
    printBreak indentation ++ printJson indentation element
      ++ (if elements.isEmpty then "" else ",") ++ printElements indentation elements

/-- The members of an object. -/
def printMembers (indentation : Nat) : List (String × Json) → String
  | [] => ""
  | (key, value) :: members =>
    printBreak indentation ++ printString key ++ ": " ++ printJson indentation value
      ++ (if members.isEmpty then "" else ",") ++ printMembers indentation members

end

/-- A library that reads back what it writes of one document. -/
def readBack (document : Json) (text : String) : Except String Json :=
  if text = printJson 0 document ++ "\n" then .ok document else .error "unexpected text"

/-- The document that is exported. -/
def exportedDocument (workspace : MvmeWorkspace) (target : MvmeWorkspaceTarget)
    (startingState : Fw2051WorkspaceStartingState) (scriptIdGenerator : Nat → Option String) :
    Json :=
  match exportedFw2051Scripts workspace target
      (generateFw2051LiteralScript startingState target.address).script.text scriptIdGenerator with
  | .ok (scripts, _) => (workspace.withInitScripts target scripts).json
  | .error _ => .null

/-- It reads what was printed. -/
theorem readsBack_exportedDocument (workspace : MvmeWorkspace) (target : MvmeWorkspaceTarget)
    (startingState : Fw2051WorkspaceStartingState) (scriptIdGenerator : Nat → Option String) :
    ReadsBack (printJson 0)
      (readBack (exportedDocument workspace target startingState scriptIdGenerator)) workspace
      target startingState scriptIdGenerator := by
  intro scripts replaced hscripts
  have hdocument : exportedDocument workspace target startingState scriptIdGenerator =
      (workspace.withInitScripts target scripts).json := by
    unfold exportedDocument
    rw [hscripts]
  rw [hdocument, readBack, if_pos rfl]

/-- An identifier that no workspace has. -/
def exampleScriptIds : Nat → Option String :=
  fun _ => some "01234567-89ab-4def-8123-0123456789ab"

/-- A copy evaluates to the values that it was made of. -/
def CopyReproduces (workspace : MvmeWorkspace) (target : MvmeWorkspaceTarget) : Prop :=
  ∀ dump parseJson startingState scriptIdGenerator,
    (extractFw2051WorkspaceStartingState
      (evaluateMvmeTargetInitScripts workspace target)).startingState = some startingState →
    (exportFw2051MvmeWorkspaceCopy dump workspace target startingState scriptIdGenerator).success =
      true →
    ReadsBack dump parseJson workspace target startingState scriptIdGenerator →
    ∃ copy, parseMvmeWorkspace parseJson (exportFw2051MvmeWorkspaceCopy dump workspace target
        startingState scriptIdGenerator).text = .ok copy ∧
      Reproduces (evaluateMvmeTargetInitScripts copy target) fun quad registerOffset =>
        (findValue startingState.frontendValues quad registerOffset).map (·.value)

/-- Values, and then a test of an accumulator. -/
def testedScripts : List Json :=
  [exampleEntry "0x6100 0\n0x611A 500\naccu_test eq 1 \"live\"" []]

/-- A script of which the next one needs the selector, between fences. -/
def fencedScripts : List Json :=
  [exampleEntry "0x6100 1\n0x611A 400" [],
    exampleEntry (fidgetTunedFrontendFenceBegin ++ "\n0x6100 0\n" ++ fidgetTunedFrontendFenceEnd) [],
    exampleEntry "0x611C 700" []]


/-- Where what the user's scripts do on their own is not enough, a copy differs. -/
theorem not_copyReproduces {workspace : MvmeWorkspace} {target : MvmeWorkspaceTarget}
    (startingState : Fw2051WorkspaceStartingState)
    (hextracted : (extractFw2051WorkspaceStartingState
      (evaluateMvmeTargetInitScripts workspace target)).startingState = some startingState)
    (hexported : (exportFw2051MvmeWorkspaceCopy (printJson 0) workspace target startingState
      exampleScriptIds).success = true)
    (hdiffers : ¬ KeepsValues (evaluateMvmeTargetInitScripts (workspace.withInitScripts target
          (userScripts (workspace.targetScripts target))) target)
        (workspace.targetScripts target) startingState.frontendValues) :
    ¬ CopyReproduces workspace target := by
  intro h
  have hreads := readsBack_exportedDocument workspace target startingState exampleScriptIds
  obtain ⟨copy, hcopy, hreproduces⟩ := h _ _ startingState exampleScriptIds hextracted hexported
    hreads
  obtain ⟨copy', context, owned, id, hcopy', hcopied⟩ := exists_copy hextracted hexported hreads
  cases hcopy.symm.trans hcopy'
  exact hdiffers (hcopied.reproduces_iff.mp hreproduces)

/-- A test of an accumulator comes before the exported entry, or the entry leaves its place in
front of a script that needs its selector. -/
theorem exportedCopy_differs :
    ¬ CopyReproduces (exampleWorkspace testedScripts) exampleTarget ∧
      ¬ CopyReproduces (exampleWorkspace fencedScripts) exampleTarget := by
  constructor
  · refine not_copyReproduces
      { sourceEvaluationState := .completeWithUnresolvedNonFrontend
        frontendValues := [
          { location := ⟨0, 2⟩, quad := 0, registerOffset := 0x611A, value := 500 }]
        unresolvedNonFrontend := [
          { location := ⟨0, 3⟩, impact := .nonFrontend, reason := .unsupportedStatement
            message := "An accu_test depends on a live accumulator; whether later "
              ++ "statements execute cannot be proven." }] }
      (by decide +kernel) (by decide +kernel) fun h => ?_
    have huntested := h.untested
    revert huntested
    decide +kernel
  · refine not_copyReproduces
      { sourceEvaluationState := .complete
        frontendValues := [
          { location := ⟨2, 1⟩, quad := 0, registerOffset := 0x611C, value := 700 },
          { location := ⟨0, 2⟩, quad := 1, registerOffset := 0x611A, value := 400 }] }
      (by decide +kernel) (by decide +kernel) fun h => ?_
    have hlisted := h.listed
    revert hlisted
    decide +kernel

/-- A value of quad 1, and nothing else. -/
def plainScripts : List Json := [exampleEntry "0x6100 1\n0x611A 400" []]

/-- The starting state of these scripts. -/
def plainState : Fw2051WorkspaceStartingState where
  sourceEvaluationState := .complete
  frontendValues := [{ location := ⟨0, 2⟩, quad := 1, registerOffset := 0x611A, value := 400 }]

/-- A copy that reproduces its starting state. -/
theorem exportedCopy_reproduces_iff_example :
    ∃ copy, parseMvmeWorkspace (readBack (exportedDocument (exampleWorkspace plainScripts)
        exampleTarget plainState exampleScriptIds))
      (exportFw2051MvmeWorkspaceCopy (printJson 0) (exampleWorkspace plainScripts) exampleTarget
        plainState exampleScriptIds).text = .ok copy ∧
      Reproduces (evaluateMvmeTargetInitScripts copy exampleTarget) fun quad registerOffset =>
        (findValue plainState.frontendValues quad registerOffset).map (·.value) := by
  obtain ⟨copy, hcopy, hiff⟩ := exportedCopy_reproduces_iff (printJson 0)
    (readBack (exportedDocument (exampleWorkspace plainScripts) exampleTarget plainState
      exampleScriptIds)) (exampleWorkspace plainScripts) exampleTarget plainState exampleScriptIds
    (by decide +kernel) (by decide +kernel) (readsBack_exportedDocument _ _ _ _)
  refine ⟨copy, hcopy, hiff.mpr ⟨by decide +kernel, by decide +kernel, by decide +kernel,
    by decide +kernel, ?_⟩⟩
  intro script hscript hfenced
  have hplain : ∀ script ∈ (exampleWorkspace plainScripts).targetScripts exampleTarget,
      entryFence script = .none := by decide +kernel
  cases (hplain script hscript).symm.trans hfenced

end Evaluator

end Fidget
