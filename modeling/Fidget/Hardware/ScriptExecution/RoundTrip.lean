import Fidget.Hardware.ScriptExecution.Evaluation
import Fidget.Hardware.ScriptExecution.Literal
import Fidget.Hardware.ScriptExecution.Profile
import Fidget.Lib.Lists

/-!
# Evaluating what was exported

Both exporters write scripts that the evaluator understands: where such a script is the only one of
a module, the final values are the values that were exported.

Three facts are needed of a generated script: its lines can be read back (`Readable`), every write
in them can be attributed to a bank (`Attributable`), and the last write of every cell is the value
of the state or profile. The evaluation of the workspace is then computed from the plan of the
script by the lemmas of `ScriptExecution.Evaluation`.

## Main results

- `readable_literal`, `readable_exported`: every line of a generated script can be read back.
- `attributable_literal`, `attributable_profileWrites`: at every write to a bank the selector is
  known.
- `definite_of_script`: where a generated script is the only enabled one of a module, the final
  values are the last values of its writes, and no issue concerns the frontend.
- `generatedScripts_roundTrip`: they are the values that were exported.
- `generatedScripts_roundTrip_fails`: what the other entries of the module can spoil.
-/

namespace Fidget

open scoped Fidget.Lists

open MvmeExport MvmeInitScript MvmeWorkspaceExport NumberText ScriptLine WritePlan

/-! ### The lines can be read

A line must not contain a line end, and must not open a comment by accident. Names and numbers are
gone through character by character; a time stamp is whatever the caller gives, and has to be a
single line. -/

section Readable

/-- The characters of a statement do not end its line. -/
theorem newline_notMem_of_statement {text : Text} (h : ∀ c ∈ text, isStatementChar c = true) :
    '\n' ∉ text := by
  intro hmem
  cases h _ hmem

/-- Nor does a decimal number. -/
theorem newline_notMem_decimal (value : Nat) : '\n' ∉ decimal value :=
  newline_notMem_of_statement (isStatementChar_decimal value)

/-- Nor does a register. -/
theorem newline_notMem_hexadecimal16 (value : UInt16) : '\n' ∉ ScriptLine.hexadecimal16 value :=
  newline_notMem_of_statement (isStatementChar_hexadecimal16 value)

/-- Nor does an address. -/
theorem newline_notMem_hexadecimal32 (value : UInt32) : '\n' ∉ ScriptLine.hexadecimal32 value := by
  intro hmem
  rcases List.mem_cons.mp hmem with h | hmem
  · cases h
  rcases List.mem_cons.mp hmem with h | hmem
  · cases h
  · exact (ne_of_le_toNat (le_toNat_of_isDigitOf (isDigitOf_of_mem_hexadecimal hmem))).2.2 rfl

/-- Characters that a comment can begin with. -/
def opensComment (chars : List Char) : Bool := chars.head? == some '#' && !chars.contains '\n'

/-- The characters are those of a text that is written out. -/
theorem readable_comment {chars : List Char} {rest : Text} (hfront : opensComment chars = true)
    (hrest : '\n' ∉ rest) : (comment ((String.ofList chars).toList ++ rest)).Readable := by
  rw [String.toList_ofList]
  cases chars with
  | nil => cases hfront
  | cons c chars =>
      rw [opensComment, Bool.and_eq_true, List.head?_cons, beq_iff_eq, Option.some.injEq,
        Bool.not_eq_true', List.contains_eq_mem, decide_eq_false_iff_not] at hfront
      obtain ⟨rfl, hline⟩ := hfront
      refine ⟨chars ++ rest, rfl, fun hmem => ?_⟩
      rcases List.mem_append.mp hmem with hmem | hmem
      · exact hline (List.mem_cons_of_mem _ hmem)
      · exact hrest hmem

/-- A fixed comment can be read. -/
theorem readable_literalComment {chars : List Char} (h : opensComment chars = true) :
    (comment (String.ofList chars).toList).Readable := by
  have hreadable := readable_comment h (List.not_mem_nil (a := '\n'))
  rwa [List.append_nil] at hreadable

/-- The registers of the banks are written by generated scripts. -/
theorem mem_writtenRegisters {registerOffset : UInt16} (h : registerOffset ∈ scpRegisterOffsets) :
    registerOffset ∈ writtenRegisters :=
  List.mem_cons_of_mem _ (List.mem_cons_of_mem _ (List.mem_cons_of_mem _ h))

/-- A write with its delay can be read. -/
theorem readable_longWriteLines {registerOffset : UInt16} (h : registerOffset ∈ writtenRegisters)
    (value : UInt16) : ∀ line ∈ longWriteLines registerOffset value, line.Readable := by
  intro line hline
  rcases List.mem_cons.mp hline with rfl | hline
  · exact h
  · rw [List.mem_singleton.mp hline]
    trivial

/-- So is the selector. -/
theorem selector_mem_writtenRegisters : fw2051ScpSelectorRegister ∈ writtenRegisters := by decide

/-- The lines of the values can be read. -/
theorem readable_literalLines (currentQuad : UInt16) {items : List PlannedLiteralValue}
    (h : ∀ item ∈ items, item.registerOffset ∈ scpRegisterOffsets) :
    ∀ line ∈ literalLines currentQuad items, line.Readable := by
  induction items generalizing currentQuad with
  | nil => intro line hline; cases hline
  | cons item items ih =>
      intro line hline
      rw [literalLines] at hline
      simp only [List.mem_append] at hline
      rcases hline with ((hline | hline) | hline) | hline
      · split at hline
        · rcases List.mem_append.mp hline with hline | hline
          · split at hline
            · rw [List.mem_singleton.mp hline]
              trivial
            · cases hline
          rcases List.mem_cons.mp hline with rfl | hline
          · exact readable_comment (by decide) (newline_notMem_decimal _)
          · exact readable_longWriteLines selector_mem_writtenRegisters _ line hline
        · cases hline
      · split at hline
        · rw [List.mem_singleton.mp hline]
          exact readable_literalComment (by decide)
        · cases hline
      · exact readable_longWriteLines (mem_writtenRegisters (h item List.mem_cons_self)) _ line hline
      · exact ih _ (fun i hi => h i (List.mem_cons_of_mem _ hi)) line hline

/-- So can the header. -/
theorem readable_literalHeader (state : Fw2051WorkspaceStartingState)
    (targetAddress : TargetModuleAddress) :
    ∀ line ∈ literalHeader state targetAddress, line.Readable := by
  intro line hline
  simp only [literalHeader, List.mem_cons, List.not_mem_nil, or_false] at hline
  rcases hline with rfl | rfl | rfl | rfl | rfl | rfl | rfl | rfl | rfl | rfl
  · exact readable_literalComment (by decide)
  · exact readable_comment (by decide) (by decide)
  · exact readable_comment (by decide) (newline_notMem_hexadecimal32 _)
  · exact readable_literalComment (by decide)
  · exact readable_literalComment (by decide)
  · exact readable_literalComment (by decide)
  · exact readable_literalComment (by decide)
  · exact readable_comment (by decide) (newline_notMem_decimal _)
  · exact readable_comment (by decide) (newline_notMem_decimal _)
  · trivial

/-- So can the footer. -/
theorem readable_literalFooter : ∀ line ∈ literalFooter, line.Readable := by
  intro line hline
  simp only [literalFooter, List.mem_append, List.mem_cons, List.not_mem_nil, or_false] at hline
  rcases hline with (((rfl | rfl) | hline) | rfl)
  · trivial
  · exact readable_literalComment (by decide)
  · exact readable_longWriteLines selector_mem_writtenRegisters _ line hline
  · exact readable_literalComment (by decide)

/-- So can the whole literal script. -/
theorem readable_literal {state : Fw2051WorkspaceStartingState}
    {targetAddress : TargetModuleAddress} {script : GeneratedScript}
    (h : GeneratedLiteral state targetAddress script) : ∀ line ∈ script, line.Readable := by
  intro line hline
  rw [h.script_eq] at hline
  rcases List.mem_append.mp hline with hline | hline
  rcases List.mem_append.mp hline with hline | hline
  · exact readable_literalHeader _ _ line hline
  · refine readable_literalLines _ (fun item hitem => ?_) line hline
    obtain ⟨quad, -, hitem⟩ := List.mem_flatMap.mp hitem
    exact (mem_plannedQuad hitem).2
  · exact readable_literalFooter line hline

/-- A text without line ends has none. -/
theorem newline_notMem_ofList {chars : List Char} (h : chars.contains '\n' = false) :
    '\n' ∉ (String.ofList chars).toList := by
  rw [String.toList_ofList]
  intro hmem
  rw [List.contains_iff_mem.mpr hmem] at h
  cases h

/-- Nor have two of them. -/
theorem newline_notMem_append {text text' : Text} (h : '\n' ∉ text) (h' : '\n' ∉ text') :
    '\n' ∉ text ++ text' := by
  intro hmem
  rcases List.mem_append.mp hmem with hmem | hmem
  · exact h hmem
  · exact h' hmem

/-- A comment with a note after it. -/
theorem readable_notedComment {chars note : List Char} {text : Text}
    (hfront : opensComment chars = true) (htext : '\n' ∉ text)
    (hnote : note.contains '\n' = false) :
    (comment ((String.ofList chars).toList ++ text ++ (String.ofList note).toList)).Readable := by
  rw [List.append_assoc]
  exact readable_comment hfront (newline_notMem_append htext (newline_notMem_ofList hnote))

/-- The header of an export can be read if its time stamp is a single line. -/
theorem readable_headerLines (configuration : Fw2051ScpConfigurationSnapshot) (checksum : UInt64)
    (valueCount : Nat) {timestamp : String}
    (htimestamp : timestamp.toList.all (fun c => c ≠ '\r' ∧ c ≠ '\n') = true) :
    ∀ line ∈ headerLines configuration checksum valueCount timestamp, line.Readable := by
  have hline : '\n' ∉ timestamp.toList := by
    intro hmem
    have hne := of_decide_eq_true (List.all_eq_true.mp htimestamp _ hmem)
    exact hne.2 rfl
  intro line hmem
  simp only [headerLines, List.mem_cons, List.not_mem_nil, or_false] at hmem
  rcases hmem with rfl | rfl | rfl | rfl | rfl | rfl | rfl | rfl | rfl | rfl | rfl | rfl | rfl |
    rfl | rfl | rfl | rfl | rfl
  · exact readable_literalComment (by decide)
  · exact readable_literalComment (by decide)
  · exact readable_comment (by decide) (newline_notMem_decimal _)
  · exact readable_comment (by decide) (newline_notMem_hexadecimal16 _)
  · exact readable_comment (by decide) (newline_notMem_hexadecimal16 _)
  · exact readable_comment (by decide) (newline_notMem_hexadecimal32 _)
  · exact readable_comment (by decide) hline
  · exact readable_comment (by decide) (newline_notMem_decimal _)
  · exact readable_literalComment (by decide)
  · exact readable_literalComment (by decide)
  · exact readable_notedComment (by decide) (newline_notMem_hexadecimal32 _)
      (by decide)
  · exact readable_notedComment (by decide) (newline_notMem_hexadecimal16 _)
      (by decide)
  · exact readable_notedComment (by decide) (newline_notMem_hexadecimal16 _)
      (by decide)
  · exact readable_literalComment (by decide)
  · exact ⟨by decide, .inl rfl⟩
  · exact readable_literalComment (by decide)
  · exact ⟨by decide, .inl rfl⟩
  · trivial

/-- The names of the settings are single lines. -/
theorem newline_notMem_name : ∀ definition ∈ fw2051ScpSettingRegistry,
    '\n' ∉ definition.name.toList := by decide

/-- The lines of a bank can be read. -/
theorem readable_profileQuadLines (quad : Fw2051ScpQuadConfiguration) :
    ∀ line ∈ profileQuadLines quad, line.Readable := by
  intro line hline
  simp only [profileQuadLines, List.mem_append, List.mem_cons, List.not_mem_nil, or_false] at hline
  rcases hline with ((rfl | rfl) | hline) | rfl
  · exact readable_comment (by decide) (newline_notMem_decimal _)
  · exact ⟨selector_mem_writtenRegisters, .inl rfl⟩
  · obtain ⟨definition, hdefinition, rfl⟩ := List.mem_map.mp hline
    refine ⟨mem_writtenRegisters (registerOffset_mem hdefinition),
      .inr ⟨' ' :: definition.name.toList, rfl, ?_⟩⟩
    intro hmem
    rcases List.mem_cons.mp hmem with hmem | hmem
    · cases hmem
    · exact newline_notMem_name definition hdefinition hmem
  · trivial

/-- So can the footer. -/
theorem readable_footerLines : ∀ line ∈ footerLines, line.Readable := by
  intro line hline
  simp only [footerLines, List.mem_cons, List.not_mem_nil, or_false] at hline
  rcases hline with rfl | rfl | rfl
  · exact readable_literalComment (by decide)
  · exact ⟨selector_mem_writtenRegisters, .inl rfl⟩
  · exact readable_literalComment (by decide)

/-- So can the whole export. -/
theorem readable_exported {profile : ScpProfile} {script : GeneratedScript}
    (h : ExportedProfile profile script) : ∀ line ∈ script, line.Readable := by
  obtain ⟨checksum, timestamp, htimestamp, rfl⟩ := h.script_eq
  intro line hline
  rcases List.mem_append.mp hline with hline | hline
  rcases List.mem_append.mp hline with hline | hline
  · exact readable_headerLines _ _ _ htimestamp line hline
  · obtain ⟨quad, -, hline⟩ := List.mem_flatMap.mp hline
    exact readable_profileQuadLines quad line hline
  · exact readable_footerLines line hline

end Readable

/-! ### The writes can be attributed

The evaluator attributes a write to a banked register only behind an assignment of the selector,
which both scripts make before the first such write of every bank. -/

section Attributable

open Evaluator

/-- The selector is moved before the first item, and whenever the quad changes. -/
theorem attributable_literalLines (currentQuad : UInt16) {items : List PlannedLiteralValue}
    (hitems : ∀ item ∈ items,
      item.quad ∈ fw2051ScpQuads ∧ item.registerOffset ∈ scpRegisterOffsets)
    {rest : List (UInt16 × UInt16)} (hrest : ∀ selector, Attributable selector rest)
    (selector : Option UInt16)
    (hselector : ∀ item ∈ items, item.quad = currentQuad → selector = some currentQuad) :
    Attributable selector (GeneratedScript.writes (literalLines currentQuad items) ++ rest) := by
  induction items generalizing currentQuad selector with
  | nil => exact hrest selector
  | cons item items ih =>
      obtain ⟨hquad, hregister⟩ := hitems item List.mem_cons_self
      have hafter := ih item.quad (fun i hi => hitems i (List.mem_cons_of_mem _ hi))
        (some item.quad) fun _ _ _ => rfl
      have hwrite : Attributable (some item.quad) ([(item.registerOffset, item.value)] ++
          (GeneratedScript.writes (literalLines item.quad items) ++ rest)) :=
        attributable_banked (fun written hwritten => by
          rw [List.mem_singleton.mp hwritten]
          exact hregister) hquad hafter
      rw [writes_literalLines]
      by_cases hsame : item.quad = currentQuad
      · rw [if_neg (not_not.mpr hsame), List.nil_append,
          hselector item List.mem_cons_self hsame, ← hsame]
        exact hwrite
      · rw [if_pos hsame]
        exact attributable_selector hquad hwrite selector

/-- Parking the selector is a write of the selector. -/
theorem attributable_park (selector : Option UInt16) :
    Attributable selector [(fw2051ScpSelectorRegister, 0)] := by
  refine attributable_selector (by decide) ?_ selector
  unfold Attributable
  trivial

/-- A literal script selects a bank before it writes to it. -/
theorem attributable_literal {state : Fw2051WorkspaceStartingState}
    {targetAddress : TargetModuleAddress} {script : GeneratedScript}
    (h : GeneratedLiteral state targetAddress script) (selector : Option UInt16) :
    Attributable selector script.writes := by
  have hitems : ∀ item ∈ fw2051ScpQuads.flatMap (plannedQuad state.frontendValues),
      item.quad ∈ fw2051ScpQuads ∧ item.registerOffset ∈ scpRegisterOffsets := by
    intro item hitem
    obtain ⟨quad, hquad, hitem⟩ := List.mem_flatMap.mp hitem
    obtain ⟨rfl, hregister⟩ := mem_plannedQuad hitem
    exact ⟨hquad, hregister⟩
  have hfresh : ∀ quad ∈ fw2051ScpQuads, quad ≠ fw2051ScpQuadCount.toUInt16 := by decide
  rw [writes_generatedLiteral h]
  exact attributable_literalLines _ hitems attributable_park selector
    fun item hitem hquad => absurd hquad (hfresh _ (hitems item hitem).1)

/-- So does an export. -/
theorem attributable_profileWrites {configuration : Fw2051ScpConfigurationSnapshot}
    (h : NumberedQuads configuration.quads) (selector : Option UInt16) :
    Attributable selector (profileWrites configuration) := by
  -- the selector is written in front of every bank
  have hquads : ∀ (quads : List Fw2051ScpQuadConfiguration) (selector : Option UInt16),
      (∀ quad ∈ quads, quad.quad ∈ fw2051ScpQuads) →
      Attributable selector (quads.flatMap profileQuadWrites ++ [(fw2051ScpSelectorRegister, 0)]) := by
    intro quads
    induction quads with
    | nil => exact fun selector _ => attributable_park selector
    | cons quad quads ih =>
        intro selector hmem
        rw [List.flatMap_cons, List.append_assoc, profileQuadWrites, List.cons_append]
        refine attributable_selector (hmem quad List.mem_cons_self)
          (attributable_banked ?_ (hmem quad List.mem_cons_self) (ih _ fun q hq => hmem q (List.mem_cons_of_mem _ hq))) selector
        intro written hwritten
        obtain ⟨definition, hdefinition, rfl⟩ := List.mem_map.mp hwritten
        exact registerOffset_mem hdefinition
  have hnumber : ∀ quad ∈ configuration.quads, quad.quad ∈ fw2051ScpQuads := by
    intro quad hquad
    obtain ⟨index, hi, rfl⟩ := List.mem_iff_getElem.mp hquad
    have hlt := hi
    rw [h.length_eq] at hlt
    obtain ⟨q, hq, heq⟩ := mem_fw2051ScpQuads hlt
    rw [← h.quad_eq index hi, UInt16.toNat_inj] at heq
    exact heq ▸ hq
  -- the two module-wide registers are not followed
  have hglobal : ∀ r : UInt16, r ∉ scpRegisterOffsets → (findFw2051ScpSetting r).isSome →
      ∃ quad ∈ fw2051ScpQuads, selector = some quad :=
    fun r hr hsome => absurd (findFw2051ScpSetting_isSome.mp hsome) hr
  show Attributable selector ((0x6010, configuration.irqLevel) ::
    (0x6044, configuration.outputFormat) ::
      (configuration.quads.flatMap profileQuadWrites ++ [(fw2051ScpSelectorRegister, 0)]))
  rw [Attributable, if_neg (by decide), Attributable, if_neg (by decide)]
  exact ⟨hglobal _ (by decide), hglobal _ (by decide), hquads _ selector hnumber⟩

end Attributable

/-! ### The values that the plans leave

A boundary may be written twice. What counts is the last write of each cell, and that is the value
that was asked for. -/

section Values

/-- The last value of a cell is that of its last write. -/
theorem lastValue_eq_pairWrites (plan : List (Write BankCell UInt16)) (quad : Nat) (r : UInt16) :
    lastValue plan (quad, r) = (pairWrites quad r r plan).getLast?.map (·.after) := by
  unfold lastValue pairWrites
  simp only [or_self]

/-- A cell that is not written to has none. -/
theorem lastValue_eq_none {plan : List (Write BankCell UInt16)} {cell : BankCell}
    (h : ∀ w ∈ plan, w.key ≠ cell) : lastValue plan cell = none := by
  have hnil : (plan.filter fun w => w.key = cell) = [] :=
    List.filter_eq_nil_iff.mpr fun w hw hkey => h w hw (of_decide_eq_true hkey)
  rw [lastValue, hnil]
  rfl

/-- A literal plan writes to cells of the banks. -/
theorem key_of_mem_literalPlan {values : List MvmeInitScriptFrontendValue}
    {w : Write BankCell UInt16} (h : w ∈ literalPlan values) :
    ∃ quad ∈ fw2051ScpQuads, ∃ r ∈ scpRegisterOffsets, w.key = (quad.toNat, r) := by
  obtain ⟨quad, hquad, hw⟩ := List.mem_flatMap.mp h
  obtain ⟨item, hitem, rfl⟩ := List.mem_map.mp hw
  obtain ⟨rfl, hregister⟩ := mem_plannedQuad hitem
  exact ⟨_, hquad, _, hregister, rfl⟩

/-- Valid values are those of the eight banks. -/
theorem ValidFrontendValues.quad_mem {values : List MvmeInitScriptFrontendValue}
    (h : ValidFrontendValues values) {value : MvmeInitScriptFrontendValue} (hvalue : value ∈ values) :
    value.quad ∈ fw2051ScpQuads := by
  obtain ⟨q, hq, heq⟩ := mem_fw2051ScpQuads (h.quad_lt value hvalue)
  rwa [← UInt16.toNat_inj.mp heq]

/-- The plan of a literal script leaves the listed values, and no others. -/
theorem lastValue_literalPlan {state : Fw2051WorkspaceStartingState}
    {targetAddress : TargetModuleAddress} {script : GeneratedScript}
    (h : GeneratedLiteral state targetAddress script) (quad r : UInt16) :
    lastValue (literalPlan state.frontendValues) (quad.toNat, r) =
      (findValue state.frontendValues quad r).map (·.value) := by
  by_cases hcell : quad ∈ fw2051ScpQuads ∧ r ∈ scpRegisterOffsets
  · rw [lastValue_eq_pairWrites, pairWrites_literalPlan hcell.1,
      ← getLast?_plannedQuad (h.planned quad hcell.1) hcell.2, List.getLast?_map, Option.map_map]
    simp only [Bool.or_self]
    rfl
  · have hnone : findValue state.frontendValues quad r = none := by
      cases hfound : findValue state.frontendValues quad r with
      | none => rfl
      | some value =>
          obtain ⟨hmem, rfl, rfl⟩ := findValue_eq_some hfound
          exact absurd ⟨h.valid.quad_mem hmem, h.valid.banked value hmem⟩ hcell
    rw [hnone, lastValue_eq_none]
    · rfl
    · intro w hw hkey
      obtain ⟨quad', hquad', r', hr', hkey'⟩ := key_of_mem_literalPlan hw
      rw [hkey', Prod.mk.injEq, UInt16.toNat_inj] at hkey
      exact hcell ⟨hkey.1 ▸ hquad', hkey.2 ▸ hr'⟩

/-- The value of a profile for a register of a quad. -/
def profileValue (configuration : Fw2051ScpConfigurationSnapshot) (quad registerOffset : UInt16) :
    Option UInt16 :=
  (configuration.quads.find? fun q => q.quad = quad).bind
    (fw2051ScpQuadRegisterValue · registerOffset)

/-- The plan of a block leaves the values of its profile, and no others. -/
theorem lastValue_profile {configuration : Fw2051ScpConfigurationSnapshot}
    (h : NumberedQuads configuration.quads) (quad r : UInt16) :
    lastValue (configuration.quads.flatMap profileQuadPlan) (quad.toNat, r) =
      profileValue configuration quad r := by
  have hkey : ∀ w ∈ configuration.quads.flatMap profileQuadPlan,
      ∃ q ∈ configuration.quads, ∃ r ∈ scpRegisterOffsets, w.key = (q.quad.toNat, r) := by
    intro w hw
    obtain ⟨q, hq, hw⟩ := List.mem_flatMap.mp hw
    obtain ⟨r, hr, rfl⟩ := List.mem_map.mp hw
    exact ⟨q, hq, r, hr, rfl⟩
  cases hfound : configuration.quads.find? fun q => q.quad = quad with
  -- a quad that is not in the profile is not written
  | none =>
      rw [profileValue, hfound, Option.bind_none]
      refine lastValue_eq_none fun w hw hcell => ?_
      obtain ⟨q, hq, r', -, hkey'⟩ := hkey w hw
      rw [hkey', Prod.mk.injEq, UInt16.toNat_inj] at hcell
      exact List.find?_eq_none.mp hfound q hq (decide_eq_true hcell.1)
  | some q =>
      have hq := List.mem_of_find?_eq_some hfound
      have hnumber := List.find?_some hfound
      obtain rfl := of_decide_eq_true hnumber
      rw [profileValue, hfound, Option.bind_some]
      by_cases hr : r ∈ scpRegisterOffsets
      · -- of its own registers each is written once
        have horder : ∀ r ∈ scpRegisterOffsets,
            scpRegisterOffsets.filter (fun r' => r' == r || r' == r) = [r] := by decide
        rw [lastValue_eq_pairWrites, pairWrites_profile h hq (horder r hr),
          quadRegisterValue_eq_some hr]
        rfl
      · -- and no others are
        rw [quadRegisterValue_eq_none hr]
        refine lastValue_eq_none fun w hw hcell => ?_
        obtain ⟨_, _, r', hr', hkey'⟩ := hkey w hw
        rw [hkey', Prod.mk.injEq] at hcell
        exact hr (hcell.2 ▸ hr')

end Values

/-! ### A workspace of one generated script

Among entries that are turned off, the one script is all that is evaluated. Malformed tables around
it make the evaluation fail before that, which is why they are excluded. -/

namespace Evaluator

/-- An entry that is a script to be executed. -/
def EnabledScript (script : Json) : Prop :=
  script.isObject = true ∧
    (script.find? "enabled" = none ∨ script.find? "enabled" = some (.boolean true))

/-- An entry that is a script which is turned off. -/
def DisabledScript (script : Json) : Prop :=
  script.isObject = true ∧ script.find? "enabled" = some (.boolean false)

/-- The only enabled script of the target, and its text. -/
structure OnlyEnabledScript (workspace : MvmeWorkspace) (target : MvmeWorkspaceTarget)
    (context : ScriptContext) (scripts : List Json) (index : Nat) (script : Json)
    (text : String) : Prop where
  located : Located workspace target context scripts
  found : scripts[index]? = some script
  enabled : EnabledScript script
  text : script.find? "vme_script" = some (.string text)
  others : ∀ i other, i ≠ index → scripts[i]? = some other → ¬ EnabledScript other

/-- The tables in which the variables of a script are looked up. -/
def scriptTables (context : ScriptContext) (script : Json) : List (Except String VariableTable) :=
  jsonVariableTable script "variable_table" :: ScriptContext.variableTables context

/-- The variable tables of a script and around it can be read, and all other entries are scripts
that are turned off. -/
structure WellFormedAround (context : ScriptContext) (scripts : List Json) (index : Nat)
    (script : Json) : Prop where
  tables : ∀ table ∈ scriptTables context script, ∃ vars, table = .ok vars
  others : ∀ i other, i ≠ index → scripts[i]? = some other → DisabledScript other

section OneScript

/-- Tables can be collected if every one of them is well formed. -/
theorem exists_mapM_id_iff {tables : List (Except String VariableTable)} :
    (∃ outer, tables.mapM id = .ok outer) ↔ ∀ table ∈ tables, ∃ vars, table = .ok vars := by
  induction tables with
  | nil => exact ⟨fun _ _ h => (nomatch h), fun _ => ⟨[], rfl⟩⟩
  | cons table tables ih =>
      rw [List.mapM_cons]
      constructor
      · rintro ⟨outer, houter⟩
        cases table with
        | error message => cases houter
        | ok vars =>
            cases hrest : tables.mapM id with
            | error message => rw [hrest] at houter; cases houter
            | ok rest =>
                intro table htable
                rcases List.mem_cons.mp htable with rfl | htable
                · exact ⟨vars, rfl⟩
                · exact ih.mp ⟨rest, hrest⟩ table htable
      · intro h
        obtain ⟨vars, rfl⟩ := h table List.mem_cons_self
        obtain ⟨outer, houter⟩ := ih.mpr fun table htable => h table (List.mem_cons_of_mem _ htable)
        exact ⟨vars :: outer, by rw [houter]; rfl⟩

/-- What an enabled entry does. -/
theorem entryEffect_enabled {context : ScriptContext} {script : Json} (h : EnabledScript script)
    (n : Nat) : entryEffect context script n = enabledEffect context script n := by
  unfold entryEffect
  rw [h.1, Bool.not_true, if_neg Bool.false_ne_true]
  rcases h.2 with hfound | hfound <;> rw [hfound]

/-- A script with all four tables is gone through, one without is not. -/
theorem entryEffect_cases (context : ScriptContext) {script : Json} {text : String}
    (henabled : EnabledScript script) (htext : script.find? "vme_script" = some (.string text))
    (n : Nat) :
    ((∀ table ∈ scriptTables context script, ∃ vars, table = .ok vars) ∧
        ∃ resolver, entryEffect context script n = .script text.toList resolver) ∨
      (¬ (∀ table ∈ scriptTables context script, ∃ vars, table = .ok vars) ∧
        ∃ count issues, entryEffect context script n = .unusable count issues) := by
  have hlisted : [script, context.module, context.event, context.daq].map
      (jsonVariableTable · "variable_table") = scriptTables context script := rfl
  rw [entryEffect_enabled henabled, ← exists_mapM_id_iff]
  unfold enabledEffect
  rw [htext]
  dsimp only
  rw [hlisted]
  cases (scriptTables context script).mapM id with
  | ok outer => exact .inl ⟨⟨outer, rfl⟩, _, rfl⟩
  | error message =>
      refine .inr ⟨fun h => ?_, _, _, rfl⟩
      obtain ⟨outer, hsome⟩ := h
      cases hsome

/-- Only an enabled script with a text is gone through. -/
theorem tables_of_script {context : ScriptContext} {script : Json} {n : Nat} {text : Text}
    {resolver : ValueResolver} (h : entryEffect context script n = .script text resolver) :
    ∀ table ∈ scriptTables context script, ∃ vars, table = .ok vars := by
  have hobject := isObject_of_script context h
  have henabled : EnabledScript script := by
    refine ⟨hobject, ?_⟩
    unfold entryEffect at h
    rw [hobject, Bool.not_true, if_neg Bool.false_ne_true] at h
    split at h
    next hfound => exact .inl hfound
    next hfound => exact .inr hfound
    · cases h
    · cases h
  -- an entry that became a script holds one as text
  have htext : ∃ payload, script.find? "vme_script" = some (.string payload) := by
    rw [entryEffect_enabled henabled] at h
    unfold enabledEffect at h
    split at h
    next payload hfound => exact ⟨payload, hfound⟩
    · cases h
  obtain ⟨payload, hpayload⟩ := htext
  rcases entryEffect_cases context henabled hpayload n with
    ⟨htables, -⟩ | ⟨-, count, issues, hunusable⟩
  · exact htables
  · cases h.symm.trans hunusable

/-- A disabled entry does nothing. -/
theorem entryEffect_disabled {context : ScriptContext} {script : Json} (h : DisabledScript script)
    (n : Nat) : entryEffect context script n = .disabled := by
  unfold entryEffect
  rw [h.1, h.2, Bool.not_true, if_neg Bool.false_ne_true]

/-- Scripts that are turned off do nothing. -/
theorem evaluateEntriesFrom_disabled (address : TargetModuleAddress) (context : ScriptContext)
    (e : Evaluator) (n : Nat) {scripts : List Json} (h : ∀ script ∈ scripts, DisabledScript script) :
    evaluateEntriesFrom address context e n scripts = e := by
  induction scripts generalizing n with
  | nil => rfl
  | cons script scripts ih =>
      rw [evaluateEntriesFrom_cons, entryEffect_disabled (h script List.mem_cons_self)]
      exact ih (n + 1) fun script hscript => h script (List.mem_cons_of_mem _ hscript)

/-- Among disabled entries only the one is evaluated. -/
theorem evaluateEntriesFrom_only (address : TargetModuleAddress) (context : ScriptContext)
    (e : Evaluator) (n : Nat) {scripts : List Json} {index : Nat} {script : Json}
    (hscript : scripts[index]? = some script)
    (hothers : ∀ i other, i ≠ index → scripts[i]? = some other → DisabledScript other) :
    evaluateEntriesFrom address context e n scripts =
      (entryEffect context script (n + index)).apply address (n + index) e := by
  induction scripts generalizing index n with
  | nil => cases hscript
  | cons first scripts ih =>
      cases index with
      | zero =>
          cases hscript
          rw [evaluateEntriesFrom_cons, evaluateEntriesFrom_disabled]
          · rfl
          · intro other hother
            obtain ⟨i, hi⟩ := List.mem_iff_getElem?.mp hother
            exact hothers (i + 1) other (Nat.succ_ne_zero i) hi
      | succ index =>
          have hfirst := hothers 0 first (Nat.succ_ne_zero index).symm rfl
          have hrest := ih (n + 1) hscript fun i other hne hi =>
            hothers (i + 1) other (fun heq => hne (Nat.succ.inj heq)) hi
          rw [evaluateEntriesFrom_cons, entryEffect_disabled hfirst]
          rw [show n + 1 + index = n + (index + 1) by omega] at hrest
          exact hrest

/-- A script that can be read and attributed leaves what its plan leaves. -/
theorem definite_of_script {workspace : MvmeWorkspace} {target : MvmeWorkspaceTarget}
    {context : ScriptContext} {scripts : List Json} {index : Nat} {script : Json}
    {generated : GeneratedScript}
    (honly : OnlyEnabledScript workspace target context scripts index script generated.text)
    (haround : WellFormedAround context scripts index script)
    (hreadable : ∀ line ∈ generated, line.Readable)
    (hattributable : Attributable none generated.writes) :
    Definite (evaluateMvmeTargetInitScripts workspace target) fun quad registerOffset =>
      lastValue (cellWrites 0 generated.writes) (quad.toNat, registerOffset) := by
  have heffect : ∃ resolver, entryEffect context script (0 + index) =
      .script generated.text.toList resolver := by
    rcases entryEffect_cases context honly.enabled honly.text (0 + index) with
      ⟨-, heffect⟩ | ⟨htables, -⟩
    · exact heffect
    · exact absurd haround.tables htables
  obtain ⟨resolver, heffect⟩ := heffect
  -- the other entries of the module change nothing
  have hentries : evaluateEntries target.address context scripts =
      (EntryEffect.script generated.text.toList resolver).apply target.address (0 + index) {} := by
    rw [← heffect]
    exact evaluateEntriesFrom_only target.address context {} 0 honly.found haround.others
  have hevaluated := @evaluated_scriptEntry {} target.address (0 + index) generated hreadable rfl
    hattributable resolver
  rw [← hentries] at hevaluated
  have hrun : evaluateMvmeTargetInitScripts workspace target =
      evaluateScripts target.address context scripts := run_eq_of_located honly.located
  have hempty (quad registerOffset : UInt16) :
      ({} : Evaluator).valueAt quad registerOffset = none := by
    rw [valueAt, show ({} : Evaluator).finalValues = ∅ from rfl, Std.TreeMap.getElem?_emptyc]
    rfl
  rw [hrun]
  refine ⟨reproduces_evaluateScripts_iff.mpr ⟨settled_initial.of_evaluated hevaluated, ?_⟩, ?_⟩
  · intro quad registerOffset
    rw [hevaluated.values, hempty, Option.or_none]
    rfl
  · -- none of the issues concerns the frontend
    obtain ⟨issues, heq, hissues⟩ := hevaluated.issues
    intro issue hissue hfrontend
    have hmem : issue ∈ (evaluateEntries target.address context
        scripts).result.unresolvedStatements := hissue
    rw [heq] at hmem
    cases hfrontend.symm.trans (hissues issue hmem)

end OneScript

/-- The literal script of a starting state evaluates to the values of the state, and the block of a
profile to the values of the profile, where the rest of the module is well formed. -/
theorem generatedScripts_roundTrip (workspace : MvmeWorkspace) (target : MvmeWorkspaceTarget)
    {context : ScriptContext} {scripts : List Json} {index : Nat} {script : Json} {text : String}
    (honly : OnlyEnabledScript workspace target context scripts index script text)
    (haround : WellFormedAround context scripts index script) :
    (∀ (state : Fw2051WorkspaceStartingState) (address : TargetModuleAddress),
      (generateFw2051LiteralScript state address).success = true →
      (generateFw2051LiteralScript state address).script.text = text →
      Definite (evaluateMvmeTargetInitScripts workspace target) fun quad registerOffset =>
        (findValue state.frontendValues quad registerOffset).map (·.value)) ∧
    ∀ (profile : ScpProfile) (timestamp : String),
      (generateFw2051MvmeScript profile timestamp).success = true →
      (generateFw2051MvmeScript profile timestamp).script.text = text →
      Definite (evaluateMvmeTargetInitScripts workspace target)
        (profileValue profile.configuration) := by
  constructor
  · intro state address hsuccess htext
    have hliteral := generatedLiteral_of_success hsuccess
    subst htext
    have hdefinite := definite_of_script honly haround (readable_literal hliteral)
      (attributable_literal hliteral none)
    refine { hdefinite with values := fun quad registerOffset => ?_ }
    rw [hdefinite.values, cellWrites_literal hliteral, lastValue_literalPlan hliteral]
  · intro profile timestamp hsuccess htext
    have hprofile := exportedProfile_of_success hsuccess
    subst htext
    have hdefinite := definite_of_script honly haround (readable_exported hprofile) (by
      rw [writes_exported hprofile]
      exact attributable_profileWrites hprofile.valid.numbered none)
    refine { hdefinite with values := fun quad registerOffset => ?_ }
    rw [hdefinite.values, writes_exported hprofile, cellWrites_profileWrites,
      lastValue_profile hprofile.valid.numbered]

/-- Something that is no entry, after one that may be. -/
theorem state_of_null (address : TargetModuleAddress) (context : ScriptContext) (script : Json) :
    (evaluateScripts address context [script, .null]).state = .failed := by
  have hentries : evaluateEntries address context [script, .null] =
      (refusedEffect 1 0 "An init script entry is not an object.").apply address 1
        ((entryEffect context script 0).apply address 0 {}) := by
    show evaluateEntriesFrom address context {} 0 [script, .null] = _
    rw [evaluateEntriesFrom_cons, evaluateEntriesFrom_cons]
    rfl
  show (evaluateEntries address context [script, .null]).finalState.1 = .failed
  rw [hentries]
  exact finalState_refusedEffect ..

/-! ### Workspaces of one generated script -/

/-- A literal script. -/
def exampleLiteral : Fw2051LiteralScriptResult :=
  generateFw2051LiteralScript exampleStartingState exampleTargetAddress

/-- An export of a profile. -/
def exampleExport : MvmeExportResult :=
  generateFw2051MvmeScript { configuration := exampleSnapshot exampleQuads } "now"

/-- An entry with a text, and perhaps with other members. -/
def exampleEntry (text : String) (members : List (String × Json)) : Json :=
  .object (("vme_script", .string text) :: members)

/-- Among entries that are not enabled the script is the only one. -/
theorem onlyEnabled_exampleEntry (text : String) (members : List (String × Json))
    (others : List Json) (henabled : EnabledScript (exampleEntry text members))
    (hothers : ∀ other ∈ others, ¬ EnabledScript other) :
    OnlyEnabledScript (exampleWorkspace (exampleEntry text members :: others)) exampleTarget
      (exampleContext (exampleEntry text members :: others)) (exampleEntry text members :: others) 0
      (exampleEntry text members) text where
  located := located_exampleWorkspace _
  found := rfl
  enabled := henabled
  text := rfl
  others := by
    intro i other hne hother
    cases i with
    | zero => exact absurd rfl hne
    | succ i => exact hothers other (List.mem_iff_getElem?.mpr ⟨i, hother⟩)

/-- Nothing around it is malformed. -/
theorem wellFormed_exampleEntry (text : String) :
    WellFormedAround (exampleContext [exampleEntry text []]) [exampleEntry text []] 0
      (exampleEntry text []) where
  tables := by
    intro table htable
    have hnone : table = .ok [] := by
      rcases List.mem_cons.mp htable with rfl | htable
      · rfl
      simp only [ScriptContext.variableTables, List.map_cons, List.map_nil, List.mem_cons,
        List.not_mem_nil, or_false] at htable
      rcases htable with rfl | rfl | rfl <;> rfl
    exact ⟨[], hnone⟩
  others := by
    intro i other hne hother
    cases i with
    | zero => exact absurd rfl hne
    | succ i => cases hother

/-- Two modules, one with each kind of script. -/
theorem generatedScripts_roundTrip_example :
    Definite (evaluateMvmeTargetInitScripts
        (exampleWorkspace [exampleEntry exampleLiteral.script.text []]) exampleTarget)
      (fun quad registerOffset =>
        (findValue exampleStartingState.frontendValues quad registerOffset).map (·.value)) ∧
    Definite (evaluateMvmeTargetInitScripts
        (exampleWorkspace [exampleEntry exampleExport.script.text []]) exampleTarget)
      (profileValue (exampleSnapshot exampleQuads)) := by
  constructor
  · exact (generatedScripts_roundTrip _ _
      (onlyEnabled_exampleEntry _ [] [] ⟨rfl, .inl rfl⟩ fun _ h => nomatch h)
      (wellFormed_exampleEntry _)).1
      exampleStartingState exampleTargetAddress (by decide +kernel) rfl
  · exact (generatedScripts_roundTrip _ _
      (onlyEnabled_exampleEntry _ [] [] ⟨rfl, .inl rfl⟩ fun _ h => nomatch h)
      (wellFormed_exampleEntry _)).2
      { configuration := exampleSnapshot exampleQuads } "now" (by decide +kernel) rfl

/-- A variable table that is no table, and an entry that is no script, make the evaluation fail
although the only enabled script is a generated one. -/
theorem generatedScripts_roundTrip_fails :
    let tabled := exampleEntry exampleLiteral.script.text [("variable_table", .null)]
    let plain := exampleEntry exampleLiteral.script.text []
    exampleLiteral.success = true ∧
    OnlyEnabledScript (exampleWorkspace [tabled]) exampleTarget (exampleContext [tabled]) [tabled] 0
      tabled exampleLiteral.script.text ∧
    (evaluateMvmeTargetInitScripts (exampleWorkspace [tabled]) exampleTarget).state = .failed ∧
    OnlyEnabledScript (exampleWorkspace [plain, .null]) exampleTarget (exampleContext [plain, .null])
      [plain, .null] 0 plain exampleLiteral.script.text ∧
    (evaluateMvmeTargetInitScripts (exampleWorkspace [plain, .null]) exampleTarget).state =
      .failed := by
  intro tabled plain
  have hothers : ∀ other ∈ [Json.null], ¬ EnabledScript other := by
    intro other hother henabled
    rw [List.mem_singleton.mp hother] at henabled
    cases henabled.1
  refine ⟨by decide +kernel, ?_, by decide +kernel, ?_, ?_⟩
  · exact onlyEnabled_exampleEntry _ [("variable_table", .null)] [] ⟨rfl, .inl rfl⟩
      fun _ h => nomatch h
  · exact onlyEnabled_exampleEntry _ [] [.null] ⟨rfl, .inl rfl⟩ hothers
  · have hrun : evaluateMvmeTargetInitScripts (exampleWorkspace [plain, .null]) exampleTarget =
        evaluateScripts exampleTarget.address (exampleContext [plain, .null]) [plain, .null] :=
      run_eq_of_located (located_exampleWorkspace _)
    rw [hrun]
    exact state_of_null ..

end Evaluator

end Fidget
