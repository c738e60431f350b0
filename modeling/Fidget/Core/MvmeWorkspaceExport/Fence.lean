import Fidget.Core.MvmeInitScript.Generated
import Fidget.Core.MvmeWorkspaceExport.Copy
import Fidget.Core.MvmeWorkspaceExport.Plan

/-!
# The fence of a literal script

The markers of a literal script stand on its first line and its last, and nowhere else: whatever it
writes in between, it is recognised when the workspace is exported again.

## Main results

- `trimFence_fencedText`: the text between its markers.
- `occurrenceCount_middle`: no marker stands in between.
-/

namespace Fidget

open MvmeInitScript NumberText ScriptLine

namespace MvmeWorkspaceExport

/-! ### Occurrences in lines

The markers stand on lines of their own, and no marker contains a line end, so their occurrences can
be counted line by line. -/

section Occurrences

variable {marker : Text}

/-- A marker without a newline does not reach across the end of a line. -/
theorem prefix_line_iff (hmarker : '\n' ∉ marker) (line rest : Text) :
    marker <+: line ++ '\n' :: rest ↔ marker <+: line := by
  constructor
  · intro hbegins
    have hline : line ++ ['\n'] <+: line ++ '\n' :: rest := ⟨rest, by simp⟩
    rcases List.prefix_or_prefix_of_prefix hbegins hline with hshort | hlong
    · rcases List.prefix_concat_iff.mp hshort with heq | hbegins
      · rw [heq] at hmarker
        exact absurd (List.mem_append_right _ List.mem_cons_self) hmarker
      · exact hbegins
    · exact absurd (hlong.subset (List.mem_append_right _ List.mem_cons_self)) hmarker
  · exact fun hbegins => hbegins.trans (List.prefix_append ..)

/-- The search goes on behind a marker that it has found. -/
theorem occurrencesFrom_zero_cons (marker : Text) (c : Char) (text : Text) :
    occurrencesFrom marker 0 (c :: text) =
      if marker <+: c :: text then 1 + occurrencesFrom marker (marker.length - 1) text
      else occurrencesFrom marker 0 text := by
  rw [occurrencesFrom]
  simp only [List.isPrefixOf_iff_prefix]

/-- A marker without a newline occurs in a line or behind it. -/
theorem occurrencesFrom_line (hmarker : '\n' ∉ marker) (hne : marker ≠ []) {line : Text}
    (rest : Text) {skip : Nat} (hskip : skip ≤ line.length) :
    occurrencesFrom marker skip (line ++ '\n' :: rest) =
      occurrencesFrom marker skip line + occurrencesFrom marker 0 rest := by
  induction line generalizing skip with
  | nil =>
      obtain rfl := Nat.le_zero.mp hskip
      have hno : ¬ marker <+: '\n' :: rest := by
        intro hbegins
        exact hne (List.prefix_nil.mp ((prefix_line_iff hmarker [] rest).mp hbegins))
      rw [List.nil_append, occurrencesFrom_zero_cons, if_neg hno, occurrencesFrom, Nat.zero_add]
  | cons c line ih =>
      cases skip with
      | succ skip =>
          rw [List.cons_append, occurrencesFrom, occurrencesFrom]
          exact ih (Nat.le_of_succ_le_succ hskip)
      | zero =>
          have hsame := prefix_line_iff hmarker (c :: line) rest
          rw [List.cons_append] at hsame ⊢
          rw [occurrencesFrom_zero_cons, occurrencesFrom_zero_cons]
          by_cases hbegins : marker <+: c :: line
          · have hlength : marker.length - 1 ≤ line.length := by
              have hle := hbegins.length_le
              rw [List.length_cons] at hle
              omega
            rw [if_pos (hsame.mpr hbegins), if_pos hbegins, ih hlength, Nat.add_assoc]
          · rw [if_neg fun h => hbegins (hsame.mp h), if_neg hbegins, ih (Nat.zero_le _)]

/-- What counts in lines is what counts in each of them. -/
theorem occurrenceCount_lines (hmarker : '\n' ∉ marker) (hne : marker ≠ []) (lines : List Text)
    (rest : Text) :
    occurrenceCount (lines.flatMap (· ++ ['\n']) ++ rest) marker =
      (lines.map (occurrenceCount · marker)).sum + occurrenceCount rest marker := by
  induction lines with
  | nil => simp
  | cons line lines ih =>
      rw [List.flatMap_cons, List.append_assoc, List.append_assoc, List.singleton_append,
        List.map_cons, List.sum_cons, Nat.add_assoc, ← ih]
      exact occurrencesFrom_line hmarker hne _ (Nat.zero_le _)

/-- A marker does not occur where one of its characters does not. -/
theorem occurrenceCount_of_notMem {c : Char} (hc : c ∈ marker) {text : Text} (h : c ∉ text) :
    occurrenceCount text marker = 0 := by
  unfold occurrenceCount
  induction text with
  | nil => rfl
  | cons d text ih =>
      rw [occurrencesFrom_zero_cons, if_neg]
      · exact ih fun hmem => h (List.mem_cons_of_mem _ hmem)
      · exact fun hbegins => h (hbegins.subset hc)

end Occurrences

/-! ### A text between fences

A text between the markers is recognised if no line in it has a marker. Both markers contain an
equals sign, so it is enough that no line has one. -/

def beginMarker : Text := fidgetTunedFrontendFenceBegin.toList

def endMarker : Text := fidgetTunedFrontendFenceEnd.toList

/-- A text that has the markers on its first line and its last. -/
def fencedText (middle : List Text) : Text :=
  (beginMarker :: middle ++ [endMarker]).flatMap (· ++ ['\n'])

/-- The same without its last newline. -/
def fencedBody (middle : List Text) : Text :=
  beginMarker ++ '\n' :: (middle.flatMap (· ++ ['\n']) ++ endMarker)

theorem fencedText_eq (middle : List Text) : fencedText middle = fencedBody middle ++ ['\n'] := by
  unfold fencedText fencedBody
  rw [List.flatMap_append, List.flatMap_cons]
  simp

/-- Blanks at the two ends do not count. -/
theorem trimFence_fencedText (middle : List Text) :
    trimFence (fencedText middle) = fencedBody middle := by
  have hfront : (fencedText middle).dropWhile isFenceBlank = fencedText middle := by
    rw [fencedText_eq]
    rfl
  have hback : (fencedBody middle).reverse.dropWhile isFenceBlank = (fencedBody middle).reverse := by
    unfold fencedBody
    rw [List.reverse_append, List.reverse_cons, List.reverse_append]
    rfl
  unfold trimFence
  rw [hfront, fencedText_eq, List.reverse_append, List.reverse_singleton, List.singleton_append,
    List.dropWhile_cons_of_pos (by decide), hback, List.reverse_reverse]

section Fenced

variable {middle : List Text} (h : ∀ line ∈ middle, '=' ∉ line)

include h

/-- Every marker contains an equals sign, and no line between them does. -/
theorem occurrenceCount_middle {marker : Text} (hmarker : '=' ∈ marker) :
    (middle.map (occurrenceCount · marker)).sum = 0 := by
  rw [List.sum_eq_zero]
  intro count hcount
  obtain ⟨line, hline, rfl⟩ := List.mem_map.mp hcount
  exact occurrenceCount_of_notMem hmarker (h line hline)

/-- A text with the markers around lines that have none is between fences. -/
theorem inspectFidgetFence_fencedText : inspectFidgetFence (fencedText middle) = .complete := by
  have hmarkers : '\n' ∉ beginMarker ∧ beginMarker ≠ [] ∧ '=' ∈ beginMarker ∧
      '\n' ∉ endMarker ∧ endMarker ≠ [] ∧ '=' ∈ endMarker := by decide
  obtain ⟨hnewline, hne, hequals, hnewline', hne', hequals'⟩ := hmarkers
  have hcounts : occurrenceCount beginMarker beginMarker = 1 ∧
      occurrenceCount endMarker beginMarker = 0 ∧ occurrenceCount beginMarker endMarker = 0 ∧
        occurrenceCount endMarker endMarker = 1 := by decide +kernel
  obtain ⟨hbegin, hend, hbegin', hend'⟩ := hcounts
  -- each marker occurs once
  have hbeginCount : occurrenceCount (fencedText middle) beginMarker = 1 := by
    have hlines := occurrenceCount_lines hnewline hne (beginMarker :: middle ++ [endMarker]) []
    rw [List.append_nil, List.map_append, List.map_cons, List.sum_append, List.sum_cons, hbegin,
      occurrenceCount_middle h hequals] at hlines
    rw [fencedText, hlines, List.map_singleton, List.sum_singleton, hend]
    rfl
  have hendCount : occurrenceCount (fencedText middle) endMarker = 1 := by
    have hlines := occurrenceCount_lines hnewline' hne' (beginMarker :: middle ++ [endMarker]) []
    rw [List.append_nil, List.map_append, List.map_cons, List.sum_append, List.sum_cons, hbegin',
      occurrenceCount_middle h hequals'] at hlines
    rw [fencedText, hlines, List.map_singleton, List.sum_singleton, hend']
    rfl
  -- and the closing one is behind the opening one
  have hinner : occurrenceCount ((fencedBody middle).drop beginMarker.length) endMarker = 1 := by
    have hlines := occurrenceCount_lines hnewline' hne' ([] :: middle) endMarker
    rw [List.map_cons, List.sum_cons, occurrenceCount_middle h hequals', hend'] at hlines
    rw [fencedBody, List.drop_left]
    exact hlines
  -- they are at the two ends
  have hlast : (fencedBody middle).drop ((fencedBody middle).length - endMarker.length) =
      endMarker := by
    unfold fencedBody
    rw [← List.cons_append, ← List.append_assoc, List.length_append, Nat.add_sub_cancel,
      List.drop_left]
  have hlength : ¬ (fencedBody middle).length < beginMarker.length + endMarker.length := by
    unfold fencedBody
    rw [List.length_append, List.length_cons, List.length_append]
    omega
  have hfirst : (fencedBody middle).take beginMarker.length = beginMarker := List.take_left
  unfold inspectFidgetFence
  simp only [show fidgetTunedFrontendFenceBegin.toList = beginMarker from rfl,
    show fidgetTunedFrontendFenceEnd.toList = endMarker from rfl, hbeginCount, hendCount,
    trimFence_fencedText, hinner, hlast, hfirst, hlength]
  rfl

end Fenced

/-! ### The literal script

Digits, registers, names and remarks are gone through: none of them has an equals sign. -/

/-- Digits are no equals signs. -/
theorem ne_equals_of_isDigitOf {base : Nat} {c : Char} (h : isDigitOf base c = true) : c ≠ '=' := by
  rintro rfl
  unfold isDigitOf at h
  rw [show digitValue '=' = none from rfl] at h
  cases h

theorem notMem_hexadecimal (width value : Nat) : '=' ∉ hexadecimal width value :=
  fun h => ne_equals_of_isDigitOf (isDigitOf_of_mem_hexadecimal h) rfl

theorem notMem_decimal (value : Nat) : '=' ∉ decimal value :=
  fun h => ne_equals_of_isDigitOf (isDigitOf_of_mem_decimal h) rfl

theorem notMem_hexadecimal16 (value : UInt16) : '=' ∉ ScriptLine.hexadecimal16 value := by
  intro h
  unfold ScriptLine.hexadecimal16 at h
  rw [List.mem_cons, List.mem_cons] at h
  rcases h with h | h | h
  · exact absurd h (by decide)
  · exact absurd h (by decide)
  · exact notMem_hexadecimal 4 value.toNat h

theorem notMem_append {front back : Text} (hfront : '=' ∉ front) (hback : '=' ∉ back) :
    '=' ∉ front ++ back := by
  intro h
  exact (List.mem_append.mp h).elim hfront hback

theorem notMem_literal {text : Text} (h : '=' ∉ text) : '=' ∉ (String.ofList text).toList := by
  rw [String.toList_ofList]
  exact h

/-- Nor does a write contain one. -/
theorem notMem_longWrite (registerOffset value : UInt16) :
    '=' ∉ (longWrite registerOffset value).text := by
  apply notMem_append
  · exact notMem_append (by decide) (notMem_hexadecimal16 registerOffset)
  · exact @notMem_append [' '] _ (by decide) (notMem_hexadecimal16 value)

theorem notMem_longWriteLines (registerOffset value : UInt16) :
    ∀ line ∈ longWriteLines registerOffset value, '=' ∉ line.text := by
  intro line hline
  unfold longWriteLines at hline
  rw [List.mem_cons, List.mem_singleton] at hline
  rcases hline with hwrite | hsettle
  · rw [hwrite]
    exact notMem_longWrite registerOffset value
  · rw [hsettle]
    decide

theorem notMem_quadRemark (quad : UInt16) :
    '=' ∉ (comment ("# Quad ".toList ++ decimal quad.toNat)).text :=
  notMem_append (by decide) (notMem_decimal quad.toNat)

/-- Nor does anything else that the script writes. -/
theorem notMem_literalLines (currentQuad : UInt16) (items : List PlannedLiteralValue) :
    ∀ line ∈ literalLines currentQuad items, '=' ∉ line.text := by
  induction items generalizing currentQuad with
  | nil => intro line hline; cases hline
  | cons item items ih =>
      intro line hline
      rw [literalLines, List.mem_append, List.mem_append, List.mem_append] at hline
      rcases hline with ((hquad | hboundary) | hwrite) | hrest
      · split at hquad
        · rcases List.mem_append.mp hquad with hblank | hselector
          · split at hblank
            · rw [List.mem_singleton.mp hblank]
              decide
            · cases hblank
          · rw [List.mem_cons] at hselector
            rcases hselector with hremark | hselector
            · rw [hremark]
              exact notMem_quadRemark item.quad
            · exact notMem_longWriteLines _ _ line hselector
        · cases hquad
      · split at hboundary
        · rw [List.mem_singleton.mp hboundary]
          decide
        · cases hboundary
      · exact notMem_longWriteLines _ _ line hwrite
      · exact ih _ line hrest

/-- The header without its first line, and the footer without its last. -/
theorem notMem_header (state : Fw2051WorkspaceStartingState) (targetAddress : TargetModuleAddress) :
    ∀ line ∈ (literalHeader state targetAddress).tail, '=' ∉ line.text := by
  have hbase : '=' ∉ (comment ("# target_a32_base: ".toList
      ++ ScriptLine.hexadecimal32 targetAddress.fullA32Value)).text := by
    apply notMem_append (notMem_literal (by decide))
    intro h
    unfold ScriptLine.hexadecimal32 at h
    rw [List.mem_cons, List.mem_cons] at h
    rcases h with h | h | h
    · exact absurd h (by decide)
    · exact absurd h (by decide)
    · exact notMem_hexadecimal 8 _ h
  have hcount : '=' ∉ (comment ("# resolved_value_count: ".toList
      ++ decimal state.frontendValues.length)).text :=
    notMem_append (notMem_literal (by decide)) (notMem_decimal _)
  have hunresolved : '=' ∉ (comment ("# unresolved_non_frontend_count: ".toList
      ++ decimal state.unresolvedNonFrontend.length)).text :=
    notMem_append (notMem_literal (by decide)) (notMem_decimal _)
  -- the other lines of the header are fixed texts
  intro line hline
  simp only [literalHeader, List.tail_cons, List.mem_cons, List.not_mem_nil, or_false] at hline
  rcases hline with rfl | rfl | rfl | rfl | rfl | rfl | rfl | rfl | rfl
  · exact notMem_append (notMem_literal (by decide)) (notMem_literal (by decide))
  · exact hbase
  · exact notMem_literal (by decide)
  · exact notMem_literal (by decide)
  · exact notMem_literal (by decide)
  · exact notMem_literal (by decide)
  · exact hcount
  · exact hunresolved
  · exact List.not_mem_nil

theorem notMem_footer : ∀ line ∈ literalFooter.dropLast, '=' ∉ line.text := by decide

/-- What stands between the markers of a literal script. -/
theorem text_generatedLiteral {state : Fw2051WorkspaceStartingState}
    {targetAddress : TargetModuleAddress} {script : GeneratedScript}
    (h : GeneratedLiteral state targetAddress script) :
    ∃ middle : List Text, script.text.toList = fencedText middle ∧
      ∀ line ∈ middle, '=' ∉ line := by
  let items := literalLines fw2051ScpQuadCount.toUInt16
    (fw2051ScpQuads.flatMap (plannedQuad state.frontendValues))
  let lines := (literalHeader state targetAddress).tail ++ items ++ literalFooter.dropLast
  have hscript : script = comment beginMarker :: lines ++ [comment endMarker] := by
    have hheader : literalHeader state targetAddress =
        comment beginMarker :: (literalHeader state targetAddress).tail := rfl
    have hfooter : literalFooter = literalFooter.dropLast ++ [comment endMarker] := rfl
    rw [h.script_eq, hheader, hfooter]
    simp [lines, items]
  refine ⟨lines.map ScriptLine.text, ?_, ?_⟩
  · have htexts : script.map ScriptLine.text =
        beginMarker :: lines.map ScriptLine.text ++ [endMarker] := by
      rw [hscript, List.map_append]
      rfl
    unfold GeneratedScript.text fencedText
    rw [String.toList_ofList, ← htexts, List.flatMap_map]
  · intro text htext
    obtain ⟨line, hline, rfl⟩ := List.mem_map.mp htext
    rcases List.mem_append.mp hline with hline | hline
    · rcases List.mem_append.mp hline with hline | hline
      · exact notMem_header state targetAddress line hline
      · exact notMem_literalLines _ _ line hline
    · exact notMem_footer line hline

/-- A literal script is recognised by its fence. -/
theorem inspectFidgetFence_generatedLiteral {state : Fw2051WorkspaceStartingState}
    {targetAddress : TargetModuleAddress}
    (h : (generateFw2051LiteralScript state targetAddress).success = true) :
    inspectFidgetFence (generateFw2051LiteralScript state targetAddress).script.text.toList =
      .complete := by
  obtain ⟨middle, htext, hmiddle⟩ := text_generatedLiteral (generatedLiteral_of_success h)
  rw [htext]
  exact inspectFidgetFence_fencedText hmiddle

end MvmeWorkspaceExport

end Fidget
