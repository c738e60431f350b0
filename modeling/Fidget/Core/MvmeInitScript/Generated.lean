import Fidget.Core.GeneratedScript
import Fidget.Core.MvmeInitScript.PlainWords
import Fidget.Core.MvmeInitScript.Rollback
import Fidget.Lib.Lists

/-!
# Reading generated scripts

The evaluator reads a generated script line by line as what the exporter meant: comments are
nothing, a write in either form is a write, and a wait is reported as a statement that does not
matter to the frontend.

The exporter's lines are described by `ScriptLine`, and here each of them is put through the
evaluator: comments are stripped, the line is split into words, none of them needs expanding, and
the statement is carried out.

## Main results

- `lineEffect`: what the evaluator makes of a generated line.
- `evaluateText_generated`: a generated script does the effects of its lines, in order.
-/

namespace Fidget

open scoped Fidget.Lists

open MvmeInitScript NumberText

namespace ScriptLine

/-- The registers that generated scripts write. -/
def writtenRegisters : List UInt16 :=
  0x6010 :: 0x6044 :: fw2051ScpSelectorRegister :: fw2051ScpSettingRegistry.map (·.registerOffset)

/-- A comment that is one, and a register that is known. -/
def Readable : ScriptLine → Prop
  | comment text => ∃ rest, text = '#' :: rest ∧ '\n' ∉ rest
  | longWrite registerOffset _ => registerOffset ∈ writtenRegisters
  | shortWrite registerOffset _ remark =>
    registerOffset ∈ writtenRegisters ∧
      (remark = [] ∨ ∃ rest, remark = ' ' :: '#' :: rest ∧ '\n' ∉ rest)
  | _ => True

/-- The words of a line without its comments. -/
def statementWords : ScriptLine → List Text
  | longWrite registerOffset value =>
    ["write".toList, "a32".toList, "d16".toList, hexadecimal16 registerOffset,
      hexadecimal16 value]
  | settle => ["wait".toList, "1ms".toList]
  | shortWrite registerOffset value _ => [hexadecimal16 registerOffset, decimal value.toNat]
  | comment _ => []
  | blank => []

/-- The words of the line, as the evaluator reads them. -/
def statement (line : ScriptLine) : Text := words line.statementWords

/-- The blanks that comments leave. -/
def padding : ScriptLine → Nat
  | comment text => text.length
  | shortWrite _ _ remark => remark.length
  | _ => 0

/-- The line without its remark, which leaves blanks behind. -/
def stripped (line : ScriptLine) : Text := line.statement ++ List.replicate line.padding ' '

end ScriptLine

/-! ### Comments

Every line may have a remark. The evaluator blanks remarks out before it splits a line, so what has
to be shown is that no remark swallows a line end and no statement begins a comment. -/

section Comments

/-- Text without the characters that begin a comment stays. -/
theorem stripCommentsFrom_plain {text : Text} (h : ∀ c ∈ text, c ≠ '#' ∧ c ≠ '/') (rest : Text) :
    stripCommentsFrom .code (text ++ rest) =
      (text ++ (stripCommentsFrom .code rest).1, (stripCommentsFrom .code rest).2) := by
  induction text with
  | nil => rfl
  | cons c text ih =>
      obtain ⟨hhash, hslash⟩ := h c List.mem_cons_self
      rw [List.cons_append, stripCommentsFrom, ih fun d hd => h d (List.mem_cons_of_mem _ hd)]
      · rfl
      · exact hhash
      · exact fun _ heq _ => hslash heq

/-- A line comment is blanked out up to its end. -/
theorem stripCommentsFrom_line {text : Text} (h : '\n' ∉ text) (rest : Text) :
    stripCommentsFrom .line (text ++ '\n' :: rest) =
      (List.replicate text.length ' ' ++ '\n' :: (stripCommentsFrom .code rest).1,
        (stripCommentsFrom .code rest).2) := by
  induction text with
  | nil => rfl
  | cons c text ih =>
      rw [List.mem_cons, not_or] at h
      rw [List.cons_append, stripCommentsFrom, ih h.2]
      · rfl
      · exact fun heq => h.1 heq.symm

/-- A comment up to the end of its line. -/
theorem stripCommentsFrom_comment {text : Text} (h : '\n' ∉ text) (rest : Text) :
    stripCommentsFrom .code ('#' :: text ++ '\n' :: rest) =
      (List.replicate (text.length + 1) ' ' ++ '\n' :: (stripCommentsFrom .code rest).1,
        (stripCommentsFrom .code rest).2) := by
  rw [List.cons_append, stripCommentsFrom, stripCommentsFrom_line h]
  rfl

theorem stripCommentsFrom_newline (rest : Text) :
    stripCommentsFrom .code ('\n' :: rest) =
      ('\n' :: (stripCommentsFrom .code rest).1, (stripCommentsFrom .code rest).2) :=
  @stripCommentsFrom_plain ['\n'] (by decide) rest

/-- What is plain is neither a comment nor the end of a line. -/
theorem ne_of_le_toNat {c : Char} (h : 48 ≤ c.toNat) : c ≠ '#' ∧ c ≠ '/' ∧ c ≠ '\n' := by
  have hne {d : Char} (hd : d.toNat < 48) : c ≠ d := by
    rintro rfl
    omega
  exact ⟨hne (by decide), hne (by decide), hne (by decide)⟩

/-- A character that comments do not begin with, of a statement. -/
def isStatementChar (c : Char) : Bool := c ≠ '#' && c ≠ '/' && c ≠ '\n'

/-- A generated number contains nothing that could begin a comment. -/
theorem isStatementChar_hexadecimal16 (value : UInt16) :
    ∀ c ∈ ScriptLine.hexadecimal16 value, isStatementChar c = true := by
  intro c hc
  rcases List.mem_cons.mp hc with rfl | hc
  · rfl
  rcases List.mem_cons.mp hc with rfl | hc
  · rfl
  · obtain ⟨hhash, hslash, hnewline⟩ :=
      ne_of_le_toNat (le_toNat_of_isDigitOf (isDigitOf_of_mem_hexadecimal hc))
    unfold isStatementChar
    rw [decide_eq_true hhash, decide_eq_true hslash, decide_eq_true hnewline]
    rfl

theorem isStatementChar_decimal (value : Nat) :
    ∀ c ∈ decimal value, isStatementChar c = true := by
  intro c hc
  obtain ⟨hhash, hslash, hnewline⟩ :=
    ne_of_le_toNat (le_toNat_of_isDigitOf (isDigitOf_of_mem_decimal hc))
  unfold isStatementChar
  rw [decide_eq_true hhash, decide_eq_true hslash, decide_eq_true hnewline]
  rfl

theorem isStatementChar_words {list : List Text}
    (h : ∀ word ∈ list, ∀ c ∈ word, isStatementChar c = true) :
    ∀ c ∈ words list, isStatementChar c = true := by
  induction list with
  | nil => intro c hc; cases hc
  | cons word list ih =>
      have hrest := ih fun w hw => h w (List.mem_cons_of_mem _ hw)
      cases list with
      | nil => exact h word List.mem_cons_self
      | cons next list =>
          intro c hc
          rw [words] at hc
          · rcases List.mem_append.mp hc with hc | hc
            · exact h word List.mem_cons_self c hc
            rcases List.mem_cons.mp hc with rfl | hc
            · rfl
            · exact hrest c hc
          · exact List.cons_ne_nil _ _

theorem isStatementChar_statement (line : ScriptLine) :
    ∀ c ∈ line.statement, isStatementChar c = true := by
  have hliteral : ∀ word ∈ ["write".toList, "a32".toList, "d16".toList, "wait".toList,
      "1ms".toList], ∀ c ∈ word, isStatementChar c = true := by decide
  cases line with
  | blank => intro c hc; cases hc
  | comment text => intro c hc; cases hc
  | longWrite registerOffset value =>
      refine isStatementChar_words fun word hword => ?_
      simp only [ScriptLine.statementWords, List.mem_cons, List.not_mem_nil, or_false] at hword
      rcases hword with rfl | rfl | rfl | rfl | rfl
      · exact hliteral _ (by decide)
      · exact hliteral _ (by decide)
      · exact hliteral _ (by decide)
      · exact isStatementChar_hexadecimal16 _
      · exact isStatementChar_hexadecimal16 _
  | settle => decide
  | shortWrite registerOffset value remark =>
      refine isStatementChar_words fun word hword => ?_
      simp only [ScriptLine.statementWords, List.mem_cons, List.not_mem_nil, or_false] at hword
      rcases hword with rfl | rfl
      · exact isStatementChar_hexadecimal16 _
      · exact isStatementChar_decimal _

/-- The statement of a line and a comment after it. -/
theorem stripCommentsFrom_statement (line : ScriptLine) (rest : Text) :
    stripCommentsFrom .code (line.statement ++ rest) =
      (line.statement ++ (stripCommentsFrom .code rest).1, (stripCommentsFrom .code rest).2) := by
  refine stripCommentsFrom_plain (fun c hc => ?_) rest
  have hchar := isStatementChar_statement line c hc
  unfold isStatementChar at hchar
  rw [Bool.and_eq_true, Bool.and_eq_true, decide_eq_true_eq, decide_eq_true_eq] at hchar
  exact hchar.1

/-- So only the remark of a line is blanked out. -/
theorem stripCommentsFrom_scriptLine {line : ScriptLine} (h : line.Readable) (rest : Text) :
    stripCommentsFrom .code (line.text ++ '\n' :: rest) =
      (line.stripped ++ '\n' :: (stripCommentsFrom .code rest).1,
        (stripCommentsFrom .code rest).2) := by
  -- most lines have no remark
  have hplain (hpadding : line.padding = 0) (htext : line.text = line.statement) :
      stripCommentsFrom .code (line.text ++ '\n' :: rest) =
        (line.stripped ++ '\n' :: (stripCommentsFrom .code rest).1,
          (stripCommentsFrom .code rest).2) := by
    rw [htext, stripCommentsFrom_statement, stripCommentsFrom_newline, ScriptLine.stripped,
      hpadding, List.replicate_zero, List.append_nil]
  cases line with
  | blank => exact hplain rfl rfl
  | comment text =>
      obtain ⟨text, rfl, hline⟩ := h
      exact stripCommentsFrom_comment hline rest
  | longWrite registerOffset value =>
      refine hplain rfl ?_
      have hliteral : "write a32 d16 ".toList =
          "write".toList ++ ' ' :: "a32".toList ++ ' ' :: "d16".toList ++ [' '] := by decide
      show "write a32 d16 ".toList ++ ScriptLine.hexadecimal16 registerOffset ++ _ = _
      rw [hliteral, ScriptLine.statement, ScriptLine.statementWords, words, words, words, words,
        words]
      · simp only [List.append_assoc, List.cons_append, List.nil_append]
      all_goals exact List.cons_ne_nil _ _
  | settle => exact hplain rfl rfl
  | shortWrite registerOffset value remark =>
      obtain ⟨-, rfl | ⟨remark, rfl, hline⟩⟩ := h
      · refine hplain rfl ?_
        exact List.append_nil _
      · -- a remark behind the statement, with a blank in between
        have htext : (ScriptLine.shortWrite registerOffset value (' ' :: '#' :: remark)).text =
            (ScriptLine.shortWrite registerOffset value (' ' :: '#' :: remark)).statement
              ++ [' '] ++ '#' :: remark := by
          rw [List.append_assoc]
          rfl
        rw [htext, List.append_assoc, List.append_assoc, stripCommentsFrom_statement,
          @stripCommentsFrom_plain [' '] (by decide), stripCommentsFrom_comment hline,
          ScriptLine.stripped, List.append_assoc]
        rfl

end Comments

/-! ### Statements

There are three kinds: a long write, a write in short form, and a wait. For each of them the syntax
check passes and the effect is the one that is meant. -/

namespace Evaluator

section Lines

variable {target : TargetModuleAddress} {location : MvmeInitScriptLocation} {e : Evaluator}

/-- A line of plain words that is a valid statement is evaluated as one. -/
theorem evaluateLine_words {front command : Text} {list : List Text}
    (hplain : ∀ word ∈ front :: list, PlainWord word) (hlower : lower front = command)
    (hcommand : PlainWord command) (hidempotent : lower command = command)
    (hvalid : (validatePreparedLineSyntax target (command :: list)).success = true)
    (hset : command ≠ "set".toList) (hconditional : e.statementsConditional = false)
    (resolver : ValueResolver) :
    evaluateLine target e resolver location (words (front :: list)) =
      (evaluateStatement target e location (command :: list), resolver) := by
  subst hlower
  unfold evaluateLine evaluatePreparedLine
  simp only [prepareLine_words resolver hplain hcommand hidempotent, Bool.not_true,
    Bool.false_eq_true, if_false, hvalid, List.headD_cons, if_neg hset, hconditional]

/-- What a write of a value to a register is. -/
def writeEffect (registerOffset value : UInt16) : LineEffect :=
  if !isFrontendAddress registerOffset.toUInt32 then
    .report false .nonFrontend .unsupportedStatement
      "A target-module write outside the frontend subset was not interpreted." false
  else if registerOffset = fw2051ScpSelectorRegister then .select value
  else .write registerOffset value

/-- A write with a value that is read. -/
theorem evaluateRelativeWrite_eq (e : Evaluator) {valueText : Text} (registerOffset value : UInt16)
    (hvalue : resolve valueText = { success := true, value := value.toUInt32 }) :
    e.evaluateRelativeWrite location registerOffset.toUInt32 valueText =
      (writeEffect registerOffset value).apply location e := by
  have hrange : ¬ value.toUInt32 > 0xFFFF := by
    rw [gt_iff_lt, UInt32.lt_iff_toNat_lt]
    have := value.toNat_lt
    simp only [UInt16.toNat_toUInt32]
    show ¬ 65535 < value.toNat
    omega
  unfold evaluateRelativeWrite writeEffect
  simp only [hvalue, hrange, Bool.not_true, decide_false, Bool.or_self, Bool.false_eq_true,
    if_false, UInt16.toUInt16_toUInt32]
  split
  · rfl
  split
  · rfl
  · rfl

/-- The address of every written register is read in both forms. -/
theorem resolve_writtenRegister {registerOffset : UInt16}
    (h : registerOffset ∈ ScriptLine.writtenRegisters) :
    PlainWord (lower (ScriptLine.hexadecimal16 registerOffset)) ∧
      lower (lower (ScriptLine.hexadecimal16 registerOffset)) =
        lower (ScriptLine.hexadecimal16 registerOffset) ∧
      resolve (lower (ScriptLine.hexadecimal16 registerOffset)) =
        { success := true, value := registerOffset.toUInt32 } ∧
      resolveMvmeLongAddress (ScriptLine.hexadecimal16 registerOffset) =
        { success := true, value := registerOffset.toUInt32 } := by
  revert registerOffset
  decide +kernel

theorem toUInt32_toNat (value : UInt16) : value.toNat.toUInt32 = value.toUInt32 := by
  rw [← UInt32.toNat_inj, UInt16.toNat_toUInt32]
  show value.toNat % 2 ^ 32 = value.toNat
  have := value.toNat_lt
  omega

/-- A value in hexadecimal is read back. -/
theorem resolve_hexadecimal16 (value : UInt16) :
    resolve (ScriptLine.hexadecimal16 value) = { success := true, value := value.toUInt32 } := by
  have hlt := value.toNat_lt
  rw [← toUInt32_toNat]
  exact resolve_hexadecimal (by decide) (by omega) (by omega)

/-- A value in decimal is read back. -/
theorem resolve_decimal16 (value : UInt16) :
    resolve (decimal value.toNat) = { success := true, value := value.toUInt32 } := by
  have hlt := value.toNat_lt
  rw [← toUInt32_toNat]
  exact resolve_decimal (by omega)

/-- MVME accepts a long write. -/
theorem validate_longWrite {registerOffset value : UInt16}
    (h : registerOffset ∈ ScriptLine.writtenRegisters) :
    (validatePreparedLineSyntax target
      (ScriptLine.longWrite registerOffset value).statementWords).success = true := by
  have haddress := (resolve_writtenRegister h).2.2.2
  have hform : ¬ (!addressModeFormValid "a32".toList || !dataWidthFormValid "d16".toList) = true := by
    decide
  have hlong : validateLongWriteSyntax target
      (ScriptLine.longWrite registerOffset value).statementWords = validLineSyntax := by
    unfold validateLongWriteSyntax ScriptLine.statementWords
    simp only [if_neg hform, haddress, resolve_hexadecimal16, Bool.not_true, Bool.false_eq_true,
      if_false]
  unfold validatePreparedLineSyntax
  rw [hlong, ScriptLine.statementWords, List.headD_cons, if_neg (List.cons_ne_nil _ _),
    if_neg (by decide), if_neg (by decide), if_neg (by decide), if_pos (by decide)]
  rfl

/-- And it is evaluated as the write that it is. -/
theorem evaluateStatement_longWrite {registerOffset value : UInt16}
    (h : registerOffset ∈ ScriptLine.writtenRegisters) :
    evaluateStatement target e location (ScriptLine.longWrite registerOffset value).statementWords =
      (writeEffect registerOffset value).apply location e := by
  have haddress := (resolve_writtenRegister h).2.2.2
  have hcommand : decide ("write".toList = "writeabs".toList) = false := by decide
  have hlong : evaluateLongWrite target e location false
      (ScriptLine.longWrite registerOffset value).statementWords =
      e.evaluateRelativeWrite location registerOffset.toUInt32
        (ScriptLine.hexadecimal16 value) := by
    unfold evaluateLongWrite ScriptLine.statementWords
    simp only [List.length_cons, List.length_nil, List.getD_cons_succ, List.getD_cons_zero,
      haddress, longWriteAddress, Bool.not_true, Bool.false_eq_true, if_false,
      Option.getD_some]
    rw [if_neg (by decide), if_neg (by decide), if_neg (by decide)]
  rw [← evaluateRelativeWrite_eq e registerOffset value (resolve_hexadecimal16 value), ← hlong]
  unfold evaluateStatement
  rw [ScriptLine.statementWords, List.headD_cons, if_neg (by decide), if_neg (by decide),
    if_pos (by decide), hcommand]

/-- The address of a short write is none of the commands. -/
theorem command_writtenRegister {registerOffset : UInt16}
    (h : registerOffset ∈ ScriptLine.writtenRegisters) :
    let command := lower (ScriptLine.hexadecimal16 registerOffset)
    command ≠ "accu_test".toList ∧ command ≠ "accu_test_warn".toList ∧ command ≠ "set".toList ∧
      command ≠ "write".toList ∧ command ≠ "writeabs".toList ∧
      isKnownNonFrontendCommand command = false ∧ isDigit (command.headD ' ') = true := by
  revert registerOffset
  decide +kernel

/-- MVME accepts a short write. -/
theorem validate_shortWrite {registerOffset value : UInt16}
    (h : registerOffset ∈ ScriptLine.writtenRegisters) :
    (validatePreparedLineSyntax target
      [lower (ScriptLine.hexadecimal16 registerOffset), decimal value.toNat]).success = true := by
  obtain ⟨-, -, haddress, -⟩ := resolve_writtenRegister h
  obtain ⟨htest, hwarn, hset, hwrite, hwriteabs, hknown, hdigit⟩ := command_writtenRegister h
  have hshort : validateShorthandSyntax
      [lower (ScriptLine.hexadecimal16 registerOffset), decimal value.toNat] = validLineSyntax := by
    unfold validateShorthandSyntax
    simp only [List.headD_cons, haddress, List.length_cons, List.length_nil, List.getD_cons_succ,
      List.getD_cons_zero, resolve_decimal16, Bool.not_true, Bool.false_or, Bool.false_eq_true,
      if_false]
    rfl
  unfold validatePreparedLineSyntax
  simp only [hshort, List.headD_cons, List.cons_ne_nil, htest, hwarn, hset, hwrite, hwriteabs,
    hknown, hdigit, decide_false, Bool.or_self, Bool.not_true, Bool.false_eq_true, if_false]
  rfl

/-- And it is evaluated as the write that it is. -/
theorem evaluateStatement_shortWrite {registerOffset value : UInt16}
    (h : registerOffset ∈ ScriptLine.writtenRegisters) :
    evaluateStatement target e location
        [lower (ScriptLine.hexadecimal16 registerOffset), decimal value.toNat] =
      (writeEffect registerOffset value).apply location e := by
  obtain ⟨-, -, haddress, -⟩ := resolve_writtenRegister h
  obtain ⟨htest, hwarn, -, hwrite, hwriteabs, hknown, -⟩ := command_writtenRegister h
  have hshort : e.evaluateShorthand location
      [lower (ScriptLine.hexadecimal16 registerOffset), decimal value.toNat] =
      e.evaluateRelativeWrite location registerOffset.toUInt32 (decimal value.toNat) := by
    unfold evaluateShorthand
    simp only [List.headD_cons, haddress, List.length_cons, List.length_nil, List.getD_cons_succ,
      List.getD_cons_zero, Bool.not_true, Bool.false_eq_true, if_false]
    rfl
  rw [← evaluateRelativeWrite_eq e registerOffset value (resolve_decimal16 value), ← hshort]
  unfold evaluateStatement
  simp only [List.headD_cons, htest, hwarn, hwrite, hwriteabs, hknown, decide_false, Bool.or_self,
    Bool.false_eq_true, if_false]

theorem validate_settle :
    (validatePreparedLineSyntax target ScriptLine.settle.statementWords).success = true := by
  unfold validatePreparedLineSyntax
  rw [ScriptLine.statementWords, List.headD_cons, if_neg (List.cons_ne_nil _ _),
    if_neg (by decide), if_neg (by decide), if_pos (by decide), if_pos (by decide)]
  rfl

/-- A wait is reported and does not concern the frontend. -/
theorem evaluateStatement_settle :
    evaluateStatement target e location ScriptLine.settle.statementWords =
      (LineEffect.report false .nonFrontend .unsupportedStatement
        "A non-frontend init-script statement was not interpreted." false).apply location e := by
  unfold evaluateStatement
  rw [ScriptLine.statementWords, List.headD_cons, if_neg (by decide), if_neg (by decide),
    if_neg (by decide), if_pos (by decide)]
  rfl

/-- What a generated line does. -/
def lineEffect : ScriptLine → LineEffect
  | .blank => .none
  | .comment _ => .none
  | .longWrite registerOffset value => writeEffect registerOffset value
  | .settle =>
    .report false .nonFrontend .unsupportedStatement
      "A non-frontend init-script statement was not interpreted." false
  | .shortWrite registerOffset value _ => writeEffect registerOffset value

/-- No word of a generated line needs expanding. -/
theorem plainWord_statementWords (line : ScriptLine) :
    ∀ word ∈ line.statementWords, PlainWord word := by
  have hliteral : ∀ word ∈ ["write".toList, "a32".toList, "d16".toList, "wait".toList,
      "1ms".toList], PlainWord word := by decide
  cases line with
  | longWrite registerOffset value =>
      intro word hword
      simp only [ScriptLine.statementWords, List.mem_cons, List.not_mem_nil, or_false] at hword
      rcases hword with rfl | rfl | rfl | rfl | rfl
      · exact hliteral _ (by decide)
      · exact hliteral _ (by decide)
      · exact hliteral _ (by decide)
      · exact plainWord_hexadecimal 4 registerOffset.toNat
      · exact plainWord_hexadecimal 4 value.toNat
  | settle => decide
  | shortWrite registerOffset value remark =>
      intro word hword
      simp only [ScriptLine.statementWords, List.mem_cons, List.not_mem_nil, or_false] at hword
      rcases hword with rfl | rfl
      · exact plainWord_hexadecimal 4 registerOffset.toNat
      · exact plainWord_decimal value.toNat
  | _ =>
      intro word hword
      cases hword

/-- A line that says something does what it means. -/
theorem evaluateLine_scriptLine {line : ScriptLine} (h : line.Readable)
    (hwords : line.statementWords ≠ []) (hconditional : e.statementsConditional = false)
    (resolver : ValueResolver) :
    evaluateLine target e resolver location line.statement =
      ((lineEffect line).apply location e, resolver) := by
  have hplain := plainWord_statementWords line
  cases line with
  | longWrite registerOffset value =>
      rw [ScriptLine.statement, lineEffect, ← @evaluateStatement_longWrite target _ _ _ _ h]
      exact evaluateLine_words hplain (by decide) (by decide) (by decide) (validate_longWrite h)
        (by decide) hconditional resolver
  | settle =>
      rw [ScriptLine.statement, lineEffect, ← @evaluateStatement_settle target]
      exact evaluateLine_words hplain (by decide) (by decide) (by decide) validate_settle
        (by decide) hconditional resolver
  | shortWrite registerOffset value remark =>
      obtain ⟨hlower, hidempotent, -, -⟩ := resolve_writtenRegister h.1
      rw [ScriptLine.statement, lineEffect, ← @evaluateStatement_shortWrite target _ _ _ _ h.1]
      exact evaluateLine_words hplain rfl hlower hidempotent (validate_shortWrite h.1)
        (command_writtenRegister h.1).2.2.1 hconditional resolver
  | blank => exact absurd rfl hwords
  | comment text => exact absurd rfl hwords

/-- The blanks of the remark do not count. -/
theorem trim_stripped (line : ScriptLine) : trim line.stripped = line.statement :=
  trim_words_blanks (plainWord_statementWords line) line.padding

theorem statement_eq_nil {line : ScriptLine} :
    line.statement = [] ↔ line.statementWords = [] := by
  constructor
  · intro h
    by_contra hne
    obtain ⟨c, rest, hcons, -⟩ := exists_words_eq_cons (plainWord_statementWords line) hne
    exact List.cons_ne_nil c rest (hcons.symm.trans h)
  · intro h
    rw [ScriptLine.statement, h]
    rfl

theorem lineEffect_of_no_words {line : ScriptLine} (h : line.statementWords = []) :
    lineEffect line = .none := by
  cases line with
  | blank => rfl
  | comment text => rfl
  | _ => cases h

/-- Generated lines test nothing. -/
theorem statementsConditional_lineEffect (line : ScriptLine) :
    ((lineEffect line).apply location e).statementsConditional = e.statementsConditional := by
  -- both forms of a write have the effect of the write
  have hwrite (registerOffset value : UInt16) :
      ((writeEffect registerOffset value).apply location e).statementsConditional =
        e.statementsConditional := by
    unfold writeEffect
    split
    · rfl
    split
    · show (e.setSelector location value).statementsConditional = _
      unfold setSelector
      split <;> rfl
    · show (e.evaluateBankedWrite location registerOffset value).statementsConditional = _
      cases hselector : e.selector with
      | none =>
          unfold evaluateBankedWrite
          rw [hselector]
          rfl
      | some selector => rw [evaluateBankedWrite_of_some e location hselector]
  cases line with
  | longWrite registerOffset value => exact hwrite registerOffset value
  | shortWrite registerOffset value remark => exact hwrite registerOffset value
  | _ => rfl

/-- No generated line is rejected. -/
theorem failed_lineEffect (line : ScriptLine) : (lineEffect line).failed = false := by
  have hwrite (registerOffset value : UInt16) :
      (writeEffect registerOffset value).failed = false := by
    unfold writeEffect
    split
    · rfl
    split <;> rfl
  cases line with
  | longWrite registerOffset value => exact hwrite registerOffset value
  | shortWrite registerOffset value remark => exact hwrite registerOffset value
  | _ => rfl

/-! ### Scripts

From the effect of one line to that of the whole text, by induction over the lines. -/

/-- The lines of a generated script, one after the other. -/
def runScriptLines (scriptIndex : Nat) (e : Evaluator) (lineNumber : Nat) : GeneratedScript →
    Evaluator
  | [] => e
  | line :: lines =>
    runScriptLines scriptIndex ((lineEffect line).apply { scriptIndex, lineNumber } e)
      (lineNumber + 1) lines

/-- The lines, one by one. -/
theorem evaluateLines_generated (scriptIndex : Nat) {script : GeneratedScript}
    (h : ∀ line ∈ script, line.Readable) (hconditional : e.statementsConditional = false)
    (resolver : ValueResolver) (lineNumber : Nat) :
    evaluateLines target scriptIndex e resolver lineNumber
        (script.map ScriptLine.stripped ++ [[]]) =
      runScriptLines scriptIndex e lineNumber script := by
  induction script generalizing e lineNumber with
  | nil => rfl
  | cons line script ih =>
      rw [List.map_cons, List.cons_append, evaluateLines, trim_stripped, runScriptLines]
      have hscript := fun l hl => h l (List.mem_cons_of_mem _ hl)
      by_cases hwords : line.statementWords = []
      · rw [if_pos (statement_eq_nil.mpr hwords), ih hscript hconditional,
          lineEffect_of_no_words hwords]
        rfl
      · simp only [if_neg (statement_eq_nil.not.mpr hwords),
          evaluateLine_scriptLine (h line List.mem_cons_self) hwords hconditional]
        exact ih hscript ((statementsConditional_lineEffect line).trans hconditional) _

/-- So no generated script is rejected. -/
theorem currentScriptParseFailed_runScriptLines (scriptIndex : Nat) (script : GeneratedScript)
    (lineNumber : Nat) :
    (runScriptLines scriptIndex e lineNumber script).currentScriptParseFailed =
      e.currentScriptParseFailed := by
  induction script generalizing e lineNumber with
  | nil => rfl
  | cons line script ih =>
      rw [runScriptLines, ih, currentScriptParseFailed_apply, failed_lineEffect, Bool.or_false]

/-- The lines without their remarks. -/
theorem stripComments_generated {script : GeneratedScript} (h : ∀ line ∈ script, line.Readable) :
    stripComments script.text.toList =
      { text := (script.map ScriptLine.stripped).flatMap (· ++ ['\n'])
        unterminatedBlock := false } := by
  have hstrip : stripCommentsFrom .code (script.flatMap fun line => line.text ++ ['\n']) =
      ((script.map ScriptLine.stripped).flatMap (· ++ ['\n']), .code) := by
    induction script with
    | nil => rfl
    | cons line script ih =>
        rw [List.flatMap_cons, List.append_assoc, List.singleton_append,
          stripCommentsFrom_scriptLine (h line List.mem_cons_self),
          ih fun l hl => h l (List.mem_cons_of_mem _ hl), List.map_cons, List.flatMap_cons,
          List.append_assoc, List.singleton_append]
  unfold stripComments GeneratedScript.text
  rw [String.toList_ofList, hstrip]
  rfl

/-- A text is split into the lines that it was made of. -/
theorem splitLines_flatMap {lines : List Text} (h : ∀ line ∈ lines, '\n' ∉ line) :
    splitLines (lines.flatMap (· ++ ['\n'])) = lines ++ [[]] := by
  induction lines with
  | nil => rfl
  | cons line lines ih =>
      have hrest := ih fun l hl => h l (List.mem_cons_of_mem _ hl)
      unfold splitLines at hrest ⊢
      rw [List.flatMap_cons, List.append_assoc, List.singleton_append,
        List.splitOn_append_cons_self_of_not_mem (h line List.mem_cons_self), hrest]
      rfl

theorem newline_notMem_stripped (line : ScriptLine) : '\n' ∉ line.stripped := by
  intro hmem
  rcases List.mem_append.mp hmem with hmem | hmem
  · have hchar := isStatementChar_statement line _ hmem
    cases hchar
  · cases (List.mem_replicate.mp hmem).2

theorem newline_notMem_map_stripped (script : GeneratedScript) :
    ∀ line ∈ script.map ScriptLine.stripped, '\n' ∉ line := by
  intro line hline
  obtain ⟨line, -, rfl⟩ := List.mem_map.mp hline
  exact newline_notMem_stripped line

/-- The whole script. -/
theorem evaluateText_generated (scriptIndex : Nat) {script : GeneratedScript}
    (h : ∀ line ∈ script, line.Readable) (hconditional : e.statementsConditional = false)
    (resolver : ValueResolver) :
    evaluateText target e scriptIndex script.text.toList resolver =
      runScriptLines scriptIndex { e with currentScriptParseFailed := false } 1 script := by
  unfold evaluateText
  simp only [stripComments_generated h, splitLines_flatMap (newline_notMem_map_stripped script),
    Bool.false_eq_true, if_false]
  refine evaluateLines_generated scriptIndex h ?_ resolver 1
  exact hconditional

/-- A generated script is evaluated line by line as what it means. -/
theorem evaluateScript_generated (scriptIndex : Nat) {script : GeneratedScript}
    (h : ∀ line ∈ script, line.Readable) (hconditional : e.statementsConditional = false)
    (resolver : ValueResolver) :
    evaluateScript target e scriptIndex script.text.toList resolver =
      runScriptLines scriptIndex { e with currentScriptParseFailed := false } 1 script := by
  unfold evaluateScript
  simp only [evaluateText_generated scriptIndex h hconditional,
    currentScriptParseFailed_runScriptLines, Bool.false_eq_true, if_false]

end Lines

end Evaluator

end Fidget
