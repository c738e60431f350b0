import Fidget.Core.MvmeInitScript.Lines
import Fidget.Lib.Lists
import Mathlib.Tactic.Linarith

/-!
# Lines of plain words

A line without quotes, variables and expressions is read as the words it consists of: splitting it
once or twice and expanding it does nothing but lower the case of the command. Numbers written in
hexadecimal and in decimal are read back as what they were.

Everything in the preparation of a line that could get in the way is triggered by some character:
quotes, blanks and dollars. A word without them is plain, and stays what it is through splitting and
expanding; the numbers and commands of generated scripts are plain.

## Main results

- `PlainWord`: a word that the evaluator takes as it is.
- `prepareLine_words`: a line of plain words is read as those words, the command in lower case.
-/

namespace Fidget

open scoped Fidget.Lists

namespace MvmeInitScript

open NumberText

/-- A character that stands for itself. -/
def isPlain (c : Char) : Bool := !isSpace c && c ≠ '"' && c ≠ '$'

/-- A part of a line that stands for itself. -/
structure PlainWord (word : Text) : Prop where
  ne_nil : word ≠ []
  plain : ∀ c ∈ word, isPlain c = true

instance (word : Text) : Decidable (PlainWord word) :=
  decidable_of_iff (word ≠ [] ∧ ∀ c ∈ word, isPlain c = true)
    ⟨fun h => ⟨h.1, h.2⟩, fun h => ⟨h.1, h.2⟩⟩

/-- Words with a blank between them. -/
def words : List Text → Text
  | [] => []
  | [word] => word
  | word :: rest => word ++ ' ' :: words rest

section Plain

variable {c : Char} {word : Text}

/-- A plain character is no quote, no dollar and no blank. -/
theorem ne_of_isPlain (h : isPlain c = true) : c ≠ '"' ∧ c ≠ '$' ∧ isSpace c = false := by
  unfold isPlain at h
  rw [Bool.and_eq_true, Bool.and_eq_true, Bool.not_eq_true', decide_eq_true_eq,
    decide_eq_true_eq] at h
  exact ⟨h.1.2, h.2, h.1.1⟩

/-! ### Splitting

Blanks end a part and are dropped. -/

/-- Plain characters are added to the part that has been begun. -/
theorem splitAtomicPartsFrom_plain (h : ∀ c ∈ word, isPlain c = true) (part : Text)
    (parts : List Text) (rest : Text) :
    splitAtomicPartsFrom .plain part parts (word ++ rest) =
      splitAtomicPartsFrom .plain (part ++ word) parts rest := by
  induction word generalizing part with
  | nil => rw [List.nil_append, List.append_nil]
  | cons c word ih =>
      obtain ⟨hquote, hdollar, hspace⟩ := ne_of_isPlain (h c List.mem_cons_self)
      rw [List.cons_append, splitAtomicPartsFrom, hspace, if_neg Bool.false_ne_true,
        ih fun d hd => h d (List.mem_cons_of_mem _ hd), List.append_assoc, List.singleton_append]
      · exact fun _ heq _ => hdollar heq
      · exact fun _ heq _ => hdollar heq
      · exact hquote

theorem flushPart_of_ne_nil {part : Text} (h : part ≠ []) (parts : List Text) :
    flushPart part parts = parts ++ [part] := if_neg h

/-- A line of plain words is split into them. -/
theorem splitAtomicPartsFrom_words {list : List Text} (h : ∀ word ∈ list, PlainWord word)
    (hne : list ≠ []) (parts : List Text) :
    splitAtomicPartsFrom .plain [] parts (words list) =
      { success := true, parts := parts ++ list } := by
  induction list generalizing parts with
  | nil => exact absurd rfl hne
  | cons word list ih =>
      have hword := h word List.mem_cons_self
      cases list with
      | nil =>
          have hsplit := splitAtomicPartsFrom_plain hword.plain [] parts []
          rw [List.append_nil, List.nil_append] at hsplit
          rw [words, hsplit, splitAtomicPartsFrom, flushPart_of_ne_nil hword.ne_nil]
      | cons next list =>
          have hrest := ih (fun w hw => h w (List.mem_cons_of_mem _ hw)) (List.cons_ne_nil _ _)
            (parts ++ [word])
          rw [words, splitAtomicPartsFrom_plain hword.plain, List.nil_append]
          · rw [splitAtomicPartsFrom, if_pos (by decide), flushPart_of_ne_nil hword.ne_nil, hrest,
              List.append_assoc, List.singleton_append]
            · exact fun _ heq _ => absurd heq (by decide)
            · exact fun _ heq _ => absurd heq (by decide)
            · decide
          · exact List.cons_ne_nil _ _

/-- A line of plain words is split into them. -/
theorem splitAtomicParts_words {list : List Text} (h : ∀ word ∈ list, PlainWord word)
    (hne : list ≠ []) : splitAtomicParts (words list) = { success := true, parts := list } :=
  splitAtomicPartsFrom_words h hne []

/-! ### Expanding

Neither a variable nor an expression begins in a plain word. -/

/-- A plain word has no variables. -/
theorem expandVariablesOnce_plain (resolver : ValueResolver) (h : ∀ c ∈ word, isPlain c = true)
    (expanded : Text) :
    resolver.expandVariablesOnce expanded word =
      { success := true, text := expanded ++ word } := by
  induction word generalizing expanded with
  | nil => rw [ValueResolver.expandVariablesOnce, List.append_nil]
  | cons c word ih =>
      obtain ⟨-, hdollar, -⟩ := ne_of_isPlain (h c List.mem_cons_self)
      rw [ValueResolver.expandVariablesOnce, ih fun d hd => h d (List.mem_cons_of_mem _ hd),
        List.append_assoc, List.singleton_append]
      exact fun _ heq _ => hdollar heq

/-- Nor has it expressions. -/
theorem evaluateExpressionsOnce_plain (h : ∀ c ∈ word, isPlain c = true) (result : Text) :
    ValueResolver.evaluateExpressionsOnce result word =
      { success := true, text := result ++ word } := by
  induction word generalizing result with
  | nil => rw [ValueResolver.evaluateExpressionsOnce, List.append_nil]
  | cons c word ih =>
      obtain ⟨-, hdollar, -⟩ := ne_of_isPlain (h c List.mem_cons_self)
      rw [ValueResolver.evaluateExpressionsOnce, ih fun d hd => h d (List.mem_cons_of_mem _ hd),
        List.append_assoc, List.singleton_append]
      exact fun _ heq _ => hdollar heq

theorem expandAndEvaluateOnce_plain (resolver : ValueResolver)
    (h : ∀ c ∈ word, isPlain c = true) :
    resolver.expandAndEvaluateOnce word = { success := true, text := word } := by
  unfold ValueResolver.expandAndEvaluateOnce
  simp only [expandVariablesOnce_plain resolver h, List.nil_append, Bool.not_true,
    Bool.false_eq_true, if_false, evaluateExpressionsOnce_plain h]

/-- So expanding changes nothing. -/
theorem expandParts_plain (resolver : ValueResolver) {list : List Text}
    (h : ∀ word ∈ list, PlainWord word) : expandParts resolver list = .ok list := by
  unfold expandParts
  rw [Lists.mapM_eq_ok_map (g := id), List.map_id]
  intro word hword
  simp only [expandAndEvaluateOnce_plain resolver (h word hword).plain, if_true]
  rfl

/-- And splitting again changes nothing. -/
theorem resplitParts_plain {list : List Text} (h : ∀ word ∈ list, PlainWord word) :
    resplitParts list = .ok list := by
  unfold resplitParts
  rw [Lists.mapM_eq_ok_map (g := fun word => [word])]
  · show Except.ok (list.map fun word => [word]).flatten = _
    rw [← List.flatMap_def, List.flatMap_singleton']
  · intro word hword
    have hsplit : splitAtomicParts word = { success := true, parts := [word] } :=
      @splitAtomicParts_words [word] (fun w hw => List.mem_singleton.mp hw ▸ h word hword)
        (List.cons_ne_nil _ _)
    rw [hsplit]
    rfl

/-- A text without a character does not contain what begins with it. -/
theorem contains_of_notMem {first : Char} {pattern : Text} {text : Text} (h : first ∉ text) :
    contains text (first :: pattern) = false := by
  unfold contains
  rw [List.any_eq_false]
  intro tail htail hprefix
  rw [List.isPrefixOf_iff_prefix] at hprefix
  have hmem : first ∈ tail := hprefix.subset List.mem_cons_self
  exact h ((List.mem_tails _ _ |>.mp htail).subset hmem)

theorem expansionStart_plain (h : ∀ c ∈ word, isPlain c = true) : expansionStart word = false := by
  have hdollar : '$' ∉ word := fun hmem => (ne_of_isPlain (h '$' hmem)).2.1 rfl
  unfold expansionStart
  rw [contains_of_notMem hdollar, contains_of_notMem hdollar]
  rfl

/-! ### Preparing -/

/-- What a line of plain words is prepared to: the words, with the command in lower case. -/
theorem prepareLine_words (resolver : ValueResolver) {front : Text} {list : List Text}
    (h : ∀ word ∈ front :: list, PlainWord word) (hlower : PlainWord (lower front))
    (hidempotent : lower (lower front) = lower front) :
    prepareLine (words (front :: list)) resolver =
      { success := true, parts := lower front :: list, rawParts := front :: list } := by
  have hlowered : ∀ word ∈ lower front :: list, PlainWord word := by
    intro word hword
    rcases List.mem_cons.mp hword with rfl | hword
    · exact hlower
    · exact h word (List.mem_cons_of_mem _ hword)
  have hstart : (lower front :: list).any expansionStart = false := by
    rw [List.any_eq_false]
    intro word hword
    rw [expansionStart_plain (hlowered word hword).plain]
    exact Bool.false_ne_true
  have hprepared : preparedParts (words (front :: list)) resolver = .ok (lower front :: list) := by
    unfold preparedParts
    rw [splitAtomicParts_words h (List.cons_ne_nil _ _)]
    simp only [Bool.not_true, Bool.false_or, decide_false, Bool.false_eq_true, expandParts_plain resolver h, resplitParts_plain hlowered,
      expandParts_plain resolver hlowered, bind, Except.bind, lowerFront, hidempotent,
      reduceCtorEq, if_false]
    -- The second pass, which some commands are spared, changes nothing.
    split <;> exact if_neg (Bool.eq_false_iff.mp hstart)
  unfold prepareLine
  rw [hprepared, splitAtomicParts_words h (List.cons_ne_nil _ _)]

end Plain

/-! ### Blanks -/

/-- A line of plain words begins with one. -/
theorem exists_words_eq_cons {list : List Text} (h : ∀ word ∈ list, PlainWord word)
    (hne : list ≠ []) : ∃ c rest, words list = c :: rest ∧ isSpace c = false := by
  obtain ⟨word, list, rfl⟩ := List.exists_cons_of_ne_nil hne
  have hword := h word List.mem_cons_self
  obtain ⟨c, rest, rfl⟩ := List.exists_cons_of_ne_nil hword.ne_nil
  have hspace := (ne_of_isPlain (hword.plain c List.mem_cons_self)).2.2
  cases list with
  | nil => exact ⟨c, rest, rfl, hspace⟩
  | cons next list => exact ⟨c, _, rfl, hspace⟩

/-- And it ends with one. -/
theorem exists_words_eq_concat {list : List Text} (h : ∀ word ∈ list, PlainWord word)
    (hne : list ≠ []) : ∃ rest c, words list = rest ++ [c] ∧ isSpace c = false := by
  induction list with
  | nil => exact absurd rfl hne
  | cons word list ih =>
      cases list with
      | nil =>
          have hword := h word List.mem_cons_self
          obtain hnil | ⟨rest, c, hconcat⟩ := List.eq_nil_or_concat word
          · exact absurd hnil hword.ne_nil
          · rw [List.concat_eq_append] at hconcat
            have hmem : c ∈ word := by simp [hconcat]
            exact ⟨rest, c, hconcat, (ne_of_isPlain (hword.plain c hmem)).2.2⟩
      | cons next list =>
          obtain ⟨rest, c, hconcat, hspace⟩ := ih (fun w hw => h w (List.mem_cons_of_mem _ hw))
            (List.cons_ne_nil _ _)
          refine ⟨word ++ ' ' :: rest, c, ?_, hspace⟩
          rw [words, hconcat, List.append_assoc, List.cons_append]
          exact List.cons_ne_nil _ _

/-- Blanks in front do not count. -/
theorem dropWhile_blanks (n : ℕ) (text : Text) :
    (List.replicate n ' ' ++ text).dropWhile isSpace = text.dropWhile isSpace := by
  rw [List.dropWhile_append_of_pos]
  intro c hc
  rw [(List.mem_replicate.mp hc).2]
  rfl

/-- Blanks after a line of words are trimmed. -/
theorem trim_words_blanks {list : List Text} (h : ∀ word ∈ list, PlainWord word) (n : ℕ) :
    trim (words list ++ List.replicate n ' ') = words list := by
  unfold trim
  by_cases hne : list = []
  · rw [hne, words, List.nil_append, ← List.append_nil (List.replicate n ' '), dropWhile_blanks]
    rfl
  obtain ⟨first, rest, hcons, hfirst⟩ := exists_words_eq_cons h hne
  obtain ⟨init, last, hconcat, hlast⟩ := exists_words_eq_concat h hne
  have hfront : (words list ++ List.replicate n ' ').dropWhile isSpace =
      words list ++ List.replicate n ' ' := by
    rw [hcons, List.cons_append, List.dropWhile_cons_of_neg (by rw [hfirst]; exact Bool.false_ne_true)]
  rw [hfront, List.reverse_append, List.reverse_replicate, dropWhile_blanks, hconcat,
    List.reverse_append, List.reverse_singleton, List.singleton_append,
    List.dropWhile_cons_of_neg (by rw [hlast]; exact Bool.false_ne_true), List.reverse_cons,
    List.reverse_reverse]

/-! ### Numbers

A number that was written in decimal or hexadecimal is read back as that number. -/

/-- A number that needs no rounding. -/
theorem roundAway_natCast (n : ℕ) : roundAway (n : ℚ) = n := by
  have hnonneg : ¬ (n : ℚ) < 0 := not_lt.mpr (Nat.cast_nonneg n)
  rw [roundAway, if_neg hnonneg, Int.floor_eq_iff]
  constructor
  · push_cast
    linarith
  · push_cast
    linarith

theorem dropWhile_isSpace {text : Text} (h : ∀ c ∈ text, isSpace c = false) :
    text.dropWhile isSpace = text := by
  cases text with
  | nil => rfl
  | cons c text => rw [List.dropWhile_cons, h c List.mem_cons_self, if_neg Bool.false_ne_true]

/-- Without blanks nothing is trimmed. -/
theorem trim_of_no_space {text : Text} (h : ∀ c ∈ text, isSpace c = false) : trim text = text := by
  unfold trim
  rw [dropWhile_isSpace h, dropWhile_isSpace fun c hc => h c (List.mem_reverse.mp hc),
    List.reverse_reverse]

/-- A word that is read as a number of 32 bits resolves to it. -/
theorem resolve_of_parseNumberText {word : Text} (hword : PlainWord word) {n : ℕ}
    (hnumber : parseNumberText word = some (n : ℚ)) (hn : n < 2 ^ 32) :
    resolve word = { success := true, value := n.toUInt32 } := by
  have hspace : ∀ c ∈ word, isSpace c = false := fun c hc => (ne_of_isPlain (hword.plain c hc)).2.2
  have hfloating : resolveFloating word = { success := true, value := (n : ℚ) } := by
    unfold resolveFloating
    simp only [trim_of_no_space hspace, expansionStart_plain hword.plain, hword.ne_nil, hnumber,
      Bool.false_eq_true, if_false]
  have hrange : ¬ ((n : ℤ) < 0 ∨ (n : ℤ) > 0xFFFFFFFF) := by omega
  unfold resolve
  simp only [hfloating, roundAway_natCast, if_neg hrange, Int.toNat_natCast, Bool.not_true,
    Bool.false_eq_true, if_false]

/-- Digits below the limit are read. -/
theorem fromChars_eq_some {base limit : ℕ} {digits : Text} (hne : digits ≠ [])
    (hdigits : ∀ c ∈ digits, isDigitOf base c = true) (hlimit : digitsValue base digits < limit) :
    fromChars base limit digits = some (digitsValue base digits) := by
  unfold fromChars
  rw [if_pos]
  rw [Bool.and_eq_true, Bool.and_eq_true, decide_eq_true_eq, decide_eq_true_eq, List.all_eq_true]
  exact ⟨⟨hne, hdigits⟩, hlimit⟩

theorem le_iff_toNat_le {c d : Char} : c ≤ d ↔ c.toNat ≤ d.toNat := Iff.rfl

/-- Digits of any base come after the characters that mean something else. -/
theorem le_toNat_of_isDigitOf {base : ℕ} {c : Char} (h : isDigitOf base c = true) :
    48 ≤ c.toNat := by
  unfold isDigitOf at h
  split at h
  next value hvalue =>
    unfold digitValue at hvalue
    split at hvalue
    next hrange => exact le_iff_toNat_le.mp hrange.1
    split at hvalue
    next hrange => exact le_trans (by decide) (le_iff_toNat_le.mp hrange.1)
    split at hvalue
    next hrange => exact le_trans (by decide) (le_iff_toNat_le.mp hrange.1)
    · cases hvalue
  · cases h

/-- The characters from the digits on are plain. -/
theorem isPlain_of_le {c : Char} (h : 48 ≤ c.toNat) : isPlain c = true := by
  have hne {d : Char} (hd : d.toNat < 48) : c ≠ d := by
    rintro rfl
    omega
  have hspace : isSpace c = false := by
    unfold isSpace
    rw [decide_eq_false (hne (by decide)), Bool.false_or, Bool.and_eq_false_iff]
    right
    rw [decide_eq_false_iff_not, le_iff_toNat_le]
    have hcarriage : ('\r' : Char).toNat = 13 := rfl
    omega
  unfold isPlain
  rw [hspace, decide_eq_true (hne (by decide)), decide_eq_true (hne (by decide))]
  rfl

theorem plain_digits {base : ℕ} {digits : Text} (h : ∀ c ∈ digits, isDigitOf base c = true) :
    ∀ c ∈ digits, isPlain c = true :=
  fun c hc => isPlain_of_le (le_toNat_of_isDigitOf (h c hc))

/-- A number in hexadecimal is a plain word. -/
theorem plainWord_hexadecimal (width value : ℕ) :
    PlainWord ('0' :: 'x' :: hexadecimal width value) where
  ne_nil := List.cons_ne_nil _ _
  plain := by
    intro c hc
    rcases List.mem_cons.mp hc with rfl | hc
    · rfl
    rcases List.mem_cons.mp hc with rfl | hc
    · rfl
    · exact plain_digits (fun c => isDigitOf_of_mem_hexadecimal) c hc

/-- A number written in hexadecimal is read as what it was. -/
theorem resolve_hexadecimal {width value : ℕ} (hwidth : width ≠ 0) (hvalue : value < 16 ^ width)
    (hrange : value < 2 ^ 32) :
    resolve ('0' :: 'x' :: hexadecimal width value) =
      { success := true, value := value.toUInt32 } := by
  refine resolve_of_parseNumberText (plainWord_hexadecimal width value) ?_ hrange
  have hne : hexadecimal width value ≠ [] := by
    intro hnil
    have hlength := length_hexadecimal width value
    rw [hnil, List.length_nil] at hlength
    exact hwidth hlength.symm
  have hread : fromChars 16 (2 ^ 64) (hexadecimal width value) = some value := by
    have hdigits := digitsValue_hexadecimal hvalue
    rw [fromChars_eq_some hne fun c => isDigitOf_of_mem_hexadecimal, hdigits]
    omega
  obtain ⟨digit, digits, hcons⟩ := List.exists_cons_of_ne_nil hne
  rw [hcons] at hread ⊢
  rw [parseNumberText, hread]
  rfl

theorem range_of_mem_decimal {value : ℕ} {c : Char} (h : c ∈ decimal value) :
    '0' ≤ c ∧ c ≤ '9' := by
  have hdigit := isDigit_of_mem_decimal h
  rw [Char.isDigit, Bool.and_eq_true, decide_eq_true_iff, decide_eq_true_iff] at hdigit
  exact hdigit

theorem isDigitOf_of_mem_decimal {value : ℕ} {c : Char} (h : c ∈ decimal value) :
    isDigitOf 10 c = true := by
  have hrange := range_of_mem_decimal h
  have hupper : c.toNat ≤ 57 := le_iff_toNat_le.mp hrange.2
  unfold isDigitOf
  rw [digitValue_of_isDigit (isDigit_of_mem_decimal h)]
  refine decide_eq_true ?_
  show c.toNat - 48 < 10
  omega

/-- A number in decimal is a plain word. -/
theorem plainWord_decimal (value : ℕ) : PlainWord (decimal value) where
  ne_nil := decimal_ne_nil value
  plain := plain_digits fun _ => isDigitOf_of_mem_decimal

/-- A number written in decimal is read as what it was. -/
theorem resolve_decimal {value : ℕ} (hrange : value < 2 ^ 32) :
    resolve (decimal value) = { success := true, value := value.toUInt32 } := by
  refine resolve_of_parseNumberText (plainWord_decimal value) ?_ hrange
  have hdigits : ∀ c ∈ decimal value, isDigit c = true := by
    intro c hc
    obtain ⟨hlower, hupper⟩ := range_of_mem_decimal hc
    unfold isDigit
    rw [decide_eq_true hlower, decide_eq_true hupper]
    rfl
  have hread : fromChars 10 (2 ^ 64) (decimal value) = some value := by
    rw [fromChars_eq_some (decimal_ne_nil value) fun c => isDigitOf_of_mem_decimal,
      digitsValue_decimal]
    rw [digitsValue_decimal]
    exact hrange.trans (by decide)
  -- no prefix of another base can stand in a row of digits
  have hletter {c : Char} (hc : isDigit c = false) : c ∉ decimal value := by
    intro hmem
    rw [hdigits c hmem] at hc
    cases hc
  have hall : (decimal value).all isDigit = true := List.all_eq_true.mpr hdigits
  have hpoint : (decimal value).contains '.' = false := by
    rw [List.contains_eq_mem, decide_eq_false_iff_not]
    exact hletter rfl
  generalize decimal value = text at *
  unfold parseNumberText
  split
  · exact absurd (List.mem_cons_of_mem _ List.mem_cons_self) (hletter (c := 'x') rfl)
  · exact absurd (List.mem_cons_of_mem _ List.mem_cons_self) (hletter (c := 'X') rfl)
  · exact absurd (List.mem_cons_of_mem _ List.mem_cons_self) (hletter (c := 'b') rfl)
  · exact absurd (List.mem_cons_of_mem _ List.mem_cons_self) (hletter (c := 'B') rfl)
  · rw [hpoint, hall, hread]
    rfl

end MvmeInitScript

end Fidget
