import Fidget.Lib.FloatText
import Mathlib.Algebra.Order.Round

/-!
# Values in init scripts

The first part of `core/MvmeInitScript.cpp`: arithmetic expressions, numbers, and variables. A text
is the list of its characters. `double` is Lean's `Float`; a `long double` is kept as the number it
is, since nothing is computed with it but its rounding to a whole number.

## Main results

- `resolve`, `resolveFloating`, `resolveMvmeLongAddress`: the three ways in which a number is read.
- `ArithmeticParser.parse`: the value of an expression.
- `ValueResolver.expandAndEvaluateOnce`: a text with its variables and expressions replaced.
-/

namespace Fidget

/-- Why a statement was not resolved. -/
inductive MvmeInitScriptUnresolvedReason where
  | unsupportedStatement
  | unsupportedExpression
  | undefinedVariable
  | invalidValue
  | invalidSelector
  | selectorUnresolved
  | conditionalAfterAccuTest
  | arithmeticRequiresExpression
  | expansionLimitReached
  | malformedVariableTable
  | malformedScript
  deriving DecidableEq, Repr

namespace MvmeInitScript

/-- A text of a script. -/
abbrev Text := List Char

structure ValueResult where
  success : Bool := false
  value : UInt32 := 0
  reason : MvmeInitScriptUnresolvedReason := .unsupportedExpression
  deriving DecidableEq, Repr

structure FloatingValueResult where
  success : Bool := false
  value : ℚ := 0
  reason : MvmeInitScriptUnresolvedReason := .unsupportedExpression
  deriving DecidableEq, Repr

/-- The value of a variable, if it is known. -/
structure VariableBinding where
  resolved : Bool := false
  value : Text := []
  deriving DecidableEq, Repr

/-- A map; of two entries under one name the first counts. -/
abbrev VariableTable := List (Text × VariableBinding)

/-! ### Characters

The classes of characters that the source asks the C library for. -/

/-- `std::isspace` of the classic locale. -/
def isSpace (c : Char) : Bool := c = ' ' || ('\t' ≤ c && c ≤ '\r')

/-- `std::isdigit`. -/
def isDigit (c : Char) : Bool := '0' ≤ c && c ≤ '9'

def trim (text : Text) : Text :=
  ((text.dropWhile isSpace).reverse.dropWhile isSpace).reverse

def lower (text : Text) : Text := text.map Char.toLower

/-- `text.find(pattern) != npos`. -/
def contains (text pattern : Text) : Bool := text.tails.any fun tail => pattern.isPrefixOf tail

/-! ### Arithmetic

The expressions of MVME: sums, products, signs and parentheses over decimal, hexadecimal and binary
numbers. The parser of the source is a recursive descent, and it is followed function by function.
-/

namespace ArithmeticParser

def skipSpaces (text : Text) : Text := text.dropWhile isSpace

/-- The digits of a number in base 16 or 2. A separator does not count as a digit. -/
def parseIntegerDigits (base : Nat) (allowSeparators : Bool) (digitSeen : Bool) (value : Float) :
    Text → Option (Float × Text)
  | [] => if digitSeen then some (value, []) else none
  | c :: rest =>
    if allowSeparators && c = '\'' then
      parseIntegerDigits base allowSeparators digitSeen value rest
    else
      match NumberText.digitValue c with
      | none => if digitSeen then some (value, c :: rest) else none
      | some digit =>
        if digit ≥ base then if digitSeen then some (value, c :: rest) else none
        else
          parseIntegerDigits base allowSeparators true
            (value * Float.ofNat base + Float.ofNat digit) rest

/-- How far a number has been read. -/
structure DecimalState where
  digitSeen : Bool := false
  pointSeen : Bool := false
  integer : Float := 0.0
  fraction : Float := 0.0
  divisor : Float := 1.0

/-- One digit more. The sum of the whole part is formed in `long double`. -/
def DecimalState.addDigit (state : DecimalState) (digit : Nat) : DecimalState :=
  if state.pointSeen then
    let divisor := state.divisor * 10.0
    { state with digitSeen := true, divisor,
                 fraction := state.fraction + Float.ofNat digit / divisor }
  else
    { state with digitSeen := true, integer := FloatText.extendedMulAdd state.integer 10 digit }

def parseDecimal (state : DecimalState) : Text → Option (Float × Text)
  | [] => if state.digitSeen then some (state.integer + state.fraction, []) else none
  | c :: rest =>
    if isDigit c then parseDecimal (state.addDigit (c.toNat - '0'.toNat)) rest
    else if c = '.' && !state.pointSeen then parseDecimal { state with pointSeen := true } rest
    else if state.digitSeen then some (state.integer + state.fraction, c :: rest)
    else none

/-- The longest number that a text begins with. -/
def parseNumber (text : Text) : Option (Float × Text) :=
  match skipSpaces text with
  | '0' :: 'x' :: rest => parseIntegerDigits 16 false false 0.0 rest
  | '0' :: 'X' :: rest => parseIntegerDigits 16 false false 0.0 rest
  | '0' :: 'b' :: rest => parseIntegerDigits 2 true false 0.0 rest
  | '0' :: 'B' :: rest => parseIntegerDigits 2 true false 0.0 rest
  | text => parseDecimal {} text

/-! The three levels of the grammar call each other. Every call but the first of a level on the way
down uses up a character, so three calls for each character are enough. -/

mutual

/-- Sums, with fuel for the nesting. -/
def parseExpression : (fuel : Nat) → Text → Option (Float × Text)
  | 0, _ => none
  | fuel + 1, text =>
    match parseTerm fuel text with
    | none => none
    | some (left, rest) => parseSum fuel left rest

/-- The loop of `ParseExpression`. -/
def parseSum : (fuel : Nat) → (left : Float) → Text → Option (Float × Text)
  | 0, _, _ => none
  | fuel + 1, left, text =>
    match skipSpaces text with
    | '+' :: rest =>
      match parseTerm fuel rest with
      | none => none
      | some (right, rest) => parseSum fuel (left + right) rest
    | '-' :: rest =>
      match parseTerm fuel rest with
      | none => none
      | some (right, rest) => parseSum fuel (left - right) rest
    | text => some (left, text)

/-- Products. -/
def parseTerm : (fuel : Nat) → Text → Option (Float × Text)
  | 0, _ => none
  | fuel + 1, text =>
    match parseFactor fuel text with
    | none => none
    | some (left, rest) => parseProduct fuel left rest

/-- The loop of `ParseTerm`. -/
def parseProduct : (fuel : Nat) → (left : Float) → Text → Option (Float × Text)
  | 0, _, _ => none
  | fuel + 1, left, text =>
    match skipSpaces text with
    | '*' :: rest =>
      match parseFactor fuel rest with
      | none => none
      | some (right, rest) => parseProduct fuel (left * right) rest
    | '/' :: rest =>
      match parseFactor fuel rest with
      | none => none
      | some (right, rest) => if right == 0.0 then none else parseProduct fuel (left / right) rest
    | text => some (left, text)

/-- Signs, parentheses and numbers. -/
def parseFactor : (fuel : Nat) → Text → Option (Float × Text)
  | 0, _ => none
  | fuel + 1, text =>
    match skipSpaces text with
    | '+' :: rest => parseFactor fuel rest
    | '-' :: rest => (parseFactor fuel rest).map fun (value, rest) => (-value, rest)
    | '(' :: rest =>
      match parseExpression fuel rest with
      | none => none
      | some (value, rest) =>
        match skipSpaces rest with
        | ')' :: rest => some (value, rest)
        | _ => none
    | text => parseNumber text

end

/-- The whole text must be an expression. -/
def parse (text : Text) : Option Float :=
  match parseExpression (3 * text.length + 3) text with
  | none => none
  | some (value, rest) => if skipSpaces rest = [] && value.isFinite then some value else none

end ArithmeticParser

/-- A signed whole number in decimal. -/
def integerText (n : ℤ) : Text :=
  if n < 0 then '-' :: Nat.toDigits 10 n.natAbs else Nat.toDigits 10 n.natAbs

/-- A whole number is written as such if it fits; other numbers with as many digits as they need. -/
def formatExpressionNumber (value : Float) : Option Text :=
  match FloatText.floatValue value with
  | none => none
  | some q =>
    if q = ⌊q⌋ then
      -- The greatest `std::int64_t` is converted to `double` and becomes 2 ^ 63.
      if q < -2 ^ 63 ∨ q > 2 ^ 63 then none
      -- Converting 2 ^ 63 itself is out of range; the processor's answer is the least number.
      else if q = 2 ^ 63 then some (integerText (-2 ^ 63))
      else some (integerText ⌊q⌋)
    else some (FloatText.formatGeneral 6 q)

/-! ### Numbers

A value without expressions is read as an unsigned number; with a point it is read as a
floating-point number and rounded. -/

/-- `std::from_chars` of all of a text for an unsigned number below `limit`. -/
def fromChars (base limit : Nat) (text : Text) : Option Nat :=
  if text ≠ [] && text.all (NumberText.isDigitOf base) && NumberText.digitsValue base text < limit then
    some (NumberText.digitsValue base text)
  else none

/-- The digits of a binary number, with separators, as long as it fits 64 bits. -/
def parseBinary (digitSeen : Bool) (value : Nat) : Text → Option Nat
  | [] => if digitSeen then some value else none
  | '\'' :: rest => parseBinary digitSeen value rest
  | '0' :: rest => if value > (2 ^ 64 - 1) / 2 then none else parseBinary true (2 * value) rest
  | '1' :: rest => if value > (2 ^ 64 - 1) / 2 then none else parseBinary true (2 * value + 1) rest
  | _ :: _ => none

/-- The number that a trimmed text without expansions is. -/
def parseNumberText (text : Text) : Option ℚ :=
  match text with
  | '0' :: 'x' :: digit :: digits => (fromChars 16 (2 ^ 64) (digit :: digits)).map Nat.cast
  | '0' :: 'X' :: digit :: digits => (fromChars 16 (2 ^ 64) (digit :: digits)).map Nat.cast
  | '0' :: 'b' :: digit :: digits => (parseBinary false 0 (digit :: digits)).map Nat.cast
  | '0' :: 'B' :: digit :: digits => (parseBinary false 0 (digit :: digits)).map Nat.cast
  | text =>
    if text.contains '.' then FloatText.readFloat text
    else if text.all isDigit then (fromChars 10 (2 ^ 64) text).map Nat.cast
    else none

/-- Something is left to be expanded. -/
def expansionStart (text : Text) : Bool := contains text ['$', '{'] || contains text ['$', '(']

def resolveFloating (source : Text) : FloatingValueResult :=
  let text := trim source
  if expansionStart text then { reason := .expansionLimitReached }
  else if text = [] then {}
  else
    match parseNumberText text with
    | none =>
      if text.any (fun c => c ∈ ['+', '*', '/', '(', ')']) || (text.drop 1).contains '-' then
        { reason := .arithmeticRequiresExpression }
      else { reason := .unsupportedExpression }
    | some value => { success := true, value }

/-- `std::round`: halves away from zero. -/
def roundAway (q : ℚ) : ℤ := if q < 0 then -⌊-q + 1 / 2⌋ else ⌊q + 1 / 2⌋

/-- `ValueResolver::Resolve`, which uses no variables. -/
def resolve (source : Text) : ValueResult :=
  let number := resolveFloating source
  if !number.success then { reason := number.reason }
  else
    let rounded := roundAway number.value
    if rounded < 0 ∨ rounded > 0xFFFFFFFF then { reason := .invalidValue }
    else { success := true, value := rounded.toNat.toUInt32 }

/-! ### Variables and expressions

A text is expanded in two passes, first its variables and then its expressions. A value that is put
in is not expanded again in the same pass. -/

structure TextResult where
  success : Bool := false
  text : Text := []
  reason : MvmeInitScriptUnresolvedReason := .unsupportedExpression
  deriving DecidableEq, Repr

/-- The variable tables, the innermost first. -/
structure ValueResolver where
  front : VariableTable := []
  outer : List VariableTable := []
  deriving DecidableEq, Repr

namespace ValueResolver

/-- The innermost table comes first. -/
def tables (resolver : ValueResolver) : List VariableTable := resolver.front :: resolver.outer

/-- A variable is set in the innermost table. -/
def setLiteral (resolver : ValueResolver) (name value : Text) : ValueResolver :=
  { resolver with front := (name, { resolved := true, value }) :: resolver.front }

/-- A variable is no longer known. -/
def invalidate (resolver : ValueResolver) (name : Text) : ValueResolver :=
  { resolver with front := (name, {}) :: resolver.front }

/-- The innermost table that has a variable decides. -/
def lookup (resolver : ValueResolver) (name : Text) : Option VariableBinding :=
  resolver.tables.findSome? fun table => List.lookup name table

/-- Up to the closing brace, and what follows it. -/
def splitAtClosingBrace (text : Text) : Option (Text × Text) :=
  match text.dropWhile (· ≠ '}') with
  | [] => none
  | _ :: rest => some (text.takeWhile (· ≠ '}'), rest)

/-- What is behind a variable is shorter. -/
theorem length_of_splitAtClosingBrace {text name rest : Text}
    (h : splitAtClosingBrace text = some (name, rest)) : rest.length < text.length := by
  unfold splitAtClosingBrace at h
  split at h
  · cases h
  next c tail htail =>
    cases h
    have hle := (List.dropWhile_suffix (l := text) (· ≠ '}')).length_le
    rw [htail, List.length_cons] at hle
    omega

/-- The variables from the left to the right, each by its value as it is. -/
def expandVariablesOnce (resolver : ValueResolver) (expanded : Text) : Text → TextResult
  | [] => { success := true, text := expanded }
  | '$' :: '{' :: rest =>
    match _h : splitAtClosingBrace rest with
    | none => { reason := .undefinedVariable }
    | some (name, after) =>
      match resolver.lookup name with
      | none => { reason := .undefinedVariable }
      | some binding =>
        if name = [] || !binding.resolved then { reason := .undefinedVariable }
        else expandVariablesOnce resolver (expanded ++ binding.value) after
  | c :: rest => expandVariablesOnce resolver (expanded ++ [c]) rest
termination_by text => text.length
decreasing_by
  · have hlength := length_of_splitAtClosingBrace _h
    simp only [List.length_cons]
    omega
  · simp

/-- Up to the parenthesis that closes the `depth` open ones, and what follows it. -/
def splitAtClosingParenthesis (depth : Nat) : Text → Option (Text × Text)
  | [] => none
  | '(' :: rest => (splitAtClosingParenthesis (depth + 1) rest).map fun (text, rest) =>
      ('(' :: text, rest)
  | ')' :: rest =>
    if depth ≤ 1 then some ([], rest)
    else (splitAtClosingParenthesis (depth - 1) rest).map fun (text, rest) => (')' :: text, rest)
  | c :: rest => (splitAtClosingParenthesis depth rest).map fun (text, rest) => (c :: text, rest)

/-- What is behind an expression is shorter. -/
theorem length_of_splitAtClosingParenthesis {depth : Nat} {text expression rest : Text}
    (h : splitAtClosingParenthesis depth text = some (expression, rest)) :
    rest.length < text.length := by
  induction depth, text using splitAtClosingParenthesis.induct generalizing expression with
  | case1 depth => cases h
  | case2 depth tail ih =>
      rw [splitAtClosingParenthesis, Option.map_eq_some_iff] at h
      obtain ⟨⟨inner, after⟩, hinner, heq⟩ := h
      cases heq
      exact (ih hinner).trans (Nat.lt_succ_self _)
  -- the parenthesis that closes the expression
  | case3 depth tail hdepth =>
      rw [splitAtClosingParenthesis, if_pos hdepth] at h
      cases h
      exact Nat.lt_succ_self _
  | case4 depth tail hdepth ih =>
      rw [splitAtClosingParenthesis, if_neg hdepth, Option.map_eq_some_iff] at h
      obtain ⟨⟨inner, after⟩, hinner, heq⟩ := h
      cases heq
      exact (ih hinner).trans (Nat.lt_succ_self _)
  | case5 depth c tail hopen hclose ih =>
      rw [splitAtClosingParenthesis, Option.map_eq_some_iff] at h
      · obtain ⟨⟨inner, after⟩, hinner, heq⟩ := h
        cases heq
        exact (ih hinner).trans (Nat.lt_succ_self _)
      · exact hopen
      · exact hclose

/-- The expressions from the left to the right. -/
def evaluateExpressionsOnce (result : Text) : Text → TextResult
  | [] => { success := true, text := result }
  | '$' :: '(' :: rest =>
    match _h : splitAtClosingParenthesis 1 rest with
    | none => { text := result, reason := .unsupportedExpression }
    | some (expression, after) =>
      match (ArithmeticParser.parse expression).bind formatExpressionNumber with
      | none => { text := result, reason := .unsupportedExpression }
      | some formatted => evaluateExpressionsOnce (result ++ formatted) after
  | c :: rest => evaluateExpressionsOnce (result ++ [c]) rest
termination_by text => text.length
decreasing_by
  · have hlength := length_of_splitAtClosingParenthesis _h
    simp only [List.length_cons]
    omega
  · simp

/-- First the variables, then the expressions. -/
def expandAndEvaluateOnce (resolver : ValueResolver) (source : Text) : TextResult :=
  let expanded := resolver.expandVariablesOnce [] source
  if !expanded.success then expanded else evaluateExpressionsOnce [] expanded.text

end ValueResolver

end MvmeInitScript

end Fidget
