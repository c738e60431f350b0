import Fidget.Lib.NumberText
import Mathlib.Algebra.Order.Floor.Ring
import Mathlib.Data.Rat.Floor

/-!
# Floating-point numbers and their texts

The two conversions of the C library between texts and floating-point numbers: `strtof`, and the
general format of `printf`. The numbers themselves are Lean's, which are those of IEEE 754; only
the sums that C forms in extended precision are rounded here.

## Main results

- `floatValue`: the number that a `double` stands for, none for infinities and what is not a number.
- `formatGeneral`: `%g`.
- `readFloat`: `strtof` on a literal with a point.
-/

namespace Fidget.FloatText

open Float.Model NumberText

/-! ### Values -/

/-- The number itself, unless it is infinite or not a number. -/
def rationalOf : UnpackedFloat → Option ℚ
  | .infinity _ => none
  | .notANumber => none
  | .zero _ => some 0
  | .finite .positive mantissa exponent _ => some (mantissa * 2 ^ exponent)
  | .finite .negative mantissa exponent _ => some (-(mantissa * 2 ^ exponent))

/-- The value of a `double`. -/
def floatValue (x : Float) : Option ℚ := rationalOf x.toModel.unpack

/-- `long double` where it has 64 bits of precision. -/
def extendedFormat : Format where
  mantissaBitsWithoutImplicit := 63
  exponentBits := 15

/-- The conversion of an extended number to `double`. -/
def toDouble : UnpackedFloat → Float
  | .finite sign mantissa exponent _ =>
    Float.ofModel (Float.Model.pack (UnpackedFloat.round .binary64 sign mantissa exponent))
  | x => Float.ofModel (Float.Model.pack x)

/-- `x * n + m` in `long double`, converted to `double`. -/
def extendedMulAdd (x : Float) (n m : Nat) : Float :=
  let product := UnpackedFloat.mul extendedFormat x.toModel.unpack
    (UnpackedFloat.ofNat extendedFormat n)
  toDouble (UnpackedFloat.add extendedFormat product (UnpackedFloat.ofNat extendedFormat m))

/-! ### Printing -/

/-- The nearest whole number, the even one of two. -/
def roundHalfEven (q : ℚ) : ℤ :=
  let down := ⌊q⌋
  let rest := q - down
  if rest < 1 / 2 then down
  else if rest > 1 / 2 then down + 1
  else if down % 2 = 0 then down
  else down + 1

/-- The exponent of the leading decimal digit of a positive number. -/
def decimalExponent (q : ℚ) : ℤ :=
  let guess : ℤ := (Nat.toDigits 10 q.num.natAbs).length - (Nat.toDigits 10 q.den).length
  if (10 : ℚ) ^ guess ≤ q then guess else guess - 1

/-- The significant digits of a positive number, and the exponent of the first. -/
def significantDigits (precision : Nat) (q : ℚ) : List Char × ℤ :=
  let exponent := decimalExponent q
  let scaled := roundHalfEven (q / (10 : ℚ) ^ (exponent - precision + 1))
  -- Rounding up may carry into a digit more.
  if scaled.natAbs < 10 ^ precision then (Nat.toDigits 10 scaled.natAbs, exponent)
  else (Nat.toDigits 10 (10 ^ (precision - 1)), exponent + 1)

/-- The zeros at the end of the digits. -/
def dropTrailingZeros (digits : List Char) : List Char :=
  (digits.reverse.dropWhile (· = '0')).reverse

/-- A fraction after its point, nothing if there is none. -/
def fractionText (digits : List Char) : List Char :=
  if digits = [] then [] else '.' :: digits

/-- A positive number as `%g` prints it. -/
def formatGeneralPositive (precision : Nat) (q : ℚ) : List Char :=
  let (digits, exponent) := significantDigits precision q
  if -4 ≤ exponent ∧ exponent < precision then
    if 0 ≤ exponent then
      digits.take (exponent.toNat + 1)
        ++ fractionText (dropTrailingZeros (digits.drop (exponent.toNat + 1)))
    else
      '0' :: fractionText
        (dropTrailingZeros (List.replicate ((-exponent).toNat - 1) '0' ++ digits))
  else
    let exponentDigits := Nat.toDigits 10 exponent.natAbs
    digits.take 1 ++ fractionText (dropTrailingZeros (digits.drop 1)) ++ ['e']
      ++ [if exponent < 0 then '-' else '+']
      ++ (if exponentDigits.length < 2 then ['0'] else []) ++ exponentDigits

/-- `%g` in the classic locale. -/
def formatGeneral (precision : Nat) (q : ℚ) : List Char :=
  if q = 0 then ['0']
  else if q < 0 then '-' :: formatGeneralPositive precision (-q)
  else formatGeneralPositive precision q

/-! ### Reading -/

/-- An optional sign: whether it is a minus, and what follows. -/
def takeSign : List Char → Bool × List Char
  | '-' :: rest => (true, rest)
  | '+' :: rest => (false, rest)
  | text => (false, text)

/-- A floating-point literal that is all of the text: the mantissa's digits as a whole number, and
the power of ten, or for a hexadecimal literal of two, by which it is scaled. -/
def readLiteral (text : List Char) : Option (Nat × Nat × ℤ) :=
  let (hexadecimal, text) : Bool × List Char :=
    match text with
    | '0' :: 'x' :: rest => (true, rest)
    | '0' :: 'X' :: rest => (true, rest)
    | _ => (false, text)
  let base := if hexadecimal then 16 else 10
  let whole := text.takeWhile (isDigitOf base)
  let afterWhole := text.dropWhile (isDigitOf base)
  let (fraction, afterFraction) : List Char × List Char :=
    match afterWhole with
    | '.' :: rest => (rest.takeWhile (isDigitOf base), rest.dropWhile (isDigitOf base))
    | _ => ([], afterWhole)
  let mantissa := digitsValue base (whole ++ fraction)
  let scale : ℤ := if hexadecimal then -4 * fraction.length else -fraction.length
  let scaleBase := if hexadecimal then 2 else 10
  if whole ++ fraction = [] then none
  else
    match afterFraction with
    | [] => some (mantissa, scaleBase, scale)
    | marker :: rest =>
      let (negative, digits) := takeSign rest
      let expected := if hexadecimal then marker = 'p' || marker = 'P'
        else marker = 'e' || marker = 'E'
      if expected && digits ≠ [] && digits.all (isDigitOf 10) then
        let exponent : ℤ := digitsValue 10 digits
        some (mantissa, scaleBase, scale + if negative then -exponent else exponent)
      else none

/-- A scaled whole number in a format. -/
def roundScaled (format : Format) (mantissa scaleBase : Nat) (scale : ℤ) : UnpackedFloat :=
  if scaleBase = 10 then UnpackedFloat.ofScientific format mantissa scale
  else UnpackedFloat.normalize format mantissa scale .positive

/-- The smallest normal number of `float`. -/
def minimumNormal32 : ℚ := 2 ^ (-126 : ℤ)

/-- `strtof` on a text that contains a point: the value of the literal as a `float`, provided that
it is all of the text and that no range error is reported. -/
def readFloat (text : List Char) : Option ℚ :=
  let (negative, text) := takeSign text
  match readLiteral text with
  | none => none
  | some (mantissa, scaleBase, scale) =>
    let rounded := roundScaled .binary32 mantissa scaleBase scale
    let packed := (Float32.Model.pack rounded).unpack
    -- Tiny and inexact is an underflow; tininess is judged after rounding to full precision.
    let wide := rationalOf (roundScaled ⟨23, by decide, 12, by decide⟩ mantissa scaleBase scale)
    match rationalOf packed, wide with
    | some value, some precise =>
      if mantissa ≠ 0 ∧ precise < minimumNormal32 ∧
          value ≠ mantissa * (scaleBase : ℚ) ^ scale then
        none
      else some (if negative then -value else value)
    | _, _ => none

end Fidget.FloatText
