import Mathlib.Data.List.Basic
import Mathlib.Data.Nat.Digits.Lemmas
import Mathlib.Data.UInt

/-!
# Numbers written in digits

Digits of bases up to sixteen, the value of a run of them, and the two ways in which numbers are
written: in hexadecimal with a fixed number of digits, and in decimal.

## Main results

- `digitsValue_hexadecimal`, `digitsValue_decimal`: a number that was written is read back.
- `hexadecimal16`, `hexadecimal32`: the `snprintf` formats `%04X` and `0x%08X`, for messages.
-/

namespace Fidget.NumberText

/-- The value of a digit in any base up to sixteen. -/
def digitValue (c : Char) : Option Nat :=
  if '0' ≤ c ∧ c ≤ '9' then some (c.toNat - '0'.toNat)
  else if 'a' ≤ c ∧ c ≤ 'f' then some (c.toNat - 'a'.toNat + 10)
  else if 'A' ≤ c ∧ c ≤ 'F' then some (c.toNat - 'A'.toNat + 10)
  else none

def isDigitOf (base : Nat) (c : Char) : Bool :=
  match digitValue c with
  | some value => value < base
  | none => false

/-- The value of a run of digits. -/
def digitsValue (base : Nat) (digits : List Char) : Nat :=
  digits.foldl (fun value c => value * base + (digitValue c).getD 0) 0

/-- An upper-case hexadecimal digit. -/
def hexadecimalDigit (digit : Nat) : Char :=
  if digit < 10 then Char.ofNat (48 + digit) else Char.ofNat (55 + digit)

/-- The last `width` hexadecimal digits of a number. -/
def hexadecimal : (width : Nat) → Nat → List Char
  | 0, _ => []
  | width + 1, value => hexadecimal width (value / 16) ++ [hexadecimalDigit (value % 16)]

def decimal (value : Nat) : List Char := Nat.toDigits 10 value

/-! ### Reading back -/

/-- One digit more. -/
theorem digitsValue_append (base : Nat) (digits : List Char) (c : Char) :
    digitsValue base (digits ++ [c]) = digitsValue base digits * base + (digitValue c).getD 0 := by
  rw [digitsValue, List.foldl_append]
  rfl

/-- A digit is read back. -/
theorem digitValue_hexadecimalDigit {digit : Nat} (h : digit < 16) :
    digitValue (hexadecimalDigit digit) = some digit := by
  interval_cases digit <;> rfl

theorem length_hexadecimal (width value : Nat) : (hexadecimal width value).length = width := by
  induction width generalizing value with
  | zero => rfl
  | succ width ih => rw [hexadecimal, List.length_append, ih, List.length_singleton]

/-- A number in hexadecimal has no other characters. -/
theorem isDigitOf_of_mem_hexadecimal {width value : Nat} {c : Char}
    (h : c ∈ hexadecimal width value) : isDigitOf 16 c = true := by
  induction width generalizing value with
  | zero => cases h
  | succ width ih =>
      rw [hexadecimal, List.mem_append, List.mem_singleton] at h
      rcases h with h | rfl
      · exact ih h
      · have hlt : value % 16 < 16 := Nat.mod_lt _ (by decide)
        rw [isDigitOf, digitValue_hexadecimalDigit hlt]
        exact decide_eq_true hlt

/-- Enough digits carry the whole number. -/
theorem digitsValue_hexadecimal {width value : Nat} (h : value < 16 ^ width) :
    digitsValue 16 (hexadecimal width value) = value := by
  induction width generalizing value with
  | zero =>
      rw [Nat.pow_zero, Nat.lt_one_iff] at h
      rw [h]
      rfl
  | succ width ih =>
      have hlt : value % 16 < 16 := Nat.mod_lt _ (by decide)
      have hhigh : value / 16 < 16 ^ width := by
        rw [Nat.div_lt_iff_lt_mul (by decide), ← Nat.pow_succ]
        exact h
      rw [hexadecimal, digitsValue_append, ih hhigh, digitValue_hexadecimalDigit hlt,
        Option.getD_some]
      omega

theorem digitValue_of_isDigit {c : Char} (h : c.isDigit = true) :
    digitValue c = some (c.toNat - '0'.toNat) := by
  have hbounds : '0' ≤ c ∧ c ≤ '9' := by
    rw [Char.isDigit, Bool.and_eq_true, decide_eq_true_iff, decide_eq_true_iff] at h
    exact h
  rw [digitValue, if_pos hbounds]

/-- A number in decimal has no other characters. -/
theorem isDigit_of_mem_decimal {value : Nat} {c : Char} (h : c ∈ decimal value) :
    c.isDigit = true :=
  Nat.isDigit_of_mem_toDigits (by decide) (by decide) h

theorem decimal_ne_nil (value : Nat) : decimal value ≠ [] := Nat.toDigits_ne_nil

theorem digitsValue_decimal (value : Nat) : digitsValue 10 (decimal value) = value := by
  have hfold : ∀ (digits : List Char) (start : Nat), (∀ c ∈ digits, c.isDigit = true) →
      digits.foldl (fun value c => value * 10 + (digitValue c).getD 0) start =
        Nat.ofDigitChars 10 digits start := by
    intro digits
    induction digits with
    | nil => intro start _; rfl
    | cons c digits ih =>
        intro start hdigits
        have hc := digitValue_of_isDigit (hdigits c List.mem_cons_self)
        rw [List.foldl_cons, ih _ fun d hd => hdigits d (List.mem_cons_of_mem _ hd),
          Nat.ofDigitChars_cons, hc, Option.getD_some, Nat.mul_comm]
  rw [digitsValue, hfold _ _ fun c hc => isDigit_of_mem_decimal hc]
  exact Nat.ofDigitChars_ten_toDigits

end Fidget.NumberText

namespace Fidget

/-- Four upper-case hexadecimal digits. -/
def hexadecimal16 (value : UInt16) : String :=
  String.ofList (NumberText.hexadecimal 4 value.toNat)

/-- Eight upper-case hexadecimal digits after `0x`. -/
def hexadecimal32 (value : UInt32) : String :=
  "0x" ++ String.ofList (NumberText.hexadecimal 8 value.toNat)

end Fidget
