import Fidget.Lib.Lists
import Mathlib.Data.List.TakeWhile
import Mathlib.Data.UInt

/-!
# Texts of whitespace-separated tokens

A text is a list of bytes. A stream that is read only with `input >> token` is the list of its
maximal whitespace-free runs, `tokens`; a writer that puts one blank between the words of a line and
a newline after it, `line`, is undone by it as long as every word is itself a token. Numbers are
written in decimal and read back by `readUnsigned`, which accepts digits only and a bounded value.

A reader consumes tokens from the front. `Reads p ts a` says that `p` consumes exactly `ts` and
returns `a`, whatever follows; the rules below compose such facts along the structure of a reader.

## Main results

- `tokens_unwords`: words that are tokens are read back.
- `parseUnsigned_decimal`: so is a number within its limit.
- `Reads.bind`, `Reads.map`, `Reads.require`: the rules by which a reader is verified along its own
  structure.
-/

namespace Fidget.TokenText

open scoped Fidget.Lists

/-- A text is a list of bytes. -/
abbrev Text := List UInt8

/-- The bytes of a literal text. -/
def ascii (s : String) : Text := s.toList.map fun c => c.toNat.toUInt8

instance : Coe String Text := ⟨ascii⟩

/-! ### Tokens -/

/-- The whitespace of the classic locale. -/
def isSpace (b : UInt8) : Bool := b == 0x20 || (0x09 ≤ b && b ≤ 0x0D)

/-- What `input >> token` gives, one after the other. -/
def tokens (text : Text) : List Text := (text.splitOnP isSpace).filter fun token => !token.isEmpty

/-- Not empty, and without whitespace. -/
def IsToken (word : Text) : Prop := word ≠ [] ∧ ∀ b ∈ word, isSpace b = false

instance : DecidablePred IsToken := fun word =>
  inferInstanceAs (Decidable (word ≠ [] ∧ ∀ b ∈ word, isSpace b = false))

/-- Whitespace separates: the tokens before it and the tokens after it do not touch. -/
theorem tokens_append_space (text rest : Text) {b : UInt8} (hb : isSpace b = true) :
    tokens (text ++ b :: rest) = tokens text ++ tokens rest := by
  unfold tokens
  rw [List.splitOnP_append_cons _ _ hb, List.filter_append]

/-- A word that is a token is read as it is. -/
theorem tokens_of_isToken {word : Text} (h : IsToken word) : tokens word = [word] := by
  unfold tokens
  rw [List.splitOnP_eq_singleton h.2]
  simp [h.1]

/-- The words of a line, one blank between two of them. -/
def unwords : List Text → Text
  | [] => []
  | [word] => word
  | word :: words => word ++ 0x20 :: unwords words

/-- The words of a line, with a blank between any two. -/
def line (words : List Text) : Text := unwords words ++ [0x0A]

/-- A line of tokens is read as those tokens. -/
theorem tokens_unwords {words : List Text} (h : ∀ word ∈ words, IsToken word) :
    tokens (unwords words) = words := by
  induction words with
  | nil => rfl
  | cons word words ih =>
      have hword := h word List.mem_cons_self
      cases words with
      | nil => exact tokens_of_isToken hword
      | cons next words =>
          have hrest : tokens (unwords (next :: words)) = next :: words :=
            ih fun w hw => h w (List.mem_cons_of_mem _ hw)
          show tokens (word ++ 0x20 :: unwords (next :: words)) = word :: next :: words
          rw [tokens_append_space _ _ (by decide), tokens_of_isToken hword, hrest]
          rfl

/-- The tokens of a text written line by line are the words that were written. -/
theorem tokens_flatMap_line {lines : List (List Text)}
    (h : ∀ words ∈ lines, ∀ word ∈ words, IsToken word) :
    tokens (lines.flatMap line) = lines.flatten := by
  induction lines with
  | nil => rfl
  | cons words lines ih =>
      have hwords := tokens_unwords (h words List.mem_cons_self)
      have hlines := ih fun ws hws => h ws (List.mem_cons_of_mem _ hws)
      rw [List.flatMap_cons, line, List.append_assoc, List.singleton_append,
        tokens_append_space _ _ (by decide), hwords, hlines, List.flatten_cons]

/-! ### Decimal numbers -/

/-- A number as `operator<<` prints it. -/
def decimal (n : Nat) : Text := (Nat.toDigits 10 n).map fun c => c.toNat.toUInt8

def isDigit (b : UInt8) : Bool := 0x30 ≤ b && b ≤ 0x39

/-- The value of a run of digits. -/
def decimalValue (digits : Text) : Nat :=
  digits.foldl (fun value b => 10 * value + (b.toNat - 0x30)) 0

theorem toNat_of_isDigit {c : Char} (h : c.isDigit = true) :
    0x30 ≤ c.toNat ∧ c.toNat ≤ 0x39 := by
  simp only [Char.isDigit, Bool.and_eq_true, decide_eq_true_eq] at h
  exact ⟨UInt32.le_iff_toNat_le.mp h.1, UInt32.le_iff_toNat_le.mp h.2⟩

theorem toNat_byte_of_isDigit {c : Char} (h : c.isDigit = true) :
    (c.toNat.toUInt8).toNat = c.toNat := by
  obtain ⟨-, hle⟩ := toNat_of_isDigit h
  rw [Nat.toUInt8_eq, UInt8.toNat_ofNat']
  omega

/-- A number is written in digits. -/
theorem isDigit_of_mem_decimal {n : Nat} {b : UInt8} (h : b ∈ decimal n) : isDigit b = true := by
  obtain ⟨c, hc, rfl⟩ := List.mem_map.mp h
  have hdigit := Nat.isDigit_of_mem_toDigits (by decide) (by decide) hc
  obtain ⟨hle, hge⟩ := toNat_of_isDigit hdigit
  have hbyte := toNat_byte_of_isDigit hdigit
  simp only [isDigit, Bool.and_eq_true, decide_eq_true_eq, UInt8.le_iff_toNat_le, hbyte]
  exact ⟨hle, hge⟩

theorem decimal_ne_nil (n : Nat) : decimal n ≠ [] := by
  unfold decimal
  simp

/-- And the digits are those of the number. -/
theorem decimalValue_decimal (n : Nat) : decimalValue (decimal n) = n := by
  have hfold : ∀ (cs : List Char) (value : Nat), (∀ c ∈ cs, c.isDigit = true) →
      (cs.map fun c => c.toNat.toUInt8).foldl (fun value b => 10 * value + (b.toNat - 0x30)) value
        = Nat.ofDigitChars 10 cs value := by
    intro cs
    induction cs with
    | nil => intro value _; rfl
    | cons c cs ih =>
        intro value hcs
        have hc := toNat_byte_of_isDigit (hcs c List.mem_cons_self)
        rw [List.map_cons, List.foldl_cons, ih _ fun c hc => hcs c (List.mem_cons_of_mem _ hc),
          Nat.ofDigitChars_cons, hc]
        rfl
  rw [decimalValue, decimal, hfold _ _ fun c hc => Nat.isDigit_of_mem_toDigits (by decide) (by decide) hc]
  exact Nat.ofDigitChars_ten_toDigits

theorem isSpace_eq_false_of_isDigit {b : UInt8} (h : isDigit b = true) : isSpace b = false := by
  simp only [isDigit, Bool.and_eq_true, decide_eq_true_eq, UInt8.le_iff_toNat_le] at h
  obtain ⟨hle, -⟩ := h
  have hle : 0x30 ≤ b.toNat := hle
  have hblank : b ≠ 0x20 := by rintro rfl; exact absurd hle (by decide)
  have hcontrol : ¬ b ≤ 0x0D := fun hb => by
    have hb : b.toNat ≤ 0x0D := UInt8.le_iff_toNat_le.mp hb
    omega
  simp [isSpace, hblank, hcontrol]

/-- A number is one word. -/
theorem isToken_decimal (n : Nat) : IsToken (decimal n) :=
  ⟨decimal_ne_nil n, fun _ hb => isSpace_eq_false_of_isDigit (isDigit_of_mem_decimal hb)⟩

/-- `std::from_chars` on a whole token: digits only, and a value that fits. -/
def parseUnsigned (limit : Nat) (token : Text) : Option Nat :=
  if token ≠ [] ∧ token.all isDigit ∧ decimalValue token ≤ limit then some (decimalValue token)
  else none

/-- A number within the limit is read back. -/
theorem parseUnsigned_decimal {limit n : Nat} (h : n ≤ limit) :
    parseUnsigned limit (decimal n) = some n := by
  have hdigits : (decimal n).all isDigit = true :=
    List.all_eq_true.mpr fun _ hb => isDigit_of_mem_decimal hb
  unfold parseUnsigned
  rw [decimalValue_decimal, if_pos ⟨decimal_ne_nil n, hdigits, h⟩]

/-- `input >> value` for a 32-bit unsigned value at the start of a token: an optional sign, then as
many digits as there are. A negative number wraps around; one out of range fails. -/
def extractUInt32 (token : Text) : Option UInt32 :=
  let (negative, digits) :=
    match token with
    | 0x2D :: rest => (true, rest.takeWhile isDigit)
    | 0x2B :: rest => (false, rest.takeWhile isDigit)
    | rest => (false, rest.takeWhile isDigit)
  if digits = [] ∨ 2 ^ 32 ≤ decimalValue digits then none
  else
    let value := (decimalValue digits).toUInt32
    some (if negative then -value else value)

theorem extractUInt32_decimal {n : Nat} (h : n < 2 ^ 32) :
    extractUInt32 (decimal n) = some n.toUInt32 := by
  have htake : (decimal n).takeWhile isDigit = decimal n :=
    List.takeWhile_eq_self_iff.mpr fun _ hb => isDigit_of_mem_decimal hb
  -- The first byte is a digit, so it is neither sign.
  have hsplit : (match decimal n with
      | 0x2D :: rest => (true, rest.takeWhile isDigit)
      | 0x2B :: rest => (false, rest.takeWhile isDigit)
      | rest => (false, rest.takeWhile isDigit)) = (false, decimal n) := by
    split
    · next rest e => exact absurd (isDigit_of_mem_decimal (e ▸ List.mem_cons_self)) (by decide)
    · next rest e => exact absurd (isDigit_of_mem_decimal (e ▸ List.mem_cons_self)) (by decide)
    · rw [htake]
  unfold extractUInt32
  rw [hsplit]
  simp only [decimalValue_decimal, decimal_ne_nil, false_or]
  rw [if_neg (by omega)]
  rfl

/-! ### Readers -/

/-- A reader of tokens; a failure carries a message, empty when the failing read set none. -/
abbrev Reader := StateT (List Text) (Except Text)

/-- `input >> token`. -/
def readToken : Reader Text := fun tokens =>
  match tokens with
  | [] => .error []
  | token :: rest => .ok (token, rest)

/-- Fail with the message unless the condition holds. -/
def require (condition : Bool) (message : Text) : Reader Unit := fun tokens =>
  if condition then .ok ((), tokens) else .error message

/-- Read `count` items, telling the reader of each its index. -/
def readMany {α : Type} (read : Nat → Reader α) : (count index : Nat) → Reader (List α)
  | 0, _ => return []
  | count + 1, index => do
    let value ← read index
    let values ← readMany read count (index + 1)
    return value :: values

/-- Replace an empty message. -/
def orMessage {α : Type} (message : Text) (reader : Reader α) : Reader α := fun tokens =>
  match reader tokens with
  | .error [] => .error message
  | result => result

/-- The reader consumes exactly `w` and returns `a`, whatever follows. -/
def Reads {α : Type} (reader : Reader α) (w : List Text) (a : α) : Prop :=
  ∀ rest, reader (w ++ rest) = .ok (a, rest)

section Rules

variable {α β : Type}

/-- Nothing is consumed. -/
theorem Reads.pure (a : α) : Reads (Pure.pure a) [] a := fun _ => rfl

/-- One reader after the other. -/
theorem Reads.bind {reader : Reader α} {next : α → Reader β} {w w' : List Text} {a : α} {b : β}
    (h : Reads reader w a) (h' : Reads (next a) w' b) : Reads (reader >>= next) (w ++ w') b := by
  intro rest
  show (reader (w ++ w' ++ rest) >>= fun x => next x.1 x.2) = _
  rw [List.append_assoc, h (w' ++ rest)]
  exact h' rest

/-- The rule for a reader of one token at the head of a known list. -/
theorem Reads.cons {reader : Reader α} {next : α → Reader β} {t : Text} {w : List Text} {a : α}
    {b : β} (h : Reads reader [t] a) (h' : Reads (next a) w b) :
    Reads (reader >>= next) (t :: w) b := h.bind h'

/-- The rule for a last step that reads nothing. -/
theorem Reads.finish {reader : Reader α} {next : α → Reader β} {w : List Text} {a : α} {b : β}
    (h : Reads reader w a) (h' : Reads (next a) [] b) : Reads (reader >>= next) w b := by
  have hbind := h.bind h'
  rwa [List.append_nil] at hbind

/-- The rule for a step that reads nothing. -/
theorem Reads.step {reader : Reader α} {next : α → Reader β} {w : List Text} {a : α} {b : β}
    (h : Reads reader [] a) (h' : Reads (next a) w b) : Reads (reader >>= next) w b := h.bind h'

theorem Reads.map {reader : Reader α} {w : List Text} {a : α} (f : α → β)
    (h : Reads reader w a) : Reads (f <$> reader) w (f a) := by
  intro rest
  show (fun x : α × List Text => (f x.1, x.2)) <$> reader (w ++ rest) = _
  rw [h rest]
  rfl

/-- The message matters only where the reader fails. -/
theorem Reads.orMessage {reader : Reader α} {w : List Text} {a : α} (message : Text)
    (h : Reads reader w a) : Reads (orMessage message reader) w a := by
  intro rest
  rw [TokenText.orMessage, h rest]

theorem reads_readToken (token : Text) : Reads readToken [token] token := fun _ => rfl

/-- A condition that holds is passed. -/
theorem Reads.require {condition : Bool} (h : condition = true) (message : Text) :
    Reads (require condition message) [] () := by
  intro rest
  rw [TokenText.require, if_pos h]
  rfl

/-- A counted list is read back when every item is. -/
theorem reads_readMany {read : Nat → Reader α} {words : α → List Text} (values : List α)
    (index : Nat) (h : ∀ i v, values[i]? = some v → Reads (read (index + i)) (words v) v) :
    Reads (readMany read values.length index) (values.flatMap words) values := by
  induction values generalizing index with
  | nil => exact Reads.pure []
  | cons v values ih =>
      have hhead : Reads (read index) (words v) v := h 0 v rfl
      have htail := ih (index + 1) fun i w hw => by
        have := h (i + 1) w hw
        rwa [show index + 1 + i = index + (i + 1) by omega]
      have hrest : Reads (readMany read values.length (index + 1) >>= fun vs => Pure.pure (v :: vs))
          (values.flatMap words ++ []) (v :: values) := htail.bind (Reads.pure _)
      rw [List.append_nil] at hrest
      exact hhead.bind hrest

end Rules

end Fidget.TokenText
