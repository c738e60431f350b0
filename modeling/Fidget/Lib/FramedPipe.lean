import Mathlib.Data.List.Infix

/-!
# Framed pipes

A pipe gives out what was put into it in the same order, in whatever pieces. A writer puts in the
words of a prefix code, one behind the other, and only what is behind the last of them may be a
part of a word. Then the words that a reader has recognised in what it took are the first of those
that were written, wherever the pipe is cut.

## Main results

- `PrefixCode`: words of which none begins another.
- `Written`: whole words lie in the pipe, and a part of one behind them.
- `Written.prefix_of_taken`: what a reader recognises are the first of the words.
-/

namespace Fidget.FramedPipe

variable {α β : Type*}

/-- What was taken from the pipe, and what waits in it. -/
structure Pipe (β : Type*) where
  taken : List β := []
  waiting : List β := []
  deriving Repr, DecidableEq

namespace Pipe

variable (p : Pipe β)

/-- All that was ever put in. -/
def all : List β := p.taken ++ p.waiting

/-- Bytes go in at the end. -/
def put (bytes : List β) : Pipe β := { p with waiting := p.waiting ++ bytes }

/-- Bytes come out at the front. -/
def take (n : ℕ) : Pipe β where
  taken := p.taken ++ p.waiting.take n
  waiting := p.waiting.drop n

@[simp] theorem taken_put (bytes : List β) : (p.put bytes).taken = p.taken := rfl

@[simp] theorem taken_take (n : ℕ) : (p.take n).taken = p.taken ++ p.waiting.take n := rfl

@[simp] theorem all_put (bytes : List β) : (p.put bytes).all = p.all ++ bytes := by
  simp [all, put]

/-- Taking loses nothing. -/
@[simp] theorem all_take (n : ℕ) : (p.take n).all = p.all := by
  simp [all, take]

/-- What was taken is the beginning of what was put in. -/
theorem taken_isPrefix : p.taken <+: p.all := List.prefix_append _ _

end Pipe

/-- Words none of which begins another. -/
structure PrefixCode (α β : Type*) where
  encode : α → List β
  Valid : α → Prop
  ne_nil : ∀ {a}, Valid a → encode a ≠ []
  prefixFree : ∀ {a b}, Valid a → Valid b → encode a <+: encode b → a = b

namespace PrefixCode

variable (C : PrefixCode α β)

/-- No word is complete in it. -/
def Incomplete (bytes : List β) : Prop := ∀ a, C.Valid a → ¬C.encode a <+: bytes

variable {C}

theorem incomplete_nil : C.Incomplete [] := by
  intro a ha hbegins
  exact C.ne_nil ha (List.prefix_nil.mp hbegins)

/-- A part of a word is not a word. -/
theorem incomplete_take {a : α} (ha : C.Valid a) {n : ℕ} (hn : n < (C.encode a).length) :
    C.Incomplete ((C.encode a).take n) := by
  intro b hb hbegins
  have heq := C.prefixFree hb ha (hbegins.trans (List.take_prefix n _))
  have hlength := hbegins.length_le
  rw [heq, List.length_take] at hlength
  omega

/-- Words that begin what was written are the first of the words that were. -/
theorem prefix_of_flatMap_prefix {words read : List α} {torn : List β}
    (hwords : ∀ a ∈ words, C.Valid a) (hread : ∀ a ∈ read, C.Valid a) (htorn : C.Incomplete torn)
    (h : read.flatMap C.encode <+: words.flatMap C.encode ++ torn) : read <+: words := by
  induction read generalizing words with
  | nil => exact List.nil_prefix
  | cons b read ih =>
      have hb := hread b List.mem_cons_self
      rw [List.flatMap_cons] at h
      cases words with
      | nil => exact absurd ((List.prefix_append _ _).trans h) (htorn b hb)
      | cons a words =>
          have ha := hwords a List.mem_cons_self
          rw [List.flatMap_cons, List.append_assoc] at h
          have heq : b = a := by
            rcases List.prefix_or_prefix_of_prefix ((List.prefix_append _ _).trans h)
              (List.prefix_append (C.encode a) _) with hba | hab
            · exact C.prefixFree hb ha hba
            · exact (C.prefixFree ha hb hab).symm
          rw [heq, List.prefix_append_right_inj] at h
          rw [heq, List.prefix_cons_inj]
          exact ih (fun a' ha' => hwords a' (List.mem_cons_of_mem _ ha'))
            (fun b' hb' => hread b' (List.mem_cons_of_mem _ hb')) h

/-! ### What a writer has put into a pipe -/

/-- The words, and the part of another behind them. -/
structure Written (C : PrefixCode α β) (p : Pipe β) (words : List α) (torn : List β) : Prop where
  valid : ∀ a ∈ words, C.Valid a
  incomplete : C.Incomplete torn
  all_eq : p.all = words.flatMap C.encode ++ torn

variable {p : Pipe β} {words : List α} {torn : List β}

/-- At first nothing is written. -/
theorem written_empty : C.Written {} [] [] :=
  ⟨by simp, incomplete_nil, rfl⟩

/-- Reading does not change what was written. -/
theorem Written.take (h : C.Written p words torn) (n : ℕ) : C.Written (p.take n) words torn :=
  ⟨h.valid, h.incomplete, by rw [Pipe.all_take, h.all_eq]⟩

/-- More of a word that is not complete by it. -/
theorem Written.put {a : α} (ha : C.Valid a) {offset n : ℕ}
    (h : C.Written p words ((C.encode a).take offset)) (hn : offset + n < (C.encode a).length) :
    C.Written (p.put (((C.encode a).drop offset).take n)) words
      ((C.encode a).take (offset + n)) where
  valid := h.valid
  incomplete := incomplete_take ha hn
  all_eq := by rw [Pipe.all_put, h.all_eq, List.append_assoc, List.take_add]

/-- The rest of a word. -/
theorem Written.complete {a : α} (ha : C.Valid a) {offset n : ℕ}
    (h : C.Written p words ((C.encode a).take offset)) (hn : offset + n = (C.encode a).length) :
    C.Written (p.put (((C.encode a).drop offset).take n)) (words ++ [a]) [] where
  valid := by
    intro b hb
    rcases List.mem_append.mp hb with hb | hb
    · exact h.valid b hb
    · rwa [List.mem_singleton.mp hb]
  incomplete := incomplete_nil
  all_eq := by
    rw [Pipe.all_put, h.all_eq, List.append_assoc, ← List.take_add, hn, List.take_length]
    simp

/-- What was recognised in what was taken is the beginning of what was written. -/
theorem Written.prefix_of_taken (h : C.Written p words torn) {read : List α}
    (hread : ∀ a ∈ read, C.Valid a) (htaken : read.flatMap C.encode <+: p.taken) :
    read <+: words := by
  refine prefix_of_flatMap_prefix h.valid hread h.incomplete ?_
  rw [← h.all_eq]
  exact htaken.trans p.taken_isPrefix

end PrefixCode

end Fidget.FramedPipe
