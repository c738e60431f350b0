import Mathlib.Data.List.Basic
import Mathlib.Logic.Function.Basic

/-!
# Write-ahead notes

Cells are changed one at a time, and each change is noted before it is made: which cell, what it
holds and what it is to hold. A change may be lost after it has been noted, and nobody is told. The
last note about a cell then names its value all the same, as one of two.

## Main results

- `Explains.note`, `Explains.write`: the two steps keep the invariant.
-/

namespace Fidget.WriteAhead

variable {δ κ ν : Type*}

/-- What a note says of the change. -/
structure Reading (δ κ ν : Type*) where
  key : δ → κ
  previous : δ → ν
  next : δ → ν

/-- The cells and the notes about them, the latest last. -/
structure Session (δ κ ν : Type*) where
  live : κ → ν
  notes : List δ

namespace Session

/-- A change is announced. -/
def note (session : Session δ κ ν) (d : δ) : Session δ κ ν :=
  { session with notes := session.notes ++ [d] }

/-- A change is made, or lost. -/
def write [DecidableEq κ] (session : Session δ κ ν) (key : κ) (value : ν) (takesEffect : Bool) :
    Session δ κ ν :=
  if takesEffect then { session with live := Function.update session.live key value } else session

end Session

variable [DecidableEq κ] (reading : Reading δ κ ν)

/-- The notes about one cell. -/
def notesAt (key : κ) (notes : List δ) : List δ := notes.filter fun d => reading.key d = key

/-- A cell nobody has noted anything about is as it was; any other is as its last note found it or
as the note meant it to become. -/
def Explains (start : κ → ν) (session : Session δ κ ν) : Prop :=
  ∀ key, match (notesAt reading key session.notes).getLast? with
    | none => session.live key = start key
    | some d => session.live key = reading.previous d ∨ session.live key = reading.next d

variable {reading} {start : κ → ν} {session : Session δ κ ν}

theorem notesAt_append_self (d : δ) :
    notesAt reading (reading.key d) (session.notes ++ [d]) =
      notesAt reading (reading.key d) session.notes ++ [d] := by
  simp [notesAt]

/-- A note about another cell. -/
theorem notesAt_append_of_ne {key : κ} {d : δ} (h : reading.key d ≠ key) :
    notesAt reading key (session.notes ++ [d]) = notesAt reading key session.notes := by
  simp [notesAt, h]

/-- Without notes the cells are as they were. -/
theorem explains_start : Explains reading start ⟨start, []⟩ := fun _ => rfl

/-- A note that starts from the live value explains the cell before the change is made. -/
theorem Explains.note (h : Explains reading start session) {d : δ}
    (hd : reading.previous d = session.live (reading.key d)) :
    Explains reading start (session.note d) := by
  intro key
  by_cases hkey : reading.key d = key
  · subst hkey
    show match (notesAt reading (reading.key d) (session.notes ++ [d])).getLast? with
      | none => _
      | some d' => _
    rw [notesAt_append_self, List.getLast?_append, List.getLast?_singleton]
    exact .inl hd.symm
  · show match (notesAt reading key (session.notes ++ [d])).getLast? with
      | none => _
      | some d' => _
    rw [notesAt_append_of_ne hkey]
    exact h key

/-- The noted change keeps the cells explained, whether it is made or lost. -/
theorem Explains.write (h : Explains reading start session) {d : δ}
    (hd : reading.previous d = session.live (reading.key d)) (takesEffect : Bool) :
    Explains reading start
      ((session.note d).write (reading.key d) (reading.next d) takesEffect) := by
  have hnoted := h.note hd
  cases takesEffect with
  | false => exact hnoted
  | true =>
      intro key
      show match (notesAt reading key (session.notes ++ [d])).getLast? with
        | none => Function.update session.live (reading.key d) (reading.next d) key = start key
        | some d' =>
          Function.update session.live (reading.key d) (reading.next d) key =
              reading.previous d' ∨
            Function.update session.live (reading.key d) (reading.next d) key = reading.next d'
      by_cases hkey : reading.key d = key
      · subst hkey
        rw [notesAt_append_self, List.getLast?_append, List.getLast?_singleton]
        exact .inr (Function.update_self ..)
      · rw [notesAt_append_of_ne hkey, Function.update_of_ne (Ne.symm hkey)]
        exact h key

/-! ### Chains -/

variable (reading) in
/-- Each note starts from the value the one before it asked for. -/
def Continues (value : ν) : List δ → Prop
  | [] => True
  | d :: notes => reading.previous d = value ∧ Continues (reading.next d) notes

end Fidget.WriteAhead
