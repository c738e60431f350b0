import Mathlib.Data.UInt
import Mathlib.Data.List.Basic

/-!
# Entries numbered one after the other

A counter that is taken once for every entry, and may wrap around, names each entry of a history
uniquely as long as the history is no longer than the counter is wide.

## Main results

- `Numbered.unique`: a number names one entry, if the history is no longer than the counter is wide.
- `Numbered.pairwise_ne`: the numbers are distinct.
- `Numbered.append`: a history may be continued.
-/

namespace Fidget

variable {α : Type*} {start reference : UInt32} {a b : α} {history : List (UInt32 × α)}

/-- The entries are numbered from `start` on; the latest is the first of the list. -/
def Numbered (start : UInt32) : List (UInt32 × α) → Prop
  | [] => True
  | entry :: history => entry.1 = start + history.length.toUInt32 ∧ Numbered start history

namespace Numbered

/-- An entry has the number that its place gives it. -/
theorem exists_lt_of_mem (h : Numbered start history) (hmem : (reference, a) ∈ history) :
    ∃ k < history.length, reference = start + k.toUInt32 := by
  induction history with
  | nil => cases hmem
  | cons entry history ih =>
      rcases List.mem_cons.mp hmem with rfl | hmem
      · exact ⟨history.length, Nat.lt_succ_self _, h.1⟩
      · obtain ⟨k, hk, hreference⟩ := ih h.2 hmem
        exact ⟨k, Nat.lt_succ_of_lt hk, hreference⟩

/-- Within the width of the counter, different counts are different numbers. -/
theorem toUInt32_inj {m n : Nat} (hm : m < 2 ^ 32) (hn : n < 2 ^ 32)
    (h : start + m.toUInt32 = start + n.toUInt32) : m = n := by
  have hnat := UInt32.toNat_inj.mpr (add_left_cancel h)
  rwa [Nat.toUInt32_eq, Nat.toUInt32_eq, UInt32.toNat_ofNat_of_lt' hm,
    UInt32.toNat_ofNat_of_lt' hn] at hnat

/-- The next number has not been given yet. -/
theorem next_notMem (h : Numbered start history) (hlength : history.length < 2 ^ 32) :
    (start + history.length.toUInt32, a) ∉ history := by
  intro hmem
  obtain ⟨k, hk, heq⟩ := h.exists_lt_of_mem hmem
  have hsame := toUInt32_inj hlength (Nat.lt_trans hk hlength) heq
  omega

/-- A number names one entry. -/
theorem unique (h : Numbered start history) (hlength : history.length ≤ 2 ^ 32)
    (ha : (reference, a) ∈ history) (hb : (reference, b) ∈ history) : a = b := by
  induction history with
  | nil => cases ha
  | cons entry history ih =>
      rw [List.length_cons] at hlength
      rcases List.mem_cons.mp ha with rfl | ha' <;> rcases List.mem_cons.mp hb with hb' | hb'
      · exact (Prod.mk.inj hb').2.symm
      · have hreference : reference = start + history.length.toUInt32 := h.1
        rw [hreference] at hb'
        exact absurd hb' (h.2.next_notMem hlength)
      · subst hb'
        have hreference : reference = start + history.length.toUInt32 := h.1
        rw [hreference] at ha'
        exact absurd ha' (h.2.next_notMem hlength)
      · exact ih h.2 (by omega) ha' hb'

/-- So the numbers of a history are pairwise distinct. -/
theorem pairwise_ne (h : Numbered start history) (hlength : history.length ≤ 2 ^ 32) :
    history.Pairwise fun entry other => entry.1 ≠ other.1 := by
  induction history with
  | nil => exact .nil
  | cons entry history ih =>
      rw [List.length_cons] at hlength
      refine List.Pairwise.cons ?_ (ih h.2 (by omega))
      rintro ⟨reference, a⟩ hmem heq
      refine h.2.next_notMem (by omega) (a := a) ?_
      rwa [← h.1, heq]

/-- A history that is not empty has its first number. -/
theorem exists_start_mem (h : Numbered start history) (hne : history ≠ []) :
    ∃ a, (start, a) ∈ history := by
  induction history with
  | nil => exact absurd rfl hne
  | cons entry history ih =>
      rcases history with - | ⟨other, history⟩
      · refine ⟨entry.2, List.mem_singleton.mpr (Prod.ext ?_ rfl)⟩
        exact (h.1.trans (add_zero _)).symm
      · obtain ⟨a, hmem⟩ := ih h.2 (List.cons_ne_nil _ _)
        exact ⟨a, List.mem_cons_of_mem _ hmem⟩

/-- A history goes on where it stopped. -/
theorem append {older newer : List (UInt32 × α)} (h : Numbered start older)
    (h' : Numbered (start + older.length.toUInt32) newer) : Numbered start (newer ++ older) := by
  induction newer with
  | nil => exact h
  | cons entry newer ih =>
      refine ⟨?_, ih h'.2⟩
      show entry.1 = start + (newer ++ older).length.toUInt32
      rw [h'.1, List.length_append, Nat.add_comm newer.length, Nat.toUInt32_eq, Nat.toUInt32_eq,
        Nat.toUInt32_eq, UInt32.ofNat_add, add_assoc]

end Numbered

end Fidget
