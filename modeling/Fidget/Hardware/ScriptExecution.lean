import Fidget.Core.ScpTransactionPlan.Verified
import Fidget.Hardware.Bench

/-!
# Executing a script's writes

What a module does with the writes of an init script. A write to a banked register goes to the cell
that the selector names at that moment, so the writes of a script are a plan of writes to cells as
soon as the selector is followed through it. The couplings of the banks can then be judged on the
plan.

## Main results

- `banks_runWrites`: the banks change as the plan of the writes says.
- `exists_take_cellWrites`, `exists_cellWrites_take`: cutting the writes is cutting the plan, and
  the other way around.
- `pairHolds_constrained_first`, `pairHolds_staged`: two ways to write a coupled pair that keep it
  coupled.
- `couplingsHold_runWrites_iff`: the couplings hold after every write exactly if they hold along the
  plan.
-/

namespace Fidget

open WritePlan

/-! ### A module executes writes -/

namespace Bench

/-- The writes one after the other. -/
def runWrites (bench : Bench) (writes : List (UInt16 × UInt16)) : Bench :=
  writes.foldl (fun bench written => bench.write written.1 written.2) bench

/-- Every banked value of every quad is in its register's range. -/
def RangesHold (bench : Bench) : Prop :=
  ∀ quad < fw2051ScpQuadCount, ∀ r ∈ scpRegisterOffsets,
    validateFw2051ScpProfileValue r (bench.banks (quad, r)) = ""

/-- Both couplings hold in every quad. -/
def CouplingsHold (bench : Bench) : Prop :=
  ∀ quad < fw2051ScpQuadCount, bench.banks (quad, 0x6110) ≤ bench.banks (quad, 0x6124) ∧
    bench.banks (quad, 0x6146) < bench.banks (quad, 0x6148)

end Bench

/-! ### The cells that writes reach -/

/-- A write to a cell, whatever is there before. -/
def cellWrite (quad : Nat) (registerOffset value : UInt16) : Write BankCell UInt16 :=
  ⟨(quad, registerOffset), value, value⟩

/-- The plan that a list of writes carries out with the selector at a value to begin with. -/
def cellWrites (selector : UInt16) : List (UInt16 × UInt16) → List (Write BankCell UInt16)
  | [] => []
  | (registerOffset, value) :: writes =>
    if (findFw2051ScpSetting registerOffset).isSome then
      cellWrite selector.toNat registerOffset value :: cellWrites selector writes
    else if registerOffset = fw2051ScpSelectorRegister then cellWrites value writes
    else cellWrites selector writes

/-- The selector after a list of writes. -/
def selectorAfter (selector : UInt16) (writes : List (UInt16 × UInt16)) : UInt16 :=
  writes.foldl
    (fun selector written =>
      if written.1 = fw2051ScpSelectorRegister then written.2 else selector) selector

section CellWrites

variable {selector registerOffset value : UInt16} {writes : List (UInt16 × UInt16)}

/-- A write to a banked register goes to the bank that is selected. -/
theorem cellWrites_banked (h : registerOffset ∈ scpRegisterOffsets) :
    cellWrites selector ((registerOffset, value) :: writes) =
      cellWrite selector.toNat registerOffset value :: cellWrites selector writes := by
  rw [cellWrites, if_pos (findFw2051ScpSetting_isSome.mpr h)]

/-- A write to the selector goes to no cell, and selects. -/
theorem cellWrites_selector :
    cellWrites selector ((fw2051ScpSelectorRegister, value) :: writes) =
      cellWrites value writes := by
  rw [cellWrites, if_neg (findFw2051ScpSetting_isSome.not.mpr Bench.selector_notMem), if_pos rfl]

/-- Any other write goes to no cell. -/
theorem cellWrites_global (h : registerOffset ∉ scpRegisterOffsets)
    (hselector : registerOffset ≠ fw2051ScpSelectorRegister) :
    cellWrites selector ((registerOffset, value) :: writes) = cellWrites selector writes := by
  rw [cellWrites, if_neg (findFw2051ScpSetting_isSome.not.mpr h), if_neg hselector]

/-- The plan of two pieces, the second from where the first leaves the selector. -/
theorem cellWrites_append (selector : UInt16) (writes writes' : List (UInt16 × UInt16)) :
    cellWrites selector (writes ++ writes') =
      cellWrites selector writes ++ cellWrites (selectorAfter selector writes) writes' := by
  induction writes generalizing selector with
  | nil => rfl
  | cons written writes ih =>
      obtain ⟨registerOffset, value⟩ := written
      have hafter : selectorAfter selector ((registerOffset, value) :: writes) =
          selectorAfter (if registerOffset = fw2051ScpSelectorRegister then value else selector)
            writes := rfl
      rw [List.cons_append, hafter]
      by_cases hbanked : registerOffset ∈ scpRegisterOffsets
      · have hne : registerOffset ≠ fw2051ScpSelectorRegister := by
          rintro rfl
          exact Bench.selector_notMem hbanked
        rw [cellWrites_banked hbanked, cellWrites_banked hbanked, if_neg hne, ih]
        rfl
      · by_cases hselector : registerOffset = fw2051ScpSelectorRegister
        · subst hselector
          rw [cellWrites_selector, cellWrites_selector, if_pos rfl, ih]
        · rw [cellWrites_global hbanked hselector, cellWrites_global hbanked hselector,
            if_neg hselector, ih]

/-- Cutting the writes cuts the plan. -/
theorem exists_take_cellWrites (selector : UInt16) (writes : List (UInt16 × UInt16)) (n : ℕ) :
    ∃ m, cellWrites selector (writes.take n) = (cellWrites selector writes).take m := by
  refine ⟨(cellWrites selector (writes.take n)).length, ?_⟩
  have hsplit := cellWrites_append selector (writes.take n) (writes.drop n)
  rw [List.take_append_drop] at hsplit
  rw [hsplit, List.take_left]

/-- The plan can be cut anywhere by cutting the writes. -/
theorem exists_cellWrites_take (selector : UInt16) (writes : List (UInt16 × UInt16)) {m : ℕ}
    (hm : m ≤ (cellWrites selector writes).length) :
    ∃ n, cellWrites selector (writes.take n) = (cellWrites selector writes).take m := by
  induction writes generalizing selector m with
  | nil => exact ⟨0, by simp [cellWrites]⟩
  | cons written writes ih =>
      obtain ⟨registerOffset, value⟩ := written
      by_cases hbanked : registerOffset ∈ scpRegisterOffsets
      · cases m with
        | zero => exact ⟨0, rfl⟩
        | succ m =>
            rw [cellWrites_banked hbanked, List.length_cons] at hm
            obtain ⟨n, hn⟩ := ih selector (Nat.le_of_succ_le_succ hm)
            refine ⟨n + 1, ?_⟩
            rw [List.take_succ_cons, cellWrites_banked hbanked, cellWrites_banked hbanked, hn,
              List.take_succ_cons]
      · by_cases hselector : registerOffset = fw2051ScpSelectorRegister
        · subst hselector
          rw [cellWrites_selector] at hm ⊢
          obtain ⟨n, hn⟩ := ih value hm
          exact ⟨n + 1, by rw [List.take_succ_cons, cellWrites_selector, hn]⟩
        · rw [cellWrites_global hbanked hselector] at hm ⊢
          obtain ⟨n, hn⟩ := ih selector hm
          exact ⟨n + 1, by rw [List.take_succ_cons, cellWrites_global hbanked hselector, hn]⟩

end CellWrites

namespace Bench

/-- Two pieces are run one after the other. -/
theorem runWrites_append (bench : Bench) (writes writes' : List (UInt16 × UInt16)) :
    bench.runWrites (writes ++ writes') = (bench.runWrites writes).runWrites writes' :=
  List.foldl_append

/-- The banks change as the plan says. -/
theorem banks_runWrites (bench : Bench) (writes : List (UInt16 × UInt16)) :
    (bench.runWrites writes).banks = applyAll (cellWrites bench.selector writes) bench.banks := by
  induction writes generalizing bench with
  | nil => rfl
  | cons written writes ih =>
      obtain ⟨registerOffset, value⟩ := written
      show ((bench.write registerOffset value).runWrites writes).banks = _
      rw [ih]
      by_cases hbanked : registerOffset ∈ scpRegisterOffsets
      · rw [cellWrites_banked hbanked, selector_write_of_banked hbanked,
          banks_write_of_banked hbanked]
        rfl
      · rw [banks_write_of_global hbanked]
        by_cases hselector : registerOffset = fw2051ScpSelectorRegister
        · subst hselector
          rw [cellWrites_selector, selector_write_selector]
        · rw [cellWrites_global hbanked hselector, selector_write hselector]

end Bench

/-! ### Couplings along a plan -/

/-- The writes of a plan that touch one of two registers of a quad. -/
def pairWrites (quad : Nat) (c b : UInt16) (plan : List (Write BankCell UInt16)) :
    List (Write BankCell UInt16) :=
  plan.filter fun w => decide (w.key = (quad, c) ∨ w.key = (quad, b))

/-- The relation of two registers of a quad holds at every point of a plan. -/
def PairHolds (R : UInt16 → UInt16 → Prop) (quad : Nat) (c b : UInt16)
    (plan : List (Write BankCell UInt16)) (banks : BankCell → UInt16) : Prop :=
  ∀ m, R (applyAll (plan.take m) banks (quad, c)) (applyAll (plan.take m) banks (quad, b))

/-- Only the writes to the two registers matter. -/
theorem pairHolds_iff {R : UInt16 → UInt16 → Prop} {quad : Nat} {c b : UInt16}
    {plan : List (Write BankCell UInt16)} {banks : BankCell → UInt16} :
    PairHolds R quad c b plan banks ↔
      PairHolds R quad c b (pairWrites quad c b plan) banks := by
  constructor
  · intro h m
    have hproj : ∀ (plan : List (Write BankCell UInt16)) (r : UInt16), r = c ∨ r = b →
        applyAll plan banks (quad, r) = applyAll (pairWrites quad c b plan) banks (quad, r) := by
      intro plan r hr
      refine applyAll_filter (fun k => decide (k = (quad, c) ∨ k = (quad, b))) plan
        (fun _ _ => rfl) ?_
      rcases hr with rfl | rfl
      · exact decide_eq_true (.inl rfl)
      · exact decide_eq_true (.inr rfl)
    obtain ⟨n, hn⟩ := exists_filter_take
      (fun w : Write BankCell UInt16 => decide (w.key = (quad, c) ∨ w.key = (quad, b))) plan m
    have hR := h n
    rw [hproj _ c (.inl rfl), hproj _ b (.inr rfl), pairWrites, hn] at hR
    exact hR
  · intro h m
    exact rel_take_of_filter plan banks h m

/-- Groups of writes to different quads: the writes to one quad are in its own group. -/
theorem pairWrites_flatMap {α : Type*} (number : α → Nat) {group : α → List (Write BankCell UInt16)}
    {items : List α} (hgroup : ∀ a ∈ items, ∀ w ∈ group a, w.key.1 = number a)
    (hnodup : (items.map number).Nodup) {a : α} (ha : a ∈ items) (c b : UInt16) :
    pairWrites (number a) c b (items.flatMap group) = pairWrites (number a) c b (group a) := by
  refine Lists.filter_flatMap_eq ha hnodup.of_map fun a' ha' hne => ?_
  refine List.filter_eq_nil_iff.mpr fun w hw hkey => hne ?_
  have hnumber : w.key.1 = number a := by
    rcases of_decide_eq_true hkey with h | h
    · exact congrArg Prod.fst h
    · exact congrArg Prod.fst h
  exact List.inj_on_of_nodup_map hnodup ha' ha ((hgroup a' ha' w hw).symm.trans hnumber)

section Pair

variable {R : UInt16 → UInt16 → Prop} {quad : Nat} {c b : UInt16} {banks : BankCell → UInt16}

/-- Nothing is written: it must hold as it is. -/
theorem pairHolds_nil :
    PairHolds R quad c b [] banks ↔ R (banks (quad, c)) (banks (quad, b)) := by
  constructor
  · intro h
    exact h 0
  · intro h m
    rw [List.take_nil]
    exact h

/-- The first write and the rest of a plan. -/
theorem pairHolds_cons {w : Write BankCell UInt16} {plan : List (Write BankCell UInt16)} :
    PairHolds R quad c b (w :: plan) banks ↔
      R (banks (quad, c)) (banks (quad, b)) ∧ PairHolds R quad c b plan (w.apply banks) := by
  constructor
  · intro h
    exact ⟨h 0, fun m => h (m + 1)⟩
  · rintro ⟨hstart, hrest⟩ m
    cases m with
    | zero => exact hstart
    | succ m => exact hrest m

/-- A write to a cell sets it. -/
theorem apply_cellWrite (r value r' : UInt16) :
    (cellWrite quad r value).apply banks (quad, r') =
      if r' = r then value else banks (quad, r') := by
  by_cases h : r' = r
  · rw [if_pos h, h]
    exact Function.update_self ..
  · rw [if_neg h]
    exact Function.update_of_ne (fun e => h (Prod.ext_iff.mp e).2) ..

/-- Constrained value first: it must fit the old boundary. -/
theorem pairHolds_constrained_first (hne : b ≠ c) {constrained boundary : UInt16} :
    PairHolds R quad c b [cellWrite quad c constrained, cellWrite quad b boundary] banks ↔
      R (banks (quad, c)) (banks (quad, b)) ∧ R constrained (banks (quad, b)) ∧
        R constrained boundary := by
  rw [pairHolds_cons, pairHolds_cons, pairHolds_nil]
  simp only [apply_cellWrite, if_true, if_neg hne, if_neg hne.symm]

/-- Before both values a boundary that fits the old and the new constrained value. -/
theorem pairHolds_staged (hne : b ≠ c) {staging constrained boundary : UInt16} :
    PairHolds R quad c b [cellWrite quad b staging, cellWrite quad c constrained,
        cellWrite quad b boundary] banks ↔
      R (banks (quad, c)) (banks (quad, b)) ∧ R (banks (quad, c)) staging ∧
        R constrained staging ∧ R constrained boundary := by
  rw [pairHolds_cons, pairHolds_constrained_first hne]
  simp only [apply_cellWrite, if_true, if_neg hne.symm]

end Pair

/-- The couplings hold after every write of a script exactly if they hold along its plan. -/
theorem couplingsHold_runWrites_iff {bench : Bench} {writes : List (UInt16 × UInt16)} :
    (∀ n, (bench.runWrites (writes.take n)).CouplingsHold) ↔
      ∀ quad < fw2051ScpQuadCount,
        PairHolds (· ≤ ·) quad 0x6110 0x6124 (cellWrites bench.selector writes) bench.banks ∧
        PairHolds (· < ·) quad 0x6146 0x6148 (cellWrites bench.selector writes) bench.banks := by
  constructor
  · intro h quad hquad
    -- every prefix of the cell writes is what some prefix of the register writes does
    have hcell : ∀ m, ∃ n, (bench.runWrites (writes.take n)).banks =
        applyAll ((cellWrites bench.selector writes).take m) bench.banks := by
      intro m
      by_cases hm : m ≤ (cellWrites bench.selector writes).length
      · obtain ⟨n, hn⟩ := exists_cellWrites_take bench.selector writes hm
        exact ⟨n, by rw [Bench.banks_runWrites, hn]⟩
      · refine ⟨writes.length, ?_⟩
        rw [List.take_length, Bench.banks_runWrites, List.take_of_length_le (by omega)]
    constructor
    · intro m
      obtain ⟨n, hn⟩ := hcell m
      rw [← hn]
      exact (h n quad hquad).1
    · intro m
      obtain ⟨n, hn⟩ := hcell m
      rw [← hn]
      exact (h n quad hquad).2
  · intro h n quad hquad
    obtain ⟨m, hm⟩ := exists_take_cellWrites bench.selector writes n
    rw [Bench.banks_runWrites, hm]
    exact ⟨(h quad hquad).1 m, (h quad hquad).2 m⟩

/-- A module in range whose first pairs are coupled narrowly. -/
def narrowBench : Bench where
  registers := fun _ => 0
  banks := fun cell =>
    if cell.2 = 0x6110 then 8
    else if cell.2 = 0x6124 then 10
    else registerOrZero exampleQuads[0] cell.2
  localRegisters := fun _ => 0

end Fidget
