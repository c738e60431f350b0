import Mathlib.Data.List.Nodup
import Mathlib.Logic.Function.Basic

/-!
# Plans of single-cell writes

A plan is a list of writes to a file of cells `κ → ν`. Each write names its cell, the value it
expects there and the value it stores. A plan is *chained* when every write finds the value it
expects; such a plan can be undone from any point by writing the expected values back in reverse
order, and undoing part of it passes through exactly the states the plan itself went through.

Two facts make a plan's intermediate states tractable. The contents of a set of cells depend only
on the writes to those cells (`applyAll_filter`), and cutting a plan cuts that sub-plan
(`exists_take_filter`). So a relation between two cells holds after every prefix of a long plan as
soon as it holds after every prefix of the few writes that touch the two.

## Main results

- `revertAll_reverse_applyAll`: a chained plan is undone by its expected values, in reverse order.
- `applyAll_filter`: a set of cells sees only the writes to it.
- `planBetween`: the plan that leads from one file to another.
-/

namespace Fidget.WritePlan

variable {κ ν : Type*} [DecidableEq κ]

/-- One write: the cell, the value expected there, the value stored. -/
structure Write (κ ν : Type*) where
  key : κ
  before : ν
  after : ν
  deriving DecidableEq, Repr

def Write.apply (w : Write κ ν) (f : κ → ν) : κ → ν := Function.update f w.key w.after

/-- The write that puts the expected value back. -/
def Write.revert (w : Write κ ν) (f : κ → ν) : κ → ν := Function.update f w.key w.before

def applyAll (ws : List (Write κ ν)) (f : κ → ν) : κ → ν := ws.foldl (fun f w => w.apply f) f

def revertAll (ws : List (Write κ ν)) (f : κ → ν) : κ → ν := ws.foldl (fun f w => w.revert f) f

/-- Every write of the plan finds the value it expects. -/
def Chained : List (Write κ ν) → (κ → ν) → Prop
  | [], _ => True
  | w :: ws, f => f w.key = w.before ∧ Chained ws (w.apply f)

@[simp] theorem applyAll_nil (f : κ → ν) : applyAll [] f = f := rfl

@[simp] theorem applyAll_cons (w : Write κ ν) (ws : List (Write κ ν)) (f : κ → ν) :
    applyAll (w :: ws) f = applyAll ws (w.apply f) := rfl

/-- A plan can be carried out in two goes. -/
theorem applyAll_append (ws vs : List (Write κ ν)) (f : κ → ν) :
    applyAll (ws ++ vs) f = applyAll vs (applyAll ws f) := List.foldl_append

@[simp] theorem revertAll_nil (f : κ → ν) : revertAll [] f = f := rfl

/-- And undone in two goes. -/
theorem revertAll_append (ws vs : List (Write κ ν)) (f : κ → ν) :
    revertAll (ws ++ vs) f = revertAll vs (revertAll ws f) := List.foldl_append

/-! ### Cells a plan does or does not touch -/

/-- A cell that is not written keeps its value. -/
theorem applyAll_of_notMem {ws : List (Write κ ν)} {k : κ} (h : k ∉ ws.map Write.key)
    (f : κ → ν) : applyAll ws f k = f k := by
  induction ws generalizing f with
  | nil => rfl
  | cons w ws ih =>
      rw [List.map_cons, List.mem_cons, not_or] at h
      rw [applyAll_cons, ih h.2, Write.apply, Function.update_of_ne h.1]

/-- When no cell is written twice, a written cell ends with the value its write stored. -/
theorem applyAll_of_mem {ws : List (Write κ ν)} (hnd : (ws.map Write.key).Nodup) {w : Write κ ν}
    (h : w ∈ ws) (f : κ → ν) : applyAll ws f w.key = w.after := by
  induction ws generalizing f with
  | nil => cases h
  | cons v ws ih =>
      rw [List.map_cons, List.nodup_cons] at hnd
      rw [applyAll_cons]
      rcases List.mem_cons.mp h with rfl | h
      · rw [applyAll_of_notMem hnd.1, Write.apply, Function.update_self]
      · exact ih hnd.2 h _

/-! ### Chained plans and their rollback -/

/-- The second part goes on from where the first one ends. -/
theorem chained_append {ws vs : List (Write κ ν)} {f : κ → ν} :
    Chained (ws ++ vs) f ↔ Chained ws f ∧ Chained vs (applyAll ws f) := by
  induction ws generalizing f with
  | nil => simp [Chained]
  | cons w ws ih => simp [Chained, ih, and_assoc]

/-- A plan without repeated cells is chained as soon as its expectations hold at the start. -/
theorem chained_of_nodup {ws : List (Write κ ν)} {f : κ → ν} (hnd : (ws.map Write.key).Nodup)
    (h : ∀ w ∈ ws, f w.key = w.before) : Chained ws f := by
  induction ws generalizing f with
  | nil => trivial
  | cons w ws ih =>
      rw [List.map_cons, List.nodup_cons] at hnd
      refine ⟨h w List.mem_cons_self, ih hnd.2 fun v hv => ?_⟩
      have hne : v.key ≠ w.key := fun e => hnd.1 (e ▸ List.mem_map_of_mem hv)
      rw [Write.apply, Function.update_of_ne hne]
      exact h v (List.mem_cons_of_mem _ hv)

/-- A write that found what it expected can be undone. -/
theorem Write.revert_apply {w : Write κ ν} {f : κ → ν} (h : f w.key = w.before) :
    w.revert (w.apply f) = f := by
  rw [Write.revert, Write.apply, Function.update_idem, ← h, Function.update_eq_self]

/-- Writing the expected values back in reverse order undoes a chained plan. -/
theorem revertAll_reverse_applyAll {ws : List (Write κ ν)} {f : κ → ν} (h : Chained ws f) :
    revertAll ws.reverse (applyAll ws f) = f := by
  induction ws generalizing f with
  | nil => rfl
  | cons w ws ih =>
      rw [List.reverse_cons, revertAll_append, applyAll_cons, ih h.2]
      exact Write.revert_apply h.1

/-- One write more. -/
theorem applyAll_take_succ {ws : List (Write κ ν)} {k : ℕ} (hk : k < ws.length) (f : κ → ν) :
    applyAll (ws.take (k + 1)) f = ws[k].apply (applyAll (ws.take k) f) := by
  rw [List.take_succ_eq_append_getElem hk, applyAll_append]
  rfl

/-- One write less. -/
theorem revertAll_take_succ {ws : List (Write κ ν)} {k : ℕ} (hk : k < ws.length) (f : κ → ν) :
    revertAll (ws.take (k + 1)).reverse f = revertAll (ws.take k).reverse (ws[k].revert f) := by
  rw [List.take_succ_eq_append_getElem hk, List.reverse_append, revertAll_append]
  rfl

/-- A plan that is cut is still chained. -/
theorem Chained.take {ws : List (Write κ ν)} {f : κ → ν} (h : Chained ws f) (k : ℕ) :
    Chained (ws.take k) f := by
  rw [← List.take_append_drop k ws, chained_append] at h
  exact h.1

/-- The next write of a chained plan finds the value it expects. -/
theorem Chained.before_eq {ws : List (Write κ ν)} {f : κ → ν} (h : Chained ws f) {k : ℕ}
    (hk : k < ws.length) : applyAll (ws.take k) f ws[k].key = ws[k].before := by
  rw [← List.take_append_drop k ws, List.drop_eq_getElem_cons hk, chained_append] at h
  exact h.2.1

/-- Undoing the first `k` writes leads back from where they lead, -/
theorem Chained.revertAll_take {ws : List (Write κ ν)} {f : κ → ν} (h : Chained ws f) (k : ℕ) :
    revertAll (ws.take k).reverse (applyAll (ws.take k) f) = f :=
  revertAll_reverse_applyAll (h.take k)

/-- and from where the last of them is still to be made. -/
theorem Chained.revertAll_take_succ {ws : List (Write κ ν)} {f : κ → ν} (h : Chained ws f) {k : ℕ}
    (hk : k < ws.length) : revertAll (ws.take (k + 1)).reverse (applyAll (ws.take k) f) = f := by
  rw [WritePlan.revertAll_take_succ hk, Write.revert, ← h.before_eq hk, Function.update_eq_self]
  exact h.revertAll_take k

/-- A rollback that stops after `k` writes has reached the state `k` writes earlier in the plan. -/
theorem revertAll_take_reverse {ws : List (Write κ ν)} {f : κ → ν} (h : Chained ws f) (n k : ℕ) :
    ∃ m ≤ n, revertAll ((ws.take n).reverse.take k) (applyAll (ws.take n) f)
      = applyAll (ws.take m) f := by
  have hn : Chained (ws.take n) f := h.take n
  refine ⟨min n ((ws.take n).length - k), Nat.min_le_left _ _, ?_⟩
  rw [List.take_reverse, ← List.take_take]
  set j := (ws.take n).length - k
  rw [← List.take_append_drop j (ws.take n), chained_append] at hn
  conv_lhs => rw [← List.take_append_drop j (ws.take n)]
  rw [applyAll_append, List.take_append_drop j (ws.take n)]
  rw [revertAll_reverse_applyAll hn.2, List.take_take, List.take_take, Nat.min_comm]

/-! ### Files in which some cells are missing -/

/-- The same write in a file whose cells may be missing. -/
def Write.lift (w : Write κ ν) : Write κ (Option ν) := ⟨w.key, some w.before, some w.after⟩

/-- A plan does the same in a file of present cells and in one with others missing, as long as the
two agree on the cells it names. -/
theorem applyAll_lift {P : κ → Prop} {ws : List (Write κ ν)} (hws : ∀ w ∈ ws, P w.key)
    {f : κ → ν} {g : κ → Option ν} (h : ∀ k, P k → g k = some (f k)) {k : κ} (hk : P k) :
    applyAll (ws.map Write.lift) g k = some (applyAll ws f k) := by
  induction ws generalizing f g with
  | nil => exact h k hk
  | cons w ws ih =>
      rw [List.map_cons, applyAll_cons, applyAll_cons]
      refine ih (fun v hv => hws v (List.mem_cons_of_mem _ hv)) ?_
      intro j hj
      by_cases hjw : j = w.key
      · rw [hjw]
        simp only [Write.apply, Write.lift, Function.update_self]
      · simp only [Write.apply, Write.lift, Function.update_of_ne hjw, h j hj]

/-- The same with cells that may be missing. -/
theorem chained_lift {P : κ → Prop} {ws : List (Write κ ν)} (hws : ∀ w ∈ ws, P w.key)
    {f : κ → ν} {g : κ → Option ν} (h : ∀ k, P k → g k = some (f k))
    (hchained : Chained (ws.map Write.lift) g) : Chained ws f := by
  induction ws generalizing f g with
  | nil => trivial
  | cons w ws ih =>
      obtain ⟨hbefore, hrest⟩ := hchained
      constructor
      · have hkey := h w.key (hws w List.mem_cons_self)
        rw [show g w.key = some w.before from hbefore] at hkey
        exact (Option.some.inj hkey).symm
      · refine ih (fun v hv => hws v (List.mem_cons_of_mem _ hv)) ?_ hrest
        intro j hj
        by_cases hjw : j = w.key
        · rw [hjw]
          simp only [Write.apply, Write.lift, Function.update_self]
        · simp only [Write.apply, Write.lift, Function.update_of_ne hjw, h j hj]

/-! ### Projecting a plan to some of the cells -/

/-- The cells selected by `p` change only through the writes to cells selected by `p`. -/
theorem applyAll_filter (p : κ → Bool) (ws : List (Write κ ν)) {f g : κ → ν}
    (h : ∀ k, p k → f k = g k) {k : κ} (hk : p k) :
    applyAll ws f k = applyAll (ws.filter fun w => p w.key) g k := by
  induction ws generalizing f g with
  | nil => exact h k hk
  | cons w ws ih =>
      rw [List.filter_cons, applyAll_cons]
      split
      · refine ih fun j hj => ?_
        by_cases hjw : j = w.key
        · simp only [hjw, Write.apply, Function.update_self]
        · simp only [Write.apply, Function.update_of_ne hjw, h j hj]
      · next hw =>
        refine ih fun j hj => ?_
        have hjw : j ≠ w.key := fun e => hw (e ▸ hj)
        rw [Write.apply, Function.update_of_ne hjw, h j hj]

/-- Cutting a list and then filtering it cuts the filtered list. -/
theorem exists_take_filter {α : Type*} (p : α → Bool) (l : List α) (n : ℕ) :
    ∃ m, (l.take n).filter p = (l.filter p).take m := by
  induction l generalizing n with
  | nil => exact ⟨0, by simp⟩
  | cons a l ih =>
      cases n with
      | zero => exact ⟨0, by simp⟩
      | succ n =>
          obtain ⟨m, hm⟩ := ih n
          by_cases ha : p a
          · exact ⟨m + 1, by simp [ha, hm]⟩
          · exact ⟨m, by simp [ha, hm]⟩

/-- A filtered list can be cut anywhere by cutting the list. -/
theorem exists_filter_take {α : Type*} (p : α → Bool) (l : List α) (m : ℕ) :
    ∃ n, (l.take n).filter p = (l.filter p).take m := by
  induction l generalizing m with
  | nil => exact ⟨0, by simp⟩
  | cons a l ih =>
      by_cases ha : p a
      · cases m with
        | zero => exact ⟨0, by simp⟩
        | succ m =>
            obtain ⟨n, hn⟩ := ih m
            exact ⟨n + 1, by simp [ha, hn]⟩
      · obtain ⟨n, hn⟩ := ih m
        exact ⟨n + 1, by simp [ha, hn]⟩

/-! ### The plan between two files -/

section Between

variable [DecidableEq ν]

/-- A write, unless it would store the value already expected. -/
def Write.ifNeeded (w : Write κ ν) : List (Write κ ν) := if w.before = w.after then [] else [w]

/-- The writes that give the listed cells their contents in `g`, in the order of the list; a cell
on which `f` and `g` agree is left alone. -/
def planBetween (f g : κ → ν) (cells : List κ) : List (Write κ ν) :=
  cells.flatMap fun k => Write.ifNeeded ⟨k, f k, g k⟩

variable {f g : κ → ν} {cells : List κ}

omit [DecidableEq κ] in
/-- A write for each cell in which the files differ. -/
theorem mem_planBetween {w : Write κ ν} :
    w ∈ planBetween f g cells ↔ w.key ∈ cells ∧ w.before = f w.key ∧ w.after = g w.key ∧
      f w.key ≠ g w.key := by
  unfold planBetween
  rw [List.mem_flatMap]
  constructor
  · rintro ⟨k, hk, hw⟩
    unfold Write.ifNeeded at hw
    split at hw
    · cases hw
    next hne =>
      obtain rfl := List.mem_singleton.mp hw
      exact ⟨hk, rfl, rfl, hne⟩
  · rintro ⟨hk, hbefore, hafter, hne⟩
    refine ⟨w.key, hk, ?_⟩
    rw [Write.ifNeeded, if_neg hne, List.mem_singleton, ← hbefore, ← hafter]

omit [DecidableEq κ] in
theorem keys_planBetween :
    (planBetween f g cells).map Write.key = cells.filter fun k => decide (f k ≠ g k) := by
  unfold planBetween
  induction cells with
  | nil => rfl
  | cons k cells ih =>
      rw [List.flatMap_cons, List.map_append, ih, List.filter_cons, Write.ifNeeded]
      by_cases h : f k = g k
      · simp [h]
      · simp [h]

omit [DecidableEq κ] in
/-- No cell is written twice. -/
theorem nodup_keys_planBetween (hnd : cells.Nodup) :
    ((planBetween f g cells).map Write.key).Nodup := by
  rw [keys_planBetween]
  exact hnd.filter _

/-- So each write finds what it expects. -/
theorem chained_planBetween (hnd : cells.Nodup) : Chained (planBetween f g cells) f :=
  chained_of_nodup (nodup_keys_planBetween hnd) fun _ hw => (mem_planBetween.mp hw).2.1.symm

/-- The plan does what it is drawn up for. -/
theorem applyAll_planBetween (hnd : cells.Nodup) {k : κ} (hk : k ∈ cells) :
    applyAll (planBetween f g cells) f k = g k := by
  by_cases h : f k = g k
  · rw [applyAll_of_notMem, h]
    rw [keys_planBetween, List.mem_filter]
    simp [h]
  · have hw : (⟨k, f k, g k⟩ : Write κ ν) ∈ planBetween f g cells :=
      mem_planBetween.mpr ⟨hk, rfl, rfl, h⟩
    exact applyAll_of_mem (nodup_keys_planBetween hnd) hw f

omit [DecidableEq κ] in
/-- The writes to some cells are the plan for those cells. -/
theorem planBetween_filter (p : κ → Bool) :
    (planBetween f g cells).filter (fun w => p w.key) = planBetween f g (cells.filter p) := by
  unfold planBetween
  induction cells with
  | nil => rfl
  | cons k cells ih =>
      rw [List.flatMap_cons, List.filter_append, ih, List.filter_cons, Write.ifNeeded]
      by_cases h : f k = g k
      · by_cases hp : p k <;> simp [h, hp, Write.ifNeeded]
      · by_cases hp : p k <;> simp [h, hp, Write.ifNeeded]

end Between

/-! ### Two coupled cells -/

/-- A relation between the contents of two cells holds after every prefix of a plan when it holds
after every prefix of the sub-plan that writes the two. -/
theorem rel_take_of_filter {R : ν → ν → Prop} {a b : κ} (ws : List (Write κ ν)) (f : κ → ν)
    (h : ∀ m, R (applyAll ((ws.filter fun w => decide (w.key = a ∨ w.key = b)).take m) f a)
      (applyAll ((ws.filter fun w => decide (w.key = a ∨ w.key = b)).take m) f b)) (n : ℕ) :
    R (applyAll (ws.take n) f a) (applyAll (ws.take n) f b) := by
  have hproj : ∀ k, decide (k = a ∨ k = b) = true → applyAll (ws.take n) f k =
      applyAll ((ws.take n).filter fun w => decide (w.key = a ∨ w.key = b)) f k :=
    fun k hk => applyAll_filter (fun k => decide (k = a ∨ k = b)) _ (fun _ _ => rfl) hk
  obtain ⟨m, hm⟩ := exists_take_filter (fun w : Write κ ν => decide (w.key = a ∨ w.key = b)) ws n
  rw [hproj a (by simp), hproj b (by simp), hm]
  exact h m

/-- A plan of two optional writes passes through at most three states: the start, the state after
the first write, and the state after both. -/
theorem applyAll_take_two [DecidableEq ν] {v w : Write κ ν} {f : κ → ν} (hv : f v.key = v.before)
    (hw : f w.key = w.before) (hne : w.key ≠ v.key) (m : ℕ) :
    applyAll ((v.ifNeeded ++ w.ifNeeded).take m) f = f ∨
      applyAll ((v.ifNeeded ++ w.ifNeeded).take m) f = v.apply f ∨
      applyAll ((v.ifNeeded ++ w.ifNeeded).take m) f = w.apply (v.apply f) := by
  have hskip : ∀ {u : Write κ ν} {g : κ → ν}, g u.key = u.before → u.before = u.after →
      u.apply g = g := by
    intro u g hu he
    rw [Write.apply, ← he, ← hu, Function.update_eq_self]
  have hw' : v.apply f w.key = w.before := by rw [Write.apply, Function.update_of_ne hne, hw]
  unfold Write.ifNeeded
  split <;> split
  · simp
  · next hva _ =>
    rw [hskip hv hva]
    cases m <;> simp
  · cases m <;> simp
  · match m with
    | 0 => simp
    | 1 => simp
    | m + 2 => simp

/-- A relation between a constrained value and its boundary for which, of any two related pairs, one
of the crossed pairs is related too. Both `≤` and `<` of a linear order are such relations. -/
def Ferrers (R : ν → ν → Prop) : Prop :=
  ∀ ⦃a b a' b'⦄, R a b → R a' b' → R a' b ∨ R a b'

section Coupled

variable [DecidableEq ν] {R : ν → ν → Prop} {f g : κ → ν} {a b : κ}

/-- The constrained cell may move first when its new value fits the old boundary. -/
theorem rel_take_constrained_first (hne : b ≠ a) (h : R (f a) (f b)) (h' : R (g a) (g b))
    (hfirst : R (g a) (f b)) (m : ℕ) :
    R (applyAll ((planBetween f g [a, b]).take m) f a)
      (applyAll ((planBetween f g [a, b]).take m) f b) := by
  have hplan : planBetween f g [a, b] = Write.ifNeeded ⟨a, f a, g a⟩ ++ Write.ifNeeded ⟨b, f b, g b⟩ := by
    simp [planBetween]
  rw [hplan]
  rcases applyAll_take_two (v := ⟨a, f a, g a⟩) (w := ⟨b, f b, g b⟩) rfl rfl hne m with e | e | e
  · rw [e]
    exact h
  · rw [e, Write.apply, Function.update_self, Function.update_of_ne hne]
    exact hfirst
  · rw [e, Write.apply, Write.apply, Function.update_self, Function.update_of_ne hne.symm,
      Function.update_self]
    exact h'

/-- Otherwise the boundary moves first: by the exchange property its new value fits the old
constrained value. -/
theorem rel_take_boundary_first (hR : Ferrers R) (hne : b ≠ a) (h : R (f a) (f b))
    (h' : R (g a) (g b)) (hfirst : ¬ R (g a) (f b)) (m : ℕ) :
    R (applyAll ((planBetween f g [b, a]).take m) f a)
      (applyAll ((planBetween f g [b, a]).take m) f b) := by
  have hcross : R (f a) (g b) := (hR h h').resolve_left hfirst
  exact rel_take_constrained_first (R := fun b a => R a b) hne.symm h h' hcross m

end Coupled

end Fidget.WritePlan
