import Mathlib.Data.List.Induction
import Std.Data.TreeMap.Lemmas

/-!
# Lists: monadic maps and indexed flattening

General facts about `mapM` in `Option` and `Except`, about `flatMap` over an indexed list, and about
folds into tree maps.

## Main results

- `forall₂_of_mapM_eq_ok`, `mapM_eq_ok_map`: a `mapM` in `Except` that succeeds, and one whose every
  step does.
- `foldl_collect`: a fold that collects elements up to a bound.
- `filter_flatMap_eq`, `flatMap_zipIdx_ite`: of many groups, only one contributes.
- `getElem?_foldl_insert`, `getElem?_of_foldl_erase`: what is found after many insertions or
  erasures.
-/

namespace Fidget.Lists

variable {α β ε : Type*}

/-- What holds of all elements is decided by going through them, also where the type could be gone
through. -/
scoped instance (priority := 2000) decidableForallMem (p : α → Prop) [DecidablePred p] (l : List α) :
    Decidable (∀ a ∈ l, p a) :=
  List.decidableBAll p l

/-- A `mapM` whose every step succeeds is a `map`. -/
theorem mapM_eq_some_map {f : α → Option β} {g : α → β} {l : List α}
    (h : ∀ a ∈ l, f a = some (g a)) : l.mapM f = some (l.map g) := by
  induction l with
  | nil => rfl
  | cons a l ih =>
      rw [List.mapM_cons, h a List.mem_cons_self, ih fun b hb => h b (List.mem_cons_of_mem _ hb)]
      rfl

/-- A `mapM` in `Except` that succeeds has succeeded everywhere, in order. -/
theorem forall₂_of_mapM_eq_ok {f : α → Except ε β} {l : List α} {bs : List β}
    (h : l.mapM f = .ok bs) : List.Forall₂ (fun a b => f a = .ok b) l bs := by
  induction l generalizing bs with
  | nil => cases h; exact .nil
  | cons a l ih =>
      rw [List.mapM_cons] at h
      cases ha : f a with
      | error e => rw [ha] at h; cases h
      | ok b =>
          rw [ha] at h
          cases hl : l.mapM f with
          | error e => rw [hl] at h; cases h
          | ok bs' =>
              rw [hl] at h
              cases h
              exact .cons ha (ih hl)

/-- When success determines the result, the results are a `map`. -/
theorem eq_map_of_mapM_eq_ok {f : α → Except ε β} {g : α → β} {l : List α} {bs : List β}
    (h : l.mapM f = .ok bs) (hg : ∀ a b, f a = .ok b → b = g a) : bs = l.map g := by
  have hforall := forall₂_of_mapM_eq_ok h
  clear h
  induction hforall with
  | nil => rfl
  | cons hab _ ih => rw [List.map_cons, ← ih, hg _ _ hab]

/-- Where every step succeeds, the whole succeeds with the results. -/
theorem mapM_eq_ok_map {f : α → Except ε β} {g : α → β} {l : List α}
    (h : ∀ a ∈ l, f a = .ok (g a)) : l.mapM f = .ok (l.map g) := by
  induction l with
  | nil => rfl
  | cons a l ih =>
      rw [List.mapM_cons, h a List.mem_cons_self, ih fun b hb => h b (List.mem_cons_of_mem _ hb)]
      rfl

/-- A list that gets one entry for each element that passes has as many entries as pass. -/
theorem length_flatMap_eq_countP {f : α → List β} {p : α → Bool} {l : List α}
    (h : ∀ a ∈ l, (f a).length = if p a then 1 else 0) : (l.flatMap f).length = l.countP p := by
  induction l with
  | nil => rfl
  | cons a l ih =>
      have htail := ih fun b hb => h b (List.mem_cons_of_mem _ hb)
      rw [List.flatMap_cons, List.length_append, htail, h a List.mem_cons_self, List.countP_cons]
      omega

/-- What no step changes, a fold does not change. -/
theorem foldl_unchanged {σ τ : Type*} {f : σ → α → σ} (g : σ → τ) (h : ∀ s a, g (f s a) = g s)
    (l : List α) (s : σ) : g (l.foldl f s) = g s := by
  induction l generalizing s with
  | nil => rfl
  | cons a l ih => rw [List.foldl_cons, ih, h]

/-- A step that collects elements, `done` with them at the `n`th: a fold over at most `n` of them
collects them all and is done. -/
theorem foldl_collect {σ : Type*} {f : σ → α → σ} {add : List α → σ} {done : σ → σ} {n : ℕ}
    (hf : ∀ l a, l.length < n → f (add l) a = done (add (l ++ [a])))
    (hdone : ∀ l, l.length < n → done (add l) = add l) {l : List α} (hne : l ≠ [])
    (hlength : l.length ≤ n) : l.foldl f (add []) = done (add l) := by
  induction l using List.reverseRecOn with
  | nil => exact absurd rfl hne
  | append_singleton l a ih =>
      rw [List.length_append, List.length_singleton] at hlength
      have hcollected : l.foldl f (add []) = add l := by
        by_cases hl : l = []
        · rw [hl, List.foldl_nil]
        · rw [ih hl (by omega), hdone l (by omega)]
      rw [List.foldl_append, hcollected, List.foldl_cons, List.foldl_nil, hf l a (by omega)]

/-- When the groups of all other elements filter to nothing, one group is all that is left. -/
theorem filter_flatMap_eq {p : β → Bool} {group : α → List β} {l : List α} {a : α} (ha : a ∈ l)
    (hnodup : l.Nodup) (hother : ∀ a' ∈ l, a' ≠ a → (group a').filter p = []) :
    (l.flatMap group).filter p = (group a).filter p := by
  induction l with
  | nil => cases ha
  | cons a' l ih =>
      rw [List.nodup_cons] at hnodup
      rw [List.flatMap_cons, List.filter_append]
      rcases List.mem_cons.mp ha with rfl | hmem
      · have hrest : (l.flatMap group).filter p = [] := by
          rw [List.filter_flatMap, List.flatMap_eq_nil_iff]
          intro x hx
          exact hother x (List.mem_cons_of_mem _ hx) fun heq => hnodup.1 (heq ▸ hx)
        rw [hrest, List.append_nil]
      · have hne : a' ≠ a := fun heq => hnodup.1 (heq ▸ hmem)
        rw [hother a' List.mem_cons_self hne, List.nil_append]
        exact ih hmem hnodup.2 fun x hx => hother x (List.mem_cons_of_mem _ hx)

/-- Of an indexed list, only the element at one index contributes. -/
theorem flatMap_zipIdx_ite (l : List α) (g : α → List β) (i n : ℕ) :
    (l.zipIdx n).flatMap (fun x => if x.2 = n + i then g x.1 else []) =
      (l[i]?).elim [] g := by
  induction l generalizing i n with
  | nil => simp
  | cons a l ih =>
      rw [List.zipIdx_cons, List.flatMap_cons]
      cases i with
      | zero =>
          have hnone : (l.zipIdx (n + 1)).flatMap (fun x => if x.2 = n + 0 then g x.1 else []) = [] := by
            rw [List.flatMap_eq_nil_iff]
            rintro ⟨b, j⟩ hb
            have hj : n + 1 ≤ j := List.le_snd_of_mem_zipIdx hb
            rw [if_neg]
            show ¬ j = n + 0
            omega
          rw [hnone]
          simp
      | succ i =>
          have hshift := ih i (n + 1)
          have hhead : ¬ n = n + 1 + i := by omega
          rw [show n + (i + 1) = n + 1 + i by omega, hshift]
          simp [hhead]

/-- A function of indexed elements that a change of one element does not affect. -/
theorem map_zipIdx_modify {f : α → α} {g : α × ℕ → β} (h : ∀ a n, g (f a, n) = g (a, n))
    (l : List α) (i n : ℕ) : ((l.modify i f).zipIdx n).map g = (l.zipIdx n).map g := by
  induction l generalizing i n with
  | nil => rw [List.modify_nil]
  | cons a l ih =>
      cases i with
      | zero =>
          rw [List.modify_zero_cons, List.zipIdx_cons, List.zipIdx_cons, List.map_cons,
            List.map_cons, h]
      | succ i =>
          rw [List.modify_succ_cons, List.zipIdx_cons, List.zipIdx_cons, List.map_cons,
            List.map_cons, ih]

/-! ### Folds into tree maps -/

section TreeMaps

open Std

variable {κ : Type*} {cmp : κ → κ → Ordering} [TransCmp cmp]

/-- Of several elements inserted under one key, the last is found. -/
theorem getElem?_foldl_insert [LawfulEqCmp cmp] [DecidableEq κ] (key : α → κ) (l : List α) (map : TreeMap κ α cmp) (k : κ) :
    (l.foldl (fun map a => map.insert (key a) a) map)[k]? =
      (l.filter fun a => key a = k).getLast?.or map[k]? := by
  induction l generalizing map with
  | nil => rfl
  | cons a l ih =>
      rw [List.foldl_cons, ih, TreeMap.getElem?_insert]
      by_cases hkey : key a = k
      · have hfilter : (a :: l).filter (fun a => key a = k) = a :: l.filter fun a => key a = k :=
          List.filter_cons_of_pos (decide_eq_true hkey)
        rw [if_pos (LawfulEqCmp.compare_eq_iff_eq.mpr hkey), hfilter, List.getLast?_cons]
        cases (l.filter fun a => key a = k).getLast? <;> rfl
      · have hfilter : (a :: l).filter (fun a => key a = k) = l.filter fun a => key a = k :=
          List.filter_cons_of_neg (by simpa using hkey)
        rw [if_neg fun h => hkey (LawfulEqCmp.compare_eq_iff_eq.mp h), hfilter]

/-- What is found after erasures was there before. -/
theorem getElem?_of_foldl_erase (key : α → κ) {β : Type*} {l : List α} {map : TreeMap κ β cmp}
    {k : κ} {b : β} (h : (l.foldl (fun map a => map.erase (key a)) map)[k]? = some b) :
    map[k]? = some b := by
  induction l generalizing map with
  | nil => exact h
  | cons a l ih =>
      have herase := ih h
      rw [TreeMap.getElem?_erase] at herase
      split at herase
      · cases herase
      · exact herase

end TreeMaps

end Fidget.Lists
