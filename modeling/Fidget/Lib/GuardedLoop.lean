import Mathlib.Data.List.Basic

/-!
# Loops that stop at the first failure

A loop over a list whose body does nothing once something has failed. If the body's success on an
item depends on the item alone, the loop succeeds exactly when every item is a good one, and has
then done to the state what its body does on good items.

## Main results

- `Guarded.foldl_of_good`: over good items the loop does what its body does on each of them.
- `Guarded.ok_foldl_iff`: the loop succeeds exactly when it starts well and every item is good.
-/

namespace Fidget.GuardedLoop

variable {σ α : Type*}

/-- `step` skips once the state is not `ok`; on a `Good` item it does `effect` and stays `ok`, on
any other it fails. -/
structure Guarded (ok : σ → Prop) (Good : α → Prop) (effect step : σ → α → σ) : Prop where
  skip : ∀ s a, ¬ok s → step s a = s
  good : ∀ s a, ok s → Good a → step s a = effect s a ∧ ok (effect s a)
  bad : ∀ s a, ok s → ¬Good a → ¬ok (step s a)

variable {ok : σ → Prop} {Good : α → Prop} {effect step : σ → α → σ}

/-- After a failure the rest is skipped. -/
theorem Guarded.foldl_skip (h : Guarded ok Good effect step) {s : σ} (hs : ¬ok s) (l : List α) :
    l.foldl step s = s := by
  induction l with
  | nil => rfl
  | cons a l ih => rw [List.foldl_cons, h.skip s a hs, ih]

/-- Over good items only, nothing fails. -/
theorem Guarded.foldl_of_good (h : Guarded ok Good effect step) {s : σ} (hs : ok s) {l : List α}
    (hl : ∀ a ∈ l, Good a) : l.foldl step s = l.foldl effect s ∧ ok (l.foldl effect s) := by
  induction l generalizing s with
  | nil => exact ⟨rfl, hs⟩
  | cons a l ih =>
      obtain ⟨hstep, hok⟩ := h.good s a hs (hl a List.mem_cons_self)
      rw [List.foldl_cons, List.foldl_cons, hstep]
      exact ih hok fun b hb => hl b (List.mem_cons_of_mem _ hb)

/-- The loop succeeds exactly when it starts well and every item is good. -/
theorem Guarded.ok_foldl_iff (h : Guarded ok Good effect step) {s : σ} {l : List α} :
    ok (l.foldl step s) ↔ ok s ∧ ∀ a ∈ l, Good a := by
  constructor
  · intro hok
    have hs : ok s := by
      by_contra hs
      rw [h.foldl_skip hs] at hok
      exact hs hok
    refine ⟨hs, ?_⟩
    induction l generalizing s with
    | nil =>
        intro a ha
        cases ha
    | cons a l ih =>
        rw [List.foldl_cons] at hok
        -- a bad element would have stopped the loop here
        have hgood : Good a := by
          by_contra hbad
          have hfailed := h.bad s a hs hbad
          rw [h.foldl_skip hfailed] at hok
          exact hfailed hok
        obtain ⟨hstep, hstepped⟩ := h.good s a hs hgood
        rw [hstep] at hok
        intro b hb
        rcases List.mem_cons.mp hb with rfl | hb
        · exact hgood
        · exact ih hok hstepped b hb
  · rintro ⟨hs, hl⟩
    obtain ⟨heq, hok⟩ := h.foldl_of_good hs hl
    rwa [heq]

end Fidget.GuardedLoop
