import Mathlib.Tactic.TypeStar

/-!
# Outcomes that may be undefined

An evaluation that applies an operation outside its domain has no outcome. Where such an evaluation
is written in `Option`, beside a total one that fills the gaps somehow, `DefinedUnless` says in one
statement when it has no outcome and that it agrees with the total one otherwise.

* `DefinedUnless.bind` puts two steps together: what makes the first undefined, or the second where
  the first leaves off, makes the whole undefined.
* `DefinedUnless.eq_some_iff` is what comes out at the end: the evaluation has the total one's
  value exactly when nothing is wrong.
-/

namespace Fidget

/-- The outcome is this value, and there is none exactly when something is wrong. -/
structure DefinedUnless {α : Type*} (wrong : Prop) (outcome : Option α) (value : α) : Prop where
  undefined : wrong → outcome = none
  defined : ¬wrong → outcome = some value

namespace DefinedUnless

variable {α β : Type*} {wrong wrong' : Prop} {outcome : Option α} {value : α}

/-- Nothing goes wrong where no operation is applied. -/
theorem pure (value : α) : DefinedUnless False (some value) value := ⟨False.elim, fun _ => rfl⟩

theorem congr (h : DefinedUnless wrong outcome value) (hiff : wrong ↔ wrong') :
    DefinedUnless wrong' outcome value :=
  ⟨fun hwrong => h.undefined (hiff.mpr hwrong), fun hright => h.defined fun hwrong =>
    hright (hiff.mp hwrong)⟩

theorem map (h : DefinedUnless wrong outcome value) (f : α → β) :
    DefinedUnless wrong (outcome.map f) (f value) where
  undefined hwrong := by rw [h.undefined hwrong, Option.map_none]
  defined hright := by rw [h.defined hright, Option.map_some]

/-- Two steps, one after the other. The second matters only where the first is defined. -/
theorem bind {next : α → Option β} {result : β} (h : DefinedUnless wrong outcome value)
    (hnext : DefinedUnless wrong' (next value) result) :
    DefinedUnless (wrong ∨ wrong') (outcome.bind next) result where
  undefined := by
    intro hwrong
    by_cases hfirst : wrong
    · rw [h.undefined hfirst, Option.bind_none]
    · rw [h.defined hfirst, Option.bind_some]
      exact hnext.undefined (hwrong.resolve_left hfirst)
  defined := by
    intro hright
    obtain ⟨hfirst, hsecond⟩ := not_or.mp hright
    rw [h.defined hfirst, Option.bind_some]
    exact hnext.defined hsecond

/-- The evaluation has the total one's value exactly when nothing is wrong. -/
theorem eq_some_iff (h : DefinedUnless wrong outcome value) : outcome = some value ↔ ¬wrong := by
  constructor
  · intro hsome hwrong
    rw [h.undefined hwrong] at hsome
    cases hsome
  · exact h.defined

end DefinedUnless

end Fidget
