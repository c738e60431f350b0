import Mathlib.Data.List.Basic

/-!
# Traces of calls

The calls that an operation makes, the earliest first, each with an effect on a state. Two kinds of
rules concern a trace as a whole: in which states a call may be made, and which calls have to be
answered by a later one.

## Main results

- `Permitted`, `permitted_append`: every call is made in a state in which it may be.
- `Answered`, `answered_append_of_mem`: every call that asks is answered later.
- `replay_keeps`: what no call changes.
- `Logged.trans`: a log that is kept step by step.
-/

namespace Fidget.CallTrace

variable {σ κ : Type*}

/-! ### The states that a trace goes through -/

section Replay

variable (effect : κ → σ → σ)

/-- The state after the calls of a trace. -/
def replay : List κ → σ → σ
  | [], state => state
  | call :: calls, state => replay calls (effect call state)

/-- Every call is made in a state in which it may be made. -/
def Permitted (may : σ → κ → Prop) : List κ → σ → Prop
  | [], _ => True
  | call :: calls, state => may state call ∧ Permitted may calls (effect call state)

variable {effect} {may : σ → κ → Prop}

@[simp] theorem replay_nil (state : σ) : replay effect [] state = state := rfl

@[simp] theorem replay_cons (call : κ) (calls : List κ) (state : σ) :
    replay effect (call :: calls) state = replay effect calls (effect call state) := rfl

@[simp] theorem replay_append (calls calls' : List κ) (state : σ) :
    replay effect (calls ++ calls') state = replay effect calls' (replay effect calls state) := by
  induction calls generalizing state with
  | nil => rfl
  | cons call calls ih => exact ih (effect call state)

/-- A trace is permitted part by part. -/
@[simp] theorem permitted_append (calls calls' : List κ) (state : σ) :
    Permitted effect may (calls ++ calls') state ↔ Permitted effect may calls state ∧
      Permitted effect may calls' (replay effect calls state) := by
  induction calls generalizing state with
  | nil => exact (true_and _).to_iff.symm
  | cons call calls ih =>
      show (may state call ∧ Permitted effect may (calls ++ calls') (effect call state)) ↔ _
      rw [ih, ← and_assoc]
      rfl

/-- Calls that may be made in any state. -/
theorem permitted_of_forall {calls : List κ} (h : ∀ call ∈ calls, ∀ state, may state call)
    (state : σ) : Permitted effect may calls state := by
  induction calls generalizing state with
  | nil => trivial
  | cons call calls ih =>
      exact ⟨h call List.mem_cons_self state,
        ih (fun other hother => h other (List.mem_cons_of_mem _ hother)) (effect call state)⟩

/-- What no call changes is the same after all of them. -/
theorem replay_keeps {calls : List κ} {α : Type*} (view : σ → α)
    (h : ∀ call ∈ calls, ∀ state, view (effect call state) = view state) (state : σ) :
    view (replay effect calls state) = view state := by
  induction calls generalizing state with
  | nil => rfl
  | cons call calls ih =>
      rw [replay_cons, ih fun other hother => h other (List.mem_cons_of_mem _ hother)]
      exact h call List.mem_cons_self state

end Replay

/-! ### A log kept beside the state -/

section Logged

variable {effect : κ → σ → σ} {calls calls' : List κ} {before between after : σ × List κ}

variable (effect) in
/-- From one point of a run to a later one, these calls are added to the log, and the state is the
one that they lead to. -/
structure Logged (calls : List κ) (before after : σ × List κ) : Prop where
  state : after.1 = replay effect calls before.1
  log : after.2 = before.2 ++ calls

theorem logged_nil (hstate : after.1 = before.1) (hlog : after.2 = before.2) :
    Logged effect [] before after := ⟨hstate, hlog.trans (List.append_nil _).symm⟩

theorem Logged.refl (before : σ × List κ) : Logged effect [] before before := logged_nil rfl rfl

theorem Logged.trans (h : Logged effect calls before between)
    (h' : Logged effect calls' between after) : Logged effect (calls ++ calls') before after where
  state := by rw [h'.state, h.state, replay_append]
  log := by rw [h'.log, h.log, List.append_assoc]

/-- A step that makes no call adds nothing. -/
theorem Logged.then (h : Logged effect calls before between)
    (h' : Logged effect [] between after) : Logged effect calls before after := by
  have htrans := h.trans h'
  rwa [List.append_nil] at htrans

/-- With nothing logged before, the log is the calls. -/
theorem Logged.eq_of_nil (h : Logged effect calls before after) (hnone : before.2 = []) :
    after.2 = calls := by rw [h.log, hnone, List.nil_append]

end Logged

/-! ### Calls that are answered -/

section Answered

/-- Every call that asks is followed by one that answers. -/
def Answered (asks answers : κ → Prop) : List κ → Prop
  | [] => True
  | call :: calls =>
    (asks call → ∃ answer ∈ calls, answers answer) ∧ Answered asks answers calls

variable {asks answers : κ → Prop} {calls calls' : List κ}

theorem answered_of_forall_not (h : ∀ call ∈ calls, ¬asks call) : Answered asks answers calls := by
  induction calls with
  | nil => trivial
  | cons call calls ih =>
      exact ⟨fun hasks => absurd hasks (h call List.mem_cons_self),
        ih fun other hother => h other (List.mem_cons_of_mem _ hother)⟩

/-- An answer may come within either part. -/
theorem Answered.append (h : Answered asks answers calls) (h' : Answered asks answers calls') :
    Answered asks answers (calls ++ calls') := by
  induction calls with
  | nil => exact h'
  | cons call calls ih =>
      refine ⟨fun hasks => ?_, ih h.2⟩
      obtain ⟨answer, hanswer, hanswers⟩ := h.1 hasks
      exact ⟨answer, List.mem_append_left _ hanswer, hanswers⟩

/-- The end of a trace has its answers in itself. -/
theorem Answered.of_append (h : Answered asks answers (calls ++ calls')) :
    Answered asks answers calls' := by
  induction calls with
  | nil => exact h
  | cons call calls ih => exact ih h.2

/-- One answer at the end answers everything before it. -/
theorem answered_append_of_mem (h : Answered asks answers calls') {answer : κ}
    (hanswer : answer ∈ calls') (hanswers : answers answer) :
    Answered asks answers (calls ++ calls') := by
  induction calls with
  | nil => exact h
  | cons call calls ih => exact ⟨fun _ => ⟨answer, List.mem_append_right _ hanswer, hanswers⟩, ih⟩

/-- Without an answer nothing may ask. -/
theorem Answered.exists_of_mem (h : Answered asks answers calls) {call : κ} (hcall : call ∈ calls)
    (hasks : asks call) : ∃ answer ∈ calls, answers answer := by
  induction calls with
  | nil => cases hcall
  | cons other calls ih =>
      rcases List.mem_cons.mp hcall with rfl | hcall
      · obtain ⟨answer, hanswer, hanswers⟩ := h.1 hasks
        exact ⟨answer, List.mem_cons_of_mem _ hanswer, hanswers⟩
      · obtain ⟨answer, hanswer, hanswers⟩ := ih h.2 hcall
        exact ⟨answer, List.mem_cons_of_mem _ hanswer, hanswers⟩

end Answered

end Fidget.CallTrace
