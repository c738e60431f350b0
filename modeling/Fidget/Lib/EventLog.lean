import Mathlib.Data.List.Basic

/-!
# Logs of events

A log is a list of events, the latest first, so that what happened before an event is the rest of the
list. An operation only adds to the log it is given.

## Main results

- `Extends`: the log has grown, by events of one kind.
- `Lawful`, `Lawful.event`: every event was allowed by what had happened before.
-/

namespace Fidget.EventLog

variable {ε : Type*}

/-! ### What an operation adds -/

/-- The second log is the first with some events added, each of which has the property. -/
def Extends (P : ε → Prop) (log log' : List ε) : Prop :=
  ∃ added, log' = added ++ log ∧ ∀ event ∈ added, P event

variable {P Q : ε → Prop} {log log' log'' : List ε}

theorem Extends.refl (log : List ε) : Extends P log log := ⟨[], rfl, fun _ h => by cases h⟩

/-- One event more. -/
theorem Extends.cons {event : ε} (h : Extends P log log') (hevent : P event) :
    Extends P log (event :: log') := by
  obtain ⟨added, rfl, hadded⟩ := h
  refine ⟨event :: added, rfl, fun other hother => ?_⟩
  rcases List.mem_cons.mp hother with rfl | hother
  · exact hevent
  · exact hadded other hother

theorem Extends.single {event : ε} (hevent : P event) : Extends P log (event :: log) :=
  (Extends.refl log).cons hevent

/-- Growing goes on. -/
theorem Extends.trans (h : Extends P log log') (h' : Extends P log' log'') :
    Extends P log log'' := by
  obtain ⟨added, rfl, hadded⟩ := h
  obtain ⟨added', rfl, hadded'⟩ := h'
  refine ⟨added' ++ added, (List.append_assoc ..).symm, fun event hevent => ?_⟩
  rcases List.mem_append.mp hevent with hevent | hevent
  · exact hadded' event hevent
  · exact hadded event hevent

/-- The kind of event may be widened. -/
theorem Extends.mono (h : Extends P log log') (hPQ : ∀ event, P event → Q event) :
    Extends Q log log' := by
  obtain ⟨added, rfl, hadded⟩ := h
  exact ⟨added, rfl, fun event hevent => hPQ event (hadded event hevent)⟩

/-- An event of the longer log is one of the shorter, or has the property. -/
theorem Extends.mem (h : Extends P log log') {event : ε} (hevent : event ∈ log') :
    event ∈ log ∨ P event := by
  obtain ⟨added, rfl, hadded⟩ := h
  exact (List.mem_append.mp hevent).symm.imp id (hadded event)

/-- Nothing is taken out of a log. -/
theorem Extends.subset (h : Extends P log log') : log ⊆ log' := by
  obtain ⟨added, rfl, -⟩ := h
  exact List.subset_append_right added log

/-! ### What holds of every event -/

/-- Every event is right after those before it. -/
def Lawful (ok : ε → List ε → Prop) : List ε → Prop
  | [] => True
  | event :: before => ok event before ∧ Lawful ok before

variable {ok ok' : ε → List ε → Prop}

/-- The next event is allowed by the log so far. -/
theorem Lawful.cons (h : Lawful ok log) {event : ε} (hevent : ok event log) :
    Lawful ok (event :: log) := ⟨hevent, h⟩

/-- The log was lawful at every earlier time. -/
theorem Lawful.of_append {newer : List ε} (h : Lawful ok (newer ++ log)) : Lawful ok log := by
  induction newer with
  | nil => exact h
  | cons event newer ih => exact ih h.2

theorem Lawful.event {newer before : List ε} {event : ε}
    (h : Lawful ok (newer ++ event :: before)) : ok event before := h.of_append.1

/-- Less may be asked of the events. -/
theorem Lawful.mono (h : Lawful ok log) (hok : ∀ event before, ok event before → ok' event before) :
    Lawful ok' log := by
  induction log with
  | nil => trivial
  | cons event before ih => exact ⟨hok event before h.1, ih h.2⟩

/-- What is right after anything is right everywhere. -/
theorem Lawful.of_forall (hP : ∀ event before, P event → ok event before)
    (h : ∀ event ∈ log, P event) : Lawful ok log := by
  induction log with
  | nil => trivial
  | cons event before ih =>
      exact ⟨hP _ _ (h event List.mem_cons_self),
        ih fun other hother => h other (List.mem_cons_of_mem _ hother)⟩

/-- A property of the events alone is right after anything. -/
theorem Lawful.extend (h : Lawful ok log) (hadded : Extends P log log')
    (hP : ∀ event before, P event → ok event before) : Lawful ok log' := by
  obtain ⟨added, rfl, hadded⟩ := hadded
  induction added with
  | nil => exact h
  | cons event added ih =>
      exact ⟨hP _ _ (hadded event List.mem_cons_self),
        ih fun other hother => hadded other (List.mem_cons_of_mem _ hother)⟩

end Fidget.EventLog
