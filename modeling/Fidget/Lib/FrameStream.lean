import Mathlib.Data.List.Basic

/-!
# Framed streams

A receiver keeps the bytes it has not used yet. Whenever more arrive it takes frames off the front
as long as one is complete, acts on each, and keeps the rest. When the decision what the front
frame is, and whether it is complete, does not change as bytes arrive behind it (`stable`), the
receiver's state after a stream does not depend on how the stream was cut into arrivals.

## Main results

- `receive_receive`: two arrivals are one.
-/

namespace Fidget.FrameStream

variable {σ β κ : Type*}

/-- How frames are recognised: the kind and the length of the complete frame at the front. -/
structure Framing (κ β : Type*) where
  next : List β → Option (κ × ℕ)
  next_pos : ∀ {pending kind n}, next pending = some (kind, n) → 0 < n
  next_le : ∀ {pending kind n}, next pending = some (kind, n) → n ≤ pending.length
  stable : ∀ {pending frame} (more : List β), next pending = some frame →
    next (pending ++ more) = some frame

variable (F : Framing κ β) (act : σ → κ → List β → σ)

/-- Act on the complete frames at the front; what is left is returned with the state. -/
def drain (s : σ) (pending : List β) : σ × List β :=
  match _h : F.next pending with
  | none => (s, pending)
  | some (kind, n) => drain (act s kind (pending.take n)) (pending.drop n)
termination_by pending.length
decreasing_by
  have hpos := F.next_pos _h
  have hle := F.next_le _h
  rw [List.length_drop]
  omega

variable {F act}

/-- Without a whole frame nothing is done. -/
theorem drain_of_none {s : σ} {pending : List β} (h : F.next pending = none) :
    drain F act s pending = (s, pending) := by
  rw [drain]
  split
  · rfl
  next hsome => rw [h] at hsome; cases hsome

/-- The frame in front is acted on, then the rest. -/
theorem drain_of_some {s : σ} {pending : List β} {kind : κ} {n : ℕ}
    (h : F.next pending = some (kind, n)) :
    drain F act s pending = drain F act (act s kind (pending.take n)) (pending.drop n) := by
  rw [drain]
  split
  next hnone => rw [h] at hnone; cases hnone
  next kind' n' hsome =>
    rw [h] at hsome
    cases hsome
    rfl

/-- No complete frame is left behind. -/
theorem next_drain (s : σ) (pending : List β) :
    F.next (drain F act s pending).2 = none := by
  induction s, pending using drain.induct F act with
  | case1 s pending h => rwa [drain_of_none h]
  | case2 s pending kind n h ih => rwa [drain_of_some h]

/-- Draining before more bytes arrive makes no difference to draining after. -/
theorem drain_append (s : σ) (pending more : List β) :
    drain F act s (pending ++ more) =
      drain F act (drain F act s pending).1 ((drain F act s pending).2 ++ more) := by
  induction s, pending using drain.induct F act with
  | case1 s pending h => rw [drain_of_none h]
  | case2 s pending kind n h ih =>
      have hle := F.next_le h
      rw [drain_of_some h, drain_of_some (F.stable more h), List.take_append_of_le_length hle,
        List.drop_append_of_le_length hle]
      exact ih

/-! ### Frames -/

/-- The complete frames at the front, each with its kind. -/
def frames (F : Framing κ β) (pending : List β) : List (κ × List β) :=
  match _h : F.next pending with
  | none => []
  | some (kind, n) => (kind, pending.take n) :: frames F (pending.drop n)
termination_by pending.length
decreasing_by
  have hpos := F.next_pos _h
  have hle := F.next_le _h
  rw [List.length_drop]
  omega

theorem frames_of_none {pending : List β} (h : F.next pending = none) : frames F pending = [] := by
  rw [frames]
  split
  · rfl
  next hsome => rw [h] at hsome; cases hsome

theorem frames_of_some {pending : List β} {kind : κ} {n : ℕ} (h : F.next pending = some (kind, n)) :
    frames F pending = (kind, pending.take n) :: frames F (pending.drop n) := by
  rw [frames]
  split
  next hnone => rw [h] at hnone; cases hnone
  next kind' n' hsome =>
    rw [h] at hsome
    cases hsome
    rfl

/-- Draining acts on the complete frames one after the other. -/
theorem drain_eq_foldl (s : σ) (pending : List β) :
    (drain F act s pending).1 =
      (frames F pending).foldl (fun s frame => act s frame.1 frame.2) s := by
  induction s, pending using drain.induct F act with
  | case1 s pending h => rw [drain_of_none h, frames_of_none h, List.foldl_nil]
  | case2 s pending kind n h ih => rw [drain_of_some h, frames_of_some h, List.foldl_cons, ih]

section Written

/-! A stream that was written frame by frame: `encode` writes an item as one frame of `kind`. -/

variable {α : Type*} {kind : κ} {encode : α → List β} {items : List α}

/-- It is recognised frame by frame. -/
theorem frames_flatMap (hnil : F.next [] = none)
    (h : ∀ item ∈ items, F.next (encode item) = some (kind, (encode item).length)) :
    frames F (items.flatMap encode) = items.map fun item => (kind, encode item) := by
  induction items with
  | nil => exact frames_of_none hnil
  | cons item items ih =>
      have hitem := F.stable (items.flatMap encode) (h item List.mem_cons_self)
      rw [List.flatMap_cons, frames_of_some hitem, List.take_left, List.drop_left, List.map_cons,
        ih fun item' hitem' => h item' (List.mem_cons_of_mem _ hitem')]

/-- It is acted on frame by frame, and nothing of it is left. -/
theorem drain_flatMap (hnil : F.next [] = none)
    (h : ∀ item ∈ items, F.next (encode item) = some (kind, (encode item).length)) (s : σ) :
    drain F act s (items.flatMap encode) =
      (items.foldl (fun s item => act s kind (encode item)) s, []) := by
  induction items generalizing s with
  | nil => exact drain_of_none hnil
  | cons item items ih =>
      have hitem := F.stable (items.flatMap encode) (h item List.mem_cons_self)
      rw [List.flatMap_cons, drain_of_some hitem, List.take_left, List.drop_left, List.foldl_cons,
        ih fun item' hitem' => h item' (List.mem_cons_of_mem _ hitem')]

end Written

/-! ### Receivers -/

/-- A receiver's state: what the frames have made of it, and the bytes kept. -/
def receive (F : Framing κ β) (act : σ → κ → List β → σ) (state : σ × List β) (more : List β) :
    σ × List β :=
  drain F act state.1 (state.2 ++ more)

/-- Where the stream is cut does not matter. -/
theorem receive_receive (state : σ × List β) (more more' : List β) :
    receive F act (receive F act state more) more' = receive F act state (more ++ more') := by
  show drain F act (drain F act state.1 (state.2 ++ more)).1
    ((drain F act state.1 (state.2 ++ more)).2 ++ more') = drain F act state.1 (state.2 ++ (more ++ more'))
  rw [← List.append_assoc, drain_append state.1 (state.2 ++ more)]

/-- However a stream is cut into arrivals, the receiver ends where one arrival would put it. -/
theorem foldl_receive {state : σ × List β} (hstate : F.next state.2 = none)
    (chunks : List (List β)) :
    chunks.foldl (receive F act) state = receive F act state chunks.flatten := by
  induction chunks generalizing state with
  | nil =>
      rw [List.foldl_nil, List.flatten_nil, receive, List.append_nil, drain_of_none hstate]
  | cons chunk chunks ih =>
      have hnext : F.next (receive F act state chunk).2 = none := next_drain _ _
      rw [List.foldl_cons, ih hnext, receive_receive, List.flatten_cons]

end Fidget.FrameStream
