import Fidget.Hardware.BridgeLink

/-!
# What the calls leave alone

The threads that call the connection change its fields and their own places. The pipes, the relay
and what the reader has read are none of their business, and only one of them starts the reader.

This file has what is needed of the callers by both directions: which parts of the state each event
leaves alone, and that the reader is started once. The equations between `besideCallers`,
`besideRelay` and `besideWriter` before and after an event save the later files from going through
its cases.

## Main results

- `BridgeLink.besideCallers`, `besideRelay`, `besideWriter`: what each of the parties leaves alone.
- `StartedOnce`: the reader is started by one thread.
- `StartedOnce.step`: every event keeps it so.
-/

namespace Fidget

open BridgeConnection

namespace BridgeLink

variable {τ : Type}

/-- All but the connection, the threads that call it and what happened on the channels. -/
def besideCallers (s : BridgeLink τ) :=
  (s.writer, s.toRelay, s.toConnection, s.relay, s.reader, s.history.passed, s.history.written,
    s.history.failedWrites, s.history.relayed, s.history.accepted, s.history.handled)

variable {s s' : BridgeLink τ} {t : τ}

/-- The thread that starts the reader holds `openMutex_`, and there is no reader before. -/
structure StartedOnce (s : BridgeLink τ) : Prop where
  starting : ∀ t, s.call t = .startingReader →
    s.openMutex = some t ∧ s.reader.stage = .absent ∧ s.connection.readerStarted = true
  absent : s.connection.readerStarted = false → s.reader.stage = .absent

/-- At first nobody has started it. -/
theorem startedOnce_initial (readDescriptor writeDescriptor handshakeTimeout : Int)
    (queueCapacity : Nat) :
    (initial readDescriptor writeDescriptor handshakeTimeout queueCapacity : BridgeLink τ).StartedOnce :=
  ⟨fun _ h => (by cases h), fun _ => rfl⟩

/-- Neither the callers nor the start of the reader are touched. -/
theorem StartedOnce.congr (h : s.StartedOnce) (hcall : s'.call = s.call)
    (hmutex : s'.openMutex = s.openMutex) (hreader : s'.reader.stage = s.reader.stage)
    (hstarted : s'.connection.readerStarted = s.connection.readerStarted) : s'.StartedOnce := by
  constructor
  · rw [hcall, hmutex, hreader, hstarted]
    exact h.starting
  · rw [hreader, hstarted]
    exact h.absent

/-- A reader that is there was started. -/
theorem StartedOnce.of_reader (h : s.StartedOnce) (hstage : s.reader.stage ≠ .absent)
    (hcall : s'.call = s.call) (hstarted : s'.connection.readerStarted = s.connection.readerStarted) :
    s'.StartedOnce := by
  constructor
  · intro t ht
    rw [hcall] at ht
    exact absurd (h.starting t ht).2.1 hstage
  · intro hnot
    exact absurd (h.absent (hstarted.symm.trans hnot)) hstage

/-! ### The reader and the relay

Neither of them starts the reader, and the relay touches nothing on the side of the connection but
the two pipes. -/

/-- Routing does not start the reader. -/
theorem readerStarted_routeFrames (c : BridgeConnection) (frames : List BridgeFrame) :
    (c.routeFrames frames).1.readerStarted = c.readerStarted := by
  have hone (c : BridgeConnection) (frame : BridgeFrame) :
      (c.routeFrame frame).readerStarted = c.readerStarted := by
    simp only [BridgeConnection.routeFrame]
    split
    · rfl
    · rfl
    · exact readerStarted_setQueueLocked _
    · rfl
  induction frames generalizing c with
  | nil => rfl
  | cons frame frames ih =>
      rw [BridgeConnection.routeFrames]
      split
      · exact hone c frame
      · exact (ih _).trans (hone c frame)

/-- Nor does the reader itself. -/
theorem StartedOnce.readerStep (h : s.StartedOnce) {event : ReaderEvent}
    (hstep : s.readerStep event = some s') : s'.StartedOnce := by
  -- a reader that takes a step has been started
  have hreader : s.reader.stage ≠ .absent := by
    intro habsent
    simp only [BridgeLink.readerStep, habsent] at hstep
    cases event <;> cases hstep
  simp only [BridgeLink.readerStep] at hstep
  split at hstep
  next =>
    cases hstep
    exact h.of_reader hreader rfl rfl
  next =>
    split at hstep
    all_goals
      cases hstep
      exact h.of_reader hreader rfl rfl
  next outcome _ =>
    cases outcome with
    | failed error =>
        cases hstep
        exact h.of_reader hreader rfl rfl
    | read n =>
        simp only [readerRead] at hstep
        split at hstep
        · cases hstep
          exact h.of_reader hreader rfl rfl
        split at hstep
        · cases hstep
          exact h.of_reader hreader rfl rfl
        · cases hstep
  -- routing may fail the connection, but does not start the reader
  next frames _ =>
    cases hstep
    exact h.of_reader hreader rfl (readerStarted_routeFrames _ frames)
  next =>
    cases hstep
    exact h.of_reader hreader rfl rfl
  next =>
    cases hstep
    -- the end of the reader is noted in the connection
    refine h.of_reader hreader rfl ?_
    simp only
    split <;> rfl
  next => cases hstep

/-- Everything that is not the relay's. -/
def besideRelay (s : BridgeLink τ) :=
  (s.connection, s.openMutex, s.call, s.reader, s.history.handled, s.history.channel)

/-- Of the connection's side, writing changes the pipe only. -/
theorem besideRelay_relayWrite {frame : EncodedFrame} {offset : Nat}
    {revents : Option RelayRevents} {outcome : WriteOutcome}
    (h : s.relayWrite frame offset revents outcome = some s') : s'.besideRelay = s.besideRelay := by
  cases outcome with
  | failed error =>
      cases h
      rfl
  | wrote n =>
      simp only [relayWrite] at h
      split_ifs at h
      all_goals
        cases h
        rfl

theorem besideRelay_relayRead {revents : RelayRevents} {outcome : ReadOutcome}
    (h : s.relayRead revents outcome = some s') : s'.besideRelay = s.besideRelay := by
  cases outcome with
  | failed error =>
      cases h
      rfl
  | read n =>
      simp only [relayRead] at h
      split_ifs at h
      all_goals
        cases h
        rfl

/-- The same for each of its events. -/
theorem besideRelay_relayStep {event : RelayEvent} (h : s.relayStep event = some s') :
    s'.besideRelay = s.besideRelay := by
  simp only [relayStep] at h
  split at h
  next =>
    cases h
    rfl
  next => exact besideRelay_relayWrite h
  iterate 6
    next =>
      cases h
      rfl
  next => exact besideRelay_relayRead h
  next outcome _ _ _ _ =>
    cases outcome <;> cases h <;> rfl
  next outcome _ _ =>
    cases outcome <;> cases h <;> rfl
  next outcome _ _ =>
    cases outcome <;> cases h <;> rfl
  next => cases h

theorem StartedOnce.relayStep (h : s.StartedOnce) {event : RelayEvent}
    (hstep : s.relayStep event = some s') : s'.StartedOnce := by
  have hbeside := besideRelay_relayStep hstep
  simp only [besideRelay, Prod.mk.injEq] at hbeside
  obtain ⟨hconnection, hmutex, hcall, hreader, _⟩ := hbeside
  exact h.congr hcall hmutex (by rw [hreader]) (by rw [hconnection])

variable [DecidableEq τ]

/-- A call to open touches neither pipe nor relay. -/
theorem besideCallers_openChannel {channel : BridgeChannel} {host : String} {port : UInt16}
    (h : s.openChannel t channel host port = some s') : s'.besideCallers = s.besideCallers := by
  simp only [openChannel] at h
  split at h
  · cases h
  split at h
  all_goals
    cases h
    simp only [besideCallers, setCall]
    split <;> rfl

/-- The reader begins where it checks for the end. -/
theorem besideCallers_startReader (exception : Option String) :
    (s.startReader t exception).besideCallers = s.besideCallers ∨
      (s.startReader t exception).besideCallers = (s.setReader .checking).besideCallers := by
  cases exception with
  | some exception => exact .inl rfl
  | none =>
      simp only [startReader]
      split
      · exact .inr rfl
      · exact .inr rfl

theorem besideCallers_endHelloWait : (s.endHelloWait t).besideCallers = s.besideCallers := by
  simp only [endHelloWait]
  split <;> rfl

/-- The frame is not in the pipe yet. -/
theorem besideCallers_send (channel : BridgeChannel) (data : ByteSpan) :
    (s.send t channel data).besideCallers = s.besideCallers := by
  simp only [send]
  split
  · rfl
  split <;> rfl

/-- A receive takes from the queue, not from the pipe. -/
theorem besideCallers_receive (channel : BridgeChannel) (capacity : Nat) (hasBuffer : Bool)
    (timeoutMilliseconds : Int) :
    (s.receive t channel capacity hasBuffer timeoutMilliseconds).besideCallers =
      s.besideCallers := by
  simp only [receive, besideCallers]
  split <;> rfl

theorem besideCallers_shutDown (h : s.shutDown t = some s') :
    s'.besideCallers = s.besideCallers := by
  simp only [shutDown] at h
  split at h
  · cases h
    rfl
  · split at h
    · cases h
    · cases h
      rfl
  · split at h
    · cases h
    · cases h
      rfl
  · split at h
    · cases h
      rfl
    · cases h
  · cases h

/-- Only the start of the reader is of any consequence beside the callers. -/
theorem besideCallers_callStep {event : CallEvent} (h : s.callStep t event = some s') :
    s'.besideCallers = s.besideCallers ∨
      s.call t = .startingReader ∧ s'.besideCallers = (s.setReader .checking).besideCallers := by
  simp only [callStep] at h
  split at h
  next => exact .inl (besideCallers_openChannel h)
  next ht =>
    cases h
    exact (besideCallers_startReader _).imp_right fun hstarted => ⟨ht, hstarted⟩
  next =>
    cases h
    exact .inl besideCallers_endHelloWait
  next =>
    cases h
    exact .inl (besideCallers_send _ _)
  next =>
    cases h
    exact .inl rfl
  next =>
    cases h
    exact .inl (besideCallers_receive _ _ _ _)
  next =>
    cases h
    exact .inl rfl
  next =>
    cases h
    exact .inl rfl
  next => exact .inl (besideCallers_shutDown h)
  next => cases h

/-! ### What the writing of frames leaves alone

A write changes the pipe to the relay and the place of the thread that writes. -/

/-- Everything that a write does not touch. -/
def besideWriter (s : BridgeLink τ) :=
  (s.connection, s.openMutex, s.relay, s.toConnection, s.reader, s.history.accepted,
    s.history.handled, s.history.channel)

/-- A thread that writes is not about to start the reader. -/
theorem besideWriter_writeFrame {w : FrameWrite τ} {outcome : WriteOutcome}
    (h : s.writeFrame w outcome = some s') :
    s'.besideWriter = s.besideWriter ∧
      (s'.call = s.call ∨
        ∃ stage, stage ≠ .startingReader ∧ s'.call = Function.update s.call w.thread stage) := by
  cases outcome with
  | failed error =>
      cases h
      exact ⟨rfl, .inr ⟨_, by simp, rfl⟩⟩
  | wrote n =>
      simp only [writeFrame] at h
      split at h
      · cases h
        exact ⟨rfl, .inr ⟨_, by simp, rfl⟩⟩
      split at h
      · cases h
        exact ⟨rfl, .inl rfl⟩
      split at h
      · split at h
        all_goals
          cases h
          exact ⟨rfl, .inr ⟨_, by simp, rfl⟩⟩
      · cases h

/-- A write changes the pipe, and the place of its own thread. -/
theorem besideWriter_writeStep {event : WriteEvent} (h : s.writeStep t event = some s') :
    s'.besideWriter = s.besideWriter ∧
      (s'.call = s.call ∨
        ∃ stage, stage ≠ .startingReader ∧ s'.call = Function.update s.call t stage) := by
  cases event with
  -- to take the lock changes only the call's stage
  | lock =>
      simp only [writeStep] at h
      split at h
      · simp only [lockWriter] at h
        split at h
        · cases h
        split at h
        · cases h
          exact ⟨rfl, .inr ⟨_, by simp, rfl⟩⟩
        · cases h
          exact ⟨rfl, .inl rfl⟩
      · cases h
  | write outcome =>
      simp only [writeStep] at h
      split at h
      · split at h
        next hthread =>
          rw [← hthread]
          exact besideWriter_writeFrame h
        next => cases h
      · cases h

/-! ### The start of the reader

`OpenChannel` starts the reader while it holds `openMutex_`, and only if it was not started before.
So at most one thread is about to start it, and then there is none yet. -/

/-- Whoever is about to start the reader was so before. -/
theorem startingReader_of_update {stage : CallStage} (hstage : stage ≠ .startingReader)
    {call : τ → CallStage} {t' : τ} (h : Function.update call t stage t' = .startingReader) :
    t' ≠ t ∧ call t' = .startingReader := by
  by_cases hsame : t' = t
  · rw [hsame, Function.update_self] at h
    exact absurd h hstage
  · rw [Function.update_of_ne hsame] at h
    exact ⟨hsame, h⟩

/-- The thread goes on, but not to the start of the reader. -/
structure GoesOn (s s' : BridgeLink τ) (t : τ) : Prop where
  call : ∃ stage, stage ≠ .startingReader ∧ s'.call = Function.update s.call t stage
  openMutex : s'.openMutex = s.openMutex ∨ s.openMutex = some t
  reader : s'.reader = s.reader
  readerStarted : s'.connection.readerStarted = s.connection.readerStarted

/-- A thread that goes on elsewhere does not start the reader. -/
theorem StartedOnce.goesOn (h : s.StartedOnce) (hgoes : s.GoesOn s' t) : s'.StartedOnce := by
  obtain ⟨stage, hstage, hcall⟩ := hgoes.call
  constructor
  · intro t' ht'
    rw [hcall] at ht'
    obtain ⟨hother, ht'⟩ := startingReader_of_update hstage ht'
    obtain ⟨hmutex, habsent, hstarted⟩ := h.starting t' ht'
    refine ⟨?_, by rw [hgoes.reader]; exact habsent, hgoes.readerStarted.trans hstarted⟩
    rcases hgoes.openMutex with hkept | hown
    · exact hkept.trans hmutex
    · rw [hmutex, Option.some.injEq] at hown
      exact absurd hown hother
  · intro hnot
    rw [hgoes.reader]
    exact h.absent (hgoes.readerStarted.symm.trans hnot)

/-- A call that ends lets go of `openMutex_`, if it held it. -/
theorem openMutex_finishCall (reply : CallReply) :
    (s.finishCall t reply).openMutex = s.openMutex ∨ s.openMutex = some t := by
  by_cases hown : s.openMutex = some t
  · exact .inr hown
  · exact .inl (if_neg hown)

/-- The flag is set by the thread that goes on to start the reader. -/
theorem StartedOnce.openChannel (h : s.StartedOnce) {channel : BridgeChannel} {host : String}
    {port : UInt16} (hstep : s.openChannel t channel host port = some s') : s'.StartedOnce := by
  have hcases := s.connection.beginOpenChannel_cases channel host port
  simp only [BridgeLink.openChannel] at hstep
  split at hstep
  · cases hstep
  next hmutex =>
  rw [not_not] at hmutex
  -- `openMutex_` is free, so no thread is about to start the reader.
  have hnobody (t' : τ) : s.call t' ≠ .startingReader := by
    intro ht'
    have hheld := (h.starting t' ht').1
    rw [hmutex] at hheld
    cases hheld
  split at hstep
  next result hresult =>
    cases hstep
    constructor
    · intro t' ht'
      exact absurd (startingReader_of_update (by simp) ht').2 (hnobody t')
    · intro hnot
      rcases hcases with ⟨_, hstarted, _⟩ | ⟨_, hstarted, _⟩
      · exact h.absent (hstarted.symm.trans hnot)
      · exact absurd (hnot.symm.trans hstarted) Bool.false_ne_true
  next hresult =>
    cases hstep
    obtain ⟨_, _, hnone⟩ | ⟨_, hstarted, hnone⟩ := hcases
    · exact absurd hresult hnone
    constructor
    · intro t' ht'
      by_cases hsame : t' = t
      · exact ⟨by rw [hsame], h.absent (hnone.mp hresult), hstarted⟩
      · exact absurd ((Function.update_of_ne hsame _ _).symm.trans ht') (hnobody t')
    · intro hnot
      exact absurd (hnot.symm.trans hstarted) Bool.false_ne_true

/-- The reader is there, and no other thread is about to start one. -/
theorem StartedOnce.startReader (h : s.StartedOnce) (ht : s.call t = .startingReader)
    (exception : Option String) : (s.startReader t exception).StartedOnce := by
  obtain ⟨hmutex, habsent, hstarted⟩ := h.starting t ht
  have hnobody {stage : CallStage} (hstage : stage ≠ .startingReader) (t' : τ) :
      Function.update s.call t stage t' ≠ .startingReader := by
    intro ht'
    obtain ⟨hother, ht'⟩ := startingReader_of_update hstage ht'
    have hheld := (h.starting t' ht').1
    rw [hmutex, Option.some.injEq] at hheld
    exact hother hheld.symm
  cases exception with
  | some exception => exact h.goesOn ⟨⟨_, by simp, rfl⟩, .inl rfl, rfl, rfl⟩
  | none =>
      simp only [BridgeLink.startReader]
      split
      all_goals
        constructor
        · intro t' ht'
          exact absurd ht' (hnobody (by simp) t')
        · intro hnot
          exact absurd (hnot.symm.trans hstarted) Bool.false_ne_true

theorem StartedOnce.endHelloWait (h : s.StartedOnce) : (s.endHelloWait t).StartedOnce := by
  have hstarted : s.connection.endHelloWait.1.readerStarted = s.connection.readerStarted := by
    simp only [BridgeConnection.endHelloWait]
    split_ifs <;> rfl
  simp only [BridgeLink.endHelloWait]
  split
  · exact h.goesOn ⟨⟨_, by simp, rfl⟩, openMutex_finishCall _, rfl, hstarted⟩
  · exact h.goesOn ⟨⟨_, by simp, rfl⟩, .inl rfl, rfl, hstarted⟩

theorem StartedOnce.send (h : s.StartedOnce) (channel : BridgeChannel) (data : ByteSpan) :
    (s.send t channel data).StartedOnce := by
  simp only [BridgeLink.send]
  split
  · exact h.goesOn ⟨⟨_, by simp, rfl⟩, .inl rfl, rfl, rfl⟩
  split
  · exact h.goesOn ⟨⟨_, by simp, rfl⟩, .inl rfl, rfl, rfl⟩
  · exact h.goesOn ⟨⟨_, by simp, rfl⟩, .inl rfl, rfl, rfl⟩

theorem StartedOnce.shutDown (h : s.StartedOnce) (hstep : s.shutDown t = some s') :
    s'.StartedOnce := by
  simp only [BridgeLink.shutDown] at hstep
  split at hstep
  · cases hstep
    exact h.goesOn ⟨⟨_, by simp, rfl⟩, .inl rfl, rfl, rfl⟩
  · split at hstep
    · cases hstep
    · cases hstep
      exact h.goesOn ⟨⟨_, by simp, rfl⟩, .inl rfl, rfl, rfl⟩
  · split at hstep
    · cases hstep
    · cases hstep
      exact h.goesOn ⟨⟨_, by simp, rfl⟩, .inl rfl, rfl, rfl⟩
  next reply _ =>
    split at hstep
    · cases hstep
      exact h.goesOn ⟨⟨_, by simp, rfl⟩, openMutex_finishCall reply, rfl, rfl⟩
    · cases hstep
  · cases hstep

/-- Call by call. -/
theorem StartedOnce.callStep (h : s.StartedOnce) {event : CallEvent}
    (hstep : s.callStep t event = some s') : s'.StartedOnce := by
  simp only [BridgeLink.callStep] at hstep
  split at hstep
  next => exact h.openChannel hstep
  next ht =>
    cases hstep
    exact h.startReader ht _
  next =>
    cases hstep
    exact h.endHelloWait
  next =>
    cases hstep
    exact h.send _ _
  next =>
    cases hstep
    exact h.goesOn ⟨⟨_, by simp, rfl⟩, .inl rfl, rfl, rfl⟩
  next channel capacity hasBuffer timeoutMilliseconds _ _ =>
    cases hstep
    refine h.goesOn ⟨⟨_, by simp, rfl⟩, .inl rfl, rfl, ?_⟩
    exact s.connection.readerStarted_receive
  next =>
    cases hstep
    refine h.goesOn ⟨⟨_, ?_, rfl⟩, .inl rfl, rfl, s.connection.readerStarted_closeChannel⟩
    split <;> simp
  next =>
    cases hstep
    exact h.goesOn ⟨⟨_, by simp, rfl⟩, .inl rfl, rfl, rfl⟩
  next => exact h.shutDown hstep
  next => cases hstep

/-- A write does not start the reader. -/
theorem StartedOnce.writeStep (h : s.StartedOnce) {event : WriteEvent}
    (hstep : s.writeStep t event = some s') : s'.StartedOnce := by
  obtain ⟨hbeside, hcall⟩ := besideWriter_writeStep hstep
  simp only [besideWriter, Prod.mk.injEq] at hbeside
  obtain ⟨hconnection, hmutex, _, _, hreader, _⟩ := hbeside
  rcases hcall with hcall | hcall
  · exact h.congr hcall hmutex (by rw [hreader]) (by rw [hconnection])
  · exact h.goesOn ⟨hcall, .inl hmutex, hreader, by rw [hconnection]⟩

/-- One case for each party. -/
theorem StartedOnce.step (h : s.StartedOnce) {event : BridgeEvent τ}
    (hstep : s.step event = some s') : s'.StartedOnce := by
  cases event with
  | call t event => exact h.callStep hstep
  | writer t event => exact h.writeStep hstep
  | reader event => exact h.readerStep hstep
  | relay event => exact h.relayStep hstep

end BridgeLink

end Fidget
