import Fidget.Hardware.BridgeLink.Relayed

/-!
# What the reader routes

The relay is one thread and writes nothing after a failure, so the pipe to the connection holds its
hello and the datagrams that it accepted, the last of them perhaps in part. The reader recognises
the first of them and goes through them in order.

## Main results

- `RelayStage.Accepts`: what the relay has accepted and put into the pipe, by the place it is at.
- `ReaderStage.Handles`: what the reader has recognised and gone through.
- `Incoming`, `Incoming.step`: the invariant of this direction, which every event keeps.
-/

namespace Fidget

open FramedPipe BridgeFrameDecoder BridgeConnection

variable {τ : Type}

/-- The frame that the relay begins with. -/
def helloFrame : BridgeFrame := { channel := .hello, payload := [bridgeProtocolVersion] }

/-- The hello can be encoded. -/
theorem encodeBridgeHello_eq :
    ∃ hello, RelayStage.encodeBridgeHello = .ok hello ∧ hello.frame = helloFrame := by
  cases h : RelayStage.encodeBridgeHello with
  | ok hello => exact ⟨hello, rfl, frame_encodeFrame h⟩
  | error error =>
      simp only [RelayStage.encodeBridgeHello, encodeFrame] at h
      split at h
      · cases h
      next hfailed => exact absurd (by decide) hfailed

namespace RelayStage

/-- What the pipe holds of the hello and of the datagrams that were accepted. -/
def Accepts : RelayStage → Pipe UInt8 → List BridgeFrame → Prop
  | .starting, pipe, accepted => accepted = [] ∧ frameCode.Written pipe [] []
  | .writing frame offset _, pipe, accepted =>
    ∃ words, words ++ [frame.frame] = helloFrame :: accepted ∧
      frameCode.Written pipe words (frame.bytes.take offset)
  | .returned _, pipe, accepted =>
    ∃ words torn, words <+: helloFrame :: accepted ∧ frameCode.Written pipe words torn
  | _, pipe, accepted => frameCode.Written pipe (helloFrame :: accepted) []

variable {stage : RelayStage} {revents : RelayRevents} {pipe : Pipe UInt8}
  {accepted : List BridgeFrame}

/-- In any stage it holds some of them, and a part of the next. -/
theorem Accepts.written (h : stage.Accepts pipe accepted) :
    ∃ words torn, words <+: helloFrame :: accepted ∧ frameCode.Written pipe words torn := by
  cases stage with
  | starting => exact ⟨[], [], List.nil_prefix, h.2⟩
  | writing frame offset revents =>
      obtain ⟨words, hwords, hwritten⟩ := h
      exact ⟨words, _, ⟨_, hwords⟩, hwritten⟩
  | returned result => exact h
  | _ => exact ⟨_, _, List.prefix_rfl, h⟩

/-- A relay that has failed writes nothing more. -/
theorem Accepts.failure (h : stage.Accepts pipe accepted) (error : String) :
    (RelayStage.failure error).Accepts pipe accepted := h.written

/-- Reading does not change what was written. -/
theorem Accepts.take (h : stage.Accepts pipe accepted) (n : Nat) :
    stage.Accepts (pipe.take n) accepted := by
  cases stage with
  | starting => exact ⟨h.1, h.2.take n⟩
  | writing frame offset revents =>
      obtain ⟨words, hwords, hwritten⟩ := h
      exact ⟨words, hwords, hwritten.take n⟩
  | returned result =>
      obtain ⟨words, torn, hwords, hwritten⟩ := h
      exact ⟨words, torn, hwords, hwritten.take n⟩
  | _ => exact PrefixCode.Written.take h n

/-- Between two writes there are whole frames in the pipe. -/
theorem accepts_afterData (h : frameCode.Written pipe (helloFrame :: accepted) []) :
    (afterData revents).Accepts pipe accepted := by
  simp only [afterData]
  split
  · exact ⟨_, _, List.prefix_rfl, h⟩
  · exact h

theorem accepts_afterCommand (h : frameCode.Written pipe (helloFrame :: accepted) []) :
    (afterCommand revents).Accepts pipe accepted := by
  simp only [afterCommand, beginData]
  split
  · exact ⟨_, _, List.prefix_rfl, h⟩
  split
  · exact h
  · exact accepts_afterData h

theorem accepts_afterInput (h : frameCode.Written pipe (helloFrame :: accepted) []) :
    (afterInput revents).Accepts pipe accepted := by
  simp only [afterInput, beginCommand]
  split
  · exact ⟨_, _, List.prefix_rfl, h⟩
  split
  · exact h
  · exact accepts_afterCommand h

theorem accepts_beginInput (h : frameCode.Written pipe (helloFrame :: accepted) []) :
    (beginInput revents).Accepts pipe accepted := by
  simp only [beginInput]
  split
  · exact h
  · exact accepts_afterInput h

theorem accepts_afterEndpoint {channel : BridgeChannel}
    (h : frameCode.Written pipe (helloFrame :: accepted) []) :
    (afterEndpoint channel revents).Accepts pipe accepted := by
  simp only [afterEndpoint]
  split
  · exact accepts_afterCommand h
  · exact accepts_afterData h

theorem accepts_afterWriting {frame : EncodedFrame} {revents : Option RelayRevents}
    (h : frameCode.Written pipe (helloFrame :: accepted) []) :
    (afterWriting frame revents).Accepts pipe accepted := by
  cases revents with
  | none => exact h
  | some revents => exact accepts_afterEndpoint h

/-- Sending does not write to the pipe. -/
theorem accepts_sendInputFrames (frames : List BridgeFrame)
    (h : frameCode.Written pipe (helloFrame :: accepted) []) :
    (sendInputFrames revents frames).Accepts pipe accepted := by
  induction frames with
  | nil => exact accepts_afterInput h
  | cons frame frames ih =>
      rw [sendInputFrames]
      split
      · exact ih
      · exact h

/-- A datagram that was accepted is encoded, and its writing begins. -/
theorem accepts_writeReceived {channel : BridgeChannel} {datagram : Datagram} {isAccepted : Bool}
    (h : frameCode.Written pipe (helloFrame :: accepted) []) :
    (writeReceived channel datagram isAccepted revents).Accepts pipe
      (accepted ++ if isAccepted then [{ channel, payload := datagram }] else []) := by
  cases isAccepted with
  | false =>
      rw [if_neg (by decide), List.append_nil]
      exact accepts_afterEndpoint h
  | true =>
      simp only [writeReceived, Bool.not_true, Bool.false_eq_true, if_false, if_true]
      split
      · exact ⟨_, _, by rw [← List.cons_append]; exact List.prefix_append _ _, h⟩
      next frame hframe =>
        refine ⟨helloFrame :: accepted, ?_, h⟩
        rw [frame_encodeFrame hframe]
        rfl

end RelayStage

/-! ### Where the reader is in the frames that it recognised

The reader takes a chunk from the pipe, decodes it and goes through the frames one by one. A frame
is put into the queue of its channel, or dropped if the channel is not open; both count as handled.
-/

namespace ReaderStage

/-- These are the recognised frames without the hello, and the first of them that it has been
through. -/
def Handles : ReaderStage → List BridgeFrame → List BridgeFrame → Prop
  | .routing frames, recognised, handled => recognised = handled ++ withoutHello frames
  | .failing _, recognised, handled | .ended, recognised, handled
  | .finished, recognised, handled => handled <+: recognised
  | _, recognised, handled => handled = recognised

/-- The decoder has not failed, or there is an error that says why. -/
def Explains : ReaderStage → BridgeFrameDecoder → Prop
  | .failing error, _ => error ≠ ""
  | .ended, _ | .finished, _ => True
  | _, decoder => decoder.failed = false

variable {stage : ReaderStage} {recognised handled : List BridgeFrame}

/-- Frames are gone through in the order in which they were recognised. -/
theorem Handles.isPrefix (h : stage.Handles recognised handled) : handled <+: recognised := by
  cases stage with
  | routing frames => exact ⟨_, h.symm⟩
  | failing error => exact h
  | ended => exact h
  | finished => exact h
  | _ => exact h ▸ List.prefix_rfl

end ReaderStage

namespace BridgeLink

/-- The frames in the pipe, and what the reader has made of them. -/
structure Incoming (s : BridgeLink τ) : Prop where
  accepts : s.relay.stage.Accepts s.toConnection s.history.accepted
  transport : ∀ frame ∈ s.history.accepted, isTransportChannel frame.channel
  handles : ∃ frames, Recognised s.reader.decoder s.toConnection.taken frames ∧
    s.reader.stage.Handles (withoutHello frames) s.history.handled
  explains : s.reader.stage.Explains s.reader.decoder

/-- At first the pipe is empty. -/
theorem incoming_initial (readDescriptor writeDescriptor handshakeTimeout : Int)
    (queueCapacity : Nat) :
    (initial readDescriptor writeDescriptor handshakeTimeout queueCapacity : BridgeLink τ).Incoming where
  accepts := ⟨rfl, PrefixCode.written_empty⟩
  transport := by simp [initial]
  handles := ⟨[], recognised_nothing, rfl⟩
  explains := rfl

variable {s s' : BridgeLink τ}

/-- What the reader recognised are the first of the datagrams that the relay accepted. -/
theorem Incoming.recognised_isPrefix (h : s.Incoming) {frames : List BridgeFrame}
    (hframes : Recognised s.reader.decoder s.toConnection.taken frames) :
    withoutHello frames <+: s.history.accepted := by
  obtain ⟨words, torn, hwords, hwritten⟩ := h.accepts.written
  have hbegins : withoutHello frames <+: withoutHello (helloFrame :: s.history.accepted) :=
    ((hframes.prefix_of_written hwritten).trans hwords).filter _
  have haccepted : withoutHello (helloFrame :: s.history.accepted) = s.history.accepted := by
    rw [withoutHello, List.filter_cons_of_neg (by simp [helloFrame]), List.filter_eq_self]
    intro frame hmem
    have htransport := h.transport frame hmem
    cases hchannel : frame.channel <;> simp_all [isTransportChannel]
  rwa [haccepted] at hbegins

/-- So what the reader has gone through was accepted before, in that order. -/
theorem Incoming.handled_isPrefix (h : s.Incoming) : s.history.handled <+: s.history.accepted := by
  obtain ⟨frames, hrecognised, hhandles⟩ := h.handles
  exact hhandles.isPrefix.trans (h.recognised_isPrefix hrecognised)

/-! ### Steps that have nothing to do with it

Callers and the writing side of the connection leave `incomingParts` alone. -/

/-- The part of the state that `Incoming` speaks of. -/
def incomingParts (s : BridgeLink τ) :=
  (s.relay.stage, s.toConnection, s.history.accepted, s.history.handled, s.reader)

/-- A step that leaves those parts alone keeps the invariant. -/
theorem Incoming.congr (h : s.Incoming) (hparts : s'.incomingParts = s.incomingParts) :
    s'.Incoming := by
  simp only [incomingParts, Prod.mk.injEq] at hparts
  obtain ⟨hrelay, htoConnection, haccepted, hhandled, hreader⟩ := hparts
  constructor
  · rw [hrelay, htoConnection, haccepted]
    exact h.accepts
  · rw [haccepted]
    exact h.transport
  · rw [hreader, htoConnection, hhandled]
    exact h.handles
  · rw [hreader]
    exact h.explains

/-! ### The relay

What the relay accepts it encodes and puts into the pipe, in as many parts as the pipe takes. A
failure in between leaves a part of the frame at the end, and nothing comes behind it. -/

theorem Incoming.setRelay (h : s.Incoming) {stage : RelayStage}
    (hstage : stage.Accepts s.toConnection s.history.accepted) : (s.setRelay stage).Incoming :=
  ⟨hstage, h.transport, h.handles, h.explains⟩

theorem Incoming.relayFail (h : s.Incoming) (error : String) :
    (s.setRelay (.failure error)).Incoming :=
  h.setRelay (h.accepts.failure error)

/-- What is put into the pipe is not read yet. -/
theorem Incoming.relayPut (h : s.Incoming) {stage : RelayStage} {bytes : List UInt8}
    (hstage : stage.Accepts (s.toConnection.put bytes) s.history.accepted) :
    ({ s with toConnection := s.toConnection.put bytes }.setRelay stage).Incoming :=
  ⟨hstage, h.transport, h.handles, h.explains⟩

/-- Bytes of the frame go in; the last of them makes it whole. -/
theorem Incoming.relayWrite (h : s.Incoming) {frame : EncodedFrame} {offset : Nat}
    {revents : Option RelayRevents} (hstage : s.relay.stage = .writing frame offset revents)
    {outcome : WriteOutcome} (hstep : s.relayWrite frame offset revents outcome = some s') :
    s'.Incoming := by
  have haccepts := h.accepts
  rw [hstage] at haccepts
  obtain ⟨words, hwords, hwritten⟩ := haccepts
  rw [frame.bytes_eq] at hwritten
  cases outcome with
  | failed error =>
      cases hstep
      exact h.relayFail _
  | wrote n =>
      simp only [BridgeLink.relayWrite] at hstep
      split at hstep
      · cases hstep
        exact h.relayFail _
      split at hstep
      -- a part of the frame
      next hn =>
        cases hstep
        apply h.relayPut
        rw [frame.bytes_eq] at hn ⊢
        refine ⟨words, hwords, ?_⟩
        rw [frame.bytes_eq]
        exact hwritten.put frame.encodable hn
      split at hstep
      -- all that was left of it
      next hn =>
        cases hstep
        apply h.relayPut
        rw [frame.bytes_eq] at hn ⊢
        have hcomplete := hwritten.complete frame.encodable hn
        rw [hwords] at hcomplete
        exact RelayStage.accepts_afterWriting hcomplete
      · cases hstep

/-- A datagram is accepted with the frame that it will be written as. -/
theorem Incoming.relayReceive (h : s.Incoming) {channel : BridgeChannel} {revents : RelayRevents}
    (hchannel : isTransportChannel channel)
    (hwritten : frameCode.Written s.toConnection (helloFrame :: s.history.accepted) [])
    (outcome : ReceiveOutcome) : (s.relayReceive channel revents outcome).Incoming := by
  cases outcome with
  | failed error => exact h.relayFail _
  | received datagram accepted =>
      refine ⟨RelayStage.accepts_writeReceived hwritten, ?_, h.handles, h.explains⟩
      intro frame hmem
      rcases List.mem_append.mp hmem with hmem | hmem
      · exact h.transport frame hmem
      · cases accepted with
        | false => simp at hmem
        | true =>
            rw [if_pos rfl, List.mem_singleton] at hmem
            rw [hmem]
            exact hchannel

/-- What the relay reads comes the other way. -/
theorem Incoming.relayRead (h : s.Incoming) {revents : RelayRevents}
    (hwritten : frameCode.Written s.toConnection (helloFrame :: s.history.accepted) [])
    {outcome : ReadOutcome} (hstep : s.relayRead revents outcome = some s') : s'.Incoming := by
  cases outcome with
  | failed error =>
      cases hstep
      exact h.relayFail _
  | read n =>
      simp only [BridgeLink.relayRead] at hstep
      split at hstep
      · cases hstep
        exact h.setRelay h.accepts.written
      split at hstep
      · cases hstep
        refine ⟨?_, h.transport, h.handles, h.explains⟩
        simp only
        split
        · exact RelayStage.accepts_sendInputFrames _ hwritten
        · exact h.accepts.failure _
      · cases hstep

theorem Incoming.relaySend (h : s.Incoming) {frame : BridgeFrame} {frames : List BridgeFrame}
    {revents : RelayRevents}
    (hwritten : frameCode.Written s.toConnection (helloFrame :: s.history.accepted) [])
    (outcome : SendOutcome) : (s.relaySend frame frames revents outcome).Incoming := by
  cases outcome with
  | failed error => exact h.relayFail _
  | short => exact h.relayFail _
  | sent =>
      exact ⟨RelayStage.accepts_sendInputFrames _ hwritten, h.transport, h.handles, h.explains⟩

/-- Place by place. -/
theorem Incoming.relayStep (h : s.Incoming) {event : RelayEvent}
    (hstep : s.relayStep event = some s') : s'.Incoming := by
  have haccepts := h.accepts
  simp only [BridgeLink.relayStep] at hstep
  split at hstep
  -- the hello is about to be written, if the arguments are in order
  next hstage =>
    cases hstep
    rw [hstage] at haccepts
    obtain ⟨hnone, hwritten⟩ := haccepts
    apply h.setRelay
    have hfailure (error : String) :
        (RelayStage.failure error).Accepts s.toConnection s.history.accepted :=
      ⟨[], [], List.nil_prefix, hwritten⟩
    simp only [RelayStage.start]
    split_ifs
    iterate 4 exact hfailure _
    obtain ⟨hello, hencode, hframe⟩ := encodeBridgeHello_eq
    rw [hencode]
    refine ⟨[], ?_, hwritten⟩
    rw [hframe, hnone]
    rfl
  next hstage => exact h.relayWrite hstage hstep
  next =>
    cases hstep
    -- an endpoint that cannot be opened
    exact h.relayFail _
  next =>
    cases hstep
    exact h.relayFail _
  next hstage =>
    cases hstep
    rw [hstage] at haccepts
    -- the endpoints are opened one after the other
    exact h.setRelay haccepts
  next hstage =>
    cases hstep
    rw [hstage] at haccepts
    exact h.setRelay haccepts
  next =>
    cases hstep
    -- the wait fails
    exact h.relayFail _
  next hstage =>
    cases hstep
    rw [hstage] at haccepts
    -- what is ready is handled, the input first
    exact h.setRelay (RelayStage.accepts_beginInput haccepts)
  next hstage =>
    rw [hstage] at haccepts
    exact h.relayRead haccepts hstep
  next hstage =>
    cases hstep
    rw [hstage] at haccepts
    -- what is sent goes the other way
    exact h.relaySend haccepts _
  next hstage =>
    cases hstep
    rw [hstage] at haccepts
    -- a datagram that is received is accepted together with its frame
    exact h.relayReceive rfl haccepts _
  next hstage =>
    cases hstep
    rw [hstage] at haccepts
    exact h.relayReceive rfl haccepts _
  next => cases hstep

/-! ### The reader

One lemma for each place in its loop. A frame for which the queue is full ends the connection, and
is not handled. -/

/-- Going through frames stops only at a queue that is full. -/
theorem handled_routeFrames (history : BridgeHistory) (c : BridgeConnection)
    (frames : List BridgeFrame) :
    (history.routeFrames c frames).handled <+: history.handled ++ withoutHello frames ∧
      ((c.routeFrames frames).2 = true →
        (history.routeFrames c frames).handled = history.handled ++ withoutHello frames) := by
  induction frames generalizing history c with
  | nil => simp [BridgeHistory.routeFrames, withoutHello]
  | cons frame frames ih =>
      rw [BridgeHistory.routeFrames, BridgeConnection.routeFrames]
      split
      next hfull => exact ⟨List.prefix_append _ _, fun hcomplete => by cases hcomplete⟩
      next hfull =>
        have hone : history.handled ++ withoutHello (frame :: frames) =
            (history.routeFrame c frame).handled ++ withoutHello frames := by
          simp only [BridgeHistory.routeFrame, frameRoute] at hfull ⊢
          by_cases hhello : frame.channel = .hello
          · simp [withoutHello, hhello]
          · rw [if_neg hhello] at hfull ⊢
            split_ifs at hfull ⊢
            · simp [withoutHello, hhello]
            · exact absurd rfl hfull
            · simp [withoutHello, hhello, BridgeHistory.setChannel]
        rw [hone]
        exact ih _ _

/-- The reader may go on to a place that has gone through as much. -/
theorem Incoming.setReader (h : s.Incoming) {stage : ReaderStage}
    (hhandles : ∀ recognised, s.reader.stage.Handles recognised s.history.handled →
      stage.Handles recognised s.history.handled)
    (hexplains : stage.Explains s.reader.decoder) : (s.setReader stage).Incoming where
  accepts := h.accepts
  transport := h.transport
  handles := by
    obtain ⟨frames, hrecognised, hframes⟩ := h.handles
    exact ⟨frames, hrecognised, hhandles _ hframes⟩
  explains := hexplains

/-- The reader ends, with an error or without. -/
theorem Incoming.endReader (h : s.Incoming) {stage : ReaderStage}
    (hstage : ∀ recognised, stage.Handles recognised s.history.handled ↔
      s.history.handled <+: recognised)
    (hexplains : stage.Explains s.reader.decoder) : (s.setReader stage).Incoming :=
  h.setReader (fun recognised hframes => (hstage recognised).mpr hframes.isPrefix) hexplains

/-- The reader may end. -/
theorem Incoming.finishReader (h : s.Incoming) : (s.setReader .finished).Incoming :=
  h.endReader (fun _ => Iff.rfl) trivial

/-- What the reader reads it recognises in the order it was written. -/
theorem Incoming.readerRead (h : s.Incoming) (hstage : s.reader.stage = .reading)
    {outcome : ReadOutcome} (hstep : s.readerRead outcome = some s') : s'.Incoming := by
  cases outcome with
  | failed error =>
      cases hstep
      exact h.endReader (fun _ => Iff.rfl) (by simp [ReaderStage.Explains])
  | read n =>
      simp only [BridgeLink.readerRead] at hstep
      split at hstep
      · -- the end of the stream
        cases hstep
        exact h.endReader (fun _ => Iff.rfl) trivial
      split at hstep
      · cases hstep
        -- some bytes, which may complete frames
        obtain ⟨frames, hrecognised, hhandles⟩ := h.handles
        have hfailed := h.explains
        rw [hstage] at hhandles hfailed
        have hall : s.history.handled = withoutHello frames := hhandles
        have houtcome := consume_outcome hfailed (s.toConnection.waiting.take n)
        refine ⟨h.accepts.take n, h.transport, ⟨_, hrecognised.consume _, ?_⟩, ?_⟩
        · rw [withoutHello_append, ← hall]
          simp only
          split
          · rfl
          · exact List.prefix_append _ _
        · simp only
          split
          -- the decoder goes on with what it has recognised
          next hsuccess =>
            rcases houtcome with ⟨_, hdecoder⟩ | ⟨hnot, _⟩
            · exact hdecoder
            · rw [hsuccess] at hnot
              cases hnot
          -- it has failed, and says why
          next hsuccess =>
            rcases houtcome with ⟨hnot, _⟩ | ⟨_, herror⟩
            · exact absurd hnot hsuccess
            · exact herror
      · cases hstep

/-- Place by place. -/
theorem Incoming.readerStep (h : s.Incoming) {event : ReaderEvent}
    (hstep : s.readerStep event = some s') : s'.Incoming := by
  simp only [BridgeLink.readerStep] at hstep
  split at hstep
  -- the check for the end
  next hstage =>
    have hfailed := h.explains
    rw [hstage] at hfailed
    cases hstep
    split
    · exact h.endReader (fun _ => Iff.rfl) trivial
    · exact h.setReader (by rw [hstage]; exact fun _ => id) hfailed
  -- the answer of the wait
  next outcome hstage =>
    have hfailed := h.explains
    rw [hstage] at hfailed
    cases outcome with
    | failed error =>
        cases hstep
        exact h.endReader (fun _ => Iff.rfl) (by simp [ReaderStage.Explains])
    | invalid =>
        cases hstep
        exact h.endReader (fun _ => Iff.rfl) (by simp [ReaderStage.Explains])
    | _ =>
        cases hstep
        exact h.setReader (by rw [hstage]; exact fun _ => id) hfailed
  next outcome hstage => exact h.readerRead hstage hstep
  -- the frames are gone through, up to one whose queue is full
  next frames hstage =>
    cases hstep
    obtain ⟨recognised, hrecognised, hhandles⟩ := h.handles
    have hfailed := h.explains
    rw [hstage] at hhandles hfailed
    have hall : withoutHello recognised = s.history.handled ++ withoutHello frames := hhandles
    obtain ⟨hbegins, hcomplete⟩ := handled_routeFrames s.history s.connection frames
    obtain ⟨_, _, _, _, haccepted⟩ := frames_routeFrames s.history s.connection frames
    rw [← hall] at hbegins hcomplete
    refine ⟨haccepted ▸ h.accepts, haccepted ▸ h.transport, ⟨recognised, hrecognised, ?_⟩, ?_⟩
    all_goals
      simp only [BridgeLink.setReader]
      split
    · exact hcomplete ‹_›
    · exact hbegins
    · exact hfailed
    · trivial
  next error hstage =>
    cases hstep
    exact h.finishReader.congr rfl
  next hstage =>
    cases hstep
    exact h.finishReader.congr rfl
  next => cases hstep

/-! ### One step -/

variable [DecidableEq τ]

/-- What the connection writes goes the other way. -/
theorem Incoming.writeStep (h : s.Incoming) {t : τ} {event : WriteEvent}
    (hstep : s.writeStep t event = some s') : s'.Incoming := by
  have hbeside := (besideWriter_writeStep hstep).1
  simp only [besideWriter, Prod.mk.injEq] at hbeside
  exact h.congr (by simp only [incomingParts, hbeside])

/-- Only the thread that starts the reader touches it. -/
theorem Incoming.callStep (h : s.Incoming) (hstarted : s.StartedOnce) {t : τ} {event : CallEvent}
    (hstep : s.callStep t event = some s') : s'.Incoming := by
  rcases besideCallers_callStep hstep with hbeside | ⟨ht, hbeside⟩
  · simp only [besideCallers, Prod.mk.injEq] at hbeside
    exact h.congr (by simp only [incomingParts, hbeside])
  · have habsent := (hstarted.starting t ht).2.1
    have hfailed := h.explains
    rw [habsent] at hfailed
    have hset : (s.setReader .checking).Incoming :=
      h.setReader (by rw [habsent]; exact fun _ => id) hfailed
    simp only [besideCallers, Prod.mk.injEq] at hbeside
    exact hset.congr (by simp only [incomingParts, hbeside])

/-- One case for each party. -/
theorem Incoming.step (h : s.Incoming) (hstarted : s.StartedOnce) {event : BridgeEvent τ}
    (hstep : s.step event = some s') : s'.Incoming := by
  cases event with
  | call t event => exact h.callStep hstarted hstep
  | writer t event => exact h.writeStep hstep
  | reader event => exact h.readerStep hstep
  | relay event => exact h.relayStep hstep

end BridgeLink

end Fidget
