import Fidget.Hardware.BridgeLink.Calls

/-!
# What the relay sends

The frames that were written whole lie one behind the other in the pipe, and what lies behind them
is a part of the frame that is being written. That fails when a frame is written behind one of which
only a part was, so as long as that does not happen the relay recognises the first of the frames
that were written, and sends their payloads.

## Main results

- `RelayStage.Relays`: what the relay has recognised and what it has sent, by the place it is at.
- `Outgoing`: the invariant of this direction.
- `Outgoing.step`: every event keeps it that does not write behind a part of a frame.
-/

namespace Fidget

open FramedPipe BridgeFrameDecoder BridgeConnection

variable {τ : Type}

/-! ### Frames and datagrams

The frames of the pipe are those of two channels and the hello. What the relay forwards are the
payloads of each channel, in order. -/

/-- The datagrams of a channel. -/
def payloads (channel : BridgeChannel) (frames : List BridgeFrame) : List Datagram :=
  (frames.filter (·.channel = channel)).map (·.payload)

/-- The datagrams among the frames. -/
def withoutHello (frames : List BridgeFrame) : List BridgeFrame :=
  frames.filter (·.channel ≠ .hello)

section Payloads

variable {channel : BridgeChannel} {frame : BridgeFrame} {frames frames' : List BridgeFrame}

@[simp] theorem payloads_nil : payloads channel [] = [] := rfl

/-- The payloads of two lists of frames. -/
@[simp] theorem payloads_append :
    payloads channel (frames ++ frames') = payloads channel frames ++ payloads channel frames' := by
  simp [payloads]

theorem payloads_singleton_self : payloads frame.channel [frame] = [frame.payload] := by
  simp [payloads]

theorem payloads_singleton_other (h : frame.channel ≠ channel) : payloads channel [frame] = [] := by
  simp [payloads, h]

/-- Fewer frames, fewer payloads. -/
theorem payloads_isPrefix (h : frames <+: frames') :
    payloads channel frames <+: payloads channel frames' :=
  (h.filter _).map _

@[simp] theorem withoutHello_append :
    withoutHello (frames ++ frames') = withoutHello frames ++ withoutHello frames' := by
  simp [withoutHello]

/-- A hello is on neither of the two channels. -/
theorem payloads_withoutHello (h : isTransportChannel channel) :
    payloads channel (withoutHello frames) = payloads channel frames := by
  have hchannel : channel ≠ .hello := by
    rintro rfl
    cases h
  simp only [payloads, withoutHello, List.filter_filter]
  congr 1
  apply List.filter_congr
  intro frame _
  grind

end Payloads

/-! ### Where the relay is in the frames that it recognised

The relay reads a chunk, decodes it, and sends the payloads one by one. At each place in this loop
some of the recognised frames have been sent and the others are held. -/

namespace RelayStage

/-- These are the recognised frames without the hello, and the first of them that were sent. -/
def Relays : RelayStage → List BridgeFrame → List BridgeFrame → Prop
  | .sending frame frames _, recognised, relayed =>
    recognised = relayed ++ frame :: withoutHello frames
  | .returned _, recognised, relayed => relayed <+: recognised
  | _, recognised, relayed => relayed = recognised

variable {revents : RelayRevents} {recognised relayed : List BridgeFrame}

/-- A relay that has failed sends nothing more. -/
theorem relays_failure {stage : RelayStage} (h : stage.Relays recognised relayed) (error : String) :
    (failure error).Relays recognised relayed := by
  cases stage with
  | sending frame frames revents =>
      simp only [Relays] at h
      exact ⟨_, h.symm⟩
  | returned result => exact h
  | _ => exact h ▸ List.prefix_rfl

/-- Between two reads everything recognised has been sent. -/
theorem relays_afterInput : (afterInput revents).Relays recognised recognised := by
  simp only [afterInput, beginCommand, afterCommand, beginData, afterData]
  split_ifs <;> simp [Relays, failure]

theorem relays_beginInput : (beginInput revents).Relays recognised recognised := by
  simp only [beginInput]
  split
  · rfl
  · exact relays_afterInput

theorem relays_afterEndpoint {channel : BridgeChannel} :
    (afterEndpoint channel revents).Relays recognised recognised := by
  simp only [afterEndpoint, afterCommand, beginData, afterData]
  split_ifs <;> simp [Relays, failure]

theorem relays_afterWriting {frame : EncodedFrame} {revents : Option RelayRevents} :
    (afterWriting frame revents).Relays recognised recognised := by
  cases revents with
  | none => rfl
  | some revents => exact relays_afterEndpoint

theorem relays_writeReceived {channel : BridgeChannel} {datagram : Datagram} {accepted : Bool} :
    (writeReceived channel datagram accepted revents).Relays recognised recognised := by
  simp only [writeReceived]
  split
  · exact relays_afterEndpoint
  split
  · exact List.prefix_rfl
  · rfl

/-- At the start nothing has been recognised. -/
theorem relays_start {host : String} {port : UInt16} {input output : Int} :
    (start host port input output).Relays recognised recognised := by
  simp only [start]
  split_ifs
  iterate 4 exact List.prefix_rfl
  split
  · exact List.prefix_rfl
  · rfl

/-- The frames that were read are sent one by one. -/
theorem relays_sendInputFrames (frames : List BridgeFrame) :
    (sendInputFrames revents frames).Relays (relayed ++ withoutHello frames) relayed := by
  induction frames with
  | nil =>
      rw [withoutHello, List.filter_nil, List.append_nil]
      exact relays_afterInput
  | cons frame frames ih =>
      rw [sendInputFrames]
      split
      next hhello =>
        have hskip : withoutHello (frame :: frames) = withoutHello frames := by
          simp [withoutHello, hhello]
        rw [hskip]
        exact ih
      next hhello =>
        show relayed ++ withoutHello (frame :: frames) = relayed ++ frame :: withoutHello frames
        simp [withoutHello, hhello]

end RelayStage

namespace BridgeLink

/-! ### What was written

The invariant. The pipe holds whole frames and perhaps a part of the one that is being written, and
what the relay has recognised of them is a first part. A frame behind a broken one is what the
invariant excludes. -/

/-- The frame that is being written. -/
def current (s : BridgeLink τ) : List BridgeFrame :=
  match s.writer with
  | some w => [w.frame.frame]
  | none => []

/-- What `WriteFrame` is about to write lies behind what an earlier failure left: a part of a frame,
or a gap in the datagrams of the channel. -/
def Behind (failedWrites : List FailedWrite) (frame : BridgeFrame) : Prop :=
  ∃ failed ∈ failedWrites, failed.transferred ≠ 0 ∨ failed.frame.channel = frame.channel

instance (failedWrites : List FailedWrite) (frame : BridgeFrame) :
    Decidable (Behind failedWrites frame) :=
  inferInstanceAs (Decidable (∃ failed ∈ failedWrites, _ ∨ _))

/-- The frames in the pipe, the frame that is being written, and what the relay has made of them. -/
structure Outgoing (s : BridgeLink τ) : Prop where
  writing : ∀ w ∈ s.writer,
    frameCode.Written s.toRelay s.history.written (w.frame.bytes.take w.offset) ∧
      ¬Behind s.history.failedWrites w.frame.frame
  /-- If no failure left a part of a frame, there is none between two calls. -/
  idle : s.writer = none → ∃ torn, frameCode.Written s.toRelay s.history.written torn ∧
    ((∀ failed ∈ s.history.failedWrites, failed.transferred = 0) → torn = [])
  passed : ∀ channel, payloads channel s.history.written <+: payloads channel s.history.passed ∧
    ((∀ failed ∈ s.history.failedWrites, failed.frame.channel ≠ channel) →
      payloads channel s.history.passed = payloads channel (s.history.written ++ s.current))
  relayed : ∃ frames, Recognised s.relay.decoder s.toRelay.taken frames ∧
    s.relay.stage.Relays (withoutHello frames) s.history.relayed

/-- The datagrams that were sent are the first of those that `Send` had written. -/
theorem Outgoing.relayed_isPrefix {s : BridgeLink τ} (h : s.Outgoing) {channel : BridgeChannel}
    (hchannel : isTransportChannel channel) :
    payloads channel s.history.relayed <+: payloads channel s.history.passed := by
  obtain ⟨frames, hrecognised, hrelays⟩ := h.relayed
  -- what the relay has sent is the beginning of what it recognised
  have hsent : s.history.relayed <+: withoutHello frames := by
    cases hstage : s.relay.stage with
    | sending frame frames revents =>
        rw [hstage] at hrelays
        exact ⟨_, hrelays.symm⟩
    | returned result => rwa [hstage] at hrelays
    | _ =>
        rw [hstage] at hrelays
        rw [hrelays]
  -- between two writes nothing of a frame is torn, within one a part is
  have hwritten : ∃ torn, frameCode.Written s.toRelay s.history.written torn := by
    cases hwriter : s.writer with
    | some w => exact ⟨_, (h.writing w hwriter).1⟩
    | none =>
        obtain ⟨torn, hwritten, _⟩ := h.idle hwriter
        exact ⟨torn, hwritten⟩
  obtain ⟨torn, hwritten⟩ := hwritten
  calc payloads channel s.history.relayed
      <+: payloads channel (withoutHello frames) := payloads_isPrefix hsent
    _ = payloads channel frames := payloads_withoutHello hchannel
    _ <+: payloads channel s.history.written :=
      payloads_isPrefix (hrecognised.prefix_of_written hwritten)
    _ <+: payloads channel s.history.passed := (h.passed channel).1

/-- At first the pipe is empty. -/
theorem outgoing_initial (readDescriptor writeDescriptor handshakeTimeout : Int)
    (queueCapacity : Nat) :
    (initial readDescriptor writeDescriptor handshakeTimeout queueCapacity : BridgeLink τ).Outgoing where
  writing := by simp [initial]
  idle _ := ⟨[], PrefixCode.written_empty, fun _ => rfl⟩
  passed _ := ⟨List.prefix_rfl, fun _ => rfl⟩
  relayed := ⟨[], recognised_nothing, rfl⟩

/-! ### Steps that have nothing to do with it

The reader and the callers work on other fields of the state. A step that leaves `outgoingParts`
alone keeps the invariant. -/

/-- The part of the state that `Outgoing` speaks of. -/
def outgoingParts (s : BridgeLink τ) :=
  (s.writer, s.toRelay, s.relay, s.history.passed, s.history.written, s.history.failedWrites,
    s.history.relayed)

/-- A step that leaves those parts alone keeps the invariant. -/
theorem Outgoing.congr {s s' : BridgeLink τ} (h : s.Outgoing)
    (hparts : s'.outgoingParts = s.outgoingParts) : s'.Outgoing := by
  simp only [outgoingParts, Prod.mk.injEq] at hparts
  obtain ⟨hwriter, htoRelay, hrelay, hpassed, hwritten, hfailed, hrelayed⟩ := hparts
  have hcurrent : s'.current = s.current := by rw [current, current, hwriter]
  constructor
  · rw [hwriter, htoRelay, hwritten, hfailed]
    exact h.writing
  · rw [hwriter, htoRelay, hwritten, hfailed]
    exact h.idle
  · rw [hwritten, hpassed, hfailed, hcurrent]
    exact h.passed
  · rw [hrelay, htoRelay, hrelayed]
    exact h.relayed

variable {s s' : BridgeLink τ}

/-- Routing is noted in other fields of the history. -/
theorem frames_routeFrame (history : BridgeHistory) (c : BridgeConnection) (frame : BridgeFrame) :
    (history.routeFrame c frame).passed = history.passed ∧
      (history.routeFrame c frame).written = history.written ∧
      (history.routeFrame c frame).failedWrites = history.failedWrites ∧
      (history.routeFrame c frame).relayed = history.relayed ∧
      (history.routeFrame c frame).accepted = history.accepted := by
  simp only [BridgeHistory.routeFrame]
  split <;> exact ⟨rfl, rfl, rfl, rfl, rfl⟩

/-- Routing notes only what it did. -/
theorem frames_routeFrames (history : BridgeHistory) (c : BridgeConnection)
    (frames : List BridgeFrame) :
    (history.routeFrames c frames).passed = history.passed ∧
      (history.routeFrames c frames).written = history.written ∧
      (history.routeFrames c frames).failedWrites = history.failedWrites ∧
      (history.routeFrames c frames).relayed = history.relayed ∧
      (history.routeFrames c frames).accepted = history.accepted := by
  induction frames generalizing history c with
  | nil => exact ⟨rfl, rfl, rfl, rfl, rfl⟩
  | cons frame frames ih =>
      rw [BridgeHistory.routeFrames]
      split
      · exact ⟨rfl, rfl, rfl, rfl, rfl⟩
      · obtain ⟨hpassed, hwritten, hfailed, hrelayed, haccepted⟩ := frames_routeFrame history c frame
        rw [← hpassed, ← hwritten, ← hfailed, ← hrelayed, ← haccepted]
        exact ih _ _

theorem outgoingParts_readerRead {outcome : ReadOutcome} (h : s.readerRead outcome = some s') :
    s'.outgoingParts = s.outgoingParts := by
  cases outcome with
  | failed error =>
      cases h
      rfl
  | read n =>
      simp only [readerRead] at h
      split at h
      · cases h
        rfl
      split at h
      · cases h
        rfl
      · cases h

/-- The reader of the connection is on the other side. -/
theorem outgoingParts_readerStep {event : ReaderEvent} (h : s.readerStep event = some s') :
    s'.outgoingParts = s.outgoingParts := by
  simp only [readerStep] at h
  split at h
  · cases h
    rfl
  · split at h
    all_goals
      cases h
      rfl
  · exact outgoingParts_readerRead h
  next frames _ =>
    obtain ⟨hpassed, hwritten, hfailed, hrelayed, _⟩ :=
      frames_routeFrames s.history s.connection frames
    cases h
    simp only [outgoingParts, hpassed, hwritten, hfailed, hrelayed]
    rfl
  · cases h
    rfl
  · cases h
    rfl
  · cases h

/-! ### The relay

One lemma for each place in its loop. -/

/-- The relay may go on to a place that has sent as much. -/
theorem Outgoing.setRelay (h : s.Outgoing) {stage : RelayStage}
    (hstage : ∀ recognised, s.relay.stage.Relays recognised s.history.relayed →
      stage.Relays recognised s.history.relayed) : (s.setRelay stage).Outgoing where
  writing := h.writing
  idle := h.idle
  passed := h.passed
  relayed := by
    obtain ⟨frames, hrecognised, hrelays⟩ := h.relayed
    exact ⟨frames, hrecognised, hstage _ hrelays⟩

/-- The relay may fail. -/
theorem Outgoing.fail (h : s.Outgoing) (error : String) :
    (s.setRelay (.failure error)).Outgoing :=
  h.setRelay fun _ hrelays => RelayStage.relays_failure hrelays error

/-- What the relay reads it recognises in the order it was written. -/
theorem Outgoing.relayRead (h : s.Outgoing) {revents : RelayRevents}
    (hstage : s.relay.stage = .readingInput revents) {outcome : ReadOutcome}
    (hstep : s.relayRead revents outcome = some s') : s'.Outgoing := by
  cases outcome with
  | failed error =>
      cases hstep
      exact h.fail _
  | read n =>
      simp only [BridgeLink.relayRead] at hstep
      split at hstep
      · cases hstep
        -- the end of the stream: all that was recognised has been sent
        apply h.setRelay
        intro recognised hrelays
        rw [hstage] at hrelays
        exact hrelays ▸ List.prefix_rfl
      split at hstep
      · cases hstep
        -- more frames are recognised, and their payloads are about to be sent
        obtain ⟨frames, hrecognised, hrelays⟩ := h.relayed
        rw [hstage] at hrelays
        constructor
        · intro w hw
          obtain ⟨hwritten, hbehind⟩ := h.writing w hw
          exact ⟨hwritten.take n, hbehind⟩
        · intro hwriter
          obtain ⟨torn, hwritten, htorn⟩ := h.idle hwriter
          exact ⟨torn, hwritten.take n, htorn⟩
        · exact h.passed
        · refine ⟨_, hrecognised.consume _, ?_⟩
          rw [withoutHello_append]
          simp only
          split
          · rw [← show s.history.relayed = withoutHello frames from hrelays]
            exact RelayStage.relays_sendInputFrames _
          · show s.history.relayed <+: _
            rw [show s.history.relayed = withoutHello frames from hrelays]
            exact List.prefix_append _ _
      · cases hstep

/-- A payload is sent, and the next one is due. -/
theorem Outgoing.relaySend (h : s.Outgoing) {frame : BridgeFrame} {frames : List BridgeFrame}
    {revents : RelayRevents} (hstage : s.relay.stage = .sending frame frames revents)
    (outcome : SendOutcome) : (s.relaySend frame frames revents outcome).Outgoing := by
  cases outcome with
  | failed error => exact h.fail _
  | short => exact h.fail _
  | sent =>
      obtain ⟨recognised, hrecognised, hrelays⟩ := h.relayed
      rw [hstage] at hrelays
      refine ⟨h.writing, h.idle, h.passed, recognised, hrecognised, ?_⟩
      rw [show withoutHello recognised = (s.history.relayed ++ [frame]) ++ withoutHello frames by
        rw [List.append_assoc]; exact hrelays]
      exact RelayStage.relays_sendInputFrames _

/-- From a stage that is not in `SendInputFrames` to another. -/
theorem Outgoing.goOn (h : s.Outgoing) {stage : RelayStage}
    (hfrom : ∀ recognised, s.relay.stage.Relays recognised s.history.relayed →
      s.history.relayed = recognised)
    (hto : ∀ recognised, stage.Relays recognised recognised) : (s.setRelay stage).Outgoing := by
  apply h.setRelay
  intro recognised hrelays
  rw [hfrom recognised hrelays]
  exact hto recognised

/-- What the relay writes goes the other way. -/
theorem Outgoing.relayWrite (h : s.Outgoing) {frame : EncodedFrame} {offset : Nat}
    {revents : Option RelayRevents} (hstage : s.relay.stage = .writing frame offset revents)
    {outcome : WriteOutcome} (hstep : s.relayWrite frame offset revents outcome = some s') :
    s'.Outgoing := by
  -- while the relay writes, everything it recognised is already relayed
  have hfrom (recognised : List BridgeFrame)
      (hrelays : s.relay.stage.Relays recognised s.history.relayed) :
      s.history.relayed = recognised := by
    rw [hstage] at hrelays
    exact hrelays
  cases outcome with
  | failed error =>
      cases hstep
      exact h.fail _
  | wrote n =>
      simp only [BridgeLink.relayWrite] at hstep
      split at hstep
      · cases hstep
        exact h.fail _
      split at hstep
      · cases hstep
        -- a part of the frame is out: the same write goes on
        have hto (recognised : List BridgeFrame) :
            (RelayStage.writing frame (offset + n) revents).Relays recognised recognised := rfl
        exact (h.goOn hfrom hto).congr rfl
      split at hstep
      · cases hstep
        exact (h.goOn hfrom fun _ => RelayStage.relays_afterWriting).congr rfl
      · cases hstep

/-- So does what it receives. -/
theorem Outgoing.relayReceive (h : s.Outgoing) {channel : BridgeChannel} {revents : RelayRevents}
    (hfrom : ∀ recognised, s.relay.stage.Relays recognised s.history.relayed →
      s.history.relayed = recognised) (outcome : ReceiveOutcome) :
    (s.relayReceive channel revents outcome).Outgoing := by
  cases outcome with
  | failed error => exact h.fail _
  | received datagram accepted =>
      exact (h.goOn hfrom fun _ => RelayStage.relays_writeReceived).congr rfl

/-- Place by place. -/
theorem Outgoing.relayStep (h : s.Outgoing) {event : RelayEvent}
    (hstep : s.relayStep event = some s') : s'.Outgoing := by
  simp only [BridgeLink.relayStep] at hstep
  split at hstep
  next hstage =>
    cases hstep
    -- nothing has been recognised yet
    exact h.goOn (by rw [hstage]; exact fun _ => id) fun _ => RelayStage.relays_start
  next hstage => exact h.relayWrite hstage hstep
  next =>
    cases hstep
    exact h.fail _
  next =>
    cases hstep
    exact h.fail _
  next hstage =>
    cases hstep
    -- the endpoints are opened one after the other
    exact h.goOn (by rw [hstage]; exact fun _ => id) fun _ => rfl
  next hstage =>
    cases hstep
    exact h.goOn (by rw [hstage]; exact fun _ => id) fun _ => rfl
  next =>
    cases hstep
    exact h.fail _
  next hstage =>
    cases hstep
    exact h.goOn (by rw [hstage]; exact fun _ => id) fun _ => RelayStage.relays_beginInput
  next hstage => exact h.relayRead hstage hstep
  next hstage =>
    cases hstep
    -- the next of the payloads that were read
    exact h.relaySend hstage _
  next hstage =>
    cases hstep
    -- what is received goes the other way
    exact h.relayReceive (by rw [hstage]; exact fun _ => id) _
  next hstage =>
    cases hstep
    exact h.relayReceive (by rw [hstage]; exact fun _ => id) _
  next => cases hstep

/-! ### Writing

A frame is written in parts, each as long as the pipe takes it, and a write may fail between any two
of them. -/

/-- Some bytes of a frame, and not its last. -/
theorem Outgoing.writePart (h : s.Outgoing) {w : FrameWrite τ} (hwriter : s.writer = some w)
    {n : Nat} (hn : w.offset + n < w.frame.bytes.length) :
    ({ s with
      toRelay := s.toRelay.put ((w.frame.bytes.drop w.offset).take n)
      writer := some { w with offset := w.offset + n } } : BridgeLink τ).Outgoing := by
  obtain ⟨hwritten, hbehind⟩ := h.writing w hwriter
  have hcurrent : s.current = [w.frame.frame] := by rw [current, hwriter]
  constructor
  · intro w' hw'
    cases hw'
    rw [w.frame.bytes_eq] at hwritten hn ⊢
    exact ⟨hwritten.put w.frame.encodable hn, hbehind⟩
  · intro hnot
    cases hnot
  · have hpassed := h.passed
    rw [hcurrent] at hpassed
    exact hpassed
  · exact h.relayed

/-- The last bytes of a frame. -/
theorem Outgoing.writeLast (h : s.Outgoing) {w : FrameWrite τ} (hwriter : s.writer = some w)
    {n : Nat} (hn : w.offset + n = w.frame.bytes.length) :
    ({ s with
      toRelay := s.toRelay.put ((w.frame.bytes.drop w.offset).take n)
      writer := none
      history := { s.history with
        written := s.history.written ++ [w.frame.frame] } } : BridgeLink τ).Outgoing := by
  obtain ⟨hwritten, hbehind⟩ := h.writing w hwriter
  have hcurrent : s.current = [w.frame.frame] := by rw [current, hwriter]
  constructor
  · intro w' hw'
    cases hw'
  · intro _
    refine ⟨[], ?_, fun _ => rfl⟩
    rw [w.frame.bytes_eq] at hwritten hn ⊢
    exact hwritten.complete w.frame.encodable hn
  · intro channel
    obtain ⟨hbegins, hequal⟩ := h.passed channel
    rw [hcurrent] at hequal
    constructor
    · by_cases hchannel : w.frame.frame.channel = channel
      · -- No write of the channel has failed, so nothing is missing before this frame.
        have hpassed := hequal fun failed hmem hfailed =>
          hbehind ⟨failed, hmem, .inr (hfailed.trans hchannel.symm)⟩
        show payloads channel (s.history.written ++ [w.frame.frame]) <+: _
        rw [← hpassed]
      · show payloads channel (s.history.written ++ [w.frame.frame]) <+: _
        rw [payloads_append, payloads_singleton_other hchannel, List.append_nil]
        exact hbegins
    · intro hfailed
      have hpassed := hequal hfailed
      show payloads channel s.history.passed =
        payloads channel ((s.history.written ++ [w.frame.frame]) ++ [])
      rw [List.append_nil, hpassed]
  · exact h.relayed

variable [DecidableEq τ] {t : τ}

/-- A new frame begins behind whole ones. -/
theorem Outgoing.lockWriter (h : s.Outgoing) {frame : EncodedFrame}
    (hbehind : ¬Behind s.history.failedWrites frame.frame)
    (hstep : s.lockWriter t frame = some s') : s'.Outgoing := by
  simp only [BridgeLink.lockWriter] at hstep
  split at hstep
  · cases hstep
  next hwriter =>
  rw [not_not] at hwriter
  split at hstep
  · cases hstep
    exact h.congr rfl
  cases hstep
  have hnone : s.current = [] := by rw [current, hwriter]
  obtain ⟨torn, hwritten, htorn⟩ := h.idle hwriter
  constructor
  · intro w hw
    cases hw
    refine ⟨?_, hbehind⟩
    -- No failure left a part of a frame, so the new one begins where the last one ended.
    have hnil : torn = [] := by
      apply htorn
      intro failed hfailed
      by_contra htransferred
      exact hbehind ⟨failed, hfailed, .inl htransferred⟩
    rw [hnil] at hwritten
    exact hwritten
  · intro hnot
    cases hnot
  · intro channel
    obtain ⟨hbegins, hequal⟩ := h.passed channel
    constructor
    · rw [payloads_append]
      exact hbegins.trans (List.prefix_append _ _)
    · intro hfailed
      have hpassed := hequal hfailed
      rw [hnone, List.append_nil] at hpassed
      show payloads channel (s.history.passed ++ [frame.frame]) =
        payloads channel (s.history.written ++ [frame.frame])
      rw [payloads_append, payloads_append, hpassed]
  · exact h.relayed

/-- A write that fails leaves a part of its frame at the end. -/
theorem Outgoing.failWrite (h : s.Outgoing) {w : FrameWrite τ} (hwriter : s.writer = some w)
    (failure : WriteFailure) : (s.failWrite w failure).Outgoing := by
  obtain ⟨hwritten, hbehind⟩ := h.writing w hwriter
  constructor
  · intro w' hw'
    cases hw'
  · intro _
    refine ⟨_, hwritten, ?_⟩
    intro htransferred
    -- a write that failed before its first byte leaves no torn frame
    have hzero : w.offset = 0 :=
      htransferred { frame := w.frame.frame, transferred := w.offset }
        (List.mem_append_right _ List.mem_cons_self)
    rw [hzero, List.take_zero]
  · intro channel
    obtain ⟨hbegins, hequal⟩ := h.passed channel
    refine ⟨hbegins, ?_⟩
    intro hfailed
    -- the failed frame was of another channel, so this one lost nothing
    have hother : w.frame.frame.channel ≠ channel :=
      hfailed { frame := w.frame.frame, transferred := w.offset }
        (List.mem_append_right _ List.mem_cons_self)
    have hpassed := hequal fun failed hmem => hfailed failed (List.mem_append_left _ hmem)
    have hcurrent : s.current = [w.frame.frame] := by rw [current, hwriter]
    rw [hcurrent, payloads_append, payloads_singleton_other hother, List.append_nil] at hpassed
    show payloads channel s.history.passed = payloads channel (s.history.written ++ [])
    rw [List.append_nil, hpassed]
  · exact h.relayed

/-- Bytes of the frame go in; the last of them makes it whole. -/
theorem Outgoing.writeFrame (h : s.Outgoing) {w : FrameWrite τ} (hwriter : s.writer = some w)
    {outcome : WriteOutcome} (hstep : s.writeFrame w outcome = some s') : s'.Outgoing := by
  cases outcome with
  | failed error =>
      cases hstep
      exact h.failWrite hwriter _
  | wrote n =>
      simp only [BridgeLink.writeFrame] at hstep
      split at hstep
      · cases hstep
        exact h.failWrite hwriter _
      split at hstep
      -- a part of the frame was written
      next hn =>
        cases hstep
        exact h.writePart hwriter hn
      split at hstep
      -- the frame is written whole
      next hn =>
        have hlast := h.writeLast hwriter hn
        split at hstep
        all_goals
          cases hstep
          exact hlast.congr rfl
      · cases hstep

/-- The step would write behind what an earlier failure left. -/
def WritesBehind (s : BridgeLink τ) : BridgeEvent τ → Prop
  | .writer t .lock =>
    match s.call t with
    | .writingFrame frame =>
      0 ≤ s.connection.writeDescriptor ∧ Behind s.history.failedWrites frame.frame
    | _ => False
  | _ => False

/-- The cases of a write. -/
theorem Outgoing.writeStep (h : s.Outgoing) {event : WriteEvent}
    (hbehind : ¬s.WritesBehind (.writer t event)) (hstep : s.writeStep t event = some s') :
    s'.Outgoing := by
  cases event with
  | lock =>
      simp only [BridgeLink.writeStep] at hstep
      simp only [WritesBehind] at hbehind
      split at hstep
      next frame hcall =>
        rw [hcall] at hbehind
        by_cases hdescriptor : 0 ≤ s.connection.writeDescriptor
        · exact h.lockWriter (fun hnot => hbehind ⟨hdescriptor, hnot⟩) hstep
        · -- The descriptor is closed.
          simp only [BridgeLink.lockWriter] at hstep
          split at hstep
          · cases hstep
          rw [if_pos (by omega)] at hstep
          cases hstep
          exact h.congr rfl
      · cases hstep
  | write outcome =>
      simp only [BridgeLink.writeStep] at hstep
      split at hstep
      next w hwriter =>
        split at hstep
        · exact h.writeFrame hwriter hstep
        · cases hstep
      · cases hstep

/-! ### One step -/

/-- One case for each party. -/
theorem Outgoing.step (h : s.Outgoing) {event : BridgeEvent τ} (hbehind : ¬s.WritesBehind event)
    (hstep : s.step event = some s') : s'.Outgoing := by
  cases event with
  | call t event =>
      apply h.congr
      rcases besideCallers_callStep hstep with hbeside | ⟨_, hbeside⟩
      all_goals
        simp only [besideCallers, setReader, Prod.mk.injEq] at hbeside
        simp only [outgoingParts, hbeside]
  | writer t event => exact h.writeStep hbehind hstep
  | reader event => exact h.congr (outgoingParts_readerStep hstep)
  | relay event => exact h.relayStep hstep

end BridgeLink

end Fidget
