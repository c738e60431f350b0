import Fidget.Hardware.BridgeLink.Routed

/-!
# What `Receive` returns

What was routed on a channel since it was opened is what was returned on it and, as long as it is
open, what is in its queue. A failure closes both channels but leaves their queues, and a channel
whose queue is not empty is not opened again.

The count on a channel begins when it is opened. What the connection then puts into the queue, and
what it returns, is compared with the frames that the reader has gone through since; frames that the
reader had recognised before but not gone through are part of it.

## Main results

- `Kept`: what was routed on a channel is what was returned and what is queued.
- `kept_readerStep`, `kept_callStep`: the two parties that touch a queue keep it so.
-/

namespace Fidget

open BridgeFrameDecoder BridgeConnection

/-- How the queue of a channel stands to what happened on it. -/
structure Kept (c : BridgeConnection) (h : BridgeHistory) (channel : BridgeChannel) : Prop where
  openedAt_le : (h.channel channel).openedAt ≤ h.handled.length
  queued : (h.channel channel).returned ++ c.queueLocked channel <+: (h.channel channel).routed
  routed : (h.channel channel).routed <+:
    payloads channel (h.handled.drop (h.channel channel).openedAt)
  queued_eq : c.channelOpenLocked channel = true →
    (h.channel channel).returned ++ c.queueLocked channel = (h.channel channel).routed
  routed_eq : c.channelOpenLocked channel = true →
    (h.channel channel).routed = payloads channel (h.handled.drop (h.channel channel).openedAt)
  empty : c.failure = "" → c.channelOpenLocked channel = false → c.queueLocked channel = []

namespace Kept

variable {c c' : BridgeConnection} {h h' : BridgeHistory} {channel other : BridgeChannel}

/-- A step that leaves the channel alone keeps it. -/
theorem congr (hkept : Kept c h channel) (hfailure : c'.failure = c.failure)
    (hopen : c'.channelOpenLocked channel = c.channelOpenLocked channel)
    (hqueue : c'.queueLocked channel = c.queueLocked channel)
    (hhandled : h'.handled = h.handled) (hhistory : h'.channel channel = h.channel channel) :
    Kept c' h' channel := by
  constructor
  · rw [hhistory, hhandled]
    exact hkept.openedAt_le
  · rw [hhistory, hqueue]
    exact hkept.queued
  · rw [hhistory, hhandled]
    exact hkept.routed
  · rw [hhistory, hqueue, hopen]
    exact hkept.queued_eq
  · rw [hhistory, hhandled, hopen]
    exact hkept.routed_eq
  · rw [hfailure, hopen, hqueue]
    exact hkept.empty

/-- The endpoint has no part in it. -/
theorem sameChannels (hkept : Kept c h channel) (hsame : c.SameChannels c') : Kept c' h channel :=
  hkept.congr hsame.failure (hsame.isOpen _) (hsame.queue _) rfl rfl

/-- The queues outlive a failure, but no channel is open behind it. -/
theorem fail (hkept : Kept c h channel) {error : String} (herror : error ≠ "") :
    Kept (c.failLocked error) h channel where
  openedAt_le := hkept.openedAt_le
  queued := hkept.queued
  routed := hkept.routed
  queued_eq hopen := by simp at hopen
  routed_eq hopen := by simp at hopen
  empty hnone := absurd hnone (failure_failLocked herror)

/-- The channel is closed and its queue cleared. -/
theorem clear (hkept : Kept c h channel) (hopen : c'.channelOpenLocked channel = false)
    (hqueue : c'.queueLocked channel = []) : Kept c' h channel where
  openedAt_le := hkept.openedAt_le
  queued := by
    rw [hqueue, List.append_nil]
    exact (List.prefix_append _ _).trans hkept.queued
  routed := hkept.routed
  queued_eq hnot := by simp [hopen] at hnot
  routed_eq hnot := by simp [hopen] at hnot
  empty _ _ := hqueue

/-- The connection may be closed; the queue then no longer counts. -/
theorem close (hkept : Kept c h channel) : Kept c.close h channel :=
  hkept.clear channelOpenLocked_close queueLocked_close

/-- The same for one channel. -/
theorem closeChannel (hkept : Kept c h channel) (hchannel : isTransportChannel channel) :
    Kept (c.closeChannel other).1 h channel := by
  simp only [BridgeConnection.closeChannel]
  split
  · exact hkept
  next hother =>
  have hother : isTransportChannel other := by simpa using hother
  by_cases hsame : channel = other
  · apply hkept.clear
    · rw [channelOpenLocked_setQueueLocked, channelOpenLocked_setChannelOpenLocked hother hchannel,
        if_pos hsame]
    · rw [queueLocked_setQueueLocked hother hchannel, if_pos hsame]
  · apply hkept.congr
    · rw [failure_setQueueLocked, failure_setChannelOpenLocked]
    · rw [channelOpenLocked_setQueueLocked, channelOpenLocked_setChannelOpenLocked hother hchannel,
        if_neg hsame]
    · rw [queueLocked_setQueueLocked hother hchannel, if_neg hsame,
        queueLocked_setChannelOpenLocked]
    · rfl
    · rfl

/-- For a channel that is opened the count begins here. -/
theorem opens (hkept : Kept c h channel) (hchannel : isTransportChannel channel)
    (hopens : c.Opens c' other) : Kept c' (h.openChannel other) channel := by
  by_cases hsame : channel = other
  · -- The queue was empty, so nothing from before comes out of it.
    have hqueue : c'.queueLocked channel = [] := by
      rw [hopens.queue]
      exact hkept.empty hopens.failure (by rw [hsame]; exact hopens.closed)
    have hhistory : (h.openChannel other).channel channel = { openedAt := h.handled.length } := by
      rw [hsame]
      exact Function.update_self ..
    have hnothing : payloads channel (h.handled.drop h.handled.length) = [] := by
      rw [List.drop_length]
      rfl
    constructor
    · rw [hhistory]
      exact Nat.le_refl _
    · rw [hhistory, hqueue]
      exact List.prefix_rfl
    · rw [hhistory]
      exact List.nil_prefix
    · intro _
      rw [hhistory, hqueue]
      rfl
    · intro _
      rw [hhistory]
      exact hnothing.symm
    · intro _ hclosed
      rw [hopens.isOpen _ hchannel, if_pos hsame] at hclosed
      cases hclosed
  · apply hkept.congr
    · rw [hopens.failure', hopens.failure]
    · rw [hopens.isOpen _ hchannel, if_neg hsame]
    · exact hopens.queue _
    · rfl
    · exact Function.update_of_ne hsame ..

/-- The datagram at the front of the queue is returned whole. -/
theorem receive (hkept : Kept c h channel) (hchannel : isTransportChannel channel)
    (hother : isTransportChannel other) {datagram : Datagram} {queue : List Datagram}
    (hqueue : c.queueLocked other = datagram :: queue) :
    Kept (c.setQueueLocked other queue) (h.returnDatagram other datagram) channel := by
  by_cases hsame : channel = other
  · subst hsame
    have hhistory : (h.returnDatagram channel datagram).channel channel =
        { h.channel channel with returned := (h.channel channel).returned ++ [datagram] } :=
      Function.update_self ..
    -- the datagram moves from the queue to what was returned
    have hall : (h.channel channel).returned ++ [datagram] ++ queue =
        (h.channel channel).returned ++ c.queueLocked channel := by
      rw [hqueue, List.append_assoc]
      rfl
    have hrest : (c.setQueueLocked channel queue).queueLocked channel = queue := by
      rw [queueLocked_setQueueLocked hchannel hchannel, if_pos rfl]
    constructor
    · rw [hhistory]
      exact hkept.openedAt_le
    · rw [hhistory, hrest]
      exact hall ▸ hkept.queued
    · rw [hhistory]
      exact hkept.routed
    · rw [hhistory, hrest, channelOpenLocked_setQueueLocked]
      exact fun hopen => hall.trans (hkept.queued_eq hopen)
    · rw [hhistory, channelOpenLocked_setQueueLocked]
      exact hkept.routed_eq
    · rw [failure_setQueueLocked, channelOpenLocked_setQueueLocked]
      intro hnone hclosed
      rw [hkept.empty hnone hclosed] at hqueue
      cases hqueue
  · -- the other channel is not touched
    apply hkept.congr
    · exact failure_setQueueLocked _
    · exact channelOpenLocked_setQueueLocked _
    · rw [queueLocked_setQueueLocked hother hchannel, if_neg hsame]
    · rfl
    · exact Function.update_of_ne hsame ..

/-- One more frame is gone through. -/
theorem payloads_handled (hle : (h.channel channel).openedAt ≤ h.handled.length)
    (frame : BridgeFrame) :
    payloads channel ((h.handled ++ [frame]).drop (h.channel channel).openedAt) =
      payloads channel (h.handled.drop (h.channel channel).openedAt) ++ payloads channel [frame] := by
  rw [List.drop_append_of_le_length hle, payloads_append]

/-- The reader goes past a frame that is not for the channel, or for a channel that is not open. -/
theorem pass (hkept : Kept c h channel) {frame : BridgeFrame}
    (hframe : c.channelOpenLocked channel = true → frame.channel ≠ channel)
    (hhandled : h'.handled = h.handled ++ [frame])
    (hhistory : h'.channel channel = h.channel channel) : Kept c h' channel := by
  have hpayloads := payloads_handled hkept.openedAt_le frame
  constructor
  · rw [hhistory, hhandled, List.length_append]
    exact Nat.le_trans hkept.openedAt_le (Nat.le_add_right _ _)
  · rw [hhistory]
    exact hkept.queued
  · rw [hhistory, hhandled, hpayloads]
    exact hkept.routed.trans (List.prefix_append _ _)
  · rw [hhistory]
    exact hkept.queued_eq
  · intro hopen
    rw [hhistory, hhandled, hpayloads, payloads_singleton_other (hframe hopen), List.append_nil]
    exact hkept.routed_eq hopen
  · exact hkept.empty

/-- The payload is the last in the queue and the last that was routed. -/
theorem enqueue {frame : BridgeFrame} (hkept : Kept c h frame.channel)
    (hframe : isTransportChannel frame.channel)
    (hopen : c.channelOpenLocked frame.channel = true) :
    Kept (c.setQueueLocked frame.channel (c.queueLocked frame.channel ++ [frame.payload]))
      (({ h with handled := h.handled ++ [frame] }).setChannel frame.channel
        { h.channel frame.channel with
          routed := (h.channel frame.channel).routed ++ [frame.payload] }) frame.channel := by
  -- the history and the queue grow by the same payload
  have hhistory : (({ h with handled := h.handled ++ [frame] }).setChannel frame.channel
      { h.channel frame.channel with
        routed := (h.channel frame.channel).routed ++ [frame.payload] }).channel frame.channel =
      { h.channel frame.channel with
        routed := (h.channel frame.channel).routed ++ [frame.payload] } :=
    Function.update_self ..
  have hqueue : (c.setQueueLocked frame.channel
      (c.queueLocked frame.channel ++ [frame.payload])).queueLocked frame.channel =
      c.queueLocked frame.channel ++ [frame.payload] := by
    rw [queueLocked_setQueueLocked hframe hframe, if_pos rfl]
  have hqueued : (h.channel frame.channel).returned ++
      (c.queueLocked frame.channel ++ [frame.payload]) =
      (h.channel frame.channel).routed ++ [frame.payload] := by
    rw [← List.append_assoc, hkept.queued_eq hopen]
  -- and the frame is the last of those gone through since the opening
  have hrouted : (h.channel frame.channel).routed ++ [frame.payload] =
      payloads frame.channel
        ((h.handled ++ [frame]).drop (h.channel frame.channel).openedAt) := by
    rw [payloads_handled hkept.openedAt_le, payloads_singleton_self, hkept.routed_eq hopen]
  constructor
  · rw [hhistory]
    show _ ≤ (h.handled ++ [frame]).length
    rw [List.length_append]
    exact Nat.le_trans hkept.openedAt_le (Nat.le_add_right _ _)
  · rw [hhistory, hqueue, hqueued]
  · rw [hhistory]
    exact hrouted ▸ List.prefix_rfl
  · intro _
    rw [hhistory, hqueue, hqueued]
  · intro _
    rw [hhistory]
    exact hrouted
  · intro _ hclosed
    rw [channelOpenLocked_setQueueLocked, hopen] at hclosed
    cases hclosed

/-- A frame is routed into the queue or, with the channel closed, past it. -/
theorem routeFrame (hkept : Kept c h channel) (hchannel : isTransportChannel channel)
    {frame : BridgeFrame} (hframe : frame.channel ≠ .hello → isTransportChannel frame.channel) :
    Kept (c.routeFrame frame) (h.routeFrame c frame) channel := by
  cases hroute : c.frameRoute frame with
  | hello =>
      simp only [BridgeConnection.routeFrame, BridgeHistory.routeFrame, hroute]
      exact hkept.congr rfl rfl rfl rfl rfl
  | notOpen =>
      simp only [BridgeConnection.routeFrame, BridgeHistory.routeFrame, hroute]
      refine hkept.pass ?_ rfl rfl
      intro hopen hsame
      rw [← hsame, frameRoute_notOpen hroute] at hopen
      cases hopen
  -- the queue is full, and the connection fails
  | full =>
      simp only [BridgeConnection.routeFrame, BridgeHistory.routeFrame, hroute]
      apply hkept.fail
      split <;> simp
  | queued =>
      obtain ⟨hhello, hopen⟩ := frameRoute_queued hroute
      simp only [BridgeConnection.routeFrame, BridgeHistory.routeFrame, hroute]
      -- a frame of this channel enters its queue, one of another channel does not
      by_cases hsame : frame.channel = channel
      · subst hsame
        exact hkept.enqueue hchannel hopen
      · have hother : channel ≠ frame.channel := Ne.symm hsame
        have hpassed : Kept c { h with handled := h.handled ++ [frame] } channel :=
          hkept.pass (fun _ => hsame) rfl rfl
        apply hpassed.congr
        · exact failure_setQueueLocked _
        · exact channelOpenLocked_setQueueLocked _
        · rw [queueLocked_setQueueLocked (hframe hhello) hchannel, if_neg hother]
        · rfl
        · exact Function.update_of_ne hother ..

/-- The frames of one read, one by one. -/
theorem routeFrames (hkept : Kept c h channel) (hchannel : isTransportChannel channel)
    {frames : List BridgeFrame}
    (hframes : ∀ frame ∈ withoutHello frames, isTransportChannel frame.channel) :
    Kept (c.routeFrames frames).1 (h.routeFrames c frames) channel := by
  induction frames generalizing c h with
  | nil => exact hkept
  | cons frame frames ih =>
      have hframe (hhello : frame.channel ≠ .hello) : isTransportChannel frame.channel :=
        hframes frame (List.mem_filter.mpr ⟨List.mem_cons_self, by simpa using hhello⟩)
      have hone := hkept.routeFrame hchannel hframe
      rw [BridgeConnection.routeFrames, BridgeHistory.routeFrames]
      split
      next hfull =>
        rw [BridgeHistory.routeFrame, hfull] at hone
        exact hone
      next hfull =>
        apply ih hone
        intro frame' hmem
        obtain ⟨hmem, hhello⟩ := List.mem_filter.mp hmem
        exact hframes frame' (List.mem_filter.mpr ⟨List.mem_cons_of_mem _ hmem, hhello⟩)

end Kept

namespace BridgeLink

/-! ### Steps

The callers and the reader are the only ones to touch a queue. -/

variable {τ : Type} {s s' : BridgeLink τ} {t : τ} {channel : BridgeChannel}

theorem kept_initial (readDescriptor writeDescriptor handshakeTimeout : Int)
    (queueCapacity : Nat) :
    let s : BridgeLink τ := initial readDescriptor writeDescriptor handshakeTimeout queueCapacity
    Kept s.connection s.history channel := by
  constructor
  · exact Nat.le_refl _
  · simp [initial, queueLocked]
  · exact List.nil_prefix
  · simp [initial, channelOpenLocked]
  · simp [initial, channelOpenLocked]
  · simp [initial, queueLocked]

theorem kept_readerStep (h : Kept s.connection s.history channel)
    (hchannel : isTransportChannel channel) (hincoming : s.Incoming) {event : ReaderEvent}
    (hstep : s.readerStep event = some s') : Kept s'.connection s'.history channel := by
  simp only [readerStep] at hstep
  split at hstep
  next =>
    cases hstep
    exact h
  next =>
    split at hstep
    all_goals
      cases hstep
      exact h
  next outcome _ =>
    cases outcome with
    | failed error =>
        cases hstep
        exact h
    | read n =>
        simp only [readerRead] at hstep
        split at hstep
        · cases hstep
          exact h
        split at hstep
        · cases hstep
          exact h
        · cases hstep
  next frames hstage =>
    cases hstep
    apply h.routeFrames hchannel
    -- The reader is only given frames of datagrams that the relay accepted.
    obtain ⟨recognised, hrecognised, hhandles⟩ := hincoming.handles
    rw [hstage] at hhandles
    intro frame hmem
    have hall : withoutHello recognised = s.history.handled ++ withoutHello frames := hhandles
    apply hincoming.transport
    apply (hincoming.recognised_isPrefix hrecognised).subset
    rw [hall]
    exact List.mem_append_right _ hmem
  next error hstage =>
    cases hstep
    have hexplains := hincoming.explains
    rw [hstage] at hexplains
    exact h.fail hexplains
  next =>
    cases hstep
    simp only
    split
    · exact h
    · exact h.fail (by simp)
  next => cases hstep

variable [DecidableEq τ]

/-- `Receive` is given a buffer for the datagram that it is to return. -/
def Fits (s : BridgeLink τ) : BridgeEvent τ → Prop
  | .call _ (.receive channel capacity _ _) =>
    ∀ datagram ∈ (s.connection.queueLocked channel).head?, datagram.length ≤ capacity
  | _ => True

/-- Opening begins the count anew. -/
theorem kept_openChannel (h : Kept s.connection s.history channel)
    (hchannel : isTransportChannel channel) {other : BridgeChannel} {host : String} {port : UInt16}
    (hstep : s.openChannel t other host port = some s') :
    Kept s'.connection s'.history channel := by
  have hcases := s.connection.beginOpenChannel_cases other host port
  have hnext : Kept (s.connection.beginOpenChannel other host port).1
      (if (!s.connection.channelOpenLocked other &&
        (s.connection.beginOpenChannel other host port).1.channelOpenLocked other) = true
      then s.history.openChannel other else s.history) channel := by
    rcases hcases with ⟨hsame, _⟩ | ⟨hopens, _⟩
    · rw [if_neg (by simp [hsame.isOpen])]
      exact h.sameChannels hsame
    · rw [if_pos]
      · exact h.opens hchannel hopens
      · rw [hopens.closed, hopens.isOpen _ hopens.transport, if_pos rfl]
        rfl
  simp only [openChannel] at hstep
  split at hstep
  · cases hstep
  split at hstep
  all_goals
    cases hstep
    exact hnext

theorem kept_startReader (h : Kept s.connection s.history channel) (exception : Option String) :
    Kept (s.startReader t exception).connection (s.startReader t exception).history channel := by
  cases exception with
  | some exception => exact h.fail (by simp)
  | none =>
      obtain ⟨hello, hencode, _⟩ := encodeBridgeHello_eq
      simp only [startReader, hencode]
      exact h

theorem kept_endHelloWait (h : Kept s.connection s.history channel) :
    Kept (s.endHelloWait t).connection (s.endHelloWait t).history channel := by
  have hnext : Kept s.connection.endHelloWait.1 s.history channel := by
    simp only [BridgeConnection.endHelloWait]
    split_ifs
    all_goals first
      | exact h
      | exact h.fail (by simp)
  simp only [endHelloWait]
  split
  all_goals exact hnext

/-- A datagram that fits is returned whole. -/
theorem kept_receive (h : Kept s.connection s.history channel)
    (hchannel : isTransportChannel channel) {other : BridgeChannel} {capacity : Nat}
    {hasBuffer : Bool} {timeoutMilliseconds : Int}
    (hfits : ∀ datagram ∈ (s.connection.queueLocked other).head?, datagram.length ≤ capacity) :
    Kept (s.receive t other capacity hasBuffer timeoutMilliseconds).connection
      (s.receive t other capacity hasBuffer timeoutMilliseconds).history channel := by
  simp only [receive]
  obtain ⟨result, hstatus, hreceive⟩ | ⟨datagram, queue, result, hother, hqueue, hstatus, hreceive⟩ :=
    s.connection.receive_cases other capacity hasBuffer timeoutMilliseconds
  · rw [hreceive]
    simp only [if_neg hstatus]
    exact h
  · have hwhole : datagram.take capacity = datagram := by
      apply List.take_of_length_le
      apply hfits
      rw [hqueue]
      rfl
    rw [hreceive]
    simp only [if_pos hstatus, hwhole]
    exact h.receive hchannel hother hqueue

/-- Nothing is returned after a shutdown. -/
theorem kept_shutDown (h : Kept s.connection s.history channel) (hstep : s.shutDown t = some s') :
    Kept s'.connection s'.history channel := by
  have hsame {c : BridgeConnection} (hfailure : c.failure = s.connection.failure)
      (hopen : ∀ channel, c.channelOpenLocked channel = s.connection.channelOpenLocked channel)
      (hqueue : ∀ channel, c.queueLocked channel = s.connection.queueLocked channel) :
      Kept c s.history channel :=
    h.sameChannels ⟨hfailure, hopen, hqueue⟩
  simp only [shutDown] at hstep
  split at hstep
  · cases hstep
    exact h.close
  · split at hstep
    · cases hstep
    · cases hstep
      exact hsame rfl (fun _ => rfl) (fun _ => rfl)
  · split at hstep
    · cases hstep
    · cases hstep
      exact hsame rfl (fun _ => rfl) (fun _ => rfl)
  · split at hstep
    · cases hstep
      exact hsame rfl (fun _ => rfl) (fun _ => rfl)
    · cases hstep
  · cases hstep

/-- Every failure of a write has a text. -/
theorem text_ne (failure : WriteFailure) : failure.text ≠ "" := by
  cases failure <;> simp [WriteFailure.text]

/-- Call by call. -/
theorem kept_callStep (h : Kept s.connection s.history channel)
    (hchannel : isTransportChannel channel) {event : CallEvent} (hfits : s.Fits (.call t event))
    (hstep : s.callStep t event = some s') : Kept s'.connection s'.history channel := by
  simp only [callStep] at hstep
  split at hstep
  next => exact kept_openChannel h hchannel hstep
  next =>
    cases hstep
    exact kept_startReader h _
  next =>
    cases hstep
    exact kept_endHelloWait h
  next =>
    cases hstep
    simp only [send]
    split
    · exact h
    split
    · exact h
    · exact h
  next failure _ =>
    cases hstep
    exact h.fail (text_ne failure)
  next =>
    cases hstep
    exact kept_receive h hchannel hfits
  next =>
    cases hstep
    exact h.closeChannel hchannel
  next =>
    cases hstep
    exact h.close
  next => exact kept_shutDown h hstep
  next => cases hstep

end BridgeLink

end Fidget
