import Fidget.Core.BridgeProtocol.FrameCode

/-!
# The local end of a bridge

A `BridgeConnection` shares one pair of descriptors between the command and the data transport.
What its threads do with its fields while they hold `stateMutex_` is a function here. How the
threads take turns, and what goes over the descriptors, is in `BridgeLink`.

## Main results

- `receive`: a datagram is copied out of the queue, as far as the buffer goes.
- `frameRoute`: what becomes of a frame that has been read.
- `beginOpenChannel_cases`: a call that opens a channel, and one that changes nothing.
-/

namespace Fidget

structure TransportOperationResult where
  success : Bool := false
  error : String := ""
  deriving Repr, DecidableEq

inductive TransportReceiveStatus
  | received
  | timeout
  | error
  deriving Repr, DecidableEq

/-- A datagram that does not fit is cut; the result says how long it was. -/
structure TransportReceiveResult where
  status : TransportReceiveStatus := .error
  bytesReceived : Nat := 0
  error : String := ""
  deriving Repr, DecidableEq

/-- The fields that `stateMutex_` protects. -/
structure BridgeConnection where
  /-- A descriptor that was closed is -1. -/
  readDescriptor : Int := -1
  writeDescriptor : Int := -1
  /-- In milliseconds. -/
  handshakeTimeout : Int := 10000
  queueCapacity : Nat := 256
  commandQueue : List Datagram := []
  dataQueue : List Datagram := []
  endpointHost : String := ""
  commandPort : UInt16 := 0
  endpointSet : Bool := false
  commandOpen : Bool := false
  dataOpen : Bool := false
  readerStarted : Bool := false
  handshakeComplete : Bool := false
  stopRequested : Bool := false
  closed : Bool := false
  failure : String := ""
  deriving Repr, DecidableEq

namespace BridgeConnection

/-! ### Channels

Both channels have a queue and a flag. The source keeps them in separate fields and chooses between
them by the channel. -/

def channelOpenLocked (c : BridgeConnection) (channel : BridgeChannel) : Bool :=
  if channel = .command then c.commandOpen else c.dataOpen

/-- A channel is opened or closed, with its queue as it is. -/
def setChannelOpenLocked (c : BridgeConnection) (channel : BridgeChannel) (isOpen : Bool) :
    BridgeConnection :=
  if channel = .command then { c with commandOpen := isOpen } else { c with dataOpen := isOpen }

def queueLocked (c : BridgeConnection) (channel : BridgeChannel) : List Datagram :=
  if channel = .command then c.commandQueue else c.dataQueue

/-- What is done through the reference that `QueueLocked` returns. -/
def setQueueLocked (c : BridgeConnection) (channel : BridgeChannel) (queue : List Datagram) :
    BridgeConnection :=
  if channel = .command then { c with commandQueue := queue } else { c with dataQueue := queue }

def closedError (channel : BridgeChannel) : String :=
  if channel = .command then "send: bridge command transport is closed"
  else "data send: bridge data receiver is closed"

def receiveClosedError (channel : BridgeChannel) : String :=
  if channel = .command then "receive: bridge command transport is closed"
  else "data receive: bridge data receiver is closed"

def invalidTimeoutError (channel : BridgeChannel) : String :=
  if channel = .command then "receive: invalid timeout" else "data receive: invalid timeout"

def timeoutError (channel : BridgeChannel) : String :=
  if channel = .command then "receive: MVLC response timed out" else "data receive: timed out"

/-- The only channels that a transport may use. -/
def isTransportChannel (channel : BridgeChannel) : Bool :=
  channel = .command || channel = .data

/-! ### Failures

After a failure both channels are closed; the queues stay, so that what was received can still be
taken. -/

/-- The first failure is kept, and closes both channels. -/
def failLocked (c : BridgeConnection) (error : String) : BridgeConnection :=
  { c with
    failure := if c.failure = "" then error else c.failure
    commandOpen := false
    dataOpen := false
    stopRequested := true }

/-! ### Opening

The first channel that is opened starts the reader and waits for the hello of the other side. It
fixes the endpoint for both channels. -/

/-- The first command channel fixes the endpoint; every later call has to match it. -/
def validateEndpointLocked (c : BridgeConnection) (channel : BridgeChannel) (host : String)
    (port : UInt16) : Except String BridgeConnection :=
  if channel = .command then
    if !c.endpointSet then
      .ok { c with endpointHost := host, commandPort := port, endpointSet := true }
    else if c.endpointHost ≠ host || c.commandPort ≠ port then
      .error "Bridge command endpoint does not match its relay"
    else .ok c
  else if !c.endpointSet then
    .error "Open the bridge command transport before its data receiver"
  else if c.commandPort = 0xFFFF then
    .error "MVLC command port has no adjacent data port"
  else if c.endpointHost ≠ host || port ≠ c.commandPort + 1 then
    .error "Bridge data endpoint does not match its relay"
  else .ok c

/-- `OpenChannel` up to the start of the reader, with the result if it returns before that. -/
def beginOpenChannel (c : BridgeConnection) (channel : BridgeChannel) (host : String)
    (port : UInt16) : BridgeConnection × Option TransportOperationResult :=
  if !isTransportChannel channel then
    (c, some { error := "A bridge transport cannot open the hello channel" })
  else if c.closed then (c, some { error := "Bridge connection is closed" })
  else if c.failure ≠ "" then (c, some { error := c.failure })
  else if c.readDescriptor < 0 || c.writeDescriptor < 0 then
    (c, some { error := "Bridge connection has invalid descriptors" })
  else if c.handshakeTimeout ≤ 0 then (c, some { error := "Bridge hello timeout must be positive" })
  else if c.queueCapacity = 0 then (c, some { error := "Bridge queue capacity must be positive" })
  else
    match c.validateEndpointLocked channel host port with
    | .error error => (c, some { error })
    | .ok c =>
      if c.channelOpenLocked channel then (c, some { success := true })
      else
        let c := c.setChannelOpenLocked channel true
        if c.readerStarted then (c, some { success := true })
        else ({ c with readerStarted := true }, none)

/-- The end of the wait for the hello. It was not in vain if one of the three was noted; otherwise
it ends at the timeout. -/
def endHelloWait (c : BridgeConnection) : BridgeConnection × TransportOperationResult :=
  let finished := c.handshakeComplete || c.failure ≠ "" || c.stopRequested
  let c := if finished then c else c.failLocked "Bridge hello timed out"
  if c.handshakeComplete then (c, { success := true })
  else
    (c, { error := if c.failure = "" then "Bridge connection closed during hello" else c.failure })

/-! ### Sending and receiving -/

/-- Why `Send` refuses a datagram before it encodes it. -/
def refuseSend (c : BridgeConnection) (channel : BridgeChannel) : Option String :=
  if !isTransportChannel channel then some "A bridge transport cannot send a hello frame"
  else if c.failure ≠ "" then some c.failure
  else if !c.channelOpenLocked channel then some (closedError channel)
  else if !c.handshakeComplete then some "Bridge hello is incomplete"
  else none

/-- `Receive`, once it waits no longer, with the bytes that it copied to the buffer. -/
def receive (c : BridgeConnection) (channel : BridgeChannel) (capacity : Nat) (hasBuffer : Bool)
    (timeoutMilliseconds : Int) : BridgeConnection × TransportReceiveResult × Datagram :=
  if !isTransportChannel channel then
    (c, { error := "A bridge transport cannot receive the hello channel" }, [])
  else if timeoutMilliseconds < 0 then (c, { error := invalidTimeoutError channel }, [])
  else if capacity > 0 && !hasBuffer then
    (c, { error :=
      if channel = .command then "receive: buffer pointer is null"
      else "data receive: buffer pointer is null" }, [])
  else
    match c.queueLocked channel with
    | datagram :: queue =>
      let copied := datagram.take capacity
      (c.setQueueLocked channel queue, { status := .received, bytesReceived := copied.length }, copied)
    | [] =>
      if c.failure ≠ "" then (c, { error := c.failure }, [])
      else if !c.channelOpenLocked channel then (c, { error := receiveClosedError channel }, [])
      else (c, { status := .timeout, error := timeoutError channel }, [])

/-! ### Closing

The last channel to be closed closes the connection. -/

/-- Whether `Close` is to follow comes with it. -/
def closeChannel (c : BridgeConnection) (channel : BridgeChannel) : BridgeConnection × Bool :=
  if !isTransportChannel channel then (c, false)
  else
    let c := (c.setChannelOpenLocked channel false).setQueueLocked channel []
    (c, !c.commandOpen && !c.dataOpen)

/-- `Close` up to `StopAndJoin`. -/
def close (c : BridgeConnection) : BridgeConnection :=
  { c with
    commandOpen := false
    dataOpen := false
    commandQueue := []
    dataQueue := []
    stopRequested := true }

/-! ### Routing

The reader goes through its frames one by one, under `stateMutex_`. -/

/-- What becomes of a frame that was read. -/
inductive FrameRoute
  | hello
  | notOpen
  | queued
  | full
  deriving Repr, DecidableEq

def frameRoute (c : BridgeConnection) (frame : BridgeFrame) : FrameRoute :=
  if frame.channel = .hello then .hello
  else if !c.channelOpenLocked frame.channel then .notOpen
  else if (c.queueLocked frame.channel).length ≥ c.queueCapacity then .full
  else .queued

/-- A frame for a closed channel is dropped; one too many fails the connection. -/
def routeFrame (c : BridgeConnection) (frame : BridgeFrame) : BridgeConnection :=
  match c.frameRoute frame with
  | .hello => { c with handshakeComplete := true }
  | .notOpen => c
  | .queued => c.setQueueLocked frame.channel (c.queueLocked frame.channel ++ [frame.payload])
  | .full =>
    c.failLocked (if frame.channel = .command then "Bridge command queue is full"
      else "Bridge data queue is full")

/-- False is returned if a queue was full. -/
def routeFrames (c : BridgeConnection) : List BridgeFrame → BridgeConnection × Bool
  | [] => (c, true)
  | frame :: frames =>
    if c.frameRoute frame = .full then (c.routeFrame frame, false)
    else (c.routeFrame frame).routeFrames frames

/-! ### The two channels do not touch each other -/

variable {c : BridgeConnection} {channel other : BridgeChannel}

/-- A channel that a transport may use is the other's other. -/
theorem channelOpenLocked_setChannelOpenLocked (hchannel : isTransportChannel channel)
    (hother : isTransportChannel other) (isOpen : Bool) :
    (c.setChannelOpenLocked channel isOpen).channelOpenLocked other =
      if other = channel then isOpen else c.channelOpenLocked other := by
  cases channel <;> cases other <;>
    simp_all [isTransportChannel, channelOpenLocked, setChannelOpenLocked]

@[simp] theorem queueLocked_setChannelOpenLocked (isOpen : Bool) :
    (c.setChannelOpenLocked channel isOpen).queueLocked other = c.queueLocked other := by
  simp only [setChannelOpenLocked]
  split <;> rfl

/-- The two queues are separate. -/
theorem queueLocked_setQueueLocked (hchannel : isTransportChannel channel)
    (hother : isTransportChannel other) (queue : List Datagram) :
    (c.setQueueLocked channel queue).queueLocked other =
      if other = channel then queue else c.queueLocked other := by
  cases channel <;> cases other <;>
    simp_all [isTransportChannel, queueLocked, setQueueLocked]

@[simp] theorem channelOpenLocked_setQueueLocked (queue : List Datagram) :
    (c.setQueueLocked channel queue).channelOpenLocked other = c.channelOpenLocked other := by
  simp only [setQueueLocked]
  split <;> rfl

@[simp] theorem failure_setQueueLocked (queue : List Datagram) :
    (c.setQueueLocked channel queue).failure = c.failure := by
  simp only [setQueueLocked]
  split <;> rfl

@[simp] theorem failure_setChannelOpenLocked (isOpen : Bool) :
    (c.setChannelOpenLocked channel isOpen).failure = c.failure := by
  simp only [setChannelOpenLocked]
  split <;> rfl

/-- A failure leaves no channel open. -/
@[simp] theorem channelOpenLocked_failLocked (error : String) :
    (c.failLocked error).channelOpenLocked channel = false := by
  simp [failLocked, channelOpenLocked]

/-- But it leaves the queues. -/
@[simp] theorem queueLocked_failLocked (error : String) :
    (c.failLocked error).queueLocked channel = c.queueLocked channel := rfl

/-- A failure has a text. -/
theorem failure_failLocked {error : String} (h : error ≠ "") : (c.failLocked error).failure ≠ "" := by
  simp only [failLocked]
  split
  · exact h
  · assumption

/-- Nor does closing the connection. -/
@[simp] theorem channelOpenLocked_close : c.close.channelOpenLocked channel = false := by
  simp [close, channelOpenLocked]

/-- Which empties the queues too. -/
@[simp] theorem queueLocked_close : c.close.queueLocked channel = [] := by
  simp [close, queueLocked]

@[simp] theorem readerStarted_setQueueLocked (queue : List Datagram) :
    (c.setQueueLocked channel queue).readerStarted = c.readerStarted := by
  simp only [setQueueLocked]
  split <;> rfl

@[simp] theorem readerStarted_setChannelOpenLocked (isOpen : Bool) :
    (c.setChannelOpenLocked channel isOpen).readerStarted = c.readerStarted := by
  simp only [setChannelOpenLocked]
  split <;> rfl

/-- `Receive` takes the datagram at the front of the queue, or nothing. -/
theorem receive_cases (c : BridgeConnection) (channel : BridgeChannel) (capacity : Nat)
    (hasBuffer : Bool) (timeoutMilliseconds : Int) :
    (∃ result, result.status ≠ .received ∧
      c.receive channel capacity hasBuffer timeoutMilliseconds = (c, result, [])) ∨
    (∃ datagram queue result, isTransportChannel channel ∧ c.queueLocked channel = datagram :: queue ∧
      result.status = .received ∧
      c.receive channel capacity hasBuffer timeoutMilliseconds =
        (c.setQueueLocked channel queue, result, datagram.take capacity)) := by
  simp only [receive]
  split
  · exact .inl ⟨_, by simp, rfl⟩
  next htransport =>
  split
  · exact .inl ⟨_, by simp, rfl⟩
  split
  · exact .inl ⟨_, by simp, rfl⟩
  split
  next datagram queue hqueue =>
    exact .inr ⟨datagram, queue, _, by simpa using htransport, hqueue, rfl, rfl⟩
  split
  · exact .inl ⟨_, by simp, rfl⟩
  split
  · exact .inl ⟨_, by simp, rfl⟩
  · exact .inl ⟨_, by simp, rfl⟩

/-- Receiving does not start the reader. -/
theorem readerStarted_receive {capacity : Nat} {hasBuffer : Bool} {timeoutMilliseconds : Int} :
    (c.receive channel capacity hasBuffer timeoutMilliseconds).1.readerStarted =
      c.readerStarted := by
  obtain ⟨result, _, h⟩ | ⟨datagram, queue, result, _, _, _, h⟩ :=
    c.receive_cases channel capacity hasBuffer timeoutMilliseconds
  · rw [h]
  · rw [h]
    exact readerStarted_setQueueLocked queue

theorem readerStarted_closeChannel : (c.closeChannel channel).1.readerStarted = c.readerStarted := by
  simp only [closeChannel]
  split
  · rfl
  · simp

/-- A frame is dropped only if its channel is closed. -/
theorem frameRoute_notOpen {frame : BridgeFrame} (h : c.frameRoute frame = .notOpen) :
    c.channelOpenLocked frame.channel = false := by
  simp only [frameRoute] at h
  split_ifs at h with _ hopen
  simpa using hopen

/-- A frame is queued only on an open channel. -/
theorem frameRoute_queued {frame : BridgeFrame} (h : c.frameRoute frame = .queued) :
    frame.channel ≠ .hello ∧ c.channelOpenLocked frame.channel = true := by
  simp only [frameRoute] at h
  split_ifs at h with hhello hopen
  exact ⟨hhello, by simpa using hopen⟩

/-! ### What opening a channel does -/

/-- The channels are left as they are. -/
structure SameChannels (c c' : BridgeConnection) : Prop where
  failure : c'.failure = c.failure
  isOpen : ∀ channel, c'.channelOpenLocked channel = c.channelOpenLocked channel
  queue : ∀ channel, c'.queueLocked channel = c.queueLocked channel

/-- One channel is opened that was not open, on a connection that has not failed. -/
structure Opens (c c' : BridgeConnection) (channel : BridgeChannel) : Prop where
  transport : isTransportChannel channel
  failure : c.failure = ""
  failure' : c'.failure = ""
  closed : c.channelOpenLocked channel = false
  isOpen : ∀ other, isTransportChannel other →
    c'.channelOpenLocked other = if other = channel then true else c.channelOpenLocked other
  queue : ∀ other, c'.queueLocked other = c.queueLocked other

/-- Fixing the endpoint changes no channel. -/
theorem validateEndpointLocked_ok {c' : BridgeConnection} {host : String} {port : UInt16}
    (h : c.validateEndpointLocked channel host port = .ok c') :
    c.SameChannels c' ∧ c'.readerStarted = c.readerStarted := by
  simp only [validateEndpointLocked] at h
  split_ifs at h
  all_goals
    cases h
    exact ⟨⟨rfl, fun _ => rfl, fun _ => rfl⟩, rfl⟩

/-- Only a call that opens its channel can be the one to start the reader. -/
theorem beginOpenChannel_cases (c : BridgeConnection) (channel : BridgeChannel) (host : String)
    (port : UInt16) :
    (c.SameChannels (c.beginOpenChannel channel host port).1 ∧
      (c.beginOpenChannel channel host port).1.readerStarted = c.readerStarted ∧
      (c.beginOpenChannel channel host port).2 ≠ none) ∨
    (c.Opens (c.beginOpenChannel channel host port).1 channel ∧
      (c.beginOpenChannel channel host port).1.readerStarted = true ∧
      ((c.beginOpenChannel channel host port).2 = none ↔ c.readerStarted = false)) := by
  have hsame : c.SameChannels c := ⟨rfl, fun _ => rfl, fun _ => rfl⟩
  simp only [beginOpenChannel]
  -- the refusals come first, and leave everything as it is
  split
  · exact .inl ⟨hsame, rfl, by simp⟩
  next htransport =>
  split
  · exact .inl ⟨hsame, rfl, by simp⟩
  split
  · exact .inl ⟨hsame, rfl, by simp⟩
  next hfailure =>
  iterate 3
    split
    · exact .inl ⟨hsame, rfl, by simp⟩
  split
  · exact .inl ⟨hsame, rfl, by simp⟩
  next c₁ hvalidate =>
  obtain ⟨hchannels, hstarted⟩ := validateEndpointLocked_ok hvalidate
  split
  · exact .inl ⟨hchannels, hstarted, by simp⟩
  next hopen =>
  -- nothing is refused: the channel is opened
  right
  have htransport : isTransportChannel channel := by simpa using htransport
  have hopens : c.Opens (c₁.setChannelOpenLocked channel true) channel := by
    constructor
    · exact htransport
    · simpa using hfailure
    · rw [failure_setChannelOpenLocked, hchannels.failure]
      simpa using hfailure
    · rw [← hchannels.isOpen]
      simpa using hopen
    · intro other hother
      rw [channelOpenLocked_setChannelOpenLocked htransport hother, hchannels.isOpen]
    · intro other
      rw [queueLocked_setChannelOpenLocked, hchannels.queue]
  have hkept : (c₁.setChannelOpenLocked channel true).readerStarted = c.readerStarted := by
    rw [← hstarted, readerStarted_setChannelOpenLocked]
  split
  -- the reader was started by an earlier call
  next hreader =>
    refine ⟨hopens, hreader, ?_⟩
    rw [← hkept, hreader]
    simp
  -- this call is the one to start it
  next hreader =>
    refine ⟨⟨hopens.transport, hopens.failure, hopens.failure', hopens.closed, hopens.isOpen,
      hopens.queue⟩, rfl, ?_⟩
    rw [← hkept]
    simpa using hreader

end BridgeConnection

end Fidget
