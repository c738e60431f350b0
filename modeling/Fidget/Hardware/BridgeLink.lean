import Fidget.Hardware.BridgeConnection
import Fidget.Hardware.BridgeRelay
import Mathlib.Logic.Relation

/-!
# Both ends of a bridge

Any number of threads call a `BridgeConnection`, its own thread reads, and the relay runs, with a
pipe of bytes in each direction between them. A step is what one of them does between two points at
which another may come in: while it holds `stateMutex_`, or from one call of the system to the next.
The other three mutexes are held over several steps, so they are in the state.

The events are as small as the operating system allows: one call of `read`, `write` or `poll`, or
one stretch of code that runs under a mutex. What the system answers is part of the event, and a
thread that waits for a mutex has no event until it is free.

Whatever the threads do and whatever the system answers is a list of events, and a run is one that
every step of which can happen. So a theorem about all runs is one about all interleavings, all
partial reads and writes, and all failures of the system.

## Main results

- `BridgeLink`: the state of both ends, the pipes between them and the mutexes.
- `BridgeLink.step`: what one event does, if it can happen in this state.
- `BridgeHistory`: what has been written, relayed, accepted, routed and returned; it decides
  nothing.
-/

namespace Fidget

open FramedPipe

variable {τ : Type} [DecidableEq τ]

/-! ### The state

For every thread that calls the connection there is the place at which it is. The history notes what
has happened so far; it is there for the statements, and no step looks at it. -/

/-- How a write can end without the whole frame in the pipe. -/
inductive WriteFailure
  | closed
  | system (error : String)
  | zero
  deriving Repr, DecidableEq

def WriteFailure.text : WriteFailure → String
  | closed => "bridge write: connection is closed"
  | system error => "bridge write: " ++ error
  | zero => "bridge write: wrote zero bytes"

/-- What a call returns. -/
inductive CallReply
  | none
  | operation (result : TransportOperationResult)
  | receive (result : TransportReceiveResult) (copied : Datagram)
  deriving Repr, DecidableEq

/-- Where a thread is that calls the connection. -/
inductive CallStage
  | returned (reply : CallReply)
  /-- In `OpenChannel`. -/
  | startingReader
  /-- In `WriteFrame`, from `OpenChannel` with the hello or from `Send`. -/
  | writingFrame (frame : EncodedFrame)
  /-- `WriteFrame` has returned a failure that is not recorded yet. -/
  | writeFailed (failure : WriteFailure)
  | awaitingHello
  /-- Before `Close`, from `CloseChannel`. -/
  | closing
  /-- In `StopAndJoin`: before `shutdownMutex_`, before `CloseWriteDescriptor` and before the
  reader has been joined. -/
  | stopping (reply : CallReply)
  | closingWriter (reply : CallReply)
  | joiningReader (reply : CallReply)
  deriving DecidableEq

/-- `writeMutex_` is held, with the locals of the call of `WriteFrame` that holds it. -/
structure FrameWrite (τ : Type) where
  thread : τ
  frame : EncodedFrame
  offset : Nat
  deriving DecidableEq

/-- Where `ReadLoop` is. -/
inductive ReaderStage
  | absent
  | checking
  | polling
  | reading
  | routing (frames : List BridgeFrame)
  | failing (error : String)
  /-- The stream has ended. -/
  | ended
  | finished
  deriving Repr, DecidableEq

/-- The thread that reads, and its decoder. -/
structure BridgeReader where
  stage : ReaderStage := .absent
  decoder : BridgeFrameDecoder := {}
  deriving DecidableEq

/-- A frame whose write failed, and how many of its bytes were transferred. -/
structure FailedWrite where
  frame : BridgeFrame
  transferred : Nat
  deriving Repr, DecidableEq

/-- What happened on a channel since it was opened. -/
structure BridgeChannelHistory where
  /-- How many datagrams the reader had been through at that time. -/
  openedAt : Nat := 0
  /-- What `RouteFrames` put into the queue. -/
  routed : List Datagram := []
  /-- What `Receive` copied to its callers. -/
  returned : List Datagram := []
  deriving Repr, DecidableEq

/-- What happened on the link. No step depends on it. -/
structure BridgeHistory where
  /-- The frames for which `WriteFrame` had the descriptor, in the order in which it did. -/
  passed : List BridgeFrame := []
  /-- Those of which all bytes were transferred. -/
  written : List BridgeFrame := []
  failedWrites : List FailedWrite := []
  /-- The frames whose payload the relay sent to the MVLC. -/
  relayed : List BridgeFrame := []
  /-- The datagrams that the relay accepted from the MVLC, as frames. -/
  accepted : List BridgeFrame := []
  /-- Those that the reader has been through in `RouteFrames`. -/
  handled : List BridgeFrame := []
  channel : BridgeChannel → BridgeChannelHistory := fun _ => {}

namespace BridgeHistory

/-- The history of one channel. -/
def setChannel (h : BridgeHistory) (channel : BridgeChannel) (history : BridgeChannelHistory) :
    BridgeHistory :=
  { h with channel := Function.update h.channel channel history }

/-- Nothing happened yet on the channel. -/
def openChannel (h : BridgeHistory) (channel : BridgeChannel) : BridgeHistory :=
  h.setChannel channel { openedAt := h.handled.length }

/-- A datagram that `Receive` returns. -/
def returnDatagram (h : BridgeHistory) (channel : BridgeChannel) (copied : Datagram) :
    BridgeHistory :=
  h.setChannel channel
    { h.channel channel with returned := (h.channel channel).returned ++ [copied] }

/-- One frame of `routeFrames`. -/
def routeFrame (h : BridgeHistory) (c : BridgeConnection) (frame : BridgeFrame) : BridgeHistory :=
  match c.frameRoute frame with
  | .hello | .full => h
  | .notOpen => { h with handled := h.handled ++ [frame] }
  | .queued =>
    ({ h with handled := h.handled ++ [frame] }).setChannel frame.channel
      { h.channel frame.channel with
        routed := (h.channel frame.channel).routed ++ [frame.payload] }

/-- Beside `BridgeConnection.routeFrames`. -/
def routeFrames (h : BridgeHistory) (c : BridgeConnection) : List BridgeFrame → BridgeHistory
  | [] => h
  | frame :: frames =>
    if c.frameRoute frame = .full then h
    else (h.routeFrame c frame).routeFrames (c.routeFrame frame) frames

end BridgeHistory

/-- The threads are numbered by `τ`. -/
structure BridgeLink (τ : Type) where
  connection : BridgeConnection
  openMutex : Option τ := none
  shutdownMutex : Option τ := none
  writer : Option (FrameWrite τ) := none
  call : τ → CallStage := fun _ => .returned .none
  reader : BridgeReader := {}
  relay : BridgeRelay := {}
  toRelay : Pipe UInt8 := {}
  toConnection : Pipe UInt8 := {}
  history : BridgeHistory := {}

/-- Before any call. -/
def BridgeLink.initial (readDescriptor writeDescriptor handshakeTimeout : Int)
    (queueCapacity : Nat) : BridgeLink τ where
  connection := { readDescriptor, writeDescriptor, handshakeTimeout, queueCapacity }

/-! ### The events -/

/-- What a thread does that calls the connection, other than to write. -/
inductive CallEvent
  | openChannel (channel : BridgeChannel) (host : String) (port : UInt16)
  /-- With what was thrown if the thread could not be started. -/
  | startReader (exception : Option String)
  | endHelloWait
  | send (channel : BridgeChannel) (data : ByteSpan)
  | recordFailure
  | receive (channel : BridgeChannel) (capacity : Nat) (hasBuffer : Bool)
      (timeoutMilliseconds : Int)
  | closeChannel (channel : BridgeChannel)
  | close
  /-- One step further in `Close` or `StopAndJoin`. -/
  | shutDown
  deriving Repr, DecidableEq

inductive WriteEvent
  | lock
  | write (outcome : WriteOutcome)
  deriving Repr, DecidableEq

inductive PollOutcome
  | failed (error : String)
  | timeout
  | invalid
  | other
  | readable
  deriving Repr, DecidableEq

inductive ReaderEvent
  | check
  | poll (outcome : PollOutcome)
  | read (outcome : ReadOutcome)
  | route
  | fail
  deriving Repr, DecidableEq

inductive RelayEvent
  | start (mvlcHost : String) (commandPort : UInt16) (inputDescriptor outputDescriptor : Int)
  | write (outcome : WriteOutcome)
  /-- `UdpEndpoint::Open`, with the error if it fails. -/
  | openEndpoint (error : Option String)
  | poll (outcome : Except String RelayRevents)
  | read (outcome : ReadOutcome)
  | send (outcome : SendOutcome)
  | receive (outcome : ReceiveOutcome)

/-- Whose turn it is, and what the system answers. -/
inductive BridgeEvent (τ : Type)
  | call (thread : τ) (event : CallEvent)
  | writer (thread : τ) (event : WriteEvent)
  | reader (event : ReaderEvent)
  | relay (event : RelayEvent)

namespace BridgeLink

/-- A thread goes on to another place. -/
def setCall (s : BridgeLink τ) (t : τ) (stage : CallStage) : BridgeLink τ :=
  { s with call := Function.update s.call t stage }

/-- The call returns; if it was `OpenChannel`, it releases `openMutex_`. -/
def finishCall (s : BridgeLink τ) (t : τ) (reply : CallReply) : BridgeLink τ :=
  { s.setCall t (.returned reply) with
    openMutex := if s.openMutex = some t then none else s.openMutex }

/-! ### The callers

Inside a call there are steps that wait: for a mutex, for the hello, for a datagram. A closing call
wakes those that wait. -/

/-- `openMutex_` is held until the channel is open or the wait for the hello has ended. -/
def openChannel (s : BridgeLink τ) (t : τ) (channel : BridgeChannel) (host : String)
    (port : UInt16) : Option (BridgeLink τ) :=
  if s.openMutex ≠ none then none
  else
    let (connection, result) := s.connection.beginOpenChannel channel host port
    let opened := !s.connection.channelOpenLocked channel && connection.channelOpenLocked channel
    let history := if opened then s.history.openChannel channel else s.history
    let s := { s with connection, history }
    match result with
    | some result => some (s.setCall t (.returned (.operation result)))
    | none => some { s.setCall t .startingReader with openMutex := some t }

/-- The one call that starts the thread may find that the system has no thread left. -/
def startReader (s : BridgeLink τ) (t : τ) : Option String → BridgeLink τ
  | none =>
    match RelayStage.encodeBridgeHello with
    | .ok hello =>
      { s.setCall t (.writingFrame hello) with reader := { s.reader with stage := .checking } }
    | .error error =>
      let connection := s.connection.failLocked error
      { s.setCall t (.stopping (.operation { error })) with
        connection, reader := { s.reader with stage := .checking } }
  | some exception =>
    let connection := s.connection.failLocked ("Could not start bridge reader: " ++ exception)
    { s.setCall t (.stopping (.operation { error := connection.failure })) with connection }

/-- The hello is there, or the time is up. -/
def endHelloWait (s : BridgeLink τ) (t : τ) : BridgeLink τ :=
  let (connection, result) := s.connection.endHelloWait
  let s := { s with connection }
  if result.success then s.finishCall t (.operation result)
  else s.setCall t (.stopping (.operation result))

/-- What cannot be encoded is refused before `writeMutex_` is taken. -/
def send (s : BridgeLink τ) (t : τ) (channel : BridgeChannel) (data : ByteSpan) : BridgeLink τ :=
  match s.connection.refuseSend channel with
  | some error => s.setCall t (.returned (.operation { error }))
  | none =>
    match encodeFrame channel data with
    | .error error => s.setCall t (.returned (.operation { error }))
    | .ok frame => s.setCall t (.writingFrame frame)

def receive (s : BridgeLink τ) (t : τ) (channel : BridgeChannel) (capacity : Nat)
    (hasBuffer : Bool) (timeoutMilliseconds : Int) : BridgeLink τ :=
  let (connection, result, copied) :=
    s.connection.receive channel capacity hasBuffer timeoutMilliseconds
  let history :=
    if result.status = .received then s.history.returnDatagram channel copied else s.history
  { s.setCall t (.returned (.receive result copied)) with connection, history }

def closeChannel (s : BridgeLink τ) (t : τ) (channel : BridgeChannel) : BridgeLink τ :=
  let (connection, closeConnection) := s.connection.closeChannel channel
  { s.setCall t (if closeConnection then .closing else .returned .none) with connection }

/-- One more step of `Close` or `StopAndJoin`. -/
def shutDown (s : BridgeLink τ) (t : τ) : Option (BridgeLink τ) :=
  match s.call t with
  | .closing => some { s.setCall t (.stopping .none) with connection := s.connection.close }
  | .stopping reply =>
    if s.shutdownMutex ≠ none then none
    else
      some { s.setCall t (.closingWriter reply) with
        shutdownMutex := some t
        connection := { s.connection with stopRequested := true } }
  | .closingWriter reply =>
    -- `CloseWriteDescriptor` waits for `writeMutex_`.
    if s.writer ≠ none then none
    else
      some { s.setCall t (.joiningReader reply) with
        connection := { s.connection with writeDescriptor := -1 } }
  | .joiningReader reply =>
    -- A thread that was never started is not joinable.
    if s.reader.stage = .absent || s.reader.stage = .finished then
      some { s.finishCall t reply with
        shutdownMutex := none
        connection := { s.connection with readDescriptor := -1, closed := true } }
    else none
  | _ => none

/-- A thread takes its next step inside a call. -/
def callStep (s : BridgeLink τ) (t : τ) (event : CallEvent) : Option (BridgeLink τ) :=
  match event, s.call t with
  | .openChannel channel host port, .returned _ => s.openChannel t channel host port
  | .startReader exception, .startingReader => some (s.startReader t exception)
  | .endHelloWait, .awaitingHello => some (s.endHelloWait t)
  | .send channel data, .returned _ => some (s.send t channel data)
  | .recordFailure, .writeFailed failure =>
    some { s.setCall t (.stopping (.operation { error := failure.text })) with
      connection := s.connection.failLocked failure.text }
  | .receive channel capacity hasBuffer timeoutMilliseconds, .returned _ =>
    some (s.receive t channel capacity hasBuffer timeoutMilliseconds)
  | .closeChannel channel, .returned _ => some (s.closeChannel t channel)
  | .close, .returned _ =>
    some { s.setCall t (.stopping .none) with connection := s.connection.close }
  | .shutDown, _ => s.shutDown t
  | _, _ => none

/-! ### Writing

A frame is written by as many calls of `write` as it takes, all under `writeMutex_`. If one of them
fails, what was written of the frame stays in the pipe. -/

/-- `WriteFrame` takes `writeMutex_`. -/
def lockWriter (s : BridgeLink τ) (t : τ) (frame : EncodedFrame) : Option (BridgeLink τ) :=
  if s.writer ≠ none then none
  else if s.connection.writeDescriptor < 0 then some (s.setCall t (.writeFailed .closed))
  else
    some { s with
      writer := some { thread := t, frame, offset := 0 }
      history := { s.history with passed := s.history.passed ++ [frame.frame] } }

/-- `WriteFrame` returns a failure. -/
def failWrite (s : BridgeLink τ) (w : FrameWrite τ) (failure : WriteFailure) : BridgeLink τ :=
  { s.setCall w.thread (.writeFailed failure) with
    writer := none
    history := { s.history with
      failedWrites :=
        s.history.failedWrites ++ [{ frame := w.frame.frame, transferred := w.offset }] } }

/-- One call of `write` in `WriteFrame`. No more is written than was asked for. -/
def writeFrame (s : BridgeLink τ) (w : FrameWrite τ) : WriteOutcome → Option (BridgeLink τ)
  | .failed error => some (s.failWrite w (.system error))
  | .wrote n =>
    if n = 0 then some (s.failWrite w .zero)
    else
      let toRelay := s.toRelay.put ((w.frame.bytes.drop w.offset).take n)
      if w.offset + n < w.frame.bytes.length then
        some { s with toRelay, writer := some { w with offset := w.offset + n } }
      else if w.offset + n = w.frame.bytes.length then
        let s :=
          { s with
            toRelay
            writer := none
            history := { s.history with written := s.history.written ++ [w.frame.frame] } }
        if w.frame.frame.channel = .hello then some (s.setCall w.thread .awaitingHello)
        else some (s.setCall w.thread (.returned (.operation { success := true })))
      else none

/-- A thread that holds `writeMutex_` gets an answer of the system. -/
def writeStep (s : BridgeLink τ) (t : τ) : WriteEvent → Option (BridgeLink τ)
  | .lock =>
    match s.call t with
    | .writingFrame frame => s.lockWriter t frame
    | _ => none
  | .write outcome =>
    match s.writer with
    | some w => if w.thread = t then s.writeFrame w outcome else none
    | none => none

/-! ### The reader

It reads at most a buffer, decodes it, and goes through the frames. Anything that ends it fails the
connection. -/

def setReader (s : BridgeLink τ) (stage : ReaderStage) : BridgeLink τ :=
  { s with reader := { s.reader with stage } }

/-- The calls of `read` have a buffer of 8192 bytes. -/
def streamReadBufferSize : Nat := 8192

/-- What is read is some of what waits. -/
def readable (pipe : Pipe UInt8) (n : Nat) : Bool :=
  0 < n && n ≤ streamReadBufferSize && n ≤ pipe.waiting.length

/-- The reader gets bytes, the end of the stream or an error. -/
def readerRead (s : BridgeLink τ) : ReadOutcome → Option (BridgeLink τ)
  | .failed error => some (s.setReader (.failing ("bridge read: " ++ error)))
  | .read n =>
    if n = 0 then some (s.setReader .ended)
    else if readable s.toConnection n then
      let (decoder, decoded) := s.reader.decoder.consume (.bytes (s.toConnection.waiting.take n))
      let stage : ReaderStage :=
        if decoded.success then .routing decoded.frames else .failing decoded.error
      some { s with toConnection := s.toConnection.take n, reader := { stage, decoder } }
    else none

/-- The reader reads, decodes and routes, in this order. -/
def readerStep (s : BridgeLink τ) (event : ReaderEvent) : Option (BridgeLink τ) :=
  match event, s.reader.stage with
  | .check, .checking =>
    some (s.setReader (if s.connection.stopRequested then .finished else .polling))
  | .poll outcome, .polling =>
    match outcome with
    | .failed error => some (s.setReader (.failing ("bridge poll: " ++ error)))
    | .timeout | .other => some (s.setReader .checking)
    | .invalid => some (s.setReader (.failing "bridge poll: invalid descriptor"))
    | .readable => some (s.setReader .reading)
  | .read outcome, .reading => s.readerRead outcome
  | .route, .routing frames =>
    let (connection, complete) := s.connection.routeFrames frames
    some { s.setReader (if complete then .checking else .finished) with
      connection, history := s.history.routeFrames s.connection frames }
  | .fail, .failing error =>
    some { s.setReader .finished with connection := s.connection.failLocked error }
  | .fail, .ended =>
    let connection :=
      if s.connection.stopRequested then s.connection
      else s.connection.failLocked "Bridge peer closed the stream"
    some { s.setReader .finished with connection }
  | _, _ => none

/-! ### The relay

A single loop: it waits for its input and its two endpoints and handles what is there. It stops at
the first failure. -/

def setRelay (s : BridgeLink τ) (stage : RelayStage) : BridgeLink τ :=
  { s with relay := { s.relay with stage } }

/-- One call of `write` in `WriteAll`. -/
def relayWrite (s : BridgeLink τ) (frame : EncodedFrame) (offset : Nat)
    (revents : Option RelayRevents) : WriteOutcome → Option (BridgeLink τ)
  | .failed error => some (s.setRelay (.failure (RelayStage.systemError "write" error)))
  | .wrote n =>
    if n = 0 then some (s.setRelay (.failure "write: no progress"))
    else
      let s := { s with toConnection := s.toConnection.put ((frame.bytes.drop offset).take n) }
      if offset + n < frame.bytes.length then
        some (s.setRelay (.writing frame (offset + n) revents))
      else if offset + n = frame.bytes.length then
        some (s.setRelay (RelayStage.afterWriting frame revents))
      else none

/-- The relay gets bytes, the end of the stream or an error. -/
def relayRead (s : BridgeLink τ) (revents : RelayRevents) : ReadOutcome → Option (BridgeLink τ)
  | .failed error => some (s.setRelay (.failure (RelayStage.systemError "read" error)))
  | .read n =>
    if n = 0 then some (s.setRelay (.returned { success := true }))
    else if readable s.toRelay n then
      let (decoder, decoded) := s.relay.decoder.consume (.bytes (s.toRelay.waiting.take n))
      let stage :=
        if decoded.success then RelayStage.sendInputFrames revents decoded.frames
        else .failure ("bridge input: " ++ decoded.error)
      some { s with toRelay := s.toRelay.take n, relay := { stage, decoder } }
    else none

/-- One call of `UdpEndpoint::Send` in `SendInputFrames`. -/
def relaySend (s : BridgeLink τ) (frame : BridgeFrame) (frames : List BridgeFrame)
    (revents : RelayRevents) : SendOutcome → BridgeLink τ
  | .failed error => s.setRelay (.failure (RelayStage.systemError "sendto" error))
  | .short => s.setRelay (.failure "sendto: short UDP datagram")
  | .sent =>
    { s.setRelay (RelayStage.sendInputFrames revents frames) with
      history := { s.history with relayed := s.history.relayed ++ [frame] } }

/-- `ReceiveAndWriteFrame` up to its first write. The buffer holds as much as a frame may. -/
def relayReceive (s : BridgeLink τ) (channel : BridgeChannel) (revents : RelayRevents) :
    ReceiveOutcome → BridgeLink τ
  | .failed error => s.setRelay (.failure (RelayStage.systemError "recvfrom" error))
  | .received datagram accepted =>
    let datagram := datagram.take bridgeMaximumPayloadSize
    let arrived := if accepted then [{ channel, payload := datagram }] else []
    { s.setRelay (RelayStage.writeReceived channel datagram accepted revents) with
      history := { s.history with accepted := s.history.accepted ++ arrived } }

/-- The relay gets the answer that its place waits for. -/
def relayStep (s : BridgeLink τ) (event : RelayEvent) : Option (BridgeLink τ) :=
  match event, s.relay.stage with
  | .start mvlcHost commandPort inputDescriptor outputDescriptor, .starting =>
    some (s.setRelay (.start mvlcHost commandPort inputDescriptor outputDescriptor))
  | .write outcome, .writing frame offset revents => s.relayWrite frame offset revents outcome
  | .openEndpoint (some error), .openingCommand | .openEndpoint (some error), .openingData =>
    some (s.setRelay (.failure error))
  | .openEndpoint none, .openingCommand => some (s.setRelay .openingData)
  | .openEndpoint none, .openingData => some (s.setRelay .polling)
  | .poll (.error error), .polling => some (s.setRelay (.failure (RelayStage.systemError "poll" error)))
  | .poll (.ok revents), .polling => some (s.setRelay (RelayStage.beginInput revents))
  | .read outcome, .readingInput revents => s.relayRead revents outcome
  | .send outcome, .sending frame frames revents => some (s.relaySend frame frames revents outcome)
  | .receive outcome, .receivingCommand revents => some (s.relayReceive .command revents outcome)
  | .receive outcome, .receivingData revents => some (s.relayReceive .data revents outcome)
  | _, _ => none

/-! ### Runs -/

/-- One step of the whole. -/
def step (s : BridgeLink τ) : BridgeEvent τ → Option (BridgeLink τ)
  | .call t event => s.callStep t event
  | .writer t event => s.writeStep t event
  | .reader event => s.readerStep event
  | .relay event => s.relayStep event

end BridgeLink

end Fidget
