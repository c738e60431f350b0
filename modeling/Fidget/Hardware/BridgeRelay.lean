import Fidget.Core.BridgeProtocol.FrameCode

/-!
# The relay at the far end of a bridge

`RunBridgeRelay` is one thread. It writes its hello, opens a socket for each channel and then goes
round a loop: it reads frames from the stream and sends their payloads to the MVLC, and it writes
each datagram that comes back as a frame. A `RelayStage` is where it waits for the next answer of
the system; what it does between two answers is a function.

## Main results

- `RelayStage`: the places at which the relay waits.
- `beginInput`, `beginCommand`, `beginData`: the three descriptors, in the order in which they are
  looked at after a poll.
-/

namespace Fidget

/-- How the relay ended. -/
structure BridgeRelayResult where
  success : Bool := false
  error : String := ""
  deriving Repr, DecidableEq

/-- `revents` of the three descriptors, as far as the loop looks at them. -/
structure RelayRevents where
  /-- `POLLIN | POLLHUP` -/
  inputReadable : Bool := false
  inputFailed : Bool := false
  commandReadable : Bool := false
  commandFailed : Bool := false
  dataReadable : Bool := false
  dataFailed : Bool := false
  deriving Repr, DecidableEq

inductive RelayStage
  | starting
  /-- In `WriteAll`: before the loop the frame is the hello, in it the datagram of an endpoint. -/
  | writing (frame : EncodedFrame) (offset : Nat) (revents : Option RelayRevents)
  | openingCommand
  | openingData
  | polling
  | readingInput (revents : RelayRevents)
  /-- In `SendInputFrames`: a frame that is not a hello, and those behind it. -/
  | sending (frame : BridgeFrame) (frames : List BridgeFrame) (revents : RelayRevents)
  | receivingCommand (revents : RelayRevents)
  | receivingData (revents : RelayRevents)
  | returned (result : BridgeRelayResult)
  deriving DecidableEq

/-- The descriptors and the place of the relay. -/
structure BridgeRelay where
  stage : RelayStage := .starting
  decoder : BridgeFrameDecoder := {}
  deriving DecidableEq

namespace RelayStage

/-- `Failure`. -/
def failure (error : String) : RelayStage := .returned { error }

def systemError (operation error : String) : String := operation ++ ": " ++ error

/-! ### Before the loop -/

def encodeBridgeHello : Except String EncodedFrame :=
  encodeFrame .hello (.bytes [bridgeProtocolVersion])

/-- `RunBridgeRelay` up to its first write. -/
def start (mvlcHost : String) (commandPort : UInt16) (inputDescriptor outputDescriptor : Int) :
    RelayStage :=
  if mvlcHost = "" then failure "The MVLC host is empty"
  else if commandPort = 0 then failure "The MVLC command port is zero"
  else if commandPort = 0xFFFF then failure "The MVLC command port has no adjacent data port."
  else if inputDescriptor < 0 || outputDescriptor < 0 then
    failure "The bridge stream descriptor is invalid"
  else
    match encodeBridgeHello with
    | .error error => failure error
    | .ok hello => .writing hello 0 none

/-! ### One round of the loop, from its end to its beginning -/

/-- The loop goes round. -/
def afterData (revents : RelayRevents) : RelayStage :=
  if revents.dataFailed then failure "poll: data socket failed" else .polling

/-- The data socket is looked at last. -/
def beginData (revents : RelayRevents) : RelayStage :=
  if revents.dataReadable then .receivingData revents else afterData revents

def afterCommand (revents : RelayRevents) : RelayStage :=
  if revents.commandFailed then failure "poll: command socket failed" else beginData revents

/-- Then the command socket. -/
def beginCommand (revents : RelayRevents) : RelayStage :=
  if revents.commandReadable then .receivingCommand revents else afterCommand revents

def afterInput (revents : RelayRevents) : RelayStage :=
  if revents.inputFailed then failure "poll: bridge input failed" else beginCommand revents

/-- The stream is looked at first. -/
def beginInput (revents : RelayRevents) : RelayStage :=
  if revents.inputReadable then .readingInput revents else afterInput revents

/-- The loop of `SendInputFrames` up to its next call of `Send`. -/
def sendInputFrames (revents : RelayRevents) : List BridgeFrame → RelayStage
  | [] => afterInput revents
  | frame :: frames =>
    if frame.channel = .hello then sendInputFrames revents frames
    else .sending frame frames revents

/-- Behind `ReceiveAndWriteFrame`. -/
def afterEndpoint (channel : BridgeChannel) (revents : RelayRevents) : RelayStage :=
  if channel = .command then afterCommand revents else afterData revents

/-- Where the writing of a frame leads: from the hello to the sockets. -/
def afterWriting (frame : EncodedFrame) : Option RelayRevents → RelayStage
  | none => .openingCommand
  | some revents => afterEndpoint frame.frame.channel revents

/-- `ReceiveAndWriteFrame` with what `recvfrom` left in the buffer. -/
def writeReceived (channel : BridgeChannel) (datagram : Datagram) (accepted : Bool)
    (revents : RelayRevents) : RelayStage :=
  if !accepted then afterEndpoint channel revents
  else
    match encodeFrame channel (.bytes datagram) with
    | .error error => failure error
    | .ok frame => .writing frame 0 (some revents)

end RelayStage

/-! ### Answers of the system -/

/-- `write`, made again as long as it is interrupted. -/
inductive WriteOutcome
  | failed (error : String)
  | wrote (n : Nat)
  deriving Repr, DecidableEq

/-- `read` behaves alike; no bytes are the end of the stream. -/
inductive ReadOutcome
  | failed (error : String)
  | read (n : Nat)
  deriving Repr, DecidableEq

/-- `sendto`. A datagram leaves whole or not at all. -/
inductive SendOutcome
  | failed (error : String)
  | short
  | sent
  deriving Repr, DecidableEq

/-- `recvfrom`, with whether the sender is the expected one. -/
inductive ReceiveOutcome
  | failed (error : String)
  | received (datagram : Datagram) (accepted : Bool)
  deriving Repr, DecidableEq

end Fidget
