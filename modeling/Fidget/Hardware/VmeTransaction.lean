import Fidget.Core.VmeProtocol
import Fidget.Lib.NumberedHistory

/-!
# Transactions over a lossy network

`hardware/VmeTransaction.cpp` between a caller and the controller: a transaction uploads a stack and
has it run, each with a request and a reply, and tries again with new references when one of them
fails. The network may lose, delay, duplicate and reorder requests and replies: the controller may
execute any request that was ever sent, at any time and any number of times, and the caller may
receive any frames that were ever sent back.

Time does not occur in the model. A wait that ends without a reply, and one whose reply is late, are
the same to the caller, who then tries again with new references; that a reply belongs to the
attempt that waits for it is decided by the references alone, and this is what the statements are
about.

## Main results

- `Link.execute`: what the controller does with a request, whenever it arrives.
- `attemptStack`: one attempt, which uploads a stack and has it run.
- `runStackTransaction`: attempts up to a success or to the last one.
- `readVmeD16`, `writeVmeD16`: the two calls that the rest of the program makes.
-/

namespace Fidget

/-- So many attempts are made. -/
def mvlcTransactionAttemptCount : Nat := 3
/-- So many datagrams are waited for. -/
def mvlcMaximumResponseDatagrams : Nat := 8

/-! ### The controller

The local memory, what was executed and what was sent back are kept; of the module behind the bus
only the outcomes matter. -/

/-- A reading or a write on the bus. -/
inductive VmeOperation where
  | read (address : UInt32)
  | write (address : UInt32) (value : UInt16)
  deriving DecidableEq, Repr

/-- The stack that performs it. -/
def VmeOperation.words : VmeOperation → List UInt32
  | read address => encodeMvlcVmeReadD16Words address
  | write address value => encodeMvlcVmeWriteD16Words address value

/-- The stack at the start of the immediate stack memory: its marker and its operation. -/
def currentStack (memory : UInt16 → UInt32) : Option (UInt32 × VmeOperation) :=
  if memory 0x2004 = mvlcStackStartCommand ∧ memory 0x2008 = mvlcWriteMarkerCommand then
    if memory 0x2010 = mvlcVmeReadA32D16Command ∧ memory 0x2018 = mvlcStackEndCommand then
      some (memory 0x200C, .read (memory 0x2014))
    else if memory 0x2010 = mvlcVmeWriteA32D16Command ∧ memory 0x201C = mvlcStackEndCommand then
      some (memory 0x200C, .write (memory 0x2014) (memory 0x2018).toUInt16)
    else none
  else none

/-- How an operation on the bus ends, and the frame that reports it. -/
structure StackOutcome where
  failed : Bool
  header : UInt32
  flags : UInt8
  data : List UInt32

def StackOutcome.frame (outcome : StackOutcome) (reference : UInt32) : MvlcFrame :=
  { type := if outcome.failed then mvlcStackErrorFrameType else mvlcStackFrameType
    flags := outcome.flags
    words := outcome.header :: reference :: outcome.data }

/-- A request is executed: which one, and what the reply holds beside its reference. -/
structure Activity where
  request : Nat
  superHeader : UInt32
  superFlags : UInt8
  superRest : List UInt32
  outcome : StackOutcome
  /-- What is sent back for a stack that is none of the caller's. -/
  garbage : MvlcFrame

/-- An operation that the controller has performed, and with which reference. -/
structure ExecutedOperation where
  reference : UInt32
  operation : VmeOperation
  outcome : StackOutcome

/-- The network with the controller, and the caller's counters. -/
structure Link where
  /-- Counts the looks at the cancellation flag, which may change between two of them. -/
  clock : Nat := 0
  sent : List (List UInt32) := []
  frames : List MvlcFrame := []
  memory : UInt16 → UInt32
  /-- The operations executed on the bus, the latest first. -/
  executed : List ExecutedOperation := []
  nextSuperReference : UInt16
  nextStackReference : UInt32
  attempts : Nat := 0

namespace Link

/-- Nothing has been sent; the controller may hold anything. -/
def fresh (memory : UInt16 → UInt32) (superReference : UInt16) (stackReference : UInt32) : Link :=
  { memory, nextSuperReference := superReference, nextStackReference := stackReference }

/-- The immediate stack is run. -/
def runStack (link : Link) (activity : Activity) : Link :=
  match currentStack link.memory with
  | some (reference, operation) =>
    { link with
      frames := activity.outcome.frame reference :: link.frames
      executed := ⟨reference, operation, activity.outcome⟩ :: link.executed }
  | none => { link with frames := activity.garbage :: link.frames }

/-- A request reaches the controller: its writes take effect, and a stack may run. -/
def execute (link : Link) (activity : Activity) : Link :=
  match link.sent[activity.request]? with
  | none => link
  | some words =>
    let writes := requestLocalWrites words
    let link := { link with
      memory := localRegistersAfter link.memory writes
      frames :=
        { type := mvlcSuperFrameType
          flags := activity.superFlags
          words := activity.superHeader :: words[1]?.getD 0 :: activity.superRest } ::
            link.frames }
    if (mvlcStack0TriggerRegister, mvlcImmediateTrigger) ∈ writes then link.runStack activity
    else link

end Link

/-- What a call to receive gives. Frames are named by their place among those sent back. -/
inductive Delivery where
  | failed (error : String)
  | frames (places : List Nat)

/-- What the controller does between the calls, what is delivered, and when a cancellation was
requested. -/
structure Network where
  /-- What the controller does before a call to the transport returns. -/
  activity : Link → List Activity
  sendError : Link → Option String
  delivery : Link → Delivery
  cancellationRequested : Link → Bool

/-! ### Calls to the transport

In every call the network may let the controller do any number of things first. -/

section

variable (network : Network)

/-- The flag is looked at. -/
def loadCancellation (link : Link) : Bool × Link :=
  (network.cancellationRequested link, { link with clock := link.clock + 1 })

/-- A request that could not be sent may be on its way all the same. -/
def sendWords (words : List UInt32) (link : Link) : Option String × Link :=
  let error := network.sendError link
  let link := { link with sent := words :: link.sent, clock := link.clock + 1 }
  (error, (network.activity link).foldl Link.execute link)

/-- The frames of one datagram, or none in time. -/
def receiveFrames (link : Link) : Except String (List MvlcFrame) × Link :=
  let link := { link with clock := link.clock + 1 }
  let link := (network.activity link).foldl Link.execute link
  match network.delivery link with
  | .failed error => (.error error, link)
  | .frames places => (.ok (places.filterMap (link.frames[·]?)), link)

/-! ### The upload

The reply is waited for, for so many datagrams. -/

/-- What the first frame says that is about the upload. -/
def uploadVerdict (superReference : UInt16) (frames : List MvlcFrame) :
    Option MvlcFrameValidationResult :=
  (frames.map (validateMvlcStackUploadFrame · superReference)).find? (·.isMatch)

/-- Wait for the reply to an upload. The error is the last one of the loop. -/
def awaitUpload (superReference : UInt16) : Nat → Link → Option String × Link
  | 0, link =>
    let (cancelled, link) := loadCancellation network link
    (some (if cancelled then "MDPP inspection cancelled"
      else "No matching MVLC stack-upload response"), link)
  | packets + 1, link =>
    match loadCancellation network link with
    | (true, link) =>
      let (cancelled, link) := loadCancellation network link
      (some (if cancelled then "MDPP inspection cancelled"
        else "No matching MVLC stack-upload response"), link)
    | (false, link) =>
      match receiveFrames network link with
      | (.error error, link) => (some error, link)
      | (.ok frames, link) =>
        match uploadVerdict superReference frames with
        | some validation => (if validation.success then none else some validation.error, link)
        | none => awaitUpload superReference packets link

/-- The request, and the reply to it. -/
def uploadStack (superReference : UInt16) (stackReference : UInt32)
    (operationWords : List UInt32) (link : Link) : Option String × Link :=
  match sendWords network
      (buildMvlcStackUploadRequest superReference stackReference operationWords) link with
  | (some error, link) => (some error, link)
  | (none, link) => awaitUpload network superReference mvlcMaximumResponseDatagrams link

/-! ### The execution

Two replies are waited for, in either order: that the request was taken, and the frame of the stack.
-/

/-- Whether another attempt makes sense. -/
inductive RetryDisposition where
  | retry
  | stop
  deriving DecidableEq, Repr

/-- How an execution ends: with a frame, or with an error and whether to try again. -/
structure StackExecutionResult where
  success : Bool := false
  retryDisposition : RetryDisposition := .retry
  stackFrame : MvlcFrame := {}
  error : String := ""
  deriving DecidableEq, Repr

/-- A timeout or an error on the bus is final. -/
def isTerminalVmeFailure (frame : MvlcFrame) (stackReference : UInt32) : Bool :=
  isStackFrameOf frame stackReference &&
    frame.flags &&& (mvlcTimeoutFlag ||| mvlcBusErrorFlag) != 0

/-- What has come in of the two replies to an execution. -/
structure ExecutionReplies where
  receivedSuperFrame : Bool := false
  stackFrame : Option MvlcFrame := none

/-- Take in the frames of one datagram, up to one that ends the execution. -/
def takeFrames (superReference : UInt16) (stackReference : UInt32) :
    List MvlcFrame → ExecutionReplies → Except StackExecutionResult ExecutionReplies
  | [], replies => .ok replies
  | frame :: frames, replies =>
    let superValidation := validateMvlcStackExecuteSuperFrame frame superReference
    if superValidation.isMatch then
      if superValidation.success then
        takeFrames superReference stackReference frames
          { replies with receivedSuperFrame := true }
      else .error { error := superValidation.error }
    else
      let stackValidation := validateMvlcStackExecutionFrame frame stackReference
      if !stackValidation.isMatch then takeFrames superReference stackReference frames replies
      else if stackValidation.success then
        takeFrames superReference stackReference frames { replies with stackFrame := some frame }
      else
        .error {
          error := stackValidation.error
          retryDisposition :=
            if isTerminalVmeFailure frame stackReference then .stop else .retry }

/-- Wait for the two replies, for so many datagrams at most. -/
def awaitExecution (superReference : UInt16) (stackReference : UInt32) :
    Nat → ExecutionReplies → Link → StackExecutionResult × Link
  | 0, _, link =>
    let (cancelled, link) := loadCancellation network link
    ({ error :=
        if cancelled then "MDPP inspection cancelled" else "Incomplete MVLC VME-read response" },
      link)
  | packets + 1, replies, link =>
    match loadCancellation network link with
    | (true, link) =>
      let (cancelled, link) := loadCancellation network link
      ({ error :=
          if cancelled then "MDPP inspection cancelled" else "Incomplete MVLC VME-read response" },
        link)
    | (false, link) =>
      match receiveFrames network link with
      | (.error error, link) => ({ error }, link)
      | (.ok frames, link) =>
        match takeFrames superReference stackReference frames replies with
        | .error result => (result, link)
        | .ok replies =>
          match replies.receivedSuperFrame, replies.stackFrame with
          | true, some stackFrame =>
            ({ success := true, retryDisposition := .stop, stackFrame }, link)
          | _, _ => awaitExecution superReference stackReference packets replies link

/-- The request, and the replies to it. -/
def executeStack (superReference : UInt16) (stackReference : UInt32) (link : Link) :
    StackExecutionResult × Link :=
  match sendWords network (buildMvlcStackExecuteRequest superReference) link with
  | (some error, link) => ({ error }, link)
  | (none, link) =>
    awaitExecution network superReference stackReference mvlcMaximumResponseDatagrams {} link

/-! ### The transaction

An attempt that failed is followed by another one unless its error is final. -/

/-- One attempt, with references of its own. -/
def attemptStack (operation : VmeOperation) (link : Link) : StackExecutionResult × Link :=
  let stackReference := link.nextStackReference
  let uploadReference := link.nextSuperReference
  let link := { link with
    nextStackReference := link.nextStackReference + 1
    nextSuperReference := link.nextSuperReference + 1
    attempts := link.attempts + 1 }
  match uploadStack network uploadReference stackReference operation.words link with
  | (some error, link) => ({ error }, link)
  | (none, link) =>
    let executeReference := link.nextSuperReference
    let link := { link with nextSuperReference := link.nextSuperReference + 1 }
    executeStack network executeReference stackReference link

/-- The error of a transaction that was given up. -/
def giveUp (lastResult : StackExecutionResult) (link : Link) : StackExecutionResult × Link :=
  let (cancelled, link) := loadCancellation network link
  if cancelled then ({ lastResult with error := "MDPP inspection cancelled" }, link)
  else if lastResult.error = "" then
    ({ lastResult with error := "MVLC VME transaction failed" }, link)
  else (lastResult, link)

/-- An attempt after the other, each with references of its own. -/
def runStackTransaction (operation : VmeOperation) :
    Nat → StackExecutionResult → Link → StackExecutionResult × Link
  | 0, lastResult, link => giveUp network lastResult link
  | attempts + 1, lastResult, link =>
    match loadCancellation network link with
    | (true, link) => giveUp network lastResult link
    | (false, link) =>
      let (result, link) := attemptStack network operation link
      if result.success ∨ result.retryDisposition = .stop then (result, link)
      else runStackTransaction operation attempts result link

/-- The value, or the error of the last attempt. -/
def readVmeD16 (address : UInt32) (link : Link) : Except String UInt16 × Link :=
  let (transaction, link) :=
    runStackTransaction network (.read address) mvlcTransactionAttemptCount {} link
  if transaction.success then (parseMvlcVmeReadD16Reply transaction.stackFrame, link)
  else (.error transaction.error, link)

/-- The error of the write, if it failed. -/
def writeVmeD16 (address : UInt32) (value : UInt16) (link : Link) : Option String × Link :=
  let (transaction, link) :=
    runStackTransaction network (.write address value) mvlcTransactionAttemptCount {} link
  if transaction.success then (parseMvlcVmeWriteD16Reply transaction.stackFrame, link)
  else (some transaction.error, link)

/-- A call of either kind, its answer put aside. -/
def callVmeD16 (operation : VmeOperation) (link : Link) : Link :=
  match operation with
  | .read address => (readVmeD16 network address link).2
  | .write address value => (writeVmeD16 network address value link).2

end

end Fidget
