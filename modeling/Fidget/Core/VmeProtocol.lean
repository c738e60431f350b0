import Mathlib.Data.UInt
import Mathlib.Data.List.Basic
import Mathlib.Logic.Function.Basic

/-!
# Requests to the controller and its replies

The words of `core/VmeProtocol.cpp`: the requests that put a stack into the controller's memory, run
it and write local registers, the frames that come back, and what each of them is accepted for. What
a request does to the local memory when the controller executes it is `requestLocalWrites`. The
stack of `core/ReadoutProtocol.cpp`, which reads one module on its interrupt, and the local writes
that put it into the controller are at the end.

Requests and replies are lists of words here; the bytes of a packet are looked at in
`VmeProtocol.LocalReads`.

## Main results

- `requestLocalWrites_writeLocalWords`: a request writes what it was built to write.
- `MvlcFrameValidationResult`: what a frame is accepted for.
-/

namespace Fidget

/-- The words of a request and of a stack. -/
def mvlcCommandBufferStart : UInt32 := 0xF1000000
def mvlcCommandBufferEnd : UInt32 := 0xF2000000
def mvlcReferenceWordCommand : UInt32 := 0x01010000
def mvlcWriteLocalCommand : UInt32 := 0x02040000
def mvlcStackStartCommand : UInt32 := 0xF3000000
def mvlcStackEndCommand : UInt32 := 0xF4000000
def mvlcWriteMarkerCommand : UInt32 := 0xC2000000
def mvlcVmeReadA32D16Command : UInt32 := 0x12090001
def mvlcVmeWriteA32D16Command : UInt32 := 0x23090001

/-- The registers of the controller. -/
def mvlcStack0TriggerRegister : UInt16 := 0x1100
def mvlcStack0OffsetRegister : UInt16 := 0x1200
def mvlcStackExecutionStatus0 : UInt16 := 0x1400
def mvlcStackExecutionStatus1 : UInt16 := 0x1404
def mvlcStackMemoryBegin : UInt16 := 0x2000
def mvlcImmediateStackOffset : UInt16 := 4
def mvlcImmediateTrigger : UInt32 := (1 : UInt32) <<< 8
def mvlcLocalAddressIncrement : UInt16 := 4

/-- The types and flags of the frames that come back. -/
def mvlcSuperFrameType : UInt8 := 0xF1
def mvlcStackFrameType : UInt8 := 0xF3
def mvlcStackErrorFrameType : UInt8 := 0xF7
def mvlcTimeoutFlag : UInt8 := 1
def mvlcBusErrorFlag : UInt8 := 2
def mvlcSyntaxErrorFlag : UInt8 := 4

/-! ### Requests

Every request has a reference in front, which its reply mirrors. -/

/-- The two words of a reading. -/
def encodeMvlcVmeReadD16Words (address : UInt32) : List UInt32 :=
  [mvlcVmeReadA32D16Command, address]

/-- The three words of a write. -/
def encodeMvlcVmeWriteD16Words (address : UInt32) (value : UInt16) : List UInt32 :=
  [mvlcVmeWriteA32D16Command, address, value.toUInt32]

/-- Two words for each write. -/
def writeLocalWords (writes : List (UInt16 × UInt32)) : List UInt32 :=
  writes.flatMap fun (address, value) => [mvlcWriteLocalCommand ||| address.toUInt32, value]

/-- The words of a request between its start and its end. -/
def requestWords (superReference : UInt16) (writes : List (UInt16 × UInt32)) : List UInt32 :=
  [mvlcCommandBufferStart, mvlcReferenceWordCommand ||| superReference.toUInt32]
    ++ writeLocalWords writes ++ [mvlcCommandBufferEnd]

/-- The stack that is run at once: its words at consecutive places of the stack memory. -/
def immediateStackWrites (stackReference : UInt32) (operationWords : List UInt32) :
    List (UInt16 × UInt32) :=
  ([mvlcStackStartCommand, mvlcWriteMarkerCommand, stackReference] ++ operationWords
    ++ [mvlcStackEndCommand]).zipIdx.map fun (word, index) =>
      (mvlcStackMemoryBegin + mvlcImmediateStackOffset
        + index.toUInt16 * mvlcLocalAddressIncrement, word)

/-- The stack is put into the memory, with the end of the stack after its last word. -/
def buildMvlcStackUploadRequest (superReference : UInt16) (stackReference : UInt32)
    (operationWords : List UInt32) : List UInt32 :=
  requestWords superReference (immediateStackWrites stackReference operationWords)

/-- The status is cleared, the stack is pointed to and triggered. -/
def stackExecuteWrites : List (UInt16 × UInt32) := [
  (mvlcStackExecutionStatus0, 0),
  (mvlcStackExecutionStatus1, 0),
  (mvlcStack0OffsetRegister, mvlcImmediateStackOffset.toUInt32),
  (mvlcStack0TriggerRegister, mvlcImmediateTrigger)]

/-- The request that does so. -/
def buildMvlcStackExecuteRequest (superReference : UInt16) : List UInt32 :=
  requestWords superReference stackExecuteWrites

/-- A request without writes is refused. -/
def buildMvlcLocalRegisterWriteRequest (superReference : UInt16)
    (writes : List (UInt16 × UInt32)) : Except String (List UInt32) :=
  if writes = [] then .error "No MVLC-local register writes were requested"
  else .ok (requestWords superReference writes)

/-! ### What the controller makes of a request

Writes to local registers are executed in order; other commands are passed over. -/

/-- The writes to local registers in a request, in the order they are executed. -/
def requestLocalWrites : List UInt32 → List (UInt16 × UInt32)
  | command :: value :: words =>
    if command >>> 16 = mvlcWriteLocalCommand >>> 16 then
      (command.toUInt16, value) :: requestLocalWrites words
    else requestLocalWrites (value :: words)
  | _ => []

/-- The local registers after a list of writes. -/
def localRegistersAfter (registers : UInt16 → UInt32) (writes : List (UInt16 × UInt32)) :
    UInt16 → UInt32 :=
  writes.foldl (fun registers write => Function.update registers write.1 write.2) registers

/-- A register holds what was last written to it. -/
theorem localRegistersAfter_apply (registers : UInt16 → UInt32) (writes : List (UInt16 × UInt32))
    (address : UInt16) :
    localRegistersAfter registers writes address =
      ((writes.reverse.find? (·.1 == address)).map (·.2)).getD (registers address) := by
  unfold localRegistersAfter
  induction writes generalizing registers with
  | nil => rfl
  | cons write writes ih =>
      rw [List.foldl_cons, ih, List.reverse_cons, List.find?_append]
      cases hfound : writes.reverse.find? (·.1 == address) with
      | some found => rfl
      | none =>
          by_cases haddress : write.1 = address
          · subst haddress
            simp
          · simp [haddress, Function.update_of_ne (Ne.symm haddress)]

/-- A register that is not written keeps its value. -/
theorem localRegistersAfter_of_notMem (registers : UInt16 → UInt32)
    {writes : List (UInt16 × UInt32)} {address : UInt16}
    (h : ∀ write ∈ writes, write.1 ≠ address) :
    localRegistersAfter registers writes address = registers address := by
  rw [localRegistersAfter_apply, List.find?_eq_none.mpr]
  · rfl
  · intro write hwrite
    simpa using h write (List.mem_reverse.mp hwrite)

/-- The address is in the lower half of the word, the command in the upper. -/
theorem toNat_or_address {command : UInt32} (hcommand : command.toNat % 2 ^ 16 = 0)
    (address : UInt16) :
    (command ||| address.toUInt32).toNat = command.toNat + address.toNat := by
  have hshift : command.toNat = (command.toNat / 2 ^ 16) <<< 16 := by
    rw [Nat.shiftLeft_eq]
    omega
  rw [UInt32.toNat_or, UInt16.toNat_toUInt32, hshift,
    ← Nat.shiftLeft_add_eq_or_of_lt address.toNat_lt]

/-- A command keeps its upper half beside the address in its lower half. -/
theorem command_or_address {command : UInt32} (hcommand : command.toNat % 2 ^ 16 = 0)
    (address : UInt16) :
    (command ||| address.toUInt32) >>> 16 = command >>> 16 ∧
      (command ||| address.toUInt32).toUInt16 = address := by
  have hor := toNat_or_address hcommand address
  have hlt := address.toNat_lt
  constructor
  · apply UInt32.toNat_inj.mp
    rw [UInt32.toNat_shiftRight, UInt32.toNat_shiftRight, hor]
    show (_ + _) >>> 16 = _ >>> 16
    rw [Nat.shiftRight_eq_div_pow, Nat.shiftRight_eq_div_pow]
    omega
  · apply UInt16.toNat_inj.mp
    rw [UInt32.toNat_toUInt16, hor]
    omega

/-- The words of some writes are read as these writes. -/
theorem requestLocalWrites_writeLocalWords (writes : List (UInt16 × UInt32))
    (words : List UInt32) :
    requestLocalWrites (writeLocalWords writes ++ words) = writes ++ requestLocalWrites words := by
  induction writes with
  | nil => rfl
  | cons write writes ih =>
      obtain ⟨hcommand, haddress⟩ :=
        @command_or_address mvlcWriteLocalCommand (by decide) write.1
      show requestLocalWrites (_ :: _ :: (writeLocalWords writes ++ words)) = _
      rw [requestLocalWrites, if_pos hcommand, haddress, ih]
      rfl

/-- The controller executes the writes that a request was built from. -/
theorem requestLocalWrites_requestWords (superReference : UInt16)
    (writes : List (UInt16 × UInt32)) :
    requestLocalWrites (requestWords superReference writes) = writes := by
  obtain ⟨hreference, -⟩ :=
    @command_or_address mvlcReferenceWordCommand (by decide) superReference
  have hwords := requestLocalWrites_writeLocalWords writes [mvlcCommandBufferEnd]
  rw [show requestLocalWrites [mvlcCommandBufferEnd] = [] from rfl, List.append_nil] at hwords
  show requestLocalWrites (mvlcCommandBufferStart :: _ :: (writeLocalWords writes ++ _)) = _
  rw [requestLocalWrites, if_neg (by decide)]
  cases hnext : writeLocalWords writes ++ [mvlcCommandBufferEnd] with
  | nil => cases writes <;> cases hnext
  | cons word words =>
      rw [requestLocalWrites, hreference, if_neg (by decide), ← hnext, hwords]

/-! ### Replies

A frame is passed over, accepted or rejected, by its type, its length, its flags and the reference
that it mirrors. -/

/-- A frame, with the type and the flags of its header. -/
structure MvlcFrame where
  type : UInt8 := 0
  flags : UInt8 := 0
  words : List UInt32 := []
  deriving DecidableEq, Repr

/-- A frame can be unrelated to the active transaction, accepted, or rejected. -/
structure MvlcFrameValidationResult where
  isMatch : Bool := false
  success : Bool := false
  error : String := ""
  deriving DecidableEq, Repr

/-- The frame that mirrors the request has its reference in the second word. -/
def isMatchingMvlcSuperFrame (frame : MvlcFrame) (reference : UInt16) : Bool :=
  frame.type == mvlcSuperFrameType && frame.words.length ≥ 2 &&
    frame.words[1]? == some (mvlcReferenceWordCommand ||| reference.toUInt32)

/-- A frame that matches is a success unless its syntax flag is set. -/
def validateMatchingSuperFrame (frame : MvlcFrame) (reference : UInt16) (syntaxError : String) :
    MvlcFrameValidationResult :=
  if !isMatchingMvlcSuperFrame frame reference then {}
  else if frame.flags &&& mvlcSyntaxErrorFlag ≠ 0 then { isMatch := true, error := syntaxError }
  else { isMatch := true, success := true }

/-- The frame that confirms an upload. -/
def validateMvlcStackUploadFrame (frame : MvlcFrame) (reference : UInt16) :
    MvlcFrameValidationResult :=
  validateMatchingSuperFrame frame reference "MVLC rejected the transient VME stack"

/-- The frame that confirms an execution. -/
def validateMvlcStackExecuteSuperFrame (frame : MvlcFrame) (reference : UInt16) :
    MvlcFrameValidationResult :=
  validateMatchingSuperFrame frame reference "MVLC rejected the immediate-stack trigger"

/-- The frame has the marker of the stack. -/
def isStackFrameOf (frame : MvlcFrame) (stackReference : UInt32) : Bool :=
  frame.type == mvlcStackFrameType && frame.words.length ≥ 2 &&
    frame.words[1]? == some stackReference

/-- A frame of another stack is passed over; an error frame is not. -/
def validateMvlcStackExecutionFrame (frame : MvlcFrame) (stackReference : UInt32) :
    MvlcFrameValidationResult :=
  if frame.type = mvlcStackErrorFrameType then
    { isMatch := true, error := "MVLC reported a command-stack error" }
  else if !isStackFrameOf frame stackReference then {}
  else if frame.flags &&& mvlcTimeoutFlag ≠ 0 then
    { isMatch := true, error := "VME device did not respond" }
  else if frame.flags &&& mvlcBusErrorFlag ≠ 0 then { isMatch := true, error := "VME bus error" }
  else if frame.flags &&& mvlcSyntaxErrorFlag ≠ 0 then
    { isMatch := true, error := "MVLC command-stack syntax error" }
  else { isMatch := true, success := true }

/-- The value is the lower half of the third word. -/
def parseMvlcVmeReadD16Reply (stackFrame : MvlcFrame) : Except String UInt16 :=
  if stackFrame.words.length ≠ 3 then .error "Unexpected VME-read response size"
  else .ok ((stackFrame.words[2]?.getD 0) &&& 0xFFFF).toUInt16

/-- A write is answered without a value. -/
def parseMvlcVmeWriteD16Reply (stackFrame : MvlcFrame) : Option String :=
  if stackFrame.words.length ≠ 2 then some "Unexpected VME-write response size" else none

/-! ### The readout stack

A list of words that is put into the memory of the controller, and the registers that say when it
runs. -/

/-- What is written into the controller to read one module. -/
structure MvlcSingleMdppReadoutPlan where
  stackId : UInt8 := 1
  stackMemoryOffset : UInt16 := 0x0200
  stackOffsetRegister : UInt16 := 0x1204
  stackTriggerRegister : UInt16 := 0x1104
  triggerValue : UInt16 := 0
  stackUploadWrites : List (UInt16 × UInt32) := []
  deriving DecidableEq, Repr

/-- The stack that reads one module on its interrupt. -/
def makeMvlcSingleMdppReadoutPlan (mdppBaseAddress : UInt32) (irqLevel : UInt16) :
    Except String MvlcSingleMdppReadoutPlan :=
  if mdppBaseAddress &&& 0xFFFF ≠ 0 then
    .error "The MDPP base must be a full 64-KiB-aligned A32 address."
  else if irqLevel < 1 ∨ irqLevel > 6 then
    .error "The configured MDPP IRQ level must be 1 through 6."
  else
    let stackMemoryOffset := 1 * 128 * mvlcLocalAddressIncrement
    let stackWords : List UInt32 := [
      0xF3010000,
      0x1208FFFF,
      mdppBaseAddress,
      mvlcVmeWriteA32D16Command,
      mdppBaseAddress + 0x6034,
      1,
      mvlcStackEndCommand]
    .ok {
      stackId := 1
      stackMemoryOffset
      stackOffsetRegister := mvlcStack0OffsetRegister + 1 * mvlcLocalAddressIncrement
      stackTriggerRegister := mvlcStack0TriggerRegister + 1 * mvlcLocalAddressIncrement
      triggerValue := (2 : UInt16) <<< 5 ||| (irqLevel - 1)
      stackUploadWrites := stackWords.zipIdx.map fun (word, index) =>
        (mvlcStackMemoryBegin + stackMemoryOffset + index.toUInt16 * mvlcLocalAddressIncrement,
          word) }

end Fidget
