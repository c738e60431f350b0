import Fidget.Lib.FrameStream
import Mathlib.Data.UInt
import Mathlib.Tactic.IntervalCases
import Std.Data.TreeMap

/-!
# The stream decoder

`core/StreamDecoder.cpp`: bytes arrive in arbitrary pieces and carry system frames, Ethernet
packets and raw stack frames. The stack words of either kind go through one assembler, which
collects the words of block frames; a complete block frame is decoded into waveforms, and those go
into a bounded history per channel.

The source keeps the pending bytes in a buffer and looks at its front as long as there is a whole
unit; `drain` is that loop, which ends because every unit takes bytes. Integers have the widths of
the source, so the counters of the statistics wrap around as they do there.

## Main results

- `streamFraming`: the decoder's units as a framing, so that the general development applies.
- `consume`: what the decoder does with a piece of the stream.
-/

namespace Fidget

def mvlcStackFrame : UInt8 := 0xF3
def mvlcBlockReadFrame : UInt8 := 0xF5
def mvlcStackContinuation : UInt8 := 0xF9
def mvlcSystemEvent : UInt8 := 0xFA
def mvlcSystemEvent2 : UInt8 := 0xFB

def frameLengthMask : UInt32 := 0x1FFF
def ethernetDataWordsMask : UInt32 := 0x1FFF
def ethernetPacketNumberMask : UInt32 := 0x0FFF
def ethernetNoHeaderPointer : UInt32 := 0x0FFF
def ethernetHeaderWords : Nat := 2

def frameType (word : UInt32) : UInt8 := (word >>> 24).toUInt8

/-! ### Data

The decoder keeps four things: the pending bytes, the assembly of words, the histories with their
counters, and the statistics. -/

structure MdppWaveform where
  sequence : UInt64 := 0
  moduleId : UInt8 := 0
  channel : Int := -1
  sampleSource : UInt8 := 0
  noOffsetCorrection : Bool := false
  noResampling : Bool := false
  phase : UInt16 := 0
  timestamp : UInt64 := 0
  samples : List Int16 := []
  deriving DecidableEq

/-- Waveforms can be laid over one another if they were sampled alike. -/
def hasSameSampleConfiguration (left right : MdppWaveform) : Bool :=
  left.sampleSource == right.sampleSource &&
    left.noOffsetCorrection == right.noOffsetCorrection &&
    left.noResampling == right.noResampling && left.samples.length == right.samples.length

structure StreamDecoderStats where
  systemFrames : UInt64 := 0
  ethernetPackets : UInt64 := 0
  lostEthernetPackets : UInt64 := 0
  blockFrames : UInt64 := 0
  decodedWaveforms : UInt64 := 0
  malformedWords : UInt64 := 0
  bufferedBytes : Nat := 0
  deriving DecidableEq

/-- Ordered by module, then by channel. -/
structure MdppChannelAddress where
  moduleId : UInt8 := 0
  channel : Int := -1
  deriving DecidableEq, Ord

/-- The oldest waveform is dropped beyond so many. -/
def mdppWaveformHistoryCapacity : Nat := 100

/-- The waveforms of one channel, the oldest first, and how many there have been in all. -/
structure ChannelHistory where
  totalCaptured : UInt64 := 0
  waveforms : List MdppWaveform := []

/-- The part of the decoder that straddles packets: how many words the open stack frame and the
open block frame still lack, and the words of the block so far. -/
structure FrameAssembly where
  stackWordsRemaining : Nat := 0
  blockWordsRemaining : Nat := 0
  blockData : List UInt32 := []

structure MvmeStreamDecoder extends FrameAssembly where
  pendingBytes : List UInt8 := []
  lastEthernetPacket : Option UInt16 := none
  historiesByChannel : Std.TreeMap MdppChannelAddress ChannelHistory := {}
  latestChannel : Option MdppChannelAddress := none
  stats : StreamDecoderStats := {}
  nextWaveformSequence : UInt64 := 1

namespace MvmeStreamDecoder

/-- Everything is forgotten, the pending bytes too. -/
def reset (_ : MvmeStreamDecoder) : MvmeStreamDecoder := {}

/-- The frame that was being collected is lost. -/
def resetFrameAssembly (d : MvmeStreamDecoder) : MvmeStreamDecoder :=
  { d with toFrameAssembly := {} }

/-- What `Stats()` reports. -/
def reportedStats (d : MvmeStreamDecoder) : StreamDecoderStats :=
  { d.stats with bufferedBytes := d.pendingBytes.length }

def countMalformedWord (d : MvmeStreamDecoder) : MvmeStreamDecoder :=
  { d with stats := { d.stats with malformedWords := d.stats.malformedWords + 1 } }

/-- The four channels of a quad begin again. -/
def clearWaveformHistoriesForQuad (d : MvmeStreamDecoder) (selectedQuad : UInt16) :
    MvmeStreamDecoder :=
  let inQuad (address : MdppChannelAddress) : Bool :=
    0 ≤ address.channel && (address.channel.toNat / 4).toUInt16 == selectedQuad
  { d with
    historiesByChannel := d.historiesByChannel.map fun address history =>
      if inQuad address then {} else history
    latestChannel := d.latestChannel.filter fun address => !inQuad address }

/-! ### Waveforms of a block frame

The words of a block are walked once. A trail has a header and its samples, two to a word. -/

/-- Two's complement in fourteen bits. -/
def decodeSigned14 (value : UInt32) : Int16 :=
  let value := value &&& 0x3FFF
  let value := if value &&& 0x2000 ≠ 0 then value ||| 0xFFFFC000 else value
  value.toUInt16.toInt16

/-- What a trail in a block amounts to: a header that does not fit, a trail whose samples are
broken off, or a waveform (its sequence number is given when it is recorded). -/
inductive BlockItem where
  | malformedTrail
  | invalidSamples
  | waveform (waveform : MdppWaveform)
  deriving DecidableEq

/-- The time stamp of a block: the last words of either kind decide. -/
def blockTimestamp (blockData : List UInt32) : UInt64 :=
  let (timestamp, extendedTimestamp) := blockData.foldl
    (fun ((timestamp, extended) : UInt64 × UInt16) word =>
      if word >>> 30 = 0x3 then ((word &&& 0x3FFFFFFF).toUInt64, extended)
      else if word >>> 28 = 0x2 then (timestamp, (word &&& 0xFFFF).toUInt16)
      else (timestamp, extended))
    (0, 0)
  timestamp ||| (extendedTimestamp.toUInt64 <<< 30)

/-- The trail that starts with `word`, its samples being the words `packed`. -/
def trailItem (moduleId : UInt8) (timestamp : UInt64) (currentChannel : Int) (word : UInt32)
    (packed : List UInt32) : BlockItem :=
  let config := ((word >>> 19) &&& 0xFF).toUInt8
  if packed.all fun packedSamples => packedSamples >>> 28 == 0x3 then
    .waveform
      { moduleId
        channel := currentChannel
        sampleSource := config &&& 0x3
        noOffsetCorrection := config &&& 0x80 != 0
        noResampling := config &&& 0x40 != 0
        phase := ((word >>> 10) &&& 0x01FF).toUInt16
        timestamp
        samples := packed.flatMap fun packedSamples =>
          let samplePayload := packedSamples &&& 0x0FFFFFFF
          [decodeSigned14 (samplePayload &&& 0x3FFF),
            decodeSigned14 ((samplePayload >>> 14) &&& 0x3FFF)] }
  else .invalidSamples

/-- Walk the words after the module header. -/
def trailItems (moduleId : UInt8) (timestamp : UInt64) : (currentChannel : Int) → List UInt32 →
    List BlockItem
  | _, [] => []
  | currentChannel, word :: rest =>
    if word >>> 28 = 0x1 then
      -- Channel-time and amplitude words name the channel; trigger-time words do not.
      if (word >>> 21) &&& 0x3 ≤ 1 then
        trailItems moduleId timestamp ((word >>> 16) &&& 0x1F).toNat rest
      else trailItems moduleId timestamp currentChannel rest
    else if word >>> 28 ≠ 0x3 ∨ currentChannel < 0 then
      trailItems moduleId timestamp currentChannel rest
    else
      let sampleWords := (word &&& 0x03FF).toNat
      if sampleWords = 0 ∨ rest.length < sampleWords then
        .malformedTrail :: trailItems moduleId timestamp currentChannel rest
      else
        trailItem moduleId timestamp currentChannel word (rest.take sampleWords) ::
          trailItems moduleId timestamp currentChannel (rest.drop sampleWords)
termination_by _ words => words.length
decreasing_by all_goals grind

/-- The trails in the words of a block, in order. -/
def blockItems (blockData : List UInt32) : List BlockItem :=
  match blockData with
  | [] => []
  | moduleHeader :: rest =>
    if blockData.length < 3 ∨ moduleHeader >>> 28 ≠ 0x4 then []
    else
      trailItems ((moduleHeader >>> 16) &&& 0xFF).toUInt8 (blockTimestamp blockData) (-1) rest

/-- A waveform of another configuration starts its channel's history afresh; the oldest one leaves a
full history. -/
def recordInHistories (historiesByChannel : Std.TreeMap MdppChannelAddress ChannelHistory)
    (waveform : MdppWaveform) : Std.TreeMap MdppChannelAddress ChannelHistory :=
  let address : MdppChannelAddress := ⟨waveform.moduleId, waveform.channel⟩
  let history := historiesByChannel.getD address {}
  let waveforms :=
    match history.waveforms.getLast? with
    | some last => if hasSameSampleConfiguration last waveform then history.waveforms else []
    | none => []
  let waveforms := if waveforms.length = mdppWaveformHistoryCapacity then waveforms.tail
    else waveforms
  historiesByChannel.insert address
    { totalCaptured := history.totalCaptured + 1, waveforms := waveforms ++ [waveform] }

/-- The waveform gets its number and joins the history of its channel. -/
def recordWaveform (d : MvmeStreamDecoder) (waveform : MdppWaveform) : MvmeStreamDecoder :=
  { d with
    historiesByChannel := recordInHistories d.historiesByChannel waveform
    latestChannel := some ⟨waveform.moduleId, waveform.channel⟩
    stats := { d.stats with decodedWaveforms := d.stats.decodedWaveforms + 1 } }

/-- Every trail with a proper header takes a sequence number, valid or not. -/
def processBlockItem (d : MvmeStreamDecoder) : BlockItem → MvmeStreamDecoder
  | .malformedTrail => d.countMalformedWord
  | .invalidSamples =>
    countMalformedWord { d with nextWaveformSequence := d.nextWaveformSequence + 1 }
  | .waveform waveform =>
    recordWaveform { d with nextWaveformSequence := d.nextWaveformSequence + 1 }
      { waveform with sequence := d.nextWaveformSequence }

/-- A complete block frame is decoded and let go. -/
def decodeBlockFrame (d : MvmeStreamDecoder) : MvmeStreamDecoder :=
  (blockItems d.blockData).foldl processBlockItem d

/-! ### Words, packets and frames

A word goes to the assembly, and completes a block or does not. A packet may be preceded by a gap,
which loses what is under assembly. -/

def countBlockFrame (d : MvmeStreamDecoder) : MvmeStreamDecoder :=
  { d with stats := { d.stats with blockFrames := d.stats.blockFrames + 1 } }

/-- One step of the assembly, and the decoding of the block that it completes. -/
def processStackWord (d : MvmeStreamDecoder) (word : UInt32) : MvmeStreamDecoder :=
  if d.blockWordsRemaining > 0 then
    if d.stackWordsRemaining = 0 then
      d.countMalformedWord.resetFrameAssembly
    else
      let d := { d with
        blockData := d.blockData ++ [word]
        blockWordsRemaining := d.blockWordsRemaining - 1
        stackWordsRemaining := d.stackWordsRemaining - 1 }
      if d.blockWordsRemaining = 0 then
        { d.countBlockFrame.decodeBlockFrame with blockData := [] }
      else d
  else if d.stackWordsRemaining > 0 then
    if frameType word = mvlcBlockReadFrame then
      let blockLength := (word &&& frameLengthMask).toNat
      let d := { d with stackWordsRemaining := d.stackWordsRemaining - 1 }
      if blockLength > d.stackWordsRemaining then
        d.countMalformedWord.resetFrameAssembly
      else
        let d := { d with blockWordsRemaining := blockLength, blockData := [] }
        if blockLength = 0 then d.countBlockFrame else d
    else { d with stackWordsRemaining := d.stackWordsRemaining - 1 }
  else if frameType word = mvlcStackFrame ∨ frameType word = mvlcStackContinuation then
    { d with stackWordsRemaining := (word &&& frameLengthMask).toNat }
  else d

def processStackWords (d : MvmeStreamDecoder) (words : List UInt32) : MvmeStreamDecoder :=
  words.foldl processStackWord d

/-- The payload words of a packet that are processed: all of them while a stack frame is open, else
those from the header pointer on. A pointer outside the payload is none, as is an absent one. -/
def payloadStart (d : MvmeStreamDecoder) (header1 : UInt32) (payload : List UInt32) :
    Option (List UInt32) :=
  if d.stackWordsRemaining = 0 then
    let nextHeaderPointer := header1 &&& 0x0FFF
    if nextHeaderPointer = ethernetNoHeaderPointer then some []
    else if nextHeaderPointer.toNat ≥ payload.length then none
    else some (payload.drop nextHeaderPointer.toNat)
  else some payload

/-- Take note of a packet number; a gap discards the frame under assembly. -/
def noteEthernetPacket (d : MvmeStreamDecoder) (packetNumber : UInt16) : MvmeStreamDecoder :=
  let d' :=
    match d.lastEthernetPacket with
    | none => d
    | some last =>
      let expected := (last + 1) &&& ethernetPacketNumberMask.toUInt16
      if packetNumber ≠ expected then
        let lost := (packetNumber - expected) &&& ethernetPacketNumberMask.toUInt16
        resetFrameAssembly { d with stats := { d.stats with
          lostEthernetPackets := d.stats.lostEthernetPackets + lost.toUInt64 } }
      else d
  { d' with lastEthernetPacket := some packetNumber }

/-- What a packet does before its words are processed, and the words that are. -/
def enterEthernetPacket (d : MvmeStreamDecoder) (header0 header1 : UInt32)
    (payload : List UInt32) : MvmeStreamDecoder × List UInt32 :=
  let packetChannel := (header0 >>> 28) &&& 0x3
  let packetNumber := ((header0 >>> 16) &&& ethernetPacketNumberMask).toUInt16
  let d := { d with stats := { d.stats with ethernetPackets := d.stats.ethernetPackets + 1 } }
  if packetChannel ≠ 2 then (d, [])
  else
    let d := d.noteEthernetPacket packetNumber
    match d.payloadStart header1 payload with
    | none => (d.countMalformedWord, [])
    | some words => (d, words)

/-- A gap in the packet numbers loses the frame that was being collected; then the words of the
packet are taken. -/
def processEthernetPacket (d : MvmeStreamDecoder) (packet : List UInt32) : MvmeStreamDecoder :=
  match packet with
  | header0 :: header1 :: payload =>
    let (d, words) := d.enterEthernetPacket header0 header1 payload
    d.processStackWords words
  | _ => d

end MvmeStreamDecoder

/-! ### Bytes

As long as a whole unit stands at the front of the pending bytes it is cut out and processed. -/

def readLittleEndianWord (data : List UInt8) : UInt32 :=
  (data.getD 0 0).toUInt32 ||| ((data.getD 1 0).toUInt32 <<< 8) |||
    ((data.getD 2 0).toUInt32 <<< 16) ||| ((data.getD 3 0).toUInt32 <<< 24)

/-- The words of a run of whole words. -/
def readWords (data : List UInt8) : List UInt32 :=
  if data.length < 4 then [] else readLittleEndianWord data :: readWords (data.drop 4)
termination_by data.length
decreasing_by grind

/-- What stands at the front of the pending bytes. -/
inductive StreamUnit where
  | systemFrame
  | unknownChannel
  | ethernetPacket
  | stackFrame
  | malformedWord
  deriving DecidableEq

/-- The front of the pending bytes and its length in bytes; none while it is incomplete. -/
def nextStreamUnit (pending : List UInt8) : Option (StreamUnit × Nat) :=
  let whole (kind : StreamUnit) (bytes : Nat) : Option (StreamUnit × Nat) :=
    if pending.length < bytes then none else some (kind, bytes)
  if pending.length < 4 then none
  else
    let firstWord := readLittleEndianWord pending
    let type := frameType firstWord
    if type = mvlcSystemEvent ∨ type = mvlcSystemEvent2 then
      whole .systemFrame (4 * (1 + (firstWord &&& frameLengthMask).toNat))
    else if firstWord >>> 30 = 0 then
      if pending.length < 4 * ethernetHeaderWords then none
      else if (firstWord >>> 28) &&& 0x3 > 2 then some (.unknownChannel, 4)
      else
        whole .ethernetPacket
          (4 * (ethernetHeaderWords + (firstWord &&& ethernetDataWordsMask).toNat))
    else if type = mvlcStackFrame ∨ type = mvlcStackContinuation then
      whole .stackFrame (4 * (1 + (firstWord &&& frameLengthMask).toNat))
    else some (.malformedWord, 4)

namespace MvmeStreamDecoder

/-- A unit is what the framing cuts out of the stream. -/
def processStreamUnit (d : MvmeStreamDecoder) (kind : StreamUnit) (bytes : List UInt8) :
    MvmeStreamDecoder :=
  match kind with
  | .systemFrame =>
    resetFrameAssembly { d with
      stats := { d.stats with systemFrames := d.stats.systemFrames + 1 }
      lastEthernetPacket := none }
  | .ethernetPacket => d.processEthernetPacket (readWords bytes)
  | .stackFrame => d.processStackWords (readWords bytes)
  | .unknownChannel | .malformedWord => d.countMalformedWord.resetFrameAssembly

end MvmeStreamDecoder

/-- A unit has a header, and is complete. -/
theorem length_of_nextStreamUnit {pending : List UInt8} {kind : StreamUnit} {n : Nat}
    (h : nextStreamUnit pending = some (kind, n)) : 4 ≤ n ∧ n ≤ pending.length := by
  unfold nextStreamUnit at h
  grind [ethernetHeaderWords]

/-- The header does not depend on what follows it. -/
theorem readLittleEndianWord_append {data : List UInt8} (h : 4 ≤ data.length)
    (more : List UInt8) : readLittleEndianWord (data ++ more) = readLittleEndianWord data := by
  have hget : ∀ i < 4, (data ++ more).getD i 0 = data.getD i 0 := by
    intro i hi
    rw [List.getD_eq_getElem?_getD, List.getD_eq_getElem?_getD, List.getElem?_append_left (by omega)]
  unfold readLittleEndianWord
  rw [hget 0 (by omega), hget 1 (by omega), hget 2 (by omega), hget 3 (by omega)]

/-- The last byte of a word is its frame type. -/
theorem frameType_readLittleEndianWord (data : List UInt8) :
    frameType (readLittleEndianWord data) = data.getD 3 0 := by
  unfold frameType readLittleEndianWord
  generalize data.getD 0 0 = b0, data.getD 1 0 = b1, data.getD 2 0 = b2, data.getD 3 0 = b3
  apply UInt8.toBitVec_inj.mp
  simp only [UInt32.toBitVec_toUInt8, UInt32.toBitVec_shiftRight, UInt32.toBitVec_or,
    UInt32.toBitVec_shiftLeft, UInt8.toBitVec_toUInt32]
  ext i hi
  interval_cases i <;> simp

/-- What is complete at the front stays so when bytes arrive behind it. -/
theorem nextStreamUnit_append {pending : List UInt8} {found : StreamUnit × Nat}
    (more : List UInt8) (h : nextStreamUnit pending = some found) :
    nextStreamUnit (pending ++ more) = some found := by
  have hword : 4 ≤ pending.length := by
    have hlength := @length_of_nextStreamUnit _ found.1 found.2 h
    omega
  unfold nextStreamUnit at h ⊢
  rw [readLittleEndianWord_append hword]
  grind

def streamFraming : FrameStream.Framing StreamUnit UInt8 where
  next := nextStreamUnit
  next_pos h := by
    have := length_of_nextStreamUnit h
    omega
  next_le h := (length_of_nextStreamUnit h).2
  stable := nextStreamUnit_append

namespace MvmeStreamDecoder

/-- Process what is complete among the pending bytes and keep the rest. The pending bytes are taken
out while the loop runs: nothing it does looks at them. -/
def processPendingData (d : MvmeStreamDecoder) : MvmeStreamDecoder :=
  let (processed, rest) :=
    FrameStream.drain streamFraming processStreamUnit { d with pendingBytes := [] } d.pendingBytes
  { processed with pendingBytes := rest }

/-- What was pending goes before the new data; what is not a whole unit stays pending. -/
def consume (d : MvmeStreamDecoder) (data : List UInt8) : MvmeStreamDecoder :=
  if data = [] then d
  else processPendingData { d with pendingBytes := d.pendingBytes ++ data }

end MvmeStreamDecoder

end Fidget
