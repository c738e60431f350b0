import Fidget.Core.StreamDecoder
import Fidget.Lib.Lists

/-!
# The waveforms of a stream

Which blocks come out of a stream whole is decided by the frame assembly alone; the waveforms
emitted are those of the complete blocks, in order. Here both are read off a stream without
running the rest of the decoder, and the decoder's histories are shown to be the record of the
waveforms emitted.

The decoder does several things with a word at once. Here they are separated: the assembly goes from
word to word and completes blocks, the items of a block are noted in the record of the waveforms,
and neither looks at the other or at the counters of the transport.

## Main results

- `waveformRecord_processStackWords`: the histories record the items of the blocks in order.
- `HeldFrom.run`: the words of a block stand next to one another in the stream.
-/

namespace Fidget

open FrameStream

namespace FrameAssembly

/-- The assembly after a word. -/
def step (a : FrameAssembly) (word : UInt32) : FrameAssembly :=
  if a.blockWordsRemaining > 0 then
    if a.stackWordsRemaining = 0 then {}
    else
      { stackWordsRemaining := a.stackWordsRemaining - 1
        blockWordsRemaining := a.blockWordsRemaining - 1
        blockData := if a.blockWordsRemaining = 1 then [] else a.blockData ++ [word] }
  else if a.stackWordsRemaining > 0 then
    if frameType word = mvlcBlockReadFrame then
      let blockLength := (word &&& frameLengthMask).toNat
      if blockLength > a.stackWordsRemaining - 1 then {}
      else
        { stackWordsRemaining := a.stackWordsRemaining - 1
          blockWordsRemaining := blockLength }
    else { a with stackWordsRemaining := a.stackWordsRemaining - 1 }
  else if frameType word = mvlcStackFrame ∨ frameType word = mvlcStackContinuation then
    { a with stackWordsRemaining := (word &&& frameLengthMask).toNat }
  else a

/-- The block that a word completes. -/
def completedBlock (a : FrameAssembly) (word : UInt32) : List (List UInt32) :=
  if a.blockWordsRemaining = 1 ∧ a.stackWordsRemaining ≠ 0 then [a.blockData ++ [word]] else []

/-- The assembly after some words. -/
def run (a : FrameAssembly) (words : List UInt32) : FrameAssembly := words.foldl step a

/-- The blocks that are complete after a run of words. -/
def blocks : FrameAssembly → List UInt32 → List (List UInt32)
  | _, [] => []
  | a, word :: words => a.completedBlock word ++ (a.step word).blocks words

/-- Words can be taken in two goes. -/
theorem run_append (a : FrameAssembly) (words words' : List UInt32) :
    a.run (words ++ words') = (a.run words).run words' := List.foldl_append ..

/-- The blocks of two pieces, the second from where the first one left off. -/
theorem blocks_append (a : FrameAssembly) (words words' : List UInt32) :
    a.blocks (words ++ words') = a.blocks words ++ (a.run words).blocks words' := by
  induction words generalizing a with
  | nil => rfl
  | cons word words ih =>
      show a.completedBlock word ++ (a.step word).blocks (words ++ words') = _
      rw [ih, ← List.append_assoc]
      rfl

/-! ### Where the words of a block come from

What the assembly holds are the last words it was given, so the words of a completed block are
neighbours in the stream. -/

/-- The assembly holds no words but the last ones of `context`. -/
structure HeldFrom (context : List UInt32) (a : FrameAssembly) : Prop where
  block_le : a.blockWordsRemaining ≤ a.stackWordsRemaining
  data_nil : a.blockWordsRemaining = 0 → a.blockData = []
  data_suffix : a.blockData <:+ context

/-- An empty assembly holds nothing. -/
theorem heldFrom_empty (context : List UInt32) : HeldFrom context {} :=
  ⟨Nat.le_refl 0, fun _ => rfl, List.nil_suffix⟩

/-- Outside a frame nothing is held. -/
theorem HeldFrom.change {a : FrameAssembly} {context : List UInt32} (h : HeldFrom context a)
    (hstack : a.stackWordsRemaining = 0) (context' : List UInt32) : HeldFrom context' a where
  block_le := h.block_le
  data_nil := h.data_nil
  data_suffix := by
    have hblock := h.block_le
    rw [h.data_nil (by omega)]
    exact List.nil_suffix

/-- A word is added to what is held, or what is held is let go. -/
theorem HeldFrom.step {a : FrameAssembly} {context : List UInt32} (h : HeldFrom context a)
    (word : UInt32) : HeldFrom (context ++ [word]) (a.step word) := by
  have hle := h.block_le
  have hsuffix : a.blockData ++ [word] <:+ context ++ [word] := by
    obtain ⟨before, hbefore⟩ := h.data_suffix
    exact ⟨before, by rw [← hbefore, List.append_assoc]⟩
  unfold FrameAssembly.step
  split
  -- a word of the open block is held, unless it completes the block
  next hblock =>
    rw [if_neg (by omega)]
    refine ⟨?_, ?_, ?_⟩
    · show a.blockWordsRemaining - 1 ≤ a.stackWordsRemaining - 1
      omega
    · intro hlast
      have hlast' : a.blockWordsRemaining - 1 = 0 := hlast
      exact if_pos (by omega)
    · show (if a.blockWordsRemaining = 1 then [] else a.blockData ++ [word]) <:+ _
      split
      · exact List.nil_suffix
      · exact hsuffix
  -- with no block open nothing was held, and nothing is
  next hblock =>
    have hnone : a.blockWordsRemaining = 0 := by omega
    have hdata : a.blockData <:+ context ++ [word] := by
      rw [h.data_nil hnone]
      exact List.nil_suffix
    split
    · split
      · simp only
        split
        · exact heldFrom_empty _
        next hlength => exact ⟨by simpa using hlength, fun _ => rfl, List.nil_suffix⟩
      · exact ⟨by simp [hnone], h.data_nil, hdata⟩
    · split
      · exact ⟨by simp [hnone], h.data_nil, hdata⟩
      · exact ⟨h.block_le, h.data_nil, hdata⟩

/-- So what is held are always the last words. -/
theorem HeldFrom.run {a : FrameAssembly} {context : List UInt32} (h : HeldFrom context a)
    (words : List UInt32) : HeldFrom (context ++ words) (a.run words) := by
  induction words generalizing a context with
  | nil => rwa [List.append_nil]
  | cons word words ih =>
      have hrest := ih (h.step word)
      rwa [List.append_assoc] at hrest

/-- A block that is completed consists of neighbouring words. -/
theorem HeldFrom.blocks {a : FrameAssembly} {context : List UInt32} (h : HeldFrom context a)
    {words block : List UInt32} (hblock : block ∈ a.blocks words) :
    block <:+: context ++ words := by
  induction words generalizing a context with
  | nil => cases hblock
  | cons word words ih =>
      rcases List.mem_append.mp hblock with hfirst | hrest
      · unfold completedBlock at hfirst
        split at hfirst
        · rw [List.mem_singleton.mp hfirst]
          obtain ⟨before, hbefore⟩ := h.data_suffix
          exact ⟨before, words, by rw [← hbefore]; simp⟩
        · cases hfirst
      · have hinfix := ih (h.step word) hrest
        rwa [List.append_assoc] at hinfix

end FrameAssembly

namespace MvmeStreamDecoder

/-! ### Waveforms of block items

The waveforms of a block are numbered in the order of its items, beginning with the decoder's next
number. -/

/-- The waveforms among the items, numbered in the order of the trails. -/
def sequenced : (next : UInt64) → List BlockItem → List MdppWaveform
  | _, [] => []
  | next, .malformedTrail :: items => sequenced next items
  | next, .invalidSamples :: items => sequenced (next + 1) items
  | next, .waveform waveform :: items =>
    { waveform with sequence := next } :: sequenced (next + 1) items

/-- The sequence number that the items leave to be given next. -/
def sequenceAfter : (next : UInt64) → List BlockItem → UInt64
  | next, [] => next
  | next, .malformedTrail :: items => sequenceAfter next items
  | next, .invalidSamples :: items | next, .waveform _ :: items => sequenceAfter (next + 1) items

/-- A waveform as it is apart from its number. -/
def withoutSequence (waveform : MdppWaveform) : MdppWaveform := { waveform with sequence := 0 }

def BlockItem.unnumberedWaveform : BlockItem → Option MdppWaveform
  | .waveform decoded => some (withoutSequence decoded)
  | .malformedTrail | .invalidSamples => none

/-- Numbers apart, the waveforms do not depend on where the numbering starts. -/
theorem map_withoutSequence_sequenced (next : UInt64) (items : List BlockItem) :
    (sequenced next items).map withoutSequence = items.filterMap BlockItem.unnumberedWaveform := by
  induction items generalizing next with
  | nil => rfl
  | cons item items ih =>
      cases item with
      | malformedTrail => exact ih next
      | invalidSamples => exact ih (next + 1)
      | waveform waveform => exact congrArg _ (ih (next + 1))

/-! ### What is emitted -/

/-- What a frame or packet does before its stack words are processed, and those words. -/
def enterStreamUnit (d : MvmeStreamDecoder) (kind : StreamUnit) (bytes : List UInt8) :
    MvmeStreamDecoder × List UInt32 :=
  match kind with
  | .ethernetPacket =>
    match readWords bytes with
    | header0 :: header1 :: payload => d.enterEthernetPacket header0 header1 payload
    | _ => (d, [])
  | .stackFrame => (d, readWords bytes)
  | .systemFrame | .unknownChannel | .malformedWord => (d.processStreamUnit kind bytes, [])

/-- The blocks that a list of frames and packets completes. -/
def unitBlocks : MvmeStreamDecoder → List (StreamUnit × List UInt8) → List (List UInt32)
  | _, [] => []
  | d, (kind, bytes) :: units =>
    let (entered, words) := d.enterStreamUnit kind bytes
    entered.toFrameAssembly.blocks words ++ (d.processStreamUnit kind bytes).unitBlocks units

/-- The blocks that are complete once `data` is consumed. -/
def decodedBlocks (d : MvmeStreamDecoder) (data : List UInt8) : List (List UInt32) :=
  if data = [] then []
  else unitBlocks { d with pendingBytes := [] } (frames streamFraming (d.pendingBytes ++ data))

/-- The waveforms that consuming `data` emits. -/
def emitted (d : MvmeStreamDecoder) (data : List UInt8) : List MdppWaveform :=
  sequenced d.nextWaveformSequence ((d.decodedBlocks data).flatMap blockItems)

theorem processStreamUnit_eq (d : MvmeStreamDecoder) (kind : StreamUnit) (bytes : List UInt8) :
    d.processStreamUnit kind bytes =
      (d.enterStreamUnit kind bytes).1.processStackWords (d.enterStreamUnit kind bytes).2 := by
  cases kind with
  | ethernetPacket =>
      simp only [processStreamUnit, processEthernetPacket, enterStreamUnit]
      cases readWords bytes with
      | nil => rfl
      | cons header0 words => cases words <;> rfl
  | systemFrame | unknownChannel | stackFrame | malformedWord => rfl

/-! ### The assembly goes its own way

It is changed by words and by gaps, and by nothing that is decoded from them. -/

/-- Decoding does not touch the assembly. -/
theorem processBlockItem_toFrameAssembly (d : MvmeStreamDecoder) (item : BlockItem) :
    (d.processBlockItem item).toFrameAssembly = d.toFrameAssembly := by
  cases item <;> rfl

theorem decodeBlockFrame_toFrameAssembly (d : MvmeStreamDecoder) :
    d.decodeBlockFrame.toFrameAssembly = d.toFrameAssembly :=
  Lists.foldl_unchanged (·.toFrameAssembly) processBlockItem_toFrameAssembly _ d

/-- To the assembly, a word is one step. -/
theorem processStackWord_toFrameAssembly (d : MvmeStreamDecoder) (word : UInt32) :
    (d.processStackWord word).toFrameAssembly = d.toFrameAssembly.step word := by
  unfold processStackWord FrameAssembly.step
  split
  · split
    · rfl
    next hstack =>
      simp only
      split
      -- the block's last word: its samples are decoded and the block is closed
      next hblock =>
        have hone : d.blockWordsRemaining = 1 := by omega
        have hassembly := decodeBlockFrame_toFrameAssembly (countBlockFrame { d with
          blockData := d.blockData ++ [word]
          blockWordsRemaining := d.blockWordsRemaining - 1
          stackWordsRemaining := d.stackWordsRemaining - 1 })
        rw [if_pos hone]
        exact congrArg (fun a : FrameAssembly => { a with blockData := [] }) hassembly
      next hblock =>
        rw [if_neg (by omega)]
  · split
    · split
      · simp only
        split
        · rfl
        · split <;> rfl
      · rfl
    · split <;> rfl

/-- To the assembly, words are a run. -/
theorem processStackWords_toFrameAssembly (d : MvmeStreamDecoder) (words : List UInt32) :
    (d.processStackWords words).toFrameAssembly = d.toFrameAssembly.run words := by
  induction words generalizing d with
  | nil => rfl
  | cons word words ih =>
      show ((d.processStackWord word).processStackWords words).toFrameAssembly = _
      rw [ih, processStackWord_toFrameAssembly]
      rfl

/-! ### The histories are the record of what is emitted

From the items of the completed blocks the histories can be computed without the decoder. -/

/-- What the decoder keeps of the waveforms. -/
structure WaveformRecord where
  historiesByChannel : Std.TreeMap MdppChannelAddress ChannelHistory
  latestChannel : Option MdppChannelAddress
  nextWaveformSequence : UInt64

/-- What the decoder says about the waveforms: histories, counters and the latest channel. -/
def waveformRecord (d : MvmeStreamDecoder) : WaveformRecord :=
  ⟨d.historiesByChannel, d.latestChannel, d.nextWaveformSequence⟩

/-- A trail that is not whole takes no number, one with invalid samples does. -/
def WaveformRecord.note (record : WaveformRecord) : BlockItem → WaveformRecord
  | .malformedTrail => record
  | .invalidSamples => { record with nextWaveformSequence := record.nextWaveformSequence + 1 }
  | .waveform waveform =>
    { historiesByChannel := recordInHistories record.historiesByChannel
        { waveform with sequence := record.nextWaveformSequence }
      latestChannel := some ⟨waveform.moduleId, waveform.channel⟩
      nextWaveformSequence := record.nextWaveformSequence + 1 }

/-- The decoder notes an item. -/
theorem waveformRecord_processBlockItem (d : MvmeStreamDecoder) (item : BlockItem) :
    (d.processBlockItem item).waveformRecord = d.waveformRecord.note item := by
  cases item <;> rfl

theorem waveformRecord_foldl_processBlockItem (d : MvmeStreamDecoder) (items : List BlockItem) :
    (items.foldl processBlockItem d).waveformRecord =
      items.foldl WaveformRecord.note d.waveformRecord := by
  induction items generalizing d with
  | nil => rfl
  | cons item items ih =>
      rw [List.foldl_cons, List.foldl_cons, ih, waveformRecord_processBlockItem]

/-- A word notes the items of the block that it completes. -/
theorem waveformRecord_processStackWord (d : MvmeStreamDecoder) (word : UInt32) :
    (d.processStackWord word).waveformRecord =
      ((d.completedBlock word).flatMap blockItems).foldl WaveformRecord.note d.waveformRecord := by
  by_cases hblock : d.blockWordsRemaining = 1 ∧ d.stackWordsRemaining ≠ 0
  · have hcompleted : d.completedBlock word = [d.blockData ++ [word]] := if_pos hblock
    have hrecord := waveformRecord_foldl_processBlockItem (countBlockFrame { d with
      blockData := d.blockData ++ [word]
      blockWordsRemaining := d.blockWordsRemaining - 1
      stackWordsRemaining := d.stackWordsRemaining - 1 }) (blockItems (d.blockData ++ [word]))
    rw [hcompleted, List.flatMap_singleton]
    unfold processStackWord
    rw [if_pos (by omega), if_neg hblock.2]
    simp only
    rw [if_pos (by omega)]
    exact hrecord
  · -- No block is completed, and nothing is recorded or numbered on any branch.
    have hcompleted : d.completedBlock word = [] := if_neg hblock
    rw [hcompleted, List.flatMap_nil]
    unfold processStackWord
    split
    · split
      · rfl
      · simp only
        rw [if_neg (by omega)]
        rfl
    · split
      · split
        · simp only
          split
          · rfl
          · split <;> rfl
        · rfl
      · split <;> rfl

theorem waveformRecord_processStackWords (d : MvmeStreamDecoder) (words : List UInt32) :
    (d.processStackWords words).waveformRecord =
      ((d.blocks words).flatMap blockItems).foldl WaveformRecord.note d.waveformRecord := by
  induction words generalizing d with
  | nil => rfl
  | cons word words ih =>
      show ((d.processStackWord word).processStackWords words).waveformRecord =
        ((d.completedBlock word ++ (d.toFrameAssembly.step word).blocks words).flatMap
          blockItems).foldl WaveformRecord.note d.waveformRecord
      rw [ih, waveformRecord_processStackWord, processStackWord_toFrameAssembly,
        List.flatMap_append, List.foldl_append]

theorem waveformRecord_noteEthernetPacket (d : MvmeStreamDecoder) (packetNumber : UInt16) :
    (d.noteEthernetPacket packetNumber).waveformRecord = d.waveformRecord := by
  unfold noteEthernetPacket
  cases d.lastEthernetPacket with
  | none => rfl
  | some last =>
      simp only
      split <;> rfl

/-- What comes before the words of a unit notes nothing. -/
theorem waveformRecord_enterStreamUnit (d : MvmeStreamDecoder) (kind : StreamUnit)
    (bytes : List UInt8) : (d.enterStreamUnit kind bytes).1.waveformRecord = d.waveformRecord := by
  cases kind with
  | ethernetPacket =>
      unfold enterStreamUnit enterEthernetPacket
      simp only
      split
      next header0 header1 payload _ =>
        split
        · rfl
        · have hnote := waveformRecord_noteEthernetPacket
            { d with stats := { d.stats with ethernetPackets := d.stats.ethernetPackets + 1 } }
            ((header0 >>> 16) &&& ethernetPacketNumberMask).toUInt16
          split <;> exact hnote
      · rfl
  | systemFrame | unknownChannel | stackFrame | malformedWord => rfl

theorem waveformRecord_foldl_processStreamUnit (d : MvmeStreamDecoder)
    (units : List (StreamUnit × List UInt8)) :
    (units.foldl (fun d unit => d.processStreamUnit unit.1 unit.2) d).waveformRecord =
      ((d.unitBlocks units).flatMap blockItems).foldl WaveformRecord.note d.waveformRecord := by
  induction units generalizing d with
  | nil => rfl
  | cons unit units ih =>
      obtain ⟨kind, bytes⟩ := unit
      have hwords := waveformRecord_processStackWords (d.enterStreamUnit kind bytes).1
        (d.enterStreamUnit kind bytes).2
      rw [← processStreamUnit_eq, waveformRecord_enterStreamUnit] at hwords
      show ((units.foldl (fun d unit => d.processStreamUnit unit.1 unit.2)
          (d.processStreamUnit kind bytes)).waveformRecord) =
        (((d.enterStreamUnit kind bytes).1.toFrameAssembly.blocks (d.enterStreamUnit kind bytes).2 ++
          (d.processStreamUnit kind bytes).unitBlocks units).flatMap blockItems).foldl
            WaveformRecord.note d.waveformRecord
      rw [ih, hwords, List.flatMap_append, List.foldl_append]

/-- Consuming `data` notes the items of the blocks that it completes. -/
theorem waveformRecord_consume (d : MvmeStreamDecoder) (data : List UInt8) :
    (d.consume data).waveformRecord =
      ((d.decodedBlocks data).flatMap blockItems).foldl WaveformRecord.note d.waveformRecord := by
  unfold consume decodedBlocks
  split
  · rfl
  · have hrecord := waveformRecord_foldl_processStreamUnit { d with pendingBytes := [] }
      (frames streamFraming (d.pendingBytes ++ data))
    rw [← drain_eq_foldl] at hrecord
    exact hrecord

/-- From `d` to `d'` the waveforms of the items have been numbered and recorded. -/
structure Records (d d' : MvmeStreamDecoder) (items : List BlockItem) : Prop where
  histories : d'.historiesByChannel =
    (sequenced d.nextWaveformSequence items).foldl recordInHistories d.historiesByChannel
  sequence : d'.nextWaveformSequence = sequenceAfter d.nextWaveformSequence items

/-- What was noted is what the decoder emits. -/
theorem records_of_note {d d' : MvmeStreamDecoder} {items : List BlockItem}
    (h : d'.waveformRecord = items.foldl WaveformRecord.note d.waveformRecord) :
    Records d d' items := by
  have hnotes : ∀ (items : List BlockItem) (record : WaveformRecord),
      (items.foldl WaveformRecord.note record).historiesByChannel =
          (sequenced record.nextWaveformSequence items).foldl recordInHistories
            record.historiesByChannel ∧
        (items.foldl WaveformRecord.note record).nextWaveformSequence =
          sequenceAfter record.nextWaveformSequence items := by
    intro items
    induction items with
    | nil => exact fun _ => ⟨rfl, rfl⟩
    | cons item items ih =>
        intro record
        cases item with
        | malformedTrail => exact ih record
        | invalidSamples => exact ih (record.note .invalidSamples)
        | waveform waveform => exact ih (record.note (.waveform waveform))
  obtain ⟨hhistories, hsequence⟩ := hnotes items d.waveformRecord
  rw [← h] at hhistories hsequence
  exact ⟨hhistories, hsequence⟩

/-- The histories after a `consume` are those before it with the emitted waveforms recorded. -/
theorem consume_histories (d : MvmeStreamDecoder) (data : List UInt8) :
    (d.consume data).historiesByChannel =
      (d.emitted data).foldl recordInHistories d.historiesByChannel :=
  (records_of_note (waveformRecord_consume d data)).histories

end MvmeStreamDecoder

end Fidget
