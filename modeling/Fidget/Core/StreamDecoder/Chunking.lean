import Fidget.Core.StreamDecoder
import Fidget.Lib.Lists

/-!
# Receive boundaries do not matter

The decoder is a receiver in the sense of `Lib.FrameStream`, so its state after a stream does not
depend on how the stream was cut into `consume` calls. What it keeps is shorter than the frame or
packet that the kept bytes begin, hence shorter than the longest packet there is.

## Main results

- `split_consume`: a call to `consume` is a `receive` of the general receiver.
- `foldl_consume`: several calls are one call with all the bytes.
- `properPrefixOfFrame`: what is kept is a proper prefix of the frame or packet it begins.
- `consume_boundaries`: both, for every reachable decoder and any two ways to cut a stream.
-/

namespace Fidget

open FrameStream

namespace MvmeStreamDecoder

/-! ### Processing leaves the pending bytes alone

Words are processed without a look at the bytes that are pending, and these change only where units
are cut out. -/

/-- The part of the decoder that the processing of words does not touch. -/
def receiveState (d : MvmeStreamDecoder) : List UInt8 × Option UInt16 :=
  (d.pendingBytes, d.lastEthernetPacket)

/-- Recording a waveform is none of the receiver's business. -/
theorem processBlockItem_receiveState (d : MvmeStreamDecoder) (item : BlockItem) :
    (d.processBlockItem item).receiveState = d.receiveState := by
  cases item <;> rfl

/-- Decoding a block leaves what was received. -/
theorem decodeBlockFrame_receiveState (d : MvmeStreamDecoder) :
    d.decodeBlockFrame.receiveState = d.receiveState :=
  Lists.foldl_unchanged receiveState processBlockItem_receiveState _ d

/-- So does a word of the stack. -/
theorem processStackWord_receiveState (d : MvmeStreamDecoder) (word : UInt32) :
    (d.processStackWord word).receiveState = d.receiveState := by
  unfold processStackWord
  split
  · split
    · rfl
    · simp only
      split
      · exact decodeBlockFrame_receiveState _
      · rfl
  · split
    · split
      · simp only
        split
        · rfl
        · split <;> rfl
      · rfl
    · split <;> rfl

/-- So do several. -/
theorem processStackWords_receiveState (d : MvmeStreamDecoder) (words : List UInt32) :
    (d.processStackWords words).receiveState = d.receiveState :=
  Lists.foldl_unchanged receiveState processStackWord_receiveState words d

/-- The words of a unit do not touch the bytes after it. -/
theorem processStackWords_pendingBytes (d : MvmeStreamDecoder) (words : List UInt32) :
    (d.processStackWords words).pendingBytes = d.pendingBytes :=
  congrArg Prod.fst (processStackWords_receiveState d words)

/-- A gap in the numbers loses a frame, not bytes. -/
theorem noteEthernetPacket_pendingBytes (d : MvmeStreamDecoder) (packetNumber : UInt16) :
    (d.noteEthernetPacket packetNumber).pendingBytes = d.pendingBytes := by
  unfold noteEthernetPacket
  cases d.lastEthernetPacket with
  | none => rfl
  | some last =>
      simp only
      split <;> rfl

/-- Entering a packet keeps no bytes. -/
theorem enterEthernetPacket_pendingBytes (d : MvmeStreamDecoder) (header0 header1 : UInt32)
    (payload : List UInt32) :
    (d.enterEthernetPacket header0 header1 payload).1.pendingBytes = d.pendingBytes := by
  unfold enterEthernetPacket
  simp only
  split
  · rfl
  · split
    · exact noteEthernetPacket_pendingBytes _ _
    · exact noteEthernetPacket_pendingBytes _ _

/-- Nor does processing it. -/
theorem processEthernetPacket_pendingBytes (d : MvmeStreamDecoder) (packet : List UInt32) :
    (d.processEthernetPacket packet).pendingBytes = d.pendingBytes := by
  unfold processEthernetPacket
  split
  next header0 header1 payload =>
    simp only
    rw [processStackWords_pendingBytes]
    exact enterEthernetPacket_pendingBytes d header0 header1 payload
  · rfl

/-- So no unit does. -/
theorem processStreamUnit_pendingBytes (d : MvmeStreamDecoder) (kind : StreamUnit)
    (bytes : List UInt8) : (d.processStreamUnit kind bytes).pendingBytes = d.pendingBytes := by
  cases kind with
  | systemFrame => rfl
  | unknownChannel => rfl
  | ethernetPacket => exact processEthernetPacket_pendingBytes d _
  | stackFrame => exact processStackWords_pendingBytes d _
  | malformedWord => rfl

/-- What is left pending is what the framing leaves. -/
theorem drain_pendingBytes (d : MvmeStreamDecoder) (pending : List UInt8) :
    (drain streamFraming processStreamUnit d pending).1.pendingBytes = d.pendingBytes := by
  induction d, pending using drain.induct streamFraming processStreamUnit with
  | case1 d pending h => rw [drain_of_none h]
  | case2 d pending kind n h ih => rw [drain_of_some h, ih, processStreamUnit_pendingBytes]

/-! ### The decoder as a receiver

With the two parts of its state apart, the decoder is a receiver in the sense of `Lib.FrameStream`,
and the general development gives that pieces do not matter. -/

/-- The decoder without its pending bytes, and those. -/
def split (d : MvmeStreamDecoder) : MvmeStreamDecoder × List UInt8 :=
  ({ d with pendingBytes := [] }, d.pendingBytes)

/-- Nothing complete is pending. -/
def Settled (d : MvmeStreamDecoder) : Prop := nextStreamUnit d.pendingBytes = none

/-- A decoder is determined by its two parts. -/
theorem split_injective : Function.Injective split := by
  intro d d' h
  cases d
  cases d'
  simp only [split, Prod.mk.injEq, MvmeStreamDecoder.mk.injEq] at h
  simp only [MvmeStreamDecoder.mk.injEq]
  exact ⟨h.1.1, h.2, h.1.2.2⟩

/-- A call is one step of the general receiver. -/
theorem split_consume {d : MvmeStreamDecoder} (h : d.Settled) (data : List UInt8) :
    (d.consume data).split = receive streamFraming processStreamUnit d.split data := by
  unfold consume
  split
  next hempty =>
    have hnone : streamFraming.next d.pendingBytes = none := h
    rw [hempty]
    show d.split = drain streamFraming processStreamUnit _ (d.pendingBytes ++ [])
    rw [List.append_nil, drain_of_none hnone]
    rfl
  · have hempty := drain_pendingBytes { d with pendingBytes := [] } (d.pendingBytes ++ data)
    simp only [split, processPendingData, receive]
    rw [Prod.mk.injEq]
    refine ⟨?_, rfl⟩
    generalize drain streamFraming processStreamUnit { d with pendingBytes := [] }
      (d.pendingBytes ++ data) = result at hempty ⊢
    obtain ⟨processed, rest⟩ := result
    cases processed
    simp only at hempty
    rw [hempty]

/-- After a call no whole unit is pending. -/
theorem settled_consume {d : MvmeStreamDecoder} (h : d.Settled) (data : List UInt8) :
    (d.consume data).Settled := by
  have hsplit := congrArg Prod.snd (split_consume h data)
  have hnone := @next_drain _ _ _ streamFraming processStreamUnit d.split.1 (d.split.2 ++ data)
  show nextStreamUnit (d.consume data).split.2 = none
  rw [hsplit]
  exact hnone

/-- Settled after any calls. -/
theorem settled_foldl_consume {d : MvmeStreamDecoder} (h : d.Settled)
    (chunks : List (List UInt8)) : (chunks.foldl consume d).Settled := by
  induction chunks generalizing d with
  | nil => exact h
  | cons chunk chunks ih => exact ih (settled_consume h chunk)

/-- Consuming a stream piece by piece is consuming it at once. -/
theorem foldl_consume {d : MvmeStreamDecoder} (h : d.Settled) (chunks : List (List UInt8)) :
    chunks.foldl consume d = d.consume chunks.flatten := by
  apply split_injective
  rw [split_consume h, ← foldl_receive (show streamFraming.next d.split.2 = none from h)]
  induction chunks generalizing d with
  | nil => rfl
  | cons chunk chunks ih =>
      rw [List.foldl_cons, List.foldl_cons, ih (settled_consume h chunk), split_consume h]

/-- Nothing is pending at first. -/
theorem settled_initial : ({} : MvmeStreamDecoder).Settled := rfl

end MvmeStreamDecoder

/-! ### What is kept

The bytes that stay pending are less than a unit: fewer than a header, or fewer than their header
announces. A header has a field of limited width for the length, which bounds them. -/

/-- The length in bytes that the first word announces for its frame or packet. -/
def announcedBytes (firstWord : UInt32) : Option Nat :=
  let type := frameType firstWord
  if type = mvlcSystemEvent ∨ type = mvlcSystemEvent2 then
    some (4 * (1 + (firstWord &&& frameLengthMask).toNat))
  else if firstWord >>> 30 = 0 then
    some (4 * (ethernetHeaderWords + (firstWord &&& ethernetDataWordsMask).toNat))
  else if type = mvlcStackFrame ∨ type = mvlcStackContinuation then
    some (4 * (1 + (firstWord &&& frameLengthMask).toNat))
  else none

/-- The bytes break off within one frame or packet: more bytes would complete it exactly. -/
def ProperPrefixOfFrame (pending : List UInt8) : Prop :=
  ∃ rest, rest ≠ [] ∧
    announcedBytes (readLittleEndianWord (pending ++ rest)) = some (pending ++ rest).length

/-- The longest packet there is. -/
def maximumPacketBytes : Nat := 4 * (ethernetHeaderWords + 8191)

/-- A length field has 13 bits. -/
theorem toNat_and_mask_le (word : UInt32) : (word &&& 0x1FFF).toNat ≤ 8191 := by
  rw [UInt32.toNat_and]
  exact Nat.and_le_right

/-- No header announces more than the longest packet. -/
theorem announcedBytes_le {firstWord : UInt32} {n : Nat} (h : announcedBytes firstWord = some n) :
    n ≤ maximumPacketBytes := by
  have hmask := toNat_and_mask_le firstWord
  unfold announcedBytes frameLengthMask ethernetDataWordsMask at h
  unfold maximumPacketBytes
  grind [ethernetHeaderWords]

/-- Four bytes or more are kept only when their first word announces more than there is. -/
theorem announcedBytes_of_nextStreamUnit {pending : List UInt8} (h4 : 4 ≤ pending.length)
    (h : nextStreamUnit pending = none) :
    ∃ n, announcedBytes (readLittleEndianWord pending) = some n ∧ pending.length < n := by
  unfold nextStreamUnit at h
  unfold announcedBytes
  grind [ethernetHeaderWords]

/-- Fewer than four bytes begin a system frame: its type byte is still to come, and then as many
words as its length field says. -/
theorem properPrefixOfFrame_of_short {pending : List UInt8} (h : pending.length < 4) :
    ProperPrefixOfFrame pending := by
  let word := pending ++ (List.replicate (3 - pending.length) 0 ++ [mvlcSystemEvent])
  have hlength : word.length = 4 := by
    simp only [word, List.length_append, List.length_replicate, List.length_singleton]
    omega
  have htype : frameType (readLittleEndianWord word) = mvlcSystemEvent := by
    rw [frameType_readLittleEndianWord]
    simp only [word, List.getD_eq_getElem?_getD]
    rw [List.getElem?_append_right (by omega), List.getElem?_append_right (by simp)]
    simp only [List.length_replicate, Nat.sub_self, List.getElem?_cons_zero, Option.getD_some]
  let body := List.replicate (4 * (readLittleEndianWord word &&& frameLengthMask).toNat) (0 : UInt8)
  refine ⟨List.replicate (3 - pending.length) 0 ++ [mvlcSystemEvent] ++ body, by simp, ?_⟩
  rw [← List.append_assoc]
  show announcedBytes (readLittleEndianWord (word ++ body)) = some (word ++ body).length
  rw [readLittleEndianWord_append (by omega), announcedBytes]
  simp only [htype, true_or, if_true]
  rw [List.length_append, hlength, List.length_replicate]
  congr 1
  omega

/-- What stays pending is too short for a header, or for what its header announces. -/
theorem properPrefixOfFrame {pending : List UInt8} (h : nextStreamUnit pending = none) :
    ProperPrefixOfFrame pending := by
  by_cases h4 : 4 ≤ pending.length
  · obtain ⟨n, hannounced, hlength⟩ := announcedBytes_of_nextStreamUnit h4 h
    refine ⟨List.replicate (n - pending.length) 0, ?_, ?_⟩
    · intro hempty
      have hzero := congrArg List.length hempty
      rw [List.length_replicate, List.length_nil] at hzero
      omega
    · rw [readLittleEndianWord_append h4, hannounced, List.length_append, List.length_replicate]
      congr 1
      omega
  · exact properPrefixOfFrame_of_short (by omega)

/-- A proper prefix of one frame or packet is shorter than the longest packet. -/
theorem ProperPrefixOfFrame.length_lt {pending : List UInt8} (h : ProperPrefixOfFrame pending) :
    pending.length < maximumPacketBytes := by
  obtain ⟨rest, hrest, hannounced⟩ := h
  have hle := announcedBytes_le hannounced
  have hpos := List.length_pos_iff.mpr hrest
  rw [List.length_append] at hle
  omega

namespace MvmeStreamDecoder

/-- The decoders there can be: the public operations applied to a fresh one. -/
inductive Reachable : MvmeStreamDecoder → Prop
  | initial : Reachable {}
  | reset {d} : Reachable d → Reachable d.reset
  | clearWaveformHistoriesForQuad {d} (selectedQuad : UInt16) :
    Reachable d → Reachable (d.clearWaveformHistoriesForQuad selectedQuad)
  | consume {d} (data : List UInt8) : Reachable d → Reachable (d.consume data)

/-- Every call and every reset leaves a settled decoder. -/
theorem Reachable.settled {d : MvmeStreamDecoder} (h : Reachable d) : d.Settled := by
  induction h with
  | initial => rfl
  | reset _ _ => rfl
  | clearWaveformHistoriesForQuad selectedQuad _ ih => exact ih
  | consume data _ ih => exact settled_consume ih data

/-- The state after a stream does not depend on the receive boundaries, and what is kept after any
of the calls is a proper prefix of one frame or packet. -/
theorem consume_boundaries {d : MvmeStreamDecoder} (hd : Reachable d)
    {chunks chunks' : List (List UInt8)} (h : chunks.flatten = chunks'.flatten) :
    chunks.foldl consume d = chunks'.foldl consume d ∧
      ∀ before, before <+: chunks →
        (before.foldl consume d).pendingBytes.length < 4 * (2 + 8191) ∧
          ProperPrefixOfFrame (before.foldl consume d).pendingBytes := by
  constructor
  · rw [foldl_consume hd.settled, foldl_consume hd.settled, h]
  · intro before _
    have hproper := properPrefixOfFrame (settled_foldl_consume hd.settled before)
    exact ⟨hproper.length_lt, hproper⟩

/-- A stack frame of one word, cut in the middle of its header, against the frame in one piece. -/
theorem consume_boundaries_example :
    [[0x01, 0x00], [0x00, 0xF3, 0x2A, 0x00], [0x00, 0x00]].foldl consume {} =
        [[0x01, 0x00, 0x00, 0xF3, 0x2A, 0x00, 0x00, 0x00]].foldl consume {} ∧
      ([[0x01, 0x00], [0x00, 0xF3, 0x2A, 0x00]].foldl consume {}).pendingBytes.length <
        4 * (2 + 8191) := by
  have h := @consume_boundaries {} .initial
    [[0x01, 0x00], [0x00, 0xF3, 0x2A, 0x00], [0x00, 0x00]]
    [[0x01, 0x00, 0x00, 0xF3, 0x2A, 0x00, 0x00, 0x00]] rfl
  exact ⟨h.1, (h.2 _ ⟨[[0x00, 0x00]], rfl⟩).1⟩

end MvmeStreamDecoder

end Fidget
