import Fidget.Core.StreamDecoder.Chunking
import Fidget.Core.StreamDecoder.Waveforms
import Mathlib.Data.List.Flatten

/-!
# Stack frames carried by Ethernet packets

A stream of stack frames reaches the decoder either as it is or cut into numbered packets. With
every packet received the two ways end in the same state; with packets missing, the decoder emits
what it would have emitted, less the waveforms that the missing packets had a part in.

The relation between the two ways is kept by an invariant of the frame assembly, `Expects`: the
assembly holds an initial part of the stream of frames, and these are the words that the stream goes
on with. It says in particular which of the words still to come are frame headers, which is what a
decoder that has lost a packet looks for.

## Main results

- `foldl_processDataPacket`: packets in order give the same blocks as their words alone.
- `ethernet_refines_direct`: the two ways of sending frames emit the same waveforms; with packets
  lost, a sublist of them.
-/

namespace Fidget

open FrameStream

/-! ### Frames and packets

The two encodings of the same words. A packet carries a slice of the stream that may begin and end
anywhere, together with its number and the place of the first frame header in its payload. -/

/-- The words inside a stack frame: block frames of exact length, and other words. -/
inductive FrameBody : List UInt32 → Prop
  | nil : FrameBody []
  | word {word rest} : frameType word ≠ mvlcBlockReadFrame → FrameBody rest →
    FrameBody (word :: rest)
  | block {header block rest} : frameType header = mvlcBlockReadFrame →
    (header &&& frameLengthMask).toNat = block.length → FrameBody rest →
    FrameBody (header :: (block ++ rest))

/-- A frame whose header announces exactly its words. -/
structure StackFrame where
  header : UInt32
  body : List UInt32
  header_type : frameType header = mvlcStackFrame ∨ frameType header = mvlcStackContinuation
  header_length : (header &&& frameLengthMask).toNat = body.length
  body_wellFormed : FrameBody body

/-- The words of a frame, each with a mark that tells the frame header from the rest. -/
def StackFrame.markedWords (frame : StackFrame) : List (UInt32 × Bool) :=
  (frame.header, true) :: frame.body.map (·, false)

def StackFrame.words (frame : StackFrame) : List UInt32 := frame.header :: frame.body

/-- A packet of the data channel. Its header pointer names the first frame header in the payload. -/
structure DataPacket where
  header0 : UInt32
  header1 : UInt32
  payload : List (UInt32 × Bool)
  header0_magic : header0 >>> 30 = 0
  header0_channel : (header0 >>> 28) &&& 0x3 = 2
  header0_length : (header0 &&& ethernetDataWordsMask).toNat = payload.length
  header1_pointer : (header1 &&& 0x0FFF).toNat = (payload.findIdx? (·.2)).getD 0x0FFF

namespace DataPacket

def number (packet : DataPacket) : UInt16 :=
  ((packet.header0 >>> 16) &&& ethernetPacketNumberMask).toUInt16

def payloadWords (packet : DataPacket) : List UInt32 := packet.payload.map (·.1)

def words (packet : DataPacket) : List UInt32 :=
  packet.header0 :: packet.header1 :: packet.payloadWords

end DataPacket

/-- Packets numbered one after the other, modulo 4096. -/
def NumberedFrom : (first : Nat) → List DataPacket → Prop
  | _, [] => True
  | first, packet :: packets =>
    packet.number.toNat = first % 4096 ∧ NumberedFrom (first + 1) packets

/-- Some packets are dropped on the way. `dropped` counts those dropped since the last one received
(none was received yet); where packets are missing between two that are received, their number is
not a multiple of 4096. -/
inductive Received : (dropped : Option Nat) → (packets received : List DataPacket) → Prop
  | nil {dropped} : Received dropped [] []
  | receive {dropped packet packets received} :
    (∀ n ∈ dropped, n = 0 ∨ ¬4096 ∣ n) → Received (some 0) packets received →
    Received dropped (packet :: packets) (packet :: received)
  | drop {dropped packet packets received} :
    Received (dropped.map (· + 1)) packets received → Received dropped (packet :: packets) received

/-! ### Bytes

Both ends of the framing are in words. This section brings them down to the bytes that are consumed.
-/

/-- The lowest byte first. -/
def encodeWord (word : UInt32) : List UInt8 :=
  [word.toUInt8, (word >>> 8).toUInt8, (word >>> 16).toUInt8, (word >>> 24).toUInt8]

def encodeWords (words : List UInt32) : List UInt8 := words.flatMap encodeWord

/-- A word is read back whatever follows it. -/
theorem readLittleEndianWord_encodeWord (word : UInt32) (more : List UInt8) :
    readLittleEndianWord (encodeWord word ++ more) = word := by
  rw [readLittleEndianWord_append (by simp [encodeWord])]
  simp only [readLittleEndianWord, encodeWord, List.getD_cons_zero, List.getD_cons_succ]
  apply UInt32.toBitVec_inj.mp
  simp only [UInt32.toBitVec_toUInt8, UInt32.toBitVec_shiftRight, UInt32.toBitVec_or,
    UInt32.toBitVec_shiftLeft, UInt8.toBitVec_toUInt32]
  ext i hi
  simp
  rw [← BitVec.getLsbD_eq_getElem hi]
  -- Bit i comes from byte i / 8.
  by_cases h8 : i < 8
  · grind
  by_cases h16 : i < 16
  · grind
  by_cases h24 : i < 24
  · grind
  · grind

/-- The two bits of an Ethernet packet's magic are the top bits of the frame type. -/
theorem magic_eq (word : UInt32) : (word >>> 30).toUInt8 = frameType word >>> 6 := by
  unfold frameType
  apply UInt8.toBitVec_inj.mp
  simp only [UInt32.toBitVec_toUInt8, UInt32.toBitVec_shiftRight, UInt8.toBitVec_shiftRight]
  ext i hi
  interval_cases i <;> simp

/-- Four bytes for each word. -/
theorem length_encodeWords (words : List UInt32) :
    (encodeWords words).length = 4 * words.length := by
  induction words with
  | nil => rfl
  | cons word words ih =>
      show (encodeWord word ++ encodeWords words).length = 4 * (words.length + 1)
      rw [List.length_append, ih]
      show 4 + 4 * words.length = _
      omega

/-- Words are read back. -/
theorem readWords_encodeWords (words : List UInt32) : readWords (encodeWords words) = words := by
  induction words with
  | nil => rw [readWords]; rfl
  | cons word words ih =>
      have hlength : ¬(encodeWords (word :: words)).length < 4 := by
        rw [length_encodeWords, List.length_cons]
        omega
      rw [readWords, if_neg hlength]
      show readLittleEndianWord (encodeWord word ++ encodeWords words) ::
        readWords ((encodeWord word ++ encodeWords words).drop 4) = _
      rw [readLittleEndianWord_encodeWord]
      exact congrArg _ ih

/-- The framing cuts a frame out as one unit. -/
theorem StackFrame.nextStreamUnit_words (frame : StackFrame) :
    nextStreamUnit (encodeWords frame.words) =
      some (.stackFrame, (encodeWords frame.words).length) := by
  have hfirst : readLittleEndianWord (encodeWords frame.words) = frame.header :=
    readLittleEndianWord_encodeWord _ _
  have hlength : (encodeWords frame.words).length =
      4 * (1 + (frame.header &&& frameLengthMask).toNat) := by
    rw [length_encodeWords, frame.header_length, words, List.length_cons, Nat.add_comm]
  have hmagic : frame.header >>> 30 ≠ 0 := by
    intro hzero
    have htop := magic_eq frame.header
    rw [hzero] at htop
    rcases frame.header_type with htype | htype
    · rw [htype] at htop
      exact absurd htop (by decide)
    · rw [htype] at htop
      exact absurd htop (by decide)
  unfold nextStreamUnit
  simp only [hfirst]
  rw [if_neg (by omega)]
  rcases frame.header_type with htype | htype
  · rw [if_neg (by rw [htype]; decide), if_neg hmagic, if_pos frame.header_type, hlength,
      if_neg (Nat.lt_irrefl _)]
  · rw [if_neg (by rw [htype]; decide), if_neg hmagic, if_pos frame.header_type, hlength,
      if_neg (Nat.lt_irrefl _)]

/-- The framing cuts a packet out as one unit. -/
theorem DataPacket.nextStreamUnit_words (packet : DataPacket) :
    nextStreamUnit (encodeWords packet.words) =
      some (.ethernetPacket, (encodeWords packet.words).length) := by
  have hfirst : readLittleEndianWord (encodeWords packet.words) = packet.header0 :=
    readLittleEndianWord_encodeWord _ _
  have hlength : (encodeWords packet.words).length =
      4 * (ethernetHeaderWords + (packet.header0 &&& ethernetDataWordsMask).toNat) := by
    rw [length_encodeWords, packet.header0_length, words, payloadWords, List.length_cons,
      List.length_cons, List.length_map, ethernetHeaderWords]
    omega
  -- the packet's own mark keeps its header apart from a system event's
  have hsystem : ¬(frameType packet.header0 = mvlcSystemEvent ∨
      frameType packet.header0 = mvlcSystemEvent2) := by
    intro htype
    have htop := magic_eq packet.header0
    rw [packet.header0_magic] at htop
    rcases htype with htype | htype
    · rw [htype] at htop
      exact absurd htop (by decide)
    · rw [htype] at htop
      exact absurd htop (by decide)
  have hheaders : ¬(encodeWords packet.words).length < 4 * ethernetHeaderWords := by omega
  have hword : ¬(encodeWords packet.words).length < 4 := by
    unfold ethernetHeaderWords at hheaders
    omega
  unfold nextStreamUnit
  simp only [hfirst]
  rw [if_neg hword, if_neg hsystem, if_pos packet.header0_magic, if_neg hheaders,
    packet.header0_channel, if_neg (by decide), hlength, if_neg (Nat.lt_irrefl _)]

/-! ### What a stream goes on with

One word at a time: it is taken by the block that is open, or opens one, or opens a frame. The mark
of a word in the stream tells whether it is a frame header, and agrees with what the assembly makes
of it. -/

/-- In state `a`, a stream of stack frames goes on with the words `rest`: the open block, the
remainder of the open frame, and then whole frames. -/
def Expects (a : FrameAssembly) (rest : List (UInt32 × Bool)) : Prop :=
  ∃ (block body : List UInt32) (frames : List StackFrame),
    a.blockWordsRemaining = block.length ∧
    a.stackWordsRemaining = block.length + body.length ∧
    (block = [] → a.blockData = []) ∧ FrameBody body ∧
    rest = (block ++ body).map (·, false) ++ frames.flatMap StackFrame.markedWords

/-- At first the frames are all still to come. -/
theorem expects_frames (frames : List StackFrame) :
    Expects {} (frames.flatMap StackFrame.markedWords) :=
  ⟨[], [], frames, rfl, rfl, fun _ => rfl, .nil, rfl⟩

/-- Between two frames the assembly is empty. -/
theorem Expects.eq_empty {a : FrameAssembly} {rest : List (UInt32 × Bool)} (h : Expects a rest)
    (hstack : a.stackWordsRemaining = 0) : a = {} := by
  obtain ⟨block, body, frames, hblock, hwords, hdata, -, -⟩ := h
  have hnil : block = [] := List.eq_nil_of_length_eq_zero (by omega)
  cases a
  simp only at hblock hstack hdata
  rw [hdata hnil, hblock, hstack, hnil]
  rfl

/-- A word is a frame header exactly when no frame is open. -/
theorem Expects.mark_iff {a : FrameAssembly} {word : UInt32} {mark : Bool}
    {rest : List (UInt32 × Bool)} (h : Expects a ((word, mark) :: rest)) :
    mark = true ↔ a.stackWordsRemaining = 0 := by
  obtain ⟨block, body, frames, -, hwords, -, -, hrest⟩ := h
  rw [hwords]
  cases block with
  | cons w block =>
      simp only [List.cons_append, List.map_cons, List.cons.injEq, Prod.mk.injEq] at hrest
      simp [hrest.1.2]
  | nil =>
      cases body with
      | cons w body =>
          simp only [List.nil_append, List.map_cons, List.cons_append, List.cons.injEq,
            Prod.mk.injEq] at hrest
          simp [hrest.1.2]
      | nil =>
          cases frames with
          | nil => simp at hrest
          | cons frame frames =>
              simp only [List.append_nil, List.map_nil, List.nil_append, List.flatMap_cons,
                StackFrame.markedWords, List.cons_append, List.cons.injEq, Prod.mk.injEq] at hrest
              simp [hrest.1.2]

/-- The word may belong to the open block, be a word or a block header in the open frame, or be a
frame header. -/
theorem Expects.step {a : FrameAssembly} {word : UInt32} {mark : Bool}
    {rest : List (UInt32 × Bool)} (h : Expects a ((word, mark) :: rest)) :
    Expects (a.step word) rest := by
  obtain ⟨block, body, frames, hblock, hwords, hdata, hbody, hrest⟩ := h
  unfold FrameAssembly.step
  cases block with
  -- a word of the open block
  | cons w block =>
      rw [List.length_cons] at hblock hwords
      simp only [List.cons_append, List.map_cons, List.cons.injEq] at hrest
      rw [if_pos (by omega), if_neg (by omega)]
      refine ⟨block, body, frames, ?_, ?_, ?_, hbody, hrest.2⟩
      · show a.blockWordsRemaining - 1 = block.length
        omega
      · show a.stackWordsRemaining - 1 = block.length + body.length
        omega
      · intro hnil
        rw [hnil] at hblock
        exact if_pos hblock
  | nil =>
      have hempty := hdata rfl
      rw [List.length_nil] at hblock hwords
      rw [if_neg (by omega)]
      cases hbody with
      -- a word of the frame that opens no block
      | word htype hbody =>
          rw [List.length_cons] at hwords
          simp only [List.nil_append, List.map_cons, List.cons_append, List.cons.injEq,
            Prod.mk.injEq] at hrest
          obtain ⟨⟨rfl, rfl⟩, hrest⟩ := hrest
          rw [if_pos (by omega), if_neg htype]
          refine ⟨[], _, frames, hblock, ?_, fun _ => hempty, hbody, hrest⟩
          show a.stackWordsRemaining - 1 = 0 + _
          omega
      -- the header of a block
      | @block header block body htype hlength hbody =>
          rw [List.length_cons, List.length_append] at hwords
          simp only [List.nil_append, List.map_cons, List.cons_append, List.cons.injEq,
            Prod.mk.injEq] at hrest
          obtain ⟨⟨rfl, rfl⟩, hrest⟩ := hrest
          simp only
          rw [if_pos (by omega), if_pos htype, if_neg (by omega)]
          refine ⟨block, body, frames, hlength, ?_, fun _ => rfl, hbody, hrest⟩
          show a.stackWordsRemaining - 1 = block.length + body.length
          omega
      -- the frame is complete, so this is the header of the next one
      | nil =>
          cases frames with
          | nil => simp at hrest
          | cons frame frames =>
              simp only [List.append_nil, List.map_nil, List.nil_append, List.flatMap_cons,
                StackFrame.markedWords, List.cons_append, List.cons.injEq, Prod.mk.injEq] at hrest
              obtain ⟨⟨rfl, rfl⟩, hrest⟩ := hrest
              rw [List.length_nil] at hwords
              rw [if_neg (by omega), if_pos frame.header_type]
              refine ⟨[], frame.body, frames, hblock, ?_, fun _ => hempty, frame.body_wellFormed,
                hrest⟩
              show (frame.header &&& frameLengthMask).toNat = 0 + frame.body.length
              rw [frame.header_length, Nat.zero_add]

/-- The words of the frames are taken as they come. -/
theorem Expects.run {a : FrameAssembly} {words rest : List (UInt32 × Bool)}
    (h : Expects a (words ++ rest)) : Expects (a.run (words.map (·.1))) rest := by
  induction words generalizing a with
  | nil => exact h
  | cons word words ih => exact ih h.step

/-! ### The words of a packet

A decoder in sequence takes all words of a packet. One that was reset takes them from the header
pointer on, and is then in the state that the undisturbed decoder is in at that word. -/

def DataPacket.nextHeaderPointer (packet : DataPacket) : Nat := (packet.header1 &&& 0x0FFF).toNat

/-- The payload from the header pointer on. -/
def DataPacket.wordsFromHeader (packet : DataPacket) : List UInt32 :=
  if packet.nextHeaderPointer = 0x0FFF then []
  else packet.payloadWords.drop packet.nextHeaderPointer

/-- The words that an assembly takes from a packet. -/
def FrameAssembly.wordsTaken (a : FrameAssembly) (packet : DataPacket) : List UInt32 :=
  if a.stackWordsRemaining = 0 then packet.wordsFromHeader else packet.payloadWords

/-- A pointer that is not the one for "no header" stands at a frame header of the payload. -/
theorem DataPacket.exists_header (packet : DataPacket) (h : packet.nextHeaderPointer ≠ 0x0FFF) :
    ∃ hpointer : packet.nextHeaderPointer < packet.payload.length,
      packet.payload[packet.nextHeaderPointer].2 = true := by
  have hfind : packet.nextHeaderPointer = (packet.payload.findIdx? (·.2)).getD 0x0FFF :=
    packet.header1_pointer
  cases hindex : packet.payload.findIdx? (·.2) with
  | none =>
      rw [hindex] at hfind
      exact absurd hfind h
  | some k =>
      rw [hindex, Option.getD_some] at hfind
      obtain ⟨hk, hmark, -⟩ := List.findIdx?_eq_some_iff_getElem.mp hindex
      subst hfind
      exact ⟨hk, hmark⟩

/-- From the header pointer on there is nothing, or a frame header and what follows it. -/
theorem DataPacket.wordsFromHeader_cases (packet : DataPacket) :
    packet.wordsFromHeader = [] ∨
      ∃ before header after, packet.payload = before ++ (header, true) :: after ∧
        packet.wordsFromHeader = header :: after.map (·.1) := by
  unfold wordsFromHeader
  split
  · exact .inl rfl
  next hnamed =>
    obtain ⟨hpointer, hmark⟩ := packet.exists_header hnamed
    right
    have hsplit := (List.take_append_drop packet.nextHeaderPointer packet.payload).symm
    rw [List.drop_eq_getElem_cons hpointer] at hsplit
    refine ⟨packet.payload.take packet.nextHeaderPointer,
      packet.payload[packet.nextHeaderPointer].1,
      packet.payload.drop (packet.nextHeaderPointer + 1), ?_, ?_⟩
    · rw [← hmark]
      exact hsplit
    · rw [payloadWords, ← List.map_drop, List.drop_eq_getElem_cons hpointer, List.map_cons]

/-- A packet that begins with a frame header is taken whole. -/
theorem DataPacket.wordsFromHeader_eq (packet : DataPacket)
    (h : ∀ first rest, packet.payload = first :: rest → first.2 = true) :
    packet.wordsFromHeader = packet.payloadWords := by
  have hfind : packet.nextHeaderPointer = (packet.payload.findIdx? (·.2)).getD 0x0FFF :=
    packet.header1_pointer
  unfold wordsFromHeader payloadWords
  rw [hfind]
  cases hpayload : packet.payload with
  | nil => rfl
  | cons first rest =>
      have hfirst : ((first :: rest).findIdx? (·.2)) = some 0 := by
        rw [List.findIdx?_cons, if_pos (h first rest hpayload)]
      rw [hfirst]
      rfl

/-- In sequence, every word of a packet is taken. -/
theorem Expects.wordsTaken_eq {a : FrameAssembly} {packet : DataPacket}
    {rest : List (UInt32 × Bool)} (h : Expects a (packet.payload ++ rest)) :
    a.wordsTaken packet = packet.payloadWords := by
  unfold FrameAssembly.wordsTaken
  split
  next hstack =>
    apply packet.wordsFromHeader_eq
    intro first payload hpayload
    rw [hpayload] at h
    exact h.mark_iff.mpr hstack
  · rfl

/-- An assembly that was reset resumes at the first frame header of a packet. From there on it is
what the undisturbed one is. -/
theorem Expects.resume {a : FrameAssembly} {packet : DataPacket} {rest : List (UInt32 × Bool)}
    (h : Expects a (packet.payload ++ rest)) :
    let taken := ({} : FrameAssembly).wordsTaken packet
    (({} : FrameAssembly).blocks taken).Sublist (a.blocks packet.payloadWords) ∧
      (({} : FrameAssembly).run taken = {} ∨
        ({} : FrameAssembly).run taken = a.run packet.payloadWords) := by
  have htaken : ({} : FrameAssembly).wordsTaken packet = packet.wordsFromHeader := rfl
  rw [htaken]
  rcases packet.wordsFromHeader_cases with hnone | ⟨before, header, after, hpayload, hwords⟩
  · rw [hnone]
    exact ⟨List.nil_sublist _, .inl rfl⟩
  · have hpayloadWords :
        packet.payloadWords = before.map (·.1) ++ (header :: after.map (·.1)) := by
      rw [DataPacket.payloadWords, hpayload, List.map_append, List.map_cons]
    rw [hpayload, List.append_assoc] at h
    have hresumed := h.run
    have hidle := hresumed.eq_empty (hresumed.mark_iff.mp rfl)
    rw [hwords, hpayloadWords, FrameAssembly.blocks_append, FrameAssembly.run_append, hidle]
    exact ⟨List.sublist_append_right _ _, .inr rfl⟩

namespace MvmeStreamDecoder

/-! ### Packets at the decoder

`processEthernetPacket` checks the header and counts before it hands on the words. For the packets
considered here it does what `processDataPacket` does, and the transport's counters can be told
apart from the decoding. -/

/-- The packet's number is the one the decoder waits for, or it waits for none. -/
def InSequence (d : MvmeStreamDecoder) (packet : DataPacket) : Prop :=
  ∀ last ∈ d.lastEthernetPacket, packet.number.toNat = (last.toNat + 1) % 4096

instance (d : MvmeStreamDecoder) (packet : DataPacket) : Decidable (d.InSequence packet) :=
  inferInstanceAs (Decidable (∀ last ∈ d.lastEthernetPacket, _))

/-- What `enterEthernetPacket` does with a data packet. -/
def enterDataPacket (d : MvmeStreamDecoder) (packet : DataPacket) :
    MvmeStreamDecoder × List UInt32 :=
  d.enterEthernetPacket packet.header0 packet.header1 packet.payloadWords

/-- What `processEthernetPacket` does with a data packet. -/
def processDataPacket (d : MvmeStreamDecoder) (packet : DataPacket) : MvmeStreamDecoder :=
  d.processEthernetPacket packet.words

/-- The blocks that data packets complete. -/
def packetBlocks : MvmeStreamDecoder → List DataPacket → List (List UInt32)
  | _, [] => []
  | d, packet :: packets =>
    (d.enterDataPacket packet).1.toFrameAssembly.blocks (d.enterDataPacket packet).2 ++
      (d.processDataPacket packet).packetBlocks packets

/-- The decoder less what it knows of the transport. -/
def withoutTransport (d : MvmeStreamDecoder) : MvmeStreamDecoder :=
  { d with lastEthernetPacket := none, stats := { d.stats with ethernetPackets := 0 } }

/-- The numbers of the packets count modulo 4096. -/
theorem eq_expected_iff (packetNumber last : UInt16) :
    packetNumber = (last + 1) &&& ethernetPacketNumberMask.toUInt16 ↔
      packetNumber.toNat = (last.toNat + 1) % 4096 := by
  have hmask : ethernetPacketNumberMask.toUInt16.toNat = 2 ^ 12 - 1 := rfl
  have hone : (1 : UInt16).toNat = 1 := rfl
  rw [← UInt16.toNat_inj, UInt16.toNat_and, UInt16.toNat_add, hmask, hone,
    Nat.and_two_pow_sub_one_eq_mod]
  omega

/-- A packet in sequence loses nothing. -/
theorem noteEthernetPacket_of_inSequence {d : MvmeStreamDecoder} {packet : DataPacket}
    (h : d.InSequence packet) :
    d.noteEthernetPacket packet.number = { d with lastEthernetPacket := some packet.number } := by
  unfold noteEthernetPacket
  cases hlast : d.lastEthernetPacket with
  | none => rfl
  | some last =>
      have hexpected := (eq_expected_iff packet.number last).mpr (h last hlast)
      simp only
      rw [if_neg (not_not_intro hexpected)]

/-- A gap discards what is under assembly. -/
theorem noteEthernetPacket_of_not_inSequence {d : MvmeStreamDecoder} {packet : DataPacket}
    (h : ¬d.InSequence packet) :
    (d.noteEthernetPacket packet.number).toFrameAssembly = {} := by
  unfold noteEthernetPacket
  cases hlast : d.lastEthernetPacket with
  | none =>
      refine absurd ?_ h
      intro last hsome
      rw [hlast] at hsome
      cases hsome
  | some last =>
      have hexpected : packet.number ≠ (last + 1) &&& ethernetPacketNumberMask.toUInt16 := by
        intro heq
        apply h
        intro last' hsome
        rw [hlast] at hsome
        cases hsome
        exact (eq_expected_iff packet.number last).mp heq
      simp only
      rw [if_pos hexpected]
      rfl

/-- The packet counted and its number noted. -/
def noteDataPacket (d : MvmeStreamDecoder) (packet : DataPacket) : MvmeStreamDecoder :=
  noteEthernetPacket
    { d with stats := { d.stats with ethernetPackets := d.stats.ethernetPackets + 1 } }
    packet.number

/-- Where the words of a packet begin: at its header pointer if a frame was lost before. -/
theorem payloadStart_eq (d : MvmeStreamDecoder) (packet : DataPacket) :
    d.payloadStart packet.header1 packet.payloadWords = some (d.wordsTaken packet) := by
  unfold payloadStart FrameAssembly.wordsTaken DataPacket.wordsFromHeader
  split
  · by_cases hnone : packet.nextHeaderPointer = 0x0FFF
    · have hpointer : packet.header1 &&& 0x0FFF = ethernetNoHeaderPointer :=
        UInt32.toNat_inj.mp hnone
      simp only
      rw [if_pos hpointer, if_pos hnone]
    · have hpointer : packet.header1 &&& 0x0FFF ≠ ethernetNoHeaderPointer := fun heq =>
        hnone (congrArg UInt32.toNat heq)
      obtain ⟨hlength, -⟩ := packet.exists_header hnone
      have hinside : ¬(packet.header1 &&& 0x0FFF).toNat ≥ packet.payloadWords.length := by
        rw [DataPacket.payloadWords, List.length_map]
        exact Nat.not_le.mpr hlength
      simp only
      rw [if_neg hpointer, if_neg hinside, if_neg hnone]
      rfl
  · rfl

/-- What a data packet does before its words are processed, and which words those are. -/
theorem enterDataPacket_eq (d : MvmeStreamDecoder) (packet : DataPacket) :
    d.enterDataPacket packet =
      (d.noteDataPacket packet, (d.noteDataPacket packet).wordsTaken packet) := by
  unfold enterDataPacket enterEthernetPacket
  simp only
  rw [if_neg (not_not_intro packet.header0_channel)]
  have hnoted : noteEthernetPacket
      { d with stats := { d.stats with ethernetPackets := d.stats.ethernetPackets + 1 } }
      ((packet.header0 >>> 16) &&& ethernetPacketNumberMask).toUInt16 = d.noteDataPacket packet :=
    rfl
  rw [hnoted, payloadStart_eq]

/-- A packet is noted, and its words are taken. -/
theorem processDataPacket_eq (d : MvmeStreamDecoder) (packet : DataPacket) :
    d.processDataPacket packet = (d.noteDataPacket packet).processStackWords
      ((d.noteDataPacket packet).wordsTaken packet) := by
  show (d.enterDataPacket packet).1.processStackWords (d.enterDataPacket packet).2 = _
  rw [enterDataPacket_eq]

/-- The packets that go on where the last one noted left off. -/
def AwaitsNumber (d : MvmeStreamDecoder) (first : Nat) : Prop :=
  ∀ last ∈ d.lastEthernetPacket, (last.toNat + 1) % 4096 = first % 4096

/-- The next packet has the next number. -/
theorem AwaitsNumber.inSequence {d : MvmeStreamDecoder} {first : Nat} {packet : DataPacket}
    (h : d.AwaitsNumber first) (hnumber : packet.number.toNat = first % 4096) :
    d.InSequence packet := by
  intro last hlast
  rw [hnumber, h last hlast]

theorem processDataPacket_lastEthernetPacket (d : MvmeStreamDecoder) (packet : DataPacket) :
    (d.processDataPacket packet).lastEthernetPacket = some packet.number := by
  rw [processDataPacket_eq]
  exact congrArg Prod.snd (processStackWords_receiveState (d.noteDataPacket packet) _)

/-- After a packet the next number is awaited. -/
theorem awaitsNumber_processDataPacket (d : MvmeStreamDecoder) {first : Nat} {packet : DataPacket}
    (hnumber : packet.number.toNat = first % 4096) :
    (d.processDataPacket packet).AwaitsNumber (first + 1) := by
  intro last hlast
  rw [processDataPacket_lastEthernetPacket] at hlast
  cases hlast
  omega

/-! ### Every packet received

Without a gap every payload is taken whole, so the decoder does what it does with the words alone.
-/

/-- The transport's counters have no part in the decoding. -/
theorem processBlockItem_withoutTransport (d : MvmeStreamDecoder) (item : BlockItem) :
    d.withoutTransport.processBlockItem item = (d.processBlockItem item).withoutTransport := by
  cases item <;> rfl

theorem decodeBlockFrame_withoutTransport (d : MvmeStreamDecoder) :
    d.withoutTransport.decodeBlockFrame = d.decodeBlockFrame.withoutTransport :=
  List.foldl_hom withoutTransport processBlockItem_withoutTransport

theorem processStackWord_withoutTransport (d : MvmeStreamDecoder) (word : UInt32) :
    d.withoutTransport.processStackWord word = (d.processStackWord word).withoutTransport := by
  have hassembly : d.withoutTransport.toFrameAssembly = d.toFrameAssembly := rfl
  unfold processStackWord
  rw [hassembly]
  split
  · split
    · rfl
    · simp only
      split
      · exact congrArg (fun d : MvmeStreamDecoder => { d with blockData := [] })
          (decodeBlockFrame_withoutTransport (countBlockFrame { d with
            blockData := d.blockData ++ [word]
            blockWordsRemaining := d.blockWordsRemaining - 1
            stackWordsRemaining := d.stackWordsRemaining - 1 }))
      · rfl
  · split
    · split
      · simp only
        split
        · rfl
        · split <;> rfl
      · rfl
    · split <;> rfl

/-- The same for the words of a unit. -/
theorem processStackWords_withoutTransport (d : MvmeStreamDecoder) (words : List UInt32) :
    d.withoutTransport.processStackWords words = (d.processStackWords words).withoutTransport :=
  List.foldl_hom withoutTransport processStackWord_withoutTransport

/-- In sequence, noting a packet changes the transport's counters only. -/
theorem noteDataPacket_of_inSequence {d : MvmeStreamDecoder} {packet : DataPacket}
    (h : d.InSequence packet) :
    (d.noteDataPacket packet).withoutTransport = d.withoutTransport ∧
      (d.noteDataPacket packet).toFrameAssembly = d.toFrameAssembly := by
  unfold noteDataPacket
  rw [@noteEthernetPacket_of_inSequence
    { d with stats := { d.stats with ethernetPackets := d.stats.ethernetPackets + 1 } } packet h]
  exact ⟨rfl, rfl⟩

/-- A packet in sequence hands its whole payload to the assembly. -/
theorem processDataPacket_of_inSequence {d : MvmeStreamDecoder} {packet : DataPacket}
    {rest : List (UInt32 × Bool)} (hsequence : d.InSequence packet)
    (h : Expects d.toFrameAssembly (packet.payload ++ rest)) :
    (d.processDataPacket packet).withoutTransport =
        d.withoutTransport.processStackWords packet.payloadWords ∧
      (d.enterDataPacket packet).1.toFrameAssembly.blocks (d.enterDataPacket packet).2 =
        d.blocks packet.payloadWords ∧
      (d.processDataPacket packet).toFrameAssembly = d.run packet.payloadWords := by
  obtain ⟨htransport, hassembly⟩ := noteDataPacket_of_inSequence hsequence
  have htaken : (d.noteDataPacket packet).wordsTaken packet = packet.payloadWords := by
    rw [hassembly]
    exact h.wordsTaken_eq
  rw [processDataPacket_eq, enterDataPacket_eq]
  simp only
  rw [htaken, ← processStackWords_withoutTransport, htransport, hassembly,
    processStackWords_toFrameAssembly, hassembly]
  exact ⟨rfl, rfl, rfl⟩

theorem foldl_processDataPacket {packets : List DataPacket} {d : MvmeStreamDecoder} {first : Nat}
    (hnumbers : NumberedFrom first packets) (hd : d.AwaitsNumber first)
    (h : Expects d.toFrameAssembly (packets.flatMap (·.payload))) :
    (packets.foldl processDataPacket d).withoutTransport =
        d.withoutTransport.processStackWords (packets.flatMap (·.payloadWords)) ∧
      d.packetBlocks packets = d.blocks (packets.flatMap (·.payloadWords)) := by
  induction packets generalizing d first with
  | nil => exact ⟨rfl, rfl⟩
  | cons packet packets ih =>
      obtain ⟨hstate, hblocks, hassembly⟩ :=
        processDataPacket_of_inSequence (hd.inSequence hnumbers.1) h
      have hrest : Expects (d.processDataPacket packet).toFrameAssembly
          (packets.flatMap (·.payload)) := by
        rw [hassembly]
        exact h.run
      obtain ⟨ihstate, ihblocks⟩ :=
        ih hnumbers.2 (awaitsNumber_processDataPacket d hnumbers.1) hrest
      constructor
      · rw [List.foldl_cons, ihstate, hstate, List.flatMap_cons]
        exact List.foldl_append.symm
      · rw [List.flatMap_cons, FrameAssembly.blocks_append, ← hassembly, ← ihblocks, ← hblocks]
        rfl

/-! ### Some packets dropped

The disturbed decoder is compared with the undisturbed one, packet by packet. Whenever both have an
open frame it is the same one; a gap empties the assembly, and the next header pointer brings it
back. -/

/-- Where a decoder stands before packet `first` when `dropped` packets are missing since the last
one it received: it knows that packet's number, and its assembly satisfies `P` if none is missing. -/
def Follows (d : MvmeStreamDecoder) (P : FrameAssembly → Prop) (first : Nat) :
    (dropped : Option Nat) → Prop
  | none => d.lastEthernetPacket = none ∧ d.toFrameAssembly = {}
  | some dropped => ∃ last, d.lastEthernetPacket = some last ∧
    (last.toNat + 1 + dropped) % 4096 = first % 4096 ∧ (dropped = 0 → P d.toFrameAssembly)

/-- A packet that is lost is one more missing number. -/
theorem Follows.drop {d : MvmeStreamDecoder} {P P' : FrameAssembly → Prop} {first : Nat}
    {dropped : Option Nat} (h : d.Follows P first dropped) :
    d.Follows P' (first + 1) (dropped.map (· + 1)) := by
  cases dropped with
  | none => exact h
  | some dropped =>
      obtain ⟨last, hlast, hnumber, -⟩ := h
      refine ⟨last, hlast, ?_, ?_⟩
      · show (last.toNat + 1 + (dropped + 1)) % 4096 = (first + 1) % 4096
        omega
      · intro hzero
        exact absurd hzero (Nat.succ_ne_zero dropped)

/-- A packet that arrives is the last one seen. -/
theorem follows_processDataPacket (d : MvmeStreamDecoder) {P : FrameAssembly → Prop}
    {packet : DataPacket} {first : Nat} (hnumber : packet.number.toNat = first % 4096)
    (h : P (d.processDataPacket packet).toFrameAssembly) :
    (d.processDataPacket packet).Follows P (first + 1) (some 0) :=
  ⟨packet.number, processDataPacket_lastEthernetPacket d packet, by omega, fun _ => h⟩

/-- After a gap the assembly is empty. -/
theorem noteDataPacket_of_not_inSequence {d : MvmeStreamDecoder} {packet : DataPacket}
    (h : ¬d.InSequence packet) : (d.noteDataPacket packet).toFrameAssembly = {} :=
  @noteEthernetPacket_of_not_inSequence
    { d with stats := { d.stats with ethernetPackets := d.stats.ethernetPackets + 1 } } packet h

/-- A gap that is not a multiple of 4096 is noticed. -/
theorem Follows.noted {d : MvmeStreamDecoder} {P : FrameAssembly → Prop} {first : Nat}
    {dropped : Option Nat} {packet : DataPacket} (h : d.Follows P first dropped)
    (hdropped : ∀ n ∈ dropped, n = 0 ∨ ¬4096 ∣ n) (hnumber : packet.number.toNat = first % 4096)
    (hP : P {}) : P (d.noteDataPacket packet).toFrameAssembly := by
  by_cases hsequence : d.InSequence packet
  · rw [(noteDataPacket_of_inSequence hsequence).2]
    cases dropped with
    | none => rwa [h.2]
    | some dropped =>
        obtain ⟨last, hlast, hnext, hd⟩ := h
        apply hd
        have hexpected := hsequence last hlast
        rcases hdropped dropped rfl with hzero | hgap
        · exact hzero
        · exact absurd (by omega) hgap
  · rwa [noteDataPacket_of_not_inSequence hsequence]

/-- What a data packet completes and leaves behind, by the assembly it finds. -/
theorem dataPacket_assembly (d : MvmeStreamDecoder) (packet : DataPacket) :
    let a := (d.noteDataPacket packet).toFrameAssembly
    (d.enterDataPacket packet).1.toFrameAssembly.blocks (d.enterDataPacket packet).2 =
        a.blocks (a.wordsTaken packet) ∧
      (d.processDataPacket packet).toFrameAssembly = a.run (a.wordsTaken packet) := by
  rw [processDataPacket_eq, enterDataPacket_eq, processStackWords_toFrameAssembly]
  exact ⟨rfl, rfl⟩

/-- What is completed in spite of the drops is completed without them too. -/
theorem packetBlocks_received {dropped : Option Nat} {packets received : List DataPacket}
    (hreceived : Received dropped packets received) {d : MvmeStreamDecoder} {a : FrameAssembly}
    {first : Nat} (hnumbers : NumberedFrom first packets)
    (hd : d.Follows (fun a' => a' = {} ∨ a' = a) first dropped)
    (h : Expects a (packets.flatMap (·.payload))) :
    (d.packetBlocks received).Sublist (a.blocks (packets.flatMap (·.payloadWords))) := by
  induction hreceived generalizing d a first with
  | nil => exact List.Sublist.refl []
  | drop _ ih =>
      rw [List.flatMap_cons, FrameAssembly.blocks_append]
      have hrest := ih hnumbers.2 hd.drop h.run
      exact hrest.trans (List.sublist_append_right _ _)
  | @receive dropped packet packets received hdropped _ ih =>
      -- The packet finds the undisturbed assembly, or one that was reset; either way it leaves
      -- one of these two behind.
      obtain ⟨hblocks, hassembly⟩ := dataPacket_assembly d packet
      have hpacket : ((d.enterDataPacket packet).1.toFrameAssembly.blocks
            (d.enterDataPacket packet).2).Sublist (a.blocks packet.payloadWords) ∧
          ((d.processDataPacket packet).toFrameAssembly = {} ∨
            (d.processDataPacket packet).toFrameAssembly = a.run packet.payloadWords) := by
        rw [hblocks, hassembly]
        rcases hd.noted hdropped hnumbers.1 (.inl rfl) with hnoted | hnoted
        · rw [hnoted]
          exact h.resume
        · rw [hnoted, Expects.wordsTaken_eq h]
          exact ⟨List.Sublist.refl _, .inr rfl⟩
      rw [List.flatMap_cons, FrameAssembly.blocks_append]
      exact hpacket.1.append
        (ih hnumbers.2 (follows_processDataPacket d hnumbers.1 hpacket.2) h.run)

/-- The assembly holds words of the last packets before a point only, and all of these were
received. -/
def HeldFromRun (sent got : List DataPacket) (a : FrameAssembly) : Prop :=
  ∃ run, run <:+ sent ∧ run <:+ got ∧ a.HeldFrom (run.flatMap (·.payloadWords))

/-- An empty assembly holds nothing of the stream. -/
theorem heldFromRun_empty (sent got : List DataPacket) : HeldFromRun sent got {} :=
  ⟨[], List.nil_suffix, List.nil_suffix, FrameAssembly.heldFrom_empty _⟩

/-- The words that are taken of a packet are its last words, and the words before are all it skips. -/
theorem heldFrom_wordsTaken {a : FrameAssembly} {context : List UInt32}
    (h : a.HeldFrom context) (packet : DataPacket) :
    ∃ skipped, packet.payloadWords = skipped ++ a.wordsTaken packet ∧
      a.HeldFrom (context ++ skipped) := by
  unfold FrameAssembly.wordsTaken
  split
  next hstack =>
    have hchange := h.change hstack
    unfold DataPacket.wordsFromHeader
    split
    · exact ⟨packet.payloadWords, (List.append_nil _).symm, hchange _⟩
    · exact ⟨packet.payloadWords.take packet.nextHeaderPointer,
        (List.take_append_drop _ _).symm, hchange _⟩
  · exact ⟨[], rfl, by rwa [List.append_nil]⟩

/-- A block that is completed in spite of the drops lies within packets that follow one another in
what was sent and in what was received. -/
theorem packetBlocks_unmixed {dropped : Option Nat} {packets received : List DataPacket}
    (hreceived : Received dropped packets received) {d : MvmeStreamDecoder}
    {sent got : List DataPacket} {first : Nat} (hnumbers : NumberedFrom first packets)
    (hd : d.Follows (HeldFromRun sent got) first dropped) :
    ∀ block ∈ d.packetBlocks received, ∃ run, run <:+: sent ++ packets ∧
      run <:+: got ++ received ∧ block <:+: run.flatMap (·.payloadWords) := by
  induction hreceived generalizing d sent got first with
  | nil =>
      intro block hblock
      cases hblock
  -- a packet that is lost completes nothing
  | @drop dropped packet packets received _ ih =>
      have hrest := @ih d (sent ++ [packet]) got (first + 1) hnumbers.2 hd.drop
      rwa [List.append_assoc] at hrest
  -- what is held comes from the last packets, and the words of this one go behind it
  | @receive dropped packet packets received hdropped _ ih =>
      obtain ⟨hblocks, hassembly⟩ := dataPacket_assembly d packet
      obtain ⟨run, ⟨sent', hsent⟩, ⟨got', hgot⟩, hheld⟩ :=
        hd.noted hdropped hnumbers.1 (heldFromRun_empty sent got)
      obtain ⟨skipped, hskipped, hheld⟩ := heldFrom_wordsTaken hheld packet
      have hwords : (run ++ [packet]).flatMap (·.payloadWords) =
          run.flatMap (·.payloadWords) ++ skipped ++
            (d.noteDataPacket packet).wordsTaken packet := by
        rw [List.flatMap_append, List.flatMap_singleton, hskipped, List.append_assoc]
      intro block hblock
      rcases List.mem_append.mp hblock with hpacket | hrest
      · -- a block that this packet completes
        refine ⟨run ++ [packet], ⟨sent', packets, ?_⟩, ⟨got', received, ?_⟩, ?_⟩
        · rw [← hsent]
          simp
        · rw [← hgot]
          simp
        · rw [hwords]
          rw [hblocks] at hpacket
          exact hheld.blocks hpacket
      · -- a block that a later one completes
        have hrun : HeldFromRun (sent ++ [packet]) (got ++ [packet])
            (d.processDataPacket packet).toFrameAssembly := by
          refine ⟨run ++ [packet], ⟨sent', ?_⟩, ⟨got', ?_⟩, ?_⟩
          · rw [← hsent, List.append_assoc]
          · rw [← hgot, List.append_assoc]
          · rw [hwords, hassembly]
            exact hheld.run _
        have hinfix := ih hnumbers.2 (follows_processDataPacket d hnumbers.1 hrun) block hrest
        rwa [List.append_assoc, List.append_assoc] at hinfix

/-! ### Frames and packets as bytes -/

def frameBytes (frames : List StackFrame) : List UInt8 :=
  frames.flatMap fun frame => encodeWords frame.words

def packetBytes (packets : List DataPacket) : List UInt8 :=
  packets.flatMap fun packet => encodeWords packet.words

section Written

variable {α : Type} {kind : StreamUnit} {encode : α → List UInt8} {items : List α}

/-- A stream that was written unit by unit is taken unit by unit. -/
theorem consume_written {d : MvmeStreamDecoder} (hpending : d.pendingBytes = [])
    (h : ∀ item ∈ items, nextStreamUnit (encode item) = some (kind, (encode item).length)) :
    d.consume (items.flatMap encode) =
      items.foldl (fun d item => d.processStreamUnit kind (encode item)) d := by
  have hsettled : d.Settled := by
    unfold Settled
    rw [hpending]
    rfl
  have hsplit : d.split = (d, []) := by
    cases d
    cases hpending
    rfl
  have hdrain := @drain_flatMap _ _ _ streamFraming processStreamUnit α kind encode items rfl h d
  have hempty := drain_pendingBytes d (items.flatMap encode)
  apply split_injective
  rw [split_consume hsettled, hsplit]
  show drain streamFraming processStreamUnit d (items.flatMap encode) = _
  rw [hdrain] at hempty ⊢
  generalize items.foldl (fun d item => d.processStreamUnit kind (encode item)) d = processed
    at hempty ⊢
  cases processed
  cases hempty.trans hpending
  rfl

/-- Its blocks are those of its units. -/
theorem decodedBlocks_written {d : MvmeStreamDecoder} (hpending : d.pendingBytes = [])
    (h : ∀ item ∈ items, nextStreamUnit (encode item) = some (kind, (encode item).length)) :
    d.decodedBlocks (items.flatMap encode) =
      d.unitBlocks (items.map fun item => (kind, encode item)) := by
  have hframes := @frames_flatMap _ _ streamFraming α kind encode items rfl h
  have hd : { d with pendingBytes := [] } = d := by
    cases d
    cases hpending
    rfl
  unfold decodedBlocks
  rw [hpending, List.nil_append, hframes, hd]
  split
  next hnone =>
    -- No bytes come of no items only, since every item is a frame.
    rw [hnone, frames_of_none rfl] at hframes
    rw [← hframes]
    rfl
  · rfl

end Written

/-- A stream of packets is taken packet by packet. -/
theorem consume_packetBytes {d : MvmeStreamDecoder} (hpending : d.pendingBytes = [])
    (packets : List DataPacket) :
    d.consume (packetBytes packets) = packets.foldl processDataPacket d := by
  have hstep : (fun (d : MvmeStreamDecoder) (packet : DataPacket) =>
      d.processStreamUnit .ethernetPacket (encodeWords packet.words)) = processDataPacket := by
    funext d packet
    exact congrArg d.processEthernetPacket (readWords_encodeWords packet.words)
  rw [packetBytes, consume_written hpending fun packet _ => packet.nextStreamUnit_words, hstep]

theorem decodedBlocks_packetBytes {d : MvmeStreamDecoder} (hpending : d.pendingBytes = [])
    (packets : List DataPacket) : d.decodedBlocks (packetBytes packets) = d.packetBlocks packets := by
  rw [packetBytes, decodedBlocks_written hpending fun packet _ => packet.nextStreamUnit_words]
  clear hpending
  induction packets generalizing d with
  | nil => rfl
  | cons packet packets ih =>
      have henter : d.enterStreamUnit .ethernetPacket (encodeWords packet.words) =
          d.enterDataPacket packet := by
        unfold enterStreamUnit
        rw [readWords_encodeWords]
        rfl
      have hprocess : d.processStreamUnit .ethernetPacket (encodeWords packet.words) =
          d.processDataPacket packet :=
        congrArg d.processEthernetPacket (readWords_encodeWords packet.words)
      rw [List.map_cons, unitBlocks, packetBlocks, henter, hprocess, ih]

/-- A stream of frames is taken word by word. -/
theorem consume_frameBytes {d : MvmeStreamDecoder} (hpending : d.pendingBytes = [])
    (frames : List StackFrame) :
    d.consume (frameBytes frames) = d.processStackWords (frames.flatMap StackFrame.words) := by
  have hstep : (fun (d : MvmeStreamDecoder) (frame : StackFrame) =>
      d.processStreamUnit .stackFrame (encodeWords frame.words)) =
      fun d frame => d.processStackWords frame.words := by
    funext d frame
    exact congrArg d.processStackWords (readWords_encodeWords frame.words)
  rw [frameBytes, consume_written hpending fun frame _ => frame.nextStreamUnit_words, hstep]
  exact List.foldl_flatMap.symm

theorem decodedBlocks_frameBytes {d : MvmeStreamDecoder} (hpending : d.pendingBytes = [])
    (frames : List StackFrame) :
    d.decodedBlocks (frameBytes frames) = d.blocks (frames.flatMap StackFrame.words) := by
  rw [frameBytes, decodedBlocks_written hpending fun frame _ => frame.nextStreamUnit_words]
  clear hpending
  induction frames generalizing d with
  | nil => rfl
  | cons frame frames ih =>
      have hwords := readWords_encodeWords frame.words
      rw [List.map_cons, unitBlocks, List.flatMap_cons, FrameAssembly.blocks_append, ih]
      simp only [enterStreamUnit, processStreamUnit, hwords]
      rw [processStackWords_toFrameAssembly]

/-! ### Packets against frames

The theorem, for decoders that stand between two units and have not yet seen a packet. -/

/-- Nothing is pending, nothing is under assembly and no packet has come yet, as in a new decoder. -/
structure AtBoundary (d : MvmeStreamDecoder) : Prop where
  pendingBytes : d.pendingBytes = []
  assembly : d.toFrameAssembly = {}
  lastEthernetPacket : d.lastEthernetPacket = none

/-- Together the packets carry the words of the frames. -/
theorem payloadWords_eq_words {frames : List StackFrame} {packets : List DataPacket}
    (h : packets.flatMap (·.payload) = frames.flatMap StackFrame.markedWords) :
    packets.flatMap (·.payloadWords) = frames.flatMap StackFrame.words := by
  have hwords := congrArg (List.map Prod.fst) h
  rw [List.map_flatMap, List.map_flatMap] at hwords
  have hframe : ∀ frame : StackFrame, frame.markedWords.map Prod.fst = frame.words := by
    intro frame
    rw [StackFrame.markedWords, List.map_cons, List.map_map]
    exact congrArg (frame.header :: ·) (List.map_id frame.body)
  rw [funext hframe] at hwords
  exact hwords

/-- With all packets received the decoder ends as it does without Ethernet, transport bookkeeping
apart, and emits the same waveforms. With some dropped it emits a part of them, each from a block
that lies within packets received one after the other. -/
theorem ethernet_refines_direct {d : MvmeStreamDecoder} (hd : d.AtBoundary)
    {frames : List StackFrame} {packets : List DataPacket} {first : Nat}
    (hnumbers : NumberedFrom first packets)
    (hwords : packets.flatMap (·.payload) = frames.flatMap StackFrame.markedWords) :
    (d.consume (packetBytes packets)).withoutTransport =
        (d.consume (frameBytes frames)).withoutTransport ∧
      d.emitted (packetBytes packets) = d.emitted (frameBytes frames) ∧
      ∀ received, Received none packets received →
        ((d.emitted (packetBytes received)).map withoutSequence).Sublist
            ((d.emitted (packetBytes packets)).map withoutSequence) ∧
          ∀ block ∈ d.decodedBlocks (packetBytes received), ∃ run, run <:+: packets ∧
            run <:+: received ∧ block <:+: run.flatMap (·.payloadWords) := by
  have hexpects : Expects d.toFrameAssembly (packets.flatMap (·.payload)) := by
    rw [hwords, hd.assembly]
    exact expects_frames frames
  -- no packet was seen yet, so any number may come first
  have hawaits : d.AwaitsNumber first := by
    intro last hlast
    rw [hd.lastEthernetPacket] at hlast
    cases hlast
  obtain ⟨hstate, hblocks⟩ := foldl_processDataPacket hnumbers hawaits hexpects
  have hall := decodedBlocks_packetBytes hd.pendingBytes packets
  refine ⟨?_, ?_, ?_⟩
  · rw [consume_packetBytes hd.pendingBytes, consume_frameBytes hd.pendingBytes, hstate,
      processStackWords_withoutTransport, payloadWords_eq_words hwords]
  · unfold emitted
    rw [hall, decodedBlocks_frameBytes hd.pendingBytes, hblocks, payloadWords_eq_words hwords]
  · -- after losses: fewer blocks, and none of them mixed
    intro received hreceived
    rw [decodedBlocks_packetBytes hd.pendingBytes received]
    constructor
    · have hsublist := packetBlocks_received hreceived hnumbers
        ⟨hd.lastEthernetPacket, hd.assembly⟩ hexpects
      unfold emitted
      rw [map_withoutSequence_sequenced, map_withoutSequence_sequenced, hall,
        decodedBlocks_packetBytes hd.pendingBytes received, hblocks]
      exact (hsublist.flatMap _).filterMap _
    · intro block hblock
      exact @packetBlocks_unmixed _ _ _ hreceived d [] [] first hnumbers
        ⟨hd.lastEthernetPacket, hd.assembly⟩ block hblock

/-- A frame with one block: module 1, channel 2, a trail of one sample word. -/
def oneTrailFrame : StackFrame where
  header := 0xF3000005
  body := [0xF5000004, 0x40010000, 0x10020000, 0x30000001, 0x30004001]
  header_type := by decide
  header_length := by decide
  body_wellFormed :=
    @FrameBody.block 0xF5000004 [0x40010000, 0x10020000, 0x30000001, 0x30004001] [] rfl rfl .nil

/-- The frame is cut within its block, and the packet numbers wrap. -/
def oneTrailPackets : List DataPacket :=
  [{ header0 := 0x2FFF0003
     header1 := 0
     payload := [(0xF3000005, true), (0xF5000004, false), (0x40010000, false)]
     header0_magic := by decide
     header0_channel := by decide
     header0_length := by decide
     header1_pointer := by decide },
   { header0 := 0x20000003
     header1 := 0x0FFF
     payload := [(0x10020000, false), (0x30000001, false), (0x30004001, false)]
     header0_magic := by decide
     header0_channel := by decide
     header0_length := by decide
     header1_pointer := by decide }]

theorem ethernet_refines_direct_example :
    emitted {} (packetBytes oneTrailPackets) = emitted {} (frameBytes [oneTrailFrame]) ∧
      ((emitted {} (packetBytes oneTrailPackets.tail)).map withoutSequence).Sublist
        ((emitted {} (packetBytes oneTrailPackets)).map withoutSequence) := by
  have h := @ethernet_refines_direct {} ⟨rfl, rfl, rfl⟩ [oneTrailFrame] oneTrailPackets 0xFFF
    ⟨by decide, by decide, trivial⟩ rfl
  refine ⟨h.2.1, (h.2.2 oneTrailPackets.tail (.drop (.receive ?_ .nil))).1⟩
  intro n hn
  cases hn

end MvmeStreamDecoder

end Fidget
