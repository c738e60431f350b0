import Fidget.Core.StreamDecoder.Ethernet
import Std.Data.TreeMap.Lemmas

/-!
# The states that the decoder reaches

What holds of the decoder after any calls, whatever bytes it was given: the words it counts add up to
the blocks it decodes, decoding stays within the block, and the histories hold what they say.

The three invariants are independent of each other and are proved one after the other: where the
open block lies (`OpenIn`), what the histories hold (`Sound`), and in which order (`Ordered`,
`Counted`). Each has a lemma for one word or one item, one for a run of them, and one for a call.

## Main results

- `HistorySound`, `HistoryOrdered`: what a history says of itself, at any time and as long as no
  counter has wrapped.
- `StepsSound`: at every word of a stream the assembly, the counters and the decoded block agree.
- `Reached`: the states after any calls, with the words taken and the numbers issued so far.
- `stepsSound_wordSteps`, `openIn_consume`: what one call preserves.
- `Reached.openIn`, `Reached.sound`, `Reached.ordered`: what therefore holds after all calls.
- `reachable_iff`: nothing is left out.
-/

namespace Fidget

open FrameStream

/-! ### The order of the channels -/

/-- Channels are ordered by module, then by channel. -/
theorem compare_mdppChannelAddress : (compare : MdppChannelAddress → MdppChannelAddress → Ordering) =
    compareLex (compareOn (·.moduleId)) (compareOn (·.channel)) := by
  funext left right
  show instOrdMdppChannelAddress.ord left right = _
  unfold instOrdMdppChannelAddress.ord
  split
  show Ordering.then _ (Ordering.then _ _) = _
  rw [Ordering.then_eq]
  rfl

instance : Std.TransOrd MdppChannelAddress := by
  show Std.TransCmp compare
  rw [compare_mdppChannelAddress]
  infer_instance

instance : Std.LawfulEqOrd MdppChannelAddress where
  eq_of_compare := by
    intro left right h
    rw [compare_mdppChannelAddress] at h
    obtain ⟨hmodule, hchannel⟩ := Ordering.then_eq_eq.mp h
    cases left
    cases right
    congr
    · exact Std.LawfulEqOrd.eq_of_compare hmodule
    · exact Std.LawfulEqOrd.eq_of_compare hchannel

namespace FrameAssembly

/-! ### The words of a block

The header of a block announces how many words follow it. While the block is open, the words taken
so far are a suffix of the words of the stack frame, beginning with that header. -/

/-- The words end in a block, right behind the header that announces its length. -/
def Announced (context block : List UInt32) : Prop :=
  ∃ before header, context = before ++ header :: block ∧ frameType header = mvlcBlockReadFrame ∧
    (header &&& frameLengthMask).toNat = block.length

/-- The open block lies within the stack frame and is a part of what its header announces. -/
structure OpenIn (context : List UInt32) (a : FrameAssembly) : Prop where
  block_le : a.blockWordsRemaining ≤ a.stackWordsRemaining
  announced : a.blockWordsRemaining > 0 → ∃ before header, context = before ++ header :: a.blockData ∧
    frameType header = mvlcBlockReadFrame ∧
    (header &&& frameLengthMask).toNat = a.blockData.length + a.blockWordsRemaining

/-- An empty assembly has no frame open. -/
theorem openIn_empty (context : List UInt32) : OpenIn context {} :=
  ⟨Nat.le_refl 0, fun h => absurd h (Nat.lt_irrefl 0)⟩

/-- The open frame began so many words ago as have been taken of it. -/
theorem OpenIn.step {a : FrameAssembly} {context : List UInt32} (h : OpenIn context a)
    (word : UInt32) : OpenIn (context ++ [word]) (a.step word) := by
  have hle := h.block_le
  unfold FrameAssembly.step
  split
  -- a word of the open block
  next hblock =>
    rw [if_neg (by omega)]
    refine ⟨?_, fun hmore => ?_⟩
    · show a.blockWordsRemaining - 1 ≤ a.stackWordsRemaining - 1
      omega
    · have hmore' : a.blockWordsRemaining - 1 > 0 := hmore
      obtain ⟨before, header, hcontext, htype, hlength⟩ := h.announced hblock
      refine ⟨before, header, ?_, htype, ?_⟩
      · show _ = before ++ header :: (if a.blockWordsRemaining = 1 then [] else a.blockData ++ [word])
        rw [if_neg (by omega), hcontext, List.append_assoc]
        rfl
      · show _ = (if a.blockWordsRemaining = 1 then [] else a.blockData ++ [word]).length +
          (a.blockWordsRemaining - 1)
        rw [if_neg (by omega), List.length_append, List.length_singleton, hlength]
        omega
  next hblock =>
    split
    · split
      -- the header of a block, which must fit into what is left of the frame
      next htype =>
        dsimp only
        split
        · exact openIn_empty _
        next hfits =>
          refine ⟨?_, fun _ => ⟨context, word, rfl, htype, ?_⟩⟩
          · exact Nat.not_lt.mp hfits
          · exact (Nat.zero_add _).symm
      · -- another word of the frame
        refine ⟨?_, fun hmore => absurd hmore hblock⟩
        show a.blockWordsRemaining ≤ a.stackWordsRemaining - 1
        omega
    · split
      · -- the header of a frame
        refine ⟨?_, fun hmore => absurd hmore hblock⟩
        show a.blockWordsRemaining ≤ (word &&& frameLengthMask).toNat
        omega
      · exact ⟨hle, fun hmore => absurd hmore hblock⟩

/-- The same after any words. -/
theorem OpenIn.run {a : FrameAssembly} {context : List UInt32} (h : OpenIn context a)
    (words : List UInt32) : OpenIn (context ++ words) (a.run words) := by
  induction words generalizing a context with
  | nil => rwa [List.append_nil]
  | cons word words ih =>
      have hrest := ih (h.step word)
      rwa [List.append_assoc] at hrest

/-- A block is as long as its header announces when its last word arrives. -/
theorem OpenIn.completedBlock {a : FrameAssembly} {context : List UInt32} (h : OpenIn context a)
    {word : UInt32} {block : List UInt32} (hblock : block ∈ a.completedBlock word) :
    Announced (context ++ [word]) block := by
  unfold FrameAssembly.completedBlock at hblock
  split at hblock
  next hlast =>
    rw [List.mem_singleton.mp hblock]
    obtain ⟨before, header, hcontext, htype, hlength⟩ := h.announced (by omega)
    refine ⟨before, header, ?_, htype, ?_⟩
    · rw [hcontext, List.append_assoc]
      rfl
    · rw [List.length_append, List.length_singleton, hlength, hlast.1]
  · cases hblock

end FrameAssembly

namespace MvmeStreamDecoder

/-! ### Decoding stays within the block

The source indexes the block without a check of the bounds. Here the same walk is written with every
access checked, and shown to give the same items. -/

section Checked

variable (blockData : List UInt32)

/-- The loop over the samples of a trail, each word read at its place in the block: none if there is
no such place, `some none` if the samples are broken off. -/
def checkedSamples : (place count : Nat) → Option (Option (List Int16))
  | _, 0 => some (some [])
  | place, count + 1 =>
    blockData[place]? >>= fun packedSamples =>
      if packedSamples >>> 28 ≠ 0x3 then some none
      else
        let samplePayload := packedSamples &&& 0x0FFFFFFF
        (checkedSamples (place + 1) count).map fun samples => samples.map fun samples =>
          [decodeSigned14 (samplePayload &&& 0x3FFF),
            decodeSigned14 ((samplePayload >>> 14) &&& 0x3FFF)] ++ samples

/-- The walk of `DecodeBlockFrame` over the places of the block: none if it leaves the block. -/
def checkedTrailItems (moduleId : UInt8) (timestamp : UInt64) (index : Nat) (currentChannel : Int) :
    Option (List BlockItem) :=
  if index < blockData.length then
    blockData[index]? >>= fun word =>
      if word >>> 28 = 0x1 then
        checkedTrailItems moduleId timestamp (index + 1)
          (if (word >>> 21) &&& 0x3 ≤ 1 then ((word >>> 16) &&& 0x1F).toNat else currentChannel)
      else if word >>> 28 ≠ 0x3 ∨ currentChannel < 0 then
        checkedTrailItems moduleId timestamp (index + 1) currentChannel
      else
        let sampleWords := (word &&& 0x03FF).toNat
        if sampleWords = 0 ∨ index + sampleWords ≥ blockData.length then
          (checkedTrailItems moduleId timestamp (index + 1) currentChannel).map
            (.malformedTrail :: ·)
        else
          let config := ((word >>> 19) &&& 0xFF).toUInt8
          checkedSamples blockData (index + 1) sampleWords >>= fun samples =>
            let item : BlockItem :=
              match samples with
              | none => .invalidSamples
              | some samples => .waveform
                { moduleId
                  channel := currentChannel
                  sampleSource := config &&& 0x3
                  noOffsetCorrection := config &&& 0x80 != 0
                  noResampling := config &&& 0x40 != 0
                  phase := ((word >>> 10) &&& 0x01FF).toUInt16
                  timestamp
                  samples }
            (checkedTrailItems moduleId timestamp (index + sampleWords + 1) currentChannel).map
              (item :: ·)
  else some []
termination_by blockData.length - index

end Checked

/-- Within the block, the samples that are looked at are the next `count` words. -/
theorem checkedSamples_eq {blockData : List UInt32} {place count : Nat}
    (h : place + count ≤ blockData.length) :
    checkedSamples blockData place count = some (
      if ((blockData.drop place).take count).all (fun packedSamples => packedSamples >>> 28 == 0x3)
      then some (((blockData.drop place).take count).flatMap fun packedSamples =>
        let samplePayload := packedSamples &&& 0x0FFFFFFF
        [decodeSigned14 (samplePayload &&& 0x3FFF),
          decodeSigned14 ((samplePayload >>> 14) &&& 0x3FFF)])
      else none) := by
  induction count generalizing place with
  | zero => simp [checkedSamples]
  | succ count ih =>
      have hplace : place < blockData.length := by omega
      rw [checkedSamples, List.getElem?_eq_getElem hplace, ih (by omega),
        List.drop_eq_getElem_cons hplace, List.take_succ_cons, List.all_cons, List.flatMap_cons]
      by_cases hvalid : blockData[place] >>> 28 = 0x3
      · simp only [Option.bind_eq_bind, Option.bind_some, hvalid, ne_eq, not_true_eq_false, if_false,
          BEq.rfl, Bool.true_and, Option.map_some]
        split <;> rfl
      · simp [hvalid]

/-- No place outside the block is read, and the items are those of the words in a row. -/
theorem checkedTrailItems_eq (blockData : List UInt32) (moduleId : UInt8) (timestamp : UInt64)
    (index : Nat) (currentChannel : Int) :
    checkedTrailItems blockData moduleId timestamp index currentChannel =
      some (trailItems moduleId timestamp currentChannel (blockData.drop index)) := by
  induction hleft : blockData.length - index using Nat.strongRecOn
    generalizing index currentChannel with
  | _ left ih =>
      rw [checkedTrailItems]
      by_cases hindex : index < blockData.length
      · rw [if_pos hindex, List.getElem?_eq_getElem hindex, List.drop_eq_getElem_cons hindex,
          trailItems]
        generalize blockData[index] = word
        show (if word >>> 28 = 0x1 then _ else _) = _
        -- behind this word there are fewer words left, whatever it is
        have hnext : ∀ count channel, checkedTrailItems blockData moduleId timestamp
            (index + count + 1) channel = some (trailItems moduleId timestamp channel
              (blockData.drop (index + count + 1))) := fun count channel =>
          ih (blockData.length - (index + count + 1)) (by omega) _ _ rfl
        have hrest := hnext 0
        rw [Nat.add_zero] at hrest
        -- the word selects a channel
        by_cases hchannel : word >>> 28 = 0x1
        · rw [if_pos hchannel, if_pos hchannel, hrest]
          split <;> rfl
        rw [if_neg hchannel, if_neg hchannel]
        -- a word that begins no trail
        by_cases hother : word >>> 28 ≠ 0x3 ∨ currentChannel < 0
        · rw [if_pos hother, if_pos hother, hrest]
        rw [if_neg hother, if_neg hother]
        dsimp only
        have hlength : (blockData.drop (index + 1)).length = blockData.length - (index + 1) :=
          List.length_drop
        -- a trail that does not fit into the block
        by_cases hshort : (word &&& 0x03FF).toNat = 0 ∨
            index + (word &&& 0x03FF).toNat ≥ blockData.length
        · rw [if_pos hshort, if_pos (by rw [hlength]; omega), hrest]
          rfl
        · -- a trail whose samples are all in the block
          rw [if_neg hshort, if_neg (by rw [hlength]; omega), checkedSamples_eq (by omega),
            hnext, List.drop_drop, Nat.add_right_comm]
          unfold trailItem
          dsimp only
          split <;> rfl
      · rw [if_neg hindex, List.drop_of_length_le (by omega), trailItems]

/-- `DecodeBlockFrame` with every place checked that it reads. -/
def checkedBlockItems (blockData : List UInt32) : Option (List BlockItem) :=
  if blockData.length < 3 then some []
  else
    blockData[0]? >>= fun moduleHeader : UInt32 =>
      if moduleHeader >>> 28 ≠ 0x4 then some []
      else
        checkedTrailItems blockData ((moduleHeader >>> 16) &&& 0xFF).toUInt8
          (blockTimestamp blockData) 1 (-1)

/-- Decoding never reads past the block. -/
theorem checkedBlockItems_eq (blockData : List UInt32) :
    checkedBlockItems blockData = some (blockItems blockData) := by
  cases blockData with
  | nil => rfl
  | cons moduleHeader rest =>
      unfold checkedBlockItems blockItems
      show (if _ then some [] else (if moduleHeader >>> 28 ≠ 0x4 then some [] else _)) =
        some (if _ ∨ moduleHeader >>> 28 ≠ 0x4 then [] else _)
      by_cases hshort : (moduleHeader :: rest).length < 3
      · rw [if_pos hshort, if_pos (Or.inl hshort)]
      · rw [if_neg hshort]
        by_cases hheader : moduleHeader >>> 28 ≠ 0x4
        · rw [if_pos hheader, if_pos (Or.inr hheader)]
        · rw [if_neg hheader, if_neg (by tauto), checkedTrailItems_eq]
          rfl

/-! ### What the histories hold

A waveform is appended to the history of its channel. If it was sampled differently, the history
begins again with it; if the history is full, the oldest one is dropped. In both cases what is kept
is a suffix of what was there. -/

/-- A history is bounded, and its waveforms are of its channel and of one configuration. -/
structure HistorySound (address : MdppChannelAddress) (history : ChannelHistory) : Prop where
  length_le : history.waveforms.length ≤ mdppWaveformHistoryCapacity
  address_eq : ∀ w ∈ history.waveforms, (⟨w.moduleId, w.channel⟩ : MdppChannelAddress) = address
  configuration : ∀ w ∈ history.waveforms, ∀ w' ∈ history.waveforms,
    hasSameSampleConfiguration w w' = true

/-- The histories keep to their rules, and the latest channel is one that holds waveforms. -/
structure WaveformRecord.Sound (record : WaveformRecord) : Prop where
  histories : ∀ address history, record.historiesByChannel[address]? = some history →
    HistorySound address history
  latest : ∀ address, record.latestChannel = some address →
    ∃ history, record.historiesByChannel[address]? = some history ∧ history.waveforms ≠ []

/-- A history begins empty. -/
theorem historySound_empty (address : MdppChannelAddress) : HistorySound address {} where
  length_le := Nat.zero_le _
  address_eq w hw := by cases hw
  configuration w hw := by cases hw

/-- Four fields are compared. -/
theorem hasSameSampleConfiguration_iff (left right : MdppWaveform) :
    hasSameSampleConfiguration left right = true ↔
      (left.sampleSource, left.noOffsetCorrection, left.noResampling, left.samples.length) =
        (right.sampleSource, right.noOffsetCorrection, right.noResampling,
          right.samples.length) := by
  simp [hasSameSampleConfiguration, and_assoc]

/-- The waveforms that a waveform may join: none if it is of another configuration. -/
def joinedWaveforms (waveforms : List MdppWaveform) (waveform : MdppWaveform) :
    List MdppWaveform :=
  match waveforms.getLast? with
  | some last => if hasSameSampleConfiguration last waveform then waveforms else []
  | none => []

/-- The waveforms of a history that are kept when another one arrives. -/
def keptWaveforms (waveforms : List MdppWaveform) (waveform : MdppWaveform) : List MdppWaveform :=
  if (joinedWaveforms waveforms waveform).length = mdppWaveformHistoryCapacity then
    (joinedWaveforms waveforms waveform).tail
  else joinedWaveforms waveforms waveform

/-- The history of its channel once a waveform is recorded. -/
def recordedHistory (history : ChannelHistory) (waveform : MdppWaveform) : ChannelHistory where
  totalCaptured := history.totalCaptured + 1
  waveforms := keptWaveforms history.waveforms waveform ++ [waveform]

/-- A waveform changes the history of its own channel only. -/
theorem getElem?_recordInHistories (histories : Std.TreeMap MdppChannelAddress ChannelHistory)
    (waveform : MdppWaveform) (address : MdppChannelAddress) :
    (recordInHistories histories waveform)[address]? =
      if (⟨waveform.moduleId, waveform.channel⟩ : MdppChannelAddress) = address then
        some (recordedHistory (histories.getD address {}) waveform)
      else histories[address]? := by
  show (histories.insert _ (recordedHistory (histories.getD _ {}) waveform))[address]? = _
  rw [Std.TreeMap.getElem?_insert]
  by_cases haddress : (⟨waveform.moduleId, waveform.channel⟩ : MdppChannelAddress) = address
  · rw [haddress, if_pos rfl, if_pos Std.ReflOrd.compare_self]
  · rw [if_neg haddress, if_neg fun hsame => haddress (Std.LawfulEqOrd.eq_of_compare hsame)]

/-- A waveform that was sampled differently begins the history again. -/
theorem joinedWaveforms_eq_or (waveforms : List MdppWaveform) (waveform : MdppWaveform) :
    joinedWaveforms waveforms waveform = waveforms ∨ joinedWaveforms waveforms waveform = [] := by
  unfold joinedWaveforms
  split
  · split
    · exact .inl rfl
    · exact .inr rfl
  · exact .inr rfl

/-- What is dropped is dropped at the old end. -/
theorem keptWaveforms_suffix_joined (waveforms : List MdppWaveform) (waveform : MdppWaveform) :
    keptWaveforms waveforms waveform <:+ joinedWaveforms waveforms waveform := by
  unfold keptWaveforms
  split
  · exact List.tail_suffix _
  · exact List.suffix_refl _

/-- The kept waveforms are the last ones of the history, or none. -/
theorem keptWaveforms_suffix (waveforms : List MdppWaveform) (waveform : MdppWaveform) :
    keptWaveforms waveforms waveform <:+ waveforms := by
  apply (keptWaveforms_suffix_joined waveforms waveform).trans
  rcases joinedWaveforms_eq_or waveforms waveform with hall | hnone
  · rw [hall]
  · rw [hnone]
    exact List.nil_suffix

/-- What is kept has the configuration of the new waveform, if the history had but one. -/
theorem configuration_keptWaveforms {waveforms : List MdppWaveform} {waveform w : MdppWaveform}
    (hone : ∀ w ∈ waveforms, ∀ w' ∈ waveforms, hasSameSampleConfiguration w w' = true)
    (hw : w ∈ keptWaveforms waveforms waveform) : hasSameSampleConfiguration w waveform = true := by
  have hmem := (keptWaveforms_suffix waveforms waveform).subset hw
  have hjoined := (keptWaveforms_suffix_joined waveforms waveform).subset hw
  unfold joinedWaveforms at hjoined
  cases hlast : waveforms.getLast? with
  | none =>
      rw [List.getLast?_eq_none_iff.mp hlast] at hmem
      cases hmem
  | some last =>
      rw [hlast] at hjoined
      dsimp only at hjoined
      by_cases hsame : hasSameSampleConfiguration last waveform = true
      · have hfirst := hone w hmem last (List.mem_of_getLast? hlast)
        rw [hasSameSampleConfiguration_iff] at hfirst hsame ⊢
        exact hfirst.trans hsame
      · rw [if_neg hsame] at hjoined
        cases hjoined

/-- There is room for the new waveform. -/
theorem length_keptWaveforms {waveforms : List MdppWaveform} (waveform : MdppWaveform)
    (h : waveforms.length ≤ mdppWaveformHistoryCapacity) :
    (keptWaveforms waveforms waveform).length < mdppWaveformHistoryCapacity := by
  unfold keptWaveforms
  split
  next hfull =>
    rw [List.length_tail, hfull]
    decide
  next hfull =>
    apply Nat.lt_of_le_of_ne _ hfull
    rcases joinedWaveforms_eq_or waveforms waveform with hall | hnone
    · rwa [hall]
    · rw [hnone]
      exact Nat.zero_le _

/-- A waveform of the channel keeps its history sound. -/
theorem HistorySound.record {address : MdppChannelAddress} {history : ChannelHistory}
    (h : HistorySound address history) {waveform : MdppWaveform}
    (haddress : (⟨waveform.moduleId, waveform.channel⟩ : MdppChannelAddress) = address) :
    HistorySound address (recordedHistory history waveform) where
  length_le := by
    show (keptWaveforms history.waveforms waveform ++ [waveform]).length ≤ _
    rw [List.length_append]
    exact length_keptWaveforms waveform h.length_le
  address_eq w hw := by
    rcases List.mem_append.mp hw with hold | hnew
    · exact h.address_eq w ((keptWaveforms_suffix _ _).subset hold)
    · rw [List.mem_singleton.mp hnew]
      exact haddress
  configuration := by
    have hnew : ∀ w ∈ keptWaveforms history.waveforms waveform ++ [waveform],
        hasSameSampleConfiguration w waveform = true := by
      intro w hw
      rcases List.mem_append.mp hw with hold | hnew
      · exact configuration_keptWaveforms h.configuration hold
      · rw [List.mem_singleton.mp hnew, hasSameSampleConfiguration_iff]
    intro w hw w' hw'
    have hfirst := hnew w hw
    have hsecond := hnew w' hw'
    rw [hasSameSampleConfiguration_iff] at hfirst hsecond ⊢
    exact hfirst.trans hsecond.symm

/-- The history of a channel, the empty one where there is none, is sound in a sound record. -/
theorem WaveformRecord.Sound.getD {record : WaveformRecord} (h : record.Sound)
    (address : MdppChannelAddress) :
    HistorySound address (record.historiesByChannel.getD address {}) := by
  rw [Std.TreeMap.getD_eq_getD_getElem?]
  cases hfound : record.historiesByChannel[address]? with
  | none => exact historySound_empty address
  | some history => exact h.histories address history hfound

/-- So every item keeps the record sound. -/
theorem WaveformRecord.Sound.note {record : WaveformRecord} (h : record.Sound) (item : BlockItem) :
    (record.note item).Sound := by
  cases item with
  | malformedTrail => exact h
  | invalidSamples => exact ⟨h.histories, h.latest⟩
  | waveform waveform =>
      constructor
      · intro address history hfound
        have hrecorded := (getElem?_recordInHistories _ _ _).symm.trans hfound
        split at hrecorded
        next haddress =>
          rw [← Option.some.inj hrecorded]
          exact (h.getD address).record haddress
        · exact h.histories address history hrecorded
      · intro address hlatest
        have haddress := Option.some.inj hlatest
        refine ⟨_, (getElem?_recordInHistories _ _ _).trans (if_pos haddress), ?_⟩
        exact List.append_ne_nil_of_right_ne_nil _ (List.cons_ne_nil _ _)

/-! ### The order of the waveforms

The sequence numbers are given out by a counter of 64 bits, so the order holds as long as fewer have
been given than the counter can count. -/

/-- The waveforms of a history are numbered in order, below `next`, and counted. -/
structure HistoryOrdered (next : UInt64) (history : ChannelHistory) : Prop where
  increasing : history.waveforms.Pairwise (·.sequence < ·.sequence)
  below : ∀ w ∈ history.waveforms, w.sequence < next
  held : history.waveforms.length ≤ history.totalCaptured.toNat

/-- Every history is in order, and the last waveform of the latest channel is the last of all. -/
structure WaveformRecord.Ordered (record : WaveformRecord) : Prop where
  histories : ∀ (address : MdppChannelAddress) (history : ChannelHistory),
    record.historiesByChannel[address]? = some history →
      HistoryOrdered record.nextWaveformSequence history
  latest : ∀ address, record.latestChannel = some address →
    ∃ history last, record.historiesByChannel[address]? = some history ∧
      history.waveforms.getLast? = some last ∧
      ∀ (address' : MdppChannelAddress) (history' : ChannelHistory),
        record.historiesByChannel[address']? = some history' →
          ∀ w ∈ history'.waveforms, w.sequence ≤ last.sequence

/-- The sequence numbers that have been given are counted, and no channel captured more. -/
structure WaveformRecord.Counted (record : WaveformRecord) (issued : Nat) : Prop where
  next : record.nextWaveformSequence.toNat = issued + 1
  captured : ∀ (address : MdppChannelAddress) (history : ChannelHistory),
    record.historiesByChannel[address]? = some history → history.totalCaptured.toNat ≤ issued

/-- How many sequence numbers the items take. -/
def sequencesTaken (items : List BlockItem) : Nat := items.countP (· ≠ .malformedTrail)

/-- In an empty history nothing is out of order. -/
theorem historyOrdered_empty (next : UInt64) : HistoryOrdered next {} where
  increasing := List.Pairwise.nil
  below w hw := by cases hw
  held := Nat.zero_le _

/-- Numbers that have been issued stay below the next one. -/
theorem HistoryOrdered.mono {next next' : UInt64} {history : ChannelHistory}
    (h : HistoryOrdered next history) (hnext : next < next') : HistoryOrdered next' history where
  increasing := h.increasing
  below w hw := UInt64.lt_trans (h.below w hw) hnext
  held := h.held

/-- A waveform with the next number comes last. -/
theorem HistoryOrdered.record {next next' : UInt64} {history : ChannelHistory}
    (h : HistoryOrdered next history) (hnext : next < next') {waveform : MdppWaveform}
    (hsequence : waveform.sequence = next)
    (htotal : (history.totalCaptured + 1).toNat = history.totalCaptured.toNat + 1) :
    HistoryOrdered next' (recordedHistory history waveform) := by
  have hkept := keptWaveforms_suffix history.waveforms waveform
  have hbelow : ∀ w ∈ keptWaveforms history.waveforms waveform, w.sequence < next :=
    fun w hw => h.below w (hkept.subset hw)
  constructor
  · apply List.pairwise_append.mpr
    refine ⟨h.increasing.sublist hkept.sublist, List.pairwise_singleton _ _, ?_⟩
    intro w hw w' hw'
    rw [List.mem_singleton.mp hw', hsequence]
    exact hbelow w hw
  · intro w hw
    rcases List.mem_append.mp hw with hold | hnew
    · exact UInt64.lt_trans (hbelow w hold) hnext
    · rw [List.mem_singleton.mp hnew, hsequence]
      exact hnext
  · show (keptWaveforms history.waveforms waveform ++ [waveform]).length ≤
      (history.totalCaptured + 1).toNat
    rw [htotal, List.length_append, List.length_singleton]
    exact Nat.succ_le_succ (hkept.length_le.trans h.held)

section Note

variable {record : WaveformRecord} {issued : Nat}

/-- A counter that is far from its end does not wrap. -/
theorem toNat_add_one {value : UInt64} {n : Nat} (h : value.toNat ≤ n) (hn : n + 1 < 2 ^ 64) :
    (value + 1).toNat = value.toNat + 1 := by
  rw [UInt64.toNat_add, UInt64.toNat_one]
  exact Nat.mod_eq_of_lt (by omega)

theorem WaveformRecord.Counted.next_lt (h : record.Counted issued) (hissued : issued + 2 < 2 ^ 64) :
    record.nextWaveformSequence < record.nextWaveformSequence + 1 := by
  have hnext := toNat_add_one (Nat.le_of_eq h.next) (by omega)
  rw [UInt64.lt_iff_toNat_lt, hnext]
  exact Nat.lt_succ_self _

theorem WaveformRecord.Counted.getD (h : record.Counted issued) (address : MdppChannelAddress) :
    (record.historiesByChannel.getD address {}).totalCaptured.toNat ≤ issued := by
  rw [Std.TreeMap.getD_eq_getD_getElem?]
  cases hfound : record.historiesByChannel[address]? with
  | none => exact Nat.zero_le issued
  | some history => exact h.captured address history hfound

theorem WaveformRecord.Ordered.getD (h : record.Ordered) (address : MdppChannelAddress) :
    HistoryOrdered record.nextWaveformSequence (record.historiesByChannel.getD address {}) := by
  rw [Std.TreeMap.getD_eq_getD_getElem?]
  cases hfound : record.historiesByChannel[address]? with
  | none => exact historyOrdered_empty _
  | some history => exact h.histories address history hfound

/-- An item issues at most one number. -/
theorem WaveformRecord.Counted.note (h : record.Counted issued) (item : BlockItem)
    (hissued : issued + sequencesTaken [item] + 1 < 2 ^ 64) :
    (record.note item).Counted (issued + sequencesTaken [item]) := by
  cases item with
  | malformedTrail => exact h
  | invalidSamples =>
      have hone : issued + 2 < 2 ^ 64 := hissued
      constructor
      · show (record.nextWaveformSequence + 1).toNat = issued + 1 + 1
        rw [toNat_add_one (Nat.le_of_eq h.next) hone, h.next]
      · intro address history hfound
        exact Nat.le_succ_of_le (h.captured address history hfound)
  | waveform waveform =>
      have hone : issued + 2 < 2 ^ 64 := hissued
      constructor
      · show (record.nextWaveformSequence + 1).toNat = issued + 1 + 1
        rw [toNat_add_one (Nat.le_of_eq h.next) hone, h.next]
      · intro address history hfound
        show history.totalCaptured.toNat ≤ issued + 1
        have hrecorded := (getElem?_recordInHistories _ _ _).symm.trans hfound
        split at hrecorded
        · rw [← Option.some.inj hrecorded]
          have hcaptured := h.getD address
          show (_ + 1 : UInt64).toNat ≤ _
          rw [toNat_add_one hcaptured (by omega)]
          exact Nat.succ_le_succ hcaptured
        · exact Nat.le_succ_of_le (h.captured address history hrecorded)

/-- In that case the histories stay in order. -/
theorem WaveformRecord.Ordered.note (h : record.Ordered) (hcounted : record.Counted issued)
    (item : BlockItem) (hissued : issued + sequencesTaken [item] + 1 < 2 ^ 64) :
    (record.note item).Ordered := by
  cases item with
  | malformedTrail => exact h
  | invalidSamples =>
      have hnext := hcounted.next_lt hissued
      exact ⟨fun address history hfound => (h.histories address history hfound).mono hnext, h.latest⟩
  | waveform waveform =>
      have hone : issued + 2 < 2 ^ 64 := hissued
      have hnext := hcounted.next_lt hone
      constructor
      · intro address history hfound
        have hrecorded := (getElem?_recordInHistories _ _ _).symm.trans hfound
        split at hrecorded
        · rw [← Option.some.inj hrecorded]
          apply (h.getD address).record hnext
          · rfl
          · exact toNat_add_one (hcounted.getD address) (by omega)
        · exact (h.histories address history hrecorded).mono hnext
      · intro address hlatest
        have haddress := Option.some.inj hlatest
        -- Every waveform held before was numbered below the new one.
        have hbelow : ∀ history, HistoryOrdered record.nextWaveformSequence history →
            ∀ w ∈ history.waveforms, w.sequence ≤ record.nextWaveformSequence :=
          fun history hordered w hw => UInt64.le_of_lt (hordered.below w hw)
        refine ⟨_, _, (getElem?_recordInHistories _ _ _).trans (if_pos haddress),
          List.getLast?_concat, ?_⟩
        intro address' history hfound w hw
        have hrecorded := (getElem?_recordInHistories _ _ _).symm.trans hfound
        split at hrecorded
        · rw [← Option.some.inj hrecorded] at hw
          rcases List.mem_append.mp hw with hold | hnew
          · exact hbelow _ (h.getD address') w ((keptWaveforms_suffix _ _).subset hold)
          · rw [List.mem_singleton.mp hnew]
            exact UInt64.le_refl _
        · exact hbelow history (h.histories address' history hrecorded) w hw

end Note

/-- The items of a block, one by one. -/
theorem WaveformRecord.Sound.notes {record : WaveformRecord} (h : record.Sound)
    (items : List BlockItem) : (items.foldl WaveformRecord.note record).Sound := by
  induction items generalizing record with
  | nil => exact h
  | cons item items ih => exact ih (h.note item)

/-- The numbers that the items take add up. -/
theorem sequencesTaken_cons (item : BlockItem) (items : List BlockItem) :
    sequencesTaken (item :: items) = sequencesTaken [item] + sequencesTaken items := by
  show ([item] ++ items).countP _ = _
  rw [List.countP_append]
  rfl

/-- As long as the sequence numbers last, a run of items leaves the histories in order. -/
theorem WaveformRecord.Ordered.notes {record : WaveformRecord} {issued : Nat} (h : record.Ordered)
    (hcounted : record.Counted issued) (items : List BlockItem)
    (hissued : issued + sequencesTaken items + 1 < 2 ^ 64) :
    (items.foldl WaveformRecord.note record).Ordered ∧
      (items.foldl WaveformRecord.note record).Counted (issued + sequencesTaken items) := by
  induction items generalizing record issued with
  | nil => exact ⟨h, hcounted⟩
  | cons item items ih =>
      rw [sequencesTaken_cons] at hissued ⊢
      rw [← Nat.add_assoc] at hissued ⊢
      have hitem : issued + sequencesTaken [item] + 1 < 2 ^ 64 := by omega
      exact ih (h.note hcounted item hitem) (hcounted.note item hitem) hissued

section Clear

variable {d : MvmeStreamDecoder} (selectedQuad : UInt16)

/-- Clearing a quad empties its histories, and the latest channel is no longer one of them. -/
theorem clearWaveformHistoriesForQuad_cases {address : MdppChannelAddress}
    {history : ChannelHistory}
    (h : (d.clearWaveformHistoriesForQuad selectedQuad).historiesByChannel[address]? =
      some history) :
    history = {} ∨ d.historiesByChannel[address]? = some history := by
  simp only [clearWaveformHistoriesForQuad, Std.TreeMap.getElem?_map] at h
  obtain ⟨before, hbefore, hhistory⟩ := Option.map_eq_some_iff.mp h
  split at hhistory
  · exact .inl hhistory.symm
  · rw [← hhistory]
    exact .inr hbefore

/-- Clearing a quad forgets its own channels only. -/
theorem latestChannel_clearWaveformHistoriesForQuad {address : MdppChannelAddress}
    (h : (d.clearWaveformHistoriesForQuad selectedQuad).latestChannel = some address) :
    d.latestChannel = some address ∧
      (d.clearWaveformHistoriesForQuad selectedQuad).historiesByChannel[address]? =
        d.historiesByChannel[address]? := by
  obtain ⟨hlatest, houtside⟩ := Option.filter_eq_some_iff.mp h
  refine ⟨hlatest, ?_⟩
  simp only [clearWaveformHistoriesForQuad, Std.TreeMap.getElem?_map]
  rw [Bool.not_eq_true'] at houtside
  simp only [houtside]
  exact Option.map_id_apply

/-- A cleared history is an empty one, and the others stay. -/
theorem WaveformRecord.Sound.clear (h : d.waveformRecord.Sound) :
    (d.clearWaveformHistoriesForQuad selectedQuad).waveformRecord.Sound where
  histories address history hfound := by
    rcases clearWaveformHistoriesForQuad_cases selectedQuad hfound with hcleared | hkept
    · rw [hcleared]
      exact historySound_empty address
    · exact h.histories address history hkept
  latest address hlatest := by
    obtain ⟨hbefore, hsame⟩ := latestChannel_clearWaveformHistoriesForQuad selectedQuad hlatest
    obtain ⟨history, hfound, hheld⟩ := h.latest address hbefore
    exact ⟨history, hsame.trans hfound, hheld⟩

/-- Clearing a quad issues no number. -/
theorem WaveformRecord.Ordered.clear (h : d.waveformRecord.Ordered) :
    (d.clearWaveformHistoriesForQuad selectedQuad).waveformRecord.Ordered where
  histories address history hfound := by
    rcases clearWaveformHistoriesForQuad_cases selectedQuad hfound with hcleared | hkept
    · rw [hcleared]
      exact historyOrdered_empty _
    · exact h.histories address history hkept
  latest address hlatest := by
    obtain ⟨hbefore, hsame⟩ := latestChannel_clearWaveformHistoriesForQuad selectedQuad hlatest
    obtain ⟨history, last, hfound, hlast, hgreatest⟩ := h.latest address hbefore
    refine ⟨history, last, hsame.trans hfound, hlast, ?_⟩
    intro address' history' hfound' w hw
    rcases clearWaveformHistoriesForQuad_cases selectedQuad hfound' with hcleared | hkept
    · rw [hcleared] at hw
      cases hw
    · exact hgreatest address' history' hkept w hw

theorem WaveformRecord.Counted.clear {issued : Nat} (h : d.waveformRecord.Counted issued) :
    (d.clearWaveformHistoriesForQuad selectedQuad).waveformRecord.Counted issued where
  next := h.next
  captured address history hfound := by
    rcases clearWaveformHistoriesForQuad_cases selectedQuad hfound with hcleared | hkept
    · rw [hcleared]
      exact Nat.zero_le _
    · exact h.captured address history hkept

end Clear

theorem sound_initial : ({} : MvmeStreamDecoder).waveformRecord.Sound where
  histories address history hfound := by
    cases Std.TreeMap.getElem?_emptyc.symm.trans hfound
  latest address hlatest := by cases hlatest

theorem ordered_initial : ({} : MvmeStreamDecoder).waveformRecord.Ordered where
  histories address history hfound := by
    cases Std.TreeMap.getElem?_emptyc.symm.trans hfound
  latest address hlatest := by cases hlatest

theorem counted_initial : ({} : MvmeStreamDecoder).waveformRecord.Counted 0 where
  next := rfl
  captured address history hfound := by
    cases Std.TreeMap.getElem?_emptyc.symm.trans hfound

/-! ### The words that are processed

A call of `Consume` processes a number of stack words, one after the other. They are listed here
with the decoder that each of them finds, so that something can be said of every one of them. -/

/-- The calls of `ProcessStackWord` for a run of words. -/
def wordSteps : MvmeStreamDecoder → List UInt32 → List (MvmeStreamDecoder × UInt32)
  | _, [] => []
  | d, word :: words => (d, word) :: (d.processStackWord word).wordSteps words

/-- The calls of `ProcessStackWord` for a list of frames and packets. -/
def unitSteps : MvmeStreamDecoder → List (StreamUnit × List UInt8) →
    List (MvmeStreamDecoder × UInt32)
  | _, [] => []
  | d, (kind, bytes) :: units =>
    let (entered, words) := d.enterStreamUnit kind bytes
    entered.wordSteps words ++ (d.processStreamUnit kind bytes).unitSteps units

/-- The calls of `ProcessStackWord` while `data` is consumed. -/
def consumeSteps (d : MvmeStreamDecoder) (data : List UInt8) : List (MvmeStreamDecoder × UInt32) :=
  if data = [] then []
  else unitSteps { d with pendingBytes := [] } (frames streamFraming (d.pendingBytes ++ data))

/-- A call of `ProcessStackWord` behind the words of `context` finds the block within the stack frame,
and the block that it decodes is as long as announced. -/
structure StepSound (context : List UInt32) (step : MvmeStreamDecoder × UInt32) : Prop where
  block_le : step.1.blockWordsRemaining ≤ step.1.stackWordsRemaining
  announced : ∀ block ∈ step.1.completedBlock step.2,
    FrameAssembly.Announced (context ++ [step.2]) block

/-- Every call in the list is sound behind the words of the calls before it. -/
def StepsSound (context : List UInt32) (steps : List (MvmeStreamDecoder × UInt32)) : Prop :=
  ∀ before step after, steps = before ++ step :: after →
    StepSound (context ++ before.map (·.2)) step

/-- There is nothing to say about no words. -/
theorem stepsSound_nil (context : List UInt32) : StepsSound context [] := by
  intro before step after h
  cases before <;> cases h

/-- The words before a step are its context. -/
theorem StepsSound.cons {context : List UInt32} {step : MvmeStreamDecoder × UInt32}
    {steps : List (MvmeStreamDecoder × UInt32)} (hstep : StepSound context step)
    (hsteps : StepsSound (context ++ [step.2]) steps) : StepsSound context (step :: steps) := by
  intro before step' after h
  cases before with
  | nil =>
      obtain ⟨rfl, -⟩ := List.cons.inj h
      simpa using hstep
  | cons first before =>
      obtain ⟨rfl, hrest⟩ := List.cons.inj h
      simpa using hsteps before step' after hrest

/-- Steps can be looked at in two goes. -/
theorem StepsSound.append {context : List UInt32} {steps steps' : List (MvmeStreamDecoder × UInt32)}
    (h : StepsSound context steps) (h' : StepsSound (context ++ steps.map (·.2)) steps') :
    StepsSound context (steps ++ steps') := by
  induction steps generalizing context with
  | nil => simpa using h'
  | cons step steps ih =>
      apply StepsSound.cons
      · simpa using h [] step steps rfl
      · apply ih
        · intro before step' after hsteps
          simpa using h (step :: before) step' after (congrArg _ hsteps)
        · simpa using h'

/-- There is one step for each word. -/
theorem map_wordSteps (d : MvmeStreamDecoder) (words : List UInt32) :
    (d.wordSteps words).map (·.2) = words := by
  induction words generalizing d with
  | nil => rfl
  | cons word words ih => exact congrArg _ (ih _)

/-- The words of a unit, one step at a time. -/
theorem stepsSound_wordSteps {d : MvmeStreamDecoder} {context : List UInt32}
    (h : d.OpenIn context) (words : List UInt32) : StepsSound context (d.wordSteps words) := by
  induction words generalizing d context with
  | nil => exact stepsSound_nil context
  | cons word words ih =>
      apply StepsSound.cons
      · exact ⟨h.block_le, fun block hblock => h.completedBlock hblock⟩
      · apply ih
        rw [processStackWord_toFrameAssembly]
        exact h.step word

/-- Before its words are processed, a frame or packet leaves the assembly alone or empties it. -/
theorem enterStreamUnit_toFrameAssembly (d : MvmeStreamDecoder) (kind : StreamUnit)
    (bytes : List UInt8) : (d.enterStreamUnit kind bytes).1.toFrameAssembly = d.toFrameAssembly ∨
      (d.enterStreamUnit kind bytes).1.toFrameAssembly = {} := by
  cases kind with
  | ethernetPacket =>
      -- a gap in the packet numbers abandons the open frame
      have hnote : ∀ (d : MvmeStreamDecoder) (packetNumber : UInt16),
          (d.noteEthernetPacket packetNumber).toFrameAssembly = d.toFrameAssembly ∨
            (d.noteEthernetPacket packetNumber).toFrameAssembly = {} := by
        intro d packetNumber
        unfold noteEthernetPacket
        cases d.lastEthernetPacket with
        | none => exact .inl rfl
        | some last =>
            simp only
            split
            · exact .inr rfl
            · exact .inl rfl
      unfold enterStreamUnit enterEthernetPacket
      simp only
      split
      next header0 header1 payload _ =>
        split
        · exact .inl rfl
        · have hnumber := hnote
            { d with stats := { d.stats with ethernetPackets := d.stats.ethernetPackets + 1 } }
            ((header0 >>> 16) &&& ethernetPacketNumberMask).toUInt16
          split <;> exact hnumber
      · exact .inl rfl
  | stackFrame => exact .inl rfl
  | systemFrame | unknownChannel | malformedWord => exact .inr rfl

/-- What comes before the words of a unit keeps the open frame or drops it. -/
theorem openIn_enterStreamUnit {d : MvmeStreamDecoder} {context : List UInt32}
    (h : d.OpenIn context) (kind : StreamUnit) (bytes : List UInt8) :
    (d.enterStreamUnit kind bytes).1.OpenIn context := by
  rcases enterStreamUnit_toFrameAssembly d kind bytes with hsame | hempty
  · rwa [hsame]
  · rw [hempty]
    exact FrameAssembly.openIn_empty context

/-- The frames and packets leave the block open within the words that they brought. -/
theorem openIn_units {d : MvmeStreamDecoder} {context : List UInt32} (h : d.OpenIn context)
    (units : List (StreamUnit × List UInt8)) :
    StepsSound context (d.unitSteps units) ∧
      (units.foldl (fun d unit => d.processStreamUnit unit.1 unit.2) d).OpenIn
        (context ++ (d.unitSteps units).map (·.2)) := by
  induction units generalizing d context with
  | nil =>
      refine ⟨stepsSound_nil context, ?_⟩
      show d.OpenIn (context ++ [])
      rwa [List.append_nil]
  | cons unit units ih =>
      obtain ⟨kind, bytes⟩ := unit
      have hentered := openIn_enterStreamUnit h kind bytes
      have hprocessed := hentered.run (d.enterStreamUnit kind bytes).2
      rw [← processStackWords_toFrameAssembly, ← processStreamUnit_eq] at hprocessed
      obtain ⟨hrest, hopen⟩ := ih hprocessed
      constructor
      · apply (stepsSound_wordSteps hentered _).append
        rwa [map_wordSteps]
      · rwa [unitSteps, List.map_append, map_wordSteps, ← List.append_assoc]

/-- A call keeps the invariant, and each of its steps is sound. -/
theorem openIn_consume {d : MvmeStreamDecoder} {context : List UInt32} (h : d.OpenIn context)
    (data : List UInt8) : StepsSound context (d.consumeSteps data) ∧
      (d.consume data).OpenIn (context ++ (d.consumeSteps data).map (·.2)) := by
  unfold consumeSteps consume
  split
  · refine ⟨stepsSound_nil context, ?_⟩
    show d.OpenIn (context ++ [])
    rwa [List.append_nil]
  · have hunits := openIn_units (d := { d with pendingBytes := [] }) h
      (frames streamFraming (d.pendingBytes ++ data))
    rw [← drain_eq_foldl] at hunits
    exact hunits

/-! ### Every reached state

`Reached` follows the calls from the initial decoder and counts along. The counts are needed to say
that no counter has wrapped; forgetting them gives every reachable decoder. -/

/-- The decoders that are reached, with the stack words processed and the sequence numbers given
since the last reset. -/
inductive Reached : (words : List UInt32) → (issued : Nat) → MvmeStreamDecoder → Prop
  | initial : Reached [] 0 {}
  | reset {words issued d} : Reached words issued d → Reached [] 0 d.reset
  | clearWaveformHistoriesForQuad {words issued d} (selectedQuad : UInt16) :
    Reached words issued d → Reached words issued (d.clearWaveformHistoriesForQuad selectedQuad)
  | consume {words issued d} (data : List UInt8) : Reached words issued d →
    Reached (words ++ (d.consumeSteps data).map (·.2))
      (issued + sequencesTaken ((d.decodedBlocks data).flatMap blockItems)) (d.consume data)

/-- The counts are bookkeeping: all calls are counted. -/
theorem reachable_iff (d : MvmeStreamDecoder) :
    Reachable d ↔ ∃ words issued, Reached words issued d := by
  constructor
  · intro h
    induction h with
    | initial => exact ⟨_, _, .initial⟩
    | reset _ ih =>
        obtain ⟨words, issued, hreached⟩ := ih
        exact ⟨_, _, hreached.reset⟩
    | clearWaveformHistoriesForQuad selectedQuad _ ih =>
        obtain ⟨words, issued, hreached⟩ := ih
        exact ⟨_, _, hreached.clearWaveformHistoriesForQuad selectedQuad⟩
    | consume data _ ih =>
        obtain ⟨words, issued, hreached⟩ := ih
        exact ⟨_, _, hreached.consume data⟩
  · rintro ⟨words, issued, h⟩
    induction h with
    | initial => exact .initial
    | reset _ ih => exact ih.reset
    | clearWaveformHistoriesForQuad selectedQuad _ ih =>
        exact ih.clearWaveformHistoriesForQuad selectedQuad
    | consume data _ ih => exact ih.consume data

section Reached

variable {words : List UInt32} {issued : Nat} {d : MvmeStreamDecoder}

/-- So the open frame is always one of the stream. -/
theorem Reached.openIn (h : Reached words issued d) : d.OpenIn words := by
  induction h with
  | initial => exact FrameAssembly.openIn_empty []
  | reset _ _ => exact FrameAssembly.openIn_empty []
  | clearWaveformHistoriesForQuad selectedQuad _ ih => exact ih
  | consume data _ ih => exact (openIn_consume ih data).2

/-- The histories are sound after any calls. -/
theorem Reached.sound (h : Reached words issued d) : d.waveformRecord.Sound := by
  induction h with
  | initial => exact sound_initial
  | reset _ _ => exact sound_initial
  | clearWaveformHistoriesForQuad selectedQuad _ ih => exact ih.clear selectedQuad
  | consume data _ ih =>
      rw [waveformRecord_consume]
      exact ih.notes _

/-- As long as no counter has wrapped they are in order. -/
theorem Reached.ordered (h : Reached words issued d) (hissued : issued + 1 < 2 ^ 64) :
    d.waveformRecord.Ordered ∧ d.waveformRecord.Counted issued := by
  induction h with
  | initial => exact ⟨ordered_initial, counted_initial⟩
  | reset _ _ => exact ⟨ordered_initial, counted_initial⟩
  | clearWaveformHistoriesForQuad selectedQuad _ ih =>
      obtain ⟨hordered, hcounted⟩ := ih hissued
      exact ⟨hordered.clear selectedQuad, hcounted.clear selectedQuad⟩
  | consume data _ ih =>
      obtain ⟨hordered, hcounted⟩ := ih (by omega)
      rw [waveformRecord_consume]
      exact hordered.notes hcounted _ hissued

end Reached

/-! ### One trail after the other

A run that shows that the counter does wrap if enough waveforms come. -/

/-- The waveform of `oneTrailFrame`. -/
def oneTrailWaveform : MdppWaveform := { moduleId := 1, channel := 2, samples := [1, 1] }

theorem blocks_oneTrailFrame : ({} : FrameAssembly).blocks
    ([oneTrailFrame].flatMap StackFrame.words) =
      [[0x40010000, 0x10020000, 0x30000001, 0x30004001]] := by decide

theorem blockItems_oneTrailFrame :
    blockItems [0x40010000, 0x10020000, 0x30000001, 0x30004001] =
      [.waveform oneTrailWaveform] := by
  simp [blockItems, trailItems]
  decide

/-- Between frames, a frame that holds a single trail leaves one waveform and nothing open. -/
theorem consume_oneTrail {d : MvmeStreamDecoder} (hpending : d.pendingBytes = [])
    (hassembly : d.toFrameAssembly = {}) :
    (d.consume (frameBytes [oneTrailFrame])).pendingBytes = [] ∧
      (d.consume (frameBytes [oneTrailFrame])).toFrameAssembly = {} ∧
        (d.consume (frameBytes [oneTrailFrame])).waveformRecord =
          d.waveformRecord.note (.waveform oneTrailWaveform) := by
  refine ⟨?_, ?_, ?_⟩
  · rw [consume_frameBytes hpending, processStackWords_pendingBytes, hpending]
  · rw [consume_frameBytes hpending, processStackWords_toFrameAssembly, hassembly]
    rfl
  · rw [waveformRecord_consume, decodedBlocks_frameBytes hpending, hassembly,
      blocks_oneTrailFrame, List.flatMap_singleton, blockItems_oneTrailFrame]
    rfl

/-! ### The invariants -/

/-- Whatever bytes came, the block lies within the stack frame and is decoded at the length
announced, and the histories keep to their rules; they are in order as long as the sequence numbers
given since the last reset fit. -/
theorem reached_invariants {words : List UInt32} {issued : Nat} {d : MvmeStreamDecoder}
    (h : Reached words issued d) :
    d.blockWordsRemaining ≤ d.stackWordsRemaining ∧
      (∀ data, StepsSound words (d.consumeSteps data)) ∧
      d.waveformRecord.Sound ∧
      (issued + 1 < 2 ^ 64 → d.waveformRecord.Ordered) ∧
      ∀ blockData, checkedBlockItems blockData = some (blockItems blockData) :=
  ⟨h.openIn.block_le, fun data => (openIn_consume h.openIn data).1, h.sound,
    fun hissued => (h.ordered hissued).1, checkedBlockItems_eq⟩

/-- One frame consumed. -/
theorem reached_invariants_example :
    (({} : MvmeStreamDecoder).consume (frameBytes [oneTrailFrame])).waveformRecord.Ordered := by
  have h := reached_invariants (Reached.initial.consume (frameBytes [oneTrailFrame]))
  refine h.2.2.2.1 ?_
  rw [decodedBlocks_frameBytes rfl]
  show _ + sequencesTaken ((FrameAssembly.blocks {} _).flatMap blockItems) + 1 < _
  rw [blocks_oneTrailFrame, List.flatMap_singleton, blockItems_oneTrailFrame]
  decide

/-- Frames of two samples for one channel until the sequence numbers run out: the last
waveform is numbered above the next. -/
theorem reached_invariants_counterexample :
    ¬∀ d : MvmeStreamDecoder, Reachable d →
      ∀ (address : MdppChannelAddress) (history : ChannelHistory),
        d.historiesByChannel[address]? = some history →
          ∀ w ∈ history.waveforms, w.sequence < d.nextWaveformSequence := by
  intro hbelow
  have hrun : ∀ n : Nat, ∃ d : MvmeStreamDecoder, Reachable d ∧ d.pendingBytes = [] ∧
      d.toFrameAssembly = {} ∧ d.nextWaveformSequence = UInt64.ofNat n + 1 := by
    intro n
    induction n with
    | zero => exact ⟨{}, .initial, rfl, rfl, rfl⟩
    | succ n ih =>
        obtain ⟨d, hreachable, hpending, hassembly, hnext⟩ := ih
        obtain ⟨hpending', hassembly', hrecord⟩ := consume_oneTrail hpending hassembly
        refine ⟨_, hreachable.consume _, hpending', hassembly', ?_⟩
        have hnext' := congrArg WaveformRecord.nextWaveformSequence hrecord
        apply hnext'.trans
        show d.nextWaveformSequence + 1 = _
        rw [hnext, UInt64.ofNat_add]
        rfl
  obtain ⟨d, hreachable, hpending, hassembly, hnext⟩ := hrun (2 ^ 64 - 2)
  obtain ⟨-, -, hrecord⟩ := consume_oneTrail hpending hassembly
  have hhistories := congrArg WaveformRecord.historiesByChannel hrecord
  have hnext' := congrArg WaveformRecord.nextWaveformSequence hrecord
  have hlast := hbelow _ (hreachable.consume (frameBytes [oneTrailFrame])) ⟨1, 2⟩ _
    ((congrArg (·[(⟨1, 2⟩ : MdppChannelAddress)]?) hhistories).trans
      ((getElem?_recordInHistories _ _ _).trans (if_pos rfl))) _ List.mem_concat_self
  have hwrapped : d.nextWaveformSequence < d.nextWaveformSequence + 1 :=
    hlast.trans_eq hnext'
  rw [hnext] at hwrapped
  exact absurd hwrapped (by decide)

end MvmeStreamDecoder

end Fidget
