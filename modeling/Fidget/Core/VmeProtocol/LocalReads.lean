import Fidget.Core.StreamDecoder.Ethernet
import Fidget.Core.VmeProtocol
import Mathlib.Data.List.Infix

/-!
# Replies to reads of local registers

Two functions of `core/VmeProtocol.cpp` look through a command packet for the reply to a read of
local registers. The one for several registers goes from frame to frame. The one for a single
register goes from word to word, and takes every word of the type of a super frame for the header of
one, wherever it stands.

Both walks are loops that end at the first place with a certain property, so both are described by
such a place: `firstSuspect` for the walk over the words and the first addressed frame for the walk
over the frames. On a packet that consists of whole frames the two places can be compared.

## Main results

- `findLocalReadReply_match_iff` and its neighbours: what the word walk finds, in words of the first
  place that looks like a header.
- `LocalReadersAgree`: when the two walks find the same, in terms of the packet.
-/

namespace Fidget

def mvlcReadLocalCommand : UInt32 := 0x01020000
def maximumCommandPipePacketChannel : UInt32 := 1

/-- What is known about the reply after a packet. -/
inductive MvlcLocalReadReplyStatus where
  | isMatch
  | noMatch
  | malformed
  deriving DecidableEq, Repr

structure MvlcLocalReadReply where
  status : MvlcLocalReadReplyStatus := .malformed
  value : UInt32 := 0
  deriving DecidableEq, Repr

structure MvlcLocalBatchReadReply where
  status : MvlcLocalReadReplyStatus := .malformed
  values : List UInt32 := []
  deriving DecidableEq, Repr

/-! ### Headers

Length, stack and flags are fields of the header word; the test for a super frame looks at its type
only. -/

def isSuperFrameHeader (header : UInt32) : Bool := header >>> 24 == mvlcSuperFrameType.toUInt32

/-- The number of words that follow a header. -/
def frameContents (header : UInt32) : Nat := (header &&& 0x1FFF).toNat

/-- The magic, the channel and the length are fields of the first word. -/
def packetMagic (packet : List UInt8) : UInt32 := (readLittleEndianWord packet >>> 30) &&& 0x3

def packetChannel (packet : List UInt8) : UInt32 := (readLittleEndianWord packet >>> 28) &&& 0x3

def payloadWords (packet : List UInt8) : Nat := (readLittleEndianWord packet &&& 0x1FFF).toNat

def availableWords (packet : List UInt8) : Nat := packet.length / 4 - ethernetHeaderWords

/-- The words after the two headers, as many as there are. -/
def packetPayload (packet : List UInt8) : List UInt32 :=
  ((readWords packet).drop ethernetHeaderWords).take (payloadWords packet)

/-! ### One register -/

/-- The loop over the words of the payload: as long as three words follow, a word is looked at. -/
def findLocalReadReply (expectedReference expectedRead : UInt32) :
    List UInt32 → MvlcLocalReadReply
  | frameHeader :: mirroredReference :: mirroredRead :: value :: words =>
    if !isSuperFrameHeader frameHeader then
      findLocalReadReply expectedReference expectedRead
        (mirroredReference :: mirroredRead :: value :: words)
    else if frameContents frameHeader < 3 ∨ frameContents frameHeader > 3 + words.length then {}
    else if mirroredReference ≠ expectedReference ∨ mirroredRead ≠ expectedRead then
      -- the contents of the frame are not skipped
      findLocalReadReply expectedReference expectedRead
        (mirroredReference :: mirroredRead :: value :: words)
    else { status := .isMatch, value }
  | _ => { status := .noMatch }

/-- The reply to a read of one register: the packet is searched word by word. -/
def parseMvlcLocalRegisterReadReply (packet : List UInt8) (reference address : UInt16) :
    MvlcLocalReadReply :=
  if packet.length < (ethernetHeaderWords + 4) * 4 ∨ packet.length % 4 ≠ 0 then {}
  else if packetMagic packet ≠ 0 ∨ packetChannel packet ≠ 0 ∨
      payloadWords packet > availableWords packet then {}
  else
    findLocalReadReply (mvlcReferenceWordCommand ||| reference.toUInt32)
      (mvlcReadLocalCommand ||| address.toUInt32) (packetPayload packet)

/-! ### Several registers -/

/-- The values of a reply, if it mirrors the reads that were asked for. -/
def mirroredValues : List UInt16 → List UInt32 → Option (List UInt32)
  | address :: addresses, mirroredRead :: value :: words =>
    if mirroredRead ≠ mvlcReadLocalCommand ||| address.toUInt32 then none
    else (mirroredValues addresses words).map (value :: ·)
  | _, _ => some []

/-- The loop over the frames of the payload. -/
def findLocalBatchReadReply (expectedReference : UInt32) (addresses : List UInt16) :
    List UInt32 → MvlcLocalBatchReadReply
  | [] => { status := .noMatch }
  | frameHeader :: words =>
    if frameContents frameHeader > words.length then {}
    else if isSuperFrameHeader frameHeader ∧ frameContents frameHeader ≥ 1 ∧
        words.head? = some expectedReference then
      if frameContents frameHeader ≠ 1 + addresses.length * 2 then {}
      else
        match mirroredValues addresses words.tail with
        | none => {}
        | some values => { status := .isMatch, values }
    else findLocalBatchReadReply expectedReference addresses
      (words.drop (frameContents frameHeader))
termination_by words => words.length
decreasing_by grind

/-- The reply to a read of several registers: the packet is searched frame by frame. -/
def parseMvlcLocalRegisterBatchReadReply (packet : List UInt8) (reference : UInt16)
    (addresses : List UInt16) : MvlcLocalBatchReadReply :=
  if packet.length < (ethernetHeaderWords + 2) * 4 ∨ packet.length % 4 ≠ 0 then {}
  else if packetMagic packet ≠ 0 ∨ packetChannel packet > maximumCommandPipePacketChannel ∨
      payloadWords packet > availableWords packet then {}
  -- the output of an immediate stack may still be queued: it has nothing to do with the reads
  else if packetChannel packet ≠ 0 then { status := .noMatch }
  else
    findLocalBatchReadReply (mvlcReferenceWordCommand ||| reference.toUInt32) addresses
      (packetPayload packet)

/-! ### From word to word

A word is suspect if it looks like a header that is cut off, or like the header of a frame that
mirrors the request. The walk ends at the first suspect word, and its kind decides the answer. -/

section Words

variable (expectedReference expectedRead : UInt32)

/-- The words from here on begin like a super frame that is too short or not all there. -/
def beginsBroken : List UInt32 → Bool
  | frameHeader :: words =>
    isSuperFrameHeader frameHeader && decide (3 ≤ words.length) &&
      decide (frameContents frameHeader < 3 ∨ frameContents frameHeader > words.length)
  | [] => false

/-- The words from here on begin like a reply, of this length or longer. -/
def beginsReply : List UInt32 → Bool
  | frameHeader :: mirroredReference :: mirroredRead :: _ :: words =>
    isSuperFrameHeader frameHeader && decide (3 ≤ frameContents frameHeader) &&
      decide (frameContents frameHeader ≤ 3 + words.length) &&
      mirroredReference == expectedReference && mirroredRead == expectedRead
  | _ => false

def isSuspect (words : List UInt32) : Bool :=
  beginsBroken words || beginsReply expectedReference expectedRead words

/-- The first place in the payload that begins like a broken super frame or like a reply. -/
def firstSuspect (words : List UInt32) : Option (List UInt32) :=
  words.tails.find? (isSuspect expectedReference expectedRead)

/-- The walk stops at a suspect word, and goes on otherwise. -/
theorem firstSuspect_cons (word : UInt32) (words : List UInt32) :
    firstSuspect expectedReference expectedRead (word :: words) =
      if isSuspect expectedReference expectedRead (word :: words) then some (word :: words)
      else firstSuspect expectedReference expectedRead words := by
  unfold firstSuspect
  rw [List.tails_cons, List.find?_cons]
  cases isSuspect expectedReference expectedRead (word :: words) <;> rfl

/-- A place that the walk stops at has room for a reply. -/
theorem isSuspect_length {words : List UInt32}
    (h : isSuspect expectedReference expectedRead words = true) : 4 ≤ words.length := by
  match words with
  | [] => cases h
  | [_] => simp [isSuspect, beginsBroken, beginsReply] at h
  | [_, _] => simp [isSuspect, beginsBroken, beginsReply] at h
  | [_, _, _] => simp [isSuspect, beginsBroken, beginsReply] at h
  | _ :: _ :: _ :: _ :: _ => simp

theorem firstSuspect_of_short {words : List UInt32} (h : words.length < 4) :
    firstSuspect expectedReference expectedRead words = none := by
  apply List.find?_eq_none.mpr
  intro position hposition hsuspect
  have hlength := ((List.mem_tails _ _).mp hposition).length_le
  have hfour := isSuspect_length expectedReference expectedRead hsuspect
  omega

/-- The walk from word to word ends at the first such place. -/
theorem findLocalReadReply_eq (words : List UInt32) :
    findLocalReadReply expectedReference expectedRead words =
      match firstSuspect expectedReference expectedRead words with
      | none => { status := .noMatch }
      | some position =>
        if beginsBroken position then {}
        else { status := .isMatch, value := position.getD 3 0 } := by
  induction words with
  | nil => rfl
  | cons frameHeader words ih =>
      match words, ih with
      | mirroredReference :: mirroredRead :: value :: words, ih =>
          rw [findLocalReadReply, firstSuspect_cons]
          cases hheader : isSuperFrameHeader frameHeader with
          -- no header: the walk goes on
          | false =>
              have hpassed : isSuspect expectedReference expectedRead
                  (frameHeader :: mirroredReference :: mirroredRead :: value :: words) = false := by
                simp [isSuspect, beginsBroken, beginsReply, hheader]
              rw [hpassed]
              exact ih
          | true =>
              rw [Bool.not_true, if_neg Bool.false_ne_true]
              by_cases hbroken : frameContents frameHeader < 3 ∨
                  frameContents frameHeader > 3 + words.length
              · -- a header whose frame is too short or not all there
                have hstops : beginsBroken
                    (frameHeader :: mirroredReference :: mirroredRead :: value :: words) = true := by
                  simp [beginsBroken, hheader]
                  omega
                simp [hbroken, isSuspect, hstops]
              · have hwhole : beginsBroken
                    (frameHeader :: mirroredReference :: mirroredRead :: value :: words) = false := by
                  simp [beginsBroken, hheader]
                  omega
                rw [if_neg hbroken, isSuspect, hwhole]
                by_cases hother : mirroredReference ≠ expectedReference ∨
                    mirroredRead ≠ expectedRead
                · -- the header of another reply
                  have hpassed : beginsReply expectedReference expectedRead
                      (frameHeader :: mirroredReference :: mirroredRead :: value :: words) =
                        false := by
                    simp [beginsReply, hheader]
                    tauto
                  rw [if_pos hother, hpassed]
                  exact ih
                · -- the header of the reply
                  rw [not_or, not_not, not_not] at hother
                  obtain ⟨rfl, rfl⟩ := hother
                  have hreply : beginsReply mirroredReference mirroredRead
                      (frameHeader :: mirroredReference :: mirroredRead :: value :: words) =
                        true := by
                    simp [beginsReply, hheader]
                    omega
                  simp [hreply, hwhole]
      -- fewer than four words are not looked at
      | [], _ => rw [firstSuspect_of_short _ _ (by simp), findLocalReadReply]; simp
      | [_], _ => rw [firstSuspect_of_short _ _ (by simp), findLocalReadReply]; simp
      | [_, _], _ => rw [firstSuspect_of_short _ _ (by simp), findLocalReadReply]; simp

/-- The first such place, by its offset. -/
theorem firstSuspect_eq_some_iff {words position : List UInt32} :
    firstSuspect expectedReference expectedRead words = some position ↔
      ∃ offset, words.drop offset = position ∧
        isSuspect expectedReference expectedRead position = true ∧
        ∀ earlier < offset,
          isSuspect expectedReference expectedRead (words.drop earlier) = false := by
  induction words with
  | nil =>
      rw [firstSuspect_of_short _ _ (by simp)]
      constructor
      · intro hnone
        cases hnone
      · rintro ⟨offset, rfl, hsuspect, -⟩
        rw [List.drop_nil] at hsuspect
        cases hsuspect
  | cons word words ih =>
      rw [firstSuspect_cons]
      cases hhere : isSuspect expectedReference expectedRead (word :: words) with
      -- the walk stops here, at offset zero
      | true =>
          rw [if_pos rfl]
          constructor
          · rintro ⟨⟩
            exact ⟨0, rfl, hhere, fun earlier hearlier => absurd hearlier (Nat.not_lt_zero _)⟩
          · rintro ⟨offset, rfl, -, hfirst⟩
            cases offset with
            | zero => rfl
            | succ offset => exact absurd (hhere.symm.trans (hfirst 0 (Nat.succ_pos _))) (by simp)
      -- it goes on, and every offset is one more
      | false =>
          rw [if_neg Bool.false_ne_true, ih]
          constructor
          · rintro ⟨offset, hposition, hsuspect, hfirst⟩
            refine ⟨offset + 1, hposition, hsuspect, fun earlier hearlier => ?_⟩
            cases earlier with
            | zero => exact hhere
            | succ earlier => exact hfirst earlier (Nat.lt_of_succ_lt_succ hearlier)
          · rintro ⟨offset, hposition, hsuspect, hfirst⟩
            cases offset with
            | zero =>
                rw [List.drop_zero] at hposition
                rw [← hposition, hhere] at hsuspect
                cases hsuspect
            | succ offset =>
                exact ⟨offset, hposition, hsuspect, fun earlier hearlier =>
                  hfirst (earlier + 1) (Nat.succ_lt_succ hearlier)⟩

/-- No place is such a one. -/
theorem firstSuspect_eq_none_iff {words : List UInt32} :
    firstSuspect expectedReference expectedRead words = none ↔
      ∀ offset, isSuspect expectedReference expectedRead (words.drop offset) = false := by
  constructor
  · intro hnone offset
    have hall := List.find?_eq_none.mp hnone
    have hmem : words.drop offset ∈ words.tails :=
      (List.mem_tails _ _).mpr (List.drop_suffix offset words)
    simpa using hall _ hmem
  · intro hall
    apply List.find?_eq_none.mpr
    intro position hposition
    obtain ⟨before, rfl⟩ := (List.mem_tails _ _).mp hposition
    have hhere := hall before.length
    rw [List.drop_left] at hhere
    simp [hhere]

/-- The walk goes on at a place that begins neither a broken frame nor the reply. -/
theorem isSuspect_eq_false_iff {words : List UInt32} :
    isSuspect expectedReference expectedRead words = false ↔
      beginsBroken words = false ∧ beginsReply expectedReference expectedRead words = false := by
  rw [isSuspect, Bool.or_eq_false_iff]

/-- A header is not both broken and that of a reply. -/
theorem beginsBroken_of_beginsReply {words : List UInt32}
    (h : beginsReply expectedReference expectedRead words = true) :
    beginsBroken words = false := by
  unfold beginsReply at h
  split at h
  next frameHeader mirroredReference mirroredRead value words =>
    simp only [Bool.and_eq_true, decide_eq_true_eq] at h
    obtain ⟨⟨⟨⟨-, hlow⟩, hhigh⟩, -⟩, -⟩ := h
    have hroom : ¬(frameContents frameHeader < 3 ∨
        frameContents frameHeader > (mirroredReference :: mirroredRead :: value :: words).length) := by
      simp only [List.length_cons]
      omega
    rw [beginsBroken, decide_eq_false hroom, Bool.and_false]
  · cases h

/-- Nothing is found where no word looks like a header that matters. -/
theorem findLocalReadReply_noMatch_iff (words : List UInt32) :
    (findLocalReadReply expectedReference expectedRead words).status = .noMatch ↔
      ∀ offset, beginsBroken (words.drop offset) = false ∧
        beginsReply expectedReference expectedRead (words.drop offset) = false := by
  simp only [← isSuspect_eq_false_iff]
  rw [← firstSuspect_eq_none_iff, findLocalReadReply_eq]
  cases firstSuspect expectedReference expectedRead words with
  | none => exact iff_of_true rfl rfl
  | some position =>
      refine iff_of_false ?_ (Option.some_ne_none position)
      dsimp only
      split
      · exact MvlcLocalReadReplyStatus.noConfusion
      · exact MvlcLocalReadReplyStatus.noConfusion

/-- The payload is rejected at a broken header with no reply before it. -/
theorem findLocalReadReply_malformed_iff (words : List UInt32) :
    (findLocalReadReply expectedReference expectedRead words).status = .malformed ↔
      ∃ offset, beginsBroken (words.drop offset) = true ∧ ∀ earlier < offset,
        beginsReply expectedReference expectedRead (words.drop earlier) = false := by
  rw [findLocalReadReply_eq]
  cases hfirst : firstSuspect expectedReference expectedRead words with
  | none =>
      refine iff_of_false MvlcLocalReadReplyStatus.noConfusion ?_
      rintro ⟨offset, hbroken, -⟩
      have hall := (firstSuspect_eq_none_iff _ _).mp hfirst offset
      rw [isSuspect_eq_false_iff, hbroken] at hall
      cases hall.1
  | some position =>
      obtain ⟨stop, rfl, hsuspect, hbefore⟩ := (firstSuspect_eq_some_iff _ _).mp hfirst
      dsimp only
      cases hbroken : beginsBroken (words.drop stop) with
      | true =>
          refine iff_of_true rfl ⟨stop, hbroken, fun earlier hearlier => ?_⟩
          exact ((isSuspect_eq_false_iff _ _).mp (hbefore earlier hearlier)).2
      | false =>
          -- the walk ends at a reply, so no broken header stands before it
          have hreply : beginsReply expectedReference expectedRead (words.drop stop) = true := by
            rw [isSuspect, hbroken, Bool.false_or] at hsuspect
            exact hsuspect
          refine iff_of_false MvlcLocalReadReplyStatus.noConfusion ?_
          rintro ⟨offset, hoffset, hnone⟩
          rcases Nat.lt_trichotomy offset stop with hlt | rfl | hgt
          · have hpassed := ((isSuspect_eq_false_iff _ _).mp (hbefore offset hlt)).1
            rw [hoffset] at hpassed
            cases hpassed
          · rw [hoffset] at hbroken
            cases hbroken
          · rw [hnone stop hgt] at hreply
            cases hreply

/-- The words from here on begin like a reply with this value. -/
def beginsReplyWith (value : UInt32) (words : List UInt32) : Bool :=
  beginsReply expectedReference expectedRead words && words[3]? == some value

/-- The header here is broken, or it is one like that of a reply with another value. -/
def misleads (value : UInt32) (words : List UInt32) : Bool :=
  beginsBroken words ||
    (beginsReply expectedReference expectedRead words && words[3]? != some value)

/-- Where a reply with this value stands, it is found unless a header before it misleads. -/
theorem findLocalReadReply_match_iff {words : List UInt32} {stop : Nat} {value : UInt32}
    (hstop : beginsReplyWith expectedReference expectedRead value (words.drop stop) = true) :
    findLocalReadReply expectedReference expectedRead words = { status := .isMatch, value } ↔
      ∀ offset < stop, misleads expectedReference expectedRead value (words.drop offset) = true →
        ∃ earlier < offset,
          beginsReplyWith expectedReference expectedRead value (words.drop earlier) = true := by
  have hreply : isSuspect expectedReference expectedRead (words.drop stop) = true := by
    rw [beginsReplyWith, Bool.and_eq_true] at hstop
    rw [isSuspect, hstop.1, Bool.or_true]
  rw [findLocalReadReply_eq]
  cases hfirst : firstSuspect expectedReference expectedRead words with
  | none =>
      rw [(firstSuspect_eq_none_iff _ _).mp hfirst stop] at hreply
      cases hreply
  | some position =>
      obtain ⟨first, rfl, hsuspect, hbefore⟩ := (firstSuspect_eq_some_iff _ _).mp hfirst
      have hle : first ≤ stop := by
        by_contra hgt
        rw [hbefore stop (by omega)] at hreply
        cases hreply
      -- what stands before the first such place misleads nobody
      have hclear : ∀ earlier < first,
          beginsReply expectedReference expectedRead (words.drop earlier) = false ∧
            misleads expectedReference expectedRead value (words.drop earlier) = false := by
        intro earlier hearlier
        obtain ⟨hwhole, hother⟩ := (isSuspect_eq_false_iff _ _).mp (hbefore earlier hearlier)
        exact ⟨hother, by rw [misleads, hwhole, hother]; rfl⟩
      dsimp only
      cases hbroken : beginsBroken (words.drop first) with
      | true =>
          rw [if_pos rfl]
          refine iff_of_false (fun h => by cases h) fun hall => ?_
          have hlt : first < stop := by
            refine lt_of_le_of_ne hle ?_
            rintro rfl
            rw [beginsReplyWith, Bool.and_eq_true] at hstop
            rw [beginsBroken_of_beginsReply _ _ hstop.1] at hbroken
            cases hbroken
          obtain ⟨earlier, hearlier, hcopy⟩ := hall first hlt (by rw [misleads, hbroken]; rfl)
          rw [beginsReplyWith, (hclear earlier hearlier).1] at hcopy
          cases hcopy
      | false =>
          have hfound : beginsReply expectedReference expectedRead (words.drop first) = true := by
            rw [isSuspect, hbroken, Bool.false_or] at hsuspect
            exact hsuspect
          obtain ⟨found, hvalue⟩ : ∃ found, (words.drop first)[3]? = some found := by
            have hlength := isSuspect_length _ _ hsuspect
            exact ⟨_, List.getElem?_eq_getElem hlength⟩
          have hgetD : (words.drop first).getD 3 0 = found := by
            rw [List.getD_eq_getElem?_getD, hvalue]
            rfl
          rw [if_neg Bool.false_ne_true, hgetD]
          by_cases hsame : found = value
          · subst hsame
            refine iff_of_true rfl fun offset hoffset hmisleads => ?_
            have hcopy : beginsReplyWith expectedReference expectedRead found
                (words.drop first) = true := by
              rw [beginsReplyWith, hfound, hvalue]
              exact beq_self_eq_true _
            rcases Nat.lt_trichotomy offset first with hlt | rfl | hgt
            · rw [(hclear offset hlt).2] at hmisleads
              cases hmisleads
            · rw [misleads, hbroken, hfound, hvalue] at hmisleads
              simp at hmisleads
            · exact ⟨first, hgt, hcopy⟩
          · refine iff_of_false (fun h => hsame (congrArg MvlcLocalReadReply.value h)) ?_
            intro hall
            have hlt : first < stop := by
              refine lt_of_le_of_ne hle ?_
              rintro rfl
              rw [beginsReplyWith, hvalue, Bool.and_eq_true, beq_iff_eq] at hstop
              exact hsame (Option.some.inj hstop.2)
            obtain ⟨earlier, hearlier, hcopy⟩ := hall first hlt (by
              rw [misleads, hbroken, hfound, hvalue]
              simpa using hsame)
            rw [beginsReplyWith, (hclear earlier hearlier).1] at hcopy
            cases hcopy

end Words

/-! ### From frame to frame

The walk ends at the first super frame that mirrors the reference of the request, and rejects it
unless it is the exact reply. -/

section Frames

variable (expectedReference expectedRead : UInt32)

/-- A header and the words it announces. -/
def IsFrame (frame : List UInt32) : Prop :=
  ∃ header contents, frame = header :: contents ∧ frameContents header = contents.length

/-- A super frame that mirrors the reference of the request. -/
def isAddressed (frame : List UInt32) : Bool :=
  isSuperFrameHeader (frame.headD 0) && frame[1]? == some expectedReference

/-- A frame that mirrors a single read and nothing else. -/
def isExactReply (frame : List UInt32) : Bool :=
  frame.length == 4 && frame[2]? == some expectedRead

/-- An addressed frame is read in full, or rejected. -/
theorem exactReply_eq (header reference : UInt32) (contents words : List UInt32)
    (address : UInt16) :
    (if (reference :: contents).length ≠ 1 + [address].length * 2 then {}
      else
        match mirroredValues [address] (reference :: contents ++ words).tail with
        | none => {}
        | some values => { status := .isMatch, values } : MvlcLocalBatchReadReply) =
      if isExactReply (mvlcReadLocalCommand ||| address.toUInt32)
          (header :: reference :: contents) then
        { status := .isMatch, values := [(header :: reference :: contents).getD 3 0] }
      else {} := by
  match contents with
  | [mirroredRead, value] =>
      by_cases hread : mirroredRead = mvlcReadLocalCommand ||| address.toUInt32
      · simp [mirroredValues, isExactReply, hread]
      · simp [mirroredValues, isExactReply, hread]
  | [] => simp [isExactReply]
  | [_] => simp [isExactReply]
  | _ :: _ :: _ :: _ => simp [isExactReply]

/-- The walk from frame to frame ends at the first frame that is addressed. -/
theorem findLocalBatchReadReply_eq {frames : List (List UInt32)}
    (hframes : ∀ frame ∈ frames, IsFrame frame) (address : UInt16) :
    findLocalBatchReadReply expectedReference [address] frames.flatten =
      match frames.find? (isAddressed expectedReference) with
      | none => { status := .noMatch }
      | some frame =>
        if isExactReply (mvlcReadLocalCommand ||| address.toUInt32) frame then
          { status := .isMatch, values := [frame.getD 3 0] }
        else {} := by
  induction frames with
  | nil => rw [List.flatten_nil, findLocalBatchReadReply]; rfl
  | cons frame frames ih =>
      obtain ⟨header, contents, rfl, hcovers⟩ := hframes frame List.mem_cons_self
      have hrest := ih fun frame hframe => hframes frame (List.mem_cons_of_mem _ hframe)
      have hroom : ¬frameContents header > (contents ++ frames.flatten).length := by
        rw [hcovers, List.length_append]
        omega
      rw [List.flatten_cons, List.cons_append, findLocalBatchReadReply, if_neg hroom,
        List.find?_cons]
      cases contents with
      | nil =>
          -- a frame without contents mirrors nothing
          have hother : isAddressed expectedReference [header] = false := by simp [isAddressed]
          rw [if_neg (by rw [hcovers]; simp), hother, hcovers]
          exact hrest
      | cons reference contents =>
          have hhead : (reference :: contents ++ frames.flatten).head? = some reference := rfl
          have hsome : frameContents header ≥ 1 := by
            rw [hcovers, List.length_cons]
            omega
          by_cases haddressed : isSuperFrameHeader header = true ∧ reference = expectedReference
          · obtain ⟨hheader, rfl⟩ := haddressed
            have hmirrored : isAddressed reference (header :: reference :: contents) = true := by
              simp [isAddressed, hheader]
            rw [if_pos ⟨hheader, hsome, hhead⟩, hmirrored, hcovers]
            exact exactReply_eq header reference contents frames.flatten address
          · have hother : isAddressed expectedReference (header :: reference :: contents) =
                false := by
              simpa [isAddressed] using haddressed
            rw [if_neg ?_, hother, hcovers, List.drop_left]
            · exact hrest
            · rintro ⟨hheader, -, hreference⟩
              exact haddressed ⟨hheader, Option.some.inj (hhead.symm.trans hreference)⟩

end Frames

/-! ### The two readers on one packet

The frame walk looks at headers only, and the word walk at all words. So they differ when a word
inside a frame looks like a header in front of the reply, or when the addressed frame is not an
exact reply. -/

section Packet

/-- A packet of the command pipe on channel zero, whose payload consists of these frames. -/
structure CommandPacket (packet : List UInt8) (frames : List (List UInt32)) : Prop where
  words : packet.length % 4 = 0
  headers : ethernetHeaderWords * 4 ≤ packet.length
  magic : packetMagic packet = 0
  channel : packetChannel packet = 0
  available : payloadWords packet ≤ availableWords packet
  tiled : packetPayload packet = frames.flatten
  covers : ∀ frame ∈ frames, IsFrame frame

/-- The answer for a single register, as one for a list of registers. -/
def MvlcLocalReadReply.asBatch (reply : MvlcLocalReadReply) : MvlcLocalBatchReadReply where
  status := reply.status
  values := if reply.status = .isMatch then [reply.value] else []

/-- What a packet must be like for the two readers to agree, by the frame that is addressed first.
Without such a frame no word of the payload, be it a header or inside a frame, may look like a broken
header or like a reply. If the frame is an exact reply, no word before it may mislead, except behind
a copy of the reply. If it is not, a broken header must stand somewhere with no reply before it,
unless the packet is too short for a reply anyway. -/
def LocalReadersAgree (packet : List UInt8) (frames : List (List UInt32))
    (reference address : UInt16) : Prop :=
  let expectedReference := mvlcReferenceWordCommand ||| reference.toUInt32
  let expectedRead := mvlcReadLocalCommand ||| address.toUInt32
  let payload := frames.flatten
  let before := frames.takeWhile fun frame => !isAddressed expectedReference frame
  packet.length < (ethernetHeaderWords + 2) * 4 ∨
    match frames.find? (isAddressed expectedReference) with
    | none =>
      (ethernetHeaderWords + 4) * 4 ≤ packet.length ∧
        ∀ offset, beginsBroken (payload.drop offset) = false ∧
          beginsReply expectedReference expectedRead (payload.drop offset) = false
    | some frame =>
      if isExactReply expectedRead frame then
        let value := frame.getD 3 0
        ∀ offset < before.flatten.length,
          misleads expectedReference expectedRead value (payload.drop offset) = true →
            ∃ earlier < offset,
              beginsReplyWith expectedReference expectedRead value (payload.drop earlier) = true
      else
        packet.length < (ethernetHeaderWords + 4) * 4 ∨
          ∃ offset, beginsBroken (payload.drop offset) = true ∧ ∀ earlier < offset,
            beginsReply expectedReference expectedRead (payload.drop earlier) = false

variable {packet : List UInt8} {frames : List (List UInt32)}

/-- A word for every four bytes. -/
theorem length_readWords (data : List UInt8) : (readWords data).length = data.length / 4 := by
  induction hlength : data.length using Nat.strongRecOn generalizing data with
  | _ n ih =>
      rw [readWords]
      split
      next hshort =>
        rw [List.length_nil]
        omega
      next hlong =>
        rw [List.length_cons, ih (data.length - 4) (by omega) _ List.length_drop]
        omega

/-- Each frame fits into the packet. -/
theorem CommandPacket.length_le (h : CommandPacket packet frames) {frame : List UInt32}
    (hframe : frame ∈ frames) : frame.length + ethernetHeaderWords ≤ packet.length / 4 := by
  have hle := (List.sublist_flatten_of_mem hframe).length_le
  rw [← h.tiled, packetPayload, List.length_take, List.length_drop, length_readWords] at hle
  have hheaders := h.headers
  unfold ethernetHeaderWords at hheaders hle ⊢
  omega

/-- A packet with an exact reply is long enough for one. -/
theorem CommandPacket.long_of_exact (h : CommandPacket packet frames) {expectedRead : UInt32}
    {frame : List UInt32} (hframe : frame ∈ frames)
    (hexact : isExactReply expectedRead frame = true) :
    (ethernetHeaderWords + 4) * 4 ≤ packet.length := by
  have hlength : frame.length = 4 := by
    unfold isExactReply at hexact
    simp only [Bool.and_eq_true, beq_iff_eq] at hexact
    exact hexact.1
  have hle := h.length_le hframe
  have hwords := h.words
  rw [hlength] at hle
  omega

/-- On a packet made of frames, the word walk goes through their words. -/
theorem CommandPacket.parse_eq (h : CommandPacket packet frames) (reference address : UInt16) :
    parseMvlcLocalRegisterReadReply packet reference address =
      if packet.length < (ethernetHeaderWords + 4) * 4 then {}
      else findLocalReadReply (mvlcReferenceWordCommand ||| reference.toUInt32)
        (mvlcReadLocalCommand ||| address.toUInt32) frames.flatten := by
  unfold parseMvlcLocalRegisterReadReply
  by_cases hshort : packet.length < (ethernetHeaderWords + 4) * 4
  · rw [if_pos (.inl hshort), if_pos hshort]
  · have hadmitted : ¬(packetMagic packet ≠ 0 ∨ packetChannel packet ≠ 0 ∨
        payloadWords packet > availableWords packet) := by
      rintro (hmagic | hchannel | hroom)
      · exact hmagic h.magic
      · exact hchannel h.channel
      · exact absurd h.available (by omega)
    rw [if_neg (by rw [not_or, not_not]; exact ⟨hshort, h.words⟩), if_neg hadmitted,
      if_neg hshort, h.tiled]

/-- On a packet made of frames, so does the frame walk. -/
theorem CommandPacket.parseBatch_eq (h : CommandPacket packet frames) (reference : UInt16)
    (addresses : List UInt16) :
    parseMvlcLocalRegisterBatchReadReply packet reference addresses =
      if packet.length < (ethernetHeaderWords + 2) * 4 then {}
      else findLocalBatchReadReply (mvlcReferenceWordCommand ||| reference.toUInt32) addresses
        frames.flatten := by
  unfold parseMvlcLocalRegisterBatchReadReply
  by_cases hshort : packet.length < (ethernetHeaderWords + 2) * 4
  · rw [if_pos (.inl hshort), if_pos hshort]
  · have hadmitted : ¬(packetMagic packet ≠ 0 ∨
        packetChannel packet > maximumCommandPipePacketChannel ∨
        payloadWords packet > availableWords packet) := by
      rintro (hmagic | hchannel | hroom)
      · exact hmagic h.magic
      · rw [h.channel] at hchannel
        exact absurd hchannel (by decide)
      · exact absurd h.available (by omega)
    rw [if_neg (by rw [not_or, not_not]; exact ⟨hshort, h.words⟩), if_neg hadmitted,
      if_neg (not_not.mpr h.channel), if_neg hshort, h.tiled]

/-- A value that one of them finds is found by the other. -/
theorem asBatch_eq_match_iff {reply : MvlcLocalReadReply} {value : UInt32} :
    ({ status := .isMatch, values := [value] } : MvlcLocalBatchReadReply) = reply.asBatch ↔
      reply = { status := .isMatch, value } := by
  obtain ⟨status, found⟩ := reply
  cases status <;> simp [MvlcLocalReadReply.asBatch, eq_comm]

theorem asBatch_eq_iff {reply : MvlcLocalReadReply} {status : MvlcLocalReadReplyStatus}
    (hstatus : status ≠ .isMatch) :
    ({ status } : MvlcLocalBatchReadReply) = reply.asBatch ↔ reply.status = status := by
  obtain ⟨found, value⟩ := reply
  constructor
  · intro heq
    exact (congrArg MvlcLocalBatchReadReply.status heq).symm
  · rintro rfl
    simp [MvlcLocalReadReply.asBatch, hstatus]

/-- An exact reply is where the frames before it end, and looks like one. -/
theorem beginsReplyWith_of_exact {frames : List (List UInt32)} {frame : List UInt32}
    {expectedReference expectedRead : UInt32} (hcovers : ∀ frame ∈ frames, IsFrame frame)
    (hfirst : frames.find? (isAddressed expectedReference) = some frame)
    (hexact : isExactReply expectedRead frame = true) :
    beginsReplyWith expectedReference expectedRead (frame.getD 3 0) (frames.flatten.drop
      (frames.takeWhile fun frame => !isAddressed expectedReference frame).flatten.length) =
        true := by
  obtain ⟨haddressed, before, after, rfl, hbefore⟩ := List.find?_eq_some_iff_append.mp hfirst
  obtain ⟨header, contents, rfl, hcontents⟩ := hcovers frame (by simp)
  have htake : (before ++ (header :: contents) :: after).takeWhile
      (fun frame => !isAddressed expectedReference frame) = before := by
    rw [List.takeWhile_append_of_pos hbefore, List.takeWhile_cons, haddressed]
    exact List.append_nil before
  rw [htake, List.flatten_append, List.drop_left, List.flatten_cons]
  unfold isExactReply at hexact
  simp only [Bool.and_eq_true, beq_iff_eq, List.length_cons] at hexact
  obtain ⟨hlength, hread⟩ := hexact
  match contents, hlength with
  | [mirroredReference, mirroredRead, value], _ =>
      have hthree : frameContents header = 3 := hcontents
      simp only [isAddressed, Bool.and_eq_true, beq_iff_eq] at haddressed
      obtain ⟨hheader, hreference⟩ := haddressed
      cases hread
      cases hreference
      have hsuper : isSuperFrameHeader header = true := hheader
      simp [beginsReplyWith, beginsReply, hsuper, hthree]

/-- The two readers give the same answer on a packet exactly when no word of it looks like a header
where it changes the answer. -/
theorem parseMvlcLocalRegisterReadReply_agrees_iff (h : CommandPacket packet frames)
    (reference address : UInt16) :
    parseMvlcLocalRegisterBatchReadReply packet reference [address] =
        (parseMvlcLocalRegisterReadReply packet reference address).asBatch ↔
      LocalReadersAgree packet frames reference address := by
  rw [h.parse_eq, h.parseBatch_eq, findLocalBatchReadReply_eq _ h.covers address]
  unfold LocalReadersAgree
  dsimp only
  -- both refuse a packet that is shorter than its headers
  by_cases hshort : packet.length < (ethernetHeaderWords + 2) * 4
  · have hshorter : packet.length < (ethernetHeaderWords + 4) * 4 := by omega
    rw [if_pos hshort, if_pos hshorter]
    exact iff_of_true rfl (.inl hshort)
  rw [if_neg hshort, or_iff_right hshort]
  cases haddressed : frames.find? (isAddressed
      (mvlcReferenceWordCommand ||| reference.toUInt32)) with
  -- no frame is addressed, and the word walk must find nothing either
  | none =>
      dsimp only
      rw [asBatch_eq_iff MvlcLocalReadReplyStatus.noConfusion,
        ← findLocalReadReply_noMatch_iff]
      by_cases hmiddle : packet.length < (ethernetHeaderWords + 4) * 4
      · rw [if_pos hmiddle]
        exact iff_of_false MvlcLocalReadReplyStatus.noConfusion fun hlong => by omega
      · rw [if_neg hmiddle]
        exact (and_iff_right (Nat.not_lt.mp hmiddle)).symm
  | some frame =>
      dsimp only
      cases hexact : isExactReply (mvlcReadLocalCommand ||| address.toUInt32) frame with
      -- the reply is there, and no header in front of it may mislead the word walk
      | true =>
          have hlong := h.long_of_exact (List.mem_of_find?_eq_some haddressed) hexact
          rw [if_pos rfl, if_pos rfl, if_neg (Nat.not_lt.mpr hlong), asBatch_eq_match_iff]
          exact findLocalReadReply_match_iff _ _
            (beginsReplyWith_of_exact h.covers haddressed hexact)
      -- the addressed frame is rejected, and so must the packet be
      | false =>
          rw [if_neg Bool.false_ne_true, if_neg Bool.false_ne_true,
            asBatch_eq_iff MvlcLocalReadReplyStatus.noConfusion,
            ← findLocalReadReply_malformed_iff]
          by_cases hmiddle : packet.length < (ethernetHeaderWords + 4) * 4
          · rw [if_pos hmiddle]
            exact iff_of_true rfl (.inl hmiddle)
          · rw [if_neg hmiddle, or_iff_right hmiddle]

/-! Two replies in one packet. The walk to the second leads over the value in the first. -/

/-- Register 0x1304 is read twice: this value under reference 1, then 42 under reference 2. -/
def twoReplies (value : UInt32) : List (List UInt32) := [
  [0xF1000003, 0x01010001, 0x01021304, value],
  [0xF1000003, 0x01010002, 0x01021304, 42]]

def twoRepliesPacket (value : UInt32) : List UInt8 :=
  encodeWords (8 :: 0 :: (twoReplies value).flatten)

theorem length_twoRepliesPacket (value : UInt32) : (twoRepliesPacket value).length = 40 :=
  length_encodeWords _

theorem header_twoRepliesPacket (value : UInt32) :
    readLittleEndianWord (twoRepliesPacket value) = 8 :=
  readLittleEndianWord_encodeWord 8 _

theorem twoRepliesPacket_tiled (value : UInt32) :
    CommandPacket (twoRepliesPacket value) (twoReplies value) where
  words := by rw [length_twoRepliesPacket]
  headers := by rw [length_twoRepliesPacket]; decide
  magic := by rw [packetMagic, header_twoRepliesPacket]; decide
  channel := by rw [packetChannel, header_twoRepliesPacket]; decide
  available := by
    rw [payloadWords, availableWords, header_twoRepliesPacket, length_twoRepliesPacket]
    decide
  tiled := by
    rw [packetPayload, payloadWords, header_twoRepliesPacket, twoRepliesPacket,
      readWords_encodeWords]
    rfl
  covers := by
    have hthree : frameContents 0xF1000003 = 3 := by decide
    intro frame hframe
    rcases List.mem_cons.mp hframe with rfl | hframe
    · exact ⟨_, _, rfl, hthree⟩
    · rw [List.mem_singleton.mp hframe]
      exact ⟨_, _, rfl, hthree⟩

/-- A value like the header of a super frame without contents hides the second reply. -/
theorem parseMvlcLocalRegisterReadReply_agrees_counterexample :
    ¬∀ (packet : List UInt8) (frames : List (List UInt32)) (reference address : UInt16),
      CommandPacket packet frames →
        parseMvlcLocalRegisterBatchReadReply packet reference [address] =
          (parseMvlcLocalRegisterReadReply packet reference address).asBatch := by
  intro h
  have htiled := twoRepliesPacket_tiled 0xF1000000
  have hagree := h _ _ 2 0x1304 htiled
  rw [htiled.parse_eq, htiled.parseBatch_eq, findLocalReadReply_eq,
    findLocalBatchReadReply_eq _ htiled.covers] at hagree
  revert hagree
  decide

/-- Any other value does not: this one mirrors a read, but no header. -/
theorem parseMvlcLocalRegisterReadReply_agrees_iff_example :
    parseMvlcLocalRegisterBatchReadReply (twoRepliesPacket 0x01021304) 2 [0x1304] =
      (parseMvlcLocalRegisterReadReply (twoRepliesPacket 0x01021304) 2 0x1304).asBatch :=
  (parseMvlcLocalRegisterReadReply_agrees_iff (twoRepliesPacket_tiled 0x01021304) 2 0x1304).mpr
    (.inr (by
      show ∀ offset < 4, _
      decide))

end Packet

end Fidget
