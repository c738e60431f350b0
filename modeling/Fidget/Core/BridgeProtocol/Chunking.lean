import Fidget.Core.BridgeProtocol
import Fidget.Lib.Lists

/-!
# Bridge frames and the bytes they are read from

The loop of `consume` copies what it can at once, but it does what a machine would do that is given
one byte at a time (`receiveByte`). So a stream is decoded the same way however it is cut, and what
the frames have in common with the bytes is an invariant of that machine.

The invariant is `Decoded`. It relates the frames emitted so far and the bytes held of the next one
to all bytes received: as long as nothing has failed, the encodings of the frames followed by what
is held are the input.

## Main results

- `consumeLoop_eq_foldl`: the loop takes the bytes one by one.
- `decoded_foldl_receiveByte`: the frames are encoded in the bytes in front of what is held.
- `success_encodeBridgeFrame_iff`: a frame can be encoded if its channel is known and its payload
  fits.
-/

namespace Fidget

namespace BridgeFrameDecoder

/-- Chunks one after the other, with the frames of all calls. -/
def consumeAll (d : BridgeFrameDecoder) : List ByteSpan → BridgeFrameDecoder × List BridgeFrame
  | [] => (d, [])
  | chunk :: chunks =>
    let (d', result) := d.consume chunk
    let (d'', frames) := consumeAll d' chunks
    (d'', result.frames ++ frames)

/-! ### Collecting

The source copies as many bytes as the header or the payload has room for. Copying in two goes is
the same as copying at once. -/

theorem addHeader_nil (d : BridgeFrameDecoder) : d.addHeader [] = d := by
  cases d
  simp [addHeader]

theorem addPayload_nil (d : BridgeFrameDecoder) : d.addPayload [] = d := by
  cases d
  simp [addPayload]

/-- Header bytes can come in two goes. -/
theorem addHeader_append (d : BridgeFrameDecoder) (data more : List UInt8) :
    d.addHeader (data ++ more) = (d.addHeader data).addHeader more := by
  simp only [addHeader, mk.injEq, and_self, and_true]
  rw [List.take_append, List.append_assoc, List.length_append, List.length_take]
  congr 3
  omega

/-- Payload bytes can come in two goes. -/
theorem addPayload_append (d : BridgeFrameDecoder) (data more : List UInt8) :
    d.addPayload (data ++ more) = (d.addPayload data).addPayload more := by
  simp only [addPayload, mk.injEq, and_self, and_true, true_and]
  rw [List.take_append, List.append_assoc, List.length_append, List.length_take]
  congr 3
  omega

/-- A header takes no more bytes than it has room for. -/
theorem addHeader_take (d : BridgeFrameDecoder) (data : List UInt8) :
    d.addHeader (data.take (bridgeFrameHeaderSize - d.header.length)) = d.addHeader data := by
  simp only [addHeader, mk.injEq, and_self, and_true]
  rw [List.take_take, Nat.min_self]

/-- A payload takes no more bytes than were announced. -/
theorem addPayload_take (d : BridgeFrameDecoder) (data : List UInt8) :
    d.addPayload (data.take (d.payloadSize - d.payload.length)) = d.addPayload data := by
  simp only [addPayload, mk.injEq, and_self, and_true, true_and]
  rw [List.take_take, Nat.min_self]

/-- Where there is room the bytes are appended. -/
theorem addHeader_header {d : BridgeFrameDecoder} {data : List UInt8}
    (h : d.header.length + data.length ≤ bridgeFrameHeaderSize) :
    (d.addHeader data).header = d.header ++ data := by
  show d.header ++ data.take (bridgeFrameHeaderSize - d.header.length) = d.header ++ data
  rw [List.take_of_length_le (by omega)]

theorem addPayload_payload {d : BridgeFrameDecoder} {data : List UInt8}
    (h : d.payload.length + data.length ≤ d.payloadSize) :
    (d.addPayload data).payload = d.payload ++ data := by
  show d.payload ++ data.take (d.payloadSize - d.payload.length) = d.payload ++ data
  rw [List.take_of_length_le (by omega)]

/-! ### The frame that a header begins

`beginFrame` checks magic, version, channel and length in one go, and accepts a header exactly when
it is the header of some frame that can be sent. -/

/-- The decoder is in the payload of a frame that its header announced. -/
structure Begun (d : BridgeFrameDecoder) : Prop where
  channel : d.channel = BridgeChannel.ofByte (d.header.getD 0 0)
  known : isKnownBridgeChannel d.channel
  payloadSize : d.payloadSize = (loadBigEndian32 (d.header.drop 1)).toNat
  payloadSize_le : d.payloadSize ≤ bridgeMaximumPayloadSize
  hello : d.channel = .hello ↔ d.helloReceived = false
  helloSize : d.channel = .hello → d.payloadSize = 1

/-- A header that is refused ends the stream, with the frames before it. -/
theorem beginFrame_error {c c' : Consuming} (h : beginFrame c = .error c') :
    c'.decoder.failed = true ∧ c'.result.frames = c.result.frames := by
  unfold beginFrame at h
  simp only at h
  split at h
  · cases h
    exact ⟨rfl, rfl⟩
  iterate 4
    split at h
    · cases h
      exact ⟨rfl, rfl⟩
  cases h

/-- An accepted header awaits its payload. -/
theorem beginFrame_ok {c c' : Consuming} (h : beginFrame c = .ok c') :
    c'.result = c.result ∧ c'.decoder.header = c.decoder.header ∧ c'.decoder.payload = [] ∧
      c'.decoder.helloReceived = c.decoder.helloReceived ∧
      c'.decoder.failed = c.decoder.failed ∧ Begun c'.decoder := by
  unfold beginFrame at h
  simp only at h
  split at h
  · cases h
  next hknown =>
  split at h
  · cases h
  next hsize =>
  split at h
  · cases h
  next hfirst =>
  split at h
  · cases h
  next honce =>
  split at h
  · cases h
  next hhelloSize =>
  cases h
  -- the five refusals are the header's checks: what is left has passed every one
  refine ⟨rfl, rfl, rfl, rfl, rfl, ?_⟩
  constructor
  · rfl
  · simpa using hknown
  · rfl
  · exact Nat.le_of_not_lt hsize
  · cases hreceived : c.decoder.helloReceived <;> simp_all
  · intro hhello
    simp_all

/-- The frame can be sent. -/
structure Encodable (frame : BridgeFrame) : Prop where
  known : isKnownBridgeChannel frame.channel
  payload_le : frame.payload.length ≤ bridgeMaximumPayloadSize
  hello : frame.channel = .hello →
    frame.payload.length = 1 ∧ frame.payload.getD 0 0 = bridgeProtocolVersion

def frameHeader (frame : BridgeFrame) : List UInt8 :=
  appendBigEndian32 [frame.channel.toByte] frame.payload.length.toUInt32

/-- The bytes that carry a frame. -/
def encoding (frame : BridgeFrame) : List UInt8 :=
  (encodeBridgeFrame frame.channel (.bytes frame.payload)).bytes

/-- The header, then the payload. -/
theorem encodeBridgeFrame_of_encodable {frame : BridgeFrame} (h : Encodable frame) :
    encodeBridgeFrame frame.channel (.bytes frame.payload) =
      { success := true, bytes := frameHeader frame ++ frame.payload } := by
  have hknown := h.known
  have hhello := h.hello
  have hsize : ¬(ByteSpan.bytes frame.payload).size > bridgeMaximumPayloadSize :=
    Nat.not_lt.mpr h.payload_le
  rw [encodeBridgeFrame, if_neg (by simpa using hknown), if_neg hsize,
    if_neg (by simp [ByteSpan.isNull]), if_neg (by grind [ByteSpan.size]),
    if_neg (by grind [ByteSpan.data])]
  rfl

/-- What is refused is what cannot be encoded. -/
theorem success_encodeBridgeFrame_iff (frame : BridgeFrame) :
    (encodeBridgeFrame frame.channel (.bytes frame.payload)).success = true ↔ Encodable frame := by
  constructor
  · intro h
    unfold encodeBridgeFrame at h
    simp only [ByteSpan.size, ByteSpan.data, ByteSpan.isNull] at h
    constructor <;> grind
  · intro h
    rw [encodeBridgeFrame_of_encodable h]

theorem encoding_eq {frame : BridgeFrame} (h : Encodable frame) :
    encoding frame = frameHeader frame ++ frame.payload := by
  rw [encoding, encodeBridgeFrame_of_encodable h]

/-- The length fits into its four bytes. -/
theorem toNat_payloadLength {frame : BridgeFrame} (h : Encodable frame) :
    frame.payload.length.toUInt32.toNat = frame.payload.length := by
  have hle := h.payload_le
  unfold bridgeMaximumPayloadSize at hle
  show (UInt32.ofNat frame.payload.length).toNat = frame.payload.length
  rw [UInt32.toNat_ofNat']
  omega

/-- The header of a frame that may come next begins it. -/
theorem beginFrame_of_header {c : Consuming} {frame : BridgeFrame} (h : Encodable frame)
    (hhello : frame.channel = .hello ↔ c.decoder.helloReceived = false)
    (hheader : c.decoder.header = frameHeader frame) :
    ∃ c', beginFrame c = .ok c' ∧ c'.decoder.channel = frame.channel ∧
      c'.decoder.payloadSize = frame.payload.length := by
  have hchannel : BridgeChannel.ofByte (c.decoder.header.getD 0 0) = frame.channel := by
    rw [hheader]
    exact ofByte_toByte h.known
  have hsize : (loadBigEndian32 (c.decoder.header.drop 1)).toNat = frame.payload.length := by
    rw [hheader, ← toNat_payloadLength h, ← loadBigEndian32_appendBigEndian32 frame.payload.length.toUInt32]
    rfl
  cases hresult : beginFrame c with
  | error c' =>
      exfalso
      unfold beginFrame at hresult
      simp only [hchannel, hsize, h.known] at hresult
      have hle := h.payload_le
      have hone := h.hello
      cases hreceived : c.decoder.helloReceived <;> grind
  | ok c' =>
      obtain ⟨_, hheader', _, _, _, hbegun⟩ := beginFrame_ok hresult
      refine ⟨c', rfl, ?_, ?_⟩
      · rw [hbegun.channel, hheader', hchannel]
      · rw [hbegun.payloadSize, hheader', hsize]

/-- A frame that is refused ends the stream, with the frames before it. -/
theorem finishFrame_error {c c' : Consuming} (h : finishFrame c = .error c') :
    c'.decoder.failed = true ∧ c'.result.frames = c.result.frames := by
  unfold finishFrame at h
  split at h
  · cases h
    exact ⟨rfl, rfl⟩
  · cases h

/-- A frame is completed, and the next header awaited. -/
theorem finishFrame_ok {c c' : Consuming} (h : finishFrame c = .ok c') :
    c'.result = { c.result with
      frames := c.result.frames ++ [{ channel := c.decoder.channel, payload := c.decoder.payload }] } ∧
    c'.decoder.header = [] ∧ c'.decoder.payload = [] ∧
    c'.decoder.helloReceived = (c.decoder.helloReceived || c.decoder.channel = .hello) ∧
    c'.decoder.failed = c.decoder.failed ∧
    (c.decoder.channel = .hello → c.decoder.payload.getD 0 0 = bridgeProtocolVersion) := by
  unfold finishFrame at h
  split at h
  · cases h
  next hversion =>
    cases h
    refine ⟨rfl, rfl, rfl, rfl, rfl, ?_⟩
    intro hhello
    simpa [hhello] using hversion

/-! ### One byte at a time

The machine that the loop is compared with. It has a case for each state of the decoder and no loop.
-/

/-- What `beginFrame` or `finishFrame` leaves, whether or not it failed. -/
def outcome : Except Consuming Consuming → Consuming
  | .error c => c
  | .ok c => c

/-- Begin a frame whose header is complete; without a payload it is finished at once. -/
def begun (c : Consuming) : Except Consuming Consuming :=
  match beginFrame c with
  | .error c => .error c
  | .ok c => if c.decoder.payloadSize = 0 then finishFrame c else .ok c

/-- What follows on bytes of the header. -/
def headerAdded (c : Consuming) : Except Consuming Consuming :=
  if c.decoder.header.length < bridgeFrameHeaderSize then .ok c else begun c

/-- What follows on bytes of the payload. -/
def payloadAdded (c : Consuming) : Except Consuming Consuming :=
  if c.decoder.payload.length = c.decoder.payloadSize then finishFrame c else .ok c

/-- The decoder given one byte. -/
def receiveByte (c : Consuming) (byte : UInt8) : Consuming :=
  if c.decoder.failed then c
  else if c.decoder.header.length < bridgeFrameHeaderSize then
    outcome (headerAdded { c with decoder := c.decoder.addHeader [byte] })
  else outcome (payloadAdded { c with decoder := c.decoder.addPayload [byte] })

/-- Between two rounds of the loop: in the header there is no payload yet, and in the payload some
of it is missing. -/
def Aligned (d : BridgeFrameDecoder) : Prop :=
  if d.header.length < bridgeFrameHeaderSize then d.payload = []
  else d.payload.length < d.payloadSize

/-- After a failure bytes are dropped. -/
theorem foldl_receiveByte_failed {c : Consuming} (h : c.decoder.failed = true)
    (data : List UInt8) : data.foldl receiveByte c = c := by
  induction data with
  | nil => rfl
  | cons byte data ih => rw [List.foldl_cons, receiveByte, if_pos h, ih]

/-- Bytes of one header, one at a time, are those bytes at once. -/
theorem foldl_receiveByte_header {c : Consuming} (hfailed : c.decoder.failed = false)
    {data : List UInt8} (hdata : data ≠ [])
    (hlength : c.decoder.header.length + data.length ≤ bridgeFrameHeaderSize) :
    data.foldl receiveByte c =
      outcome (headerAdded { c with decoder := c.decoder.addHeader data }) := by
  have hcollect := @Lists.foldl_collect _ _ receiveByte
    (fun data => { c with decoder := c.decoder.addHeader data }) (fun c => outcome (headerAdded c))
    (bridgeFrameHeaderSize - c.decoder.header.length) ?_ ?_ data hdata (by omega)
  · simpa only [addHeader_nil] using hcollect
  · intro data byte hdata
    have hheader : (c.decoder.addHeader data).header = c.decoder.header ++ data :=
      addHeader_header (by omega)
    rw [receiveByte, if_neg (by simpa [addHeader] using hfailed), if_pos, ← addHeader_append]
    rw [hheader, List.length_append]
    omega
  · intro data hdata
    have hheader : (c.decoder.addHeader data).header = c.decoder.header ++ data :=
      addHeader_header (by omega)
    rw [headerAdded, if_pos]
    · rfl
    · rw [hheader, List.length_append]
      omega

/-- Bytes of one payload, one at a time, are those bytes at once. -/
theorem foldl_receiveByte_payload {c : Consuming} (hfailed : c.decoder.failed = false)
    (hheader : ¬c.decoder.header.length < bridgeFrameHeaderSize)
    {data : List UInt8} (hdata : data ≠ [])
    (hlength : c.decoder.payload.length + data.length ≤ c.decoder.payloadSize) :
    data.foldl receiveByte c =
      outcome (payloadAdded { c with decoder := c.decoder.addPayload data }) := by
  have hcollect := @Lists.foldl_collect _ _ receiveByte
    (fun data => { c with decoder := c.decoder.addPayload data }) (fun c => outcome (payloadAdded c))
    (c.decoder.payloadSize - c.decoder.payload.length) ?_ ?_ data hdata (by omega)
  · simpa only [addPayload_nil] using hcollect
  · intro data byte hdata
    rw [receiveByte, if_neg (by simpa [addPayload] using hfailed), if_neg, ← addPayload_append]
    exact hheader
  · intro data hdata
    have hpayload : (c.decoder.addPayload data).payload = c.decoder.payload ++ data :=
      addPayload_payload (by omega)
    rw [payloadAdded, if_neg]
    · rfl
    · rw [hpayload, List.length_append]
      show ¬_ = c.decoder.payloadSize
      omega

/-! ### The loop

A round of the loop copies bytes up to the end of the header or of the payload, and then does what
the machine does at the last of these bytes. -/

/-- What a round leaves to do is what is left to do byte by byte. -/
def Follows (c : Consuming) (data : List UInt8) :
    Except Consuming (Consuming × List UInt8) → Prop
  | .error c' => c'.decoder.failed = true ∧ data.foldl receiveByte c = c'
  | .ok (c', rest) => c'.decoder.failed = false ∧ Aligned c'.decoder ∧
      data.foldl receiveByte c = rest.foldl receiveByte c'

/-- Between two frames nothing is held. -/
theorem aligned_of_finishFrame {c c' : Consuming} (h : finishFrame c = .ok c') :
    Aligned c'.decoder := by
  obtain ⟨_, hheader, hpayload, _⟩ := finishFrame_ok h
  rw [Aligned, if_pos]
  · exact hpayload
  · rw [hheader]
    decide

/-- When the last of the copied bytes finished a frame, the rest is still to come. -/
theorem follows_finishFrame {c c' : Consuming} {data rest : List UInt8}
    (hfailed : c'.decoder.failed = false)
    (hsplit : data.foldl receiveByte c = rest.foldl receiveByte (outcome (finishFrame c'))) :
    Follows c data
      (match finishFrame c' with
      | .error c => .error c
      | .ok c => .ok (c, rest)) := by
  cases hfinish : finishFrame c' with
  | error c'' =>
      rw [hfinish] at hsplit
      have hfailed' := (finishFrame_error hfinish).1
      exact ⟨hfailed', hsplit.trans (foldl_receiveByte_failed hfailed' _)⟩
  | ok c'' =>
      rw [hfinish] at hsplit
      have hfailed' := (finishFrame_ok hfinish).2.2.2.2.1
      exact ⟨hfailed'.trans hfailed, aligned_of_finishFrame hfinish, hsplit⟩

/-- A payload is copied at once, as it would be byte by byte. -/
theorem consumePayload_follows {c : Consuming} (hfailed : c.decoder.failed = false)
    (hheader : ¬c.decoder.header.length < bridgeFrameHeaderSize)
    (hpayload : c.decoder.payload.length < c.decoder.payloadSize) (data : List UInt8) :
    Follows c data (consumePayload c data) := by
  -- nothing is left to copy
  by_cases hdata : data = []
  · subst hdata
    simp only [consumePayload, addPayload_nil, List.drop_nil]
    rw [if_neg (by omega)]
    refine ⟨hfailed, ?_, rfl⟩
    rw [Aligned, if_neg hheader]
    exact hpayload
  have hpos := List.length_pos_iff.mpr hdata
  let missing := c.decoder.payloadSize - c.decoder.payload.length
  have htaken : data.take missing ≠ [] := by
    rw [← List.length_pos_iff, List.length_take]
    omega
  have hlength : c.decoder.payload.length + (data.take missing).length ≤ c.decoder.payloadSize := by
    rw [List.length_take]
    omega
  have hfold := foldl_receiveByte_payload hfailed hheader htaken hlength
  rw [addPayload_take] at hfold
  have hsplit : data.foldl receiveByte c =
      (data.drop missing).foldl receiveByte ((data.take missing).foldl receiveByte c) := by
    rw [← List.foldl_append, List.take_append_drop]
  rw [hfold] at hsplit
  simp only [consumePayload]
  split
  -- the copied bytes complete the payload
  next hcomplete =>
    rw [payloadAdded, if_pos hcomplete] at hsplit
    exact follows_finishFrame hfailed hsplit
  -- or they are all that is left
  next hincomplete =>
    rw [payloadAdded, if_neg hincomplete] at hsplit
    refine ⟨hfailed, ?_, hsplit⟩
    rw [Aligned, if_neg]
    · exact lt_of_le_of_ne (c.decoder.addPayload data).payload_le hincomplete
    · exact hheader

/-- So is a header. -/
theorem consumeRound_follows {c : Consuming} (hfailed : c.decoder.failed = false)
    (haligned : Aligned c.decoder) {data : List UInt8} (hdata : data ≠ []) :
    Follows c data (consumeRound c data) := by
  unfold consumeRound
  split
  next hheader =>
    have hpos := List.length_pos_iff.mpr hdata
    let missing := bridgeFrameHeaderSize - c.decoder.header.length
    have htaken : data.take missing ≠ [] := by
      rw [← List.length_pos_iff, List.length_take]
      omega
    have hlength : c.decoder.header.length + (data.take missing).length ≤ bridgeFrameHeaderSize := by
      rw [List.length_take]
      omega
    have hfold := foldl_receiveByte_header hfailed htaken hlength
    rw [addHeader_take] at hfold
    have hsplit : data.foldl receiveByte c =
        (data.drop missing).foldl receiveByte ((data.take missing).foldl receiveByte c) := by
      rw [← List.foldl_append, List.take_append_drop]
    rw [hfold] at hsplit
    simp only
    split
    next hpartial =>
      rw [headerAdded, if_pos hpartial] at hsplit
      refine ⟨hfailed, ?_, hsplit⟩
      rw [Aligned, if_pos hheader] at haligned
      rw [Aligned, if_pos hpartial]
      exact haligned
    next hfull =>
      rw [headerAdded, if_neg hfull, begun] at hsplit
      cases hbegin : beginFrame { c with decoder := c.decoder.addHeader data } with
      | error c' =>
          rw [hbegin] at hsplit
          have hfailed' := (beginFrame_error hbegin).1
          exact ⟨hfailed', hsplit.trans (foldl_receiveByte_failed hfailed' _)⟩
      | ok c' =>
          obtain ⟨_, hheader', hpayload, _, hsame, _⟩ := beginFrame_ok hbegin
          have hfailed' : c'.decoder.failed = false := hsame.trans hfailed
          rw [hbegin] at hsplit
          simp only at hsplit ⊢
          split
          next hempty =>
            rw [if_pos hempty] at hsplit
            exact follows_finishFrame hfailed' hsplit
          next hnonempty =>
            -- On to the payload in the same round.
            rw [if_neg hnonempty] at hsplit
            have hfollows := consumePayload_follows hfailed' (by rwa [hheader'])
              (by rw [hpayload]; exact Nat.pos_of_ne_zero hnonempty) (data.drop missing)
            cases hround : consumePayload c' (data.drop missing) with
            | error c'' =>
                rw [hround] at hfollows
                exact ⟨hfollows.1, hsplit.trans hfollows.2⟩
            | ok result =>
                rw [hround] at hfollows
                exact ⟨hfollows.1, hfollows.2.1, hsplit.trans hfollows.2.2⟩
  next hheader =>
    rw [Aligned, if_neg hheader] at haligned
    exact consumePayload_follows hfailed hheader haligned data

/-- The loop does what the machine does. -/
theorem consumeLoop_eq_foldl {c : Consuming} (hfailed : c.decoder.failed = false)
    (haligned : Aligned c.decoder) (data : List UInt8) :
    consumeLoop c data = data.foldl receiveByte c := by
  induction c, data using consumeLoop.induct with
  | case1 c => rw [consumeLoop, dif_pos rfl, List.foldl_nil]
  | case2 c data hdata c' hround =>
      have hfollows := consumeRound_follows hfailed haligned hdata
      rw [hround] at hfollows
      rw [consumeLoop, dif_neg hdata, hfollows.2]
      split
      next hround' => grind
      next hround' => grind
  | case3 c data hdata c' rest hround ih =>
      have hfollows := consumeRound_follows hfailed haligned hdata
      rw [hround] at hfollows
      rw [consumeLoop, dif_neg hdata, hfollows.2.2, ← ih hfollows.1 hfollows.2.1]
      split
      next hround' => grind
      next hround' => grind

/-! ### Calls

`consume` returns the frames of one call. For a run of calls they are put behind one another, and
what was emitted before plays no part in what follows. -/

/-- Frames that were finished in calls before. -/
def prepend (earlier : List BridgeFrame) (c : Consuming) : Consuming :=
  { c with result := { c.result with frames := earlier ++ c.result.frames } }

/-- Both ways out with the earlier frames. -/
def prependBoth (earlier : List BridgeFrame) : Except Consuming Consuming → Except Consuming Consuming
  | .error c => .error (prepend earlier c)
  | .ok c => .ok (prepend earlier c)

variable (earlier : List BridgeFrame) (c : Consuming)

theorem beginFrame_prepend :
    beginFrame (prepend earlier c) = prependBoth earlier (beginFrame c) := by
  unfold beginFrame
  simp only [apply_ite (prependBoth earlier)]
  rfl

theorem finishFrame_prepend :
    finishFrame (prepend earlier c) = prependBoth earlier (finishFrame c) := by
  unfold finishFrame
  simp only [apply_ite (prependBoth earlier)]
  simp only [prepend, prependBoth, List.append_assoc]
  rfl

theorem begun_prepend : begun (prepend earlier c) = prependBoth earlier (begun c) := by
  rw [begun, begun, beginFrame_prepend]
  cases beginFrame c with
  | error c => rfl
  | ok c =>
      simp only [prependBoth]
      show (if c.decoder.payloadSize = 0 then _ else _) = _
      split
      · rw [finishFrame_prepend]
        rfl
      · rfl

theorem headerAdded_prepend :
    headerAdded (prepend earlier c) = prependBoth earlier (headerAdded c) := by
  rw [headerAdded, headerAdded, begun_prepend]
  show (if c.decoder.header.length < bridgeFrameHeaderSize then _ else _) = _
  split <;> rfl

theorem payloadAdded_prepend :
    payloadAdded (prepend earlier c) = prependBoth earlier (payloadAdded c) := by
  rw [payloadAdded, payloadAdded, finishFrame_prepend]
  show (if c.decoder.payload.length = c.decoder.payloadSize then _ else _) = _
  split <;> rfl

theorem outcome_prependBoth (result : Except Consuming Consuming) :
    outcome (prependBoth earlier result) = prepend earlier (outcome result) := by
  cases result <;> rfl

/-- Frames that were there before take no part. -/
theorem receiveByte_prepend (byte : UInt8) :
    receiveByte (prepend earlier c) byte = prepend earlier (receiveByte c byte) := by
  have hheader := headerAdded_prepend earlier { c with decoder := c.decoder.addHeader [byte] }
  have hpayload := payloadAdded_prepend earlier { c with decoder := c.decoder.addPayload [byte] }
  unfold receiveByte
  show (if c.decoder.failed = true then _ else
    if c.decoder.header.length < bridgeFrameHeaderSize then _ else _) = _
  split
  · rfl
  split
  · rw [← outcome_prependBoth, ← hheader]
    rfl
  · rw [← outcome_prependBoth, ← hpayload]
    rfl

/-- Nor do they in a run. -/
theorem foldl_receiveByte_prepend (data : List UInt8) :
    data.foldl receiveByte (prepend earlier c) = prepend earlier (data.foldl receiveByte c) := by
  induction data generalizing c with
  | nil => rfl
  | cons byte data ih => rw [List.foldl_cons, receiveByte_prepend, ih, List.foldl_cons]

/-! ### The frames and the bytes

The invariant and its step. A failure ends the statement about the rest of the input, but what was
emitted stays an initial part of it. -/

/-- The first frame is the only hello. -/
def HelloFirst (frames : List BridgeFrame) : Prop :=
  (∀ frame ∈ frames.head?, frame.channel = .hello) ∧ ∀ frame ∈ frames.tail, frame.channel ≠ .hello

/-- The frames of the result were in the input. -/
structure Sound (c : Consuming) (input : List UInt8) : Prop where
  encodable : ∀ frame ∈ c.result.frames, Encodable frame
  helloFirst : HelloFirst c.result.frames
  isPrefix : c.result.frames.flatMap encoding <+: input

/-- As long as there was no failure, what is in the decoder is all the rest of the input. -/
structure Running (c : Consuming) (input : List UInt8) : Prop where
  aligned : Aligned c.decoder
  result : c.result = { frames := c.result.frames }
  hello : c.decoder.helloReceived = false ↔ c.result.frames = []
  begun : ¬c.decoder.header.length < bridgeFrameHeaderSize → Begun c.decoder
  tiled : input = c.result.frames.flatMap encoding ++ (c.decoder.header ++ c.decoder.payload)

/-- What was decoded, and what is held of the next frame, tell of the input. -/
structure Decoded (c : Consuming) (input : List UInt8) : Prop where
  sound : Sound c input
  running : c.decoder.failed = false → Running c input

/-- More input does not make a frame wrong. -/
theorem Sound.mono {c c' : Consuming} {input more : List UInt8} (h : Sound c input)
    (hframes : c'.result.frames = c.result.frames) : Sound c' (input ++ more) where
  encodable := by rw [hframes]; exact h.encodable
  helloFirst := by rw [hframes]; exact h.helloFirst
  isPrefix := by rw [hframes]; exact h.isPrefix.trans (List.prefix_append _ _)

/-- After a failure nothing is said of the rest of the input. -/
theorem Decoded.of_failed {c c' : Consuming} {input more : List UInt8} (h : Sound c input)
    (hfailed : c'.decoder.failed = true) (hframes : c'.result.frames = c.result.frames) :
    Decoded c' (input ++ more) where
  sound := h.mono hframes
  running hnot := by rw [hfailed] at hnot; cases hnot

/-- A header and the payload it announced are the encoding of the frame. -/
theorem encoding_of_begun {d : BridgeFrameDecoder} (h : Begun d)
    (hheader : d.header.length = bridgeFrameHeaderSize)
    (hpayload : d.payload.length = d.payloadSize)
    (hencodable : Encodable { channel := d.channel, payload := d.payload }) :
    encoding { channel := d.channel, payload := d.payload } = d.header ++ d.payload := by
  obtain ⟨b₀, b₁, b₂, b₃, b₄, hbytes⟩ : ∃ b₀ b₁ b₂ b₃ b₄, d.header = [b₀, b₁, b₂, b₃, b₄] := by
    match hbytes : d.header with
    | [b₀, b₁, b₂, b₃, b₄] => exact ⟨b₀, b₁, b₂, b₃, b₄, rfl⟩
    | [] | [_] | [_, _] | [_, _, _] | [_, _, _, _] | _ :: _ :: _ :: _ :: _ :: _ :: _ =>
      rw [hbytes] at hheader
      simp [bridgeFrameHeaderSize] at hheader
  have hchannel : d.channel.toByte = b₀ := by
    rw [h.channel, hbytes]
    exact BridgeChannel.toByte_ofByte b₀
  have hsize : d.payload.length.toUInt32 = loadBigEndian32 [b₁, b₂, b₃, b₄] := by
    rw [hpayload, h.payloadSize, hbytes]
    exact UInt32.ofNat_toNat
  rw [encoding_eq hencodable, frameHeader, hchannel, hsize, appendBigEndian32_loadBigEndian32, hbytes]
  rfl

/-- The hello frame comes first and only there. -/
theorem helloFirst_append {frames : List BridgeFrame} {frame : BridgeFrame}
    (h : HelloFirst frames) (hhello : frame.channel = .hello ↔ frames = []) :
    HelloFirst (frames ++ [frame]) := by
  cases frames with
  | nil => exact ⟨by simpa using hhello.mpr rfl, by simp⟩
  | cons first rest =>
      have hother : frame.channel ≠ .hello := by
        intro hchannel
        cases hhello.mp hchannel
      refine ⟨h.1, ?_⟩
      intro frame' hmem
      rw [List.cons_append, List.tail_cons, List.mem_append, List.mem_singleton] at hmem
      rcases hmem with hmem | rfl
      · exact h.2 frame' hmem
      · exact hother

/-- A frame whose payload is complete is one more frame of the input. -/
theorem decoded_finishFrame {c c' : Consuming} {input more : List UInt8} (hsound : Sound c input)
    (hframes : c'.result = c.result) (hresult : c.result = { frames := c.result.frames })
    (hhello : c'.decoder.helloReceived = false ↔ c.result.frames = [])
    (hheader : c'.decoder.header.length = bridgeFrameHeaderSize) (hbegun : Begun c'.decoder)
    (hpayload : c'.decoder.payload.length = c'.decoder.payloadSize)
    (htiled : input ++ more =
      c.result.frames.flatMap encoding ++ (c'.decoder.header ++ c'.decoder.payload)) :
    Decoded (outcome (finishFrame c')) (input ++ more) := by
  cases hfinish : finishFrame c' with
  -- a hello of another version, or one that is out of place
  | error c'' =>
      obtain ⟨hfailed, hsame⟩ := finishFrame_error hfinish
      exact .of_failed hsound hfailed (hsame.trans (congrArg _ hframes))
  | ok c'' =>
      obtain ⟨hresult', hheader', hpayload', hhello', _, hversion⟩ := finishFrame_ok hfinish
      let frame : BridgeFrame := { channel := c'.decoder.channel, payload := c'.decoder.payload }
      have hframes' : c''.result.frames = c.result.frames ++ [frame] := by
        rw [hresult', hframes]
      have hencodable : Encodable frame := by
        refine ⟨hbegun.known, hpayload.trans_le hbegun.payloadSize_le, ?_⟩
        intro hchannel
        exact ⟨hpayload.trans (hbegun.helloSize hchannel), hversion hchannel⟩
      have hencoding : encoding frame = c'.decoder.header ++ c'.decoder.payload :=
        encoding_of_begun hbegun hheader hpayload hencodable
      have hinput : input ++ more = c''.result.frames.flatMap encoding := by
        rw [htiled, hframes', List.flatMap_append, List.flatMap_singleton, hencoding]
      constructor
      · constructor
        · intro frame' hmem
          rw [outcome, hframes', List.mem_append, List.mem_singleton] at hmem
          rcases hmem with hmem | rfl
          · exact hsound.encodable frame' hmem
          · exact hencodable
        · rw [outcome, hframes']
          exact helloFirst_append hsound.helloFirst (hbegun.hello.trans hhello)
        · rw [hinput]
          exact List.prefix_rfl
      · intro _
        constructor
        · exact aligned_of_finishFrame hfinish
        · rw [outcome, hresult', hframes, hresult]
        · -- a hello has come exactly if there are frames
          rw [outcome, hframes', hhello']
          constructor
          · intro hnone
            rw [Bool.or_eq_false_iff] at hnone
            have hchannel := hbegun.hello.mpr hnone.1
            simp [hchannel] at hnone
          · intro hnil
            exact absurd hnil (List.append_ne_nil_of_right_ne_nil _ (List.cons_ne_nil _ _))
        · intro hfull
          rw [outcome, hheader'] at hfull
          exact absurd (by decide) hfull
        · rw [outcome, hheader', hpayload', hinput, List.append_nil, List.append_nil]

/-- One more byte in the header. -/
theorem decoded_headerAdded {c : Consuming} {input : List UInt8} (hsound : Sound c input)
    (hrunning : Running c input) (hheader : c.decoder.header.length < bridgeFrameHeaderSize)
    (byte : UInt8) :
    Decoded (outcome (headerAdded { c with decoder := c.decoder.addHeader [byte] }))
      (input ++ [byte]) := by
  have hadded : (c.decoder.addHeader [byte]).header = c.decoder.header ++ [byte] :=
    addHeader_header hheader
  have hempty : c.decoder.payload = [] := by
    have haligned := hrunning.aligned
    rwa [Aligned, if_pos hheader] at haligned
  have htiled : input ++ [byte] =
      c.result.frames.flatMap encoding ++ (c.decoder.addHeader [byte]).header := by
    rw [hadded, hrunning.tiled, hempty, List.append_nil, List.append_assoc]
  rw [headerAdded]
  split
  -- the header is not complete yet
  next hpartial =>
    refine ⟨hsound.mono rfl, fun _ => ?_⟩
    constructor
    · rw [outcome, Aligned, if_pos hpartial]
      exact hempty
    · exact hrunning.result
    · exact hrunning.hello
    · exact fun hfull => absurd hpartial hfull
    · rw [htiled]
      show _ = _ ++ (_ ++ c.decoder.payload)
      rw [hempty, List.append_nil]
      rfl
  -- with its last byte it begins a frame, or is refused
  next hfull =>
    have hlength : (c.decoder.addHeader [byte]).header.length = bridgeFrameHeaderSize :=
      le_antisymm (c.decoder.addHeader [byte]).header_le (Nat.le_of_not_lt hfull)
    rw [begun]
    cases hbegin : beginFrame { c with decoder := c.decoder.addHeader [byte] } with
    | error c' =>
        obtain ⟨hfailed', hsame⟩ := beginFrame_error hbegin
        exact .of_failed hsound hfailed' hsame
    | ok c' =>
        obtain ⟨hresult, hheader', hpayload, hhello, hsame, hbegun⟩ := beginFrame_ok hbegin
        have hlength' : c'.decoder.header.length = bridgeFrameHeaderSize := by
          rw [hheader', hlength]
        have htiled' : input ++ [byte] =
            c.result.frames.flatMap encoding ++ (c'.decoder.header ++ c'.decoder.payload) := by
          rw [hpayload, List.append_nil, hheader', htiled]
        have hhello' : c'.decoder.helloReceived = false ↔ c.result.frames = [] := by
          rw [hhello]
          exact hrunning.hello
        simp only
        split
        -- a frame without a payload is finished at once
        next hnone =>
          exact decoded_finishFrame hsound hresult hrunning.result hhello' hlength' hbegun
            (by rw [hpayload, hnone]; rfl) htiled'
        -- the payload is awaited
        next hsome =>
          have hframes : c'.result.frames = c.result.frames := congrArg _ hresult
          refine ⟨hsound.mono hframes, fun _ => ?_⟩
          constructor
          · rw [outcome, Aligned, if_neg (by omega), hpayload]
            exact Nat.pos_of_ne_zero hsome
          · rw [outcome, hresult]
            exact hrunning.result
          · rw [outcome, hframes]
            exact hhello'
          · exact fun _ => hbegun
          · rw [outcome, hframes, htiled']

/-- One more byte in the payload. -/
theorem decoded_payloadAdded {c : Consuming} {input : List UInt8} (hsound : Sound c input)
    (hrunning : Running c input) (hheader : ¬c.decoder.header.length < bridgeFrameHeaderSize)
    (byte : UInt8) :
    Decoded (outcome (payloadAdded { c with decoder := c.decoder.addPayload [byte] }))
      (input ++ [byte]) := by
  have hlength : c.decoder.header.length = bridgeFrameHeaderSize :=
    le_antisymm c.decoder.header_le (Nat.le_of_not_lt hheader)
  have hmissing : c.decoder.payload.length < c.decoder.payloadSize := by
    have haligned := hrunning.aligned
    rwa [Aligned, if_neg hheader] at haligned
  have hadded : (c.decoder.addPayload [byte]).payload = c.decoder.payload ++ [byte] :=
    addPayload_payload hmissing
  have htiled : input ++ [byte] = c.result.frames.flatMap encoding ++
      (c.decoder.header ++ (c.decoder.addPayload [byte]).payload) := by
    rw [hadded, hrunning.tiled, List.append_assoc, List.append_assoc]
  -- The header is as it was, and so is what it announced.
  have hbegun : Begun (c.decoder.addPayload [byte]) := by
    have h := hrunning.begun hheader
    exact ⟨h.channel, h.known, h.payloadSize, h.payloadSize_le, h.hello, h.helloSize⟩
  rw [payloadAdded]
  split
  next hcomplete =>
    exact decoded_finishFrame hsound rfl hrunning.result hrunning.hello hlength hbegun hcomplete
      htiled
  next hincomplete =>
    refine ⟨hsound.mono rfl, fun _ => ?_⟩
    constructor
    · rw [outcome, Aligned, if_neg]
      · exact lt_of_le_of_ne (c.decoder.addPayload [byte]).payload_le hincomplete
      · exact hheader
    · exact hrunning.result
    · exact hrunning.hello
    · exact fun _ => hbegun
    · exact htiled

/-- One byte keeps the invariant; each of its outcomes is a case. -/
theorem decoded_receiveByte {c : Consuming} {input : List UInt8} (h : Decoded c input)
    (byte : UInt8) : Decoded (receiveByte c byte) (input ++ [byte]) := by
  unfold receiveByte
  split
  next hfailed => exact .of_failed h.sound hfailed rfl
  next hnot =>
    have hfailed : c.decoder.failed = false := Bool.eq_false_iff.mpr hnot
    have hrunning := h.running hfailed
    split
    next hheader => exact decoded_headerAdded h.sound hrunning hheader byte
    next hheader => exact decoded_payloadAdded h.sound hrunning hheader byte

/-- So do any bytes. -/
theorem decoded_foldl_receiveByte {c : Consuming} {input : List UInt8} (h : Decoded c input)
    (data : List UInt8) : Decoded (data.foldl receiveByte c) (input ++ data) := by
  induction data generalizing c input with
  | nil => rwa [List.append_nil]
  | cons byte data ih =>
      have hnext := ih (decoded_receiveByte h byte)
      rwa [List.append_assoc] at hnext

theorem decoded_initial : Decoded {} [] where
  sound := ⟨by simp, ⟨by simp, by simp⟩, List.prefix_rfl⟩
  running _ := ⟨rfl, rfl, by simp, fun h => absurd (by decide) h, rfl⟩

/-! ### Chunks -/

/-- A decoder with the frames it has made is what the bytes so far made of a new one. -/
theorem consumeAll_eq_foldl {c : Consuming} {input : List UInt8} (h : Decoded c input)
    (chunks : List (List UInt8)) :
    ((consumeAll c.decoder (chunks.map .bytes)).1,
        c.result.frames ++ (consumeAll c.decoder (chunks.map .bytes)).2) =
      ((chunks.flatten.foldl receiveByte c).decoder,
        (chunks.flatten.foldl receiveByte c).result.frames) := by
  induction chunks generalizing c input with
  | nil =>
      show (c.decoder, c.result.frames ++ []) = _
      rw [List.append_nil]
      rfl
  | cons chunk chunks ih =>
      rw [List.map_cons, List.flatten_cons, List.foldl_append]
      cases hfailed : c.decoder.failed with
      -- a decoder that has failed takes nothing, and the byte-wise one does neither
      | true =>
          have hconsume : c.decoder.consume (.bytes chunk) =
              (c.decoder, { success := false, error := c.decoder.error }) := by
            rw [consume, if_pos hfailed]
          have hrest := ih h
          rw [foldl_receiveByte_failed hfailed chunk]
          simp only [consumeAll, hconsume, List.nil_append]
          exact hrest
      -- a call starts with an empty result, so the frames of earlier calls are put in front
      | false =>
          have hrunning := h.running hfailed
          let c' : Consuming := { decoder := c.decoder }
          have hsplit : c = prepend c.result.frames c' := by
            have hresult := hrunning.result
            cases c
            simp only [prepend, c', List.append_nil] at hresult ⊢
            rw [← hresult]
          have hconsume : c.decoder.consume (.bytes chunk) =
              ((chunk.foldl receiveByte c').decoder, (chunk.foldl receiveByte c').result) := by
            rw [consume, if_neg (by simp [hfailed]), if_neg (by simp [ByteSpan.isNull])]
            exact congrArg (fun c : Consuming => (c.decoder, c.result))
              (@consumeLoop_eq_foldl c' hfailed hrunning.aligned chunk)
          have hfold : chunk.foldl receiveByte c =
              prepend c.result.frames (chunk.foldl receiveByte c') := by
            rw [← foldl_receiveByte_prepend, ← hsplit]
          have hrest := ih (decoded_foldl_receiveByte h chunk)
          rw [← hrest]
          simp only [consumeAll, hconsume, hfold, prepend, List.append_assoc]

/-! ### Encoded frames

The other direction: the encodings of frames in an admissible order are decoded to these frames. -/

/-- A frame that can be encoded is not refused. -/
theorem finishFrame_of_encodable {c : Consuming} {frame : BridgeFrame} (h : Encodable frame)
    (hchannel : c.decoder.channel = frame.channel) (hpayload : c.decoder.payload = frame.payload) :
    ∃ c', finishFrame c = .ok c' := by
  unfold finishFrame
  split
  next hversion =>
    rw [hchannel, hpayload] at hversion
    have hhello := h.hello
    simp_all
  · exact ⟨_, rfl⟩

/-- A frame that may come next is read from its encoding. -/
theorem foldl_receiveByte_encoding {c : Consuming} {input : List UInt8} (h : Decoded c input)
    (hfailed : c.decoder.failed = false) (hheader : c.decoder.header = []) {frame : BridgeFrame}
    (hframe : Encodable frame) (hhello : frame.channel = .hello ↔ c.result.frames = []) :
    ((encoding frame).foldl receiveByte c).decoder.failed = false ∧
      ((encoding frame).foldl receiveByte c).decoder.header = [] ∧
      ((encoding frame).foldl receiveByte c).result.frames = c.result.frames ++ [frame] := by
  have hlength : (frameHeader frame).length = bridgeFrameHeaderSize := rfl
  have hfold := @foldl_receiveByte_header c hfailed (frameHeader frame)
    (List.ne_nil_of_length_pos (by rw [hlength]; decide)) (by rw [hheader, hlength]; decide)
  have hadded : (c.decoder.addHeader (frameHeader frame)).header = frameHeader frame := by
    rw [addHeader_header (by rw [hheader, hlength]; decide), hheader, List.nil_append]
  have hreceived := (h.running hfailed).hello
  obtain ⟨c', hbegin, hchannel, hsize⟩ :=
    @beginFrame_of_header { c with decoder := c.decoder.addHeader (frameHeader frame) } frame hframe
      (hhello.trans hreceived.symm) hadded
  obtain ⟨hresult, hheader', hpayload, _, hsame, _⟩ := beginFrame_ok hbegin
  have hfailed' : c'.decoder.failed = false := hsame.trans hfailed
  rw [headerAdded, if_neg (by rw [hadded, hlength]; decide), begun, hbegin] at hfold
  rw [encoding_eq hframe, List.foldl_append, hfold]
  simp only
  -- In either case the payload is complete, and what is left is to finish the frame.
  have hfinished : ∀ c'' : Consuming, c''.decoder.channel = frame.channel →
      c''.decoder.payload = frame.payload → c''.decoder.failed = false → c''.result = c.result →
      (outcome (finishFrame c'')).decoder.failed = false ∧
        (outcome (finishFrame c'')).decoder.header = [] ∧
        (outcome (finishFrame c'')).result.frames = c.result.frames ++ [frame] := by
    intro c'' hchannel'' hpayload'' hfailed'' hresult''
    obtain ⟨c₁, hfinish⟩ := finishFrame_of_encodable hframe hchannel'' hpayload''
    obtain ⟨hresult₁, hheader₁, _, _, hfailed₁, _⟩ := finishFrame_ok hfinish
    rw [hfinish, outcome]
    refine ⟨hfailed₁.trans hfailed'', hheader₁, ?_⟩
    rw [hresult₁, hresult'', hchannel'', hpayload'']
  split
  next hnone =>
    have hnil : frame.payload = [] := List.eq_nil_of_length_eq_zero (hsize.symm.trans hnone)
    rw [hnil, List.foldl_nil]
    exact hfinished c' hchannel (by rw [hpayload, hnil]) hfailed' hresult
  next hsome =>
    have hne : frame.payload ≠ [] := by
      intro hnil
      rw [hnil] at hsize
      exact hsome hsize
    have hroom : c'.decoder.payload.length + frame.payload.length ≤ c'.decoder.payloadSize := by
      rw [hpayload, hsize, List.length_nil, Nat.zero_add]
    have hfilled : (c'.decoder.addPayload frame.payload).payload = frame.payload := by
      rw [addPayload_payload hroom, hpayload, List.nil_append]
    rw [outcome, foldl_receiveByte_payload hfailed' (by rw [hheader', hadded, hlength]; decide) hne
      hroom, payloadAdded, if_pos]
    · exact hfinished _ hchannel hfilled hfailed' hresult
    · rw [hfilled, ← hsize]
      rfl

/-- Frames in an admissible order are read from their encodings. -/
theorem foldl_receiveByte_encodings {c : Consuming} {input : List UInt8} (h : Decoded c input)
    (hfailed : c.decoder.failed = false) (hheader : c.decoder.header = [])
    {frames : List BridgeFrame} (hframes : ∀ frame ∈ frames, Encodable frame)
    (hhello : HelloFirst (c.result.frames ++ frames)) :
    ((frames.flatMap encoding).foldl receiveByte c).result.frames = c.result.frames ++ frames := by
  induction frames generalizing c input with
  | nil => rw [List.flatMap_nil, List.foldl_nil, List.append_nil]
  | cons frame frames ih =>
      -- the frame is a hello exactly if nothing has been decoded before it
      have hfirst : frame.channel = .hello ↔ c.result.frames = [] := by
        cases hearlier : c.result.frames with
        | nil =>
            rw [hearlier] at hhello
            exact ⟨fun _ => rfl, fun _ => hhello.1 frame rfl⟩
        | cons first earlier =>
            rw [hearlier] at hhello
            constructor
            · intro hchannel
              exact absurd hchannel (hhello.2 frame (by simp))
            · intro hnil
              cases hnil
      obtain ⟨hfailed', hheader', hresult⟩ :=
        foldl_receiveByte_encoding h hfailed hheader (hframes frame List.mem_cons_self) hfirst
      -- after one whole frame the decoder is at a frame boundary again
      have hnext := ih (decoded_foldl_receiveByte h (encoding frame)) hfailed' hheader'
        (fun frame' hmem => hframes frame' (List.mem_cons_of_mem _ hmem))
        (by rw [hresult, List.append_assoc]; exact hhello)
      rw [List.flatMap_cons, List.foldl_append, hnext, hresult, List.append_assoc]
      rfl

/-- After a failure no call returns a frame. -/
theorem consumeAll_of_failed {d : BridgeFrameDecoder} (h : d.failed = true)
    (chunks : List ByteSpan) : d.consumeAll chunks = (d, []) := by
  induction chunks with
  | nil => rfl
  | cons chunk chunks ih =>
      have hconsume : d.consume chunk = (d, { success := false, error := d.error }) := by
        rw [consume, if_pos h]
      simp only [consumeAll, hconsume, ih, List.append_nil]

/-- However a stream is cut, a new decoder ends the same and emits the same frames. The first of
them is the only hello, and what they are encoded as begins the stream; it is all of the stream if
that is written in frames of which the first is the only hello. A failed decoder emits nothing. -/
theorem consumeAll_stream (chunks : List (List UInt8)) :
    let run := consumeAll {} (chunks.map .bytes)
    run = consumeAll {} [.bytes chunks.flatten] ∧
      HelloFirst run.2 ∧
      (∀ frame ∈ run.2, (encodeBridgeFrame frame.channel (.bytes frame.payload)).success = true) ∧
      run.2.flatMap encoding <+: chunks.flatten ∧
      (∀ frames : List BridgeFrame,
        (∀ frame ∈ frames,
          (encodeBridgeFrame frame.channel (.bytes frame.payload)).success = true) →
        HelloFirst frames → frames.flatMap encoding = chunks.flatten →
        run.2 = frames ∧ run.2.flatMap encoding = chunks.flatten) ∧
      (run.1.failed = true → ∀ more : List ByteSpan, (run.1.consumeAll more).2 = []) := by
  have hrun (chunks : List (List UInt8)) :
      consumeAll {} (chunks.map .bytes) = ((chunks.flatten.foldl receiveByte {}).decoder,
        (chunks.flatten.foldl receiveByte {}).result.frames) :=
    consumeAll_eq_foldl decoded_initial chunks
  have hdecoded := decoded_foldl_receiveByte decoded_initial chunks.flatten
  have hsound := hdecoded.sound
  intro run
  have hrun' : run = _ := hrun chunks
  rw [hrun']
  refine ⟨?_, hsound.helloFirst, ?_, hsound.isPrefix, ?_, ?_⟩
  · -- one chunk with all the bytes
    have hone := hrun [chunks.flatten]
    rw [List.flatten_singleton] at hone
    exact hone.symm
  · intro frame hmem
    exact (success_encodeBridgeFrame_iff frame).mpr (hsound.encodable frame hmem)
  · -- every encodable list of frames with that stream is the one that was decoded
    intro frames hencoded hhello hinput
    have hframes := @foldl_receiveByte_encodings {} [] decoded_initial rfl rfl frames
      (fun frame hmem => (success_encodeBridgeFrame_iff frame).mp (hencoded frame hmem)) hhello
    rw [hinput] at hframes
    refine ⟨hframes, ?_⟩
    rw [hframes]
    exact hinput
  · -- after a failure nothing is decoded any more
    intro hfailed more
    rw [consumeAll_of_failed hfailed]

end BridgeFrameDecoder

end Fidget
