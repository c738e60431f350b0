import Fidget.Core.BridgeProtocol.Chunking
import Fidget.Lib.FramedPipe

/-!
# Bridge frames as a prefix code

The length in its header makes a frame end before another can begin. What a decoder has made of a
stream, in however many calls, is recognised in this code.

## Main results

- `frameCode`: the encodings of frames, none of which begins another.
- `Recognised`: what a decoder has made of its input, call by call.
- `consumeLoop_outcome`: a decoder either goes on or explains why not.
-/

namespace Fidget

open FramedPipe

/-- The payload of a frame that is not a hello. -/
abbrev Datagram := List UInt8

namespace BridgeFrameDecoder

/-! ### The code

The encoding of a frame never begins with that of another one, so frames can be told apart in a
stream. -/

theorem length_frameHeader (frame : BridgeFrame) :
    (frameHeader frame).length = bridgeFrameHeaderSize := rfl

/-- A header says which channel, and how long the payload is. -/
theorem frameHeader_inj {frame frame' : BridgeFrame} (h : Encodable frame) (h' : Encodable frame')
    (heq : frameHeader frame = frameHeader frame') :
    frame.channel = frame'.channel ∧ frame.payload.length = frame'.payload.length := by
  have hchannel : frame.channel.toByte = frame'.channel.toByte := congrArg (·.getD 0 0) heq
  have hlength : loadBigEndian32 ((frameHeader frame).drop 1) =
      loadBigEndian32 ((frameHeader frame').drop 1) := by
    rw [heq]
  have hload (frame : BridgeFrame) :
      loadBigEndian32 ((frameHeader frame).drop 1) = frame.payload.length.toUInt32 :=
    loadBigEndian32_appendBigEndian32 _
  rw [hload, hload] at hlength
  constructor
  · rw [← ofByte_toByte h.known, hchannel, ofByte_toByte h'.known]
  · rw [← toNat_payloadLength h, hlength, toNat_payloadLength h']

/-- So no frame begins with another. -/
theorem encoding_prefixFree {frame frame' : BridgeFrame} (h : Encodable frame)
    (h' : Encodable frame') (hbegins : encoding frame <+: encoding frame') : frame = frame' := by
  rw [encoding_eq h, encoding_eq h'] at hbegins
  -- The headers have the same length, so the headers agree, and with them the lengths.
  have hheader : frameHeader frame = frameHeader frame' := by
    have htake := (List.prefix_append (frameHeader frame) frame.payload).trans hbegins
    have htake' := List.prefix_append (frameHeader frame') frame'.payload
    exact (List.prefix_of_prefix_length_le htake htake' (by simp [length_frameHeader])).eq_of_length
      (by simp [length_frameHeader])
  obtain ⟨hchannel, hlength⟩ := frameHeader_inj h h' hheader
  rw [hheader, List.prefix_append_right_inj] at hbegins
  have hpayload := hbegins.eq_of_length hlength
  cases frame
  cases frame'
  simp_all

theorem encoding_ne_nil {frame : BridgeFrame} (h : Encodable frame) : encoding frame ≠ [] := by
  rw [encoding_eq h]
  intro hnil
  have hlength := length_frameHeader frame
  rw [(List.append_eq_nil_iff.mp hnil).1] at hlength
  cases hlength

/-- The frames as a code of the general kind. -/
def frameCode : PrefixCode BridgeFrame UInt8 where
  encode := encoding
  Valid := Encodable
  ne_nil := encoding_ne_nil
  prefixFree := encoding_prefixFree

/-! ### What a decoder has recognised

In however many calls, the frames that a decoder has made are the first of those whose encodings the
input begins with. -/

/-- The decoder has made these frames of the input, in however many calls. -/
def Recognised (d : BridgeFrameDecoder) (input : List UInt8) (frames : List BridgeFrame) : Prop :=
  ∃ c : Consuming, c.decoder = d ∧ c.result.frames = frames ∧ Decoded c input

theorem recognised_nothing : Recognised {} [] [] := ⟨{}, rfl, rfl, decoded_initial⟩

/-- What a call returns is appended to what was recognised before. -/
theorem Recognised.consume {d : BridgeFrameDecoder} {input : List UInt8}
    {frames : List BridgeFrame} (h : Recognised d input frames) (data : List UInt8) :
    Recognised (d.consume (.bytes data)).1 (input ++ data)
      (frames ++ (d.consume (.bytes data)).2.frames) := by
  obtain ⟨c, rfl, rfl, hdecoded⟩ := h
  have hall := consumeAll_eq_foldl hdecoded [data]
  have hone : consumeAll c.decoder ([data].map .bytes) =
      ((c.decoder.consume (.bytes data)).1, (c.decoder.consume (.bytes data)).2.frames) := by
    simp [consumeAll]
  rw [hone, List.flatten_singleton, Prod.mk.injEq] at hall
  exact ⟨data.foldl receiveByte c, hall.1.symm, hall.2.symm, decoded_foldl_receiveByte hdecoded data⟩

/-- Only frames that can be encoded are recognised. -/
theorem Recognised.encodable {d : BridgeFrameDecoder} {input : List UInt8}
    {frames : List BridgeFrame} (h : Recognised d input frames) :
    ∀ frame ∈ frames, Encodable frame := by
  obtain ⟨c, _, rfl, hdecoded⟩ := h
  exact hdecoded.sound.encodable

/-- They are the first that were written to the pipe from which the input was taken. -/
theorem Recognised.prefix_of_written {d : BridgeFrameDecoder} {pipe : Pipe UInt8}
    {frames words : List BridgeFrame} {torn : List UInt8} (h : Recognised d pipe.taken frames)
    (hwritten : frameCode.Written pipe words torn) : frames <+: words := by
  obtain ⟨c, _, rfl, hdecoded⟩ := h
  exact hwritten.prefix_of_taken hdecoded.sound.encodable hdecoded.sound.isPrefix

/-! ### Errors

A call ends in one of two ways: the decoder goes on, or it has failed and says why. -/

/-- A call that is under way has not failed; one that failed says why. -/
def Explained (c : Consuming) : Prop :=
  c.result.success = false ∧ c.result.error ≠ ""

/-- The decoder goes on and has no error to report. -/
def Unfailed (c : Consuming) : Prop :=
  c.result.success = true ∧ c.decoder.failed = false

/-- Every refusal comes with its error. -/
theorem beginFrame_explained {c c' : Consuming} (h : beginFrame c = .error c') : Explained c' := by
  simp only [beginFrame] at h
  split at h
  · cases h
    simp [Explained, fail]
  iterate 4
    split at h
    · cases h
      simp [Explained, fail]
  cases h

theorem finishFrame_explained {c c' : Consuming} (h : finishFrame c = .error c') :
    Explained c' := by
  simp only [finishFrame] at h
  split at h
  · cases h
    simp [Explained, fail]
  · cases h

theorem finishFrame_unfailed {c c' : Consuming} (hc : Unfailed c) (h : finishFrame c = .ok c') :
    Unfailed c' := by
  obtain ⟨hresult, _, _, _, hfailed, _⟩ := finishFrame_ok h
  refine ⟨?_, hfailed.trans hc.2⟩
  rw [hresult]
  exact hc.1

theorem consumePayload_explained {c c' : Consuming} {data : List UInt8}
    (h : consumePayload c data = .error c') : Explained c' := by
  simp only [consumePayload] at h
  split at h
  · split at h
    next hfinish =>
      cases h
      exact finishFrame_explained hfinish
    next => cases h
  · cases h

/-- A payload that is not complete is no failure. -/
theorem consumePayload_unfailed {c c' : Consuming} {data rest : List UInt8} (hc : Unfailed c)
    (h : consumePayload c data = .ok (c', rest)) : Unfailed c' := by
  simp only [consumePayload] at h
  split at h
  · split at h
    next => cases h
    next hfinish =>
      cases h
      exact finishFrame_unfailed (by exact hc) hfinish
  · cases h
    exact hc

theorem consumeRound_explained {c c' : Consuming} {data : List UInt8}
    (h : consumeRound c data = .error c') : Explained c' := by
  simp only [consumeRound] at h
  split at h
  · split at h
    · cases h
    split at h
    next hbegin =>
      cases h
      exact beginFrame_explained hbegin
    next =>
      split at h
      · split at h
        next hfinish =>
          cases h
          exact finishFrame_explained hfinish
        next => cases h
      · exact consumePayload_explained h
  · exact consumePayload_explained h

theorem consumeRound_unfailed {c c' : Consuming} {data rest : List UInt8} (hc : Unfailed c)
    (h : consumeRound c data = .ok (c', rest)) : Unfailed c' := by
  simp only [consumeRound] at h
  split at h
  · split at h
    · cases h
      exact hc
    split at h
    next => cases h
    next c'' hbegin =>
      obtain ⟨hresult, _, _, _, hfailed, _⟩ := beginFrame_ok hbegin
      have hbegun : Unfailed c'' := by
        refine ⟨?_, hfailed.trans hc.2⟩
        rw [hresult]
        exact hc.1
      split at h
      · split at h
        next => cases h
        next hfinish =>
          cases h
          exact finishFrame_unfailed hbegun hfinish
      · exact consumePayload_unfailed hbegun h
  · exact consumePayload_unfailed hc h

/-- There is no third case. -/
theorem consumeLoop_outcome {c : Consuming} (hc : Unfailed c) (data : List UInt8) :
    Unfailed (consumeLoop c data) ∨ Explained (consumeLoop c data) := by
  induction c, data using consumeLoop.induct with
  | case1 c =>
      rw [consumeLoop, dif_pos rfl]
      exact .inl hc
  | case2 c data hdata c' hround =>
      right
      rw [consumeLoop, dif_neg hdata]
      split
      next hround' => exact consumeRound_explained hround'
      next hround' =>
        rw [hround] at hround'
        cases hround'
  | case3 c data hdata c' rest hround ih =>
      rw [consumeLoop, dif_neg hdata]
      split
      next hround' =>
        rw [hround] at hround'
        cases hround'
      next hround' =>
        rw [hround] at hround'
        cases hround'
        exact ih (consumeRound_unfailed hc hround)

/-- A decoder that had not failed yet goes on, or says why it does not. -/
theorem consume_outcome {d : BridgeFrameDecoder} (hd : d.failed = false) (data : List UInt8) :
    (d.consume (.bytes data)).2.success = true ∧ (d.consume (.bytes data)).1.failed = false ∨
      (d.consume (.bytes data)).2.success = false ∧ (d.consume (.bytes data)).2.error ≠ "" := by
  have hconsume : d.consume (.bytes data) =
      ((consumeLoop { decoder := d } data).decoder, (consumeLoop { decoder := d } data).result) := by
    rw [consume, if_neg (by simp [hd]), if_neg (by simp [ByteSpan.isNull])]
    rfl
  rw [hconsume]
  exact @consumeLoop_outcome { decoder := d } ⟨rfl, hd⟩ data

end BridgeFrameDecoder

/-! ### Encoding for the stream

The bytes of a frame together with the frame, so that what is written can be compared with what is
recognised. -/

open BridgeFrameDecoder

/-- A payload without a pointer is encoded if it is empty. -/
theorem encodeBridgeFrame_data {channel : BridgeChannel} {data : ByteSpan}
    (h : (encodeBridgeFrame channel data).success = true) :
    encodeBridgeFrame channel (.bytes data.data) = encodeBridgeFrame channel data := by
  cases data with
  | bytes data => rfl
  | null size =>
      -- A null pointer passes only with no bytes behind it.
      cases size with
      | zero => rfl
      | succ n =>
          simp only [encodeBridgeFrame, ByteSpan.size, ByteSpan.isNull] at h
          grind

/-- A frame with the bytes that `EncodeBridgeFrame` made of it. -/
structure EncodedFrame where
  frame : BridgeFrame
  bytes : List UInt8
  encoded : encodeBridgeFrame frame.channel (.bytes frame.payload) = { success := true, bytes }
  deriving DecidableEq

theorem eta_of_success {result : BridgeFrameEncodeResult} (hsuccess : result.success = true)
    (herror : result.error = "") : result = { success := true, bytes := result.bytes } := by
  cases result
  simp_all

theorem error_encodeBridgeFrame {channel : BridgeChannel} {data : ByteSpan}
    (h : (encodeBridgeFrame channel data).success = true) :
    (encodeBridgeFrame channel data).error = "" := by
  simp only [encodeBridgeFrame] at h ⊢
  grind

/-- The encoding, with the frame that it is the encoding of. -/
def encodeFrame (channel : BridgeChannel) (data : ByteSpan) : Except String EncodedFrame :=
  let encoded := encodeBridgeFrame channel data
  if h : encoded.success then
    .ok {
      frame := { channel, payload := data.data }
      bytes := encoded.bytes
      encoded := by
        show encodeBridgeFrame channel (.bytes data.data) = _
        rw [encodeBridgeFrame_data h]
        exact eta_of_success h (error_encodeBridgeFrame h) }
  else .error encoded.error

theorem frame_encodeFrame {channel : BridgeChannel} {data : ByteSpan} {encoded : EncodedFrame}
    (h : encodeFrame channel data = .ok encoded) :
    encoded.frame = { channel, payload := data.data } := by
  simp only [encodeFrame] at h
  split at h
  · cases h
    rfl
  · cases h

namespace EncodedFrame

variable (encoded : EncodedFrame)

/-- What is written is the code word of the frame. -/
theorem bytes_eq : encoded.bytes = frameCode.encode encoded.frame := by
  show encoded.bytes = (encodeBridgeFrame _ _).bytes
  rw [encoded.encoded]

theorem encodable : Encodable encoded.frame := by
  rw [← success_encodeBridgeFrame_iff, encoded.encoded]

end EncodedFrame

end Fidget
