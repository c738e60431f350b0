import Mathlib.Data.List.Basic
import Mathlib.Tactic.IntervalCases

/-!
# The framing of the bridge stream

A bridge stream carries datagrams of two channels over one byte stream. Each frame has a header of
five bytes, its channel and the length of its payload, and the first frame says which version of
the protocol is spoken.

## Main results

- `encodeBridgeFrame`: refuses what the decoder would not take.
- `BridgeFrameDecoder.consume`: any piece of the stream, in any state.
- `loadBigEndian32_appendBigEndian32`: a length that was written is read back.
-/

namespace Fidget

/-! ### Frames

A frame is a channel and a payload. The channel is a byte that may be any, since the source casts
it. -/

/-- `std::uint8_t` underlies the enumeration, so a value that was cast need not be one of its
enumerators. -/
inductive BridgeChannel
  | command
  | data
  | hello
  | unknown (raw : UInt8)
  deriving Repr, DecidableEq

namespace BridgeChannel

/-- `static_cast<BridgeChannel>`. -/
def ofByte (raw : UInt8) : BridgeChannel :=
  if raw = 0x00 then .command
  else if raw = 0x01 then .data
  else if raw = 0x7F then .hello
  else .unknown raw

/-- `static_cast<std::uint8_t>`. -/
def toByte : BridgeChannel → UInt8
  | command => 0x00
  | data => 0x01
  | hello => 0x7F
  | unknown raw => raw

/-- A channel byte is kept as it is, known or not. -/
theorem toByte_ofByte (raw : UInt8) : (ofByte raw).toByte = raw := by
  unfold ofByte
  split
  next h => exact h.symm
  split
  next h => exact h.symm
  split
  next h => exact h.symm
  rfl

end BridgeChannel

def bridgeProtocolVersion : UInt8 := 1
def bridgeFrameHeaderSize : Nat := 5
def bridgeMaximumPayloadSize : Nat := 64 * 1024

/-- A payload and where it goes. -/
structure BridgeFrame where
  channel : BridgeChannel := .command
  payload : List UInt8 := []
  deriving Repr, DecidableEq

/-- The pointer and the size that a call is given: that many bytes, or a null pointer. -/
inductive ByteSpan
  | bytes (data : List UInt8)
  | null (size : Nat)
  deriving Repr, DecidableEq

namespace ByteSpan

def size : ByteSpan → Nat
  | bytes data => data.length
  | null size => size

/-- The bytes behind the pointer. -/
def data : ByteSpan → List UInt8
  | bytes data => data
  | null _ => []

def isNull : ByteSpan → Bool
  | bytes _ => false
  | null _ => true

end ByteSpan

structure BridgeFrameEncodeResult where
  success : Bool := false
  bytes : List UInt8 := []
  error : String := ""
  deriving Repr, DecidableEq

/-- The frames that a call completed, and an error if the stream is broken. -/
structure BridgeFrameDecodeResult where
  success : Bool := true
  frames : List BridgeFrame := []
  error : String := ""
  deriving Repr, DecidableEq

def isKnownBridgeChannel (channel : BridgeChannel) : Bool :=
  channel = .command || channel = .data || channel = .hello

/-- A known channel is read back. -/
theorem ofByte_toByte {channel : BridgeChannel} (h : isKnownBridgeChannel channel) :
    BridgeChannel.ofByte channel.toByte = channel := by
  cases channel with
  | command => rfl
  | data => rfl
  | hello => rfl
  | unknown raw => cases h

/-! ### The length of the payload

Four bytes, the highest first. -/

def loadBigEndian32 (source : List UInt8) : UInt32 :=
  ((source.getD 0 0).toUInt32 <<< 24) ||| ((source.getD 1 0).toUInt32 <<< 16) |||
    ((source.getD 2 0).toUInt32 <<< 8) ||| (source.getD 3 0).toUInt32

/-- The highest byte first. -/
def appendBigEndian32 (destination : List UInt8) (value : UInt32) : List UInt8 :=
  destination ++ [((value >>> 24) &&& 0xFF).toUInt8, ((value >>> 16) &&& 0xFF).toUInt8,
    ((value >>> 8) &&& 0xFF).toUInt8, (value &&& 0xFF).toUInt8]

/-- The value of four bytes. -/
theorem toNat_loadBigEndian32 (b₀ b₁ b₂ b₃ : UInt8) :
    (loadBigEndian32 [b₀, b₁, b₂, b₃]).toNat =
      b₀.toNat * 2 ^ 24 + b₁.toNat * 2 ^ 16 + b₂.toNat * 2 ^ 8 + b₃.toNat := by
  have h₀ := b₀.toNat_lt
  have h₁ := b₁.toNat_lt
  have h₂ := b₂.toNat_lt
  have h₃ := b₃.toNat_lt
  -- The four bytes do not overlap, so or-ing them is adding them.
  have hor (high low shift : Nat) (h : low < 2 ^ shift) :
      high * 2 ^ shift ||| low = high * 2 ^ shift + low := by
    rw [← Nat.shiftLeft_eq, Nat.shiftLeft_add_eq_or_of_lt h]
  have hload : (loadBigEndian32 [b₀, b₁, b₂, b₃]).toNat =
      b₀.toNat * 2 ^ 24 ||| (b₁.toNat * 2 ^ 16 ||| (b₂.toNat * 2 ^ 8 ||| b₃.toNat)) := by
    simp only [loadBigEndian32, List.getD_cons_zero, List.getD_cons_succ, UInt32.toNat_or,
      UInt32.toNat_shiftLeft, UInt8.toNat_toUInt32, UInt32.reduceToNat, Nat.or_assoc,
      Nat.shiftLeft_eq, Nat.reduceMod]
    congr 1
    · omega
    congr 1
    · omega
    congr 1
    omega
  rw [hload, hor _ _ 8 h₃, hor _ _ 16 (by omega), hor _ _ 24 (by omega)]
  omega

/-- A byte of a value, by the shift that brings it down. -/
theorem toNat_bigEndianByte (value : UInt32) (shift : UInt32) :
    ((value >>> shift) &&& 0xFF).toUInt8.toNat = value.toNat / 2 ^ (shift.toNat % 32) % 256 := by
  have hmask (n : Nat) : n &&& 255 = n % 256 := Nat.and_two_pow_sub_one_eq_mod n 8
  rw [UInt32.toNat_toUInt8, UInt32.toNat_and, UInt32.toNat_shiftRight,
    show (0xFF : UInt32).toNat = 255 from rfl, hmask, Nat.shiftRight_eq_div_pow]
  omega

/-- Four bytes are what appending the number they load as writes. -/
theorem appendBigEndian32_loadBigEndian32 (destination : List UInt8) (b₀ b₁ b₂ b₃ : UInt8) :
    appendBigEndian32 destination (loadBigEndian32 [b₀, b₁, b₂, b₃]) =
      destination ++ [b₀, b₁, b₂, b₃] := by
  have h₀ := b₀.toNat_lt
  have h₁ := b₁.toNat_lt
  have h₂ := b₂.toNat_lt
  have h₃ := b₃.toNat_lt
  have hload := toNat_loadBigEndian32 b₀ b₁ b₂ b₃
  generalize loadBigEndian32 [b₀, b₁, b₂, b₃] = value at hload ⊢
  have hlow := toNat_bigEndianByte value 0
  rw [UInt32.shiftRight_zero, show (0 : UInt32).toNat % 32 = 0 from rfl, Nat.pow_zero,
    Nat.div_one] at hlow
  unfold appendBigEndian32
  congr 1
  simp only [List.cons.injEq, and_true, ← UInt8.toNat_inj, toNat_bigEndianByte, hlow, UInt32.reduceToNat, Nat.reduceMod]
  omega

/-- A number that was written is read back. -/
theorem loadBigEndian32_appendBigEndian32 (value : UInt32) :
    loadBigEndian32 (appendBigEndian32 [] value) = value := by
  have h := value.toNat_lt
  have hlow := toNat_bigEndianByte value 0
  rw [UInt32.shiftRight_zero, show (0 : UInt32).toNat % 32 = 0 from rfl, Nat.pow_zero,
    Nat.div_one] at hlow
  rw [appendBigEndian32, List.nil_append, ← UInt32.toNat_inj, toNat_loadBigEndian32]
  simp only [toNat_bigEndianByte, hlow, UInt32.reduceToNat, Nat.reduceMod]
  omega

/-! ### Encoding

What cannot be decoded is refused: an unknown channel, a payload that is too long, and a hello of
another length. -/

/-- The payload has a maximum length, and the hello frame one byte. -/
def encodeBridgeFrame (channel : BridgeChannel) (payload : ByteSpan) : BridgeFrameEncodeResult :=
  if !isKnownBridgeChannel channel then
    { error := "Unknown bridge frame channel" }
  else if payload.size > bridgeMaximumPayloadSize then
    { error := "Bridge frame payload exceeds 65536 bytes" }
  else if payload.size > 0 && payload.isNull then
    { error := "Bridge frame payload pointer is null" }
  else if channel = .hello && payload.size ≠ 1 then
    { error := "Bridge hello must contain one protocol-version byte" }
  else if channel = .hello && payload.data.getD 0 0 ≠ bridgeProtocolVersion then
    { error := "Unsupported bridge protocol version" }
  else
    { success := true
      bytes := appendBigEndian32 [channel.toByte] payload.size.toUInt32 ++ payload.data }

def encodeBridgeHelloFrame : BridgeFrameEncodeResult :=
  encodeBridgeFrame .hello (.bytes [bridgeProtocolVersion])

/-! ### Decoding

The decoder is fed with pieces of a stream. The loop of the source copies as much as it can in one
go; it ends because every round takes bytes or completes a frame. -/

/-- One direction of one bridge stream. The header is `header_` up to `headerSize_`. -/
structure BridgeFrameDecoder where
  header : List UInt8 := []
  channel : BridgeChannel := .command
  payloadSize : Nat := 0
  payload : List UInt8 := []
  helloReceived : Bool := false
  failed : Bool := false
  error : String := ""
  header_le : header.length ≤ bridgeFrameHeaderSize := by decide
  payload_le : payload.length ≤ payloadSize := by decide
  deriving Repr, DecidableEq

namespace BridgeFrameDecoder

/-- Up to five bytes in all, as many as there are. -/
def addHeader (d : BridgeFrameDecoder) (data : List UInt8) : BridgeFrameDecoder :=
  { d with
    header := d.header ++ data.take (bridgeFrameHeaderSize - d.header.length)
    header_le := by
      have h := d.header_le
      rw [List.length_append, List.length_take]
      omega }

/-- Up to the announced size in all, as many as there are. -/
def addPayload (d : BridgeFrameDecoder) (data : List UInt8) : BridgeFrameDecoder :=
  { d with
    payload := d.payload ++ data.take (d.payloadSize - d.payload.length)
    payload_le := by
      have h := d.payload_le
      rw [List.length_append, List.length_take]
      omega }

/-- A call of `consume` on its way: the decoder, and the result that is to be returned. -/
structure Consuming where
  decoder : BridgeFrameDecoder := {}
  result : BridgeFrameDecodeResult := {}
  deriving Repr, DecidableEq

/-- A decoder that has failed takes nothing more. -/
def fail (c : Consuming) (error : String) : Consuming :=
  { decoder := { c.decoder with failed := true, error }
    result := { c.result with success := false, error } }

/-- The header is complete. An error is `return false`. -/
def beginFrame (c : Consuming) : Except Consuming Consuming :=
  let rawChannel := c.decoder.header.getD 0 0
  let channel := BridgeChannel.ofByte rawChannel
  let c := { c with decoder := { c.decoder with channel } }
  if !isKnownBridgeChannel channel then
    .error (fail c "Unknown bridge frame channel")
  else
    let payloadSize := (loadBigEndian32 (c.decoder.header.drop 1)).toNat
    -- `payload_` was left empty by the frame before; the source clears it after the checks.
    let c := { c with
      decoder := { c.decoder with payloadSize, payload := [], payload_le := Nat.zero_le _ } }
    if payloadSize > bridgeMaximumPayloadSize then
      .error (fail c "Bridge frame payload exceeds 65536 bytes")
    else if !c.decoder.helloReceived && channel ≠ .hello then
      .error (fail c "Bridge hello must be the first frame")
    else if c.decoder.helloReceived && channel = .hello then
      .error (fail c "Bridge hello may only appear once")
    else if channel = .hello && payloadSize ≠ 1 then
      .error (fail c "Bridge hello must contain one protocol-version byte")
    else
      .ok c

/-- The payload is complete. An error is `return false`. -/
def finishFrame (c : Consuming) : Except Consuming Consuming :=
  if c.decoder.channel = .hello && c.decoder.payload.getD 0 0 ≠ bridgeProtocolVersion then
    .error (fail c "Unsupported bridge protocol version")
  else
    let frame := { channel := c.decoder.channel, payload := c.decoder.payload }
    .ok {
      decoder :=
        { c.decoder with
          helloReceived := c.decoder.helloReceived || c.decoder.channel = .hello
          header := []
          payloadSize := 0
          payload := []
          header_le := Nat.zero_le _
          payload_le := Nat.zero_le _ }
      result := { c.result with frames := c.result.frames ++ [frame] } }

/-- The second half of a round of the loop, with the data that is left for the next. -/
def consumePayload (c : Consuming) (data : List UInt8) : Except Consuming (Consuming × List UInt8) :=
  let rest := data.drop (c.decoder.payloadSize - c.decoder.payload.length)
  let c := { c with decoder := c.decoder.addPayload data }
  if c.decoder.payload.length = c.decoder.payloadSize then
    match finishFrame c with
    | .error c => .error c
    | .ok c => .ok (c, rest)
  else .ok (c, rest)

/-- One round of the loop on what is left of the data. An error is the `return` in its middle. -/
def consumeRound (c : Consuming) (data : List UInt8) : Except Consuming (Consuming × List UInt8) :=
  if c.decoder.header.length < bridgeFrameHeaderSize then
    let rest := data.drop (bridgeFrameHeaderSize - c.decoder.header.length)
    let c := { c with decoder := c.decoder.addHeader data }
    if c.decoder.header.length < bridgeFrameHeaderSize then .ok (c, rest)
    else
      match beginFrame c with
      | .error c => .error c
      | .ok c =>
        if c.decoder.payloadSize = 0 then
          match finishFrame c with
          | .error c => .error c
          | .ok c => .ok (c, rest)
        else consumePayload c rest
  else consumePayload c data

/-- After a frame the next header is awaited. -/
theorem header_of_finishFrame {c c' : Consuming} (h : finishFrame c = .ok c') :
    c'.decoder.header = [] := by
  unfold finishFrame at h
  split at h
  · cases h
  · cases h
    rfl

/-- A round takes bytes or completes a frame, so the loop ends. -/
theorem consumePayload_shrinks {c c' : Consuming} {data rest : List UInt8} (hdata : data ≠ [])
    (h : consumePayload c data = .ok (c', rest)) :
    rest.length ≤ data.length ∧ (rest.length < data.length ∨ c'.decoder.header = []) := by
  have hpos := List.length_pos_iff.mpr hdata
  have hle := c.decoder.payload_le
  simp only [consumePayload] at h
  split at h
  next =>
    cases hfinish : finishFrame { c with decoder := c.decoder.addPayload data } with
    | error _ => rw [hfinish] at h; cases h
    | ok c'' =>
        rw [hfinish] at h
        cases h
        rw [List.length_drop]
        exact ⟨Nat.sub_le _ _, .inr (header_of_finishFrame hfinish)⟩
  next hincomplete =>
    cases h
    simp only [addPayload, List.length_append, List.length_take] at hincomplete
    rw [List.length_drop]
    omega

theorem consumePayload_length {c c' : Consuming} {data rest : List UInt8}
    (h : consumePayload c data = .ok (c', rest)) : rest.length ≤ data.length := by
  simp only [consumePayload] at h
  split at h
  next =>
    split at h
    · cases h
    · cases h
      rw [List.length_drop]
      omega
  next =>
    cases h
    rw [List.length_drop]
    omega

/-- Every round uses a byte, or ends the payload that a round before it filled. -/
theorem consumeRound_shrinks {c c' : Consuming} {data rest : List UInt8} (hdata : data ≠ [])
    (h : consumeRound c data = .ok (c', rest)) :
    2 * rest.length + c'.decoder.header.length / bridgeFrameHeaderSize <
      2 * data.length + c.decoder.header.length / bridgeFrameHeaderSize := by
  have hpos := List.length_pos_iff.mpr hdata
  have hle := c.decoder.header_le
  have hle' := c'.decoder.header_le
  unfold bridgeFrameHeaderSize at *
  unfold consumeRound at h
  split at h
  next hheader =>
    -- At least one byte went into the header.
    have hrest : rest.length < data.length := by
      unfold bridgeFrameHeaderSize at h hheader
      have hdrop : (data.drop (5 - c.decoder.header.length)).length < data.length := by
        rw [List.length_drop]
        omega
      simp only at h
      split at h
      · cases h
        exact hdrop
      split at h
      · cases h
      split at h
      · split at h
        · cases h
        · cases h
          exact hdrop
      · have hpayload := consumePayload_length h
        omega
    omega
  next hheader =>
    unfold bridgeFrameHeaderSize at hheader
    obtain ⟨hrest, hshorter | hfinished⟩ := consumePayload_shrinks hdata h
    · omega
    · rw [hfinished, List.length_nil]
      omega

/-- The loop of `consume`. -/
def consumeLoop (c : Consuming) (data : List UInt8) : Consuming :=
  if _hdata : data = [] then c
  else
    match _h : consumeRound c data with
    | .error c => c
    | .ok (c', rest) => consumeLoop c' rest
termination_by 2 * data.length + c.decoder.header.length / bridgeFrameHeaderSize
decreasing_by exact consumeRound_shrinks _hdata _h

/-- One call of the decoder. -/
def consume (d : BridgeFrameDecoder) (data : ByteSpan) :
    BridgeFrameDecoder × BridgeFrameDecodeResult :=
  if d.failed then
    (d, { success := false, error := d.error })
  else if data.size > 0 && data.isNull then
    let c := fail { decoder := d } "Bridge input pointer is null"
    (c.decoder, c.result)
  else
    let c := consumeLoop { decoder := d } data.data
    (c.decoder, c.result)

end BridgeFrameDecoder

end Fidget
