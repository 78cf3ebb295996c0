import SwiftSsh.WireBuffer

namespace SwiftSsh.PacketCodec

open SwiftSsh.ByteWords
open SwiftSsh.RustOutcome
open SwiftSsh.WireTypes
open SwiftSsh.WireBuffer

/-- Number of padding bytes chosen for a packet. -/
def paddingLen (packet : SshPacket) (blockSize : Nat) : Nat :=
  let minPacketLen := 1 + (1 + packet.payload.length) + minPadding
  let remainder := minPacketLen % max blockSize 8
  if remainder = 0 then minPadding else minPadding + (max blockSize 8 - remainder)

/-- Value of the length field: padding length byte, payload and padding. -/
def packetLength (packet : SshPacket) (blockSize : Nat) : Nat :=
  1 + (1 + packet.payload.length) + paddingLen packet blockSize

/-- The first `count` bytes of a random source. -/
def randomBytes (rng : Nat → UInt8) (count : Nat) : Bytes :=
  (List.range count).map rng

@[simp] theorem randomBytes_length (rng : Nat → UInt8) (count : Nat) :
    (randomBytes rng count).length = count := by
  simp [randomBytes]

/-- The full packet bytes without the authentication code. -/
def serialize (packet : SshPacket) (blockSize : Nat) (rng : Nat → UInt8) :
    Outcome SshError Bytes :=
  let length := packetLength packet blockSize
  if length > maxPacketSize then
    .err (.invalidPacket s!"Packet too large: {length} bytes")
  else
    .ok (be32 (UInt32.ofNat length) ++
      [UInt8.ofNat (paddingLen packet blockSize), packet.msgType] ++
      packet.payload ++ randomBytes rng (paddingLen packet blockSize))

/-- Read a packet from decrypted bytes that start with the length field. -/
def deserialize (data : Bytes) : Outcome SshError SshPacket :=
  if data.length < 6 then
    .err (.invalidPacket "Packet too short")
  else do
    let (lengthField, cursor) ← cursorReadU32 .io data
    let packetLength := lengthField.toNat
    if packetLength > maxPacketSize then
      .err (.invalidPacket s!"Packet length too large: {packetLength}")
    else if data.length < 4 + packetLength then
      .err (.invalidPacket "Incomplete packet data")
    else do
      let (paddingByte, cursor) ← cursorReadU8 .io cursor
      let paddingLength := paddingByte.toNat
      if paddingLength ≥ packetLength then
        .err (.invalidPacket "Invalid padding length")
      else do
        let withoutByte ← checkedSub packetLength 1
        let payloadLength ← checkedSub withoutByte paddingLength
        if payloadLength = 0 then
          .err (.invalidPacket "Empty payload")
        else do
          let (msgType, cursor) ← cursorReadU8 .io cursor
          let dataLength ← checkedSub payloadLength 1
          let (payload, _) ← cursorReadExact .io dataLength cursor
          .ok ⟨msgType, payload⟩

/-- The bytes of a packet with the given padding. -/
def frame (packet : SshPacket) (padding : Bytes) : Bytes :=
  be32 (UInt32.ofNat (2 + packet.payload.length + padding.length)) ++
    [UInt8.ofNat padding.length, packet.msgType] ++ packet.payload ++ padding

theorem frame_length (packet : SshPacket) (padding : Bytes) :
    (frame packet padding).length =
      6 + packet.payload.length + padding.length := by
  simp [frame]
  omega

theorem minPadding_le_paddingLen (packet : SshPacket) (blockSize : Nat) :
    minPadding ≤ paddingLen packet blockSize := by
  unfold paddingLen
  dsimp only
  split <;> omega

theorem paddingLen_lt (packet : SshPacket) (blockSize : Nat) :
    paddingLen packet blockSize < minPadding + max blockSize 8 := by
  unfold paddingLen
  dsimp only
  split <;> omega

theorem dvd_packetLength (packet : SshPacket) (blockSize : Nat) :
    max blockSize 8 ∣ packetLength packet blockSize := by
  have hpos : 0 < max blockSize 8 := by omega
  unfold packetLength paddingLen
  dsimp only
  split
  · rename_i hzero
    exact Nat.dvd_of_mod_eq_zero hzero
  · have hlt := Nat.mod_lt (1 + (1 + packet.payload.length) + minPadding) hpos
    have hdecomp := Nat.div_add_mod
      (1 + (1 + packet.payload.length) + minPadding) (max blockSize 8)
    refine ⟨(1 + (1 + packet.payload.length) + minPadding) / max blockSize 8 + 1, ?_⟩
    rw [Nat.mul_add, Nat.mul_one]
    omega

theorem blockSize_le_packetLength (packet : SshPacket) (blockSize : Nat) :
    max blockSize 8 ≤ packetLength packet blockSize := by
  apply Nat.le_of_dvd _ (dvd_packetLength packet blockSize)
  unfold packetLength
  omega

theorem serialize_eq_ok_iff {packet : SshPacket} {blockSize : Nat}
    {rng : Nat → UInt8} {bytes : Bytes} :
    serialize packet blockSize rng = .ok bytes ↔
      packetLength packet blockSize ≤ maxPacketSize ∧
        bytes = frame packet (randomBytes rng (paddingLen packet blockSize)) := by
  have hlength : packetLength packet blockSize =
      2 + packet.payload.length + paddingLen packet blockSize := by
    unfold packetLength
    omega
  unfold serialize frame
  dsimp only
  rw [randomBytes_length, ← hlength]
  split
  · rename_i hlarge
    simp only [reduceCtorEq, false_iff, not_and]
    omega
  · rename_i hsmall
    rw [Outcome.ok.injEq, eq_comm]
    constructor
    · intro heq
      exact ⟨by omega, heq⟩
    · rintro ⟨-, heq⟩
      exact heq

theorem serialize_ne_panic (packet : SshPacket) (blockSize : Nat)
    (rng : Nat → UInt8) : serialize packet blockSize rng ≠ .panic := by
  unfold serialize
  dsimp only
  split <;> simp

theorem deserialize_frame {packet : SshPacket} {padding : Bytes} (trailing : Bytes)
    (hpadding : padding.length ≤ 255)
    (hlength : 2 + packet.payload.length + padding.length ≤ maxPacketSize) :
    deserialize (frame packet padding ++ trailing) = .ok packet := by
  have hnat := toNat_ofNat_of_le_maxPacketSize hlength
  have hbyte : (UInt8.ofNat padding.length).toNat = padding.length := by
    rw [UInt8.toNat_ofNat', Nat.mod_eq_of_lt (by omega)]
  have htotal : (frame packet padding ++ trailing).length =
      6 + packet.payload.length + padding.length + trailing.length := by
    rw [List.length_append, frame_length]
  unfold deserialize
  rw [htotal, if_neg (by omega)]
  simp only [frame, List.append_assoc, cursorReadU32_be32, Outcome.ok_bind, hnat]
  rw [if_neg (by omega), if_neg (by omega)]
  simp only [List.cons_append, List.nil_append, cursorReadU8_cons,
    Outcome.ok_bind, hbyte]
  rw [if_neg (by omega), checkedSub_of_le (by omega), Outcome.ok_bind,
    checkedSub_of_le (by omega), Outcome.ok_bind, if_neg (by omega),
    checkedSub_of_le (by omega), Outcome.ok_bind]
  have hcount : 2 + packet.payload.length + padding.length - 1 - padding.length - 1 =
      packet.payload.length := by
    omega
  rw [hcount, cursorReadExact_append, Outcome.ok_bind]

theorem cursorReadExact_ne_panic (error : SshError) (count : Nat) (rest : Bytes) :
    cursorReadExact error count rest ≠ .panic := by
  unfold cursorReadExact
  split <;> simp

theorem cursorReadU8_ne_panic (error : SshError) (rest : Bytes) :
    cursorReadU8 error rest ≠ .panic := by
  unfold cursorReadU8
  split <;> simp

theorem cursorReadU32_ne_panic (error : SshError) (rest : Bytes) :
    cursorReadU32 error rest ≠ .panic := by
  unfold cursorReadU32
  split <;> simp

theorem deserialize_ne_panic (data : Bytes) : deserialize data ≠ .panic := by
  unfold deserialize
  split
  · simp
  · refine Outcome.bind_ne_panic (cursorReadU32_ne_panic _ _) fun p _ => ?_
    dsimp only
    split
    · simp
    · split
      · simp
      · refine Outcome.bind_ne_panic (cursorReadU8_ne_panic _ _) fun q _ => ?_
        split
        · simp
        · rename_i hpadding
          rw [checkedSub_of_le (by omega), Outcome.ok_bind,
            checkedSub_of_le (by omega), Outcome.ok_bind]
          split
          · simp
          · refine Outcome.bind_ne_panic (cursorReadU8_ne_panic _ _) fun r _ => ?_
            rw [checkedSub_of_le (by omega), Outcome.ok_bind]
            exact Outcome.bind_ne_panic (cursorReadExact_ne_panic _ _ _) fun _ _ => by simp

end SwiftSsh.PacketCodec
