import SwiftSsh.PacketCodec

/-!
The language read by the packet decoder, and how far the packet encoder stays
inside it: the padding count has to fit its byte, and the length word is not
part of the aligned length.
-/

namespace SwiftSsh.PacketGrammar

open SwiftSsh.ByteWords
open SwiftSsh.RustOutcome
open SwiftSsh.WireTypes
open SwiftSsh.WireBuffer
open SwiftSsh.PacketCodec

/-- `data` starts with the packet, written with some padding of at most 255
bytes inside the size limit. -/
def Holds (packet : SshPacket) (data : Bytes) : Prop :=
  ∃ padding trailing : Bytes,
    padding.length ≤ 255 ∧
    2 + packet.payload.length + padding.length ≤ maxPacketSize ∧
    data = be32 (UInt32.ofNat (2 + packet.payload.length + padding.length)) ++
      [UInt8.ofNat padding.length] ++ [packet.msgType] ++ packet.payload ++
      padding ++ trailing

theorem holds_iff_frame {packet : SshPacket} {data : Bytes} :
    Holds packet data ↔ ∃ padding trailing : Bytes,
      padding.length ≤ 255 ∧
      2 + packet.payload.length + padding.length ≤ maxPacketSize ∧
      data = frame packet padding ++ trailing := by
  unfold Holds frame
  simp only [List.append_assoc, List.cons_append, List.nil_append]

theorem exists_header_of_length {data : Bytes} (hlength : 6 ≤ data.length) :
    ∃ (length : UInt32) (count msgType : UInt8) (rest : Bytes),
      data = be32 length ++ count :: msgType :: rest := by
  match data, hlength with
  | a :: b :: c :: d :: count :: msgType :: rest, _ =>
    refine ⟨ofBe32 a b c d, count, msgType, rest, ?_⟩
    rw [be32_ofBe32]
    rfl

/-- Everything an accepted input went through: the four guards, and the cut of
the rest into payload and what follows. -/
theorem guards_of_deserialize {data : Bytes} {packet : SshPacket}
    (hok : deserialize data = .ok packet) :
    ∃ (length : UInt32) (count : UInt8) (rest : Bytes),
      data = be32 length ++ count :: packet.msgType :: rest ∧
      length.toNat ≤ maxPacketSize ∧ 4 + length.toNat ≤ data.length ∧
      2 + count.toNat ≤ length.toNat ∧
      packet.payload = rest.take (length.toNat - 2 - count.toNat) := by
  unfold deserialize at hok
  split at hok
  · cases hok
  · rename_i hlong
    obtain ⟨length, count, msgType, rest, hdata⟩ :=
      exists_header_of_length (Nat.not_lt.mp hlong)
    rw [hdata, cursorReadU32_be32, Outcome.ok_bind, ← hdata] at hok
    dsimp only at hok
    split at hok
    · cases hok
    · rename_i hlimit
      split at hok
      · cases hok
      · rename_i hcomplete
        rw [cursorReadU8_cons, Outcome.ok_bind] at hok
        dsimp only at hok
        split at hok
        · cases hok
        · rename_i hpadding
          rw [checkedSub_of_le (by omega), Outcome.ok_bind,
            checkedSub_of_le (by omega), Outcome.ok_bind] at hok
          split at hok
          · cases hok
          · rename_i hpayload
            rw [cursorReadU8_cons, Outcome.ok_bind] at hok
            dsimp only at hok
            rw [checkedSub_of_le (by omega), Outcome.ok_bind] at hok
            obtain ⟨⟨payload, after⟩, hread, hpacket⟩ := Outcome.bind_eq_ok hok
            have htaken : payload = rest.take (length.toNat - 1 - count.toNat - 1) := by
              unfold cursorReadExact at hread
              split at hread
              · exact (Prod.mk.inj (Outcome.ok.inj hread)).1.symm
              · cases hread
            have hsame : length.toNat - 1 - count.toNat - 1 =
                length.toNat - 2 - count.toNat := by
              omega
            rw [hsame] at htaken
            rw [← Outcome.ok.inj hpacket]
            exact ⟨length, count, rest, hdata, by omega, by omega, by omega, htaken⟩

theorem deserialize_eq_ok_iff {data : Bytes} {packet : SshPacket} :
    deserialize data = .ok packet ↔ Holds packet data := by
  rw [holds_iff_frame]
  constructor
  · intro hok
    obtain ⟨length, count, rest, hdata, hlimit, hcomplete, hroom, hpayload⟩ :=
      guards_of_deserialize hok
    have hrest : length.toNat - 2 ≤ rest.length := by
      rw [hdata] at hcomplete
      simp only [List.length_append, be32_length, List.length_cons] at hcomplete
      omega
    have hpayloadLength : packet.payload.length = length.toNat - 2 - count.toNat := by
      rw [hpayload, List.length_take]
      omega
    -- the padding is what the length field leaves after the payload
    let after := rest.drop (length.toNat - 2 - count.toNat)
    have hpaddingLength : (after.take count.toNat).length = count.toNat := by
      rw [List.length_take, List.length_drop]
      omega
    refine ⟨after.take count.toNat, after.drop count.toNat, ?_, ?_, ?_⟩
    · rw [hpaddingLength]
      have hbyte := count.toNat_lt
      omega
    · omega
    · have hfield : 2 + packet.payload.length + count.toNat = length.toNat := by
        omega
      unfold frame
      rw [hpaddingLength, hfield, UInt32.ofNat_toNat, UInt8.ofNat_toNat, hdata]
      simp only [List.append_assoc, List.cons_append, List.nil_append]
      rw [List.take_append_drop, hpayload, List.take_append_drop]
  · rintro ⟨padding, trailing, hpadding, hlength, rfl⟩
    exact deserialize_frame trailing hpadding hlength

/-- The decoder accepts exactly its grammar: a byte string is read as a packet
if and only if it starts with that packet, no byte string starts with two, and
every other byte string is refused without a panic. -/
theorem deserialize_accepts_grammar (data : Bytes) :
    (∀ packet, deserialize data = .ok packet ↔ Holds packet data) ∧
    (∀ packet other, Holds packet data → Holds other data → packet = other) ∧
    ((¬ ∃ packet, Holds packet data) → ∃ error, deserialize data = .err error) := by
  refine ⟨fun packet => deserialize_eq_ok_iff, ?_, ?_⟩
  · intro packet other hpacket hother
    have hread := deserialize_eq_ok_iff.mpr hpacket
    rw [deserialize_eq_ok_iff.mpr hother] at hread
    exact (Outcome.ok.inj hread).symm
  · intro hnone
    cases hresult : deserialize data with
    | ok packet => exact absurd ⟨packet, deserialize_eq_ok_iff.mp hresult⟩ hnone
    | err error => exact ⟨error, rfl⟩
    | panic => exact absurd hresult (deserialize_ne_panic data)

/-- Shortest input, and the boundary where the padding count leaves no payload. -/
example : deserialize [0, 0, 0, 2, 0, 7] = .ok ⟨7, []⟩ ∧
    deserialize [0, 0, 0, 2, 1, 7] = .err (.invalidPacket "Empty payload") := by
  decide +kernel

/-- Bytes missing from the smallest packet (length byte, message byte, payload
and four bytes of padding) to the next multiple of the raised block size. -/
def gap (blockSize payloadLength : Nat) : Nat :=
  (max blockSize 8 - (6 + payloadLength) % max blockSize 8) % max blockSize 8

theorem paddingLen_eq_gap (packet : SshPacket) (blockSize : Nat) :
    paddingLen packet blockSize = minPadding + gap blockSize packet.payload.length := by
  have hsmallest : 1 + (1 + packet.payload.length) + minPadding =
      6 + packet.payload.length := by
    unfold minPadding
    omega
  have hpos : 0 < max blockSize 8 := by omega
  unfold paddingLen gap
  dsimp only
  rw [hsmallest]
  split
  · rename_i hzero
    rw [hzero, Nat.sub_zero, Nat.mod_self, Nat.add_zero]
  · have hlt := Nat.mod_lt (6 + packet.payload.length) hpos
    rw [Nat.mod_eq_of_lt (a := max blockSize 8 - _) (by omega)]

theorem packetLength_eq_gap (packet : SshPacket) (blockSize : Nat) :
    packetLength packet blockSize =
      6 + packet.payload.length + gap blockSize packet.payload.length := by
  unfold packetLength
  rw [paddingLen_eq_gap]
  unfold minPadding
  omega

/-- Reading the bytes back gives the packet whatever follows them, and neither
the padding count nor the length lost a bit in its cast. -/
def Inverts (packet : SshPacket) (blockSize : Nat) (bytes : Bytes) : Prop :=
  (∀ trailing, deserialize (bytes ++ trailing) = .ok packet) ∧
  (UInt8.ofNat (paddingLen packet blockSize)).toNat = paddingLen packet blockSize ∧
  (UInt32.ofNat (packetLength packet blockSize)).toNat = packetLength packet blockSize

theorem inverts_of_paddingLen_le {packet : SshPacket} {blockSize : Nat}
    {rng : Nat → UInt8} {bytes : Bytes} (hok : serialize packet blockSize rng = .ok bytes)
    (hpadding : paddingLen packet blockSize ≤ 255) : Inverts packet blockSize bytes := by
  obtain ⟨hlimit, rfl⟩ := serialize_eq_ok_iff.mp hok
  refine ⟨?_, ?_, toNat_ofNat_of_le_maxPacketSize hlimit⟩
  · intro trailing
    apply deserialize_frame
    · rw [randomBytes_length]
      exact hpadding
    · rw [randomBytes_length]
      unfold packetLength at hlimit
      omega
  · rw [UInt8.toNat_ofNat', Nat.mod_eq_of_lt (by omega)]

/-- A packet that reads back as itself was written with a padding count that
fits its byte: both readings of the length field leave the same padding. -/
theorem paddingLen_le_of_deserialize {packet : SshPacket} {blockSize : Nat}
    {rng : Nat → UInt8} {bytes : Bytes} (hok : serialize packet blockSize rng = .ok bytes)
    (hread : deserialize bytes = .ok packet) : paddingLen packet blockSize ≤ 255 := by
  obtain ⟨hlimit, rfl⟩ := serialize_eq_ok_iff.mp hok
  obtain ⟨padding, trailing, hpadding, hlength, hbytes⟩ :=
    holds_iff_frame.mp (deserialize_eq_ok_iff.mp hread)
  unfold frame at hbytes
  simp only [List.append_assoc, randomBytes_length] at hbytes
  have hfields := be32_injective (List.append_inj hbytes (by simp)).1
  have hlengths : 2 + packet.payload.length + paddingLen packet blockSize =
      2 + packet.payload.length + padding.length := by
    rw [← toNat_ofNat_of_le_maxPacketSize hlength, ← hfields,
      toNat_ofNat_of_le_maxPacketSize]
    unfold packetLength at hlimit
    omega
  omega

/-- The encoder is inverted by the decoder exactly when the padding needed to
reach the next multiple of the block size fits the padding byte, or the packet
is refused as too large. -/
theorem serialize_inverts_iff (packet : SshPacket) (blockSize : Nat)
    (rng : Nat → UInt8) :
    (∀ bytes, serialize packet blockSize rng = .ok bytes →
      Inverts packet blockSize bytes) ↔
    gap blockSize packet.payload.length ≤ 251 ∨
      35000 < 6 + packet.payload.length + gap blockSize packet.payload.length := by
  have hpadding := paddingLen_eq_gap packet blockSize
  have hlength := packetLength_eq_gap packet blockSize
  have hmin : minPadding = 4 := rfl
  have hmax : maxPacketSize = 35000 := rfl
  constructor
  · intro hinverts
    by_contra hlarge
    rw [not_or] at hlarge
    have hok : serialize packet blockSize rng =
        .ok (frame packet (randomBytes rng (paddingLen packet blockSize))) :=
      serialize_eq_ok_iff.mpr ⟨by omega, rfl⟩
    have hread := (hinverts _ hok).1 []
    rw [List.append_nil] at hread
    have hfits := paddingLen_le_of_deserialize hok hread
    omega
  · intro hsmall bytes hok
    apply inverts_of_paddingLen_le hok
    obtain ⟨hlimit, -⟩ := serialize_eq_ok_iff.mp hok
    omega

/-- With block size 512 an empty message gets 510 bytes of padding, counted as
254: the reader takes the other 256 for payload. -/
theorem serialize_512_not_inverted :
    ¬ ∀ (packet : SshPacket) (blockSize : Nat) (rng : Nat → UInt8) (bytes : Bytes),
      serialize packet blockSize rng = .ok bytes → Inverts packet blockSize bytes := by
  intro hinverts
  have hfits := (hinverts ⟨2, []⟩ 512 (fun _ => 0) _
    (serialize_eq_ok_iff.mpr ⟨by decide, rfl⟩)).2.1
  revert hfits
  decide

/-- The fields of a packet as RFC 4253 section 6 lays them out. -/
def LaidOut (packet : SshPacket) (bytes : Bytes) : Prop :=
  ∃ (length : UInt32) (count : UInt8) (padding : Bytes),
    bytes = be32 length ++ [count, packet.msgType] ++ packet.payload ++ padding ∧
    length.toNat = bytes.length - 4 ∧ count.toNat = padding.length ∧
    4 ≤ padding.length ∧ padding.length ≤ 255

/-- A whole packet as RFC 4253 section 6 has it. -/
structure Section6 (packet : SshPacket) (blockSize : Nat) (bytes : Bytes) : Prop where
  aligned : blockSize ∣ bytes.length
  minimum : 16 ≤ bytes.length
  layout : LaidOut packet bytes

/-- With a block size of at most 252 the layout is as it should be: only the
alignment and the minimum size are in question. -/
theorem layout_of_serialize {packet : SshPacket} {blockSize : Nat}
    {rng : Nat → UInt8} {bytes : Bytes} (hblock : blockSize ≤ 252)
    (hok : serialize packet blockSize rng = .ok bytes) : LaidOut packet bytes := by
  obtain ⟨hlimit, rfl⟩ := serialize_eq_ok_iff.mp hok
  have hlow := minPadding_le_paddingLen packet blockSize
  have hhigh := paddingLen_lt packet blockSize
  have hmin : minPadding = 4 := rfl
  have hlength : 2 + packet.payload.length + paddingLen packet blockSize ≤
      maxPacketSize := by
    unfold packetLength at hlimit
    omega
  refine ⟨_, _, randomBytes rng (paddingLen packet blockSize), rfl, ?_, ?_, ?_, ?_⟩
  · rw [frame_length, randomBytes_length, toNat_ofNat_of_le_maxPacketSize hlength]
    omega
  · rw [randomBytes_length, UInt8.toNat_ofNat', Nat.mod_eq_of_lt (by omega)]
  · rw [randomBytes_length]
    omega
  · rw [randomBytes_length]
    omega

/-- The aligned length leaves the length word out. -/
theorem dvd_length_sub_four {packet : SshPacket} {blockSize : Nat}
    {rng : Nat → UInt8} {bytes : Bytes} (hok : serialize packet blockSize rng = .ok bytes) :
    4 ≤ bytes.length ∧ max blockSize 8 ∣ bytes.length - 4 := by
  obtain ⟨-, rfl⟩ := serialize_eq_ok_iff.mp hok
  have hlength : (frame packet (randomBytes rng (paddingLen packet blockSize))).length - 4 =
      packetLength packet blockSize := by
    rw [frame_length, randomBytes_length]
    unfold packetLength
    omega
  constructor
  · rw [frame_length]
    omega
  · rw [hlength]
    exact dvd_packetLength packet blockSize

/-- For the two block sizes in use no packet that is sent meets section 6, although its
fields are laid out as they should be; the statement is met only by the packets that are
refused as too large. -/
theorem serialize_section6_iff (packet : SshPacket) (blockSize : Nat)
    (rng : Nat → UInt8) (hblock : blockSize = 8 ∨ blockSize = 16) :
    ((∀ bytes, serialize packet blockSize rng = .ok bytes →
      Section6 packet blockSize bytes) ↔
    35000 < 6 + packet.payload.length + gap blockSize packet.payload.length) ∧
    ∀ bytes, serialize packet blockSize rng = .ok bytes → LaidOut packet bytes := by
  have hlength := packetLength_eq_gap packet blockSize
  have hmax : maxPacketSize = 35000 := rfl
  refine ⟨?_, fun bytes => layout_of_serialize (by omega)⟩
  constructor
  · intro hconforms
    by_contra hsmall
    have hok : serialize packet blockSize rng =
        .ok (frame packet (randomBytes rng (paddingLen packet blockSize))) :=
      serialize_eq_ok_iff.mpr ⟨by omega, rfl⟩
    obtain ⟨hfour, hrest⟩ := dvd_length_sub_four hok
    have hwhole := (hconforms _ hok).aligned
    -- the length is a multiple of the block, and four more than one
    obtain rfl | rfl := hblock
    · simp only [Nat.max_self] at hrest
      omega
    · rw [show max 16 8 = 16 from rfl] at hrest
      omega
  · intro hlarge bytes hok
    obtain ⟨hlimit, -⟩ := serialize_eq_ok_iff.mp hok
    omega

theorem serialize_section6_iff_newKeys :
    (¬ ∀ bytes, serialize ⟨21, []⟩ 16 (fun _ => 0) = .ok bytes → Section6 ⟨21, []⟩ 16 bytes) ∧
      ∀ bytes, serialize ⟨21, []⟩ 16 (fun _ => 0) = .ok bytes → LaidOut ⟨21, []⟩ bytes := by
  obtain ⟨hiff, hlayout⟩ := serialize_section6_iff ⟨21, []⟩ 16 (fun _ => 0) (Or.inr rfl)
  refine ⟨?_, hlayout⟩
  rw [hiff]
  decide

/-- The message of one byte sent before the key exchange is 12 bytes long. -/
theorem serialize_8_not_section6 :
    ¬ ∀ (packet : SshPacket) (blockSize : Nat) (rng : Nat → UInt8),
      blockSize = 8 ∨ blockSize = 16 → ∀ bytes,
        serialize packet blockSize rng = .ok bytes → Section6 packet blockSize bytes := by
  intro hconforms
  have hminimum := (hconforms ⟨21, []⟩ 8 (fun _ => 0) (Or.inl rfl) _
    (serialize_eq_ok_iff.mpr ⟨by decide, rfl⟩)).minimum
  revert hminimum
  decide

end SwiftSsh.PacketGrammar
