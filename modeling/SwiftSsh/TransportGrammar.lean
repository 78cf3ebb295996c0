import SwiftSsh.DuplexTransport
import SwiftSsh.PacketGrammar
import SwiftSsh.RecvSafety

namespace SwiftSsh.TransportGrammar

open SwiftSsh.ByteWords
open SwiftSsh.RustOutcome
open SwiftSsh.ByteProgram
open SwiftSsh.ByteProgram.Program
open SwiftSsh.WireTypes
open SwiftSsh.WireBuffer
open SwiftSsh.PacketCodec
open SwiftSsh.PacketGrammar
open SwiftSsh.SessionCrypto
open SwiftSsh.PacketTransport
open SwiftSsh.TransportLockstep

/-- The authentication code that an incoming packet must carry. -/
def recvTag (P : Primitives) (keys : SessionKeys) (data : Bytes) : Bytes :=
  match keys.recvMacKey with
  | some macKey => computeHmac P macKey (be32 keys.recvSeq ++ data)
  | none => []

/-- The padding of a packet that fills the first block and keeps the limits. -/
structure Framed (keys : SessionKeys) (packet : SshPacket) (padding : Bytes) : Prop where
  count : padding.length ≤ 255
  limit : 2 + packet.payload.length + padding.length ≤ maxPacketSize
  block : blockSizeOf keys ≤ 6 + packet.payload.length + padding.length

/-- A packet on the wire, as a receiver with these keys takes it. -/
def wirePacket (P : Primitives) (keys : SessionKeys) (packet : SshPacket) (padding : Bytes) :
    Bytes :=
  decrypted P keys (frame packet padding) ++ recvTag P keys (frame packet padding)

variable {P : Primitives} {keys later : SessionKeys} {packet : SshPacket}
variable {input rest data padding : Bytes}

theorem decrypted_decrypted (P : Primitives) (keys : SessionKeys) (data : Bytes) :
    decrypted P keys (decrypted P keys data) = data := by
  rw [decrypted]
  split <;> simp [decrypted, *]

theorem lengthField_frame (hlimit : 2 + packet.payload.length + padding.length ≤ maxPacketSize) :
    lengthField (frame packet padding) = .ok (2 + packet.payload.length + padding.length) := by
  have hfield := lengthField_be32 (UInt32.ofNat (2 + packet.payload.length + padding.length))
    ([UInt8.ofNat padding.length] ++ [packet.msgType] ++ packet.payload ++ padding)
  rw [toNat_ofNat_of_le_maxPacketSize hlimit] at hfield
  rw [← hfield, frame]
  simp only [List.append_assoc, List.cons_append, List.nil_append]

/-- A whole frame is as long as its length field says. -/
structure Whole (keys : SessionKeys) (data : Bytes) : Prop where
  block : blockSizeOf keys ≤ data.length
  field : ∃ packetLength, lengthField data = .ok packetLength ∧ packetLength ≤ maxPacketSize ∧
    data.length = 4 + packetLength

theorem whole_of_framed (hframed : Framed keys packet padding) :
    Whole keys (frame packet padding) := by
  have hlength := frame_length packet padding
  refine ⟨?_, _, lengthField_frame hframed.limit, hframed.limit, ?_⟩
  · rw [hlength]
    exact hframed.block
  · omega

theorem deserialize_whole_iff (hwhole : Whole keys data) :
    deserialize data = .ok packet ↔
      ∃ padding, Framed keys packet padding ∧ data = frame packet padding := by
  constructor
  · intro hok
    obtain ⟨padding, trailing, hpadding, hlimit, hdata⟩ :=
      holds_iff_frame.mp (deserialize_eq_ok_iff.mp hok)
    obtain ⟨hblock, packetLength, hfield, -, hlength⟩ := hwhole
    have hframe := frame_length packet padding
    rw [hdata, lengthField_append _ (by omega), lengthField_frame hlimit] at hfield
    obtain rfl := Outcome.ok.inj hfield
    rw [hdata, List.length_append] at hlength
    have htrailing : trailing = [] := List.eq_nil_of_length_eq_zero (by omega)
    rw [htrailing, List.append_nil] at hdata
    refine ⟨padding, ⟨hpadding, hlimit, ?_⟩, hdata⟩
    rw [hdata] at hblock
    omega
  · rintro ⟨padding, hframed, rfl⟩
    have hread := @deserialize_frame packet padding [] hframed.count hframed.limit
    rwa [List.append_nil] at hread

/-- A frame is only returned when all of it has come in. -/
theorem complete_of_recvBody {blockSize packetLength : Nat} {firstBlock : Bytes}
    (hblock : blockSize ≤ maxPacketSize)
    (hok : (run (recvBody P blockSize firstBlock packetLength) keys input).outcome = .ok data) :
    packetLength ≤ maxPacketSize ∧ blockSize ≤ 4 + packetLength ∧
      4 + packetLength ≤ blockSize + input.length := by
  have hmax : packetLength ≤ maxPacketSize := by
    by_contra hlarge
    rw [recvBody, if_pos (Nat.lt_of_not_le hlarge)] at hok
    cases hok
  have hle : blockSize ≤ 4 + packetLength := by
    by_contra hshort
    rw [RecvSafety.run_recvBody_panic _ _ _ hblock (Nat.lt_of_not_le hshort)] at hok
    cases hok
  refine ⟨hmax, hle, ?_⟩
  by_contra hshort
  rw [recvBody, if_neg (Nat.not_lt_of_le hmax), checkedSub_of_le hle, run_lift_bind] at hok
  obtain ⟨rest, hrest, -⟩ := run_bind_eq_ok hok
  rw [readRest, if_pos (by omega), run_readExact_short _ _ _ _ (by omega)] at hrest
  cases hrest

theorem recvFrame_eq_ok_iff :
    run (recvFrame P) keys input = ⟨.ok data, later, rest, []⟩ ↔
      Whole keys data ∧ input = decrypted P keys data ++ rest ∧
        later = afterDecrypt keys data.length := by
  have height := eight_le_blockSizeOf keys
  constructor
  · intro hok
    have houtcome := congrArg Run.outcome hok
    have hblock : blockSizeOf keys ≤ input.length := by
      by_contra hshort
      simp only [recvFrame, run_getState_bind] at houtcome
      rw [run_readExact_short _ _ _ _ (Nat.lt_of_not_le hshort)] at houtcome
      cases houtcome
    have hfirst : (input.take (blockSizeOf keys)).length = blockSizeOf keys := by
      rw [List.length_take]
      omega
    obtain ⟨packetLength, hfield⟩ := RecvSafety.exists_lengthField
      (decrypted P keys (input.take (blockSizeOf keys)))
      (by rw [decrypted_length, hfirst]; omega)
    rw [RecvSafety.run_recvFrame_firstBlock hblock hfield] at houtcome
    obtain ⟨hmax, hle, hcomplete⟩ :=
      complete_of_recvBody (RecvSafety.blockSizeOf_le_maxPacketSize keys) houtcome
    rw [List.length_drop] at hcomplete
    -- The frame is complete, and reading it goes through.
    have hwire : (input.take (4 + packetLength)).length = 4 + packetLength := by
      rw [List.length_take]
      omega
    have hprefix : input.take (blockSizeOf keys) =
        (input.take (4 + packetLength)).take (blockSizeOf keys) := by
      rw [List.take_take, Nat.min_eq_left hle]
    have hwhole : lengthField (decrypted P keys (input.take (4 + packetLength))) =
        .ok packetLength := by
      rw [← List.take_append_drop (blockSizeOf keys) (input.take (4 + packetLength)), ← hprefix,
        decrypted_append, lengthField_append _ (by rw [decrypted_length, hfirst]; omega), hfield]
    have hrun := run_recvFrame (input.drop (4 + packetLength)) (by omega) hwhole hmax hwire
    rw [List.take_append_drop] at hrun
    rw [hrun] at hok
    cases hok
    rw [decrypted_decrypted, List.take_append_drop, decrypted_length]
    refine ⟨⟨?_, packetLength, hwhole, hmax, ?_⟩, rfl, rfl⟩
    · rw [decrypted_length]
      omega
    · rw [decrypted_length, hwire]
  · rintro ⟨⟨hblock, packetLength, hfield, hmax, hlength⟩, rfl, rfl⟩
    have hrun := @run_recvFrame P keys (decrypted P keys data) packetLength rest
      (by rwa [decrypted_length]) (by rwa [decrypted_decrypted]) hmax
      (by rw [decrypted_length, hlength])
    rw [decrypted_decrypted, decrypted_length] at hrun
    exact hrun

theorem checkMac_eq_ok_iff (count : Nat) :
    run (checkMac P keys.recvSeq data) (afterRecv keys count) input =
        ⟨.ok (), later, rest, []⟩ ↔
      input = recvTag P keys data ++ rest ∧ later = afterRecv keys count := by
  have hsame : (afterRecv keys count).recvMacKey = keys.recvMacKey := rfl
  rw [checkMac, run_getState_bind, hsame, recvTag]
  cases keys.recvMacKey with
  | none =>
      dsimp only
      rw [run_pure, List.nil_append]
      constructor
      · rintro ⟨⟩
        exact ⟨rfl, rfl⟩
      · rintro ⟨rfl, rfl⟩
        rfl
  | some macKey =>
      dsimp only
      constructor
      · intro hok
        rw [run_readExact_bind] at hok
        split at hok
        · rename_i hlength
          rw [run_lift, verifyHmac] at hok
          split at hok
          · rename_i htag
            cases hok
            rw [computeHmac, htag, List.take_append_drop]
            exact ⟨rfl, rfl⟩
          · cases hok
        · cases hok
      · rintro ⟨rfl, rfl⟩
        rw [run_readExact_append _ _ _ _ _ _ (computeHmac_length P macKey _), run_lift, verifyHmac,
          computeHmac, if_pos rfl]

/-- What the receiver takes for a packet: its frame through the keystream, and the
authentication code of the frame. -/
theorem recvPacket_eq_ok_iff :
    run (recvPacket P) keys input = ⟨.ok packet, later, rest, []⟩ ↔
      ∃ padding, Framed keys packet padding ∧
        input = wirePacket P keys packet padding ++ rest ∧
        later = afterRecv keys (frame packet padding).length := by
  rw [recvPacket, run_bind_eq_ok_iff]
  constructor
  · rintro ⟨data, middle, between, hframe, hlater⟩
    obtain ⟨hwhole, rfl, rfl⟩ := recvFrame_eq_ok_iff.mp hframe
    rw [run_nextRecvSeq_bind, run_bind_eq_ok_iff] at hlater
    obtain ⟨⟨⟩, last, unread, hcheck, hread⟩ := hlater
    obtain ⟨rfl, rfl⟩ := (checkMac_eq_ok_iff data.length).mp hcheck
    rw [run_lift] at hread
    obtain ⟨hpacket, rfl, rfl⟩ : deserialize data = .ok packet ∧ _ = later ∧ unread = rest := by
      simpa only [Run.mk.injEq, and_true] using hread
    obtain ⟨padding, hframed, rfl⟩ := (deserialize_whole_iff hwhole).mp hpacket
    refine ⟨padding, hframed, ?_, rfl⟩
    rw [wirePacket, List.append_assoc]
  · rintro ⟨padding, hframed, rfl, rfl⟩
    have hwhole := whole_of_framed hframed
    refine ⟨frame packet padding, _, recvTag P keys (frame packet padding) ++ rest,
      recvFrame_eq_ok_iff.mpr ⟨hwhole, ?_, rfl⟩, ?_⟩
    · rw [wirePacket, List.append_assoc]
    · rw [run_nextRecvSeq_bind, run_bind_eq_ok_iff]
      refine ⟨(), _, rest, (checkMac_eq_ok_iff (frame packet padding).length).mpr ⟨rfl, rfl⟩, ?_⟩
      rw [run_lift, (deserialize_whole_iff hwhole).mpr ⟨padding, hframed, rfl⟩]

/-- The bytes of packets one after another, each with its padding. -/
def wirePackets (P : Primitives) : SessionKeys → List (SshPacket × Bytes) → Bytes
  | _, [] => []
  | keys, (packet, padding) :: packets =>
      wirePacket P keys packet padding ++
        wirePackets P (afterRecv keys (frame packet padding).length) packets

/-- The keys after packets have been received. -/
def afterPackets : SessionKeys → List (SshPacket × Bytes) → SessionKeys
  | keys, [] => keys
  | keys, (packet, padding) :: packets =>
      afterPackets (afterRecv keys (frame packet padding).length) packets

theorem blockSizeOf_afterRecv (keys : SessionKeys) (count : Nat) :
    blockSizeOf (afterRecv keys count) = blockSizeOf keys := by
  obtain ⟨sendSeq, recvSeq, sessionId, ciphers, sendMacKey, recvMacKey⟩ := keys
  cases ciphers <;> rfl

theorem framed_afterRecv_iff (count : Nat) :
    Framed (afterRecv keys count) packet padding ↔ Framed keys packet padding := by
  constructor
  · rintro ⟨hcount, hlimit, hblock⟩
    exact ⟨hcount, hlimit, blockSizeOf_afterRecv keys count ▸ hblock⟩
  · rintro ⟨hcount, hlimit, hblock⟩
    exact ⟨hcount, hlimit, (blockSizeOf_afterRecv keys count).symm ▸ hblock⟩

/-- Packets are received one after another, with the keys as they have become. -/
def Receives (P : Primitives) (packets : List SshPacket) (keys : SessionKeys) (input : Bytes)
    (later : SessionKeys) (rest : Bytes) : Prop :=
  (recvAll P packets.length keys input).1.map Prod.fst = packets ∧
    (recvAll P packets.length keys input).2 = (later, rest)

theorem receives_cons_iff {packets : List SshPacket} :
    Receives P (packet :: packets) keys input later rest ↔
      ∃ middle between, run (recvPacket P) keys input = ⟨.ok packet, middle, between, []⟩ ∧
        Receives P packets middle between later rest := by
  have hwritten := DuplexTransport.writesNothing_recvPacket P keys input
  rw [Receives, List.length_cons, recvAll]
  generalize run (recvPacket P) keys input = received at hwritten ⊢
  rcases received with ⟨first | error | _, middle, between, written⟩
  · obtain rfl : written = [] := hwritten
    dsimp only
    rw [List.map_cons, List.cons.injEq]
    constructor
    · rintro ⟨⟨rfl, hpackets⟩, hlater⟩
      exact ⟨middle, between, rfl, hpackets, hlater⟩
    · rintro ⟨_, _, heq, hpackets, hlater⟩
      cases heq
      exact ⟨⟨rfl, hpackets⟩, hlater⟩
  · constructor
    · rintro ⟨⟨⟩, -⟩
    · rintro ⟨_, _, ⟨⟩, -⟩
  · constructor
    · rintro ⟨⟨⟩, -⟩
    · rintro ⟨_, _, ⟨⟩, -⟩

/-- The stream opens with frames of the packets, each with a permitted padding. -/
def InFrames (P : Primitives) (packets : List SshPacket) (keys : SessionKeys) (input : Bytes)
    (later : SessionKeys) (rest : Bytes) : Prop :=
  ∃ framed : List (SshPacket × Bytes), framed.map Prod.fst = packets ∧
    (∀ entry ∈ framed, Framed keys entry.1 entry.2) ∧
    input = wirePackets P keys framed ++ rest ∧ later = afterPackets keys framed

theorem inFrames_nil_iff : InFrames P [] keys input later rest ↔ input = rest ∧ later = keys := by
  constructor
  · rintro ⟨framed, hframed, -, rfl, rfl⟩
    obtain rfl := List.map_eq_nil_iff.mp hframed
    exact ⟨rfl, rfl⟩
  · rintro ⟨rfl, rfl⟩
    exact ⟨[], rfl, by simp, rfl, rfl⟩

theorem inFrames_cons_iff {packets : List SshPacket} :
    InFrames P (packet :: packets) keys input later rest ↔
      ∃ middle between, run (recvPacket P) keys input = ⟨.ok packet, middle, between, []⟩ ∧
        InFrames P packets middle between later rest := by
  constructor
  · rintro ⟨framed, hpackets, hframed, rfl, rfl⟩
    obtain ⟨⟨_, padding⟩, framed, rfl, rfl, rfl⟩ := List.map_eq_cons_iff.mp hpackets
    obtain ⟨hpadding, hrest⟩ := List.forall_mem_cons.mp hframed
    refine ⟨_, wirePackets P _ framed ++ rest, recvPacket_eq_ok_iff.mpr
      ⟨padding, hpadding, ?_, rfl⟩, framed, rfl, ?_, rfl, rfl⟩
    · rw [wirePackets, List.append_assoc]
    · intro entry hentry
      exact (framed_afterRecv_iff _).mpr (hrest entry hentry)
  · rintro ⟨middle, between, hfirst, framed, rfl, hframed, rfl, rfl⟩
    obtain ⟨padding, hpadding, rfl, rfl⟩ := recvPacket_eq_ok_iff.mp hfirst
    refine ⟨(packet, padding) :: framed, rfl, ?_, ?_, rfl⟩
    · rw [List.forall_mem_cons]
      refine ⟨hpadding, fun entry hentry => ?_⟩
      exact (framed_afterRecv_iff _).mp (hframed entry hentry)
    · rw [wirePackets, List.append_assoc]

/-- The streams from which given packets are received: their frames one after another,
under some padding, and what is left over. -/
theorem receives_iff (P : Primitives) (packets : List SshPacket) (keys later : SessionKeys)
    (input rest : Bytes) :
    Receives P packets keys input later rest ↔
      ∃ framed : List (SshPacket × Bytes), framed.map Prod.fst = packets ∧
        (∀ entry ∈ framed, Framed keys entry.1 entry.2) ∧
        input = wirePackets P keys framed ++ rest ∧ later = afterPackets keys framed := by
  change _ ↔ InFrames P packets keys input later rest
  induction packets generalizing keys input with
  | nil =>
      rw [inFrames_nil_iff]
      constructor
      · rintro ⟨-, hlater⟩
        cases hlater
        exact ⟨rfl, rfl⟩
      · rintro ⟨rfl, rfl⟩
        exact ⟨rfl, rfl⟩
  | cons packet packets ih =>
      rw [receives_cons_iff, inFrames_cons_iff]
      simp only [ih]

end SwiftSsh.TransportGrammar
