import SwiftSsh.PacketTransport

namespace SwiftSsh.TransportLockstep

open SwiftSsh.ByteWords
open SwiftSsh.RustOutcome
open SwiftSsh.ByteProgram
open SwiftSsh.ByteProgram.Program
open SwiftSsh.WireTypes
open SwiftSsh.PacketCodec
open SwiftSsh.SessionCrypto
open SwiftSsh.PacketTransport

/-- The bytes that a successful send of serialized data puts on the wire. -/
def wireBytes (P : Primitives) (keys : SessionKeys) (data : Bytes) : Bytes :=
  encrypted P keys data ++ sendTag P keys data

theorem blockSizeOf_le (keys : SessionKeys) : blockSizeOf keys ≤ 16 := by
  unfold blockSizeOf aesBlockSize
  split <;> omega

theorem paddingLen_le (packet : SshPacket) (keys : SessionKeys) :
    paddingLen packet (blockSizeOf keys) ≤ 255 := by
  have hlt := paddingLen_lt packet (blockSizeOf keys)
  have hblock := blockSizeOf_le keys
  unfold minPadding at hlt
  omega

theorem serialize_length {packet : SshPacket} {blockSize : Nat} {rng : Nat → UInt8}
    {data : Bytes} (haccept : serialize packet blockSize rng = .ok data) :
    data.length = 4 + packetLength packet blockSize := by
  obtain ⟨-, rfl⟩ := serialize_eq_ok_iff.mp haccept
  rw [frame_length, randomBytes_length, packetLength]
  omega

theorem lengthField_serialize {packet : SshPacket} {blockSize : Nat}
    {rng : Nat → UInt8} {data : Bytes}
    (haccept : serialize packet blockSize rng = .ok data) :
    lengthField data = .ok (packetLength packet blockSize) := by
  obtain ⟨hmax, rfl⟩ := serialize_eq_ok_iff.mp haccept
  have hlength : 2 + packet.payload.length + paddingLen packet blockSize =
      packetLength packet blockSize := by
    unfold packetLength
    omega
  simp only [frame, List.append_assoc, lengthField_be32, randomBytes_length, hlength]
  rw [WireBuffer.toNat_ofNat_of_le_maxPacketSize hmax]

theorem deserialize_serialize {packet : SshPacket} {keys : SessionKeys}
    {rng : Nat → UInt8} {data : Bytes}
    (haccept : serialize packet (blockSizeOf keys) rng = .ok data) :
    deserialize data = .ok packet := by
  obtain ⟨hmax, rfl⟩ := serialize_eq_ok_iff.mp haccept
  have hpadding := paddingLen_le packet keys
  have hframe := @deserialize_frame packet
    (randomBytes rng (paddingLen packet (blockSizeOf keys))) []
  simp only [randomBytes_length, List.append_nil] at hframe
  apply hframe hpadding
  unfold packetLength at hmax
  omega

theorem run_checkMac_sendTag (P : Primitives) (sender receiver : SessionKeys)
    (data tail : Bytes) (hmac : sender.sendMacKey = receiver.recvMacKey) :
    run (checkMac P sender.sendSeq data) receiver (sendTag P sender data ++ tail) =
      ⟨.ok (), receiver, tail, []⟩ := by
  obtain ⟨sendSeq, recvSeq, sessionId, ciphers, sendMacKey, recvMacKey⟩ := receiver
  dsimp only at hmac
  cases recvMacKey with
  | none => simp [checkMac, sendTag, hmac]
  | some macKey =>
      simp only [checkMac, run_getState_bind, sendTag, hmac]
      rw [run_readExact_append _ _ _ _ _ _ (computeHmac_length P _ _)]
      simp [verifyHmac, computeHmac]

theorem run_recvFrame_sent {P : Primitives} {sender receiver : SessionKeys}
    {packet : SshPacket} {rng : Nat → UInt8} {data : Bytes} (tail : Bytes)
    (hmatch : Matching sender receiver)
    (haccept : serialize packet (blockSizeOf sender) rng = .ok data) :
    run (recvFrame P) receiver (wireBytes P sender data ++ tail) =
      ⟨.ok data, afterDecrypt receiver data.length, sendTag P sender data ++ tail, []⟩ := by
  have hdata := hmatch.decrypted_encrypted P data
  have hlength := serialize_length haccept
  have hmax := (serialize_eq_ok_iff.mp haccept).1
  have hblock := blockSize_le_packetLength packet (blockSizeOf sender)
  have hwire : (encrypted P sender data).length =
      4 + packetLength packet (blockSizeOf sender) := by
    rw [encrypted_length, hlength]
  have hfield : lengthField (decrypted P receiver (encrypted P sender data)) =
      .ok (packetLength packet (blockSizeOf sender)) := by
    rw [hdata]
    exact lengthField_serialize haccept
  have hle : blockSizeOf receiver ≤ (encrypted P sender data).length := by
    rw [← hmatch.blockSizeOf_eq]
    omega
  rw [wireBytes, List.append_assoc, run_recvFrame _ hle hfield hmax hwire, hdata,
    encrypted_length]

/-- One packet: what the sender wrote is received as the packet it was given,
and the two sides match again. -/
theorem run_recvPacket_sent {P : Primitives} {sender receiver : SessionKeys}
    {packet : SshPacket} {rng : Nat → UInt8} {data : Bytes} (tail : Bytes)
    (hmatch : Matching sender receiver)
    (haccept : serialize packet (blockSizeOf sender) rng = .ok data) :
    run (recvPacket P) receiver (wireBytes P sender data ++ tail) =
      ⟨.ok packet, afterRecv receiver data.length, tail, []⟩ := by
  have hcheck := run_checkMac_sendTag P sender (afterRecv receiver data.length) data tail
    hmatch.macKey_eq
  rw [recvPacket, run_bind_ok (run_recvFrame_sent tail hmatch haccept), run_nextRecvSeq_bind]
  change (run (checkMac P receiver.recvSeq data >>= _)
    (afterRecv receiver data.length) _).after [] = _
  rw [← hmatch.1, run_bind_ok hcheck, run_lift, deserialize_serialize haccept]
  rfl

/-- A packet together with the random source used for its padding. -/
abbrev Send := SshPacket × (Nat → UInt8)

/-- What one call of `send_packet` did. -/
structure SendRecord where
  packet : SshPacket
  accepted : Bool
  written : Bytes

/-- Successive sends. A rejected packet does not stop the following ones. -/
def sendAll (P : Primitives) : SessionKeys → List Send → SessionKeys × List SendRecord
  | keys, [] => (keys, [])
  | keys, (packet, rng) :: sends =>
      let r := run (sendPacket P rng packet) keys []
      let later := sendAll P r.state sends
      (later.1, ⟨packet, r.outcome = .ok (), r.written⟩ :: later.2)

/-- Everything written by a list of sends. -/
def stream (records : List SendRecord) : Bytes :=
  records.flatMap SendRecord.written

/-- The accepted packets of a list of sends with the bytes of each. -/
def acceptedPackets (records : List SendRecord) : List (SshPacket × Bytes) :=
  (records.filter SendRecord.accepted).map fun record => (record.packet, record.written)

/-- Successive receives, as many as `count` unless one fails: the packets with
the bytes that each call consumed, the final keys and the unread input. -/
def recvAll (P : Primitives) :
    Nat → SessionKeys → Bytes → List (SshPacket × Bytes) × SessionKeys × Bytes
  | 0, keys, input => ([], keys, input)
  | count + 1, keys, input =>
      let r := run (recvPacket P) keys input
      match r.outcome with
      | .ok packet =>
          let later := recvAll P count r.state r.rest
          ((packet, input.take (input.length - r.rest.length)) :: later.1, later.2)
      | _ => ([], r.state, r.rest)

theorem sendAll_cons_rejected {P : Primitives} {keys : SessionKeys}
    {packet : SshPacket} {rng : Nat → UInt8} {error : SshError} (sends : List Send)
    (hreject : serialize packet (blockSizeOf keys) rng = .err error) :
    sendAll P keys ((packet, rng) :: sends) =
      ((sendAll P keys sends).1, ⟨packet, false, []⟩ :: (sendAll P keys sends).2) := by
  simp [sendAll, run_sendPacket_rejected [] hreject]

theorem sendAll_cons_accepted {P : Primitives} {keys : SessionKeys}
    {packet : SshPacket} {rng : Nat → UInt8} {data : Bytes} (sends : List Send)
    (haccept : serialize packet (blockSizeOf keys) rng = .ok data) :
    sendAll P keys ((packet, rng) :: sends) =
      ((sendAll P (afterSend keys data.length) sends).1,
        ⟨packet, true, wireBytes P keys data⟩ ::
          (sendAll P (afterSend keys data.length) sends).2) := by
  simp [sendAll, run_sendPacket_accepted [] haccept, wireBytes]

theorem recvAll_sendAll (P : Primitives) (sends : List Send)
    {sender receiver : SessionKeys} (hmatch : Matching sender receiver) (tail : Bytes) :
    ∃ receiver',
      recvAll P (acceptedPackets (sendAll P sender sends).2).length receiver
          (stream (sendAll P sender sends).2 ++ tail) =
        (acceptedPackets (sendAll P sender sends).2, receiver', tail) ∧
      Matching (sendAll P sender sends).1 receiver' := by
  induction sends generalizing sender receiver with
  | nil => exact ⟨receiver, rfl, hmatch⟩
  | cons send sends ih =>
      obtain ⟨packet, rng⟩ := send
      cases hserialize : serialize packet (blockSizeOf sender) rng with
      | panic => exact absurd hserialize (serialize_ne_panic _ _ _)
      | err error =>
          rw [sendAll_cons_rejected sends hserialize]
          obtain ⟨receiver', hrecv, hmatch'⟩ := ih hmatch
          exact ⟨receiver', hrecv, hmatch'⟩
      | ok data =>
          rw [sendAll_cons_accepted sends hserialize]
          obtain ⟨receiver', hrecv, hmatch'⟩ := ih (hmatch.step data.length)
          refine ⟨receiver', ?_, hmatch'⟩
          have hone := run_recvPacket_sent (P := P)
            (stream (sendAll P (afterSend sender data.length) sends).2 ++ tail)
            hmatch hserialize
          simp only [acceptedPackets, List.filter_cons_of_pos, List.map_cons,
            List.length_cons, recvAll, stream, List.flatMap_cons, List.append_assoc]
          simp only [stream, acceptedPackets] at hone hrecv
          rw [hone]
          dsimp only
          rw [hrecv]
          simp

/-- Transport lockstep: over every list of sends from matching states, a send
fails exactly when serialization rejects the packet and then writes nothing and
changes no key, and receiving returns exactly the accepted packets, each from
exactly its own bytes, and ends in matching states. -/
theorem transport_lockstep (P : Primitives) (sender receiver : SessionKeys)
    (hmatch : Matching sender receiver) (sends : List Send) (tail : Bytes) :
    (∀ keys packet rng error input,
      serialize packet (blockSizeOf keys) rng = .err error →
        run (sendPacket P rng packet) keys input = ⟨.err error, keys, input, []⟩) ∧
    (∀ keys packet rng data input,
      serialize packet (blockSizeOf keys) rng = .ok data →
        (run (sendPacket P rng packet) keys input).outcome = .ok ()) ∧
    ∃ receiver',
      recvAll P (acceptedPackets (sendAll P sender sends).2).length receiver
          (stream (sendAll P sender sends).2 ++ tail) =
        (acceptedPackets (sendAll P sender sends).2, receiver', tail) ∧
      Matching (sendAll P sender sends).1 receiver' := by
  refine ⟨?_, ?_, recvAll_sendAll P sends hmatch tail⟩
  · intro keys packet rng error input hreject
    exact run_sendPacket_rejected input hreject
  · intro keys packet rng data input haccept
    rw [run_sendPacket_accepted input haccept]

/-- Keys with one cipher for both directions and a sequence number about to
wrap. -/
def sampleKeys : SessionKeys :=
  ⟨4294967295, 4294967295, none,
    some ⟨⟨[1, 2], [3], 5⟩, ⟨[1, 2], [3], 5⟩⟩, some [9], some [9]⟩

theorem transport_lockstep_sampleKeys :
    Matching sampleKeys sampleKeys ∧
      ∃ receiver',
        recvAll toyPrimitives
            (acceptedPackets (sendAll toyPrimitives sampleKeys
              [(⟨2, [1, 2, 3]⟩, fun _ => 7), (⟨94, []⟩, fun i => UInt8.ofNat i)]).2).length
            sampleKeys
            (stream (sendAll toyPrimitives sampleKeys
              [(⟨2, [1, 2, 3]⟩, fun _ => 7), (⟨94, []⟩, fun i => UInt8.ofNat i)]).2 ++ [8]) =
          (acceptedPackets (sendAll toyPrimitives sampleKeys
              [(⟨2, [1, 2, 3]⟩, fun _ => 7), (⟨94, []⟩, fun i => UInt8.ofNat i)]).2,
            receiver', [8]) ∧
        Matching (sendAll toyPrimitives sampleKeys
          [(⟨2, [1, 2, 3]⟩, fun _ => 7), (⟨94, []⟩, fun i => UInt8.ofNat i)]).1 receiver' := by
  have hmatch : Matching sampleKeys sampleKeys :=
    ⟨rfl, Or.inr ⟨_, _, rfl, rfl, rfl, rfl⟩⟩
  exact ⟨hmatch, (transport_lockstep toyPrimitives sampleKeys sampleKeys hmatch _ [8]).2.2⟩

end SwiftSsh.TransportLockstep
