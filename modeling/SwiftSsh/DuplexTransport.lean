import SwiftSsh.ProgramViews
import SwiftSsh.ServiceNetwork
import SwiftSsh.TransportLockstep

/-!
The two directions of the packet transport. Receiving depends on the incoming half
of the keys and sending on the outgoing half, and neither changes the other's. A
service on this transport is a service on packets.
-/

namespace SwiftSsh.DuplexTransport

open SwiftSsh.ByteWords
open SwiftSsh.RustOutcome
open SwiftSsh.ByteProgram
open SwiftSsh.ByteProgram.Program
open SwiftSsh.ProgramViews
open SwiftSsh.HostedService
open SwiftSsh.ServiceNetwork
open SwiftSsh.WireTypes
open SwiftSsh.PacketCodec
open SwiftSsh.SessionCrypto
open SwiftSsh.PacketTransport
open SwiftSsh.TransportLockstep

/-- The keys of one direction. -/
structure HalfKeys where
  seq : UInt32
  cipher : Option AesCipher
  macKey : Option Bytes

/-- The keys for what is received. -/
def incoming (keys : SessionKeys) : HalfKeys :=
  ⟨keys.recvSeq, keys.ciphers.map CipherPair.decrypt, keys.recvMacKey⟩

/-- The keys for what is sent. -/
def outgoing (keys : SessionKeys) : HalfKeys :=
  ⟨keys.sendSeq, keys.ciphers.map CipherPair.encrypt, keys.sendMacKey⟩

variable {keys other : SessionKeys}

theorem incoming_eq_iff : incoming keys = incoming other ↔
    keys.recvSeq = other.recvSeq ∧
      keys.ciphers.map CipherPair.decrypt = other.ciphers.map CipherPair.decrypt ∧
      keys.recvMacKey = other.recvMacKey := by
  rw [incoming, incoming, HalfKeys.mk.injEq]

theorem outgoing_eq_iff : outgoing keys = outgoing other ↔
    keys.sendSeq = other.sendSeq ∧
      keys.ciphers.map CipherPair.encrypt = other.ciphers.map CipherPair.encrypt ∧
      keys.sendMacKey = other.sendMacKey := by
  rw [outgoing, outgoing, HalfKeys.mk.injEq]

theorem blockSizeOf_of_incoming (hsame : incoming keys = incoming other) :
    blockSizeOf keys = blockSizeOf other := by
  have hcipher := (incoming_eq_iff.mp hsame).2.1
  rw [blockSizeOf, blockSizeOf, isEncrypted, isEncrypted,
    ← Option.isSome_map (f := CipherPair.decrypt), hcipher, Option.isSome_map]

theorem blockSizeOf_of_outgoing (hsame : outgoing keys = outgoing other) :
    blockSizeOf keys = blockSizeOf other := by
  have hcipher := (outgoing_eq_iff.mp hsame).2.1
  rw [blockSizeOf, blockSizeOf, isEncrypted, isEncrypted,
    ← Option.isSome_map (f := CipherPair.encrypt), hcipher, Option.isSome_map]

theorem decrypted_eq (P : Primitives) (keys : SessionKeys) (data : Bytes) :
    decrypted P keys data =
      match (incoming keys).cipher with
      | some cipher => applyCipher P cipher data
      | none => data := by
  rw [decrypted, incoming]
  cases keys.ciphers <;> rfl

theorem encrypted_eq (P : Primitives) (keys : SessionKeys) (data : Bytes) :
    encrypted P keys data =
      match (outgoing keys).cipher with
      | some cipher => applyCipher P cipher data
      | none => data := by
  rw [encrypted, outgoing]
  cases keys.ciphers <;> rfl

theorem incoming_afterDecrypt (keys : SessionKeys) (count : Nat) :
    incoming (afterDecrypt keys count) =
      { incoming keys with
        cipher := (incoming keys).cipher.map fun cipher => advanceCipher cipher count } := by
  obtain ⟨sendSeq, recvSeq, sessionId, ciphers, sendMacKey, recvMacKey⟩ := keys
  cases ciphers <;> rfl

theorem outgoing_afterDecrypt (keys : SessionKeys) (count : Nat) :
    outgoing (afterDecrypt keys count) = outgoing keys := by
  obtain ⟨sendSeq, recvSeq, sessionId, ciphers, sendMacKey, recvMacKey⟩ := keys
  cases ciphers <;> rfl

section Receiving

variable (P : Primitives)

theorem dependsOn_decryptData (data : Bytes) : DependsOn incoming (decryptData P data) := by
  intro keys other input hsame
  rw [run_decryptData, run_decryptData]
  refine ⟨?_, rfl, rfl, ?_⟩
  · rw [decrypted_eq, decrypted_eq, hsame]
  · rw [incoming_afterDecrypt, incoming_afterDecrypt, hsame]

theorem keeps_decryptData (data : Bytes) : Keeps outgoing (decryptData P data) := by
  intro keys input
  rw [run_decryptData]
  exact outgoing_afterDecrypt keys data.length

theorem writesNothing_decryptData (data : Bytes) : WritesNothing (decryptData P data) := by
  intro keys input
  rw [run_decryptData]

theorem dependsOn_readRest (remaining : Nat) : DependsOn incoming (readRest P remaining) := by
  rw [readRest]
  split
  · exact (dependsOn_readExact _ _).bind fun rest => dependsOn_decryptData P rest
  · exact dependsOn_lift (.ok [])

theorem keeps_readRest (remaining : Nat) : Keeps outgoing (readRest P remaining) := by
  rw [readRest]
  split
  · exact (keeps_readExact _ _).bind fun rest => keeps_decryptData P rest
  · exact keeps_lift (.ok [])

theorem writesNothing_readRest (remaining : Nat) : WritesNothing (readRest P remaining) := by
  rw [readRest]
  split
  · exact (writesNothing_readExact _ _).bind fun rest => writesNothing_decryptData P rest
  · exact writesNothing_lift (.ok [])

theorem dependsOn_recvBody (blockSize : Nat) (firstBlock : Bytes) (packetLength : Nat) :
    DependsOn incoming (recvBody P blockSize firstBlock packetLength) := by
  rw [recvBody]
  split
  · exact dependsOn_lift _
  · exact (dependsOn_lift _).bind fun remaining =>
      (dependsOn_readRest P remaining).bind fun rest => dependsOn_lift (.ok (firstBlock ++ rest))

theorem keeps_recvBody (blockSize : Nat) (firstBlock : Bytes) (packetLength : Nat) :
    Keeps outgoing (recvBody P blockSize firstBlock packetLength) := by
  rw [recvBody]
  split
  · exact keeps_lift _
  · exact (keeps_lift _).bind fun remaining =>
      (keeps_readRest P remaining).bind fun rest => keeps_lift (.ok (firstBlock ++ rest))

theorem writesNothing_recvBody (blockSize : Nat) (firstBlock : Bytes) (packetLength : Nat) :
    WritesNothing (recvBody P blockSize firstBlock packetLength) := by
  rw [recvBody]
  split
  · exact writesNothing_lift _
  · exact (writesNothing_lift _).bind fun remaining =>
      (writesNothing_readRest P remaining).bind fun rest =>
        writesNothing_lift (.ok (firstBlock ++ rest))

theorem dependsOn_recvFrame : DependsOn incoming (recvFrame P) := by
  rw [recvFrame]
  refine DependsOn.getState (fun keys => ?_) fun keys other hsame => ?_
  · refine (dependsOn_readExact _ _).bind fun firstBlock => ?_
    refine (dependsOn_decryptData P firstBlock).bind fun firstBlock => ?_
    exact (dependsOn_lift _).bind fun packetLength =>
      dependsOn_recvBody P _ firstBlock packetLength
  · rw [blockSizeOf_of_incoming hsame]

theorem keeps_recvFrame : Keeps outgoing (recvFrame P) := by
  rw [recvFrame]
  refine Keeps.getState fun keys => ?_
  refine (keeps_readExact _ _).bind fun firstBlock => ?_
  refine (keeps_decryptData P firstBlock).bind fun firstBlock => ?_
  exact (keeps_lift _).bind fun packetLength => keeps_recvBody P _ firstBlock packetLength

theorem writesNothing_recvFrame : WritesNothing (recvFrame P) := by
  rw [recvFrame]
  refine WritesNothing.getState fun keys => ?_
  refine (writesNothing_readExact _ _).bind fun firstBlock => ?_
  refine (writesNothing_decryptData P firstBlock).bind fun firstBlock => ?_
  exact (writesNothing_lift _).bind fun packetLength =>
    writesNothing_recvBody P _ firstBlock packetLength

theorem dependsOn_checkMac (seq : UInt32) (fullData : Bytes) :
    DependsOn incoming (checkMac P seq fullData) := by
  rw [checkMac]
  refine DependsOn.getState (fun keys => ?_) fun keys other hsame => ?_
  · cases keys.recvMacKey with
    | none => exact dependsOn_lift (.ok ())
    | some macKey => exact (dependsOn_readExact _ _).bind fun macBuf => dependsOn_lift _
  · rw [(incoming_eq_iff.mp hsame).2.2]

theorem keeps_checkMac (seq : UInt32) (fullData : Bytes) :
    Keeps outgoing (checkMac P seq fullData) := by
  rw [checkMac]
  refine Keeps.getState fun keys => ?_
  cases keys.recvMacKey with
  | none => exact keeps_lift (.ok ())
  | some macKey => exact (keeps_readExact _ _).bind fun macBuf => keeps_lift _

theorem writesNothing_checkMac (seq : UInt32) (fullData : Bytes) :
    WritesNothing (checkMac P seq fullData) := by
  rw [checkMac]
  refine WritesNothing.getState fun keys => ?_
  cases keys.recvMacKey with
  | none => exact writesNothing_lift (.ok ())
  | some macKey => exact (writesNothing_readExact _ _).bind fun macBuf => writesNothing_lift _

theorem dependsOn_nextRecvSeq : DependsOn incoming nextRecvSeq := by
  intro keys other input hsame
  obtain ⟨hseq, hcipher, hmac⟩ := incoming_eq_iff.mp hsame
  refine ⟨congrArg Outcome.ok hseq, rfl, rfl, incoming_eq_iff.mpr ⟨?_, hcipher, hmac⟩⟩
  exact congrArg (· + 1) hseq

theorem dependsOn_recvPacket : DependsOn incoming (recvPacket P) := by
  rw [recvPacket]
  refine (dependsOn_recvFrame P).bind fun fullData => ?_
  refine dependsOn_nextRecvSeq.bind fun seq => ?_
  exact (dependsOn_checkMac P seq fullData).bind fun _ => dependsOn_lift _

theorem keeps_recvPacket : Keeps outgoing (recvPacket P) := by
  rw [recvPacket]
  refine (keeps_recvFrame P).bind fun fullData => ?_
  refine Keeps.bind (fun keys input => rfl) fun seq => ?_
  exact (keeps_checkMac P seq fullData).bind fun _ => keeps_lift _

theorem writesNothing_recvPacket : WritesNothing (recvPacket P) := by
  rw [recvPacket]
  refine (writesNothing_recvFrame P).bind fun fullData => ?_
  refine WritesNothing.bind (fun keys input => rfl) fun seq => ?_
  exact (writesNothing_checkMac P seq fullData).bind fun _ => writesNothing_lift _

end Receiving

/-- The position of the outgoing keystream. -/
def sentBytes (keys : SessionKeys) : Nat :=
  match (outgoing keys).cipher with
  | some cipher => cipher.position
  | none => 0

/-- `send_packet` with its random padding. The random bytes of a packet are named
by the keystream position at which it starts. -/
def sendPadded (P : Primitives) (padding : Nat → Nat → UInt8) (packet : SshPacket) :
    Program SessionKeys SshError Unit := do
  let keys ← getState
  sendPacket P (padding (sentBytes keys)) packet

/-- A packet that is accepted by an encrypted connection. -/
def FitsEncrypted (packet : SshPacket) : Prop :=
  packetLength packet aesBlockSize ≤ maxPacketSize

/-- The keys of a direction are active. -/
def Active (half : HalfKeys) : Prop :=
  half.cipher.isSome = true

/-- A packet as it is laid out on an encrypted connection. -/
def paddedFrame (padding : Nat → Nat → UInt8) (keys : SessionKeys) (packet : SshPacket) : Bytes :=
  frame packet (randomBytes (padding (sentBytes keys)) (paddingLen packet aesBlockSize))

variable {P : Primitives} {padding : Nat → Nat → UInt8} {packet : SshPacket}

theorem blockSizeOf_of_active (hactive : Active (outgoing keys)) :
    blockSizeOf keys = aesBlockSize := by
  rw [Active, outgoing, Option.isSome_map] at hactive
  rw [blockSizeOf, isEncrypted, if_pos hactive]

theorem serialize_paddedFrame (hactive : Active (outgoing keys)) (hfits : FitsEncrypted packet) :
    serialize packet (blockSizeOf keys) (padding (sentBytes keys)) =
      .ok (paddedFrame padding keys packet) := by
  rw [blockSizeOf_of_active hactive, serialize_eq_ok_iff]
  exact ⟨hfits, rfl⟩

theorem run_sendPadded (hactive : Active (outgoing keys)) (hfits : FitsEncrypted packet)
    (input : Bytes) :
    run (sendPadded P padding packet) keys input =
      ⟨.ok (), afterSend keys (paddedFrame padding keys packet).length, input,
        wireBytes P keys (paddedFrame padding keys packet)⟩ := by
  rw [sendPadded, run_getState_bind,
    run_sendPacket_accepted input (serialize_paddedFrame hactive hfits), wireBytes]

theorem outgoing_afterSend (keys : SessionKeys) (count : Nat) :
    outgoing (afterSend keys count) =
      ⟨(outgoing keys).seq + 1,
        (outgoing keys).cipher.map fun cipher => advanceCipher cipher count,
        (outgoing keys).macKey⟩ := by
  obtain ⟨sendSeq, recvSeq, sessionId, ciphers, sendMacKey, recvMacKey⟩ := keys
  cases ciphers <;> rfl

theorem incoming_afterSend (keys : SessionKeys) (count : Nat) :
    incoming (afterSend keys count) = incoming keys := by
  obtain ⟨sendSeq, recvSeq, sessionId, ciphers, sendMacKey, recvMacKey⟩ := keys
  cases ciphers <;> rfl

theorem incoming_afterRecv (keys : SessionKeys) (count : Nat) :
    incoming (afterRecv keys count) =
      ⟨(incoming keys).seq + 1,
        (incoming keys).cipher.map fun cipher => advanceCipher cipher count,
        (incoming keys).macKey⟩ := by
  obtain ⟨sendSeq, recvSeq, sessionId, ciphers, sendMacKey, recvMacKey⟩ := keys
  cases ciphers <;> rfl

theorem active_afterSend (hactive : Active (outgoing keys)) (count : Nat) :
    Active (outgoing (afterSend keys count)) := by
  rw [outgoing_afterSend, Active, Option.isSome_map]
  exact hactive

/-- What is sent is a function of the outgoing half. -/
theorem dependsOn_sendPacket (P : Primitives) (rng : Nat → UInt8) (packet : SshPacket) :
    DependsOn outgoing (sendPacket P rng packet) := by
  intro keys other input hsame
  obtain ⟨hseq, hcipher, hmac⟩ := outgoing_eq_iff.mp hsame
  cases hserialize : serialize packet (blockSizeOf keys) rng with
  | panic => exact absurd hserialize (serialize_ne_panic _ _ _)
  | err error =>
      have hserialize' := hserialize
      rw [blockSizeOf_of_outgoing hsame] at hserialize'
      rw [run_sendPacket_rejected input hserialize, run_sendPacket_rejected input hserialize']
      exact ⟨rfl, rfl, rfl, hsame⟩
  | ok data =>
      have hserialize' := hserialize
      rw [blockSizeOf_of_outgoing hsame] at hserialize'
      rw [run_sendPacket_accepted input hserialize, run_sendPacket_accepted input hserialize']
      refine ⟨rfl, rfl, ?_, ?_⟩
      · have htag : sendTag P keys data = sendTag P other data := by
          rw [sendTag, sendTag, hmac, hseq]
        have hdata : encrypted P keys data = encrypted P other data := by
          rw [encrypted_eq, encrypted_eq, hsame]
        dsimp only
        rw [htag, hdata]
      · rw [outgoing_afterSend, outgoing_afterSend, hsame]

theorem keeps_sendPacket (P : Primitives) (rng : Nat → UInt8) (packet : SshPacket) :
    Keeps incoming (sendPacket P rng packet) := by
  intro keys input
  cases hserialize : serialize packet (blockSizeOf keys) rng with
  | panic => exact absurd hserialize (serialize_ne_panic _ _ _)
  | err error => rw [run_sendPacket_rejected input hserialize]
  | ok data =>
      rw [run_sendPacket_accepted input hserialize]
      exact incoming_afterSend keys data.length

theorem silent_sendPacket (P : Primitives) (rng : Nat → UInt8) (packet : SshPacket) :
    Silent (sendPacket P rng packet) := by
  intro keys input
  cases hserialize : serialize packet (blockSizeOf keys) rng with
  | panic => exact absurd hserialize (serialize_ne_panic _ _ _)
  | err error =>
      rw [run_sendPacket_rejected input hserialize, run_sendPacket_rejected [] hserialize]
  | ok data =>
      rw [run_sendPacket_accepted input hserialize, run_sendPacket_accepted [] hserialize]

theorem rest_length_le {σ ε α : Type} (p : Program σ ε α) (state : σ) (input : Bytes) :
    (run p state input).rest.length ≤ input.length := by
  induction p generalizing state input with
  | done result => exact le_rfl
  | read count eof next ih =>
      rw [run]
      split
      · refine (ih _ state _).trans ?_
        rw [List.length_drop]
        omega
      · exact Nat.zero_le _
  | write bytes next ih => exact ih state input
  | get next ih => exact ih state state input
  | set state' next ih => exact ih state' input

theorem recvPacket_consumes (P : Primitives) (keys : SessionKeys) (input : Bytes)
    (packet : SshPacket) (hok : (run (recvPacket P) keys input).outcome = .ok packet) :
    (run (recvPacket P) keys input).rest.length < input.length := by
  obtain ⟨next, hnext⟩ : ∃ next : SessionKeys → Bytes → Program SessionKeys SshError SshPacket,
      recvPacket P =
        .get fun keys => .read (blockSizeOf keys) .connectionClosed (next keys) :=
    ⟨_, rfl⟩
  have hblock := eight_le_blockSizeOf keys
  rw [hnext, run, run] at hok ⊢
  split at hok
  · rename_i hcount
    rw [if_pos hcount]
    have hle := rest_length_le (next keys (input.take (blockSizeOf keys))) keys
      (input.drop (blockSizeOf keys))
    rw [List.length_drop] at hle
    omega
  · cases hok

section Services

variable {σ ω : Type}

/-- Perform the events that send a packet. -/
def performPackets (P : Primitives) (padding : Nat → Nat → UInt8) (packetOf : ω → Option SshPacket)
    (event : ω) : Program SessionKeys SshError Unit :=
  match packetOf event with
  | some packet => sendPadded P padding packet
  | none => pure ()

/-- Event code on the packet transport. -/
def packetService (P : Primitives) (padding : Nat → Nat → UInt8)
    (packetOf : ω → Option SshPacket)
    (body : Except SshError SshPacket → EventProgram.Traced σ ω SshError Unit)
    (ended : σ → Bool) : Service SessionKeys σ ω SshError SshPacket :=
  ⟨recvPacket P, performPackets P padding packetOf, body, ended⟩

/-- An event that is no packet, or a packet that is accepted. -/
def EventFits (packetOf : ω → Option SshPacket) (event : ω) : Prop :=
  ∀ packet, packetOf event = some packet → FitsEncrypted packet

/-- All packets that the code sends are accepted. -/
def SendsFitting (packetOf : ω → Option SshPacket)
    (body : Except SshError SshPacket → EventProgram.Traced σ ω SshError Unit) : Prop :=
  ∀ item, EventProgram.Emits (EventFits packetOf) (body item)

variable {packetOf : ω → Option SshPacket} {ended : σ → Bool}
variable {body : Except SshError SshPacket → EventProgram.Traced σ ω SshError Unit}

theorem eventFits_of_none {event : ω} (hnone : packetOf event = none) :
    EventFits packetOf event := by
  intro packet hpacket
  rw [hnone] at hpacket
  cases hpacket

theorem emits_packet {event : ω} {packet : SshPacket} (hevent : packetOf event = some packet)
    (rng : Nat → UInt8) :
    EventProgram.Emits (σ := σ) (EventFits packetOf) (do
      let _ ← EventProgram.lift (serialize packet aesBlockSize rng)
      EventProgram.emit event) := by
  intro state other hother
  cases hserialize : serialize packet aesBlockSize rng with
  | ok bytes =>
      rw [hserialize, EventProgram.run_lift_ok_bind] at hother
      rw [List.mem_singleton.mp hother]
      intro sent hsent
      cases hevent.symm.trans hsent
      exact (serialize_eq_ok_iff.mp hserialize).1
  | err error =>
      rw [hserialize] at hother
      cases hother
  | panic =>
      rw [hserialize] at hother
      cases hother

theorem performable_of_fits {event : ω} (hfits : EventFits packetOf event) :
    Performable (packetService P padding packetOf body ended) outgoing Active event := by
  intro keys hactive
  change (run (performPackets P padding packetOf event) keys []).outcome = _ ∧
    Active (outgoing (run (performPackets P padding packetOf event) keys []).state)
  rw [performPackets]
  cases hpacket : packetOf event with
  | none => exact ⟨rfl, hactive⟩
  | some packet =>
      dsimp only
      rw [run_sendPadded hactive (hfits packet hpacket)]
      exact ⟨rfl, active_afterSend hactive _⟩

theorem duplex_packetService (hfits : SendsFitting packetOf body) :
    Duplex (packetService P padding packetOf body ended) incoming outgoing Active where
  recv_silent := writesNothing_recvPacket P
  recv_consumes := recvPacket_consumes P
  recv_incoming transport other input hsame :=
    let ⟨houtcome, hrest, _, hstate⟩ := dependsOn_recvPacket P transport other input hsame
    ⟨houtcome, hrest, hstate⟩
  recv_outgoing := keeps_recvPacket P
  perform_silent event := by
    change Silent (performPackets P padding packetOf event)
    rw [performPackets]
    cases packetOf event with
    | none => exact fun _ _ => rfl
    | some packet =>
        intro keys input
        dsimp only
        rw [sendPadded, run_getState_bind, run_getState_bind]
        exact silent_sendPacket P (padding (sentBytes keys)) packet keys input
  perform_incoming event keys := by
    change incoming (run (performPackets P padding packetOf event) keys []).state = _
    rw [performPackets]
    cases packetOf event with
    | none => rfl
    | some packet =>
        dsimp only
        rw [sendPadded, run_getState_bind]
        exact keeps_sendPacket P (padding (sentBytes keys)) packet keys []
  perform_outgoing event keys other hsame := by
    change (run (performPackets P padding packetOf event) keys []).written =
        (run (performPackets P padding packetOf event) other []).written ∧
      outgoing (run (performPackets P padding packetOf event) keys []).state =
        outgoing (run (performPackets P padding packetOf event) other []).state
    rw [performPackets]
    cases packetOf event with
    | none => exact ⟨rfl, hsame⟩
    | some packet =>
        have hposition : sentBytes keys = sentBytes other := by
          rw [sentBytes, sentBytes, hsame]
        dsimp only
        rw [sendPadded, run_getState_bind, run_getState_bind, hposition]
        obtain ⟨-, -, hwritten, hstate⟩ :=
          dependsOn_sendPacket P (padding (sentBytes other)) packet keys other [] hsame
        exact ⟨hwritten, hstate⟩
  performable item state event hevent := performable_of_fits (hfits item state event hevent)

theorem matching_of_halves (hactive : Active (outgoing keys))
    (hsame : outgoing keys = incoming other) :
    Matching keys other := by
  rw [outgoing, incoming, HalfKeys.mk.injEq] at hsame
  obtain ⟨hseq, hcipher, hmac⟩ := hsame
  refine ⟨hseq, Or.inr ?_⟩
  rw [Active, outgoing, Option.isSome_map] at hactive
  obtain ⟨pair, hpair⟩ := Option.isSome_iff_exists.mp hactive
  rw [hpair, Option.map_some] at hcipher
  obtain ⟨pair', hpair', hdecrypt⟩ := Option.map_eq_some_iff.mp hcipher.symm
  exact ⟨pair, pair', hpair, hpair', hdecrypt.symm, hmac⟩

theorem Matching.halves (hmatch : Matching keys other) (hactive : Active (outgoing keys)) :
    outgoing keys = incoming other := by
  obtain ⟨hseq, ⟨hnone, -⟩ | ⟨pair, pair', hpair, hpair', hcipher, hmac⟩⟩ := hmatch
  · rw [Active, outgoing, hnone] at hactive
    cases hactive
  · rw [outgoing, incoming, hseq, hpair, hpair', hmac, Option.map_some, Option.map_some, hcipher]

theorem delivers_packetService :
    Delivers (packetService P padding packetOf body ended) (recvPacket P) incoming outgoing Active
      packetOf where
  silent event keys hmessage := by
    change run (performPackets P padding packetOf event) keys [] = _
    rw [performPackets, hmessage]
    rfl
  delivered event packet keys hmessage hactive hok := by
    change (run (performPackets P padding packetOf event) keys []).outcome = _ at hok
    change Takes _ _ _ _ (run (performPackets P padding packetOf event) keys []).written _
      (outgoing (run (performPackets P padding packetOf event) keys []).state)
    rw [performPackets, hmessage] at hok ⊢
    dsimp only at hok ⊢
    have hfits : FitsEncrypted packet := by
      by_contra hlarge
      have hreject : serialize packet (blockSizeOf keys) (padding (sentBytes keys)) =
          .err (.invalidPacket s!"Packet too large: {packetLength packet aesBlockSize} bytes") := by
        rw [blockSizeOf_of_active hactive, serialize, if_pos (Nat.lt_of_not_le hlarge)]
      rw [sendPadded, run_getState_bind, run_sendPacket_rejected [] hreject] at hok
      cases hok
    rw [run_sendPadded hactive hfits]
    intro receiver tail hhalf
    have hmatch := matching_of_halves hactive hhalf.symm
    have hframe := @serialize_paddedFrame keys padding packet hactive hfits
    have hrecv := run_recvPacket_sent (P := P) tail hmatch hframe
    dsimp only
    rw [hrecv]
    refine ⟨rfl, rfl, ?_⟩
    rw [incoming_afterRecv, outgoing_afterSend, hhalf]

theorem recvAll_of_wired {half : HalfKeys} {packets : List SshPacket} {bytes : Bytes}
    {receiver : SessionKeys}
    (hwired : Wired (recvPacket P) incoming half (incoming receiver) packets bytes) (tail : Bytes) :
    ((recvAll P packets.length receiver (bytes ++ tail)).1.map Prod.fst = packets) ∧
      (recvAll P packets.length receiver (bytes ++ tail)).2.2 = tail := by
  induction packets generalizing receiver bytes with
  | nil =>
      obtain ⟨rfl, -⟩ := hwired
      exact ⟨rfl, rfl⟩
  | cons packet packets ih =>
      obtain ⟨later, rest, htakes, hlater⟩ := hwired
      obtain ⟨houtcome, hrest, hstate⟩ := htakes receiver tail rfl
      rw [← hstate] at hlater
      obtain ⟨hpackets, htail⟩ := ih hlater
      rw [List.length_cons, recvAll]
      simp only [houtcome, hrest]
      exact ⟨by rw [List.map_cons, hpackets], htail⟩

/-- A peer in step receives the packets among events that are performed. -/
theorem recvAll_wire {peer : SessionKeys} {events : List ω}
    (hduplex : Duplex (packetService P padding packetOf body ended) incoming outgoing Active)
    (hevents : ∀ event ∈ events,
      Performable (packetService P padding packetOf body ended) outgoing Active event)
    (hactive : Active (outgoing keys)) (hmatch : Matching keys peer) (tail : Bytes) :
    let bytes := (packetService P padding packetOf body ended).wire keys events ++ tail
    let packets := events.filterMap packetOf
    (recvAll P packets.length peer bytes).1.map Prod.fst = packets ∧
      (recvAll P packets.length peer bytes).2.2 = tail := by
  have hwired := wired_events hduplex delivers_packetService hevents hactive
  rw [Matching.halves hmatch hactive] at hwired
  exact recvAll_of_wired hwired tail

end Services

end SwiftSsh.DuplexTransport
