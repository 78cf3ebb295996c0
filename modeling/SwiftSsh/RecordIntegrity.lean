import SwiftSsh.KeyDerivation
import SwiftSsh.SequenceNumbers

/-!
Integrity of the packet stream when every delivered byte is chosen by an
attacker who cannot forge authentication codes.
-/

namespace SwiftSsh.RecordIntegrity

open SwiftSsh.ByteWords
open SwiftSsh.RustOutcome
open SwiftSsh.ByteProgram
open SwiftSsh.ByteProgram.Program
open SwiftSsh.WireTypes
open SwiftSsh.WireBuffer
open SwiftSsh.PacketCodec
open SwiftSsh.SessionCrypto
open SwiftSsh.PacketTransport
open SwiftSsh.TransportLockstep
open SwiftSsh.KeyExchange
open SwiftSsh.Handshake
open SwiftSsh.SequenceNumbers
open SwiftSsh.MpintCodec
open SwiftSsh.KeyDerivation

/-- The arguments of a call of `verify_hmac`. -/
structure MacQuery where
  key : Bytes
  message : Bytes
  tag : Bytes

/-- The verification that a call of `recv_packet` performs, if it comes to one. -/
def macQueries (P : Primitives) (keys : SessionKeys) (input : Bytes) : List MacQuery :=
  let r := run (recvFrame P) keys input
  match r.outcome, r.state.recvMacKey with
  | .ok fullData, some macKey =>
      if hmacSha256Size ≤ r.rest.length then
        [⟨macKey, be32 r.state.recvSeq ++ fullData, r.rest.take hmacSha256Size⟩]
      else []
  | _, _ => []

/-- The authentication code that a call of `send_packet` computes, as its key
and message. -/
def maced (keys : SessionKeys) (packet : SshPacket) (rng : Nat → UInt8) :
    List (Bytes × Bytes) :=
  match serialize packet (blockSizeOf keys) rng, keys.sendMacKey with
  | .ok data, some macKey => [(macKey, be32 keys.sendSeq ++ data)]
  | _, _ => []

/-- What a side does after the handshake. -/
inductive Action where
  | send (packet : SshPacket) (rng : Nat → UInt8)
  | recv

/-- What one side of an activated connection did: the packets it passed to
`send_packet`, those returned by `recv_packet`, and its uses of the
authentication code. -/
structure Trace where
  passed : List SshPacket
  received : List SshPacket
  macLog : List (Bytes × Bytes)
  queries : List MacQuery

/-- One trace and then another. -/
def Trace.append (first second : Trace) : Trace :=
  ⟨first.passed ++ second.passed, first.received ++ second.received,
    first.macLog ++ second.macLog, first.queries ++ second.queries⟩

/-- What a send leaves in the trace. -/
def sendTrace (keys : SessionKeys) (packet : SshPacket) (rng : Nat → UInt8) : Trace :=
  ⟨[packet], [], maced keys packet rng, []⟩

/-- What a receive leaves in the trace. -/
def recvTrace (P : Primitives) (keys : SessionKeys) (input : Bytes)
    (received : List SshPacket) : Trace :=
  ⟨[], received, [], macQueries P keys input⟩

/-- Successive calls up to the first error, which ends the connection. -/
def session (P : Primitives) : List Action → SessionKeys → Bytes → Trace
  | [], _, _ => ⟨[], [], [], []⟩
  | .send packet rng :: later, keys, input =>
      let r := run (sendPacket P rng packet) keys input
      match r.outcome with
      | .ok _ => (sendTrace keys packet rng).append (session P later r.state r.rest)
      | _ => sendTrace keys packet rng
  | .recv :: later, keys, input =>
      let r := run (recvPacket P) keys input
      match r.outcome with
      | .ok packet =>
          (recvTrace P keys input [packet]).append (session P later r.state r.rest)
      | _ => recvTrace P keys input []

theorem fixed_recvFrame {P : Primitives} {keys : SessionKeys} {input data : Bytes}
    (hok : (run (recvFrame P) keys input).outcome = .ok data) :
    (run (recvFrame P) keys input).state.recvSeq = keys.recvSeq ∧
      (run (recvFrame P) keys input).state.recvMacKey = keys.recvMacKey := by
  have hfixed : Fixed (withoutCiphers keys) (run (recvFrame P) keys input).state :=
    ensures_recvFrame P (withoutCiphers keys) keys input data rfl hok
  exact ⟨hfixed.fields.2.1, hfixed.fields.2.2.2⟩

theorem verified_of_checkMac {P : Primitives} {keys : SessionKeys} {seq : UInt32}
    {macKey data input : Bytes} (hmac : keys.recvMacKey = some macKey)
    (hok : (run (checkMac P seq data) keys input).outcome = .ok ()) :
    hmacSha256Size ≤ input.length ∧
      verifyHmac P macKey (be32 seq ++ data) (input.take hmacSha256Size) = .ok () := by
  rw [checkMac, run_getState_bind, hmac] at hok
  dsimp only at hok
  rw [run_readExact_bind] at hok
  split at hok
  · rename_i hlength
    exact ⟨hlength, hok⟩
  · simp at hok

/-- A packet is returned only after its sequence number and its bytes have been
verified. -/
theorem recvPacket_verified {P : Primitives} {keys : SessionKeys} {input macKey : Bytes}
    {packet : SshPacket} (hmac : keys.recvMacKey = some macKey)
    (hok : (run (recvPacket P) keys input).outcome = .ok packet) :
    ∃ data tag, macQueries P keys input = [⟨macKey, be32 keys.recvSeq ++ data, tag⟩] ∧
      verifyHmac P macKey (be32 keys.recvSeq ++ data) tag = .ok () ∧
      deserialize data = .ok packet := by
  obtain ⟨data, hframe, hlater⟩ := run_bind_eq_ok hok
  obtain ⟨hseq, hkey⟩ := fixed_recvFrame hframe
  rw [run_nextRecvSeq_bind] at hlater
  obtain ⟨_, hcheck, hdeserialize⟩ := run_bind_eq_ok hlater
  obtain ⟨hlength, hverified⟩ := verified_of_checkMac (by exact hkey.trans hmac) hcheck
  rw [hseq] at hverified
  refine ⟨data, _, ?_, hverified, hdeserialize⟩
  simp only [macQueries, hframe, hkey, hmac, hseq]
  exact if_pos hlength

theorem fixed_recvPacket {P : Primitives} {keys : SessionKeys} {input : Bytes}
    {packet : SshPacket} (hok : (run (recvPacket P) keys input).outcome = .ok packet) :
    Fixed (countRecv (withoutCiphers keys)) (run (recvPacket P) keys input).state :=
  ensures_recvPacket P (withoutCiphers keys) keys input packet rfl hok

theorem add_ofNat_succ (seq : UInt32) (i : Nat) :
    seq + 1 + UInt32.ofNat i = seq + UInt32.ofNat (i + 1) := by
  rw [UInt32.ofNat_add, UInt32.add_assoc, UInt32.add_comm 1]
  rfl

/-- The `i`-th authentication code of a side belongs to the `i`-th packet it
passed and carries the `i`-th sequence number. -/
theorem session_macLog (P : Primitives) (actions : List Action) (keys : SessionKeys)
    (input macKey : Bytes) (hmac : keys.sendMacKey = some macKey) (i : Nat)
    (entry : Bytes × Bytes)
    (hentry : (session P actions keys input).macLog[i]? = some entry) :
    ∃ packet data, (session P actions keys input).passed[i]? = some packet ∧
      entry = (macKey, be32 (keys.sendSeq + UInt32.ofNat i) ++ data) ∧
      deserialize data = .ok packet := by
  induction actions generalizing keys input i with
  | nil => simp [session] at hentry
  | cons action later ih =>
      cases action with
      | send packet rng =>
          cases hserialize : serialize packet (blockSizeOf keys) rng with
          | panic => exact absurd hserialize (serialize_ne_panic _ _ _)
          | err error =>
              rw [session, run_sendPacket_rejected input hserialize] at hentry
              simp [sendTrace, maced, hserialize] at hentry
          | ok data =>
              rw [session, run_sendPacket_accepted input hserialize] at hentry ⊢
              simp only [Trace.append, sendTrace, maced, hserialize, hmac] at hentry ⊢
              cases i with
              | zero =>
                  refine ⟨packet, data, rfl, ?_, deserialize_serialize hserialize⟩
                  simpa using hentry.symm
              | succ i =>
                  obtain ⟨packet', data', hpassed, hentry', hdeserialize⟩ :=
                    ih (afterSend keys data.length) input hmac i hentry
                  refine ⟨packet', data', hpassed, ?_, hdeserialize⟩
                  rw [hentry', ← add_ofNat_succ]
                  rfl
      | recv =>
          rw [session] at hentry ⊢
          cases hok : (run (recvPacket P) keys input).outcome with
          | panic => simp [hok, recvTrace] at hentry
          | err error => simp [hok, recvTrace] at hentry
          | ok packet =>
              have hfixed := fixed_recvPacket hok
              have hseq : (run (recvPacket P) keys input).state.sendSeq = keys.sendSeq :=
                hfixed.fields.1
              have hkey : (run (recvPacket P) keys input).state.sendMacKey = keys.sendMacKey :=
                hfixed.fields.2.2.1
              simp only [hok, Trace.append, recvTrace, List.nil_append] at hentry ⊢
              have hlater := ih _ _ (hkey.trans hmac) i hentry
              rwa [hseq] at hlater

/-- The `j`-th packet a side received was verified with the `j`-th sequence
number. -/
theorem session_received (P : Primitives) (actions : List Action) (keys : SessionKeys)
    (input macKey : Bytes) (hmac : keys.recvMacKey = some macKey) (j : Nat)
    (packet : SshPacket)
    (hpacket : (session P actions keys input).received[j]? = some packet) :
    ∃ data tag, ⟨macKey, be32 (keys.recvSeq + UInt32.ofNat j) ++ data, tag⟩ ∈
        (session P actions keys input).queries ∧
      verifyHmac P macKey (be32 (keys.recvSeq + UInt32.ofNat j) ++ data) tag = .ok () ∧
      deserialize data = .ok packet := by
  induction actions generalizing keys input j with
  | nil => simp [session] at hpacket
  | cons action later ih =>
      cases action with
      | send sent rng =>
          cases hserialize : serialize sent (blockSizeOf keys) rng with
          | panic => exact absurd hserialize (serialize_ne_panic _ _ _)
          | err error =>
              rw [session, run_sendPacket_rejected input hserialize] at hpacket
              simp [sendTrace] at hpacket
          | ok data =>
              rw [session, run_sendPacket_accepted input hserialize] at hpacket ⊢
              simp only [Trace.append, sendTrace, List.nil_append] at hpacket ⊢
              exact ih (afterSend keys data.length) input hmac j hpacket
      | recv =>
          rw [session] at hpacket ⊢
          cases hok : (run (recvPacket P) keys input).outcome with
          | panic => simp [hok, recvTrace] at hpacket
          | err error => simp [hok, recvTrace] at hpacket
          | ok first =>
              have hfixed := fixed_recvPacket hok
              have hseq : (run (recvPacket P) keys input).state.recvSeq =
                  keys.recvSeq + 1 :=
                hfixed.fields.2.1
              have hkey : (run (recvPacket P) keys input).state.recvMacKey = keys.recvMacKey :=
                hfixed.fields.2.2.2
              obtain ⟨data, tag, hquery, hverified, hdeserialize⟩ :=
                recvPacket_verified hmac hok
              simp only [hok, Trace.append, recvTrace, hquery] at hpacket ⊢
              cases j with
              | zero =>
                  obtain rfl : first = packet := by simpa using hpacket
                  refine ⟨data, tag, List.mem_append_left _ ?_, ?_, hdeserialize⟩
                  · simp
                  · simpa using hverified
              | succ j =>
                  obtain ⟨data', tag', hmem, hverified', hdeserialize'⟩ :=
                    ih _ _ (hkey.trans hmac) j hpacket
                  rw [hseq, add_ofNat_succ] at hmem hverified'
                  exact ⟨data', tag', List.mem_append_right _ hmem, hverified', hdeserialize'⟩

theorem ofNat_injOn {i j : Nat} (hi : i < 2 ^ 32) (hj : j < 2 ^ 32)
    (heq : UInt32.ofNat i = UInt32.ofNat j) : i = j := by
  have hnat := congrArg UInt32.toNat heq
  rwa [UInt32.toNat_ofNat_of_lt' hi, UInt32.toNat_ofNat_of_lt' hj] at hnat

section Direction

variable {P : Primitives} {sendActions recvActions : List Action}
  {senderKeys receiverKeys : SessionKeys} {senderInput receiverInput macKey : Bytes}

/-- While the sequence numbers of a direction do not wrap, each received packet
is the packet that was passed at its position. -/
theorem received_eq_passed (hsend : senderKeys.sendMacKey = some macKey)
    (hrecv : receiverKeys.recvMacKey = some macKey)
    (hseq : senderKeys.sendSeq = receiverKeys.recvSeq)
    (hunforged : ∀ query ∈ (session P recvActions receiverKeys receiverInput).queries,
      verifyHmac P query.key query.message query.tag = .ok () → query.key = macKey →
      (query.key, query.message) ∈ (session P sendActions senderKeys senderInput).macLog)
    (hcount : (session P sendActions senderKeys senderInput).macLog.length ≤ 2 ^ 32)
    {j : Nat} (hj : j < 2 ^ 32) {packet : SshPacket}
    (hpacket : (session P recvActions receiverKeys receiverInput).received[j]? =
      some packet) :
    j < (session P sendActions senderKeys senderInput).macLog.length ∧
      (session P sendActions senderKeys senderInput).passed[j]? = some packet := by
  obtain ⟨data, tag, hquery, hverified, hdeserialize⟩ :=
    session_received P recvActions receiverKeys receiverInput macKey hrecv j packet hpacket
  have hlogged := hunforged _ hquery hverified rfl
  obtain ⟨i, hi⟩ := List.mem_iff_getElem?.mp hlogged
  obtain ⟨passed, data', hpassed, hentry, hdeserialize'⟩ :=
    session_macLog P sendActions senderKeys senderInput macKey hsend i _ hi
  obtain ⟨hlength, -⟩ := List.getElem?_eq_some_iff.mp hi
  obtain ⟨hword, rfl⟩ := List.append_inj (Prod.mk.inj hentry).2 (by simp)
  have hsame := be32_injective hword
  rw [hseq] at hsame
  obtain rfl : j = i :=
    ofNat_injOn hj (by omega) ((UInt32.add_right_inj _).mp hsame)
  rw [hdeserialize] at hdeserialize'
  obtain rfl := Outcome.ok.inj hdeserialize'
  exact ⟨hlength, hpassed⟩

end Direction

/-- The packets received in one direction, against those passed to `send_packet`
at its other end. -/
structure InOrder (sender receiver : Trace) : Prop where
  first : sender.macLog.length ≤ 2 ^ 32 → receiver.received.take (2 ^ 32) <+: sender.passed
  whole : sender.macLog.length < 2 ^ 32 → receiver.received <+: sender.passed

theorem prefix_of_getElem {received passed : List SshPacket}
    (heach : ∀ (j : Nat) packet, received[j]? = some packet → passed[j]? = some packet) :
    received <+: passed := by
  rw [List.prefix_iff_getElem?]
  intro j hj
  exact heach j _ (List.getElem?_eq_getElem hj)

theorem inOrder_of_getElem? {sender receiver : Trace}
    (heach : ∀ (j : Nat) packet, sender.macLog.length ≤ 2 ^ 32 → j < 2 ^ 32 →
      receiver.received[j]? = some packet →
      j < sender.macLog.length ∧ sender.passed[j]? = some packet) :
    InOrder sender receiver where
  first := by
    intro hcount
    apply prefix_of_getElem
    intro j packet hpacket
    rw [List.getElem?_take] at hpacket
    split at hpacket
    · rename_i hj
      exact (heach j packet hcount hj hpacket).2
    · simp at hpacket
  whole := by
    intro hcount
    -- A packet at the position of the count would have no entry in the log.
    have hlength : receiver.received.length ≤ sender.macLog.length := by
      by_contra hlong
      have hlast := List.getElem?_eq_getElem (Nat.lt_of_not_le hlong)
      have hbound := (heach sender.macLog.length _ hcount.le hcount hlast).1
      omega
    apply prefix_of_getElem
    intro j packet hpacket
    obtain ⟨hj, -⟩ := List.getElem?_eq_some_iff.mp hpacket
    exact (heach j packet hcount.le (by omega) hpacket).2

/-- An honest client and an honest server, each on a byte stream of the
attacker's choice, with their calls after key activation. -/
structure Connection (P : Primitives) where
  clientRandom : HandshakeRandom
  serverRandom : HandshakeRandom
  clientStream : Bytes
  serverStream : Bytes
  clientActions : List Action
  serverActions : List Action
  clientActivated : ∃ result,
    (run (clientHandshake P clientRandom) newSessionKeys clientStream).outcome = .ok result
  serverActivated : ∃ result,
    (run (serverHandshake P serverRandom) newSessionKeys serverStream).outcome = .ok result

namespace Connection

variable {P : Primitives} (c : Connection P)

/-- The keys of the client after its handshake. -/
def clientKeys : SessionKeys :=
  (run (clientHandshake P c.clientRandom) newSessionKeys c.clientStream).state

/-- The keys of the server after its handshake. -/
def serverKeys : SessionKeys :=
  (run (serverHandshake P c.serverRandom) newSessionKeys c.serverStream).state

/-- The trace of the client. -/
def client : Trace :=
  session P c.clientActions c.clientKeys
    (run (clientHandshake P c.clientRandom) newSessionKeys c.clientStream).rest

/-- The trace of the server. -/
def server : Trace :=
  session P c.serverActions c.serverKeys
    (run (serverHandshake P c.serverRandom) newSessionKeys c.serverStream).rest

/-- Each side verifies with the key the other one sends with. -/
def MacKeysMatch : Prop :=
  c.clientKeys.sendMacKey = c.serverKeys.recvMacKey ∧
    c.serverKeys.sendMacKey = c.clientKeys.recvMacKey

/-- The two directions are authenticated under different keys. -/
def MacKeysDiffer : Prop :=
  c.clientKeys.sendMacKey ≠ c.serverKeys.sendMacKey

/-- A code is accepted only for a message that the side holding its key as
send key has authenticated. -/
def Unforged : Prop :=
  ∀ query ∈ c.client.queries ++ c.server.queries,
    verifyHmac P query.key query.message query.tag = .ok () →
      (query.key, query.message) ∈ c.client.macLog ++ c.server.macLog

theorem activated_client : Activated c.clientKeys := by
  obtain ⟨result, hok⟩ := c.clientActivated
  exact ensures_clientHandshake P c.clientRandom newSessionKeys c.clientStream result rfl hok

theorem activated_server : Activated c.serverKeys := by
  obtain ⟨result, hok⟩ := c.serverActivated
  exact ensures_serverHandshake P c.serverRandom newSessionKeys c.serverStream result rfl hok

end Connection

theorem key_of_mem_macLog {P : Primitives} {actions : List Action} {keys : SessionKeys}
    {input macKey : Bytes} {entry : Bytes × Bytes} (hmac : keys.sendMacKey = some macKey)
    (hentry : entry ∈ (session P actions keys input).macLog) : entry.1 = macKey := by
  obtain ⟨i, hi⟩ := List.mem_iff_getElem?.mp hentry
  obtain ⟨-, -, -, rfl, -⟩ := session_macLog P actions keys input macKey hmac i entry hi
  rfl

/-- Record integrity in both directions, for every attacker. -/
theorem record_integrity (P : Primitives) (c : Connection P) (hmatch : c.MacKeysMatch)
    (hdiffer : c.MacKeysDiffer) (hunforged : c.Unforged) :
    InOrder c.client c.server ∧ InOrder c.server c.client := by
  obtain ⟨hclientSend, hclientRecv, ⟨clientKey, hclientKey⟩, -⟩ := c.activated_client
  obtain ⟨hserverSend, hserverRecv, ⟨serverKey, hserverKey⟩, -⟩ := c.activated_server
  have hne : clientKey ≠ serverKey := by
    rintro rfl
    exact hdiffer (hclientKey.trans hserverKey.symm)
  constructor
  · apply inOrder_of_getElem?
    intro j packet hcount hj hpacket
    apply received_eq_passed hclientKey (hmatch.1.symm.trans hclientKey)
      (hclientSend.trans hserverRecv.symm) _ hcount hj hpacket
    intro query hquery hverified hkey
    rcases List.mem_append.mp (hunforged query (List.mem_append_right _ hquery) hverified)
      with hlogged | hlogged
    · exact hlogged
    · exact absurd (hkey.symm.trans (key_of_mem_macLog hserverKey hlogged)) hne
  · apply inOrder_of_getElem?
    intro j packet hcount hj hpacket
    apply received_eq_passed hserverKey (hmatch.2.symm.trans hserverKey)
      (hserverSend.trans hclientRecv.symm) _ hcount hj hpacket
    intro query hquery hverified hkey
    rcases List.mem_append.mp (hunforged query (List.mem_append_left _ hquery) hverified)
      with hlogged | hlogged
    · exact absurd ((key_of_mem_macLog hclientKey hlogged).symm.trans hkey) hne
    · exact hlogged

theorem blockSizeOf_afterSend (keys : SessionKeys) (count : Nat) :
    blockSizeOf (afterSend keys count) = blockSizeOf keys := by
  obtain ⟨sendSeq, recvSeq, sessionId, ciphers, sendMacKey, recvMacKey⟩ := keys
  cases ciphers <;> rfl

section Repeated

variable {P : Primitives} {packet : SshPacket} {rng : Nat → UInt8} {data macKey : Bytes}

/-- The bytes of `count` sends of one packet. -/
def repeatedWire (P : Primitives) (data : Bytes) : Nat → SessionKeys → Bytes
  | 0, _ => []
  | count + 1, keys =>
      wireBytes P keys data ++ repeatedWire P data count (afterSend keys data.length)

theorem session_repeated_send (count : Nat) {keys : SessionKeys} (input : Bytes)
    (hmac : keys.sendMacKey = some macKey)
    (haccept : serialize packet (blockSizeOf keys) rng = .ok data) :
    session P (List.replicate count (.send packet rng)) keys input =
      ⟨List.replicate count packet, [],
        (List.range count).map fun i => (macKey, be32 (keys.sendSeq + UInt32.ofNat i) ++ data),
        []⟩ := by
  induction count generalizing keys with
  | zero => rfl
  | succ count ih =>
      have hlater := @ih (afterSend keys data.length) hmac
        (by rwa [blockSizeOf_afterSend])
      have hmap : (List.range count).map (fun i =>
          (macKey, be32 ((afterSend keys data.length).sendSeq + UInt32.ofNat i) ++ data)) =
          (List.range count).map ((fun i =>
            (macKey, be32 (keys.sendSeq + UInt32.ofNat i) ++ data)) ∘ Nat.succ) := by
        apply List.map_congr_left
        intro i _
        rw [Function.comp_apply, Nat.succ_eq_add_one, ← add_ofNat_succ]
        rfl
      rw [List.replicate_succ, session, run_sendPacket_accepted input haccept]
      dsimp only
      rw [hlater, hmap]
      simp [Trace.append, sendTrace, maced, haccept, hmac, List.range_succ_eq_map,
        List.replicate_succ]

theorem macQueries_sent {sender receiver : SessionKeys} (tail : Bytes)
    (hmatch : Matching sender receiver) (hmac : receiver.recvMacKey = some macKey)
    (haccept : serialize packet (blockSizeOf sender) rng = .ok data) {query : MacQuery}
    (hquery : query ∈ macQueries P receiver (wireBytes P sender data ++ tail)) :
    (query.key, query.message) = (macKey, be32 receiver.recvSeq ++ data) := by
  have hkey : (afterDecrypt receiver data.length).recvMacKey = some macKey := hmac
  rw [macQueries, run_recvFrame_sent tail hmatch haccept] at hquery
  dsimp only at hquery
  rw [hkey] at hquery
  dsimp only at hquery
  split at hquery
  · rw [List.mem_singleton.mp hquery]
    rfl
  · simp at hquery

theorem session_repeated_recv (count : Nat) {sender receiver : SessionKeys} (tail : Bytes)
    (hmatch : Matching sender receiver) (hmac : receiver.recvMacKey = some macKey)
    (haccept : serialize packet (blockSizeOf sender) rng = .ok data) :
    (session P (List.replicate count .recv) receiver
        (repeatedWire P data count sender ++ tail)).received = List.replicate count packet ∧
      ∀ query ∈ (session P (List.replicate count .recv) receiver
        (repeatedWire P data count sender ++ tail)).queries, ∃ j < count,
        (query.key, query.message) =
          (macKey, be32 (receiver.recvSeq + UInt32.ofNat j) ++ data) := by
  induction count generalizing sender receiver with
  | zero => exact ⟨rfl, fun query hquery => absurd hquery (List.not_mem_nil)⟩
  | succ count ih =>
      obtain ⟨hreceived, hqueries⟩ := ih (hmatch.step data.length)
        (show (afterRecv receiver data.length).recvMacKey = some macKey from hmac)
        (by rwa [blockSizeOf_afterSend])
      rw [List.replicate_succ, repeatedWire, List.append_assoc, session,
        run_recvPacket_sent _ hmatch haccept]
      dsimp only [Trace.append, recvTrace]
      refine ⟨by rw [hreceived, List.replicate_succ]; rfl, ?_⟩
      intro query hquery
      rcases List.mem_append.mp hquery with hquery | hquery
      · refine ⟨0, by omega, ?_⟩
        rw [macQueries_sent _ hmatch hmac haccept hquery]
        simp
      · obtain ⟨j, hj, heq⟩ := hqueries query hquery
        refine ⟨j + 1, by omega, ?_⟩
        rw [heq, ← add_ofNat_succ]
        rfl

end Repeated

/-- An IGNORE message and its serialization with zero padding. -/
def ignorePacket : SshPacket := newPacket .ignore []

/-- The serialization, with zero padding. -/
def ignoreData : Bytes :=
  frame ignorePacket (randomBytes (fun _ => 0) (paddingLen ignorePacket aesBlockSize))

/-- A client that sends the same message `sends` times after an undisturbed
handshake, with the bytes of `receives` such messages delivered to the server. -/
def repeatConnection (sends receives : Nat) : Connection toyPrimitives where
  clientRandom := sampleRandom 3
  serverRandom := sampleRandom 5
  clientStream := serverFlight toyPrimitives (sampleRandom 3) (sampleRandom 5) ++ []
  serverStream := clientFlight toyPrimitives (sampleRandom 3) ++
    (repeatedWire toyPrimitives ignoreData receives (activatedClient toyPrimitives
      (agreedResult toyPrimitives (sampleRandom 3) (sampleRandom 5))) ++ [])
  clientActions := List.replicate sends (.send ignorePacket fun _ => 0)
  serverActions := List.replicate receives .recv
  clientActivated := by
    rw [run_clientHandshake]
    exact ⟨_, rfl⟩
  serverActivated := by
    rw [run_serverHandshake]
    exact ⟨_, rfl⟩

theorem serialize_ignorePacket (P : Primitives) (result : KexResult) :
    serialize ignorePacket (blockSizeOf (activatedClient P result)) (fun _ => 0) =
      .ok ignoreData := by
  have hblock : blockSizeOf (activatedClient P result) = aesBlockSize := rfl
  have hlength : packetLength ignorePacket aesBlockSize = 16 := by decide
  rw [hblock, serialize_eq_ok_iff, hlength]
  exact ⟨by simp [maxPacketSize], rfl⟩

theorem matching_activated (P : Primitives) (result : KexResult) :
    Matching (activatedClient P result) (activatedServer P result) :=
  ⟨rfl, Or.inr ⟨_, _, rfl, rfl, rfl, rfl⟩⟩

theorem run_repeatConnection_client (sends receives : Nat) :
    run (clientHandshake toyPrimitives (repeatConnection sends receives).clientRandom)
        newSessionKeys (repeatConnection sends receives).clientStream =
      ⟨.ok (agreedResult toyPrimitives (sampleRandom 3) (sampleRandom 5)),
        activatedClient toyPrimitives
          (agreedResult toyPrimitives (sampleRandom 3) (sampleRandom 5)),
        [], clientFlight toyPrimitives (sampleRandom 3)⟩ :=
  run_clientHandshake toyPrimitives (sampleRandom 3) (sampleRandom 5) []

theorem run_repeatConnection_server (sends receives : Nat) :
    run (serverHandshake toyPrimitives (repeatConnection sends receives).serverRandom)
        newSessionKeys (repeatConnection sends receives).serverStream =
      ⟨.ok (agreedResult toyPrimitives (sampleRandom 3) (sampleRandom 5)),
        activatedServer toyPrimitives
          (agreedResult toyPrimitives (sampleRandom 3) (sampleRandom 5)),
        repeatedWire toyPrimitives ignoreData receives (activatedClient toyPrimitives
          (agreedResult toyPrimitives (sampleRandom 3) (sampleRandom 5))) ++ [],
        serverFlight toyPrimitives (sampleRandom 3) (sampleRandom 5)⟩ :=
  run_serverHandshake toyPrimitives (sampleRandom 3) (sampleRandom 5) _

theorem repeatConnection_client (sends receives : Nat) :
    (repeatConnection sends receives).client =
      session toyPrimitives (List.replicate sends (.send ignorePacket fun _ => 0))
        (activatedClient toyPrimitives
          (agreedResult toyPrimitives (sampleRandom 3) (sampleRandom 5))) [] := by
  rw [Connection.client, Connection.clientKeys, run_repeatConnection_client]
  rfl

theorem repeatConnection_server (sends receives : Nat) :
    (repeatConnection sends receives).server =
      session toyPrimitives (List.replicate receives .recv)
        (activatedServer toyPrimitives
          (agreedResult toyPrimitives (sampleRandom 3) (sampleRandom 5)))
        (repeatedWire toyPrimitives ignoreData receives (activatedClient toyPrimitives
          (agreedResult toyPrimitives (sampleRandom 3) (sampleRandom 5))) ++ []) := by
  rw [Connection.server, Connection.serverKeys, run_repeatConnection_server]
  rfl

theorem repeatConnection_macKeysMatch (sends receives : Nat) :
    (repeatConnection sends receives).MacKeysMatch := by
  rw [Connection.MacKeysMatch, Connection.clientKeys, Connection.serverKeys,
    run_repeatConnection_client, run_repeatConnection_server]
  exact ⟨rfl, rfl⟩

theorem deriveKey_toyPrimitives (sharedSecret exchangeHash sessionId : Bytes)
    (keyChar : UInt8) :
    deriveKey toyPrimitives sharedSecret exchangeHash keyChar sessionId 32 =
      List.replicate 32 (checksum
        (encodeMpintForHash sharedSecret ++ exchangeHash ++ [keyChar] ++ sessionId)) := by
  have hblocks : 32 ≤ 32 * 1 := le_rfl
  rw [deriveKey_eq_take _ _ _ _ _ hblocks, keyStream, encodeMpintForHash_eq,
    List.append_assoc _ [keyChar]]
  exact List.take_of_length_le (toyPrimitives.sha256_length _).le

theorem repeatConnection_macKeysDiffer (sends receives : Nat) :
    (repeatConnection sends receives).MacKeysDiffer := by
  rw [Connection.MacKeysDiffer, Connection.clientKeys, Connection.serverKeys,
    run_repeatConnection_client, run_repeatConnection_server]
  simp only [activatedClient, activatedServer, deriveSessionKeys, deriveKey_toyPrimitives]
  intro heq
  have hhead := List.replicate_right_injective (by decide) (Option.some.inj heq)
  simp only [checksum_append] at hhead
  have hchar := (UInt8.add_right_inj _).mp ((UInt8.add_left_inj _).mp hhead)
  exact absurd hchar (by decide)

/-- The codes of the delivered messages are all known when each of their
sequence numbers has been used. -/
theorem repeatConnection_unforged {sends receives : Nat}
    (hused : ∀ j < receives, ∃ i < sends, UInt32.ofNat i = UInt32.ofNat j) :
    (repeatConnection sends receives).Unforged := by
  intro query hquery _
  have haccept := serialize_ignorePacket toyPrimitives
    (agreedResult toyPrimitives (sampleRandom 3) (sampleRandom 5))
  rw [repeatConnection_client, repeatConnection_server,
    session_repeated_send sends [] rfl haccept, List.nil_append] at hquery
  obtain ⟨-, hqueries⟩ := session_repeated_recv receives [] (matching_activated _ _) rfl haccept
  obtain ⟨j, hj, heq⟩ := hqueries query hquery
  obtain ⟨i, hi, hsame⟩ := hused j hj
  rw [repeatConnection_client, session_repeated_send sends [] rfl haccept, heq, ← hsame]
  apply List.mem_append_left
  exact List.mem_map_of_mem (List.mem_range.mpr hi)

theorem repeatConnection_received (sends receives : Nat) :
    (repeatConnection sends receives).server.received = List.replicate receives ignorePacket := by
  have haccept := serialize_ignorePacket toyPrimitives
    (agreedResult toyPrimitives (sampleRandom 3) (sampleRandom 5))
  rw [repeatConnection_server]
  exact (session_repeated_recv receives [] (matching_activated _ _) rfl haccept).1

theorem repeatConnection_sent (sends receives : Nat) :
    (repeatConnection sends receives).client.passed = List.replicate sends ignorePacket ∧
      (repeatConnection sends receives).client.macLog.length = sends := by
  have haccept := serialize_ignorePacket toyPrimitives
    (agreedResult toyPrimitives (sampleRandom 3) (sampleRandom 5))
  rw [repeatConnection_client, session_repeated_send sends [] rfl haccept]
  exact ⟨rfl, by simp⟩

theorem record_integrity_repeated :
    (repeatConnection 3 2).server.received ≠ [] ∧
      (repeatConnection 3 2).server.received <+: (repeatConnection 3 2).client.passed := by
  constructor
  · rw [repeatConnection_received]
    simp
  · have hunforged : (repeatConnection 3 2).Unforged :=
      repeatConnection_unforged fun j hj => ⟨j, by omega, rfl⟩
    apply (record_integrity toyPrimitives (repeatConnection 3 2)
      (repeatConnection_macKeysMatch 3 2) (repeatConnection_macKeysDiffer 3 2)
      hunforged).1.whole
    rw [(repeatConnection_sent 3 2).2]
    omega

/-- With exactly `2 ^ 32` protected packets the next sequence number is that of
the first packet, whose code is then accepted again. -/
theorem record_integrity_fails_at_wrap :
    ∃ c : Connection toyPrimitives, c.MacKeysMatch ∧ c.MacKeysDiffer ∧ c.Unforged ∧
      c.client.macLog.length ≤ 2 ^ 32 ∧ ¬ c.server.received <+: c.client.passed := by
  obtain ⟨count, hcount⟩ : ∃ count : Nat, count = 2 ^ 32 := ⟨_, rfl⟩
  refine ⟨repeatConnection count (count + 1), repeatConnection_macKeysMatch _ _,
    repeatConnection_macKeysDiffer _ _, repeatConnection_unforged ?_, ?_, ?_⟩
  · intro j hj
    by_cases hlast : j = count
    · refine ⟨0, by omega, ?_⟩
      rw [hlast, hcount]
      rfl
    · exact ⟨j, by omega, rfl⟩
  · rw [(repeatConnection_sent _ _).2, hcount]
  · intro hfront
    have hlength := hfront.length_le
    rw [repeatConnection_received, (repeatConnection_sent _ _).1] at hlength
    simp at hlength

end SwiftSsh.RecordIntegrity
