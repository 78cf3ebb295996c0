import SwiftSsh.KeyExchange
import SwiftSsh.ProgramNetwork
import SwiftSsh.TransportLockstep
import SwiftSsh.VersionExchange

namespace SwiftSsh.Handshake

open Relation
open SwiftSsh.ByteWords
open SwiftSsh.RustOutcome
open SwiftSsh.ByteProgram
open SwiftSsh.ByteProgram.Program
open SwiftSsh.ProgramNetwork
open SwiftSsh.WireTypes
open SwiftSsh.WireBuffer
open SwiftSsh.PacketCodec
open SwiftSsh.SessionCrypto
open SwiftSsh.PacketTransport
open SwiftSsh.TransportLockstep
open SwiftSsh.VersionExchange
open SwiftSsh.KeyExchange

/-- The random values drawn by one side. -/
structure HandshakeRandom where
  secret : Bytes
  cookie : Nat → UInt8
  kexinitPadding : Nat → UInt8
  ecdhPadding : Nat → UInt8
  newkeysPadding : Nat → UInt8

/-- Install the session identifier, the ciphers and the authentication keys. -/
def activate (sessionId : Bytes) (cipherPair : CipherPair) (sendMacKey recvMacKey : Bytes) :
    Program SessionKeys SshError Unit := do
  let keys ← getState
  setState { keys with
    sessionId := some sessionId
    ciphers := some cipherPair
    sendMacKey := some sendMacKey
    recvMacKey := some recvMacKey }

/-- Host key blob, server key and signature of a KEX_ECDH_REPLY. -/
def readEcdhReply : Cursor (Bytes × Bytes × Bytes) := do
  let hostKeyBlob ← readString
  let serverEphemeralPub ← readString
  let signature ← readString
  return (hostKeyBlob, serverEphemeralPub, signature)

/-- The KEXINIT payload with its message byte, as it is hashed. -/
def fullKexinit (payload : Bytes) : Bytes :=
  MessageType.kexInit.toU8 :: payload

/-- The first packet of each side. -/
def kexinitPacket (R : HandshakeRandom) : SshPacket :=
  newPacket .kexInit (buildKexinitPayload R.cookie)

/-- The packet with the public key of the client. -/
def ecdhInitPacket (kex : KexState) : SshPacket :=
  newPacket .kexEcdhInit (writeString kex.ephemeralPub)

/-- The last packet of each side. -/
def newkeysPacket : SshPacket :=
  newPacket .newKeys []

/-- The client's part after its version line: it waits for the server's KEXINIT
and answers with its own and its ephemeral key. Returns the server's version and
KEXINIT payload. -/
def clientKexinit (P : Primitives) (R : HandshakeRandom) :
    Program SessionKeys SshError (String × Bytes) := do
  let serverVersion ← recvVersionString
  let serverKexinitPkt ← recvPacket P
  require (serverKexinitPkt.msgType == MessageType.kexInit.toU8)
    (.protocol "Expected KEXINIT from server")
  sendPacket P R.kexinitPadding (kexinitPacket R)
  sendPacket P R.ecdhPadding (ecdhInitPacket (newKex P R.secret))
  return (serverVersion, serverKexinitPkt.payload)

/-- The client's handling of the server's reply. -/
def clientReply (P : Primitives) (R : HandshakeRandom) (serverVersion : String)
    (serverKexinitPayload : Bytes) : Program SessionKeys SshError KexResult := do
  let replyPkt ← recvPacket P
  require (replyPkt.msgType == MessageType.kexEcdhReply.toU8)
    (.protocol "Expected KEX_ECDH_REPLY")
  let reply ← lift (parse readEcdhReply replyPkt.payload)
  require (reply.2.1.length == 32) (.keyExchange "Invalid server public key length")
  let completed ← lift (completeClient P (newKex P R.secret) reply.2.1 sshVersionString
    serverVersion (fullKexinit (buildKexinitPayload R.cookie))
    (fullKexinit serverKexinitPayload) reply.1)
  return completed.1

/-- The client's switch to the new keys. -/
def clientNewkeys (P : Primitives) (R : HandshakeRandom) (kexResult : KexResult) :
    Program SessionKeys SshError KexResult := do
  let newkeysPkt ← recvPacket P
  require (newkeysPkt.msgType == MessageType.newKeys.toU8) (.protocol "Expected NEWKEYS")
  sendPacket P R.newkeysPadding newkeysPacket
  let derived := deriveSessionKeys P kexResult
  let cipherPair ← lift (newCipherPair derived.encKeyCs derived.ivCs
    derived.encKeySc derived.ivSc)
  activate kexResult.exchangeHash cipherPair derived.macKeyCs derived.macKeySc
  return kexResult

/-- `run_client` up to key activation. -/
def clientHandshake (P : Primitives) (R : HandshakeRandom) :
    Program SessionKeys SshError KexResult := do
  sendVersionString sshVersionString
  let hello ← clientKexinit P R
  let kexResult ← clientReply P R hello.1 hello.2
  clientNewkeys P R kexResult

/-- The server sends this text in the place of a host key. -/
def hostKeyBlob : Bytes := utf8 "swiftssh-server-host-key"

/-- The reply with the host key, the server's key and the simplified signature
over the exchange hash. -/
def ecdhReplyPacket (P : Primitives) (kex : KexState) (kexResult : KexResult) : SshPacket :=
  let signature := computeHmac P (utf8 "host-key-secret") kexResult.exchangeHash
  newPacket .kexEcdhReply
    (writeString hostKeyBlob ++ writeString kex.ephemeralPub ++ writeString signature)

/-- The server's version line and KEXINIT. Returns the client's version. -/
def serverKexinit (P : Primitives) (R : HandshakeRandom) :
    Program SessionKeys SshError String := do
  let clientVersion ← recvVersionString
  sendPacket P R.kexinitPadding (kexinitPacket R)
  return clientVersion

/-- The server's part from the client's KEXINIT to its own NEWKEYS. -/
def serverReply (P : Primitives) (R : HandshakeRandom) (clientVersion : String) :
    Program SessionKeys SshError KexResult := do
  let clientKexinitPkt ← recvPacket P
  require (clientKexinitPkt.msgType == MessageType.kexInit.toU8)
    (.protocol "Expected KEXINIT")
  let kexInitPkt ← recvPacket P
  require (kexInitPkt.msgType == MessageType.kexEcdhInit.toU8)
    (.protocol "Expected KEX_ECDH_INIT")
  let clientEphemeralPub ← lift (parse readString kexInitPkt.payload)
  require (clientEphemeralPub.length == 32)
    (.keyExchange "Invalid client public key length")
  let kex := newKex P R.secret
  let completed ← lift (completeServer P kex clientEphemeralPub clientVersion
    sshVersionString (fullKexinit clientKexinitPkt.payload)
    (fullKexinit (buildKexinitPayload R.cookie)) hostKeyBlob)
  sendPacket P R.ecdhPadding (ecdhReplyPacket P kex completed.1)
  sendPacket P R.newkeysPadding newkeysPacket
  return completed.1

/-- The server's switch to the new keys. -/
def serverNewkeys (P : Primitives) (kexResult : KexResult) :
    Program SessionKeys SshError KexResult := do
  let clientNewkeys ← recvPacket P
  require (clientNewkeys.msgType == MessageType.newKeys.toU8) (.protocol "Expected NEWKEYS")
  let derived := deriveSessionKeys P kexResult
  let cipherPair ← lift (newCipherPair derived.encKeySc derived.ivSc
    derived.encKeyCs derived.ivCs)
  activate kexResult.exchangeHash cipherPair derived.macKeySc derived.macKeyCs
  return kexResult

/-- `handle_connection` up to key activation. -/
def serverHandshake (P : Primitives) (R : HandshakeRandom) :
    Program SessionKeys SshError KexResult := do
  sendVersionString sshVersionString
  let clientVersion ← serverKexinit P R
  let kexResult ← serverReply P R clientVersion
  serverNewkeys P kexResult

/-- The keys of a connection before activation, with its packet counts. -/
def plainKeys (sent received : UInt32) : SessionKeys :=
  ⟨sent, received, none, none, none, none⟩

/-- A packet as it is sent before there are keys. -/
def plainFrame (packet : SshPacket) (rng : Nat → UInt8) : Bytes :=
  frame packet (randomBytes rng (paddingLen packet 8))

theorem packetLength_le_of_payload {packet : SshPacket}
    (hpayload : packet.payload.length ≤ 30000) :
    packetLength packet 8 ≤ maxPacketSize := by
  have hpadding := paddingLen_lt packet 8
  simp only [packetLength, maxPacketSize, minPadding] at *
  omega

theorem serialize_plain {packet : SshPacket} (rng : Nat → UInt8) (sent received : UInt32)
    (hpayload : packet.payload.length ≤ 30000) :
    serialize packet (blockSizeOf (plainKeys sent received)) rng =
      .ok (plainFrame packet rng) := by
  have hblock : blockSizeOf (plainKeys sent received) = 8 := rfl
  rw [hblock, serialize_eq_ok_iff]
  exact ⟨packetLength_le_of_payload hpayload, rfl⟩

theorem run_sendPacket_plain (P : Primitives) {packet : SshPacket} (rng : Nat → UInt8)
    (sent received : UInt32) (input : Bytes)
    (hpayload : packet.payload.length ≤ 30000) :
    run (sendPacket P rng packet) (plainKeys sent received) input =
      ⟨.ok (), plainKeys (sent + 1) received, input, plainFrame packet rng⟩ := by
  rw [run_sendPacket_accepted input (serialize_plain rng sent received hpayload)]
  simp [afterSend, encrypted, sendTag, plainKeys]

theorem run_recvPacket_plain (P : Primitives) {packet : SshPacket} (rng : Nat → UInt8)
    (sent received : UInt32) (tail : Bytes)
    (hpayload : packet.payload.length ≤ 30000) :
    run (recvPacket P) (plainKeys sent received) (plainFrame packet rng ++ tail) =
      ⟨.ok packet, plainKeys sent (received + 1), tail, []⟩ := by
  have hmatch : Matching (plainKeys received sent) (plainKeys sent received) :=
    ⟨rfl, Or.inl ⟨rfl, rfl, rfl, rfl⟩⟩
  have hrecv := run_recvPacket_sent (P := P) tail hmatch
    (serialize_plain rng received sent hpayload)
  simpa [wireBytes, encrypted, sendTag, plainKeys, afterRecv, afterDecrypt] using hrecv

theorem buildKexinitPayload_length (cookie : Nat → UInt8) :
    (buildKexinitPayload cookie).length = 178 := by
  simp only [buildKexinitPayload, List.length_append, randomBytes_length]
  decide +kernel

theorem hostKeyBlob_length : hostKeyBlob.length = 24 := by
  decide +kernel

theorem parse_readEcdhReply {blob pub signature : Bytes}
    (hblob : blob.length ≤ maxPacketSize) (hpub : pub.length ≤ maxPacketSize)
    (hsignature : signature.length ≤ maxPacketSize) :
    parse readEcdhReply (writeString blob ++ writeString pub ++ writeString signature) =
      .ok (blob, pub, signature) := by
  have hlast := readString_writeString [] hsignature
  rw [List.append_nil] at hlast
  apply parse_eq_ok
  rw [List.append_assoc, readEcdhReply,
    cursor_bind_ok _ (readString_writeString _ hblob),
    cursor_bind_ok _ (readString_writeString _ hpub), cursor_bind_ok _ hlast,
    cursor_pure]

theorem parse_readString {data : Bytes} (hdata : data.length ≤ maxPacketSize) :
    parse readString (writeString data) = .ok data := by
  have hread := readString_writeString [] hdata
  rw [List.append_nil] at hread
  exact parse_eq_ok hread

/-- What the honest exchange computes on both sides. -/
def agreedResult (P : Primitives) (client server : HandshakeRandom) : KexResult :=
  let shared := P.x25519 client.secret (P.x25519Public server.secret)
  ⟨shared, computeExchangeHash P sshVersionString sshVersionString
    (fullKexinit (buildKexinitPayload client.cookie))
    (fullKexinit (buildKexinitPayload server.cookie)) hostKeyBlob
    (P.x25519Public client.secret) (P.x25519Public server.secret) shared⟩

theorem kexinitPacket_payload (R : HandshakeRandom) :
    (kexinitPacket R).payload.length ≤ 30000 := by
  change (buildKexinitPayload R.cookie).length ≤ 30000
  rw [buildKexinitPayload_length]
  omega

theorem ecdhInitPacket_payload (P : Primitives) (secret : Bytes) :
    (ecdhInitPacket (newKex P secret)).payload.length ≤ 30000 := by
  change (writeString (P.x25519Public secret)).length ≤ 30000
  rw [writeString_length, P.x25519Public_length]
  omega

theorem newkeysPacket_payload : newkeysPacket.payload.length ≤ 30000 := by
  change ([] : Bytes).length ≤ 30000
  simp

theorem ecdhReplyPacket_payload (P : Primitives) (secret : Bytes) (kexResult : KexResult) :
    (ecdhReplyPacket P (newKex P secret) kexResult).payload.length ≤ 30000 := by
  change (writeString hostKeyBlob ++ writeString (P.x25519Public secret) ++
    writeString _).length ≤ 30000
  rw [List.length_append, List.length_append, writeString_length, writeString_length,
    writeString_length, hostKeyBlob_length, P.x25519Public_length, computeHmac_length]
  simp [hmacSha256Size]

/-- The client's keys after activation. -/
def activatedClient (P : Primitives) (result : KexResult) : SessionKeys :=
  let derived := deriveSessionKeys P result
  ⟨3, 3, some result.exchangeHash,
    some ⟨⟨derived.encKeyCs, derived.ivCs, 0⟩, ⟨derived.encKeySc, derived.ivSc, 0⟩⟩,
    some derived.macKeyCs, some derived.macKeySc⟩

/-- The server's keys after activation. -/
def activatedServer (P : Primitives) (result : KexResult) : SessionKeys :=
  let derived := deriveSessionKeys P result
  ⟨3, 3, some result.exchangeHash,
    some ⟨⟨derived.encKeySc, derived.ivSc, 0⟩, ⟨derived.encKeyCs, derived.ivCs, 0⟩⟩,
    some derived.macKeySc, some derived.macKeyCs⟩

/-- Both sides before their first step. -/
def initialNetwork (P : Primitives) (client server : HandshakeRandom) :
    Network SessionKeys SshError KexResult SessionKeys SshError KexResult :=
  ⟨⟨clientHandshake P client, newSessionKeys⟩, ⟨serverHandshake P server, newSessionKeys⟩,
    [], []⟩

/-- Both sides after activation. -/
def finalNetwork (P : Primitives) (client server : HandshakeRandom) :
    Network SessionKeys SshError KexResult SessionKeys SshError KexResult :=
  let result := agreedResult P client server
  ⟨⟨.done (.ok result), activatedClient P result⟩,
    ⟨.done (.ok result), activatedServer P result⟩, [], []⟩

theorem run_clientKexinit (P : Primitives) (client server : HandshakeRandom)
    (tail : Bytes) :
    run (clientKexinit P client) (plainKeys 0 0)
        (utf8 sshVersionString ++ crlf ++
          (plainFrame (kexinitPacket server) server.kexinitPadding ++ tail)) =
      ⟨.ok (sshVersionString, buildKexinitPayload server.cookie), plainKeys 2 1, tail,
        plainFrame (kexinitPacket client) client.kexinitPadding ++
          plainFrame (ecdhInitPacket (newKex P client.secret)) client.ecdhPadding⟩ := by
  have htype : ((kexinitPacket server).msgType == MessageType.kexInit.toU8) = true := rfl
  rw [clientKexinit, run_bind_ok (run_recvVersionString_sshVersionString _ _),
    run_bind_ok (run_recvPacket_plain P _ _ _ _ (kexinitPacket_payload server)),
    run_bind_ok (run_require _ _ _ htype),
    run_bind_ok (run_sendPacket_plain P _ _ _ _ (kexinitPacket_payload client)),
    run_bind_ok (run_sendPacket_plain P _ _ _ _ (ecdhInitPacket_payload P _)), run_pure]
  simp only [Run.after, List.nil_append, List.append_nil]
  rfl

theorem run_serverKexinit (P : Primitives) (server : HandshakeRandom) (tail : Bytes) :
    run (serverKexinit P server) (plainKeys 0 0)
        (utf8 sshVersionString ++ crlf ++ tail) =
      ⟨.ok sshVersionString, plainKeys 1 0, tail,
        plainFrame (kexinitPacket server) server.kexinitPadding⟩ := by
  rw [serverKexinit, run_bind_ok (run_recvVersionString_sshVersionString _ _),
    run_bind_ok (run_sendPacket_plain P _ _ _ _ (kexinitPacket_payload server)), run_pure]
  simp only [Run.after, List.nil_append, List.append_nil]
  rfl

theorem le_maxPacketSize_of_le {n : Nat} (hn : n ≤ 1000) : n ≤ maxPacketSize :=
  hn.trans (by decide)

theorem run_serverReply (P : Primitives) (client server : HandshakeRandom) (tail : Bytes) :
    run (serverReply P server sshVersionString) (plainKeys 1 0)
        (plainFrame (kexinitPacket client) client.kexinitPadding ++
          (plainFrame (ecdhInitPacket (newKex P client.secret)) client.ecdhPadding ++ tail)) =
      ⟨.ok (agreedResult P client server), plainKeys 3 2, tail,
        plainFrame (ecdhReplyPacket P (newKex P server.secret)
            (agreedResult P client server)) server.ecdhPadding ++
          plainFrame newkeysPacket server.newkeysPadding⟩ := by
  have hpub := P.x25519Public_length client.secret
  have hparse : parse readString (ecdhInitPacket (newKex P client.secret)).payload =
      .ok (P.x25519Public client.secret) :=
    parse_readString (le_maxPacketSize_of_le (hpub.le.trans (by omega)))
  have hkexinit : ((kexinitPacket client).msgType == MessageType.kexInit.toU8) = true := rfl
  have hecdh : ((ecdhInitPacket (newKex P client.secret)).msgType ==
      MessageType.kexEcdhInit.toU8) = true := rfl
  have hlength : ((P.x25519Public client.secret).length == 32) = true := by
    rw [hpub]
    rfl
  have hcomplete : completeServer P (newKex P server.secret) (P.x25519Public client.secret)
      sshVersionString sshVersionString (fullKexinit (kexinitPacket client).payload)
      (fullKexinit (buildKexinitPayload server.cookie)) hostKeyBlob =
      .ok (agreedResult P client server, ⟨none, P.x25519Public server.secret⟩) := by
    simp only [completeServer, newKex, agreedResult, kexinitPacket, newPacket,
      P.x25519_comm server.secret client.secret]
  rw [serverReply,
    run_bind_ok (run_recvPacket_plain P _ _ _ _ (kexinitPacket_payload client)),
    run_bind_ok (run_require _ _ _ hkexinit),
    run_bind_ok (run_recvPacket_plain P _ _ _ _ (ecdhInitPacket_payload P _)),
    run_bind_ok (run_require _ _ _ hecdh), hparse, run_bind_ok (run_lift _ _ _),
    run_bind_ok (run_require _ _ _ hlength)]
  dsimp only
  rw [hcomplete, run_bind_ok (run_lift _ _ _),
    run_bind_ok (run_sendPacket_plain P _ _ _ _ (ecdhReplyPacket_payload P _ _)),
    run_bind_ok (run_sendPacket_plain P _ _ _ _ newkeysPacket_payload), run_pure]
  simp only [Run.after, List.nil_append, List.append_nil]
  rfl

theorem run_clientReply (P : Primitives) (client server : HandshakeRandom) (tail : Bytes) :
    run (clientReply P client sshVersionString (buildKexinitPayload server.cookie))
        (plainKeys 2 1)
        (plainFrame (ecdhReplyPacket P (newKex P server.secret)
          (agreedResult P client server)) server.ecdhPadding ++ tail) =
      ⟨.ok (agreedResult P client server), plainKeys 2 2, tail, []⟩ := by
  have hpub := P.x25519Public_length server.secret
  have hparse : parse readEcdhReply (ecdhReplyPacket P (newKex P server.secret)
      (agreedResult P client server)).payload =
      .ok (hostKeyBlob, P.x25519Public server.secret,
        computeHmac P (utf8 "host-key-secret") (agreedResult P client server).exchangeHash) := by
    apply parse_readEcdhReply
    · exact le_maxPacketSize_of_le (by rw [hostKeyBlob_length]; omega)
    · exact le_maxPacketSize_of_le (hpub.le.trans (by omega))
    · exact le_maxPacketSize_of_le (by rw [computeHmac_length]; decide)
  have htype : ((ecdhReplyPacket P (newKex P server.secret)
      (agreedResult P client server)).msgType == MessageType.kexEcdhReply.toU8) = true := rfl
  have hlength : ((P.x25519Public server.secret).length == 32) = true := by
    rw [hpub]
    rfl
  have hcomplete : completeClient P (newKex P client.secret) (P.x25519Public server.secret)
      sshVersionString sshVersionString (fullKexinit (buildKexinitPayload client.cookie))
      (fullKexinit (buildKexinitPayload server.cookie)) hostKeyBlob =
      .ok (agreedResult P client server, ⟨none, P.x25519Public client.secret⟩) :=
    rfl
  rw [clientReply,
    run_bind_ok (run_recvPacket_plain P _ _ _ _ (ecdhReplyPacket_payload P _ _)),
    run_bind_ok (run_require _ _ _ htype), hparse, run_bind_ok (run_lift _ _ _),
    run_bind_ok (run_require _ _ _ hlength)]
  dsimp only
  rw [hcomplete, run_bind_ok (run_lift _ _ _), run_pure]
  rfl

theorem run_activate (sessionId : Bytes) (cipherPair : CipherPair)
    (sendMacKey recvMacKey : Bytes) (keys : SessionKeys) (input : Bytes) :
    run (activate sessionId cipherPair sendMacKey recvMacKey) keys input =
      ⟨.ok (), ⟨keys.sendSeq, keys.recvSeq, some sessionId, some cipherPair,
        some sendMacKey, some recvMacKey⟩, input, []⟩ :=
  rfl

theorem newCipherPair_client (P : Primitives) (result : KexResult) :
    newCipherPair (deriveSessionKeys P result).encKeyCs (deriveSessionKeys P result).ivCs
        (deriveSessionKeys P result).encKeySc (deriveSessionKeys P result).ivSc =
      .ok ⟨⟨(deriveSessionKeys P result).encKeyCs, (deriveSessionKeys P result).ivCs, 0⟩,
        ⟨(deriveSessionKeys P result).encKeySc, (deriveSessionKeys P result).ivSc, 0⟩⟩ := by
  apply newCipherPair_of_lengths <;> exact deriveKey_length P _ _ _ _ _

theorem newCipherPair_server (P : Primitives) (result : KexResult) :
    newCipherPair (deriveSessionKeys P result).encKeySc (deriveSessionKeys P result).ivSc
        (deriveSessionKeys P result).encKeyCs (deriveSessionKeys P result).ivCs =
      .ok ⟨⟨(deriveSessionKeys P result).encKeySc, (deriveSessionKeys P result).ivSc, 0⟩,
        ⟨(deriveSessionKeys P result).encKeyCs, (deriveSessionKeys P result).ivCs, 0⟩⟩ := by
  apply newCipherPair_of_lengths <;> exact deriveKey_length P _ _ _ _ _

theorem run_clientNewkeys (P : Primitives) (client : HandshakeRandom) (rng : Nat → UInt8)
    (result : KexResult) (tail : Bytes) :
    run (clientNewkeys P client result) (plainKeys 2 2)
        (plainFrame newkeysPacket rng ++ tail) =
      ⟨.ok result, activatedClient P result, tail,
        plainFrame newkeysPacket client.newkeysPadding⟩ := by
  have htype : (newkeysPacket.msgType == MessageType.newKeys.toU8) = true := rfl
  rw [clientNewkeys, run_bind_ok (run_recvPacket_plain P _ _ _ _ newkeysPacket_payload),
    run_bind_ok (run_require _ _ _ htype),
    run_bind_ok (run_sendPacket_plain P _ _ _ _ newkeysPacket_payload)]
  dsimp only
  rw [newCipherPair_client, run_bind_ok (run_lift _ _ _),
    run_bind_ok (run_activate _ _ _ _ _ _), run_pure]
  simp only [Run.after, List.nil_append, List.append_nil]
  rfl

theorem run_serverNewkeys (P : Primitives) (rng : Nat → UInt8) (result : KexResult)
    (tail : Bytes) :
    run (serverNewkeys P result) (plainKeys 3 2) (plainFrame newkeysPacket rng ++ tail) =
      ⟨.ok result, activatedServer P result, tail, []⟩ := by
  have htype : (newkeysPacket.msgType == MessageType.newKeys.toU8) = true := rfl
  rw [serverNewkeys, run_bind_ok (run_recvPacket_plain P _ _ _ _ newkeysPacket_payload),
    run_bind_ok (run_require _ _ _ htype)]
  dsimp only
  rw [newCipherPair_server, run_bind_ok (run_lift _ _ _),
    run_bind_ok (run_activate _ _ _ _ _ _), run_pure]
  rfl

theorem run_sendVersionString_plain (input : Bytes) :
    run (sendVersionString sshVersionString) newSessionKeys input =
      ⟨.ok (), plainKeys 0 0, input, utf8 sshVersionString ++ crlf⟩ :=
  rfl

/-- Everything the client writes until it has activated its keys. -/
def clientFlight (P : Primitives) (client : HandshakeRandom) : Bytes :=
  utf8 sshVersionString ++ crlf ++
    (plainFrame (kexinitPacket client) client.kexinitPadding ++
      (plainFrame (ecdhInitPacket (newKex P client.secret)) client.ecdhPadding ++
        plainFrame newkeysPacket client.newkeysPadding))

/-- Everything the server writes until it has activated its keys. -/
def serverFlight (P : Primitives) (client server : HandshakeRandom) : Bytes :=
  utf8 sshVersionString ++ crlf ++
    (plainFrame (kexinitPacket server) server.kexinitPadding ++
      (plainFrame (ecdhReplyPacket P (newKex P server.secret) (agreedResult P client server))
          server.ecdhPadding ++
        plainFrame newkeysPacket server.newkeysPadding))

theorem run_clientHandshake (P : Primitives) (client server : HandshakeRandom)
    (tail : Bytes) :
    run (clientHandshake P client) newSessionKeys (serverFlight P client server ++ tail) =
      ⟨.ok (agreedResult P client server), activatedClient P (agreedResult P client server),
        tail, clientFlight P client⟩ := by
  simp only [serverFlight, clientFlight, List.append_assoc]
  rw [← List.append_assoc (utf8 sshVersionString) crlf]
  rw [clientHandshake, run_bind_ok (run_sendVersionString_plain _),
    run_bind_ok (run_clientKexinit P client server _),
    run_bind_ok (run_clientReply P client server _),
    run_clientNewkeys P client server.newkeysPadding]
  simp only [Run.after, List.nil_append, List.append_assoc]

theorem run_serverHandshake (P : Primitives) (client server : HandshakeRandom)
    (tail : Bytes) :
    run (serverHandshake P server) newSessionKeys (clientFlight P client ++ tail) =
      ⟨.ok (agreedResult P client server), activatedServer P (agreedResult P client server),
        tail, serverFlight P client server⟩ := by
  simp only [serverFlight, clientFlight, List.append_assoc]
  rw [← List.append_assoc (utf8 sshVersionString) crlf]
  rw [serverHandshake, run_bind_ok (run_sendVersionString_plain _),
    run_bind_ok (run_serverKexinit P server _),
    run_bind_ok (run_serverReply P client server _),
    run_serverNewkeys P client.newkeysPadding]
  simp only [Run.after, List.append_nil, List.append_assoc]

/-- One schedule that completes both sides: each runs as far as the bytes
waiting for it allow. -/
theorem handshake_schedule (P : Primitives) (client server : HandshakeRandom) :
    ReflTransGen Step (initialNetwork P client server) (finalNetwork P client server) := by
  have hclientKexinit := run_clientKexinit P client server []
  have hserverKexinit := run_serverKexinit P server []
  have hserverReply := run_serverReply P client server []
  have hserverNewkeys := run_serverNewkeys P client.newkeysPadding
    (agreedResult P client server) []
  have hclientReply := run_clientReply P client server
    (plainFrame newkeysPacket server.newkeysPadding)
  have hclientNewkeys := run_clientNewkeys P client server.newkeysPadding
    (agreedResult P client server) []
  rw [List.append_nil] at hclientKexinit hserverKexinit hserverReply
  rw [List.append_nil] at hserverNewkeys hclientNewkeys
  refine .trans (left_reaches _ _ (endpointRun_of_run _ (run_sendVersionString_plain []))) ?_
  refine .trans (right_reaches _ _ (endpointRun_of_run _ (run_sendVersionString_plain _))) ?_
  refine .trans (right_reaches _ _ (endpointRun_of_run _ hserverKexinit)) ?_
  refine .trans (left_reaches _ _ (endpointRun_of_run _ hclientKexinit)) ?_
  refine .trans (right_reaches _ _ (endpointRun_of_run _ hserverReply)) ?_
  refine .trans (left_reaches _ _ (endpointRun_of_run _ hclientReply)) ?_
  refine .trans (left_reaches _ _ (endpointRun_of_run_last hclientNewkeys)) ?_
  exact right_reaches _ _ (endpointRun_of_run_last hserverNewkeys)

theorem finalNetwork_final (P : Primitives) (client server : HandshakeRandom) :
    Final (finalNetwork P client server) :=
  ⟨⟨_, rfl⟩, ⟨_, rfl⟩⟩

theorem client_done {P : Primitives} {client server : HandshakeRandom}
    {net : Network SessionKeys SshError KexResult SessionKeys SshError KexResult}
    {result : Outcome SshError KexResult}
    (hreach : ReflTransGen Step (initialNetwork P client server) net)
    (hdone : net.left.program = .done result) :
    net.left = (finalNetwork P client server).left :=
  (left_done_of_reaches hdone (reaches_final (handshake_schedule P client server)
    (finalNetwork_final P client server) hreach)).symm

theorem server_done {P : Primitives} {client server : HandshakeRandom}
    {net : Network SessionKeys SshError KexResult SessionKeys SshError KexResult}
    {result : Outcome SshError KexResult}
    (hreach : ReflTransGen Step (initialNetwork P client server) net)
    (hdone : net.right.program = .done result) :
    net.right = (finalNetwork P client server).right :=
  (right_done_of_reaches hdone (reaches_final (handshake_schedule P client server)
    (finalNetwork_final P client server) hreach)).symm

/-- Both sides have activated the same session, each with the directions of the
other swapped. -/
structure KeysAgree (client server : SessionKeys) : Prop where
  sessionId : ∃ sessionId, client.sessionId = some sessionId ∧
    server.sessionId = some sessionId
  ciphers : ∃ clientPair serverPair, client.ciphers = some clientPair ∧
    server.ciphers = some serverPair ∧ clientPair.encrypt = serverPair.decrypt ∧
    serverPair.encrypt = clientPair.decrypt
  clientMacKey : ∃ macKey, client.sendMacKey = some macKey ∧
    server.recvMacKey = some macKey
  serverMacKey : ∃ macKey, server.sendMacKey = some macKey ∧
    client.recvMacKey = some macKey
  clientSeq : client.sendSeq = server.recvSeq
  serverSeq : server.sendSeq = client.recvSeq

theorem keysAgree_activated (P : Primitives) (result : KexResult) :
    KeysAgree (activatedClient P result) (activatedServer P result) where
  sessionId := ⟨_, rfl, rfl⟩
  ciphers := ⟨_, _, rfl, rfl, rfl, rfl⟩
  clientMacKey := ⟨_, rfl, rfl⟩
  serverMacKey := ⟨_, rfl, rfl⟩
  clientSeq := rfl
  serverSeq := rfl

/-- Over every interleaving the handshake stays able to complete, neither side
ends with a failure, and two activated sides agree. -/
theorem handshake_agreement (P : Primitives) (client server : HandshakeRandom)
    (net : Network SessionKeys SshError KexResult SessionKeys SshError KexResult)
    (hreach : ReflTransGen Step (initialNetwork P client server) net) :
    ReflTransGen Step net (finalNetwork P client server) ∧
      (∀ outcome, net.left.program = .done outcome → ∃ result, outcome = .ok result) ∧
      (∀ outcome, net.right.program = .done outcome → ∃ result, outcome = .ok result) ∧
      (∀ clientResult serverResult, net.left.program = .done (.ok clientResult) →
        net.right.program = .done (.ok serverResult) →
        clientResult = serverResult ∧ KeysAgree net.left.state net.right.state) ∧
      ∀ result, (∃ cipherPair, newCipherPair (deriveSessionKeys P result).encKeyCs
          (deriveSessionKeys P result).ivCs (deriveSessionKeys P result).encKeySc
          (deriveSessionKeys P result).ivSc = .ok cipherPair) ∧
        ∃ cipherPair, newCipherPair (deriveSessionKeys P result).encKeySc
          (deriveSessionKeys P result).ivSc (deriveSessionKeys P result).encKeyCs
          (deriveSessionKeys P result).ivCs = .ok cipherPair := by
  refine ⟨?_, ?_, ?_, ?_, ?_⟩
  · exact reaches_final (handshake_schedule P client server)
      (finalNetwork_final P client server) hreach
  · intro outcome hdone
    rw [client_done hreach hdone] at hdone
    exact ⟨_, (Program.done.inj hdone).symm⟩
  · intro outcome hdone
    rw [server_done hreach hdone] at hdone
    exact ⟨_, (Program.done.inj hdone).symm⟩
  · intro clientResult serverResult hclient hserver
    have hleft := client_done hreach hclient
    have hright := server_done hreach hserver
    rw [hleft] at hclient ⊢
    rw [hright] at hserver ⊢
    constructor
    · exact (Outcome.ok.inj (Program.done.inj hclient)).symm.trans
        (Outcome.ok.inj (Program.done.inj hserver))
    · exact keysAgree_activated P (agreedResult P client server)
  · intro result
    exact ⟨⟨_, newCipherPair_client P result⟩, ⟨_, newCipherPair_server P result⟩⟩

/-- Random values made from one byte. -/
def sampleRandom (seed : UInt8) : HandshakeRandom :=
  ⟨[seed], fun i => seed + UInt8.ofNat i, fun _ => seed, fun _ => seed, fun _ => seed⟩

theorem handshake_agreement_sample :
    KeysAgree (finalNetwork toyPrimitives (sampleRandom 3) (sampleRandom 5)).left.state
      (finalNetwork toyPrimitives (sampleRandom 3) (sampleRandom 5)).right.state :=
  ((handshake_agreement toyPrimitives (sampleRandom 3) (sampleRandom 5) _
    (handshake_schedule toyPrimitives (sampleRandom 3) (sampleRandom 5))).2.2.2.1
      _ _ rfl rfl).2

end SwiftSsh.Handshake
