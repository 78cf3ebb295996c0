import SwiftSsh.HandshakeGrammar

/-!
What a session identifier says about a handshake whose bytes have been in the hands of
somebody else: two sides with the same identifier have seen all the fields that are hashed
as they were sent, or their two transcripts are a collision of the hash function.
-/

namespace SwiftSsh.HandshakeBinding

open SwiftSsh.ByteWords
open SwiftSsh.RustOutcome
open SwiftSsh.ByteProgram
open SwiftSsh.ByteProgram.Program
open SwiftSsh.WireTypes
open SwiftSsh.WireBuffer
open SwiftSsh.SessionCrypto
open SwiftSsh.KeyExchange
open SwiftSsh.ExchangeTranscript
open SwiftSsh.Handshake
open SwiftSsh.HandshakeGrammar

/-- The messages that enter the exchange hash in front of the secret. -/
def messages (exchange : Exchange) : List Bytes :=
  [utf8 exchange.clientVersion, utf8 exchange.serverVersion, exchange.clientKexinit,
    exchange.serverKexinit, exchange.serverHostKeyBlob, exchange.clientEphemeralPub,
    exchange.serverEphemeralPub]

/-- The exchange of two sides that receive what the other one sends. -/
def honestExchange (P : Primitives) (client server : HandshakeRandom) : Exchange where
  clientVersion := sshVersionString
  serverVersion := sshVersionString
  clientKexinit := fullKexinit (buildKexinitPayload client.cookie)
  serverKexinit := fullKexinit (buildKexinitPayload server.cookie)
  serverHostKeyBlob := hostKeyBlob
  clientEphemeralPub := P.x25519Public client.secret
  serverEphemeralPub := P.x25519Public server.secret
  sharedSecret := P.x25519 client.secret (P.x25519Public server.secret)

/-- Different messages with the same hash. -/
def Collide (P : Primitives) (first second : Bytes) : Prop :=
  first ≠ second ∧ P.sha256 first = P.sha256 second

variable {P : Primitives} {client server : HandshakeRandom}

theorem strings_append_inj {first second : List Bytes} {rest rest' : Bytes}
    (hcount : first.length = second.length)
    (hfirst : ∀ message ∈ first, message.length < 2 ^ 32 - 1)
    (hsecond : ∀ message ∈ second, message.length < 2 ^ 32 - 1)
    (heq : first.flatMap writeString ++ rest = second.flatMap writeString ++ rest') :
    first = second := by
  induction first generalizing second with
  | nil => exact (List.eq_nil_of_length_eq_zero hcount.symm).symm
  | cons message messages ih =>
      cases second with
      | nil => cases hcount
      | cons message' messages' =>
          obtain ⟨hmessage, hmessages⟩ := List.forall_mem_cons.mp hfirst
          obtain ⟨hmessage', hmessages'⟩ := List.forall_mem_cons.mp hsecond
          rw [List.flatMap_cons, List.flatMap_cons, List.append_assoc, List.append_assoc] at heq
          obtain ⟨rfl, hlater⟩ := writeString_append_inj hmessage hmessage' heq
          rw [ih (Nat.succ.inj hcount) hmessages hmessages' hlater]

theorem transcript_eq_messages (exchange : Exchange) :
    exchange.transcript =
      (messages exchange).flatMap writeString ++ writeMpint exchange.sharedSecret := by
  rw [transcript_eq]
  simp only [messages, List.flatMap_cons, List.flatMap_nil, List.append_assoc, List.nil_append]

theorem length_lt_of_framed {kind : MessageType} (message : PlainMessage kind) :
    message.payload.length < 2 ^ 32 - 2 := by
  have hlimit : 2 + message.payload.length + message.padding.length ≤ maxPacketSize :=
    message.framed.limit
  rw [maxPacketSize] at hlimit
  omega

theorem kexinit_short (cookie : Nat → UInt8) :
    (fullKexinit (buildKexinitPayload cookie)).length < 2 ^ 32 - 1 := by
  rw [fullKexinit, List.length_cons, buildKexinitPayload_length]
  omega

theorem fullKexinit_short {kind : MessageType} (message : PlainMessage kind) :
    (fullKexinit message.payload).length < 2 ^ 32 - 1 := by
  have hlength := length_lt_of_framed message
  rw [fullKexinit, List.length_cons]
  omega

theorem version_short : (utf8 sshVersionString).length < 2 ^ 32 - 1 := by
  decide

theorem line_short {version : String} (hline : VersionGrammar.VersionLine version) :
    (utf8 version).length < 2 ^ 32 - 1 := by
  have hshort := hline.short
  rw [List.length_append] at hshort
  omega

theorem clientOpening_short (opening : ClientOpening) :
    ∀ message ∈ messages (opening.exchange P server), message.length < 2 ^ 32 - 1 := by
  have hblob := hostKeyBlob_length
  have hpub := P.x25519Public_length server.secret
  have hkey := opening.key
  simp only [messages, ClientOpening.exchange, List.forall_mem_cons]
  refine ⟨line_short opening.line, version_short, fullKexinit_short opening.kexinit,
    kexinit_short server.cookie, by omega, by omega, by omega, by simp⟩

theorem serverOpening_short (opening : ServerOpening) :
    ∀ message ∈ messages (opening.exchange P client), message.length < 2 ^ 32 - 1 := by
  have hpub := P.x25519Public_length client.secret
  have hkey := opening.key
  obtain ⟨signature, unread, hpayload⟩ := opening.holds
  have hlength := length_lt_of_framed opening.ecdhReply
  rw [hpayload, List.length_append, writeString_length] at hlength
  simp only [messages, ServerOpening.exchange, List.forall_mem_cons]
  refine ⟨version_short, line_short opening.line, kexinit_short client.cookie,
    fullKexinit_short opening.kexinit, by omega, by omega, by omega, by simp⟩

/-- Two sides that have hashed the same bytes have seen the hashed fields as they were sent. -/
theorem honest_of_transcript_eq (opening : ServerOpening) (opening' : ClientOpening)
    (heq : (opening.exchange P client).transcript = (opening'.exchange P server).transcript) :
    opening.exchange P client = honestExchange P client server ∧
      opening'.exchange P server = honestExchange P client server := by
  rw [transcript_eq_messages, transcript_eq_messages] at heq
  have hmessages := @strings_append_inj (messages (opening.exchange P client))
    (messages (opening'.exchange P server)) _ _ rfl (serverOpening_short opening)
    (clientOpening_short opening') heq
  simp only [messages, ServerOpening.exchange, ClientOpening.exchange, List.cons.injEq,
    and_true] at hmessages
  obtain ⟨hclientVersion, hserverVersion, hclientKexinit, hserverKexinit, hblob, hclientPub,
    hserverPub⟩ := hmessages
  constructor
  · rw [ServerOpening.exchange, utf8_injective hserverVersion, hserverKexinit, hblob, hserverPub]
    rfl
  · rw [ClientOpening.exchange, ← utf8_injective hclientVersion, ← hclientKexinit, ← hclientPub,
      P.x25519_comm server.secret client.secret]
    rfl

theorem sessionId_eq_iff (first second : Exchange) :
    (activatedClient P (resultOf P first)).sessionId =
        (activatedServer P (resultOf P second)).sessionId ↔
      P.sha256 first.transcript = P.sha256 second.transcript := by
  rw [activatedClient, activatedServer, Option.some.injEq]
  rfl

/-- Whatever has been done to the bytes between a client and a server that both activate
their keys: their session identifiers are equal exactly if each has seen the hashed fields of
the handshake as they were sent, or else their transcripts are a collision of the hash
function. The signature and the padding are not hashed. In the first case their keys agree, and
they have written what two sides write that nobody disturbs. -/
theorem session_identifier_binds (P : Primitives) (client server : HandshakeRandom)
    {toClient toServer clientRest serverRest clientWritten serverWritten : Bytes}
    {clientResult serverResult : KexResult} {clientKeys serverKeys : SessionKeys}
    (hclient : run (clientHandshake P client) newSessionKeys toClient =
      ⟨.ok clientResult, clientKeys, clientRest, clientWritten⟩)
    (hserver : run (serverHandshake P server) newSessionKeys toServer =
      ⟨.ok serverResult, serverKeys, serverRest, serverWritten⟩) :
    ∃ (opening : ServerOpening) (opening' : ClientOpening),
      toClient = opening.bytes ++ clientRest ∧ toServer = opening'.bytes ++ serverRest ∧
      (clientKeys.sessionId = serverKeys.sessionId ↔
        (opening.exchange P client = honestExchange P client server ∧
          opening'.exchange P server = honestExchange P client server) ∨
        Collide P (opening.exchange P client).transcript (opening'.exchange P server).transcript) ∧
      (opening.exchange P client = honestExchange P client server →
        opening'.exchange P server = honestExchange P client server →
        clientResult = agreedResult P client server ∧
          serverResult = agreedResult P client server ∧ KeysAgree clientKeys serverKeys ∧
          clientWritten = clientFlight P client ∧
          serverWritten = serverFlight P client server) := by
  obtain ⟨opening, rfl, rfl, rfl, rfl⟩ := client_activates_iff.mp hclient
  obtain ⟨opening', rfl, rfl, rfl, rfl⟩ := server_activates_iff.mp hserver
  refine ⟨opening, opening', rfl, rfl, ?_, ?_⟩
  · rw [sessionId_eq_iff]
    constructor
    · intro hhash
      by_cases heq : (opening.exchange P client).transcript =
          (opening'.exchange P server).transcript
      · exact .inl (honest_of_transcript_eq opening opening' heq)
      · exact .inr ⟨heq, hhash⟩
    · rintro (⟨hclient, hserver⟩ | hcollide)
      · rw [hclient, hserver]
      · exact hcollide.2
  · intro hclient hserver
    rw [hclient, hserver]
    exact ⟨rfl, rfl, keysAgree_activated P _, rfl, rfl⟩

/-- Two sides that receive what the other one sends. -/
theorem session_identifier_binds_sample :
    ∃ (opening : ServerOpening) (opening' : ClientOpening),
      serverFlight toyPrimitives (sampleRandom 3) (sampleRandom 5) ++ [] = opening.bytes ++ [] ∧
      clientFlight toyPrimitives (sampleRandom 3) ++ [] = opening'.bytes ++ [] ∧
      ((opening.exchange toyPrimitives (sampleRandom 3) =
            honestExchange toyPrimitives (sampleRandom 3) (sampleRandom 5) ∧
          opening'.exchange toyPrimitives (sampleRandom 5) =
            honestExchange toyPrimitives (sampleRandom 3) (sampleRandom 5)) ∨
        Collide toyPrimitives (opening.exchange toyPrimitives (sampleRandom 3)).transcript
          (opening'.exchange toyPrimitives (sampleRandom 5)).transcript) := by
  obtain ⟨opening, opening', htoClient, htoServer, hequal, -⟩ :=
    session_identifier_binds toyPrimitives (sampleRandom 3) (sampleRandom 5)
      (run_clientHandshake toyPrimitives (sampleRandom 3) (sampleRandom 5) [])
      (run_serverHandshake toyPrimitives (sampleRandom 3) (sampleRandom 5) [])
  exact ⟨opening, opening', htoClient, htoServer, hequal.mp rfl⟩

end SwiftSsh.HandshakeBinding
