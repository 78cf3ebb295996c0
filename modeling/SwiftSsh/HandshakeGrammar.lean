import SwiftSsh.ExchangeTranscript
import SwiftSsh.Handshake
import SwiftSsh.MessageGrammar
import SwiftSsh.TransportGrammar
import SwiftSsh.VersionGrammar

namespace SwiftSsh.HandshakeGrammar

open SwiftSsh.ByteWords
open SwiftSsh.RustOutcome
open SwiftSsh.ByteProgram
open SwiftSsh.ByteProgram.Program
open SwiftSsh.ReaderLaws
open SwiftSsh.WireTypes
open SwiftSsh.WireBuffer
open SwiftSsh.WireGrammar
open SwiftSsh.PacketCodec
open SwiftSsh.SessionCrypto
open SwiftSsh.PacketTransport
open SwiftSsh.VersionExchange
open SwiftSsh.VersionGrammar
open SwiftSsh.TransportGrammar
open SwiftSsh.MessageGrammar
open SwiftSsh.KeyExchange
open SwiftSsh.ExchangeTranscript
open SwiftSsh.Handshake

/-- A packet of a given type, as it is sent before the keys are activated. -/
structure PlainMessage (kind : MessageType) where
  payload : Bytes
  padding : Bytes
  framed : Framed newSessionKeys (newPacket kind payload) padding

/-- The bytes of a message. -/
def PlainMessage.bytes {kind : MessageType} (message : PlainMessage kind) : Bytes :=
  frame (newPacket kind message.payload) message.padding

/-- The payload of a KEX_ECDH_INIT with this key. -/
def HoldsKey (payload ephemeralPub : Bytes) : Prop :=
  ∃ unread, payload = writeString ephemeralPub ++ unread

/-- The payload of a KEX_ECDH_REPLY with this host key and this key. -/
def HoldsReply (payload blob ephemeralPub : Bytes) : Prop :=
  ∃ signature unread, payload =
    writeString blob ++ (writeString ephemeralPub ++ (writeString signature ++ unread))

/-- What opens the stream to a server that activates its keys. -/
structure ClientOpening where
  version : String
  kexinit : PlainMessage .kexInit
  ephemeralPub : Bytes
  ecdhInit : PlainMessage .kexEcdhInit
  newkeys : PlainMessage .newKeys
  line : VersionLine version
  key : ephemeralPub.length = 32
  holds : HoldsKey ecdhInit.payload ephemeralPub

/-- What opens the stream to a client that activates its keys. -/
structure ServerOpening where
  version : String
  kexinit : PlainMessage .kexInit
  blob : Bytes
  ephemeralPub : Bytes
  ecdhReply : PlainMessage .kexEcdhReply
  newkeys : PlainMessage .newKeys
  line : VersionLine version
  key : ephemeralPub.length = 32
  holds : HoldsReply ecdhReply.payload blob ephemeralPub

/-- The bytes that open a connection to a server. -/
def ClientOpening.bytes (opening : ClientOpening) : Bytes :=
  utf8 opening.version ++ crlf ++
    (opening.kexinit.bytes ++ (opening.ecdhInit.bytes ++ opening.newkeys.bytes))

/-- The bytes with which a server opens a connection. -/
def ServerOpening.bytes (opening : ServerOpening) : Bytes :=
  utf8 opening.version ++ crlf ++
    (opening.kexinit.bytes ++ (opening.ecdhReply.bytes ++ opening.newkeys.bytes))

/-- The exchange that the server has seen. -/
def ClientOpening.exchange (P : Primitives) (server : HandshakeRandom)
    (opening : ClientOpening) : Exchange where
  clientVersion := opening.version
  serverVersion := sshVersionString
  clientKexinit := fullKexinit opening.kexinit.payload
  serverKexinit := fullKexinit (buildKexinitPayload server.cookie)
  serverHostKeyBlob := hostKeyBlob
  clientEphemeralPub := opening.ephemeralPub
  serverEphemeralPub := P.x25519Public server.secret
  sharedSecret := P.x25519 server.secret opening.ephemeralPub

/-- The exchange that the client has seen. -/
def ServerOpening.exchange (P : Primitives) (client : HandshakeRandom)
    (opening : ServerOpening) : Exchange where
  clientVersion := sshVersionString
  serverVersion := opening.version
  clientKexinit := fullKexinit (buildKexinitPayload client.cookie)
  serverKexinit := fullKexinit opening.kexinit.payload
  serverHostKeyBlob := opening.blob
  clientEphemeralPub := P.x25519Public client.secret
  serverEphemeralPub := opening.ephemeralPub
  sharedSecret := P.x25519 client.secret opening.ephemeralPub

/-- What follows from an exchange. -/
def resultOf (P : Primitives) (exchange : Exchange) : KexResult :=
  ⟨exchange.sharedSecret, exchange.hash P⟩

/-- Everything the server writes until it has activated its keys. -/
def serverAnswer (P : Primitives) (server : HandshakeRandom) (result : KexResult) : Bytes :=
  utf8 sshVersionString ++ crlf ++
    (plainFrame (kexinitPacket server) server.kexinitPadding ++
      (plainFrame (ecdhReplyPacket P (newKex P server.secret) result) server.ecdhPadding ++
        plainFrame newkeysPacket server.newkeysPadding))

variable {P : Primitives} {client server : HandshakeRandom} {sent received : UInt32}
variable {packet : SshPacket} {keys later : SessionKeys} {result : KexResult}
variable {input rest written : Bytes} {α : Type} {value : α}

theorem recvPlain_iff :
    run (recvPacket P) (plainKeys sent received) input = ⟨.ok packet, later, rest, []⟩ ↔
      ∃ padding, Framed newSessionKeys packet padding ∧ input = frame packet padding ++ rest ∧
        later = plainKeys sent (received + 1) := by
  have hwire : ∀ padding,
      wirePacket P (plainKeys sent received) packet padding = frame packet padding :=
    fun padding => List.append_nil (frame packet padding)
  rw [recvPacket_eq_ok_iff]
  constructor
  · rintro ⟨padding, ⟨hcount, hlimit, hblock⟩, rfl, rfl⟩
    exact ⟨padding, ⟨hcount, hlimit, hblock⟩, by rw [hwire], rfl⟩
  · rintro ⟨padding, ⟨hcount, hlimit, hblock⟩, rfl, rfl⟩
    exact ⟨padding, ⟨hcount, hlimit, hblock⟩, by rw [hwire], rfl⟩

theorem expect_iff {kind : MessageType} {error : SshError}
    {next : SshPacket → Program SessionKeys SshError α} :
    run (recvPacket P >>= fun pkt =>
        require (pkt.msgType == kind.toU8) error >>= fun _ => next pkt)
        (plainKeys sent received) input = ⟨.ok value, later, rest, written⟩ ↔
      ∃ (message : PlainMessage kind) (between : Bytes), input = message.bytes ++ between ∧
        run (next (newPacket kind message.payload)) (plainKeys sent (received + 1)) between =
          ⟨.ok value, later, rest, written⟩ := by
  rw [run_bind_completes_iff]
  constructor
  · rintro ⟨pkt, middle, between, silent, more, hrecv, hnext, rfl⟩
    have hwritten := DuplexTransport.writesNothing_recvPacket P (plainKeys sent received) input
    rw [hrecv] at hwritten
    obtain rfl : silent = [] := hwritten
    obtain ⟨padding, hframed, rfl, rfl⟩ := recvPlain_iff.mp hrecv
    by_cases hkind : (pkt.msgType == kind.toU8) = true
    · rw [run_bind_ok (run_require _ _ _ hkind), Run.after_nil] at hnext
      obtain ⟨msgType, payload⟩ := pkt
      obtain rfl : msgType = kind.toU8 := beq_iff_eq.mp hkind
      exact ⟨⟨payload, padding, hframed⟩, between, rfl, hnext⟩
    · rw [require, if_neg hkind] at hnext
      cases hnext
  · rintro ⟨message, between, rfl, hnext⟩
    refine ⟨_, _, between, [], written,
      recvPlain_iff.mpr ⟨message.padding, message.framed, rfl, rfl⟩, ?_, rfl⟩
    have hkind : ((newPacket kind message.payload).msgType == kind.toU8) = true :=
      beq_self_eq_true kind.toU8
    rw [run_bind_ok (run_require _ _ _ hkind), Run.after_nil, hnext]

theorem sendPlain_iff {rng : Nat → UInt8} {next : Program SessionKeys SshError α}
    (hpayload : packet.payload.length ≤ 30000) :
    run (sendPacket P rng packet >>= fun _ => next) (plainKeys sent received) input =
        ⟨.ok value, later, rest, written⟩ ↔
      ∃ more, run next (plainKeys (sent + 1) received) input = ⟨.ok value, later, rest, more⟩ ∧
        written = plainFrame packet rng ++ more := by
  rw [run_bind_ok (run_sendPacket_plain P rng sent received input hpayload), Run.after_eq_iff]

theorem pure_iff {expected : α} :
    run (pure expected : Program SessionKeys SshError α) keys input =
        ⟨.ok value, later, rest, written⟩ ↔
      value = expected ∧ later = keys ∧ rest = input ∧ written = [] := by
  rw [run_pure, Run.mk.injEq, Outcome.ok.injEq]
  simp only [eq_comm]

theorem require_iff {condition : Bool} {error : SshError}
    {next : Unit → Program SessionKeys SshError α} :
    run (require condition error >>= next) keys input = ⟨.ok value, later, rest, written⟩ ↔
      condition = true ∧ run (next ()) keys input = ⟨.ok value, later, rest, written⟩ := by
  cases condition with
  | true => exact (and_iff_right rfl).symm
  | false =>
      constructor
      · rintro ⟨⟩
      · rintro ⟨⟨⟩, -⟩

theorem lift_iff {β : Type} {outcome : Outcome SshError β}
    {next : β → Program SessionKeys SshError α} :
    run (lift outcome >>= next) keys input = ⟨.ok value, later, rest, written⟩ ↔
      ∃ found, outcome = .ok found ∧
        run (next found) keys input = ⟨.ok value, later, rest, written⟩ := by
  rw [run_lift_bind]
  constructor
  · intro hrun
    cases outcome with
    | ok found => exact ⟨found, rfl, hrun⟩
    | err error => cases hrun
    | panic => cases hrun
  · rintro ⟨found, rfl, hrun⟩
    exact hrun

theorem recvVersion_iff {next : String → Program SessionKeys SshError α} :
    run (recvVersionString >>= next) keys input = ⟨.ok value, later, rest, written⟩ ↔
      ∃ version between, VersionLine version ∧ input = utf8 version ++ crlf ++ between ∧
        run (next version) keys between = ⟨.ok value, later, rest, written⟩ := by
  constructor
  · intro hrun
    obtain ⟨version, hversion, -⟩ := run_bind_eq_ok (congrArg Run.outcome hrun)
    rcases recvVersionString_cases input keys with ⟨other, hok, hline, between, hbetween⟩ | herr
    · rw [run_bind_ok (run_of_opensWith keys hline hbetween.symm), Run.after_nil] at hrun
      exact ⟨other, between, hline, hbetween.symm, hrun⟩
    · obtain ⟨error, -, herr, -⟩ := herr
      rw [herr] at hversion
      cases hversion
  · rintro ⟨version, between, hline, hinput, hnext⟩
    rw [run_bind_ok (run_of_opensWith keys hline hinput), Run.after_nil, hnext]

theorem clientKexinit_iff (P : Primitives) (client : HandshakeRandom) {hello : String × Bytes} :
    run (clientKexinit P client) (plainKeys 0 0) input = ⟨.ok hello, later, rest, written⟩ ↔
      ∃ (version : String) (kexinit : PlainMessage .kexInit), VersionLine version ∧
        input = utf8 version ++ crlf ++ (kexinit.bytes ++ rest) ∧
        hello = (version, kexinit.payload) ∧ later = plainKeys 2 1 ∧
        written = plainFrame (kexinitPacket client) client.kexinitPadding ++
          plainFrame (ecdhInitPacket (newKex P client.secret)) client.ecdhPadding := by
  rw [clientKexinit, recvVersion_iff]
  simp only [expect_iff, sendPlain_iff (kexinitPacket_payload client),
    sendPlain_iff (ecdhInitPacket_payload P client.secret), pure_iff]
  constructor
  · rintro ⟨version, between, hline, rfl, kexinit, between, rfl, more, ⟨more, ⟨rfl, rfl, rfl, rfl⟩,
      rfl⟩, rfl⟩
    rw [List.append_nil]
    exact ⟨version, kexinit, hline, rfl, rfl, rfl, rfl⟩
  · rintro ⟨version, kexinit, hline, rfl, rfl, rfl, rfl⟩
    refine ⟨version, _, hline, rfl, kexinit, rest, rfl, _, ⟨_, ⟨rfl, rfl, rfl, rfl⟩, rfl⟩, ?_⟩
    rw [List.append_nil]

theorem parse_readString_iff {kind : MessageType} (message : PlainMessage kind)
    (ephemeralPub : Bytes) :
    parse readString message.payload = .ok ephemeralPub ↔
      HoldsKey message.payload ephemeralPub := by
  rw [parse_iff accepts_readString fun data bytes hbytes => ?_]
  · constructor
    · rintro ⟨_, unread, hpayload, rfl, -⟩
      exact ⟨unread, hpayload⟩
    · rintro ⟨unread, hpayload⟩
      refine ⟨_, unread, hpayload, rfl, ?_⟩
      have hlimit := message.framed.limit
      rw [newPacket, hpayload, List.length_append, writeString_length] at hlimit
      omega
  · rw [hbytes.1]
    exact reads_readString hbytes.2

theorem accepts_readEcdhReply :
    Accepts readEcdhReply fun reply bytes => bytes =
      writeString reply.1 ++ (writeString reply.2.1 ++ writeString reply.2.2) := by
  refine accepts_readString.bind fun blob => ?_
  refine accepts_readString.bind fun ephemeralPub => ?_
  refine accepts_readString.bind fun signature => ?_
  apply Accepts.pure
  rintro _ ⟨rfl, -⟩ _ ⟨rfl, -⟩ _ ⟨rfl, -⟩
  rw [List.append_nil]

theorem parse_readEcdhReply_iff {kind : MessageType} (message : PlainMessage kind)
    (blob ephemeralPub : Bytes) :
    (∃ signature, parse readEcdhReply message.payload = .ok (blob, ephemeralPub, signature)) ↔
      HoldsReply message.payload blob ephemeralPub := by
  constructor
  · rintro ⟨signature, hparse⟩
    obtain ⟨⟨found, unread⟩, hread, hfound⟩ := Outcome.bind_eq_ok hparse
    cases hfound
    obtain ⟨_, hpayload, rfl⟩ := accepts_readEcdhReply _ _ _ hread
    refine ⟨signature, unread, ?_⟩
    rw [hpayload, List.append_assoc, List.append_assoc]
  · rintro ⟨signature, unread, hpayload⟩
    refine ⟨signature, ?_⟩
    have hlimit := message.framed.limit
    rw [newPacket, hpayload] at hlimit
    simp only [List.length_append, writeString_length] at hlimit
    rw [hpayload]
    apply parse_eq_ok
    rw [readEcdhReply, cursor_bind_ok _ (readString_writeString _ (by omega)),
      cursor_bind_ok _ (readString_writeString _ (by omega)),
      cursor_bind_ok _ (readString_writeString unread (by omega)), cursor_pure]

theorem clientReply_iff (P : Primitives) (client : HandshakeRandom) {serverVersion : String}
    {serverKexinit : Bytes} :
    run (clientReply P client serverVersion serverKexinit) (plainKeys 2 1) input =
        ⟨.ok result, later, rest, written⟩ ↔
      ∃ (ecdhReply : PlainMessage .kexEcdhReply) (blob ephemeralPub : Bytes),
        HoldsReply ecdhReply.payload blob ephemeralPub ∧ ephemeralPub.length = 32 ∧
        input = ecdhReply.bytes ++ rest ∧
        result = resultOf P ⟨sshVersionString, serverVersion,
          fullKexinit (buildKexinitPayload client.cookie), fullKexinit serverKexinit, blob,
          P.x25519Public client.secret, ephemeralPub, P.x25519 client.secret ephemeralPub⟩ ∧
        later = plainKeys 2 2 ∧ written = [] := by
  rw [clientReply]
  simp only [expect_iff, lift_iff, require_iff, pure_iff]
  constructor
  · rintro ⟨ecdhReply, between, rfl, ⟨blob, ephemeralPub, signature⟩, hparse, hlength, ⟨found, kex⟩,
      hcomplete, rfl, rfl, rfl, rfl⟩
    cases hcomplete
    exact ⟨ecdhReply, blob, ephemeralPub,
      (parse_readEcdhReply_iff ecdhReply blob ephemeralPub).mp ⟨signature, hparse⟩,
      beq_iff_eq.mp hlength, rfl, rfl, rfl, rfl⟩
  · rintro ⟨ecdhReply, blob, ephemeralPub, hholds, hlength, rfl, rfl, rfl, rfl⟩
    obtain ⟨signature, hparse⟩ :=
      (parse_readEcdhReply_iff ecdhReply blob ephemeralPub).mpr hholds
    exact ⟨ecdhReply, rest, rfl, (blob, ephemeralPub, signature), hparse, beq_iff_eq.mpr hlength,
      _, rfl, rfl, rfl, rfl, rfl⟩

theorem clientNewkeys_iff (P : Primitives) (client : HandshakeRandom) {kexResult : KexResult} :
    run (clientNewkeys P client kexResult) (plainKeys 2 2) input =
        ⟨.ok result, later, rest, written⟩ ↔
      ∃ newkeys : PlainMessage .newKeys, input = newkeys.bytes ++ rest ∧ result = kexResult ∧
        later = activatedClient P kexResult ∧
        written = plainFrame newkeysPacket client.newkeysPadding := by
  rw [clientNewkeys]
  dsimp only
  rw [newCipherPair_client]
  simp only [expect_iff, sendPlain_iff newkeysPacket_payload]
  constructor
  · rintro ⟨newkeys, between, rfl, more, hactivate, rfl⟩
    cases hactivate
    rw [List.append_nil]
    exact ⟨newkeys, rfl, rfl, rfl, rfl⟩
  · rintro ⟨newkeys, rfl, rfl, rfl, rfl⟩
    exact ⟨newkeys, rest, rfl, [], rfl, (List.append_nil _).symm⟩

theorem serverKexinit_iff (P : Primitives) (server : HandshakeRandom) {clientVersion : String} :
    run (serverKexinit P server) (plainKeys 0 0) input =
        ⟨.ok clientVersion, later, rest, written⟩ ↔
      VersionLine clientVersion ∧ input = utf8 clientVersion ++ crlf ++ rest ∧
        later = plainKeys 1 0 ∧
        written = plainFrame (kexinitPacket server) server.kexinitPadding := by
  rw [serverKexinit, recvVersion_iff]
  simp only [sendPlain_iff (kexinitPacket_payload server), pure_iff]
  constructor
  · rintro ⟨version, between, hline, rfl, more, ⟨rfl, rfl, rfl, rfl⟩, rfl⟩
    rw [List.append_nil]
    exact ⟨hline, rfl, rfl, rfl⟩
  · rintro ⟨hline, rfl, rfl, rfl⟩
    exact ⟨clientVersion, rest, hline, rfl, [], ⟨rfl, rfl, rfl, rfl⟩, (List.append_nil _).symm⟩

theorem serverReply_iff (P : Primitives) (server : HandshakeRandom) {clientVersion : String} :
    run (serverReply P server clientVersion) (plainKeys 1 0) input =
        ⟨.ok result, later, rest, written⟩ ↔
      ∃ (kexinit : PlainMessage .kexInit) (ecdhInit : PlainMessage .kexEcdhInit)
        (ephemeralPub : Bytes),
        HoldsKey ecdhInit.payload ephemeralPub ∧ ephemeralPub.length = 32 ∧
        input = kexinit.bytes ++ (ecdhInit.bytes ++ rest) ∧
        result = resultOf P ⟨clientVersion, sshVersionString, fullKexinit kexinit.payload,
          fullKexinit (buildKexinitPayload server.cookie), hostKeyBlob, ephemeralPub,
          P.x25519Public server.secret, P.x25519 server.secret ephemeralPub⟩ ∧
        later = plainKeys 3 2 ∧
        written = plainFrame (ecdhReplyPacket P (newKex P server.secret) result)
          server.ecdhPadding ++ plainFrame newkeysPacket server.newkeysPadding := by
  rw [serverReply]
  simp only [expect_iff, lift_iff, require_iff, pure_iff,
    sendPlain_iff (ecdhReplyPacket_payload P server.secret _), sendPlain_iff newkeysPacket_payload]
  constructor
  · rintro ⟨kexinit, between, rfl, ecdhInit, between, rfl, ephemeralPub, hparse, hlength,
      ⟨found, kex⟩, hcomplete, more, ⟨more, ⟨rfl, rfl, rfl, rfl⟩, rfl⟩, rfl⟩
    cases hcomplete
    rw [List.append_nil]
    exact ⟨kexinit, ecdhInit, ephemeralPub, (parse_readString_iff ecdhInit ephemeralPub).mp hparse,
      beq_iff_eq.mp hlength, rfl, rfl, rfl, rfl⟩
  · rintro ⟨kexinit, ecdhInit, ephemeralPub, hholds, hlength, rfl, rfl, rfl, rfl⟩
    refine ⟨kexinit, _, rfl, ecdhInit, rest, rfl, ephemeralPub,
      (parse_readString_iff ecdhInit ephemeralPub).mpr hholds, beq_iff_eq.mpr hlength, _, rfl, _,
      ⟨_, ⟨rfl, rfl, rfl, rfl⟩, rfl⟩, ?_⟩
    rw [List.append_nil]
    rfl

theorem serverNewkeys_iff (P : Primitives) {kexResult : KexResult} :
    run (serverNewkeys P kexResult) (plainKeys 3 2) input = ⟨.ok result, later, rest, written⟩ ↔
      ∃ newkeys : PlainMessage .newKeys, input = newkeys.bytes ++ rest ∧ result = kexResult ∧
        later = activatedServer P kexResult ∧ written = [] := by
  rw [serverNewkeys]
  dsimp only
  rw [newCipherPair_server]
  simp only [expect_iff]
  constructor
  · rintro ⟨newkeys, between, rfl, hactivate⟩
    cases hactivate
    exact ⟨newkeys, rfl, rfl, rfl, rfl⟩
  · rintro ⟨newkeys, rfl, rfl, rfl, rfl⟩
    exact ⟨newkeys, rest, rfl, rfl⟩

theorem ClientOpening.bytes_append (opening : ClientOpening) (rest : Bytes) :
    opening.bytes ++ rest = utf8 opening.version ++ crlf ++
      (opening.kexinit.bytes ++ (opening.ecdhInit.bytes ++ (opening.newkeys.bytes ++ rest))) := by
  simp only [ClientOpening.bytes, List.append_assoc]

theorem ServerOpening.bytes_append (opening : ServerOpening) (rest : Bytes) :
    opening.bytes ++ rest = utf8 opening.version ++ crlf ++
      (opening.kexinit.bytes ++ (opening.ecdhReply.bytes ++ (opening.newkeys.bytes ++ rest))) := by
  simp only [ServerOpening.bytes, List.append_assoc]

/-- The streams on which a server activates its keys. -/
theorem server_activates_iff :
    run (serverHandshake P server) newSessionKeys input = ⟨.ok result, keys, rest, written⟩ ↔
      ∃ opening : ClientOpening, input = opening.bytes ++ rest ∧
        result = resultOf P (opening.exchange P server) ∧ keys = activatedServer P result ∧
        written = serverAnswer P server result := by
  rw [serverHandshake, run_bind_ok (run_sendVersionString_plain input), Run.after_eq_iff]
  constructor
  · rintro ⟨_, hrun, rfl⟩
    obtain ⟨version, _, _, _, _, hkexinit, hlater, rfl⟩ := run_bind_completes_iff.mp hrun
    obtain ⟨kexResult, _, _, _, _, hreply, hnewkeys, rfl⟩ := run_bind_completes_iff.mp hlater
    obtain ⟨hline, rfl, rfl, rfl⟩ := (serverKexinit_iff P server).mp hkexinit
    obtain ⟨kexinit, ecdhInit, ephemeralPub, hholds, hlength, rfl, rfl, rfl, rfl⟩ :=
      (serverReply_iff P server).mp hreply
    obtain ⟨newkeys, rfl, rfl, rfl, rfl⟩ := (serverNewkeys_iff P).mp hnewkeys
    refine ⟨⟨version, kexinit, ephemeralPub, ecdhInit, newkeys, hline, hlength, hholds⟩, ?_, rfl,
      rfl, ?_⟩
    · rw [ClientOpening.bytes_append]
    · rw [serverAnswer, List.append_nil]
  · rintro ⟨opening, rfl, rfl, rfl, rfl⟩
    have hkexinit := (serverKexinit_iff P server).mpr
      ⟨opening.line, opening.bytes_append rest, rfl, rfl⟩
    refine ⟨_, run_bind_completes_iff.mpr ⟨_, _, _, _, _, hkexinit,
      run_bind_completes_iff.mpr ⟨_, _, _, _, _, (serverReply_iff P server).mpr
        ⟨opening.kexinit, opening.ecdhInit, opening.ephemeralPub, opening.holds, opening.key, rfl,
          rfl, rfl, rfl⟩,
        (serverNewkeys_iff P).mpr ⟨opening.newkeys, rfl, rfl, rfl, rfl⟩, rfl⟩, rfl⟩, ?_⟩
    rw [serverAnswer, List.append_nil]
    rfl

/-- The streams on which a client activates its keys. -/
theorem client_activates_iff :
    run (clientHandshake P client) newSessionKeys input = ⟨.ok result, keys, rest, written⟩ ↔
      ∃ opening : ServerOpening, input = opening.bytes ++ rest ∧
        result = resultOf P (opening.exchange P client) ∧ keys = activatedClient P result ∧
        written = clientFlight P client := by
  rw [clientHandshake, run_bind_ok (run_sendVersionString_plain input), Run.after_eq_iff]
  constructor
  · rintro ⟨_, hrun, rfl⟩
    obtain ⟨hello, _, _, _, _, hkexinit, hlater, rfl⟩ := run_bind_completes_iff.mp hrun
    obtain ⟨kexResult, _, _, _, _, hreply, hnewkeys, rfl⟩ := run_bind_completes_iff.mp hlater
    obtain ⟨version, kexinit, hline, rfl, rfl, rfl, rfl⟩ := (clientKexinit_iff P client).mp hkexinit
    obtain ⟨ecdhReply, blob, ephemeralPub, hholds, hlength, rfl, rfl, rfl, rfl⟩ :=
      (clientReply_iff P client).mp hreply
    obtain ⟨newkeys, rfl, rfl, rfl, rfl⟩ := (clientNewkeys_iff P client).mp hnewkeys
    refine ⟨⟨version, kexinit, blob, ephemeralPub, ecdhReply, newkeys, hline, hlength, hholds⟩, ?_,
      rfl, rfl, ?_⟩
    · rw [ServerOpening.bytes_append]
    · simp only [clientFlight, List.nil_append, List.append_assoc]
  · rintro ⟨opening, rfl, rfl, rfl, rfl⟩
    have hkexinit := (clientKexinit_iff P client).mpr
      ⟨opening.version, opening.kexinit, opening.line, opening.bytes_append rest, rfl, rfl, rfl⟩
    refine ⟨_, run_bind_completes_iff.mpr ⟨_, _, _, _, _, hkexinit,
      run_bind_completes_iff.mpr ⟨_, _, _, _, _, (clientReply_iff P client).mpr
        ⟨opening.ecdhReply, opening.blob, opening.ephemeralPub, opening.holds, opening.key, rfl,
          rfl, rfl, rfl⟩,
        (clientNewkeys_iff P client).mpr ⟨opening.newkeys, rfl, rfl, rfl, rfl⟩, rfl⟩, rfl⟩, ?_⟩
    simp only [clientFlight, List.nil_append, List.append_assoc]

/-- On every stream, whoever has written it: a side activates its keys exactly if the
stream opens with a version line and the three packets of the other side, reads nothing
beyond them, and holds the keys of the exchange it has seen, with three packets counted in
each direction. -/
theorem handshake_language (P : Primitives) (client server : HandshakeRandom)
    (input rest written : Bytes) (result : KexResult) (keys : SessionKeys) :
    (run (clientHandshake P client) newSessionKeys input = ⟨.ok result, keys, rest, written⟩ ↔
      ∃ opening : ServerOpening, input = opening.bytes ++ rest ∧
        result = resultOf P (opening.exchange P client) ∧ keys = activatedClient P result ∧
        written = clientFlight P client) ∧
    (run (serverHandshake P server) newSessionKeys input = ⟨.ok result, keys, rest, written⟩ ↔
      ∃ opening : ClientOpening, input = opening.bytes ++ rest ∧
        result = resultOf P (opening.exchange P server) ∧ keys = activatedServer P result ∧
        written = serverAnswer P server result) :=
  ⟨client_activates_iff, server_activates_iff⟩

end SwiftSsh.HandshakeGrammar
