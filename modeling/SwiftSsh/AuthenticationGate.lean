import SwiftSsh.ChannelReplies

namespace SwiftSsh.AuthenticationGate

open SwiftSsh.ByteWords
open SwiftSsh.RustOutcome
open SwiftSsh.EventProgram
open SwiftSsh.WireTypes
open SwiftSsh.WireBuffer
open SwiftSsh.PacketCodec
open SwiftSsh.FileSystem
open SwiftSsh.SftpPaths
open SwiftSsh.SftpHandler
open SwiftSsh.UserAuth
open SwiftSsh.ChannelMessages
open SwiftSsh.ChannelTable
open SwiftSsh.ServerLoop
open SwiftSsh.ChannelReplies

/-- Whether a signature by a key covers a session id and a request. -/
abbrev Verifies := (keyBlob sessionId request signature : Bytes) → Prop

/-- The key is one of those listed for the user. -/
def Authorised (db : UserDatabase) (username : String) (keyBlob : Bytes) : Prop :=
  ∃ keys, db.publicKeys.lookup username = some keys ∧ keyBlob ∈ keys

/-- There is a signature, and it verifies. -/
def Signed (verifies : Verifies) (sessionId payload keyBlob : Bytes)
    (signature : Option Bytes) : Prop :=
  ∃ sig, signature = some sig ∧ verifies keyBlob sessionId payload sig

/-- The credentials that identify a user. -/
def Proves (verifies : Verifies) (sessionId : Bytes) (db : UserDatabase) (payload : Bytes)
    (request : AuthRequest) : Prop :=
  match request.credential with
  | .password password => db.passwords.lookup request.username = some password
  | .publicKey _ keyBlob signature =>
      Authorised db request.username keyBlob ∧
        Signed verifies sessionId payload keyBlob signature

/-- A packet is a USERAUTH_REQUEST that parses as a request. -/
def Requests (packet : SshPacket) (request : AuthRequest) : Prop :=
  packet.msgType = MessageType.userAuthRequest.toU8 ∧
    AuthRequest.parse packet.payload = .ok request

/-- The request names an authorised key without a signature by it. -/
def UnsignedKey (verifies : Verifies) (sessionId : Bytes) (db : UserDatabase)
    (packet : SshPacket) : Prop :=
  ∃ request algorithm keyBlob signature, Requests packet request ∧
    request.credential = .publicKey algorithm keyBlob signature ∧
    Authorised db request.username keyBlob ∧
    ¬Signed verifies sessionId packet.payload keyBlob signature

/-- A round of a run: what is received in it and the state before. -/
def Round (env : ServerEnv) (world : World Name) (received : List Received)
    (item : Received) (state : ServerState) : Prop :=
  ∃ earlier later events, received = earlier ++ item :: later ∧
    run (handleConnection env earlier) (connected env world) = ⟨events, state, .ok ()⟩

/-- The client is told that it is authenticated, or the channel loop is entered. -/
def Admits (before : ServerState) (r : Ran ServerState ServerEvent SshError Unit) : Prop :=
  (∃ packet, .sent packet ∈ r.events ∧
    packet.msgType = MessageType.userAuthSuccess.toU8) ∨
  (before.phase ≠ .channels ∧ r.state.phase = .channels)

/-- A command is run, a file request is served or a channel changes. -/
def Acts (before : ServerState) (r : Ran ServerState ServerEvent SshError Unit) : Prop :=
  (∃ command, .executed command ∈ r.events) ∨ (∃ request, .handled request ∈ r.events) ∨
    r.state.channels ≠ before.channels

/-- Whoever is admitted has proved who they are, and commands, file requests and channels come
only after that. -/
structure Gate (verifies : Verifies) (sessionId : Bytes) (env : ServerEnv)
    (world : World Name) (received : List Received) : Prop where
  admits : ∀ item state, Round env world received item state →
    Admits state (run (receive env item) state) →
    ∃ packet request, item = .ok packet ∧ Requests packet request ∧
      Proves verifies sessionId env.userDb packet.payload request
  acts : ∀ item state, Round env world received item state →
    Acts state (run (receive env item) state) → state.phase = .channels

theorem isKeyAuthorized_iff {db : UserDatabase} {username : String} {keyBlob : Bytes} :
    isKeyAuthorized db username keyBlob = true ↔ Authorised db username keyBlob := by
  rw [isKeyAuthorized, Authorised]
  cases db.publicKeys.lookup username <;> simp

variable {env : ServerEnv} {state : ServerState}

theorem run_serveAuthRequest_of_accepted {pkt : SshPacket} {request : AuthRequest}
    (hrequest : Requests pkt request) (haccept : credentialAccepted env.userDb request = true) :
    run (serveAuthRequest env pkt) state =
      ⟨[.sent buildAuthSuccess], { state with phase := .channels }, .ok ()⟩ := by
  have hfits : packetLength buildAuthSuccess aesBlockSize ≤ maxPacketSize := by decide
  rw [serveAuthRequest, if_neg (not_not_intro hrequest.1), hrequest.2, run_lift_ok_bind,
    if_pos haccept, run_bind_ok (run_send_of_fits hfits)]
  rfl

theorem run_serveAuthRequest_of_rejected {pkt : SshPacket} {request : AuthRequest}
    (hrequest : Requests pkt request)
    (hreject : credentialAccepted env.userDb request = false) :
    run (serveAuthRequest env pkt) state =
      ⟨[.sent (buildAuthFailure ["password", "publickey"] false)], state, .ok ()⟩ := by
  have hfits : packetLength (buildAuthFailure ["password", "publickey"] false) aesBlockSize ≤
      maxPacketSize := by
    decide +kernel
  rw [serveAuthRequest, if_neg (not_not_intro hrequest.1), hrequest.2, run_lift_ok_bind,
    if_neg (Bool.not_eq_true _ ▸ hreject), run_send_of_fits hfits]

theorem run_serveAuthRequest_of_malformed {pkt : SshPacket}
    (hnone : ∀ request, ¬Requests pkt request) :
    ∃ outcome, outcome ≠ .ok () ∧
      run (serveAuthRequest env pkt) state = ⟨[], state, outcome⟩ := by
  rw [serveAuthRequest]
  split
  · exact ⟨.err _, nofun, rfl⟩
  · rename_i htype
    cases hparse : AuthRequest.parse pkt.payload with
    | ok request => exact absurd ⟨not_not.mp htype, hparse⟩ (hnone request)
    | err error => exact ⟨.err error, nofun, rfl⟩
    | panic => exact ⟨.panic, nofun, rfl⟩

theorem serveAuthRequest_cases (env : ServerEnv) (state : ServerState) (pkt : SshPacket) :
    (∃ request, Requests pkt request ∧ credentialAccepted env.userDb request = true ∧
      run (serveAuthRequest env pkt) state =
        ⟨[.sent buildAuthSuccess], { state with phase := .channels }, .ok ()⟩) ∨
    (∃ request, Requests pkt request ∧ credentialAccepted env.userDb request = false ∧
      run (serveAuthRequest env pkt) state =
        ⟨[.sent (buildAuthFailure ["password", "publickey"] false)], state, .ok ()⟩) ∨
    (∃ outcome, outcome ≠ .ok () ∧
      run (serveAuthRequest env pkt) state = ⟨[], state, outcome⟩) := by
  by_cases hrequests : ∃ request, Requests pkt request
  · obtain ⟨request, hrequest⟩ := hrequests
    cases haccept : credentialAccepted env.userDb request with
    | true => exact .inl ⟨request, hrequest, haccept,
        run_serveAuthRequest_of_accepted hrequest haccept⟩
    | false => exact .inr (.inl ⟨request, hrequest, haccept,
        run_serveAuthRequest_of_rejected hrequest haccept⟩)
  · refine .inr (.inr (run_serveAuthRequest_of_malformed ?_))
    intro request hrequest
    exact hrequests ⟨request, hrequest⟩

section Quiet

variable {before : ServerState} {r : Ran ServerState ServerEvent SshError Unit}

theorem not_admits (hevents : ∀ packet, .sent packet ∈ r.events →
      packet.msgType ≠ MessageType.userAuthSuccess.toU8)
    (hphase : r.state.phase = .channels → before.phase = .channels) : ¬Admits before r := by
  rintro (⟨packet, hmem, htype⟩ | ⟨hbefore, hafter⟩)
  · exact hevents packet hmem htype
  · exact hbefore (hphase hafter)

theorem not_acts (hevents : ∀ event ∈ r.events, ∃ packet, event = .sent packet)
    (hchannels : r.state.channels = before.channels) : ¬Acts before r := by
  rintro (⟨command, hmem⟩ | ⟨request, hmem⟩ | hchanged)
  · obtain ⟨packet, heq⟩ := hevents _ hmem
    cases heq
  · obtain ⟨packet, heq⟩ := hevents _ hmem
    cases heq
  · exact hchanged hchannels

end Quiet

theorem within_serveServiceRequest (hphase : state.phase = .serviceRequest)
    (pkt : SshPacket) :
    Within
      (fun event => ∃ packet, event = .sent packet ∧
        packet.msgType = MessageType.serviceAccept.toU8)
      (fun later : ServerState => later.channels = state.channels ∧ later.phase ≠ .channels)
      (fun _ => True) (run (serveServiceRequest pkt) state) := by
  have hstart : state.channels = state.channels ∧ state.phase ≠ .channels := by
    refine ⟨rfl, ?_⟩
    rw [hphase]
    decide
  rw [serveServiceRequest]
  split
  · exact within_lift hstart fun _ _ => trivial
  · refine Within.bind (within_lift hstart fun _ _ => trivial) fun name s₁ _ h₁ => ?_
    have hentered : Phase.authentication ≠ .channels := by decide
    refine Within.bind ?_ fun _ s₂ _ h₂ => within_modifyState ⟨h₂.1, hentered⟩
    rw [send]
    refine Within.bind (within_lift h₁ fun _ _ => trivial) fun _ s₂ _ h₂ => ?_
    exact within_emit h₂ ⟨_, rfl, rfl⟩

theorem serveServiceRequest_quiet (hphase : state.phase = .serviceRequest) (pkt : SshPacket) :
    ¬Admits state (run (serveServiceRequest pkt) state) ∧
      ¬Acts state (run (serveServiceRequest pkt) state) := by
  have hwithin := within_serveServiceRequest hphase pkt
  refine ⟨not_admits ?_ ?_, not_acts ?_ hwithin.state.1⟩
  · intro packet hmem
    obtain ⟨sent, heq, htype⟩ := hwithin.events _ hmem
    cases heq
    rw [htype]
    decide
  · intro hchannels
    exact absurd hchannels hwithin.state.2
  · intro event hmem
    obtain ⟨sent, heq, -⟩ := hwithin.events event hmem
    exact ⟨sent, heq⟩

theorem msgType_of_replyTo {recipient : UInt32} {packet : SshPacket}
    (hreply : ReplyTo recipient packet) :
    packet.msgType ≠ MessageType.userAuthSuccess.toU8 := by
  obtain ⟨msgType, hmem, rest, rfl⟩ := hreply
  intro heq
  obtain rfl := toU8_injective heq
  revert hmem
  decide

theorem serveChannelMessage_sent {pkt packet : SshPacket}
    (hmem : .sent packet ∈ (run (serveChannelMessage env pkt) state).events) :
    packet.msgType ≠ MessageType.userAuthSuccess.toU8 := by
  rcases serveChannelMessage_cases env state pkt with
    ⟨msg, -, hrun⟩ | ⟨-, ⟨recipient, hanswers⟩ | ⟨recipient, change, -, hrun⟩ | hrun⟩
  · rw [hrun] at hmem
    cases List.mem_singleton.mp hmem
    change MessageType.channelOpenConfirmation.toU8 ≠ MessageType.userAuthSuccess.toU8
    decide
  · exact msgType_of_replyTo (hanswers.events _ hmem packet rfl)
  · rw [hrun] at hmem
    cases hmem
  · rw [hrun] at hmem
    cases hmem

/-- Outside the channel loop only an accepted credential has an effect. -/
theorem receive_quiet {item : Received} (hphase : state.phase ≠ .channels) :
    (∃ packet request, item = .ok packet ∧ state.phase = .authentication ∧
      Requests packet request ∧ credentialAccepted env.userDb request = true ∧
      run (receive env item) state =
        ⟨[.sent buildAuthSuccess], { state with phase := .channels }, .ok ()⟩) ∨
    (¬Admits state (run (receive env item) state) ∧
      ¬Acts state (run (receive env item) state)) := by
  cases item with
  | error error =>
      obtain ⟨hevents, hchannels, hentered⟩ := @run_receive_error env state error
      refine .inr ⟨not_admits ?_ hentered, not_acts ?_ hchannels⟩
      · rw [hevents]
        rintro packet ⟨⟩
      · rw [hevents]
        rintro event ⟨⟩
  | ok pkt =>
      cases hbefore : state.phase with
      | serviceRequest =>
          rw [run_receive_serviceRequest hbefore]
          exact .inr (serveServiceRequest_quiet hbefore pkt)
      | authentication =>
          rw [run_receive_authentication hbefore]
          rcases serveAuthRequest_cases env state pkt with
            ⟨request, hrequest, haccept, hrun⟩ | ⟨request, -, -, hrun⟩ | ⟨outcome, -, hrun⟩
          · exact .inl ⟨pkt, request, rfl, rfl, hrequest, haccept, hrun⟩
          · rw [hrun]
            refine .inr ⟨not_admits ?_ id, not_acts ?_ rfl⟩
            · intro packet hmem
              cases List.mem_singleton.mp hmem
              decide
            · intro event hmem
              exact ⟨_, List.mem_singleton.mp hmem⟩
          · rw [hrun]
            refine .inr ⟨not_admits ?_ id, not_acts ?_ rfl⟩
            · rintro packet ⟨⟩
            · rintro event ⟨⟩
      | channels => exact absurd hbefore hphase
      | finished =>
          rw [run_receive_finished hbefore]
          refine .inr ⟨not_admits ?_ id, not_acts ?_ rfl⟩
          · rintro packet ⟨⟩
          · rintro event ⟨⟩

/-- Only a round of the authentication loop that accepts a credential admits. -/
theorem receive_admits {item : Received}
    (hadmits : Admits state (run (receive env item) state)) :
    ∃ packet request, item = .ok packet ∧ state.phase = .authentication ∧
      Requests packet request ∧ credentialAccepted env.userDb request = true := by
  by_cases hphase : state.phase = .channels
  · refine absurd hadmits (not_admits ?_ fun _ => hphase)
    cases item with
    | error error =>
        rw [(@run_receive_error env state error).1]
        rintro packet ⟨⟩
    | ok pkt =>
        rw [run_receive_channels hphase]
        exact fun packet hmem => serveChannelMessage_sent hmem
  · rcases @receive_quiet env state item hphase with
      ⟨packet, request, hitem, hauth, hrequest, haccept, -⟩ | ⟨hquiet, -⟩
    · exact ⟨packet, request, hitem, hauth, hrequest, haccept⟩
    · exact absurd hadmits hquiet

theorem receive_acts {item : Received} (hacts : Acts state (run (receive env item) state)) :
    state.phase = .channels := by
  by_contra hphase
  rcases @receive_quiet env state item hphase with ⟨packet, request, -, -, -, -, hrun⟩ | ⟨-, hquiet⟩
  · rw [hrun] at hacts
    exact not_acts (fun event hmem => ⟨_, List.mem_singleton.mp hmem⟩) rfl hacts
  · exact hquiet hacts

/-- An accepted credential identifies the user unless its key came without a
signature. -/
theorem proves_of_accepted {verifies : Verifies} {sessionId : Bytes} {db : UserDatabase}
    {packet : SshPacket} {request : AuthRequest} (hrequest : Requests packet request)
    (haccept : credentialAccepted db request = true)
    (hsigned : ¬UnsignedKey verifies sessionId db packet) :
    Proves verifies sessionId db packet.payload request := by
  rw [Proves]
  rw [credentialAccepted] at haccept
  cases hcredential : request.credential with
  | password password =>
      rw [hcredential] at haccept
      exact verifyPassword_iff.mp haccept
  | publicKey algorithm keyBlob signature =>
      rw [hcredential] at haccept
      have hauthorised := isKeyAuthorized_iff.mp haccept
      refine ⟨hauthorised, ?_⟩
      by_contra hunsigned
      exact hsigned
        ⟨request, algorithm, keyBlob, signature, hrequest, hcredential, hauthorised, hunsigned⟩

/-- The code never reads the signature. -/
theorem not_gate_of_unsignedKey {verifies : Verifies} {sessionId : Bytes}
    {world : World Name} {received : List Received} {packet : SshPacket}
    (hround : Round env world received (.ok packet) state)
    (hphase : state.phase = .authentication)
    (hunsigned : UnsignedKey verifies sessionId env.userDb packet) :
    ¬Gate verifies sessionId env world received := by
  intro hgate
  obtain ⟨request, algorithm, keyBlob, signature, hrequest, hcredential, hauthorised,
    hunsigned⟩ := hunsigned
  have haccept : credentialAccepted env.userDb request = true := by
    rw [credentialAccepted, hcredential]
    exact isKeyAuthorized_iff.mpr hauthorised
  have hadmits : Admits state (run (receive env (.ok packet)) state) := by
    rw [run_receive_authentication hphase,
      run_serveAuthRequest_of_accepted hrequest haccept]
    exact .inl ⟨buildAuthSuccess, List.mem_singleton_self _, rfl⟩
  obtain ⟨other, proven, hitem, hproven, hproves⟩ := hgate.admits _ state hround hadmits
  cases hitem
  cases hrequest.2.symm.trans hproven.2
  rw [Proves, hcredential] at hproves
  exact hunsigned hproves.2

/-- The gate holds as long as no request in the authentication loop relies on its
signature being checked. -/
theorem gate_iff (verifies : Verifies) (sessionId : Bytes) (env : ServerEnv)
    (world : World Name) (received : List Received) :
    Gate verifies sessionId env world received ↔
      ∀ packet state, Round env world received (.ok packet) state →
        state.phase = .authentication →
        ¬UnsignedKey verifies sessionId env.userDb packet := by
  constructor
  · intro hgate packet state hround hphase hunsigned
    exact not_gate_of_unsignedKey hround hphase hunsigned hgate
  · intro hsigned
    constructor
    · intro item state hround hadmits
      obtain ⟨packet, request, rfl, hphase, hrequest, haccept⟩ := receive_admits hadmits
      exact ⟨packet, request, rfl, hrequest,
        proves_of_accepted hrequest haccept (hsigned packet state hround hphase)⟩
    · intro item state _ hacts
      exact receive_acts hacts

/-- One user with a password and one with a listed key. -/
def sampleDb : UserDatabase :=
  addPublicKey (addPasswordUser newUserDatabase "alice" "secret123") "bob" [1, 2, 3, 4]

/-- A server on which no program can be started. -/
def sampleEnv : ServerEnv where
  userDb := sampleDb
  sftpRoot := sampleRoot
  os := plainOs
  order := ⟨id, fun _ => .refl _⟩
  spawn _ _ world := (.failed "No such file or directory", world)

/-- The sample tree, before anything was done to it. -/
def sampleWorld : World Name :=
  ⟨sampleTree, []⟩

/-- A request with a listed key and no signature. -/
def sampleKeyRequest : SshPacket :=
  buildPubkeyAuthRequest "bob" "ssh-connection" "ssh-ed25519" [1, 2, 3, 4] none

theorem requests_sampleKeyRequest :
    Requests sampleKeyRequest
      ⟨"bob", "ssh-connection", "publickey", .publicKey "ssh-ed25519" [1, 2, 3, 4] none⟩ := by
  refine ⟨rfl, parse_eq_ok (readAuthRequest_eq _ [] ?_ ?_ ?_
    (readCredential_publicKey [] ?_ ?_))⟩ <;> decide +kernel

theorem run_receive_sampleService :
    run (receive sampleEnv (.ok (buildServiceRequest "ssh-userauth")))
        (connected sampleEnv sampleWorld) =
      ⟨[.sent (buildServiceAccept "ssh-userauth")],
        { connected sampleEnv sampleWorld with phase := .authentication }, .ok ()⟩ := by
  rw [run_receive_serviceRequest rfl]
  exact run_serveServiceRequest (by decide +kernel) (by decide +kernel)

/-- A request without a signature is let through, even if every signature were
good. -/
theorem unsigned_key_admitted :
    ¬Gate (fun _ _ _ _ => True) [] sampleEnv sampleWorld
      [.ok (buildServiceRequest "ssh-userauth"), .ok sampleKeyRequest] := by
  have hround : Round sampleEnv sampleWorld
      [.ok (buildServiceRequest "ssh-userauth"), .ok sampleKeyRequest] (.ok sampleKeyRequest)
      { connected sampleEnv sampleWorld with phase := .authentication } := by
    refine ⟨[.ok (buildServiceRequest "ssh-userauth")], [],
      [.sent (buildServiceAccept "ssh-userauth")], rfl, ?_⟩
    rw [handleConnection, run_forEach_cons_ok run_receive_sampleService, run_forEach_nil]
    rfl
  apply not_gate_of_unsignedKey hround rfl
  refine ⟨_, _, _, _, requests_sampleKeyRequest, rfl, ?_, ?_⟩
  · exact isKeyAuthorized_iff.mp (by decide +kernel)
  · rintro ⟨sig, hsome, -⟩
    cases hsome

/-- A client that logs in with a password. -/
def sampleLogin : List Received :=
  [.ok (buildServiceRequest "ssh-userauth"),
    .ok (buildPasswordAuthRequest "alice" "ssh-connection" "secret123")]

/-- The state of the sample server after a login. -/
def sampleSession : ServerState :=
  { connected sampleEnv sampleWorld with phase := .channels }

theorem run_login {env : ServerEnv} (hdb : env.userDb = sampleDb) (world : World Name) :
    run (handleConnection env sampleLogin) (connected env world) =
      ⟨[.sent (buildServiceAccept "ssh-userauth"), .sent buildAuthSuccess],
        { connected env world with phase := .channels }, .ok ()⟩ := by
  have hservice : run (receive env (.ok (buildServiceRequest "ssh-userauth")))
      (connected env world) =
        ⟨[.sent (buildServiceAccept "ssh-userauth")],
          { connected env world with phase := .authentication }, .ok ()⟩ := by
    rw [run_receive_serviceRequest rfl]
    exact run_serveServiceRequest (by decide +kernel) (by decide +kernel)
  have hrequest : Requests (buildPasswordAuthRequest "alice" "ssh-connection" "secret123")
      ⟨"alice", "ssh-connection", "password", .password "secret123"⟩ := by
    refine ⟨rfl, parse_eq_ok (readAuthRequest_eq _ [] ?_ ?_ ?_ ?_)⟩
    · decide +kernel
    · decide +kernel
    · decide +kernel
    · have hread := readCredential_password false []
        (show (utf8 "secret123").length ≤ maxPacketSize by decide +kernel)
      rw [List.append_nil] at hread
      exact hread
  have haccept : credentialAccepted env.userDb
      ⟨"alice", "ssh-connection", "password", .password "secret123"⟩ = true := by
    rw [hdb]
    decide +kernel
  have hauth : run (receive env
      (.ok (buildPasswordAuthRequest "alice" "ssh-connection" "secret123")))
        { connected env world with phase := .authentication } =
      ⟨[.sent buildAuthSuccess], { connected env world with phase := .channels }, .ok ()⟩ := by
    rw [run_receive_authentication rfl, run_serveAuthRequest_of_accepted hrequest haccept]
  rw [handleConnection, sampleLogin, run_forEach_cons_ok hservice, run_forEach_cons_ok hauth,
    run_forEach_nil]
  rfl

theorem run_login_append {env : ServerEnv} (hdb : env.userDb = sampleDb) (world : World Name)
    (received : List Received) :
    run (handleConnection env (sampleLogin ++ received)) (connected env world) =
      (run (handleConnection env received) { connected env world with phase := .channels }).after
        [.sent (buildServiceAccept "ssh-userauth"), .sent buildAuthSuccess] := by
  have hlogin := run_login hdb world
  rw [handleConnection] at hlogin
  rw [handleConnection, run_forEach_append, run_bind_ok hlogin]
  rfl

theorem run_sampleLogin :
    run (handleConnection sampleEnv sampleLogin) (connected sampleEnv sampleWorld) =
      ⟨[.sent (buildServiceAccept "ssh-userauth"), .sent buildAuthSuccess], sampleSession,
        .ok ()⟩ :=
  run_login rfl sampleWorld

end SwiftSsh.AuthenticationGate
