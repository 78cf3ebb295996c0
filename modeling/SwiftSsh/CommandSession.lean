import SwiftSsh.ClientOrder
import SwiftSsh.InteractiveClient
import SwiftSsh.LossyText
import SwiftSsh.ReplySizes
import SwiftSsh.ServedConnection

/-!
The client and the server from their first byte to the end of a session that
executes a command, over every interleaving of their steps.
-/

namespace SwiftSsh.CommandSession

open Relation
open SwiftSsh.ByteWords
open SwiftSsh.RustOutcome
open SwiftSsh.ByteProgram
open SwiftSsh.ByteProgram.Program
open SwiftSsh.ProgramNetwork
open SwiftSsh.HostedService
open SwiftSsh.ServiceNetwork
open SwiftSsh.DuplexTransport
open SwiftSsh.WireTypes
open SwiftSsh.WireBuffer
open SwiftSsh.PacketCodec
open SwiftSsh.SessionCrypto
open SwiftSsh.Handshake
open SwiftSsh.FileSystem
open SwiftSsh.SftpPaths
open SwiftSsh.UserAuth
open SwiftSsh.ChannelMessages
open SwiftSsh.ChannelTable
open SwiftSsh.ServerLoop (ServerEnv ServerState ServerEvent connected)
open SwiftSsh.ChannelActions
open SwiftSsh.ReplySizes (maxChannelData fits_execReplies_iff)
open SwiftSsh.ServedConnection (serverService)
open SwiftSsh.ClientSession
open SwiftSsh.ClientOrder

/-- The random values of one side, and the numbers of rounds it is followed for. -/
structure Side where
  random : HandshakeRandom
  padding : Nat → Nat → UInt8

/-- `run_client`. -/
def clientProgram (P : Primitives) (side : Side) (args : Args) (count : Nat) :
    Program (Host SessionKeys ClientState ClientEvent) SshError Bool := do
  let _ ← onTransport (clientHandshake P side.random)
  hosted (clientService args P side.padding).perform requestService
  (clientService args P side.padding).rounds count

/-- `handle_connection`. -/
def serverProgram (P : Primitives) (side : Side) (env : ServerEnv) (count : Nat) :
    Program (Host SessionKeys ServerState ServerEvent) SshError Bool := do
  let _ ← onTransport (serverHandshake P side.random)
  (serverService env P side.padding).rounds count

/-- A client and a server on two lists of bytes. -/
abbrev SessionNetwork :=
  Services SessionKeys ClientState ClientEvent ServerState ServerEvent SshError

/-- A client and a server before their first step. -/
def sessionStart (P : Primitives) (client server : Side) (args : Args) (env : ServerEnv)
    (world : World Name) (clientRounds serverRounds : Nat) : SessionNetwork :=
  ⟨⟨clientProgram P client args clientRounds, ⟨newSessionKeys, beforeSession, []⟩⟩,
    ⟨serverProgram P server env serverRounds, ⟨newSessionKeys, connected env world, []⟩⟩, [], []⟩

variable {P : Primitives} {client server : Side} {args : Args} {env : ServerEnv}
variable {world : World Name}

/-- Both sides have agreed on their keys, and the client has asked for the service. -/
def connectedTalk (env : ServerEnv) (world : World Name) (clientRounds serverRounds : Nat) :
    Talk ClientState ClientEvent ServerState ServerEvent SshPacket :=
  ⟨clientRounds, beforeSession, [.sent servicePacket], [], serverRounds, connected env world, [],
    [servicePacket]⟩

/-- The handshake and the service request, as one schedule. -/
theorem reaches_connectedTalk (clientRounds serverRounds : Nat) :
    ∃ net : SessionNetwork,
      ReflTransGen Step
        (sessionStart P client server args env world clientRounds serverRounds) net ∧
      Represents (clientService args P client.padding) (serverService env P server.padding)
        incoming outgoing Active (connectedTalk env world clientRounds serverRounds) net := by
  have hhandshake := hosted_reaches
    (fun _ => hosted (clientService args P client.padding).perform requestService >>= fun _ =>
      (clientService args P client.padding).rounds clientRounds)
    (fun _ => (serverService env P server.padding).rounds serverRounds)
    beforeSession (connected env world) ([] : List ClientEvent) ([] : List ServerEvent)
    (handshake_schedule P client.random server.random)
  have hrun := run_requestService beforeSession
  have hevents : ∀ event ∈ [ClientEvent.sent servicePacket],
      Performable (clientService args P client.padding) outgoing Active event := by
    rw [List.forall_mem_singleton]
    apply performable_of_fits
    rintro packet ⟨⟩
    exact fitsEncrypted_servicePacket
  let keys := activatedClient P (agreedResult P client.random server.random)
  have hactive : Active (outgoing keys) := rfl
  have hstart := @Duplex.run_hosted _ _ _ _ _ _ _ _ _ _ _
    (@duplex_clientService args P client.padding) _ ⟨keys, beforeSession, []⟩ _ hrun hevents hactive
    []
  have hrequest := left_reaches
    (⟨(serverService env P server.padding).rounds serverRounds,
      ⟨activatedServer P (agreedResult P client.random server.random), connected env world, []⟩⟩ :
      Endpoint (Host SessionKeys ServerState ServerEvent) SshError Bool) []
    (endpointRun_of_run (fun _ => (clientService args P client.padding).rounds clientRounds)
      hstart)
  refine ⟨_, ReflTransGen.trans hhandshake hrequest, ⟨rfl, rfl, rfl⟩, ⟨rfl, rfl, rfl⟩, ?_⟩
  have hkeeps := (@duplex_clientService args P client.padding).performed_keeps hevents hactive
  refine ⟨hkeeps.2, rfl, ⟨rfl, ?_⟩, ?_⟩
  · exact hkeeps.1
  · exact wired_events duplex_clientService delivers_packetService hevents hactive

section ServerRounds

theorem payload_le_of_fits {packet : SshPacket} (hfits : FitsEncrypted packet) :
    packet.payload.length ≤ maxPacketSize := by
  rw [FitsEncrypted, packetLength] at hfits
  omega

theorem receive_servicePacket :
    EventProgram.run (ServerLoop.receive env (.ok servicePacket)) (connected env world) =
      ⟨[.sent (buildServiceAccept "ssh-userauth")],
        { connected env world with phase := .authentication }, .ok ()⟩ := by
  rw [ServerLoop.run_receive_serviceRequest rfl]
  exact ServerLoop.run_serveServiceRequest (by decide +kernel) (by decide +kernel)

/-- What the server reads in the client's authentication request. -/
def authRequest (args : Args) : AuthRequest :=
  ⟨args.user, "ssh-connection", "password", .password (args.password.getD "")⟩

theorem requests_authPacket (hfits : FitsEncrypted (authPacket args)) :
    AuthenticationGate.Requests (authPacket args) (authRequest args) := by
  have hlength := payload_le_of_fits hfits
  have hpayload : (authPacket args).payload =
      writeUtf8 args.user ++ writeUtf8 "ssh-connection" ++ writeUtf8 "password" ++
        (writeBool false ++ (writeUtf8 (args.password.getD "") ++ [])) := by
    rw [List.append_nil, ← List.append_assoc]
    rfl
  rw [hpayload] at hlength
  simp only [List.length_append, writeUtf8, WireBuffer.writeString_length] at hlength
  refine ⟨rfl, ?_⟩
  rw [AuthRequest.parse, hpayload]
  apply parse_eq_ok
  apply readAuthRequest_eq
  · omega
  · decide +kernel
  · decide +kernel
  · exact readCredential_password false [] (by omega)

theorem receive_authPacket (hfits : FitsEncrypted (authPacket args)) :
    EventProgram.run (ServerLoop.receive env (.ok (authPacket args)))
        { connected env world with phase := .authentication } =
      if verifyPassword env.userDb args.user (args.password.getD "") = true then
        ⟨[.sent buildAuthSuccess], { connected env world with phase := .channels }, .ok ()⟩
      else
        ⟨[.sent (buildAuthFailure ["password", "publickey"] false)],
          { connected env world with phase := .authentication }, .ok ()⟩ := by
  rw [ServerLoop.run_receive_authentication rfl]
  split
  · rename_i haccept
    exact AuthenticationGate.run_serveAuthRequest_of_accepted (requests_authPacket hfits) haccept
  · rename_i hreject
    exact AuthenticationGate.run_serveAuthRequest_of_rejected (requests_authPacket hfits)
      (Bool.not_eq_true _ ▸ hreject)

/-- The server with the client's channel. -/
def withChannel (env : ServerEnv) (world : World Name) : ServerState :=
  { connected env world with
    phase := .channels
    channels := (acceptChannel newChannelManager 0 "session" defaultWindowSize
      defaultMaxPacketSize).2 }

/-- The confirmation of the only channel. -/
def confirmationPacket : SshPacket :=
  buildChannelOpenConfirmation 0 0 defaultWindowSize defaultMaxPacketSize

theorem receive_openPacket :
    EventProgram.run (ServerLoop.receive env (.ok openPacket))
        { connected env world with phase := .channels } =
      ⟨[.sent confirmationPacket], withChannel env world, .ok ()⟩ := by
  have hparse : ChannelOpenMsg.parse openPacket.payload =
      .ok ⟨"session", 0, defaultWindowSize, defaultMaxPacketSize⟩ :=
    parse_buildChannelOpen 0 defaultWindowSize defaultMaxPacketSize (by decide +kernel)
  have htype : MessageType.fromU8 openPacket.msgType = some .channelOpen := rfl
  rw [ServerLoop.run_receive_channels rfl, ServerLoop.serveChannelMessage, htype]
  dsimp only
  rw [ChannelReplies.run_serveChannelOpen hparse]
  rfl

/-- The client's channel on the server. -/
def sessionChannel : Channel :=
  { newChannel 0 "session" with
    remoteId := 0
    remoteWindow := defaultWindowSize
    remoteMaxPacket := defaultMaxPacketSize }

theorem get_withChannel (localId : UInt32) :
    (withChannel env world).channels.get localId =
      if localId = 0 then some sessionChannel else none := by
  have hget := get_acceptChannel newChannelManager 0 "session" defaultWindowSize
    defaultMaxPacketSize localId
  have hempty : newChannelManager.get localId = none := AList.lookup_empty localId
  rw [hempty] at hget
  exact hget

theorem find_withChannel {state : ServerState}
    (hsame : state.channels = (withChannel env world).channels) :
    findByRemoteId env.order state.channels 0 = some sessionChannel := by
  have hstep : InStep state.channels := by
    rw [hsame]
    intro localId channel hget
    rw [get_withChannel] at hget
    split at hget
    · rename_i hlocal
      cases hget
      exact hlocal.symm
    · cases hget
  rw [findByRemoteId_of_inStep hstep, hsame, get_withChannel, if_pos rfl]

variable {command : String}

/-- The text that the command gives. -/
def commandOutput (env : ServerEnv) (world : World Name) (command : String) : String :=
  outputOf env (withChannel env world) command

/-- The answers to the command. -/
def commandReplies (env : ServerEnv) (world : World Name) (command : String) : List SshPacket :=
  execReplies true (utf8 (commandOutput env world command)) 0

/-- The server after the command. -/
def afterExec (env : ServerEnv) (world : World Name) (command : String) : ServerState :=
  afterCommand env (withChannel env world) command

theorem afterExec_phase : (afterExec env world command).phase = .channels := by
  rw [afterExec, afterCommand]
  split <;> rfl

theorem afterExec_channels :
    (afterExec env world command).channels = (withChannel env world).channels :=
  afterCommand_channels command

/-- The request to run the command on the only channel. -/
def execPacket (command : String) : SshPacket :=
  buildExecRequest 0 command true

theorem receive_execPacket (hexec : FitsEncrypted (execPacket command))
    (houtput : (utf8 (commandOutput env world command)).length ≤ maxChannelData) :
    EventProgram.run (ServerLoop.receive env (.ok (execPacket command))) (withChannel env world) =
      ⟨.executed command :: (commandReplies env world command).map .sent,
        afterExec env world command, .ok ()⟩ := by
  have hlength := payload_le_of_fits hexec
  have hpayload : (execPacket command).payload =
      writeU32 0 ++ writeUtf8 "exec" ++ writeBool true ++ writeUtf8 command := rfl
  rw [hpayload] at hlength
  simp only [List.length_append, writeUtf8, WireBuffer.writeString_length] at hlength
  have hread : readAction (execPacket command) = .ok (.exec 0 true command) :=
    readAction_buildExecRequest 0 true (by omega)
  rw [run_receive_action rfl hread, plan, Plan.ran, answering, find_withChannel rfl]
  dsimp only [Option.map_some]
  have hfits : ∀ packet ∈ commandReplies env world command, FitsEncrypted packet :=
    fits_execReplies_iff.mpr houtput
  exact congrArg (EventProgram.Ran.after [.executed command]) (run_sends_of_fits hfits)

theorem receive_closePacket {state : ServerState} (hphase : state.phase = .channels)
    (hsame : state.channels = (withChannel env world).channels) :
    EventProgram.run (ServerLoop.receive env (.ok (buildChannelClose 0))) state =
      ⟨[.sent (buildChannelClose 0)], state, .ok ()⟩ := by
  rw [run_receive_action hphase (readAction_buildChannelClose 0), plan, Plan.ran, closeReplies,
    find_withChannel hsame]
  exact run_sends_of_fits (List.forall_mem_singleton.mpr (fitsEncrypted_word .channelClose 0))

theorem receive_disconnectPacket {state : ServerState} (hphase : state.phase = .channels) :
    EventProgram.run (ServerLoop.receive env (.ok disconnectPacket)) state =
      ⟨[], { state with phase := .finished }, .ok ()⟩ :=
  @run_receive_action _ _ disconnectPacket .disconnect hphase rfl

end ServerRounds

section ClientRounds

variable {command : String}

theorem client_serviceAccept (hauth : FitsEncrypted (authPacket args)) :
    EventProgram.run (receive args (.ok (buildServiceAccept "ssh-userauth"))) beforeSession =
      ⟨[.sent (authPacket args)], { beforeSession with phase := .authResponse }, .ok ()⟩ := by
  have htype : (buildServiceAccept "ssh-userauth").msgType = MessageType.serviceAccept.toU8 := rfl
  rw [run_receive_serviceAccept rfl, onServiceAccept, if_neg (not_not_intro htype),
    EventProgram.run_bind_ok (run_send_of_fits hauth)]
  rfl

/-- The client that has asked for its channel. -/
def awaitingChannel : ClientState :=
  ⟨.channelConfirmation, (openChannel newChannelManager "session").2, 0, 0⟩

theorem fitsEncrypted_openPacket : FitsEncrypted openPacket := by
  apply fitsEncrypted_of_length_le
  decide +kernel

theorem client_authSuccess :
    EventProgram.run (receive args (.ok buildAuthSuccess))
        { beforeSession with phase := .authResponse } =
      ⟨[.sent openPacket], awaitingChannel, .ok ()⟩ := by
  have htype : buildAuthSuccess.msgType = MessageType.userAuthSuccess.toU8 := rfl
  rw [run_receive_authResponse rfl, onAuthResponse, if_pos htype, run_openSession]
  exact EventProgram.run_bind_ok (run_send_of_fits fitsEncrypted_openPacket) _

theorem client_authFailure :
    EventProgram.run (receive args (.ok (buildAuthFailure ["password", "publickey"] false)))
        { beforeSession with phase := .authResponse } =
      ⟨[], { beforeSession with phase := .authResponse },
        .err (.authFailed "Authentication rejected by server")⟩ :=
  rfl

theorem parse_confirmationPacket :
    parse readConfirmation confirmationPacket.payload =
      .ok ⟨0, 0, defaultWindowSize, defaultMaxPacketSize⟩ := by
  apply parse_eq_ok
  have hlast := readU32_writeU32 defaultMaxPacketSize []
  rw [List.append_nil] at hlast
  change readConfirmation (writeU32 0 ++ writeU32 0 ++ writeU32 defaultWindowSize ++
    writeU32 defaultMaxPacketSize) = _
  rw [List.append_assoc, List.append_assoc, readConfirmation,
    cursor_bind_ok _ (readU32_writeU32 _ _), cursor_bind_ok _ (readU32_writeU32 _ _),
    cursor_bind_ok _ (readU32_writeU32 _ _), cursor_bind_ok _ hlast, cursor_pure]

/-- The client that reads the output of its command. -/
def readingOutput (channels : ChannelManager) : ClientState :=
  ⟨.commandOutput, channels, 0, 0⟩

theorem client_confirmation (hcommand : args.command = some command)
    (hexec : FitsEncrypted (execPacket command)) :
    ∃ channels, EventProgram.run (receive args (.ok confirmationPacket)) awaitingChannel =
      ⟨[.sent (execPacket command)], readingOutput channels, .ok ()⟩ := by
  refine ⟨(confirmChannel awaitingChannel.channels 0 0 defaultWindowSize
    defaultMaxPacketSize).2, ?_⟩
  have htype : confirmationPacket.msgType = MessageType.channelOpenConfirmation.toU8 := rfl
  rw [run_receive_confirmation rfl, onConfirmation, if_neg (not_not_intro htype),
    parse_confirmationPacket, EventProgram.run_lift_ok_bind, EventProgram.run_getState_bind]
  dsimp only
  rw [awaitingChannel, EventProgram.run_modifyState_bind, confirmChannel_ok,
    EventProgram.run_lift_ok_bind, startMode, hcommand]
  exact EventProgram.run_bind_ok (run_send_of_fits hexec) _

theorem client_data {channels : ChannelManager} {text : String}
    (hlength : (utf8 text).length ≤ maxChannelData) :
    EventProgram.run (receive args (.ok (buildChannelData 0 (utf8 text))))
        (readingOutput channels) =
      ⟨[.printed text], readingOutput channels, .ok ()⟩ := by
  have hparse : ChannelDataMsg.parse (buildChannelData 0 (utf8 text)).payload =
      .ok ⟨0, utf8 text⟩ :=
    parse_buildChannelData (hlength.trans (by decide))
  have htype : MessageType.fromU8 (buildChannelData 0 (utf8 text)).msgType =
    some .channelData := rfl
  rw [run_receive_commandOutput rfl, run_onCommandOutput_data htype,
    run_printData_of_parse hparse, fromUtf8Lossy, fromUtf8_utf8]

theorem client_quiet {channels : ChannelManager} {packet : SshPacket}
    (hquiet : MessageType.fromU8 packet.msgType = some .channelSuccess ∨
      MessageType.fromU8 packet.msgType = some .channelEof) :
    EventProgram.run (receive args (.ok packet)) (readingOutput channels) =
      ⟨[], readingOutput channels, .ok ()⟩ := by
  rw [run_receive_commandOutput rfl, onCommandOutput]
  rcases hquiet with htype | htype
  · rw [htype]
    rfl
  · rw [htype]
    rfl

theorem client_close {channels : ChannelManager} :
    EventProgram.run (receive args (.ok (buildChannelClose 0))) (readingOutput channels) =
      ⟨[.sent (buildChannelClose 0), .sent disconnectPacket],
        { readingOutput channels with phase := .finished }, .ok ()⟩ := by
  have htype : MessageType.fromU8 (buildChannelClose 0).msgType = some .channelClose := rfl
  rw [run_receive_commandOutput rfl, run_onCommandOutput_close htype, run_answerClose]
  rfl

end ClientRounds

section Schedule

variable {command : String} {n m : Nat}

/-- A client and a server on two lists of packets. -/
abbrev SessionTalk :=
  Talk ClientState ClientEvent ServerState ServerEvent SshPacket

/-- A message of the session is handled. -/
def Handled (P : Primitives) (client server : Side) (args : Args) (env : ServerEnv) :
    SessionTalk → SessionTalk → Prop :=
  TalkStep (clientService args P client.padding) (serverService env P server.padding)
    clientPacket ServedConnection.serverPacket

/-- The client that has sent its credentials. -/
def askingTalk (env : ServerEnv) (world : World Name) (args : Args) (n m : Nat) : SessionTalk :=
  ⟨n, { beforeSession with phase := .authResponse }, [.sent servicePacket, .sent (authPacket args)],
    [], m, { connected env world with phase := .authentication },
    [.sent (buildServiceAccept "ssh-userauth")], [authPacket args]⟩

theorem talk_asks (hauth : FitsEncrypted (authPacket args)) :
    ReflTransGen (Handled P client server args env) (connectedTalk env world (n + 1) (m + 1))
      (askingTalk env world args n m) := by
  apply ReflTransGen.head (.right rfl receive_servicePacket)
  exact .single (.left rfl (client_serviceAccept hauth))

/-- The client that has asked for the execution of its command. -/
def orderingTalk (env : ServerEnv) (world : World Name) (args : Args) (command : String)
    (channels : ChannelManager) (n m : Nat) : SessionTalk :=
  ⟨n, readingOutput channels,
    [.sent servicePacket, .sent (authPacket args), .sent openPacket, .sent (execPacket command)],
    [], m, withChannel env world,
    [.sent (buildServiceAccept "ssh-userauth"), .sent buildAuthSuccess, .sent confirmationPacket],
    [execPacket command]⟩

theorem talk_orders (hcommand : args.command = some command)
    (haccept : verifyPassword env.userDb args.user (args.password.getD "") = true)
    (hauth : FitsEncrypted (authPacket args)) (hexec : FitsEncrypted (execPacket command)) :
    ∃ channels, ReflTransGen (Handled P client server args env)
      (askingTalk env world args (n + 2) (m + 2))
      (orderingTalk env world args command channels n m) := by
  obtain ⟨channels, hconfirmation⟩ := client_confirmation hcommand hexec
  have hverified := @receive_authPacket args env world hauth
  rw [if_pos haccept] at hverified
  refine ⟨channels, ?_⟩
  apply ReflTransGen.head (.right rfl hverified)
  apply ReflTransGen.head (.left rfl client_authSuccess)
  apply ReflTransGen.head (.right rfl receive_openPacket)
  exact .single (.left rfl hconfirmation)

/-- What a client with a command sends and prints. -/
def clientLog (args : Args) (command output : String) : List ClientEvent :=
  [.sent servicePacket, .sent (authPacket args), .sent openPacket, .sent (execPacket command),
    .printed output, .sent (buildChannelClose 0), .sent disconnectPacket]

/-- What the server does for a client with a command. -/
def serverLog (command output : String) : List ServerEvent :=
  [.sent (buildServiceAccept "ssh-userauth"), .sent buildAuthSuccess, .sent confirmationPacket,
    .executed command, .sent (newPacket .channelSuccess (writeU32 0)),
    .sent (buildChannelData 0 (utf8 output)), .sent (buildChannelEof 0),
    .sent (buildChannelClose 0), .sent (buildChannelClose 0)]

/-- The session at its end. The answer to the close of the client is not read. -/
def endedTalk (env : ServerEnv) (world : World Name) (args : Args) (command : String)
    (channels : ChannelManager) (n m : Nat) : SessionTalk :=
  ⟨n, { readingOutput channels with phase := .finished },
    clientLog args command (commandOutput env world command), [buildChannelClose 0], m,
    { afterExec env world command with phase := .finished },
    serverLog command (commandOutput env world command), []⟩

theorem talk_answers {channels : ChannelManager} (hexec : FitsEncrypted (execPacket command))
    (houtput : (utf8 (commandOutput env world command)).length ≤ maxChannelData) :
    ReflTransGen (Handled P client server args env)
      (orderingTalk env world args command channels (n + 4) (m + 3))
      (endedTalk env world args command channels n m) := by
  have hphase : (afterExec env world command).phase = .channels := afterExec_phase
  have hrunning : decide ((afterExec env world command).phase = .finished) = false := by
    rw [hphase]
    rfl
  have hclose := receive_closePacket hphase afterExec_channels
  have hdisconnect : EventProgram.run (ServerLoop.receive env (.ok disconnectPacket))
      (afterExec env world command) =
        ⟨[], { afterExec env world command with phase := .finished }, .ok ()⟩ :=
    receive_disconnectPacket hphase
  apply ReflTransGen.head (.right rfl (receive_execPacket hexec houtput))
  apply ReflTransGen.head (.left rfl (client_quiet (.inl rfl)))
  apply ReflTransGen.head (.left rfl (client_data houtput))
  apply ReflTransGen.head (.left rfl (client_quiet (.inr rfl)))
  apply ReflTransGen.head (.left rfl client_close)
  apply ReflTransGen.head (.right hrunning hclose)
  apply ReflTransGen.head (.right hrunning hdisconnect)
  exact .refl

end Schedule

section Interleavings

variable {command : String} {n m : Nat}

/-- A command session that is over: both sides have left their loops, the client has
printed the output of its command once, and the server has executed it once. -/
structure Completed (args : Args) (env : ServerEnv) (world : World Name) (command : String)
    (net : SessionNetwork) : Prop where
  client : net.left.program = .done (.ok true)
  clientLog : net.left.state.log = clientLog args command (commandOutput env world command)
  server : net.right.program = .done (.ok true)
  serverLog : net.right.state.log = serverLog command (commandOutput env world command)
  world : net.right.state.state.world = (afterExec env world command).world

/-- The whole session as one schedule of the two sides. -/
theorem reaches_completed (hcommand : args.command = some command)
    (haccept : verifyPassword env.userDb args.user (args.password.getD "") = true)
    (hauth : FitsEncrypted (authPacket args)) (hexec : FitsEncrypted (execPacket command))
    (houtput : (utf8 (commandOutput env world command)).length ≤ maxChannelData) :
    ∃ final, ReflTransGen Step
        (sessionStart P client server args env world (n + 8) (m + 7)) final ∧
      Completed args env world command final := by
  obtain ⟨first, hhandshake, hfirst⟩ :=
    @reaches_connectedTalk P client server args env world (n + 8) (m + 7)
  obtain ⟨channels, horders⟩ :=
    @talk_orders P client server args env world command (n + 5) (m + 4) hcommand haccept hauth
      hexec
  have htalk := ((talk_asks hauth).trans horders).trans (talk_answers (n := n + 1) (m := m + 1)
    hexec houtput)
  obtain ⟨last, htalked, hlast⟩ := represents_of_talk duplex_clientService
    ServedConnection.duplex_serverService delivers_packetService delivers_packetService htalk hfirst
  obtain ⟨final, hends, hleft, hright⟩ := represents_ends hlast rfl rfl rfl rfl
  refine ⟨final, (hhandshake.trans htalked).trans hends, hleft.program, hleft.log, hright.program,
    hright.log, ?_⟩
  rw [hright.state]
  rfl

theorem Completed.stuck {net : SessionNetwork} (hnet : Completed args env world command net) :
    Stuck net :=
  ⟨step_of_done _ hnet.client, step_of_done _ hnet.server⟩

/-- In every interleaving of a client that executes a command and the server, from the
first byte on, where the requests of the client and the output of the command fit into
packets: the session can always be completed, and a side that has ended has done what it does
in a completed session. -/
theorem command_session (hcommand : args.command = some command)
    (haccept : verifyPassword env.userDb args.user (args.password.getD "") = true)
    (hauth : FitsEncrypted (authPacket args)) (hexec : FitsEncrypted (execPacket command))
    (houtput : (utf8 (commandOutput env world command)).length ≤ maxChannelData)
    {net : SessionNetwork}
    (hreach : ReflTransGen Step
      (sessionStart P client server args env world (n + 8) (m + 7)) net) :
    (∃ final, ReflTransGen Step net final ∧ Completed args env world command final) ∧
      (∀ result, net.left.program = .done result → result = .ok true ∧
        net.left.state.log = clientLog args command (commandOutput env world command)) ∧
      ∀ result, net.right.program = .done result → result = .ok true ∧
        net.right.state.log = serverLog command (commandOutput env world command) := by
  obtain ⟨final, hschedule, hfinal⟩ :=
    @reaches_completed P client server args env world command n m hcommand haccept hauth hexec
      houtput
  refine ⟨⟨final, reaches_stuck hschedule hfinal.stuck hreach, hfinal⟩, ?_, ?_⟩
  · intro result hdone
    have hsame := left_eq_of_done hschedule hfinal.stuck hreach hdone
    refine ⟨?_, hsame ▸ hfinal.clientLog⟩
    have hclient := hfinal.client
    rw [← hsame, hdone] at hclient
    injection hclient
  · intro result hdone
    have hsame := right_eq_of_done hschedule hfinal.stuck hreach hdone
    refine ⟨?_, hsame ▸ hfinal.serverLog⟩
    have hserver := hfinal.server
    rw [← hsame, hdone] at hserver
    injection hserver

/-- The arguments of a client that runs `uptime` as alice. -/
def sampleArgs (password : String) : Args :=
  ⟨"alice", some password, some "uptime", false⟩

theorem command_session_sample :
    ∃ final : SessionNetwork, ReflTransGen Step
        (sessionStart toyPrimitives ⟨sampleRandom 1, fun _ _ => 0⟩ ⟨sampleRandom 2, fun _ _ => 0⟩
          (sampleArgs "secret123") AuthenticationGate.sampleEnv AuthenticationGate.sampleWorld 8 7)
        final ∧
      Completed (sampleArgs "secret123") AuthenticationGate.sampleEnv
        AuthenticationGate.sampleWorld "uptime" final := by
  refine (command_session (n := 0) (m := 0) rfl ?_ ?_ ?_ ?_ .refl).1
  · exact verifyPassword_iff.mpr (by decide +kernel)
  · exact fitsEncrypted_of_length_le (by decide +kernel)
  · exact fitsEncrypted_of_length_le (by decide +kernel)
  · decide +kernel

/-- A session that ends at the authentication: the client has given up, and the server
waits for another attempt. -/
structure Refused (args : Args) (env : ServerEnv) (world : World Name) (net : SessionNetwork) :
    Prop where
  client : net.left.program = .done (.err (.authFailed "Authentication rejected by server"))
  clientLog : net.left.state.log = [.sent servicePacket, .sent (authPacket args)]
  server : ∀ result, net.right.program ≠ .done result
  serverState : net.right.state.state = { connected env world with phase := .authentication }
  serverLog : net.right.state.log = [.sent (buildServiceAccept "ssh-userauth"),
    .sent (buildAuthFailure ["password", "publickey"] false)]

theorem reaches_refused
    (hreject : verifyPassword env.userDb args.user (args.password.getD "") = false)
    (hauth : FitsEncrypted (authPacket args)) :
    ∃ final, ReflTransGen Step
        (sessionStart P client server args env world (n + 2) (m + 3)) final ∧
      Refused args env world final ∧ Stuck final := by
  obtain ⟨first, hhandshake, hfirst⟩ :=
    @reaches_connectedTalk P client server args env world (n + 2) (m + 3)
  have hrefused := @receive_authPacket args env world hauth
  rw [if_neg (Bool.eq_false_iff.mp hreject)] at hrefused
  have htalk : ReflTransGen (Handled P client server args env)
      (connectedTalk env world (n + 2) (m + 3)) _ :=
    (talk_asks hauth).tail (.right rfl hrefused)
  obtain ⟨middle, htalked, hmiddle⟩ := represents_of_talk duplex_clientService
    ServedConnection.duplex_serverService delivers_packetService delivers_packetService htalk hfirst
  -- The client fails, and then the server has nothing to read.
  have hdelivers : Delivers (clientService args P client.padding)
      (serverService env P server.padding).recv incoming outgoing Active clientPacket :=
    delivers_packetService
  obtain ⟨last, hround, hright, hclient, hcarried⟩ := left_round duplex_clientService hdelivers
    hmiddle.left hmiddle.carried rfl client_authFailure
  have hserver : At ((serverService env P server.padding).rounds (m + 1))
      { connected env world with phase := .authentication } _ last.right :=
    hright ▸ hmiddle.right
  have hblock : 0 < blockSizeOf last.right.state.transport :=
    lt_of_lt_of_le (by decide) (PacketTransport.eight_le_blockSizeOf _)
  obtain ⟨next, hpoll⟩ := InteractiveClient.poll_recvPacket P last.right.state.transport
  obtain ⟨waiting, hwait, hblocked, hopen, hsame⟩ :=
    @left_waits _ _ _ _ _ _ _ _ (ServiceNetwork.flip last) _ _ _ _ _ _ hserver rfl
      hcarried.toRight.1 hpoll hblock
  refine ⟨_, (hhandshake.trans htalked).trans (hround.trans (reaches_flip hwait)), ?_, ?_⟩
  · exact ⟨hclient.program, hclient.log, hopen, hsame ▸ hserver.state, hsame ▸ hserver.log⟩
  · exact ⟨step_of_done _ hclient.program, hblocked⟩

/-- In every interleaving of a client with a wrong password, which fits into a packet, and the
server, from the first byte on: the client can only end with the refusal, the server does not
end, and both are led to where nothing has been executed and no channel exists. -/
theorem refused_session
    (hreject : verifyPassword env.userDb args.user (args.password.getD "") = false)
    (hauth : FitsEncrypted (authPacket args)) {net : SessionNetwork}
    (hreach : ReflTransGen Step
      (sessionStart P client server args env world (n + 2) (m + 3)) net) :
    (∃ final, ReflTransGen Step net final ∧ Refused args env world final) ∧
      (∀ result, net.left.program = .done result →
        result = .err (.authFailed "Authentication rejected by server") ∧
          net.left.state.log = [.sent servicePacket, .sent (authPacket args)]) ∧
      ∀ result, net.right.program ≠ .done result := by
  obtain ⟨final, hschedule, hfinal, hstuck⟩ :=
    @reaches_refused P client server args env world n m hreject hauth
  refine ⟨⟨final, reaches_stuck hschedule hstuck hreach, hfinal⟩, ?_, ?_⟩
  · intro result hdone
    have hsame := left_eq_of_done hschedule hstuck hreach hdone
    refine ⟨?_, hsame ▸ hfinal.clientLog⟩
    have hclient := hfinal.client
    rw [← hsame, hdone] at hclient
    injection hclient
  · intro result hdone
    have hsame := right_eq_of_done hschedule hstuck hreach hdone
    exact hfinal.server result (hsame ▸ hdone)

theorem refused_session_sample :
    ∃ final : SessionNetwork, ReflTransGen Step
        (sessionStart toyPrimitives ⟨sampleRandom 1, fun _ _ => 0⟩ ⟨sampleRandom 2, fun _ _ => 0⟩
          (sampleArgs "secret") AuthenticationGate.sampleEnv AuthenticationGate.sampleWorld 2 3)
        final ∧
      Refused (sampleArgs "secret") AuthenticationGate.sampleEnv
        AuthenticationGate.sampleWorld final := by
  refine (refused_session (n := 0) (m := 0) ?_ ?_ .refl).1
  · decide +kernel
  · exact fitsEncrypted_of_length_le (by decide +kernel)

end Interleavings

end SwiftSsh.CommandSession
