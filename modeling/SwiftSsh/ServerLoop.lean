import SwiftSsh.ChannelMessages
import SwiftSsh.ChannelTable
import SwiftSsh.EventProgram
import SwiftSsh.PacketTransport
import SwiftSsh.SftpHandler
import SwiftSsh.UserAuth

namespace SwiftSsh.ServerLoop

open SwiftSsh.ByteWords
open SwiftSsh.RustOutcome
open SwiftSsh.EventProgram
open SwiftSsh.WireTypes
open SwiftSsh.WireBuffer
open SwiftSsh.PacketCodec
open SwiftSsh.FileTree
open SwiftSsh.FileSystem
open SwiftSsh.SftpPaths
open SwiftSsh.SftpProtocol
open SwiftSsh.SftpHandler
open SwiftSsh.UserAuth
open SwiftSsh.ChannelMessages
open SwiftSsh.ChannelTable

/-- How starting a process ends. -/
inductive ProcessResult where
  | output (stdout stderr : Bytes)
  | failed (message : String)

/-- What the connection is given: the configuration, the operating system, the
order of the channel table and the processes that commands start. Every process ends, and
its output and effect depend on nothing but the program, its arguments and the file system. -/
structure ServerEnv where
  userDb : UserDatabase
  sftpRoot : PathText Name
  os : Os Name
  order : HashOrder
  spawn : String → List String → World Name → ProcessResult × World Name

/-- The place of the connection in the code. -/
inductive Phase where
  | serviceRequest
  | authentication
  | channels
  | finished
  deriving DecidableEq

/-- The place in the code, the channels, the file transfer handler and the file system. -/
structure ServerState where
  phase : Phase
  channels : ChannelManager
  sftpHandler : Handler
  world : World Name

/-- What can be seen of a server: packets, commands and file transfer requests. -/
inductive ServerEvent where
  | sent (packet : SshPacket)
  | executed (command : String)
  | handled (request : SftpPacket)
  deriving DecidableEq

/-- Code of the server, which may send, act and fail. -/
abbrev ServerCode := Traced ServerState ServerEvent SshError

/-- What `recv_packet` returns. -/
abbrev Received := Except SshError SshPacket

/-- Go on to another place in the code. -/
def enterPhase (phase : Phase) : ServerCode Unit :=
  modifyState fun state => { state with phase := phase }

/-- Send a packet on the encrypted connection. Whether it can be sent does not
depend on the padding. -/
def send (packet : SshPacket) : ServerCode Unit := do
  let _ ← lift (serialize packet aesBlockSize fun _ => 0)
  emit (.sent packet)

/-- A service of any name is accepted. -/
def serveServiceRequest (serviceReq : SshPacket) : ServerCode Unit :=
  if serviceReq.msgType ≠ MessageType.serviceRequest.toU8 then
    fail (.protocol "Expected SERVICE_REQUEST")
  else do
    let serviceName ← lift (parse readUtf8 serviceReq.payload)
    send (buildServiceAccept serviceName)
    enterPhase .authentication

/-- The test in the two branches of the authentication loop. -/
def credentialAccepted (db : UserDatabase) (request : AuthRequest) : Bool :=
  match request.credential with
  | .password password => verifyPassword db request.username password
  | .publicKey _ keyBlob _ => isKeyAuthorized db request.username keyBlob

variable (env : ServerEnv)

/-- One round of the authentication loop. -/
def serveAuthRequest (authPkt : SshPacket) : ServerCode Unit :=
  if authPkt.msgType ≠ MessageType.userAuthRequest.toU8 then
    fail (.protocol "Expected USERAUTH_REQUEST")
  else do
    let authReq ← lift (AuthRequest.parse authPkt.payload)
    if credentialAccepted env.userDb authReq then do
      send buildAuthSuccess
      enterPhase .channels
    else send (buildAuthFailure ["password", "publickey"] false)

/-- The characters that `split_whitespace` separates at. -/
def isWhitespace (c : Char) : Bool :=
  let n := c.toNat
  (9 ≤ n && n ≤ 13) || n == 32 || n == 0x85 || n == 0xA0 || n == 0x1680 ||
    (0x2000 ≤ n && n ≤ 0x200A) || n == 0x2028 || n == 0x2029 || n == 0x202F ||
    n == 0x205F || n == 0x3000

/-- `split_whitespace`: there are no empty parts. -/
def splitWhitespace (text : String) : List String :=
  ((text.toList.splitOnP isWhitespace).filter fun part => !part.isEmpty).map String.ofList

/-- The text that is sent for a process. -/
def processText : ProcessResult → String
  | .output stdout stderr => fromUtf8Lossy stdout ++ fromUtf8Lossy stderr
  | .failed message => s!"Command failed: {message}\n"

/-- `execute_command`. A command without words starts nothing. -/
def executeCommand (command : String) : ServerCode String := do
  emit (.executed command)
  match splitWhitespace command with
  | [] => return ""
  | program :: arguments => do
      let state ← getState
      let started := env.spawn program arguments state.world
      modifyState fun state => { state with world := started.2 }
      return processText started.1

/-- The channel whose remote number is the recipient of a message. -/
def knownChannel (recipient : UInt32) : ServerCode Channel := do
  let state ← getState
  match findByRemoteId env.order state.channels recipient with
  | some channel => return channel
  | none => fail (.channel "Unknown channel")

/-- Send a packet if it is wanted. -/
def sendWhen (wanted : Bool) (packet : SshPacket) : ServerCode Unit :=
  if wanted then send packet else return ()

/-- The answer to a request that only wants to be acknowledged. -/
def replyIfWanted (msg : ChannelRequestMsg) (answer : MessageType) : ServerCode Unit :=
  if msg.wantReply then do
    let channel ← knownChannel env msg.recipientChannel
    send (newPacket answer (writeU32 channel.remoteId))
  else return ()

/-- A channel of any type is accepted. -/
def serveChannelOpen (payload : Bytes) : ServerCode Unit := do
  let msg ← lift (ChannelOpenMsg.parse payload)
  let state ← getState
  let accepted := acceptChannel state.channels msg.senderChannel msg.channelType
    msg.initialWindow msg.maxPacket
  modifyState fun state => { state with channels := accepted.2 }
  send (buildChannelOpenConfirmation msg.senderChannel accepted.1 defaultWindowSize
    defaultMaxPacketSize)

/-- The command runs before the channel is looked up. -/
def serveExec (msg : ChannelRequestMsg) : ServerCode Unit := do
  let command ← lift (parse readUtf8 msg.data)
  let output ← executeCommand env command
  let channel ← knownChannel env msg.recipientChannel
  sendWhen msg.wantReply (newPacket .channelSuccess (writeU32 channel.remoteId))
  send (buildChannelData channel.remoteId (utf8 output))
  send (buildChannelEof channel.remoteId)
  send (buildChannelClose channel.remoteId)

/-- Only the name "sftp" is known. -/
def serveSubsystem (msg : ChannelRequestMsg) : ServerCode Unit := do
  let subsystem ← lift (parse readUtf8 msg.data)
  replyIfWanted env msg (if subsystem = "sftp" then .channelSuccess else .channelFailure)

/-- One request on a channel, by its type. -/
def serveChannelRequest (payload : Bytes) : ServerCode Unit := do
  let msg ← lift (ChannelRequestMsg.parse payload)
  if msg.requestType = "exec" then serveExec env msg
  else if msg.requestType = "shell" then replyIfWanted env msg .channelSuccess
  else if msg.requestType = "subsystem" then serveSubsystem env msg
  else if msg.requestType = "pty-req" then replyIfWanted env msg .channelSuccess
  else replyIfWanted env msg .channelFailure

/-- The request at the start of the data of one message. The rest of the data is
not kept. -/
def sftpRequestIn (data : Bytes) : Option SftpPacket :=
  if data.length < 9 then none
  else
    match data with
    | a :: b :: c :: d :: rest =>
        let sftpLen := (ofBe32 a b c d).toNat
        if sftpLen + 4 ≤ data.length ∧ sftpLen ≥ 5 then
          (SftpPacket.decode (rest.take sftpLen)).toOption
        else none
    | _ => none

/-- Serve a request and send the response. The request is served before the
channel is looked up. -/
def serveSftp (recipient : UInt32) (request : SftpPacket) : ServerCode Unit := do
  emit (.handled request)
  let state ← getState
  let served := handleRequest env.os state.sftpHandler state.world request
  modifyState fun state =>
    { state with sftpHandler := served.handler, world := served.world }
  let channel ← knownChannel env recipient
  send (buildChannelData channel.remoteId served.response.encode)

/-- Data without a file transfer request is ignored. -/
def serveChannelData (payload : Bytes) : ServerCode Unit := do
  let msg ← lift (ChannelDataMsg.parse payload)
  match sftpRequestIn msg.data with
  | some request => serveSftp env msg.recipientChannel request
  | none => return ()

/-- The channel and the credit of a WINDOW_ADJUST. -/
def readWindowAdjust : Cursor (UInt32 × UInt32) := do
  let recipient ← readU32
  let bytesToAdd ← readU32
  return (recipient, bytesToAdd)

theorem rejectsInvalid_readWindowAdjust : RejectsInvalid readWindowAdjust :=
  rejectsInvalid_readU32.bind fun _ => rejectsInvalid_readU32.bind fun _ => .pure _

/-- More credit, which never wraps around. -/
def widenRemoteWindow (bytesToAdd : UInt32) (channel : Channel) : Channel :=
  { channel with remoteWindow := saturatingAdd channel.remoteWindow bytesToAdd }

/-- The other side sends no more data. -/
def markEofReceived (channel : Channel) : Channel :=
  { channel with eofReceived := true }

/-- Change the channel that is found for a number, if there is one. -/
def changeChannel (recipient : UInt32) (change : Channel → Channel) : ServerCode Unit :=
  modifyState fun state =>
    { state with channels := updateByRemoteId env.order state.channels recipient change }

/-- Credit for a channel. -/
def serveWindowAdjust (payload : Bytes) : ServerCode Unit := do
  let (recipient, bytesToAdd) ← lift (parse readWindowAdjust payload)
  changeChannel env recipient (widenRemoteWindow bytesToAdd)

/-- The end of data on a channel. -/
def serveEof (payload : Bytes) : ServerCode Unit := do
  let recipient ← lift (parse readU32 payload)
  changeChannel env recipient markEofReceived

/-- A CLOSE is answered on the channel, if there is one that is not closed. -/
def serveClose (payload : Bytes) : ServerCode Unit := do
  let recipient ← lift (parse readU32 payload)
  let state ← getState
  match findByRemoteId env.order state.channels recipient with
  | some channel => sendWhen (!channel.closed) (buildChannelClose channel.remoteId)
  | none => return ()

/-- One round of the channel loop. Messages of other types are ignored. -/
def serveChannelMessage (pkt : SshPacket) : ServerCode Unit :=
  match MessageType.fromU8 pkt.msgType with
  | some .channelOpen => serveChannelOpen pkt.payload
  | some .channelRequest => serveChannelRequest env pkt.payload
  | some .channelData => serveChannelData env pkt.payload
  | some .channelWindowAdjust => serveWindowAdjust env pkt.payload
  | some .channelEof => serveEof env pkt.payload
  | some .channelClose => serveClose env pkt.payload
  | some .disconnect => enterPhase .finished
  | _ => return ()

/-- One round of the loop the connection is in. Nothing is received once the
channel loop has ended. -/
def receive (received : Received) : ServerCode Unit := do
  let state ← getState
  match state.phase, received with
  | .serviceRequest, .ok pkt => serveServiceRequest pkt
  | .authentication, .ok pkt => serveAuthRequest env pkt
  | .channels, .ok pkt => serveChannelMessage env pkt
  | .channels, .error .connectionClosed => enterPhase .finished
  | .finished, _ => return ()
  | _, .error error => fail error

/-- A connection after the key exchange, on what is received. -/
def handleConnection (received : List Received) : ServerCode Unit :=
  forEach (receive env) received

/-- The state after the key exchange. -/
def connected (world : World Name) : ServerState :=
  ⟨.serviceRequest, newChannelManager, newHandler env.sftpRoot, world⟩

variable {env} {state : ServerState}

theorem serialize_of_fits {packet : SshPacket}
    (hfits : packetLength packet aesBlockSize ≤ maxPacketSize) :
    ∃ bytes, serialize packet aesBlockSize (fun _ => 0) = .ok bytes :=
  ⟨_, serialize_eq_ok_iff.mpr ⟨hfits, rfl⟩⟩

theorem run_send_of_fits {packet : SshPacket}
    (hfits : packetLength packet aesBlockSize ≤ maxPacketSize) :
    run (send packet) state = ⟨[.sent packet], state, .ok ()⟩ := by
  obtain ⟨bytes, hbytes⟩ := serialize_of_fits hfits
  rw [send, hbytes]
  rfl

theorem run_send_of_too_large {packet : SshPacket}
    (hlarge : maxPacketSize < packetLength packet aesBlockSize) :
    run (send packet) state =
      ⟨[], state, .err (.invalidPacket
        s!"Packet too large: {packetLength packet aesBlockSize} bytes")⟩ := by
  rw [send, serialize, if_pos hlarge]
  rfl

theorem fits_of_length_le {packet : SshPacket}
    (hlength : packet.payload.length + 21 ≤ maxPacketSize) :
    packetLength packet aesBlockSize ≤ maxPacketSize := by
  have hpadding := paddingLen_lt packet aesBlockSize
  rw [packetLength]
  have hblock : minPadding + max aesBlockSize 8 = 20 := rfl
  omega

theorem run_knownChannel_of_found {recipient : UInt32} {channel : Channel}
    (hfind : findByRemoteId env.order state.channels recipient = some channel) :
    run (knownChannel env recipient) state = ⟨[], state, .ok channel⟩ := by
  rw [knownChannel, run_getState_bind, hfind]
  rfl

theorem run_knownChannel_of_missing {recipient : UInt32}
    (hfind : findByRemoteId env.order state.channels recipient = none) :
    run (knownChannel env recipient) state =
      ⟨[], state, .err (.channel "Unknown channel")⟩ := by
  rw [knownChannel, run_getState_bind, hfind]
  rfl

theorem run_receive_serviceRequest (hphase : state.phase = .serviceRequest) (pkt : SshPacket) :
    run (receive env (.ok pkt)) state = run (serveServiceRequest pkt) state := by
  rw [receive, run_getState_bind, hphase]

theorem run_receive_authentication (hphase : state.phase = .authentication)
    (pkt : SshPacket) :
    run (receive env (.ok pkt)) state = run (serveAuthRequest env pkt) state := by
  rw [receive, run_getState_bind, hphase]

theorem run_receive_channels (hphase : state.phase = .channels) (pkt : SshPacket) :
    run (receive env (.ok pkt)) state = run (serveChannelMessage env pkt) state := by
  rw [receive, run_getState_bind, hphase]

theorem run_receive_error (error : SshError) :
    (run (receive env (.error error)) state).events = [] ∧
      (run (receive env (.error error)) state).state.channels = state.channels ∧
      ((run (receive env (.error error)) state).state.phase = .channels →
        state.phase = .channels) := by
  rw [receive, run_getState_bind]
  cases hphase : state.phase with
  | serviceRequest => exact ⟨rfl, rfl, fun h => hphase.symm.trans h⟩
  | authentication => exact ⟨rfl, rfl, fun h => hphase.symm.trans h⟩
  | channels => cases error <;> exact ⟨rfl, rfl, fun _ => rfl⟩
  | finished => exact ⟨rfl, rfl, fun h => hphase.symm.trans h⟩

theorem run_receive_finished (hphase : state.phase = .finished) (item : Received) :
    run (receive env item) state = ⟨[], state, .ok ()⟩ := by
  rw [receive, run_getState_bind, hphase]
  cases item <;> rfl

theorem run_serveServiceRequest {serviceName : String}
    (hlength : (utf8 serviceName).length ≤ maxPacketSize)
    (hfits : packetLength (buildServiceAccept serviceName) aesBlockSize ≤ maxPacketSize) :
    run (serveServiceRequest (buildServiceRequest serviceName)) state =
      ⟨[.sent (buildServiceAccept serviceName)], { state with phase := .authentication },
        .ok ()⟩ := by
  have hread : parse readUtf8 (buildServiceRequest serviceName).payload = .ok serviceName := by
    have hname := readUtf8_writeUtf8 [] hlength
    rw [List.append_nil] at hname
    exact parse_eq_ok hname
  have htype : (buildServiceRequest serviceName).msgType = MessageType.serviceRequest.toU8 :=
    rfl
  rw [serveServiceRequest, if_neg (not_not_intro htype), hread, run_lift_ok_bind,
    run_bind_ok (run_send_of_fits hfits)]
  rfl

end SwiftSsh.ServerLoop
