import SwiftSsh.ChannelMessages
import SwiftSsh.ChannelTable
import SwiftSsh.DuplexTransport
import SwiftSsh.EventProgram
import SwiftSsh.Handshake
import SwiftSsh.SftpPaths
import SwiftSsh.UserAuth

namespace SwiftSsh.ClientSession

open SwiftSsh.ByteWords
open SwiftSsh.RustOutcome
open SwiftSsh.EventProgram
open SwiftSsh.WireTypes
open SwiftSsh.WireBuffer
open SwiftSsh.PacketCodec
open SwiftSsh.SftpPaths
open SwiftSsh.UserAuth
open SwiftSsh.ChannelMessages
open SwiftSsh.ChannelTable
open SwiftSsh.SessionCrypto
open SwiftSsh.PacketTransport
open SwiftSsh.HostedService
open SwiftSsh.ServiceNetwork
open SwiftSsh.DuplexTransport

/-- The arguments that a session uses. -/
structure Args where
  user : String
  password : Option String
  command : Option String
  interactive : Bool

/-- What the client waits for. -/
inductive ClientPhase where
  | serviceAccept
  | authResponse
  | channelConfirmation
  | commandOutput
  | shellOutput
  | finished
  deriving DecidableEq

/-- Where the client is, its channels and the two numbers of the channel it has opened. -/
structure ClientState where
  phase : ClientPhase
  channels : ChannelManager
  channelId : UInt32
  remoteId : UInt32

/-- What can be seen of a client: packets, and texts on its two outputs. -/
inductive ClientEvent where
  | sent (packet : SshPacket)
  | printed (text : String)
  | printedError (text : String)
  deriving DecidableEq

/-- Code of the client, which may send, print and fail. -/
abbrev ClientCode := Traced ClientState ClientEvent SshError

/-- What `recv_packet` returns. -/
abbrev Received := Except SshError SshPacket

/-- Go on to the place in the code where the next packet is received. -/
def waitFor (phase : ClientPhase) : ClientCode Unit :=
  modifyState fun state => { state with phase := phase }

/-- Send a packet on the encrypted connection. -/
def send (packet : SshPacket) : ClientCode Unit := do
  let _ ← lift (serialize packet aesBlockSize fun _ => 0)
  emit (.sent packet)

/-- The disconnect message, with the reason BY_APPLICATION. -/
def disconnectPacket : SshPacket :=
  newPacket .disconnect (writeU32 11 ++ writeUtf8 "Session ended" ++ writeUtf8 "en")

/-- Say goodbye and end. -/
def disconnect : ClientCode Unit := do
  send disconnectPacket
  waitFor .finished

/-- Ask for the authentication service. -/
def requestService : ClientCode Unit :=
  send (buildServiceRequest "ssh-userauth")

variable (args : Args)

/-- The one attempt that the client makes. -/
def authPacket : SshPacket :=
  buildPasswordAuthRequest args.user "ssh-connection" (args.password.getD "")

/-- The answer to the service request has come. -/
def onServiceAccept (serviceAccept : SshPacket) : ClientCode Unit :=
  if serviceAccept.msgType ≠ MessageType.serviceAccept.toU8 then
    fail (.protocol "Expected SERVICE_ACCEPT")
  else do
    send (authPacket args)
    waitFor .authResponse

/-- Open the session channel. -/
def openSession : ClientCode Unit := do
  let state ← getState
  let opened := openChannel state.channels "session"
  modifyState fun state => { state with channels := opened.2, channelId := opened.1 }
  match opened.2.get opened.1 with
  | some ch => do
      send (buildChannelOpen "session" ch.localId ch.localWindow ch.localMaxPacket)
      waitFor .channelConfirmation
  | none => lift .panic

/-- The answer to the attempt has come. -/
def onAuthResponse (authResponse : SshPacket) : ClientCode Unit :=
  if authResponse.msgType = MessageType.userAuthSuccess.toU8 then openSession
  else if authResponse.msgType = MessageType.userAuthFailure.toU8 then
    fail (.authFailed "Authentication rejected by server")
  else fail (.protocol "Unexpected auth response")

/-- The fields of a CHANNEL_OPEN_CONFIRMATION. -/
structure Confirmation where
  recipient : UInt32
  remoteId : UInt32
  remoteWindow : UInt32
  remoteMaxPacket : UInt32

/-- `run_client` reads the fields one by one. -/
def readConfirmation : Cursor Confirmation := do
  let recipient ← readU32
  let remoteId ← readU32
  let remoteWindow ← readU32
  let remoteMaxPacket ← readU32
  return ⟨recipient, remoteId, remoteWindow, remoteMaxPacket⟩

/-- Execute the command, start the shell, or do neither. -/
def startMode (remoteId : UInt32) : ClientCode Unit :=
  match args.command with
  | some command => do
      send (buildExecRequest remoteId command true)
      waitFor .commandOutput
  | none =>
      if args.interactive then do
        send (buildShellRequest remoteId true)
        waitFor .shellOutput
      else disconnect

/-- The answer to CHANNEL_OPEN has come: the numbers of the channel are known. -/
def onConfirmation (confirmPkt : SshPacket) : ClientCode Unit :=
  if confirmPkt.msgType ≠ MessageType.channelOpenConfirmation.toU8 then
    fail (.channel "Channel open failed")
  else do
    let confirmation ← lift (parse readConfirmation confirmPkt.payload)
    let state ← getState
    let confirmed := confirmChannel state.channels state.channelId confirmation.remoteId
      confirmation.remoteWindow confirmation.remoteMaxPacket
    modifyState fun state =>
      { state with channels := confirmed.2, remoteId := confirmation.remoteId }
    lift confirmed.1
    startMode args confirmation.remoteId

/-- Data of the server goes to the output. -/
def printData (payload : Bytes) : ClientCode Unit := do
  let msg ← lift (ChannelDataMsg.parse payload)
  emit (.printed (fromUtf8Lossy msg.data))

/-- The channel and the type of the data are read and ignored. -/
def readExtendedData : Cursor Bytes := do
  let _channel ← readU32
  let _dataType ← readU32
  readString

/-- Extended data of any type goes to the error output. -/
def printExtendedData (payload : Bytes) : ClientCode Unit := do
  let data ← lift (parse readExtendedData payload)
  emit (.printedError (fromUtf8Lossy data))

/-- The answer to the close of the channel, and the end of the session. -/
def answerClose : ClientCode Unit := do
  let state ← getState
  send (buildChannelClose state.remoteId)
  disconnect

/-- One message in the loop of command mode. -/
def onCommandOutput (pkt : SshPacket) : ClientCode Unit :=
  match MessageType.fromU8 pkt.msgType with
  | some .channelData => printData pkt.payload
  | some .channelExtendedData => printExtendedData pkt.payload
  | some .channelClose => answerClose
  | _ => return ()

/-- One message in the interactive loop. -/
def onShellOutput (pkt : SshPacket) : ClientCode Unit :=
  match MessageType.fromU8 pkt.msgType with
  | some .channelData => printData pkt.payload
  | some .channelClose => answerClose
  | _ => return ()

/-- What the client does with what it receives. -/
def receive (received : Received) : ClientCode Unit := do
  let state ← getState
  match state.phase, received with
  | .serviceAccept, .ok pkt => onServiceAccept args pkt
  | .authResponse, .ok pkt => onAuthResponse pkt
  | .channelConfirmation, .ok pkt => onConfirmation args pkt
  | .commandOutput, .ok pkt => onCommandOutput pkt
  | .commandOutput, .error .connectionClosed => disconnect
  | .shellOutput, .ok pkt => onShellOutput pkt
  | .shellOutput, .error .connectionClosed => disconnect
  | .finished, _ => return ()
  | _, .error error => fail error

/-- A line of the user. Lines are only taken in the interactive loop. -/
def typeLine (line : String) : ClientCode Unit := do
  let state ← getState
  match state.phase with
  | .shellOutput => send (buildChannelData state.remoteId (utf8 line))
  | _ => return ()

/-- Before the service request. -/
def beforeSession : ClientState :=
  ⟨.serviceAccept, newChannelManager, 0, 0⟩

/-- What happens to a client after the key exchange. -/
inductive ClientInput where
  | received (item : Received)
  | line (text : String)

/-- One event of the session: a packet, an error of the receiver or a typed line. -/
def react : ClientInput → ClientCode Unit
  | .received item => receive args item
  | .line text => typeLine text

/-- `run_client` after key activation. -/
def session (inputs : List ClientInput) : ClientCode Unit := do
  requestService
  forEach (react args) inputs

/-- The packet that is sent, if the event is one. -/
def clientPacket : ClientEvent → Option SshPacket
  | .sent packet => some packet
  | .printed _ => none
  | .printedError _ => none

/-- The packets among the events of a session. -/
def sentPackets (events : List ClientEvent) : List SshPacket :=
  events.filterMap clientPacket

/-- `run_client` without the interactive lines, on the bytes of the connection. -/
def clientService (P : Primitives) (padding : Nat → Nat → UInt8) :
    Service SessionKeys ClientState ClientEvent SshError SshPacket :=
  packetService P padding clientPacket (receive args) fun state =>
    decide (state.phase = .finished)

variable {state : ClientState} {packet : SshPacket}

theorem run_send_of_fits (hfits : FitsEncrypted packet) :
    run (send packet) state = ⟨[.sent packet], state, .ok ()⟩ := by
  obtain ⟨bytes, hbytes⟩ : ∃ bytes, serialize packet aesBlockSize (fun _ => 0) = .ok bytes :=
    ⟨_, serialize_eq_ok_iff.mpr ⟨hfits, rfl⟩⟩
  rw [send, hbytes]
  rfl

theorem run_send_of_too_large (hlarge : ¬ FitsEncrypted packet) :
    run (send packet) state =
      ⟨[], state, .err (.invalidPacket
        s!"Packet too large: {packetLength packet aesBlockSize} bytes")⟩ := by
  rw [send, serialize, if_pos (Nat.lt_of_not_le hlarge)]
  rfl

theorem fitsEncrypted_of_length_le (hlength : packet.payload.length + 21 ≤ maxPacketSize) :
    FitsEncrypted packet := by
  have hpadding := paddingLen_lt packet aesBlockSize
  have hblock : minPadding + max aesBlockSize 8 = 20 := rfl
  rw [FitsEncrypted, packetLength]
  omega

theorem run_disconnect :
    run disconnect state =
      ⟨[.sent disconnectPacket], { state with phase := .finished }, .ok ()⟩ := by
  have hfits : FitsEncrypted disconnectPacket := by
    apply fitsEncrypted_of_length_le
    decide +kernel
  rw [disconnect, run_bind_ok (run_send_of_fits hfits)]
  rfl

theorem fitsEncrypted_word (msgType : MessageType) (word : UInt32) :
    FitsEncrypted (newPacket msgType (writeU32 word)) := by
  apply fitsEncrypted_of_length_le
  change 4 + 21 ≤ maxPacketSize
  decide

theorem run_answerClose :
    run answerClose state =
      ⟨[.sent (buildChannelClose state.remoteId), .sent disconnectPacket],
        { state with phase := .finished }, .ok ()⟩ := by
  have hfits : FitsEncrypted (buildChannelClose state.remoteId) :=
    fitsEncrypted_word .channelClose state.remoteId
  rw [answerClose, run_getState_bind, run_bind_ok (run_send_of_fits hfits), run_disconnect]
  rfl

theorem get_openChannel (manager : ChannelManager) (channelType : String) :
    (openChannel manager channelType).2.get (openChannel manager channelType).1 =
      some (newChannel manager.nextId channelType) :=
  (get_insert _ _ _ _ _).trans (if_pos rfl)

theorem run_openSession :
    run openSession state =
      run (do
        send (buildChannelOpen "session" state.channels.nextId defaultWindowSize
          defaultMaxPacketSize)
        waitFor .channelConfirmation)
      { state with
        channels := (openChannel state.channels "session").2
        channelId := state.channels.nextId } := by
  rw [openSession, run_getState_bind]
  dsimp only
  rw [run_modifyState_bind, get_openChannel]
  rfl

theorem emits_send (packet : SshPacket) : Emits (EventFits clientPacket) (send packet) :=
  emits_packet (show clientPacket (.sent packet) = some packet from rfl) _

theorem emits_disconnect : Emits (EventFits clientPacket) disconnect :=
  (emits_send _).bind fun _ => emits_modifyState _

theorem emits_answerClose : Emits (EventFits clientPacket) answerClose :=
  emits_getState.bind fun _ => (emits_send _).bind fun _ => emits_disconnect

theorem emits_printData (payload : Bytes) : Emits (EventFits clientPacket) (printData payload) :=
  (emits_lift _).bind fun _ => emits_emit (eventFits_of_none rfl)

theorem emits_onServiceAccept (pkt : SshPacket) :
    Emits (EventFits clientPacket) (onServiceAccept args pkt) := by
  rw [onServiceAccept]
  split
  · exact emits_lift _
  · exact (emits_send _).bind fun _ => emits_modifyState _

theorem emits_openSession : Emits (EventFits clientPacket) openSession := by
  refine emits_getState.bind fun state => (emits_modifyState _).bind fun _ => ?_
  split
  · exact (emits_send _).bind fun _ => emits_modifyState _
  · exact emits_lift _

theorem emits_onAuthResponse (pkt : SshPacket) :
    Emits (EventFits clientPacket) (onAuthResponse pkt) := by
  rw [onAuthResponse]
  split
  · exact emits_openSession
  · split
    · exact emits_lift _
    · exact emits_lift _

theorem emits_startMode (remoteId : UInt32) :
    Emits (EventFits clientPacket) (startMode args remoteId) := by
  rw [startMode]
  split
  · exact (emits_send _).bind fun _ => emits_modifyState _
  · split
    · exact (emits_send _).bind fun _ => emits_modifyState _
    · exact emits_disconnect

theorem emits_onConfirmation (pkt : SshPacket) :
    Emits (EventFits clientPacket) (onConfirmation args pkt) := by
  rw [onConfirmation]
  split
  · exact emits_lift _
  · exact (emits_lift _).bind fun _ => emits_getState.bind fun _ =>
      (emits_modifyState _).bind fun _ => (emits_lift _).bind fun _ => emits_startMode args _

theorem emits_onCommandOutput (pkt : SshPacket) :
    Emits (EventFits clientPacket) (onCommandOutput pkt) := by
  rw [onCommandOutput]
  split
  · exact emits_printData _
  · exact (emits_lift _).bind fun _ => emits_emit (eventFits_of_none rfl)
  · exact emits_answerClose
  · exact emits_pure ()

theorem emits_onShellOutput (pkt : SshPacket) :
    Emits (EventFits clientPacket) (onShellOutput pkt) := by
  rw [onShellOutput]
  split
  · exact emits_printData _
  · exact emits_answerClose
  · exact emits_pure ()

theorem sendsFitting_receive : SendsFitting clientPacket (receive args) := by
  intro item
  refine emits_getState.bind fun state => ?_
  split
  · exact emits_onServiceAccept args _
  · exact emits_onAuthResponse _
  · exact emits_onConfirmation args _
  · exact emits_onCommandOutput _
  · exact emits_disconnect
  · exact emits_onShellOutput _
  · exact emits_disconnect
  · exact emits_pure ()
  · exact emits_lift _

section Messages

variable {args}

theorem run_receive_serviceAccept (hphase : state.phase = .serviceAccept) (pkt : SshPacket) :
    run (receive args (.ok pkt)) state = run (onServiceAccept args pkt) state := by
  rw [receive, run_getState_bind, hphase]

theorem run_receive_authResponse (hphase : state.phase = .authResponse) (pkt : SshPacket) :
    run (receive args (.ok pkt)) state = run (onAuthResponse pkt) state := by
  rw [receive, run_getState_bind, hphase]

theorem run_receive_confirmation (hphase : state.phase = .channelConfirmation)
    (pkt : SshPacket) :
    run (receive args (.ok pkt)) state = run (onConfirmation args pkt) state := by
  rw [receive, run_getState_bind, hphase]

theorem run_receive_commandOutput (hphase : state.phase = .commandOutput) (pkt : SshPacket) :
    run (receive args (.ok pkt)) state = run (onCommandOutput pkt) state := by
  rw [receive, run_getState_bind, hphase]

theorem run_onCommandOutput_data
    (htype : MessageType.fromU8 packet.msgType = some .channelData) :
    run (onCommandOutput packet) state = run (printData packet.payload) state := by
  rw [onCommandOutput, htype]

theorem run_onCommandOutput_close
    (htype : MessageType.fromU8 packet.msgType = some .channelClose) :
    run (onCommandOutput packet) state = run answerClose state := by
  rw [onCommandOutput, htype]

theorem run_printData_of_parse {payload : Bytes} {msg : ChannelDataMsg}
    (hparse : ChannelDataMsg.parse payload = .ok msg) :
    run (printData payload) state = ⟨[.printed (fromUtf8Lossy msg.data)], state, .ok ()⟩ := by
  rw [printData, hparse, run_lift_ok_bind]
  rfl

end Messages

section Service

variable {args} {P : Primitives} {padding : Nat → Nat → UInt8}

theorem duplex_clientService : Duplex (clientService args P padding) incoming outgoing Active :=
  duplex_packetService (sendsFitting_receive args)

theorem run_receive_finished (hphase : state.phase = .finished) (item : Received) :
    run (receive args item) state = ⟨[], state, .ok ()⟩ := by
  rw [receive, run_getState_bind, hphase]
  cases item <;> rfl

theorem settles_clientService : Settles (clientService args P padding) where
  ended item state hended := run_receive_finished (of_decide_eq_true hended) item
  failed error state hok := by
    change (run (receive args (.error error)) state).outcome = _ at hok
    apply decide_eq_true
    change (run (receive args (.error error)) state).state.phase = .finished
    rw [receive, run_getState_bind] at hok ⊢
    cases hphase : state.phase with
    | finished => exact hphase
    | commandOutput =>
        rw [hphase] at hok
        cases error with
        | connectionClosed =>
            dsimp only
            rw [run_disconnect]
        | _ => cases hok
    | shellOutput =>
        rw [hphase] at hok
        cases error with
        | connectionClosed =>
            dsimp only
            rw [run_disconnect]
        | _ => cases hok
    | _ =>
        rw [hphase] at hok
        cases hok

end Service

end SwiftSsh.ClientSession
