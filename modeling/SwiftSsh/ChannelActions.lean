import SwiftSsh.SftpFraming

/-!
The channel loop in two stages: what a message asks for, and what the server does
about it. A round changes the state first and sends its replies last.
-/

namespace SwiftSsh.ChannelActions

open SwiftSsh.ByteWords
open SwiftSsh.RustOutcome
open SwiftSsh.EventProgram
open SwiftSsh.WireTypes
open SwiftSsh.WireBuffer
open SwiftSsh.PacketCodec
open SwiftSsh.SftpProtocol
open SwiftSsh.ChannelMessages
open SwiftSsh.ChannelTable
open SwiftSsh.ServerLoop
open SwiftSsh.ChannelReplies
open SwiftSsh.ChannelRouting
open SwiftSsh.SftpFraming

/-- The requests that only want to be acknowledged. -/
inductive Asked where
  | shell
  | sftp
  | pty
  | other
  deriving DecidableEq

/-- Only an unknown request is refused. -/
def answerTo : Asked → MessageType
  | .other => .channelFailure
  | _ => .channelSuccess

/-- What a message of the channel loop asks for. -/
inductive Action where
  | openChannel (msg : ChannelOpenMsg)
  | exec (recipient : UInt32) (wantReply : Bool) (command : String)
  | ask (recipient : UInt32) (wantReply : Bool) (asked : Asked)
  | sftp (recipient : UInt32) (request : SftpPacket)
  | widen (recipient bytesToAdd : UInt32)
  | eof (recipient : UInt32)
  | close (recipient : UInt32)
  | disconnect
  | ignore

/-- The channel that an action is about. -/
def Action.recipient : Action → Option UInt32
  | .exec recipient _ _ => some recipient
  | .ask recipient _ _ => some recipient
  | .sftp recipient _ => some recipient
  | .widen recipient _ => some recipient
  | .eof recipient => some recipient
  | .close recipient => some recipient
  | _ => none

/-- The type of the messages that ask for an action, if it is answered at all. -/
def Action.msgType : Action → Option MessageType
  | .openChannel _ => some .channelOpen
  | .exec _ _ _ => some .channelRequest
  | .ask _ _ _ => some .channelRequest
  | .sftp _ _ => some .channelData
  | .close _ => some .channelClose
  | _ => none

/-- What a CHANNEL_REQUEST asks for, by its type. -/
def readRequest (msg : ChannelRequestMsg) : Outcome SshError Action :=
  if msg.requestType = "exec" then do
    let command ← parse readUtf8 msg.data
    return .exec msg.recipientChannel msg.wantReply command
  else if msg.requestType = "shell" then return .ask msg.recipientChannel msg.wantReply .shell
  else if msg.requestType = "subsystem" then do
    let subsystem ← parse readUtf8 msg.data
    return .ask msg.recipientChannel msg.wantReply (if subsystem = "sftp" then .sftp else .other)
  else if msg.requestType = "pty-req" then return .ask msg.recipientChannel msg.wantReply .pty
  else return .ask msg.recipientChannel msg.wantReply .other

/-- Data asks for nothing, unless a file transfer request is found in it. -/
def readData (msg : ChannelDataMsg) : Action :=
  match sftpRequestIn msg.data with
  | some request => .sftp msg.recipientChannel request
  | none => .ignore

/-- What a message asks for. It is not read as a whole: what stands after the
fields is ignored. -/
def readAction (pkt : SshPacket) : Outcome SshError Action :=
  match MessageType.fromU8 pkt.msgType with
  | some .channelOpen => do
      let msg ← ChannelOpenMsg.parse pkt.payload
      return .openChannel msg
  | some .channelRequest => do
      let msg ← ChannelRequestMsg.parse pkt.payload
      readRequest msg
  | some .channelData => do
      let msg ← ChannelDataMsg.parse pkt.payload
      return readData msg
  | some .channelWindowAdjust => do
      let (recipient, bytesToAdd) ← parse readWindowAdjust pkt.payload
      return .widen recipient bytesToAdd
  | some .channelEof => do
      let recipient ← parse readU32 pkt.payload
      return .eof recipient
  | some .channelClose => do
      let recipient ← parse readU32 pkt.payload
      return .close recipient
  | some .disconnect => return .disconnect
  | _ => return .ignore

/-- The text that `execute_command` returns. -/
def outputOf (env : ServerEnv) (state : ServerState) (command : String) : String :=
  match splitWhitespace command with
  | [] => ""
  | program :: arguments => processText (env.spawn program arguments state.world).1

/-- The state that a command leaves. -/
def afterCommand (env : ServerEnv) (state : ServerState) (command : String) : ServerState :=
  match splitWhitespace command with
  | [] => state
  | program :: arguments =>
      { state with world := (env.spawn program arguments state.world).2 }

/-- What a round emits before it sends anything, the state it leaves, and the
packets it then sends. There are none if the channel is unknown. -/
structure Plan where
  effects : List ServerEvent
  state : ServerState
  replies : Option (List SshPacket)

variable (env : ServerEnv) (state : ServerState)

/-- The packets that answer a message, if its channel is known. -/
def answering (recipient : UInt32) (packets : UInt32 → List SshPacket) :
    Option (List SshPacket) :=
  (findByRemoteId env.order state.channels recipient).map fun channel =>
    packets channel.remoteId

/-- The packets that are sent after a command. -/
def execReplies (wantReply : Bool) (output : Bytes) (remoteId : UInt32) : List SshPacket :=
  (if wantReply then [newPacket .channelSuccess (writeU32 remoteId)] else []) ++
    [buildChannelData remoteId output, buildChannelEof remoteId, buildChannelClose remoteId]

/-- The answer to a CLOSE. -/
def closeReplies (recipient : UInt32) : List SshPacket :=
  match findByRemoteId env.order state.channels recipient with
  | some channel => if channel.closed then [] else [buildChannelClose channel.remoteId]
  | none => []

/-- What the server does about an action in a given state. -/
def plan : Action → Plan
  | .openChannel msg =>
      let accepted := acceptChannel state.channels msg.senderChannel msg.channelType
        msg.initialWindow msg.maxPacket
      ⟨[], { state with channels := accepted.2 },
        some [buildChannelOpenConfirmation msg.senderChannel accepted.1 defaultWindowSize
          defaultMaxPacketSize]⟩
  | .exec recipient wantReply command =>
      ⟨[.executed command], afterCommand env state command,
        answering env state recipient
          (execReplies wantReply (utf8 (outputOf env state command)))⟩
  | .ask recipient wantReply asked =>
      ⟨[], state,
        if wantReply then answering env state recipient fun remoteId =>
          [newPacket (answerTo asked) (writeU32 remoteId)]
        else some []⟩
  | .sftp recipient request =>
      ⟨[.handled request], afterRequest env state request,
        answering env state recipient fun remoteId =>
          [responsePacket remoteId (responseTo env state request)]⟩
  | .widen recipient bytesToAdd =>
      ⟨[], { state with
        channels := updateByRemoteId env.order state.channels recipient
          (widenRemoteWindow bytesToAdd) }, some []⟩
  | .eof recipient =>
      ⟨[], { state with
        channels := updateByRemoteId env.order state.channels recipient markEofReceived },
        some []⟩
  | .close recipient => ⟨[], state, some (closeReplies env state recipient)⟩
  | .disconnect => ⟨[], { state with phase := .finished }, some []⟩
  | .ignore => ⟨[], state, some []⟩

/-- A plan carried out. -/
def Plan.ran (plan : Plan) : Ran ServerState ServerEvent SshError Unit :=
  match plan.replies with
  | some packets => (run (forEach send packets) plan.state).after plan.effects
  | none => ⟨plan.effects, plan.state, .err (.channel "Unknown channel")⟩

/-- A round for a message that has been read, or could not be. -/
def ranAction : Outcome SshError Action → Ran ServerState ServerEvent SshError Unit
  | .ok action => (plan env state action).ran
  | .err error => ⟨[], state, .err error⟩
  | .panic => ⟨[], state, .panic⟩

variable {env state}

theorem run_executeCommand (command : String) :
    run (executeCommand env command) state =
      ⟨[.executed command], afterCommand env state command,
        .ok (outputOf env state command)⟩ := by
  rw [executeCommand, outputOf, afterCommand]
  cases splitWhitespace command <;> rfl

theorem forEach_singleton {σ ω ε ι : Type} (body : ι → Traced σ ω ε Unit) (input : ι) :
    forEach body [input] = body input := by
  funext state
  change (run (body input) state).andThen (fun _ => pure ()) = run (body input) state
  rcases run (body input) state with ⟨events, later, value | error | _⟩
  · rw [Ran.andThen_ok, run_pure, Ran.after, List.append_nil]
  · rfl
  · rfl

theorem run_send_eq (packet : SshPacket) :
    run (send packet) state = run (forEach send [packet]) state := by
  rw [forEach_singleton]

theorem run_answering {effects : List ServerEvent} {recipient : UInt32}
    {next : Channel → ServerCode Unit} {packets : UInt32 → List SshPacket}
    (hnext : ∀ channel, next channel = forEach send (packets channel.remoteId))
    (later : ServerState) (hsame : later.channels = state.channels) :
    (run (knownChannel env recipient >>= next) later).after effects =
      (Plan.mk effects later (answering env state recipient packets)).ran := by
  rw [answering, Plan.ran, ← hsame]
  cases hfind : findByRemoteId env.order later.channels recipient with
  | none =>
      rw [run_bind_err (run_knownChannel_of_missing hfind), Ran.after, List.append_nil]
      rfl
  | some channel =>
      rw [run_bind_ok (run_knownChannel_of_found hfind), Ran.after_nil, hnext]
      rfl

theorem sends_execReplies (wantReply : Bool) (output : Bytes) (remoteId : UInt32) :
    (do
      sendWhen wantReply (newPacket .channelSuccess (writeU32 remoteId))
      send (buildChannelData remoteId output)
      send (buildChannelEof remoteId)
      send (buildChannelClose remoteId) : ServerCode Unit) =
      forEach send (execReplies wantReply output remoteId) := by
  cases wantReply with
  | false =>
      rw [sendWhen, if_neg (by decide), pure_bind_eq, execReplies, if_neg (by decide),
        List.nil_append, forEach, forEach, forEach_singleton]
  | true =>
      rw [sendWhen, if_pos rfl, execReplies, if_pos rfl, List.cons_append, List.nil_append,
        forEach, forEach, forEach, forEach_singleton]

@[simp] theorem afterCommand_channels (command : String) :
    (afterCommand env state command).channels = state.channels := by
  rw [afterCommand]
  split <;> rfl

theorem run_serveExec {msg : ChannelRequestMsg} {command : String}
    (hcommand : parse readUtf8 msg.data = .ok command) :
    run (serveExec env msg) state =
      (plan env state (.exec msg.recipientChannel msg.wantReply command)).ran := by
  rw [serveExec, hcommand, run_lift_ok_bind, run_bind_ok (run_executeCommand command)]
  refine run_answering ?_ _ (afterCommand_channels command)
  intro channel
  exact sends_execReplies _ _ _

theorem run_replyIfWanted (msg : ChannelRequestMsg) (asked : Asked) :
    run (replyIfWanted env msg (answerTo asked)) state =
      (plan env state (.ask msg.recipientChannel msg.wantReply asked)).ran := by
  rw [replyIfWanted, plan]
  cases msg.wantReply with
  | false => rfl
  | true =>
      rw [if_pos rfl, if_pos rfl]
      refine Eq.trans (Ran.after_nil _).symm (run_answering ?_ state rfl)
      intro channel
      exact (forEach_singleton send _).symm

theorem run_serveSftp (recipient : UInt32) (request : SftpPacket) :
    run (serveSftp env recipient request) state =
      (plan env state (.sftp recipient request)).ran := by
  rw [run_serveSftp_bind]
  refine run_answering ?_ (afterRequest env state request) rfl
  intro channel
  exact (forEach_singleton send _).symm

theorem run_serveChannelRequest (payload : Bytes) :
    run (serveChannelRequest env payload) state =
      ranAction env state (ChannelRequestMsg.parse payload >>= readRequest) := by
  rw [serveChannelRequest]
  rcases ChannelRequestMsg.parse payload with msg | error | _
  · rw [run_lift_ok_bind, Outcome.ok_bind, readRequest]
    split
    · rcases hcommand : parse readUtf8 msg.data with command | error | _
      · rw [run_serveExec hcommand]
        rfl
      · rw [serveExec, hcommand]
        rfl
      · rw [serveExec, hcommand]
        rfl
    split
    · exact run_replyIfWanted msg .shell
    split
    · rw [serveSubsystem]
      rcases parse readUtf8 msg.data with subsystem | error | _
      · rw [run_lift_ok_bind, Outcome.ok_bind]
        split
        · exact run_replyIfWanted msg .sftp
        · exact run_replyIfWanted msg .other
      · rfl
      · rfl
    split
    · exact run_replyIfWanted msg .pty
    · exact run_replyIfWanted msg .other
  · rfl
  · rfl

theorem run_serveChannelData (payload : Bytes) :
    run (serveChannelData env payload) state =
      ranAction env state (ChannelDataMsg.parse payload >>= fun msg => pure (readData msg)) := by
  rw [serveChannelData]
  rcases ChannelDataMsg.parse payload with msg | error | _
  · rw [run_lift_ok_bind, Outcome.ok_bind, readData]
    cases sftpRequestIn msg.data with
    | none => rfl
    | some request => exact run_serveSftp _ _
  · rfl
  · rfl

theorem run_serveClose (payload : Bytes) :
    run (serveClose env payload) state =
      ranAction env state (parse readU32 payload >>= fun recipient =>
        pure (.close recipient)) := by
  rw [serveClose]
  rcases parse readU32 payload with recipient | error | _
  · rw [run_lift_ok_bind, run_getState_bind, Outcome.ok_bind]
    change _ = (plan env state (.close recipient)).ran
    rw [plan, Plan.ran, closeReplies]
    dsimp only
    cases findByRemoteId env.order state.channels recipient with
    | none => rfl
    | some channel =>
        dsimp only
        cases channel.closed with
        | false => exact run_send_eq _
        | true => rfl
  · rfl
  · rfl

theorem run_serveChannelOpen_eq (payload : Bytes) :
    run (serveChannelOpen payload) state =
      ranAction env state (ChannelOpenMsg.parse payload >>= fun msg =>
        pure (.openChannel msg)) := by
  rw [serveChannelOpen]
  rcases ChannelOpenMsg.parse payload with msg | error | _
  · rw [run_lift_ok_bind, run_getState_bind]
    dsimp only
    rw [run_modifyState_bind, run_send_eq]
    exact (Ran.after_nil _).symm
  · rfl
  · rfl

/-- A round of the channel loop is what the message asks for. -/
theorem run_serveChannelMessage (env : ServerEnv) (state : ServerState) (pkt : SshPacket) :
    run (serveChannelMessage env pkt) state = ranAction env state (readAction pkt) := by
  rw [serveChannelMessage, readAction]
  rcases MessageType.fromU8 pkt.msgType with _ | msgType
  · rfl
  cases msgType with
  | channelOpen => exact run_serveChannelOpen_eq pkt.payload
  | channelRequest => exact run_serveChannelRequest pkt.payload
  | channelData => exact run_serveChannelData pkt.payload
  | channelWindowAdjust =>
      dsimp only
      rw [serveWindowAdjust]
      rcases parse readWindowAdjust pkt.payload with fields | error | _ <;> rfl
  | channelEof =>
      dsimp only
      rw [serveEof]
      rcases parse readU32 pkt.payload with recipient | error | _ <;> rfl
  | channelClose => exact run_serveClose pkt.payload
  | _ => rfl

theorem run_sends_of_fits {packets : List SshPacket} (hfits : ∀ packet ∈ packets, Fits packet) :
    run (forEach send packets) state = ⟨packets.map .sent, state, .ok ()⟩ := by
  induction packets with
  | nil => rfl
  | cons packet packets ih =>
      obtain ⟨hfirst, hrest⟩ := List.forall_mem_cons.mp hfits
      rw [run_forEach_cons_ok (run_send_of_fits hfirst), ih hrest]
      rfl

/-- Sending stops at the first packet that is too large. -/
theorem run_sends_of_too_large {packets : List SshPacket}
    (hlarge : ¬∀ packet ∈ packets, Fits packet) :
    ∃ front message, front <+: packets ∧ (∀ packet ∈ front, Fits packet) ∧
      run (forEach send packets) state =
        ⟨front.map .sent, state, .err (.invalidPacket message)⟩ := by
  induction packets with
  | nil =>
      refine absurd ?_ hlarge
      rintro packet ⟨⟩
  | cons packet packets ih =>
      by_cases hfits : Fits packet
      · obtain ⟨front, message, hinitial, hfront, hrun⟩ := ih fun hrest =>
          hlarge (List.forall_mem_cons.mpr ⟨hfits, hrest⟩)
        refine ⟨packet :: front, message, List.cons_prefix_cons.mpr ⟨rfl, hinitial⟩,
          List.forall_mem_cons.mpr ⟨hfits, hfront⟩, ?_⟩
        rw [run_forEach_cons_ok (run_send_of_fits hfits), hrun]
        rfl
      · have hsend := @run_send_of_too_large state packet (Nat.lt_of_not_le hfits)
        refine ⟨[], _, List.nil_prefix, ?_, run_bind_err hsend _⟩
        rintro packet ⟨⟩

/-- How a round ends. -/
inductive Ends (plan : Plan) : Ran ServerState ServerEvent SshError Unit → Prop where
  | unknown (hreplies : plan.replies = none) :
      Ends plan ⟨plan.effects, plan.state, .err (.channel "Unknown channel")⟩
  | sent (packets : List SshPacket) (hreplies : plan.replies = some packets)
      (hfits : ∀ packet ∈ packets, Fits packet) :
      Ends plan ⟨plan.effects ++ packets.map .sent, plan.state, .ok ()⟩
  | cut (packets front : List SshPacket) (message : String)
      (hreplies : plan.replies = some packets) (hfront : front <+: packets)
      (hsent : ∀ packet ∈ front, Fits packet)
      (hlarge : ¬∀ packet ∈ packets, Fits packet) :
      Ends plan
        ⟨plan.effects ++ front.map .sent, plan.state, .err (.invalidPacket message)⟩

theorem ran_of_fits {plan : Plan} {packets : List SshPacket}
    (hreplies : plan.replies = some packets) (hfits : ∀ packet ∈ packets, Fits packet) :
    plan.ran = ⟨plan.effects ++ packets.map .sent, plan.state, .ok ()⟩ := by
  rw [Plan.ran, hreplies]
  dsimp only
  rw [run_sends_of_fits hfits]
  rfl

theorem ends_ran (plan : Plan) : Ends plan plan.ran := by
  rw [Plan.ran]
  cases hreplies : plan.replies with
  | none => exact .unknown hreplies
  | some packets =>
      dsimp only
      by_cases hfits : ∀ packet ∈ packets, Fits packet
      · rw [run_sends_of_fits hfits]
        exact .sent packets hreplies hfits
      · obtain ⟨front, message, hfront, hsent, hrun⟩ :=
          @run_sends_of_too_large plan.state _ hfits
        rw [hrun]
        exact .cut packets front message hreplies hfront hsent hfits

theorem run_receive_action {pkt : SshPacket} {action : Action}
    (hphase : state.phase = .channels) (hread : readAction pkt = .ok action) :
    run (receive env (.ok pkt)) state = (plan env state action).ran := by
  rw [run_receive_channels hphase, run_serveChannelMessage, hread]
  rfl

theorem cases_of_readRequest {msg : ChannelRequestMsg} {action : Action}
    (hread : readRequest msg = .ok action) :
    (∃ command, action = .exec msg.recipientChannel msg.wantReply command) ∨
      ∃ asked, action = .ask msg.recipientChannel msg.wantReply asked := by
  rw [readRequest] at hread
  split at hread
  · obtain ⟨command, -, hcommand⟩ := Outcome.bind_eq_ok hread
    cases hcommand
    exact .inl ⟨_, rfl⟩
  split at hread
  · cases hread
    exact .inr ⟨_, rfl⟩
  split at hread
  · obtain ⟨subsystem, -, hsubsystem⟩ := Outcome.bind_eq_ok hread
    cases hsubsystem
    exact .inr ⟨_, rfl⟩
  split at hread <;> cases hread <;> exact .inr ⟨_, rfl⟩

theorem recipient_of_readRequest {msg : ChannelRequestMsg} {action : Action}
    (hread : readRequest msg = .ok action) : action.recipient = some msg.recipientChannel := by
  rcases cases_of_readRequest hread with ⟨command, rfl⟩ | ⟨asked, rfl⟩ <;> rfl

theorem type_of_readAction {pkt : SshPacket} {action : Action} {msgType : MessageType}
    (hread : readAction pkt = .ok action) (htype : action.msgType = some msgType) :
    MessageType.fromU8 pkt.msgType = some msgType := by
  rw [readAction] at hread
  split at hread
  · rename_i hpkt
    obtain ⟨msg, -, hmsg⟩ := Outcome.bind_eq_ok hread
    cases hmsg
    exact hpkt.trans htype
  · rename_i hpkt
    obtain ⟨msg, -, hmsg⟩ := Outcome.bind_eq_ok hread
    rcases cases_of_readRequest hmsg with ⟨command, rfl⟩ | ⟨asked, rfl⟩ <;>
      exact hpkt.trans htype
  · rename_i hpkt
    obtain ⟨msg, -, hmsg⟩ := Outcome.bind_eq_ok hread
    cases hmsg
    rw [readData] at htype
    split at htype
    · exact hpkt.trans htype
    · cases htype
  · obtain ⟨fields, -, hfields⟩ := Outcome.bind_eq_ok hread
    cases hfields
    cases htype
  · obtain ⟨recipient, -, hrecipient⟩ := Outcome.bind_eq_ok hread
    cases hrecipient
    cases htype
  · rename_i hpkt
    obtain ⟨recipient, -, hrecipient⟩ := Outcome.bind_eq_ok hread
    cases hrecipient
    exact hpkt.trans htype
  · cases hread
    cases htype
  · cases hread
    cases htype

theorem opens_of_readAction {pkt : SshPacket} {msg : ChannelOpenMsg}
    (hread : readAction pkt = .ok (.openChannel msg)) : Opens pkt msg := by
  rw [readAction] at hread
  split at hread
  · rename_i htype
    obtain ⟨found, hparse, hfound⟩ := Outcome.bind_eq_ok hread
    cases hfound
    exact ⟨htype, hparse⟩
  · obtain ⟨request, -, hrequest⟩ := Outcome.bind_eq_ok hread
    cases recipient_of_readRequest hrequest
  · obtain ⟨found, -, hfound⟩ := Outcome.bind_eq_ok hread
    rw [readData] at hfound
    split at hfound <;> cases hfound
  · obtain ⟨fields, -, hfields⟩ := Outcome.bind_eq_ok hread
    cases hfields
  · obtain ⟨recipient, -, hrecipient⟩ := Outcome.bind_eq_ok hread
    cases hrecipient
  · obtain ⟨recipient, -, hrecipient⟩ := Outcome.bind_eq_ok hread
    cases hrecipient
  · cases hread
  · cases hread

theorem recipientOf_of_readAction {pkt : SshPacket} {action : Action} {recipient : UInt32}
    (hread : readAction pkt = .ok action) (hrecipient : action.recipient = some recipient) :
    recipientOf pkt = some recipient := by
  rw [readAction] at hread
  rw [recipientOf]
  split at hread
  · obtain ⟨msg, -, hmsg⟩ := Outcome.bind_eq_ok hread
    cases hmsg
    cases hrecipient
  · rename_i htype
    obtain ⟨msg, hparse, hmsg⟩ := Outcome.bind_eq_ok hread
    rw [recipient_of_readRequest hmsg] at hrecipient
    rw [htype, hparse]
    exact hrecipient
  · rename_i htype
    obtain ⟨msg, hparse, hmsg⟩ := Outcome.bind_eq_ok hread
    cases hmsg
    rw [htype, hparse]
    rw [readData] at hrecipient
    split at hrecipient
    · exact hrecipient
    · cases hrecipient
  · rename_i htype
    obtain ⟨⟨named, bytesToAdd⟩, hparse, hfields⟩ := Outcome.bind_eq_ok hread
    cases hfields
    rw [htype]
    dsimp only
    rw [parse_readU32_of_readWindowAdjust hparse]
    exact hrecipient
  · rename_i htype
    obtain ⟨named, hparse, hnamed⟩ := Outcome.bind_eq_ok hread
    cases hnamed
    rw [htype, hparse]
    exact hrecipient
  · rename_i htype
    obtain ⟨named, hparse, hnamed⟩ := Outcome.bind_eq_ok hread
    cases hnamed
    rw [htype, hparse]
    exact hrecipient
  · cases hread
    cases hrecipient
  · cases hread
    cases hrecipient

theorem readAction_buildChannelOpen {channelType : String} (sender window maxPacket : UInt32)
    (hlength : (utf8 channelType).length ≤ maxPacketSize) :
    readAction (buildChannelOpen channelType sender window maxPacket) =
      .ok (.openChannel ⟨channelType, sender, window, maxPacket⟩) := by
  change (ChannelOpenMsg.parse _ >>= fun msg => pure (Action.openChannel msg)) = _
  rw [parse_buildChannelOpen _ _ _ hlength]
  rfl

theorem readAction_buildExecRequest {command : String} (recipient : UInt32) (wantReply : Bool)
    (hlength : (utf8 command).length ≤ maxPacketSize) :
    readAction (buildExecRequest recipient command wantReply) =
      .ok (.exec recipient wantReply command) := by
  have hread := readUtf8_writeUtf8 [] hlength
  rw [List.append_nil] at hread
  change (ChannelRequestMsg.parse _ >>= readRequest) = _
  rw [parse_buildExecRequest, Outcome.ok_bind, readRequest, if_pos rfl, parse_eq_ok hread]
  rfl

theorem readAction_buildChannelEof (recipient : UInt32) :
    readAction (buildChannelEof recipient) = .ok (.eof recipient) := by
  have hread := readU32_writeU32 recipient []
  rw [List.append_nil] at hread
  change (parse readU32 (writeU32 recipient) >>= fun recipient => pure (Action.eof recipient)) = _
  rw [parse_eq_ok hread]
  rfl

theorem readAction_buildChannelClose (recipient : UInt32) :
    readAction (buildChannelClose recipient) = .ok (.close recipient) := by
  have hread := readU32_writeU32 recipient []
  rw [List.append_nil] at hread
  change (parse readU32 (writeU32 recipient) >>= fun recipient => pure (Action.close recipient)) = _
  rw [parse_eq_ok hread]
  rfl

end SwiftSsh.ChannelActions
