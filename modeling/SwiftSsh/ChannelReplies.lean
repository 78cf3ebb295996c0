import SwiftSsh.ServerLoop

namespace SwiftSsh.ChannelReplies

open SwiftSsh.ByteWords
open SwiftSsh.RustOutcome
open SwiftSsh.EventProgram
open SwiftSsh.WireTypes
open SwiftSsh.WireBuffer
open SwiftSsh.PacketCodec
open SwiftSsh.SftpProtocol
open SwiftSsh.SftpHandler
open SwiftSsh.ChannelMessages
open SwiftSsh.ChannelTable
open SwiftSsh.ServerLoop

/-- The messages that answer a message on a channel. -/
def answerTypes : List MessageType :=
  [.channelData, .channelEof, .channelClose, .channelSuccess, .channelFailure]

/-- A packet that answers on a channel: its payload starts with the number of it. -/
def ReplyTo (recipient : UInt32) (packet : SshPacket) : Prop :=
  ∃ msgType ∈ answerTypes, ∃ rest, packet = newPacket msgType (writeU32 recipient ++ rest)

/-- A packet that is sent, if the event is one, answers on the channel. -/
def EventTo (recipient : UInt32) (event : ServerEvent) : Prop :=
  ∀ packet, event = .sent packet → ReplyTo recipient packet

/-- The parts of the state that answering a message does not touch. -/
def SameChannels (before after : ServerState) : Prop :=
  after.channels = before.channels ∧ after.phase = before.phase

/-- An unknown channel is reported only when the lookup finds none. -/
def ReportsMissing (env : ServerEnv) (state : ServerState) (recipient : UInt32)
    (error : SshError) : Prop :=
  error = .channel "Unknown channel" →
    findByRemoteId env.order state.channels recipient = none

/-- Code that only answers on the channel with the given remote number. -/
def Answers {α : Type} (env : ServerEnv) (state : ServerState) (recipient : UInt32)
    (r : Ran ServerState ServerEvent SshError α) : Prop :=
  Within (EventTo recipient) (SameChannels state) (ReportsMissing env state recipient) r

variable {env : ServerEnv} {start state : ServerState} {recipient : UInt32}

theorem answers_send {packet : SshPacket} (hsame : SameChannels start state)
    (hreply : ReplyTo recipient packet) :
    Answers env start recipient (run (send packet) state) := by
  by_cases hfits : packetLength packet aesBlockSize ≤ maxPacketSize
  · rw [run_send_of_fits hfits]
    apply within_emit hsame
    intro other heq
    cases heq
    exact hreply
  · rw [run_send_of_too_large (Nat.lt_of_not_le hfits)]
    apply within_lift hsame
    intro error heq hunknown
    rw [hunknown] at heq
    cases heq

theorem answers_pure (hsame : SameChannels start state) :
    Answers env start recipient (run (pure () : ServerCode Unit) state) :=
  within_pure () hsame

theorem answers_sendWhen {wanted : Bool} {packet : SshPacket}
    (hsame : SameChannels start state) (hreply : ReplyTo recipient packet) :
    Answers env start recipient (run (sendWhen wanted packet) state) := by
  rw [sendWhen]
  split
  · exact answers_send hsame hreply
  · exact answers_pure hsame

theorem answers_lift_parse {α : Type} {reader : Cursor α} (hreader : RejectsInvalid reader)
    (payload : Bytes) (hsame : SameChannels start state) :
    Answers env start recipient (run (lift (parse reader payload) : ServerCode α) state) := by
  apply within_lift hsame
  intro error herr hunknown
  obtain ⟨message, rfl⟩ := parse_eq_err hreader herr
  cases hunknown

theorem answers_knownChannel (hsame : SameChannels start state) :
    Answers env start recipient (run (knownChannel env recipient) state) := by
  rw [knownChannel, run_getState_bind]
  split
  · exact within_pure _ hsame
  · rename_i hnone
    apply within_lift hsame
    intro error _ _
    rw [← hsame.1]
    exact hnone

theorem remoteId_of_knownChannel {channel : Channel}
    (hok : (run (knownChannel env recipient) state).outcome = .ok channel) :
    channel.remoteId = recipient := by
  rw [knownChannel, run_getState_bind] at hok
  split at hok
  · rename_i found hfound
    cases hok
    exact remoteId_of_findByRemoteId hfound
  · cases hok

theorem replyTo_newPacket {msgType : MessageType} (hmem : msgType ∈ answerTypes)
    (rest : Bytes) : ReplyTo recipient (newPacket msgType (writeU32 recipient ++ rest)) :=
  ⟨msgType, hmem, rest, rfl⟩

theorem replyTo_bare {msgType : MessageType} (hmem : msgType ∈ answerTypes) :
    ReplyTo recipient (newPacket msgType (writeU32 recipient)) :=
  ⟨msgType, hmem, [], by rw [List.append_nil]⟩

theorem answers_replyIfWanted {msg : ChannelRequestMsg} {answer : MessageType}
    (hsame : SameChannels start state) (hanswer : answer ∈ answerTypes) :
    Answers env start msg.recipientChannel (run (replyIfWanted env msg answer) state) := by
  rw [replyIfWanted]
  split
  · refine (answers_knownChannel hsame).bind fun channel later hok hlater => ?_
    rw [remoteId_of_knownChannel hok]
    exact answers_send hlater (replyTo_bare hanswer)
  · exact answers_pure hsame

theorem answers_executeCommand (command : String) (hsame : SameChannels start state) :
    Answers env start recipient (run (executeCommand env command) state) := by
  rw [executeCommand]
  have hemitted : EventTo recipient (.executed command) := by
    intro packet heq
    cases heq
  refine Within.bind (within_emit hsame hemitted) fun _ later _ hlater => ?_
  split
  · exact within_pure _ hlater
  · rw [run_getState_bind]
    refine Within.bind (within_modifyState hlater) fun _ last _ hlast => ?_
    exact within_pure _ hlast

theorem answers_serveExec {msg : ChannelRequestMsg} (hsame : SameChannels start state) :
    Answers env start msg.recipientChannel (run (serveExec env msg) state) := by
  rw [serveExec]
  refine (answers_lift_parse rejectsInvalid_readUtf8 _ hsame).bind fun command s₁ _ h₁ => ?_
  refine (answers_executeCommand command h₁).bind fun output s₂ _ h₂ => ?_
  refine (answers_knownChannel h₂).bind fun channel s₃ hok h₃ => ?_
  rw [remoteId_of_knownChannel hok]
  refine (answers_sendWhen h₃ (replyTo_bare (by decide))).bind fun _ s₄ _ h₄ => ?_
  refine (answers_send h₄ (replyTo_newPacket (by decide) _)).bind fun _ s₅ _ h₅ => ?_
  refine (answers_send h₅ (replyTo_bare (by decide))).bind fun _ s₆ _ h₆ => ?_
  exact answers_send h₆ (replyTo_bare (by decide))

theorem answers_serveSubsystem {msg : ChannelRequestMsg} (hsame : SameChannels start state) :
    Answers env start msg.recipientChannel (run (serveSubsystem env msg) state) := by
  rw [serveSubsystem]
  refine (answers_lift_parse rejectsInvalid_readUtf8 _ hsame).bind fun subsystem s₁ _ h₁ => ?_
  apply answers_replyIfWanted h₁
  split <;> decide

theorem answers_serveChannelRequest {payload : Bytes}
    (hrecipient : ∀ msg, ChannelRequestMsg.parse payload = .ok msg →
      msg.recipientChannel = recipient) (hsame : SameChannels start state) :
    Answers env start recipient (run (serveChannelRequest env payload) state) := by
  rw [serveChannelRequest]
  refine Within.bind (answers_lift_parse rejectsInvalid_readChannelRequest payload hsame)
    fun msg later hok hlater => ?_
  obtain rfl := hrecipient msg hok
  split
  · exact answers_serveExec hlater
  split
  · exact answers_replyIfWanted hlater (by decide)
  split
  · exact answers_serveSubsystem hlater
  split
  · exact answers_replyIfWanted hlater (by decide)
  · exact answers_replyIfWanted hlater (by decide)

theorem answers_serveSftp (request : SftpPacket) (hsame : SameChannels start state) :
    Answers env start recipient (run (serveSftp env recipient request) state) := by
  rw [serveSftp]
  have hemitted : EventTo recipient (.handled request) := by
    intro packet heq
    cases heq
  refine Within.bind (within_emit hsame hemitted) fun _ s₁ _ h₁ => ?_
  rw [run_getState_bind]
  refine Within.bind (within_modifyState h₁) fun _ s₂ _ h₂ => ?_
  refine (answers_knownChannel h₂).bind fun channel s₃ hok h₃ => ?_
  rw [remoteId_of_knownChannel hok]
  exact answers_send h₃ (replyTo_newPacket (by decide) _)

theorem answers_serveChannelData {payload : Bytes}
    (hrecipient : ∀ msg, ChannelDataMsg.parse payload = .ok msg →
      msg.recipientChannel = recipient) (hsame : SameChannels start state) :
    Answers env start recipient (run (serveChannelData env payload) state) := by
  rw [serveChannelData]
  refine Within.bind (answers_lift_parse rejectsInvalid_readChannelData payload hsame)
    fun msg later hok hlater => ?_
  obtain rfl := hrecipient msg hok
  split
  · exact answers_serveSftp _ hlater
  · exact answers_pure hlater

theorem answers_serveClose {payload : Bytes}
    (hrecipient : ∀ named, parse readU32 payload = .ok named → named = recipient)
    (hsame : SameChannels start state) :
    Answers env start recipient (run (serveClose env payload) state) := by
  rw [serveClose]
  refine Within.bind (answers_lift_parse rejectsInvalid_readU32 payload hsame)
    fun named later hok hlater => ?_
  obtain rfl := hrecipient named hok
  rw [run_getState_bind]
  split
  · rename_i channel hfound
    rw [remoteId_of_findByRemoteId hfound]
    exact answers_sendWhen hlater (replyTo_bare (by decide))
  · exact answers_pure hlater

theorem run_serveChannelOpen {payload : Bytes} {msg : ChannelOpenMsg}
    (hparse : ChannelOpenMsg.parse payload = .ok msg) :
    run (serveChannelOpen payload) state =
      ⟨[.sent (buildChannelOpenConfirmation msg.senderChannel state.channels.nextId
          defaultWindowSize defaultMaxPacketSize)],
        { state with
          channels := (acceptChannel state.channels msg.senderChannel msg.channelType
            msg.initialWindow msg.maxPacket).2 }, .ok ()⟩ := by
  have hfits : packetLength (buildChannelOpenConfirmation msg.senderChannel
      state.channels.nextId defaultWindowSize defaultMaxPacketSize) aesBlockSize ≤
        maxPacketSize := by
    apply fits_of_length_le
    change 16 + 21 ≤ maxPacketSize
    decide
  rw [serveChannelOpen, hparse, run_lift_ok_bind, run_getState_bind]
  dsimp only
  rw [run_modifyState_bind]
  exact run_send_of_fits hfits

theorem exists_recipient {α : Type} (parsed : Outcome SshError α) (named : α → UInt32) :
    ∃ recipient, ∀ value, parsed = .ok value → named value = recipient := by
  cases parsed with
  | ok value =>
      refine ⟨named value, ?_⟩
      rintro other ⟨⟩
      rfl
  | err error =>
      refine ⟨0, ?_⟩
      rintro value ⟨⟩
  | panic =>
      refine ⟨0, ?_⟩
      rintro value ⟨⟩

/-- A CHANNEL_OPEN that parses. -/
def Opens (pkt : SshPacket) (msg : ChannelOpenMsg) : Prop :=
  MessageType.fromU8 pkt.msgType = some .channelOpen ∧
    ChannelOpenMsg.parse pkt.payload = .ok msg

theorem not_opens_of_type {pkt : SshPacket} {msgType : MessageType}
    (htype : MessageType.fromU8 pkt.msgType = some msgType) (hne : msgType ≠ .channelOpen)
    (msg : ChannelOpenMsg) : ¬Opens pkt msg := by
  rintro ⟨hopen, -⟩
  exact hne (Option.some.inj (htype.symm.trans hopen))

/-- The round changes the channel that is found under some number, but not the
number. -/
def ChangesFound (env : ServerEnv) (state : ServerState)
    (r : Ran ServerState ServerEvent SshError Unit) : Prop :=
  ∃ recipient change, (∀ channel : Channel, (change channel).remoteId = channel.remoteId) ∧
    r = ⟨[], { state with
      channels := updateByRemoteId env.order state.channels recipient change }, .ok ()⟩

/-- A message that cannot be read is answered by nothing. -/
theorem answers_unread {α : Type} {reader : Cursor α} (hreader : RejectsInvalid reader)
    {payload : Bytes} (hunread : ¬∃ value, parse reader payload = .ok value)
    (next : α → ServerCode Unit) :
    Answers env state recipient (run (lift (parse reader payload) >>= next) state) := by
  refine (answers_lift_parse hreader payload ⟨rfl, rfl⟩).bind fun value later hok hlater => ?_
  exact absurd ⟨value, hok⟩ hunread

theorem serveWindowAdjust_cases (payload : Bytes) :
    ChangesFound env state (run (serveWindowAdjust env payload) state) ∨
      ∃ recipient, Answers env state recipient (run (serveWindowAdjust env payload) state) := by
  by_cases hread : ∃ fields, parse readWindowAdjust payload = .ok fields
  · obtain ⟨⟨recipient, bytesToAdd⟩, hfields⟩ := hread
    refine .inl ⟨recipient, widenRemoteWindow bytesToAdd, fun _ => rfl, ?_⟩
    rw [serveWindowAdjust, hfields]
    rfl
  · exact .inr ⟨0, answers_unread rejectsInvalid_readWindowAdjust hread _⟩

theorem serveEof_cases (payload : Bytes) :
    ChangesFound env state (run (serveEof env payload) state) ∨
      ∃ recipient, Answers env state recipient (run (serveEof env payload) state) := by
  by_cases hread : ∃ recipient, parse readU32 payload = .ok recipient
  · obtain ⟨recipient, hrecipient⟩ := hread
    refine .inl ⟨recipient, markEofReceived, fun _ => rfl, ?_⟩
    rw [serveEof, hrecipient]
    rfl
  · exact .inr ⟨0, answers_unread rejectsInvalid_readU32 hread _⟩

theorem serveChannelOpen_cases (payload : Bytes) :
    (∃ msg, ChannelOpenMsg.parse payload = .ok msg ∧
      run (serveChannelOpen payload) state =
        ⟨[.sent (buildChannelOpenConfirmation msg.senderChannel state.channels.nextId
            defaultWindowSize defaultMaxPacketSize)],
          { state with
            channels := (acceptChannel state.channels msg.senderChannel msg.channelType
              msg.initialWindow msg.maxPacket).2 }, .ok ()⟩) ∨
      ((∀ msg, ChannelOpenMsg.parse payload ≠ .ok msg) ∧
        ∃ recipient, Answers env state recipient (run (serveChannelOpen payload) state)) := by
  by_cases hread : ∃ msg, ChannelOpenMsg.parse payload = .ok msg
  · obtain ⟨msg, hmsg⟩ := hread
    exact .inl ⟨msg, hmsg, run_serveChannelOpen hmsg⟩
  · refine .inr ⟨fun msg hmsg => hread ⟨msg, hmsg⟩, 0, ?_⟩
    exact answers_unread rejectsInvalid_readChannelOpen hread _

/-- What a round of the channel loop can do. -/
theorem serveChannelMessage_cases (env : ServerEnv) (state : ServerState) (pkt : SshPacket) :
    (∃ msg, Opens pkt msg ∧
      run (serveChannelMessage env pkt) state =
        ⟨[.sent (buildChannelOpenConfirmation msg.senderChannel state.channels.nextId
            defaultWindowSize defaultMaxPacketSize)],
          { state with
            channels := (acceptChannel state.channels msg.senderChannel msg.channelType
              msg.initialWindow msg.maxPacket).2 }, .ok ()⟩) ∨
    ((∀ msg, ¬Opens pkt msg) ∧
      ((∃ recipient, Answers env state recipient (run (serveChannelMessage env pkt) state)) ∨
        ChangesFound env state (run (serveChannelMessage env pkt) state) ∨
        run (serveChannelMessage env pkt) state =
          ⟨[], { state with phase := .finished }, .ok ()⟩)) := by
  have hsame : SameChannels state state := ⟨rfl, rfl⟩
  rw [serveChannelMessage]
  split
  · rename_i htype
    rcases @serveChannelOpen_cases env state pkt.payload with
      ⟨msg, hmsg, hrun⟩ | ⟨hunread, hanswers⟩
    · exact .inl ⟨msg, ⟨htype, hmsg⟩, hrun⟩
    · exact .inr ⟨fun msg hopens => hunread msg hopens.2, .inl hanswers⟩
  · rename_i htype
    obtain ⟨recipient, hnamed⟩ := exists_recipient (ChannelRequestMsg.parse pkt.payload)
      ChannelRequestMsg.recipientChannel
    exact .inr ⟨not_opens_of_type htype (by decide),
      .inl ⟨recipient, answers_serveChannelRequest hnamed hsame⟩⟩
  · rename_i htype
    obtain ⟨recipient, hnamed⟩ := exists_recipient (ChannelDataMsg.parse pkt.payload)
      ChannelDataMsg.recipientChannel
    exact .inr ⟨not_opens_of_type htype (by decide),
      .inl ⟨recipient, answers_serveChannelData hnamed hsame⟩⟩
  · rename_i htype
    refine .inr ⟨not_opens_of_type htype (by decide), ?_⟩
    rcases @serveWindowAdjust_cases env state pkt.payload with hchanges | hanswers
    · exact .inr (.inl hchanges)
    · exact .inl hanswers
  · rename_i htype
    refine .inr ⟨not_opens_of_type htype (by decide), ?_⟩
    rcases @serveEof_cases env state pkt.payload with hchanges | hanswers
    · exact .inr (.inl hchanges)
    · exact .inl hanswers
  · rename_i htype
    obtain ⟨recipient, hnamed⟩ := exists_recipient (parse readU32 pkt.payload) id
    exact .inr ⟨not_opens_of_type htype (by decide),
      .inl ⟨recipient, answers_serveClose hnamed hsame⟩⟩
  · rename_i htype
    exact .inr ⟨not_opens_of_type htype (by decide), .inr (.inr rfl)⟩
  · rename_i hopen _ _ _ _ _ _
    exact .inr ⟨fun msg hopens => hopen hopens.1, .inl ⟨0, answers_pure hsame⟩⟩

end SwiftSsh.ChannelReplies
