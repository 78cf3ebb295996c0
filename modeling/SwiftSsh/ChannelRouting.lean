import SwiftSsh.AuthenticationGate

/-!
Which channel a message acts on. The server announces its own number of a channel
when it confirms the opening; the client uses that number in later messages.
-/

namespace SwiftSsh.ChannelRouting

open SwiftSsh.ByteWords
open SwiftSsh.RustOutcome
open SwiftSsh.EventProgram
open SwiftSsh.WireTypes
open SwiftSsh.WireBuffer
open SwiftSsh.PacketCodec
open SwiftSsh.FileSystem
open SwiftSsh.SftpPaths
open SwiftSsh.UserAuth
open SwiftSsh.ChannelMessages
open SwiftSsh.ChannelTable
open SwiftSsh.ServerLoop
open SwiftSsh.ChannelReplies
open SwiftSsh.AuthenticationGate

/-- The number that the sender of CHANNEL_OPEN chose. -/
def openSender : Received → Option UInt32
  | .ok pkt =>
      if MessageType.fromU8 pkt.msgType = some .channelOpen then
        (ChannelOpenMsg.parse pkt.payload).toOption.map ChannelOpenMsg.senderChannel
      else none
  | .error _ => none

/-- The numbers that a client has chosen for its channels, in order. -/
def openSenders (received : List Received) : List UInt32 :=
  received.filterMap openSender

/-- The two numbers at the start of a CHANNEL_OPEN_CONFIRMATION. -/
def readAnnouncement : Cursor (UInt32 × UInt32) := do
  let recipientChannel ← readU32
  let senderChannel ← readU32
  return (recipientChannel, senderChannel)

/-- The client's and the server's number in a CHANNEL_OPEN_CONFIRMATION. -/
def announcement : ServerEvent → Option (UInt32 × UInt32)
  | .sent packet =>
      if packet.msgType = MessageType.channelOpenConfirmation.toU8 then
        (parse readAnnouncement packet.payload).toOption
      else none
  | _ => none

/-- The announcements among some events. -/
def announcements (events : List ServerEvent) : List (UInt32 × UInt32) :=
  events.filterMap announcement

/-- The recipient of a message on a channel. -/
def recipientOf (pkt : SshPacket) : Option UInt32 :=
  match MessageType.fromU8 pkt.msgType with
  | some .channelRequest =>
      (ChannelRequestMsg.parse pkt.payload).toOption.map ChannelRequestMsg.recipientChannel
  | some .channelData =>
      (ChannelDataMsg.parse pkt.payload).toOption.map ChannelDataMsg.recipientChannel
  | some .channelWindowAdjust => (parse readU32 pkt.payload).toOption
  | some .channelEof => (parse readU32 pkt.payload).toOption
  | some .channelClose => (parse readU32 pkt.payload).toOption
  | _ => none

/-- What a message changes in its channel. -/
def expectedChange (pkt : SshPacket) : Channel → Channel :=
  match MessageType.fromU8 pkt.msgType with
  | some .channelWindowAdjust =>
      match parse readWindowAdjust pkt.payload with
      | .ok (_, bytesToAdd) => widenRemoteWindow bytesToAdd
      | _ => id
  | some .channelEof => markEofReceived
  | _ => id

/-- The channel that a packet of the server is addressed to. -/
def addressee (packet : SshPacket) : Option UInt32 :=
  (parse readU32 packet.payload).toOption

/-- The round acts on the channel with the given numbers and on no other. -/
structure ActsOnlyOn (before : ServerState) (pkt : SshPacket) (sender localId : UInt32)
    (r : Ran ServerState ServerEvent SshError Unit) : Prop where
  others : ∀ id, id ≠ localId → r.state.channels.get id = before.channels.get id
  target : ∃ channel, before.channels.get localId = some channel ∧
    r.state.channels.get localId = some (expectedChange pkt channel)
  replies : ∀ packet, .sent packet ∈ r.events → addressee packet = some sender
  known : r.outcome ≠ .err (.channel "Unknown channel")

/-- Messages on the announced channels act on these channels, and no other message changes the
table. -/
structure Routes (env : ServerEnv) (state : ServerState)
    (announced : List (UInt32 × UInt32)) : Prop where
  toAnnounced : ∀ (k : Nat) sender localId, announced[k]? = some (sender, localId) →
    ∀ pkt, recipientOf pkt = some localId →
      ActsOnlyOn state pkt sender localId (run (receive env (.ok pkt)) state)
  toUnannounced : ∀ pkt recipient, recipientOf pkt = some recipient →
    (∀ numbers ∈ announced, numbers.2 ≠ recipient) →
    (run (receive env (.ok pkt)) state).state.channels = state.channels

/-- The announcements for channels opened one after another. -/
def numbered (senders : List UInt32) : List (UInt32 × UInt32) :=
  senders.mapIdx fun k sender => (sender, UInt32.ofNat k)

variable {env : ServerEnv} {state later : ServerState}

theorem openSender_of_type {pkt : SshPacket} {msgType : MessageType}
    (htype : pkt.msgType = msgType.toU8) (hne : msgType ≠ .channelOpen) :
    openSender (.ok pkt) = none := by
  rw [openSender, htype, fromU8_toU8, if_neg]
  intro heq
  cases heq
  exact hne rfl

theorem announcement_of_replyTo {recipient : UInt32} {event : ServerEvent}
    (hevent : EventTo recipient event) : announcement event = none := by
  cases event with
  | sent packet =>
      obtain ⟨msgType, hmem, rest, rfl⟩ := hevent packet rfl
      rw [announcement, if_neg]
      intro heq
      obtain rfl := toU8_injective heq
      revert hmem
      decide
  | executed command => rfl
  | handled request => rfl

theorem announcements_of_answers {recipient : UInt32}
    {r : Ran ServerState ServerEvent SshError Unit} (hanswers : Answers env state recipient r) :
    announcements r.events = [] := by
  rw [announcements, List.filterMap_eq_nil_iff]
  intro event hmem
  exact announcement_of_replyTo (hanswers.events event hmem)

theorem announcement_confirmation (sender localId window maxPacket : UInt32) :
    announcement (.sent (buildChannelOpenConfirmation sender localId window maxPacket)) =
      some (sender, localId) := by
  have hread : readAnnouncement (writeU32 sender ++ writeU32 localId ++ writeU32 window ++
      writeU32 maxPacket) = .ok ((sender, localId), writeU32 window ++ writeU32 maxPacket) := by
    rw [List.append_assoc, List.append_assoc, readAnnouncement,
      cursor_bind_ok _ (readU32_writeU32 _ _), cursor_bind_ok _ (readU32_writeU32 _ _),
      cursor_pure]
  have htype : (buildChannelOpenConfirmation sender localId window maxPacket).msgType =
      MessageType.channelOpenConfirmation.toU8 := rfl
  rw [announcement, if_pos htype]
  exact congrArg Outcome.toOption (parse_eq_ok hread)

/-- A round that opens no channel. -/
structure Unopened (item : Received) (before : ServerState) (more : List ServerEvent)
    (later : ServerState) : Prop where
  item : openSender item = none
  events : announcements more = []
  channels : ∀ senders, OpenedBy senders before.channels → OpenedBy senders later.channels

theorem openSender_of_opens {pkt : SshPacket} {msg : ChannelOpenMsg}
    (hopens : Opens pkt msg) : openSender (.ok pkt) = some msg.senderChannel := by
  rw [openSender, if_pos hopens.1, hopens.2]
  rfl

theorem openSender_of_not_opens {pkt : SshPacket} (hopens : ∀ msg, ¬Opens pkt msg) :
    openSender (.ok pkt) = none := by
  rw [openSender]
  split
  · rename_i htype
    cases hparse : ChannelOpenMsg.parse pkt.payload with
    | ok msg => exact absurd ⟨htype, hparse⟩ (hopens msg)
    | err error => rfl
    | panic => rfl
  · rfl

theorem serveChannelMessage_opened {pkt : SshPacket} {more : List ServerEvent}
    (hrun : run (serveChannelMessage env pkt) state = ⟨more, later, .ok ()⟩)
    (hphase : later.phase ≠ .finished) :
    (∃ msg : ChannelOpenMsg, openSender (.ok pkt) = some msg.senderChannel ∧
      more = [.sent (buildChannelOpenConfirmation msg.senderChannel state.channels.nextId
        defaultWindowSize defaultMaxPacketSize)] ∧
      later.channels = (acceptChannel state.channels msg.senderChannel msg.channelType
        msg.initialWindow msg.maxPacket).2) ∨
    Unopened (.ok pkt) state more later := by
  rcases serveChannelMessage_cases env state pkt with
    ⟨msg, hopens, hserved⟩ |
      ⟨hopens, ⟨recipient, hanswers⟩ | ⟨recipient, change, hchange, hserved⟩ | hserved⟩
  · rw [hserved] at hrun
    cases hrun
    exact .inl ⟨msg, openSender_of_opens hopens, rfl, rfl⟩
  · rw [hrun] at hanswers
    have hsame : later.channels = state.channels := hanswers.state.1
    refine .inr ⟨openSender_of_not_opens hopens, announcements_of_answers hanswers, ?_⟩
    rw [hsame]
    exact fun _ hopened => hopened
  · rw [hserved] at hrun
    cases hrun
    exact .inr ⟨openSender_of_not_opens hopens, rfl, fun _ hopened => hopened.update hchange⟩
  · rw [hserved] at hrun
    cases hrun
    exact absurd rfl hphase

theorem receive_opened {item : Received} {more : List ServerEvent}
    (hrun : run (receive env item) state = ⟨more, later, .ok ()⟩)
    (hphase : later.phase ≠ .finished) :
    (∃ msg : ChannelOpenMsg, openSender item = some msg.senderChannel ∧
      more = [.sent (buildChannelOpenConfirmation msg.senderChannel state.channels.nextId
        defaultWindowSize defaultMaxPacketSize)] ∧
      later.channels = (acceptChannel state.channels msg.senderChannel msg.channelType
        msg.initialWindow msg.maxPacket).2) ∨
    Unopened item state more later := by
  cases item with
  | error error =>
      obtain ⟨hevents, hchannels, -⟩ := @run_receive_error env state error
      rw [hrun] at hevents hchannels
      dsimp only at hevents hchannels
      subst hevents
      refine .inr ⟨rfl, rfl, fun _ hopened => ?_⟩
      rw [hchannels]
      exact hopened
  | ok pkt =>
      cases hbefore : state.phase with
      | serviceRequest =>
          rw [run_receive_serviceRequest hbefore] at hrun
          have hwithin := within_serveServiceRequest hbefore pkt
          rw [hrun] at hwithin
          have hchannels : later.channels = state.channels := hwithin.state.1
          refine .inr ⟨?_, ?_, fun _ hopened => hchannels ▸ hopened⟩
          · rw [serveServiceRequest] at hrun
            split at hrun
            · cases hrun
            · rename_i htype
              exact openSender_of_type (not_not.mp htype) (by decide)
          · rw [announcements, List.filterMap_eq_nil_iff]
            intro event hmem
            obtain ⟨packet, rfl, htype⟩ := hwithin.events event hmem
            rw [announcement, htype]
            rfl
      | authentication =>
          rw [run_receive_authentication hbefore] at hrun
          rcases serveAuthRequest_cases env state pkt with
            ⟨request, hrequest, -, hserved⟩ | ⟨request, hrequest, -, hserved⟩ |
              ⟨outcome, hfailed, hserved⟩
          · rw [hserved] at hrun
            cases hrun
            exact .inr ⟨openSender_of_type hrequest.1 (by decide), rfl, fun _ hopened => hopened⟩
          · rw [hserved] at hrun
            cases hrun
            exact .inr ⟨openSender_of_type hrequest.1 (by decide), rfl, fun _ hopened => hopened⟩
          · rw [hserved] at hrun
            cases hrun
            exact absurd rfl hfailed
      | channels =>
          rw [run_receive_channels hbefore] at hrun
          exact serveChannelMessage_opened hrun hphase
      | finished =>
          rw [run_receive_finished hbefore] at hrun
          cases hrun
          exact absurd hbefore hphase

theorem openSenders_concat (served : List Received) (item : Received) :
    openSenders (served ++ [item]) = openSenders served ++ (openSender item).toList := by
  rw [openSenders, List.filterMap_append]
  cases hsender : openSender item <;> simp [openSenders, hsender]

theorem phase_ne_finished_of_receive {item : Received} {more : List ServerEvent}
    (hrun : run (receive env item) state = ⟨more, later, .ok ()⟩)
    (hphase : later.phase ≠ .finished) : state.phase ≠ .finished := by
  intro hbefore
  rw [run_receive_finished hbefore] at hrun
  cases hrun
  exact hphase hbefore

/-- The channel table and the announcements after any run. -/
theorem opened_of_run {world : World Name} {received : List Received}
    {events : List ServerEvent}
    (hrun : run (handleConnection env received) (connected env world) =
      ⟨events, state, .ok ()⟩) (hphase : state.phase ≠ .finished) :
    announcements events = numbered (openSenders received) ∧
      OpenedBy (openSenders received) state.channels := by
  have hinduction := @forEach_induction ServerState ServerEvent SshError Received (receive env)
    (fun served events state => state.phase ≠ .finished →
      announcements events = numbered (openSenders served) ∧
        OpenedBy (openSenders served) state.channels)
    (connected env world) (fun _ => ⟨rfl, openedBy_new⟩)
  refine hinduction ?_ hrun hphase
  intro served events state item more later hserved hround hlater
  obtain ⟨hannounced, hopened⟩ := hserved (phase_ne_finished_of_receive hround hlater)
  rw [openSenders_concat, announcements, List.filterMap_append]
  change announcements events ++ announcements more = _ ∧ _
  rcases receive_opened hround hlater with ⟨msg, hsender, hmore, hchannels⟩ | hunopened
  · -- The channel gets the next local number, which is the number of channels so far.
    have hmoreAnnounced : announcements more =
        [(msg.senderChannel, UInt32.ofNat (openSenders served).length)] := by
      rw [hmore, announcements, List.filterMap_cons, announcement_confirmation,
        List.filterMap_nil, hopened.nextId]
    rw [hsender, Option.toList_some, hannounced, hmoreAnnounced]
    refine ⟨?_, ?_⟩
    · rw [numbered, numbered, List.mapIdx_concat]
    · rw [hchannels]
      exact hopened.accept _ _ _ _
  · rw [hunopened.item, Option.toList_none, List.append_nil, hunopened.events,
      List.append_nil]
    exact ⟨hannounced, hunopened.channels _ hopened⟩

/-- A message is directed to the channel whose remote number is its recipient. -/
structure Directed (env : ServerEnv) (before : ServerState) (pkt : SshPacket)
    (recipient : UInt32) (r : Ran ServerState ServerEvent SshError Unit) : Prop where
  channels : (r.state.channels = before.channels ∧ expectedChange pkt = id) ∨
    r.state.channels =
      updateByRemoteId env.order before.channels recipient (expectedChange pkt)
  replies : ∀ packet, .sent packet ∈ r.events → addressee packet = some recipient
  unknown : r.outcome = .err (.channel "Unknown channel") →
    findByRemoteId env.order before.channels recipient = none

theorem addressee_of_replyTo {recipient : UInt32} {packet : SshPacket}
    (hreply : ReplyTo recipient packet) : addressee packet = some recipient := by
  obtain ⟨msgType, -, rest, rfl⟩ := hreply
  rw [addressee, newPacket, parse_eq_ok (readU32_writeU32 recipient rest)]
  rfl

theorem directed_of_answers {pkt : SshPacket} {recipient : UInt32}
    {r : Ran ServerState ServerEvent SshError Unit}
    (hanswers : Answers env state recipient r) (hchange : expectedChange pkt = id) :
    Directed env state pkt recipient r := by
  refine ⟨.inl ⟨hanswers.state.1, hchange⟩, ?_, ?_⟩
  · intro packet hmem
    exact addressee_of_replyTo (hanswers.events _ hmem packet rfl)
  · intro herr
    exact hanswers.failure _ herr rfl

theorem directed_of_change {pkt : SshPacket} {recipient : UInt32}
    {r : Ran ServerState ServerEvent SshError Unit}
    (hchannels : (r.state.channels = state.channels ∧ expectedChange pkt = id) ∨
      r.state.channels =
        updateByRemoteId env.order state.channels recipient (expectedChange pkt))
    (hevents : r.events = []) (hknown : r.outcome ≠ .err (.channel "Unknown channel")) :
    Directed env state pkt recipient r := by
  refine ⟨hchannels, ?_, ?_⟩
  · intro packet hmem
    rw [hevents] at hmem
    cases hmem
  · intro herr
    exact absurd herr hknown

theorem named_of_toOption {α : Type} {parsed : Outcome SshError α} {named : α → UInt32}
    {recipient : UInt32} (hsome : parsed.toOption.map named = some recipient) :
    ∀ value, parsed = .ok value → named value = recipient := by
  rintro value rfl
  exact Option.some.inj hsome

theorem eq_ok_of_toOption {α : Type} {parsed : Outcome SshError α} {value : α}
    (hsome : parsed.toOption = some value) : parsed = .ok value := by
  cases parsed with
  | ok found => rw [Option.some.inj hsome]
  | err error => cases hsome
  | panic => cases hsome

theorem parse_readU32_of_readWindowAdjust {payload : Bytes} {recipient bytesToAdd : UInt32}
    (hparse : parse readWindowAdjust payload = .ok (recipient, bytesToAdd)) :
    parse readU32 payload = .ok recipient := by
  rw [parse, readWindowAdjust, cursor_bind] at hparse
  rw [parse]
  cases hfirst : readU32 payload with
  | ok first =>
      rw [hfirst, Outcome.ok_bind, cursor_bind] at hparse
      cases hsecond : readU32 first.2 with
      | ok second =>
          rw [hsecond] at hparse
          cases hparse
          rfl
      | err error =>
          rw [hsecond] at hparse
          cases hparse
      | panic =>
          rw [hsecond] at hparse
          cases hparse
  | err error =>
      rw [hfirst] at hparse
      cases hparse
  | panic =>
      rw [hfirst] at hparse
      cases hparse

theorem directed_serveWindowAdjust {pkt : SshPacket} {recipient : UInt32}
    (htype : MessageType.fromU8 pkt.msgType = some .channelWindowAdjust)
    (hnamed : parse readU32 pkt.payload = .ok recipient) :
    Directed env state pkt recipient (run (serveWindowAdjust env pkt.payload) state) := by
  cases hparse : parse readWindowAdjust pkt.payload with
  | ok fields =>
      obtain ⟨named, bytesToAdd⟩ := fields
      cases hnamed.symm.trans (parse_readU32_of_readWindowAdjust hparse)
      have hchange : expectedChange pkt = widenRemoteWindow bytesToAdd := by
        rw [expectedChange, htype]
        dsimp only
        rw [hparse]
      rw [serveWindowAdjust, hparse]
      refine directed_of_change (.inr ?_) rfl ?_
      · rw [hchange]
        rfl
      · intro herr
        cases herr
  | err error =>
      have hchange : expectedChange pkt = id := by
        rw [expectedChange, htype]
        dsimp only
        rw [hparse]
      rw [serveWindowAdjust, hparse]
      refine directed_of_change (.inl ⟨rfl, hchange⟩) rfl ?_
      intro herr
      obtain ⟨message, rfl⟩ := parse_eq_err rejectsInvalid_readWindowAdjust hparse
      cases herr
  | panic =>
      have hchange : expectedChange pkt = id := by
        rw [expectedChange, htype]
        dsimp only
        rw [hparse]
      rw [serveWindowAdjust, hparse]
      refine directed_of_change (.inl ⟨rfl, hchange⟩) rfl ?_
      intro herr
      cases herr

theorem directed_receive {pkt : SshPacket} {recipient : UInt32}
    (hphase : state.phase = .channels) (hrecipient : recipientOf pkt = some recipient) :
    Directed env state pkt recipient (run (receive env (.ok pkt)) state) := by
  have hsame : SameChannels state state := ⟨rfl, rfl⟩
  rw [run_receive_channels hphase, serveChannelMessage]
  rw [recipientOf] at hrecipient
  split at hrecipient
  · rename_i htype
    rw [htype]
    refine directed_of_answers
      (answers_serveChannelRequest (named_of_toOption hrecipient) hsame) ?_
    rw [expectedChange, htype]
  · rename_i htype
    rw [htype]
    refine directed_of_answers
      (answers_serveChannelData (named_of_toOption hrecipient) hsame) ?_
    rw [expectedChange, htype]
  · rename_i htype
    rw [htype]
    exact directed_serveWindowAdjust htype (eq_ok_of_toOption hrecipient)
  · rename_i htype
    rw [htype]
    dsimp only
    rw [serveEof, eq_ok_of_toOption hrecipient]
    refine directed_of_change (.inr ?_) rfl ?_
    · rw [expectedChange, htype]
      rfl
    · intro herr
      cases herr
  · rename_i htype
    rw [htype]
    have hnamed := eq_ok_of_toOption hrecipient
    refine directed_of_answers (answers_serveClose ?_ hsame) ?_
    · intro named hother
      cases hnamed.symm.trans hother
      rfl
    · rw [expectedChange, htype]
  · cases hrecipient

theorem Directed.get_of_inStep {before : ServerState} {pkt : SshPacket} {recipient : UInt32}
    {r : Ran ServerState ServerEvent SshError Unit}
    (hdirected : Directed env before pkt recipient r) (hstep : InStep before.channels)
    (localId : UInt32) :
    r.state.channels.get localId =
      if localId = recipient then (before.channels.get localId).map (expectedChange pkt)
      else before.channels.get localId := by
  rcases hdirected.channels with ⟨hsame, hchange⟩ | hupdated
  · rw [hsame, hchange, Option.map_id, id, ite_self]
  · rw [hupdated, get_updateByRemoteId_of_inStep hstep]

theorem getElem?_numbered {senders : List UInt32} {k : Nat} {sender localId : UInt32} :
    (numbered senders)[k]? = some (sender, localId) ↔
      senders[k]? = some sender ∧ localId = UInt32.ofNat k := by
  rw [numbered, List.getElem?_mapIdx, Option.map_eq_some_iff]
  constructor
  · rintro ⟨found, hfound, heq⟩
    cases heq
    exact ⟨hfound, rfl⟩
  · rintro ⟨hsender, rfl⟩
    exact ⟨sender, hsender, rfl⟩

/-- Where both sides use the same numbers, messages reach their channels. -/
theorem routes_of_senders {senders : List UInt32} (hphase : state.phase = .channels)
    (hopened : OpenedBy senders state.channels)
    (hsenders : ∀ (k : Nat) sender, senders[k]? = some sender → sender = UInt32.ofNat k) :
    Routes env state (numbered senders) := by
  have hstep := hopened.inStep hsenders
  constructor
  · intro k sender localId hnumbers pkt hrecipient
    obtain ⟨hsender, rfl⟩ := getElem?_numbered.mp hnumbers
    obtain rfl := hsenders k sender hsender
    have hk : k < senders.length := (List.getElem?_eq_some_iff.mp hsender).1
    obtain ⟨channel, hchannel⟩ := hopened.present k hk
    have hdirected := @directed_receive env state pkt _ hphase hrecipient
    constructor
    · intro id hne
      rw [hdirected.get_of_inStep hstep, if_neg hne]
    · refine ⟨channel, hchannel, ?_⟩
      rw [hdirected.get_of_inStep hstep, if_pos rfl, hchannel, Option.map_some]
    · exact hdirected.replies
    · intro herr
      have hmissing := hdirected.unknown herr
      rw [findByRemoteId_of_inStep hstep, hchannel] at hmissing
      cases hmissing
  · intro pkt recipient hrecipient hnever
    have hdirected := @directed_receive env state pkt _ hphase hrecipient
    have hmissing : findEntry env.order state.channels recipient = none := by
      rw [findEntry_eq_none]
      intro localId channel hget hremote
      obtain ⟨k, hlocal, hsender⟩ := hopened.stored localId channel hget
      refine hnever (channel.remoteId, localId) ?_ ?_
      · exact List.mem_of_getElem? (getElem?_numbered.mpr ⟨hsender, hlocal⟩)
      · exact (hstep localId channel hget).symm.trans hremote
    rcases hdirected.channels with ⟨hsame, -⟩ | hupdated
    · exact hsame
    · rw [hupdated, updateByRemoteId_of_none hmissing]

/-- A shell request is answered under the number it carries, if at all. -/
theorem receive_buildShellRequest (hphase : state.phase = .channels) (recipient : UInt32) :
    (run (receive env (.ok (buildShellRequest recipient true))) state).outcome =
        .err (.channel "Unknown channel") ∨
      ∃ packet, .sent packet ∈
          (run (receive env (.ok (buildShellRequest recipient true))) state).events ∧
        addressee packet = some recipient := by
  have htype : MessageType.fromU8 (buildShellRequest recipient true).msgType =
      some .channelRequest := rfl
  rw [run_receive_channels hphase, serveChannelMessage, htype]
  dsimp only
  rw [serveChannelRequest, parse_buildShellRequest, run_lift_ok_bind]
  dsimp only
  rw [if_neg (by decide), if_pos rfl, replyIfWanted, if_pos rfl]
  cases hfind : findByRemoteId env.order state.channels recipient with
  | none =>
      refine .inl ?_
      rw [run_bind_err (run_knownChannel_of_missing hfind)]
  | some channel =>
      have hfits : packetLength (newPacket .channelSuccess (writeU32 channel.remoteId))
          aesBlockSize ≤ maxPacketSize := by
        apply fits_of_length_le
        change 4 + 21 ≤ maxPacketSize
        decide
      refine .inr ⟨newPacket .channelSuccess (writeU32 channel.remoteId), ?_, ?_⟩
      · rw [run_bind_ok (run_knownChannel_of_found hfind), run_send_of_fits hfits]
        exact List.mem_singleton_self _
      · rw [remoteId_of_findByRemoteId hfind]
        exact addressee_of_replyTo (replyTo_bare (by decide))

theorem sender_eq_of_routes {senders : List UInt32} (hphase : state.phase = .channels)
    (hroutes : Routes env state (numbered senders)) {k : Nat} {sender : UInt32}
    (hsender : senders[k]? = some sender) : sender = UInt32.ofNat k := by
  have hacts := hroutes.toAnnounced k sender (UInt32.ofNat k)
    (getElem?_numbered.mpr ⟨hsender, rfl⟩) (buildShellRequest (UInt32.ofNat k) true) (by
      rw [recipientOf]
      change (ChannelRequestMsg.parse (buildShellRequest _ true).payload).toOption.map _ = _
      rw [parse_buildShellRequest]
      rfl)
  rcases @receive_buildShellRequest env state hphase (UInt32.ofNat k) with
    hunknown | ⟨packet, hmem, haddressee⟩
  · exact absurd hunknown hacts.known
  · have hreply := hacts.replies packet hmem
    rw [haddressee] at hreply
    exact (Option.some.inj hreply).symm

/-- The loop looks channels up by the number that the client chose, so messages
reach their channels exactly when the client counts as the server does. -/
theorem routes_iff (env : ServerEnv) (world : World Name) (received : List Received)
    (events : List ServerEvent) (state : ServerState)
    (hrun : run (handleConnection env received) (connected env world) =
      ⟨events, state, .ok ()⟩) (hphase : state.phase = .channels) :
    announcements events = numbered (openSenders received) ∧
      (Routes env state (announcements events) ↔
        ∀ (k : Nat) sender, (openSenders received)[k]? = some sender →
          sender = UInt32.ofNat k) := by
  have hrunning : state.phase ≠ .finished := by
    rw [hphase]
    decide
  obtain ⟨hannounced, hopened⟩ := opened_of_run hrun hrunning
  refine ⟨hannounced, ?_⟩
  rw [hannounced]
  constructor
  · intro hroutes k sender hsender
    exact sender_eq_of_routes hphase hroutes hsender
  · intro hsenders
    exact routes_of_senders hphase hopened hsenders

/-- A client that opens channels under the given numbers. -/
def sampleOpens (senders : List UInt32) : List Received :=
  senders.map fun sender => .ok (buildChannelOpen "session" sender 2097152 32768)

theorem parse_sampleOpen (sender : UInt32) :
    ChannelOpenMsg.parse (buildChannelOpen "session" sender 2097152 32768).payload =
      .ok ⟨"session", sender, 2097152, 32768⟩ :=
  parse_buildChannelOpen _ _ _ (by decide +kernel)

theorem openSenders_sampleOpens (senders : List UInt32) :
    openSenders (sampleLogin ++ sampleOpens senders) = senders := by
  have hlogin : openSenders sampleLogin = [] := rfl
  rw [openSenders, List.filterMap_append]
  change openSenders sampleLogin ++ _ = _
  rw [hlogin, List.nil_append, sampleOpens, List.filterMap_map]
  have hsome : openSender ∘ (fun sender =>
      (.ok (buildChannelOpen "session" sender 2097152 32768) : Received)) = some := by
    funext sender
    change (ChannelOpenMsg.parse
      (buildChannelOpen "session" sender 2097152 32768).payload).toOption.map _ = _
    rw [parse_sampleOpen]
    rfl
  rw [hsome, List.filterMap_some]

theorem run_sampleOpens (senders : List UInt32) (hphase : state.phase = .channels) :
    ∃ events later, run (handleConnection env (sampleOpens senders)) state =
      ⟨events, later, .ok ()⟩ ∧ later.phase = .channels := by
  induction senders generalizing state with
  | nil => exact ⟨[], state, rfl, hphase⟩
  | cons sender senders ih =>
      have hopen : run (receive env (.ok (buildChannelOpen "session" sender 2097152 32768)))
          state = _ :=
        (run_receive_channels hphase _).trans (run_serveChannelOpen (parse_sampleOpen sender))
      obtain ⟨events, later, hrest, hlater⟩ := @ih { state with
        channels := (acceptChannel state.channels sender "session" 2097152 32768).2 } hphase
      have hwhole := run_forEach_cons_ok hopen (sampleOpens senders)
      rw [handleConnection] at hrest
      rw [hrest] at hwhole
      exact ⟨_, later, hwhole, hlater⟩

theorem run_sampleLogin_opens (senders : List UInt32) :
    ∃ events later, run (handleConnection sampleEnv (sampleLogin ++ sampleOpens senders))
      (connected sampleEnv sampleWorld) = ⟨events, later, .ok ()⟩ ∧ later.phase = .channels := by
  obtain ⟨events, later, hopens, hlater⟩ :=
    @run_sampleOpens sampleEnv sampleSession senders rfl
  have hwhole := @run_login_append sampleEnv rfl sampleWorld (sampleOpens senders)
  rw [show { connected sampleEnv sampleWorld with phase := .channels } = sampleSession from rfl,
    hopens] at hwhole
  exact ⟨_, later, hwhole, hlater⟩

/-- A client that counts from zero, as the bundled one does. -/
theorem routes_counting_client :
    ∃ events state, run (handleConnection sampleEnv (sampleLogin ++ sampleOpens [0, 1]))
      (connected sampleEnv sampleWorld) = ⟨events, state, .ok ()⟩ ∧
        Routes sampleEnv state (announcements events) := by
  obtain ⟨events, state, hrun, hphase⟩ := run_sampleLogin_opens [0, 1]
  refine ⟨events, state, hrun, ?_⟩
  refine (routes_iff _ _ _ _ _ hrun hphase).2.mpr ?_
  rw [openSenders_sampleOpens]
  intro k sender hsender
  match k, hsender with
  | 0, hsender => exact (Option.some.inj hsender).symm
  | 1, hsender => exact (Option.some.inj hsender).symm

/-- A client that numbers its two channels the other way round. -/
theorem swapped_numbers_misroute :
    ∃ events state, run (handleConnection sampleEnv (sampleLogin ++ sampleOpens [1, 0]))
      (connected sampleEnv sampleWorld) = ⟨events, state, .ok ()⟩ ∧
        state.phase = .channels ∧ ¬Routes sampleEnv state (announcements events) := by
  obtain ⟨events, state, hrun, hphase⟩ := run_sampleLogin_opens [1, 0]
  refine ⟨events, state, hrun, hphase, ?_⟩
  intro hroutes
  have hrunning : state.phase ≠ .finished := by
    rw [hphase]
    decide
  obtain ⟨hannounced, -⟩ := opened_of_run hrun hrunning
  rw [hannounced, openSenders_sampleOpens] at hroutes
  have hfirst := @sender_eq_of_routes sampleEnv state [1, 0] hphase hroutes 0 1 rfl
  revert hfirst
  decide

end SwiftSsh.ChannelRouting
