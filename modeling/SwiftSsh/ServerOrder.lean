import SwiftSsh.ServedConnection

namespace SwiftSsh.ServerOrder

open SwiftSsh.ByteWords
open SwiftSsh.RustOutcome
open SwiftSsh.EventProgram
open SwiftSsh.WireTypes
open SwiftSsh.WireBuffer
open SwiftSsh.PacketCodec
open SwiftSsh.FileSystem
open SwiftSsh.SftpPaths
open SwiftSsh.UserAuth
open SwiftSsh.ChannelMessages
open SwiftSsh.ChannelTable
open SwiftSsh.ServerLoop
open SwiftSsh.AuthenticationGate
open SwiftSsh.SftpFraming
open SwiftSsh.ChannelActions
open SwiftSsh.ServedConnection (sentPackets serverPacket)

/-- The packets among what a connection received. -/
def receivedPackets (received : List Received) : List SshPacket :=
  received.filterMap fun
    | .ok pkt => some pkt
    | .error _ => none

/-- The answer to an attempt whose credentials are not accepted. -/
def refusal : SshPacket :=
  buildAuthFailure ["password", "publickey"] false

/-- A well-formed SERVICE_REQUEST for a service of any name. -/
def AsksService (packet : SshPacket) (serviceName : String) : Prop :=
  packet.msgType = MessageType.serviceRequest.toU8 ∧
    parse readUtf8 packet.payload = .ok serviceName

/-- A well-formed attempt to authenticate, and what becomes of it. -/
def Attempts (db : UserDatabase) (accepted : Bool) (packet : SshPacket) : Prop :=
  ∃ request, Requests packet request ∧ credentialAccepted db request = accepted

/-- The types of the packets that answer a message on a channel, by its type. -/
def answerShapes (msgType : UInt8) : List (List MessageType) :=
  match MessageType.fromU8 msgType with
  | some .channelOpen => [[.channelOpenConfirmation]]
  | some .channelRequest =>
      [[.channelSuccess, .channelData, .channelEof, .channelClose],
        [.channelData, .channelEof, .channelClose], [.channelSuccess], [.channelFailure]]
  | some .channelData => [[.channelData]]
  | some .channelClose => [[.channelClose]]
  | _ => [[]]

/-- The packets that answer one message. A channel that is unknown or a packet that is too
large may cut the answer off. -/
structure Answers (packet : SshPacket) (answer : List SshPacket) : Prop where
  shape : ∃ shape ∈ answerShapes packet.msgType,
    answer.map SshPacket.msgType <+: shape.map MessageType.toU8
  count : answer.length ≤ 4

/-- What a server may have sent when it has received these packets. In the channel loop it
answers one message after another, each with at most four packets, until it stops. -/
inductive Ordered (db : UserDatabase) : List SshPacket → List SshPacket → Prop where
  | silent (packets : List SshPacket) : Ordered db packets []
  | authentication {service : SshPacket} {serviceName : String} {attempts : List SshPacket}
      (more : List SshPacket) (hservice : AsksService service serviceName)
      (hattempts : ∀ attempt ∈ attempts, Attempts db false attempt) :
      Ordered db (service :: (attempts ++ more))
        (buildServiceAccept serviceName :: attempts.map fun _ => refusal)
  | channels {service success : SshPacket} {serviceName : String}
      {attempts answered : List SshPacket} {answers : List (List SshPacket)}
      (more : List SshPacket) (hservice : AsksService service serviceName)
      (hattempts : ∀ attempt ∈ attempts, Attempts db false attempt)
      (hsuccess : Attempts db true success) (hanswers : List.Forall₂ Answers answered answers) :
      Ordered db (service :: (attempts ++ success :: (answered ++ more)))
        (buildServiceAccept serviceName ::
          (attempts.map (fun _ => refusal) ++ buildAuthSuccess :: answers.flatten))

/-- The state of a connection that has not failed, by its place in the code. -/
inductive Reached (db : UserDatabase) : ServerState → List SshPacket → List SshPacket → Prop where
  | serviceRequest {state : ServerState} (hphase : state.phase = .serviceRequest) :
      Reached db state [] []
  | authentication {state : ServerState} {service : SshPacket} {serviceName : String}
      {attempts : List SshPacket} (hphase : state.phase = .authentication)
      (hservice : AsksService service serviceName)
      (hattempts : ∀ attempt ∈ attempts, Attempts db false attempt) :
      Reached db state (service :: attempts)
        (buildServiceAccept serviceName :: attempts.map fun _ => refusal)
  | channels {state : ServerState} {service success : SshPacket} {serviceName : String}
      {attempts answered : List SshPacket} {answers : List (List SshPacket)}
      (hphase : state.phase = .channels) (hservice : AsksService service serviceName)
      (hattempts : ∀ attempt ∈ attempts, Attempts db false attempt)
      (hsuccess : Attempts db true success) (hanswers : List.Forall₂ Answers answered answers) :
      Reached db state (service :: (attempts ++ success :: answered))
        (buildServiceAccept serviceName ::
          (attempts.map (fun _ => refusal) ++ buildAuthSuccess :: answers.flatten))
  | finished {state : ServerState} {packets sent : List SshPacket}
      (hphase : state.phase = .finished) (hordered : Ordered db packets sent) :
      Reached db state packets sent

variable {env : ServerEnv} {db : UserDatabase} {state : ServerState}
variable {packets sent : List SshPacket}

theorem Ordered.mono (hordered : Ordered db packets sent) (later : List SshPacket) :
    Ordered db (packets ++ later) sent := by
  cases hordered with
  | silent => exact .silent _
  | authentication more hservice hattempts =>
      rw [List.cons_append, List.append_assoc]
      exact .authentication _ hservice hattempts
  | channels more hservice hattempts hsuccess hanswers =>
      rw [List.cons_append, List.append_assoc, List.cons_append, List.append_assoc]
      exact .channels _ hservice hattempts hsuccess hanswers

theorem Reached.ordered (hreached : Reached db state packets sent) :
    Ordered db packets sent := by
  cases hreached with
  | serviceRequest hphase => exact .silent _
  | @authentication service _ attempts hphase hservice hattempts =>
      have hordered := Ordered.authentication [] hservice hattempts
      rwa [List.append_nil] at hordered
  | channels hphase hservice hattempts hsuccess hanswers =>
      have hordered := Ordered.channels [] hservice hattempts hsuccess hanswers
      rwa [List.append_nil] at hordered
  | finished hphase hordered => exact hordered

/-- A round that is in order and goes on, if it does, in a reached state. -/
structure Steps (db : UserDatabase) (packets sent : List SshPacket)
    (r : Ran ServerState ServerEvent SshError Unit) : Prop where
  ordered : Ordered db packets (sent ++ sentPackets r.events)
  reached : r.outcome = .ok () → Reached db r.state packets (sent ++ sentPackets r.events)

theorem steps_of_reached {r : Ran ServerState ServerEvent SshError Unit}
    (hreached : Reached db r.state packets (sent ++ sentPackets r.events)) :
    Steps db packets sent r :=
  ⟨hreached.ordered, fun _ => hreached⟩

theorem steps_of_quiet {later : ServerState} {outcome : Outcome SshError Unit}
    (hordered : Ordered db packets sent)
    (hreached : outcome = .ok () → Reached db later packets sent) :
    Steps db packets sent ⟨[], later, outcome⟩ := by
  have hnone : sent ++ sentPackets [] = sent := List.append_nil sent
  constructor
  · rw [hnone]
    exact hordered
  · rw [hnone]
    exact hreached

theorem steps_of_failed {later : ServerState} {outcome : Outcome SshError Unit}
    (hordered : Ordered db packets sent) (hfailed : outcome ≠ .ok ()) :
    Steps db packets sent ⟨[], later, outcome⟩ :=
  steps_of_quiet hordered fun hok => absurd hok hfailed

theorem steps_serveServiceRequest (pkt : SshPacket) :
    Steps db [pkt] [] (run (serveServiceRequest pkt) state) := by
  have hfailed : ∀ outcome : Outcome SshError Unit, outcome ≠ .ok () →
      Steps db [pkt] [] ⟨[], state, outcome⟩ :=
    fun _ => steps_of_failed (.silent _)
  rw [serveServiceRequest]
  split
  · exact hfailed _ (by rintro ⟨⟩)
  · rename_i htype
    rcases hread : parse readUtf8 pkt.payload with serviceName | error | _
    · rw [run_lift_ok_bind]
      by_cases hfits : packetLength (buildServiceAccept serviceName) aesBlockSize ≤ maxPacketSize
      · rw [run_bind_ok (run_send_of_fits hfits)]
        apply steps_of_reached
        exact .authentication rfl ⟨not_not.mp htype, hread⟩ (List.forall_mem_nil _)
      · rw [run_bind_err (run_send_of_too_large (Nat.lt_of_not_le hfits))]
        exact hfailed _ (by rintro ⟨⟩)
    · exact hfailed _ (by rintro ⟨⟩)
    · exact hfailed _ (by rintro ⟨⟩)

theorem steps_serveAuthRequest {service : SshPacket} {serviceName : String}
    {attempts : List SshPacket} (hphase : state.phase = .authentication)
    (hservice : AsksService service serviceName)
    (hattempts : ∀ attempt ∈ attempts, Attempts env.userDb false attempt) (pkt : SshPacket) :
    Steps env.userDb (service :: (attempts ++ [pkt]))
      (buildServiceAccept serviceName :: attempts.map fun _ => refusal)
      (run (serveAuthRequest env pkt) state) := by
  rcases serveAuthRequest_cases env state pkt with
    ⟨request, hrequest, haccept, hserved⟩ | ⟨request, hrequest, hreject, hserved⟩ |
      ⟨outcome, hfailed, hserved⟩
  · rw [hserved]
    apply steps_of_reached
    exact .channels rfl hservice hattempts ⟨request, hrequest, haccept⟩ .nil
  · rw [hserved]
    apply steps_of_reached
    have hmore : ∀ attempt ∈ attempts ++ [pkt], Attempts env.userDb false attempt := by
      rw [List.forall_mem_append, List.forall_mem_singleton]
      exact ⟨hattempts, request, hrequest, hreject⟩
    have hreached : Reached env.userDb state _ _ := .authentication hphase hservice hmore
    rw [List.map_append] at hreached
    exact hreached
  · rw [hserved]
    exact steps_of_failed (.authentication [pkt] hservice hattempts) hfailed

theorem length_of_answerShapes (msgType : UInt8) :
    ∀ shape ∈ answerShapes msgType, shape.length ≤ 4 := by
  rw [answerShapes]
  split <;> decide

theorem answers_of_shape {packet : SshPacket} {answer : List SshPacket}
    {shape : List MessageType} (hmem : shape ∈ answerShapes packet.msgType)
    (hinitial : answer.map SshPacket.msgType <+: shape.map MessageType.toU8) :
    Answers packet answer := by
  refine ⟨⟨shape, hmem, hinitial⟩, ?_⟩
  have hcount := hinitial.length_le
  rw [List.length_map, List.length_map] at hcount
  exact hcount.trans (length_of_answerShapes _ shape hmem)

theorem answers_nil (packet : SshPacket) : Answers packet [] := by
  have hshape : ∃ shape, shape ∈ answerShapes packet.msgType := by
    rw [answerShapes]
    split <;> exact ⟨_, List.mem_cons_self⟩
  obtain ⟨shape, hmem⟩ := hshape
  exact answers_of_shape hmem List.nil_prefix

theorem Answers.initial {packet : SshPacket} {answer front : List SshPacket}
    (hanswers : Answers packet answer) (hfront : front <+: answer) : Answers packet front := by
  obtain ⟨shape, hmem, hshape⟩ := hanswers.shape
  exact answers_of_shape hmem ((hfront.map SshPacket.msgType).trans hshape)

theorem answers_of_plan {pkt : SshPacket} {action : Action} {replies : List SshPacket}
    (hread : readAction pkt = .ok action)
    (hreplies : (plan env state action).replies = some replies) : Answers pkt replies := by
  have hshape : ∀ {msgType : MessageType} (shape : List MessageType),
      action.msgType = some msgType → shape ∈ answerShapes msgType.toU8 →
      replies.map SshPacket.msgType = shape.map MessageType.toU8 → Answers pkt replies := by
    intro msgType shape htype hmem hreplies
    have hinitial : replies.map SshPacket.msgType <+: shape.map MessageType.toU8 :=
      hreplies ▸ List.prefix_rfl
    rw [answerShapes, fromU8_toU8] at hmem
    refine answers_of_shape ?_ hinitial
    rwa [answerShapes, type_of_readAction hread htype]
  cases action with
  | openChannel msg =>
      cases hreplies
      exact hshape [.channelOpenConfirmation] rfl (by decide) rfl
  | exec recipient wantReply command =>
      obtain ⟨channel, -, rfl⟩ := Option.map_eq_some_iff.mp hreplies
      cases wantReply with
      | false => exact hshape [.channelData, .channelEof, .channelClose] rfl (by decide) rfl
      | true =>
          exact hshape [.channelSuccess, .channelData, .channelEof, .channelClose] rfl
            (by decide) rfl
  | ask recipient wantReply asked =>
      rw [plan] at hreplies
      dsimp only at hreplies
      split at hreplies
      · obtain ⟨channel, -, rfl⟩ := Option.map_eq_some_iff.mp hreplies
        refine hshape [answerTo asked] rfl ?_ rfl
        cases asked <;> decide
      · cases hreplies
        exact answers_nil pkt
  | sftp recipient request =>
      obtain ⟨channel, -, rfl⟩ := Option.map_eq_some_iff.mp hreplies
      exact hshape [.channelData] rfl (by decide) rfl
  | close recipient =>
      have hclose : some (closeReplies env state recipient) = some replies := hreplies
      rw [closeReplies] at hclose
      split at hclose
      · split at hclose
        · cases hclose
          exact answers_nil pkt
        · cases hclose
          exact hshape [.channelClose] rfl (by decide) rfl
      · cases hclose
        exact answers_nil pkt
  | _ =>
      cases hreplies
      exact answers_nil pkt

/-- The packets that are sent are the first ones of those that are planned. -/
theorem answers_sent {pkt : SshPacket} {action : Action} (hread : readAction pkt = .ok action) :
    (plan env state action).ran.state = (plan env state action).state ∧
      Answers pkt (sentPackets (plan env state action).ran.events) := by
  have hsent : ∀ effects front, sentPackets (effects ++ front.map ServerEvent.sent) =
      sentPackets effects ++ front := by
    intro effects front
    rw [sentPackets, List.filterMap_append, List.filterMap_map]
    exact congrArg _ (List.filterMap_some)
  have heffects : sentPackets (plan env state action).effects = [] := by
    cases action <;> rfl
  have hplan := @answers_of_plan env state pkt action
  have hends := ends_ran (plan env state action)
  revert hplan heffects hends
  generalize plan env state action = planned
  generalize planned.ran = r
  intro heffects hplan hends
  rcases hends with
    hreplies | ⟨replies, hreplies, hfits⟩ | ⟨replies, front, message, hreplies, hfront, -, -⟩
  · rw [heffects]
    exact ⟨rfl, answers_nil pkt⟩
  · rw [hsent, heffects]
    exact ⟨rfl, hplan hread hreplies⟩
  · rw [hsent, heffects]
    exact ⟨rfl, (hplan hread hreplies).initial hfront⟩

theorem phase_of_plan (hphase : state.phase = .channels) (action : Action) :
    (plan env state action).state.phase = .channels ∨
      (plan env state action).state.phase = .finished := by
  cases action with
  | exec recipient wantReply command =>
      left
      change (afterCommand env state command).phase = .channels
      rw [afterCommand]
      split
      · exact hphase
      · exact hphase
  | disconnect => exact .inr rfl
  | _ => exact .inl hphase

theorem steps_serveChannelMessage {service success : SshPacket} {serviceName : String}
    {attempts answered : List SshPacket} {answers : List (List SshPacket)}
    (hphase : state.phase = .channels) (hservice : AsksService service serviceName)
    (hattempts : ∀ attempt ∈ attempts, Attempts db false attempt)
    (hsuccess : Attempts db true success) (hanswers : List.Forall₂ Answers answered answers)
    (pkt : SshPacket) :
    Steps db (service :: (attempts ++ success :: (answered ++ [pkt])))
      (buildServiceAccept serviceName ::
        (attempts.map (fun _ => refusal) ++ buildAuthSuccess :: answers.flatten))
      (run (receive env (.ok pkt)) state) := by
  have hordered := Ordered.channels [pkt] hservice hattempts hsuccess hanswers
  rw [run_receive_channels hphase, run_serveChannelMessage]
  rcases hread : readAction pkt with action | error | _
  · change Steps db _ _ (plan env state action).ran
    obtain ⟨hstate, hanswer⟩ := @answers_sent env state pkt action hread
    have hmore := List.rel_append hanswers (.cons hanswer .nil)
    apply steps_of_reached
    rw [hstate, List.cons_append, List.append_assoc, List.cons_append, ← List.flatten_concat]
    rcases phase_of_plan hphase action with hchannels | hfinished
    · exact .channels hchannels hservice hattempts hsuccess hmore
    · refine .finished hfinished ?_
      have hordered := Ordered.channels [] hservice hattempts hsuccess hmore
      rwa [List.append_nil] at hordered
  · exact steps_of_failed hordered (by rintro ⟨⟩)
  · exact steps_of_failed hordered (by rintro ⟨⟩)

theorem steps_receive (hreached : Reached env.userDb state packets sent) (pkt : SshPacket) :
    Steps env.userDb (packets ++ [pkt]) sent (run (receive env (.ok pkt)) state) := by
  cases hreached with
  | serviceRequest hphase =>
      rw [run_receive_serviceRequest hphase]
      exact steps_serveServiceRequest pkt
  | authentication hphase hservice hattempts =>
      rw [run_receive_authentication hphase]
      exact steps_serveAuthRequest hphase hservice hattempts pkt
  | channels hphase hservice hattempts hsuccess hanswers =>
      rw [List.cons_append, List.append_assoc, List.cons_append]
      exact steps_serveChannelMessage hphase hservice hattempts hsuccess hanswers pkt
  | finished hphase hordered =>
      rw [run_receive_finished hphase]
      exact steps_of_quiet (hordered.mono _) fun _ => .finished hphase (hordered.mono _)

theorem steps_receive_error (hreached : Reached env.userDb state packets sent) (error : SshError) :
    Steps env.userDb packets sent (run (receive env (.error error)) state) := by
  have hfailed : Steps env.userDb packets sent ⟨[], state, .err error⟩ :=
    steps_of_failed hreached.ordered (by rintro ⟨⟩)
  rw [receive, run_getState_bind]
  cases hphase : state.phase with
  | serviceRequest => exact hfailed
  | authentication => exact hfailed
  | channels =>
      cases error with
      | connectionClosed =>
          exact steps_of_quiet hreached.ordered fun _ => .finished rfl hreached.ordered
      | _ => exact hfailed
  | finished => exact steps_of_quiet hreached.ordered fun _ => hreached

/-- A round of a connection in any of its states. -/
theorem steps_received (hreached : Reached env.userDb state packets sent) (item : Received) :
    Steps env.userDb (packets ++ receivedPackets [item]) sent (run (receive env item) state) := by
  cases item with
  | ok pkt => exact steps_receive hreached pkt
  | error error =>
      rw [show receivedPackets [.error error] = [] from rfl, List.append_nil]
      exact steps_receive_error hreached error

theorem reached_of_run {world : World Name} {received : List Received}
    {events : List ServerEvent}
    (hrun : run (handleConnection env received) (connected env world) = ⟨events, state, .ok ()⟩) :
    Reached env.userDb state (receivedPackets received) (sentPackets events) := by
  have hstart : Reached env.userDb (connected env world) (receivedPackets []) (sentPackets []) :=
    .serviceRequest rfl
  refine @forEach_induction _ _ _ _ _
    (fun received events state => Reached env.userDb state (receivedPackets received)
      (sentPackets events)) _ hstart ?_ _ _ _ hrun
  intro served events state item more later hreached hround
  have hnext := (steps_received hreached item).reached
  rw [hround] at hnext
  rw [receivedPackets, sentPackets, List.filterMap_append, List.filterMap_append]
  exact hnext rfl

end SwiftSsh.ServerOrder
