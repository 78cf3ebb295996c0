import SwiftSsh.ConnectionRuns

namespace SwiftSsh.ReplyAccounting

open SwiftSsh.ByteWords
open SwiftSsh.RustOutcome
open SwiftSsh.EventProgram
open SwiftSsh.RunHistory
open SwiftSsh.WireTypes
open SwiftSsh.WireBuffer
open SwiftSsh.PacketCodec
open SwiftSsh.FileSystem
open SwiftSsh.SftpPaths
open SwiftSsh.ChannelMessages
open SwiftSsh.ChannelTable
open SwiftSsh.ServerLoop
open SwiftSsh.ChannelReplies
open SwiftSsh.ChannelRouting
open SwiftSsh.ChannelActions
open SwiftSsh.ConnectionRuns

/-- The two messages that answer a channel request. -/
def IsReply (packet : SshPacket) : Prop :=
  packet.msgType = MessageType.channelSuccess.toU8 ∨
    packet.msgType = MessageType.channelFailure.toU8

instance (packet : SshPacket) : Decidable (IsReply packet) :=
  inferInstanceAs (Decidable (_ ∨ _))

/-- The reply to a request, if an event is one. -/
def replyIn : ServerEvent → Option SshPacket
  | .sent packet => if IsReply packet then some packet else none
  | _ => none

/-- The answers to channel requests among what a round emits. -/
def repliesIn (events : List ServerEvent) : List SshPacket :=
  events.filterMap replyIn

/-- The requests that the server grants. -/
def Granted (msg : ChannelRequestMsg) : Prop :=
  msg.requestType = "exec" ∨ msg.requestType = "shell" ∨ msg.requestType = "pty-req" ∨
    (msg.requestType = "subsystem" ∧ parse readUtf8 msg.data = .ok "sftp")

instance (msg : ChannelRequestMsg) : Decidable (Granted msg) :=
  inferInstanceAs (Decidable (_ ∨ _ ∨ _ ∨ _))

/-- The reply that a request should get. -/
def answer (msg : ChannelRequestMsg) : SshPacket :=
  newPacket (if Granted msg then .channelSuccess else .channelFailure)
    (writeU32 msg.recipientChannel)

/-- The channel request in a message, if it wants a reply. -/
def wanting : Received → List ChannelRequestMsg
  | .ok pkt =>
      if MessageType.fromU8 pkt.msgType = some .channelRequest then
        (ChannelRequestMsg.parse pkt.payload).toOption.toList.filter (·.wantReply)
      else []
  | .error _ => []

/-- An iteration of the channel loop that ended without an error. -/
structure Round where
  item : Received
  events : List ServerEvent

/-- A round of the channel loop that has ended well. -/
def completed (env : ServerEnv) (state : ServerState) (item : Received) : List Round :=
  match state.phase, (run (receive env item) state).outcome with
  | .channels, .ok _ => [⟨item, (run (receive env item) state).events⟩]
  | _, _ => []

/-- A connection with its completed rounds. -/
def ledger (env : ServerEnv) : Machine ServerState Received Round :=
  ⟨(connection env).step, completed env⟩

/-- The completed iterations of a connection, first to last. -/
def completedRounds (env : ServerEnv) (world : World Name) (received : List Received) :
    List Round :=
  (ledger env).history (connected env world) received

variable {env : ServerEnv} {state : ServerState} {item : Received}

theorem repliesIn_append (front back : List ServerEvent) :
    repliesIn (front ++ back) = repliesIn front ++ repliesIn back :=
  List.filterMap_append

theorem repliesIn_sent (packets : List SshPacket) :
    repliesIn (packets.map .sent) = packets.filter fun packet => IsReply packet := by
  induction packets with
  | nil => rfl
  | cons packet packets ih =>
      by_cases hreply : IsReply packet
      · rw [List.filter_cons_of_pos (by simpa using hreply), ← ih]
        simp [repliesIn, replyIn, hreply]
      · rw [List.filter_cons_of_neg (by simpa using hreply), ← ih]
        simp [repliesIn, replyIn, hreply]

theorem repliesIn_effects (action : Action) :
    repliesIn (plan env state action).effects = [] := by
  cases action <;> rfl

theorem isReply_newPacket {msgType : MessageType} {payload : Bytes} :
    IsReply (newPacket msgType payload) ↔
      msgType = .channelSuccess ∨ msgType = .channelFailure := by
  change msgType.toU8 = _ ∨ msgType.toU8 = _ ↔ _
  rw [toU8_injective.eq_iff, toU8_injective.eq_iff]

theorem repliesIn_of_idle {r : Ran ServerState ServerEvent SshError Unit}
    (hidle : Idle state r) : repliesIn r.events = [] := by
  rw [repliesIn, List.filterMap_eq_nil_iff]
  intro event hevent
  obtain ⟨packet, rfl, msgType, hlogin, htype⟩ := hidle.events event hevent
  rw [replyIn, if_neg]
  unfold IsReply
  rw [htype, toU8_injective.eq_iff, toU8_injective.eq_iff]
  revert hlogin
  cases msgType <;> decide

/-- The requests behind an action, with the answer they are given. -/
inductive Asks (msg : ChannelRequestMsg) : Action → Prop where
  | exec (command : String) (hgranted : Granted msg) :
      Asks msg (.exec msg.recipientChannel msg.wantReply command)
  | ask (asked : Asked)
      (hanswer : answerTo asked = if Granted msg then .channelSuccess else .channelFailure) :
      Asks msg (.ask msg.recipientChannel msg.wantReply asked)

theorem asks_of_readRequest {msg : ChannelRequestMsg} {action : Action}
    (hread : readRequest msg = .ok action) : Asks msg action := by
  rw [readRequest] at hread
  split at hread
  · rename_i hexec
    obtain ⟨command, -, hcommand⟩ := Outcome.bind_eq_ok hread
    cases hcommand
    exact .exec command (Or.inl hexec)
  split at hread
  · rename_i hshell
    cases hread
    exact .ask .shell (if_pos (show Granted msg from .inr (.inl hshell))).symm
  split at hread
  · rename_i hexec hshell hsubsystem
    obtain ⟨subsystem, hparse, hread⟩ := Outcome.bind_eq_ok hread
    cases hread
    have hgranted : Granted msg ↔ subsystem = "sftp" := by
      unfold Granted
      rw [hparse, hsubsystem, Outcome.ok.injEq]
      simp
    refine .ask _ ?_
    by_cases hsftp : subsystem = "sftp"
    · rw [if_pos hsftp, if_pos (hgranted.mpr hsftp)]
      rfl
    · rw [if_neg hsftp, if_neg (fun h => hsftp (hgranted.mp h))]
      rfl
  split at hread
  · rename_i hpty
    cases hread
    exact .ask .pty (if_pos (show Granted msg from .inr (.inr (.inl hpty)))).symm
  · rename_i hexec hshell hsubsystem hpty
    cases hread
    refine .ask .other ?_
    rw [if_neg]
    · rfl
    · rintro (heq | heq | heq | ⟨heq, -⟩)
      · exact hexec heq
      · exact hshell heq
      · exact hpty heq
      · exact hsubsystem heq

/-- The actions that do not come from a channel request. -/
def Unasked : Action → Prop
  | .exec _ _ _ => False
  | .ask _ _ _ => False
  | _ => True

theorem wanting_of_readAction {pkt : SshPacket} {action : Action}
    (hread : readAction pkt = .ok action) :
    (∃ msg, Asks msg action ∧ wanting (.ok pkt) = [msg].filter (·.wantReply)) ∨
      (Unasked action ∧ wanting (.ok pkt) = []) := by
  rw [readAction] at hread
  rw [wanting]
  split at hread
  · rename_i htype
    obtain ⟨msg, -, hmsg⟩ := Outcome.bind_eq_ok hread
    cases hmsg
    rw [htype]
    exact .inr ⟨trivial, rfl⟩
  · rename_i htype
    obtain ⟨msg, hparse, hmsg⟩ := Outcome.bind_eq_ok hread
    rw [htype, if_pos rfl, hparse]
    exact .inl ⟨msg, asks_of_readRequest hmsg, rfl⟩
  · rename_i htype
    obtain ⟨msg, -, hmsg⟩ := Outcome.bind_eq_ok hread
    cases hmsg
    rw [htype, readData]
    refine .inr ⟨?_, rfl⟩
    split <;> trivial
  · rename_i htype
    obtain ⟨fields, -, hfields⟩ := Outcome.bind_eq_ok hread
    cases hfields
    rw [htype]
    exact .inr ⟨trivial, rfl⟩
  · rename_i htype
    obtain ⟨recipient, -, hrecipient⟩ := Outcome.bind_eq_ok hread
    cases hrecipient
    rw [htype]
    exact .inr ⟨trivial, rfl⟩
  · rename_i htype
    obtain ⟨recipient, -, hrecipient⟩ := Outcome.bind_eq_ok hread
    cases hrecipient
    rw [htype]
    exact .inr ⟨trivial, rfl⟩
  · rename_i htype
    cases hread
    rw [htype]
    exact .inr ⟨trivial, rfl⟩
  · rename_i hopen hrequest hdata hwiden heof hclose hdisconnect
    cases hread
    rw [if_neg hrequest]
    exact .inr ⟨trivial, rfl⟩

theorem repliesIn_planned {action : Action} {packets : List SshPacket} :
    repliesIn ((plan env state action).effects ++ packets.map .sent) =
      packets.filter fun packet => IsReply packet := by
  rw [repliesIn_append, repliesIn_effects, List.nil_append, repliesIn_sent]

theorem remoteId_of_answering {recipient : UInt32} {packets : List SshPacket}
    {build : UInt32 → List SshPacket}
    (hreplies : answering env state recipient build = some packets) :
    packets = build recipient := by
  obtain ⟨channel, hfind, rfl⟩ := Option.map_eq_some_iff.mp hreplies
  obtain ⟨entry, hentry, rfl⟩ := Option.map_eq_some_iff.mp hfind
  rw [(findEntry_eq_some hentry).1]

theorem isReply_answer (msg : ChannelRequestMsg) : IsReply (answer msg) := by
  rw [answer, isReply_newPacket]
  split
  · exact .inl rfl
  · exact .inr rfl

theorem filter_execReplies (wantReply : Bool) (output : Bytes) (remoteId : UInt32) :
    (execReplies wantReply output remoteId).filter (fun packet => IsReply packet) =
      if wantReply then [newPacket .channelSuccess (writeU32 remoteId)] else [] := by
  cases wantReply <;> rfl

/-- The replies that are planned for a channel request are the ones it wants. -/
theorem replies_of_asks {msg : ChannelRequestMsg} {action : Action} {packets : List SshPacket}
    (hasks : Asks msg action) (hreplies : (plan env state action).replies = some packets) :
    packets.filter (fun packet => IsReply packet) =
      ([msg].filter (·.wantReply)).map answer := by
  cases hasks with
  | exec command hgranted =>
      rw [remoteId_of_answering hreplies, filter_execReplies, List.filter_singleton]
      cases msg.wantReply with
      | false => rfl
      | true => simp [answer, hgranted]
  | ask asked hanswer =>
      rw [plan] at hreplies
      rw [List.filter_singleton]
      cases hwant : msg.wantReply with
      | false =>
          rw [hwant] at hreplies
          cases hreplies
          rfl
      | true =>
          rw [hwant] at hreplies
          dsimp only at hreplies
          rw [if_pos rfl] at hreplies
          have hpackets := remoteId_of_answering hreplies
          have hreply := isReply_answer msg
          rw [answer, ← hanswer] at hreply
          rw [hpackets]
          simp [answer, ← hanswer, hreply]

theorem replies_of_unasked {action : Action} {packets : List SshPacket}
    (hunasked : Unasked action) (hreplies : (plan env state action).replies = some packets) :
    packets.filter (fun packet => IsReply packet) = [] := by
  cases action with
  | openChannel msg =>
      cases hreplies
      rfl
  | exec recipient wantReply command => exact hunasked.elim
  | ask recipient wantReply asked => exact hunasked.elim
  | sftp recipient request =>
      rw [plan] at hreplies
      dsimp only at hreplies
      rw [remoteId_of_answering hreplies]
      rfl
  | close recipient =>
      rw [← Option.some.inj hreplies, closeReplies]
      split
      · split <;> rfl
      · rfl
  | widen recipient bytesToAdd =>
      cases hreplies
      rfl
  | eof recipient =>
      cases hreplies
      rfl
  | disconnect =>
      cases hreplies
      rfl
  | ignore =>
      cases hreplies
      rfl

/-- One iteration: a completed round sends the reply that its message wants, and
no other. -/
theorem repliesIn_of_ok {value : Unit} (hphase : state.phase = .channels)
    (hok : (run (receive env item) state).outcome = .ok value) :
    repliesIn (run (receive env item) state).events = (wanting item).map answer := by
  cases item with
  | error error => exact repliesIn_of_idle (idle_receive_error error)
  | ok pkt =>
      rw [run_receive_channels hphase, run_serveChannelMessage] at hok ⊢
      rcases hread : readAction pkt with action | error | _
      · rw [hread] at hok
        change (plan env state action).ran.outcome = .ok value at hok
        change repliesIn (plan env state action).ran.events = _
        generalize hran : (plan env state action).ran = r at hok ⊢
        have hends := ends_ran (plan env state action)
        rw [hran] at hends
        cases hends with
        | unknown hreplies => cases hok
        | sent packets hreplies hfits =>
            rw [repliesIn_planned]
            rcases wanting_of_readAction hread with ⟨msg, hasks, hwanting⟩ | ⟨hunasked, hwanting⟩
            · rw [hwanting]
              exact replies_of_asks hasks hreplies
            · rw [hwanting]
              exact replies_of_unasked hunasked hreplies
        | cut packets front message hreplies hfront hsent hlarge => cases hok
      · rw [hread] at hok
        cases hok
      · rw [hread] at hok
        cases hok

theorem completed_cases (env : ServerEnv) (state : ServerState) (item : Received) :
    (completed env state item = [] ∧
      (state.phase ≠ .channels ∨ ∀ value, (run (receive env item) state).outcome ≠ .ok value)) ∨
    (completed env state item = [⟨item, (run (receive env item) state).events⟩] ∧
      repliesIn (run (receive env item) state).events = (wanting item).map answer) := by
  rw [completed]
  split
  · rename_i value hphase hok
    exact .inr ⟨rfl, repliesIn_of_ok hphase hok⟩
  · rename_i hother
    refine .inl ⟨rfl, ?_⟩
    by_contra hboth
    rw [not_or, not_not] at hboth
    obtain ⟨hphase, hok⟩ := hboth
    push Not at hok
    obtain ⟨value, hok⟩ := hok
    exact hother value hphase hok

theorem accounted_of_mem {received : List Received} {round : Round}
    (hmem : round ∈ (ledger env).history state received) :
    repliesIn round.events = (wanting round.item).map answer := by
  induction received generalizing state with
  | nil => cases hmem
  | cons item received ih =>
      rw [Machine.history, List.mem_append] at hmem
      rcases hmem with hfirst | hlater
      · change round ∈ completed env state item at hfirst
        rcases completed_cases env state item with ⟨hnone, -⟩ | ⟨hone, hreplies⟩
        · rw [hnone] at hfirst
          cases hfirst
        · rw [hone, List.mem_singleton] at hfirst
          rw [hfirst]
          exact hreplies
      · exact ih hlater

/-- In a connection that ends without an error every reply was sent in a completed
iteration of the channel loop. -/
theorem repliesIn_of_run {received : List Received} {events : List ServerEvent}
    {later : ServerState}
    (hrun : run (handleConnection env received) state = ⟨events, later, .ok ()⟩) :
    repliesIn events =
      ((ledger env).history state received).flatMap fun round => repliesIn round.events := by
  rw [handleConnection] at hrun
  induction received generalizing state events with
  | nil =>
      cases hrun
      rfl
  | cons item received ih =>
      rw [forEach] at hrun
      obtain ⟨front, middle, value, back, hfirst, hrest, rfl⟩ := run_bind_eq_ok hrun
      have hstep : (ledger env).step state item = middle := by
        change leaves (run (receive env item) state) = middle
        rw [hfirst]
        rfl
      rw [Machine.history, List.flatMap_append, hstep, ← ih hrest, repliesIn_append]
      congr 1
      change _ = (completed env state item).flatMap _
      rcases completed_cases env state item with ⟨hnone, hwhy⟩ | ⟨hone, -⟩
      · rw [hnone]
        rcases hwhy with hphase | herror
        · have hidle : Idle state (run (receive env item) state) := by
            apply idle_of_actionOf
            cases item with
            | error error => rfl
            | ok pkt => rw [actionOf, if_neg hphase]
          rw [hfirst] at hidle
          exact repliesIn_of_idle hidle
        · rw [hfirst] at herror
          exact absurd rfl (herror value)
      · rw [hone, hfirst]
        exact (List.flatMap_singleton _ _).symm

/-- Over every connection the replies sent by the completed iterations are, one
for one and in order, the answers due to the requests that want one; a round with
no such request sends none; and if the connection ends without an error there are
no other replies. -/
theorem replies_accounted (env : ServerEnv) (world : World Name) (received : List Received) :
    ((completedRounds env world received).flatMap fun round => repliesIn round.events) =
      ((completedRounds env world received).flatMap fun round => wanting round.item).map
        answer ∧
    (∀ round ∈ completedRounds env world received,
      repliesIn round.events = (wanting round.item).map answer) ∧
    ∀ events later,
      run (handleConnection env received) (connected env world) = ⟨events, later, .ok ()⟩ →
        repliesIn events =
          ((completedRounds env world received).flatMap fun round => wanting round.item).map
            answer := by
  have hrounds : ∀ round ∈ completedRounds env world received,
      repliesIn round.events = (wanting round.item).map answer :=
    fun round hmem => accounted_of_mem hmem
  have hsequence : ((completedRounds env world received).flatMap fun round =>
      repliesIn round.events) =
      ((completedRounds env world received).flatMap fun round => wanting round.item).map
        answer := by
    rw [List.map_flatMap]
    exact List.flatMap_congr hrounds
  refine ⟨hsequence, hrounds, ?_⟩
  intro events later hrun
  rw [repliesIn_of_run hrun]
  exact hsequence

end SwiftSsh.ReplyAccounting
