import SwiftSsh.ChannelActions
import SwiftSsh.RunHistory

namespace SwiftSsh.ConnectionRuns

open SwiftSsh.RustOutcome
open SwiftSsh.EventProgram
open SwiftSsh.RunHistory
open SwiftSsh.WireTypes
open SwiftSsh.WireBuffer
open SwiftSsh.FileSystem
open SwiftSsh.SftpPaths
open SwiftSsh.UserAuth
open SwiftSsh.ChannelMessages
open SwiftSsh.ChannelTable
open SwiftSsh.ServerLoop
open SwiftSsh.ChannelReplies
open SwiftSsh.AuthenticationGate
open SwiftSsh.ChannelRouting
open SwiftSsh.ChannelActions

/-- What a round leaves for the next one. -/
def leaves (r : Ran ServerState ServerEvent SshError Unit) : ServerState :=
  match r.outcome with
  | .ok _ => r.state
  | _ => { r.state with phase := .finished }

/-- A connection as a machine that receives one item in each step. -/
def connection (env : ServerEnv) : Machine ServerState Received ServerEvent :=
  ⟨fun state item => leaves (run (receive env item) state),
    fun state item => (run (receive env item) state).events⟩

/-- The state in which the next message is received. -/
def stateAfter (env : ServerEnv) (world : World Name) (received : List Received) : ServerState :=
  (connection env).after (connected env world) received

/-- What a message asks for in the channel loop. -/
def actionOf (state : ServerState) : Received → Option Action
  | .ok pkt => if state.phase = .channels then (readAction pkt).toOption else none
  | .error _ => none

/-- The messages of the service request and the authentication. -/
def loginTypes : List MessageType :=
  [.serviceAccept, .userAuthSuccess, .userAuthFailure]

/-- A round outside of the channel loop, or with a message that cannot be read. -/
structure Idle (before : ServerState) (r : Ran ServerState ServerEvent SshError Unit) :
    Prop where
  events : ∀ event ∈ r.events, ∃ packet, event = .sent packet ∧
    ∃ msgType ∈ loginTypes, packet.msgType = msgType.toU8
  state : r.state = { before with phase := r.state.phase }

variable {env : ServerEnv} {state : ServerState} {item : Received}

theorem readAction_of_actionOf {action : Action}
    (haction : actionOf state item = some action) :
    ∃ pkt, item = .ok pkt ∧ readAction pkt = .ok action := by
  cases item with
  | error error => cases haction
  | ok pkt =>
      rw [actionOf] at haction
      split at haction
      · exact ⟨pkt, rfl, eq_ok_of_toOption haction⟩
      · cases haction

theorem phase_of_actionOf {action : Action} (haction : actionOf state item = some action) :
    state.phase = .channels := by
  cases item with
  | error error => cases haction
  | ok pkt =>
      rw [actionOf] at haction
      split at haction
      · assumption
      · cases haction

theorem run_of_actionOf {action : Action} (haction : actionOf state item = some action) :
    run (receive env item) state = (plan env state action).ran := by
  obtain ⟨pkt, rfl, hread⟩ := readAction_of_actionOf haction
  exact run_receive_action (phase_of_actionOf haction) hread

theorem idle_of_silent {outcome : Outcome SshError Unit} (phase : Phase) :
    Idle state ⟨[], { state with phase := phase }, outcome⟩ := by
  refine ⟨?_, rfl⟩
  rintro event ⟨⟩

theorem idle_of_sent {packet : SshPacket} {outcome : Outcome SshError Unit}
    (msgType : MessageType) (phase : Phase) (hmem : msgType ∈ loginTypes)
    (htype : packet.msgType = msgType.toU8) :
    Idle state ⟨[.sent packet], { state with phase := phase }, outcome⟩ := by
  refine ⟨?_, rfl⟩
  intro event hevent
  rw [List.mem_singleton.mp hevent]
  exact ⟨packet, rfl, msgType, hmem, htype⟩

theorem idle_serveServiceRequest (pkt : SshPacket) :
    Idle state (run (serveServiceRequest pkt) state) := by
  rw [serveServiceRequest]
  split
  · exact idle_of_silent state.phase
  · rcases parse readUtf8 pkt.payload with serviceName | error | _
    · rw [run_lift_ok_bind]
      by_cases hfits : PacketCodec.packetLength (buildServiceAccept serviceName) aesBlockSize ≤
          maxPacketSize
      · rw [run_bind_ok (run_send_of_fits hfits)]
        exact idle_of_sent .serviceAccept .authentication (by decide) rfl
      · rw [run_bind_err (run_send_of_too_large (Nat.lt_of_not_le hfits))]
        exact idle_of_silent state.phase
    · exact idle_of_silent state.phase
    · exact idle_of_silent state.phase

theorem idle_serveAuthRequest (pkt : SshPacket) :
    Idle state (run (serveAuthRequest env pkt) state) := by
  rcases serveAuthRequest_cases env state pkt with
    ⟨request, -, -, hserved⟩ | ⟨request, -, -, hserved⟩ | ⟨outcome, -, hserved⟩
  · rw [hserved]
    exact idle_of_sent .userAuthSuccess .channels (by decide) rfl
  · rw [hserved]
    exact idle_of_sent .userAuthFailure state.phase (by decide) rfl
  · rw [hserved]
    exact idle_of_silent state.phase

theorem idle_receive_error (error : SshError) :
    Idle state (run (receive env (.error error)) state) := by
  rw [receive, run_getState_bind]
  cases hphase : state.phase with
  | serviceRequest => exact idle_of_silent state.phase
  | authentication => exact idle_of_silent state.phase
  | channels =>
      cases error with
      | connectionClosed => exact idle_of_silent .finished
      | _ => exact idle_of_silent state.phase
  | finished => exact idle_of_silent state.phase

theorem idle_of_actionOf (hnone : actionOf state item = none) :
    Idle state (run (receive env item) state) := by
  cases item with
  | error error => exact idle_receive_error error
  | ok pkt =>
      cases hphase : state.phase with
      | serviceRequest =>
          rw [run_receive_serviceRequest hphase]
          exact idle_serveServiceRequest pkt
      | authentication =>
          rw [run_receive_authentication hphase]
          exact idle_serveAuthRequest pkt
      | channels =>
          rw [actionOf, if_pos hphase] at hnone
          rw [run_receive_channels hphase, run_serveChannelMessage]
          rcases hread : readAction pkt with action | error | _
          · rw [hread] at hnone
            cases hnone
          · exact idle_of_silent state.phase
          · exact idle_of_silent state.phase
      | finished =>
          rw [run_receive_finished hphase]
          exact idle_of_silent state.phase

theorem history_of_finished (hphase : state.phase = .finished) (received : List Received) :
    (connection env).history state received = [] := by
  induction received with
  | nil => rfl
  | cons item received ih =>
      change (run (receive env item) state).events ++
        (connection env).history (leaves (run (receive env item) state)) received = []
      rw [run_receive_finished hphase]
      exact ih

/-- What a connection emits is what its rounds emit. -/
theorem events_handleConnection (env : ServerEnv) (state : ServerState)
    (received : List Received) :
    (run (handleConnection env received) state).events =
      (connection env).history state received := by
  rw [handleConnection]
  induction received generalizing state with
  | nil => rfl
  | cons item received ih =>
      rw [forEach, run_bind]
      change _ = (run (receive env item) state).events ++
        (connection env).history (leaves (run (receive env item) state)) received
      rcases run (receive env item) state with ⟨events, later, value | error | _⟩
      · rw [Ran.andThen_ok, leaves, ← ih]
        rfl
      · rw [history_of_finished rfl, List.append_nil]
        rfl
      · rw [history_of_finished rfl, List.append_nil]
        rfl

theorem after_of_finished (hphase : state.phase = .finished) (received : List Received) :
    (connection env).after state received = state := by
  induction received with
  | nil => rfl
  | cons item received ih =>
      rw [Machine.after_cons]
      change (connection env).after (leaves (run (receive env item) state)) received = state
      rw [run_receive_finished hphase]
      exact ih

/-- A connection that is still going on has had no error. -/
theorem run_of_running {received : List Received}
    (hphase : ((connection env).after state received).phase ≠ .finished) :
    ∃ events, run (handleConnection env received) state =
      ⟨events, (connection env).after state received, .ok ()⟩ := by
  rw [handleConnection]
  induction received generalizing state with
  | nil => exact ⟨[], rfl⟩
  | cons item received ih =>
      rw [Machine.after_cons] at hphase ⊢
      change ((connection env).after (leaves (run (receive env item) state)) received).phase ≠ _
        at hphase
      change ∃ events, (run (receive env item) state).andThen _ =
        ⟨events, (connection env).after (leaves (run (receive env item) state)) received, _⟩
      generalize run (receive env item) state = r at hphase ⊢
      rcases r with ⟨events, later, value | error | _⟩
      · rw [leaves] at hphase ⊢
        obtain ⟨more, hmore⟩ := ih hphase
        rw [Ran.andThen_ok, hmore]
        exact ⟨_, rfl⟩
      · rw [after_of_finished rfl] at hphase
        exact absurd rfl hphase
      · rw [after_of_finished rfl] at hphase
        exact absurd rfl hphase

theorem after_of_run {received : List Received} {events : List ServerEvent}
    {later : ServerState}
    (hrun : run (handleConnection env received) state = ⟨events, later, .ok ()⟩) :
    (connection env).after state received = later := by
  rw [handleConnection] at hrun
  induction received generalizing state events with
  | nil =>
      cases hrun
      rfl
  | cons item received ih =>
      rw [forEach] at hrun
      obtain ⟨front, middle, _, back, hfirst, hrest, -⟩ := run_bind_eq_ok hrun
      rw [Machine.after_cons]
      change (connection env).after (leaves (run (receive env item) state)) received = later
      rw [hfirst]
      exact ih hrest

theorem mem_openSenders_of_known {world : World Name} {received : List Received}
    {recipient : UInt32} {channel : Channel}
    (hphase : (stateAfter env world received).phase ≠ .finished)
    (hfind : findByRemoteId env.order (stateAfter env world received).channels recipient =
      some channel) : recipient ∈ openSenders received := by
  obtain ⟨events, hrun⟩ := run_of_running hphase
  obtain ⟨-, hopened⟩ := opened_of_run hrun hphase
  obtain ⟨entry, hentry, rfl⟩ := Option.map_eq_some_iff.mp hfind
  obtain ⟨hremote, hget⟩ := findEntry_eq_some hentry
  obtain ⟨k, -, hsender⟩ := hopened.stored entry.1 entry.2 hget
  rw [hremote] at hsender
  exact List.mem_of_getElem? hsender

end SwiftSsh.ConnectionRuns
