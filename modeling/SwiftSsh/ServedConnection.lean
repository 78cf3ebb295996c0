import SwiftSsh.AuthenticationGate
import SwiftSsh.ConnectionRuns
import SwiftSsh.DuplexTransport

namespace SwiftSsh.ServedConnection

open SwiftSsh.ByteWords
open SwiftSsh.RustOutcome
open SwiftSsh.EventProgram
open SwiftSsh.WireTypes
open SwiftSsh.WireBuffer
open SwiftSsh.PacketCodec
open SwiftSsh.SessionCrypto
open SwiftSsh.PacketTransport
open SwiftSsh.TransportLockstep
open SwiftSsh.HostedService
open SwiftSsh.ServiceNetwork
open SwiftSsh.DuplexTransport
open SwiftSsh.FileSystem
open SwiftSsh.SftpPaths
open SwiftSsh.SftpProtocol
open SwiftSsh.UserAuth
open SwiftSsh.ChannelMessages
open SwiftSsh.ChannelTable
open SwiftSsh.ServerLoop

/-- The packet that an event sends. -/
def serverPacket : ServerEvent → Option SshPacket
  | .sent packet => some packet
  | .executed _ => none
  | .handled _ => none

/-- The packets among the events of a connection. -/
def sentPackets (events : List ServerEvent) : List SshPacket :=
  events.filterMap serverPacket

/-- `handle_connection` after key activation, on the bytes of the connection. -/
def serverService (env : ServerEnv) (P : Primitives) (padding : Nat → Nat → UInt8) :
    Service SessionKeys ServerState ServerEvent SshError SshPacket :=
  packetService P padding serverPacket (receive env) fun state =>
    decide (state.phase = .finished)

variable (env : ServerEnv)

theorem emits_send (packet : SshPacket) : Emits (EventFits serverPacket) (send packet) :=
  emits_packet (show serverPacket (.sent packet) = some packet from rfl) _

theorem emits_sendWhen (wanted : Bool) (packet : SshPacket) :
    Emits (EventFits serverPacket) (sendWhen wanted packet) := by
  rw [sendWhen]
  split
  · exact emits_send packet
  · exact emits_pure ()

theorem emits_knownChannel (recipient : UInt32) :
    Emits (EventFits serverPacket) (knownChannel env recipient) := by
  refine emits_getState.bind fun state => ?_
  split
  · exact emits_pure _
  · exact emits_lift _

theorem emits_serveServiceRequest (pkt : SshPacket) :
    Emits (EventFits serverPacket) (serveServiceRequest pkt) := by
  rw [serveServiceRequest]
  split
  · exact emits_lift _
  · exact (emits_lift _).bind fun serviceName =>
      (emits_send _).bind fun _ => emits_modifyState _

theorem emits_serveAuthRequest (pkt : SshPacket) :
    Emits (EventFits serverPacket) (serveAuthRequest env pkt) := by
  rw [serveAuthRequest]
  split
  · exact emits_lift _
  · refine (emits_lift _).bind fun authReq => ?_
    split
    · exact (emits_send _).bind fun _ => emits_modifyState _
    · exact emits_send _

theorem emits_replyIfWanted (msg : ChannelRequestMsg) (answer : MessageType) :
    Emits (EventFits serverPacket) (replyIfWanted env msg answer) := by
  rw [replyIfWanted]
  split
  · exact (emits_knownChannel env _).bind fun channel => emits_send _
  · exact emits_pure ()

theorem emits_serveChannelOpen (payload : Bytes) :
    Emits (EventFits serverPacket) (serveChannelOpen payload) :=
  (emits_lift _).bind fun _ => emits_getState.bind fun _ =>
    (emits_modifyState _).bind fun _ => emits_send _

theorem emits_executeCommand (command : String) :
    Emits (EventFits serverPacket) (executeCommand env command) := by
  refine (emits_emit (eventFits_of_none rfl)).bind fun _ => ?_
  split
  · exact emits_pure ""
  · exact emits_getState.bind fun _ => (emits_modifyState _).bind fun _ => emits_pure _

theorem emits_serveExec (msg : ChannelRequestMsg) :
    Emits (EventFits serverPacket) (serveExec env msg) :=
  (emits_lift _).bind fun command => (emits_executeCommand env command).bind fun _ =>
    (emits_knownChannel env _).bind fun _ => (emits_sendWhen _ _).bind fun _ =>
      (emits_send _).bind fun _ => (emits_send _).bind fun _ => emits_send _

theorem emits_serveChannelRequest (payload : Bytes) :
    Emits (EventFits serverPacket) (serveChannelRequest env payload) := by
  refine (emits_lift _).bind fun msg => ?_
  split
  · exact emits_serveExec env msg
  · split
    · exact emits_replyIfWanted env msg _
    · split
      · exact (emits_lift _).bind fun subsystem => emits_replyIfWanted env msg _
      · split
        · exact emits_replyIfWanted env msg _
        · exact emits_replyIfWanted env msg _

theorem emits_serveSftp (recipient : UInt32) (request : SftpPacket) :
    Emits (EventFits serverPacket) (serveSftp env recipient request) :=
  (emits_emit (eventFits_of_none rfl)).bind fun _ => emits_getState.bind fun _ =>
    (emits_modifyState _).bind fun _ => (emits_knownChannel env _).bind fun _ => emits_send _

theorem emits_serveChannelData (payload : Bytes) :
    Emits (EventFits serverPacket) (serveChannelData env payload) := by
  refine (emits_lift _).bind fun msg => ?_
  split
  · exact emits_serveSftp env _ _
  · exact emits_pure ()

theorem emits_serveClose (payload : Bytes) :
    Emits (EventFits serverPacket) (serveClose env payload) := by
  refine (emits_lift _).bind fun recipient => emits_getState.bind fun state => ?_
  split
  · exact emits_sendWhen _ _
  · exact emits_pure ()

theorem emits_serveChannelMessage (pkt : SshPacket) :
    Emits (EventFits serverPacket) (serveChannelMessage env pkt) := by
  rw [serveChannelMessage]
  split
  · exact emits_serveChannelOpen _
  · exact emits_serveChannelRequest env _
  · exact emits_serveChannelData env _
  · exact (emits_lift _).bind fun _ => emits_modifyState _
  · exact (emits_lift _).bind fun _ => emits_modifyState _
  · exact emits_serveClose env _
  · exact emits_modifyState _
  · exact emits_pure ()

theorem emits_receive (item : Received) : Emits (EventFits serverPacket) (receive env item) := by
  refine emits_getState.bind fun state => ?_
  split
  · exact emits_serveServiceRequest _
  · exact emits_serveAuthRequest env _
  · exact emits_serveChannelMessage env _
  · exact emits_modifyState _
  · exact emits_pure ()
  · exact emits_lift _

variable {env} {P : Primitives} {padding : Nat → Nat → UInt8} {keys : SessionKeys}

theorem sendsFitting_receive : SendsFitting serverPacket (receive env) :=
  emits_receive env

theorem duplex_serverService :
    Duplex (serverService env P padding) incoming outgoing Active :=
  duplex_packetService sendsFitting_receive

theorem settles_serverService : Settles (serverService env P padding) where
  ended item state hended := run_receive_finished (of_decide_eq_true hended) item
  failed error state hok := by
    change (run (receive env (.error error)) state).outcome = _ at hok
    apply decide_eq_true
    change (run (receive env (.error error)) state).state.phase = .finished
    rw [receive, run_getState_bind] at hok ⊢
    cases hphase : state.phase with
    | channels =>
        rw [hphase] at hok
        cases error with
        | connectionClosed => rfl
        | _ => cases hok
    | finished => exact hphase
    | _ =>
        rw [hphase] at hok
        cases hok

/-- What is received from the bytes of a connection. -/
def receivedFrom (P : Primitives) (keys : SessionKeys) (input : Bytes) : List Received :=
  receivedItems (recvPacket P) (input.length + 2) keys input

/-- The server on the bytes that follow the key exchange. -/
def serveBytes (env : ServerEnv) (P : Primitives) (padding : Nat → Nat → UInt8)
    (world : World Name) (keys : SessionKeys) (input : Bytes) :
    ByteProgram.Program.Run (Host SessionKeys ServerState ServerEvent) SshError Bool :=
  (serverService env P padding).stream (input.length + 2) ⟨keys, connected env world, []⟩ input

/-- How the server ends on a finite stream: it fails as its code does, or it has
left the channel loop, or a receive has panicked. -/
def endingOf (r : Ran ServerState ServerEvent SshError Unit) : Outcome SshError Bool :=
  match r.outcome with
  | .ok _ => if r.state.phase = .finished then .ok true else .panic
  | .err error => .err error
  | .panic => .panic

theorem ending_serverService (r : Ran ServerState ServerEvent SshError Unit) :
    (serverService env P padding).ending r = endingOf r := by
  rcases r with ⟨events, state, value | error | _⟩
  · change (if decide (state.phase = .finished) = true then _ else _) = _
    rw [endingOf]
    by_cases hphase : state.phase = .finished
    · rw [if_pos (decide_eq_true hphase), if_pos hphase]
    · rw [if_neg (by rwa [decide_eq_true_eq]), if_neg hphase]
  · rfl
  · rfl

theorem follows_serveBytes (world : World Name) (hactive : Active (outgoing keys))
    (input : Bytes) :
    Follows (serverService env P padding) outgoing ⟨keys, connected env world, []⟩
      (run (handleConnection env (receivedFrom P keys input)) (connected env world))
      (serveBytes env P padding world keys input) :=
  (@duplex_serverService env P padding).stream_follows settles_serverService (input.length + 2)
    ⟨keys, connected env world, []⟩ input (by omega) hactive

/-- On every stream of bytes the server does what the connection does on the
packets received from it, and a peer in step receives exactly the packets that the
connection sends. -/
theorem served_bytes_follow_packets (env : ServerEnv) (P : Primitives)
    (padding : Nat → Nat → UInt8) (world : World Name) (keys : SessionKeys)
    (hactive : Active (outgoing keys)) (input : Bytes) :
    let ran := run (handleConnection env (receivedFrom P keys input)) (connected env world)
    let served := serveBytes env P padding world keys input
    served.state.state = ran.state ∧ served.state.log = ran.events ∧
      served.outcome = endingOf ran ∧
      ∀ peer tail, Matching keys peer →
        (recvAll P (sentPackets ran.events).length peer (served.written ++ tail)).1.map Prod.fst =
            sentPackets ran.events ∧
          (recvAll P (sentPackets ran.events).length peer (served.written ++ tail)).2.2 = tail := by
  have hfollows := @follows_serveBytes env P padding keys world hactive input
  have hevents := (@duplex_serverService env P padding).performable_forEach
    (receivedFrom P keys input) (connected env world)
  refine ⟨hfollows.state, hfollows.log, ?_, ?_⟩
  · exact hfollows.outcome.trans (ending_serverService _)
  · intro peer tail hmatch
    have hreceives := recvAll_wire (@duplex_serverService env P padding) hevents hactive hmatch tail
    have hwritten : (serveBytes env P padding world keys input).written =
        (serverService env P padding).wire keys
          (run (handleConnection env (receivedFrom P keys input)) (connected env world)).events :=
      hfollows.written
    rw [hwritten]
    exact hreceives

/-- The bytes of a client that asks for the authentication service. -/
def sampleInput : Bytes :=
  stream (sendAll toyPrimitives sampleKeys
    [(buildServiceRequest "ssh-userauth", fun _ => 7)]).2

theorem served_bytes_sampleKeys :
    Active (outgoing sampleKeys) ∧ Matching sampleKeys sampleKeys ∧
      ((recvAll toyPrimitives
          (sentPackets (run (handleConnection AuthenticationGate.sampleEnv
            (receivedFrom toyPrimitives sampleKeys sampleInput))
            (connected AuthenticationGate.sampleEnv AuthenticationGate.sampleWorld)).events).length
          sampleKeys
          ((serveBytes AuthenticationGate.sampleEnv toyPrimitives (fun _ _ => 0)
            AuthenticationGate.sampleWorld sampleKeys sampleInput).written ++ [8])).2.2 = [8]) := by
  have hmatch : Matching sampleKeys sampleKeys :=
    ⟨rfl, .inr ⟨_, _, rfl, rfl, rfl, rfl⟩⟩
  refine ⟨rfl, hmatch, ?_⟩
  exact ((served_bytes_follow_packets AuthenticationGate.sampleEnv toyPrimitives (fun _ _ => 0)
    AuthenticationGate.sampleWorld sampleKeys rfl sampleInput).2.2.2 sampleKeys [8] hmatch).2

end SwiftSsh.ServedConnection
