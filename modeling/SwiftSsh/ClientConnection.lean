import SwiftSsh.ClientOrder
import SwiftSsh.ServedConnection

namespace SwiftSsh.ClientConnection

open SwiftSsh.ByteWords
open SwiftSsh.RustOutcome
open SwiftSsh.EventProgram
open SwiftSsh.WireTypes
open SwiftSsh.SessionCrypto
open SwiftSsh.PacketTransport
open SwiftSsh.TransportLockstep
open SwiftSsh.HostedService
open SwiftSsh.ServiceNetwork
open SwiftSsh.DuplexTransport
open SwiftSsh.ServedConnection (receivedFrom)
open SwiftSsh.ClientSession
open SwiftSsh.ClientOrder

/-- The client on the bytes that follow the key exchange. -/
def clientBytes (args : Args) (P : Primitives) (padding : Nat → Nat → UInt8)
    (keys : SessionKeys) (input : Bytes) :
    ByteProgram.Program.Run (Host SessionKeys ClientState ClientEvent) SshError Bool :=
  proceed
    (ByteProgram.Program.run (hosted (clientService args P padding).perform requestService)
      ⟨keys, beforeSession, []⟩ input)
    ((clientService args P padding).stream (input.length + 2))

/-- How the client ends on a finite stream. -/
def endingOf (r : Ran ClientState ClientEvent SshError Unit) : Outcome SshError Bool :=
  match r.outcome with
  | .ok _ => if r.state.phase = .finished then .ok true else .panic
  | .err error => .err error
  | .panic => .panic

variable {args : Args} {P : Primitives} {padding : Nat → Nat → UInt8}

theorem ending_clientService (r : Ran ClientState ClientEvent SshError Unit) :
    (clientService args P padding).ending r = endingOf r := by
  rcases r with ⟨events, state, value | error | _⟩
  · change (if decide (state.phase = .finished) = true then _ else _) = _
    rw [endingOf]
    by_cases hphase : state.phase = .finished
    · rw [if_pos (decide_eq_true hphase), if_pos hphase]
    · rw [if_neg (by rwa [decide_eq_true_eq]), if_neg hphase]
  · rfl
  · rfl

theorem forEach_received (items : List Received) :
    forEach (react args) (items.map ClientInput.received) = forEach (receive args) items := by
  induction items with
  | nil => rfl
  | cons item items ih =>
      rw [List.map_cons, forEach, forEach, ih]
      rfl

theorem run_session (items : List Received) :
    run (session args (items.map .received)) beforeSession =
      (run (forEach (receive args) items) beforeSession).after [.sent servicePacket] := by
  rw [session, run_bind_ok (run_requestService beforeSession), forEach_received]

/-- The client after the service request. -/
def afterRequest (args : Args) (P : Primitives) (padding : Nat → Nat → UInt8)
    (keys : SessionKeys) : Host SessionKeys ClientState ClientEvent :=
  ⟨(clientService args P padding).performed keys [.sent servicePacket], beforeSession,
    [.sent servicePacket]⟩

theorem performable_request (event : ClientEvent) (hevent : event ∈ [.sent servicePacket]) :
    Performable (clientService args P padding) outgoing Active event := by
  rw [List.mem_singleton.mp hevent]
  apply performable_of_fits
  rintro packet ⟨⟩
  exact fitsEncrypted_servicePacket

theorem clientBytes_eq {keys : SessionKeys} (hactive : Active (outgoing keys)) (input : Bytes) :
    clientBytes args P padding keys input =
      ((clientService args P padding).stream (input.length + 2)
        (afterRequest args P padding keys) input).after
          ((clientService args P padding).wire keys [.sent servicePacket]) := by
  let start : Host SessionKeys ClientState ClientEvent := ⟨keys, beforeSession, []⟩
  have hrun : run requestService start.state = ⟨[.sent servicePacket], start.state, .ok ()⟩ :=
    run_requestService beforeSession
  have hrequest := (@duplex_clientService args P padding).run_hosted hrun performable_request
    hactive input
  rw [clientBytes, hrequest]
  rfl

/-- What the client does after the request. -/
theorem follows_session {keys : SessionKeys} (hactive : Active (outgoing keys)) (input : Bytes) :
    Follows (clientService args P padding) outgoing (afterRequest args P padding keys)
      (run (forEach (receive args) (receivedFrom P keys input)) beforeSession)
      ((clientService args P padding).stream (input.length + 2)
        (afterRequest args P padding keys) input) := by
  obtain ⟨hincoming, hstill⟩ :=
    (@duplex_clientService args P padding).performed_keeps performable_request hactive
  have hfollows := (@duplex_clientService args P padding).stream_follows settles_clientService
    (input.length + 2) (afterRequest args P padding keys) input (by omega) hstill
  have hsame : receivedItems (recvPacket P) (input.length + 2)
      (afterRequest args P padding keys).transport input = receivedFrom P keys input :=
    (@duplex_clientService args P padding).receivedItems_congr _ input hincoming
  rw [← hsame]
  exact hfollows

/-- As long as no line is typed: on every stream of bytes the client does what a session does
on the packets received from it, and a peer in step receives exactly the packets that the
session sends. -/
theorem client_bytes_follow_session (args : Args) (P : Primitives)
    (padding : Nat → Nat → UInt8) (keys : SessionKeys) (hactive : Active (outgoing keys))
    (input : Bytes) :
    let ran := run (session args ((receivedFrom P keys input).map .received)) beforeSession
    let client := clientBytes args P padding keys input
    client.state.state = ran.state ∧ client.state.log = ran.events ∧
      client.outcome = endingOf ran ∧
      ∀ peer tail, Matching keys peer →
        (recvAll P (sentPackets ran.events).length peer (client.written ++ tail)).1.map Prod.fst =
            sentPackets ran.events ∧
          (recvAll P (sentPackets ran.events).length peer (client.written ++ tail)).2.2 = tail := by
  have hfollows := @follows_session args P padding keys hactive input
  have hmore := (@duplex_clientService args P padding).performable_forEach
    (receivedFrom P keys input) beforeSession
  have hran := @run_session args (receivedFrom P keys input)
  have hclient := @clientBytes_eq args P padding keys hactive input
  change Follows _ _ _ (run (forEach (receive args) _) _) _ at hfollows
  change ∀ event ∈ (run (forEach (receive args) _) _).events, _ at hmore
  generalize run (forEach (receive args) (receivedFrom P keys input)) beforeSession = later
    at hfollows hmore hran
  generalize (clientService args P padding).stream (input.length + 2)
    (afterRequest args P padding keys) input = streamed at hfollows hclient
  have hwire := ((@duplex_clientService args P padding).performed_append performable_request
    hactive later.events).2
  generalize (clientService args P padding).wire keys [.sent servicePacket] = request
    at hclient hwire
  have hwritten : (streamed.after request).written =
      (clientService args P padding).wire keys ([.sent servicePacket] ++ later.events) :=
    (congrArg (request ++ ·) hfollows.written).trans hwire.symm
  intro ran client
  have hsame : ran = later.after [.sent servicePacket] := hran
  have hbytes : client = streamed.after request := hclient
  rw [hsame, hbytes]
  refine ⟨hfollows.state, hfollows.log, hfollows.outcome.trans (ending_clientService _), ?_⟩
  intro peer tail hmatch
  have hall := List.forall_mem_append.mpr ⟨@performable_request args P padding, hmore⟩
  rw [hwritten]
  exact recvAll_wire duplex_clientService hall hactive hmatch tail

/-- The bytes of a server that accepts the service. -/
def sampleInput : Bytes :=
  stream (sendAll toyPrimitives sampleKeys
    [(UserAuth.buildServiceAccept "ssh-userauth", fun _ => 7)]).2

theorem client_bytes_sampleKeys :
    Active (outgoing sampleKeys) ∧ Matching sampleKeys sampleKeys ∧
      ((recvAll toyPrimitives
          (sentPackets (run (session ⟨"alice", none, none, true⟩
            ((receivedFrom toyPrimitives sampleKeys sampleInput).map .received))
            beforeSession).events).length
          sampleKeys
          ((clientBytes ⟨"alice", none, none, true⟩ toyPrimitives (fun _ _ => 0) sampleKeys
            sampleInput).written ++ sampleInput)).2.2 = sampleInput) := by
  have hmatch : Matching sampleKeys sampleKeys :=
    ⟨rfl, .inr ⟨_, _, rfl, rfl, rfl, rfl⟩⟩
  refine ⟨rfl, hmatch, ?_⟩
  obtain ⟨-, -, -, hreceives⟩ := client_bytes_follow_session ⟨"alice", none, none, true⟩
    toyPrimitives (fun _ _ => 0) sampleKeys rfl sampleInput
  exact (hreceives sampleKeys sampleInput hmatch).2

end SwiftSsh.ClientConnection
