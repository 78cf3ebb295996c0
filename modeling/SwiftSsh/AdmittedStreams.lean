import SwiftSsh.AdmissionLaw
import SwiftSsh.HandshakeGrammar
import SwiftSsh.ServedConnection

namespace SwiftSsh.AdmittedStreams

open SwiftSsh.ByteWords
open SwiftSsh.RustOutcome
open SwiftSsh.EventProgram
open SwiftSsh.WireTypes
open SwiftSsh.PacketCodec
open SwiftSsh.SessionCrypto
open SwiftSsh.PacketTransport
open SwiftSsh.TransportGrammar
open SwiftSsh.HostedService
open SwiftSsh.DuplexTransport
open SwiftSsh.FileSystem
open SwiftSsh.SftpPaths
open SwiftSsh.KeyExchange
open SwiftSsh.Handshake
open SwiftSsh.HandshakeGrammar
open SwiftSsh.UserAuth
open SwiftSsh.ServerLoop
open SwiftSsh.ServedConnection
open SwiftSsh.AuthenticationGate
open SwiftSsh.AdmissionLaw

/-- What `handle_connection` does on a stream: nothing but its part of the handshake until
the keys are activated, and then what it does on the rest of the stream. -/
def serveConnection (env : ServerEnv) (P : Primitives) (server : HandshakeRandom)
    (padding : Nat → Nat → UInt8) (world : World Name) (input : Bytes) : List ServerEvent :=
  let handshake := ByteProgram.Program.run (serverHandshake P server) newSessionKeys input
  match handshake.outcome with
  | .ok _ => (serveBytes env P padding world handshake.state handshake.rest).state.log
  | .err _ => []
  | .panic => []

/-- The keys of a server that has seen this opening. -/
def keysAfter (P : Primitives) (server : HandshakeRandom) (opening : ClientOpening) :
    SessionKeys :=
  activatedServer P (resultOf P (opening.exchange P server))

variable {env : ServerEnv} {P : Primitives} {server : HandshakeRandom}
variable {padding : Nat → Nat → UInt8} {world : World Name} {input : Bytes}
variable {keys : SessionKeys} {packets : List SshPacket} {state : ServerState}

theorem prefix_receivedItems_iff {fuel : Nat} :
    packets.map .ok <+: receivedItems (recvPacket P) fuel keys input ↔
      packets.length ≤ fuel ∧ ∃ later rest, InFrames P packets keys input later rest := by
  induction packets generalizing fuel keys input with
  | nil =>
      refine iff_of_true List.nil_prefix ⟨Nat.zero_le fuel, keys, input, ?_⟩
      exact inFrames_nil_iff.mpr ⟨rfl, rfl⟩
  | cons packet packets ih =>
      obtain _ | fuel := fuel
      · refine iff_of_false (fun hfront => ?_) fun hcount => Nat.not_succ_le_zero _ hcount.1
        cases List.prefix_nil.mp hfront
      have hwritten := writesNothing_recvPacket P keys input
      simp only [inFrames_cons_iff]
      rw [receivedItems]
      generalize ByteProgram.Program.run (recvPacket P) keys input = received at hwritten ⊢
      rcases received with ⟨first | error | _, middle, between, written⟩
      · obtain rfl : written = [] := hwritten
        dsimp only
        rw [List.map_cons, List.cons_prefix_cons, ih]
        constructor
        · rintro ⟨hfirst, hcount, later, rest, hframes⟩
          obtain rfl := Except.ok.inj hfirst
          exact ⟨Nat.succ_le_succ hcount, later, rest, middle, between, rfl, hframes⟩
        · rintro ⟨hcount, later, rest, _, _, ⟨⟩, hframes⟩
          exact ⟨rfl, Nat.le_of_succ_le_succ hcount, later, rest, hframes⟩
      · refine iff_of_false (fun hfront => ?_) ?_
        · cases (List.cons_prefix_cons.mp hfront).1
        · rintro ⟨-, _, _, _, _, ⟨⟩, -⟩
      · refine iff_of_false (fun hfront => ?_) ?_
        · cases List.prefix_nil.mp hfront
        · rintro ⟨-, _, _, _, _, ⟨⟩, -⟩

theorem length_le_wirePackets (framed : List (SshPacket × Bytes)) :
    framed.length ≤ (wirePackets P keys framed).length := by
  induction framed generalizing keys with
  | nil => exact le_rfl
  | cons entry framed ih =>
      obtain ⟨packet, padding⟩ := entry
      have hlater := @ih (afterRecv keys (frame packet padding).length)
      have hframe := frame_length packet padding
      rw [wirePackets, wirePacket, List.length_cons]
      simp only [List.length_append, decrypted_length]
      omega

theorem prefix_receivedFrom_iff :
    packets.map .ok <+: receivedFrom P keys input ↔
      ∃ (framed : List (SshPacket × Bytes)) (more : Bytes), framed.map Prod.fst = packets ∧
        (∀ entry ∈ framed, Framed keys entry.1 entry.2) ∧
        input = wirePackets P keys framed ++ more := by
  rw [receivedFrom, prefix_receivedItems_iff]
  constructor
  · rintro ⟨-, later, rest, framed, hpackets, hframed, hinput, -⟩
    exact ⟨framed, rest, hpackets, hframed, hinput⟩
  · rintro ⟨framed, more, rfl, hframed, rfl⟩
    have hlength := @length_le_wirePackets P keys framed
    refine ⟨?_, _, more, framed, rfl, hframed, rfl, rfl⟩
    rw [List.length_map, List.length_append]
    omega

theorem sent_of_not_admitted {received : List Received} (hphase : state.phase ≠ .channels)
    (hadmitted : .sent buildAuthSuccess ∉ (run (handleConnection env received) state).events) :
    ∀ event ∈ (run (handleConnection env received) state).events,
      ∃ packet, event = .sent packet := by
  rw [handleConnection] at hadmitted ⊢
  induction received generalizing state with
  | nil => rintro event ⟨⟩
  | cons item received ih =>
      rw [forEach, run_bind] at hadmitted ⊢
      rcases @receive_quiet env state item hphase with
        ⟨packet, request, -, -, -, -, hrun⟩ | ⟨hadmits, hacts⟩
      · rw [hrun, Ran.andThen_ok] at hadmitted
        exact absurd (List.mem_append_left _ (List.mem_singleton_self _)) hadmitted
      · rw [Admits, not_or] at hadmits
        have hround : ∀ event ∈ (run (receive env item) state).events,
            ∃ packet, event = .sent packet := by
          intro event hmem
          cases event with
          | sent packet => exact ⟨packet, rfl⟩
          | executed command => exact absurd (.inl ⟨command, hmem⟩) hacts
          | handled request => exact absurd (.inr (.inl ⟨request, hmem⟩)) hacts
        rcases hrun : run (receive env item) state with ⟨events, later, value | error | _⟩
        · rw [hrun] at hround hadmits hadmitted
          rw [Ran.andThen_ok] at hadmitted ⊢
          have hlater : later.phase ≠ .channels := fun hchannels => hadmits.2 ⟨hphase, hchannels⟩
          intro event hmem
          rcases List.mem_append.mp hmem with hfirst | hsecond
          · exact hround event hfirst
          · exact ih hlater (fun hsent => hadmitted (List.mem_append_right _ hsent)) event hsecond
        · rw [hrun] at hround
          exact hround
        · rw [hrun] at hround
          exact hround

theorem serveConnection_of_activates {result : KexResult} {rest written : Bytes}
    (hhandshake : ByteProgram.Program.run (serverHandshake P server) newSessionKeys input =
      ⟨.ok result, keys, rest, written⟩) :
    serveConnection env P server padding world input =
      (serveBytes env P padding world keys rest).state.log := by
  rw [serveConnection, hhandshake]

theorem activates_of_mem {event : ServerEvent}
    (hmem : event ∈ serveConnection env P server padding world input) :
    ∃ (opening : ClientOpening) (rest : Bytes), input = opening.bytes ++ rest := by
  rw [serveConnection] at hmem
  rcases hhandshake : ByteProgram.Program.run (serverHandshake P server) newSessionKeys input with
    ⟨result | error | _, later, rest, written⟩
  · obtain ⟨opening, rfl, -⟩ := server_activates_iff.mp hhandshake
    exact ⟨opening, rest, rfl⟩
  · rw [hhandshake] at hmem
    cases hmem
  · rw [hhandshake] at hmem
    cases hmem

/-- After the opening the server does what the connection does on what it receives. -/
theorem serveConnection_opening (opening : ClientOpening) (rest : Bytes) :
    serveConnection env P server padding world (opening.bytes ++ rest) =
      (run (handleConnection env (receivedFrom P (keysAfter P server opening) rest))
        (connected env world)).events := by
  have hhandshake : ByteProgram.Program.run (serverHandshake P server) newSessionKeys
      (opening.bytes ++ rest) = ⟨.ok _, _, rest, _⟩ :=
    server_activates_iff.mpr ⟨opening, rfl, rfl, rfl, rfl⟩
  rw [serveConnection_of_activates hhandshake]
  exact (@follows_serveBytes env P padding (keysAfter P server opening) world rfl rest).log

/-- The messages of a login: a service, attempts that miss, and one that does not. -/
def Login (additions : List Addition) (messages : List SshPacket) : Prop :=
  ∃ (service : SshPacket) (attempts : List SshPacket) (success : SshPacket),
    messages = service :: (attempts ++ [success]) ∧ Opens service ∧
      (∀ attempt ∈ attempts, Misses additions attempt) ∧ Presents additions success

theorem login_prefix_iff {additions : List Addition} {received : List Received} :
    (∃ service rest, received = .ok service :: rest ∧ Opens service ∧
        Authenticates additions rest) ↔
      ∃ messages, Login additions messages ∧ messages.map .ok <+: received := by
  constructor
  · rintro ⟨service, _, rfl, hopens, attempts, success, more, rfl, hattempts, hpresents⟩
    refine ⟨_, ⟨service, attempts, success, rfl, hopens, hattempts, hpresents⟩, more, ?_⟩
    simp
  · rintro ⟨_, ⟨service, attempts, success, rfl, hopens, hattempts, hpresents⟩, more, rfl⟩
    refine ⟨service, attempts.map .ok ++ .ok success :: more, ?_, hopens, attempts, success, more,
      rfl, hattempts, hpresents⟩
    simp

/-- A server that has been given its users by any sequence of calls admits somebody on
exactly these streams: the opening of a handshake, then in frames under the keys of this
handshake the messages of a login, and then anything. On every other stream it runs no
command and serves no file request, whatever it has sent. -/
theorem admitting_streams_iff (env : ServerEnv) (additions : List Addition) (P : Primitives)
    (server : HandshakeRandom) (padding : Nat → Nat → UInt8) (world : World Name)
    (input : Bytes) :
    let log := serveConnection { env with userDb := databaseOf additions } P server padding world
      input
    (.sent buildAuthSuccess ∈ log ↔
      ∃ (opening : ClientOpening) (framed : List (SshPacket × Bytes)) (more : Bytes),
        input = opening.bytes ++ (wirePackets P (keysAfter P server opening) framed ++ more) ∧
        (∀ entry ∈ framed, Framed (keysAfter P server opening) entry.1 entry.2) ∧
        Login additions (framed.map Prod.fst)) ∧
    (.sent buildAuthSuccess ∉ log → ∀ event ∈ log, ∃ packet, event = .sent packet) := by
  refine ⟨⟨?_, ?_⟩, ?_⟩
  · intro hmem
    obtain ⟨opening, rest, rfl⟩ := activates_of_mem hmem
    rw [serveConnection_opening, admitted_connected rfl, login_prefix_iff] at hmem
    obtain ⟨messages, hlogin, hfront⟩ := hmem
    obtain ⟨framed, more, rfl, hframed, rfl⟩ := prefix_receivedFrom_iff.mp hfront
    exact ⟨opening, framed, more, rfl, hframed, hlogin⟩
  · rintro ⟨opening, framed, more, rfl, hframed, hlogin⟩
    rw [serveConnection_opening, admitted_connected rfl, login_prefix_iff]
    exact ⟨_, hlogin, prefix_receivedFrom_iff.mpr ⟨framed, more, rfl, hframed, rfl⟩⟩
  · intro hadmitted event hmem
    obtain ⟨opening, rest, rfl⟩ := activates_of_mem hmem
    rw [serveConnection_opening] at hadmitted hmem
    have hphase : (connected { env with userDb := databaseOf additions } world).phase ≠
        .channels := by
      rintro ⟨⟩
    exact sent_of_not_admitted hphase hadmitted event hmem

end SwiftSsh.AdmittedStreams
