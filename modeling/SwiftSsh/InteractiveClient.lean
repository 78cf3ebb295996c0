import SwiftSsh.ChannelMessages
import SwiftSsh.SuspendedProgram
import SwiftSsh.TransportLockstep

/-!
The interactive loop of the client. Each round waits for a packet or for a line
of the user; a line drops the pending receive wherever it is suspended.
-/

namespace SwiftSsh.InteractiveClient

open Relation
open SwiftSsh.ByteWords
open SwiftSsh.RustOutcome
open SwiftSsh.ByteProgram
open SwiftSsh.ByteProgram.Program
open SwiftSsh.SuspendedProgram
open SwiftSsh.WireTypes
open SwiftSsh.WireBuffer
open SwiftSsh.PacketCodec
open SwiftSsh.SessionCrypto
open SwiftSsh.PacketTransport
open SwiftSsh.TransportLockstep
open SwiftSsh.ChannelMessages

/-- How the loop ends. -/
inductive Ending where
  | disconnected
  | closed
  | receiveFailed (error : SshError)
  | receivePanicked
  | handlingFailed (error : SshError)
  | sendFailed (error : SshError)
  | panicked
  deriving DecidableEq

/-- The loop between two events: the bytes that have not been taken from the
connection yet, the pending `recv_packet` and the packets handled so far. -/
structure Loop where
  keys : SessionKeys
  incoming : Bytes
  pending : Suspended SessionKeys SshError SshPacket
  handled : List SshPacket
  written : Bytes
  ended : Option Ending

/-- Start the next round with a new `recv_packet`. -/
def nextRound (P : Primitives) (keys : SessionKeys) (incoming : Bytes)
    (handled : List SshPacket) (written : Bytes) : Loop :=
  let r := poll (recvPacket P) keys
  ⟨r.2.1, incoming, ⟨r.1, [], 0⟩, handled, written ++ r.2.2, none⟩

/-- Leave the loop. -/
def finish (loop : Loop) (ending : Ending) : Loop :=
  { loop with ended := some ending }

/-- What `select!` can be woken by: a byte, the end of the stream or a typed line. -/
inductive Event where
  | byte
  | eof
  | line (text : Bytes) (rng : Nat → UInt8)

variable (P : Primitives) (remoteId : UInt32) (closePadding : Nat → UInt8)

/-- The arm for a received packet. -/
def handlePacket (loop : Loop) (packet : SshPacket) : Loop :=
  let handled := loop.handled ++ [packet]
  match MessageType.fromU8 packet.msgType with
  | some .channelData =>
      match ChannelDataMsg.parse packet.payload with
      | .ok _ => nextRound P loop.keys loop.incoming handled loop.written
      | .err error => finish { loop with handled := handled } (.handlingFailed error)
      | .panic => finish { loop with handled := handled } .panicked
  | some .channelClose =>
      let r := run (sendPacket P closePadding (buildChannelClose remoteId)) loop.keys []
      let loop := { loop with
        keys := r.state
        handled := handled
        written := loop.written ++ r.written }
      match r.outcome with
      | .ok _ => finish loop .closed
      | .err error => finish loop (.sendFailed error)
      | .panic => finish loop .panicked
  | _ => nextRound P loop.keys loop.incoming handled loop.written

/-- The receive arm of the loop. -/
def handleResult (loop : Loop) (result : Outcome SshError SshPacket) : Loop :=
  match result with
  | .ok packet => handlePacket P remoteId closePadding loop packet
  | .err .connectionClosed => finish loop .disconnected
  | .err error => finish loop (.receiveFailed error)
  | .panic => finish loop .receivePanicked

/-- The input arm of the loop: the pending receive has been dropped. -/
def handleLine (loop : Loop) (text : Bytes) (rng : Nat → UInt8) : Loop :=
  let r := run (sendPacket P rng (buildChannelData remoteId text)) loop.keys []
  let written := loop.written ++ r.written
  match r.outcome with
  | .ok _ => nextRound P r.state loop.incoming loop.handled written
  | .err error => finish { loop with keys := r.state, written := written } (.sendFailed error)
  | .panic => finish { loop with keys := r.state, written := written } .panicked

/-- One event for the loop, if it is still running and the event can happen. -/
def step (loop : Loop) (event : Event) : Option Loop :=
  match loop.ended with
  | some _ => none
  | none =>
      match event with
      | .byte =>
          match loop.incoming with
          | [] => none
          | byte :: incoming =>
              let fed := loop.pending.feed loop.keys byte
              let loop := { loop with
                keys := fed.2.1
                incoming := incoming
                pending := fed.1
                written := loop.written ++ fed.2.2 }
              match fed.1.program with
              | .done result => some (handleResult P remoteId closePadding loop result)
              | _ => some loop
      | .eof =>
          match loop.incoming, loop.pending.program with
          | [], .read _ eof _ => some (handleResult P remoteId closePadding loop (.err eof))
          | _, _ => none
      | .line text rng => some (handleLine P remoteId loop text rng)

/-- A round of the loop under any timing. -/
def Step (loop loop' : Loop) : Prop :=
  ∃ event, step P remoteId closePadding loop event = some loop'

/-- No line is taken while the pending receive has consumed a byte. -/
def Clean (loop : Loop) : Event → Prop
  | .line _ _ => loop.pending.consumed = 0
  | _ => True

/-- A round in which no line interrupts a packet. -/
def CleanStep (loop loop' : Loop) : Prop :=
  ∃ event, Clean loop event ∧ step P remoteId closePadding loop event = some loop'

variable {P remoteId closePadding}

theorem poll_recvPacket (P : Primitives) (keys : SessionKeys) :
    ∃ next, poll (recvPacket P) keys =
      (.read (blockSizeOf keys) .connectionClosed next, keys, []) := by
  have hblock := eight_le_blockSizeOf keys
  obtain ⟨next, hnext⟩ : ∃ next : SessionKeys → Bytes → Program SessionKeys SshError SshPacket,
      recvPacket P =
        .get fun keys => .read (blockSizeOf keys) .connectionClosed (next keys) :=
    ⟨_, rfl⟩
  refine ⟨next keys, ?_⟩
  rw [hnext, poll, poll, if_neg (by omega)]

/-- The bytes a sender writes for a list of packets. -/
inductive Wire (P : Primitives) : SessionKeys → List SshPacket → Bytes → Prop where
  | nil (keys : SessionKeys) : Wire P keys [] []
  | cons {keys : SessionKeys} {packet : SshPacket} {rng : Nat → UInt8} {data : Bytes}
      {packets : List SshPacket} {bytes : Bytes}
      (haccept : serialize packet (blockSizeOf keys) rng = .ok data)
      (hlater : Wire P (afterSend keys data.length) packets bytes) :
      Wire P keys (packet :: packets) (wireBytes P keys data ++ bytes)

theorem wire_sendAll (P : Primitives) (keys : SessionKeys) (sends : List Send) :
    Wire P keys ((acceptedPackets (sendAll P keys sends).2).map Prod.fst)
      (stream (sendAll P keys sends).2) := by
  induction sends generalizing keys with
  | nil => exact .nil keys
  | cons send sends ih =>
      obtain ⟨packet, rng⟩ := send
      cases hserialize : serialize packet (blockSizeOf keys) rng with
      | panic => exact absurd hserialize (serialize_ne_panic _ _ _)
      | err error =>
          rw [sendAll_cons_rejected sends hserialize]
          exact ih keys
      | ok data =>
          rw [sendAll_cons_accepted sends hserialize]
          exact .cons hserialize (ih _)

theorem Matching.receiver_afterSend {sender receiver : SessionKeys}
    (hmatch : Matching sender receiver) (count : Nat) :
    Matching sender (afterSend receiver count) := by
  obtain ⟨hseq, ⟨hs, hr, hsend, hrecv⟩ | ⟨outgoing, incoming, hs, hr, hcipher, hmac⟩⟩ :=
    hmatch
  · exact ⟨hseq, Or.inl ⟨hs, by simp [afterSend, hr], hsend, hrecv⟩⟩
  · refine ⟨hseq, Or.inr ⟨outgoing,
      { incoming with encrypt := advanceCipher incoming.encrypt count }, hs, ?_, hcipher, hmac⟩⟩
    simp [afterSend, hr]

/-- The pending receive is on the way to the first of the packets still to come:
together with the bytes it has taken it will do what a new `recv_packet` would
have done. -/
structure OnTrack (P : Primitives) (rest : List SshPacket) (loop : Loop) : Prop where
  waiting : loop.pending.Waiting
  track : ∃ server keys bytes taken output, Wire P server rest bytes ∧
    Matching server keys ∧
    run (recvPacket P) keys bytes =
      (loop.pending.residual loop.keys loop.incoming).after output ∧
    bytes = taken ++ loop.incoming ∧
    (loop.pending.consumed = 0 → loop.keys = keys ∧ taken = [])

/-- The handled packets are the first ones sent, and the loop has not ended with
an error of the receiver. -/
structure Sound (P : Primitives) (packets : List SshPacket) (loop : Loop) : Prop where
  handled : ∃ rest, packets = loop.handled ++ rest ∧
    (loop.ended = none → OnTrack P rest loop)
  receiving : ∀ error, loop.ended ≠ some (.receiveFailed error)
  unpanicked : loop.ended ≠ some .receivePanicked

theorem onTrack_nextRound {server keys : SessionKeys} {rest : List SshPacket}
    {bytes : Bytes} (hwire : Wire P server rest bytes) (hmatch : Matching server keys)
    (handled : List SshPacket) (written : Bytes) :
    OnTrack P rest (nextRound P keys bytes handled written) := by
  have hblock := eight_le_blockSizeOf keys
  obtain ⟨next, hpoll⟩ := poll_recvPacket P keys
  have hrun := run_poll (recvPacket P) keys bytes
  rw [nextRound]
  rw [hpoll] at hrun ⊢
  refine ⟨⟨_, _, _, rfl, ?_⟩, server, keys, bytes, [], [], hwire, hmatch, hrun, rfl, ?_⟩
  · simp only [List.length_nil]
    omega
  · exact fun _ => ⟨rfl, rfl⟩

theorem sound_finish {packets : List SshPacket} {loop : Loop} {ending : Ending}
    (hhandled : loop.handled <+: packets) (hreceive : ∀ error, ending ≠ .receiveFailed error)
    (hpanic : ending ≠ .receivePanicked) : Sound P packets (finish loop ending) where
  handled := by
    obtain ⟨rest, hrest⟩ := hhandled
    exact ⟨rest, hrest.symm, fun hnone => by simp [finish] at hnone⟩
  receiving error heq := hreceive error (Option.some.inj heq)
  unpanicked heq := hpanic (Option.some.inj heq)

theorem sound_nextRound {server keys : SessionKeys} {handled rest : List SshPacket}
    {bytes : Bytes} (hwire : Wire P server rest bytes) (hmatch : Matching server keys)
    (written : Bytes) : Sound P (handled ++ rest) (nextRound P keys bytes handled written) where
  handled := ⟨rest, rfl, fun _ => onTrack_nextRound hwire hmatch handled written⟩
  receiving _ := by simp [nextRound]
  unpanicked := by simp [nextRound]

theorem sound_handlePacket {server : SessionKeys} {packet : SshPacket}
    {rest : List SshPacket} (loop : Loop) (hwire : Wire P server rest loop.incoming)
    (hmatch : Matching server loop.keys) :
    Sound P (loop.handled ++ packet :: rest)
      (handlePacket P remoteId closePadding loop packet) := by
  have hsplit : loop.handled ++ packet :: rest = (loop.handled ++ [packet]) ++ rest := by simp
  have hfront : loop.handled ++ [packet] <+: (loop.handled ++ [packet]) ++ rest :=
    List.prefix_append _ _
  rw [hsplit, handlePacket]
  split
  · split
    · exact sound_nextRound hwire hmatch _
    · exact sound_finish hfront (by simp) (by simp)
    · exact sound_finish hfront (by simp) (by simp)
  · dsimp only
    split
    · exact sound_finish hfront (by simp) (by simp)
    · exact sound_finish hfront (by simp) (by simp)
    · exact sound_finish hfront (by simp) (by simp)
  · exact sound_nextRound hwire hmatch _

theorem run_recvPacket_nil (P : Primitives) (keys : SessionKeys) :
    run (recvPacket P) keys [] = ⟨.err .connectionClosed, keys, [], []⟩ := by
  have hblock := eight_le_blockSizeOf keys
  have hframe : run (recvFrame P) keys [] = ⟨.err .connectionClosed, keys, [], []⟩ := by
    rw [recvFrame, run_getState_bind]
    apply run_readExact_short
    simp only [List.length_nil]
    omega
  rw [recvPacket, run_bind, hframe]
  rfl

theorem sound_byte {packets : List SshPacket} {loop loop' : Loop}
    (hsound : Sound P packets loop)
    (hstep : step P remoteId closePadding loop .byte = some loop') : Sound P packets loop' := by
  obtain ⟨⟨rest, hpackets, htrack⟩, -, -⟩ := hsound
  obtain ⟨keys, incoming, pending, handled, written, ended⟩ := loop
  cases ended with
  | some ending => simp [step] at hstep
  | none =>
      obtain ⟨hwaiting, server, keys₀, bytes, taken, output, hwire, hmatch, hresidual,
        hbytes, -⟩ := htrack rfl
      dsimp only at hpackets hwaiting hresidual hbytes
      cases incoming with
      | nil => simp [step] at hstep
      | cons byte incoming =>
          rw [residual_feed hwaiting, Run.after_after] at hresidual
          rcases feed_done_or_waiting hwaiting keys byte with ⟨⟨result, hdone⟩, hgot⟩ | hwait
          · simp only [step, hdone, Option.some.injEq] at hstep
            subst hstep hpackets
            rw [Suspended.residual, hdone, hgot] at hresidual
            cases hwire with
            | nil => simp at hbytes
            | cons haccept hlater =>
                rw [run_recvPacket_sent _ hmatch haccept] at hresidual
                simp only [run, Run.after, Run.mk.injEq, List.nil_append] at hresidual
                obtain ⟨rfl, hkeys, rfl, -⟩ := hresidual
                rw [handleResult]
                refine sound_handlePacket ⟨_, _, _, handled, _, none⟩ hlater ?_
                rw [← hkeys]
                exact hmatch.step _
          · obtain ⟨count, eof, next, hprogram, hlength⟩ := hwait
            simp only [step, hprogram, Option.some.injEq] at hstep
            subst hstep
            refine ⟨⟨rest, hpackets, fun _ => ⟨⟨count, eof, next, hprogram, hlength⟩, server,
              keys₀, bytes, taken ++ [byte], _, hwire, hmatch, hresidual, ?_, ?_⟩⟩,
              by simp, by simp⟩
            · rw [hbytes, List.append_assoc]
              rfl
            · rw [feed_consumed hwaiting]
              omega

theorem sound_eof {packets : List SshPacket} {loop loop' : Loop}
    (hsound : Sound P packets loop)
    (hstep : step P remoteId closePadding loop .eof = some loop') : Sound P packets loop' := by
  obtain ⟨⟨rest, hpackets, htrack⟩, -, -⟩ := hsound
  obtain ⟨keys, incoming, pending, handled, written, ended⟩ := loop
  cases ended with
  | some ending => simp [step] at hstep
  | none =>
      obtain ⟨⟨count, eof, next, hprogram, hlength⟩, server, keys₀, bytes, taken, output,
        hwire, hmatch, hresidual, -, -⟩ := htrack rfl
      dsimp only at hpackets hprogram hlength hresidual
      cases incoming with
      | cons byte incoming => simp [step] at hstep
      | nil =>
          simp only [step, hprogram, Option.some.injEq] at hstep
          subst hstep hpackets
          rw [Suspended.residual, hprogram, List.append_nil, run,
            if_neg (by omega)] at hresidual
          cases hwire with
          | cons haccept hlater =>
              rw [run_recvPacket_sent _ hmatch haccept] at hresidual
              simp [Run.after] at hresidual
          | nil =>
              rw [run_recvPacket_nil] at hresidual
              simp only [Run.after, Run.mk.injEq, Outcome.err.injEq] at hresidual
              obtain ⟨rfl, -⟩ := hresidual
              exact sound_finish (List.prefix_append _ _) (by simp) (by simp)

theorem sound_line {packets : List SshPacket} {loop loop' : Loop} {text : Bytes}
    {rng : Nat → UInt8} (hsound : Sound P packets loop)
    (hclean : loop.pending.consumed = 0)
    (hstep : step P remoteId closePadding loop (.line text rng) = some loop') :
    Sound P packets loop' := by
  obtain ⟨⟨rest, hpackets, htrack⟩, -, -⟩ := hsound
  obtain ⟨keys, incoming, pending, handled, written, ended⟩ := loop
  cases ended with
  | some ending => simp [step] at hstep
  | none =>
      obtain ⟨-, server, keys₀, bytes, taken, output, hwire, hmatch, -, hbytes, hfresh⟩ :=
        htrack rfl
      obtain ⟨rfl, rfl⟩ := hfresh hclean
      dsimp only at hpackets hmatch hbytes
      simp only [step, Option.some.injEq] at hstep
      subst hstep hpackets
      obtain rfl : bytes = incoming := hbytes
      rw [handleLine]
      cases hserialize : serialize (buildChannelData remoteId text) (blockSizeOf keys) rng with
      | panic => exact absurd hserialize (serialize_ne_panic _ _ _)
      | err error =>
          rw [run_sendPacket_rejected [] hserialize]
          exact sound_finish (List.prefix_append _ _) (by simp) (by simp)
      | ok data =>
          rw [run_sendPacket_accepted [] hserialize]
          exact sound_nextRound hwire (Matching.receiver_afterSend hmatch _) _

theorem sound_cleanStep {packets : List SshPacket} {loop loop' : Loop}
    (hsound : Sound P packets loop) (hstep : CleanStep P remoteId closePadding loop loop') :
    Sound P packets loop' := by
  obtain ⟨event, hclean, hstep⟩ := hstep
  cases event with
  | byte => exact sound_byte hsound hstep
  | eof => exact sound_eof hsound hstep
  | line text rng => exact sound_line hsound hclean hstep

/-- The loop after the shell request, with the bytes the server will send. -/
def startLoop (P : Primitives) (keys : SessionKeys) (incoming : Bytes) : Loop :=
  nextRound P keys incoming [] []

/-- Over every run without a line in the middle of a packet, the handled packets
are the first ones the server sent and the receiver never fails. -/
theorem handled_prefix_of_cleanSteps (P : Primitives) (remoteId : UInt32)
    (closePadding : Nat → UInt8) (server client : SessionKeys)
    (hmatch : Matching server client) (sends : List Send) (loop : Loop)
    (hreach : ReflTransGen (CleanStep P remoteId closePadding)
      (startLoop P client (stream (sendAll P server sends).2)) loop) :
    loop.handled <+: (acceptedPackets (sendAll P server sends).2).map Prod.fst ∧
      (∀ error, loop.ended ≠ some (.receiveFailed error)) ∧
      loop.ended ≠ some .receivePanicked := by
  have hsound : Sound P ((acceptedPackets (sendAll P server sends).2).map Prod.fst) loop := by
    induction hreach with
    | refl =>
        have hstart := @sound_nextRound P server client [] _ _ (wire_sendAll P server sends)
          hmatch []
        rwa [List.nil_append] at hstart
    | tail _ hstep ih => exact sound_cleanStep ih hstep
  obtain ⟨rest, hrest, -⟩ := hsound.handled
  exact ⟨⟨rest, hrest.symm⟩, hsound.receiving, hsound.unpanicked⟩

/-- A run of the loop given by its events. -/
def runEvents (P : Primitives) (remoteId : UInt32) (closePadding : Nat → UInt8) :
    Loop → List Event → Option Loop
  | loop, [] => some loop
  | loop, event :: events =>
      (step P remoteId closePadding loop event).bind
        (fun loop => runEvents P remoteId closePadding loop events)

theorem reaches_of_runEvents {loop loop' : Loop} {events : List Event}
    (hrun : runEvents P remoteId closePadding loop events = some loop') :
    ReflTransGen (Step P remoteId closePadding) loop loop' := by
  induction events generalizing loop with
  | nil =>
      obtain rfl := Option.some.inj hrun
      exact .refl
  | cons event events ih =>
      obtain ⟨next, hstep, hlater⟩ := Option.bind_eq_some_iff.mp hrun
      exact .head ⟨event, hstep⟩ (ih hlater)

theorem cleanReaches_of_bytes {loop loop' : Loop} {count : Nat}
    (hrun : runEvents P remoteId closePadding loop (List.replicate count .byte) = some loop') :
    ReflTransGen (CleanStep P remoteId closePadding) loop loop' := by
  induction count generalizing loop with
  | zero =>
      obtain rfl := Option.some.inj hrun
      exact .refl
  | succ count ih =>
      obtain ⟨next, hstep, hlater⟩ := Option.bind_eq_some_iff.mp hrun
      exact .head ⟨.byte, trivial, hstep⟩ (ih hlater)

theorem runEvents_append {loop : Loop} (events later : List Event) :
    runEvents P remoteId closePadding loop (events ++ later) =
      (runEvents P remoteId closePadding loop events).bind
        fun loop => runEvents P remoteId closePadding loop later := by
  induction events generalizing loop with
  | nil => rfl
  | cons event events ih =>
      rw [List.cons_append, runEvents, runEvents, Option.bind_assoc]
      exact congrArg _ (funext fun _ => ih)

/-- Packets with a line that is typed after the first of them. -/
def talkSends : List Send :=
  [(buildChannelData 0 [104, 105], fun _ => 0), (buildChannelEof 0, fun _ => 0),
    (buildChannelData 0 [111, 107], fun _ => 0)]

/-- The loop at the start of these packets. -/
def talkStart : Loop :=
  startLoop toyPrimitives sampleKeys (stream (sendAll toyPrimitives sampleKeys talkSends).2)

theorem handled_prefix_talkSends :
    ∃ loop, ReflTransGen (CleanStep toyPrimitives 0 fun _ => 0) talkStart loop ∧
      loop.handled.length = 3 ∧ loop.written ≠ [] ∧
      loop.handled <+:
        (acceptedPackets (sendAll toyPrimitives sampleKeys talkSends).2).map Prod.fst := by
  have hfirst : (runEvents toyPrimitives 0 (fun _ => 0) talkStart
      (List.replicate 52 .byte)).map (fun loop => loop.pending.consumed) = some 0 := by
    decide +kernel
  have hall : (runEvents toyPrimitives 0 (fun _ => 0) talkStart
      (List.replicate 52 .byte ++ .line [10] (fun _ => 0) :: List.replicate 104 .byte)).map
        (fun loop => (loop.handled.length, loop.written.isEmpty)) = some (3, false) := by
    decide +kernel
  obtain ⟨between, hbetween, hclean⟩ := Option.map_eq_some_iff.mp hfirst
  obtain ⟨loop, hrun, hloop⟩ := Option.map_eq_some_iff.mp hall
  rw [runEvents_append, hbetween, Option.bind_some, runEvents] at hrun
  obtain ⟨next, hline, hlater⟩ := Option.bind_eq_some_iff.mp hrun
  have hreach : ReflTransGen (CleanStep toyPrimitives 0 fun _ => 0) talkStart loop :=
    ((cleanReaches_of_bytes hbetween).tail ⟨.line [10] fun _ => 0, hclean, hline⟩).trans
      (cleanReaches_of_bytes hlater)
  have hmatch : Matching sampleKeys sampleKeys :=
    ⟨rfl, Or.inr ⟨_, _, rfl, rfl, rfl, rfl⟩⟩
  obtain ⟨hhandled, hwritten⟩ := Prod.mk.inj hloop
  refine ⟨loop, hreach, hhandled, ?_, ?_⟩
  · rintro hnone
    rw [hnone] at hwritten
    cases hwritten
  · exact (handled_prefix_of_cleanSteps toyPrimitives 0 (fun _ => 0) sampleKeys sampleKeys
      hmatch talkSends loop hreach).1

/-- A packet whose second block looks like a huge packet length. -/
def longSends : List Send :=
  [(newPacket .channelData (List.replicate 40 255), fun _ => 0)]

/-- The loop at the start of this packet. -/
def longStart : Loop :=
  startLoop toyPrimitives sampleKeys (stream (sendAll toyPrimitives sampleKeys longSends).2)

/-- A line after the first block of a packet makes the loop read the next block
as the start of a packet. -/
theorem line_inside_packet_fails :
    ¬ ∀ loop, ReflTransGen (Step toyPrimitives 0 fun _ => 0) longStart loop →
      loop.handled <+:
          (acceptedPackets (sendAll toyPrimitives sampleKeys longSends).2).map Prod.fst ∧
        ∀ error, loop.ended ≠ some (.receiveFailed error) := by
  intro hall
  have hrun : (runEvents toyPrimitives 0 (fun _ => 0) longStart
      (List.replicate 16 .byte ++ .line [10] (fun _ => 0) :: List.replicate 16 .byte)).map
        Loop.ended =
      some (some (.receiveFailed (.invalidPacket "Packet length too large: 4294967295"))) := by
    decide +kernel
  obtain ⟨loop, hrun, hended⟩ := Option.map_eq_some_iff.mp hrun
  exact (hall loop (reaches_of_runEvents hrun)).2 _ hended

end SwiftSsh.InteractiveClient
