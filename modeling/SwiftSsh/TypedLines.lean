import SwiftSsh.ClientOrder
import SwiftSsh.ReplySizes
import SwiftSsh.ServerOrder

namespace SwiftSsh.TypedLines

open SwiftSsh.ByteWords
open SwiftSsh.RustOutcome
open SwiftSsh.EventProgram
open SwiftSsh.WireTypes
open SwiftSsh.WireBuffer
open SwiftSsh.PacketCodec
open SwiftSsh.FileSystem
open SwiftSsh.SftpPaths
open SwiftSsh.ChannelMessages
open SwiftSsh.ServerLoop (ServerEnv ServerState ServerEvent handleConnection connected
  sftpRequestIn run_receive_finished)
open SwiftSsh.SftpFraming (run_receive_data)
open SwiftSsh.ReplySizes (maxChannelData maxPayload fits_channelData_iff)
open SwiftSsh.ServerOrder (reached_of_run phase_of_plan)
open SwiftSsh.DuplexTransport
open SwiftSsh.ClientSession
open SwiftSsh.ClientOrder

/-- A line that does not begin with the byte 0 and fits in a message. -/
structure Plain (line : String) : Prop where
  first : (utf8 line).head? ≠ some 0
  length : (utf8 line).length ≤ maxChannelData

/-- What a server does when it receives the messages of a client. -/
def served (env : ServerEnv) (world : World Name) (packets : List SshPacket) :
    Ran ServerState ServerEvent SshError Unit :=
  run (handleConnection env (packets.map .ok)) (connected env world)

/-- Whether an input comes from the server. -/
def isReceived : ClientInput → Bool
  | .received _ => true
  | .line _ => false

variable {env : ServerEnv} {world : World Name} {line : String}

/-- The length of a request is at most the length of its message, and so its first byte
is 0. -/
theorem sftpRequestIn_of_plain (hplain : Plain line) : sftpRequestIn (utf8 line) = none := by
  obtain ⟨hfirst, hlength⟩ := hplain
  unfold sftpRequestIn
  split
  · rfl
  · split
    · rename_i a b c d rest heq
      rw [heq] at hfirst hlength ⊢
      have hpos : 0 < a.toNat := by
        refine Nat.pos_of_ne_zero fun hzero => hfirst ?_
        rw [List.head?_cons, UInt8.toNat_inj.mp (show a.toNat = UInt8.toNat 0 from hzero)]
      refine if_neg ?_
      rintro ⟨hshort, -⟩
      rw [ofBe32_toNat] at hshort
      rw [maxChannelData, maxPayload] at hlength
      omega
    · rfl

/-- A connection in which lines can be received, or that has ended. -/
def Ready (r : Ran ServerState ServerEvent SshError Unit) : Prop :=
  r.outcome = .ok () → r.state.phase = .channels ∨ r.state.phase = .finished

theorem run_receive_line (hplain : Plain line) (remoteId : UInt32) {state : ServerState}
    (hphase : state.phase = .channels ∨ state.phase = .finished) :
    run (ServerLoop.receive env (.ok (buildChannelData remoteId (utf8 line)))) state =
      ⟨[], state, .ok ()⟩ := by
  rcases hphase with hchannels | hfinished
  · have hlength : (utf8 line).length ≤ maxPacketSize := by
      have hshort := hplain.length
      rw [maxChannelData, maxPayload] at hshort
      rw [maxPacketSize]
      omega
    rw [run_receive_data hchannels hlength, sftpRequestIn_of_plain hplain]
  · exact run_receive_finished hfinished _

theorem served_append (first second : List SshPacket) :
    served env world (first ++ second) =
      (served env world first).andThen fun _ => handleConnection env (second.map .ok) := by
  rw [served, handleConnection, List.map_append, run_forEach_append, run_bind]
  rfl

theorem served_append_line {packets : List SshPacket} (hplain : Plain line) (remoteId : UInt32)
    (hready : Ready (served env world packets)) :
    served env world (packets ++ [buildChannelData remoteId (utf8 line)]) =
      served env world packets := by
  rw [served_append]
  rcases hserved : served env world packets with ⟨events, state, value | error | _⟩
  · rw [hserved] at hready
    have hline := @run_receive_line env line hplain remoteId state (hready rfl)
    rw [Ran.andThen_ok, handleConnection, List.map_singleton, run_forEach_cons_ok hline,
      run_forEach_nil, Ran.after, Ran.after, List.append_nil, List.append_nil]
  · rfl
  · rfl

/-- A client that has asked for its channel is authenticated, or the connection has
failed. -/
theorem ready_of_opening (args : Args) (packets : List SshPacket) :
    Ready (served env world (openingPackets args ++ packets)) := by
  intro hok
  rcases hserved : served env world (openingPackets args ++ packets) with ⟨events, state, outcome⟩
  rw [hserved] at hok
  obtain rfl := hok
  have hreached := reached_of_run hserved
  have hpackets : ServerOrder.receivedPackets ((openingPackets args ++ packets).map .ok) =
      openingPackets args ++ packets := by
    rw [ServerOrder.receivedPackets, List.filterMap_map]
    exact List.filterMap_some
  rw [hpackets] at hreached
  generalize heq : openingPackets args ++ packets = all at hreached
  generalize ServedConnection.sentPackets events = sent at hreached
  cases hreached with
  | serviceRequest hphase => cases heq
  | @authentication service serviceName attempts hphase hservice hattempts =>
      cases heq
      -- the request for the channel is no attempt to authenticate
      obtain ⟨request, hrequest, -⟩ := hattempts openPacket
        (List.mem_cons_of_mem _ List.mem_cons_self)
      exact absurd hrequest.1 (by decide)
  | channels hphase => exact .inl hphase
  | finished hphase => exact .inr hphase

theorem served_append_congr {first second : List SshPacket}
    (hsame : served env world first = served env world second) (more : List SshPacket) :
    served env world (first ++ more) = served env world (second ++ more) := by
  rw [served_append, served_append, hsame]

variable {args : Args} {state : ClientState} {packets sent other : List SshPacket}
variable {lines : List String}

theorem served_typeLine (hreached : Reached args state packets lines sent)
    (hplain : Plain line) :
    ∃ events, run (typeLine line) state = ⟨events, state, .ok ()⟩ ∧
      served env world (sent ++ sentPackets events) = served env world sent := by
  by_cases hphase : state.phase = .shellOutput
  · have hfits : FitsEncrypted (buildChannelData state.remoteId (utf8 line)) :=
      fits_channelData_iff.mpr hplain.length
    refine ⟨[.sent (buildChannelData state.remoteId (utf8 line))], ?_, ?_⟩
    · rw [typeLine, run_getState_bind, hphase]
      exact run_send_of_fits hfits
    · apply served_append_line hplain
      cases hreached with
      | shellOutput => exact ready_of_opening args _
      | serviceAccept => cases hphase
      | authResponse => cases hphase
      | channelConfirmation => cases hphase
      | commandOutput haccept hsuccess hconfirm hcommand hother =>
          rw [hphase] at hother
          cases hother
      | finished hordered hother =>
          rw [hphase] at hother
          cases hother
  · refine ⟨[], run_typeLine_of_ne hphase line, ?_⟩
    exact congrArg _ (List.append_nil sent)

/-- A session and the same session without its lines, from states that agree. -/
theorem served_session (hreached : Reached args state packets lines sent)
    (hsame : served env world sent = served env world other) {inputs : List ClientInput}
    (hplain : ∀ line ∈ typedLines inputs, Plain line) :
    served env world (sent ++ sentPackets (run (forEach (react args) inputs) state).events) =
      served env world (other ++
        sentPackets (run (forEach (react args) (inputs.filter isReceived)) state).events) := by
  induction inputs generalizing state packets sent other lines with
  | nil =>
      rw [List.filter_nil, run_forEach_nil]
      exact served_append_congr hsame _
  | cons input inputs ih =>
      have hrest : ∀ line ∈ typedLines inputs, Plain line := by
        intro line hmem
        apply hplain
        rw [show input :: inputs = [input] ++ inputs from rfl, typedLines, List.filterMap_append]
        exact List.mem_append_right _ hmem
      have hsteps := steps_react hreached input
      cases input with
      | received item =>
          rw [List.filter_cons_of_pos rfl, forEach, forEach, run_bind, run_bind]
          rcases hrun : run (react args (.received item)) state with
            ⟨events, later, value | error | _⟩
          · rw [hrun] at hsteps
            rw [Ran.andThen_ok, Ran.andThen_ok, Ran.after, Ran.after, sentPackets, sentPackets,
              List.filterMap_append, List.filterMap_append, ← List.append_assoc,
              ← List.append_assoc]
            exact ih (hsteps.reached rfl) (served_append_congr hsame _) hrest
          · exact served_append_congr hsame _
          · exact served_append_congr hsame _
      | line text =>
          rw [List.filter_cons_of_neg Bool.false_ne_true]
          obtain ⟨events, hrun, hserved⟩ :=
            @served_typeLine env world text args state _ _ _ hreached (hplain text
              List.mem_cons_self)
          change run (react args (.line text)) state = _ at hrun
          rw [hrun] at hsteps
          rw [run_forEach_cons_ok hrun, Ran.after, sentPackets, List.filterMap_append,
            ← List.append_assoc]
          exact ih (hsteps.reached rfl) (hserved.trans hsame) hrest

/-- Whatever a client receives and whatever its user types: if no line begins with the
byte 0 and all of them fit, a server that receives the messages of the session does what
it does without the lines. -/
theorem typed_lines_ignored (args : Args) (env : ServerEnv) (world : World Name)
    (inputs : List ClientInput) (hplain : ∀ line ∈ typedLines inputs, Plain line) :
    served env world (sentPackets (run (session args inputs) beforeSession).events) =
      served env world
        (sentPackets (run (session args (inputs.filter isReceived)) beforeSession).events) := by
  have hstart : Reached args beforeSession [] [] [servicePacket] := .serviceAccept []
  rw [session, session, run_bind_ok (run_requestService beforeSession),
    run_bind_ok (run_requestService beforeSession)]
  exact served_session hstart rfl hplain

/-- A user who asks for a listing, on a connection that has been accepted. -/
def sampleInputs : List ClientInput :=
  [.received (.ok (UserAuth.buildServiceAccept "ssh-userauth")),
    .received (.ok UserAuth.buildAuthSuccess),
    .received (.ok (buildChannelOpenConfirmation 0 0 WireTypes.defaultWindowSize
      WireTypes.defaultMaxPacketSize)),
    .line "ls\n"]

theorem typed_lines_ignored_sample :
    Plain "ls\n" ∧
      served AuthenticationGate.sampleEnv AuthenticationGate.sampleWorld
          (sentPackets (run (session ⟨"alice", some "secret123", none, true⟩ sampleInputs)
            beforeSession).events) =
        served AuthenticationGate.sampleEnv AuthenticationGate.sampleWorld
          (sentPackets (run (session ⟨"alice", some "secret123", none, true⟩
            (sampleInputs.filter isReceived)) beforeSession).events) := by
  have hplain : Plain "ls\n" := ⟨by decide, by decide⟩
  have hlines : ∀ line ∈ typedLines sampleInputs, Plain line :=
    List.forall_mem_singleton.mpr hplain
  exact ⟨hplain, typed_lines_ignored _ _ _ sampleInputs hlines⟩

end SwiftSsh.TypedLines
