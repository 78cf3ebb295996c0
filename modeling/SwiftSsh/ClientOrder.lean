import SwiftSsh.ClientSession

namespace SwiftSsh.ClientOrder

open SwiftSsh.ByteWords
open SwiftSsh.RustOutcome
open SwiftSsh.EventProgram
open SwiftSsh.WireTypes
open SwiftSsh.WireBuffer
open SwiftSsh.SftpPaths
open SwiftSsh.UserAuth
open SwiftSsh.ChannelMessages
open SwiftSsh.ChannelTable
open SwiftSsh.DuplexTransport
open SwiftSsh.ClientSession

/-- The first message of every client. -/
def servicePacket : SshPacket :=
  buildServiceRequest "ssh-userauth"

/-- The only channel has the number 0. -/
def openPacket : SshPacket :=
  buildChannelOpen "session" 0 defaultWindowSize defaultMaxPacketSize

variable (args : Args)

/-- The messages up to the request for the channel. -/
def openingPackets : List SshPacket :=
  [servicePacket, authPacket args, openPacket]

/-- The packet for which the client waits before it authenticates. -/
def AcceptsService (pkt : SshPacket) : Prop :=
  pkt.msgType = MessageType.serviceAccept.toU8

/-- The packet for which the client waits before it opens its channel. -/
def AdmitsUser (pkt : SshPacket) : Prop :=
  pkt.msgType = MessageType.userAuthSuccess.toU8

/-- A CHANNEL_OPEN_CONFIRMATION that parses. -/
def Confirms (pkt : SshPacket) (confirmation : Confirmation) : Prop :=
  pkt.msgType = MessageType.channelOpenConfirmation.toU8 ∧
    parse readConfirmation pkt.payload = .ok confirmation

/-- How a session ends once it has its channel: after the close of the channel, or
without it. -/
def closings (remoteId : UInt32) : List (List SshPacket) :=
  [[disconnectPacket], [buildChannelClose remoteId, disconnectPacket]]

/-- The messages on a confirmed channel. -/
inductive OnChannel (remoteId : UInt32) (lines : List String) : List SshPacket → Prop where
  | command {command : String} {sent closing : List SshPacket}
      (hcommand : args.command = some command) (hclosing : closing ∈ closings remoteId)
      (hsent : sent <+: buildExecRequest remoteId command true :: closing) :
      OnChannel remoteId lines sent
  | shell {typed : List String} {sent closing : List SshPacket}
      (hcommand : args.command = none) (hshell : args.interactive = true)
      (htyped : typed.Sublist lines) (hclosing : closing ∈ closings remoteId)
      (hsent : sent <+: buildShellRequest remoteId true ::
        typed.map (fun line => buildChannelData remoteId (utf8 line)) ++ closing) :
      OnChannel remoteId lines sent
  | neither {sent : List SshPacket} (hcommand : args.command = none)
      (hshell : args.interactive = false) (hsent : sent <+: [disconnectPacket]) :
      OnChannel remoteId lines sent

/-- What a client may have sent when it has received these packets and taken these
lines. -/
inductive Ordered : List SshPacket → List String → List SshPacket → Prop where
  | service {packets : List SshPacket} {lines : List String} {sent : List SshPacket}
      (hsent : sent <+: [servicePacket]) : Ordered packets lines sent
  | auth {accept : SshPacket} {packets : List SshPacket} {lines : List String}
      (haccept : AcceptsService accept) :
      Ordered (accept :: packets) lines [servicePacket, authPacket args]
  | opening {accept success : SshPacket} {packets : List SshPacket} {lines : List String}
      (haccept : AcceptsService accept) (hsuccess : AdmitsUser success) :
      Ordered (accept :: success :: packets) lines (openingPackets args)
  | channel {accept success confirm : SshPacket} {confirmation : Confirmation}
      {packets : List SshPacket} {lines : List String} {sent : List SshPacket}
      (haccept : AcceptsService accept) (hsuccess : AdmitsUser success)
      (hconfirm : Confirms confirm confirmation)
      (hsent : OnChannel args confirmation.remoteId lines sent) :
      Ordered (accept :: success :: confirm :: packets) lines (openingPackets args ++ sent)

/-- The state of a session that has not failed, by what it waits for. -/
inductive Reached : ClientState → List SshPacket → List String → List SshPacket → Prop where
  | serviceAccept (lines : List String) : Reached beforeSession [] lines [servicePacket]
  | authResponse {accept : SshPacket} (lines : List String) (haccept : AcceptsService accept) :
      Reached { beforeSession with phase := .authResponse } [accept] lines
        [servicePacket, authPacket args]
  | channelConfirmation {accept success : SshPacket} (lines : List String)
      (haccept : AcceptsService accept) (hsuccess : AdmitsUser success) :
      Reached ⟨.channelConfirmation, (openChannel newChannelManager "session").2, 0, 0⟩
        [accept, success] lines (openingPackets args)
  | commandOutput {accept success confirm : SshPacket} {confirmation : Confirmation}
      {packets : List SshPacket} {lines : List String} {state : ClientState} {command : String}
      (haccept : AcceptsService accept) (hsuccess : AdmitsUser success)
      (hconfirm : Confirms confirm confirmation) (hcommand : args.command = some command)
      (hphase : state.phase = .commandOutput) (hremote : state.remoteId = confirmation.remoteId) :
      Reached state (accept :: success :: confirm :: packets) lines
        (openingPackets args ++ [buildExecRequest confirmation.remoteId command true])
  | shellOutput {accept success confirm : SshPacket} {confirmation : Confirmation}
      {packets : List SshPacket} {lines typed : List String} {state : ClientState}
      (haccept : AcceptsService accept) (hsuccess : AdmitsUser success)
      (hconfirm : Confirms confirm confirmation) (hcommand : args.command = none)
      (hshell : args.interactive = true) (htyped : typed.Sublist lines)
      (hphase : state.phase = .shellOutput) (hremote : state.remoteId = confirmation.remoteId) :
      Reached state (accept :: success :: confirm :: packets) lines
        (openingPackets args ++ buildShellRequest confirmation.remoteId true ::
          typed.map fun line => buildChannelData confirmation.remoteId (utf8 line))
  | finished {packets : List SshPacket} {lines : List String} {sent : List SshPacket}
      {state : ClientState} (hordered : Ordered args packets lines sent)
      (hphase : state.phase = .finished) : Reached state packets lines sent

variable {args} {packets : List SshPacket} {lines : List String} {sent : List SshPacket}
variable {remoteId : UInt32} {state : ClientState}

theorem OnChannel.mono (honChannel : OnChannel args remoteId lines sent) (more : List String) :
    OnChannel args remoteId (lines ++ more) sent := by
  cases honChannel with
  | command hcommand hclosing hsent => exact .command hcommand hclosing hsent
  | shell hcommand hshell htyped hclosing hsent =>
      exact .shell hcommand hshell (htyped.trans (List.sublist_append_left lines more)) hclosing
        hsent
  | neither hcommand hshell hsent => exact .neither hcommand hshell hsent

theorem Ordered.mono (hordered : Ordered args packets lines sent) (later : List SshPacket)
    (more : List String) : Ordered args (packets ++ later) (lines ++ more) sent := by
  cases hordered with
  | service hsent => exact .service hsent
  | auth haccept => exact .auth haccept
  | opening haccept hsuccess => exact .opening haccept hsuccess
  | channel haccept hsuccess hconfirm hsent =>
      exact .channel haccept hsuccess hconfirm (hsent.mono more)

theorem Reached.ordered (hreached : Reached args state packets lines sent) :
    Ordered args packets lines sent := by
  cases hreached with
  | serviceAccept lines => exact .service List.prefix_rfl
  | authResponse lines haccept => exact .auth haccept
  | channelConfirmation lines haccept hsuccess => exact .opening haccept hsuccess
  | @commandOutput _ _ _ confirmation _ _ _ command haccept hsuccess hconfirm hcommand _ _ =>
      refine .channel haccept hsuccess hconfirm (.command hcommand (List.mem_cons_self ..) ?_)
      exact List.prefix_append [buildExecRequest confirmation.remoteId command true] _
  | shellOutput haccept hsuccess hconfirm hcommand hshell htyped hphase hremote =>
      refine .channel haccept hsuccess hconfirm
        (.shell hcommand hshell htyped (List.mem_cons_self ..) ?_)
      exact List.prefix_append _ _
  | finished hordered hphase => exact hordered

theorem Reached.moreLines (hreached : Reached args state packets lines sent)
    (more : List String) : Reached args state packets (lines ++ more) sent := by
  cases hreached with
  | serviceAccept lines => exact .serviceAccept _
  | authResponse lines haccept => exact .authResponse _ haccept
  | channelConfirmation lines haccept hsuccess => exact .channelConfirmation _ haccept hsuccess
  | commandOutput haccept hsuccess hconfirm hcommand hphase hremote =>
      exact .commandOutput haccept hsuccess hconfirm hcommand hphase hremote
  | shellOutput haccept hsuccess hconfirm hcommand hshell htyped hphase hremote =>
      exact .shellOutput haccept hsuccess hconfirm hcommand hshell
        (htyped.trans (List.sublist_append_left lines more)) hphase hremote
  | finished hordered hphase =>
      have hmore := hordered.mono [] more
      rw [List.append_nil] at hmore
      exact .finished hmore hphase

/-- A round that is in order and goes on, if it does, in a reached state. -/
structure Steps (args : Args) (packets : List SshPacket) (lines : List String)
    (sent : List SshPacket) (r : Ran ClientState ClientEvent SshError Unit) : Prop where
  ordered : Ordered args packets lines (sent ++ sentPackets r.events)
  reached : r.outcome = .ok () →
    Reached args r.state packets lines (sent ++ sentPackets r.events)

theorem steps_of_reached {r : Ran ClientState ClientEvent SshError Unit}
    (hreached : Reached args r.state packets lines (sent ++ sentPackets r.events)) :
    Steps args packets lines sent r :=
  ⟨hreached.ordered, fun _ => hreached⟩

theorem steps_of_failed {outcome : Outcome SshError Unit} {later : ClientState}
    (hordered : Ordered args packets lines sent) (hfailed : outcome ≠ .ok ()) :
    Steps args packets lines sent ⟨[], later, outcome⟩ := by
  refine ⟨?_, fun hok => absurd hok hfailed⟩
  rw [show sentPackets ([] : List ClientEvent) = [] from rfl, List.append_nil]
  exact hordered

theorem steps_of_quiet {events : List ClientEvent} {later : ClientState}
    {outcome : Outcome SshError Unit} (hquiet : sentPackets events = [])
    (hordered : Ordered args packets lines sent)
    (hreached : outcome = .ok () → Reached args later packets lines sent) :
    Steps args packets lines sent ⟨events, later, outcome⟩ := by
  constructor
  · rw [hquiet, List.append_nil]
    exact hordered
  · intro hok
    rw [hquiet, List.append_nil]
    exact hreached hok

/-- A round that sends a packet, if it is accepted, and then waits. -/
theorem steps_send {packet : SshPacket} (phase : ClientPhase)
    (hordered : Ordered args packets lines sent)
    (hreached : Reached args { state with phase := phase } packets lines (sent ++ [packet])) :
    Steps args packets lines sent
      (run (do
        send packet
        waitFor phase) state) := by
  by_cases hfits : FitsEncrypted packet
  · rw [run_bind_ok (run_send_of_fits hfits)]
    exact steps_of_reached hreached
  · rw [run_bind_err (run_send_of_too_large hfits)]
    refine steps_of_failed hordered ?_
    rintro ⟨⟩

theorem steps_onServiceAccept (lines : List String) (pkt : SshPacket) :
    Steps args [pkt] lines [servicePacket] (run (onServiceAccept args pkt) beforeSession) := by
  have hordered : Ordered args [pkt] lines [servicePacket] := .service List.prefix_rfl
  rw [onServiceAccept]
  split
  · refine steps_of_failed hordered ?_
    rintro ⟨⟩
  · rename_i htype
    exact steps_send .authResponse hordered (.authResponse lines (not_not.mp htype))

theorem steps_onAuthResponse {accept : SshPacket} (lines : List String)
    (haccept : AcceptsService accept) (pkt : SshPacket) :
    Steps args [accept, pkt] lines [servicePacket, authPacket args]
      (run (onAuthResponse pkt) { beforeSession with phase := .authResponse }) := by
  have hordered : Ordered args [accept, pkt] lines [servicePacket, authPacket args] :=
    .auth haccept
  rw [onAuthResponse]
  split
  · rename_i htype
    rw [run_openSession]
    exact steps_send .channelConfirmation hordered (.channelConfirmation lines haccept htype)
  · split
    · refine steps_of_failed hordered ?_
      rintro ⟨⟩
    · refine steps_of_failed hordered ?_
      rintro ⟨⟩

theorem confirmChannel_ok (remoteId remoteWindow remoteMaxPacket : UInt32) :
    (confirmChannel (openChannel newChannelManager "session").2 0 remoteId remoteWindow
      remoteMaxPacket).1 = .ok () := by
  have hget : (openChannel newChannelManager "session").2.get 0 = some (newChannel 0 "session") :=
    get_openChannel newChannelManager "session"
  rw [confirmChannel, changeLocal, hget]

theorem steps_startMode {accept success confirm : SshPacket} {confirmation : Confirmation}
    (haccept : AcceptsService accept) (hsuccess : AdmitsUser success)
    (hconfirm : Confirms confirm confirmation) (lines : List String)
    (hremote : state.remoteId = confirmation.remoteId) :
    Steps args [accept, success, confirm] lines (openingPackets args)
      (run (startMode args confirmation.remoteId) state) := by
  have hordered : Ordered args [accept, success, confirm] lines (openingPackets args) :=
    .opening haccept hsuccess
  rw [startMode]
  cases hcommand : args.command with
  | some command =>
      exact steps_send .commandOutput hordered
        (.commandOutput haccept hsuccess hconfirm hcommand rfl hremote)
  | none =>
      dsimp only
      split
      · rename_i hshell
        exact steps_send .shellOutput hordered
          (.shellOutput haccept hsuccess hconfirm hcommand hshell (List.nil_sublist lines) rfl
            hremote)
      · rename_i hshell
        rw [run_disconnect]
        refine steps_of_reached (.finished ?_ rfl)
        exact .channel haccept hsuccess hconfirm
          (.neither hcommand (Bool.not_eq_true _ ▸ hshell) List.prefix_rfl)

theorem steps_onConfirmation {accept success : SshPacket} (lines : List String)
    (haccept : AcceptsService accept) (hsuccess : AdmitsUser success) (pkt : SshPacket) :
    Steps args [accept, success, pkt] lines (openingPackets args)
      (run (onConfirmation args pkt)
        ⟨.channelConfirmation, (openChannel newChannelManager "session").2, 0, 0⟩) := by
  have hordered : Ordered args [accept, success, pkt] lines (openingPackets args) :=
    .opening haccept hsuccess
  rw [onConfirmation]
  split
  · refine steps_of_failed hordered ?_
    rintro ⟨⟩
  · rename_i htype
    cases hparse : parse readConfirmation pkt.payload with
    | ok confirmation =>
        rw [run_lift_ok_bind, run_getState_bind]
        dsimp only
        rw [run_modifyState_bind, confirmChannel_ok, run_lift_ok_bind]
        exact steps_startMode haccept hsuccess ⟨not_not.mp htype, hparse⟩ lines rfl
    | err error =>
        refine steps_of_failed hordered ?_
        rintro ⟨⟩
    | panic =>
        refine steps_of_failed hordered ?_
        rintro ⟨⟩

theorem steps_printData (hreached : Reached args state packets lines sent) (payload : Bytes) :
    Steps args packets lines sent (run (printData payload) state) := by
  rw [printData]
  cases ChannelDataMsg.parse payload with
  | ok msg => exact steps_of_quiet rfl hreached.ordered fun _ => hreached
  | err error =>
      refine steps_of_failed hreached.ordered ?_
      rintro ⟨⟩
  | panic =>
      refine steps_of_failed hreached.ordered ?_
      rintro ⟨⟩

theorem steps_onCommandOutput {accept success confirm : SshPacket} {confirmation : Confirmation}
    {command : String} (haccept : AcceptsService accept) (hsuccess : AdmitsUser success)
    (hconfirm : Confirms confirm confirmation) (hcommand : args.command = some command)
    (hphase : state.phase = .commandOutput) (hremote : state.remoteId = confirmation.remoteId)
    (pkt : SshPacket) :
    Steps args (accept :: success :: confirm :: packets) lines
      (openingPackets args ++ [buildExecRequest confirmation.remoteId command true])
      (run (onCommandOutput pkt) state) := by
  have hreached : Reached args state (accept :: success :: confirm :: packets) lines
      (openingPackets args ++ [buildExecRequest confirmation.remoteId command true]) :=
    .commandOutput haccept hsuccess hconfirm hcommand hphase hremote
  rw [onCommandOutput]
  split
  · exact steps_printData hreached _
  · rw [printExtendedData]
    cases parse readExtendedData pkt.payload with
    | ok data => exact steps_of_quiet rfl hreached.ordered fun _ => hreached
    | err error =>
        refine steps_of_failed hreached.ordered ?_
        rintro ⟨⟩
    | panic =>
        refine steps_of_failed hreached.ordered ?_
        rintro ⟨⟩
  · rw [run_answerClose, hremote]
    refine steps_of_reached (.finished ?_ rfl)
    rw [List.append_assoc]
    exact .channel haccept hsuccess hconfirm
      (.command hcommand (List.mem_cons_of_mem _ (List.mem_cons_self ..)) List.prefix_rfl)
  · exact steps_of_quiet rfl hreached.ordered fun _ => hreached

theorem steps_onShellOutput {accept success confirm : SshPacket} {confirmation : Confirmation}
    {typed : List String} (haccept : AcceptsService accept) (hsuccess : AdmitsUser success)
    (hconfirm : Confirms confirm confirmation) (hcommand : args.command = none)
    (hshell : args.interactive = true) (htyped : typed.Sublist lines)
    (hphase : state.phase = .shellOutput) (hremote : state.remoteId = confirmation.remoteId)
    (pkt : SshPacket) :
    Steps args (accept :: success :: confirm :: packets) lines
      (openingPackets args ++ buildShellRequest confirmation.remoteId true ::
        typed.map fun line => buildChannelData confirmation.remoteId (utf8 line))
      (run (onShellOutput pkt) state) := by
  have hreached : Reached args state (accept :: success :: confirm :: packets) lines
      (openingPackets args ++ buildShellRequest confirmation.remoteId true ::
        typed.map fun line => buildChannelData confirmation.remoteId (utf8 line)) :=
    .shellOutput haccept hsuccess hconfirm hcommand hshell htyped hphase hremote
  rw [onShellOutput]
  split
  · exact steps_printData hreached _
  · rw [run_answerClose, hremote]
    refine steps_of_reached (.finished ?_ rfl)
    rw [List.append_assoc, List.cons_append]
    exact .channel haccept hsuccess hconfirm
      (.shell hcommand hshell htyped (List.mem_cons_of_mem _ (List.mem_cons_self ..))
        List.prefix_rfl)
  · exact steps_of_quiet rfl hreached.ordered fun _ => hreached

theorem run_typeLine_of_ne (hphase : state.phase ≠ .shellOutput) (line : String) :
    run (typeLine line) state = ⟨[], state, .ok ()⟩ := by
  rw [typeLine, run_getState_bind]
  split
  · rename_i hshell
    exact absurd hshell hphase
  · rfl

/-- The packets among what a client received. -/
def receivedPackets (inputs : List ClientInput) : List SshPacket :=
  inputs.filterMap fun
    | .received (.ok pkt) => some pkt
    | _ => none

/-- The lines that the user typed. -/
def typedLines (inputs : List ClientInput) : List String :=
  inputs.filterMap fun
    | .line text => some text
    | _ => none

theorem steps_receive (hreached : Reached args state packets lines sent) (pkt : SshPacket) :
    Steps args (packets ++ [pkt]) lines sent (run (receive args (.ok pkt)) state) := by
  rw [receive, run_getState_bind]
  cases hreached with
  | serviceAccept lines => exact steps_onServiceAccept lines pkt
  | authResponse lines haccept => exact steps_onAuthResponse lines haccept pkt
  | channelConfirmation lines haccept hsuccess =>
      exact steps_onConfirmation lines haccept hsuccess pkt
  | commandOutput haccept hsuccess hconfirm hcommand hphase hremote =>
      rw [hphase]
      exact steps_onCommandOutput haccept hsuccess hconfirm hcommand hphase hremote pkt
  | shellOutput haccept hsuccess hconfirm hcommand hshell htyped hphase hremote =>
      rw [hphase]
      exact steps_onShellOutput haccept hsuccess hconfirm hcommand hshell htyped hphase hremote pkt
  | finished hordered hphase =>
      rw [hphase]
      have hmore := hordered.mono [pkt] []
      rw [List.append_nil] at hmore
      exact steps_of_quiet rfl hmore fun _ => .finished hmore hphase

theorem steps_disconnect (hordered : Ordered args packets lines (sent ++ [disconnectPacket])) :
    Steps args packets lines sent (run disconnect state) := by
  rw [run_disconnect]
  exact steps_of_reached (.finished hordered rfl)

theorem steps_receive_error (hreached : Reached args state packets lines sent)
    (error : SshError) :
    Steps args packets lines sent (run (receive args (.error error)) state) := by
  have hfailed : Steps args packets lines sent ⟨[], state, .err error⟩ := by
    refine steps_of_failed hreached.ordered ?_
    rintro ⟨⟩
  have hordered := hreached.ordered
  rw [receive, run_getState_bind]
  cases hreached with
  | serviceAccept lines => exact hfailed
  | authResponse lines haccept => exact hfailed
  | channelConfirmation lines haccept hsuccess => exact hfailed
  | commandOutput haccept hsuccess hconfirm hcommand hphase hremote =>
      rw [hphase]
      cases error with
      | connectionClosed =>
          apply steps_disconnect
          rw [List.append_assoc]
          exact .channel haccept hsuccess hconfirm
            (.command hcommand (List.mem_cons_self ..) List.prefix_rfl)
      | _ => exact hfailed
  | shellOutput haccept hsuccess hconfirm hcommand hshell htyped hphase hremote =>
      rw [hphase]
      cases error with
      | connectionClosed =>
          apply steps_disconnect
          rw [List.append_assoc, List.cons_append]
          exact .channel haccept hsuccess hconfirm
            (.shell hcommand hshell htyped (List.mem_cons_self ..) List.prefix_rfl)
      | _ => exact hfailed
  | finished hfinished hphase =>
      rw [hphase]
      exact steps_of_quiet rfl hordered fun _ => .finished hordered hphase

theorem steps_typeLine (hreached : Reached args state packets lines sent) (line : String) :
    Steps args packets (lines ++ [line]) sent (run (typeLine line) state) := by
  have hmore := hreached.moreLines [line]
  by_cases hphase : state.phase = .shellOutput
  · cases hreached with
    | @shellOutput _ _ _ confirmation rest _ typed _ haccept hsuccess hconfirm hcommand hshell
        htyped _ hremote =>
        rw [typeLine, run_getState_bind, hphase]
        by_cases hfits : FitsEncrypted (buildChannelData state.remoteId (utf8 line))
        · dsimp only
          rw [run_send_of_fits hfits, hremote]
          apply steps_of_reached
          have hnext : Reached args state (_ :: _ :: _ :: rest) (lines ++ [line]) _ :=
            .shellOutput haccept hsuccess hconfirm hcommand hshell
              (htyped.append (List.Sublist.refl [line])) hphase hremote
          rw [List.map_append, ← List.cons_append, ← List.append_assoc] at hnext
          exact hnext
        · dsimp only
          rw [run_send_of_too_large hfits]
          refine steps_of_failed hmore.ordered ?_
          rintro ⟨⟩
    | serviceAccept lines => cases hphase
    | authResponse lines haccept => cases hphase
    | channelConfirmation lines haccept hsuccess => cases hphase
    | commandOutput haccept hsuccess hconfirm hcommand hother hremote =>
        rw [hphase] at hother
        cases hother
    | finished hordered hother =>
        rw [hphase] at hother
        cases hother
  · rw [run_typeLine_of_ne hphase]
    exact steps_of_quiet rfl hmore.ordered fun _ => hmore

/-- A step of a session. -/
theorem steps_react (hreached : Reached args state packets lines sent) (input : ClientInput) :
    Steps args (packets ++ receivedPackets [input]) (lines ++ typedLines [input]) sent
      (run (react args input) state) := by
  cases input with
  | received item =>
      change Steps args _ (lines ++ []) sent _
      rw [List.append_nil]
      cases item with
      | ok pkt => exact steps_receive hreached pkt
      | error error =>
          change Steps args (packets ++ []) lines sent _
          rw [List.append_nil]
          exact steps_receive_error hreached error
  | line text =>
      change Steps args (packets ++ []) (lines ++ [text]) sent _
      rw [List.append_nil]
      exact steps_typeLine hreached text

theorem fitsEncrypted_servicePacket : FitsEncrypted servicePacket := by
  apply fitsEncrypted_of_length_le
  decide +kernel

theorem run_requestService (state : ClientState) :
    run requestService state = ⟨[.sent servicePacket], state, .ok ()⟩ :=
  run_send_of_fits fitsEncrypted_servicePacket

/-- Whatever a client receives and whatever its user types, its messages are in
order: the password is sent to a server that has accepted the service, the channel
is asked for after the success of the authentication, and the command or the shell,
the lines, the close and the disconnect follow the confirmation of the channel. -/
theorem client_messages_ordered (args : Args) (inputs : List ClientInput) :
    Ordered args (receivedPackets inputs) (typedLines inputs)
      (sentPackets (run (session args inputs) beforeSession).events) := by
  rw [session, run_bind_ok (run_requestService beforeSession)]
  have hstart : Reached args beforeSession (receivedPackets []) (typedLines [])
      (sentPackets [.sent servicePacket]) := .serviceAccept []
  refine forEach_shows
    (fun inputs events state => Reached args state (receivedPackets inputs) (typedLines inputs)
      (sentPackets events))
    (fun inputs events => Ordered args (receivedPackets inputs) (typedLines inputs)
      (sentPackets events))
    (fun _ _ _ hreached => hreached.ordered) ?_ ?_ hstart inputs
  · intro served events later hordered
    rw [receivedPackets, typedLines, List.filterMap_append, List.filterMap_append]
    exact hordered.mono _ _
  · intro served events state input hreached
    rw [receivedPackets, typedLines, sentPackets, List.filterMap_append, List.filterMap_append,
      List.filterMap_append]
    obtain ⟨hordered, hnext⟩ := steps_react hreached input
    exact ⟨hordered, hnext⟩

end SwiftSsh.ClientOrder
