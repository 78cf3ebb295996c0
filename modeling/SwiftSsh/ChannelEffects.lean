import SwiftSsh.ConnectionRuns

/-!
The effects of messages on channels: commands that are run and file transfer
requests that are served. Both happen before the channel is looked up.
-/

namespace SwiftSsh.ChannelEffects

open SwiftSsh.RustOutcome
open SwiftSsh.EventProgram
open SwiftSsh.RunHistory
open SwiftSsh.WireTypes
open SwiftSsh.WireBuffer
open SwiftSsh.FileSystem
open SwiftSsh.SftpPaths
open SwiftSsh.SftpProtocol
open SwiftSsh.ChannelMessages
open SwiftSsh.ChannelTable
open SwiftSsh.ServerLoop
open SwiftSsh.AuthenticationGate
open SwiftSsh.ChannelRouting
open SwiftSsh.SftpFraming
open SwiftSsh.ChannelActions
open SwiftSsh.ConnectionRuns

/-- What happened to a channel, by its local number. -/
inductive Note where
  | accepted (localId : UInt32)
  | granted (localId : UInt32)
  | closed (localId : UInt32)

variable (env : ServerEnv)

/-- A note about the channel that a message is about, if there is one. -/
def noteOn (state : ServerState) (recipient : UInt32) (note : UInt32 → Note) : List Note :=
  ((findEntry env.order state.channels recipient).map fun entry => note entry.1).toList

/-- The server closes the channel of a command after its output. -/
def notesOf (state : ServerState) (item : Received) : List Note :=
  match actionOf state item with
  | some (.openChannel _) => [.accepted state.channels.nextId]
  | some (.ask recipient _ .sftp) => noteOn env state recipient .granted
  | some (.exec recipient _ _) => noteOn env state recipient .closed
  | some (.close recipient) => noteOn env state recipient .closed
  | _ => []

/-- A connection with the notes about its channels. -/
def noted : Machine ServerState Received Note :=
  ⟨(connection env).step, notesOf env⟩

/-- Where a channel stands. -/
inductive Status where
  | absent
  | opened
  | sftp
  | closed
  deriving DecidableEq

/-- What a note changes about where a channel stands. -/
def statusStep (localId : UInt32) (current : Status) : Note → Status
  | .accepted other => if other = localId then .opened else current
  | .granted other => if other = localId ∧ current = .opened then .sftp else current
  | .closed other => if other = localId ∧ current ≠ .absent then .closed else current

/-- Where a channel stands after some notes. -/
def statusOf (notes : List Note) (localId : UInt32) : Status :=
  notes.foldl (statusStep localId) .absent

variable (world : World Name)

/-- The recipient of a message is a channel that stands as required. A number denotes the
channel that `find_by_remote_id` finds for it, which is the only way from a number to a
channel in the loop. -/
def Denotes (earlier : List Received) (recipient : UInt32) (allowed : List Status) : Prop :=
  ∃ entry, findEntry env.order (stateAfter env world earlier).channels recipient = some entry ∧
    statusOf ((noted env).history (connected env world) earlier) entry.1 ∈ allowed

/-- The item is a message about a channel that stands as required. -/
def Addressed (earlier : List Received) (item : Received) (allowed : List Status) : Prop :=
  ∃ pkt recipient, item = .ok pkt ∧ recipientOf pkt = some recipient ∧
    Denotes env world earlier recipient allowed

/-- A message has its effects only on a channel that allows them. -/
structure Proper (earlier : List Received) (item : Received) : Prop where
  executed : ∀ command,
    .executed command ∈ (run (receive env item) (stateAfter env world earlier)).events →
    Addressed env world earlier item [.opened, .sftp]
  handled : ∀ request,
    .handled request ∈ (run (receive env item) (stateAfter env world earlier)).events →
    Addressed env world earlier item [.sftp]
  rejected : (run (receive env item) (stateAfter env world earlier)).outcome =
      .err (.channel "Unknown channel") →
    (∀ command, .executed command ∉
      (run (receive env item) (stateAfter env world earlier)).events) ∧
    (run (receive env item) (stateAfter env world earlier)).state.sftpHandler =
      (stateAfter env world earlier).sftpHandler ∧
    (run (receive env item) (stateAfter env world earlier)).state.world =
      (stateAfter env world earlier).world

/-- Commands and file transfer requests are sent only on channels that allow them. -/
def WellSent (earlier : List Received) (item : Received) : Prop :=
  match actionOf (stateAfter env world earlier) item with
  | some (.exec recipient _ _) => Denotes env world earlier recipient [.opened, .sftp]
  | some (.sftp recipient _) => Denotes env world earlier recipient [.sftp]
  | _ => True

variable {env world} {earlier : List Received} {item : Received} {state : ServerState}

theorem known_of_denotes {recipient : UInt32} {allowed : List Status}
    (hdenotes : Denotes env world earlier recipient allowed) :
    Known env (stateAfter env world earlier) recipient := by
  obtain ⟨entry, hentry, -⟩ := hdenotes
  exact ⟨entry.2, by rw [findByRemoteId, hentry]; rfl⟩

theorem addressed_of_action {action : Action} {recipient : UInt32} {allowed : List Status}
    (haction : actionOf (stateAfter env world earlier) item = some action)
    (hrecipient : action.recipient = some recipient)
    (hdenotes : Denotes env world earlier recipient allowed) :
    Addressed env world earlier item allowed := by
  obtain ⟨pkt, rfl, hread⟩ := readAction_of_actionOf haction
  exact ⟨pkt, recipient, rfl, recipientOf_of_readAction hread hrecipient, hdenotes⟩

theorem denotes_of_action {action : Action} {recipient : UInt32} {allowed : List Status}
    (haction : actionOf (stateAfter env world earlier) item = some action)
    (hrecipient : action.recipient = some recipient)
    (haddressed : Addressed env world earlier item allowed) :
    Denotes env world earlier recipient allowed := by
  obtain ⟨pkt, hitem, hread⟩ := readAction_of_actionOf haction
  obtain ⟨other, named, hother, hnamed, hdenotes⟩ := haddressed
  rw [hitem] at hother
  cases hother
  rw [recipientOf_of_readAction hread hrecipient] at hnamed
  cases hnamed
  exact hdenotes

theorem mem_effects_of_mem {plan : Plan} {event : ServerEvent}
    (hmem : event ∈ plan.ran.events) (hnot : ∀ packet, event ≠ .sent packet) :
    event ∈ plan.effects := by
  have hends := ends_ran plan
  generalize plan.ran = ran at hends hmem
  cases hends with
  | unknown hreplies => exact hmem
  | sent packets hreplies hfits =>
      rcases List.mem_append.mp hmem with heffect | hsent
      · exact heffect
      · obtain ⟨packet, -, rfl⟩ := List.mem_map.mp hsent
        exact absurd rfl (hnot packet)
  | cut packets front message hreplies hfront hfits hlarge =>
      rcases List.mem_append.mp hmem with heffect | hsent
      · exact heffect
      · obtain ⟨packet, -, rfl⟩ := List.mem_map.mp hsent
        exact absurd rfl (hnot packet)

theorem mem_of_mem_effects {plan : Plan} {event : ServerEvent}
    (hmem : event ∈ plan.effects) : event ∈ plan.ran.events := by
  have hends := ends_ran plan
  generalize plan.ran = ran at hends
  cases hends with
  | unknown hreplies => exact hmem
  | sent packets hreplies hfits => exact List.mem_append_left _ hmem
  | cut packets front message hreplies hfront hfits hlarge => exact List.mem_append_left _ hmem

theorem action_of_executed {action : Action} {command : String}
    (hmem : .executed command ∈ (plan env state action).effects) :
    ∃ recipient wantReply, action = .exec recipient wantReply command := by
  cases action with
  | exec recipient wantReply other =>
      cases List.mem_singleton.mp hmem
      exact ⟨recipient, wantReply, rfl⟩
  | sftp recipient request => cases List.mem_singleton.mp hmem
  | _ => cases hmem

theorem action_of_handled {action : Action} {request : SftpPacket}
    (hmem : .handled request ∈ (plan env state action).effects) :
    ∃ recipient, action = .sftp recipient request := by
  cases action with
  | sftp recipient other =>
      cases List.mem_singleton.mp hmem
      exact ⟨recipient, rfl⟩
  | exec recipient wantReply command => cases List.mem_singleton.mp hmem
  | _ => cases hmem

/-- An event that is not a packet comes from what a message asks for. -/
theorem effect_of_mem {event : ServerEvent} (hmem : event ∈ (run (receive env item) state).events)
    (hnot : ∀ packet, event ≠ .sent packet) :
    ∃ action, actionOf state item = some action ∧ event ∈ (plan env state action).effects := by
  cases haction : actionOf state item with
  | none =>
      obtain ⟨packet, rfl, -⟩ := (@idle_of_actionOf env state item haction).events event hmem
      exact absurd rfl (hnot packet)
  | some action =>
      rw [run_of_actionOf haction] at hmem
      exact ⟨action, rfl, mem_effects_of_mem hmem hnot⟩

theorem answering_ne_none {recipient : UInt32} {packets : UInt32 → List SshPacket}
    (hknown : Known env state recipient) : answering env state recipient packets ≠ none := by
  obtain ⟨channel, hfind⟩ := hknown
  rw [answering, hfind]
  rintro ⟨⟩

theorem unknown_of_outcome {plan : Plan}
    (hunknown : plan.ran.outcome = .err (.channel "Unknown channel")) :
    plan.replies = none ∧ plan.ran =
      ⟨plan.effects, plan.state, .err (.channel "Unknown channel")⟩ := by
  have hends := ends_ran plan
  generalize plan.ran = ran at hends hunknown
  cases hends with
  | unknown hreplies => exact ⟨hreplies, rfl⟩
  | sent packets hreplies hfits => cases hunknown
  | cut packets front message hreplies hfront hfits hlarge => cases hunknown

theorem ask_of_unknown {action : Action} (hreplies : (plan env state action).replies = none)
    (hexec : ∀ recipient wantReply command, action = .exec recipient wantReply command →
      Known env state recipient)
    (hsftp : ∀ recipient request, action = .sftp recipient request →
      Known env state recipient) :
    (plan env state action).effects = [] ∧ (plan env state action).state = state := by
  cases action with
  | exec recipient wantReply command =>
      exact absurd hreplies (answering_ne_none (hexec recipient wantReply command rfl))
  | sftp recipient request =>
      rw [plan] at hreplies
      dsimp only at hreplies
      exact absurd hreplies (answering_ne_none (hsftp recipient request rfl))
  | ask recipient wantReply asked => exact ⟨rfl, rfl⟩
  | _ => cases hreplies

theorem denotes_of_exec (hsent : WellSent env world earlier item) {recipient : UInt32}
    {wantReply : Bool} {command : String}
    (haction : actionOf (stateAfter env world earlier) item =
      some (.exec recipient wantReply command)) :
    Denotes env world earlier recipient [.opened, .sftp] := by
  rw [WellSent, haction] at hsent
  exact hsent

theorem denotes_of_sftp (hsent : WellSent env world earlier item) {recipient : UInt32}
    {request : SftpPacket}
    (haction : actionOf (stateAfter env world earlier) item = some (.sftp recipient request)) :
    Denotes env world earlier recipient [.sftp] := by
  rw [WellSent, haction] at hsent
  exact hsent

theorem proper_of_wellSent (hsent : WellSent env world earlier item) :
    Proper env world earlier item where
  executed command hmem := by
    obtain ⟨action, haction, heffect⟩ := effect_of_mem hmem (by rintro packet ⟨⟩)
    obtain ⟨recipient, wantReply, rfl⟩ := action_of_executed heffect
    exact addressed_of_action haction rfl (denotes_of_exec hsent haction)
  handled request hmem := by
    obtain ⟨action, haction, heffect⟩ := effect_of_mem hmem (by rintro packet ⟨⟩)
    obtain ⟨recipient, rfl⟩ := action_of_handled heffect
    exact addressed_of_action haction rfl (denotes_of_sftp hsent haction)
  rejected hunknown := by
    cases haction : actionOf (stateAfter env world earlier) item with
    | none =>
        have hidle := @idle_of_actionOf env _ _ haction
        refine ⟨?_, ?_, ?_⟩
        · intro command hmem
          obtain ⟨packet, heq, -⟩ := hidle.events _ hmem
          cases heq
        · rw [hidle.state]
        · rw [hidle.state]
    | some action =>
        rw [run_of_actionOf haction] at hunknown ⊢
        obtain ⟨hreplies, hran⟩ := unknown_of_outcome hunknown
        obtain ⟨heffects, hstate⟩ := ask_of_unknown hreplies
          (by
            rintro recipient wantReply command rfl
            exact known_of_denotes (denotes_of_exec hsent haction))
          (by
            rintro recipient request rfl
            exact known_of_denotes (denotes_of_sftp hsent haction))
        rw [hran, heffects, hstate]
        exact ⟨fun command hmem => (nomatch hmem), rfl, rfl⟩

theorem wellSent_of_proper (hproper : Proper env world earlier item) :
    WellSent env world earlier item := by
  rw [WellSent]
  split
  · rename_i recipient wantReply command haction
    refine denotes_of_action haction rfl (hproper.executed command ?_)
    rw [run_of_actionOf haction]
    exact mem_of_mem_effects List.mem_cons_self
  · rename_i recipient request haction
    refine denotes_of_action haction rfl (hproper.handled request ?_)
    rw [run_of_actionOf haction]
    exact mem_of_mem_effects List.mem_cons_self
  · trivial

/-- The server never checks a channel before an effect, so effects happen where
they may exactly when the client sends them there. -/
theorem effects_proper_iff (env : ServerEnv) (world : World Name) (received : List Received) :
    Machine.Always received (Proper env world) ↔
      Machine.Always received (WellSent env world) := by
  constructor
  · intro hproper earlier item later heq
    exact wellSent_of_proper (hproper earlier item later heq)
  · intro hsent earlier item later heq
    exact proper_of_wellSent (hsent earlier item later heq)

theorem mem_numbered_iff {senders : List UInt32} {manager : ChannelManager}
    (hopened : OpenedBy senders manager) {localId : UInt32} :
    (∃ sender, (sender, localId) ∈ numbered senders) ↔
      ∃ channel, manager.get localId = some channel := by
  constructor
  · rintro ⟨sender, hmem⟩
    obtain ⟨k, hk⟩ := List.mem_iff_getElem?.mp hmem
    obtain ⟨hsender, rfl⟩ := getElem?_numbered.mp hk
    exact hopened.present k (List.getElem?_eq_some_iff.mp hsender).1
  · rintro ⟨channel, hget⟩
    obtain ⟨k, hlocal, hsender⟩ := hopened.stored localId channel hget
    exact ⟨channel.remoteId, List.mem_of_getElem? (getElem?_numbered.mpr ⟨hsender, hlocal⟩)⟩

/-- Where the client counts its channels as the server does, the channel that is found is the
one whose number the server has announced. -/
theorem denotes_announced_iff {received : List Received} {events : List ServerEvent}
    (hrun : run (handleConnection env received) (connected env world) =
      ⟨events, state, .ok ()⟩) (hphase : state.phase = .channels)
    (hsenders : ∀ (k : Nat) sender, (openSenders received)[k]? = some sender →
      sender = UInt32.ofNat k) (recipient : UInt32) (allowed : List Status) :
    Denotes env world received recipient allowed ↔
      (∃ sender, (sender, recipient) ∈ announcements events) ∧
        statusOf ((noted env).history (connected env world) received) recipient ∈ allowed := by
  have hrunning : state.phase ≠ .finished := by
    rw [hphase]
    decide
  obtain ⟨hannounced, hopened⟩ := opened_of_run hrun hrunning
  rw [Denotes, stateAfter, after_of_run hrun, findEntry_of_inStep (hopened.inStep hsenders),
    hannounced, mem_numbered_iff hopened]
  constructor
  · rintro ⟨entry, hentry, hstatus⟩
    obtain ⟨channel, hget, rfl⟩ := Option.map_eq_some_iff.mp hentry
    exact ⟨⟨channel, hget⟩, hstatus⟩
  · rintro ⟨⟨channel, hget⟩, hstatus⟩
    exact ⟨⟨recipient, channel⟩, by rw [hget, Option.map_some], hstatus⟩

theorem run_unopenedExec :
    run (receive sampleEnv (.ok (buildExecRequest 7 "ls" true))) sampleSession =
      ⟨[.executed "ls"], afterCommand sampleEnv sampleSession "ls",
        .err (.channel "Unknown channel")⟩ := by
  rw [run_receive_action rfl (readAction_buildExecRequest 7 true (by decide +kernel))]
  rfl

/-- A command on a channel that was never opened is run and then rejected. -/
theorem exec_without_channel :
    (run (handleConnection sampleEnv (sampleLogin ++ [.ok (buildExecRequest 7 "ls" true)]))
      (connected sampleEnv sampleWorld)).outcome = .err (.channel "Unknown channel") ∧
    ¬Machine.Always (sampleLogin ++ [.ok (buildExecRequest 7 "ls" true)])
      (Proper sampleEnv sampleWorld) := by
  constructor
  · have hround := run_unopenedExec
    rw [run_login_append rfl, handleConnection, forEach_singleton]
    exact congrArg Ran.outcome hround
  · intro hall
    have hproper := hall sampleLogin _ [] rfl
    have hstate : stateAfter sampleEnv sampleWorld sampleLogin = sampleSession :=
      after_of_run run_sampleLogin
    have hrejected := hproper.rejected (by rw [hstate, run_unopenedExec])
    refine hrejected.1 "ls" ?_
    rw [hstate, run_unopenedExec]
    exact List.mem_cons_self

end SwiftSsh.ChannelEffects
