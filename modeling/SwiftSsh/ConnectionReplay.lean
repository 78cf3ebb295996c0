import Mathlib.Data.Set.List
import SwiftSsh.ConnectionRuns
import SwiftSsh.ReplayedLog

/-!
The log of a connection, replayed. The commands and the file transfer requests in it
account for all that the connection does to the files and the handles, and for all
answers to them.
-/

namespace SwiftSsh.ConnectionReplay

open SwiftSsh.ByteWords
open SwiftSsh.RustOutcome
open SwiftSsh.EventProgram
open SwiftSsh.ReplayedLog
open SwiftSsh.WireTypes
open SwiftSsh.WireBuffer
open SwiftSsh.FileSystem
open SwiftSsh.SftpPaths
open SwiftSsh.SftpProtocol
open SwiftSsh.SftpHandler
open SwiftSsh.ServerLoop
open SwiftSsh.SftpFraming
open SwiftSsh.ChannelActions
open SwiftSsh.ConnectionRuns

/-- What requests and commands see and change. -/
structure Files where
  handler : Handler
  world : World Name

/-- The part of the state that file requests and commands work on. -/
def filesOf (state : ServerState) : Files :=
  ⟨state.sftpHandler, state.world⟩

/-- The output of a command and the files it leaves. -/
def commandResult (env : ServerEnv) (world : World Name) (command : String) :
    String × World Name :=
  match splitWhitespace command with
  | [] => ("", world)
  | program :: arguments =>
      let started := env.spawn program arguments world
      (processText started.1, started.2)

/-- What an event in the log says about the files. -/
def replayEvent (env : ServerEnv) (files : Files) : ServerEvent → Files
  | .sent _ => files
  | .executed command => { files with world := (commandResult env files.world command).2 }
  | .handled request =>
      let served := handleRequest env.os files.handler files.world request
      ⟨served.handler, served.world⟩

/-- The events of a log, applied one after another. -/
def replay (env : ServerEnv) (files : Files) (log : List ServerEvent) : Files :=
  log.foldl (replayEvent env) files

/-- What is sent in answer to a command or a request that finds these files. -/
inductive Answers (env : ServerEnv) (files : Files) : ServerEvent → List SshPacket → Prop where
  | sent (packet : SshPacket) : Answers env files (.sent packet) []
  | executed (command : String) (wantReply : Bool) (remoteId : UInt32) :
      Answers env files (.executed command)
        (execReplies wantReply (utf8 (commandResult env files.world command).1) remoteId)
  | handled (request : SftpPacket) (remoteId : UInt32) :
      Answers env files (.handled request)
        [responsePacket remoteId
          (handleRequest env.os files.handler files.world request).response]

/-- An event is followed by the whole answer. -/
def Answered (env : ServerEnv) (files : Files) (event : ServerEvent)
    (rest : List ServerEvent) : Prop :=
  ∃ packets, Answers env files event packets ∧ packets.map .sent <+: rest

/-- The log may end in the middle of the answer. -/
def AnsweredOrCut (env : ServerEnv) (files : Files) (event : ServerEvent)
    (rest : List ServerEvent) : Prop :=
  ∃ packets, Answers env files event packets ∧
    (packets.map .sent <+: rest ∨ rest <+: packets.map .sent)

/-- A run whose log accounts for the files it leaves and for the answers it gives. -/
structure Replayed (env : ServerEnv) (start : Files)
    (r : Ran ServerState ServerEvent SshError Unit) : Prop where
  files : filesOf r.state = replay env start r.events
  answers : ∀ front event back, r.events = front ++ event :: back →
    AnsweredOrCut env (replay env start front) event back
  whole : r.outcome = .ok () → ∀ front event back, r.events = front ++ event :: back →
    Answered env (replay env start front) event back

variable {env : ServerEnv} {state : ServerState} {files : Files}

theorem Answered.orCut {event : ServerEvent} {rest : List ServerEvent}
    (hanswered : Answered env files event rest) : AnsweredOrCut env files event rest := by
  obtain ⟨packets, hanswers, hprefix⟩ := hanswered
  exact ⟨packets, hanswers, .inl hprefix⟩

theorem Answered.append {event : ServerEvent} {rest : List ServerEvent}
    (hanswered : Answered env files event rest) (more : List ServerEvent) :
    Answered env files event (rest ++ more) := by
  obtain ⟨packets, hanswers, hprefix⟩ := hanswered
  exact ⟨packets, hanswers, hprefix.trans (List.prefix_append rest more)⟩

theorem replay_sents (packets : List SshPacket) :
    (packets.map ServerEvent.sent).foldl (replayEvent env) files = files := by
  induction packets with
  | nil => rfl
  | cons packet packets ih => exact ih

theorem explained_sents {follows : Files → ServerEvent → List ServerEvent → Prop}
    (hfollows : ∀ files event rest, Answered env files event rest → follows files event rest)
    (packets : List SshPacket) :
    Explained (replayEvent env) follows files (packets.map .sent) := by
  induction packets with
  | nil => trivial
  | cons packet packets ih =>
      exact ⟨hfollows _ _ _ ⟨[], .sent packet, List.nil_prefix⟩, ih⟩

theorem sents_of_idle {r : Ran ServerState ServerEvent SshError Unit} (hidle : Idle state r) :
    ∃ packets : List SshPacket, packets.map .sent = r.events := by
  have hevents : r.events ∈ Set.range (List.map ServerEvent.sent) := by
    rw [Set.range_list_map]
    intro event hmem
    obtain ⟨packet, rfl, -⟩ := hidle.events event hmem
    exact ⟨packet, rfl⟩
  exact hevents

theorem outputOf_eq (command : String) :
    outputOf env state command = (commandResult env state.world command).1 := by
  rw [outputOf, commandResult]
  cases splitWhitespace command <;> rfl

theorem filesOf_afterCommand (command : String) :
    filesOf (afterCommand env state command) =
      replayEvent env (filesOf state) (.executed command) := by
  rw [afterCommand, replayEvent, commandResult]
  cases splitWhitespace command <;> rfl

/-- A round of a connection: at most one effect, which comes first, and the packets that
are sent in answer to it. -/
inductive Round (env : ServerEnv) (state : ServerState)
    (r : Ran ServerState ServerEvent SshError Unit) : Prop where
  | quiet (packets : List SshPacket) (hevents : packets.map .sent = r.events)
      (hfiles : filesOf r.state = filesOf state)
  | effect (event : ServerEvent) (packets answer : List SshPacket)
      (hevents : event :: packets.map .sent = r.events)
      (hfiles : filesOf r.state = replayEvent env (filesOf state) event)
      (hanswer : Answers env (filesOf state) event answer) (hcut : packets <+: answer)
      (hwhole : r.outcome = .ok () → packets = answer)

theorem round_of_ends {planned : Plan} {r : Ran ServerState ServerEvent SshError Unit}
    (hends : Ends planned r) {event : ServerEvent} (heffects : planned.effects = [event])
    (hfiles : filesOf planned.state = replayEvent env (filesOf state) event)
    {fallback : List SshPacket} (hfallback : Answers env (filesOf state) event fallback)
    (hreplies : ∀ packets, planned.replies = some packets →
      Answers env (filesOf state) event packets) :
    Round env state r := by
  cases hends with
  | unknown hnone =>
      rw [heffects]
      exact .effect event [] fallback rfl hfiles hfallback List.nil_prefix (by rintro ⟨⟩)
  | sent packets hsome hfits =>
      rw [heffects]
      exact .effect event packets packets rfl hfiles (hreplies packets hsome)
        (List.prefix_refl packets) fun _ => rfl
  | cut packets front message hsome hfront hsent hlarge =>
      rw [heffects]
      exact .effect event front packets rfl hfiles (hreplies packets hsome) hfront
        (by rintro ⟨⟩)

theorem quiet_of_ends {planned : Plan} {r : Ran ServerState ServerEvent SshError Unit}
    (hends : Ends planned r) (heffects : planned.effects = [])
    (hfiles : filesOf planned.state = filesOf state) : Round env state r := by
  cases hends with
  | unknown hnone =>
      rw [heffects]
      exact .quiet [] rfl hfiles
  | sent packets hsome hfits =>
      rw [heffects]
      exact .quiet packets rfl hfiles
  | cut packets front message hsome hfront hsent hlarge =>
      rw [heffects]
      exact .quiet front rfl hfiles

theorem round_of_action (action : Action) : Round env state (plan env state action).ran := by
  have hends := ends_ran (plan env state action)
  cases action with
  | exec recipient wantReply command =>
      refine round_of_ends hends rfl (filesOf_afterCommand command)
        (.executed command wantReply 0) ?_
      intro packets hpackets
      obtain ⟨channel, -, rfl⟩ := Option.map_eq_some_iff.mp hpackets
      rw [outputOf_eq]
      exact .executed command wantReply channel.remoteId
  | sftp recipient request =>
      refine round_of_ends hends rfl rfl (.handled request 0) ?_
      intro packets hpackets
      obtain ⟨channel, -, rfl⟩ := Option.map_eq_some_iff.mp hpackets
      exact .handled request channel.remoteId
  | _ => exact quiet_of_ends hends rfl rfl

theorem round_receive (item : Received) (state : ServerState) :
    Round env state (run (receive env item) state) := by
  cases haction : actionOf state item with
  | none =>
      have hidle := @idle_of_actionOf env state item haction
      obtain ⟨packets, hpackets⟩ := sents_of_idle hidle
      refine .quiet packets hpackets ?_
      rw [hidle.state]
      rfl
  | some action =>
      rw [run_of_actionOf haction]
      exact round_of_action action

theorem Round.accounts {r : Ran ServerState ServerEvent SshError Unit}
    (hround : Round env state r) : Accounts (replayEvent env) filesOf r state := by
  rw [Accounts]
  cases hround with
  | quiet packets hevents hfiles => rw [← hevents, replay_sents, hfiles]
  | effect event packets answer hevents hfiles hanswer hcut hwhole =>
      rw [← hevents, List.foldl_cons, replay_sents, hfiles]

theorem Round.cut {r : Ran ServerState ServerEvent SshError Unit}
    (hround : Round env state r) :
    Explained (replayEvent env) (AnsweredOrCut env) (filesOf state) r.events := by
  have hsents := fun files packets =>
    @explained_sents env files _ (fun _ _ _ hanswered => hanswered.orCut) packets
  cases hround with
  | quiet packets hevents hfiles =>
      rw [← hevents]
      exact hsents _ packets
  | effect event packets answer hevents hfiles hanswer hcut hwhole =>
      rw [← hevents]
      exact ⟨⟨answer, hanswer, .inr (hcut.map _)⟩, hsents _ packets⟩

theorem Round.whole {r : Ran ServerState ServerEvent SshError Unit}
    (hround : Round env state r) (hok : r.outcome = .ok ()) :
    Explained (replayEvent env) (Answered env) (filesOf state) r.events := by
  have hsents := fun files packets =>
    @explained_sents env files _ (fun _ _ _ hanswered => hanswered) packets
  cases hround with
  | quiet packets hevents hfiles =>
      rw [← hevents]
      exact hsents _ packets
  | effect event packets answer hevents hfiles hanswer hcut hwhole =>
      obtain rfl := hwhole hok
      rw [← hevents]
      exact ⟨⟨packets, hanswer, List.prefix_refl _⟩, hsents _ packets⟩

/-- The files after a connection are those of its log. -/
theorem filesOf_handleConnection (env : ServerEnv) (received : List Received)
    (state : ServerState) :
    filesOf (run (handleConnection env received) state).state =
      replay env (filesOf state) (run (handleConnection env received) state).events :=
  accounts_forEach (fun item state => (round_receive item state).accounts) received state

/-- Whatever a server receives, replaying the commands and the requests of its log from a
new handler gives the files and handles that the connection leaves, and every command and
request is followed in the log by the answer that the replay gives at this point. Only the
end of a connection that failed may lack a part of an answer. -/
theorem connection_replayed (env : ServerEnv) (world : World Name) (received : List Received) :
    Replayed env ⟨newHandler env.sftpRoot, world⟩
      (run (handleConnection env received) (connected env world)) := by
  have haccounts : ∀ item state,
      Accounts (replayEvent env) filesOf (run (receive env item) state) state :=
    fun item state => (round_receive item state).accounts
  have hwhole : ∀ item state, (run (receive env item) state).outcome = .ok () →
      Explained (replayEvent env) (Answered env) (filesOf state)
        (run (receive env item) state).events :=
    fun item state hok => (round_receive item state).whole hok
  have hcut := explained_forEach haccounts hwhole
    (fun _ _ _ more hanswered => (hanswered.append more).orCut)
    (fun item state => (round_receive item state).cut) received (connected env world)
  constructor
  · exact filesOf_handleConnection env received (connected env world)
  · exact explained_iff.mp hcut
  · intro hok
    have hall := explained_forEach_ok haccounts
      (fun _ _ _ more hanswered => hanswered.append more) hwhole hok
    exact explained_iff.mp hall

end SwiftSsh.ConnectionReplay
