import SwiftSsh.ConnectionRuns
import SwiftSsh.ReplySizes

/-!
How channels end. The server sends EOF and CLOSE after a command and CLOSE in
answer to a CLOSE, and keeps no record of either.
-/

namespace SwiftSsh.CloseDiscipline

open SwiftSsh.ByteWords
open SwiftSsh.RustOutcome
open SwiftSsh.EventProgram
open SwiftSsh.RunHistory
open SwiftSsh.WireTypes
open SwiftSsh.WireBuffer
open SwiftSsh.FileSystem
open SwiftSsh.SftpPaths
open SwiftSsh.SftpProtocol
open SwiftSsh.ChannelMessages
open SwiftSsh.ChannelTable
open SwiftSsh.ServerLoop
open SwiftSsh.ChannelReplies
open SwiftSsh.AuthenticationGate
open SwiftSsh.ChannelRouting
open SwiftSsh.SftpFraming
open SwiftSsh.ChannelActions
open SwiftSsh.ConnectionRuns

/-- The messages that carry the number of their channel first. -/
def channelTypes : List MessageType :=
  .channelOpenConfirmation :: answerTypes

/-- The type of a packet that is sent to a channel. -/
def typeSentTo (number : UInt32) : ServerEvent → Option MessageType
  | .sent packet =>
      (MessageType.fromU8 packet.msgType).filter fun msgType =>
        msgType ∈ channelTypes ∧ addressee packet = some number
  | _ => none

/-- The types of the messages that are sent to a channel, in order. -/
def sentTo (number : UInt32) (events : List ServerEvent) : List MessageType :=
  events.filterMap (typeSentTo number)

/-- What may be sent to a channel. -/
structure Disciplined (types : List MessageType) : Prop where
  oneEof : types.count .channelEof ≤ 1
  oneClose : types.count .channelClose ≤ 1
  noDataAfterEof : ∀ front back, types = front ++ .channelEof :: back → .channelData ∉ back
  nothingAfterClose : ∀ front back, types = front ++ .channelClose :: back → back = []

/-- The channel that the server answers on. -/
def answersOn : Action → Option UInt32
  | .exec recipient _ _ => some recipient
  | .ask recipient wantReply _ => if wantReply then some recipient else none
  | .sftp recipient _ => some recipient
  | .close recipient => some recipient
  | _ => none

/-- The channel that the server closes. -/
def closesOn : Action → Option UInt32
  | .exec recipient _ _ => some recipient
  | .close recipient => some recipient
  | _ => none

/-- A command or a CLOSE was received on a channel after it was opened. -/
def ClosedIn (received : List Received) (number : UInt32) : Prop :=
  ∃ front pkt back action, received = front ++ .ok pkt :: back ∧
    number ∈ openSenders front ∧ readAction pkt = .ok action ∧ closesOn action = some number

/-- No answer is asked for on a channel that was closed. -/
def Quiet (env : ServerEnv) (world : World Name) (earlier : List Received)
    (item : Received) : Prop :=
  ∀ action number, actionOf (stateAfter env world earlier) item = some action →
    answersOn action = some number → ¬ClosedIn earlier number

theorem disciplined_nil : Disciplined [] := by
  refine ⟨Nat.zero_le _, Nat.zero_le _, ?_, ?_⟩
  · intro front back heq
    exact absurd heq.symm (List.append_ne_nil_of_right_ne_nil _ (List.cons_ne_nil _ _))
  · intro front back heq
    exact absurd heq.symm (List.append_ne_nil_of_right_ne_nil _ (List.cons_ne_nil _ _))

variable {types more : List MessageType}

theorem Disciplined.of_front (hdisciplined : Disciplined types) (hinitial : more <+: types) :
    Disciplined more := by
  obtain ⟨rest, rfl⟩ := hinitial
  refine ⟨?_, ?_, ?_, ?_⟩
  · have hcount := hdisciplined.oneEof
    rw [List.count_append] at hcount
    omega
  · have hcount := hdisciplined.oneClose
    rw [List.count_append] at hcount
    omega
  · intro front back heq hdata
    have hnone := hdisciplined.noDataAfterEof front (back ++ rest) (by simp [heq])
    exact hnone (List.mem_append_left _ hdata)
  · intro front back heq
    have hnone := hdisciplined.nothingAfterClose front (back ++ rest) (by simp [heq])
    exact (List.append_eq_nil_iff.mp hnone).1

theorem exists_of_append_eq {front back : List MessageType} {msgType : MessageType}
    (hnot : msgType ∉ types) (heq : types ++ more = front ++ msgType :: back) :
    ∃ middle, more = middle ++ msgType :: back := by
  rcases List.append_eq_append_iff.mp heq with ⟨middle, -, hmore⟩ | ⟨middle, htypes, hback⟩
  · exact ⟨middle, hmore⟩
  · cases middle with
    | nil => exact ⟨[], hback.symm⟩
    | cons first middle =>
        refine absurd ?_ hnot
        rw [htypes, ← (List.cons.inj hback).1]
        exact List.mem_append_right _ List.mem_cons_self

theorem Disciplined.append (hmore : Disciplined more) (heof : .channelEof ∉ types)
    (hclose : .channelClose ∉ types) : Disciplined (types ++ more) := by
  refine ⟨?_, ?_, ?_, ?_⟩
  · rw [List.count_append, List.count_eq_zero_of_not_mem heof, Nat.zero_add]
    exact hmore.oneEof
  · rw [List.count_append, List.count_eq_zero_of_not_mem hclose, Nat.zero_add]
    exact hmore.oneClose
  · intro front back heq
    obtain ⟨middle, hmiddle⟩ := exists_of_append_eq heof heq
    exact hmore.noDataAfterEof middle back hmiddle
  · intro front back heq
    obtain ⟨middle, hmiddle⟩ := exists_of_append_eq hclose heq
    exact hmore.nothingAfterClose middle back hmiddle

theorem disciplined_close : Disciplined [.channelClose] := by
  refine ⟨by decide, by decide, ?_, ?_⟩
  · rintro (_ | ⟨first, front⟩) back heq
    · cases heq
    · exact absurd (List.cons.inj heq).2.symm
        (List.append_ne_nil_of_right_ne_nil _ (List.cons_ne_nil _ _))
  · rintro (_ | ⟨first, front⟩) back heq
    · exact (List.cons.inj heq).2.symm
    · exact absurd (List.cons.inj heq).2.symm
        (List.append_ne_nil_of_right_ne_nil _ (List.cons_ne_nil _ _))

theorem disciplined_end : Disciplined [.channelEof, .channelClose] := by
  refine ⟨by decide, by decide, ?_, ?_⟩
  · rintro (_ | ⟨first, front⟩) back heq
    · rw [← (List.cons.inj heq).2]
      decide
    · exact disciplined_close.noDataAfterEof front back (List.cons.inj heq).2
  · rintro (_ | ⟨first, front⟩) back heq
    · cases heq
    · exact disciplined_close.nothingAfterClose front back (List.cons.inj heq).2

theorem disciplined_single {msgType : MessageType} (heof : msgType ≠ .channelEof)
    (hclose : msgType ≠ .channelClose) : Disciplined [msgType] := by
  have hnone : Disciplined ([msgType] ++ []) := by
    apply disciplined_nil.append
    · exact fun hmem => heof (List.mem_singleton.mp hmem).symm
    · exact fun hmem => hclose (List.mem_singleton.mp hmem).symm
  exact hnone

/-- The types of the replies to an action, all of them sent. -/
def replyTypes : Action → List MessageType
  | .openChannel _ => [.channelOpenConfirmation]
  | .exec _ wantReply _ =>
      (if wantReply then [.channelSuccess] else []) ++ [.channelData] ++
        [.channelEof, .channelClose]
  | .ask _ _ asked => [answerTo asked]
  | .sftp _ _ => [.channelData]
  | .close _ => [.channelClose]
  | _ => []

/-- The replies to one action keep the discipline among themselves. -/
theorem disciplined_replyTypes (action : Action) : Disciplined (replyTypes action) := by
  cases action with
  | openChannel msg => exact disciplined_single (by decide) (by decide)
  | exec recipient wantReply command =>
      apply disciplined_end.append
      · cases wantReply <;> decide
      · cases wantReply <;> decide
  | ask recipient wantReply asked =>
      cases asked <;> exact disciplined_single (by decide) (by decide)
  | sftp recipient request => exact disciplined_single (by decide) (by decide)
  | close recipient => exact disciplined_close
  | widen recipient bytesToAdd => exact disciplined_nil
  | eof recipient => exact disciplined_nil
  | disconnect => exact disciplined_nil
  | ignore => exact disciplined_nil

theorem closesOn_of_end {action : Action} {number : UInt32}
    (hanswers : answersOn action = some number)
    (hend : .channelEof ∈ replyTypes action ∨ .channelClose ∈ replyTypes action) :
    closesOn action = some number := by
  cases action with
  | exec recipient wantReply command => exact hanswers
  | close recipient => exact hanswers
  | ask recipient wantReply asked =>
      have hanswer : ¬(MessageType.channelEof ∈ [answerTo asked] ∨
          MessageType.channelClose ∈ [answerTo asked]) := by
        cases asked <;> decide
      exact absurd hend hanswer
  | sftp recipient request =>
      have hdata : ¬(MessageType.channelEof ∈ [MessageType.channelData] ∨
          MessageType.channelClose ∈ [MessageType.channelData]) := by
        decide
      exact absurd hend hdata
  | openChannel msg => cases hanswers
  | widen recipient bytesToAdd => cases hanswers
  | eof recipient => cases hanswers
  | disconnect => cases hanswers
  | ignore => cases hanswers

/-- A packet of a channel message, with the number of its channel first. -/
def Carries (number : UInt32) (msgType : MessageType) (packet : SshPacket) : Prop :=
  msgType ∈ channelTypes ∧ ∃ rest, packet = newPacket msgType (writeU32 number ++ rest)

theorem carries_bare (number : UInt32) {msgType : MessageType} (hmem : msgType ∈ channelTypes) :
    Carries number msgType (newPacket msgType (writeU32 number)) :=
  ⟨hmem, [], by rw [List.append_nil]⟩

theorem typeSentTo_of_carries {number other : UInt32} {msgType : MessageType}
    {packet : SshPacket} (hcarries : Carries other msgType packet) :
    typeSentTo number (.sent packet) = if other = number then some msgType else none := by
  obtain ⟨hmem, rest, rfl⟩ := hcarries
  have haddressee : addressee (newPacket msgType (writeU32 other ++ rest)) = some other := by
    rw [addressee, newPacket, parse_eq_ok (readU32_writeU32 other rest)]
    rfl
  rw [typeSentTo, newPacket, fromU8_toU8]
  change Option.filter (fun found => found ∈ channelTypes ∧
    addressee (newPacket msgType (writeU32 other ++ rest)) = some number) (some msgType) = _
  rw [haddressee, Option.filter_some]
  simp only [hmem, true_and, Option.some.injEq, decide_eq_true_eq]

theorem sentTo_of_carries {number other : UInt32} {types : List MessageType}
    {packets : List SshPacket} (hcarry : List.Forall₂ (Carries other) types packets) :
    sentTo number (packets.map .sent) = if other = number then types else [] := by
  induction hcarry with
  | nil => exact (ite_self _).symm
  | cons hfirst hrest ih =>
      rw [List.map_cons, sentTo, List.filterMap_cons, typeSentTo_of_carries hfirst]
      rw [sentTo] at ih
      split
      · rename_i hnone
        split at hnone
        · cases hnone
        · rw [ih, if_neg ‹_›, if_neg ‹_›]
      · rename_i found hsome
        split at hsome
        · cases hsome
          rw [ih, if_pos ‹_›, if_pos ‹_›]
        · cases hsome

variable {env : ServerEnv} {state : ServerState}

/-- The channel that an action opens, or answers on if it is known. -/
def RespondsOn (env : ServerEnv) (state : ServerState) (action : Action)
    (number : UInt32) : Prop :=
  (∃ msg, action = .openChannel msg ∧ msg.senderChannel = number) ∨
    (answersOn action = some number ∧ Known env state number)

theorem carry_answering {recipient : UInt32} {reply : UInt32 → List SshPacket}
    {types : List MessageType} {packets : List SshPacket}
    (hreply : ∀ number, List.Forall₂ (Carries number) types (reply number))
    (hreplies : answering env state recipient reply = some packets) :
    Known env state recipient ∧ List.Forall₂ (Carries recipient) types packets := by
  obtain ⟨channel, hfind, rfl⟩ := Option.map_eq_some_iff.mp hreplies
  rw [remoteId_of_findByRemoteId hfind]
  exact ⟨⟨channel, hfind⟩, hreply recipient⟩

theorem carries_data (number : UInt32) (data : Bytes) :
    Carries number .channelData (buildChannelData number data) :=
  ⟨by decide, writeString data, rfl⟩

theorem carry_execReplies (recipient : UInt32) (wantReply : Bool) (command : String)
    (output : Bytes) (number : UInt32) :
    List.Forall₂ (Carries number) (replyTypes (.exec recipient wantReply command))
      (execReplies wantReply output number) := by
  have hrest : List.Forall₂ (Carries number) [.channelData, .channelEof, .channelClose]
      [buildChannelData number output, buildChannelEof number, buildChannelClose number] :=
    .cons (carries_data number output) (.cons (carries_bare number (by decide))
      (.cons (carries_bare number (by decide)) .nil))
  cases wantReply with
  | false => exact hrest
  | true => exact .cons (carries_bare number (by decide)) hrest

theorem replies_carry {action : Action} {packets : List SshPacket}
    (hreplies : (plan env state action).replies = some packets) :
    packets = [] ∨ ∃ number, RespondsOn env state action number ∧
      List.Forall₂ (Carries number) (replyTypes action) packets := by
  cases action with
  | openChannel msg =>
      cases hreplies
      refine .inr ⟨msg.senderChannel, .inl ⟨msg, rfl, rfl⟩, .cons ⟨by decide, ?_⟩ .nil⟩
      exact ⟨_, by rw [buildChannelOpenConfirmation, List.append_assoc, List.append_assoc]⟩
  | exec recipient wantReply command =>
      obtain ⟨hknown, hcarry⟩ :=
        carry_answering (carry_execReplies recipient wantReply command _) hreplies
      exact .inr ⟨recipient, .inr ⟨rfl, hknown⟩, hcarry⟩
  | ask recipient wantReply asked =>
      cases wantReply with
      | false =>
          cases hreplies
          exact .inl rfl
      | true =>
          have hanswer : ∀ number, List.Forall₂ (Carries number) [answerTo asked]
              [newPacket (answerTo asked) (writeU32 number)] := by
            intro number
            refine .cons (carries_bare number ?_) .nil
            cases asked <;> decide
          obtain ⟨hknown, hcarry⟩ := carry_answering hanswer hreplies
          exact .inr ⟨recipient, .inr ⟨rfl, hknown⟩, hcarry⟩
  | sftp recipient request =>
      obtain ⟨hknown, hcarry⟩ := carry_answering
        (fun number => List.Forall₂.cons (carries_data number _) .nil) hreplies
      exact .inr ⟨recipient, .inr ⟨rfl, hknown⟩, hcarry⟩
  | close recipient =>
      have hpackets : closeReplies env state recipient = packets := Option.some.inj hreplies
      rw [closeReplies] at hpackets
      split at hpackets
      · rename_i channel hfind
        split at hpackets
        · exact .inl hpackets.symm
        · subst hpackets
          rw [remoteId_of_findByRemoteId hfind]
          refine .inr ⟨recipient, .inr ⟨rfl, channel, hfind⟩, ?_⟩
          exact .cons (carries_bare recipient (by decide)) .nil
      · exact .inl hpackets.symm
  | widen recipient bytesToAdd =>
      cases hreplies
      exact .inl rfl
  | eof recipient =>
      cases hreplies
      exact .inl rfl
  | disconnect =>
      cases hreplies
      exact .inl rfl
  | ignore =>
      cases hreplies
      exact .inl rfl

theorem sentTo_append (number : UInt32) (front back : List ServerEvent) :
    sentTo number (front ++ back) = sentTo number front ++ sentTo number back :=
  List.filterMap_append

theorem sentTo_effects (number : UInt32) (action : Action) :
    sentTo number (plan env state action).effects = [] := by
  cases action <;> rfl

theorem sentTo_front {action : Action} {packets front : List SshPacket} (number : UInt32)
    (hreplies : (plan env state action).replies = some packets) (hfront : front <+: packets) :
    sentTo number ((plan env state action).effects ++ front.map .sent) = [] ∨
      (sentTo number ((plan env state action).effects ++ front.map .sent) <+:
          replyTypes action ∧ RespondsOn env state action number) := by
  have hinitial : sentTo number (front.map .sent) <+: sentTo number (packets.map .sent) :=
    (hfront.map _).filterMap _
  rw [sentTo_append, sentTo_effects, List.nil_append]
  rcases replies_carry hreplies with rfl | ⟨other, hresponds, hcarry⟩
  · exact .inl (List.prefix_nil.mp hinitial)
  · rw [sentTo_of_carries hcarry] at hinitial
    split at hinitial
    · rename_i hsame
      subst hsame
      exact .inr ⟨hinitial, hresponds⟩
    · exact .inl (List.prefix_nil.mp hinitial)

/-- What a round sends to a channel. -/
theorem sentTo_round (number : UInt32) (action : Action) :
    sentTo number (plan env state action).ran.events = [] ∨
      (sentTo number (plan env state action).ran.events <+: replyTypes action ∧
        RespondsOn env state action number) := by
  have hends := ends_ran (plan env state action)
  generalize (plan env state action).ran = ran at hends
  cases hends with
  | unknown hreplies => exact .inl (sentTo_effects number action)
  | sent packets hreplies hfits => exact sentTo_front number hreplies (List.prefix_refl packets)
  | cut packets front message hreplies hfront hfits hlarge =>
      exact sentTo_front number hreplies hfront

theorem sentTo_of_idle {r : Ran ServerState ServerEvent SshError Unit} (number : UInt32)
    (hidle : Idle state r) : sentTo number r.events = [] := by
  rw [sentTo, List.filterMap_eq_nil_iff]
  intro event hmem
  obtain ⟨packet, rfl, msgType, hlogin, htype⟩ := hidle.events event hmem
  have hother : ∀ other ∈ loginTypes, other ∉ channelTypes := by decide
  rw [typeSentTo, htype, fromU8_toU8, Option.filter_some, if_neg]
  simp [hother msgType hlogin]

theorem ClosedIn.append {received : List Received} {number : UInt32}
    (hclosed : ClosedIn received number) (item : Received) :
    ClosedIn (received ++ [item]) number := by
  obtain ⟨front, pkt, back, action, rfl, hopened, hread, hcloses⟩ := hclosed
  exact ⟨front, pkt, back ++ [item], action, by simp, hopened, hread, hcloses⟩

/-- What is known about a channel after some messages. -/
structure Kept (received : List Received) (number : UInt32) (types : List MessageType) :
    Prop where
  disciplined : Disciplined types
  opened : types ≠ [] → number ∈ openSenders received
  closed : .channelEof ∈ types ∨ .channelClose ∈ types → ClosedIn received number

theorem Kept.append_nil {received : List Received} {number : UInt32} {types : List MessageType}
    (hkept : Kept received number types) (item : Received) :
    Kept (received ++ [item]) number types where
  disciplined := hkept.disciplined
  opened hsome := by
    rw [openSenders_concat]
    exact List.mem_append_left _ (hkept.opened hsome)
  closed hend := (hkept.closed hend).append item

theorem openSender_of_actionOf {item : Received} {msg : ChannelOpenMsg}
    (haction : actionOf state item = some (.openChannel msg)) :
    openSender item = some msg.senderChannel := by
  obtain ⟨pkt, rfl, hread⟩ := readAction_of_actionOf haction
  exact openSender_of_opens (opens_of_readAction hread)

variable {world : World Name} {earlier : List Received} {item : Received} {number : UInt32}

/-- A channel that is opened has not been sent anything, as its number is new. -/
theorem Kept.open (hkept : Kept earlier number types)
    (hdistinct : (openSenders (earlier ++ [item])).Nodup)
    (hsender : openSender item = some number) (hmore : more <+: [.channelOpenConfirmation]) :
    Kept (earlier ++ [item]) number (types ++ more) := by
  rw [openSenders_concat, hsender] at hdistinct
  have hnew : number ∉ openSenders earlier := by
    intro hmem
    exact (List.nodup_append.mp hdistinct).2.2 number hmem number List.mem_cons_self rfl
  have hnil : types = [] := not_not.mp fun hsome => hnew (hkept.opened hsome)
  rw [hnil, List.nil_append]
  refine ⟨(disciplined_single (by decide) (by decide)).of_front hmore, ?_, ?_⟩
  · intro _
    rw [openSenders_concat, hsender]
    exact List.mem_append_right _ List.mem_cons_self
  · intro hend
    have hnone : ¬(MessageType.channelEof ∈ [MessageType.channelOpenConfirmation] ∨
        MessageType.channelClose ∈ [MessageType.channelOpenConfirmation]) := by
      decide
    exact absurd (hend.imp (fun hmem => hmore.subset hmem) fun hmem => hmore.subset hmem) hnone

theorem Kept.answer {action : Action} {pkt : SshPacket} (hkept : Kept earlier number types)
    (hopened : number ∈ openSenders earlier) (hquiet : ¬ClosedIn earlier number)
    (hread : readAction pkt = .ok action) (hanswers : answersOn action = some number)
    (hmore : more <+: replyTypes action) :
    Kept (earlier ++ [.ok pkt]) number (types ++ more) := by
  have heof : .channelEof ∉ types := fun hmem => hquiet (hkept.closed (.inl hmem))
  have hclose : .channelClose ∉ types := fun hmem => hquiet (hkept.closed (.inr hmem))
  refine ⟨((disciplined_replyTypes action).of_front hmore).append heof hclose, ?_, ?_⟩
  · intro _
    rw [openSenders_concat]
    exact List.mem_append_left _ hopened
  · intro hend
    have hnew : .channelEof ∈ more ∨ .channelClose ∈ more := by
      simpa [heof, hclose] using hend
    have hcloses := closesOn_of_end hanswers
      (hnew.imp (fun hmem => hmore.subset hmem) fun hmem => hmore.subset hmem)
    exact ⟨earlier, pkt, [], action, rfl, hopened, hread, hcloses⟩

/-- What one message adds to a channel. -/
theorem Kept.step (hkept : Kept earlier number types)
    (hdistinct : (openSenders (earlier ++ [item])).Nodup) (hquiet : Quiet env world earlier item) :
    Kept (earlier ++ [item]) number
      (types ++ sentTo number (run (receive env item) (stateAfter env world earlier)).events) := by
  cases haction : actionOf (stateAfter env world earlier) item with
  | none =>
      rw [sentTo_of_idle number (idle_of_actionOf haction), List.append_nil]
      exact hkept.append_nil item
  | some action =>
      rw [run_of_actionOf haction]
      rcases @sentTo_round env (stateAfter env world earlier) number action with
        hnil | ⟨hmore, ⟨msg, rfl, rfl⟩ | ⟨hanswers, channel, hfind⟩⟩
      · rw [hnil, List.append_nil]
        exact hkept.append_nil item
      · exact hkept.open hdistinct (openSender_of_actionOf haction) hmore
      · obtain ⟨pkt, rfl, hread⟩ := readAction_of_actionOf haction
        have hrunning : (stateAfter env world earlier).phase ≠ .finished := by
          rw [phase_of_actionOf haction]
          decide
        exact hkept.answer (mem_openSenders_of_known hrunning hfind)
          (hquiet action number haction hanswers) hread hanswers hmore

/-- In a connection whose client asks for nothing more on a channel after a
command or a CLOSE, every channel ends as it should. -/
theorem close_discipline (env : ServerEnv) (world : World Name) (received : List Received)
    (hdistinct : (openSenders received).Nodup)
    (hquiet : Machine.Always received (Quiet env world)) (number : UInt32) :
    Disciplined
      (sentTo number (run (handleConnection env received) (connected env world)).events) := by
  rw [events_handleConnection]
  have hmeets : Machine.Always received fun earlier item =>
      Quiet env world earlier item ∧ (openSenders (earlier ++ [item])).Nodup := by
    intro earlier item later heq
    refine ⟨hquiet earlier item later heq, ?_⟩
    rw [heq, List.append_cons, openSenders, List.filterMap_append] at hdistinct
    exact (List.nodup_append.mp hdistinct).1
  have hkept := @Machine.after_induction _ _ _ (connection env) (connected env world)
    (fun earlier _ => Kept earlier number
      (sentTo number ((connection env).history (connected env world) earlier))) _
    ⟨disciplined_nil, fun hsome => absurd rfl hsome, fun hend => by
      rcases hend with hend | hend <;> cases hend⟩ ?_ _ hmeets
  · exact hkept.disciplined
  · rintro earlier item hkept ⟨hstep, hnodup⟩
    rw [Machine.history_concat, sentTo_append]
    exact hkept.step hnodup hstep

theorem not_closedIn {received : List Received}
    (hnone : ∀ pkt, .ok pkt ∈ received → ∀ action, readAction pkt = .ok action →
      closesOn action = none) : ¬ClosedIn received number := by
  rintro ⟨front, pkt, back, action, rfl, -, hread, hcloses⟩
  rw [hnone pkt (List.mem_append_right _ List.mem_cons_self) action hread] at hcloses
  cases hcloses

theorem not_closedIn_concat {received : List Received} {pkt : SshPacket}
    (hopen : ¬ClosedIn received number)
    (hother : ∀ action, readAction pkt = .ok action → closesOn action ≠ some number) :
    ¬ClosedIn (received ++ [.ok pkt]) number := by
  rintro ⟨front, closing, back, action, heq, hmem, hread, hcloses⟩
  rcases List.eq_nil_or_concat back with rfl | ⟨back, last, rfl⟩
  · cases List.singleton_inj.mp (List.append_inj' heq rfl).2
    exact hother action hread hcloses
  · rw [List.concat_eq_append, ← List.cons_append, ← List.append_assoc] at heq
    obtain ⟨hfront, -⟩ := List.append_inj' heq rfl
    exact hopen ⟨front, closing, back, action, hfront, hmem, hread, hcloses⟩

/-- A command on channel 0. -/
def sampleExec : Received :=
  .ok (buildExecRequest 0 "ls" true)

theorem readAction_sampleExec : readAction (buildExecRequest 0 "ls" true) =
    .ok (.exec 0 true "ls") :=
  readAction_buildExecRequest 0 true (by decide +kernel)

theorem openSenders_sample {senders : List UInt32} (hdistinct : senders.Nodup)
    {received : List Received} (hnone : ∀ item ∈ received, openSender item = none) :
    (openSenders (sampleLogin ++ sampleOpens senders ++ received)).Nodup := by
  have hopens := openSenders_sampleOpens senders
  rw [openSenders] at hopens
  rw [openSenders, List.filterMap_append, hopens, List.filterMap_eq_nil_iff.mpr hnone,
    List.append_nil]
  exact hdistinct

theorem openSender_sampleExec : openSender sampleExec = none :=
  @openSender_of_type _ .channelRequest rfl (by decide)

theorem not_closedIn_start {senders : List UInt32} {received : List Received}
    (hinitial : received <+: sampleLogin ++ sampleOpens senders) :
    ¬ClosedIn received number := by
  apply not_closedIn
  intro pkt hmem action hread
  rcases List.mem_append.mp (hinitial.subset hmem) with hlogin | hopen
  · rcases List.mem_cons.mp hlogin with heq | hrest
    · cases heq
      cases hread
      rfl
    · cases List.mem_singleton.mp hrest
      cases hread
      rfl
  · obtain ⟨sender, -, heq⟩ := List.mem_map.mp hopen
    cases heq
    rw [readAction_buildChannelOpen _ _ _ (by decide +kernel)] at hread
    cases hread
    rfl

/-- Commands on two channels, each of which the server closes then, and a late EOF on the
first one. -/
def sampleCommands : List Received :=
  sampleLogin ++ sampleOpens [0, 1] ++ [sampleExec] ++
    [.ok (buildExecRequest 1 "ls" true)] ++ [.ok (buildChannelEof 0)]

theorem quiet_sampleCommands :
    Machine.Always sampleCommands (Quiet sampleEnv sampleWorld) := by
  have hexec : ∀ recipient, readAction (buildExecRequest recipient "ls" true) =
      .ok (.exec recipient true "ls") :=
    fun recipient => readAction_buildExecRequest recipient true (by decide +kernel)
  have haction : ∀ {state pkt action found}, readAction pkt = .ok found →
      actionOf state (.ok pkt) = some action → action = found := by
    intro state pkt action found hread haction
    rw [actionOf, hread] at haction
    split at haction
    · exact (Option.some.inj haction).symm
    · cases haction
  rw [sampleCommands, Machine.always_concat_iff, Machine.always_concat_iff,
    Machine.always_concat_iff]
  refine ⟨⟨⟨?_, ?_⟩, ?_⟩, ?_⟩
  · intro earlier item later heq action number _ _
    exact not_closedIn_start ⟨_, heq.symm⟩
  · intro action number _ _
    exact not_closedIn_start (List.prefix_refl _)
  · intro action number hasked hanswers
    obtain rfl := haction (hexec 1) hasked
    cases hanswers
    -- the command on channel 0 has closed that channel only
    refine not_closedIn_concat (not_closedIn_start (List.prefix_refl _)) ?_
    intro action hread
    cases (hexec 0).symm.trans hread
    decide
  · intro action number hasked hanswers
    obtain rfl := haction (readAction_buildChannelEof 0) hasked
    cases hanswers

/-- A client that runs a command on each of its channels. -/
theorem close_discipline_sampleCommands :
    Disciplined (sentTo 0 (run (handleConnection sampleEnv sampleCommands)
        (connected sampleEnv sampleWorld)).events) ∧
      Disciplined (sentTo 1 (run (handleConnection sampleEnv sampleCommands)
        (connected sampleEnv sampleWorld)).events) := by
  have hdistinct : (openSenders sampleCommands).Nodup := by
    rw [sampleCommands, List.append_assoc, List.append_assoc]
    apply openSenders_sample (by decide)
    rw [List.cons_append, List.nil_append, List.cons_append, List.nil_append,
      List.forall_mem_cons, List.forall_mem_cons, List.forall_mem_singleton]
    exact ⟨openSender_sampleExec, @openSender_of_type _ .channelRequest rfl (by decide),
      @openSender_of_type _ .channelEof rfl (by decide)⟩
  exact ⟨close_discipline sampleEnv sampleWorld sampleCommands hdistinct quiet_sampleCommands 0,
    close_discipline sampleEnv sampleWorld sampleCommands hdistinct quiet_sampleCommands 1⟩

theorem run_sampleExec :
    run (receive sampleEnv sampleExec) sampleChannelState =
      ⟨[.executed "ls"] ++ (execReplies true
        (utf8 (outputOf sampleEnv sampleChannelState "ls")) 0).map .sent,
        sampleChannelState, .ok ()⟩ := by
  have hfits : ∀ packet ∈ execReplies true
      (utf8 (outputOf sampleEnv sampleChannelState "ls")) 0, Fits packet :=
    ReplySizes.fits_execReplies_iff.mpr (by decide +kernel)
  have hwords : splitWhitespace "ls" = ["ls"] := by decide +kernel
  have hstate : (plan sampleEnv sampleChannelState (.exec 0 true "ls")).state =
      sampleChannelState := by
    rw [plan, afterCommand, hwords]
    rfl
  rw [sampleExec, run_receive_action rfl readAction_sampleExec, ran_of_fits rfl hfits, hstate]
  rfl

theorem run_sampleClose :
    run (receive sampleEnv (.ok (buildChannelClose 0))) sampleChannelState =
      ⟨[.sent (buildChannelClose 0)], sampleChannelState, .ok ()⟩ := by
  rw [run_receive_action rfl (readAction_buildChannelClose 0), ran_of_fits rfl]
  · rfl
  · exact List.forall_mem_singleton.mpr (ReplySizes.fits_of_word 0)

theorem closes_after_sampleExec :
    (sentTo 0 (run (handleConnection sampleEnv [sampleExec, .ok (buildChannelClose 0)])
      sampleChannelState).events).count .channelClose = 2 := by
  have hexec : sentTo 0 ((execReplies true
      (utf8 (outputOf sampleEnv sampleChannelState "ls")) 0).map .sent) =
        [.channelSuccess, .channelData, .channelEof, .channelClose] :=
    sentTo_of_carries (carry_execReplies 0 true "ls" _ 0)
  have hclose : sentTo 0 [.sent (buildChannelClose 0)] = [.channelClose] :=
    sentTo_of_carries (.cons (carries_bare 0 (by decide)) .nil)
  rw [handleConnection, run_forEach_cons_ok run_sampleExec, run_forEach_cons_ok run_sampleClose,
    run_forEach_nil, Ran.after, Ran.after, sentTo_append, sentTo_append, sentTo_append, hexec,
    hclose]
  rfl

/-- A client that closes its channel after a command is sent a second CLOSE. -/
theorem close_sent_twice :
    (openSenders (sampleLogin ++ sampleOpens [0] ++
      [sampleExec, .ok (buildChannelClose 0)])).Nodup ∧
    ¬Disciplined (sentTo 0 (run (handleConnection sampleEnv
      (sampleLogin ++ sampleOpens [0] ++ [sampleExec, .ok (buildChannelClose 0)]))
        (connected sampleEnv sampleWorld)).events) := by
  constructor
  · apply openSenders_sample (by decide)
    intro item hmem
    rcases List.mem_cons.mp hmem with rfl | hclose
    · exact openSender_sampleExec
    · rw [List.mem_singleton.mp hclose]
      exact @openSender_of_type _ .channelClose rfl (by decide)
  · intro hdisciplined
    obtain ⟨events, hstart⟩ := run_sampleChannel
    have htwice := hdisciplined.oneClose
    rw [handleConnection] at hstart
    rw [handleConnection, run_forEach_append, run_bind_ok hstart, Ran.after, sentTo_append,
      List.count_append] at htwice
    have hcloses := closes_after_sampleExec
    rw [handleConnection] at hcloses
    omega

end SwiftSsh.CloseDiscipline
