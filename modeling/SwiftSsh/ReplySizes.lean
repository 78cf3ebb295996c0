import SwiftSsh.ChannelActions
import SwiftSsh.SftpReplies

namespace SwiftSsh.ReplySizes

open SwiftSsh.ByteWords
open SwiftSsh.RustOutcome
open SwiftSsh.EventProgram
open SwiftSsh.WireTypes
open SwiftSsh.WireBuffer
open SwiftSsh.PacketCodec
open SwiftSsh.FileSystem
open SwiftSsh.SftpPaths
open SwiftSsh.SftpProtocol
open SwiftSsh.SftpHandler
open SwiftSsh.ChannelMessages
open SwiftSsh.ChannelTable
open SwiftSsh.ServerLoop
open SwiftSsh.AuthenticationGate
open SwiftSsh.ChannelRouting
open SwiftSsh.SftpFraming
open SwiftSsh.SftpReplies
open SwiftSsh.ChannelActions

/-- The largest payload of a packet. -/
def maxPayload : Nat := 34986

/-- The largest data of a CHANNEL_DATA. -/
def maxChannelData : Nat := maxPayload - 8

/-- The largest body of a file transfer response. -/
def maxResponseData : Nat := maxChannelData - 9

/-- A packet that can be serialized, whatever its padding. -/
def Accepted (packet : SshPacket) : Prop :=
  ∀ rng, ∃ bytes, serialize packet aesBlockSize rng = .ok bytes

/-- The packets that the server builds in response to a message. -/
def builtPackets (env : ServerEnv) (state : ServerState) (pkt : SshPacket) : List SshPacket :=
  match readAction pkt with
  | .ok action => (plan env state action).replies.getD []
  | _ => []

/-- The bytes of a name in a NAME response. It is sent twice. -/
def nameSize (entry : String × FileAttrs) : Nat :=
  8 + 2 * (utf8 entry.1).length + entry.2.encode.length

/-- The path that REALPATH resolves to is short enough to be sent twice. -/
def ShortPath (env : ServerEnv) (state : ServerState) (request : SftpPacket) : Prop :=
  operationOf request.packetType = .realpath →
    ∀ path rest resolved, readUtf8 request.data = .ok (path, rest) →
      resolvePath env.os state.sftpHandler.root path state.world = .ok resolved →
      (utf8 (fromUtf8Lossy (textOf resolved))).length ≤ 17476

/-- The listing that READDIR returns is short enough. -/
def ShortListing (env : ServerEnv) (state : ServerState) (request : SftpPacket) : Prop :=
  operationOf request.packetType = .readdir →
    ∀ handle rest path entries later, readString request.data = .ok (handle, rest) →
      state.sftpHandler.openDirs.lookup handle = some (path, false) →
      readDir env.os path state.world = (some entries, later) →
      4 + (entries.map fun entry => nameSize (listedEntry entry)).sum ≤ maxResponseData

/-- What an action is answered with fits in packets. -/
def Short (env : ServerEnv) (state : ServerState) : Action → Prop
  | .exec recipient _ command => Known env state recipient →
      (utf8 (outputOf env state command)).length ≤ maxChannelData
  | .sftp recipient request => Known env state recipient →
      ShortPath env state request ∧ ShortListing env state request
  | _ => True

theorem fits_iff {packet : SshPacket} : Fits packet ↔ packet.payload.length ≤ maxPayload := by
  have hblock : max aesBlockSize 8 = 16 := rfl
  rw [Fits, packetLength, paddingLen, hblock, maxPayload, maxPacketSize, minPadding]
  split <;> omega

theorem accepted_iff {packet : SshPacket} : Accepted packet ↔ Fits packet := by
  constructor
  · intro haccepted
    obtain ⟨bytes, hbytes⟩ := haccepted fun _ => 0
    exact (serialize_eq_ok_iff.mp hbytes).1
  · intro hfits rng
    exact ⟨_, serialize_eq_ok_iff.mpr ⟨hfits, rfl⟩⟩

theorem fits_of_word {msgType : MessageType} (word : UInt32) :
    Fits (newPacket msgType (writeU32 word)) := by
  rw [fits_iff]
  change 4 ≤ maxPayload
  decide

theorem fits_channelData_iff {recipient : UInt32} {data : Bytes} :
    Fits (buildChannelData recipient data) ↔ data.length ≤ maxChannelData := by
  rw [fits_iff, maxChannelData, maxPayload]
  change (writeU32 recipient ++ writeString data).length ≤ 34986 ↔ _
  rw [List.length_append, writeU32_length, writeString_length]
  omega

theorem fits_responsePacket_iff {recipient : UInt32} {response : SftpPacket} :
    Fits (responsePacket recipient response) ↔ response.data.length ≤ maxResponseData := by
  rw [responsePacket, fits_channelData_iff, encode_length, maxResponseData, maxChannelData,
    maxPayload]
  omega

theorem fits_confirmation (sender localId window maxPacket : UInt32) :
    Fits (buildChannelOpenConfirmation sender localId window maxPacket) := by
  rw [fits_iff]
  change 16 ≤ maxPayload
  decide

theorem length_buildSftpName (requestId : UInt32) (entries : List (String × FileAttrs)) :
    (buildSftpName requestId entries).data.length = 4 + (entries.map nameSize).sum := by
  rw [buildSftpName, List.length_append, writeU32_length, List.length_flatMap]
  congr 3
  funext entry
  rw [List.length_append, List.length_append, writeUtf8_length, nameSize]
  omega

theorem length_metadataToAttrs (data : Metadata) :
    (metadataToAttrs data).encode.length = 24 := by
  rfl

variable {env : ServerEnv} {state : ServerState}

theorem length_status_le (requestId code : UInt32) {message : String}
    (hshort : (utf8 message).length ≤ 22) :
    (buildSftpStatus requestId code message).data.length ≤ maxResponseData := by
  have hlanguage : (writeUtf8 "en").length = 6 := by decide +kernel
  rw [buildSftpStatus, List.length_append, List.length_append, writeU32_length,
    writeUtf8_length, hlanguage, maxResponseData, maxChannelData, maxPayload]
  omega

theorem length_string_le (bytes : Bytes) (hshort : bytes.length ≤ 32768) :
    (writeString bytes).length ≤ maxResponseData := by
  rw [writeString_length, maxResponseData, maxChannelData, maxPayload]
  omega

theorem length_realpath (requestId : UInt32) (path : String) :
    (buildSftpName requestId [(path, FileAttrs.default)]).data.length =
      16 + 2 * (utf8 path).length := by
  have hattrs : FileAttrs.default.encode.length = 4 := rfl
  rw [length_buildSftpName, List.map_singleton, List.sum_singleton, nameSize]
  dsimp only
  omega

theorem length_listing (requestId : UInt32) (entries : List (Name × Option Metadata)) :
    (buildSftpName requestId (entries.map listedEntry)).data.length =
      4 + (entries.map fun entry => nameSize (listedEntry entry)).sum := by
  rw [length_buildSftpName, List.map_map]
  rfl

theorem short_of_names {request : SftpPacket} (hpath : ShortPath env state request)
    (hlisting : ShortListing env state request) :
    (responseTo env state request).data.length ≤ maxResponseData := by
  have hresponds := responds_handleRequest env.os state.sftpHandler state.world request
  rw [responseTo]
  generalize (handleRequest env.os state.sftpHandler state.world request).response = response
    at hresponds
  cases hresponds with
  | status code message hshort => exact length_status_le _ _ hshort
  | handle hoperation => exact length_string_le _ (by rw [be32_length]; omega)
  | data hoperation bytes hshort => exact length_string_le _ hshort
  | attrs hoperation data =>
      change (metadataToAttrs data).encode.length ≤ _
      rw [length_metadataToAttrs]
      decide
  | realpath hoperation hread hresolve =>
      have hlength := hpath hoperation _ _ _ hread hresolve
      rw [length_realpath, maxResponseData, maxChannelData, maxPayload]
      omega
  | listing hoperation hread hopen hlisted =>
      rw [length_listing]
      exact hlisting hoperation _ _ _ _ _ hread hopen hlisted

theorem responseTo_realpath {request : SftpPacket} {path : String} {rest : Bytes}
    {resolved : FileTree.PathText Name} (hoperation : operationOf request.packetType = .realpath)
    (hread : readUtf8 request.data = .ok (path, rest))
    (hresolve : resolvePath env.os state.sftpHandler.root path state.world = .ok resolved) :
    responseTo env state request = buildSftpName request.requestId
      [(fromUtf8Lossy (textOf resolved), FileAttrs.default)] :=
  response_realpath env.os hoperation hread hresolve

theorem responseTo_listing {request : SftpPacket} {handle rest : Bytes}
    {path : FileTree.PathText Name} {entries : List (Name × Option Metadata)}
    {later : World Name} (hoperation : operationOf request.packetType = .readdir)
    (hread : readString request.data = .ok (handle, rest))
    (hopen : state.sftpHandler.openDirs.lookup handle = some (path, false))
    (hlisted : readDir env.os path state.world = (some entries, later)) :
    responseTo env state request =
      buildSftpName request.requestId (entries.map listedEntry) := by
  rw [responseTo, handleRequest, hoperation]
  dsimp only
  rw [handleReaddir, hread]
  dsimp only
  rw [hopen]
  dsimp only
  rw [hlisted]

theorem response_short_iff {request : SftpPacket} :
    (responseTo env state request).data.length ≤ maxResponseData ↔
      ShortPath env state request ∧ ShortListing env state request := by
  constructor
  · intro hshort
    constructor
    · intro hoperation path rest resolved hread hresolve
      rw [responseTo_realpath hoperation hread hresolve, length_realpath, maxResponseData,
        maxChannelData, maxPayload] at hshort
      omega
    · intro hoperation handle rest path entries later hread hopen hlisted
      rw [responseTo_listing hoperation hread hopen hlisted, length_listing] at hshort
      exact hshort
  · rintro ⟨hpath, hlisting⟩
    exact short_of_names hpath hlisting

theorem fits_answering_iff {recipient : UInt32} {packets : UInt32 → List SshPacket} :
    (∀ packet ∈ (answering env state recipient packets).getD [], Fits packet) ↔
      (Known env state recipient → ∀ packet ∈ packets recipient, Fits packet) := by
  rw [answering, Known]
  cases hfind : findByRemoteId env.order state.channels recipient with
  | none =>
      constructor
      · rintro - ⟨channel, ⟨⟩⟩
      · rintro - packet ⟨⟩
  | some channel =>
      rw [Option.map_some, Option.getD_some, remoteId_of_findByRemoteId hfind]
      exact ⟨fun hfits _ => hfits, fun hfits => hfits ⟨channel, rfl⟩⟩

theorem fits_execReplies_iff {wantReply : Bool} {output : Bytes} {remoteId : UInt32} :
    (∀ packet ∈ execReplies wantReply output remoteId, Fits packet) ↔
      output.length ≤ maxChannelData := by
  rw [execReplies, List.forall_mem_append, List.forall_mem_cons, List.forall_mem_cons,
    List.forall_mem_singleton, fits_channelData_iff]
  constructor
  · rintro ⟨-, hdata, -⟩
    exact hdata
  · intro hdata
    refine ⟨?_, hdata, fits_of_word _, fits_of_word _⟩
    split
    · exact List.forall_mem_singleton.mpr (fits_of_word _)
    · rintro packet ⟨⟩

/-- What is sent for an action fits exactly when the unbounded parts are short. -/
theorem fits_replies_iff (action : Action) :
    (∀ packet ∈ (plan env state action).replies.getD [], Fits packet) ↔
      Short env state action := by
  have hnone : ∀ packet ∈ ([] : List SshPacket), Fits packet := by
    rintro packet ⟨⟩
  cases action with
  | openChannel msg =>
      exact ⟨fun _ => trivial, fun _ =>
        List.forall_mem_singleton.mpr (fits_confirmation _ _ _ _)⟩
  | exec recipient wantReply command =>
      rw [plan, fits_answering_iff, fits_execReplies_iff]
      rfl
  | ask recipient wantReply asked =>
      refine ⟨fun _ => trivial, fun _ => ?_⟩
      rw [plan]
      cases wantReply with
      | false => exact hnone
      | true =>
          rw [if_pos rfl, fits_answering_iff]
          exact fun _ => List.forall_mem_singleton.mpr (fits_of_word _)
  | sftp recipient request =>
      rw [plan, fits_answering_iff, List.forall_mem_singleton, fits_responsePacket_iff,
        response_short_iff]
      rfl
  | close recipient =>
      refine ⟨fun _ => trivial, fun _ => ?_⟩
      rw [plan, Option.getD_some, closeReplies]
      split
      · split
        · exact hnone
        · exact List.forall_mem_singleton.mpr (fits_of_word _)
      · exact hnone
  | widen recipient bytesToAdd => exact ⟨fun _ => trivial, fun _ => hnone⟩
  | eof recipient => exact ⟨fun _ => trivial, fun _ => hnone⟩
  | disconnect => exact ⟨fun _ => trivial, fun _ => hnone⟩
  | ignore => exact ⟨fun _ => trivial, fun _ => hnone⟩

theorem ran_fails_iff (plan : Plan) :
    (∃ message, plan.ran.outcome = .err (.invalidPacket message)) ↔
      ¬∀ packet ∈ plan.replies.getD [], Fits packet := by
  have hends := ends_ran plan
  generalize plan.ran = ran at hends
  cases hends with
  | unknown hreplies =>
      rw [hreplies]
      constructor
      · rintro ⟨message, ⟨⟩⟩
      · intro hlarge
        refine absurd ?_ hlarge
        rintro packet ⟨⟩
  | sent packets hreplies hfits =>
      rw [hreplies]
      constructor
      · rintro ⟨message, ⟨⟩⟩
      · exact fun hlarge => absurd hfits hlarge
  | cut packets front message hreplies hfront hfits hlarge =>
      rw [hreplies]
      exact ⟨fun _ => hlarge, fun _ => ⟨message, rfl⟩⟩

/-- Everything that is built for a message can be sent, and a message that can be
read does not end the connection by its reply, exactly when the output of its
command, its resolved path or its listing is short. -/
theorem replies_fit_iff (env : ServerEnv) (state : ServerState) (pkt : SshPacket)
    (hphase : state.phase = .channels) :
    ((∀ packet ∈ builtPackets env state pkt, Accepted packet) ∧
      ∀ action, readAction pkt = .ok action →
        ∀ message, (run (receive env (.ok pkt)) state).outcome ≠ .err (.invalidPacket message)) ↔
      ∀ action, readAction pkt = .ok action → Short env state action := by
  simp only [accepted_iff]
  constructor
  · rintro ⟨hfits, -⟩ action hread
    rw [builtPackets, hread] at hfits
    exact (fits_replies_iff action).mp hfits
  · intro hshort
    constructor
    · intro packet hmem
      rw [builtPackets] at hmem
      split at hmem
      · rename_i action hread
        exact (fits_replies_iff action).mpr (hshort action hread) packet hmem
      · cases hmem
    · intro action hread message hfailed
      rw [run_receive_action hphase hread] at hfailed
      exact (ran_fails_iff _).mp ⟨message, hfailed⟩
        ((fits_replies_iff action).mpr (hshort action hread))

theorem replies_fit_sampleExec :
    (∀ packet ∈ builtPackets sampleEnv sampleChannelState (buildExecRequest 0 "ls" true),
        Accepted packet) ∧
      ∀ action, readAction (buildExecRequest 0 "ls" true) = .ok action → ∀ message,
        (run (receive sampleEnv (.ok (buildExecRequest 0 "ls" true)))
          sampleChannelState).outcome ≠ .err (.invalidPacket message) := by
  refine (replies_fit_iff sampleEnv sampleChannelState _ rfl).mpr ?_
  intro action hread
  rw [readAction_buildExecRequest 0 true (by decide +kernel)] at hread
  cases hread
  intro _
  decide +kernel

/-- A text of the letter a. -/
def longText : Nat → String
  | 0 => ""
  | count + 1 => "a" ++ longText count

theorem length_longText (count : Nat) : (utf8 (longText count)).length = count := by
  induction count with
  | zero => rfl
  | succ count ih =>
      rw [longText, utf8_append, List.length_append, ih, Nat.add_comm]
      rfl

/-- A server whose commands print the same number of bytes. -/
def chattyEnv (count : Nat) : ServerEnv :=
  { sampleEnv with spawn := fun _ _ world => (.output (utf8 (longText count)) [], world) }

/-- A session with such a server and one channel. -/
def chattyState (count : Nat) : ServerState :=
  { connected (chattyEnv count) sampleWorld with
    phase := .channels
    channels := (acceptChannel newChannelManager 0 "session" 2097152 32768).2 }

theorem length_chattyOutput (count : Nat) (state : ServerState) :
    (utf8 (outputOf (chattyEnv count) state "cat")).length = count := by
  have hwords : splitWhitespace "cat" = ["cat"] := by decide +kernel
  rw [outputOf, hwords]
  change (utf8 (fromUtf8Lossy (utf8 (longText count)) ++ fromUtf8Lossy [])).length = count
  rw [utf8_append, List.length_append, fromUtf8Lossy, fromUtf8_utf8]
  exact length_longText count

theorem short_of_accepted {count : Nat}
    (haccepted : ∀ packet ∈ builtPackets (chattyEnv count) (chattyState count)
      (buildExecRequest 0 "cat" true), Accepted packet) : count ≤ maxChannelData := by
  rw [builtPackets, readAction_buildExecRequest 0 true (by decide +kernel)] at haccepted
  simp only [accepted_iff] at haccepted
  have hshort := (fits_replies_iff _).mp haccepted ⟨_, rfl⟩
  rw [length_chattyOutput] at hshort
  exact hshort

/-- The output of a command is sent in one packet, however long it is. -/
theorem long_output_not_accepted :
    (∃ events, run (handleConnection (chattyEnv 40000) (sampleLogin ++ sampleOpens [0]))
      (connected (chattyEnv 40000) sampleWorld) = ⟨events, chattyState 40000, .ok ()⟩) ∧
    ¬((∀ packet ∈ builtPackets (chattyEnv 40000) (chattyState 40000)
        (buildExecRequest 0 "cat" true), Accepted packet) ∧
      ∀ action, readAction (buildExecRequest 0 "cat" true) = .ok action → ∀ message,
        (run (receive (chattyEnv 40000) (.ok (buildExecRequest 0 "cat" true)))
          (chattyState 40000)).outcome ≠ .err (.invalidPacket message)) := by
  refine ⟨run_login_open rfl sampleWorld, ?_⟩
  rintro ⟨haccepted, -⟩
  have hshort := short_of_accepted haccepted
  revert hshort
  decide

end SwiftSsh.ReplySizes
