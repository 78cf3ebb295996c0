import SwiftSsh.SftpFraming

namespace SwiftSsh.SftpReplies

open SwiftSsh.ByteWords
open SwiftSsh.RustOutcome
open SwiftSsh.EventProgram
open SwiftSsh.WireTypes
open SwiftSsh.WireBuffer
open SwiftSsh.FileTree
open SwiftSsh.FileSystem
open SwiftSsh.SftpPaths
open SwiftSsh.SftpProtocol
open SwiftSsh.SftpHandler
open SwiftSsh.ChannelMessages
open SwiftSsh.ChannelTable
open SwiftSsh.ServerLoop
open SwiftSsh.ChannelReplies
open SwiftSsh.AuthenticationGate
open SwiftSsh.ChannelRouting
open SwiftSsh.SftpFraming

/-- The responses that the handler gives to a request. -/
inductive Responds (os : Os Name) (handler : Handler) (world : World Name)
    (pkt : SftpPacket) : SftpPacket → Prop where
  | status (code : UInt32) (message : String) (hshort : (utf8 message).length ≤ 22) :
      Responds os handler world pkt (buildSftpStatus pkt.requestId code message)
  | handle (hoperation : operationOf pkt.packetType = .openFile ∨
        operationOf pkt.packetType = .opendir) :
      Responds os handler world pkt
        (buildSftpHandle pkt.requestId (be32 handler.nextHandle))
  | data (hoperation : operationOf pkt.packetType = .read) (bytes : Bytes)
      (hshort : bytes.length ≤ 32768) :
      Responds os handler world pkt (buildSftpData pkt.requestId bytes)
  | attrs (hoperation : operationOf pkt.packetType = .stat) (data : Metadata) :
      Responds os handler world pkt (buildSftpAttrs pkt.requestId (metadataToAttrs data))
  | realpath (hoperation : operationOf pkt.packetType = .realpath) {path : String}
      {rest : Bytes} {resolved : PathText Name} (hread : readUtf8 pkt.data = .ok (path, rest))
      (hresolve : resolvePath os handler.root path world = .ok resolved) :
      Responds os handler world pkt
        (buildSftpName pkt.requestId [(fromUtf8Lossy (textOf resolved), FileAttrs.default)])
  | listing (hoperation : operationOf pkt.packetType = .readdir) {handle rest : Bytes}
      {path : PathText Name} {entries : List (Name × Option Metadata)} {later : World Name}
      (hread : readString pkt.data = .ok (handle, rest))
      (hopen : handler.openDirs.lookup handle = some (path, false))
      (hlisted : readDir os path world = (some entries, later)) :
      Responds os handler world pkt
        (buildSftpName pkt.requestId (entries.map listedEntry))

variable {os : Os Name} {handler : Handler} {world : World Name} {pkt : SftpPacket}

theorem responds_withPath {denied : UInt32 × String} {next : PathText Name → Bytes → Served}
    (hdenied : (utf8 denied.2).length ≤ 22)
    (hnext : ∀ path rest resolved, readUtf8 pkt.data = .ok (path, rest) →
      resolvePath os handler.root path world = .ok resolved →
      Responds os handler world pkt (next resolved rest).response) :
    Responds os handler world pkt (withPath os handler world pkt denied next).response := by
  rw [withPath]
  split
  · rename_i path rest hread
    split
    · rename_i resolved hresolve
      exact hnext path rest resolved hread hresolve
    · exact .status _ _ hdenied
  · exact .status _ _ (by decide +kernel)

theorem responds_realpath (hoperation : operationOf pkt.packetType = .realpath) :
    Responds os handler world pkt (handleRealpath os handler world pkt).response := by
  apply responds_withPath (by decide +kernel)
  intro path rest resolved hread hresolve
  exact .realpath hoperation hread hresolve

theorem responds_stat (hoperation : operationOf pkt.packetType = .stat) :
    Responds os handler world pkt (handleStat os handler world pkt).response := by
  apply responds_withPath (by decide +kernel)
  intro path rest resolved _ _
  split
  · exact .attrs hoperation _
  · exact .status _ _ (by decide +kernel)

theorem responds_opendir (hoperation : operationOf pkt.packetType = .opendir) :
    Responds os handler world pkt (handleOpendir os handler world pkt).response := by
  apply responds_withPath (by decide +kernel)
  intro path rest resolved _ _
  split
  · exact .handle (.inr hoperation)
  · exact .status _ _ (by decide +kernel)

theorem responds_readdir (hoperation : operationOf pkt.packetType = .readdir) :
    Responds os handler world pkt (handleReaddir os handler world pkt).response := by
  rw [handleReaddir]
  split
  · rename_i handle rest hread
    split
    · exact .status _ _ (by decide +kernel)
    · exact .status _ _ (by decide +kernel)
    · rename_i path hopen
      dsimp only
      split
      · rename_i entries later hlisted
        exact .listing hoperation hread hopen hlisted
      · exact .status _ _ (by decide +kernel)
  · exact .status _ _ (by decide +kernel)

theorem responds_close :
    Responds os handler world pkt (handleClose handler world pkt).response := by
  rw [handleClose]
  split
  · exact .status _ _ (by decide +kernel)
  · exact .status _ _ (by decide +kernel)

theorem responds_open (hoperation : operationOf pkt.packetType = .openFile) :
    Responds os handler world pkt (handleOpen os handler world pkt).response := by
  rw [handleOpen]
  split
  · split
    · split
      · exact .handle (.inl hoperation)
      · exact .status _ _ (by decide +kernel)
    · exact .status _ _ (by decide +kernel)
  · exact .status _ _ (by decide +kernel)

theorem readAt_length_le {location : List Name} {offset : UInt64} {count : Nat}
    {bytes : Bytes} {later : World Name}
    (hread : readAt os location offset count world = (some bytes, later)) :
    bytes.length ≤ count := by
  rw [readAt] at hread
  split at hread
  · obtain ⟨hbytes, -⟩ := Prod.mk.inj hread
    obtain ⟨-, -, rfl⟩ := Option.map_eq_some_iff.mp hbytes
    rw [List.length_take, List.length_take]
    omega
  · obtain ⟨hbytes, -⟩ := Prod.mk.inj hread
    cases hbytes

theorem responds_readFile (hoperation : operationOf pkt.packetType = .read)
    (path : PathText Name) (offset : UInt64) (length : Nat) :
    Responds os handler world pkt (readFile os path offset length world pkt.requestId).1 := by
  rw [readFile]
  split
  · split
    · exact .status _ _ (by decide +kernel)
    · split
      · exact .status _ _ (by decide +kernel)
      · rename_i bytes later _ hread
        refine .data hoperation bytes ?_
        exact (readAt_length_le hread).trans (Nat.min_le_right _ _)
      · exact .status _ _ (by decide +kernel)
  · exact .status _ _ (by decide +kernel)

theorem responds_read (hoperation : operationOf pkt.packetType = .read) :
    Responds os handler world pkt (handleRead os handler world pkt).response := by
  rw [handleRead]
  split
  · split
    · split
      · split
        · exact responds_readFile hoperation _ _ _
        · exact .status _ _ (by decide +kernel)
      · exact .status _ _ (by decide +kernel)
    · exact .status _ _ (by decide +kernel)
  · exact .status _ _ (by decide +kernel)

theorem responds_writeFile (path : PathText Name) (flags : UInt32) (offset : UInt64)
    (data : Bytes) :
    Responds os handler world pkt
      (writeFile os path flags offset data world pkt.requestId).1 := by
  rw [writeFile]
  split
  · split
    · exact .status _ _ (by decide +kernel)
    · split
      · exact .status _ _ (by decide +kernel)
      · exact .status _ _ (by decide +kernel)
  · exact .status _ _ (by decide +kernel)

theorem responds_write :
    Responds os handler world pkt (handleWrite os handler world pkt).response := by
  rw [handleWrite]
  split
  · split
    · split
      · split
        · split
          · exact .status _ _ (by decide +kernel)
          · exact responds_writeFile _ _ _ _
        · exact .status _ _ (by decide +kernel)
      · exact .status _ _ (by decide +kernel)
    · exact .status _ _ (by decide +kernel)
  · exact .status _ _ (by decide +kernel)

theorem responds_changePath {change : PathText Name → World Name → Option Unit × World Name}
    {failed : String} (hfailed : (utf8 failed).length ≤ 22) :
    Responds os handler world pkt (changePath os handler world pkt change failed).response := by
  apply responds_withPath (by decide +kernel)
  intro path rest resolved _ _
  split
  · exact .status _ _ (by decide +kernel)
  · exact .status _ _ hfailed

/-- What the handler can respond, for any request and in any state. -/
theorem responds_handleRequest (os : Os Name) (handler : Handler) (world : World Name)
    (pkt : SftpPacket) :
    Responds os handler world pkt (handleRequest os handler world pkt).response := by
  rw [handleRequest]
  cases hoperation : operationOf pkt.packetType with
  | realpath => exact responds_realpath hoperation
  | stat => exact responds_stat hoperation
  | opendir => exact responds_opendir hoperation
  | readdir => exact responds_readdir hoperation
  | close => exact responds_close
  | openFile => exact responds_open hoperation
  | read => exact responds_read hoperation
  | write => exact responds_write
  | mkdir => exact responds_changePath (by decide +kernel)
  | rmdir => exact responds_changePath (by decide +kernel)
  | remove => exact responds_changePath (by decide +kernel)
  | unsupported => exact .status _ _ (by decide +kernel)

/-- The types that the protocol allows in the answer to a request. -/
def allowedTypes (packetType : UInt8) : List UInt8 :=
  if packetType = sshFxpInit then [sshFxpVersion]
  else if packetType = sshFxpOpen ∨ packetType = sshFxpOpendir then
    [sshFxpHandle, sshFxpStatus]
  else if packetType = sshFxpRead then [sshFxpData, sshFxpStatus]
  else if packetType = sshFxpReaddir ∨ packetType = sshFxpRealpath then
    [sshFxpName, sshFxpStatus]
  else if packetType = sshFxpStat ∨ packetType = sshFxpLstat then
    [sshFxpAttrs, sshFxpStatus]
  else [sshFxpStatus]

/-- A reply that a client can match with its request. The answer to INIT has a
version number in place of the request id. -/
structure Correlated (request reply : SftpPacket) : Prop where
  requestId : request.packetType ≠ sshFxpInit → reply.requestId = request.requestId
  packetType : reply.packetType ∈ allowedTypes request.packetType

theorem status_mem_allowedTypes {packetType : UInt8} (hinit : packetType ≠ sshFxpInit) :
    sshFxpStatus ∈ allowedTypes packetType := by
  rw [allowedTypes, if_neg hinit]
  split
  · decide
  split
  · decide
  split
  · decide
  split <;> decide

/-- The types of the requests for an operation that has more than one answer. -/
def requestTypes : Operation → List UInt8
  | .realpath => [sshFxpRealpath]
  | .stat => [sshFxpStat, sshFxpLstat]
  | .opendir => [sshFxpOpendir]
  | .readdir => [sshFxpReaddir]
  | .openFile => [sshFxpOpen]
  | .read => [sshFxpRead]
  | _ => []

theorem mem_requestTypes {packetType : UInt8}
    (hsome : requestTypes (operationOf packetType) ≠ []) :
    packetType ∈ requestTypes (operationOf packetType) := by
  have hall : ∀ n : Fin 256, requestTypes (operationOf (UInt8.ofFin n)) ≠ [] →
      UInt8.ofFin n ∈ requestTypes (operationOf (UInt8.ofFin n)) := by
    decide +kernel
  exact hall packetType.toFin hsome

theorem mem_allowedTypes {packetType : UInt8} (replyType : UInt8) {operation : Operation}
    (hoperation : operationOf packetType = operation) (hsome : requestTypes operation ≠ [])
    (hall : ∀ requestType ∈ requestTypes operation, replyType ∈ allowedTypes requestType) :
    replyType ∈ allowedTypes packetType := by
  subst hoperation
  exact hall packetType (mem_requestTypes hsome)

theorem correlated_of_responds {reply : SftpPacket} (hinit : pkt.packetType ≠ sshFxpInit)
    (hresponds : Responds os handler world pkt reply) : Correlated pkt reply := by
  refine ⟨fun _ => ?_, ?_⟩
  · cases hresponds <;> rfl
  cases hresponds with
  | status code message hshort => exact status_mem_allowedTypes hinit
  | handle hoperation =>
      rcases hoperation with hoperation | hoperation
      · exact mem_allowedTypes sshFxpHandle hoperation (by decide) (by decide +kernel)
      · exact mem_allowedTypes sshFxpHandle hoperation (by decide) (by decide +kernel)
  | data hoperation bytes hshort =>
      exact mem_allowedTypes sshFxpData hoperation (by decide) (by decide +kernel)
  | attrs hoperation data =>
      exact mem_allowedTypes sshFxpAttrs hoperation (by decide) (by decide +kernel)
  | realpath hoperation hread hresolve =>
      exact mem_allowedTypes sshFxpName hoperation (by decide) (by decide +kernel)
  | listing hoperation hread hopen hlisted =>
      exact mem_allowedTypes sshFxpName hoperation (by decide) (by decide +kernel)

/-- The handler has no case for INIT. -/
theorem not_correlated_of_init (hinit : pkt.packetType = sshFxpInit) :
    ¬Correlated pkt (handleRequest os handler world pkt).response := by
  rintro ⟨-, htype⟩
  rw [handleRequest, hinit] at htype
  revert htype
  change ¬sshFxpStatus ∈ allowedTypes sshFxpInit
  decide

variable {env : ServerEnv} {state : ServerState}

theorem sent_of_serveSftp {recipient : UInt32} {request : SftpPacket} {packet : SshPacket}
    (hmem : .sent packet ∈ (run (serveSftp env recipient request) state).events) :
    packet = responsePacket recipient (responseTo env state request) := by
  by_cases hdelivered : Known env state recipient ∧
      Fits (responsePacket recipient (responseTo env state request))
  · rw [run_serveSftp_of_delivered hdelivered.1 hdelivered.2] at hmem
    simpa using hmem
  · obtain ⟨error, hrun⟩ := run_serveSftp_of_undelivered hdelivered
    rw [hrun] at hmem
    simp at hmem

theorem run_receive_request {pkt : SshPacket} {msg : ChannelDataMsg} {request : SftpPacket}
    (hphase : state.phase = .channels)
    (htype : MessageType.fromU8 pkt.msgType = some .channelData)
    (hparse : ChannelDataMsg.parse pkt.payload = .ok msg)
    (hrequest : sftpRequestIn msg.data = some request) :
    run (receive env (.ok pkt)) state =
      run (serveSftp env msg.recipientChannel request) state := by
  rw [run_receive_channels hphase, serveChannelMessage, htype]
  dsimp only
  rw [serveChannelData, hparse, run_lift_ok_bind, hrequest]

/-- A request delivered as channel data gets a reply that belongs to it exactly
when it is not INIT. -/
theorem reply_correlated_iff (env : ServerEnv) (state : ServerState) (pkt : SshPacket)
    (msg : ChannelDataMsg) (request : SftpPacket) (hphase : state.phase = .channels)
    (htype : MessageType.fromU8 pkt.msgType = some .channelData)
    (hparse : ChannelDataMsg.parse pkt.payload = .ok msg)
    (hrequest : sftpRequestIn msg.data = some request) :
    (∀ packet, .sent packet ∈ (run (receive env (.ok pkt)) state).events →
      packet = responsePacket msg.recipientChannel (responseTo env state request)) ∧
    (Correlated request (responseTo env state request) ↔
      request.packetType ≠ sshFxpInit) := by
  constructor
  · intro packet hmem
    rw [run_receive_request hphase htype hparse hrequest] at hmem
    exact sent_of_serveSftp hmem
  · constructor
    · intro hcorrelated hinit
      exact not_correlated_of_init hinit hcorrelated
    · intro hinit
      exact correlated_of_responds hinit (responds_handleRequest _ _ _ _)

/-- A request for the attributes of the root. -/
def sampleStat : SftpPacket :=
  ⟨sshFxpStat, 7, writeUtf8 "."⟩

theorem reply_correlated_sampleStat :
    Correlated sampleStat (responseTo sampleEnv sampleChannelState sampleStat) := by
  have hlength : sampleStat.encode.length ≤ maxPacketSize := by decide +kernel
  have hreply := reply_correlated_iff sampleEnv sampleChannelState
    (buildChannelData 0 sampleStat.encode) ⟨0, sampleStat.encode⟩ sampleStat rfl rfl
    (parse_buildChannelData hlength) (sftpRequestIn_encode hlength)
  exact hreply.2.mpr (by decide)

/-- The greeting of a client on an open channel is answered by a status. -/
theorem init_not_answered :
    (∃ events, run (handleConnection sampleEnv (sampleLogin ++ sampleOpens [0]))
      (connected sampleEnv sampleWorld) = ⟨events, sampleChannelState, .ok ()⟩) ∧
    ChannelDataMsg.parse (buildChannelData 0 buildSftpInit).payload = .ok ⟨0, buildSftpInit⟩ ∧
    sftpRequestIn buildSftpInit = some sampleInit ∧
    ¬Correlated sampleInit (responseTo sampleEnv sampleChannelState sampleInit) := by
  refine ⟨run_sampleChannel, parse_buildChannelData (by decide), by decide +kernel, ?_⟩
  exact not_correlated_of_init rfl

end SwiftSsh.SftpReplies
