import SwiftSsh.ChannelRouting
import SwiftSsh.StreamFraming

namespace SwiftSsh.SftpFraming

open SwiftSsh.ByteWords
open SwiftSsh.RustOutcome
open SwiftSsh.EventProgram
open SwiftSsh.StreamFraming
open SwiftSsh.WireTypes
open SwiftSsh.WireBuffer
open SwiftSsh.PacketCodec
open SwiftSsh.FileSystem
open SwiftSsh.SftpPaths
open SwiftSsh.SftpProtocol
open SwiftSsh.SftpHandler
open SwiftSsh.ChannelMessages
open SwiftSsh.ChannelTable
open SwiftSsh.ServerLoop
open SwiftSsh.ChannelReplies
open SwiftSsh.AuthenticationGate
open SwiftSsh.ChannelRouting

/-- The stream of requests, cut into messages for one channel. -/
def dataMessages (recipient : UInt32) (chunks : List Bytes) : List Received :=
  chunks.map fun chunk => .ok (buildChannelData recipient chunk)

/-- The request that was served, if the event is one. -/
def handledRequest : ServerEvent → Option SftpPacket
  | .handled request => some request
  | _ => none

/-- The packet that was sent, if the event is one. -/
def sentPacket : ServerEvent → Option SshPacket
  | .sent packet => some packet
  | _ => none

/-- The packet that carries a response. -/
def responsePacket (recipient : UInt32) (response : SftpPacket) : SshPacket :=
  buildChannelData recipient response.encode

/-- The requests are served once each and in order, and each gets its response. -/
structure Serves (env : ServerEnv) (before : ServerState) (requests : List SftpPacket)
    (r : Ran ServerState ServerEvent SshError Unit) : Prop where
  handled : r.events.filterMap handledRequest = requests
  sent : ∃ remoteId, r.events.filterMap sentPacket =
    (serveAll env.os before.sftpHandler before.world requests).responses.map
      (responsePacket remoteId)

/-- A channel has this number of the client. -/
def Known (env : ServerEnv) (state : ServerState) (recipient : UInt32) : Prop :=
  ∃ channel, findByRemoteId env.order state.channels recipient = some channel

/-- A packet is not too large to be sent on the encrypted connection. -/
def Fits (packet : SshPacket) : Prop :=
  packetLength packet aesBlockSize ≤ maxPacketSize

/-- Every response can be sent: the channel is known and the packets are not too
large. -/
def Deliverable (env : ServerEnv) (state : ServerState) (recipient : UInt32)
    (requests : List SftpPacket) : Prop :=
  (requests = [] ∨ Known env state recipient) ∧
    ∀ response ∈ (serveAll env.os state.sftpHandler state.world requests).responses,
      Fits (responsePacket recipient response)

theorem sftpRequestIn_be32 (length : UInt32) (rest : Bytes) :
    sftpRequestIn (be32 length ++ rest) =
      if rest.length < 5 then none
      else if length.toNat ≤ rest.length ∧ 5 ≤ length.toNat then
        (SftpPacket.decode (rest.take length.toNat)).toOption
      else none := by
  have hsize : (be32 length ++ rest).length = 4 + rest.length := by
    rw [List.length_append, be32_length]
  unfold sftpRequestIn
  rw [hsize]
  by_cases hshort : rest.length < 5
  · rw [if_pos hshort, if_pos (by omega)]
  · rw [if_neg hshort, if_neg (by omega)]
    change (if (ofBe32 _ _ _ _).toNat + 4 ≤ 4 + rest.length ∧ (ofBe32 _ _ _ _).toNat ≥ 5 then
      (SftpPacket.decode (rest.take (ofBe32 _ _ _ _).toNat)).toOption else none) = _
    rw [ofBe32_be32, Nat.add_comm]
    simp only [Nat.add_le_add_iff_left, ge_iff_le]

theorem sftpRequestIn_encode {packet : SftpPacket}
    (hlength : packet.encode.length ≤ maxPacketSize) :
    sftpRequestIn packet.encode = some packet := by
  have hsize := encode_length packet
  have hword : (UInt32.ofNat (5 + packet.data.length)).toNat = 5 + packet.data.length :=
    toNat_ofNat_of_le_maxPacketSize (by omega)
  have hbody : (packet.packetType :: (be32 packet.requestId ++ packet.data)).length =
      5 + packet.data.length := by
    rw [List.length_cons, List.length_append, be32_length]
    omega
  rw [encode_eq, sftpRequestIn_be32, hword, ← hbody, if_neg (by omega),
    if_pos ⟨Nat.le_refl _, by omega⟩, List.take_length, decode_cons]
  rfl

theorem eq_encode_append_of_sftpRequestIn {data : Bytes} {packet : SftpPacket}
    (hfound : sftpRequestIn data = some packet) : ∃ rest, data = packet.encode ++ rest := by
  match data, hfound with
  | a :: b :: c :: d :: rest, hfound =>
      have hdata : a :: b :: c :: d :: rest = be32 (ofBe32 a b c d) ++ rest := by
        rw [be32_ofBe32]
        rfl
      rw [hdata, sftpRequestIn_be32] at hfound
      split at hfound
      · cases hfound
      split at hfound
      · rename_i hsize
        have htaken : (rest.take (ofBe32 a b c d).toNat).length = (ofBe32 a b c d).toNat := by
          rw [List.length_take]
          omega
        refine ⟨rest.drop (ofBe32 a b c d).toNat, ?_⟩
        rw [hdata]
        -- The length prefix counts the bytes of the packet, so encoding gives it back.
        match hrest : rest.take (ofBe32 a b c d).toNat, eq_ok_of_toOption hfound with
        | packetType :: e :: f :: g :: h :: body, hdecode =>
            cases hdecode
            rw [hrest] at htaken
            have hword : UInt32.ofNat (5 + body.length) = ofBe32 a b c d := by
              have hcount : 5 + body.length = (ofBe32 a b c d).toNat := by
                rw [← htaken]
                change 5 + body.length = body.length + 5
                omega
              rw [hcount, UInt32.ofNat_toNat]
            rw [encode_eq]
            dsimp only
            rw [hword, be32_ofBe32 e f g h, List.append_assoc]
            conv_lhs => rw [← List.take_append_drop (ofBe32 a b c d).toNat rest, hrest]
            rfl
      · cases hfound

/-- The receiver's view of the encoding of requests. -/
def sftpFraming : Framing SftpPacket UInt8 where
  encode := SftpPacket.encode
  first := sftpRequestIn
  encode_ne_nil := by
    intro packet hnil
    have hlength := encode_length packet
    rw [hnil, List.length_nil] at hlength
    omega
  first_eq_some := fun _ _ hfound => eq_encode_append_of_sftpRequestIn hfound

variable {env : ServerEnv} {state : ServerState} {recipient : UInt32}

theorem length_le_of_fits {chunk : Bytes} (hfits : Fits (buildChannelData recipient chunk)) :
    chunk.length ≤ maxPacketSize := by
  have hpayload : (buildChannelData recipient chunk).payload.length = 8 + chunk.length := by
    change (be32 _ ++ (be32 _ ++ chunk)).length = _
    rw [List.length_append, List.length_append, be32_length, be32_length]
    omega
  rw [Fits, packetLength] at hfits
  omega

/-- The state after a request has been served. -/
def afterRequest (env : ServerEnv) (state : ServerState) (request : SftpPacket) : ServerState :=
  { state with
    sftpHandler := (handleRequest env.os state.sftpHandler state.world request).handler
    world := (handleRequest env.os state.sftpHandler state.world request).world }

/-- The response to a request. -/
def responseTo (env : ServerEnv) (state : ServerState) (request : SftpPacket) : SftpPacket :=
  (handleRequest env.os state.sftpHandler state.world request).response

theorem run_receive_data {chunk : Bytes} (hphase : state.phase = .channels)
    (hlength : chunk.length ≤ maxPacketSize) :
    run (receive env (.ok (buildChannelData recipient chunk))) state =
      match sftpRequestIn chunk with
      | some request => run (serveSftp env recipient request) state
      | none => ⟨[], state, .ok ()⟩ := by
  have htype : MessageType.fromU8 (buildChannelData recipient chunk).msgType =
      some .channelData := rfl
  rw [run_receive_channels hphase, serveChannelMessage, htype]
  dsimp only
  rw [serveChannelData, parse_buildChannelData hlength, run_lift_ok_bind]
  dsimp only
  cases sftpRequestIn chunk <;> rfl

theorem run_serveSftp_bind (request : SftpPacket) :
    run (serveSftp env recipient request) state =
      (run (knownChannel env recipient >>= fun channel =>
        send (buildChannelData channel.remoteId (responseTo env state request).encode))
          (afterRequest env state request)).after [.handled request] :=
  rfl

theorem run_serveSftp_of_known {request : SftpPacket} (hknown : Known env state recipient) :
    run (serveSftp env recipient request) state =
      (run (send (responsePacket recipient (responseTo env state request)))
        (afterRequest env state request)).after [.handled request] := by
  obtain ⟨channel, hfind⟩ := hknown
  have hchannel := @run_knownChannel_of_found env (afterRequest env state request) _ _ hfind
  rw [run_serveSftp_bind, run_bind_ok hchannel, remoteId_of_findByRemoteId hfind, Ran.after_nil,
    responsePacket]

theorem run_serveSftp_of_delivered {request : SftpPacket} (hknown : Known env state recipient)
    (hfits : Fits (responsePacket recipient (responseTo env state request))) :
    run (serveSftp env recipient request) state =
      ⟨[.handled request, .sent (responsePacket recipient (responseTo env state request))],
        afterRequest env state request, .ok ()⟩ := by
  rw [run_serveSftp_of_known hknown, run_send_of_fits hfits]
  rfl

/-- A request whose response cannot be sent is served all the same. -/
theorem run_serveSftp_of_undelivered {request : SftpPacket}
    (hfailed : ¬(Known env state recipient ∧
      Fits (responsePacket recipient (responseTo env state request)))) :
    ∃ error, run (serveSftp env recipient request) state =
      ⟨[.handled request], afterRequest env state request, .err error⟩ := by
  cases hfind : findByRemoteId env.order state.channels recipient with
  | none =>
      have hchannel := @run_knownChannel_of_missing env (afterRequest env state request) _ hfind
      refine ⟨.channel "Unknown channel", ?_⟩
      rw [run_serveSftp_bind, run_bind_err hchannel]
      rfl
  | some channel =>
      have hlarge := Nat.lt_of_not_le fun hfits => hfailed ⟨⟨channel, hfind⟩, hfits⟩
      have hsend := @run_send_of_too_large (afterRequest env state request) _ hlarge
      have hserved := @run_serveSftp_of_known env state recipient request ⟨channel, hfind⟩
      rw [hsend] at hserved
      exact ⟨_, hserved⟩

theorem deliverable_cons_iff {request : SftpPacket} {requests : List SftpPacket} :
    Deliverable env state recipient (request :: requests) ↔
      (Known env state recipient ∧
        Fits (responsePacket recipient (responseTo env state request))) ∧
      Deliverable env (afterRequest env state request) recipient requests := by
  rw [Deliverable, serveAll_cons_responses, List.forall_mem_cons]
  constructor
  · rintro ⟨hknown, hfirst, hlater⟩
    have hsome : Known env state recipient := hknown.resolve_left nofun
    exact ⟨⟨hsome, hfirst⟩, .inr hsome, hlater⟩
  · rintro ⟨⟨hknown, hfirst⟩, -, hlater⟩
    exact ⟨.inr hknown, hfirst, hlater⟩

theorem run_receive_of_no_request {chunk : Bytes} (hphase : state.phase = .channels)
    (hcarried : Fits (buildChannelData recipient chunk)) (hnone : sftpRequestIn chunk = none) :
    run (receive env (.ok (buildChannelData recipient chunk))) state = ⟨[], state, .ok ()⟩ := by
  rw [run_receive_data hphase (length_le_of_fits hcarried), hnone]

theorem run_receive_of_request {chunk : Bytes} {request : SftpPacket}
    (hphase : state.phase = .channels) (hcarried : Fits (buildChannelData recipient chunk))
    (hsome : sftpRequestIn chunk = some request) :
    run (receive env (.ok (buildChannelData recipient chunk))) state =
      run (serveSftp env recipient request) state := by
  rw [run_receive_data hphase (length_le_of_fits hcarried), hsome]

theorem serves_of_deliverable {chunks : List Bytes} (hphase : state.phase = .channels)
    (hcarried : ∀ chunk ∈ chunks, Fits (buildChannelData recipient chunk))
    (hdeliverable : Deliverable env state recipient (chunks.filterMap sftpRequestIn)) :
    Serves env state (chunks.filterMap sftpRequestIn)
      (run (handleConnection env (dataMessages recipient chunks)) state) := by
  suffices hevents :
      (run (handleConnection env (dataMessages recipient chunks)) state).events.filterMap
          handledRequest = chunks.filterMap sftpRequestIn ∧
      (run (handleConnection env (dataMessages recipient chunks)) state).events.filterMap
          sentPacket =
        (serveAll env.os state.sftpHandler state.world
          (chunks.filterMap sftpRequestIn)).responses.map (responsePacket recipient) from
    ⟨hevents.1, recipient, hevents.2⟩
  induction chunks generalizing state with
  | nil => exact ⟨rfl, rfl⟩
  | cons chunk chunks ih =>
      obtain ⟨hchunk, hlater⟩ := List.forall_mem_cons.mp hcarried
      rw [handleConnection, dataMessages, List.map_cons]
      cases hrequest : sftpRequestIn chunk with
      | none =>
          rw [List.filterMap_cons_none hrequest] at hdeliverable ⊢
          rw [run_forEach_cons_ok (run_receive_of_no_request hphase hchunk hrequest)]
          exact ih hphase hlater hdeliverable
      | some request =>
          rw [List.filterMap_cons_some hrequest, deliverable_cons_iff] at hdeliverable
          obtain ⟨⟨hknown, hfits⟩, hrest⟩ := hdeliverable
          have hround := (run_receive_of_request hphase hchunk hrequest).trans
            (run_serveSftp_of_delivered hknown hfits)
          obtain ⟨hhandled, hsent⟩ := @ih (afterRequest env state request) hphase hlater hrest
          rw [List.filterMap_cons_some hrequest, run_forEach_cons_ok hround,
            serveAll_cons_responses]
          exact ⟨congrArg (request :: ·) hhandled, congrArg (_ :: ·) hsent⟩

/-- The first response that cannot be sent ends the connection after its request
was served. -/
theorem handled_of_not_deliverable {chunks : List Bytes} (hphase : state.phase = .channels)
    (hcarried : ∀ chunk ∈ chunks, Fits (buildChannelData recipient chunk))
    (hfailed : ¬Deliverable env state recipient (chunks.filterMap sftpRequestIn)) :
    ((run (handleConnection env (dataMessages recipient chunks)) state).events.filterMap
        handledRequest).length =
      ((run (handleConnection env (dataMessages recipient chunks)) state).events.filterMap
        sentPacket).length + 1 := by
  induction chunks generalizing state with
  | nil => exact absurd ⟨.inl rfl, nofun⟩ hfailed
  | cons chunk chunks ih =>
      obtain ⟨hchunk, hlater⟩ := List.forall_mem_cons.mp hcarried
      rw [handleConnection, dataMessages, List.map_cons]
      cases hrequest : sftpRequestIn chunk with
      | none =>
          rw [List.filterMap_cons_none hrequest] at hfailed
          rw [run_forEach_cons_ok (run_receive_of_no_request hphase hchunk hrequest)]
          exact ih hphase hlater hfailed
      | some request =>
          have hround := @run_receive_of_request env state recipient _ _ hphase hchunk hrequest
          rw [List.filterMap_cons_some hrequest, deliverable_cons_iff] at hfailed
          by_cases hsends : Known env state recipient ∧
              Fits (responsePacket recipient (responseTo env state request))
          · rw [run_serveSftp_of_delivered hsends.1 hsends.2] at hround
            have hrest := @ih (afterRequest env state request) hphase hlater
              fun hdeliverable => hfailed ⟨hsends, hdeliverable⟩
            rw [run_forEach_cons_ok hround]
            exact congrArg (· + 1) hrest
          · obtain ⟨error, hserved⟩ := run_serveSftp_of_undelivered hsends
            rw [hserved] at hround
            rw [forEach, run_bind_err hround]
            rfl

theorem length_serveAll_responses (os : Os Name) (handler : Handler) (world : World Name)
    (requests : List SftpPacket) :
    (serveAll os handler world requests).responses.length = requests.length := by
  induction requests generalizing handler world with
  | nil => rfl
  | cons request requests ih =>
      rw [serveAll_cons_responses, List.length_cons, List.length_cons, ih]

/-- Requests that are served were found at the start of messages, and their
responses could be sent. -/
theorem found_of_serves {chunks : List Bytes} {requests : List SftpPacket}
    (hphase : state.phase = .channels)
    (hcarried : ∀ chunk ∈ chunks, Fits (buildChannelData recipient chunk))
    (hserves : Serves env state requests
      (run (handleConnection env (dataMessages recipient chunks)) state)) :
    chunks.filterMap sftpRequestIn = requests ∧ Deliverable env state recipient requests := by
  by_cases hdeliverable : Deliverable env state recipient (chunks.filterMap sftpRequestIn)
  · have hfound := (serves_of_deliverable hphase hcarried hdeliverable).handled
    rw [hserves.handled] at hfound
    rw [hfound]
    exact ⟨rfl, hdeliverable⟩
  · have hcount := handled_of_not_deliverable hphase hcarried hdeliverable
    obtain ⟨remoteId, hsent⟩ := hserves.sent
    rw [hserves.handled, hsent, List.length_map, length_serveAll_responses] at hcount
    omega

/-- Data is not kept from one message to the next, and a message is read for one
request only. -/
theorem serves_iff (env : ServerEnv) (state : ServerState) (recipient : UInt32)
    (requests : List SftpPacket) (chunks : List Bytes) (hphase : state.phase = .channels)
    (hcut : chunks.flatten = requests.flatMap SftpPacket.encode)
    (hcarried : ∀ chunk ∈ chunks, Fits (buildChannelData recipient chunk)) :
    Serves env state requests
        (run (handleConnection env (dataMessages recipient chunks)) state) ↔
      chunks.filter (fun chunk => !chunk.isEmpty) = requests.map SftpPacket.encode ∧
        Deliverable env state recipient requests := by
  constructor
  · intro hserves
    obtain ⟨hfound, hdeliverable⟩ := found_of_serves hphase hcarried hserves
    have haligned : sftpFraming.Aligned chunks requests := Framing.aligned_of_cut hcut hfound
    exact ⟨haligned, hdeliverable⟩
  · rintro ⟨haligned, hdeliverable⟩
    have hread : ∀ request ∈ requests, sftpRequestIn request.encode = some request := by
      intro request hmem
      have hchunk : request.encode ∈ chunks.filter fun chunk => !chunk.isEmpty := by
        rw [haligned]
        exact List.mem_map_of_mem hmem
      exact sftpRequestIn_encode
        (length_le_of_fits (hcarried _ (List.mem_of_mem_filter hchunk)))
    have hfound : chunks.filterMap sftpRequestIn = requests :=
      @Framing.found_of_aligned _ _ sftpFraming _ _ haligned hread
    have hserves := serves_of_deliverable hphase hcarried (hfound.symm ▸ hdeliverable)
    rw [hfound] at hserves
    exact hserves

/-- The first request of a session, which carries the version. -/
def sampleInit : SftpPacket :=
  ⟨sshFxpInit, sftpVersion, []⟩

/-- A session with a channel that both sides call 0. -/
def sampleChannelState : ServerState :=
  { sampleSession with
    channels := (acceptChannel newChannelManager 0 "session" 2097152 32768).2 }

theorem run_login_open {env : ServerEnv} (hdb : env.userDb = sampleDb) (world : World Name) :
    ∃ events, run (handleConnection env (sampleLogin ++ sampleOpens [0])) (connected env world) =
      ⟨events, { connected env world with
        phase := .channels
        channels := (acceptChannel newChannelManager 0 "session" 2097152 32768).2 }, .ok ()⟩ := by
  have hopen : run (receive env (.ok (buildChannelOpen "session" 0 2097152 32768)))
      { connected env world with phase := .channels } = _ :=
    (run_receive_channels rfl _).trans (run_serveChannelOpen (parse_sampleOpen 0))
  rw [run_login_append hdb, handleConnection, sampleOpens, List.map_cons, List.map_nil,
    run_forEach_cons_ok hopen, run_forEach_nil]
  exact ⟨_, rfl⟩

theorem run_sampleChannel :
    ∃ events, run (handleConnection sampleEnv (sampleLogin ++ sampleOpens [0]))
      (connected sampleEnv sampleWorld) = ⟨events, sampleChannelState, .ok ()⟩ :=
  run_login_open rfl sampleWorld

/-- Three requests, one of which changes the tree. -/
def sampleRequests : List SftpPacket :=
  [sampleInit, ⟨sshFxpMkdir, 4, writeUtf8 "new" ++ writeU32 0⟩,
    ⟨sshFxpRealpath, 5, writeUtf8 "new"⟩]

/-- The requests in messages of their own, with an empty one between them. -/
def sampleChunks : List Bytes :=
  (sampleRequests.take 1).map SftpPacket.encode ++
    [] :: (sampleRequests.drop 1).map SftpPacket.encode

theorem deliverable_sampleRequests :
    Deliverable sampleEnv sampleChannelState 0 sampleRequests := by
  refine ⟨.inr ⟨_, rfl⟩, ?_⟩
  have hshort : ∀ response ∈ (serveAll sampleEnv.os sampleChannelState.sftpHandler
      sampleChannelState.world sampleRequests).responses,
      (responsePacket 0 response).payload.length + 21 ≤ maxPacketSize := by
    decide +kernel
  exact fun response hmem => fits_of_length_le (hshort response hmem)

theorem serves_whole_requests :
    Serves sampleEnv sampleChannelState sampleRequests
      (run (handleConnection sampleEnv (dataMessages 0 sampleChunks)) sampleChannelState) := by
  have hshort : ∀ chunk ∈ sampleChunks,
      (buildChannelData 0 chunk).payload.length + 21 ≤ maxPacketSize := by
    decide +kernel
  refine (serves_iff sampleEnv sampleChannelState 0 sampleRequests sampleChunks rfl ?_ ?_).mpr
    ⟨?_, deliverable_sampleRequests⟩
  · decide +kernel
  · exact fun chunk hmem => fits_of_length_le (hshort chunk hmem)
  · decide +kernel

/-- The first of them, cut after its length prefix, is not served at all. -/
theorem split_request_not_served :
    (∃ events, run (handleConnection sampleEnv (sampleLogin ++ sampleOpens [0]))
      (connected sampleEnv sampleWorld) = ⟨events, sampleChannelState, .ok ()⟩) ∧
    [sampleInit.encode.take 4, sampleInit.encode.drop 4].flatten =
      [sampleInit].flatMap SftpPacket.encode ∧
    (∀ chunk ∈ [sampleInit.encode.take 4, sampleInit.encode.drop 4],
      Fits (buildChannelData 0 chunk)) ∧
    ¬Serves sampleEnv sampleChannelState [sampleInit]
      (run (handleConnection sampleEnv
        (dataMessages 0 [sampleInit.encode.take 4, sampleInit.encode.drop 4]))
          sampleChannelState) := by
  have hcarried : ∀ chunk ∈ [sampleInit.encode.take 4, sampleInit.encode.drop 4],
      Fits (buildChannelData 0 chunk) := by
    intro chunk hmem
    rcases List.mem_cons.mp hmem with rfl | hlast
    · exact fits_of_length_le (by decide +kernel)
    · rw [List.mem_singleton.mp hlast]
      exact fits_of_length_le (by decide +kernel)
  refine ⟨run_sampleChannel, by decide +kernel, hcarried, ?_⟩
  intro hserves
  have hfound := (found_of_serves rfl hcarried hserves).1
  revert hfound
  decide +kernel

end SwiftSsh.SftpFraming
