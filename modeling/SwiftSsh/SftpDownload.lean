import SwiftSsh.SftpHandler

/-!
Downloads: a client reads an open file piece by piece until it is told that the
file has ended. Between two requests anything may happen, except to the file.
-/

namespace SwiftSsh.SftpDownload

open SwiftSsh.ByteWords
open SwiftSsh.RustOutcome
open SwiftSsh.WireTypes
open SwiftSsh.WireBuffer
open SwiftSsh.FileTree
open SwiftSsh.FileSystem
open SwiftSsh.SftpPaths
open SwiftSsh.SftpProtocol
open SwiftSsh.SftpHandler

/-- A READ request. -/
def readRequest (requestId : UInt32) (handle : Bytes) (offset : UInt64) (length : UInt32) :
    SftpPacket :=
  ⟨sshFxpRead, requestId, writeString handle ++ be64 offset ++ writeU32 length⟩

/-- A response to READ as the client takes it. -/
inductive Reply where
  | data (bytes : Bytes)
  | eof
  | failed

/-- What the response to a READ says. -/
def replyOf (response : SftpPacket) : Reply :=
  if response.packetType = sshFxpData then
    match parse readString response.data with
    | .ok bytes => .data bytes
    | _ => .failed
  else if response.packetType = sshFxpStatus ∧ parse readU32 response.data = .ok sshFxEof then
    .eof
  else .failed

/-- What a READ of the client meets. -/
structure Turn where
  requestId : UInt32
  handler : Handler
  world : World Name

/-- The reply to a READ in a turn. -/
def Turn.reply (os : Os Name) (turn : Turn) (handle : Bytes) (offset : UInt64)
    (length : UInt32) : Reply :=
  replyOf (handleRequest os turn.handler turn.world
    (readRequest turn.requestId handle offset length)).response

/-- The client loop from a turn and an offset on. It gives the data of the DATA
replies, or nothing if it fails or has not stopped after `fuel` requests. -/
def readLoop (ask : Nat → UInt64 → Reply) : Nat → Nat → UInt64 → Option (List Bytes)
  | 0, _, _ => none
  | fuel + 1, turn, offset =>
      match ask turn offset with
      | .data bytes =>
          (readLoop ask fuel (turn + 1) (offset + UInt64.ofNat bytes.length)).map (bytes :: ·)
      | .eof => some []
      | .failed => none

/-- Read from the start of a file on. -/
def download (os : Os Name) (turns : Nat → Turn) (handle : Bytes) (length : UInt32)
    (fuel : Nat) : Option (List Bytes) :=
  readLoop (fun turn offset => (turns turn).reply os handle offset length) fuel 0 0

/-- The handle is open on a readable file with the given content. -/
def OpenOn (os : Os Name) (handle content : Bytes) (turn : Turn) : Prop :=
  ∃ path flags location attributes,
    turn.handler.openFiles.lookup handle = some (path, flags) ∧
    locate turn.world.tree os.linkLimit os.cwd .existing path = some location ∧
    turn.world.tree.lookup location = some (.file content attributes) ∧
    os.permits turn.world.tree (.openFile location) = true ∧
    os.permits turn.world.tree (.read location) = true

section

variable {os : Os Name} {content : Bytes} {number length : UInt32} {turn : Turn}

theorem replyOf_eof (requestId : UInt32) :
    replyOf (buildSftpStatus requestId sshFxEof "EOF") = .eof := by
  have htype : (buildSftpStatus requestId sshFxEof "EOF").packetType ≠ sshFxpData := by
    change sshFxpStatus ≠ sshFxpData
    decide
  rw [replyOf, if_neg htype, if_pos ⟨rfl, parse_buildSftpStatus _ _ _⟩]

theorem replyOf_data (requestId : UInt32) {bytes : Bytes}
    (hlength : bytes.length ≤ maxPacketSize) :
    replyOf (buildSftpData requestId bytes) = .data bytes := by
  have hread := readString_writeString [] hlength
  rw [List.append_nil] at hread
  have hparse : parse readString (buildSftpData requestId bytes).data = .ok bytes :=
    parse_eq_ok hread
  have htype : (buildSftpData requestId bytes).packetType = sshFxpData := rfl
  rw [replyOf, if_pos htype, hparse]

theorem handleRequest_readRequest {handler : Handler} {world : World Name}
    {path : PathText Name} {flags : UInt32}
    (hopen : handler.openFiles.lookup (be32 number) = some (path, flags))
    (requestId : UInt32) (offset : UInt64) :
    (handleRequest os handler world
      (readRequest requestId (be32 number) offset length)).response =
      (readFile os path offset length.toNat world requestId).1 := by
  have hhandle : readString (writeString (be32 number) ++ (be64 offset ++ writeU32 length)) =
      .ok (be32 number, be64 offset ++ writeU32 length) := by
    apply readString_writeString
    rw [be32_length]
    decide
  have hlength := readU32_writeU32 length []
  rw [List.append_nil] at hlength
  rw [handleRequest]
  change (handleRead os handler world _).response = _
  rw [handleRead, readRequest, List.append_assoc, hhandle]
  dsimp only
  rw [cursorReadU64_be64]
  dsimp only
  rw [hlength]
  dsimp only
  rw [hopen]

theorem readFile_of_readable {path : PathText Name} {location : List Name} {world : World Name}
    {attributes : Attributes} {offset : UInt64}
    (hlocate : locate world.tree os.linkLimit os.cwd .existing path = some location)
    (hfile : world.tree.lookup location = some (.file content attributes))
    (hopens : os.permits world.tree (.openFile location) = true)
    (hreads : os.permits world.tree (.read location) = true)
    (hbefore : offset.toNat ≤ content.length) (hseek : offset.toNat < 2 ^ 63) (requested : Nat)
    (requestId : UInt32) :
    let available := (content.drop offset.toNat).take (min requested 32768)
    let bytes := available.take (os.readCount offset.toNat available.length)
    (readFile os path offset requested world requestId).1 =
      if bytes = [] then buildSftpStatus requestId sshFxEof "EOF"
      else buildSftpData requestId bytes := by
  intro available bytes
  have hopened : openRead os path world =
      (some location, ⟨world.tree, world.accesses ++ [.openFile location]⟩) := by
    rw [openRead, hlocate]
    dsimp only
    rw [hfile]
    dsimp only
    rw [perform, if_pos hopens]
    rfl
  have hread : (readAt os location offset (min requested 32768)
      ⟨world.tree, world.accesses ++ [.openFile location]⟩).1 = some bytes := by
    rw [readAt]
    dsimp only
    rw [hfile]
    dsimp only
    rw [perform, if_pos hreads]
    rfl
  have hcan : os.canSeek world.tree location offset = true :=
    os.canSeek_content _ _ _ _ _ hfile hbefore hseek
  rw [readFile, hopened]
  dsimp only
  rw [hcan]
  generalize readAt os location offset (min requested 32768)
    ⟨world.tree, world.accesses ++ [.openFile location]⟩ = r at hread
  obtain ⟨result, later⟩ := r
  change result = some bytes at hread
  subst hread
  cases bytes with
  | nil => rfl
  | cons first rest => rfl

/-- One turn: at the end of the file the client is told so, and before it it gets
the next bytes, at least one and at most as many as asked for and the limit. -/
theorem reply_of_openOn (hopen : OpenOn os (be32 number) content turn) (hasked : length ≠ 0)
    {offset : UInt64} (hbefore : offset.toNat ≤ content.length)
    (hseek : offset.toNat < 2 ^ 63) :
    (content.length ≤ offset.toNat ∧ turn.reply os (be32 number) offset length = .eof) ∨
    ∃ bytes rest, content.drop offset.toNat = bytes ++ rest ∧
      1 ≤ bytes.length ∧ bytes.length ≤ min length.toNat 32768 ∧
      turn.reply os (be32 number) offset length = .data bytes := by
  obtain ⟨path, flags, location, attributes, hlookup, hlocate, hfile, hopens, hreads⟩ := hopen
  have hreply := readFile_of_readable hlocate hfile hopens hreads hbefore hseek length.toNat
    turn.requestId
  rw [← handleRequest_readRequest hlookup] at hreply
  have hpos : 0 < min length.toNat 32768 := by
    have hne : length.toNat ≠ 0 := by
      rw [← UInt32.toNat_zero, ne_eq, UInt32.toNat_inj]
      exact hasked
    omega
  rw [Turn.reply]
  by_cases hend : content.length ≤ offset.toNat
  · left
    refine ⟨hend, ?_⟩
    rw [hreply, List.drop_eq_nil_of_le hend, List.take_nil, List.take_nil, if_pos rfl]
    exact replyOf_eof _
  · right
    -- what the read returns is a nonempty start of what is left of the file
    let available := (content.drop offset.toNat).take (min length.toNat 32768)
    let count := os.readCount offset.toNat available.length
    have havailable : available.length = min (min length.toNat 32768)
        (content.length - offset.toNat) := by
      rw [List.length_take, List.length_drop]
    have hcount : 0 < count := os.readCount_pos _ _ (by omega)
    have hfits : count ≤ available.length := os.readCount_le _ _
    have htaken : (available.take count).length = count := by
      rw [List.length_take]
      omega
    have hne : available.take count ≠ [] := by
      intro hnil
      rw [hnil] at htaken
      exact absurd htaken (Nat.ne_of_lt hcount)
    refine ⟨available.take count,
      available.drop count ++ (content.drop offset.toNat).drop (min length.toNat 32768),
      ?_, by omega, by omega, ?_⟩
    · rw [← List.append_assoc, List.take_append_drop, List.take_append_drop]
    · rw [hreply, if_neg hne]
      apply replyOf_data
      have hlimit : 32768 ≤ maxPacketSize := by decide
      change (available.take count).length ≤ maxPacketSize
      omega

theorem toNat_add_ofNat {offset : UInt64} {count : Nat}
    (hsmall : offset.toNat + count < 2 ^ 63) :
    (offset + UInt64.ofNat count).toNat = offset.toNat + count := by
  rw [UInt64.toNat_add, UInt64.toNat_ofNat', Nat.add_mod_mod, Nat.mod_eq_of_lt (by omega)]

/-- The answers of a server to the reads of a file at the offsets inside it. -/
def Supplies (content : Bytes) (most : Nat) (ask : Nat → UInt64 → Reply) : Prop :=
  ∀ turn offset, offset.toNat ≤ content.length → offset.toNat < 2 ^ 63 →
    (content.length ≤ offset.toNat ∧ ask turn offset = .eof) ∨
    ∃ bytes rest, content.drop offset.toNat = bytes ++ rest ∧
      1 ≤ bytes.length ∧ bytes.length ≤ most ∧ ask turn offset = .data bytes

/-- The loop from an offset on: what is left of the file is its measure. -/
theorem readLoop_of_supplies {ask : Nat → UInt64 → Reply} {most : Nat}
    (hsupplies : Supplies content most ask) (hsmall : content.length < 2 ^ 63)
    (left turn : Nat) (offset : UInt64) (hleft : offset.toNat + left = content.length) :
    ∃ chunks, (∀ fuel, left < fuel → readLoop ask fuel turn offset = some chunks) ∧
      (∀ bytes ∈ chunks, 1 ≤ bytes.length ∧ bytes.length ≤ most) ∧
      chunks.flatten = content.drop offset.toNat := by
  induction left using Nat.strong_induction_on generalizing turn offset with
  | h left ih =>
      rcases hsupplies turn offset (by omega) (by omega) with
        ⟨hend, hreply⟩ | ⟨bytes, rest, hrest, hpos, hmost, hreply⟩
      · refine ⟨[], ?_, ?_, ?_⟩
        · intro fuel hfuel
          obtain ⟨fuel, rfl⟩ := Nat.exists_eq_add_of_lt hfuel
          rw [readLoop, hreply]
        · rintro bytes ⟨⟩
        · rw [List.drop_eq_nil_of_le hend]
          rfl
      · have hlength : bytes.length ≤ left := by
          have hdrop := congrArg List.length hrest
          rw [List.length_drop, List.length_append] at hdrop
          omega
        have hnext : (offset + UInt64.ofNat bytes.length).toNat =
            offset.toNat + bytes.length :=
          toNat_add_ofNat (by omega)
        obtain ⟨chunks, hloop, hbounds, hflat⟩ := ih (left - bytes.length) (by omega) (turn + 1)
          (offset + UInt64.ofNat bytes.length) (by omega)
        refine ⟨bytes :: chunks, ?_, ?_, ?_⟩
        · intro fuel hfuel
          obtain ⟨fuel, rfl⟩ : ∃ more, fuel = more + 1 := ⟨fuel - 1, by omega⟩
          rw [readLoop, hreply]
          dsimp only
          rw [hloop fuel (by omega)]
          rfl
        · intro other hother
          rcases List.mem_cons.mp hother with rfl | hlater
          · exact ⟨hpos, hmost⟩
          · exact hbounds other hlater
        · rw [List.flatten_cons, hflat, hnext, ← List.drop_drop, hrest, List.drop_left]

end

/-- A client that reads an open file from its start until it is told that the file
has ended stops after finitely many requests, gets at least one byte with every
DATA reply and never more than it asked for or the limit, and has then read exactly
the content. -/
theorem download_complete (os : Os Name) (turns : Nat → Turn) (number length : UInt32)
    (content : Bytes) (hsmall : content.length < 2 ^ 63) (hasked : 1 ≤ length.toNat)
    (hopen : ∀ k, OpenOn os (be32 number) content (turns k)) :
    ∃ chunks, (∀ fuel, content.length < fuel →
        download os turns (be32 number) length fuel = some chunks) ∧
      (∀ bytes ∈ chunks, 1 ≤ bytes.length ∧ bytes.length ≤ min length.toNat 32768) ∧
      chunks.flatten = content := by
  have hne : length ≠ 0 := by
    rintro rfl
    exact absurd hasked (by decide)
  refine readLoop_of_supplies ?_ hsmall content.length 0 0 (Nat.zero_add _)
  intro turn offset hbefore hseek
  exact reply_of_openOn (hopen turn) hne hbefore hseek

/-- The file of the sample tree, open under the first handle. -/
def sampleTurn : Turn :=
  ⟨7, { newHandler sampleRoot with
      openFiles := AList.insert (be32 0) (pathOf [utf8 "srv", utf8 "f"], 1) ∅ },
    ⟨sampleTree, []⟩⟩

theorem download_complete_sample :
    ∃ chunks, (∀ fuel, 3 < fuel →
        download plainOs (fun _ => sampleTurn) (be32 0) 2 fuel = some chunks) ∧
      (∀ bytes ∈ chunks, 1 ≤ bytes.length ∧ bytes.length ≤ min 2 32768) ∧
      chunks.flatten = [1, 2, 3] := by
  refine download_complete plainOs (fun _ => sampleTurn) 0 2 [1, 2, 3] (by decide) (by decide) ?_
  intro k
  refine ⟨pathOf [utf8 "srv", utf8 "f"], 1, [utf8 "srv", utf8 "f"], ⟨3, 33188, 0, 0⟩,
    ?_, ?_, ?_, rfl, rfl⟩
  · exact AList.lookup_insert _
  · decide +kernel
  · decide +kernel

end SwiftSsh.SftpDownload
