import SwiftSsh.WireBuffer

namespace SwiftSsh.SftpProtocol

open SwiftSsh.ByteWords
open SwiftSsh.RustOutcome
open SwiftSsh.WireTypes
open SwiftSsh.WireBuffer

/-- The packet types. -/
def sshFxpInit : UInt8 := 1
def sshFxpVersion : UInt8 := 2
def sshFxpOpen : UInt8 := 3
def sshFxpClose : UInt8 := 4
def sshFxpRead : UInt8 := 5
def sshFxpWrite : UInt8 := 6
def sshFxpLstat : UInt8 := 7
def sshFxpOpendir : UInt8 := 11
def sshFxpReaddir : UInt8 := 12
def sshFxpRemove : UInt8 := 13
def sshFxpMkdir : UInt8 := 14
def sshFxpRmdir : UInt8 := 15
def sshFxpRealpath : UInt8 := 16
def sshFxpStat : UInt8 := 17
def sshFxpStatus : UInt8 := 101
def sshFxpHandle : UInt8 := 102
def sshFxpData : UInt8 := 103
def sshFxpName : UInt8 := 104
def sshFxpAttrs : UInt8 := 105

/-- The codes of a STATUS. -/
def sshFxOk : UInt32 := 0
def sshFxEof : UInt32 := 1
def sshFxNoSuchFile : UInt32 := 2
def sshFxPermissionDenied : UInt32 := 3
def sshFxFailure : UInt32 := 4
def sshFxOpUnsupported : UInt32 := 8

/-- The flags of an OPEN. -/
def sshFxfRead : UInt32 := 0x00000001
def sshFxfWrite : UInt32 := 0x00000002
def sshFxfCreat : UInt32 := 0x00000008
def sshFxfTrunc : UInt32 := 0x00000010

/-- The flags that say which attributes are there. -/
def sshFilexferAttrSize : UInt32 := 0x00000001
def sshFilexferAttrUidgid : UInt32 := 0x00000002
def sshFilexferAttrPermissions : UInt32 := 0x00000004
def sshFilexferAttrAcmodtime : UInt32 := 0x00000008

/-- The protocol version. -/
def sftpVersion : UInt32 := 3

/-- The attributes of a file. The flags say which of them are on the wire. -/
structure FileAttrs where
  flags : UInt32
  size : Option UInt64
  uid : Option UInt32
  gid : Option UInt32
  permissions : Option UInt32
  atime : Option UInt32
  mtime : Option UInt32
  deriving DecidableEq

/-- No attributes. -/
def FileAttrs.default : FileAttrs :=
  ⟨0, none, none, none, none, none, none⟩

/-- Two words that are only written together. -/
def encodePair : Option UInt32 → Option UInt32 → Bytes
  | some first, some second => writeU32 first ++ writeU32 second
  | _, _ => []

/-- The attributes that are there, in their order. The flags are written as they are. -/
def FileAttrs.encode (attrs : FileAttrs) : Bytes :=
  writeU32 attrs.flags ++
    (match attrs.size with
      | some size => be64 size
      | none => []) ++
    encodePair attrs.uid attrs.gid ++
    (match attrs.permissions with
      | some permissions => writeU32 permissions
      | none => []) ++
    encodePair attrs.atime attrs.mtime

/-- Read a value only when a flag asks for it. -/
def readWhen {α : Type} (present : Bool) (reader : Cursor α) : Cursor (Option α) :=
  if present then do
    let value ← reader
    return some value
  else return none

/-- The attributes that the flags name. -/
def FileAttrs.decode : Cursor FileAttrs := do
  let flags ← readU32
  let size ← readWhen (flags &&& sshFilexferAttrSize != 0)
    (cursorReadU64 (.sftp "Failed to read file size"))
  let uid ← readWhen (flags &&& sshFilexferAttrUidgid != 0) readU32
  let gid ← readWhen (flags &&& sshFilexferAttrUidgid != 0) readU32
  let permissions ← readWhen (flags &&& sshFilexferAttrPermissions != 0) readU32
  let atime ← readWhen (flags &&& sshFilexferAttrAcmodtime != 0) readU32
  let mtime ← readWhen (flags &&& sshFilexferAttrAcmodtime != 0) readU32
  return ⟨flags, size, uid, gid, permissions, atime, mtime⟩

/-- A request or response. -/
structure SftpPacket where
  packetType : UInt8
  requestId : UInt32
  data : Bytes
  deriving DecidableEq

/-- The packet with its length prefix. -/
def SftpPacket.encode (packet : SftpPacket) : Bytes :=
  writeU32 (UInt32.ofNat (1 + 4 + packet.data.length)) ++ writeU8 packet.packetType ++
    writeU32 packet.requestId ++ packet.data

/-- Read a packet from the bytes after the length prefix. -/
def SftpPacket.decode : Bytes → Outcome SshError SftpPacket
  | packetType :: a :: b :: c :: d :: payload => .ok ⟨packetType, ofBe32 a b c d, payload⟩
  | _ => .err (.sftp "SFTP packet too short")

/-- The greeting of a client. -/
def buildSftpInit : Bytes :=
  writeU32 (1 + 4) ++ writeU8 sshFxpInit ++ writeU32 sftpVersion

/-- The greeting of a server. -/
def buildSftpVersion : Bytes :=
  writeU32 (1 + 4) ++ writeU8 sshFxpVersion ++ writeU32 sftpVersion

/-- A STATUS in English. -/
def buildSftpStatus (requestId statusCode : UInt32) (message : String) : SftpPacket :=
  ⟨sshFxpStatus, requestId, writeU32 statusCode ++ writeUtf8 message ++ writeUtf8 "en"⟩

/-- A response with a handle. -/
def buildSftpHandle (requestId : UInt32) (handle : Bytes) : SftpPacket :=
  ⟨sshFxpHandle, requestId, writeString handle⟩

/-- A response with data of a file. -/
def buildSftpData (requestId : UInt32) (fileData : Bytes) : SftpPacket :=
  ⟨sshFxpData, requestId, writeString fileData⟩

/-- A list of names, each with its long form and its attributes. -/
def buildSftpName (requestId : UInt32) (entries : List (String × FileAttrs)) : SftpPacket :=
  ⟨sshFxpName, requestId, writeU32 (UInt32.ofNat entries.length) ++
    entries.flatMap fun entry => writeUtf8 entry.1 ++ writeUtf8 entry.1 ++ entry.2.encode⟩

/-- A response with attributes. -/
def buildSftpAttrs (requestId : UInt32) (attrs : FileAttrs) : SftpPacket :=
  ⟨sshFxpAttrs, requestId, attrs.encode⟩

theorem parse_buildSftpStatus (requestId statusCode : UInt32) (message : String) :
    parse readU32 (buildSftpStatus requestId statusCode message).data = .ok statusCode := by
  simp only [buildSftpStatus, List.append_assoc]
  exact parse_eq_ok (readU32_writeU32 statusCode _)

theorem encode_eq (packet : SftpPacket) :
    packet.encode = be32 (UInt32.ofNat (5 + packet.data.length)) ++
      (packet.packetType :: (be32 packet.requestId ++ packet.data)) := by
  rw [SftpPacket.encode, writeU32, writeU32, writeU8, List.append_assoc, List.append_assoc]
  rfl

theorem encode_length (packet : SftpPacket) :
    packet.encode.length = 9 + packet.data.length := by
  rw [encode_eq, List.length_append, List.length_cons, List.length_append, be32_length,
    be32_length]
  omega

theorem decode_cons (packetType : UInt8) (requestId : UInt32) (data : Bytes) :
    SftpPacket.decode (packetType :: (be32 requestId ++ data)) =
      .ok ⟨packetType, requestId, data⟩ := by
  rw [be32, List.cons_append, List.cons_append, List.cons_append, List.cons_append,
    List.nil_append, SftpPacket.decode, ofBe32_be32]

end SwiftSsh.SftpProtocol
