import SwiftSsh.ChannelMessages
import SwiftSsh.PacketCodec
import SwiftSsh.UserAuth

namespace SwiftSsh.MessageCodecs

open SwiftSsh.ByteWords
open SwiftSsh.RustOutcome
open SwiftSsh.WireTypes
open SwiftSsh.WireBuffer
open SwiftSsh.PacketCodec
open SwiftSsh.UserAuth
open SwiftSsh.ChannelMessages

/-- Every frame of a packet is read as that packet, and its payload as the given
value. -/
def ReadsBack {α : Type} (packet : SshPacket) (parser : Bytes → Outcome SshError α)
    (value : α) : Prop :=
  ∀ rng bytes, serialize packet aesBlockSize rng = .ok bytes →
    deserialize bytes = .ok packet ∧ parser packet.payload = .ok value

/-- The fields of an exec request, with the command of its data. -/
def parseExecRequest (payload : Bytes) :
    Outcome SshError (UInt32 × String × Bool × String) := do
  let msg ← ChannelRequestMsg.parse payload
  let command ← parse readUtf8 msg.data
  return (msg.recipientChannel, msg.requestType, msg.wantReply, command)

/-- The data of a pty request. -/
structure PtyData where
  term : String
  widthCols : UInt32
  heightRows : UInt32
  widthPx : UInt32
  heightPx : UInt32
  modes : Bytes
  deriving DecidableEq

/-- The fields of a pty-req after the common ones. -/
def readPtyData : Cursor PtyData := do
  let term ← readUtf8
  let widthCols ← readU32
  let heightRows ← readU32
  let widthPx ← readU32
  let heightPx ← readU32
  let modes ← readString
  return ⟨term, widthCols, heightRows, widthPx, heightPx, modes⟩

/-- A pty-req, read as far as its builder writes it. -/
def parsePtyRequest (payload : Bytes) :
    Outcome SshError (UInt32 × String × Bool × PtyData) := do
  let msg ← ChannelRequestMsg.parse payload
  let data ← parse readPtyData msg.data
  return (msg.recipientChannel, msg.requestType, msg.wantReply, data)

/-- A packet that can be sent leaves room for every string in its payload. -/
theorem payload_le_of_serialize {packet : SshPacket} {rng : Nat → UInt8} {bytes : Bytes}
    (haccept : serialize packet aesBlockSize rng = .ok bytes) :
    packet.payload.length ≤ maxPacketSize := by
  have hfits := (serialize_eq_ok_iff.mp haccept).1
  rw [packetLength] at hfits
  omega

theorem deserialize_serialize {packet : SshPacket} {rng : Nat → UInt8} {bytes : Bytes}
    (haccept : serialize packet aesBlockSize rng = .ok bytes) :
    deserialize bytes = .ok packet := by
  obtain ⟨hfits, rfl⟩ := serialize_eq_ok_iff.mp haccept
  have hpadding := paddingLen_lt packet aesBlockSize
  have hblock : minPadding + max aesBlockSize 8 = 20 := rfl
  rw [packetLength] at hfits
  have hframe := @deserialize_frame packet (randomBytes rng (paddingLen packet aesBlockSize)) []
    (by rw [randomBytes_length]; omega) (by rw [randomBytes_length]; omega)
  rw [List.append_nil] at hframe
  exact hframe

theorem readsBack_of_parse {α : Type} {packet : SshPacket}
    {parser : Bytes → Outcome SshError α} {value : α}
    (hparse : packet.payload.length ≤ maxPacketSize → parser packet.payload = .ok value) :
    ReadsBack packet parser value := by
  intro rng bytes haccept
  exact ⟨deserialize_serialize haccept, hparse (payload_le_of_serialize haccept)⟩

theorem readsBack_passwordAuthRequest (username service password : String) :
    ReadsBack (buildPasswordAuthRequest username service password) AuthRequest.parse
      ⟨username, service, "password", .password password⟩ := by
  apply readsBack_of_parse
  intro hlength
  simp only [buildPasswordAuthRequest, newPacket, List.length_append, writeUtf8_length,
    writeBool_length] at hlength
  have hcredential := @readCredential_password password false [] (by omega)
  have hread := @readAuthRequest_eq username service "password" _ _ _ (by omega) (by omega)
    (by omega) hcredential
  rw [List.append_nil, ← List.append_assoc] at hread
  exact parse_eq_ok hread

theorem readsBack_pubkeyAuthRequest (username service algorithm : String) (keyBlob : Bytes)
    (signature : Option Bytes) :
    ReadsBack (buildPubkeyAuthRequest username service algorithm keyBlob signature)
      AuthRequest.parse
      ⟨username, service, "publickey", .publicKey algorithm keyBlob signature⟩ := by
  apply readsBack_of_parse
  intro hlength
  simp only [buildPubkeyAuthRequest, newPacket, List.length_append, writeUtf8_length,
    writeBool_length, writeString_length] at hlength
  cases signature with
  | none =>
      have hcredential := @readCredential_publicKey algorithm keyBlob [] (by omega) (by omega)
      have hread := @readAuthRequest_eq username service "publickey" _ _ _ (by omega) (by omega)
        (by omega) hcredential
      rw [← List.append_assoc, ← List.append_assoc, ← List.append_assoc] at hread
      exact parse_eq_ok hread
  | some sig =>
      dsimp only at hlength
      rw [writeString_length] at hlength
      have hcredential := @readCredential_signed algorithm keyBlob sig [] (by omega) (by omega)
        (by omega)
      have hread := @readAuthRequest_eq username service "publickey" _ _ _ (by omega) (by omega)
        (by omega) hcredential
      rw [List.append_nil, ← List.append_assoc, ← List.append_assoc, ← List.append_assoc]
        at hread
      exact parse_eq_ok hread

theorem readsBack_channelOpen (channelType : String)
    (senderChannel initialWindow maxPacket : UInt32) :
    ReadsBack (buildChannelOpen channelType senderChannel initialWindow maxPacket)
      ChannelOpenMsg.parse ⟨channelType, senderChannel, initialWindow, maxPacket⟩ := by
  apply readsBack_of_parse
  intro hlength
  simp only [buildChannelOpen, newPacket, List.length_append, writeUtf8_length,
    writeU32_length] at hlength
  exact parse_buildChannelOpen _ _ _ (by omega)

theorem readsBack_channelData (recipientChannel : UInt32) (data : Bytes) :
    ReadsBack (buildChannelData recipientChannel data) ChannelDataMsg.parse
      ⟨recipientChannel, data⟩ := by
  apply readsBack_of_parse
  intro hlength
  simp only [buildChannelData, newPacket, List.length_append, writeString_length,
    writeU32_length] at hlength
  exact parse_buildChannelData (by omega)

theorem readsBack_execRequest (recipientChannel : UInt32) (command : String)
    (wantReply : Bool) :
    ReadsBack (buildExecRequest recipientChannel command wantReply) parseExecRequest
      (recipientChannel, "exec", wantReply, command) := by
  apply readsBack_of_parse
  intro hlength
  simp only [buildExecRequest, newPacket, List.length_append, writeUtf8_length,
    writeU32_length, writeBool_length] at hlength
  have hcommand := @readUtf8_writeUtf8 command [] (by omega)
  rw [List.append_nil] at hcommand
  rw [parseExecRequest, parse_buildExecRequest, Outcome.ok_bind, parse_eq_ok hcommand]
  rfl

theorem readsBack_shellRequest (recipientChannel : UInt32) (wantReply : Bool) :
    ReadsBack (buildShellRequest recipientChannel wantReply) ChannelRequestMsg.parse
      ⟨recipientChannel, "shell", wantReply, []⟩ := by
  apply readsBack_of_parse
  intro _
  exact parse_buildShellRequest _ _

theorem readPtyData_eq {term : String} (widthCols heightRows widthPx heightPx : UInt32)
    (hlength : (utf8 term).length ≤ maxPacketSize) :
    readPtyData (writeUtf8 term ++ (writeU32 widthCols ++ (writeU32 heightRows ++
        (writeU32 widthPx ++ (writeU32 heightPx ++ (writeString [0] ++ [])))))) =
      .ok (⟨term, widthCols, heightRows, widthPx, heightPx, [0]⟩, []) := by
  rw [readPtyData, cursor_bind_ok _ (readUtf8_writeUtf8 _ hlength),
    cursor_bind_ok _ (readU32_writeU32 _ _), cursor_bind_ok _ (readU32_writeU32 _ _),
    cursor_bind_ok _ (readU32_writeU32 _ _), cursor_bind_ok _ (readU32_writeU32 _ _),
    cursor_bind_ok _ (readString_writeString _ (by decide)), cursor_pure]

theorem readsBack_ptyRequest (recipientChannel : UInt32) (term : String)
    (widthCols heightRows widthPx heightPx : UInt32) (wantReply : Bool) :
    ReadsBack
      (buildPtyRequest recipientChannel term widthCols heightRows widthPx heightPx wantReply)
      parsePtyRequest
      (recipientChannel, "pty-req", wantReply,
        ⟨term, widthCols, heightRows, widthPx, heightPx, [0]⟩) := by
  apply readsBack_of_parse
  intro hlength
  simp only [buildPtyRequest, newPacket, List.length_append, writeUtf8_length,
    writeU32_length, writeBool_length, writeString_length] at hlength
  have hpayload : (buildPtyRequest recipientChannel term widthCols heightRows widthPx heightPx
      wantReply).payload = writeU32 recipientChannel ++ (writeUtf8 "pty-req" ++
        (writeBool wantReply ++ (writeUtf8 term ++ (writeU32 widthCols ++ (writeU32 heightRows ++
          (writeU32 widthPx ++ (writeU32 heightPx ++ (writeString [0] ++ []))))))))  := by
    simp only [buildPtyRequest, newPacket, List.append_assoc, List.append_nil]
  rw [hpayload, parsePtyRequest, parse_channelRequest _ _ _ (by decide +kernel),
    Outcome.ok_bind, parse_eq_ok (readPtyData_eq _ _ _ _ (by omega))]
  rfl

/-- Builders and parsers agree on everything that can be framed. -/
theorem codecs_agree_through_frame :
    (∀ username service password,
      ReadsBack (buildPasswordAuthRequest username service password) AuthRequest.parse
        ⟨username, service, "password", .password password⟩) ∧
    (∀ username service algorithm keyBlob signature,
      ReadsBack (buildPubkeyAuthRequest username service algorithm keyBlob signature)
        AuthRequest.parse
        ⟨username, service, "publickey", .publicKey algorithm keyBlob signature⟩) ∧
    (∀ channelType senderChannel initialWindow maxPacket,
      ReadsBack (buildChannelOpen channelType senderChannel initialWindow maxPacket)
        ChannelOpenMsg.parse ⟨channelType, senderChannel, initialWindow, maxPacket⟩) ∧
    (∀ recipientChannel data,
      ReadsBack (buildChannelData recipientChannel data) ChannelDataMsg.parse
        ⟨recipientChannel, data⟩) ∧
    (∀ recipientChannel command wantReply,
      ReadsBack (buildExecRequest recipientChannel command wantReply) parseExecRequest
        (recipientChannel, "exec", wantReply, command)) ∧
    (∀ recipientChannel wantReply,
      ReadsBack (buildShellRequest recipientChannel wantReply) ChannelRequestMsg.parse
        ⟨recipientChannel, "shell", wantReply, []⟩) ∧
    (∀ recipientChannel term widthCols heightRows widthPx heightPx wantReply,
      ReadsBack
        (buildPtyRequest recipientChannel term widthCols heightRows widthPx heightPx wantReply)
        parsePtyRequest
        (recipientChannel, "pty-req", wantReply,
          ⟨term, widthCols, heightRows, widthPx, heightPx, [0]⟩)) := by
  refine ⟨?_, ?_, ?_, ?_, ?_, ?_, ?_⟩
  · exact readsBack_passwordAuthRequest
  · exact readsBack_pubkeyAuthRequest
  · exact readsBack_channelOpen
  · exact readsBack_channelData
  · exact readsBack_execRequest
  · exact readsBack_shellRequest
  · exact readsBack_ptyRequest

end SwiftSsh.MessageCodecs
