import SwiftSsh.WireBuffer

namespace SwiftSsh.ChannelMessages

open SwiftSsh.ByteWords
open SwiftSsh.RustOutcome
open SwiftSsh.WireTypes
open SwiftSsh.WireBuffer

/-- Ask for a channel under a number of the sender. -/
def buildChannelOpen (channelType : String) (senderChannel initialWindow maxPacket : UInt32) :
    SshPacket :=
  newPacket .channelOpen
    (writeUtf8 channelType ++ writeU32 senderChannel ++ writeU32 initialWindow ++
      writeU32 maxPacket)

/-- Both numbers of the channel, first that of the side that has asked for it. -/
def buildChannelOpenConfirmation
    (recipientChannel senderChannel initialWindow maxPacket : UInt32) : SshPacket :=
  newPacket .channelOpenConfirmation
    (writeU32 recipientChannel ++ writeU32 senderChannel ++ writeU32 initialWindow ++
      writeU32 maxPacket)

/-- A refusal, with a description in English. -/
def buildChannelOpenFailure (recipientChannel reasonCode : UInt32) (description : String) :
    SshPacket :=
  newPacket .channelOpenFailure
    (writeU32 recipientChannel ++ writeU32 reasonCode ++ writeUtf8 description ++
      writeUtf8 "en")

/-- Data on a channel. -/
def buildChannelData (recipientChannel : UInt32) (data : Bytes) : SshPacket :=
  newPacket .channelData (writeU32 recipientChannel ++ writeString data)

/-- More credit for a channel. -/
def buildWindowAdjust (recipientChannel bytesToAdd : UInt32) : SshPacket :=
  newPacket .channelWindowAdjust (writeU32 recipientChannel ++ writeU32 bytesToAdd)

/-- No more data on a channel. -/
def buildChannelEof (recipientChannel : UInt32) : SshPacket :=
  newPacket .channelEof (writeU32 recipientChannel)

/-- The end of a channel. -/
def buildChannelClose (recipientChannel : UInt32) : SshPacket :=
  newPacket .channelClose (writeU32 recipientChannel)

/-- Run a command. -/
def buildExecRequest (recipientChannel : UInt32) (command : String) (wantReply : Bool) :
    SshPacket :=
  newPacket .channelRequest
    (writeU32 recipientChannel ++ writeUtf8 "exec" ++ writeBool wantReply ++
      writeUtf8 command)

/-- Start a shell. -/
def buildShellRequest (recipientChannel : UInt32) (wantReply : Bool) : SshPacket :=
  newPacket .channelRequest
    (writeU32 recipientChannel ++ writeUtf8 "shell" ++ writeBool wantReply)

/-- Ask for a terminal. The list of terminal modes ends at once. -/
def buildPtyRequest (recipientChannel : UInt32) (term : String)
    (widthCols heightRows widthPx heightPx : UInt32) (wantReply : Bool) : SshPacket :=
  newPacket .channelRequest
    (writeU32 recipientChannel ++ writeUtf8 "pty-req" ++ writeBool wantReply ++
      writeUtf8 term ++ writeU32 widthCols ++ writeU32 heightRows ++ writeU32 widthPx ++
      writeU32 heightPx ++ writeString [0])

/-- The fields of a CHANNEL_OPEN. -/
structure ChannelOpenMsg where
  channelType : String
  senderChannel : UInt32
  initialWindow : UInt32
  maxPacket : UInt32
  deriving DecidableEq

/-- The fields in the order of the payload. -/
def readChannelOpen : Cursor ChannelOpenMsg := do
  let channelType ← readUtf8
  let senderChannel ← readU32
  let initialWindow ← readU32
  let maxPacket ← readU32
  return ⟨channelType, senderChannel, initialWindow, maxPacket⟩

/-- `ChannelOpenMsg::parse`. What follows the fields is ignored. -/
def ChannelOpenMsg.parse (payload : Bytes) : Outcome SshError ChannelOpenMsg :=
  WireBuffer.parse readChannelOpen payload

/-- The fields of a CHANNEL_DATA. -/
structure ChannelDataMsg where
  recipientChannel : UInt32
  data : Bytes
  deriving DecidableEq

/-- The number of the channel and the data. -/
def readChannelData : Cursor ChannelDataMsg := do
  let recipientChannel ← readU32
  let data ← readString
  return ⟨recipientChannel, data⟩

/-- `ChannelDataMsg::parse`. -/
def ChannelDataMsg.parse (payload : Bytes) : Outcome SshError ChannelDataMsg :=
  WireBuffer.parse readChannelData payload

/-- The fields that all CHANNEL_REQUESTs have, and the rest. -/
structure ChannelRequestMsg where
  recipientChannel : UInt32
  requestType : String
  wantReply : Bool
  data : Bytes
  deriving DecidableEq

/-- The type-specific data is everything after the common fields. -/
def readChannelRequest : Cursor ChannelRequestMsg := do
  let recipientChannel ← readU32
  let requestType ← readUtf8
  let wantReply ← readBool
  let data ← get
  return ⟨recipientChannel, requestType, wantReply, data⟩

/-- `ChannelRequestMsg::parse`. -/
def ChannelRequestMsg.parse (payload : Bytes) : Outcome SshError ChannelRequestMsg :=
  WireBuffer.parse readChannelRequest payload

theorem rejectsInvalid_readChannelOpen : RejectsInvalid readChannelOpen :=
  rejectsInvalid_readUtf8.bind fun _ => rejectsInvalid_readU32.bind fun _ =>
    rejectsInvalid_readU32.bind fun _ => rejectsInvalid_readU32.bind fun _ => .pure _

theorem rejectsInvalid_readChannelData : RejectsInvalid readChannelData :=
  rejectsInvalid_readU32.bind fun _ => rejectsInvalid_readString.bind fun _ => .pure _

theorem rejectsInvalid_readChannelRequest : RejectsInvalid readChannelRequest := by
  refine rejectsInvalid_readU32.bind fun recipientChannel =>
    rejectsInvalid_readUtf8.bind fun requestType =>
      rejectsInvalid_readBool.bind fun wantReply => ?_
  intro input error herr
  cases herr

theorem parse_buildChannelOpen {channelType : String} (sender window maxPacket : UInt32)
    (hlength : (utf8 channelType).length ≤ maxPacketSize) :
    ChannelOpenMsg.parse (buildChannelOpen channelType sender window maxPacket).payload =
      .ok ⟨channelType, sender, window, maxPacket⟩ := by
  have hread : readChannelOpen (writeUtf8 channelType ++ (writeU32 sender ++ (writeU32 window ++
      (writeU32 maxPacket ++ [])))) = .ok (⟨channelType, sender, window, maxPacket⟩, []) := by
    rw [readChannelOpen, cursor_bind_ok _ (readUtf8_writeUtf8 _ hlength),
      cursor_bind_ok _ (readU32_writeU32 _ _), cursor_bind_ok _ (readU32_writeU32 _ _),
      cursor_bind_ok _ (readU32_writeU32 _ _), cursor_pure]
  rw [List.append_nil, ← List.append_assoc, ← List.append_assoc] at hread
  exact parse_eq_ok hread

theorem parse_buildChannelData {recipient : UInt32} {chunk : Bytes}
    (hlength : chunk.length ≤ maxPacketSize) :
    ChannelDataMsg.parse (buildChannelData recipient chunk).payload =
      .ok ⟨recipient, chunk⟩ := by
  have hread : readChannelData (writeU32 recipient ++ (writeString chunk ++ [])) =
      .ok (⟨recipient, chunk⟩, []) := by
    rw [readChannelData, cursor_bind_ok _ (readU32_writeU32 _ _),
      cursor_bind_ok _ (readString_writeString _ hlength), cursor_pure]
  rw [List.append_nil] at hread
  exact parse_eq_ok hread

theorem parse_channelRequest {requestType : String} (recipient : UInt32) (wantReply : Bool)
    (data : Bytes) (hlength : (utf8 requestType).length ≤ maxPacketSize) :
    ChannelRequestMsg.parse
        (writeU32 recipient ++ (writeUtf8 requestType ++ (writeBool wantReply ++ data))) =
      .ok ⟨recipient, requestType, wantReply, data⟩ := by
  have hread : readChannelRequest
      (writeU32 recipient ++ (writeUtf8 requestType ++ (writeBool wantReply ++ data))) =
        .ok (⟨recipient, requestType, wantReply, data⟩, data) := by
    rw [readChannelRequest, cursor_bind_ok _ (readU32_writeU32 _ _),
      cursor_bind_ok _ (readUtf8_writeUtf8 _ hlength),
      cursor_bind_ok _ (readBool_writeBool _ _)]
    rfl
  exact parse_eq_ok hread

theorem parse_buildShellRequest (recipient : UInt32) (wantReply : Bool) :
    ChannelRequestMsg.parse (buildShellRequest recipient wantReply).payload =
      .ok ⟨recipient, "shell", wantReply, []⟩ := by
  have hparse := parse_channelRequest recipient wantReply []
    (show (utf8 "shell").length ≤ maxPacketSize by decide +kernel)
  rw [List.append_nil, ← List.append_assoc] at hparse
  exact hparse

theorem parse_buildExecRequest (recipient : UInt32) (command : String) (wantReply : Bool) :
    ChannelRequestMsg.parse (buildExecRequest recipient command wantReply).payload =
      .ok ⟨recipient, "exec", wantReply, writeUtf8 command⟩ := by
  have hparse := parse_channelRequest recipient wantReply (writeUtf8 command)
    (show (utf8 "exec").length ≤ maxPacketSize by decide +kernel)
  rw [← List.append_assoc, ← List.append_assoc] at hparse
  exact hparse

end SwiftSsh.ChannelMessages
