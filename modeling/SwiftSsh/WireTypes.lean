import SwiftSsh.ByteWords
import SwiftSsh.RustOutcome

namespace SwiftSsh.WireTypes

open SwiftSsh.ByteWords

/-- Message type identifiers of the transport, authentication and connection
protocols. -/
inductive MessageType where
  | disconnect
  | ignore
  | unimplemented
  | debug
  | serviceRequest
  | serviceAccept
  | kexInit
  | newKeys
  | kexEcdhInit
  | kexEcdhReply
  | userAuthRequest
  | userAuthFailure
  | userAuthSuccess
  | userAuthBanner
  | globalRequest
  | requestSuccess
  | requestFailure
  | channelOpen
  | channelOpenConfirmation
  | channelOpenFailure
  | channelWindowAdjust
  | channelData
  | channelExtendedData
  | channelEof
  | channelClose
  | channelRequest
  | channelSuccess
  | channelFailure
  deriving DecidableEq, Repr

/-- The number of a message type. -/
def MessageType.toU8 : MessageType → UInt8
  | .disconnect => 1
  | .ignore => 2
  | .unimplemented => 3
  | .debug => 4
  | .serviceRequest => 5
  | .serviceAccept => 6
  | .kexInit => 20
  | .newKeys => 21
  | .kexEcdhInit => 30
  | .kexEcdhReply => 31
  | .userAuthRequest => 50
  | .userAuthFailure => 51
  | .userAuthSuccess => 52
  | .userAuthBanner => 53
  | .globalRequest => 80
  | .requestSuccess => 81
  | .requestFailure => 82
  | .channelOpen => 90
  | .channelOpenConfirmation => 91
  | .channelOpenFailure => 92
  | .channelWindowAdjust => 93
  | .channelData => 94
  | .channelExtendedData => 95
  | .channelEof => 96
  | .channelClose => 97
  | .channelRequest => 98
  | .channelSuccess => 99
  | .channelFailure => 100

/-- The message type of a number, if there is one. -/
def MessageType.fromU8 (val : UInt8) : Option MessageType :=
  match val.toNat with
  | 1 => some .disconnect
  | 2 => some .ignore
  | 3 => some .unimplemented
  | 4 => some .debug
  | 5 => some .serviceRequest
  | 6 => some .serviceAccept
  | 20 => some .kexInit
  | 21 => some .newKeys
  | 30 => some .kexEcdhInit
  | 31 => some .kexEcdhReply
  | 50 => some .userAuthRequest
  | 51 => some .userAuthFailure
  | 52 => some .userAuthSuccess
  | 53 => some .userAuthBanner
  | 80 => some .globalRequest
  | 81 => some .requestSuccess
  | 82 => some .requestFailure
  | 90 => some .channelOpen
  | 91 => some .channelOpenConfirmation
  | 92 => some .channelOpenFailure
  | 93 => some .channelWindowAdjust
  | 94 => some .channelData
  | 95 => some .channelExtendedData
  | 96 => some .channelEof
  | 97 => some .channelClose
  | 98 => some .channelRequest
  | 99 => some .channelSuccess
  | 100 => some .channelFailure
  | _ => none

@[simp] theorem fromU8_toU8 (msgType : MessageType) :
    MessageType.fromU8 msgType.toU8 = some msgType := by
  cases msgType <;> rfl

theorem toU8_injective : Function.Injective MessageType.toU8 := by
  intro first second heq
  have hsome := congrArg MessageType.fromU8 heq
  simpa using hsome

/-- The version that both sides announce. -/
def sshVersionString : String := "SSH-2.0-SwiftSSH_0.1"

/-- Maximum packet size. -/
def maxPacketSize : Nat := 35000

/-- Every packet has at least this much padding. -/
def minPadding : Nat := 4

/-- Block size of AES-256-CTR. -/
def aesBlockSize : Nat := 16

/-- Output size of HMAC-SHA256. -/
def hmacSha256Size : Nat := 32

/-- Default window size for channels, 2 MiB. -/
def defaultWindowSize : UInt32 := 2097152

/-- Default maximum packet size for channels. -/
def defaultMaxPacketSize : UInt32 := 32768

/-- A raw packet before or after encryption. The payload excludes the message
type byte. -/
structure SshPacket where
  msgType : UInt8
  payload : Bytes
  deriving DecidableEq, Repr

/-- A packet with a known message type. -/
def newPacket (msgType : MessageType) (payload : Bytes) : SshPacket :=
  ⟨msgType.toU8, payload⟩

/-- The error values that the modelled functions produce. -/
inductive SshError where
  | io
  | protocol (message : String)
  | keyExchange (message : String)
  | authFailed (message : String)
  | channel (message : String)
  | sftp (message : String)
  | encryption (message : String)
  | macMismatch
  | invalidPacket (message : String)
  | connectionClosed
  deriving DecidableEq, Repr

end SwiftSsh.WireTypes
