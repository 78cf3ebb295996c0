import SwiftSsh.ConnectionRuns
import SwiftSsh.CreditLedger
import SwiftSsh.InteractiveClient
import SwiftSsh.ReplySizes

/-!
Flow control on the sending side. Neither the server nor the interactive client
looks at the window of its peer before it sends data.
-/

namespace SwiftSsh.FlowControl

open SwiftSsh.ByteWords
open SwiftSsh.RustOutcome
open SwiftSsh.EventProgram
open SwiftSsh.RunHistory
open SwiftSsh.CreditLedger
open SwiftSsh.WireTypes
open SwiftSsh.WireBuffer
open SwiftSsh.FileSystem
open SwiftSsh.SftpPaths
open SwiftSsh.SftpProtocol
open SwiftSsh.ChannelMessages
open SwiftSsh.ChannelTable
open SwiftSsh.ServerLoop
open SwiftSsh.AuthenticationGate
open SwiftSsh.SftpFraming
open SwiftSsh.ChannelActions
open SwiftSsh.ConnectionRuns
open SwiftSsh.ReplySizes

section Server

/-- The channel that a CHANNEL_DATA is sent on, by the number of the client, and how
many bytes of data it carries. -/
def dataOf : ServerEvent → Option (UInt32 × Nat)
  | .sent packet =>
      if packet.msgType = MessageType.channelData.toU8 then
        (ChannelDataMsg.parse packet.payload).toOption.map fun msg =>
          (msg.recipientChannel, msg.data.length)
      else none
  | _ => none

variable (env : ServerEnv)

/-- The entry of data that is sent: it uses the credit of the channel that it is written
to, which is the one with this number of the client. -/
def carriedBy (state : ServerState) (data : UInt32 × Nat) : Option (Entry UInt32) :=
  (findEntry env.order state.channels data.1).map fun entry => .carried entry.1 data.2

/-- What a message announces or adds, by the local number of the channel. An adjustment
is for the channel whose number it carries, which the server has announced. -/
def creditsOf (state : ServerState) : Action → List (Entry UInt32)
  | .openChannel msg =>
      [.opened state.channels.nextId msg.initialWindow.toNat msg.maxPacket.toNat]
  | .widen recipient bytesToAdd =>
      match state.channels.get recipient with
      | some _ => [.widened recipient bytesToAdd.toNat]
      | none => []
  | _ => []

/-- What a round announces or adds, and what the data that it sends uses. -/
def entriesOf (state : ServerState) (item : Received) : List (Entry UInt32) :=
  ((actionOf state item).map (creditsOf state)).getD [] ++
    ((run (receive env item) state).events.filterMap dataOf).filterMap (carriedBy env state)

variable (world : World Name)

variable {env world} {state : ServerState}

variable {item : Received}

variable {ledger : List (Entry UInt32)}

end Server

section Client

open SwiftSsh.PacketCodec
open SwiftSsh.SessionCrypto
open SwiftSsh.PacketTransport
open SwiftSsh.InteractiveClient

/-- The amount that a packet adds to the window of a channel. -/
def adjustment (localId : UInt32) (packet : SshPacket) : Option Nat :=
  if MessageType.fromU8 packet.msgType = some .channelWindowAdjust then
    match parse readWindowAdjust packet.payload with
    | .ok (recipient, bytesToAdd) => if recipient = localId then some bytesToAdd.toNat else none
    | _ => none
  else none

variable (P : Primitives) (remoteId localId : UInt32) (closePadding : Nat → UInt8)

/-- What an event adds to the window of the client's channel or uses of it. -/
def clientEntries (loop : Loop) (event : Event) : List (Entry Unit) :=
  match InteractiveClient.step P remoteId closePadding loop event with
  | none => []
  | some later =>
      match event with
      | .line text rng =>
          match (ByteProgram.Program.run (sendPacket P rng (buildChannelData remoteId text))
              loop.keys []).outcome with
          | .ok _ => [.carried () text.length]
          | _ => []
      | _ => ((later.handled.drop loop.handled.length).filterMap (adjustment localId)).map
          (.widened ())

/-- The interactive loop. An event that cannot happen changes nothing. -/
def interactive : Machine Loop Event (Entry Unit) :=
  ⟨fun loop event => (InteractiveClient.step P remoteId closePadding loop event).getD loop,
    clientEntries P remoteId localId closePadding⟩

variable (keys : SessionKeys) (incoming : Bytes) (window maxPacket : UInt32)

variable {P remoteId localId closePadding}

variable {keys incoming window maxPacket}

end Client

section Both

open SwiftSsh.ChannelReplies
open SwiftSsh.ChannelRouting
open SwiftSsh.SessionCrypto
open SwiftSsh.InteractiveClient

end Both

end SwiftSsh.FlowControl
