import SwiftSsh.SftpFraming
import SwiftSsh.RecvSafety
import SwiftSsh.RecordIntegrity
import SwiftSsh.InteractiveClient
import SwiftSsh.SftpConfinement
import SwiftSsh.SftpUpload
import SwiftSsh.MessageCodecs
import SwiftSsh.AuthAttempts
import SwiftSsh.ReceiveWindow
import SwiftSsh.HandleIntegrity
import SwiftSsh.ChannelEffects
import SwiftSsh.CloseDiscipline
import SwiftSsh.FlowControl
import SwiftSsh.RealpathCoherence
import SwiftSsh.PacketGrammar
import SwiftSsh.ReplyAccounting
import SwiftSsh.SftpDownload
import SwiftSsh.FailedRequests
import SwiftSsh.AccessModes
import SwiftSsh.NormalForms
import SwiftSsh.RemovedEntries
import SwiftSsh.ResolutionAgreement
import SwiftSsh.KeyDerivation
import SwiftSsh.ExchangeTranscript
import SwiftSsh.AttributeCodec
import SwiftSsh.VersionGrammar
import SwiftSsh.CommandSession
import SwiftSsh.TransportGrammar
import SwiftSsh.ServerOrder
import SwiftSsh.ClientConnection
import SwiftSsh.DirectoryListing
import SwiftSsh.KeptEntries
import SwiftSsh.TypedLines
import SwiftSsh.ChannelRegistry
import SwiftSsh.FileTransfer
import SwiftSsh.AdmissionLaw
import SwiftSsh.MessageGrammar
import SwiftSsh.HandshakeBinding
import SwiftSsh.AdmittedStreams
