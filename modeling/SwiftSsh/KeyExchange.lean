import SwiftSsh.PacketTransport

namespace SwiftSsh.KeyExchange

open SwiftSsh.ByteWords
open SwiftSsh.RustOutcome
open SwiftSsh.WireTypes
open SwiftSsh.WireBuffer
open SwiftSsh.PacketCodec
open SwiftSsh.SessionCrypto

/-- The algorithms that both sides offer. None of the lists is ever compared. -/
def kexAlgorithms : List String := ["curve25519-sha256"]

def hostKeyAlgorithms : List String := ["ssh-ed25519", "rsa-sha2-256"]

def encryptionAlgorithms : List String := ["aes256-ctr", "aes128-ctr"]

def macAlgorithms : List String := ["hmac-sha2-256"]

def compressionAlgorithms : List String := ["none"]

/-- The payload of a KEXINIT message with a random cookie. -/
def buildKexinitPayload (cookie : Nat → UInt8) : Bytes :=
  randomBytes cookie 16 ++
    writeNameList kexAlgorithms ++
    writeNameList hostKeyAlgorithms ++
    writeNameList encryptionAlgorithms ++
    writeNameList encryptionAlgorithms ++
    writeNameList macAlgorithms ++
    writeNameList macAlgorithms ++
    writeNameList compressionAlgorithms ++
    writeNameList compressionAlgorithms ++
    writeNameList [] ++
    writeNameList [] ++
    writeBool false ++
    writeU32 0

/-- The bytes that are hashed to the exchange hash. -/
def exchangeTranscript (clientVersion serverVersion : String)
    (clientKexinit serverKexinit serverHostKeyBlob clientEphemeralPub
      serverEphemeralPub sharedSecret : Bytes) : Bytes :=
  writeUtf8 clientVersion ++
    writeUtf8 serverVersion ++
    writeString clientKexinit ++
    writeString serverKexinit ++
    writeString serverHostKeyBlob ++
    writeString clientEphemeralPub ++
    writeString serverEphemeralPub ++
    writeMpint sharedSecret

/-- The hash over everything both sides have seen. -/
def computeExchangeHash (P : Primitives) (clientVersion serverVersion : String)
    (clientKexinit serverKexinit serverHostKeyBlob clientEphemeralPub
      serverEphemeralPub sharedSecret : Bytes) : Bytes :=
  P.sha256 (exchangeTranscript clientVersion serverVersion clientKexinit serverKexinit
    serverHostKeyBlob clientEphemeralPub serverEphemeralPub sharedSecret)

/-- What a completed key exchange yields. -/
structure KexResult where
  sharedSecret : Bytes
  exchangeHash : Bytes
  deriving DecidableEq, Repr

/-- One side's key exchange state. The secret is taken by completion. -/
structure KexState where
  secret : Option Bytes
  ephemeralPub : Bytes

/-- A key exchange for a random secret. -/
def newKex (P : Primitives) (secret : Bytes) : KexState :=
  ⟨some secret, P.x25519Public secret⟩

/-- The client's half of the exchange. It can be done once. -/
def completeClient (P : Primitives) (kex : KexState) (serverEphemeralPub : Bytes)
    (clientVersion serverVersion : String)
    (clientKexinit serverKexinit serverHostKeyBlob : Bytes) :
    Outcome SshError (KexResult × KexState) :=
  match kex.secret with
  | none => .err (.keyExchange "Key exchange already completed")
  | some secret =>
      let sharedBytes := P.x25519 secret serverEphemeralPub
      let exchangeHash := computeExchangeHash P clientVersion serverVersion
        clientKexinit serverKexinit serverHostKeyBlob kex.ephemeralPub
        serverEphemeralPub sharedBytes
      .ok (⟨sharedBytes, exchangeHash⟩, { kex with secret := none })

/-- The server's half of the exchange. It can be done once. -/
def completeServer (P : Primitives) (kex : KexState) (clientEphemeralPub : Bytes)
    (clientVersion serverVersion : String)
    (clientKexinit serverKexinit serverHostKeyBlob : Bytes) :
    Outcome SshError (KexResult × KexState) :=
  match kex.secret with
  | none => .err (.keyExchange "Key exchange already completed")
  | some secret =>
      let sharedBytes := P.x25519 secret clientEphemeralPub
      let exchangeHash := computeExchangeHash P clientVersion serverVersion
        clientKexinit serverKexinit serverHostKeyBlob clientEphemeralPub
        kex.ephemeralPub sharedBytes
      .ok (⟨sharedBytes, exchangeHash⟩, { kex with secret := none })

/-- The six values derived from a key exchange: initial counter blocks,
encryption keys and authentication keys for both directions. -/
structure DerivedKeys where
  ivCs : Bytes
  ivSc : Bytes
  encKeyCs : Bytes
  encKeySc : Bytes
  macKeyCs : Bytes
  macKeySc : Bytes

/-- The six keys, one for each letter from A to F. -/
def deriveSessionKeys (P : Primitives) (result : KexResult) : DerivedKeys :=
  let derive := fun keyChar needed =>
    deriveKey P result.sharedSecret result.exchangeHash keyChar result.exchangeHash needed
  { ivCs := derive 65 16
    ivSc := derive 66 16
    encKeyCs := derive 67 32
    encKeySc := derive 68 32
    macKeyCs := derive 69 32
    macKeySc := derive 70 32 }

end SwiftSsh.KeyExchange
