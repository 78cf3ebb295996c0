import SwiftSsh.ByteProgram
import SwiftSsh.StreamCipher
import SwiftSsh.WireBuffer

/-!
Session keys and the cryptographic operations on them. The primitives come
from third-party packages and are parameters with the properties the code
relies on.
-/

namespace SwiftSsh.SessionCrypto

open SwiftSsh.ByteWords
open SwiftSsh.RustOutcome
open SwiftSsh.ByteProgram
open SwiftSsh.ByteProgram.Program
open SwiftSsh.StreamCipher
open SwiftSsh.WireTypes
open SwiftSsh.WireBuffer

/-- The third-party primitives. `aesCtr` is the keystream byte of a key and an
initial counter block at a position. -/
structure Primitives where
  aesCtr : Bytes → Bytes → Nat → UInt8
  hmacSha256 : Bytes → Bytes → Bytes
  sha256 : Bytes → Bytes
  x25519Public : Bytes → Bytes
  x25519 : Bytes → Bytes → Bytes
  hmacSha256_length : ∀ key data, (hmacSha256 key data).length = 32
  sha256_length : ∀ data, (sha256 data).length = 32
  x25519Public_length : ∀ secret, (x25519Public secret).length = 32
  x25519_comm : ∀ first second,
    x25519 first (x25519Public second) = x25519 second (x25519Public first)

/-- The first 32 bytes of a byte string extended by zeros. -/
def pad32 (bytes : Bytes) : Bytes :=
  (bytes ++ List.replicate 32 0).take 32

@[simp] theorem pad32_length (bytes : Bytes) : (pad32 bytes).length = 32 := by
  simp [pad32]

/-- The sum of some bytes. -/
def checksum : Bytes → UInt8
  | [] => 0
  | byte :: rest => byte + checksum rest

theorem checksum_append (first second : Bytes) :
    checksum (first ++ second) = checksum first + checksum second := by
  induction first with
  | nil => exact (UInt8.zero_add _).symm
  | cons byte rest ih => rw [List.cons_append, checksum, checksum, ih, UInt8.add_assoc]

/-- Computable stand-ins, for evaluating the model on concrete inputs. Key
agreement is addition of byte vectors, digests are checksums. -/
def toyPrimitives : Primitives where
  aesCtr key iv position := checksum key + checksum iv + UInt8.ofNat (position * position)
  hmacSha256 key data := List.replicate 32 (checksum key + 3 * checksum data)
  sha256 data := List.replicate 32 (checksum data)
  x25519Public := pad32
  x25519 secret point := List.zipWith (· + ·) (pad32 secret) point
  hmacSha256_length _ _ := List.length_replicate
  sha256_length _ := List.length_replicate
  x25519Public_length := pad32_length
  x25519_comm _ _ := List.zipWith_comm_of_comm fun x y => UInt8.add_comm x y

/-- An AES-256-CTR cipher for a single direction. -/
structure AesCipher where
  key : Bytes
  iv : Bytes
  position : Nat
  deriving DecidableEq, Repr

/-- `AesCipher::new`, with the checks of its lengths. -/
def newAesCipher (key iv : Bytes) : Outcome SshError AesCipher :=
  if key.length ≠ 32 then
    .err (.encryption s!"AES-256 key must be 32 bytes, got {key.length}")
  else if iv.length ≠ 16 then
    .err (.encryption s!"AES IV must be 16 bytes, got {iv.length}")
  else
    .ok ⟨key, iv, 0⟩

/-- The result of applying a cipher to data. -/
def applyCipher (P : Primitives) (cipher : AesCipher) (data : Bytes) : Bytes :=
  xorKeystream (P.aesCtr cipher.key cipher.iv) cipher.position data

/-- The cipher after it has been applied to `count` bytes. -/
def advanceCipher (cipher : AesCipher) (count : Nat) : AesCipher :=
  { cipher with position := cipher.position + count }

/-- The ciphers of both directions. -/
structure CipherPair where
  encrypt : AesCipher
  decrypt : AesCipher
  deriving DecidableEq, Repr

/-- One cipher for each direction. -/
def newCipherPair (encKey encIv decKey decIv : Bytes) :
    Outcome SshError CipherPair := do
  let encrypt ← newAesCipher encKey encIv
  let decrypt ← newAesCipher decKey decIv
  return ⟨encrypt, decrypt⟩

/-- Keys and sequence numbers of a session. -/
structure SessionKeys where
  sendSeq : UInt32
  recvSeq : UInt32
  sessionId : Option Bytes
  ciphers : Option CipherPair
  sendMacKey : Option Bytes
  recvMacKey : Option Bytes
  deriving DecidableEq, Repr

/-- The keys of a fresh connection. -/
def newSessionKeys : SessionKeys :=
  ⟨0, 0, none, none, none, none⟩

/-- Whether the keys have been activated. -/
def isEncrypted (keys : SessionKeys) : Bool :=
  keys.ciphers.isSome

/-- Block size used by both directions of the packet protocol. -/
def blockSizeOf (keys : SessionKeys) : Nat :=
  if isEncrypted keys then aesBlockSize else 8

/-- The number of the next packet to send. It wraps around. -/
def nextSendSeq : Program SessionKeys SshError UInt32 := do
  let keys ← getState
  setState { keys with sendSeq := keys.sendSeq + 1 }
  return keys.sendSeq

/-- The number of the next packet to receive. It wraps around. -/
def nextRecvSeq : Program SessionKeys SshError UInt32 := do
  let keys ← getState
  setState { keys with recvSeq := keys.recvSeq + 1 }
  return keys.recvSeq

@[simp] theorem run_nextSendSeq_bind {β : Type}
    (f : UInt32 → Program SessionKeys SshError β) (keys : SessionKeys) (input : Bytes) :
    run (nextSendSeq >>= f) keys input =
      run (f keys.sendSeq) { keys with sendSeq := keys.sendSeq + 1 } input :=
  rfl

@[simp] theorem run_nextRecvSeq_bind {β : Type}
    (f : UInt32 → Program SessionKeys SshError β) (keys : SessionKeys) (input : Bytes) :
    run (nextRecvSeq >>= f) keys input =
      run (f keys.recvSeq) { keys with recvSeq := keys.recvSeq + 1 } input :=
  rfl

/-- The authentication code of some data. -/
def computeHmac (P : Primitives) (key data : Bytes) : Bytes :=
  P.hmacSha256 key data

@[simp] theorem computeHmac_length (P : Primitives) (key data : Bytes) :
    (computeHmac P key data).length = hmacSha256Size :=
  P.hmacSha256_length key data

/-- Compare an authentication code with the one that was received. -/
def verifyHmac (P : Primitives) (key data expected : Bytes) : Outcome SshError Unit :=
  if P.hmacSha256 key data = expected then .ok () else .err .macMismatch

/-- The multi-precision integer encoding used for key derivation. -/
def encodeMpintForHash (data : Bytes) : Bytes :=
  let stripped := stripLeadingZeros data
  if stripped.isEmpty ∨ stripped.headD 0 &&& 0x80 ≠ 0 then
    be32 (UInt32.ofNat (stripped.length + 1)) ++ [0] ++ stripped
  else
    be32 (UInt32.ofNat stripped.length) ++ stripped

/-- The rounds of key derivation after the first one. `seed` is the encoded
shared secret followed by the exchange hash. -/
def extendKey (P : Primitives) (seed : Bytes) (needed : Nat) (key : Bytes) : Bytes :=
  if key.length < needed then
    extendKey P seed needed (key ++ P.sha256 (seed ++ key))
  else key
termination_by needed - key.length
decreasing_by
  rw [List.length_append, P.sha256_length]
  omega

/-- Derive `needed` bytes of key material for the purpose `keyChar`. -/
def deriveKey (P : Primitives) (sharedSecret exchangeHash : Bytes) (keyChar : UInt8)
    (sessionId : Bytes) (needed : Nat) : Bytes :=
  let kMpint := encodeMpintForHash sharedSecret
  let first := P.sha256 (kMpint ++ exchangeHash ++ [keyChar] ++ sessionId)
  (extendKey P (kMpint ++ exchangeHash) needed first).take needed

theorem needed_le_extendKey_length (P : Primitives) (seed : Bytes) (needed : Nat)
    (key : Bytes) : needed ≤ (extendKey P seed needed key).length := by
  fun_induction extendKey P seed needed key with
  | case1 key hlt ih => exact ih
  | case2 key hge => omega

@[simp] theorem deriveKey_length (P : Primitives) (sharedSecret exchangeHash : Bytes)
    (keyChar : UInt8) (sessionId : Bytes) (needed : Nat) :
    (deriveKey P sharedSecret exchangeHash keyChar sessionId needed).length = needed := by
  rw [deriveKey, List.length_take, Nat.min_eq_left]
  exact needed_le_extendKey_length P _ needed _

theorem newCipherPair_of_lengths {encKey encIv decKey decIv : Bytes}
    (hencKey : encKey.length = 32) (hencIv : encIv.length = 16)
    (hdecKey : decKey.length = 32) (hdecIv : decIv.length = 16) :
    newCipherPair encKey encIv decKey decIv =
      .ok ⟨⟨encKey, encIv, 0⟩, ⟨decKey, decIv, 0⟩⟩ := by
  simp [newCipherPair, newAesCipher, hencKey, hencIv, hdecKey, hdecIv]

@[simp] theorem applyCipher_length (P : Primitives) (cipher : AesCipher)
    (data : Bytes) : (applyCipher P cipher data).length = data.length := by
  simp [applyCipher]

theorem applyCipher_append (P : Primitives) (cipher : AesCipher)
    (first second : Bytes) :
    applyCipher P cipher (first ++ second) =
      applyCipher P cipher first ++
        applyCipher P (advanceCipher cipher first.length) second := by
  simp [applyCipher, advanceCipher, xorKeystream_append]

@[simp] theorem applyCipher_applyCipher (P : Primitives) (cipher : AesCipher)
    (data : Bytes) : applyCipher P cipher (applyCipher P cipher data) = data := by
  simp [applyCipher, xorKeystream_xorKeystream]

@[simp] theorem advanceCipher_advanceCipher (cipher : AesCipher) (first second : Nat) :
    advanceCipher (advanceCipher cipher first) second =
      advanceCipher cipher (first + second) := by
  simp [advanceCipher, Nat.add_assoc]

end SwiftSsh.SessionCrypto
