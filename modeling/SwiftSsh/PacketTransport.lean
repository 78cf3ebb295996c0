import SwiftSsh.PacketCodec
import SwiftSsh.SessionCrypto

namespace SwiftSsh.PacketTransport

open SwiftSsh.ByteWords
open SwiftSsh.RustOutcome
open SwiftSsh.ByteProgram
open SwiftSsh.ByteProgram.Program
open SwiftSsh.WireTypes
open SwiftSsh.WireBuffer
open SwiftSsh.PacketCodec
open SwiftSsh.SessionCrypto

/-- Apply the outgoing cipher when encryption is active. -/
def encryptData (P : Primitives) (data : Bytes) : Program SessionKeys SshError Bytes := do
  let keys ← getState
  match keys.ciphers with
  | some ciphers =>
      setState { keys with
        ciphers := some { ciphers with
          encrypt := advanceCipher ciphers.encrypt data.length } }
      return applyCipher P ciphers.encrypt data
  | none => return data

/-- Apply the incoming cipher when encryption is active. -/
def decryptData (P : Primitives) (data : Bytes) : Program SessionKeys SshError Bytes := do
  let keys ← getState
  match keys.ciphers with
  | some ciphers =>
      setState { keys with
        ciphers := some { ciphers with
          decrypt := advanceCipher ciphers.decrypt data.length } }
      return applyCipher P ciphers.decrypt data
  | none => return data

/-- Send a packet. The authentication code covers the sequence number and the
packet before encryption. -/
def sendPacket (P : Primitives) (rng : Nat → UInt8) (packet : SshPacket) :
    Program SessionKeys SshError Unit := do
  let keys ← getState
  let data ← lift (serialize packet (blockSizeOf keys) rng)
  let seq ← nextSendSeq
  let keys ← getState
  let mac := keys.sendMacKey.map fun macKey => computeHmac P macKey (be32 seq ++ data)
  let data ← encryptData P data
  writeAll data
  match mac with
  | some mac => writeAll mac
  | none => return ()

/-- The length word at the start of the first block. -/
def lengthField (firstBlock : Bytes) : Outcome SshError Nat :=
  match firstBlock with
  | a :: b :: c :: d :: _ => .ok (ofBe32 a b c d).toNat
  | _ => .panic

/-- Read and decrypt the bytes of a packet after its first block. -/
def readRest (P : Primitives) (remaining : Nat) : Program SessionKeys SshError Bytes :=
  if remaining > 0 then do
    let rest ← readExact remaining .io
    decryptData P rest
  else return []

/-- The packet that starts with a given first block: as many further bytes are
read as the length field announces. -/
def recvBody (P : Primitives) (blockSize : Nat) (firstBlock : Bytes)
    (packetLength : Nat) : Program SessionKeys SshError Bytes :=
  if packetLength > maxPacketSize then
    fail (.invalidPacket s!"Packet length too large: {packetLength}")
  else do
    let remaining ← lift (checkedSub (4 + packetLength) blockSize)
    let rest ← readRest P remaining
    return firstBlock ++ rest

/-- Read and decrypt a whole packet. -/
def recvFrame (P : Primitives) : Program SessionKeys SshError Bytes := do
  let keys ← getState
  let blockSize := blockSizeOf keys
  let firstBlock ← readExact blockSize .connectionClosed
  let firstBlock ← decryptData P firstBlock
  let packetLength ← lift (lengthField firstBlock)
  recvBody P blockSize firstBlock packetLength

/-- Read the authentication code and verify it when a key is installed. -/
def checkMac (P : Primitives) (seq : UInt32) (fullData : Bytes) :
    Program SessionKeys SshError Unit := do
  let keys ← getState
  match keys.recvMacKey with
  | some macKey =>
      let macBuf ← readExact hmacSha256Size .io
      lift (verifyHmac P macKey (be32 seq ++ fullData) macBuf)
  | none => return ()

/-- Receive a packet. -/
def recvPacket (P : Primitives) : Program SessionKeys SshError SshPacket := do
  let fullData ← recvFrame P
  let seq ← nextRecvSeq
  checkMac P seq fullData
  lift (deserialize fullData)

/-- Data as it leaves through the outgoing cipher. -/
def encrypted (P : Primitives) (keys : SessionKeys) (data : Bytes) : Bytes :=
  match keys.ciphers with
  | some ciphers => applyCipher P ciphers.encrypt data
  | none => data

/-- Data as it arrives through the incoming cipher. -/
def decrypted (P : Primitives) (keys : SessionKeys) (data : Bytes) : Bytes :=
  match keys.ciphers with
  | some ciphers => applyCipher P ciphers.decrypt data
  | none => data

/-- The keys after `count` bytes went through the incoming cipher. -/
def afterDecrypt (keys : SessionKeys) (count : Nat) : SessionKeys :=
  { keys with
    ciphers := keys.ciphers.map fun ciphers =>
      { ciphers with decrypt := advanceCipher ciphers.decrypt count } }

/-- The keys after a packet of `count` bytes has been sent. -/
def afterSend (keys : SessionKeys) (count : Nat) : SessionKeys :=
  { keys with
    sendSeq := keys.sendSeq + 1
    ciphers := keys.ciphers.map fun ciphers =>
      { ciphers with encrypt := advanceCipher ciphers.encrypt count } }

/-- The keys after a packet of `count` bytes has been received. -/
def afterRecv (keys : SessionKeys) (count : Nat) : SessionKeys :=
  { afterDecrypt keys count with recvSeq := keys.recvSeq + 1 }

/-- The authentication code that follows an outgoing packet. -/
def sendTag (P : Primitives) (keys : SessionKeys) (data : Bytes) : Bytes :=
  match keys.sendMacKey with
  | some macKey => computeHmac P macKey (be32 keys.sendSeq ++ data)
  | none => []

@[simp] theorem run_encryptData_bind {β : Type} (P : Primitives) (data : Bytes)
    (f : Bytes → Program SessionKeys SshError β) (keys : SessionKeys) (input : Bytes) :
    run (encryptData P data >>= f) keys input =
      run (f (encrypted P keys data))
        { keys with
          ciphers := keys.ciphers.map fun ciphers =>
            { ciphers with encrypt := advanceCipher ciphers.encrypt data.length } }
        input := by
  obtain ⟨sendSeq, recvSeq, sessionId, ciphers, sendMacKey, recvMacKey⟩ := keys
  cases ciphers <;> rfl

@[simp] theorem run_decryptData_bind {β : Type} (P : Primitives) (data : Bytes)
    (f : Bytes → Program SessionKeys SshError β) (keys : SessionKeys) (input : Bytes) :
    run (decryptData P data >>= f) keys input =
      run (f (decrypted P keys data)) (afterDecrypt keys data.length) input := by
  obtain ⟨sendSeq, recvSeq, sessionId, ciphers, sendMacKey, recvMacKey⟩ := keys
  cases ciphers <;> rfl

theorem run_sendPacket_rejected {P : Primitives} {rng : Nat → UInt8}
    {packet : SshPacket} {keys : SessionKeys} {error : SshError} (input : Bytes)
    (hreject : serialize packet (blockSizeOf keys) rng = .err error) :
    run (sendPacket P rng packet) keys input = ⟨.err error, keys, input, []⟩ := by
  simp [sendPacket, hreject]

theorem run_sendPacket_accepted {P : Primitives} {rng : Nat → UInt8}
    {packet : SshPacket} {keys : SessionKeys} {data : Bytes} (input : Bytes)
    (haccept : serialize packet (blockSizeOf keys) rng = .ok data) :
    run (sendPacket P rng packet) keys input =
      ⟨.ok (), afterSend keys data.length, input,
        encrypted P keys data ++ sendTag P keys data⟩ := by
  obtain ⟨sendSeq, recvSeq, sessionId, ciphers, sendMacKey, recvMacKey⟩ := keys
  cases sendMacKey <;> cases ciphers <;>
    simp [sendPacket, haccept, encrypted, sendTag, afterSend, Run.after]

@[simp] theorem run_decryptData (P : Primitives) (data : Bytes) (keys : SessionKeys)
    (input : Bytes) :
    run (decryptData P data) keys input =
      ⟨.ok (decrypted P keys data), afterDecrypt keys data.length, input, []⟩ := by
  obtain ⟨sendSeq, recvSeq, sessionId, ciphers, sendMacKey, recvMacKey⟩ := keys
  cases ciphers <;> rfl

@[simp] theorem decrypted_length (P : Primitives) (keys : SessionKeys) (data : Bytes) :
    (decrypted P keys data).length = data.length := by
  unfold decrypted
  split <;> simp

@[simp] theorem encrypted_length (P : Primitives) (keys : SessionKeys) (data : Bytes) :
    (encrypted P keys data).length = data.length := by
  unfold encrypted
  split <;> simp

theorem decrypted_append (P : Primitives) (keys : SessionKeys) (first second : Bytes) :
    decrypted P keys (first ++ second) =
      decrypted P keys first ++
        decrypted P (afterDecrypt keys first.length) second := by
  obtain ⟨sendSeq, recvSeq, sessionId, ciphers, sendMacKey, recvMacKey⟩ := keys
  cases ciphers with
  | none => rfl
  | some ciphers => exact applyCipher_append P ciphers.decrypt first second

@[simp] theorem afterDecrypt_afterDecrypt (keys : SessionKeys) (first second : Nat) :
    afterDecrypt (afterDecrypt keys first) second = afterDecrypt keys (first + second) := by
  obtain ⟨sendSeq, recvSeq, sessionId, ciphers, sendMacKey, recvMacKey⟩ := keys
  cases ciphers <;> simp [afterDecrypt]

@[simp] theorem afterDecrypt_zero (keys : SessionKeys) : afterDecrypt keys 0 = keys := by
  obtain ⟨sendSeq, recvSeq, sessionId, ciphers, sendMacKey, recvMacKey⟩ := keys
  cases ciphers <;> simp [afterDecrypt, advanceCipher]

theorem eight_le_blockSizeOf (keys : SessionKeys) : 8 ≤ blockSizeOf keys := by
  unfold blockSizeOf aesBlockSize
  split <;> omega

theorem lengthField_append {first : Bytes} (second : Bytes) (hfirst : 4 ≤ first.length) :
    lengthField (first ++ second) = lengthField first := by
  match first, hfirst with
  | _ :: _ :: _ :: _ :: _, _ => rfl

@[simp] theorem lengthField_be32 (n : UInt32) (rest : Bytes) :
    lengthField (be32 n ++ rest) = .ok n.toNat := by
  simp [lengthField, be32, ofBe32_be32]

theorem run_readRest (P : Primitives) (keys : SessionKeys) {remaining : Nat}
    {wire : Bytes} (tail : Bytes) (hlength : wire.length = remaining) :
    run (readRest P remaining) keys (wire ++ tail) =
      ⟨.ok (decrypted P keys wire), afterDecrypt keys remaining, tail, []⟩ := by
  unfold readRest
  split
  · rw [run_readExact_append _ _ _ _ _ _ hlength, run_decryptData, hlength]
  · have hzero : remaining = 0 := by omega
    subst hzero
    have hnil : wire = [] := List.eq_nil_of_length_eq_zero hlength
    subst hnil
    have hempty : decrypted P keys [] = [] :=
      List.eq_nil_of_length_eq_zero (by simp)
    simp [hempty]

theorem run_recvFrame {P : Primitives} {keys : SessionKeys} {wire : Bytes}
    {packetLength : Nat} (tail : Bytes)
    (hblock : blockSizeOf keys ≤ wire.length)
    (hfield : lengthField (decrypted P keys wire) = .ok packetLength)
    (hmax : packetLength ≤ maxPacketSize) (hlength : wire.length = 4 + packetLength) :
    run (recvFrame P) keys (wire ++ tail) =
      ⟨.ok (decrypted P keys wire), afterDecrypt keys wire.length, tail, []⟩ := by
  have hblockPos := eight_le_blockSizeOf keys
  have hfirst : (wire.take (blockSizeOf keys)).length = blockSizeOf keys := by
    rw [List.length_take]
    omega
  have hrest : (wire.drop (blockSizeOf keys)).length =
      4 + packetLength - blockSizeOf keys := by
    rw [List.length_drop, hlength]
  have hsplit := List.take_append_drop (blockSizeOf keys) wire
  have hwhole : decrypted P keys wire =
      decrypted P keys (wire.take (blockSizeOf keys)) ++
        decrypted P (afterDecrypt keys (blockSizeOf keys))
          (wire.drop (blockSizeOf keys)) := by
    conv_lhs => rw [← hsplit, decrypted_append, hfirst]
  have hfieldFirst : lengthField (decrypted P keys (wire.take (blockSizeOf keys))) =
      .ok packetLength := by
    rw [← hfield, hwhole, lengthField_append]
    rw [decrypted_length, hfirst]
    omega
  have hinput : wire ++ tail =
      wire.take (blockSizeOf keys) ++ (wire.drop (blockSizeOf keys) ++ tail) := by
    rw [← List.append_assoc, hsplit]
  simp only [recvFrame, run_getState_bind]
  rw [hinput, run_readExact_append _ _ _ _ _ _ hfirst, run_decryptData_bind,
    run_lift_bind, hfieldFirst]
  dsimp only
  rw [recvBody, if_neg (by omega), checkedSub_of_le (by omega), run_lift_bind]
  dsimp only
  rw [run_bind_ok (run_readRest P _ tail hrest), run_pure]
  simp only [Run.after, hfirst, afterDecrypt_afterDecrypt, List.append_nil]
  rw [hwhole, hlength]
  congr 2
  omega

/-- The sender's outgoing and the receiver's incoming direction are in step. -/
def Matching (sender receiver : SessionKeys) : Prop :=
  sender.sendSeq = receiver.recvSeq ∧
    ((sender.ciphers = none ∧ receiver.ciphers = none ∧
        sender.sendMacKey = none ∧ receiver.recvMacKey = none) ∨
      ∃ outgoing incoming, sender.ciphers = some outgoing ∧
        receiver.ciphers = some incoming ∧ outgoing.encrypt = incoming.decrypt ∧
        sender.sendMacKey = receiver.recvMacKey)

theorem Matching.macKey_eq {sender receiver : SessionKeys}
    (hmatch : Matching sender receiver) :
    sender.sendMacKey = receiver.recvMacKey := by
  obtain ⟨-, ⟨-, -, hsend, hrecv⟩ | ⟨_, _, -, -, -, hmac⟩⟩ := hmatch
  · rw [hsend, hrecv]
  · exact hmac

theorem Matching.blockSizeOf_eq {sender receiver : SessionKeys}
    (hmatch : Matching sender receiver) :
    blockSizeOf sender = blockSizeOf receiver := by
  obtain ⟨-, ⟨hs, hr, -, -⟩ | ⟨_, _, hs, hr, -, -⟩⟩ := hmatch <;>
    simp [blockSizeOf, isEncrypted, hs, hr]

theorem Matching.decrypted_encrypted {sender receiver : SessionKeys}
    (hmatch : Matching sender receiver) (P : Primitives) (data : Bytes) :
    decrypted P receiver (encrypted P sender data) = data := by
  obtain ⟨-, ⟨hs, hr, -, -⟩ | ⟨_, _, hs, hr, hcipher, -⟩⟩ := hmatch
  · simp [decrypted, encrypted, hs, hr]
  · simp [decrypted, encrypted, hs, hr, hcipher]

theorem Matching.step {sender receiver : SessionKeys}
    (hmatch : Matching sender receiver) (count : Nat) :
    Matching (afterSend sender count) (afterRecv receiver count) := by
  obtain ⟨hseq, ⟨hs, hr, hsend, hrecv⟩ | ⟨outgoing, incoming, hs, hr, hcipher, hmac⟩⟩ :=
    hmatch
  · refine ⟨by simp [afterSend, afterRecv, hseq], Or.inl ?_⟩
    simp [afterSend, afterRecv, afterDecrypt, hs, hr, hsend, hrecv]
  · refine ⟨by simp [afterSend, afterRecv, hseq], Or.inr ?_⟩
    simp [afterSend, afterRecv, afterDecrypt, hs, hr, hcipher, hmac]

end SwiftSsh.PacketTransport
