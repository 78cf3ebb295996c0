import SwiftSsh.PacketTransport

namespace SwiftSsh.RecvSafety

open SwiftSsh.ByteWords
open SwiftSsh.RustOutcome
open SwiftSsh.ByteProgram
open SwiftSsh.ByteProgram.Program
open SwiftSsh.WireTypes
open SwiftSsh.PacketCodec
open SwiftSsh.SessionCrypto
open SwiftSsh.PacketTransport

/-- The call ends with a value or an error: no subtraction goes below zero, no
index leaves its slice, and no buffer exceeds the maximum packet size. -/
def RecvSafe (P : Primitives) (keys : SessionKeys) (input : Bytes) : Prop :=
  (run (recvPacket P) keys input).outcome ≠ .panic ∧
    ∀ size ∈ bufferSizes (recvPacket P) keys input, size ≤ maxPacketSize

/-- The decrypted length field of the first block, when the block arrives. -/
def announcedLength (P : Primitives) (keys : SessionKeys) (input : Bytes) : Option Nat :=
  if blockSizeOf keys ≤ input.length then
    (lengthField (decrypted P keys (input.take (blockSizeOf keys)))).toOption
  else none

theorem blockSizeOf_le_maxPacketSize (keys : SessionKeys) :
    blockSizeOf keys ≤ maxPacketSize := by
  unfold blockSizeOf aesBlockSize maxPacketSize
  split <;> omega

theorem exists_lengthField (block : Bytes) (hblock : 4 ≤ block.length) :
    ∃ packetLength, lengthField block = .ok packetLength := by
  match block, hblock with
  | a :: b :: c :: d :: _, _ => exact ⟨_, rfl⟩

theorem run_recvFrame_firstBlock {P : Primitives} {keys : SessionKeys} {input : Bytes}
    {packetLength : Nat} (hblock : blockSizeOf keys ≤ input.length)
    (hfield : lengthField (decrypted P keys (input.take (blockSizeOf keys))) =
      .ok packetLength) :
    run (recvFrame P) keys input =
      run (recvBody P (blockSizeOf keys)
          (decrypted P keys (input.take (blockSizeOf keys))) packetLength)
        (afterDecrypt keys (blockSizeOf keys)) (input.drop (blockSizeOf keys)) := by
  have hlength : (input.take (blockSizeOf keys)).length = blockSizeOf keys := by
    rw [List.length_take]
    omega
  simp only [recvFrame, run_getState_bind]
  rw [run_readExact_bind, if_pos hblock, run_decryptData_bind, run_lift_bind, hfield,
    hlength]

theorem run_readRest_ne_panic (P : Primitives) (remaining : Nat) (keys : SessionKeys)
    (input : Bytes) : (run (readRest P remaining) keys input).outcome ≠ .panic := by
  unfold readRest
  split
  · rw [run_readExact_bind]
    split <;> simp
  · simp

theorem run_recvBody_ne_panic {P : Primitives} {blockSize packetLength : Nat}
    (firstBlock : Bytes) (keys : SessionKeys) (input : Bytes)
    (hle : blockSize ≤ 4 + packetLength) :
    (run (recvBody P blockSize firstBlock packetLength) keys input).outcome ≠ .panic := by
  unfold recvBody
  split
  · simp
  · rw [checkedSub_of_le hle, run_lift_bind]
    exact run_bind_ne_panic (run_readRest_ne_panic P _ _ _) fun _ _ _ => by simp

theorem run_recvBody_panic {P : Primitives} {blockSize packetLength : Nat}
    (firstBlock : Bytes) (keys : SessionKeys) (input : Bytes)
    (hblock : blockSize ≤ maxPacketSize) (hlt : 4 + packetLength < blockSize) :
    (run (recvBody P blockSize firstBlock packetLength) keys input).outcome = .panic := by
  unfold recvBody
  rw [if_neg (by omega), checkedSub_of_lt hlt, run_lift_bind]

theorem run_checkMac_ne_panic (P : Primitives) (seq : UInt32) (data : Bytes)
    (keys : SessionKeys) (input : Bytes) :
    (run (checkMac P seq data) keys input).outcome ≠ .panic := by
  simp only [checkMac, run_getState_bind]
  split
  · rw [run_readExact_bind]
    split
    · rw [run_lift, verifyHmac]
      split <;> simp
    · simp
  · simp

/-- After the packet bytes are complete, nothing can panic. -/
theorem run_recvPacket_ne_panic {P : Primitives} {keys : SessionKeys} {input : Bytes}
    (hframe : (run (recvFrame P) keys input).outcome ≠ .panic) :
    (run (recvPacket P) keys input).outcome ≠ .panic := by
  refine run_bind_ne_panic hframe fun fullData keys' input' => ?_
  rw [run_nextRecvSeq_bind]
  refine run_bind_ne_panic (run_checkMac_ne_panic P _ _ _ _) fun _ _ _ => ?_
  exact deserialize_ne_panic fullData

theorem bufferSizes_readExact (count : Nat) (eof : SshError) (keys : SessionKeys)
    (input : Bytes) : bufferSizes (readExact count eof) keys input = [count] := by
  change (if count ≤ input.length then [count] else [count]) = [count]
  split <;> rfl

theorem bufferSizes_decryptData (P : Primitives) (data : Bytes) (keys : SessionKeys)
    (input : Bytes) : bufferSizes (decryptData P data) keys input = [] := by
  obtain ⟨sendSeq, recvSeq, sessionId, ciphers, sendMacKey, recvMacKey⟩ := keys
  cases ciphers <;> rfl

theorem bufferSizes_readRest (P : Primitives) (remaining : Nat) (keys : SessionKeys)
    (input : Bytes) :
    ∀ size ∈ bufferSizes (readRest P remaining) keys input, size ≤ remaining := by
  unfold readRest
  split
  · apply bufferSizes_bind_le
    · simp [bufferSizes_readExact]
    · intro value keys' input'
      simp [bufferSizes_decryptData]
  · intro size hsize
    simp [bufferSizes, pure] at hsize

theorem bufferSizes_recvBody (P : Primitives) {blockSize : Nat} (hblock : 4 ≤ blockSize)
    (firstBlock : Bytes) (packetLength : Nat) (keys : SessionKeys) (input : Bytes) :
    ∀ size ∈ bufferSizes (recvBody P blockSize firstBlock packetLength) keys input,
      size ≤ maxPacketSize := by
  unfold recvBody
  split
  · intro size hsize
    simp [bufferSizes, fail] at hsize
  · rename_i hlength
    by_cases hle : blockSize ≤ 4 + packetLength
    · rw [checkedSub_of_le hle]
      change ∀ size ∈ bufferSizes
        (readRest P (4 + packetLength - blockSize) >>= _) keys input, _
      apply bufferSizes_bind_le
      · intro size hsize
        have hrest := bufferSizes_readRest P _ keys input size hsize
        omega
      · simp [bufferSizes, pure]
    · rw [checkedSub_of_lt (by omega)]
      change ∀ size ∈ [], _
      simp

theorem bufferSizes_recvFrame (P : Primitives) (keys : SessionKeys) (input : Bytes) :
    ∀ size ∈ bufferSizes (recvFrame P) keys input, size ≤ maxPacketSize := by
  have hblock := blockSizeOf_le_maxPacketSize keys
  have height := eight_le_blockSizeOf keys
  change ∀ size ∈ bufferSizes (readExact (blockSizeOf keys) .connectionClosed >>= _)
    keys input, _
  apply bufferSizes_bind_le
  · simpa [bufferSizes_readExact] using hblock
  · intro firstBlock keys' input'
    apply bufferSizes_bind_le
    · simp [bufferSizes_decryptData]
    · intro plain keysPlain inputPlain
      apply bufferSizes_bind_le
      · simp [bufferSizes, lift]
      · intro packetLength keysBody inputBody
        exact bufferSizes_recvBody P (by omega) plain packetLength keysBody inputBody

theorem bufferSizes_checkMac (P : Primitives) (seq : UInt32) (data : Bytes)
    (keys : SessionKeys) (input : Bytes) :
    ∀ size ∈ bufferSizes (checkMac P seq data) keys input, size ≤ maxPacketSize := by
  obtain ⟨sendSeq, recvSeq, sessionId, ciphers, sendMacKey, recvMacKey⟩ := keys
  cases recvMacKey with
  | none =>
      change ∀ size ∈ [], _
      simp
  | some macKey =>
      change ∀ size ∈ bufferSizes (readExact hmacSha256Size .io >>= _) _ input, _
      apply bufferSizes_bind_le
      · simp [bufferSizes_readExact, hmacSha256Size, maxPacketSize]
      · intro tag keys' input'
        simp [bufferSizes, lift]

/-- Whatever arrives, no buffer is larger than the maximum packet size. -/
theorem bufferSizes_recvPacket (P : Primitives) (keys : SessionKeys) (input : Bytes) :
    ∀ size ∈ bufferSizes (recvPacket P) keys input, size ≤ maxPacketSize := by
  apply bufferSizes_bind_le (bufferSizes_recvFrame P keys input)
  intro fullData keys' input'
  change ∀ size ∈ bufferSizes (checkMac P keys'.recvSeq fullData >>= _) _ input', _
  apply bufferSizes_bind_le (bufferSizes_checkMac P _ _ _ _)
  intro _ _ _
  simp [bufferSizes, lift]

/-- The exact condition for safety: the announced length is not so short that
the packet would end inside the block already read. -/
theorem recvSafe_iff_block_le_announced (P : Primitives) (keys : SessionKeys)
    (input : Bytes) :
    RecvSafe P keys input ↔
      ∀ packetLength, announcedLength P keys input = some packetLength →
        blockSizeOf keys ≤ 4 + packetLength := by
  have height := eight_le_blockSizeOf keys
  unfold RecvSafe announcedLength
  rw [and_iff_left (bufferSizes_recvPacket P keys input)]
  by_cases hblock : blockSizeOf keys ≤ input.length
  · have hlength : (input.take (blockSizeOf keys)).length = blockSizeOf keys := by
      rw [List.length_take]
      omega
    obtain ⟨packetLength, hfield⟩ := exists_lengthField
      (decrypted P keys (input.take (blockSizeOf keys)))
      (by rw [decrypted_length, hlength]; omega)
    have hframe := run_recvFrame_firstBlock hblock hfield
    rw [if_pos hblock, hfield]
    constructor
    · intro hsafe packetLength' hsome
      obtain rfl : packetLength = packetLength' := Option.some.inj hsome
      by_contra hlt
      apply hsafe
      apply run_bind_panic
      rw [hframe]
      exact run_recvBody_panic _ _ _ (blockSizeOf_le_maxPacketSize keys) (by omega)
    · intro hle
      apply run_recvPacket_ne_panic
      rw [hframe]
      exact run_recvBody_ne_panic _ _ _ (hle packetLength rfl)
  · rw [if_neg hblock]
    constructor
    · intro _ packetLength hnone
      simp at hnone
    · intro _
      apply run_recvPacket_ne_panic
      simp only [recvFrame, run_getState_bind]
      rw [run_readExact_short _ _ _ _ (by omega)]
      simp

/-- Eight bytes with a zero length field, before any key is installed. -/
theorem recvPacket_zero_length_panics :
    ¬ RecvSafe toyPrimitives newSessionKeys [0, 0, 0, 0, 0, 0, 0, 0] := by
  intro hsafe
  exact hsafe.1 rfl

end SwiftSsh.RecvSafety
