import SwiftSsh.MpintCodec

namespace SwiftSsh.KeyDerivation

open SwiftSsh.ByteWords
open SwiftSsh.BigEndian
open SwiftSsh.WireBuffer
open SwiftSsh.SessionCrypto
open SwiftSsh.MpintCodec

section Stream

variable {hash : Bytes → Bytes} {seed purpose : Bytes} {size : Nat}

/-- The first blocks of a stream, in order. The first block hashes the seed and the
purpose, every further block the seed and all blocks before it. -/
def keyStream (hash : Bytes → Bytes) (seed purpose : Bytes) : Nat → Bytes
  | 0 => []
  | 1 => hash (seed ++ purpose)
  | i + 2 =>
      keyStream hash seed purpose (i + 1) ++
        hash (seed ++ keyStream hash seed purpose (i + 1))

theorem keyStream_length (hsize : ∀ data, (hash data).length = size) (blocks : Nat) :
    (keyStream hash seed purpose blocks).length = size * blocks := by
  induction blocks using keyStream.induct with
  | case1 => rfl
  | case2 => rw [keyStream, hsize, Nat.mul_one]
  | case3 i ih => rw [keyStream, List.length_append, hsize, ih, Nat.mul_succ size (i + 1)]

theorem keyStream_mono_succ (blocks : Nat) :
    keyStream hash seed purpose blocks <+: keyStream hash seed purpose (blocks + 1) := by
  cases blocks with
  | zero => exact List.nil_prefix
  | succ i => exact List.prefix_append _ _

theorem keyStream_mono {fewer more : Nat} (hle : fewer ≤ more) :
    keyStream hash seed purpose fewer <+: keyStream hash seed purpose more := by
  induction more, hle using Nat.le_induction with
  | base => exact List.prefix_rfl
  | succ more _ ih => exact ih.trans (keyStream_mono_succ more)

theorem take_keyStream_congr (hsize : ∀ data, (hash data).length = size) {needed first second : Nat}
    (hfirst : needed ≤ size * first) (hsecond : needed ≤ size * second) :
    (keyStream hash seed purpose first).take needed =
      (keyStream hash seed purpose second).take needed := by
  have hwlog : ∀ {fewer more : Nat}, fewer ≤ more → needed ≤ size * fewer →
      (keyStream hash seed purpose fewer).take needed =
        (keyStream hash seed purpose more).take needed := by
    intro fewer more hle hneeded
    obtain ⟨tail, htail⟩ := @keyStream_mono hash seed purpose fewer more hle
    rw [← htail, List.take_append_of_le_length (by rwa [keyStream_length hsize])]
  rcases Nat.le_total first second with hle | hle
  · exact hwlog hle hfirst
  · exact (hwlog hle hsecond).symm

end Stream

variable {P : Primitives} {seed purpose : Bytes}

/-- The loop has computed some blocks of the stream, and goes on to the first number of
blocks that is enough. -/
theorem extendKey_keyStream (needed i : Nat) :
    extendKey P seed needed (keyStream P.sha256 seed purpose (i + 1)) =
      keyStream P.sha256 seed purpose (max (i + 1) ((needed + 31) / 32)) := by
  generalize hkey : keyStream P.sha256 seed purpose (i + 1) = key
  have hlength : key.length = 32 * (i + 1) := by
    rw [← hkey, keyStream_length P.sha256_length]
  induction key using extendKey.induct P seed needed generalizing i with
  | case1 key hlt ih =>
      have hnext : keyStream P.sha256 seed purpose (i + 1 + 1) = key ++ P.sha256 (seed ++ key) := by
        rw [keyStream, hkey]
      have hnextLength : (key ++ P.sha256 (seed ++ key)).length = 32 * (i + 1 + 1) := by
        rw [← hnext, keyStream_length P.sha256_length]
      rw [extendKey, if_pos hlt, ih (i + 1) hnext hnextLength]
      congr 1
      omega
  | case2 key hge =>
      rw [extendKey, if_neg hge, ← hkey]
      congr 1
      omega

theorem deriveKey_eq_take (P : Primitives) (sharedSecret exchangeHash : Bytes) (keyChar : UInt8)
    (sessionId : Bytes) {needed blocks : Nat} (hblocks : needed ≤ 32 * blocks) :
    deriveKey P sharedSecret exchangeHash keyChar sessionId needed =
      (keyStream P.sha256 (writeMpint sharedSecret ++ exchangeHash) ([keyChar] ++ sessionId)
        blocks).take needed := by
  have hfirst : P.sha256 (writeMpint sharedSecret ++ exchangeHash ++ [keyChar] ++ sessionId) =
      keyStream P.sha256 (writeMpint sharedSecret ++ exchangeHash) ([keyChar] ++ sessionId)
        (0 + 1) := by
    rw [keyStream, List.append_assoc _ [keyChar]]
  rw [deriveKey, encodeMpintForHash_eq, hfirst, extendKey_keyStream]
  exact take_keyStream_congr P.sha256_length (by omega) hblocks

theorem deriveKey_prefix (P : Primitives) (sharedSecret exchangeHash : Bytes) (keyChar : UInt8)
    (sessionId : Bytes) {fewer needed : Nat} (hle : fewer ≤ needed) :
    deriveKey P sharedSecret exchangeHash keyChar sessionId fewer <+:
      deriveKey P sharedSecret exchangeHash keyChar sessionId needed := by
  have hneeded : needed ≤ 32 * needed := by omega
  rw [deriveKey_eq_take P sharedSecret exchangeHash keyChar sessionId hneeded,
    deriveKey_eq_take P sharedSecret exchangeHash keyChar sessionId (hle.trans hneeded)]
  exact List.take_prefix_take_left hle

/-- The derived key is what the standard takes from its stream for the integer that the
secret denotes, whatever the hash function is. -/
def MatchesStandard (sharedSecret exchangeHash : Bytes) (keyChar : UInt8) (sessionId : Bytes)
    (needed : Nat) : Prop :=
  ∃ mpint, IsMpint (valueBe sharedSecret) mpint ∧
    ∀ (P : Primitives) (blocks : Nat), needed ≤ 32 * blocks →
      deriveKey P sharedSecret exchangeHash keyChar sessionId needed =
        (keyStream P.sha256 (mpint ++ exchangeHash) ([keyChar] ++ sessionId) blocks).take needed

theorem head_keyStream_toy (seed purpose : Bytes) {needed blocks : Nat} (hneeded : 0 < needed)
    (hblocks : 0 < blocks) :
    ((keyStream toyPrimitives.sha256 seed purpose blocks).take needed).head? =
      some (checksum (seed ++ purpose)) := by
  obtain ⟨tail, htail⟩ := @keyStream_mono toyPrimitives.sha256 seed purpose 1 blocks hblocks
  obtain ⟨needed, rfl⟩ := Nat.exists_eq_succ_of_ne_zero hneeded.ne'
  rw [← htail]
  rfl

theorem not_matchesStandard_of_zero {sharedSecret : Bytes} (exchangeHash : Bytes)
    (keyChar : UInt8) (sessionId : Bytes) {needed : Nat} (hzero : valueBe sharedSecret = 0)
    (hneeded : 0 < needed) :
    ¬ MatchesStandard sharedSecret exchangeHash keyChar sessionId needed := by
  rintro ⟨mpint, hmpint, hstream⟩
  rw [hzero, isMpint_zero_iff] at hmpint
  have hblocks : needed ≤ 32 * needed := by omega
  have hheads := congrArg List.head? (hstream toyPrimitives needed hblocks)
  rw [deriveKey_eq_take _ _ _ _ _ hblocks, head_keyStream_toy _ _ hneeded hneeded,
    head_keyStream_toy _ _ hneeded hneeded, writeMpint_eq, mpintBody_of_zero hzero, hmpint,
    List.append_assoc, List.append_assoc, checksum_append, checksum_append [0, 0, 0, 0]] at hheads
  have hsame := (UInt8.add_left_inj _).mp (Option.some.inj hheads)
  exact absurd hsame (by decide)

/-- Key derivation follows the standard exactly when the secret is not zero, or nothing is
asked for. The length of a key and the prefix property hold in any case. -/
theorem deriveKey_standard_iff (sharedSecret exchangeHash : Bytes) (keyChar : UInt8)
    (sessionId : Bytes) (needed : Nat) :
    (MatchesStandard sharedSecret exchangeHash keyChar sessionId needed ∧
      (∀ P, (deriveKey P sharedSecret exchangeHash keyChar sessionId needed).length = needed) ∧
      (∀ P fewer, fewer ≤ needed →
        deriveKey P sharedSecret exchangeHash keyChar sessionId fewer <+:
          deriveKey P sharedSecret exchangeHash keyChar sessionId needed)) ↔
    2 * valueBe sharedSecret < 256 ^ longestBody ∧
      (needed = 0 ∨ valueBe sharedSecret ≠ 0) := by
  constructor
  · rintro ⟨hmatches, -, -⟩
    have hfits : 2 * valueBe sharedSecret < 256 ^ longestBody := by
      obtain ⟨mpint, hmpint, -⟩ := hmatches
      exact hmpint.fits
    refine ⟨hfits, ?_⟩
    by_contra hneither
    obtain ⟨hneeded, hzero⟩ := not_or.mp hneither
    exact not_matchesStandard_of_zero exchangeHash keyChar sessionId (not_not.mp hzero)
      (Nat.pos_of_ne_zero hneeded) hmatches
  · rintro ⟨hfits, hcase⟩
    refine ⟨?_, ?_, ?_⟩
    · by_cases hvalue : valueBe sharedSecret = 0
      · obtain rfl : needed = 0 := hcase.resolve_right (not_not.mpr hvalue)
        rw [MatchesStandard, hvalue]
        refine ⟨_, isMpint_zero_iff.mpr rfl, ?_⟩
        intro P blocks hblocks
        rw [deriveKey_eq_take P _ _ _ _ hblocks, List.take_zero, List.take_zero]
      · refine ⟨_, isMpint_writeMpint hvalue hfits, ?_⟩
        intro P blocks hblocks
        exact deriveKey_eq_take P sharedSecret exchangeHash keyChar sessionId hblocks
    · intro P
      exact deriveKey_length P sharedSecret exchangeHash keyChar sessionId needed
    · intro P fewer hle
      exact deriveKey_prefix P sharedSecret exchangeHash keyChar sessionId hle

/-- A secret of 32 zero bytes, as an exchange with the point zero gives it. -/
theorem deriveKey_zeros_not_standard :
    ¬ MatchesStandard (List.replicate 32 0) (List.replicate 32 5) 65 (List.replicate 32 5) 16 :=
  not_matchesStandard_of_zero _ _ _ (valueBe_replicate_zero 32) (by decide)

end SwiftSsh.KeyDerivation
