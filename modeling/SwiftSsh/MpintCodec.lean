import Mathlib.Data.Nat.Bitwise
import SwiftSsh.BigEndian
import SwiftSsh.SessionCrypto

namespace SwiftSsh.MpintCodec

open SwiftSsh.ByteWords
open SwiftSsh.RustOutcome
open SwiftSsh.BigEndian
open SwiftSsh.WireTypes
open SwiftSsh.WireBuffer
open SwiftSsh.SessionCrypto

variable {n : Nat} {bytes body val : Bytes}

/-- The longest body that a 32-bit length can announce. -/
def longestBody : Nat := 4294967295

/-- The body of an integer as the standard has it: the shortest two's-complement string,
with the sign bit clear, no zero byte in front that the sign does not need, and nothing
at all for zero. -/
structure CanonicalBody (n : Nat) (body : Bytes) : Prop where
  shortest : Shortest n body
  topBitClear : TopBitClear body
  noSpareZero : NoSpareZero body
  empty_of_zero : n = 0 → body = []

theorem canonicalBody_iff : CanonicalBody n body ↔ Shortest n body := by
  constructor
  · exact CanonicalBody.shortest
  · intro hshort
    obtain ⟨-, hclear, hspare⟩ := shortest_iff.mp hshort
    exact ⟨hshort, hclear, hspare, fun hzero => shortest_zero_iff.mp (hzero ▸ hshort)⟩

/-- An integer on the wire: the length of its body, and the body. -/
def IsMpint (n : Nat) (bytes : Bytes) : Prop :=
  ∃ len body, bytes = be32 len ++ body ∧ len.toNat = body.length ∧ CanonicalBody n body

theorem IsMpint.unique {other : Bytes} (hbytes : IsMpint n bytes) (hother : IsMpint n other) :
    bytes = other := by
  obtain ⟨len, body, rfl, hlen, hbody⟩ := hbytes
  obtain ⟨len', body', rfl, hlen', hbody'⟩ := hother
  obtain rfl := hbody.shortest.unique hbody'.shortest
  rw [UInt32.toNat_inj.mp (hlen.trans hlen'.symm)]

theorem isMpint_zero_iff : IsMpint 0 bytes ↔ bytes = [0, 0, 0, 0] := by
  constructor
  · rintro ⟨len, body, rfl, hlen, hbody⟩
    obtain rfl := hbody.empty_of_zero rfl
    obtain rfl : len = 0 := UInt32.toNat_inj.mp hlen
    rfl
  · rintro rfl
    exact ⟨0, [], rfl, rfl, canonicalBody_iff.mpr (shortest_zero_iff.mpr rfl)⟩

theorem IsMpint.fits (hmpint : IsMpint n bytes) : 2 * n < 256 ^ longestBody := by
  obtain ⟨len, body, rfl, hlen, hbody⟩ := hmpint
  rw [← hbody.shortest.length_le_iff, ← hlen]
  exact Nat.le_of_lt_succ len.toNat_lt

/-- The bytes after the length: the significant ones, or a single zero byte, with a zero
byte in front where the sign bit would be set. -/
def mpintBody (val : Bytes) : Bytes :=
  let stripped := stripLeadingZeros val
  if stripped.headD 0 &&& 0x80 ≠ 0 then 0 :: stripped else stripped

theorem writeMpint_eq (val : Bytes) : writeMpint val = writeString (mpintBody val) := by
  rw [writeMpint, mpintBody, writeString]
  split
  · rw [List.append_assoc]
    rfl
  · rfl

theorem signBit_iff (byte : UInt8) : byte &&& 0x80 ≠ 0 ↔ 128 ≤ byte.toNat := by
  have hbit : (byte &&& 0x80).toNat = (byte.toNat.testBit 7).toNat * 128 := by
    rw [UInt8.toNat_and]
    exact Nat.and_two_pow byte.toNat 7
  have hlt := byte.toNat_lt
  rw [ne_eq, ← UInt8.toNat_inj, hbit, Nat.testBit_eq_decide_div_mod_eq]
  simp
  omega

theorem stripLeadingZeros_of_zero (hzero : valueBe val = 0) : stripLeadingZeros val = [0] := by
  rw [stripLeadingZeros, dropWhile_eq_nil_iff.mpr hzero]

theorem stripLeadingZeros_of_ne_zero (hvalue : valueBe val ≠ 0) :
    ∃ byte rest, byte ≠ 0 ∧ val.dropWhile (· = 0) = byte :: rest ∧
      stripLeadingZeros val = byte :: rest := by
  rcases hstrip : val.dropWhile (· = 0) with _ | ⟨byte, rest⟩
  · exact absurd (dropWhile_eq_nil_iff.mp hstrip) hvalue
  · refine ⟨byte, rest, head_ne_zero_of_dropWhile hstrip, hstrip, ?_⟩
    rw [stripLeadingZeros, hstrip]

theorem valueBe_stripLeadingZeros (val : Bytes) :
    valueBe (stripLeadingZeros val) = valueBe val := by
  by_cases hvalue : valueBe val = 0
  · rw [stripLeadingZeros_of_zero hvalue, hvalue, valueBe_zero_cons]
    rfl
  · obtain ⟨byte, rest, -, hstrip, hall⟩ := stripLeadingZeros_of_ne_zero hvalue
    rw [hall, ← hstrip, valueBe_dropWhile]

theorem stripLeadingZeros_ne_nil (val : Bytes) : stripLeadingZeros val ≠ [] := by
  rw [stripLeadingZeros]
  split
  · exact List.cons_ne_nil 0 []
  · assumption

theorem stripLeadingZeros_congr {first second : Bytes} (hvalue : valueBe first = valueBe second) :
    stripLeadingZeros first = stripLeadingZeros second := by
  rw [stripLeadingZeros, dropWhile_eq_iff.mpr hvalue, stripLeadingZeros]

theorem topBitClear_mpintBody (val : Bytes) : TopBitClear (mpintBody val) := by
  rw [mpintBody]
  split
  · exact Nat.zero_lt_succ 127
  · rename_i hclear
    rcases hstrip : stripLeadingZeros val with _ | ⟨byte, rest⟩
    · exact trivial
    · rw [hstrip, List.headD_cons, signBit_iff] at hclear
      exact Nat.lt_of_not_le hclear

theorem signedBe_mpintBody (val : Bytes) : signedBe (mpintBody val) = valueBe val := by
  refine signedBe_eq_iff.mpr ⟨?_, topBitClear_mpintBody val⟩
  rw [mpintBody]
  split
  · rw [valueBe_zero_cons, valueBe_stripLeadingZeros]
  · exact valueBe_stripLeadingZeros val

/-- Zero is written as one zero byte, not as an empty body. -/
theorem mpintBody_of_zero (hzero : valueBe val = 0) : mpintBody val = [0] := by
  rw [mpintBody, stripLeadingZeros_of_zero hzero]
  rfl

theorem noSpareZero_mpintBody (hvalue : valueBe val ≠ 0) : NoSpareZero (mpintBody val) := by
  obtain ⟨byte, rest, hbyte, -, hstrip⟩ := stripLeadingZeros_of_ne_zero hvalue
  rw [mpintBody, hstrip, List.headD_cons]
  intro tail htail
  split at htail
  · rename_i hsign
    obtain rfl : byte :: rest = tail := (List.cons.inj htail).2
    rw [signBit_iff] at hsign
    exact Nat.not_lt.mpr hsign
  · exact absurd (List.cons.inj htail).1 hbyte

theorem shortest_mpintBody (hvalue : valueBe val ≠ 0) :
    Shortest (valueBe val) (mpintBody val) := by
  obtain ⟨hplain, hclear⟩ := signedBe_eq_iff.mp (signedBe_mpintBody val)
  exact shortest_iff.mpr ⟨hplain, hclear, noSpareZero_mpintBody hvalue⟩

theorem mpintBody_eq_iff {first second : Bytes} :
    mpintBody first = mpintBody second ↔ valueBe first = valueBe second := by
  constructor
  · intro heq
    have hsigned := congrArg signedBe heq
    rw [signedBe_mpintBody, signedBe_mpintBody] at hsigned
    exact Int.natCast_inj.mp hsigned
  · intro hvalue
    rw [mpintBody, stripLeadingZeros_congr hvalue, mpintBody]

theorem writeMpint_eq_iff {first second : Bytes} :
    writeMpint first = writeMpint second ↔ valueBe first = valueBe second := by
  rw [writeMpint_eq, writeMpint_eq, writeString, writeString, ← mpintBody_eq_iff]
  constructor
  · intro heq
    exact (List.append_inj heq (by rw [be32_length, be32_length])).2
  · intro heq
    rw [heq]

theorem encodeMpintForHash_eq (data : Bytes) : encodeMpintForHash data = writeMpint data := by
  have hne : ¬ (stripLeadingZeros data).isEmpty = true := by
    rw [List.isEmpty_iff]
    exact stripLeadingZeros_ne_nil data
  rw [encodeMpintForHash, writeMpint]
  simp only [hne, Bool.false_eq_true, false_or]

theorem mpintBody_length_le (val : Bytes) : (mpintBody val).length ≤ val.length + 1 := by
  by_cases hvalue : valueBe val = 0
  · rw [mpintBody_of_zero hvalue]
    exact Nat.le_add_left 1 _
  · obtain ⟨byte, rest, -, hstrip, hall⟩ := stripLeadingZeros_of_ne_zero hvalue
    have hsublist : (val.dropWhile (· = 0)).Sublist val := List.dropWhile_sublist _
    have hle := hsublist.length_le
    rw [hstrip] at hle
    rw [mpintBody, hall]
    split
    · rw [List.length_cons]
      omega
    · omega

theorem isMpint_writeMpint (hvalue : valueBe val ≠ 0)
    (hfits : 2 * valueBe val < 256 ^ longestBody) : IsMpint (valueBe val) (writeMpint val) := by
  have hshort := shortest_mpintBody hvalue
  have hlt : (mpintBody val).length < 2 ^ 32 :=
    Nat.lt_succ_of_le ((hshort.length_le_iff longestBody).mpr hfits)
  rw [writeMpint_eq]
  refine ⟨_, mpintBody val, rfl, ?_, canonicalBody_iff.mpr hshort⟩
  rw [UInt32.toNat_ofNat', Nat.mod_eq_of_lt hlt]

/-- The writer of integers is canonical but for zero, and for what a 32-bit length cannot
announce. -/
theorem writeMpint_canonical_iff (val : Bytes) :
    IsMpint (valueBe val) (writeMpint val) ↔
      valueBe val ≠ 0 ∧ 2 * valueBe val < 256 ^ longestBody := by
  constructor
  · intro hmpint
    refine ⟨?_, hmpint.fits⟩
    intro hzero
    have hbytes := isMpint_zero_iff.mp (hzero ▸ hmpint)
    rw [writeMpint_eq, mpintBody_of_zero hzero] at hbytes
    cases hbytes
  · rintro ⟨hvalue, hfits⟩
    exact isMpint_writeMpint hvalue hfits

/-- A secret of 32 zero bytes gets a body of one byte. -/
theorem writeMpint_zeros_not_canonical :
    ¬ IsMpint (valueBe (List.replicate 32 0)) (writeMpint (List.replicate 32 0)) := by
  have hwrite : writeMpint (List.replicate 32 0) = [0, 0, 0, 1, 0] := by decide
  rw [valueBe_replicate_zero, hwrite, isMpint_zero_iff]
  decide

/-- Both encoders write the same bytes, these depend on the integer alone, and reading
them gives the integer back. -/
theorem mpint_encoders_agree (val : Bytes) :
    encodeMpintForHash val = writeMpint val ∧
      (∀ other, writeMpint val = writeMpint other ↔ valueBe val = valueBe other) ∧
      (∀ other, encodeMpintForHash val = encodeMpintForHash other ↔
        valueBe val = valueBe other) ∧
      (val.length ≤ maxPacketSize - 1 → ∀ tail, ∃ body,
        readMpint (writeMpint val ++ tail) = .ok (body, tail) ∧
          signedBe body = valueBe val ∧ valueBe body = valueBe val) := by
  refine ⟨encodeMpintForHash_eq val, fun other => writeMpint_eq_iff, ?_, ?_⟩
  · intro other
    rw [encodeMpintForHash_eq, encodeMpintForHash_eq]
    exact writeMpint_eq_iff
  · intro hlength tail
    have hbody := mpintBody_length_le val
    have hmax : 1 ≤ maxPacketSize := by decide
    refine ⟨mpintBody val, ?_, signedBe_mpintBody val, ?_⟩
    · rw [readMpint, writeMpint_eq]
      exact readString_writeString tail (by omega)
    · exact (signedBe_eq_iff.mp (signedBe_mpintBody val)).1

theorem mpint_encoders_agree_sample :
    ∃ body, readMpint (writeMpint [0, 0x80, 0x01] ++ [7]) = .ok (body, [7]) ∧
      signedBe body = valueBe [0, 0x80, 0x01] ∧ valueBe body = valueBe [0, 0x80, 0x01] :=
  (mpint_encoders_agree [0, 0x80, 0x01]).2.2.2 (by decide) [7]

end SwiftSsh.MpintCodec
