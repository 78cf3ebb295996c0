import SwiftSsh.ByteWords
import Mathlib.Data.Nat.Digits.Lemmas
import Mathlib.Tactic.Linarith
import Mathlib.Tactic.Ring

/-!
Byte strings as big-endian numbers, without a sign and in two's complement, and the
shortest two's-complement string of a number.
-/

namespace SwiftSsh.BigEndian

open SwiftSsh.ByteWords

variable {n : Nat} {bytes body : Bytes}

/-- The number with the given big-endian bytes. -/
def valueBe (bytes : Bytes) : Nat :=
  Nat.ofDigits 256 (bytes.reverse.map UInt8.toNat)

theorem valueBe_cons (byte : UInt8) (rest : Bytes) :
    valueBe (byte :: rest) = byte.toNat * 256 ^ rest.length + valueBe rest := by
  rw [valueBe, List.reverse_cons, List.map_append, Nat.ofDigits_append, List.length_map,
    List.length_reverse, List.map_singleton, Nat.ofDigits_singleton, valueBe]
  ring

theorem digit_lt {digit : Nat} (hdigit : digit ∈ bytes.reverse.map UInt8.toNat) :
    digit < 256 := by
  obtain ⟨byte, -, rfl⟩ := List.mem_map.mp hdigit
  exact byte.toNat_lt

theorem valueBe_lt (bytes : Bytes) : valueBe bytes < 256 ^ bytes.length := by
  have hlt := Nat.ofDigits_lt_base_pow_length (by decide : 1 < 256)
    fun digit (hdigit : digit ∈ bytes.reverse.map UInt8.toNat) => digit_lt hdigit
  rwa [List.length_map, List.length_reverse] at hlt

@[simp] theorem valueBe_zero_cons (rest : Bytes) : valueBe (0 :: rest) = valueBe rest := by
  simp [valueBe_cons]

theorem valueBe_replicate_zero (count : Nat) : valueBe (List.replicate count 0) = 0 := by
  induction count with
  | zero => rfl
  | succ count ih => rw [List.replicate_succ, valueBe_zero_cons, ih]

theorem pow_le_valueBe_cons {byte : UInt8} (rest : Bytes) (hbyte : byte ≠ 0) :
    256 ^ rest.length ≤ valueBe (byte :: rest) := by
  have hpos : 1 ≤ byte.toNat := by
    rw [Nat.one_le_iff_ne_zero]
    exact fun hzero => hbyte (UInt8.toNat_inj.mp hzero)
  have hmul := Nat.mul_le_mul_right (256 ^ rest.length) hpos
  rw [valueBe_cons]
  omega

theorem eq_of_valueBe_eq {first second : Bytes} (hlength : first.length = second.length)
    (hvalue : valueBe first = valueBe second) : first = second := by
  have hdigits := Nat.ofDigits_inj_of_len_eq (by decide : 1 < 256) (by simpa using hlength)
    (fun _ => digit_lt) (fun _ => digit_lt) hvalue
  have hinjective : Function.Injective UInt8.toNat := fun _ _ => UInt8.toNat_inj.mp
  exact List.reverse_injective (hinjective.list_map hdigits)

theorem valueBe_dropWhile (bytes : Bytes) :
    valueBe (bytes.dropWhile (· = 0)) = valueBe bytes := by
  induction bytes with
  | nil => rfl
  | cons byte rest ih =>
      by_cases hbyte : byte = 0
      · rw [hbyte, valueBe_zero_cons, ← ih]
        rfl
      · rw [List.dropWhile_cons_of_neg (by simpa using hbyte)]

theorem head_ne_zero_of_dropWhile {byte : UInt8} {rest : Bytes}
    (hstrip : bytes.dropWhile (· = 0) = byte :: rest) : byte ≠ 0 := by
  have hne : bytes.dropWhile (· = 0) ≠ [] := by simp [hstrip]
  have hhead := List.head_dropWhile_not (fun byte : UInt8 => decide (byte = 0)) hne
  simpa [hstrip] using hhead

theorem dropWhile_eq_nil_iff : bytes.dropWhile (· = 0) = [] ↔ valueBe bytes = 0 := by
  constructor
  · intro hnil
    rw [← valueBe_dropWhile, hnil]
    rfl
  · intro hzero
    rcases hstrip : bytes.dropWhile (· = 0) with _ | ⟨byte, rest⟩
    · exact hstrip
    · have hpow := pow_le_valueBe_cons rest (head_ne_zero_of_dropWhile hstrip)
      rw [← hstrip, valueBe_dropWhile, hzero] at hpow
      have hpos : 0 < 256 ^ rest.length := by positivity
      omega

/-- The significant bytes are a matter of the value alone. -/
theorem dropWhile_eq_iff {first second : Bytes} :
    first.dropWhile (· = 0) = second.dropWhile (· = 0) ↔ valueBe first = valueBe second := by
  constructor
  · intro heq
    rw [← valueBe_dropWhile first, heq, valueBe_dropWhile]
  · intro hvalue
    by_cases hzero : valueBe first = 0
    · rw [dropWhile_eq_nil_iff.mpr hzero, dropWhile_eq_nil_iff.mpr (hvalue ▸ hzero)]
    · have hle : ∀ {one other : Bytes}, valueBe one = valueBe other → valueBe one ≠ 0 →
          (one.dropWhile (· = 0)).length ≤ (other.dropWhile (· = 0)).length := by
        intro one other hsame hone
        rcases hstrip : one.dropWhile (· = 0) with _ | ⟨byte, rest⟩
        · rw [hstrip]
          exact Nat.zero_le _
        · have hlow := pow_le_valueBe_cons rest (head_ne_zero_of_dropWhile hstrip)
          have hhigh := valueBe_lt (other.dropWhile (· = 0))
          rw [valueBe_dropWhile, ← hsame, ← valueBe_dropWhile one, hstrip] at hhigh
          rw [hstrip]
          exact (Nat.pow_lt_pow_iff_right (by decide)).mp (hlow.trans_lt hhigh)
      apply eq_of_valueBe_eq
      · exact le_antisymm (hle hvalue hzero) (hle hvalue.symm (hvalue ▸ hzero))
      · rw [valueBe_dropWhile, valueBe_dropWhile, hvalue]

/-- The sign bit is clear. -/
def TopBitClear : Bytes → Prop
  | [] => True
  | byte :: _ => byte.toNat < 128

/-- The integer with the given two's-complement bytes, most significant first. -/
def signedBe : Bytes → Int
  | [] => 0
  | byte :: rest =>
      valueBe (byte :: rest) - if byte.toNat < 128 then 0 else 256 ^ (rest.length + 1)

theorem topBitClear_iff : TopBitClear bytes ↔ 2 * valueBe bytes < 256 ^ bytes.length := by
  rcases bytes with _ | ⟨byte, rest⟩
  · simp [TopBitClear, valueBe]
  · have hrest := valueBe_lt rest
    have hpow : 256 ^ (byte :: rest).length = 256 * 256 ^ rest.length := by
      rw [List.length_cons, pow_succ, mul_comm]
    rw [TopBitClear, valueBe_cons, hpow]
    constructor
    · intro hclear
      have hmul := Nat.mul_le_mul_right (256 ^ rest.length) (Nat.succ_le_of_lt hclear)
      linarith
    · intro hsmall
      by_contra hset
      have hmul := Nat.mul_le_mul_right (256 ^ rest.length) (Nat.le_of_not_lt hset)
      linarith

/-- A string stands for a number when it does so without a sign and leaves the sign bit
clear. -/
theorem signedBe_eq_iff :
    signedBe bytes = n ↔ valueBe bytes = n ∧ TopBitClear bytes := by
  rcases bytes with _ | ⟨byte, rest⟩
  · simp [signedBe, valueBe, TopBitClear, eq_comm]
  · rw [signedBe, TopBitClear]
    by_cases hclear : byte.toNat < 128
    · simp [hclear]
    · have hlt : (valueBe (byte :: rest) : Int) < 256 ^ (rest.length + 1) := by
        exact_mod_cast valueBe_lt (byte :: rest)
      rw [if_neg hclear]
      constructor
      · intro heq
        omega
      · rintro ⟨-, hset⟩
        exact absurd hset hclear

/-- A leading zero byte is only there to keep the sign bit clear. -/
def NoSpareZero (body : Bytes) : Prop :=
  ∀ rest, body = 0 :: rest → ¬ TopBitClear rest

/-- A shortest string that stands for a number in two's complement. -/
structure Shortest (n : Nat) (body : Bytes) : Prop where
  value : signedBe body = n
  length_le : ∀ other, signedBe other = n → body.length ≤ other.length

theorem length_le_of_noSpareZero {k : Nat} (hspare : NoSpareZero body)
    (hfits : 2 * valueBe body < 256 ^ k) : body.length ≤ k := by
  rcases body with _ | ⟨byte, rest⟩
  · exact Nat.zero_le k
  · have hlow : 256 ^ rest.length ≤ 2 * valueBe (byte :: rest) := by
      by_cases hbyte : byte = 0
      · subst hbyte
        have hset := hspare rest rfl
        rw [topBitClear_iff] at hset
        rw [valueBe_zero_cons]
        omega
      · have hpow := pow_le_valueBe_cons rest hbyte
        omega
    exact (Nat.pow_lt_pow_iff_right (by decide)).mp (hlow.trans_lt hfits)

theorem shortest_iff :
    Shortest n body ↔ valueBe body = n ∧ TopBitClear body ∧ NoSpareZero body := by
  constructor
  · rintro ⟨hvalue, hshort⟩
    obtain ⟨hplain, hclear⟩ := signedBe_eq_iff.mp hvalue
    refine ⟨hplain, hclear, ?_⟩
    rintro rest rfl hrest
    -- without the zero the same number would take one byte less
    have hless := hshort rest (signedBe_eq_iff.mpr ⟨by simpa using hplain, hrest⟩)
    rw [List.length_cons] at hless
    omega
  · rintro ⟨hplain, hclear, hspare⟩
    refine ⟨signedBe_eq_iff.mpr ⟨hplain, hclear⟩, ?_⟩
    intro other hother
    obtain ⟨hsame, hfits⟩ := signedBe_eq_iff.mp hother
    rw [topBitClear_iff, hsame, ← hplain] at hfits
    exact length_le_of_noSpareZero hspare hfits

theorem Shortest.length_le_iff (hshort : Shortest n body) (k : Nat) :
    body.length ≤ k ↔ 2 * n < 256 ^ k := by
  obtain ⟨rfl, hclear, hspare⟩ := shortest_iff.mp hshort
  constructor
  · intro hle
    exact (topBitClear_iff.mp hclear).trans_le (Nat.pow_le_pow_right (by decide) hle)
  · exact length_le_of_noSpareZero hspare

theorem Shortest.unique {other : Bytes} (hbody : Shortest n body) (hother : Shortest n other) :
    body = other := by
  apply eq_of_valueBe_eq
  · exact le_antisymm (hbody.length_le other hother.value) (hother.length_le body hbody.value)
  · rw [(shortest_iff.mp hbody).1, (shortest_iff.mp hother).1]

theorem shortest_zero_iff : Shortest 0 body ↔ body = [] := by
  constructor
  · intro hshort
    exact List.length_eq_zero_iff.mp (Nat.le_zero.mp (hshort.length_le [] rfl))
  · rintro rfl
    exact ⟨rfl, fun _ _ => Nat.zero_le _⟩

end SwiftSsh.BigEndian
