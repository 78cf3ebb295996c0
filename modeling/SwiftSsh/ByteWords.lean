import Mathlib.Data.List.Basic
import Mathlib.Tactic.NormNum

namespace SwiftSsh.ByteWords

/-- Byte strings. -/
abbrev Bytes := List UInt8

/-- The four big-endian bytes of a 32-bit word. -/
def be32 (n : UInt32) : Bytes :=
  [(n >>> 24).toUInt8, (n >>> 16).toUInt8, (n >>> 8).toUInt8, n.toUInt8]

/-- The 32-bit word with the given big-endian bytes. -/
def ofBe32 (a b c d : UInt8) : UInt32 :=
  UInt32.ofNat (a.toNat * 16777216 + b.toNat * 65536 + c.toNat * 256 + d.toNat)

@[simp] theorem be32_length (n : UInt32) : (be32 n).length = 4 := rfl

theorem ofBe32_toNat (a b c d : UInt8) :
    (ofBe32 a b c d).toNat =
      a.toNat * 16777216 + b.toNat * 65536 + c.toNat * 256 + d.toNat := by
  have ha := a.toNat_lt
  have hb := b.toNat_lt
  have hc := c.toNat_lt
  have hd := d.toNat_lt
  rw [ofBe32, UInt32.toNat_ofNat']
  omega

theorem ofBe32_be32 (n : UInt32) :
    ofBe32 (n >>> 24).toUInt8 (n >>> 16).toUInt8 (n >>> 8).toUInt8 n.toUInt8 = n := by
  apply UInt32.toNat_inj.mp
  have hn := n.toNat_lt
  rw [ofBe32_toNat]
  simp [Nat.shiftRight_eq_div_pow]
  omega

theorem be32_ofBe32 (a b c d : UInt8) : be32 (ofBe32 a b c d) = [a, b, c, d] := by
  have ha := a.toNat_lt
  have hb := b.toNat_lt
  have hc := c.toNat_lt
  have hd := d.toNat_lt
  have hvalue := ofBe32_toNat a b c d
  simp only [be32, List.cons.injEq, and_true, ← UInt8.toNat_inj,
    UInt32.toNat_toUInt8, UInt32.toNat_shiftRight, Nat.shiftRight_eq_div_pow,
    UInt32.reduceToNat, Nat.reduceMod, Nat.reducePow]
  omega

theorem be32_injective : Function.Injective be32 := by
  intro m n heq
  simp only [be32, List.cons.injEq, and_true] at heq
  obtain ⟨ha, hb, hc, hd⟩ := heq
  rw [← ofBe32_be32 m, ← ofBe32_be32 n, ha, hb, hc, hd]

/-- The eight big-endian bytes of a 64-bit word. -/
def be64 (n : UInt64) : Bytes :=
  be32 (n >>> 32).toUInt32 ++ be32 n.toUInt32

/-- The 64-bit word with the given big-endian halves. -/
def ofBe64 (high low : UInt32) : UInt64 :=
  UInt64.ofNat (high.toNat * 4294967296 + low.toNat)

@[simp] theorem be64_length (n : UInt64) : (be64 n).length = 8 := rfl

theorem ofBe64_be64 (n : UInt64) : ofBe64 (n >>> 32).toUInt32 n.toUInt32 = n := by
  apply UInt64.toNat_inj.mp
  have hn := n.toNat_lt
  simp [ofBe64, Nat.shiftRight_eq_div_pow]
  omega

theorem be64_ofBe64 (high low : UInt32) : be64 (ofBe64 high low) = be32 high ++ be32 low := by
  have hhigh := high.toNat_lt
  have hlow := low.toNat_lt
  have hvalue : (ofBe64 high low).toNat = high.toNat * 4294967296 + low.toNat := by
    rw [ofBe64, UInt64.toNat_ofNat', Nat.mod_eq_of_lt (by omega)]
  have hupper : (ofBe64 high low >>> 32).toUInt32 = high := by
    apply UInt32.toNat_inj.mp
    simp [hvalue, Nat.shiftRight_eq_div_pow]
    omega
  have hlower : (ofBe64 high low).toUInt32 = low := by
    apply UInt32.toNat_inj.mp
    simp [hvalue]
  rw [be64, hupper, hlower]

end SwiftSsh.ByteWords
