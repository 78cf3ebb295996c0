import SwiftSsh.ByteWords

namespace SwiftSsh.StreamCipher

open SwiftSsh.ByteWords

/-- Combine data with the keystream from a position on. -/
def xorKeystream (keystream : Nat → UInt8) : Nat → Bytes → Bytes
  | _, [] => []
  | position, byte :: rest =>
      (byte ^^^ keystream position) :: xorKeystream keystream (position + 1) rest

@[simp] theorem xorKeystream_length (keystream : Nat → UInt8) (position : Nat)
    (data : Bytes) : (xorKeystream keystream position data).length = data.length := by
  induction data generalizing position with
  | nil => rfl
  | cons byte rest ih => simp [xorKeystream, ih]

theorem xorKeystream_append (keystream : Nat → UInt8) (position : Nat)
    (first second : Bytes) :
    xorKeystream keystream position (first ++ second) =
      xorKeystream keystream position first ++
        xorKeystream keystream (position + first.length) second := by
  induction first generalizing position with
  | nil => simp [xorKeystream]
  | cons byte rest ih =>
      simp only [List.cons_append, xorKeystream, ih, List.length_cons]
      rw [Nat.add_assoc, Nat.add_comm 1]

theorem xorKeystream_xorKeystream (keystream : Nat → UInt8) (position : Nat)
    (data : Bytes) :
    xorKeystream keystream position (xorKeystream keystream position data) = data := by
  induction data generalizing position with
  | nil => rfl
  | cons byte rest ih =>
      simp only [xorKeystream, ih, UInt8.xor_assoc, UInt8.xor_self, UInt8.xor_zero]

end SwiftSsh.StreamCipher
