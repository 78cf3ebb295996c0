import SwiftSsh.WireTypes

namespace SwiftSsh.WireBuffer

open SwiftSsh.ByteWords
open SwiftSsh.RustOutcome
open SwiftSsh.WireTypes

/-- A cursor over a byte slice. The state is the unread part. -/
abbrev Cursor := StateT Bytes (Outcome SshError)

@[simp] theorem cursor_pure {α : Type} (value : α) (rest : Bytes) :
    (pure value : Cursor α) rest = .ok (value, rest) :=
  rfl

@[simp] theorem cursor_bind {α β : Type} (reader : Cursor α) (next : α → Cursor β)
    (rest : Bytes) :
    (reader >>= next) rest = (reader rest >>= fun p => next p.1 p.2) :=
  rfl

theorem cursor_bind_ok {α β : Type} {reader : Cursor α} (next : α → Cursor β)
    {input rest : Bytes} {value : α} (hread : reader input = .ok (value, rest)) :
    (reader >>= next) input = next value rest := by
  rw [cursor_bind, hread, Outcome.ok_bind]

/-- End with an error. -/
def cursorFail {α : Type} (error : SshError) : Cursor α := fun _ => .err error

/-- `read_exact` on a cursor. -/
def cursorReadExact (error : SshError) (count : Nat) : Cursor Bytes := fun rest =>
  if count ≤ rest.length then .ok (rest.take count, rest.drop count) else .err error

/-- One byte. -/
def cursorReadU8 (error : SshError) : Cursor UInt8 := fun rest =>
  match rest with
  | byte :: rest => .ok (byte, rest)
  | [] => .err error

/-- Four bytes, the highest first. -/
def cursorReadU32 (error : SshError) : Cursor UInt32 := fun rest =>
  match rest with
  | a :: b :: c :: d :: rest => .ok (ofBe32 a b c d, rest)
  | _ => .err error

/-- Eight bytes, the highest first. -/
def cursorReadU64 (error : SshError) : Cursor UInt64 := do
  let high ← cursorReadU32 error
  let low ← cursorReadU32 error
  return ofBe64 high low

@[simp] theorem cursorReadExact_append (error : SshError) (bytes rest : Bytes) :
    cursorReadExact error bytes.length (bytes ++ rest) = .ok (bytes, rest) := by
  simp [cursorReadExact]

@[simp] theorem cursorReadU8_cons (error : SshError) (byte : UInt8) (rest : Bytes) :
    cursorReadU8 error (byte :: rest) = .ok (byte, rest) :=
  rfl

@[simp] theorem cursorReadU32_be32 (error : SshError) (n : UInt32) (rest : Bytes) :
    cursorReadU32 error (be32 n ++ rest) = .ok (n, rest) := by
  simp [cursorReadU32, be32, ofBe32_be32]

@[simp] theorem cursorReadU64_be64 (error : SshError) (n : UInt64) (rest : Bytes) :
    cursorReadU64 error (be64 n ++ rest) = .ok (n, rest) := by
  simp [cursorReadU64, be64, List.append_assoc, ofBe64_be64]

/-- The bytes of a string. -/
def utf8 (s : String) : Bytes :=
  s.toUTF8.data.toList

/-- The string with the given bytes, when they are valid UTF-8. -/
def fromUtf8 (bytes : Bytes) : Option String :=
  String.fromUTF8? ⟨bytes.toArray⟩

@[simp] theorem fromUtf8_utf8 (s : String) : fromUtf8 (utf8 s) = some s := by
  simp only [fromUtf8, utf8, String.fromUTF8?, Array.toArray_toList]
  exact dif_pos s.isValidUTF8

theorem utf8_of_fromUtf8 {bytes : Bytes} {s : String} (hsome : fromUtf8 bytes = some s) :
    utf8 s = bytes := by
  rw [fromUtf8, String.fromUTF8?] at hsome
  split at hsome
  · cases hsome
    simp [utf8, String.fromUTF8]
  · cases hsome

theorem utf8_injective : Function.Injective utf8 := by
  intro first second heq
  have hsome := congrArg fromUtf8 heq
  rw [fromUtf8_utf8, fromUtf8_utf8] at hsome
  exact Option.some.inj hsome

theorem utf8_append (s t : String) : utf8 (s ++ t) = utf8 s ++ utf8 t := by
  simp only [utf8, String.toUTF8, String.toByteArray_append, ByteArray.data_append,
    Array.toList_append]

/-- Bytes with their length in front. -/
def writeString (data : Bytes) : Bytes :=
  be32 (UInt32.ofNat data.length) ++ data

/-- The bytes of a text with their length in front. -/
def writeUtf8 (s : String) : Bytes :=
  writeString (utf8 s)

/-- A comma-separated list of names. -/
def writeNameList (names : List String) : Bytes :=
  writeUtf8 (String.intercalate "," names)

/-- A boolean as one byte. -/
def writeBool (val : Bool) : Bytes :=
  [if val then 1 else 0]

/-- A word as four bytes. -/
def writeU32 (val : UInt32) : Bytes :=
  be32 val

/-- One byte. -/
def writeU8 (val : UInt8) : Bytes :=
  [val]

/-- The bytes from the first non-zero one on; a single zero byte when there is
none. -/
def stripLeadingZeros (val : Bytes) : Bytes :=
  match val.dropWhile (· = 0) with
  | [] => [0]
  | stripped => stripped

/-- A multi-precision integer given by its big-endian bytes. -/
def writeMpint (val : Bytes) : Bytes :=
  let stripped := stripLeadingZeros val
  if stripped.headD 0 &&& 0x80 ≠ 0 then
    be32 (UInt32.ofNat (stripped.length + 1)) ++ [0] ++ stripped
  else
    be32 (UInt32.ofNat stripped.length) ++ stripped

@[simp] theorem writeString_length (data : Bytes) :
    (writeString data).length = 4 + data.length := by
  rw [writeString, List.length_append, be32_length]

@[simp] theorem writeUtf8_length (s : String) :
    (writeUtf8 s).length = 4 + (utf8 s).length :=
  writeString_length _

@[simp] theorem writeU32_length (val : UInt32) : (writeU32 val).length = 4 :=
  rfl

@[simp] theorem writeBool_length (val : Bool) : (writeBool val).length = 1 :=
  rfl

/-- A string of at most the size limit. -/
def readString : Cursor Bytes := do
  let len ← cursorReadU32 (.invalidPacket "Failed to read string length")
  if len.toNat > maxPacketSize then
    cursorFail (.invalidPacket "String too long")
  else
    cursorReadExact (.invalidPacket "Truncated string") len.toNat

/-- A string that is text. Bytes that are not UTF-8 are an error. -/
def readUtf8 : Cursor String := do
  let data ← readString
  match fromUtf8 data with
  | some s => return s
  | none => cursorFail (.invalidPacket "Invalid UTF-8 string")

/-- Names between commas. An empty text is no name. -/
def readNameList : Cursor (List String) := do
  let s ← readUtf8
  if s.isEmpty then return []
  else return (s.toList.splitOn ',').map String.ofList

/-- Every byte but zero is true. -/
def readBool : Cursor Bool := do
  let b ← cursorReadU8 (.invalidPacket "Failed to read bool")
  return b != 0

/-- A word. -/
def readU32 : Cursor UInt32 :=
  cursorReadU32 (.invalidPacket "Failed to read u32")

/-- A multi-precision integer is read like a string. -/
def readMpint : Cursor Bytes :=
  readString

/-- Read the fields of a payload and ignore what follows them. -/
def parse {α : Type} (reader : Cursor α) (payload : Bytes) : Outcome SshError α := do
  let (value, _) ← reader payload
  return value

theorem parse_eq_ok {α : Type} {reader : Cursor α} {payload rest : Bytes} {value : α}
    (hread : reader payload = .ok (value, rest)) : parse reader payload = .ok value := by
  rw [parse, hread]
  rfl

/-- A reader that fails does so because of the packet. -/
def RejectsInvalid {α : Type} (reader : Cursor α) : Prop :=
  ∀ input error, reader input = .err error → ∃ message, error = .invalidPacket message

theorem RejectsInvalid.pure {α : Type} (value : α) :
    RejectsInvalid (pure value : Cursor α) := by
  intro input error herr
  cases herr

theorem RejectsInvalid.bind {α β : Type} {reader : Cursor α} {next : α → Cursor β}
    (hreader : RejectsInvalid reader) (hnext : ∀ value, RejectsInvalid (next value)) :
    RejectsInvalid (reader >>= next) := by
  intro input error herr
  rw [cursor_bind] at herr
  cases hread : reader input with
  | ok p =>
      rw [hread, Outcome.ok_bind] at herr
      exact hnext p.1 p.2 error herr
  | err first =>
      rw [hread, Outcome.err_bind] at herr
      cases herr
      exact hreader input _ hread
  | panic =>
      rw [hread] at herr
      cases herr

theorem rejectsInvalid_cursorFail {α : Type} (message : String) :
    RejectsInvalid (cursorFail (.invalidPacket message) : Cursor α) := by
  intro input error herr
  cases herr
  exact ⟨message, rfl⟩

theorem rejectsInvalid_cursorReadU8 (message : String) :
    RejectsInvalid (cursorReadU8 (.invalidPacket message)) := by
  intro input error herr
  unfold cursorReadU8 at herr
  split at herr <;> cases herr
  exact ⟨message, rfl⟩

theorem rejectsInvalid_cursorReadU32 (message : String) :
    RejectsInvalid (cursorReadU32 (.invalidPacket message)) := by
  intro input error herr
  unfold cursorReadU32 at herr
  split at herr <;> cases herr
  exact ⟨message, rfl⟩

theorem rejectsInvalid_cursorReadExact (message : String) (count : Nat) :
    RejectsInvalid (cursorReadExact (.invalidPacket message) count) := by
  intro input error herr
  rw [cursorReadExact] at herr
  split at herr <;> cases herr
  exact ⟨message, rfl⟩

theorem rejectsInvalid_readU32 : RejectsInvalid readU32 :=
  rejectsInvalid_cursorReadU32 _

theorem rejectsInvalid_readBool : RejectsInvalid readBool :=
  (rejectsInvalid_cursorReadU8 _).bind fun _ => .pure _

theorem rejectsInvalid_readString : RejectsInvalid readString := by
  refine (rejectsInvalid_cursorReadU32 _).bind fun len => ?_
  split
  · exact rejectsInvalid_cursorFail _
  · exact rejectsInvalid_cursorReadExact _ _

theorem rejectsInvalid_readUtf8 : RejectsInvalid readUtf8 := by
  refine rejectsInvalid_readString.bind fun data => ?_
  split
  · exact .pure _
  · exact rejectsInvalid_cursorFail _

theorem parse_eq_err {α : Type} {reader : Cursor α} (hreader : RejectsInvalid reader)
    {payload : Bytes} {error : SshError} (herr : parse reader payload = .err error) :
    ∃ message, error = .invalidPacket message := by
  cases hread : reader payload with
  | ok p =>
      rw [parse, hread] at herr
      cases herr
  | err first =>
      rw [parse, hread] at herr
      cases herr
      exact hreader payload _ hread
  | panic =>
      rw [parse, hread] at herr
      cases herr

theorem toNat_ofNat_of_le_maxPacketSize {n : Nat} (hn : n ≤ maxPacketSize) :
    (UInt32.ofNat n).toNat = n := by
  rw [UInt32.toNat_ofNat', Nat.mod_eq_of_lt]
  have hmax : maxPacketSize < 2 ^ 32 := by decide
  omega

theorem readString_writeString {data : Bytes} (rest : Bytes)
    (hlength : data.length ≤ maxPacketSize) :
    readString (writeString data ++ rest) = .ok (data, rest) := by
  have hnat := toNat_ofNat_of_le_maxPacketSize hlength
  simp only [readString, writeString, List.append_assoc, cursor_bind,
    cursorReadU32_be32, Outcome.ok_bind, hnat]
  rw [if_neg (by omega)]
  exact cursorReadExact_append _ data rest

theorem readUtf8_writeUtf8 {s : String} (rest : Bytes)
    (hlength : (utf8 s).length ≤ maxPacketSize) :
    readUtf8 (writeUtf8 s ++ rest) = .ok (s, rest) := by
  simp [readUtf8, writeUtf8, readString_writeString rest hlength]

@[simp] theorem readBool_writeBool (val : Bool) (rest : Bytes) :
    readBool (writeBool val ++ rest) = .ok (val, rest) := by
  cases val <;> simp [readBool, writeBool]

@[simp] theorem readU32_writeU32 (val : UInt32) (rest : Bytes) :
    readU32 (writeU32 val ++ rest) = .ok (val, rest) := by
  simp [readU32, writeU32]

end SwiftSsh.WireBuffer
