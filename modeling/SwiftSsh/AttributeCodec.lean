import SwiftSsh.SftpHandler
import SwiftSsh.WireGrammar

namespace SwiftSsh.AttributeCodec

open SwiftSsh.ByteWords
open SwiftSsh.RustOutcome
open SwiftSsh.ReaderLaws
open SwiftSsh.WireTypes
open SwiftSsh.WireBuffer
open SwiftSsh.WireGrammar
open SwiftSsh.FileSystem
open SwiftSsh.SftpProtocol
open SwiftSsh.SftpHandler

/-- Each flag is set exactly when the fields it announces are there. -/
structure WellFormed (attrs : FileAttrs) : Prop where
  size : (attrs.flags &&& sshFilexferAttrSize != 0) = attrs.size.isSome
  uid : (attrs.flags &&& sshFilexferAttrUidgid != 0) = attrs.uid.isSome
  gid : (attrs.flags &&& sshFilexferAttrUidgid != 0) = attrs.gid.isSome
  permissions : (attrs.flags &&& sshFilexferAttrPermissions != 0) = attrs.permissions.isSome
  atime : (attrs.flags &&& sshFilexferAttrAcmodtime != 0) = attrs.atime.isSome
  mtime : (attrs.flags &&& sshFilexferAttrAcmodtime != 0) = attrs.mtime.isSome

/-- The bytes of a field that may be missing. -/
def writeField {α : Type} (write : α → Bytes) : Option α → Bytes
  | some value => write value
  | none => []

theorem encodePair_eq {first second : Option UInt32} (hboth : first.isSome = second.isSome) :
    encodePair first second = writeField writeU32 first ++ writeField writeU32 second := by
  cases first <;> cases second <;> simp_all [encodePair, writeField]

theorem encode_of_wellFormed {attrs : FileAttrs} (hwell : WellFormed attrs) :
    attrs.encode = writeU32 attrs.flags ++ (writeField be64 attrs.size ++
      (writeField writeU32 attrs.uid ++ (writeField writeU32 attrs.gid ++
        (writeField writeU32 attrs.permissions ++ (writeField writeU32 attrs.atime ++
          writeField writeU32 attrs.mtime))))) := by
  have howner := encodePair_eq (hwell.uid.symm.trans hwell.gid)
  have htimes := encodePair_eq (hwell.atime.symm.trans hwell.mtime)
  obtain ⟨flags, size, uid, gid, permissions, atime, mtime⟩ := attrs
  dsimp only at howner htimes
  rw [FileAttrs.encode, howner, htimes]
  cases size <;> cases permissions <;> simp [writeField, List.append_assoc]

theorem reads_readWhen {α : Type} {reader : Cursor α} {write : α → Bytes} {value : Option α}
    {present : Bool} (hpresent : present = value.isSome)
    (hreads : ∀ value, Reads reader (write value) value) :
    Reads (readWhen present reader) (writeField write value) value := by
  cases value with
  | none =>
      rw [hpresent]
      exact Reads.pure none
  | some value =>
      rw [hpresent]
      exact (hreads value).map some

theorem accepts_readWhen {α : Type} {reader : Cursor α} {write : α → Bytes} (present : Bool)
    (haccepts : Accepts reader fun value bytes => bytes = write value) :
    Accepts (readWhen present reader) fun value bytes =>
      bytes = writeField write value ∧ present = value.isSome := by
  cases present with
  | false => exact Accepts.pure ⟨rfl, rfl⟩
  | true =>
      refine haccepts.bind fun value => ?_
      apply Accepts.pure
      rintro _ rfl
      exact ⟨List.append_nil _, rfl⟩

theorem reads_decode {attrs : FileAttrs} (hwell : WellFormed attrs) :
    Reads FileAttrs.decode attrs.encode attrs := by
  rw [encode_of_wellFormed hwell]
  have hword := fun n => reads_cursorReadU32 (.invalidPacket "Failed to read u32") n
  refine (hword attrs.flags).bind ?_
  refine (reads_readWhen hwell.size fun n => reads_cursorReadU64 _ n).bind ?_
  refine (reads_readWhen hwell.uid hword).bind ?_
  refine (reads_readWhen hwell.gid hword).bind ?_
  refine (reads_readWhen hwell.permissions hword).bind ?_
  refine (reads_readWhen hwell.atime hword).bind ?_
  exact (reads_readWhen hwell.mtime hword).map _

theorem accepts_decode :
    Accepts FileAttrs.decode fun attrs bytes => WellFormed attrs ∧ bytes = attrs.encode := by
  have hword := accepts_cursorReadU32 (.invalidPacket "Failed to read u32")
  refine hword.bind fun flags => ?_
  refine (accepts_readWhen _ (accepts_cursorReadU64 _)).bind fun size => ?_
  refine (accepts_readWhen _ hword).bind fun uid => ?_
  refine (accepts_readWhen _ hword).bind fun gid => ?_
  refine (accepts_readWhen _ hword).bind fun permissions => ?_
  refine (accepts_readWhen _ hword).bind fun atime => ?_
  refine (accepts_readWhen _ hword).bind fun mtime => ?_
  apply Accepts.pure
  rintro _ ⟨rfl, hmtime⟩ _ ⟨rfl, hatime⟩ _ ⟨rfl, hpermissions⟩ _ ⟨rfl, hgid⟩ _ ⟨rfl, huid⟩
    _ ⟨rfl, hsize⟩ _ rfl
  have hwell : WellFormed ⟨flags, size, uid, gid, permissions, atime, mtime⟩ :=
    ⟨hsize, huid, hgid, hpermissions, hatime, hmtime⟩
  refine ⟨hwell, ?_⟩
  rw [encode_of_wellFormed hwell, List.append_nil]
  rfl

theorem wellFormed_default : WellFormed FileAttrs.default := by
  constructor <;> rfl

theorem wellFormed_metadataToAttrs (data : Metadata) : WellFormed (metadataToAttrs data) := by
  constructor <;> simp only [metadataToAttrs, Option.isSome_some, Option.isSome_none] <;> decide

/-- Attributes survive their encoding exactly when their flags are right, decoding only
makes such attributes and takes exactly their encoding, and the handler only makes such
attributes. -/
theorem attributes_codec :
    (∀ attrs, WellFormed attrs ↔
      ∀ tail, FileAttrs.decode (attrs.encode ++ tail) = .ok (attrs, tail)) ∧
    (∀ input attrs rest, FileAttrs.decode input = .ok (attrs, rest) →
      WellFormed attrs ∧ input = attrs.encode ++ rest) ∧
    WellFormed FileAttrs.default ∧ ∀ data, WellFormed (metadataToAttrs data) := by
  refine ⟨?_, ?_, wellFormed_default, wellFormed_metadataToAttrs⟩
  · intro attrs
    constructor
    · exact reads_decode
    · intro hround
      obtain ⟨-, -, hwell, -⟩ := accepts_decode _ attrs [] (hround [])
      exact hwell
  · intro input attrs rest hread
    obtain ⟨bytes, hinput, hwell, rfl⟩ := accepts_decode input attrs rest hread
    exact ⟨hwell, hinput⟩

theorem attributes_codec_sample :
    WellFormed ⟨0x80000001, some 7, none, none, none, none, none⟩ ∧
      [0x80, 0, 0, 1, 0, 0, 0, 0, 0, 0, 0, 7, 9] =
        FileAttrs.encode ⟨0x80000001, some 7, none, none, none, none, none⟩ ++ [9] :=
  attributes_codec.2.1 _ _ _ (by decide)

section Listing

/-- Read an entry of a listing: its name, its long name and its attributes. -/
def readEntry : Cursor (String × String × FileAttrs) := do
  let name ← readUtf8
  let longName ← readUtf8
  let attrs ← FileAttrs.decode
  return (name, longName, attrs)

/-- Read the data of a NAME response. -/
def readListing : Cursor (List (String × String × FileAttrs)) := do
  let count ← readU32
  readMany readEntry count.toNat

/-- The attributes that the handler puts into listings. -/
def Produced (attrs : FileAttrs) : Prop :=
  attrs = FileAttrs.default ∨ ∃ data, attrs = metadataToAttrs data

theorem Produced.wellFormed {attrs : FileAttrs} (hproduced : Produced attrs) :
    WellFormed attrs := by
  rcases hproduced with rfl | ⟨data, rfl⟩
  · exact wellFormed_default
  · exact wellFormed_metadataToAttrs data

theorem reads_readEntry {name : String} {attrs : FileAttrs}
    (hname : (utf8 name).length ≤ maxPacketSize) (hwell : WellFormed attrs) :
    Reads readEntry (writeUtf8 name ++ writeUtf8 name ++ attrs.encode) (name, name, attrs) := by
  rw [List.append_assoc]
  refine (reads_readUtf8 hname).bind ?_
  refine (reads_readUtf8 hname).bind ?_
  exact (reads_decode hwell).map _

theorem reads_readListing {requestId : UInt32} {entries : List (String × FileAttrs)}
    (hcount : entries.length < 2 ^ 32)
    (hentries : ∀ entry ∈ entries,
      (utf8 entry.1).length ≤ maxPacketSize ∧ WellFormed entry.2) :
    Reads readListing (buildSftpName requestId entries).data
      (entries.map fun entry => (entry.1, entry.1, entry.2)) := by
  refine (reads_cursorReadU32 _ _).bind ?_
  rw [UInt32.toNat_ofNat', Nat.mod_eq_of_lt hcount]
  apply reads_readMany
  intro entry hentry
  obtain ⟨hname, hwell⟩ := hentries entry hentry
  exact reads_readEntry hname hwell

/-- A listing is read back entry by entry, from the response as it is sent. -/
theorem listing_decodes (requestId : UInt32) (entries : List (String × FileAttrs))
    (hcount : entries.length < 2 ^ 32)
    (hnames : ∀ entry ∈ entries, (utf8 entry.1).length ≤ maxPacketSize)
    (hattrs : ∀ entry ∈ entries, Produced entry.2) :
    ∃ packet, SftpPacket.decode ((buildSftpName requestId entries).encode.drop 4) = .ok packet ∧
      packet.packetType = sshFxpName ∧ packet.requestId = requestId ∧
      readListing packet.data =
        .ok (entries.map fun entry => (entry.1, entry.1, entry.2), []) := by
  refine ⟨buildSftpName requestId entries, ?_, rfl, rfl, ?_⟩
  · rw [encode_eq]
    exact decode_cons _ _ _
  · have hreads := @reads_readListing requestId entries hcount fun entry hentry =>
      ⟨hnames entry hentry, (hattrs entry hentry).wellFormed⟩
    have hread := hreads []
    rwa [List.append_nil] at hread

/-- An entry whose attributes could not be read, and a directory. -/
def sampleEntries : List (String × FileAttrs) :=
  [("lost", FileAttrs.default), ("d", metadataToAttrs ⟨true, ⟨4096, 0x41ed, 1000, 1000⟩⟩)]

theorem listing_decodes_sample :
    ∃ packet, SftpPacket.decode ((buildSftpName 3 sampleEntries).encode.drop 4) = .ok packet ∧
      packet.packetType = sshFxpName ∧ packet.requestId = 3 ∧
      readListing packet.data =
        .ok (sampleEntries.map fun entry => (entry.1, entry.1, entry.2), []) := by
  apply listing_decodes 3 sampleEntries (by decide) (by decide)
  intro entry hentry
  rcases List.mem_pair.mp hentry with rfl | rfl
  · exact Or.inl rfl
  · exact Or.inr ⟨_, rfl⟩

end Listing

end SwiftSsh.AttributeCodec
