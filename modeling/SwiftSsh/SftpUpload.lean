import SwiftSsh.SftpHandler

namespace SwiftSsh.SftpUpload

open SwiftSsh.ByteWords
open SwiftSsh.RustOutcome
open SwiftSsh.WireTypes
open SwiftSsh.WireBuffer
open SwiftSsh.FileTree
open SwiftSsh.FileSystem
open SwiftSsh.SftpPaths
open SwiftSsh.SftpProtocol
open SwiftSsh.SftpHandler

/-- Data for a WRITE request. Its length fits the length field of a string. -/
structure Chunk where
  requestId : UInt32
  offset : UInt64
  data : Bytes
  fits : data.length < 2 ^ 32

/-- What a client does to store a file. The texts of its requests fit their length fields. -/
structure Upload where
  openId : UInt32
  closeId : UInt32
  path : String
  fits : (utf8 path).length < 2 ^ 32
  attrs : Bytes
  chunks : List Chunk

/-- The flags of a client that stores a file. -/
def uploadFlags : UInt32 :=
  sshFxfWrite ||| sshFxfCreat ||| sshFxfTrunc

/-- The OPEN of an upload. -/
def openRequest (upload : Upload) : SftpPacket :=
  ⟨sshFxpOpen, upload.openId, writeUtf8 upload.path ++ writeU32 uploadFlags ++ upload.attrs⟩

/-- A WRITE through a handle. -/
def writeRequest (handle : Bytes) (chunk : Chunk) : SftpPacket :=
  ⟨sshFxpWrite, chunk.requestId,
    writeString handle ++ be64 chunk.offset ++ writeString chunk.data⟩

/-- A CLOSE of a handle. -/
def closeRequest (handle : Bytes) (requestId : UInt32) : SftpPacket :=
  ⟨sshFxpClose, requestId, writeString handle⟩

/-- The handle carried by a HANDLE response. -/
def handleOf (response : SftpPacket) : Bytes :=
  match parse readString response.data with
  | .ok handle => handle
  | _ => []

/-- The requests of an upload, with the handle its OPEN returned. -/
def runUpload (os : Os Name) (handler : Handler) (world : World Name) (upload : Upload) :
    ServedAll :=
  let opened := handleRequest os handler world (openRequest upload)
  let handle := handleOf opened.response
  let later := serveAll os opened.handler opened.world
    (upload.chunks.map (writeRequest handle) ++ [closeRequest handle upload.closeId])
  ⟨opened.response :: later.responses, later.handler, later.world⟩

/-- A HANDLE response or a STATUS response with the code for success. -/
def Succeeded (response : SftpPacket) : Prop :=
  response.packetType = sshFxpHandle ∨
    (response.packetType = sshFxpStatus ∧ parse readU32 response.data = .ok sshFxOk)

instance (response : SftpPacket) : Decidable (Succeeded response) :=
  inferInstanceAs (Decidable (_ ∨ _))

/-- The effect of one write on content. -/
def applyWrite (content : Bytes) (chunk : Chunk) : Bytes :=
  if chunk.data = [] then content else overwrite content chunk.offset.toNat chunk.data

/-- The content that the writes of an upload describe. -/
def uploaded (chunks : List Chunk) : Bytes :=
  chunks.foldl applyWrite []

theorem succeeded_status_iff (requestId code : UInt32) (message : String) :
    Succeeded (buildSftpStatus requestId code message) ↔ code = sshFxOk := by
  rw [Succeeded, parse_buildSftpStatus]
  constructor
  · rintro (htype | ⟨-, hcode⟩)
    · exact absurd htype (by change ¬ sshFxpStatus = sshFxpHandle; decide)
    · exact Outcome.ok.inj hcode
  · rintro rfl
    exact Or.inr ⟨rfl, rfl⟩

theorem not_succeeded_failure (requestId : UInt32) (message : String) :
    ¬ Succeeded (buildSftpStatus requestId sshFxFailure message) := by
  rw [succeeded_status_iff]
  decide

theorem not_succeeded_denied (requestId : UInt32) (message : String) :
    ¬ Succeeded (buildSftpStatus requestId sshFxPermissionDenied message) := by
  rw [succeeded_status_iff]
  decide

theorem readString_writeString_cases {data : Bytes} (rest : Bytes)
    (hfits : data.length < 2 ^ 32) :
    readString (writeString data ++ rest) = .ok (data, rest) ∨
      ∃ error, readString (writeString data ++ rest) = .err error := by
  by_cases hlength : data.length ≤ maxPacketSize
  · exact Or.inl (readString_writeString rest hlength)
  · right
    have hnat : (UInt32.ofNat data.length).toNat = data.length :=
      UInt32.toNat_ofNat_of_lt' hfits
    refine ⟨.invalidPacket "String too long", ?_⟩
    simp only [readString, writeString, List.append_assoc, cursor_bind,
      cursorReadU32_be32, Outcome.ok_bind, hnat]
    rw [if_pos (by omega)]
    rfl

section Write

variable {os : Os Name} {path : PathText Name} {location : List Name} {world : World Name}

/-- A path that leads to a place for a file. -/
structure Ready (os : Os Name) (path : PathText Name) (location : List Name)
    (tree : DirTree Name) : Prop where
  locate : locate tree os.linkLimit os.cwd .creating path = some location
  target : FileOrMissing tree location

/-- The place holds a file with the given content. -/
def HoldsFile (tree : DirTree Name) (location : List Name) (content : Bytes) : Prop :=
  ∃ attributes, tree.lookup location = some (.file content attributes)

/-- The content of a file, or none where there is no file. -/
def contentAt (tree : DirTree Name) (location : List Name) : Bytes :=
  match tree.lookup location with
  | some (.file content _) => content
  | _ => []

theorem HoldsFile.lookup_ne_none {tree : DirTree Name} {content : Bytes}
    (hholds : HoldsFile tree location content) : tree.lookup location ≠ none := by
  obtain ⟨attributes, hfile⟩ := hholds
  rw [hfile]
  exact Option.some_ne_none _

theorem ready_insert (hready : Ready os path location world.tree) (content : Bytes)
    (attributes : Attributes) :
    Ready os path location (world.tree.insert location (.file content attributes)) where
  locate := locate_insert_file hready.target hready.locate
  target := Or.inr ⟨content, attributes, AList.lookup_insert _⟩

theorem perform_some {access : Access Name} {tree : DirTree Name} {world' : World Name}
    (hperform : perform os access tree world = (some (), world')) : world'.tree = tree := by
  rw [perform] at hperform
  split at hperform
  · exact (congrArg World.tree (Prod.mk.inj hperform).2).symm
  · simp at hperform

/-- Opening for writing finds the file, emptied if that is asked for, or makes it. -/
theorem openWrite_some (hready : Ready os path location world.tree) {create truncate : Bool}
    (hcreate : world.tree.lookup location = none → create = true) {found : List Name}
    {opened : World Name}
    (hopen : openWrite os create truncate path world = (some found, opened)) :
    found = location ∧
      HoldsFile opened.tree location (if truncate then [] else contentAt world.tree location) ∧
      Ready os path location opened.tree := by
  have hlocate : locate world.tree os.linkLimit os.cwd
      (if create then .creating else .existing) path = some location := by
    cases create with
    | true => exact hready.locate
    | false =>
        refine locate_existing (fun hnone => ?_) hready.locate
        exact Bool.false_ne_true (hcreate hnone)
  have hfound : ∀ {access : Access Name} {tree : DirTree Name},
      ((perform os access tree world).1.map fun _ => location,
        (perform os access tree world).2) = (some found, opened) →
      found = location ∧ opened.tree = tree := by
    intro access tree heq
    obtain ⟨hmap, hworld⟩ := Prod.mk.inj heq
    obtain ⟨_, hsome, hlocation⟩ := Option.map_eq_some_iff.mp hmap
    exact ⟨hlocation.symm, perform_some (Prod.ext hsome hworld)⟩
  rw [openWrite, hlocate] at hopen
  dsimp only at hopen
  rw [contentAt]
  rcases hready.target with hnone | ⟨content, attributes, hfile⟩
  · rw [hnone] at hopen ⊢
    obtain ⟨hsame, htree⟩ := hfound hopen
    rw [htree, ite_self]
    exact ⟨hsame, ⟨_, AList.lookup_insert _⟩, ready_insert hready _ _⟩
  · rw [hfile] at hopen ⊢
    cases truncate with
    | true =>
        obtain ⟨hsame, htree⟩ := hfound hopen
        rw [htree]
        exact ⟨hsame, ⟨_, AList.lookup_insert _⟩, ready_insert hready _ _⟩
    | false =>
        obtain ⟨hsame, htree⟩ := hfound hopen
        rw [htree]
        exact ⟨hsame, ⟨attributes, hfile⟩, hready⟩

theorem holdsFile_writeAllAt {offset : UInt64} {data : Bytes} {written : World Name}
    {content : Bytes} {attributes : Attributes}
    (hfile : world.tree.lookup location = some (.file content attributes))
    (hready : Ready os path location world.tree)
    (hwrite : writeAllAt os location offset data world = (some (), written)) :
    HoldsFile written.tree location
        (if data = [] then content else overwrite content offset.toNat data) ∧
      Ready os path location written.tree := by
  rw [writeAllAt] at hwrite
  split at hwrite
  · rename_i hempty
    obtain rfl := (Prod.mk.inj hwrite).2
    rw [if_pos hempty]
    exact ⟨⟨attributes, hfile⟩, hready⟩
  · rename_i hdata
    rw [hfile] at hwrite
    rw [perform_some hwrite, if_neg hdata]
    exact ⟨⟨attributes, AList.lookup_insert _⟩, ready_insert hready _ _⟩

theorem holdsFile_writeFile (hready : Ready os path location world.tree) {flags : UInt32}
    (hcreates : world.tree.lookup location = none → (flags &&& sshFxfCreat != 0) = true)
    {chunk : Chunk} {requestId : UInt32}
    (hsuccess : Succeeded (writeFile os path flags chunk.offset chunk.data world requestId).1) :
    HoldsFile (writeFile os path flags chunk.offset chunk.data world requestId).2.tree location
        (applyWrite (if flags &&& sshFxfTrunc != 0 then [] else contentAt world.tree location)
          chunk) ∧
      Ready os path location
        (writeFile os path flags chunk.offset chunk.data world requestId).2.tree := by
  rw [writeFile] at hsuccess ⊢
  split at hsuccess
  · rename_i found opened hopen
    obtain ⟨rfl, ⟨attributes, hfile⟩, hopened⟩ := openWrite_some hready hcreates hopen
    split at hsuccess
    · exact absurd hsuccess (not_succeeded_failure _ _)
    · rename_i hseek
      split at hsuccess
      · rename_i written hwrite
        simp only [hseek]
        exact holdsFile_writeAllAt hfile hopened hwrite
      · exact absurd hsuccess (not_succeeded_failure _ _)
  · exact absurd hsuccess (not_succeeded_denied _ _)

end Write

section Run

variable {os : Os Name} {path : PathText Name} {location : List Name} {handler : Handler}
  {world : World Name} {handle : Bytes} {flags : UInt32}

theorem handleWrite_ok {pkt : SftpPacket} {rest rest' rest'' data : Bytes} {offset : UInt64}
    (hread : readString pkt.data = .ok (handle, rest))
    (hoffset : cursorReadU64 .io rest = .ok (offset, rest'))
    (hdata : readString rest' = .ok (data, rest''))
    (hlookup : handler.openFiles.lookup handle = some (path, flags))
    (hwrites : flags &&& sshFxfWrite ≠ 0) :
    handleWrite os handler world pkt =
      ⟨(writeFile os path flags offset data world pkt.requestId).1, handler,
        (writeFile os path flags offset data world pkt.requestId).2⟩ := by
  rw [handleWrite, hread]
  dsimp only
  rw [hoffset]
  dsimp only
  rw [hdata]
  dsimp only
  rw [hlookup]
  exact if_neg hwrites

theorem handleWrite_badData {pkt : SftpPacket} {rest rest' : Bytes} {offset : UInt64}
    {error : SshError} (hread : readString pkt.data = .ok (handle, rest))
    (hoffset : cursorReadU64 .io rest = .ok (offset, rest'))
    (hdata : readString rest' = .err error) :
    (handleWrite os handler world pkt).response =
      buildSftpStatus pkt.requestId sshFxFailure "Bad data" := by
  rw [handleWrite, hread]
  dsimp only
  rw [hoffset]
  dsimp only
  rw [hdata]

theorem handleRequest_write {pkt : SftpPacket} (htype : pkt.packetType = sshFxpWrite) :
    handleRequest os handler world pkt = handleWrite os handler world pkt := by
  have hoperation : operationOf sshFxpWrite = .write := by decide
  rw [handleRequest, htype, hoperation]

theorem serve_writeRequest {chunk : Chunk} (hhandle : handle.length ≤ maxPacketSize)
    (hlookup : handler.openFiles.lookup handle = some (path, flags))
    (hwrites : flags &&& sshFxfWrite ≠ 0)
    (hsuccess : Succeeded (handleRequest os handler world (writeRequest handle chunk)).response) :
    handleRequest os handler world (writeRequest handle chunk) =
      ⟨(writeFile os path flags chunk.offset chunk.data world chunk.requestId).1, handler,
        (writeFile os path flags chunk.offset chunk.data world chunk.requestId).2⟩ := by
  have hread : readString (writeRequest handle chunk).data =
      .ok (handle, be64 chunk.offset ++ writeString chunk.data) := by
    rw [writeRequest, List.append_assoc]
    exact readString_writeString _ hhandle
  have hoffset := cursorReadU64_be64 .io chunk.offset (writeString chunk.data)
  have hdata := readString_writeString_cases [] chunk.fits
  rw [List.append_nil] at hdata
  rw [handleRequest_write rfl] at hsuccess ⊢
  rcases hdata with hdata | ⟨error, hdata⟩
  · exact handleWrite_ok hread hoffset hdata hlookup hwrites
  · rw [handleWrite_badData hread hoffset hdata] at hsuccess
    exact absurd hsuccess (not_succeeded_failure _ _)

theorem handleClose_world (pkt : SftpPacket) :
    (handleClose handler world pkt).world = world := by
  rw [handleClose]
  split <;> rfl

theorem handleRequest_close {pkt : SftpPacket} (htype : pkt.packetType = sshFxpClose) :
    handleRequest os handler world pkt = handleClose handler world pkt := by
  have hoperation : operationOf sshFxpClose = .close := by decide
  rw [handleRequest, htype, hoperation]

theorem serve_closeRequest (requestId : UInt32) :
    (handleRequest os handler world (closeRequest handle requestId)).world = world := by
  rw [handleRequest_close rfl, handleClose_world]

/-- After the writes the place holds the last one alone, or is as it was when
there was none. -/
theorem serve_writes (hhandle : handle.length ≤ maxPacketSize)
    (hlookup : handler.openFiles.lookup handle = some (path, uploadFlags)) (requestId : UInt32)
    (chunks : List Chunk) (hready : Ready os path location world.tree)
    (hsuccess : ∀ response ∈ (serveAll os handler world
      (chunks.map (writeRequest handle) ++ [closeRequest handle requestId])).responses,
      Succeeded response) :
    match chunks.getLast? with
    | none => (serveAll os handler world
        (chunks.map (writeRequest handle) ++ [closeRequest handle requestId])).world = world
    | some last => HoldsFile (serveAll os handler world
        (chunks.map (writeRequest handle) ++ [closeRequest handle requestId])).world.tree
        location (applyWrite [] last) := by
  induction chunks generalizing world with
  | nil =>
      have hclose : (serveAll os handler world [closeRequest handle requestId]).world =
          world := by
        rw [serveAll_cons_world, serve_closeRequest, serveAll]
      exact hclose
  | cons chunk chunks ih =>
      rw [List.map_cons, List.cons_append, serveAll_cons_responses] at hsuccess
      have hfirst := hsuccess _ List.mem_cons_self
      have hserve := serve_writeRequest hhandle hlookup (by decide) hfirst
      rw [hserve] at hfirst hsuccess
      obtain ⟨hholds, hnext⟩ := holdsFile_writeFile hready (fun _ => by decide) hfirst
      rw [if_pos (by decide)] at hholds
      have hlater := ih hnext fun response hmem => hsuccess response (List.mem_cons_of_mem _ hmem)
      rw [List.map_cons, List.cons_append, serveAll_cons_world, hserve, List.getLast?_cons]
      cases hlast : chunks.getLast? with
      | none =>
          obtain rfl := List.getLast?_eq_none_iff.mp hlast
          rw [hlast] at hlater
          dsimp only [Option.getD_none] at hlater ⊢
          rw [hlater]
          exact hholds
      | some last =>
          rw [hlast] at hlater
          exact hlater

/-- The handler after an OPEN has been accepted. -/
def openedHandler (handler : Handler) (resolved : PathText Name) (flags : UInt32) : Handler :=
  ⟨handler.nextHandle + 1, handler.openFiles.insert (be32 handler.nextHandle) (resolved, flags),
    handler.openDirs, handler.root⟩

theorem handleOpen_ok {pkt : SftpPacket} {requested : String} {rest rest' : Bytes}
    {flags : UInt32} (hread : readUtf8 pkt.data = .ok (requested, rest))
    (hflags : readU32 rest = .ok (flags, rest'))
    (hresolve : resolvePath os handler.root requested world = .ok path) :
    handleOpen os handler world pkt =
      ⟨buildSftpHandle pkt.requestId (be32 handler.nextHandle),
        openedHandler handler path flags, world⟩ := by
  rw [handleOpen, hread]
  dsimp only
  rw [hflags]
  dsimp only
  rw [hresolve]
  rfl

theorem handleOpen_badPath {pkt : SftpPacket} {error : SshError}
    (hread : readUtf8 pkt.data = .err error) :
    (handleOpen os handler world pkt).response =
      buildSftpStatus pkt.requestId sshFxFailure "Bad path" := by
  rw [handleOpen, hread]

theorem handleRequest_open {pkt : SftpPacket} (htype : pkt.packetType = sshFxpOpen) :
    handleRequest os handler world pkt = handleOpen os handler world pkt := by
  have hoperation : operationOf sshFxpOpen = .openFile := by decide
  rw [handleRequest, htype, hoperation]

theorem readUtf8_writeUtf8_cases {text : String} (rest : Bytes)
    (hfits : (utf8 text).length < 2 ^ 32) :
    readUtf8 (writeUtf8 text ++ rest) = .ok (text, rest) ∨
      ∃ error, readUtf8 (writeUtf8 text ++ rest) = .err error := by
  rcases readString_writeString_cases rest hfits with hread | ⟨error, hread⟩
  · left
    rw [readUtf8, writeUtf8, cursor_bind_ok _ hread]
    simp
  · right
    refine ⟨error, ?_⟩
    rw [readUtf8, writeUtf8, cursor_bind, hread]
    rfl

theorem serve_openRequest {upload : Upload}
    (hresolve : resolvePath os handler.root upload.path world = .ok path)
    (hsuccess : Succeeded (handleRequest os handler world (openRequest upload)).response) :
    handleRequest os handler world (openRequest upload) =
      ⟨buildSftpHandle upload.openId (be32 handler.nextHandle),
        openedHandler handler path uploadFlags, world⟩ := by
  have hflags := readU32_writeU32 uploadFlags upload.attrs
  have hdata : (openRequest upload).data =
      writeUtf8 upload.path ++ (writeU32 uploadFlags ++ upload.attrs) :=
    List.append_assoc _ _ _
  have hcases := readUtf8_writeUtf8_cases (writeU32 uploadFlags ++ upload.attrs) upload.fits
  rw [← hdata] at hcases
  rw [handleRequest_open rfl] at hsuccess ⊢
  rcases hcases with hread | ⟨error, hread⟩
  · exact handleOpen_ok hread hflags hresolve
  · rw [handleOpen_badPath hread] at hsuccess
    exact absurd hsuccess (not_succeeded_failure _ _)

theorem handleOf_buildSftpHandle (requestId : UInt32) {handle : Bytes}
    (hhandle : handle.length ≤ maxPacketSize) :
    handleOf (buildSftpHandle requestId handle) = handle := by
  have hread := readString_writeString [] hhandle
  rw [List.append_nil] at hread
  have hparse : parse readString (buildSftpHandle requestId handle).data = .ok handle :=
    parse_eq_ok hread
  rw [handleOf, hparse]

theorem be32_length_le (n : UInt32) : (be32 n).length ≤ maxPacketSize := by
  rw [be32_length, maxPacketSize]
  omega

end Run

theorem overwrite_nil (offset : Nat) (data : Bytes) :
    overwrite [] offset data = List.replicate offset 0 ++ data := by
  simp [overwrite]

/-- A write hides all earlier content exactly when that was zero before it and
did not reach beyond it. -/
theorem overwrite_eq_overwrite_nil_iff (content : Bytes) (offset : Nat) (data : Bytes) :
    overwrite content offset data = overwrite [] offset data ↔
      content.length ≤ offset + data.length ∧ ∀ byte ∈ content.take offset, byte = 0 := by
  have hfront : (content.take offset ++ List.replicate (offset - content.length) 0).length =
      (List.replicate offset (0 : UInt8)).length := by
    simp only [List.length_append, List.length_take, List.length_replicate]
    omega
  have hzeros : content.take offset ++ List.replicate (offset - content.length) 0 =
      List.replicate offset 0 ↔ ∀ byte ∈ content.take offset, byte = 0 := by
    rw [List.eq_replicate_iff]
    constructor
    · rintro ⟨-, hall⟩ byte hmem
      exact hall byte (List.mem_append_left _ hmem)
    · intro hall
      refine ⟨hfront.trans List.length_replicate, ?_⟩
      intro byte hmem
      rcases List.mem_append.mp hmem with hmem | hmem
      · exact hall byte hmem
      · exact List.eq_of_mem_replicate hmem
  rw [overwrite_nil, overwrite, List.append_assoc]
  constructor
  · intro heq
    obtain ⟨hleft, hright⟩ := List.append_inj heq hfront
    refine ⟨?_, hzeros.mp hleft⟩
    have hdrop := List.append_cancel_left (hright.trans (List.append_nil data).symm)
    exact List.drop_eq_nil_iff.mp hdrop
  · rintro ⟨hlength, hall⟩
    rw [hzeros.mpr hall, List.drop_eq_nil_iff.mpr hlength, List.append_nil]

/-- The writes before the last one leave no trace: with data in the last one,
they only put zeros before it and nothing beyond it; without, they put nothing. -/
def LastHidesEarlier (earlier : List Chunk) (last : Chunk) : Prop :=
  (last.data = [] ∧ uploaded earlier = []) ∨
    (last.data ≠ [] ∧
      (uploaded earlier).length ≤ last.offset.toNat + last.data.length ∧
      ∀ byte ∈ (uploaded earlier).take last.offset.toNat, byte = 0)

theorem applyWrite_eq_iff (earlier : List Chunk) (last : Chunk) :
    applyWrite [] last = applyWrite (uploaded earlier) last ↔
      LastHidesEarlier earlier last := by
  rw [applyWrite, applyWrite, LastHidesEarlier]
  by_cases hempty : last.data = []
  · rw [if_pos hempty, if_pos hempty, eq_comm]
    simp [hempty]
  · rw [if_neg hempty, if_neg hempty, eq_comm, overwrite_eq_overwrite_nil_iff]
    simp [hempty]

theorem uploaded_concat (earlier : List Chunk) (last : Chunk) :
    uploaded (earlier ++ [last]) = applyWrite (uploaded earlier) last := by
  simp [uploaded]

/-- When an upload leaves what its writes describe. -/
def UploadKept (chunks : List Chunk) (tree : DirTree Name) (location : List Name) : Prop :=
  (chunks = [] ∧ HoldsFile tree location []) ∨
    ∃ earlier last, chunks = earlier ++ [last] ∧ LastHidesEarlier earlier last

theorem holdsFile_unique {tree : DirTree Name} {location : List Name} {content content' : Bytes}
    (hfirst : HoldsFile tree location content) (hsecond : HoldsFile tree location content') :
    content = content' := by
  obtain ⟨attributes, hfirst⟩ := hfirst
  obtain ⟨attributes', hsecond⟩ := hsecond
  have heq := Option.some.inj (hfirst.symm.trans hsecond)
  exact (Object.file.inj heq).1

/-- A successful upload leaves the content its writes describe exactly when there
is one write that hides all earlier ones, or none and an empty file. -/
theorem upload_holds_iff (os : Os Name) (handler : Handler) (world : World Name)
    (upload : Upload) (path : PathText Name) (location : List Name)
    (hresolve : resolvePath os handler.root upload.path world = .ok path)
    (hready : Ready os path location world.tree)
    (hsuccess : ∀ response ∈ (runUpload os handler world upload).responses,
      Succeeded response) :
    HoldsFile (runUpload os handler world upload).world.tree location
        (uploaded upload.chunks) ↔
      UploadKept upload.chunks world.tree location := by
  rw [runUpload] at hsuccess ⊢
  have hserve := serve_openRequest hresolve (hsuccess _ List.mem_cons_self)
  rw [hserve] at hsuccess ⊢
  rw [handleOf_buildSftpHandle _ (be32_length_le _)] at hsuccess ⊢
  have hlookup : (openedHandler handler path uploadFlags).openFiles.lookup
      (be32 handler.nextHandle) = some (path, uploadFlags) :=
    AList.lookup_insert _
  have hwrites := serve_writes (be32_length_le _) hlookup upload.closeId upload.chunks hready
    fun response hmem => hsuccess response (List.mem_cons_of_mem _ hmem)
  rcases upload.chunks.eq_nil_or_concat with hchunks | ⟨earlier, last, hchunks⟩
  · rw [hchunks] at hwrites ⊢
    dsimp only [List.getLast?_nil] at hwrites
    rw [hwrites]
    constructor
    · intro hholds
      exact Or.inl ⟨rfl, hholds⟩
    · rintro (⟨-, hholds⟩ | ⟨earlier, last, hempty, -⟩)
      · exact hholds
      · simp at hempty
  · rw [List.concat_eq_append] at hchunks
    rw [hchunks] at hwrites ⊢
    rw [List.getLast?_concat] at hwrites
    dsimp only at hwrites
    constructor
    · intro hholds
      have hcontent := holdsFile_unique hwrites hholds
      rw [uploaded_concat, applyWrite_eq_iff] at hcontent
      exact Or.inr ⟨earlier, last, rfl, hcontent⟩
    · rintro (⟨hempty, -⟩ | ⟨earlier', last', heq, hhides⟩)
      · simp at hempty
      · obtain ⟨rfl, hlast⟩ := List.append_inj' heq rfl
        obtain rfl := List.singleton_inj.mp hlast
        rw [uploaded_concat, ← (applyWrite_eq_iff earlier last).mpr hhides]
        exact hwrites

/-- An upload to a new file in the sample tree. -/
def sampleUpload (chunks : List Chunk) : Upload :=
  ⟨1, 2, "new", by decide +kernel, [], chunks⟩

/-- A place for a file below the sample root. -/
def newLocation : List Name := [utf8 "srv", utf8 "new"]

/-- The sample tree. -/
def newWorld : World Name := ⟨sampleTree, []⟩

/-- Three writes, the last of which covers the other two. -/
def coveringChunks : List Chunk :=
  [⟨3, 0, [97, 98], by decide⟩, ⟨4, 1, [99], by decide⟩, ⟨5, 0, [100, 101], by decide⟩]

theorem upload_holds_covering_write :
    HoldsFile (runUpload plainOs (newHandler sampleRoot) newWorld
      (sampleUpload coveringChunks)).world.tree newLocation [100, 101] := by
  have hready : Ready plainOs (pathOf newLocation) newLocation newWorld.tree :=
    ⟨by decide +kernel, Or.inl (by decide +kernel)⟩
  refine (upload_holds_iff plainOs (newHandler sampleRoot) newWorld
    (sampleUpload coveringChunks) (pathOf newLocation) newLocation
    (by decide +kernel) hready (by decide +kernel)).mpr ?_
  refine Or.inr ⟨[⟨3, 0, [97, 98], by decide⟩, ⟨4, 1, [99], by decide⟩],
    ⟨5, 0, [100, 101], by decide⟩, rfl, Or.inr ⟨by decide, ?_, ?_⟩⟩
  · decide
  · intro byte hmem
    exact absurd hmem List.not_mem_nil

/-- Two writes that each succeed: the second one cuts off the first. -/
theorem second_write_loses_first :
    (∀ response ∈ (runUpload plainOs (newHandler sampleRoot) newWorld (sampleUpload
        [⟨3, 0, [97], by decide⟩, ⟨4, 1, [98], by decide⟩])).responses, Succeeded response) ∧
      ¬ HoldsFile (runUpload plainOs (newHandler sampleRoot) newWorld (sampleUpload
        [⟨3, 0, [97], by decide⟩, ⟨4, 1, [98], by decide⟩])).world.tree newLocation
        (uploaded [⟨3, 0, [97], by decide⟩, ⟨4, 1, [98], by decide⟩]) := by
  refine ⟨by decide +kernel, ?_⟩
  have hleft : HoldsFile (runUpload plainOs (newHandler sampleRoot) newWorld (sampleUpload
      [⟨3, 0, [97], by decide⟩, ⟨4, 1, [98], by decide⟩])).world.tree newLocation [0, 98] :=
    ⟨plainOs.fileAttributes, by decide +kernel⟩
  intro hholds
  exact absurd (holdsFile_unique hleft hholds) (by decide)

end SwiftSsh.SftpUpload
