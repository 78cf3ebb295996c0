import SwiftSsh.RequestEffects

/-!
Requests that are answered with an error. A handler that has already done a part
of its work does not take it back.
-/

namespace SwiftSsh.FailedRequests

open SwiftSsh.ByteWords
open SwiftSsh.RustOutcome
open SwiftSsh.WireTypes
open SwiftSsh.WireBuffer
open SwiftSsh.FileTree
open SwiftSsh.FileSystem
open SwiftSsh.TreeChanges
open SwiftSsh.SftpPaths
open SwiftSsh.SftpProtocol
open SwiftSsh.SftpHandler
open SwiftSsh.RequestEffects

/-- A STATUS response with a code other than OK and EOF. -/
def Failed (response : SftpPacket) : Prop :=
  response.packetType = sshFxpStatus ∧
    parse readU32 response.data ≠ .ok sshFxOk ∧ parse readU32 response.data ≠ .ok sshFxEof

instance (response : SftpPacket) : Decidable (Failed response) :=
  inferInstanceAs (Decidable (_ ∧ _ ∧ _))

/-- Both tables and the tree hold what they held before. -/
structure Untouched (handler : Handler) (world : World Name) (served : Served) : Prop where
  openFiles : ∀ handle, served.handler.openFiles.lookup handle = handler.openFiles.lookup handle
  openDirs : ∀ handle, served.handler.openDirs.lookup handle = handler.openDirs.lookup handle
  tree : ∀ location, served.world.tree.lookup location = world.tree.lookup location

variable (os : Os Name)

/-- A READDIR for an open directory that has not been listed and cannot be. -/
def ListingFails (handler : Handler) (world : World Name) (pkt : SftpPacket) : Prop :=
  operationOf pkt.packetType = .readdir ∧
    ∃ handle rest path, readString pkt.data = .ok (handle, rest) ∧
      handler.openDirs.lookup handle = some (path, false) ∧ (readDir os path world).1 = none

/-- Opening the file for a write makes it, or empties it although it is not
empty. -/
def OpeningChanges (flags : UInt32) (world : World Name) (location : List Name) : Prop :=
  world.tree.lookup location = none ∨
    (flags &&& sshFxfTrunc != 0) = true ∧ ∃ byte content attributes,
      world.tree.lookup location = some (.file (byte :: content) attributes)

/-- Opening the file changes the tree, and then the write fails. -/
def Spoils (path : PathText Name) (flags : UInt32) (offset : UInt64) (data : Bytes)
    (world : World Name) : Prop :=
  ∃ location opened,
    openWrite os (flags &&& sshFxfCreat != 0) (flags &&& sshFxfTrunc != 0) path world =
      (some location, opened) ∧
    OpeningChanges flags world location ∧
    (os.canSeek opened.tree location offset = false ∨
      (writeAllAt os location offset data opened).1 = none)

/-- A WRITE that changes the tree by opening the file and fails after that. -/
def WritingFails (handler : Handler) (world : World Name) (pkt : SftpPacket) : Prop :=
  operationOf pkt.packetType = .write ∧
    ∃ path flags offset data, writeTarget handler pkt = some (path, flags, offset, data) ∧
      Spoils os path flags offset data world

theorem failed_status_iff (requestId code : UInt32) (message : String) :
    Failed (buildSftpStatus requestId code message) ↔ code ≠ sshFxOk ∧ code ≠ sshFxEof := by
  unfold Failed
  rw [parse_buildSftpStatus, ne_eq, ne_eq, Outcome.ok.injEq, Outcome.ok.injEq]
  exact ⟨fun hfailed => hfailed.2, fun hcode => ⟨rfl, hcode⟩⟩

theorem not_failed_ok (requestId : UInt32) (message : String) :
    ¬ Failed (buildSftpStatus requestId sshFxOk message) := by
  rw [failed_status_iff]
  decide

theorem not_failed_eof (requestId : UInt32) (message : String) :
    ¬ Failed (buildSftpStatus requestId sshFxEof message) := by
  rw [failed_status_iff]
  decide

theorem not_failed_of_type {response : SftpPacket} (htype : response.packetType ≠ sshFxpStatus) :
    ¬ Failed response :=
  fun hfailed => htype hfailed.1

/-- A request is answered without an error, or it leaves everything as it was. -/
def Atomic (handler : Handler) (world : World Name) (served : Served) : Prop :=
  Failed served.response → Untouched handler world served

variable {os} {handler : Handler} {world later : World Name} {pkt : SftpPacket}

theorem untouched_of_tree (htree : later.tree = world.tree) (response : SftpPacket) :
    Untouched handler world ⟨response, handler, later⟩ where
  openFiles _ := rfl
  openDirs _ := rfl
  tree location := by rw [htree]

theorem atomic_of_tree (htree : later.tree = world.tree) (response : SftpPacket) :
    Atomic handler world ⟨response, handler, later⟩ :=
  fun _ => untouched_of_tree htree response

theorem atomic_of_not_failed {served : Served} (hfine : ¬ Failed served.response) :
    Atomic handler world served :=
  fun hfailed => absurd hfailed hfine

theorem atomic_withPath {denied : UInt32 × String} {next : PathText Name → Bytes → Served}
    (hnext : ∀ path rest, Atomic handler world (next path rest)) :
    Atomic handler world (withPath os handler world pkt denied next) := by
  rw [withPath]
  split
  · split
    · exact hnext _ _
    · exact atomic_of_tree rfl _
  · exact atomic_of_tree rfl _

theorem atomic_stat : Atomic handler world (handleStat os handler world pkt) := by
  apply atomic_withPath
  intro path rest
  have htree := @metadata_tree Name _ os path world
  split
  · rename_i heq
    rw [heq] at htree
    exact atomic_of_tree htree _
  · rename_i heq
    rw [heq] at htree
    exact atomic_of_tree htree _

theorem atomic_opendir : Atomic handler world (handleOpendir os handler world pkt) := by
  apply atomic_withPath
  intro path rest
  have htree := @isDir_tree Name _ os path world
  split
  · apply atomic_of_not_failed
    exact not_failed_of_type (show sshFxpHandle ≠ sshFxpStatus by decide)
  · rename_i heq
    rw [heq] at htree
    exact atomic_of_tree htree _

theorem atomic_close : Atomic handler world (handleClose handler world pkt) := by
  rw [handleClose]
  split
  · exact atomic_of_not_failed (not_failed_ok _ _)
  · exact atomic_of_tree rfl _

theorem atomic_open : Atomic handler world (handleOpen os handler world pkt) := by
  rw [handleOpen]
  split
  · split
    · split
      · apply atomic_of_not_failed
        exact not_failed_of_type (show sshFxpHandle ≠ sshFxpStatus by decide)
      · exact atomic_of_tree rfl _
    · exact atomic_of_tree rfl _
  · exact atomic_of_tree rfl _

theorem atomic_read : Atomic handler world (handleRead os handler world pkt) := by
  rcases handleRead_cases os handler world pkt with
    ⟨path, flags, offset, length, -, hserved⟩ | ⟨-, code, message, hserved⟩
  · rw [hserved]
    exact atomic_of_tree (readFile_tree _ _ _ _ _) _
  · rw [hserved]
    exact atomic_of_tree rfl _

theorem atomic_changePath {change : PathText Name → World Name → Option Unit × World Name}
    {failed : String} (hchange : ∀ path, (change path world).1 = none →
      (change path world).2 = world) :
    Atomic handler world (changePath os handler world pkt change failed) := by
  apply atomic_withPath
  intro path rest
  have hnone := hchange path
  split
  · exact atomic_of_not_failed (not_failed_ok _ _)
  · rename_i heq
    rw [heq] at hnone
    exact atomic_of_tree (congrArg World.tree (hnone rfl)) _

theorem atomic_readdir_iff (hoperation : operationOf pkt.packetType = .readdir) :
    Atomic handler world (handleReaddir os handler world pkt) ↔
      ¬ ListingFails os handler world pkt := by
  constructor
  · rintro hatomic ⟨-, handle, rest, path, hread, hopen, hfails⟩
    rw [handleReaddir, hread] at hatomic
    dsimp only at hatomic
    rw [hopen] at hatomic
    dsimp only at hatomic
    generalize readDir os path world = listed at hfails hatomic
    obtain ⟨result, later⟩ := listed
    change result = none at hfails
    subst hfails
    -- the mark stays although nothing was listed
    have hmark := (hatomic ((failed_status_iff _ _ _).mpr (by decide))).openDirs handle
    dsimp only at hmark
    rw [AList.lookup_insert, hopen] at hmark
    cases hmark
  · intro hlisted
    rw [handleReaddir]
    split
    · rename_i handle rest hread
      split
      · exact atomic_of_tree rfl _
      · exact atomic_of_not_failed (not_failed_eof _ _)
      · rename_i path hopen
        dsimp only
        split
        · apply atomic_of_not_failed
          exact not_failed_of_type (show sshFxpName ≠ sshFxpStatus by decide)
        · rename_i hnone
          refine absurd ⟨hoperation, handle, rest, path, hread, hopen, ?_⟩ hlisted
          rw [hnone]
    · exact atomic_of_tree rfl _

section Write

variable {path : PathText Name} {flags : UInt32} {offset : UInt64} {data : Bytes}

theorem lookup_opened_ne {location : List Name} {create : Bool} {opened : World Name}
    (hopens : OpensWrite os create (flags &&& sshFxfTrunc != 0) world (some location, opened))
    (hchanges : OpeningChanges flags world location) :
    opened.tree.lookup location ≠ world.tree.lookup location := by
  rcases hchanges with hmissing | ⟨htrunc, byte, content, attributes, hfile⟩
  · cases hopens with
    | kept _ _ hfile =>
        obtain ⟨content, attributes, hfile⟩ := hfile
        rw [hmissing] at hfile
        cases hfile
    | created _ _ _ htree =>
        rw [htree, AList.lookup_insert, hmissing]
        rintro ⟨⟩
    | emptied _ _ content attributes hfile =>
        rw [hmissing] at hfile
        cases hfile
  · cases hopens with
    | kept _ _ _ htruncate =>
        rw [htrunc] at htruncate
        cases htruncate
    | created _ _ hmissing =>
        rw [hfile] at hmissing
        cases hmissing
    | emptied _ _ _ _ _ _ htree =>
        rw [htree, AList.lookup_insert, hfile]
        rintro ⟨⟩

theorem lookup_opened {location other : List Name} {create : Bool} {opened : World Name}
    (hopens : OpensWrite os create (flags &&& sshFxfTrunc != 0) world (some location, opened))
    (hchanges : ¬ OpeningChanges flags world location) :
    opened.tree.lookup other = world.tree.lookup other := by
  cases hopens with
  | kept _ _ _ _ htree => rw [htree]
  | created _ _ hmissing => exact absurd (.inl hmissing) hchanges
  | emptied _ _ content attributes hfile htruncate htree =>
      rw [htree]
      by_cases heq : other = location
      · subst heq
        rw [AList.lookup_insert, hfile]
        cases content with
        | nil => rfl
        | cons byte content =>
            exact absurd (.inr ⟨htruncate, byte, content, attributes, hfile⟩) hchanges
      · rw [AList.lookup_insert_ne heq]

theorem writeFile_of_seek_fails {location : List Name} {opened : World Name}
    (hopen : openWrite os (flags &&& sshFxfCreat != 0) (flags &&& sshFxfTrunc != 0) path world =
      (some location, opened)) (hseek : os.canSeek opened.tree location offset = false)
    (requestId : UInt32) :
    writeFile os path flags offset data world requestId =
      (buildSftpStatus requestId sshFxFailure "Seek failed", opened) := by
  rw [writeFile, hopen]
  dsimp only
  rw [hseek]
  rfl

theorem writeFile_of_write_fails {location : List Name} {opened : World Name}
    (hopen : openWrite os (flags &&& sshFxfCreat != 0) (flags &&& sshFxfTrunc != 0) path world =
      (some location, opened)) (hseek : os.canSeek opened.tree location offset = true)
    (hwrite : (writeAllAt os location offset data opened).1 = none) (requestId : UInt32) :
    writeFile os path flags offset data world requestId =
      (buildSftpStatus requestId sshFxFailure "Write error", opened) := by
  have hworld := writeAllAt_of_none hwrite
  rw [writeFile, hopen]
  dsimp only
  rw [hseek]
  generalize writeAllAt os location offset data opened = written at hwrite hworld
  obtain ⟨result, later⟩ := written
  change result = none at hwrite
  change later = opened at hworld
  rw [hwrite, hworld]
  rfl

theorem failed_of_fails {location : List Name} {opened : World Name}
    (hopen : openWrite os (flags &&& sshFxfCreat != 0) (flags &&& sshFxfTrunc != 0) path world =
      (some location, opened))
    (hfails : os.canSeek opened.tree location offset = false ∨
      (writeAllAt os location offset data opened).1 = none)
    (requestId : UInt32) :
    ∃ message, writeFile os path flags offset data world requestId =
      (buildSftpStatus requestId sshFxFailure message, opened) := by
  cases hseek : os.canSeek opened.tree location offset with
  | false => exact ⟨_, writeFile_of_seek_fails hopen hseek requestId⟩
  | true =>
      rw [hseek] at hfails
      exact ⟨_, writeFile_of_write_fails hopen hseek (hfails.resolve_left (by simp)) requestId⟩

theorem not_failed_of_written {location : List Name} {opened : World Name}
    (hopen : openWrite os (flags &&& sshFxfCreat != 0) (flags &&& sshFxfTrunc != 0) path world =
      (some location, opened))
    (hfine : ¬ (os.canSeek opened.tree location offset = false ∨
      (writeAllAt os location offset data opened).1 = none))
    (requestId : UInt32) :
    ¬ Failed (writeFile os path flags offset data world requestId).1 := by
  rw [not_or, Bool.not_eq_false] at hfine
  obtain ⟨hseek, hwrite⟩ := hfine
  rw [writeFile, hopen]
  dsimp only
  rw [hseek]
  generalize writeAllAt os location offset data opened = written at hwrite
  obtain ⟨_ | _, later⟩ := written
  · exact absurd rfl hwrite
  · exact not_failed_ok _ _

/-- A write changes nothing when it fails, unless opening the file did. -/
theorem writeFile_atomic_iff (requestId : UInt32) :
    (Failed (writeFile os path flags offset data world requestId).1 →
      ∀ location, (writeFile os path flags offset data world requestId).2.tree.lookup location =
        world.tree.lookup location) ↔ ¬ Spoils os path flags offset data world := by
  have hopens := @opensWrite_openWrite Name _ os path world (flags &&& sshFxfCreat != 0)
    (flags &&& sshFxfTrunc != 0)
  constructor
  · rintro hatomic ⟨location, opened, hopen, hchanges, hfails⟩
    obtain ⟨message, hwritten⟩ := failed_of_fails hopen hfails requestId
    rw [hwritten] at hatomic
    rw [hopen] at hopens
    refine lookup_opened_ne hopens hchanges ?_
    exact hatomic ((failed_status_iff _ _ _).mpr (by decide)) location
  · intro hspoils hfailed other
    rcases hopen : openWrite os (flags &&& sshFxfCreat != 0) (flags &&& sshFxfTrunc != 0) path
      world with ⟨_ | location, opened⟩
    · rw [hopen] at hopens
      rw [writeFile, hopen]
      cases hopens
      rfl
    · rw [hopen] at hopens
      by_cases hfails : os.canSeek opened.tree location offset = false ∨
          (writeAllAt os location offset data opened).1 = none
      · obtain ⟨message, hwritten⟩ := failed_of_fails hopen hfails requestId
        rw [hwritten]
        refine lookup_opened hopens fun hchanges => hspoils ?_
        exact ⟨location, opened, hopen, hchanges, hfails⟩
      · exact absurd hfailed (not_failed_of_written hopen hfails requestId)

end Write

theorem atomic_write_iff (hoperation : operationOf pkt.packetType = .write) :
    Atomic handler world (handleWrite os handler world pkt) ↔
      ¬ WritingFails os handler world pkt := by
  rcases handleWrite_cases os handler world pkt with
    ⟨path, flags, offset, data, htarget, hserved⟩ | ⟨htarget, code, message, hserved⟩
  · have hfails : WritingFails os handler world pkt ↔ Spoils os path flags offset data world := by
      constructor
      · rintro ⟨-, path', flags', offset', data', htarget', hspoils⟩
        rw [htarget] at htarget'
        cases htarget'
        exact hspoils
      · intro hspoils
        exact ⟨hoperation, path, flags, offset, data, htarget, hspoils⟩
    rw [hserved, hfails, ← writeFile_atomic_iff pkt.requestId]
    constructor
    · intro hatomic hfailed
      exact (hatomic hfailed).tree
    · intro hatomic hfailed
      exact ⟨fun _ => rfl, fun _ => rfl, hatomic hfailed⟩
  · rw [hserved]
    refine ⟨fun _ => ?_, fun _ => atomic_of_tree rfl _⟩
    rintro ⟨-, path, flags, offset, data, htarget', -⟩
    rw [htarget] at htarget'
    cases htarget'

/-- A request that fails leaves the tables and the tree as they were, except when
a directory cannot be listed or a write fails after its file was made or emptied:
then it never does. -/
theorem failed_request_untouched_iff (os : Os Name) (handler : Handler) (world : World Name)
    (pkt : SftpPacket) :
    (Failed (handleRequest os handler world pkt).response →
      Untouched handler world (handleRequest os handler world pkt)) ↔
    ¬ ListingFails os handler world pkt ∧ ¬ WritingFails os handler world pkt := by
  have hother : ∀ served, Atomic handler world served →
      operationOf pkt.packetType ≠ .readdir → operationOf pkt.packetType ≠ .write →
      (Atomic handler world served ↔
        ¬ ListingFails os handler world pkt ∧ ¬ WritingFails os handler world pkt) :=
    fun served hatomic hreaddir hwrite =>
      ⟨fun _ => ⟨fun hfails => hreaddir hfails.1, fun hfails => hwrite hfails.1⟩,
        fun _ => hatomic⟩
  change Atomic handler world (handleRequest os handler world pkt) ↔ _
  rw [handleRequest]
  cases hoperation : operationOf pkt.packetType with
  | realpath =>
      refine hother _ ?_ (by simp [hoperation]) (by simp [hoperation])
      exact atomic_withPath fun path rest => atomic_of_tree rfl _
  | stat => exact hother _ atomic_stat (by simp [hoperation]) (by simp [hoperation])
  | opendir => exact hother _ atomic_opendir (by simp [hoperation]) (by simp [hoperation])
  | readdir =>
      rw [atomic_readdir_iff hoperation]
      refine ⟨fun hlisted => ⟨hlisted, fun hfails => ?_⟩, fun hboth => hboth.1⟩
      rw [WritingFails, hoperation] at hfails
      cases hfails.1
  | close => exact hother _ atomic_close (by simp [hoperation]) (by simp [hoperation])
  | openFile => exact hother _ atomic_open (by simp [hoperation]) (by simp [hoperation])
  | read => exact hother _ atomic_read (by simp [hoperation]) (by simp [hoperation])
  | write =>
      rw [atomic_write_iff hoperation]
      refine ⟨fun hwritten => ⟨fun hfails => ?_, hwritten⟩, fun hboth => hboth.2⟩
      rw [ListingFails, hoperation] at hfails
      cases hfails.1
  | mkdir =>
      refine hother _ (atomic_changePath ?_) (by simp [hoperation]) (by simp [hoperation])
      intro path hnone
      rcases createDir_cases os path world with hfailed | ⟨location, later, -, hmade, -⟩
      · rw [hfailed]
      · rw [hmade] at hnone
        cases hnone
  | rmdir =>
      refine hother _ (atomic_changePath ?_) (by simp [hoperation]) (by simp [hoperation])
      intro path hnone
      rcases removeDir_cases os path world with hfailed | ⟨location, later, -, -, hremoved, -⟩
      · rw [hfailed]
      · rw [hremoved] at hnone
        cases hnone
  | remove =>
      refine hother _ (atomic_changePath ?_) (by simp [hoperation]) (by simp [hoperation])
      intro path hnone
      rcases removeFile_cases os path world with hfailed | ⟨location, later, -, -, hremoved, -⟩
      · rw [hfailed]
      · rw [hremoved] at hnone
        cases hnone
  | unsupported =>
      exact hother _ (atomic_of_tree rfl _) (by simp [hoperation]) (by simp [hoperation])

/-- The file of the sample tree, open for writing and truncating. -/
def sampleWriter : Handler :=
  { newHandler sampleRoot with
    openFiles := AList.insert (be32 0) (pathOf [utf8 "srv", utf8 "f"], 18) ∅ }

/-- A WRITE far beyond the end of what can be addressed. -/
def farWrite : SftpPacket :=
  ⟨sshFxpWrite, 1, writeString (be32 0) ++ be64 9223372036854775808 ++ writeString [7]⟩

/-- The file is emptied by a request that is answered with an error. -/
theorem far_write_empties_file :
    ¬ ∀ (os : Os Name) (handler : Handler) (world : World Name) (pkt : SftpPacket),
      Failed (handleRequest os handler world pkt).response →
        Untouched handler world (handleRequest os handler world pkt) := by
  intro huntouched
  have hfailed : Failed
      (handleRequest plainOs sampleWriter ⟨sampleTree, []⟩ farWrite).response := by
    decide +kernel
  have htree := (huntouched plainOs sampleWriter ⟨sampleTree, []⟩ farWrite hfailed).tree
    [utf8 "srv", utf8 "f"]
  revert htree
  decide +kernel

end SwiftSsh.FailedRequests
