import SwiftSsh.SftpHandler
import SwiftSsh.TreeChanges

namespace SwiftSsh.RequestEffects

open SwiftSsh.ByteWords
open SwiftSsh.RustOutcome
open SwiftSsh.WireTypes
open SwiftSsh.WireBuffer
open SwiftSsh.FileTree
open SwiftSsh.FileSystem
open SwiftSsh.TreeChanges
open SwiftSsh.SftpPaths
open SwiftSsh.SftpProtocol
open SwiftSsh.SftpHandler

/-- What a READ is passed on with: the path and the flags of its handle, the offset
and the length. -/
def readTarget (handler : Handler) (pkt : SftpPacket) :
    Option (PathText Name × UInt32 × UInt64 × UInt32) :=
  match readString pkt.data with
  | .ok (handle, rest) =>
      match cursorReadU64 .io rest with
      | .ok (offset, rest) =>
          match readU32 rest with
          | .ok (length, _) =>
              match handler.openFiles.lookup handle with
              | some (path, flags) => some (path, flags, offset, length)
              | none => none
          | _ => none
      | _ => none
  | _ => none

/-- What a WRITE is let through with: the path and the flags of its handle, which
is open for writing, the offset and the data. -/
def writeTarget (handler : Handler) (pkt : SftpPacket) :
    Option (PathText Name × UInt32 × UInt64 × Bytes) :=
  match readString pkt.data with
  | .ok (handle, rest) =>
      match cursorReadU64 .io rest with
      | .ok (offset, rest) =>
          match readString rest with
          | .ok (data, _) =>
              match handler.openFiles.lookup handle with
              | some (path, flags) =>
                  if flags &&& sshFxfWrite = 0 then none else some (path, flags, offset, data)
              | none => none
          | _ => none
      | _ => none
  | _ => none

variable {os : Os Name} {handler : Handler} {world : World Name} {pkt : SftpPacket}

theorem handleRead_cases (os : Os Name) (handler : Handler) (world : World Name)
    (pkt : SftpPacket) :
    (∃ path flags offset length, readTarget handler pkt = some (path, flags, offset, length) ∧
      handleRead os handler world pkt =
        ⟨(readFile os path offset length.toNat world pkt.requestId).1, handler,
          (readFile os path offset length.toNat world pkt.requestId).2⟩) ∨
    (readTarget handler pkt = none ∧ ∃ code message,
      handleRead os handler world pkt =
        ⟨buildSftpStatus pkt.requestId code message, handler, world⟩) := by
  rw [handleRead, readTarget]
  rcases readString pkt.data with ⟨handle, afterHandle⟩ | error | _
  · dsimp only
    rcases cursorReadU64 .io afterHandle with ⟨offset, afterOffset⟩ | error | _
    · dsimp only
      rcases readU32 afterOffset with ⟨length, afterLength⟩ | error | _
      · dsimp only
        rcases handler.openFiles.lookup handle with _ | ⟨path, flags⟩
        · exact .inr ⟨rfl, _, _, rfl⟩
        · exact .inl ⟨path, flags, offset, length, rfl, rfl⟩
      · exact .inr ⟨rfl, _, _, rfl⟩
      · exact .inr ⟨rfl, _, _, rfl⟩
    · exact .inr ⟨rfl, _, _, rfl⟩
    · exact .inr ⟨rfl, _, _, rfl⟩
  · exact .inr ⟨rfl, _, _, rfl⟩
  · exact .inr ⟨rfl, _, _, rfl⟩

theorem lookup_of_readTarget {path : PathText Name} {flags : UInt32} {offset : UInt64}
    {length : UInt32} (htarget : readTarget handler pkt = some (path, flags, offset, length)) :
    ∃ handle rest, readString pkt.data = .ok (handle, rest) ∧
      handler.openFiles.lookup handle = some (path, flags) := by
  rw [readTarget] at htarget
  split at htarget
  · rename_i handle rest hhandle
    split at htarget
    · split at htarget
      · split at htarget
        · rename_i hlookup
          cases htarget
          exact ⟨handle, rest, hhandle, hlookup⟩
        · cases htarget
      · cases htarget
    · cases htarget
  · cases htarget

theorem lookup_of_writeTarget {path : PathText Name} {flags : UInt32} {offset : UInt64}
    {data : Bytes} (htarget : writeTarget handler pkt = some (path, flags, offset, data)) :
    flags &&& sshFxfWrite ≠ 0 ∧ ∃ handle rest, readString pkt.data = .ok (handle, rest) ∧
      handler.openFiles.lookup handle = some (path, flags) := by
  rw [writeTarget] at htarget
  split at htarget
  · rename_i handle rest hhandle
    split at htarget
    · split at htarget
      · split at htarget
        · rename_i hlookup
          split at htarget
          · cases htarget
          · rename_i hwrite
            cases htarget
            exact ⟨hwrite, handle, rest, hhandle, hlookup⟩
        · cases htarget
      · cases htarget
    · cases htarget
  · cases htarget

theorem handleWrite_cases (os : Os Name) (handler : Handler) (world : World Name)
    (pkt : SftpPacket) :
    (∃ path flags offset data, writeTarget handler pkt = some (path, flags, offset, data) ∧
      handleWrite os handler world pkt =
        ⟨(writeFile os path flags offset data world pkt.requestId).1, handler,
          (writeFile os path flags offset data world pkt.requestId).2⟩) ∨
    (writeTarget handler pkt = none ∧ ∃ code message,
      handleWrite os handler world pkt =
        ⟨buildSftpStatus pkt.requestId code message, handler, world⟩) := by
  rw [handleWrite, writeTarget]
  rcases readString pkt.data with ⟨handle, afterHandle⟩ | error | _
  · dsimp only
    rcases cursorReadU64 .io afterHandle with ⟨offset, afterOffset⟩ | error | _
    · dsimp only
      rcases readString afterOffset with ⟨data, afterData⟩ | error | _
      · dsimp only
        rcases handler.openFiles.lookup handle with _ | ⟨path, flags⟩
        · exact .inr ⟨rfl, _, _, rfl⟩
        · dsimp only
          by_cases hwrite : flags &&& sshFxfWrite = 0
          · rw [if_pos hwrite, if_pos hwrite]
            exact .inr ⟨rfl, _, _, rfl⟩
          · rw [if_neg hwrite, if_neg hwrite]
            exact .inl ⟨path, flags, offset, data, rfl, rfl⟩
      · exact .inr ⟨rfl, _, _, rfl⟩
      · exact .inr ⟨rfl, _, _, rfl⟩
    · exact .inr ⟨rfl, _, _, rfl⟩
    · exact .inr ⟨rfl, _, _, rfl⟩
  · exact .inr ⟨rfl, _, _, rfl⟩
  · exact .inr ⟨rfl, _, _, rfl⟩

theorem readFile_tree (path : PathText Name) (offset : UInt64) (length : Nat)
    (world : World Name) (requestId : UInt32) :
    (readFile os path offset length world requestId).2.tree = world.tree := by
  have hopen := @openRead_tree Name _ os path world
  rw [readFile]
  split
  · rename_i location opened heq
    rw [heq] at hopen
    have hread := @readAt_tree Name _ os opened location offset (min length 32768)
    split
    · exact hopen
    · split
      · rename_i heq
        rw [heq] at hread
        exact hread.trans hopen
      · rename_i heq
        rw [heq] at hread
        exact hread.trans hopen
      · rename_i heq
        rw [heq] at hread
        exact hread.trans hopen
  · rename_i heq
    rw [heq] at hopen
    exact hopen

theorem handleRead_tree : (handleRead os handler world pkt).world.tree = world.tree := by
  rcases handleRead_cases os handler world pkt with
    ⟨path, flags, offset, length, -, hserved⟩ | ⟨-, code, message, hserved⟩
  · rw [hserved]
    exact readFile_tree _ _ _ _ _
  · rw [hserved]

theorem handleReaddir_tree : (handleReaddir os handler world pkt).world.tree = world.tree := by
  rw [handleReaddir]
  split
  · split
    · rfl
    · rfl
    · rename_i path hopen
      have htree := @readDir_tree Name _ os path world
      dsimp only
      split
      · rename_i heq
        rw [heq] at htree
        exact htree
      · rename_i heq
        rw [heq] at htree
        exact htree
  · rfl

theorem handleClose_tree : (handleClose handler world pkt).world.tree = world.tree := by
  rw [handleClose]
  split <;> rfl

theorem handleOpen_tree : (handleOpen os handler world pkt).world.tree = world.tree := by
  rw [handleOpen]
  split
  · split
    · split <;> rfl
    · rfl
  · rfl

theorem withPath_tree {denied : UInt32 × String} {next : PathText Name → Bytes → Served}
    (hnext : ∀ path rest, (next path rest).world.tree = world.tree) :
    (withPath os handler world pkt denied next).world.tree = world.tree := by
  rw [withPath]
  split
  · split
    · exact hnext _ _
    · rfl
  · rfl

theorem handleStat_tree : (handleStat os handler world pkt).world.tree = world.tree := by
  apply withPath_tree
  intro path rest
  have htree := @metadata_tree Name _ os path world
  split
  · rename_i heq
    rw [heq] at htree
    exact htree
  · rename_i heq
    rw [heq] at htree
    exact htree

theorem handleOpendir_tree : (handleOpendir os handler world pkt).world.tree = world.tree := by
  apply withPath_tree
  intro path rest
  have htree := @isDir_tree Name _ os path world
  split
  · rename_i heq
    rw [heq] at htree
    exact htree
  · rename_i heq
    rw [heq] at htree
    exact htree

theorem alters_writeFile (path : PathText Name) (flags : UInt32) (offset : UInt64)
    (data : Bytes) (world : World Name) (requestId : UInt32) :
    Alters world.tree (writeFile os path flags offset data world requestId).2.tree := by
  have hopens := @opensWrite_openWrite Name _ os path world (flags &&& sshFxfCreat != 0)
    (flags &&& sshFxfTrunc != 0)
  rw [writeFile]
  split
  · rename_i location opened hopen
    rw [hopen] at hopens
    have hopened : FileOrMissing world.tree location ∧ (opened.tree = world.tree ∨
        ∃ content attributes,
          opened.tree = world.tree.insert location (.file content attributes)) := by
      cases hopens with
      | kept _ _ hfile htruncate htree => exact ⟨.inr hfile, .inl htree⟩
      | created _ _ hmissing htree => exact ⟨.inl hmissing, .inr ⟨_, _, htree⟩⟩
      | emptied _ _ content attributes hfile htruncate htree =>
          exact ⟨.inr ⟨content, attributes, hfile⟩, .inr ⟨_, _, htree⟩⟩
    obtain ⟨htarget, hopened⟩ := hopened
    have hfirst : Alters world.tree opened.tree := by
      rcases hopened with htree | ⟨content, attributes, htree⟩
      · rw [htree]
        exact .same
      · rw [htree]
        exact .file location content attributes htarget
    -- the second change is to the same file
    have hboth : Alters world.tree (writeAllAt os location offset data opened).2.tree := by
      rcases @writeAllAt_tree Name _ os opened location offset data with
        htree | ⟨content, attributes, -, htree⟩
      · rw [htree]
        exact hfirst
      · rw [htree]
        rcases hopened with hopened | ⟨content', attributes', hopened⟩
        · rw [hopened]
          exact .file location content attributes htarget
        · rw [hopened, AList.insert_insert]
          exact .file location content attributes htarget
    split
    · exact hfirst
    · split
      · rename_i heq
        rw [heq] at hboth
        exact hboth
      · rename_i heq
        rw [heq] at hboth
        exact hboth
  · rename_i hopen
    rw [hopen] at hopens
    cases hopens
    exact .same

theorem alters_withPath {handler : Handler} {pkt : SftpPacket} {denied : UInt32 × String}
    {next : PathText Name → Bytes → Served}
    (hnext : ∀ path rest, Alters world.tree (next path rest).world.tree) :
    Alters world.tree (withPath os handler world pkt denied next).world.tree := by
  rw [withPath]
  split
  · split
    · exact hnext _ _
    · exact .same
  · exact .same

theorem alters_changePath {handler : Handler} {pkt : SftpPacket}
    {change : PathText Name → World Name → Option Unit × World Name} {failed : String}
    (hchange : ∀ path, Alters world.tree (change path world).2.tree) :
    Alters world.tree (changePath os handler world pkt change failed).world.tree := by
  apply alters_withPath
  intro path rest
  have halters := hchange path
  split
  · rename_i heq
    rw [heq] at halters
    exact halters
  · rename_i heq
    rw [heq] at halters
    exact halters

theorem alters_createDir (path : PathText Name) :
    Alters world.tree (createDir os path world).2.tree := by
  rcases createDir_cases os path world with hfailed | ⟨location, later, hmissing, hmade, htree⟩
  · rw [hfailed]
    exact .same
  · rw [hmade, htree]
    exact .directory location _ hmissing

theorem alters_removes {path : PathText Name} {removed : Option Unit × World Name}
    (hcases : removed = (none, world) ∨ Removes os path world removed) :
    Alters world.tree removed.2.tree := by
  rcases hcases with rfl | ⟨location, later, -, -, rfl, htree⟩
  · exact .same
  · rw [htree]
    exact .erased location

theorem alters_of_tree {tree : DirTree Name} (htree : tree = world.tree) :
    Alters world.tree tree := by
  rw [htree]
  exact .same

/-- What one request does to the tree. -/
theorem alters_handleRequest (os : Os Name) (handler : Handler) (world : World Name)
    (pkt : SftpPacket) : Alters world.tree (handleRequest os handler world pkt).world.tree := by
  rw [handleRequest]
  cases operationOf pkt.packetType with
  | realpath => exact alters_withPath fun path rest => .same
  | stat => exact alters_of_tree handleStat_tree
  | opendir => exact alters_of_tree handleOpendir_tree
  | readdir => exact alters_of_tree handleReaddir_tree
  | close => exact alters_of_tree handleClose_tree
  | openFile => exact alters_of_tree handleOpen_tree
  | read => exact alters_of_tree handleRead_tree
  | write =>
      dsimp only
      rcases handleWrite_cases os handler world pkt with
        ⟨path, flags, offset, data, -, hserved⟩ | ⟨-, code, message, hserved⟩
      · rw [hserved]
        exact alters_writeFile path flags offset data world pkt.requestId
      · rw [hserved]
        exact .same
  | mkdir => exact alters_changePath fun path => alters_createDir path
  | rmdir => exact alters_changePath fun path => alters_removes (removeDir_cases os path world)
  | remove => exact alters_changePath fun path => alters_removes (removeFile_cases os path world)
  | unsupported => exact .same

end SwiftSsh.RequestEffects
