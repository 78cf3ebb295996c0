import SwiftSsh.SftpPaths
import SwiftSsh.SftpProtocol

/-!
The server-side handler of file transfer requests. It keeps paths, not open
files: every request opens its path again.
-/

namespace SwiftSsh.SftpHandler

open SwiftSsh.ByteWords
open SwiftSsh.RustOutcome
open SwiftSsh.WireTypes
open SwiftSsh.WireBuffer
open SwiftSsh.FileTree
open SwiftSsh.FileSystem
open SwiftSsh.SftpPaths
open SwiftSsh.SftpProtocol

/-- The open files and directories by their handles, and the root. -/
structure Handler where
  nextHandle : UInt32
  openFiles : AList fun _ : Bytes => PathText Name × UInt32
  openDirs : AList fun _ : Bytes => PathText Name × Bool
  root : PathText Name

/-- A handler without handles. -/
def newHandler (root : PathText Name) : Handler :=
  ⟨0, ∅, ∅, root⟩

/-- What serving a request leaves. -/
structure Served where
  response : SftpPacket
  handler : Handler
  world : World Name

/-- The attributes that a client is told. -/
def metadataToAttrs (data : Metadata) : FileAttrs :=
  { flags := sshFilexferAttrSize ||| sshFilexferAttrPermissions ||| sshFilexferAttrUidgid
    size := some data.attributes.size
    uid := some data.attributes.uid
    gid := some data.attributes.gid
    permissions := some data.attributes.mode
    atime := none
    mtime := none }

/-- A handle is the number of it, which wraps around. -/
def allocHandle (handler : Handler) : Bytes × Handler :=
  (be32 handler.nextHandle, { handler with nextHandle := handler.nextHandle + 1 })

variable (os : Os Name)

/-- The common start of the requests that name a path. `denied` is the response
when the path is not accepted. -/
def withPath (handler : Handler) (world : World Name) (pkt : SftpPacket)
    (denied : UInt32 × String) (next : PathText Name → Bytes → Served) : Served :=
  match readUtf8 pkt.data with
  | .ok (path, rest) =>
      match resolvePath os handler.root path world with
      | .ok resolved => next resolved rest
      | _ => ⟨buildSftpStatus pkt.requestId denied.1 denied.2, handler, world⟩
  | _ => ⟨buildSftpStatus pkt.requestId sshFxFailure "Bad path", handler, world⟩

/-- REALPATH answers with the resolved path. -/
def handleRealpath (handler : Handler) (world : World Name) (pkt : SftpPacket) : Served :=
  withPath os handler world pkt (sshFxNoSuchFile, "Not found") fun resolved _ =>
    ⟨buildSftpName pkt.requestId [(fromUtf8Lossy (textOf resolved), FileAttrs.default)],
      handler, world⟩

/-- STAT and LSTAT both follow links. -/
def handleStat (handler : Handler) (world : World Name) (pkt : SftpPacket) : Served :=
  withPath os handler world pkt (sshFxNoSuchFile, "Not found") fun resolved _ =>
    match metadata os resolved world with
    | (some data, world) =>
        ⟨buildSftpAttrs pkt.requestId (metadataToAttrs data), handler, world⟩
    | (none, world) =>
        ⟨buildSftpStatus pkt.requestId sshFxNoSuchFile "Not found", handler, world⟩

/-- OPENDIR takes directories only. -/
def handleOpendir (handler : Handler) (world : World Name) (pkt : SftpPacket) : Served :=
  withPath os handler world pkt (sshFxNoSuchFile, "Not found") fun resolved _ =>
    match isDir os resolved world with
    | (true, world) =>
        let (handle, handler) := allocHandle handler
        ⟨buildSftpHandle pkt.requestId handle,
          { handler with openDirs := handler.openDirs.insert handle (resolved, false) }, world⟩
    | (false, world) =>
        ⟨buildSftpStatus pkt.requestId sshFxNoSuchFile "Not a directory", handler, world⟩

/-- A name that is not UTF-8 is replaced. -/
def listedEntry (entry : Name × Option Metadata) : String × FileAttrs :=
  (fromUtf8Lossy entry.1, (entry.2.map metadataToAttrs).getD FileAttrs.default)

/-- READDIR lists everything in one response, and the end after that. -/
def handleReaddir (handler : Handler) (world : World Name) (pkt : SftpPacket) : Served :=
  match readString pkt.data with
  | .ok (handle, _) =>
      match handler.openDirs.lookup handle with
      | none => ⟨buildSftpStatus pkt.requestId sshFxFailure "Invalid handle", handler, world⟩
      | some (_, true) =>
          ⟨buildSftpStatus pkt.requestId sshFxEof "End of directory", handler, world⟩
      | some (path, false) =>
          let handler :=
            { handler with openDirs := handler.openDirs.insert handle (path, true) }
          match readDir os path world with
          | (some entries, world) =>
              ⟨buildSftpName pkt.requestId (entries.map listedEntry), handler, world⟩
          | (none, world) =>
              ⟨buildSftpStatus pkt.requestId sshFxPermissionDenied "Cannot read dir",
                handler, world⟩
  | _ => ⟨buildSftpStatus pkt.requestId sshFxFailure "Bad handle", handler, world⟩

/-- CLOSE succeeds for handles that were never given out, too. -/
def handleClose (handler : Handler) (world : World Name) (pkt : SftpPacket) : Served :=
  match readString pkt.data with
  | .ok (handle, _) =>
      ⟨buildSftpStatus pkt.requestId sshFxOk "OK",
        { handler with
          openFiles := handler.openFiles.erase handle
          openDirs := handler.openDirs.erase handle }, world⟩
  | _ => ⟨buildSftpStatus pkt.requestId sshFxFailure "Bad handle", handler, world⟩

/-- The flags are read before the path is resolved; the attributes after them
are not used. -/
def handleOpen (handler : Handler) (world : World Name) (pkt : SftpPacket) : Served :=
  match readUtf8 pkt.data with
  | .ok (path, rest) =>
      match readU32 rest with
      | .ok (flags, _) =>
          match resolvePath os handler.root path world with
          | .ok resolved =>
              let (handle, handler) := allocHandle handler
              ⟨buildSftpHandle pkt.requestId handle,
                { handler with
                  openFiles := handler.openFiles.insert handle (resolved, flags) }, world⟩
          | _ => ⟨buildSftpStatus pkt.requestId sshFxNoSuchFile "Path error", handler, world⟩
      | _ => ⟨buildSftpStatus pkt.requestId sshFxFailure "Bad flags", handler, world⟩
  | _ => ⟨buildSftpStatus pkt.requestId sshFxFailure "Bad path", handler, world⟩

/-- Read from the file at a path. -/
def readFile (path : PathText Name) (offset : UInt64) (length : Nat) (world : World Name)
    (requestId : UInt32) : SftpPacket × World Name :=
  match openRead os path world with
  | (some location, world) =>
      if !os.canSeek world.tree location offset then
        (buildSftpStatus requestId sshFxFailure "Seek failed", world)
      else
        match readAt os location offset (min length 32768) world with
        | (some [], world) => (buildSftpStatus requestId sshFxEof "EOF", world)
        | (some bytes, world) => (buildSftpData requestId bytes, world)
        | (none, world) => (buildSftpStatus requestId sshFxFailure "Read error", world)
  | (none, world) => (buildSftpStatus requestId sshFxNoSuchFile "Cannot open", world)

/-- READ opens the file again each time. -/
def handleRead (handler : Handler) (world : World Name) (pkt : SftpPacket) : Served :=
  match readString pkt.data with
  | .ok (handle, rest) =>
      match cursorReadU64 .io rest with
      | .ok (offset, rest) =>
          match readU32 rest with
          | .ok (length, _) =>
              match handler.openFiles.lookup handle with
              | some (path, _) =>
                  let served := readFile os path offset length.toNat world pkt.requestId
                  ⟨served.1, handler, served.2⟩
              | none =>
                  ⟨buildSftpStatus pkt.requestId sshFxFailure "Invalid handle", handler, world⟩
          | _ => ⟨buildSftpStatus pkt.requestId sshFxFailure "Bad length", handler, world⟩
      | _ => ⟨buildSftpStatus pkt.requestId sshFxFailure "Bad offset", handler, world⟩
  | _ => ⟨buildSftpStatus pkt.requestId sshFxFailure "Bad handle", handler, world⟩

/-- Write to the file at a path, opened with the flags of its handle. -/
def writeFile (path : PathText Name) (flags : UInt32) (offset : UInt64) (data : Bytes)
    (world : World Name) (requestId : UInt32) : SftpPacket × World Name :=
  match openWrite os (flags &&& sshFxfCreat != 0) (flags &&& sshFxfTrunc != 0) path world with
  | (some location, world) =>
      if !os.canSeek world.tree location offset then
        (buildSftpStatus requestId sshFxFailure "Seek failed", world)
      else
        match writeAllAt os location offset data world with
        | (some _, world) => (buildSftpStatus requestId sshFxOk "OK", world)
        | (none, world) => (buildSftpStatus requestId sshFxFailure "Write error", world)
  | (none, world) => (buildSftpStatus requestId sshFxPermissionDenied "Cannot open", world)

/-- WRITE opens the file again each time, with the flags of the OPEN. -/
def handleWrite (handler : Handler) (world : World Name) (pkt : SftpPacket) : Served :=
  match readString pkt.data with
  | .ok (handle, rest) =>
      match cursorReadU64 .io rest with
      | .ok (offset, rest) =>
          match readString rest with
          | .ok (data, _) =>
              match handler.openFiles.lookup handle with
              | some (path, flags) =>
                  if flags &&& sshFxfWrite = 0 then
                    ⟨buildSftpStatus pkt.requestId sshFxPermissionDenied
                      "Not opened for writing", handler, world⟩
                  else
                    let served := writeFile os path flags offset data world pkt.requestId
                    ⟨served.1, handler, served.2⟩
              | none =>
                  ⟨buildSftpStatus pkt.requestId sshFxFailure "Invalid handle", handler, world⟩
          | _ => ⟨buildSftpStatus pkt.requestId sshFxFailure "Bad data", handler, world⟩
      | _ => ⟨buildSftpStatus pkt.requestId sshFxFailure "Bad offset", handler, world⟩
  | _ => ⟨buildSftpStatus pkt.requestId sshFxFailure "Bad handle", handler, world⟩

/-- The requests that change the tree at a path. -/
def changePath (handler : Handler) (world : World Name) (pkt : SftpPacket)
    (change : PathText Name → World Name → Option Unit × World Name) (failed : String) :
    Served :=
  withPath os handler world pkt (sshFxPermissionDenied, "Bad path") fun resolved _ =>
    match change resolved world with
    | (some _, world) => ⟨buildSftpStatus pkt.requestId sshFxOk "OK", handler, world⟩
    | (none, world) => ⟨buildSftpStatus pkt.requestId sshFxFailure failed, handler, world⟩

/-- MKDIR ignores the attributes. -/
def handleMkdir (handler : Handler) (world : World Name) (pkt : SftpPacket) : Served :=
  changePath os handler world pkt (createDir os) "mkdir failed"

/-- RMDIR of an empty directory. -/
def handleRmdir (handler : Handler) (world : World Name) (pkt : SftpPacket) : Served :=
  changePath os handler world pkt (removeDir os) "rmdir failed"

/-- REMOVE of a file or a link. -/
def handleRemove (handler : Handler) (world : World Name) (pkt : SftpPacket) : Served :=
  changePath os handler world pkt (removeFile os) "remove failed"

/-- The operations of the protocol that the handler serves. -/
inductive Operation where
  | realpath
  | stat
  | opendir
  | readdir
  | close
  | openFile
  | read
  | write
  | mkdir
  | rmdir
  | remove
  | unsupported
  deriving DecidableEq

/-- The operation of a packet type. INIT is not among them. -/
def operationOf (packetType : UInt8) : Operation :=
  if packetType = sshFxpRealpath then .realpath
  else if packetType = sshFxpStat ∨ packetType = sshFxpLstat then .stat
  else if packetType = sshFxpOpendir then .opendir
  else if packetType = sshFxpReaddir then .readdir
  else if packetType = sshFxpClose then .close
  else if packetType = sshFxpOpen then .openFile
  else if packetType = sshFxpRead then .read
  else if packetType = sshFxpWrite then .write
  else if packetType = sshFxpMkdir then .mkdir
  else if packetType = sshFxpRmdir then .rmdir
  else if packetType = sshFxpRemove then .remove
  else .unsupported

/-- `handle_request`. -/
def handleRequest (handler : Handler) (world : World Name) (pkt : SftpPacket) : Served :=
  match operationOf pkt.packetType with
  | .realpath => handleRealpath os handler world pkt
  | .stat => handleStat os handler world pkt
  | .opendir => handleOpendir os handler world pkt
  | .readdir => handleReaddir os handler world pkt
  | .close => handleClose handler world pkt
  | .openFile => handleOpen os handler world pkt
  | .read => handleRead os handler world pkt
  | .write => handleWrite os handler world pkt
  | .mkdir => handleMkdir os handler world pkt
  | .rmdir => handleRmdir os handler world pkt
  | .remove => handleRemove os handler world pkt
  | .unsupported =>
      ⟨buildSftpStatus pkt.requestId sshFxOpUnsupported "Unsupported operation", handler, world⟩

theorem response_realpath {handler : Handler} {world : World Name} {pkt : SftpPacket}
    {requested : String} {rest : Bytes} {path : PathText Name}
    (hoperation : operationOf pkt.packetType = .realpath)
    (hread : readUtf8 pkt.data = .ok (requested, rest))
    (hresolve : resolvePath os handler.root requested world = .ok path) :
    (handleRequest os handler world pkt).response = buildSftpName pkt.requestId
      [(fromUtf8Lossy (textOf path), FileAttrs.default)] := by
  rw [handleRequest, hoperation]
  dsimp only
  rw [handleRealpath, withPath, hread]
  dsimp only
  rw [hresolve]

/-- What serving several requests leaves. -/
structure ServedAll where
  responses : List SftpPacket
  handler : Handler
  world : World Name

/-- Serve requests one after another. -/
def serveAll : Handler → World Name → List SftpPacket → ServedAll
  | handler, world, [] => ⟨[], handler, world⟩
  | handler, world, pkt :: pkts =>
      let served := handleRequest os handler world pkt
      let later := serveAll served.handler served.world pkts
      ⟨served.response :: later.responses, later.handler, later.world⟩

theorem serveAll_cons_world (handler : Handler) (world : World Name) (pkt : SftpPacket)
    (pkts : List SftpPacket) :
    (serveAll os handler world (pkt :: pkts)).world =
      (serveAll os (handleRequest os handler world pkt).handler
        (handleRequest os handler world pkt).world pkts).world :=
  rfl

theorem serveAll_cons_responses (handler : Handler) (world : World Name) (pkt : SftpPacket)
    (pkts : List SftpPacket) :
    (serveAll os handler world (pkt :: pkts)).responses =
      (handleRequest os handler world pkt).response ::
        (serveAll os (handleRequest os handler world pkt).handler
          (handleRequest os handler world pkt).world pkts).responses :=
  rfl

/-- An operating system that refuses nothing but offsets that are no signed
number, and reads all it can. -/
def plainOs : Os Name where
  cwd := []
  linkLimit := 40
  fileAttributes := ⟨0, 33188, 0, 0⟩
  directoryAttributes := ⟨4096, 16877, 0, 0⟩
  permits _ _ := true
  canSeek _ _ offset := offset.toNat < 2 ^ 63
  canSeek_lt _ _ _ hseek := of_decide_eq_true hseek
  canSeek_content _ _ _ _ _ _ _ hsigned := decide_eq_true hsigned
  readCount _ available := available
  readCount_pos _ _ hpos := hpos
  readCount_le _ _ := Nat.le_refl _

/-- A root with a file and a link to a directory outside. -/
def sampleTree : DirTree Name :=
  ([⟨[], .directory ⟨4096, 16877, 0, 0⟩⟩,
    ⟨[utf8 "etc"], .directory ⟨4096, 16877, 0, 0⟩⟩,
    ⟨[utf8 "srv"], .directory ⟨4096, 16877, 0, 0⟩⟩,
    ⟨[utf8 "srv", utf8 "f"], .file [1, 2, 3] ⟨3, 33188, 0, 0⟩⟩,
    ⟨[utf8 "srv", utf8 "d"], .link (pathOf [utf8 "etc"]) ⟨4, 41471, 0, 0⟩⟩] :
    List (Sigma fun _ : List Name => Object Name)).toAList

/-- The directory of the sample tree that is served. -/
def sampleRoot : PathText Name := pathFrom (utf8 "/srv")

end SwiftSsh.SftpHandler
