import SwiftSsh.SftpDownload
import SwiftSsh.SftpUpload

namespace SwiftSsh.FileTransfer

open SwiftSsh.ByteWords
open SwiftSsh.RustOutcome
open SwiftSsh.WireTypes
open SwiftSsh.WireBuffer
open SwiftSsh.FileTree
open SwiftSsh.FileSystem
open SwiftSsh.SftpPaths
open SwiftSsh.SftpProtocol
open SwiftSsh.SftpHandler
open SwiftSsh.SftpUpload
open SwiftSsh.SftpDownload

/-- Flags of a handle through which a file grows: WRITE without TRUNC. -/
structure Accumulates (flags : UInt32) : Prop where
  writes : flags &&& sshFxfWrite ≠ 0
  keeps : (flags &&& sshFxfTrunc != 0) = false

/-- What the writes leave of a file with some content. -/
def written (content : Bytes) (chunks : List Chunk) : Bytes :=
  chunks.foldl applyWrite content

variable {os : Os Name} {path : PathText Name} {location : List Name} {world : World Name}
variable {handler : Handler} {handle : Bytes} {flags : UInt32}

theorem serve_write (hflags : Accumulates flags) (hhandle : handle.length ≤ maxPacketSize)
    (hlookup : handler.openFiles.lookup handle = some (path, flags))
    (hready : Ready os path location world.tree)
    (hcreates : world.tree.lookup location = none → (flags &&& sshFxfCreat != 0) = true)
    {chunk : Chunk}
    (hsuccess : Succeeded (handleRequest os handler world (writeRequest handle chunk)).response) :
    (handleRequest os handler world (writeRequest handle chunk)).handler = handler ∧
      HoldsFile (handleRequest os handler world (writeRequest handle chunk)).world.tree location
        (applyWrite (contentAt world.tree location) chunk) ∧
      Ready os path location
        (handleRequest os handler world (writeRequest handle chunk)).world.tree := by
  have hserve := serve_writeRequest hhandle hlookup hflags.writes hsuccess
  rw [hserve] at hsuccess ⊢
  have hwritten := holdsFile_writeFile hready hcreates hsuccess
  rw [hflags.keeps, if_neg Bool.false_ne_true] at hwritten
  exact ⟨rfl, hwritten⟩

theorem contentAt_of_holdsFile {tree : DirTree Name} {content : Bytes}
    (hholds : HoldsFile tree location content) : contentAt tree location = content := by
  obtain ⟨attributes, hfile⟩ := hholds
  rw [contentAt, hfile]

/-- Writes that all succeed are all kept. -/
theorem serveAll_writes (hflags : Accumulates flags) (hhandle : handle.length ≤ maxPacketSize)
    (hlookup : handler.openFiles.lookup handle = some (path, flags))
    (hready : Ready os path location world.tree) {content : Bytes}
    (hholds : HoldsFile world.tree location content) {chunks : List Chunk}
    (hsuccess : ∀ response ∈
      (serveAll os handler world (chunks.map (writeRequest handle))).responses,
      Succeeded response) :
    HoldsFile (serveAll os handler world (chunks.map (writeRequest handle))).world.tree location
        (written content chunks) ∧
      Ready os path location
        (serveAll os handler world (chunks.map (writeRequest handle))).world.tree := by
  induction chunks generalizing world content with
  | nil => exact ⟨hholds, hready⟩
  | cons chunk chunks ih =>
      rw [List.map_cons, serveAll_cons_responses] at hsuccess
      obtain ⟨hhandler, hnext, hlater⟩ := serve_write hflags hhandle hlookup hready
        (fun hnone => absurd hnone hholds.lookup_ne_none) (hsuccess _ List.mem_cons_self)
      rw [hhandler] at hsuccess
      rw [contentAt_of_holdsFile hholds] at hnext
      rw [List.map_cons, serveAll_cons_world, hhandler]
      exact ih hlater hnext fun response hmem => hsuccess response (List.mem_cons_of_mem _ hmem)

theorem serveAll_first_writes (hflags : Accumulates flags)
    (hhandle : handle.length ≤ maxPacketSize)
    (hlookup : handler.openFiles.lookup handle = some (path, flags))
    (hready : Ready os path location world.tree)
    (hcreates : world.tree.lookup location = none → (flags &&& sshFxfCreat != 0) = true)
    {chunks : List Chunk} (hchunks : chunks ≠ [])
    (hsuccess : ∀ response ∈
      (serveAll os handler world (chunks.map (writeRequest handle))).responses,
      Succeeded response) :
    HoldsFile (serveAll os handler world (chunks.map (writeRequest handle))).world.tree location
        (written (contentAt world.tree location) chunks) ∧
      Ready os path location
        (serveAll os handler world (chunks.map (writeRequest handle))).world.tree := by
  obtain ⟨chunk, chunks, rfl⟩ := List.exists_cons_of_ne_nil hchunks
  rw [List.map_cons, serveAll_cons_responses] at hsuccess
  obtain ⟨hhandler, hnext, hlater⟩ := serve_write hflags hhandle hlookup hready hcreates
    (hsuccess _ List.mem_cons_self)
  rw [hhandler] at hsuccess
  rw [List.map_cons, serveAll_cons_world, hhandler]
  exact serveAll_writes hflags hhandle hlookup hlater hnext fun response hmem =>
    hsuccess response (List.mem_cons_of_mem _ hmem)

/-- A turn of a download through the same handle, before the file changes again. -/
structure Follows (os : Os Name) (handle : Bytes) (path : PathText Name) (flags : UInt32)
    (location : List Name) (tree : DirTree Name) (turn : Turn) : Prop where
  handle : turn.handler.openFiles.lookup handle = some (path, flags)
  unchanged : turn.world.tree = tree
  opens : os.permits tree (.openFile location) = true
  reads : os.permits tree (.read location) = true

/-- What is written through a handle is read back through it. Let a handle be open for
writing without truncation on a path that leads to a file, or, with CREAT, to a place for
one, and let one or more WRITE requests through it all succeed. Then a client that reads
through the handle from the start gets, after finitely many requests, what the writes leave of
the old content of the file, which is nothing if there was no file. -/
theorem written_then_read (os : Os Name) (handler : Handler) (world : World Name)
    (number flags length : UInt32) (path : PathText Name) (location : List Name)
    (chunks : List Chunk) (turns : Nat → Turn) (hflags : Accumulates flags)
    (hlookup : handler.openFiles.lookup (be32 number) = some (path, flags))
    (hready : Ready os path location world.tree)
    (hcreates : world.tree.lookup location = none → (flags &&& sshFxfCreat != 0) = true)
    (hchunks : chunks ≠ [])
    (hsuccess : ∀ response ∈
      (serveAll os handler world (chunks.map (writeRequest (be32 number)))).responses,
      Succeeded response)
    (hsmall : (written (contentAt world.tree location) chunks).length < 2 ^ 63)
    (hasked : 1 ≤ length.toNat)
    (hturns : ∀ k, Follows os (be32 number) path flags location
      (serveAll os handler world (chunks.map (writeRequest (be32 number)))).world.tree
      (turns k)) :
    ∃ pieces, (∀ fuel, (written (contentAt world.tree location) chunks).length < fuel →
        download os turns (be32 number) length fuel = some pieces) ∧
      pieces.flatten = written (contentAt world.tree location) chunks := by
  obtain ⟨⟨attributes, hfile⟩, hlater⟩ :=
    serveAll_first_writes hflags (be32_length_le number) hlookup hready hcreates hchunks
      hsuccess
  have hne : length ≠ 0 := by
    rintro rfl
    exact absurd hasked (by decide)
  have hopen : ∀ k, OpenOn os (be32 number) (written (contentAt world.tree location) chunks)
      (turns k) := by
    intro k
    obtain ⟨hhandle, htree, hopens, hreads⟩ := hturns k
    refine ⟨path, flags, location, attributes, hhandle, ?_⟩
    rw [htree]
    refine ⟨locate_existing ?_ hlater.locate, hfile, hopens, hreads⟩
    rw [hfile]
    exact Option.some_ne_none _
  have hsupplies : Supplies (written (contentAt world.tree location) chunks)
      (min length.toNat 32768)
      (fun turn offset => (turns turn).reply os (be32 number) offset length) :=
    fun turn offset hbefore hseek => reply_of_openOn (hopen turn) hne hbefore hseek
  obtain ⟨pieces, hloop, -, hflatten⟩ :=
    readLoop_of_supplies hsupplies hsmall _ 0 0 (Nat.zero_add _)
  exact ⟨pieces, hloop, hflatten⟩

/-- A handler with one handle, open for writing on a place for a new file. -/
def sampleHandler : Handler :=
  { newHandler sampleRoot with
    openFiles := AList.insert (be32 0) (pathOf newLocation, sshFxfWrite ||| sshFxfCreat) ∅ }

/-- Two writes next to each other. Truncation would have kept only the second one. -/
def sampleChunks : List Chunk :=
  [⟨3, 0, [97], by decide⟩, ⟨4, 1, [98], by decide⟩]

/-- What the two writes leave. -/
def sampleStored : World Name :=
  (serveAll plainOs sampleHandler newWorld (sampleChunks.map (writeRequest (be32 0)))).world

theorem written_then_read_sample :
    ∃ pieces, (∀ fuel, 2 < fuel →
        download plainOs (fun k => ⟨UInt32.ofNat k, sampleHandler, sampleStored⟩) (be32 0) 1
          fuel = some pieces) ∧ pieces.flatten = [97, 98] := by
  have hready : Ready plainOs (pathOf newLocation) newLocation newWorld.tree :=
    ⟨by decide +kernel, Or.inl (by decide +kernel)⟩
  exact written_then_read plainOs sampleHandler newWorld 0 (sshFxfWrite ||| sshFxfCreat) 1
    (pathOf newLocation) newLocation sampleChunks
    (fun k => ⟨UInt32.ofNat k, sampleHandler, sampleStored⟩) ⟨by decide, by decide⟩
    (AList.lookup_insert _) hready (fun _ => by decide) (by decide) (by decide +kernel)
    (by decide +kernel) (by decide) fun k => ⟨AList.lookup_insert _, rfl, rfl, rfl⟩

end SwiftSsh.FileTransfer
