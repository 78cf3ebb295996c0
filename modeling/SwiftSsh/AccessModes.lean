import SwiftSsh.HandleIntegrity
import SwiftSsh.RequestEffects
import SwiftSsh.SftpDownload

namespace SwiftSsh.AccessModes

open SwiftSsh.ByteWords
open SwiftSsh.RustOutcome
open SwiftSsh.RunHistory
open SwiftSsh.WireTypes
open SwiftSsh.WireBuffer
open SwiftSsh.FileTree
open SwiftSsh.FileSystem
open SwiftSsh.TreeChanges
open SwiftSsh.SftpPaths
open SwiftSsh.SftpProtocol
open SwiftSsh.SftpHandler
open SwiftSsh.SftpReplies
open SwiftSsh.SftpDownload
open SwiftSsh.RequestEffects
open SwiftSsh.HandleTable
open SwiftSsh.HandleIntegrity

/-- The flags after one more entry of the log. -/
def grantStep (handle : Bytes) (current : Option UInt32) : Entry → Option UInt32
  | .opened other (.file _ flags) => if other = handle then some flags else current
  | _ => current

/-- The flags of the OPEN request that returned a handle, the latest one if the
handle was given out more than once. -/
def grantedFlags (log : List Entry) (handle : Bytes) : Option UInt32 :=
  log.foldl (grantStep handle) none

/-- A request for an open file or directory. -/
def NamesHandle (request : SftpPacket) (handle : Bytes) : Prop :=
  operationOf request.packetType ∈ [Operation.read, .write, .readdir, .close] ∧
    ∃ rest, readString request.data = .ok (handle, rest)

variable (os : Os Name) (root : PathText Name)

/-- A request keeps to the flags of the handle it names. -/
structure Enforced (earlier : List Arrival) (arrival : Arrival) : Prop where
  read : ∀ handle flags, NamesHandle arrival.request handle →
    grantedFlags (logAfter os root earlier) handle = some flags → flags &&& sshFxfRead = 0 →
    (served os (handlerAfter os root earlier) arrival).response.packetType ≠ sshFxpData
  write : ∀ handle flags, NamesHandle arrival.request handle →
    grantedFlags (logAfter os root earlier) handle = some flags → flags &&& sshFxfWrite = 0 →
    ∀ location, (served os (handlerAfter os root earlier) arrival).world.tree.lookup location =
      arrival.world.tree.lookup location

/-- There is something to be read at an offset of the file at a path. -/
def Readable (path : PathText Name) (offset : UInt64) (length : Nat) (world : World Name) :
    Prop :=
  ∃ location content attributes,
    locate world.tree os.linkLimit os.cwd .existing path = some location ∧
    world.tree.lookup location = some (.file content attributes) ∧
    os.permits world.tree (.openFile location) = true ∧
    os.permits world.tree (.read location) = true ∧
    offset.toNat < 2 ^ 63 ∧ offset.toNat < content.length ∧ 0 < length

/-- A READ by a handle that was not opened for reading, of a file that has something
at the offset. -/
def ReadsUnread (handler : Handler) (arrival : Arrival) : Prop :=
  operationOf arrival.request.packetType = .read ∧
    ∃ path flags offset length,
      readTarget handler arrival.request = some (path, flags, offset, length) ∧
      flags &&& sshFxfRead = 0 ∧ Readable os path offset length.toNat arrival.world

variable {os root} {handler : Handler} {arrival : Arrival} {world : World Name}
  {pkt : SftpPacket}

section Read

variable {path : PathText Name} {offset : UInt64} {length : Nat}

theorem readFile_data_of_readable (hreadable : Readable os path offset length world)
    (requestId : UInt32) :
    (readFile os path offset length world requestId).1.packetType = sshFxpData := by
  obtain ⟨location, content, attributes, hlocate, hfile, hopens, hreads, hseek, hbefore,
    hlength⟩ := hreadable
  have hreply := readFile_of_readable hlocate hfile hopens hreads hbefore.le hseek length requestId
  have havailable : 0 < ((content.drop offset.toNat).take (min length 32768)).length := by
    rw [List.length_take, List.length_drop]
    omega
  have hcount := os.readCount_pos offset.toNat _ havailable
  rw [hreply, if_neg]
  · rfl
  · intro hnil
    have hzero := congrArg List.length hnil
    rw [List.length_take, List.length_nil] at hzero
    omega

theorem openRead_some {location : List Name} {opened : World Name}
    (hopen : openRead os path world = (some location, opened)) :
    locate world.tree os.linkLimit os.cwd .existing path = some location ∧
      os.permits world.tree (.openFile location) = true := by
  rw [openRead] at hopen
  split at hopen
  · cases hopen
  · rename_i found hlocate
    split at hopen
    · cases hopen
    · rw [perform] at hopen
      split at hopen
      · rename_i hpermits
        cases hopen
        exact ⟨hlocate, hpermits⟩
      · cases hopen

theorem readAt_some {location : List Name} {bytes : Bytes} {count : Nat} {later : World Name}
    (hread : readAt os location offset count world = (some bytes, later)) :
    ∃ content attributes, world.tree.lookup location = some (.file content attributes) ∧
      os.permits world.tree (.read location) = true ∧
      bytes.length ≤ min count (content.length - offset.toNat) := by
  rw [readAt] at hread
  split at hread
  · rename_i content attributes hfile
    rw [perform] at hread
    split at hread
    · rename_i hpermits
      cases hread
      refine ⟨content, attributes, hfile, hpermits, ?_⟩
      rw [List.length_take, List.length_take, List.length_drop]
      exact Nat.min_le_right _ _
    · cases hread
  · cases hread

theorem readable_of_readFile_data {requestId : UInt32}
    (hdata : (readFile os path offset length world requestId).1.packetType = sshFxpData) :
    Readable os path offset length world := by
  have hstatus : sshFxpStatus ≠ sshFxpData := by decide
  have htree := @openRead_tree Name _ os path world
  rw [readFile] at hdata
  split at hdata
  · rename_i location opened hopen
    rw [hopen] at htree
    change opened.tree = world.tree at htree
    obtain ⟨hlocate, hopens⟩ := openRead_some hopen
    split at hdata
    · exact absurd hdata hstatus
    · rename_i hseek
      rw [Bool.not_eq_true, Bool.not_eq_false'] at hseek
      split at hdata
      · exact absurd hdata hstatus
      · rename_i bytes later hne hread
        obtain ⟨content, attributes, hfile, hreads, hcount⟩ := readAt_some hread
        rw [htree] at hfile hreads
        have hpos : 0 < bytes.length := by
          rw [List.length_pos_iff]
          rintro rfl
          exact hne rfl
        exact ⟨location, content, attributes, hlocate, hfile, hopens, hreads,
          os.canSeek_lt _ _ _ hseek, by omega, by omega⟩
      · exact absurd hdata hstatus
  · exact absurd hdata hstatus

end Read

/-- Every open file has the flags of the request that returned its handle. -/
def Grants (log : List Entry) (handler : Handler) : Prop :=
  ∀ handle path flags, handler.openFiles.lookup handle = some (path, flags) →
    grantedFlags log handle = some flags

theorem grantedFlags_concat (log : List Entry) (entry : Entry) (handle : Bytes) :
    grantedFlags (log ++ [entry]) handle = grantStep handle (grantedFlags log handle) entry := by
  rw [grantedFlags, List.foldl_append]
  rfl

theorem Grants.step {log : List Entry} (hgrants : Grants log handler) (arrival : Arrival) :
    Grants (log ++ entriesOf os handler arrival) (served os handler arrival).handler := by
  have hstep := steps_served os handler arrival
  rw [Steps] at hstep
  generalize hresponse : (served os handler arrival).response = response at hstep
  generalize (served os handler arrival).handler = later at hstep
  intro handle path flags hlookup
  cases hstep with
  | unchanged response hopens hentries htype =>
      rw [hentries, List.append_nil]
      exact hgrants handle path flags hlookup
  | openedFile path' flags' hopens =>
      rw [entriesOf_opened hopens hresponse, grantedFlags_concat, grantStep]
      dsimp only at hlookup
      by_cases hsame : be32 handler.nextHandle = handle
      · rw [hsame, AList.lookup_insert] at hlookup
        cases hlookup
        exact if_pos hsame
      · rw [AList.lookup_insert_ne (Ne.symm hsame)] at hlookup
        rw [if_neg hsame]
        exact hgrants handle path flags hlookup
  | openedDirectory path' hopens =>
      rw [entriesOf_opened hopens hresponse, grantedFlags_concat]
      exact hgrants handle path flags hlookup
  | listed response other path' hopens hentries hopen htype =>
      rw [hentries, List.append_nil]
      exact hgrants handle path flags hlookup
  | closed response other hopens hentries htype =>
      rw [hentries, grantedFlags_concat]
      dsimp only at hlookup
      by_cases hsame : handle = other
      · rw [hsame, AList.lookup_erase] at hlookup
        cases hlookup
      · rw [AList.lookup_erase_ne hsame] at hlookup
        exact hgrants handle path flags hlookup

/-- The invariant over every session, whatever happens to the files in between. -/
theorem grants_after (os : Os Name) (root : PathText Name) (arrivals : List Arrival) :
    Grants (logAfter os root arrivals) (handlerAfter os root arrivals) := by
  refine @Machine.after_induction _ _ _ (session os) (newHandler root)
    (fun earlier handler => Grants (logAfter os root earlier) handler) (fun _ _ => True)
    ?_ ?_ arrivals (fun _ _ _ _ => trivial)
  · intro handle path flags hlookup
    cases hlookup
  · intro earlier arrival hgrants _
    rw [logAfter_concat]
    exact hgrants.step arrival

theorem data_iff :
    (served os handler arrival).response.packetType = sshFxpData ↔
      operationOf arrival.request.packetType = .read ∧ ∃ path flags offset length,
        readTarget handler arrival.request = some (path, flags, offset, length) ∧
        Readable os path offset length.toNat arrival.world := by
  have hread : operationOf arrival.request.packetType = .read →
      served os handler arrival = handleRead os handler arrival.world arrival.request := by
    intro hoperation
    rw [served, handleRequest, hoperation]
  constructor
  · intro hdata
    have hoperation : operationOf arrival.request.packetType = .read := by
      have hresponds := responds_handleRequest os handler arrival.world arrival.request
      rw [served] at hdata
      generalize (handleRequest os handler arrival.world arrival.request).response = response
        at hdata hresponds
      cases hresponds with
      | status code message hshort =>
          exact absurd hdata (show sshFxpStatus ≠ sshFxpData by decide)
      | handle hoperation => exact absurd hdata (show sshFxpHandle ≠ sshFxpData by decide)
      | data hoperation bytes hshort => exact hoperation
      | attrs hoperation data => exact absurd hdata (show sshFxpAttrs ≠ sshFxpData by decide)
      | realpath hoperation hread hresolve =>
          exact absurd hdata (show sshFxpName ≠ sshFxpData by decide)
      | listing hoperation hread hopen hlisted =>
          exact absurd hdata (show sshFxpName ≠ sshFxpData by decide)
    refine ⟨hoperation, ?_⟩
    rw [hread hoperation] at hdata
    rcases handleRead_cases os handler arrival.world arrival.request with
      ⟨path, flags, offset, length, htarget, hserved⟩ | ⟨-, code, message, hserved⟩
    · rw [hserved] at hdata
      exact ⟨path, flags, offset, length, htarget, readable_of_readFile_data hdata⟩
    · rw [hserved] at hdata
      exact absurd hdata (show sshFxpStatus ≠ sshFxpData by decide)
  · rintro ⟨hoperation, path, flags, offset, length, htarget, hreadable⟩
    rw [hread hoperation]
    rcases handleRead_cases os handler arrival.world arrival.request with
      ⟨path', flags', offset', length', htarget', hserved⟩ | ⟨hnone, -⟩
    · rw [htarget] at htarget'
      cases htarget'
      rw [hserved]
      exact readFile_data_of_readable hreadable _
    · rw [htarget] at hnone
      cases hnone

theorem tree_of_namesHandle {handle : Bytes} (hnames : NamesHandle arrival.request handle) :
    (served os handler arrival).world.tree = arrival.world.tree ∨
      ∃ path flags, handler.openFiles.lookup handle = some (path, flags) ∧
        flags &&& sshFxfWrite ≠ 0 := by
  obtain ⟨hoperation, rest, hhandle⟩ := hnames
  simp only [List.mem_cons, List.not_mem_nil, or_false] at hoperation
  rw [served, handleRequest]
  rcases hoperation with hread | hwrite | hreaddir | hclose
  · rw [hread]
    exact .inl handleRead_tree
  · rw [hwrite]
    dsimp only
    rcases handleWrite_cases os handler arrival.world arrival.request with
      ⟨path, flags, offset, data, htarget, hserved⟩ | ⟨-, code, message, hserved⟩
    · right
      obtain ⟨hflags, named, rest', hnamed, hlookup⟩ := lookup_of_writeTarget htarget
      rw [hhandle] at hnamed
      cases hnamed
      exact ⟨path, flags, hlookup, hflags⟩
    · left
      rw [hserved]
  · rw [hreaddir]
    exact .inl handleReaddir_tree
  · rw [hclose]
    exact .inl handleClose_tree

/-- One request: the flags are kept to exactly when it does not read by a handle
that was not opened for reading. -/
theorem enforced_iff (earlier : List Arrival) (arrival : Arrival) :
    Enforced os root earlier arrival ↔
      ¬ ReadsUnread os (handlerAfter os root earlier) arrival := by
  have hgrants := grants_after os root earlier
  constructor
  · rintro henforced ⟨hoperation, path, flags, offset, length, htarget, hflags, hreadable⟩
    obtain ⟨handle, rest, hhandle, hlookup⟩ := lookup_of_readTarget htarget
    refine henforced.read handle flags ⟨by simp [hoperation], rest, hhandle⟩
      (hgrants handle path flags hlookup) hflags ?_
    exact data_iff.mpr ⟨hoperation, path, flags, offset, length, htarget, hreadable⟩
  · intro hread
    constructor
    · rintro handle flags ⟨-, rest, hhandle⟩ hgranted hflags hdata
      obtain ⟨hoperation, path, flags', offset, length, htarget, hreadable⟩ := data_iff.mp hdata
      obtain ⟨named, rest', hnamed, hlookup⟩ := lookup_of_readTarget htarget
      rw [hhandle] at hnamed
      cases hnamed
      rw [hgrants handle path flags' hlookup] at hgranted
      cases hgranted
      exact hread ⟨hoperation, path, flags, offset, length, htarget, hflags, hreadable⟩
    · intro handle flags hnames hgranted hflags location
      rcases tree_of_namesHandle hnames with htree | ⟨path, flags', hlookup, hwrite⟩
      · rw [htree]
      · rw [hgrants handle path flags' hlookup] at hgranted
        cases hgranted
        exact absurd hflags hwrite

/-- Over a whole session the flags are kept to exactly when no READ names a handle
that is open, was not opened for reading, and has something to be read at the
offset. The flag for writing is always kept to. -/
theorem access_modes_iff (os : Os Name) (root : PathText Name) (arrivals : List Arrival) :
    Machine.Always arrivals (Enforced os root) ↔
      Machine.Always arrivals fun earlier arrival =>
        ¬ ReadsUnread os (handlerAfter os root earlier) arrival := by
  constructor
  · intro hall earlier arrival later heq
    exact (enforced_iff earlier arrival).mp (hall earlier arrival later heq)
  · intro hall earlier arrival later heq
    exact (enforced_iff earlier arrival).mpr (hall earlier arrival later heq)

/-- The file of the sample root is opened for writing only, and read. -/
def writerReads : List Arrival :=
  [sampleOpen, ⟨readRequest 2 (be32 0) 0 100, ⟨sampleTree, []⟩⟩]

theorem writer_reads_data :
    ¬ ∀ (os : Os Name) (root : PathText Name) (arrivals : List Arrival),
      Machine.Always arrivals (Enforced os root) := by
  intro hall
  refine (hall plainOs sampleRoot writerReads [sampleOpen]
    ⟨readRequest 2 (be32 0) 0 100, ⟨sampleTree, []⟩⟩ [] rfl).read (be32 0) sshFxfWrite
    ⟨by decide +kernel, be64 0 ++ writeU32 100, by decide +kernel⟩ ?_ (by decide) ?_
  · decide +kernel
  · decide +kernel

end SwiftSsh.AccessModes
