import SwiftSsh.HandleTable

namespace SwiftSsh.HandleIntegrity

open SwiftSsh.ByteWords
open SwiftSsh.RustOutcome
open SwiftSsh.RunHistory
open SwiftSsh.WireTypes
open SwiftSsh.WireBuffer
open SwiftSsh.FileTree
open SwiftSsh.FileSystem
open SwiftSsh.SftpPaths
open SwiftSsh.SftpProtocol
open SwiftSsh.SftpHandler
open SwiftSsh.SftpReplies
open SwiftSsh.SftpUpload
open SwiftSsh.HandleTable

variable {os : Os Name} {root : PathText Name} {handler : Handler} {arrival : Arrival}

/-- The tables hold what the log says is open. -/
structure Holds (root : PathText Name) (log : List Entry) (handler : Handler) : Prop where
  root : handler.root = root
  files : ∀ handle path flags, handler.openFiles.lookup handle = some (path, flags) ↔
    holder log handle = some (.file path flags)
  directories : ∀ handle path, (∃ listed, handler.openDirs.lookup handle = some (path, listed)) ↔
    holder log handle = some (.directory path)

variable {log : List Entry} {handle : Bytes}

theorem holder_append (log entries : List Entry) (handle : Bytes) :
    holder (log ++ entries) handle = entries.foldl (holderStep handle) (holder log handle) :=
  List.foldl_append

theorem holder_opened (log : List Entry) (other handle : Bytes) (target : Target) :
    holder (log ++ [.opened other target]) handle =
      if other = handle then some target else holder log handle :=
  holder_append _ _ _

theorem holder_closed (log : List Entry) (other handle : Bytes) :
    holder (log ++ [.closed other]) handle =
      if other = handle then none else holder log handle :=
  holder_append _ _ _

theorem holds_start (root : PathText Name) : Holds root [] (newHandler root) := by
  refine ⟨rfl, ?_, ?_⟩
  · intro handle path flags
    exact ⟨fun hlookup => (nomatch hlookup), fun hholder => (nomatch hholder)⟩
  · intro handle path
    exact ⟨fun ⟨_, hlookup⟩ => (nomatch hlookup), fun hholder => (nomatch hholder)⟩

theorem Holds.holder_eq_none_iff (hholds : Holds root log handler) :
    holder log handle = none ↔ handle ∉ handler.openFiles ∧ handle ∉ handler.openDirs := by
  rw [← AList.lookup_eq_none, ← AList.lookup_eq_none]
  constructor
  · intro hnone
    constructor
    · rw [Option.eq_none_iff_forall_ne_some]
      rintro ⟨path, flags⟩ hlookup
      rw [(hholds.files handle path flags).mp hlookup] at hnone
      cases hnone
    · rw [Option.eq_none_iff_forall_ne_some]
      rintro ⟨path, listed⟩ hlookup
      rw [(hholds.directories handle path).mp ⟨listed, hlookup⟩] at hnone
      cases hnone
  · rintro ⟨hfiles, hdirs⟩
    rw [Option.eq_none_iff_forall_ne_some]
    rintro (⟨path, flags⟩ | ⟨path⟩) hholder
    · rw [(hholds.files handle path flags).mpr hholder] at hfiles
      cases hfiles
    · obtain ⟨listed, hlookup⟩ := (hholds.directories handle path).mpr hholder
      rw [hlookup] at hdirs
      cases hdirs

theorem Holds.disjoint (hholds : Holds root log handler) (hfile : handle ∈ handler.openFiles) :
    handle ∉ handler.openDirs := by
  intro hdir
  obtain ⟨⟨path, flags⟩, hlookup⟩ := Option.isSome_iff_exists.mp (AList.lookup_isSome.mpr hfile)
  obtain ⟨⟨path', listed⟩, hlookup'⟩ := Option.isSome_iff_exists.mp (AList.lookup_isSome.mpr hdir)
  have hsame := (hholds.files handle path flags).mp hlookup
  rw [(hholds.directories handle path').mp ⟨listed, hlookup'⟩] at hsame
  cases hsame

theorem Holds.openedFile (hholds : Holds root log handler) (handle : Bytes)
    (path : PathText Name) (flags : UInt32) (hfree : handle ∉ handler.openDirs) :
    Holds root (log ++ [.opened handle (.file path flags)]) { handler with
      nextHandle := handler.nextHandle + 1
      openFiles := handler.openFiles.insert handle (path, flags) } := by
  refine ⟨hholds.root, ?_, ?_⟩
  · intro other path' flags'
    rw [holder_opened]
    by_cases hsame : handle = other
    · subst hsame
      rw [AList.lookup_insert, if_pos rfl]
      simp
    · rw [AList.lookup_insert_ne (Ne.symm hsame), if_neg hsame]
      exact hholds.files other path' flags'
  · intro other path'
    rw [holder_opened]
    by_cases hsame : handle = other
    · subst hsame
      rw [if_pos rfl, AList.lookup_eq_none.mpr hfree]
      simp
    · rw [if_neg hsame]
      exact hholds.directories other path'

theorem Holds.openedDirectory (hholds : Holds root log handler) (handle : Bytes)
    (path : PathText Name) (hfree : handle ∉ handler.openFiles) :
    Holds root (log ++ [.opened handle (.directory path)]) { handler with
      nextHandle := handler.nextHandle + 1
      openDirs := handler.openDirs.insert handle (path, false) } := by
  refine ⟨hholds.root, ?_, ?_⟩
  · intro other path' flags'
    rw [holder_opened]
    by_cases hsame : handle = other
    · subst hsame
      rw [if_pos rfl, AList.lookup_eq_none.mpr hfree]
      simp
    · rw [if_neg hsame]
      exact hholds.files other path' flags'
  · intro other path'
    rw [holder_opened]
    by_cases hsame : handle = other
    · subst hsame
      rw [AList.lookup_insert, if_pos rfl]
      simp
    · rw [AList.lookup_insert_ne (Ne.symm hsame), if_neg hsame]
      exact hholds.directories other path'

theorem Holds.listed (hholds : Holds root log handler) {path : PathText Name}
    (hopen : handler.openDirs.lookup handle = some (path, false)) :
    Holds root log
      { handler with openDirs := handler.openDirs.insert handle (path, true) } := by
  refine ⟨hholds.root, hholds.files, ?_⟩
  intro other path'
  rw [← hholds.directories]
  by_cases hsame : other = handle
  · subst hsame
    rw [AList.lookup_insert, hopen]
    simp
  · rw [AList.lookup_insert_ne hsame]

theorem Holds.closed (hholds : Holds root log handler) (handle : Bytes) :
    Holds root (log ++ [.closed handle]) { handler with
      openFiles := handler.openFiles.erase handle
      openDirs := handler.openDirs.erase handle } := by
  refine ⟨hholds.root, ?_, ?_⟩
  · intro other path flags
    rw [holder_closed]
    by_cases hsame : handle = other
    · subst hsame
      rw [AList.lookup_erase, if_pos rfl]
      simp
    · rw [AList.lookup_erase_ne (Ne.symm hsame), if_neg hsame]
      exact hholds.files other path flags
  · intro other path
    rw [holder_closed]
    by_cases hsame : handle = other
    · subst hsame
      rw [AList.lookup_erase, if_pos rfl]
      simp
    · rw [AList.lookup_erase_ne (Ne.symm hsame), if_neg hsame]
      exact hholds.directories other path

theorem entriesOf_opened {target : Target} (hopens : opens os handler.root arrival = some target)
    (hresponse : (served os handler arrival).response =
      buildSftpHandle arrival.request.requestId (be32 handler.nextHandle)) :
    entriesOf os handler arrival = [.opened (be32 handler.nextHandle) target] := by
  rw [entriesOf, hopens, hresponse]
  dsimp only
  rw [handleOf_buildSftpHandle _ (be32_length_le _)]

/-- A request that does not give out a handle again keeps the tables in line with
the log. -/
theorem Holds.step (hholds : Holds root log handler) (hfree : ¬Collides os handler arrival) :
    Holds root (log ++ entriesOf os handler arrival) (served os handler arrival).handler := by
  have hstep := steps_served os handler arrival
  rw [Steps] at hstep
  generalize hresponse : (served os handler arrival).response = response at hstep
  generalize (served os handler arrival).handler = later at hstep
  cases hstep with
  | unchanged response hopens hentries htype =>
      rw [hentries, List.append_nil]
      exact hholds
  | openedFile path flags hopens =>
      rw [entriesOf_opened hopens hresponse]
      apply hholds.openedFile
      exact fun hdir => hfree ⟨by rw [hopens]; rfl, .inr hdir⟩
  | openedDirectory path hopens =>
      rw [entriesOf_opened hopens hresponse]
      apply hholds.openedDirectory
      exact fun hfile => hfree ⟨by rw [hopens]; rfl, .inl hfile⟩
  | listed response handle path hopens hentries hopen htype =>
      rw [hentries, List.append_nil]
      exact hholds.listed hopen
  | closed response handle hopens hentries htype =>
      rw [hentries]
      exact hholds.closed handle

theorem response_of_opens {target : Target}
    (hopens : opens os handler.root arrival = some target) :
    (served os handler arrival).response =
      buildSftpHandle arrival.request.requestId (be32 handler.nextHandle) := by
  have hstep := steps_served os handler arrival
  rw [Steps] at hstep
  generalize (served os handler arrival).response = response at hstep
  generalize (served os handler arrival).handler = later at hstep
  cases hstep with
  | unchanged response hnone hentries htype =>
      rw [hnone] at hopens
      cases hopens
  | openedFile path flags hsome => rfl
  | openedDirectory path hsome => rfl
  | listed response handle path hnone hentries hopen htype =>
      rw [hnone] at hopens
      cases hopens
  | closed response handle hnone hentries htype =>
      rw [hnone] at hopens
      cases hopens

theorem opens_of_handle
    (htype : (served os handler arrival).response.packetType = sshFxpHandle) :
    (opens os handler.root arrival).isSome := by
  have hstep := steps_served os handler arrival
  rw [Steps] at hstep
  generalize (served os handler arrival).response = response at hstep htype
  generalize (served os handler arrival).handler = later at hstep
  cases hstep with
  | unchanged response hopens hentries hother => exact absurd htype hother
  | openedFile path flags hopens =>
      rw [hopens]
      rfl
  | openedDirectory path hopens =>
      rw [hopens]
      rfl
  | listed response handle path hopens hentries hopen hother => exact absurd htype hother
  | closed response handle hopens hentries hother => exact absurd htype hother

theorem handleRead_eq {other : Handler} {world : World Name} {pkt : SftpPacket} {rest : Bytes}
    (hread : readString pkt.data = .ok (handle, rest))
    (hfiles : handler.openFiles.lookup handle = other.openFiles.lookup handle) :
    (handleRead os handler world pkt).response = (handleRead os other world pkt).response ∧
      (handleRead os handler world pkt).world = (handleRead os other world pkt).world := by
  rw [handleRead, handleRead, hread]
  dsimp only
  rw [hfiles]
  split
  · split
    · split <;> exact ⟨rfl, rfl⟩
    · exact ⟨rfl, rfl⟩
  · exact ⟨rfl, rfl⟩

theorem handleWrite_eq {other : Handler} {world : World Name} {pkt : SftpPacket} {rest : Bytes}
    (hread : readString pkt.data = .ok (handle, rest))
    (hfiles : handler.openFiles.lookup handle = other.openFiles.lookup handle) :
    (handleWrite os handler world pkt).response = (handleWrite os other world pkt).response ∧
      (handleWrite os handler world pkt).world = (handleWrite os other world pkt).world := by
  rw [handleWrite, handleWrite, hread]
  dsimp only
  rw [hfiles]
  split
  · split
    · split
      · split <;> exact ⟨rfl, rfl⟩
      · exact ⟨rfl, rfl⟩
    · exact ⟨rfl, rfl⟩
  · exact ⟨rfl, rfl⟩

theorem handleReaddir_eq {other : Handler} {world : World Name} {pkt : SftpPacket} {rest : Bytes}
    (hread : readString pkt.data = .ok (handle, rest))
    (hdirs : handler.openDirs.lookup handle = other.openDirs.lookup handle) :
    (handleReaddir os handler world pkt).response = (handleReaddir os other world pkt).response ∧
      (handleReaddir os handler world pkt).world = (handleReaddir os other world pkt).world := by
  rw [handleReaddir, handleReaddir, hread]
  dsimp only
  rw [hdirs]
  split
  · exact ⟨rfl, rfl⟩
  · exact ⟨rfl, rfl⟩
  · split <;> exact ⟨rfl, rfl⟩

/-- A request that names a handle depends on the entries of that handle only. -/
theorem served_eq_of_lookup {other : Handler} (hnames : Names arrival.request handle)
    (hfiles : handler.openFiles.lookup handle = other.openFiles.lookup handle)
    (hdirs : handler.openDirs.lookup handle = other.openDirs.lookup handle) :
    (served os handler arrival).response = (served os other arrival).response ∧
      (served os handler arrival).world = (served os other arrival).world := by
  obtain ⟨hoperation, rest, hread⟩ := hnames
  rw [served, served, handleRequest, handleRequest]
  simp only [List.mem_cons, List.not_mem_nil, or_false] at hoperation
  rcases hoperation with hoperation | hoperation | hoperation
  · rw [hoperation]
    exact handleRead_eq hread hfiles
  · rw [hoperation]
    exact handleWrite_eq hread hfiles
  · rw [hoperation]
    exact handleReaddir_eq hread hdirs

theorem served_of_no_lookup (hnames : Names arrival.request handle)
    (hfiles : handler.openFiles.lookup handle = none)
    (hdirs : handler.openDirs.lookup handle = none) :
    ∃ message, (served os handler arrival).response =
      buildSftpStatus arrival.request.requestId sshFxFailure message := by
  obtain ⟨hoperation, rest, hread⟩ := hnames
  rw [served, handleRequest]
  simp only [List.mem_cons, List.not_mem_nil, or_false] at hoperation
  rcases hoperation with hoperation | hoperation | hoperation
  · rw [hoperation]
    dsimp only
    rw [handleRead, hread]
    dsimp only
    rw [hfiles]
    split
    · split <;> exact ⟨_, rfl⟩
    · exact ⟨_, rfl⟩
  · rw [hoperation]
    dsimp only
    rw [handleWrite, hread]
    dsimp only
    rw [hfiles]
    split
    · split <;> exact ⟨_, rfl⟩
    · exact ⟨_, rfl⟩
  · rw [hoperation]
    dsimp only
    rw [handleReaddir, hread]
    dsimp only
    rw [hdirs]
    exact ⟨_, rfl⟩

theorem lookup_singleton {α : Type} (handle : Bytes) (value : α) :
    (AList.singleton handle value : AList fun _ : Bytes => α).lookup handle = some value :=
  AList.lookup_insert ∅

theorem Holds.acts (hholds : Holds root log handler) {target : Target}
    (hnames : Names arrival.request handle) (hholder : holder log handle = some target) :
    ∃ listed, (served os handler arrival).response =
        (served os (alone root handle listed target) arrival).response ∧
      (served os handler arrival).world =
        (served os (alone root handle listed target) arrival).world := by
  cases target with
  | file path flags =>
      have hlookup := (hholds.files handle path flags).mpr hholder
      have hfile : handle ∈ handler.openFiles := by
        rw [← AList.lookup_isSome, hlookup]
        rfl
      refine ⟨false, served_eq_of_lookup hnames ?_ ?_⟩
      · rw [hlookup]
        exact (lookup_singleton handle _).symm
      · rw [AList.lookup_eq_none.mpr (hholds.disjoint hfile)]
        rfl
  | directory path =>
      obtain ⟨listed, hlookup⟩ := (hholds.directories handle path).mpr hholder
      have hdir : handle ∈ handler.openDirs := by
        rw [← AList.lookup_isSome, hlookup]
        rfl
      refine ⟨listed, served_eq_of_lookup hnames ?_ ?_⟩
      · rw [AList.lookup_eq_none.mpr fun hfile => hholds.disjoint hfile hdir]
        rfl
      · rw [hlookup]
        exact (lookup_singleton handle _).symm

theorem logAfter_concat (arrivals : List Arrival) (arrival : Arrival) :
    logAfter os root (arrivals ++ [arrival]) =
      logAfter os root arrivals ++ entriesOf os (handlerAfter os root arrivals) arrival :=
  Machine.history_concat arrivals arrival

/-- In tables that are in line with the log, a request is served as it should be
when it does not give out a handle again. -/
theorem sound_of_holds {earlier : List Arrival}
    (hholds : Holds root (logAfter os root earlier) (handlerAfter os root earlier))
    (hfree : ¬Collides os (handlerAfter os root earlier) arrival) :
    Sound os root earlier arrival where
  fresh htype := by
    have hopens := opens_of_handle htype
    obtain ⟨target, htarget⟩ := Option.isSome_iff_exists.mp hopens
    rw [response_of_opens htarget, handleOf_buildSftpHandle _ (be32_length_le _),
      hholds.holder_eq_none_iff]
    exact not_or.mp fun hopen => hfree ⟨hopens, hopen⟩
  disjoint _ hfile := (hholds.step hfree).disjoint hfile
  acts _ _ hnames hholder := hholds.acts hnames hholder
  refuses handle hnames hholder := by
    obtain ⟨hfile, hdir⟩ := hholds.holder_eq_none_iff.mp hholder
    exact served_of_no_lookup hnames (AList.lookup_eq_none.mpr hfile)
      (AList.lookup_eq_none.mpr hdir)

theorem not_collides_of_sound {earlier : List Arrival}
    (hholds : Holds root (logAfter os root earlier) (handlerAfter os root earlier))
    (hsound : Sound os root earlier arrival) :
    ¬Collides os (handlerAfter os root earlier) arrival := by
  rintro ⟨hopens, hopen⟩
  obtain ⟨target, htarget⟩ := Option.isSome_iff_exists.mp hopens
  have hresponse := response_of_opens htarget
  have hfresh := hsound.fresh (by rw [hresponse]; rfl)
  rw [hresponse, handleOf_buildSftpHandle _ (be32_length_le _), hholds.holder_eq_none_iff]
    at hfresh
  exact hopen.elim hfresh.1 hfresh.2

theorem always_not_collides {arrivals : List Arrival}
    (hsound : Machine.Always arrivals (Sound os root)) :
    Machine.Always arrivals fun earlier arrival =>
      ¬Collides os (handlerAfter os root earlier) arrival := by
  revert hsound
  apply @Machine.always_of_invariant _ _ _ (session os) (newHandler root)
    fun earlier handler => Holds root (logAfter os root earlier) handler
  · exact holds_start root
  · intro earlier arrival hholds hsound
    have hfree := not_collides_of_sound hholds hsound
    rw [logAfter_concat]
    exact ⟨hholds.step hfree, hfree⟩

theorem always_sound {arrivals : List Arrival}
    (hfree : Machine.Always arrivals fun earlier arrival =>
      ¬Collides os (handlerAfter os root earlier) arrival) :
    Machine.Always arrivals (Sound os root) := by
  revert hfree
  apply @Machine.always_of_invariant _ _ _ (session os) (newHandler root)
    fun earlier handler => Holds root (logAfter os root earlier) handler
  · exact holds_start root
  · intro earlier arrival hholds hfree
    rw [logAfter_concat]
    exact ⟨hholds.step hfree, sound_of_holds hholds hfree⟩

/-- The handles keep their meaning in a session exactly when no request is given
a handle that is still open. -/
theorem integrity_iff (os : Os Name) (root : PathText Name) (arrivals : List Arrival) :
    Machine.Always arrivals (Sound os root) ↔
      Machine.Always arrivals fun earlier arrival =>
        ¬Collides os (handlerAfter os root earlier) arrival :=
  ⟨always_not_collides, always_sound⟩

theorem served_handler_of_opens {target : Target}
    (hopens : opens os handler.root arrival = some target) :
    (served os handler arrival).handler.nextHandle = handler.nextHandle + 1 ∧
      (served os handler arrival).handler.root = handler.root ∧
      ∀ handle, handle = be32 handler.nextHandle ∨ handle ∈ handler.openFiles ∨
          handle ∈ handler.openDirs →
        handle ∈ (served os handler arrival).handler.openFiles ∨
          handle ∈ (served os handler arrival).handler.openDirs := by
  have hstep := steps_served os handler arrival
  rw [Steps] at hstep
  generalize (served os handler arrival).response = response at hstep
  generalize (served os handler arrival).handler = later at hstep
  cases hstep with
  | unchanged response hnone hentries htype =>
      rw [hnone] at hopens
      cases hopens
  | openedFile path flags hsome =>
      refine ⟨rfl, rfl, ?_⟩
      intro handle hopen
      rw [AList.mem_insert, or_assoc]
      exact hopen
  | openedDirectory path hsome =>
      refine ⟨rfl, rfl, ?_⟩
      intro handle hopen
      rw [AList.mem_insert, or_left_comm]
      exact hopen
  | listed response handle path hnone hentries hopen htype =>
      rw [hnone] at hopens
      cases hopens
  | closed response handle hnone hentries htype =>
      rw [hnone] at hopens
      cases hopens

theorem handlerAfter_replicate {target : Target}
    (hopens : opens os root arrival = some target) (count : Nat) :
    (handlerAfter os root (List.replicate count arrival)).nextHandle = UInt32.ofNat count ∧
      (handlerAfter os root (List.replicate count arrival)).root = root ∧
      (0 < count →
        be32 0 ∈ (handlerAfter os root (List.replicate count arrival)).openFiles ∨
          be32 0 ∈ (handlerAfter os root (List.replicate count arrival)).openDirs) := by
  induction count with
  | zero => exact ⟨rfl, rfl, fun hpos => absurd hpos (Nat.lt_irrefl 0)⟩
  | succ count ih =>
      obtain ⟨hnext, hroot, hopen⟩ := ih
      rw [List.replicate_succ', handlerAfter, Machine.after_concat]
      rw [handlerAfter] at hnext hroot hopen
      have hserved := @served_handler_of_opens os _ arrival target (by rw [hroot]; exact hopens)
      refine ⟨?_, hserved.2.1.trans hroot, ?_⟩
      · rw [UInt32.ofNat_add, ← hnext]
        exact hserved.1
      · intro _
        apply hserved.2.2
        rcases Nat.eq_zero_or_pos count with rfl | hpos
        · exact .inl rfl
        · exact .inr (hopen hpos)

/-- A request to open the file of the root. -/
def sampleOpen : Arrival :=
  ⟨⟨sshFxpOpen, 1, writeUtf8 "f" ++ be32 sshFxfWrite⟩, ⟨sampleTree, []⟩⟩

theorem opens_sampleOpen : (opens plainOs sampleRoot sampleOpen).isSome := by
  decide +kernel

/-- The last of 2^32 + 1 requests to open a file is given a handle that is open. -/
theorem reopened_handle :
    ¬Machine.Always (List.replicate (2 ^ 32 + 1) sampleOpen) (Sound plainOs sampleRoot) := by
  intro hall
  obtain ⟨target, hopens⟩ := Option.isSome_iff_exists.mp opens_sampleOpen
  obtain ⟨hnext, hroot, hopen⟩ := handlerAfter_replicate hopens (2 ^ 32)
  refine always_not_collides hall (List.replicate (2 ^ 32) sampleOpen) sampleOpen []
    (List.replicate_succ' ..) ⟨?_, ?_⟩
  · rw [hroot]
    exact opens_sampleOpen
  · rw [hnext, show UInt32.ofNat (2 ^ 32) = 0 by decide]
    exact hopen (by decide)

end SwiftSsh.HandleIntegrity
