import SwiftSsh.HandleTable

namespace SwiftSsh.DirectoryListing

open SwiftSsh.ByteWords
open SwiftSsh.RustOutcome
open SwiftSsh.RunHistory
open SwiftSsh.WireTypes
open SwiftSsh.WireBuffer
open SwiftSsh.FileTree
open SwiftSsh.FileSystem
open SwiftSsh.SftpPaths
open SwiftSsh.SftpProtocol
open SwiftSsh.SftpHandler
open SwiftSsh.RequestEffects
open SwiftSsh.HandleTable

/-- The handle at the start of the data of a request. -/
def handleIn (request : SftpPacket) : Option Bytes :=
  (readString request.data).toOption.map Prod.fst

/-- A READDIR of a handle. -/
def Lists (handle : Bytes) (arrival : Arrival) : Prop :=
  operationOf arrival.request.packetType = .readdir ∧ handleIn arrival.request = some handle

instance (handle : Bytes) (arrival : Arrival) : Decidable (Lists handle arrival) :=
  inferInstanceAs (Decidable (_ ∧ _))

/-- A CLOSE of a handle. -/
def Closes (handle : Bytes) (arrival : Arrival) : Prop :=
  operationOf arrival.request.packetType = .close ∧ handleIn arrival.request = some handle

instance (handle : Bytes) (arrival : Arrival) : Decidable (Closes handle arrival) :=
  inferInstanceAs (Decidable (_ ∧ _))

variable (os : Os Name)

/-- A run of the handler, with each request and its response. -/
def transcript : Machine Handler Arrival (Arrival × SftpPacket) :=
  ⟨fun handler arrival => (served os handler arrival).handler,
    fun handler arrival => [(arrival, (served os handler arrival).response)]⟩

/-- The responses to the READDIRs of a handle. -/
def listings (handle : Bytes) (entries : List (Arrival × SftpPacket)) : List SftpPacket :=
  (entries.filter fun entry => Lists handle entry.1).map Prod.snd

/-- The answer to the first READDIR: the entries as they are then, if the directory can be
read. -/
def listing (path : PathText Name) (arrival : Arrival) : SftpPacket :=
  match (readDir os path arrival.world).1 with
  | some entries => buildSftpName arrival.request.requestId (entries.map listedEntry)
  | none => buildSftpStatus arrival.request.requestId sshFxPermissionDenied "Cannot read dir"

/-- The answer to every later one. -/
def listingEnd (arrival : Arrival) : SftpPacket :=
  buildSftpStatus arrival.request.requestId sshFxEof "End of directory"

variable {os} {handler : Handler} {arrival : Arrival} {handle : Bytes} {path : PathText Name}

theorem openDirs_of_openFile (hoperation : operationOf arrival.request.packetType = .openFile) :
    (served os handler arrival).handler.openDirs = handler.openDirs := by
  rw [served, handleRequest, hoperation]
  dsimp only
  rw [handleOpen]
  split
  · split
    · split <;> rfl
    · rfl
  · rfl

theorem lookup_of_opendir (hoperation : operationOf arrival.request.packetType = .opendir)
    (hfresh : be32 handler.nextHandle ≠ handle) :
    (served os handler arrival).handler.openDirs.lookup handle =
      handler.openDirs.lookup handle := by
  rw [served, handleRequest, hoperation]
  dsimp only
  rw [handleOpendir, withPath]
  split
  · split
    · split
      · exact AList.lookup_insert_ne (Ne.symm hfresh)
      · rfl
    · rfl
  · rfl

theorem lookup_of_close (hoperation : operationOf arrival.request.packetType = .close)
    (hother : ¬Closes handle arrival) :
    (served os handler arrival).handler.openDirs.lookup handle =
      handler.openDirs.lookup handle := by
  rw [served, handleRequest, hoperation]
  dsimp only
  rw [handleClose]
  split
  · rename_i named rest hread
    have hne : handle ≠ named := by
      rintro rfl
      exact hother ⟨hoperation, by rw [handleIn, hread]; rfl⟩
    exact AList.lookup_erase_ne hne
  · rfl

theorem lookup_of_readdir (hoperation : operationOf arrival.request.packetType = .readdir)
    (hother : ¬Lists handle arrival) :
    (served os handler arrival).handler.openDirs.lookup handle =
      handler.openDirs.lookup handle := by
  rw [served, handleRequest, hoperation]
  dsimp only
  rw [handleReaddir]
  split
  · rename_i named rest hread
    have hne : handle ≠ named := by
      rintro rfl
      exact hother ⟨hoperation, by rw [handleIn, hread]; rfl⟩
    split
    · rfl
    · rfl
    · dsimp only
      split
      · exact AList.lookup_insert_ne hne
      · exact AList.lookup_insert_ne hne
  · rfl

/-- A request that neither lists nor closes an open directory leaves it as it is. -/
theorem lookup_of_other (hlists : ¬Lists handle arrival) (hcloses : ¬Closes handle arrival)
    (hfresh : be32 handler.nextHandle ≠ handle) :
    (served os handler arrival).handler.openDirs.lookup handle =
      handler.openDirs.lookup handle := by
  by_cases hkeeps : KeepsTables (operationOf arrival.request.packetType)
  · rw [handler_of_keepsTables hkeeps]
  · simp only [KeepsTables, List.mem_cons, List.not_mem_nil, or_false, not_not] at hkeeps
    rcases hkeeps with hoperation | hoperation | hoperation | hoperation
    · exact lookup_of_readdir hoperation hlists
    · exact lookup_of_opendir hoperation hfresh
    · rw [openDirs_of_openFile hoperation]
    · exact lookup_of_close hoperation hcloses

theorem served_of_lists {listed : Bool} (hlists : Lists handle arrival)
    (hopen : handler.openDirs.lookup handle = some (path, listed)) :
    (served os handler arrival).response =
        (if listed then listingEnd arrival else listing os path arrival) ∧
      (served os handler arrival).handler.openDirs.lookup handle = some (path, true) := by
  obtain ⟨hoperation, hnamed⟩ := hlists
  obtain ⟨rest, hread⟩ : ∃ rest, readString arrival.request.data = .ok (handle, rest) := by
    rw [handleIn] at hnamed
    generalize readString arrival.request.data = parsed at hnamed ⊢
    rcases parsed with ⟨named, rest⟩ | error | _
    · obtain rfl : named = handle := Option.some.inj hnamed
      exact ⟨rest, rfl⟩
    · cases hnamed
    · cases hnamed
  rw [served, handleRequest, hoperation]
  dsimp only
  rw [handleReaddir, hread]
  dsimp only
  rw [hopen]
  cases listed with
  | true => exact ⟨rfl, hopen⟩
  | false =>
      dsimp only
      rw [if_neg Bool.false_ne_true, listing]
      rcases readDir os path arrival.world with ⟨_ | entries, later⟩
      · exact ⟨rfl, AList.lookup_insert _⟩
      · exact ⟨rfl, AList.lookup_insert _⟩

/-- A number that is not given out again by as many requests. -/
def Unused (handler : Handler) (number : UInt32) (requests : Nat) : Prop :=
  ∃ given, handler.nextHandle = number + 1 + UInt32.ofNat given ∧ given + requests < 2 ^ 32

theorem nextHandle_served :
    (served os handler arrival).handler.nextHandle = handler.nextHandle ∨
      (served os handler arrival).handler.nextHandle = handler.nextHandle + 1 := by
  have hstep := steps_served os handler arrival
  rw [Steps] at hstep
  generalize (served os handler arrival).response = response at hstep
  generalize (served os handler arrival).handler = later at hstep ⊢
  cases hstep with
  | unchanged => exact .inl rfl
  | openedFile => exact .inr rfl
  | openedDirectory => exact .inr rfl
  | listed => exact .inl rfl
  | closed => exact .inl rfl

theorem Unused.served {number : UInt32} {requests : Nat}
    (hunused : Unused handler number (requests + 1)) :
    Unused (served os handler arrival).handler number requests := by
  obtain ⟨given, hnext, hcount⟩ := hunused
  rcases @nextHandle_served os handler arrival with hsame | hmore
  · exact ⟨given, hsame.trans hnext, by omega⟩
  · refine ⟨given + 1, ?_, by omega⟩
    rw [hmore, hnext, UInt32.ofNat_add, ← UInt32.add_assoc]
    rfl

theorem Unused.ne {number : UInt32} {requests : Nat}
    (hunused : Unused handler number (requests + 1)) :
    be32 handler.nextHandle ≠ be32 number := by
  obtain ⟨given, hnext, hcount⟩ := hunused
  intro hsame
  have hvalue := congrArg UInt32.toNat (hnext.symm.trans (be32_injective hsame))
  rw [UInt32.toNat_add, UInt32.toNat_add, UInt32.toNat_ofNat'] at hvalue
  have hnumber := number.toNat_lt
  have hone : (1 : UInt32).toNat = 1 := rfl
  omega

theorem listings_cons_of_lists (hlists : Lists handle arrival) (response : SftpPacket)
    (entries : List (Arrival × SftpPacket)) :
    listings handle ((arrival, response) :: entries) = response :: listings handle entries := by
  simp [listings, hlists]

theorem listings_cons_of_other (hlists : ¬Lists handle arrival) (response : SftpPacket)
    (entries : List (Arrival × SftpPacket)) :
    listings handle ((arrival, response) :: entries) = listings handle entries := by
  simp [listings, hlists]

/-- The READDIRs of a directory after its opening or its first listing. -/
theorem listings_of_open {number : UInt32} {listed : Bool} (arrivals : List Arrival)
    (hopen : handler.openDirs.lookup (be32 number) = some (path, listed))
    (hkept : ∀ arrival ∈ arrivals, ¬Closes (be32 number) arrival)
    (hunused : Unused handler number arrivals.length) :
    listings (be32 number) ((transcript os).history handler arrivals) =
      match arrivals.filter fun arrival => Lists (be32 number) arrival with
      | [] => []
      | first :: later =>
          (if listed then listingEnd first else listing os path first) ::
            later.map listingEnd := by
  induction arrivals generalizing handler listed with
  | nil => rfl
  | cons arrival arrivals ih =>
      obtain ⟨hcloses, hrest⟩ := List.forall_mem_cons.mp hkept
      have hlater := @Unused.served os handler arrival _ _ hunused
      rw [Machine.history]
      change listings _ ((arrival, (HandleTable.served os handler arrival).response) ::
        (transcript os).history (HandleTable.served os handler arrival).handler arrivals) = _
      by_cases hlists : Lists (be32 number) arrival
      · obtain ⟨hresponse, hmarked⟩ := @served_of_lists os _ _ _ _ _ hlists hopen
        have hfilter : (arrival :: arrivals).filter (fun arrival => Lists (be32 number) arrival) =
            arrival :: arrivals.filter fun arrival => Lists (be32 number) arrival :=
          List.filter_cons_of_pos (decide_eq_true hlists)
        rw [listings_cons_of_lists hlists, ih hmarked hrest hlater, hfilter, hresponse]
        cases arrivals.filter fun arrival => Lists (be32 number) arrival with
        | nil => rfl
        | cons first later => rfl
      · have hsame := @lookup_of_other os _ _ _ hlists hcloses hunused.ne
        have hfilter : (arrival :: arrivals).filter (fun arrival => Lists (be32 number) arrival) =
            arrivals.filter fun arrival => Lists (be32 number) arrival :=
          List.filter_cons_of_neg (by rwa [decide_eq_true_eq])
        rw [listings_cons_of_other hlists, ih (hsame.trans hopen) hrest hlater, hfilter]

/-- From the OPENDIR of a directory on, until its handle is closed and for fewer than
2^32 requests of any kind: the first READDIR of the handle is answered with the entries
there are then, or PERMISSION_DENIED where the directory cannot be read, and every later one
with the end of the directory. -/
theorem directory_listed_once (os : Os Name) (handler : Handler) (opened : Arrival)
    (path : PathText Name) (arrivals : List Arrival)
    (hopened : opens os handler.root opened = some (.directory path))
    (hkept : ∀ arrival ∈ arrivals, ¬Closes (be32 handler.nextHandle) arrival)
    (hcount : arrivals.length < 2 ^ 32) :
    (served os handler opened).response =
        buildSftpHandle opened.request.requestId (be32 handler.nextHandle) ∧
      listings (be32 handler.nextHandle)
          ((transcript os).history (served os handler opened).handler arrivals) =
        match arrivals.filter fun arrival => Lists (be32 handler.nextHandle) arrival with
        | [] => []
        | first :: later => listing os path first :: later.map listingEnd := by
  have hstep := steps_served os handler opened
  rw [Steps] at hstep
  generalize (served os handler opened).response = response at hstep ⊢
  generalize (served os handler opened).handler = after at hstep ⊢
  cases hstep with
  | openedDirectory path' hpath =>
      rw [hopened] at hpath
      cases hpath
      refine ⟨rfl, ?_⟩
      let after : Handler :=
        { handler with
          nextHandle := handler.nextHandle + 1
          openDirs := handler.openDirs.insert (be32 handler.nextHandle) (path, false) }
      have hopen : after.openDirs.lookup (be32 handler.nextHandle) = some (path, false) :=
        AList.lookup_insert _
      refine listings_of_open arrivals hopen hkept ⟨0, ?_, by omega⟩
      exact (UInt32.add_zero _).symm
  | unchanged _ hnone => rw [hopened] at hnone; cases hnone
  | openedFile _ _ hfile => rw [hopened] at hfile; cases hfile
  | listed _ _ _ hnone => rw [hopened] at hnone; cases hnone
  | closed _ _ hnone => rw [hopened] at hnone; cases hnone

/-- The root of the sample tree, opened and read twice. -/
def sampleOpendir : Arrival :=
  ⟨⟨sshFxpOpendir, 1, writeUtf8 "."⟩, ⟨sampleTree, []⟩⟩

/-- A READDIR of the first handle. -/
def sampleReaddir (requestId : UInt32) : Arrival :=
  ⟨⟨sshFxpReaddir, requestId, writeString (be32 0)⟩, ⟨sampleTree, []⟩⟩

theorem directory_listed_once_sample :
    listings (be32 0) ((transcript plainOs).history
        (served plainOs (newHandler sampleRoot) sampleOpendir).handler
        [sampleReaddir 2, sampleReaddir 3]) =
      [listing plainOs (pathOf [utf8 "srv"]) (sampleReaddir 2), listingEnd (sampleReaddir 3)] := by
  have hopened : opens plainOs (newHandler sampleRoot).root sampleOpendir =
      some (.directory (pathOf [utf8 "srv"])) := by
    rfl
  have hrun := (directory_listed_once plainOs (newHandler sampleRoot) sampleOpendir
    (pathOf [utf8 "srv"]) [sampleReaddir 2, sampleReaddir 3] hopened
    (by decide +kernel) (by decide)).2
  exact hrun

end SwiftSsh.DirectoryListing
