import SwiftSsh.RequestEffects
import SwiftSsh.RunHistory
import SwiftSsh.SftpReplies
import SwiftSsh.SftpUpload

namespace SwiftSsh.HandleTable

open SwiftSsh.ByteWords
open SwiftSsh.RustOutcome
open SwiftSsh.RunHistory
open SwiftSsh.WireTypes
open SwiftSsh.WireBuffer
open SwiftSsh.FileTree
open SwiftSsh.FileSystem
open SwiftSsh.SftpPaths
open SwiftSsh.SftpProtocol
open SwiftSsh.SftpHandler
open SwiftSsh.RequestEffects
open SwiftSsh.SftpReplies
open SwiftSsh.SftpUpload

/-- A request, with the file system as it is when the request arrives. -/
structure Arrival where
  request : SftpPacket
  world : World Name

/-- What a handle stands for. -/
inductive Target where
  | file (path : PathText Name) (flags : UInt32)
  | directory (path : PathText Name)

/-- An entry of the log of handles. -/
inductive Entry where
  | opened (handle : Bytes) (target : Target)
  | closed (handle : Bytes)

variable (os : Os Name)

/-- What an OPEN or OPENDIR resolves to, if it is accepted. -/
def opens (root : PathText Name) (arrival : Arrival) : Option Target :=
  match operationOf arrival.request.packetType with
  | .openFile =>
      match readUtf8 arrival.request.data with
      | .ok (path, rest) =>
          match readU32 rest, resolvePath os root path arrival.world with
          | .ok (flags, _), .ok resolved => some (.file resolved flags)
          | _, _ => none
      | _ => none
  | .opendir =>
      match readUtf8 arrival.request.data with
      | .ok (path, _) =>
          match resolvePath os root path arrival.world with
          | .ok resolved =>
              if (isDir os resolved arrival.world).1 then some (.directory resolved) else none
          | _ => none
      | _ => none
  | _ => none

/-- A request, served on the file system as it arrives. -/
def served (handler : Handler) (arrival : Arrival) : Served :=
  handleRequest os handler arrival.world arrival.request

/-- The handles given out and closed by a request. -/
def entriesOf (handler : Handler) (arrival : Arrival) : List Entry :=
  match opens os handler.root arrival with
  | some target => [.opened (handleOf (served os handler arrival).response) target]
  | none =>
      if operationOf arrival.request.packetType = .close then
        match readString arrival.request.data with
        | .ok (handle, _) => [.closed handle]
        | _ => []
      else []

/-- The handler as a machine with its log of handles. -/
def session : Machine Handler Arrival Entry :=
  ⟨fun handler arrival => (served os handler arrival).handler, entriesOf os⟩

variable (root : PathText Name)

/-- The handler after some requests. -/
def handlerAfter (arrivals : List Arrival) : Handler :=
  (session os).after (newHandler root) arrivals

/-- The handles given out and closed by some requests. -/
def logAfter (arrivals : List Arrival) : List Entry :=
  (session os).history (newHandler root) arrivals

/-- What an entry changes about what a handle stands for. -/
def holderStep (handle : Bytes) (current : Option Target) : Entry → Option Target
  | .opened other target => if other = handle then some target else current
  | .closed other => if other = handle then none else current

/-- What a handle stands for after the entries of a log, if it is open. -/
def holder (log : List Entry) (handle : Bytes) : Option Target :=
  log.foldl (holderStep handle) none

/-- A READ, WRITE or READDIR that names a handle. -/
def Names (request : SftpPacket) (handle : Bytes) : Prop :=
  operationOf request.packetType ∈ [Operation.read, .write, .readdir] ∧
    ∃ rest, readString request.data = .ok (handle, rest)

/-- The tables with one open handle. -/
def alone (handle : Bytes) (listed : Bool) : Target → Handler
  | .file path flags => ⟨0, AList.singleton handle (path, flags), ∅, root⟩
  | .directory path => ⟨0, ∅, AList.singleton handle (path, listed), root⟩

/-- A request is served with the handles it and earlier requests are entitled
to. -/
structure Sound (earlier : List Arrival) (arrival : Arrival) : Prop where
  fresh : (served os (handlerAfter os root earlier) arrival).response.packetType =
      sshFxpHandle →
    holder (logAfter os root earlier)
      (handleOf (served os (handlerAfter os root earlier) arrival).response) = none
  disjoint : ∀ handle,
    handle ∈ (served os (handlerAfter os root earlier) arrival).handler.openFiles →
    handle ∉ (served os (handlerAfter os root earlier) arrival).handler.openDirs
  acts : ∀ handle target, Names arrival.request handle →
    holder (logAfter os root earlier) handle = some target →
    ∃ listed, (served os (handlerAfter os root earlier) arrival).response =
        (served os (alone root handle listed target) arrival).response ∧
      (served os (handlerAfter os root earlier) arrival).world =
        (served os (alone root handle listed target) arrival).world
  refuses : ∀ handle, Names arrival.request handle →
    holder (logAfter os root earlier) handle = none →
    ∃ message, (served os (handlerAfter os root earlier) arrival).response =
      buildSftpStatus arrival.request.requestId sshFxFailure message

/-- The next handle is given out although it is still open. -/
def Collides (handler : Handler) (arrival : Arrival) : Prop :=
  (opens os handler.root arrival).isSome ∧
    (be32 handler.nextHandle ∈ handler.openFiles ∨ be32 handler.nextHandle ∈ handler.openDirs)

/-- What is answered to a request and what it does to the tables. -/
inductive TableStep (handler : Handler) (arrival : Arrival) :
    SftpPacket → Handler → Prop where
  | unchanged (response : SftpPacket) (hopens : opens os handler.root arrival = none)
      (hentries : entriesOf os handler arrival = [])
      (htype : response.packetType ≠ sshFxpHandle) :
      TableStep handler arrival response handler
  | openedFile (path : PathText Name) (flags : UInt32)
      (hopens : opens os handler.root arrival = some (.file path flags)) :
      TableStep handler arrival
        (buildSftpHandle arrival.request.requestId (be32 handler.nextHandle))
        { handler with
          nextHandle := handler.nextHandle + 1
          openFiles := handler.openFiles.insert (be32 handler.nextHandle) (path, flags) }
  | openedDirectory (path : PathText Name)
      (hopens : opens os handler.root arrival = some (.directory path)) :
      TableStep handler arrival
        (buildSftpHandle arrival.request.requestId (be32 handler.nextHandle))
        { handler with
          nextHandle := handler.nextHandle + 1
          openDirs := handler.openDirs.insert (be32 handler.nextHandle) (path, false) }
  | listed (response : SftpPacket) (handle : Bytes) (path : PathText Name)
      (hopens : opens os handler.root arrival = none)
      (hentries : entriesOf os handler arrival = [])
      (hopen : handler.openDirs.lookup handle = some (path, false))
      (htype : response.packetType ≠ sshFxpHandle) :
      TableStep handler arrival response
        { handler with openDirs := handler.openDirs.insert handle (path, true) }
  | closed (response : SftpPacket) (handle : Bytes)
      (hopens : opens os handler.root arrival = none)
      (hentries : entriesOf os handler arrival = [.closed handle])
      (htype : response.packetType ≠ sshFxpHandle) :
      TableStep handler arrival response
        { handler with
          openFiles := handler.openFiles.erase handle
          openDirs := handler.openDirs.erase handle }

/-- A step to what serving a request leaves. -/
def Steps (handler : Handler) (arrival : Arrival) : Prop :=
  TableStep os handler arrival (served os handler arrival).response
    (served os handler arrival).handler

variable {os root} {handler : Handler} {arrival : Arrival}

theorem opens_eq_none (hopenFile : operationOf arrival.request.packetType ≠ .openFile)
    (hopendir : operationOf arrival.request.packetType ≠ .opendir) :
    opens os root arrival = none := by
  rw [opens]
  split
  · rename_i hoperation
    exact absurd hoperation hopenFile
  · rename_i hoperation
    exact absurd hoperation hopendir
  · rfl

theorem entriesOf_eq_nil (hopens : opens os handler.root arrival = none)
    (hclose : operationOf arrival.request.packetType ≠ .close) :
    entriesOf os handler arrival = [] := by
  rw [entriesOf, hopens]
  exact if_neg hclose

/-- Only the two opening requests are answered with a handle. -/
theorem packetType_ne_handle (hopenFile : operationOf arrival.request.packetType ≠ .openFile)
    (hopendir : operationOf arrival.request.packetType ≠ .opendir) :
    (served os handler arrival).response.packetType ≠ sshFxpHandle := by
  intro htype
  have hresponds := responds_handleRequest os handler arrival.world arrival.request
  rw [served] at htype
  generalize (handleRequest os handler arrival.world arrival.request).response = response
    at htype hresponds
  cases hresponds with
  | handle hoperation => exact hoperation.elim hopenFile hopendir
  | status code message hshort => exact absurd htype (show sshFxpStatus ≠ sshFxpHandle by decide)
  | data hoperation bytes hshort => exact absurd htype (show sshFxpData ≠ sshFxpHandle by decide)
  | attrs hoperation data => exact absurd htype (show sshFxpAttrs ≠ sshFxpHandle by decide)
  | realpath hoperation hread hresolve =>
      exact absurd htype (show sshFxpName ≠ sshFxpHandle by decide)
  | listing hoperation hread hopen hlisted =>
      exact absurd htype (show sshFxpName ≠ sshFxpHandle by decide)

theorem withPath_handler {world : World Name} {pkt : SftpPacket} {denied : UInt32 × String}
    {next : PathText Name → Bytes → Served}
    (hnext : ∀ path rest, (next path rest).handler = handler) :
    (withPath os handler world pkt denied next).handler = handler := by
  rw [withPath]
  split
  · split
    · exact hnext _ _
    · rfl
  · rfl

theorem changePath_handler {world : World Name} {pkt : SftpPacket}
    {change : PathText Name → World Name → Option Unit × World Name} {failed : String} :
    (changePath os handler world pkt change failed).handler = handler := by
  apply withPath_handler
  intro path rest
  split <;> rfl

/-- The operations that leave the tables alone. -/
def KeepsTables (operation : Operation) : Prop :=
  operation ∉ [Operation.readdir, .opendir, .openFile, .close]

theorem handler_of_keepsTables (hkeeps : KeepsTables (operationOf arrival.request.packetType)) :
    (served os handler arrival).handler = handler := by
  rw [served, handleRequest]
  cases hoperation : operationOf arrival.request.packetType with
  | opendir => exact absurd (by simp [hoperation]) hkeeps
  | readdir => exact absurd (by simp [hoperation]) hkeeps
  | close => exact absurd (by simp [hoperation]) hkeeps
  | openFile => exact absurd (by simp [hoperation]) hkeeps
  | realpath => exact withPath_handler fun _ _ => rfl
  | stat =>
      apply withPath_handler
      intro path rest
      split <;> rfl
  | read =>
      rcases handleRead_cases os handler arrival.world arrival.request with
        ⟨path, flags, offset, length, -, hserved⟩ | ⟨-, code, message, hserved⟩
      · exact congrArg Served.handler hserved
      · exact congrArg Served.handler hserved
  | write =>
      rcases handleWrite_cases os handler arrival.world arrival.request with
        ⟨path, flags, offset, data, -, hserved⟩ | ⟨-, code, message, hserved⟩
      · exact congrArg Served.handler hserved
      · exact congrArg Served.handler hserved
  | mkdir => exact changePath_handler
  | rmdir => exact changePath_handler
  | remove => exact changePath_handler
  | unsupported => rfl

theorem steps_of_keepsTables (hkeeps : KeepsTables (operationOf arrival.request.packetType)) :
    Steps os handler arrival := by
  rw [Steps, handler_of_keepsTables hkeeps]
  simp only [KeepsTables, List.mem_cons, List.not_mem_nil, or_false, not_or] at hkeeps
  obtain ⟨-, hopendir, hopenFile, hclose⟩ := hkeeps
  have hopens := @opens_eq_none os handler.root arrival hopenFile hopendir
  exact .unchanged _ hopens (entriesOf_eq_nil hopens hclose)
    (packetType_ne_handle hopenFile hopendir)

theorem steps_refused (hclose : operationOf arrival.request.packetType ≠ .close)
    (hopens : opens os handler.root arrival = none)
    (hrefused : ∃ code message world, served os handler arrival =
      ⟨buildSftpStatus arrival.request.requestId code message, handler, world⟩) :
    Steps os handler arrival := by
  obtain ⟨code, message, world, hserved⟩ := hrefused
  rw [Steps, hserved]
  exact .unchanged _ hopens (entriesOf_eq_nil hopens hclose)
    (show sshFxpStatus ≠ sshFxpHandle by decide)

theorem steps_openFile (hoperation : operationOf arrival.request.packetType = .openFile) :
    Steps os handler arrival := by
  have hserved : served os handler arrival =
      handleOpen os handler arrival.world arrival.request := by
    rw [served, handleRequest, hoperation]
  have hclose : operationOf arrival.request.packetType ≠ .close := by
    rw [hoperation]
    decide
  rcases hread : readUtf8 arrival.request.data with ⟨path, rest⟩ | error | _
  · rcases hflags : readU32 rest with ⟨flags, after⟩ | error | _
    · rcases hresolve : resolvePath os handler.root path arrival.world with resolved | error | _
      · rw [Steps, hserved, handleOpen, hread]
        dsimp only
        rw [hflags]
        dsimp only
        rw [hresolve]
        apply TableStep.openedFile
        simp only [opens, hoperation, hread, hflags, hresolve]
      · apply steps_refused hclose
        · simp only [opens, hoperation, hread, hflags, hresolve]
        · simp only [hserved, handleOpen, hread, hflags, hresolve]
          exact ⟨_, _, _, rfl⟩
      · apply steps_refused hclose
        · simp only [opens, hoperation, hread, hflags, hresolve]
        · simp only [hserved, handleOpen, hread, hflags, hresolve]
          exact ⟨_, _, _, rfl⟩
    · apply steps_refused hclose
      · simp only [opens, hoperation, hread, hflags]
      · simp only [hserved, handleOpen, hread, hflags]
        exact ⟨_, _, _, rfl⟩
    · apply steps_refused hclose
      · simp only [opens, hoperation, hread, hflags]
      · simp only [hserved, handleOpen, hread, hflags]
        exact ⟨_, _, _, rfl⟩
  · apply steps_refused hclose
    · simp only [opens, hoperation, hread]
    · simp only [hserved, handleOpen, hread]
      exact ⟨_, _, _, rfl⟩
  · apply steps_refused hclose
    · simp only [opens, hoperation, hread]
    · simp only [hserved, handleOpen, hread]
      exact ⟨_, _, _, rfl⟩

theorem steps_opendir (hoperation : operationOf arrival.request.packetType = .opendir) :
    Steps os handler arrival := by
  have hserved : served os handler arrival =
      handleOpendir os handler arrival.world arrival.request := by
    rw [served, handleRequest, hoperation]
  have hclose : operationOf arrival.request.packetType ≠ .close := by
    rw [hoperation]
    decide
  rcases hread : readUtf8 arrival.request.data with ⟨path, rest⟩ | error | _
  · rcases hresolve : resolvePath os handler.root path arrival.world with resolved | error | _
    · rcases hdir : isDir os resolved arrival.world with ⟨_ | _, later⟩
      · apply steps_refused hclose
        · simp [opens, hoperation, hread, hresolve, hdir]
        · simp only [hserved, handleOpendir, withPath, hread, hresolve, hdir]
          exact ⟨_, _, _, rfl⟩
      · rw [Steps, hserved, handleOpendir, withPath, hread]
        dsimp only
        rw [hresolve]
        dsimp only
        rw [hdir]
        apply TableStep.openedDirectory
        simp [opens, hoperation, hread, hresolve, hdir]
    · apply steps_refused hclose
      · simp only [opens, hoperation, hread, hresolve]
      · simp only [hserved, handleOpendir, withPath, hread, hresolve]
        exact ⟨_, _, _, rfl⟩
    · apply steps_refused hclose
      · simp only [opens, hoperation, hread, hresolve]
      · simp only [hserved, handleOpendir, withPath, hread, hresolve]
        exact ⟨_, _, _, rfl⟩
  · apply steps_refused hclose
    · simp only [opens, hoperation, hread]
    · simp only [hserved, handleOpendir, withPath, hread]
      exact ⟨_, _, _, rfl⟩
  · apply steps_refused hclose
    · simp only [opens, hoperation, hread]
    · simp only [hserved, handleOpendir, withPath, hread]
      exact ⟨_, _, _, rfl⟩

theorem steps_readdir (hoperation : operationOf arrival.request.packetType = .readdir) :
    Steps os handler arrival := by
  have hopens : opens os handler.root arrival = none := by
    simp only [opens, hoperation]
  have hclose : operationOf arrival.request.packetType ≠ .close := by
    rw [hoperation]
    decide
  have hnil := entriesOf_eq_nil hopens hclose
  have htype : (served os handler arrival).response.packetType ≠ sshFxpHandle :=
    packetType_ne_handle (by simp [hoperation]) (by simp [hoperation])
  rw [Steps]
  generalize (served os handler arrival).response = response at htype
  rw [served, handleRequest, hoperation]
  dsimp only
  rw [handleReaddir]
  split
  · split
    · exact .unchanged _ hopens hnil htype
    · exact .unchanged _ hopens hnil htype
    · rename_i handle _ _ _ path hopen
      dsimp only
      split
      · exact .listed _ handle path hopens hnil hopen htype
      · exact .listed _ handle path hopens hnil hopen htype
  · exact .unchanged _ hopens hnil htype

theorem steps_close (hoperation : operationOf arrival.request.packetType = .close) :
    Steps os handler arrival := by
  have hopens : opens os handler.root arrival = none := by
    simp only [opens, hoperation]
  have hentries : entriesOf os handler arrival = match readString arrival.request.data with
      | .ok (handle, _) => [.closed handle]
      | _ => [] := by
    rw [entriesOf, hopens]
    exact if_pos hoperation
  have htype : (served os handler arrival).response.packetType ≠ sshFxpHandle :=
    packetType_ne_handle (by simp [hoperation]) (by simp [hoperation])
  rw [Steps]
  generalize (served os handler arrival).response = response at htype
  rw [served, handleRequest, hoperation]
  dsimp only
  rw [handleClose]
  rcases hread : readString arrival.request.data with ⟨handle, rest⟩ | error | _
  · rw [hread] at hentries
    exact .closed _ handle hopens hentries htype
  · rw [hread] at hentries
    exact .unchanged _ hopens hentries htype
  · rw [hread] at hentries
    exact .unchanged _ hopens hentries htype

/-- What serving a request does to the tables. -/
theorem steps_served (os : Os Name) (handler : Handler) (arrival : Arrival) :
    Steps os handler arrival := by
  by_cases hkeeps : KeepsTables (operationOf arrival.request.packetType)
  · exact steps_of_keepsTables hkeeps
  · simp only [KeepsTables, List.mem_cons, List.not_mem_nil, or_false, not_not] at hkeeps
    rcases hkeeps with hoperation | hoperation | hoperation | hoperation
    · exact steps_readdir hoperation
    · exact steps_opendir hoperation
    · exact steps_openFile hoperation
    · exact steps_close hoperation

end SwiftSsh.HandleTable
