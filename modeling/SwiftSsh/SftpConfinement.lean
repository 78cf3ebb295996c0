import SwiftSsh.RequestEffects

namespace SwiftSsh.SftpConfinement

open SwiftSsh.ByteWords
open SwiftSsh.RustOutcome
open SwiftSsh.WireTypes
open SwiftSsh.WireBuffer
open SwiftSsh.FileTree
open SwiftSsh.FileSystem
open SwiftSsh.SftpPaths
open SwiftSsh.SftpProtocol
open SwiftSsh.SftpHandler
open SwiftSsh.RequestEffects

/-- The stacks of the loop in `normalize_path`: names, possibly after the root. -/
def Plain (stack : List Component) : Prop :=
  ∃ names : List Name, stack = names.map .normal ∨ stack = .rootDir :: names.map .normal

theorem plain_normalizeStep {stack : List Component} (hplain : Plain stack)
    {component : Component} (hroot : component ≠ .rootDir) :
    Plain (normalizeStep stack component) := by
  obtain ⟨names, rfl | rfl⟩ := hplain
  · cases component with
    | rootDir => exact absurd rfl hroot
    | curDir => exact ⟨names, Or.inl rfl⟩
    | parentDir => exact ⟨names.dropLast, Or.inl List.map_dropLast.symm⟩
    | normal name => exact ⟨names ++ [name], Or.inl (by simp [normalizeStep])⟩
  · cases component with
    | rootDir => exact absurd rfl hroot
    | curDir => exact ⟨names, Or.inr rfl⟩
    | parentDir =>
        rcases names.eq_nil_or_concat with rfl | ⟨front, last, rfl⟩
        · exact ⟨[], Or.inl rfl⟩
        · refine ⟨front, Or.inr ?_⟩
          rw [List.concat_eq_append, List.map_append, List.map_singleton, ← List.cons_append]
          exact List.dropLast_concat
    | normal name => exact ⟨names ++ [name], Or.inr (by simp [normalizeStep])⟩

theorem plain_foldl {stack rest : List Component} (hplain : Plain stack)
    (hrest : .rootDir ∉ rest) : Plain (rest.foldl normalizeStep stack) := by
  induction rest generalizing stack with
  | nil => exact hplain
  | cons component rest ih =>
      rw [List.mem_cons, not_or] at hrest
      exact ih (plain_normalizeStep hplain (Ne.symm hrest.1)) hrest.2

theorem rootDir_notMem_body (segments : List (Segment Name)) :
    Component.rootDir ∉ segments.filterMap componentOf := by
  rw [List.mem_filterMap]
  rintro ⟨segment, -, hsegment⟩
  cases segment <;> simp [componentOf] at hsegment

theorem plain_normalized (path : PathText Name) :
    Plain ((components path).foldl normalizeStep []) := by
  have hbody := rootDir_notMem_body path.segments
  rw [components]
  split
  · rw [List.foldl_cons]
    exact plain_foldl ⟨[], Or.inr rfl⟩ hbody
  · split
    · rw [List.foldl_cons]
      exact plain_foldl ⟨[], Or.inl rfl⟩ hbody
    · exact plain_foldl ⟨[], Or.inl rfl⟩ hbody

theorem foldl_pushComponent_names (path : PathText Name) (names : List Name) :
    (names.map Component.normal).foldl pushComponent path =
      ⟨path.absolute, path.segments ++ names.map .name⟩ := by
  induction names generalizing path with
  | nil => simp
  | cons name names ih => simp [ih, pushComponent]

/-- A normalized path is a list of names, from the top or relative. -/
theorem normalizePath_plain (path : PathText Name) :
    ∃ absolute, ∃ names : List Name,
      normalizePath path = ⟨absolute, names.map .name⟩ := by
  obtain ⟨names, hstack | hstack⟩ := plain_normalized path
  · exact ⟨false, names, by
      rw [normalizePath, hstack, collectComponents, foldl_pushComponent_names]
      simp⟩
  · exact ⟨true, names, by
      rw [normalizePath, hstack, collectComponents, List.foldl_cons,
        foldl_pushComponent_names]
      simp [pushComponent]⟩

theorem filterMap_names (names : List Name) :
    (names.map Segment.name).filterMap componentOf = names.map .normal := by
  induction names with
  | nil => rfl
  | cons name names ih => rw [List.map_cons, List.filterMap_cons, ih]; rfl

theorem components_pathOf (location : List Name) :
    components (pathOf location) = .rootDir :: location.map .normal := by
  simp only [components, pathOf, if_true, filterMap_names]

theorem normal_injective : Function.Injective Component.normal :=
  fun _ _ heq => Component.normal.inj heq

theorem prefix_of_startsWith {top location : List Name}
    (hstarts : startsWith (pathOf location) (pathOf top) = true) : top <+: location := by
  rw [startsWith, List.isPrefixOf_iff_prefix, components_pathOf, components_pathOf,
    List.cons_prefix_cons] at hstarts
  exact (List.prefix_map_iff_of_injective normal_injective).mp hstarts.2

theorem absolute_of_startsWith {top names : List Name} {absolute : Bool}
    (hstarts : startsWith ⟨absolute, names.map .name⟩ (pathOf top) = true) :
    absolute = true := by
  cases absolute with
  | true => rfl
  | false =>
      rw [startsWith, List.isPrefixOf_iff_prefix, components_pathOf] at hstarts
      obtain ⟨rest, hrest⟩ := hstarts
      cases names <;> simp [components, componentOf] at hrest

/-- A path that can only lead below the top: it spells a location there and no
name on it is a link. -/
def SafePath (top : List Name) (tree : DirTree Name) (path : PathText Name) : Prop :=
  ∃ location, path = pathOf location ∧ top <+: location ∧ LinkFree tree location

theorem SafePath.leadsBelow {top : List Name} {tree : DirTree Name} {path : PathText Name}
    (hsafe : SafePath top tree path) (os : Os Name) : LeadsBelow os top path tree := by
  obtain ⟨location, rfl, htop, hfree⟩ := hsafe
  exact leadsBelow_pathOf htop hfree

theorem SafePath.mono {top : List Name} {before after : DirTree Name} {path : PathText Name}
    (hlinks : NoNewLinks before after) (hsafe : SafePath top before path) :
    SafePath top after path := by
  obtain ⟨location, hpath, htop, hfree⟩ := hsafe
  exact ⟨location, hpath, htop, hfree.mono hlinks⟩

/-- The check of `resolve_path` can be relied on: the path it compares with is
the canonical root of the start, and a path that it could only normalize passes
no link. -/
structure Reliable (os : Os Name) (start root : PathText Name) (requested : String)
    (world : World Name) : Prop where
  rootKept : canonicalOrNormal os root world = start
  fallback : canonicalize os (requestedPath root requested) world = none →
    startsWith (normalizePath (requestedPath root requested)) start = true →
    ∀ location, normalizePath (requestedPath root requested) = pathOf location →
      LinkFree world.tree location

theorem safePath_of_resolvePath {os : Os Name} {top : List Name} {root path : PathText Name}
    {requested : String} {world : World Name} (hcwd : LinkFree world.tree os.cwd)
    (hreliable : Reliable os (pathOf top) root requested world)
    (hresolve : resolvePath os root requested world = .ok path) :
    SafePath top world.tree path := by
  rw [resolvePath, hreliable.rootKept] at hresolve
  split at hresolve
  · rename_i hstarts
    obtain rfl := Outcome.ok.inj hresolve
    cases hcanonical : canonicalize os (requestedPath root requested) world with
    | some canonical =>
        obtain ⟨location, hlocate, rfl⟩ := Option.map_eq_some_iff.mp hcanonical
        rw [canonicalOrNormal, hcanonical] at hstarts ⊢
        exact ⟨location, rfl, prefix_of_startsWith hstarts, linkFree_of_locate hcwd hlocate⟩
    | none =>
        rw [canonicalOrNormal, hcanonical, Option.getD_none] at hstarts ⊢
        obtain ⟨absolute, names, hnormal⟩ := normalizePath_plain (requestedPath root requested)
        have habsolute : absolute = true := by
          rw [hnormal] at hstarts
          exact absolute_of_startsWith hstarts
        subst habsolute
        change _ = pathOf names at hnormal
        have htop : top <+: names := by
          rw [hnormal] at hstarts
          exact prefix_of_startsWith hstarts
        exact ⟨names, hnormal, htop, hreliable.fallback hcanonical hstarts names hnormal⟩
  · simp at hresolve

/-- A path the handler has stored for a handle. -/
def Stored (handler : Handler) (path : PathText Name) : Prop :=
  (∃ handle flags, handler.openFiles.lookup handle = some (path, flags)) ∨
    ∃ handle listed, handler.openDirs.lookup handle = some (path, listed)

/-- The root stays, the working directory is reached without links, and the paths that are
stored for handles are safe. -/
structure Invariant (os : Os Name) (top : List Name) (root : PathText Name)
    (handler : Handler) (world : World Name) : Prop where
  root : handler.root = root
  cwd : LinkFree world.tree os.cwd
  stored : ∀ path, Stored handler path → SafePath top world.tree path

variable {os : Os Name} {top : List Name} {root : PathText Name} {handler : Handler}
  {world : World Name}

/-- The invariant after a confined change that stores only safe paths. -/
theorem Invariant.step (hinvariant : Invariant os top root handler world)
    {handler' : Handler} {world' : World Name} (hconfined : Confined top world world')
    (hroot : handler'.root = handler.root)
    (hstored : ∀ path, Stored handler' path →
      Stored handler path ∨ SafePath top world.tree path) :
    Invariant os top root handler' world' where
  root := hroot.trans hinvariant.root
  cwd := hinvariant.cwd.mono hconfined.links
  stored := by
    intro path hpath
    rcases hstored path hpath with hold | hsafe
    · exact (hinvariant.stored path hold).mono hconfined.links
    · exact hsafe.mono hconfined.links

theorem stored_insert_file {handle : Bytes} {path path' : PathText Name} {flags : UInt32}
    {next : UInt32}
    (hstored : Stored ⟨next, handler.openFiles.insert handle (path, flags), handler.openDirs,
      handler.root⟩ path') :
    Stored handler path' ∨ path' = path := by
  rcases hstored with ⟨handle', flags', hlookup⟩ | ⟨handle', listed, hlookup⟩
  · by_cases heq : handle' = handle
    · subst heq
      rw [AList.lookup_insert, Option.some.injEq, Prod.mk.injEq] at hlookup
      exact Or.inr hlookup.1.symm
    · rw [AList.lookup_insert_ne heq] at hlookup
      exact Or.inl (Or.inl ⟨handle', flags', hlookup⟩)
  · exact Or.inl (Or.inr ⟨handle', listed, hlookup⟩)

theorem stored_insert_dir {handle : Bytes} {path path' : PathText Name} {listed : Bool}
    {next : UInt32}
    (hstored : Stored ⟨next, handler.openFiles, handler.openDirs.insert handle (path, listed),
      handler.root⟩ path') :
    Stored handler path' ∨ path' = path := by
  rcases hstored with ⟨handle', flags, hlookup⟩ | ⟨handle', listed', hlookup⟩
  · exact Or.inl (Or.inl ⟨handle', flags, hlookup⟩)
  · by_cases heq : handle' = handle
    · subst heq
      rw [AList.lookup_insert, Option.some.injEq, Prod.mk.injEq] at hlookup
      exact Or.inr hlookup.1.symm
    · rw [AList.lookup_insert_ne heq] at hlookup
      exact Or.inl (Or.inr ⟨handle', listed', hlookup⟩)

theorem stored_erase {handle : Bytes} {path : PathText Name}
    (hstored : Stored { handler with
      openFiles := handler.openFiles.erase handle
      openDirs := handler.openDirs.erase handle } path) : Stored handler path := by
  rcases hstored with ⟨handle', flags, hlookup⟩ | ⟨handle', listed, hlookup⟩
  · by_cases heq : handle' = handle
    · subst heq
      rw [AList.lookup_erase] at hlookup
      simp at hlookup
    · rw [AList.lookup_erase_ne heq] at hlookup
      exact Or.inl ⟨handle', flags, hlookup⟩
  · by_cases heq : handle' = handle
    · subst heq
      rw [AList.lookup_erase] at hlookup
      simp at hlookup
    · rw [AList.lookup_erase_ne heq] at hlookup
      exact Or.inr ⟨handle', listed, hlookup⟩

/-- What serving a request in a safe state keeps. -/
def Kept (os : Os Name) (top : List Name) (root : PathText Name) (world : World Name)
    (served : Served) : Prop :=
  Confined top world served.world ∧ Invariant os top root served.handler served.world

theorem kept_unchanged (hinvariant : Invariant os top root handler world)
    (response : SftpPacket) : Kept os top root world ⟨response, handler, world⟩ :=
  ⟨Confined.refl top world, hinvariant⟩

theorem kept_world (hinvariant : Invariant os top root handler world) {world' : World Name}
    (hconfined : Confined top world world') (response : SftpPacket) :
    Kept os top root world ⟨response, handler, world'⟩ :=
  ⟨hconfined, hinvariant.step hconfined rfl fun _ hpath => Or.inl hpath⟩

/-- The operations whose request names a path. -/
def resolvesPath : Operation → Bool
  | .realpath | .stat | .opendir | .openFile | .mkdir | .rmdir | .remove => true
  | .readdir | .close | .read | .write | .unsupported => false

/-- The path named by a request, for the operations that resolve one. -/
def requestedText (pkt : SftpPacket) : Option String :=
  if resolvesPath (operationOf pkt.packetType) then
    match readUtf8 pkt.data with
    | .ok (path, _) => some path
    | _ => none
  else none

theorem requestedText_eq {pkt : SftpPacket} {path : String} {rest : Bytes}
    (hresolves : resolvesPath (operationOf pkt.packetType) = true)
    (hread : readUtf8 pkt.data = .ok (path, rest)) : requestedText pkt = some path := by
  rw [requestedText, if_pos hresolves, hread]

theorem kept_withPath (hinvariant : Invariant os top root handler world) {pkt : SftpPacket}
    {denied : UInt32 × String} {next : PathText Name → Bytes → Served}
    (hreliable : ∀ path rest, readUtf8 pkt.data = .ok (path, rest) →
      Reliable os (pathOf top) root path world)
    (hnext : ∀ path rest, SafePath top world.tree path →
      Kept os top root world (next path rest)) :
    Kept os top root world (withPath os handler world pkt denied next) := by
  rw [withPath]
  split
  · rename_i path rest hread
    split
    · rename_i resolved hresolve
      rw [hinvariant.root] at hresolve
      exact hnext resolved rest
        (safePath_of_resolvePath hinvariant.cwd (hreliable path rest hread) hresolve)
    · exact kept_unchanged hinvariant _
  · exact kept_unchanged hinvariant _

theorem kept_changePath (hinvariant : Invariant os top root handler world)
    {pkt : SftpPacket} {change : PathText Name → World Name → Option Unit × World Name}
    {failed : String}
    (hreliable : ∀ path rest, readUtf8 pkt.data = .ok (path, rest) →
      Reliable os (pathOf top) root path world)
    (hchange : ∀ path, LeadsBelow os top path world.tree →
      Confined top world (change path world).2) :
    Kept os top root world (changePath os handler world pkt change failed) := by
  apply kept_withPath hinvariant hreliable
  intro path rest hsafe
  have hconfined := hchange path (hsafe.leadsBelow os)
  split
  · rename_i heq
    rw [heq] at hconfined
    exact kept_world hinvariant hconfined _
  · rename_i heq
    rw [heq] at hconfined
    exact kept_world hinvariant hconfined _

theorem kept_realpath (hinvariant : Invariant os top root handler world) {pkt : SftpPacket}
    (hreliable : ∀ path rest, readUtf8 pkt.data = .ok (path, rest) →
      Reliable os (pathOf top) root path world) :
    Kept os top root world (handleRealpath os handler world pkt) :=
  kept_withPath hinvariant hreliable fun _ _ _ => kept_unchanged hinvariant _

theorem kept_stat (hinvariant : Invariant os top root handler world) {pkt : SftpPacket}
    (hreliable : ∀ path rest, readUtf8 pkt.data = .ok (path, rest) →
      Reliable os (pathOf top) root path world) :
    Kept os top root world (handleStat os handler world pkt) := by
  apply kept_withPath hinvariant hreliable
  intro path rest hsafe
  have hconfined := confined_metadata (hsafe.leadsBelow os)
  split
  · rename_i heq
    rw [heq] at hconfined
    exact kept_world hinvariant hconfined _
  · rename_i heq
    rw [heq] at hconfined
    exact kept_world hinvariant hconfined _

theorem kept_opendir (hinvariant : Invariant os top root handler world) {pkt : SftpPacket}
    (hreliable : ∀ path rest, readUtf8 pkt.data = .ok (path, rest) →
      Reliable os (pathOf top) root path world) :
    Kept os top root world (handleOpendir os handler world pkt) := by
  apply kept_withPath hinvariant hreliable
  intro path rest hsafe
  have hconfined : Confined top world (isDir os path world).2 :=
    confined_metadata (hsafe.leadsBelow os)
  split
  · rename_i heq
    rw [heq] at hconfined
    refine ⟨hconfined, hinvariant.step hconfined rfl ?_⟩
    intro path' hstored
    rcases stored_insert_dir hstored with hold | rfl
    · exact Or.inl hold
    · exact Or.inr hsafe
  · rename_i heq
    rw [heq] at hconfined
    exact kept_world hinvariant hconfined _

theorem kept_readdir (hinvariant : Invariant os top root handler world) (pkt : SftpPacket) :
    Kept os top root world (handleReaddir os handler world pkt) := by
  rw [handleReaddir]
  split
  · rename_i handle rest hread
    split
    · exact kept_unchanged hinvariant _
    · exact kept_unchanged hinvariant _
    · rename_i path hlookup
      have hsafe := hinvariant.stored path (Or.inr ⟨handle, false, hlookup⟩)
      have hconfined := confined_readDir (hsafe.leadsBelow os)
      have hstored : ∀ path', Stored ⟨handler.nextHandle, handler.openFiles,
          handler.openDirs.insert handle (path, true), handler.root⟩ path' →
          Stored handler path' ∨ SafePath top world.tree path' := by
        intro path' hstored
        rcases stored_insert_dir hstored with hold | rfl
        · exact Or.inl hold
        · exact Or.inr hsafe
      dsimp only
      split
      · rename_i heq
        rw [heq] at hconfined
        exact ⟨hconfined, hinvariant.step hconfined rfl hstored⟩
      · rename_i heq
        rw [heq] at hconfined
        exact ⟨hconfined, hinvariant.step hconfined rfl hstored⟩
  · exact kept_unchanged hinvariant _

theorem kept_close (hinvariant : Invariant os top root handler world) (pkt : SftpPacket) :
    Kept os top root world (handleClose handler world pkt) := by
  rw [handleClose]
  split
  · refine ⟨Confined.refl top world, hinvariant.step (Confined.refl top world) rfl ?_⟩
    exact fun path hstored => Or.inl (stored_erase hstored)
  · exact kept_unchanged hinvariant _

theorem kept_open (hinvariant : Invariant os top root handler world) {pkt : SftpPacket}
    (hreliable : ∀ path rest, readUtf8 pkt.data = .ok (path, rest) →
      Reliable os (pathOf top) root path world) :
    Kept os top root world (handleOpen os handler world pkt) := by
  rw [handleOpen]
  split
  · rename_i path rest hread
    split
    · split
      · rename_i resolved hresolve
        rw [hinvariant.root] at hresolve
        have hsafe := safePath_of_resolvePath hinvariant.cwd (hreliable path rest hread) hresolve
        refine ⟨Confined.refl top world, hinvariant.step (Confined.refl top world) rfl ?_⟩
        intro path' hstored
        rcases stored_insert_file hstored with hold | rfl
        · exact Or.inl hold
        · exact Or.inr hsafe
      · exact kept_unchanged hinvariant _
    · exact kept_unchanged hinvariant _
  · exact kept_unchanged hinvariant _

theorem confined_readFile {path : PathText Name} (hbelow : LeadsBelow os top path world.tree)
    (offset : UInt64) (length : Nat) (requestId : UInt32) :
    Confined top world (readFile os path offset length world requestId).2 := by
  have hopen := confined_openRead hbelow
  rw [readFile]
  split
  · rename_i location opened heq
    rw [heq] at hopen
    have hread : Confined top opened (readAt os location offset (min length 32768) opened).2 :=
      confined_readAt (hopen.2 location rfl) _ _
    split
    · exact hopen.1
    · split
      · rename_i heq
        rw [heq] at hread
        exact hopen.1.trans hread
      · rename_i heq
        rw [heq] at hread
        exact hopen.1.trans hread
      · rename_i heq
        rw [heq] at hread
        exact hopen.1.trans hread
  · rename_i heq
    rw [heq] at hopen
    exact hopen.1

theorem confined_writeFile {path : PathText Name} (hbelow : LeadsBelow os top path world.tree)
    (flags : UInt32) (offset : UInt64) (data : Bytes) (requestId : UInt32) :
    Confined top world (writeFile os path flags offset data world requestId).2 := by
  have hopen := confined_openWrite (flags &&& sshFxfCreat != 0) (flags &&& sshFxfTrunc != 0)
    hbelow
  rw [writeFile]
  split
  · rename_i location opened heq
    rw [heq] at hopen
    have hwrite : Confined top opened (writeAllAt os location offset data opened).2 :=
      confined_writeAllAt (hopen.2 location rfl) _ _
    split
    · exact hopen.1
    · split
      · rename_i heq
        rw [heq] at hwrite
        exact hopen.1.trans hwrite
      · rename_i heq
        rw [heq] at hwrite
        exact hopen.1.trans hwrite
  · rename_i heq
    rw [heq] at hopen
    exact hopen.1

theorem kept_read (hinvariant : Invariant os top root handler world) (pkt : SftpPacket) :
    Kept os top root world (handleRead os handler world pkt) := by
  rcases handleRead_cases os handler world pkt with
    ⟨path, flags, offset, length, htarget, hserved⟩ | ⟨-, code, message, hserved⟩
  · obtain ⟨handle, rest, -, hlookup⟩ := lookup_of_readTarget htarget
    have hsafe := hinvariant.stored path (Or.inl ⟨handle, flags, hlookup⟩)
    rw [hserved]
    exact kept_world hinvariant (confined_readFile (hsafe.leadsBelow os) _ _ _) _
  · rw [hserved]
    exact kept_unchanged hinvariant _

theorem kept_write (hinvariant : Invariant os top root handler world) (pkt : SftpPacket) :
    Kept os top root world (handleWrite os handler world pkt) := by
  rcases handleWrite_cases os handler world pkt with
    ⟨path, flags, offset, data, htarget, hserved⟩ | ⟨-, code, message, hserved⟩
  · obtain ⟨-, handle, rest, -, hlookup⟩ := lookup_of_writeTarget htarget
    have hsafe := hinvariant.stored path (Or.inl ⟨handle, flags, hlookup⟩)
    rw [hserved]
    exact kept_world hinvariant (confined_writeFile (hsafe.leadsBelow os) _ _ _ _) _
  · rw [hserved]
    exact kept_unchanged hinvariant _

/-- One request: if the check of its path can be relied on, only objects below
the top are acted on and the stored paths stay safe. -/
theorem kept_handleRequest (hinvariant : Invariant os top root handler world)
    (pkt : SftpPacket)
    (hreliable : ∀ path, requestedText pkt = some path → Reliable os (pathOf top) root path world) :
    Kept os top root world (handleRequest os handler world pkt) := by
  have hnamed : resolvesPath (operationOf pkt.packetType) = true →
      ∀ path rest, readUtf8 pkt.data = .ok (path, rest) →
        Reliable os (pathOf top) root path world :=
    fun hresolves path rest hread => hreliable path (requestedText_eq hresolves hread)
  rw [handleRequest]
  cases hoperation : operationOf pkt.packetType with
  | realpath => exact kept_realpath hinvariant (hnamed (by rw [hoperation]; rfl))
  | stat => exact kept_stat hinvariant (hnamed (by rw [hoperation]; rfl))
  | opendir => exact kept_opendir hinvariant (hnamed (by rw [hoperation]; rfl))
  | readdir => exact kept_readdir hinvariant pkt
  | close => exact kept_close hinvariant pkt
  | openFile => exact kept_open hinvariant (hnamed (by rw [hoperation]; rfl))
  | read => exact kept_read hinvariant pkt
  | write => exact kept_write hinvariant pkt
  | mkdir =>
      exact kept_changePath hinvariant (hnamed (by rw [hoperation]; rfl))
        fun _ => confined_createDir
  | rmdir =>
      exact kept_changePath hinvariant (hnamed (by rw [hoperation]; rfl))
        fun _ => confined_removeDir
  | remove =>
      exact kept_changePath hinvariant (hnamed (by rw [hoperation]; rfl))
        fun _ => confined_removeFile
  | unsupported => exact kept_unchanged hinvariant _

/-- Every request of a run meets the condition in the state before it. -/
def AllReliable (os : Os Name) (start root : PathText Name) :
    Handler → World Name → List SftpPacket → Prop
  | _, _, [] => True
  | handler, world, pkt :: pkts =>
      (∀ path, requestedText pkt = some path → Reliable os start root path world) ∧
        AllReliable os start root (handleRequest os handler world pkt).handler
          (handleRequest os handler world pkt).world pkts

theorem confined_serveAll (hinvariant : Invariant os top root handler world)
    (pkts : List SftpPacket) (hreliable : AllReliable os (pathOf top) root handler world pkts) :
    Confined top world (serveAll os handler world pkts).world := by
  induction pkts generalizing handler world with
  | nil => exact Confined.refl top world
  | cons pkt pkts ih =>
      obtain ⟨hconfined, hnext⟩ := kept_handleRequest hinvariant pkt hreliable.1
      exact hconfined.trans (ih hnext hreliable.2)

theorem invariant_newHandler (hcwd : LinkFree world.tree os.cwd) :
    Invariant os top root (newHandler root) world where
  root := rfl
  cwd := hcwd
  stored := by
    rintro path (⟨handle, flags, hlookup⟩ | ⟨handle, listed, hlookup⟩)
    · simp [newHandler] at hlookup
    · simp [newHandler] at hlookup

/-- Confinement over every run of requests whose path checks can be relied on:
everything the handler acts on lies at or below the canonical root. -/
theorem accesses_below_root (os : Os Name) (root : PathText Name) (top : List Name)
    (tree : DirTree Name) (hcwd : LinkFree tree os.cwd)
    (hroot : canonicalize os root ⟨tree, []⟩ = some (pathOf top)) (pkts : List SftpPacket)
    (hreliable : AllReliable os (canonicalOrNormal os root ⟨tree, []⟩) root (newHandler root)
      ⟨tree, []⟩ pkts) :
    ∀ access ∈ (serveAll os (newHandler root) ⟨tree, []⟩ pkts).world.accesses,
      top <+: access.location := by
  rw [canonicalOrNormal, hroot, Option.getD_some] at hreliable
  obtain ⟨-, more, hmore, hall⟩ :=
    confined_serveAll (invariant_newHandler hcwd) pkts hreliable
  rw [hmore, List.nil_append]
  exact hall

/-- Open the file of the sample tree and read it. -/
def readRequests : List SftpPacket :=
  [⟨sshFxpOpen, 1, writeUtf8 "f" ++ writeU32 1⟩,
    ⟨sshFxpRead, 2, writeString (be32 0) ++ be64 0 ++ writeU32 100⟩]

theorem accesses_below_root_readRequests :
    (serveAll plainOs (newHandler sampleRoot) ⟨sampleTree, []⟩ readRequests).world.accesses ≠ [] ∧
      ∀ access ∈
        (serveAll plainOs (newHandler sampleRoot) ⟨sampleTree, []⟩ readRequests).world.accesses,
        [utf8 "srv"] <+: access.location := by
  refine ⟨by decide +kernel, ?_⟩
  refine accesses_below_root plainOs sampleRoot [utf8 "srv"] sampleTree (linkFree_nil _)
    (by decide +kernel) readRequests ⟨?_, ?_, trivial⟩
  · intro path hpath
    obtain rfl : "f" = path := by
      have htext : requestedText ⟨sshFxpOpen, 1, writeUtf8 "f" ++ writeU32 1⟩ = some "f" := by
        decide +kernel
      exact Option.some.inj (htext.symm.trans hpath)
    refine ⟨rfl, fun hnone => ?_⟩
    exact absurd hnone (by decide +kernel)
  · intro path hpath
    have htext : requestedText
        ⟨sshFxpRead, 2, writeString (be32 0) ++ be64 0 ++ writeU32 100⟩ = none := by
      decide +kernel
    exact absurd (htext.symm.trans hpath) (by simp)

/-- A name that does not exist yet behind the link: it is only normalized, and the
directory is made outside the root. -/
theorem mkdir_behind_link_escapes :
    canonicalize plainOs sampleRoot ⟨sampleTree, []⟩ = some (pathOf [utf8 "srv"]) ∧
      ¬ ∀ access ∈ (serveAll plainOs (newHandler sampleRoot) ⟨sampleTree, []⟩
          [⟨sshFxpMkdir, 1, writeUtf8 "d/new"⟩]).world.accesses,
        [utf8 "srv"] <+: access.location := by
  decide +kernel

end SwiftSsh.SftpConfinement
