import SwiftSsh.ConnectionReplay
import SwiftSsh.RequestEffects

namespace SwiftSsh.KeptEntries

open SwiftSsh.ByteWords
open SwiftSsh.EventProgram
open SwiftSsh.WireTypes
open SwiftSsh.FileTree
open SwiftSsh.FileSystem
open SwiftSsh.TreeChanges
open SwiftSsh.SftpPaths
open SwiftSsh.SftpProtocol
open SwiftSsh.SftpHandler
open SwiftSsh.RequestEffects
open SwiftSsh.ServerLoop
open SwiftSsh.ConnectionReplay

section Trees

variable {ν : Type} [DecidableEq ν]

/-- Every object is still there, or one in its place that is related to it. -/
def Retains (related : Object ν → Object ν → Prop) (before after : DirTree ν) : Prop :=
  ∀ location object, before.lookup location = some object →
    ∃ other, after.lookup location = some other ∧ related object other

variable {related : Object ν → Object ν → Prop} {tree : DirTree ν}

theorem retains_of_eq {later : DirTree ν} (hrefl : ∀ object, related object object)
    (htree : later = tree) : Retains related tree later := by
  intro location object hlookup
  rw [htree]
  exact ⟨object, hlookup, hrefl object⟩

theorem Retains.trans {first second third : DirTree ν}
    (htrans : ∀ object other last, related object other → related other last →
      related object last)
    (hfirst : Retains related first second) (hsecond : Retains related second third) :
    Retains related first third := by
  intro location object hlookup
  obtain ⟨other, hother, hrelated⟩ := hfirst location object hlookup
  obtain ⟨last, hlast, hlater⟩ := hsecond location other hother
  exact ⟨last, hlast, htrans _ _ _ hrelated hlater⟩

theorem retains_insert {place : List ν} {placed : Object ν}
    (hrefl : ∀ object, related object object)
    (hplaced : ∀ object, tree.lookup place = some object → related object placed) :
    Retains related tree (tree.insert place placed) := by
  intro location object hlookup
  by_cases heq : location = place
  · subst heq
    exact ⟨placed, AList.lookup_insert tree, hplaced object hlookup⟩
  · rw [AList.lookup_insert_ne heq]
    exact ⟨object, hlookup, hrefl object⟩

theorem retains_insert_file {place : List ν} {content : Bytes} {attributes : Attributes}
    (htarget : FileOrMissing tree place) :
    Retains SameKind tree (tree.insert place (.file content attributes)) := by
  apply retains_insert SameKind.refl
  intro object hlookup
  rcases htarget with hmissing | ⟨content', attributes', hfile⟩
  · rw [hmissing] at hlookup
    cases hlookup
  · rw [hfile] at hlookup
    cases hlookup
    exact .file _ _ _ _

omit [DecidableEq ν] in
theorem SameKind.trans {first second third : Object ν} (hfirst : SameKind first second)
    (hsecond : SameKind second third) : SameKind first third := by
  cases hfirst with
  | directory => cases hsecond with
    | directory => exact .directory _ _
  | file => cases hsecond with
    | file => exact .file _ _ _ _
  | link => cases hsecond with
    | link => exact .link _ _ _

end Trees

variable {os : Os Name} {handler : Handler} {world : World Name} {pkt : SftpPacket}

theorem retains_writeFile (path : PathText Name) (flags : UInt32) (offset : UInt64)
    (data : Bytes) (world : World Name) (requestId : UInt32) :
    Retains SameKind world.tree (writeFile os path flags offset data world requestId).2.tree := by
  have hopens := @opensWrite_openWrite Name _ os path world (flags &&& sshFxfCreat != 0)
    (flags &&& sshFxfTrunc != 0)
  rw [writeFile]
  split
  · rename_i location opened hopen
    rw [hopen] at hopens
    have hfirst : Retains SameKind world.tree opened.tree := by
      cases hopens with
      | kept _ _ hfile htruncate htree => exact retains_of_eq SameKind.refl htree
      | created _ _ hmissing htree =>
          rw [htree]
          exact retains_insert_file (.inl hmissing)
      | emptied _ _ content attributes hfile htruncate htree =>
          rw [htree]
          exact retains_insert_file (.inr ⟨content, attributes, hfile⟩)
    have hboth : Retains SameKind world.tree
        (writeAllAt os location offset data opened).2.tree := by
      refine hfirst.trans (fun _ _ _ => SameKind.trans) ?_
      rcases @writeAllAt_tree Name _ os opened location offset data with
        htree | ⟨content, attributes, htarget, htree⟩
      · exact retains_of_eq SameKind.refl htree
      · rw [htree]
        exact retains_insert_file htarget
    split
    · exact hfirst
    · split
      · rename_i heq
        rw [heq] at hboth
        exact hboth
      · rename_i heq
        rw [heq] at hboth
        exact hboth
  · rename_i hopen
    rw [hopen] at hopens
    cases hopens
    exact retains_of_eq SameKind.refl rfl

theorem tree_handleRequest
    (hlooks : operationOf pkt.packetType ∉ [.remove, .rmdir, .write, .mkdir]) :
    (handleRequest os handler world pkt).world.tree = world.tree := by
  rw [handleRequest]
  revert hlooks
  cases operationOf pkt.packetType with
  | realpath => exact fun _ => withPath_tree fun path rest => rfl
  | stat => exact fun _ => handleStat_tree
  | opendir => exact fun _ => handleOpendir_tree
  | readdir => exact fun _ => handleReaddir_tree
  | close => exact fun _ => handleClose_tree
  | openFile => exact fun _ => handleOpen_tree
  | read => exact fun _ => handleRead_tree
  | unsupported => exact fun _ => rfl
  | _ => exact fun hlooks => absurd (by decide) hlooks

theorem retains_changePath {related : Object Name → Object Name → Prop}
    (hrefl : ∀ object, related object object)
    {change : PathText Name → World Name → Option Unit × World Name} {failed : String}
    (hchange : ∀ path, Retains related world.tree (change path world).2.tree) :
    Retains related world.tree (changePath os handler world pkt change failed).world.tree := by
  rw [changePath, withPath]
  split
  · split
    · rename_i path hresolve
      have hchanged := hchange path
      split
      · rename_i heq
        rw [heq] at hchanged
        exact hchanged
      · rename_i heq
        rw [heq] at hchanged
        exact hchanged
    · exact retains_of_eq hrefl rfl
  · exact retains_of_eq hrefl rfl

theorem retains_createDir {related : Object Name → Object Name → Prop}
    (hrefl : ∀ object, related object object) (path : PathText Name) :
    Retains related world.tree (createDir os path world).2.tree := by
  rcases createDir_cases os path world with hfailed | ⟨location, later, hmissing, hmade, htree⟩
  · rw [hfailed]
    exact retains_of_eq hrefl rfl
  · rw [hmade, htree]
    apply retains_insert hrefl
    intro object hlookup
    rw [hmissing] at hlookup
    cases hlookup

/-- Without a deletion or a WRITE, everything stays as it is. -/
theorem retains_objects (hkeeps : operationOf pkt.packetType ∉ [.remove, .rmdir, .write]) :
    Retains Eq world.tree (handleRequest os handler world pkt).world.tree := by
  by_cases hmkdir : operationOf pkt.packetType = .mkdir
  · rw [handleRequest, hmkdir]
    exact retains_changePath (fun _ => rfl) (retains_createDir fun _ => rfl)
  · apply retains_of_eq fun _ => rfl
    apply tree_handleRequest
    revert hkeeps hmkdir
    cases operationOf pkt.packetType <;> decide

/-- Without a deletion, everything stays, a file perhaps with other content. -/
theorem retains_kinds (hkeeps : operationOf pkt.packetType ∉ [.remove, .rmdir]) :
    Retains SameKind world.tree (handleRequest os handler world pkt).world.tree := by
  by_cases hwrite : operationOf pkt.packetType = .write
  · rw [handleRequest, hwrite]
    dsimp only
    rcases handleWrite_cases os handler world pkt with
      ⟨path, flags, offset, data, -, hserved⟩ | ⟨-, code, message, hserved⟩
    · rw [hserved]
      exact retains_writeFile path flags offset data world pkt.requestId
    · rw [hserved]
      exact retains_of_eq SameKind.refl rfl
  · have hobjects : Retains Eq world.tree (handleRequest os handler world pkt).world.tree := by
      apply retains_objects
      revert hkeeps hwrite
      cases operationOf pkt.packetType <;> decide
    intro location object hlookup
    obtain ⟨other, hother, rfl⟩ := hobjects location object hlookup
    exact ⟨object, hother, SameKind.refl object⟩

/-- No command is executed, and no request of the given kinds is handled. -/
structure Avoids (operations : List Operation) (log : List ServerEvent) : Prop where
  commands : ∀ command, .executed command ∉ log
  requests : ∀ request, .handled request ∈ log → operationOf request.packetType ∉ operations

/-- What is kept by every request of a log is kept by the log. -/
theorem replay_keeps {env : ServerEnv} {operations : List Operation}
    {kept : DirTree Name → DirTree Name → Prop} (hrefl : ∀ tree, kept tree tree)
    (htrans : ∀ first second third, kept first second → kept second third → kept first third)
    (hrequest : ∀ handler world pkt, operationOf pkt.packetType ∉ operations →
      kept world.tree (handleRequest env.os handler world pkt).world.tree)
    {log : List ServerEvent} (havoids : Avoids operations log) (files : Files) :
    kept files.world.tree (replay env files log).world.tree := by
  obtain ⟨hcommands, hrequests⟩ := havoids
  induction log generalizing files with
  | nil => exact hrefl _
  | cons event log ih =>
      have hrest := ih (replayEvent env files event)
        (fun command hmem => hcommands command (List.mem_cons_of_mem _ hmem))
        (fun request hmem => hrequests request (List.mem_cons_of_mem _ hmem))
      refine htrans _ _ _ ?_ hrest
      cases event with
      | sent packet => exact hrefl _
      | executed command => exact absurd List.mem_cons_self (hcommands command)
      | handled request => exact hrequest _ _ _ (hrequests request List.mem_cons_self)

theorem handleConnection_keeps {env : ServerEnv} {operations : List Operation}
    (kept : DirTree Name → DirTree Name → Prop) (hrefl : ∀ tree, kept tree tree)
    (htrans : ∀ first second third, kept first second → kept second third → kept first third)
    (hrequest : ∀ handler world pkt, operationOf pkt.packetType ∉ operations →
      kept world.tree (handleRequest env.os handler world pkt).world.tree)
    {received : List Received} {state : ServerState}
    (havoids : Avoids operations (run (handleConnection env received) state).events) :
    kept state.world.tree (run (handleConnection env received) state).state.world.tree := by
  have hkept := replay_keeps hrefl htrans hrequest havoids (filesOf state)
  rw [← filesOf_handleConnection] at hkept
  exact hkept

/-- What a run leaves of the tree it starts with, by the requests in its log. -/
structure Keeps (start : DirTree Name) (r : Ran ServerState ServerEvent SshError Unit) :
    Prop where
  kinds : Avoids [.remove, .rmdir] r.events → Retains SameKind start r.state.world.tree
  objects : Avoids [.remove, .rmdir, .write] r.events → Retains Eq start r.state.world.tree
  tree : Avoids [.remove, .rmdir, .write, .mkdir] r.events → r.state.world.tree = start

/-- Whatever a server receives: if no command is executed, then without a REMOVE or RMDIR
nothing is deleted or turned into something else, without a WRITE either nothing that was
there changes at all, and without a MKDIR either the tree stays as it is. An OPEN with
any flags changes nothing. -/
theorem connection_keeps_entries (env : ServerEnv) (world : World Name)
    (received : List Received) :
    Keeps world.tree (run (handleConnection env received) (connected env world)) := by
  constructor
  · refine handleConnection_keeps (Retains SameKind)
      (fun _ => retains_of_eq SameKind.refl rfl) ?_ ?_
    · exact fun _ _ _ hfirst hsecond => hfirst.trans (fun _ _ _ => SameKind.trans) hsecond
    · exact fun _ _ _ hkeeps => retains_kinds hkeeps
  · refine handleConnection_keeps (Retains Eq) (fun _ => retains_of_eq (fun _ => rfl) rfl) ?_ ?_
    · exact fun _ _ _ hfirst hsecond => hfirst.trans (fun _ _ _ => Eq.trans) hsecond
    · exact fun _ _ _ hkeeps => retains_objects hkeeps
  · refine handleConnection_keeps (fun before after => after = before) (fun _ => rfl) ?_ ?_
    · exact fun _ _ _ hfirst hsecond => hsecond.trans hfirst
    · exact fun _ _ _ hlooks => tree_handleRequest hlooks

end SwiftSsh.KeptEntries
