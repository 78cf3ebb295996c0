import SwiftSsh.RequestEffects

namespace SwiftSsh.RemovedEntries

open SwiftSsh.ByteWords
open SwiftSsh.RustOutcome
open SwiftSsh.WireTypes
open SwiftSsh.WireBuffer
open SwiftSsh.FileTree
open SwiftSsh.FileSystem
open SwiftSsh.TreeChanges
open SwiftSsh.SftpPaths
open SwiftSsh.SftpProtocol
open SwiftSsh.SftpHandler

/-- A STATUS response with the code for success. -/
def AnsweredOk (response : SftpPacket) : Prop :=
  response.packetType = sshFxpStatus ∧ parse readU32 response.data = .ok sshFxOk

instance (response : SftpPacket) : Decidable (AnsweredOk response) :=
  inferInstanceAs (Decidable (_ ∧ _))

/-- The entry that a path names: the way to it is resolved, its last name is not
followed. -/
def namedEntry (os : Os Name) (path : PathText Name) (world : World Name) :
    Option (List Name) :=
  locate world.tree os.linkLimit os.cwd .entry path

/-- The named entry is gone and every other one is as it was. -/
structure RemovesNamed (os : Os Name) (path : PathText Name) (world later : World Name) :
    Prop where
  gone : ∀ location, namedEntry os path world = some location →
    later.tree.lookup location = none
  others : ∀ location, namedEntry os path world ≠ some location →
    later.tree.lookup location = world.tree.lookup location

/-- Resolution leads to the named entry: nothing is followed in the last name of a
path that exists, and a path that does not exist names what its lexical form
names. -/
def LeadsToNamed (os : Os Name) (path : PathText Name) (world : World Name) : Prop :=
  match locate world.tree os.linkLimit os.cwd .existing path with
  | some location => namedEntry os path world = some location
  | none => namedEntry os path world = namedEntry os (normalizePath path) world

variable {os : Os Name} {handler : Handler} {world later : World Name} {pkt : SftpPacket}
  {path : PathText Name}

theorem not_answeredOk_status {requestId code : UInt32} {message : String}
    (hcode : code ≠ sshFxOk) : ¬ AnsweredOk (buildSftpStatus requestId code message) := by
  rintro ⟨-, hparse⟩
  rw [parse_buildSftpStatus] at hparse
  exact hcode (Outcome.ok.inj hparse)

/-- An erased entry is the named one exactly when nothing else is missing. -/
theorem removesNamed_iff {location : List Name}
    (hexists : (world.tree.lookup location).isSome)
    (htree : later.tree = world.tree.erase location) :
    RemovesNamed os path world later ↔ namedEntry os path world = some location := by
  constructor
  · intro hremoves
    by_contra hother
    have hsame := hremoves.others location hother
    rw [htree, AList.lookup_erase] at hsame
    rw [← hsame] at hexists
    cases hexists
  · intro hnamed
    constructor
    · intro other hother
      rw [hnamed] at hother
      cases hother
      rw [htree, AList.lookup_erase]
    · intro other hother
      rw [htree, AList.lookup_erase_ne]
      rintro rfl
      exact hother hnamed

theorem removed_of_resolved {location : List Name} (hcwd : LinkFree world.tree os.cwd)
    (hlocate : namedEntry os (canonicalOrNormal os path world) world = some location) :
    namedEntry os path world = some location ↔ LeadsToNamed os path world := by
  rw [LeadsToNamed]
  rw [canonicalOrNormal, canonicalize] at hlocate
  cases hexists : locate world.tree os.linkLimit os.cwd .existing path with
  | none =>
      rw [hexists, Option.map_none, Option.getD_none] at hlocate
      dsimp only
      rw [hlocate]
  | some found =>
      rw [hexists, Option.map_some, Option.getD_some] at hlocate
      have hfound := locate_pathOf (linkFree_of_locate hcwd hexists) hlocate
      dsimp only
      rw [hfound]

/-- What a request that removes something leaves. -/
theorem removes_of_answeredOk {change : PathText Name → World Name → Option Unit × World Name}
    {failed requested : String} {rest : Bytes}
    (hchange : ∀ path, change path world = (none, world) ∨
      Removes os path world (change path world))
    (hread : readUtf8 pkt.data = .ok (requested, rest))
    (hok : AnsweredOk (changePath os handler world pkt change failed).response) :
    ∃ location,
      namedEntry os (canonicalOrNormal os (requestedPath handler.root requested) world) world =
        some location ∧
      (world.tree.lookup location).isSome ∧
      (changePath os handler world pkt change failed).world.tree =
        world.tree.erase location := by
  rw [changePath, withPath, hread] at hok ⊢
  dsimp only at hok ⊢
  cases hresolve : resolvePath os handler.root requested world with
  | ok resolved =>
      rw [hresolve] at hok
      dsimp only at hok ⊢
      have hpath : resolved =
          canonicalOrNormal os (requestedPath handler.root requested) world := by
        rw [resolvePath] at hresolve
        split at hresolve
        · exact (Outcome.ok.inj hresolve).symm
        · cases hresolve
      rcases hchange resolved with hnone | ⟨location, later, hlocate, hexists, hsome, htree⟩
      · rw [hnone] at hok
        exact absurd hok (not_answeredOk_status (by decide))
      · rw [hsome]
        rw [hpath] at hlocate
        exact ⟨location, hlocate, hexists, htree⟩
  | err error =>
      rw [hresolve] at hok
      exact absurd hok (not_answeredOk_status (by decide))
  | panic =>
      rw [hresolve] at hok
      exact absurd hok (not_answeredOk_status (by decide))

/-- A removal that is answered with success removes what was named, and nothing
else, exactly when resolution leads to what was named. -/
theorem removal_as_named_iff (os : Os Name) (handler : Handler) (world : World Name)
    (pkt : SftpPacket) (requested : String) (rest : Bytes)
    (hcwd : LinkFree world.tree os.cwd)
    (hoperation : operationOf pkt.packetType = .remove ∨
      operationOf pkt.packetType = .rmdir)
    (hread : readUtf8 pkt.data = .ok (requested, rest))
    (hok : AnsweredOk (handleRequest os handler world pkt).response) :
    RemovesNamed os (requestedPath handler.root requested) world
        (handleRequest os handler world pkt).world ↔
      LeadsToNamed os (requestedPath handler.root requested) world := by
  have hremoved : ∃ location,
      namedEntry os (canonicalOrNormal os (requestedPath handler.root requested) world) world =
        some location ∧
      (world.tree.lookup location).isSome ∧
      (handleRequest os handler world pkt).world.tree = world.tree.erase location := by
    rw [handleRequest] at hok ⊢
    rcases hoperation with hremove | hrmdir
    · rw [hremove] at hok ⊢
      exact removes_of_answeredOk (fun path => removeFile_cases os path world) hread hok
    · rw [hrmdir] at hok ⊢
      exact removes_of_answeredOk (fun path => removeDir_cases os path world) hread hok
  obtain ⟨location, hlocate, hexists, htree⟩ := hremoved
  rw [removesNamed_iff hexists htree]
  exact removed_of_resolved hcwd hlocate

/-- A REMOVE request. -/
def askRemove (requested : String) : SftpPacket :=
  ⟨sshFxpRemove, 1, writeUtf8 requested⟩

theorem removal_as_named_sample :
    RemovesNamed plainOs (requestedPath sampleRoot "f") ⟨sampleTree, []⟩
      (handleRequest plainOs (newHandler sampleRoot) ⟨sampleTree, []⟩ (askRemove "f")).world := by
  refine (removal_as_named_iff plainOs (newHandler sampleRoot) ⟨sampleTree, []⟩ (askRemove "f")
    "f" [] (linkFree_nil _) (.inl rfl) (by decide +kernel) (by decide +kernel)).mpr ?_
  have hlocate : locate sampleTree plainOs.linkLimit plainOs.cwd .existing
      (requestedPath sampleRoot "f") = some [utf8 "srv", utf8 "f"] := by
    decide +kernel
  change LeadsToNamed plainOs (requestedPath sampleRoot "f") ⟨sampleTree, []⟩
  rw [LeadsToNamed, hlocate]
  decide +kernel

/-- The sample tree with a link to its file beside it. -/
def linkedTree : DirTree Name :=
  sampleTree.insert [utf8 "srv", utf8 "l"] (.link ⟨false, [.name (utf8 "f")]⟩ ⟨1, 41471, 0, 0⟩)

/-- Removing the link removes the file. -/
theorem remove_link_removes_file :
    ¬ ∀ (os : Os Name) (handler : Handler) (world : World Name) (pkt : SftpPacket)
        (requested : String) (rest : Bytes), LinkFree world.tree os.cwd →
      (operationOf pkt.packetType = .remove ∨ operationOf pkt.packetType = .rmdir) →
      readUtf8 pkt.data = .ok (requested, rest) →
      AnsweredOk (handleRequest os handler world pkt).response →
        RemovesNamed os (requestedPath handler.root requested) world
          (handleRequest os handler world pkt).world := by
  intro hremoves
  have hgone := (hremoves plainOs (newHandler sampleRoot) ⟨linkedTree, []⟩ (askRemove "l") "l" []
    (linkFree_nil _) (.inl rfl) (by decide +kernel) (by decide +kernel)).gone
    [utf8 "srv", utf8 "l"] (by decide +kernel)
  revert hgone
  decide +kernel

end SwiftSsh.RemovedEntries
