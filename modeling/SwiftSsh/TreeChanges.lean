import SwiftSsh.FileSystem

namespace SwiftSsh.TreeChanges

open SwiftSsh.ByteWords
open SwiftSsh.FileTree
open SwiftSsh.FileSystem

variable {ν : Type} [DecidableEq ν]

/-- A change of at most one entry that turns no object into one of another kind. -/
inductive Alters (tree : DirTree ν) : DirTree ν → Prop where
  | same : Alters tree tree
  | file (location : List ν) (content : Bytes) (attributes : Attributes)
      (htarget : FileOrMissing tree location) :
      Alters tree (tree.insert location (.file content attributes))
  | directory (location : List ν) (attributes : Attributes)
      (hmissing : tree.lookup location = none) :
      Alters tree (tree.insert location (.directory attributes))
  | erased (location : List ν) : Alters tree (tree.erase location)

variable {os : Os ν} {path : PathText ν} {world : World ν}

theorem perform_cases (os : Os ν) (access : Access ν) (tree : DirTree ν) (world : World ν) :
    perform os access tree world = (none, world) ∨
      perform os access tree world = (some (), ⟨tree, world.accesses ++ [access]⟩) := by
  rw [perform]
  split
  · exact .inr rfl
  · exact .inl rfl

@[simp] theorem perform_tree (access : Access ν) (world : World ν) :
    (perform os access world.tree world).2.tree = world.tree := by
  rcases perform_cases os access world.tree world with hnone | hsome
  · rw [hnone]
  · rw [hsome]

@[simp] theorem metadata_tree : (metadata os path world).2.tree = world.tree := by
  rw [metadata]
  split
  · rfl
  · split
    · rfl
    · exact perform_tree _ world

@[simp] theorem isDir_tree : (isDir os path world).2.tree = world.tree :=
  metadata_tree

@[simp] theorem entriesMetadata_tree (location : List ν) (entries : List (ν × Object ν))
    (world : World ν) : (entriesMetadata os location entries world).2.tree = world.tree := by
  induction entries generalizing world with
  | nil => rfl
  | cons entry entries ih =>
      rw [entriesMetadata]
      exact (ih _).trans (perform_tree _ world)

@[simp] theorem readDir_tree : (readDir os path world).2.tree = world.tree := by
  rw [readDir]
  split
  · rfl
  · rename_i location hlocate
    split
    · dsimp only
      split
      · exact perform_tree _ world
      · exact (entriesMetadata_tree location _ _).trans (perform_tree _ world)
    · rfl

@[simp] theorem openRead_tree : (openRead os path world).2.tree = world.tree := by
  rw [openRead]
  split
  · rfl
  · split
    · rfl
    · exact perform_tree _ world

@[simp] theorem readAt_tree (location : List ν) (offset : UInt64) (count : Nat) :
    (readAt os location offset count world).2.tree = world.tree := by
  rw [readAt]
  split
  · exact perform_tree _ world
  · rfl

/-- How a file is opened for writing: it is refused, kept, or emptied. -/
inductive OpensWrite (os : Os ν) (create truncate : Bool) (world : World ν) :
    Option (List ν) × World ν → Prop where
  | refused : OpensWrite os create truncate world (none, world)
  | kept (location : List ν) (later : World ν)
      (hfile : ∃ content attributes, world.tree.lookup location = some (.file content attributes))
      (htruncate : truncate = false) (htree : later.tree = world.tree) :
      OpensWrite os create truncate world (some location, later)
  | created (location : List ν) (later : World ν) (hmissing : world.tree.lookup location = none)
      (htree : later.tree = world.tree.insert location (.file [] os.fileAttributes)) :
      OpensWrite os create truncate world (some location, later)
  | emptied (location : List ν) (later : World ν) (content : Bytes) (attributes : Attributes)
      (hfile : world.tree.lookup location = some (.file content attributes))
      (htruncate : truncate = true)
      (htree : later.tree = world.tree.insert location (.file [] attributes)) :
      OpensWrite os create truncate world (some location, later)

theorem opensWrite_openWrite (create truncate : Bool) :
    OpensWrite os create truncate world (openWrite os create truncate path world) := by
  rw [openWrite]
  split
  · exact .refused
  · rename_i location hlocate
    split
    · rename_i hmissing
      rcases perform_cases os (.create location)
        (world.tree.insert location (.file [] os.fileAttributes)) world with hnone | hsome
      · rw [hnone]
        exact .refused
      · rw [hsome]
        exact .created location _ hmissing rfl
    · rename_i content attributes hfile
      split
      · rename_i htruncate
        rcases perform_cases os (.truncate location)
          (world.tree.insert location (.file [] attributes)) world with hnone | hsome
        · rw [hnone]
          exact .refused
        · rw [hsome]
          exact .emptied location _ content attributes hfile htruncate rfl
      · rename_i htruncate
        rcases perform_cases os (.openFile location) world.tree world with hnone | hsome
        · rw [hnone]
          exact .refused
        · rw [hsome]
          exact .kept location _ ⟨content, attributes, hfile⟩ (Bool.eq_false_iff.mpr htruncate) rfl
    · exact .refused

theorem writeAllAt_of_none {location : List ν} {offset : UInt64} {data : Bytes}
    (hnone : (writeAllAt os location offset data world).1 = none) :
    (writeAllAt os location offset data world).2 = world := by
  rw [writeAllAt] at hnone ⊢
  split at hnone
  · cases hnone
  · rename_i hdata
    rw [if_neg hdata]
    split at hnone
    · rename_i content attributes hfile
      rcases perform_cases os (.write location offset.toNat data.length)
        (world.tree.insert location (.file (overwrite content offset.toNat data) attributes))
        world with hfailed | hsome
      · rw [hfailed]
      · rw [hsome] at hnone
        cases hnone
    · rfl

theorem writeAllAt_tree (location : List ν) (offset : UInt64) (data : Bytes) :
    (writeAllAt os location offset data world).2.tree = world.tree ∨
      ∃ content attributes, FileOrMissing world.tree location ∧
        (writeAllAt os location offset data world).2.tree =
          world.tree.insert location (.file content attributes) := by
  rw [writeAllAt]
  split
  · exact .inl rfl
  · split
    · rename_i content attributes hfile
      rcases perform_cases os (.write location offset.toNat data.length)
        (world.tree.insert location (.file (overwrite content offset.toNat data) attributes))
        world with hfailed | hsome
      · rw [hfailed]
        exact .inl rfl
      · rw [hsome]
        exact .inr ⟨_, attributes, .inr ⟨content, attributes, hfile⟩, rfl⟩
    · exact .inl rfl

theorem createDir_cases (os : Os ν) (path : PathText ν) (world : World ν) :
    createDir os path world = (none, world) ∨
      ∃ location later, world.tree.lookup location = none ∧
        createDir os path world = (some (), later) ∧
        later.tree = world.tree.insert location (.directory os.directoryAttributes) := by
  rw [createDir]
  split
  · exact .inl rfl
  · rename_i location hlocate
    split
    · rename_i hmissing
      rcases perform_cases os (.create location)
        (world.tree.insert location (.directory os.directoryAttributes)) world with hnone | hsome
      · exact .inl hnone
      · exact .inr ⟨location, _, hmissing, hsome, rfl⟩
    · exact .inl rfl

/-- An entry that is removed existed, and it was named by the path. -/
def Removes (os : Os ν) (path : PathText ν) (world : World ν)
    (removed : Option Unit × World ν) : Prop :=
  ∃ location later, locate world.tree os.linkLimit os.cwd .entry path = some location ∧
    (world.tree.lookup location).isSome ∧ removed = (some (), later) ∧
    later.tree = world.tree.erase location

theorem removeDir_cases (os : Os ν) (path : PathText ν) (world : World ν) :
    removeDir os path world = (none, world) ∨ Removes os path world (removeDir os path world) := by
  rw [removeDir]
  split
  · exact .inl rfl
  · rename_i location hlocate
    split
    · rename_i hempty
      rcases perform_cases os (.remove location) (world.tree.erase location) world with
        hnone | hsome
      · exact .inl hnone
      · rw [hsome]
        refine .inr ⟨location, _, hlocate, ?_, rfl, rfl⟩
        have hdirectory := hempty.2.1
        rw [isDirectory] at hdirectory
        split at hdirectory
        · rename_i hlookup
          rw [hlookup]
          rfl
        · cases hdirectory
    · exact .inl rfl

theorem removeFile_cases (os : Os ν) (path : PathText ν) (world : World ν) :
    removeFile os path world = (none, world) ∨
      Removes os path world (removeFile os path world) := by
  rw [removeFile]
  split
  · exact .inl rfl
  · rename_i location hlocate
    have hremoved : (world.tree.lookup location).isSome →
        perform os (.remove location) (world.tree.erase location) world = (none, world) ∨
          Removes os path world
            (perform os (.remove location) (world.tree.erase location) world) := by
      intro hexists
      rcases perform_cases os (.remove location) (world.tree.erase location) world with
        hnone | hsome
      · exact .inl hnone
      · rw [hsome]
        exact .inr ⟨location, _, hlocate, hexists, rfl, rfl⟩
    split
    · rename_i hlookup
      exact hremoved (by rw [hlookup]; rfl)
    · rename_i hlookup
      exact hremoved (by rw [hlookup]; rfl)
    · exact .inl rfl

/-- Objects that resolution does not tell apart. -/
inductive SameKind : Object ν → Object ν → Prop where
  | directory (first second : Attributes) : SameKind (.directory first) (.directory second)
  | file (content other : Bytes) (first second : Attributes) :
      SameKind (.file content first) (.file other second)
  | link (target : PathText ν) (first second : Attributes) :
      SameKind (.link target first) (.link target second)

omit [DecidableEq ν] in
theorem SameKind.refl (object : Object ν) : SameKind object object := by
  cases object with
  | directory attributes => exact .directory _ _
  | file content attributes => exact .file _ _ _ _
  | link target attributes => exact .link _ _ _

variable {tree later : DirTree ν}

theorem Alters.sameKind (halters : Alters tree later) {location : List ν}
    {object other : Object ν} (hbefore : tree.lookup location = some object)
    (hafter : later.lookup location = some other) : SameKind object other := by
  cases halters with
  | same =>
      rw [hbefore] at hafter
      cases hafter
      exact SameKind.refl object
  | file place content attributes htarget =>
      by_cases heq : location = place
      · subst heq
        rw [AList.lookup_insert] at hafter
        cases hafter
        rcases htarget with hmissing | ⟨content', attributes', hfile⟩
        · rw [hbefore] at hmissing
          cases hmissing
        · rw [hbefore] at hfile
          cases hfile
          exact .file _ _ _ _
      · rw [AList.lookup_insert_ne heq, hbefore] at hafter
        cases hafter
        exact SameKind.refl object
  | directory place attributes hmissing =>
      by_cases heq : location = place
      · subst heq
        rw [hbefore] at hmissing
        cases hmissing
      · rw [AList.lookup_insert_ne heq, hbefore] at hafter
        cases hafter
        exact SameKind.refl object
  | erased place =>
      by_cases heq : location = place
      · subst heq
        rw [AList.lookup_erase] at hafter
        cases hafter
      · rw [AList.lookup_erase_ne heq, hbefore] at hafter
        cases hafter
        exact SameKind.refl object

/-- A path that leads to an object before and after a change leads to the same
location: both walks pass objects of the same kind. -/
theorem walkSegments_agree (halters : Alters tree later)
    {follow follow' : List ν → List (Segment ν) → Option (List ν)}
    (hfollow : ∀ start segments first second, follow start segments = some first →
      follow' start segments = some second → first = second)
    {start first second : List ν} {segments : List (Segment ν)}
    (hbefore : walkSegments tree .existing follow start segments = some first)
    (hafter : walkSegments later .existing follow' start segments = some second) :
    first = second := by
  induction segments generalizing start with
  | nil =>
      cases hbefore
      cases hafter
      rfl
  | cons segment rest ih =>
      cases segment with
      | current =>
          rw [walkSegments] at hbefore hafter
          split at hbefore
          · split at hafter
            · exact ih hbefore hafter
            · cases hafter
          · cases hbefore
      | parent =>
          rw [walkSegments] at hbefore hafter
          split at hbefore
          · split at hafter
            · exact ih hbefore hafter
            · cases hafter
          · cases hbefore
      | name name =>
          rw [walkSegments] at hbefore hafter
          split at hbefore
          · split at hafter
            · rw [if_neg (by simp)] at hbefore hafter
              cases hold : tree.lookup (start ++ [name]) with
              | none =>
                  rw [hold] at hbefore
                  simp at hbefore
              | some object =>
                  cases hnew : later.lookup (start ++ [name]) with
                  | none =>
                      rw [hnew] at hafter
                      simp at hafter
                  | some other =>
                      rw [hold] at hbefore
                      rw [hnew] at hafter
                      cases halters.sameKind hold hnew with
                      | directory first second => exact ih hbefore hafter
                      | file content other first second => exact ih hbefore hafter
                      | link target first second => exact hfollow _ _ _ _ hbefore hafter
            · cases hafter
          · cases hbefore

theorem walk_agree (halters : Alters tree later) {limit : Nat} {start first second : List ν}
    {segments : List (Segment ν)}
    (hbefore : walk tree .existing limit start segments = some first)
    (hafter : walk later .existing limit start segments = some second) : first = second := by
  induction limit generalizing start segments first second with
  | zero =>
      refine walkSegments_agree halters ?_ hbefore hafter
      intro start segments first second hfirst
      cases hfirst
  | succ limit ih =>
      refine walkSegments_agree halters ?_ hbefore hafter
      intro start segments first second hfirst hsecond
      exact ih hfirst hsecond

theorem locate_agree (halters : Alters tree later) {limit : Nat} {cwd first second : List ν}
    {path : PathText ν} (hbefore : locate tree limit cwd .existing path = some first)
    (hafter : locate later limit cwd .existing path = some second) : first = second := by
  rw [locate] at hbefore hafter
  split at hbefore
  · rename_i habsolute
    rw [if_pos habsolute] at hafter
    exact walk_agree halters hbefore hafter
  · rename_i hrelative
    rw [if_neg hrelative] at hafter
    split at hbefore
    · cases hbefore
    · rename_i hne
      rw [if_neg hne] at hafter
      exact walk_agree halters hbefore hafter

end SwiftSsh.TreeChanges
