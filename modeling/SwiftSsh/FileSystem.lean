import SwiftSsh.FileTree

/-!
File system calls on a tree, with a log of the objects they act on. A call may
fail for reasons outside the tree; a failed call changes nothing.
-/

namespace SwiftSsh.FileSystem

open SwiftSsh.ByteWords
open SwiftSsh.FileTree

variable {ν : Type} [DecidableEq ν]

/-- One act on the object at a location. -/
inductive Access (ν : Type) where
  | stat (location : List ν)
  | list (location : List ν)
  | openFile (location : List ν)
  | read (location : List ν)
  | create (location : List ν)
  | truncate (location : List ν)
  | write (location : List ν) (offset count : Nat)
  | remove (location : List ν)
  deriving DecidableEq

/-- The object that is acted on. -/
def Access.location : Access ν → List ν
  | stat location => location
  | list location => location
  | openFile location => location
  | read location => location
  | create location => location
  | truncate location => location
  | write location _ _ => location
  | remove location => location

/-- What the operating system adds to the tree: the working directory, the number
of links a resolution may follow, the attributes of new objects, which acts it
permits, where an opened object can be positioned and how much a read returns of
what is available. An offset is signed, and a file can be positioned wherever it has
content and at its end; how far beyond depends on the file system. -/
structure Os (ν : Type) [DecidableEq ν] where
  cwd : List ν
  linkLimit : Nat
  fileAttributes : Attributes
  directoryAttributes : Attributes
  permits : DirTree ν → Access ν → Bool
  canSeek : DirTree ν → List ν → UInt64 → Bool
  canSeek_lt : ∀ tree location offset, canSeek tree location offset = true →
    offset.toNat < 2 ^ 63
  canSeek_content : ∀ tree location content attributes offset,
    tree.lookup location = some (.file content attributes) →
    offset.toNat ≤ content.length → offset.toNat < 2 ^ 63 →
    canSeek tree location offset = true
  readCount : Nat → Nat → Nat
  readCount_pos : ∀ offset available, 0 < available → 0 < readCount offset available
  readCount_le : ∀ offset available, readCount offset available ≤ available

/-- The tree, and what has been done to objects so far. -/
structure World (ν : Type) [DecidableEq ν] where
  tree : DirTree ν
  accesses : List (Access ν)

/-- What `std::fs::metadata` tells about an object, as far as it is used. -/
structure Metadata where
  isDirectory : Bool
  attributes : Attributes
  deriving DecidableEq

/-- The size of a file is that of its content. -/
def metadataOf : Object ν → Metadata
  | .directory attributes => ⟨true, attributes⟩
  | .file content attributes => ⟨false, { attributes with size := UInt64.ofNat content.length }⟩
  | .link _ attributes => ⟨false, attributes⟩

variable (os : Os ν)

/-- Act on an object if that is permitted, with the tree it leaves. -/
def perform (access : Access ν) (tree : DirTree ν) (world : World ν) : Option Unit × World ν :=
  if os.permits world.tree access then (some (), ⟨tree, world.accesses ++ [access]⟩)
  else (none, world)

/-- `std::fs::canonicalize`: the location of an existing object, as a path. -/
def canonicalize (path : PathText ν) (world : World ν) : Option (PathText ν) :=
  (locate world.tree os.linkLimit os.cwd .existing path).map pathOf

/-- `std::fs::metadata`, which follows links. -/
def metadata (path : PathText ν) (world : World ν) : Option Metadata × World ν :=
  match locate world.tree os.linkLimit os.cwd .existing path with
  | none => (none, world)
  | some location =>
      match world.tree.lookup location with
      | none => (none, world)
      | some object =>
          let r := perform os (.stat location) world.tree world
          (r.1.map fun _ => metadataOf object, r.2)

/-- `Path::is_dir`: any error counts as no. -/
def isDir (path : PathText ν) (world : World ν) : Bool × World ν :=
  let r := metadata os path world
  ((r.1.map Metadata.isDirectory).getD false, r.2)

/-- The names and objects directly below a location. -/
def children (tree : DirTree ν) (location : List ν) : List (ν × Object ν) :=
  tree.entries.filterMap fun entry =>
    match entry.1.getLast? with
    | none => none
    | some name => if entry.1.dropLast = location then some (name, entry.2) else none

/-- The metadata of each entry of a directory, without following links. -/
def entriesMetadata (location : List ν) :
    List (ν × Object ν) → World ν → List (ν × Option Metadata) × World ν
  | [], world => ([], world)
  | (name, object) :: entries, world =>
      let r := perform os (.stat (location ++ [name])) world.tree world
      let later := entriesMetadata location entries r.2
      ((name, r.1.map fun _ => metadataOf object) :: later.1, later.2)

/-- `std::fs::read_dir`, with the metadata of each entry. -/
def readDir (path : PathText ν) (world : World ν) :
    Option (List (ν × Option Metadata)) × World ν :=
  match locate world.tree os.linkLimit os.cwd .existing path with
  | none => (none, world)
  | some location =>
      if isDirectory world.tree location then
        let r := perform os (.list location) world.tree world
        match r.1 with
        | none => (none, r.2)
        | some _ =>
            let listed := entriesMetadata os location (children world.tree location) r.2
            (some listed.1, listed.2)
      else (none, world)

/-- Open an existing object for reading. -/
def openRead (path : PathText ν) (world : World ν) : Option (List ν) × World ν :=
  match locate world.tree os.linkLimit os.cwd .existing path with
  | none => (none, world)
  | some location =>
      match world.tree.lookup location with
      | none => (none, world)
      | some _ =>
          let r := perform os (.openFile location) world.tree world
          (r.1.map fun _ => location, r.2)

/-- Read at most `count` bytes of an opened object at an offset. -/
def readAt (location : List ν) (offset : UInt64) (count : Nat) (world : World ν) :
    Option Bytes × World ν :=
  match world.tree.lookup location with
  | some (.file content _) =>
      let available := (content.drop offset.toNat).take count
      let r := perform os (.read location) world.tree world
      (r.1.map fun _ => available.take (os.readCount offset.toNat available.length), r.2)
  | _ => (none, world)

/-- Open a file for writing. -/
def openWrite (create truncate : Bool) (path : PathText ν) (world : World ν) :
    Option (List ν) × World ν :=
  match locate world.tree os.linkLimit os.cwd (if create then .creating else .existing) path with
  | none => (none, world)
  | some location =>
      match world.tree.lookup location with
      | none =>
          let r := perform os (.create location)
            (world.tree.insert location (.file [] os.fileAttributes)) world
          (r.1.map fun _ => location, r.2)
      | some (.file _ attributes) =>
          if truncate then
            let r := perform os (.truncate location)
              (world.tree.insert location (.file [] attributes)) world
            (r.1.map fun _ => location, r.2)
          else
            let r := perform os (.openFile location) world.tree world
            (r.1.map fun _ => location, r.2)
      | some _ => (none, world)

/-- Content after data has been written at an offset; a gap is filled with
zeros. -/
def overwrite (content : Bytes) (offset : Nat) (data : Bytes) : Bytes :=
  content.take offset ++ List.replicate (offset - content.length) 0 ++ data ++
    content.drop (offset + data.length)

/-- Write all data to an opened file at an offset. Empty data is not written. The
writes of `write_all` are one act: where it fails, none of them has happened. -/
def writeAllAt (location : List ν) (offset : UInt64) (data : Bytes) (world : World ν) :
    Option Unit × World ν :=
  if data = [] then (some (), world)
  else
    match world.tree.lookup location with
    | some (.file content attributes) =>
        perform os (.write location offset.toNat data.length)
          (world.tree.insert location (.file (overwrite content offset.toNat data) attributes))
          world
    | _ => (none, world)

/-- Make a directory. The attributes of the directory above stay as they are. -/
def createDir (path : PathText ν) (world : World ν) : Option Unit × World ν :=
  match locate world.tree os.linkLimit os.cwd .entry path with
  | none => (none, world)
  | some location =>
      match world.tree.lookup location with
      | none =>
          perform os (.create location)
            (world.tree.insert location (.directory os.directoryAttributes)) world
      | some _ => (none, world)

/-- `std::fs::remove_dir`: only an empty directory, and never the top. -/
def removeDir (path : PathText ν) (world : World ν) : Option Unit × World ν :=
  match locate world.tree os.linkLimit os.cwd .entry path with
  | none => (none, world)
  | some location =>
      if location ≠ [] ∧ isDirectory world.tree location ∧
          children world.tree location = [] then
        perform os (.remove location) (world.tree.erase location) world
      else (none, world)

/-- `std::fs::remove_file`: a link is removed itself. -/
def removeFile (path : PathText ν) (world : World ν) : Option Unit × World ν :=
  match locate world.tree os.linkLimit os.cwd .entry path with
  | none => (none, world)
  | some location =>
      match world.tree.lookup location with
      | some (.file _ _) | some (.link _ _) =>
          perform os (.remove location) (world.tree.erase location) world
      | _ => (none, world)

/-- Only objects at or below a location have been acted on, and no link has been
made. -/
structure Confined (top : List ν) (before after : World ν) : Prop where
  links : NoNewLinks before.tree after.tree
  accesses : ∃ more, after.accesses = before.accesses ++ more ∧
    ∀ access ∈ more, top <+: access.location

theorem Confined.refl (top : List ν) (world : World ν) : Confined top world world :=
  ⟨NoNewLinks.refl _, [], (List.append_nil _).symm, fun _ hmem => absurd hmem List.not_mem_nil⟩

theorem Confined.trans {top : List ν} {first second third : World ν}
    (hfirst : Confined top first second) (hsecond : Confined top second third) :
    Confined top first third := by
  obtain ⟨hlinks, more, hmore, hall⟩ := hfirst
  obtain ⟨hlinks', more', hmore', hall'⟩ := hsecond
  refine ⟨hlinks.trans hlinks', more ++ more', ?_, ?_⟩
  · rw [hmore', hmore, List.append_assoc]
  · intro access hmem
    rcases List.mem_append.mp hmem with hmem | hmem
    · exact hall access hmem
    · exact hall' access hmem

variable {os} {top : List ν} {path : PathText ν} {world : World ν}

theorem confined_perform {access : Access ν} {tree : DirTree ν}
    (htop : top <+: access.location) (hlinks : NoNewLinks world.tree tree) :
    Confined top world (perform os access tree world).2 := by
  rw [perform]
  split
  · refine ⟨hlinks, [access], rfl, ?_⟩
    intro access' hmem
    rwa [List.mem_singleton.mp hmem]
  · exact Confined.refl top world

/-- Whatever a path names lies at or below a location. -/
def LeadsBelow (os : Os ν) (top : List ν) (path : PathText ν) (tree : DirTree ν) : Prop :=
  ∀ final location, locate tree os.linkLimit os.cwd final path = some location →
    top <+: location

theorem confined_metadata (hbelow : LeadsBelow os top path world.tree) :
    Confined top world (metadata os path world).2 := by
  rw [metadata]
  split
  · exact Confined.refl top world
  · rename_i location hlocate
    split
    · exact Confined.refl top world
    · exact confined_perform (hbelow _ _ hlocate) (NoNewLinks.refl _)

theorem confined_entriesMetadata {location : List ν} (hbelow : top <+: location)
    (entries : List (ν × Object ν)) (world : World ν) :
    Confined top world (entriesMetadata os location entries world).2 := by
  induction entries generalizing world with
  | nil => exact Confined.refl top world
  | cons entry entries ih =>
      have hentry : Confined top world
          (perform os (.stat (location ++ [entry.1])) world.tree world).2 :=
        confined_perform (hbelow.trans (List.prefix_append _ _)) (NoNewLinks.refl _)
      exact hentry.trans (ih _)

theorem confined_readDir (hbelow : LeadsBelow os top path world.tree) :
    Confined top world (readDir os path world).2 := by
  rw [readDir]
  split
  · exact Confined.refl top world
  · rename_i location hlocate
    have htop := hbelow _ _ hlocate
    have hlist : Confined top world (perform os (.list location) world.tree world).2 :=
      confined_perform htop (NoNewLinks.refl _)
    split
    · dsimp only
      split
      · exact hlist
      · exact hlist.trans (confined_entriesMetadata htop _ _)
    · exact Confined.refl top world

theorem confined_openRead (hbelow : LeadsBelow os top path world.tree) :
    Confined top world (openRead os path world).2 ∧
      ∀ location, (openRead os path world).1 = some location → top <+: location := by
  rw [openRead]
  split
  · exact ⟨Confined.refl top world, by simp⟩
  · rename_i location hlocate
    have htop := hbelow _ _ hlocate
    split
    · exact ⟨Confined.refl top world, by simp⟩
    · refine ⟨confined_perform htop (NoNewLinks.refl _), ?_⟩
      intro found hfound
      obtain ⟨-, -, rfl⟩ := Option.map_eq_some_iff.mp hfound
      exact htop

theorem confined_readAt {location : List ν} (htop : top <+: location) (offset : UInt64)
    (count : Nat) : Confined top world (readAt os location offset count world).2 := by
  rw [readAt]
  split
  · exact confined_perform htop (NoNewLinks.refl _)
  · exact Confined.refl top world

theorem noNewLinks_insert_file (tree : DirTree ν) (location : List ν) (content : Bytes)
    (attributes : Attributes) :
    NoNewLinks tree (tree.insert location (.file content attributes)) :=
  noNewLinks_insert tree location (by simp)

theorem confined_openWrite (create truncate : Bool)
    (hbelow : LeadsBelow os top path world.tree) :
    Confined top world (openWrite os create truncate path world).2 ∧
      ∀ location, (openWrite os create truncate path world).1 = some location →
        top <+: location := by
  rw [openWrite]
  split
  · exact ⟨Confined.refl top world, by simp⟩
  · rename_i location hlocate
    have htop := hbelow _ _ hlocate
    have hfound : ∀ (result : Option Unit) found,
        result.map (fun _ => location) = some found → top <+: found := by
      intro result found hfound
      obtain ⟨-, -, rfl⟩ := Option.map_eq_some_iff.mp hfound
      exact htop
    split
    · exact ⟨confined_perform htop (noNewLinks_insert_file _ _ _ _), hfound _⟩
    · split
      · exact ⟨confined_perform htop (noNewLinks_insert_file _ _ _ _), hfound _⟩
      · exact ⟨confined_perform htop (NoNewLinks.refl _), hfound _⟩
    · exact ⟨Confined.refl top world, by simp⟩

theorem confined_writeAllAt {location : List ν} (htop : top <+: location) (offset : UInt64)
    (data : Bytes) : Confined top world (writeAllAt os location offset data world).2 := by
  rw [writeAllAt]
  split
  · exact Confined.refl top world
  · split
    · exact confined_perform htop (noNewLinks_insert_file _ _ _ _)
    · exact Confined.refl top world

theorem confined_createDir (hbelow : LeadsBelow os top path world.tree) :
    Confined top world (createDir os path world).2 := by
  rw [createDir]
  split
  · exact Confined.refl top world
  · rename_i location hlocate
    split
    · exact confined_perform (hbelow _ _ hlocate)
        (noNewLinks_insert world.tree location (by simp))
    · exact Confined.refl top world

theorem confined_removeDir (hbelow : LeadsBelow os top path world.tree) :
    Confined top world (removeDir os path world).2 := by
  rw [removeDir]
  split
  · exact Confined.refl top world
  · rename_i location hlocate
    split
    · exact confined_perform (hbelow _ _ hlocate) (noNewLinks_erase world.tree location)
    · exact Confined.refl top world

theorem confined_removeFile (hbelow : LeadsBelow os top path world.tree) :
    Confined top world (removeFile os path world).2 := by
  rw [removeFile]
  split
  · exact Confined.refl top world
  · rename_i location hlocate
    split
    · exact confined_perform (hbelow _ _ hlocate) (noNewLinks_erase world.tree location)
    · exact confined_perform (hbelow _ _ hlocate) (noNewLinks_erase world.tree location)
    · exact Confined.refl top world

theorem leadsBelow_pathOf {tree : DirTree ν} {location : List ν} (htop : top <+: location)
    (hfree : LinkFree tree location) : LeadsBelow os top (pathOf location) tree := by
  intro final found hlocate
  rwa [locate_pathOf hfree hlocate]

end SwiftSsh.FileSystem
