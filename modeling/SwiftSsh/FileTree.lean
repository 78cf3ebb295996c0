import Mathlib.Data.List.AList
import SwiftSsh.ByteWords

/-!
Trees of directories, files and symbolic links, and the resolution of paths in
them. A location is the list of names that leads to an object from the top.
-/

namespace SwiftSsh.FileTree

open SwiftSsh.ByteWords

variable {ν : Type} [DecidableEq ν]

/-- A part of a path between two separators. -/
inductive Segment (ν : Type) where
  | current
  | parent
  | name (name : ν)
  deriving DecidableEq

/-- A path as it is written. The empty path is relative and has no segments. -/
structure PathText (ν : Type) where
  absolute : Bool
  segments : List (Segment ν)
  deriving DecidableEq

/-- What is recorded about an object besides its content. -/
structure Attributes where
  size : UInt64
  mode : UInt32
  uid : UInt32
  gid : UInt32
  deriving DecidableEq

/-- What a directory tree holds. There are no devices, pipes or sockets. -/
inductive Object (ν : Type) where
  | directory (attributes : Attributes)
  | file (content : Bytes) (attributes : Attributes)
  | link (target : PathText ν) (attributes : Attributes)
  deriving DecidableEq

/-- The objects of a file system by their locations. -/
abbrev DirTree (ν : Type) [DecidableEq ν] := AList fun _ : List ν => Object ν

/-- The path that names a location without any link. -/
def pathOf (location : List ν) : PathText ν :=
  ⟨true, location.map .name⟩

/-- Whether there is a directory at a location. -/
def isDirectory (tree : DirTree ν) (location : List ν) : Bool :=
  match tree.lookup location with
  | some (.directory _) => true
  | _ => false

/-- What is expected of the last name of a path: an object, which may be missing,
or only the entry itself. -/
inductive Final where
  | existing
  | creating
  | entry
  deriving DecidableEq

/-- Follow segments from a location. Links are handed to `follow` together with
the segments after them. -/
def walkSegments (tree : DirTree ν) (final : Final)
    (follow : List ν → List (Segment ν) → Option (List ν)) :
    List ν → List (Segment ν) → Option (List ν)
  | location, [] => some location
  | location, .current :: rest =>
      if isDirectory tree location then walkSegments tree final follow location rest else none
  | location, .parent :: rest =>
      if isDirectory tree location then
        walkSegments tree final follow location.dropLast rest
      else none
  | location, .name name :: rest =>
      if isDirectory tree location then
        if rest = [] ∧ final = .entry then some (location ++ [name])
        else
          match tree.lookup (location ++ [name]) with
          | none => if rest = [] ∧ final = .creating then some (location ++ [name]) else none
          | some (.link target _) =>
              follow (if target.absolute then [] else location) (target.segments ++ rest)
          | some _ => walkSegments tree final follow (location ++ [name]) rest
      else none

/-- Resolution that follows at most `limit` links. -/
def walk (tree : DirTree ν) (final : Final) : Nat → List ν → List (Segment ν) → Option (List ν)
  | 0 => walkSegments tree final fun _ _ => none
  | limit + 1 => walkSegments tree final (walk tree final limit)

/-- The location that a path names for a process in directory `cwd`. -/
def locate (tree : DirTree ν) (limit : Nat) (cwd : List ν) (final : Final) (path : PathText ν) :
    Option (List ν) :=
  if path.absolute then walk tree final limit [] path.segments
  else if path.segments = [] then none
  else walk tree final limit cwd path.segments

/-- No name on the way to a location is a link. -/
def LinkFree (tree : DirTree ν) (location : List ν) : Prop :=
  ∀ front, front ≠ [] → front <+: location →
    ∀ target attributes, tree.lookup front ≠ some (.link target attributes)

theorem linkFree_nil (tree : DirTree ν) : LinkFree tree [] := by
  intro front hne hfront
  exact absurd (List.prefix_nil.mp hfront) hne

theorem LinkFree.of_prefix {tree : DirTree ν} {front location : List ν}
    (hfree : LinkFree tree location) (hfront : front <+: location) : LinkFree tree front :=
  fun front' hne hfront' => hfree front' hne (hfront'.trans hfront)

theorem LinkFree.append {tree : DirTree ν} {location : List ν} {name : ν}
    (hfree : LinkFree tree location)
    (hname : ∀ target attributes,
      tree.lookup (location ++ [name]) ≠ some (.link target attributes)) :
    LinkFree tree (location ++ [name]) := by
  intro front hne hfront
  rcases List.prefix_concat_iff.mp hfront with rfl | hfront
  · exact hname
  · exact hfree front hne hfront

section Walk

variable {tree : DirTree ν} {follow : List ν → List (Segment ν) → Option (List ν)}

/-- Resolution of an existing object ends at a location without links. -/
theorem linkFree_of_walkSegments
    (hfollow : ∀ start segments location, LinkFree tree start →
      follow start segments = some location → LinkFree tree location)
    {start location : List ν} {segments : List (Segment ν)} (hstart : LinkFree tree start)
    (hwalk : walkSegments tree .existing follow start segments = some location) :
    LinkFree tree location := by
  induction segments generalizing start with
  | nil =>
      obtain rfl := Option.some.inj hwalk
      exact hstart
  | cons segment rest ih =>
      cases segment with
      | current =>
          rw [walkSegments] at hwalk
          split at hwalk
          · exact ih hstart hwalk
          · simp at hwalk
      | parent =>
          rw [walkSegments] at hwalk
          split at hwalk
          · exact ih (hstart.of_prefix (List.dropLast_prefix start)) hwalk
          · simp at hwalk
      | name name =>
          rw [walkSegments] at hwalk
          split at hwalk
          · rw [if_neg (by simp)] at hwalk
            split at hwalk
            · simp at hwalk
            · rename_i target attributes hlookup
              refine hfollow _ _ _ ?_ hwalk
              split
              · exact linkFree_nil tree
              · exact hstart
            · rename_i object hlink hlookup
              refine ih (hstart.append ?_) hwalk
              intro target attributes heq
              exact hlink target attributes (Option.some.inj (hlookup.symm.trans heq))
          · simp at hwalk

theorem linkFree_of_walk {limit : Nat} {start location : List ν}
    {segments : List (Segment ν)} (hstart : LinkFree tree start)
    (hwalk : walk tree .existing limit start segments = some location) :
    LinkFree tree location := by
  induction limit generalizing start segments location with
  | zero => exact linkFree_of_walkSegments (fun _ _ _ _ h => by simp at h) hstart hwalk
  | succ limit ih =>
      exact linkFree_of_walkSegments (fun _ _ _ hstart h => ih hstart h) hstart hwalk

theorem walkSegments_names {final : Final} {start location : List ν} {names : List ν}
    (hfree : LinkFree tree (start ++ names))
    (hwalk : walkSegments tree final follow start (names.map .name) = some location) :
    location = start ++ names := by
  induction names generalizing start with
  | nil =>
      rw [List.append_nil]
      exact (Option.some.inj hwalk).symm
  | cons name names ih =>
      have hsplit : start ++ name :: names = (start ++ [name]) ++ names := by simp
      have hname := hfree (start ++ [name]) (by simp) (by
        rw [hsplit]
        exact List.prefix_append _ _)
      rw [List.map_cons, walkSegments] at hwalk
      split at hwalk
      · split at hwalk
        · rename_i hlast
          obtain rfl : names = [] := List.map_eq_nil_iff.mp hlast.1
          exact (Option.some.inj hwalk).symm
        · split at hwalk
          · split at hwalk
            · rename_i hlast
              obtain rfl : names = [] := List.map_eq_nil_iff.mp hlast.1
              exact (Option.some.inj hwalk).symm
            · simp at hwalk
          · rename_i target attributes hlookup
            exact absurd hlookup (hname target attributes)
          · rw [hsplit] at hfree ⊢
            exact ih hfree hwalk
      · simp at hwalk

end Walk

theorem locate_pathOf {tree : DirTree ν} {limit : Nat} {cwd location found : List ν}
    {final : Final} (hfree : LinkFree tree location)
    (hlocate : locate tree limit cwd final (pathOf location) = some found) :
    found = location := by
  simp only [locate, pathOf, if_true] at hlocate
  cases limit with
  | zero => exact walkSegments_names hfree hlocate
  | succ limit => exact walkSegments_names hfree hlocate

theorem linkFree_of_locate {tree : DirTree ν} {limit : Nat} {cwd location : List ν}
    {path : PathText ν} (hcwd : LinkFree tree cwd)
    (hlocate : locate tree limit cwd .existing path = some location) :
    LinkFree tree location := by
  rw [locate] at hlocate
  split at hlocate
  · exact linkFree_of_walk (linkFree_nil tree) hlocate
  · split at hlocate
    · simp at hlocate
    · exact linkFree_of_walk hcwd hlocate

/-- The links of one tree are links of the other. -/
def NoNewLinks (before after : DirTree ν) : Prop :=
  ∀ location target attributes, after.lookup location = some (.link target attributes) →
    before.lookup location = some (.link target attributes)

theorem NoNewLinks.refl (tree : DirTree ν) : NoNewLinks tree tree :=
  fun _ _ _ hlookup => hlookup

theorem NoNewLinks.trans {first second third : DirTree ν} (hfirst : NoNewLinks first second)
    (hsecond : NoNewLinks second third) : NoNewLinks first third :=
  fun location target attributes hlookup =>
    hfirst location target attributes (hsecond location target attributes hlookup)

theorem LinkFree.mono {before after : DirTree ν} (hlinks : NoNewLinks before after)
    {location : List ν} (hfree : LinkFree before location) : LinkFree after location :=
  fun front hne hfront target attributes hlookup =>
    hfree front hne hfront target attributes (hlinks front target attributes hlookup)

theorem noNewLinks_insert (tree : DirTree ν) (location : List ν) {object : Object ν}
    (hobject : ∀ target attributes, object ≠ .link target attributes) :
    NoNewLinks tree (tree.insert location object) := by
  intro location' target attributes hlookup
  by_cases heq : location' = location
  · subst heq
    rw [AList.lookup_insert] at hlookup
    exact absurd (Option.some.inj hlookup) (hobject target attributes)
  · rwa [AList.lookup_insert_ne heq] at hlookup

theorem noNewLinks_erase (tree : DirTree ν) (location : List ν) :
    NoNewLinks tree (tree.erase location) := by
  intro location' target attributes hlookup
  by_cases heq : location' = location
  · subst heq
    rw [AList.lookup_erase] at hlookup
    simp at hlookup
  · rwa [AList.lookup_erase_ne heq] at hlookup

section Create

variable {tree : DirTree ν} {location : List ν} {content : Bytes} {attributes : Attributes}

/-- The object that a file may be written to. -/
def FileOrMissing (tree : DirTree ν) (location : List ν) : Prop :=
  tree.lookup location = none ∨
    ∃ content attributes, tree.lookup location = some (.file content attributes)

theorem FileOrMissing.not_directory (htarget : FileOrMissing tree location) :
    isDirectory tree location = false := by
  rw [isDirectory]
  rcases htarget with hnone | ⟨content, attributes, hfile⟩
  · rw [hnone]
  · rw [hfile]

theorem isDirectory_insert_file (htarget : FileOrMissing tree location)
    (directory : List ν) :
    isDirectory (tree.insert location (.file content attributes)) directory =
      isDirectory tree directory := by
  by_cases heq : directory = location
  · subst heq
    rw [htarget.not_directory, isDirectory, AList.lookup_insert]
  · rw [isDirectory, AList.lookup_insert_ne heq]
    rfl

/-- A path that leads to a place for a file still does after the file has been
put there: the way to it passes only directories and links. -/
theorem walkSegments_insert_file (htarget : FileOrMissing tree location)
    {follow follow' : List ν → List (Segment ν) → Option (List ν)}
    (hfollow : ∀ start segments, follow start segments = some location →
      follow' start segments = some location)
    {start : List ν} {segments : List (Segment ν)}
    (hwalk : walkSegments tree .creating follow start segments = some location) :
    walkSegments (tree.insert location (.file content attributes)) .creating follow' start
      segments = some location := by
  induction segments generalizing start with
  | nil => exact hwalk
  | cons segment rest ih =>
      cases segment with
      | current =>
          rw [walkSegments] at hwalk ⊢
          rw [isDirectory_insert_file htarget]
          split at hwalk
          · rw [if_pos (by assumption)]
            exact ih hwalk
          · simp at hwalk
      | parent =>
          rw [walkSegments] at hwalk ⊢
          rw [isDirectory_insert_file htarget]
          split at hwalk
          · rw [if_pos (by assumption)]
            exact ih hwalk
          · simp at hwalk
      | name name =>
          rw [walkSegments] at hwalk ⊢
          rw [isDirectory_insert_file htarget]
          split at hwalk
          · rw [if_pos (by assumption), if_neg (by simp)]
            rw [if_neg (by simp)] at hwalk
            by_cases hhere : start ++ [name] = location
            · subst hhere
              rw [AList.lookup_insert]
              cases rest with
              | nil => rfl
              | cons segment rest =>
                  -- Beyond the place itself the walk would need a directory there.
                  have hdir := htarget.not_directory
                  rcases htarget with hnone | ⟨content, attributes, hfile⟩
                  · simp [hnone] at hwalk
                  · rw [hfile] at hwalk
                    cases segment <;> simp [walkSegments, hdir] at hwalk
            · rw [AList.lookup_insert_ne hhere]
              split at hwalk
              · split at hwalk
                · exact absurd (Option.some.inj hwalk) hhere
                · simp at hwalk
              · exact hfollow _ _ hwalk
              · exact ih hwalk
          · simp at hwalk

theorem walk_insert_file (htarget : FileOrMissing tree location) {limit : Nat}
    {start : List ν} {segments : List (Segment ν)}
    (hwalk : walk tree .creating limit start segments = some location) :
    walk (tree.insert location (.file content attributes)) .creating limit start segments =
      some location := by
  induction limit generalizing start segments with
  | zero => exact walkSegments_insert_file htarget (fun _ _ h => h) hwalk
  | succ limit ih => exact walkSegments_insert_file htarget (fun _ _ h => ih h) hwalk

theorem locate_insert_file (htarget : FileOrMissing tree location) {limit : Nat}
    {cwd : List ν} {path : PathText ν}
    (hlocate : locate tree limit cwd .creating path = some location) :
    locate (tree.insert location (.file content attributes)) limit cwd .creating path =
      some location := by
  rw [locate] at hlocate ⊢
  split at hlocate
  · rw [if_pos (by assumption)]
    exact walk_insert_file htarget hlocate
  · rw [if_neg (by assumption)]
    split at hlocate
    · simp at hlocate
    · rw [if_neg (by assumption)]
      exact walk_insert_file htarget hlocate

theorem walkSegments_existing {follow follow' : List ν → List (Segment ν) → Option (List ν)}
    (hexists : tree.lookup location ≠ none)
    (hfollow : ∀ start segments, follow start segments = some location →
      follow' start segments = some location)
    {start : List ν} {segments : List (Segment ν)}
    (hwalk : walkSegments tree .creating follow start segments = some location) :
    walkSegments tree .existing follow' start segments = some location := by
  induction segments generalizing start with
  | nil => exact hwalk
  | cons segment rest ih =>
      cases segment with
      | current =>
          rw [walkSegments] at hwalk ⊢
          split at hwalk
          · rw [if_pos (by assumption)]
            exact ih hwalk
          · cases hwalk
      | parent =>
          rw [walkSegments] at hwalk ⊢
          split at hwalk
          · rw [if_pos (by assumption)]
            exact ih hwalk
          · cases hwalk
      | name name =>
          rw [walkSegments] at hwalk ⊢
          split at hwalk
          · rw [if_pos (by assumption), if_neg (by simp)]
            rw [if_neg (by simp)] at hwalk
            split at hwalk
            · rename_i hmissing
              split at hwalk
              · cases hwalk
                exact absurd hmissing hexists
              · cases hwalk
            · exact hfollow _ _ hwalk
            · exact ih hwalk
          · cases hwalk

theorem walk_existing (hexists : tree.lookup location ≠ none) {limit : Nat} {start : List ν}
    {segments : List (Segment ν)}
    (hwalk : walk tree .creating limit start segments = some location) :
    walk tree .existing limit start segments = some location := by
  induction limit generalizing start segments with
  | zero => exact walkSegments_existing hexists (fun _ _ hnone => hnone) hwalk
  | succ limit ih => exact walkSegments_existing hexists (fun _ _ hmore => ih hmore) hwalk

theorem locate_existing (hexists : tree.lookup location ≠ none) {limit : Nat} {cwd : List ν}
    {path : PathText ν} (hlocate : locate tree limit cwd .creating path = some location) :
    locate tree limit cwd .existing path = some location := by
  rw [locate] at hlocate ⊢
  split at hlocate
  · rw [if_pos (by assumption)]
    exact walk_existing hexists hlocate
  · rw [if_neg (by assumption)]
    split at hlocate
    · cases hlocate
    · rw [if_neg (by assumption)]
      exact walk_existing hexists hlocate
end Create

end SwiftSsh.FileTree
