import Mathlib.Data.List.Infix
import SwiftSsh.HandleTable
import SwiftSsh.RequestEffects
import SwiftSsh.SftpConfinement

/-!
The form of resolved paths, and of the paths that are kept for handles, over whole
runs. Requests change the tree, and with it the canonical root may disappear.
-/

namespace SwiftSsh.NormalForms

open SwiftSsh.ByteWords
open SwiftSsh.RustOutcome
open SwiftSsh.WireTypes
open SwiftSsh.WireBuffer
open SwiftSsh.FileTree
open SwiftSsh.FileSystem
open SwiftSsh.TreeChanges
open SwiftSsh.SftpPaths
open SwiftSsh.SftpProtocol
open SwiftSsh.SftpHandler
open SwiftSsh.SftpConfinement
open SwiftSsh.RequestEffects
open SwiftSsh.HandleTable

section Paths

theorem foldl_normalizeStep_names (stack : List Component) (names : List Name) :
    (names.map Component.normal).foldl normalizeStep stack = stack ++ names.map .normal := by
  induction names generalizing stack with
  | nil => exact (List.append_nil stack).symm
  | cons name names ih =>
      rw [List.map_cons, List.foldl_cons]
      change (names.map Component.normal).foldl normalizeStep (stack ++ [.normal name]) = _
      rw [ih, List.append_assoc, List.singleton_append]

theorem components_names (absolute : Bool) (names : List Name) :
    components ⟨absolute, names.map .name⟩ =
      (if absolute then [.rootDir] else []) ++ names.map .normal := by
  rw [components]
  dsimp only
  rw [filterMap_names]
  cases absolute with
  | true => rfl
  | false =>
      rw [if_neg Bool.false_ne_true, if_neg Bool.false_ne_true, if_neg]
      · rfl
      · cases names with
        | nil => rintro ⟨⟩
        | cons name names => rintro ⟨⟩

theorem normalizePath_names (absolute : Bool) (names : List Name) :
    normalizePath ⟨absolute, names.map .name⟩ = ⟨absolute, names.map .name⟩ := by
  rw [normalizePath, components_names]
  cases absolute with
  | true =>
      rw [if_pos rfl, List.singleton_append, List.foldl_cons]
      change collectComponents ((names.map Component.normal).foldl normalizeStep [.rootDir]) = _
      rw [foldl_normalizeStep_names, List.singleton_append, collectComponents, List.foldl_cons,
        foldl_pushComponent_names]
      rfl
  | false =>
      rw [if_neg Bool.false_ne_true, List.nil_append, foldl_normalizeStep_names,
        List.nil_append, collectComponents, foldl_pushComponent_names]
      rfl

end Paths

/-- A path in normal form below the root: names only, after the root component if
there is one, starting with the canonical root. If the root has no canonical form,
its lexical one takes its place. -/
structure NormalUnder (os : Os Name) (root : PathText Name) (world : World Name)
    (path : PathText Name) : Prop where
  plain : ∃ absolute, ∃ names : List Name, path = ⟨absolute, names.map .name⟩
  fixed : normalizePath path = path
  below : components (canonicalOrNormal os root world) <+: components path
  canonical : ∀ top, canonicalize os root world = some (pathOf top) →
    ∃ more, path = pathOf (top ++ more)

variable {os : Os Name} {root : PathText Name} {world : World Name} {path : PathText Name}

theorem canonicalOrNormal_plain (path : PathText Name) (world : World Name) :
    ∃ absolute, ∃ names : List Name,
      canonicalOrNormal os path world = ⟨absolute, names.map .name⟩ := by
  rw [canonicalOrNormal]
  cases hcanonical : canonicalize os path world with
  | none => exact normalizePath_plain path
  | some canonical =>
      obtain ⟨location, -, rfl⟩ := Option.map_eq_some_iff.mp hcanonical
      exact ⟨true, location, rfl⟩

theorem normalUnder_of_resolvePath {requested : String}
    (hresolve : resolvePath os root requested world = .ok path) :
    NormalUnder os root world path := by
  rw [resolvePath] at hresolve
  split at hresolve
  · rename_i hstarts
    obtain ⟨absolute, names, hplain⟩ :=
      @canonicalOrNormal_plain os (requestedPath root requested) world
    cases hresolve
    refine ⟨⟨absolute, names, hplain⟩, ?_, ?_, ?_⟩
    · rw [hplain, normalizePath_names]
    · rw [startsWith, List.isPrefixOf_iff_prefix] at hstarts
      exact hstarts
    · intro top htop
      have hroot : canonicalOrNormal os root world = pathOf top := by
        rw [canonicalOrNormal, htop, Option.getD_some]
      rw [hroot, hplain] at hstarts
      obtain rfl := absolute_of_startsWith hstarts
      obtain ⟨more, rfl⟩ := prefix_of_startsWith hstarts
      exact ⟨more, hplain⟩
  · cases hresolve

section Runs

/-- The path that is kept for a handle. -/
def targetPath : Target → PathText Name
  | .file path _ => path
  | .directory path => path

theorem resolved_of_opens {arrival : Arrival} {target : Target}
    (hopens : opens os root arrival = some target) :
    ∃ requested, resolvePath os root requested arrival.world = .ok (targetPath target) := by
  rw [opens] at hopens
  split at hopens
  · split at hopens
    · rename_i requested rest hread
      split at hopens
      · rename_i hflags hresolve
        cases hopens
        exact ⟨requested, hresolve⟩
      · cases hopens
    · cases hopens
  · split at hopens
    · rename_i requested rest hread
      split at hopens
      · rename_i resolved hresolve
        split at hopens
        · cases hopens
          exact ⟨requested, hresolve⟩
        · cases hopens
      · cases hopens
    · cases hopens
  · cases hopens

theorem stored_of_served {handler : Handler} {arrival : Arrival} {path : PathText Name}
    (hstored : Stored (served os handler arrival).handler path) :
    Stored handler path ∨
      ∃ requested, resolvePath os handler.root requested arrival.world = .ok path := by
  have hstep := steps_served os handler arrival
  rw [Steps] at hstep
  generalize (served os handler arrival).response = response at hstep
  generalize (served os handler arrival).handler = later at hstep hstored
  cases hstep with
  | unchanged response hopens hentries htype => exact .inl hstored
  | openedFile path' flags hopens =>
      rcases stored_insert_file hstored with hold | rfl
      · exact .inl hold
      · exact .inr (resolved_of_opens hopens)
  | openedDirectory path' hopens =>
      rcases stored_insert_dir hstored with hold | rfl
      · exact .inl hold
      · exact .inr (resolved_of_opens hopens)
  | listed response handle path' hopens hentries hopen htype =>
      rcases stored_insert_dir hstored with hold | rfl
      · exact .inl hold
      · exact .inl (.inr ⟨handle, false, hopen⟩)
  | closed response handle hopens hentries htype => exact .inl (stored_erase hstored)

theorem root_of_served (handler : Handler) (arrival : Arrival) :
    (served os handler arrival).handler.root = handler.root := by
  have hstep := steps_served os handler arrival
  rw [Steps] at hstep
  generalize (served os handler arrival).response = response at hstep
  generalize (served os handler arrival).handler = later at hstep
  cases hstep <;> rfl

variable (os root world) in
/-- Where a run of requests from the start leads. -/
def afterRun (pkts : List SftpPacket) : ServedAll :=
  serveAll os (newHandler root) world pkts

theorem serveAll_concat (handler : Handler) (world : World Name) (pkts : List SftpPacket)
    (pkt : SftpPacket) :
    (serveAll os handler world (pkts ++ [pkt])).handler =
        (handleRequest os (serveAll os handler world pkts).handler
          (serveAll os handler world pkts).world pkt).handler ∧
      (serveAll os handler world (pkts ++ [pkt])).world =
        (handleRequest os (serveAll os handler world pkts).handler
          (serveAll os handler world pkts).world pkt).world := by
  induction pkts generalizing handler world with
  | nil => exact ⟨rfl, rfl⟩
  | cons first pkts ih => exact ih _ _

theorem root_afterRun (pkts : List SftpPacket) :
    (afterRun os root world pkts).handler.root = root := by
  induction pkts using List.reverseRecOn with
  | nil => rfl
  | append_singleton pkts pkt ih =>
      rw [afterRun, (serveAll_concat _ _ _ _).1]
      exact (root_of_served _ ⟨pkt, _⟩).trans ih

/-- Every stored path was resolved in a state of the run. -/
theorem resolved_of_stored {pkts : List SftpPacket} {path : PathText Name}
    (hstored : Stored (afterRun os root world pkts).handler path) :
    ∃ front requested, front <+: pkts ∧
      resolvePath os root requested (afterRun os root world front).world = .ok path := by
  induction pkts using List.reverseRecOn with
  | nil =>
      rcases hstored with ⟨handle, flags, hlookup⟩ | ⟨handle, listed, hlookup⟩
      · cases hlookup
      · cases hlookup
  | append_singleton pkts pkt ih =>
      rw [afterRun, (serveAll_concat _ _ _ _).1] at hstored
      rcases @stored_of_served os _ ⟨pkt, _⟩ _ hstored with hold | ⟨requested, hresolve⟩
      · obtain ⟨front, requested, hfront, hresolve⟩ := ih hold
        exact ⟨front, requested, hfront.trans (List.prefix_append _ _), hresolve⟩
      · have hroot := @root_afterRun os root world pkts
        rw [afterRun] at hroot
        rw [hroot] at hresolve
        exact ⟨pkts, requested, List.prefix_append _ _, hresolve⟩

/-- As long as the root has a canonical form, it is the one of the start. -/
theorem canonicalize_afterRun {top : List Name} {pkts : List SftpPacket}
    (hroot : canonicalize os root world = some (pathOf top))
    (hkept : ∀ front, front <+: pkts →
      (canonicalize os root (afterRun os root world front).world).isSome) :
    canonicalize os root (afterRun os root world pkts).world = some (pathOf top) := by
  induction pkts using List.reverseRecOn with
  | nil => exact hroot
  | append_singleton pkts pkt ih =>
      have hbefore := ih fun front hfront => hkept front (hfront.trans (List.prefix_append _ _))
      obtain ⟨canonical, hafter⟩ := Option.isSome_iff_exists.mp
        (hkept (pkts ++ [pkt]) ⟨[], List.append_nil _⟩)
      obtain ⟨first, hfirst, hfirstPath⟩ := Option.map_eq_some_iff.mp hbefore
      obtain ⟨second, hsecond, hsecondPath⟩ := Option.map_eq_some_iff.mp hafter
      have halters := alters_handleRequest os (afterRun os root world pkts).handler
        (afterRun os root world pkts).world pkt
      rw [afterRun, (serveAll_concat _ _ _ _).2] at hsecond
      rw [hafter, ← hsecondPath, ← hfirstPath, locate_agree halters hfirst hsecond]

/-- The form of the paths that are resolved in a state of a run, and of those that
are stored in it. As long as the root has a canonical form, it is always the same,
and every such path is this root with names after it. -/
theorem resolved_paths_normal (os : Os Name) (root : PathText Name) (world : World Name)
    (top : List Name) (hroot : canonicalize os root world = some (pathOf top))
    (pkts : List SftpPacket) :
    (∀ requested path,
      resolvePath os root requested (afterRun os root world pkts).world = .ok path →
      NormalUnder os root (afterRun os root world pkts).world path) ∧
    (∀ path, Stored (afterRun os root world pkts).handler path →
      ∃ front, front <+: pkts ∧
        NormalUnder os root (afterRun os root world front).world path) ∧
    ((∀ front, front <+: pkts →
        (canonicalize os root (afterRun os root world front).world).isSome) →
      (∀ requested path,
        resolvePath os root requested (afterRun os root world pkts).world = .ok path →
        ∃ more, path = pathOf (top ++ more)) ∧
      ∀ path, Stored (afterRun os root world pkts).handler path →
        ∃ more, path = pathOf (top ++ more)) := by
  refine ⟨fun requested path hresolve => normalUnder_of_resolvePath hresolve, ?_, ?_⟩
  · intro path hstored
    obtain ⟨front, requested, hfront, hresolve⟩ := resolved_of_stored hstored
    exact ⟨front, hfront, normalUnder_of_resolvePath hresolve⟩
  · intro hkept
    constructor
    · intro requested path hresolve
      exact (normalUnder_of_resolvePath hresolve).canonical top
        (canonicalize_afterRun hroot hkept)
    · intro path hstored
      obtain ⟨front, requested, hfront, hresolve⟩ := resolved_of_stored hstored
      refine (normalUnder_of_resolvePath hresolve).canonical top
        (canonicalize_afterRun hroot ?_)
      exact fun earlier hearlier => hkept earlier (hearlier.trans hfront)

/-- The file of the sample root is opened and a name is asked for that does not
exist. -/
theorem resolved_paths_normal_sample :
    (∃ more, pathOf [utf8 "srv", utf8 "f"] = pathOf ([utf8 "srv"] ++ more)) ∧
      NormalUnder plainOs sampleRoot
        (afterRun plainOs sampleRoot ⟨sampleTree, []⟩ readRequests).world
        (pathOf [utf8 "srv", utf8 "new"]) := by
  have hrun := resolved_paths_normal plainOs sampleRoot ⟨sampleTree, []⟩ [utf8 "srv"]
    (by decide +kernel) readRequests
  refine ⟨(hrun.2.2 ?_).2 _ (.inl ⟨be32 0, 1, by decide +kernel⟩), ?_⟩
  · intro front hfront
    have hall : ∀ front ∈ readRequests.inits, (canonicalize plainOs sampleRoot
        (afterRun plainOs sampleRoot ⟨sampleTree, []⟩ front).world).isSome := by
      decide +kernel
    exact hall front ((List.mem_inits front _).mpr hfront)
  · exact hrun.1 "x/../new" _ (by decide +kernel)

/-- A root without entries. -/
def emptyRootTree : DirTree Name :=
  ([⟨[], .directory ⟨4096, 16877, 0, 0⟩⟩, ⟨[utf8 "srv"], .directory ⟨4096, 16877, 0, 0⟩⟩] :
    List (Sigma fun _ : List Name => Object Name)).toAList

/-- Remove the root and open a name below it. -/
def rootlessRequests : List SftpPacket :=
  [⟨sshFxpRmdir, 1, writeUtf8 "."⟩, ⟨sshFxpOpen, 2, writeUtf8 "x" ++ writeU32 1⟩]

/-- Without the root a path below it keeps the relative form of the root. -/
theorem removed_root_leaves_relative_path :
    ¬ ∀ (os : Os Name) (root : PathText Name) (world : World Name) (top : List Name),
      canonicalize os root world = some (pathOf top) → ∀ pkts path,
        Stored (afterRun os root world pkts).handler path →
          ∃ more, path = pathOf (top ++ more) := by
  intro hnormal
  obtain ⟨more, hpath⟩ := hnormal plainOs (pathFrom (utf8 "srv")) ⟨emptyRootTree, []⟩
    [utf8 "srv"] (by decide +kernel) rootlessRequests
    ⟨false, [.name (utf8 "srv"), .name (utf8 "x")]⟩ (.inl ⟨be32 0, 1, by decide +kernel⟩)
  cases congrArg PathText.absolute hpath

end Runs

end SwiftSsh.NormalForms
