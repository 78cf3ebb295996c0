import SwiftSsh.RealpathCoherence

/-!
The two ways to resolve a path: by the file system, if the path exists, and from
its text, if it does not. Without links they differ only about `..` above the top.
-/

namespace SwiftSsh.ResolutionAgreement

open SwiftSsh.ByteWords
open SwiftSsh.RustOutcome
open SwiftSsh.WireTypes
open SwiftSsh.WireBuffer
open SwiftSsh.FileTree
open SwiftSsh.PlainTree
open SwiftSsh.FileSystem
open SwiftSsh.SftpPaths
open SwiftSsh.SftpHandler
open SwiftSsh.SftpConfinement
open SwiftSsh.RealpathCoherence

/-- The location that an absolute path spells. At the top `..` leads nowhere. -/
def spelledLocation (path : PathText Name) : List Name :=
  spelled [] path.segments

variable {os : Os Name} {root path : PathText Name} {world : World Name} {requested : String}

theorem absolute_requestedPath (habsolute : root.absolute = true) (requested : String) :
    (requestedPath root requested).absolute = true := by
  rcases requestedPath_cases root requested with hpath | hpath
  · rw [hpath]
  · rw [hpath]
    exact habsolute

theorem canonicalize_of_absolute (hlinks : Linkless world.tree) (habsolute : path.absolute = true)
    {canonical : PathText Name} (hcanonical : canonicalize os path world = some canonical) :
    canonical = pathOf (spelledLocation path) := by
  obtain ⟨location, hlocate, rfl⟩ := Option.map_eq_some_iff.mp hcanonical
  rw [spelled_of_locate hlinks hlocate, origin, if_pos habsolute]
  rfl

theorem startsWith_pathOf_iff {top location : List Name} :
    startsWith (pathOf location) (pathOf top) = true ↔ top <+: location := by
  refine ⟨prefix_of_startsWith, ?_⟩
  rintro ⟨more, rfl⟩
  exact startsWith_append top more

/-- What an absolute path is resolved to: the location that it spells, unless it
does not exist and its text climbs above the top. -/
theorem canonicalOrNormal_cases (hlinks : Linkless world.tree)
    (habsolute : path.absolute = true) :
    (((normalizePath path).absolute = true ∨ (canonicalize os path world).isSome) ∧
      canonicalOrNormal os path world = pathOf (spelledLocation path)) ∨
    (¬ ((normalizePath path).absolute = true ∨ (canonicalize os path world).isSome) ∧
      ∀ top, startsWith (canonicalOrNormal os path world) (pathOf top) = false) := by
  rw [canonicalOrNormal]
  cases hcanonical : canonicalize os path world with
  | some canonical =>
      left
      refine ⟨.inr rfl, ?_⟩
      rw [Option.getD_some]
      exact canonicalize_of_absolute hlinks habsolute hcanonical
  | none =>
      rw [Option.getD_none]
      cases hnormal : (normalizePath path).absolute with
      | true => exact .inl ⟨.inl rfl, normalizePath_of_absolute hnormal⟩
      | false =>
          right
          refine ⟨by simp, ?_⟩
          intro top
          obtain ⟨absolute, names, hplain⟩ := normalizePath_plain path
          rw [hplain] at hnormal ⊢
          rw [Bool.eq_false_iff]
          intro hstarts
          rw [absolute_of_startsWith hstarts] at hnormal
          cases hnormal

theorem resolvePath_of_linkless (hlinks : Linkless world.tree) (habsolute : root.absolute = true)
    (hroot : (canonicalize os root world).isSome) :
    resolvePath os root requested world =
      if spelledLocation root <+: spelledLocation (requestedPath root requested) ∧
          ((normalizePath (requestedPath root requested)).absolute = true ∨
            (canonicalize os (requestedPath root requested) world).isSome)
      then .ok (pathOf (spelledLocation (requestedPath root requested)))
      else .err (.sftp "Access denied: path outside root") := by
  obtain ⟨canonical, hcanonical⟩ := Option.isSome_iff_exists.mp hroot
  have htop : canonicalOrNormal os root world = pathOf (spelledLocation root) := by
    rw [canonicalOrNormal, hcanonical, Option.getD_some]
    exact canonicalize_of_absolute hlinks habsolute hcanonical
  rw [resolvePath, htop]
  rcases canonicalOrNormal_cases hlinks (absolute_requestedPath habsolute requested) with
    ⟨hleads, hpath⟩ | ⟨hlost, houtside⟩
  · rw [hpath]
    by_cases hbelow : spelledLocation root <+: spelledLocation (requestedPath root requested)
    · rw [if_pos (startsWith_pathOf_iff.mpr hbelow), if_pos ⟨hbelow, hleads⟩]
    · rw [if_neg (mt startsWith_pathOf_iff.mp hbelow), if_neg fun hboth => hbelow hboth.1]
  · rw [houtside, if_neg Bool.false_ne_true, if_neg fun hboth => hlost hboth.2]

/-- In two states without links a request is resolved alike exactly when its text
does not climb above the top, or it leads outside the root, or the location exists
in both states or in none. -/
theorem resolution_agrees_iff (os : Os Name) (root : PathText Name) (requested : String)
    (first second : World Name) (habsolute : root.absolute = true)
    (hfirstLinks : Linkless first.tree) (hsecondLinks : Linkless second.tree)
    (hfirst : (canonicalize os root first).isSome)
    (hsecond : (canonicalize os root second).isSome) :
    resolvePath os root requested first = resolvePath os root requested second ↔
      (normalizePath (requestedPath root requested)).absolute = true ∨
      ¬ spelledLocation root <+: spelledLocation (requestedPath root requested) ∨
      ((canonicalize os (requestedPath root requested) first).isSome ↔
        (canonicalize os (requestedPath root requested) second).isSome) := by
  rw [resolvePath_of_linkless hfirstLinks habsolute hfirst,
    resolvePath_of_linkless hsecondLinks habsolute hsecond]
  by_cases hbelow : spelledLocation root <+: spelledLocation (requestedPath root requested)
  · by_cases hkept : (normalizePath (requestedPath root requested)).absolute = true
    · rw [if_pos ⟨hbelow, .inl hkept⟩, if_pos ⟨hbelow, .inl hkept⟩]
      exact ⟨fun _ => .inl hkept, fun _ => rfl⟩
    · -- here only the existence of the location decides
      simp only [hbelow, hkept, true_and, false_or, not_true_eq_false]
      by_cases hone : (canonicalize os (requestedPath root requested) first).isSome
      · by_cases htwo : (canonicalize os (requestedPath root requested) second).isSome
        · simp [hone, htwo]
        · simp [hone, htwo]
      · by_cases htwo : (canonicalize os (requestedPath root requested) second).isSome
        · simp [hone, htwo]
        · simp [hone, htwo]
  · rw [if_neg fun hboth => hbelow hboth.1, if_neg fun hboth => hbelow hboth.1]
    exact ⟨fun _ => .inr (.inl hbelow), fun _ => rfl⟩

/-- The sample tree without its link and without its file. -/
def barrenTree : DirTree Name :=
  plainTree.erase [utf8 "srv", utf8 "f"]

theorem linkless_barrenTree : Linkless barrenTree := by
  intro location target attributes hlookup
  exact linkless_plainTree location target attributes
    (noNewLinks_erase plainTree [utf8 "srv", utf8 "f"] location target attributes hlookup)

theorem resolution_agrees_sample :
    resolvePath plainOs sampleRoot "x/../f" ⟨plainTree, []⟩ =
      resolvePath plainOs sampleRoot "x/../f" ⟨barrenTree, []⟩ :=
  (resolution_agrees_iff plainOs sampleRoot "x/../f" ⟨plainTree, []⟩ ⟨barrenTree, []⟩
    (by decide +kernel) linkless_plainTree linkless_barrenTree (by decide +kernel)
    (by decide +kernel)).mpr (.inl (by decide +kernel))

/-- Above the top and down again: the file is found if it exists, and refused as
outside the root if it does not. -/
theorem climbing_above_top_disagrees :
    ¬ ∀ (os : Os Name) (root : PathText Name) (requested : String) (first second : World Name),
      root.absolute = true → Linkless first.tree → Linkless second.tree →
      (canonicalize os root first).isSome → (canonicalize os root second).isSome →
        resolvePath os root requested first = resolvePath os root requested second := by
  intro hagree
  have hsame := hagree plainOs sampleRoot "../../srv/f" ⟨plainTree, []⟩ ⟨barrenTree, []⟩
    (by decide +kernel) linkless_plainTree linkless_barrenTree (by decide +kernel)
    (by decide +kernel)
  revert hsame
  decide +kernel

end SwiftSsh.ResolutionAgreement
