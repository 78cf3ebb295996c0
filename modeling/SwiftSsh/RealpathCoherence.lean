import SwiftSsh.LossyText
import SwiftSsh.PlainTree
import SwiftSsh.SftpConfinement

/-!
REALPATH and the paths that a client sends back. The answer is a path of the
server's file system, and the next request is taken as a path below the root.
-/

namespace SwiftSsh.RealpathCoherence

open SwiftSsh.ByteWords
open SwiftSsh.RustOutcome
open SwiftSsh.WireTypes
open SwiftSsh.WireBuffer
open SwiftSsh.FileTree
open SwiftSsh.PlainTree
open SwiftSsh.FileSystem
open SwiftSsh.SftpPaths
open SwiftSsh.LossyText
open SwiftSsh.SftpProtocol
open SwiftSsh.SftpHandler
open SwiftSsh.SftpConfinement

section Normalization

/-- The loop of `normalize_path` over the segments of a path. -/
def normalizedFrom (stack : List Component) (segments : List (Segment Name)) : List Component :=
  (segments.filterMap componentOf).foldl normalizeStep stack

theorem normalizedFrom_append (stack : List Component) (first second : List (Segment Name)) :
    normalizedFrom stack (first ++ second) =
      normalizedFrom (normalizedFrom stack first) second := by
  rw [normalizedFrom, List.filterMap_append, List.foldl_append]
  rfl

theorem normalizePath_eq (path : PathText Name) :
    normalizePath path =
      collectComponents
        (normalizedFrom (if path.absolute then [.rootDir] else []) path.segments) := by
  rw [normalizePath, components]
  split
  · rfl
  · split
    · rfl
    · rfl

theorem normalizedFrom_relative (names : List Name) (segments : List (Segment Name)) :
    ∃ later : List Name, normalizedFrom (names.map .normal) segments = later.map .normal := by
  induction segments generalizing names with
  | nil => exact ⟨names, rfl⟩
  | cons segment segments ih =>
      cases segment with
      | current => exact ih names
      | parent =>
          obtain ⟨later, hlater⟩ := ih names.dropLast
          rw [List.map_dropLast] at hlater
          exact ⟨later, hlater⟩
      | name name =>
          obtain ⟨later, hlater⟩ := ih (names ++ [name])
          rw [List.map_append] at hlater
          exact ⟨later, hlater⟩

/-- A stack with the root on it spells a location, until it loses the root. -/
theorem normalizedFrom_rooted (names : List Name) (segments : List (Segment Name)) :
    normalizedFrom (.rootDir :: names.map .normal) segments =
        .rootDir :: (spelled names segments).map .normal ∨
      ∃ later : List Name,
        normalizedFrom (.rootDir :: names.map .normal) segments = later.map .normal := by
  induction segments generalizing names with
  | nil => exact Or.inl rfl
  | cons segment segments ih =>
      cases segment with
      | current => exact ih names
      | parent =>
          rcases names.eq_nil_or_concat with rfl | ⟨front, last, rfl⟩
          · exact Or.inr (normalizedFrom_relative [] segments)
          · have hstack : (Component.rootDir :: (front.concat last).map .normal).dropLast =
                .rootDir :: front.map .normal := by
              rw [List.concat_eq_append, List.map_append, List.map_singleton, ← List.cons_append]
              exact List.dropLast_concat
            have hnames : (front.concat last).dropLast = front := by
              rw [List.concat_eq_append]
              exact List.dropLast_concat
            change normalizedFrom (Component.rootDir :: (front.concat last).map .normal).dropLast
                segments = .rootDir :: (spelled (front.concat last).dropLast segments).map .normal ∨
              ∃ later : List Name, normalizedFrom
                (Component.rootDir :: (front.concat last).map .normal).dropLast segments =
                  later.map .normal
            rw [hstack, hnames]
            exact ih front
      | name name =>
          have hlater := ih (names ++ [name])
          rw [List.map_append] at hlater
          exact hlater

theorem normalizedFrom_downward {segments : List (Segment Name)} (hparent : .parent ∉ segments)
    (names : List Name) :
    normalizedFrom (.rootDir :: names.map .normal) segments =
      .rootDir :: (spelled names segments).map .normal := by
  induction segments generalizing names with
  | nil => rfl
  | cons segment segments ih =>
      rw [List.mem_cons, not_or] at hparent
      cases segment with
      | current => exact ih hparent.2 names
      | parent => exact absurd rfl hparent.1
      | name name =>
          have hlater := ih hparent.2 (names ++ [name])
          rw [List.map_append] at hlater
          exact hlater

theorem collectComponents_relative (names : List Name) :
    (collectComponents (names.map .normal)).absolute = false := by
  rw [collectComponents, foldl_pushComponent_names]

theorem collectComponents_rooted (names : List Name) :
    collectComponents (.rootDir :: names.map .normal) = pathOf names := by
  rw [collectComponents, List.foldl_cons, foldl_pushComponent_names]
  rfl

variable {path : PathText Name}

theorem normalizedFrom_of_absolute (habsolute : (normalizePath path).absolute = true) :
    path.absolute = true ∧ normalizedFrom [.rootDir] path.segments =
      .rootDir :: (spelled [] path.segments).map .normal := by
  rw [normalizePath_eq] at habsolute
  cases hpath : path.absolute with
  | false =>
      obtain ⟨later, hlater⟩ := normalizedFrom_relative [] path.segments
      rw [List.map_nil] at hlater
      rw [hpath, if_neg Bool.false_ne_true, hlater, collectComponents_relative] at habsolute
      cases habsolute
  | true =>
      refine ⟨rfl, ?_⟩
      rcases normalizedFrom_rooted [] path.segments with hrooted | ⟨later, hlater⟩
      · exact hrooted
      · rw [List.map_nil] at hlater
        rw [hpath, if_pos rfl, hlater, collectComponents_relative] at habsolute
        cases habsolute

theorem normalizePath_of_absolute (habsolute : (normalizePath path).absolute = true) :
    normalizePath path = pathOf (spelled [] path.segments) := by
  obtain ⟨hpath, hstack⟩ := normalizedFrom_of_absolute habsolute
  rw [normalizePath_eq, hpath, if_pos rfl, hstack, collectComponents_rooted]

theorem normalizePath_append {more : List (Segment Name)}
    (habsolute : (normalizePath path).absolute = true) (hparent : .parent ∉ more) :
    normalizePath ⟨path.absolute, path.segments ++ more⟩ =
      pathOf (spelled (spelled [] path.segments) more) := by
  obtain ⟨hpath, hstack⟩ := normalizedFrom_of_absolute habsolute
  rw [normalizePath_eq]
  dsimp only
  rw [hpath, if_pos rfl, normalizedFrom_append, hstack, normalizedFrom_downward hparent,
    collectComponents_rooted]

/-- A path that has lost its root does not get it back. -/
theorem absolute_of_append {more : List (Segment Name)}
    (habsolute : (normalizePath ⟨path.absolute, path.segments ++ more⟩).absolute = true) :
    (normalizePath path).absolute = true := by
  obtain ⟨hpath, hstack⟩ := normalizedFrom_of_absolute habsolute
  dsimp only at hpath hstack
  rw [normalizePath_eq, hpath, if_pos rfl]
  rcases normalizedFrom_rooted [] path.segments with hrooted | ⟨later, hlater⟩
  · rw [List.map_nil] at hrooted
    rw [hrooted, collectComponents_rooted]
    rfl
  · rw [List.map_nil] at hlater
    obtain ⟨last, hlast⟩ := normalizedFrom_relative later more
    rw [normalizedFrom_append, hlater, hlast] at hstack
    cases last <;> cases hstack

end Normalization

section Names

/-- A name that a directory entry can have. -/
def ProperName (name : Name) : Prop :=
  segmentOf name = .name name ∧ separator ∉ name

theorem segmentOf_eq_name_iff {part name : Bytes} :
    segmentOf part = .name name ↔ part = name ∧ name ≠ [] ∧ name ≠ [46] ∧ name ≠ [46, 46] := by
  rw [segmentOf]
  split
  · rename_i hdot
    constructor
    · rintro ⟨⟩
    · rintro ⟨rfl, hempty, hcurrent, -⟩
      rcases hdot with rfl | rfl
      · exact absurd rfl hempty
      · exact absurd rfl hcurrent
  · rename_i hdot
    rw [not_or] at hdot
    split
    · rename_i hparent
      constructor
      · rintro ⟨⟩
      · rintro ⟨rfl, -, -, hother⟩
        exact absurd hparent hother
    · rename_i hparent
      constructor
      · rintro ⟨⟩
        exact ⟨rfl, hdot.1, hdot.2, hparent⟩
      · rintro ⟨rfl, -⟩
        rfl

theorem properName_of_mem_splitOn {text name : Bytes} (hmem : name ∈ text.splitOn separator)
    (hname : segmentOf name = .name name) : ProperName name :=
  ⟨hname, separator_notMem_of_mem_splitOn hmem⟩

theorem mem_splitOn_of_mem_segmentsOf {text name : Bytes} (hmem : .name name ∈ segmentsOf text) :
    name ∈ text.splitOn separator ∧ segmentOf name = .name name := by
  obtain ⟨part, hpart, hsegment⟩ := List.mem_map.mp hmem
  obtain ⟨rfl, hne⟩ := segmentOf_eq_name_iff.mp hsegment
  exact ⟨hpart, hsegment⟩

theorem segmentOf_of_blurred {part blurred : Bytes} (hblurred : Blurred part blurred)
    (hname : segmentOf part = .name part) : segmentOf blurred = .name blurred := by
  obtain ⟨-, hempty, hcurrent, hparent⟩ := segmentOf_eq_name_iff.mp hname
  refine segmentOf_eq_name_iff.mpr ⟨rfl, ?_, ?_, ?_⟩
  · rintro rfl
    cases hblurred
    exact hempty rfl
  · rintro rfl
    cases hblurred with
    | keep byte hrest =>
        cases hrest
        exact hcurrent rfl
  · rintro rfl
    cases hblurred with
    | keep byte hrest =>
        cases hrest with
        | keep byte hrest =>
            cases hrest
            exact hparent rfl

/-- The text of a path from the top without the first separator. -/
def joined (names : List Name) : Bytes :=
  ([separator] : Bytes).intercalate names

theorem textOf_pathOf (names : List Name) : textOf (pathOf names) = separator :: joined names := by
  have hnames : (names.map Segment.name).map segmentText = names := by
    rw [List.map_map]
    exact List.map_id names
  rw [textOf, pathOf, if_pos rfl, hnames]
  rfl

variable {names : List Name}

theorem splitOn_joined (hne : names ≠ []) (hproper : ∀ name ∈ names, ProperName name) :
    (joined names).splitOn separator = names :=
  List.splitOn_intercalate separator (fun name hmem => (hproper name hmem).2) hne

theorem segmentsOf_joined (hne : names ≠ []) (hproper : ∀ name ∈ names, ProperName name) :
    segmentsOf (joined names) = names.map .name := by
  rw [segmentsOf, splitOn_joined hne hproper]
  exact List.map_congr_left fun name hmem => (hproper name hmem).1

theorem spelled_joined (hproper : ∀ name ∈ names, ProperName name) (start : List Name) :
    spelled start (segmentsOf (joined names)) = start ++ names := by
  by_cases hnil : names = []
  · subst hnil
    exact (List.append_nil start).symm
  · rw [segmentsOf_joined hnil hproper, spelled_names]

theorem parent_notMem_joined (hproper : ∀ name ∈ names, ProperName name) :
    .parent ∉ segmentsOf (joined names) := by
  by_cases hnil : names = []
  · subst hnil
    decide
  · rw [segmentsOf_joined hnil hproper, List.mem_map]
    rintro ⟨name, -, ⟨⟩⟩

theorem head_joined (hproper : ∀ name ∈ names, ProperName name) :
    (joined names).head? ≠ some separator := by
  by_cases hnil : names = []
  · subst hnil
    rintro ⟨⟩
  · intro hhead
    obtain ⟨rest, hrest⟩ := List.head?_eq_some_iff.mp hhead
    have hnames := splitOn_joined hnil hproper
    rw [hrest, List.splitOn_cons_eq_if_modifyHead, if_pos (beq_self_eq_true separator)] at hnames
    have hempty : [] ∈ names := by
      rw [← hnames]
      exact List.mem_cons_self
    exact absurd (hproper [] hempty).1 (by decide)

theorem isText_separator : IsText [separator] :=
  ⟨"/", by decide +kernel⟩

theorem isText_joined (htext : ∀ name ∈ names, IsText name) : IsText (joined names) := by
  induction names with
  | nil => exact ⟨"", rfl⟩
  | cons name names ih =>
      obtain ⟨hname, hnames⟩ := List.forall_mem_cons.mp htext
      cases names with
      | nil =>
          rw [joined, List.intercalate_singleton]
          exact hname
      | cons second names =>
          rw [joined, List.intercalate_cons_cons]
          exact (hname.append isText_separator).append (ih hnames)

theorem pathOf_injective : Function.Injective (pathOf : List Name → PathText Name) := by
  intro first second heq
  have hnames := congrArg PathText.segments heq
  exact List.map_injective_iff.mpr (fun _ _ hname => Segment.name.inj hname) hnames

/-- The answer of REALPATH for a path with proper names has as many of them. -/
theorem utf8_fromUtf8Lossy_pathOf (hne : names ≠ [])
    (hproper : ∀ name ∈ names, ProperName name) :
    ∃ blurred : List Name, utf8 (fromUtf8Lossy (textOf (pathOf names))) = textOf (pathOf blurred) ∧
      blurred.length = names.length ∧ ∀ name ∈ blurred, ProperName name := by
  have hparts := (blurred_fromUtf8Lossy (textOf (pathOf names))).parts
  generalize utf8 (fromUtf8Lossy (textOf (pathOf names))) = out at *
  rw [textOf_pathOf, List.splitOn_cons_eq_if_modifyHead, if_pos (beq_self_eq_true separator),
    splitOn_joined hne hproper] at hparts
  obtain ⟨first, blurred, hfirst, hall, hout⟩ := List.forall₂_cons_left_iff.mp hparts
  rw [eq_nil_of_blurred hfirst] at hout
  have hlength : names.length = blurred.length := hall.length_eq
  have hnonempty : blurred ≠ [] := by
    rintro rfl
    exact hne (List.length_eq_zero_iff.mp hlength)
  refine ⟨blurred, ?_, hlength.symm, ?_⟩
  · have hjoined := @List.intercalate_splitOn _ out _ _ separator
    rw [hout, List.intercalate_cons_of_ne_nil hnonempty] at hjoined
    rw [← hjoined, textOf_pathOf]
    rfl
  · intro name hmem
    have hpart : name ∈ out.splitOn separator := by
      rw [hout]
      exact List.mem_cons_of_mem _ hmem
    obtain ⟨part, hname, hblurred⟩ := exists_blurred_of_mem hall hmem
    exact properName_of_mem_splitOn hpart (segmentOf_of_blurred hblurred (hproper part hname).1)

end Names

section Requests

/-- The segments that a request adds to the root, or puts in its place. -/
def asked (requested : String) : List (Segment Name) :=
  (requestedPath (pathOf []) requested).segments

/-- The location that a request spells when the root is the top. -/
def requestedLocation (requested : String) : List Name :=
  spelled [] (asked requested)

theorem joinPath_cases (root : PathText Name) (text : Bytes) :
    joinPath root text = ⟨true, (joinPath (pathOf []) text).segments⟩ ∨
      joinPath root text =
        ⟨root.absolute, root.segments ++ (joinPath (pathOf []) text).segments⟩ := by
  rw [joinPath, joinPath]
  split
  · rename_i hhead
    obtain ⟨rest, rfl⟩ := List.head?_eq_some_iff.mp hhead
    rw [pathFrom, if_pos rfl]
    exact Or.inl rfl
  · exact Or.inr rfl

theorem requestedPath_cases (root : PathText Name) (requested : String) :
    requestedPath root requested = ⟨true, asked requested⟩ ∨
      requestedPath root requested = ⟨root.absolute, root.segments ++ asked requested⟩ := by
  rw [asked, requestedPath, requestedPath]
  split
  · split
    · exact joinPath_cases root _
    · exact joinPath_cases root _
  · exact joinPath_cases root []

theorem mem_splitOn_tail {rest part : Bytes} (hmem : part ∈ rest.splitOn separator) :
    part ∈ (separator :: rest).splitOn separator := by
  rw [List.splitOn_cons_eq_if_modifyHead, if_pos (beq_self_eq_true separator)]
  exact List.mem_cons_of_mem _ hmem

theorem mem_splitOn_of_mem_joinPath {text name : Bytes}
    (hmem : .name name ∈ (joinPath (pathOf []) text).segments) :
    name ∈ text.splitOn separator ∧ segmentOf name = .name name := by
  rw [joinPath] at hmem
  split at hmem
  · rename_i hhead
    obtain ⟨rest, rfl⟩ := List.head?_eq_some_iff.mp hhead
    rw [pathFrom, if_pos rfl] at hmem
    obtain ⟨hpart, hname⟩ := mem_splitOn_of_mem_segmentsOf hmem
    exact ⟨mem_splitOn_tail hpart, hname⟩
  · exact mem_splitOn_of_mem_segmentsOf hmem

theorem properName_of_mem_asked {requested : String} {name : Name}
    (hmem : .name name ∈ asked requested) : ProperName name ∧ IsText name := by
  suffices hpart : name ∈ (utf8 requested).splitOn separator ∧ segmentOf name = .name name from
    ⟨properName_of_mem_splitOn hpart.1 hpart.2, isText_of_mem_splitOn hpart.1⟩
  rw [asked, requestedPath] at hmem
  split at hmem
  · rename_i byte rest htext
    rw [htext]
    split at hmem
    · rename_i hseparator
      obtain ⟨hpart, hname⟩ := mem_splitOn_of_mem_joinPath hmem
      rw [hseparator]
      exact ⟨mem_splitOn_tail hpart, hname⟩
    · exact mem_splitOn_of_mem_joinPath hmem
  · rename_i htext
    rw [htext]
    exact mem_splitOn_of_mem_joinPath hmem

theorem properName_of_mem_pathFrom {text : Bytes} {name : Name}
    (hmem : .name name ∈ (pathFrom text).segments) : ProperName name := by
  rw [pathFrom.eq_def] at hmem
  split at hmem
  · cases hmem
  · split at hmem
    · obtain ⟨hpart, hname⟩ := mem_splitOn_of_mem_segmentsOf hmem
      exact properName_of_mem_splitOn hpart hname
    · obtain ⟨hpart, hname⟩ := mem_splitOn_of_mem_segmentsOf hmem
      exact properName_of_mem_splitOn hpart hname

theorem requestedPath_of_textOf {requested : String} {names : List Name}
    (hproper : ∀ name ∈ names, ProperName name)
    (htext : utf8 requested = textOf (pathOf names)) (root : PathText Name) :
    requestedPath root requested =
      ⟨root.absolute, root.segments ++ segmentsOf (joined names)⟩ := by
  rw [textOf_pathOf] at htext
  rw [requestedPath, htext]
  dsimp only
  rw [if_pos rfl, joinPath, if_neg (head_joined hproper)]

end Requests

section Resolution

variable {os : Os Name} {world : World Name} {root : PathText Name} {top : List Name}

theorem startsWith_append (top names : List Name) :
    startsWith (pathOf (top ++ names)) (pathOf top) = true := by
  rw [startsWith, components_pathOf, components_pathOf, List.isPrefixOf_iff_prefix,
    List.cons_prefix_cons, List.map_append]
  exact ⟨rfl, List.prefix_append _ _⟩

theorem canonicalOrNormal_of_locate
    (hroot : locate world.tree os.linkLimit os.cwd .existing root = some top) :
    canonicalOrNormal os root world = pathOf top := by
  rw [canonicalOrNormal, canonicalize, hroot]
  rfl

/-- What passes the check of `resolve_path` is what the path spells. -/
theorem canonicalOrNormal_spelled {path : PathText Name} (hlinks : Linkless world.tree)
    (hstarts : startsWith (canonicalOrNormal os path world) (pathOf top) = true) :
    canonicalOrNormal os path world = pathOf (spelled (origin os.cwd path) path.segments) := by
  rw [canonicalOrNormal] at hstarts ⊢
  cases hcanonical : canonicalize os path world with
  | some canonical =>
      obtain ⟨location, hlocate, rfl⟩ := Option.map_eq_some_iff.mp hcanonical
      rw [spelled_of_locate hlinks hlocate]
      rfl
  | none =>
      rw [hcanonical, Option.getD_none] at hstarts
      obtain ⟨absolute, names, hnormal⟩ := normalizePath_plain path
      have habsolute : (normalizePath path).absolute = true := by
        rw [hnormal] at hstarts ⊢
        exact absolute_of_startsWith hstarts
      rw [Option.getD_none, normalizePath_of_absolute habsolute, origin,
        if_pos (normalizedFrom_of_absolute habsolute).1]

theorem location_of_resolvePath {requested : String} {path : PathText Name}
    (hlinks : Linkless world.tree)
    (hroot : locate world.tree os.linkLimit os.cwd .existing root = some top)
    (hresolve : resolvePath os root requested world = .ok path) :
    ∃ location, path = pathOf location ∧ top <+: location ∧
      (location = requestedLocation requested ∨ location = spelled top (asked requested)) := by
  rw [resolvePath, canonicalOrNormal_of_locate hroot] at hresolve
  split at hresolve
  · rename_i hstarts
    obtain rfl := Outcome.ok.inj hresolve
    have hspelled := canonicalOrNormal_spelled hlinks hstarts
    rw [hspelled] at hstarts
    refine ⟨_, hspelled, prefix_of_startsWith hstarts, ?_⟩
    rcases requestedPath_cases root requested with hpath | hpath
    · rw [hpath]
      exact Or.inl rfl
    · rw [hpath, spelled_append, spelled_of_locate hlinks hroot]
      exact Or.inr rfl
  · cases hresolve

theorem resolvePath_of_textOf {requested : String} {names : List Name}
    (hlinks : Linkless world.tree)
    (hroot : locate world.tree os.linkLimit os.cwd .existing root = some top)
    (hproper : ∀ name ∈ names, ProperName name)
    (htext : utf8 requested = textOf (pathOf names)) :
    resolvePath os root requested world =
      if (normalizePath root).absolute = true ∨
          (walk world.tree .existing os.linkLimit top (segmentsOf (joined names))).isSome then
        .ok (pathOf (top ++ names))
      else .err (.sftp "Access denied: path outside root") := by
  rw [resolvePath, canonicalOrNormal_of_locate hroot, requestedPath_of_textOf hproper htext,
    canonicalOrNormal, canonicalize, locate_append hlinks hroot]
  cases hwalk : walk world.tree .existing os.linkLimit top (segmentsOf (joined names)) with
  | some location =>
      have hlocation := spelled_of_walk hlinks hwalk
      rw [spelled_joined hproper] at hlocation
      rw [hlocation, Option.map_some, Option.getD_some, if_pos (startsWith_append top names),
        if_pos (Or.inr Option.isSome_some)]
  | none =>
      rw [Option.map_none, Option.getD_none]
      by_cases habsolute : (normalizePath root).absolute = true
      · have horigin : spelled [] root.segments = top := by
          rw [spelled_of_locate hlinks hroot, origin,
            if_pos (normalizedFrom_of_absolute habsolute).1]
        rw [normalizePath_append habsolute (parent_notMem_joined hproper), horigin,
          spelled_joined hproper, if_pos (startsWith_append top names), if_pos (Or.inl habsolute)]
      · rw [if_neg, if_neg]
        · rintro (hroot | hsome)
          · exact habsolute hroot
          · cases hsome
        · intro hstarts
          apply habsolute
          apply absolute_of_append
          obtain ⟨absolute, later, hnormal⟩ := normalizePath_plain
            ⟨root.absolute, root.segments ++ segmentsOf (joined names)⟩
          rw [hnormal] at hstarts ⊢
          exact absolute_of_startsWith hstarts

variable {requested name : String} {location : List Name}

theorem resolvePath_ne_of_root (hlinks : Linkless world.tree)
    (hroot : locate world.tree os.linkLimit os.cwd .existing root = some top) (htop : top ≠ [])
    (hproper : ∀ name ∈ location, ProperName name) (hbelow : top <+: location)
    (hname : name = fromUtf8Lossy (textOf (pathOf location))) :
    resolvePath os root name world ≠ .ok (pathOf location) := by
  have hne : location ≠ [] := by
    rintro rfl
    exact htop (List.prefix_nil.mp hbelow)
  obtain ⟨blurred, htext, hlength, hblurred⟩ := utf8_fromUtf8Lossy_pathOf hne hproper
  rw [← hname] at htext
  rw [resolvePath_of_textOf hlinks hroot hblurred htext]
  split
  · intro heq
    have hnames := pathOf_injective (Outcome.ok.inj heq)
    have hpos := List.length_pos_iff.mpr htop
    have htotal := congrArg List.length hnames
    rw [List.length_append, hlength] at htotal
    omega
  · rintro ⟨⟩

/-- Below the top, the answer leads back if the root keeps its absolute form or the
location exists. -/
theorem resolvePath_eq_iff_of_top (hlinks : Linkless world.tree)
    (hroot : locate world.tree os.linkLimit os.cwd .existing root = some [])
    (hproper : ∀ name ∈ location, ProperName name) (htext : ∀ name ∈ location, IsText name)
    (hname : name = fromUtf8Lossy (textOf (pathOf location))) :
    resolvePath os root name world = .ok (pathOf location) ↔
      (normalizePath root).absolute = true ∨
        (canonicalize os (pathFrom (textOf (pathOf location))) world).isSome := by
  have hutf8 : utf8 name = textOf (pathOf location) := by
    rw [hname, textOf_pathOf]
    exact utf8_fromUtf8Lossy (isText_separator.append (isText_joined htext))
  have hexists : (canonicalize os (pathFrom (textOf (pathOf location))) world).isSome =
      (walk world.tree .existing os.linkLimit [] (segmentsOf (joined location))).isSome := by
    rw [canonicalize, Option.isSome_map, textOf_pathOf, pathFrom, if_pos rfl]
    rfl
  rw [resolvePath_of_textOf hlinks hroot hproper hutf8, hexists, List.nil_append]
  split
  · rename_i hcondition
    exact ⟨fun _ => hcondition, fun _ => rfl⟩
  · rename_i hcondition
    constructor
    · rintro ⟨⟩
    · exact fun hholds => absurd hholds hcondition

end Resolution

section Answers

theorem append_self_inj {first second : Bytes} (heq : first ++ first = second ++ second) :
    first = second := by
  have hlength := congrArg List.length heq
  rw [List.length_append, List.length_append] at hlength
  exact (List.append_inj heq (by omega)).1

theorem name_of_buildSftpName {requestId : UInt32} {first second : String}
    (heq : buildSftpName requestId [(first, FileAttrs.default)] =
      buildSftpName requestId [(second, FileAttrs.default)]) : first = second := by
  have hdata := congrArg SftpPacket.data heq
  rw [buildSftpName, buildSftpName] at hdata
  dsimp only at hdata
  rw [List.flatMap_singleton, List.flatMap_singleton] at hdata
  have hnames := List.append_cancel_right (List.append_cancel_left hdata)
  have hwritten := append_self_inj hnames
  rw [writeUtf8, writeUtf8, writeString, writeString] at hwritten
  exact utf8_injective (List.append_inj_right hwritten rfl)

variable {os : Os Name} {handler : Handler} {world : World Name} {pkt : SftpPacket}
  {requested : String} {rest : Bytes}

theorem resolved_of_response {name : String}
    (hoperation : operationOf pkt.packetType = .realpath)
    (hread : readUtf8 pkt.data = .ok (requested, rest))
    (hanswer : (handleRequest os handler world pkt).response =
      buildSftpName pkt.requestId [(name, FileAttrs.default)]) :
    ∃ path, resolvePath os handler.root requested world = .ok path ∧
      name = fromUtf8Lossy (textOf path) := by
  have hdenied : ∀ text, buildSftpStatus pkt.requestId sshFxNoSuchFile text ≠
      buildSftpName pkt.requestId [(name, FileAttrs.default)] := by
    intro text heq
    have htype : sshFxpStatus = sshFxpName := congrArg SftpPacket.packetType heq
    revert htype
    decide
  rw [handleRequest, hoperation] at hanswer
  dsimp only at hanswer
  rw [handleRealpath, withPath, hread] at hanswer
  dsimp only at hanswer
  split at hanswer
  · rename_i path hresolve
    exact ⟨path, hresolve, (name_of_buildSftpName hanswer).symm⟩
  · exact absurd hanswer (hdenied _)

/-- The answer to a REALPATH request can be used in its place. -/
structure Coherent (os : Os Name) (handler : Handler) (world : World Name)
    (requested name : String) : Prop where
  resolved : resolvePath os handler.root name world = resolvePath os handler.root requested world
  repeated : ∀ pkt rest, operationOf pkt.packetType = .realpath →
    readUtf8 pkt.data = .ok (name, rest) →
    (handleRequest os handler world pkt).response =
      buildSftpName pkt.requestId [(name, FileAttrs.default)]

theorem coherent_iff {name : String} {path : PathText Name}
    (hresolve : resolvePath os handler.root requested world = .ok path)
    (hname : name = fromUtf8Lossy (textOf path)) :
    Coherent os handler world requested name ↔
      resolvePath os handler.root name world = .ok path := by
  constructor
  · intro hcoherent
    rw [hcoherent.resolved, hresolve]
  · intro hagain
    refine ⟨hagain.trans hresolve.symm, ?_⟩
    intro pkt rest hoperation hread
    rw [response_realpath os hoperation hread hagain, ← hname]

theorem properName_of_mem_location {top location : List Name} {rootText : Bytes} {limit : Nat}
    (hlinks : Linkless world.tree) (hcwd : ∀ name ∈ os.cwd, ProperName name)
    (hroot : locate world.tree limit os.cwd .existing (pathFrom rootText) = some top)
    (hlocation : location = requestedLocation requested ∨
      location = spelled top (asked requested)) :
    ∀ name ∈ location, ProperName name := by
  have htop : ∀ name ∈ top, ProperName name := by
    intro name hmem
    rw [spelled_of_locate hlinks hroot, origin] at hmem
    rcases mem_spelled hmem with hstart | hsegment
    · split at hstart
      · cases hstart
      · exact hcwd name hstart
    · exact properName_of_mem_pathFrom hsegment
  rintro name hmem
  rcases hlocation with rfl | rfl
  · rcases mem_spelled hmem with hstart | hsegment
    · cases hstart
    · exact (properName_of_mem_asked hsegment).1
  · rcases mem_spelled hmem with hstart | hsegment
    · exact htop name hstart
    · exact (properName_of_mem_asked hsegment).1

theorem isText_of_mem_requestedLocation :
    ∀ name ∈ requestedLocation requested, IsText name := by
  intro name hmem
  rcases mem_spelled hmem with hstart | hsegment
  · cases hstart
  · exact (properName_of_mem_asked hsegment).2

/-- The answers of REALPATH can be used as requests exactly when the root is the
top, and it is written as an absolute path or the location exists. -/
theorem realpath_coherent_iff (os : Os Name) (handler : Handler) (world : World Name)
    (rootText : Bytes) (canonicalRoot : PathText Name) (pkt : SftpPacket)
    (requested name : String) (rest : Bytes) (htext : handler.root = pathFrom rootText)
    (hexists : canonicalize os handler.root world = some canonicalRoot)
    (hlinks : Linkless world.tree) (hcwd : ∀ name ∈ os.cwd, ProperName name)
    (hoperation : operationOf pkt.packetType = .realpath)
    (hread : readUtf8 pkt.data = .ok (requested, rest))
    (hanswer : (handleRequest os handler world pkt).response =
      buildSftpName pkt.requestId [(name, FileAttrs.default)]) :
    Coherent os handler world requested name ↔
      canonicalRoot = pathOf [] ∧ ((normalizePath handler.root).absolute = true ∨
        (canonicalize os (pathFrom (textOf (pathOf (requestedLocation requested))))
          world).isSome) := by
  obtain ⟨top, hroot, rfl⟩ := Option.map_eq_some_iff.mp hexists
  obtain ⟨path, hresolve, hname⟩ := resolved_of_response hoperation hread hanswer
  obtain ⟨location, rfl, hbelow, hlocation⟩ := location_of_resolvePath hlinks hroot hresolve
  have hproper : ∀ name ∈ location, ProperName name := by
    rw [htext] at hroot
    exact properName_of_mem_location hlinks hcwd hroot hlocation
  rw [coherent_iff hresolve hname]
  by_cases htop : top = []
  · subst htop
    have hrequested : location = requestedLocation requested := hlocation.elim id id
    subst hrequested
    rw [resolvePath_eq_iff_of_top hlinks hroot hproper isText_of_mem_requestedLocation hname]
    exact ⟨fun hholds => ⟨rfl, hholds⟩, fun hholds => hholds.2⟩
  · refine ⟨fun heq => ?_, fun hholds => absurd (pathOf_injective hholds.1) htop⟩
    exact absurd heq (resolvePath_ne_of_root hlinks hroot htop hproper hbelow hname)

/-- The sample tree without its link. -/
def plainTree : DirTree Name :=
  sampleTree.erase [utf8 "srv", utf8 "d"]

theorem linkless_plainTree : Linkless plainTree := by
  apply linkless_of_entries
  have hobjects : plainTree.entries.map Sigma.snd =
      [.directory ⟨4096, 16877, 0, 0⟩, .directory ⟨4096, 16877, 0, 0⟩,
        .directory ⟨4096, 16877, 0, 0⟩, .file [1, 2, 3] ⟨3, 33188, 0, 0⟩] := by
    decide +kernel
  intro entry hmem target attributes heq
  have hobject : entry.2 ∈ plainTree.entries.map Sigma.snd := List.mem_map_of_mem hmem
  rw [hobjects, heq] at hobject
  revert hobject
  simp

/-- A REALPATH request. -/
def askRealpath (requested : String) : SftpPacket :=
  ⟨sshFxpRealpath, 1, writeUtf8 requested⟩

theorem realpath_coherent_srv_f :
    Coherent plainOs (newHandler (pathFrom (utf8 "/"))) ⟨plainTree, []⟩ "srv/f" "/srv/f" := by
  refine (realpath_coherent_iff plainOs (newHandler (pathFrom (utf8 "/"))) ⟨plainTree, []⟩
    (utf8 "/") (pathOf []) (askRealpath "srv/f") "srv/f" "/srv/f" [] rfl (by decide +kernel)
    linkless_plainTree ?_ rfl (by decide +kernel) (by decide +kernel)).mpr ⟨rfl, Or.inl ?_⟩
  · rintro name ⟨⟩
  · decide +kernel

/-- Below `/srv` the answer for `f` is `/srv/f`, which a later request takes as a
path below `/srv` again. -/
theorem realpath_answers_host_path :
    canonicalize plainOs sampleRoot ⟨plainTree, []⟩ = some (pathOf [utf8 "srv"]) ∧
      Linkless plainTree ∧
      (handleRequest plainOs (newHandler sampleRoot) ⟨plainTree, []⟩
        (askRealpath "f")).response = buildSftpName 1 [("/srv/f", FileAttrs.default)] ∧
      ¬Coherent plainOs (newHandler sampleRoot) ⟨plainTree, []⟩ "f" "/srv/f" := by
  refine ⟨by decide +kernel, linkless_plainTree, by decide +kernel, ?_⟩
  intro hcoherent
  have hresolved := hcoherent.resolved
  revert hresolved
  decide +kernel

end Answers

end SwiftSsh.RealpathCoherence
