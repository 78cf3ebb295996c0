import SwiftSsh.FileTree

/-!
Trees without links. There a path leads where it spells, if it leads anywhere, and
the way to it can be cut into two.
-/

namespace SwiftSsh.PlainTree

open SwiftSsh.FileTree

variable {ν : Type}

/-- The location that one segment leads to where there are no links. -/
def advance (location : List ν) : Segment ν → List ν
  | .current => location
  | .parent => location.dropLast
  | .name name => location ++ [name]

/-- The location that segments spell from a start, whether it exists or not. -/
def spelled (start : List ν) (segments : List (Segment ν)) : List ν :=
  segments.foldl advance start

theorem spelled_append (start : List ν) (first second : List (Segment ν)) :
    spelled start (first ++ second) = spelled (spelled start first) second :=
  List.foldl_append

theorem spelled_names (start names : List ν) :
    spelled start (names.map .name) = start ++ names := by
  induction names generalizing start with
  | nil => exact (List.append_nil start).symm
  | cons name names ih =>
      rw [List.map_cons, spelled, List.foldl_cons]
      change spelled (start ++ [name]) (names.map .name) = _
      rw [ih, List.append_assoc, List.singleton_append]

theorem mem_spelled {start : List ν} {segments : List (Segment ν)} {name : ν}
    (hmem : name ∈ spelled start segments) : name ∈ start ∨ .name name ∈ segments := by
  induction segments generalizing start with
  | nil => exact Or.inl hmem
  | cons segment segments ih =>
      rcases ih hmem with hstart | hlater
      · cases segment with
        | current => exact Or.inl hstart
        | parent => exact Or.inl (List.dropLast_subset _ hstart)
        | name other =>
            rcases List.mem_append.mp hstart with hfront | hlast
            · exact Or.inl hfront
            · rw [List.mem_singleton.mp hlast]
              exact Or.inr List.mem_cons_self
      · exact Or.inr (List.mem_cons_of_mem _ hlater)

variable [DecidableEq ν]

/-- There is no link in the tree. -/
def Linkless (tree : DirTree ν) : Prop :=
  ∀ location target attributes, tree.lookup location ≠ some (.link target attributes)

theorem linkless_of_entries {tree : DirTree ν}
    (hall : ∀ entry ∈ tree.entries, ∀ target attributes, entry.2 ≠ .link target attributes) :
    Linkless tree :=
  fun location target attributes hlookup =>
    hall ⟨location, _⟩ (AList.mem_lookup_iff.mp hlookup) target attributes rfl

variable {tree : DirTree ν} {follow : List ν → List (Segment ν) → Option (List ν)}

theorem walkSegments_cons (hlinks : Linkless tree) (start : List ν) (segment : Segment ν)
    (rest : List (Segment ν)) :
    walkSegments tree .existing follow start (segment :: rest) =
      (walkSegments tree .existing follow start [segment]).bind fun location =>
        walkSegments tree .existing follow location rest := by
  cases segment with
  | current =>
      rw [walkSegments, walkSegments, walkSegments]
      split <;> rfl
  | parent =>
      rw [walkSegments, walkSegments, walkSegments]
      split <;> rfl
  | name name =>
      rw [walkSegments, walkSegments]
      split
      · rw [if_neg (by simp), if_neg (by simp)]
        cases hobject : tree.lookup (start ++ [name]) with
        | none => simp
        | some object =>
            cases object with
            | link target attributes => exact absurd hobject (hlinks _ _ _)
            | directory attributes => rfl
            | file content attributes => rfl
      · rfl

theorem walkSegments_append (hlinks : Linkless tree) (start : List ν)
    (first second : List (Segment ν)) :
    walkSegments tree .existing follow start (first ++ second) =
      (walkSegments tree .existing follow start first).bind fun location =>
        walkSegments tree .existing follow location second := by
  induction first generalizing start with
  | nil => rfl
  | cons segment first ih =>
      rw [List.cons_append, walkSegments_cons hlinks, walkSegments_cons hlinks start segment first,
        Option.bind_assoc]
      congr 1
      funext location
      exact ih location

theorem advance_of_walkSegments (hlinks : Linkless tree) {start location : List ν}
    {segment : Segment ν}
    (hwalk : walkSegments tree .existing follow start [segment] = some location) :
    location = advance start segment := by
  cases segment with
  | current =>
      rw [walkSegments] at hwalk
      split at hwalk
      · exact (Option.some.inj hwalk).symm
      · cases hwalk
  | parent =>
      rw [walkSegments] at hwalk
      split at hwalk
      · exact (Option.some.inj hwalk).symm
      · cases hwalk
  | name name =>
      rw [walkSegments] at hwalk
      split at hwalk
      · rw [if_neg (by simp)] at hwalk
        split at hwalk
        · simp at hwalk
        · rename_i target attributes hobject
          exact absurd hobject (hlinks _ _ _)
        · exact (Option.some.inj hwalk).symm
      · cases hwalk

theorem spelled_of_walkSegments (hlinks : Linkless tree) {start location : List ν}
    {segments : List (Segment ν)}
    (hwalk : walkSegments tree .existing follow start segments = some location) :
    location = spelled start segments := by
  induction segments generalizing start with
  | nil => exact (Option.some.inj hwalk).symm
  | cons segment segments ih =>
      rw [walkSegments_cons hlinks] at hwalk
      obtain ⟨middle, hfirst, hrest⟩ := Option.bind_eq_some_iff.mp hwalk
      rw [advance_of_walkSegments hlinks hfirst] at hrest
      exact ih hrest

theorem walk_append (hlinks : Linkless tree) (limit : Nat) (start : List ν)
    (first second : List (Segment ν)) :
    walk tree .existing limit start (first ++ second) =
      (walk tree .existing limit start first).bind fun location =>
        walk tree .existing limit location second := by
  cases limit with
  | zero => exact walkSegments_append hlinks start first second
  | succ limit => exact walkSegments_append hlinks start first second

theorem spelled_of_walk (hlinks : Linkless tree) {limit : Nat} {start location : List ν}
    {segments : List (Segment ν)}
    (hwalk : walk tree .existing limit start segments = some location) :
    location = spelled start segments := by
  cases limit with
  | zero => exact spelled_of_walkSegments hlinks hwalk
  | succ limit => exact spelled_of_walkSegments hlinks hwalk

/-- Where a path starts. -/
def origin (cwd : List ν) (path : PathText ν) : List ν :=
  if path.absolute then [] else cwd

variable {limit : Nat} {cwd location : List ν} {path : PathText ν}

theorem walk_of_locate (hlocate : locate tree limit cwd .existing path = some location) :
    walk tree .existing limit (origin cwd path) path.segments = some location := by
  rw [locate] at hlocate
  rw [origin]
  split at hlocate
  · rw [if_pos (by assumption)]
    exact hlocate
  · rw [if_neg (by assumption)]
    split at hlocate
    · cases hlocate
    · exact hlocate

theorem spelled_of_locate (hlinks : Linkless tree)
    (hlocate : locate tree limit cwd .existing path = some location) :
    location = spelled (origin cwd path) path.segments :=
  spelled_of_walk hlinks (walk_of_locate hlocate)

theorem locate_append (hlinks : Linkless tree)
    (hlocate : locate tree limit cwd .existing path = some location)
    (more : List (Segment ν)) :
    locate tree limit cwd .existing ⟨path.absolute, path.segments ++ more⟩ =
      walk tree .existing limit location more := by
  have hwalk := walk_append hlinks limit (origin cwd path) path.segments more
  rw [walk_of_locate hlocate, Option.bind_some, origin] at hwalk
  rw [locate] at hlocate ⊢
  dsimp only
  split at hlocate
  · rename_i habsolute
    rw [if_pos habsolute] at hwalk ⊢
    exact hwalk
  · rename_i hrelative
    rw [if_neg hrelative] at hwalk ⊢
    split at hlocate
    · cases hlocate
    · rename_i hne
      rw [if_neg fun hnil => hne (List.append_eq_nil_iff.mp hnil).1]
      exact hwalk

end SwiftSsh.PlainTree
