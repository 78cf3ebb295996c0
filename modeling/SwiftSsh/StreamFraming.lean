import Mathlib.Data.List.Basic

/-!
Items sent over a stream that is cut into chunks, and a receiver that looks for an
item at the start of each chunk. It gets the items exactly when no chunk holds
more or less than one.
-/

namespace SwiftSsh.StreamFraming

variable {α β : Type}

/-- An encoding, and the item found at the start of a chunk. -/
structure Framing (α β : Type) where
  encode : α → List β
  first : List β → Option α
  encode_ne_nil : ∀ item, encode item ≠ []
  first_eq_some : ∀ chunk item, first chunk = some item → ∃ rest, chunk = encode item ++ rest

namespace Framing

variable (F : Framing α β)

/-- The chunks with data are the encodings of the items. -/
def Aligned (chunks : List (List β)) (items : List α) : Prop :=
  chunks.filter (fun chunk => !chunk.isEmpty) = items.map F.encode

variable {F} {chunks : List (List β)} {items : List α}

theorem first_nil : F.first [] = none := by
  cases hfirst : F.first [] with
  | none => rfl
  | some item =>
      obtain ⟨rest, heq⟩ := F.first_eq_some [] item hfirst
      exact absurd (List.append_eq_nil_iff.mp heq.symm).1 (F.encode_ne_nil item)

theorem length_firsts_le (chunks : List (List β)) :
    ((chunks.filterMap F.first).flatMap F.encode).length ≤ chunks.flatten.length := by
  induction chunks with
  | nil => exact Nat.le_refl _
  | cons chunk chunks ih =>
      rw [List.flatten_cons, List.length_append]
      cases hfirst : F.first chunk with
      | none =>
          rw [List.filterMap_cons_none hfirst]
          omega
      | some item =>
          obtain ⟨rest, rfl⟩ := F.first_eq_some chunk item hfirst
          rw [List.filterMap_cons_some hfirst, List.flatMap_cons, List.length_append,
            List.length_append]
          omega

/-- A cut that gives back the items wastes no room, so it cuts between them. -/
theorem aligned_of_cut (hcut : chunks.flatten = items.flatMap F.encode)
    (hfound : chunks.filterMap F.first = items) : F.Aligned chunks items := by
  rw [Aligned]
  induction chunks generalizing items with
  | nil =>
      obtain rfl := hfound
      rfl
  | cons chunk chunks ih =>
      have hroom := length_firsts_le (F := F) chunks
      rw [List.flatten_cons] at hcut
      cases hfirst : F.first chunk with
      | none =>
          rw [List.filterMap_cons_none hfirst] at hfound
          have hlength := congrArg List.length hcut
          rw [List.length_append, ← hfound] at hlength
          have hempty : chunk = [] := List.eq_nil_of_length_eq_zero (by omega)
          subst hempty
          rw [List.nil_append] at hcut
          exact ih hcut hfound
      | some item =>
          rw [List.filterMap_cons_some hfirst] at hfound
          obtain ⟨rest, rfl⟩ := F.first_eq_some chunk item hfirst
          obtain rfl := hfound
          rw [List.flatMap_cons, List.append_assoc, List.append_cancel_left_eq] at hcut
          have hlength := congrArg List.length hcut
          rw [List.length_append] at hlength
          have hempty : rest = [] := List.eq_nil_of_length_eq_zero (by omega)
          subst hempty
          rw [List.nil_append] at hcut
          have hdata : (!(F.encode item ++ []).isEmpty) = true := by
            rw [List.append_nil]
            cases hencode : F.encode item with
            | nil => exact absurd hencode (F.encode_ne_nil item)
            | cons byte bytes => rfl
          rw [List.filter_cons, if_pos hdata, List.map_cons, ih hcut rfl, List.append_nil]

theorem found_of_aligned (haligned : F.Aligned chunks items)
    (hread : ∀ item ∈ items, F.first (F.encode item) = some item) :
    chunks.filterMap F.first = items := by
  have hdropped : ∀ chunks : List (List β), chunks.filterMap F.first =
      (chunks.filter fun chunk => !chunk.isEmpty).filterMap F.first := by
    intro chunks
    induction chunks with
    | nil => rfl
    | cons chunk chunks ih =>
        cases chunk with
        | nil =>
            rw [List.filterMap_cons_none first_nil, ih]
            rfl
        | cons byte bytes =>
            rw [List.filter_cons_of_pos rfl, List.filterMap_cons, List.filterMap_cons, ih]
  rw [hdropped, haligned, List.filterMap_map]
  clear haligned
  induction items with
  | nil => rfl
  | cons item items ih =>
      have hitem : (F.first ∘ F.encode) item = some item := hread item List.mem_cons_self
      rw [List.filterMap_cons_some hitem,
        ih fun other hmem => hread other (List.mem_cons_of_mem _ hmem)]

end Framing

end SwiftSsh.StreamFraming
