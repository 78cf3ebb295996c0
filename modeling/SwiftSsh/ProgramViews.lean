import SwiftSsh.ByteProgram

/-!
Parts of the state of a program: a part that it depends on, and a part that it
keeps.
-/

namespace SwiftSsh.ProgramViews

open SwiftSsh.ByteWords
open SwiftSsh.RustOutcome
open SwiftSsh.ByteProgram
open SwiftSsh.ByteProgram.Program

variable {σ ε α β ρ : Type} {view : σ → ρ}

/-- From states with the same part the program does the same, and leaves states
with the same part. -/
def DependsOn (view : σ → ρ) (p : Program σ ε α) : Prop :=
  ∀ state other input, view state = view other →
    (run p state input).outcome = (run p other input).outcome ∧
      (run p state input).rest = (run p other input).rest ∧
      (run p state input).written = (run p other input).written ∧
      view (run p state input).state = view (run p other input).state

/-- No execution changes the part. -/
def Keeps (view : σ → ρ) (p : Program σ ε α) : Prop :=
  ∀ state input, view (run p state input).state = view state

/-- No execution writes. -/
def WritesNothing (p : Program σ ε α) : Prop :=
  ∀ state input, (run p state input).written = []

theorem DependsOn.bind {p : Program σ ε α} {f : α → Program σ ε β} (hp : DependsOn view p)
    (hf : ∀ value, DependsOn view (f value)) : DependsOn view (p >>= f) := by
  intro state other input hsame
  obtain ⟨houtcome, hrest, hwritten, hstate⟩ := hp state other input hsame
  rw [run_bind, run_bind]
  generalize run p state input = first at houtcome hrest hwritten hstate ⊢
  generalize run p other input = second at houtcome hrest hwritten hstate ⊢
  obtain ⟨outcome, state', rest, written⟩ := first
  obtain ⟨outcome', other', rest', written'⟩ := second
  dsimp only at houtcome hrest hwritten hstate
  subst houtcome hrest hwritten
  cases outcome with
  | ok value =>
      obtain ⟨houtcome, hrest, hwritten, hlast⟩ := hf value state' other' rest hstate
      exact ⟨houtcome, hrest, congrArg (written ++ ·) hwritten, hlast⟩
  | err error => exact ⟨rfl, rfl, rfl, hstate⟩
  | panic => exact ⟨rfl, rfl, rfl, hstate⟩

theorem Keeps.bind {p : Program σ ε α} {f : α → Program σ ε β} (hp : Keeps view p)
    (hf : ∀ value, Keeps view (f value)) : Keeps view (p >>= f) := by
  intro state input
  have hfirst := hp state input
  rw [run_bind]
  generalize run p state input = first at hfirst ⊢
  rcases first with ⟨value | error | _, later, rest, written⟩
  · exact (hf value later rest).trans hfirst
  · exact hfirst
  · exact hfirst

theorem WritesNothing.bind {p : Program σ ε α} {f : α → Program σ ε β} (hp : WritesNothing p)
    (hf : ∀ value, WritesNothing (f value)) : WritesNothing (p >>= f) := by
  intro state input
  have hfirst := hp state input
  rw [run_bind]
  generalize run p state input = first at hfirst ⊢
  rcases first with ⟨value | error | _, later, rest, written⟩
  · dsimp only at hfirst
    subst hfirst
    exact hf value later rest
  · exact hfirst
  · exact hfirst

theorem dependsOn_lift (result : Outcome ε α) :
    DependsOn view (lift result : Program σ ε α) :=
  fun _ _ _ hsame => ⟨rfl, rfl, rfl, hsame⟩

theorem keeps_lift (result : Outcome ε α) : Keeps view (lift result : Program σ ε α) :=
  fun _ _ => rfl

theorem writesNothing_lift (result : Outcome ε α) :
    WritesNothing (lift result : Program σ ε α) :=
  fun _ _ => rfl

theorem dependsOn_readExact (count : Nat) (eof : ε) :
    DependsOn view (readExact count eof : Program σ ε Bytes) := by
  intro state other input hsame
  simp only [readExact, run]
  split
  · exact ⟨rfl, rfl, rfl, hsame⟩
  · exact ⟨rfl, rfl, rfl, hsame⟩

theorem keeps_readExact (count : Nat) (eof : ε) :
    Keeps view (readExact count eof : Program σ ε Bytes) := by
  intro state input
  simp only [readExact, run]
  split
  · rfl
  · rfl

theorem writesNothing_readExact (count : Nat) (eof : ε) :
    WritesNothing (readExact count eof : Program σ ε Bytes) := by
  intro state input
  simp only [readExact, run]
  split
  · rfl
  · rfl

theorem DependsOn.getState {f : σ → Program σ ε α} (hf : ∀ state, DependsOn view (f state))
    (hsame : ∀ state other, view state = view other → f state = f other) :
    DependsOn view (getState >>= f) := by
  intro state other input heq
  rw [run_getState_bind, run_getState_bind, hsame state other heq]
  exact hf other state other input heq

theorem Keeps.getState {f : σ → Program σ ε α} (hf : ∀ state, Keeps view (f state)) :
    Keeps view (getState >>= f) :=
  fun state input => hf state state input

theorem WritesNothing.getState {f : σ → Program σ ε α} (hf : ∀ state, WritesNothing (f state)) :
    WritesNothing (getState >>= f) :=
  fun state input => hf state state input

end SwiftSsh.ProgramViews
