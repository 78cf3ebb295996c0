import SwiftSsh.EventProgram

/-!
Logs that can be replayed. The part of the state that a log accounts for is the same
after the run and after the replay, and what follows an event in the log is accounted
for by the replay of what stands before it.
-/

namespace SwiftSsh.ReplayedLog

open SwiftSsh.RustOutcome
open SwiftSsh.EventProgram

variable {σ ω ε ι φ : Type}

/-- Every event is followed as it should be, by what is known before it. -/
def Explained (apply : φ → ω → φ) (follows : φ → ω → List ω → Prop) : φ → List ω → Prop
  | _, [] => True
  | known, event :: events =>
      follows known event events ∧ Explained apply follows (apply known event) events

variable {apply : φ → ω → φ} {follows weaker : φ → ω → List ω → Prop} {known : φ}

theorem Explained.append {first second : List ω}
    (hextend : ∀ known event rest, follows known event rest →
      weaker known event (rest ++ second))
    (hfirst : Explained apply follows known first)
    (hsecond : Explained apply weaker (first.foldl apply known) second) :
    Explained apply weaker known (first ++ second) := by
  induction first generalizing known with
  | nil => exact hsecond
  | cons event events ih => exact ⟨hextend _ _ _ hfirst.1, ih hfirst.2 hsecond⟩

theorem explained_iff {events : List ω} : Explained apply follows known events ↔
    ∀ front event back, events = front ++ event :: back →
      follows (front.foldl apply known) event back := by
  induction events generalizing known with
  | nil =>
      refine iff_of_true trivial ?_
      intro front event back heq
      simp at heq
  | cons first events ih =>
      rw [Explained, ih]
      constructor
      · rintro ⟨hfirst, hrest⟩ front event back heq
        cases front with
        | nil =>
            cases heq
            exact hfirst
        | cons other front =>
            cases heq
            exact hrest front event back rfl
      · intro hall
        refine ⟨hall [] first events rfl, ?_⟩
        rintro front event back rfl
        exact hall (first :: front) event back rfl

section Runs

variable {view : σ → φ} {body : ι → Traced σ ω ε Unit}

/-- Code whose log accounts for what it does to a part of the state. -/
def Accounts (apply : φ → ω → φ) (view : σ → φ) (r : Ran σ ω ε Unit) (state : σ) : Prop :=
  view r.state = r.events.foldl apply (view state)

theorem accounts_forEach
    (hbody : ∀ input state, Accounts apply view (run (body input) state) state)
    (inputs : List ι) (state : σ) :
    Accounts apply view (run (forEach body inputs) state) state := by
  induction inputs generalizing state with
  | nil => rfl
  | cons input inputs ih =>
      have hfirst := hbody input state
      rw [forEach, run_bind]
      rcases hrun : run (body input) state with ⟨events, later, value | error | _⟩
      · rw [hrun] at hfirst
        change view later = events.foldl apply (view state) at hfirst
        rw [Ran.andThen_ok, Accounts, Ran.after, List.foldl_append, ← hfirst]
        exact ih later
      · rw [hrun] at hfirst
        exact hfirst
      · rw [hrun] at hfirst
        exact hfirst

/-- The log of a run that does not fail is explained if the log of each step is. -/
theorem explained_forEach_ok
    (hbody : ∀ input state, Accounts apply view (run (body input) state) state)
    (hextend : ∀ known event rest more, follows known event rest →
      follows known event (rest ++ more))
    (hfull : ∀ input state, (run (body input) state).outcome = .ok () →
      Explained apply follows (view state) (run (body input) state).events)
    {inputs : List ι} {state : σ} (hok : (run (forEach body inputs) state).outcome = .ok ()) :
    Explained apply follows (view state) (run (forEach body inputs) state).events := by
  induction inputs generalizing state with
  | nil => trivial
  | cons input inputs ih =>
      have haccounts := hbody input state
      have hfirst := hfull input state
      rw [forEach, run_bind] at hok ⊢
      rcases hrun : run (body input) state with ⟨events, later, value | error | _⟩
      · rw [hrun] at haccounts hfirst hok
        refine (hfirst rfl).append (fun known event rest => hextend known event rest _) ?_
        rw [← haccounts]
        exact ih hok
      · rw [hrun] at hok
        cases hok
      · rw [hrun] at hok
        cases hok

/-- The last step of a run may fail, and its log then be cut. -/
theorem explained_forEach
    (hbody : ∀ input state, Accounts apply view (run (body input) state) state)
    (hfull : ∀ input state, (run (body input) state).outcome = .ok () →
      Explained apply follows (view state) (run (body input) state).events)
    (hextend : ∀ known event rest more, follows known event rest →
      weaker known event (rest ++ more))
    (hcut : ∀ input state, Explained apply weaker (view state) (run (body input) state).events)
    (inputs : List ι) (state : σ) :
    Explained apply weaker (view state) (run (forEach body inputs) state).events := by
  induction inputs generalizing state with
  | nil => trivial
  | cons input inputs ih =>
      have haccounts := hbody input state
      have hfirst := hfull input state
      have hlast := hcut input state
      rw [forEach, run_bind]
      rcases hrun : run (body input) state with ⟨events, later, value | error | _⟩
      · rw [hrun] at haccounts hfirst
        refine (hfirst rfl).append (fun known event rest => hextend known event rest _) ?_
        rw [← haccounts]
        exact ih later
      · rw [hrun] at hlast
        exact hlast
      · rw [hrun] at hlast
        exact hlast

end Runs

end SwiftSsh.ReplayedLog
