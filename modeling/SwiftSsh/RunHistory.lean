import Mathlib.Data.List.Induction

/-!
Runs of a machine that is given inputs one after another, with a record of what
happened in each step.
-/

namespace SwiftSsh.RunHistory

variable {σ ι ω : Type}

/-- A machine, and what is written down about a step. -/
structure Machine (σ ι ω : Type) where
  step : σ → ι → σ
  note : σ → ι → List ω

namespace Machine

variable (machine : Machine σ ι ω)

/-- The state after some inputs. -/
def after (start : σ) (inputs : List ι) : σ :=
  inputs.foldl machine.step start

/-- The notes of a run. -/
def history : σ → List ι → List ω
  | _, [] => []
  | state, input :: inputs =>
      machine.note state input ++ history (machine.step state input) inputs

/-- A property of every input of a run, with the inputs before it. -/
def Always (inputs : List ι) (holds : List ι → ι → Prop) : Prop :=
  ∀ earlier input later, inputs = earlier ++ input :: later → holds earlier input

variable {machine} {start : σ}

@[simp] theorem after_nil : machine.after start [] = start :=
  rfl

@[simp] theorem after_cons (input : ι) (inputs : List ι) :
    machine.after start (input :: inputs) = machine.after (machine.step start input) inputs :=
  rfl

theorem after_concat (inputs : List ι) (input : ι) :
    machine.after start (inputs ++ [input]) =
      machine.step (machine.after start inputs) input := by
  rw [after, List.foldl_append]
  rfl

theorem history_concat (inputs : List ι) (input : ι) :
    machine.history start (inputs ++ [input]) =
      machine.history start inputs ++ machine.note (machine.after start inputs) input := by
  induction inputs generalizing start with
  | nil => exact List.append_nil _
  | cons first inputs ih =>
      rw [List.cons_append, history, ih, history, List.append_assoc]
      rfl

theorem Always.of_concat {inputs : List ι} {input : ι} {holds : List ι → ι → Prop}
    (hall : Always (inputs ++ [input]) holds) : Always inputs holds ∧ holds inputs input := by
  constructor
  · intro earlier other later heq
    refine hall earlier other (later ++ [input]) ?_
    rw [heq, List.append_assoc, List.cons_append]
  · exact hall inputs input [] rfl

theorem always_concat_iff {inputs : List ι} {input : ι} {holds : List ι → ι → Prop} :
    Always (inputs ++ [input]) holds ↔ Always inputs holds ∧ holds inputs input := by
  refine ⟨Always.of_concat, ?_⟩
  rintro ⟨hinputs, hinput⟩ earlier other later heq
  rcases List.append_eq_append_iff.mp heq with ⟨middle, hearlier, hlast⟩ | ⟨middle, hfront, hback⟩
  · cases middle with
    | nil =>
        rw [List.append_nil] at hearlier
        rw [hearlier, ← (List.cons.inj hlast).1]
        exact hinput
    | cons first middle => simp at hlast
  · cases middle with
    | nil =>
        rw [List.append_nil] at hfront
        rw [← hfront, (List.cons.inj hback).1]
        exact hinput
    | cons first middle =>
        rw [← (List.cons.inj hback).1] at hfront
        exact hinputs earlier other middle hfront

/-- What holds at the start and is kept by every step under a condition holds
after every run whose steps all meet the condition. -/
theorem after_induction {holds : List ι → σ → Prop} {meets : List ι → ι → Prop}
    (hstart : holds [] start)
    (hstep : ∀ earlier input, holds earlier (machine.after start earlier) →
      meets earlier input →
      holds (earlier ++ [input]) (machine.step (machine.after start earlier) input))
    {inputs : List ι} (hmeets : Always inputs meets) :
    holds inputs (machine.after start inputs) := by
  induction inputs using List.reverseRecOn with
  | nil => exact hstart
  | append_singleton inputs input ih =>
      obtain ⟨hearlier, hlast⟩ := hmeets.of_concat
      rw [after_concat]
      exact hstep inputs input (ih hearlier) hlast

/-- A property that each step has under a condition, in a state where an invariant
holds. -/
theorem always_of_invariant {holds : List ι → σ → Prop} {meets sound : List ι → ι → Prop}
    (hstart : holds [] start)
    (hstep : ∀ earlier input, holds earlier (machine.after start earlier) →
      meets earlier input →
      holds (earlier ++ [input]) (machine.step (machine.after start earlier) input) ∧
        sound earlier input)
    {inputs : List ι} (hmeets : Always inputs meets) : Always inputs sound := by
  intro earlier input later heq
  have hearlier : Always earlier meets := by
    intro front other back hfront
    refine hmeets front other (back ++ input :: later) ?_
    rw [heq, hfront, List.append_assoc, List.cons_append]
  have hholds := after_induction hstart
    (fun front other hfront hother => (hstep front other hfront hother).1) hearlier
  exact (hstep earlier input hholds (hmeets earlier input later heq)).2

end Machine

end SwiftSsh.RunHistory
