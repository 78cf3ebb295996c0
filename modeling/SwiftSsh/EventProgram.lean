import Mathlib.Data.List.Induction
import SwiftSsh.RustOutcome

/-!
Code that changes state, emits events and may fail. What happened before a
failure stands.
-/

namespace SwiftSsh.EventProgram

open SwiftSsh.RustOutcome

variable {σ ω ε α β ι : Type}

/-- What running code leaves. -/
structure Ran (σ ω ε α : Type) where
  events : List ω
  state : σ
  outcome : Outcome ε α

/-- Code over a state `σ` with events `ω` and errors `ε`. -/
def Traced (σ ω ε α : Type) : Type :=
  σ → Ran σ ω ε α

/-- The events, state and outcome of some code. -/
def run (code : Traced σ ω ε α) (state : σ) : Ran σ ω ε α :=
  code state

/-- Events emitted before the recorded ones. -/
def Ran.after (events : List ω) (r : Ran σ ω ε α) : Ran σ ω ε α :=
  { r with events := events ++ r.events }

/-- Go on after code that has succeeded. -/
def Ran.andThen (r : Ran σ ω ε α) (next : α → Traced σ ω ε β) : Ran σ ω ε β :=
  match r.outcome with
  | .ok value => (run (next value) r.state).after r.events
  | .err error => ⟨r.events, r.state, .err error⟩
  | .panic => ⟨r.events, r.state, .panic⟩

instance : Monad (Traced σ ω ε) where
  pure value := fun state => ⟨[], state, .ok value⟩
  bind code next := fun state => (code state).andThen next

/-- Read the state. -/
def getState : Traced σ ω ε σ :=
  fun state => ⟨[], state, .ok state⟩

/-- Change the state. -/
def modifyState (change : σ → σ) : Traced σ ω ε Unit :=
  fun state => ⟨[], change state, .ok ()⟩

/-- Record an event. -/
def emit (event : ω) : Traced σ ω ε Unit :=
  fun state => ⟨[event], state, .ok ()⟩

/-- Code without state or events. -/
def lift (result : Outcome ε α) : Traced σ ω ε α :=
  fun state => ⟨[], state, result⟩

/-- End with an error. -/
def fail (error : ε) : Traced σ ω ε α :=
  lift (.err error)

/-- The same code for each input in turn. -/
def forEach (body : ι → Traced σ ω ε Unit) : List ι → Traced σ ω ε Unit
  | [] => pure ()
  | input :: inputs => do
      body input
      forEach body inputs

@[simp] theorem Ran.after_nil (r : Ran σ ω ε α) : r.after [] = r :=
  rfl

@[simp] theorem Ran.after_after (first second : List ω) (r : Ran σ ω ε α) :
    (r.after second).after first = r.after (first ++ second) := by
  simp [Ran.after]

@[simp] theorem Ran.andThen_ok (events : List ω) (state : σ) (value : α)
    (next : α → Traced σ ω ε β) :
    Ran.andThen ⟨events, state, .ok value⟩ next = (run (next value) state).after events :=
  rfl

@[simp] theorem Ran.andThen_err (events : List ω) (state : σ) (error : ε)
    (next : α → Traced σ ω ε β) :
    Ran.andThen ⟨events, state, .err error⟩ next = ⟨events, state, .err error⟩ :=
  rfl

theorem Ran.andThen_after (events : List ω) (r : Ran σ ω ε α) (next : α → Traced σ ω ε β) :
    (r.after events).andThen next = (r.andThen next).after events := by
  rcases r with ⟨front, state, value | error | _⟩
  · rw [Ran.andThen_ok, Ran.after_after]
    rfl
  · rfl
  · rfl

theorem run_bind (code : Traced σ ω ε α) (next : α → Traced σ ω ε β) (state : σ) :
    run (code >>= next) state = (run code state).andThen next :=
  rfl

theorem run_bind_ok {code : Traced σ ω ε α} {state later : σ} {events : List ω} {value : α}
    (hrun : run code state = ⟨events, later, .ok value⟩) (next : α → Traced σ ω ε β) :
    run (code >>= next) state = (run (next value) later).after events := by
  rw [run_bind, hrun, Ran.andThen_ok]

theorem run_bind_err {code : Traced σ ω ε α} {state later : σ} {events : List ω} {error : ε}
    (hrun : run code state = ⟨events, later, .err error⟩) (next : α → Traced σ ω ε β) :
    run (code >>= next) state = ⟨events, later, .err error⟩ := by
  rw [run_bind, hrun, Ran.andThen_err]

theorem run_bind_eq_ok {code : Traced σ ω ε α} {next : α → Traced σ ω ε β}
    {state last : σ} {events : List ω} {result : β}
    (hrun : run (code >>= next) state = ⟨events, last, .ok result⟩) :
    ∃ front middle value back, run code state = ⟨front, middle, .ok value⟩ ∧
      run (next value) middle = ⟨back, last, .ok result⟩ ∧ events = front ++ back := by
  rw [run_bind] at hrun
  rcases hfirst : run code state with ⟨front, middle, value | error | _⟩
  · rw [hfirst, Ran.andThen_ok] at hrun
    rcases hsecond : run (next value) middle with ⟨back, final, outcome⟩
    rw [hsecond, Ran.after] at hrun
    cases hrun
    exact ⟨front, middle, value, back, rfl, hsecond, rfl⟩
  · rw [hfirst] at hrun
    cases hrun
  · rw [hfirst] at hrun
    cases hrun

@[simp] theorem run_pure (value : α) (state : σ) :
    run (pure value : Traced σ ω ε α) state = ⟨[], state, .ok value⟩ :=
  rfl

@[simp] theorem pure_bind_eq (value : α) (next : α → Traced σ ω ε β) :
    (pure value >>= next : Traced σ ω ε β) = next value :=
  rfl

@[simp] theorem run_getState_bind (next : σ → Traced σ ω ε α) (state : σ) :
    run (getState >>= next) state = run (next state) state :=
  rfl

@[simp] theorem run_modifyState_bind (change : σ → σ) (next : Unit → Traced σ ω ε α)
    (state : σ) : run (modifyState change >>= next) state = run (next ()) (change state) :=
  rfl

@[simp] theorem run_lift (result : Outcome ε α) (state : σ) :
    run (lift result : Traced σ ω ε α) state = ⟨[], state, result⟩ :=
  rfl

@[simp] theorem run_lift_ok_bind (value : α) (next : α → Traced σ ω ε β) (state : σ) :
    run (lift (.ok value) >>= next) state = run (next value) state :=
  rfl

@[simp] theorem run_fail (error : ε) (state : σ) :
    run (fail error : Traced σ ω ε α) state = ⟨[], state, .err error⟩ :=
  rfl

@[simp] theorem run_forEach_nil (body : ι → Traced σ ω ε Unit) (state : σ) :
    run (forEach body []) state = ⟨[], state, .ok ()⟩ :=
  rfl

theorem run_forEach_cons_ok {body : ι → Traced σ ω ε Unit} {input : ι} {state later : σ}
    {events : List ω} (hrun : run (body input) state = ⟨events, later, .ok ()⟩)
    (inputs : List ι) :
    run (forEach body (input :: inputs)) state =
      (run (forEach body inputs) later).after events :=
  run_bind_ok hrun _

theorem run_forEach_append (body : ι → Traced σ ω ε Unit) (first second : List ι) (state : σ) :
    run (forEach body (first ++ second)) state =
      run (forEach body first >>= fun _ => forEach body second) state := by
  induction first generalizing state with
  | nil => rfl
  | cons input inputs ih =>
      rw [List.cons_append, forEach, run_bind, run_bind, forEach, run_bind]
      rcases run (body input) state with ⟨events, later, value | error | _⟩
      · rw [Ran.andThen_ok, Ran.andThen_ok, ih, run_bind, Ran.andThen_after]
      · rfl
      · rfl

/-- What holds at the start and is kept by every input that is served holds after
any number of them. -/
theorem forEach_induction {body : ι → Traced σ ω ε Unit}
    {holds : List ι → List ω → σ → Prop} {start : σ} (hstart : holds [] [] start)
    (hstep : ∀ served events state input more later, holds served events state →
      run (body input) state = ⟨more, later, .ok ()⟩ →
      holds (served ++ [input]) (events ++ more) later)
    {inputs : List ι} {events : List ω} {state : σ}
    (hrun : run (forEach body inputs) start = ⟨events, state, .ok ()⟩) :
    holds inputs events state := by
  induction inputs using List.reverseRecOn generalizing events state with
  | nil =>
      cases hrun
      exact hstart
  | append_singleton inputs input ih =>
      rw [run_forEach_append] at hrun
      obtain ⟨front, middle, _, back, hfront, hback, rfl⟩ := run_bind_eq_ok hrun
      rw [forEach] at hback
      obtain ⟨more, later, _, none, hbody, hnone, rfl⟩ := run_bind_eq_ok hback
      cases hnone
      rw [List.append_nil]
      exact hstep _ _ _ _ _ _ (ih hfront) hbody

/-- What is shown by every step, failed ones included, and does not depend on what
comes in later is shown by a whole run. -/
theorem forEach_shows {body : ι → Traced σ ω ε Unit} (holds : List ι → List ω → σ → Prop)
    (shows : List ι → List ω → Prop)
    (hshows : ∀ served events state, holds served events state → shows served events)
    (hmono : ∀ served events later, shows served events → shows (served ++ later) events)
    (hstep : ∀ served events state input, holds served events state →
      shows (served ++ [input]) (events ++ (run (body input) state).events) ∧
        ((run (body input) state).outcome = .ok () →
          holds (served ++ [input]) (events ++ (run (body input) state).events)
            (run (body input) state).state))
    {served : List ι} {events : List ω} {state : σ} (hstart : holds served events state)
    (inputs : List ι) :
    shows (served ++ inputs) (events ++ (run (forEach body inputs) state).events) := by
  induction inputs generalizing served events state with
  | nil =>
      rw [run_forEach_nil, List.append_nil, List.append_nil]
      exact hshows _ _ _ hstart
  | cons input inputs ih =>
      obtain ⟨hshown, hnext⟩ := hstep _ _ _ input hstart
      rw [List.append_cons, forEach, run_bind]
      rcases hrun : run (body input) state with ⟨more, later, value | error | _⟩
      · rw [hrun] at hnext
        have hlater := ih (hnext rfl)
        rw [List.append_assoc events] at hlater
        exact hlater
      · rw [hrun] at hshown
        exact hmono _ _ _ hshown
      · rw [hrun] at hshown
        exact hmono _ _ _ hshown

/-- All events, the final state and any error are of a given kind. -/
structure Within (event : ω → Prop) (kept : σ → Prop) (error : ε → Prop)
    (r : Ran σ ω ε α) : Prop where
  events : ∀ e ∈ r.events, event e
  state : kept r.state
  failure : ∀ e, r.outcome = .err e → error e

section Within

variable {event : ω → Prop} {kept : σ → Prop} {error : ε → Prop} {state : σ}

theorem Within.bind {code : Traced σ ω ε α} {next : α → Traced σ ω ε β}
    (hcode : Within event kept error (run code state))
    (hnext : ∀ value later, (run code state).outcome = .ok value → kept later →
      Within event kept error (run (next value) later)) :
    Within event kept error (run (code >>= next) state) := by
  rw [run_bind]
  rcases hrun : run code state with ⟨events, later, value | failure | _⟩
  · rw [hrun] at hcode hnext
    have hlater := hnext value later rfl hcode.state
    constructor
    · intro e hmem
      rcases List.mem_append.mp hmem with hfirst | hsecond
      · exact hcode.events e hfirst
      · exact hlater.events e hsecond
    · exact hlater.state
    · exact hlater.failure
  · rw [hrun] at hcode
    refine ⟨hcode.events, hcode.state, ?_⟩
    intro e heq
    cases heq
    exact hcode.failure failure rfl
  · rw [hrun] at hcode
    refine ⟨hcode.events, hcode.state, ?_⟩
    intro e heq
    cases heq

theorem within_pure (value : α) (hkept : kept state) :
    Within event kept error (run (pure value : Traced σ ω ε α) state) := by
  refine ⟨?_, hkept, ?_⟩
  · intro e hmem
    cases hmem
  · intro e heq
    cases heq

theorem within_emit {e : ω} (hkept : kept state) (hevent : event e) :
    Within event kept error (run (emit e : Traced σ ω ε Unit) state) := by
  refine ⟨?_, hkept, ?_⟩
  · intro other hmem
    rw [List.mem_singleton.mp hmem]
    exact hevent
  · intro other heq
    cases heq

theorem within_modifyState {change : σ → σ} (hkept : kept (change state)) :
    Within event kept error (run (modifyState change : Traced σ ω ε Unit) state) := by
  refine ⟨?_, hkept, ?_⟩
  · intro e hmem
    cases hmem
  · intro e heq
    cases heq

theorem within_lift {result : Outcome ε α} (hkept : kept state)
    (hfailure : ∀ e, result = .err e → error e) :
    Within event kept error (run (lift result : Traced σ ω ε α) state) := by
  refine ⟨?_, hkept, hfailure⟩
  intro e hmem
  cases hmem

end Within

/-- All events that code emits, from any state, are of a given kind. -/
def Emits (event : ω → Prop) (code : Traced σ ω ε α) : Prop :=
  ∀ state, ∀ e ∈ (run code state).events, event e

section Emits

variable {event : ω → Prop}

theorem Emits.bind {code : Traced σ ω ε α} {next : α → Traced σ ω ε β} (hcode : Emits event code)
    (hnext : ∀ value, Emits event (next value)) : Emits event (code >>= next) := by
  intro state e hmem
  have hfirst := hcode state
  rw [run_bind] at hmem
  rcases hrun : run code state with ⟨events, later, value | error | _⟩
  · rw [hrun] at hmem hfirst
    rcases List.mem_append.mp hmem with hevents | hevents
    · exact hfirst e hevents
    · exact hnext value later e hevents
  · rw [hrun] at hmem hfirst
    exact hfirst e hmem
  · rw [hrun] at hmem hfirst
    exact hfirst e hmem

theorem emits_pure (value : α) : Emits event (pure value : Traced σ ω ε α) :=
  fun _ => List.forall_mem_nil _

theorem emits_lift (result : Outcome ε α) : Emits event (lift result : Traced σ ω ε α) :=
  fun _ => List.forall_mem_nil _

theorem emits_getState : Emits event (getState : Traced σ ω ε σ) :=
  fun _ => List.forall_mem_nil _

theorem emits_modifyState (change : σ → σ) :
    Emits event (modifyState change : Traced σ ω ε Unit) :=
  fun _ => List.forall_mem_nil _

theorem emits_emit {e : ω} (hevent : event e) :
    Emits event (emit e : Traced σ ω ε Unit) :=
  fun _ => List.forall_mem_singleton.mpr hevent

end Emits

end SwiftSsh.EventProgram
