import SwiftSsh.ByteWords
import SwiftSsh.RustOutcome

/-!
Asynchronous code over a byte stream, as a tree of its suspension points.

A program reads exact byte counts from its input, writes bytes to its output
and keeps mutable state. State updates are nodes of their own, so that the
state left behind by a program that is dropped at a suspension point is the
state after the updates it has already performed.
-/

namespace SwiftSsh.ByteProgram

open SwiftSsh.ByteWords
open SwiftSsh.RustOutcome

/-- Programs with state `σ`, errors `ε` and result `α`. A read allocates a
buffer of the given size and waits until it is full; `eof` is the error
reported when the input ends first. -/
inductive Program (σ ε α : Type) : Type where
  | done (result : Outcome ε α)
  | read (count : Nat) (eof : ε) (next : Bytes → Program σ ε α)
  | write (bytes : Bytes) (next : Program σ ε α)
  | get (next : σ → Program σ ε α)
  | set (state : σ) (next : Program σ ε α)

namespace Program

variable {σ ε α β : Type}

/-- Run one program after another. An error or a panic ends both. -/
def andThen : Program σ ε α → (α → Program σ ε β) → Program σ ε β
  | done (.ok value), f => f value
  | done (.err error), _ => done (.err error)
  | done .panic, _ => done .panic
  | read count eof next, f => read count eof fun bytes => andThen (next bytes) f
  | write bytes next, f => write bytes (andThen next f)
  | get next, f => get fun state => andThen (next state) f
  | set state next, f => set state (andThen next f)

instance : Monad (Program σ ε) where
  pure value := done (.ok value)
  bind := andThen

theorem bind_pure_eq (p : Program σ ε α) : (p >>= fun value => pure value) = p := by
  change andThen p _ = p
  induction p with
  | done result => cases result <;> rfl
  | read count eof next ih => exact congrArg _ (funext ih)
  | write bytes next ih => exact congrArg _ ih
  | get next ih => exact congrArg _ (funext ih)
  | set state next ih => exact congrArg _ ih

/-- Read exactly `count` bytes into a fresh buffer. -/
def readExact (count : Nat) (eof : ε) : Program σ ε Bytes :=
  read count eof pure

/-- `write_all` on the socket. -/
def writeAll (bytes : Bytes) : Program σ ε Unit :=
  write bytes (pure ())

/-- Read the state of the keys. -/
def getState : Program σ ε σ :=
  get pure

/-- Replace the state of the keys. -/
def setState (state : σ) : Program σ ε Unit :=
  set state (pure ())

/-- Code without input or output. -/
def lift (result : Outcome ε α) : Program σ ε α :=
  done result

/-- End with an error. -/
def fail (error : ε) : Program σ ε α :=
  done (.err error)

/-- Fail unless a condition holds. -/
def require (condition : Bool) (error : ε) : Program σ ε Unit :=
  if condition then pure () else fail error

/-- What a complete execution leaves: its result, the final state, the input
it did not consume and the output it produced. -/
structure Run (σ ε α : Type) where
  outcome : Outcome ε α
  state : σ
  rest : Bytes
  written : Bytes
  deriving DecidableEq

/-- Output produced before the recorded execution. -/
def Run.after (bytes : Bytes) (r : Run σ ε α) : Run σ ε α :=
  { r with written := bytes ++ r.written }

@[simp] theorem Run.after_nil (r : Run σ ε α) : r.after [] = r := by
  simp [Run.after]

@[simp] theorem Run.after_after (first second : Bytes) (r : Run σ ε α) :
    (r.after second).after first = r.after (first ++ second) := by
  simp [Run.after]

/-- Execution against a finite input that ends after its last byte. -/
def run : Program σ ε α → σ → Bytes → Run σ ε α
  | done result, state, input => ⟨result, state, input, []⟩
  | read count eof next, state, input =>
      if count ≤ input.length then
        run (next (input.take count)) state (input.drop count)
      else ⟨.err eof, state, [], []⟩
  | write bytes next, state, input => (run next state input).after bytes
  | get next, state, input => run (next state) state input
  | set state next, _, input => run next state input

/-- Continue an execution with the program chosen by its result. -/
def Run.andThen (r : Run σ ε α) (f : α → Program σ ε β) : Run σ ε β :=
  match r.outcome with
  | .ok value => (run (f value) r.state r.rest).after r.written
  | .err error => ⟨.err error, r.state, r.rest, r.written⟩
  | .panic => ⟨.panic, r.state, r.rest, r.written⟩

theorem Run.andThen_after (bytes : Bytes) (r : Run σ ε α)
    (f : α → Program σ ε β) :
    (r.after bytes).andThen f = (r.andThen f).after bytes := by
  obtain ⟨outcome, state, rest, written⟩ := r
  cases outcome <;> simp [Run.andThen, Run.after]

theorem run_bind (p : Program σ ε α) (f : α → Program σ ε β) (state : σ)
    (input : Bytes) :
    run (p >>= f) state input = (run p state input).andThen f := by
  change run (andThen p f) state input = _
  induction p generalizing state input with
  | done result => cases result <;> simp [andThen, run, Run.andThen]
  | read count eof next ih =>
      simp only [andThen, run]
      split
      · exact ih _ state _
      · rfl
  | write bytes next ih =>
      simp only [andThen, run]
      rw [ih, Run.andThen_after]
  | get next ih => exact ih state state input
  | set newState next ih => exact ih newState input

@[simp] theorem run_pure (value : α) (state : σ) (input : Bytes) :
    run (pure value : Program σ ε α) state input = ⟨.ok value, state, input, []⟩ :=
  rfl

@[simp] theorem run_lift (result : Outcome ε α) (state : σ) (input : Bytes) :
    run (lift result : Program σ ε α) state input = ⟨result, state, input, []⟩ :=
  rfl

@[simp] theorem run_fail (error : ε) (state : σ) (input : Bytes) :
    run (fail error : Program σ ε α) state input = ⟨.err error, state, input, []⟩ :=
  rfl

theorem run_require {condition : Bool} (error : ε) (state : σ) (input : Bytes)
    (hcondition : condition = true) :
    run (require condition error : Program σ ε Unit) state input =
      ⟨.ok (), state, input, []⟩ := by
  rw [require, if_pos hcondition, run_pure]

@[simp] theorem run_writeAll (bytes : Bytes) (state : σ) (input : Bytes) :
    run (writeAll bytes : Program σ ε Unit) state input =
      ⟨.ok (), state, input, bytes⟩ := by
  change (run (pure ()) state input).after bytes = _
  simp [Run.after]

@[simp] theorem run_getState_bind (f : σ → Program σ ε β) (state : σ)
    (input : Bytes) :
    run (getState >>= f) state input = run (f state) state input :=
  rfl

@[simp] theorem run_setState_bind (newState : σ) (f : Unit → Program σ ε β)
    (state : σ) (input : Bytes) :
    run (setState newState >>= f) state input = run (f ()) newState input :=
  rfl

@[simp] theorem run_writeAll_bind (bytes : Bytes) (f : Unit → Program σ ε β)
    (state : σ) (input : Bytes) :
    run (writeAll bytes >>= f) state input = (run (f ()) state input).after bytes :=
  rfl

theorem run_readExact_bind (count : Nat) (eof : ε) (f : Bytes → Program σ ε β)
    (state : σ) (input : Bytes) :
    run (readExact count eof >>= f) state input =
      if count ≤ input.length then
        run (f (input.take count)) state (input.drop count)
      else ⟨.err eof, state, [], []⟩ :=
  rfl

theorem run_readExact_append (count : Nat) (eof : ε) (f : Bytes → Program σ ε β)
    (state : σ) (bytes rest : Bytes) (hlength : bytes.length = count) :
    run (readExact count eof >>= f) state (bytes ++ rest) = run (f bytes) state rest := by
  rw [run_readExact_bind, if_pos (by simp [← hlength])]
  simp [← hlength]

theorem run_readExact_short (count : Nat) (eof : ε) (f : Bytes → Program σ ε β)
    (state : σ) {input : Bytes} (hshort : input.length < count) :
    run (readExact count eof >>= f) state input = ⟨.err eof, state, [], []⟩ := by
  rw [run_readExact_bind, if_neg (by omega)]

@[simp] theorem run_lift_bind (result : Outcome ε α) (f : α → Program σ ε β)
    (state : σ) (input : Bytes) :
    run (lift result >>= f) state input =
      match result with
      | .ok value => run (f value) state input
      | .err error => ⟨.err error, state, input, []⟩
      | .panic => ⟨.panic, state, input, []⟩ := by
  rw [run_bind]
  cases result <;> simp [Run.andThen]

theorem run_bind_ok {p : Program σ ε α} {f : α → Program σ ε β} {state state' : σ}
    {input rest written : Bytes} {value : α}
    (hrun : run p state input = ⟨.ok value, state', rest, written⟩) :
    run (p >>= f) state input = (run (f value) state' rest).after written := by
  rw [run_bind, hrun]
  rfl

theorem Run.after_eq_iff {bytes : Bytes} {r : Run σ ε α} {outcome : Outcome ε α} {state : σ}
    {rest written : Bytes} :
    r.after bytes = ⟨outcome, state, rest, written⟩ ↔
      ∃ more, r = ⟨outcome, state, rest, more⟩ ∧ written = bytes ++ more := by
  constructor
  · rintro ⟨⟩
    exact ⟨r.written, rfl, rfl⟩
  · rintro ⟨more, rfl, rfl⟩
    rfl

/-- A sequence completes exactly when its parts do, one after the other. -/
theorem run_bind_completes_iff {p : Program σ ε α} {f : α → Program σ ε β} {state later : σ}
    {input rest written : Bytes} {value : β} :
    run (p >>= f) state input = ⟨.ok value, later, rest, written⟩ ↔
      ∃ first middle between sent more, run p state input = ⟨.ok first, middle, between, sent⟩ ∧
        run (f first) middle between = ⟨.ok value, later, rest, more⟩ ∧
        written = sent ++ more := by
  constructor
  · intro hrun
    rw [run_bind] at hrun
    rcases hfirst : run p state input with ⟨first | error | _, middle, between, sent⟩
    · rw [hfirst, Run.andThen, Run.after_eq_iff] at hrun
      obtain ⟨more, hsecond, rfl⟩ := hrun
      exact ⟨first, middle, between, sent, more, rfl, hsecond, rfl⟩
    · rw [hfirst] at hrun
      cases hrun
    · rw [hfirst] at hrun
      cases hrun
  · rintro ⟨first, middle, between, sent, more, hfirst, hsecond, rfl⟩
    rw [run_bind_ok hfirst, hsecond]
    rfl

theorem run_bind_eq_ok_iff {p : Program σ ε α} {f : α → Program σ ε β} {state later : σ}
    {input rest : Bytes} {value : β} :
    run (p >>= f) state input = ⟨.ok value, later, rest, []⟩ ↔
      ∃ first middle between, run p state input = ⟨.ok first, middle, between, []⟩ ∧
        run (f first) middle between = ⟨.ok value, later, rest, []⟩ := by
  rw [run_bind_completes_iff]
  constructor
  · rintro ⟨first, middle, between, sent, more, hfirst, hsecond, hwritten⟩
    obtain ⟨rfl, rfl⟩ := List.append_eq_nil_iff.mp hwritten.symm
    exact ⟨first, middle, between, hfirst, hsecond⟩
  · rintro ⟨first, middle, between, hfirst, hsecond⟩
    exact ⟨first, middle, between, [], [], hfirst, hsecond, rfl⟩

theorem run_bind_eq_ok {p : Program σ ε α} {f : α → Program σ ε β} {state : σ}
    {input : Bytes} {value : β} (hok : (run (p >>= f) state input).outcome = .ok value) :
    ∃ first, (run p state input).outcome = .ok first ∧
      (run (f first) (run p state input).state (run p state input).rest).outcome =
        .ok value := by
  rw [run_bind, Run.andThen] at hok
  split at hok
  · rename_i first hfirst
    exact ⟨first, hfirst, hok⟩
  · simp at hok
  · simp at hok

/-- Every successful execution from a state with `pre` ends with `post`. -/
def Ensures (p : Program σ ε α) (pre : σ → Prop) (post : α → σ → Prop) : Prop :=
  ∀ state input value, pre state → (run p state input).outcome = .ok value →
    post value (run p state input).state

theorem Ensures.bind {p : Program σ ε α} {f : α → Program σ ε β} {pre : σ → Prop}
    {mid : α → σ → Prop} {post : β → σ → Prop} (hp : Ensures p pre mid)
    (hf : ∀ value, Ensures (f value) (mid value) post) : Ensures (p >>= f) pre post := by
  intro state input value hpre hok
  rw [run_bind, Run.andThen] at hok ⊢
  split at hok
  · rename_i first hfirst
    exact hf first _ _ value (hp state input first hpre hfirst) hok
  · simp at hok
  · simp at hok

theorem Ensures.pure {pre : σ → Prop} {post : α → σ → Prop} (value : α)
    (hpost : ∀ state, pre state → post value state) :
    Ensures (Pure.pure value : Program σ ε α) pre post := by
  intro state input value' hpre hok
  obtain rfl : value = value' := by simpa using hok
  exact hpost state hpre

theorem Ensures.lift {pre : σ → Prop} {post : α → σ → Prop} (result : Outcome ε α)
    (hpost : ∀ value state, pre state → post value state) :
    Ensures (Program.lift result : Program σ ε α) pre post := by
  intro state input value hpre _
  exact hpost value state hpre

theorem Ensures.require {pre : σ → Prop} (condition : Bool) (error : ε) :
    Ensures (Program.require condition error : Program σ ε Unit) pre
      (fun _ => pre) := by
  intro state input value hpre hok
  rw [Program.require] at hok ⊢
  split at hok
  · rw [if_pos (by assumption)]
    exact hpre
  · simp at hok

/-- The sizes of the buffers an execution allocates for its reads. -/
def bufferSizes : Program σ ε α → σ → Bytes → List Nat
  | done _, _, _ => []
  | read count _ next, state, input =>
      if count ≤ input.length then
        count :: bufferSizes (next (input.take count)) state (input.drop count)
      else [count]
  | write _ next, state, input => bufferSizes next state input
  | get next, state, input => bufferSizes (next state) state input
  | set state next, _, input => bufferSizes next state input

theorem bufferSizes_bind (p : Program σ ε α) (f : α → Program σ ε β) (state : σ)
    (input : Bytes) :
    bufferSizes (p >>= f) state input =
      bufferSizes p state input ++
        match (run p state input).outcome with
        | .ok value =>
            bufferSizes (f value) (run p state input).state (run p state input).rest
        | _ => [] := by
  change bufferSizes (andThen p f) state input = _
  induction p generalizing state input with
  | done result => cases result <;> simp [andThen, run, bufferSizes]
  | read count eof next ih =>
      simp only [andThen, run, bufferSizes]
      split
      · rw [ih, List.cons_append]
      · rfl
  | write bytes next ih => exact ih state input
  | get next ih => exact ih state state input
  | set newState next ih => exact ih newState input

theorem run_bind_ne_panic {p : Program σ ε α} {f : α → Program σ ε β} {state : σ}
    {input : Bytes} (hp : (run p state input).outcome ≠ .panic)
    (hf : ∀ value state' input', (run (f value) state' input').outcome ≠ .panic) :
    (run (p >>= f) state input).outcome ≠ .panic := by
  rw [run_bind, Run.andThen]
  split
  · exact hf _ _ _
  · simp
  · contradiction

theorem run_bind_panic {p : Program σ ε α} {f : α → Program σ ε β} {state : σ}
    {input : Bytes} (hp : (run p state input).outcome = .panic) :
    (run (p >>= f) state input).outcome = .panic := by
  rw [run_bind, Run.andThen, hp]

theorem bufferSizes_bind_le {p : Program σ ε α} {f : α → Program σ ε β} {state : σ}
    {input : Bytes} {bound : Nat}
    (hp : ∀ size ∈ bufferSizes p state input, size ≤ bound)
    (hf : ∀ value state' input', ∀ size ∈ bufferSizes (f value) state' input',
      size ≤ bound) :
    ∀ size ∈ bufferSizes (p >>= f) state input, size ≤ bound := by
  intro size hsize
  rw [bufferSizes_bind, List.mem_append] at hsize
  rcases hsize with hsize | hsize
  · exact hp size hsize
  · split at hsize
    · exact hf _ _ _ size hsize
    · simp at hsize

end Program

end SwiftSsh.ByteProgram
