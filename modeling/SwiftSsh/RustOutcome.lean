import Mathlib.Tactic.TypeStar

/-!
Results of fallible code that may also panic. The three constructors are kept
apart so that the absence of panics is a statement about the code and not a
property of the result type.
-/

namespace SwiftSsh.RustOutcome

/-- What a call returning a result type can end with. -/
inductive Outcome (ε α : Type) where
  | ok (value : α)
  | err (error : ε)
  | panic
  deriving DecidableEq, Repr

namespace Outcome

variable {ε α β : Type}

/-- Sequencing with early return on errors and panics. -/
def andThen : Outcome ε α → (α → Outcome ε β) → Outcome ε β
  | ok value, next => next value
  | err error, _ => err error
  | panic, _ => panic

instance : Monad (Outcome ε) where
  pure := ok
  bind := andThen

@[simp] theorem pure_eq_ok (value : α) : (pure value : Outcome ε α) = ok value :=
  rfl

@[simp] theorem ok_bind (value : α) (next : α → Outcome ε β) :
    (ok value >>= next) = next value :=
  rfl

@[simp] theorem err_bind (error : ε) (next : α → Outcome ε β) :
    (err error >>= next) = err error :=
  rfl

@[simp] theorem panic_bind (next : α → Outcome ε β) :
    ((panic : Outcome ε α) >>= next) = panic :=
  rfl

theorem bind_eq_ok {x : Outcome ε α} {next : α → Outcome ε β} {result : β}
    (hok : (x >>= next) = ok result) : ∃ value, x = ok value ∧ next value = ok result := by
  cases x with
  | ok value => exact ⟨value, rfl, hok⟩
  | err error => cases hok
  | panic => cases hok

theorem bind_ne_panic {x : Outcome ε α} {next : α → Outcome ε β}
    (hx : x ≠ panic) (hnext : ∀ value, x = ok value → next value ≠ panic) :
    (x >>= next) ≠ panic := by
  cases x with
  | ok value => exact hnext value rfl
  | err error => simp
  | panic => exact absurd rfl hx

/-- The value of a successful call. -/
def toOption : Outcome ε α → Option α
  | ok value => some value
  | err _ => none
  | panic => none

end Outcome

/-- Unsigned subtraction. A debug build panics below zero; a release build
wraps to a value near the top of the machine word. -/
def checkedSub {ε : Type} (minuend subtrahend : Nat) : Outcome ε Nat :=
  if subtrahend ≤ minuend then .ok (minuend - subtrahend) else .panic

theorem checkedSub_of_le {ε : Type} {minuend subtrahend : Nat}
    (hle : subtrahend ≤ minuend) :
    (checkedSub minuend subtrahend : Outcome ε Nat) = .ok (minuend - subtrahend) := by
  simp [checkedSub, hle]

theorem checkedSub_of_lt {ε : Type} {minuend subtrahend : Nat}
    (hlt : minuend < subtrahend) :
    (checkedSub minuend subtrahend : Outcome ε Nat) = .panic := by
  simp [checkedSub, Nat.not_le.mpr hlt]

end SwiftSsh.RustOutcome
