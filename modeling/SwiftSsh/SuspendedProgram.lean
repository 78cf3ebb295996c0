import SwiftSsh.ByteProgram

/-!
Programs that wait for input, fed one byte at a time. A suspended program may be
dropped; the bytes it has taken and its state updates are then not undone.
-/

namespace SwiftSsh.SuspendedProgram

open SwiftSsh.ByteWords
open SwiftSsh.RustOutcome
open SwiftSsh.ByteProgram
open SwiftSsh.ByteProgram.Program

variable {σ ε α : Type}

/-- Run a program to its next suspension point: the program there, the state and
the output up to it. -/
def poll : Program σ ε α → σ → Program σ ε α × σ × Bytes
  | .done result, state => (.done result, state, [])
  | .read count eof next, state =>
      if count = 0 then poll (next []) state else (.read count eof next, state, [])
  | .write bytes next, state =>
      let r := poll next state
      (r.1, r.2.1, bytes ++ r.2.2)
  | .get next, state => poll (next state) state
  | .set state next, _ => poll next state

/-- A program at a suspension point, with the bytes already taken for the read
it waits for and the number of bytes taken since its start. -/
structure Suspended (σ ε α : Type) where
  program : Program σ ε α
  got : Bytes
  consumed : Nat

/-- The read of the program has not been completed. -/
def Suspended.Waiting (pending : Suspended σ ε α) : Prop :=
  ∃ count eof next, pending.program = .read count eof next ∧ pending.got.length < count

/-- What the program would still do if all its input were there. -/
def Suspended.residual (pending : Suspended σ ε α) (state : σ) (input : Bytes) :
    Run σ ε α :=
  run pending.program state (pending.got ++ input)

/-- Take one byte of input. -/
def Suspended.feed (pending : Suspended σ ε α) (state : σ) (byte : UInt8) :
    Suspended σ ε α × σ × Bytes :=
  match pending.program with
  | .read count _ next =>
      if (pending.got ++ [byte]).length < count then
        (⟨pending.program, pending.got ++ [byte], pending.consumed + 1⟩, state, [])
      else
        let r := poll (next (pending.got ++ [byte])) state
        (⟨r.1, [], pending.consumed + 1⟩, r.2)
  | _ => (pending, state, [])

theorem run_poll (p : Program σ ε α) (state : σ) (input : Bytes) :
    run p state input =
      (run (poll p state).1 (poll p state).2.1 input).after (poll p state).2.2 := by
  induction p generalizing state with
  | done result => simp [poll]
  | read count eof next ih =>
      rw [poll]
      split
      · rename_i hzero
        subst hzero
        rw [run, if_pos (Nat.zero_le _)]
        exact ih [] state
      · simp
  | write bytes next ih =>
      rw [run, ih state, Run.after_after]
      rfl
  | get next ih => exact ih state state
  | set newState next ih => exact ih newState

theorem poll_done_or_waiting (p : Program σ ε α) (state : σ) (consumed : Nat) :
    (∃ result, (poll p state).1 = .done result) ∨
      Suspended.Waiting ⟨(poll p state).1, [], consumed⟩ := by
  induction p generalizing state with
  | done result => exact Or.inl ⟨result, rfl⟩
  | read count eof next ih =>
      rw [poll]
      split
      · exact ih [] state
      · exact Or.inr ⟨count, eof, next, rfl, Nat.pos_of_ne_zero (by assumption)⟩
  | write bytes next ih => exact ih state
  | get next ih => exact ih state state
  | set newState next ih => exact ih newState

/-- Taking a byte does not change what the program does with its whole input. -/
theorem residual_feed {pending : Suspended σ ε α} (hwaiting : pending.Waiting) (state : σ)
    (byte : UInt8) (input : Bytes) :
    pending.residual state (byte :: input) =
      ((pending.feed state byte).1.residual (pending.feed state byte).2.1 input).after
        (pending.feed state byte).2.2 := by
  obtain ⟨program, got, consumed⟩ := pending
  obtain ⟨count, eof, next, hprogram, hgot⟩ := hwaiting
  dsimp only at hprogram hgot
  subst hprogram
  have hsplit : got ++ byte :: input = (got ++ [byte]) ++ input := by simp
  rw [Suspended.feed]
  dsimp only
  split
  · rw [Run.after_nil, Suspended.residual, hsplit]
    rfl
  · have hfull : (got ++ [byte]).length = count := by
      simp only [List.length_append, List.length_singleton] at *
      omega
    rw [Suspended.residual, hsplit]
    dsimp only
    rw [run, if_pos (by rw [List.length_append]; omega), ← hfull, List.take_left,
      List.drop_left, run_poll]
    rfl

theorem feed_done_or_waiting {pending : Suspended σ ε α} (hwaiting : pending.Waiting)
    (state : σ) (byte : UInt8) :
    ((∃ result, (pending.feed state byte).1.program = .done result) ∧
        (pending.feed state byte).1.got = []) ∨
      (pending.feed state byte).1.Waiting := by
  obtain ⟨program, got, consumed⟩ := pending
  obtain ⟨count, eof, next, hprogram, hgot⟩ := hwaiting
  dsimp only at hprogram hgot
  subst hprogram
  rw [Suspended.feed]
  dsimp only
  split
  · rename_i hshort
    exact Or.inr ⟨count, eof, next, rfl, hshort⟩
  · rcases poll_done_or_waiting (next (got ++ [byte])) state (consumed + 1) with hdone | hnext
    · exact Or.inl ⟨hdone, rfl⟩
    · exact Or.inr hnext

theorem feed_consumed {pending : Suspended σ ε α} (hwaiting : pending.Waiting) (state : σ)
    (byte : UInt8) :
    (pending.feed state byte).1.consumed = pending.consumed + 1 := by
  obtain ⟨program, got, consumed⟩ := pending
  obtain ⟨count, eof, next, hprogram, hgot⟩ := hwaiting
  dsimp only at hprogram
  subst hprogram
  rw [Suspended.feed]
  dsimp only
  split <;> rfl

end SwiftSsh.SuspendedProgram
