import SwiftSsh.ByteWords
import SwiftSsh.RustOutcome

/-!
Readers of byte strings: which bytes a reader takes for a value, and which bytes it has
taken when it returns one.
-/

namespace SwiftSsh.ReaderLaws

open SwiftSsh.ByteWords
open SwiftSsh.RustOutcome

variable {ε α β γ : Type}

/-- A reader takes bytes off the front of its input. -/
abbrev Reader (ε : Type) := StateT Bytes (Outcome ε)

/-- These bytes are read as this value, whatever follows them. -/
def Reads (reader : Reader ε α) (bytes : Bytes) (value : α) : Prop :=
  ∀ rest, reader (bytes ++ rest) = .ok (value, rest)

theorem Reads.pure (value : α) : Reads (pure value : Reader ε α) [] value :=
  fun _ => rfl

theorem Reads.bind {reader : Reader ε α} {next : α → Reader ε β} {bytes more : Bytes}
    {value : α} {result : β} (hreader : Reads reader bytes value)
    (hnext : Reads (next value) more result) : Reads (reader >>= next) (bytes ++ more) result := by
  intro rest
  change (reader (bytes ++ more ++ rest) >>= fun p => next p.1 p.2) = _
  rw [List.append_assoc, hreader, Outcome.ok_bind]
  exact hnext rest

theorem Reads.map {reader : Reader ε α} {bytes : Bytes} {value : α} (f : α → β)
    (hreader : Reads reader bytes value) :
    Reads (reader >>= fun value => Pure.pure (f value)) bytes (f value) := by
  intro rest
  change (reader (bytes ++ rest) >>= fun p => Outcome.ok (f p.1, p.2)) = _
  rw [hreader, Outcome.ok_bind]

/-- Whenever the reader returns a value, the bytes it has taken for it are in the given
relation to it. -/
def Accepts (reader : Reader ε α) (grammar : α → Bytes → Prop) : Prop :=
  ∀ input value rest, reader input = .ok (value, rest) →
    ∃ bytes, input = bytes ++ rest ∧ grammar value bytes

theorem Accepts.pure {grammar : α → Bytes → Prop} {value : α} (hvalue : grammar value []) :
    Accepts (pure value : Reader ε α) grammar := by
  intro input result rest hread
  cases hread
  exact ⟨[], rfl, hvalue⟩

theorem Accepts.fail {error : ε} (grammar : α → Bytes → Prop) :
    Accepts (fun _ => .err error : Reader ε α) grammar := by
  intro input value rest hread
  cases hread

/-- What follows a reader completes the bytes that the reader has taken. -/
theorem Accepts.bind {reader : Reader ε α} {next : α → Reader ε β}
    {grammar : α → Bytes → Prop} {whole : β → Bytes → Prop} (hreader : Accepts reader grammar)
    (hnext : ∀ value, Accepts (next value) fun result bytes =>
      ∀ first, grammar value first → whole result (first ++ bytes)) :
    Accepts (reader >>= next) whole := by
  intro input result rest hread
  obtain ⟨⟨value, middle⟩, hfirst, hsecond⟩ := Outcome.bind_eq_ok hread
  obtain ⟨first, rfl, hvalue⟩ := hreader input value middle hfirst
  obtain ⟨second, rfl, hresult⟩ := hnext value middle result rest hsecond
  exact ⟨first ++ second, (List.append_assoc ..).symm, hresult first hvalue⟩

theorem Accepts.mono {reader : Reader ε α} {grammar wider : α → Bytes → Prop}
    (hreader : Accepts reader grammar)
    (hwider : ∀ value bytes, grammar value bytes → wider value bytes) : Accepts reader wider := by
  intro input value rest hread
  obtain ⟨bytes, hinput, hvalue⟩ := hreader input value rest hread
  exact ⟨bytes, hinput, hwider value bytes hvalue⟩

/-- Read a number of values one after another. -/
def readMany (reader : Reader ε α) : Nat → Reader ε (List α)
  | 0 => pure []
  | count + 1 => do
      let value ← reader
      let values ← readMany reader count
      return value :: values

theorem reads_readMany {reader : Reader ε α} {write : γ → Bytes} {valueOf : γ → α}
    {items : List γ} (hitems : ∀ item ∈ items, Reads reader (write item) (valueOf item)) :
    Reads (readMany reader items.length) (items.flatMap write) (items.map valueOf) := by
  induction items with
  | nil => exact Reads.pure []
  | cons item items ih =>
      obtain ⟨hitem, hrest⟩ := List.forall_mem_cons.mp hitems
      exact hitem.bind ((ih hrest).map _)

end SwiftSsh.ReaderLaws
