import SwiftSsh.RunHistory

/-!
Credit for sending: a receiver announces how much it takes and adds to it later,
and a sender must not use more at any moment.
-/

namespace SwiftSsh.CreditLedger

open SwiftSsh.RunHistory

/-- The credit of one channel: the window and the packet size it was opened with, the credit
added since, and what was carried. -/
structure Account where
  window : Nat
  limit : Nat
  added : Nat
  carried : Nat
  largest : Nat

namespace Account

/-- The account of a channel that has just been opened. -/
def new (window limit : Nat) : Account :=
  ⟨window, limit, 0, 0, 0⟩

/-- More credit. -/
def widen (account : Account) (amount : Nat) : Account :=
  { account with added := account.added + amount }

/-- Data that was sent, whether there was credit for it or not. -/
def carry (account : Account) (size : Nat) : Account :=
  { account with
    carried := account.carried + size
    largest := max account.largest size }

/-- No more was sent than was allowed, in all and at once. -/
def Covered (account : Account) : Prop :=
  account.carried ≤ account.window + account.added ∧ account.largest ≤ account.limit

theorem covered_new (window limit : Nat) : (new window limit).Covered :=
  ⟨Nat.zero_le _, Nat.zero_le _⟩

theorem Covered.widen {account : Account} (hcovered : account.Covered) (amount : Nat) :
    (account.widen amount).Covered := by
  obtain ⟨htotal, hlargest⟩ := hcovered
  refine ⟨?_, hlargest⟩
  change account.carried ≤ account.window + (account.added + amount)
  omega

end Account

variable {κ σ ι : Type}

/-- An entry of a ledger: a channel is opened, gets more credit or carries data. -/
inductive Entry (κ : Type) where
  | opened (key : κ) (window limit : Nat)
  | widened (key : κ) (amount : Nat)
  | carried (key : κ) (size : Nat)

variable [DecidableEq κ]

/-- What an entry changes in the account of a channel. -/
def accountStep (key : κ) (current : Option Account) : Entry κ → Option Account
  | .opened other window limit =>
      if other = key then some (.new window limit) else current
  | .widened other amount =>
      if other = key then current.map fun account => account.widen amount else current
  | .carried other size =>
      if other = key then current.map fun account => account.carry size else current

/-- The account of a channel in a ledger, if it was ever opened. -/
def accountOf (ledger : List (Entry κ)) (key : κ) : Option Account :=
  ledger.foldl (accountStep key) none

/-- No channel has carried more than its credit. -/
def AllCovered (ledger : List (Entry κ)) : Prop :=
  ∀ key account, accountOf ledger key = some account → account.Covered

variable {ledger : List (Entry κ)}

theorem accountOf_concat (ledger : List (Entry κ)) (entry : Entry κ) (key : κ) :
    accountOf (ledger ++ [entry]) key = accountStep key (accountOf ledger key) entry := by
  rw [accountOf, List.foldl_append]
  rfl

theorem AllCovered.opened (hcovered : AllCovered ledger) (key : κ) (window limit : Nat) :
    AllCovered (ledger ++ [.opened key window limit]) := by
  intro other account haccount
  rw [accountOf_concat, accountStep] at haccount
  split at haccount
  · cases haccount
    exact Account.covered_new window limit
  · exact hcovered other account haccount

theorem AllCovered.widened (hcovered : AllCovered ledger) (key : κ) (amount : Nat) :
    AllCovered (ledger ++ [.widened key amount]) := by
  intro other account haccount
  rw [accountOf_concat, accountStep] at haccount
  split at haccount
  · obtain ⟨before, hbefore, rfl⟩ := Option.map_eq_some_iff.mp haccount
    exact (hcovered other before hbefore).widen amount
  · exact hcovered other account haccount

end SwiftSsh.CreditLedger
