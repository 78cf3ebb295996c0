import Mathlib.Logic.Relation
import SwiftSsh.ByteProgram

/-!
Two programs connected by a reliable first-in first-out byte link in each
direction. Every interleaving of their steps leads to the same final state.
-/

namespace SwiftSsh.ProgramNetwork

open Relation
open SwiftSsh.ByteWords
open SwiftSsh.RustOutcome
open SwiftSsh.ByteProgram
open SwiftSsh.ByteProgram.Program

/-- One side: what it has still to do, and its state. -/
structure Endpoint (σ ε α : Type) where
  program : Program σ ε α
  state : σ

/-- One step of an endpoint with the bytes waiting for it: the endpoint, the
bytes still waiting and the bytes it sent. A read waits until its whole count
is there. -/
def Endpoint.step {σ ε α : Type} (endpoint : Endpoint σ ε α) (inbox : Bytes) :
    Option (Endpoint σ ε α × Bytes × Bytes) :=
  match endpoint.program with
  | .done _ => none
  | .read count _ next =>
      if count ≤ inbox.length then
        some (⟨next (inbox.take count), endpoint.state⟩, inbox.drop count, [])
      else none
  | .write bytes next => some (⟨next, endpoint.state⟩, inbox, bytes)
  | .get next => some (⟨next endpoint.state, endpoint.state⟩, inbox, [])
  | .set state next => some (⟨next, state⟩, inbox, [])

variable {σ ε α σ' ε' α' : Type}

/-- Two sides and the bytes in flight between them. -/
structure Network (σ ε α σ' ε' α' : Type) where
  left : Endpoint σ ε α
  right : Endpoint σ' ε' α'
  toLeft : Bytes
  toRight : Bytes

/-- One side moves; what it writes is in flight then. -/
inductive Step : Network σ ε α σ' ε' α' → Network σ ε α σ' ε' α' → Prop where
  | left {l l' : Endpoint σ ε α} {r : Endpoint σ' ε' α'}
      {toLeft toLeft' toRight sent : Bytes}
      (hstep : l.step toLeft = some (l', toLeft', sent)) :
      Step ⟨l, r, toLeft, toRight⟩ ⟨l', r, toLeft', toRight ++ sent⟩
  | right {l : Endpoint σ ε α} {r r' : Endpoint σ' ε' α'}
      {toLeft toRight toRight' sent : Bytes}
      (hstep : r.step toRight = some (r', toRight', sent)) :
      Step ⟨l, r, toLeft, toRight⟩ ⟨l, r', toLeft ++ sent, toRight'⟩

theorem step_append {e e' : Endpoint σ ε α} {inbox inbox' sent : Bytes} (more : Bytes)
    (hstep : e.step inbox = some (e', inbox', sent)) :
    e.step (inbox ++ more) = some (e', inbox' ++ more, sent) := by
  obtain ⟨program, state⟩ := e
  cases program with
  | done result => simp [Endpoint.step] at hstep
  | read count eof next =>
      simp only [Endpoint.step] at hstep ⊢
      split at hstep
      · rename_i hcount
        simp only [Option.some.injEq, Prod.mk.injEq] at hstep
        obtain ⟨rfl, rfl, rfl⟩ := hstep
        rw [if_pos (by simp; omega), List.take_append_of_le_length hcount,
          List.drop_append_of_le_length hcount]
      · simp at hstep
  | write bytes next =>
      simp only [Endpoint.step, Option.some.injEq, Prod.mk.injEq] at hstep ⊢
      obtain ⟨rfl, rfl, rfl⟩ := hstep
      exact ⟨rfl, rfl, rfl⟩
  | get next =>
      simp only [Endpoint.step, Option.some.injEq, Prod.mk.injEq] at hstep ⊢
      obtain ⟨rfl, rfl, rfl⟩ := hstep
      exact ⟨rfl, rfl, rfl⟩
  | set newState next =>
      simp only [Endpoint.step, Option.some.injEq, Prod.mk.injEq] at hstep ⊢
      obtain ⟨rfl, rfl, rfl⟩ := hstep
      exact ⟨rfl, rfl, rfl⟩

/-- Steps of one endpoint are determined; steps of different endpoints commute,
because a link is filled at one end and emptied at the other. -/
theorem step_diamond {a b c : Network σ ε α σ' ε' α'} (hab : Step a b)
    (hac : Step a c) : ∃ d, ReflGen Step b d ∧ ReflTransGen Step c d := by
  cases hab with
  | left hleft =>
      cases hac with
      | left hleft' =>
          obtain ⟨rfl, rfl, rfl⟩ : _ ∧ _ ∧ _ := by
            simpa using hleft.symm.trans hleft'
          exact ⟨_, .refl, .refl⟩
      | right hright =>
          exact ⟨_, .single (.right (step_append _ hright)),
            .single (.left (step_append _ hleft))⟩
  | right hright =>
      cases hac with
      | left hleft =>
          exact ⟨_, .single (.left (step_append _ hleft)),
            .single (.right (step_append _ hright))⟩
      | right hright' =>
          obtain ⟨rfl, rfl, rfl⟩ : _ ∧ _ ∧ _ := by
            simpa using hright.symm.trans hright'
          exact ⟨_, .refl, .refl⟩

/-- Both programs have ended. -/
def Final (net : Network σ ε α σ' ε' α') : Prop :=
  (∃ result, net.left.program = .done result) ∧
    ∃ result, net.right.program = .done result

theorem step_of_done {e : Endpoint σ ε α} {result : Outcome ε α} (inbox : Bytes)
    (hdone : e.program = .done result) : e.step inbox = none := by
  rw [Endpoint.step, hdone]

theorem not_step_of_final {a b : Network σ ε α σ' ε' α'} (hfinal : Final a) :
    ¬ Step a b := by
  obtain ⟨⟨result, hleft⟩, ⟨result', hright⟩⟩ := hfinal
  rintro (hstep | hstep)
  · rw [step_of_done _ hleft] at hstep
    simp at hstep
  · rw [step_of_done _ hright] at hstep
    simp at hstep

theorem eq_of_final_reaches {a b : Network σ ε α σ' ε' α'} (hfinal : Final a)
    (hreach : ReflTransGen Step a b) : b = a := by
  rcases ReflTransGen.cases_head hreach with heq | ⟨c, hstep, -⟩
  · exact heq.symm
  · exact absurd hstep (not_step_of_final hfinal)

/-- One complete schedule bounds all of them: whatever was reached by another
schedule still leads to its final state. -/
theorem reaches_final {start final net : Network σ ε α σ' ε' α'}
    (hschedule : ReflTransGen Step start final) (hfinal : Final final)
    (hreach : ReflTransGen Step start net) : ReflTransGen Step net final := by
  obtain ⟨d, hfinal', hnet⟩ := church_rosser
    (fun _ _ _ hab hac => step_diamond hab hac) hschedule hreach
  rw [eq_of_final_reaches hfinal hfinal'] at hnet
  exact hnet

theorem left_done_of_reaches {a b : Network σ ε α σ' ε' α'} {result : Outcome ε α}
    (hdone : a.left.program = .done result) (hreach : ReflTransGen Step a b) :
    b.left = a.left := by
  induction hreach with
  | refl => rfl
  | tail _ hstep ih =>
      rcases hstep with hstep | hstep
      · rw [step_of_done _ (ih ▸ hdone)] at hstep
        simp at hstep
      · exact ih

theorem right_done_of_reaches {a b : Network σ ε α σ' ε' α'} {result : Outcome ε' α'}
    (hdone : a.right.program = .done result) (hreach : ReflTransGen Step a b) :
    b.right = a.right := by
  induction hreach with
  | refl => rfl
  | tail _ hstep ih =>
      rcases hstep with hstep | hstep
      · exact ih
      · rw [step_of_done _ (ih ▸ hdone)] at hstep
        simp at hstep

/-- Consecutive steps of one endpoint, with the bytes they send. -/
inductive EndpointRun : Endpoint σ ε α → Bytes → Endpoint σ ε α → Bytes → Bytes → Prop where
  | refl (e : Endpoint σ ε α) (inbox : Bytes) : EndpointRun e inbox e inbox []
  | head {e e' e'' : Endpoint σ ε α} {inbox inbox' inbox'' sent sent' : Bytes}
      (hstep : e.step inbox = some (e', inbox', sent))
      (hrun : EndpointRun e' inbox' e'' inbox'' sent') :
      EndpointRun e inbox e'' inbox'' (sent ++ sent')

theorem EndpointRun.silent {e e' e'' : Endpoint σ ε α}
    {inbox inbox' inbox'' sent : Bytes} (hstep : e.step inbox = some (e', inbox', []))
    (hrun : EndpointRun e' inbox' e'' inbox'' sent) :
    EndpointRun e inbox e'' inbox'' sent :=
  .head hstep hrun

theorem endpointRun_of_run {β : Type} {p : Program σ ε β} (f : β → Program σ ε α)
    {state state' : σ} {inbox inbox' sent : Bytes} {value : β}
    (hrun : run p state inbox = ⟨.ok value, state', inbox', sent⟩) :
    EndpointRun ⟨p >>= f, state⟩ inbox ⟨f value, state'⟩ inbox' sent := by
  induction p generalizing state inbox sent with
  | done result =>
      simp only [run, Run.mk.injEq] at hrun
      obtain ⟨rfl, rfl, rfl, rfl⟩ := hrun
      exact .refl _ _
  | read count eof next ih =>
      simp only [run] at hrun
      split at hrun
      · rename_i hcount
        refine .silent ?_ (ih _ hrun)
        exact if_pos hcount
      · simp at hrun
  | write bytes next ih =>
      rcases hnext : run next state inbox with ⟨outcome, final, rest, written⟩
      simp only [run, hnext, Run.after, Run.mk.injEq] at hrun
      obtain ⟨rfl, rfl, rfl, rfl⟩ := hrun
      exact .head rfl (ih hnext)
  | get next ih =>
      refine .silent ?_ (ih state hrun)
      rfl
  | set newState next ih =>
      refine .silent ?_ (ih hrun)
      rfl

theorem endpointRun_of_run_last {p : Program σ ε α} {state state' : σ}
    {inbox inbox' sent : Bytes} {value : α}
    (hrun : run p state inbox = ⟨.ok value, state', inbox', sent⟩) :
    EndpointRun ⟨p, state⟩ inbox ⟨.done (.ok value), state'⟩ inbox' sent := by
  have hlast := endpointRun_of_run pure hrun
  rwa [bind_pure_eq] at hlast

theorem left_reaches {l l' : Endpoint σ ε α} {toLeft toLeft' sent : Bytes}
    (right : Endpoint σ' ε' α') (toRight : Bytes)
    (hrun : EndpointRun l toLeft l' toLeft' sent) :
    ReflTransGen Step ⟨l, right, toLeft, toRight⟩
      ⟨l', right, toLeft', toRight ++ sent⟩ := by
  induction hrun generalizing toRight with
  | refl e inbox =>
      rw [List.append_nil]
  | head hstep _ ih =>
      rw [← List.append_assoc]
      exact .head (.left hstep) (ih _)

theorem right_reaches {r r' : Endpoint σ' ε' α'} {toRight toRight' sent : Bytes}
    (left : Endpoint σ ε α) (toLeft : Bytes)
    (hrun : EndpointRun r toRight r' toRight' sent) :
    ReflTransGen Step ⟨left, r, toLeft, toRight⟩
      ⟨left, r', toLeft ++ sent, toRight'⟩ := by
  induction hrun generalizing toLeft with
  | refl e inbox =>
      rw [List.append_nil]
  | head hstep _ ih =>
      rw [← List.append_assoc]
      exact .head (.right hstep) (ih _)

end SwiftSsh.ProgramNetwork
