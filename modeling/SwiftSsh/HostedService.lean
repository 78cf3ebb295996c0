import SwiftSsh.ByteProgram
import SwiftSsh.EventProgram

/-!
Event code served over a byte stream. A round receives an item, runs the code on
it and performs the events of the code on the transport. The rounds on a byte
stream are the rounds of the code on the items received from it.
-/

namespace SwiftSsh.HostedService

open SwiftSsh.ByteWords
open SwiftSsh.RustOutcome
open SwiftSsh.ByteProgram
open SwiftSsh.ByteProgram.Program
open SwiftSsh.EventProgram (Traced Ran forEach)

variable {κ σ ω ε ι α β ρ τ : Type}

/-- The transport, the state of the code and the events so far. -/
structure Host (κ σ ω : Type) where
  transport : κ
  state : σ
  log : List ω

/-- A program that only uses the transport. -/
def onTransport : Program κ ε α → Program (Host κ σ ω) ε α
  | .done result => .done result
  | .read count eof next => .read count eof fun bytes => onTransport (next bytes)
  | .write bytes next => .write bytes (onTransport next)
  | .get next => .get fun host => onTransport (next host.transport)
  | .set transport next =>
      .get fun host => .set { host with transport := transport } (onTransport next)

/-- Perform events one after another. -/
def performAll (perform : ω → Program κ ε Unit) : List ω → Program κ ε Unit
  | [] => pure ()
  | event :: events => do
      perform event
      performAll perform events

/-- Run event code, perform its events and end as it does. -/
def hosted (perform : ω → Program κ ε Unit) (code : Traced σ ω ε Unit) :
    Program (Host κ σ ω) ε Unit := do
  let host ← getState
  let r := EventProgram.run code host.state
  setState { host with state := r.state, log := host.log ++ r.events }
  onTransport (performAll perform r.events)
  lift r.outcome

/-- What is received, how events are performed, the code for one item and the
states in which nothing more is received. -/
structure Service (κ σ ω ε ι : Type) where
  recv : Program κ ε ι
  perform : ω → Program κ ε Unit
  body : Except ε ι → Traced σ ω ε Unit
  ended : σ → Bool

variable (service : Service κ σ ω ε ι)

/-- A number of rounds. Returns whether the service has ended. -/
def Service.rounds : Nat → Program (Host κ σ ω) ε Bool
  | 0 => pure false
  | count + 1 => do
      let host ← getState
      if service.ended host.state then return true
      else do
        let item ← onTransport service.recv
        hosted service.perform (service.body (.ok item))
        Service.rounds count

/-- One round on a finite input, after an item or an error has been received. -/
def Service.round (host : Host κ σ ω) (received : Run κ ε ι) (item : Except ε ι) :
    Run (Host κ σ ω) ε Unit :=
  (run (hosted service.perform (service.body item))
    { host with transport := received.state } received.rest).after received.written

/-- What comes after a round, if the round has not failed. -/
def proceed (r : Run (Host κ σ ω) ε Unit)
    (later : Host κ σ ω → Bytes → Run (Host κ σ ω) ε Bool) : Run (Host κ σ ω) ε Bool :=
  match r.outcome with
  | .ok _ => (later r.state r.rest).after r.written
  | .err error => ⟨.err error, r.state, r.rest, r.written⟩
  | .panic => ⟨.panic, r.state, r.rest, r.written⟩

/-- Rounds on a finite input. A failure to receive, which the end of the input is
too, is given to the code. -/
def Service.stream : Nat → Host κ σ ω → Bytes → Run (Host κ σ ω) ε Bool
  | 0, host, input => ⟨.ok false, host, input, []⟩
  | count + 1, host, input =>
      if service.ended host.state then ⟨.ok true, host, input, []⟩
      else
        let received := run service.recv host.transport input
        match received.outcome with
        | .ok item => proceed (service.round host received (.ok item)) (Service.stream count)
        | .err error => proceed (service.round host received (.error error)) (Service.stream count)
        | .panic => ⟨.panic, { host with transport := received.state }, received.rest,
            received.written⟩

/-- The items on a finite input, up to the first failure to receive. -/
def receivedItems (recv : Program κ ε ι) : Nat → κ → Bytes → List (Except ε ι)
  | 0, _, _ => []
  | count + 1, transport, input =>
      let received := run recv transport input
      match received.outcome with
      | .ok item => .ok item :: receivedItems recv count received.state received.rest
      | .err error => [.error error]
      | .panic => []

theorem run_onTransport (p : Program κ ε α) (host : Host κ σ ω) (input : Bytes) :
    run (onTransport p) host input =
      ⟨(run p host.transport input).outcome,
        { host with transport := (run p host.transport input).state },
        (run p host.transport input).rest, (run p host.transport input).written⟩ := by
  induction p generalizing host input with
  | done result => rfl
  | read count eof next ih =>
      simp only [onTransport, run]
      split
      · exact ih _ host _
      · rfl
  | write bytes next ih =>
      simp only [onTransport, run]
      rw [ih]
      rfl
  | get next ih => exact ih host.transport host input
  | set transport next ih => exact ih { host with transport := transport } input

theorem run_hosted (perform : ω → Program κ ε Unit) (code : Traced σ ω ε Unit)
    (host : Host κ σ ω) (input : Bytes) :
    run (hosted perform code) host input =
      (run (onTransport (performAll perform (EventProgram.run code host.state).events))
        ⟨host.transport, (EventProgram.run code host.state).state,
          host.log ++ (EventProgram.run code host.state).events⟩ input).andThen
            fun _ => lift (EventProgram.run code host.state).outcome := by
  rw [hosted, run_getState_bind, run_setState_bind, run_bind]

/-- A program that does not read. -/
def Silent (p : Program κ ε α) : Prop :=
  ∀ transport input, run p transport input =
    ⟨(run p transport []).outcome, (run p transport []).state, input,
      (run p transport []).written⟩

/-- A usable transport performs the event and stays usable. -/
def Performable (service : Service κ σ ω ε ι) (outgoing : κ → τ) (usable : τ → Prop)
    (event : ω) : Prop :=
  ∀ transport, usable (outgoing transport) →
    (run (service.perform event) transport []).outcome = .ok () ∧
      usable (outgoing (run (service.perform event) transport []).state)

/-- The two directions of a transport do not influence each other: receiving
depends on one part of it and performing an event on the other. A usable
transport performs every event that the code emits. -/
structure Duplex (service : Service κ σ ω ε ι) (incoming : κ → ρ) (outgoing : κ → τ)
    (usable : τ → Prop) : Prop where
  recv_silent : ∀ transport input, (run service.recv transport input).written = []
  recv_consumes : ∀ transport input item,
    (run service.recv transport input).outcome = .ok item →
      (run service.recv transport input).rest.length < input.length
  recv_incoming : ∀ transport other input, incoming transport = incoming other →
    (run service.recv transport input).outcome = (run service.recv other input).outcome ∧
      (run service.recv transport input).rest = (run service.recv other input).rest ∧
      incoming (run service.recv transport input).state =
        incoming (run service.recv other input).state
  recv_outgoing : ∀ transport input,
    outgoing (run service.recv transport input).state = outgoing transport
  perform_silent : ∀ event, Silent (service.perform event)
  perform_incoming : ∀ event transport,
    incoming (run (service.perform event) transport []).state = incoming transport
  perform_outgoing : ∀ event transport other, outgoing transport = outgoing other →
    (run (service.perform event) transport []).written =
        (run (service.perform event) other []).written ∧
      outgoing (run (service.perform event) transport []).state =
        outgoing (run (service.perform event) other []).state
  performable : ∀ item state, ∀ event ∈ (EventProgram.run (service.body item) state).events,
    Performable service outgoing usable event

/-- Nothing happens after the end, and a failure to receive fails or ends the
service. -/
structure Settles (service : Service κ σ ω ε ι) : Prop where
  ended : ∀ item state, service.ended state = true →
    EventProgram.run (service.body item) state = ⟨[], state, .ok ()⟩
  failed : ∀ error state, (EventProgram.run (service.body (.error error)) state).outcome = .ok () →
    service.ended (EventProgram.run (service.body (.error error)) state).state = true

section Duplex

variable {service : Service κ σ ω ε ι} {incoming : κ → ρ} {outgoing : κ → τ}
variable {usable : τ → Prop} {events : List ω} {transport other : κ}

/-- What is written for events. -/
def Service.wire (service : Service κ σ ω ε ι) (transport : κ) (events : List ω) : Bytes :=
  (run (performAll service.perform events) transport []).written

/-- The transport after all that events write. -/
def Service.performed (service : Service κ σ ω ε ι) (transport : κ) (events : List ω) : κ :=
  (run (performAll service.perform events) transport []).state

theorem run_performAll_cons (hduplex : Duplex service incoming outgoing usable) {event : ω}
    (hevent : (run (service.perform event) transport []).outcome = .ok ()) (events : List ω)
    (input : Bytes) :
    run (performAll service.perform (event :: events)) transport input =
      (run (performAll service.perform events)
        (run (service.perform event) transport []).state input).after
          (run (service.perform event) transport []).written := by
  have hrun := hduplex.perform_silent event transport input
  rw [hevent] at hrun
  rw [performAll, run_bind_ok hrun]

theorem Duplex.run_performAll (hduplex : Duplex service incoming outgoing usable)
    (hevents : ∀ event ∈ events, Performable service outgoing usable event)
    (husable : usable (outgoing transport)) (input : Bytes) :
    run (performAll service.perform events) transport input =
      ⟨.ok (), service.performed transport events, input, service.wire transport events⟩ := by
  rw [Service.performed, Service.wire]
  induction events generalizing transport with
  | nil => rfl
  | cons event events ih =>
      obtain ⟨hevent, hrest⟩ := List.forall_mem_cons.mp hevents
      obtain ⟨hok, hlater⟩ := hevent transport husable
      rw [run_performAll_cons hduplex hok, run_performAll_cons hduplex hok, ih hrest hlater]
      rfl

theorem Duplex.performed_cons (hduplex : Duplex service incoming outgoing usable) {event : ω}
    (hevent : Performable service outgoing usable event)
    (husable : usable (outgoing transport)) (events : List ω) :
    service.performed transport (event :: events) =
        service.performed (run (service.perform event) transport []).state events ∧
      service.wire transport (event :: events) =
        (run (service.perform event) transport []).written ++
          service.wire (run (service.perform event) transport []).state events := by
  obtain ⟨hok, -⟩ := hevent transport husable
  rw [Service.performed, Service.wire, run_performAll_cons hduplex hok]
  exact ⟨rfl, rfl⟩

/-- Performing events does not disturb receiving and leaves a usable transport. -/
theorem Duplex.performed_keeps (hduplex : Duplex service incoming outgoing usable)
    (hevents : ∀ event ∈ events, Performable service outgoing usable event)
    (husable : usable (outgoing transport)) :
    incoming (service.performed transport events) = incoming transport ∧
      usable (outgoing (service.performed transport events)) := by
  induction events generalizing transport with
  | nil => exact ⟨rfl, husable⟩
  | cons event events ih =>
      obtain ⟨hevent, hrest⟩ := List.forall_mem_cons.mp hevents
      obtain ⟨-, hlater⟩ := hevent transport husable
      rw [(hduplex.performed_cons hevent husable events).1]
      obtain ⟨hincoming, hstill⟩ := ih hrest hlater
      exact ⟨hincoming.trans (hduplex.perform_incoming event transport), hstill⟩

/-- What events put on the wire depends on the outgoing part alone. -/
theorem Duplex.wire_congr (hduplex : Duplex service incoming outgoing usable)
    (hevents : ∀ event ∈ events, Performable service outgoing usable event)
    (husable : usable (outgoing transport)) (hsame : outgoing transport = outgoing other) :
    service.wire transport events = service.wire other events ∧
      outgoing (service.performed transport events) =
        outgoing (service.performed other events) := by
  induction events generalizing transport other with
  | nil => exact ⟨rfl, hsame⟩
  | cons event events ih =>
      obtain ⟨hevent, hrest⟩ := List.forall_mem_cons.mp hevents
      obtain ⟨-, hlater⟩ := hevent transport husable
      obtain ⟨hwritten, hstate⟩ := hduplex.perform_outgoing event transport other hsame
      obtain ⟨hwire, hperformed⟩ := ih hrest hlater hstate
      obtain ⟨hp, hw⟩ := hduplex.performed_cons hevent husable events
      obtain ⟨hp', hw'⟩ := hduplex.performed_cons hevent (hsame ▸ husable) events
      rw [hp, hw, hp', hw', hwritten, hwire]
      exact ⟨rfl, hperformed⟩

theorem Duplex.performed_append (hduplex : Duplex service incoming outgoing usable)
    (hevents : ∀ event ∈ events, Performable service outgoing usable event)
    (husable : usable (outgoing transport)) (more : List ω) :
    service.performed transport (events ++ more) =
        service.performed (service.performed transport events) more ∧
      service.wire transport (events ++ more) =
        service.wire transport events ++
          service.wire (service.performed transport events) more := by
  induction events generalizing transport with
  | nil => exact ⟨rfl, rfl⟩
  | cons event events ih =>
      obtain ⟨hevent, hrest⟩ := List.forall_mem_cons.mp hevents
      obtain ⟨-, hlater⟩ := hevent transport husable
      obtain ⟨hp, hw⟩ := hduplex.performed_cons hevent husable events
      obtain ⟨hp', hw'⟩ := hduplex.performed_cons hevent husable (events ++ more)
      obtain ⟨hperformed, hwire⟩ := ih hrest hlater
      rw [List.cons_append, hp', hw', hp, hw, hperformed, hwire, List.append_assoc]
      exact ⟨rfl, rfl⟩

theorem Duplex.receivedItems_congr (hduplex : Duplex service incoming outgoing usable)
    (count : Nat) (input : Bytes) (hsame : incoming transport = incoming other) :
    receivedItems service.recv count transport input =
      receivedItems service.recv count other input := by
  induction count generalizing transport other input with
  | zero => rfl
  | succ count ih =>
      obtain ⟨houtcome, hrest, hstate⟩ := hduplex.recv_incoming transport other input hsame
      simp only [receivedItems, houtcome, hrest]
      rw [ih _ hstate]

theorem Duplex.run_hosted (hduplex : Duplex service incoming outgoing usable)
    {code : Traced σ ω ε Unit} {host : Host κ σ ω} {ran : Ran σ ω ε Unit}
    (hrun : EventProgram.run code host.state = ran)
    (hevents : ∀ event ∈ ran.events, Performable service outgoing usable event)
    (husable : usable (outgoing host.transport)) (input : Bytes) :
    run (hosted service.perform code) host input =
      ⟨ran.outcome,
        ⟨service.performed host.transport ran.events, ran.state, host.log ++ ran.events⟩, input,
        service.wire host.transport ran.events⟩ := by
  have hperform := hduplex.run_performAll hevents husable input
  rw [HostedService.run_hosted, run_onTransport, hrun]
  dsimp only
  rw [hperform]
  simp [Run.andThen, Run.after]

/-- How rounds on a finite input end. Rounds that have neither failed nor ended the
service have stopped in a panic of the transport. -/
def Service.ending (service : Service κ σ ω ε ι) (r : Ran σ ω ε Unit) : Outcome ε Bool :=
  match r.outcome with
  | .ok _ => if service.ended r.state then .ok true else .panic
  | .err error => .err error
  | .panic => .panic

/-- The rounds on a finite input are the code on the items received from it. -/
structure Follows (service : Service κ σ ω ε ι) (outgoing : κ → τ) (host : Host κ σ ω)
    (ran : Ran σ ω ε Unit) (r : Run (Host κ σ ω) ε Bool) : Prop where
  state : r.state.state = ran.state
  log : r.state.log = host.log ++ ran.events
  outcome : r.outcome = service.ending ran
  written : r.written = service.wire host.transport ran.events
  transport : outgoing r.state.transport =
    outgoing (service.performed host.transport ran.events)

theorem run_forEach_of_ended (hsettles : Settles service) {state : σ}
    (hended : service.ended state = true) (items : List (Except ε ι)) :
    EventProgram.run (forEach service.body items) state = ⟨[], state, .ok ()⟩ := by
  induction items with
  | nil => rfl
  | cons item items ih =>
      rw [EventProgram.run_forEach_cons_ok (hsettles.ended item state hended), ih]
      rfl

theorem follows_of_ended (hsettles : Settles service) {host : Host κ σ ω}
    (hended : service.ended host.state = true) (items : List (Except ε ι)) (rest : Bytes) :
    Follows service outgoing host
      (EventProgram.run (forEach service.body items) host.state) ⟨.ok true, host, rest, []⟩ := by
  rw [run_forEach_of_ended hsettles hended]
  constructor
  · rfl
  · exact (List.append_nil _).symm
  · rw [Service.ending, if_pos hended]
  · rfl
  · rfl

theorem Follows.after (hduplex : Duplex service incoming outgoing usable) {host : Host κ σ ω}
    {state : σ} {ran : Ran σ ω ε Unit} {r : Run (Host κ σ ω) ε Bool}
    (hevents : ∀ event ∈ events, Performable service outgoing usable event)
    (husable : usable (outgoing transport)) (hsame : outgoing transport = outgoing host.transport)
    (hlater : Follows service outgoing
      ⟨service.performed transport events, state, host.log ++ events⟩ ran r)
    (hran : ∀ event ∈ ran.events, Performable service outgoing usable event) :
    Follows service outgoing host (ran.after events)
      (r.after (service.wire transport events)) := by
  have hkeeps := hduplex.performed_keeps hevents husable
  obtain ⟨hwire, hout⟩ := hduplex.wire_congr hevents husable hsame
  obtain ⟨hperformed, hwhole⟩ := hduplex.performed_append hevents (hsame ▸ husable) ran.events
  obtain ⟨hwire', hout'⟩ := hduplex.wire_congr hran hkeeps.2 hout
  constructor
  · exact hlater.state
  · rw [show (r.after _).state.log = r.state.log from rfl, hlater.log]
    exact List.append_assoc ..
  · exact hlater.outcome
  · change service.wire transport events ++ r.written = service.wire host.transport _
    rw [hlater.written, Ran.after, hwhole, hwire, hwire']
  · change outgoing r.state.transport = outgoing (service.performed host.transport _)
    rw [hlater.transport, Ran.after, hperformed, hout']

theorem follows_of_stopped (hduplex : Duplex service incoming outgoing usable)
    {host : Host κ σ ω} {state : σ} {outcome : Outcome ε Unit} {result : Outcome ε Bool}
    (hevents : ∀ event ∈ events, Performable service outgoing usable event)
    (husable : usable (outgoing transport)) (hsame : outgoing transport = outgoing host.transport)
    (hresult : result = service.ending ⟨events, state, outcome⟩) (rest : Bytes) :
    Follows service outgoing host ⟨events, state, outcome⟩
      ⟨result, ⟨service.performed transport events, state, host.log ++ events⟩, rest,
        service.wire transport events⟩ := by
  obtain ⟨hwire, hout⟩ := hduplex.wire_congr hevents husable hsame
  exact ⟨rfl, rfl, hresult, hwire, hout⟩

theorem Duplex.performable_forEach (hduplex : Duplex service incoming outgoing usable)
    (items : List (Except ε ι)) (state : σ) :
    ∀ event ∈ (EventProgram.run (forEach service.body items) state).events,
      Performable service outgoing usable event := by
  induction items generalizing state with
  | nil => exact List.forall_mem_nil _
  | cons item items ih =>
      intro event hevent
      rw [forEach, EventProgram.run_bind] at hevent
      have hfirst := hduplex.performable item state
      rcases hrun : EventProgram.run (service.body item) state with
        ⟨events, later, value | error | _⟩
      · rw [hrun] at hevent hfirst
        rcases List.mem_append.mp hevent with hmem | hmem
        · exact hfirst event hmem
        · exact ih later event hmem
      · rw [hrun] at hevent hfirst
        exact hfirst event hevent
      · rw [hrun] at hevent hfirst
        exact hfirst event hevent

/-- One round, and the rounds after it if it has not failed. -/
theorem follows_of_round (hduplex : Duplex service incoming outgoing usable)
    {host : Host κ σ ω} {received : Run κ ε ι}
    {later : Host κ σ ω → Bytes → Run (Host κ σ ω) ε Bool}
    (item : Except ε ι) (items : List (Except ε ι))
    (husable : usable (outgoing host.transport)) (hsilent : received.written = [])
    (hsame : outgoing received.state = outgoing host.transport)
    (hlater : ∀ events state, EventProgram.run (service.body item) host.state =
        ⟨events, state, .ok ()⟩ →
      Follows service outgoing
        ⟨service.performed received.state events, state, host.log ++ events⟩
        (EventProgram.run (forEach service.body items) state)
        (later ⟨service.performed received.state events, state, host.log ++ events⟩
          received.rest)) :
    Follows service outgoing host
      (EventProgram.run (forEach service.body (item :: items)) host.state)
      (proceed (service.round host received item) later) := by
  have husable' : usable (outgoing received.state) := hsame ▸ husable
  have hevents := hduplex.performable item host.state
  have hround := @Duplex.run_hosted _ _ _ _ _ _ _ _ _ _ _ hduplex (service.body item)
    { host with transport := received.state } _ rfl hevents husable' received.rest
  rw [Service.round, hsilent, Run.after_nil, hround, proceed, forEach, EventProgram.run_bind]
  dsimp only
  rcases hrun : EventProgram.run (service.body item) host.state with
    ⟨events, state, value | error | _⟩
  · rw [hrun] at hevents
    have hrest := hlater events state hrun
    exact hrest.after hduplex hevents husable' hsame (hduplex.performable_forEach items state)
  · rw [hrun] at hevents
    exact follows_of_stopped hduplex hevents husable' hsame rfl received.rest
  · rw [hrun] at hevents
    exact follows_of_stopped hduplex hevents husable' hsame rfl received.rest

/-- Rounds on a finite input follow the code on the items received from it. -/
theorem Duplex.stream_follows (hduplex : Duplex service incoming outgoing usable)
    (hsettles : Settles service) (count : Nat) (host : Host κ σ ω) (input : Bytes)
    (hcount : input.length + 1 < count) (husable : usable (outgoing host.transport)) :
    Follows service outgoing host
      (EventProgram.run
        (forEach service.body (receivedItems service.recv count host.transport input))
        host.state)
      (service.stream count host input) := by
  induction count generalizing host input with
  | zero => omega
  | succ count ih =>
      rw [Service.stream]
      split
      · exact follows_of_ended hsettles (by assumption) _ input
      · rename_i hrunning
        have hsame := hduplex.recv_outgoing host.transport input
        have hsilent := hduplex.recv_silent host.transport input
        have hconsumes := hduplex.recv_consumes host.transport input
        rw [receivedItems]
        generalize run service.recv host.transport input = received at hsame hsilent hconsumes ⊢
        cases houtcome : received.outcome with
        | ok item =>
            simp only [houtcome]
            refine follows_of_round hduplex _ _ husable hsilent hsame fun events state hrun => ?_
            have hevents := hduplex.performable (.ok item) host.state
            rw [hrun] at hevents
            obtain ⟨hincoming, husable'⟩ := hduplex.performed_keeps hevents (hsame ▸ husable)
            rw [← hduplex.receivedItems_congr count received.rest hincoming]
            have hless := hconsumes item houtcome
            exact ih ⟨_, state, host.log ++ events⟩ received.rest (by omega) husable'
        | err error =>
            simp only [houtcome]
            refine follows_of_round hduplex _ _ husable hsilent hsame fun events state hrun => ?_
            -- The end has been reached, and there is a round left to notice it.
            obtain ⟨rounds, rfl⟩ : ∃ rounds, count = rounds + 1 := ⟨count - 1, by omega⟩
            have hended := hsettles.failed error host.state
            rw [hrun] at hended
            rw [Service.stream, if_pos (hended rfl)]
            exact follows_of_ended hsettles (hended rfl) [] received.rest
        | panic =>
            simp only [houtcome, hsilent]
            refine ⟨rfl, (List.append_nil _).symm, ?_, rfl, hsame⟩
            change Outcome.panic = service.ending ⟨[], host.state, .ok ()⟩
            rw [Service.ending, if_neg hrunning]

end Duplex

end SwiftSsh.HostedService
