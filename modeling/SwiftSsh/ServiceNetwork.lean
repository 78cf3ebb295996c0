import SwiftSsh.HostedService
import SwiftSsh.ProgramNetwork
import SwiftSsh.SuspendedProgram

/-!
Two services that exchange messages over a byte link in each direction. What they
can do message by message they can do byte by byte.
-/

namespace SwiftSsh.ServiceNetwork

open Relation
open SwiftSsh.ByteWords
open SwiftSsh.RustOutcome
open SwiftSsh.ByteProgram
open SwiftSsh.ByteProgram.Program
open SwiftSsh.ProgramNetwork
open SwiftSsh.SuspendedProgram
open SwiftSsh.HostedService

section Networks

variable {σ ε α σ' ε' α' : Type}

/-- No endpoint can take a step. -/
def Stuck (net : Network σ ε α σ' ε' α') : Prop :=
  net.left.step net.toLeft = none ∧ net.right.step net.toRight = none

theorem not_step_of_stuck {a b : Network σ ε α σ' ε' α'} (hstuck : Stuck a) : ¬ Step a b := by
  obtain ⟨hleft, hright⟩ := hstuck
  rintro (hstep | hstep)
  · rw [hstep] at hleft
    cases hleft
  · rw [hstep] at hright
    cases hright

theorem eq_of_stuck_reaches {a b : Network σ ε α σ' ε' α'} (hstuck : Stuck a)
    (hreach : ReflTransGen Step a b) : b = a := by
  rcases ReflTransGen.cases_head hreach with heq | ⟨c, hstep, -⟩
  · exact heq.symm
  · exact absurd hstep (not_step_of_stuck hstuck)

/-- One schedule that leads to a network without steps bounds all schedules. -/
theorem reaches_stuck {start stuck net : Network σ ε α σ' ε' α'}
    (hschedule : ReflTransGen Step start stuck) (hstuck : Stuck stuck)
    (hreach : ReflTransGen Step start net) : ReflTransGen Step net stuck := by
  obtain ⟨d, hstuck', hnet⟩ := church_rosser
    (fun _ _ _ hab hac => step_diamond hab hac) hschedule hreach
  rw [eq_of_stuck_reaches hstuck hstuck'] at hnet
  exact hnet

theorem left_eq_of_done {start stuck net : Network σ ε α σ' ε' α'}
    {result : Outcome ε α} (hschedule : ReflTransGen Step start stuck) (hstuck : Stuck stuck)
    (hreach : ReflTransGen Step start net) (hdone : net.left.program = .done result) :
    net.left = stuck.left :=
  (left_done_of_reaches hdone (reaches_stuck hschedule hstuck hreach)).symm

theorem right_eq_of_done {start stuck net : Network σ ε α σ' ε' α'}
    {result : Outcome ε' α'} (hschedule : ReflTransGen Step start stuck) (hstuck : Stuck stuck)
    (hreach : ReflTransGen Step start net) (hdone : net.right.program = .done result) :
    net.right = stuck.right :=
  (right_done_of_reaches hdone (reaches_stuck hschedule hstuck hreach)).symm

/-- The network seen from the other side. -/
def flip (net : Network σ ε α σ' ε' α') : Network σ' ε' α' σ ε α :=
  ⟨net.right, net.left, net.toRight, net.toLeft⟩

theorem step_flip {a b : Network σ ε α σ' ε' α'} (hstep : Step a b) : Step (flip a) (flip b) := by
  cases hstep with
  | left hleft => exact .right hleft
  | right hright => exact .left hright

theorem reaches_flip {a b : Network σ ε α σ' ε' α'} (hreach : ReflTransGen Step a b) :
    ReflTransGen Step (flip a) (flip b) :=
  hreach.lift flip fun _ _ hstep => step_flip hstep

theorem endpointRun_trans {first second third : Endpoint σ ε α}
    {inbox inbox' inbox'' sent sent' : Bytes} (hfirst : EndpointRun first inbox second inbox' sent)
    (hsecond : EndpointRun second inbox' third inbox'' sent') :
    EndpointRun first inbox third inbox'' (sent ++ sent') := by
  induction hfirst with
  | refl e inbox => exact hsecond
  | head hstep _ ih =>
      rw [List.append_assoc]
      exact .head hstep (ih hsecond)

end Networks

theorem andThen_assoc {σ ε α β γ : Type} (p : Program σ ε α) (f : α → Program σ ε β)
    (g : β → Program σ ε γ) : (p >>= f) >>= g = p >>= fun value => f value >>= g := by
  change andThen (andThen p f) g = andThen p fun value => andThen (f value) g
  induction p with
  | done result => cases result <;> rfl
  | read count eof next ih => exact congrArg _ (funext ih)
  | write bytes next ih => exact congrArg _ ih
  | get next ih => exact congrArg _ (funext ih)
  | set state next ih => exact congrArg _ ih

section Hosting

variable {κ σ ω κ' σ' ω' ε ε' α α' β β' : Type}

/-- An endpoint whose program only uses the transport, and goes on afterwards. -/
def host (f : α → Program (Host κ σ ω) ε β) (state : σ) (log : List ω)
    (endpoint : Endpoint κ ε α) : Endpoint (Host κ σ ω) ε β :=
  ⟨onTransport endpoint.program >>= f, ⟨endpoint.state, state, log⟩⟩

theorem hosted_step (f : α → Program (Host κ σ ω) ε β) (state : σ) (log : List ω)
    {endpoint later : Endpoint κ ε α} {inbox inbox' sent : Bytes}
    (hstep : endpoint.step inbox = some (later, inbox', sent)) :
    EndpointRun (host f state log endpoint) inbox (host f state log later) inbox' sent := by
  obtain ⟨program, transport⟩ := endpoint
  cases program with
  | done result => cases hstep
  | read count eof next =>
      simp only [Endpoint.step] at hstep
      split at hstep
      · rename_i hcount
        cases hstep
        refine .silent ?_ (.refl _ _)
        exact if_pos hcount
      · cases hstep
  | write bytes next =>
      cases hstep
      have hrun := EndpointRun.head (e := host f state log ⟨.write sent next, transport⟩) rfl
        (.refl (host f state log ⟨next, transport⟩) inbox)
      rwa [List.append_nil] at hrun
  | get next =>
      cases hstep
      exact .silent rfl (.refl _ _)
  | set transport' next =>
      cases hstep
      exact .silent rfl (.silent rfl (.refl _ _))

theorem hosted_run (f : α → Program (Host κ σ ω) ε β) (state : σ) (log : List ω)
    {endpoint later : Endpoint κ ε α} {inbox inbox' sent : Bytes}
    (hrun : EndpointRun endpoint inbox later inbox' sent) :
    EndpointRun (host f state log endpoint) inbox (host f state log later) inbox' sent := by
  induction hrun with
  | refl e inbox => exact .refl _ _
  | head hstep _ ih => exact endpointRun_trans (hosted_step f state log hstep) ih

theorem endpointRun_poll (p : Program κ ε α) (transport : κ) :
    EndpointRun ⟨p, transport⟩ [] ⟨(poll p transport).1, (poll p transport).2.1⟩ []
      (poll p transport).2.2 := by
  induction p generalizing transport with
  | done result => exact .refl _ _
  | read count eof next ih =>
      rw [poll]
      split
      · rename_i hzero
        subst hzero
        exact .silent rfl (ih [] transport)
      · exact .refl _ _
  | write bytes next ih => exact .head rfl (ih transport)
  | get next ih => exact .silent rfl (ih transport transport)
  | set transport' next ih => exact .silent rfl (ih transport')

/-- A network whose two programs only use the transports does the same below
services. -/
theorem hosted_reaches (f : α → Program (Host κ σ ω) ε β)
    (f' : α' → Program (Host κ' σ' ω') ε' β') (state : σ) (state' : σ') (log : List ω)
    (log' : List ω') {net later : Network κ ε α κ' ε' α'} (hreach : ReflTransGen Step net later) :
    ReflTransGen Step
      ⟨host f state log net.left, host f' state' log' net.right, net.toLeft, net.toRight⟩
      ⟨host f state log later.left, host f' state' log' later.right, later.toLeft,
        later.toRight⟩ := by
  induction hreach with
  | refl => exact .refl
  | tail _ hstep ih =>
      refine ih.trans ?_
      cases hstep with
      | left hleft => exact left_reaches _ _ (hosted_step f state log hleft)
      | right hright => exact right_reaches _ _ (hosted_step f' state' log' hright)

end Hosting

section Links

variable {κ σ ω σ' ω' ε ι ρ : Type}

/-- Whatever follows, a receiver with this half receives the item from the bytes,
leaves the rest and has the later half then. -/
def Takes (recv : Program κ ε ι) (incoming : κ → ρ) (half : ρ) (item : ι) (bytes rest : Bytes)
    (later : ρ) : Prop :=
  ∀ receiver tail, incoming receiver = half →
    (run recv receiver (bytes ++ tail)).outcome = .ok item ∧
      (run recv receiver (bytes ++ tail)).rest = rest ++ tail ∧
      incoming (run recv receiver (bytes ++ tail)).state = later

/-- Receiving the items from the bytes brings a receiver to the sender's half. -/
def Wired (recv : Program κ ε ι) (incoming : κ → ρ) (sender : ρ) : ρ → List ι → Bytes → Prop
  | half, [], bytes => bytes = [] ∧ half = sender
  | half, item :: items, bytes => ∃ later rest,
      Takes recv incoming half item bytes rest later ∧
        Wired recv incoming sender later items rest

/-- What one service performs the other receives. -/
structure Delivers (sender : Service κ σ ω ε ι) (recv : Program κ ε ι)
    (incoming outgoing : κ → ρ) (usable : ρ → Prop) (message : ω → Option ι) : Prop where
  silent : ∀ event transport, message event = none →
    run (sender.perform event) transport [] = ⟨.ok (), transport, [], []⟩
  delivered : ∀ event item transport, message event = some item →
    usable (outgoing transport) → (run (sender.perform event) transport []).outcome = .ok () →
      Takes recv incoming (outgoing transport) item
        (run (sender.perform event) transport []).written []
        (outgoing (run (sender.perform event) transport []).state)

variable {service : Service κ σ ω ε ι} {recv : Program κ ε ι} {incoming outgoing : κ → ρ}
variable {usable : ρ → Prop} {message : ω → Option ι} {transport : κ}
variable {items more : List ι} {bytes written : Bytes} {events : List ω} {half middle last : ρ}

theorem Takes.append {item : ι} {rest : Bytes} {later : ρ}
    (htakes : Takes recv incoming half item bytes rest later) (written : Bytes) :
    Takes recv incoming half item (bytes ++ written) (rest ++ written) later := by
  intro receiver tail hhalf
  rw [List.append_assoc, List.append_assoc]
  exact htakes receiver (written ++ tail) hhalf

theorem Wired.append (hfirst : Wired recv incoming middle half items bytes)
    (hsecond : Wired recv incoming last middle more written) :
    Wired recv incoming last half (items ++ more) (bytes ++ written) := by
  induction items generalizing half bytes with
  | nil =>
      obtain ⟨rfl, rfl⟩ := hfirst
      exact hsecond
  | cons item items ih =>
      obtain ⟨later, rest, htakes, hlater⟩ := hfirst
      exact ⟨later, rest ++ written, htakes.append written, ih hlater⟩

theorem wired_events (hduplex : Duplex service incoming outgoing usable)
    (hdelivers : Delivers service recv incoming outgoing usable message)
    (hevents : ∀ event ∈ events, Performable service outgoing usable event)
    (husable : usable (outgoing transport)) :
    Wired recv incoming (outgoing (service.performed transport events)) (outgoing transport)
      (events.filterMap message) (service.wire transport events) := by
  induction events generalizing transport with
  | nil => exact ⟨rfl, rfl⟩
  | cons event events ih =>
      obtain ⟨hevent, hrest⟩ := List.forall_mem_cons.mp hevents
      obtain ⟨hok, hlater⟩ := hevent transport husable
      obtain ⟨hperformed, hwire⟩ := hduplex.performed_cons hevent husable events
      have hwired := ih hrest hlater
      rw [hperformed, hwire]
      cases hmessage : message event with
      | none =>
          rw [List.filterMap_cons_none hmessage]
          rw [hdelivers.silent event transport hmessage] at hwired ⊢
          exact hwired
      | some item =>
          rw [List.filterMap_cons_some hmessage]
          have htakes := hdelivers.delivered event item transport hmessage husable hok
          exact ⟨_, _, htakes.append _, hwired⟩

end Links

section Rounds

variable {κ σ ω σ' ω' ε ι ρ : Type} {service : Service κ σ ω ε ι}
variable {incoming outgoing : κ → ρ} {usable : ρ → Prop} {transport : κ}

/-- What is left to do after a round. -/
def afterRound (service : Service κ σ ω ε ι) (count : Nat) :
    Outcome ε Unit → Program (Host κ σ ω) ε Bool
  | .ok _ => service.rounds count
  | .err error => .done (.err error)
  | .panic => .done .panic

/-- What the program of a service does when it has not ended. -/
def awaiting (service : Service κ σ ω ε ι) (count : Nat) : ι → Program (Host κ σ ω) ε Bool :=
  fun item => hosted service.perform (service.body (.ok item)) >>= fun _ => service.rounds count

theorem endpointRun_rounds {host : Host κ σ ω} {later : Endpoint (Host κ σ ω) ε Bool}
    {inbox inbox' sent : Bytes} (count : Nat) (hrunning : service.ended host.state = false)
    (hrun : EndpointRun ⟨onTransport service.recv >>= awaiting service count, host⟩ inbox later
      inbox' sent) :
    EndpointRun ⟨service.rounds (count + 1), host⟩ inbox later inbox' sent := by
  let asking : Endpoint (Host κ σ ω) ε Bool :=
    ⟨if service.ended host.state then return true else
      onTransport service.recv >>= awaiting service count, host⟩
  have hask : EndpointRun asking inbox later inbox' sent := by
    dsimp only [asking]
    rw [hrunning, if_neg Bool.false_ne_true]
    exact hrun
  exact .silent rfl hask

theorem endpointRun_round (hduplex : Duplex service incoming outgoing usable) (count : Nat)
    {state : σ} {log : List ω} {item : ι} {bytes rest : Bytes} {later : κ}
    {ran : EventProgram.Ran σ ω ε Unit}
    (hrunning : service.ended state = false) (husable : usable (outgoing later))
    (hrecv : run service.recv transport bytes = ⟨.ok item, later, rest, []⟩)
    (hrun : EventProgram.run (service.body (.ok item)) state = ran) :
    EndpointRun ⟨service.rounds (count + 1), ⟨transport, state, log⟩⟩ bytes
      ⟨afterRound service count ran.outcome,
        ⟨service.performed later ran.events, ran.state, log ++ ran.events⟩⟩ rest
      (service.wire later ran.events) := by
  have hreceive : run (onTransport service.recv)
      (⟨transport, state, log⟩ : Host κ σ ω) bytes = ⟨.ok item, ⟨later, state, log⟩, rest, []⟩ := by
    rw [run_onTransport, hrecv]
  have hevents := hduplex.performable (.ok item) state
  rw [hrun] at hevents
  have hperform : run (onTransport (performAll service.perform ran.events))
      (⟨later, ran.state, log ++ ran.events⟩ : Host κ σ ω) rest =
        ⟨.ok (), ⟨service.performed later ran.events, ran.state, log ++ ran.events⟩, rest,
          service.wire later ran.events⟩ := by
    rw [run_onTransport, hduplex.run_performAll hevents husable]
  apply endpointRun_rounds count hrunning
  rw [← List.nil_append (service.wire later ran.events)]
  refine endpointRun_trans (endpointRun_of_run _ hreceive) ?_
  refine .silent rfl (.silent rfl ?_)
  have hparts : (onTransport (performAll service.perform ran.events) >>= fun _ =>
      lift ran.outcome) >>= (fun _ => service.rounds count) =
        onTransport (performAll service.perform ran.events) >>= fun _ =>
          afterRound service count ran.outcome := by
    rw [andThen_assoc]
    cases ran.outcome <;> rfl
  have hlast := endpointRun_of_run (fun _ => afterRound service count ran.outcome) hperform
  rw [← hparts] at hlast
  subst hrun
  exact hlast

/-- An endpoint of a service. -/
structure At (program : Program (Host κ σ ω) ε Bool) (state : σ) (log : List ω)
    (endpoint : Endpoint (Host κ σ ω) ε Bool) : Prop where
  program : endpoint.program = program
  state : endpoint.state.state = state
  log : endpoint.state.log = log

/-- A network of two services. -/
abbrev Services (κ σ ω σ' ω' ε : Type) :=
  Network (Host κ σ ω) ε Bool (Host κ σ' ω') ε Bool

/-- The items on the way in each direction. -/
structure Carried (recvLeft recvRight : Program κ ε ι) (incoming outgoing : κ → ρ)
    (usable : ρ → Prop) (toLeft toRight : List ι) (net : Services κ σ ω σ' ω' ε) : Prop where
  left : usable (outgoing net.left.state.transport)
  right : usable (outgoing net.right.state.transport)
  toLeft : Wired recvLeft incoming (outgoing net.right.state.transport)
    (incoming net.left.state.transport) toLeft net.toLeft
  toRight : Wired recvRight incoming (outgoing net.left.state.transport)
    (incoming net.right.state.transport) toRight net.toRight

variable {other : Service κ σ' ω' ε ι} {message : ω → Option ι} {message' : ω' → Option ι}
variable {net : Services κ σ ω σ' ω' ε} {toLeft toRight : List ι} {count : Nat}

theorem Carried.flip {left right : Program κ ε ι}
    (hcarried : Carried left right incoming outgoing usable toLeft toRight net) :
    Carried right left incoming outgoing usable toRight toLeft (flip net) :=
  ⟨hcarried.right, hcarried.left, hcarried.toRight, hcarried.toLeft⟩

theorem left_round (hduplex : Duplex service incoming outgoing usable)
    (hdelivers : Delivers service other.recv incoming outgoing usable message) {state : σ}
    {log : List ω} {item : ι} {ran : EventProgram.Ran σ ω ε Unit}
    (hat : At (service.rounds (count + 1)) state log net.left)
    (hcarried : Carried service.recv other.recv incoming outgoing usable (item :: toLeft) toRight
      net) (hrunning : service.ended state = false)
    (hrun : EventProgram.run (service.body (.ok item)) state = ran) :
    ∃ later : Services κ σ ω σ' ω' ε, ReflTransGen Step net later ∧
      later.right = net.right ∧
      At (afterRound service count ran.outcome) ran.state (log ++ ran.events) later.left ∧
      Carried service.recv other.recv incoming outgoing usable toLeft
        (toRight ++ ran.events.filterMap message) later := by
  obtain ⟨⟨program, ⟨transport, state', log'⟩⟩, right, bytesLeft, bytesRight⟩ := net
  obtain ⟨hprogram, hstate, hlog⟩ := hat
  obtain ⟨husable, hright, ⟨half, rest, htakes, hwired⟩, htoRight⟩ := hcarried
  dsimp only at hprogram hstate hlog husable htakes hwired htoRight hright ⊢
  subst hprogram hstate hlog
  have htaken := htakes transport [] rfl
  rw [List.append_nil, List.append_nil] at htaken
  have hkept := hduplex.recv_outgoing transport bytesLeft
  have hsilent := hduplex.recv_silent transport bytesLeft
  rcases hrecv : run service.recv transport bytesLeft with ⟨outcome, later, unread, written⟩
  rw [hrecv] at htaken hkept hsilent
  obtain ⟨rfl, rfl, rfl⟩ := htaken
  dsimp only at hsilent hkept
  subst hsilent
  have husable' : usable (outgoing later) := hkept ▸ husable
  have hevents := hduplex.performable (.ok item) state'
  rw [hrun] at hevents
  obtain ⟨hincoming, hstill⟩ := hduplex.performed_keeps hevents husable'
  have hround : EndpointRun
      (⟨_, ⟨transport, state', log'⟩⟩ : Endpoint (Host κ σ ω) ε Bool) _ _ _ _ :=
    endpointRun_round hduplex count hrunning husable' hrecv hrun
  refine ⟨_, left_reaches right bytesRight hround, rfl, ⟨rfl, rfl, rfl⟩, hstill, hright, ?_, ?_⟩
  · rw [hincoming]
    exact hwired
  · have hsent := wired_events hduplex hdelivers hevents husable'
    rw [hkept] at hsent
    exact htoRight.append hsent

theorem right_round (hduplex : Duplex other incoming outgoing usable)
    (hdelivers : Delivers other service.recv incoming outgoing usable message') {state : σ'}
    {log : List ω'} {item : ι} {ran : EventProgram.Ran σ' ω' ε Unit}
    (hat : At (other.rounds (count + 1)) state log net.right)
    (hcarried : Carried service.recv other.recv incoming outgoing usable toLeft (item :: toRight)
      net) (hrunning : other.ended state = false)
    (hrun : EventProgram.run (other.body (.ok item)) state = ran) :
    ∃ later : Services κ σ ω σ' ω' ε, ReflTransGen Step net later ∧
      later.left = net.left ∧
      At (afterRound other count ran.outcome) ran.state (log ++ ran.events) later.right ∧
      Carried service.recv other.recv incoming outgoing usable
        (toLeft ++ ran.events.filterMap message') toRight later := by
  obtain ⟨later, hreach, hleft, hlater, hnow⟩ :=
    left_round hduplex hdelivers (hat : At _ _ _ (ServiceNetwork.flip net).left) hcarried.flip
      hrunning hrun
  exact ⟨ServiceNetwork.flip later, reaches_flip hreach, hleft, hlater, hnow.flip⟩

theorem left_ends {state : σ} {log : List ω}
    (hat : At (service.rounds (count + 1)) state log net.left)
    (hended : service.ended state = true) :
    ∃ endpoint, ReflTransGen Step net ⟨endpoint, net.right, net.toLeft, net.toRight⟩ ∧
      endpoint.program = .done (.ok true) ∧ endpoint.state = net.left.state := by
  obtain ⟨⟨program, host⟩, right, bytesLeft, bytesRight⟩ := net
  obtain ⟨hprogram, hstate, hlog⟩ := hat
  dsimp only at hprogram hstate ⊢
  subst hprogram hstate
  refine ⟨⟨.done (.ok true), host⟩, ?_, rfl, rfl⟩
  have hrun : EndpointRun ⟨service.rounds (count + 1), host⟩ bytesLeft
      ⟨.done (.ok true), host⟩ bytesLeft [] := by
    let asking : Endpoint (Host κ σ ω) ε Bool :=
      ⟨if service.ended host.state then return true else do
        let item ← onTransport service.recv
        hosted service.perform (service.body (.ok item))
        Service.rounds service count, host⟩
    have hask : EndpointRun asking bytesLeft ⟨.done (.ok true), host⟩ bytesLeft [] := by
      dsimp only [asking]
      rw [hended, if_pos rfl]
      exact .refl _ _
    exact .silent rfl hask
  have hreach := left_reaches right bytesRight hrun
  rwa [List.append_nil] at hreach

theorem left_waits {state : σ} {log : List ω} {size : Nat} {eof : ε}
    {next : Bytes → Program κ ε ι}
    (hat : At (service.rounds (count + 1)) state log net.left)
    (hrunning : service.ended state = false) (hempty : net.toLeft = [])
    (hpoll : poll service.recv net.left.state.transport =
      (.read size eof next, net.left.state.transport, [])) (hsize : 0 < size) :
    ∃ endpoint, ReflTransGen Step net ⟨endpoint, net.right, [], net.toRight⟩ ∧
      endpoint.step [] = none ∧ (∀ result, endpoint.program ≠ .done result) ∧
      endpoint.state = net.left.state := by
  obtain ⟨⟨program, ⟨transport, state', log'⟩⟩, right, bytesLeft, bytesRight⟩ := net
  obtain ⟨hprogram, hstate, hlog⟩ := hat
  dsimp only at hprogram hstate hempty hpoll ⊢
  subst hprogram hstate hempty
  have hwait := endpointRun_poll service.recv transport
  rw [hpoll] at hwait
  have hrun := endpointRun_rounds count hrunning
    (hosted_run (awaiting service count) state' log' hwait)
  have hreach := left_reaches right bytesRight hrun
  rw [List.append_nil] at hreach
  refine ⟨_, hreach, ?_, ?_, rfl⟩
  · exact if_neg (by simp only [List.length_nil]; omega)
  · intro result hdone
    cases hdone

/-- Two services message by message: the rounds each has left, its state, what has
happened to it and the items on the way to it. -/
structure Talk (σ ω σ' ω' ι : Type) where
  count : Nat
  state : σ
  log : List ω
  toLeft : List ι
  count' : Nat
  state' : σ'
  log' : List ω'
  toRight : List ι

/-- A round of one of the services that does not fail. -/
inductive TalkStep (service : Service κ σ ω ε ι) (other : Service κ σ' ω' ε ι)
    (message : ω → Option ι) (message' : ω' → Option ι) :
    Talk σ ω σ' ω' ι → Talk σ ω σ' ω' ι → Prop where
  | left {count count' : Nat} {state later : σ} {log events : List ω} {item : ι}
      {toLeft toRight : List ι} {state' : σ'} {log' : List ω'}
      (hrunning : service.ended state = false)
      (hrun : EventProgram.run (service.body (.ok item)) state = ⟨events, later, .ok ()⟩) :
      TalkStep service other message message'
        ⟨count + 1, state, log, item :: toLeft, count', state', log', toRight⟩
        ⟨count, later, log ++ events, toLeft, count', state', log',
          toRight ++ events.filterMap message⟩
  | right {count count' : Nat} {state : σ} {log : List ω} {item : ι}
      {toLeft toRight : List ι} {state' later : σ'} {log' events : List ω'}
      (hrunning : other.ended state' = false)
      (hrun : EventProgram.run (other.body (.ok item)) state' = ⟨events, later, .ok ()⟩) :
      TalkStep service other message message'
        ⟨count, state, log, toLeft, count' + 1, state', log', item :: toRight⟩
        ⟨count, state, log, toLeft ++ events.filterMap message', count', later, log' ++ events,
          toRight⟩

/-- A network of bytes in which the services are as they are message by message. -/
structure Represents (service : Service κ σ ω ε ι) (other : Service κ σ' ω' ε ι)
    (incoming outgoing : κ → ρ) (usable : ρ → Prop) (talk : Talk σ ω σ' ω' ι)
    (net : Services κ σ ω σ' ω' ε) : Prop where
  left : At (service.rounds talk.count) talk.state talk.log net.left
  right : At (other.rounds talk.count') talk.state' talk.log' net.right
  carried : Carried service.recv other.recv incoming outgoing usable talk.toLeft talk.toRight net

/-- What two services can do message by message they can do byte by byte. -/
theorem represents_of_talk (hduplex : Duplex service incoming outgoing usable)
    (hduplex' : Duplex other incoming outgoing usable)
    (hdelivers : Delivers service other.recv incoming outgoing usable message)
    (hdelivers' : Delivers other service.recv incoming outgoing usable message')
    {talk later : Talk σ ω σ' ω' ι}
    (htalk : ReflTransGen (TalkStep service other message message') talk later)
    (hnet : Represents service other incoming outgoing usable talk net) :
    ∃ last, ReflTransGen Step net last ∧
      Represents service other incoming outgoing usable later last := by
  induction htalk with
  | refl => exact ⟨net, .refl, hnet⟩
  | tail _ hstep ih =>
      obtain ⟨middle, hreach, hmiddle⟩ := ih
      cases hstep with
      | left hrunning hrun =>
          obtain ⟨last, hround, hright, hat, hcarried⟩ :=
            left_round hduplex hdelivers hmiddle.left hmiddle.carried hrunning hrun
          exact ⟨last, hreach.trans hround, hat, hright ▸ hmiddle.right, hcarried⟩
      | right hrunning hrun =>
          obtain ⟨last, hround, hleft, hat, hcarried⟩ :=
            right_round hduplex' hdelivers' hmiddle.right hmiddle.carried hrunning hrun
          exact ⟨last, hreach.trans hround, hleft ▸ hmiddle.left, hat, hcarried⟩

theorem represents_ends {talk : Talk σ ω σ' ω' ι} {count count' : Nat}
    (hnet : Represents service other incoming outgoing usable talk net)
    (hcount : talk.count = count + 1) (hcount' : talk.count' = count' + 1)
    (hended : service.ended talk.state = true) (hended' : other.ended talk.state' = true) :
    ∃ final, ReflTransGen Step net final ∧
      At (.done (.ok true)) talk.state talk.log final.left ∧
      At (.done (.ok true)) talk.state' talk.log' final.right := by
  have hleft := hnet.left
  have hright := hnet.right
  rw [hcount] at hleft
  rw [hcount'] at hright
  obtain ⟨left, hfirst, hdone, hsame⟩ := left_ends hleft hended
  obtain ⟨right, hsecond, hdone', hsame'⟩ := 
    @left_ends _ _ _ _ _ _ _ _ (flip ⟨left, net.right, net.toLeft, net.toRight⟩) _ _ _ hright
      hended'
  refine ⟨⟨left, right, net.toLeft, net.toRight⟩, hfirst.trans (reaches_flip hsecond), ?_, ?_⟩
  · exact ⟨hdone, hsame ▸ hleft.state, hsame ▸ hleft.log⟩
  · refine ⟨hdone', ?_, ?_⟩
    · rw [hsame']
      exact hright.state
    · rw [hsame']
      exact hright.log

end Rounds

end SwiftSsh.ServiceNetwork
