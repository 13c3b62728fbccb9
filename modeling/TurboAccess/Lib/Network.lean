import TurboAccess.Lib.Machine
import TurboAccess.Lib.Protocol

/-!
# Clients over a network

Any number of programs make requests of a service.  The request that a client
is about to make can be sent, any number of times, and what was sent stays on
its way, so that the service takes it up late, more than once, or never.  A
client goes on with an answer that is possible in the state of the service.  The
service takes steps of its own, with everything on its way before it.

The rule for an invariant asks what sending, receiving and serving do, one at a
time, for clients that follow a protocol each.
-/

namespace TurboAccess

/-- A service, the requests that are on their way, and what is left of the
program of every client. -/
structure Network (σ κ : Type) (answer : κ → Type) (α : Type) where
  service : σ
  sent : List (Nat × κ)
  clients : Nat → Program κ answer α

namespace Network

/-- What happens next: a request is sent, an answer is received through a
channel, or the service takes a step. -/
inductive Event (ι τ κ : Type) (answer : κ → Type)
  | send (client : Nat)
  | receive (client : Nat) (channel : τ) (oracle : ∀ request, answer request)
  | serve (input : ι)

variable {σ ι τ κ : Type} {answer : κ → Type} {α γ : Type}

section Step

variable
  (possible : σ → Nat → τ → Request κ answer → Bool)
  (serve : List (Nat × κ) → σ → ι → Option σ)

/-- The next state of a network. -/
def step (network : Network σ κ answer α) :
    Event ι τ κ answer → Option (Network σ κ answer α)
  | .send client =>
      match network.clients client with
      | .done _ => none
      | .call request _ =>
          some { network with sent := (client, request) :: network.sent }
  | .receive client channel oracle =>
      match network.clients client with
      | .done _ => none
      | .call request rest =>
          if possible network.service client channel
              ⟨request, oracle request⟩ then
            some { network with
              clients := Function.update network.clients client
                (rest (oracle request)) }
          else none
  | .serve input =>
      (serve network.sent network.service input).map fun service =>
        { network with service }

/-- A service with its clients, none of which has sent anything. -/
def machine (start : σ → Prop) (programs : Nat → Program κ answer α) :
    Machine (Network σ κ answer α) (Event ι τ κ answer) where
  initial := fun network =>
    start network.service ∧ network.sent = [] ∧ network.clients = programs
  step := step possible serve

end Step

section Ended

variable
  {possible : σ → Nat → τ → Request κ answer → Bool}
  {serve : List (Nat × κ) → σ → ι → Option σ}
  {client : Nat}
  {value : α}

end Ended

/-- Every client follows its protocol from its position on. -/
def Follow
    (protocol : Nat → Protocol κ answer γ)
    (post : Nat → γ → α → Prop)
    (network : Network σ κ answer α)
    (positions : Nat → γ) : Prop :=
  ∀ client, (network.clients client).Follows (protocol client) (post client)
    (positions client)

/-- What sending, receiving and serving keep, when clients do what their
protocols allow. -/
structure Keeps
    (possible : σ → Nat → τ → Request κ answer → Bool)
    (serve : List (Nat × κ) → σ → ι → Option σ)
    (guard : Network σ κ answer α → Event ι τ κ answer → Prop)
    (protocol : Nat → Protocol κ answer γ)
    (invariant : σ → List (Nat × κ) → (Nat → γ) → Prop) : Prop where
  send : ∀ (network : Network σ κ answer α) positions client request,
    invariant network.service network.sent positions →
      (protocol client).allows (positions client) request →
        invariant network.service ((client, request) :: network.sent) positions
  receive : ∀ (network : Network σ κ answer α) positions client channel oracle
      request rest,
    invariant network.service network.sent positions →
      guard network (.receive client channel oracle) →
        network.clients client = .call request rest →
          (protocol client).allows (positions client) request →
            possible network.service client channel
                ⟨request, oracle request⟩ = true →
              (protocol client).expects (positions client)
                  ⟨request, oracle request⟩ ∧
                invariant network.service network.sent
                  (Function.update positions client
                    ((protocol client).next (positions client)
                      ⟨request, oracle request⟩))
  serve : ∀ (network : Network σ κ answer α) positions input service,
    invariant network.service network.sent positions →
      guard network (.serve input) →
        serve network.sent network.service input = some service →
          invariant service network.sent positions

section Rule

variable
  {possible : σ → Nat → τ → Request κ answer → Bool}
  {serve : List (Nat × κ) → σ → ι → Option σ}
  {guard : Network σ κ answer α → Event ι τ κ answer → Prop}
  {protocol : Nat → Protocol κ answer γ}
  {post : Nat → γ → α → Prop}
  {invariant : σ → List (Nat × κ) → (Nat → γ) → Prop}

/-- A client that has received an answer goes on following its protocol. -/
theorem Follow.receive
    {network : Network σ κ answer α}
    {positions : Nat → γ}
    {client : Nat}
    {request : κ}
    {rest : answer request → Program κ answer α}
    {reply : answer request}
    (follow : Follow protocol post network positions)
    (calls : network.clients client = .call request rest)
    (expected : (protocol client).expects (positions client)
      ⟨request, reply⟩) :
    Follow protocol post
      { network with
        clients := Function.update network.clients client (rest reply) }
      (Function.update positions client
        ((protocol client).next (positions client) ⟨request, reply⟩)) := by
  intro other
  by_cases same : other = client
  · subst same
    have current := follow other
    rw [calls] at current
    simpa using current.2 reply expected
  · simpa [Function.update_of_ne same] using follow other

/-- One step keeps the protocols and the invariant. -/
theorem Keeps.step
    {network next : Network σ κ answer α}
    {event : Event ι τ κ answer}
    (keeps : Keeps possible serve guard protocol invariant)
    (holds : ∃ positions, Follow protocol post network positions ∧
      invariant network.service network.sent positions)
    (allowed : guard network event)
    (stepped : step possible serve network event = some next) :
    ∃ positions, Follow protocol post next positions ∧
      invariant next.service next.sent positions := by
  obtain ⟨positions, follow, holds⟩ := holds
  cases event with
  | send client =>
      rw [Network.step] at stepped
      split at stepped
      · cases stepped
      · next request rest calls =>
          cases stepped
          have current := follow client
          rw [calls] at current
          exact ⟨positions, follow,
            keeps.send network positions client request holds current.1⟩
  | receive client channel oracle =>
      rw [Network.step] at stepped
      split at stepped
      · cases stepped
      · next request rest calls =>
          split at stepped
          · next possible =>
              cases stepped
              have current := follow client
              rw [calls] at current
              have received := keeps.receive network positions client channel
                oracle request rest holds allowed calls current.1 possible
              exact ⟨_, follow.receive calls received.1, received.2⟩
          · cases stepped
  | serve input =>
      obtain ⟨service, served, rfl⟩ := Option.map_eq_some_iff.mp stepped
      exact ⟨positions, follow,
        keeps.serve network positions input service holds allowed served⟩

/-- The invariant rule of a network. -/
theorem Keeps.of_path
    {start : σ → Prop}
    {programs : Nat → Program κ answer α}
    {network next : Network σ κ answer α}
    {events : List (Event ι τ κ answer)}
    (keeps : Keeps possible serve guard protocol invariant)
    (holds : ∃ positions, Follow protocol post network positions ∧
      invariant network.service network.sent positions)
    (path : (machine possible serve start programs).Path guard network events
      next) :
    ∃ positions, Follow protocol post next positions ∧
      invariant next.service next.sent positions := by
  induction path with
  | nil => exact holds
  | cons allowed stepped _ inductionHypothesis =>
      exact inductionHypothesis (keeps.step holds allowed stepped)

end Rule

end Network

end TurboAccess
