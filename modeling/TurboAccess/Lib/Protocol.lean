import Mathlib.Logic.Relation
import TurboAccess.Lib.Program

/-!
# Programs that follow a protocol

A protocol has states.  In a state it allows some requests and expects some of
their answers; a request with its answer leads to the next state.  A program
follows a protocol when it makes only requests that are allowed, whatever the
answers are, as long as they are expected.  Requests that are programs of their
own over other requests are replaced by them, and what follows a protocol goes
on doing so when each of these programs does what the protocol says of its
request.

Any number of programs run over a shared state, which decides what answers are
possible.  When the effect of an allowed request keeps an invariant of the
shared state and of the states of all programs, and its answer is an expected
one, the invariant holds in every run of programs that follow the protocol.  What
an answer has said of the shared state stays true where every effect keeps it.
-/

namespace TurboAccess

/-- Requests that are allowed in a state, answers that are expected, and the
state after them. -/
structure Protocol (κ : Type) (answer : κ → Type) (γ : Type) where
  allows : γ → κ → Prop
  expects : γ → Request κ answer → Prop
  next : γ → Request κ answer → γ

namespace Protocol

variable {κ : Type} {answer : κ → Type} {γ : Type}

/-- The state after a log. -/
def after (protocol : Protocol κ answer γ) (start : γ)
    (log : List (Request κ answer)) : γ :=
  log.foldl protocol.next start

theorem after_append
    (protocol : Protocol κ answer γ)
    (start : γ)
    (log : List (Request κ answer))
    (event : Request κ answer) :
    protocol.after start (log ++ [event]) =
      protocol.next (protocol.after start log) event := by
  simp [after]

/-- Every request of a log was allowed, and its answer expected. -/
inductive Accepts (protocol : Protocol κ answer γ) (start : γ) :
    List (Request κ answer) → Prop
  | nil : Accepts protocol start []
  | append {log : List (Request κ answer)} {event : Request κ answer}
      (before : Accepts protocol start log)
      (allowed : protocol.allows (protocol.after start log) event.request)
      (expected : protocol.expects (protocol.after start log) event) :
      Accepts protocol start (log ++ [event])

/-- Two protocols at once. -/
def both
    {δ : Type}
    (first : Protocol κ answer γ)
    (second : Protocol κ answer δ) : Protocol κ answer (γ × δ) where
  allows states request :=
    first.allows states.1 request ∧ second.allows states.2 request
  expects states event :=
    first.expects states.1 event ∧ second.expects states.2 event
  next states event := (first.next states.1 event, second.next states.2 event)

end Protocol

namespace Program

variable
  {κ κ' : Type} {answer : κ → Type} {answer' : κ' → Type}
  {α β γ δ : Type}
  {protocol : Protocol κ answer γ}

/-- A program follows a protocol from a state on, and ends in a state and with a
value of which something is known. -/
def Follows (protocol : Protocol κ answer γ) (post : γ → α → Prop) :
    Program κ answer α → γ → Prop
  | .done value, state => post state value
  | .call request rest, state =>
      protocol.allows state request ∧
        ∀ reply, protocol.expects state ⟨request, reply⟩ →
          (rest reply).Follows protocol post
            (protocol.next state ⟨request, reply⟩)

namespace Follows

variable {state : γ}

theorem mono
    {program : Program κ answer α}
    {post weaker : γ → α → Prop}
    (follows : program.Follows protocol post state)
    (weaken : ∀ state value, post state value → weaker state value) :
    program.Follows protocol weaker state := by
  induction program generalizing state with
  | done value => exact weaken state value follows
  | call request rest inductionHypothesis =>
      exact ⟨follows.1, fun reply expected =>
        inductionHypothesis reply (follows.2 reply expected)⟩

/-- An allowed request, and what comes after it. -/
theorem perform
    {request : κ}
    {next : answer request → Program κ answer α}
    {post : γ → α → Prop}
    (allowed : protocol.allows state request)
    (rest : ∀ reply, protocol.expects state ⟨request, reply⟩ →
      (next reply).Follows protocol post
        (protocol.next state ⟨request, reply⟩)) :
    (Program.perform request >>= next).Follows protocol post state :=
  ⟨allowed, rest⟩

/-- Two programs, one after the other. -/
theorem bind
    {program : Program κ answer α}
    {next : α → Program κ answer β}
    {post : γ → β → Prop}
    (follows : program.Follows protocol
      (fun state value => (next value).Follows protocol post state) state) :
    (program >>= next).Follows protocol post state := by
  induction program generalizing state with
  | done value => exact follows
  | call request rest inductionHypothesis =>
      exact ⟨follows.1, fun reply expected =>
        inductionHypothesis reply (follows.2 reply expected)⟩

/-- A program that follows two protocols follows both at once. -/
theorem both
    {other : Protocol κ answer δ}
    {program : Program κ answer α}
    {post : γ → α → Prop}
    {otherPost : δ → α → Prop}
    {otherState : δ}
    (first : program.Follows protocol post state)
    (second : program.Follows other otherPost otherState) :
    program.Follows (protocol.both other)
      (fun states value => post states.1 value ∧ otherPost states.2 value)
      (state, otherState) := by
  induction program generalizing state otherState with
  | done value => exact ⟨first, second⟩
  | call request rest inductionHypothesis =>
      refine ⟨⟨first.1, second.1⟩, ?_⟩
      rintro reply ⟨firstExpected, secondExpected⟩
      exact inductionHypothesis reply (first.2 reply firstExpected)
        (second.2 reply secondExpected)

end Follows

/-- Replace every request by a program. -/
def interpret
    (handler : ∀ request, Program κ' answer' (answer request)) :
    Program κ answer α → Program κ' answer' α
  | .done value => .done value
  | .call request rest =>
      handler request >>= fun reply => (rest reply).interpret handler

/-- A program whose requests are replaced by programs that do what the protocol
of the requests says, in the states of their own protocol that are related to
it, follows the protocol of those programs. -/
theorem Follows.interpret_of_relates
    {inner : Protocol κ' answer' δ}
    {handler : ∀ request, Program κ' answer' (answer request)}
    {program : Program κ answer α}
    {post : γ → α → Prop}
    {relates : γ → δ → Prop}
    {state : γ}
    {position : δ}
    (handles : ∀ state position request, relates state position →
      protocol.allows state request →
        (handler request).Follows inner
          (fun after reply =>
            protocol.expects state ⟨request, reply⟩ ∧
              relates (protocol.next state ⟨request, reply⟩) after)
          position)
    (related : relates state position)
    (follows : program.Follows protocol post state) :
    (program.interpret handler).Follows inner
      (fun position value => ∃ state, relates state position ∧
        post state value)
      position := by
  induction program generalizing state position with
  | done value => exact ⟨state, related, follows⟩
  | call request rest inductionHypothesis =>
      apply Follows.bind
      apply (handles state position request related follows.1).mono
      rintro after reply ⟨expected, related⟩
      exact inductionHypothesis reply related (follows.2 reply expected)

/-- A program whose requests are replaced by programs that do what the protocol
of the requests says, follows the protocol of those programs. -/
theorem Follows.interpret
    {inner : Protocol κ' answer' γ}
    {handler : ∀ request, Program κ' answer' (answer request)}
    {program : Program κ answer α}
    {post : γ → α → Prop}
    {state : γ}
    (handles : ∀ state request, protocol.allows state request →
      (handler request).Follows inner
        (fun after reply =>
          protocol.expects state ⟨request, reply⟩ ∧
            after = protocol.next state ⟨request, reply⟩)
        state)
    (follows : program.Follows protocol post state) :
    (program.interpret handler).Follows inner post state := by
  have same : ∀ state position request, state = position →
      protocol.allows state request →
        (handler request).Follows inner
          (fun after reply =>
            protocol.expects state ⟨request, reply⟩ ∧
              protocol.next state ⟨request, reply⟩ = after)
          position := by
    rintro state _ request rfl allowed
    apply (handles state request allowed).mono
    rintro after reply ⟨expected, rfl⟩
    exact ⟨expected, rfl⟩
  apply (follows.interpret_of_relates same rfl).mono
  rintro position value ⟨_, rfl, holds⟩
  exact holds

end Program

/-! ## Programs over a shared state -/

/-- A shared state, what is left of the program of every thread, and what it has
asked for. -/
structure Threads (σ κ : Type) (answer : κ → Type) (α : Type) where
  shared : σ
  programs : Nat → Program κ answer α
  logs : Nat → List (Request κ answer)

namespace Threads

variable {σ κ : Type} {answer : κ → Type} {α γ : Type}

/-- One thread makes its next request, with an answer and an effect that are
possible in the shared state. -/
inductive Step (effect : σ → Request κ answer → σ → Prop) :
    Threads σ κ answer α → Threads σ κ answer α → Prop
  | call {state : Threads σ κ answer α} {thread : Nat} {request : κ}
      {rest : answer request → Program κ answer α} {reply : answer request}
      {shared : σ}
      (running : state.programs thread = .call request rest)
      (happens : effect state.shared ⟨request, reply⟩ shared) :
      Step effect state
        { shared
          programs := Function.update state.programs thread (rest reply)
          logs := Function.update state.logs thread
            (state.logs thread ++ [⟨request, reply⟩]) }

/-- States that are reached from a state. -/
abbrev Reaches (effect : σ → Request κ answer → σ → Prop) :
    Threads σ κ answer α → Threads σ κ answer α → Prop :=
  Relation.ReflTransGen (Step effect)

/-- The states of the protocol in which the threads are. -/
def positions
    (protocol : Protocol κ answer γ)
    (start : γ)
    (state : Threads σ κ answer α)
    (thread : Nat) : γ :=
  protocol.after start (state.logs thread)

/-- Every thread has followed the protocol and goes on doing so. -/
structure Obeys
    (protocol : Protocol κ answer γ)
    (start : γ)
    (post : γ → α → Prop)
    (state : Threads σ κ answer α) : Prop where
  accepted : ∀ thread, protocol.Accepts start (state.logs thread)
  follows : ∀ thread, (state.programs thread).Follows protocol post
    (state.positions protocol start thread)

variable
  {effect : σ → Request κ answer → σ → Prop}
  {protocol : Protocol κ answer γ}
  {start : γ}
  {post : γ → α → Prop}
  {invariant : σ → (Nat → γ) → Prop}

/-- The next request of a thread is allowed. -/
theorem Obeys.allows
    {state : Threads σ κ answer α}
    (obeys : state.Obeys protocol start post)
    {thread : Nat}
    {request : κ}
    {rest : answer request → Program κ answer α}
    (running : state.programs thread = .call request rest) :
    protocol.allows (state.positions protocol start thread) request := by
  have follows := obeys.follows thread
  rw [running] at follows
  exact follows.1

/-- A thread has ended as it should. -/
theorem Obeys.ended
    {state : Threads σ κ answer α}
    (obeys : state.Obeys protocol start post)
    {thread : Nat}
    {value : α}
    (done : state.programs thread = .done value) :
    post (state.positions protocol start thread) value := by
  have follows := obeys.follows thread
  rwa [done] at follows

/-- One step of one thread. -/
theorem Obeys.step
    {state next : Threads σ κ answer α}
    (obeys : state.Obeys protocol start post)
    (holds : invariant state.shared (state.positions protocol start))
    (preserved : ∀ shared positions thread event after,
      invariant shared positions →
        protocol.allows (positions thread) event.request →
          effect shared event after →
            protocol.expects (positions thread) event ∧
              invariant after (Function.update positions thread
                (protocol.next (positions thread) event)))
    (stepped : Step effect state next) :
    next.Obeys protocol start post ∧
      invariant next.shared (next.positions protocol start) := by
  cases stepped with
  | @call thread request rest reply shared running happens =>
      have current := obeys.follows thread
      rw [running] at current
      obtain ⟨expected, kept⟩ := preserved state.shared
        (state.positions protocol start) thread ⟨request, reply⟩ shared holds
        current.1 happens
      have moved : positions protocol start
          { shared
            programs := Function.update state.programs thread (rest reply)
            logs := Function.update state.logs thread
              (state.logs thread ++ [⟨request, reply⟩]) } =
          Function.update (state.positions protocol start) thread
            (protocol.next (state.positions protocol start thread)
              ⟨request, reply⟩) := by
        funext other
        by_cases same : other = thread
        · subst same
          simp [positions, protocol.after_append]
        · simp [positions, Function.update_of_ne same]
      rw [moved]
      refine ⟨⟨?_, ?_⟩, kept⟩
      · intro other
        by_cases same : other = thread
        · subst same
          have longer : protocol.Accepts start
              (state.logs other ++ [⟨request, reply⟩]) :=
            (obeys.accepted other).append current.1 expected
          simpa using longer
        · simpa [Function.update_of_ne same] using obeys.accepted other
      · intro other
        rw [moved]
        by_cases same : other = thread
        · subst same
          simpa using current.2 reply expected
        · simpa [Function.update_of_ne same] using obeys.follows other

/-- The invariant rule of threads. -/
theorem Obeys.reaches
    {state next : Threads σ κ answer α}
    (obeys : state.Obeys protocol start post)
    (holds : invariant state.shared (state.positions protocol start))
    (preserved : ∀ shared positions thread event after,
      invariant shared positions →
        protocol.allows (positions thread) event.request →
          effect shared event after →
            protocol.expects (positions thread) event ∧
              invariant after (Function.update positions thread
                (protocol.next (positions thread) event)))
    (reached : Reaches effect state next) :
    next.Obeys protocol start post ∧
      invariant next.shared (next.positions protocol start) := by
  induction reached with
  | refl => exact ⟨obeys, holds⟩
  | tail _ stepped inductionHypothesis =>
      exact inductionHypothesis.1.step inductionHypothesis.2 preserved stepped

/-! ### What was answered -/

/-- Requests that are possible one after the other. -/
inductive Happens (effect : σ → Request κ answer → σ → Prop) :
    σ → List (Request κ answer) → σ → Prop
  | nil {shared : σ} : Happens effect shared [] shared
  | cons {shared next last : σ} {event : Request κ answer}
      {log : List (Request κ answer)}
      (first : effect shared event next)
      (rest : Happens effect next log last) :
      Happens effect shared (event :: log) last

/-- A thread may go on while the others wait. -/
theorem reaches_of_leads
    {program rest : Program κ answer α}
    {log : List (Request κ answer)}
    (leads : program.Leads log rest)
    {state : Threads σ κ answer α}
    {thread : Nat}
    {shared : σ}
    (running : state.programs thread = program)
    (happens : Happens effect state.shared log shared) :
    Reaches effect state
      { shared
        programs := Function.update state.programs thread rest
        logs := Function.update state.logs thread
          (state.logs thread ++ log) } := by
  induction leads generalizing state with
  | refl program =>
      cases happens
      rw [← running, List.append_nil, Function.update_eq_self,
        Function.update_eq_self]
  | @call request next reply trace after _ inductionHypothesis =>
      cases happens with
      | @cons _ between _ _ _ first later =>
          let stepped : Threads σ κ answer α :=
            { shared := between
              programs := Function.update state.programs thread (next reply)
              logs := Function.update state.logs thread
                (state.logs thread ++ [⟨request, reply⟩]) }
          have reached := @inductionHypothesis stepped
            (Function.update_self thread _ state.programs) later
          have step : Step effect state stepped := .call running first
          apply Relation.ReflTransGen.head step
          simpa [stepped] using reached

/-- A thread may run to its end while the others wait. -/
theorem reaches_of_run
    {program : Program κ answer α}
    {log : List (Request κ answer)}
    {value : α}
    (run : program.Run log value)
    {state : Threads σ κ answer α}
    {thread : Nat}
    {shared : σ}
    (running : state.programs thread = program)
    (happens : Happens effect state.shared log shared) :
    Reaches effect state
      { shared
        programs := Function.update state.programs thread (.done value)
        logs := Function.update state.logs thread
          (state.logs thread ++ log) } :=
  reaches_of_leads run.leads running happens

end Threads

end TurboAccess
