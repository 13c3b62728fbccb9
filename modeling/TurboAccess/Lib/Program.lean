import Mathlib.Data.List.Basic

/-!
# Programs that make requests

A program has ended with a value, or makes a request of its environment and goes
on with the answer.  Its runs are the sequences of requests with their answers.

What holds of every trace and value is shown request by request, and of programs
one after the other by appending their traces; so is what holds of every request
by itself.
-/

namespace TurboAccess

/-- A program over requests whose answers are of the given types. -/
inductive Program (κ : Type) (answer : κ → Type) (α : Type) : Type
  | done (value : α)
  | call (request : κ) (next : answer request → Program κ answer α)

/-- A request with its answer. -/
structure Request (κ : Type) (answer : κ → Type) where
  request : κ
  reply : answer request

namespace Program

variable {κ : Type} {answer : κ → Type} {α β : Type}

/-- One program, and another one with its value. -/
protected def bind (next : α → Program κ answer β) :
    Program κ answer α → Program κ answer β
  | .done value => next value
  | .call request rest => .call request fun reply => (rest reply).bind next

instance : Monad (Program κ answer) where
  pure := .done
  bind program next := program.bind next

/-- Make a request. -/
def perform (request : κ) : Program κ answer (answer request) :=
  .call request .done

/-! ## Runs -/

/-- A program makes requests, gets their answers, and ends with a value. -/
inductive Run : Program κ answer α → List (Request κ answer) → α → Prop
  | done (value : α) : Run (.done value) [] value
  | call {request : κ}
      {next : answer request → Program κ answer α}
      {reply : answer request}
      {trace : List (Request κ answer)}
      {value : α}
      (rest : Run (next reply) trace value) :
      Run (.call request next) (⟨request, reply⟩ :: trace) value

/-- A program makes requests, gets their answers, and goes on as another one. -/
inductive Leads :
    Program κ answer α → List (Request κ answer) → Program κ answer α → Prop
  | refl (program : Program κ answer α) : Leads program [] program
  | call {request : κ}
      {next : answer request → Program κ answer α}
      {reply : answer request}
      {trace : List (Request κ answer)}
      {after : Program κ answer α}
      (rest : Leads (next reply) trace after) :
      Leads (.call request next) (⟨request, reply⟩ :: trace) after

/-- A run leads to the end of the program. -/
theorem Run.leads
    {program : Program κ answer α}
    {trace : List (Request κ answer)}
    {value : α}
    (run : program.Run trace value) :
    program.Leads trace (.done value) := by
  induction run with
  | done value => exact .refl (.done value)
  | call _ inductionHypothesis => exact .call inductionHypothesis

/-- A run of two programs is a run of the one and a run of the other. -/
theorem run_bind
    {program : Program κ answer α}
    {next : α → Program κ answer β}
    {trace : List (Request κ answer)}
    {value : β}
    (run : (program >>= next).Run trace value) :
    ∃ first between second, trace = first ++ second ∧
      program.Run first between ∧ (next between).Run second value := by
  induction program generalizing trace with
  | done between => exact ⟨[], between, trace, rfl, .done between, run⟩
  | call request rest inductionHypothesis =>
      cases run with
      | call run =>
          obtain ⟨first, between, second, rfl, left, right⟩ :=
            inductionHypothesis _ run
          exact ⟨_, between, second, rfl, .call left, right⟩

/-- Execute a program with the answers of an oracle. -/
def runWith (oracle : ∀ request, answer request) :
    Program κ answer α → List (Request κ answer) × α
  | .done value => ([], value)
  | .call request next =>
      let (trace, value) := (next (oracle request)).runWith oracle
      (⟨request, oracle request⟩ :: trace, value)

/-- What an oracle gives is a run. -/
theorem run_runWith
    (oracle : ∀ request, answer request)
    (program : Program κ answer α) :
    program.Run (program.runWith oracle).1 (program.runWith oracle).2 := by
  induction program with
  | done value => exact .done value
  | call request next inductionHypothesis =>
      exact .call (inductionHypothesis (oracle request))

/-- Every run has a trace and a value with a property. -/
def Ensures : Program κ answer α → (List (Request κ answer) → α → Prop) → Prop
  | .done value, property => property [] value
  | .call request next, property => ∀ reply,
      (next reply).Ensures fun trace value =>
        property (⟨request, reply⟩ :: trace) value

theorem Ensures.of_run
    {program : Program κ answer α}
    {property : List (Request κ answer) → α → Prop}
    (ensures_ : program.Ensures property)
    {trace : List (Request κ answer)}
    {value : α}
    (run : program.Run trace value) :
    property trace value := by
  induction run generalizing property with
  | done => exact ensures_
  | call rest inductionHypothesis => exact inductionHypothesis (ensures_ _)

/-- A weaker property is ensured too. -/
theorem Ensures.mono
    {program : Program κ answer α}
    {property weaker : List (Request κ answer) → α → Prop}
    (ensures_ : program.Ensures property)
    (weaken : ∀ trace value, property trace value → weaker trace value) :
    program.Ensures weaker := by
  induction program generalizing property weaker with
  | done value => exact weaken [] value ensures_
  | call request next inductionHypothesis =>
      intro reply
      exact inductionHypothesis reply (ensures_ reply)
        fun trace value => weaken (⟨request, reply⟩ :: trace) value

/-- Two programs, one after the other. -/
theorem Ensures.bind
    {program : Program κ answer α}
    {next : α → Program κ answer β}
    {property : List (Request κ answer) → β → Prop}
    (ensures_ : program.Ensures fun first between =>
      (next between).Ensures fun second value =>
        property (first ++ second) value) :
    (program >>= next).Ensures property := by
  induction program generalizing property with
  | done between => exact ensures_
  | call request rest inductionHypothesis =>
      intro reply
      exact inductionHypothesis reply (ensures_ reply)

/-! ## What every request has -/

/-- Every request has a property, whatever its answer is. -/
def Always (property : Request κ answer → Prop) : Program κ answer α → Prop
  | .done _ => True
  | .call request next => ∀ reply,
      property ⟨request, reply⟩ ∧ (next reply).Always property

/-- The requests of two programs, one after the other. -/
theorem Always.bind
    {property : Request κ answer → Prop}
    {program : Program κ answer α}
    {next : α → Program κ answer β}
    (always : program.Always property)
    (rest : ∀ value, (next value).Always property) :
    (program >>= next).Always property := by
  induction program with
  | done value => exact rest value
  | call request continue_ inductionHypothesis =>
      intro reply
      exact ⟨(always reply).1, inductionHypothesis reply (always reply).2⟩

theorem Always.ensures
    {property : Request κ answer → Prop}
    {program : Program κ answer α}
    (always : program.Always property) :
    program.Ensures fun trace _ => ∀ request ∈ trace, property request := by
  induction program with
  | done value =>
      intro request member
      cases member
  | call request next inductionHypothesis =>
      intro reply
      apply (inductionHypothesis reply (always reply).2).mono
      intro trace value rest
      exact List.forall_mem_cons.mpr ⟨(always reply).1, rest⟩

end Program

end TurboAccess
