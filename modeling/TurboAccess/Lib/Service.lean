import Mathlib.Logic.Basic

/-!
# Services

A service answers operations and changes its state; it may have several ways to
do so.  Two services are compared over sequences of operations: both can execute
every sequence, and however they do so, they give the same answers.
-/

namespace TurboAccess

variable {σ τ ω α : Type*}

/-- Execute operations one after the other, and collect the answers. -/
inductive Serves (serve : σ → ω → α → σ → Prop) :
    σ → List ω → List α → σ → Prop
  | nil {state : σ} : Serves serve state [] [] state
  | cons {start next finish : σ} {operation : ω} {answer : α}
      {operations : List ω} {answers : List α}
      (served : serve start operation answer next)
      (rest : Serves serve next operations answers finish) :
      Serves serve start (operation :: operations) (answer :: answers) finish

/-- A service with one way to execute each operation. -/
def Functional (serve : σ → ω → α × σ) (state : σ) (operation : ω) (answer : α)
    (next : σ) : Prop :=
  serve state operation = (answer, next)

/-- Both services execute every sequence of operations, they give the same
answers however they execute it, and the first one ends in a good state. -/
def SameAnswers
    (left : σ → ω → α → σ → Prop)
    (right : τ → ω → α → τ → Prop)
    (good : σ → Prop)
    (leftStart : σ)
    (rightStart : τ) : Prop :=
  ∀ operations,
    ((∃ answers finish, Serves left leftStart operations answers finish) ∧
      ∃ answers finish, Serves right rightStart operations answers finish) ∧
    ∀ leftAnswers rightAnswers leftFinish rightFinish,
      Serves left leftStart operations leftAnswers leftFinish →
        Serves right rightStart operations rightAnswers rightFinish →
          leftAnswers = rightAnswers ∧ good leftFinish

/-- Every operation can be executed, and gives the same answer and related
states from related states. -/
structure Simulates
    (left : σ → ω → α → σ → Prop)
    (right : τ → ω → α → τ → Prop)
    (related : σ → τ → Prop) : Prop where
  leftServes : ∀ state operation, ∃ answer next,
    left state operation answer next
  rightServes : ∀ state operation, ∃ answer next,
    right state operation answer next
  agree : ∀ {leftState rightState operation leftAnswer rightAnswer leftNext
      rightNext},
    related leftState rightState →
      left leftState operation leftAnswer leftNext →
        right rightState operation rightAnswer rightNext →
          leftAnswer = rightAnswer ∧ related leftNext rightNext

/-- A service that can execute every operation can execute every sequence. -/
theorem exists_serves
    {serve : σ → ω → α → σ → Prop}
    (served : ∀ state operation, ∃ answer next,
      serve state operation answer next)
    (start : σ)
    (operations : List ω) :
    ∃ answers finish, Serves serve start operations answers finish := by
  induction operations generalizing start with
  | nil => exact ⟨[], start, .nil⟩
  | cons operation operations inductionHypothesis =>
      obtain ⟨answer, next, first⟩ := served start operation
      obtain ⟨answers, finish, rest⟩ := inductionHypothesis next
      exact ⟨answer :: answers, finish, .cons first rest⟩

namespace Simulates

variable
  {left : σ → ω → α → σ → Prop}
  {right : τ → ω → α → τ → Prop}
  {related : σ → τ → Prop}

theorem ofFunctions
    {left : σ → ω → α × σ}
    {right : τ → ω → α × τ}
    (agree : ∀ {leftState rightState}, related leftState rightState →
      ∀ operation,
        (left leftState operation).1 = (right rightState operation).1 ∧
          related (left leftState operation).2
            (right rightState operation).2) :
    Simulates (Functional left) (Functional right) related where
  leftServes := fun _ _ => ⟨_, _, rfl⟩
  rightServes := fun _ _ => ⟨_, _, rfl⟩
  agree := by
    intro leftState rightState operation leftAnswer rightAnswer leftNext
      rightNext states leftServed rightServed
    have both := agree states operation
    rwa [show left leftState operation = _ from leftServed,
      show right rightState operation = _ from rightServed] at both

/-- Sequences give the same answers and related states. -/
theorem serves
    (simulates : Simulates left right related)
    {leftStart leftFinish : σ}
    {rightStart rightFinish : τ}
    {operations : List ω}
    {leftAnswers rightAnswers : List α}
    (start : related leftStart rightStart)
    (leftServes : Serves left leftStart operations leftAnswers leftFinish)
    (rightServes :
      Serves right rightStart operations rightAnswers rightFinish) :
    leftAnswers = rightAnswers ∧ related leftFinish rightFinish := by
  induction leftServes generalizing rightStart rightAnswers with
  | nil =>
      cases rightServes
      exact ⟨rfl, start⟩
  | cons leftServed leftRest inductionHypothesis =>
      cases rightServes with
      | cons rightServed rightRest =>
          obtain ⟨same, between⟩ :=
            simulates.agree start leftServed rightServed
          obtain ⟨later, finish⟩ := inductionHypothesis between rightRest
          exact ⟨by rw [same, later], finish⟩

theorem sameAnswers
    (simulates : Simulates left right related)
    {good : σ → Prop}
    (isGood : ∀ {leftState rightState}, related leftState rightState →
      good leftState)
    {leftStart : σ}
    {rightStart : τ}
    (start : related leftStart rightStart) :
    SameAnswers left right good leftStart rightStart := by
  intro operations
  refine ⟨⟨exists_serves simulates.leftServes leftStart operations,
    exists_serves simulates.rightServes rightStart operations⟩, ?_⟩
  intro leftAnswers rightAnswers leftFinish rightFinish leftServes rightServes
  obtain ⟨same, finish⟩ := simulates.serves start leftServes rightServes
  exact ⟨same, isGood finish⟩

end Simulates

end TurboAccess
