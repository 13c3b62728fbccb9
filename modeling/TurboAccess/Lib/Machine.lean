import Mathlib.Logic.Function.Basic

/-!
# Labelled machines and thread pools

A machine takes a step for a label, or refuses it.  A path is a finite run,
every step of which satisfies a guard on the state before the step and on the
label; the guard `fun _ _ => True` gives all runs.  A thread pool is the
machine of any number of threads over one shared state, in which each step is
one atomic section of one thread.

The invariant rules state what one step must preserve, and conclude what every
run preserves.
-/

namespace TurboAccess

/-- A machine with a partial step for every label. -/
structure Machine (σ ℓ : Type*) where
  initial : σ → Prop
  step : σ → ℓ → Option σ

namespace Machine

variable {σ ℓ : Type*} (machine : Machine σ ℓ) (guard : σ → ℓ → Prop)

/-- Runs of a machine whose steps all satisfy a guard. -/
inductive Path : σ → List ℓ → σ → Prop
  | nil {state : σ} : Path state [] state
  | cons {start next finish : σ} {label : ℓ} {labels : List ℓ}
      (allowed : guard start label)
      (stepped : machine.step start label = some next)
      (rest : Path next labels finish) :
      Path start (label :: labels) finish

/-- States reached from an initial state by steps that satisfy a guard. -/
def Reachable (state : σ) : Prop :=
  ∃ start labels, machine.initial start ∧
    machine.Path guard start labels state

/-- Execute a list of labels, as long as each is allowed and not refused. -/
def run
    [∀ state label, Decidable (guard state label)]
    (state : σ) : List ℓ → Option σ
  | [] => some state
  | label :: labels =>
      if guard state label then
        (machine.step state label).bind (run · labels)
      else none

/-- Execute labels up to a step, the step, and labels after it; the states
before and after the step, and the last one. -/
def runAround
    [∀ state label, Decidable (guard state label)]
    (start : σ)
    (first : List ℓ)
    (label : ℓ)
    (second : List ℓ) : Option (σ × σ × σ) := do
  let before ← machine.run guard start first
  let after ← machine.run guard before [label]
  let finish ← machine.run guard after second
  return (before, after, finish)

variable {machine guard}

/-- The guard that allows every step. -/
abbrev always : σ → ℓ → Prop := fun _ _ => True

/-- An executed list of labels is a run. -/
theorem path_of_run
    [∀ state label, Decidable (guard state label)]
    {start finish : σ}
    {labels : List ℓ}
    (executed : machine.run guard start labels = some finish) :
    machine.Path guard start labels finish := by
  induction labels generalizing start with
  | nil =>
      simp only [run, Option.some.injEq] at executed
      subst executed
      exact .nil
  | cons label labels inductionHypothesis =>
      simp only [run, Option.ite_none_right_eq_some,
        Option.bind_eq_some_iff] at executed
      obtain ⟨allowed, next, stepped, rest⟩ := executed
      exact .cons allowed stepped (inductionHypothesis rest)

/-- A run is what executing its labels gives. -/
theorem run_of_path
    [∀ state label, Decidable (guard state label)]
    {start finish : σ}
    {labels : List ℓ}
    (path : machine.Path guard start labels finish) :
    machine.run guard start labels = some finish := by
  induction path with
  | nil => rfl
  | cons allowed stepped _ inductionHypothesis =>
      rw [run, if_pos allowed, stepped]
      exact inductionHypothesis

namespace Path

/-- Two consecutive runs are one run. -/
theorem append
    {start middle finish : σ}
    {first second : List ℓ}
    (left : machine.Path guard start first middle)
    (right : machine.Path guard middle second finish) :
    machine.Path guard start (first ++ second) finish := by
  induction left with
  | nil => exact right
  | cons allowed stepped _ inductionHypothesis =>
      exact .cons allowed stepped (inductionHypothesis right)

/-- A run over a concatenated list of labels splits in the middle. -/
theorem split
    {start finish : σ}
    {first second : List ℓ}
    (path : machine.Path guard start (first ++ second) finish) :
    ∃ middle, machine.Path guard start first middle ∧
      machine.Path guard middle second finish := by
  induction first generalizing start with
  | nil => exact ⟨start, .nil, path⟩
  | cons label labels inductionHypothesis =>
      cases path with
      | cons allowed stepped rest =>
          obtain ⟨middle, left, right⟩ := inductionHypothesis rest
          exact ⟨middle, .cons allowed stepped left, right⟩

/-- Runs over the same labels end in the same state, whatever they are guarded
by. -/
theorem finish_unique
    {other : σ → ℓ → Prop}
    {start first second : σ}
    {labels : List ℓ}
    (left : machine.Path guard start labels first)
    (right : machine.Path other start labels second) :
    first = second := by
  induction left with
  | nil =>
      cases right
      rfl
  | cons _ stepped _ inductionHypothesis =>
      cases right with
      | cons _ again rest =>
          rw [stepped] at again
          cases again
          exact inductionHypothesis rest

/-- A weaker guard allows more runs. -/
theorem mono
    {weaker : σ → ℓ → Prop}
    {start finish : σ}
    {labels : List ℓ}
    (path : machine.Path guard start labels finish)
    (weaken : ∀ state label, guard state label → weaker state label) :
    machine.Path weaker start labels finish := by
  induction path with
  | nil => exact .nil
  | cons allowed stepped _ inductionHypothesis =>
      exact .cons (weaken _ _ allowed) stepped inductionHypothesis

/-- A property preserved by every allowed step is preserved by every run. -/
theorem preserves
    {property : σ → Prop}
    {start finish : σ}
    {labels : List ℓ}
    (path : machine.Path guard start labels finish)
    (preserved : ∀ state label next, property state → guard state label →
      machine.step state label = some next → property next)
    (holds : property start) :
    property finish := by
  induction path with
  | nil => exact holds
  | cons allowed stepped _ inductionHypothesis =>
      exact inductionHypothesis (preserved _ _ _ holds allowed stepped)

/-- The first step of a run is allowed, and a run follows it. -/
theorem of_cons
    {start next finish : σ}
    {label : ℓ}
    {labels : List ℓ}
    (path : machine.Path guard start (label :: labels) finish)
    (stepped : machine.step start label = some next) :
    guard start label ∧ machine.Path guard next labels finish := by
  cases path with
  | cons allowed again rest =>
      rw [stepped] at again
      cases again
      exact ⟨allowed, rest⟩

/-- Where a step keeps a property exactly when it satisfies a guard, a run has the
property at all its points exactly when its steps satisfy the guard. -/
theorem throughout_iff
    {invariant property : σ → Prop}
    {start finish : σ}
    {labels : List ℓ}
    (path : machine.Path always start labels finish)
    (preserved : ∀ state label next, invariant state →
      machine.step state label = some next → invariant next)
    (keeps_iff : ∀ state label next, invariant state → property state →
      machine.step state label = some next →
        (property next ↔ guard state label))
    (known : invariant start)
    (holds : property start) :
    (∀ first middle, first <+: labels →
        machine.Path always start first middle → property middle) ↔
      machine.Path guard start labels finish := by
  induction path with
  | nil =>
      refine iff_of_true ?_ .nil
      intro first middle listed left
      cases List.prefix_nil.mp listed
      cases left
      exact holds
  | @cons start next finish label labels _ stepped rest inductionHypothesis =>
      have tail := inductionHypothesis
        (preserved _ _ _ known stepped)
      have head := keeps_iff _ _ _ known holds stepped
      constructor
      · intro throughout
        have holdsNext := throughout [label] next (by simp)
          (.cons trivial stepped .nil)
        refine .cons (head.mp holdsNext) stepped ((tail holdsNext).mp ?_)
        intro first middle listed left
        exact throughout (label :: first) middle (by simpa using listed)
          (.cons trivial stepped left)
      · intro guarded
        obtain ⟨allowed, guardedRest⟩ := guarded.of_cons stepped
        have holdsNext := head.mpr allowed
        rintro first middle listed (_ | ⟨_, again, left⟩)
        · exact holds
        · obtain ⟨rfl, listedRest⟩ := List.cons_prefix_cons.mp listed
          rw [stepped] at again
          cases again
          exact (tail holdsNext).mpr guardedRest _ _ listedRest left

/-- A property of the labels so far and of the state, kept by every allowed
step, is kept by every run. -/
theorem history
    {property : List ℓ → σ → Prop}
    {start finish : σ}
    {prior labels : List ℓ}
    (path : machine.Path guard start labels finish)
    (preserved : ∀ prior state label next, property prior state →
      guard state label → machine.step state label = some next →
        property (prior ++ [label]) next)
    (holds : property prior start) :
    property (prior ++ labels) finish := by
  induction path generalizing prior with
  | nil => simpa using holds
  | cons allowed stepped _ inductionHypothesis =>
      have next := inductionHypothesis
        (preserved _ _ _ _ holds allowed stepped)
      simpa using next

end Path

namespace Reachable

/-- The state an executed list of labels ends in is reachable. -/
theorem of_run
    [∀ state label, Decidable (guard state label)]
    {start finish : σ}
    {labels : List ℓ}
    (initial : machine.initial start)
    (executed : machine.run guard start labels = some finish) :
    machine.Reachable guard finish :=
  ⟨start, labels, initial, path_of_run executed⟩

/-- What is observed of the state an executed list of labels ends in is
observed of a reachable state. -/
theorem of_run_map
    {α : Type*}
    [∀ state label, Decidable (guard state label)]
    {start : σ}
    {labels : List ℓ}
    {observe : σ → α}
    {value : α}
    (initial : machine.initial start)
    (executed : (machine.run guard start labels).map observe = some value) :
    ∃ state, machine.Reachable guard state ∧ observe state = value := by
  obtain ⟨state, ended, observed⟩ := Option.map_eq_some_iff.mp executed
  exact ⟨state, of_run initial ended, observed⟩

/-- A weaker guard reaches more states. -/
theorem mono
    {weaker : σ → ℓ → Prop}
    {state : σ}
    (reachable : machine.Reachable guard state)
    (weaken : ∀ state label, guard state label → weaker state label) :
    machine.Reachable weaker state := by
  obtain ⟨start, labels, initial, path⟩ := reachable
  exact ⟨start, labels, initial, path.mono weaken⟩

/-- A state reached from a reachable state is reachable. -/
theorem path
    {state next : σ}
    {labels : List ℓ}
    (reachable : machine.Reachable guard state)
    (run : machine.Path guard state labels next) :
    machine.Reachable guard next := by
  obtain ⟨start, before, initial, path⟩ := reachable
  exact ⟨start, before ++ labels, initial, path.append run⟩

/-- A state one allowed step from a reachable state is reachable. -/
theorem step
    {state next : σ}
    {label : ℓ}
    (reachable : machine.Reachable guard state)
    (allowed : guard state label)
    (stepped : machine.step state label = some next) :
    machine.Reachable guard next :=
  reachable.path (.cons allowed stepped .nil)

/-- The invariant rule: what holds initially and is kept by every allowed step
holds in every reachable state. -/
theorem invariant
    {property : σ → Prop}
    {state : σ}
    (reachable : machine.Reachable guard state)
    (initially : ∀ start, machine.initial start → property start)
    (preserved : ∀ state label next, property state → guard state label →
      machine.step state label = some next → property next) :
    property state := by
  obtain ⟨start, labels, initial, path⟩ := reachable
  exact path.preserves preserved (initially start initial)

/-- The invariant rule relative to what is known of reachable states. -/
theorem induction
    {property : σ → Prop}
    {state : σ}
    (reachable : machine.Reachable guard state)
    (initially : ∀ start, machine.initial start → property start)
    (preserved : ∀ state label next, machine.Reachable guard state →
      property state → guard state label →
        machine.step state label = some next → property next) :
    property state := by
  let both : σ → Prop := fun state =>
    machine.Reachable guard state ∧ property state
  have holds : both state := by
    refine reachable.invariant ?_ ?_
    · intro start initial
      exact ⟨⟨start, [], initial, .nil⟩, initially start initial⟩
    · rintro before label after ⟨reached, holds⟩ allowed stepped
      exact ⟨reached.step allowed stepped,
        preserved before label after reached holds allowed stepped⟩
  exact holds.2

end Reachable

end Machine

/-! ## Thread pools -/

/-- Any number of threads over one shared state. -/
structure Pool (σ φ : Type*) where
  shared : σ
  threads : Nat → φ

namespace Pool

variable {σ φ ι : Type*}

/-- Let one thread execute its next atomic section on the given input. -/
def step
    (advance : σ → φ → ι → Option (σ × φ))
    (pool : Pool σ φ)
    (label : Nat × ι) : Option (Pool σ φ) :=
  (advance pool.shared (pool.threads label.1) label.2).map fun result =>
    { shared := result.1
      threads := Function.update pool.threads label.1 result.2 }

/-- A step of a pool is an atomic section of one of its threads. -/
theorem step_eq_some
    {advance : σ → φ → ι → Option (σ × φ)}
    {pool next : Pool σ φ}
    {label : Nat × ι}
    (stepped : pool.step advance label = some next) :
    ∃ shared frame,
      advance pool.shared (pool.threads label.1) label.2 =
          some (shared, frame) ∧
        next = ⟨shared, Function.update pool.threads label.1 frame⟩ := by
  simp only [step, Option.map_eq_some_iff, Prod.exists] at stepped
  obtain ⟨shared, frame, moved, rfl⟩ := stepped
  exact ⟨shared, frame, moved, rfl⟩

/-- A pool invariant: one property of the shared state, one of every thread
against the shared state, and one of every two distinct threads. -/
structure Holds
    (sharedProperty : σ → Prop)
    (threadProperty : σ → φ → Prop)
    (pairProperty : φ → φ → Prop)
    (pool : Pool σ φ) : Prop where
  shared : sharedProperty pool.shared
  thread : ∀ thread, threadProperty pool.shared (pool.threads thread)
  pair : ∀ first second, first ≠ second →
    pairProperty (pool.threads first) (pool.threads second)

/-- One section keeps a pool invariant when it establishes the property of the
moving thread, and keeps those of all others and their relation to it. -/
theorem Holds.update
    {sharedProperty : σ → Prop}
    {threadProperty : σ → φ → Prop}
    {pairProperty : φ → φ → Prop}
    {pool : Pool σ φ}
    {shared : σ}
    {mover : Nat}
    {frame : φ}
    (holds : pool.Holds sharedProperty threadProperty pairProperty)
    (symmetric : ∀ first second,
      pairProperty first second → pairProperty second first)
    (sharedKept : sharedProperty shared)
    (own : threadProperty shared frame)
    (others : ∀ other, other ≠ mover →
      threadProperty shared (pool.threads other))
    (pairs : ∀ other, other ≠ mover →
      pairProperty frame (pool.threads other)) :
    Holds sharedProperty threadProperty pairProperty
      ⟨shared, Function.update pool.threads mover frame⟩ where
  shared := sharedKept
  thread :=
    (Function.forall_update_iff _ fun _ => threadProperty shared).mpr
      ⟨own, others⟩
  pair := by
    intro first second distinct
    by_cases firstMoves : first = mover
    · subst firstMoves
      simpa [Function.update_of_ne distinct.symm] using
        pairs second distinct.symm
    · by_cases secondMoves : second = mover
      · subst secondMoves
        simpa [Function.update_of_ne firstMoves] using
          symmetric _ _ (pairs first firstMoves)
      · simpa [Function.update_of_ne firstMoves,
          Function.update_of_ne secondMoves] using
          holds.pair first second distinct

/-- All threads from a bound on are in one state. -/
def RestAt (pool : Pool σ φ) (bound : Nat) (idle : φ) : Prop :=
  ∀ thread, bound ≤ thread → pool.threads thread = idle

/-- What holds of the threads below the bound and of a thread at rest holds of
all threads. -/
theorem RestAt.forall
    {pool : Pool σ φ}
    {bound : Nat}
    {idle : φ}
    (rest : pool.RestAt bound idle)
    (property : φ → Prop)
    (resting : property idle)
    (below : ∀ thread < bound, property (pool.threads thread))
    (thread : Nat) :
    property (pool.threads thread) := by
  by_cases small : thread < bound
  · exact below thread small
  · rw [rest thread (by omega)]
    exact resting

/-- A step of a thread below the bound leaves the threads beyond it alone. -/
theorem RestAt.step
    {advance : σ → φ → ι → Option (σ × φ)}
    {pool next : Pool σ φ}
    {label : Nat × ι}
    {bound : Nat}
    {idle : φ}
    (rest : pool.RestAt bound idle)
    (below : label.1 < bound)
    (stepped : pool.step advance label = some next) :
    next.RestAt bound idle := by
  obtain ⟨shared, frame, _, rfl⟩ := step_eq_some stepped
  intro thread beyond
  have distinct : thread ≠ label.1 := by omega
  simp only [Function.update_of_ne distinct]
  exact rest thread beyond

/-- A run of the threads below a bound, under a guard that need only be right
when all other threads are idle, is a run under the guard it stands for. -/
theorem path_of_run_below
    {machine : Machine (Pool σ φ) (Nat × ι)}
    {advance : σ → φ → ι → Option (σ × φ)}
    {guard below : Pool σ φ → Nat × ι → Prop}
    [∀ pool label, Decidable (below pool label)]
    (bound : Nat)
    (idle : φ)
    (steps : machine.step = step advance)
    (stronger : ∀ pool label, pool.RestAt bound idle →
      below pool label → guard pool label)
    {start finish : Pool σ φ}
    {labels : List (Nat × ι)}
    (rest : start.RestAt bound idle)
    (threads : ∀ label ∈ labels, label.1 < bound)
    (executed : machine.run below start labels = some finish) :
    machine.Path guard start labels finish ∧ finish.RestAt bound idle := by
  induction labels generalizing start with
  | nil =>
      simp only [Machine.run, Option.some.injEq] at executed
      subst executed
      exact ⟨.nil, rest⟩
  | cons label labels inductionHypothesis =>
      simp only [Machine.run, Option.ite_none_right_eq_some,
        Option.bind_eq_some_iff] at executed
      obtain ⟨allowed, next, stepped, continued⟩ := executed
      have restNext : next.RestAt bound idle :=
        rest.step (threads label List.mem_cons_self) (steps ▸ stepped)
      obtain ⟨path, restFinish⟩ := inductionHypothesis restNext
        (fun other member => threads other (List.mem_cons_of_mem _ member))
        continued
      exact ⟨.cons (stronger start label rest allowed) stepped path,
        restFinish⟩

/-- The three parts of an execution around a step, under the guard that the
executed one stands for. -/
theorem path_of_runAround_below
    {machine : Machine (Pool σ φ) (Nat × ι)}
    {advance : σ → φ → ι → Option (σ × φ)}
    {guard below : Pool σ φ → Nat × ι → Prop}
    [∀ pool label, Decidable (below pool label)]
    (bound : Nat)
    (idle : φ)
    (steps : machine.step = step advance)
    (stronger : ∀ pool label, pool.RestAt bound idle →
      below pool label → guard pool label)
    {start : Pool σ φ}
    {result : Pool σ φ × Pool σ φ × Pool σ φ}
    {first second : List (Nat × ι)}
    {label : Nat × ι}
    (rest : start.RestAt bound idle)
    (threads : ∀ other ∈ first ++ label :: second, other.1 < bound)
    (executed : machine.runAround below start first label second =
      some result) :
    machine.Path guard start first result.1 ∧
      guard result.1 label ∧
      machine.step result.1 label = some result.2.1 ∧
      machine.Path guard result.2.1 second result.2.2 ∧
      result.2.2.RestAt bound idle := by
  simp only [Machine.runAround, Option.bind_eq_bind, Option.bind_eq_some_iff,
    Option.pure_def, Option.some.injEq] at executed
  obtain ⟨_, firstRun, _, stepRun, _, secondRun, rfl⟩ := executed
  obtain ⟨firstPath, firstRest⟩ := path_of_run_below bound idle steps stronger
    rest (fun other member => threads other (by simp [member])) firstRun
  obtain ⟨stepPath, stepRest⟩ := path_of_run_below bound idle steps stronger
    firstRest (fun other member => threads other (by simp_all)) stepRun
  obtain ⟨secondPath, secondRest⟩ := path_of_run_below bound idle steps
    stronger stepRest (fun other member => threads other (by simp [member]))
    secondRun
  cases stepPath with
  | cons allowed stepped nothing =>
      cases nothing
      exact ⟨firstPath, allowed, stepped, secondPath, secondRest⟩

end Pool

end TurboAccess
