import Mathlib.Data.Finset.Card
import TurboAccess.Lib.Machine

/-!
# The executor of the client

A call of `Submit` tests the stop flag, counts its task as in flight, starts a
bthread for it (or runs it inline when the start fails), and the task is
subtracted again when it has run.  A call of `Shutdown` sets the flag, polls the
counter until it is zero or the grace period is over, and answers whether a last
load finds no task in flight.

The flag and the counter are two atomics: a `Submit` that has passed its test is
not counted yet, so that `Shutdown` can answer `true` before its task starts.
-/

namespace TurboAccess
namespace Client

/-- Where a call of `Submit` and its task are: the call has not been made, has
thrown, has passed the test of the flag, has counted its task; the task waits on
its bthread, is about to run inline, runs, has run, or has been subtracted. -/
inductive Submission
  | uncalled
  | threw
  | checked
  | counted
  | queued
  | unstarted
  | running
  | ran
  | finished
  deriving DecidableEq, Repr

namespace Submission

/-- The task is counted as in flight. -/
def InFlight (submission : Submission) : Prop :=
  submission = .counted ∨ submission = .queued ∨ submission = .unstarted ∨
    submission = .running ∨ submission = .ran

/-- The task does not run, and will not. -/
def Over (submission : Submission) : Prop :=
  submission = .threw ∨ submission = .finished

end Submission

/-- Where a call of `Shutdown` is: not made, about to poll the counter, about to
load it for the answer, or returned. -/
inductive ShutdownCall
  | uncalled
  | polling
  | deciding
  | returned (clean : Bool)
  deriving DecidableEq, Repr

/-- The executor and the calls, each with a number. -/
structure ClientExecutor where
  stop : Bool
  inflight : Int
  uncleanShutdowns : Int
  submits : Nat → Submission
  shutdowns : Nat → ShutdownCall

namespace ClientExecutor

/-- An executor that has just been constructed. -/
def init : ClientExecutor where
  stop := false
  inflight := 0
  uncleanShutdowns := 0
  submits := fun _ => .uncalled
  shutdowns := fun _ => .uncalled

/-! ## Steps -/

/-- Move a call of `Submit`. -/
def setSubmit
    (executor : ClientExecutor)
    (task : Nat)
    (submission : Submission) : ClientExecutor :=
  { executor with submits := Function.update executor.submits task submission }

/-- Move a call of `Shutdown`. -/
def setShutdown
    (executor : ClientExecutor)
    (call : Nat)
    (shutdown : ShutdownCall) : ClientExecutor :=
  { executor with
    shutdowns := Function.update executor.shutdowns call shutdown }

@[simp] theorem setSubmit_submits_self
    (executor : ClientExecutor)
    (task : Nat)
    (submission : Submission) :
    (executor.setSubmit task submission).submits task = submission :=
  Function.update_self ..

theorem setSubmit_submits_of_ne
    (executor : ClientExecutor)
    {task other : Nat}
    (different : other ≠ task)
    (submission : Submission) :
    (executor.setSubmit task submission).submits other =
      executor.submits other :=
  Function.update_of_ne different ..

/-- Next step of a call of `Submit` or of its task; `starts` is the outcome of
`bthread_start_background`. -/
def stepSubmit (executor : ClientExecutor) (task : Nat) (starts : Bool) :
    Option ClientExecutor :=
  match executor.submits task with
  | .uncalled =>
      if executor.stop then some (executor.setSubmit task .threw)
      else some (executor.setSubmit task .checked)
  | .checked =>
      some ({ executor with inflight := executor.inflight + 1 }.setSubmit task
        .counted)
  | .counted =>
      if starts then some (executor.setSubmit task .queued)
      else some (executor.setSubmit task .unstarted)
  | .queued => some (executor.setSubmit task .running)
  | .unstarted => some (executor.setSubmit task .running)
  | .running => some (executor.setSubmit task .ran)
  | .ran =>
      some ({ executor with inflight := executor.inflight - 1 }.setSubmit task
        .finished)
  | .threw => none
  | .finished => none

/-- Next step of a call of `Shutdown`; `timeLeft` says whether the clock is
before the deadline. -/
def stepShutdown (executor : ClientExecutor) (call : Nat) (timeLeft : Bool) :
    Option ClientExecutor :=
  match executor.shutdowns call with
  | .uncalled => some ({ executor with stop := true }.setShutdown call .polling)
  | .polling =>
      if executor.inflight > 0 ∧ timeLeft then some executor
      else some (executor.setShutdown call .deciding)
  | .deciding =>
      if executor.inflight > 0 then
        some ({ executor with
          uncleanShutdowns := executor.uncleanShutdowns + 1 }.setShutdown call
            (.returned false))
      else some (executor.setShutdown call (.returned true))
  | .returned _ => none

/-- What moves the executor: a call of `Submit` or its task, or a call of
`Shutdown`. -/
inductive Action
  | submit (task : Nat) (starts : Bool)
  | shutdown (call : Nat) (timeLeft : Bool)
  deriving DecidableEq, Repr

def step (executor : ClientExecutor) : Action → Option ClientExecutor
  | .submit task starts => executor.stepSubmit task starts
  | .shutdown call timeLeft => executor.stepShutdown call timeLeft

/-- All interleavings of calls of `Submit` and `Shutdown`. -/
def machine : Machine ClientExecutor Action where
  initial executor := executor = init
  step := step

/-! ## What one step can do -/

/-- The steps of an executor. -/
inductive Steps (executor : ClientExecutor) :
    Action → ClientExecutor → Prop
  | refused (task : Nat) (starts : Bool)
      (uncalled : executor.submits task = .uncalled) :
      Steps executor (.submit task starts) (executor.setSubmit task .threw)
  | checked (task : Nat) (starts : Bool)
      (uncalled : executor.submits task = .uncalled)
      (going : executor.stop = false) :
      Steps executor (.submit task starts) (executor.setSubmit task .checked)
  | counted (task : Nat) (starts : Bool)
      (checked : executor.submits task = .checked) :
      Steps executor (.submit task starts)
        ({ executor with inflight := executor.inflight + 1 }.setSubmit task
          .counted)
  | advanced (task : Nat) (starts : Bool) (submission : Submission)
      (before : (executor.submits task).InFlight)
      (after : submission.InFlight) :
      Steps executor (.submit task starts)
        (executor.setSubmit task submission)
  | finished (task : Nat) (starts : Bool)
      (ran : executor.submits task = .ran) :
      Steps executor (.submit task starts)
        ({ executor with inflight := executor.inflight - 1 }.setSubmit task
          .finished)
  | stopped (call : Nat) (timeLeft : Bool) :
      Steps executor (.shutdown call timeLeft)
        ({ executor with stop := true }.setShutdown call .polling)
  | polled (call : Nat) (timeLeft : Bool)
      (polling : executor.shutdowns call = .polling) :
      Steps executor (.shutdown call timeLeft) executor
  | decided (call : Nat) (timeLeft : Bool)
      (polling : executor.shutdowns call = .polling) :
      Steps executor (.shutdown call timeLeft)
        (executor.setShutdown call .deciding)
  | unclean (call : Nat) (timeLeft : Bool)
      (deciding : executor.shutdowns call = .deciding) :
      Steps executor (.shutdown call timeLeft)
        ({ executor with
          uncleanShutdowns := executor.uncleanShutdowns + 1 }.setShutdown call
            (.returned false))
  | clean (call : Nat) (timeLeft : Bool)
      (deciding : executor.shutdowns call = .deciding)
      (drained : executor.inflight ≤ 0) :
      Steps executor (.shutdown call timeLeft)
        (executor.setShutdown call (.returned true))

theorem steps_of_stepSubmit
    {executor next : ClientExecutor}
    {task : Nat}
    {starts : Bool}
    (stepped : executor.stepSubmit task starts = some next) :
    Steps executor (.submit task starts) next := by
  revert stepped
  fun_cases stepSubmit executor task starts <;> intro stepped <;> cases stepped
  case case1 uncalled _ => exact .refused task starts uncalled
  case case2 uncalled going =>
    exact .checked task starts uncalled (by simpa using going)
  case case3 checked => exact .counted task starts checked
  case case9 ran => exact .finished task starts ran
  all_goals
    refine .advanced task starts _ ?_ ?_ <;> simp [Submission.InFlight, *]

theorem steps_of_stepShutdown
    {executor next : ClientExecutor}
    {call : Nat}
    {timeLeft : Bool}
    (stepped : executor.stepShutdown call timeLeft = some next) :
    Steps executor (.shutdown call timeLeft) next := by
  revert stepped
  fun_cases stepShutdown executor call timeLeft <;> intro stepped <;>
    cases stepped
  case case1 => exact .stopped call timeLeft
  case case2 polling _ => exact .polled call timeLeft polling
  case case3 polling _ => exact .decided call timeLeft polling
  case case4 deciding _ => exact .unclean call timeLeft deciding
  case case5 deciding drained =>
    exact .clean call timeLeft deciding (by omega)

/-- Every step is one of the listed ones. -/
theorem steps_of_step
    {executor next : ClientExecutor}
    {action : Action}
    (stepped : machine.step executor action = some next) :
    Steps executor action next := by
  cases action with
  | submit task starts => exact steps_of_stepSubmit stepped
  | shutdown call timeLeft => exact steps_of_stepShutdown stepped

/-! ## The counter -/

/-- The counter is the number of tasks in flight. -/
def Counts (executor : ClientExecutor) : Prop :=
  ∃ active : Finset Nat,
    (∀ task, task ∈ active ↔ (executor.submits task).InFlight) ∧
      executor.inflight = active.card

/-- Where the counter is not positive, no task is in flight. -/
theorem Counts.none_inFlight
    {executor : ClientExecutor}
    (counts : executor.Counts)
    (drained : executor.inflight ≤ 0)
    (task : Nat) :
    ¬(executor.submits task).InFlight := by
  obtain ⟨active, members, counted⟩ := counts
  have empty : active = ∅ := Finset.card_eq_zero.mp (by omega)
  intro inFlight
  have member := (members task).mpr inFlight
  simp [empty] at member

/-- Moving a task that stays in flight, or stays out, keeps the counter right. -/
theorem Counts.setSubmit
    {executor : ClientExecutor}
    (counts : executor.Counts)
    {task : Nat}
    {submission : Submission}
    (same : submission.InFlight ↔ (executor.submits task).InFlight) :
    (executor.setSubmit task submission).Counts := by
  obtain ⟨active, members, counted⟩ := counts
  refine ⟨active, ?_, counted⟩
  intro other
  by_cases own : other = task
  · subst own
    rw [members, setSubmit_submits_self, same]
  · rw [members, setSubmit_submits_of_ne executor own]

/-- The increment counts the task that it announces. -/
theorem Counts.increment
    {executor : ClientExecutor}
    (counts : executor.Counts)
    {task : Nat}
    (checked : executor.submits task = .checked) :
    ({ executor with inflight := executor.inflight + 1 }.setSubmit task
      .counted).Counts := by
  obtain ⟨active, members, counted⟩ := counts
  have outside : task ∉ active := by
    rw [members, checked]
    simp [Submission.InFlight]
  refine ⟨insert task active, ?_, ?_⟩
  · intro other
    by_cases own : other = task
    · subst own
      simp [Submission.InFlight]
    · simp [setSubmit_submits_of_ne _ own, own, members]
  · simp [ClientExecutor.setSubmit, Finset.card_insert_of_notMem outside,
      counted]

/-- The decrement discounts the task that has run. -/
theorem Counts.decrement
    {executor : ClientExecutor}
    (counts : executor.Counts)
    {task : Nat}
    (ran : executor.submits task = .ran) :
    ({ executor with inflight := executor.inflight - 1 }.setSubmit task
      .finished).Counts := by
  obtain ⟨active, members, counted⟩ := counts
  have inside : task ∈ active := by
    rw [members, ran]
    simp [Submission.InFlight]
  have card := Finset.card_erase_add_one inside
  refine ⟨active.erase task, ?_, ?_⟩
  · intro other
    by_cases own : other = task
    · subst own
      simp [Submission.InFlight]
    · simp [setSubmit_submits_of_ne _ own, own, members]
  · simp only [ClientExecutor.setSubmit]
    omega

/-- Every step keeps the counter right. -/
theorem Counts.steps
    {executor next : ClientExecutor}
    {action : Action}
    (counts : executor.Counts)
    (steps : Steps executor action next) :
    next.Counts := by
  cases steps with
  | refused task starts uncalled | checked task starts uncalled going =>
      exact counts.setSubmit (by simp [uncalled, Submission.InFlight])
  | counted task starts checked => exact counts.increment checked
  | advanced task starts submission before after =>
      exact counts.setSubmit (iff_of_true after before)
  | finished task starts ran => exact counts.decrement ran
  | stopped | polled | decided | unclean | clean => exact counts

/-! ## A clean shutdown is final -/

/-- A call of `Shutdown` has answered `true`. -/
def CleanlyShutDown (executor : ClientExecutor) : Prop :=
  ∃ call, executor.shutdowns call = .returned true

/-- Once a call of `Shutdown` has answered `true`, no task is running. -/
def ShutdownFinal (executor : ClientExecutor) : Prop :=
  executor.CleanlyShutDown → ∀ task, executor.submits task ≠ .running

/-- The load that lets `Shutdown` answer `true` is made when every `Submit` that
has passed the test of the flag has counted its task. -/
def AllCounted (executor : ClientExecutor) (action : Action) : Prop :=
  ∀ call timeLeft, action = .shutdown call timeLeft →
    executor.shutdowns call = .deciding → executor.inflight ≤ 0 →
      ∀ task, executor.submits task ≠ .checked

/-- The counter is right, a `Shutdown` that was called has set the flag, and
after a clean one no call is on its way. -/
structure Settled (executor : ClientExecutor) : Prop where
  counts : executor.Counts
  flagged : ∀ call, executor.shutdowns call ≠ .uncalled → executor.stop = true
  quiet : executor.CleanlyShutDown → ∀ task,
    executor.submits task = .uncalled ∨ (executor.submits task).Over

theorem settled_init : init.Settled where
  counts := ⟨∅, by simp [init, Submission.InFlight], rfl⟩
  flagged := fun _ called => absurd rfl called
  quiet := by
    rintro ⟨call, clean⟩
    cases clean

section Steps

variable {executor : ClientExecutor}

/-- A cleanly shut down executor has its flag set. -/
theorem Settled.stop_of_clean
    (settled : executor.Settled)
    (clean : executor.CleanlyShutDown) :
    executor.stop = true := by
  obtain ⟨call, returned⟩ := clean
  exact settled.flagged call (by simp [returned])

/-- A step of a call of `Submit` keeps an executor settled, when after a clean
shutdown it can only throw. -/
theorem Settled.submit
    (settled : executor.Settled)
    {task : Nat}
    {submission : Submission}
    {inflight : Int}
    (counts : ({ executor with inflight }.setSubmit task submission).Counts)
    (isOver : executor.CleanlyShutDown → submission.Over) :
    ({ executor with inflight }.setSubmit task submission).Settled where
  counts := counts
  flagged := settled.flagged
  quiet := by
    intro clean other
    by_cases own : other = task
    · rw [own, setSubmit_submits_self]
      exact .inr (isOver clean)
    · rw [setSubmit_submits_of_ne _ own]
      exact settled.quiet clean other

/-- A step of a call of `Shutdown` keeps an executor settled, when it finds the
executor quiet before it answers `true`. -/
theorem Settled.shutdown
    (settled : executor.Settled)
    {call : Nat}
    {shutdown : ShutdownCall}
    {uncleanShutdowns : Int}
    (flagged : executor.stop = true)
    (quiet : shutdown = .returned true → ∀ task,
      executor.submits task = .uncalled ∨ (executor.submits task).Over) :
    ({ executor with uncleanShutdowns }.setShutdown call shutdown).Settled where
  counts := settled.counts
  flagged := fun _ _ => flagged
  quiet := by
    rintro ⟨other, clean⟩
    by_cases own : other = call
    · subst own
      simp only [setShutdown, Function.update_self] at clean
      exact quiet clean
    · simp only [setShutdown, Function.update_of_ne own] at clean
      exact settled.quiet ⟨other, clean⟩

/-- Where nothing is in flight and every call is counted, no call is on its
way. -/
theorem Settled.quiet_of_drained
    (settled : executor.Settled)
    (drained : executor.inflight ≤ 0)
    (allCounted : ∀ task, executor.submits task ≠ .checked)
    (task : Nat) :
    executor.submits task = .uncalled ∨ (executor.submits task).Over := by
  have landed := settled.counts.none_inFlight drained task
  have counted := allCounted task
  cases where_ : executor.submits task <;>
    simp_all [Submission.InFlight, Submission.Over]

/-- Every step keeps an executor settled, if the deciding load is made when all
calls are counted. -/
theorem Settled.steps
    {next : ClientExecutor}
    {action : Action}
    (settled : executor.Settled)
    (allCounted : executor.AllCounted action)
    (steps : Steps executor action next) :
    next.Settled := by
  have counts := settled.counts.steps steps
  cases steps with
  | refused task starts uncalled =>
      exact settled.submit counts fun _ => .inl rfl
  | checked task starts uncalled going =>
      apply settled.submit counts
      intro clean
      have stopped := settled.stop_of_clean clean
      rw [going] at stopped
      cases stopped
  | counted task starts checked =>
      apply settled.submit counts
      intro clean
      have quiet := settled.quiet clean task
      simp [checked, Submission.Over] at quiet
  | advanced task starts submission before after =>
      apply settled.submit counts
      intro clean
      have quiet := settled.quiet clean task
      rcases before with state | state | state | state | state <;>
        simp [state, Submission.Over] at quiet
  | finished task starts ran =>
      exact settled.submit counts fun _ => .inr rfl
  | stopped call timeLeft =>
      have flagged : { executor with stop := true }.Settled :=
        ⟨settled.counts, fun _ _ => rfl, settled.quiet⟩
      exact flagged.shutdown rfl nofun
  | polled call timeLeft polling => exact settled
  | decided call timeLeft polling =>
      exact settled.shutdown (settled.flagged call (by simp [polling])) nofun
  | unclean call timeLeft deciding =>
      exact settled.shutdown (settled.flagged call (by simp [deciding])) nofun
  | clean call timeLeft deciding drained =>
      refine settled.shutdown (settled.flagged call (by simp [deciding])) ?_
      intro _
      exact settled.quiet_of_drained drained
        (allCounted call timeLeft rfl deciding drained)

end Steps

/-- In the runs in which `Shutdown` decides when every call that passed the test
is counted, a clean shutdown is final. -/
theorem shutdownFinal_of_allCounted
    {executor : ClientExecutor}
    (reachable : machine.Reachable AllCounted executor) :
    executor.ShutdownFinal := by
  have settled : executor.Settled := by
    refine reachable.invariant ?_ ?_
    · rintro start rfl
      exact settled_init
    · intro state action next settled allCounted stepped
      exact settled.steps allCounted (steps_of_step stepped)
  intro clean task running
  have quiet := settled.quiet clean task
  simp [running, Submission.Over] at quiet

/-- Only task 0 is submitted. -/
private def onlyFirstSubmitted : Action → Bool
  | .submit task _ => decide (task = 0)
  | .shutdown _ _ => true

/-- Where only task 0 is submitted, no other call is on its way. -/
private theorem uncalled_of_onlyFirstSubmitted
    {executor : ClientExecutor}
    (reachable : machine.Reachable
      (fun _ action => onlyFirstSubmitted action = true) executor)
    {task : Nat}
    (other : task ≠ 0) :
    executor.submits task = .uncalled := by
  let property : ClientExecutor → Prop := fun executor =>
    executor.submits task = .uncalled
  have kept : property executor := by
    refine reachable.invariant ?_ ?_
    · rintro start rfl
      rfl
    · intro state action next uncalled only stepped
      have steps := steps_of_step stepped
      cases steps <;>
        simp_all [property, setSubmit, setShutdown, onlyFirstSubmitted]
  exact kept

/-- The condition, computed, where only task 0 is submitted. -/
private def firstCounted (executor : ClientExecutor) (action : Action) : Bool :=
  onlyFirstSubmitted action && decide (executor.submits 0 ≠ .checked ∨
    action = .submit 0 true)

private theorem allCounted_of_firstCounted
    {executor : ClientExecutor}
    (reachable : machine.Reachable
      (fun executor action => executor.firstCounted action = true) executor) :
    machine.Reachable AllCounted executor := by
  refine reachable.induction ?_ ?_
  · intro start initial
    exact ⟨start, [], initial, .nil⟩
  · intro state action next before counted holds stepped
    have onlyFirst := before.mono fun state action holds =>
      (Bool.and_eq_true_iff.mp holds).1
    refine counted.step ?_ stepped
    rintro call timeLeft rfl _ _ task
    by_cases first : task = 0
    · subst first
      simpa [firstCounted, onlyFirstSubmitted] using holds
    · simp [uncalled_of_onlyFirstSubmitted onlyFirst first]

private theorem initial_init : machine.initial init := rfl

/-- A task is submitted and runs, and `Shutdown` waits for it. -/
private def drainedActions : List Action :=
  [.submit 0 true, .submit 0 true, .submit 0 true, .submit 0 true,
    .shutdown 0 true, .shutdown 0 true, .submit 0 true, .submit 0 true,
    .shutdown 0 true, .shutdown 0 true]

theorem shutdownFinal_drained :
    ∃ executor, machine.Reachable AllCounted executor ∧
      executor.shutdowns 0 = .returned true ∧
      ∀ task, executor.submits task ≠ .running := by
  have executed : (machine.run
      (fun executor action => executor.firstCounted action = true) init
      drainedActions).map (fun executor => executor.shutdowns 0) =
        some (.returned true) := by
    decide
  obtain ⟨executor, reachable, clean⟩ :=
    Machine.Reachable.of_run_map initial_init executed
  have allCounted := allCounted_of_firstCounted reachable
  exact ⟨executor, allCounted, clean,
    shutdownFinal_of_allCounted allCounted ⟨0, clean⟩⟩

/-- A `Submit` has passed the test of the flag when `Shutdown` sets it and finds
no task in flight; its task runs after `Shutdown` has answered `true`. -/
private def lateStart : List Action :=
  [.submit 0 true, .shutdown 0 true, .shutdown 0 true, .shutdown 0 true,
    .submit 0 true, .submit 0 true, .submit 0 true]

theorem task_runs_after_shutdown :
    ¬∀ executor, machine.Reachable Machine.always executor →
      executor.ShutdownFinal := by
  intro final
  have executed : (machine.run Machine.always init lateStart).map
      (fun executor => (executor.shutdowns 0, executor.submits 0)) =
        some (.returned true, .running) := by
    decide
  obtain ⟨executor, reachable, observed⟩ :=
    Machine.Reachable.of_run_map initial_init executed
  obtain ⟨clean, running⟩ := Prod.mk.inj observed
  exact final executor reachable ⟨0, clean⟩ 0 running

end ClientExecutor

end Client
end TurboAccess
