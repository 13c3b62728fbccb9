import TurboAccess.Lib.Machine
import TurboAccess.Lib.Tally

/-!
# The worker pool of the gateway

A fixed number of workers take tasks from one queue.  A step of a worker takes
the mutex, evaluates the condition of its wait, blocks, is woken, takes a task
or leaves, or runs a task; `Submit` tests the flag, pushes under the mutex and
notifies; `Stop` clears the flag, notifies all workers and joins them.  A task
is named by the number of the call that submits it.

`Submit` tests the flag outside of the mutex, so that a task can be pushed after
the last worker has left.  `Stop` clears the flag outside of the mutex, so that
its notification can fall between the evaluation of a worker's condition and the
worker's blocking.
-/

namespace TurboAccess
namespace Gateway

/-- Where a worker is: about to take the mutex; with the mutex, about to
evaluate the condition of its wait; with the mutex, about to block; blocked;
woken; with the mutex, not to wait; running a task; gone. -/
inductive Worker
  | entering
  | checking
  | parking
  | blocked
  | woken
  | taking
  | executing (task : Nat)
  | exited
  deriving DecidableEq, Repr

/-- A worker after a notification. -/
def Worker.wake : Worker → Worker
  | .blocked => .woken
  | worker => worker

/-- How often a worker is running a task. -/
def Worker.running (task : Nat) : Worker → Nat
  | .executing other => if other = task then 1 else 0
  | _ => 0

/-- Where a call of `Submit` is.  A call that has pushed its task remembers
whether the queue was empty. -/
inductive SubmitCall
  | uncalled
  | accepted
  | refused
  | pushed (wasEmpty : Bool)
  | returned
  deriving DecidableEq, Repr

/-- A call that is not running. -/
def SubmitCall.Quiet (call : SubmitCall) : Prop :=
  call = .uncalled ∨ call = .returned

/-- Whether a call has handed its task over. -/
def SubmitCall.handed : SubmitCall → Nat
  | .pushed _ => 1
  | .returned => 1
  | _ => 0

/-- Where the call of `Stop` is. -/
inductive StopCall
  | uncalled
  | flagged
  | notified
  | returned
  deriving DecidableEq, Repr

/-- The pool, its workers, and the calls. -/
structure IoWorkerPool where
  running : Bool
  queue : List Nat
  mutex : Option Nat
  workerCount : Nat
  workers : Nat → Worker
  submits : Nat → SubmitCall
  stop : StopCall
  executed : List Nat

namespace IoWorkerPool

/-- A pool that has just been constructed, with at least one worker. -/
def init (workerCount : Nat) : IoWorkerPool where
  running := true
  queue := []
  mutex := none
  workerCount := if workerCount = 0 then 1 else workerCount
  workers := fun _ => .entering
  submits := fun _ => .uncalled
  stop := .uncalled
  executed := []

/-! ## Steps -/

/-- Move a worker. -/
def setWorker (pool : IoWorkerPool) (index : Nat) (worker : Worker) :
    IoWorkerPool :=
  { pool with workers := Function.update pool.workers index worker }

/-- Move a call of `Submit`. -/
def setSubmit (pool : IoWorkerPool) (task : Nat) (submit : SubmitCall) :
    IoWorkerPool :=
  { pool with submits := Function.update pool.submits task submit }

/-- Wake all blocked workers. -/
def notifyAll (pool : IoWorkerPool) : IoWorkerPool :=
  { pool with workers := fun index => (pool.workers index).wake }

/-- Wake the chosen worker, if any worker is blocked. -/
def notifyOne (pool : IoWorkerPool) (choice : Nat) : Option IoWorkerPool :=
  if ∃ index < pool.workerCount, pool.workers index = .blocked then
    if choice < pool.workerCount ∧ pool.workers choice = .blocked then
      some (pool.setWorker choice .woken)
    else none
  else some pool

/-- Next step of a worker. -/
def stepWorker (pool : IoWorkerPool) (index : Nat) : Option IoWorkerPool :=
  match pool.workers index with
  | .entering =>
      if pool.mutex = none then
        some ({ pool with mutex := some index }.setWorker index .checking)
      else none
  | .checking =>
      if pool.running = true ∧ pool.queue = [] then
        some (pool.setWorker index .parking)
      else some (pool.setWorker index .taking)
  | .parking => some ({ pool with mutex := none }.setWorker index .blocked)
  | .blocked => none
  | .woken =>
      if pool.mutex = none then
        some ({ pool with mutex := some index }.setWorker index .checking)
      else none
  | .taking =>
      match pool.queue with
      | task :: rest =>
          some ({ pool with mutex := none, queue := rest }.setWorker index
            (.executing task))
      | [] => some ({ pool with mutex := none }.setWorker index .exited)
  | .executing task =>
      some ({ pool with executed := pool.executed ++ [task] }.setWorker index
        .entering)
  | .exited => none

/-- Next step of a call of `Submit`, with the worker that a notification of one
worker wakes. -/
def stepSubmit (pool : IoWorkerPool) (task choice : Nat) :
    Option IoWorkerPool :=
  match pool.submits task with
  | .uncalled =>
      if pool.running then some (pool.setSubmit task .accepted)
      else some (pool.setSubmit task .refused)
  | .refused =>
      some ({ pool with executed := pool.executed ++ [task] }.setSubmit task
        .returned)
  | .accepted =>
      if pool.mutex = none then
        some ({ pool with queue := pool.queue ++ [task] }.setSubmit task
          (.pushed pool.queue.isEmpty))
      else none
  | .pushed true => some (pool.notifyAll.setSubmit task .returned)
  | .pushed false =>
      (pool.notifyOne choice).map fun pool => pool.setSubmit task .returned
  | .returned => none

/-- Next step of the call of `Stop`. -/
def stepStop (pool : IoWorkerPool) : Option IoWorkerPool :=
  match pool.stop with
  | .uncalled => some { pool with running := false, stop := .flagged }
  | .flagged => some { pool.notifyAll with stop := .notified }
  | .notified =>
      if ∀ index < pool.workerCount, pool.workers index = .exited then
        some { pool with stop := .returned }
      else none
  | .returned => none

/-- What moves the pool: a worker, a wait that ends without a notification, a
call of `Submit`, or the call of `Stop`. -/
inductive Action
  | worker (index : Nat)
  | spurious (index : Nat)
  | submit (task choice : Nat)
  | stop
  deriving DecidableEq, Repr

def step (pool : IoWorkerPool) : Action → Option IoWorkerPool
  | .worker index =>
      if index < pool.workerCount then pool.stepWorker index else none
  | .spurious index =>
      if index < pool.workerCount ∧ pool.workers index = .blocked then
        some (pool.setWorker index .woken)
      else none
  | .submit task choice => pool.stepSubmit task choice
  | .stop => pool.stepStop

/-- All interleavings of the workers, any calls of `Submit` and one of
`Stop`. -/
def machine : Machine IoWorkerPool Action where
  initial pool := ∃ workerCount, pool = init workerCount
  step := step

/-! ## What one step can do -/

/-- The steps of a pool. -/
inductive Steps (pool : IoWorkerPool) : Action → IoWorkerPool → Prop
  | locked (index : Nat)
      (inside : index < pool.workerCount)
      (outside : pool.workers index = .entering ∨
        pool.workers index = .woken) :
      Steps pool (.worker index)
        ({ pool with mutex := some index }.setWorker index .checking)
  | decided (index : Nat)
      (inside : index < pool.workerCount)
      (checks : pool.workers index = .checking)
      (going : pool.running = true)
      (empty : pool.queue = []) :
      Steps pool (.worker index) (pool.setWorker index .parking)
  | passed (index : Nat)
      (inside : index < pool.workerCount)
      (checks : pool.workers index = .checking) :
      Steps pool (.worker index) (pool.setWorker index .taking)
  | parked (index : Nat)
      (inside : index < pool.workerCount)
      (parks : pool.workers index = .parking) :
      Steps pool (.worker index)
        ({ pool with mutex := none }.setWorker index .blocked)
  | took (index task : Nat) (rest : List Nat)
      (inside : index < pool.workerCount)
      (takes : pool.workers index = .taking)
      (queued : pool.queue = task :: rest) :
      Steps pool (.worker index)
        ({ pool with mutex := none, queue := rest }.setWorker index
          (.executing task))
  | left (index : Nat)
      (inside : index < pool.workerCount)
      (takes : pool.workers index = .taking)
      (empty : pool.queue = []) :
      Steps pool (.worker index)
        ({ pool with mutex := none }.setWorker index .exited)
  | ran (index task : Nat)
      (inside : index < pool.workerCount)
      (executes : pool.workers index = .executing task) :
      Steps pool (.worker index)
        ({ pool with executed := pool.executed ++ [task] }.setWorker index
          .entering)
  | awoke (index : Nat)
      (inside : index < pool.workerCount)
      (waits : pool.workers index = .blocked) :
      Steps pool (.spurious index) (pool.setWorker index .woken)
  | accepted (task choice : Nat)
      (called : pool.submits task = .uncalled)
      (going : pool.running = true) :
      Steps pool (.submit task choice) (pool.setSubmit task .accepted)
  | refused (task choice : Nat)
      (called : pool.submits task = .uncalled)
      (halted : pool.running = false) :
      Steps pool (.submit task choice) (pool.setSubmit task .refused)
  | inlined (task choice : Nat)
      (refused : pool.submits task = .refused) :
      Steps pool (.submit task choice)
        ({ pool with executed := pool.executed ++ [task] }.setSubmit task
          .returned)
  | pushed (task choice : Nat)
      (accepted : pool.submits task = .accepted) :
      Steps pool (.submit task choice)
        ({ pool with queue := pool.queue ++ [task] }.setSubmit task
          (.pushed pool.queue.isEmpty))
  | notifiedAll (task choice : Nat)
      (pushed : pool.submits task = .pushed true) :
      Steps pool (.submit task choice)
        (pool.notifyAll.setSubmit task .returned)
  | notifiedOne (task choice : Nat)
      (pushed : pool.submits task = .pushed false)
      (inside : choice < pool.workerCount)
      (waits : pool.workers choice = .blocked) :
      Steps pool (.submit task choice)
        ((pool.setWorker choice .woken).setSubmit task .returned)
  | notifiedNone (task choice : Nat)
      (pushed : pool.submits task = .pushed false) :
      Steps pool (.submit task choice) (pool.setSubmit task .returned)
  | flagged
      (called : pool.stop = .uncalled) :
      Steps pool .stop { pool with running := false, stop := .flagged }
  | notified
      (flagged : pool.stop = .flagged) :
      Steps pool .stop { pool.notifyAll with stop := .notified }
  | joined
      (notified : pool.stop = .notified)
      (gone : ∀ index < pool.workerCount, pool.workers index = .exited) :
      Steps pool .stop { pool with stop := .returned }

theorem steps_of_stepWorker
    {pool next : IoWorkerPool}
    {index : Nat}
    (inside : index < pool.workerCount)
    (stepped : pool.stepWorker index = some next) :
    Steps pool (.worker index) next := by
  revert stepped
  fun_cases stepWorker pool index <;> intro stepped <;> cases stepped
  case case1 enters free => exact .locked index inside (.inl enters)
  case case3 checks waits =>
    exact .decided index inside checks waits.1 waits.2
  case case4 checks _ => exact .passed index inside checks
  case case5 parks => exact .parked index inside parks
  case case7 woken free => exact .locked index inside (.inr woken)
  case case9 takes task rest queued =>
    exact .took index task rest inside takes queued
  case case10 takes empty => exact .left index inside takes empty
  case case11 task executes => exact .ran index task inside executes

theorem steps_of_stepSubmit
    {pool next : IoWorkerPool}
    {task choice : Nat}
    (stepped : pool.stepSubmit task choice = some next) :
    Steps pool (.submit task choice) next := by
  revert stepped
  fun_cases stepSubmit pool task choice
  case case1 called going =>
    intro stepped
    cases stepped
    exact .accepted task choice called going
  case case2 called halted =>
    intro stepped
    cases stepped
    exact .refused task choice called (by simpa using halted)
  case case3 refused =>
    intro stepped
    cases stepped
    exact .inlined task choice refused
  case case4 accepted free =>
    intro stepped
    cases stepped
    exact .pushed task choice accepted
  case case5 => exact nofun
  case case6 pushed =>
    intro stepped
    cases stepped
    exact .notifiedAll task choice pushed
  case case7 pushed =>
    fun_cases notifyOne pool choice <;> intro stepped <;> cases stepped
    case case1 _ chosen =>
      exact .notifiedOne task choice pushed chosen.1 chosen.2
    case case3 => exact .notifiedNone task choice pushed
  case case8 => exact nofun

theorem steps_of_stepStop
    {pool next : IoWorkerPool}
    (stepped : pool.stepStop = some next) :
    Steps pool .stop next := by
  revert stepped
  fun_cases stepStop pool <;> intro stepped <;> cases stepped
  case case1 called => exact .flagged called
  case case2 flagged => exact .notified flagged
  case case3 notified gone => exact .joined notified gone

theorem steps_of_step
    {pool next : IoWorkerPool}
    {action : Action}
    (stepped : pool.step action = some next) :
    Steps pool action next := by
  cases action with
  | worker index =>
      obtain ⟨inside, stepped⟩ := Option.ite_none_right_eq_some.mp stepped
      exact steps_of_stepWorker inside stepped
  | spurious index =>
      obtain ⟨waits, stepped⟩ := Option.ite_none_right_eq_some.mp stepped
      cases stepped
      exact .awoke index waits.1 waits.2
  | submit task choice => exact steps_of_stepSubmit stepped
  | stop =>
      exact steps_of_stepStop stepped

/-! ## Every task is executed once -/

/-- Once `Stop` has returned and no `Submit` is running, every submitted task
has been executed exactly once. -/
def ExecutedOnce (pool : IoWorkerPool) : Prop :=
  pool.stop = .returned → (∀ task, (pool.submits task).Quiet) →
    ∀ task, pool.submits task = .returned → pool.executed.count task = 1

/-- A task is pushed while there is a worker that has not left. -/
def PushesInTime (pool : IoWorkerPool) (action : Action) : Prop :=
  ∀ task choice, action = .submit task choice →
    pool.submits task = .accepted →
      ∃ index < pool.workerCount, pool.workers index ≠ .exited

/-- How often a task is somewhere in the pool or done. -/
def places (pool : IoWorkerPool) (task : Nat) : Nat :=
  pool.queue.count task +
    tally pool.workerCount (Worker.running task) pool.workers +
    pool.executed.count task

/-- A task that was handed over is in one place; workers leave an empty queue
behind, and `Stop` returns when all have left. -/
structure Kept (pool : IoWorkerPool) : Prop where
  placed : ∀ task, pool.places task = (pool.submits task).handed
  drained : (∀ index < pool.workerCount, pool.workers index = .exited) →
    pool.queue = []
  joined : pool.stop = .returned →
    ∀ index < pool.workerCount, pool.workers index = .exited

theorem kept_init (workerCount : Nat) : (init workerCount).Kept where
  placed := by
    intro task
    have idle : tally (init workerCount).workerCount (Worker.running task)
        (init workerCount).workers = 0 :=
      tally_eq_zero_iff.mpr fun index inside => rfl
    rw [places, idle]
    rfl
  drained := fun _ => rfl
  joined := nofun

section Steps

variable {pool : IoWorkerPool} {index task : Nat}

/-- A woken worker runs what it ran. -/
@[simp] theorem running_wake (worker : Worker) :
    worker.wake.running task = worker.running task := by
  cases worker <;> rfl

/-- Only a worker that has left is seen to have left after a notification. -/
@[simp] theorem wake_eq_exited_iff (worker : Worker) :
    worker.wake = .exited ↔ worker = .exited := by
  cases worker <;> simp [Worker.wake]

/-- A step of a worker that has not left keeps every task in its place, when
the task that it takes or finishes is in one place before and after, and it
leaves an empty queue only. -/
theorem Kept.worker
    (kept : pool.Kept)
    (inside : index < pool.workerCount)
    (present : pool.workers index ≠ .exited)
    {mutex : Option Nat}
    {queue executed : List Nat}
    {worker : Worker}
    (balance : ∀ task,
      queue.count task + worker.running task + executed.count task =
        pool.queue.count task + (pool.workers index).running task +
          pool.executed.count task)
    (leaves : worker = .exited → queue = []) :
    ({ pool with mutex, queue, executed }.setWorker index worker).Kept where
  placed := by
    intro task
    have before := kept.placed task
    have moved := @tally_update _ _ (Worker.running task) pool.workers _ inside
      worker
    have balanced := balance task
    simp only [places, setWorker] at before moved ⊢
    omega
  drained := by
    intro gone
    have own := gone index inside
    simp only [setWorker, Function.update_self] at own
    exact leaves own
  joined := by
    intro returned
    exact absurd (kept.joined returned index inside) present

/-- A notification keeps every task in its place. -/
theorem Kept.notifyAll (kept : pool.Kept) : pool.notifyAll.Kept where
  placed := by
    intro task
    have same : tally pool.workerCount (Worker.running task)
          (fun index => (pool.workers index).wake) =
        tally pool.workerCount (Worker.running task) pool.workers :=
      tally_congr fun index => running_wake (pool.workers index)
    have before := kept.placed task
    simp only [places, IoWorkerPool.notifyAll, same] at before ⊢
    exact before
  drained := by
    intro gone
    simp only [IoWorkerPool.notifyAll, wake_eq_exited_iff] at gone
    exact kept.drained gone
  joined := by
    intro returned
    simp only [IoWorkerPool.notifyAll, wake_eq_exited_iff]
    exact kept.joined returned

/-- A step of a call keeps every task in its place, when its own task is handed
over as it says, and the queue stays empty if all workers have left. -/
theorem Kept.submit
    (kept : pool.Kept)
    {queue executed : List Nat}
    {call : SubmitCall}
    (others : ∀ other, other ≠ task →
      queue.count other + executed.count other =
        pool.queue.count other + pool.executed.count other)
    (own : queue.count task + executed.count task +
        (pool.submits task).handed =
      pool.queue.count task + pool.executed.count task + call.handed)
    (drained : (∀ index < pool.workerCount,
      pool.workers index = .exited) → queue = []) :
    ({ pool with queue, executed }.setSubmit task call).Kept where
  placed := by
    intro other
    have before := kept.placed other
    simp only [places, setSubmit] at before ⊢
    by_cases same : other = task
    · subst same
      rw [Function.update_self]
      omega
    · have balanced := others other same
      rw [Function.update_of_ne same]
      omega
  drained := drained
  joined := kept.joined

/-- A call that has handed its task over returns. -/
theorem Kept.returns
    (kept : pool.Kept)
    (handed : (pool.submits task).handed = 1) :
    (pool.setSubmit task .returned).Kept := by
  refine kept.submit (fun _ _ => rfl) ?_ kept.drained
  rw [handed]
  rfl

/-- Steps keep every task in its place, if tasks are pushed in time. -/
theorem Kept.steps
    {next : IoWorkerPool}
    {action : Action}
    (kept : pool.Kept)
    (inTime : pool.PushesInTime action)
    (steps : Steps pool action next) :
    next.Kept := by
  cases steps with
  | locked index inside outside =>
      refine kept.worker inside ?_ ?_ nofun
      · rcases outside with enters | woken <;> simp [*]
      · rcases outside with enters | woken <;> simp [*, Worker.running]
  | decided index inside checks going empty =>
      exact kept.worker inside (by simp [checks])
        (by simp [checks, Worker.running]) nofun
  | passed index inside checks =>
      exact kept.worker inside (by simp [checks])
        (by simp [checks, Worker.running]) nofun
  | parked index inside parks =>
      exact kept.worker inside (by simp [parks])
        (by simp [parks, Worker.running]) nofun
  | took index task rest inside takes queued =>
      refine kept.worker inside (by simp [takes]) ?_ nofun
      intro other
      simp only [queued, takes, Worker.running, List.count_cons, beq_iff_eq]
      omega
  | left index inside takes empty =>
      exact kept.worker inside (by simp [takes])
        (by simp [takes, Worker.running]) fun _ => empty
  | ran index task inside executes =>
      refine kept.worker inside (by simp [executes]) ?_ nofun
      intro other
      simp only [executes, Worker.running, List.count_append,
        List.count_singleton, beq_iff_eq]
      omega
  | awoke index inside waits =>
      exact kept.worker inside (by simp [waits])
        (by simp [waits, Worker.running]) nofun
  | accepted task choice called going =>
      exact kept.submit (fun _ _ => rfl) (by rw [called]; rfl) kept.drained
  | refused task choice called halted =>
      exact kept.submit (fun _ _ => rfl) (by rw [called]; rfl) kept.drained
  | inlined task choice refused =>
      refine kept.submit ?_ ?_ kept.drained
      · intro other different
        simp [different.symm]
      · simp [refused, SubmitCall.handed]
        omega
  | pushed task choice accepted =>
      refine kept.submit ?_ ?_ ?_
      · intro other different
        simp [different.symm]
      · simp [accepted, SubmitCall.handed]
        omega
      · intro gone
        obtain ⟨index, inside, present⟩ := inTime task choice rfl accepted
        exact absurd (gone index inside) present
  | notifiedAll task choice pushed =>
      apply kept.notifyAll.returns
      simp [IoWorkerPool.notifyAll, pushed, SubmitCall.handed]
  | notifiedOne task choice pushed inside waits =>
      have woken : (pool.setWorker choice .woken).Kept :=
        kept.worker inside (by simp [waits])
          (by simp [waits, Worker.running]) nofun
      apply woken.returns
      simp [setWorker, pushed, SubmitCall.handed]
  | notifiedNone task choice pushed =>
      exact kept.returns (by rw [pushed]; rfl)
  | flagged called => exact ⟨kept.placed, kept.drained, nofun⟩
  | notified flagged =>
      exact ⟨kept.notifyAll.placed, kept.notifyAll.drained, nofun⟩
  | joined notified gone => exact ⟨kept.placed, kept.drained, fun _ => gone⟩

end Steps

/-- In the runs in which no task is pushed after the last worker has left, every
task is executed exactly once. -/
theorem executedOnce_of_pushesInTime
    {pool : IoWorkerPool}
    (reachable : machine.Reachable PushesInTime pool) :
    pool.ExecutedOnce := by
  have kept : pool.Kept := by
    refine reachable.invariant ?_ ?_
    · rintro start ⟨workerCount, rfl⟩
      exact kept_init workerCount
    · intro state action next kept inTime stepped
      exact kept.steps inTime (steps_of_step stepped)
  intro stopped _ task returned
  have gone := kept.joined stopped
  have idle : tally pool.workerCount (Worker.running task) pool.workers = 0 := by
    apply tally_eq_zero_iff.mpr
    intro index inside
    rw [gone index inside]
    rfl
  have placed := kept.placed task
  rw [places, kept.drained gone, idle, returned] at placed
  simpa [SubmitCall.handed] using placed

/-- Only task 0 is submitted, and it is pushed in time. -/
private def onlyFirstInTime (pool : IoWorkerPool) : Action → Bool
  | .submit task _ =>
      decide (task = 0 ∧ (pool.submits task = .accepted →
        ∃ index < pool.workerCount, pool.workers index ≠ .exited))
  | _ => true

private def onlyFirst : Action → Bool
  | .submit task _ => decide (task = 0)
  | _ => true

private theorem pushesInTime_of_onlyFirst
    (pool : IoWorkerPool)
    (action : Action)
    (holds : pool.onlyFirstInTime action = true) :
    pool.PushesInTime action := by
  rintro task choice rfl
  exact (of_decide_eq_true holds).2

private theorem onlyFirst_of_inTime
    (pool : IoWorkerPool)
    (action : Action)
    (holds : pool.onlyFirstInTime action = true) :
    onlyFirst action = true := by
  cases action with
  | submit task choice => exact decide_eq_true (of_decide_eq_true holds).1
  | worker | spurious | stop => rfl

/-- Where only task 0 is submitted, no other call is made. -/
private theorem uncalled_of_onlyFirst
    {pool : IoWorkerPool}
    (reachable : machine.Reachable (fun _ action => onlyFirst action = true)
      pool)
    {task : Nat}
    (other : task ≠ 0) :
    pool.submits task = .uncalled := by
  let property : IoWorkerPool → Prop := fun pool =>
    pool.submits task = .uncalled
  have kept : property pool := by
    refine reachable.invariant ?_ ?_
    · rintro start ⟨workerCount, rfl⟩
      rfl
    · intro state action next uncalled only stepped
      have steps := steps_of_step stepped
      cases steps <;>
        simp_all [property, setWorker, setSubmit, notifyAll, onlyFirst]
  exact kept

private theorem quiet_of_onlyFirst
    {pool : IoWorkerPool}
    (reachable : machine.Reachable (fun _ action => onlyFirst action = true)
      pool)
    (returned : pool.submits 0 = .returned)
    (task : Nat) :
    (pool.submits task).Quiet := by
  by_cases first : task = 0
  · subst first
    exact .inr returned
  · exact .inl (uncalled_of_onlyFirst reachable first)

private theorem initial_init (workerCount : Nat) :
    machine.initial (init workerCount) := ⟨workerCount, rfl⟩

/-- One worker executes a task, and leaves when the pool is stopped. -/
private def servedActions : List Action :=
  [.submit 0 0, .submit 0 0, .submit 0 0, .worker 0, .worker 0, .worker 0,
    .worker 0, .stop, .stop, .worker 0, .worker 0, .worker 0, .stop]

theorem executedOnce_served_task :
    ∃ pool, machine.Reachable PushesInTime pool ∧ pool.stop = .returned ∧
      pool.submits 0 = .returned ∧ pool.executed.count 0 = 1 := by
  have executed : (machine.run
      (fun pool action => pool.onlyFirstInTime action = true) (init 1)
      servedActions).map (fun pool => (pool.stop, pool.submits 0)) =
        some (.returned, .returned) := by
    decide
  obtain ⟨pool, reachable, observed⟩ :=
    Machine.Reachable.of_run_map (initial_init 1) executed
  obtain ⟨stopped, returned⟩ := Prod.mk.inj observed
  have inTime := reachable.mono pushesInTime_of_onlyFirst
  have quiet := quiet_of_onlyFirst (reachable.mono onlyFirst_of_inTime)
    returned
  exact ⟨pool, inTime, stopped, returned,
    executedOnce_of_pushesInTime inTime stopped quiet 0 returned⟩

/-- A `Submit` that finds the pool running pushes its task after the workers
have left and `Stop` has returned. -/
private def latePush : List Action :=
  [.submit 0 0, .stop, .stop, .worker 0, .worker 0, .worker 0, .stop,
    .submit 0 0, .submit 0 0]

/-- The task is never executed. -/
theorem task_pushed_too_late :
    ¬∀ pool, machine.Reachable Machine.always pool → pool.ExecutedOnce := by
  intro always
  have executed : (machine.run (fun _ action => onlyFirst action = true)
      (init 1) latePush).map
        (fun pool => (pool.stop, pool.submits 0, pool.executed)) =
        some (.returned, .returned, []) := by
    decide
  obtain ⟨pool, reachable, observed⟩ :=
    Machine.Reachable.of_run_map (initial_init 1) executed
  obtain ⟨stopped, observed⟩ := Prod.mk.inj observed
  obtain ⟨returned, nothing⟩ := Prod.mk.inj observed
  have once := always pool (reachable.mono fun _ _ _ => trivial) stopped
    (quiet_of_onlyFirst reachable returned) 0 returned
  rw [nothing] at once
  cases once

/-! ## No worker is stranded -/

/-- `Stop` has notified the workers, no `Submit` is running, and a worker is
blocked. -/
def Stranded (pool : IoWorkerPool) : Prop :=
  (pool.stop = .notified ∨ pool.stop = .returned) ∧
    (∀ task, (pool.submits task).Quiet) ∧
    ∃ index < pool.workerCount, pool.workers index = .blocked

/-- `Stop` notifies the workers when none has found that it has to wait and is
not blocked yet. -/
def NoneParking (pool : IoWorkerPool) (action : Action) : Prop :=
  action = .stop → pool.stop = .flagged →
    ∀ index < pool.workerCount, pool.workers index ≠ .parking

/-- The flag is cleared when `Stop` is called, and no worker waits after its
notification. -/
structure Released (pool : IoWorkerPool) : Prop where
  halted : pool.stop ≠ .uncalled → pool.running = false
  awake : pool.stop = .notified ∨ pool.stop = .returned →
    ∀ index < pool.workerCount,
      pool.workers index ≠ .parking ∧ pool.workers index ≠ .blocked

/-- A step of a worker strands nobody, if the worker does not wait after the
notification. -/
theorem Released.worker
    {pool : IoWorkerPool}
    {index : Nat}
    (released : pool.Released)
    {mutex : Option Nat}
    {queue executed : List Nat}
    {worker : Worker}
    (wakeful : pool.stop = .notified ∨ pool.stop = .returned →
      worker ≠ .parking ∧ worker ≠ .blocked) :
    ({ pool with mutex, queue, executed }.setWorker index
      worker).Released where
  halted := released.halted
  awake := by
    intro notified other inside
    simp only [setWorker]
    by_cases own : other = index
    · rw [own, Function.update_self]
      exact wakeful notified
    · rw [Function.update_of_ne own]
      exact released.awake notified other inside

/-- A notification strands nobody. -/
theorem Released.notifyAll
    {pool : IoWorkerPool}
    (released : pool.Released) :
    pool.notifyAll.Released where
  halted := released.halted
  awake := by
    intro notified index inside
    obtain ⟨unparked, unblocked⟩ := released.awake notified index inside
    simp only [IoWorkerPool.notifyAll]
    cases waits : pool.workers index <;> simp_all [Worker.wake]

/-- Steps strand nobody, if `Stop` notifies when no worker is about to block. -/
theorem Released.steps
    {pool next : IoWorkerPool}
    {action : Action}
    (released : pool.Released)
    (unparked : pool.NoneParking action)
    (steps : Steps pool action next) :
    next.Released := by
  cases steps with
  | locked | passed | took | left | ran | awoke =>
      exact released.worker fun _ => ⟨nofun, nofun⟩
  | decided index inside checks going empty =>
      -- the flag is still set, so `Stop` has not been called
      apply released.worker
      intro notified
      have halted := released.halted (by rcases notified with h | h <;> simp [h])
      rw [going] at halted
      cases halted
  | parked index inside parks =>
      apply released.worker
      intro notified
      exact absurd parks (released.awake notified index inside).1
  | accepted | refused | inlined | pushed | notifiedNone =>
      exact ⟨released.halted, released.awake⟩
  | notifiedAll task choice pushed =>
      exact ⟨released.notifyAll.halted, released.notifyAll.awake⟩
  | notifiedOne task choice pushed inside waits =>
      have woken : (pool.setWorker choice .woken).Released :=
        released.worker fun _ => ⟨nofun, nofun⟩
      exact ⟨woken.halted, woken.awake⟩
  | flagged called => exact ⟨fun _ => rfl, by simp⟩
  | notified flagged =>
      refine ⟨fun _ => released.halted (by simp [flagged]), ?_⟩
      intro _ index inside
      have clear := unparked rfl flagged index inside
      simp only [IoWorkerPool.notifyAll]
      cases waits : pool.workers index <;> simp_all [Worker.wake]
  | joined notified gone =>
      refine ⟨fun _ => released.halted (by simp [notified]), ?_⟩
      intro _ index inside
      simp [gone index inside]

/-- In the runs in which `Stop` notifies when no worker is about to block, no
worker is stranded. -/
theorem not_stranded_of_noneParking
    {pool : IoWorkerPool}
    (reachable : machine.Reachable NoneParking pool) :
    ¬pool.Stranded := by
  have released : pool.Released := by
    refine reachable.invariant ?_ ?_
    · rintro start ⟨workerCount, rfl⟩
      exact ⟨fun called => absurd rfl called, by simp [init]⟩
    · intro state action next released unparked stepped
      exact released.steps unparked (steps_of_step stepped)
  rintro ⟨notified, _, index, inside, blocked⟩
  exact (released.awake notified index inside).2 blocked

/-- The condition, computed, where only task 0 is submitted. -/
private def noneParkingNow (pool : IoWorkerPool) : Action → Bool
  | .stop =>
      decide (pool.stop = .flagged →
        ∀ index < pool.workerCount, pool.workers index ≠ .parking)
  | .submit task _ => decide (task = 0)
  | _ => true

private theorem noneParking_of_now
    (pool : IoWorkerPool)
    (action : Action)
    (holds : pool.noneParkingNow action = true) :
    pool.NoneParking action := by
  rintro rfl
  exact of_decide_eq_true holds

/-- A worker blocks, and is woken by `Stop`. -/
theorem not_stranded_woken :
    ∃ pool, machine.Reachable NoneParking pool ∧ pool.stop = .notified ∧
      ¬pool.Stranded := by
  have executed : (machine.run
      (fun pool action => pool.noneParkingNow action = true) (init 1)
      [.worker 0, .worker 0, .worker 0, .stop, .stop]).map
        (fun pool => pool.stop) = some .notified := by
    decide
  obtain ⟨pool, reachable, notified⟩ :=
    Machine.Reachable.of_run_map (initial_init 1) executed
  have unparked := reachable.mono noneParking_of_now
  exact ⟨pool, unparked, notified, not_stranded_of_noneParking unparked⟩

/-- A worker has found that it has to wait when `Stop` clears the flag and
notifies, and blocks afterwards. -/
theorem worker_stranded :
    ¬∀ pool, machine.Reachable Machine.always pool → ¬pool.Stranded := by
  intro never
  have executed : (machine.run (fun _ action => onlyFirst action = true)
      (init 1) [.worker 0, .worker 0, .stop, .stop, .worker 0]).map
        (fun pool => (pool.stop, pool.submits 0, pool.workerCount,
          pool.workers 0)) =
        some (.notified, .uncalled, 1, .blocked) := by
    decide
  obtain ⟨pool, reachable, observed⟩ :=
    Machine.Reachable.of_run_map (initial_init 1) executed
  simp only [Prod.mk.injEq] at observed
  obtain ⟨notified, uncalled, single, blocked⟩ := observed
  refine never pool (reachable.mono fun _ _ _ => trivial)
    ⟨.inl notified, ?_, 0, by omega, blocked⟩
  intro task
  by_cases first : task = 0
  · subst first
    exact .inl uncalled
  · exact .inl (uncalled_of_onlyFirst reachable first)

end IoWorkerPool

end Gateway
end TurboAccess
