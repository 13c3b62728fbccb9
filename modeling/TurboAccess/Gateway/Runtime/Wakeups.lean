import TurboAccess.Gateway.Runtime.IoWorkerPool

/-!
# Wake-ups of the worker pool

`Submit` wakes all workers when it has pushed onto an empty queue, and one
worker otherwise.  That is enough: a worker blocks only on an empty queue, so
that the first push after it has blocked is one that wakes everybody.  While no
`Submit` is between its push and its notification, and a task is queued, no
worker is blocked.

Workers left to themselves come to rest, and a pool that rests without having
been stopped has executed everything.
-/

namespace TurboAccess
namespace Gateway

/-- A worker that has the mutex. -/
def Worker.locks : Worker → Bool
  | .checking | .parking | .taking => true
  | _ => false

/-- Steps of a worker until it blocks, leaves, or takes a task. -/
def Worker.rank : Worker → Nat
  | .executing _ => 5
  | .entering | .woken => 4
  | .checking => 3
  | .parking | .taking => 2
  | .blocked | .exited => 0

namespace IoWorkerPool

/-- No call of `Submit` is between its push and its notification. -/
def Announced (pool : IoWorkerPool) : Prop :=
  ∀ task wasEmpty, pool.submits task ≠ .pushed wasEmpty

/-- A bound on what the workers can do by themselves. -/
def effort (pool : IoWorkerPool) : Nat :=
  4 * pool.queue.length + tally pool.workerCount Worker.rank pool.workers

/-- Only workers move. -/
def Unaided (_ : IoWorkerPool) (action : Action) : Prop :=
  ∃ index, action = .worker index

/-- No worker can move. -/
def AtRest (pool : IoWorkerPool) : Prop :=
  ∀ index, pool.step (.worker index) = none

/-- No wake-up is lost: nobody is blocked beside a task that has been announced;
workers left to themselves come to rest; and when they rest in a pool that has
not been stopped, with no `Submit` running, the queue is empty and every
submitted task has been executed exactly once. -/
structure Attentive (pool : IoWorkerPool) : Prop where
  awake : pool.Announced → pool.queue ≠ [] →
    ∀ index, pool.workers index ≠ .blocked
  rests : ∀ actions next, machine.Path Unaided pool actions next →
    actions.length ≤ pool.effort
  served : pool.stop = .uncalled → (∀ task, (pool.submits task).Quiet) →
    pool.AtRest → pool.queue = [] ∧
      ∀ task, pool.submits task = .returned → pool.executed.count task = 1

/-! ## What the inversion of a step leaves out -/

section Guards

variable {pool next : IoWorkerPool} {index task choice : Nat}

/-- The mutex is free when a worker takes it. -/
theorem mutex_eq_none_of_enters
    (outside : pool.workers index = .entering ∨ pool.workers index = .woken)
    (stepped : pool.step (.worker index) = some next) :
    pool.mutex = none := by
  obtain ⟨_, stepped⟩ := Option.ite_none_right_eq_some.mp stepped
  rcases outside with enters | woken
  · rw [stepWorker, enters] at stepped
    exact (Option.ite_none_right_eq_some.mp stepped).1
  · rw [stepWorker, woken] at stepped
    exact (Option.ite_none_right_eq_some.mp stepped).1

/-- The mutex is free when a task is pushed. -/
theorem mutex_eq_none_of_pushes
    (accepted : pool.submits task = .accepted)
    (stepped : pool.step (.submit task choice) = some next) :
    pool.mutex = none := by
  change pool.stepSubmit task choice = some next at stepped
  rw [stepSubmit, accepted] at stepped
  exact (Option.ite_none_right_eq_some.mp stepped).1

/-- A worker that does not wait in a running pool has found a task. -/
theorem queue_ne_nil_of_takes
    (checks : pool.workers index = .checking)
    (going : pool.running = true)
    (stepped : pool.step (.worker index) = some next)
    (takes : next.workers index = .taking) :
    pool.queue ≠ [] := by
  intro empty
  obtain ⟨_, stepped⟩ := Option.ite_none_right_eq_some.mp stepped
  rw [stepWorker, checks] at stepped
  simp only [going, empty, and_self, if_true, Option.some.injEq] at stepped
  subst stepped
  simp [setWorker] at takes

end Guards

/-! ## Nobody is blocked beside a task -/

/-- The mutex is with the worker that is inside of it; who is about to block
has found an empty queue; a queue that fills beside a blocked worker is about to
be announced to all; and workers leave only a pool that has been stopped. -/
structure Alert (pool : IoWorkerPool) : Prop where
  staffed : 0 < pool.workerCount
  held : ∀ index, pool.mutex = some index ↔
    (pool.workers index).locks = true
  inside : ∀ index, pool.mutex = some index → index < pool.workerCount
  parks : ∀ index, pool.workers index = .parking → pool.queue = []
  announces : ∀ index, pool.workers index = .blocked → pool.queue ≠ [] →
    ∃ task, pool.submits task = .pushed true
  takes : ∀ index, pool.workers index = .taking → pool.running = true →
    pool.queue ≠ []
  leaves : ∀ index, pool.workers index = .exited → pool.running = false
  going : pool.running = true ↔ pool.stop = .uncalled

theorem alert_init (workerCount : Nat) : (init workerCount).Alert where
  staffed := by
    simp only [init]
    split <;> omega
  held := by simp [init, Worker.locks]
  inside := nofun
  parks := nofun
  announces := nofun
  takes := nofun
  leaves := nofun
  going := by simp [init]

section Steps

variable {pool : IoWorkerPool} {index task : Nat}

/-- A worker that holds the mutex, or takes it, keeps the pool alert: it holds
the mutex afterwards exactly when it is inside, and it has looked at the
queue. -/
theorem Alert.owner
    (alert : pool.Alert)
    (inside : index < pool.workerCount)
    (own : pool.mutex = none ∨ pool.mutex = some index)
    {mutex : Option Nat}
    {queue executed : List Nat}
    {worker : Worker}
    (custody : mutex = if worker.locks then some index else none)
    (shrinks : pool.queue = [] → queue = [])
    (waits : worker = .parking ∨ worker = .blocked → queue = [])
    (takes : worker = .taking → pool.running = true → queue ≠ [])
    (leaves : worker = .exited → pool.running = false) :
    ({ pool with mutex, queue, executed }.setWorker index worker).Alert := by
  subst custody
  have unlocked : ∀ other, other ≠ index →
      (pool.workers other).locks = false := by
    intro other different
    have held := alert.held other
    rcases own with free | mine
    · simpa [free] using held
    · simpa [mine, Ne.symm different] using held
  refine
    { alert with
      held := ?_
      inside := ?_
      parks := ?_
      announces := ?_
      takes := ?_
      leaves := ?_ }
  · intro other
    by_cases same : other = index
    · subst same
      cases inner : worker.locks <;> simp [setWorker, inner]
    · cases inner : worker.locks <;>
        simp [setWorker, Function.update_of_ne same, unlocked other same,
          Ne.symm same]
  · intro other mutex
    cases inner : worker.locks <;> simp_all [setWorker]
  · intro other parks
    by_cases same : other = index
    · subst same
      exact waits (.inl (by simpa [setWorker] using parks))
    · have outside := unlocked other same
      simp only [setWorker, Function.update_of_ne same] at parks
      simp [parks, Worker.locks] at outside
  · intro other blocked queued
    by_cases same : other = index
    · subst same
      exact absurd (waits (.inr (by simpa [setWorker] using blocked))) queued
    · simp only [setWorker, Function.update_of_ne same] at blocked
      exact alert.announces other blocked fun empty => queued (shrinks empty)
  · intro other taken running
    by_cases same : other = index
    · subst same
      exact takes (by simpa [setWorker] using taken) running
    · have outside := unlocked other same
      simp only [setWorker, Function.update_of_ne same] at taken
      simp [taken, Worker.locks] at outside
  · intro other left
    by_cases same : other = index
    · subst same
      exact leaves (by simpa [setWorker] using left)
    · simp only [setWorker, Function.update_of_ne same] at left
      exact alert.leaves other left

/-- Workers that are outside of the mutex, before and after, keep the pool
alert, if none of them begins to wait or leaves. -/
theorem Alert.outsiders
    (alert : pool.Alert)
    {executed : List Nat}
    {workers : Nat → Worker}
    (outside : ∀ index, workers index = pool.workers index ∨
      (pool.workers index).locks = false ∧
        (workers index = .entering ∨ workers index = .woken)) :
    { pool with workers, executed }.Alert := by
  have same : ∀ index worker, worker ≠ .entering → worker ≠ .woken →
      workers index = worker → pool.workers index = worker := by
    intro index worker notEntering notWoken found
    rcases outside index with unmoved | ⟨_, enters | woken⟩
    · rw [← unmoved, found]
    · exact absurd (found.symm.trans enters) notEntering
    · exact absurd (found.symm.trans woken) notWoken
  refine
    { alert with
      held := ?_
      parks := fun index parks =>
        alert.parks index (same index _ nofun nofun parks)
      announces := fun index blocked =>
        alert.announces index (same index _ nofun nofun blocked)
      takes := fun index takes =>
        alert.takes index (same index _ nofun nofun takes)
      leaves := fun index left =>
        alert.leaves index (same index _ nofun nofun left) }
  intro index
  change pool.mutex = some index ↔ (workers index).locks = true
  rw [alert.held index]
  rcases outside index with unmoved | ⟨before, enters | woken⟩
  · rw [unmoved]
  · rw [before, enters]
    simp [Worker.locks]
  · rw [before, woken]
    simp [Worker.locks]

/-- Waking a worker keeps the pool alert. -/
theorem Alert.awoken
    (alert : pool.Alert)
    (waits : pool.workers index = .blocked) :
    (pool.setWorker index .woken).Alert := by
  apply alert.outsiders
  intro other
  by_cases same : other = index
  · subst same
    exact .inr ⟨by rw [waits]; rfl, .inr (Function.update_self ..)⟩
  · exact .inl (Function.update_of_ne same ..)

/-- Waking all workers keeps the pool alert. -/
theorem Alert.notifyAll (alert : pool.Alert) : pool.notifyAll.Alert := by
  apply alert.outsiders
  intro index
  cases state : pool.workers index with
  | blocked => exact .inr ⟨rfl, .inr rfl⟩
  | entering | checking | parking | woken | taking | executing | exited =>
      exact .inl rfl

/-- Nobody is blocked after a notification of all. -/
theorem not_blocked_of_notifyAll (pool : IoWorkerPool) (index : Nat) :
    pool.notifyAll.workers index ≠ .blocked := by
  simp only [IoWorkerPool.notifyAll]
  cases pool.workers index <;> simp [Worker.wake]

/-- A call of `Submit` that leaves the queue alone keeps the pool alert, if it
was not about to wake everybody. -/
theorem Alert.submit
    (alert : pool.Alert)
    {executed : List Nat}
    {call : SubmitCall}
    (quiet : pool.submits task ≠ .pushed true) :
    ({ pool with executed }.setSubmit task call).Alert where
  staffed := alert.staffed
  held := alert.held
  inside := alert.inside
  parks := alert.parks
  announces := by
    intro index blocked queued
    obtain ⟨other, announces⟩ := alert.announces index blocked queued
    have different : other ≠ task := by
      rintro rfl
      exact quiet announces
    refine ⟨other, ?_⟩
    simp only [setSubmit, Function.update_of_ne different]
    exact announces
  takes := alert.takes
  leaves := alert.leaves
  going := alert.going

/-- A push keeps the pool alert: the mutex is free, so that nobody is about to
block, and a push onto an empty queue will wake everybody. -/
theorem Alert.pushed
    (alert : pool.Alert)
    (accepted : pool.submits task = .accepted)
    (free : pool.mutex = none) :
    ({ pool with queue := pool.queue ++ [task] }.setSubmit task
      (.pushed pool.queue.isEmpty)).Alert := by
  have outside : ∀ index, (pool.workers index).locks = false := by
    intro index
    have held := alert.held index
    simpa [free] using held
  refine { alert with parks := ?_, announces := ?_, takes := ?_ }
  · intro index parks
    have unlocked := outside index
    simp only [setSubmit] at parks
    simp [parks, Worker.locks] at unlocked
  · intro index blocked _
    by_cases empty : pool.queue = []
    · exact ⟨task, by simp [setSubmit, empty]⟩
    · obtain ⟨other, announces⟩ := alert.announces index blocked empty
      have different : other ≠ task := by
        rintro rfl
        rw [accepted] at announces
        cases announces
      refine ⟨other, ?_⟩
      simp only [setSubmit, Function.update_of_ne different]
      exact announces
  · intro index takes
    have unlocked := outside index
    simp only [setSubmit] at takes
    simp [takes, Worker.locks] at unlocked

/-- Every step keeps the pool alert. -/
theorem Alert.step
    {next : IoWorkerPool}
    {action : Action}
    (alert : pool.Alert)
    (stepped : pool.step action = some next) :
    next.Alert := by
  have mine : ∀ index, (pool.workers index).locks = true →
      pool.mutex = some index :=
    fun index inner => (alert.held index).mpr inner
  cases steps_of_step stepped with
  | locked index inside outside =>
      have free := mutex_eq_none_of_enters outside stepped
      exact alert.owner inside (.inl free) rfl id (by simp) (by simp) (by simp)
  | decided index inside checks going empty =>
      have own := mine index (by rw [checks]; rfl)
      exact alert.owner inside (.inr own) own id (fun _ => empty) (by simp)
        (by simp)
  | passed index inside checks =>
      have own := mine index (by rw [checks]; rfl)
      refine alert.owner inside (.inr own) own id (by simp) ?_ (by simp)
      intro _ going
      exact queue_ne_nil_of_takes checks going stepped (by simp [setWorker])
  | parked index inside parks =>
      have own := mine index (by rw [parks]; rfl)
      exact alert.owner inside (.inr own) rfl id
        (fun _ => alert.parks index parks) (by simp) (by simp)
  | took index task rest inside takes queued =>
      have own := mine index (by rw [takes]; rfl)
      refine alert.owner inside (.inr own) rfl ?_ (by simp) (by simp) (by simp)
      intro empty
      rw [queued] at empty
      cases empty
  | left index inside takes empty =>
      have own := mine index (by rw [takes]; rfl)
      refine alert.owner inside (.inr own) rfl id (by simp) (by simp) ?_
      intro _
      by_contra going
      exact alert.takes index takes (by simpa using going) empty
  | ran index task inside executes =>
      apply alert.outsiders
      intro other
      by_cases same : other = index
      · subst same
        exact .inr ⟨by rw [executes]; rfl, .inl (Function.update_self ..)⟩
      · exact .inl (Function.update_of_ne same ..)
  | awoke index inside waits => exact alert.awoken waits
  | accepted task choice called going => exact alert.submit (by simp [called])
  | refused task choice called halted => exact alert.submit (by simp [called])
  | inlined task choice refused => exact alert.submit (by simp [refused])
  | pushed task choice accepted =>
      exact alert.pushed accepted (mutex_eq_none_of_pushes accepted stepped)
  | notifiedAll task choice pushed =>
      exact { alert.notifyAll with
        announces := fun index blocked =>
          absurd blocked (not_blocked_of_notifyAll pool index) }
  | notifiedOne task choice pushed inside waits =>
      have woken := alert.awoken waits
      exact woken.submit (by simp [setWorker, pushed])
  | notifiedNone task choice pushed => exact alert.submit (by simp [pushed])
  | flagged called =>
      exact { alert with
        takes := by simp
        leaves := fun _ _ => rfl
        going := by simp }
  | notified flagged =>
      have halted := alert.going
      exact { alert.notifyAll with
        going := by
          simpa [flagged, IoWorkerPool.notifyAll] using halted }
  | joined notified gone =>
      have halted := alert.going
      exact { alert with going := by simpa [notified] using halted }

end Steps

theorem alert_of_reachable
    {pool : IoWorkerPool}
    (reachable : machine.Reachable Machine.always pool) :
    pool.Alert := by
  refine reachable.invariant ?_ ?_
  · rintro start ⟨workerCount, rfl⟩
    exact alert_init workerCount
  · intro state action next alert _ stepped
    exact alert.step stepped

/-- In a pool whose pushes have been announced nobody is blocked beside a
task. -/
theorem Alert.awake
    {pool : IoWorkerPool}
    {index : Nat}
    (alert : pool.Alert)
    (announced : pool.Announced)
    (queued : pool.queue ≠ []) :
    pool.workers index ≠ .blocked := by
  intro blocked
  obtain ⟨task, announces⟩ := alert.announces index blocked queued
  exact announced task true announces

/-! ## Workers come to rest -/

/-- A step of a worker costs effort when it costs more at the worker than the
queue grows. -/
theorem effort_setWorker_lt
    {pool : IoWorkerPool}
    {index : Nat}
    (inside : index < pool.workerCount)
    {mutex : Option Nat}
    {queue executed : List Nat}
    {worker : Worker}
    (lowers : worker.rank + 4 * queue.length <
      (pool.workers index).rank + 4 * pool.queue.length) :
    ({ pool with mutex, queue, executed }.setWorker index worker).effort <
      pool.effort := by
  have moved := @tally_update _ _ Worker.rank pool.workers _ inside worker
  simp only [effort, setWorker]
  omega

theorem effort_lt_of_step
    {pool next : IoWorkerPool}
    {index : Nat}
    (stepped : pool.step (.worker index) = some next) :
    next.effort < pool.effort := by
  cases steps_of_step stepped with
  | locked _ inside outside =>
      apply effort_setWorker_lt inside
      rcases outside with enters | woken <;> simp [*, Worker.rank]
  | decided _ inside checks =>
      exact effort_setWorker_lt inside (by simp [checks, Worker.rank])
  | passed _ inside checks =>
      exact effort_setWorker_lt inside (by simp [checks, Worker.rank])
  | parked _ inside parks =>
      exact effort_setWorker_lt inside (by simp [parks, Worker.rank])
  | took _ task rest inside takes queued =>
      apply effort_setWorker_lt inside
      simp only [takes, queued, Worker.rank, List.length_cons]
      omega
  | left _ inside takes empty =>
      exact effort_setWorker_lt inside (by simp [takes, Worker.rank])
  | ran _ task inside executes =>
      exact effort_setWorker_lt inside (by simp [executes, Worker.rank])

/-- Workers left to themselves take no more steps than their effort. -/
theorem length_le_effort
    {pool next : IoWorkerPool}
    {actions : List Action}
    (path : machine.Path Unaided pool actions next) :
    actions.length + next.effort ≤ pool.effort := by
  induction path with
  | nil => simp
  | cons allowed stepped _ inductionHypothesis =>
      obtain ⟨index, rfl⟩ := allowed
      have cheaper := effort_lt_of_step stepped
      simp only [List.length_cons]
      omega

/-! ## A pool at rest has executed everything -/

/-- Where no worker can move, each is blocked or has left. -/
theorem Alert.blocked_or_exited
    {pool : IoWorkerPool}
    {index : Nat}
    (alert : pool.Alert)
    (rest : pool.AtRest)
    (inside : index < pool.workerCount) :
    pool.workers index = .blocked ∨ pool.workers index = .exited := by
  have stuck : ∀ other < pool.workerCount, pool.stepWorker other = none := by
    intro other below
    have none := rest other
    rwa [IoWorkerPool.step, if_pos below] at none
  -- whoever has the mutex could move
  have free : pool.mutex = none := by
    cases mutex : pool.mutex with
    | none => rfl
    | some holder =>
        have inner := (alert.held holder).mp mutex
        have none := stuck holder (alert.inside holder mutex)
        revert none
        fun_cases stepWorker pool holder <;> simp_all [Worker.locks]
  have none := stuck index inside
  revert none
  fun_cases stepWorker pool index <;> simp_all

/-- A step that does not call `Stop` keeps tasks in one place: nobody has
left yet. -/
theorem kept_of_uncalled
    {pool next : IoWorkerPool}
    {action : Action}
    (reachable : machine.Reachable Machine.always pool)
    (kept : pool.stop = .uncalled → pool.Kept)
    (stepped : pool.step action = some next)
    (uncalled : next.stop = .uncalled) :
    next.Kept := by
  have alert := alert_of_reachable reachable
  have steps := steps_of_step stepped
  have before : pool.stop = .uncalled := by
    cases steps <;> simp_all [setWorker, setSubmit, IoWorkerPool.notifyAll]
  refine (kept before).steps ?_ steps
  intro task choice _ _
  refine ⟨0, alert.staffed, ?_⟩
  intro left
  have going := alert.going.mpr before
  rw [alert.leaves 0 left] at going
  cases going

/-- While `Stop` has not been called, tasks are in one place. -/
theorem kept_of_running
    {pool : IoWorkerPool}
    (reachable : machine.Reachable Machine.always pool)
    (uncalled : pool.stop = .uncalled) :
    pool.Kept := by
  let property : IoWorkerPool → Prop := fun pool =>
    pool.stop = .uncalled → pool.Kept
  have holds : property pool := by
    refine reachable.induction ?_ ?_
    · rintro start ⟨workerCount, rfl⟩ _
      exact kept_init workerCount
    · intro state action next reached kept _ stepped uncalled
      exact kept_of_uncalled reached kept stepped uncalled
  exact holds uncalled

/-- No wake-up of a worker is lost. -/
theorem attentive_of_reachable
    {pool : IoWorkerPool}
    (reachable : machine.Reachable Machine.always pool) :
    pool.Attentive := by
  have alert := alert_of_reachable reachable
  refine ⟨fun announced queued index => alert.awake announced queued, ?_, ?_⟩
  · intro actions next path
    have bounded := length_le_effort path
    omega
  · intro uncalled quiet rest
    have blocked : ∀ index < pool.workerCount,
        pool.workers index = .blocked := by
      intro index inside
      refine (alert.blocked_or_exited rest inside).resolve_right fun left => ?_
      have going := alert.going.mpr uncalled
      rw [alert.leaves index left] at going
      cases going
    have announced : pool.Announced := by
      intro task wasEmpty pushed
      rcases quiet task with call | call <;> rw [pushed] at call <;> cases call
    have empty : pool.queue = [] := by
      by_contra queued
      exact alert.awake announced queued (blocked 0 alert.staffed)
    refine ⟨empty, fun task returned => ?_⟩
    have idle : tally pool.workerCount (Worker.running task)
        pool.workers = 0 := by
      apply tally_eq_zero_iff.mpr
      intro index inside
      rw [blocked index inside]
      rfl
    have placed := (kept_of_running reachable uncalled).placed task
    rw [places, empty, idle, returned] at placed
    simpa [SubmitCall.handed] using placed

/-- Two workers are blocked, a task is submitted, and both come to rest. -/
private def restingActions : List Action :=
  [.worker 0, .worker 0, .worker 0, .worker 1, .worker 1, .worker 1,
    .submit 0 0, .submit 0 0, .submit 0 0, .worker 0, .worker 0, .worker 0,
    .worker 0, .worker 0, .worker 0, .worker 0, .worker 1, .worker 1,
    .worker 1]

/-- The task has been executed when both are blocked again. -/
theorem attentive_rested :
    ∃ pool, machine.Reachable Machine.always pool ∧ pool.Attentive ∧
      pool.stop = .uncalled ∧ pool.executed = [0] ∧
      pool.workers 0 = .blocked ∧ pool.workers 1 = .blocked := by
  have initial : machine.initial (init 2) := ⟨2, rfl⟩
  have executed : (machine.run Machine.always (init 2) restingActions).map
      (fun pool => (pool.stop, pool.executed, pool.workers 0,
        pool.workers 1)) =
        some (.uncalled, [0], .blocked, .blocked) := by
    decide
  obtain ⟨pool, reachable, observed⟩ :=
    Machine.Reachable.of_run_map initial executed
  simp only [Prod.mk.injEq] at observed
  exact ⟨pool, reachable, attentive_of_reachable reachable, observed⟩

end IoWorkerPool
end Gateway
end TurboAccess
