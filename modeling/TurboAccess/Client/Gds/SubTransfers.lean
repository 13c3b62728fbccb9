import TurboAccess.Client.Async.ClientExecutor

/-!
# Sub-transfers of a split read

A read that is split submits its sub-transfers to the executor in order, and
gets their results in the same order.  It comes back with the first failure, or
when a submission throws, and waits for no other result then; a future of a
packaged task waits for nothing when it is dropped.  The sub-transfers write
into the buffer of the caller.
-/

namespace TurboAccess
namespace Client
namespace Gds

/-! ## The machine -/

/-- How a transfer ends. -/
inductive TransferEnd
  | success
  | failure
  | exception
  deriving DecidableEq, Repr

/-- Where a split read is: at the submission of a sub-transfer, at its result, or
back at the caller. -/
inductive ReadCall
  | submitting (index : Nat)
  | collecting (index : Nat)
  | over (ending : TransferEnd)
  deriving DecidableEq, Repr

/-- A split read on an executor; its sub-transfers are the first tasks of the
executor, and the futures hold their results. -/
structure ParallelRead where
  executor : ClientExecutor
  results : Nat → Option TransferEnd
  call : ReadCall

/-- What moves a split read: the call, with the outcome of the start of a
bthread, the result of a sub-transfer run inline, and whether the progress
callback throws; the bthread of a sub-transfer; the submission of another
task, or that task; a call of `Shutdown`. -/
inductive ReadAction
  | call (starts : Bool) (result : TransferEnd) (callbackThrows : Bool)
  | run (index : Nat) (result : TransferEnd)
  | other (task : Nat) (starts : Bool)
  | shutdown (call : Nat) (timeLeft : Bool)
  deriving DecidableEq, Repr

namespace ParallelRead

/-- A read that has submitted nothing, on an executor just constructed. -/
def init : ParallelRead where
  executor := .init
  results := fun _ => none
  call := .submitting 0

/-- State of a sub-transfer. -/
abbrev submits (read : ParallelRead) : Nat → Submission :=
  read.executor.submits

/-- Next step of the submission of a sub-transfer, or of the sub-transfer, which
has a result once it has run. -/
def stepTask
    (read : ParallelRead)
    (index : Nat)
    (starts : Bool)
    (result : TransferEnd) : Option ParallelRead :=
  (read.executor.stepSubmit index starts).map fun executor =>
    { read with
      executor
      results :=
        if read.submits index = .running then
          Function.update read.results index (some result)
        else read.results }

/-- Where the call is after a step of a submission: `Submit` has thrown, has
returned, or goes on. -/
def afterSubmit (index : Nat) : Submission → ReadCall
  | .threw => .over .exception
  | .queued => .submitting (index + 1)
  | .finished => .submitting (index + 1)
  | _ => .submitting index

/-- Next step of the call. -/
def stepCall
    (count : Nat)
    (read : ParallelRead)
    (starts : Bool)
    (result : TransferEnd)
    (callbackThrows : Bool) : Option ParallelRead :=
  match read.call with
  | .submitting index =>
      if index < count then
        (read.stepTask index starts result).map fun next =>
          { next with call := afterSubmit index (next.submits index) }
      else some { read with call := .collecting 0 }
  | .collecting index =>
      if index < count then
        match read.results index with
        | none => none
        | some .success =>
            if callbackThrows then some { read with call := .over .exception }
            else some { read with call := .collecting (index + 1) }
        | some ending => some { read with call := .over ending }
      else some { read with call := .over .success }
  | .over _ => none

/-- A sub-transfer is on its bthread. -/
def OnBthread (read : ParallelRead) (index : Nat) : Prop :=
  read.call ≠ .submitting index ∧
    (read.submits index = .queued ∨ read.submits index = .running ∨
      read.submits index = .ran)

instance (read : ParallelRead) (index : Nat) :
    Decidable (read.OnBthread index) :=
  inferInstanceAs (Decidable (_ ∧ (_ ∨ _ ∨ _)))

def step (count : Nat) (read : ParallelRead) :
    ReadAction → Option ParallelRead
  | .call starts result callbackThrows =>
      read.stepCall count starts result callbackThrows
  | .run index result =>
      if index < count ∧ read.OnBthread index then
        read.stepTask index true result
      else none
  | .other task starts =>
      if count ≤ task then
        (read.executor.stepSubmit task starts).map fun executor =>
          { read with executor }
      else none
  | .shutdown call timeLeft =>
      (read.executor.stepShutdown call timeLeft).map fun executor =>
        { read with executor }

/-- All interleavings of a read of `count` sub-transfers with their bthreads, with
other tasks and with calls of `Shutdown`. -/
def machine (count : Nat) : Machine ParallelRead ReadAction where
  initial := fun read => read = init
  step := step count

/-! ## The property and its condition -/

/-- A task that runs, or has been submitted and will run. -/
def Outstanding (submission : Submission) : Prop :=
  submission = .checked ∨ submission = .counted ∨ submission = .queued ∨
    submission = .unstarted ∨ submission = .running

instance (submission : Submission) : Decidable (Outstanding submission) :=
  inferInstanceAs (Decidable (_ ∨ _ ∨ _ ∨ _ ∨ _))

/-- Once the call is over, none of its sub-transfers runs or will run. -/
def NoneOutlives (count : Nat) (read : ParallelRead) : Prop :=
  ∀ ending, read.call = .over ending →
    ∀ index < count, ¬Outstanding (read.submits index)

/-- The next step of the call ends it before it has all results: a submission
finds the executor stopped, a result is not a success, or the progress callback
throws. -/
def LeavesEarly
    (count : Nat)
    (read : ParallelRead)
    (callbackThrows : Bool) : Prop :=
  match read.call with
  | .submitting index =>
      index < count ∧ read.submits index = .uncalled ∧
        read.executor.stop = true
  | .collecting index =>
      index < count ∧ ∃ ending, read.results index = some ending ∧
        (ending ≠ .success ∨ callbackThrows = true)
  | .over _ => False

/-- A call that ends early finds a result of every sub-transfer that it has
submitted. -/
def LeavesNone
    (count : Nat)
    (read : ParallelRead)
    (action : ReadAction) : Prop :=
  ∀ starts result callbackThrows,
    action = .call starts result callbackThrows →
      read.LeavesEarly count callbackThrows →
        ∀ index < count,
          read.submits index = .uncalled ∨ read.results index ≠ none

/-- At no point of a run does a sub-transfer outlive the call. -/
def NoneOutlivesAlong
    (count : Nat)
    (start : ParallelRead)
    (labels : List ReadAction) : Prop :=
  ∀ first middle, first <+: labels →
    (machine count).Path Machine.always start first middle →
      middle.NoneOutlives count

/-! ## What one step does -/

/-- A task that was given to a bthread, or has run inline. -/
def Launched (submission : Submission) : Prop :=
  submission = .queued ∨ submission = .running ∨ submission = .ran ∨
    submission = .finished

/-- A task that has run. -/
def Done (submission : Submission) : Prop :=
  submission = .ran ∨ submission = .finished

theorem Done.not_outstanding
    {submission : Submission}
    (done : Done submission) :
    ¬Outstanding submission := by
  rcases done with rfl | rfl <;> simp [Outstanding]

/-- A launched task has run, or is outstanding. -/
theorem Launched.not_outstanding_iff
    {submission : Submission}
    (launched : Launched submission) :
    ¬Outstanding submission ↔ Done submission := by
  rcases launched with rfl | rfl | rfl | rfl <;> simp [Outstanding, Done]

/-- The steps of a submission, and of its task. -/
inductive Advances (stop : Bool) : Submission → Submission → Prop
  | threw (stopped : stop = true) : Advances stop .uncalled .threw
  | checked (going : stop = false) : Advances stop .uncalled .checked
  | counted : Advances stop .checked .counted
  | queued : Advances stop .counted .queued
  | unstarted : Advances stop .counted .unstarted
  | started : Advances stop .queued .running
  | inline : Advances stop .unstarted .running
  | ran : Advances stop .running .ran
  | finished : Advances stop .ran .finished

/-- A task has run once it has been running. -/
theorem Advances.done_cases
    {stop : Bool}
    {before after : Submission}
    (advances : Advances stop before after) :
    before = .running ∧ after = .ran ∨
      before ≠ .running ∧ (Done before ↔ Done after) := by
  cases advances with
  | ran => exact .inl ⟨rfl, rfl⟩
  | threw | checked | counted | queued | unstarted | started | inline
  | finished =>
      exact .inr ⟨nofun, by simp [Done]⟩

/-- A task on a bthread stays launched, and stays done. -/
theorem Advances.launched_of_bthread
    {stop : Bool}
    {before after : Submission}
    (advances : Advances stop before after)
    (running : before = .queued ∨ before = .running ∨ before = .ran) :
    (Launched before → Launched after) ∧ (Done before → Done after) := by
  cases advances with
  | started | ran | finished => simp [Launched, Done]
  | threw | checked | counted | queued | unstarted | inline =>
      simp at running

theorem submits_of_stepSubmit
    {executor next : ClientExecutor}
    {task : Nat}
    {starts : Bool}
    (stepped : executor.stepSubmit task starts = some next) :
    ∃ submission,
      Advances executor.stop (executor.submits task) submission ∧
        next.submits = Function.update executor.submits task submission := by
  revert stepped
  fun_cases ClientExecutor.stepSubmit executor task starts
  all_goals
    intro stepped
    cases stepped
  case case1 uncalled stopped =>
    exact ⟨_, by rw [uncalled]; exact .threw stopped, rfl⟩
  case case2 uncalled going =>
    exact ⟨_, by rw [uncalled]; exact .checked (by simpa using going), rfl⟩
  case case3 before => exact ⟨_, by rw [before]; exact .counted, rfl⟩
  case case4 before _ => exact ⟨_, by rw [before]; exact .queued, rfl⟩
  case case5 before _ => exact ⟨_, by rw [before]; exact .unstarted, rfl⟩
  case case6 before => exact ⟨_, by rw [before]; exact .started, rfl⟩
  case case7 before => exact ⟨_, by rw [before]; exact .inline, rfl⟩
  case case8 before => exact ⟨_, by rw [before]; exact .ran, rfl⟩
  case case9 before => exact ⟨_, by rw [before]; exact .finished, rfl⟩

/-- A task moves on, and has a result when it has run. -/
structure TaskMoves
    (read : ParallelRead)
    (index : Nat)
    (submission : Submission)
    (next : ParallelRead) : Prop where
  advances : Advances read.executor.stop (read.submits index) submission
  submits : next.submits = Function.update read.submits index submission
  result : (read.results index ≠ none ↔ Done (read.submits index)) →
    (next.results index ≠ none ↔ Done submission)
  others : ∀ other ≠ index, next.results other = read.results other

theorem taskMoves_of_stepTask
    {read next : ParallelRead}
    {index : Nat}
    {starts : Bool}
    {result : TransferEnd}
    (stepped : read.stepTask index starts result = some next) :
    next.call = read.call ∧
      ∃ submission, TaskMoves read index submission next := by
  simp only [stepTask, Option.map_eq_some_iff] at stepped
  obtain ⟨executor, moved, rfl⟩ := stepped
  obtain ⟨submission, advances, submits⟩ := submits_of_stepSubmit moved
  refine ⟨rfl, submission, advances, submits, ?_, ?_⟩
  · intro known
    rcases advances.done_cases with ⟨running, rfl⟩ | ⟨idle, same⟩
    · rw [if_pos running]
      simp [Done]
    · rw [if_neg idle, known, same]
  · intro other different
    dsimp only
    split
    · exact Function.update_of_ne different _ _
    · rfl

/-- What the bthreads, other tasks and `Shutdown` do: the call stays where it is,
and a sub-transfer stays as it is, or moves on its bthread. -/
structure Background
    (count : Nat)
    (read next : ParallelRead) : Prop where
  call : next.call = read.call
  tasks : ∀ index < count,
    next.submits index = read.submits index ∧
        next.results index = read.results index ∨
      read.OnBthread index ∧
        ∃ submission, TaskMoves read index submission next

/-- The steps of a split read. -/
inductive Steps (count : Nat) (read : ParallelRead) :
    ReadAction → ParallelRead → Prop
  | background (action : ReadAction) (next : ParallelRead)
      (elsewhere : ∀ starts result callbackThrows,
        action ≠ .call starts result callbackThrows)
      (background : Background count read next) :
      Steps count read action next
  | submission (index : Nat) (starts : Bool) (result : TransferEnd)
      (callbackThrows : Bool) (submission : Submission) (next : ParallelRead)
      (submitting : read.call = .submitting index)
      (more : index < count)
      (moves : TaskMoves read index submission next)
      (call : next.call = afterSubmit index submission) :
      Steps count read (.call starts result callbackThrows) next
  | submitted (index : Nat) (starts : Bool) (result : TransferEnd)
      (callbackThrows : Bool)
      (submitting : read.call = .submitting index)
      (all : count ≤ index) :
      Steps count read (.call starts result callbackThrows)
        { read with call := .collecting 0 }
  | collected (index : Nat) (starts : Bool) (result : TransferEnd)
      (collecting : read.call = .collecting index)
      (more : index < count)
      (succeeded : read.results index = some .success) :
      Steps count read (.call starts result false)
        { read with call := .collecting (index + 1) }
  | left (index : Nat) (starts : Bool) (result : TransferEnd)
      (callbackThrows : Bool) (ending : TransferEnd)
      (collecting : read.call = .collecting index)
      (early : read.LeavesEarly count callbackThrows) :
      Steps count read (.call starts result callbackThrows)
        { read with call := .over ending }
  | completed (index : Nat) (starts : Bool) (result : TransferEnd)
      (callbackThrows : Bool)
      (collecting : read.call = .collecting index)
      (all : count ≤ index) :
      Steps count read (.call starts result callbackThrows)
        { read with call := .over .success }

theorem steps_of_stepCall
    {count : Nat}
    {read next : ParallelRead}
    {starts : Bool}
    {result : TransferEnd}
    {callbackThrows : Bool}
    (stepped : read.stepCall count starts result callbackThrows = some next) :
    Steps count read (.call starts result callbackThrows) next := by
  revert stepped
  fun_cases stepCall count read starts result callbackThrows
  case case1 index submitting more =>
    intro stepped
    obtain ⟨moved, task, rfl⟩ := Option.map_eq_some_iff.mp stepped
    obtain ⟨_, submission, moves⟩ := taskMoves_of_stepTask task
    have own : moved.submits index = submission := by
      rw [moves.submits, Function.update_self]
    refine .submission index starts result callbackThrows submission _
      submitting more ⟨moves.advances, moves.submits, moves.result,
        moves.others⟩ ?_
    dsimp only
    rw [own]
  case case2 index submitting all =>
    rintro ⟨⟩
    exact .submitted index starts result callbackThrows submitting (by omega)
  case case3 =>
    intro stepped
    cases stepped
  case case4 index collecting more succeeded throws =>
    rintro ⟨⟩
    refine .left index starts result callbackThrows _ collecting ?_
    simp [LeavesEarly, collecting, more, succeeded, throws]
  case case5 index collecting more succeeded returns =>
    rintro ⟨⟩
    rw [Bool.not_eq_true] at returns
    subst returns
    exact .collected index starts result collecting more succeeded
  case case6 index collecting more ending unsuccessful ended =>
    rintro ⟨⟩
    refine .left index starts result callbackThrows _ collecting ?_
    rw [LeavesEarly, collecting]
    exact ⟨more, ending, ended, .inl unsuccessful⟩
  case case7 index collecting all =>
    rintro ⟨⟩
    exact .completed index starts result callbackThrows collecting (by omega)
  case case8 =>
    intro stepped
    cases stepped

theorem steps_of_step
    {count : Nat}
    {read next : ParallelRead}
    {action : ReadAction}
    (stepped : (machine count).step read action = some next) :
    Steps count read action next := by
  change read.step count action = some next at stepped
  cases action with
  | call starts result callbackThrows => exact steps_of_stepCall stepped
  | run index result =>
      simp only [step, Option.ite_none_right_eq_some] at stepped
      obtain ⟨⟨_, onBthread⟩, task⟩ := stepped
      obtain ⟨same, submission, moves⟩ := taskMoves_of_stepTask task
      refine .background _ _ (by simp) ⟨same, ?_⟩
      intro other _
      by_cases own : other = index
      · subst own
        exact .inr ⟨onBthread, submission, moves⟩
      · refine .inl ⟨?_, moves.others other own⟩
        rw [moves.submits, Function.update_of_ne own]
  | other task starts =>
      simp only [step, Option.ite_none_right_eq_some,
        Option.map_eq_some_iff] at stepped
      obtain ⟨outside, executor, moved, rfl⟩ := stepped
      obtain ⟨submission, _, submits⟩ := submits_of_stepSubmit moved
      refine .background _ _ (by simp) ⟨rfl, ?_⟩
      intro index inside
      refine .inl ⟨?_, rfl⟩
      have different : index ≠ task := by omega
      exact (congrFun submits index).trans
        (Function.update_of_ne different _ _)
  | shutdown call timeLeft =>
      simp only [step, Option.map_eq_some_iff] at stepped
      obtain ⟨executor, moved, rfl⟩ := stepped
      refine .background _ _ (by simp) ⟨rfl, ?_⟩
      intro index _
      have submits : executor.submits = read.executor.submits := by
        cases ClientExecutor.steps_of_stepShutdown moved <;> rfl
      exact .inl ⟨congrFun submits index, rfl⟩

/-! ## Results and submissions are in order -/

/-- The results are those of the sub-transfers that have run.  What comes before
the one that is being submitted is launched, what comes after it is not
submitted; when results are collected all are launched, and those whose result
was collected have run. -/
structure InOrder (count : Nat) (read : ParallelRead) : Prop where
  results : ∀ index < count,
    read.results index ≠ none ↔ Done (read.submits index)
  earlier : ∀ current, read.call = .submitting current →
    ∀ index < current, index < count → Launched (read.submits index)
  later : ∀ current, read.call = .submitting current →
    ∀ index, current < index → index < count → read.submits index = .uncalled
  launched : ∀ current, read.call = .collecting current →
    ∀ index < count, Launched (read.submits index)
  collected : ∀ current, read.call = .collecting current →
    ∀ index < current, index < count → Done (read.submits index)

theorem inOrder_init (count : Nat) : init.InOrder count := by
  constructor <;> simp [init, submits, ClientExecutor.init, Done]

section Steps

variable
  {count : Nat}
  {read next : ParallelRead}
  {index : Nat}
  {submission : Submission}

/-- The result of a sub-transfer that moves is there when it has run. -/
theorem InOrder.results_moved
    (ordered : read.InOrder count)
    (more : index < count)
    (moves : TaskMoves read index submission next) :
    ∀ other < count, next.results other ≠ none ↔ Done (next.submits other) := by
  intro other inside
  by_cases own : other = index
  · subst own
    rw [moves.submits, Function.update_self]
    exact moves.result (ordered.results other more)
  · rw [moves.submits, Function.update_of_ne own, moves.others other own]
    exact ordered.results other inside

/-- A sub-transfer on its bthread stays launched, and stays done. -/
theorem Background.launched
    (background : Background count read next)
    (inside : index < count) :
    (Launched (read.submits index) → Launched (next.submits index)) ∧
      (Done (read.submits index) → Done (next.submits index)) := by
  rcases background.tasks index inside with
    ⟨same, _⟩ | ⟨⟨_, running⟩, submission, moves⟩
  · rw [same]
    exact ⟨id, id⟩
  · rw [moves.submits, Function.update_self]
    exact moves.advances.launched_of_bthread running

/-- What is not submitted stays so in the background. -/
theorem Background.uncalled
    (background : Background count read next)
    (inside : index < count)
    (uncalled : read.submits index = .uncalled) :
    next.submits index = .uncalled := by
  rcases background.tasks index inside with ⟨same, _⟩ | ⟨⟨_, running⟩, _⟩
  · rw [same, uncalled]
  · simp [uncalled] at running

theorem InOrder.background
    (ordered : read.InOrder count)
    (background : Background count read next) :
    next.InOrder count where
  results := by
    intro index inside
    rcases background.tasks index inside with
      ⟨sameSubmission, sameResult⟩ | ⟨_, submission, moves⟩
    · rw [sameSubmission, sameResult]
      exact ordered.results index inside
    · exact ordered.results_moved inside moves index inside
  earlier := by
    intro current submitting index before inside
    rw [background.call] at submitting
    exact (background.launched inside).1
      (ordered.earlier current submitting index before inside)
  later := by
    intro current submitting index after inside
    rw [background.call] at submitting
    exact background.uncalled inside
      (ordered.later current submitting index after inside)
  launched := by
    intro current collecting index inside
    rw [background.call] at collecting
    exact (background.launched inside).1
      (ordered.launched current collecting index inside)
  collected := by
    intro current collecting index before inside
    rw [background.call] at collecting
    exact (background.launched inside).2
      (ordered.collected current collecting index before inside)

/-- After a step of a submission, it goes on, or the call is at the next one and
has launched it. -/
theorem afterSubmit_eq_submitting
    {current : Nat}
    (after : afterSubmit index submission = .submitting current) :
    current = index ∨ current = index + 1 ∧ Launched submission := by
  cases submission with
  | queued | finished =>
      cases after
      exact .inr ⟨rfl, by simp [Launched]⟩
  | threw => cases after
  | uncalled | checked | counted | unstarted | running | ran =>
      cases after
      exact .inl rfl

theorem InOrder.moved
    (ordered : read.InOrder count)
    (submitting : read.call = .submitting index)
    (more : index < count)
    (moves : TaskMoves read index submission next)
    (call : next.call = afterSubmit index submission) :
    next.InOrder count where
  results := ordered.results_moved more moves
  earlier := by
    intro current submittingNext other before inside
    have others := ordered.earlier index submitting other
    rw [moves.submits]
    rcases afterSubmit_eq_submitting (call.symm.trans submittingNext) with
      rfl | ⟨rfl, launched⟩
    · rw [Function.update_of_ne (Nat.ne_of_lt before)]
      exact others before inside
    · by_cases own : other = index
      · rwa [own, Function.update_self]
      · rw [Function.update_of_ne own]
        exact others (by omega) inside
  later := by
    intro current submittingNext other after inside
    have beyond : index < other := by
      rcases afterSubmit_eq_submitting (call.symm.trans submittingNext) with
        rfl | ⟨rfl, _⟩
      · exact after
      · omega
    rw [moves.submits, Function.update_of_ne (Nat.ne_of_gt beyond)]
    exact ordered.later index submitting other beyond inside
  launched := by
    intro current collecting
    rw [call] at collecting
    cases submission <;> cases collecting
  collected := by
    intro current collecting
    rw [call] at collecting
    cases submission <;> cases collecting

/-- Every step keeps results and submissions in order. -/
theorem InOrder.steps
    {action : ReadAction}
    (ordered : read.InOrder count)
    (steps : Steps count read action next) :
    next.InOrder count := by
  cases steps with
  | background _ _ elsewhere background => exact ordered.background background
  | submission index starts result callbackThrows submission _ submitting more
      moves call =>
      exact ordered.moved submitting more moves call
  | submitted index starts result callbackThrows submitting all =>
      refine ⟨ordered.results, nofun, nofun, ?_, ?_⟩
      · intro current _ other inside
        exact ordered.earlier index submitting other (by omega) inside
      · rintro current ⟨⟩ other before
        exact absurd before (Nat.not_lt_zero other)
  | collected index starts result collecting more succeeded =>
      refine ⟨ordered.results, nofun, nofun, ?_, ?_⟩
      · intro current _
        exact ordered.launched index collecting
      · rintro current ⟨⟩ other before inside
        by_cases own : other = index
        · subst own
          rw [← ordered.results other inside, succeeded]
          exact Option.some_ne_none _
        · exact ordered.collected index collecting other (by omega) inside
  | left | completed =>
      exact ⟨ordered.results, nofun, nofun, nofun, nofun⟩

/-! ## One step -/

/-- What stays outstanding in the background was so before. -/
theorem Background.outstanding
    (background : Background count read next)
    (inside : index < count)
    (outstanding : Outstanding (next.submits index)) :
    Outstanding (read.submits index) := by
  rcases background.tasks index inside with
    ⟨same, _⟩ | ⟨⟨_, running⟩, submission, moves⟩
  · rwa [same] at outstanding
  · have launched : Launched (read.submits index) := by
      rcases running with before | before | before <;> simp [Launched, before]
    by_contra settled
    have done := (background.launched inside).2
      (launched.not_outstanding_iff.mp settled)
    exact done.not_outstanding outstanding

/-- A submission that ends the call has found the executor stopped. -/
theorem Advances.eq_threw_iff
    {stop : Bool}
    {before : Submission}
    (advances : Advances stop before submission) :
    submission = .threw ↔ before = .uncalled ∧ stop = true := by
  cases advances <;> simp_all

theorem leavesNone_call_iff
    {starts : Bool}
    {result : TransferEnd}
    {callbackThrows : Bool} :
    read.LeavesNone count (.call starts result callbackThrows) ↔
      (read.LeavesEarly count callbackThrows → ∀ index < count,
        read.submits index = .uncalled ∨ read.results index ≠ none) := by
  constructor
  · intro leaves
    exact leaves starts result callbackThrows rfl
  · rintro leaves _ _ _ ⟨⟩
    exact leaves

/-- At a submission that throws, what is submitted and not outstanding has a
result. -/
theorem InOrder.not_outstanding_iff
    (ordered : read.InOrder count)
    {other : Nat}
    (submitted : read.submits other = .uncalled ∨ Launched (read.submits other))
    (inside : other < count) :
    ¬Outstanding (read.submits other) ↔
      read.submits other = .uncalled ∨ read.results other ≠ none := by
  rw [ordered.results other inside]
  rcases submitted with uncalled | launched
  · refine iff_of_true ?_ (.inl uncalled)
    simp [uncalled, Outstanding]
  · rw [launched.not_outstanding_iff, or_iff_right]
    intro uncalled
    simp [uncalled, Launched] at launched

/-- One step keeps the call without sub-transfers that outlive it exactly when it
does not end the call early, or finds all results. -/
theorem noneOutlives_step_iff
    {action : ReadAction}
    (ordered : read.InOrder count)
    (none_ : read.NoneOutlives count)
    (steps : Steps count read action next) :
    next.NoneOutlives count ↔ read.LeavesNone count action := by
  cases steps with
  | background _ _ elsewhere background =>
      refine iff_of_true ?_ ?_
      · intro ending ended index inside outstanding
        rw [background.call] at ended
        exact none_ ending ended index inside
          (background.outstanding inside outstanding)
      · intro starts result callbackThrows same
        exact absurd same (elsewhere starts result callbackThrows)
  | submission index starts result callbackThrows submission _ submitting more
      moves call =>
      have throws := moves.advances.eq_threw_iff
      rw [leavesNone_call_iff, LeavesEarly, submitting]
      by_cases threw : submission = .threw
      · obtain ⟨uncalled, stopped⟩ := throws.mp threw
        have ended : next.call = .over .exception := by rw [call, threw]; rfl
        rw [NoneOutlives, ended]
        simp only [more, uncalled, stopped, and_self, forall_const,
          ReadCall.over.injEq, forall_eq']
        apply forall₂_congr
        intro other inside
        rw [moves.submits]
        by_cases own : other = index
        · subst own
          rw [Function.update_self, threw]
          exact iff_of_true (by simp [Outstanding]) (.inl uncalled)
        · rw [Function.update_of_ne own]
          refine ordered.not_outstanding_iff ?_ inside
          rcases Nat.lt_or_gt_of_ne own with before | after
          · exact .inr (ordered.earlier index submitting other before inside)
          · exact .inl (ordered.later index submitting other after inside)
      · refine iff_of_true ?_ ?_
        · intro ending ended
          rw [call] at ended
          cases submission <;> cases ended
          exact absurd rfl threw
        · rintro ⟨_, uncalled, stopped⟩
          exact absurd (throws.mpr ⟨uncalled, stopped⟩) threw
  | submitted index starts result callbackThrows submitting all =>
      rw [leavesNone_call_iff, LeavesEarly, submitting]
      refine iff_of_true nofun ?_
      rintro ⟨more, _⟩
      omega
  | collected index starts result collecting more succeeded =>
      rw [leavesNone_call_iff, LeavesEarly, collecting]
      refine iff_of_true nofun ?_
      rintro ⟨_, ending, same, unsuccessful | throws⟩
      · rw [succeeded] at same
        cases same
        exact absurd rfl unsuccessful
      · cases throws
  | left index starts result callbackThrows ending collecting early =>
      rw [leavesNone_call_iff, NoneOutlives]
      simp only [early, forall_const, ReadCall.over.injEq, forall_eq']
      apply forall₂_congr
      intro other inside
      exact ordered.not_outstanding_iff
        (.inr (ordered.launched index collecting other inside)) inside
  | completed index starts result callbackThrows collecting all =>
      rw [leavesNone_call_iff, LeavesEarly, collecting]
      refine iff_of_true ?_ ?_
      · intro ending _ other inside
        have done := ordered.collected index collecting other (by omega) inside
        exact done.not_outstanding
      · rintro ⟨more, _⟩
        omega

end Steps

/-! ## The theorem -/

/-- In every run of a read of any number of sub-transfers, none of them outlives
the call exactly when the call finds all results whenever it ends early. -/
theorem noneOutlives_iff
    {count : Nat}
    {finish : ParallelRead}
    {labels : List ReadAction}
    (path : (machine count).Path Machine.always init labels finish) :
    NoneOutlivesAlong count init labels ↔
      (machine count).Path (LeavesNone count) init labels finish :=
  path.throughout_iff
    (fun _ _ _ ordered stepped => ordered.steps (steps_of_step stepped))
    (fun _ _ _ ordered none_ stepped =>
      noneOutlives_step_iff ordered none_ (steps_of_step stepped))
    (inOrder_init count) nofun

private def proceed : ReadAction := .call true .success false

/-- A submission by the call: its test, its count, and the start. -/
private def submission : List ReadAction := [proceed, proceed, proceed]

/-- Two sub-transfers are submitted; the first one fails, and so does the call
before the second one has started. -/
private def firstFails : List ReadAction :=
  submission ++ submission ++
    [proceed, .run 0 .failure, .run 0 .failure, proceed]

private theorem firstFails_isSome :
    ((machine 2).run Machine.always init firstFails).isSome = true := by
  decide

theorem noneOutlives_iff_firstFails :
    ∃ finish, NoneOutlivesAlong 2 init firstFails ↔
      (machine 2).Path (LeavesNone 2) init firstFails finish :=
  ⟨_, noneOutlives_iff
    (Machine.path_of_run (Option.some_get firstFails_isSome).symm)⟩

theorem second_outlives_first_failure :
    ¬∀ count labels finish,
      (machine count).Path Machine.always init labels finish →
        NoneOutlivesAlong count init labels := by
  intro none_
  have path := Machine.path_of_run (Option.some_get firstFails_isSome).symm
  have outlives := none_ 2 firstFails _ path firstFails _ List.prefix_rfl path
    .failure (by decide) 1 (by decide)
  apply outlives
  decide

end ParallelRead

end Gds
end Client
end TurboAccess
