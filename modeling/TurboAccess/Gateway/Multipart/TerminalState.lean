import TurboAccess.Gateway.Multipart.Claims

/-!
# Terminal states of uploads

A completion owns its upload from the section that claims it to the section
that marks it completed or rolls it back.  An abort and the sweeper write their
state without looking at the current one, so an upload can be completed and
aborted in one run.  In the runs in which no abort and no sweeper writes to an
upload that is claimed or completed, an upload has at most one outcome.
-/

namespace TurboAccess
namespace Gateway
namespace Multipart

/-- The upload the next section of a frame marks aborted. -/
def Frame.nextAbort (state : State) : Frame → Option UploadPtr
  | .abortFound upload dataPath =>
      if (state.store.objects upload).dataFlow = dataPath then some upload
      else none
  | .sweeping _ (upload :: _) => some upload
  | _ => none

/-! ## The property and its condition -/

/-- In the runs whose steps satisfy a guard, a terminal state never changes,
and no upload is both completed by a call and aborted by a call or by the
sweeper. -/
def AtMostOneOutcome
    (options : CoordinatorOptions)
    (guard : Pool State Frame → Nat × Input → Prop) : Prop :=
  ∀ pool, (machine options).Reachable guard pool →
    ∀ upload, upload < pool.shared.store.allocated →
      ((pool.shared.store.objects upload).state.Terminal →
        ∀ labels later, (machine options).Path guard pool labels later →
          (later.shared.store.objects upload).state =
            (pool.shared.store.objects upload).state) ∧
      ∀ completer aborter metadata,
        pool.threads completer = .finished (.completed upload metadata) →
          upload ∉ (pool.threads aborter).aborted

/-- No abort and no sweeper marks an upload that a completion has claimed or
has completed. -/
def AbortsUnclaimed
    (pool : Pool State Frame)
    (label : Nat × Input) : Prop :=
  ∀ upload ∈ (pool.threads label.1).nextAbort pool.shared,
    (pool.shared.store.objects upload).state ≠ .completing ∧
      (pool.shared.store.objects upload).state ≠ .completed

instance : ∀ pool label, Decidable (AbortsUnclaimed pool label) :=
  fun pool label =>
    inferInstanceAs (Decidable
      (∀ upload ∈ (pool.threads label.1).nextAbort pool.shared,
        (pool.shared.store.objects upload).state ≠ .completing ∧
          (pool.shared.store.objects upload).state ≠ .completed))

/-! ## The invariant -/

/-- The uploads a frame has claimed or aborted are in the state it has left
them in. -/
structure FrameSettled (state : State) (frame : Frame) : Prop where
  claims : ∀ upload value, frame.claims = some (upload, value) →
    (state.store.objects upload).state = value
  aborted : ∀ upload ∈ frame.aborted,
    (state.store.objects upload).state = .aborted

/-- The invariant of terminal states. -/
def PoolSettled (pool : Pool State Frame) : Prop :=
  ∀ thread, FrameSettled pool.shared (pool.threads thread)

variable
  {options : CoordinatorOptions}
  {state next : State}
  {before after : Frame}

/-! ## Preservation -/

/-- An upload the next section marks aborted. -/
private theorem nextAbort_eq_some
    (moves : Moves options state before next after)
    {upload : UploadPtr}
    {origin : AbortOrigin}
    (starts : after = .aborting upload origin .marked) :
    before.nextAbort state = some upload := by
  cases moves with
  | accept call =>
      revert starts
      fun_cases Multipart.accept state call <;> simp
  | complete mover request stage now =>
      revert starts
      fun_cases advanceCompletion options state mover request now stage <;>
        simp
  | abort mover origin stage =>
      revert starts
      fun_cases advanceAbort state mover origin stage <;>
        cases origin <;> simp
  | markAborted mover dataPath sameFlow =>
      cases starts
      simp [Frame.nextAbort, sameFlow]
  | sweepNext swept mover pending =>
      cases starts
      rfl
  | addTarget | create | refusePart | writePart | registerPart | refuseClaim
  | claim | refuseAbort | unregister | visit | endScan | endSweep
  | putIndex => cases starts

/-- A section keeps the state of an upload that another completion owns. -/
private theorem state_of_claimed
    {upload : UploadPtr}
    {value : UploadState}
    (moves : Moves options state before next after)
    (allocated : upload < state.store.allocated)
    (unclaimed : ∀ upload ∈ before.nextAbort state,
      (state.store.objects upload).state ≠ .completing ∧
        (state.store.objects upload).state ≠ .completed)
    (kept : (state.store.objects upload).state = value)
    (owned : value = .completing ∨ value = .completed)
    (exclusive : ∀ other, before.claims ≠ some (upload, other)) :
    (next.store.objects upload).state = value := by
  have change := moves.uploadChange allocated
  generalize next.store.objects upload = changed at change
  cases change with
  | unchanged | registered => exact kept
  | claimed request active =>
      rw [active] at kept
      subst kept
      simp at owned
  | rolledBack request error => exact absurd rfl (exclusive _)
  | completed request metadata => exact absurd rfl (exclusive _)
  | aborted origin marks =>
      have free := unclaimed upload (nextAbort_eq_some moves rfl)
      rw [kept] at free
      rcases owned with rfl | rfl <;> simp at free

/-- A section keeps the state of an upload that has been aborted. -/
private theorem state_of_aborted
    {upload : UploadPtr}
    (moves : Moves options state before next after)
    (allocated : upload < state.store.allocated)
    (settled : FrameSettled state before)
    (kept : (state.store.objects upload).state = .aborted) :
    (next.store.objects upload).state = .aborted := by
  have change := moves.uploadChange allocated
  generalize next.store.objects upload = changed at change
  cases change with
  | unchanged | registered => exact kept
  | claimed request active =>
      rw [active] at kept
      cases kept
  | rolledBack request error =>
      have owned := settled.claims upload .completing rfl
      rw [kept] at owned
      cases owned
  | completed request metadata =>
      have owned := settled.claims upload .completing rfl
      rw [kept] at owned
      cases owned
  | aborted => rfl

/-- A section keeps the state of the uploads of its own frame. -/
private theorem FrameSettled.own
    (settled : FrameSettled state before)
    (identified : FrameIdentified state before)
    (moves : Moves options state before next after) :
    FrameSettled next after where
  claims := by
    intro upload value owns
    rcases moves.claims_eq_some owns with owned | ⟨_, marked⟩ | ⟨_, marked⟩
    · have kept := settled.claims upload value owned
      have change := moves.uploadChange
        (identified.bound upload (Frame.mem_uploads_of_claims owned))
      generalize next.store.objects upload = changed at change
      cases change with
      | unchanged | registered => exact kept
      | claimed request active => cases owned
      | rolledBack request error => cases owns
      | completed request metadata =>
          cases owned
          cases owns
      | aborted origin marks => cases origin <;> cases owns
    · exact marked
    · exact marked
  aborted := by
    intro upload marked
    rcases moves.mem_aborted marked with known | now
    · exact state_of_aborted moves
        (identified.bound upload (Frame.mem_uploads_of_aborted known))
        settled (settled.aborted upload known)
    · exact now

/-- A section keeps the state of the uploads of all other frames. -/
private theorem FrameSettled.other
    {frame : Frame}
    (settled : FrameSettled state frame)
    (identified : FrameIdentified state frame)
    (mover : FrameSettled state before)
    (exclusive : FramesExclusive frame before)
    (unclaimed : ∀ upload ∈ before.nextAbort state,
      (state.store.objects upload).state ≠ .completing ∧
        (state.store.objects upload).state ≠ .completed)
    (moves : Moves options state before next after) :
    FrameSettled next frame where
  claims := by
    intro upload value owns
    exact state_of_claimed moves
      (identified.bound upload (Frame.mem_uploads_of_claims owns)) unclaimed
      (settled.claims upload value owns) (Frame.claims_state owns)
      (fun other => exclusive upload value other owns)
  aborted := by
    intro upload marked
    exact state_of_aborted moves
      (identified.bound upload (Frame.mem_uploads_of_aborted marked)) mover
      (settled.aborted upload marked)

/-- A state reached without an abort of a claimed upload is settled. -/
theorem PoolSettled.of_reachable
    {pool : Pool State Frame}
    (reachable : (machine options).Reachable AbortsUnclaimed pool) :
    PoolSettled pool := by
  refine reachable.induction ?_ ?_
  · rintro start ⟨capacityBytes, ttl, rfl⟩ thread
    refine ⟨?_, ?_⟩ <;> simp [Frame.claims, Frame.aborted]
  · intro pool label later reached settled allowed stepped
    have identified := PoolIdentified.of_reachable reached
    have owned := PoolOwned.of_reachable reached
    obtain ⟨shared, frame, moves, rfl⟩ := moves_of_step stepped
    apply (Function.forall_update_iff _ fun _ => FrameSettled shared).mpr
    constructor
    · exact (settled label.1).own (identified.thread label.1) moves
    · intro thread moving
      exact (settled thread).other (identified.thread thread)
        (settled label.1) (owned.pair thread label.1 moving) allowed moves

/-- A section keeps a terminal state. -/
private theorem state_of_terminal
    {upload : UploadPtr}
    (moves : Moves options state before next after)
    (allocated : upload < state.store.allocated)
    (settled : FrameSettled state before)
    (unclaimed : ∀ upload ∈ before.nextAbort state,
      (state.store.objects upload).state ≠ .completing ∧
        (state.store.objects upload).state ≠ .completed)
    (terminal : (state.store.objects upload).state.Terminal) :
    (next.store.objects upload).state =
      (state.store.objects upload).state := by
  rcases terminal with completed | aborted
  · rw [completed]
    have change := moves.uploadChange allocated
    generalize next.store.objects upload = changed at change
    cases change with
    | unchanged | registered => exact completed
    | claimed request active =>
        rw [active] at completed
        cases completed
    | rolledBack request error =>
        have owned := settled.claims upload .completing rfl
        rw [completed] at owned
        cases owned
    | completed request metadata => rfl
    | aborted origin marks =>
        have free := unclaimed upload (nextAbort_eq_some moves rfl)
        exact absurd completed free.2
  · rw [aborted]
    exact state_of_aborted moves allocated settled aborted

/-- In the runs in which no abort and no sweeper marks an upload that is
claimed or completed, every upload has at most one terminal outcome. -/
theorem atMostOneOutcome_of_abortsUnclaimed (options : CoordinatorOptions) :
    AtMostOneOutcome options AbortsUnclaimed := by
  intro pool reachable upload allocated
  refine ⟨?_, ?_⟩
  · intro terminal labels later path
    induction path with
    | nil => rfl
    | @cons start next finish label labels guarded stepped rest
        inductionHypothesis =>
        obtain ⟨shared, frame, moves, rfl⟩ := moves_of_step stepped
        have settled := PoolSettled.of_reachable reachable
        have kept := state_of_terminal moves allocated (settled label.1)
          guarded terminal
        have continued := inductionHypothesis
          (reachable.step guarded stepped)
          (Nat.lt_of_lt_of_le allocated moves.allocated_le)
          (by rw [kept]; exact terminal)
        rw [continued, kept]
  · intro completer aborter metadata completed marked
    have settled := PoolSettled.of_reachable reachable
    have whenCompleted := (settled completer).claims upload .completed
      (by rw [completed]; rfl)
    have whenAborted := (settled aborter).aborted upload marked
    rw [whenCompleted] at whenAborted
    cases whenAborted

/-- An upload of one part, and the first sections of its completion. -/
private def uploadLabels (sections : Nat) : List (Nat × Input) :=
  (0, .call (.createUpload ⟨"b", "k", none, "http", ""⟩ 0)) ::
    clockSteps 0 2 ++
  (1, .call (.uploadPart (mpuId 1 0) ⟨1, 0, [7]⟩)) :: clockSteps 1 2 ++
  (2, .call (.completeUpload
    ⟨mpuId 1 0, [⟨1, makePartEtag 1 1 0⟩], "http"⟩)) ::
    clockSteps 2 sections

/-- An abort that comes after the whole completion. -/
private def lateAbort : Option (Pool State Frame) :=
  (machine ⟨0, 0⟩).run AbortsUnclaimed ⟨State.init 10 0, fun _ => .idle⟩
    (uploadLabels 10 ++ [(3, .call (.abortUpload (mpuId 1 0) "http"))])

private theorem lateAbort_isSome : lateAbort.isSome = true := by decide

theorem atMostOneOutcome_lateAbort :
    ∃ pool, (machine ⟨0, 0⟩).Reachable AbortsUnclaimed pool ∧
      pool.threads 2 = .finished (.completed 0 (makeMeta 1 0)) ∧
      pool.threads 3 = .finished .nothingAborted ∧
      ∀ aborter, 0 ∉ (pool.threads aborter).aborted := by
  have reachable : (machine ⟨0, 0⟩).Reachable AbortsUnclaimed
      (lateAbort.get lateAbort_isSome) :=
    .of_run ⟨10, 0, rfl⟩ (Option.some_get lateAbort_isSome).symm
  have completed : (lateAbort.get lateAbort_isSome).threads 2 =
      .finished (.completed 0 (makeMeta 1 0)) := by decide
  refine ⟨_, reachable, completed, by decide, ?_⟩
  intro aborter
  exact (atMostOneOutcome_of_abortsUnclaimed ⟨0, 0⟩ _ reachable 0
    (by decide)).2 2 aborter _ completed

/-- An abort between the commit in the backend and the end of the
completion. -/
private def race : Option (Pool State Frame) :=
  (machine ⟨0, 0⟩).run Machine.always ⟨State.init 10 0, fun _ => .idle⟩
    (uploadLabels 8 ++
      (3, .call (.abortUpload (mpuId 1 0) "http")) :: clockSteps 3 5 ++
      clockSteps 2 2)

private theorem race_isSome : race.isSome = true := by decide

/-- Both calls succeed on one upload. -/
theorem completed_and_aborted :
    ¬AtMostOneOutcome ⟨0, 0⟩ Machine.always := by
  intro claimed
  have reachable : (machine ⟨0, 0⟩).Reachable Machine.always
      (race.get race_isSome) :=
    .of_run ⟨10, 0, rfl⟩ (Option.some_get race_isSome).symm
  have excluded := (claimed _ reachable 0 (by decide)).2 2 3 (makeMeta 1 0)
    (by decide)
  exact excluded (by decide)

end Multipart
end Gateway
end TurboAccess
