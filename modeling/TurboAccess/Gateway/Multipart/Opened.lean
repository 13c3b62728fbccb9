import TurboAccess.Gateway.Multipart.Identifiers

/-!
# Uploads that are being created

An upload is opened in the index and given a destination before it is in the
registry.  Until then nobody else knows its identifier, so that its index record
and its destination are there when it is registered.
-/

namespace TurboAccess
namespace Gateway
namespace Multipart

/-- What a creation has done so far. -/
def FrameOpened (state : State) : Frame → Prop
  | .started _ backendId =>
      state.backend.index.mpu.lookup backendId ≠ none ∧
        state.backend.mpuTargets.lookup backendId = none
  | .targeted params backendId =>
      state.backend.index.mpu.lookup backendId ≠ none ∧
        state.backend.mpuTargets.lookup backendId =
          some (params.bucket, params.objectKey)
  | _ => True

/-- Destinations are known under identifiers the index has issued, and every
creation has done its part. -/
structure Opened (pool : Pool State Frame) : Prop where
  issued : ∀ key, pool.shared.backend.mpuTargets.lookup key ≠ none →
    IssuedBy pool.shared.backend.index.mpuSeq key
  frames : ∀ thread, FrameOpened pool.shared (pool.threads thread)

variable
  {options : CoordinatorOptions}
  {state next : State}
  {before after : Frame}

/-- Nobody but the frame that opens an upload touches its index record. -/
private theorem record_opening
    {frame : Frame}
    {backendId : String}
    (moves : Moves options state before next after)
    (mover : FrameIdentified state before)
    (identified : FrameIdentified state frame)
    (opens : frame.opening = some backendId)
    (present : state.backend.index.mpu.lookup backendId ≠ none) :
    next.backend.index.mpu.lookup backendId ≠ none := by
  have change := moves.recordChange backendId
  generalize next.backend.index.mpu.lookup backendId = record at change
  cases change with
  | unchanged => exact present
  | opened => simp
  | taken upload request bucket object size now owns =>
      exact absurd owns (identified.openingFresh backendId opens upload
        (mover.bound upload (by simp [Frame.uploads])))
  | aborted upload origin owns =>
      exact absurd owns (identified.openingFresh backendId opens upload
        (mover.bound upload (by cases origin <;> simp [Frame.uploads])))

/-- Nobody but the frame that opens an upload touches its destination. -/
private theorem target_opening
    {frame : Frame}
    {backendId : String}
    (moves : Moves options state before next after)
    (mover : FrameIdentified state before)
    (identified : FrameIdentified state frame)
    (distinct : FramesDistinct before frame)
    (opens : frame.opening = some backendId) :
    next.backend.mpuTargets.lookup backendId =
      state.backend.mpuTargets.lookup backendId := by
  have change := moves.targetChange backendId
  generalize next.backend.mpuTargets.lookup backendId = target at change
  cases change with
  | unchanged => rfl
  | added params => exact absurd opens (distinct backendId rfl)
  | completed upload request metadata owns =>
      exact absurd owns (identified.openingFresh backendId opens upload
        (mover.bound upload (by simp [Frame.uploads])))
  | aborted upload origin owns =>
      exact absurd owns (identified.openingFresh backendId opens upload
        (mover.bound upload (by cases origin <;> simp [Frame.uploads])))

/-- What another creation has done stays done. -/
private theorem FrameOpened.other
    {frame : Frame}
    (opened : FrameOpened state frame)
    (moves : Moves options state before next after)
    (mover : FrameIdentified state before)
    (identified : FrameIdentified state frame)
    (distinct : FramesDistinct before frame) :
    FrameOpened next frame := by
  cases frame with
  | started params backendId =>
      refine ⟨record_opening moves mover identified rfl opened.1, ?_⟩
      rw [target_opening moves mover identified distinct rfl]
      exact opened.2
  | targeted params backendId =>
      refine ⟨record_opening moves mover identified rfl opened.1, ?_⟩
      rw [target_opening moves mover identified distinct rfl]
      exact opened.2
  | idle | partFound | partWritten | completeFound | completing | abortFound
  | aborting | unregistering | scanning | sweeping | storing | finished =>
      trivial

/-- What a creation has just done is done. -/
private theorem FrameOpened.own
    (opened : FrameOpened state before)
    (issued : ∀ key, state.backend.mpuTargets.lookup key ≠ none →
      IssuedBy state.backend.index.mpuSeq key)
    (moves : Moves options state before next after) :
    FrameOpened next after := by
  cases moves with
  | accept call =>
      cases call with
      | createUpload params now =>
          refine ⟨?_, ?_⟩
          · simp [Multipart.accept, MemoryIndexStore.startMultipart,
              Table.lookup_emplace_eq]
          · by_contra known
            exact (issued _ known).ne_next rfl
      | uploadPart | completeUpload | abortUpload | sweep | writeRange
      | reserve =>
          rw [Multipart.accept]
          repeat' split
          all_goals trivial
  | addTarget params backendId =>
      refine ⟨opened.1, ?_⟩
      simp only [CompositeBackend.addTarget, Table.lookup_emplace_eq, if_true]
      rw [opened.2]
      rfl
  | complete upload request stage now =>
      fun_cases advanceCompletion options state upload request now stage <;>
        trivial
  | abort upload origin stage => cases stage <;> cases origin <;> trivial
  | create | refusePart | writePart | registerPart | refuseClaim | claim
  | refuseAbort | markAborted | unregister | visit | endScan | endSweep
  | sweepNext | putIndex => trivial

/-- Creations have done their part in every reachable state. -/
theorem Opened.of_reachable
    {guard : Pool State Frame → Nat × Input → Prop}
    {pool : Pool State Frame}
    (reachable : (machine options).Reachable guard pool) :
    Opened pool := by
  refine reachable.induction ?_ ?_
  · rintro start ⟨capacityBytes, ttl, rfl⟩
    refine ⟨?_, fun _ => trivial⟩
    intro key known
    simp [State.init, CompositeBackend.init] at known
  · intro pool label later reached opened _ stepped
    have identified := PoolIdentified.of_reachable reached
    obtain ⟨shared, frame, moves, rfl⟩ := moves_of_step stepped
    refine ⟨?_, ?_⟩
    · intro key known
      refine IssuedBy.mono ?_ moves.mpuSeq_le
      have change := moves.targetChange key
      generalize shared.backend.mpuTargets.lookup key = target at change known
      generalize mover : pool.threads label.1 = before at change
      cases change with
      | unchanged => exact opened.issued key known
      | added params =>
          exact (identified.thread label.1).openingIssued key
            (by rw [mover]; rfl)
      | completed | aborted => exact absurd rfl known
    · apply (Function.forall_update_iff _ fun _ => FrameOpened shared).mpr
      constructor
      · exact (opened.frames label.1).own opened.issued moves
      · intro thread moving
        exact (opened.frames thread).other moves (identified.thread label.1)
          (identified.thread thread)
          (identified.pair label.1 thread (Ne.symm moving))

end Multipart
end Gateway
end TurboAccess
