import TurboAccess.Gateway.Multipart.Identifiers

/-!
# Orphaned stagings

A part write creates the staging of its upload when there is none, whatever has
become of the upload since the call found it.  A write that comes after the
staging of an aborted or completed upload was removed leaves bytes that no call
can reach.  In the runs in which a part write only goes to an upload that is
still in the registry or is still to be cleaned up, every staging that is left
when no call is in flight belongs to an upload in the registry.
-/

namespace TurboAccess
namespace Gateway
namespace Multipart

namespace Frame

/-- Uploads whose staging a frame will still remove for an abort. -/
def cleanups (state : State) : Frame → List UploadPtr
  | .abortFound upload dataPath =>
      if (state.store.objects upload).dataFlow = dataPath then [upload] else []
  | .aborting upload .call .marked => [upload]
  | .aborting upload (.sweeper _ pending) .marked => upload :: pending
  | .aborting _ (.sweeper _ pending) _ => pending
  | .scanning _ expired => expired
  | .sweeping _ pending => pending
  | _ => []

/-- The upload whose staging a frame has removed, on its way to removing the
upload from the registry. -/
def dropping : Frame → Option UploadPtr
  | .completing upload _ (.detached _ _ _) => some upload
  | .completing upload _ (.released _ _ _ _) => some upload
  | .completing upload _ (.installed _ _ _) => some upload
  | .completing upload _ (.taken _ _ _) => some upload
  | .completing upload _ (.indexed _) => some upload
  | .completing upload _ (.committed _) => some upload
  | .completing upload _ (.marked _) => some upload
  | .aborting _ _ .marked => none
  | .aborting upload _ _ => some upload
  | .unregistering upload => some upload
  | _ => none

/-- A frame without a call in flight. -/
def quiet : Frame → Bool
  | .idle => true
  | .finished _ => true
  | _ => false

theorem mem_uploads_of_dropping
    {frame : Frame}
    {upload : UploadPtr}
    (drops : frame.dropping = some upload) :
    upload ∈ frame.uploads := by
  cases frame with
  | completing mover request stage =>
      cases stage <;> simp_all [dropping, uploads]
  | aborting mover origin stage =>
      cases origin <;> cases stage <;> simp_all [dropping, uploads]
  | unregistering mover => simp_all [dropping, uploads]
  | idle | started | targeted | partFound | partWritten | completeFound
  | abortFound | scanning | sweeping | storing | finished =>
      simp [dropping] at drops

end Frame

/-! ## The property and its condition -/

/-- An upload is in the registry. -/
def Registered (state : State) (upload : UploadPtr) : Prop :=
  state.store.byId.lookup (state.store.objects upload).uploadId = some upload

/-- Some call is going to remove the staging of an upload, or the upload is in
the registry and no call that has removed its staging is going to take it out
of there. -/
def Reclaimable (pool : Pool State Frame) (upload : UploadPtr) : Prop :=
  (∃ thread, upload ∈ (pool.threads thread).cleanups pool.shared) ∨
    Registered pool.shared upload ∧
      ∀ thread, (pool.threads thread).dropping ≠ some upload

/-- Part writes go to uploads whose staging is reclaimable. -/
def StagesReclaimable
    (pool : Pool State Frame)
    (label : Nat × Input) : Prop :=
  ∀ upload part, pool.threads label.1 = .partFound upload part →
    Reclaimable pool upload

/-! ## The invariant -/

/-- Every staging belongs to an upload from which it is reclaimable. -/
def StagingsReclaimable (pool : Pool State Frame) : Prop :=
  ∀ key, pool.shared.backend.data.mpu.lookup key ≠ none →
    ∃ upload, upload < pool.shared.store.allocated ∧
      pool.shared.backendId upload = key ∧ Reclaimable pool upload

variable
  {options : CoordinatorOptions}
  {state next : State}
  {before after : Frame}

/-- A frame cleans up what it was going to clean up, unless it has just removed
the staging. -/
theorem Moves.mem_cleanups
    (moves : Moves options state before next after)
    {upload : UploadPtr}
    (cleans : upload ∈ before.cleanups state) :
    upload ∈ after.cleanups next ∨
      next.backend.data.mpu.lookup (state.backendId upload) = none := by
  cases moves with
  | refuseAbort mover dataPath error differ =>
      simp [Frame.cleanups, differ] at cleans
  | markAborted mover dataPath sameFlow =>
      left
      simpa [Frame.cleanups, sameFlow] using cleans
  | abort mover origin stage =>
      cases stage with
      | marked =>
          cases origin with
          | call =>
              simp only [Frame.cleanups, List.mem_singleton] at cleans
              subst cleans
              right
              simp [advanceAbort]
          | sweeper swept pending =>
              simp only [Frame.cleanups, List.mem_cons] at cleans
              rcases cleans with rfl | waits
              · right
                simp [advanceAbort]
              · exact .inl waits
      | dataAborted | indexAborted =>
          cases origin <;> simp_all [Frame.cleanups, advanceAbort]
  | visit now expired uploadId =>
      left
      exact List.mem_append_left _ cleans
  | endScan => exact .inl cleans
  | sweepNext => exact .inl cleans
  | accept | addTarget | create | refusePart | writePart | registerPart
  | refuseClaim | claim | complete | unregister | endSweep | putIndex =>
      simp [Frame.cleanups] at cleans

/-- A frame is dropping the upload it was dropping, or has just removed a
staging. -/
theorem Moves.dropping_eq_some
    (moves : Moves options state before next after)
    {upload : UploadPtr}
    (drops : after.dropping = some upload) :
    before.dropping = some upload ∨
      next.backend.data.mpu.lookup (state.backendId upload) = none := by
  cases moves with
  | accept call =>
      revert drops
      fun_cases Multipart.accept state call <;> simp [Frame.dropping]
  | complete mover request stage now =>
      obtain ⟨next, after, result, completes⟩ :=
        exists_completes options state mover request now stage
      rw [result] at drops ⊢
      cases completes with
      | detach bucket object staging found =>
          cases drops
          exact .inr (Finmap.lookup_erase _ _)
      | release | install | take | putIndex | eraseTarget | setCompleted =>
          exact .inl drops
      | invalid | untargeted | target | unstaged | missing | refuse
      | unrecorded | unregister | rollBack => simp [Frame.dropping] at drops
  | abort mover origin stage =>
      cases stage with
      | marked =>
          simp only [advanceAbort, Frame.dropping, Option.some.injEq] at drops
          subst drops
          right
          simp [advanceAbort]
      | dataAborted => exact .inl drops
      | indexAborted =>
          left
          cases origin <;> simp_all [advanceAbort, Frame.dropping]
  | addTarget | create | refusePart | writePart | registerPart | refuseClaim
  | claim | refuseAbort | markAborted | unregister | visit | endScan
  | endSweep | sweepNext | putIndex => simp [Frame.dropping] at drops

/-- An upload leaves the registry through a call that drops it, or through a
sweeper that is going to clean it up. -/
theorem Moves.registered
    (moves : Moves options state before next after)
    {upload : UploadPtr}
    (identified : Identified state)
    (drops : ∀ upload ∈ before.dropping, upload < state.store.allocated)
    (registered : Registered state upload) :
    Registered next upload ∨ before.dropping = some upload ∨
      upload ∈ after.cleanups next := by
  obtain ⟨allocated, _⟩ := identified.registered _ _ registered
  unfold Registered at registered ⊢
  rw [(moves.identity allocated).1]
  have change := moves.registryChange (state.store.objects upload).uploadId
  generalize next.store.byId.lookup (state.store.objects upload).uploadId =
    entry at change
  cases change with
  | unchanged => exact .inl registered
  | created params backendId now fresh =>
      exact absurd fresh (identified.uploadIssued upload allocated).ne_next
  | completed mover request metadata owns =>
      right; left
      have same := identified.uploadInjective mover upload
        (drops mover rfl) allocated owns
      rw [same]
      rfl
  | aborted mover owns =>
      right; left
      have same := identified.uploadInjective mover upload
        (drops mover rfl) allocated owns
      rw [same]
      rfl
  | expired now expired swept found =>
      right; right
      rw [registered] at found
      cases found
      simp [Frame.cleanups]

/-! ## Preservation -/

/-- What a frame cleans up depends on uploads that exist only. -/
private theorem cleanups_congr
    {frame : Frame}
    (identified : FrameIdentified state frame)
    (moves : Moves options state before next after) :
    frame.cleanups next = frame.cleanups state := by
  cases frame with
  | abortFound upload dataPath =>
      have allocated := identified.bound upload (by simp [Frame.uploads])
      simp only [Frame.cleanups, (moves.identity allocated).2.2]
  | aborting upload origin stage => cases origin <;> cases stage <;> rfl
  | idle | started | targeted | partFound | partWritten | completeFound
  | completing | unregistering | scanning | sweeping | storing
  | finished => rfl

/-- A staging that a step has left in place stays reclaimable. -/
private theorem Reclaimable.step
    {pool : Pool State Frame}
    {mover : Nat}
    {upload : UploadPtr}
    (identified : PoolIdentified pool)
    (reclaimable : Reclaimable pool upload)
    (moves : Moves options pool.shared (pool.threads mover) next after)
    (present : next.backend.data.mpu.lookup (pool.shared.backendId upload) ≠
      none) :
    Reclaimable ⟨next, Function.update pool.threads mover after⟩ upload := by
  rcases reclaimable with ⟨thread, cleans⟩ | ⟨registered, noneDrops⟩
  · left
    by_cases moving : thread = mover
    · subst moving
      rcases moves.mem_cleanups cleans with still | removed
      · exact ⟨thread, by simpa using still⟩
      · exact absurd removed present
    · refine ⟨thread, ?_⟩
      simpa [Function.update_of_ne moving,
        cleanups_congr (identified.thread thread) moves] using cleans
  · have bound : ∀ other ∈ (pool.threads mover).dropping,
        other < pool.shared.store.allocated := by
      intro other drops
      exact (identified.thread mover).bound other
        (Frame.mem_uploads_of_dropping drops)
    rcases moves.registered identified.shared bound registered with
      still | drops | cleans
    · right
      refine ⟨still, ?_⟩
      intro thread
      by_cases moving : thread = mover
      · subst moving
        simp only [Function.update_self]
        intro drops
        rcases moves.dropping_eq_some drops with dropped | removed
        · exact noneDrops thread dropped
        · exact present removed
      · simpa [Function.update_of_ne moving] using noneDrops thread
    · exact absurd drops (noneDrops mover)
    · exact .inl ⟨mover, by simpa using cleans⟩

/-- Every staging is reclaimable in the runs whose part writes go to uploads
whose staging is. -/
theorem StagingsReclaimable.of_reachable
    {pool : Pool State Frame}
    (reachable : (machine options).Reachable StagesReclaimable pool) :
    StagingsReclaimable pool := by
  refine reachable.induction ?_ ?_
  · rintro start ⟨capacityBytes, ttl, rfl⟩ key present
    simp [State.init, CompositeBackend.init, MemoryDataStore.init] at present
  · intro pool label later reached holds allowed stepped key present
    have identified := PoolIdentified.of_reachable reached
    obtain ⟨shared, frame, moves, rfl⟩ := moves_of_step stepped
    have anchored : ∃ upload, upload < pool.shared.store.allocated ∧
        pool.shared.backendId upload = key ∧ Reclaimable pool upload := by
      have change := moves.stagingChange key
      generalize shared.backend.data.mpu.lookup key = staging at change present
      generalize mover : pool.threads label.1 = before at change
      have bound := (identified.thread label.1).bound
      cases change with
      | unchanged => exact holds key present
      | written upload part now reply owns succeeded =>
          exact ⟨upload, bound upload (by simp [mover, Frame.uploads]), owns,
            allowed upload part mover⟩
      | refused upload part error owns failed =>
          exact ⟨upload, bound upload (by simp [mover, Frame.uploads]), owns,
            allowed upload part mover⟩
      | detached | aborted => exact absurd rfl present
    obtain ⟨upload, allocated, rfl, reclaimable⟩ := anchored
    exact ⟨upload, Nat.lt_of_lt_of_le allocated moves.allocated_le,
      (moves.identity allocated).2.1,
      reclaimable.step identified moves present⟩

/-- The condition on part writes, looking at four threads only. -/
private def stagesReclaimableBelow
    (pool : Pool State Frame)
    (label : Nat × Input) : Bool :=
  match pool.threads label.1 with
  | .partFound upload _ =>
      decide (pool.shared.store.find
          (pool.shared.store.objects upload).uploadId = some upload) &&
        decide (∀ thread : Nat, thread < 4 →
          (pool.threads thread).dropping ≠ some upload)
  | _ => true

/-- A part of an upload that stays open. -/
private def stagedLabels : List (Nat × Input) :=
  (0, .call (.createUpload ⟨"b", "k", none, "http", ""⟩ 0)) ::
    clockSteps 0 2 ++
  (1, .call (.uploadPart (mpuId 1 0) ⟨1, 0, [7]⟩)) :: clockSteps 1 2

private def staged : Option (Pool State Frame) :=
  (machine ⟨0, 0⟩).run (fun pool label => stagesReclaimableBelow pool label)
    ⟨State.init 10 0, fun _ => .idle⟩ stagedLabels

end Multipart
end Gateway
end TurboAccess
