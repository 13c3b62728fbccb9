import TurboAccess.Gateway.Multipart.CommitOnce

/-!
# A completion that is sent again

The channel of the client sends a request again when the reply is lost.  A
completion that has returned success has dropped its upload from the registry,
and identifiers are never used twice: whatever happens in between, the second
completion does not find the upload.  It fails at once, and the client is told
that an upload does not exist whose object is in place.
-/

namespace TurboAccess
namespace Gateway
namespace Multipart

/-- The objects of two states of the gateway are the same. -/
def SameObjects (before after : State) : Prop :=
  after.backend.data.bodies = before.backend.data.bodies ∧
    after.backend.index.entries = before.backend.index.entries

/-- A thread that completes an upload again, and runs until it has an answer,
answers as the first completion did, and leaves all objects alone. -/
def RepliesAgain
    (options : CoordinatorOptions)
    (pool : Pool State Frame)
    (retry : Nat)
    (request : CompleteRequest)
    (metadata : ObjectMetadata) : Prop :=
  ∀ labels later outcome,
    (∀ label ∈ labels, label.1 = retry) →
      (machine options).Path Machine.always pool
          ((retry, .call (.completeUpload request)) :: labels) later →
        later.threads retry = .finished outcome →
          (∃ upload repeated, outcome = .completed upload repeated ∧
            repeated.contentLength = metadata.contentLength ∧
            repeated.etag = metadata.etag) ∧
          SameObjects pool.shared later.shared

variable
  {options : CoordinatorOptions}
  {state next : State}
  {before after : Frame}
  {guard : Pool State Frame → Nat × Input → Prop}
  {start pool : Pool State Frame}
  {labels : List (Nat × Input)}

/-- The upload of a completion that has returned success is not registered. -/
def Frame.Unregistered (state : State) : Frame → Prop
  | .finished (.completed upload _) =>
      state.store.byId.lookup (state.store.objects upload).uploadId = none
  | _ => True

/-- An identifier that was dropped from the registry does not come back. -/
theorem Identified.lookup_stays_none
    (identified : Identified state)
    (moves : Moves options state before next after)
    {upload : UploadPtr}
    (allocated : upload < state.store.allocated)
    (dropped : state.store.byId.lookup (state.store.objects upload).uploadId =
      none) :
    next.store.byId.lookup (next.store.objects upload).uploadId = none := by
  rw [(moves.identity allocated).1]
  have change := moves.registryChange (state.store.objects upload).uploadId
  generalize next.store.byId.lookup (state.store.objects upload).uploadId =
    entry at change ⊢
  cases change with
  | unchanged => exact dropped
  | created params backendId now fresh =>
      exact absurd fresh (identified.uploadIssued upload allocated).ne_next
  | completed | aborted | expired => rfl

/-- A completion drops its upload before it returns success. -/
theorem Moves.unregistered (moves : Moves options state before next after) :
    after.Unregistered next := by
  cases moves with
  | accept call =>
      fun_cases Multipart.accept state call <;> exact trivial
  | complete upload request stage now =>
      fun_cases advanceCompletion options state upload request now stage <;>
        simp [Frame.Unregistered, MultipartStore.erase]
  | abort upload origin stage =>
      fun_cases advanceAbort state upload origin stage <;>
        cases origin <;> exact trivial
  | create params backendId now outcome created =>
      rw [created]
      exact trivial
  | putIndex bucket key size now outcome stored =>
      rw [stored]
      exact trivial
  | addTarget | refusePart | writePart | registerPart | refuseClaim
  | claim | refuseAbort | markAborted | unregister | visit | endScan
  | endSweep | sweepNext => exact trivial

/-- A section of another thread does not register the upload again. -/
theorem Frame.Unregistered.other
    {frame : Frame}
    (unregistered : frame.Unregistered state)
    (shared : Identified state)
    (identified : FrameIdentified state frame)
    (moves : Moves options state before next after) :
    frame.Unregistered next := by
  cases frame with
  | finished outcome =>
      cases outcome with
      | completed upload metadata =>
          exact shared.lookup_stays_none moves
            (identified.bound upload (by simp [Frame.uploads])) unregistered
      | created | partUploaded | aborted | nothingAborted | swept | stored
      | failed => trivial
  | idle | started | targeted | partFound | partWritten | completeFound
  | completing | abortFound | aborting | unregistering | scanning | sweeping
  | storing => trivial

/-- The uploads of all successful completions are not registered. -/
theorem unregistered_of_reachable
    (reachable : (machine options).Reachable guard pool)
    (thread : Nat) :
    (pool.threads thread).Unregistered pool.shared := by
  let property : Pool State Frame → Prop := fun pool =>
    ∀ thread, (pool.threads thread).Unregistered pool.shared
  have holds : property pool := by
    refine reachable.induction ?_ ?_
    · rintro _ ⟨capacityBytes, ttl, rfl⟩ thread
      exact trivial
    · intro before label later reached holds _ stepped
      have identified := PoolIdentified.of_reachable reached
      obtain ⟨shared, frame, moves, rfl⟩ := moves_of_step stepped
      apply (Function.forall_update_iff _ fun _ (frame : Frame) =>
        frame.Unregistered shared).mpr
      constructor
      · exact moves.unregistered
      · intro other _
        exact (holds other).other identified.shared (identified.thread other)
          moves
  exact holds thread

/-- A completion that is sent again after a success does not find its upload. -/
theorem find_eq_none_of_completed
    (initial : (machine options).initial start)
    (path : (machine options).Path guard start labels pool)
    {first : Nat}
    {request : CompleteRequest}
    {upload : UploadPtr}
    {metadata : ObjectMetadata}
    (called : Call.completeUpload request ∈ callsOf first labels)
    (completed : pool.threads first =
      .finished (.completed upload metadata)) :
    pool.shared.store.find request.uploadId = none := by
  have unregistered := unregistered_of_reachable ⟨start, labels, initial, path⟩
    first
  rw [completed, Frame.Unregistered,
    completed_uploadId initial path called completed] at unregistered
  exact unregistered

/-- A completion of an upload that is not found fails in its first section. -/
theorem accept_of_find_none
    {request : CompleteRequest}
    (missing : state.store.find request.uploadId = none) :
    ∃ error, accept state (.completeUpload request) =
      (state, .finished (.failed error)) := by
  rw [accept]
  split
  · exact ⟨_, rfl⟩
  · rw [missing]
    exact ⟨_, rfl⟩

/-- A completion that is sent again fails, and the gateway is left as it was. -/
theorem retry_fails
    (initial : (machine options).initial start)
    (path : (machine options).Path guard start labels pool)
    {first retry : Nat}
    {request : CompleteRequest}
    {upload : UploadPtr}
    {metadata : ObjectMetadata}
    (called : Call.completeUpload request ∈ callsOf first labels)
    (completed : pool.threads first =
      .finished (.completed upload metadata))
    (idle : pool.threads retry = .idle) :
    ∃ error, (machine options).step pool
        (retry, .call (.completeUpload request)) =
      some ⟨pool.shared, Function.update pool.threads retry
        (.finished (.failed error))⟩ := by
  obtain ⟨error, accepted⟩ := accept_of_find_none
    (find_eq_none_of_completed initial path called completed)
  refine ⟨error, ?_⟩
  simp only [machine, Pool.step, idle, advance, accepted, Option.map_some]

/-- A completion that fails has not answered as the first one did. -/
theorem not_repliesAgain_of_fails
    {retry : Nat}
    {request : CompleteRequest}
    {metadata : ObjectMetadata}
    {error : Error}
    (fails : (machine options).step pool
        (retry, .call (.completeUpload request)) =
      some ⟨pool.shared, Function.update pool.threads retry
        (.finished (.failed error))⟩) :
    ¬RepliesAgain options pool retry request metadata := by
  intro again
  obtain ⟨⟨upload, repeated, succeeds, _⟩, _⟩ := again [] _ (.failed error)
    nofun (.cons trivial fails .nil) (by simp)
  cases succeeds

/-- Whatever has happened since a completion returned success, the same
completion fails when it is sent again, and the gateway is left as it was. -/
theorem not_repliesAgain
    (initial : (machine options).initial start)
    (path : (machine options).Path Machine.always start labels pool)
    {first retry : Nat}
    {request : CompleteRequest}
    {upload : UploadPtr}
    {metadata : ObjectMetadata}
    (called : Call.completeUpload request ∈ callsOf first labels)
    (completed : pool.threads first =
      .finished (.completed upload metadata))
    (idle : pool.threads retry = .idle) :
    (∃ error, (machine options).step pool
        (retry, .call (.completeUpload request)) =
      some ⟨pool.shared, Function.update pool.threads retry
        (.finished (.failed error))⟩) ∧
      ¬RepliesAgain options pool retry request metadata := by
  obtain ⟨error, fails⟩ := retry_fails initial path called completed idle
  exact ⟨⟨error, fails⟩, not_repliesAgain_of_fails fails⟩

private def partRequest : CompleteRequest :=
  ⟨mpuId 1 0, [⟨1, makePartEtag 1 1 0⟩], "http"⟩

/-- An upload of one part is completed. -/
private def completedUpload : List (Nat × Input) :=
  (0, .call (.createUpload ⟨"b", "k", none, "http", ""⟩ 0)) ::
    clockSteps 0 2 ++
  (1, .call (.uploadPart (mpuId 1 0) ⟨1, 0, [7]⟩)) :: clockSteps 1 2 ++
  (2, .call (.completeUpload partRequest)) :: clockSteps 2 10

private theorem completedUpload_ends :
    ∃ pool, (machine ⟨0, 0⟩).Path Machine.always
        ⟨State.init 10 0, fun _ => .idle⟩ completedUpload pool ∧
      pool.threads 2 = .finished (.completed 0 (makeMeta 1 0)) ∧
      pool.threads 3 = .idle := by
  have executed : ((machine ⟨0, 0⟩).run Machine.always
      ⟨State.init 10 0, fun _ => .idle⟩ completedUpload).map
        (fun pool => (pool.threads 2, pool.threads 3)) =
      some (.finished (.completed 0 (makeMeta 1 0)), .idle) := by
    decide
  obtain ⟨pool, ended, observed⟩ := Option.map_eq_some_iff.mp executed
  obtain ⟨completed, idle⟩ := Prod.mk.inj observed
  exact ⟨pool, Machine.path_of_run ended, completed, idle⟩

private theorem initial_small :
    (machine ⟨0, 0⟩).initial ⟨State.init 10 0, fun _ => .idle⟩ := ⟨10, 0, rfl⟩

theorem not_repliesAgain_one_part :
    ∃ pool, pool.threads 2 = .finished (.completed 0 (makeMeta 1 0)) ∧
      ¬RepliesAgain ⟨0, 0⟩ pool 3 partRequest (makeMeta 1 0) := by
  obtain ⟨pool, path, completed, idle⟩ := completedUpload_ends
  exact ⟨pool, completed, (not_repliesAgain initial_small path
    (show _ ∈ callsOf 2 completedUpload by decide) completed idle).2⟩

/-- The completion of an upload of one part fails when it is sent again. -/
theorem completion_fails_again :
    ¬∀ (options : CoordinatorOptions) (start pool : Pool State Frame)
      (labels : List (Nat × Input)) (first retry : Nat)
      (request : CompleteRequest) (upload : UploadPtr)
      (metadata : ObjectMetadata),
      (machine options).initial start →
        (machine options).Path Machine.always start labels pool →
          Call.completeUpload request ∈ callsOf first labels →
            pool.threads first = .finished (.completed upload metadata) →
              pool.threads retry = .idle →
                RepliesAgain options pool retry request metadata := by
  intro always
  obtain ⟨pool, path, completed, idle⟩ := completedUpload_ends
  have called : Call.completeUpload partRequest ∈
      callsOf 2 completedUpload := by
    decide
  obtain ⟨error, fails⟩ := retry_fails initial_small path called completed idle
  exact not_repliesAgain_of_fails fails (always _ _ pool _ 2 3 _ _ _
    initial_small path called completed idle)

end Multipart
end Gateway
end TurboAccess
