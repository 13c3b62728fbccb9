import TurboAccess.Gateway.Multipart.Claims

/-!
# An upload commits at most once

A completion that has returned success still owns its upload: nothing makes a
completed upload active again, whatever aborts and sweepers write to it.  Two
completions never own one upload, and an identifier names one upload for ever,
so that no two calls commit under one identifier.
-/

namespace TurboAccess
namespace Gateway
namespace Multipart

/-- The calls that one thread has made in a run. -/
def callsOf (thread : Nat) (labels : List (Nat × Input)) : List Call :=
  labels.filterMap fun label =>
    match label with
    | (mover, .call call) => if mover = thread then some call else none
    | _ => none

/-- A thread has answered a completion of an upload with success. -/
def CompletedBy
    (labels : List (Nat × Input))
    (pool : Pool State Frame)
    (uploadId : String)
    (thread : Nat) : Prop :=
  ∃ request upload metadata,
    Call.completeUpload request ∈ callsOf thread labels ∧
      request.uploadId = uploadId ∧
      pool.threads thread = .finished (.completed upload metadata)

/-- The frame of a completion of an upload: it names that upload as long as it
has not failed. -/
def Frame.Completes (state : State) (uploadId : String) : Frame → Prop
  | .completeFound upload _ => (state.store.objects upload).uploadId = uploadId
  | .completing upload _ _ => (state.store.objects upload).uploadId = uploadId
  | .finished (.completed upload _) =>
      (state.store.objects upload).uploadId = uploadId
  | .finished _ => True
  | _ => False

variable
  {options : CoordinatorOptions}
  {state next : State}
  {before after : Frame}
  {guard : Pool State Frame → Nat × Input → Prop}
  {start pool finish : Pool State Frame}
  {labels : List (Nat × Input)}

/-! ## One call a thread -/

/-- A section starts a call or continues one; no frame becomes idle. -/
theorem Moves.ne_idle (moves : Moves options state before next after) :
    after ≠ .idle := by
  cases moves with
  | accept call =>
      fun_cases Multipart.accept state call <;> simp
  | complete upload request stage now =>
      fun_cases advanceCompletion options state upload request now stage <;>
        simp
  | abort upload origin stage =>
      fun_cases advanceAbort state upload origin stage <;>
        cases origin <;> simp
  | addTarget | create | refusePart | writePart | registerPart | refuseClaim
  | claim | refuseAbort | markAborted | unregister | visit | endScan
  | endSweep | sweepNext | putIndex => simp

/-- A thread that is busy takes no call. -/
theorem advance_call
    {call : Call}
    (moved : advance options state before (.call call) = some (next, after)) :
    before = .idle ∧ accept state call = (next, after) := by
  cases before with
  | idle => exact ⟨rfl, Option.some.inj moved⟩
  | started | targeted | partFound | partWritten | completeFound | completing
  | abortFound | aborting | unregistering | scanning | storing | finished =>
      cases moved
  | sweeping swept pending => cases pending <;> cases moved

/-- A thread that is busy takes no call in a whole run. -/
theorem callsOf_eq_nil
    (path : (machine options).Path guard start labels finish)
    {thread : Nat}
    (busy : start.threads thread ≠ .idle) :
    callsOf thread labels = [] := by
  induction path with
  | nil => rfl
  | @cons start next finish label labels _ stepped _ inductionHypothesis =>
      obtain ⟨mover, input⟩ := label
      obtain ⟨shared, frame, moved, rfl⟩ := Pool.step_eq_some stepped
      have rest : callsOf thread labels = [] := by
        apply inductionHypothesis
        by_cases moving : thread = mover
        · subst moving
          simpa using (moves_of_advance moved).ne_idle
        · simpa [Function.update_of_ne moving] using busy
      cases input with
      | call call =>
          have idle := (advance_call moved).1
          have different : mover ≠ thread := by
            rintro rfl
            exact busy idle
          simpa [callsOf, different] using rest
      | clock | visit => simpa [callsOf] using rest

/-- The run up to a thread's call, the call, and the run after it. -/
theorem path_around_call
    (path : (machine options).Path guard start labels finish)
    {thread : Nat}
    {call : Call}
    (called : call ∈ callsOf thread labels) :
    ∃ first second middle after,
      labels = first ++ (thread, .call call) :: second ∧
        (machine options).Path guard start first middle ∧
        guard middle (thread, .call call) ∧
        (machine options).step middle (thread, .call call) = some after ∧
        (machine options).Path guard after second finish := by
  obtain ⟨⟨mover, input⟩, member, same⟩ := List.mem_filterMap.mp called
  cases input with
  | call other =>
      simp only [Option.ite_none_right_eq_some, Option.some.injEq] at same
      obtain ⟨rfl, rfl⟩ := same
      obtain ⟨first, second, rfl⟩ := List.append_of_mem member
      obtain ⟨middle, left, right⟩ := path.split
      cases right with
      | @cons _ after _ _ _ allowed stepped rest =>
          exact ⟨first, second, middle, after, rfl, left, allowed, stepped,
            rest⟩
  | clock | visit => cases same

/-- A thread that starts idle makes at most one call in a run. -/
theorem callsOf_length_le
    (path : (machine options).Path guard start labels finish)
    (thread : Nat) :
    (callsOf thread labels).length ≤ 1 := by
  induction path with
  | nil => exact Nat.zero_le 1
  | @cons start next finish label labels _ stepped rest inductionHypothesis =>
      obtain ⟨mover, input⟩ := label
      obtain ⟨shared, frame, moved, rfl⟩ := Pool.step_eq_some stepped
      cases input with
      | call call =>
          by_cases own : mover = thread
          · subst own
            have nothing : callsOf mover labels = [] := by
              apply callsOf_eq_nil rest
              simpa using (moves_of_advance moved).ne_idle
            have one : callsOf mover ((mover, .call call) :: labels) =
                call :: callsOf mover labels := by
              simp [callsOf]
            rw [one, nothing]
            exact Nat.le_refl 1
          · simpa [callsOf, own] using inductionHypothesis
      | clock | visit => simpa [callsOf] using inductionHypothesis

/-! ## A completion keeps to its upload -/

/-- A completion names the upload of its request. -/
theorem completes_accept
    (identified : Identified state)
    (request : CompleteRequest) :
    (accept state (.completeUpload request)).2.Completes
      (accept state (.completeUpload request)).1 request.uploadId := by
  rw [accept, MultipartStore.find]
  split
  · trivial
  · cases found : state.store.byId.lookup request.uploadId with
    | none => trivial
    | some upload =>
        exact (identified.registered request.uploadId upload found).2

/-- The uploads a frame refers to keep their identifiers. -/
theorem Moves.uploadId_of_mem
    {frame : Frame}
    (moves : Moves options state before next after)
    (identified : FrameIdentified state frame) :
    ∀ upload ∈ frame.uploads,
      (next.store.objects upload).uploadId =
        (state.store.objects upload).uploadId := by
  intro upload mentioned
  exact (moves.identity (identified.bound upload mentioned)).1

/-- A section of a completion keeps to the upload. -/
theorem Moves.completes
    {uploadId : String}
    (moves : Moves options state before next after)
    (frame : FrameIdentified state before)
    (completes : before.Completes state uploadId) :
    after.Completes next uploadId := by
  have kept := moves.uploadId_of_mem frame
  cases moves with
  | claim upload request active =>
      exact (kept upload (by simp [Frame.uploads])).trans completes
  | refuseClaim => trivial
  | complete upload request stage now =>
      have named := (kept upload (by simp [Frame.uploads])).trans completes
      revert named
      fun_cases advanceCompletion options state upload request now stage <;>
        simp [Frame.Completes]
  | accept | addTarget | create | refusePart | writePart | registerPart
  | refuseAbort | markAborted | abort | unregister | visit | endScan
  | endSweep | sweepNext | putIndex => exact completes.elim

/-- A section of another thread keeps the identifier of the upload. -/
theorem Frame.Completes.other
    {frame : Frame}
    {uploadId : String}
    (completes : frame.Completes state uploadId)
    (identified : FrameIdentified state frame)
    (moves : Moves options state before next after) :
    frame.Completes next uploadId := by
  have kept := moves.uploadId_of_mem identified
  cases frame with
  | completeFound upload request =>
      exact (kept upload (by simp [Frame.uploads])).trans completes
  | completing upload request stage =>
      exact (kept upload (by simp [Frame.uploads])).trans completes
  | finished outcome =>
      cases outcome with
      | completed upload metadata =>
          exact (kept upload (by simp [Frame.uploads])).trans completes
      | created | partUploaded | aborted | nothingAborted | swept | stored
      | failed => trivial
  | idle | started | targeted | partFound | partWritten | abortFound
  | aborting | unregistering | scanning | sweeping | storing =>
      exact completes.elim

/-- A completion keeps to its upload in a whole run. -/
theorem completes_of_path
    (reachable : (machine options).Reachable guard start)
    (path : (machine options).Path guard start labels finish)
    {thread : Nat}
    {uploadId : String}
    (completes : (start.threads thread).Completes start.shared uploadId) :
    (finish.threads thread).Completes finish.shared uploadId := by
  induction path with
  | nil => exact completes
  | @cons start next finish label labels allowed stepped _
      inductionHypothesis =>
      have identified := PoolIdentified.of_reachable reachable
      apply inductionHypothesis (reachable.step allowed stepped)
      obtain ⟨shared, frame, moves, rfl⟩ := moves_of_step stepped
      by_cases moving : thread = label.1
      · subst moving
        simpa using moves.completes (identified.thread label.1) completes
      · simpa [Function.update_of_ne moving] using
          completes.other (identified.thread thread) moves

/-- A completion that has returned success has completed the upload that its
request names. -/
theorem completed_uploadId
    (initial : (machine options).initial start)
    (path : (machine options).Path guard start labels finish)
    {thread : Nat}
    {request : CompleteRequest}
    {upload : UploadPtr}
    {metadata : ObjectMetadata}
    (called : Call.completeUpload request ∈ callsOf thread labels)
    (completed : finish.threads thread =
      .finished (.completed upload metadata)) :
    (finish.shared.store.objects upload).uploadId = request.uploadId := by
  obtain ⟨first, second, middle, after, rfl, left, allowed, stepped, right⟩ :=
    path_around_call path called
  have reached : (machine options).Reachable guard middle :=
    ⟨start, first, initial, left⟩
  have identified := (PoolIdentified.of_reachable reached).shared
  have begins : (after.threads thread).Completes after.shared
      request.uploadId := by
    obtain ⟨shared, frame, moved, rfl⟩ := Pool.step_eq_some stepped
    have accepted := completes_accept identified request
    rw [(advance_call moved).2] at accepted
    simpa using accepted
  have ends := completes_of_path (reached.step allowed stepped) right begins
  rw [completed] at ends
  exact ends

/-! ## The theorem -/

/-- Whatever creations, part uploads, completions, aborts and sweeper passes do
in between, at most one completion of an upload identifier returns success.
A thread makes one call, so that the threads count the calls. -/
theorem commits_at_most_once
    (initial : (machine options).initial start)
    (path : (machine options).Path Machine.always start labels finish)
    (uploadId : String) :
    Set.Subsingleton {thread | CompletedBy labels finish uploadId thread} ∧
      ∀ thread, (callsOf thread labels).length ≤ 1 := by
  refine ⟨?_, callsOf_length_le path⟩
  rintro first ⟨request, upload, metadata, called, names, completed⟩
    second ⟨request', upload', metadata', called', names', completed'⟩
  have reachable : (machine options).Reachable Machine.always finish :=
    ⟨start, labels, initial, path⟩
  have identified := PoolIdentified.of_reachable reachable
  have owned := PoolOwned.of_reachable reachable
  have bound := (identified.thread first).bound upload
    (by simp [completed, Frame.uploads])
  have bound' := (identified.thread second).bound upload'
    (by simp [completed', Frame.uploads])
  have sameId : (finish.shared.store.objects upload).uploadId =
      (finish.shared.store.objects upload').uploadId := by
    rw [completed_uploadId initial path called completed, names,
      completed_uploadId initial path called' completed', names']
  have sameUpload := identified.shared.uploadInjective upload upload' bound
    bound' sameId
  subst sameUpload
  -- Both calls still own the upload, which two distinct threads cannot.
  by_contra distinct
  exact owned.pair first second distinct upload .completed .completed
    (by rw [completed]; rfl) (by rw [completed']; rfl)

/-- Two completions of an upload of one part, one after the other. -/
private def twoCompletions : List (Nat × Input) :=
  (0, .call (.createUpload ⟨"b", "k", none, "http", ""⟩ 0)) ::
    clockSteps 0 2 ++
  (1, .call (.uploadPart (mpuId 1 0) ⟨1, 0, [7]⟩)) :: clockSteps 1 2 ++
  (2, .call (.completeUpload
    ⟨mpuId 1 0, [⟨1, makePartEtag 1 1 0⟩], "http"⟩)) ::
  (3, .call (.completeUpload
    ⟨mpuId 1 0, [⟨1, makePartEtag 1 1 0⟩], "http"⟩)) ::
    clockSteps 2 10 ++ clockSteps 3 1

theorem commits_at_most_once_twoCompletions :
    ∃ finish,
      (machine ⟨0, 0⟩).Path Machine.always
          ⟨State.init 10 0, fun _ => .idle⟩ twoCompletions finish ∧
        CompletedBy twoCompletions finish (mpuId 1 0) 2 ∧
        ¬CompletedBy twoCompletions finish (mpuId 1 0) 3 := by
  have executed : ((machine ⟨0, 0⟩).run Machine.always
      ⟨State.init 10 0, fun _ => .idle⟩ twoCompletions).map
        (fun pool => pool.threads 2) =
      some (.finished (.completed 0 (makeMeta 1 0))) := by
    decide
  obtain ⟨finish, ended, completed⟩ := Option.map_eq_some_iff.mp executed
  have path := Machine.path_of_run ended
  have once := (commits_at_most_once ⟨10, 0, rfl⟩ path (mpuId 1 0)).1
  have first : CompletedBy twoCompletions finish (mpuId 1 0) 2 :=
    ⟨⟨mpuId 1 0, [⟨1, makePartEtag 1 1 0⟩], "http"⟩, 0, makeMeta 1 0,
      by decide, rfl, completed⟩
  refine ⟨finish, path, first, ?_⟩
  intro second
  exact absurd (once first second) (by decide)

end Multipart
end Gateway
end TurboAccess
