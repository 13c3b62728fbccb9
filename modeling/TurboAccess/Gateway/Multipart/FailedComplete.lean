import TurboAccess.Gateway.Multipart.Claims
import TurboAccess.Gateway.Multipart.Staged

/-!
# Failed completions

A completion detaches the staging of its upload and releases its capacity
before it reserves the capacity of the destination again, and it installs the
body before it takes the index record.  A failure in between loses the staged
parts or leaves a new body without an index entry, and the rollback restores
the state of the upload only.  In the runs in which the capacity is still there
when the body is installed, and no abort takes the index record from under an
installed body, a completion that fails has changed nothing.
-/

namespace TurboAccess
namespace Gateway
namespace Multipart

namespace Frame

/-- The upload whose staging a completion has detached and not failed with. -/
def detaches : Frame → Option UploadPtr
  | .completing upload _ (.detached _ _ _) => some upload
  | .completing upload _ (.released _ _ _ _) => some upload
  | .completing upload _ (.installed _ _ _) => some upload
  | .completing upload _ (.taken _ _ _) => some upload
  | .completing upload _ (.indexed _) => some upload
  | .completing upload _ (.committed _) => some upload
  | .completing upload _ (.marked _) => some upload
  | .finished (.completed upload _) => some upload
  | _ => none

/-- A completion that has installed its body. -/
def commits : Frame → Bool
  | .completing _ _ (.installed _ _ _) => true
  | .completing _ _ (.taken _ _ _) => true
  | .completing _ _ (.indexed _) => true
  | .completing _ _ (.committed _) => true
  | .completing _ _ (.marked _) => true
  | .finished (.completed _ _) => true
  | _ => false

/-- A completion in progress owns its upload. -/
theorem claims_completing
    (upload : UploadPtr)
    (request : CompleteRequest)
    (stage : CompleteStage) :
    ∃ value, (Frame.completing upload request stage).claims =
      some (upload, value) := by
  cases stage <;> exact ⟨_, rfl⟩

/-- A completion that has detached a staging owns its upload. -/
theorem claims_of_detaches
    {frame : Frame}
    {upload : UploadPtr}
    (detached : frame.detaches = some upload) :
    ∃ value, frame.claims = some (upload, value) := by
  revert detached
  fun_cases detaches frame <;> simp [claims]

end Frame

/-- Some call has marked an upload aborted. -/
def AbortedBy (pool : Pool State Frame) (upload : UploadPtr) : Prop :=
  ∃ thread, upload ∈ (pool.threads thread).aborted

/-- Some completion has detached the staging of an upload and has not failed
since. -/
def DetachedBy (pool : Pool State Frame) (upload : UploadPtr) : Prop :=
  ∃ thread, (pool.threads thread).detaches = some upload

/-! ## The property and its condition -/

/-- A step leaves every body and every index entry alone. -/
def ObjectsKept (pool later : Pool State Frame) : Prop :=
  later.shared.backend.data.bodies = pool.shared.backend.data.bodies ∧
    later.shared.backend.index.entries = pool.shared.backend.index.entries

/-- A step leaves the staged bytes and the recorded parts of an upload alone,
except for a part that it writes or records itself. -/
def PartsKept
    (pool later : Pool State Frame)
    (mover : Nat)
    (upload : UploadPtr) : Prop :=
  ∀ partNumber,
    (stagedPart pool.shared upload partNumber ≠ none →
      stagedPart later.shared upload partNumber =
          stagedPart pool.shared upload partNumber ∨
        ∃ part, pool.threads mover = .partFound upload part ∧
          part.partNumber = partNumber ∧
          stagedPart later.shared upload partNumber ≠ none) ∧
    ((later.shared.store.objects upload).parts.lookup partNumber =
        (pool.shared.store.objects upload).parts.lookup partNumber ∨
      ∃ part etag, pool.threads mover = .partWritten upload part etag ∧
        part.partNumber = partNumber ∧
        (later.shared.store.objects upload).parts.lookup partNumber ≠ none)

/-- An upload is active and all its recorded parts are staged. -/
def Retriable (state : State) (upload : UploadPtr) : Prop :=
  (state.store.objects upload).state = .active ∧
    ∀ partNumber,
      (state.store.objects upload).parts.lookup partNumber ≠ none →
        stagedPart state upload partNumber ≠ none

/-- What a step of any call does while a completion that is going to fail is
in progress. -/
structure FailureHarmless
    (pool later finish : Pool State Frame)
    (mover completer : Nat)
    (upload : UploadPtr)
    (stage : CompleteStage) : Prop where
  /-- The completion itself changes no object. -/
  objects : mover = completer → ObjectsKept pool later
  /-- Nobody takes the parts of an upload that is never aborted. -/
  parts : ¬AbortedBy finish upload → PartsKept pool later mover upload
  /-- The rollback leaves an upload that can be completed. -/
  rollback : ¬AbortedBy finish upload → mover = completer →
    ∀ error, stage = .failing error → Retriable later.shared upload

/-- In the runs whose steps satisfy a guard, a completion that fails after it
has claimed its upload has changed nothing. -/
def FailureChangesNothing
    (options : CoordinatorOptions)
    (guard : Pool State Frame → Nat × Input → Prop) : Prop :=
  ∀ pool label later labels finish completer upload request error,
    (machine options).Reachable guard pool →
    guard pool label →
    (machine options).step pool label = some later →
    (machine options).Path guard later labels finish →
    finish.threads completer = .finished (.failed error) →
      (pool.threads completer = .completeFound upload request →
        label.1 = completer → ObjectsKept pool later) ∧
      ∀ stage, pool.threads completer = .completing upload request stage →
        FailureHarmless pool later finish label.1 completer upload stage

/-- The capacity and the index record of an upload are there when its body is
installed; or the body is refused when the upload is aborted anyway, and there
is no empty object to lose.  No abort takes the index record of an upload whose
body is installed. -/
structure InstallsSafely
    (pool : Pool State Frame)
    (label : Nat × Input) : Prop where
  installs : ∀ upload request bucket key total assembled,
    pool.threads label.1 =
        .completing upload request (.released bucket key total assembled) →
      (pool.shared.backend.data.Fits (makeKey bucket key) total ∧
          pool.shared.backend.index.mpu.lookup
            (pool.shared.backendId upload) ≠ none) ∨
        (¬pool.shared.backend.data.Fits (makeKey bucket key) total ∧
          AbortedBy pool upload ∧
          pool.shared.backend.data.bodies.lookup (makeKey bucket key) ≠
            some [])
  aborts : ∀ upload origin,
    pool.threads label.1 = .aborting upload origin .dataAborted →
      ∀ thread request bucket key size,
        pool.threads thread ≠
          .completing upload request (.installed bucket key size)

variable
  {options : CoordinatorOptions}
  {state next : State}
  {before after : Frame}

/-! ## Views of a section -/

/-- Ways in which a completion that has detached its staging fails. -/
inductive LosesStaging (state : State) (upload : UploadPtr) : Frame → Prop
  | missing (request : CompleteRequest) (bucket key : String)
      (staging : MpuParts)
      (unknown : MemoryDataStore.assembledSize staging
        (CompositeBackend.orderedNumbers request.parts) = none) :
      LosesStaging state upload
        (.completing upload request (.detached bucket key staging))
  | refused (request : CompleteRequest) (bucket key : String) (total : Nat)
      (assembled : Bytes)
      (exceeds : ¬state.backend.data.Fits (makeKey bucket key) total) :
      LosesStaging state upload
        (.completing upload request (.released bucket key total assembled))
  | gone (request : CompleteRequest) (bucket key : String) (size : Nat)
      (absent : state.backend.index.mpu.lookup (state.backendId upload) =
        none) :
      LosesStaging state upload
        (.completing upload request (.installed bucket key size))

/-- A completion that has detached its staging goes on, or loses it. -/
theorem Moves.detaches
    (moves : Moves options state before next after)
    {upload : UploadPtr}
    (detached : before.detaches = some upload) :
    after.detaches = some upload ∨ LosesStaging state upload before := by
  cases moves with
  | complete mover request stage now =>
      obtain ⟨next, after, result, completes⟩ :=
        exists_completes options state mover request now stage
      rw [result]
      cases completes with
      | missing bucket key staging unsized =>
          cases detached
          exact .inr (.missing request bucket key staging unsized)
      | refuse bucket key total assembled data refused =>
          cases detached
          exact .inr (.refused request bucket key total assembled
            (MemoryDataStore.not_fits_of_installBody refused))
      | unrecorded bucket key size absent =>
          cases detached
          exact .inr (.gone request bucket key size absent)
      | release | install | take | putIndex | eraseTarget | setCompleted
      | unregister => exact .inl detached
      | invalid | untargeted | target | unstaged | detach | rollBack =>
          simp [Frame.detaches] at detached
  | accept | addTarget | create | refusePart | writePart | registerPart
  | refuseClaim | claim | refuseAbort | markAborted | abort | unregister
  | visit | endScan | endSweep | sweepNext | putIndex =>
      simp [Frame.detaches] at detached

/-- A completion that has installed its body goes on, unless its index record
has been taken. -/
theorem Moves.commits
    (moves : Moves options state before next after)
    (committing : before.commits = true) :
    after.commits = true ∨
      ∃ upload request bucket key size,
        before = .completing upload request (.installed bucket key size) ∧
          state.backend.index.mpu.lookup (state.backendId upload) = none := by
  cases moves with
  | complete mover request stage now =>
      obtain ⟨next, after, result, completes⟩ :=
        exists_completes options state mover request now stage
      rw [result]
      cases completes with
      | unrecorded bucket key size absent =>
          exact .inr ⟨mover, request, bucket, key, size, rfl, absent⟩
      | take | putIndex | eraseTarget | setCompleted | unregister =>
          exact .inl rfl
      | invalid | untargeted | target | unstaged | detach | missing | release
      | refuse | install | rollBack => simp [Frame.commits] at committing
  | accept | addTarget | create | refusePart | writePart | registerPart
  | refuseClaim | claim | refuseAbort | markAborted | abort | unregister
  | visit | endScan | endSweep | sweepNext | putIndex =>
      simp [Frame.commits] at committing

/-- A completion changes no object before it installs its body, except that a
refused installation drops an empty body. -/
theorem Moves.objects_kept
    {upload : UploadPtr}
    {request : CompleteRequest}
    {stage : CompleteStage}
    (moves : Moves options state (.completing upload request stage) next
      after) :
    (next.backend.data.bodies = state.backend.data.bodies ∧
        next.backend.index.entries = state.backend.index.entries) ∨
      after.commits = true ∨
      ∃ bucket key total assembled,
        stage = .released bucket key total assembled ∧
          ¬state.backend.data.Fits (makeKey bucket key) total ∧
          state.backend.data.bodies.lookup (makeKey bucket key) =
            some [] := by
  cases moves with
  | complete _ _ _ now =>
      obtain ⟨next, after, result, completes⟩ :=
        exists_completes options state upload request now stage
      rw [result]
      cases completes with
      | missing | release => exact .inl ⟨by simp, rfl⟩
      | refuse bucket key total assembled data refused =>
          by_cases empty : state.backend.data.bodies.lookup
              (makeKey bucket key) = some []
          · right; right
            exact ⟨bucket, key, total, assembled, rfl,
              MemoryDataStore.not_fits_of_installBody refused, empty⟩
          · have kept := MemoryDataStore.bodies_of_installBody_refused refused
            rw [if_neg empty] at kept
            exact .inl ⟨kept, rfl⟩
      | install | putIndex => exact .inr (.inl rfl)
      | invalid | untargeted | target | unstaged | detach | unrecorded | take
      | eraseTarget | setCompleted | unregister | rollBack =>
          exact .inl ⟨rfl, rfl⟩

/-- The claim of a completion changes no object. -/
theorem Moves.objects_claim
    {upload : UploadPtr}
    {request : CompleteRequest}
    (moves : Moves options state (.completeFound upload request) next after) :
    next.backend = state.backend := by
  cases moves <;> rfl

/-- The record of a part stays as it is, unless the part is recorded again. -/
theorem Moves.recorded_kept
    (moves : Moves options state before next after)
    {upload : UploadPtr}
    (allocated : upload < state.store.allocated)
    (partNumber : Nat) :
    (next.store.objects upload).parts.lookup partNumber =
        (state.store.objects upload).parts.lookup partNumber ∨
      ∃ part etag, before = .partWritten upload part etag ∧
        part.partNumber = partNumber ∧
        (next.store.objects upload).parts.lookup partNumber ≠ none := by
  have change := moves.uploadChange allocated
  generalize next.store.objects upload = changed at change
  cases change with
  | registered part etag now =>
      simp only [Table.lookup_insert_eq]
      by_cases number : partNumber = part.partNumber
      · exact .inr ⟨part, etag, rfl, number.symm, by simp [number]⟩
      · exact .inl (by simp [number])
  | unchanged | claimed | rolledBack | completed | aborted => exact .inl rfl

/-- A part is recorded when it was, or when its upload has just recorded
it. -/
theorem Moves.recorded_cases
    (moves : Moves options state before next after)
    {upload : UploadPtr}
    {partNumber : Nat}
    (allocated : upload < state.store.allocated)
    (recorded : (next.store.objects upload).parts.lookup partNumber ≠ none) :
    (state.store.objects upload).parts.lookup partNumber ≠ none ∨
      before.recording = some (upload, partNumber) := by
  have change := moves.uploadChange allocated
  generalize next.store.objects upload = changed at change recorded
  cases change with
  | registered part etag now =>
      simp only [Table.lookup_insert_eq] at recorded
      split at recorded
      · next number =>
          right
          simp [Frame.recording, number]
      · exact .inl recorded
  | unchanged | claimed | rolledBack | completed | aborted =>
      exact .inl recorded

/-! ## The invariant -/

/-- Neither an abort nor a completion has taken the staging of an upload. -/
def Untouched (pool : Pool State Frame) (upload : UploadPtr) : Prop :=
  ¬AbortedBy pool upload ∧ ¬DetachedBy pool upload

/-- What a completion knows about its parts and its index record. -/
def Informed (pool : Pool State Frame) : Frame → Prop
  | .completing upload _ (.claimed recorded) =>
      ∀ partNumber, recorded.lookup partNumber ≠ none →
        (pool.shared.store.objects upload).parts.lookup partNumber ≠ none
  | .completing upload request (.targeted _ _) =>
      ∀ part ∈ request.parts,
        (pool.shared.store.objects upload).parts.lookup part.partNumber ≠ none
  | .completing upload request (.detached _ _ staging) =>
      ¬AbortedBy pool upload → ∀ part ∈ request.parts,
        staging.parts.lookup part.partNumber ≠ none
  | .completing upload _ (.installed _ _ _) =>
      pool.shared.backend.index.mpu.lookup (pool.shared.backendId upload) ≠
        none
  | _ => True

/-- The parts of every untouched upload are staged, and every completion knows
what it needs to go on. -/
structure Intact (pool : Pool State Frame) : Prop where
  recorded : ∀ upload, upload < pool.shared.store.allocated →
    Untouched pool upload → ∀ partNumber,
      (pool.shared.store.objects upload).parts.lookup partNumber ≠ none →
        stagedPart pool.shared upload partNumber ≠ none
  written : ∀ thread upload partNumber,
    (pool.threads thread).recording = some (upload, partNumber) →
      Untouched pool upload → stagedPart pool.shared upload partNumber ≠ none
  frames : ∀ thread, Informed pool (pool.threads thread)

section Preservation

variable {pool : Pool State Frame} {mover : Nat} {upload : UploadPtr}

/-- An abort is never taken back. -/
private theorem AbortedBy.step
    (aborted : AbortedBy pool upload)
    (moves : Moves options pool.shared (pool.threads mover) next after) :
    AbortedBy ⟨next, Function.update pool.threads mover after⟩ upload := by
  obtain ⟨thread, marked⟩ := aborted
  refine ⟨thread, ?_⟩
  by_cases moving : thread = mover
  · subst moving
    simpa using moves.aborted_of_before marked
  · simpa [Function.update_of_ne moving] using marked

/-- A completion loses its staging only after an abort. -/
private theorem Intact.aborted_of_loses
    {input : Input}
    (intact : Intact pool)
    (safe : InstallsSafely pool (mover, input))
    (loses : LosesStaging pool.shared upload (pool.threads mover)) :
    AbortedBy pool upload := by
  have informed := intact.frames mover
  generalize found : pool.threads mover = frame at loses informed
  cases loses with
  | missing request bucket key staging unknown =>
      by_contra kept
      refine MemoryDataStore.assembledSize_ne_none ?_ unknown
      intro partNumber listed
      obtain ⟨part, requested, rfl⟩ :=
        CompositeBackend.mem_orderedNumbers.mp listed
      exact informed kept part requested
  | refused request bucket key total assembled exceeds =>
      rcases safe.installs upload request bucket key total assembled found with
        ⟨fits, _⟩ | ⟨_, aborted, _⟩
      · exact absurd fits exceeds
      · exact aborted
  | gone request bucket key size absent => exact absurd absent informed

/-- An upload that is untouched after a step was so before it. -/
private theorem Intact.untouched_before
    {input : Input}
    (intact : Intact pool)
    (safe : InstallsSafely pool (mover, input))
    (moves : Moves options pool.shared (pool.threads mover) next after)
    (untouched : Untouched ⟨next, Function.update pool.threads mover after⟩
      upload) :
    Untouched pool upload := by
  refine ⟨fun aborted => untouched.1 (aborted.step moves), ?_⟩
  rintro ⟨thread, detached⟩
  apply untouched.2
  by_cases moving : thread = mover
  · subst moving
    rcases moves.detaches detached with still | loses
    · exact ⟨thread, by simpa using still⟩
    · exact absurd ((intact.aborted_of_loses safe loses).step moves)
        untouched.1
  · exact ⟨thread, by simpa [Function.update_of_ne moving] using detached⟩

/-- A part staged for an upload that is untouched after a step is still
staged. -/
private theorem staged_of_untouched
    {partNumber : Nat}
    (identified : PoolIdentified pool)
    (moves : Moves options pool.shared (pool.threads mover) next after)
    (untouched : Untouched ⟨next, Function.update pool.threads mover after⟩
      upload)
    (allocated : upload < pool.shared.store.allocated)
    (staged : stagedPart pool.shared upload partNumber ≠ none) :
    stagedPart next upload partNumber ≠ none := by
  obtain ⟨bytes, found⟩ := Option.ne_none_iff_exists'.mp staged
  rcases moves.stagedPart_kept identified.shared (identified.thread mover)
      allocated found with
    kept | ⟨part, _, _, rewritten⟩ |
      ⟨request, bucket, key, staging, _, rfl⟩ | ⟨origin, frame⟩
  · rw [kept]
    simp
  · exact rewritten
  · exact absurd ⟨mover, by simp [Frame.detaches]⟩ untouched.2
  · refine absurd (AbortedBy.step ⟨mover, ?_⟩ moves) untouched.1
    rw [frame]
    cases origin <;> simp [Frame.aborted]

/-- A recorded part is recorded after a step. -/
private theorem recorded_step
    {partNumber : Nat}
    (moves : Moves options state before next after)
    (allocated : upload < state.store.allocated)
    (recorded : (state.store.objects upload).parts.lookup partNumber ≠ none) :
    (next.store.objects upload).parts.lookup partNumber ≠ none := by
  rcases moves.recorded_kept allocated partNumber with
    kept | ⟨_, _, _, _, present⟩
  · rw [kept]
    exact recorded
  · exact present

/-- The index record of an upload whose body is installed stays. -/
private theorem record_of_other
    {input : Input}
    {thread size : Nat}
    {request : CompleteRequest}
    {bucket key : String}
    (identified : PoolIdentified pool)
    (owned : PoolOwned pool)
    (safe : InstallsSafely pool (mover, input))
    (moves : Moves options pool.shared (pool.threads mover) next after)
    (different : thread ≠ mover)
    (frame : pool.threads thread =
      .completing upload request (.installed bucket key size))
    (present : pool.shared.backend.index.mpu.lookup
      (pool.shared.backendId upload) ≠ none) :
    next.backend.index.mpu.lookup (next.backendId upload) ≠ none := by
  have allocated := (identified.thread thread).bound upload
    (by simp [frame, Frame.uploads])
  have bound := (identified.thread mover).bound
  have change := moves.recordChange (pool.shared.backendId upload)
  rw [(moves.identity allocated).2.1]
  generalize next.backend.index.mpu.lookup (pool.shared.backendId upload) =
    record at change
  generalize moving : pool.threads mover = before at change bound
  cases change with
  | unchanged => exact present
  | opened => simp
  | taken other _ _ _ _ _ owns =>
      have same := identified.shared.backendInjective other upload
        (bound other (by simp [Frame.uploads])) allocated owns
      subst same
      exact absurd (by rw [moving]; rfl)
        (owned.pair thread mover different other .completing .completing
          (by rw [frame]; rfl))
  | aborted other origin owns =>
      have same := identified.shared.backendInjective other upload
        (bound other (by cases origin <;> simp [Frame.uploads])) allocated
        owns
      subst same
      exact absurd frame
        (safe.aborts other origin moving thread request bucket key size)

/-- What another completion knows stays true. -/
private theorem Informed.other
    {input : Input}
    {thread : Nat}
    (informed : Informed pool (pool.threads thread))
    (identified : PoolIdentified pool)
    (owned : PoolOwned pool)
    (safe : InstallsSafely pool (mover, input))
    (moves : Moves options pool.shared (pool.threads mover) next after)
    (different : thread ≠ mover) :
    Informed ⟨next, Function.update pool.threads mover after⟩
      (pool.threads thread) := by
  have bound := (identified.thread thread).bound
  generalize frame : pool.threads thread = other at informed bound
  cases other with
  | idle | started | targeted | partFound | partWritten | completeFound
  | abortFound | aborting | unregistering | scanning | sweeping | storing
  | finished => trivial
  | completing upload request stage =>
      have allocated := bound upload (by simp [Frame.uploads])
      cases stage with
      | claimed recorded =>
          intro partNumber snapshot
          exact recorded_step moves allocated (informed partNumber snapshot)
      | targeted bucket key =>
          intro part listed
          exact recorded_step moves allocated (informed part listed)
      | detached bucket key staging =>
          intro unaborted part listed
          exact informed (fun aborted => unaborted (aborted.step moves)) part
            listed
      | installed bucket key size =>
          exact record_of_other identified owned safe moves different frame
            informed
      | released | taken | indexed | committed | marked | failing => trivial

/-- A completion that has not detached the staging of its upload leaves it to
nobody else. -/
private theorem not_detachedBy
    {thread : Nat}
    {value : UploadState}
    (owned : PoolOwned pool)
    (owns : (pool.threads thread).claims = some (upload, value))
    (attached : (pool.threads thread).detaches ≠ some upload) :
    ¬DetachedBy pool upload := by
  rintro ⟨other, detached⟩
  obtain ⟨otherValue, claimed⟩ := Frame.claims_of_detaches detached
  by_cases same : other = thread
  · subst same
    exact attached detached
  · exact owned.pair other thread same upload otherValue value claimed owns

/-- What a completion has just learnt is true. -/
private theorem Informed.own
    {input : Input}
    (intact : Intact pool)
    (identified : PoolIdentified pool)
    (owned : PoolOwned pool)
    (safe : InstallsSafely pool (mover, input))
    (moves : Moves options pool.shared (pool.threads mover) next after) :
    Informed ⟨next, Function.update pool.threads mover after⟩ after := by
  have informed := intact.frames mover
  have bound := (identified.thread mover).bound
  have still : ∀ upload, AbortedBy pool upload →
      AbortedBy ⟨next, Function.update pool.threads mover after⟩ upload :=
    fun _ aborted => aborted.step moves
  generalize frame : pool.threads mover = before at moves informed bound
  cases moves with
  | accept call =>
      fun_cases Multipart.accept pool.shared call <;> trivial
  | abort upload origin stage =>
      cases origin <;> cases stage <;> trivial
  | addTarget | create | refusePart | writePart | registerPart | refuseClaim
  | refuseAbort | markAborted | unregister | visit | endScan | endSweep
  | sweepNext | putIndex => trivial
  | claim upload request active =>
      intro partNumber recorded
      simpa [objects_setState] using recorded
  | complete upload request stage now =>
      obtain ⟨next, after, result, completes⟩ :=
        exists_completes options pool.shared upload request now stage
      rw [result] at still ⊢
      cases completes with
      | target recorded bucket key valid found =>
          intro part listed
          obtain ⟨progress, found, _⟩ := recorded_of_validateParts valid listed
          exact informed part.partNumber (by simp [found])
      | detach bucket key staging found =>
          intro unaborted part listed
          have untouched : Untouched pool upload := by
            refine ⟨fun aborted => unaborted (still upload aborted), ?_⟩
            have owns : (pool.threads mover).claims =
                some (upload, .completing) := by rw [frame]; rfl
            exact not_detachedBy owned owns (by simp [frame, Frame.detaches])
          have staged := intact.recorded upload
            (bound upload (by simp [Frame.uploads])) untouched
            part.partNumber (informed part listed)
          rw [stagedPart, found] at staged
          exact staged
      | install bucket key total assembled data placed =>
          rcases safe.installs upload request bucket key total assembled
            frame with ⟨_, present⟩ | ⟨exceeds, _⟩
          · exact present
          · exact absurd (MemoryDataStore.fits_of_installBody placed) exceeds
      | invalid | untargeted | unstaged | missing | release | refuse
      | unrecorded | take | putIndex | eraseTarget | setCompleted | unregister
      | rollBack => trivial

/-- A step that installs safely keeps the parts intact. -/
private theorem Intact.step
    {input : Input}
    (intact : Intact pool)
    (identified : PoolIdentified pool)
    (owned : PoolOwned pool)
    (safe : InstallsSafely pool (mover, input))
    (moves : Moves options pool.shared (pool.threads mover) next after) :
    Intact ⟨next, Function.update pool.threads mover after⟩ where
  recorded := by
    intro upload allocated untouched partNumber recorded
    rcases moves.upload_cases allocated with older | ⟨_, _, _, _, _, empty⟩
    · have earlier := intact.untouched_before safe moves untouched
      apply staged_of_untouched identified moves untouched older
      rcases moves.recorded_cases older recorded with known | records
      · exact intact.recorded upload older earlier partNumber known
      · exact intact.written mover upload partNumber records earlier
    · dsimp only at recorded
      rw [empty] at recorded
      simp at recorded
  written := by
    intro thread upload partNumber records untouched
    dsimp only at records ⊢
    by_cases moving : thread = mover
    · subst moving
      rw [Function.update_self] at records
      exact moves.stagedPart_of_recording records
    · rw [Function.update_of_ne moving] at records
      have allocated := (identified.thread thread).bound upload
        (Frame.mem_uploads_of_recording records)
      exact staged_of_untouched identified moves untouched allocated
        (intact.written thread upload partNumber records
          (intact.untouched_before safe moves untouched))
  frames := by
    apply (Function.forall_update_iff _ fun _ => Informed
      ⟨next, Function.update pool.threads mover after⟩).mpr
    constructor
    · exact Informed.own intact identified owned safe moves
    · intro thread moving
      exact (intact.frames thread).other identified owned safe moves moving

end Preservation

/-- The parts are intact in every state that safe installations reach. -/
theorem Intact.of_reachable
    {pool : Pool State Frame}
    (reachable : (machine options).Reachable InstallsSafely pool) :
    Intact pool := by
  refine reachable.induction ?_ ?_
  · rintro start ⟨capacityBytes, ttl, rfl⟩
    refine ⟨?_, ?_, fun _ => trivial⟩
    · intro upload allocated
      simp [State.init, MultipartStore.init] at allocated
    · intro thread upload partNumber records
      simp [Frame.recording] at records
  · intro pool label later reached intact safe stepped
    obtain ⟨shared, frame, moves, rfl⟩ := moves_of_step stepped
    exact intact.step (PoolIdentified.of_reachable reached)
      (PoolOwned.of_reachable reached) safe moves

/-! ## Runs -/

section Runs

variable
  {pool finish : Pool State Frame}
  {labels : List (Nat × Input)}

private theorem AbortedBy.path
    {guard : Pool State Frame → Nat × Input → Prop}
    {upload : UploadPtr}
    (aborted : AbortedBy pool upload)
    (path : (machine options).Path guard pool labels finish) :
    AbortedBy finish upload := by
  induction path with
  | nil => exact aborted
  | cons _ stepped _ inductionHypothesis =>
      obtain ⟨shared, frame, moves, rfl⟩ := moves_of_step stepped
      exact inductionHypothesis (aborted.step moves)

/-- A completion that has detached its staging succeeds, unless the upload is
aborted. -/
private theorem detaches_of_path
    {upload : UploadPtr}
    (path : (machine options).Path InstallsSafely pool labels finish)
    (reachable : (machine options).Reachable InstallsSafely pool)
    (thread : Nat)
    (detached : (pool.threads thread).detaches = some upload) :
    (finish.threads thread).detaches = some upload ∨
      AbortedBy finish upload := by
  induction path with
  | nil => exact .inl detached
  | @cons start _ _ label _ safe stepped rest inductionHypothesis =>
      have intact := Intact.of_reachable reachable
      have reached := reachable.step safe stepped
      obtain ⟨shared, frame, moves, rfl⟩ := moves_of_step stepped
      by_cases moving : thread = label.1
      · subst moving
        rcases moves.detaches detached with still | loses
        · exact inductionHypothesis reached (by simpa using still)
        · exact .inr (((intact.aborted_of_loses safe loses).step moves).path
            rest)
      · exact inductionHypothesis reached
          (by simpa [Function.update_of_ne moving] using detached)

/-- A completion that has installed its body succeeds. -/
private theorem commits_of_path
    (path : (machine options).Path InstallsSafely pool labels finish)
    (reachable : (machine options).Reachable InstallsSafely pool)
    (thread : Nat)
    (committing : (pool.threads thread).commits = true) :
    (finish.threads thread).commits = true := by
  induction path with
  | nil => exact committing
  | @cons start _ _ label _ safe stepped rest inductionHypothesis =>
      have informed := (Intact.of_reachable reachable).frames thread
      have reached := reachable.step safe stepped
      obtain ⟨shared, frame, moves, rfl⟩ := moves_of_step stepped
      apply inductionHypothesis reached
      by_cases moving : thread = label.1
      · subst moving
        rcases moves.commits committing with
          still | ⟨upload, request, bucket, key, size, found, absent⟩
        · simpa using still
        · rw [found] at informed
          exact absurd absent informed
      · simpa [Function.update_of_ne moving] using committing

variable
  {label : Nat × Input}
  {shared : State}
  {frame : Frame}
  {upload : UploadPtr}
  {request : CompleteRequest}
  {stage : CompleteStage}

/-- A step of a completion that is going to fail changes no object. -/
private theorem objectsKept_of_failed
    {error : Error}
    (safe : InstallsSafely pool label)
    (moves : Moves options pool.shared (pool.threads label.1) shared frame)
    (reached : (machine options).Reachable InstallsSafely
      ⟨shared, Function.update pool.threads label.1 frame⟩)
    (path : (machine options).Path InstallsSafely
      ⟨shared, Function.update pool.threads label.1 frame⟩ labels finish)
    (found : pool.threads label.1 = .completing upload request stage)
    (failed : finish.threads label.1 = .finished (.failed error)) :
    ObjectsKept pool ⟨shared, Function.update pool.threads label.1 frame⟩ := by
  rw [found] at moves
  rcases moves.objects_kept with
    kept | committing | ⟨bucket, key, total, assembled, rfl, exceeds, empty⟩
  · exact kept
  · have still := commits_of_path path reached label.1
      (by simpa using committing)
    simp [failed, Frame.commits] at still
  · rcases safe.installs upload request bucket key total assembled found with
      ⟨fits, _⟩ | ⟨_, _, nonempty⟩
    · exact absurd fits exceeds
    · exact absurd empty nonempty

/-- While a completion that is going to fail is in progress, nobody takes the
parts of its upload without an abort. -/
private theorem partsKept_of_unaborted
    {error : Error}
    {completer : Nat}
    (identified : PoolIdentified pool)
    (owned : PoolOwned pool)
    (moves : Moves options pool.shared (pool.threads label.1) shared frame)
    (reached : (machine options).Reachable InstallsSafely
      ⟨shared, Function.update pool.threads label.1 frame⟩)
    (path : (machine options).Path InstallsSafely
      ⟨shared, Function.update pool.threads label.1 frame⟩ labels finish)
    (found : pool.threads completer = .completing upload request stage)
    (failed : finish.threads completer = .finished (.failed error))
    (unaborted : ¬AbortedBy finish upload) :
    PartsKept pool ⟨shared, Function.update pool.threads label.1 frame⟩
      label.1 upload := by
  have allocated := (identified.thread completer).bound upload
    (by simp [found, Frame.uploads])
  intro partNumber
  refine ⟨?_, moves.recorded_kept allocated partNumber⟩
  intro staged
  obtain ⟨bytes, before⟩ := Option.ne_none_iff_exists'.mp staged
  rcases moves.stagedPart_kept identified.shared (identified.thread label.1)
      allocated before with
    kept | rewritten | ⟨other, bucket, key, staging, moving, detaching⟩ |
      ⟨origin, moving⟩
  · exact .inl (kept.trans before.symm)
  · exact .inr rewritten
  · by_cases own : completer = label.1
    · subst own
      have detached : (Function.update pool.threads label.1 frame
          label.1).detaches = some upload := by
        simp [detaching, Frame.detaches]
      rcases detaches_of_path path reached label.1 detached with
        still | aborted
      · simp [failed, Frame.detaches] at still
      · exact absurd aborted unaborted
    · obtain ⟨value, owns⟩ := Frame.claims_completing upload request stage
      exact absurd (by rw [moving]; rfl)
        (owned.pair completer label.1 own upload value .completing
          (by rw [found]; exact owns))
  · have aborted : AbortedBy pool upload := by
      refine ⟨label.1, ?_⟩
      rw [moving]
      cases origin <;> simp [Frame.aborted]
    exact absurd ((aborted.step moves).path path) unaborted

/-- The rollback leaves an upload that was never aborted ready for another
completion. -/
private theorem retriable_of_rollback
    {cause : Error}
    (identified : PoolIdentified pool)
    (owned : PoolOwned pool)
    (moves : Moves options pool.shared (pool.threads label.1) shared frame)
    (reached : (machine options).Reachable InstallsSafely
      ⟨shared, Function.update pool.threads label.1 frame⟩)
    (path : (machine options).Path InstallsSafely
      ⟨shared, Function.update pool.threads label.1 frame⟩ labels finish)
    (found : pool.threads label.1 = .completing upload request (.failing cause))
    (unaborted : ¬AbortedBy finish upload) :
    Retriable shared upload := by
  have intact := Intact.of_reachable reached
  have allocated := (identified.thread label.1).bound upload
    (by simp [found, Frame.uploads])
  rw [found] at moves
  cases moves with
  | complete _ _ _ now =>
      refine ⟨by simp [advanceCompletion, objects_setState], ?_⟩
      refine intact.recorded upload allocated
        ⟨fun aborted => unaborted (aborted.path path), ?_⟩
      rintro ⟨other, detached⟩
      by_cases own : other = label.1
      · subst own
        simp [advanceCompletion, Frame.detaches] at detached
      · dsimp only at detached
        rw [Function.update_of_ne own] at detached
        obtain ⟨value, claimed⟩ := Frame.claims_of_detaches detached
        exact owned.pair other label.1 own upload value .completing claimed
          (by rw [found]; rfl)

end Runs

/-- In the runs in which bodies are installed safely, a completion that fails
has changed nothing. -/
theorem failureChangesNothing_of_installsSafely
    (options : CoordinatorOptions) :
    FailureChangesNothing options InstallsSafely := by
  intro pool label later labels finish completer upload request error
    reachable safe stepped path failed
  have identified := PoolIdentified.of_reachable reachable
  have owned := PoolOwned.of_reachable reachable
  have reached := reachable.step safe stepped
  obtain ⟨shared, frame, moves, rfl⟩ := moves_of_step stepped
  constructor
  · rintro found rfl
    rw [found] at moves
    have kept := moves.objects_claim
    exact ⟨by rw [kept], by rw [kept]⟩
  · intro stage found
    refine ⟨?_, ?_, ?_⟩
    · rintro rfl
      exact objectsKept_of_failed safe moves reached path found failed
    · exact partsKept_of_unaborted identified owned moves reached path found
        failed
    · rintro unaborted rfl cause rfl
      exact retriable_of_rollback identified owned moves reached path found
        unaborted

/-- Safe installations in runs without aborts. -/
private def installsSafelyAlone
    (pool : Pool State Frame)
    (label : Nat × Input) : Bool :=
  match pool.threads label.1 with
  | .completing upload _ (.released bucket key total _) =>
      decide (pool.shared.backend.data.Fits (makeKey bucket key) total) &&
        (pool.shared.backend.index.mpu.lookup
          (pool.shared.backendId upload)).isSome
  | .aborting _ _ .dataAborted => false
  | _ => true

private theorem installsSafely_of_alone
    (pool : Pool State Frame)
    (label : Nat × Input)
    (holds : installsSafelyAlone pool label = true) :
    InstallsSafely pool label := by
  refine ⟨?_, ?_⟩
  · intro upload request bucket key total assembled found
    simp only [installsSafelyAlone, found, Bool.and_eq_true,
      decide_eq_true_eq] at holds
    exact .inl ⟨holds.1, Option.isSome_iff_ne_none.mp holds.2⟩
  · intro upload origin found
    simp [installsSafelyAlone, found] at holds

/-- One uploaded part. -/
private def uploadedLabels : List (Nat × Input) :=
  (0, .call (.createUpload ⟨"b", "k", none, "http", ""⟩ 0)) ::
    clockSteps 0 2 ++
  (1, .call (.uploadPart (mpuId 1 0) ⟨1, 0, [7]⟩)) :: clockSteps 1 2

/-- A completion with a wrong tag is rolled back, and one with the right tag
follows it. -/
private def mistagged :
    Option (Pool State Frame × Pool State Frame × Pool State Frame) :=
  (machine ⟨0, 0⟩).runAround (fun pool label => installsSafelyAlone pool label)
    ⟨State.init 1 0, fun _ => .idle⟩
    (uploadedLabels ++ (2, .call (.completeUpload
      ⟨mpuId 1 0, [⟨1, "other"⟩], "http"⟩)) :: clockSteps 2 2)
    (2, .clock 0)
    ((3, .call (.completeUpload
      ⟨mpuId 1 0, [⟨1, makePartEtag 1 1 0⟩], "http"⟩)) :: clockSteps 3 10)

private theorem mistagged_isSome : mistagged.isSome = true := by decide

/-- The error of a completion with a wrong tag. -/
private def mismatch : Error :=
  makeError .badRequest ("etag mismatch for part " ++ toString 1)

theorem failureChangesNothing_wrong_tag :
    ∃ pool later finish : Pool State Frame,
      finish.threads 2 = .finished (.failed
        (makeError .badRequest ("etag mismatch for part " ++ toString 1))) ∧
      finish.threads 3 = .finished (.completed 0 (makeMeta 1 0)) ∧
      ObjectsKept pool later ∧ PartsKept pool later 2 0 ∧
      Retriable later.shared 0 := by
  obtain ⟨before, allowed, stepped, path, rest⟩ :=
    Pool.path_of_runAround_below 4 .idle rfl
      (fun pool label _ => installsSafely_of_alone pool label)
      (fun _ _ => rfl) (by decide) (Option.some_get mistagged_isSome).symm
  have failed : (mistagged.get mistagged_isSome).2.2.threads 2 =
      .finished (.failed mismatch) := by decide
  have unaborted : ¬AbortedBy (mistagged.get mistagged_isSome).2.2 0 := by
    rintro ⟨thread, marked⟩
    exact rest.forall (fun frame => 0 ∉ frame.aborted) (by decide) (by decide)
      thread marked
  have harmless := (failureChangesNothing_of_installsSafely ⟨0, 0⟩ _ _ _ _ _ 2
    0 ⟨mpuId 1 0, [⟨1, "other"⟩], "http"⟩ mismatch
    ⟨_, _, ⟨1, 0, rfl⟩, before⟩ allowed stepped path failed).2
    (.failing mismatch) (by decide)
  exact ⟨_, _, _, failed, by decide, harmless.objects rfl,
    harmless.parts unaborted, harmless.rollback unaborted rfl mismatch rfl⟩

/-- The byte of the part is released before the body is installed, and another
object takes it. -/
private def outbid :
    Option (Pool State Frame × Pool State Frame × Pool State Frame) :=
  (machine ⟨0, 0⟩).runAround Machine.always ⟨State.init 1 0, fun _ => .idle⟩
    (uploadedLabels ++ (2, .call (.completeUpload
      ⟨mpuId 1 0, [⟨1, makePartEtag 1 1 0⟩], "http"⟩)) :: clockSteps 2 2)
    (2, .clock 0)
    (clockSteps 2 1 ++ (3, .call (.writeRange "b" "other" 0 [9] none)) ::
      clockSteps 2 2)

private theorem outbid_isSome : outbid.isSome = true := by decide

/-- A completion that is refused the capacity it has released loses the staged
part. -/
theorem staged_part_lost :
    ¬FailureChangesNothing ⟨0, 0⟩ Machine.always := by
  intro claimed
  obtain ⟨before, allowed, stepped, path, rest⟩ :=
    Pool.path_of_runAround_below 4 .idle rfl (fun _ _ _ allowed => allowed)
      (fun _ _ => rfl) (by decide) (Option.some_get outbid_isSome).symm
  have unaborted : ¬AbortedBy (outbid.get outbid_isSome).2.2 0 := by
    rintro ⟨thread, marked⟩
    exact rest.forall (fun frame => 0 ∉ frame.aborted) (by decide) (by decide)
      thread marked
  have harmless := (claimed _ _ _ _ _ 2 0
    ⟨mpuId 1 0, [⟨1, makePartEtag 1 1 0⟩], "http"⟩
    MemoryDataStore.capacityExceeded ⟨_, _, ⟨1, 0, rfl⟩, before⟩ allowed
    stepped path (by decide)).2 (.targeted "b" "k") (by decide)
  have staged : stagedPart (outbid.get outbid_isSome).1.shared 0 1 =
      some [7] := by decide
  have gone : stagedPart (outbid.get outbid_isSome).2.1.shared 0 1 = none := by
    decide
  have kept := (harmless.parts unaborted 1).1 (by rw [staged]; simp)
  rw [staged, gone] at kept
  simp at kept

end Multipart
end Gateway
end TurboAccess
