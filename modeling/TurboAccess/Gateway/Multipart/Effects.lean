import TurboAccess.Gateway.Backend.Footprint
import TurboAccess.Gateway.Multipart.Interleaving

/-!
# What one section can change

Every section of a call is looked at once.  `Moves` lists the sections of a
frame, and `Completes` those of a completion.  For each table of the gateway,
an inductive proposition then lists the sections that change an entry of it,
with the frames before and after; every other section leaves the entry alone.
The invariants of the interleaved gateway follow from these lists and never
unfold a section again.
-/

namespace TurboAccess
namespace Gateway
namespace Multipart

/-! ## The sections of a completion -/

/-- Taking a record needs it, and touches nothing else. -/
theorem takeMultipart_eq_some
    {store taken : MemoryIndexStore}
    {uploadId : String}
    (succeeded : store.takeMultipart uploadId = some taken) :
    taken = { store with mpu := store.mpu.erase uploadId } := by
  unfold MemoryIndexStore.takeMultipart at succeeded
  split at succeeded
  · cases succeeded
  · simpa using succeeded.symm

/-- Taking a record fails when there is none. -/
theorem takeMultipart_eq_none
    {store : MemoryIndexStore}
    {uploadId : String}
    (refused : store.takeMultipart uploadId = none) :
    store.mpu.lookup uploadId = none := by
  unfold MemoryIndexStore.takeMultipart at refused
  split at refused
  · next absent => exact absent
  · cases refused

/-- The sections of a completion that has claimed its upload: the stage, and the
state and the frame after each. -/
inductive Completes
    (options : CoordinatorOptions)
    (state : State)
    (upload : UploadPtr)
    (request : CompleteRequest)
    (now : Nat) : CompleteStage → State → Frame → Prop
  | invalid (recorded : Table Nat PartProgress) (error : Error)
      (refused : validateParts options recorded request.parts = .error error) :
      Completes options state upload request now (.claimed recorded) state
        (.completing upload request (.failing error))
  | untargeted (recorded : Table Nat PartProgress)
      (absent : state.backend.mpuTargets.lookup (state.backendId upload) =
        none) :
      Completes options state upload request now (.claimed recorded) state
        (.completing upload request (.failing CompositeBackend.targetNotFound))
  | target (recorded : Table Nat PartProgress) (bucket key : String)
      (valid : validateParts options recorded request.parts = .ok ())
      (found : state.backend.mpuTargets.lookup (state.backendId upload) =
        some (bucket, key)) :
      Completes options state upload request now (.claimed recorded) state
        (.completing upload request (.targeted bucket key))
  | unstaged (bucket key : String) :
      Completes options state upload request now (.targeted bucket key) state
        (.completing upload request (.failing MemoryDataStore.stagingNotFound))
  | detach (bucket key : String) (staging : MpuParts)
      (found : state.backend.data.mpu.lookup (state.backendId upload) =
        some staging) :
      Completes options state upload request now (.targeted bucket key)
        (state.withData { state.backend.data with
          mpu := state.backend.data.mpu.erase (state.backendId upload) })
        (.completing upload request (.detached bucket key staging))
  | missing (bucket key : String) (staging : MpuParts)
      (unsized : MemoryDataStore.assembledSize staging
        (CompositeBackend.orderedNumbers request.parts) = none) :
      Completes options state upload request now
        (.detached bucket key staging)
        (state.withData
          (state.backend.data.releaseBytes staging.reservedBytes))
        (.completing upload request (.failing MemoryDataStore.partMissing))
  | release (bucket key : String) (staging : MpuParts) (total : Nat)
      (sized : MemoryDataStore.assembledSize staging
        (CompositeBackend.orderedNumbers request.parts) = some total) :
      Completes options state upload request now
        (.detached bucket key staging)
        (state.withData
          (state.backend.data.releaseBytes staging.reservedBytes))
        (.completing upload request (.released bucket key total
          (MemoryDataStore.assembledBytes staging
            (CompositeBackend.orderedNumbers request.parts))))
  | refuse (bucket key : String) (total : Nat) (assembled : Bytes)
      (data : MemoryDataStore)
      (refused : state.backend.data.installBody (makeKey bucket key) total
        assembled = (false, data)) :
      Completes options state upload request now
        (.released bucket key total assembled) (state.withData data)
        (.completing upload request
          (.failing MemoryDataStore.capacityExceeded))
  | install (bucket key : String) (total : Nat) (assembled : Bytes)
      (data : MemoryDataStore)
      (placed : state.backend.data.installBody (makeKey bucket key) total
        assembled = (true, data)) :
      Completes options state upload request now
        (.released bucket key total assembled) (state.withData data)
        (.completing upload request (.installed bucket key total))
  | unrecorded (bucket key : String) (size : Nat)
      (absent : state.backend.index.mpu.lookup (state.backendId upload) =
        none) :
      Completes options state upload request now (.installed bucket key size)
        state
        (.completing upload request
          (.failing MemoryIndexStore.uploadNotFound))
  | take (bucket key : String) (size : Nat) :
      Completes options state upload request now (.installed bucket key size)
        (state.withIndex { state.backend.index with
          mpu := state.backend.index.mpu.erase (state.backendId upload) })
        (.completing upload request (.taken bucket key (makeMeta size now)))
  | putIndex (bucket key : String) (metadata : ObjectMetadata) :
      Completes options state upload request now (.taken bucket key metadata)
        (state.withIndex
          (state.backend.index.putObjectIndex bucket key metadata))
        (.completing upload request (.indexed metadata))
  | eraseTarget (metadata : ObjectMetadata) :
      Completes options state upload request now (.indexed metadata)
        { state with
          backend := state.backend.eraseTarget (state.backendId upload) }
        (.completing upload request (.committed metadata))
  | setCompleted (metadata : ObjectMetadata) :
      Completes options state upload request now (.committed metadata)
        (state.withStore (state.store.setState upload .completed))
        (.completing upload request (.marked metadata))
  | unregister (metadata : ObjectMetadata) :
      Completes options state upload request now (.marked metadata)
        (state.withStore
          (state.store.erase (state.store.objects upload).uploadId))
        (.finished (.completed upload metadata))
  | rollBack (error : Error) :
      Completes options state upload request now (.failing error)
        (state.withStore (state.store.setState upload .active))
        (.finished (.failed error))

/-- The next section of a completion is one of its sections. -/
theorem completes_advanceCompletion
    (options : CoordinatorOptions)
    (state : State)
    (upload : UploadPtr)
    (request : CompleteRequest)
    (now : Nat)
    (stage : CompleteStage) :
    Completes options state upload request now stage
      (advanceCompletion options state upload request now stage).1
      (advanceCompletion options state upload request now stage).2 := by
  fun_cases advanceCompletion options state upload request now stage
  case case1 recorded error refused => exact .invalid recorded error refused
  case case2 recorded valid absent => exact .untargeted recorded absent
  case case3 recorded valid bucket key found =>
    exact .target recorded bucket key valid found
  case case4 => exact .unstaged _ _
  case case5 bucket key staging data taken =>
    obtain ⟨found, rfl⟩ := MemoryDataStore.detachStaging_eq_some taken
    exact .detach bucket key staging found
  case case6 unsized => exact .missing _ _ _ unsized
  case case7 total sized => exact .release _ _ _ total sized
  case case8 data refused => exact .refuse _ _ _ _ data refused
  case case9 data placed => exact .install _ _ _ _ data placed
  case case10 refused => exact .unrecorded _ _ _ (takeMultipart_eq_none refused)
  case case11 index taken =>
    rw [takeMultipart_eq_some taken]
    exact .take _ _ _
  case case12 => exact .putIndex _ _ _
  case case13 => exact .eraseTarget _
  case case14 => exact .setCompleted _
  case case15 => exact .unregister _
  case case16 => exact .rollBack _

theorem exists_completes
    (options : CoordinatorOptions)
    (state : State)
    (upload : UploadPtr)
    (request : CompleteRequest)
    (now : Nat)
    (stage : CompleteStage) :
    ∃ next after,
      advanceCompletion options state upload request now stage =
          (next, after) ∧
        Completes options state upload request now stage next after :=
  ⟨_, _, rfl, completes_advanceCompletion _ _ _ _ _ _⟩

/-! ## The sections of a frame -/

/-- Claiming an upload needs an active one. -/
theorem claim_eq_ok
    {state claimed : State}
    {upload : UploadPtr}
    {request : CompleteRequest}
    (succeeded : state.claim upload request = .ok claimed) :
    (state.store.objects upload).state = .active ∧
      claimed = state.withStore (state.store.setState upload .completing) := by
  unfold State.claim at succeeded
  dsimp only at succeeded
  split at succeeded
  · cases succeeded
  · split at succeeded
    · cases succeeded
    · next active =>
        cases succeeded
        exact ⟨not_not.mp active, rfl⟩

/-- Marking an upload aborted needs its data flow, and nothing else. -/
theorem markAborted_eq_ok
    {state marked : State}
    {upload : UploadPtr}
    {dataPath : String}
    (succeeded : state.markAborted upload dataPath = .ok marked) :
    (state.store.objects upload).dataFlow = dataPath ∧
      marked = state.withStore (state.store.setState upload .aborted) := by
  unfold State.markAborted at succeeded
  dsimp only at succeeded
  split at succeeded
  · cases succeeded
  · next sameFlow =>
      cases succeeded
      exact ⟨not_not.mp sameFlow, rfl⟩

theorem markAborted_eq_error
    {state : State}
    {upload : UploadPtr}
    {dataPath : String}
    {error : Error}
    (refused : state.markAborted upload dataPath = .error error) :
    (state.store.objects upload).dataFlow ≠ dataPath := by
  unfold State.markAborted at refused
  dsimp only at refused
  split at refused
  · next differ => exact differ
  · cases refused

/-- The part write of a frame. -/
def writePart (state : State) (upload : UploadPtr) (part : PartWrite) :
    Result Bool × MemoryDataStore :=
  state.backend.data.writePart (state.backendId upload) part.partNumber
    part.offset part.source

/-- The sections of a frame: the frame and the state after each. -/
inductive Moves (options : CoordinatorOptions) (state : State) :
    Frame → State → Frame → Prop
  | accept (call : Call) :
      Moves options state .idle (accept state call).1 (accept state call).2
  | addTarget (params : StartUploadParams) (backendId : String) :
      Moves options state (.started params backendId)
        { state with
          backend := state.backend.addTarget backendId params.bucket
            params.objectKey }
        (.targeted params backendId)
  | create (params : StartUploadParams) (backendId : String) (now : Nat)
      (outcome : Outcome)
      (outcomeEq : outcome = .created (mpuId (state.store.seq + 1) now)
        options.maxPartSize) :
      Moves options state (.targeted params backendId)
        (state.withStore (state.store.create params backendId now).2)
        (.finished outcome)
  | refusePart (upload : UploadPtr) (part : PartWrite) (error : Error)
      (refused : (writePart state upload part).1 = .error error) :
      Moves options state (.partFound upload part)
        (state.withData (writePart state upload part).2)
        (.finished (.failed error))
  | writePart (upload : UploadPtr) (part : PartWrite) (now : Nat)
      (reply : Bool)
      (written : (writePart state upload part).1 = .ok reply) :
      Moves options state (.partFound upload part)
        (state.withData (writePart state upload part).2)
        (.partWritten upload part
          (makePartEtag part.partNumber part.source.length now))
  | registerPart (upload : UploadPtr) (part : PartWrite) (etag : String)
      (now : Nat) :
      Moves options state (.partWritten upload part etag)
        (state.registerPart upload part.partNumber part.offset
          part.source.length etag now)
        (.finished (.partUploaded upload part etag))
  | refuseClaim (upload : UploadPtr) (request : CompleteRequest)
      (error : Error) :
      Moves options state (.completeFound upload request) state
        (.finished (.failed error))
  | claim (upload : UploadPtr) (request : CompleteRequest)
      (active : (state.store.objects upload).state = .active) :
      Moves options state (.completeFound upload request)
        (state.withStore (state.store.setState upload .completing))
        (.completing upload request
          (.claimed (state.store.objects upload).parts))
  | complete (upload : UploadPtr) (request : CompleteRequest)
      (stage : CompleteStage) (now : Nat) :
      Moves options state (.completing upload request stage)
        (advanceCompletion options state upload request now stage).1
        (advanceCompletion options state upload request now stage).2
  | refuseAbort (upload : UploadPtr) (dataPath : String) (error : Error)
      (differ : (state.store.objects upload).dataFlow ≠ dataPath) :
      Moves options state (.abortFound upload dataPath) state
        (.finished (.failed error))
  | markAborted (upload : UploadPtr) (dataPath : String)
      (sameFlow : (state.store.objects upload).dataFlow = dataPath) :
      Moves options state (.abortFound upload dataPath)
        (state.withStore (state.store.setState upload .aborted))
        (.aborting upload .call .marked)
  | abort (upload : UploadPtr) (origin : AbortOrigin) (stage : AbortStage) :
      Moves options state (.aborting upload origin stage)
        (advanceAbort state upload origin stage).1
        (advanceAbort state upload origin stage).2
  | unregister (upload : UploadPtr) :
      Moves options state (.unregistering upload)
        (state.withStore
          (state.store.erase (state.store.objects upload).uploadId))
        (.finished (.aborted upload))
  | visit (now : Nat) (expired : List UploadPtr) (uploadId : String) :
      Moves options state (.scanning now expired)
        (state.withStore (state.store.sweepOne now uploadId).2)
        (.scanning now
          (expired ++ (state.store.sweepOne now uploadId).1.toList))
  | endScan (now : Nat) (expired : List UploadPtr) :
      Moves options state (.scanning now expired) state (.sweeping [] expired)
  | endSweep (swept : List UploadPtr) :
      Moves options state (.sweeping swept []) state
        (.finished (.swept swept))
  | sweepNext (swept : List UploadPtr) (upload : UploadPtr)
      (pending : List UploadPtr) :
      Moves options state (.sweeping swept (upload :: pending))
        (state.withStore (state.store.setState upload .aborted))
        (.aborting upload (.sweeper swept pending) .marked)
  | putIndex (bucket key : String) (size now : Nat) (outcome : Outcome)
      (outcomeEq : outcome = .stored (makeMeta size now)) :
      Moves options state (.storing bucket key size)
        (state.withIndex (state.backend.index.putObjectIndex bucket key
          (makeMeta size now)))
        (.finished outcome)

/-- A step of a frame is one of its sections. -/
theorem moves_of_advance
    {options : CoordinatorOptions}
    {state next : State}
    {before after : Frame}
    {input : Input}
    (moved : advance options state before input = some (next, after)) :
    Moves options state before next after := by
  revert moved
  fun_cases advance options state before input
  all_goals
    intro moved
    simp only [Option.some.injEq, Prod.mk.injEq, reduceCtorEq] at moved
  case case1 call =>
    have accepted : Moves options state .idle _ _ := .accept call
    rw [moved] at accepted
    exact accepted
  case case9 upload request stage now =>
    have completed : Moves options state _ _ _ :=
      .complete upload request stage now
    rw [moved] at completed
    exact completed
  case case12 upload origin stage now =>
    have aborted : Moves options state _ _ _ := .abort upload origin stage
    rw [moved] at aborted
    exact aborted
  all_goals obtain ⟨rfl, rfl⟩ := moved
  case case2 => exact .addTarget _ _
  case case3 created =>
    cases created
    refine .create _ _ _ _ ?_
    simp
  case case4 upload part now error backend written =>
    obtain ⟨refused, rfl⟩ := CompositeBackend.writePart_eq_error written
    exact .refusePart upload part error refused
  case case5 upload part now etag backend written =>
    obtain ⟨⟨reply, succeeded⟩, rfl, rfl⟩ :=
      CompositeBackend.writePart_eq_ok written
    exact .writePart upload part now reply succeeded
  case case6 => exact .registerPart _ _ _ _
  case case7 => exact .refuseClaim _ _ _
  case case8 claimed =>
    obtain ⟨active, rfl⟩ := claim_eq_ok claimed
    exact .claim _ _ active
  case case10 refused => exact .refuseAbort _ _ _ (markAborted_eq_error refused)
  case case11 marked =>
    obtain ⟨sameFlow, rfl⟩ := markAborted_eq_ok marked
    exact .markAborted _ _ sameFlow
  case case13 => exact .unregister _
  case case14 now expired uploadId found store examined =>
    have visited : Moves options state _ _ _ := .visit now expired uploadId
    rw [examined] at visited
    exact visited
  case case15 => exact .endScan _ _
  case case16 => exact .endSweep _
  case case17 => exact .sweepNext _ _ _
  case case18 => exact .putIndex _ _ _ _ _ rfl

variable
  {options : CoordinatorOptions}
  {state next : State}
  {before after : Frame}

/-- An idle frame moves on a call only. -/
theorem advance_idle
    {input : Input}
    (moved : advance options state .idle input = some (next, after)) :
    ∃ call, input = .call call ∧ accept state call = (next, after) := by
  cases input with
  | call call => exact ⟨call, rfl, Option.some.inj moved⟩
  | clock | visit => cases moved

/-! ## Uploads -/

/-- Changes of one upload. -/
inductive UploadChange (object : MultipartUpload) (upload : UploadPtr) :
    Frame → Frame → MultipartUpload → Prop
  | unchanged {before after : Frame} :
      UploadChange object upload before after object
  | registered (part : PartWrite) (etag : String) (now : Nat) :
      UploadChange object upload
        (.partWritten upload part etag)
        (.finished (.partUploaded upload part etag))
        { object with
          parts := object.parts.insert part.partNumber
            ⟨part.partNumber, part.offset, part.source.length, etag⟩
          lastActivityAt := now }
  | claimed (request : CompleteRequest)
      (active : object.state = .active) :
      UploadChange object upload
        (.completeFound upload request)
        (.completing upload request (.claimed object.parts))
        { object with state := .completing }
  | rolledBack (request : CompleteRequest) (error : Error) :
      UploadChange object upload
        (.completing upload request (.failing error))
        (.finished (.failed error))
        { object with state := .active }
  | completed (request : CompleteRequest) (metadata : ObjectMetadata) :
      UploadChange object upload
        (.completing upload request (.committed metadata))
        (.completing upload request (.marked metadata))
        { object with state := .completed }
  | aborted {before : Frame} (origin : AbortOrigin)
      (marks : (∃ dataPath, before = .abortFound upload dataPath) ∨
        ∃ swept pending, before = .sweeping swept (upload :: pending)) :
      UploadChange object upload before (.aborting upload origin .marked)
        { object with state := .aborted }

/-- Setting the state of one upload leaves all others alone. -/
theorem objects_setState
    (store : MultipartStore)
    (upload other : UploadPtr)
    (value : UploadState) :
    (store.setState upload value).objects other =
      if other = upload then { store.objects upload with state := value }
      else store.objects other := by
  simp only [MultipartStore.setState, MultipartStore.modify,
    Function.update_apply]

/-- A change of state that is the change of its own upload is a change of
every upload. -/
private theorem UploadChange.setState
    {store : MultipartStore}
    {mover : UploadPtr}
    {value : UploadState}
    (own : UploadChange (store.objects mover) mover before after
      { store.objects mover with state := value })
    (upload : UploadPtr) :
    UploadChange (store.objects upload) upload before after
      ((store.setState mover value).objects upload) := by
  rw [objects_setState]
  split
  · next same =>
      subst same
      exact own
  · exact .unchanged

/-- The first section of a call leaves the registry alone. -/
@[simp] theorem accept_store (state : State) (call : Call) :
    (accept state call).1.store = state.store := by
  fun_cases accept state call <;> rfl

/-- The registry after a section of a completion. -/
theorem advanceCompletion_store
    (options : CoordinatorOptions)
    (state : State)
    (upload : UploadPtr)
    (request : CompleteRequest)
    (now : Nat)
    (stage : CompleteStage) :
    (advanceCompletion options state upload request now stage).1.store =
      match stage with
      | .committed _ => state.store.setState upload .completed
      | .marked _ => state.store.erase (state.store.objects upload).uploadId
      | .failing _ => state.store.setState upload .active
      | _ => state.store := by
  fun_cases advanceCompletion options state upload request now stage <;> rfl

/-- Aborting in the backend leaves the registry alone. -/
@[simp] theorem advanceAbort_store
    (state : State)
    (upload : UploadPtr)
    (origin : AbortOrigin)
    (stage : AbortStage) :
    (advanceAbort state upload origin stage).1.store = state.store := by
  cases stage <;> rfl

/-- Examining a registry entry changes no upload. -/
theorem sweepOne_objects
    (store : MultipartStore)
    (now : Nat)
    (uploadId : String) :
    (store.sweepOne now uploadId).2.objects = store.objects := by
  unfold MultipartStore.sweepOne
  split
  · rfl
  · split <;> rfl

/-- What one section can do to an upload that exists. -/
theorem Moves.uploadChange
    (moves : Moves options state before next after)
    {upload : UploadPtr}
    (allocated : upload < state.store.allocated) :
    UploadChange (state.store.objects upload) upload before after
      (next.store.objects upload) := by
  cases moves with
  | accept call =>
      rw [accept_store]
      exact .unchanged
  | addTarget | refusePart | writePart | refuseClaim | refuseAbort
  | unregister | endScan | endSweep | putIndex => exact .unchanged
  | create params backendId now =>
      have older : upload ≠ state.store.allocated := Nat.ne_of_lt allocated
      simp only [State.withStore_store, MultipartStore.create,
        Function.update_of_ne older]
      exact .unchanged
  | registerPart mover part etag now =>
      simp only [State.registerPart, MultipartStore.modify,
        Function.update_apply]
      split
      · next same =>
          subst same
          exact .registered part etag now
      · exact .unchanged
  | claim mover request active =>
      exact UploadChange.setState (.claimed request active) upload
  | complete mover request stage now =>
      rw [advanceCompletion_store]
      cases stage with
      | committed metadata =>
          exact UploadChange.setState (.completed request metadata) upload
      | failing error =>
          exact UploadChange.setState (.rolledBack request error) upload
      | claimed | targeted | detached | released | installed | taken
      | indexed | marked => exact .unchanged
  | markAborted mover dataPath sameFlow =>
      exact UploadChange.setState
        (.aborted .call (.inl ⟨dataPath, rfl⟩)) upload
  | abort mover origin stage =>
      rw [advanceAbort_store]
      exact .unchanged
  | visit now expired uploadId =>
      rw [State.withStore_store, sweepOne_objects]
      exact .unchanged
  | sweepNext swept mover pending =>
      exact UploadChange.setState
        (.aborted _ (.inr ⟨swept, pending, rfl⟩)) upload

/-- What identifies an upload never changes. -/
theorem UploadChange.identity
    {object changed : MultipartUpload}
    {upload : UploadPtr}
    (change : UploadChange object upload before after changed) :
    changed.uploadId = object.uploadId ∧
      changed.backendUploadId = object.backendUploadId ∧
      changed.dataFlow = object.dataFlow := by
  cases change <;> exact ⟨rfl, rfl, rfl⟩

/-- The recorded parts of an upload change only when a part is recorded. -/
theorem Moves.parts_eq
    (moves : Moves options state before next after)
    {upload : UploadPtr}
    (allocated : upload < state.store.allocated)
    (other : ∀ part etag, before ≠ .partWritten upload part etag) :
    (next.store.objects upload).parts = (state.store.objects upload).parts := by
  have change := moves.uploadChange allocated
  generalize next.store.objects upload = changed at change
  cases change with
  | registered part etag now => exact absurd rfl (other part etag)
  | unchanged | claimed | rolledBack | completed | aborted => rfl

/-! ## Stagings -/

/-- Changes of one staging. -/
inductive StagingChange (state : State) (key : String) :
    Frame → Frame → Option MpuParts → Prop
  | unchanged {before after : Frame} :
      StagingChange state key before after (state.backend.data.mpu.lookup key)
  | written (upload : UploadPtr) (part : PartWrite) (now : Nat)
      (reply : Bool)
      (owns : state.backendId upload = key)
      (succeeded : (writePart state upload part).1 = .ok reply) :
      StagingChange state key (.partFound upload part)
        (.partWritten upload part
          (makePartEtag part.partNumber part.source.length now))
        ((writePart state upload part).2.mpu.lookup key)
  | refused (upload : UploadPtr) (part : PartWrite) (error : Error)
      (owns : state.backendId upload = key)
      (failed : (writePart state upload part).1 = .error error) :
      StagingChange state key (.partFound upload part)
        (.finished (.failed error))
        ((writePart state upload part).2.mpu.lookup key)
  | detached (upload : UploadPtr) (request : CompleteRequest)
      (bucket object : String) (staging : MpuParts)
      (owns : state.backendId upload = key)
      (found : state.backend.data.mpu.lookup key = some staging) :
      StagingChange state key
        (.completing upload request (.targeted bucket object))
        (.completing upload request (.detached bucket object staging)) none
  | aborted (upload : UploadPtr) (origin : AbortOrigin)
      (owns : state.backendId upload = key) :
      StagingChange state key (.aborting upload origin .marked)
        (.aborting upload origin .dataAborted) none

/-- The first section of a call leaves the stagings alone. -/
@[simp] theorem accept_mpu (state : State) (call : Call) :
    (accept state call).1.backend.data.mpu = state.backend.data.mpu := by
  cases call with
  | createUpload | uploadPart | completeUpload | abortUpload | sweep =>
      unfold accept
      dsimp only
      repeat' split
      all_goals rfl
  | writeRange bucket key offset source totalSize =>
      rw [← state.backend.data.writeRange_mpu bucket key offset source
        totalSize]
      unfold accept
      dsimp only
      split <;> next written => rw [written]; rfl
  | reserve bucket key totalSize =>
      rw [← state.backend.data.reserve_mpu bucket key totalSize]
      unfold accept
      dsimp only
      split <;> next reserved => rw [reserved]; rfl

/-- What one section can do to a staging. -/
theorem Moves.stagingChange
    (moves : Moves options state before next after)
    (key : String) :
    StagingChange state key before after
      (next.backend.data.mpu.lookup key) := by
  cases moves with
  | accept call =>
      rw [accept_mpu]
      exact .unchanged
  | addTarget | create | registerPart | refuseClaim | claim | refuseAbort
  | markAborted | unregister | visit | endScan | endSweep | sweepNext
  | putIndex => exact .unchanged
  | refusePart upload part error refused =>
      by_cases owns : state.backendId upload = key
      · exact .refused upload part error owns refused
      · rw [State.withData_data, Multipart.writePart,
          state.backend.data.lookup_writePart_of_ne _ _ _ (Ne.symm owns)]
        exact .unchanged
  | writePart upload part now reply written =>
      by_cases owns : state.backendId upload = key
      · exact .written upload part now reply owns written
      · rw [State.withData_data, Multipart.writePart,
          state.backend.data.lookup_writePart_of_ne _ _ _ (Ne.symm owns)]
        exact .unchanged
  | complete upload request stage now =>
      obtain ⟨next, after, result, completes⟩ :=
        exists_completes options state upload request now stage
      rw [result]
      cases completes with
      | detach bucket object staging found =>
          simp only [State.withData_data, Table.lookup_erase_eq]
          split
          · next same =>
              subst same
              exact .detached upload request bucket object staging rfl found
          · exact .unchanged
      | missing | release =>
          rw [State.withData_data, MemoryDataStore.releaseBytes_mpu]
          exact .unchanged
      | refuse _ _ _ _ data placed | install _ _ _ _ data placed =>
          rw [State.withData_data, MemoryDataStore.mpu_of_installBody placed]
          exact .unchanged
      | invalid | untargeted | target | unstaged | unrecorded | take
      | putIndex | eraseTarget | setCompleted | unregister | rollBack =>
          exact .unchanged
  | abort upload origin stage =>
      cases stage with
      | marked =>
          simp only [advanceAbort, State.withData_data,
            MemoryDataStore.abortMultipartData_mpu, Table.lookup_erase_eq]
          split
          · next same => exact .aborted upload origin same.symm
          · exact .unchanged
      | dataAborted | indexAborted => exact .unchanged

/-! ## The registry -/

/-- Changes of one registry entry. -/
inductive RegistryChange (state : State) (uploadId : String) :
    Frame → Frame → Option UploadPtr → Prop
  | unchanged {before after : Frame} :
      RegistryChange state uploadId before after
        (state.store.byId.lookup uploadId)
  | created {after : Frame} (params : StartUploadParams)
      (backendId : String) (now : Nat)
      (fresh : uploadId = mpuId (state.store.seq + 1) now) :
      RegistryChange state uploadId (.targeted params backendId) after
        (some ((state.store.byId.lookup uploadId).getD
          state.store.allocated))
  | completed (upload : UploadPtr) (request : CompleteRequest)
      (metadata : ObjectMetadata)
      (owns : (state.store.objects upload).uploadId = uploadId) :
      RegistryChange state uploadId
        (.completing upload request (.marked metadata))
        (.finished (.completed upload metadata)) none
  | aborted (upload : UploadPtr)
      (owns : (state.store.objects upload).uploadId = uploadId) :
      RegistryChange state uploadId (.unregistering upload)
        (.finished (.aborted upload)) none
  | expired (now : Nat) (expired : List UploadPtr) (upload : UploadPtr)
      (found : state.store.byId.lookup uploadId = some upload) :
      RegistryChange state uploadId (.scanning now expired)
        (.scanning now (expired ++ [upload])) none

/-- Examining an entry returns it when it has expired, and then drops it. -/
theorem sweepOne_cases
    (store : MultipartStore)
    (now : Nat)
    (uploadId : String) :
    store.sweepOne now uploadId = (none, store) ∨
      ∃ upload, store.byId.lookup uploadId = some upload ∧
        store.sweepOne now uploadId = (some upload, store.erase uploadId) := by
  unfold MultipartStore.sweepOne
  split
  · exact .inl rfl
  · next upload found =>
      split
      · exact .inr ⟨upload, found, rfl⟩
      · exact .inl rfl

/-- What one section can do to a registry entry. -/
theorem Moves.registryChange
    (moves : Moves options state before next after)
    (uploadId : String) :
    RegistryChange state uploadId before after
      (next.store.byId.lookup uploadId) := by
  cases moves with
  | accept call =>
      rw [accept_store]
      exact .unchanged
  | addTarget | refusePart | writePart | registerPart | refuseClaim | claim
  | refuseAbort | markAborted | endScan | endSweep | sweepNext | putIndex =>
      exact .unchanged
  | create params backendId now outcome outcomeEq =>
      simp only [State.withStore_store, MultipartStore.create,
        Table.lookup_emplace_eq]
      split
      · next fresh =>
          subst fresh
          exact .created params backendId now rfl
      · exact .unchanged
  | complete upload request stage now =>
      obtain ⟨next, after, result, completes⟩ :=
        exists_completes options state upload request now stage
      rw [result]
      cases completes with
      | unregister metadata =>
          simp only [State.withStore_store, MultipartStore.erase,
            Table.lookup_erase_eq]
          split
          · next same => exact .completed upload request metadata same.symm
          · exact .unchanged
      | invalid | untargeted | target | unstaged | detach | missing | release
      | refuse | install | unrecorded | take | putIndex | eraseTarget
      | setCompleted | rollBack => exact .unchanged
  | abort upload origin stage =>
      rw [advanceAbort_store]
      exact .unchanged
  | unregister upload =>
      simp only [State.withStore_store, MultipartStore.erase,
        Table.lookup_erase_eq]
      split
      · next same => exact .aborted upload same.symm
      · exact .unchanged
  | visit now expired visited =>
      rcases sweepOne_cases state.store now visited with
        kept | ⟨upload, found, swept⟩
      · rw [kept]
        exact .unchanged
      · rw [swept]
        simp only [State.withStore_store, MultipartStore.erase,
          Table.lookup_erase_eq]
        split
        · next same =>
            subst same
            exact .expired now expired upload found
        · exact .unchanged

/-! ## Counters -/

/-- Changes of the number of uploads and of the identifiers in use. -/
inductive Allocation (state : State) : Frame → State → Frame → Prop
  | unchanged {before after : Frame} {next : State}
      (allocated : next.store.allocated = state.store.allocated)
      (seq : next.store.seq = state.store.seq) :
      Allocation state before next after
  | created (params : StartUploadParams) (backendId : String) (now : Nat)
      (outcome : Outcome) :
      Allocation state (.targeted params backendId)
        (state.withStore (state.store.create params backendId now).2)
        (.finished outcome)

/-- What one section can allocate. -/
theorem Moves.allocation (moves : Moves options state before next after) :
    Allocation state before next after := by
  cases moves with
  | accept call => exact .unchanged (by rw [accept_store]) (by rw [accept_store])
  | addTarget | refusePart | writePart | registerPart | refuseClaim | claim
  | refuseAbort | markAborted | unregister | endScan | endSweep | sweepNext
  | putIndex => exact .unchanged rfl rfl
  | create params backendId now outcome =>
      exact .created params backendId now outcome
  | complete upload request stage now =>
      refine .unchanged ?_ ?_ <;>
        rw [advanceCompletion_store] <;> cases stage <;> rfl
  | abort upload origin stage =>
      refine .unchanged ?_ ?_ <;> rw [advanceAbort_store]
  | visit now expired uploadId =>
      rcases sweepOne_cases state.store now uploadId with
        kept | ⟨upload, _, swept⟩
      · rw [kept]
        exact .unchanged rfl rfl
      · rw [swept]
        exact .unchanged rfl rfl

/-- No section takes an upload back. -/
theorem Moves.allocated_le (moves : Moves options state before next after) :
    state.store.allocated ≤ next.store.allocated := by
  cases moves.allocation with
  | unchanged allocated => exact allocated.ge
  | created => exact Nat.le_succ _

/-! ## Index records of uploads -/

/-- Changes of the index record of one upload. -/
inductive RecordChange (state : State) (key : String) :
    Frame → Frame → Option MpuRecord → Prop
  | unchanged {before after : Frame} :
      RecordChange state key before after
        (state.backend.index.mpu.lookup key)
  | opened (params : StartUploadParams) (now : Nat) (record : MpuRecord)
      (fresh : key = mpuId (state.backend.index.mpuSeq + 1) now) :
      RecordChange state key .idle (.started params key) (some record)
  | taken (upload : UploadPtr) (request : CompleteRequest)
      (bucket object : String) (size now : Nat)
      (owns : state.backendId upload = key) :
      RecordChange state key
        (.completing upload request (.installed bucket object size))
        (.completing upload request
          (.taken bucket object (makeMeta size now))) none
  | aborted (upload : UploadPtr) (origin : AbortOrigin)
      (owns : state.backendId upload = key) :
      RecordChange state key (.aborting upload origin .dataAborted)
        (.aborting upload origin .indexAborted) none

/-- The first section of a call other than a creation leaves the index
alone. -/
theorem accept_index
    (state : State)
    (call : Call)
    (opensNothing : ∀ params now, call ≠ .createUpload params now) :
    (accept state call).1.backend.index = state.backend.index := by
  cases call with
  | createUpload params now => exact absurd rfl (opensNothing params now)
  | uploadPart | completeUpload | abortUpload | sweep | writeRange
  | reserve =>
      unfold accept
      dsimp only
      repeat' split
      all_goals rfl

/-- What one section can do to the index record of an upload. -/
theorem Moves.recordChange
    (moves : Moves options state before next after)
    (key : String) :
    RecordChange state key before after
      (next.backend.index.mpu.lookup key) := by
  cases moves with
  | accept call =>
      cases call with
      | createUpload params now =>
          simp only [Multipart.accept, MemoryIndexStore.startMultipart,
            State.withIndex_index, Table.lookup_emplace_eq]
          split
          · next fresh =>
              rw [← fresh]
              exact .opened params now _ fresh
          · exact .unchanged
      | uploadPart | completeUpload | abortUpload | sweep | writeRange
      | reserve =>
          rw [accept_index _ _ (by simp)]
          exact .unchanged
  | addTarget | create | refusePart | writePart | registerPart | refuseClaim
  | claim | refuseAbort | markAborted | unregister | visit | endScan
  | endSweep | sweepNext | putIndex => exact .unchanged
  | complete upload request stage now =>
      obtain ⟨next, after, result, completes⟩ :=
        exists_completes options state upload request now stage
      rw [result]
      cases completes with
      | take bucket object size =>
          simp only [State.withIndex_index, Table.lookup_erase_eq]
          split
          · next same =>
              exact .taken upload request bucket object size now same.symm
          · exact .unchanged
      | invalid | untargeted | target | unstaged | detach | missing | release
      | refuse | install | unrecorded | putIndex | eraseTarget | setCompleted
      | unregister | rollBack => exact .unchanged
  | abort upload origin stage =>
      cases stage with
      | dataAborted =>
          simp only [advanceAbort, State.withIndex_index,
            MemoryIndexStore.abortMultipart, Table.lookup_erase_eq]
          split
          · next same => exact .aborted upload origin same.symm
          · exact .unchanged
      | marked | indexAborted => exact .unchanged

/-! ## Destinations of uploads -/

/-- Changes of the destination of one upload. -/
inductive TargetChange (state : State) (key : String) :
    Frame → Frame → Option (String × String) → Prop
  | unchanged {before after : Frame} :
      TargetChange state key before after
        (state.backend.mpuTargets.lookup key)
  | added (params : StartUploadParams) :
      TargetChange state key (.started params key) (.targeted params key)
        (some ((state.backend.mpuTargets.lookup key).getD
          (params.bucket, params.objectKey)))
  | completed (upload : UploadPtr) (request : CompleteRequest)
      (metadata : ObjectMetadata)
      (owns : state.backendId upload = key) :
      TargetChange state key
        (.completing upload request (.indexed metadata))
        (.completing upload request (.committed metadata)) none
  | aborted {after : Frame} (upload : UploadPtr) (origin : AbortOrigin)
      (owns : state.backendId upload = key) :
      TargetChange state key (.aborting upload origin .indexAborted) after
        none

/-- The first section of a call leaves the destinations alone. -/
@[simp] theorem accept_mpuTargets (state : State) (call : Call) :
    (accept state call).1.backend.mpuTargets = state.backend.mpuTargets := by
  fun_cases accept state call <;> rfl

/-- What one section can do to the destination of an upload. -/
theorem Moves.targetChange
    (moves : Moves options state before next after)
    (key : String) :
    TargetChange state key before after
      (next.backend.mpuTargets.lookup key) := by
  cases moves with
  | accept call =>
      rw [accept_mpuTargets]
      exact .unchanged
  | create | refusePart | writePart | registerPart | refuseClaim | claim
  | refuseAbort | markAborted | unregister | visit | endScan | endSweep
  | sweepNext | putIndex => exact .unchanged
  | addTarget params backendId =>
      simp only [CompositeBackend.addTarget, Table.lookup_emplace_eq]
      split
      · next same =>
          subst same
          exact .added params
      · exact .unchanged
  | complete upload request stage now =>
      obtain ⟨next, after, result, completes⟩ :=
        exists_completes options state upload request now stage
      rw [result]
      cases completes with
      | eraseTarget metadata =>
          simp only [CompositeBackend.eraseTarget, Table.lookup_erase_eq]
          split
          · next same => exact .completed upload request metadata same.symm
          · exact .unchanged
      | invalid | untargeted | target | unstaged | detach | missing | release
      | refuse | install | unrecorded | take | putIndex | setCompleted
      | unregister | rollBack => exact .unchanged
  | abort upload origin stage =>
      cases stage with
      | indexAborted =>
          simp only [advanceAbort, CompositeBackend.eraseTarget,
            Table.lookup_erase_eq]
          by_cases same : key = state.backendId upload
          · rw [if_pos same]
            exact .aborted upload origin same.symm
          · rw [if_neg same]
            exact .unchanged
      | marked | dataAborted => exact .unchanged

/-! ## The counter of the index -/

/-- Changes of the counter of the index. -/
inductive Opening (state : State) : Frame → State → Frame → Prop
  | unchanged {before after : Frame} {next : State}
      (mpuSeq : next.backend.index.mpuSeq = state.backend.index.mpuSeq) :
      Opening state before next after
  | opened {next : State} (params : StartUploadParams) (now : Nat)
      (mpuSeq : next.backend.index.mpuSeq = state.backend.index.mpuSeq + 1) :
      Opening state .idle next
        (.started params (mpuId (state.backend.index.mpuSeq + 1) now))

/-- What one section can open in the index. -/
theorem Moves.opening (moves : Moves options state before next after) :
    Opening state before next after := by
  cases moves with
  | accept call =>
      cases call with
      | createUpload params now => exact .opened params now rfl
      | uploadPart | completeUpload | abortUpload | sweep | writeRange
      | reserve => exact .unchanged (by rw [accept_index _ _ (by simp)])
  | addTarget | create | refusePart | writePart | registerPart | refuseClaim
  | claim | refuseAbort | markAborted | unregister | visit | endScan
  | endSweep | sweepNext | putIndex => exact .unchanged rfl
  | complete upload request stage now =>
      obtain ⟨next, after, result, completes⟩ :=
        exists_completes options state upload request now stage
      rw [result]
      cases completes <;> exact .unchanged rfl
  | abort upload origin stage => cases stage <;> exact .unchanged rfl

/-! ## Runs -/

/-- A step of the gateway is a section of one of its frames. -/
theorem moves_of_step
    {pool later : Pool State Frame}
    {label : Nat × Input}
    (stepped : (machine options).step pool label = some later) :
    ∃ shared frame,
      Moves options pool.shared (pool.threads label.1) shared frame ∧
        later = ⟨shared, Function.update pool.threads label.1 frame⟩ := by
  obtain ⟨shared, frame, moved, rfl⟩ := Pool.step_eq_some stepped
  exact ⟨shared, frame, moves_of_advance moved, rfl⟩

/-- A completion that is rolling back, or a call that has failed. -/
def Frame.fails : Frame → Bool
  | .completing _ _ (.failing _) => true
  | .finished (.failed _) => true
  | _ => false

/-- A call that fails does nothing but fail. -/
theorem Moves.fails
    (moves : Moves options state before next after)
    (failing : before.fails = true) :
    after.fails = true := by
  cases moves with
  | complete upload request stage now =>
      cases stage <;> simp_all [Frame.fails, advanceCompletion]
  | accept | addTarget | create | refusePart | writePart | registerPart
  | refuseClaim | claim | refuseAbort | markAborted | abort | unregister
  | visit | endScan | endSweep | sweepNext | putIndex =>
      simp [Frame.fails] at failing

/-- A call that fails in a run has failed at its end. -/
theorem fails_of_path
    {guard : Pool State Frame → Nat × Input → Prop}
    {start finish : Pool State Frame}
    {labels : List (Nat × Input)}
    (path : (machine options).Path guard start labels finish)
    (thread : Nat)
    (failing : (start.threads thread).fails = true) :
    (finish.threads thread).fails = true := by
  induction path with
  | nil => exact failing
  | @cons _ _ _ label _ _ stepped _ inductionHypothesis =>
      obtain ⟨shared, frame, moves, rfl⟩ := moves_of_step stepped
      apply inductionHypothesis
      by_cases moving : thread = label.1
      · subst moving
        simpa using moves.fails failing
      · simpa [Function.update_of_ne moving] using failing

end Multipart
end Gateway
end TurboAccess
