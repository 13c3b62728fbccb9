import TurboAccess.Gateway.Multipart.Identifiers

/-!
# Staged parts

The bytes staged for one part of an upload, and what one section can do to
them: a part write replaces them, the completion that detaches the staging and
an abort remove them, and every other section leaves them alone.
-/

namespace TurboAccess
namespace Gateway
namespace Multipart

/-- A part that has been written and is not yet recorded. -/
def Frame.recording : Frame → Option (UploadPtr × Nat)
  | .partWritten upload part _ => some (upload, part.partNumber)
  | _ => none

theorem Frame.mem_uploads_of_recording
    {frame : Frame}
    {upload : UploadPtr}
    {partNumber : Nat}
    (records : frame.recording = some (upload, partNumber)) :
    upload ∈ frame.uploads := by
  revert records
  fun_cases Frame.recording frame <;> simp +contextual [uploads, eq_comm]

/-- Bytes staged for one part of an upload. -/
def stagedPart (state : State) (upload : UploadPtr) (partNumber : Nat) :
    Option Bytes :=
  (state.backend.data.mpu.lookup (state.backendId upload)).bind
    fun staging => staging.parts.lookup partNumber

variable
  {options : CoordinatorOptions}
  {state next : State}
  {before after : Frame}

private theorem lookup_staging
    (state : State)
    (upload : UploadPtr)
    (partNumber : Nat) :
    (state.backend.data.staging
        (state.backendId upload)).parts.lookup partNumber =
      stagedPart state upload partNumber := by
  unfold MemoryDataStore.staging stagedPart
  cases state.backend.data.mpu.lookup (state.backendId upload) <;> rfl

/-- The bytes staged of a part, none when nothing is. -/
theorem part_staging
    (state : State)
    (upload : UploadPtr)
    (partNumber : Nat) :
    (state.backend.data.staging (state.backendId upload)).part partNumber =
      (stagedPart state upload partNumber).getD [] := by
  rw [MpuParts.part, lookup_staging]

/-- Part writes that stage their bytes as they were sent. -/
def Covers (state : State) (frame : Frame) : Prop :=
  ∀ upload part, frame = .partFound upload part →
    part.offset = 0 ∧ part.source.length < wordModulus ∧
      ((stagedPart state upload part.partNumber).getD []).length ≤
        part.source.length

/-- The staged parts after a whole part was written. -/
theorem stagedPart_written
    {upload : UploadPtr}
    {part : PartWrite}
    {reply : Bool}
    (covers : Covers state (.partFound upload part))
    (succeeded : (writePart state upload part).1 = .ok reply)
    (partNumber : Nat) :
    stagedPart (state.withData (writePart state upload part).2) upload
        partNumber =
      if partNumber = part.partNumber then some part.source
      else stagedPart state upload partNumber := by
  obtain ⟨offset, bounded, fits⟩ := covers upload part rfl
  unfold writePart at succeeded ⊢
  rw [offset] at succeeded ⊢
  rw [← part_staging] at fits
  obtain ⟨reservedBytes, found⟩ :=
    MemoryDataStore.writePart_whole succeeded fits bounded
  have key : (state.withData (state.backend.data.writePart
      (state.backendId upload) part.partNumber 0 part.source).2).backendId
        upload = state.backendId upload := rfl
  rw [stagedPart, key, State.withData_data, found]
  simp only [Option.bind_some, Table.lookup_insert_eq, lookup_staging]

/-- The staged parts after a part write was refused. -/
theorem stagedPart_refused
    {upload : UploadPtr}
    {part : PartWrite}
    {error : Error}
    (failed : (writePart state upload part).1 = .error error)
    (partNumber : Nat) :
    stagedPart (state.withData (writePart state upload part).2) upload
        partNumber =
      if partNumber = part.partNumber then
        some ((stagedPart state upload partNumber).getD [])
      else stagedPart state upload partNumber := by
  unfold writePart at failed ⊢
  have found := MemoryDataStore.writePart_refused failed
  have key : (state.withData (state.backend.data.writePart
      (state.backendId upload) part.partNumber part.offset
        part.source).2).backendId upload = state.backendId upload := rfl
  rw [stagedPart, key, State.withData_data, found]
  simp only [Option.bind_some, Table.lookup_insert_eq, lookup_staging,
    part_staging]
  split
  · next same => rw [same]
  · rfl

/-- Recording a part changes the recorded parts and the clock of its upload. -/
theorem objects_registerPart
    (state : State)
    (upload : UploadPtr)
    (number offset size now : Nat)
    (etag : String) :
    (state.registerPart upload number offset size etag now).store.objects
        upload =
      { state.store.objects upload with
        parts := (state.store.objects upload).parts.insert number
          ⟨number, offset, size, etag⟩
        lastActivityAt := now } :=
  Function.update_self _ _ _

/-- Recording a part stages nothing. -/
theorem stagedPart_registerPart
    (state : State)
    (upload mover : UploadPtr)
    (partNumber number offset size now : Nat)
    (etag : String) :
    stagedPart (state.registerPart mover number offset size etag now) upload
        partNumber =
      stagedPart state upload partNumber := by
  have key : (state.registerPart mover number offset size etag now).backendId
      upload = state.backendId upload := by
    simp only [State.registerPart, State.backendId, MultipartStore.modify,
      Function.update_apply]
    split
    · next same => rw [same]
    · rfl
  rw [stagedPart, key]
  rfl

/-- A staged part was staged before, or has just been written, or is the empty
part a refused write has left. -/
theorem Moves.stagedPart_cases
    (moves : Moves options state before next after)
    (identified : Identified state)
    (frame : FrameIdentified state before)
    (covers : Covers state before)
    {upload : UploadPtr}
    {partNumber : Nat}
    {bytes : Bytes}
    (allocated : upload < state.store.allocated)
    (staged : stagedPart next upload partNumber = some bytes) :
    stagedPart state upload partNumber = some bytes ∨
      ∃ part, before = .partFound upload part ∧
        part.partNumber = partNumber ∧
        ((∃ etag, after = .partWritten upload part etag) ∧
            bytes = part.source ∨
          (∃ error, (Multipart.writePart state upload part).1 =
              .error error) ∧
            stagedPart state upload partNumber = none ∧ bytes = []) := by
  have change := moves.stagingChange (state.backendId upload)
  unfold stagedPart at staged
  rw [(moves.identity allocated).2.1] at staged
  generalize next.backend.data.mpu.lookup (state.backendId upload) = entry
    at change staged
  cases change with
  | unchanged => exact .inl staged
  | written mover part now reply owns succeeded =>
      have same : mover = upload := identified.backendInjective mover upload
        (frame.bound mover (by simp [Frame.uploads])) allocated owns
      subst same
      change stagedPart (state.withData _) mover partNumber = some bytes
        at staged
      rw [stagedPart_written covers succeeded] at staged
      split at staged
      · next number =>
          cases staged
          exact .inr ⟨part, rfl, number.symm, .inl ⟨⟨_, rfl⟩, rfl⟩⟩
      · exact .inl staged
  | refused mover part error owns failed =>
      have same : mover = upload := identified.backendInjective mover upload
        (frame.bound mover (by simp [Frame.uploads])) allocated owns
      subst same
      change stagedPart (state.withData _) mover partNumber = some bytes
        at staged
      rw [stagedPart_refused failed] at staged
      split at staged
      · next number =>
          cases found : stagedPart state mover partNumber with
          | none =>
              rw [found] at staged
              cases staged
              exact .inr ⟨part, rfl, number.symm,
                .inr ⟨⟨error, failed⟩, rfl, rfl⟩⟩
          | some old =>
              rw [found] at staged
              exact .inl staged
      · exact .inl staged
  | detached | aborted => simp at staged

/-- A new upload has no staged parts. -/
theorem Moves.stagedPart_opening
    (moves : Moves options state before next after)
    (identified : Identified state)
    (frame : FrameIdentified state before)
    {upload : UploadPtr}
    {partNumber : Nat}
    (opens : before.opening = some (next.backendId upload)) :
    stagedPart next upload partNumber = none := by
  have absent := identified.lookup_opening frame opens
  have change := moves.stagingChange (next.backendId upload)
  unfold stagedPart
  generalize next.backend.data.mpu.lookup (next.backendId upload) = entry
    at change
  cases change with
  | unchanged => rw [absent]; rfl
  | written | refused => cases opens
  | detached | aborted => rfl

/-- A staged part stays as it is, unless it is written again, detached or
aborted. -/
theorem Moves.stagedPart_kept
    (moves : Moves options state before next after)
    (identified : Identified state)
    (frame : FrameIdentified state before)
    {upload : UploadPtr}
    {partNumber : Nat}
    {bytes : Bytes}
    (allocated : upload < state.store.allocated)
    (staged : stagedPart state upload partNumber = some bytes) :
    stagedPart next upload partNumber = some bytes ∨
      (∃ part, before = .partFound upload part ∧
        part.partNumber = partNumber ∧
        stagedPart next upload partNumber ≠ none) ∨
      (∃ request bucket object staging,
        before = .completing upload request (.targeted bucket object) ∧
          after = .completing upload request
            (.detached bucket object staging)) ∨
      ∃ origin, before = .aborting upload origin .marked := by
  have change := moves.stagingChange (state.backendId upload)
  rw [stagedPart, (moves.identity allocated).2.1]
  generalize next.backend.data.mpu.lookup (state.backendId upload) = entry
    at change
  have written : ∀ mover part, before = .partFound mover part →
      state.backendId mover = state.backendId upload →
      entry = (Multipart.writePart state mover part).2.mpu.lookup
        (state.backendId upload) →
      (entry.bind fun staging => staging.parts.lookup partNumber) =
          some bytes ∨
        ∃ part, before = .partFound upload part ∧
          part.partNumber = partNumber ∧
          (entry.bind fun staging => staging.parts.lookup partNumber) ≠
            none := by
    rintro mover part rfl owns rfl
    have same : mover = upload := identified.backendInjective mover upload
      (frame.bound mover (by simp [Frame.uploads])) allocated owns
    subst same
    obtain ⟨written, reservedBytes, found⟩ :=
      state.backend.data.lookup_writePart_self (state.backendId mover)
        part.partNumber part.offset part.source
    rw [Multipart.writePart, found]
    simp only [Option.bind_some, Table.lookup_insert_eq, lookup_staging]
    by_cases number : partNumber = part.partNumber
    · right
      exact ⟨part, rfl, number.symm, by simp [number]⟩
    · left
      rw [if_neg number]
      exact staged
  cases change with
  | unchanged => exact .inl staged
  | written mover part now reply owns succeeded =>
      rcases written mover part rfl owns rfl with kept | rewritten
      · exact .inl kept
      · exact .inr (.inl rewritten)
  | refused mover part error owns failed =>
      rcases written mover part rfl owns rfl with kept | rewritten
      · exact .inl kept
      · exact .inr (.inl rewritten)
  | detached mover request bucket object staging owns found =>
      have same : mover = upload := identified.backendInjective mover upload
        (frame.bound mover (by simp [Frame.uploads])) allocated owns
      subst same
      exact .inr (.inr (.inl ⟨request, bucket, object, staging, rfl, rfl⟩))
  | aborted mover origin owns =>
      have same : mover = upload := identified.backendInjective mover upload
        (frame.bound mover (by
          cases origin <;> simp [Frame.uploads])) allocated owns
      subst same
      exact .inr (.inr (.inr ⟨origin, rfl⟩))

/-- A part is being recorded only after its write. -/
theorem Moves.recording_of_after
    (moves : Moves options state before next after)
    {upload : UploadPtr}
    {partNumber : Nat}
    (records : after.recording = some (upload, partNumber)) :
    ∃ part, before = .partFound upload part ∧
      part.partNumber = partNumber := by
  cases moves with
  | accept call =>
      revert records
      fun_cases Multipart.accept state call <;> simp [Frame.recording]
  | complete mover request stage now =>
      revert records
      fun_cases advanceCompletion options state mover request now stage <;>
        simp [Frame.recording]
  | abort mover origin stage =>
      revert records
      fun_cases advanceAbort state mover origin stage <;>
        cases origin <;> simp [Frame.recording]
  | writePart mover part now =>
      simp only [Frame.recording, Option.some.injEq, Prod.mk.injEq] at records
      obtain ⟨rfl, rfl⟩ := records
      exact ⟨part, rfl, rfl⟩
  | addTarget | create | refusePart | registerPart | refuseClaim | claim
  | refuseAbort | markAborted | unregister | visit | endScan | endSweep
  | sweepNext | putIndex => simp [Frame.recording] at records

/-- A part that has just been written is staged. -/
theorem Moves.stagedPart_of_recording
    (moves : Moves options state before next after)
    {upload : UploadPtr}
    {partNumber : Nat}
    (records : after.recording = some (upload, partNumber)) :
    stagedPart next upload partNumber ≠ none := by
  obtain ⟨part, rfl, rfl⟩ := moves.recording_of_after records
  cases moves with
  | refusePart => simp [Frame.recording] at records
  | writePart _ _ now reply written =>
      obtain ⟨bytes, reservedBytes, staging⟩ :=
        state.backend.data.lookup_writePart_self (state.backendId upload)
          part.partNumber part.offset part.source
      have key : (state.withData (Multipart.writePart state upload
          part).2).backendId upload = state.backendId upload := rfl
      rw [stagedPart, key, State.withData_data, Multipart.writePart, staging]
      simp

end Multipart
end Gateway
end TurboAccess
