import TurboAccess.Gateway.Backend.WithoutStaging
import TurboAccess.Gateway.Multipart.Accounting
import TurboAccess.Gateway.Multipart.Identifiers

/-!
# The gateway without one upload

Taking an upload back to what it was when it was created, and its staging out
of the data store, gives the gateway in which nobody has written to the upload.
A section of a call that has nothing to do with the upload does the same in
both gateways, unless the capacity that the staging takes makes it refuse.
-/

namespace TurboAccess
namespace Gateway

/-- Take an upload back to what it was, and its staging out. -/
def State.withoutUpload
    (state : State)
    (upload : UploadPtr)
    (fresh : MultipartUpload) : State where
  backend :=
    { state.backend with
      data := state.backend.data.withoutStaging fresh.backendUploadId }
  store :=
    { state.store with
      objects := Function.update state.store.objects upload fresh }

namespace Multipart

/-- A call that has been refused for want of capacity. -/
def Frame.refused : Frame → Bool
  | .finished (.failed error) =>
      decide (error = MemoryDataStore.capacityExceeded)
  | .completing _ _ (.failing error) =>
      decide (error = MemoryDataStore.capacityExceeded)
  | _ => false

/-- An upload of a gateway, with what it was when it was created. -/
structure Known
    (state : State)
    (upload : UploadPtr)
    (fresh : MultipartUpload) : Prop where
  allocated : upload < state.store.allocated
  uploadId : (state.store.objects upload).uploadId = fresh.uploadId
  backendId : state.backendId upload = fresh.backendUploadId

section Sections

variable
  {options : CoordinatorOptions}
  {state next : State}
  {before after : Frame}
  {upload other : UploadPtr}
  {fresh : MultipartUpload}
  {held : Nat}

/-! ## Other uploads -/

private theorem objects_withoutUpload
    (distinct : other ≠ upload) :
    (state.withoutUpload upload fresh).store.objects other =
      state.store.objects other :=
  Function.update_of_ne distinct _ _

private theorem backendId_withoutUpload
    (distinct : other ≠ upload) :
    (state.withoutUpload upload fresh).backendId other =
      state.backendId other := by
  unfold State.backendId
  rw [objects_withoutUpload distinct]

/-- Another upload has another staging. -/
private theorem Known.backendId_ne
    (known : Known state upload fresh)
    (identified : Identified state)
    (allocated : other < state.store.allocated)
    (distinct : other ≠ upload) :
    state.backendId other ≠ fresh.backendUploadId := by
  rw [← known.backendId]
  intro same
  exact distinct (identified.backendInjective other upload allocated
    known.allocated same)

/-- Changing another upload commutes with taking the upload back. -/
private theorem modify_withoutUpload
    (state : State)
    (fresh : MultipartUpload)
    (change : MultipartUpload → MultipartUpload)
    (distinct : other ≠ upload) :
    (state.withStore (state.store.modify other change)).withoutUpload upload
        fresh =
      (state.withoutUpload upload fresh).withStore
        ((state.withoutUpload upload fresh).store.modify other change) := by
  unfold State.withStore State.withoutUpload MultipartStore.modify
  dsimp only
  rw [Function.update_of_ne distinct, Function.update_comm distinct]

private theorem setState_withoutUpload
    (state : State)
    (value : UploadState)
    (distinct : other ≠ upload) :
    (state.withStore (state.store.setState other value)).withoutUpload upload
        fresh =
      (state.withoutUpload upload fresh).withStore
        ((state.withoutUpload upload fresh).store.setState other value) :=
  modify_withoutUpload state fresh _ distinct

/-! ## Sections of other calls -/

/-- The first section of a call that does not name the upload. -/
private theorem accept_withoutUpload
    {call : Call}
    (upload : UploadPtr)
    (fresh : MultipartUpload)
    (accounts : state.backend.data.Accounts held)
    (capacity : state.backend.data.capacityBytes < sizeLimit)
    (moderate : call.Moderate)
    (granted : (accept state call).2.refused = false) :
    accept (state.withoutUpload upload fresh) call =
      ((accept state call).1.withoutUpload upload fresh,
        (accept state call).2) := by
  have within := accounts.within
  have limit : sizeLimit + sizeLimit + sizeLimit < wordModulus := by decide
  cases call with
  | createUpload params now => rfl
  | uploadPart uploadId part =>
      have same : (state.withoutUpload upload fresh).lookup uploadId =
          state.lookup uploadId := rfl
      simp only [accept]
      rw [same]
      split <;> rfl
  | completeUpload request =>
      have same : (state.withoutUpload upload fresh).store.find
          request.uploadId = state.store.find request.uploadId := rfl
      simp only [accept]
      rw [same]
      repeat' split
      all_goals rfl
  | abortUpload uploadId dataPath =>
      have same : (state.withoutUpload upload fresh).store.find uploadId =
          state.store.find uploadId := rfl
      simp only [accept]
      rw [same]
      split <;> rfl
  | sweep now =>
      have same : (state.withoutUpload upload fresh).store.ttl =
          state.store.ttl := rfl
      simp only [accept]
      rw [same]
      split <;> rfl
  | writeRange bucket key offset source totalSize =>
      obtain ⟨small, short, sized⟩ := moderate
      simp only [accept] at granted ⊢
      cases written : state.backend.data.writeRange bucket key offset source
          totalSize with
      | mk reply data =>
          cases reply with
          | error error =>
              have full := MemoryDataStore.error_of_writeRange written
              simp [written, Frame.refused, full] at granted
          | ok reply =>
              have alone := MemoryDataStore.writeRange_withoutStaging
                fresh.backendUploadId accounts (by omega)
                (by cases totalSize <;> simp at sized ⊢ <;> omega) written
              have same : (state.withoutUpload upload fresh).backend.data =
                state.backend.data.withoutStaging fresh.backendUploadId := rfl
              rw [same, alone]
              rfl
  | reserve bucket key totalSize =>
      have small : totalSize < sizeLimit := moderate
      simp only [accept] at granted ⊢
      cases reserved : state.backend.data.reserve bucket key totalSize with
      | mk reply data =>
          cases reply with
          | error error =>
              have full := MemoryDataStore.error_of_reserve reserved
              simp [reserved, Frame.refused, full] at granted
          | ok reply =>
              have alone := MemoryDataStore.reserve_withoutStaging
                fresh.backendUploadId accounts (by omega) reserved
              have same : (state.withoutUpload upload fresh).backend.data =
                state.backend.data.withoutStaging fresh.backendUploadId := rfl
              rw [same, alone]
              rfl

/-- A section of the completion of another upload. -/
private theorem advanceCompletion_withoutUpload
    {request : CompleteRequest}
    {stage : CompleteStage}
    (options : CoordinatorOptions)
    (now : Nat)
    (known : Known state upload fresh)
    (identified : Identified state)
    (allocated : other < state.store.allocated)
    (distinct : other ≠ upload)
    (accounts : state.backend.data.Accounts
      (held + (Frame.completing other request stage).held))
    (capacity : state.backend.data.capacityBytes < sizeLimit)
    (sized : FrameSized (.completing other request stage))
    (granted : (advanceCompletion options state other request now
      stage).2.refused = false) :
    advanceCompletion options (state.withoutUpload upload fresh) other request
        now stage =
      ((advanceCompletion options state other request now
          stage).1.withoutUpload upload fresh,
        (advanceCompletion options state other request now stage).2) := by
  have within := accounts.within
  have limit : sizeLimit + sizeLimit + sizeLimit < wordModulus := by decide
  have owner : (state.withoutUpload upload fresh).backendId other =
      state.backendId other := backendId_withoutUpload distinct
  have data : (state.withoutUpload upload fresh).backend.data =
      state.backend.data.withoutStaging fresh.backendUploadId := rfl
  have apart := known.backendId_ne identified allocated distinct
  cases stage with
  | claimed recorded =>
      have targets : (state.withoutUpload upload fresh).backend.mpuTargets =
          state.backend.mpuTargets := rfl
      simp only [advanceCompletion]
      rw [owner, targets]
      repeat' split
      all_goals rfl
  | targeted bucket key =>
      simp only [advanceCompletion]
      rw [owner, data, MemoryDataStore.detachStaging_withoutStaging _ apart]
      cases state.backend.data.detachStaging (state.backendId other) <;> rfl
  | detached bucket key staging =>
      have released := MemoryDataStore.releaseHeld_withoutStaging
        fresh.backendUploadId accounts
      simp only [Frame.held] at released
      simp only [advanceCompletion]
      rw [data, released]
      split <;> rfl
  | released bucket key total assembled =>
      obtain ⟨rfl, small⟩ := sized
      simp only [advanceCompletion] at granted ⊢
      cases installed : state.backend.data.installBody (makeKey bucket key)
          assembled.length assembled with
      | mk reply installedData =>
          cases reply with
          | false => simp [installed, Frame.refused] at granted
          | true =>
              rw [data, MemoryDataStore.installBody_withoutStaging
                fresh.backendUploadId accounts (by omega) installed]
              rfl
  | installed bucket key size =>
      have index : (state.withoutUpload upload fresh).backend.index =
          state.backend.index := rfl
      simp only [advanceCompletion]
      rw [owner, index]
      split <;> rfl
  | taken bucket key metadata => rfl
  | indexed metadata =>
      simp only [advanceCompletion]
      rw [owner]
      rfl
  | committed metadata =>
      simp only [advanceCompletion]
      rw [setState_withoutUpload state _ distinct]
  | marked metadata =>
      simp only [advanceCompletion]
      rw [objects_withoutUpload distinct]
      rfl
  | failing error =>
      simp only [advanceCompletion]
      rw [setState_withoutUpload state _ distinct]

/-- A section of the removal of another upload. -/
private theorem advanceAbort_withoutUpload
    (origin : AbortOrigin)
    (stage : AbortStage)
    (known : Known state upload fresh)
    (identified : Identified state)
    (allocated : other < state.store.allocated)
    (distinct : other ≠ upload)
    (accounts : state.backend.data.Accounts held) :
    advanceAbort (state.withoutUpload upload fresh) other origin stage =
      ((advanceAbort state other origin stage).1.withoutUpload upload fresh,
        (advanceAbort state other origin stage).2) := by
  have owner : (state.withoutUpload upload fresh).backendId other =
      state.backendId other := backendId_withoutUpload distinct
  have data : (state.withoutUpload upload fresh).backend.data =
      state.backend.data.withoutStaging fresh.backendUploadId := rfl
  have apart := known.backendId_ne identified allocated distinct
  cases stage with
  | marked =>
      simp only [advanceAbort]
      rw [owner, data,
        MemoryDataStore.abortMultipartData_withoutStaging apart accounts]
      rfl
  | dataAborted | indexAborted =>
      simp only [advanceAbort]
      rw [owner]
      rfl

/-- A part write to another upload. -/
private theorem writePart_withoutUpload
    {part : PartWrite}
    {now : Nat}
    {etag : String}
    {backend : CompositeBackend}
    (known : Known state upload fresh)
    (identified : Identified state)
    (allocated : other < state.store.allocated)
    (distinct : other ≠ upload)
    (accounts : state.backend.data.Accounts held)
    (capacity : state.backend.data.capacityBytes < sizeLimit)
    (sized : FrameSized (.partFound other part))
    (written : state.backend.writePart (state.backendId other)
      part.partNumber part.offset part.source now = (.ok etag, backend)) :
    (state.withoutUpload upload fresh).backend.writePart
        (state.backendId other) part.partNumber part.offset part.source now =
      (.ok etag, { backend with
        data := backend.data.withoutStaging fresh.backendUploadId }) := by
  have within := accounts.within
  have limit : sizeLimit + sizeLimit + sizeLimit < wordModulus := by decide
  have apart := known.backendId_ne identified allocated distinct
  obtain ⟨small, short⟩ := sized
  have data : (state.withoutUpload upload fresh).backend.data =
      state.backend.data.withoutStaging fresh.backendUploadId := rfl
  unfold CompositeBackend.writePart at written ⊢
  cases direct : state.backend.data.writePart (state.backendId other)
      part.partNumber part.offset part.source with
  | mk reply stored =>
      cases reply with
      | error error => simp [direct] at written
      | ok reply =>
          rw [data, MemoryDataStore.writePart_withoutStaging apart accounts
            (by omega) (by omega) direct]
          simp only [direct, Prod.mk.injEq, Except.ok.injEq] at written
          obtain ⟨rfl, rfl⟩ := written
          rfl

/-- A sweeper's look at another upload. -/
private theorem sweepOne_withoutUpload
    {uploadId : String}
    (now : Nat)
    (known : Known state upload fresh)
    (identified : Identified state)
    (different : uploadId ≠ fresh.uploadId) :
    (state.withoutUpload upload fresh).store.sweepOne now uploadId =
      ((state.store.sweepOne now uploadId).1,
        ((state.withStore (state.store.sweepOne now
          uploadId).2).withoutUpload upload fresh).store) := by
  have entries : (state.withoutUpload upload fresh).store.byId =
      state.store.byId := rfl
  have ttl : (state.withoutUpload upload fresh).store.ttl =
      state.store.ttl := rfl
  unfold MultipartStore.sweepOne
  rw [entries]
  cases found : state.store.byId.lookup uploadId with
  | none => rfl
  | some other =>
      have distinct : other ≠ upload := by
        rintro rfl
        have registered := (identified.registered _ _ found).2
        rw [known.uploadId] at registered
        exact different registered.symm
      dsimp only
      rw [objects_withoutUpload distinct, ttl]
      split <;> rfl

/-- The creation of another upload. -/
private theorem create_withoutUpload
    (params : StartUploadParams)
    (backendId : String)
    (now : Nat)
    (known : Known state upload fresh) :
    (state.withoutUpload upload fresh).store.create params backendId now =
      ((state.store.create params backendId now).1,
        ((state.withStore (state.store.create params backendId
          now).2).withoutUpload upload fresh).store) := by
  have distinct : state.store.allocated ≠ upload :=
    Nat.ne_of_gt known.allocated
  unfold MultipartStore.create State.withStore State.withoutUpload
  dsimp only
  rw [Function.update_comm distinct]

/-- The claim of another upload. -/
private theorem claim_withoutUpload
    (request : CompleteRequest)
    (distinct : other ≠ upload) :
    (state.withoutUpload upload fresh).claim other request =
      (state.claim other request).map fun claimed =>
        claimed.withoutUpload upload fresh := by
  unfold State.claim
  rw [objects_withoutUpload distinct]
  dsimp only
  split
  · rfl
  · split
    · rfl
    · exact congrArg Except.ok (setState_withoutUpload state _ distinct).symm

/-- The mark on another upload. -/
private theorem markAborted_withoutUpload
    (dataPath : String)
    (distinct : other ≠ upload) :
    (state.withoutUpload upload fresh).markAborted other dataPath =
      (state.markAborted other dataPath).map fun marked =>
        marked.withoutUpload upload fresh := by
  unfold State.markAborted
  rw [objects_withoutUpload distinct]
  dsimp only
  split
  · rfl
  · exact congrArg Except.ok (setState_withoutUpload state _ distinct).symm

/-- A section of a call that has nothing to do with the upload, and is not
refused, does the same without the upload. -/
theorem advance_withoutUpload
    {input : Input}
    (known : Known state upload fresh)
    (identified : Identified state)
    (frame : FrameIdentified state before)
    (absent : upload ∉ before.uploads)
    (accounts : state.backend.data.Accounts (held + before.held))
    (capacity : state.backend.data.capacityBytes < sizeLimit)
    (sized : FrameSized before)
    (moderate : ∀ call, input = .call call → call.Moderate)
    (unnamed : input.mentions fresh.uploadId = false)
    (moved : advance options state before input = some (next, after))
    (granted : after.refused = false) :
    advance options (state.withoutUpload upload fresh) before input =
      some (next.withoutUpload upload fresh, after) := by
  have apart : ∀ other ∈ before.uploads,
      other ≠ upload ∧ other < state.store.allocated := by
    intro other member
    refine ⟨?_, frame.bound other member⟩
    rintro rfl
    exact absent member
  revert moved
  fun_cases advance options state before input
  all_goals
    intro moved
    simp only [Option.some.injEq, Prod.mk.injEq, reduceCtorEq] at moved
  case case1 call =>
    have alone := accept_withoutUpload upload fresh accounts capacity
      (moderate call rfl) (by rw [moved]; exact granted)
    rw [moved] at alone
    exact congrArg some alone
  case case9 other request stage now =>
    obtain ⟨distinct, allocated⟩ := apart other (by simp [Frame.uploads])
    have alone := advanceCompletion_withoutUpload options now known identified
      allocated distinct accounts capacity sized (by rw [moved]; exact granted)
    rw [moved] at alone
    exact congrArg some alone
  case case12 other origin stage now =>
    obtain ⟨distinct, allocated⟩ := apart other
      (by cases origin <;> simp [Frame.uploads])
    have alone := advanceAbort_withoutUpload origin stage known identified
      allocated distinct accounts
    rw [moved] at alone
    exact congrArg some alone
  all_goals obtain ⟨rfl, rfl⟩ := moved
  case case2 => rfl
  case case3 params backendId now created store equation =>
    have alone := create_withoutUpload params backendId now known
    rw [equation] at alone
    have distinct : created ≠ upload := by
      cases equation
      exact Nat.ne_of_gt known.allocated
    rw [advance]
    rw [alone]
    dsimp only
    rw [objects_withoutUpload distinct]
    rfl
  case case4 other part now error backend written =>
    obtain ⟨refused, _⟩ := CompositeBackend.writePart_eq_error written
    have full := MemoryDataStore.error_of_writePart refused
    simp [Frame.refused, full] at granted
  case case5 other part now etag backend written =>
    obtain ⟨distinct, allocated⟩ := apart other (by simp [Frame.uploads])
    have alone := writePart_withoutUpload known identified allocated distinct
      accounts capacity sized written
    rw [advance]
    rw [backendId_withoutUpload distinct, alone]
    rfl
  case case6 other part etag now =>
    obtain ⟨distinct, _⟩ := apart other (by simp [Frame.uploads])
    have alone := modify_withoutUpload state fresh
      (fun object => { object with
        parts := object.parts.insert part.partNumber
          ⟨part.partNumber, part.offset, part.source.length, etag⟩
        lastActivityAt := now }) distinct
    exact congrArg (fun state => some (state, _)) alone.symm
  case case7 other request now error refused =>
    obtain ⟨distinct, _⟩ := apart other (by simp [Frame.uploads])
    rw [advance]
    rw [claim_withoutUpload request distinct, refused]
    rfl
  case case8 other request now claimed succeeded =>
    obtain ⟨distinct, _⟩ := apart other (by simp [Frame.uploads])
    rw [advance]
    rw [claim_withoutUpload request distinct, succeeded,
      objects_withoutUpload distinct]
    rfl
  case case10 other dataPath now error refused =>
    obtain ⟨distinct, _⟩ := apart other (by simp [Frame.uploads])
    rw [advance]
    rw [markAborted_withoutUpload dataPath distinct, refused]
    rfl
  case case11 other dataPath now marked succeeded =>
    obtain ⟨distinct, _⟩ := apart other (by simp [Frame.uploads])
    rw [advance]
    rw [markAborted_withoutUpload dataPath distinct, succeeded]
    rfl
  case case13 other now =>
    obtain ⟨distinct, _⟩ := apart other (by simp [Frame.uploads])
    rw [advance]
    rw [objects_withoutUpload distinct]
    rfl
  case case14 now expired uploadId found store examined =>
    have different : uploadId ≠ fresh.uploadId := by
      simpa [Input.mentions] using unnamed
    have alone := sweepOne_withoutUpload now known identified different
    rw [examined] at alone
    rw [advance]
    rw [alone]
    rfl
  case case15 => rfl
  case case16 => rfl
  case case17 swept other pending now =>
    obtain ⟨distinct, _⟩ := apart other (by simp [Frame.uploads])
    rw [advance]
    rw [setState_withoutUpload state _ distinct]
  case case18 => rfl

end Sections

end Multipart
end Gateway
end TurboAccess
