import TurboAccess.Gateway.Backend.Assembly
import TurboAccess.Gateway.Gds.Executor
import TurboAccess.Gateway.Multipart.Accounting
import TurboAccess.Gateway.Multipart.Admission
import TurboAccess.Gateway.Multipart.Identifiers

/-!
# Completions of a sequential gateway

When the operations of a gateway run one after the other, a completion that
passes its validation succeeds.  Every upload of the registry is open in all
three tables of the backend, every part recorded for it is staged, and the
staging a completion releases leaves room for the object it installs, whatever
the object was before.

The data paths write a part from one span, and record it with a size and a tag
of their own.
-/

namespace TurboAccess
namespace Gateway

open Multipart (sizeLimit IssuedBy)

/-! ## Uploading a part -/

/-- Upload one part and record it with the size, and the tag if there is one, of
the data path. -/
def State.uploadPartAs
    (state : State)
    (uploadId : String)
    (partNumber offset : Nat)
    (source : Bytes)
    (size : Nat)
    (tag : Option String)
    (backendNow now : Nat) : Result String × State :=
  match state.lookup uploadId with
  | .error error => (.error error, state)
  | .ok upload =>
      match state.backend.writePart
          (state.store.objects upload).backendUploadId partNumber offset
          source backendNow with
      | (.error error, backend) => (.error error, { state with backend })
      | (.ok etag, backend) =>
          (.ok (tag.getD etag),
            ({ state with backend }).registerPart upload partNumber offset size
              (tag.getD etag) now)

/-- Without values of its own a data path records what the backend answers. -/
theorem State.uploadPart_eq_uploadPartAs
    (state : State)
    (uploadId : String)
    (partNumber offset : Nat)
    (source : Bytes)
    (backendNow now : Nat) :
    state.uploadPart uploadId partNumber offset source backendNow now =
      state.uploadPartAs uploadId partNumber offset source source.length none
        backendNow now := rfl

/-- A chunk of a part on the GPU path uploads the part, or changes nothing. -/
theorem Gds.uploadPart_eq_uploadPartAs
    (md5 : Bytes → Bytes)
    (options : Gds.GdsOptions)
    (media : Gds.Media)
    (uploadId : String)
    (partNumber chunkOffset chunkSize : Nat)
    (checksumPolicy : String)
    (answers : Gds.CuObjAnswers)
    (backendNow now : Nat) :
    (Gds.uploadPart md5 options media uploadId partNumber chunkOffset chunkSize
        checksumPolicy answers backendNow now).2.1.uploads = media.uploads ∨
      ∃ source tag, (source = [] ∨ source = answers.view) ∧
        (Gds.uploadPart md5 options media uploadId partNumber chunkOffset
          chunkSize checksumPolicy answers backendNow now).2.1.uploads =
            (media.uploads.uploadPartAs uploadId partNumber chunkOffset source
              chunkSize tag backendNow now).2 := by
  unfold Gds.uploadPart State.uploadPartAs Gds.putPart Gds.stagePart
  cases known : media.uploads.lookup uploadId with
  | error error => exact .inl rfl
  | ok upload =>
      dsimp only
      by_cases large : options.maxChunkBytes < chunkSize
      · rw [if_pos large]
        exact .inl rfl
      rw [if_neg large]
      by_cases empty : chunkSize = 0
      · refine .inr ⟨[], none, .inl rfl, ?_⟩
        rw [if_pos empty]
        cases media.uploads.backend.writePart
          (media.uploads.store.objects upload).backendUploadId partNumber
          chunkOffset [] backendNow with
        | mk result backend => cases result <;> rfl
      rw [if_neg empty]
      cases pulled : Gds.pullChunk answers with
      | error error => exact .inl rfl
      | ok bytes =>
          have viewed : bytes = answers.view := Gds.pullChunk_eq_ok pulled
          subst viewed
          right
          dsimp only
          -- the tag is that of the digest under the policy `md5` only
          by_cases policy : checksumPolicy = "md5"
          · refine ⟨answers.view, some (Gds.md5Hex (md5
              (((media.md5Ctxs upload).lookup partNumber).getD [] ++
                answers.view))), .inr rfl, ?_⟩
            cases media.uploads.backend.writePart
              (media.uploads.store.objects upload).backendUploadId partNumber
              chunkOffset answers.view backendNow with
            | mk result backend => cases result <;> simp [policy]
          · refine ⟨answers.view, none, .inr rfl, ?_⟩
            cases media.uploads.backend.writePart
              (media.uploads.store.objects upload).backendUploadId partNumber
              chunkOffset answers.view backendNow with
            | mk result backend => cases result <;> simp [policy]

/-! ## The machine -/

namespace Sequential

/-- An operation of the gateway with its arguments. -/
inductive Operation
  | createUpload (params : StartUploadParams)
  | uploadPart (uploadId : String) (partNumber offset : Nat) (source : Bytes)
      (size : Nat) (tag : Option String)
  | completeUpload (request : CompleteRequest)
  | abortUpload (uploadId dataPath : String)
  | sweep (order : List String)
  | writeRange (bucket key : String) (offset : Nat) (source : Bytes)
      (totalSize : Option Nat)
  | reserve (bucket key : String) (totalSize : Nat)

/-- Sizes and offsets of an operation are below the limit. -/
def Operation.Moderate : Operation → Prop
  | .uploadPart _ _ offset source size _ =>
      offset < sizeLimit ∧ source.length < sizeLimit ∧ size < sizeLimit
  | .writeRange _ _ offset source totalSize =>
      offset < sizeLimit ∧ source.length < sizeLimit ∧
        totalSize.getD 0 < sizeLimit
  | .reserve _ _ totalSize => totalSize < sizeLimit
  | _ => True

/-- An operation, and the clocks it reads. -/
structure Label where
  operation : Operation
  backendNow : Nat
  now : Nat

/-- The gateway after an operation, whether it succeeded or failed. -/
def apply
    (options : CoordinatorOptions)
    (state : State)
    (label : Label) : State :=
  match label.operation with
  | .createUpload params =>
      (state.createUpload options params label.backendNow label.now).2
  | .uploadPart uploadId partNumber offset source size tag =>
      (state.uploadPartAs uploadId partNumber offset source size tag
        label.backendNow label.now).2
  | .completeUpload request =>
      (state.completeUpload options request label.backendNow).2
  | .abortUpload uploadId dataPath => (state.abortUpload uploadId dataPath).2
  | .sweep order => state.sweepMultipart label.now order
  | .writeRange bucket key offset source totalSize =>
      { state with
        backend := (state.backend.writeRange bucket key offset source totalSize
          label.backendNow).2 }
  | .reserve bucket key totalSize =>
      { state with
        backend := (state.backend.reserve bucket key totalSize
          label.backendNow).2 }

/-- A gateway of a capacity below the limit that runs one operation after the
other. -/
def machine (options : CoordinatorOptions) : Machine State Label where
  initial state :=
    ∃ capacityBytes ttl, capacityBytes < sizeLimit ∧
      state = State.init capacityBytes ttl
  step state label := some (apply options state label)

/-- Runs of operations whose sizes are below the limit. -/
def Moderate (_ : State) (label : Label) : Prop := label.operation.Moderate

/-! ## The invariant -/

/-- A part is staged. -/
def Staged (data : MemoryDataStore) (key : String) (partNumber : Nat) : Prop :=
  ∃ staging, data.mpu.lookup key = some staging ∧
    staging.parts.lookup partNumber ≠ none

/-- The backend knows an upload in all its tables, and has staged the parts
recorded for it. -/
structure Ready
    (backend : CompositeBackend)
    (key : String)
    (parts : Table Nat PartProgress) : Prop where
  target : backend.mpuTargets.lookup key ≠ none
  record : backend.index.mpu.lookup key ≠ none
  staged : ∀ partNumber, parts.lookup partNumber ≠ none →
    Staged backend.data key partNumber

/-- The backend is ready for every upload of the registry, and its counter
counts what it stores. -/
structure Sound (state : State) : Prop where
  capacity : state.backend.data.capacityBytes < sizeLimit
  accounts : state.backend.data.Accounts 0
  registered : ∀ uploadId upload,
    state.store.byId.lookup uploadId = some upload →
      upload < state.store.allocated ∧
        (state.store.objects upload).uploadId = uploadId
  issued : ∀ upload, upload < state.store.allocated →
    IssuedBy state.backend.index.mpuSeq (state.backendId upload)
  distinct : ∀ first second,
    first < state.store.allocated → second < state.store.allocated →
      state.backendId first = state.backendId second → first = second
  ready : ∀ uploadId upload,
    state.store.byId.lookup uploadId = some upload →
      Ready state.backend (state.backendId upload)
        (state.store.objects upload).parts

/-- A gateway that has just started is sound. -/
theorem Sound.init
    {capacityBytes ttl : Nat}
    (small : capacityBytes < sizeLimit) :
    Sound (State.init capacityBytes ttl) where
  capacity := small
  accounts := MemoryDataStore.Accounts.init capacityBytes
  registered := by
    intro uploadId upload found
    simp [State.init, MultipartStore.init] at found
  issued := by
    intro upload below
    exact absurd below (Nat.not_lt_zero _)
  distinct := by
    intro first second below
    exact absurd below (Nat.not_lt_zero _)
  ready := by
    intro uploadId upload found
    simp [State.init, MultipartStore.init] at found

/-! ## Changes of the backend -/

/-- A change of the backend spares all uploads but those with the given keys. -/
structure Spares
    (before after : CompositeBackend)
    (keys : Set String) : Prop where
  targets : ∀ key, key ∉ keys →
    after.mpuTargets.lookup key = before.mpuTargets.lookup key
  records : ∀ key, key ∉ keys →
    after.index.mpu.lookup key = before.index.mpu.lookup key
  stagings : ∀ key, key ∉ keys →
    after.data.mpu.lookup key = before.data.mpu.lookup key
  seq : after.index.mpuSeq = before.index.mpuSeq
  capacity : after.data.capacityBytes = before.data.capacityBytes

/-- The backend stays ready for an upload that is spared. -/
theorem Ready.of_spares
    {before after : CompositeBackend}
    {keys : Set String}
    {key : String}
    {parts : Table Nat PartProgress}
    (ready : Ready before key parts)
    (spares : Spares before after keys)
    (spared : key ∉ keys) :
    Ready after key parts where
  target := by
    rw [spares.targets key spared]
    exact ready.target
  record := by
    rw [spares.records key spared]
    exact ready.record
  staged := by
    intro partNumber recorded
    unfold Staged
    rw [spares.stagings key spared]
    exact ready.staged partNumber recorded

/-- A change of the backend keeps a gateway sound when the backend stays ready
for the uploads it does not spare. -/
theorem Sound.withBackend
    {state : State}
    {backend : CompositeBackend}
    {keys : Set String}
    (sound : Sound state)
    (spares : Spares state.backend backend keys)
    (accounts : backend.data.Accounts 0)
    (own : ∀ uploadId upload,
      state.store.byId.lookup uploadId = some upload →
        state.backendId upload ∈ keys →
          Ready backend (state.backendId upload)
            (state.store.objects upload).parts) :
    Sound { state with backend } where
  capacity := by
    show backend.data.capacityBytes < sizeLimit
    rw [spares.capacity]
    exact sound.capacity
  accounts := accounts
  registered := sound.registered
  issued := by
    intro upload below
    show IssuedBy backend.index.mpuSeq _
    rw [spares.seq]
    exact sound.issued upload below
  distinct := sound.distinct
  ready := by
    intro uploadId upload found
    by_cases changed : state.backendId upload ∈ keys
    · exact own uploadId upload found changed
    · exact (sound.ready uploadId upload found).of_spares spares changed

/-- A change of the registry keeps a gateway sound when no upload is added and
the backend stays ready for those that remain. -/
theorem Sound.withStore
    {state : State}
    {store : MultipartStore}
    (sound : Sound state)
    (allocated : store.allocated = state.store.allocated)
    (registry : ∀ uploadId upload, store.byId.lookup uploadId = some upload →
      state.store.byId.lookup uploadId = some upload)
    (identity : ∀ upload,
      (store.objects upload).uploadId =
          (state.store.objects upload).uploadId ∧
        (store.objects upload).backendUploadId = state.backendId upload)
    (ready : ∀ uploadId upload,
      state.store.byId.lookup uploadId = some upload →
        Ready state.backend (state.backendId upload)
          (store.objects upload).parts) :
    Sound { state with store } := by
  have same : ∀ upload,
      State.backendId { state with store } upload = state.backendId upload :=
    fun upload => (identity upload).2
  constructor
  · exact sound.capacity
  · exact sound.accounts
  · intro uploadId upload found
    dsimp only at found ⊢
    rw [allocated, (identity upload).1]
    exact sound.registered uploadId upload (registry uploadId upload found)
  · intro upload below
    dsimp only at below ⊢
    rw [same]
    exact sound.issued upload (by omega)
  · intro first second firstBelow secondBelow equal
    dsimp only at firstBelow secondBelow
    rw [same, same] at equal
    exact sound.distinct first second (by omega) (by omega) equal
  · intro uploadId upload found
    dsimp only at found ⊢
    rw [same]
    exact ready uploadId upload (registry uploadId upload found)

/-- Changing an upload under its lock keeps a gateway sound when its
identifiers stay and the backend is ready for its parts. -/
theorem Sound.modify
    {state : State}
    {upload : UploadPtr}
    {change : MultipartUpload → MultipartUpload}
    (sound : Sound state)
    (identity : ∀ object : MultipartUpload,
      (change object).uploadId = object.uploadId ∧
        (change object).backendUploadId = object.backendUploadId)
    (ready : Ready state.backend (state.backendId upload)
        (state.store.objects upload).parts →
      Ready state.backend (state.backendId upload)
        (change (state.store.objects upload)).parts) :
    Sound { state with store := state.store.modify upload change } := by
  refine sound.withStore rfl (fun _ _ found => found) ?_ ?_
  · intro other
    by_cases same : other = upload
    · subst same
      simp [MultipartStore.modify, identity, State.backendId]
    · simp [MultipartStore.modify, same, State.backendId]
  · intro uploadId other found
    have known := sound.ready uploadId other found
    by_cases same : other = upload
    · subst same
      simp only [MultipartStore.modify, Function.update_self]
      exact ready known
    · simp only [MultipartStore.modify, Function.update_of_ne same]
      exact known

/-- The lifecycle state of an upload does not matter. -/
theorem Sound.setState
    {state : State}
    (sound : Sound state)
    (upload : UploadPtr)
    (lifecycle : UploadState) :
    Sound { state with store := state.store.setState upload lifecycle } :=
  sound.modify (fun _ => ⟨rfl, rfl⟩) id

/-- Dropping an entry of the registry keeps a gateway sound. -/
theorem Sound.erase
    {state : State}
    (sound : Sound state)
    (uploadId : String) :
    Sound { state with store := state.store.erase uploadId } := by
  refine sound.withStore rfl ?_ (fun _ => ⟨rfl, rfl⟩) sound.ready
  intro other upload found
  simp only [MultipartStore.erase, Table.lookup_erase_eq] at found
  split at found
  · cases found
  · exact found

/-! ## Object operations -/

private theorem room
    {state : State}
    (sound : Sound state) :
    state.backend.data.usedBytes < sizeLimit ∧
      sizeLimit + sizeLimit + sizeLimit < wordModulus := by
  have within := sound.accounts.within
  have capacity := sound.capacity
  exact ⟨by omega, by decide⟩

/-- An object write spares every upload. -/
theorem spares_writeRange
    (backend : CompositeBackend)
    (bucket key : String)
    (offset : Nat)
    (source : Bytes)
    (totalSize : Option Nat)
    (now : Nat) :
    Spares backend
        (backend.writeRange bucket key offset source totalSize now).2 ∅ ∧
      (backend.writeRange bucket key offset source totalSize now).2.data =
        (backend.data.writeRange bucket key offset source totalSize).2 := by
  have stagings := backend.data.writeRange_mpu bucket key offset source
    totalSize
  have capacity := backend.data.writeRange_capacityBytes bucket key offset
    source totalSize
  unfold CompositeBackend.writeRange
  split <;>
    next written =>
      rw [written] at stagings capacity ⊢
      exact ⟨⟨fun _ _ => rfl, fun _ _ => rfl,
        fun _ _ => by dsimp only at stagings ⊢; rw [stagings],
        rfl, capacity⟩, rfl⟩

/-- A reservation spares every upload. -/
theorem spares_reserve
    (backend : CompositeBackend)
    (bucket key : String)
    (totalSize now : Nat) :
    Spares backend (backend.reserve bucket key totalSize now).2 ∅ ∧
      (backend.reserve bucket key totalSize now).2.data =
        (backend.data.reserve bucket key totalSize).2 := by
  have stagings := backend.data.reserve_mpu bucket key totalSize
  have capacity := backend.data.reserve_capacityBytes bucket key totalSize
  unfold CompositeBackend.reserve
  split <;>
    next reserved =>
      rw [reserved] at stagings capacity ⊢
      exact ⟨⟨fun _ _ => rfl, fun _ _ => rfl,
        fun _ _ => by dsimp only at stagings ⊢; rw [stagings],
        rfl, capacity⟩, rfl⟩

theorem Sound.writeRange
    {state : State}
    {offset : Nat}
    {source : Bytes}
    {totalSize : Option Nat}
    (sound : Sound state)
    (bucket key : String)
    (small : offset < sizeLimit)
    (short : source.length < sizeLimit)
    (sized : totalSize.getD 0 < sizeLimit)
    (now : Nat) :
    Sound { state with
      backend := (state.backend.writeRange bucket key offset source totalSize
        now).2 } := by
  obtain ⟨spares, data⟩ :=
    spares_writeRange state.backend bucket key offset source totalSize now
  obtain ⟨used, limit⟩ := room sound
  refine sound.withBackend spares ?_ (fun _ _ _ changed => absurd changed id)
  rw [data]
  apply sound.accounts.writeRange (by omega)
  cases totalSize <;> simp at sized ⊢ <;> omega

theorem Sound.reserve
    {state : State}
    {totalSize : Nat}
    (sound : Sound state)
    (bucket key : String)
    (sized : totalSize < sizeLimit)
    (now : Nat) :
    Sound { state with
      backend := (state.backend.reserve bucket key totalSize now).2 } := by
  obtain ⟨spares, data⟩ :=
    spares_reserve state.backend bucket key totalSize now
  obtain ⟨used, limit⟩ := room sound
  refine sound.withBackend spares ?_ (fun _ _ _ changed => absurd changed id)
  rw [data]
  exact sound.accounts.reserve (by omega)

/-! ## Creating an upload and uploading a part -/

section Create

variable
  (state : State)
  (options : CoordinatorOptions)
  (params : StartUploadParams)
  (backendNow now : Nat)

/-- Creating an upload leaves the other ones. -/
theorem objects_createUpload_of_lt
    {upload : UploadPtr}
    (below : upload < state.store.allocated) :
    (state.createUpload options params backendNow now).2.store.objects upload =
      state.store.objects upload := by
  simp [State.createUpload, MultipartStore.create, Nat.ne_of_lt below]

theorem backendId_createUpload_of_lt
    {upload : UploadPtr}
    (below : upload < state.store.allocated) :
    (state.createUpload options params backendNow now).2.backendId upload =
      state.backendId upload := by
  rw [State.backendId, objects_createUpload_of_lt state _ _ _ _ below]
  rfl

/-- The new upload has the next identifier of the backend. -/
theorem backendId_createUpload_self :
    (state.createUpload options params backendNow now).2.backendId
        state.store.allocated =
      mpuId (state.backend.index.mpuSeq + 1) backendNow := by
  simp [State.createUpload, MultipartStore.create, State.backendId,
    CompositeBackend.startMultipart, MemoryIndexStore.startMultipart]

/-- The registry has the old uploads, and the new one under the next
identifier. -/
theorem lookup_createUpload
    {uploadId : String}
    {upload : UploadPtr}
    (found : (state.createUpload options params backendNow
      now).2.store.byId.lookup uploadId = some upload) :
    state.store.byId.lookup uploadId = some upload ∨
      upload = state.store.allocated ∧
        uploadId = mpuId (state.store.seq + 1) now := by
  simp only [State.createUpload, MultipartStore.create,
    Table.lookup_emplace_eq] at found
  split at found
  · next equal =>
      subst equal
      cases known : state.store.byId.lookup
        (mpuId (state.store.seq + 1) now) with
      | none =>
          rw [known, Option.getD_none] at found
          exact .inr ⟨(Option.some.inj found).symm, rfl⟩
      | some old =>
          rw [known, Option.getD_some] at found
          exact .inl found
  · exact .inl found

end Create

/-- The backend is ready for an upload that has no parts yet. -/
theorem Sound.createUpload
    {state : State}
    (sound : Sound state)
    (options : CoordinatorOptions)
    (params : StartUploadParams)
    (backendNow now : Nat) :
    Sound (state.createUpload options params backendNow now).2 := by
  have fresh : ∀ upload, upload < state.store.allocated →
      state.backendId upload ≠
        mpuId (state.backend.index.mpuSeq + 1) backendNow :=
    fun upload below => (sound.issued upload below).ne_next
  have same := @backendId_createUpload_of_lt state options params backendNow now
  have own := backendId_createUpload_self state options params backendNow now
  have objects := @objects_createUpload_of_lt state options params backendNow now
  have registry := @lookup_createUpload state options params backendNow now
  have allocated :
      (state.createUpload options params backendNow now).2.store.allocated =
        state.store.allocated + 1 := rfl
  have seq : (state.createUpload options params backendNow
      now).2.backend.index.mpuSeq = state.backend.index.mpuSeq + 1 := rfl
  constructor
  · exact sound.capacity
  · exact sound.accounts
  · intro uploadId upload found
    rw [allocated]
    rcases registry found with known | ⟨rfl, rfl⟩
    · obtain ⟨below, named⟩ := sound.registered uploadId upload known
      rw [objects below]
      exact ⟨Nat.lt_succ_of_lt below, named⟩
    · refine ⟨Nat.lt_succ_self _, ?_⟩
      simp [State.createUpload, MultipartStore.create]
  · intro upload below
    rw [allocated] at below
    rw [seq]
    rcases Nat.lt_succ_iff_lt_or_eq.mp below with old | rfl
    · rw [same old]
      exact (sound.issued upload old).mono (Nat.le_succ _)
    · rw [own]
      exact ⟨_, _, rfl, Nat.le_refl _⟩
  · intro first second firstBelow secondBelow equal
    rw [allocated] at firstBelow secondBelow
    rcases Nat.lt_succ_iff_lt_or_eq.mp firstBelow with firstOld | rfl <;>
      rcases Nat.lt_succ_iff_lt_or_eq.mp secondBelow with secondOld | rfl
    · rw [same firstOld, same secondOld] at equal
      exact sound.distinct first second firstOld secondOld equal
    · rw [same firstOld, own] at equal
      exact absurd equal (fresh first firstOld)
    · rw [same secondOld, own] at equal
      exact absurd equal.symm (fresh second secondOld)
    · rfl
  · intro uploadId upload found
    rcases registry found with known | ⟨rfl, rfl⟩
    · obtain ⟨below, -⟩ := sound.registered uploadId upload known
      have ready := sound.ready uploadId upload known
      have other := fresh upload below
      rw [same below, objects below]
      refine ⟨?_, ?_, ready.staged⟩
      · simp only [State.createUpload, CompositeBackend.startMultipart,
          CompositeBackend.addTarget, MemoryIndexStore.startMultipart,
          Table.lookup_emplace_eq, if_neg other]
        exact ready.target
      · simp only [State.createUpload, CompositeBackend.startMultipart,
          CompositeBackend.addTarget, MemoryIndexStore.startMultipart,
          Table.lookup_emplace_eq, if_neg other]
        exact ready.record
    · rw [own]
      constructor
      · simp [State.createUpload, CompositeBackend.startMultipart,
          CompositeBackend.addTarget, MemoryIndexStore.startMultipart,
          Table.lookup_emplace_eq]
      · simp [State.createUpload, CompositeBackend.startMultipart,
          CompositeBackend.addTarget, MemoryIndexStore.startMultipart,
          Table.lookup_emplace_eq]
      · intro partNumber recorded
        simp [State.createUpload, MultipartStore.create] at recorded

/-- A part write spares every other upload. -/
theorem spares_writePart
    (backend : CompositeBackend)
    (uploadId : String)
    (partNumber offset : Nat)
    (source : Bytes)
    (now : Nat) :
    Spares backend
        (backend.writePart uploadId partNumber offset source now).2
        {uploadId} ∧
      (backend.writePart uploadId partNumber offset source now).2 =
        { backend with
          data := (backend.data.writePart uploadId partNumber offset
            source).2 } := by
  have capacity := backend.data.writePart_capacityBytes uploadId partNumber
    offset source
  have stagings := fun key (other : key ≠ uploadId) =>
    backend.data.lookup_writePart_of_ne partNumber offset source other
  unfold CompositeBackend.writePart
  split <;>
    next written =>
      rw [written] at stagings capacity ⊢
      exact ⟨⟨fun _ _ => rfl, fun _ _ => rfl, stagings, rfl, capacity⟩, rfl⟩

/-- A part write stages the part, and keeps what is staged of its upload. -/
theorem staged_writePart
    (data : MemoryDataStore)
    (uploadId : String)
    (partNumber offset : Nat)
    (source : Bytes) :
    Staged (data.writePart uploadId partNumber offset source).2 uploadId
        partNumber ∧
      ∀ number, Staged data uploadId number →
        Staged (data.writePart uploadId partNumber offset source).2 uploadId
          number := by
  obtain ⟨bytes, reservedBytes, found⟩ :=
    data.lookup_writePart_self uploadId partNumber offset source
  constructor
  · exact ⟨_, found, by simp⟩
  · rintro number ⟨staging, known, staged⟩
    refine ⟨_, found, ?_⟩
    rw [MemoryDataStore.staging, known, Option.getD_some,
      Table.lookup_insert_eq]
    split
    · simp
    · exact staged

/-- Recording a staged part keeps a gateway sound. -/
theorem Sound.registerPart
    {state : State}
    {upload : UploadPtr}
    {partNumber : Nat}
    (sound : Sound state)
    (staged : Staged state.backend.data (state.backendId upload) partNumber)
    (offset size : Nat)
    (etag : String)
    (now : Nat) :
    Sound (state.registerPart upload partNumber offset size etag now) := by
  refine sound.modify (fun _ => ⟨rfl, rfl⟩) ?_
  intro ready
  refine ⟨ready.target, ready.record, ?_⟩
  intro number recorded
  simp only [Table.lookup_insert_eq] at recorded
  split at recorded
  · next equal => rwa [equal]
  · exact ready.staged number recorded

/-- A part write keeps a gateway sound, whether it is refused or not. -/
theorem Sound.uploadPartAs
    {state : State}
    {offset : Nat}
    {source : Bytes}
    (sound : Sound state)
    (uploadId : String)
    (partNumber : Nat)
    (small : offset < sizeLimit)
    (short : source.length < sizeLimit)
    (size : Nat)
    (tag : Option String)
    (backendNow now : Nat) :
    Sound (state.uploadPartAs uploadId partNumber offset source size tag
      backendNow now).2 := by
  unfold State.uploadPartAs
  cases state.lookup uploadId with
  | error error => exact sound
  | ok upload =>
      obtain ⟨spares, after⟩ := spares_writePart state.backend
        (state.backendId upload) partNumber offset source backendNow
      obtain ⟨staged, keeps⟩ := staged_writePart state.backend.data
        (state.backendId upload) partNumber offset source
      obtain ⟨used, limit⟩ := room sound
      have written : Sound { state with
          backend := (state.backend.writePart (state.backendId upload)
            partNumber offset source backendNow).2 } := by
        refine sound.withBackend spares ?_ ?_
        · rw [after]
          exact sound.accounts.writePart (by omega) (by omega)
        · intro other registered found changed
          have ready := sound.ready other registered found
          rw [after]
          rw [Set.mem_singleton_iff.mp changed] at ready ⊢
          exact ⟨ready.target, ready.record, fun number recorded =>
            keeps number (ready.staged number recorded)⟩
      have present : Staged (state.backend.writePart (state.backendId upload)
          partNumber offset source backendNow).2.data (state.backendId upload)
            partNumber := by
        rw [after]
        exact staged
      unfold State.backendId at written present
      dsimp only
      split
      · next outcome =>
          rw [outcome] at written
          exact written
      · next outcome =>
          rw [outcome] at written present
          exact written.registerPart present offset size _ now

/-! ## Dropping an upload -/

/-- An upload has left the registry. -/
def Unregistered (state : State) (upload : UploadPtr) : Prop :=
  upload < state.store.allocated ∧
    ∀ uploadId, state.store.byId.lookup uploadId ≠ some upload

/-- What the backend keeps for an upload that has left the registry may
change. -/
theorem Sound.withBackend_of_unregistered
    {state : State}
    {backend : CompositeBackend}
    {upload : UploadPtr}
    (sound : Sound state)
    (gone : Unregistered state upload)
    (spares : Spares state.backend backend {state.backendId upload})
    (accounts : backend.data.Accounts 0) :
    Sound { state with backend } := by
  apply sound.withBackend spares accounts
  intro uploadId other found equal
  obtain ⟨below, -⟩ := sound.registered uploadId other found
  have same := sound.distinct other upload below gone.1
    (Set.mem_singleton_iff.mp equal)
  subst same
  exact absurd found (gone.2 uploadId)

/-- An upload that has left the registry stays out of it. -/
theorem Unregistered.erase
    {state : State}
    {upload : UploadPtr}
    (gone : Unregistered state upload)
    (uploadId : String) :
    Unregistered { state with store := state.store.erase uploadId } upload := by
  refine ⟨gone.1, ?_⟩
  intro other registered
  simp only [MultipartStore.erase, Table.lookup_erase_eq] at registered
  split at registered
  · cases registered
  · exact gone.2 other registered

/-- An upload leaves the registry with its entry. -/
theorem Sound.unregistered_erase
    {state : State}
    {uploadId : String}
    {upload : UploadPtr}
    (sound : Sound state)
    (found : state.store.byId.lookup uploadId = some upload) :
    Unregistered { state with store := state.store.erase uploadId } upload := by
  obtain ⟨below, named⟩ := sound.registered uploadId upload found
  refine ⟨below, ?_⟩
  intro other registered
  simp only [MultipartStore.erase, Table.lookup_erase_eq] at registered
  split at registered
  · cases registered
  · next different =>
      obtain ⟨-, otherNamed⟩ := sound.registered other upload registered
      exact different (otherNamed.symm.trans named)

/-- An abort spares every other upload. -/
theorem spares_abortMultipart
    (backend : CompositeBackend)
    (uploadId : String) :
    Spares backend (backend.abortMultipart uploadId).2 {uploadId} where
  targets := by
    intro key other
    simp [CompositeBackend.abortMultipart, CompositeBackend.eraseTarget,
      Set.mem_singleton_iff.not.mp other]
  records := by
    intro key other
    simp [CompositeBackend.abortMultipart, CompositeBackend.eraseTarget,
      MemoryIndexStore.abortMultipart, Set.mem_singleton_iff.not.mp other]
  stagings := by
    intro key other
    simp [CompositeBackend.abortMultipart, CompositeBackend.eraseTarget,
      Set.mem_singleton_iff.not.mp other]
  seq := rfl
  capacity := backend.data.abortMultipartData_capacityBytes uploadId

/-- Aborting the backend side of an upload that has left the registry keeps a
gateway sound. -/
theorem Sound.abortMultipart
    {state : State}
    {upload : UploadPtr}
    (sound : Sound state)
    (gone : Unregistered state upload) :
    Sound { state with
      backend :=
        (state.backend.abortMultipart (state.backendId upload)).2 } :=
  sound.withBackend_of_unregistered gone (spares_abortMultipart _ _)
    sound.accounts.abortMultipartData

/-- Setting the lifecycle state of an upload keeps its identifier in the
backend. -/
theorem backendId_setState
    (state : State)
    (upload other : UploadPtr)
    (lifecycle : UploadState) :
    ((state.store.setState upload lifecycle).objects other).backendUploadId =
      state.backendId other := by
  rw [Multipart.objects_setState]
  split
  · next same =>
      subst same
      rfl
  · rfl

theorem Sound.abortUpload
    {state : State}
    (sound : Sound state)
    (uploadId dataPath : String) :
    Sound (state.abortUpload uploadId dataPath).2 := by
  unfold State.abortUpload
  cases found : state.store.find uploadId with
  | none => exact sound
  | some upload =>
      dsimp only
      cases marked : state.markAborted upload dataPath with
      | error error => exact sound
      | ok next =>
          obtain ⟨-, rfl⟩ := Multipart.markAborted_eq_ok marked
          obtain ⟨-, named⟩ := sound.registered uploadId upload found
          have aborted := sound.setState upload .aborted
          have gone := aborted.unregistered_erase found
          have dropped := (aborted.erase uploadId).abortMultipart gone
          have key := backendId_setState state upload upload .aborted
          dsimp only [State.backendId, MultipartStore.erase] at dropped key
          rw [key] at dropped
          dsimp only [State.withStore]
          rw [named]
          exact dropped

/-! ## Completing an upload -/

/-- A backend that is ready for an upload completes it from any of its staged
parts. -/
theorem completeMultipart_of_ready
    {backend : CompositeBackend}
    {key : String}
    {recorded : Table Nat PartProgress}
    {parts : List PartRecord}
    (ready : Ready backend key recorded)
    (accounts : backend.data.Accounts 0)
    (capacity : backend.data.capacityBytes < sizeLimit)
    (nonempty : parts.isEmpty = false)
    (distinct : (CompositeBackend.orderedNumbers parts).Nodup)
    (listed : ∀ part ∈ parts, recorded.lookup part.partNumber ≠ none)
    (now : Nat) :
    ∃ metadata next,
      backend.completeMultipart key parts now = (.ok metadata, next) ∧
        Spares backend next {key} ∧ next.data.Accounts 0 := by
  have limit : sizeLimit + sizeLimit < wordModulus := by decide
  obtain ⟨⟨bucket, object⟩, target⟩ :=
    Option.ne_none_iff_exists'.mp ready.target
  have staged : ∀ number ∈ CompositeBackend.orderedNumbers parts,
      Staged backend.data key number := by
    intro number member
    obtain ⟨part, partListed, rfl⟩ :=
      CompositeBackend.mem_orderedNumbers.mp member
    exact ready.staged _ (listed part partListed)
  obtain ⟨first, rest, rfl⟩ : ∃ first rest, parts = first :: rest := by
    cases parts with
    | nil => simp at nonempty
    | cons first rest => exact ⟨first, rest, rfl⟩
  obtain ⟨staging, found, -⟩ := staged first.partNumber
    (CompositeBackend.mem_orderedNumbers.mpr
      ⟨first, List.mem_cons_self, rfl⟩)
  obtain ⟨data, assembled, -, mpu⟩ :=
    @MemoryDataStore.assembleObject_eq_ok _ _ _ _ _ staging.part bucket object
      accounts found distinct (by
        intro number member
        obtain ⟨same, foundAgain, present⟩ := staged number member
        obtain rfl := Option.some.inj (found.symm.trans foundAgain)
        obtain ⟨bytes, staged⟩ := Option.ne_none_iff_exists'.mp present
        rw [MpuParts.part, staged, Option.getD_some])
  have kept := accounts.assembleObject key bucket object distinct (by omega)
  have same := backend.data.assembleObject_capacityBytes key bucket object
    (CompositeBackend.orderedNumbers (first :: rest))
  rw [assembled] at kept same
  refine ⟨_, _, CompositeBackend.completeMultipart_of_assembled target
    ready.record assembled now, ⟨?_, ?_, ?_, rfl, same⟩, kept⟩
  · intro other different
    simp [CompositeBackend.eraseTarget,
      Set.mem_singleton_iff.not.mp different]
  · intro other different
    simp [CompositeBackend.eraseTarget, MemoryIndexStore.putObjectIndex,
      Set.mem_singleton_iff.not.mp different]
  · intro other different
    simp [CompositeBackend.eraseTarget, mpu,
      Set.mem_singleton_iff.not.mp different]

/-- In a sound gateway the backend completes every upload whose completion is
admitted. -/
theorem Sound.completeMultipart
    {options : CoordinatorOptions}
    {state claimed : State}
    {request : CompleteRequest}
    {upload : UploadPtr}
    (sound : Sound state)
    (admitted : state.admission options request = .ok (upload, claimed))
    (now : Nat) :
    ∃ metadata backend,
      claimed.backend.completeMultipart (state.backendId upload) request.parts
          now = (.ok metadata, backend) ∧
        Spares state.backend backend {state.backendId upload} ∧
          backend.data.Accounts 0 := by
  obtain ⟨nonempty, found, owned, valid⟩ :=
    State.admission_eq_ok_iff.mp admitted
  obtain ⟨-, -, rfl⟩ := State.claim_eq_ok_iff.mp owned
  have distinct : (CompositeBackend.orderedNumbers request.parts).Nodup := by
    rw [orderedNumbers_of_validateParts valid]
    exact List.nodup_range'
  refine completeMultipart_of_ready (sound.ready _ _ found) sound.accounts
    sound.capacity nonempty distinct ?_ now
  intro part listed
  obtain ⟨progress, recorded, -⟩ := recorded_of_validateParts valid listed
  rw [recorded]
  exact Option.some_ne_none progress

theorem Sound.completeUpload
    {state : State}
    (sound : Sound state)
    (options : CoordinatorOptions)
    (request : CompleteRequest)
    (now : Nat) :
    Sound (state.completeUpload options request now).2 := by
  cases admitted : state.admission options request with
  | error error =>
      rw [State.completeUpload_of_refused admitted now]
      exact sound
  | ok outcome =>
      obtain ⟨upload, claimed⟩ := outcome
      obtain ⟨metadata, backend, completed, spares, accounts⟩ :=
        sound.completeMultipart admitted now
      obtain ⟨nonempty, found, owned, valid⟩ :=
        State.admission_eq_ok_iff.mp admitted
      obtain ⟨-, named⟩ := sound.registered _ _ found
      obtain ⟨-, -, rfl⟩ := State.claim_eq_ok_iff.mp owned
      have settled :=
        (sound.setState upload .completing).setState upload .completed
      have gone := settled.unregistered_erase found
      have key : ((((state.store.setState upload .completing).setState upload
          .completed).objects upload).backendUploadId) =
            state.backendId upload := by
        rw [← backendId_setState state upload upload .completing]
        exact backendId_setState
          { state with store := state.store.setState upload .completing }
          upload upload .completed
      rw [← key] at spares
      have final := (settled.erase request.uploadId).withBackend_of_unregistered
        gone spares accounts
      unfold State.completeUpload
      rw [nonempty, found]
      dsimp only
      rw [owned]
      dsimp only
      rw [valid]
      dsimp only
      unfold State.backendId at completed
      simp only [Bool.false_eq_true, if_false, completed]
      rw [named]
      exact final

/-! ## Sweeping -/

/-- The uploads a pass of the sweeper removes have left the registry, and no
upload comes back to it. -/
theorem Sound.sweepExpired
    {state : State}
    (sound : Sound state)
    (now : Nat)
    (order : List String) :
    Sound { state with store := (state.store.sweepExpired now order).2 } ∧
      ∀ upload,
        (upload ∈ (state.store.sweepExpired now order).1 ∨
            Unregistered state upload) →
          Unregistered
            { state with store := (state.store.sweepExpired now order).2 }
            upload := by
  induction order generalizing state with
  | nil =>
      refine ⟨sound, ?_⟩
      rintro upload (member | gone)
      · simp [MultipartStore.sweepExpired] at member
      · exact gone
  | cons uploadId rest inductionHypothesis =>
      rw [MultipartStore.sweepExpired]
      by_cases disabled : state.store.ttl = 0
      · rw [if_pos disabled]
        refine ⟨sound, ?_⟩
        rintro upload (member | gone)
        · simp at member
        · exact gone
      rw [if_neg disabled]
      rcases Multipart.sweepOne_cases state.store now uploadId with
        kept | ⟨swept, found, dropped⟩
      · rw [kept]
        exact inductionHypothesis sound
      · rw [dropped]
        obtain ⟨later, stays⟩ := inductionHypothesis (sound.erase uploadId)
        refine ⟨later, ?_⟩
        rintro upload (member | gone)
        · rcases List.mem_append.mp member with first | others
          · obtain rfl : upload = swept := by simpa using first
            exact stays upload (.inr (sound.unregistered_erase found))
          · exact stays upload (.inl others)
        · exact stays upload (.inr (gone.erase uploadId))

/-- Aborting what the sweeper has removed keeps a gateway sound. -/
theorem Sound.abortExpired
    {state : State}
    {upload : UploadPtr}
    (sound : Sound state)
    (gone : Unregistered state upload) :
    Sound (state.abortExpired upload) := by
  have aborted := sound.setState upload .aborted
  have key := backendId_setState state upload upload .aborted
  unfold State.abortExpired State.abortBackend
  split
  · exact aborted
  · have dropped := aborted.abortMultipart gone
    unfold State.backendId at dropped key
    dsimp only at dropped
    rw [key] at dropped
    exact dropped

theorem Sound.sweepMultipart
    {state : State}
    (sound : Sound state)
    (now : Nat)
    (order : List String) :
    Sound (state.sweepMultipart now order) := by
  obtain ⟨swept, gone⟩ := sound.sweepExpired now order
  have removed := fun upload member => gone upload (.inl member)
  unfold State.sweepMultipart
  dsimp only
  generalize { state with
    store := (state.store.sweepExpired now order).2 } = start at swept removed ⊢
  generalize (state.store.sweepExpired now order).1 = expired at removed ⊢
  induction expired generalizing start with
  | nil => exact swept
  | cons upload rest inductionHypothesis =>
      rw [List.foldl_cons]
      apply inductionHypothesis
      · exact swept.abortExpired (removed upload List.mem_cons_self)
      · intro other member
        have out := removed other (List.mem_cons_of_mem _ member)
        unfold State.abortExpired State.abortBackend
        split <;> exact out

/-! ## Runs -/

/-- An operation keeps a gateway sound. -/
theorem Sound.apply
    {options : CoordinatorOptions}
    {state : State}
    {label : Label}
    (sound : Sound state)
    (moderate : label.operation.Moderate) :
    Sound (apply options state label) := by
  obtain ⟨operation, backendNow, now⟩ := label
  cases operation with
  | createUpload params => exact sound.createUpload options params backendNow now
  | uploadPart uploadId partNumber offset source size tag =>
      obtain ⟨small, short, -⟩ := moderate
      exact sound.uploadPartAs uploadId partNumber small short size tag
        backendNow now
  | completeUpload request =>
      exact sound.completeUpload options request backendNow
  | abortUpload uploadId dataPath => exact sound.abortUpload uploadId dataPath
  | sweep order => exact sound.sweepMultipart now order
  | writeRange bucket key offset source totalSize =>
      obtain ⟨small, short, sized⟩ := moderate
      exact sound.writeRange bucket key small short sized backendNow
  | reserve bucket key totalSize =>
      exact sound.reserve bucket key moderate backendNow

/-- Every state a gateway reaches is sound. -/
theorem Sound.of_reachable
    {options : CoordinatorOptions}
    {state : State}
    (reachable : (machine options).Reachable Moderate state) :
    Sound state := by
  refine reachable.invariant ?_ ?_
  · rintro start ⟨capacityBytes, ttl, small, rfl⟩
    exact Sound.init small
  · rintro before label after sound moderate stepped
    obtain rfl := Option.some.inj stepped
    exact sound.apply moderate

/-- After every run of operations, a completion that is admitted is completed by
the backend, and succeeds. -/
theorem completeMultipart_of_admitted
    (options : CoordinatorOptions)
    {state claimed : State}
    {request : CompleteRequest}
    {upload : UploadPtr}
    (reachable : (machine options).Reachable Moderate state)
    (admitted : state.admission options request = .ok (upload, claimed))
    (now : Nat) :
    ∃ metadata,
      (claimed.backend.completeMultipart
          (state.store.objects upload).backendUploadId request.parts now).1 =
        .ok metadata ∧
      (state.completeUpload options request now).1 = .ok metadata := by
  obtain ⟨metadata, backend, completed, -, -⟩ :=
    (Sound.of_reachable reachable).completeMultipart admitted now
  obtain ⟨answer, -⟩ := State.completeUpload_of_admitted admitted now
  obtain ⟨-, -, owned, -⟩ := State.admission_eq_ok_iff.mp admitted
  obtain ⟨-, -, rfl⟩ := State.claim_eq_ok_iff.mp owned
  unfold State.backendId at completed
  refine ⟨metadata, by rw [completed], ?_⟩
  rw [answer]
  dsimp only at completed
  rw [completed]

/-- An upload of one part whose destination has taken all other capacity. -/
def fullRun : List Label :=
  [⟨.createUpload ⟨"bucket", "key", none, "gpu-direct", ""⟩, 0, 0⟩,
    ⟨.uploadPart (mpuId 1 0) 1 0 [7] 1 none, 0, 0⟩,
    ⟨.writeRange "bucket" "key" 0 [1, 2, 3] (some 3), 0, 0⟩]

/-- The gateway after it. -/
def fullGateway : State := fullRun.foldl (apply ⟨8, 4⟩) (State.init 4 10)

/-- The theorem at a gateway that has no capacity left. -/
theorem completeMultipart_of_admitted_full :
    ∃ upload claimed,
      fullGateway.admission ⟨8, 4⟩ State.completeOnePart =
          .ok (upload, claimed) ∧
        ∃ metadata,
          (claimed.backend.completeMultipart
              (fullGateway.store.objects upload).backendUploadId
              State.completeOnePart.parts 0).1 = .ok metadata ∧
          (fullGateway.completeUpload ⟨8, 4⟩ State.completeOnePart 0).1 =
            .ok metadata := by
  have reachable : (machine ⟨8, 4⟩).Reachable Moderate fullGateway :=
    ⟨State.init 4 10, fullRun, ⟨4, 10, by decide, rfl⟩,
      .cons trivial rfl (.cons ⟨by decide, by decide, by decide⟩ rfl
        (.cons ⟨by decide, by decide, by decide⟩ rfl .nil))⟩
  have succeeds : (fullGateway.admission ⟨8, 4⟩ State.completeOnePart).success =
      true := by decide
  cases admitted : fullGateway.admission ⟨8, 4⟩ State.completeOnePart with
  | error error =>
      rw [admitted] at succeeds
      cases succeeds
  | ok outcome =>
      exact ⟨outcome.1, outcome.2, rfl,
        completeMultipart_of_admitted ⟨8, 4⟩ reachable admitted 0⟩

end Sequential

end Gateway
end TurboAccess
