import TurboAccess.Lib.Machine
import TurboAccess.Gateway.Multipart.Coordinator

/-!
# Interleaved multipart calls

Any number of concurrent calls over one gateway.  A frame is what one call has
still to do, and a step of a frame is one section the code executes under a
lock.  Frames that have finished keep their outcome, so that a state shows what
every call of the run has returned.

The identifiers and the data flow of an upload are written only when it is
created; where the code copies the backend identifier of an upload to a local
variable, the frames read it from the upload.

The sweeper visits one entry of the registry in a step, in any order, and may
stop at any time.  These are more runs than the code has, which visits every
entry of a shard under one lock.
-/

namespace TurboAccess
namespace Gateway

namespace State

/-- Identifier of an upload in the backend. -/
def backendId (state : State) (upload : UploadPtr) : String :=
  (state.store.objects upload).backendUploadId

/-- Replace the data store. -/
def withData (state : State) (data : MemoryDataStore) : State :=
  { state with backend := { state.backend with data } }

/-- Replace the index store. -/
def withIndex (state : State) (index : MemoryIndexStore) : State :=
  { state with backend := { state.backend with index } }

/-- Replace the registry of uploads. -/
def withStore (state : State) (store : MultipartStore) : State :=
  { state with store }

@[simp] theorem withData_store (state : State) (data : MemoryDataStore) :
    (state.withData data).store = state.store := rfl

@[simp] theorem withIndex_store (state : State) (index : MemoryIndexStore) :
    (state.withIndex index).store = state.store := rfl

@[simp] theorem withStore_store (state : State) (store : MultipartStore) :
    (state.withStore store).store = store := rfl

@[simp] theorem withStore_backend (state : State) (store : MultipartStore) :
    (state.withStore store).backend = state.backend := rfl

@[simp] theorem withData_data (state : State) (data : MemoryDataStore) :
    (state.withData data).backend.data = data := rfl

@[simp] theorem withData_index (state : State) (data : MemoryDataStore) :
    (state.withData data).backend.index = state.backend.index := rfl

@[simp] theorem withIndex_index (state : State) (index : MemoryIndexStore) :
    (state.withIndex index).backend.index = index := rfl

@[simp] theorem withIndex_data (state : State) (index : MemoryIndexStore) :
    (state.withIndex index).backend.data = state.backend.data := rfl

end State

namespace Multipart

/-! ## Frames -/

/-- A range of one part that a call uploads. -/
structure PartWrite where
  partNumber : Nat
  offset : Nat
  source : Bytes
  deriving DecidableEq

/-- Progress of a completion that has claimed its upload. -/
inductive CompleteStage
  | claimed (recorded : Table Nat PartProgress)
  | targeted (bucket key : String)
  | detached (bucket key : String) (staging : MpuParts)
  | released (bucket key : String) (total : Nat) (assembled : Bytes)
  | installed (bucket key : String) (size : Nat)
  | taken (bucket key : String) (metadata : ObjectMetadata)
  | indexed (metadata : ObjectMetadata)
  | committed (metadata : ObjectMetadata)
  | marked (metadata : ObjectMetadata)
  | failing (error : Error)
  deriving DecidableEq

/-- Progress of the removal of an upload that has been marked aborted from the
backend. -/
inductive AbortStage
  | marked
  | dataAborted
  | indexAborted
  deriving DecidableEq

/-- Who aborts an upload: a call, or a pass of the sweeper with the uploads it
has dealt with and those it has still to deal with. -/
inductive AbortOrigin
  | call
  | sweeper (swept pending : List UploadPtr)
  deriving DecidableEq

/-- What a call has returned. -/
inductive Outcome
  | created (uploadId : String) (maxPartSize : Nat)
  | partUploaded (upload : UploadPtr) (part : PartWrite) (etag : String)
  | completed (upload : UploadPtr) (metadata : ObjectMetadata)
  | aborted (upload : UploadPtr)
  | nothingAborted
  | swept (uploads : List UploadPtr)
  | stored (metadata : ObjectMetadata)
  | failed (error : Error)
  deriving DecidableEq

/-- What a call has still to do. -/
inductive Frame
  | idle
  | started (params : StartUploadParams) (backendId : String)
  | targeted (params : StartUploadParams) (backendId : String)
  | partFound (upload : UploadPtr) (part : PartWrite)
  | partWritten (upload : UploadPtr) (part : PartWrite) (etag : String)
  | completeFound (upload : UploadPtr) (request : CompleteRequest)
  | completing (upload : UploadPtr) (request : CompleteRequest)
      (stage : CompleteStage)
  | abortFound (upload : UploadPtr) (dataPath : String)
  | aborting (upload : UploadPtr) (origin : AbortOrigin) (stage : AbortStage)
  | unregistering (upload : UploadPtr)
  | scanning (now : Nat) (expired : List UploadPtr)
  | sweeping (swept pending : List UploadPtr)
  | storing (bucket key : String) (size : Nat)
  | finished (outcome : Outcome)
  deriving DecidableEq

/-! ## Sections -/

/-- Calls of the gateway. -/
inductive Call
  | createUpload (params : StartUploadParams) (now : Nat)
  | uploadPart (uploadId : String) (part : PartWrite)
  | completeUpload (request : CompleteRequest)
  | abortUpload (uploadId dataPath : String)
  | sweep (now : Nat)
  | writeRange (bucket key : String) (offset : Nat) (source : Bytes)
      (totalSize : Option Nat)
  | reserve (bucket key : String) (totalSize : Nat)
  deriving DecidableEq

/-- What drives a frame: a new call, the clock, or the next registry entry a
sweeper visits. -/
inductive Input
  | call (call : Call)
  | clock (now : Nat)
  | visit (uploadId : String)
  deriving DecidableEq

/-- An input that names an upload by its identifier. -/
def Input.mentions (uploadId : String) : Input → Bool
  | .call (.uploadPart named _) => decide (named = uploadId)
  | .call (.completeUpload request) => decide (request.uploadId = uploadId)
  | .call (.abortUpload named _) => decide (named = uploadId)
  | .visit named => decide (named = uploadId)
  | _ => false

/-- First section of a call. -/
def accept (state : State) : Call → State × Frame
  | .createUpload params now =>
      let (backendId, index) := state.backend.index.startMultipart
        params.bucket params.objectKey params.expectedTotalSize now
      (state.withIndex index, .started params backendId)
  | .uploadPart uploadId part =>
      match state.lookup uploadId with
      | .error error => (state, .finished (.failed error))
      | .ok upload => (state, .partFound upload part)
  | .completeUpload request =>
      if request.parts.isEmpty then
        (state, .finished (.failed State.noParts))
      else
        match state.store.find request.uploadId with
        | none => (state, .finished (.failed uploadIdNotFound))
        | some upload => (state, .completeFound upload request)
  | .abortUpload uploadId dataPath =>
      match state.store.find uploadId with
      | none => (state, .finished .nothingAborted)
      | some upload => (state, .abortFound upload dataPath)
  | .sweep now =>
      if state.store.ttl = 0 then (state, .finished (.swept []))
      else (state, .scanning now [])
  | .writeRange bucket key offset source totalSize =>
      match state.backend.data.writeRange bucket key offset source
          totalSize with
      | (.error error, data) =>
          (state.withData data, .finished (.failed error))
      | (.ok _, data) =>
          (state.withData data, .storing bucket key
            (CompositeBackend.writtenSize offset source totalSize))
  | .reserve bucket key totalSize =>
      match state.backend.data.reserve bucket key totalSize with
      | (.error error, data) =>
          (state.withData data, .finished (.failed error))
      | (.ok _, data) =>
          (state.withData data, .storing bucket key totalSize)

/-- Next section of a completion that has claimed its upload. -/
def advanceCompletion
    (options : CoordinatorOptions)
    (state : State)
    (upload : UploadPtr)
    (request : CompleteRequest)
    (now : Nat) : CompleteStage → State × Frame
  | .claimed recorded =>
      match validateParts options recorded request.parts with
      | .error error => (state, .completing upload request (.failing error))
      | .ok () =>
          match state.backend.mpuTargets.lookup (state.backendId upload) with
          | none =>
              (state, .completing upload request
                (.failing CompositeBackend.targetNotFound))
          | some (bucket, key) =>
              (state, .completing upload request (.targeted bucket key))
  | .targeted bucket key =>
      match state.backend.data.detachStaging (state.backendId upload) with
      | none =>
          (state, .completing upload request
            (.failing MemoryDataStore.stagingNotFound))
      | some (staging, data) =>
          (state.withData data,
            .completing upload request (.detached bucket key staging))
  | .detached bucket key staging =>
      let numbers := CompositeBackend.orderedNumbers request.parts
      let data := state.backend.data.releaseBytes staging.reservedBytes
      match MemoryDataStore.assembledSize staging numbers with
      | none =>
          (state.withData data, .completing upload request
            (.failing MemoryDataStore.partMissing))
      | some total =>
          (state.withData data, .completing upload request
            (.released bucket key total
              (MemoryDataStore.assembledBytes staging numbers)))
  | .released bucket key total assembled =>
      match state.backend.data.installBody (makeKey bucket key) total
          assembled with
      | (false, data) =>
          (state.withData data, .completing upload request
            (.failing MemoryDataStore.capacityExceeded))
      | (true, data) =>
          (state.withData data,
            .completing upload request (.installed bucket key total))
  | .installed bucket key size =>
      match state.backend.index.takeMultipart (state.backendId upload) with
      | none =>
          (state, .completing upload request
            (.failing MemoryIndexStore.uploadNotFound))
      | some index =>
          (state.withIndex index, .completing upload request
            (.taken bucket key (makeMeta size now)))
  | .taken bucket key metadata =>
      (state.withIndex
          (state.backend.index.putObjectIndex bucket key metadata),
        .completing upload request (.indexed metadata))
  | .indexed metadata =>
      ({ state with
          backend := state.backend.eraseTarget (state.backendId upload) },
        .completing upload request (.committed metadata))
  | .committed metadata =>
      (state.withStore (state.store.setState upload .completed),
        .completing upload request (.marked metadata))
  | .marked metadata =>
      (state.withStore
          (state.store.erase (state.store.objects upload).uploadId),
        .finished (.completed upload metadata))
  | .failing error =>
      (state.withStore (state.store.setState upload .active),
        .finished (.failed error))

/-- Next section of the removal of an upload marked aborted from the
backend. -/
def advanceAbort
    (state : State)
    (upload : UploadPtr)
    (origin : AbortOrigin) : AbortStage → State × Frame
  | .marked =>
      (state.withData (state.backend.data.abortMultipartData
          (state.backendId upload)).2,
        .aborting upload origin .dataAborted)
  | .dataAborted =>
      (state.withIndex (state.backend.index.abortMultipart
          (state.backendId upload)).2,
        .aborting upload origin .indexAborted)
  | .indexAborted =>
      ({ state with
          backend := state.backend.eraseTarget (state.backendId upload) },
        match origin with
        | .call => .unregistering upload
        | .sweeper swept pending => .sweeping (swept ++ [upload]) pending)

/-- Next section of a frame. -/
def advance
    (options : CoordinatorOptions)
    (state : State) : Frame → Input → Option (State × Frame)
  | .idle, .call call => some (accept state call)
  | .started params backendId, .clock _ =>
      some ({ state with
          backend := state.backend.addTarget backendId params.bucket
            params.objectKey },
        .targeted params backendId)
  | .targeted params backendId, .clock now =>
      let (upload, store) := state.store.create params backendId now
      some (state.withStore store,
        .finished (.created (store.objects upload).uploadId
          options.maxPartSize))
  | .partFound upload part, .clock now =>
      match state.backend.writePart (state.backendId upload) part.partNumber
          part.offset part.source now with
      | (.error error, backend) =>
          some ({ state with backend }, .finished (.failed error))
      | (.ok etag, backend) =>
          some ({ state with backend }, .partWritten upload part etag)
  | .partWritten upload part etag, .clock now =>
      some (state.registerPart upload part.partNumber part.offset
          part.source.length etag now,
        .finished (.partUploaded upload part etag))
  | .completeFound upload request, .clock _ =>
      match state.claim upload request with
      | .error error => some (state, .finished (.failed error))
      | .ok claimed =>
          some (claimed, .completing upload request
            (.claimed (state.store.objects upload).parts))
  | .completing upload request stage, .clock now =>
      some (advanceCompletion options state upload request now stage)
  | .abortFound upload dataPath, .clock _ =>
      match state.markAborted upload dataPath with
      | .error error => some (state, .finished (.failed error))
      | .ok marked => some (marked, .aborting upload .call .marked)
  | .aborting upload origin stage, .clock _ =>
      some (advanceAbort state upload origin stage)
  | .unregistering upload, .clock _ =>
      some (state.withStore
          (state.store.erase (state.store.objects upload).uploadId),
        .finished (.aborted upload))
  | .scanning now expired, .visit uploadId =>
      let (found, store) := state.store.sweepOne now uploadId
      some (state.withStore store, .scanning now (expired ++ found.toList))
  | .scanning _ expired, .clock _ => some (state, .sweeping [] expired)
  | .sweeping swept [], .clock _ => some (state, .finished (.swept swept))
  | .sweeping swept (upload :: pending), .clock _ =>
      some (state.withStore (state.store.setState upload .aborted),
        .aborting upload (.sweeper swept pending) .marked)
  | .storing bucket key size, .clock now =>
      let metadata := makeMeta size now
      some (state.withIndex
          (state.backend.index.putObjectIndex bucket key metadata),
        .finished (.stored metadata))
  | _, _ => none

/-- All interleavings of calls over a gateway that has just started. -/
def machine (options : CoordinatorOptions) :
    Machine (Pool State Frame) (Nat × Input) where
  initial := fun pool => ∃ capacityBytes ttl,
    pool = ⟨State.init capacityBytes ttl, fun _ => .idle⟩
  step := Pool.step (advance options)

/-- Steps of one thread that only need the clock. -/
def clockSteps (thread count : Nat) : List (Nat × Input) :=
  List.replicate count (thread, .clock 0)

end Multipart

end Gateway
end TurboAccess
