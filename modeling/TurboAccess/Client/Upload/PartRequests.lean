import TurboAccess.Client.Gds.MemoryRegistry
import TurboAccess.Client.Upload.PartAttempts
import TurboAccess.Gateway.Gds.ControlPlane
import TurboAccess.Gateway.Ucx.Executor

/-!
# Requests of part uploads

What an attempt of `UploadPart` sends: a chunk of the part on the GPU path, and
a commit of the part on the CPU path.  The session of either path takes the
offset of the part within the object, and hands it to nobody.  The dispatcher of
chunks has an offset of its own, which stays zero for a write.

What the layers below answer to an attempt is an argument: the session that was
opened, the token of the buffer, and the identifier under which the buffer of
the gateway was prepared and written.

The gateway stages the bytes at the beginning of the part on either path, as the
attempts do that it makes of these requests.
-/

namespace TurboAccess
namespace Client

open Gateway.Gds (GdsChunkRequest Media stagePart)
open Gateway.Ucx (RegisteredBuffer overComposite)
open Gateway.Ucx.UcxExecutor (doWritePartData)
open Gds (BufferView GdsClientOptions makeTransportFailure
  makeUnsupportedPath preflightGds)

/-- What the session of a multipart upload keeps, on either path. -/
structure MultipartSession where
  bucket : String
  key : String
  uploadId : String
  deriving DecidableEq

/-! ## The GPU path -/

/-- What the dispatcher reads of an open session. -/
structure TransferSession where
  requestId : String
  sessionId : String
  ticket : String
  deriving DecidableEq

/-- What the path reads of a request to write a part. -/
structure PutPartRequest extends Gds.PutObjectRequest where
  checksumPolicy : String
  deriving DecidableEq

/-- What a dispatcher of chunks keeps. -/
structure ChunkDispatcher where
  bucket : String
  key : String
  offset : Nat := 0
  checksumPolicy : String
  requestId : String
  sessionId : String
  ticket : String
  uploadId : String := ""
  partNumber : Nat := 0
  partBaseOffset : Nat := 0
  deriving DecidableEq

namespace ChunkDispatcher

/-- The dispatcher of a write.  Its request has no offset. -/
def ofPut (session : TransferSession) (request : PutPartRequest) :
    ChunkDispatcher where
  bucket := request.bucket
  key := request.key
  checksumPolicy := request.checksumPolicy
  requestId := session.requestId
  sessionId := session.sessionId
  ticket := session.ticket

def setMultipart
    (dispatcher : ChunkDispatcher)
    (uploadId : String)
    (partNumber : Nat) : ChunkDispatcher :=
  { dispatcher with
    uploadId
    partNumber
    partBaseOffset := dispatcher.offset }

/-- Error of a chunk without a token. -/
def missingRdmaToken (requestId : String) : Error :=
  { makeTransportFailure "GDS chunk dispatched without a valid RDMA token"
      true with requestId }

/-- The request of a chunk.  The chunks of a part have their offset within the
part. -/
def dispatch
    (dispatcher : ChunkDispatcher)
    (rdmaToken : String)
    (chunkOffset chunkSize : Nat) : Result GdsChunkRequest :=
  if rdmaToken = "" then .error (missingRdmaToken dispatcher.requestId)
  else
    .ok
      { sessionId := dispatcher.sessionId
        transferTicket := dispatcher.ticket
        bucket := dispatcher.bucket
        objectKey := dispatcher.key
        checksumPolicy := dispatcher.checksumPolicy
        chunkOffset :=
          if dispatcher.uploadId = "" then chunkOffset
          else subWord chunkOffset dispatcher.partBaseOffset
        chunkSize
        rdmaToken
        uploadId := dispatcher.uploadId
        partNumber := dispatcher.partNumber }

end ChunkDispatcher

/-- The only chunk of a part. -/
def executePutPart
    (session : TransferSession)
    (request : PutPartRequest)
    (buffer : BufferView)
    (token : Result String)
    (uploadId : String)
    (partNumber : Nat) : Result GdsChunkRequest :=
  if buffer.data = 0 ∨ buffer.size = 0 then
    .error (makeInvalidArgument
      "GDS transfer requires non-null buffer and positive size")
  else
    match token with
    | .error error => .error error
    | .ok rdmaToken =>
        let dispatcher := ChunkDispatcher.ofPut session request
        let dispatcher :=
          if uploadId = "" then dispatcher
          else dispatcher.setMultipart uploadId partNumber
        dispatcher.dispatch rdmaToken 0 buffer.size

namespace Gds

/-- Error of a part over the limit of one write. -/
def partTooLarge (size limit : Nat) : Error :=
  { putTooLarge size limit with
    message := "GDS UploadPart body " ++ toString size ++
      " exceeds gds.put_single_max_bytes " ++ toString limit }

/-- The request that one attempt of `PutObjectPart` sends. -/
def putObjectPart
    (available : Bool)
    (options : GdsClientOptions)
    (request : PutPartRequest)
    (buffer : BufferView)
    (opened : Result TransferSession)
    (token : Result String)
    (uploadId : String)
    (partNumber : Nat) : Result GdsChunkRequest :=
  match preflightGds available buffer.type with
  | .error error => .error error
  | .ok () =>
      if options.putSingleMaxBytes ≠ 0 ∧
          buffer.size > options.putSingleMaxBytes then
        .error (partTooLarge buffer.size options.putSingleMaxBytes)
      else
        match opened with
        | .error error => .error error
        | .ok session =>
            executePutPart session request buffer token uploadId partNumber

/-- The request of an attempt on the GPU path. -/
def uploadPart
    (session : MultipartSession)
    (partNumber _objectOffset : Nat)
    (checksumPolicy : String)
    (buffer : BufferView)
    (available : Bool)
    (options : GdsClientOptions)
    (opened : Result TransferSession)
    (token : Result String) : Result GdsChunkRequest :=
  let request : PutPartRequest :=
    { bucket := session.bucket
      key := session.key
      timeout := 30000
      idempotencyKey := ""
      checksumPolicy }
  putObjectPart available options request buffer opened token session.uploadId
    partNumber

end Gds

/-! ## The CPU path -/

/-- The request of a commit of a part. -/
structure RdmaCommitPartRequest where
  sessionId : String
  uploadId : String
  partNumber : Nat
  bytesTransferred : Nat
  clientChecksum : String
  deriving DecidableEq

namespace Rdma

/-- The commit that one attempt of `PutObjectPart` sends, once its buffer has
been written into that of the gateway. -/
def putObjectPart
    (available : Bool)
    (maxMsgBytes : Nat)
    (buffer : BufferView)
    (prepared : Result String)
    (clientChecksum : String)
    (uploadId : String)
    (partNumber : Nat) : Result RdmaCommitPartRequest :=
  if available = false then
    .error (makeUnsupportedPath .cpuDirect "UCX not initialized")
  else if uploadId = "" ∨ partNumber = 0 then
    .error (makeInvalidArgument
      "PutObjectPart 需要非空 upload_id 与 part_number>=1")
  else if buffer.size > maxMsgBytes then
    .error
      { code := .payloadTooLarge
        message := "UploadPart body exceeds rdma.max_msg_bytes"
        retryable := false
        failedPath := ""
        requestId := "" }
  else
    match prepared with
    | .error error => .error error
    | .ok sessionId =>
        .ok ⟨sessionId, uploadId, partNumber, buffer.size, clientChecksum⟩

/-- The request of an attempt on the CPU path, which knows no policy. -/
def uploadPart
    (session : MultipartSession)
    (partNumber _objectOffset : Nat)
    (_checksumPolicy : String)
    (buffer : BufferView)
    (available : Bool)
    (maxMsgBytes : Nat)
    (prepared : Result String)
    (clientChecksum : String) : Result RdmaCommitPartRequest :=
  putObjectPart available maxMsgBytes buffer prepared clientChecksum
    session.uploadId partNumber

end Rdma

/-! ## The commit at the gateway -/

/-- A commit whose data has arrived: look the upload up, write the part, and
record it. -/
def commitPart
    (media : Media)
    (request : RdmaCommitPartRequest)
    (buffer : RegisteredBuffer)
    (backendNow now : Nat) : Gateway.Result String × Media :=
  match media.uploads.lookup request.uploadId with
  | .error error => (.error error, media)
  | .ok upload =>
      match doWritePartData overComposite (media.uploads.backend, backendNow)
          buffer (media.uploads.store.objects upload).backendUploadId
          request.partNumber request.bytesTransferred request.clientChecksum with
      | (.error error, backend, _) =>
          (.error error,
            { media with uploads := { media.uploads with backend } })
      | (.ok etag, backend, _) =>
          (.ok etag,
            { media with
              uploads := ({ media.uploads with backend }).registerPart upload
                request.partNumber 0 request.bytesTransferred etag now })

/-! ## Requests and attempts -/

/-- What a chunk of a part asks for is the whole part from its first byte,
wherever the part belongs in the object. -/
theorem request_of_gds_uploadPart
    {session : MultipartSession}
    {partNumber objectOffset : Nat}
    {checksumPolicy : String}
    {buffer : BufferView}
    {available : Bool}
    {options : GdsClientOptions}
    {opened : Result TransferSession}
    {token : Result String}
    {request : GdsChunkRequest}
    (named : session.uploadId ≠ "")
    (made : Gds.uploadPart session partNumber objectOffset checksumPolicy buffer
      available options opened token = .ok request) :
    buffer.size ≠ 0 ∧ ∃ (transfer : TransferSession) (rdmaToken : String),
      request =
        { sessionId := transfer.sessionId
          transferTicket := transfer.ticket
          bucket := session.bucket
          objectKey := session.key
          checksumPolicy
          chunkOffset := 0
          chunkSize := buffer.size
          rdmaToken
          uploadId := session.uploadId
          partNumber } := by
  unfold Gds.uploadPart Gds.putObjectPart at made
  split at made
  · cases made
  · split at made
    · cases made
    · split at made
      · cases made
      · next transfer =>
          unfold executePutPart at made
          split at made
          · cases made
          · next whole =>
              split at made
              · cases made
              · next rdmaToken =>
                  dsimp only at made
                  rw [ChunkDispatcher.dispatch] at made
                  split at made
                  · cases made
                  · cases made
                    refine ⟨(not_or.mp whole).2, transfer, rdmaToken, ?_⟩
                    simp [ChunkDispatcher.setMultipart, ChunkDispatcher.ofPut,
                      named, subWord]

/-- So does a commit of a part. -/
theorem request_of_rdma_uploadPart
    {session : MultipartSession}
    {partNumber objectOffset maxMsgBytes : Nat}
    {checksumPolicy clientChecksum : String}
    {buffer : BufferView}
    {available : Bool}
    {prepared : Result String}
    {request : RdmaCommitPartRequest}
    (made : Rdma.uploadPart session partNumber objectOffset checksumPolicy
      buffer available maxMsgBytes prepared clientChecksum = .ok request) :
    ∃ sessionId, request =
      ⟨sessionId, session.uploadId, partNumber, buffer.size,
        clientChecksum⟩ := by
  unfold Rdma.uploadPart Rdma.putObjectPart at made
  split at made
  · cases made
  · split at made
    · cases made
    · split at made
      · cases made
      · split at made
        · cases made
        · next sessionId =>
            cases made
            exact ⟨sessionId, rfl⟩

namespace PartUploads

variable
  {md5 : Bytes → Bytes}
  {policy : RetryPolicy}
  {plan : PartsPlan}
  {state : PartUploads}
  {name : Nat × Nat}
  {session : MultipartSession}
  {objectOffset : Nat}
  {buffer : BufferView}
  {available : Bool}

/-- The steps of an attempt on the GPU path do what the gateway does to its
request. -/
theorem attempt_of_chunk
    {clientOptions : GdsClientOptions}
    {opened : Result TransferSession}
    {token : Result String}
    {request : GdsChunkRequest}
    (options : Gateway.Gds.GdsOptions)
    (answers : Gateway.Gds.CuObjAnswers)
    (backendNow now : Nat)
    (flow : plan.flow = .gpuDirect)
    (named : plan.uploadId ≠ "")
    (same : session.uploadId = plan.uploadId)
    (sized : buffer.size = plan.size name.1)
    (fits : plan.size name.1 ≤ options.maxChunkBytes)
    (made : Gds.uploadPart session name.1 objectOffset
      (plan.checksumPolicy name.1) buffer available clientOptions opened token =
        .ok request)
    (sent : state.attempts name = .sent) :
    ∃ labels final,
      (machine md5 policy plan).Path Machine.always state labels final ∧
        (final.attempts name, final.media) =
          let (result, media, _) := Gateway.Gds.uploadPart md5 options
            state.media request.uploadId request.partNumber request.chunkOffset
            request.chunkSize request.checksumPolicy answers backendNow now
          (.finished (result.map (·.partEtag)), media) := by
  rw [← same] at named
  obtain ⟨nonempty, transfer, rdmaToken, rfl⟩ :=
    request_of_gds_uploadPart named made
  rw [sized] at nonempty
  dsimp only
  rw [same, sized]
  exact attempt_alone options answers backendNow now flow nonempty fits sent

/-- The steps of an attempt on the CPU path do what the gateway does to its
request, when the buffer of the gateway holds the bytes of the part. -/
theorem attempt_of_commit
    {checksumPolicy clientChecksum : String}
    {maxMsgBytes : Nat}
    {prepared : Result String}
    {request : RdmaCommitPartRequest}
    (registered : RegisteredBuffer)
    (backendNow now : Nat)
    (flow : plan.flow = .cpuDirect)
    (same : session.uploadId = plan.uploadId)
    (sized : buffer.size = plan.size name.1)
    (made : Rdma.uploadPart session name.1 objectOffset checksumPolicy buffer
      available maxMsgBytes prepared clientChecksum = .ok request)
    (sent : state.attempts name = .sent) :
    ∃ labels final,
      (machine md5 policy plan).Path Machine.always state labels final ∧
        (final.attempts name, final.media) =
          let (result, media) :=
            commitPart state.media request registered backendNow now
          (.finished result, media) := by
  obtain ⟨sessionId, rfl⟩ := request_of_rdma_uploadPart made
  have plain : ¬plan.Digests name.1 := by
    rintro ⟨other, -⟩
    rw [flow] at other
    cases other
  rw [commitPart]
  dsimp only
  rw [same, sized]
  cases located : state.media.uploads.lookup plan.uploadId with
  | error error =>
      have received : (machine md5 policy plan).step _ _ = _ :=
        step_receive_refused sent located
      refine ⟨_, _, .cons trivial received .nil, ?_⟩
      rw [setAttempt_attempts, Function.update_self]
      rfl
  | ok upload =>
      have received : (machine md5 policy plan).step _ _ = _ :=
        step_receive sent located
      have found : (state.setAttempt name (.found upload)).attempts name =
          .found upload := Function.update_self name _ _
      dsimp only
      rw [doWritePartData, overComposite]
      dsimp only
      rcases written : state.media.uploads.backend.writePart
        (state.media.uploads.store.objects upload).backendUploadId name.1 0
        (registered.view (plan.size name.1)) backendNow with ⟨outcome, backend⟩
      have staged : stagePart state.media
          (state.media.uploads.store.objects upload).backendUploadId name.1 0
          (registered.view (plan.size name.1)) backendNow =
            (outcome, { state.media with
              uploads := { state.media.uploads with backend } }, some
                (.writePart (state.media.uploads.store.objects
                  upload).backendUploadId name.1 0
                    (registered.view (plan.size name.1)))) := by
        rw [stagePart, written]
      have stepped : (machine md5 policy plan).step _ _ = _ :=
        step_write found staged
      cases outcome with
      | error error =>
          refine ⟨_, _, .cons trivial received (.cons trivial stepped .nil), ?_⟩
          rw [setAttempt_attempts, Function.update_self]
          rfl
      | ok etag =>
          rw [afterStaging, if_neg plain] at stepped
          refine ⟨_, _, .cons trivial received (.cons trivial stepped
            (.cons trivial (step_register now
              (Function.update_self _ _ _)) .nil)), ?_⟩
          rw [setAttempt_attempts, Function.update_self]
          rfl

end PartUploads

end Client
end TurboAccess
