import TurboAccess.Gateway.Crc32c
import TurboAccess.Gateway.Multipart.Coordinator
import TurboAccess.Gateway.Session.SessionStore

/-!
# The GDS executor

The server side of the GPU data path: chunks of objects are pushed to the memory
of a client, and pulled from it into the backend, into an object or into a part
of an upload.  What the cuObject server answers while a chunk is transferred is
an argument, and so is the digest of the tag of a part.

A chunk makes at most one backend call, which is returned with its outcome.
-/

namespace TurboAccess
namespace Gateway
namespace Gds

/-- Options of the data path: the largest chunk. -/
structure GdsOptions where
  maxChunkBytes : Nat
  deriving DecidableEq

/-- The default options. -/
def GdsOptions.default : GdsOptions := ⟨1024 * 1024 * 1024⟩

/-- What the cuObject server answers: whether it is connected, has a pinned
buffer and has a channel; the bytes a transfer reports, or a negative number,
with the text of its status; and what it leaves in the pinned buffer. -/
structure CuObjAnswers where
  connected : Bool
  leaseOk : Bool
  channelOk : Bool
  transferred : Int
  status : String
  pinned : Nat → UInt8

/-- The transferred bytes of the pinned buffer. -/
def CuObjAnswers.view (answers : CuObjAnswers) : Bytes :=
  (List.range answers.transferred.toNat).map answers.pinned

/-- A call of the backend. -/
inductive BackendCall
  | read (bucket key : String) (offset size : Nat)
  | writeRange (bucket key : String) (offset : Nat) (source : Bytes)
      (totalSize : Option Nat)
  | writePart (uploadId : String) (partNumber offset : Nat) (source : Bytes)
  deriving DecidableEq

/-! ## Errors -/

def serverUnavailable : Error :=
  makeError .rdmaUnavailable "cuObjServer not available"

def leaseFailed : Error :=
  makeError .rdmaUnavailable "cuObjServer pinned buffer alloc failed"

def channelFailed : Error :=
  makeError .rdmaUnavailable "cuObjServer allocateChannelId failed"

/-- Error of a chunk over the limit of the server. -/
def chunkTooLarge (operation : String) : Error :=
  makeError .badRequest
    ("GDS " ++ operation ++ " exceeds 1 GiB cuObjServer limit")

/-- Error of a transfer that the server reports as failed. -/
def transferFailed (operation status : String) : Error :=
  makeError .rpcError ("cuObjServer " ++ operation ++ " failed: " ++ status)

/-! ## Reading a chunk -/

/-- Answer to a chunk that was pushed to a client. -/
structure GetChunkOutcome where
  rdmaReply : String
  crc32c : UInt32
  deriving DecidableEq

def getChunk
    (options : GdsOptions)
    (backend : CompositeBackend)
    (session : Session)
    (objectOffset length : Nat)
    (answers : CuObjAnswers) :
    Result GetChunkOutcome × Option BackendCall :=
  if options.maxChunkBytes < length then
    (.error (chunkTooLarge "GET chunk"), none)
  else if length = 0 then (.ok ⟨"gds-cuobject-rdma-write-empty", 0⟩, none)
  else if answers.connected = false then (.error serverUnavailable, none)
  else if answers.leaseOk = false then (.error leaseFailed, none)
  else
    let call := BackendCall.read session.bucket session.objectKey objectOffset
      length
    match backend.read session.bucket session.objectKey objectOffset
        length with
    | .error error => (.error error, some call)
    | .ok bytes =>
        if bytes.length = 0 then
          (.ok ⟨"gds-cuobject-rdma-write-empty", 0⟩, some call)
        else if answers.channelOk = false then
          (.error channelFailed, some call)
        else if answers.transferred < 0 then
          (.error (transferFailed "handleGetObject" answers.status),
            some call)
        else if answers.transferred.toNat ≠ bytes.length then
          (.error (makeError .rpcError
            "cuObjServer handleGetObject short transfer"), some call)
        else
          (.ok ⟨"gds-cuobject-rdma-write", crc32c bytes⟩, some call)

/-! ## Writing a chunk -/

/-- Pull a chunk from a client: its bytes, or the first thing that failed. -/
def pullChunk (answers : CuObjAnswers) : Result Bytes :=
  if answers.connected = false then .error serverUnavailable
  else if answers.leaseOk = false then .error leaseFailed
  else if answers.channelOk = false then .error channelFailed
  else if answers.transferred < 0 then
    .error (transferFailed "handlePutObject" answers.status)
  else .ok answers.view

theorem pullChunk_eq_ok
    {answers : CuObjAnswers}
    {bytes : Bytes}
    (pulled : pullChunk answers = .ok bytes) :
    bytes = answers.view := by
  revert pulled
  fun_cases pullChunk answers <;> intro pulled <;> cases pulled
  rfl

/-- The size a session announces for its object. -/
def totalSize (session : Session) : Option Nat :=
  if session.expectedSize ≠ 0 then some session.expectedSize else none

/-- Write bytes to the object of a session. -/
def writeObject
    (backend : CompositeBackend)
    (session : Session)
    (objectOffset : Nat)
    (source : Bytes)
    (now : Nat) :
    Result ObjectMetadata × CompositeBackend × Option BackendCall :=
  let (result, backend) := backend.writeRange session.bucket
    session.objectKey objectOffset source (totalSize session) now
  (result, backend, some (.writeRange session.bucket session.objectKey
    objectOffset source (totalSize session)))

/-- Write a chunk to the object of a session.  An empty chunk is written without
a transfer. -/
def putChunk
    (options : GdsOptions)
    (backend : CompositeBackend)
    (session : Session)
    (objectOffset length : Nat)
    (answers : CuObjAnswers)
    (now : Nat) :
    Result ObjectMetadata × CompositeBackend × Option BackendCall :=
  if options.maxChunkBytes < length then
    (.error (chunkTooLarge "PUT chunk"), backend, none)
  else if length = 0 then writeObject backend session objectOffset [] now
  else
    match pullChunk answers with
    | .error error => (.error error, backend, none)
    | .ok bytes => writeObject backend session objectOffset bytes now

/-! ## Writing a chunk of a part -/

/-- The uploads and the backend of a gateway, and the bytes that were fed into
the digest of each part. -/
structure Media where
  uploads : State
  md5Ctxs : UploadPtr → Table Nat Bytes

/-- Two hexadecimal digits of a byte. -/
def hexByte (byte : UInt8) : List Char :=
  let digits := hexDigits byte.toNat
  List.replicate (2 - digits.length) '0' ++ digits

/-- The tag made from a digest. -/
def md5Hex (digest : Bytes) : String :=
  "\"" ++ String.ofList (digest.flatMap hexByte) ++ "\""

/-- A tag made from a digest is quoted. -/
theorem md5Hex_ne_empty (digest : Bytes) : md5Hex digest ≠ "" := by
  intro empty
  have texts := congrArg String.toList empty
  simp [md5Hex] at texts

/-- Stage bytes of a part. -/
def stagePart
    (media : Media)
    (uploadId : String)
    (partNumber objectOffset : Nat)
    (source : Bytes)
    (now : Nat) : Result String × Media × Option BackendCall :=
  let (result, backend) := media.uploads.backend.writePart uploadId partNumber
    objectOffset source now
  (result, { media with uploads := { media.uploads with backend } },
    some (.writePart uploadId partNumber objectOffset source))

section Parts

variable (md5 : Bytes → Bytes) (options : GdsOptions)

/-- Write a chunk to a part of an upload.  Under the policy `md5` the tag is
that of all chunks of the part so far. -/
def putPart
    (media : Media)
    (upload : UploadPtr)
    (uploadId : String)
    (partNumber objectOffset length : Nat)
    (checksumPolicy : String)
    (answers : CuObjAnswers)
    (now : Nat) : Result String × Media × Option BackendCall :=
  if options.maxChunkBytes < length then
    (.error (chunkTooLarge "PUT part"), media, none)
  else if length = 0 then
    stagePart media uploadId partNumber objectOffset [] now
  else
    match pullChunk answers with
    | .error error => (.error error, media, none)
    | .ok bytes =>
        match stagePart media uploadId partNumber objectOffset bytes now with
        | (.error error, media, call) => (.error error, media, call)
        | (.ok etag, media, call) =>
            if checksumPolicy = "md5" then
              let fed :=
                ((media.md5Ctxs upload).lookup partNumber).getD [] ++ bytes
              (.ok (md5Hex (md5 fed)),
                { media with
                  md5Ctxs := Function.update media.md5Ctxs upload
                    ((media.md5Ctxs upload).insert partNumber fed) },
                call)
            else (.ok etag, media, call)

/-- Answer to a chunk of a part. -/
structure GdsMultipartPartResult where
  partEtag : String
  rdmaReply : String
  crc32c : UInt32
  deriving DecidableEq

/-- A chunk of a part: look the upload up, write the chunk, and record the
part. -/
def uploadPart
    (media : Media)
    (uploadId : String)
    (partNumber chunkOffset chunkSize : Nat)
    (checksumPolicy : String)
    (answers : CuObjAnswers)
    (backendNow now : Nat) :
    Result GdsMultipartPartResult × Media × Option BackendCall :=
  match media.uploads.lookup uploadId with
  | .error error => (.error error, media, none)
  | .ok upload =>
      match putPart md5 options media upload
          (media.uploads.store.objects upload).backendUploadId partNumber
          chunkOffset chunkSize checksumPolicy answers backendNow with
      | (.error error, media, call) => (.error error, media, call)
      | (.ok etag, media, call) =>
          (.ok ⟨etag, "gds-cuobject-rdma-read", 0⟩,
            { media with
              uploads := media.uploads.registerPart upload partNumber
                chunkOffset chunkSize etag now },
            call)

end Parts

/-! ## Opening a session -/

/-- The hook of a session on the GPU path: a write of a known size reserves it
in the backend. -/
def onSessionOpened
    (backend : CompositeBackend)
    (session : Session)
    (available : Bool)
    (now : Nat) : Result Bool × CompositeBackend :=
  if available = false then
    (.error (makeError .rdmaUnavailable
      "gds-cuobject service is not available on gateway"), backend)
  else if session.op = .put ∧ session.expectedSize ≠ 0 then
    match backend.reserve session.bucket session.objectKey
        session.expectedSize now with
    | (.error error, backend) => (.error error, backend)
    | (.ok _, backend) => (.ok true, backend)
  else (.ok true, backend)

end Gds
end Gateway
end TurboAccess
