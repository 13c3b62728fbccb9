import TurboAccess.Gateway.Types

/-!
# A multipart upload of the client

What a handle owns: the session with the gateway, the parts recorded so far, and
whether the upload is over.  Every access takes the mutex of the handle once, so
that each function here is one atomic section; what the gateway answers to a
request is an argument of the code that uses them.
-/

namespace TurboAccess
namespace Client

open Gateway (ErrorCode)

/-- Failure detail returned by client operations. -/
structure Error where
  code : ErrorCode
  message : String
  retryable : Bool
  failedPath : String
  requestId : String
  deriving DecidableEq, Repr

/-- An error about what the caller passed. -/
def makeInvalidArgument (message : String) : Error where
  code := .invalidArgument
  message := message
  retryable := false
  failedPath := ""
  requestId := ""

/-- Outcome of a client operation. -/
abbrev Result (α : Type) := Except Error α

/-- Data flow of a transfer. -/
inductive DataFlow
  | none
  | gpuDirect
  | cpuDirect
  deriving DecidableEq, Repr

/-- What a transfer answers. -/
structure TransferOutcome where
  selectedFlow : DataFlow := .none
  bytesTransferred : Nat := 0
  requestId : String := ""
  sessionId : String := ""
  transferStatus : String := ""
  gatewayId : String := ""
  rdmaReply : String := ""
  etag : String := ""
  deriving DecidableEq, Repr

/-- A part to be uploaded, with the size of its buffer. -/
structure PartSpec where
  partNumber : Nat := 0
  objectOffset : Nat := 0
  bufferSize : Nat := 0
  deriving DecidableEq, Repr

/-- A part as the handle sends it in the completion. -/
structure PartRef where
  partNumber : Nat
  etag : String
  deriving DecidableEq, Repr

/-- The state that a handle owns. -/
structure MultipartUpload where
  maxPartSize : Nat
  parts : List PartRef
  bytesCommitted : Nat
  finished : Bool
  deriving DecidableEq, Repr

namespace MultipartUpload

def emptyBuffer : Error :=
  makeInvalidArgument "UploadPart buffer is empty"

def partTooLarge : Error :=
  makeInvalidArgument "part exceeds gateway max_part_size"

def alreadyFinalized : Error :=
  makeInvalidArgument "multipart upload already finalized"

/-- The checks of `UploadPart` before the part is sent. -/
def checkPart (upload : MultipartUpload) (bufferSize : Nat) : Option Error :=
  if bufferSize = 0 then some emptyBuffer
  else if upload.maxPartSize ≠ 0 ∧ bufferSize > upload.maxPartSize then
    some partTooLarge
  else if upload.finished then some alreadyFinalized
  else none

/-- Remember a part that the gateway has accepted. -/
def recordUploadedPart
    (upload : MultipartUpload)
    (partNumber : Nat)
    (etag : String)
    (bytes : Nat) : MultipartUpload :=
  { upload with
    parts := upload.parts ++ [⟨partNumber, etag⟩]
    bytesCommitted := upload.bytesCommitted + bytes }

/-- The parts to complete, unless the upload is over. -/
def snapshotPartsForComplete (upload : MultipartUpload) :
    Result (List PartRef) :=
  if upload.finished then .error alreadyFinalized else .ok upload.parts

def markUploadFinished (upload : MultipartUpload) : MultipartUpload :=
  { upload with finished := true }

end MultipartUpload

end Client
end TurboAccess
