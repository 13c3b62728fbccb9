import TurboAccess.Client.Upload.UploadResult

/-!
# Upload handles

A handle owns an upload through a unique pointer.  `Client::StartUpload` and the
move operations pass uploads from one handle to another; the destructor of a
handle aborts an upload that is not over.  The move assignment has no such abort:
an upload that is not over is lost when another one is moved into its handle.

A run is a program of operations on any number of handles, with any answers of
the gateway.  The state remembers the requests that were sent for each upload.
-/

namespace TurboAccess
namespace Client

/-- A request about an upload. -/
inductive UploadRpc
  | uploadPart (id : Nat)
  | completeUpload (id : Nat)
  | abortUpload (id : Nat)
  deriving DecidableEq, Repr

namespace UploadRpc

/-- The upload of a request. -/
def id : UploadRpc → Nat
  | .uploadPart id => id
  | .completeUpload id => id
  | .abortUpload id => id

/-- The request ends its upload. -/
def Ends : UploadRpc → Prop
  | .uploadPart _ => False
  | .completeUpload _ => True
  | .abortUpload _ => True

/-- The request is an abort. -/
def Aborts : UploadRpc → Prop
  | .abortUpload _ => True
  | _ => False

/-- The request that an event of `UploadParts` sends. -/
def ofEvent (id : Nat) : UploadEvent → Option UploadRpc
  | .sent _ => some (.uploadPart id)
  | .abortSent => some (.abortUpload id)
  | _ => none

end UploadRpc

/-- What a handle owns: an upload with the identifier from the gateway. -/
structure OwnedUpload where
  uploadId : Nat
  upload : MultipartUpload
  deriving DecidableEq, Repr

/-- A handle: not constructed or destroyed, without an upload, or with one. -/
inductive Handle
  | absent
  | empty
  | owning (owned : OwnedUpload)
  deriving DecidableEq, Repr

/-- The handles of a program, the number of uploads the gateway has opened for
it, and the requests it has sent. -/
structure Handles where
  handles : Nat → Handle
  issued : Nat
  rpcs : List UploadRpc

namespace Handles

/-- A program that has done nothing. -/
def init : Handles where
  handles := fun _ => .absent
  issued := 0
  rpcs := []

/-! ## Operations -/

/-- Replace a handle. -/
def setHandle (state : Handles) (handle : Nat) (value : Handle) : Handles :=
  { state with handles := Function.update state.handles handle value }

/-- Send requests. -/
def send (state : Handles) (rpcs : List UploadRpc) : Handles :=
  { state with rpcs := state.rpcs ++ rpcs }

/-- `Client::StartUpload` into a handle; on success the gateway gives a new
identifier and the largest size of a part.  What the handle owned is dropped. -/
def startUpload (state : Handles) (out : Nat) (answer : Option Nat) :
    Option Handles :=
  match state.handles out, answer with
  | .absent, _ => none
  | _, none => some state
  | _, some maxPartSize =>
      let upload : MultipartUpload :=
        { maxPartSize, parts := [], bytesCommitted := 0, finished := false }
      some ({ state with issued := state.issued + 1 }.setHandle out
        (.owning ⟨state.issued, upload⟩))

/-- Construct a handle without an upload. -/
def construct (state : Handles) (handle : Nat) : Option Handles :=
  match state.handles handle with
  | .absent => some (state.setHandle handle .empty)
  | _ => none

/-- Construct a handle from another one. -/
def moveConstruct (state : Handles) (target source : Nat) : Option Handles :=
  match state.handles target, state.handles source with
  | .absent, .absent => none
  | .absent, value =>
      some ((state.setHandle target value).setHandle source .empty)
  | _, _ => none

/-- Assign a handle from another one.  What the target owned is dropped; an
assignment to itself changes nothing. -/
def moveAssign (state : Handles) (target source : Nat) : Option Handles :=
  match state.handles target, state.handles source with
  | .absent, _ => none
  | _, .absent => none
  | _, value =>
      if target = source then some state
      else some ((state.setHandle target value).setHandle source .empty)

/-- `UploadPart` of a handle, with the answer of the gateway. -/
def uploadPart
    (state : Handles)
    (handle : Nat)
    (spec : PartSpec)
    (answer : Result TransferOutcome) : Option Handles :=
  match state.handles handle with
  | .owning owned =>
      match owned.upload.checkPart spec.bufferSize with
      | some _ => some state
      | none =>
          let sent := state.send [.uploadPart owned.uploadId]
          match answer with
          | .error _ => some sent
          | .ok outcome =>
              some (sent.setHandle handle (.owning ⟨owned.uploadId,
                owned.upload.recordUploadedPart spec.partNumber outcome.etag
                  spec.bufferSize⟩))
  | _ => none

/-- `UploadParts` of a handle, along a schedule of its workers with the answers
they get, up to its return. -/
def uploadParts
    (state : Handles)
    (handle : Nat)
    (specs : List PartSpec)
    (concurrency : Nat)
    (schedule : List UploadPartsCall.Action) : Option Handles :=
  match state.handles handle with
  | .owning owned =>
      match (UploadPartsCall.machine owned.upload specs concurrency).run
          Machine.always (.init owned.upload specs concurrency) schedule with
      | some call =>
          match call.stage with
          | .returned _ =>
              let sent := state.send
                (call.events.filterMap (UploadRpc.ofEvent owned.uploadId))
              some (sent.setHandle handle
                (.owning ⟨owned.uploadId, call.upload⟩))
          | _ => none
      | none => none
  | _ => none

/-- `Complete` of a handle; a completion that fails is followed by an abort. -/
def complete (state : Handles) (handle : Nat) (succeeds : Bool) :
    Option Handles :=
  match state.handles handle with
  | .owning owned =>
      match owned.upload.snapshotPartsForComplete with
      | .error _ => some state
      | .ok _ =>
          let completed := state.send [.completeUpload owned.uploadId]
          let sent :=
            if succeeds then completed
            else completed.send [.abortUpload owned.uploadId]
          some (sent.setHandle handle
            (.owning ⟨owned.uploadId, owned.upload.markUploadFinished⟩))
  | _ => none

/-- `Abort` of a handle. -/
def abort (state : Handles) (handle : Nat) : Option Handles :=
  match state.handles handle with
  | .owning owned =>
      if owned.upload.finished then some state
      else
        some ((state.send [.abortUpload owned.uploadId]).setHandle handle
          (.owning ⟨owned.uploadId, owned.upload.markUploadFinished⟩))
  | _ => none

/-- The destructor of a handle. -/
def destroy (state : Handles) (handle : Nat) : Option Handles :=
  match state.handles handle with
  | .absent => none
  | .empty => some (state.setHandle handle .absent)
  | .owning owned =>
      if owned.upload.finished then some (state.setHandle handle .absent)
      else
        some ((state.send [.abortUpload owned.uploadId]).setHandle handle
          .absent)

/-- The operations of a program, with the answers of the gateway. -/
inductive Action
  | startUpload (out : Nat) (answer : Option Nat)
  | construct (handle : Nat)
  | moveConstruct (target source : Nat)
  | moveAssign (target source : Nat)
  | uploadPart (handle : Nat) (spec : PartSpec)
      (answer : Result TransferOutcome)
  | uploadParts (handle : Nat) (specs : List PartSpec) (concurrency : Nat)
      (schedule : List UploadPartsCall.Action)
  | complete (handle : Nat) (succeeds : Bool)
  | abort (handle : Nat)
  | destroy (handle : Nat)
  deriving Repr

def step (state : Handles) : Action → Option Handles
  | .startUpload out answer => state.startUpload out answer
  | .construct handle => state.construct handle
  | .moveConstruct target source => state.moveConstruct target source
  | .moveAssign target source => state.moveAssign target source
  | .uploadPart handle spec answer => state.uploadPart handle spec answer
  | .uploadParts handle specs concurrency schedule =>
      state.uploadParts handle specs concurrency schedule
  | .complete handle succeeds => state.complete handle succeeds
  | .abort handle => state.abort handle
  | .destroy handle => state.destroy handle

/-- All programs of operations on handles. -/
def machine : Machine Handles Action where
  initial state := state = init
  step := step

end Handles

end Client
end TurboAccess
