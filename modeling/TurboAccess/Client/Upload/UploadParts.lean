import TurboAccess.Lib.Machine
import TurboAccess.Lib.Tally
import TurboAccess.Client.Upload.MultipartUpload

/-!
# Parallel upload of parts

`UploadParts` starts a fixed number of workers.  A worker binds the device, and
then claims the next index from a shared counter, looks whether an error has been
recorded, uploads the part of the index, and records the outcome or the error,
until the indexes are exhausted or an error is seen.  When all workers have left,
the first recorded error is returned after an abort, or else the outcomes.

A step is one atomic section: an operation on the counter, a section under a
mutex, or the call of the gateway.  The state carries the history of the call,
against which the result is stated.
-/

namespace TurboAccess
namespace Client

/-- Where a worker is: about to bind the device; about to record that it could
not; about to claim an index; about to look for an error; about to check a part,
to send it, or to record that it was accepted; about to store the outcome of an
index, or to record an error; gone. -/
inductive UploadPartsWorker
  | entering
  | unbound
  | claiming
  | claimed (index : Nat)
  | checking (index : Nat)
  | sending (index : Nat)
  | recording (index : Nat) (outcome : TransferOutcome)
  | storing (index : Nat) (outcome : TransferOutcome)
  | failing (index : Nat) (error : Error)
  | exited
  deriving DecidableEq, Repr

/-- What happens in a call of `UploadParts`: a worker cannot bind its device,
sees an error, or starts to upload an index; the part of an index is sent to the
gateway; the upload of an index returns; an error is recorded; the upload is
aborted at the gateway. -/
inductive UploadEvent
  | bindingFailed (worker : Nat)
  | observedError (worker : Nat)
  | started (worker index : Nat)
  | sent (index : Nat)
  | returned (index : Nat) (result : Result TransferOutcome)
  | recordedError (error : Error)
  | abortSent
  deriving DecidableEq, Repr

/-- Where the caller is: waiting for the workers, about to look whether the
upload is over before it aborts, about to mark it as over, or returned. -/
inductive UploadPartsStage
  | joining
  | aborting (error : Error)
  | marking (error : Error)
  | returned (result : Result (List TransferOutcome))
  deriving DecidableEq, Repr

/-- A call of `UploadParts`. -/
structure UploadPartsCall where
  specs : List PartSpec
  upload : MultipartUpload
  nextIndex : Nat
  firstError : Option Error
  outcomes : List TransferOutcome
  workerCount : Nat
  workers : Nat → UploadPartsWorker
  stage : UploadPartsStage
  events : List UploadEvent

namespace UploadPartsCall

def deviceUnbound : Error :=
  makeInvalidArgument "worker cudaSetDevice failed; cannot bind CUDA context"

def normalizeUploadPartsConcurrency (concurrency partCount : Nat) : Nat :=
  if concurrency = 0 then 1
  else if concurrency > partCount then partCount
  else concurrency

/-- A call that has just started its workers, or returned because there is
nothing to upload. -/
def init
    (upload : MultipartUpload)
    (specs : List PartSpec)
    (concurrency : Nat) : UploadPartsCall where
  specs := specs
  upload := upload
  nextIndex := 0
  firstError := none
  outcomes := List.replicate specs.length {}
  workerCount :=
    if specs = [] then 0
    else normalizeUploadPartsConcurrency concurrency specs.length
  workers := fun _ => .entering
  stage := if specs = [] then .returned (.ok []) else .joining
  events := []

/-! ## Steps -/

/-- The part of an index. -/
def spec (call : UploadPartsCall) (index : Nat) : PartSpec :=
  call.specs.getD index {}

/-- Move a worker. -/
def setWorker
    (call : UploadPartsCall)
    (worker : Nat)
    (state : UploadPartsWorker) : UploadPartsCall :=
  { call with workers := Function.update call.workers worker state }

@[simp] theorem setWorker_workers_self
    (call : UploadPartsCall)
    (worker : Nat)
    (state : UploadPartsWorker) :
    (call.setWorker worker state).workers worker = state :=
  Function.update_self ..

theorem setWorker_workers_of_ne
    (call : UploadPartsCall)
    {worker other : Nat}
    (different : other ≠ worker)
    (state : UploadPartsWorker) :
    (call.setWorker worker state).workers other = call.workers other :=
  Function.update_of_ne different ..

/-- Note what has happened. -/
def note (call : UploadPartsCall) (event : UploadEvent) : UploadPartsCall :=
  { call with events := call.events ++ [event] }

/-- Record an error, if it is the first. -/
def recordError (call : UploadPartsCall) (error : Error) : UploadPartsCall :=
  { call with
    firstError := some (call.firstError.getD error)
    events := call.events ++ [.recordedError error] }

/-- Store the outcome of an index. -/
def recordSuccess
    (call : UploadPartsCall)
    (index : Nat)
    (outcome : TransferOutcome) : UploadPartsCall :=
  { call with outcomes := call.outcomes.set index outcome }

/-- Next step of a worker, with the outcomes of the device binding and of the
call of the gateway. -/
def stepWorker
    (call : UploadPartsCall)
    (worker : Nat)
    (binds : Bool)
    (answer : Result TransferOutcome) : Option UploadPartsCall :=
  match call.workers worker with
  | .entering =>
      if binds then some (call.setWorker worker .claiming)
      else
        some ((call.note (.bindingFailed worker)).setWorker worker .unbound)
  | .unbound =>
      some ((call.recordError deviceUnbound).setWorker worker .exited)
  | .claiming =>
      let claimed := { call with nextIndex := call.nextIndex + 1 }
      if call.nextIndex ≥ call.specs.length then
        some (claimed.setWorker worker .exited)
      else some (claimed.setWorker worker (.claimed call.nextIndex))
  | .claimed index =>
      match call.firstError with
      | some _ =>
          some ((call.note (.observedError worker)).setWorker worker .exited)
      | none =>
          some ((call.note (.started worker index)).setWorker worker
            (.checking index))
  | .checking index =>
      match call.upload.checkPart (call.spec index).bufferSize with
      | some error =>
          some ((call.note (.returned index (.error error))).setWorker worker
            (.failing index error))
      | none =>
          some ((call.note (.sent index)).setWorker worker (.sending index))
  | .sending index =>
      match answer with
      | .error error =>
          some ((call.note (.returned index (.error error))).setWorker worker
            (.failing index error))
      | .ok outcome => some (call.setWorker worker (.recording index outcome))
  | .recording index outcome =>
      let recorded :=
        { call with
          upload := call.upload.recordUploadedPart
            (call.spec index).partNumber outcome.etag
            (call.spec index).bufferSize }
      some ((recorded.note (.returned index (.ok outcome))).setWorker worker
        (.storing index outcome))
  | .storing index outcome =>
      some ((call.recordSuccess index outcome).setWorker worker .claiming)
  | .failing _ error =>
      some ((call.recordError error).setWorker worker .claiming)
  | .exited => none

/-- Next step of the caller. -/
def stepCaller (call : UploadPartsCall) : Option UploadPartsCall :=
  match call.stage with
  | .joining =>
      if ∀ worker < call.workerCount, call.workers worker = .exited then
        match call.firstError with
        | some error => some { call with stage := .aborting error }
        | none => some { call with stage := .returned (.ok call.outcomes) }
      else none
  | .aborting error =>
      if call.upload.finished then
        some { call with stage := .returned (.error error) }
      else some { call.note .abortSent with stage := .marking error }
  | .marking error =>
      some { call with
        upload := call.upload.markUploadFinished
        stage := .returned (.error error) }
  | .returned _ => none

/-- What moves a call: a worker, with the answers it gets, or the caller. -/
inductive Action
  | worker (worker : Nat) (binds : Bool) (answer : Result TransferOutcome)
  | caller
  deriving Repr

def step (call : UploadPartsCall) : Action → Option UploadPartsCall
  | .worker worker binds answer =>
      if worker < call.workerCount then call.stepWorker worker binds answer
      else none
  | .caller => call.stepCaller

/-- All interleavings of the workers of a call, with all answers. -/
def machine
    (upload : MultipartUpload)
    (specs : List PartSpec)
    (concurrency : Nat) : Machine UploadPartsCall Action where
  initial call := call = init upload specs concurrency
  step := step

/-! ## What one step can do -/

/-- The steps of a worker. -/
inductive Works (call : UploadPartsCall) (worker : Nat) :
    UploadPartsCall → Prop
  | bound
      (enters : call.workers worker = .entering) :
      Works call worker (call.setWorker worker .claiming)
  | unbound
      (enters : call.workers worker = .entering) :
      Works call worker
        ((call.note (.bindingFailed worker)).setWorker worker .unbound)
  | reported
      (unbound : call.workers worker = .unbound) :
      Works call worker
        ((call.recordError deviceUnbound).setWorker worker .exited)
  | exhausted
      (claims : call.workers worker = .claiming)
      (all : call.specs.length ≤ call.nextIndex) :
      Works call worker
        ({ call with nextIndex := call.nextIndex + 1 }.setWorker worker .exited)
  | claimed
      (claims : call.workers worker = .claiming)
      (more : call.nextIndex < call.specs.length) :
      Works call worker
        ({ call with nextIndex := call.nextIndex + 1 }.setWorker worker
          (.claimed call.nextIndex))
  | observed (index : Nat)
      (claimed : call.workers worker = .claimed index)
      (failed : call.firstError ≠ none) :
      Works call worker
        ((call.note (.observedError worker)).setWorker worker .exited)
  | started (index : Nat)
      (claimed : call.workers worker = .claimed index)
      (unfailed : call.firstError = none) :
      Works call worker
        ((call.note (.started worker index)).setWorker worker (.checking index))
  | accepted (index : Nat)
      (checks : call.workers worker = .checking index)
      (passed : call.upload.checkPart (call.spec index).bufferSize = none) :
      Works call worker
        ((call.note (.sent index)).setWorker worker (.sending index))
  | failed (index : Nat) (error : Error)
      (uploads : call.workers worker = .checking index ∨
        call.workers worker = .sending index) :
      Works call worker
        ((call.note (.returned index (.error error))).setWorker worker
          (.failing index error))
  | answered (index : Nat) (outcome : TransferOutcome)
      (sends : call.workers worker = .sending index) :
      Works call worker (call.setWorker worker (.recording index outcome))
  | recorded (index : Nat) (outcome : TransferOutcome)
      (records : call.workers worker = .recording index outcome) :
      Works call worker
        (({ call with
          upload := call.upload.recordUploadedPart
            (call.spec index).partNumber outcome.etag
            (call.spec index).bufferSize }.note
              (.returned index (.ok outcome))).setWorker worker
            (.storing index outcome))
  | stored (index : Nat) (outcome : TransferOutcome)
      (stores : call.workers worker = .storing index outcome) :
      Works call worker
        ((call.recordSuccess index outcome).setWorker worker .claiming)
  | blamed (index : Nat) (error : Error)
      (fails : call.workers worker = .failing index error) :
      Works call worker
        ((call.recordError error).setWorker worker .claiming)

theorem works_of_stepWorker
    {call next : UploadPartsCall}
    {worker : Nat}
    {binds : Bool}
    {answer : Result TransferOutcome}
    (stepped : call.stepWorker worker binds answer = some next) :
    Works call worker next := by
  revert stepped
  fun_cases stepWorker call worker binds answer <;> intro stepped <;>
    cases stepped
  case case1 enters _ => exact .bound enters
  case case2 enters _ => exact .unbound enters
  case case3 unbound => exact .reported unbound
  case case4 claims claimed all => exact .exhausted claims all
  case case5 claims claimed more => exact .claimed claims (by omega)
  case case6 index claimed error failed =>
    exact .observed index claimed (by simp [failed])
  case case7 index claimed unfailed => exact .started index claimed unfailed
  case case8 index checks error _ => exact .failed index error (.inl checks)
  case case9 index checks passed => exact .accepted index checks passed
  case case10 index sends error =>
    exact .failed index error (.inr sends)
  case case11 index sends outcome => exact .answered index outcome sends
  case case12 index outcome records recorded =>
    exact .recorded index outcome records
  case case13 index outcome stores => exact .stored index outcome stores
  case case14 index error fails => exact .blamed index error fails

end UploadPartsCall

end Client
end TurboAccess
