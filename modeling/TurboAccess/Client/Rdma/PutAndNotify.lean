import TurboAccess.Client.Rdma.RemoteKeys

/-!
# Writing and notifying

A write through an endpoint is a chain of two operations of the transport: a put
of the bytes, and an active message that names the session.  The message is sent
when the put has completed, which may be at once, or in a callback on the thread
that makes the worker progress.  The context of the chain is handed from the
caller to the callback of the put and on to that of the message; whoever sees the
end of the chain sets the promise of the context and deletes it.  The caller
waits for the promise until its deadline.

A callback runs on a thread of its own here, whichever thread has called
`ucp_worker_progress`, and between any two of its requests the others go on.
-/

namespace TurboAccess
namespace Client
namespace UcxEndpointOps

open Program (perform)
open RdmaTransferPath (PutCall)
open UcxEndpointPool (ClientPut PoolCall Transport)

/-- The status of an operation: success, or the text of a failure. -/
abbrev Status := Except String Unit

/-- The context of a chain, with the promise of its future. -/
structure Ctx where
  future : Nat
  ep : Option Nat
  sessionId : String

/-- What posting an operation answers. -/
inductive Posted
  | completed
  | failed (status : String)
  | pending

/-- An operation that was posted, with the context for its callback. -/
inductive Operation
  | put (ep : Option Nat) (data size gwRaddr gwRkey userData : Nat)
  | message (ep : Option Nat) (header : String) (userData : Nat)

namespace Operation

def ep : Operation → Option Nat
  | .put ep _ _ _ _ _ => ep
  | .message ep _ _ => ep

def userData : Operation → Nat
  | .put _ _ _ _ _ userData => userData
  | .message _ _ userData => userData

end Operation

/-! ## Requests -/

/-- What a write and its callbacks ask of the heap, of the transport, of a
future, and of the pool.  The message of a context is sent to its endpoint, with
its session. -/
inductive WorkerCall
  | newCtx (ep : Option Nat) (sessionId : String)
  | putNbx (ep : Option Nat) (data size gwRaddr gwRkey userData : Nat)
  | amSendNbx (ctx : Nat)
  | setValue (ctx : Nat) (status : Status)
  | deleteCtx (ctx : Nat)
  | waitUntil (future : Nat) (deadline : Int)
  | progress
  | pool (call : PoolCall)

/-- A new context comes with the future of its promise.  Progress may find an
operation that has completed. -/
@[reducible] def WorkerCall.Answer : WorkerCall → Type
  | .newCtx _ _ => Nat × Nat
  | .putNbx _ _ _ _ _ _ => Posted
  | .amSendNbx _ => Posted
  | .setValue _ _ => Unit
  | .deleteCtx _ => Unit
  | .waitUntil _ _ => Option Status
  | .progress => Option (Operation × Status)
  | .pool call => call.Answer

abbrev WorkerProgram := Program WorkerCall WorkerCall.Answer

def setValue (ctx : Nat) (status : Status) : WorkerProgram Unit :=
  perform (WorkerCall.setValue ctx status)

def deleteCtx (ctx : Nat) : WorkerProgram Unit :=
  perform (WorkerCall.deleteCtx ctx)

def waitUntil (future : Nat) (deadline : Int) :
    WorkerProgram (Option Status) :=
  perform (WorkerCall.waitUntil future deadline)

/-! ## The chain -/

/-- Set the promise of a context, which ends with it. -/
def settle (ctx : Nat) (status : Status) : WorkerProgram Unit := do
  setValue ctx status
  deleteCtx ctx

/-- Send the message of a context.  While it is pending, its callback has the
context. -/
def sendAmWriteDone (ctx : Nat) : WorkerProgram Unit := do
  let posted : Posted ← perform (WorkerCall.amSendNbx ctx)
  match posted with
  | .completed => settle ctx (.ok ())
  | .failed status => settle ctx (.error status)
  | .pending => pure ()

/-- The callback of the message. -/
def messageSent (status : Status) (userData : Nat) : WorkerProgram Unit :=
  settle userData status

/-- The callback of the put. -/
def putSent (status : Status) (userData : Nat) : WorkerProgram Unit :=
  match status with
  | .error status => settle userData (.error status)
  | .ok () => sendAmWriteDone userData

def Operation.callback (operation : Operation) (status : Status) :
    WorkerProgram Unit :=
  match operation with
  | .put _ _ _ _ _ userData => putSent status userData
  | .message _ _ userData => messageSent status userData

/-- Go on after the put was posted.  While it is pending, its callback has the
context. -/
def putPosted (ctx : Nat) : Posted → WorkerProgram Unit
  | .completed => sendAmWriteDone ctx
  | .failed status => settle ctx (.error status)
  | .pending => pure ()

/-- Post the put, and answer the future of the chain. -/
def putAndNotify
    (ep : Option Nat)
    (srcBuf size gwRaddr gwRkey : Nat)
    (sessionId : String) : WorkerProgram Nat := do
  let (ctx, future) ← perform (WorkerCall.newCtx ep sessionId)
  let posted : Posted ←
    perform (WorkerCall.putNbx ep srcBuf size gwRaddr gwRkey ctx)
  putPosted ctx posted
  pure future

/-- What a request of a write or of the pool does with the worker. -/
def handler : (call : PoolCall) → WorkerProgram call.Answer
  | .transfer
        (.putAndNotify ep data size gwRaddr gwRkey sessionId deadline) => do
      let future ← putAndNotify ep data size gwRaddr gwRkey sessionId
      waitUntil future deadline
  | call => perform (WorkerCall.pool call)

/-- What a thread runs: a write of the client, or a callback. -/
inductive Task
  | put (write : ClientPut)
  | progress

/-- A thread that makes progress calls back for one operation at most. -/
def Task.program : Task → WorkerProgram (Option (Result Gds.TransferOutcome))
  | .put write => do
      let result ← write.program.interpret handler
      pure (some result)
  | .progress => do
      let found : Option (Operation × Status) ← perform WorkerCall.progress
      match found with
      | none => pure none
      | some (operation, status) =>
          operation.callback status
          pure none

/-! ## The worker -/

/-- What has happened to a chain: its put has succeeded, its message was posted,
and has succeeded. -/
inductive Mark
  | written
  | announced
  | delivered
  deriving DecidableEq

/-- The pool and its transport; the contexts that are allocated; the values of
the promises that were made; the operations in flight.  What has happened to the
chain of every future, and the futures whose deadline has passed, are kept for
statements. -/
structure Worker where
  transport : Transport
  contexts : Nat → Option Ctx
  futures : Nat → Option (Option Status)
  inFlight : List Operation
  marks : Nat → List Mark
  expired : List Nat

namespace Worker

/-- A worker that was just made. -/
def new : Worker where
  transport := .new
  contexts _ := none
  futures _ := none
  inFlight := []
  marks _ := []
  expired := []

/-- A context whose promise was not set yet. -/
structure Active (worker : Worker) (ctx : Nat) (record : Ctx) : Prop where
  allocated : worker.contexts ctx = some record
  unset : worker.futures record.future = some none

/-- Something happens to the chain of a context. -/
def mark (worker : Worker) (ctx : Nat) (mark : Mark) : Worker :=
  match worker.contexts ctx with
  | none => worker
  | some record =>
      { worker with
        marks := Function.update worker.marks record.future
          (worker.marks record.future ++ [mark]) }

/-- An operation has completed, well or not. -/
def complete (worker : Worker) : Operation → Status → Worker
  | .put _ _ _ _ _ userData, .ok () => worker.mark userData .written
  | .message _ _ userData, .ok () => worker.mark userData .delivered
  | _, .error _ => worker

end Worker

/-- What a request may answer and does; through a context that is not allocated,
nothing is defined.  Contexts that were deleted may be allocated again, futures
are told apart for ever.  A promise is set once, and waited for until it is set
or the deadline passes.  The handle of an endpoint does not come again while a
chain on it goes on. -/
inductive Effect (maxIdle : Nat) :
    Worker → Request WorkerCall WorkerCall.Answer → Worker → Prop
  | allocated {worker : Worker} {ep : Option Nat} {sessionId : String}
      {ctx future : Nat}
      (freshCtx : worker.contexts ctx = none)
      (freshFuture : worker.futures future = none) :
      Effect maxIdle worker ⟨.newCtx ep sessionId, (ctx, future)⟩
        { worker with
          contexts := Function.update worker.contexts ctx
            (some ⟨future, ep, sessionId⟩)
          futures := Function.update worker.futures future (some none) }
  | putCompleted {worker : Worker} {ep : Option Nat}
      {data size gwRaddr gwRkey ctx : Nat} :
      Effect maxIdle worker
        ⟨.putNbx ep data size gwRaddr gwRkey ctx, .completed⟩
        (worker.mark ctx .written)
  | putFailed {worker : Worker} {ep : Option Nat}
      {data size gwRaddr gwRkey ctx : Nat} {status : String} :
      Effect maxIdle worker
        ⟨.putNbx ep data size gwRaddr gwRkey ctx, .failed status⟩ worker
  | putPending {worker : Worker} {ep : Option Nat}
      {data size gwRaddr gwRkey ctx : Nat} :
      Effect maxIdle worker
        ⟨.putNbx ep data size gwRaddr gwRkey ctx, .pending⟩
        { worker with
          inFlight :=
            .put ep data size gwRaddr gwRkey ctx :: worker.inFlight }
  | messageCompleted {worker : Worker} {ctx : Nat} {record : Ctx}
      (known : worker.contexts ctx = some record) :
      Effect maxIdle worker ⟨.amSendNbx ctx, .completed⟩
        ((worker.mark ctx .announced).mark ctx .delivered)
  | messageFailed {worker : Worker} {ctx : Nat} {record : Ctx}
      {status : String}
      (known : worker.contexts ctx = some record) :
      Effect maxIdle worker ⟨.amSendNbx ctx, .failed status⟩ worker
  | messagePending {worker : Worker} {ctx : Nat} {record : Ctx}
      (known : worker.contexts ctx = some record) :
      Effect maxIdle worker ⟨.amSendNbx ctx, .pending⟩
        { worker.mark ctx .announced with
          inFlight :=
            .message record.ep record.sessionId ctx :: worker.inFlight }
  | valueSet {worker : Worker} {ctx : Nat} {record : Ctx} {status : Status}
      (active : worker.Active ctx record) :
      Effect maxIdle worker ⟨.setValue ctx status, ()⟩
        { worker with
          futures := Function.update worker.futures record.future
            (some (some status)) }
  | deleted {worker : Worker} {ctx : Nat} {record : Ctx}
      (known : worker.contexts ctx = some record) :
      Effect maxIdle worker ⟨.deleteCtx ctx, ()⟩
        { worker with contexts := Function.update worker.contexts ctx none }
  | ready {worker : Worker} {future : Nat} {deadline : Int} {status : Status}
      (isSet : worker.futures future = some (some status)) :
      Effect maxIdle worker ⟨.waitUntil future deadline, some status⟩ worker
  | timedOut {worker : Worker} {future : Nat} {deadline : Int}
      (unset : worker.futures future = some none) :
      Effect maxIdle worker ⟨.waitUntil future deadline, none⟩
        { worker with expired := future :: worker.expired }
  | called {worker : Worker} {operation : Operation} {status : Status}
      {before after : List Operation}
      (found : worker.inFlight = before ++ operation :: after) :
      Effect maxIdle worker ⟨.progress, some (operation, status)⟩
        { worker.complete operation status with
          inFlight := before ++ after }
  | idle {worker : Worker} :
      Effect maxIdle worker ⟨.progress, none⟩ worker
  | pooled {worker : Worker} {call : PoolCall} {reply : call.Answer}
      {transport : Transport}
      (happens : UcxEndpointPool.Effect maxIdle worker.transport ⟨call, reply⟩
        transport)
      (fresh : ∀ ep, transport.endpoints ep ≠ none →
        worker.transport.endpoints ep = none →
          ∀ ctx record, worker.Active ctx record → record.ep ≠ some ep) :
      Effect maxIdle worker ⟨.pool call, reply⟩ { worker with transport }

/-- Writes and callbacks over one worker. -/
abbrev WorkerThreads :=
  Threads Worker WorkerCall WorkerCall.Answer
    (Option (Result Gds.TransferOutcome))

/-- Threads that have not asked for anything yet, and a new worker. -/
def WorkerThreads.new (tasks : Nat → Task) : WorkerThreads where
  shared := .new
  programs thread := (tasks thread).program
  logs _ := []

end UcxEndpointOps
end Client
end TurboAccess
