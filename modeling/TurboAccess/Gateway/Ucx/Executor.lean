import TurboAccess.Lib.Table
import TurboAccess.Lib.Machine
import TurboAccess.Gateway.Backend.CompositeBackend

/-!
# The UCX executor

The gateway's side of the remote-memory-write data path: the registry of open
sessions, the pool of registered buffers, and the handlers that run between
`Start` and `Stop`.  A client opens a session, has a buffer prepared, writes the
buffer through its network card, announces the write with an active message, and
commits.  The commit and the active message travel on different channels; the
one that arrives second hands the buffer to the backend.

Each handler is one atomic step.  Pointers to registered buffers and the
identity of a registry entry are numbers that are never given out twice.  The
backend is a parameter, and so is what the operating system and the network
library answer to an allocation.  The calls made to the backend and the
callbacks run are kept in two histories, in the order they happen.
-/

namespace TurboAccess
namespace Gateway
namespace Ucx

/-- The backend operations that the executor calls. -/
structure IBackend (β : Type) where
  writeRange : β → (bucket key : String) → (offset : Nat) → (source : Bytes) →
    (totalSize : Option Nat) → Result ObjectMetadata × β
  writePart : β → (uploadId : String) → (partNumber offset : Nat) →
    (source : Bytes) → Result String × β

/-- The composite backend behind this interface, with a clock that ticks once a
call. -/
def overComposite : IBackend (CompositeBackend × Nat) where
  writeRange := fun (backend, now) bucket key offset source totalSize =>
    let (result, backend) :=
      backend.writeRange bucket key offset source totalSize now
    (result, backend, now + 1)
  writePart := fun (backend, now) uploadId partNumber offset source =>
    let (result, backend) :=
      backend.writePart uploadId partNumber offset source now
    (result, backend, now + 1)

/-- Granularity of buffer allocations. -/
def pageSize : Nat := 4096

/-- Round up to whole pages, in the word arithmetic of the code. -/
def roundUpPage (size : Nat) : Nat :=
  addWord size (pageSize - 1) / pageSize * pageSize

/-- Options of the UCX data path, with the host the gateway announces.  The
largest message, four gibibytes by default, leaves room for the rounding to
whole pages. -/
structure UcxOptions where
  publicHost : String
  listenPort : Nat
  maxMsgBytes : Nat
  bufferPoolMaxIdle : Nat
  roomForPage : maxMsgBytes + pageSize ≤ wordModulus

/-- The default options. -/
def UcxOptions.default (publicHost : String) : UcxOptions where
  publicHost := publicHost
  listenPort := 18520
  maxMsgBytes := 4 * 1024 * 1024 * 1024
  bufferPoolMaxIdle := 128
  roomForPage := by decide

/-- Errors of the transport itself. -/
def makeUcxError (message : String) : Error :=
  makeError .rdmaUnavailable message

/-! ## Registered buffers -/

/-- A buffer registered with the network card.  `buf` reads the memory from the
start of the buffer on, also past its end. -/
structure RegisteredBuffer where
  buf : Nat → UInt8
  capacity : Nat
  gwRaddr : Nat
  packedRkey : Bytes

namespace RegisteredBuffer

/-- The span of the first `size` bytes. -/
def view (buffer : RegisteredBuffer) (size : Nat) : Bytes :=
  (List.range size).map buffer.buf

/-- The buffer after a remote write at its start. -/
def put (buffer : RegisteredBuffer) (data : Bytes) : RegisteredBuffer :=
  { buffer with buf := fun position => data[position]?.getD (buffer.buf position) }

@[simp] theorem length_view (buffer : RegisteredBuffer) (size : Nat) :
    (buffer.view size).length = size := by
  simp [view]

@[simp] theorem capacity_put (buffer : RegisteredBuffer) (data : Bytes) :
    (buffer.put data).capacity = buffer.capacity := rfl

/-- A remote write is what a view of its length then shows. -/
@[simp] theorem view_put (buffer : RegisteredBuffer) (data : Bytes) :
    (buffer.put data).view data.length = data := by
  apply List.ext_getElem
  · simp
  · intro position left right
    simp only [view, put, List.getElem_map, List.getElem_range]
    rw [List.getElem?_eq_getElem right, Option.getD_some]

end RegisteredBuffer

/-- What allocating, locking and registering a new buffer comes to. -/
inductive Allocation
  | allocFailed
  | mlockFailed
  | memMapFailed (status : String)
  | rkeyPackFailed (status : String)
  | registered (content : Nat → UInt8) (gwRaddr : Nat) (packedRkey : Bytes)

/-- A new buffer of the given capacity, or the error of the step that failed. -/
def Allocation.result (allocation : Allocation) (capacity : Nat) :
    Result RegisteredBuffer :=
  match allocation with
  | .allocFailed => .error (makeUcxError "buffer alloc failed")
  | .mlockFailed => .error (makeUcxError "mlock failed")
  | .memMapFailed status =>
      .error (makeUcxError ("ucp_mem_map failed: " ++ status))
  | .rkeyPackFailed status =>
      .error (makeUcxError ("ucp_rkey_pack failed: " ++ status))
  | .registered content gwRaddr packedRkey =>
      .ok ⟨content, capacity, gwRaddr, packedRkey⟩

/-! ## Sessions and commits -/

/-- The part of a session that the executor reads.  The session store generates
an identifier for a session that is opened without one. -/
structure Session where
  sessionId : String
  bucket : String
  objectKey : String
  expectedSize : Nat
  named : sessionId ≠ ""
  deriving DecidableEq

/-- Which of the two commit operations a request is for. -/
inductive CommitOperation
  | object
  | part (backendUploadId : String) (partNumber : Nat)
  deriving DecidableEq

/-- A commit request; `onDone` is its callback. -/
structure CommitRequest where
  operation : CommitOperation
  sessionId : String
  bytesTransferred : Nat
  clientCrc32c : String
  onDone : Nat
  deriving DecidableEq

/-- Answer to a committed object. -/
structure UcxCommitInfo where
  etag : String
  version : String
  deriving DecidableEq

/-- What a commit hands to its callback. -/
inductive CommitResult
  | object (result : Result UcxCommitInfo)
  | part (result : Result String)

/-- The failure that a request of this kind reports. -/
def CommitOperation.failure (operation : CommitOperation) (error : Error) :
    CommitResult :=
  match operation with
  | .object => .object (.error error)
  | .part _ _ => .part (.error error)

/-- Whether a commit reports a failure. -/
def CommitResult.Failed : CommitResult → Prop
  | .object (.ok _) => False
  | .object (.error _) => True
  | .part (.ok _) => False
  | .part (.error _) => True

/-- Registry entry of a session.  `serial` tells apart the entries created one
after the other under one session identifier. -/
structure UcxSessionEntry where
  serial : Nat
  sessionId : String
  bucket : String
  objectKey : String
  expectedBytes : Nat
  slot : Option Nat
  transferBytes : Nat
  writeDone : Bool
  pendingCommit : Option CommitRequest
  deriving DecidableEq

/-- Mark an entry as written; its waiting commit is taken out. -/
def UcxSessionEntry.marked (entry : UcxSessionEntry) : UcxSessionEntry :=
  { entry with writeDone := true, pendingCommit := none }

/-- Answer to a prepared transfer. -/
structure UcxDiscoverInfo where
  host : String
  ucxPort : Nat
  maxMsgBytes : Nat
  gwRaddr : Nat
  gwPackedRkey : Bytes
  deriving DecidableEq

/-- A call of the backend. -/
inductive BackendCall
  | writeRange (bucket objectKey : String) (offset : Nat) (source : Bytes)
      (totalSize : Nat)
  | writePart (uploadId : String) (partNumber offset : Nat) (source : Bytes)
  deriving DecidableEq

/-- The bytes a call hands over. -/
def BackendCall.source : BackendCall → Bytes
  | .writeRange _ _ _ source _ => source
  | .writePart _ _ _ source => source

/-- A backend call made, for which request, from which entry and buffer, and
what the commit made of the backend's answer. -/
structure Write where
  request : CommitRequest
  serial : Nat
  slot : Nat
  call : BackendCall
  result : CommitResult

/-- A callback run with a result. -/
structure Reply where
  request : CommitRequest
  result : CommitResult

/-! ## The executor -/

/-- State of the executor between `Start` and `Stop`.  `buffers` holds every
registered buffer that is not freed, `pool` the idle ones in queue order, and
`putInflight` is the gauge of prepared transfers. -/
structure UcxExecutor (β : Type) where
  started : Bool
  registry : Table String UcxSessionEntry
  created : Nat
  buffers : Table Nat RegisteredBuffer
  allocated : Nat
  pool : List Nat
  putInflight : Int
  backend : β
  requests : Nat
  writes : List Write
  replies : List Reply

namespace UcxExecutor

variable {β : Type}

/-- The executor with no session and no buffer. -/
def init (started : Bool) (backend : β) : UcxExecutor β where
  started := started
  registry := ∅
  created := 0
  buffers := ∅
  allocated := 0
  pool := []
  putInflight := 0
  backend := backend
  requests := 0
  writes := []
  replies := []

/-! ## The buffer pool -/

/-- The first idle buffer that is large enough, and the queue without it. -/
def acquireFrom (buffers : Table Nat RegisteredBuffer) (requestedSize : Nat) :
    List Nat → Option (Nat × RegisteredBuffer × List Nat)
  | [] => none
  | slot :: rest =>
      match (buffers.lookup slot).filter
          fun buffer => requestedSize ≤ buffer.capacity with
      | some buffer => some (slot, buffer, rest)
      | none =>
          (acquireFrom buffers requestedSize rest).map
            fun (found, buffer, others) => (found, buffer, slot :: others)

def acquire (executor : UcxExecutor β) (requestedSize : Nat) :
    Option (Nat × RegisteredBuffer × List Nat) :=
  acquireFrom executor.buffers requestedSize executor.pool

/-- Give a buffer back; beyond the idle limit it is unregistered and freed. -/
def returnSlot
    (options : UcxOptions)
    (executor : UcxExecutor β)
    (slot : Nat) : UcxExecutor β :=
  if executor.pool.length < options.bufferPoolMaxIdle then
    { executor with pool := executor.pool ++ [slot] }
  else { executor with buffers := executor.buffers.erase slot }

/-- Give back the buffer of an entry, if it has one. -/
def releaseEntry
    (options : UcxOptions)
    (executor : UcxExecutor β)
    (entry : UcxSessionEntry) : UcxExecutor β :=
  match entry.slot with
  | none => executor
  | some slot => executor.returnSlot options slot

/-! ## Sessions -/

/-- The entry that opening a session creates. -/
def newEntry (executor : UcxExecutor β) (session : Session) :
    UcxSessionEntry where
  serial := executor.created
  sessionId := session.sessionId
  bucket := session.bucket
  objectKey := session.objectKey
  expectedBytes := session.expectedSize
  slot := none
  transferBytes := 0
  writeDone := false
  pendingCommit := none

/-- Register a session, in place of an entry under the same identifier. -/
def onSessionOpened
    (executor : UcxExecutor β)
    (session : Session) : UcxExecutor β :=
  { executor with
    registry := executor.registry.insert session.sessionId
      (executor.newEntry session)
    created := executor.created + 1 }

/-- Forget a session and release its buffer. -/
def abortSession
    (options : UcxOptions)
    (executor : UcxExecutor β)
    (sessionId : String) : Result Bool × UcxExecutor β :=
  match executor.registry.lookup sessionId with
  | none => (.ok false, executor)
  | some entry =>
      let executor :=
        { executor with registry := executor.registry.erase sessionId }
      (.ok true, executor.releaseEntry options entry)

/-- The buffer an entry points to. -/
def bufferOf (executor : UcxExecutor β) (entry : UcxSessionEntry) :
    Option (Nat × RegisteredBuffer) :=
  entry.slot.bind fun slot =>
    (executor.buffers.lookup slot).map fun buffer => (slot, buffer)

/-! ## Preparing a transfer -/

/-- What the client is told about a prepared buffer. -/
def discoverInfo (options : UcxOptions) (buffer : RegisteredBuffer) :
    UcxDiscoverInfo where
  host := options.publicHost
  ucxPort := options.listenPort
  maxMsgBytes := options.maxMsgBytes
  gwRaddr := buffer.gwRaddr
  gwPackedRkey := buffer.packedRkey

/-- Attach a buffer to an entry. -/
def attach
    (executor : UcxExecutor β)
    (sessionId : String)
    (entry : UcxSessionEntry)
    (slot transferBytes : Nat) : UcxExecutor β :=
  { executor with
    registry := executor.registry.insert sessionId
      { entry with slot := some slot, transferBytes }
    putInflight := executor.putInflight + 1 }

/-- A buffer for an entry that has none: an idle one, or a new one. -/
def acquireOrRegister
    (executor : UcxExecutor β)
    (size : Nat)
    (allocation : Allocation) :
    Result (Nat × RegisteredBuffer) × UcxExecutor β :=
  match executor.acquire size with
  | some (slot, buffer, pool) => (.ok (slot, buffer), { executor with pool })
  | none =>
      match allocation.result size with
      | .error error => (.error error, executor)
      | .ok buffer =>
          (.ok (executor.allocated, buffer),
            { executor with
              buffers := executor.buffers.insert executor.allocated buffer
              allocated := executor.allocated + 1 })

def prepareTransfer
    (options : UcxOptions)
    (executor : UcxExecutor β)
    (sessionId : String)
    (transferBytes : Nat)
    (allocation : Allocation) : Result UcxDiscoverInfo × UcxExecutor β :=
  if executor.started = false then
    (.error (makeUcxError "UCX executor not started"), executor)
  else
    match executor.registry.lookup sessionId with
    | none =>
        (.error (makeError .sessionNotFound
          ("UCX session not found: " ++ sessionId)), executor)
    | some entry =>
        if transferBytes = 0 then
          (.error (makeError .badRequest
            "PrepareTransfer: transfer_bytes must be > 0"), executor)
        else if options.maxMsgBytes < transferBytes then
          (.error (makeError .payloadTooLarge
            "object exceeds UCX max_msg_bytes"), executor)
        else
          match executor.bufferOf entry with
          | some (_, buffer) =>
              if entry.transferBytes ≠ transferBytes then
                (.error (makeError .badRequest
                  ("PrepareTransfer: transfer_bytes mismatch on retry: " ++
                    "expected " ++ toString entry.transferBytes ++ " got " ++
                    toString transferBytes)), executor)
              else (.ok (discoverInfo options buffer), executor)
          | none =>
              let size := roundUpPage (max transferBytes pageSize)
              match executor.acquireOrRegister size allocation with
              | (.error error, executor) => (.error error, executor)
              | (.ok (slot, buffer), executor) =>
                  (.ok (discoverInfo options buffer),
                    executor.attach sessionId entry slot transferBytes)

/-! ## Committing -/

section Commit

variable (iface : IBackend β) (options : UcxOptions)

/-- Write the buffer to the object.  The checksum is not verified. -/
def doCommitObject
    (backend : β)
    (entry : UcxSessionEntry)
    (buffer : RegisteredBuffer)
    (bytesTransferred : Nat)
    (_clientCrc32c : String) : Result UcxCommitInfo × β :=
  let view := buffer.view bytesTransferred
  match iface.writeRange backend entry.bucket entry.objectKey 0 view
      (some bytesTransferred) with
  | (.error error, backend) => (.error error, backend)
  | (.ok metadata, backend) => (.ok ⟨metadata.etag, metadata.version⟩, backend)

/-- Write the buffer to a part.  The checksum is not verified. -/
def doWritePartData
    (backend : β)
    (buffer : RegisteredBuffer)
    (backendUploadId : String)
    (partNumber bytesTransferred : Nat)
    (_clientCrc32c : String) : Result String × β :=
  let view := buffer.view bytesTransferred
  match iface.writePart backend backendUploadId partNumber 0 view with
  | (.error error, backend) => (.error error, backend)
  | (.ok etag, backend) => (.ok etag, backend)

/-- The backend call that a request makes from a buffer. -/
def backendCall
    (entry : UcxSessionEntry)
    (buffer : RegisteredBuffer)
    (request : CommitRequest) : BackendCall :=
  match request.operation with
  | .object =>
      .writeRange entry.bucket entry.objectKey 0
        (buffer.view request.bytesTransferred) request.bytesTransferred
  | .part backendUploadId partNumber =>
      .writePart backendUploadId partNumber 0
        (buffer.view request.bytesTransferred)

/-- Run the operation of a request. -/
def doCommit
    (backend : β)
    (entry : UcxSessionEntry)
    (buffer : RegisteredBuffer)
    (request : CommitRequest) : CommitResult × β :=
  match request.operation with
  | .object =>
      let (result, backend) := doCommitObject iface backend entry buffer
        request.bytesTransferred request.clientCrc32c
      (.object result, backend)
  | .part backendUploadId partNumber =>
      let (result, backend) := doWritePartData iface backend buffer
        backendUploadId partNumber request.bytesTransferred
        request.clientCrc32c
      (.part result, backend)

/-- Run the callback of a request. -/
def onDone
    (executor : UcxExecutor β)
    (request : CommitRequest)
    (result : CommitResult) : UcxExecutor β :=
  { executor with replies := executor.replies ++ [⟨request, result⟩] }

/-- Erase the session of a request and release the buffer of its entry. -/
def releaseAndErase
    (executor : UcxExecutor β)
    (request : CommitRequest)
    (entry : UcxSessionEntry) : UcxExecutor β :=
  let executor :=
    { executor with registry := executor.registry.erase request.sessionId }
  let executor := executor.releaseEntry options entry
  { executor with putInflight := executor.putInflight - 1 }

/-- Write the buffer of an entry to the backend, release the entry and run the
callback: the end of a commit, whoever runs it. -/
def finishCommit
    (executor : UcxExecutor β)
    (entry : UcxSessionEntry)
    (slot : Nat)
    (buffer : RegisteredBuffer)
    (request : CommitRequest) : UcxExecutor β :=
  let (result, backend) := doCommit iface executor.backend entry buffer request
  let write : Write :=
    { request
      serial := entry.serial
      slot
      call := backendCall entry buffer request
      result }
  let executor :=
    { executor with backend, writes := executor.writes ++ [write] }
  (executor.releaseAndErase options request entry).onDone request result

/-- A commit: finish at once when the data is there, and otherwise leave the
request to the active message.  True when the callback has run. -/
def commitAsync
    (sessionNotFound : String)
    (executor : UcxExecutor β)
    (request : CommitRequest) : Bool × UcxExecutor β :=
  match executor.registry.lookup request.sessionId with
  | none =>
      (true, executor.onDone request (request.operation.failure
        (makeError .sessionNotFound (sessionNotFound ++ request.sessionId))))
  | some entry =>
      match executor.bufferOf entry with
      | none =>
          (true, executor.onDone request (request.operation.failure
            (makeError .internal "UCX session buffer not allocated")))
      | some (slot, buffer) =>
          if entry.writeDone then
            (true, executor.finishCommit iface options entry slot buffer request)
          -- the flag is read a second time, under the lock of the entry
          else if entry.writeDone then
            (true, executor.finishCommit iface options entry slot buffer request)
          else
            (false,
              { executor with
                registry := executor.registry.insert request.sessionId
                  { entry with pendingCommit := some request } })

def commitObjectAsync
    (executor : UcxExecutor β)
    (sessionId : String)
    (bytesTransferred : Nat)
    (clientCrc32c : String)
    (onDone : Nat) : Bool × UcxExecutor β :=
  executor.commitAsync iface options "UCX CommitObject: session not found: "
    ⟨.object, sessionId, bytesTransferred, clientCrc32c, onDone⟩

def commitPartDataAsync
    (executor : UcxExecutor β)
    (sessionId backendUploadId : String)
    (partNumber bytesTransferred : Nat)
    (clientCrc32c : String)
    (onDone : Nat) : Bool × UcxExecutor β :=
  executor.commitAsync iface options "UCX CommitPartData: session not found: "
    ⟨.part backendUploadId partNumber, sessionId, bytesTransferred,
      clientCrc32c, onDone⟩

/-- The active message of a finished write: mark the session's entry, and run
the commit that waits for it. -/
def onAmWriteDone
    (executor : UcxExecutor β)
    (sessionId : String) : UcxExecutor β :=
  if sessionId = "" then executor
  else
    match executor.registry.lookup sessionId with
    | none => executor
    | some entry =>
        let executor :=
          { executor with
            registry := executor.registry.insert sessionId entry.marked }
        match entry.pendingCommit with
        | none => executor
        | some request =>
            match executor.bufferOf entry.marked with
            -- a waiting commit found a buffer, and it stays until the erasure
            | none => executor
            | some (slot, buffer) =>
                executor.finishCommit iface options entry.marked slot buffer
                  request

/-! ## The network card -/

/-- A remote write reaches the memory of a registered buffer.  It fails when
the buffer is no longer registered, or is too small. -/
def remoteWrite
    (executor : UcxExecutor β)
    (slot : Nat)
    (data : Bytes) : Option (UcxExecutor β) :=
  match executor.buffers.lookup slot with
  | none => none
  | some buffer =>
      if data.length ≤ buffer.capacity then
        some { executor with
          buffers := executor.buffers.insert slot (buffer.put data) }
      else none

/-! ## Stopping -/

/-- Stop a started executor: the idle buffers are unregistered and freed, and
the registry goes with its entries.  The buffers of the entries stay registered,
and their waiting commits are not run. -/
def stop (executor : UcxExecutor β) : UcxExecutor β :=
  if executor.started then
    { executor with
      started := false
      buffers := executor.pool.foldl (fun buffers slot => buffers.erase slot)
        executor.buffers
      pool := []
      registry := ∅ }
  else executor

/-! ## The machine of all handlers -/

/-- What reaches the executor. -/
inductive Event
  | sessionOpened (session : Session)
  | prepareTransfer (sessionId : String) (transferBytes : Nat)
      (allocation : Allocation)
  | remoteWrite (slot : Nat) (data : Bytes)
  | amWriteDone (sessionId : String)
  | commitObject (sessionId : String) (bytesTransferred : Nat)
      (clientCrc32c : String)
  | commitPart (sessionId backendUploadId : String)
      (partNumber bytesTransferred : Nat) (clientCrc32c : String)
  | abortSession (sessionId : String)

/-- The session an event names. -/
def Event.sessionId : Event → Option String
  | .sessionOpened session => some session.sessionId
  | .prepareTransfer sessionId _ _ => some sessionId
  | .remoteWrite _ _ => none
  | .amWriteDone sessionId => some sessionId
  | .commitObject sessionId _ _ => some sessionId
  | .commitPart sessionId _ _ _ _ => some sessionId
  | .abortSession sessionId => some sessionId

/-- Handle an event.  The callbacks of commit requests are numbered in the
order of their arrival. -/
def handle (executor : UcxExecutor β) : Event → Option (UcxExecutor β)
  | .sessionOpened session => some (executor.onSessionOpened session)
  | .prepareTransfer sessionId transferBytes allocation =>
      some (executor.prepareTransfer options sessionId transferBytes
        allocation).2
  | .remoteWrite slot data => executor.remoteWrite slot data
  | .amWriteDone sessionId =>
      some (executor.onAmWriteDone iface options sessionId)
  | .commitObject sessionId bytesTransferred clientCrc32c =>
      some (({ executor with requests := executor.requests + 1 }
        ).commitObjectAsync iface options sessionId bytesTransferred
          clientCrc32c executor.requests).2
  | .commitPart sessionId backendUploadId partNumber bytesTransferred
        clientCrc32c =>
      some (({ executor with requests := executor.requests + 1 }
        ).commitPartDataAsync iface options sessionId backendUploadId
          partNumber bytesTransferred clientCrc32c executor.requests).2
  | .abortSession sessionId =>
      some (executor.abortSession options sessionId).2

/-- The executor as a machine: any events, in any order. -/
def machine : Machine (UcxExecutor β) Event where
  initial executor := ∃ started backend, executor = init started backend
  step := handle iface options

end Commit

end UcxExecutor

end Ucx
end Gateway
end TurboAccess
