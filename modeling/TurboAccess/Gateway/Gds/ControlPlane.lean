import TurboAccess.Gateway.Gds.Executor
import TurboAccess.Gateway.Session.Interleaving

/-!
# Chunks on the control plane

The requests of the control plane that concern sessions of the GPU path: opening
a session, transferring a chunk, and aborting a session, beside the sweeper.

Any number of calls run concurrently.  Opening a session and sweeping run the
sections of the session store.  A chunk has two sections: the preparation, which
resolves its session, and the transfer, which reads or writes the backend; what
happens to the session in between is up to the other calls.  What the other
services of the gateway do to the uploads and the backend is a step of its own.
-/

namespace TurboAccess
namespace Gateway
namespace Gds

/-! ## Requests and answers -/

/-- What the handlers read of a chunk request. -/
structure GdsChunkRequest where
  sessionId : String
  transferTicket : String
  bucket : String
  objectKey : String
  checksumPolicy : String
  chunkOffset : Nat
  chunkSize : Nat
  rdmaToken : String
  uploadId : String
  partNumber : Nat
  deriving DecidableEq

/-- Answer to a chunk request. -/
structure GdsChunkResponse where
  selectedGateway : String
  gatewayId : String
  transferStatus : String
  rdmaReply : String
  etag : String
  version : String
  crc32c : UInt32
  deriving DecidableEq

/-- A chunk is answered, or fails with a text. -/
abbrev ChunkAnswer := Except String GdsChunkResponse

/-- Answer of a chunk that was transferred. -/
def fillGdsResponse
    (gatewayId rdmaReply etag version : String)
    (crc32c : UInt32) : GdsChunkResponse where
  selectedGateway := gatewayId
  gatewayId := gatewayId
  transferStatus := "completed"
  rdmaReply := rdmaReply
  etag := etag
  version := version
  crc32c := crc32c

/-- The two chunk requests. -/
inductive ChunkOp
  | get
  | put
  deriving DecidableEq

/-! ## Preparing a chunk -/

/-- The session of a chunk: by identifier, or else by ticket. -/
def resolveForGdsChunk
    (sessions : SessionStore)
    (sessionId transferTicket : String) : Option SessionPtr :=
  let byId :=
    if sessionId = "" then none else (sessions.find sessionId).toOption
  let byTicket :=
    if transferTicket = "" then none
    else (sessions.findByTicket transferTicket).toOption
  byId.or byTicket

/-- Resolve the session of a chunk and mark it as in use. -/
def prepareGdsChunk
    (sessions : SessionStore)
    (request : GdsChunkRequest)
    (available : Bool) : Except String SessionPtr × SessionStore :=
  if available = false then
    (.error "gds-cuobject service is not available on gateway", sessions)
  else
    match resolveForGdsChunk sessions request.sessionId
        request.transferTicket with
    | none => (.error "gds-cuobject session not found", sessions)
    | some ptr =>
        if request.rdmaToken = "" then
          (.error "missing rdma token for gds-cuobject request", sessions)
        else
          (.ok ptr, (sessions.bumpActive (sessions.objects ptr).sessionId).2)

/-! ## Transferring a chunk -/

/-- The session store, and the uploads and the backend beside it. -/
structure ControlPlane where
  sessions : SessionStore
  media : Media

namespace ControlPlane

/-- The backend of a gateway. -/
abbrev backend (plane : ControlPlane) : CompositeBackend :=
  plane.media.uploads.backend

/-- Replace the backend. -/
def withBackend (plane : ControlPlane) (backend : CompositeBackend) :
    ControlPlane :=
  { plane with
    media :=
      { plane.media with uploads := { plane.media.uploads with backend } } }

/-- Mark the session of a failed chunk, found again under its identifier. -/
def markFailed (plane : ControlPlane) (ptr : SessionPtr) : ControlPlane :=
  { plane with
    sessions :=
      (plane.sessions.markFailed (plane.sessions.objects ptr).sessionId).2 }

end ControlPlane

/-- What a transfer depends on besides the state: the answers of the cuObject
server, and three readings of clocks. -/
structure Transfer where
  answers : CuObjAnswers
  now : Nat
  backendNow : Nat
  partNow : Nat

/-- The outcome of a transfer, with the backend call it made. -/
abbrev Transferred := ChunkAnswer × ControlPlane × Option BackendCall

/-- What the handlers of one gateway are made with: the digest, the options of
the executor, and whether there is a handler for parts. -/
structure Config where
  md5 : Bytes → Bytes
  options : GdsOptions
  multipartHandler : Bool

section Transfers

variable (config : Config)

/-- Push a chunk of an object to the client. -/
def transferGet
    (plane : ControlPlane)
    (ptr : SessionPtr)
    (request : GdsChunkRequest)
    (transfer : Transfer) : Transferred :=
  let session := plane.sessions.objects ptr
  match plane.backend.head request.bucket request.objectKey with
  | .error error => (.error error.message, plane.markFailed ptr, none)
  | .ok head =>
      match getChunk config.options plane.backend session request.chunkOffset
          request.chunkSize transfer.answers with
      | (.error error, call) =>
          (.error error.message, plane.markFailed ptr, call)
      | (.ok chunk, call) =>
          (.ok (fillGdsResponse session.gatewayId chunk.rdmaReply head.etag
            head.version chunk.crc32c), plane, call)

/-- Pull a chunk from the client into a part of an upload. -/
def transferPart
    (plane : ControlPlane)
    (ptr : SessionPtr)
    (request : GdsChunkRequest)
    (transfer : Transfer) : Transferred :=
  if config.multipartHandler = false then
    (.error "gds multipart handler not available", plane, none)
  else
    let session := plane.sessions.objects ptr
    match uploadPart config.md5 config.options plane.media request.uploadId
        request.partNumber request.chunkOffset request.chunkSize
        request.checksumPolicy transfer.answers transfer.backendNow
        transfer.partNow with
    | (.error error, media, call) =>
        (.error error.message, ({ plane with media }).markFailed ptr, call)
    | (.ok part, media, call) =>
        (.ok (fillGdsResponse session.gatewayId part.rdmaReply part.partEtag ""
          part.crc32c), { plane with media }, call)

/-- Pull a chunk from the client into the object of the session. -/
def transferObject
    (plane : ControlPlane)
    (ptr : SessionPtr)
    (request : GdsChunkRequest)
    (transfer : Transfer) : Transferred :=
  let session := plane.sessions.objects ptr
  match putChunk config.options plane.backend session request.chunkOffset
      request.chunkSize transfer.answers transfer.backendNow with
  | (.error error, backend, call) =>
      (.error error.message, (plane.withBackend backend).markFailed ptr, call)
  | (.ok metadata, backend, call) =>
      (.ok (fillGdsResponse session.gatewayId "gds-cuobject-rdma-read"
        metadata.etag metadata.version 0), plane.withBackend backend, call)

/-- The transfer of a prepared chunk: a read, a write of a part when the request
names an upload, or a write of the object. -/
def transferChunk
    (plane : ControlPlane)
    (op : ChunkOp)
    (ptr : SessionPtr)
    (request : GdsChunkRequest)
    (transfer : Transfer) : Transferred :=
  match op with
  | .get => transferGet config plane ptr request transfer
  | .put =>
      if request.uploadId ≠ "" then
        transferPart config plane ptr request transfer
      else transferObject config plane ptr request transfer

end Transfers

/-! ## Opening and aborting a session -/

/-- The executors of the two data paths: whether there is a UCX executor, and
whether there is a GDS executor and it is available. -/
structure Executors where
  ucx : Bool
  gds : Option Bool
  deriving DecidableEq

/-- The hook of the data path of a session, and the end of opening it.  The hook
of the CPU path always succeeds, and touches neither sessions nor objects. -/
def openHook
    (plane : ControlPlane)
    (ptr : SessionPtr)
    (executors : Executors)
    (now : Nat) : Result SessionPtr × ControlPlane :=
  let session := plane.sessions.objects ptr
  let (hook, backend) : Option (Result Bool) × CompositeBackend :=
    match session.dataFlow with
    | .gpuDirect =>
        match executors.gds with
        | none => (none, plane.backend)
        | some available =>
            let (result, backend) :=
              onSessionOpened plane.backend session available now
            (some result, backend)
    | .cpuDirect =>
        (if executors.ucx then some (.ok true) else none, plane.backend)
    | .none => (none, plane.backend)
  let (result, sessions) := plane.sessions.finishOpen ptr hook
  (result, { plane.withBackend backend with sessions })

/-- Abort a session; whether it was found. -/
def abortSession (plane : ControlPlane) (sessionId : String) :
    Bool × ControlPlane :=
  let (marked, sessions) := plane.sessions.markFailed sessionId
  (marked.success, { plane with sessions })

/-! ## The machine -/

/-- A call: in the session store, with an opened session, with a prepared chunk,
or answered. -/
inductive Frame
  | call (frame : SessionPool.Frame)
  | opened (result : Result SessionPtr)
  | prepared (op : ChunkOp) (request : GdsChunkRequest) (ptr : SessionPtr)
  | answered (answer : ChunkAnswer)
  | aborted (erased : Bool)
  deriving DecidableEq

/-- What the session store sees of a frame. -/
def Frame.inStore : Frame → SessionPool.Frame
  | .call frame => frame
  | _ => .idle

/-- What drives a frame. -/
inductive Input
  | session (input : SessionPool.Input)
  | hook (executors : Executors) (now : Nat)
  | chunk (op : ChunkOp) (request : GdsChunkRequest) (available : Bool)
  | transfer (transfer : Transfer)
  | abortSession (sessionId : String)
  | others (media : Media)

section Machine

variable (config : Config)

/-- Next section of a frame. -/
def advance (plane : ControlPlane) :
    Frame → Input → Option (ControlPlane × Frame)
  | .call frame, .session input =>
      (SessionPool.advance plane.sessions frame input).map
        fun (sessions, frame) => ({ plane with sessions }, .call frame)
  | .call (.created _ (.ok ptr)), .hook executors now =>
      let (result, plane) := openHook plane ptr executors now
      some (plane, .opened result)
  | .call .idle, .chunk op request available =>
      match prepareGdsChunk plane.sessions request available with
      | (.error message, sessions) =>
          some ({ plane with sessions }, .answered (.error message))
      | (.ok ptr, sessions) =>
          some ({ plane with sessions }, .prepared op request ptr)
  | .prepared op request ptr, .transfer transfer =>
      let (answer, plane, _) :=
        transferChunk config plane op ptr request transfer
      some (plane, .answered answer)
  | .call .idle, .abortSession sessionId =>
      let (erased, plane) := abortSession plane sessionId
      some (plane, .aborted erased)
  | .call .idle, .others media => some ({ plane with media }, .call .idle)
  | _, _ => none

/-- All interleavings of calls over an empty session store. -/
def machine : Machine (Pool ControlPlane Frame) (Nat × Input) where
  initial := fun pool => ∃ gatewayId sessionTtl media,
    pool = ⟨⟨.init gatewayId sessionTtl, media⟩, fun _ => .call .idle⟩
  step := Pool.step (advance config)

end Machine

/-! ## What one step can do -/

/-- The steps of a frame. -/
inductive Steps (config : Config) (plane : ControlPlane) :
    Frame → Input → ControlPlane → Frame → Prop
  | session (before after : SessionPool.Frame) (input : SessionPool.Input)
      (sessions : SessionStore)
      (moved : SessionPool.advance plane.sessions before input =
        some (sessions, after)) :
      Steps config plane (.call before) (.session input)
        { plane with sessions } (.call after)
  | hook (req : OpenSessionParams) (ptr : SessionPtr) (executors : Executors)
      (now : Nat) :
      Steps config plane (.call (.created req (.ok ptr)))
        (.hook executors now) (openHook plane ptr executors now).2
        (.opened (openHook plane ptr executors now).1)
  | refused (op : ChunkOp) (request : GdsChunkRequest) (available : Bool)
      (message : String)
      (failed : (prepareGdsChunk plane.sessions request available).1 =
        .error message) :
      Steps config plane (.call .idle) (.chunk op request available)
        { plane with
          sessions := (prepareGdsChunk plane.sessions request available).2 }
        (.answered (.error message))
  | prepared (op : ChunkOp) (request : GdsChunkRequest) (available : Bool)
      (ptr : SessionPtr)
      (resolved : (prepareGdsChunk plane.sessions request available).1 =
        .ok ptr) :
      Steps config plane (.call .idle) (.chunk op request available)
        { plane with
          sessions := (prepareGdsChunk plane.sessions request available).2 }
        (.prepared op request ptr)
  | transferred (op : ChunkOp) (request : GdsChunkRequest) (ptr : SessionPtr)
      (transfer : Transfer) :
      Steps config plane (.prepared op request ptr) (.transfer transfer)
        (transferChunk config plane op ptr request transfer).2.1
        (.answered (transferChunk config plane op ptr request transfer).1)
  | aborted (sessionId : String) :
      Steps config plane (.call .idle) (.abortSession sessionId)
        (abortSession plane sessionId).2
        (.aborted (abortSession plane sessionId).1)
  | others (media : Media) :
      Steps config plane (.call .idle) (.others media) { plane with media }
        (.call .idle)

theorem steps_of_advance
    {config : Config}
    {plane next : ControlPlane}
    {before after : Frame}
    {input : Input}
    (moved : advance config plane before input = some (next, after)) :
    Steps config plane before input next after := by
  revert moved
  fun_cases advance config plane before input
  all_goals
    intro moved
    simp only [Option.map_eq_some_iff, Option.some.injEq, Prod.mk.injEq,
      Prod.exists, reduceCtorEq] at moved
  case case1 frame input =>
    obtain ⟨sessions, frame', moved, rfl, rfl⟩ := moved
    exact .session frame frame' input sessions moved
  all_goals obtain ⟨rfl, rfl⟩ := moved
  case case2 req ptr executors now result opened hooked =>
    have step : Steps config plane _ _ _ _ := .hook req ptr executors now
    rw [hooked] at step
    exact step
  case case3 op request available message sessions refused =>
    have step : Steps config plane _ _ _ _ :=
      .refused op request available message (by rw [refused])
    rw [refused] at step
    exact step
  case case4 op request available ptr sessions resolved =>
    have step : Steps config plane _ _ _ _ :=
      .prepared op request available ptr (by rw [resolved])
    rw [resolved] at step
    exact step
  case case5 op request ptr transfer answer after call transferred =>
    have step : Steps config plane _ _ _ _ :=
      .transferred op request ptr transfer
    rw [transferred] at step
    exact step
  case case6 sessionId erased after aborted =>
    have step : Steps config plane _ _ _ _ := .aborted sessionId
    rw [aborted] at step
    exact step
  case case7 media => exact .others media

end Gds
end Gateway
end TurboAccess
