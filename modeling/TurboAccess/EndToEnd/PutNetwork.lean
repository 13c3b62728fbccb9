import TurboAccess.Client.Gds.PutAttempts
import TurboAccess.Gateway.Gds.PutSections
import TurboAccess.Lib.Network

/-!
# Writers and a gateway

Clients write objects on the GPU path, each with `PutObject` and all its
retries, over a network that loses, delays and repeats requests, and loses
answers.  The gateway runs any number of handlers in any order, and its sweeper
beside them; a handler works on a request that was sent.  Calls of other
clients, and what other services do to uploads and objects, are steps of the
gateway too.

What the environment does is a guard: which bytes a token stands for and that
the cuObject server transfers them all or fails, that no two sessions of
different objects have an identifier or a ticket in common, and that the others
write other objects.
-/

namespace TurboAccess
namespace EndToEnd

open Client (OpenSessionResponse PutPartRequest RpcOutcome)
open Client.Gds (BufferView ClientOptions SessionOpening TransferOutcome)
open Client.GdsTransferPath (PutCall)
open Gateway (Draw OpenSessionParams Session SessionStore makeKey)
open Gateway.Gds (Config ControlPlane Frame GdsChunkRequest Input Media PutFrame
  PutInput SameObject Transfer advancePut pullChunk resolveForGdsChunk)
open Proxy (OpenSessionRequest)

deriving instance DecidableEq for PutCall

/-! ## Messages on the wire -/

def parseDataFlow (text : String) : Gateway.DataFlow :=
  if text = "gpu-direct" then .gpuDirect
  else if text = "cpu-direct" then .cpuDirect
  else .none

def parseOperationType (text : String) : Gateway.OperationType :=
  if text = "PUT" then .put
  else if text = "HEAD" then .head
  else .get

/-- What the gateway makes of a request to open a session. -/
def toOpenSessionParams (request : OpenSessionRequest) : OpenSessionParams where
  sessionId := request.sessionId
  requestId := request.requestId
  bucket := request.bucket
  objectKey := request.objectKey
  op := parseOperationType request.opType
  dataFlow := parseDataFlow request.dataFlow
  bufferType := request.bufferType
  offset := request.offset
  expectedSize := request.expectedSize
  idempotencyKey := request.idempotencyKey
  isMultipartPart := request.isMultipartPart

/-- What the gateway answers when it has opened a session. -/
def fillOpenSessionResponse (session : Session) : OpenSessionResponse where
  requestId := session.requestId
  sessionId := session.sessionId
  ticket := session.ticket
  gatewayId := session.gatewayId

/-- The request of an opening as it arrives at the gateway. -/
def arrives (opening : SessionOpening) : OpenSessionParams :=
  toOpenSessionParams (Client.Gds.rpcOpenTransferSession opening)

/-! ## Writers -/

/-- A write: the request, the buffer, and the bytes in it. -/
structure PutJob where
  available : Bool
  options : ClientOptions
  request : PutPartRequest
  buffer : BufferView
  payload : Bytes
  size : payload.length = buffer.size
  word : buffer.size < wordModulus

namespace PutJob

/-- The object that is written. -/
def object (job : PutJob) : String :=
  makeKey job.request.bucket job.request.key

/-- The program of the client. -/
def program (job : PutJob) :
    Program PutCall PutCall.Answer (Client.Result TransferOutcome) :=
  Client.GdsTransferPath.putObject job.available job.options job.request
    job.buffer

end PutJob

/-- The programs of all clients; those without a job have none to run. -/
def programs (jobs : Nat → Option PutJob) (client : Nat) :
    Program PutCall PutCall.Answer (Client.Result TransferOutcome) :=
  match jobs client with
  | none => pure (.error (Client.makeNotInitialized "Client"))
  | some job => job.program

/-- An object that one of the clients writes. -/
def Target (jobs : Nat → Option PutJob) (id : String) : Prop :=
  ∃ client job, jobs client = some job ∧ job.object = id

/-! ## The gateway -/

/-- The handlers of a gateway, and the request of a client that each of them
works on. -/
structure Host where
  pool : Pool ControlPlane PutFrame
  serving : Nat → Option (Nat × PutCall)

/-- A handler begins to work on a request of a client that has arrived. -/
def TakesUp : PutCall → PutInput → Prop
  | .openSession opening, .call (.session (.create req _)) =>
      req = arrives opening
  | .gdsPut chunk, .call (.chunk .put request _) => request = chunk
  | .abortSession sessionId, .call (.abortSession aborted) =>
      aborted = sessionId
  | _, _ => False

instance (request : PutCall) (input : PutInput) :
    Decidable (TakesUp request input) := by
  unfold TakesUp
  split <;> infer_instance

/-- What a handler does next: take up a request, or go on, or begin a call of
someone else. -/
inductive HostInput
  | take (thread client : Nat) (request : PutCall) (input : PutInput)
  | go (thread : Nat) (input : PutInput)

section Steps

variable (config : Config)

/-- One step of the gateway. -/
def serve
    (sent : List (Nat × PutCall))
    (host : Host) : HostInput → Option Host
  | .take thread client request input =>
      if (client, request) ∈ sent ∧ TakesUp request input ∧
          host.pool.threads thread = .call (.call .idle) then
        (host.pool.step (advancePut config) (thread, input)).map fun pool =>
          ⟨pool, Function.update host.serving thread (some (client, request))⟩
      else none
  | .go thread input =>
      (host.pool.step (advancePut config) (thread, input)).map fun pool =>
        ⟨pool,
          if host.pool.threads thread = .call (.call .idle) then
            Function.update host.serving thread none
          else host.serving⟩

/-- The session that a handler has opened. -/
def opened : PutFrame → Option Gateway.SessionPtr
  | .call (.opened (.ok ptr)) => some ptr
  | _ => none

/-- The answers a client may get: that its call has failed, what the handler of
its request has answered, and anything from a clock, from the random generator
and from the library that makes tokens. -/
def possible
    (host : Host)
    (client thread : Nat) : Request PutCall PutCall.Answer → Bool
  | ⟨.openSession opening, .answered response⟩ =>
      host.serving thread = some (client, .openSession opening) ∧
        (opened (host.pool.threads thread)).map (fun ptr =>
          fillOpenSessionResponse (host.pool.shared.sessions.objects ptr)) =
            some response
  | ⟨.gdsPut chunk, .answered response⟩ =>
      host.serving thread = some (client, .gdsPut chunk) ∧
        host.pool.threads thread = .call (.answered (.ok response))
  | _ => true

/-- A gateway over empty indexes of sessions. -/
def Host.Initial (host : Host) : Prop :=
  ∃ gatewayId sessionTtl media,
    host =
      ⟨⟨⟨.init gatewayId sessionTtl, media⟩, fun _ => .call (.call .idle)⟩,
        fun _ => none⟩

/-- Writers and their gateway. -/
def machine (jobs : Nat → Option PutJob) :
    Machine
      (Network Host PutCall PutCall.Answer (Client.Result TransferOutcome))
      (Network.Event HostInput Nat PutCall PutCall.Answer) :=
  Network.machine possible (serve config) Host.Initial (programs jobs)

end Steps

/-! ## The environment -/

/-- The object of a session. -/
def objectOf (session : Session) : String :=
  makeKey session.bucket session.objectKey

/-- A new session has its identifier and its ticket in common with sessions of
the same object only. -/
def Distinguished
    (sessions : SessionStore)
    (req : OpenSessionParams)
    (draw : Draw) : Prop :=
  sessions.lookupKey req = none → ∀ ptr < sessions.allocated,
    ((sessions.objects ptr).sessionId =
          (sessions.newSession req draw).sessionId ∨
        (sessions.objects ptr).ticket =
          (sessions.newSession req draw).ticket) →
      objectOf (sessions.objects ptr) = makeKey req.bucket req.objectKey

section Environment

variable (jobs : Nat → Option PutJob) (memory : String → Bytes)

/-- What a handler draws and is answered: names that tell sessions apart, and
all bytes that a token stands for, or none. -/
def Faithful (plane : ControlPlane) (frame : PutFrame) : PutInput → Prop
  | .call (.session (.create req draw)) =>
      Distinguished plane.sessions req draw
  | .call (.transfer transfer) =>
      ∀ request ptr bytes, frame = .call (.prepared .put request ptr) →
        pullChunk transfer.answers = .ok bytes →
          bytes = memory request.rdmaToken
  | _ => True

/-- What others ask of the gateway is about other objects. -/
def Foreign (plane : ControlPlane) : PutInput → Prop
  | .call (.session (.create req _)) =>
      ¬Target jobs (makeKey req.bucket req.objectKey)
  | .call (.chunk .put request _) =>
      request.uploadId = "" → ∀ ptr,
        resolveForGdsChunk plane.sessions request.sessionId
            request.transferTicket = some ptr →
          ¬Target jobs (objectOf (plane.sessions.objects ptr))
  | .call (.others media) =>
      ∀ id, Target jobs id →
        SameObject id plane.backend media.uploads.backend
  | _ => True

/-- What is assumed of every event. -/
def Environment
    (network :
      Network Host PutCall PutCall.Answer (Client.Result TransferOutcome)) :
    Network.Event HostInput Nat PutCall PutCall.Answer → Prop
  | .send _ => True
  | .receive client _ oracle =>
      ∀ job ptr size rest token, jobs client = some job →
        network.clients client = .call (.acquireToken ptr size) rest →
          ptr = job.buffer.data → size = job.buffer.size →
            oracle (.acquireToken ptr size) = .ok token →
              memory token = job.payload
  | .serve (.take thread _ _ input) =>
      Faithful memory network.service.pool.shared
        (network.service.pool.threads thread) input
  | .serve (.go thread input) =>
      Faithful memory network.service.pool.shared
          (network.service.pool.threads thread) input ∧
        Foreign jobs network.service.pool.shared input

end Environment

end EndToEnd
end TurboAccess
